/-
FtMmi.Lib.FrameStream — frames laid back to back in a stream, taken out a
bounded number at a time.

`ls : List Nat` are the lengths of the frames. `prefixBytes ls k` is where
the `k`-th frame ends and `framesWithin ls p` how many frames end within
the first `p` units of the stream; the two are adjoint
(`le_framesWithin_iff`).

`served limit arrived` is a server that, round by round, serves what has
arrived but at most `limit` items a round. Its backlog is a recurrence;
`served_le` and `exists_served_eq` solve it: what is served by round `i`
is the least of `arrived j + limit * (i - j)` over the rounds `j ≤ i`.
`prefixBytes_served_iff` is the consequence a bounded buffer needs: a
bound on the unserved rest of the stream, stated without the recurrence.
-/
import Mathlib

namespace FtMmi.Lib

/-! ## Frame boundaries -/

/-- Where the `k`-th frame ends. -/
def prefixBytes (ls : List Nat) (k : Nat) : Nat := (ls.take k).sum

/-- How many frames end within the first `p` units. -/
def framesWithin : List Nat → Nat → Nat
  | [], _ => 0
  | l :: ls, p => if l ≤ p then framesWithin ls (p - l) + 1 else 0

@[simp] theorem prefixBytes_zero (ls : List Nat) : prefixBytes ls 0 = 0 := rfl

@[simp] theorem prefixBytes_cons_succ (l : Nat) (ls : List Nat) (k : Nat) :
    prefixBytes (l :: ls) (k + 1) = l + prefixBytes ls k := by
  simp [prefixBytes]

theorem prefixBytes_add (ls : List Nat) (j k : Nat) :
    prefixBytes ls (j + k) = prefixBytes ls j + prefixBytes (ls.drop j) k := by
  rw [prefixBytes, List.take_add, List.sum_append]
  rfl

theorem prefixBytes_mono (ls : List Nat) {j k : Nat} (h : j ≤ k) :
    prefixBytes ls j ≤ prefixBytes ls k := by
  obtain ⟨d, rfl⟩ := Nat.exists_eq_add_of_le h
  rw [prefixBytes_add]
  omega

/-- `framesWithin` is the upper adjoint of `prefixBytes`. -/
theorem le_framesWithin_iff (ls : List Nat) (p k : Nat) :
    k ≤ framesWithin ls p ↔ k ≤ ls.length ∧ prefixBytes ls k ≤ p := by
  induction ls generalizing p k with
  | nil =>
    simp only [framesWithin, List.length_nil, Nat.le_zero_eq]
    constructor
    · rintro rfl; exact ⟨rfl, Nat.zero_le _⟩
    · exact fun h => h.1
  | cons l ls ih =>
    cases k with
    | zero => simp
    | succ k =>
      simp only [framesWithin, prefixBytes_cons_succ, List.length_cons]
      split
      · rename_i hl
        rw [Nat.add_le_add_iff_right, ih]
        omega
      · rename_i hl
        omega

theorem framesWithin_le_length (ls : List Nat) (p : Nat) : framesWithin ls p ≤ ls.length :=
  ((le_framesWithin_iff ls p _).mp (Nat.le_refl _)).1

theorem prefixBytes_framesWithin_le (ls : List Nat) (p : Nat) :
    prefixBytes ls (framesWithin ls p) ≤ p :=
  ((le_framesWithin_iff ls p _).mp (Nat.le_refl _)).2

theorem framesWithin_mono (ls : List Nat) {p q : Nat} (h : p ≤ q) :
    framesWithin ls p ≤ framesWithin ls q := by
  rw [le_framesWithin_iff]
  exact ⟨framesWithin_le_length ls p,
    Nat.le_trans (prefixBytes_framesWithin_le ls p) h⟩

/-- The frame after the last complete one is cut by position `p`. -/
theorem lt_prefixBytes_succ (ls : List Nat) (p : Nat) (h : framesWithin ls p < ls.length) :
    p < prefixBytes ls (framesWithin ls p + 1) := by
  have hnot : ¬ framesWithin ls p + 1 ≤ framesWithin ls p := by omega
  rw [le_framesWithin_iff] at hnot
  omega

/-- Counting from behind the first `k` frames. -/
theorem framesWithin_drop (ls : List Nat) (p k : Nat) (h : k ≤ framesWithin ls p) :
    framesWithin (ls.drop k) (p - prefixBytes ls k) = framesWithin ls p - k := by
  have hk := (le_framesWithin_iff ls p k).mp h
  apply Nat.le_antisymm
  · have hb := prefixBytes_framesWithin_le (ls.drop k) (p - prefixBytes ls k)
    have hl := framesWithin_le_length (ls.drop k) (p - prefixBytes ls k)
    rw [List.length_drop] at hl
    have : k + framesWithin (ls.drop k) (p - prefixBytes ls k) ≤ framesWithin ls p := by
      rw [le_framesWithin_iff, prefixBytes_add]
      omega
    omega
  · rw [le_framesWithin_iff, List.length_drop]
    have hl := framesWithin_le_length ls p
    have hb := prefixBytes_framesWithin_le ls p
    have hsplit : framesWithin ls p = k + (framesWithin ls p - k) := by omega
    rw [hsplit, prefixBytes_add] at hb
    omega

/-! ## Serving at most `limit` frames a round -/

/-- How many items are served after `i` rounds when `arrived i` have
arrived by then and a round serves at most `limit`. -/
def served (limit : Nat) (arrived : Nat → Nat) : Nat → Nat
  | 0 => 0
  | i + 1 => min (served limit arrived i + limit) (arrived (i + 1))

theorem served_le (limit : Nat) (arrived : Nat → Nat) {i j : Nat} (h : j ≤ i) :
    served limit arrived i ≤ arrived j + limit * (i - j) := by
  induction i with
  | zero => exact Nat.zero_le _
  | succ i ih =>
    rw [served]
    rcases Nat.lt_or_eq_of_le h with hj | rfl
    · have hle := ih (by omega)
      have hsub : limit * (i + 1 - j) = limit * (i - j) + limit := by
        rw [Nat.succ_sub (by omega), Nat.mul_succ]
      omega
    · simp

/-- The bound of `served_le` is attained. -/
theorem exists_served_eq (limit : Nat) (arrived : Nat → Nat) (h0 : arrived 0 = 0) (i : Nat) :
    ∃ j ≤ i, served limit arrived i = arrived j + limit * (i - j) := by
  induction i with
  | zero => exact ⟨0, Nat.le_refl _, by simp [served, h0]⟩
  | succ i ih =>
    obtain ⟨j, hj, heq⟩ := ih
    by_cases hcap : served limit arrived i + limit ≤ arrived (i + 1)
    · refine ⟨j, by omega, ?_⟩
      rw [served, Nat.min_eq_left hcap, heq, Nat.succ_sub hj, Nat.mul_succ]
      omega
    · exact ⟨i + 1, Nat.le_refl _, by rw [served, Nat.min_eq_right (by omega)]; simp⟩

/-- A bound on how far the stream position `p` is ahead of the last frame
served, without the recurrence. -/
theorem prefixBytes_served_iff (ls : List Nat) (limit : Nat) (arrived : Nat → Nat)
    (h0 : arrived 0 = 0) (i p room : Nat) :
    p ≤ room + prefixBytes ls (served limit arrived i) ↔
      ∀ j ≤ i, p ≤ room + prefixBytes ls (arrived j + limit * (i - j)) := by
  constructor
  · intro h j hj
    have hmono := prefixBytes_mono ls (served_le limit arrived hj)
    omega
  · intro h
    obtain ⟨j, hj, heq⟩ := exists_served_eq limit arrived h0 i
    rw [heq]
    exact h j hj

end FtMmi.Lib
