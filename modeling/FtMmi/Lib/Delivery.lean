/-
FtMmi.Lib.Delivery — delivering something to each member of a set exactly
once.

A publisher keeps a list of recipients. `Delivers S recipients` says that
going through the list reaches each member of `S` once and nobody else;
the lemmas say what becomes of it when the list and the set change.
`delivers_inter_iff` is the exact one: when the set loses members and the
list is left as it is, the list still delivers only if none of the lost
ones is on it.
-/
import Mathlib

namespace FtMmi.Lib

variable {σ : Type*}

/-- Going through `recipients` reaches each member of `S` exactly once, and
nobody else. -/
structure Delivers (S : Set σ) (recipients : List σ) : Prop where
  nodup : recipients.Nodup
  mem_iff : ∀ x, x ∈ recipients ↔ x ∈ S

theorem delivers_nil : Delivers (∅ : Set σ) [] := ⟨List.nodup_nil, fun _ => by simp⟩

theorem Delivers.count [DecidableEq σ] {S : Set σ} {recipients : List σ}
    (h : Delivers S recipients) {x : σ} (hx : x ∈ S) : recipients.count x = 1 :=
  List.count_eq_one_of_mem h.nodup ((h.mem_iff x).mpr hx)

theorem Delivers.congr {S T : Set σ} {recipients : List σ} (h : Delivers S recipients)
    (hST : ∀ x, x ∈ S ↔ x ∈ T) : Delivers T recipients :=
  ⟨h.nodup, fun x => (h.mem_iff x).trans (hST x)⟩

/-- A new member is put at the end, unless it is there already. -/
theorem Delivers.insert [DecidableEq σ] {S : Set σ} {recipients : List σ}
    (h : Delivers S recipients) (x : σ) :
    Delivers (insert x S) (if x ∈ recipients then recipients else recipients ++ [x]) := by
  by_cases hx : x ∈ recipients
  · rw [if_pos hx]
    refine h.congr fun y => ?_
    constructor
    · exact fun hy => Set.mem_insert_of_mem x hy
    · rintro (rfl | hy)
      · exact (h.mem_iff y).mp hx
      · exact hy
  · rw [if_neg hx]
    refine ⟨h.nodup.append (List.nodup_singleton x) ?_, fun y => ?_⟩
    · rw [List.disjoint_singleton]
      exact hx
    · rw [List.mem_append, List.mem_singleton, h.mem_iff, Set.mem_insert_iff]
      exact Or.comm

theorem Delivers.erase [DecidableEq σ] {S : Set σ} {recipients : List σ}
    (h : Delivers S recipients) (x : σ) : Delivers (S \ {x}) (recipients.erase x) := by
  refine ⟨h.nodup.erase x, fun y => ?_⟩
  rw [h.nodup.mem_erase_iff, h.mem_iff, Set.mem_sdiff, Set.mem_singleton_iff]
  exact And.comm

/-- A list that is not told of lost members still delivers precisely if it
names none of them. -/
theorem delivers_inter_iff {S : Set σ} {recipients : List σ} (h : Delivers S recipients)
    (kept : Set σ) : Delivers (S ∩ kept) recipients ↔ ∀ x ∈ recipients, x ∈ kept := by
  constructor
  · intro h' x hx
    exact ((h'.mem_iff x).mp hx).2
  · intro hkept
    refine ⟨h.nodup, fun x => ?_⟩
    constructor
    · intro hx
      exact ⟨(h.mem_iff x).mp hx, hkept x hx⟩
    · intro hx
      exact (h.mem_iff x).mpr hx.1

end FtMmi.Lib
