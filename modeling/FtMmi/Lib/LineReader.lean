/-
FtMmi.Lib.LineReader — reading lines one after another until one of them
is refused, or stops the reader with an exception.

What a line does to the reader may depend on what was read before, but not
whether it is accepted, refused or thrown on. So all lines are accepted
precisely if each is (`readLines_isAccepted_iff`), and a line throws only
if the reader gets to it (`readLines_threw_iff`).
-/
import Mathlib

namespace FtMmi.Lib

/-- How a line ends, and then a file. -/
inductive Outcome (σ : Type*) where
  | threw
  | refused (s : σ)
  | accepted (s : σ)

namespace Outcome

variable {σ : Type*}

def IsAccepted (o : Outcome σ) : Prop := ∃ s, o = .accepted s

@[simp] theorem isAccepted_accepted (s : σ) : (accepted s).IsAccepted := ⟨s, rfl⟩

@[simp] theorem not_isAccepted_refused (s : σ) : ¬ (refused s).IsAccepted := fun ⟨_, h⟩ => nomatch h

@[simp] theorem not_isAccepted_threw : ¬ (threw : Outcome σ).IsAccepted := fun ⟨_, h⟩ => nomatch h

/-! A line that is skipped, is an item, or is neither. -/

variable {ι : Type*} {o : Outcome σ} {Skipped : Prop} {Item : ι → Prop}

theorem isAccepted_iff_of_items {Accepts : ι → Prop} (hskip : Skipped → o.IsAccepted)
    (hitem : ∀ i, Item i → (o.IsAccepted ↔ Accepts i))
    (hneither : ¬ Skipped → (∀ i, ¬ Item i) → ¬ o.IsAccepted) :
    o.IsAccepted ↔ Skipped ∨ ∃ i, Item i ∧ Accepts i := by
  constructor
  · intro h
    by_cases hs : Skipped
    · exact .inl hs
    · by_contra hnot
      refine hneither hs (fun i hi => ?_) h
      exact hnot (.inr ⟨i, hi, (hitem i hi).mp h⟩)
  · rintro (hs | ⟨i, hi, h⟩)
    · exact hskip hs
    · exact (hitem i hi).mpr h

theorem threw_iff_of_items {Throws : ι → Prop} (hskip : Skipped → o.IsAccepted)
    (hitem : ∀ i, Item i → (o = .threw ↔ Throws i))
    (hneither : ¬ Skipped → (∀ i, ¬ Item i) → o ≠ .threw) :
    o = .threw ↔ ∃ i, Item i ∧ Throws i := by
  constructor
  · intro h
    by_contra hnot
    refine hneither (fun hs => ?_) (fun i hi => hnot ⟨i, hi, (hitem i hi).mp h⟩) h
    obtain ⟨s, hs⟩ := hskip hs
    rw [h] at hs
    cases hs
  · rintro ⟨i, hi, h⟩
    exact (hitem i hi).mpr h

end Outcome

variable {σ L : Type*} {read : σ → L → Outcome σ} {Accepts Throws : L → Prop}

def readLines (read : σ → L → Outcome σ) (s : σ) : List L → Outcome σ
  | [] => .accepted s
  | line :: lines =>
      match read s line with
      | .accepted s => readLines read s lines
      | .refused s => .refused s
      | .threw => .threw

/-- The lines before it are accepted. -/
def Reaches (Accepts : L → Prop) (lines : List L) (line : L) : Prop :=
  ∃ before after, lines = before ++ line :: after ∧ ∀ earlier ∈ before, Accepts earlier

theorem reaches_cons_iff {first line : L} {lines : List L} :
    Reaches Accepts (first :: lines) line ↔
      line = first ∨ Accepts first ∧ Reaches Accepts lines line := by
  constructor
  · rintro ⟨before, after, heq, hbefore⟩
    cases before with
    | nil => exact .inl (List.head_eq_of_cons_eq heq).symm
    | cons earlier before =>
      obtain ⟨rfl, rfl⟩ := List.cons.inj heq
      obtain ⟨hfirst, hrest⟩ := List.forall_mem_cons.mp hbefore
      exact .inr ⟨hfirst, before, after, rfl, hrest⟩
  · rintro (rfl | ⟨hfirst, before, after, rfl, hbefore⟩)
    · exact ⟨[], lines, rfl, fun _ h => nomatch h⟩
    · exact ⟨first :: before, after, rfl, List.forall_mem_cons.mpr ⟨hfirst, hbefore⟩⟩

theorem readLines_isAccepted_iff (hread : ∀ s line, (read s line).IsAccepted ↔ Accepts line)
    (s : σ) (lines : List L) :
    (readLines read s lines).IsAccepted ↔ ∀ line ∈ lines, Accepts line := by
  induction lines generalizing s with
  | nil => simp [readLines]
  | cons line lines ih =>
    rw [List.forall_mem_cons, ← hread s line, readLines]
    cases read s line with
    | threw => simp
    | refused s' => simp
    | accepted s' => simpa using ih s'

theorem readLines_threw_iff (hread : ∀ s line, (read s line).IsAccepted ↔ Accepts line)
    (hthrows : ∀ s line, read s line = .threw ↔ Throws line) (s : σ) (lines : List L) :
    readLines read s lines = .threw ↔ ∃ line, Reaches Accepts lines line ∧ Throws line := by
  induction lines generalizing s with
  | nil => simp [readLines, Reaches]
  | cons line lines ih =>
    simp only [reaches_cons_iff, or_and_right, exists_or, exists_eq_left, and_assoc,
      exists_and_left, ← hthrows s line, ← hread s line]
    rw [readLines]
    cases read s line with
    | threw => simp
    | refused s' => simp
    | accepted s' => simpa using ih s'

/-- When a reader takes exactly the files whose lines are well formed: it throws
on none it gets to, takes no loose line without refusing another one, and
refuses no well-formed line. -/
theorem exact_iff {WellFormed Loose : L → Prop}
    (hread : ∀ s line, (read s line).IsAccepted ↔ Accepts line)
    (hthrows : ∀ s line, read s line = .threw ↔ Throws line)
    (hloose : ∀ line, Accepts line → (WellFormed line ↔ ¬ Loose line)) (s : σ) (lines : List L)
    (Allowed : Prop) :
    (readLines read s lines ≠ .threw ∧
        ((readLines read s lines).IsAccepted ∧ Allowed ↔ ∀ line ∈ lines, WellFormed line)) ↔
      (∀ line, Reaches Accepts lines line → ¬ Throws line) ∧
        ((∀ line ∈ lines, Accepts line) → Allowed → ∀ line ∈ lines, ¬ Loose line) ∧
        ((∀ line ∈ lines, WellFormed line) → Allowed ∧ ∀ line ∈ lines, Accepts line) := by
  rw [Ne, readLines_threw_iff hread hthrows, readLines_isAccepted_iff hread]
  have hall : (∀ line ∈ lines, Accepts line) →
      ((∀ line ∈ lines, WellFormed line) ↔ ∀ line ∈ lines, ¬ Loose line) :=
    fun h => forall₂_congr fun line hline => hloose line (h line hline)
  push Not
  refine and_congr Iff.rfl ⟨fun h => ⟨fun haccepts hallowed => ?_, fun hwell => ?_⟩, fun h => ?_⟩
  · exact (hall haccepts).mp (h.mp ⟨haccepts, hallowed⟩)
  · exact (h.mpr hwell).symm
  · exact ⟨fun ⟨haccepts, hallowed⟩ => (hall haccepts).mpr (h.1 haccepts hallowed),
      fun hwell => (h.2 hwell).symm⟩

/-- What accepted lines make of the state. -/
theorem readLines_eq_foldl {update : σ → L → σ}
    (hread : ∀ s line s', read s line = .accepted s' → s' = update s line) {s s' : σ}
    {lines : List L} (h : readLines read s lines = .accepted s') :
    s' = lines.foldl update s := by
  induction lines generalizing s with
  | nil => exact (Outcome.accepted.inj h).symm
  | cons line lines ih =>
    rw [readLines] at h
    cases hline : read s line with
    | threw => simp [hline] at h
    | refused s'' => simp [hline] at h
    | accepted s'' =>
      rw [hline] at h
      rw [List.foldl_cons, ← hread s line s'' hline]
      exact ih h

end FtMmi.Lib
