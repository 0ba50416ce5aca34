/-
FtMmi.Lib.Visits — visits to places, to each place in turn.

A log tells which places were entered and left. What it tells of each place
alternates, an enter first (`InTurn`). A further visit keeps that just if it
enters a place that is not entered or leaves one that is
(`inTurn_append_singleton_iff`).
-/
import Mathlib

namespace FtMmi.Lib

variable {α : Type*}

inductive Visit (α : Type*) where
  | enter (place : α)
  | leave (place : α)
  deriving DecidableEq

namespace Visit

def place : Visit α → α
  | .enter place => place
  | .leave place => place

def enters : Visit α → Bool
  | .enter _ => true
  | .leave _ => false

/-! ## The log of a place -/

variable [DecidableEq α]

/-- What the log tells of a place: `true` for an enter, `false` for a leave. -/
def turns (place : α) : List (Visit α) → List Bool
  | [] => []
  | .enter place' :: log => if place' = place then true :: turns place log else turns place log
  | .leave place' :: log => if place' = place then false :: turns place log else turns place log

/-- The letters alternate, the first one is given. -/
def Alternates : Bool → List Bool → Prop
  | _, [] => True
  | first, turn :: turns => turn = first ∧ Alternates (!first) turns

/-- The place has been entered and not left. -/
def Inside (log : List (Visit α)) (place : α) : Prop := (turns place log).getLast? = some true

theorem turns_append (place : α) (log log' : List (Visit α)) :
    turns place (log ++ log') = turns place log ++ turns place log' := by
  induction log with
  | nil => rfl
  | cons visit log ih =>
    cases visit with
    | enter place' => simp only [List.cons_append, turns, ih]; split <;> rfl
    | leave place' => simp only [List.cons_append, turns, ih]; split <;> rfl

/-! ## Every place in turn -/

/-- Every place is entered first, left next, and so on. -/
def InTurn (log : List (Visit α)) : Prop := ∀ place, Alternates true (turns place log)

theorem inTurn_nil : InTurn ([] : List (Visit α)) := fun _ => trivial

/-- The letter that comes next. -/
theorem alternates_append_singleton (first : Bool) (turns : List Bool) (turn : Bool) :
    Alternates first (turns ++ [turn]) ↔
      Alternates first turns ∧ turn = (turns.getLast?.map not).getD first := by
  induction turns generalizing first with
  | nil => simp [Alternates]
  | cons last turns ih =>
    rw [List.cons_append, Alternates, Alternates, ih, and_assoc]
    refine and_congr_right fun hlast => and_congr_right fun _ => ?_
    cases turns with
    | nil => simp [hlast]
    | cons last' turns => simp [List.getLast?_cons]

theorem turns_append_singleton (place : α) (log : List (Visit α)) (visit : Visit α) :
    turns place (log ++ [visit]) =
      if visit.place = place then turns place log ++ [visit.enters] else turns place log := by
  rw [turns_append]
  cases visit with
  | enter place' => by_cases heq : place' = place <;> simp [turns, Visit.place, enters, heq]
  | leave place' => by_cases heq : place' = place <;> simp [turns, Visit.place, enters, heq]

theorem inside_append_singleton_iff (log : List (Visit α)) (visit : Visit α) (place : α) :
    Inside (log ++ [visit]) place ↔
      if visit.place = place then visit.enters = true else Inside log place := by
  rw [Inside, turns_append_singleton]
  split
  · simp
  · rfl

/-- The log tells of a place that is entered. -/
theorem Inside.exists_visit {log : List (Visit α)} {place : α} (h : Inside log place) :
    ∃ visit ∈ log, visit.place = place := by
  induction log using List.reverseRecOn with
  | nil => cases h
  | append_singleton log visit ih =>
    rw [inside_append_singleton_iff] at h
    split at h
    · rename_i heq
      exact ⟨visit, List.mem_append_right _ (List.mem_singleton.mpr rfl), heq⟩
    · obtain ⟨found, hmem, heq⟩ := ih h
      exact ⟨found, List.mem_append_left _ hmem, heq⟩

/-- What comes in turn: a place that is not entered is entered, and one that is
entered is left. -/
theorem inTurn_append_singleton_iff (log : List (Visit α)) (visit : Visit α) :
    InTurn (log ++ [visit]) ↔ InTurn log ∧ (visit.enters = true ↔ ¬ Inside log visit.place) := by
  have hnext : visit.enters = ((turns visit.place log).getLast?.map not).getD true ↔
      (visit.enters = true ↔ ¬ Inside log visit.place) := by
    unfold Inside
    cases (turns visit.place log).getLast? with
    | none => simp
    | some last => cases last <;> simp
  have hplace : ∀ place, Alternates true (turns place (log ++ [visit])) ↔
      Alternates true (turns place log) ∧
        (visit.place = place → (visit.enters = true ↔ ¬ Inside log visit.place)) := by
    intro place
    rw [turns_append_singleton]
    by_cases heq : visit.place = place
    · subst heq
      rw [if_pos rfl, alternates_append_singleton, hnext]
      simp
    · simp [heq]
  simp only [InTurn, hplace, forall_and]
  refine and_congr_right fun _ => ⟨fun h => h visit.place rfl, fun h _ _ => h⟩

end Visit

end FtMmi.Lib
