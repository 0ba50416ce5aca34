/-
FtMmi.Lib.Brackets — words of brackets that do not nest.

Three letters open a bracket, stand in it and close it. A word is well
bracketed if it belongs to `(opening inner* closing)*`; `run` reads it
letter by letter and says whether a bracket is open at the end. The words
of the language are those it reads to the end of a bracket
(`mem_language_iff`), and what it reads inside stands behind an open one
(`open_of_ne_opening`).
-/
import Mathlib

namespace FtMmi.Lib

open Computability

variable {α : Type*}

/-- The letters of a bracket. -/
structure Brackets (α : Type*) where
  opening : α
  inner : α
  closing : α
  inner_ne_closing : inner ≠ closing

namespace Brackets

variable (l : Brackets α)

/-- `(opening inner* closing)*` -/
def language : Language α := ({[l.opening]} * ({[l.inner]}∗ * {[l.closing]}))∗

/-- What may follow inside a bracket. -/
def inside : Language α := {[l.inner]}∗ * {[l.closing]} * l.language

variable {l} {w pre post : List α}

theorem nil_mem_language : [] ∈ l.language := Language.nil_mem_kstar _

theorem opening_mem_language (h : w ∈ l.inside) : l.opening :: w ∈ l.language := by
  have hmul : l.opening :: w ∈ ({[l.opening]} * ({[l.inner]}∗ * {[l.closing]})) * l.language := by
    rw [mul_assoc]
    exact Language.mem_mul.mpr ⟨[l.opening], rfl, w, h, rfl⟩
  rw [language, ← Language.one_add_self_mul_kstar_eq_kstar]
  exact .inr hmul

theorem inner_mem_inside (h : w ∈ l.inside) : l.inner :: w ∈ l.inside := by
  have hmul : l.inner :: w ∈ ({[l.inner]} * {[l.inner]}∗) * {[l.closing]} * l.language := by
    rw [mul_assoc, mul_assoc, ← mul_assoc _ _ l.language]
    exact Language.mem_mul.mpr ⟨[l.inner], rfl, w, h, rfl⟩
  rw [inside, ← Language.one_add_self_mul_kstar_eq_kstar {[l.inner]}, add_mul, add_mul]
  exact .inr hmul

theorem closing_mem_inside (h : w ∈ l.language) : l.closing :: w ∈ l.inside := by
  have hmul : l.closing :: w ∈ {[l.closing]} * l.language :=
    Language.mem_mul.mpr ⟨[l.closing], rfl, w, h, rfl⟩
  rw [inside, ← Language.one_add_self_mul_kstar_eq_kstar {[l.inner]}, add_mul, add_mul, one_mul]
  exact .inl hmul

/-! ## The automaton -/

variable [DecidableEq α]

/-- One letter, outside or inside a bracket. -/
def next (l : Brackets α) : Bool → α → Option Bool
  | false, a => if a = l.opening then some true else none
  | true, a => if a = l.inner then some true else if a = l.closing then some false else none

def run (l : Brackets α) (isOpen : Bool) (w : List α) : Option Bool := w.foldlM l.next isOpen

@[simp] theorem run_nil (isOpen : Bool) : l.run isOpen [] = some isOpen := rfl

@[simp] theorem run_cons (isOpen : Bool) (a : α) :
    l.run isOpen (a :: w) = (l.next isOpen a).bind fun isOpen => l.run isOpen w := by
  simp [run]

@[simp] theorem run_append (isOpen : Bool) :
    l.run isOpen (pre ++ post) = (l.run isOpen pre).bind fun isOpen => l.run isOpen post := by
  simp [run]

@[simp] theorem next_closing : l.next true l.closing = some false := by
  simp [next, l.inner_ne_closing.symm]

@[simp] theorem next_inner : l.next true l.inner = some true := by simp [next]

@[simp] theorem next_opening : l.next false l.opening = some true := by simp [next]

/-- A word the automaton reads to the end of a bracket is well bracketed. -/
theorem mem_of_run (w : List α) :
    (l.run false w = some false → w ∈ l.language) ∧
      (l.run true w = some false → w ∈ l.inside) := by
  induction w with
  | nil => simp [nil_mem_language]
  | cons a w ih =>
    obtain ⟨hout, hin⟩ := ih
    constructor
    · intro h
      by_cases ha : a = l.opening
      · simp only [ha, run_cons, next_opening, Option.bind_some] at h ⊢
        exact opening_mem_language (hin h)
      · simp [next, ha] at h
    · intro h
      by_cases hinner : a = l.inner
      · simp only [hinner, run_cons, next_inner, Option.bind_some] at h ⊢
        exact inner_mem_inside (hin h)
      · by_cases hclosing : a = l.closing
        · simp only [hclosing, run_cons, next_closing, Option.bind_some] at h ⊢
          exact closing_mem_inside (hout h)
        · simp [next, hinner, hclosing] at h

theorem run_inners (h : w ∈ ({[l.inner]}∗ : Language α)) : l.run true w = some true := by
  obtain ⟨words, rfl, hwords⟩ := Language.mem_kstar.mp h
  clear h
  induction words with
  | nil => rfl
  | cons word words ih =>
    obtain rfl : word = [l.inner] := hwords word (by simp)
    have hrest := ih fun y hy => hwords y (List.mem_cons_of_mem _ hy)
    simpa using hrest

theorem run_of_mem (h : w ∈ l.language) : l.run false w = some false := by
  obtain ⟨words, rfl, hwords⟩ := Language.mem_kstar.mp h
  clear h
  induction words with
  | nil => rfl
  | cons word words ih =>
    obtain ⟨_, rfl, rest, hrest, rfl⟩ := Language.mem_mul.mp (hwords word (by simp))
    obtain ⟨inners, hinners, _, rfl, rfl⟩ := Language.mem_mul.mp hrest
    have hloop := ih fun y hy => hwords y (List.mem_cons_of_mem _ hy)
    simp [run_inners hinners, hloop]

/-- The language is what the automaton accepts. -/
theorem mem_language_iff : w ∈ l.language ↔ l.run false w = some false :=
  ⟨run_of_mem, (mem_of_run w).1⟩

/-- What the automaton can read is well bracketed, now or once its last bracket
is closed. -/
theorem mem_or_closed_mem_iff :
    (w ∈ l.language ∨ w ++ [l.closing] ∈ l.language) ↔ (l.run false w).isSome := by
  rw [mem_language_iff, mem_language_iff, run_append]
  cases l.run false w with
  | none => simp
  | some isOpen => cases isOpen <;> simp

/-! ## Open brackets -/

/-- A bracket is open after the word: it was opened, and not closed since. -/
def Open (l : Brackets α) (w : List α) : Prop :=
  ∃ before inner, w = before ++ l.opening :: inner ∧ l.closing ∉ inner

theorem open_of_run (h : l.run false w = some true) : l.Open w := by
  induction w using List.reverseRecOn with
  | nil => simp at h
  | append_singleton w a ih =>
    cases hw : l.run false w with
    | none => simp [hw] at h
    | some isOpen =>
      cases isOpen with
      | false =>
        by_cases ha : a = l.opening
        · exact ⟨w, [], by rw [ha], by simp⟩
        · simp [hw, next, ha] at h
      | true =>
        obtain ⟨before, inner, rfl, hinner⟩ := ih hw
        by_cases ha : a = l.inner
        · refine ⟨before, inner ++ [a], by simp, ?_⟩
          simp [ha, hinner, l.inner_ne_closing.symm]
        · by_cases hclosing : a = l.closing
          · simp only [run_append, hw, Option.bind_some, hclosing, run_cons, next_closing,
              run_nil] at h
            cases h
          · simp only [run_append, hw, Option.bind_some, run_cons, next, ha, hclosing, if_false,
              Option.bind_none] at h
            cases h

/-- What stands inside a bracket or closes it stands behind an open one. -/
theorem open_of_ne_opening {isOpen : Bool} {a : α} (hne : a ≠ l.opening)
    (h : l.run false (pre ++ a :: post) = some isOpen) : l.Open pre := by
  cases hpre : l.run false pre with
  | none => simp [hpre] at h
  | some isOpen' =>
    cases isOpen' with
    | false => simp [hpre, next, hne] at h
    | true => exact open_of_run hpre

end Brackets

end FtMmi.Lib
