/-
FtMmi.Lib.Multimap — an ordered table in which a key may stand more than
once.

The entries are in the order of their keys, those of one key in the order
in which they were put in. `find?` is the value of the first entry with a
key, and `keyOf?` the key of the first entry with a value: it is the least
of the keys with that value (`keyOf?_eq_some_iff`), whether or not `find?`
gives the value back.
-/
import Mathlib

namespace FtMmi.Lib

structure Multimap (κ ν : Type*) [LE κ] where
  entries : List (κ × ν)
  ordered : entries.Pairwise fun e e' => e.1 ≤ e'.1

namespace Multimap

variable {κ ν : Type*} [LE κ]

def find? [DecidableEq κ] (m : Multimap κ ν) (k : κ) : Option ν :=
  (m.entries.find? fun e => e.1 = k).map Prod.snd

def keyOf? [DecidableEq ν] (m : Multimap κ ν) (v : ν) : Option κ :=
  (m.entries.find? fun e => e.2 = v).map Prod.fst

theorem mem_of_find? [DecidableEq κ] {m : Multimap κ ν} {k : κ} {v : ν} (h : m.find? k = some v) :
    (k, v) ∈ m.entries := by
  simp only [find?, Option.map_eq_some_iff] at h
  obtain ⟨e, he, rfl⟩ := h
  have hkey : e.1 = k := by simpa using List.find?_some he
  rw [← hkey]
  exact List.mem_of_find?_eq_some he

theorem find?_eq_none_iff [DecidableEq κ] {m : Multimap κ ν} {k : κ} :
    m.find? k = none ↔ ∀ v, (k, v) ∉ m.entries := by
  simp only [find?, Option.map_eq_none_iff, List.find?_eq_none, decide_eq_true_eq]
  constructor
  · intro h v hmem
    exact h (k, v) hmem rfl
  · rintro h ⟨k', v⟩ hmem rfl
    exact h v hmem

theorem keyOf?_eq_none_iff [DecidableEq ν] {m : Multimap κ ν} {v : ν} :
    m.keyOf? v = none ↔ ∀ k, (k, v) ∉ m.entries := by
  simp only [keyOf?, Option.map_eq_none_iff, List.find?_eq_none, decide_eq_true_eq]
  constructor
  · intro h k hmem
    exact h (k, v) hmem rfl
  · rintro h ⟨k, v'⟩ hmem rfl
    exact h k hmem

variable [Std.IsLinearOrder κ]

/-- The key found for a value is the least with it. -/
theorem keyOf?_eq_some_iff [DecidableEq ν] {m : Multimap κ ν} {v : ν} {k : κ} :
    m.keyOf? v = some k ↔ (k, v) ∈ m.entries ∧ ∀ k', (k', v) ∈ m.entries → k ≤ k' := by
  obtain ⟨entries, h⟩ := m
  simp only [keyOf?]
  induction entries with
  | nil => simp
  | cons e entries ih =>
    obtain ⟨hfirst, hrest⟩ := List.pairwise_cons.mp h
    by_cases hv : e.2 = v
    · have hleast : ∀ k', (k', v) ∈ e :: entries → e.1 ≤ k' := by
        intro k' hmem
        rcases List.mem_cons.mp hmem with rfl | hmem
        · exact Std.le_refl k'
        · exact hfirst _ hmem
      have hmem : (e.1, v) ∈ e :: entries := hv ▸ List.mem_cons_self
      rw [List.find?_cons_of_pos (by simpa using hv), Option.map_some, Option.some.injEq]
      constructor
      · rintro rfl
        exact ⟨hmem, hleast⟩
      · rintro ⟨hk, hle⟩
        exact Std.le_antisymm (hleast k hk) (hle e.1 hmem)
    · have hskip : ∀ k', (k', v) ∈ e :: entries ↔ (k', v) ∈ entries := by
        intro k'
        rw [List.mem_cons, or_iff_right]
        rintro rfl
        exact hv rfl
      rw [List.find?_cons_of_neg (by simpa using hv), ih hrest]
      simp only [hskip]

instance totalByKey : Std.Total fun e e' : κ × ν => e.1 ≤ e'.1 :=
  ⟨fun e e' => @Std.le_total κ _ _ e.1 e'.1⟩

instance transByKey : IsTrans (κ × ν) fun e e' => e.1 ≤ e'.1 :=
  ⟨fun _ _ _ h h' => Std.le_trans h h'⟩

def ofList [DecidableLE κ] (entries : List (κ × ν)) : Multimap κ ν where
  entries := entries.insertionSort fun e e' => e.1 ≤ e'.1
  ordered := List.pairwise_insertionSort _ entries

@[simp] theorem mem_ofList [DecidableLE κ] {entries : List (κ × ν)} {e : κ × ν} :
    e ∈ (ofList entries).entries ↔ e ∈ entries := List.mem_insertionSort _

/-- Ordering the entries keeps those of one key in their order. -/
theorem find?_ofList [DecidableLE κ] [DecidableEq κ] (entries : List (κ × ν)) (k : κ) :
    (ofList entries).find? k = (entries.find? fun e => e.1 = k).map Prod.snd := by
  have hinsert : ∀ (e : κ × ν) (es : List (κ × ν)),
      (es.orderedInsert (fun e e' => e.1 ≤ e'.1) e).find? (fun e => decide (e.1 = k))
        = (e :: es).find? fun e => decide (e.1 = k) := by
    intro e es
    induction es with
    | nil => rfl
    | cons e' es ih =>
      by_cases hle : e.1 ≤ e'.1
      · rw [List.orderedInsert, if_pos hle]
      · rw [List.orderedInsert, if_neg hle, List.find?_cons, ih]
        -- One of the two does not have the key, as they are not equal.
        by_cases he : e.1 = k
        · have he' : e'.1 ≠ k := by
            rintro rfl
            exact hle (he ▸ Std.le_refl e.1)
          simp [he, he']
        · simp [List.find?_cons, he]
  have hsort : ((entries.insertionSort fun e e' => e.1 ≤ e'.1).find? fun e => decide (e.1 = k))
      = entries.find? fun e => decide (e.1 = k) := by
    induction entries with
    | nil => rfl
    | cons e entries ih =>
      rw [List.insertionSort_cons, hinsert, List.find?_cons, ih, List.find?_cons]
  rw [find?, ofList, hsort]

end Multimap

end FtMmi.Lib
