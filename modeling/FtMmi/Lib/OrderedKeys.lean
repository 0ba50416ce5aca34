/-
FtMmi.Lib.OrderedKeys — a map kept as the list of its items, in the order of
their keys. An item of a key that is there already is not taken.

`emplaceBy_sorted` is the invariant, and `foldl_emplaceBy` says that a list
in order is built again from its own items.
-/
import Mathlib

namespace FtMmi.Lib

variable {α κ : Type*} [LinearOrder κ] {key : α → κ}

/-- `emplace` of a map. -/
def emplaceBy (key : α → κ) (items : List α) (x : α) : List α :=
  if key x ∈ items.map key then items
  else items.orderedInsert (fun a b => key a < key b) x

theorem orderedInsert_sorted {items : List α} {x : α} (h : (items.map key).Pairwise (· < ·))
    (hx : key x ∉ items.map key) :
    ((items.orderedInsert (fun a b => key a < key b) x).map key).Pairwise (· < ·) := by
  induction items with
  | nil => simp
  | cons y items ih =>
    simp only [List.map_cons, List.pairwise_cons, List.mem_cons, not_or] at h hx
    obtain ⟨hy, hitems⟩ := h
    by_cases hlt : key x < key y
    · rw [List.orderedInsert_cons_of_le (fun a b => key a < key b) items hlt]
      simp only [List.map_cons, List.pairwise_cons, List.mem_cons]
      refine ⟨fun k hk => ?_, hy, hitems⟩
      rcases hk with rfl | hk
      · exact hlt
      · exact hlt.trans (hy k hk)
    · rw [List.orderedInsert_of_not_le (fun a b => key a < key b) items hlt]
      have hyx : key y < key x := lt_of_le_of_ne (not_lt.mp hlt) (Ne.symm hx.1)
      simp only [List.map_cons, List.pairwise_cons]
      refine ⟨fun k hk => ?_, ih hitems hx.2⟩
      obtain ⟨z, hz, rfl⟩ := List.mem_map.mp hk
      rcases (List.mem_orderedInsert (fun a b => key a < key b)).mp hz with rfl | hz
      · exact hyx
      · exact hy _ (List.mem_map_of_mem hz)

theorem emplaceBy_sorted {items : List α} (h : (items.map key).Pairwise (· < ·)) (x : α) :
    ((emplaceBy key items x).map key).Pairwise (· < ·) := by
  unfold emplaceBy
  split
  · exact h
  · rename_i hx
    exact orderedInsert_sorted h hx

theorem mem_of_mem_emplaceBy {items : List α} {x y : α} (h : y ∈ emplaceBy key items x) :
    y = x ∨ y ∈ items := by
  unfold emplaceBy at h
  split at h
  · exact .inr h
  · exact (List.mem_orderedInsert _).mp h

/-- An item that comes after all others goes to the end. -/
theorem emplaceBy_of_lt {items : List α} {x : α} (h : ∀ y ∈ items, key y < key x) :
    emplaceBy key items x = items ++ [x] := by
  have hnew : key x ∉ items.map key := by
    intro hmem
    obtain ⟨y, hy, heq⟩ := List.mem_map.mp hmem
    exact absurd heq (h y hy).ne
  rw [emplaceBy, if_neg hnew]
  clear hnew
  induction items with
  | nil => rfl
  | cons y items ih =>
    rw [List.orderedInsert_of_not_le (fun a b => key a < key b) items
      (not_lt.mpr (h y List.mem_cons_self).le),
      ih fun z hz => h z (List.mem_cons_of_mem y hz), List.cons_append]

theorem foldl_emplaceBy {items more : List α} (h : ((items ++ more).map key).Pairwise (· < ·)) :
    more.foldl (emplaceBy key) items = items ++ more := by
  induction more generalizing items with
  | nil => simp
  | cons x more ih =>
    have hlast : ∀ y ∈ items, key y < key x := by
      intro y hy
      rw [List.map_append, List.pairwise_append] at h
      exact h.2.2 _ (List.mem_map_of_mem hy) _ (by simp)
    rw [List.foldl_cons, emplaceBy_of_lt hlast, ih (by simpa using h), List.append_assoc]
    rfl

end FtMmi.Lib
