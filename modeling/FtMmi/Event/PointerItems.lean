/-
FtMmi.Event.PointerItems — the items of a `PointerEvent` as a table with
the pointer ids as keys.

While the ids are distinct, `UpdatePointerItem` of an id that is there
changes that item and no other, and `RemovePointerItem` takes it out.
-/
import FtMmi.Event.PointerEvent

namespace FtMmi.Event.PointerEvent

variable {event : PointerEvent} {pointerId : Int32} {item : PointerItem}

/-! ## Looking up -/

theorem getPointerItem_some (h : event.getPointerItem pointerId = some item) :
    item ∈ event.pointers ∧ item.pointerId = pointerId := by
  refine ⟨List.mem_of_find?_eq_some h, ?_⟩
  simpa using List.find?_some h

theorem getPointerItem_isSome_iff :
    (event.getPointerItem pointerId).isSome ↔ pointerId ∈ event.getPointerIds := by
  simp [getPointerItem, getPointerIds]

theorem getPointerItem_none_iff :
    event.getPointerItem pointerId = none ↔ pointerId ∉ event.getPointerIds := by
  rw [← getPointerItem_isSome_iff]
  simp

/-- With distinct ids an item is the one found under its id. -/
theorem getPointerItem_of_mem (hnodup : event.getPointerIds.Nodup) (h : item ∈ event.pointers) :
    event.getPointerItem item.pointerId = some item := by
  cases hfound : event.getPointerItem item.pointerId with
  | none =>
    rw [getPointerItem_none_iff] at hfound
    exact absurd (List.mem_map_of_mem h) hfound
  | some other =>
    obtain ⟨hmem, hid⟩ := getPointerItem_some hfound
    rw [List.inj_on_of_nodup_map hnodup hmem h hid]

/-! ## Updating -/

/-- `UpdatePointerItem` changes nothing but the items. -/
theorem updatePointerItem_eq (event : PointerEvent) (pointerId : Int32) (item : PointerItem) :
    ∃ pointers h, event.updatePointerItem pointerId item
      = { event with pointers := pointers, pointers_length := h } := by
  unfold updatePointerItem
  split
  · rename_i pointers h
    exact ⟨pointers, (replacePointer_length h).trans_le event.pointers_length, rfl⟩
  · unfold addPointerItem
    split
    · exact ⟨_, event.pointers_length, rfl⟩
    · rename_i hroom
      exact ⟨_, by rw [List.length_append, List.length_singleton]; omega, rfl⟩

/-- The first item is replaced under its id. -/
theorem updatePointerItem_head {first : PointerItem} {rest : List PointerItem}
    (hpointers : event.pointers = first :: rest) :
    ∃ h, event.updatePointerItem first.pointerId item
      = { event with pointers := item :: rest, pointers_length := h } := by
  have hreplace : replacePointer first.pointerId item event.pointers = some (item :: rest) := by
    simp [replacePointer, hpointers]
  unfold updatePointerItem
  split
  · rename_i pointers h
    have heq : item :: rest = pointers := Option.some.inj (hreplace.symm.trans h)
    subst heq
    exact ⟨(replacePointer_length h).trans_le event.pointers_length, rfl⟩
  · rename_i h
    rw [hreplace] at h
    cases h

/-- An item put in the place of one with its id leaves the ids. -/
theorem replacePointer_ids {items : List PointerItem}
    (h : item.pointerId ∈ items.map PointerItem.pointerId) :
    ∃ replaced, replacePointer item.pointerId item items = some replaced ∧
      replaced.map PointerItem.pointerId = items.map PointerItem.pointerId := by
  induction items with
  | nil => cases h
  | cons first rest ih =>
    by_cases hid : first.pointerId = item.pointerId
    · exact ⟨item :: rest, by simp [replacePointer, hid], by simp [hid]⟩
    · have hmem : item.pointerId ∈ rest.map PointerItem.pointerId := by
        rcases List.mem_cons.mp h with heq | hmem
        · exact absurd heq.symm hid
        · exact hmem
      obtain ⟨replaced, hreplaced, hids⟩ := ih hmem
      exact ⟨first :: replaced, by simp [replacePointer, hid, hreplaced], by simp [hids]⟩

theorem updatePointerItem_ids (h : item.pointerId ∈ event.getPointerIds) :
    (event.updatePointerItem item.pointerId item).getPointerIds = event.getPointerIds := by
  obtain ⟨replaced, hreplaced, hids⟩ := replacePointer_ids h
  unfold updatePointerItem
  split
  · rename_i pointers hpointers
    rw [Option.some.inj (hreplaced.symm.trans hpointers)] at hids
    exact hids
  · rename_i hnone
    rw [hreplaced] at hnone
    cases hnone

theorem replacePointer_eq_map {items : List PointerItem}
    (hnodup : (items.map PointerItem.pointerId).Nodup)
    (h : pointerId ∈ items.map PointerItem.pointerId) :
    replacePointer pointerId item items
      = some (items.map fun other => if other.pointerId = pointerId then item else other) := by
  induction items with
  | nil => cases h
  | cons first rest ih =>
    obtain ⟨hfirst, hrest⟩ := List.nodup_cons.mp hnodup
    by_cases hid : first.pointerId = pointerId
    · -- The rest has other ids.
      have hsame : rest.map (fun other => if other.pointerId = pointerId then item else other)
          = rest := by
        rw [List.map_congr_left (g := id), List.map_id]
        intro other hother
        rw [if_neg]
        · rfl
        · intro heq
          rw [hid, ← heq] at hfirst
          exact hfirst (List.mem_map_of_mem hother)
      simp [replacePointer, hid, hsame]
    · have hmem : pointerId ∈ rest.map PointerItem.pointerId := by
        rcases List.mem_cons.mp h with heq | hmem
        · exact absurd heq.symm hid
        · exact hmem
      simp [replacePointer, hid, ih hrest hmem]

theorem updatePointerItem_pointers (hnodup : event.getPointerIds.Nodup)
    (h : pointerId ∈ event.getPointerIds) :
    (event.updatePointerItem pointerId item).pointers
      = event.pointers.map fun other => if other.pointerId = pointerId then item else other := by
  have hreplace : replacePointer pointerId item event.pointers = some _ :=
    replacePointer_eq_map hnodup h
  unfold updatePointerItem
  split
  · rename_i pointers hpointers
    rw [hreplace] at hpointers
    injection hpointers with hpointers
    exact hpointers.symm
  · rename_i hnone
    rw [hreplace] at hnone
    cases hnone

theorem mem_updatePointerItem (hnodup : event.getPointerIds.Nodup)
    (h : item.pointerId ∈ event.getPointerIds) {other : PointerItem} :
    other ∈ (event.updatePointerItem item.pointerId item).pointers ↔
      other = item ∨ other ∈ event.pointers ∧ other.pointerId ≠ item.pointerId := by
  rw [updatePointerItem_pointers hnodup h, List.mem_map]
  constructor
  · intro hother
    obtain ⟨old, hold, heq⟩ := hother
    by_cases hid : old.pointerId = item.pointerId
    · rw [if_pos hid] at heq
      exact .inl heq.symm
    · rw [if_neg hid] at heq
      exact .inr ⟨heq ▸ hold, heq ▸ hid⟩
  · intro hother
    rcases hother with rfl | ⟨hmem, hid⟩
    · obtain ⟨old, hold, hid⟩ := List.mem_map.mp h
      exact ⟨old, hold, by simp [hid]⟩
    · exact ⟨other, hmem, by simp [hid]⟩

theorem updatePointerItem_found (hnodup : event.getPointerIds.Nodup)
    (h : item.pointerId ∈ event.getPointerIds) :
    (event.updatePointerItem item.pointerId item).getPointerItem item.pointerId = some item := by
  refine getPointerItem_of_mem ?_ ((mem_updatePointerItem hnodup h).mpr (.inl rfl))
  rw [updatePointerItem_ids h]
  exact hnodup

/-! ## Adding and removing -/

theorem addPointerItem_pointers (h : event.pointers.length < maxNPointerItems) :
    (event.addPointerItem item).pointers = event.pointers ++ [item] := by
  rw [addPointerItem, dif_neg (by omega)]

theorem addPointerItem_full (h : maxNPointerItems ≤ event.pointers.length) :
    event.addPointerItem item = event := by
  rw [addPointerItem, dif_pos h]

theorem removePointerItem_ids (event : PointerEvent) (pointerId : Int32) :
    (event.removePointerItem pointerId).getPointerIds = event.getPointerIds.erase pointerId := by
  simp only [getPointerIds, removePointerItem]
  generalize event.pointers = items
  induction items with
  | nil => rfl
  | cons first rest ih =>
    by_cases hid : first.pointerId = pointerId
    · simp [hid]
    · simp [hid, ih]

end FtMmi.Event.PointerEvent
