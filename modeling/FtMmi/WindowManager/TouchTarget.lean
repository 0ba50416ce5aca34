/-
FtMmi.WindowManager.TouchTarget — what `UpdateTouchScreenTarget` does, in
two cases.

`findTouchTarget` is the search for the display, the item, the place and
the window. When it fails the event keeps the window it names, and
otherwise the event and the item of its pointer name the window found.
-/
import FtMmi.Event.PointerItems
import FtMmi.WindowManager.PointerSurveillance

namespace FtMmi.WindowManager

open FtMmi.Event

namespace InputWindowsManager

/-- What is found for a touch event: the event with its display and its
action, where it is, and its window. -/
structure TouchTarget where
  event : PointerEvent
  place : PointerPlace
  touchWindow : WindowInfo

variable {s : InputWindowsManager} {event : PointerEvent} {target : TouchTarget}

def findTouchTarget (s : InputWindowsManager) (event : PointerEvent) : Option TouchTarget :=
  match s.displayGroupInfo.updateDisplayId event.targetDisplayId with
  | none => none
  | some displayId =>
      match locatePointer s.displayGroupInfo adjustDisplayCoordinate
          (event.setTargetDisplayId displayId) with
      | .error _ => none
      | .ok place =>
          (s.touchTarget (event.setTargetDisplayId displayId) place).map fun r =>
            ⟨r.2, place, r.1⟩

/-- The event when the search has found a target. -/
def targeted (target : TouchTarget) : PointerEvent :=
  (setTarget target.event target.touchWindow).updatePointerItem target.event.pointerId
    (touchItem target.place target.touchWindow)

/-! ## The place of a pointer -/

theorem locatePointer_item {adjust : DisplayInfo → Int32 → Int32 → Int32 × Int32}
    {group : DisplayGroupInfo} {place : PointerPlace}
    (h : locatePointer group adjust event = .ok place) :
    event.getPointerItem event.pointerId = some place.item := by
  unfold locatePointer at h
  split at h
  · cases h
  · rename_i item hitem
    rw [hitem]
    split at h
    · cases h
    · dsimp only at h
      split at h
      · cases h
      · split at h
        · cases h
        · cases h
          rfl

theorem locatePointer_error {adjust : DisplayInfo → Int32 → Int32 → Int32 × Int32}
    {group : DisplayGroupInfo} {ret : TargetRet}
    (h : locatePointer group adjust event = .error ret) : ret ≠ .retOk := by
  unfold locatePointer at h
  split at h
  · cases h
    simp
  · split at h
    · cases h
      simp
    · dsimp only at h
      split at h
      · cases h
        simp
      · split at h
        · cases h
          simp
        · cases h

/-! ## The two cases -/

theorem touchTarget_write (s : InputWindowsManager) (ref : EventRef) (written event : PointerEvent)
    (place : PointerPlace) : (s.write ref written).touchTarget event place = s.touchTarget event place := by
  cases ref <;> rfl

theorem write_displayGroupInfo (s : InputWindowsManager) (ref : EventRef) (event : PointerEvent) :
    (s.write ref event).displayGroupInfo = s.displayGroupInfo := by
  cases ref <;> rfl

/-- No target: only the display of the event may have been set. -/
theorem updateTouchScreenTarget_of_none (env : Env) (ref : EventRef)
    (h : s.findTouchTarget event = none) :
    (s.updateTouchScreenTarget env ref event).1 ≠ .retOk ∧
      ((s.updateTouchScreenTarget env ref event).2 = (event, s) ∨
        ∃ displayId, (s.updateTouchScreenTarget env ref event).2
          = (event.setTargetDisplayId displayId,
              s.write ref (event.setTargetDisplayId displayId))) := by
  revert h
  simp only [findTouchTarget, updateTouchScreenTarget]
  cases s.displayGroupInfo.updateDisplayId event.targetDisplayId with
  | none => simp
  | some displayId =>
    simp only [write_displayGroupInfo, touchTarget_write]
    cases hplace : locatePointer s.displayGroupInfo adjustDisplayCoordinate
        (event.setTargetDisplayId displayId) with
    | error ret =>
      intro _
      exact ⟨locatePointer_error hplace, .inr ⟨displayId, rfl⟩⟩
    | ok place =>
      dsimp only
      cases s.touchTarget (event.setTargetDisplayId displayId) place with
      | none =>
        intro _
        exact ⟨by simp, .inr ⟨displayId, rfl⟩⟩
      | some r => simp

theorem updateTouchScreenTarget_of_some (env : Env) (ref : EventRef)
    (h : s.findTouchTarget event = some target) :
    ∃ written, s.updateTouchScreenTarget env ref event
      = (.retOk, targeted target, (((s.write ref written).write ref (targeted target)).hideMouse
          env).keepTouchDown target.event.pointerAction target.event.pointerId
          target.touchWindow) := by
  revert h
  simp only [findTouchTarget, updateTouchScreenTarget]
  cases s.displayGroupInfo.updateDisplayId event.targetDisplayId with
  | none => simp
  | some displayId =>
    simp only [write_displayGroupInfo, touchTarget_write]
    cases locatePointer s.displayGroupInfo adjustDisplayCoordinate
        (event.setTargetDisplayId displayId) with
    | error ret => simp
    | ok place =>
      dsimp only
      cases s.touchTarget (event.setTargetDisplayId displayId) place with
      | none => simp
      | some r =>
        intro h
        cases h
        obtain ⟨pointers, hlength, hupdate⟩ := (setTarget r.2 r.1).updatePointerItem_eq
          r.2.pointerId (touchItem place r.1)
        refine ⟨event.setTargetDisplayId displayId, ?_⟩
        simp only [targeted, hupdate]
        rfl

/-! ## The target found -/

/-- The window is one of the layout, or the one the finger went down on, and
then the event is a cancel. -/
theorem findTouchTarget_cases (h : s.findTouchTarget event = some target) :
    event.getPointerItem event.pointerId = some target.place.item ∧
      ∃ displayId,
        (target.event = event.setTargetDisplayId displayId ∧
          s.displayGroupInfo.findTouchWindow target.place.item.targetWindowId
            target.place.logicalX target.place.logicalY = some target.touchWindow) ∨
        (target.event = (event.setTargetDisplayId displayId).setPointerAction pointerActionCancel ∧
          s.displayGroupInfo.findTouchWindow target.place.item.targetWindowId
            target.place.logicalX target.place.logicalY = none ∧
          s.touchItemDownInfos event.pointerId = some target.touchWindow ∧
          event.pointerAction ≠ pointerActionDown) := by
  unfold findTouchTarget at h
  split at h
  · cases h
  · rename_i displayId _
    split at h
    · cases h
    · rename_i place hplace
      obtain ⟨r, hr, rfl⟩ := Option.map_eq_some_iff.mp h
      have hitem : (event.setTargetDisplayId displayId).getPointerItem event.pointerId
          = some place.item := locatePointer_item hplace
      refine ⟨hitem, displayId, ?_⟩
      unfold touchTarget at hr
      split at hr
      · rename_i touchWindow hwindow
        cases hr
        exact .inl ⟨rfl, hwindow⟩
      · rename_i hwindow
        split at hr
        · cases hr
        · rename_i touchWindow hrecord
          split at hr
          · cases hr
          · rename_i haction
            cases hr
            exact .inr ⟨rfl, hwindow, hrecord, haction⟩

/-- Finding a target changes at most the display and the action. -/
theorem findTouchTarget_event (h : s.findTouchTarget event = some target) :
    target.event.pointerId = event.pointerId ∧ target.event.pointers = event.pointers ∧
      target.event.sourceType = event.sourceType := by
  obtain ⟨_, displayId, ⟨heq, _⟩ | ⟨heq, _⟩⟩ := findTouchTarget_cases h
  · rw [heq]
    exact ⟨rfl, rfl, rfl⟩
  · rw [heq]
    exact ⟨rfl, rfl, rfl⟩

theorem targeted_eq (target : TouchTarget) :
    ∃ pointers h, targeted target
      = { setTarget target.event target.touchWindow with
          pointers := pointers, pointers_length := h } :=
  PointerEvent.updatePointerItem_eq ..

theorem targeted_pointerId (target : TouchTarget) :
    (targeted target).pointerId = target.event.pointerId := by
  obtain ⟨pointers, hlength, h⟩ := targeted_eq target
  rw [h]
  rfl

theorem targeted_pointerAction (target : TouchTarget) :
    (targeted target).pointerAction = target.event.pointerAction := by
  obtain ⟨pointers, hlength, h⟩ := targeted_eq target
  rw [h]
  rfl

theorem targeted_sourceType (target : TouchTarget) :
    (targeted target).sourceType = target.event.sourceType := by
  obtain ⟨pointers, hlength, h⟩ := targeted_eq target
  rw [h]
  rfl

theorem targeted_targetWindowId (target : TouchTarget) :
    (targeted target).targetWindowId = target.touchWindow.id := by
  obtain ⟨pointers, hlength, h⟩ := targeted_eq target
  rw [h]
  rfl

/-- The event to be updated has the items, and the item put in is of the pointer. -/
theorem targeted_update (h : s.findTouchTarget event = some target) :
    (setTarget target.event target.touchWindow).pointers = event.pointers ∧
      (touchItem target.place target.touchWindow).pointerId = event.pointerId ∧
      event.pointerId ∈ event.getPointerIds ∧
      targeted target = (setTarget target.event target.touchWindow).updatePointerItem
        (touchItem target.place target.touchWindow).pointerId
        (touchItem target.place target.touchWindow) := by
  obtain ⟨hid, hpointers, _⟩ := findTouchTarget_event h
  obtain ⟨hmem, hitem⟩ := PointerEvent.getPointerItem_some (findTouchTarget_cases h).1
  refine ⟨hpointers, hitem, ?_, ?_⟩
  · rw [← hitem]
    exact List.mem_map_of_mem hmem
  · rw [targeted, hid, ← hitem]
    rfl

/-- The ids of the items stay. -/
theorem targeted_ids (h : s.findTouchTarget event = some target) :
    (targeted target).getPointerIds = event.getPointerIds := by
  obtain ⟨hpointers, hid, hmem, heq⟩ := targeted_update h
  have hids : (setTarget target.event target.touchWindow).getPointerIds = event.getPointerIds :=
    congrArg (List.map PointerItem.pointerId) hpointers
  rw [heq, PointerEvent.updatePointerItem_ids, hids]
  rw [hids, hid]
  exact hmem

/-- The item of the pointer is moved onto the window, in its place. -/
theorem targeted_items (h : s.findTouchTarget event = some target)
    (hnodup : event.getPointerIds.Nodup) :
    (targeted target).getPointerIds = event.getPointerIds ∧
      (targeted target).getPointerItem event.pointerId
        = some (touchItem target.place target.touchWindow) ∧
      ∀ item, item.pointerId ≠ event.pointerId →
        (item ∈ (targeted target).pointers ↔ item ∈ event.pointers) := by
  obtain ⟨hpointers, hid, hmem, heq⟩ := targeted_update h
  have hids : (setTarget target.event target.touchWindow).getPointerIds = event.getPointerIds :=
    congrArg (List.map PointerItem.pointerId) hpointers
  have hkey : (touchItem target.place target.touchWindow).pointerId
      ∈ (setTarget target.event target.touchWindow).getPointerIds := by
    rw [hids, hid]
    exact hmem
  rw [← hids] at hnodup
  refine ⟨targeted_ids h, ?_, fun item hne => ?_⟩
  · rw [heq, ← hid]
    exact PointerEvent.updatePointerItem_found hnodup hkey
  · rw [heq, PointerEvent.mem_updatePointerItem hnodup hkey, hpointers]
    constructor
    · intro hother
      rcases hother with rfl | ⟨hmem, _⟩
      · exact absurd hid hne
      · exact hmem
    · intro hmem
      exact .inr ⟨hmem, fun hsame => hne (hsame.trans hid)⟩

/-! ## The place and the search -/

/-- Where the pointer of a touch event is, if there is a display for it. -/
def placed (s : InputWindowsManager) (event : PointerEvent) : Option PointerPlace :=
  match s.displayGroupInfo.updateDisplayId event.targetDisplayId with
  | none => none
  | some displayId =>
      match locatePointer s.displayGroupInfo adjustDisplayCoordinate
          (event.setTargetDisplayId displayId) with
      | .error _ => none
      | .ok place => some place

theorem findTouchTarget_of_not_placed (h : s.placed event = none) :
    s.findTouchTarget event = none := by
  revert h
  unfold placed findTouchTarget
  split
  · simp
  · split <;> simp

theorem findTouchTarget_of_placed {place : PointerPlace} (h : s.placed event = some place) :
    event.getPointerItem event.pointerId = some place.item ∧
      ∃ displayId, s.findTouchTarget event
        = (s.touchTarget (event.setTargetDisplayId displayId) place).map fun r =>
            ⟨r.2, place, r.1⟩ := by
  revert h
  unfold placed findTouchTarget
  cases s.displayGroupInfo.updateDisplayId event.targetDisplayId with
  | none => simp
  | some displayId =>
    dsimp only
    cases hplace : locatePointer s.displayGroupInfo adjustDisplayCoordinate
        (event.setTargetDisplayId displayId) with
    | error ret => simp
    | ok located =>
      intro h
      cases h
      have hitem : (event.setTargetDisplayId displayId).getPointerItem event.pointerId
          = some place.item := locatePointer_item hplace
      exact ⟨hitem, displayId, rfl⟩

end InputWindowsManager

end FtMmi.WindowManager
