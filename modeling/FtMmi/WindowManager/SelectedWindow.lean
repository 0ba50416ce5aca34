/-
FtMmi.WindowManager.SelectedWindow — the window `UpdateTargetPointer` finds
for an event, and what it leaves in the event when it finds none.

`selectedWindow` is the search alone. `UpdateTargetPointer` succeeds
precisely if there is such a window, and the event names it then
(`updateTargetPointer_selected`). Otherwise the event goes on naming the
window it named before (`updateTargetPointer_left`).
-/
import FtMmi.WindowManager.TouchTarget

namespace FtMmi.WindowManager

open FtMmi.Event

namespace InputWindowsManager

variable {s : InputWindowsManager} {event : PointerEvent} {window : WindowInfo}

/-! ## Mouse events -/

/-- The window of a mouse event, and the event, which may have become a
cancel. -/
def findMouseTarget (s : InputWindowsManager) (event : PointerEvent) :
    Option (WindowInfo × PointerEvent) :=
  match s.displayGroupInfo.updateDisplayId event.targetDisplayId with
  | none => none
  | some displayId =>
      match locatePointer s.displayGroupInfo (fun _ x y => (x, y))
          (event.setTargetDisplayId displayId) with
      | .error _ => none
      | .ok place =>
          let r := s.selectWindowInfo place.logicalX place.logicalY
            (event.setTargetDisplayId displayId)
          r.2.mouseTarget r.1 (event.setTargetDisplayId displayId)

/-- The search does not look at the mouse's event. -/
theorem mouseTarget_write (s : InputWindowsManager) (ref : EventRef) (written : PointerEvent)
    (logicalX logicalY : Int32) (event : PointerEvent) :
    ((s.write ref written).selectWindowInfo logicalX logicalY event).2.mouseTarget
        ((s.write ref written).selectWindowInfo logicalX logicalY event).1 event
      = (s.selectWindowInfo logicalX logicalY event).2.mouseTarget
        (s.selectWindowInfo logicalX logicalY event).1 event := by
  cases ref <;> rfl

/-- The event of a mouse target differs from the one it was looked for in the
action only. -/
theorem mouseTarget_event {touchWindow : Option WindowInfo} {r : WindowInfo × PointerEvent}
    (h : s.mouseTarget touchWindow event = some r) :
    r.2 = event.setPointerAction r.2.pointerAction := by
  unfold mouseTarget at h
  split at h
  · cases h
    rfl
  · split at h
    · cases h
    · cases h
      rfl

/-- What an event is dispatched by. -/
structure SameMaps (s s' : InputWindowsManager) : Prop where
  displayGroupInfo : s'.displayGroupInfo = s.displayGroupInfo
  touchItemDownInfos : s'.touchItemDownInfos = s.touchItemDownInfos

namespace SameMaps

theorem refl (s : InputWindowsManager) : SameMaps s s := ⟨rfl, rfl⟩

theorem trans {s s' s'' : InputWindowsManager} (h : SameMaps s s') (h' : SameMaps s' s'') :
    SameMaps s s'' :=
  ⟨h'.displayGroupInfo.trans h.displayGroupInfo, h'.touchItemDownInfos.trans h.touchItemDownInfos⟩

end SameMaps

theorem sameMaps_of_frame {s' : InputWindowsManager} (h : Frame s s') : SameMaps s s' :=
  ⟨h.displayGroupInfo, h.touchItemDownInfos⟩

theorem write_sameMaps (s : InputWindowsManager) (ref : EventRef) (event : PointerEvent) :
    SameMaps s (s.write ref event) := by
  cases ref <;> exact ⟨rfl, rfl⟩

theorem updatePointerEvent_sameMaps (env : Env) (s : InputWindowsManager)
    (logicalX logicalY : Int32) (ref : EventRef) (event : PointerEvent) (touchWindow : WindowInfo) :
    SameMaps s (s.updatePointerEvent env logicalX logicalY ref event touchWindow) := by
  unfold updatePointerEvent
  split
  · refine .trans ?_ (sameMaps_of_frame (dispatchPointer_frame ..))
    exact .trans (sameMaps_of_frame (dispatchPointer_frame env s pointerActionLeaveWindow)) ⟨rfl, rfl⟩
  · exact ⟨rfl, rfl⟩

theorem showMouse_sameMaps (env : Env) (s : InputWindowsManager) :
    SameMaps s (s.showMouse env) := by
  unfold showMouse
  split
  · exact .refl s
  · refine .trans ?_ (sameMaps_of_frame (dispatchPointer_frame ..))
    exact ⟨rfl, rfl⟩

theorem keepMouseDown_sameMaps (s : InputWindowsManager) (pointerAction : Int32)
    (touchWindow : WindowInfo) : SameMaps s (s.keepMouseDown pointerAction touchWindow) := by
  unfold keepMouseDown
  split
  · exact ⟨rfl, rfl⟩
  · split
    · exact ⟨rfl, rfl⟩
    · exact .refl s

theorem applyMouseTarget_sameMaps (env : Env) (s : InputWindowsManager) (ref : EventRef)
    (event : PointerEvent) (place : PointerPlace) (touchWindow : WindowInfo) :
    SameMaps s (s.applyMouseTarget env ref event place touchWindow).2 := by
  refine .trans ?_ (keepMouseDown_sameMaps ..)
  exact .trans (write_sameMaps s ref _) (updatePointerEvent_sameMaps ..)

theorem applyMouseTarget_event (env : Env) (s : InputWindowsManager) (ref : EventRef)
    (event : PointerEvent) (place : PointerPlace) (touchWindow : WindowInfo) :
    (s.applyMouseTarget env ref event place touchWindow).1.targetWindowId = touchWindow.id ∧
      (s.applyMouseTarget env ref event place touchWindow).1.sourceType = event.sourceType := by
  obtain ⟨pointers, hlength, h⟩ := (setTarget event touchWindow).updatePointerItem_eq
    event.pointerId { place.item with
      windowX := place.logicalX - touchWindow.area.x
      windowY := place.logicalY - touchWindow.area.y }
  simp only [applyMouseTarget]
  rw [h]
  exact ⟨rfl, rfl⟩

/-- What a failed search leaves as it was. -/
structure LeftAsItWas (s s' : InputWindowsManager) (event event' : PointerEvent) : Prop where
  maps : SameMaps s s'
  mouseDownInfo : s'.mouseDownInfo = s.mouseDownInfo
  targetWindowId : event'.targetWindowId = event.targetWindowId
  sourceType : event'.sourceType = event.sourceType
  pointerId : event'.pointerId = event.pointerId

theorem write_leftAsItWas {s' : InputWindowsManager} {event' : PointerEvent} (ref : EventRef)
    (h : LeftAsItWas s s' event event') : LeftAsItWas s (s'.write ref event') event event' where
  maps := h.maps.trans (write_sameMaps s' ref event')
  mouseDownInfo := by
    cases ref <;> exact h.mouseDownInfo
  targetWindowId := h.targetWindowId
  sourceType := h.sourceType
  pointerId := h.pointerId

/-- `UpdateMouseTarget` fails when there is no window, and when the process of
the window has no pointer style. -/
theorem updateMouseTarget_left (env : Env) (ref : EventRef)
    (h : ∀ r, s.findMouseTarget event = some r → s.pointerStyle r.1.pid = false) :
    (s.updateMouseTarget env ref event).1 ≠ .retOk ∧
      LeftAsItWas s (s.updateMouseTarget env ref event).2.2 event
        (s.updateMouseTarget env ref event).2.1 ∧
      (s.updateMouseTarget env ref event).2.1.pointerAction
        = ((s.findMouseTarget event).map fun r => r.2.pointerAction).getD event.pointerAction := by
  revert h
  simp only [findMouseTarget, updateMouseTarget]
  cases s.displayGroupInfo.updateDisplayId event.targetDisplayId with
  | none =>
    intro _
    exact ⟨by simp, ⟨.refl s, rfl, rfl, rfl, rfl⟩, rfl⟩
  | some displayId =>
    have hset : LeftAsItWas s s event (event.setTargetDisplayId displayId) :=
      ⟨.refl s, rfl, rfl, rfl, rfl⟩
    have hwrite := write_leftAsItWas ref hset
    simp only [write_displayGroupInfo, mouseTarget_write]
    cases hplace : locatePointer s.displayGroupInfo (fun _ x y => (x, y))
        (event.setTargetDisplayId displayId) with
    | error ret =>
      intro _
      exact ⟨locatePointer_error hplace, hwrite, rfl⟩
    | ok place =>
      dsimp only
      have hselect : LeftAsItWas s ((s.write ref (event.setTargetDisplayId displayId)).selectWindowInfo
          place.logicalX place.logicalY (event.setTargetDisplayId displayId)).2 event
          (event.setTargetDisplayId displayId) :=
        ⟨⟨hwrite.maps.displayGroupInfo, hwrite.maps.touchItemDownInfos⟩, hwrite.mouseDownInfo,
          hwrite.targetWindowId, hwrite.sourceType, hwrite.pointerId⟩
      cases htarget : (s.selectWindowInfo place.logicalX place.logicalY
          (event.setTargetDisplayId displayId)).2.mouseTarget (s.selectWindowInfo place.logicalX
          place.logicalY (event.setTargetDisplayId displayId)).1
          (event.setTargetDisplayId displayId) with
      | none =>
        intro _
        exact ⟨by simp, hselect, rfl⟩
      | some r =>
        intro hstyle
        have hnone := hstyle r rfl
        have hevent := mouseTarget_event htarget
        have hsame : ((((s.write ref (event.setTargetDisplayId displayId)).selectWindowInfo
            place.logicalX place.logicalY (event.setTargetDisplayId displayId)).2.write ref
            r.2).pointerStyle r.1.pid) = false := by
          cases ref <;> exact hnone
        simp only [hsame, Bool.false_eq_true, if_false]
        refine ⟨by simp, write_leftAsItWas ref ?_, rfl⟩
        rw [hevent]
        exact ⟨hselect.maps, hselect.mouseDownInfo, rfl, rfl, rfl⟩

theorem updateMouseTarget_found (env : Env) (ref : EventRef) {r : WindowInfo × PointerEvent}
    (h : s.findMouseTarget event = some r) (hstyle : s.pointerStyle r.1.pid = true) :
    (s.updateMouseTarget env ref event).1 = .retOk ∧
      (s.updateMouseTarget env ref event).2.1.targetWindowId = r.1.id ∧
      (s.updateMouseTarget env ref event).2.1.sourceType = event.sourceType ∧
      SameMaps s (s.updateMouseTarget env ref event).2.2 := by
  revert h
  simp only [findMouseTarget, updateMouseTarget]
  cases s.displayGroupInfo.updateDisplayId event.targetDisplayId with
  | none => simp
  | some displayId =>
    simp only [write_displayGroupInfo, mouseTarget_write]
    cases locatePointer s.displayGroupInfo (fun _ x y => (x, y))
        (event.setTargetDisplayId displayId) with
    | error ret => simp
    | ok place =>
      dsimp only
      intro htarget
      rw [htarget]
      have hselect : SameMaps s ((s.write ref (event.setTargetDisplayId displayId)).selectWindowInfo
          place.logicalX place.logicalY (event.setTargetDisplayId displayId)).2 :=
        .trans (write_sameMaps s ref (event.setTargetDisplayId displayId)) ⟨rfl, rfl⟩
      have hsame : ((((s.write ref (event.setTargetDisplayId displayId)).selectWindowInfo
          place.logicalX place.logicalY (event.setTargetDisplayId displayId)).2.write ref
          r.2).pointerStyle r.1.pid) = true := by
        cases ref <;> exact hstyle
      simp only [hsame, if_true]
      obtain ⟨hid, hsource⟩ := applyMouseTarget_event env ((((s.write ref
        (event.setTargetDisplayId displayId)).selectWindowInfo place.logicalX place.logicalY
          (event.setTargetDisplayId displayId)).2.write ref r.2).showMouse env) ref r.2 place r.1
      have hevent : r.2.sourceType = event.sourceType := by
        rw [mouseTarget_event htarget]
        rfl
      refine ⟨trivial, hid, hsource.trans hevent, ?_⟩
      refine .trans ?_ (applyMouseTarget_sameMaps ..)
      exact (hselect.trans (write_sameMaps _ ref r.2)).trans (showMouse_sameMaps env _)

/-! ## Every event -/

/-- The window found for an event. -/
def selectedWindow (s : InputWindowsManager) (event : PointerEvent) : Option WindowInfo :=
  if event.sourceType = sourceTypeTouchscreen then
    (s.findTouchTarget event).map TouchTarget.touchWindow
  else if event.sourceType = sourceTypeMouse then
    ((s.findMouseTarget event).map Prod.fst).filter fun window => s.pointerStyle window.pid
  else if event.sourceType = sourceTypeJoystick then
    s.displayGroupInfo.findWindow s.displayGroupInfo.focusWindowId
  else none

/-- The action an event has when no window was found: a mouse event may have
become a cancel before its window was refused. -/
def leftAction (s : InputWindowsManager) (event : PointerEvent) : Int32 :=
  if event.sourceType = sourceTypeMouse then
    ((s.findMouseTarget event).map fun r => r.2.pointerAction).getD event.pointerAction
  else event.pointerAction

/-- With a window found, `UpdateTargetPointer` succeeds and the event names
it. -/
theorem updateTargetPointer_selected (env : Env) (ref : EventRef)
    (h : s.selectedWindow event = some window) :
    (s.updateTargetPointer env ref event).1 = .retOk ∧
      (s.updateTargetPointer env ref event).2.1.targetWindowId = window.id := by
  unfold selectedWindow at h
  unfold updateTargetPointer
  split at h
  · rename_i hsource
    obtain ⟨target, htarget, rfl⟩ := Option.map_eq_some_iff.mp h
    obtain ⟨written, heq⟩ := updateTouchScreenTarget_of_some env ref htarget
    rw [if_pos hsource, heq]
    exact ⟨rfl, targeted_targetWindowId target⟩
  · rename_i hnotTouch
    rw [if_neg hnotTouch]
    split at h
    · rename_i hsource
      obtain ⟨hfound, hstyle⟩ := Option.filter_eq_some_iff.mp h
      obtain ⟨r, htarget, rfl⟩ := Option.map_eq_some_iff.mp hfound
      obtain ⟨hok, hid, _, _⟩ := updateMouseTarget_found env ref htarget hstyle
      rw [if_pos hsource]
      exact ⟨hok, hid⟩
    · rename_i hnotMouse
      rw [if_neg hnotMouse]
      split at h
      · rename_i hsource
        have hnotPad : ¬ event.sourceType = sourceTypeTouchpad := by
          rw [hsource]
          decide
        rw [if_neg hnotPad, if_pos hsource]
        simp only [updateJoystickTarget, h]
        exact ⟨trivial, rfl⟩
      · cases h

/-- Without one it fails, and the event names the window it named before. -/
theorem updateTargetPointer_left (env : Env) (ref : EventRef)
    (h : s.selectedWindow event = none) :
    (s.updateTargetPointer env ref event).1 ≠ .retOk ∧
      LeftAsItWas s (s.updateTargetPointer env ref event).2.2 event
        (s.updateTargetPointer env ref event).2.1 ∧
      (s.updateTargetPointer env ref event).2.1.pointerAction = s.leftAction event := by
  unfold selectedWindow at h
  unfold updateTargetPointer leftAction
  split at h
  · rename_i hsource
    have hnotMouse : ¬ event.sourceType = sourceTypeMouse := by
      rw [hsource]
      decide
    obtain ⟨hret, heq | ⟨displayId, heq⟩⟩ :=
      updateTouchScreenTarget_of_none env ref (Option.map_eq_none_iff.mp h)
    · rw [if_pos hsource, if_neg hnotMouse, heq]
      exact ⟨hret, ⟨.refl s, rfl, rfl, rfl, rfl⟩, rfl⟩
    · rw [if_pos hsource, if_neg hnotMouse, heq]
      refine ⟨hret, write_leftAsItWas ref ?_, rfl⟩
      exact ⟨.refl s, rfl, rfl, rfl, rfl⟩
  · rename_i hnotTouch
    rw [if_neg hnotTouch]
    split at h
    · rename_i hsource
      rw [if_pos hsource, if_pos hsource]
      refine updateMouseTarget_left env ref fun r hr => ?_
      rw [hr] at h
      simpa using h
    · rename_i hnotMouse
      rw [if_neg hnotMouse, if_neg hnotMouse]
      have hleft : LeftAsItWas s s event event := ⟨.refl s, rfl, rfl, rfl, rfl⟩
      split
      · exact ⟨by simp [updateTouchPadTarget], hleft, rfl⟩
      · split
        · rename_i hsource
          rw [if_pos hsource] at h
          simp only [updateJoystickTarget, h]
          exact ⟨by simp, hleft, trivial⟩
        · exact ⟨by simp, hleft, rfl⟩

/-- An event that is not of a touch screen leaves the maps alone, whatever is
found for it. -/
theorem updateTargetPointer_other (env : Env) (ref : EventRef)
    (h : event.sourceType ≠ sourceTypeTouchscreen) :
    SameMaps s (s.updateTargetPointer env ref event).2.2 ∧
      (s.updateTargetPointer env ref event).2.1.sourceType = event.sourceType := by
  cases hselected : s.selectedWindow event with
  | none =>
    obtain ⟨_, hleft, _⟩ := updateTargetPointer_left env ref hselected
    exact ⟨hleft.maps, hleft.sourceType⟩
  | some window =>
    unfold selectedWindow at hselected
    rw [if_neg h] at hselected
    rw [updateTargetPointer, if_neg h]
    split at hselected
    · rename_i hmouse
      obtain ⟨hfound, hstyle⟩ := Option.filter_eq_some_iff.mp hselected
      obtain ⟨r, htarget, rfl⟩ := Option.map_eq_some_iff.mp hfound
      obtain ⟨_, _, hsource, hmaps⟩ := updateMouseTarget_found env ref htarget hstyle
      rw [if_pos hmouse]
      exact ⟨hmaps, hsource⟩
    · rename_i hmouse
      split at hselected
      · rename_i hjoystick
        have hnotPad : ¬ event.sourceType = sourceTypeTouchpad := by
          rw [hjoystick]
          decide
        rw [if_neg hmouse, if_neg hnotPad, if_pos hjoystick]
        simp only [updateJoystickTarget, hselected]
        exact ⟨write_sameMaps s ref _, rfl⟩
      · cases hselected

/-! ## The event afterwards -/

/-- An event whose window, display and place were looked for. Its action may
have become a cancel. -/
structure Retargeted (event event' : PointerEvent) : Prop where
  bitwise : event'.bitwise = event.bitwise
  action : event'.pointerAction = event.pointerAction ∨
    event'.pointerAction = pointerActionCancel

theorem retargeted_refl (event : PointerEvent) : Retargeted event event := ⟨rfl, .inl rfl⟩

theorem Retargeted.trans {event' event'' : PointerEvent} (h : Retargeted event event')
    (h' : Retargeted event' event'') : Retargeted event event'' := by
  refine ⟨h'.bitwise.trans h.bitwise, ?_⟩
  rcases h'.action with heq | hcancel
  · rw [heq]
    exact h.action
  · exact .inr hcancel

theorem updatePointerItem_retargeted (event : PointerEvent) (window : WindowInfo)
    (pointerId : Int32) (item : PointerItem) :
    Retargeted event ((setTarget event window).updatePointerItem pointerId item) := by
  obtain ⟨pointers, h, heq⟩ :=
    PointerEvent.updatePointerItem_eq (setTarget event window) pointerId item
  rw [heq]
  exact ⟨rfl, .inl rfl⟩

theorem updateTouchScreenTarget_retargeted (env : Env) (s : InputWindowsManager) (ref : EventRef)
    (event : PointerEvent) :
    Retargeted event (s.updateTouchScreenTarget env ref event).2.1 := by
  unfold updateTouchScreenTarget
  split
  · exact retargeted_refl event
  · dsimp only
    split
    · exact ⟨rfl, .inl rfl⟩
    · split
      · exact ⟨rfl, .inl rfl⟩
      · rename_i touchWindow event' htarget
        refine .trans ?_ (updatePointerItem_retargeted ..)
        unfold touchTarget at htarget
        split at htarget
        · cases htarget
          exact ⟨rfl, .inl rfl⟩
        · split at htarget
          · cases htarget
          · split at htarget
            · cases htarget
            · cases htarget
              exact ⟨rfl, .inr rfl⟩

theorem updateMouseTarget_retargeted (env : Env) (s : InputWindowsManager) (ref : EventRef)
    (event : PointerEvent) :
    Retargeted event (s.updateMouseTarget env ref event).2.1 := by
  unfold updateMouseTarget
  split
  · exact retargeted_refl event
  · dsimp only
    split
    · exact ⟨rfl, .inl rfl⟩
    · split
      · exact ⟨rfl, .inl rfl⟩
      · rename_i touchWindow event' htarget
        have hevent : Retargeted event event' := by
          unfold mouseTarget at htarget
          split at htarget
          · cases htarget
            exact ⟨rfl, .inl rfl⟩
          · split at htarget
            · cases htarget
            · cases htarget
              exact ⟨rfl, .inr rfl⟩
        split
        · exact hevent.trans (updatePointerItem_retargeted ..)
        · exact hevent

theorem updateTargetPointer_retargeted (env : Env) (s : InputWindowsManager) (ref : EventRef)
    (event : PointerEvent) : Retargeted event (s.updateTargetPointer env ref event).2.1 := by
  unfold updateTargetPointer
  split
  · exact updateTouchScreenTarget_retargeted env s ref event
  split
  · exact updateMouseTarget_retargeted env s ref event
  split
  · exact retargeted_refl event
  split
  · unfold updateJoystickTarget
    split
    · exact retargeted_refl event
    · exact ⟨rfl, .inl rfl⟩
  · exact retargeted_refl event

end InputWindowsManager

end FtMmi.WindowManager
