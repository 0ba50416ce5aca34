/-
FtMmi.WindowManager.MouseTarget — what a search for a window makes of the
mouse's event, and what leaves it as it is.

The mouse's event is the one object that lives on between reports. When its
target is looked for, its action becomes the one of `leftAction` and its
item stays; an event of another object and a layout do not touch it.
-/
import FtMmi.WindowManager.SelectedWindow

namespace FtMmi.WindowManager

open FtMmi.Event

namespace InputWindowsManager

variable {s : InputWindowsManager} {event : PointerEvent}

/-! ## One item -/

/-- The event has one item, that of its pointer. -/
def OneItem (event : PointerEvent) : Prop :=
  ∃ item, event.pointers = [item] ∧ item.pointerId = event.pointerId

theorem OneItem.found (h : OneItem event) :
    ∃ item, event.pointers = [item] ∧ item.pointerId = event.pointerId ∧
      event.getPointerItem event.pointerId = some item := by
  obtain ⟨item, hitems, hid⟩ := h
  exact ⟨item, hitems, hid, by simp [PointerEvent.getPointerItem, hitems, hid]⟩

/-- The item is replaced by another one. -/
theorem OneItem.updatePointerItem (h : OneItem event) (item : PointerItem) :
    ∃ hlength, event.updatePointerItem event.pointerId item
      = { event with pointers := [item], pointers_length := hlength } := by
  obtain ⟨old, hitems, hid⟩ := h
  have hhead : ∃ hlength, event.updatePointerItem old.pointerId item
      = { event with pointers := [item], pointers_length := hlength } :=
    PointerEvent.updatePointerItem_head hitems
  rwa [hid] at hhead

/-! ## Its own target -/

/-- What a search for a window makes of the mouse's event. -/
structure MouseRetargeted (s s' : InputWindowsManager) (event event' : PointerEvent) : Prop where
  mouseEvent : s'.mouseEvent = event'
  pointerAction : event'.pointerAction = s.leftAction event
  oneItem : OneItem event → OneItem event'

theorem updatePointerEvent_mouseEvent (env : Env) (s : InputWindowsManager)
    (logicalX logicalY : Int32) (ref : EventRef) (event : PointerEvent) (touchWindow : WindowInfo) :
    (s.updatePointerEvent env logicalX logicalY ref event touchWindow).mouseEvent
      = s.mouseEvent := by
  unfold updatePointerEvent
  split
  · have hleave := dispatchPointer_frame env s pointerActionLeaveWindow
    rw [(dispatchPointer_frame env _ pointerActionEnterWindow).mouseEvent]
    exact hleave.mouseEvent
  · rfl

theorem keepMouseDown_mouseEvent (s : InputWindowsManager) (pointerAction : Int32)
    (touchWindow : WindowInfo) :
    (s.keepMouseDown pointerAction touchWindow).mouseEvent = s.mouseEvent := by
  unfold keepMouseDown
  split
  · rfl
  · split <;> rfl

theorem showMouse_mouseEvent (env : Env) (s : InputWindowsManager) :
    (s.showMouse env).mouseEvent = s.mouseEvent := by
  unfold showMouse
  split
  · rfl
  · exact (dispatchPointer_frame env { s with mouseDisplayState := true } _).mouseEvent

theorem applyMouseTarget_mouse (env : Env) (s : InputWindowsManager) {place : PointerPlace}
    (touchWindow : WindowInfo) (hplace : event.getPointerItem event.pointerId = some place.item) :
    (s.applyMouseTarget env .mouse event place touchWindow).2.mouseEvent
        = (s.applyMouseTarget env .mouse event place touchWindow).1 ∧
      (s.applyMouseTarget env .mouse event place touchWindow).1.pointerAction
        = event.pointerAction ∧
      (OneItem event → OneItem (s.applyMouseTarget env .mouse event place touchWindow).1) := by
  simp only [applyMouseTarget]
  refine ⟨?_, ?_, fun hone => ?_⟩
  · rw [keepMouseDown_mouseEvent, updatePointerEvent_mouseEvent]
    rfl
  · obtain ⟨pointers, hlength, heq⟩ := PointerEvent.updatePointerItem_eq
      (setTarget event touchWindow) event.pointerId { place.item with
        windowX := place.logicalX - touchWindow.area.x
        windowY := place.logicalY - touchWindow.area.y }
    rw [heq]
    rfl
  · have hset : OneItem (setTarget event touchWindow) := hone
    obtain ⟨hlength, heq⟩ := hset.updatePointerItem { place.item with
      windowX := place.logicalX - touchWindow.area.x
      windowY := place.logicalY - touchWindow.area.y }
    have hid : place.item.pointerId = event.pointerId :=
      (PointerEvent.getPointerItem_some hplace).2
    exact heq ▸ ⟨_, rfl, hid⟩

theorem updateMouseTarget_mouse (env : Env) (hevent : s.mouseEvent = event)
    (hsource : event.sourceType = sourceTypeMouse) :
    MouseRetargeted s (s.updateMouseTarget env .mouse event).2.2 event
      (s.updateMouseTarget env .mouse event).2.1 := by
  have haction : s.leftAction event
      = ((s.findMouseTarget event).map fun r => r.2.pointerAction).getD event.pointerAction := by
    rw [leftAction, if_pos hsource]
  have hsame : ∀ s' event', s'.mouseEvent = event' → event'.pointerAction = s.leftAction event →
      (OneItem event → OneItem event') → MouseRetargeted s s' event event' :=
    fun _ _ hmouse hact hone => ⟨hmouse, hact, hone⟩
  simp only [findMouseTarget] at haction
  simp only [updateMouseTarget]
  cases hdisplay : s.displayGroupInfo.updateDisplayId event.targetDisplayId with
  | none =>
    simp only [hdisplay] at haction
    exact hsame _ _ hevent haction.symm id
  | some displayId =>
    simp only [hdisplay] at haction
    simp only [write_displayGroupInfo, mouseTarget_write]
    cases hplace : locatePointer s.displayGroupInfo (fun _ x y => (x, y))
        (event.setTargetDisplayId displayId) with
    | error ret =>
      simp only [hplace] at haction
      exact hsame _ _ rfl haction.symm id
    | ok place =>
      simp only [hplace] at haction
      cases htarget : (s.selectWindowInfo place.logicalX place.logicalY
          (event.setTargetDisplayId displayId)).2.mouseTarget (s.selectWindowInfo place.logicalX
          place.logicalY (event.setTargetDisplayId displayId)).1
          (event.setTargetDisplayId displayId) with
      | none =>
        simp only [htarget] at haction ⊢
        exact hsame _ _ rfl haction.symm id
      | some r =>
        obtain ⟨touchWindow, found⟩ := r
        simp only [htarget] at haction ⊢
        have hfound : found = (event.setTargetDisplayId displayId).setPointerAction
            found.pointerAction := mouseTarget_event htarget
        have hone : OneItem event → OneItem found := by
          rw [hfound]
          exact id
        split
        · have hitem : found.getPointerItem found.pointerId = some place.item := by
            rw [hfound]
            exact locatePointer_item hplace
          obtain ⟨hmouse, hact, hkeep⟩ := applyMouseTarget_mouse env
            (showMouse env (((s.write .mouse (event.setTargetDisplayId displayId)).selectWindowInfo
              place.logicalX place.logicalY (event.setTargetDisplayId displayId)).2.write .mouse
              found)) touchWindow hitem
          exact hsame _ _ hmouse (hact.trans haction.symm) (hkeep ∘ hone)
        · exact hsame _ _ rfl haction.symm hone

theorem updateTargetPointer_mouse (env : Env) (hevent : s.mouseEvent = event)
    (hsource : event.sourceType = sourceTypeMouse) :
    MouseRetargeted s (s.updateTargetPointer env .mouse event).2.2 event
      (s.updateTargetPointer env .mouse event).2.1 := by
  have hnotTouch : ¬ event.sourceType = sourceTypeTouchscreen := by
    rw [hsource]
    decide
  rw [updateTargetPointer, if_neg hnotTouch, if_pos hsource]
  exact updateMouseTarget_mouse env hevent hsource

/-! ## Other events and layouts -/

theorem applyMouseTarget_other (env : Env) (s : InputWindowsManager) (event : PointerEvent)
    (place : PointerPlace) (touchWindow : WindowInfo) :
    (s.applyMouseTarget env .other event place touchWindow).2.mouseEvent = s.mouseEvent := by
  simp only [applyMouseTarget]
  rw [keepMouseDown_mouseEvent, updatePointerEvent_mouseEvent]
  rfl

theorem updateMouseTarget_other (env : Env) (s : InputWindowsManager) (event : PointerEvent) :
    (s.updateMouseTarget env .other event).2.2.mouseEvent = s.mouseEvent := by
  unfold updateMouseTarget
  split
  · rfl
  · dsimp only
    split
    · rfl
    · split
      · rfl
      · split
        · rw [applyMouseTarget_other, showMouse_mouseEvent]
          rfl
        · rfl

theorem updateTouchScreenTarget_other (env : Env) (s : InputWindowsManager)
    (event : PointerEvent) :
    (s.updateTouchScreenTarget env .other event).2.2.mouseEvent = s.mouseEvent := by
  have hhide : (s.hideMouse env).mouseEvent = s.mouseEvent := by
    unfold hideMouse
    split
    · exact (dispatchPointer_frame env s pointerActionLeaveWindow).mouseEvent
    · rfl
  have hkeep : ∀ (t : InputWindowsManager) (pointerAction pointerId : Int32)
      (touchWindow : WindowInfo),
      (t.keepTouchDown pointerAction pointerId touchWindow).mouseEvent = t.mouseEvent := by
    intro t pointerAction pointerId touchWindow
    unfold keepTouchDown
    split
    · split <;> rfl
    · split <;> rfl
  unfold updateTouchScreenTarget
  split
  · rfl
  · dsimp only
    split
    · rfl
    · split
      · rfl
      · rw [hkeep]
        exact hhide

/-- An event of another object is not written into the mouse's. -/
theorem updateTargetPointer_mouseEvent (env : Env) (s : InputWindowsManager)
    (event : PointerEvent) :
    (s.updateTargetPointer env .other event).2.2.mouseEvent = s.mouseEvent := by
  unfold updateTargetPointer
  split
  · exact updateTouchScreenTarget_other env s event
  split
  · exact updateMouseTarget_other env s event
  split
  · rfl
  split
  · unfold updateJoystickTarget
    split <;> rfl
  · rfl

theorem getClientFd_mouseEvent (env : Env) (s : InputWindowsManager) (event : PointerEvent) :
    (s.getClientFd env event).2.mouseEvent = s.mouseEvent := by
  unfold getClientFd
  split
  · rfl
  · split
    · rfl
    · unfold takeDownPid
      dsimp only
      split
      · split <;> rfl
      · split <;> rfl

theorem updateDisplayInfo_mouseEvent (env : Env) (s : InputWindowsManager)
    (displayGroupInfo : DisplayGroupInfo) :
    (s.updateDisplayInfo env displayGroupInfo).mouseEvent = s.mouseEvent := by
  have hrefresh : ∀ t : InputWindowsManager, (t.refreshPointer env).2.mouseEvent
      = t.mouseEvent := by
    intro t
    unfold refreshPointer
    split
    · rfl
    · obtain ⟨location, h⟩ := t.getMouseInfo_eq
      dsimp only
      rw [h]
      split
      · rfl
      · split
        · rfl
        · rename_i last _
          obtain ⟨id, hid, _⟩ := windowOfLast_eq { t with mouseLocation := location }
            (location.physicalX + _) (location.physicalY + _) last
          rw [hid]
  unfold updateDisplayInfo
  dsimp only
  split
  · split
    · rw [(notifyPointerToWindow_frame ..).mouseEvent, hrefresh]
    · rw [hrefresh]
  · rfl

end InputWindowsManager

end FtMmi.WindowManager
