/-
FtMmi.WindowManager.MouseCapture — what keeps `firstBtnDownWindowId_`, the
window that mouse events go to while a button is held.

The id is looked for again by every function that asks `SelectWindowInfo`,
also when a layout arrives or a pointer is entered. `Steady` says that
none of them finds another one: the last event is none for which a window
is selected, or it names the window itself. Under it `DispatchPointer`,
`UpdateDisplayInfo` and `UpdateMouseTarget` leave the id as it is.
-/
import FtMmi.WindowManager.SelectedWindow

namespace FtMmi.WindowManager

open FtMmi.Event

namespace InputWindowsManager

variable {s : InputWindowsManager} {event : PointerEvent}

/-! ## Selecting again -/

/-- A window selected for the event is the one there is. -/
def Selects (s : InputWindowsManager) (event : PointerEvent) : Prop :=
  s.selectsAnew event = true →
    0 ≤ event.targetWindowId ∧ event.targetWindowId = s.firstBtnDownWindowId

theorem Selects.firstWindowId (h : s.Selects event) (logicalX logicalY : Int32) :
    s.firstWindowId logicalX logicalY event = s.firstBtnDownWindowId := by
  unfold InputWindowsManager.firstWindowId
  split
  · rename_i hselects
    obtain ⟨htarget, heq⟩ := h hselects
    split
    · rename_i item hitem
      have hfound := List.find?_some hitem
      have hnot : ¬ event.targetWindowId < 0 := Int32.not_lt.mpr htarget
      simp only [hnot, if_false, Bool.and_eq_true, decide_eq_true_eq] at hfound
      rw [← hfound.2, heq]
    · rfl
  · rfl

/-- Nothing is selected. -/
theorem selects_of_not (h : s.selectsAnew event = false) : s.Selects event := by
  intro hselects
  rw [h] at hselects
  cases hselects

theorem Selects.selectWindowInfo (h : s.Selects event) (logicalX logicalY : Int32) :
    s.selectWindowInfo logicalX logicalY event
      = (s.displayGroupInfo.findWindow s.firstBtnDownWindowId, s) := by
  simp only [InputWindowsManager.selectWindowInfo, h.firstWindowId]

theorem Selects.windowOfLast (h : s.Selects event) (logicalX logicalY : Int32) :
    (s.windowOfLast logicalX logicalY event).2 = s := by
  unfold InputWindowsManager.windowOfLast
  split
  · rfl
  · rw [h.selectWindowInfo]

/-- Whatever asks for the window of the last event finds the one there is. -/
def Steady (s : InputWindowsManager) : Prop := ∀ last, s.lastEvent = some last → s.Selects last

/-- The pointer's window, and whether it is shown. -/
structure Unmoved (s s' : InputWindowsManager) : Prop extends Frame s s' where
  firstBtnDownWindowId : s'.firstBtnDownWindowId = s.firstBtnDownWindowId
  mouseDisplayState : s'.mouseDisplayState = s.mouseDisplayState

namespace Unmoved

theorem refl (s : InputWindowsManager) : Unmoved s s := ⟨.refl s, rfl, rfl⟩

theorem trans {s s' s'' : InputWindowsManager} (h : Unmoved s s') (h' : Unmoved s' s'') :
    Unmoved s s'' :=
  ⟨h.toFrame.trans h'.toFrame, h'.firstBtnDownWindowId.trans h.firstBtnDownWindowId,
    h'.mouseDisplayState.trans h.mouseDisplayState⟩

end Unmoved

theorem Unmoved.lastEvent {s' : InputWindowsManager} (h : Unmoved s s') :
    s'.lastEvent = s.lastEvent := by
  unfold InputWindowsManager.lastEvent
  rw [h.lastPointerEvent, h.mouseEvent]

theorem Unmoved.steady {s' : InputWindowsManager} (h : Unmoved s s') (hs : s.Steady) :
    s'.Steady := by
  intro last hlast
  have hselects := hs last (h.lastEvent ▸ hlast)
  unfold Selects selectsAnew at hselects ⊢
  rw [h.firstBtnDownWindowId]
  exact hselects

/-! ## Sending -/

theorem sendMsg_unmoved (env : Env) (s : InputWindowsManager) (fd : Int) (event : PointerEvent) :
    Unmoved s (s.sendMsg env fd event) := by
  refine ⟨sendMsg_frame env s fd event, ?_, ?_⟩
  · unfold sendMsg
    split <;> rfl
  · unfold sendMsg
    split <;> rfl

theorem sendPointerEvent_unmoved (env : Env) (s : InputWindowsManager) (pointerAction : Int32) :
    Unmoved s (s.sendPointerEvent env pointerAction) := by
  obtain ⟨location, h⟩ := s.updateId.getMouseInfo_eq
  simp only [sendPointerEvent, h]
  have hbase : ∀ x y nextEventId lastWindowInfo,
      Unmoved s { s with
        mouseLocation := location, lastLogicX := x, lastLogicY := y, nextEventId, lastWindowInfo } :=
    fun _ _ _ _ => ⟨⟨rfl, rfl, rfl, rfl, rfl⟩, rfl, rfl⟩
  split
  · exact hbase ..
  · split
    · exact hbase ..
    · exact .trans (hbase ..) (sendMsg_unmoved ..)

/-- `DispatchPointer` looks for a window when one is entered. -/
theorem enterWindow_unmoved (pointerAction : Int32) {last : PointerEvent}
    (h : pointerAction = pointerActionEnterWindow → s.Selects last) :
    Unmoved s (s.enterWindow pointerAction last).2 := by
  unfold enterWindow
  split
  · rename_i henter
    have hsame := (h henter).windowOfLast s.lastLogicX s.lastLogicY
    dsimp only
    split
    · rw [hsame]
      exact .refl s
    · dsimp only
      rw [hsame]
      split
      · exact ⟨⟨rfl, rfl, rfl, rfl, rfl⟩, rfl, rfl⟩
      · exact .refl s
  · exact .refl s

theorem dispatchPointer_unmoved (env : Env) (pointerAction : Int32)
    (h : pointerAction = pointerActionEnterWindow → s.Steady) :
    Unmoved s (s.dispatchPointer env pointerAction) := by
  unfold dispatchPointer
  split
  · exact .refl s
  · split
    · exact sendPointerEvent_unmoved env s pointerAction
    · rename_i last hlast
      have hid : Unmoved s s.updateId := ⟨⟨rfl, rfl, rfl, rfl, rfl⟩, rfl, rfl⟩
      have henter : Unmoved s.updateId (s.updateId.enterWindow pointerAction last).2 :=
        enterWindow_unmoved pointerAction fun haction => h haction last hlast
      dsimp only
      split
      · exact hid
      · split
        · exact hid.trans henter
        · split
          · exact hid.trans henter
          · exact (hid.trans henter).trans (sendMsg_unmoved ..)

/-- A window that is left is not looked for. -/
theorem dispatchPointer_leave (env : Env) (s : InputWindowsManager) :
    Unmoved s (s.dispatchPointer env pointerActionLeaveWindow) :=
  dispatchPointer_unmoved env _ fun h => absurd h (by decide)

theorem notifyPointerToWindow_unmoved (env : Env) (hs : s.Steady) :
    Unmoved s (s.notifyPointerToWindow env) := by
  unfold notifyPointerToWindow
  split
  · exact .refl s
  · rename_i last hlast
    have hsame := (hs last hlast).windowOfLast s.lastLogicX s.lastLogicY
    have hwindow : ∀ (t : InputWindowsManager) (lastWindowInfo : WindowInfo),
        Unmoved t { t with lastWindowInfo } :=
      fun _ _ => ⟨⟨rfl, rfl, rfl, rfl, rfl⟩, rfl, rfl⟩
    dsimp only
    rw [hsame]
    split
    · exact .refl s
    · split
      · exact hwindow ..
      · have henter : ∀ (t : InputWindowsManager) (lastWindowInfo : WindowInfo), Unmoved s t →
            Unmoved s ({ t with lastWindowInfo }.dispatchPointer env pointerActionEnterWindow) := by
          intro t lastWindowInfo ht
          have hnext := ht.trans (hwindow t lastWindowInfo)
          exact hnext.trans (dispatchPointer_unmoved env _ fun _ => hnext.steady hs)
        split
        · exact henter _ _ (dispatchPointer_leave env s)
        · exact henter _ _ (.refl s)

/-! ## Layouts -/

theorem refreshPointer_unmoved (env : Env) (hs : s.Steady) : Unmoved s (s.refreshPointer env).2 := by
  unfold refreshPointer
  split
  · exact .refl s
  · obtain ⟨location, h⟩ := s.getMouseInfo_eq
    have hlocated : Unmoved s { s with mouseLocation := location } :=
      ⟨⟨rfl, rfl, rfl, rfl, rfl⟩, rfl, rfl⟩
    dsimp only
    rw [h]
    split
    · exact hlocated
    · split
      · exact hlocated
      · rename_i last hlast
        have hsame := (hlocated.steady hs last hlast).windowOfLast
        dsimp only
        rw [hsame]
        exact hlocated

/-- A new layout, and nothing else a mouse event goes by. -/
theorem updateDisplayInfo_unmoved (env : Env) (displayGroupInfo : DisplayGroupInfo)
    (hs : s.Steady) :
    Unmoved { s with displayGroupInfo } (s.updateDisplayInfo env displayGroupInfo) := by
  unfold updateDisplayInfo
  have hset : Unmoved { s with displayGroupInfo } { s with
      displayGroupInfo
      pointerStyle := fun pid =>
        s.pointerStyle pid || displayGroupInfo.windowsInfo.any fun item => item.pid = pid } :=
    ⟨⟨rfl, rfl, rfl, rfl, rfl⟩, rfl, rfl⟩
  have hlayout : Steady { s with displayGroupInfo } := hs
  dsimp only
  split
  · have hrefresh := hset.trans (refreshPointer_unmoved env (hset.steady hlayout))
    split
    · exact hrefresh.trans (notifyPointerToWindow_unmoved env (hrefresh.steady hlayout))
    · exact hrefresh
  · exact hset

/-! ## Mouse events -/

/-- A mouse that has been shown, or that no event was of. -/
def Shown (s : InputWindowsManager) : Prop :=
  s.mouseDisplayState = true ∨ s.lastPointerEvent = .null

/-- What the mouse's event leaves when it has found the window `touchWindow`. -/
structure MouseTargeted (s s' : InputWindowsManager) (event' : PointerEvent)
    (touchWindow : WindowInfo) : Prop where
  displayGroupInfo : s'.displayGroupInfo = s.displayGroupInfo
  firstBtnDownWindowId : s'.firstBtnDownWindowId = touchWindow.id
  lastPointerEvent : s'.lastPointerEvent = .mouse
  mouseDisplayState : s'.mouseDisplayState = true
  mouseEvent : s'.mouseEvent = event'
  mouseDownInfo : s'.mouseDownInfo
    = if event'.pointerAction = pointerActionButtonDown then touchWindow
      else if event'.pointerAction = pointerActionButtonUp then clearedMouseDownInfo s.mouseDownInfo
      else s.mouseDownInfo
  targetWindowId : event'.targetWindowId = touchWindow.id

theorem showMouse_shown (env : Env) (hs : s.Shown) :
    Frame s (s.showMouse env) ∧
      (s.showMouse env).firstBtnDownWindowId = s.firstBtnDownWindowId ∧
      (s.showMouse env).mouseDisplayState = true := by
  unfold showMouse
  split
  · rename_i hstate
    exact ⟨.refl s, rfl, hstate⟩
  · rename_i hstate
    have hnull : s.lastPointerEvent = .null := hs.resolve_left hstate
    have hsteady : Steady { s with mouseDisplayState := true } := by
      intro last hlast
      simp [InputWindowsManager.lastEvent, hnull] at hlast
    have hmoved := dispatchPointer_unmoved env pointerActionEnterWindow fun _ => hsteady
    have hframe : Frame s { s with mouseDisplayState := true } := ⟨rfl, rfl, rfl, rfl, rfl⟩
    exact ⟨hframe.trans hmoved.toFrame, hmoved.firstBtnDownWindowId, hmoved.mouseDisplayState⟩

theorem updatePointerEvent_mouse (env : Env) (logicalX logicalY : Int32) (touchWindow : WindowInfo)
    (hevent : s.mouseEvent = event) (htarget : event.targetWindowId = touchWindow.id)
    (hfirst : s.firstBtnDownWindowId = touchWindow.id) (hid : 0 ≤ touchWindow.id) :
    let s' := s.updatePointerEvent env logicalX logicalY .mouse event touchWindow
    s'.displayGroupInfo = s.displayGroupInfo ∧ s'.firstBtnDownWindowId = touchWindow.id ∧
      s'.lastPointerEvent = .mouse ∧ s'.mouseDisplayState = s.mouseDisplayState ∧
      s'.mouseEvent = event ∧ s'.mouseDownInfo = s.mouseDownInfo := by
  intro s'
  simp only [s', updatePointerEvent]
  split
  · have hleave := dispatchPointer_leave env s
    have hremember : Steady ((s.dispatchPointer env pointerActionLeaveWindow).remember logicalX
        logicalY .mouse event touchWindow) := by
      intro last hlast _
      have heq : last = event := by
        have hsame : (s.dispatchPointer env pointerActionLeaveWindow).mouseEvent = event :=
          hleave.mouseEvent.trans hevent
        simpa [InputWindowsManager.lastEvent, remember, hsame, eq_comm] using hlast
      rw [heq, htarget]
      exact ⟨hid, (hleave.firstBtnDownWindowId.trans hfirst).symm⟩
    have henter := dispatchPointer_unmoved env pointerActionEnterWindow fun _ => hremember
    refine ⟨henter.displayGroupInfo.trans hleave.displayGroupInfo,
      henter.firstBtnDownWindowId.trans (hleave.firstBtnDownWindowId.trans hfirst),
      henter.lastPointerEvent, henter.mouseDisplayState.trans hleave.mouseDisplayState,
      henter.mouseEvent.trans (hleave.mouseEvent.trans hevent),
      henter.mouseDownInfo.trans hleave.mouseDownInfo⟩
  · exact ⟨rfl, hfirst, rfl, rfl, hevent, rfl⟩

/-! ## A window found -/

/-- What a search for the target leaves of a mouse event. -/
structure SameButtons (event event' : PointerEvent) : Prop where
  sourceType : event'.sourceType = event.sourceType
  pressedButtons : event'.pressedButtons = event.pressedButtons

theorem applyMouseTarget_buttons (env : Env) (s : InputWindowsManager) (ref : EventRef)
    (event : PointerEvent) (place : PointerPlace) (touchWindow : WindowInfo) :
    SameButtons event (s.applyMouseTarget env ref event place touchWindow).1 ∧
      (s.applyMouseTarget env ref event place touchWindow).1.pointerAction
        = event.pointerAction := by
  obtain ⟨pointers, hlength, h⟩ := (setTarget event touchWindow).updatePointerItem_eq
    event.pointerId { place.item with
      windowX := place.logicalX - touchWindow.area.x
      windowY := place.logicalY - touchWindow.area.y }
  simp only [applyMouseTarget]
  rw [h]
  exact ⟨⟨rfl, rfl⟩, rfl⟩

/-- The end of `UpdateMouseTarget`: the window found is the pointer's. -/
theorem applyMouseTarget_targeted (env : Env) (event : PointerEvent) (place : PointerPlace)
    (touchWindow : WindowInfo) (hshown : s.Shown) (hfirst : s.firstBtnDownWindowId = touchWindow.id)
    (hid : 0 ≤ touchWindow.id) :
    MouseTargeted s ((s.showMouse env).applyMouseTarget env .mouse event place touchWindow).2
      ((s.showMouse env).applyMouseTarget env .mouse event place touchWindow).1 touchWindow := by
  obtain ⟨hframe, hshow, hstate⟩ := showMouse_shown env hshown
  have htarget := (applyMouseTarget_event env (s.showMouse env) .mouse event place touchWindow).1
  simp only [applyMouseTarget] at htarget ⊢
  obtain ⟨hgroup, hwindow, hlast, hmouse, hevent, hdown⟩ := updatePointerEvent_mouse
    (s := (s.showMouse env).write .mouse _) env place.logicalX place.logicalY touchWindow rfl
    htarget (hshow.trans hfirst) hid
  have hkeep : ∀ (t : InputWindowsManager) (pointerAction : Int32),
      (t.keepMouseDown pointerAction touchWindow) = { t with
        mouseDownInfo := if pointerAction = pointerActionButtonDown then touchWindow
          else if pointerAction = pointerActionButtonUp then clearedMouseDownInfo t.mouseDownInfo
          else t.mouseDownInfo } := by
    intro t pointerAction
    unfold keepMouseDown
    split
    · rfl
    · split <;> rfl
  rw [hkeep]
  exact
    { displayGroupInfo := hgroup.trans hframe.displayGroupInfo
      firstBtnDownWindowId := hwindow
      lastPointerEvent := hlast
      mouseDisplayState := hmouse.trans hstate
      mouseEvent := hevent
      mouseDownInfo := congrArg
        (fun info => if _ = pointerActionButtonDown then touchWindow
          else if _ = pointerActionButtonUp then clearedMouseDownInfo info else info)
        (hdown.trans hframe.mouseDownInfo)
      targetWindowId := htarget }

end InputWindowsManager

end FtMmi.WindowManager
