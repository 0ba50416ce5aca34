/-
FtMmi.MouseEventNormalize.ButtonAgreement — the buttons that are down, kept
three times.

A report of a button is written into the pressed buttons of the one event
there is for mice, into `isPressed_`, which becomes the flag of the event's
item, and into the counters of `MouseDeviceState`
(`mouse_device_state.cpp`). Two things make them part: a release clears
`isPressed_` and takes the button out of the event whatever else is down,
while the counter of the button goes down by one only.

`agrees_iff_lastReleases`: the three agree after every step of a run
precisely if no release comes while another button is down, or while more
than one press of its button is counted.
-/
import FtMmi.Lib.StepSystem
import FtMmi.MouseEventNormalize.AxisBrackets

namespace FtMmi.MouseEventNormalize

open FtMmi.Event
open FtMmi.EventDispatch
open FtMmi.Lib
open FtMmi.WindowManager
open FtMmi.WindowManager.InputWindowsManager

/-! ## MouseDeviceState -/

/-- `mouseBtnState_` -/
abbrev MouseBtnState := Std.TreeMap UInt32 Int32

def mouseBtnMax : Int32 := 8

def changeMouseState (btnState : ButtonState) (btnStateCount : Int32) : Int32 :=
  let btnStateCount :=
    match btnState with
    | .pressed => btnStateCount + 1
    | .released => btnStateCount - 1
    | .unknown => btnStateCount
  if mouseBtnMax < btnStateCount then mouseBtnMax
  else if btnStateCount < 0 then 0
  else btnStateCount

namespace MouseBtnState

def mouseBtnStateCounts (counts : MouseBtnState) (btnCode : UInt32) (btnState : ButtonState) :
    MouseBtnState :=
  match counts[btnCode]? with
  | none => counts.insert btnCode (if btnState = .pressed then 1 else 0)
  | some btnStateCount => counts.insert btnCode (changeMouseState btnState btnStateCount)

def getPressedButtons (counts : MouseBtnState) : List Int32 :=
  counts.toList.filterMap fun item =>
    if 0 < item.2 then some (libinputChangeToPointer item.1) else none

/-- The counting of `HandleButtonInner`. -/
def handleButtonInner (counts : MouseBtnState) : LibinputPointer → MouseBtnState
  | .button button state =>
      if libinputChangeToPointer button = buttonNone ∨ state = .unknown then counts
      else counts.mouseBtnStateCounts button state
  | _ => counts

end MouseBtnState

/-- The mouse's service with the state of the mouse's buttons. -/
structure MouseButtons where
  service : MouseService
  mouseBtnState : MouseBtnState

namespace MouseButtons

def create (now : Int64) (lastWindowInfo mouseDownInfo : WindowInfo) : MouseButtons where
  service := .create now lastWindowInfo mouseDownInfo
  mouseBtnState := ∅

def step (w : MouseButtons) (i : MouseInput) : MouseButtons where
  service := w.service.step i
  mouseBtnState :=
    match i with
    | .report _ _ report => w.mouseBtnState.handleButtonInner report.pointer
    | _ => w.mouseBtnState

end MouseButtons

namespace MouseService

/-- The one event. -/
def pointerEvent (s : MouseService) : PointerEvent := s.pointers.windowsManager.mouseEvent

end MouseService

/-- The flag of the item of the event's pointer. -/
def itemPressed (event : PointerEvent) : Bool :=
  (event.getPointerItem event.pointerId).any fun item => item.pressed

/-- The item, the set and the counters say the same. -/
structure Agrees (w : MouseButtons) : Prop where
  item : itemPressed w.service.pointerEvent = true ↔ w.service.pointerEvent.pressedButtons ≠ []
  counters : ∀ button, button ∈ w.mouseBtnState.getPressedButtons ↔
    button ∈ w.service.pointerEvent.pressedButtons

/-- A release comes while no other button is down, and one press of its button
at most is counted. -/
def LastRelease (w : MouseButtons) : MouseInput → Prop
  | .report _ _ report =>
      match report.pointer with
      | .button button .released =>
          libinputChangeToPointer button ≠ buttonNone →
            w.mouseBtnState.getD button 0 ≤ 1 ∧
              ∀ other ∈ w.service.pointerEvent.pressedButtons,
                other = libinputChangeToPointer button
      | _ => True
  | _ => True

/-! ## The event while a target is looked for -/

variable {event : PointerEvent}

theorem itemPressed_of_pointers {item : PointerItem} (hpointers : event.pointers = [item])
    (hid : item.pointerId = event.pointerId) : itemPressed event = item.pressed := by
  simp [itemPressed, PointerEvent.getPointerItem, hpointers, hid]

theorem updatePointerItem_pressedButtons (event : PointerEvent) (pointerId : Int32)
    (item : PointerItem) :
    (event.updatePointerItem pointerId item).pressedButtons = event.pressedButtons := by
  obtain ⟨pointers, hlength, heq⟩ := event.updatePointerItem_eq pointerId item
  rw [heq]

/-- The buttons and the flag of the item stay. -/
structure SameButtons (event event' : PointerEvent) : Prop where
  pressedButtons : event'.pressedButtons = event.pressedButtons
  item : OneItem event → itemPressed event' = itemPressed event

theorem applyMouseTarget_buttons (env : Env) (s : InputWindowsManager) (ref : EventRef)
    {place : PointerPlace} (touchWindow : WindowInfo)
    (hplace : event.getPointerItem event.pointerId = some place.item) :
    SameButtons event (s.applyMouseTarget env ref event place touchWindow).1 := by
  refine ⟨updatePointerItem_pressedButtons .., fun hone => ?_⟩
  have hid : place.item.pointerId = event.pointerId :=
    (PointerEvent.getPointerItem_some hplace).2
  have hsetOne : OneItem (setTarget event touchWindow) := hone
  let item : PointerItem := { place.item with
    windowX := place.logicalX - touchWindow.area.x
    windowY := place.logicalY - touchWindow.area.y }
  obtain ⟨hlength, heq⟩ := hsetOne.updatePointerItem item
  have hnow : itemPressed (s.applyMouseTarget env ref event place touchWindow).1
      = item.pressed := by
    show itemPressed ((setTarget event touchWindow).updatePointerItem
      (setTarget event touchWindow).pointerId item) = _
    rw [heq]
    exact itemPressed_of_pointers rfl hid
  rw [hnow, itemPressed, hplace]
  rfl

theorem updateMouseTarget_buttons (env : Env) (s : InputWindowsManager) (ref : EventRef)
    (event : PointerEvent) :
    SameButtons event (s.updateMouseTarget env ref event).2.1 := by
  unfold updateMouseTarget
  split
  · exact ⟨rfl, fun _ => rfl⟩
  · dsimp only
    split
    · exact ⟨rfl, fun _ => rfl⟩
    · rename_i place hplace
      split
      · exact ⟨rfl, fun _ => rfl⟩
      · rename_i touchWindow found htarget
        have hfound : found = (event.setTargetDisplayId _).setPointerAction found.pointerAction :=
          mouseTarget_event htarget
        have hitem : found.getPointerItem found.pointerId = some place.item := by
          rw [hfound]
          exact locatePointer_item hplace
        have hkept : SameButtons event found := by
          rw [hfound]
          exact ⟨rfl, fun _ => rfl⟩
        split
        · have happlied : ∀ t, SameButtons found
              (applyMouseTarget env t ref found place touchWindow).1 :=
            fun t => applyMouseTarget_buttons env t ref touchWindow hitem
          have hone : OneItem event → OneItem found := by
            rw [hfound]
            exact id
          exact ⟨(happlied _).pressedButtons.trans hkept.pressedButtons,
            fun h => ((happlied _).item (hone h)).trans (hkept.item h)⟩
        · exact hkept

theorem target_buttons (p : PointerService) (h : Handled)
    (hsource : h.event.sourceType = sourceTypeMouse) :
    SameButtons h.event (p.target h).2.1 := by
  have hnotTouch : ¬ h.event.sourceType = sourceTypeTouchscreen := by
    rw [hsource]
    decide
  rw [PointerService.target, updateTargetPointer, if_neg hnotTouch, if_pos hsource]
  exact updateMouseTarget_buttons ..

/-! ## The service -/

variable {s : MouseService}

/-- The event has no item yet, or one whose flag is `isPressed_`. -/
structure Shows (s : MouseService) : Prop where
  items : s.pointerEvent.pointers = [] ∨
    OneItem s.pointerEvent ∧ s.pointerEvent.sourceType = sourceTypeMouse
  item : itemPressed s.pointerEvent = s.isPressed

theorem Shows.mouseItems (h : Shows s) : MouseItems s.pointerEvent :=
  h.items.imp_right And.left

/-- A step that leaves `isPressed_` as `isPressed` and the buttons as `buttons`. -/
structure Leaves (s : MouseService) (isPressed : Bool) (buttons : List Int32) : Prop where
  shows : Shows s
  isPressed : s.isPressed = isPressed
  buttons : s.pointerEvent.pressedButtons = buttons

theorem handlePostInner_buttons (time : Int64) (s : InputWindowsManager) (report : MouseReport)
    (h : MouseItems report.event) :
    (handlePostInner time s report).1.pressedButtons = report.event.pressedButtons ∧
      itemPressed (handlePostInner time s report).1 = report.isPressed := by
  have hset : MouseItems (report.event.setId { s with
      mouseLocation := report.mouseLocation }.getMouseInfo.nextEventId) := h
  have hitem : ∃ item, (handlePostInner time s report).1.pointers = [item] ∧
      item.pointerId = 0 ∧ item.pressed = report.isPressed :=
    ⟨_, hset.report_pointers _, rfl, rfl⟩
  obtain ⟨item, hpointers, hid, hpressed⟩ := hitem
  exact ⟨updatePointerItem_pressedButtons .., (itemPressed_of_pointers hpointers hid).trans hpressed⟩

/-- The buttons of a report's event are handed on, and its item has the flag. -/
theorem handOn_leaves (s : MouseService) (now : Moment) (report : MouseReport)
    (hitems : MouseItems report.event) (hpressed : report.isPressed = s.isPressed) :
    Leaves (s.handOn (.mouse now report)) s.isPressed report.event.pressedButtons := by
  obtain ⟨action, h⟩ := handOn_mouse s now report hitems
  have hevent := handOn_mouse_event s now report
  obtain ⟨_, _, hone⟩ := handlePostInner_event now.time s.pointers.windowsManager report hitems
  obtain ⟨hbuttons, hitem⟩ :=
    handlePostInner_buttons now.time s.pointers.windowsManager report hitems
  let r := handlePostInner now.time s.pointers.windowsManager report
  let looked : Handled := ⟨now, r.2.write .mouse r.1, .mouse, r.1⟩
  have htarget : SameButtons looked.event (s.pointers.target looked).2.1 :=
    target_buttons s.pointers looked rfl
  refine ⟨⟨.inr ⟨h.oneItem, h.sourceType⟩, ?_⟩, rfl, ?_⟩
  · rw [MouseService.pointerEvent, hevent]
    exact (htarget.item hone).trans (hitem.trans hpressed)
  · rw [MouseService.pointerEvent, hevent]
    exact htarget.pressedButtons.trans hbuttons

theorem report_leaves (hs : Shows s) (now : Moment) (nowTime : Int) (report : PointerReport) :
    Leaves (s.handleMouseEvent now nowTime report)
      (s.normalize nowTime report.pointer).2.isPressed
      (s.normalize nowTime report.pointer).1.pressedButtons :=
  handOn_leaves _ now (s.mouseReport nowTime report)
    (normalize_items s nowTime report.pointer hs.mouseItems) rfl

theorem handlePostMoveMouse_buttons (time : Int64) (s : InputWindowsManager)
    (mouseLocation : MouseLocation) (isPressed : Bool) (h : MouseItems event) :
    (MouseService.handlePostMoveMouse time s mouseLocation isPressed event).1.pressedButtons
        = event.pressedButtons ∧
      itemPressed (MouseService.handlePostMoveMouse time s mouseLocation isPressed event).1
        = isPressed := by
  have hset : MouseItems (event.setId { s with mouseLocation }.getMouseInfo.nextEventId) := h
  have hitem : ∃ item,
      (MouseService.handlePostMoveMouse time s mouseLocation isPressed event).1.pointers = [item] ∧
        item.pointerId = 0 ∧ item.pressed = isPressed :=
    ⟨_, hset.report_pointers _, rfl, rfl⟩
  obtain ⟨item, hpointers, hid, hpressed⟩ := hitem
  exact ⟨updatePointerItem_pressedButtons .., (itemPressed_of_pointers hpointers hid).trans hpressed⟩

/-- `HandlePointerEvent` of the mouse's event, which has an item. -/
theorem handlePointerEvent_leaves {p : PointerService} (now : Moment)
    (hmouse : p.windowsManager.mouseEvent = event) (hsource : event.sourceType = sourceTypeMouse)
    (hone : OneItem event) (hp : s.pointers = p.handlePointerEvent now .mouse event)
    (hpressed : itemPressed event = s.isPressed) :
    Leaves s s.isPressed event.pressedButtons := by
  let looked : Handled := ⟨now, p.windowsManager, .mouse, event⟩
  have hevent : s.pointerEvent = (p.target looked).2.1 := by
    rw [MouseService.pointerEvent, hp]
    exact handlePointerEvent_event now hmouse hsource hone
  have htarget : SameButtons event (p.target looked).2.1 := target_buttons p looked hsource
  have hretargeted : MouseRetargeted p.windowsManager (p.target looked).2.2 event
      (p.target looked).2.1 := updateTargetPointer_mouse _ hmouse hsource
  have hkept : (p.target looked).2.1.sourceType = event.sourceType := by
    refine (updateTargetPointer_other _ .mouse ?_).2
    rw [hsource]
    decide
  refine ⟨⟨.inr ?_, ?_⟩, rfl, ?_⟩
  · rw [hevent]
    exact ⟨hretargeted.oneItem hone, hkept.trans hsource⟩
  · rw [hevent]
    exact (htarget.item hone).trans hpressed
  · rw [hevent]
    exact htarget.pressedButtons

theorem onMoveMouse_leaves (hs : Shows s) (now : Moment) (mouseLocation : MouseLocation) :
    Leaves (s.onMoveMouse now mouseLocation) s.isPressed s.pointerEvent.pressedButtons := by
  unfold MouseService.onMoveMouse
  split
  · have hitems : MouseItems (s.pointerEvent.setPointerAction pointerActionMove) := hs.mouseItems
    obtain ⟨hsource, _, hone⟩ := handlePostMoveMouse_event now.time s.pointers.windowsManager
      mouseLocation s.isPressed hitems
    obtain ⟨hbuttons, hpressed⟩ := handlePostMoveMouse_buttons now.time s.pointers.windowsManager
      mouseLocation s.isPressed hitems
    let r := s.normalizeMoveMouse now mouseLocation
    let t : MouseService := { s with
      pointers := r.2.handlePointerEvent now .mouse r.1
      handedOn := s.handedOn ++ MouseService.actionOf r.2
        (PointerService.handledPointerEvent now r.2.windowsManager .mouse r.1) }
    have hleaves : Leaves t s.isPressed r.1.pressedButtons :=
      handlePointerEvent_leaves now rfl hsource hone rfl hpressed
    exact ⟨hleaves.shows, hleaves.isPressed, hleaves.buttons.trans hbuttons⟩
  · exact ⟨hs, rfl, rfl⟩

/-- The end of a scroll is handed on if the event has an item. -/
theorem axisEnd_leaves (hs : Shows s) (now : Moment) :
    Leaves (s.handOn (.axisEnd now)) s.isPressed s.pointerEvent.pressedButtons := by
  let event := (s.pointerEvent.setPointerAction pointerActionAxisEnd).setId
    s.pointers.windowsManager.nextEventId
  let p : PointerService :=
    { s.pointers with windowsManager := s.pointers.windowsManager.updateId.write .mouse event }
  have hp : (s.handOn (.axisEnd now)).pointers = p.handlePointerEvent now .mouse event := rfl
  have hpressed : itemPressed event = s.isPressed := hs.item
  obtain hnone | ⟨hone, hsource⟩ := hs.items
  · have hpointers : event.pointers = [] := hnone
    have hitem : event.getPointerItem event.pointerId = none := by
      simp [PointerEvent.getPointerItem, hpointers]
    have hleft : p.handlePointerEvent now .mouse event = p := by
      rw [PointerService.handlePointerEvent, if_pos ⟨rfl, by rw [hitem]; rfl⟩]
    have hevent : (s.handOn (.axisEnd now)).pointerEvent = event := by
      rw [MouseService.pointerEvent, hp, hleft]
      rfl
    refine ⟨⟨.inl ?_, ?_⟩, rfl, ?_⟩
    · rw [hevent]
      exact hpointers
    · rw [hevent]
      exact hpressed
    · rw [hevent]
      rfl
  · have hone' : OneItem event := hone
    have hsource' : event.sourceType = sourceTypeMouse := hsource
    have hleaves : Leaves (s.handOn (.axisEnd now)) s.isPressed event.pressedButtons :=
      handlePointerEvent_leaves now rfl hsource' hone' hp hpressed
    exact hleaves

theorem processNext_leaves (hs : Shows s) (now : Moment) (nowTime : Int) :
    Leaves (s.processNext now nowTime) s.isPressed s.pointerEvent.pressedButtons := by
  unfold MouseService.processNext
  split
  · rename_i timers _
    have ht : Shows { s with timers, timerId := -1 } := ⟨hs.items, hs.item⟩
    exact axisEnd_leaves ht now
  · exact ⟨⟨hs.items, hs.item⟩, rfl, rfl⟩

/-- The buttons of the event when `Normalize` is done, and `isPressed_`. -/
def noted (s : MouseService) : MouseInput → Bool × List Int32
  | .report _ nowTime report =>
      ((s.normalize nowTime report.pointer).2.isPressed,
        (s.normalize nowTime report.pointer).1.pressedButtons)
  | _ => (s.isPressed, s.pointerEvent.pressedButtons)

/-- Only `Normalize` changes the buttons. -/
theorem step_leaves (hs : Shows s) (i : MouseInput) :
    Leaves (s.step i) (noted s i).1 (noted s i).2 := by
  cases i with
  | report now nowTime report => exact report_leaves hs now nowTime report
  | moveMouse now mouseLocation => exact onMoveMouse_leaves hs now mouseLocation
  | processNext now nowTime => exact processNext_leaves hs now nowTime
  | others i =>
    have hevent : (s.step (.others i)).pointerEvent = s.pointerEvent :=
      PointerService.step_mouseEvent s.pointers i
    refine ⟨⟨?_, ?_⟩, rfl, congrArg _ hevent⟩
    · rw [hevent]
      exact hs.items
    · rw [hevent]
      exact hs.item
  | otherAdd component nowTime intervalMs repeatCount => exact ⟨⟨hs.items, hs.item⟩, rfl, rfl⟩
  | otherRemove timerId => exact ⟨⟨hs.items, hs.item⟩, rfl, rfl⟩
  | otherReset nowTime timerId => exact ⟨⟨hs.items, hs.item⟩, rfl, rfl⟩

/-! ## The buttons of an event -/

theorem mem_setInsert_iff {a c : Int32} {bs : List Int32} :
    c ∈ setInsert a bs ↔ c = a ∨ c ∈ bs := by
  induction bs with
  | nil => simp [setInsert]
  | cons b bs ih =>
    rw [setInsert]
    split
    · simp
    · split
      · rename_i heq
        simp [heq]
      · simp only [List.mem_cons, ih]
        tauto

theorem mem_setButtonPressed_iff (hroom : event.pressedButtons.length < maxNPressedButtons)
    (buttonId other : Int32) :
    other ∈ (event.setButtonPressed buttonId).pressedButtons ↔
      other = buttonId ∨ other ∈ event.pressedButtons := by
  rw [PointerEvent.setButtonPressed, dif_neg (Nat.not_le.mpr hroom)]
  exact mem_setInsert_iff

/-- The buttons there are, `MOUSE_BUTTON_LEFT` to `MOUSE_BUTTON_TASK`. -/
def mouseButtons : List Int32 := (List.range 8).map Int32.ofNat

theorem libinputChangeToPointer_cases (button : UInt32) :
    libinputChangeToPointer button = buttonNone ∨
      ∃ n < 8, button = UInt32.ofNat (272 + n) ∧
        libinputChangeToPointer button = Int32.ofNat n := by
  unfold libinputChangeToPointer
  split
  · rename_i hrange
    have hlow : 272 ≤ button.toNat := hrange.1
    have hhigh : button.toNat ≤ 279 := hrange.2
    have hbutton : button = UInt32.ofNat button.toNat := UInt32.ofNat_toNat.symm
    refine .inr ⟨button.toNat - 272, by omega, ?_, ?_⟩
    · rw [show 272 + (button.toNat - 272) = button.toNat by omega, UInt32.ofNat_toNat]
    · generalize button.toNat = n at *
      rw [hbutton]
      interval_cases n <;> rfl
  · exact .inl rfl

theorem mem_mouseButtons {button : UInt32} (h : libinputChangeToPointer button ≠ buttonNone) :
    libinputChangeToPointer button ∈ mouseButtons := by
  obtain ⟨n, hn, _, heq⟩ := (libinputChangeToPointer_cases button).resolve_left h
  exact List.mem_map.mpr ⟨n, List.mem_range.mpr hn, heq.symm⟩

/-- There is room for the buttons there are, and another. -/
theorem pressedButtons_room (h : event.pressedButtons ⊆ mouseButtons) :
    event.pressedButtons.length < maxNPressedButtons := by
  have hnodup : event.pressedButtons.Nodup :=
    event.buttons_sorted.imp fun hlt => Int32.ne_of_lt hlt
  have hle : event.pressedButtons.length ≤ mouseButtons.length := (hnodup.subperm h).length_le
  exact Nat.lt_of_le_of_lt hle (by decide)

/-- Two codes of a button are one. -/
theorem libinputChangeToPointer_inj {button other : UInt32}
    (h : libinputChangeToPointer button ≠ buttonNone)
    (heq : libinputChangeToPointer button = libinputChangeToPointer other) : button = other := by
  obtain ⟨n, hn, hbutton, hid⟩ := (libinputChangeToPointer_cases button).resolve_left h
  obtain ⟨m, hm, hother, hid'⟩ := (libinputChangeToPointer_cases other).resolve_left (heq ▸ h)
  have hsame : Int32.ofNat n = Int32.ofNat m := hid.symm.trans (heq.trans hid')
  rw [hbutton, hother]
  interval_cases n <;> interval_cases m <;> first | rfl | cases hsame

/-! ## The counters -/

theorem count_cases {c : Int32} (hlow : 0 ≤ c) (hhigh : c ≤ mouseBtnMax) :
    ∃ n < 9, c = Int32.ofNat n := by
  have hlow' : (0 : Int) ≤ c.toInt := Int32.le_iff_toInt_le.mp hlow
  have hhigh' : c.toInt ≤ 8 := Int32.le_iff_toInt_le.mp hhigh
  refine ⟨c.toInt.toNat, by omega, ?_⟩
  rw [← Int32.ofInt_eq_ofNat, Int.toNat_of_nonneg hlow', Int32.ofInt_toInt]

theorem changeMouseState_range {c : Int32} (hlow : 0 ≤ c) (hhigh : c ≤ mouseBtnMax)
    (state : ButtonState) :
    0 ≤ changeMouseState state c ∧ changeMouseState state c ≤ mouseBtnMax := by
  obtain ⟨n, hn, rfl⟩ := count_cases hlow hhigh
  cases state <;> interval_cases n <;> decide

theorem changeMouseState_pressed {c : Int32} (hlow : 0 ≤ c) (hhigh : c ≤ mouseBtnMax) :
    0 < changeMouseState .pressed c := by
  obtain ⟨n, hn, rfl⟩ := count_cases hlow hhigh
  interval_cases n <;> decide

theorem changeMouseState_released {c : Int32} (hlow : 0 ≤ c) (hhigh : c ≤ mouseBtnMax) :
    0 < changeMouseState .released c ↔ 1 < c := by
  obtain ⟨n, hn, rfl⟩ := count_cases hlow hhigh
  interval_cases n <;> decide

namespace MouseBtnState

/-- A button that has no counter is counted as if it had one of 0. -/
theorem getD_mouseBtnStateCounts (counts : MouseBtnState) {state : ButtonState}
    (hstate : state ≠ .unknown) (button code : UInt32) :
    (counts.mouseBtnStateCounts button state).getD code 0 =
      if button = code then changeMouseState state (counts.getD button 0)
      else counts.getD code 0 := by
  simp only [Std.TreeMap.getD_eq_getD_getElem?, mouseBtnStateCounts]
  cases counts[button]? with
  | none =>
    simp only [Std.TreeMap.getElem?_insert, Std.LawfulEqCmp.compare_eq_iff_eq]
    cases state with
    | unknown => exact absurd rfl hstate
    | pressed => split <;> rfl
    | released => split <;> rfl
  | some btnStateCount =>
    simp only [Std.TreeMap.getElem?_insert, Std.LawfulEqCmp.compare_eq_iff_eq]
    split <;> rfl

theorem mem_getPressedButtons (counts : MouseBtnState) (buttonId : Int32) :
    buttonId ∈ counts.getPressedButtons ↔
      ∃ button, 0 < counts.getD button 0 ∧ libinputChangeToPointer button = buttonId := by
  simp only [getPressedButtons, List.mem_filterMap, Prod.exists,
    Std.TreeMap.mem_toList_iff_getElem?_eq_some, Option.ite_none_right_eq_some, Option.some.injEq,
    Std.TreeMap.getD_eq_getD_getElem?]
  constructor
  · rintro ⟨button, count, hcount, hpos, heq⟩
    exact ⟨button, by rw [hcount]; exact hpos, heq⟩
  · rintro ⟨button, hpos, heq⟩
    cases hcount : counts[button]? with
    | none =>
      rw [hcount] at hpos
      exact absurd hpos (by decide)
    | some count =>
      rw [hcount] at hpos
      exact ⟨button, count, hcount, hpos, heq⟩

end MouseBtnState

/-- Only the buttons there are are counted, up to `mouseBtnMax`. -/
structure Counted (counts : MouseBtnState) : Prop where
  low : ∀ button, 0 ≤ counts.getD button 0
  high : ∀ button, counts.getD button 0 ≤ mouseBtnMax
  known : ∀ button, 0 < counts.getD button 0 → libinputChangeToPointer button ≠ buttonNone

variable {counts : MouseBtnState} {button : UInt32}

theorem counted_empty : Counted ∅ := by
  have hzero : ∀ button, (∅ : MouseBtnState).getD button 0 = 0 := fun _ =>
    Std.TreeMap.getD_emptyc
  refine ⟨fun button => ?_, fun button => ?_, fun button hpos => ?_⟩
  · rw [hzero]
    decide
  · rw [hzero]
    decide
  · rw [hzero] at hpos
    exact absurd hpos (by decide)

theorem Counted.mouseBtnStateCounts (h : Counted counts)
    (hbutton : libinputChangeToPointer button ≠ buttonNone) {state : ButtonState}
    (hstate : state ≠ .unknown) : Counted (counts.mouseBtnStateCounts button state) := by
  obtain ⟨hlow, hhigh⟩ := changeMouseState_range (h.low button) (h.high button) state
  refine ⟨fun code => ?_, fun code => ?_, fun code hpos => ?_⟩
  · rw [counts.getD_mouseBtnStateCounts hstate]
    split
    · exact hlow
    · exact h.low code
  · rw [counts.getD_mouseBtnStateCounts hstate]
    split
    · exact hhigh
    · exact h.high code
  · rw [counts.getD_mouseBtnStateCounts hstate] at hpos
    split at hpos
    · rename_i heq
      exact heq ▸ hbutton
    · exact h.known code hpos

/-- All that is counted is a button there is. -/
theorem Counted.getPressedButtons_subset (h : Counted counts) :
    counts.getPressedButtons ⊆ mouseButtons := by
  intro buttonId hmem
  obtain ⟨button, hpos, rfl⟩ := (counts.mem_getPressedButtons buttonId).mp hmem
  exact mem_mouseButtons (h.known button hpos)

/-- A press: its button is among those that are down. -/
theorem Counted.mem_pressed (h : Counted counts) (button : UInt32) (buttonId : Int32) :
    buttonId ∈ (counts.mouseBtnStateCounts button .pressed).getPressedButtons ↔
      buttonId = libinputChangeToPointer button ∨ buttonId ∈ counts.getPressedButtons := by
  have hpressed := changeMouseState_pressed (h.low button) (h.high button)
  have hget := counts.getD_mouseBtnStateCounts (by decide : ButtonState.pressed ≠ .unknown) button
  simp only [MouseBtnState.mem_getPressedButtons, hget]
  constructor
  · rintro ⟨code, hpos, rfl⟩
    split at hpos
    · rename_i heq
      exact .inl (heq ▸ rfl)
    · exact .inr ⟨code, hpos, rfl⟩
  · rintro (rfl | ⟨code, hpos, rfl⟩)
    · exact ⟨button, by rw [if_pos rfl]; exact hpressed, rfl⟩
    · refine ⟨code, ?_, rfl⟩
      split
      · exact hpressed
      · exact hpos

/-- A release: its button stays if another press of it is counted. -/
theorem Counted.mem_released (h : Counted counts) (button : UInt32) (buttonId : Int32) :
    buttonId ∈ (counts.mouseBtnStateCounts button .released).getPressedButtons ↔
      buttonId ∈ counts.getPressedButtons ∧
        (buttonId = libinputChangeToPointer button → 1 < counts.getD button 0) := by
  have hreleased := changeMouseState_released (h.low button) (h.high button)
  have hget := counts.getD_mouseBtnStateCounts (by decide : ButtonState.released ≠ .unknown) button
  simp only [MouseBtnState.mem_getPressedButtons, hget]
  constructor
  · rintro ⟨code, hpos, rfl⟩
    split at hpos
    · rename_i heq
      have hmore := hreleased.mp hpos
      subst heq
      exact ⟨⟨button, Int32.lt_trans (by decide) hmore, rfl⟩, fun _ => hmore⟩
    · rename_i hne
      refine ⟨⟨code, hpos, rfl⟩, fun heq => ?_⟩
      exact absurd (libinputChangeToPointer_inj (h.known code hpos) heq).symm hne
  · rintro ⟨⟨code, hpos, rfl⟩, hmore⟩
    refine ⟨code, ?_, rfl⟩
    split
    · rename_i heq
      subst heq
      exact hreleased.mpr (hmore rfl)
    · exact hpos

/-! ## One step -/

variable {w : MouseButtons}

/-- What holds in every run, whether or not the three agree. -/
structure Kept (w : MouseButtons) : Prop where
  shows : Shows w.service
  counted : Counted w.mouseBtnState

theorem handleButtonInner_counted (h : Counted counts) (pointer : LibinputPointer) :
    Counted (counts.handleButtonInner pointer) := by
  cases pointer with
  | button button state =>
    simp only [MouseBtnState.handleButtonInner]
    split
    · exact h
    · rename_i hknown
      push Not at hknown
      exact h.mouseBtnStateCounts hknown.1 hknown.2
  | motion => exact h
  | axis vertical horizontal => exact h

theorem Kept.step (h : Kept w) (i : MouseInput) : Kept (w.step i) := by
  refine ⟨(step_leaves h.shows i).shows, ?_⟩
  cases i with
  | report now nowTime report => exact handleButtonInner_counted h.counted report.pointer
  | _ => exact h.counted

/-- The agreement after a step, in what `Normalize` makes of the buttons. -/
theorem agrees_step (h : Shows w.service) (i : MouseInput) :
    Agrees (w.step i) ↔
      ((noted w.service i).1 = true ↔ (noted w.service i).2 ≠ []) ∧
        ∀ button, button ∈ (w.step i).mouseBtnState.getPressedButtons ↔
          button ∈ (noted w.service i).2 := by
  have hleaves := step_leaves h i
  have hitem : itemPressed (w.step i).service.pointerEvent = (noted w.service i).1 :=
    hleaves.shows.item.trans hleaves.isPressed
  have hbuttons : (w.step i).service.pointerEvent.pressedButtons = (noted w.service i).2 :=
    hleaves.buttons
  constructor
  · rintro ⟨hflag, hcounters⟩
    rw [hitem, hbuttons] at hflag
    rw [hbuttons] at hcounters
    exact ⟨hflag, hcounters⟩
  · rintro ⟨hflag, hcounters⟩
    refine ⟨?_, ?_⟩
    · rw [hitem, hbuttons]
      exact hflag
    · rw [hbuttons]
      exact hcounters

theorem Agrees.room (h : Agrees w) (hcounted : Counted w.mouseBtnState) :
    w.service.pointerEvent.pressedButtons.length < maxNPressedButtons := by
  refine pressedButtons_room fun buttonId hmem => ?_
  exact hcounted.getPressedButtons_subset ((h.counters buttonId).mpr hmem)

/-- A step that says nothing of a button there is. -/
theorem agrees_quiet (h : Kept w) (ha : Agrees w) {i : MouseInput}
    (hnoted : noted w.service i = (w.service.isPressed, w.service.pointerEvent.pressedButtons))
    (hcounts : (w.step i).mouseBtnState = w.mouseBtnState) : Agrees (w.step i) := by
  rw [agrees_step h.shows, hnoted, hcounts, ← h.shows.item]
  exact ⟨ha.item, ha.counters⟩

theorem agrees_pressed (h : Kept w) (ha : Agrees w) (now : Moment) (nowTime : Int)
    {report : PointerReport} (hpointer : report.pointer = .button button .pressed)
    (hbutton : libinputChangeToPointer button ≠ buttonNone) :
    Agrees (w.step (.report now nowTime report)) := by
  have hcounts : (w.step (.report now nowTime report)).mouseBtnState
      = w.mouseBtnState.mouseBtnStateCounts button .pressed := by
    simp [MouseButtons.step, MouseBtnState.handleButtonInner, hpointer, hbutton]
  let event := (w.service.pointerEvent.clearAxisValue.setButtonId
    (libinputChangeToPointer button)).setPointerAction pointerActionButtonDown
  have hroom : event.pressedButtons.length < maxNPressedButtons := ha.room h.counted
  have hnoted : noted w.service (.report now nowTime report)
      = (true, (event.setButtonPressed (libinputChangeToPointer button)).pressedButtons) := by
    simp only [noted, hpointer, MouseService.normalize, MouseService.handleButtonInner,
      if_neg hbutton]
    rfl
  have hmem := mem_setButtonPressed_iff hroom (libinputChangeToPointer button)
  rw [agrees_step h.shows, hnoted, hcounts]
  refine ⟨?_, fun other => ?_⟩
  · have hdown := (hmem (libinputChangeToPointer button)).mpr (.inl rfl)
    exact ⟨fun _ => List.ne_nil_of_mem hdown, fun _ => rfl⟩
  · rw [h.counted.mem_pressed, hmem, ha.counters]
    rfl

theorem agrees_released_iff (h : Kept w) (ha : Agrees w) (now : Moment) (nowTime : Int)
    {report : PointerReport} (hpointer : report.pointer = .button button .released)
    (hbutton : libinputChangeToPointer button ≠ buttonNone) :
    Agrees (w.step (.report now nowTime report)) ↔
      w.mouseBtnState.getD button 0 ≤ 1 ∧
        ∀ other ∈ w.service.pointerEvent.pressedButtons, other = libinputChangeToPointer button := by
  have hcounts : (w.step (.report now nowTime report)).mouseBtnState
      = w.mouseBtnState.mouseBtnStateCounts button .released := by
    simp [MouseButtons.step, MouseBtnState.handleButtonInner, hpointer, hbutton]
  have hnoted : noted w.service (.report now nowTime report) =
      (false, w.service.pointerEvent.pressedButtons.filter
        (· ≠ libinputChangeToPointer button)) := by
    simp only [noted, hpointer, MouseService.normalize, MouseService.handleButtonInner,
      if_neg hbutton]
    rfl
  -- Nothing else is down: the flag that is cleared says so.
  have hflag : (false = true ↔ w.service.pointerEvent.pressedButtons.filter
        (· ≠ libinputChangeToPointer button) ≠ []) ↔
      ∀ other ∈ w.service.pointerEvent.pressedButtons, other = libinputChangeToPointer button := by
    simp [List.filter_eq_nil_iff]
  -- The button that is taken out of the set is no longer counted.
  have hcounters : (∀ other, other ∈ (w.mouseBtnState.mouseBtnStateCounts button
        .released).getPressedButtons ↔ other ∈ w.service.pointerEvent.pressedButtons.filter
          (· ≠ libinputChangeToPointer button)) ↔ w.mouseBtnState.getD button 0 ≤ 1 := by
    simp only [h.counted.mem_released, ha.counters, List.mem_filter, decide_eq_true_eq]
    constructor
    · intro hall
      by_contra hmore
      have hmore : 1 < w.mouseBtnState.getD button 0 := Int32.not_le.mp hmore
      have hdown : libinputChangeToPointer button ∈ w.service.pointerEvent.pressedButtons :=
        (ha.counters _).mp ((MouseBtnState.mem_getPressedButtons _ _).mpr
          ⟨button, Int32.lt_trans (by decide) hmore, rfl⟩)
      exact ((hall _).mp ⟨hdown, fun _ => hmore⟩).2 rfl
    · intro hle other
      refine and_congr_right fun _ => ⟨fun hmore heq => ?_, fun hne heq => absurd heq hne⟩
      exact Int32.not_le.mpr (hmore heq) hle
  rw [agrees_step h.shows, hnoted, hcounts, hflag, hcounters]
  exact and_comm

theorem setAxis_buttons (event : PointerEvent) (axis : AxisType) (axisValue : Option Double) :
    (MouseService.setAxis event axis axisValue).pressedButtons = event.pressedButtons := by
  cases axisValue with
  | none => rfl
  | some value =>
    simp only [MouseService.setAxis, PointerEvent.setAxisValue]
    split <;> rfl

theorem noted_axis (s : MouseService) (now : Moment) (nowTime : Int) {report : PointerReport}
    {vertical horizontal : Option Double} (hpointer : report.pointer = .axis vertical horizontal) :
    noted s (.report now nowTime report) = (s.isPressed, s.pointerEvent.pressedButtons) := by
  simp only [noted, hpointer, MouseService.normalize, MouseService.handleAxisInner,
    setAxis_buttons]
  refine Prod.ext ?_ ?_
  · unfold MouseService.axisTimer
    split <;> rfl
  · split <;> rfl

/-- A step keeps the agreement precisely if it is no release or a last one. -/
theorem agrees_step_iff (h : Kept w) (ha : Agrees w) (i : MouseInput) :
    Agrees (w.step i) ↔ LastRelease w i := by
  cases i with
  | report now nowTime report =>
    cases hpointer : report.pointer with
    | button button state =>
      by_cases hbutton : libinputChangeToPointer button = buttonNone
      · have hquiet : Agrees (w.step (.report now nowTime report)) := by
          refine agrees_quiet h ha ?_ ?_
          · simp only [noted, hpointer, MouseService.normalize, MouseService.handleButtonInner,
              if_pos hbutton]
            rfl
          · simp [MouseButtons.step, MouseBtnState.handleButtonInner, hpointer, hbutton]
        cases state <;> simp [LastRelease, hpointer, hbutton, hquiet]
      · cases state with
        | released =>
          rw [agrees_released_iff h ha now nowTime hpointer hbutton]
          simp [LastRelease, hpointer, hbutton]
        | pressed =>
          have hagrees := agrees_pressed h ha now nowTime hpointer hbutton
          simp [LastRelease, hpointer, hagrees]
        | unknown =>
          have hquiet : Agrees (w.step (.report now nowTime report)) := by
            refine agrees_quiet h ha ?_ ?_
            · simp only [noted, hpointer, MouseService.normalize, MouseService.handleButtonInner,
                if_neg hbutton]
              rfl
            · simp [MouseButtons.step, MouseBtnState.handleButtonInner, hpointer]
          simp [LastRelease, hpointer, hquiet]
    | motion =>
      have hquiet : Agrees (w.step (.report now nowTime report)) := by
        refine agrees_quiet h ha ?_ ?_
        · simp only [noted, hpointer, MouseService.normalize]
          rfl
        · simp [MouseButtons.step, MouseBtnState.handleButtonInner, hpointer]
      simp [LastRelease, hpointer, hquiet]
    | axis vertical horizontal =>
      have hquiet : Agrees (w.step (.report now nowTime report)) := by
        refine agrees_quiet h ha (noted_axis w.service now nowTime hpointer) ?_
        simp [MouseButtons.step, MouseBtnState.handleButtonInner, hpointer]
      simp [LastRelease, hpointer, hquiet]
  | _ => exact ⟨fun _ => trivial, fun _ => agrees_quiet h ha rfl rfl⟩

/-! ## Every run -/

theorem create_kept (now : Int64) (lastWindowInfo mouseDownInfo : WindowInfo) :
    Kept (.create now lastWindowInfo mouseDownInfo) :=
  ⟨⟨.inl rfl, rfl⟩, counted_empty⟩

/-- In a run of reports of any mice, motions, scrolls, other events and
layouts, the item, the set and the counters agree after every step precisely
if each release is of the one button that is down and of its one press. -/
theorem agrees_iff_lastReleases (now : Int64) (lastWindowInfo mouseDownInfo : WindowInfo)
    (is : List MouseInput) :
    Always MouseButtons.step Agrees (.create now lastWindowInfo mouseDownInfo) is ↔
      AllSteps MouseButtons.step LastRelease (.create now lastWindowInfo mouseDownInfo) is := by
  have hkeep : ∀ w i, (Kept w ∧ Agrees w) → LastRelease w i →
      Kept (w.step i) ∧ Agrees (w.step i) :=
    fun w i h hlast => ⟨h.1.step i, (agrees_step_iff h.1 h.2 i).mpr hlast⟩
  have hneed : ∀ w i, (Kept w ∧ Agrees w) → Agrees (w.step i) → LastRelease w i :=
    fun w i h hagrees => (agrees_step_iff h.1 h.2 i).mp hagrees
  refine always_iff_allSteps_of_inv (fun _ h => h.2) hkeep hneed is _
    ⟨create_kept now lastWindowInfo mouseDownInfo, ?_, fun button => ?_⟩
  · exact ⟨(fun h => nomatch h), fun h => absurd rfl h⟩
  · rw [MouseBtnState.mem_getPressedButtons]
    constructor
    · rintro ⟨code, hpos, _⟩
      exact absurd hpos (by rw [MouseButtons.create, Std.TreeMap.getD_emptyc]; decide)
    · exact fun h => nomatch h

/-! ## Two buttons, two mice -/

def buttonReport (button : UInt32) (state : ButtonState) (deviceId : Int32) : MouseInput :=
  .report quietMoment 0 ⟨.button button state, ⟨10, 10⟩, 0, deviceId, []⟩

/-- The left and the right button go down, and the left one comes up. -/
def twoButtons : List MouseInput :=
  [buttonReport 272 .pressed 1, buttonReport 273 .pressed 1, buttonReport 272 .released 1]

/-- Two mice hold the left button, and one lets it go. -/
def twoMice : List MouseInput :=
  [buttonReport 272 .pressed 1, buttonReport 272 .pressed 2, buttonReport 272 .released 1]

def quietButtons : MouseButtons := .create 0 (leftOrRight 0 0 0) (leftOrRight 0 0 0)

/-- The right button is in the set, and the item is not pressed. Of two mice
the button is counted, and not in the set. -/
theorem counterexample_agrees :
    ¬ Always MouseButtons.step Agrees quietButtons twoButtons ∧
      ¬ Always MouseButtons.step Agrees quietButtons twoMice := by
  constructor
  · intro h
    have hitem := h.last.item
    revert hitem
    decide +kernel
  · intro h
    have hcounters := h.last.counters 0
    revert hcounters
    decide +kernel

end FtMmi.MouseEventNormalize
