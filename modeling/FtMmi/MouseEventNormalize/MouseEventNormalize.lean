/-
FtMmi.MouseEventNormalize.MouseEventNormalize — what a report of a mouse
does to the one `PointerEvent` the server has for mice
(`mouse_event_normalize.cpp`).

The event is `mouseEvent` of the window manager's state. The speed of the
pointer and where a motion takes it (`HandleMotionAccelerate`,
`UpdateAndAdjustMouseLocation`) come with the report; so does whatever
makes a motion fail, which is without effect on the event. What
`HandleMotionInner` writes as the display is overwritten by
`HandlePostInner`.

The end of a scroll is a timer of the server. The timer manager is shared:
other components add, remove and reset timers, by ids that may be out of
date.
-/
import FtMmi.EventDispatch.StaleTarget
import FtMmi.Timer.TimerManager

namespace FtMmi.MouseEventNormalize

open FtMmi.Event
open FtMmi.EventDispatch
open FtMmi.Timer
open FtMmi.WindowManager

def pointerActionAxisBegin : Int32 := 5

def pointerActionAxisUpdate : Int32 := 6

def buttonNone : Int32 := -1

/-! ## Reports -/

/-- `libinput_button_state` -/
inductive ButtonState where
  | released
  | pressed
  | unknown
  deriving DecidableEq, Repr

inductive LibinputPointer where
  /-- `LIBINPUT_EVENT_POINTER_MOTION` or `LIBINPUT_EVENT_POINTER_MOTION_ABSOLUTE` -/
  | motion
  | button (button : UInt32) (state : ButtonState)
  | axis (vertical horizontal : Option Double)

structure PointerReport where
  pointer : LibinputPointer
  mouseLocation : MouseLocation
  currentDisplayId : Int32
  deviceId : Int32
  /-- `keyEvent->GetPressedKeys()` -/
  pressedKeys : List Int32

/-- `MouseDeviceState::LibinputChangeToPointer`, from `LIBINPUT_LEFT_BUTTON_CODE`
to `MOUSE_BUTTON_LEFT` and so on. -/
def libinputChangeToPointer (keyValue : UInt32) : Int32 :=
  if 272 ≤ keyValue ∧ keyValue ≤ 279 then (keyValue - 272).toInt32 else buttonNone

/-! ## State -/

inductive TimerOwner where
  | axis
  | other (component : Nat)
  deriving DecidableEq, Repr

/-- The members of `MouseEventNormalize`, and what they work on. -/
structure MouseService where
  pointers : PointerService
  timers : TimerManager TimerOwner
  timerId : Int
  buttonId : Int32
  isPressed : Bool
  /-- The actions of the events handed on to the handlers that follow. -/
  handedOn : List Int32

def MouseService.create (now : Int64) (lastWindowInfo mouseDownInfo : WindowInfo) :
    MouseService where
  pointers := .create now lastWindowInfo mouseDownInfo
  timers := .create
  timerId := -1
  buttonId := buttonNone
  isPressed := false
  handedOn := []

/-- The inputs of the server that are not the mouse's. -/
abbrev OtherInput : Type :=
  {i : PointerInput // match i with
    | .mouse _ _ => False
    | .axisEnd _ => False
    | _ => True}

inductive MouseInput where
  | report (now : Moment) (nowTime : Int) (report : PointerReport)
  /-- `OnMoveMouse` -/
  | moveMouse (now : Moment) (mouseLocation : MouseLocation)
  /-- a round of `ProcessTimers` -/
  | processNext (now : Moment) (nowTime : Int)
  | others (i : OtherInput)
  | otherAdd (component : Nat) (nowTime intervalMs repeatCount : Int)
  | otherRemove (timerId : Int)
  | otherReset (nowTime timerId : Int)

namespace MouseService

/-! ## Normalize -/

/-- `HandleMotionInner` and `HandleMotionAbsoluteInner` -/
def handleMotionInner (s : MouseService) (event : PointerEvent) : PointerEvent :=
  (event.setPointerAction pointerActionMove).setButtonId s.buttonId

/-- `HandleButtonInner`. An unknown button or state leaves the action that the
event has. -/
def handleButtonInner (s : MouseService) (event : PointerEvent) (button : UInt32)
    (state : ButtonState) : PointerEvent × MouseService :=
  let buttonId := libinputChangeToPointer button
  if buttonId = buttonNone then (event, s)
  else
    let event := event.setButtonId buttonId
    match state with
    | .released =>
        ((event.setPointerAction pointerActionButtonUp).deleteReleaseButton buttonId,
          { s with isPressed := false, buttonId := buttonNone })
    | .pressed =>
        ((event.setPointerAction pointerActionButtonDown).setButtonPressed buttonId,
          { s with isPressed := true, buttonId := event.buttonId })
    | .unknown => (event, s)

/-- The timer of `HandleAxisInner`: it is started again, or added. -/
def axisTimer (s : MouseService) (nowTime : Int) : Int32 × MouseService :=
  if s.timers.isExist s.timerId then
    (pointerActionAxisUpdate, { s with timers := (s.timers.resetTimer nowTime s.timerId).2 })
  else
    let r := s.timers.addTimer nowTime 100 1 (some .axis)
    (pointerActionAxisBegin, { s with timerId := r.1, timers := r.2 })

/-- `SetAxisValue` of an axis that the report has. -/
def setAxis (event : PointerEvent) (axis : AxisType) : Option Double → PointerEvent
  | some axisValue => event.setAxisValue axis axisValue
  | none => event

/-- `HandleAxisInner` -/
def handleAxisInner (s : MouseService) (nowTime : Int) (event : PointerEvent)
    (vertical horizontal : Option Double) : PointerEvent × MouseService :=
  let event :=
    if s.buttonId = buttonNone ∧ event.buttonId ≠ buttonNone then event.setButtonId buttonNone
    else event
  let r := s.axisTimer nowTime
  let event := setAxis (event.setPointerAction r.1) .scrollVertical vertical
  (setAxis event .scrollHorizontal horizontal, r.2)

/-- The event when `HandlePostInner` begins. -/
def normalize (s : MouseService) (nowTime : Int) (pointer : LibinputPointer) :
    PointerEvent × MouseService :=
  let event := s.pointers.windowsManager.mouseEvent.clearAxisValue
  match pointer with
  | .motion => (s.handleMotionInner event, s)
  | .button button state => s.handleButtonInner event button state
  | .axis vertical horizontal => s.handleAxisInner nowTime event vertical horizontal

/-! ## Handing on -/

/-- The action of an event as the handlers that follow get it. -/
def actionOf (s : PointerService) : Option Handled → List Int32
  | some h => [(s.target h).2.1.pointerAction]
  | none => []

def handOn (s : MouseService) (i : PointerInput) : MouseService :=
  { s with
    pointers := s.pointers.step i
    handedOn := s.handedOn ++ actionOf s.pointers (s.pointers.handled i) }

/-- The report with what is in the event when `HandlePostInner` begins. -/
def mouseReport (s : MouseService) (nowTime : Int) (report : PointerReport) : MouseReport :=
  let r := s.normalize nowTime report.pointer
  { event := r.1
    mouseLocation := report.mouseLocation
    currentDisplayId := report.currentDisplayId
    isPressed := r.2.isPressed
    deviceId := report.deviceId
    pressedKeys := report.pressedKeys }

/-- `HandleMouseEvent`, which does not look at what `Normalize` returns. -/
def handleMouseEvent (now : Moment) (nowTime : Int) (s : MouseService) (report : PointerReport) :
    MouseService :=
  (s.normalize nowTime report.pointer).2.handOn (.mouse now (s.mouseReport nowTime report))

/-- `HandlePostMoveMouse` -/
def handlePostMoveMouse (time : Int64) (s : InputWindowsManager) (mouseLocation : MouseLocation)
    (isPressed : Bool) (event : PointerEvent) : PointerEvent × InputWindowsManager :=
  let s := { s with mouseLocation }.getMouseInfo
  let pointerItem : PointerItem :=
    { displayX := s.mouseLocation.physicalX
      displayY := s.mouseLocation.physicalY
      pointerId := 0
      pressed := isPressed
      downTime := time }
  let event := event.setId s.nextEventId
  let event := (event.updatePointerItem event.pointerId pointerItem).setSourceType sourceTypeMouse
  let event := (event.setActionTime time).setActionStartTime time
  let event := (event.setPointerId 0).setTargetDisplayId (-1)
  ((event.setTargetWindowId (-1)).setAgentWindowId (-1), s.updateId)

/-- The window manager and the event when `NormalizeMoveMouse` is done. -/
def normalizeMoveMouse (now : Moment) (s : MouseService) (mouseLocation : MouseLocation) :
    PointerEvent × PointerService :=
  let event := s.pointers.windowsManager.mouseEvent.setPointerAction pointerActionMove
  let r := handlePostMoveMouse now.time s.pointers.windowsManager mouseLocation s.isPressed event
  (r.1, { s.pointers with windowsManager := r.2.write .mouse r.1 })

/-- `OnMoveMouse` -/
def onMoveMouse (now : Moment) (s : MouseService) (mouseLocation : MouseLocation) :
    MouseService :=
  if now.hasPointerDevice then
    let r := s.normalizeMoveMouse now mouseLocation
    { s with
      pointers := r.2.handlePointerEvent now .mouse r.1
      handedOn := s.handedOn ++
        actionOf r.2 (PointerService.handledPointerEvent now r.2.windowsManager .mouse r.1) }
  else s

/-- A round of `ProcessTimers`, with the callback of `HandleAxisInner`. -/
def processNext (now : Moment) (nowTime : Int) (s : MouseService) : MouseService :=
  match s.timers.processNext nowTime with
  | (.fired .axis, timers) => { s with timers, timerId := -1 }.handOn (.axisEnd now)
  | (_, timers) => { s with timers }

def step (s : MouseService) : MouseInput → MouseService
  | .report now nowTime report => s.handleMouseEvent now nowTime report
  | .moveMouse now mouseLocation => s.onMoveMouse now mouseLocation
  | .processNext now nowTime => s.processNext now nowTime
  | .others i => { s with pointers := s.pointers.step i }
  | .otherAdd component nowTime intervalMs repeatCount =>
      { s with
        timers := (s.timers.addTimer nowTime intervalMs repeatCount (some (.other component))).2 }
  | .otherRemove timerId => { s with timers := (s.timers.removeTimer timerId).2 }
  | .otherReset nowTime timerId => { s with timers := (s.timers.resetTimer nowTime timerId).2 }

end MouseService

end FtMmi.MouseEventNormalize
