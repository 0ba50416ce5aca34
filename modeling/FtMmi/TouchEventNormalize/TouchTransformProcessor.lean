/-
FtMmi.TouchEventNormalize.TouchTransformProcessor — the event of a touch
screen (`touch_transform_processor.cpp`) and what is done with it after
each report (`HandleTouchEvent` and `ResetTouchUpEvent` in
`event_normalize_handler.cpp`).

A processor has one `PointerEvent` for as long as it lives, and all
reports of its device are written into it. A report is what libinput and
the device manager say about it; its place on a screen is a function of
the size of the screen.
-/
import FtMmi.WindowManager.InputWindowsManager

namespace FtMmi.TouchEventNormalize

open FtMmi.Event
open FtMmi.WindowManager

/-! ## Reports -/

/-- `LIBINPUT_EVENT_TOUCH_DOWN`, `LIBINPUT_EVENT_TOUCH_UP` and
`LIBINPUT_EVENT_TOUCH_MOTION` -/
inductive TouchType where
  | down
  | up
  | motion
  deriving DecidableEq, Repr

/-- `libinput_event_touch` -/
structure LibinputTouch where
  type : TouchType
  seatSlot : Int32
  xTransformed : Int32 → Int32
  yTransformed : Int32 → Int32
  toolXTransformed : Int32 → Int32
  toolYTransformed : Int32 → Int32
  toolWidthTransformed : Int32 → Int32
  toolHeightTransformed : Int32 → Int32
  pressure : Double
  longAxis : Int32
  shortAxis : Int32
  /-- `GetTouchToolType(touch, device)` -/
  toolType : Int32
  /-- `InputDevMgr->GetScreenId(deviceId_)` -/
  screenId : String

structure EventTouch where
  x : Int32
  y : Int32
  toolRect : Rect

/-- `GetPhysicalDisplayCoord` -/
def getPhysicalDisplayCoord (touch : LibinputTouch) (info : DisplayInfo) : EventTouch :=
  let coord := rotateTouchScreen info (touch.xTransformed info.width, touch.yTransformed info.height)
  { x := coord.1
    y := coord.2
    toolRect :=
      { x := touch.toolXTransformed info.width
        y := touch.toolYTransformed info.height
        width := touch.toolWidthTransformed info.width
        height := touch.toolHeightTransformed info.height } }

/-- `TouchPointToDisplayPoint`: the place, and the display. -/
def touchPointToDisplayPoint (group : DisplayGroupInfo) (touch : LibinputTouch) :
    Option (EventTouch × Int32) :=
  let screenId := if touch.screenId.isEmpty then "default0" else touch.screenId
  match group.findPhysicalDisplayInfo screenId with
  | none => none
  | some info =>
      if info.width ≤ 0 ∨ info.height ≤ 0 then none
      else some (getPhysicalDisplayCoord touch info, info.id)

/-! ## The processor -/

structure TouchTransformProcessor where
  deviceId : Int32
  pointerEvent : Option PointerEvent

def TouchTransformProcessor.create (deviceId : Int32) : TouchTransformProcessor := ⟨deviceId, none⟩

/-- The item of a finger that goes down. -/
def downItem (deviceId : Int32) (time : Int64) (touch : LibinputTouch) (touchInfo : EventTouch) :
    PointerItem :=
  { pressure := touch.pressure
    longAxis := touch.longAxis
    shortAxis := touch.shortAxis
    toolType := touch.toolType
    pointerId := touch.seatSlot
    downTime := time
    pressed := true
    displayX := touchInfo.x
    displayY := touchInfo.y
    toolDisplayX := touchInfo.toolRect.x
    toolDisplayY := touchInfo.toolRect.y
    toolWidth := touchInfo.toolRect.width
    toolHeight := touchInfo.toolRect.height
    deviceId := deviceId }

/-- The item of a finger that moves. -/
def motionItem (item : PointerItem) (touch : LibinputTouch) (touchInfo : EventTouch) :
    PointerItem :=
  { item with
    pressure := touch.pressure
    longAxis := touch.longAxis
    shortAxis := touch.shortAxis
    displayX := touchInfo.x
    displayY := touchInfo.y
    toolDisplayX := touchInfo.toolRect.x
    toolDisplayY := touchInfo.toolRect.y
    toolWidth := touchInfo.toolRect.width
    toolHeight := touchInfo.toolRect.height }

def onEventTouchDown (group : DisplayGroupInfo) (deviceId : Int32) (time : Int64)
    (touch : LibinputTouch) (event : PointerEvent) : Bool × PointerEvent :=
  match touchPointToDisplayPoint group touch with
  | none => (false, event)
  | some (touchInfo, logicalDisplayId) =>
      let event :=
        if event.getPointerIds.isEmpty then
          (event.setActionStartTime time).setTargetDisplayId logicalDisplayId
        else event
      let event := ((event.setActionTime time).setPointerAction pointerActionDown).setDeviceId deviceId
      (true, (event.addPointerItem (downItem deviceId time touch touchInfo)).setPointerId
        touch.seatSlot)

def onEventTouchMotion (group : DisplayGroupInfo) (time : Int64) (touch : LibinputTouch)
    (event : PointerEvent) : Bool × PointerEvent :=
  let event := (event.setActionTime time).setPointerAction pointerActionMove
  match touchPointToDisplayPoint group touch with
  | none => (false, event)
  | some (touchInfo, _) =>
      match event.getPointerItem touch.seatSlot with
      | none => (false, event)
      | some item =>
          (true, (event.updatePointerItem touch.seatSlot
            (motionItem item touch touchInfo)).setPointerId touch.seatSlot)

def onEventTouchUp (time : Int64) (touch : LibinputTouch) (event : PointerEvent) :
    Bool × PointerEvent :=
  let event := (event.setActionTime time).setPointerAction pointerActionUp
  match event.getPointerItem touch.seatSlot with
  | none => (false, event)
  | some item =>
      (true, (event.updatePointerItem touch.seatSlot { item with pressed := false }).setPointerId
        touch.seatSlot)

/-- The handler of the report's type. -/
def onEventTouch (group : DisplayGroupInfo) (deviceId : Int32) (time : Int64)
    (touch : LibinputTouch) (event : PointerEvent) : Bool × PointerEvent :=
  match touch.type with
  | .down => onEventTouchDown group deviceId time touch event
  | .up => onEventTouchUp time touch event
  | .motion => onEventTouchMotion group time touch event

namespace TouchTransformProcessor

/-- The event of the processor; the first report makes it. -/
def event (p : TouchTransformProcessor) (now : Int64) : PointerEvent :=
  p.pointerEvent.getD (.create now)

/-- The report is written into the event, if it can be. -/
def writeReport (env : Env) (s : InputWindowsManager) (p : TouchTransformProcessor)
    (touch : LibinputTouch) : Bool × PointerEvent :=
  onEventTouch s.displayGroupInfo p.deviceId env.time touch (p.event env.time)

/-- The event for which `OnEvent` asks for a target. -/
def ready (env : Env) (s : InputWindowsManager) (p : TouchTransformProcessor)
    (touch : LibinputTouch) : PointerEvent :=
  ((p.writeReport env s touch).2.setSourceType sourceTypeTouchscreen).setId s.nextEventId

/-- `OnEvent`: if the event is returned, the processor with it, and the window
manager. -/
def onEvent (env : Env) (s : InputWindowsManager) (p : TouchTransformProcessor)
    (touch : LibinputTouch) : Bool × TouchTransformProcessor × InputWindowsManager :=
  if (p.writeReport env s touch).1 then
    let target := s.updateId.updateTargetPointer env .other (p.ready env s touch)
    (true, { p with pointerEvent := some target.2.1 }, target.2.2)
  else (false, { p with pointerEvent := some (p.writeReport env s touch).2 }, s)

/-- `ResetTouchUpEvent` -/
def resetTouchUpEvent (now : Int64) (p : TouchTransformProcessor) (touch : LibinputTouch) :
    TouchTransformProcessor :=
  match p.pointerEvent with
  | none => p
  | some event =>
      if touch.type = .up then
        let event := event.removePointerItem event.pointerId
        { p with
          pointerEvent := some (if event.getPointerIds.isEmpty then event.reset now else event) }
      else p

end TouchTransformProcessor

end FtMmi.TouchEventNormalize
