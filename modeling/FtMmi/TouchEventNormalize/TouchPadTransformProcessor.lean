/-
FtMmi.TouchEventNormalize.TouchPadTransformProcessor — the event of a
touchpad (`touchpad_transform_processor.cpp`) and what is done with it
after each report (`HandleTouchPadEvent` in `event_normalize_handler.cpp`),
in a build with `FT_BUILD_ENABLE_TOUCHPAD_EVENT`.

A report of a finger that has no item is returned all the same, with the
action of the report.
-/
import FtMmi.WindowManager.InputWindowsManager

namespace FtMmi.TouchEventNormalize

open FtMmi.Event
open FtMmi.WindowManager

/-- `LIBINPUT_EVENT_TOUCHPAD_DOWN`, `LIBINPUT_EVENT_TOUCHPAD_UP` and
`LIBINPUT_EVENT_TOUCHPAD_MOTION` -/
inductive TouchPadType where
  | down
  | up
  | motion
  deriving DecidableEq, Repr

/-- `libinput_event_touch` of a touchpad -/
structure LibinputTouchPad where
  type : TouchPadType
  seatSlot : Int32
  longAxis : Int32
  shortAxis : Int32
  pressure : Double
  x : Int32
  y : Int32
  toolX : Int32
  toolY : Int32
  toolWidth : Int32
  toolHeight : Int32
  /-- `GetTouchPadToolType(touchpad, device)` -/
  toolType : Int32

structure TouchPadTransformProcessor where
  deviceId : Int32
  pointerEvent : Option PointerEvent

def TouchPadTransformProcessor.create (deviceId : Int32) : TouchPadTransformProcessor :=
  ⟨deviceId, none⟩

/-- The item with what a finger that is down or moves has. -/
def touchPadItem (item : PointerItem) (touchpad : LibinputTouchPad) : PointerItem :=
  { item with
    longAxis := touchpad.longAxis
    shortAxis := touchpad.shortAxis
    pressure := touchpad.pressure
    displayX := touchpad.x
    displayY := touchpad.y
    toolDisplayX := touchpad.toolX
    toolDisplayY := touchpad.toolY
    toolWidth := touchpad.toolWidth
    toolHeight := touchpad.toolHeight }

def onEventTouchPadDown (deviceId : Int32) (time : Int64) (touchpad : LibinputTouchPad)
    (event : PointerEvent) : PointerEvent :=
  let event := if event.getPointerIds.isEmpty then event.setActionStartTime time else event
  let event := (event.setActionTime time).setPointerAction pointerActionDown
  let item : PointerItem :=
    { toolType := touchpad.toolType
      pointerId := touchpad.seatSlot
      downTime := time
      pressed := true
      deviceId := deviceId }
  ((event.setDeviceId deviceId).addPointerItem (touchPadItem item touchpad)).setPointerId
    touchpad.seatSlot

def onEventTouchPadMotion (time : Int64) (touchpad : LibinputTouchPad) (event : PointerEvent) :
    PointerEvent :=
  let event := (event.setActionTime time).setPointerAction pointerActionMove
  match event.getPointerItem touchpad.seatSlot with
  | none => event
  | some item =>
      (event.updatePointerItem touchpad.seatSlot (touchPadItem item touchpad)).setPointerId
        touchpad.seatSlot

def onEventTouchPadUp (time : Int64) (touchpad : LibinputTouchPad) (event : PointerEvent) :
    PointerEvent :=
  let event := (event.setActionTime time).setPointerAction pointerActionUp
  match event.getPointerItem touchpad.seatSlot with
  | none => event
  | some item =>
      (event.updatePointerItem touchpad.seatSlot { item with pressed := false }).setPointerId
        touchpad.seatSlot

namespace TouchPadTransformProcessor

/-- The event `OnEvent` returns. -/
def onEvent (env : Env) (s : InputWindowsManager) (p : TouchPadTransformProcessor)
    (touchpad : LibinputTouchPad) : PointerEvent :=
  let event := p.pointerEvent.getD (.create env.time)
  let event :=
    match touchpad.type with
    | .down => onEventTouchPadDown p.deviceId env.time touchpad event
    | .up => onEventTouchPadUp env.time touchpad event
    | .motion => onEventTouchPadMotion env.time touchpad event
  (event.setSourceType sourceTypeTouchpad).setId s.nextEventId

/-- `HandleTouchPadEvent`: the event passed on, and the processor after it. -/
def handleTouchPadEvent (env : Env) (s : InputWindowsManager) (p : TouchPadTransformProcessor)
    (touchpad : LibinputTouchPad) : PointerEvent × TouchPadTransformProcessor :=
  let event := p.onEvent env s touchpad
  let after :=
    if touchpad.type = .up then
      let event := event.removePointerItem event.pointerId
      if event.getPointerIds.isEmpty then event.reset env.time else event
    else event
  (event, { p with pointerEvent := some after })

end TouchPadTransformProcessor

end FtMmi.TouchEventNormalize
