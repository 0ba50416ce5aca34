/-
FtMmi.TouchEventNormalize.GestureTransformProcessor — the event of the
gestures of a touchpad (`gesture_transform_processor.cpp`).

A gesture is reported as an axis of the mouse, at the place and with the
buttons that the mouse has then. Of the gestures only the pinch is
reported; the event is never reset.
-/
import FtMmi.MouseEventNormalize.MouseEventNormalize
import FtMmi.TouchEventNormalize.TabletToolTransformProcessor

namespace FtMmi.TouchEventNormalize

open FtMmi.Event
open FtMmi.MouseEventNormalize
open FtMmi.WindowManager

/-- `LIBINPUT_EVENT_GESTURE_PINCH_BEGIN` and so on; the three of a swipe are
treated alike. -/
inductive GestureType where
  | pinchBegin
  | pinchUpdate
  | pinchEnd
  | swipe
  deriving DecidableEq, Repr

/-- `libinput_event_gesture`, and what `MouseState` is then. -/
structure LibinputGesture where
  type : GestureType
  time : Int64
  scale : Double
  mouseCoordsX : Int32
  mouseCoordsY : Int32
  isLeftBtnPressed : Bool
  pressedButtons : List Int32

structure GestureTransformProcessor where
  deviceId : Int32
  pointerEvent : Option PointerEvent

def GestureTransformProcessor.create (deviceId : Int32) : GestureTransformProcessor :=
  ⟨deviceId, none⟩

/-- The item with what the mouse has. -/
def pinchItem (item : PointerItem) (gesture : LibinputGesture) : PointerItem :=
  { item with
    displayX := gesture.mouseCoordsX
    displayY := gesture.mouseCoordsY
    pressed := gesture.isLeftBtnPressed }

/-- `ClearButtonPressed`, and then `SetButtonPressed` for each button. -/
def setPressedButtons (gesture : LibinputGesture) (event : PointerEvent) : PointerEvent :=
  gesture.pressedButtons.foldl PointerEvent.setButtonPressed event.clearButtonPressed

def onEventTouchPadPinchBegin (deviceId : Int32) (now : Int64) (gesture : LibinputGesture)
    (event : PointerEvent) : PointerEvent :=
  let event := (event.setActionTime now).setActionStartTime gesture.time
  let item : PointerItem :=
    { downTime := gesture.time, deviceId := deviceId, pointerId := defaultPointerId }
  let event := setPressedButtons gesture (event.addPointerItem (pinchItem item gesture))
  (((event.setDeviceId deviceId).setTargetDisplayId 0).setPointerId defaultPointerId).setAxisValue
    .pinch gesture.scale

/-- `OnEventTouchPadPinchUpdate`, and `OnEventTouchPadPinchEnd`, which does the
same. -/
def onEventTouchPadPinchUpdate (now : Int64) (gesture : LibinputGesture) (event : PointerEvent) :
    PointerEvent :=
  let event := (event.setActionTime now).setActionStartTime gesture.time
  let item := (event.getPointerItem defaultPointerId).getD {}
  let event := setPressedButtons gesture
    (event.updatePointerItem defaultPointerId (pinchItem item gesture))
  event.setAxisValue .pinch gesture.scale

namespace GestureTransformProcessor

/-- The event written, for a pinch. -/
def writeGesture (env : Env) (p : GestureTransformProcessor) (gesture : LibinputGesture) :
    Option PointerEvent :=
  let event := p.pointerEvent.getD (.create env.time)
  match gesture.type with
  | .pinchBegin => some (onEventTouchPadPinchBegin p.deviceId env.time gesture
      (event.setPointerAction pointerActionAxisBegin))
  | .pinchUpdate => some (onEventTouchPadPinchUpdate env.time gesture
      (event.setPointerAction pointerActionAxisUpdate))
  | .pinchEnd => some (onEventTouchPadPinchUpdate env.time gesture
      (event.setPointerAction pointerActionAxisEnd))
  | .swipe => none

/-- `OnEvent`: the event returned, and the processor with it. -/
def onEvent (env : Env) (s : InputWindowsManager) (p : GestureTransformProcessor)
    (gesture : LibinputGesture) : Option PointerEvent × GestureTransformProcessor :=
  match p.writeGesture env gesture with
  | some event =>
      let event := (event.setSourceType sourceTypeMouse).setId s.nextEventId
      (some event, { p with pointerEvent := some event })
  | none => (none, { p with pointerEvent := some (p.pointerEvent.getD (.create env.time)) })

end GestureTransformProcessor

end FtMmi.TouchEventNormalize
