/-
FtMmi.Event.Parcel — `WriteToParcel` and `ReadFromParcel` of key and
pointer events (`input_event.cpp`, `key_event.cpp`, `pointer_event.cpp`).

A `Parcel` is a queue of typed values. A write may fail at any time, for
which `accepts` stands; a function that returns false is one that fails,
and what it did to the event until then is dropped with the event.

`ReadFromParcel` also reads the type of the event, which is part of the
type of an event here and therefore returned beside it.
-/
import FtMmi.Event.PointerEvent
import FtMmi.Lib.TypedQueue

namespace FtMmi.Event

open FtMmi.Lib.TypedQueue

/-! ## Parcels -/

inductive ParcelValue where
  | int32 (v : Int32)
  | uint32 (v : UInt32)
  | int64 (v : Int64)
  | bool (v : Bool)
  | double (v : Double)
  deriving DecidableEq

abbrev ParcelM := QueueM ParcelValue

def readInt32 : ParcelM Int32 := dequeue fun
  | .int32 v => some v
  | _ => none

/-- `ReadInt32()` that returns the value, 0 when there is none. -/
def readInt32Value : ParcelM Int32 := dequeueD (fun
  | .int32 v => some v
  | _ => none) 0

def readUint32 : ParcelM UInt32 := dequeue fun
  | .uint32 v => some v
  | _ => none

def readInt64 : ParcelM Int64 := dequeue fun
  | .int64 v => some v
  | _ => none

def readBool : ParcelM Bool := dequeue fun
  | .bool v => some v
  | _ => none

def readDouble : ParcelM Double := dequeue fun
  | .double v => some v
  | _ => none

section Writing

variable (accepts : List ParcelValue → ParcelValue → Bool)

/-! ## Writing -/

def InputEvent.writeToParcel {eventType : Int32} (event : InputEvent eventType) :
    ParcelM Unit := do
  enqueue accepts (.int32 eventType)
  enqueue accepts (.int32 event.id)
  enqueue accepts (.int64 event.actionTime)
  enqueue accepts (.int32 event.action)
  enqueue accepts (.int64 event.actionStartTime)
  enqueue accepts (.int32 event.deviceId)
  enqueue accepts (.int32 event.targetDisplayId)
  enqueue accepts (.int32 event.targetWindowId)
  enqueue accepts (.int32 event.agentWindowId)
  enqueue accepts (.uint32 event.bitwise)

def KeyItem.writeToParcel (item : KeyItem) : ParcelM Unit := do
  enqueue accepts (.bool item.pressed)
  enqueue accepts (.int64 item.downTime)
  enqueue accepts (.int32 item.deviceId)
  enqueue accepts (.int32 item.keyCode)

/-- `INT_MAX` -/
def intMax : Nat := 2147483647

def KeyEvent.writeToParcel (key : KeyEvent) : ParcelM Unit := do
  key.toInputEvent.writeToParcel accepts
  enqueue accepts (.int32 key.keyCode)
  if intMax < key.keys.length then failure
  else
    enqueue accepts (.int32 (Int32.ofNat key.keys.length))
    forM key.keys fun item => item.writeToParcel accepts
    enqueue accepts (.int32 key.keyAction)

def PointerItem.writeToParcel (item : PointerItem) : ParcelM Unit := do
  enqueue accepts (.int32 item.pointerId)
  enqueue accepts (.int64 item.downTime)
  enqueue accepts (.bool item.pressed)
  enqueue accepts (.int32 item.displayX)
  enqueue accepts (.int32 item.displayY)
  enqueue accepts (.int32 item.windowX)
  enqueue accepts (.int32 item.windowY)
  enqueue accepts (.int32 item.width)
  enqueue accepts (.int32 item.height)
  enqueue accepts (.int32 item.toolDisplayX)
  enqueue accepts (.int32 item.toolDisplayY)
  enqueue accepts (.int32 item.toolWindowX)
  enqueue accepts (.int32 item.toolWindowY)
  enqueue accepts (.int32 item.toolWidth)
  enqueue accepts (.int32 item.toolHeight)
  enqueue accepts (.double item.tiltX)
  enqueue accepts (.double item.tiltY)
  enqueue accepts (.double item.pressure)
  enqueue accepts (.int32 item.longAxis)
  enqueue accepts (.int32 item.shortAxis)
  enqueue accepts (.int32 item.toolType)
  enqueue accepts (.int32 item.deviceId)
  enqueue accepts (.int32 item.rawDx)
  enqueue accepts (.int32 item.rawDy)

/-- `AXIS_TYPE_UNKNOWN` and on, up to `AXIS_TYPE_MAX`. -/
def axisTypes : List AxisType := [.unknown, .scrollVertical, .scrollHorizontal, .pinch]

def PointerEvent.writeAxis (event : PointerEvent) (axis : AxisType) : ParcelM Unit :=
  if hasAxis event.axes axis then enqueue accepts (.double (event.getAxisValue axis)) else pure ()

def PointerEvent.writeToParcel (event : PointerEvent) : ParcelM Unit := do
  event.toInputEvent.writeToParcel accepts
  enqueue accepts (.int32 event.pointerId)
  enqueue accepts (.int32 (Int32.ofNat event.pointers.length))
  forM event.pointers fun item => item.writeToParcel accepts
  enqueue accepts (.int32 (Int32.ofNat event.pressedButtons.length))
  forM event.pressedButtons fun item => enqueue accepts (.int32 item)
  enqueue accepts (.int32 event.sourceType)
  enqueue accepts (.int32 event.pointerAction)
  enqueue accepts (.int32 event.buttonId)
  enqueue accepts (.uint32 event.axes)
  forM axisTypes fun axis => event.writeAxis accepts axis

end Writing

/-! ## Reading -/

def InputEvent.readFromParcel {eventType : Int32} (_ : InputEvent eventType) :
    ParcelM (Int32 × InputEvent eventType) := do
  let type ← readInt32
  let id ← readInt32
  let actionTime ← readInt64
  let action ← readInt32
  let actionStartTime ← readInt64
  let deviceId ← readInt32
  let targetDisplayId ← readInt32
  let targetWindowId ← readInt32
  let agentWindowId ← readInt32
  let bitwise ← readUint32
  pure (type,
    { id, actionTime, action, actionStartTime, deviceId, targetDisplayId, targetWindowId,
      agentWindowId, bitwise })

def KeyItem.readFromParcel (val : KeyItem) : ParcelM KeyItem := do
  let pressed ← readBool
  let downTime ← readInt64
  let deviceId ← readInt32
  let keyCode ← readInt32
  pure { val with pressed, downTime, deviceId, keyCode }

/-- The loop over the items. -/
def KeyEvent.readItems : Nat → KeyEvent → ParcelM KeyEvent
  | 0, key => pure key
  | n + 1, key => do
      let val ← KeyItem.readFromParcel {}
      readItems n { key with keys := key.keys ++ [val] }

def KeyEvent.readFromParcel (key : KeyEvent) : ParcelM (Int32 × KeyEvent) := do
  let r ← key.toInputEvent.readFromParcel
  let keyCode ← readInt32
  let key := { key with toInputEvent := r.2, keyCode }
  let keysSize ← readInt32Value
  if keysSize < 0 then failure
  else
    let key ← key.readItems keysSize.toInt.toNat
    let keyAction ← readInt32
    pure (r.1, { key with keyAction })

def PointerItem.readFromParcel (item : PointerItem) : ParcelM PointerItem := do
  let pointerId ← readInt32
  let downTime ← readInt64
  let pressed ← readBool
  let displayX ← readInt32
  let displayY ← readInt32
  let windowX ← readInt32
  let windowY ← readInt32
  let width ← readInt32
  let height ← readInt32
  let toolDisplayX ← readInt32
  let toolDisplayY ← readInt32
  let toolWindowX ← readInt32
  let toolWindowY ← readInt32
  let toolWidth ← readInt32
  let toolHeight ← readInt32
  let tiltX ← readDouble
  let tiltY ← readDouble
  let pressure ← readDouble
  let longAxis ← readInt32
  let shortAxis ← readInt32
  let toolType ← readInt32
  let deviceId ← readInt32
  let rawDx ← readInt32
  let rawDy ← readInt32
  pure { item with
    pointerId, downTime, pressed, displayX, displayY, windowX, windowY, width, height,
    toolDisplayX, toolDisplayY, toolWindowX, toolWindowY, toolWidth, toolHeight, tiltX, tiltY,
    pressure, longAxis, shortAxis, toolType, deviceId, rawDx, rawDy }

namespace PointerEvent

/-- The loop over the items. -/
def readItems : Nat → PointerEvent → ParcelM PointerEvent
  | 0, event => pure event
  | n + 1, event => do
      let item ← PointerItem.readFromParcel {}
      readItems n (event.addPointerItem item)

/-- The loop over the pressed buttons. -/
def readButtons : Nat → PointerEvent → ParcelM PointerEvent
  | 0, event => pure event
  | n + 1, event => do
      let buttonId ← readInt32
      readButtons n (event.setButtonPressed buttonId)

/-- The loop over the axes. -/
def readAxes (axes : UInt32) : List AxisType → PointerEvent → ParcelM PointerEvent
  | [], event => pure event
  | axis :: rest, event =>
      if hasAxis axes axis then do
        let val ← readDouble
        readAxes axes rest (event.setAxisValue axis val)
      else readAxes axes rest event

/-- What follows the items and the buttons. -/
def readTail (type : Int32) (event : PointerEvent) : ParcelM (Int32 × PointerEvent) := do
  let sourceType ← readInt32
  let event := event.setSourceType sourceType
  let pointerAction ← readInt32
  let event := event.setPointerAction pointerAction
  let buttonId ← readInt32
  let event := event.setButtonId buttonId
  let axes ← readUint32
  let event ← readAxes axes axisTypes event
  pure (type, event)

/-- The buttons and what follows them. -/
def readButtonsAndTail (type : Int32) (event : PointerEvent) :
    ParcelM (Int32 × PointerEvent) := do
  let nPressedButtons ← readInt32
  if (maxNPressedButtons : Int) < nPressedButtons.toInt then failure
  else
    let event ← event.readButtons nPressedButtons.toInt.toNat
    event.readTail type

def readFromParcel (event : PointerEvent) : ParcelM (Int32 × PointerEvent) := do
  let r ← event.toInputEvent.readFromParcel
  let event := event.setBase r.2
  let pointerId ← readInt32
  let event := event.setPointerId pointerId
  let nPointers ← readInt32
  if (maxNPointerItems : Int) < nPointers.toInt then failure
  else
    let event ← event.readItems nPointers.toInt.toNat
    event.readButtonsAndTail r.1

end PointerEvent

end FtMmi.Event
