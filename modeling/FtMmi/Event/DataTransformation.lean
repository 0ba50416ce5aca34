/-
FtMmi.Event.DataTransformation — the packet codec of key and pointer
events (`input_event_data_transformation.cpp`).

The functions are written as the source has them: a local variable that
is read into keeps its value when the read fails, the error status is
looked at where the source looks at it, and a `while` over a count read
from the packet is a recursion on that count. Locals that the source
leaves uninitialised hold an arbitrary value, an argument of the function
(`Uninit`). A null event is not modelled.
-/
import FtMmi.Event.PointerEvent
import FtMmi.Network.PacketM
import FtMmi.Util.Config

namespace FtMmi.Event

open FtMmi.Lib
open FtMmi.Network

/-! ## The common part of events -/

def serializeInputEvent {eventType : Int32} (event : InputEvent eventType) : PacketM Int := do
  push eventType
  push event.id
  push event.actionTime
  push event.action
  push event.actionStartTime
  push event.deviceId
  push event.targetDisplayId
  push event.targetWindowId
  push event.agentWindowId
  push event.bitwise
  checkRWError

/-- The reads of `DeserializeInputEvent`: the event with all but the flag
set, and the flag. The source reads into two locals, `tField` and `rField`,
so a read that fails repeats the last value of its local. -/
def readInputEvent {eventType : Int32} (event : InputEvent eventType) :
    PacketM (InputEvent eventType × UInt32) := do
  let tField ← pull (0 : Int32)
  let id ← pull tField
  let actionTime ← pull (0 : Int64)
  let action ← pull id
  let actionStartTime ← pull actionTime
  let deviceId ← pull action
  let targetDisplayId ← pull deviceId
  let targetWindowId ← pull targetDisplayId
  let agentWindowId ← pull targetWindowId
  let tFlag ← pull eventFlagNone
  let event : InputEvent eventType :=
    { id, actionTime, action, actionStartTime, deviceId, targetDisplayId, targetWindowId,
      agentWindowId, bitwise := event.bitwise }
  pure (event, tFlag)

def deserializeInputEvent {eventType : Int32} (event : InputEvent eventType) :
    PacketM (Int × InputEvent eventType) := do
  let r ← readInputEvent event
  if (← rwError) then pure (retErr, r.1) else pure (retOk, r.1.addFlag r.2)

/-! ## Key events -/

def pushKeyItem (item : KeyItem) : PacketM Unit := do
  push item.keyCode
  push item.downTime
  push item.deviceId
  push item.pressed
  push item.unicode

def keyEventToNetPacket (key : KeyEvent) : PacketM Int := do
  if (← serializeInputEvent key.toInputEvent) ≠ retOk then pure retErr
  else
    push key.keyCode
    push key.keyAction
    let size := Int32.ofNat key.keys.length
    if (maxKeySize : Int) < size.toInt then pure retErr
    else
      push size
      forM key.keys pushKeyItem
      push (key.getFunctionKey .numLock)
      push (key.getFunctionKey .capsLock)
      push (key.getFunctionKey .scrollLock)
      checkRWError

/-- The item loop of `NetPacketToKeyEvent`. `data` and `isPressed` are
declared outside of it. -/
def readKeyItems (unicode : UInt32) : Nat → Int32 → Bool → KeyEvent → PacketM (Int × KeyEvent)
  | 0, _, _, key => pure (retOk, key)
  | n + 1, data, isPressed, key => do
      let keyCode ← pull data
      let datatime ← pull (0 : Int64)
      let deviceId ← pull keyCode
      let isPressed ← pull isPressed
      if (← rwError) then pure (retErr, key)
      else
        let unicode' ← pull unicode
        let keyItem : KeyItem :=
          { keyCode, downTime := datatime, deviceId, pressed := isPressed, unicode := unicode' }
        readKeyItems unicode n deviceId isPressed (key.addKeyItem keyItem)

/-- The function keys, read into one variable one after the other. -/
def readFunctionKeys (key : KeyEvent) : PacketM KeyEvent := do
  let state ← pull false
  let key := key.setFunctionKey .numLock state
  let state ← pull state
  let key := key.setFunctionKey .capsLock state
  let state ← pull state
  pure (key.setFunctionKey .scrollLock state)

/-- Everything of `NetPacketToKeyEvent` behind the item count. -/
def readKeyEventRest (unicode : UInt32) (size data : Int32) (key : KeyEvent) :
    PacketM (Int × KeyEvent) := do
  if (maxKeySize : Int) < size.toInt then pure (retErr, key)
  else if (← rwError) then pure (retErr, key)
  else
    -- A negative count makes no iteration.
    let r ← readKeyItems unicode size.toInt.toNat data false key
    if r.1 ≠ retOk then pure (retErr, r.2)
    else
      let key ← readFunctionKeys r.2
      pure (retOk, key)

/-- `NetPacketToKeyEvent`; `unicode` is the uninitialised local of its loop. -/
def netPacketToKeyEvent (unicode : UInt32) (key : KeyEvent) : PacketM (Int × KeyEvent) := do
  let r ← deserializeInputEvent key.toInputEvent
  let key := { key with toInputEvent := r.2 }
  if r.1 ≠ retOk then pure (retErr, key)
  else
    let data ← pull (0 : Int32)
    let key := { key with keyCode := data }
    let data ← pull data
    let key := { key with keyAction := data }
    let size ← pull (0 : Int32)
    readKeyEventRest unicode size data key

/-! ## Pointer events -/

/-- `pkt << event->GetAxisValue(axis)` if the event has the axis. -/
def pushAxis (event : PointerEvent) (axis : AxisType) : PacketM Unit :=
  if hasAxis event.axes axis then push (event.getAxisValue axis) else pure ()

def serializePointerItem (item : PointerItem) : PacketM Int := do
  push item
  checkRWError

def serializePointerItems (event : PointerEvent) : List Int32 → PacketM Int
  | [] => pure retOk
  | pointerId :: rest =>
      match event.getPointerItem pointerId with
      | none => pure retErr
      | some item => do
          if (← serializePointerItem item) ≠ retOk then pure retErr
          else serializePointerItems event rest

/-- `pkt << pressedKeys.size()`, the keys, and the check at the end. -/
def serializePressedKeys (event : PointerEvent) : PacketM Int := do
  push (UInt64.ofNat event.pressedKeys.length)
  forM event.pressedKeys push
  checkRWError

def marshalling (event : PointerEvent) : PacketM Int := do
  if (← serializeInputEvent event.toInputEvent) ≠ retOk then pure retErr
  else
    push event.pointerAction
    push event.pointerId
    push event.sourceType
    push event.buttonId
    push event.axes
    pushAxis event .scrollVertical
    pushAxis event .scrollHorizontal
    pushAxis event .pinch
    push (UInt64.ofNat event.pressedButtons.length)
    forM event.pressedButtons push
    push (UInt64.ofNat event.getPointerIds.length)
    if (← serializePointerItems event event.getPointerIds) ≠ retOk then pure retErr
    else serializePressedKeys event

/-- The values of the locals that `Unmarshalling` leaves uninitialised. -/
structure Uninit where
  tField : Int32
  tAxes : UInt32
  axisValue : Double
  nPressed : UInt64
  pointerCnt : UInt64
  pressedKeySize : UInt64

/-- Read the value of an axis if the mask has it. -/
def pullAxis (tAxes : UInt32) (axis : AxisType) (axisValue : Double) (event : PointerEvent) :
    PacketM (Double × PointerEvent) := do
  if hasAxis tAxes axis then
    let axisValue ← pull axisValue
    pure (axisValue, event.setAxisValue axis axisValue)
  else pure (axisValue, event)

/-- `while (nPressed-- > 0)` -/
def readButtons : Nat → Int32 → PointerEvent → PacketM (Int32 × PointerEvent)
  | 0, tField, event => pure (tField, event)
  | n + 1, tField, event => do
      let tField ← pull tField
      readButtons n tField (event.setButtonPressed tField)

def deserializePointerItem (item : PointerItem) : PacketM (Int × PointerItem) := do
  let item ← pull item
  if (← rwError) then pure (retErr, item) else pure (retOk, item)

/-- `while (pointerCnt-- > 0)` -/
def readPointerItems : Nat → PointerEvent → PacketM (Int × PointerEvent)
  | 0, event => pure (retOk, event)
  | n + 1, event => do
      let r ← deserializePointerItem {}
      if r.1 ≠ retOk then pure (retErr, event)
      else readPointerItems n (event.addPointerItem r.2)

/-- `while (pressedKeySize-- > 0)` -/
def readPressedKeys : Nat → Int32 → List Int32 → PacketM (List Int32)
  | 0, _, pressedKeys => pure pressedKeys
  | n + 1, tField, pressedKeys => do
      let tField ← pull tField
      readPressedKeys n tField (pressedKeys ++ [tField])

/-- The fixed part of `Unmarshalling`: the last value read into `tField`,
the axis mask and the event. -/
def readPointerFields (junk : Uninit) (event : PointerEvent) :
    PacketM (Int32 × UInt32 × PointerEvent) := do
  let tField ← pull junk.tField
  let event := event.setPointerAction tField
  let tField ← pull tField
  let event := event.setPointerId tField
  let tField ← pull tField
  let event := event.setSourceType tField
  let tField ← pull tField
  let event := event.setButtonId tField
  let tAxes ← pull junk.tAxes
  pure (tField, tAxes, event)

/-- The axis values of `Unmarshalling`. -/
def readAxisValues (junk : Uninit) (tAxes : UInt32) (event : PointerEvent) :
    PacketM PointerEvent := do
  let r ← pullAxis tAxes .scrollVertical junk.axisValue event
  let r ← pullAxis tAxes .scrollHorizontal r.1 r.2
  let r ← pullAxis tAxes .pinch r.1 r.2
  pure r.2

/-- Everything of `Unmarshalling` behind the axis values. -/
def readCollections (junk : Uninit) (tField : Int32) (event : PointerEvent) :
    PacketM (Int × PointerEvent) := do
  let nPressed ← pull junk.nPressed
  let r ← readButtons nPressed.toNat tField event
  let tField := r.1
  let pointerCnt ← pull junk.pointerCnt
  let r ← readPointerItems pointerCnt.toNat r.2
  if r.1 ≠ retOk then pure (retErr, r.2)
  else
    let event := r.2
    let pressedKeySize ← pull junk.pressedKeySize
    let pressedKeys ← readPressedKeys pressedKeySize.toNat tField []
    if (← rwError) then pure (retErr, event) else pure (retOk, event.setPressedKeys pressedKeys)

def unmarshalling (junk : Uninit) (event : PointerEvent) : PacketM (Int × PointerEvent) := do
  let r ← deserializeInputEvent event.toInputEvent
  let event := event.setBase r.2
  if r.1 ≠ retOk then pure (retErr, event)
  else
    let fields ← readPointerFields junk event
    let event ← readAxisValues junk fields.2.1 fields.2.2
    readCollections junk fields.1 event

end FtMmi.Event
