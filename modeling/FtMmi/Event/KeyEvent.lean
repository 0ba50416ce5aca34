/-
FtMmi.Event.KeyEvent — `InputEvent` and `KeyEvent` (`input_event.cpp`,
`key_event.cpp`): the data of the two classes, the setters the packet
codec uses, and the operations on the items by which the keys held down
are kept.

The type of an event is fixed when it is constructed and no setter
changes it, so it is a parameter of the type `InputEvent`. The clock
reading that `Reset()` takes is an argument of the constructors; the sum
in it does not overflow for any uptime. The processed callback travels
with no packet and is left out.
-/
import FtMmi.Lib.ByteImage

namespace FtMmi.Event

/-! ## InputEvent -/

def eventTypeKey : Int32 := 0x00010000

def eventTypePointer : Int32 := 0x00020000

def actionUnknown : Int32 := 0

def eventFlagNone : UInt32 := 0

structure InputEvent (eventType : Int32) where
  id : Int32
  actionTime : Int64
  action : Int32
  actionStartTime : Int64
  deviceId : Int32
  targetDisplayId : Int32
  targetWindowId : Int32
  agentWindowId : Int32
  bitwise : UInt32
  deriving DecidableEq, Repr

namespace InputEvent

variable {eventType : Int32}

/-- The constructor, which calls `Reset()`, at the time `now`. -/
def create (now : Int64) : InputEvent eventType where
  id := -1
  actionTime := now
  action := actionUnknown
  actionStartTime := now
  deviceId := -1
  targetDisplayId := -1
  targetWindowId := -1
  agentWindowId := -1
  bitwise := eventFlagNone

def addFlag (event : InputEvent eventType) (flag : UInt32) : InputEvent eventType :=
  { event with bitwise := event.bitwise ||| flag }

/-- `InputEvent(const InputEvent &)` -/
def copy (other : InputEvent eventType) : InputEvent eventType where
  id := other.id
  actionTime := other.actionTime
  action := other.action
  actionStartTime := other.actionStartTime
  deviceId := other.deviceId
  targetDisplayId := other.targetDisplayId
  targetWindowId := other.targetWindowId
  agentWindowId := other.agentWindowId
  bitwise := other.bitwise

@[simp] theorem copy_eq (other : InputEvent eventType) :
    other.copy = other := rfl

end InputEvent

/-! ## KeyEvent -/

structure KeyItem where
  pressed : Bool := false
  deviceId : Int32 := -1
  keyCode : Int32 := -1
  downTime : Int64 := 0
  unicode : UInt32 := 0
  deriving DecidableEq, Repr

inductive FunctionKey where
  | numLock
  | capsLock
  | scrollLock
  deriving DecidableEq, Repr

structure KeyEvent extends InputEvent eventTypeKey where
  keyCode : Int32
  keys : List KeyItem
  keyAction : Int32
  numLock : Bool
  capsLock : Bool
  scrollLock : Bool
  deriving DecidableEq, Repr

def keyCodeNumLock : Int32 := 2102

def keyCodeCapsLock : Int32 := 2074

def keyCodeScrollLock : Int32 := 2075

def keyActionDown : Int32 := 2

def keyActionUp : Int32 := 3

namespace KeyEvent

/-- `KeyEvent::Create()` -/
def create (now : Int64) : KeyEvent where
  toInputEvent := .create now
  keyCode := -1
  keys := []
  keyAction := 0
  numLock := false
  capsLock := false
  scrollLock := false

/-- `KeyEvent(const KeyEvent &)`. The members that are not listed there have
the values of their declarations. -/
def copy (other : KeyEvent) : KeyEvent where
  toInputEvent := other.toInputEvent.copy
  keyCode := other.keyCode
  keys := other.keys
  keyAction := other.keyAction
  numLock := false
  capsLock := false
  scrollLock := false

/-- A copied key event has no lock on, and is the same otherwise. -/
theorem copy_eq (other : KeyEvent) :
    other.copy = { other with numLock := false, capsLock := false, scrollLock := false } := rfl

@[simp] theorem copy_keyCode (other : KeyEvent) : other.copy.keyCode = other.keyCode := rfl

def addKeyItem (key : KeyEvent) (keyItem : KeyItem) : KeyEvent :=
  { key with keys := key.keys ++ [keyItem] }

def getFunctionKey (key : KeyEvent) : FunctionKey → Bool
  | .numLock => key.numLock
  | .capsLock => key.capsLock
  | .scrollLock => key.scrollLock

def setFunctionKey (key : KeyEvent) (funcKey : FunctionKey) (state : Bool) : KeyEvent :=
  match funcKey with
  | .numLock => { key with numLock := state }
  | .capsLock => { key with capsLock := state }
  | .scrollLock => { key with scrollLock := state }

def transitionFunctionKey (keyCode : Int32) : Option FunctionKey :=
  if keyCode = keyCodeNumLock then some .numLock
  else if keyCode = keyCodeCapsLock then some .capsLock
  else if keyCode = keyCodeScrollLock then some .scrollLock
  else none

def getPressedKeys (key : KeyEvent) : List Int32 :=
  (key.keys.filter KeyItem.pressed).map KeyItem.keyCode

def getKeyItem (key : KeyEvent) (keyCode : Int32) : Option KeyItem :=
  key.keys.find? fun item => item.keyCode = keyCode

def addPressedKeyItems (key : KeyEvent) (keyItem : KeyItem) : KeyEvent :=
  if keyItem.keyCode ∈ key.getPressedKeys then key else key.addKeyItem keyItem

def removeReleasedKeyItems (key : KeyEvent) (keyItem : KeyItem) : KeyEvent :=
  { key with keys := key.keys.filter fun item => item.keyCode ≠ keyItem.keyCode }

@[simp] theorem addKeyItem_keys (key : KeyEvent) (keyItem : KeyItem) :
    (key.addKeyItem keyItem).keys = key.keys ++ [keyItem] := rfl

@[simp] theorem setFunctionKey_keys (key : KeyEvent) (funcKey : FunctionKey) (state : Bool) :
    (key.setFunctionKey funcKey state).keys = key.keys := by
  cases funcKey <;> rfl

@[simp] theorem removeReleasedKeyItems_keys (key : KeyEvent) (keyItem : KeyItem) :
    (key.removeReleasedKeyItems keyItem).keys
      = key.keys.filter fun item => item.keyCode ≠ keyItem.keyCode := rfl

theorem mem_getPressedKeys {key : KeyEvent} {keyCode : Int32} :
    keyCode ∈ key.getPressedKeys ↔ ∃ item ∈ key.keys, item.pressed = true ∧ item.keyCode = keyCode := by
  simp only [getPressedKeys, List.mem_map, List.mem_filter, and_assoc]

end KeyEvent

end FtMmi.Event
