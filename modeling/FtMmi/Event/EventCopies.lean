/-
FtMmi.Event.EventCopies — what the copy constructors of events leave out
(`input_event.cpp`, `key_event.cpp`, `pointer_event.cpp`).

Each is a list of members by hand. The one of `KeyEvent` leaves out the
three lock states, which start as `false` in the copy; `Clone` is built on
it, so a delayed delivery reports every lock as off.
-/
import FtMmi.Event.KeyEventRoundTrip

namespace FtMmi.Event

open FtMmi.Lib
open FtMmi.Network

/-! ## The constructors -/

/-- `KeyEvent::Clone` -/
def KeyEvent.clone (keyEvent : Option KeyEvent) : Option KeyEvent := keyEvent.map copy

/-- `PointerEvent(const PointerEvent &)` -/
def PointerEvent.copy (other : PointerEvent) : PointerEvent where
  toInputEvent := other.toInputEvent.copy
  pointerId := other.pointerId
  pointers := other.pointers
  pressedButtons := other.pressedButtons
  sourceType := other.sourceType
  pointerAction := other.pointerAction
  buttonId := other.buttonId
  axes := other.axes
  axisValues := other.axisValues
  pressedKeys := other.pressedKeys
  pointers_length := other.pointers_length
  buttons_sorted := other.buttons_sorted
  buttons_length := other.buttons_length
  axes_lt := other.axes_lt
  axisValues_unset := other.axisValues_unset

@[simp] theorem PointerEvent.copy_eq (other : PointerEvent) : other.copy = other := rfl

/-! ## Telling a copy from its original -/

/-- The accessors agree, and so do the packets the events are written to. -/
structure SameKeyEvent (key other : KeyEvent) : Prop where
  base : other.toInputEvent = key.toInputEvent
  keyCode : other.keyCode = key.keyCode
  keyAction : other.keyAction = key.keyAction
  keyItems : other.keys = key.keys
  keyItem : ∀ keyCode, other.getKeyItem keyCode = key.getKeyItem keyCode
  pressedKeys : other.getPressedKeys = key.getPressedKeys
  functionKey : ∀ funcKey, other.getFunctionKey funcKey = key.getFunctionKey funcKey
  packet : ∀ pkt, (keyEventToNetPacket other).run pkt = (keyEventToNetPacket key).run pkt

structure SamePointerEvent (event other : PointerEvent) : Prop where
  base : other.toInputEvent = event.toInputEvent
  pointerId : other.pointerId = event.pointerId
  pointerIds : other.getPointerIds = event.getPointerIds
  pointerItem : ∀ pointerId, other.getPointerItem pointerId = event.getPointerItem pointerId
  pressedButtons : other.pressedButtons = event.pressedButtons
  sourceType : other.sourceType = event.sourceType
  pointerAction : other.pointerAction = event.pointerAction
  buttonId : other.buttonId = event.buttonId
  axes : other.axes = event.axes
  axisValue : ∀ axis, other.getAxisValue axis = event.getAxisValue axis
  pressedKeys : other.pressedKeys = event.pressedKeys
  packet : ∀ pkt, (marshalling other).run pkt = (marshalling event).run pkt

theorem SameKeyEvent.refl (key : KeyEvent) : SameKeyEvent key key :=
  ⟨rfl, rfl, rfl, rfl, fun _ => rfl, rfl, fun _ => rfl, fun _ => rfl⟩

theorem SamePointerEvent.refl (event : PointerEvent) : SamePointerEvent event event :=
  ⟨rfl, rfl, rfl, fun _ => rfl, rfl, rfl, rfl, rfl, rfl, fun _ => rfl, rfl, fun _ => rfl⟩

/-- Without a lock, the constructor copies all there is. -/
theorem KeyEvent.copy_of_noLock {key : KeyEvent}
    (h : ∀ funcKey, key.getFunctionKey funcKey = false) : key.copy = key := by
  obtain ⟨base, keyCode, keys, keyAction, numLock, capsLock, scrollLock⟩ := key
  have hnum : numLock = false := h .numLock
  have hcaps : capsLock = false := h .capsLock
  have hscroll : scrollLock = false := h .scrollLock
  rw [KeyEvent.copy_eq, hnum, hcaps, hscroll]

theorem sameKeyEvent_copy_iff (key : KeyEvent) :
    SameKeyEvent key key.copy ↔ ∀ funcKey, key.getFunctionKey funcKey = false := by
  constructor
  · intro h funcKey
    rw [← h.functionKey funcKey]
    cases funcKey <;> rfl
  · intro h
    rw [KeyEvent.copy_of_noLock h]
    exact .refl key

/-- The copies of a key event, by the constructor and by `Clone`, cannot be told
from it precisely if no lock is on; a copied pointer event never can. -/
theorem eventCopies_iff (key : KeyEvent) (event : PointerEvent) :
    (SameKeyEvent key key.copy ↔ ∀ funcKey, key.getFunctionKey funcKey = false) ∧
      (∃ clone, KeyEvent.clone (some key) = some clone ∧
        (SameKeyEvent key clone ↔ ∀ funcKey, key.getFunctionKey funcKey = false)) ∧
      SamePointerEvent event event.copy := by
  refine ⟨sameKeyEvent_copy_iff key, ⟨key.copy, rfl, sameKeyEvent_copy_iff key⟩, ?_⟩
  rw [PointerEvent.copy_eq]
  exact .refl event

/-- With caps lock on, the copy says it is off, and so does its packet. -/
theorem counterexample_eventCopies :
    releasedC.capsLock = true ∧ releasedC.copy.capsLock = false ∧
      ((keyEventToNetPacket releasedC.copy).run StreamBuffer.create).2.written
        ≠ ((keyEventToNetPacket releasedC).run StreamBuffer.create).2.written ∧
      ¬ SameKeyEvent releasedC releasedC.copy := by
  refine ⟨rfl, rfl, by decide +kernel, fun h => ?_⟩
  exact absurd (h.functionKey .capsLock) (by decide)

end FtMmi.Event
