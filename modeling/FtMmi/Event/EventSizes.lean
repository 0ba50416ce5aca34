/-
FtMmi.Event.EventSizes — the room that events take in a packet.

With room for the bytes of an event the encoders write them all and leave
no error. A key event with more items than `MAX_KEY_SIZE` is the exception:
the encoder returns behind the key action, and what it wrote is
`keyEventHead`.
-/
import FtMmi.Event.KeyEventRoundTrip
import FtMmi.Network.PacketFields

namespace FtMmi.Event

open FtMmi.Lib
open FtMmi.Network

/-! ## Writing events -/

theorem serializeInputEvent_fits {eventType : Int32} (event : InputEvent eventType) :
    Fits (serializeInputEvent event) (inputEventWire event) := by
  have h : Fits (serializeInputEvent event) _ :=
    (Fits.push _).bind fun _ => (Fits.push _).bind fun _ => (Fits.push _).bind fun _ =>
    (Fits.push _).bind fun _ => (Fits.push _).bind fun _ => (Fits.push _).bind fun _ =>
    (Fits.push _).bind fun _ => (Fits.push _).bind fun _ => (Fits.push _).bind fun _ =>
    (Fits.push _).bind fun _ => Fits.check
  rwa [List.append_nil] at h

theorem pushKeyItem_fits (item : KeyItem) : Fits (pushKeyItem item) (keyItemWire item) :=
  (Fits.push _).bind fun _ => (Fits.push _).bind fun _ => (Fits.push _).bind fun _ =>
  (Fits.push _).bind fun _ => Fits.push _

theorem keyEventToNetPacket_fits (key : KeyEvent)
    (hsize : ¬ (maxKeySize : Int) < (Int32.ofNat key.keys.length).toInt) :
    Fits (keyEventToNetPacket key) (keyEventWire key) := by
  have h : Fits (keyEventToNetPacket key) _ :=
    (serializeInputEvent_fits key.toInputEvent).bindOk (serializeInputEvent_reports _) <|
    (Fits.push _).bind fun _ => (Fits.push _).bind fun _ => by
      simp only [if_neg hsize]
      exact (Fits.push _).bind fun _ =>
        (fits_forM_mem key.keys fun item _ => pushKeyItem_fits item).bind fun _ =>
        (Fits.push _).bind fun _ => (Fits.push _).bind fun _ =>
        (Fits.push _).bind fun _ => Fits.check
  simpa only [keyEventWire, functionKeysWire, List.append_nil] using h

/-- What is written of an event with too many items. -/
def keyEventHead (key : KeyEvent) : List UInt8 :=
  inputEventWire key.toInputEvent ++ (toBytes key.keyCode ++ toBytes key.keyAction)

theorem keyEventToNetPacket_appends_head (key : KeyEvent)
    (hsize : (maxKeySize : Int) < (Int32.ofNat key.keys.length).toInt) :
    Appends (keyEventToNetPacket key) (keyEventHead key) := by
  have h : Appends (keyEventToNetPacket key) _ :=
    (serializeInputEvent_reports key.toInputEvent).bindAppends <|
    (Appends.push _).bind fun _ => (Appends.push _).bind fun _ => by
      simp only [if_pos hsize]
      exact Appends.pure _
  simpa only [keyEventHead, List.append_nil] using h

theorem keyEventToNetPacket_fits_head (key : KeyEvent)
    (hsize : (maxKeySize : Int) < (Int32.ofNat key.keys.length).toInt) :
    Fits (keyEventToNetPacket key) (keyEventHead key) := by
  have h : Fits (keyEventToNetPacket key) _ :=
    (serializeInputEvent_fits key.toInputEvent).bindOk (serializeInputEvent_reports _) <|
    (Fits.push _).bind fun _ => (Fits.push _).bind fun _ => by
      simp only [if_pos hsize]
      exact Fits.pure _
  simpa only [keyEventHead, List.append_nil] using h

theorem pushAxis_fits (event : PointerEvent) (axis : AxisType) :
    Fits (pushAxis event axis) (axisWire event axis) := by
  unfold pushAxis axisWire
  split
  · exact Fits.push _
  · exact Fits.pure ()

theorem serializePointerItems_fits (event : PointerEvent) (found : PointerItem → PointerItem)
    (items : List PointerItem)
    (hfind : ∀ item ∈ items, event.getPointerItem item.pointerId = some (found item)) :
    Fits (serializePointerItems event (items.map PointerItem.pointerId))
      ((items.map found).flatMap toBytes) := by
  induction items with
  | nil => exact Fits.pure _
  | cons item items ih =>
    rw [List.map_cons, serializePointerItems, hfind item (by simp), List.map_cons,
      List.flatMap_cons]
    have hitem : Fits (serializePointerItem (found item)) (toBytes (found item)) := by
      have h : Fits (serializePointerItem (found item)) _ :=
        (Fits.push (found item)).bind fun _ => Fits.check
      rwa [List.append_nil] at h
    exact hitem.bindOk (serializePointerItem_reports (found item))
      (ih fun i hi => hfind i (by simp [hi]))

theorem serializePressedKeys_fits (event : PointerEvent) :
    Fits (serializePressedKeys event) (countedWire event.pressedKeys) := by
  have h : Fits (serializePressedKeys event) _ :=
    (Fits.push _).bind fun _ =>
    (fits_forM_mem event.pressedKeys fun key _ => Fits.push key).bind fun _ => Fits.check
  rwa [List.append_nil] at h

theorem marshalling_fits (event : PointerEvent) :
    Fits (marshalling event) (pointerEventWire event.asWritten) := by
  have hfind : ∀ item ∈ event.pointers, _ := fun _ hitem => getPointerItem_isSome hitem
  have h : Fits (marshalling event) _ :=
    (serializeInputEvent_fits event.toInputEvent).bindOk (serializeInputEvent_reports _) <|
    (Fits.push _).bind fun _ => (Fits.push _).bind fun _ => (Fits.push _).bind fun _ =>
    (Fits.push _).bind fun _ => (Fits.push _).bind fun _ =>
    (pushAxis_fits event _).bind fun _ => (pushAxis_fits event _).bind fun _ =>
    (pushAxis_fits event _).bind fun _ => (Fits.push _).bind fun _ =>
    (fits_forM_mem _ fun button _ => Fits.push button).bind fun _ => (Fits.push _).bind fun _ =>
    (serializePointerItems_fits event _ event.pointers hfind).bindOk
      (serializePointerItems_reports_found event _ event.pointers hfind)
      (serializePressedKeys_fits event)
  have hlen : event.getPointerIds.length = event.asWritten.pointers.length :=
    (List.length_map _).trans (List.length_map _).symm
  rw [hlen] at h
  simp only [pointerEventWire, pointerFieldsWire, axisValuesWire, collectionsWire, countedWire,
    List.append_assoc] at h ⊢
  exact h

/-! ## Lengths -/

theorem inputEventWire_length {eventType : Int32} (event : InputEvent eventType) :
    (inputEventWire event).length = 48 := by
  simp only [inputEventWire, List.length_append, ByteImage.toBytes_length]
  rfl

theorem keyItemWire_length (item : KeyItem) : (keyItemWire item).length = 21 := by
  simp only [keyItemWire, List.length_append, ByteImage.toBytes_length]
  rfl

theorem flatMap_length_const {α : Type} {image : α → List UInt8} {n : Nat}
    (h : ∀ a, (image a).length = n) (as : List α) :
    (as.flatMap image).length = as.length * n := by
  induction as with
  | nil => simp
  | cons a as ih => rw [List.flatMap_cons, List.length_append, ih, h, List.length_cons]; ring

theorem keyEventWire_length (key : KeyEvent) :
    (keyEventWire key).length = 63 + key.keys.length * 21 := by
  have hlock (b : Bool) : (toBytes b).length = 1 := ByteImage.toBytes_length b
  have hint (a : Int32) : (toBytes a).length = 4 := ByteImage.toBytes_length a
  simp only [keyEventWire, functionKeysWire, List.length_append, inputEventWire_length,
    flatMap_length_const keyItemWire_length, hlock, hint]
  omega

theorem keyEventHead_length (key : KeyEvent) : (keyEventHead key).length = 56 := by
  have hint (a : Int32) : (toBytes a).length = 4 := ByteImage.toBytes_length a
  simp only [keyEventHead, List.length_append, inputEventWire_length, hint]

/-- The axes whose values the encoder writes. -/
def writtenAxes (event : PointerEvent) : List AxisType :=
  [AxisType.scrollVertical, .scrollHorizontal, .pinch].filter (hasAxis event.axes)

/-- The bytes of a pointer event. -/
def pointerEventSize (event : PointerEvent) : Nat :=
  92 + (writtenAxes event).length * 8 + event.pressedButtons.length * 4
    + event.pointers.length * 120 + event.pressedKeys.length * 4

theorem axisWire_length (event : PointerEvent) (axis : AxisType) :
    (axisWire event axis).length = ([axis].filter (hasAxis event.axes)).length * 8 := by
  unfold axisWire
  cases hhas : hasAxis event.axes axis with
  | false => simp [hhas]
  | true =>
    rw [if_pos rfl, List.filter_cons_of_pos hhas]
    exact ByteImage.toBytes_length _

theorem countedWire_length {α : Type} [ByteImage α] (as : List α) :
    (countedWire as).length = 8 + as.length * byteSize α := by
  rw [countedWire, List.length_append, flatMap_length_const ByteImage.toBytes_length]
  exact congrArg (· + _) (ByteImage.toBytes_length _)

theorem pointerEventWire_length (event : PointerEvent) :
    (pointerEventWire event.asWritten).length = pointerEventSize event := by
  have haxes : (axisValuesWire event.asWritten).length = (writtenAxes event).length * 8 := by
    have hsplit : writtenAxes event = [AxisType.scrollVertical].filter (hasAxis event.axes)
        ++ ([AxisType.scrollHorizontal].filter (hasAxis event.axes)
          ++ [AxisType.pinch].filter (hasAxis event.axes)) := by
      rw [← List.filter_append, ← List.filter_append]
      rfl
    rw [axisValuesWire, List.length_append, List.length_append, axisWire_length, axisWire_length,
      axisWire_length, hsplit, List.length_append, List.length_append, Nat.add_mul, Nat.add_mul]
    rfl
  have hfields : (pointerFieldsWire event.asWritten).length = 20 := by
    simp only [pointerFieldsWire, List.length_append, ByteImage.toBytes_length]
    rfl
  have hpointers : event.asWritten.pointers.length = event.pointers.length := List.length_map _
  rw [pointerEventWire, collectionsWire, List.length_append, List.length_append,
    List.length_append, List.length_append, List.length_append, inputEventWire_length, hfields,
    haxes, countedWire_length, countedWire_length, countedWire_length, hpointers,
    byteSize_pointerItem, pointerEventSize]
  show 48 + (20 + (_ + (8 + event.pressedButtons.length * 4 + (8 + _ +
    (8 + event.pressedKeys.length * 4))))) = _
  omega

end FtMmi.Event
