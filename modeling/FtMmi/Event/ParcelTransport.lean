/-
FtMmi.Event.ParcelTransport — what of an event arrives through a parcel.

The values a successful `WriteToParcel` has put into the parcel are read
back by `ReadFromParcel`, but not all members are among them: the unicode
of key items, the states of the function keys, the window of pointer
items and the pressed keys come out as a new event has them. `carried` is
the event that arrives, and the event arrives unchanged precisely if it
is the same. A packet carries every member of the two classes.
-/
import FtMmi.Event.Parcel
import FtMmi.Event.PointerEventTheorems

namespace FtMmi.Event

open FtMmi.Lib.TypedQueue

/-! ## The property -/

/-- Whatever was read from the parcel before, a successful write leaves values
from which a new event becomes the same, of the same type. -/
def Transported {α : Type} (eventType : Int32)
    (write : (List ParcelValue → ParcelValue → Bool) → α → ParcelM Unit)
    (read : Int64 → ParcelM (Int32 × α)) (event : α) : Prop :=
  ∀ accepts before parcel, write accepts event before = some ((), parcel) →
    ∃ values, parcel = before ++ values ∧
      ∀ now rest, read now (values ++ rest) = some ((eventType, event), rest)

def KeyTransported : KeyEvent → Prop :=
  Transported eventTypeKey (fun accepts key => key.writeToParcel accepts) fun now =>
    (KeyEvent.create now).readFromParcel

def PointerTransported : PointerEvent → Prop :=
  Transported eventTypePointer (fun accepts event => event.writeToParcel accepts) fun now =>
    (PointerEvent.create now).readFromParcel

variable {accepts : List ParcelValue → ParcelValue → Bool}

/-- When the values read back are those of another event, an event is
transported if it is the other event, or is never written. -/
theorem transported_iff {α : Type} {eventType : Int32}
    {write : (List ParcelValue → ParcelValue → Bool) → α → ParcelM Unit}
    {read : Int64 → ParcelM (Int32 × α)} {event carried : α} {values : List ParcelValue}
    (hwrites : ∀ accepts, Writes (write accepts event) values)
    (haccepted : Accepted (write (fun _ _ => true) event))
    (hreads : ∀ now, Reads (read now) values (eventType, carried)) :
    Transported eventType write read event ↔ carried = event := by
  constructor
  · intro h
    obtain ⟨⟨⟨⟩, parcel⟩, hparcel⟩ := Option.isSome_iff_exists.mp (haccepted [])
    obtain ⟨values', heq, hread⟩ := h _ [] parcel hparcel
    have hvalues : values' = values := by
      rw [hwrites _ [] () parcel hparcel, List.nil_append, List.nil_append] at heq
      exact heq.symm
    have hboth := (hreads 0 []).symm.trans (hvalues ▸ hread 0 [])
    simpa using hboth
  · rintro rfl accepts before parcel hparcel
    exact ⟨values, hwrites accepts before () parcel hparcel, fun now rest => hreads now rest⟩

/-! ## The common part of events -/

def inputEventValues {eventType : Int32} (event : InputEvent eventType) : List ParcelValue :=
  [.int32 eventType, .int32 event.id, .int64 event.actionTime, .int32 event.action,
    .int64 event.actionStartTime, .int32 event.deviceId, .int32 event.targetDisplayId,
    .int32 event.targetWindowId, .int32 event.agentWindowId, .uint32 event.bitwise]

theorem inputEvent_writes {eventType : Int32} (event : InputEvent eventType) :
    Writes (event.writeToParcel accepts) (inputEventValues event) :=
  (Writes.enqueue accepts _).bind fun _ => (Writes.enqueue accepts _).bind fun _ =>
  (Writes.enqueue accepts _).bind fun _ => (Writes.enqueue accepts _).bind fun _ =>
  (Writes.enqueue accepts _).bind fun _ => (Writes.enqueue accepts _).bind fun _ =>
  (Writes.enqueue accepts _).bind fun _ => (Writes.enqueue accepts _).bind fun _ =>
  (Writes.enqueue accepts _).bind fun _ => Writes.enqueue accepts _

theorem inputEvent_accepted {eventType : Int32} (event : InputEvent eventType) :
    Accepted (event.writeToParcel fun _ _ => true) :=
  (Accepted.enqueue _).bind fun _ => (Accepted.enqueue _).bind fun _ =>
  (Accepted.enqueue _).bind fun _ => (Accepted.enqueue _).bind fun _ =>
  (Accepted.enqueue _).bind fun _ => (Accepted.enqueue _).bind fun _ =>
  (Accepted.enqueue _).bind fun _ => (Accepted.enqueue _).bind fun _ =>
  (Accepted.enqueue _).bind fun _ => Accepted.enqueue _

theorem readInt32_reads (v : Int32) : Reads readInt32 [.int32 v] v := Reads.dequeue rfl

theorem readInt32Value_reads (v : Int32) : Reads readInt32Value [.int32 v] v :=
  Reads.dequeueD 0 rfl

theorem readUint32_reads (v : UInt32) : Reads readUint32 [.uint32 v] v := Reads.dequeue rfl

theorem readInt64_reads (v : Int64) : Reads readInt64 [.int64 v] v := Reads.dequeue rfl

theorem readBool_reads (v : Bool) : Reads readBool [.bool v] v := Reads.dequeue rfl

theorem readDouble_reads (v : Double) : Reads readDouble [.double v] v := Reads.dequeue rfl

theorem inputEvent_reads {eventType : Int32} (old event : InputEvent eventType) :
    Reads old.readFromParcel (inputEventValues event) (eventType, event) :=
  (readInt32_reads eventType).bind <| (readInt32_reads event.id).bind <|
  (readInt64_reads event.actionTime).bind <| (readInt32_reads event.action).bind <|
  (readInt64_reads event.actionStartTime).bind <| (readInt32_reads event.deviceId).bind <|
  (readInt32_reads event.targetDisplayId).bind <| (readInt32_reads event.targetWindowId).bind <|
  (readInt32_reads event.agentWindowId).bind <| (readUint32_reads event.bitwise).bind <|
  Reads.pure _

/-- The cast of a count to `int32_t`. -/
theorem count_toInt {n : Nat} (h : n ≤ intMax) : (Int32.ofNat n).toInt = n := by
  have hmax : intMax < 2 ^ 31 := by decide
  exact Int32.toInt_ofNat_of_lt (by omega)

/-! ## Key events -/

def keyItemValues (item : KeyItem) : List ParcelValue :=
  [.bool item.pressed, .int64 item.downTime, .int32 item.deviceId, .int32 item.keyCode]

def keyEventValues (key : KeyEvent) : List ParcelValue :=
  inputEventValues key.toInputEvent ++ ([ParcelValue.int32 key.keyCode] ++
    ([ParcelValue.int32 (Int32.ofNat key.keys.length)] ++ (key.keys.flatMap keyItemValues ++
      [ParcelValue.int32 key.keyAction])))

/-- The unicode stays behind. -/
def KeyItem.carried (item : KeyItem) : KeyItem := { item with unicode := 0 }

/-- The states of the function keys stay behind. -/
def KeyEvent.carried (key : KeyEvent) : KeyEvent :=
  { key with
    keys := key.keys.map KeyItem.carried, numLock := false, capsLock := false, scrollLock := false }

theorem keyItem_writes (item : KeyItem) :
    Writes (item.writeToParcel accepts) (keyItemValues item) :=
  (Writes.enqueue accepts _).bind fun _ => (Writes.enqueue accepts _).bind fun _ =>
  (Writes.enqueue accepts _).bind fun _ => Writes.enqueue accepts _

theorem keyItem_accepted (item : KeyItem) : Accepted (item.writeToParcel fun _ _ => true) :=
  (Accepted.enqueue _).bind fun _ => (Accepted.enqueue _).bind fun _ =>
  (Accepted.enqueue _).bind fun _ => Accepted.enqueue _

theorem keyEvent_writes (key : KeyEvent) :
    Writes (key.writeToParcel accepts) (keyEventValues key) := by
  refine (inputEvent_writes key.toInputEvent).bind fun _ =>
    (Writes.enqueue accepts _).bind fun _ => ?_
  split
  · exact Writes.failure _
  · exact (Writes.enqueue accepts _).bind fun _ =>
      (Writes.forM (fun item => keyItem_writes item) key.keys).bind fun _ =>
      Writes.enqueue accepts _

theorem keyEvent_accepted {key : KeyEvent} (h : key.keys.length ≤ intMax) :
    Accepted (key.writeToParcel fun _ _ => true) := by
  refine (inputEvent_accepted key.toInputEvent).bind fun _ => (Accepted.enqueue _).bind fun _ => ?_
  rw [if_neg (Nat.not_lt.mpr h)]
  exact (Accepted.enqueue _).bind fun _ =>
    (Accepted.forM (fun item => keyItem_accepted item) key.keys).bind fun _ => Accepted.enqueue _

theorem keyItem_reads (item : KeyItem) :
    Reads (KeyItem.readFromParcel {}) (keyItemValues item) item.carried :=
  (readBool_reads item.pressed).bind <| (readInt64_reads item.downTime).bind <|
  (readInt32_reads item.deviceId).bind <| (readInt32_reads item.keyCode).bind <| Reads.pure _

theorem keyItems_reads (items : List KeyItem) (old : KeyEvent) :
    Reads (KeyEvent.readItems items.length old) (items.flatMap keyItemValues)
      { old with keys := old.keys ++ items.map KeyItem.carried } := by
  induction items generalizing old with
  | nil =>
    rw [List.map_nil, List.append_nil]
    exact Reads.pure _
  | cons item items ih =>
    have hrest := ih { old with keys := old.keys ++ [item.carried] }
    rw [List.append_assoc] at hrest
    exact (keyItem_reads item).bind hrest

theorem keyEvent_reads {key : KeyEvent} (h : key.keys.length ≤ intMax) (now : Int64) :
    Reads (KeyEvent.create now).readFromParcel (keyEventValues key) (eventTypeKey, key.carried) := by
  refine (inputEvent_reads (KeyEvent.create now).toInputEvent key.toInputEvent).bind <|
    (readInt32_reads key.keyCode).bind <|
    (readInt32Value_reads (Int32.ofNat key.keys.length)).bind ?_
  have hcount := count_toInt h
  have hnonneg : ¬ Int32.ofNat key.keys.length < 0 := by
    rw [Int32.lt_iff_toInt_lt, hcount]
    exact Int.not_lt.mpr (Int.natCast_nonneg _)
  rw [if_neg hnonneg, hcount, Int.toNat_natCast]
  exact (keyItems_reads key.keys _).bind ((readInt32_reads key.keyAction).bind (Reads.pure _))

theorem KeyEvent.carried_eq_iff (key : KeyEvent) :
    key.carried = key ↔ (∀ item ∈ key.keys, item.unicode = 0) ∧ key.numLock = false ∧
      key.capsLock = false ∧ key.scrollLock = false := by
  have hitems : key.keys.map KeyItem.carried = key.keys ↔ ∀ item ∈ key.keys, item.unicode = 0 := by
    nth_rewrite 2 [← List.map_id key.keys]
    rw [List.map_inj_left]
    refine forall₂_congr fun item _ => ?_
    show item.carried = item ↔ _
    constructor
    · intro heq
      rw [← heq]
      rfl
    · intro heq
      rw [KeyItem.carried, ← heq]
  rw [← hitems]
  constructor
  · intro h
    exact ⟨congrArg KeyEvent.keys h, (congrArg KeyEvent.numLock h).symm,
      (congrArg KeyEvent.capsLock h).symm, (congrArg KeyEvent.scrollLock h).symm⟩
  · intro ⟨hkeys, hnum, hcaps, hscroll⟩
    obtain ⟨base, keyCode, keys, keyAction, numLock, capsLock, scrollLock⟩ := key
    simp_all [KeyEvent.carried]

/-! ## Pointer events -/

def pointerItemValues (item : PointerItem) : List ParcelValue :=
  [.int32 item.pointerId, .int64 item.downTime, .bool item.pressed, .int32 item.displayX,
    .int32 item.displayY, .int32 item.windowX, .int32 item.windowY, .int32 item.width,
    .int32 item.height, .int32 item.toolDisplayX, .int32 item.toolDisplayY,
    .int32 item.toolWindowX, .int32 item.toolWindowY, .int32 item.toolWidth,
    .int32 item.toolHeight, .double item.tiltX, .double item.tiltY, .double item.pressure,
    .int32 item.longAxis, .int32 item.shortAxis, .int32 item.toolType, .int32 item.deviceId,
    .int32 item.rawDx, .int32 item.rawDy]

def axisValues (event : PointerEvent) (axis : AxisType) : List ParcelValue :=
  if hasAxis event.axes axis then [.double (event.getAxisValue axis)] else []

def pointerTailValues (event : PointerEvent) : List ParcelValue :=
  [ParcelValue.int32 event.sourceType] ++ ([ParcelValue.int32 event.pointerAction] ++
    ([ParcelValue.int32 event.buttonId] ++
      ([ParcelValue.uint32 event.axes] ++ axisTypes.flatMap (axisValues event))))

def pointerEventValues (event : PointerEvent) : List ParcelValue :=
  inputEventValues event.toInputEvent ++ ([ParcelValue.int32 event.pointerId] ++
    ([ParcelValue.int32 (Int32.ofNat event.pointers.length)] ++
    (event.pointers.flatMap pointerItemValues ++
    ([ParcelValue.int32 (Int32.ofNat event.pressedButtons.length)] ++
    (event.pressedButtons.flatMap (fun button => [ParcelValue.int32 button]) ++
      pointerTailValues event)))))

/-- The window of the item stays behind. -/
def PointerItem.carried (item : PointerItem) : PointerItem := { item with targetWindowId := -1 }

/-- The pressed keys stay behind. -/
def PointerEvent.carried (event : PointerEvent) : PointerEvent :=
  { event with
    pointers := event.pointers.map PointerItem.carried
    pressedKeys := []
    pointers_length := (List.length_map _).trans_le event.pointers_length }

theorem pointerItem_writes (item : PointerItem) :
    Writes (item.writeToParcel accepts) (pointerItemValues item) :=
  (Writes.enqueue accepts _).bind fun _ => (Writes.enqueue accepts _).bind fun _ =>
  (Writes.enqueue accepts _).bind fun _ => (Writes.enqueue accepts _).bind fun _ =>
  (Writes.enqueue accepts _).bind fun _ => (Writes.enqueue accepts _).bind fun _ =>
  (Writes.enqueue accepts _).bind fun _ => (Writes.enqueue accepts _).bind fun _ =>
  (Writes.enqueue accepts _).bind fun _ => (Writes.enqueue accepts _).bind fun _ =>
  (Writes.enqueue accepts _).bind fun _ => (Writes.enqueue accepts _).bind fun _ =>
  (Writes.enqueue accepts _).bind fun _ => (Writes.enqueue accepts _).bind fun _ =>
  (Writes.enqueue accepts _).bind fun _ => (Writes.enqueue accepts _).bind fun _ =>
  (Writes.enqueue accepts _).bind fun _ => (Writes.enqueue accepts _).bind fun _ =>
  (Writes.enqueue accepts _).bind fun _ => (Writes.enqueue accepts _).bind fun _ =>
  (Writes.enqueue accepts _).bind fun _ => (Writes.enqueue accepts _).bind fun _ =>
  (Writes.enqueue accepts _).bind fun _ => Writes.enqueue accepts _

theorem pointerItem_accepted (item : PointerItem) :
    Accepted (item.writeToParcel fun _ _ => true) := fun _ => rfl

theorem writeAxis_writes (event : PointerEvent) (axis : AxisType) :
    Writes (event.writeAxis accepts axis) (axisValues event axis) := by
  unfold PointerEvent.writeAxis axisValues
  split
  · exact Writes.enqueue accepts _
  · exact Writes.pure ()

theorem writeAxis_accepted (event : PointerEvent) (axis : AxisType) :
    Accepted (event.writeAxis (fun _ _ => true) axis) := by
  unfold PointerEvent.writeAxis
  split
  · exact Accepted.enqueue _
  · exact Accepted.pure ()

theorem pointerEvent_writes (event : PointerEvent) :
    Writes (event.writeToParcel accepts) (pointerEventValues event) :=
  (inputEvent_writes event.toInputEvent).bind fun _ => (Writes.enqueue accepts _).bind fun _ =>
  (Writes.enqueue accepts _).bind fun _ =>
  (Writes.forM (fun item => pointerItem_writes item) event.pointers).bind fun _ =>
  (Writes.enqueue accepts _).bind fun _ =>
  (Writes.forM (fun button => Writes.enqueue accepts (.int32 button))
    event.pressedButtons).bind fun _ =>
  (Writes.enqueue accepts _).bind fun _ => (Writes.enqueue accepts _).bind fun _ =>
  (Writes.enqueue accepts _).bind fun _ => (Writes.enqueue accepts _).bind fun _ =>
  Writes.forM (fun axis => writeAxis_writes event axis) axisTypes

theorem pointerEvent_accepted (event : PointerEvent) :
    Accepted (event.writeToParcel fun _ _ => true) :=
  (inputEvent_accepted event.toInputEvent).bind fun _ => (Accepted.enqueue _).bind fun _ =>
  (Accepted.enqueue _).bind fun _ =>
  (Accepted.forM (fun item => pointerItem_accepted item) event.pointers).bind fun _ =>
  (Accepted.enqueue _).bind fun _ =>
  (Accepted.forM (fun button => Accepted.enqueue (.int32 button)) event.pressedButtons).bind fun _ =>
  (Accepted.enqueue _).bind fun _ => (Accepted.enqueue _).bind fun _ =>
  (Accepted.enqueue _).bind fun _ => (Accepted.enqueue _).bind fun _ =>
  Accepted.forM (fun axis => writeAxis_accepted event axis) axisTypes

theorem pointerItem_reads (item : PointerItem) :
    Reads (PointerItem.readFromParcel {}) (pointerItemValues item) item.carried :=
  (readInt32_reads item.pointerId).bind <| (readInt64_reads item.downTime).bind <|
  (readBool_reads item.pressed).bind <| (readInt32_reads item.displayX).bind <|
  (readInt32_reads item.displayY).bind <| (readInt32_reads item.windowX).bind <|
  (readInt32_reads item.windowY).bind <| (readInt32_reads item.width).bind <|
  (readInt32_reads item.height).bind <| (readInt32_reads item.toolDisplayX).bind <|
  (readInt32_reads item.toolDisplayY).bind <| (readInt32_reads item.toolWindowX).bind <|
  (readInt32_reads item.toolWindowY).bind <| (readInt32_reads item.toolWidth).bind <|
  (readInt32_reads item.toolHeight).bind <| (readDouble_reads item.tiltX).bind <|
  (readDouble_reads item.tiltY).bind <| (readDouble_reads item.pressure).bind <|
  (readInt32_reads item.longAxis).bind <| (readInt32_reads item.shortAxis).bind <|
  (readInt32_reads item.toolType).bind <| (readInt32_reads item.deviceId).bind <|
  (readInt32_reads item.rawDx).bind <| (readInt32_reads item.rawDy).bind <| Reads.pure _

theorem pointerItems_reads (items : List PointerItem) (old : PointerEvent) :
    Reads (PointerEvent.readItems items.length old) (items.flatMap pointerItemValues)
      ((items.map PointerItem.carried).foldl PointerEvent.addPointerItem old) := by
  induction items generalizing old with
  | nil => exact Reads.pure _
  | cons item items ih => exact (pointerItem_reads item).bind (ih (old.addPointerItem item.carried))

theorem buttons_reads (buttons : List Int32) (old : PointerEvent) :
    Reads (PointerEvent.readButtons buttons.length old)
      (buttons.flatMap fun button => [.int32 button])
      (buttons.foldl PointerEvent.setButtonPressed old) := by
  induction buttons generalizing old with
  | nil => exact Reads.pure _
  | cons button buttons ih => exact (readInt32_reads button).bind (ih (old.setButtonPressed button))

theorem axes_reads (event : PointerEvent) (axes : List AxisType) (old : PointerEvent) :
    Reads (PointerEvent.readAxes event.axes axes old) (axes.flatMap (axisValues event))
      (axes.foldl (fun old axis => copyAxis event axis old) old) := by
  induction axes generalizing old with
  | nil => exact Reads.pure _
  | cons axis axes ih =>
    have hrest := ih (copyAxis event axis old)
    rw [List.flatMap_cons, List.foldl_cons]
    unfold PointerEvent.readAxes axisValues
    by_cases haxis : hasAxis event.axes axis = true
    · rw [copyAxis, if_pos haxis] at hrest ⊢
      simp only [if_pos haxis]
      exact (readDouble_reads (event.getAxisValue axis)).bind hrest
    · rw [copyAxis, if_neg haxis] at hrest ⊢
      simp only [if_neg haxis]
      exact hrest

/-- An event without axes gets all axes of `event`, `AXIS_TYPE_UNKNOWN` too. -/
theorem foldl_copyAxis (event old : PointerEvent) (haxes : old.axes = 0) :
    axisTypes.foldl (fun old axis => copyAxis event axis old) old = withAxes old event := by
  show copyAxes event (copyAxis event .unknown old) = _
  have hold : ∀ i : Fin 4, old.axes.toNat.testBit i = false := by
    intro i
    rw [haxes]
    exact Nat.zero_testBit i
  have hbits := fun axis => hasAxis_eq_testBit event.axes_lt axis
  have hmask : (copyAxes event (copyAxis event .unknown old)).axes = event.axes := by
    apply axes_ext (copyAxes event _).axes_lt event.axes_lt
    intro i
    simp only [copyAxes, copyAxis_testBit event _ .pinch (by decide),
      copyAxis_testBit event _ .scrollHorizontal (by decide),
      copyAxis_testBit event _ .scrollVertical (by decide),
      copyAxis_testBit event _ .unknown (by decide), hold, hbits, AxisType.ord]
    fin_cases i <;> simp
  have hvalues : (copyAxes event (copyAxis event .unknown old)).axisValues
      = event.axisValues := by
    funext i
    simp only [copyAxes, copyAxis_axisValues event _ .pinch (by decide),
      copyAxis_axisValues event _ .scrollHorizontal (by decide),
      copyAxis_axisValues event _ .scrollVertical (by decide),
      copyAxis_axisValues event _ .unknown (by decide), hbits, AxisType.ord,
      old.axisValues_unset i (hold i)]
    have hunset := event.axisValues_unset i
    cases hi : event.axes.toNat.testBit i with
    | false =>
      rw [hunset hi]
      fin_cases i <;> simp_all
    | true => fin_cases i <;> simp_all
  rw [copyAxes_rest event (copyAxis event .unknown old), copyAxis_rest event old .unknown]
  rw [copyAxis_rest event old .unknown] at hmask hvalues
  exact PointerEvent.ext rfl rfl rfl rfl rfl rfl rfl rfl rfl rfl rfl rfl rfl rfl rfl
    hmask hvalues rfl

theorem pointerTail_reads (type : Int32) (event old : PointerEvent) (haxes : old.axes = 0) :
    Reads (old.readTail type) (pointerTailValues event) (type,
      withAxes (((old.setSourceType event.sourceType).setPointerAction
        event.pointerAction).setButtonId event.buttonId) event) := by
  have hread := axes_reads event axisTypes (((old.setSourceType event.sourceType).setPointerAction
    event.pointerAction).setButtonId event.buttonId)
  have hfold := foldl_copyAxis event (((old.setSourceType event.sourceType).setPointerAction
    event.pointerAction).setButtonId event.buttonId) haxes
  rw [hfold] at hread
  have h : Reads (old.readTail type) _ _ :=
    (readInt32_reads event.sourceType).bind <| (readInt32_reads event.pointerAction).bind <|
    (readInt32_reads event.buttonId).bind <| (readUint32_reads event.axes).bind <|
    hread.bind (Reads.pure _)
  rwa [List.append_nil] at h

theorem pointerEvent_reads (event : PointerEvent) (now : Int64) :
    Reads (PointerEvent.create now).readFromParcel (pointerEventValues event)
      (eventTypePointer, event.carried) := by
  have hpointers := event.pointers_length
  have hbuttons := event.buttons_length
  have hpointerCount := count_toInt (hpointers.trans (by decide))
  have hbuttonCount := count_toInt (hbuttons.trans (by decide))
  set old := ((PointerEvent.create now).setBase event.toInputEvent).setPointerId event.pointerId
  have hitems := foldl_addPointerItem event.carried.pointers old event.carried.pointers_length
  refine (inputEvent_reads (PointerEvent.create now).toInputEvent event.toInputEvent).bind <|
    (readInt32_reads event.pointerId).bind <|
    (readInt32_reads (Int32.ofNat event.pointers.length)).bind ?_
  rw [if_neg (by rw [hpointerCount]; omega), hpointerCount, Int.toNat_natCast]
  refine (pointerItems_reads event.pointers old).bind <|
    (readInt32_reads (Int32.ofNat event.pressedButtons.length)).bind ?_
  rw [if_neg (by rw [hbuttonCount]; omega), hbuttonCount, Int.toNat_natCast]
  refine (buttons_reads event.pressedButtons _).bind ?_
  have hbuttons := foldl_setButtonPressed event.pressedButtons
    ((event.pointers.map PointerItem.carried).foldl PointerEvent.addPointerItem old)
  rw [show (event.pointers.map PointerItem.carried).foldl PointerEvent.addPointerItem old = _
    from hitems] at hbuttons ⊢
  rw [hbuttons event.buttons_sorted event.buttons_length]
  exact pointerTail_reads eventTypePointer event _ rfl

theorem PointerEvent.carried_eq_iff (event : PointerEvent) :
    event.carried = event ↔ (∀ item ∈ event.pointers, item.targetWindowId = -1) ∧
      event.pressedKeys = [] := by
  have hitems : event.pointers.map PointerItem.carried = event.pointers ↔
      ∀ item ∈ event.pointers, item.targetWindowId = -1 := by
    nth_rewrite 2 [← List.map_id event.pointers]
    rw [List.map_inj_left]
    refine forall₂_congr fun item _ => ?_
    show item.carried = item ↔ _
    constructor
    · intro heq
      rw [← heq]
      rfl
    · intro heq
      rw [PointerItem.carried, ← heq]
  rw [← hitems]
  constructor
  · intro h
    exact ⟨congrArg PointerEvent.pointers h, (congrArg PointerEvent.pressedKeys h).symm⟩
  · intro ⟨hpointers, hkeys⟩
    exact PointerEvent.ext rfl rfl rfl rfl rfl rfl rfl rfl rfl rfl hpointers rfl rfl rfl rfl rfl rfl
      hkeys.symm

/-! ## Both kinds -/

theorem keyTransported_iff {key : KeyEvent} (h : key.keys.length ≤ intMax) :
    KeyTransported key ↔ key.carried = key :=
  transported_iff (fun _ => keyEvent_writes key) (keyEvent_accepted h) (keyEvent_reads h)

theorem pointerTransported_iff (event : PointerEvent) :
    PointerTransported event ↔ event.carried = event :=
  transported_iff (fun _ => pointerEvent_writes event) (pointerEvent_accepted event)
    (pointerEvent_reads event)

/-- A key event arrives unchanged if it is too large to be written, or has no
unicode and no function key on; a pointer event, if no item has a window and
no key is pressed. -/
theorem parcelTransport_iff (key : KeyEvent) (event : PointerEvent) :
    (KeyTransported key ↔ intMax < key.keys.length ∨
      (∀ item ∈ key.keys, item.unicode = 0) ∧ key.numLock = false ∧ key.capsLock = false ∧
        key.scrollLock = false) ∧
    (PointerTransported event ↔
      (∀ item ∈ event.pointers, item.targetWindowId = -1) ∧ event.pressedKeys = []) := by
  constructor
  · by_cases hlen : intMax < key.keys.length
    · refine iff_of_true (fun accepts before parcel h => ?_) (.inl hlen)
      -- The size check of `WriteToParcel` fails.
      simp only [KeyEvent.writeToParcel, bind_eq, if_pos hlen, Option.bind_eq_some_iff] at h
      obtain ⟨_, _, _, _, hfail⟩ := h
      cases hfail
    · rw [or_iff_right hlen, ← key.carried_eq_iff]
      exact keyTransported_iff (by omega)
  · rw [← event.carried_eq_iff]
    exact pointerTransported_iff event

/-- Caps lock is on, and an item has a unicode. -/
def capitalC : KeyEvent :=
  { ((KeyEvent.create 5).addKeyItem
      { pressed := true, deviceId := 3, keyCode := 2019, downTime := 12, unicode := 67 }) with
    keyCode := 2019, keyAction := 2, capsLock := true }

/-- A finger on a window, with a key held. -/
def touched : PointerEvent :=
  ((PointerEvent.create 5).addPointerItem
    { pointerId := 1, pressed := true, targetWindowId := 9 }).setPressedKeys [2072]

theorem counterexample_parcelTransport :
    ¬ KeyTransported capitalC ∧ ¬ PointerTransported touched := by
  constructor
  · rw [keyTransported_iff (by decide), capitalC.carried_eq_iff]
    decide
  · rw [pointerTransported_iff, touched.carried_eq_iff]
    decide

end FtMmi.Event
