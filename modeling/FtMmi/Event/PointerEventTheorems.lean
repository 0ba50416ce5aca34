/-
FtMmi.Event.PointerEventTheorems — the packet codec of pointer events:
what `Marshalling` writes, `Unmarshalling` reads back.

`pointerEventWire event` are the bytes of an event. The encoder is shown
to write them whenever it reports success, and the decoder, started on a
new event, to rebuild the event from them: the axes one by one from the
mask, the buttons and the items through the setters, whose bounds every
event already meets.

Two conditions remain. Items are looked up by pointer id when they are
written, so the ids have to be distinct; and `AXIS_TYPE_UNKNOWN` is set
in the mask like any axis, but no value is written for it.
-/
import FtMmi.Event.DataTransformation

namespace FtMmi.Event

open FtMmi.Lib
open FtMmi.Network
open FtMmi.Network.StreamBuffer (Holds)

/-! ## The bytes of an event -/

def inputEventWire {eventType : Int32} (event : InputEvent eventType) : List UInt8 :=
  toBytes eventType ++ (toBytes event.id ++ (toBytes event.actionTime ++
    (toBytes event.action ++ (toBytes event.actionStartTime ++ (toBytes event.deviceId ++
    (toBytes event.targetDisplayId ++ (toBytes event.targetWindowId ++
    (toBytes event.agentWindowId ++ toBytes event.bitwise))))))))

def pointerFieldsWire (event : PointerEvent) : List UInt8 :=
  toBytes event.pointerAction ++ (toBytes event.pointerId ++ (toBytes event.sourceType ++
    (toBytes event.buttonId ++ toBytes event.axes)))

def axisWire (event : PointerEvent) (axis : AxisType) : List UInt8 :=
  if hasAxis event.axes axis then toBytes (event.getAxisValue axis) else []

def axisValuesWire (event : PointerEvent) : List UInt8 :=
  axisWire event .scrollVertical ++ (axisWire event .scrollHorizontal ++ axisWire event .pinch)

def countedWire {α : Type} [ByteImage α] (as : List α) : List UInt8 :=
  toBytes (UInt64.ofNat as.length) ++ as.flatMap toBytes

def collectionsWire (event : PointerEvent) : List UInt8 :=
  countedWire event.pressedButtons ++ (countedWire event.pointers ++
    countedWire event.pressedKeys)

def pointerEventWire (event : PointerEvent) : List UInt8 :=
  inputEventWire event.toInputEvent ++ (pointerFieldsWire event ++
    (axisValuesWire event ++ collectionsWire event))

/-! ## Encoding -/

theorem serializeInputEvent_reports {eventType : Int32} (event : InputEvent eventType) :
    Reports (serializeInputEvent event) (inputEventWire event) := by
  have h : Reports (serializeInputEvent event) _ :=
    (Appends.push _).bindReports fun _ => (Appends.push _).bindReports fun _ =>
    (Appends.push _).bindReports fun _ => (Appends.push _).bindReports fun _ =>
    (Appends.push _).bindReports fun _ => (Appends.push _).bindReports fun _ =>
    (Appends.push _).bindReports fun _ => (Appends.push _).bindReports fun _ =>
    (Appends.push _).bindReports fun _ => (Appends.push _).bindReports fun _ => Reports.check
  rwa [List.append_nil] at h

theorem pushAxis_appends (event : PointerEvent) (axis : AxisType) :
    Appends (pushAxis event axis) (axisWire event axis) := by
  unfold pushAxis axisWire
  split
  · exact Appends.push _
  · exact Appends.pure ()

theorem serializePointerItem_reports (item : PointerItem) :
    Reports (serializePointerItem item) (toBytes item) := by
  have h : Reports (serializePointerItem item) _ :=
    (Appends.push item).bindReports fun _ => Reports.check
  rwa [List.append_nil] at h

/-- The item loop writes what is found under the ids. -/
theorem serializePointerItems_reports_found (event : PointerEvent)
    (found : PointerItem → PointerItem) (items : List PointerItem)
    (hfind : ∀ item ∈ items, event.getPointerItem item.pointerId = some (found item)) :
    Reports (serializePointerItems event (items.map PointerItem.pointerId))
      ((items.map found).flatMap toBytes) := by
  induction items with
  | nil => exact Reports.pure
  | cons item items ih =>
    rw [List.map_cons, serializePointerItems, hfind item (by simp), List.map_cons,
      List.flatMap_cons]
    exact (serializePointerItem_reports (found item)).bind (ih fun i hi => hfind i (by simp [hi]))

/-- The item loop, over items that are found under their ids. -/
theorem serializePointerItems_reports (event : PointerEvent) (items : List PointerItem)
    (hfind : ∀ item ∈ items, event.getPointerItem item.pointerId = some item) :
    Reports (serializePointerItems event (items.map PointerItem.pointerId))
      (items.flatMap toBytes) := by
  have h := serializePointerItems_reports_found event id items hfind
  rwa [List.map_id] at h

theorem find_pointerId {items : List PointerItem}
    (hids : (items.map PointerItem.pointerId).Nodup) :
    ∀ item ∈ items, items.find? (fun i => i.pointerId = item.pointerId) = some item := by
  induction items with
  | nil => simp
  | cons first items ih =>
    rw [List.map_cons, List.nodup_cons] at hids
    obtain ⟨hfirst, hrest⟩ := hids
    intro item hitem
    rcases List.mem_cons.mp hitem with rfl | hitem
    · simp
    · have hne : first.pointerId ≠ item.pointerId := by
        intro heq
        exact hfirst (heq ▸ List.mem_map_of_mem hitem)
      rw [List.find?_cons_of_neg (by simpa using hne)]
      exact ih hrest item hitem

theorem serializePressedKeys_reports (event : PointerEvent) :
    Reports (serializePressedKeys event) (countedWire event.pressedKeys) := by
  have h : Reports (serializePressedKeys event) _ :=
    (Appends.push _).bindReports fun _ =>
    (Appends.forM (fun key => Appends.push key) event.pressedKeys).bindReports fun _ =>
    Reports.check
  rwa [List.append_nil] at h

/-- The event that the encoder writes: the item found under an id stands for each item with
that id. -/
def PointerEvent.asWritten (event : PointerEvent) : PointerEvent :=
  { event with
    pointers := event.pointers.map fun item => (event.getPointerItem item.pointerId).getD item
    pointers_length := by
      rw [List.length_map]
      exact event.pointers_length }

theorem getPointerItem_isSome {event : PointerEvent} {item : PointerItem}
    (h : item ∈ event.pointers) :
    event.getPointerItem item.pointerId
      = some ((event.getPointerItem item.pointerId).getD item) := by
  cases hfind : event.getPointerItem item.pointerId with
  | none => exact absurd (decide_eq_true rfl) (List.find?_eq_none.mp hfind item h)
  | some found => rfl

/-- A run of the encoder that ends without an error wrote the items it found. -/
theorem marshalling_reports_asWritten (event : PointerEvent) :
    Reports (marshalling event) (pointerEventWire event.asWritten) := by
  have hitems := serializePointerItems_reports_found event _ event.pointers
    fun _ hitem => getPointerItem_isSome hitem
  have h : Reports (marshalling event) _ :=
    (serializeInputEvent_reports event.toInputEvent).bind <|
    (Appends.push _).bindReports fun _ => (Appends.push _).bindReports fun _ =>
    (Appends.push _).bindReports fun _ => (Appends.push _).bindReports fun _ =>
    (Appends.push _).bindReports fun _ =>
    (pushAxis_appends event _).bindReports fun _ => (pushAxis_appends event _).bindReports fun _ =>
    (pushAxis_appends event _).bindReports fun _ =>
    (Appends.push _).bindReports fun _ =>
    (Appends.forM (fun button => Appends.push button) _).bindReports fun _ =>
    (Appends.push _).bindReports fun _ => hitems.bind (serializePressedKeys_reports event)
  have hlen : event.getPointerIds.length = event.asWritten.pointers.length :=
    (List.length_map _).trans (List.length_map _).symm
  rw [hlen] at h
  simp only [pointerEventWire, pointerFieldsWire, axisValuesWire, collectionsWire, countedWire,
    List.append_assoc] at h ⊢
  exact h

theorem asWritten_eq_iff (event : PointerEvent) :
    event.asWritten = event ↔
      ∀ item ∈ event.pointers, event.getPointerItem item.pointerId = some item := by
  have heq : event.asWritten = event ↔ event.asWritten.pointers = event.pointers :=
    ⟨congrArg PointerEvent.pointers, fun h => PointerEvent.ext rfl rfl rfl rfl rfl rfl rfl rfl rfl
      rfl h rfl rfl rfl rfl rfl rfl rfl⟩
  rw [heq]
  show event.pointers.map _ = event.pointers ↔ _
  conv_lhs => rhs; rw [← List.map_id event.pointers]
  rw [List.map_inj_left]
  refine forall₂_congr fun item hitem => ?_
  rw [getPointerItem_isSome hitem, Option.getD_some, Option.some.injEq, id]

/-- A run of the encoder that ends without an error wrote the event. -/
theorem marshalling_reports (event : PointerEvent) (hids : event.getPointerIds.Nodup) :
    Reports (marshalling event) (pointerEventWire event) := by
  have h := marshalling_reports_asWritten event
  rwa [(asWritten_eq_iff event).mpr (find_pointerId hids)] at h

theorem marshalling_checked (event : PointerEvent) : Checked (marshalling event) :=
  Checked.bind fun _ => Checked.ite Checked.retErr <|
  Checked.bind fun _ => Checked.bind fun _ => Checked.bind fun _ => Checked.bind fun _ =>
  Checked.bind fun _ => Checked.bind fun _ => Checked.bind fun _ => Checked.bind fun _ =>
  Checked.bind fun _ => Checked.bind fun _ => Checked.bind fun _ =>
  Checked.bind fun _ => Checked.ite Checked.retErr <|
  Checked.bind fun _ => Checked.bind fun _ => Checked.check

/-! ## Decoding the fixed fields -/

theorem readInputEvent_reads {eventType : Int32} (old event : InputEvent eventType) :
    Reads (readInputEvent old) (inputEventWire event)
      ({ event with bitwise := old.bitwise }, event.bitwise) := by
  have h : Reads (readInputEvent old) _ _ :=
    (Reads.pull _ eventType).bind <| (Reads.pull _ event.id).bind <|
    (Reads.pull _ event.actionTime).bind <| (Reads.pull _ event.action).bind <|
    (Reads.pull _ event.actionStartTime).bind <| (Reads.pull _ event.deviceId).bind <|
    (Reads.pull _ event.targetDisplayId).bind <| (Reads.pull _ event.targetWindowId).bind <|
    (Reads.pull _ event.agentWindowId).bind <| (Reads.pull _ event.bitwise).bind <|
    Reads.pure _
  rwa [List.append_nil] at h

theorem deserializeInputEvent_reads {eventType : Int32} (old event : InputEvent eventType)
    (hflag : old.bitwise = eventFlagNone) :
    Reads (deserializeInputEvent old) (inputEventWire event) (retOk, event) := by
  have hor : InputEvent.addFlag { event with bitwise := old.bitwise } event.bitwise = event := by
    rw [InputEvent.addFlag, hflag, eventFlagNone, UInt32.zero_or]
  have h : Reads (deserializeInputEvent old) _ _ :=
    (readInputEvent_reads old event).bind (Reads.rwError.bind (Reads.pure _))
  rw [List.append_nil, List.append_nil] at h
  simpa only [hor] using h

/-- The event `old` with the fixed pointer fields of `event`. -/
def withFields (old event : PointerEvent) : PointerEvent :=
  { old with
    pointerAction := event.pointerAction, pointerId := event.pointerId
    sourceType := event.sourceType, buttonId := event.buttonId }

theorem readPointerFields_reads (junk : Uninit) (old event : PointerEvent) :
    Reads (readPointerFields junk old) (pointerFieldsWire event)
      (event.buttonId, event.axes, withFields old event) := by
  have h : Reads (readPointerFields junk old) _ _ :=
    (Reads.pull _ event.pointerAction).bind <| (Reads.pull _ event.pointerId).bind <|
    (Reads.pull _ event.sourceType).bind <| (Reads.pull _ event.buttonId).bind <|
    (Reads.pull _ event.axes).bind <| Reads.pure _
  rwa [List.append_nil] at h

/-! ## Decoding the axes -/

/-- What the decoder does to `old` for one axis of `event`. -/
def copyAxis (event : PointerEvent) (axis : AxisType) (old : PointerEvent) : PointerEvent :=
  if hasAxis event.axes axis then old.setAxisValue axis (event.getAxisValue axis) else old

theorem pullAxis_reads (event old : PointerEvent) (axis : AxisType) (junk : Double) :
    ∃ v, Reads (pullAxis event.axes axis junk old) (axisWire event axis)
      (v, copyAxis event axis old) := by
  unfold pullAxis axisWire copyAxis
  split
  · refine ⟨event.getAxisValue axis, ?_⟩
    have h : Reads (pull junk >>= fun v => pure (v, old.setAxisValue axis v)) _ _ :=
      (Reads.pull junk (event.getAxisValue axis)).bind (Reads.pure _)
    rwa [List.append_nil] at h
  · exact ⟨junk, Reads.pure _⟩

/-- The axes in the order of the packet. -/
def copyAxes (event old : PointerEvent) : PointerEvent :=
  copyAxis event .pinch (copyAxis event .scrollHorizontal (copyAxis event .scrollVertical old))

theorem readAxisValues_reads (junk : Uninit) (event old : PointerEvent) :
    Reads (readAxisValues junk event.axes old) (axisValuesWire event) (copyAxes event old) := by
  obtain ⟨v₁, h₁⟩ := pullAxis_reads event old .scrollVertical junk.axisValue
  obtain ⟨v₂, h₂⟩ := pullAxis_reads event (copyAxis event .scrollVertical old)
    .scrollHorizontal v₁
  obtain ⟨v₃, h₃⟩ := pullAxis_reads event
    (copyAxis event .scrollHorizontal (copyAxis event .scrollVertical old)) .pinch v₂
  have h : Reads (readAxisValues junk event.axes old) _ _ :=
    h₁.bind (h₂.bind (h₃.bind (Reads.pure _)))
  rwa [List.append_nil] at h

/-- Within the four bits of the mask, having an axis is having its bit. -/
theorem hasAxis_eq_testBit {axes : UInt32} (h : axes.toNat < 16) (axis : AxisType) :
    hasAxis axes axis = axes.toNat.testBit axis.ord := by
  obtain ⟨k, hk, rfl⟩ : ∃ k < 16, axes = UInt32.ofNat k :=
    ⟨axes.toNat, h, UInt32.ofNat_toNat.symm⟩
  cases axis <;> interval_cases k <;> rfl

/-- Two masks of four bits with the same bits are equal. -/
theorem axes_ext {axes axes' : UInt32} (h : axes.toNat < 16) (h' : axes'.toNat < 16)
    (hbits : ∀ i : Fin 4, axes.toNat.testBit i = axes'.toNat.testBit i) : axes = axes' := by
  apply UInt32.toNat_inj.mp
  apply Nat.eq_of_testBit_eq
  intro i
  by_cases hi : i < 4
  · exact hbits ⟨i, hi⟩
  · have hpow : 2 ^ 4 ≤ 2 ^ i := Nat.pow_le_pow_right (by decide) (by omega)
    rw [Nat.testBit_lt_two_pow (by omega), Nat.testBit_lt_two_pow (by omega)]

theorem copyAxis_testBit (event old : PointerEvent) (axis : AxisType) (haxis : axis.ord < 4)
    (i : Fin 4) :
    (copyAxis event axis old).axes.toNat.testBit i
      = (old.axes.toNat.testBit i || (decide (i = axis.ord) && hasAxis event.axes axis)) := by
  unfold copyAxis
  cases hhas : hasAxis event.axes axis with
  | false => simp
  | true =>
    have hbit := (PointerEvent.setAxis_testBit old.axes ⟨axis.ord, haxis⟩ old.axes_lt).2 i
    simp only [if_true, PointerEvent.setAxisValue, dif_pos haxis, hbit, Bool.and_true, Fin.ext_iff]

theorem copyAxis_axisValues (event old : PointerEvent) (axis : AxisType) (haxis : axis.ord < 4)
    (i : Fin 4) :
    (copyAxis event axis old).axisValues i
      = if i = axis.ord ∧ hasAxis event.axes axis = true then event.axisValues i
        else old.axisValues i := by
  unfold copyAxis
  cases hhas : hasAxis event.axes axis with
  | false => simp
  | true =>
    simp only [if_true, PointerEvent.setAxisValue, PointerEvent.getAxisValue, dif_pos haxis,
      and_true]
    by_cases hi : i = (⟨axis.ord, haxis⟩ : Fin 4)
    · rw [hi, Function.update_self, if_pos rfl]
    · rw [Function.update_of_ne hi, if_neg fun h => hi (Fin.ext h)]

theorem copyAxis_rest (event old : PointerEvent) (axis : AxisType) :
    copyAxis event axis old =
      { old with
        axes := (copyAxis event axis old).axes
        axisValues := (copyAxis event axis old).axisValues
        axes_lt := (copyAxis event axis old).axes_lt
        axisValues_unset := (copyAxis event axis old).axisValues_unset } := by
  unfold copyAxis PointerEvent.setAxisValue
  split_ifs <;> rfl

/-- Only the axes are touched. -/
theorem copyAxes_rest (event old : PointerEvent) :
    copyAxes event old =
      { old with
        axes := (copyAxes event old).axes
        axisValues := (copyAxes event old).axisValues
        axes_lt := (copyAxes event old).axes_lt
        axisValues_unset := (copyAxes event old).axisValues_unset } := by
  unfold copyAxes
  generalize hold₁ : copyAxis event .scrollVertical old = old₁
  generalize hold₂ : copyAxis event .scrollHorizontal old₁ = old₂
  rw [copyAxis_rest event old₂ .pinch]
  have h₂ := copyAxis_rest event old₁ .scrollHorizontal
  have h₁ := copyAxis_rest event old .scrollVertical
  rw [hold₂] at h₂
  rw [hold₁] at h₁
  rw [h₂, h₁]

/-- The event `old` with the axes of `event`. -/
def withAxes (old event : PointerEvent) : PointerEvent :=
  { old with
    axes := event.axes, axisValues := event.axisValues, axes_lt := event.axes_lt
    axisValues_unset := event.axisValues_unset }

/-- An event without axes gets the axes of `event` and their values. -/
theorem copyAxes_eq (event old : PointerEvent) (haxes : old.axes = 0)
    (hknown : hasAxis event.axes .unknown = false) :
    copyAxes event old = withAxes old event := by
  have hold : ∀ i : Fin 4, old.axes.toNat.testBit i = false := by
    intro i
    rw [haxes]
    exact Nat.zero_testBit i
  have hbits := fun axis => hasAxis_eq_testBit event.axes_lt axis
  have h0 : event.axes.toNat.testBit 0 = false := (hbits .unknown).symm.trans hknown
  have hmask : (copyAxes event old).axes = event.axes := by
    apply axes_ext (copyAxes event old).axes_lt event.axes_lt
    intro i
    simp only [copyAxes, copyAxis_testBit event _ .pinch (by decide),
      copyAxis_testBit event _ .scrollHorizontal (by decide),
      copyAxis_testBit event _ .scrollVertical (by decide), hold, hbits, AxisType.ord]
    fin_cases i <;> simp [h0]
  have hvalues : (copyAxes event old).axisValues = event.axisValues := by
    funext i
    simp only [copyAxes, copyAxis_axisValues event _ .pinch (by decide),
      copyAxis_axisValues event _ .scrollHorizontal (by decide),
      copyAxis_axisValues event _ .scrollVertical (by decide), hbits, AxisType.ord,
      old.axisValues_unset i (hold i)]
    -- An axis outside the mask has the value zero on both sides.
    have hunset := event.axisValues_unset i
    cases hi : event.axes.toNat.testBit i with
    | false =>
      rw [hunset hi]
      fin_cases i <;> simp_all
    | true =>
      fin_cases i <;> simp_all
  rw [copyAxes_rest event old]
  exact PointerEvent.ext rfl rfl rfl rfl rfl rfl rfl rfl rfl rfl rfl rfl rfl rfl rfl
    hmask hvalues rfl

/-! ## Decoding the collections -/

theorem readButtons_reads (buttons : List Int32) :
    ∀ (tField : Int32) (old : PointerEvent),
      ∃ v, Reads (readButtons buttons.length tField old) (buttons.flatMap toBytes)
        (v, buttons.foldl PointerEvent.setButtonPressed old) := by
  induction buttons with
  | nil =>
    intro tField old
    exact ⟨tField, Reads.pure _⟩
  | cons button buttons ih =>
    intro tField old
    obtain ⟨v, h⟩ := ih button (old.setButtonPressed button)
    exact ⟨v, (Reads.pull tField button).bind h⟩

theorem deserializePointerItem_reads (old item : PointerItem) :
    Reads (deserializePointerItem old) (toBytes item) (retOk, item) := by
  have h : Reads (deserializePointerItem old) _ _ :=
    (Reads.pull old item).bind (Reads.rwError.bind (Reads.pure _))
  rwa [List.append_nil, List.append_nil] at h

theorem readPointerItems_reads (items : List PointerItem) :
    ∀ old : PointerEvent, Reads (readPointerItems items.length old) (items.flatMap toBytes)
      (retOk, items.foldl PointerEvent.addPointerItem old) := by
  induction items with
  | nil =>
    intro old
    exact Reads.pure _
  | cons item items ih =>
    intro old
    exact (deserializePointerItem_reads {} item).bind (ih (old.addPointerItem item))

theorem readPressedKeys_reads (keys : List Int32) :
    ∀ (tField : Int32) (front : List Int32),
      Reads (readPressedKeys keys.length tField front) (keys.flatMap toBytes) (front ++ keys) := by
  induction keys with
  | nil =>
    intro tField front
    rw [List.append_nil]
    exact Reads.pure _
  | cons key keys ih =>
    intro tField front
    have h := ih key (front ++ [key])
    rw [List.append_assoc] at h
    exact (Reads.pull tField key).bind h

theorem readCollections_reads (junk : Uninit) (tField : Int32) (event old : PointerEvent)
    (hkeys : event.pressedKeys.length < 2 ^ 64) :
    Reads (readCollections junk tField old) (collectionsWire event)
      (retOk, ((event.pointers.foldl PointerEvent.addPointerItem
        (event.pressedButtons.foldl PointerEvent.setButtonPressed old)).setPressedKeys
          event.pressedKeys)) := by
  have hcount : ∀ n, n < 2 ^ 64 → (UInt64.ofNat n).toNat = n := fun n hn =>
    UInt64.toNat_ofNat_of_lt' hn
  have hbuttons : event.pressedButtons.length ≤ 10 := event.buttons_length
  have hpointers : event.pointers.length ≤ 5 := event.pointers_length
  obtain ⟨v, hread⟩ := readButtons_reads event.pressedButtons tField old
  have hitems := readPointerItems_reads event.pointers
    (event.pressedButtons.foldl PointerEvent.setButtonPressed old)
  have hpressed := readPressedKeys_reads event.pressedKeys v []
  rw [← hcount event.pressedButtons.length (by omega)] at hread
  rw [← hcount event.pointers.length (by omega)] at hitems
  rw [← hcount event.pressedKeys.length hkeys] at hpressed
  have h : Reads (readCollections junk tField old) _ _ :=
    (Reads.pull _ (UInt64.ofNat event.pressedButtons.length)).bind <| hread.bind <|
    (Reads.pull _ (UInt64.ofNat event.pointers.length)).bind <| hitems.bind <|
    (Reads.pull _ (UInt64.ofNat event.pressedKeys.length)).bind <| hpressed.bind <|
    Reads.rwError.bind (Reads.pure _)
  simpa only [collectionsWire, countedWire, List.append_assoc, List.append_nil,
    List.nil_append] using h

/-- Buttons in ascending order, within the bound, are all added. -/
theorem foldl_setButtonPressed (buttons : List Int32) :
    ∀ (old : PointerEvent) (hs : (old.pressedButtons ++ buttons).Pairwise (· < ·))
      (hl : (old.pressedButtons ++ buttons).length ≤ maxNPressedButtons),
      buttons.foldl PointerEvent.setButtonPressed old =
        { old with
          pressedButtons := old.pressedButtons ++ buttons
          buttons_sorted := hs, buttons_length := hl } := by
  induction buttons with
  | nil =>
    intro old hs hl
    ext1 <;> simp
  | cons button buttons ih =>
    intro old hs hl
    have hroom : ¬ maxNPressedButtons ≤ old.pressedButtons.length := by
      simp only [List.length_append, List.length_cons] at hl
      omega
    have hlast : setInsert button old.pressedButtons = old.pressedButtons ++ [button] :=
      setInsert_of_forall_lt fun b hb => (List.pairwise_append.mp hs).2.2 b hb button (by simp)
    have hstep : (old.setButtonPressed button).pressedButtons = old.pressedButtons ++ [button] := by
      rw [PointerEvent.setButtonPressed, dif_neg hroom]
      exact hlast
    have happ : (old.setButtonPressed button).pressedButtons ++ buttons
        = old.pressedButtons ++ button :: buttons := by
      rw [hstep, List.append_assoc]
      rfl
    rw [List.foldl_cons, ih _ (happ ▸ hs) (happ ▸ hl)]
    apply PointerEvent.ext
    case pressedButtons => exact happ
    all_goals simp only [PointerEvent.setButtonPressed, dif_neg hroom]

theorem foldl_addPointerItem (items : List PointerItem) :
    ∀ (old : PointerEvent) (hl : (old.pointers ++ items).length ≤ maxNPointerItems),
      items.foldl PointerEvent.addPointerItem old =
        { old with pointers := old.pointers ++ items, pointers_length := hl } := by
  induction items with
  | nil =>
    intro old hl
    ext1 <;> simp
  | cons item items ih =>
    intro old hl
    have hroom : ¬ maxNPointerItems ≤ old.pointers.length := by
      simp only [List.length_append, List.length_cons] at hl
      omega
    have happ : (old.addPointerItem item).pointers ++ items = old.pointers ++ item :: items := by
      rw [PointerEvent.addPointerItem, dif_neg hroom]
      simp
    rw [List.foldl_cons, ih _ (happ ▸ hl)]
    apply PointerEvent.ext
    case pointers => exact happ
    all_goals simp only [PointerEvent.addPointerItem, dif_neg hroom]

/-! ## The round trip -/

/-- What the decoder makes of the bytes of an event: the axes that it reads are in. -/
def rebuilt (now : Int64) (event : PointerEvent) : PointerEvent :=
  (event.pointers.foldl PointerEvent.addPointerItem
    (event.pressedButtons.foldl PointerEvent.setButtonPressed
      (copyAxes event (withFields ((PointerEvent.create now).setBase event.toInputEvent)
        event)))).setPressedKeys event.pressedKeys

theorem unmarshalling_rebuilds (junk : Uninit) (now : Int64) (event : PointerEvent)
    (hkeys : event.pressedKeys.length < 2 ^ 64) :
    Reads (unmarshalling junk (PointerEvent.create now)) (pointerEventWire event)
      (retOk, rebuilt now event) := by
  have hbase := deserializeInputEvent_reads (PointerEvent.create now).toInputEvent
    event.toInputEvent rfl
  set old₁ := (PointerEvent.create now).setBase event.toInputEvent with hold₁
  have hfields := readPointerFields_reads junk old₁ event
  have haxes := readAxisValues_reads junk event (withFields old₁ event)
  have hcoll := readCollections_reads junk event.buttonId event
    (copyAxes event (withFields old₁ event)) hkeys
  exact hbase.bind (hfields.bind (haxes.bind hcoll))

theorem rebuilt_eq (now : Int64) (event : PointerEvent)
    (hknown : hasAxis event.axes .unknown = false) : rebuilt now event = event := by
  set old₁ := (PointerEvent.create now).setBase event.toInputEvent with hold₁
  rw [rebuilt, ← hold₁, copyAxes_eq event (withFields old₁ event) rfl hknown,
    foldl_setButtonPressed event.pressedButtons (withAxes (withFields old₁ event) event)
      event.buttons_sorted event.buttons_length]
  rw [foldl_addPointerItem event.pointers _ (by exact event.pointers_length)]
  rfl

/-- Decoding the bytes of an event into a new event. -/
theorem unmarshalling_reads (junk : Uninit) (now : Int64) (event : PointerEvent)
    (hknown : hasAxis event.axes .unknown = false)
    (hkeys : event.pressedKeys.length < 2 ^ 64) :
    Reads (unmarshalling junk (PointerEvent.create now)) (pointerEventWire event)
      (retOk, event) := by
  have h := unmarshalling_rebuilds junk now event hkeys
  rwa [rebuilt_eq now event hknown] at h

theorem foldl_axes {α : Type} {f : PointerEvent → α → PointerEvent}
    (hf : ∀ event a, (f event a).axes = event.axes) (as : List α) (event : PointerEvent) :
    (as.foldl f event).axes = event.axes := by
  induction as generalizing event with
  | nil => rfl
  | cons a as ih => rw [List.foldl_cons, ih, hf]

/-- The decoder never sets the bit of the unknown axis. -/
theorem rebuilt_unknown (now : Int64) (event : PointerEvent) :
    hasAxis (rebuilt now event).axes .unknown = false := by
  have hbutton : ∀ (old : PointerEvent) button, (old.setButtonPressed button).axes = old.axes :=
    fun old button => by
      unfold PointerEvent.setButtonPressed
      split <;> rfl
  have hitem : ∀ (old : PointerEvent) item, (old.addPointerItem item).axes = old.axes :=
    fun old item => by
      unfold PointerEvent.addPointerItem
      split <;> rfl
  have haxes : (rebuilt now event).axes = (copyAxes event (withFields
      ((PointerEvent.create now).setBase event.toInputEvent) event)).axes :=
    (foldl_axes hitem event.pointers _).trans (foldl_axes hbutton event.pressedButtons _)
  have hbit := copyAxis_testBit event
  rw [hasAxis_eq_testBit (rebuilt now event).axes_lt, haxes]
  show (copyAxes event _).axes.toNat.testBit (0 : Fin 4) = false
  simp only [copyAxes, hbit _ .pinch (by decide), hbit _ .scrollHorizontal (by decide),
    hbit _ .scrollVertical (by decide)]
  have hnone : (withFields ((PointerEvent.create now).setBase event.toInputEvent)
      event).axes.toNat.testBit (0 : Fin 4) = false := Nat.zero_testBit 0
  rw [hnone]
  simp [AxisType.ord]

/-- A pointer event that is marshalled with success is unmarshalled, into a
new event and whatever the uninitialised locals hold, to the same event,
and nothing is left unread. -/
theorem pointerEvent_roundTrip (event : PointerEvent) (now : Int64) (junk : Uninit)
    (hids : event.getPointerIds.Nodup) (hknown : hasAxis event.axes .unknown = false)
    (hret : ((marshalling event).run StreamBuffer.create).1 = retOk) :
    let pkt := ((marshalling event).run StreamBuffer.create).2
    let r := (unmarshalling junk (PointerEvent.create now)).run pkt
    r.1 = (retOk, event) ∧ r.2.unreadSize = 0 := by
  intro pkt r
  have hok : pkt.rwErrorStatus = .ok := marshalling_checked event StreamBuffer.create hret
  obtain ⟨-, -, hwrote⟩ := marshalling_reports event hids StreamBuffer.create hok
  have hpkt : pkt.Holds (pointerEventWire event) := hwrote [] StreamBuffer.create_holds
  -- The pressed keys are in the packet, so their number is small.
  have hkeys : event.pressedKeys.length < 2 ^ 64 := by
    have hlen := congrArg List.length hpkt.eq
    have hfit : pkt.wPos ≤ 16384 := pkt.wPos_le
    have hsize : (event.pressedKeys.flatMap toBytes).length = event.pressedKeys.length * 4 := by
      rw [List.length_flatMap]
      simp [ByteImage.toBytes_length, show byteSize Int32 = 4 from rfl]
    simp only [StreamBuffer.unread_length, pointerEventWire, collectionsWire, countedWire,
      List.length_append, hsize] at hlen
    omega
  rw [← List.append_nil (pointerEventWire event)] at hpkt
  obtain ⟨hval, hrest⟩ := unmarshalling_reads junk now event hknown hkeys pkt [] hpkt
  refine ⟨hval, ?_⟩
  rw [StreamBuffer.unreadSize_eq, hrest.eq]
  rfl

/-- Two fingers, two buttons, a scroll value and a pressed key. -/
def twoFingers : PointerEvent :=
  (((((((PointerEvent.create 5).setPointerId 7).addPointerItem { pointerId := 7, displayX := 30 }
    ).addPointerItem { pointerId := 8, pressed := true }).setButtonPressed 1).setButtonPressed 0
    ).setAxisValue .scrollVertical ⟨0x3FF0000000000000⟩).setPressedKeys [2072]

theorem pointerEvent_roundTrip_twoFingers :
    let pkt := ((marshalling twoFingers).run StreamBuffer.create).2
    let r := (unmarshalling ⟨0, 0, .zero, 0, 0, 0⟩ (PointerEvent.create 9)).run pkt
    r.1 = (retOk, twoFingers) ∧ r.2.unreadSize = 0 :=
  pointerEvent_roundTrip twoFingers 9 ⟨0, 0, .zero, 0, 0, 0⟩ (by decide) (by decide)
    (by decide +kernel)

end FtMmi.Event
