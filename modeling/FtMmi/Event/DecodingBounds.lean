/-
FtMmi.Event.DecodingBounds — how often the loops of the decoders run
(`Unmarshalling` of a pointer event, `DevDataUnmarshalling` of an input
device).

`unmarshallingRuns` and `devDataRuns` are the decoders with a record of
each loop they come to; `unmarshallingRuns_snd` and `devDataRuns_snd` say
that the record is all that was added.

Of the loops over a pointer event's pressed buttons, pointer items and
pressed keys only the middle one looks at the error status in its body.
The others, and the loop over the axes of a device, take their count for
granted: as it is in the packet, or as it is in an uninitialised variable
when the packet ends before it.
-/
import FtMmi.Client.InputDeviceImpl
import FtMmi.Event.KeyEventTheorems
import FtMmi.Network.CountedLoops
import FtMmi.Network.ErrorFlag

namespace FtMmi.Event

open FtMmi.Client
open FtMmi.Lib
open FtMmi.Network

/-! ## The decoders with a record of their loops -/

/-- The body of `readButtons`. -/
def buttonBody (s : Int32 × PointerEvent) : PacketM (Bool × Int32 × PointerEvent) := do
  let tField ← pull s.1
  pure (true, tField, s.2.setButtonPressed tField)

/-- The body of `readPointerItems`. -/
def itemBody (event : PointerEvent) : PacketM (Bool × PointerEvent) := do
  let r ← deserializePointerItem {}
  if r.1 ≠ retOk then pure (false, event) else pure (true, event.addPointerItem r.2)

/-- The body of `readPressedKeys`. -/
def keyBody (s : Int32 × List Int32) : PacketM (Bool × Int32 × List Int32) := do
  let tField ← pull s.1
  pure (true, tField, s.2 ++ [tField])

/-- The body of `readAxes`. -/
def axisBody (junk : DevDataUninit) (devData : InputDevice) : PacketM (Bool × InputDevice) := do
  let axis ← readAxisInfo (junk.axis devData.axis.length)
  pure (true, devData.addAxisInfo axis)

/-- The end of `readCollections`, from what the loop over the items came to. -/
def readKeys (junk : Uninit) (tField : Int32) (r : Int × PointerEvent) :
    PacketM (Int × PointerEvent) := do
  if r.1 ≠ retOk then pure (retErr, r.2)
  else
    let pressedKeySize ← pull junk.pressedKeySize
    let pressedKeys ← readPressedKeys pressedKeySize.toNat tField []
    if (← rwError) then pure (retErr, r.2) else pure (retOk, r.2.setPressedKeys pressedKeys)

/-- `readKeys` with the record of the loops. -/
def keyRuns (junk : Uninit) (buttons : LoopRun × Bool × Int32 × PointerEvent)
    (items : LoopRun × Bool × PointerEvent) : PacketM (List LoopRun × Int × PointerEvent) := do
  if items.2.1 then
    let pressedKeySize ← pull junk.pressedKeySize
    let keys ← runLoop (byteSize Int32) keyBody pressedKeySize.toNat (buttons.2.2.1, [])
    let runs := [buttons.1, items.1, keys.1]
    if (← rwError) then pure (runs, retErr, items.2.2)
    else pure (runs, retOk, items.2.2.setPressedKeys keys.2.2.2)
  else pure ([buttons.1, items.1], retErr, items.2.2)

/-- `readCollections` with the record of its loops. -/
def collectionRuns (junk : Uninit) (tField : Int32) (event : PointerEvent) :
    PacketM (List LoopRun × Int × PointerEvent) := do
  let nPressed ← pull junk.nPressed
  let buttons ← runLoop (byteSize Int32) buttonBody nPressed.toNat (tField, event)
  let pointerCnt ← pull junk.pointerCnt
  let items ← runLoop (byteSize PointerItem) itemBody pointerCnt.toNat buttons.2.2.2
  keyRuns junk buttons items

/-- The part of `unmarshalling` behind the base fields, with the record. -/
def fieldRuns (junk : Uninit) (event : PointerEvent) :
    PacketM (List LoopRun × Int × PointerEvent) := do
  let fields ← readPointerFields junk event
  let event ← readAxisValues junk fields.2.1 fields.2.2
  collectionRuns junk fields.1 event

/-- `unmarshalling` with the record of its loops. -/
def unmarshallingRuns (junk : Uninit) (event : PointerEvent) :
    PacketM (List LoopRun × Int × PointerEvent) := do
  let r ← deserializeInputEvent event.toInputEvent
  let event := event.setBase r.2
  if r.1 ≠ retOk then pure ([], retErr, event)
  else fieldRuns junk event

/-- `devDataUnmarshalling` with the record of its loop. -/
def devDataRuns (junk : DevDataUninit) : PacketM (LoopRun × InputDevice) := do
  let r ← readDevData junk
  let axes ← runLoop (byteSize Int32 * 6) (axisBody junk) r.2.toNat r.1
  pure (axes.1, axes.2.2)

/-! ## Nothing but the record was added -/

theorem readButtons_eq (n : Nat) :
    ∀ (tField : Int32) (event : PointerEvent) (b : StreamBuffer),
      (readButtons n tField event).run b
        = (((countedLoop buttonBody n (tField, event)).run b).1.2.2,
            ((countedLoop buttonBody n (tField, event)).run b).2) := by
  induction n with
  | zero => intro tField event b; rfl
  | succ n ih => intro tField event b; exact ih _ _ _

theorem readPressedKeys_eq (n : Nat) :
    ∀ (tField : Int32) (pressedKeys : List Int32) (b : StreamBuffer),
      (readPressedKeys n tField pressedKeys).run b
        = (((countedLoop keyBody n (tField, pressedKeys)).run b).1.2.2.2,
            ((countedLoop keyBody n (tField, pressedKeys)).run b).2) := by
  induction n with
  | zero => intro tField pressedKeys b; rfl
  | succ n ih => intro tField pressedKeys b; exact ih _ _ _

theorem readAxes_eq (junk : DevDataUninit) (n : Nat) :
    ∀ (devData : InputDevice) (b : StreamBuffer),
      (readAxes junk n devData).run b
        = (((countedLoop (axisBody junk) n devData).run b).1.2.2,
            ((countedLoop (axisBody junk) n devData).run b).2) := by
  induction n with
  | zero => intro devData b; rfl
  | succ n ih => intro devData b; exact ih _ _

theorem readPointerItems_eq (n : Nat) :
    ∀ (event : PointerEvent) (b : StreamBuffer),
      (readPointerItems n event).run b
        = ((if ((countedLoop itemBody n event).run b).1.2.1 then retOk else retErr,
            ((countedLoop itemBody n event).run b).1.2.2),
            ((countedLoop itemBody n event).run b).2) := by
  induction n with
  | zero => intro event b; rfl
  | succ n ih =>
    intro event b
    have hbody : (itemBody event).run b
        = (if ((deserializePointerItem {}).run b).1.1 ≠ retOk then (false, event)
            else (true, event.addPointerItem ((deserializePointerItem {}).run b).1.2),
          ((deserializePointerItem {}).run b).2) := by
      rw [itemBody, PacketM.run_bind]
      split <;> rfl
    rw [readPointerItems, countedLoop, PacketM.run_bind, PacketM.run_bind, hbody]
    by_cases hret : ((deserializePointerItem {}).run b).1.1 ≠ retOk
    · simp only [if_pos hret]
      rfl
    · simp only [if_neg hret]
      exact ih _ _

theorem readCollections_eq (junk : Uninit) (tField : Int32) (event : PointerEvent) :
    readCollections junk tField event = (do
      let nPressed ← pull junk.nPressed
      let r ← readButtons nPressed.toNat tField event
      let pointerCnt ← pull junk.pointerCnt
      let items ← readPointerItems pointerCnt.toNat r.2
      readKeys junk r.1 items) := rfl

/-- A choice by the error status at the end of a program. -/
theorem rwError_choice {α : Type} (x y : α) :
    (do if (← rwError) then pure x else pure y : PacketM α)
      = fun b => (if b.chkRWError then x else y, b) := by
  funext b
  show (if b.chkRWError = true then (pure x : PacketM α) else pure y).run b = _
  split <;> rfl

theorem keyRuns_snd (junk : Uninit) (buttons : LoopRun × Bool × Int32 × PointerEvent)
    (items : LoopRun × Bool × PointerEvent) (b : StreamBuffer) :
    (((keyRuns junk buttons items).run b).1.2, ((keyRuns junk buttons items).run b).2)
      = (readKeys junk buttons.2.2.1 (if items.2.1 then retOk else retErr, items.2.2)).run b := by
  obtain ⟨run, go, event⟩ := items
  cases go with
  | false => rfl
  | true =>
    unfold keyRuns readKeys
    simp only [if_true, ne_eq, not_true_eq_false, if_false, rwError_choice, PacketM.run_bind,
      runLoop_run, readPressedKeys_eq]
    exact Prod.ext (apply_ite Prod.snd _ _ _) rfl

theorem collectionRuns_snd (junk : Uninit) (tField : Int32) (event : PointerEvent)
    (b : StreamBuffer) :
    (((collectionRuns junk tField event).run b).1.2, ((collectionRuns junk tField event).run b).2)
      = (readCollections junk tField event).run b := by
  rw [readCollections_eq]
  simp only [PacketM.run_bind, readButtons_eq, readPointerItems_eq]
  exact keyRuns_snd junk _ _ _

theorem unmarshallingRuns_snd (junk : Uninit) (event : PointerEvent) (b : StreamBuffer) :
    (((unmarshallingRuns junk event).run b).1.2, ((unmarshallingRuns junk event).run b).2)
      = (unmarshalling junk event).run b := by
  unfold unmarshallingRuns unmarshalling
  rw [PacketM.run_bind, PacketM.run_bind]
  generalize (deserializeInputEvent event.toInputEvent).run b = r
  by_cases hret : r.1.1 ≠ retOk
  · simp only [if_pos hret]
    rfl
  · simp only [if_neg hret, fieldRuns, PacketM.run_bind]
    rw [← collectionRuns_snd]

theorem devDataRuns_snd (junk : DevDataUninit) (b : StreamBuffer) :
    (((devDataRuns junk).run b).1.2, ((devDataRuns junk).run b).2)
      = (devDataUnmarshalling junk).run b := by
  unfold devDataRuns devDataUnmarshalling
  simp only [PacketM.run_bind, readAxes_eq, runLoop_run, PacketM.run_pure]

/-! ## Which contents the loops fit -/

/-- The bytes of the axis values that a mask announces. -/
def axisBytes (tAxes : UInt32) : Nat :=
  (if hasAxis tAxes .scrollVertical then byteSize Double else 0) +
    ((if hasAxis tAxes .scrollHorizontal then byteSize Double else 0) +
      (if hasAxis tAxes .pinch then byteSize Double else 0))

/-- The counts of the collections, as the content has them. The loop over the
items looks after itself and ends the function if its items are not there. -/
def CollectionsFit (junk : Uninit) (left : Remaining) : Prop :=
  let buttons := left.count junk.nPressed
  let items := (buttons.2.skip (buttons.1.toNat * byteSize Int32)).count junk.pointerCnt
  let keys := (items.2.skip (items.1.toNat * byteSize PointerItem)).count junk.pressedKeySize
  buttons.1.toNat * byteSize Int32 ≤ buttons.2.size ∧
    (items.1.toNat * byteSize PointerItem ≤ items.2.size →
      keys.1.toNat * byteSize Int32 ≤ keys.2.size)

/-- 48 bytes of base fields, without which there is no loop, four numbers and the
axis mask, the axis values, the collections. -/
def PointerLoopsFit (junk : Uninit) (content : List UInt8) : Prop :=
  48 ≤ content.length →
    let fields : Remaining := some (content.drop 48)
    let tAxes : UInt32 := ofBytes ((content.drop 64).take (byteSize UInt32))
    CollectionsFit junk (fields.skip (20 + axisBytes tAxes))

/-- The types before the number of axes of a device. -/
def devDataTypes : List FieldType :=
  [.fixed Int32, .string, .fixed Int32, .fixed Int32, .fixed Int32, .fixed Int32, .fixed Int32,
    .string, .string]

/-- What is left before it, unless a read has failed or left the content. -/
def beforeAxes (content : List UInt8) : Remaining :=
  match walkAll devDataTypes (.inside content) with
  | some (.inside rest) => some rest
  | some .behind => none
  | none => none

/-- The number of axes, as the content has it. -/
def AxesFit (junk : DevDataUninit) (content : List UInt8) : Prop :=
  let axes := (beforeAxes content).count junk.size
  axes.1.toNat * (byteSize Int32 * 6) ≤ axes.2.size

/-! ## Bounded runs -/

/-- No loop runs through more often than there are elements; a failed read is
reported; success means that the three loops read all their elements, and then
the pressed keys of the event were in the packet. -/
structure UnmarshallingBounded (junk : Uninit) (event : PointerEvent) (b : StreamBuffer) :
    Prop where
  bounded : ∀ run ∈ ((unmarshallingRuns junk event).run b).1.1, run.Bounded
  stops : ((unmarshallingRuns junk event).run b).2.rwErrorStatus ≠ .ok →
    ((unmarshallingRuns junk event).run b).1.2.1 = retErr
  complete : ((unmarshallingRuns junk event).run b).1.2.1 = retOk →
    ((unmarshallingRuns junk event).run b).1.1.length = 3 ∧
      ∀ run ∈ ((unmarshallingRuns junk event).run b).1.1, run.iterations = run.count ∧ run.Bounded
  keys : ((unmarshallingRuns junk event).run b).1.2.1 = retOk →
    ((unmarshallingRuns junk event).run b).1.2.2.pressedKeys.length * byteSize Int32
      ≤ b.unreadSize

/-- The same bound of the loop over the axes of a device. -/
def DevDataBounded (junk : DevDataUninit) (b : StreamBuffer) : Prop :=
  ((devDataRuns junk).run b).1.1.Bounded

/-! ## The bodies -/

theorem buttonBody_skips (s : Int32 × PointerEvent) : Skips (buttonBody s) (byteSize Int32) :=
  ((Consumes.pull s.1).map _).skips

theorem keyBody_skips (s : Int32 × List Int32) : Skips (keyBody s) (byteSize Int32) :=
  ((Consumes.pull s.1).map _).skips

theorem readAxisInfo_consumes (junk : AxisInfo) :
    Consumes (readAxisInfo junk) (byteSize Int32 * 6) :=
  (Consumes.pull _).bind fun _ => (Consumes.pull _).bind fun _ => (Consumes.pull _).bind fun _ =>
  (Consumes.pull _).bind fun _ => (Consumes.pull _).bind fun _ => (Consumes.pull _).map _

theorem axisBody_skips (junk : DevDataUninit) (devData : InputDevice) :
    Skips (axisBody junk devData) (byteSize Int32 * 6) :=
  ((readAxisInfo_consumes _).map _).skips

theorem deserializePointerItem_run (item : PointerItem) (b : StreamBuffer) :
    (deserializePointerItem item).run b
      = (if ((pull item).run b).2.chkRWError then (retErr, ((pull item).run b).1)
          else (retOk, ((pull item).run b).1), ((pull item).run b).2) := by
  unfold deserializePointerItem
  simp only [rwError_choice, PacketM.run_bind]
  rfl

theorem itemBody_run (event : PointerEvent) (b : StreamBuffer) :
    ((itemBody event).run b).1.1 = (!((itemBody event).run b).2.chkRWError) ∧
      ((itemBody event).run b).2 = ((pull ({} : PointerItem)).run b).2 := by
  rw [itemBody, PacketM.run_bind, deserializePointerItem_run]
  cases herr : ((pull ({} : PointerItem)).run b).2.chkRWError with
  | true => exact ⟨congrArg (!·) herr.symm, rfl⟩
  | false => exact ⟨congrArg (!·) herr.symm, rfl⟩

theorem itemBody_skips (event : PointerEvent) :
    Skips (itemBody event) (byteSize PointerItem) := by
  intro b left h
  rw [(itemBody_run event b).2]
  exact (Consumes.pull ({} : PointerItem)).skips b left h

/-- Every iteration over the pressed keys adds one. -/
theorem countedLoop_keyBody_length (n : Nat) :
    ∀ (s : Int32 × List Int32) (b : StreamBuffer),
      ((countedLoop keyBody n s).run b).1.2.2.2.length = s.2.length + n := by
  induction n with
  | zero => intro s b; rfl
  | succ n ih =>
    intro s b
    rw [countedLoop, PacketM.run_bind]
    show ((countedLoop keyBody n _).run _).1.2.2.2.length = _
    rw [ih]
    show (s.2 ++ [_]).length + n = _
    rw [List.length_append, List.length_singleton]
    omega

/-! ## The collections -/

/-- The same bounds of the collections, from what is left of the content. -/
structure CollectionsRun (junk : Uninit) (left : Remaining)
    (r : (List LoopRun × Int × PointerEvent) × StreamBuffer) : Prop where
  bounded : (∀ run ∈ r.1.1, run.Bounded) ↔ CollectionsFit junk left
  stops : r.2.rwErrorStatus ≠ .ok → r.1.2.1 = retErr
  complete : r.1.2.1 = retOk →
    r.1.1.length = 3 ∧ ∀ run ∈ r.1.1, run.iterations = run.count ∧ run.Bounded
  keys : r.1.2.1 = retOk → r.1.2.2.pressedKeys.length * byteSize Int32 ≤ left.size

theorem collectionRuns_run (junk : Uninit) (tField : Int32) (event : PointerEvent)
    {b : StreamBuffer} {left : Remaining} (h : b.Leaves left) :
    CollectionsRun junk left ((collectionRuns junk tField event).run b) := by
  have herr : retErr ≠ retOk := by decide
  obtain ⟨hn, hleft₁⟩ := pull_count junk.nPressed h
  set buttons := left.count junk.nPressed with hbuttonsDef
  obtain ⟨b₂, hbuttons, hleft₂⟩ := runLoop_unchecked buttonBody_skips (fun _ _ => rfl)
    buttons.1.toNat (tField, event) hleft₁
  obtain ⟨hm, hleft₃⟩ := pull_count junk.pointerCnt hleft₂
  set items := (buttons.2.skip (buttons.1.toNat * byteSize Int32)).count junk.pointerCnt
    with hitemsDef
  rw [collectionRuns, PacketM.run_bind, hn, PacketM.run_bind, hbuttons, PacketM.run_bind, hm,
    PacketM.run_bind]
  simp only
  set start := ((countedLoop buttonBody buttons.1.toNat (tField, event)).run
    ((pull junk.nPressed).run b).2).1.2.2
  rcases runLoop_checked byteSize_pos itemBody_skips (fun s b => (itemBody_run s b).1)
    items.1.toNat start.2 hleft₃ with ⟨hfit, s', b₄, hitems, hleft₄⟩ |
      ⟨hshort, k, s', b₄, hitems, hk, hbroken⟩
  · obtain ⟨hp, hleft₅⟩ := pull_count junk.pressedKeySize hleft₄
    set keys := (items.2.skip (items.1.toNat * byteSize PointerItem)).count junk.pressedKeySize
      with hkeysDef
    obtain ⟨b₆, hkeys, hleft₆⟩ := runLoop_unchecked keyBody_skips (fun _ _ => rfl)
      keys.1.toNat (start.1, []) hleft₅
    have hlen := countedLoop_keyBody_length keys.1.toNat (start.1, [])
      ((pull junk.pressedKeySize).run b₄).2
    set pressed := ((countedLoop keyBody keys.1.toNat (start.1, [])).run
      ((pull junk.pressedKeySize).run b₄).2).1.2.2
    have hfitsIff : CollectionsFit junk left ↔ buttons.1.toNat * byteSize Int32 ≤ buttons.2.size ∧
        keys.1.toNat * byteSize Int32 ≤ keys.2.size :=
      ⟨fun hall => ⟨hall.1, hall.2 hfit⟩, fun hall => ⟨hall.1, fun _ => hall.2⟩⟩
    have hruns : (∀ run ∈ [(⟨byteSize Int32, buttons.2.size, buttons.1.toNat, buttons.1.toNat⟩ :
          LoopRun), ⟨byteSize PointerItem, items.2.size, items.1.toNat, items.1.toNat⟩,
          ⟨byteSize Int32, keys.2.size, keys.1.toNat, keys.1.toNat⟩], run.Bounded) ↔
        CollectionsFit junk left := by
      rw [hfitsIff, List.forall_mem_cons, List.forall_mem_cons, List.forall_mem_cons]
      exact ⟨fun hall => ⟨hall.1, hall.2.2.1⟩,
        fun hall => ⟨hall.1, hfit, hall.2, fun run hrun => absurd hrun (List.not_mem_nil)⟩⟩
    rw [hitems]
    unfold keyRuns
    simp only [if_true, rwError_choice]
    rw [PacketM.run_bind, hp, PacketM.run_bind, hkeys]
    simp only [StateT.run]
    by_cases hbroken : b₆.chkRWError = true
    · rw [if_pos hbroken]
      exact
        { bounded := hruns
          stops := fun _ => rfl
          complete := fun hret => absurd hret herr
          keys := fun hret => absurd hret herr }
    · rw [if_neg hbroken]
      have hok : b₆.rwErrorStatus = .ok :=
        (StreamBuffer.chkRWError_eq_false_iff b₆).mp (Bool.eq_false_iff.mpr hbroken)
      -- Every read came before one that succeeded.
      obtain ⟨rest₆, hrest₆⟩ := hleft₆.some_of_ok hok
      have hkeysFit := Remaining.le_size_of_skip hrest₆
      obtain ⟨rest₅, hrest₅⟩ := Remaining.some_of_skip hrest₆
      obtain ⟨rest₄, hrest₄⟩ := Remaining.some_of_count hrest₅
      obtain ⟨rest₃, hrest₃⟩ := Remaining.some_of_skip hrest₄
      obtain ⟨rest₂, hrest₂⟩ := Remaining.some_of_count hrest₃
      have hbuttonsFit := Remaining.le_size_of_skip hrest₂
      have hsize : keys.2.size ≤ left.size :=
        calc keys.2.size ≤ (items.2.skip (items.1.toNat * byteSize PointerItem)).size :=
              Remaining.count_size_le _ _
          _ ≤ items.2.size := Remaining.skip_size_le _ _
          _ ≤ (buttons.2.skip (buttons.1.toNat * byteSize Int32)).size :=
              Remaining.count_size_le _ _
          _ ≤ buttons.2.size := Remaining.skip_size_le _ _
          _ ≤ left.size := Remaining.count_size_le _ _
      refine
        { bounded := hruns
          stops := fun hne => absurd hok hne
          complete := fun _ => ⟨rfl, ?_⟩
          keys := fun _ => ?_ }
      · have hall := hruns.mpr (hfitsIff.mpr ⟨hbuttonsFit, hkeysFit⟩)
        intro run hrun
        refine ⟨?_, hall run hrun⟩
        simp only [List.mem_cons, List.not_mem_nil, or_false] at hrun
        rcases hrun with rfl | rfl | rfl <;> rfl
      · show pressed.2.length * byteSize Int32 ≤ left.size
        rw [hlen, List.length_nil, Nat.zero_add]
        exact Nat.le_trans hkeysFit hsize
  · have hfitsIff : CollectionsFit junk left ↔
        buttons.1.toNat * byteSize Int32 ≤ buttons.2.size :=
      ⟨fun hall => hall.1, fun hall => ⟨hall, fun hfit => absurd hfit hshort⟩⟩
    rw [hitems]
    unfold keyRuns
    simp only [Bool.false_eq_true, if_false]
    refine
      { bounded := ?_
        stops := fun _ => rfl
        complete := fun hret => absurd hret herr
        keys := fun hret => absurd hret herr }
    rw [hfitsIff]
    show (∀ run ∈ [(⟨byteSize Int32, buttons.2.size, buttons.1.toNat, buttons.1.toNat⟩ : LoopRun),
      ⟨byteSize PointerItem, items.2.size, items.1.toNat, k⟩], run.Bounded) ↔ _
    rw [List.forall_mem_cons, List.forall_mem_cons]
    exact ⟨fun hall => hall.1,
      fun hall => ⟨hall, hk, fun run hrun => absurd hrun (List.not_mem_nil)⟩⟩

/-! ## The fields before them -/

/-- The four numbers before the axis mask. -/
def readNumbers (junk : Uninit) (event : PointerEvent) : PacketM (Int32 × PointerEvent) := do
  let tField ← pull junk.tField
  let event := event.setPointerAction tField
  let tField ← pull tField
  let event := event.setPointerId tField
  let tField ← pull tField
  let event := event.setSourceType tField
  let tField ← pull tField
  pure (tField, event.setButtonId tField)

theorem readPointerFields_eq (junk : Uninit) (event : PointerEvent) :
    readPointerFields junk event = (do
      let r ← readNumbers junk event
      let tAxes ← pull junk.tAxes
      pure (r.1, tAxes, r.2)) := rfl

theorem readNumbers_consumes (junk : Uninit) (event : PointerEvent) :
    Consumes (readNumbers junk event) 16 :=
  (Consumes.pull _).bind fun _ => (Consumes.pull _).bind fun _ => (Consumes.pull _).bind fun _ =>
  (Consumes.pull _).map _

theorem readPointerFields_skips (junk : Uninit) (event : PointerEvent) :
    Skips (readPointerFields junk event) 20 := by
  rw [readPointerFields_eq]
  exact ((readNumbers_consumes junk event).bind fun _ => (Consumes.pull junk.tAxes).map _).skips

/-- The axis mask comes behind them. -/
theorem readPointerFields_tAxes (junk : Uninit) (event : PointerEvent) {b : StreamBuffer}
    (h : Has b 20) :
    ((readPointerFields junk event).run b).1.2.1
      = ofBytes ((b.unread.drop 16).take (byteSize UInt32)) := by
  have h16 : Has b 16 := h.mono (by decide)
  have hmask : Has (b.advance 16) (byteSize UInt32) := h16.advance.mpr h
  rw [readPointerFields_eq, PacketM.run_bind]
  rcases readNumbers_consumes junk event b with ⟨_, hnumbers⟩ | ⟨hshort, _⟩
  · rw [hnumbers, PacketM.run_bind, run_pull, extract_of_has hmask, StreamBuffer.advance_unread]
    rfl
  · exact absurd h16 hshort

theorem pullAxis_skips (tAxes : UInt32) (axis : AxisType) (axisValue : Double)
    (event : PointerEvent) :
    Skips (pullAxis tAxes axis axisValue event)
      (if hasAxis tAxes axis then byteSize Double else 0) := by
  unfold pullAxis
  by_cases hax : hasAxis tAxes axis = true
  · rw [if_pos hax, if_pos hax]
    exact ((Consumes.pull axisValue).map _).skips
  · rw [if_neg hax, if_neg hax]
    exact Skips.pure _

theorem readAxisValues_skips (junk : Uninit) (tAxes : UInt32) (event : PointerEvent) :
    Skips (readAxisValues junk tAxes event) (axisBytes tAxes) :=
  (pullAxis_skips _ _ _ _).bind fun _ => (pullAxis_skips _ _ _ _).bind fun _ =>
    (pullAxis_skips _ _ _ _).bind (k := 0) fun _ => Skips.pure _

theorem fieldRuns_run (junk : Uninit) (event : PointerEvent) {b : StreamBuffer}
    {fields : List UInt8} (h : b.Holds fields) :
    CollectionsRun junk
      (Remaining.skip (20 + axisBytes (ofBytes ((fields.drop 16).take (byteSize UInt32))))
        (some fields)) ((fieldRuns junk event).run b) := by
  have hleaves : b.Leaves (some fields) := h
  have hfields := readPointerFields_skips junk event b _ hleaves
  have htAxes : 20 ≤ fields.length → ((readPointerFields junk event).run b).1.2.1
      = ofBytes ((fields.drop 16).take (byteSize UInt32)) := fun hhas => by
    rw [readPointerFields_tAxes junk event ((hleaves.has_iff (by decide)).mpr hhas), h.eq]
  rw [fieldRuns, PacketM.run_bind, PacketM.run_bind]
  generalize (readPointerFields junk event).run b = r at hfields htAxes ⊢
  have hleft := readAxisValues_skips junk r.1.2.1 r.1.2.2 _ _ hfields
  rw [Remaining.skip_skip] at hleft
  generalize (readAxisValues junk r.1.2.1 r.1.2.2).run r.2 = r' at hleft ⊢
  by_cases hhas : 20 ≤ fields.length
  · rw [htAxes hhas] at hleft
    exact collectionRuns_run junk _ _ hleft
  · -- Without the fields no mask matters.
    have hnone : ∀ n, Remaining.skip (20 + n) (some fields) = none := fun n => by
      rw [Remaining.skip, if_neg (by omega)]
    rw [hnone] at hleft ⊢
    exact collectionRuns_run junk _ _ hleft

/-! ## Reads with strings -/

/-- `m` reads values of the types `ts`. -/
def Walks {α : Type} (m : PacketM α) (ts : List FieldType) : Prop :=
  (∀ b : StreamBuffer, b.rwErrorStatus ≠ .ok → (m.run b).2.rwErrorStatus ≠ .ok) ∧
    ∀ (b : StreamBuffer) (p : Place), b.Stands p →
      match walkAll ts p with
      | none => (m.run b).2.rwErrorStatus ≠ .ok
      | some p' => (m.run b).2.Stands p'

theorem Walks.pullField (t : FieldType) : Walks (Network.pullField t) [t] := by
  refine ⟨fun b hb => StreamBuffer.read_keeps_error t t.fresh b hb, fun b p h => ?_⟩
  have hread := StreamBuffer.read_walks t t.fresh h
  rw [walkAll]
  cases hw : walk t p with
  | none =>
    rw [hw] at hread
    exact hread
  | some found =>
    rw [hw] at hread
    exact hread.2

theorem Walks.pull {α : Type} [ByteImage α] (old : α) :
    Walks (Network.pull old) [.fixed α] := by
  refine ⟨fun b hb => StreamBuffer.read_keeps_error (.fixed α) old b hb, fun b p h => ?_⟩
  have hread := StreamBuffer.read_walks (.fixed α) old h
  rw [walkAll]
  cases hw : walk (.fixed α) p with
  | none =>
    rw [hw] at hread
    exact hread
  | some found =>
    rw [hw] at hread
    exact hread.2

theorem Walks.bind {α β : Type} {m : PacketM α} {f : α → PacketM β} {t : FieldType}
    {ts : List FieldType} (hm : Walks m [t]) (hf : ∀ a, Walks (f a) ts) :
    Walks (m >>= f) (t :: ts) := by
  refine ⟨fun b hb => (hf _).1 _ (hm.1 b hb), fun b p h => ?_⟩
  have hfirst := hm.2 b p h
  rw [PacketM.run_bind]
  rw [walkAll] at hfirst ⊢
  cases hw : walk t p with
  | none =>
    rw [hw] at hfirst
    exact (hf _).1 _ hfirst
  | some found =>
    rw [hw] at hfirst
    exact (hf _).2 _ _ hfirst

theorem Walks.map {α β : Type} {m : PacketM α} {ts : List FieldType} (hm : Walks m ts)
    (f : α → β) : Walks (m >>= fun a => pure (f a)) ts :=
  hm

/-! ## Both decoders -/

/-- The loops of a pointer event stay within the content precisely if the two
counts that nothing checks fit it. -/
theorem unmarshallingBounded_iff (junk : Uninit) (event : PointerEvent) {b : StreamBuffer}
    {content : List UInt8} (h : b.Holds content) :
    UnmarshallingBounded junk event b ↔ PointerLoopsFit junk content := by
  have herr : retErr ≠ retOk := by decide
  have hlen : content.length = b.wPos - b.rPos := by rw [← h.eq, StreamBuffer.unread_length]
  have hle := h.le
  rcases deserializeInputEvent_cases event.toInputEvent b with ⟨hhas, event', hbase⟩ | ⟨hshort, hret⟩
  · have hlong : 48 ≤ content.length := by have hfit := hhas.2; omega
    have hfields : (b.advance 48).Holds (content.drop 48) := by
      have hsplit : b.Holds (content.take 48 ++ content.drop 48) := by rwa [List.take_append_drop]
      have hadvance := hsplit.advance
      rwa [List.length_take, Nat.min_eq_left hlong] at hadvance
    have hrun := fieldRuns_run junk (event.setBase event') hfields
    rw [List.drop_drop] at hrun
    have hruns : (unmarshallingRuns junk event).run b
        = (fieldRuns junk (event.setBase event')).run (b.advance 48) := by
      rw [unmarshallingRuns, PacketM.run_bind, hbase]
      rfl
    rw [← hruns] at hrun
    have hsize : ∀ n, (Remaining.skip n (some (content.drop 48))).size ≤ b.unreadSize := by
      intro n
      have hskip := Remaining.skip_size_le (some (content.drop 48)) n
      have hdrop : (content.drop 48).length ≤ content.length := by
        rw [List.length_drop]
        omega
      rw [StreamBuffer.unreadSize_eq, h.eq]
      exact Nat.le_trans hskip hdrop
    constructor
    · intro hall _
      exact hrun.bounded.mp hall.bounded
    · intro hfit
      exact
        { bounded := hrun.bounded.mpr (hfit hlong)
          stops := hrun.stops
          complete := hrun.complete
          keys := fun hok => Nat.le_trans (hrun.keys hok) (hsize _) }
  · have hfew : ¬ 48 ≤ content.length := fun hlong => hshort ⟨h.ok, by omega⟩
    have hne : ((deserializeInputEvent event.toInputEvent).run b).1.1 ≠ retOk := hret ▸ herr
    have hruns : ((unmarshallingRuns junk event).run b).1.1 = [] ∧
        ((unmarshallingRuns junk event).run b).1.2.1 = retErr := by
      rw [unmarshallingRuns, PacketM.run_bind, if_pos hne]
      exact ⟨rfl, rfl⟩
    refine ⟨fun _ hlong => absurd hlong hfew, fun _ => ?_⟩
    exact
      { bounded := by rw [hruns.1]; exact fun run hrun => absurd hrun (List.not_mem_nil)
        stops := fun _ => hruns.2
        complete := fun hok => absurd (hruns.2.symm.trans hok) herr
        keys := fun hok => absurd (hruns.2.symm.trans hok) herr }

/-- The fields of a device before the number of its axes. -/
def readDevFields (junk : DevDataUninit) : PacketM InputDevice := do
  let deviceId ← pull junk.deviceId
  let name ← pullField .string
  let deviceType ← pull junk.deviceType
  let bus ← pull junk.bus
  let product ← pull junk.product
  let vendor ← pull junk.vendor
  let version ← pull junk.version
  let phys ← pullField .string
  let uniq ← pullField .string
  pure { id := deviceId, name, type := deviceType, bus, version, product, vendor, phys, uniq,
         axis := [] }

theorem readDevData_eq (junk : DevDataUninit) :
    readDevData junk = (do
      let device ← readDevFields junk
      let size ← pull junk.size
      pure (device, size)) := rfl

theorem readDevFields_walks (junk : DevDataUninit) : Walks (readDevFields junk) devDataTypes :=
  (Walks.pull _).bind fun _ => (Walks.pullField .string).bind fun _ => (Walks.pull _).bind fun _ =>
  (Walks.pull _).bind fun _ => (Walks.pull _).bind fun _ => (Walks.pull _).bind fun _ =>
  (Walks.pull _).bind fun _ => (Walks.pullField .string).bind fun _ =>
  (Walks.pullField .string).map _

/-- A count behind the content is not read. -/
theorem pull_behind (junk : UInt64) {b : StreamBuffer} (h : b.wPos < b.rPos) :
    ((pull junk).run b).1 = junk ∧ ((pull junk).run b).2.Leaves none := by
  rw [run_pull]
  rcases StreamBuffer.readBytes_cases b (byteSize UInt64) with ⟨_, _, hfit, _⟩ | ⟨_, e, he, heq⟩
  · omega
  · rw [StreamBuffer.extract_snd, heq]
    exact ⟨by simp [StreamBuffer.extract, StreamBuffer.readFixed, heq], he⟩

theorem pull_axisCount (junk : DevDataUninit) {b : StreamBuffer} {content : List UInt8}
    (h : b.Stands (.inside content)) :
    ((pull junk.size).run ((readDevFields junk).run b).2).1
        = ((beforeAxes content).count junk.size).1 ∧
      ((pull junk.size).run ((readDevFields junk).run b).2).2.Leaves
        ((beforeAxes content).count junk.size).2 := by
  have hwalk := (readDevFields_walks junk).2 b _ h
  unfold beforeAxes
  cases hw : walkAll devDataTypes (.inside content) with
  | none =>
    rw [hw] at hwalk
    have hleft : ((readDevFields junk).run b).2.Leaves none := hwalk
    exact pull_count junk.size hleft
  | some p =>
    rw [hw] at hwalk
    cases p with
    | inside rest =>
      have hshows : ((readDevFields junk).run b).2.Shows rest := hwalk.at_
      have hleft : ((readDevFields junk).run b).2.Leaves (some rest) := hshows.holds hwalk.ok
      exact pull_count junk.size hleft
    | behind => exact pull_behind junk.size hwalk.at_

/-- The loop over the axes stays within the content precisely if its count fits. -/
theorem devDataBounded_iff (junk : DevDataUninit) {b : StreamBuffer} {content : List UInt8}
    (h : b.Stands (.inside content)) : DevDataBounded junk b ↔ AxesFit junk content := by
  obtain ⟨hcount, hleft⟩ := pull_axisCount junk h
  rw [DevDataBounded, devDataRuns, readDevData_eq]
  simp only [PacketM.run_bind, PacketM.run_pure]
  obtain ⟨b', hrun, _⟩ := runLoop_unchecked (axisBody_skips junk) (fun _ _ => rfl)
    ((beforeAxes content).count junk.size).1.toNat ((readDevFields junk).run b).1 hleft
  rw [hcount, hrun]
  exact Iff.rfl

/-- Which contents keep the loops of the two decoders within bounds. -/
theorem decodingBounds_iff (junk : Uninit) (event : PointerEvent) (junk' : DevDataUninit)
    {b : StreamBuffer} {content : List UInt8} (h : b.Stands (.inside content)) :
    (UnmarshallingBounded junk event b ↔ PointerLoopsFit junk content) ∧
      (DevDataBounded junk' b ↔ AxesFit junk' content) := by
  have hshows : b.Shows content := h.at_
  exact ⟨unmarshallingBounded_iff junk event (hshows.holds h.ok), devDataBounded_iff junk' h⟩

/-- A pointer event without buttons and items, whose last count has no key behind it. -/
def keysMissing (count : UInt64) : List UInt8 := List.replicate 84 0 ++ toBytes count

/-- What the locals of the two decoders may hold. -/
def noJunk : Uninit := ⟨0, 0, .zero, 0, 0, 0⟩

def noDevJunk : DevDataUninit := ⟨0, 0, 0, 0, 0, 0, 0, fun _ => {}⟩

/-- A pointer event with one button, one item and two keys. -/
def oneItemTwoKeys : List UInt8 :=
  List.replicate 68 0 ++ toBytes (1 : UInt64) ++ toBytes (272 : Int32) ++
    toBytes (1 : UInt64) ++ List.replicate (byteSize PointerItem) 0 ++
    toBytes (2 : UInt64) ++ toBytes (2017 : Int32) ++ toBytes (2018 : Int32)

/-- A device with one axis, whose strings are empty. -/
def oneAxis : List UInt8 :=
  List.replicate 27 0 ++ toBytes (1 : UInt64) ++ List.replicate 24 0

theorem decodingBounds_elements :
    UnmarshallingBounded noJunk (PointerEvent.create 0)
        (NetPacket.ofPayload 0 oneItemTwoKeys (by decide +kernel)).toStreamBuffer ∧
      DevDataBounded noDevJunk (NetPacket.ofPayload 0 oneAxis (by decide +kernel)).toStreamBuffer :=
  ⟨(decodingBounds_iff noJunk (PointerEvent.create 0) noDevJunk
      (StreamBuffer.stands_ofPayload 0 oneItemTwoKeys (by decide +kernel))).1.mpr
      fun _ => ⟨by decide +kernel, fun _ => by decide +kernel⟩,
    (decodingBounds_iff noJunk (PointerEvent.create 0) noDevJunk
      (StreamBuffer.stands_ofPayload 0 oneAxis (by decide +kernel))).2.mpr
      (by unfold AxesFit; decide +kernel)⟩

/-- A count of 2^64-1 keys with no key behind it: that many iterations. And a packet
with nothing in it, while the variable for the number of axes holds 7. -/
theorem counterexample_decodingBounds :
    ¬ UnmarshallingBounded noJunk (PointerEvent.create 0)
        (NetPacket.ofPayload 0 (keysMissing 0xFFFFFFFFFFFFFFFF) (by decide)).toStreamBuffer ∧
      ¬ DevDataBounded { noDevJunk with size := 7 }
        (NetPacket.ofPayload 0 [] (by decide)).toStreamBuffer := by
  constructor
  · rw [unmarshallingBounded_iff noJunk _ (StreamBuffer.holds_ofPayload 0 _ _)]
    intro h
    have hfit := (h (by decide)).2 (by decide)
    exact absurd hfit (by decide)
  · rw [devDataBounded_iff _ (StreamBuffer.stands_ofPayload 0 _ _), AxesFit]
    decide

end FtMmi.Event
