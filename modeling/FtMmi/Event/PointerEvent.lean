/-
FtMmi.Event.PointerEvent — `PointerEvent` (`pointer_event.cpp`): the data
of the class and its public setters.

The bounds and the ordering that the setters maintain are fields of the
structure: at most 5 items, at most 10 pressed buttons kept as an
ascending list (`std::set<int32_t>`), an axis mask of four bits, and the
value zero on every axis outside the mask. Every setter of the class is a
function into the structure, so an event built with them is one of its
values.

A `double` is its 64-bit pattern: the codec copies axis values and items
as raw bytes and computes with none of them.
-/
import FtMmi.Event.KeyEvent

namespace FtMmi.Event

open FtMmi.Lib

def maxNPressedButtons : Nat := 10

def maxNPointerItems : Nat := 5

/-! ## Pointer items -/

structure Double where
  bits : UInt64
  deriving DecidableEq, Repr

instance : ByteImage Double := .ofLeftInverse Double.bits Double.mk fun _ => rfl

/-- `double {}` -/
def Double.zero : Double := ⟨0⟩

structure PointerItem where
  pointerId : Int32 := 0
  pressed : Bool := false
  displayX : Int32 := 0
  displayY : Int32 := 0
  windowX : Int32 := 0
  windowY : Int32 := 0
  width : Int32 := 0
  height : Int32 := 0
  tiltX : Double := .zero
  tiltY : Double := .zero
  toolDisplayX : Int32 := 0
  toolDisplayY : Int32 := 0
  toolWindowX : Int32 := 0
  toolWindowY : Int32 := 0
  toolWidth : Int32 := 0
  toolHeight : Int32 := 0
  pressure : Double := .zero
  longAxis : Int32 := 0
  shortAxis : Int32 := 0
  deviceId : Int32 := 0
  downTime : Int64 := 0
  toolType : Int32 := 0
  targetWindowId : Int32 := -1
  rawDx : Int32 := 0
  rawDy : Int32 := 0
  deriving DecidableEq, Repr

/-- The members in order, with the padding that aligns `displayX_` to 4
and `downTime_` to 8 bytes. -/
abbrev PointerItem.Layout :=
  Int32 × Bool × Pad 3 × Int32 × Int32 × Int32 × Int32 × Int32 × Int32 × Double × Double ×
    Int32 × Int32 × Int32 × Int32 × Int32 × Int32 × Double × Int32 × Int32 × Int32 × Pad 4 ×
    Int64 × Int32 × Int32 × Int32 × Int32

def PointerItem.layout (item : PointerItem) : PointerItem.Layout :=
  (item.pointerId, item.pressed, {}, item.displayX, item.displayY, item.windowX, item.windowY,
    item.width, item.height, item.tiltX, item.tiltY, item.toolDisplayX, item.toolDisplayY,
    item.toolWindowX, item.toolWindowY, item.toolWidth, item.toolHeight, item.pressure,
    item.longAxis, item.shortAxis, item.deviceId, {}, item.downTime, item.toolType,
    item.targetWindowId, item.rawDx, item.rawDy)

def PointerItem.ofLayout : PointerItem.Layout → PointerItem
  | (pointerId, pressed, _, displayX, displayY, windowX, windowY, width, height, tiltX, tiltY,
      toolDisplayX, toolDisplayY, toolWindowX, toolWindowY, toolWidth, toolHeight, pressure,
      longAxis, shortAxis, deviceId, _, downTime, toolType, targetWindowId, rawDx, rawDy) =>
    { pointerId, pressed, displayX, displayY, windowX, windowY, width, height, tiltX, tiltY,
      toolDisplayX, toolDisplayY, toolWindowX, toolWindowY, toolWidth, toolHeight, pressure,
      longAxis, shortAxis, deviceId, downTime, toolType, targetWindowId, rawDx, rawDy }

instance : ByteImage PointerItem := .ofLeftInverse PointerItem.layout PointerItem.ofLayout fun _ => rfl

/-- `sizeof(PointerItem)` -/
theorem byteSize_pointerItem : byteSize PointerItem = 120 := rfl

/-! ## Sets of button ids -/

/-- `std::set<int32_t>::insert` on the ascending list of the elements. -/
def setInsert (a : Int32) : List Int32 → List Int32
  | [] => [a]
  | b :: bs => if a < b then a :: b :: bs else if a = b then b :: bs else b :: setInsert a bs

theorem mem_setInsert {a c : Int32} {bs : List Int32} :
    c ∈ setInsert a bs → c = a ∨ c ∈ bs := by
  induction bs with
  | nil => simp [setInsert]
  | cons b bs ih =>
    rw [setInsert]
    split
    · simp
    · split
      · intro h
        exact .inr h
      · intro h
        rcases List.mem_cons.mp h with rfl | h
        · simp
        · rcases ih h with h | h <;> simp [h]

theorem setInsert_sorted {a : Int32} {bs : List Int32} (h : bs.Pairwise (· < ·)) :
    (setInsert a bs).Pairwise (· < ·) := by
  induction bs with
  | nil => simp [setInsert]
  | cons b bs ih =>
    obtain ⟨hb, hbs⟩ := List.pairwise_cons.mp h
    rw [setInsert]
    by_cases hlt : a < b
    · rw [if_pos hlt]
      refine List.pairwise_cons.mpr ⟨fun c hc => ?_, h⟩
      rcases List.mem_cons.mp hc with rfl | hc
      · exact hlt
      · exact Int32.lt_trans hlt (hb c hc)
    · rw [if_neg hlt]
      by_cases heq : a = b
      · rw [if_pos heq]
        exact h
      · rw [if_neg heq]
        have hgt : b < a := by
          rw [Int32.lt_iff_toInt_lt] at hlt ⊢
          have hne : a.toInt ≠ b.toInt := fun h => heq (Int32.toInt_inj.mp h)
          omega
        refine List.pairwise_cons.mpr ⟨fun c hc => ?_, ih hbs⟩
        rcases mem_setInsert hc with rfl | hc
        · exact hgt
        · exact hb c hc

theorem setInsert_length_le (a : Int32) (bs : List Int32) :
    (setInsert a bs).length ≤ bs.length + 1 := by
  induction bs with
  | nil => exact Nat.le_refl _
  | cons b bs ih =>
    rw [setInsert]
    split
    · exact Nat.le_refl _
    · split
      · exact Nat.le_succ _
      · exact Nat.succ_le_succ ih

/-- Inserting above every element adds at the end. -/
theorem setInsert_of_forall_lt {a : Int32} {bs : List Int32} (h : ∀ b ∈ bs, b < a) :
    setInsert a bs = bs ++ [a] := by
  induction bs with
  | nil => rfl
  | cons b bs ih =>
    have hb : b < a := h b (by simp)
    have hlt : ¬ a < b := Int32.lt_asymm hb
    have hne : a ≠ b := fun heq => Int32.lt_irrefl (heq ▸ hb)
    rw [setInsert, if_neg hlt, if_neg hne, ih fun c hc => h c (by simp [hc])]
    rfl

/-! ## Axes -/

/-- `AXIS_TYPE_UNKNOWN` .. `AXIS_TYPE_MAX` -/
inductive AxisType where
  | unknown
  | scrollVertical
  | scrollHorizontal
  | pinch
  | max
  deriving DecidableEq, Repr

def AxisType.ord : AxisType → Nat
  | .unknown => 0
  | .scrollVertical => 1
  | .scrollHorizontal => 2
  | .pinch => 3
  | .max => 4

/-- `PointerEvent::HasAxis(uint32_t, AxisType)` -/
def hasAxis (axes : UInt32) (axis : AxisType) : Bool :=
  if axis.ord < 4 then (axes &&& (1 <<< UInt32.ofNat axis.ord)) != 0 else false

/-! ## PointerEvent -/

@[ext] structure PointerEvent extends InputEvent eventTypePointer where
  pointerId : Int32
  pointers : List PointerItem
  pressedButtons : List Int32
  sourceType : Int32
  pointerAction : Int32
  buttonId : Int32
  axes : UInt32
  axisValues : Fin 4 → Double
  pressedKeys : List Int32
  pointers_length : pointers.length ≤ maxNPointerItems
  buttons_sorted : pressedButtons.Pairwise (· < ·)
  buttons_length : pressedButtons.length ≤ maxNPressedButtons
  axes_lt : axes.toNat < 16
  axisValues_unset : ∀ i : Fin 4, axes.toNat.testBit i = false → axisValues i = .zero

namespace PointerEvent

/-- `PointerEvent::Create()` -/
def create (now : Int64) : PointerEvent where
  toInputEvent := .create now
  pointerId := -1
  pointers := []
  pressedButtons := []
  sourceType := 0
  pointerAction := 0
  buttonId := -1
  axes := 0
  axisValues _ := .zero
  pressedKeys := []
  pointers_length := Nat.zero_le _
  buttons_sorted := List.Pairwise.nil
  buttons_length := Nat.zero_le _
  axes_lt := by decide
  axisValues_unset _ _ := rfl

/-- `Reset()`, at the time `now`. -/
def reset (_ : PointerEvent) (now : Int64) : PointerEvent := create now

/-- Any of the setters of the base class. -/
def setBase (event : PointerEvent) (base : InputEvent eventTypePointer) : PointerEvent :=
  { event with toInputEvent := base }

def setId (event : PointerEvent) (id : Int32) : PointerEvent :=
  event.setBase { event.toInputEvent with id }

def setActionTime (event : PointerEvent) (actionTime : Int64) : PointerEvent :=
  event.setBase { event.toInputEvent with actionTime }

def setActionStartTime (event : PointerEvent) (actionStartTime : Int64) : PointerEvent :=
  event.setBase { event.toInputEvent with actionStartTime }

def setDeviceId (event : PointerEvent) (deviceId : Int32) : PointerEvent :=
  event.setBase { event.toInputEvent with deviceId }

def setTargetDisplayId (event : PointerEvent) (targetDisplayId : Int32) : PointerEvent :=
  event.setBase { event.toInputEvent with targetDisplayId }

def setTargetWindowId (event : PointerEvent) (targetWindowId : Int32) : PointerEvent :=
  event.setBase { event.toInputEvent with targetWindowId }

def setAgentWindowId (event : PointerEvent) (agentWindowId : Int32) : PointerEvent :=
  event.setBase { event.toInputEvent with agentWindowId }

def setPointerAction (event : PointerEvent) (pointerAction : Int32) : PointerEvent :=
  { event with pointerAction }

def setPointerId (event : PointerEvent) (pointerId : Int32) : PointerEvent :=
  { event with pointerId }

def setSourceType (event : PointerEvent) (sourceType : Int32) : PointerEvent :=
  { event with sourceType }

def setButtonId (event : PointerEvent) (buttonId : Int32) : PointerEvent :=
  { event with buttonId }

def getPointerIds (event : PointerEvent) : List Int32 := event.pointers.map PointerItem.pointerId

def getPointerItem (event : PointerEvent) (pointerId : Int32) : Option PointerItem :=
  event.pointers.find? fun item => item.pointerId = pointerId

/-- The loop of `RemovePointerItem`: the first item with the id goes. -/
def removePointerItem (event : PointerEvent) (pointerId : Int32) : PointerEvent :=
  { event with
    pointers := event.pointers.eraseP fun item => item.pointerId = pointerId
    pointers_length := Nat.le_trans (List.length_eraseP_le) event.pointers_length }

def addPointerItem (event : PointerEvent) (pointerItem : PointerItem) : PointerEvent :=
  if h : maxNPointerItems ≤ event.pointers.length then event
  else
    { event with
      pointers := event.pointers ++ [pointerItem]
      pointers_length := by rw [List.length_append, List.length_singleton]; omega }

/-- The loop of `UpdatePointerItem`: the first item with the id is replaced. -/
def replacePointer (pointerId : Int32) (pointerItem : PointerItem) :
    List PointerItem → Option (List PointerItem)
  | [] => none
  | item :: rest =>
      if item.pointerId = pointerId then some (pointerItem :: rest)
      else (replacePointer pointerId pointerItem rest).map (item :: ·)

theorem replacePointer_length {pointerId : Int32} {pointerItem : PointerItem} :
    ∀ {items items' : List PointerItem},
      replacePointer pointerId pointerItem items = some items' → items'.length = items.length
  | [], _, h => by cases h
  | item :: rest, items', h => by
      rw [replacePointer] at h
      split at h
      · cases h
        rfl
      · obtain ⟨rest', hrest, heq⟩ := Option.map_eq_some_iff.mp h
        rw [← heq, List.length_cons, List.length_cons, replacePointer_length hrest]

def updatePointerItem (event : PointerEvent) (pointerId : Int32) (pointerItem : PointerItem) :
    PointerEvent :=
  match h : replacePointer pointerId pointerItem event.pointers with
  | some pointers =>
      { event with
        pointers
        pointers_length := by rw [replacePointer_length h]; exact event.pointers_length }
  | none => event.addPointerItem pointerItem

def setButtonPressed (event : PointerEvent) (buttonId : Int32) : PointerEvent :=
  if h : maxNPressedButtons ≤ event.pressedButtons.length then event
  else
    { event with
      pressedButtons := setInsert buttonId event.pressedButtons
      buttons_sorted := setInsert_sorted event.buttons_sorted
      buttons_length := by
        have hlen := setInsert_length_le buttonId event.pressedButtons
        omega }

def deleteReleaseButton (event : PointerEvent) (buttonId : Int32) : PointerEvent :=
  { event with
    pressedButtons := event.pressedButtons.filter (· ≠ buttonId)
    buttons_sorted := event.buttons_sorted.filter _
    buttons_length := Nat.le_trans (List.length_filter_le _ _) event.buttons_length }

def clearButtonPressed (event : PointerEvent) : PointerEvent :=
  { event with
    pressedButtons := []
    buttons_sorted := List.Pairwise.nil
    buttons_length := Nat.zero_le _ }

def getAxisValue (event : PointerEvent) (axis : AxisType) : Double :=
  if h : axis.ord < 4 then event.axisValues ⟨axis.ord, h⟩ else .zero

/-- Setting a bit of a four-bit mask. -/
theorem setAxis_testBit (axes : UInt32) (i : Fin 4) (h : axes.toNat < 16) :
    (axes ||| (1 <<< UInt32.ofNat i)).toNat < 16 ∧
      ∀ j : Fin 4, (axes ||| (1 <<< UInt32.ofNat i)).toNat.testBit j
        = (axes.toNat.testBit j || decide (j = i)) := by
  obtain ⟨k, hk, rfl⟩ : ∃ k < 16, axes = UInt32.ofNat k :=
    ⟨axes.toNat, h, UInt32.ofNat_toNat.symm⟩
  revert i
  interval_cases k <;> decide

def setAxisValue (event : PointerEvent) (axis : AxisType) (axisValue : Double) : PointerEvent :=
  if h : axis.ord < 4 then
    { event with
      axisValues := Function.update event.axisValues ⟨axis.ord, h⟩ axisValue
      axes := event.axes ||| (1 <<< UInt32.ofNat axis.ord)
      axes_lt := (setAxis_testBit event.axes ⟨axis.ord, h⟩ event.axes_lt).1
      axisValues_unset := by
        intro j hj
        have hbit := (setAxis_testBit event.axes ⟨axis.ord, h⟩ event.axes_lt).2 j
        rw [hj] at hbit
        obtain ⟨hold, hne⟩ := Bool.or_eq_false_iff.mp hbit.symm
        rw [Function.update_of_ne (of_decide_eq_false hne)]
        exact event.axisValues_unset j hold }
  else event

def clearAxisValue (event : PointerEvent) : PointerEvent :=
  { event with
    axisValues := fun _ => .zero
    axes := 0
    axes_lt := by decide
    axisValues_unset := fun _ _ => rfl }

def setPressedKeys (event : PointerEvent) (pressedKeys : List Int32) : PointerEvent :=
  { event with pressedKeys }

end PointerEvent

end FtMmi.Event
