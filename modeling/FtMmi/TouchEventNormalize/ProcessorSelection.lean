/-
FtMmi.TouchEventNormalize.ProcessorSelection — which processor handles an
event, in runs of events with devices that come and go.

A processor is kept under a device id for good. So an event is handled by
a processor of its own type that is younger than its device only where
the first event that ever came under the id was of this type and came
after the device; `processorSelected_iff` says that a run in which all
events are handled so is one in which this holds of each. Two devices may
have had the id one after the other, or one device has events of two
types, as a touchpad has. What is not handled so because of the type is
lost (`typeMixed_dropped`).
-/
import FtMmi.Lib.StepSystem
import FtMmi.TouchEventNormalize.TouchEventNormalize

namespace FtMmi.TouchEventNormalize

open FtMmi.Device
open FtMmi.Event
open FtMmi.Lib
open FtMmi.WindowManager

/-! ## Runs -/

/-- The service as far as the choice of a processor goes. -/
structure Plugged where
  inputDevMgr : InputDeviceManager
  touchEventHdr : TouchEventHdr
  /-- The number of the input that comes next. -/
  now : Nat
  /-- When a device was added last. -/
  added : Nat → Nat
  /-- When the processor of an id was made. -/
  made : Int32 → Nat
  /-- The type of the first event that came under an id, and when it came. -/
  first : Int32 → Option (InputDeviceType × Nat)

def Plugged.create : Plugged := ⟨.create, .create, 1, fun _ => 0, fun _ => 0, fun _ => none⟩

inductive PluggedInput where
  /-- A device reports; what the window manager and its surroundings are then. -/
  | event (env : Env) (manager : InputWindowsManager) (device : Nat) (event : LibinputEvent)
  | added (build : Build) (cooperating : Bool) (device : Nat) (sysName : List Char)
  | removed (build : Build) (cooperating : Bool) (device : Nat)

namespace Plugged

/-- The id of the device is looked up for every event. -/
def idOf (s : Plugged) (device : Nat) : Int32 := findInputDeviceId s.inputDevMgr device

/-- When the processor that handles the next event under the id was made. -/
def madeAt (s : Plugged) (id : Int32) : Nat :=
  if id ∈ s.touchEventHdr.processors then s.made id else s.now

/-- The first event under an id, when one of the type comes next. -/
def firstAfter (s : Plugged) (id : Int32) (type : InputDeviceType) : InputDeviceType × Nat :=
  (s.first id).getD (type, s.now)

/-- A device that is in the table is not added again. -/
def addedAfter (s : Plugged) (device : Nat) : Nat :=
  if s.inputDevMgr.inputDevice.any (fun item => item.2 = device) then s.added device else s.now

def step (s : Plugged) : PluggedInput → Plugged
  | .event env manager device event =>
      let id := s.idOf device
      { s with
        touchEventHdr := (s.touchEventHdr.onLibInput env manager s.inputDevMgr device event).2
        now := s.now + 1
        made := Function.update s.made id (s.madeAt id)
        first := Function.update s.first id (some (s.firstAfter id event.deviceType)) }
  | .added build cooperating device sysName =>
      { s with
        inputDevMgr := (s.inputDevMgr.onInputDeviceAdded build cooperating device sysName).2
        now := s.now + 1
        added := Function.update s.added device (s.addedAfter device) }
  | .removed build cooperating device =>
      { s with
        inputDevMgr := (s.inputDevMgr.onInputDeviceRemoved build cooperating device).2
        now := s.now + 1 }

/-! ## The property and the condition -/

/-- The processor that handles the event is of its type, and was made after
the device had been added. -/
def ProcessorSelected (s : Plugged) : PluggedInput → Prop
  | .event _ _ device event =>
      (s.touchEventHdr.processorFor (s.idOf device) event.deviceType).deviceType
          = event.deviceType ∧
        s.added device < s.madeAt (s.idOf device)
  | _ => True

/-- No event has come under the id before, or the first one was of this type
and came after the device had been added. -/
def FirstOfItsType (s : Plugged) : PluggedInput → Prop
  | .event _ _ device event =>
      ∀ first, s.first (s.idOf device) = some first →
        first.1 = event.deviceType ∧ s.added device < first.2
  | _ => True

/-- What the map has under an id is what the first event under it was. -/
structure Inv (s : Plugged) : Prop where
  processors : ∀ id, s.first id =
    (s.touchEventHdr.processors[id]?).map fun p => (p.deviceType, s.made id)
  added : ∀ device, s.added device < s.now

theorem create_inv : Plugged.create.Inv := by
  constructor
  · intro id
    simp [Plugged.create, TouchEventHdr.create]
  · intro device
    exact Nat.zero_lt_one

/-! ## What a step does -/

namespace Inv

variable {s : Plugged}

/-- The type and the age of the processor of an id. -/
theorem processorFor (h : s.Inv) (id : Int32) (type : InputDeviceType) :
    ((s.touchEventHdr.processorFor id type).deviceType, s.madeAt id) = s.firstAfter id type := by
  simp only [TouchEventHdr.processorFor, madeAt, firstAfter, h.processors,
    Std.TreeMap.mem_iff_isSome_getElem?]
  cases s.touchEventHdr.processors[id]? with
  | none => simp
  | some p => simp

theorem step (h : s.Inv) (i : PluggedInput) : (s.step i).Inv := by
  cases i with
  | event env manager device event =>
    constructor
    · intro id
      have hkept := TouchEventHdr.onLibInput_processors env manager s.inputDevMgr device event
        s.touchEventHdr id
      by_cases hid : s.idOf device = id
      · subst hid
        have hfirst := h.processorFor (s.idOf device) event.deviceType
        simp only [Plugged.step, Function.update_self, hkept.trans (if_pos rfl), Option.map_some,
          TransformProcessor.handle_deviceType, hfirst]
      · simp only [Plugged.step, Function.update_of_ne (Ne.symm hid), hkept.trans (if_neg hid),
          h.processors]
    · intro device
      exact Nat.lt_succ_of_lt (h.added device)
  | added build cooperating device sysName =>
    refine ⟨h.processors, fun other => ?_⟩
    have hadded : s.addedAfter device ≤ s.now := by
      unfold addedAfter
      split
      · exact (h.added device).le
      · exact le_rfl
    by_cases hother : other = device
    · subst hother
      simpa [Plugged.step, Nat.lt_succ_iff] using hadded
    · simpa [Plugged.step, hother] using Nat.lt_succ_of_lt (h.added other)
  | removed build cooperating device =>
    exact ⟨h.processors, fun other => Nat.lt_succ_of_lt (h.added other)⟩

/-- An event is handled as it should be precisely if its id is fit for it. -/
theorem processorSelected_iff (h : s.Inv) (i : PluggedInput) :
    s.ProcessorSelected i ↔ s.FirstOfItsType i := by
  cases i with
  | event env manager device event =>
    have hfirst := h.processorFor (s.idOf device) event.deviceType
    simp only [ProcessorSelected, FirstOfItsType]
    rw [show (s.touchEventHdr.processorFor (s.idOf device) event.deviceType).deviceType
        = (s.firstAfter (s.idOf device) event.deviceType).1 from congrArg Prod.fst hfirst,
      show s.madeAt (s.idOf device) = (s.firstAfter (s.idOf device) event.deviceType).2 from
        congrArg Prod.snd hfirst, firstAfter]
    cases s.first (s.idOf device) with
    | none => simp [h.added device]
    | some first => simp
  | added build cooperating device sysName => exact Iff.rfl
  | removed build cooperating device => exact Iff.rfl

end Inv

/-! ## Every run -/

/-- In every run all events are handled by a processor of their type that was
made after the device had been added, precisely if each finds its id unused
or used first, since the device has been added, by an event of its type. -/
theorem processorsSelected_iff (is : List PluggedInput) :
    AllSteps step ProcessorSelected .create is ↔ AllSteps step FirstOfItsType .create is :=
  allSteps_iff_of_step (fun _ i h => h.step i) (fun _ i h => h.processorSelected_iff i) is _
    create_inv

/-- An event of another type than the first under its id is lost. -/
def TypeMixedDropped (s : Plugged) : PluggedInput → Prop
  | .event env manager device event =>
      ∀ first, s.first (s.idOf device) = some first → first.1 ≠ event.deviceType →
        (s.touchEventHdr.onLibInput env manager s.inputDevMgr device event).1 = none
  | _ => True

theorem typeMixed_dropped (is : List PluggedInput) :
    AllSteps step TypeMixedDropped .create is := by
  have hkeep : ∀ (s : Plugged) i, s.Inv → (s.step i).Inv := fun _ i h => h.step i
  refine allSteps_of_step hkeep (fun s i h => ?_) is _ create_inv
  cases i with
  | event env manager device event =>
    intro first hfirst hother
    apply TransformProcessor.handle_other
    have htype := congrArg Prod.fst (h.processorFor (s.idOf device) event.deviceType)
    rw [firstAfter, hfirst] at htype
    exact fun hsame => hother (htype.symm.trans hsame)
  | added build cooperating device sysName => trivial
  | removed build cooperating device => trivial

/-! ## Two runs -/

def event3 : List Char := ['e', 'v', 'e', 'n', 't', '3']

/-- A finger on a touchpad goes down. -/
def fingerDown : LibinputEvent :=
  .touchPad
    { type := .down, seatSlot := 0, longAxis := 1, shortAxis := 1, pressure := .zero, x := 5, y := 5
      toolX := 5, toolY := 5, toolWidth := 1, toolHeight := 1, toolType := 0 }

/-- Two fingers begin to pinch. -/
def pinchBegin : LibinputEvent :=
  .gesture
    { type := .pinchBegin, time := 0, scale := .zero, mouseCoordsX := 5, mouseCoordsY := 5
      isLeftBtnPressed := false, pressedButtons := [] }

def report (device : Nat) (event : LibinputEvent) : PluggedInput :=
  let window : WindowInfo :=
    { id := 1, pid := 10, area := ⟨0, 0, 100, 100⟩, defaultHotAreas := [⟨0, 0, 100, 100⟩]
      pointerHotAreas := [⟨0, 0, 100, 100⟩], agentWindowId := 1, flags := 0 }
  .event ⟨.create, 0, false, 0⟩ (.create 0 window window) device event

/-- A touchpad is added and reports a finger. -/
def touched : List PluggedInput := [.added ⟨true⟩ false 1 event3, report 1 fingerDown]

/-- Its gestures go to the processor of its fingers; and when it is replaced,
the new one gets the processor with the finger of the old one. -/
theorem counterexample_processorsSelected :
    ¬ AllSteps step ProcessorSelected .create (touched ++ [report 1 pinchBegin]) ∧
      ¬ AllSteps step ProcessorSelected .create
        (touched ++ [PluggedInput.removed ⟨true⟩ false 1, .added ⟨true⟩ false 2 event3,
          report 2 fingerDown]) := by
  constructor
  · rintro ⟨-, -, ⟨htype, -⟩, -⟩
    revert htype
    decide +kernel
  · rintro ⟨-, -, -, -, ⟨-, hlater⟩, -⟩
    revert hlater
    decide +kernel

end Plugged

end FtMmi.TouchEventNormalize
