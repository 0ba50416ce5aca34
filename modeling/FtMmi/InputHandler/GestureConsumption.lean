/-
FtMmi.InputHandler.GestureConsumption — what the dispatcher receives of the
gestures of a touch screen.

A gesture goes from an event in which the first finger goes down to one in
which the last is lifted: either has a single item. Beside the collection
a run keeps, for each device, the last gesture, the events that came after
it (those of a pen that hovers) and what was passed on of both.
-/
import FtMmi.InputHandler.EventMonitorHandler
import FtMmi.Lib.StepSystem
import FtMmi.WindowManager.SelectedWindow

namespace FtMmi.InputHandler

open FtMmi.Event
open FtMmi.Lib
open FtMmi.WindowManager

/-! ## Gestures -/

/-- A touch screen's event that is not kept from the monitors. -/
def Monitored (event : PointerEvent) : Prop :=
  event.sourceType = sourceTypeTouchscreen ∧ hasFlag event eventFlagNoMonitor = false

/-- The first finger goes down. -/
def FirstDown (event : PointerEvent) : Prop :=
  event.getPointerIds.length = 1 ∧ event.pointerAction = pointerActionDown

/-- The last finger is lifted. -/
def LastUp (event : PointerEvent) : Prop :=
  event.getPointerIds.length = 1 ∧ event.pointerAction = pointerActionUp

instance (event : PointerEvent) : Decidable (Monitored event) :=
  inferInstanceAs (Decidable (_ ∧ _))

instance (event : PointerEvent) : Decidable (FirstDown event) :=
  inferInstanceAs (Decidable (_ ∧ _))

instance (event : PointerEvent) : Decidable (LastUp event) :=
  inferInstanceAs (Decidable (_ ∧ _))

/-- The last gesture of a device. -/
structure Gesture where
  /-- From the first down to the last up, if there was one. -/
  events : List PointerEvent
  ongoing : Bool
  /-- What came after the last up. -/
  since : List PointerEvent
  /-- What the dispatcher got since the first down. -/
  received : List PointerEvent

namespace Gesture

def none : Gesture := ⟨[], false, [], []⟩

def next (g : Gesture) (event : PointerEvent) (passed : List PointerEvent) : Gesture :=
  if FirstDown event then ⟨[event], true, [], passed⟩
  else if g.ongoing then
    ⟨g.events ++ [event], decide (¬ LastUp event), [], g.received ++ passed⟩
  else { g with since := g.since ++ [event], received := g.received ++ passed }

/-- The events a monitor can have it consumed by. -/
def current (g : Gesture) : List PointerEvent := if g.ongoing then g.events else g.since

end Gesture

/-! ## Runs -/

structure MonitorService where
  collection : MonitorCollection
  gestures : Int32 → Gesture

inductive MonitorInput where
  | pointerEvent (event : PointerEvent)
  | markConsumed (now : MonitorCollection.MarkMoment) (eventId : Int32) (session : Nat)
  | addMonitor (eventType : HandleEventType) (session : Nat)
  | removeMonitor (eventType : HandleEventType) (session : Nat)
  | sessionLost (session : Nat)

namespace MonitorService

def create : MonitorService := ⟨.create, fun _ => .none⟩

/-- What a request passes on goes with the gesture it found. -/
def step (s : MonitorService) : MonitorInput → MonitorService
  | .pointerEvent event =>
      let r := s.collection.handlePointerEvent event
      { collection := r.2
        gestures :=
          if Monitored event then
            Function.update s.gestures event.deviceId
              ((s.gestures event.deviceId).next event r.1)
          else s.gestures }
  | .markConsumed now eventId session =>
      let r := s.collection.markConsumed now eventId session
      { collection := r.2
        gestures :=
          match s.collection.findState now.order eventId with
          | some deviceId =>
              Function.update s.gestures deviceId
                { s.gestures deviceId with
                  received := (s.gestures deviceId).received ++ r.1 }
          | none => s.gestures }
  | .addMonitor eventType session =>
      { s with collection := s.collection.addMonitor eventType session }
  | .removeMonitor eventType session =>
      { s with collection := s.collection.removeMonitor eventType session }
  | .sessionLost session => { s with collection := s.collection.onSessionLost session }

end MonitorService

/-! ## The property -/

/-- The dispatcher got all of it, or a beginning and one cancel. -/
def Gesture.Delivered (g : Gesture) : Prop :=
  g.received = g.events ++ g.since ∨
    ∃ before rest cancel, g.events ++ g.since = before ++ rest ∧
      g.received = before ++ [cancel] ∧ cancel.pointerAction = pointerActionCancel

/-- A request of a session without a monitor, or for an event that none of the
gestures has, changes nothing and passes nothing on. -/
def ForeignIgnored (has : Gesture → List PointerEvent) (s : MonitorService) : MonitorInput → Prop
  | .markConsumed now eventId session =>
      s.collection.hasMonitor session = false ∨
          (∀ deviceId, eventId ∉ (has (s.gestures deviceId)).map (·.id)) →
        s.step (.markConsumed now eventId session) = s
  | _ => True

/-- The events of a gesture that is under way. -/
def Gesture.underWay (g : Gesture) : List PointerEvent := if g.ongoing then g.events else []

/-! ## The invariant -/

/-- The state of a device that has one. -/
structure Follows (state : ConsumptionState) (g : Gesture) : Prop where
  eventIds : ∀ id ∈ state.eventIds, id ∈ g.current.map (·.id)
  since : g.ongoing = true → g.since = []
  whole : state.isMonitorConsumed = false → g.received = g.events ++ g.since
  consumed : state.isMonitorConsumed = true → ∃ before rest cancel,
    g.events ++ g.since = before ++ rest ∧ g.received = before ++ [cancel] ∧
      cancel.pointerAction = pointerActionCancel

/-- A device without a state has had no event. -/
structure Tracked (s : MonitorService) : Prop where
  follows : ∀ deviceId, Follows ((s.collection.states deviceId).getD .create) (s.gestures deviceId)
  last : ∀ deviceId state, s.collection.states deviceId = some state →
    state.lastPointerEvent.isSome

variable {s : MonitorService} {state : ConsumptionState} {g : Gesture} {event : PointerEvent}

theorem Follows.delivered (h : Follows state g) : g.Delivered := by
  cases hconsumed : state.isMonitorConsumed with
  | false => exact .inl (h.whole hconsumed)
  | true => exact .inr (h.consumed hconsumed)

/-! ## Events -/

namespace MonitorCollection

variable {c : MonitorCollection}

theorem handlePointerEvent_monitored (h : Monitored event) :
    c.handlePointerEvent event
      = (if (stateAfter ((c.states event.deviceId).getD .create) event).isMonitorConsumed then []
          else [event],
        c.setState event.deviceId
          (stateAfter ((c.states event.deviceId).getD .create) event)) := by
  obtain ⟨hsource, hflag⟩ := h
  simp [handlePointerEvent, onHandleEvent, handleEvent, updateConsumptionState, setState, hsource,
    hflag]

theorem handlePointerEvent_unmonitored (h : ¬ Monitored event) :
    c.handlePointerEvent event = ([event], c) := by
  by_cases hflag : hasFlag event eventFlagNoMonitor = true
  · simp [handlePointerEvent, onHandleEvent, hflag]
  · have hsource : event.sourceType ≠ sourceTypeTouchscreen := fun hsource =>
      h ⟨hsource, by simpa using hflag⟩
    simp [handlePointerEvent, onHandleEvent, handleEvent, updateConsumptionState, hsource, hflag]

theorem stateAfter_last (state : ConsumptionState) (event : PointerEvent) :
    (stateAfter state event).lastPointerEvent = some event := by
  unfold stateAfter
  dsimp only
  split
  · rfl
  split
  · rfl
  split
  · rfl
  · rfl

theorem stateAfter_firstDown (state : ConsumptionState) (h : FirstDown event) :
    stateAfter state event = ⟨[event.id], false, some event⟩ := by
  simp [stateAfter, h.1, h.2]

/-- Other events are noted and do not change what is consumed; the last up
forgets the ids. -/
theorem stateAfter_other (state : ConsumptionState) (h : ¬ FirstDown event) :
    (stateAfter state event).isMonitorConsumed = state.isMonitorConsumed ∧
      ∀ id ∈ (stateAfter state event).eventIds, ¬ LastUp event ∧
        (id ∈ state.eventIds ∨ id = event.id) := by
  unfold stateAfter
  by_cases hlength : event.getPointerIds.length = 1
  · have hdown : event.pointerAction ≠ pointerActionDown := fun hdown => h ⟨hlength, hdown⟩
    by_cases hup : event.pointerAction = pointerActionUp
    · simp [hlength, hup, pointerActionUp, pointerActionDown]
    · simp [hlength, hdown, hup, LastUp, or_comm]
  · simp [hlength, LastUp, or_comm]

end MonitorCollection

/-- An event that is passed on, or kept back since the gesture is cut off. -/
theorem Follows.next (h : Follows state g) (event : PointerEvent) :
    Follows (MonitorCollection.stateAfter state event)
      (g.next event
        (if (MonitorCollection.stateAfter state event).isMonitorConsumed then [] else [event])) := by
  by_cases hdown : FirstDown event
  · rw [MonitorCollection.stateAfter_firstDown state hdown, Gesture.next, if_pos hdown]
    exact ⟨by simp [Gesture.current], fun _ => rfl, fun _ => rfl, by simp⟩
  obtain ⟨hconsumed, hids⟩ := MonitorCollection.stateAfter_other state hdown
  have hwhole : ∀ passed, (g.next event passed).received = g.received ++ passed ∧
      (g.next event passed).events ++ (g.next event passed).since
        = g.events ++ g.since ++ [event] := by
    intro passed
    rw [Gesture.next, if_neg hdown]
    cases hongoing : g.ongoing with
    | true => simp [h.since hongoing]
    | false => simp
  generalize hpassed : (if (MonitorCollection.stateAfter state event).isMonitorConsumed then []
    else [event]) = passed
  obtain ⟨hreceived, hevents⟩ := hwhole passed
  constructor
  · intro id hid
    obtain ⟨hup, hid⟩ := hids id hid
    have hmem : id ∈ g.current.map (·.id) ∨ id = event.id := hid.imp_left (h.eventIds id)
    rw [Gesture.next, if_neg hdown]
    cases hongoing : g.ongoing with
    | true => simpa [Gesture.current, hongoing, hup] using hmem
    | false => simpa [Gesture.current, hongoing] using hmem
  · rw [Gesture.next, if_neg hdown]
    cases hongoing : g.ongoing with
    | true => simp
    | false => simp
  · intro hopen
    rw [hopen] at hpassed
    rw [hconsumed] at hopen
    rw [hreceived, hevents, h.whole hopen, ← hpassed]
    simp
  · intro hcut
    rw [hcut] at hpassed
    rw [hconsumed] at hcut
    obtain ⟨before, rest, cancel, hsplit, hgot, hcancel⟩ := h.consumed hcut
    refine ⟨before, rest ++ [event], cancel, ?_, ?_, hcancel⟩
    · rw [hevents, hsplit, List.append_assoc]
    · rw [hreceived, hgot, ← hpassed]
      simp

theorem follows_create : Follows .create .none :=
  ⟨by simp [ConsumptionState.create], fun _ => rfl, fun _ => rfl, by simp [ConsumptionState.create]⟩

theorem create_tracked : Tracked .create :=
  ⟨fun _ => follows_create, fun _ _ h => nomatch h⟩

/-- The state and the gesture of one device change. -/
theorem Tracked.update (hs : Tracked s) {s' : MonitorService} (deviceId : Int32)
    (hstates : s'.collection.states = Function.update s.collection.states deviceId (some state))
    (hgestures : s'.gestures = Function.update s.gestures deviceId g)
    (hfollows : Follows state g) (hlast : state.lastPointerEvent.isSome) : Tracked s' := by
  constructor
  · intro other
    rw [hstates, hgestures]
    by_cases hother : other = deviceId
    · subst hother
      rw [Function.update_self, Function.update_self]
      exact hfollows
    · rw [Function.update_of_ne hother, Function.update_of_ne hother]
      exact hs.follows other
  · intro other state' hstate'
    rw [hstates] at hstate'
    by_cases hother : other = deviceId
    · subst hother
      rw [Function.update_self] at hstate'
      cases hstate'
      exact hlast
    · rw [Function.update_of_ne hother] at hstate'
      exact hs.last other state' hstate'

theorem Tracked.pointerEvent (hs : Tracked s) (event : PointerEvent) :
    Tracked (s.step (.pointerEvent event)) := by
  by_cases hmonitored : Monitored event
  · have hpassed := MonitorCollection.handlePointerEvent_monitored (c := s.collection) hmonitored
    refine hs.update event.deviceId ?_ ?_ ((hs.follows event.deviceId).next event) ?_
    · simp only [MonitorService.step, hpassed]
      rfl
    · simp only [MonitorService.step, hpassed, if_pos hmonitored]
    · rw [MonitorCollection.stateAfter_last]
      rfl
  · have hpassed := MonitorCollection.handlePointerEvent_unmonitored (c := s.collection) hmonitored
    have hsame : s.step (.pointerEvent event) = s := by
      simp only [MonitorService.step, hpassed, if_neg hmonitored]
    rw [hsame]
    exact hs

/-! ## Requests -/

namespace MonitorCollection

variable {c : MonitorCollection} {now : MarkMoment}

theorem findState_some {eventId deviceId : Int32} (h : c.findState now.order eventId = some deviceId) :
    ∃ state, c.states deviceId = some state ∧ eventId ∈ state.eventIds := by
  have hfound := List.find?_some h
  split at hfound
  · rename_i state hstate
    exact ⟨state, hstate, of_decide_eq_true hfound⟩
  · cases hfound

/-- The cancel goes past the monitors. -/
theorem cancelEvent_passes (now : MarkMoment) (last : PointerEvent) :
    hasFlag (cancelEvent now last) eventFlagNoMonitor = true ∧
      (cancelEvent now last).pointerAction = pointerActionCancel := by
  have hretargeted := InputWindowsManager.updateTargetPointer_retargeted now.env
    now.manager.updateId .other
    (((((now.held last).setPointerAction pointerActionCancel).setActionTime now.env.time).setId
      now.manager.nextEventId).setBase
      (((((now.held last).setPointerAction pointerActionCancel).setActionTime now.env.time).setId
        now.manager.nextEventId).toInputEvent.addFlag (eventFlagNoIntercept ||| eventFlagNoMonitor)))
  constructor
  · unfold hasFlag cancelEvent
    rw [hretargeted.bitwise, decide_eq_true_eq]
    intro hzero
    have hbit := congrArg (fun flags => flags.toNat.testBit 1) hzero
    have hflags : Nat.testBit 3 1 = true ∧ Nat.testBit 2 1 = true := by decide
    simp [InputEvent.addFlag, PointerEvent.setBase, eventFlagNoIntercept, eventFlagNoMonitor,
      UInt32.toNat_and, UInt32.toNat_or, Nat.testBit_and, Nat.testBit_or, hflags] at hbit
  · rcases hretargeted.action with heq | hcancel
    · exact heq
    · exact hcancel

/-- What a request does. -/
theorem markConsumed_cases (now : MarkMoment) (c : MonitorCollection) (eventId : Int32)
    (session : Nat) (hlast : ∀ deviceId state, c.states deviceId = some state →
      state.lastPointerEvent.isSome) :
    c.markConsumed now eventId session = ([], c) ∨
      ∃ deviceId state cancel, c.hasMonitor session = true ∧
        c.findState now.order eventId = some deviceId ∧ c.states deviceId = some state ∧
        state.isMonitorConsumed = false ∧ cancel.pointerAction = pointerActionCancel ∧
        c.markConsumed now eventId session
          = ([cancel], c.setState deviceId { state with isMonitorConsumed := true }) := by
  unfold markConsumed
  by_cases hmonitor : c.hasMonitor session = true
  · simp only [hmonitor, Bool.not_true, Bool.false_eq_true, if_false]
    cases hfound : c.findState now.order eventId with
    | none => exact .inl rfl
    | some deviceId =>
      obtain ⟨state, hstate, _⟩ := findState_some hfound
      obtain ⟨last, hevent⟩ := Option.isSome_iff_exists.mp (hlast deviceId state hstate)
      simp only [hstate, Option.getD_some, hevent]
      cases hconsumed : state.isMonitorConsumed with
      | true => exact .inl rfl
      | false =>
        obtain ⟨hflag, hcancel⟩ := cancelEvent_passes now last
        have hkept : ¬ Monitored (cancelEvent now last) := by simp [Monitored, hflag]
        refine .inr ⟨deviceId, state, cancelEvent now last, trivial, rfl, hstate, hconsumed, hcancel,
          ?_⟩
        simp only [Bool.false_eq_true, if_false, handlePointerEvent_unmonitored hkept, hevent]
  · simp only [hmonitor]
    exact .inl rfl

end MonitorCollection

/-- The gesture is cut off. -/
theorem Follows.markConsumed (h : Follows state g) (hconsumed : state.isMonitorConsumed = false)
    {cancel : PointerEvent} (hcancel : cancel.pointerAction = pointerActionCancel) :
    Follows { state with isMonitorConsumed := true }
      { g with received := g.received ++ [cancel] } := by
  refine ⟨h.eventIds, h.since, fun hopen => ?_, fun _ => ?_⟩
  · cases hopen
  · refine ⟨g.events ++ g.since, [], cancel, by simp, ?_, hcancel⟩
    rw [h.whole hconsumed]

theorem Tracked.markConsumed (hs : Tracked s) (now : MonitorCollection.MarkMoment)
    (eventId : Int32) (session : Nat) : Tracked (s.step (.markConsumed now eventId session)) := by
  rcases MonitorCollection.markConsumed_cases now s.collection eventId session hs.last with
    hignored | ⟨deviceId, state, cancel, _, hfound, hstate, hconsumed, hcancel, hmark⟩
  · have hsame : s.step (.markConsumed now eventId session) = s := by
      simp only [MonitorService.step, hignored, List.append_nil, Function.update_eq_self]
      split
      · rfl
      · rfl
    rw [hsame]
    exact hs
  · have hfollows := hs.follows deviceId
    rw [hstate] at hfollows
    refine hs.update deviceId ?_ ?_ (hfollows.markConsumed hconsumed hcancel)
      (hs.last deviceId state hstate)
    · simp only [MonitorService.step, hmark]
      rfl
    · simp only [MonitorService.step, hmark, hfound]

theorem step_tracked (s : MonitorService) (i : MonitorInput) (hs : Tracked s) :
    Tracked (s.step i) := by
  cases i with
  | pointerEvent event => exact hs.pointerEvent event
  | markConsumed now eventId session => exact hs.markConsumed now eventId session
  | addMonitor eventType session => exact ⟨hs.follows, hs.last⟩
  | removeMonitor eventType session => exact ⟨hs.follows, hs.last⟩
  | sessionLost session => exact ⟨hs.follows, hs.last⟩

/-- An event that is in no operation is not found. -/
theorem Tracked.findState_none (hs : Tracked s) (order : List Int32) {eventId : Int32}
    (h : ∀ deviceId, eventId ∉ (s.gestures deviceId).current.map (·.id)) :
    s.collection.findState order eventId = none := by
  refine List.find?_eq_none.mpr fun deviceId _ => ?_
  cases hstate : s.collection.states deviceId with
  | none => simp
  | some state =>
    have hfollows := hs.follows deviceId
    rw [hstate, Option.getD_some] at hfollows
    simpa using fun hmem => h deviceId (hfollows.eventIds eventId hmem)

theorem Tracked.foreignIgnored (hs : Tracked s) (i : MonitorInput) :
    ForeignIgnored Gesture.current s i := by
  cases i with
  | markConsumed now eventId session =>
    rintro (hmonitor | hforeign)
    · simp only [MonitorService.step, MonitorCollection.markConsumed, hmonitor, Bool.not_false,
        if_true, List.append_nil, Function.update_eq_self]
      split
      · rfl
      · rfl
    · have hfound := hs.findState_none now.order hforeign
      simp only [MonitorService.step, MonitorCollection.markConsumed, hfound, ite_self]
  | pointerEvent event => trivial
  | addMonitor eventType session => trivial
  | removeMonitor eventType session => trivial
  | sessionLost session => trivial

/-! ## Every run -/

/-- In every state of every run the dispatcher has got all of each gesture, or
a beginning and one cancel; and in every run the requests for events that
are not of a gesture, nor came after it, are ignored. -/
theorem gestureConsumption (is : List MonitorInput) :
    Always MonitorService.step (fun s => ∀ deviceId, (s.gestures deviceId).Delivered) .create is ∧
      AllSteps MonitorService.step (ForeignIgnored Gesture.current) .create is := by
  constructor
  · exact (always_of_step step_tracked is _ create_tracked).mono fun s hs deviceId =>
      (hs.follows deviceId).delivered
  · exact allSteps_of_step step_tracked (fun s i hs => hs.foreignIgnored i) is _ create_tracked

/-- An event of a pen that hovers over a tablet. -/
def hovering : PointerEvent :=
  ((((((PointerEvent.create 0).setSourceType sourceTypeTouchscreen).setPointerAction
    pointerActionMove).setId 7).setDeviceId 3).setPointerId 0).addPointerItem
    { pressed := true, deviceId := 3 }

/-- A monitor has it consumed. -/
def consumeHovering : MonitorInput :=
  .markConsumed ⟨⟨.create, 0, false, 0⟩, .create 0 ⟨0, 0, ⟨0, 0, 0, 0⟩, [], [], 0, 0⟩
    ⟨0, 0, ⟨0, 0, 0, 0⟩, [], [], 0, 0⟩, id, [3]⟩ 7 1

/-- No finger is down, and yet a cancel is passed on. -/
theorem counterexample_gestureConsumption :
    ¬ AllSteps MonitorService.step (ForeignIgnored Gesture.underWay) .create
      [.addMonitor handleEventTypeAll 1, .pointerEvent hovering, consumeHovering] := by
  rintro ⟨_, _, h, _⟩
  have hsame := h (.inr fun deviceId => ?_)
  · have hreceived := congrArg (fun s => (s.gestures 3).received.length) hsame
    revert hreceived
    decide +kernel
  · have hmonitored : Monitored hovering := by decide
    by_cases hdevice : deviceId = 3
    · subst hdevice
      decide +kernel
    · have hnone : ((MonitorService.create.step (.addMonitor handleEventTypeAll 1)).step
          (.pointerEvent hovering)).gestures deviceId = .none := by
        simp only [MonitorService.step, if_pos hmonitored]
        exact Function.update_of_ne hdevice _ _
      rw [hnone]
      decide

end FtMmi.InputHandler
