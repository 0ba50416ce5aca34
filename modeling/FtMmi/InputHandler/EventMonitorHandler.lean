/-
FtMmi.InputHandler.EventMonitorHandler — the monitors of the server and
what they consume (`event_monitor_handler.cpp`).

For each touch screen the collection keeps the ids of the events of a
touch operation, if a monitor has consumed it, and its last event. That
event is an object which its processor goes on writing to, so what
`MarkConsumed` copies is what the processor has made of it since.

The events are those that come to the handler. What is sent to the
monitors is left out, and so are interceptors, which let the cancel of a
consumed operation pass, and the filter, which is taken to let it pass.
-/
import FtMmi.InputHandler.SessionHandlers
import FtMmi.WindowManager.InputWindowsManager

namespace FtMmi.InputHandler

open FtMmi.Event
open FtMmi.WindowManager

/-! ## State -/

def eventFlagNoIntercept : UInt32 := 0x00000001

def eventFlagNoMonitor : UInt32 := 0x00000002

/-- `HasFlag` -/
def hasFlag (event : PointerEvent) (flag : UInt32) : Bool := event.bitwise &&& flag ≠ 0

structure ConsumptionState where
  /-- `std::unordered_set` -/
  eventIds : List Int32
  isMonitorConsumed : Bool
  lastPointerEvent : Option PointerEvent

def ConsumptionState.create : ConsumptionState := ⟨[], false, none⟩

structure MonitorCollection where
  monitors : List SessionHandler
  /-- by the id of the device -/
  states : Int32 → Option ConsumptionState

namespace MonitorCollection

def create : MonitorCollection := ⟨[], fun _ => none⟩

/-! ## The monitors -/

def addMonitor (s : MonitorCollection) (eventType : HandleEventType) (session : Nat) :
    MonitorCollection :=
  { s with monitors := (addInputHandler maxNInputMonitors s.monitors .monitor eventType session).2 }

def removeMonitor (s : MonitorCollection) (eventType : HandleEventType) (session : Nat) :
    MonitorCollection :=
  { s with monitors := removeInputHandler .monitor s.monitors .monitor eventType session }

def onSessionLost (s : MonitorCollection) (session : Nat) : MonitorCollection :=
  { s with monitors := eraseSession s.monitors session }

def hasMonitor (s : MonitorCollection) (session : Nat) : Bool :=
  (findSession s.monitors session).isSome

/-! ## Events -/

def setState (s : MonitorCollection) (deviceId : Int32) (state : ConsumptionState) :
    MonitorCollection :=
  { s with states := Function.update s.states deviceId (some state) }

/-- The state of the device after an event of it. -/
def stateAfter (state : ConsumptionState) (pointerEvent : PointerEvent) : ConsumptionState :=
  let state := { state with
    eventIds := state.eventIds.insert pointerEvent.id
    lastPointerEvent := some pointerEvent }
  if pointerEvent.getPointerIds.length ≠ 1 then state
  else if pointerEvent.pointerAction = pointerActionDown then
    { state with eventIds := [pointerEvent.id], isMonitorConsumed := false }
  else if pointerEvent.pointerAction = pointerActionUp then { state with eventIds := [] }
  else state

def updateConsumptionState (s : MonitorCollection) (pointerEvent : PointerEvent) :
    MonitorCollection :=
  if pointerEvent.sourceType ≠ sourceTypeTouchscreen then s
  else
    s.setState pointerEvent.deviceId
      (stateAfter ((s.states pointerEvent.deviceId).getD .create) pointerEvent)

/-- `HandleEvent`: if the event is consumed. -/
def handleEvent (s : MonitorCollection) (pointerEvent : PointerEvent) :
    Bool × MonitorCollection :=
  let s := s.updateConsumptionState pointerEvent
  if pointerEvent.sourceType = sourceTypeTouchscreen then
    match s.states pointerEvent.deviceId with
    | some state => (state.isMonitorConsumed, s)
    | none => (false, s)
  else (false, s)

def onHandleEvent (s : MonitorCollection) (pointerEvent : PointerEvent) :
    Bool × MonitorCollection :=
  if hasFlag pointerEvent eventFlagNoMonitor then (false, s) else s.handleEvent pointerEvent

/-- `HandleTouchEvent` and `HandlePointerEvent`: what is passed on to the
dispatcher. -/
def handlePointerEvent (s : MonitorCollection) (pointerEvent : PointerEvent) :
    List PointerEvent × MonitorCollection :=
  let r := s.onHandleEvent pointerEvent
  (if r.1 then [] else [pointerEvent], r.2)

/-! ## Consumption -/

/-- The surroundings of a request. -/
structure MarkMoment where
  env : Env
  manager : InputWindowsManager
  /-- What has become of an object that was stashed. -/
  held : PointerEvent → PointerEvent
  /-- The devices, in the order of `states_`. -/
  order : List Int32

/-- The device whose operation has the event. -/
def findState (s : MonitorCollection) (order : List Int32) (eventId : Int32) : Option Int32 :=
  order.find? fun deviceId =>
    match s.states deviceId with
    | some state => decide (eventId ∈ state.eventIds)
    | none => false

/-- The event that cancels an operation, as `HandleTouchEvent` of the first
handler passes it on. -/
def cancelEvent (now : MarkMoment) (last : PointerEvent) : PointerEvent :=
  let pointerEvent := (now.held last).setPointerAction pointerActionCancel
  let pointerEvent := (pointerEvent.setActionTime now.env.time).setId now.manager.nextEventId
  let pointerEvent := pointerEvent.setBase
    (pointerEvent.toInputEvent.addFlag (eventFlagNoIntercept ||| eventFlagNoMonitor))
  (now.manager.updateId.updateTargetPointer now.env .other pointerEvent).2.1

def markConsumed (now : MarkMoment) (s : MonitorCollection) (eventId : Int32) (session : Nat) :
    List PointerEvent × MonitorCollection :=
  if !s.hasMonitor session then ([], s)
  else
    match s.findState now.order eventId with
    | none => ([], s)
    | some deviceId =>
        let state := (s.states deviceId).getD .create
        if state.isMonitorConsumed then ([], s)
        else
          let s := s.setState deviceId { state with isMonitorConsumed := true }
          match state.lastPointerEvent with
          | none => ([], s)
          | some last => s.handlePointerEvent (cancelEvent now last)

end MonitorCollection

end FtMmi.InputHandler
