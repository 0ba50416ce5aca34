/-
FtMmi.InputDeviceCooperate.DistributedInputAdapter — requests to the
distributed-input kit and their callbacks (`distributed_input_adapter.cpp`).

A callback is known by the number of the request it came with. The ten kinds
of requests differ in the call they make of the kit and in the `CallbackType`
their callback is kept under; the kit is outside of the repository, and what
a call of it returns and which results it reports are inputs.

The second half of `DInput` is history: what each request returned, the
results reported, the requests whose timer has gone off for the last time,
what callbacks were called with, and which timers `RemoveTimer` has removed.
The number in the callback of a timer is history too, since the closure that
`AddTimer` makes captures the type only.

Requests come with a callback, as in all of their callers, and a callback
does not call the adapter: those of the state machine post a task.
-/
import FtMmi.Timer.TimerManager

namespace FtMmi.InputDeviceCooperate.DistributedInputAdapter

open FtMmi.Timer

inductive CallbackType where
  | startDInputCallback
  | startDInputCallbackDHIds
  | startDInputCallbackSink
  | stopDInputCallback
  | stopDInputCallbackDHIds
  | stopDInputCallbackSink
  | prepareStartDInputCallback
  | unPrepareStopDInputCallback
  | prepareStartDInputCallbackSink
  | unPrepareStopDInputCallbackSink
  deriving DecidableEq, Repr

structure TimerInfo where
  times : Int
  timerId : Int
  deriving DecidableEq, Repr

/-- Whose timer it is: the closure of `AddTimer`, or another component's. -/
inductive TimerCallback where
  | watch (type : CallbackType) (req : Nat)
  | other
  deriving DecidableEq, Repr

/-- What a request returns: `ERROR_NULL_POINTER`, or what the kit returns. -/
inductive RequestResult where
  | errorNullPointer
  | kit (ret : Int)
  deriving DecidableEq, Repr

structure RemoteRequest where
  type : CallbackType
  returned : RequestResult
  deriving DecidableEq, Repr

structure DInput where
  timers : TimerManager TimerCallback
  callbackMap : CallbackType → Option Nat
  watchingMap : CallbackType → Option TimerInfo
  requests : List RemoteRequest
  results : List (Nat × Int)
  expired : List Nat
  answers : List (Nat × Bool)
  removed : List (CallbackType × TimerCallback)

/-- `DEFAULT_DELAY_TIME` -/
def defaultDelayTime : Int := 4000

/-- `RETRY_TIME` -/
def retryTime : Int := 2

namespace DInput

def create : DInput := ⟨.create, fun _ => none, fun _ => none, [], [], [], [], []⟩

/-! ## Callbacks and their timers -/

def addTimer (s : DInput) (type : CallbackType) (req : Nat) (nowTime : Int) : DInput :=
  let r := s.timers.addTimer nowTime defaultDelayTime retryTime (some (.watch type req))
  let s := { s with timers := r.2 }
  if r.1 < 0 then s
  else { s with watchingMap := Function.update s.watchingMap type (some ⟨0, r.1⟩) }

def saveCallback (s : DInput) (type : CallbackType) (req : Nat) (nowTime : Int) : DInput :=
  addTimer { s with callbackMap := Function.update s.callbackMap type (some req) } type req nowTime

def removeTimer (s : DInput) (type : CallbackType) : DInput :=
  match s.watchingMap type with
  | none => s
  | some info =>
      { s with
        timers := (s.timers.removeTimer info.timerId).2
        watchingMap := Function.update s.watchingMap type none
        removed := s.removed ++
          (s.timers.timers.filter fun t => t.id = info.timerId).map fun t => (type, t.callback) }

/-- The callback of a type is called and erased. -/
def answer (s : DInput) (type : CallbackType) (callback : Nat) (isSuccess : Bool) : DInput :=
  { s with
    callbackMap := Function.update s.callbackMap type none
    answers := s.answers ++ [(callback, isSuccess)] }

/-- What the closure of `AddTimer` does when its timer goes off. -/
def onTimer (s : DInput) (type : CallbackType) : DInput :=
  match s.callbackMap type, s.watchingMap type with
  | some callback, some info =>
      if info.times = 0 then
        { s with
          watchingMap := Function.update s.watchingMap type
            (some { info with times := info.times + 1 }) }
      else s.answer type callback false
  | _, _ => s

def processDInputCallback (s : DInput) (type : CallbackType) (status : Int) : DInput :=
  let s := s.removeTimer type
  match s.callbackMap type with
  | none => s
  | some callback => s.answer type callback (decide (status = retOk))

/-! ## The requests -/

/-- What the requests have in common. `allocated` is whether `new` of the
kit's callback object has succeeded, `ret` what the kit returns. -/
def remoteInput (type : CallbackType) (s : DInput) (allocated : Bool) (ret nowTime : Int) :
    RequestResult × DInput :=
  if !allocated then (.errorNullPointer, s)
  else (.kit ret, s.saveCallback type s.requests.length nowTime)

/-- `StartRemoteInput(deviceId, dhIds, callback)` -/
def startRemoteInputDHIds := remoteInput .startDInputCallbackDHIds

/-- `StartRemoteInput(srcId, sinkId, inputTypes, callback)` -/
def startRemoteInput := remoteInput .startDInputCallback

/-- `StartRemoteInput(srcId, sinkId, dhIds, callback)` -/
def startRemoteInputSink := remoteInput .startDInputCallbackSink

/-- `StopRemoteInput(deviceId, dhIds, callback)` -/
def stopRemoteInputDHIds := remoteInput .stopDInputCallbackDHIds

/-- `StopRemoteInput(srcId, sinkId, inputTypes, callback)` -/
def stopRemoteInput := remoteInput .stopDInputCallback

/-- `StopRemoteInput(srcId, sinkId, dhIds, callback)` -/
def stopRemoteInputSink := remoteInput .stopDInputCallbackSink

/-- `PrepareRemoteInput(srcId, sinkId, callback)` -/
def prepareRemoteInputSink := remoteInput .prepareStartDInputCallbackSink

/-- `UnPrepareRemoteInput(srcId, sinkId, callback)` -/
def unPrepareRemoteInputSink := remoteInput .unPrepareStopDInputCallbackSink

/-- `PrepareRemoteInput(deviceId, callback)` -/
def prepareRemoteInput := remoteInput .prepareStartDInputCallback

/-- `UnPrepareRemoteInput(deviceId, callback)` -/
def unPrepareRemoteInput := remoteInput .unPrepareStopDInputCallback

/-- The request whose callback is of a type. -/
def request : CallbackType → DInput → Bool → Int → Int → RequestResult × DInput
  | .startDInputCallback => startRemoteInput
  | .startDInputCallbackDHIds => startRemoteInputDHIds
  | .startDInputCallbackSink => startRemoteInputSink
  | .stopDInputCallback => stopRemoteInput
  | .stopDInputCallbackDHIds => stopRemoteInputDHIds
  | .stopDInputCallbackSink => stopRemoteInputSink
  | .prepareStartDInputCallback => prepareRemoteInput
  | .unPrepareStopDInputCallback => unPrepareRemoteInput
  | .prepareStartDInputCallbackSink => prepareRemoteInputSink
  | .unPrepareStopDInputCallbackSink => unPrepareRemoteInputSink

theorem request_eq (type : CallbackType) : request type = remoteInput type := by
  cases type <;> rfl

/-- `OnResult`, `OnResultDhids`: the callback objects of a type, one class for
each, report under their type. -/
def onResult (s : DInput) (type : CallbackType) (status : Int) : DInput :=
  s.processDInputCallback type status

end DInput

/-! ## Runs -/

inductive DInputEvent where
  | request (type : CallbackType) (allocated : Bool) (ret nowTime : Int)
  /-- The kit reports the result of a request. -/
  | result (req : Nat) (status : Int)
  /-- A round of `ProcessTimers`. -/
  | processTimer (nowTime : Int)
  /-- Timer operations of other components. -/
  | addTimer (nowTime intervalMs repeatCount : Int)
  | removeTimer (timerId : Int)
  | resetTimer (nowTime timerId : Int)
  deriving DecidableEq, Repr

namespace DInput

/-- A timer has gone off. If it is gone afterwards, its request has timed
out. -/
def fire (s : DInput) : TimerCallback → DInput
  | .watch type req =>
      let s := s.onTimer type
      if s.timers.timers.any fun t => t.callback = .watch type req then s
      else { s with expired := s.expired ++ [req] }
  | .other => s

def step (s : DInput) : DInputEvent → DInput
  | .request type allocated ret nowTime =>
      let r := s.request type allocated ret nowTime
      { r.2 with requests := r.2.requests ++ [⟨type, r.1⟩] }
  | .result req status =>
      match s.requests[req]? with
      | none => s
      | some q => { s.onResult q.type status with results := s.results ++ [(req, status)] }
  | .processTimer nowTime =>
      let r := s.timers.processNext nowTime
      let s := { s with timers := r.2 }
      match r.1 with
      | .fired callback => s.fire callback
      | .idle => s
      | .dropped => s
  | .addTimer nowTime intervalMs repeatCount =>
      { s with timers := (s.timers.addTimer nowTime intervalMs repeatCount (some .other)).2 }
  | .removeTimer timerId => { s with timers := (s.timers.removeTimer timerId).2 }
  | .resetTimer nowTime timerId =>
      { s with timers := (s.timers.resetTimer nowTime timerId).2 }

end DInput

end FtMmi.InputDeviceCooperate.DistributedInputAdapter
