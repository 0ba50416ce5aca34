/-
FtMmi.InputDeviceCooperate.InputDeviceCooperateSM — the cooperation of two
devices that share a mouse: the state machine
(`input_device_cooperate_sm.cpp`), its state objects, and the adapters they
call.

A step is one call into the machine, one message, one task of a state
object's event handler or one callback of the distributed input. Each step
has its `Surroundings`: the table of input devices, what the softbus can
send, and which calls the distributed input accepts.

`DistributedInputAdapter` keeps one callback for each kind of call. It is
saved before the call, whatever the call returns, and is called when the
result is there or when a timer gives it up (`dinput`).

The tasks of a state object stand in a queue of its own. What becomes of
them when the object is freed is up to the event handlers of the platform:
they drop them, or they still run them (`keepsTasks`).

Attempts are numbered so that what finishes can be told apart, and the calls
of the distributed input are logged; the source has no such numbers and no
such log. Drawing, the place of the mouse, key repeat, the
crossing switch and the listeners of the cooperation are left out.

Sessions of the softbus are not kept. That `OnStopFinish` closes the one it
has (`CloseInputSoftbus`) is left out; what it does at the other device, and
a session lost otherwise, is the input `onSessionClosed`, which may come at
any time.
-/
import FtMmi.Lib.StepSystem
import Mathlib.Logic.Function.Basic

namespace FtMmi.InputDeviceCooperate

/-! ## Input devices -/

/-- `InputDeviceInfo`, and what `GetDeviceSupportKey` says of the device: no
answer, or if it is an alphabetic keyboard. -/
structure InputDeviceInfo where
  networkIdOrigin : String
  isRemote : Bool
  isPointerDevice : Bool
  dhid : String
  keyboardType : Option Bool

/-- The kinds of calls of the distributed input that have a callback. -/
inductive CallbackType where
  | prepareStartDInputCallbackSink
  | unPrepareStopDInputCallbackSink
  | startDInputCallbackSink
  | stopDInputCallbackSink
  | stopDInputCallbackDHIds
  deriving DecidableEq, Repr

/-- What is around a step. -/
structure Surroundings where
  /-- `GetLocalDeviceId()` -/
  localDeviceId : String
  /-- `inputDevice_`, in the order of the ids -/
  inputDevice : List (Int32 × InputDeviceInfo)
  /-- the place of the mouse in percent, if `UpdateMouseLocation` finds it -/
  mouseLocation : Option (Int32 × Int32)
  /-- `GetPeerDeviceId`: the device a session is with -/
  peerDeviceId : Int32 → String
  /-- There is a session with the device, and `SendBytes` succeeds. -/
  sends : String → Bool
  /-- `DistributedInputKit` takes the call and returns `RET_OK`. -/
  accepts : CallbackType → Bool

namespace Surroundings

def findDevice (env : Surroundings) (id : Int32) : Option InputDeviceInfo :=
  (env.inputDevice.find? fun item => item.1 = id).map Prod.snd

/-- `GetOriginNetworkId(int32_t)` -/
def getOriginNetworkId (env : Surroundings) (id : Int32) : String :=
  match env.findDevice id with
  | none => ""
  | some info => if info.networkIdOrigin.isEmpty then env.localDeviceId else info.networkIdOrigin

/-- `GetOriginNetworkId(const std::string &)` -/
def getOriginNetworkIdOf (env : Surroundings) (dhid : String) : String :=
  if dhid.isEmpty then ""
  else
    match env.inputDevice.find? fun item => item.2.isRemote && item.2.dhid = dhid with
    | some item => item.2.networkIdOrigin
    | none => ""

/-- `GetDhid` -/
def getDhid (env : Surroundings) (id : Int32) : String :=
  match env.findDevice id with
  | some info => info.dhid
  | none => ""

def networkIdOf (env : Surroundings) (info : InputDeviceInfo) : String :=
  if info.isRemote then info.networkIdOrigin else env.localDeviceId

/-- The loop of `GetCooperateDhids`: the keyboards of the pointer's device,
until a device gives no answer. -/
def keyboardDhids (env : Surroundings) (pointerNetworkId : String) :
    List (Int32 × InputDeviceInfo) → List String
  | [] => []
  | item :: rest =>
      if env.networkIdOf item.2 ≠ pointerNetworkId then keyboardDhids env pointerNetworkId rest
      else
        match item.2.keyboardType with
        | none => []
        | some true => item.2.dhid :: keyboardDhids env pointerNetworkId rest
        | some false => keyboardDhids env pointerNetworkId rest

/-- `GetCooperateDhids(int32_t)` -/
def getCooperateDhids (env : Surroundings) (id : Int32) : List String :=
  match env.findDevice id with
  | none => []
  | some info =>
      if info.isPointerDevice then
        info.dhid :: keyboardDhids env (env.networkIdOf info) env.inputDevice
      else []

/-- `GetCooperateDhids(const std::string &)` -/
def getCooperateDhidsOf (env : Surroundings) (dhid : String) : List String :=
  match env.inputDevice.find? fun item => item.2.dhid = dhid with
  | some item => env.getCooperateDhids item.1
  | none => env.getCooperateDhids (-1)

end Surroundings

/-! ## State -/

inductive CooperateState where
  | stateFree
  | stateIn
  | stateOut
  deriving DecidableEq, Repr

/-- A message between two devices. -/
inductive Message where
  | startRemoteCooperate (localDeviceId : String)
  | startRemoteCooperateResult (isSuccess : Bool) (startDhid : String) (xPercent yPercent : Int32)
  | stopRemoteCooperate
  | stopRemoteCooperateResult (isSuccess : Bool)
  | startCooperateOtherResult (srcNetworkId : String)
  deriving DecidableEq, Repr

/-- A state object: `InputDeviceCooperateStateFree`, `In` or `Out`. The
generation tells the objects apart. -/
structure StateObject where
  generation : Nat
  kind : CooperateState
  startDhid : String
  deriving DecidableEq, Repr

/-- What a continuation has captured: its object, and the attempt it is part
of. -/
structure Capture where
  object : StateObject
  attempt : Nat
  deriving DecidableEq, Repr

/-- A task posted to an event handler. -/
inductive Task where
  | processStart (remoteNetworkId : String) (startInputDeviceId : Int32)
  | processStop (srcNetworkId : String)
  | startDinput (startInputDeviceId : Int32)
  | startFinish (isSuccess : Bool) (remoteNetworkId : String) (startInputDeviceId : Int32)
  | relayStop (sinkNetworkId srcNetworkId : String) (dhids : List String)
      (startInputDeviceId : Int32)
  | stopFinish (isSuccess : Bool) (remoteNetworkId : String)
  deriving DecidableEq, Repr

inductive DInputCallback where
  | onPrepareDistributedInput (srcNetworkId : String) (startInputDeviceId : Int32)
  | onStartRemoteInput (srcNetworkId : String) (startInputDeviceId : Int32)
  | onStopRemoteInput (remoteNetworkId : String) (startInputDeviceId : Int32)
  deriving DecidableEq, Repr

/-- What comes of a call of `OnStartFinish` or `OnStopFinish`. -/
inductive Outcome where
  /-- The flag is not set, and nothing is done. -/
  | dropped
  /-- It is reported to have failed. -/
  | failed
  /-- It is reported to have succeeded, in this state. -/
  | succeeded (cooperateState : CooperateState)
  deriving DecidableEq, Repr

inductive AttemptKind where
  | start
  | stop
  deriving DecidableEq, Repr

/-- A call of `OnStartFinish` or `OnStopFinish`. -/
structure Finish where
  kind : AttemptKind
  attempt : Nat
  isSuccess : Bool
  outcome : Outcome
  deriving DecidableEq, Repr

structure CooperateSM where
  preparedNetworkId : String × String
  startDhid : String
  srcNetworkId : String
  cooperateState : CooperateState
  /-- `currentStateSM_` -/
  current : StateObject
  isStarting : Bool
  isStopping : Bool
  mouseLocation : Int32 × Int32
  /-- the tasks of all event handlers -/
  tasks : List (Capture × Task)
  /-- An event handler still runs its tasks when its state object is freed. -/
  keepsTasks : Bool
  /-- `DistributedInputAdapter::callbackMap_`. A callback that does nothing
  has no capture. -/
  callbackMap : CallbackType → Option (Option (Capture × DInputCallback))
  /-- the calls made, and if each was taken -/
  calls : List (CallbackType × Bool)
  nextGeneration : Nat
  nextAttempt : Nat
  sent : List (String × Message)
  finishes : List Finish

/-- `Init` -/
def CooperateSM.init (keepsTasks : Bool) : CooperateSM where
  preparedNetworkId := ("", "")
  startDhid := ""
  srcNetworkId := ""
  cooperateState := .stateFree
  current := ⟨0, .stateFree, ""⟩
  isStarting := false
  isStopping := false
  mouseLocation := (0, 0)
  tasks := []
  keepsTasks
  callbackMap := fun _ => none
  calls := []
  nextGeneration := 1
  nextAttempt := 0
  sent := []
  finishes := []

namespace CooperateSM

/-! ## Reset and UpdateState -/

/-- A new state object takes the place of the one there is, which is freed. -/
def renew (s : CooperateSM) (kind : CooperateState) : CooperateSM :=
  { s with
    current := ⟨s.nextGeneration, kind, s.startDhid⟩
    nextGeneration := s.nextGeneration + 1
    cooperateState := kind
    tasks :=
      if s.keepsTasks then s.tasks
      else s.tasks.filter fun t => t.1.object.generation ≠ s.current.generation }

/-- `Reset(bool)` -/
def reset (s : CooperateSM) : CooperateSM :=
  { { s with startDhid := "", srcNetworkId := "" }.renew .stateFree with
    isStarting := false
    isStopping := false }

/-- `Reset(const std::string &)` -/
def resetOf (env : Surroundings) (s : CooperateSM) (networkId : String) : CooperateSM :=
  let needReset :=
    match s.cooperateState with
    | .stateFree => true
    | .stateOut => networkId = s.srcNetworkId
    | .stateIn => networkId = env.getOriginNetworkIdOf s.startDhid
  if needReset then { s with preparedNetworkId := ("", "") }.reset else s

def updateState (s : CooperateSM) : CooperateState → CooperateSM
  | .stateFree => s.reset
  | .stateIn => s.renew .stateIn
  | .stateOut => s.renew .stateOut

/-! ## Softbus and distributed input -/

/-- A message to a device, if it goes out. -/
def send (env : Surroundings) (s : CooperateSM) (remoteDeviceId : String) (message : Message) :
    Bool × CooperateSM :=
  if env.sends remoteDeviceId then (true, { s with sent := s.sent ++ [(remoteDeviceId, message)] })
  else (false, s)

/-- `SaveCallback`, and the call. -/
def callDInput (env : Surroundings) (s : CooperateSM) (type : CallbackType)
    (callback : Option (Capture × DInputCallback)) : Bool × CooperateSM :=
  (env.accepts type,
    { s with
      callbackMap := Function.update s.callbackMap type (some callback)
      calls := s.calls ++ [(type, env.accepts type)] })

/-- `ProxyPostTask`. The event handler of a freed object takes a task only if
it still runs them. -/
def post (s : CooperateSM) (c : Capture) (task : Task) : CooperateSM :=
  if c.object.generation = s.current.generation ∨ s.keepsTasks then
    { s with tasks := s.tasks ++ [(c, task)] }
  else s

/-! ## The end of an attempt -/

def finish (s : CooperateSM) (finish : Finish) : CooperateSM :=
  { s with finishes := s.finishes ++ [finish] }

def onStartFinish (env : Surroundings) (s : CooperateSM) (attempt : Nat) (isSuccess : Bool)
    (remoteNetworkId : String) (startInputDeviceId : Int32) : CooperateSM :=
  if !s.isStarting then s.finish ⟨.start, attempt, isSuccess, .dropped⟩
  else if !isSuccess then
    let s := (s.send env remoteNetworkId (.startRemoteCooperateResult false "" 0 0)).2
    { s.finish ⟨.start, attempt, isSuccess, .failed⟩ with isStarting := false }
  else
    let s := { s with startDhid := env.getDhid startInputDeviceId }
    let s := (s.send env remoteNetworkId (.startRemoteCooperateResult true s.startDhid
      s.mouseLocation.1 s.mouseLocation.2)).2
    let s := s.finish ⟨.start, attempt, isSuccess, .succeeded s.cooperateState⟩
    let s :=
      match s.cooperateState with
      | .stateFree => s.updateState .stateOut
      | .stateIn =>
          let sink := env.getOriginNetworkId startInputDeviceId
          let s :=
            if !sink.isEmpty ∧ remoteNetworkId ≠ sink then
              (s.send env sink (.startCooperateOtherResult remoteNetworkId)).2
            else s
          s.updateState .stateFree
      | .stateOut => s
    { s with isStarting := false }

def onStopFinish (env : Surroundings) (s : CooperateSM) (attempt : Nat) (isSuccess : Bool)
    (remoteNetworkId : String) : CooperateSM :=
  if !s.isStopping then s.finish ⟨.stop, attempt, isSuccess, .dropped⟩
  else
    let s := (s.send env remoteNetworkId (.stopRemoteCooperateResult isSuccess)).2
    let s :=
      if isSuccess then
        let s := s.finish ⟨.stop, attempt, isSuccess, .succeeded s.cooperateState⟩
        if s.cooperateState = .stateIn ∨ s.cooperateState = .stateOut then
          s.updateState .stateFree
        else s
      else s.finish ⟨.stop, attempt, isSuccess, .failed⟩
    { s with isStopping := false }

/-! ## The state objects -/

/-- `IInputDeviceCooperateState::StartRemoteInput` -/
def startRemoteInput (env : Surroundings) (s : CooperateSM) (c : Capture)
    (startInputDeviceId : Int32) : Bool × CooperateSM :=
  let src := s.preparedNetworkId.1
  if (env.getCooperateDhids startInputDeviceId).isEmpty then
    (false, s.onStartFinish env c.attempt false src startInputDeviceId)
  else
    let r := s.callDInput env .startDInputCallbackSink
      (some (c, .onStartRemoteInput src startInputDeviceId))
    if r.1 then r else (false, r.2.onStartFinish env c.attempt false src startInputDeviceId)

def prepareAndStart (env : Surroundings) (s : CooperateSM) (c : Capture) (srcNetworkId : String)
    (startInputDeviceId : Int32) : CooperateSM :=
  let sinkNetworkId := env.getOriginNetworkId startInputDeviceId
  -- `NeedPrepare`
  if s.preparedNetworkId ≠ (srcNetworkId, sinkNetworkId) then
    let s := { s with preparedNetworkId := (srcNetworkId, sinkNetworkId) }
    let r := s.callDInput env .prepareStartDInputCallbackSink
      (some (c, .onPrepareDistributedInput srcNetworkId startInputDeviceId))
    if r.1 then r.2
    else
      { r.2.onStartFinish env c.attempt false sinkNetworkId startInputDeviceId with
        preparedNetworkId := ("", "") }
  else
    let r := s.startRemoteInput env c startInputDeviceId
    if r.1 then r.2
    else r.2.onStartFinish env c.attempt false sinkNetworkId startInputDeviceId

/-- `InputDeviceCooperateStateIn::StopRemoteInput` -/
def relayStop (env : Surroundings) (s : CooperateSM) (c : Capture)
    (sinkNetworkId srcNetworkId : String) (startInputDeviceId : Int32) : CooperateSM :=
  let r := s.callDInput env .stopDInputCallbackDHIds
    (some (c, .onStopRemoteInput srcNetworkId startInputDeviceId))
  if r.1 then r.2 else r.2.onStartFinish env c.attempt false sinkNetworkId startInputDeviceId

/-- `InputDeviceCooperateStateIn::ComeBack` goes on without devices. -/
def comeBack (env : Surroundings) (s : CooperateSM) (c : Capture) (sinkNetworkId : String)
    (startInputDeviceId : Int32) : CooperateSM :=
  let s :=
    if (env.getCooperateDhids startInputDeviceId).isEmpty then
      s.onStartFinish env c.attempt false sinkNetworkId startInputDeviceId
    else s
  let r := s.callDInput env .stopDInputCallbackDHIds
    (some (c, .onStopRemoteInput sinkNetworkId startInputDeviceId))
  if r.1 then r.2 else r.2.onStartFinish env c.attempt false sinkNetworkId startInputDeviceId

/-- `ProcessStart` of a free object, or of an in object. -/
def processStart (env : Surroundings) (s : CooperateSM) (c : Capture) (remoteNetworkId : String)
    (startInputDeviceId : Int32) : CooperateSM :=
  if c.object.kind = .stateIn ∧ remoteNetworkId = env.getOriginNetworkId startInputDeviceId then
    s.comeBack env c remoteNetworkId startInputDeviceId
  else s.prepareAndStart env c remoteNetworkId startInputDeviceId

/-- `ProcessStop` of an in object, or of an out object, which goes on without
devices. -/
def processStop (env : Surroundings) (s : CooperateSM) (c : Capture) (srcNetworkId : String) :
    CooperateSM :=
  match c.object.kind with
  | .stateFree => s
  | .stateIn =>
      let sink := env.getOriginNetworkIdOf c.object.startDhid
      let r := s.callDInput env .stopDInputCallbackDHIds (some (c, .onStopRemoteInput sink (-1)))
      if r.1 then r.2 else r.2.onStopFinish env c.attempt false sink
  | .stateOut =>
      let s :=
        if (env.getCooperateDhidsOf c.object.startDhid).isEmpty then
          s.onStopFinish env c.attempt false srcNetworkId
        else s
      let r := s.callDInput env .stopDInputCallbackSink
        (some (c, .onStopRemoteInput srcNetworkId (-1)))
      if r.1 then r.2 else r.2.onStopFinish env c.attempt false srcNetworkId

def performTask (env : Surroundings) (s : CooperateSM) (c : Capture) : Task → CooperateSM
  | .processStart remoteNetworkId startInputDeviceId =>
      s.processStart env c remoteNetworkId startInputDeviceId
  | .processStop srcNetworkId => s.processStop env c srcNetworkId
  | .startDinput startInputDeviceId => (s.startRemoteInput env c startInputDeviceId).2
  | .startFinish isSuccess remoteNetworkId startInputDeviceId =>
      s.onStartFinish env c.attempt isSuccess remoteNetworkId startInputDeviceId
  | .relayStop sinkNetworkId srcNetworkId _ startInputDeviceId =>
      s.relayStop env c sinkNetworkId srcNetworkId startInputDeviceId
  | .stopFinish isSuccess remoteNetworkId =>
      s.onStopFinish env c.attempt isSuccess remoteNetworkId

def onPrepareDistributedInput (env : Surroundings) (s : CooperateSM) (c : Capture)
    (isSuccess : Bool) (srcNetworkId : String) (startInputDeviceId : Int32) : CooperateSM :=
  if isSuccess then s.post c (.startDinput startInputDeviceId)
  else
    { s with preparedNetworkId := ("", "") }.onStartFinish env c.attempt false srcNetworkId
      startInputDeviceId

/-- `OnStartRemoteInput`. An in object stops its own remote input first. -/
def onStartRemoteInput (env : Surroundings) (s : CooperateSM) (c : Capture) (isSuccess : Bool)
    (srcNetworkId : String) (startInputDeviceId : Int32) : CooperateSM :=
  if c.object.kind = .stateIn ∧ isSuccess then
    s.post c (.relayStop (env.getOriginNetworkId startInputDeviceId) srcNetworkId
      (env.getCooperateDhids startInputDeviceId) startInputDeviceId)
  else s.post c (.startFinish isSuccess srcNetworkId startInputDeviceId)

/-- `OnStopRemoteInput` of an out object, or of an in object, for which the
flags decide what has come to its end. -/
def onStopRemoteInput (s : CooperateSM) (c : Capture) (isSuccess : Bool)
    (remoteNetworkId : String) (startInputDeviceId : Int32) : CooperateSM :=
  if c.object.kind = .stateOut then s.post c (.stopFinish isSuccess remoteNetworkId)
  else if s.isStarting then
    s.post c (.startFinish isSuccess remoteNetworkId startInputDeviceId)
  else if s.isStopping then s.post c (.stopFinish isSuccess remoteNetworkId)
  else s

def performCallback (env : Surroundings) (s : CooperateSM) (c : Capture) (isSuccess : Bool) :
    DInputCallback → CooperateSM
  | .onPrepareDistributedInput srcNetworkId startInputDeviceId =>
      s.onPrepareDistributedInput env c isSuccess srcNetworkId startInputDeviceId
  | .onStartRemoteInput srcNetworkId startInputDeviceId =>
      s.onStartRemoteInput env c isSuccess srcNetworkId startInputDeviceId
  | .onStopRemoteInput remoteNetworkId startInputDeviceId =>
      s.onStopRemoteInput c isSuccess remoteNetworkId startInputDeviceId

/-- `StartInputDeviceCooperate` of the current object. -/
def objectStart (env : Surroundings) (s : CooperateSM) (remoteNetworkId : String)
    (startInputDeviceId : Int32) : Bool × CooperateSM :=
  match s.current.kind with
  | .stateOut => (false, s)
  | _ =>
      if remoteNetworkId.isEmpty then (false, s)
      else if env.localDeviceId.isEmpty ∨ remoteNetworkId = env.localDeviceId then (false, s)
      else
        let r := s.send env remoteNetworkId (.startRemoteCooperate env.localDeviceId)
        if r.1 then
          (true, r.2.post ⟨s.current, s.nextAttempt⟩
            (.processStart remoteNetworkId startInputDeviceId))
        else (false, s)

/-- `StopInputDeviceCooperate` of the current object. -/
def objectStop (env : Surroundings) (s : CooperateSM) (networkId : String) : Bool × CooperateSM :=
  match s.current.kind with
  | .stateFree => (false, s)
  | .stateIn =>
      let r := s.send env networkId .stopRemoteCooperate
      if r.1 then (true, r.2.post ⟨s.current, s.nextAttempt⟩ (.processStop ""))
      else (false, s)
  | .stateOut =>
      let srcNetworkId := if networkId.isEmpty then s.preparedNetworkId.1 else networkId
      let r := s.send env networkId .stopRemoteCooperate
      if r.1 then (true, r.2.post ⟨s.current, s.nextAttempt⟩ (.processStop srcNetworkId))
      else (false, s)

/-! ## Calls into the machine -/

/-- `StartInputDeviceCooperate`: if `RET_OK` is returned. -/
def startInputDeviceCooperate (env : Surroundings) (s : CooperateSM) (remoteNetworkId : String)
    (startInputDeviceId : Int32) : Bool × CooperateSM :=
  if s.isStarting then (false, s)
  else
    let r := { s with isStarting := true }.objectStart env remoteNetworkId startInputDeviceId
    if !r.1 then (false, { r.2 with isStarting := false })
    else
      let s : CooperateSM := { r.2 with
        nextAttempt := s.nextAttempt + 1
        mouseLocation := env.mouseLocation.getD s.mouseLocation }
      (true,
        if s.cooperateState = .stateFree then { s with srcNetworkId := remoteNetworkId } else s)

/-- A stop of the current object, with the flag set. -/
def stopCurrent (env : Surroundings) (s : CooperateSM) (networkId : String) : Bool × CooperateSM :=
  let r := { s with isStopping := true }.objectStop env networkId
  if !r.1 then (false, { r.2 with isStopping := false })
  else (true, { r.2 with nextAttempt := s.nextAttempt + 1 })

def stopInputDeviceCooperate (env : Surroundings) (s : CooperateSM) : Bool × CooperateSM :=
  if s.isStopping then (false, s)
  else
    match s.cooperateState with
    | .stateIn => s.stopCurrent env (env.getOriginNetworkIdOf s.startDhid)
    | .stateOut => s.stopCurrent env s.srcNetworkId
    | .stateFree => s.stopCurrent env ""

/-- `CheckPointerEvent`, for an event of the device. A mouse that has no part
in the cooperation ends it. -/
def checkPointerEvent (env : Surroundings) (s : CooperateSM) (deviceId : Int32)
    (isRemote : Bool) : CooperateSM :=
  if s.isStopping ∨ s.isStarting then s
  else
    match s.cooperateState with
    | .stateIn =>
        if isRemote then s else (s.stopCurrent env (env.getOriginNetworkIdOf s.startDhid)).2
    | .stateOut =>
        if s.startDhid ≠ env.getDhid deviceId then (s.stopCurrent env s.srcNetworkId).2 else s
    | .stateFree => s

def startRemoteCooperate (s : CooperateSM) : CooperateSM := { s with isStarting := true }

def startRemoteCooperateResult (s : CooperateSM) (isSuccess : Bool)
    (startDhid : String) : CooperateSM :=
  if !s.isStarting then s
  else
    let s := { s with startDhid }
    if !isSuccess ∨ s.cooperateState = .stateIn then { s with isStarting := false }
    else
      let s := if s.cooperateState = .stateFree then s.updateState .stateIn else s
      let s := if s.cooperateState = .stateOut then s.updateState .stateFree else s
      { s with isStarting := false }

def stopRemoteCooperate (s : CooperateSM) : CooperateSM := { s with isStopping := true }

def stopRemoteCooperateResult (s : CooperateSM) (isSuccess : Bool) :
    CooperateSM :=
  if !s.isStopping then s
  else
    let s := if isSuccess then s.reset else s
    { s with isStopping := false }

def startCooperateOtherResult (s : CooperateSM) (srcNetworkId : String) : CooperateSM :=
  { s with srcNetworkId }

/-- `HandleSessionData`. No handler looks at the session. -/
def handleSessionData (s : CooperateSM) (_sessionId : Int32) :
    Message → CooperateSM
  | .startRemoteCooperate _ => s.startRemoteCooperate
  | .startRemoteCooperateResult isSuccess startDhid _ _ =>
      s.startRemoteCooperateResult isSuccess startDhid
  | .stopRemoteCooperate => s.stopRemoteCooperate
  | .stopRemoteCooperateResult isSuccess => s.stopRemoteCooperateResult isSuccess
  | .startCooperateOtherResult srcNetworkId => s.startCooperateOtherResult srcNetworkId

/-- `OnBytesReceived` -/
def onBytesReceived (s : CooperateSM) (sessionId : Int32)
    (message : Message) : CooperateSM :=
  if sessionId < 0 then s else s.handleSessionData sessionId message

def onCloseCooperation (env : Surroundings) (s : CooperateSM) (networkId : String)
    (isLocal : Bool) : CooperateSM :=
  let s :=
    if s.preparedNetworkId.1 ≠ "" ∧ s.preparedNetworkId.2 ≠ "" ∧
        (networkId = s.preparedNetworkId.1 ∨ networkId = s.preparedNetworkId.2) then
      let s :=
        if s.cooperateState ≠ .stateFree then (s.callDInput env .stopDInputCallbackSink none).2
        else s
      (s.callDInput env .unPrepareStopDInputCallbackSink none).2
    else s
  let s := { s with preparedNetworkId := ("", "") }
  if s.cooperateState = .stateFree then s
  else if isLocal ∨ networkId = s.srcNetworkId then s.reset
  else if env.getOriginNetworkIdOf s.startDhid = networkId then s.reset
  else s

def onKeyboardOnline (env : Surroundings) (s : CooperateSM) : CooperateSM :=
  match s.current.kind with
  | .stateOut => (s.callDInput env .startDInputCallbackSink none).2
  | _ => s

def onPointerOffline (env : Surroundings) (s : CooperateSM) (dhid : String) : CooperateSM :=
  match s.cooperateState with
  | .stateFree => s.reset
  | .stateIn => if s.startDhid = dhid then s.reset else s
  | .stateOut =>
      if s.startDhid = dhid then (s.callDInput env .stopDInputCallbackSink none).2.reset
      else s

/-! ## Steps -/

/-- The next task of a state object's event handler. -/
def runTask (env : Surroundings) (s : CooperateSM) (generation : Nat) : CooperateSM :=
  match s.tasks.find? fun t => t.1.object.generation = generation with
  | none => s
  | some (c, task) =>
      { s with tasks := s.tasks.eraseP fun t => t.1.object.generation = generation }.performTask
        env c task

/-- `ProcessDInputCallback`, or the timer that gives a call up. -/
def processDInputCallback (env : Surroundings) (s : CooperateSM) (type : CallbackType)
    (isSuccess : Bool) : CooperateSM :=
  match s.callbackMap type with
  | none => s
  | some callback =>
      let s := { s with callbackMap := Function.update s.callbackMap type none }
      match callback with
      | none => s
      | some (c, callback) => s.performCallback env c isSuccess callback

end CooperateSM

inductive CooperateInput where
  | startInputDeviceCooperate (remoteNetworkId : String) (startInputDeviceId : Int32)
  | stopInputDeviceCooperate
  | checkPointerEvent (deviceId : Int32) (isRemote : Bool)
  | onBytesReceived (sessionId : Int32) (message : Message)
  /-- the crossing switch of a device, or of this one, is turned off -/
  | onCloseCooperation (networkId : String) (isLocal : Bool)
  | onKeyboardOnline
  | onPointerOffline (dhid : String)
  | onDeviceOffline (networkId : String)
  /-- `OnSessionClosed`, of a session with the device -/
  | onSessionClosed (deviceId : String)
  | runTask (generation : Nat)
  | processDInputCallback (type : CallbackType) (isSuccess : Bool)

/-- A step and what is around it. -/
structure CooperateStep where
  env : Surroundings
  input : CooperateInput

def CooperateSM.step (s : CooperateSM) (i : CooperateStep) : CooperateSM :=
  match i.input with
  | .startInputDeviceCooperate remoteNetworkId startInputDeviceId =>
      (s.startInputDeviceCooperate i.env remoteNetworkId startInputDeviceId).2
  | .stopInputDeviceCooperate => (s.stopInputDeviceCooperate i.env).2
  | .checkPointerEvent deviceId isRemote => s.checkPointerEvent i.env deviceId isRemote
  | .onBytesReceived sessionId message => s.onBytesReceived sessionId message
  | .onCloseCooperation networkId isLocal => s.onCloseCooperation i.env networkId isLocal
  | .onKeyboardOnline => s.onKeyboardOnline i.env
  | .onPointerOffline dhid => s.onPointerOffline i.env dhid
  | .onDeviceOffline networkId => s.resetOf i.env networkId
  | .onSessionClosed deviceId => s.resetOf i.env deviceId
  | .runTask generation => s.runTask i.env generation
  | .processDInputCallback type isSuccess => s.processDInputCallback i.env type isSuccess

end FtMmi.InputDeviceCooperate
