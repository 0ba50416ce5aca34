/-
FtMmi.InputDeviceCooperate.CooperateLocks — the mutexes of device
cooperation and the order in which its entry points take them.

Each function of the state machine, of its state objects and of the three
adapters is the sequence of lock operations it performs; what decides
between two sequences (a transition already going on, a failed call of the
remote kit, an empty id) is a parameter. Functions that take no lock are
left out, and so are the destructors. None of the mutexes is recursive.

* `EntryPoint` — what a thread may run: a call from the service, a posted
  task, or a callback of the soft bus, of the input kit, of the profile
  service or of the timer.
* `EntryPoint.Inverts` — the three callbacks that call into the state
  machine with an adapter's mutex held.
* `never_deadlock_of_compatible` — runs in which no such callback meets a
  call that takes the same two mutexes the other way round never deadlock.
-/
import FtMmi.Lib.LockOrder

namespace FtMmi.InputDeviceCooperate.CooperateLocks

open FtMmi.Lib FtMmi.Lib.LockOrder

/-! ## The mutexes -/

/-- The mutexes the entry points take. -/
inductive Mutex where
  /-- `InputDeviceCooperateSM::mutex_` -/
  | stateMachine
  /-- `DeviceCooperateSoftbusAdapter::operationMutex_` -/
  | operation
  /-- `DistributedInputAdapter::adapterLock_` -/
  | dinputAdapter
  /-- `DeviceProfileAdapter::adapterLock_` -/
  | profileAdapter
  /-- `CooperateEventManager::lock_` -/
  | eventManager
  /-- `DelegateTasks::mux_` -/
  | delegateTasks
  /-- `EventDispatchHandler::lock_` -/
  | eventDispatch
  deriving DecidableEq

instance : Fintype Mutex where
  elems := {.stateMachine, .operation, .dinputAdapter, .profileAdapter, .eventManager,
    .delegateTasks, .eventDispatch}
  complete m := by cases m <;> decide

/-- What a function does to the mutexes. -/
abbrev Locks := List (LockOp Mutex)

/-- A call of the event manager: `OnStart`, `OnStop`, `OnGetState`,
`OnCooperateMessage`. -/
def cooperateEvent : Locks := guarded .eventManager []

/-- `PostAsyncTask` of `OnCooperateMessage`: run at once on the worker thread,
queued from any other. -/
def delegateCooperateMessage (onWorker : Bool) : Locks :=
  if onWorker then cooperateEvent else guarded .delegateTasks []

/-! ## The adapters, as the state machine calls them -/

namespace DeviceCooperateSoftbusAdapter

def checkDeviceSessionState : Locks := guarded .operation []

def waitSessionOpend (wakeUps : Nat) : Locks := guarded .operation (waits .operation wakeUps)

/-- It waits unless the session is open already, or cannot be opened. -/
def openInputSoftbus (waited : Option Nat) : Locks :=
  match waited with
  | none => checkDeviceSessionState
  | some wakeUps => checkDeviceSessionState ++ waitSessionOpend wakeUps

def closeInputSoftbus : Locks := guarded .operation []

def startRemoteCooperate : Locks := guarded .operation []

def startRemoteCooperateResult : Locks := guarded .operation []

def stopRemoteCooperate : Locks := guarded .operation []

def stopRemoteCooperateResult : Locks := guarded .operation []

def startCooperateOtherResult : Locks := guarded .operation []

def findDevice : Locks := guarded .operation []

def release : Locks := guarded .operation []

end DeviceCooperateSoftbusAdapter

namespace DistributedInputAdapter

def saveCallback : Locks := guarded .dinputAdapter []

def prepareRemoteInput : Locks := saveCallback

def unPrepareRemoteInput : Locks := saveCallback

def startRemoteInput : Locks := saveCallback

def stopRemoteInput : Locks := saveCallback

def registerEventCallback : Locks := guarded .dinputAdapter []

/-- The dispatcher keeps the event under a mutex of its own. -/
def onSimulationEvent (registered : Bool) : Locks :=
  guarded .dinputAdapter (if registered then guarded .eventDispatch [] else [])

end DistributedInputAdapter

namespace DeviceProfileAdapter

def registerCrossingStateListener (emptyId : Bool) : Locks :=
  if emptyId then [] else guarded .profileAdapter []

def unregisterCrossingStateListener (emptyId : Bool) : Locks :=
  if emptyId then [] else guarded .profileAdapter []

end DeviceProfileAdapter

/-! ## The state machine -/

namespace InputDeviceCooperateSM

/-- The functions that only read or write the machine's own fields:
`Reset(networkId)`, `StopRemoteCooperate`, `StopRemoteCooperateResult`,
`StartCooperateOtherResult`, `GetCurrentCooperateState`,
`UpdatePreparedDevices`, `IsStarting`, `IsStopping`, `Dump`. -/
def ownFields : Locks := guarded .stateMachine []

def reset : Locks := ownFields

def updatePreparedDevices : Locks := ownFields

def isStarting : Locks := ownFields

def isStopping : Locks := ownFields

/-- `stops`, `unPrepares`: the devices of the closed network are prepared, and
the machine is not free. -/
def onCloseCooperation (stops unPrepares : Bool) : Locks :=
  guarded .stateMachine
    ((if stops then DistributedInputAdapter.stopRemoteInput else []) ++
      if unPrepares then DistributedInputAdapter.unPrepareRemoteInput else [])

def onCooperateChanged (onWorker isOpen stops unPrepares : Bool) : Locks :=
  delegateCooperateMessage onWorker ++ if isOpen then [] else onCloseCooperation stops unPrepares

def enableInputDeviceCooperate (enabled stops unPrepares : Bool) : Locks :=
  if enabled then [] else onCloseCooperation stops unPrepares

def getCooperateState : Locks := cooperateEvent

/-- `requests`: the machine is free or in, and the ids are good. -/
def startInputDeviceCooperate (starting : Bool) (waited : Option Nat) (requests : Bool) : Locks :=
  guarded .stateMachine
    (if starting then []
    else DeviceCooperateSoftbusAdapter.openInputSoftbus waited ++
      if requests then DeviceCooperateSoftbusAdapter.startRemoteCooperate else [])

/-- `requests`: the machine is in or out. -/
def stopInputDeviceCooperate (stopping requests : Bool) : Locks :=
  guarded .stateMachine
    (if stopping then []
    else if requests then DeviceCooperateSoftbusAdapter.stopRemoteCooperate else [])

def startRemoteCooperate (onWorker : Bool) : Locks :=
  guarded .stateMachine (delegateCooperateMessage onWorker)

def startRemoteCooperateResult (starting onWorker : Bool) : Locks :=
  guarded .stateMachine (if starting then delegateCooperateMessage onWorker else [])

/-- `relays`: the machine is in, and the device started is another machine's
than the requester's. -/
def onStartFinish (starting isSuccess relays : Bool) : Locks :=
  guarded .stateMachine
    (if starting then
      DeviceCooperateSoftbusAdapter.startRemoteCooperateResult ++ cooperateEvent ++
        if isSuccess && relays then DeviceCooperateSoftbusAdapter.startCooperateOtherResult else []
    else [])

def onStopFinish (stopping : Bool) : Locks :=
  guarded .stateMachine
    (if stopping then
      DeviceCooperateSoftbusAdapter.stopRemoteCooperateResult ++ cooperateEvent ++
        DeviceCooperateSoftbusAdapter.closeInputSoftbus
    else [])

/-- `isOut`: the state object is the one of STATE_OUT. -/
def onKeyboardOnline (isOut : Bool) : Locks :=
  guarded .stateMachine (if isOut then DistributedInputAdapter.startRemoteInput else [])

/-- `startedHere`: the machine is out with the device that went away. -/
def onPointerOffline (startedHere : Bool) : Locks :=
  guarded .stateMachine (if startedHere then DistributedInputAdapter.stopRemoteInput else [])

/-- `stops`: the event is of a device that ends the cooperation. -/
def checkPointerEvent (stops : Bool) : Locks :=
  guarded .stateMachine (if stops then DeviceCooperateSoftbusAdapter.stopRemoteCooperate else [])

def onDeviceOnline (emptyId : Bool) : Locks :=
  guarded .stateMachine (DeviceProfileAdapter.registerCrossingStateListener emptyId)

def onDeviceOffline (emptyId : Bool) : Locks :=
  DeviceProfileAdapter.unregisterCrossingStateListener emptyId ++ reset ++ ownFields

end InputDeviceCooperateSM

/-! ## The state objects -/

open InputDeviceCooperateSM

/-- What the state objects leave with the distributed-input adapter, and what
the adapter or its timer calls. -/
inductive Callback where
  | onPrepareDistributedInput
  | onStartRemoteInput
  /-- of the state object of STATE_IN -/
  | onStopRemoteInputIn
  /-- of the state object of STATE_OUT -/
  | onStopRemoteInputOut
  /-- the empty closures the state machine passes itself -/
  | ignored
  deriving DecidableEq

instance : Fintype Callback where
  elems := {.onPrepareDistributedInput, .onStartRemoteInput, .onStopRemoteInputIn,
    .onStopRemoteInputOut, .ignored}
  complete cb := by cases cb <;> decide

/-- A successful answer is posted on; only a failed preparation and the stop of
STATE_IN go back to the state machine at once. -/
def Callback.locks (starting isSuccess : Bool) : Callback → Locks
  | .onPrepareDistributedInput =>
      if isSuccess then [] else updatePreparedDevices ++ onStartFinish starting false false
  | .onStopRemoteInputIn => if starting then isStarting else isStarting ++ isStopping
  | .onStartRemoteInput | .onStopRemoteInputOut | .ignored => []

/-- What a call of the remote kit after `SaveCallback` brings about. -/
def failing (fails : Bool) (p : Locks) : Locks := if fails then p else []

def startRemoteInput (noDevice starting fails : Bool) : Locks :=
  if noDevice then onStartFinish starting false false
  else DistributedInputAdapter.startRemoteInput ++ failing fails (onStartFinish starting false false)

/-- When `StartRemoteInput` fails it has called `OnStartFinish` itself; the
second call (`again`) takes effect if a new attempt has begun meanwhile. -/
def prepareAndStart (needPrepare noDevice starting fails again : Bool) : Locks :=
  if needPrepare then
    updatePreparedDevices ++ DistributedInputAdapter.prepareRemoteInput ++
      failing fails (onStartFinish starting false false ++ updatePreparedDevices)
  else
    startRemoteInput noDevice starting fails ++
      failing (noDevice || fails) (onStartFinish again false false)

/-- `StopRemoteInput` of STATE_IN, as `relay_stop_task` runs it. -/
def relayStop (starting fails : Bool) : Locks :=
  DistributedInputAdapter.stopRemoteInput ++ failing fails (onStartFinish starting false false)

/-- `ComeBack` goes on to the kit when it has no device. -/
def comeBack (noDevice starting fails again : Bool) : Locks :=
  failing noDevice (onStartFinish starting false false) ++
    (DistributedInputAdapter.stopRemoteInput ++ failing fails (onStartFinish again false false))

/-- `ProcessStop` of STATE_IN (which never asks for a device) and of
STATE_OUT. -/
def processStop (noDevice stopping fails again : Bool) : Locks :=
  failing noDevice (onStopFinish stopping) ++
    (DistributedInputAdapter.stopRemoteInput ++ failing fails (onStopFinish again))

/-! ## The callbacks of the adapters -/

namespace DeviceCooperateSoftbusAdapter

def onSessionOpened (failed : Bool) : Locks :=
  if failed then findDevice ++ guarded .operation [] else guarded .operation []

/-- The state machine is reset with `operationMutex_` held. -/
def onSessionClosed : Locks := findDevice ++ guarded .operation reset

end DeviceCooperateSoftbusAdapter

namespace DistributedInputAdapter

/-- The callback of the map, if there is one, is called with `adapterLock_`
held. -/
def processDInputCallback (callback : Option Callback) (starting isSuccess : Bool) : Locks :=
  guarded .dinputAdapter (callback.elim [] (Callback.locks starting isSuccess))

/-- The closure of `AddTimer` calls the callback without the mutex. -/
def onTimer (callback : Option Callback) (starting : Bool) : Locks :=
  callback.elim [] (Callback.locks starting false)

end DistributedInputAdapter

namespace DeviceProfileAdapter

/-- The listener, if there is one, is called with `adapterLock_` held. -/
def onProfileChanged (listens onWorker isOpen stops unPrepares : Bool) : Locks :=
  guarded .profileAdapter
    (if listens then onCooperateChanged onWorker isOpen stops unPrepares else [])

end DeviceProfileAdapter

/-! ## What a thread may run -/

/-- The entry points and callbacks, each with what decides its branches. -/
inductive EntryPoint where
  -- the state machine: from the service, the device manager, the hardware
  -- manager, and `OnBytesReceived`
  | ownFields
  | onCloseCooperation (stops unPrepares : Bool)
  | onCooperateChanged (onWorker isOpen stops unPrepares : Bool)
  | enableInputDeviceCooperate (enabled stops unPrepares : Bool)
  | getCooperateState
  | startInputDeviceCooperate (starting : Bool) (waited : Option Nat) (requests : Bool)
  | stopInputDeviceCooperate (stopping requests : Bool)
  | startRemoteCooperate (onWorker : Bool)
  | startRemoteCooperateResult (starting onWorker : Bool)
  | onStartFinish (starting isSuccess relays : Bool)
  | onStopFinish (stopping : Bool)
  | onKeyboardOnline (isOut : Bool)
  | onPointerOffline (startedHere : Bool)
  | checkPointerEvent (stops : Bool)
  | onDeviceOnline (emptyId : Bool)
  | onDeviceOffline (emptyId : Bool)
  -- the tasks of the state objects
  | startRemoteInput (noDevice starting fails : Bool)
  | prepareAndStart (needPrepare noDevice starting fails again : Bool)
  | relayStop (starting fails : Bool)
  | comeBack (noDevice starting fails again : Bool)
  | processStop (noDevice stopping fails again : Bool)
  -- the softbus adapter
  | openInputSoftbus (waited : Option Nat)
  | closeInputSoftbus
  /-- `StartRemoteCooperate`, `StopRemoteCooperate` and the three results -/
  | sendCommand
  | release
  | onSessionOpened (failed : Bool)
  | onSessionClosed
  -- the distributed-input adapter
  /-- every call that saves a callback -/
  | saveCallback
  | registerEventCallback
  | onSimulationEvent (registered : Bool)
  | processDInputCallback (callback : Option Callback) (starting isSuccess : Bool)
  | onTimer (callback : Option Callback) (starting : Bool)
  -- the device-profile adapter
  | registerCrossingStateListener (emptyId : Bool)
  | unregisterCrossingStateListener (emptyId : Bool)
  | onProfileChanged (listens onWorker isOpen stops unPrepares : Bool)
  deriving DecidableEq

/-- The lock operations of an entry point. -/
def EntryPoint.locks : EntryPoint → Locks
  | .ownFields => InputDeviceCooperateSM.ownFields
  | .onCloseCooperation a b => InputDeviceCooperateSM.onCloseCooperation a b
  | .onCooperateChanged a b c d => InputDeviceCooperateSM.onCooperateChanged a b c d
  | .enableInputDeviceCooperate a b c => InputDeviceCooperateSM.enableInputDeviceCooperate a b c
  | .getCooperateState => InputDeviceCooperateSM.getCooperateState
  | .startInputDeviceCooperate a w b => InputDeviceCooperateSM.startInputDeviceCooperate a w b
  | .stopInputDeviceCooperate a b => InputDeviceCooperateSM.stopInputDeviceCooperate a b
  | .startRemoteCooperate a => InputDeviceCooperateSM.startRemoteCooperate a
  | .startRemoteCooperateResult a b => InputDeviceCooperateSM.startRemoteCooperateResult a b
  | .onStartFinish a b c => InputDeviceCooperateSM.onStartFinish a b c
  | .onStopFinish a => InputDeviceCooperateSM.onStopFinish a
  | .onKeyboardOnline a => InputDeviceCooperateSM.onKeyboardOnline a
  | .onPointerOffline a => InputDeviceCooperateSM.onPointerOffline a
  | .checkPointerEvent a => InputDeviceCooperateSM.checkPointerEvent a
  | .onDeviceOnline a => InputDeviceCooperateSM.onDeviceOnline a
  | .onDeviceOffline a => InputDeviceCooperateSM.onDeviceOffline a
  | .startRemoteInput a b c => CooperateLocks.startRemoteInput a b c
  | .prepareAndStart a b c d e => CooperateLocks.prepareAndStart a b c d e
  | .relayStop a b => CooperateLocks.relayStop a b
  | .comeBack a b c d => CooperateLocks.comeBack a b c d
  | .processStop a b c d => CooperateLocks.processStop a b c d
  | .openInputSoftbus w => DeviceCooperateSoftbusAdapter.openInputSoftbus w
  | .closeInputSoftbus => DeviceCooperateSoftbusAdapter.closeInputSoftbus
  | .sendCommand => DeviceCooperateSoftbusAdapter.startRemoteCooperate
  | .release => DeviceCooperateSoftbusAdapter.release
  | .onSessionOpened a => DeviceCooperateSoftbusAdapter.onSessionOpened a
  | .onSessionClosed => DeviceCooperateSoftbusAdapter.onSessionClosed
  | .saveCallback => DistributedInputAdapter.saveCallback
  | .registerEventCallback => DistributedInputAdapter.registerEventCallback
  | .onSimulationEvent a => DistributedInputAdapter.onSimulationEvent a
  | .processDInputCallback cb a b => DistributedInputAdapter.processDInputCallback cb a b
  | .onTimer cb a => DistributedInputAdapter.onTimer cb a
  | .registerCrossingStateListener a => DeviceProfileAdapter.registerCrossingStateListener a
  | .unregisterCrossingStateListener a => DeviceProfileAdapter.unregisterCrossingStateListener a
  | .onProfileChanged a b c d e => DeviceProfileAdapter.onProfileChanged a b c d e

/-! ## How the mutexes nest -/

def Mutex.IsAdapter (m : Mutex) : Bool :=
  m == .operation || m == .dinputAdapter || m == .profileAdapter

/-- Nothing is acquired under these. -/
def Mutex.IsLeaf (m : Mutex) : Bool :=
  m == .eventManager || m == .delegateTasks || m == .eventDispatch

/-- The shapes a nesting may have beside the others of its call: the state
machine around an adapter, an adapter around the state machine, an adapter
around another with the state machine between them, or a leaf inside. -/
def Shaped (ns : List (Mutex × Mutex)) (pr : Mutex × Mutex) : Prop :=
  (pr.1 = .stateMachine ∧ pr.2.IsAdapter) ∨
  (pr.1.IsAdapter ∧ pr.2 = .stateMachine) ∨
  (pr.1.IsAdapter ∧ pr.2.IsAdapter ∧ (pr.1, .stateMachine) ∈ ns ∧ (.stateMachine, pr.2) ∈ ns) ∨
  (pr.1.IsLeaf = false ∧ pr.2.IsLeaf)

instance (ns : List (Mutex × Mutex)) (pr : Mutex × Mutex) : Decidable (Shaped ns pr) := by
  unfold Shaped; infer_instance

theorem heldAfter_openInputSoftbus (held : List Mutex) (waited : Option Nat) :
    heldAfter held (DeviceCooperateSoftbusAdapter.openInputSoftbus waited) = held := by
  cases waited with
  | none => exact heldAfter_guarded rfl
  | some n =>
    simp only [DeviceCooperateSoftbusAdapter.openInputSoftbus, heldAfter_append,
      DeviceCooperateSoftbusAdapter.checkDeviceSessionState,
      DeviceCooperateSoftbusAdapter.waitSessionOpend]
    rw [heldAfter_guarded (heldAfter_waits _ _ n)]
    exact heldAfter_guarded rfl

/-- Waiting for a session nests `operationMutex_` under what is held around
the wait. -/
theorem mem_nestings_openInputSoftbus {held : List Mutex} {waited : Option Nat}
    {pr : Mutex × Mutex}
    (h : pr ∈ nestings held (DeviceCooperateSoftbusAdapter.openInputSoftbus waited)) :
    ∃ a ∈ held, pr = (a, .operation) := by
  have hout : pr ∈ held.map fun a => (a, Mutex.operation) := by
    cases waited with
    | none =>
      simpa [DeviceCooperateSoftbusAdapter.openInputSoftbus, nestings_guarded, nestings,
        DeviceCooperateSoftbusAdapter.checkDeviceSessionState] using h
    | some n =>
      simp only [DeviceCooperateSoftbusAdapter.openInputSoftbus, nestings_append,
        DeviceCooperateSoftbusAdapter.checkDeviceSessionState, nestings_guarded,
        DeviceCooperateSoftbusAdapter.waitSessionOpend, nestings, List.append_nil,
        List.mem_append] at h
      rw [heldAfter_guarded rfl] at h
      rcases h with h | h | h
      · exact h
      · exact h
      · exact mem_nestings_waits h
  obtain ⟨a, ha, rfl⟩ := List.mem_map.mp hout
  exact ⟨a, ha, rfl⟩

/-- A start, however often its wait wakes up, nests only `operationMutex_`
under the state machine's mutex. -/
theorem mem_nestings_startInputDeviceCooperate {starting requests : Bool} {waited : Option Nat}
    {pr : Mutex × Mutex}
    (h : pr ∈ nestings []
      (InputDeviceCooperateSM.startInputDeviceCooperate starting waited requests)) :
    pr = (.stateMachine, .operation) := by
  simp only [InputDeviceCooperateSM.startInputDeviceCooperate, nestings_guarded, List.map_nil,
    List.nil_append] at h
  cases starting with
  | true => simp [nestings] at h
  | false =>
    simp only [Bool.false_eq_true, if_false, nestings_append, List.mem_append,
      heldAfter_openInputSoftbus] at h
    rcases h with h | h
    · obtain ⟨a, ha, rfl⟩ := mem_nestings_openInputSoftbus h
      simp only [List.mem_singleton] at ha
      rw [ha]
    · cases requests with
      | true => simpa [DeviceCooperateSoftbusAdapter.startRemoteCooperate, nestings_guarded,
          nestings] using h
      | false => simp [nestings] at h

/-- What the lock operations of every entry point are like. -/
structure WellLocked (p : Locks) : Prop where
  balanced : heldAfter [] p = []
  shaped : ∀ pr ∈ nestings [] p, Shaped (nestings [] p) pr
  oneWay : ∀ pr ∈ nestings [] p, pr.swap ∉ nestings [] p

instance (p : Locks) : Decidable (WellLocked p) :=
  decidable_of_iff
    (heldAfter [] p = [] ∧ (∀ pr ∈ nestings [] p, Shaped (nestings [] p) pr) ∧
      ∀ pr ∈ nestings [] p, pr.swap ∉ nestings [] p)
    ⟨fun h => ⟨h.1, h.2.1, h.2.2⟩, fun h => ⟨h.1, h.2, h.3⟩⟩

theorem EntryPoint.wellLocked (e : EntryPoint) : WellLocked e.locks := by
  cases e with
  | startInputDeviceCooperate starting waited requests =>
    refine ⟨heldAfter_guarded ?_, fun pr h => ?_, fun pr h hswap => ?_⟩
    · cases starting with
      | true => rfl
      | false =>
        simp only [Bool.false_eq_true, if_false, heldAfter_append, heldAfter_openInputSoftbus]
        cases requests <;> rfl
    · rw [mem_nestings_startInputDeviceCooperate h]
      exact .inl ⟨rfl, rfl⟩
    · rw [mem_nestings_startInputDeviceCooperate h] at hswap
      have := mem_nestings_startInputDeviceCooperate hswap
      simp at this
  | openInputSoftbus waited =>
    have hnone : ∀ pr, pr ∉ nestings [] (DeviceCooperateSoftbusAdapter.openInputSoftbus waited) := by
      intro pr h
      obtain ⟨a, ha, -⟩ := mem_nestings_openInputSoftbus h
      simp at ha
    exact ⟨heldAfter_openInputSoftbus [] waited, fun pr h => (hnone pr h).elim,
      fun pr h => (hnone pr h).elim⟩
  | _ => decide +kernel +revert

/-! ## Calls against the order of the state machine -/

/-- The entry point takes the adapter's mutex under the state machine's. -/
def EntryPoint.Nests (e : EntryPoint) (m : Mutex) : Prop :=
  (Mutex.stateMachine, m) ∈ nestings [] e.locks

/-- The entry point takes the state machine's mutex under the adapter's. -/
def EntryPoint.Inverts (e : EntryPoint) (m : Mutex) : Prop :=
  (m, Mutex.stateMachine) ∈ nestings [] e.locks

instance (e : EntryPoint) (m : Mutex) : Decidable (e.Nests m) :=
  inferInstanceAs (Decidable (_ ∈ nestings [] e.locks))

instance (e : EntryPoint) (m : Mutex) : Decidable (e.Inverts m) :=
  inferInstanceAs (Decidable (_ ∈ nestings [] e.locks))

/-- A closed session, an answer of the input kit whose callback goes back to
the state machine at once, and a crossing switch reported off. -/
theorem inverts_iff (e : EntryPoint) (m : Mutex) :
    e.Inverts m ↔
      (m = .operation ∧ e = .onSessionClosed) ∨
      (m = .dinputAdapter ∧ ∃ starting isSuccess,
        e = .processDInputCallback (some .onStopRemoteInputIn) starting isSuccess ∨
        e = .processDInputCallback (some .onPrepareDistributedInput) starting false) ∨
      (m = .profileAdapter ∧ ∃ onWorker stops unPrepares,
        e = .onProfileChanged true onWorker false stops unPrepares) := by
  cases e with
  | startInputDeviceCooperate starting waited requests =>
    constructor
    · intro h
      have := mem_nestings_startInputDeviceCooperate h
      simp at this
    · simp
  | openInputSoftbus waited =>
    constructor
    · intro h
      obtain ⟨a, ha, -⟩ := mem_nestings_openInputSoftbus h
      simp at ha
    · simp
  | _ => decide +kernel +revert

/-- Two calls are compatible unless one goes into the state machine under an
adapter's mutex that the other takes under the machine's. -/
theorem compatible_iff (e e' : EntryPoint) :
    Compatible EntryPoint.locks e e' ↔
      ∀ m, ¬ (e.Inverts m ∧ e'.Nests m) ∧ ¬ (e.Nests m ∧ e'.Inverts m) := by
  constructor
  · intro h m
    exact ⟨fun hm => h _ hm.1 hm.2, fun hm => h _ hm.1 hm.2⟩
  · rintro h ⟨a, b⟩ hpr hswap
    have hshape := e.wellLocked.shaped _ hpr
    have hshape' := e'.wellLocked.shaped _ hswap
    rcases hshape with ⟨rfl, -⟩ | ⟨-, rfl⟩ | ⟨ha, hb, hinv, hnest⟩ | ⟨ha, hb⟩
    · exact (h b).2 ⟨hpr, hswap⟩
    · exact (h a).1 ⟨hpr, hswap⟩
    · -- the other call nests the two adapters the other way round, through the machine too
      rcases hshape' with ⟨rfl, -⟩ | ⟨-, rfl⟩ | ⟨-, -, -, hnest'⟩ | ⟨-, hleaf⟩
      · cases hb
      · cases ha
      · exact (h a).1 ⟨hinv, hnest'⟩
      · cases a <;> simp_all [Mutex.IsAdapter, Mutex.IsLeaf]
    · -- nothing is acquired under a leaf
      rcases hshape' with ⟨rfl, -⟩ | ⟨hb', -⟩ | ⟨hb', -⟩ | ⟨hb', -⟩
      · cases hb
      all_goals cases b <;> simp_all [Mutex.IsAdapter, Mutex.IsLeaf]

/-! ## When cooperation cannot deadlock -/

section

variable {T : Type*} [DecidableEq T]

/-- The entry point meets no call in progress that takes the same two
mutexes in the other order. -/
def Met (s : State Mutex EntryPoint T) : Event EntryPoint T → Prop
  | .enter _ e => ∀ t', s.rest t' ≠ [] → ∀ e' ∈ s.call t',
      ∀ m, ¬ (e.Inverts m ∧ e'.Nests m) ∧ ¬ (e.Nests m ∧ e'.Inverts m)
  | .next _ => True

/-- The order of the mutexes beside calls of which those of `inverted` go into
the state machine: the adapters they hold, the machine, the other adapters,
the leaves. -/
def rank (inverted : Mutex → Prop) [DecidablePred inverted] (m : Mutex) : Nat :=
  if m.IsLeaf then 3
  else if m = .stateMachine then 1
  else if inverted m then 0 else 2

/-- Calls that are compatible with each other agree on an order. -/
theorem exists_rank (es : Set EntryPoint)
    (hes : ∀ e ∈ es, ∀ e' ∈ es, Compatible EntryPoint.locks e e') :
    ∃ r : Mutex → Nat, ∀ e ∈ es, ∀ pr ∈ nestings [] e.locks, r pr.1 < r pr.2 := by
  classical
  let inverted : Mutex → Prop := fun m => ∃ e ∈ es, e.Inverts m
  have hnests : ∀ e ∈ es, ∀ m, e.Nests m → ¬ inverted m := by
    rintro e he m hm ⟨e', he', hm'⟩
    exact ((compatible_iff e e').mp (hes e he e' he') m).2 ⟨hm, hm'⟩
  refine ⟨rank inverted, fun e he ⟨a, b⟩ hpr => ?_⟩
  have hlow : ∀ {m}, m.IsAdapter → inverted m → rank inverted m = 0 := by
    intro m hm hi
    cases m <;> simp_all [rank, Mutex.IsAdapter, Mutex.IsLeaf]
  have hhigh : ∀ {m}, m.IsAdapter → ¬ inverted m → rank inverted m = 2 := by
    intro m hm hi
    cases m <;> simp_all [rank, Mutex.IsAdapter, Mutex.IsLeaf]
  have hmachine : rank inverted .stateMachine = 1 := rfl
  rcases e.wellLocked.shaped _ hpr with ⟨rfl, hb⟩ | ⟨ha, rfl⟩ | ⟨ha, hb, hinv, hnest⟩ | ⟨ha, hb⟩
  · show rank inverted .stateMachine < rank inverted b
    rw [hmachine, hhigh hb (hnests e he b hpr)]
    decide
  · show rank inverted a < rank inverted .stateMachine
    rw [hmachine, hlow ha ⟨e, he, hpr⟩]
    decide
  · show rank inverted a < rank inverted b
    rw [hlow ha ⟨e, he, hinv⟩, hhigh hb (hnests e he b hnest)]
    decide
  · have hleaf : rank inverted b = 3 := if_pos hb
    have hother : rank inverted a ≤ 2 := by
      simp only [rank, show a.IsLeaf = false from ha, Bool.false_eq_true, if_false]
      split_ifs <;> omega
    show rank inverted a < rank inverted b
    omega

/-- In a run in which no callback that goes into the state machine under an
adapter's mutex meets a call that takes the two the other way round, no
state has a deadlock. -/
theorem neverDeadlock_of_met (events : List (Event EntryPoint T))
    (h : AllSteps (step EntryPoint.locks) Met State.init events) :
    Always (step EntryPoint.locks) (fun s => ¬ s.Deadlock) State.init events := by
  have hcompat : ∀ (s : State Mutex EntryPoint T) e,
      EntersCompatibly EntryPoint.locks s e ↔ Met s e := by
    intro s e
    cases e <;> simp [EntersCompatibly, Met, compatible_iff]
  exact always_not_deadlock (fun e => e.wellLocked.balanced) (fun e => e.wellLocked.oneWay) exists_rank
    ((allSteps_congr hcompat events _).mpr h)

end

instance {n : Nat} (s : State Mutex EntryPoint (Fin n)) (e : Event EntryPoint (Fin n)) :
    Decidable (Met s e) := by
  cases e <;> unfold Met <;> infer_instance

/-- A start and an answer of the kit that is only posted on, step by step
beside each other. -/
theorem neverDeadlock_of_met_start_answer :
    AllSteps (step EntryPoint.locks) Met State.init
      [.enter (0 : Fin 2) (.startInputDeviceCooperate false none true), .next 0,
       .enter 1 (.processDInputCallback (some .onStartRemoteInput) true true), .next 1, .next 0] ∧
    Always (step EntryPoint.locks) (fun s => ¬ s.Deadlock) State.init
      [.enter (0 : Fin 2) (.startInputDeviceCooperate false none true), .next 0,
       .enter 1 (.processDInputCallback (some .onStartRemoteInput) true true), .next 1,
       .next 0] :=
  ⟨by decide, neverDeadlock_of_met _ (by decide)⟩

/-- A client starts the cooperation while the soft bus closes a session: the
start holds the state machine and asks the adapter for the session, the
adapter holds its map and resets the state machine. -/
theorem counterexample_neverDeadlock :
    ¬ ∀ (T : Type) (_ : DecidableEq T) (events : List (Event EntryPoint T)),
      Always (step EntryPoint.locks) (fun s => ¬ s.Deadlock) State.init events := by
  intro h
  let events : List (Event EntryPoint (Fin 2)) :=
    [.enter 0 (.startInputDeviceCooperate false none true), .next 0,
     .enter 1 .onSessionClosed, .next 1, .next 1, .next 1]
  have h01 : (runFrom (step EntryPoint.locks) State.init events).WaitsFor 0 1 :=
    ⟨.operation, _, rfl, rfl⟩
  have h10 : (runFrom (step EntryPoint.locks) State.init events).WaitsFor 1 0 :=
    ⟨.stateMachine, _, rfl, rfl⟩
  refine (h (Fin 2) inferInstance events).last (.inl ⟨Set.univ, ⟨0, trivial⟩, fun t _ => ?_⟩)
  fin_cases t
  · exact ⟨1, trivial, by decide, h01⟩
  · exact ⟨0, trivial, by decide, h10⟩

end FtMmi.InputDeviceCooperate.CooperateLocks
