/-
FtMmi.Client.InputManagerImpl — the registrations of a client process
(`input_manager_impl.cpp`, `input_device_impl.cpp`,
`input_device_cooperate_impl.cpp`, `input_monitor_manager.cpp`,
`input_interceptor_manager.cpp`), and `OnConnected`, which asks a server
for them again (`multimodal_event_handler.cpp`).

Callbacks and listeners are known by identity and are not null; that a null
listener takes all of them away is `none`. What the server answers to a
call, and the state it is in then, come with the call. The requests that
ask for nothing to be kept (device queries, injected events) are left out.

The server has the tables that the requests of `OnConnected` go to, and
those of the registrations that it does not ask for. A layout that is sent
arrives as it is: `MessageHandle.DisplayLayout` is about the way of one.
-/
import FtMmi.Client.KeyEventInputSubscribeManager
import FtMmi.InputHandler.HandlerMasks
import FtMmi.MessageHandle.DisplayLayout

namespace FtMmi.Client

open FtMmi.InputHandler
open FtMmi.KeySubscriber
open FtMmi.Lib
open FtMmi.MessageHandle

/-! ## Listeners -/

/-- Listeners of the process, which the server knows as one: it is asked for
the first, and told when the last is gone. -/
structure ListeningProcess where
  listeners : List Nat
  isListeningProcess : Bool
  deriving DecidableEq

namespace ListeningProcess

def create : ListeningProcess := ⟨[], false⟩

def register (s : ListeningProcess) (listener : Nat) (answer : Int) : Int × ListeningProcess :=
  if listener ∈ s.listeners then (retErr, s)
  else
    let s := { s with listeners := s.listeners ++ [listener] }
    if !s.isListeningProcess then (answer, { s with isListeningProcess := true }) else (retOk, s)

def unregister (s : ListeningProcess) (listener : Option Nat) (answer : Int) :
    Int × ListeningProcess :=
  let s := { s with listeners := listener.elim [] s.listeners.erase }
  if s.isListeningProcess && s.listeners.isEmpty then
    (answer, { s with isListeningProcess := false })
  else (retOk, s)

end ListeningProcess

/-- `CHANGED_TYPE` -/
def changedType : String := "change"

/-- `InputDeviceImpl::RegisterDevListener` -/
def registerDevListener (s : ListeningProcess) (type : String) (listener : Nat) (answer : Int) :
    Int × ListeningProcess :=
  if type ≠ changedType then (retErr, s) else s.register listener answer

/-- `InputDeviceImpl::UnregisterDevListener` -/
def unregisterDevListener (s : ListeningProcess) (type : String) (listener : Option Nat)
    (answer : Int) : Int × ListeningProcess :=
  if type ≠ changedType then (retErr, s) else s.unregister listener answer

/-- `InputDeviceCooperateImpl::RegisterCooperateListener` -/
def registerCooperateListener (s : ListeningProcess) (listener : Nat) (answer : Int) :
    Int × ListeningProcess := s.register listener answer

/-- `InputDeviceCooperateImpl::UnregisterCooperateListener` -/
def unregisterCooperateListener (s : ListeningProcess) (listener : Option Nat) (answer : Int) :
    Int × ListeningProcess := s.unregister listener answer

/-! ## The client -/

structure InputManagerImpl where
  displayGroupInfo : DisplayGroupData
  /-- the pointer callback of `eventFilterService_` -/
  eventFilterService : Option Nat
  anrObservers : List Nat
  /-- `KeyEventInputSubscribeMgr` -/
  keyEvents : KeyEventInputSubscribeManager
  /-- `IMonitorMgr` and `InputInterMgr` -/
  handlers : HandlerKind → InputHandlerManager
  /-- `InputDevImpl` -/
  inputDevices : ListeningProcess
  /-- `InputDevCooperateImpl` -/
  cooperation : ListeningProcess

/-- The calls that register and unregister. -/
inductive ClientCall where
  | updateDisplayInfo (displayGroupInfo : DisplayGroupData)
  | addInputEventFilter (filter : Nat) (answer : Int)
  | setAnrObserver (observer : Nat)
  | subscribeKeyEvent (service : SubscriberService) (pid : Int) (call : SubscribeCall)
      (keyOption : KeyOption)
  | unsubscribeKeyEvent (service : SubscriberService) (pid : Int) (call : SubscribeCall)
      (subscribeId : Int32)
  | addMonitor (consumer : Nat) (answer : Int)
  | removeMonitor (monitorId : Int)
  | addInterceptor (interceptor : Nat) (answer : Int)
  | addKeyInterceptor (interceptor : Nat) (answer : Int)
  | removeInterceptor (interceptorId : Int)
  | registerDevListener (type : String) (listener : Nat) (answer : Int)
  | unregisterDevListener (type : String) (listener : Option Nat) (answer : Int)
  | registerCooperateListener (listener : Nat) (answer : Int)
  | unregisterCooperateListener (listener : Option Nat) (answer : Int)

/-- `AddHandler` -/
def addHandler (s : InputHandlerManager) (kind : HandlerKind) (consumer : Nat)
    (eventType : HandleEventType) (answer : Int) : Int × InputHandlerManager :=
  let p := s.prepareHandler kind.handlerType consumer eventType
  match p.2.1 with
  | none => (p.1, p.2.2)
  | some _ => p.2.2.finishHandler p.1 kind.handlerType answer

namespace InputManagerImpl

/-- A process that has registered nothing. -/
def create : InputManagerImpl where
  displayGroupInfo := ⟨0, 0, 0, [], []⟩
  eventFilterService := none
  anrObservers := []
  keyEvents := ⟨[], 0⟩
  handlers := fun _ => .create
  inputDevices := .create
  cooperation := .create

/-- `AddMonitor` and `AddInterceptor` -/
def addTo (s : InputManagerImpl) (kind : HandlerKind) (consumer : Nat)
    (eventType : HandleEventType) (answer : Int) : InputManagerImpl :=
  let added := (addHandler (s.handlers kind) kind consumer eventType answer).2
  { s with handlers := Function.update s.handlers kind added }

/-- `RemoveMonitor` and `RemoveInterceptor` -/
def removeFrom (s : InputManagerImpl) (kind : HandlerKind) (handlerId : Int) : InputManagerImpl :=
  let removed := ((s.handlers kind).removeHandler handlerId kind.handlerType).2
  { s with handlers := Function.update s.handlers kind removed }

/-- One call of the process. A client that is not up is started by the call,
or the call does nothing. -/
def step (s : InputManagerImpl) : ClientCall → InputManagerImpl
  | .updateDisplayInfo displayGroupInfo =>
      if acceptsDisplayInfo displayGroupInfo then { s with displayGroupInfo } else s
  | .addInputEventFilter filter answer =>
      if s.eventFilterService.isSome then { s with eventFilterService := some filter }
      else if answer ≠ retOk then { s with eventFilterService := none }
      else { s with eventFilterService := some filter }
  | .setAnrObserver observer =>
      if observer ∈ s.anrObservers then s
      else { s with anrObservers := s.anrObservers ++ [observer] }
  | .subscribeKeyEvent service pid call keyOption =>
      { s with keyEvents :=
          ((Subscription.mk s.keyEvents service).subscribeKeyEvent pid call keyOption).2.manager }
  | .unsubscribeKeyEvent service pid call subscribeId =>
      { s with keyEvents :=
          ((Subscription.mk s.keyEvents service).unsubscribeKeyEvent pid call
            subscribeId).2.manager }
  | .addMonitor consumer answer => s.addTo .monitor consumer handleEventTypeAll answer
  | .removeMonitor monitorId => s.removeFrom .monitor monitorId
  | .addInterceptor interceptor answer => s.addTo .interceptor interceptor handleEventTypeAll answer
  | .addKeyInterceptor interceptor answer =>
      s.addTo .interceptor interceptor handleEventTypeKey answer
  | .removeInterceptor interceptorId => s.removeFrom .interceptor interceptorId
  | .registerDevListener type listener answer =>
      { s with inputDevices := (Client.registerDevListener s.inputDevices type listener answer).2 }
  | .unregisterDevListener type listener answer =>
      { s with
        inputDevices := (Client.unregisterDevListener s.inputDevices type listener answer).2 }
  | .registerCooperateListener listener answer =>
      { s with cooperation := (Client.registerCooperateListener s.cooperation listener answer).2 }
  | .unregisterCooperateListener listener answer =>
      { s with
        cooperation := (Client.unregisterCooperateListener s.cooperation listener answer).2 }

end InputManagerImpl

/-! ## A new connection -/

/-- What a client asks a server for when it has connected. -/
inductive Request where
  | displayInfo (displayGroupInfo : DisplayGroupData)
  | setAnrObserver
  | subscribeKeyEvent (info : SubscribeKeyEventInfo)
  | addInputHandler (kind : HandlerKind) (eventType : HandleEventType)

namespace InputManagerImpl

/-- `InputManagerImpl::OnConnected` -/
def ownRequests (s : InputManagerImpl) : List Request :=
  if s.displayGroupInfo.windowsInfo.isEmpty || s.displayGroupInfo.displaysInfo.isEmpty then []
  else
    .displayInfo s.displayGroupInfo ::
      if s.anrObservers.isEmpty then [] else [.setAnrObserver]

/-- `InputHandlerManager::OnConnected` -/
def handlerRequests (s : InputManagerImpl) (kind : HandlerKind) : List Request :=
  if (s.handlers kind).getEventType ≠ handleEventTypeNone then
    [.addInputHandler kind (s.handlers kind).getEventType]
  else []

/-- `OnConnected` of `multimodal_event_handler.cpp` -/
def onConnected (s : InputManagerImpl) : List Request :=
  s.ownRequests ++ s.keyEvents.subscribeInfos.map .subscribeKeyEvent ++
    s.handlerRequests .monitor ++ s.handlerRequests .interceptor

end InputManagerImpl

/-! ## The server -/

/-- The registrations of all processes. -/
structure MMIService where
  /-- the sessions, and the key subscriptions -/
  service : SubscriberService
  /-- the monitors and the interceptors of the sessions -/
  handlers : HandlerKind → List SessionHandler
  /-- the sessions with a device listener -/
  devListener : List Nat
  /-- the sessions with a cooperation listener -/
  remoteCooperateCallbacks : List Nat
  anrNoticedPid : Int
  /-- the process whose filter it is -/
  filter : Option Int
  displayGroupInfo : Option DisplayGroupData

namespace MMIService

/-- A request of the process, if `RET_OK` comes back. -/
def serve (pid : Int) (call : SubscribeCall) (v : MMIService) : Request → Bool × MMIService
  | .displayInfo displayGroupInfo =>
      if !call.reaches then (false, v)
      else (call.replies, { v with displayGroupInfo := some displayGroupInfo })
  | .setAnrObserver =>
      if !call.reaches then (false, v) else (call.replies, { v with anrNoticedPid := pid })
  | .subscribeKeyEvent info =>
      let r := requestSubscribe v.service pid call info
      (r.1, { v with service := r.2 })
  | .addInputHandler kind eventType =>
      if !call.reaches then (false, v)
      else
        match v.service.server.getSessionByPid pid with
        | none => (false, v)
        | some sess =>
            let r := kind.onAddInputHandler (v.handlers kind) eventType sess.ref
            (r.1 = retOk && call.replies,
              { v with handlers := Function.update v.handlers kind r.2 })

end MMIService

end FtMmi.Client
