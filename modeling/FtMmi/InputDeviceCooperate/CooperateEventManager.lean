/-
FtMmi.InputDeviceCooperate.CooperateEventManager — who hears of the
cooperation (`cooperate_event_manager.cpp`), and the calls of the service
that leave word with it (`mmi_service.cpp`).

Listeners are a list, requests one place for each type. An `EventInfo`
object is known by `ref`, a session by its number; what is sent is kept as
the call of `NotifyCooperateMessage` or `NotifyCooperateState`. A message is
the number of its `CooperationMessage`.

The service thread makes the object of a request, asks the state machine
and, if that refuses, has the refusal sent (`answer`). The completions of a
transition come from the thread of the state objects, and so may fall in
between.
-/
import FtMmi.Lib.StepSystem
import FtMmi.Util.Config

namespace FtMmi.InputDeviceCooperate

/-! ## The manager -/

namespace CooperateEventManager

/-- The types of `EventInfo` objects. -/
inductive EventType where
  | listener
  | enable
  | start
  | stop
  | state
  deriving DecidableEq, Repr

/-- The ids of the packets (`MmiMessageId`). -/
inductive MsgId where
  | cooperationAddListener
  | cooperationMessage
  | cooperationGetState
  deriving DecidableEq, Repr

structure EventInfo where
  ref : Nat
  type : EventType
  sess : Nat
  msgId : MsgId
  userData : Int32
  deriving DecidableEq, Repr

/-- What is written behind the user data. -/
inductive Content where
  | message (deviceId : String) (msg : Int)
  | state (state : Bool)
  deriving DecidableEq

/-- What is sent for an object. -/
structure Notification where
  ref : Nat
  sess : Nat
  msgId : MsgId
  userData : Int32
  content : Content
  deriving DecidableEq

end CooperateEventManager

open CooperateEventManager

structure CooperateEventManager where
  remoteCooperateCallbacks : List EventInfo
  cooperateCallbacks : EventType → Option EventInfo

namespace CooperateEventManager

def create : CooperateEventManager := ⟨[], fun _ => none⟩

def addCooperationEvent (m : CooperateEventManager) (event : EventInfo) : CooperateEventManager :=
  if event.type = .listener then
    { m with remoteCooperateCallbacks := m.remoteCooperateCallbacks ++ [event] }
  else { m with cooperateCallbacks := Function.update m.cooperateCallbacks event.type (some event) }

/-- The first listener of the session is erased. -/
def removeCooperationEvent (m : CooperateEventManager) (sess : Nat) : CooperateEventManager :=
  { m with remoteCooperateCallbacks :=
      m.remoteCooperateCallbacks.eraseP fun info => info.sess = sess }

/-- `NotifyCooperateMessage` and `NotifyCooperateState` -/
def notify (info : EventInfo) (content : Content) : Notification :=
  ⟨info.ref, info.sess, info.msgId, info.userData, content⟩

def onCooperateMessage (m : CooperateEventManager) (msg : Int) (deviceId : String) :
    Int × List Notification :=
  if m.remoteCooperateCallbacks.isEmpty then (retErr, [])
  else
    (retOk, m.remoteCooperateCallbacks.map fun info => notify info (.message deviceId msg))

/-- The request in the place of the type hears, and the place is free. -/
def reply (m : CooperateEventManager) (type : EventType) (content : Content) :
    List Notification × CooperateEventManager :=
  match m.cooperateCallbacks type with
  | none => ([], m)
  | some info =>
      ([notify info content],
        { m with cooperateCallbacks := Function.update m.cooperateCallbacks type none })

def onEnable (m : CooperateEventManager) (msg : Int) (deviceId : String) :
    List Notification × CooperateEventManager := m.reply .enable (.message deviceId msg)

def onStart (m : CooperateEventManager) (msg : Int) (deviceId : String) :
    List Notification × CooperateEventManager := m.reply .start (.message deviceId msg)

def onStop (m : CooperateEventManager) (msg : Int) (deviceId : String) :
    List Notification × CooperateEventManager := m.reply .stop (.message deviceId msg)

def onGetState (m : CooperateEventManager) (state : Bool) :
    List Notification × CooperateEventManager := m.reply .state (.state state)

def onErrorMessage (m : CooperateEventManager) (type : EventType) (msg : Int) :
    List Notification × CooperateEventManager := m.reply type (.message "" msg)

end CooperateEventManager

/-! ## The calls of the service -/

/-- `OnRegisterCooperateListener` -/
def listenerInfo (ref sess : Nat) : EventInfo := ⟨ref, .listener, sess, .cooperationAddListener, 0⟩

/-- The requests a client makes. -/
inductive RequestType where
  | start
  | stop
  | state
  deriving DecidableEq, Repr

def RequestType.eventType : RequestType → EventType
  | .start => .start
  | .stop => .stop
  | .state => .state

/-- `OnStartInputDeviceCooperate`, `OnStopDeviceCooperate`,
`OnGetInputDeviceCooperateState` -/
def requestInfo (ref : Nat) (type : RequestType) (sess : Nat) (userData : Int32) : EventInfo where
  ref
  type := type.eventType
  sess
  msgId :=
    match type with
    | .start | .stop => .cooperationMessage
    | .state => .cooperationGetState
  userData

/-- The rest of the call, when the state machine has returned `ret`, or the
switch of the device is `state`. -/
def answer (m : CooperateEventManager) (type : RequestType) (ret : Int) (state : Bool) :
    List Notification × CooperateEventManager :=
  match type with
  | .state => m.onGetState state
  | .start | .stop => if ret ≠ retOk then m.onErrorMessage type.eventType ret else ([], m)

end FtMmi.InputDeviceCooperate
