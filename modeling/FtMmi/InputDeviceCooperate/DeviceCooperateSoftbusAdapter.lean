/-
FtMmi.InputDeviceCooperate.DeviceCooperateSoftbusAdapter — the sessions of
the cooperation (`device_cooperate_softbus_adapter.cpp`): opening a session
and waiting for it, the callbacks of the softbus, and closing.

A step is what happens without `operationMutex_` being let go, so that a
call of `OpenInputSoftbus` is three steps or more, and the callbacks that
call `FindDevice` are two. The softbus is outside of the repository: which
ids it gives, and what it reports of sessions that it has, are inputs.
A session is closing or failing while the callback that says so is at work,
and has ended afterwards.

What is sent goes to the session that the map has for a device; the texts
are left out. The log of the calls that returned `RET_OK` and of what was
sent says of each if there was a session for it; the source has no such
logs.
-/
import FtMmi.Lib.KeyedList
import FtMmi.Util.Config

namespace FtMmi.InputDeviceCooperate.DeviceCooperateSoftbusAdapter

/-! ## The softbus -/

inductive SessionStatus where
  | opening
  | opened
  /-- `OnSessionOpened` has been called with an error. -/
  | failing
  /-- `OnSessionClosed` has been called. -/
  | closing
  | ended
  deriving DecidableEq, Repr

structure Session where
  id : Int
  peerDevId : String
  /-- `GetSessionSide` is `SESSION_SIDE_SERVER`. -/
  server : Bool
  status : SessionStatus
  /-- `WaitSessionOpend` has given it up. -/
  timedOut : Bool
  deriving DecidableEq, Repr

/-- It was opened, and its closing has not been handled. -/
def Session.established (x : Session) : Bool :=
  decide (x.status = .opened) || decide (x.status = .closing)

/-- It is open or still being opened. A session that is waited for and whose end
is being handled counts as it did before. -/
def Session.current (x : Session) : Bool :=
  match x.status with
  | .opening => !x.timedOut
  | .opened => true
  | .failing => true
  | .closing => true
  | .ended => false

/-! ## The adapter -/

/-- How far a call of `OpenInputSoftbus` is. -/
inductive OpenCall where
  /-- `CheckDeviceSessionState` has found no session. -/
  | checked (remoteDevId : String)
  /-- `OpenSession` has returned an id. -/
  | opening (remoteDevId : String) (sessionId : Int)
  /-- in `wait_for` -/
  | waiting (remoteDevId : String) (sessionId : Int)
  deriving DecidableEq, Repr

/-- A callback after `FindDevice`. -/
structure Callback where
  sessionId : Int
  deviceId : String
  /-- It is `OnSessionOpened` with an error. -/
  failed : Bool
  /-- `GetPeerDeviceId` returned `RET_OK`. -/
  peerKnown : Bool
  deriving DecidableEq, Repr

structure SoftbusAdapter where
  /-- in the order of the devices -/
  sessionDevMap : List (String × Int)
  channelStatusMap : String → Bool
  sessions : List Session
  calls : Nat → Option OpenCall
  callbacks : List Callback
  /-- for each call that returned `RET_OK`, if there was a session then -/
  returned : List (String × Bool)
  /-- for each message, if its session was open or still being opened -/
  messages : List (Int × Bool)

namespace SoftbusAdapter

def create : SoftbusAdapter := ⟨[], fun _ => false, [], fun _ => none, [], [], []⟩

def sessionOf (s : SoftbusAdapter) (devId : String) : Option Int :=
  (s.sessionDevMap.find? fun item => item.1 = devId).map Prod.snd

/-- `FindDevice`: the empty string if no device has the session. -/
def findDevice (s : SoftbusAdapter) (sessionId : Int) : String :=
  ((s.sessionDevMap.find? fun item => item.2 = sessionId).map Prod.fst).getD ""

/-- `sessionDevMap_[devId] = sessionId` -/
def setSessionOf (s : SoftbusAdapter) (devId : String) (sessionId : Int) : SoftbusAdapter :=
  { s with
    sessionDevMap := (s.sessionDevMap.filter fun item => item.1 ≠ devId).orderedInsert
      (fun a b => a.1 ≤ b.1) (devId, sessionId) }

/-- `sessionDevMap_.erase(devId)` -/
def eraseSessionOf (s : SoftbusAdapter) (devId : String) : SoftbusAdapter :=
  { s with sessionDevMap := s.sessionDevMap.filter fun item => item.1 ≠ devId }

def setChannelStatus (s : SoftbusAdapter) (devId : String) (status : Bool) : SoftbusAdapter :=
  { s with channelStatusMap := Function.update s.channelStatusMap devId status }

def session (s : SoftbusAdapter) (sessionId : Int) : Option Session :=
  s.sessions.find? fun x => x.id = sessionId

/-- What the softbus knows of a session becomes `x`. -/
def putSession (s : SoftbusAdapter) (x : Session) : SoftbusAdapter :=
  { s with sessions := x :: s.sessions.filter fun y => y.id ≠ x.id }

def modifySession (s : SoftbusAdapter) (sessionId : Int) (f : Session → Session) :
    SoftbusAdapter :=
  match s.session sessionId with
  | none => s
  | some x => s.putSession (f x)

def setStatus (s : SoftbusAdapter) (sessionId : Int) (status : SessionStatus) : SoftbusAdapter :=
  s.modifySession sessionId fun x => { x with status }

def setCall (s : SoftbusAdapter) (thread : Nat) (call : Option OpenCall) : SoftbusAdapter :=
  { s with calls := Function.update s.calls thread call }

/-- A session to the device has been opened and has not been closed since. -/
def hasSession (s : SoftbusAdapter) (devId : String) : Bool :=
  s.sessions.any fun x => decide (x.peerDevId = devId) && x.established

/-- `OpenInputSoftbus` returns `RET_OK`. -/
def returnOk (s : SoftbusAdapter) (thread : Nat) (devId : String) : SoftbusAdapter :=
  { s.setCall thread none with returned := s.returned ++ [(devId, s.hasSession devId)] }

/-! ## Opening -/

/-- `OpenInputSoftbus` up to the check for a session. -/
def openInputSoftbus (s : SoftbusAdapter) (thread : Nat) (remoteDevId : String) : SoftbusAdapter :=
  match s.calls thread with
  | some _ => s
  | none =>
      if (s.sessionOf remoteDevId).isSome then s.returnOk thread remoteDevId
      else s.setCall thread (some (.checked remoteDevId))

/-- `Init` and `OpenSession`. The softbus opens a session unless it returns a
negative number. -/
def openSession (s : SoftbusAdapter) (thread : Nat) (initialized : Bool) (sessionId : Int) :
    SoftbusAdapter :=
  match s.calls thread with
  | some (.checked remoteDevId) =>
      if !initialized || decide (sessionId < 0) then s.setCall thread none
      else
        (s.putSession ⟨sessionId, remoteDevId, false, .opening, false⟩).setCall thread
          (some (.opening remoteDevId sessionId))
  | _ => s

/-- The predicate of `wait_for`, and what follows when it holds. -/
def checkChannel (s : SoftbusAdapter) (thread : Nat) (remoteDevId : String) (sessionId : Int) :
    SoftbusAdapter :=
  if s.channelStatusMap remoteDevId then
    (s.setChannelStatus remoteDevId false).returnOk thread remoteDevId
  else s.setCall thread (some (.waiting remoteDevId sessionId))

/-- `WaitSessionOpend` until it waits. -/
def waitSessionOpend (s : SoftbusAdapter) (thread : Nat) : SoftbusAdapter :=
  match s.calls thread with
  | some (.opening remoteDevId sessionId) =>
      (s.setSessionOf remoteDevId sessionId).checkChannel thread remoteDevId sessionId
  | _ => s

/-- `wait_for` wakes up. -/
def wake (s : SoftbusAdapter) (thread : Nat) : SoftbusAdapter :=
  match s.calls thread with
  | some (.waiting remoteDevId sessionId) => s.checkChannel thread remoteDevId sessionId
  | _ => s

/-- The session is not waited for any longer. -/
def giveUp (s : SoftbusAdapter) (sessionId : Int) : SoftbusAdapter :=
  s.modifySession sessionId fun x => { x with timedOut := true }

/-- The time of `wait_for` is over. -/
def timeout (s : SoftbusAdapter) (thread : Nat) : SoftbusAdapter :=
  match s.calls thread with
  | some (.waiting remoteDevId sessionId) =>
      if s.channelStatusMap remoteDevId then s.checkChannel thread remoteDevId sessionId
      else (s.giveUp sessionId).setCall thread none
  | _ => s

/-! ## Callbacks -/

/-- `OnSessionOpened` on the client's side, without an error. -/
def onSessionOpened (s : SoftbusAdapter) (sessionId : Int) (peerKnown : Bool) : SoftbusAdapter :=
  match s.session sessionId with
  | none => s
  | some x =>
      if x.status ≠ .opening then s
      else
        let s := s.setStatus sessionId .opened
        if peerKnown then s.setChannelStatus x.peerDevId true else s

/-- `OnSessionOpened` on the server's side: a device has opened a session. -/
def onSessionOpenedServer (s : SoftbusAdapter) (sessionId : Int) (peerDevId : String)
    (peerKnown : Bool) : SoftbusAdapter :=
  let s := s.putSession ⟨sessionId, peerDevId, true, .opened, false⟩
  if peerKnown then s.setSessionOf peerDevId sessionId else s

/-- `OnSessionOpened` with an error, up to `FindDevice`. -/
def onSessionOpenFails (s : SoftbusAdapter) (sessionId : Int) (peerKnown : Bool) :
    SoftbusAdapter :=
  match s.session sessionId with
  | none => s
  | some x =>
      if x.status ≠ .opening then s
      else
        { s.setStatus sessionId .failing with
          callbacks := ⟨sessionId, s.findDevice sessionId, true, peerKnown⟩ :: s.callbacks }

/-- `OnSessionClosed` up to `FindDevice`. -/
def onSessionCloses (s : SoftbusAdapter) (sessionId : Int) : SoftbusAdapter :=
  match s.session sessionId with
  | none => s
  | some x =>
      if x.status ≠ .opened then s
      else
        { s.setStatus sessionId .closing with
          callbacks := ⟨sessionId, s.findDevice sessionId, false, true⟩ :: s.callbacks }

/-- The second half of a callback about a session. -/
def finishCallback (s : SoftbusAdapter) (x : Session) (c : Callback) : SoftbusAdapter :=
  let s := (s.setStatus c.sessionId .ended).eraseSessionOf c.deviceId
  let s := { s with callbacks := s.callbacks.erase c }
  if c.failed then
    if c.peerKnown then s.setChannelStatus x.peerDevId true else s
  else
    if !x.server then s.setChannelStatus c.deviceId false else s

def callbackEnds (s : SoftbusAdapter) (sessionId : Int) : SoftbusAdapter :=
  match s.callbacks.find? fun c => c.sessionId = sessionId, s.session sessionId with
  | some c, some x => s.finishCallback x c
  | _, _ => s

/-! ## Closing and sending -/

def closeInputSoftbus (s : SoftbusAdapter) (remoteDevId : String) : SoftbusAdapter :=
  match s.sessionOf remoteDevId with
  | none => s
  | some sessionId =>
      ((s.setStatus sessionId .ended).eraseSessionOf remoteDevId).setChannelStatus remoteDevId false

/-- What `StartRemoteCooperate` and the other messages have in common. -/
def sendMsg (s : SoftbusAdapter) (remoteDevId : String) : SoftbusAdapter :=
  match s.sessionOf remoteDevId with
  | none => s
  | some sessionId =>
      { s with
        messages := s.messages ++
          [(sessionId, ((s.session sessionId).map Session.current).getD false)] }

end SoftbusAdapter

/-! ## Runs -/

inductive SoftbusEvent where
  | openInputSoftbus (thread : Nat) (remoteDevId : String)
  | openSession (thread : Nat) (initialized : Bool) (sessionId : Int)
  | waitSessionOpend (thread : Nat)
  | wake (thread : Nat)
  | timeout (thread : Nat)
  | onSessionOpened (sessionId : Int) (peerKnown : Bool)
  | onSessionOpenedServer (sessionId : Int) (peerDevId : String) (peerKnown : Bool)
  | onSessionOpenFails (sessionId : Int) (peerKnown : Bool)
  | onSessionCloses (sessionId : Int)
  | callbackEnds (sessionId : Int)
  | closeInputSoftbus (remoteDevId : String)
  | sendMsg (remoteDevId : String)
  deriving DecidableEq, Repr

def SoftbusAdapter.step (s : SoftbusAdapter) : SoftbusEvent → SoftbusAdapter
  | .openInputSoftbus thread remoteDevId => s.openInputSoftbus thread remoteDevId
  | .openSession thread initialized sessionId => s.openSession thread initialized sessionId
  | .waitSessionOpend thread => s.waitSessionOpend thread
  | .wake thread => s.wake thread
  | .timeout thread => s.timeout thread
  | .onSessionOpened sessionId peerKnown => s.onSessionOpened sessionId peerKnown
  | .onSessionOpenedServer sessionId peerDevId peerKnown =>
      s.onSessionOpenedServer sessionId peerDevId peerKnown
  | .onSessionOpenFails sessionId peerKnown => s.onSessionOpenFails sessionId peerKnown
  | .onSessionCloses sessionId => s.onSessionCloses sessionId
  | .callbackEnds sessionId => s.callbackEnds sessionId
  | .closeInputSoftbus remoteDevId => s.closeInputSoftbus remoteDevId
  | .sendMsg remoteDevId => s.sendMsg remoteDevId

end FtMmi.InputDeviceCooperate.DeviceCooperateSoftbusAdapter
