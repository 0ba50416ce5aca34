/-
FtMmi.KeySubscriber.KeySubscriberHandler — applications that subscribe to keys
(`key_subscriber_handler.cpp`).

A `Subscriber` object is known by `ref`; only the list of the handler holds
one, so a callback that was given a weak pointer finds the object precisely
while it is in the list. The timers of all components share one
`TimerManager`, whose clock is read once for an event.

`notified` keeps the calls of `NotifySubscriber`: the packet that is written
and sent is a function of the event, the session and the id. The event that
the handler keeps, and that a timer is started with, is a copy without lock
states (`KeyEvent.copy`), and is not written to. Null checks are left out.
-/
import FtMmi.EventHandler.KeyAutoRepeat
import FtMmi.Server.UDSServer

namespace FtMmi.KeySubscriber

open FtMmi.Event
open FtMmi.EventHandler
open FtMmi.Lib
open FtMmi.Server
open FtMmi.Timer

/-! ## Data -/

structure KeyOption where
  preKeys : Finset Int32
  finalKey : Int32
  isFinalKeyDown : Bool
  finalKeyDownDuration : Int32
  finalKeyUpDelay : Int32
  deriving DecidableEq

/-- How long the timer of a subscriber runs. -/
def KeyOption.timerDuration (keyOption : KeyOption) : Int32 :=
  if keyOption.isFinalKeyDown then keyOption.finalKeyDownDuration else keyOption.finalKeyUpDelay

structure Subscriber where
  ref : Nat
  id : Int32
  sess : Session
  keyOption : KeyOption
  timerId : Int := -1
  keyEvent : Option KeyEvent := none

/-- What the callback of a timer belongs to. -/
inductive TimerOwner where
  | subscriber (ref : Nat)
  | other (component : Nat)
  deriving DecidableEq

/-- A call of `NotifySubscriber`. -/
structure Notification where
  ref : Nat
  sess : Session
  id : Int32
  keyEvent : KeyEvent

structure KeySubscriberHandler where
  subscribers : List Subscriber
  callbackInitialized : Bool
  hasEventExecuting : Bool
  keyEvent : Option KeyEvent
  /-- `TimerMgr` -/
  timers : TimerManager TimerOwner
  /-- The objects made so far. -/
  nextRef : Nat
  notified : List Notification

def maxPreKeyCount : Nat := 4

def keyActionCancel : Int32 := 1

namespace KeySubscriberHandler

def create : KeySubscriberHandler where
  subscribers := []
  callbackInitialized := false
  hasEventExecuting := false
  keyEvent := none
  timers := .create
  nextRef := 0
  notified := []

/-- The object is written to. -/
def setSubscriber (s : KeySubscriberHandler) (subscriber : Subscriber) : KeySubscriberHandler :=
  { s with subscribers := replaceKey Subscriber.ref subscriber s.subscribers }

def notifySubscriber (s : KeySubscriberHandler) (keyEvent : KeyEvent) (subscriber : Subscriber) :
    KeySubscriberHandler :=
  { s with
    notified := s.notified ++ [⟨subscriber.ref, subscriber.sess, subscriber.id, keyEvent⟩] }

/-! ## Timers -/

def cloneKeyEvent (s : KeySubscriberHandler) (keyEvent : KeyEvent) : KeySubscriberHandler :=
  { s with keyEvent := some (s.keyEvent.getD keyEvent.copy) }

def addTimer (s : KeySubscriberHandler) (nowTime : Int) (subscriber : Subscriber)
    (keyEvent : KeyEvent) : Bool × KeySubscriberHandler :=
  if 0 ≤ subscriber.timerId then (true, s)
  else if subscriber.keyOption.timerDuration ≤ 0 then (true, s)
  else
    let s := s.cloneKeyEvent keyEvent
    let r := s.timers.addTimer nowTime subscriber.keyOption.timerDuration.toInt 1
      (some (.subscriber subscriber.ref))
    let s := { s with timers := r.2 }
    if r.1 < 0 then (false, s.setSubscriber { subscriber with timerId := r.1 })
    else
      (true,
        { s with hasEventExecuting := true }.setSubscriber
          { subscriber with timerId := r.1, keyEvent := s.keyEvent })

def clearTimer (s : KeySubscriberHandler) (subscriber : Subscriber) : KeySubscriberHandler :=
  if subscriber.timerId < 0 then s
  else
    { s with
      timers := (s.timers.removeTimer subscriber.timerId).2
      hasEventExecuting := false }.setSubscriber
        { subscriber with keyEvent := none, timerId := -1 }

def onTimer (s : KeySubscriberHandler) (subscriber : Subscriber) : KeySubscriberHandler :=
  let subscriber := { subscriber with timerId := -1 }
  match subscriber.keyEvent with
  | none => s.setSubscriber subscriber
  | some keyEvent =>
      (s.notifySubscriber keyEvent subscriber).setSubscriber { subscriber with keyEvent := none }

/-- One round of `ProcessTimers`. -/
def processNext (s : KeySubscriberHandler) (nowTime : Int) : KeySubscriberHandler :=
  let r := s.timers.processNext nowTime
  let s := { s with timers := r.2 }
  match r.1 with
  | .fired (.subscriber ref) =>
      match s.subscribers.find? fun subscriber => subscriber.ref = ref with
      | some subscriber => s.onTimer subscriber
      | none => s
  | .fired (.other _) => s
  | .idle => s
  | .dropped => s

/-! ## Loops -/

/-- The loops over the subscribers: whether one handled the event. A body may
leave the function, which then says that none did. -/
def forSubscribers
    (body : KeySubscriberHandler → Subscriber → Option (Bool × KeySubscriberHandler)) :
    Bool → List Subscriber → KeySubscriberHandler → Bool × KeySubscriberHandler
  | handled, [], s => (handled, s)
  | handled, subscriber :: subscribers, s =>
      match body s subscriber with
      | none => (false, s)
      | some r => forSubscribers body (handled || r.1) subscribers r.2

/-- The loops that go through all of them. -/
def forEach (body : KeySubscriberHandler → Subscriber → KeySubscriberHandler)
    (s : KeySubscriberHandler) : KeySubscriberHandler :=
  (forSubscribers (fun s subscriber => some (false, body s subscriber)) false s.subscribers s).2

/-! ## Subscriptions -/

/-- `ClearTimer` and `subscribers_.erase`. -/
def removeSubscriber (s : KeySubscriberHandler) (subscriber : Subscriber) :
    KeySubscriberHandler :=
  let s := s.clearTimer subscriber
  { s with subscribers := s.subscribers.eraseP fun item => item.ref = subscriber.ref }

def insertSubscriber (s : KeySubscriberHandler) (subs : Subscriber) : KeySubscriberHandler :=
  if s.subscribers.any fun item => item.id = subs.id ∧ item.sess = subs.sess then s
  else { s with subscribers := s.subscribers ++ [subs] }

def subscribeKeyEvent (s : KeySubscriberHandler) (sess : Session) (subscribeId : Int32)
    (keyOption : KeyOption) : Int × KeySubscriberHandler :=
  if subscribeId < 0 then (retErr, s)
  else if maxPreKeyCount < keyOption.preKeys.card then (retErr, s)
  else
    let subscriber : Subscriber := { ref := s.nextRef, id := subscribeId, sess, keyOption }
    let s := { s with nextRef := s.nextRef + 1 }
    (retOk, { s.insertSubscriber subscriber with callbackInitialized := true })

def unsubscribeKeyEvent (s : KeySubscriberHandler) (sess : Session) (subscribeId : Int32) :
    Int × KeySubscriberHandler :=
  match s.subscribers.find? fun item => item.id = subscribeId ∧ item.sess = sess with
  | some subscriber => (retOk, s.removeSubscriber subscriber)
  | none => (retErr, s)

def onSessionDelete (s : KeySubscriberHandler) (sess : Session) : KeySubscriberHandler :=
  s.forEach fun s subscriber =>
    if subscriber.sess = sess then s.removeSubscriber subscriber else s

def removeSubscriberKeyUpTimer (s : KeySubscriberHandler) (keyCode : Int32) :
    KeySubscriberHandler :=
  s.forEach fun s subscriber =>
    if 0 ≤ subscriber.timerId ∧ subscriber.keyOption.finalKey = keyCode then
      s.clearTimer subscriber
    else s

/-! ## Key events -/

def isPreKeysMatch (preKeys : Finset Int32) (pressedKeys : List Int32) : Bool :=
  if preKeys.card = 0 then true
  else if preKeys.card ≠ pressedKeys.length then false
  else pressedKeys.all fun pressedKey => pressedKey ∈ preKeys

/-- `IsNotifyPowerKeySubsciber` -/
def isNotifyPowerKeySubscriber (keyCode : Int32) (keyCodes : List Int32) : Bool :=
  if keyCode ≠ keyCodePower then true
  else !keyCodes.any fun pressedKey =>
    pressedKey = keyCodeVolumeDown ∨ pressedKey = keyCodeVolumeUp

/-- The body of the loop of `HandleKeyDown`. -/
def keyDown (nowTime : Int) (keyEvent : KeyEvent) (pressedKeys : List Int32)
    (s : KeySubscriberHandler) (subscriber : Subscriber) : Option (Bool × KeySubscriberHandler) :=
  let keyOption := subscriber.keyOption
  if !keyOption.isFinalKeyDown then some (false, s)
  else if keyEvent.keyCode ≠ keyOption.finalKey then some (false, s.clearTimer subscriber)
  else if !isPreKeysMatch keyOption.preKeys pressedKeys then some (false, s.clearTimer subscriber)
  else if keyOption.finalKeyDownDuration ≤ 0 then
    some (true, s.notifySubscriber keyEvent subscriber)
  else some (false, (s.addTimer nowTime subscriber keyEvent).2)

def handleKeyDown (s : KeySubscriberHandler) (nowTime : Int) (keyEvent : KeyEvent) :
    Bool × KeySubscriberHandler :=
  forSubscribers (keyDown nowTime keyEvent (keyEvent.getPressedKeys.erase keyEvent.keyCode)) false
    s.subscribers s

def handleKeyUpWithDelay (s : KeySubscriberHandler) (nowTime : Int) (keyEvent : KeyEvent)
    (subscriber : Subscriber) : KeySubscriberHandler :=
  if subscriber.keyOption.finalKeyUpDelay ≤ 0 then s.notifySubscriber keyEvent subscriber
  else (s.addTimer nowTime subscriber keyEvent).2

/-- The body of the loop of `HandleKeyUp`. -/
def keyUp (nowTime : Int) (keyEvent : KeyEvent) (pressedKeys : List Int32)
    (s : KeySubscriberHandler) (subscriber : Subscriber) : Option (Bool × KeySubscriberHandler) :=
  let keyOption := subscriber.keyOption
  if keyOption.isFinalKeyDown then some (false, s.clearTimer subscriber)
  else if keyEvent.keyCode ≠ keyOption.finalKey then some (false, s)
  else if !isPreKeysMatch keyOption.preKeys pressedKeys then some (false, s)
  else if !isNotifyPowerKeySubscriber keyOption.finalKey pressedKeys then some (false, s)
  else
    let duration := keyOption.finalKeyDownDuration
    if duration ≤ 0 then some (true, s.handleKeyUpWithDelay nowTime keyEvent subscriber)
    else
      match keyEvent.getKeyItem keyEvent.keyCode with
      | none => none
      | some keyItem =>
          if duration.toInt64 * 1000 ≤ keyEvent.actionTime - keyItem.downTime then some (false, s)
          else some (true, s.handleKeyUpWithDelay nowTime keyEvent subscriber)

def handleKeyUp (s : KeySubscriberHandler) (nowTime : Int) (keyEvent : KeyEvent) :
    Bool × KeySubscriberHandler :=
  forSubscribers (keyUp nowTime keyEvent (keyEvent.getPressedKeys.erase keyEvent.keyCode)) false
    s.subscribers s

def handleKeyCancel (s : KeySubscriberHandler) : Bool × KeySubscriberHandler :=
  (false, s.forEach clearTimer)

/-- `IsRepeatedKeyEvent`. An event that is executing has been kept. -/
def isRepeatedKeyEvent (s : KeySubscriberHandler) (keyEvent : KeyEvent) : Bool :=
  if !s.hasEventExecuting then false
  else
    match s.keyEvent with
    | none => false
    | some last =>
        if keyEvent.keyCode ≠ last.keyCode then false
        else if keyEvent.keyAction ≠ last.keyAction then false
        else if keyEvent.keys.length ≠ last.keys.length then false
        else keyEvent.keys.all fun item => last.keys.any fun item1 => item.keyCode = item1.keyCode

def onSubscribeKeyEvent (s : KeySubscriberHandler) (nowTime : Int) (keyEvent : KeyEvent) :
    Bool × KeySubscriberHandler :=
  if s.isRepeatedKeyEvent keyEvent then (true, s)
  else
    let s := { s with keyEvent := some keyEvent.copy }
    if keyEvent.keyAction = keyActionDown then s.handleKeyDown nowTime keyEvent
    else if keyEvent.keyAction = keyActionUp then
      { s with hasEventExecuting := false }.handleKeyUp nowTime keyEvent
    else if keyEvent.keyAction = keyActionCancel then
      { s with hasEventExecuting := false }.handleKeyCancel
    else (false, s)

end KeySubscriberHandler

end FtMmi.KeySubscriber
