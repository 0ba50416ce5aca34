/-
FtMmi.EventHandler.KeyAutoRepeat — auto-repeat of the keys
(`key_auto_repeat.cpp`), with the path of a key report through
`EventNormalizeHandler::HandleKeyboardEvent`.

`SelectAutoRepeat` gets the one `KeyEvent` of the normaliser and keeps a
pointer to it, so what the timer's callback emits is that event as the
last report left it. The timers of all components share one
`TimerManager`.

A report may be held back by the white list of the cooperation mode; a
build without `OHOS_BUILD_ENABLE_COOPERATE` is the mode `stateFree`. What
the handlers behind do with the event, the target ids they set, is left
out.
-/
import FtMmi.EventHandler.KeyEventNormalize
import FtMmi.Timer.TimerManager

namespace FtMmi.EventHandler

open FtMmi.Event
open FtMmi.Timer

/-! ## State -/

structure DeviceConfig where
  autoSwitch : Int32 := 1
  delayTime : Int32 := 300
  intervalTime : Int32 := 100
  deriving DecidableEq, Repr

def openAutoRepeat : Int32 := 1

/-- Who a timer belongs to. -/
inductive TimerClient where
  | keyAutoRepeat
  | other (component : Nat)
  deriving DecidableEq, Repr

structure KeyboardState where
  /-- `KeyEventNormalize::keyEvent_`, and `KeyAutoRepeat::keyEvent_` once it is set -/
  keyEvent : KeyEvent
  deviceConfig : Int32 → Option DeviceConfig
  timerId : Int
  repeatKeyCode : Int32
  /-- `TimerMgr` -/
  timers : TimerManager TimerClient
  /-- What the reports say, for the theorems only. -/
  held : Held

namespace KeyboardState

def create (now : Int64) (deviceConfig : Int32 → Option DeviceConfig) : KeyboardState where
  keyEvent := KeyEvent.create now
  deviceConfig := deviceConfig
  timerId := -1
  repeatKeyCode := -1
  timers := TimerManager.create
  held := fun _ => none

/-! ## KeyAutoRepeat -/

/-- `GetAutoSwitch`: a device without a file has the defaults. -/
def getAutoSwitch (s : KeyboardState) (deviceId : Int32) : DeviceConfig :=
  (s.deviceConfig deviceId).getD {}

def getIntervalTime (s : KeyboardState) (deviceId : Int32) : Int32 :=
  match s.deviceConfig deviceId with
  | some devConf => devConf.intervalTime
  | none => 100

def addHandleTimer (s : KeyboardState) (nowTime : Int) (timeout : Int32) : KeyboardState :=
  let r := s.timers.addTimer nowTime timeout.toInt 1 (some .keyAutoRepeat)
  { s with timerId := r.1, timers := r.2 }

/-- The callback of `AddHandleTimer`: the event it emits, and the next timer. -/
def onHandleTimer (s : KeyboardState) (nowTime : Int) (id : Int32) : KeyEvent × KeyboardState :=
  let s' := { s with keyEvent := { s.keyEvent with id := id } }
  (s.keyEvent, s'.addHandleTimer nowTime (s'.getIntervalTime s'.keyEvent.deviceId))

/-- `TimerMgr->RemoveTimer(timerId_); timerId_ = -1;` -/
def stopTimer (s : KeyboardState) : KeyboardState :=
  { s with timers := (s.timers.removeTimer s.timerId).2, timerId := -1 }

/-- Another key than the one repeated was released: it is dropped from the
event, which becomes a press of the repeated key again. -/
def resumeRepeat (s : KeyboardState) : KeyboardState :=
  let keyEvent :=
    match s.keyEvent.getKeyItem s.keyEvent.keyCode with
    | some pressedKeyItem => s.keyEvent.removeReleasedKeyItems pressedKeyItem
    | none => s.keyEvent
  { s with
    keyEvent := { keyEvent with
      keyCode := s.repeatKeyCode, action := keyActionDown, keyAction := keyActionDown } }

def selectAutoRepeat (s : KeyboardState) (nowTime : Int) : KeyboardState :=
  let devConf := s.getAutoSwitch s.keyEvent.deviceId
  if devConf.autoSwitch ≠ openAutoRepeat then s
  else if s.keyEvent.keyAction = keyActionDown then
    let s := if s.timers.isExist s.timerId then s.stopTimer else s
    { s.addHandleTimer nowTime devConf.delayTime with repeatKeyCode := s.keyEvent.keyCode }
  else if s.keyEvent.keyAction = keyActionUp ∧ s.timers.isExist s.timerId then
    let s := s.stopTimer
    if s.repeatKeyCode ≠ s.keyEvent.keyCode then
      s.resumeRepeat.addHandleTimer nowTime devConf.delayTime
    else s
  else s

/-- `KeyAutoRepeat::RemoveTimer`. The id is kept. -/
def removeTimer (s : KeyboardState) : KeyboardState :=
  { s with timers := (s.timers.removeTimer s.timerId).2 }

end KeyboardState

/-! ## HandleKeyboardEvent -/

inductive CooperateState where
  | stateFree
  | stateIn
  | stateOut
  deriving DecidableEq, Repr

/-- What the cooperation mode says of a report. -/
structure Cooperation where
  state : CooperateState
  isRemote : Bool
  isNeedFilterOut : Bool
  deriving DecidableEq, Repr

def keyCodeBack : Int32 := 2

def keyCodeVolumeUp : Int32 := 16

def keyCodeVolumeDown : Int32 := 17

def keyCodePower : Int32 := 18

/-- What `CheckKeyboardWhiteList` decides: the event goes on, is dropped, or
is dropped after `SelectAutoRepeat` got it, if it is a release. -/
inductive Verdict where
  | pass
  | drop
  | dropSelectUp
  deriving DecidableEq, Repr

def checkKeyboardWhiteList (coop : Cooperation) (keyCode : Int32) : Verdict :=
  if keyCode = keyCodeBack ∨ keyCode = keyCodeVolumeUp ∨ keyCode = keyCodeVolumeDown ∨
      keyCode = keyCodePower then .pass
  else
    match coop.state with
    | .stateIn => if coop.isRemote && coop.isNeedFilterOut then .drop else .pass
    | .stateOut => if coop.isNeedFilterOut then .pass else .dropSelectUp
    | .stateFree => .pass

namespace KeyboardState

/-- The report is in the event; `HandleKeyboardEvent` up to `Normalize`. -/
def normalized (s : KeyboardState) (report : KeyReport) (id : Int32) (time : Int64) :
    KeyboardState :=
  { s with keyEvent := normalize report id time s.keyEvent, held := s.held.record report time }

def handleKeyboardEvent (s : KeyboardState) (coop : Cooperation) (report : KeyReport) (id : Int32)
    (time : Int64) (nowTime : Int) : KeyboardState :=
  let s := s.normalized report id time
  match checkKeyboardWhiteList coop s.keyEvent.keyCode with
  | .pass => s.selectAutoRepeat nowTime
  | .drop => s
  | .dropSelectUp => if s.keyEvent.keyAction = keyActionUp then s.selectAutoRepeat nowTime else s

/-- One round of `ProcessTimers`: the event emitted by auto-repeat, if it is
its timer, and the state. -/
def processNext (s : KeyboardState) (nowTime : Int) (id : Int32) :
    Option KeyEvent × KeyboardState :=
  let r := s.timers.processNext nowTime
  let s := { s with timers := r.2 }
  match r.1 with
  | .fired .keyAutoRepeat =>
      let r := s.onHandleTimer nowTime id
      (some r.1, r.2)
  | .fired (.other _) => (none, s)
  | .idle => (none, s)
  | .dropped => (none, s)

end KeyboardState

/-! ## Events -/

inductive KeyboardEvent where
  | key (coop : Cooperation) (report : KeyReport) (id : Int32) (time : Int64) (nowTime : Int)
  | processNext (nowTime : Int) (id : Int32)
  | removeTimer
  | setFunctionKey (funcKey : FunctionKey)
  | addDeviceConfig (deviceId : Int32) (devConf : DeviceConfig)
  | removeDeviceConfig (deviceId : Int32)
  | otherAdd (component : Nat) (nowTime intervalMs repeatCount : Int)
  | otherRemove (timerId : Int)
  | otherReset (nowTime timerId : Int)

def keyboardStep (s : KeyboardState) : KeyboardEvent → KeyboardState
  | .key coop report id time nowTime => s.handleKeyboardEvent coop report id time nowTime
  | .processNext nowTime id => (s.processNext nowTime id).2
  | .removeTimer => s.removeTimer
  | .setFunctionKey funcKey => { s with keyEvent := s.keyEvent.setFunctionKey funcKey true }
  | .addDeviceConfig deviceId devConf =>
      { s with deviceConfig := Function.update s.deviceConfig deviceId (some devConf) }
  | .removeDeviceConfig deviceId =>
      { s with deviceConfig := Function.update s.deviceConfig deviceId none }
  | .otherAdd component nowTime intervalMs repeatCount =>
      { s with
        timers := (s.timers.addTimer nowTime intervalMs repeatCount (some (.other component))).2 }
  | .otherRemove timerId => { s with timers := (s.timers.removeTimer timerId).2 }
  | .otherReset nowTime timerId => { s with timers := (s.timers.resetTimer nowTime timerId).2 }

end FtMmi.EventHandler
