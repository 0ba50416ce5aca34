/-
FtMmi.EventHandler.LockKeyState — what NumLock, CapsLock and ScrollLock are
set to, against what they should be.

The states are three fields of the one `KeyEvent` of the keyboards.
`OnSetFunctionKeyState` and the release of a lock key both write 1 there,
the former whatever it was asked for and the latter whatever was there
before. `LockKeys` says what is meant: a request sets the state, and a
press with its release inverts it, unless a request came between them.

An event is passed on as the report left it, by auto-repeat as the event
is when the timer fires, and by the timer of a subscription or of a special
key as a clone of one passed on before, which says that no lock is on
(`KeyEvent.copy`). Which events are cloned the handlers behind decide; here
it may be any.
-/
import FtMmi.EventHandler.KeyAutoRepeat
import FtMmi.Lib.StepSystem

namespace FtMmi.EventHandler

open FtMmi.Event
open FtMmi.Lib

/-! ## What is meant -/

/-- The states, and the keyboards a lock key is down on, unless its state was
set since. -/
structure LockKeys where
  state : FunctionKey → Bool
  down : FunctionKey → Int32 → Bool

namespace LockKeys

def create : LockKeys := ⟨fun _ => false, fun _ _ => false⟩

def set (l : LockKeys) (funcKey : FunctionKey) (enable : Bool) : LockKeys where
  state := Function.update l.state funcKey enable
  down := Function.update l.down funcKey fun _ => false

def press (l : LockKeys) (funcKey : FunctionKey) (deviceId : Int32) : LockKeys :=
  { l with down := Function.update l.down funcKey (Function.update (l.down funcKey) deviceId true) }

def release (l : LockKeys) (funcKey : FunctionKey) (deviceId : Int32) : LockKeys :=
  if l.down funcKey deviceId then
    { state := Function.update l.state funcKey (!l.state funcKey)
      down := Function.update l.down funcKey (Function.update (l.down funcKey) deviceId false) }
  else l

def report (l : LockKeys) (report : KeyReport) : LockKeys :=
  match KeyEvent.transitionFunctionKey report.keyCode with
  | none => l
  | some funcKey =>
      if report.pressed then l.press funcKey report.deviceId
      else l.release funcKey report.deviceId

/-- No press of the lock key waits for its release. -/
def Settled (l : LockKeys) (funcKey : FunctionKey) : Prop :=
  ∀ deviceId, l.down funcKey deviceId = false

end LockKeys

/-! ## The service -/

structure LockKeyService where
  keyboard : KeyboardState
  /-- The events passed on, subscriptions included. -/
  dispatched : List KeyEvent
  /-- What is meant, for the theorems only. -/
  expected : LockKeys

/-- Neither a key, nor a timer, nor a request. -/
def KeyboardEvent.ofOthers : KeyboardEvent → Bool
  | .key .. => false
  | .processNext .. => false
  | .setFunctionKey _ => false
  | .removeTimer => true
  | .addDeviceConfig .. => true
  | .removeDeviceConfig _ => true
  | .otherAdd .. => true
  | .otherRemove _ => true
  | .otherReset .. => true

inductive LockKeyInput where
  /-- `OnSetFunctionKeyState`, with or without a keyboard there -/
  | setFunctionKeyState (hasKeyboard : Bool) (funcKey : FunctionKey) (enable : Bool)
  | key (coop : Cooperation) (report : KeyReport) (id : Int32) (time : Int64) (nowTime : Int)
  /-- a round of the timers, auto-repeat's or another component's -/
  | processNext (nowTime : Int) (id : Int32)
  /-- the timer of a subscription or of a special key: the clone of the event at `n` is
  passed on -/
  | subscriberTimer (n : Nat)
  /-- whatever else happens to the keyboards and the timers -/
  | other (event : KeyboardEvent) (ofOthers : event.ofOthers = true)

inductive FunctionKeyRet where
  | retOk
  | errorNullPointer
  deriving DecidableEq, Repr

namespace LockKeyService

def create (now : Int64) (deviceConfig : Int32 → Option DeviceConfig) : LockKeyService where
  keyboard := .create now deviceConfig
  dispatched := []
  expected := .create

def onGetFunctionKeyState (s : LockKeyService) (funcKey : FunctionKey) : Bool :=
  s.keyboard.keyEvent.getFunctionKey funcKey

/-- `OnSetFunctionKeyState`. `DeviceLedUpdate` succeeds on every device; the
state written does not depend on `enable`. -/
def onSetFunctionKeyState (s : LockKeyService) (hasKeyboard : Bool) (funcKey : FunctionKey)
    (_enable : Bool) : FunctionKeyRet × LockKeyService :=
  if hasKeyboard then
    let state := true
    (.retOk, { s with
      keyboard := { s.keyboard with keyEvent := s.keyboard.keyEvent.setFunctionKey funcKey state } })
  else (.errorNullPointer, s)

/-- The report's event goes on if the white list lets it. -/
def passedOn (s : LockKeyService) (coop : Cooperation) (report : KeyReport) (id : Int32)
    (time : Int64) : List KeyEvent :=
  let event := (s.keyboard.normalized report id time).keyEvent
  match checkKeyboardWhiteList coop event.keyCode with
  | .pass => [event]
  | .drop => []
  | .dropSelectUp => []

def step (s : LockKeyService) : LockKeyInput → LockKeyService
  | .setFunctionKeyState hasKeyboard funcKey enable =>
      let r := s.onSetFunctionKeyState hasKeyboard funcKey enable
      if r.1 = .retOk then { r.2 with expected := s.expected.set funcKey enable } else r.2
  | .key coop report id time nowTime =>
      { keyboard := s.keyboard.handleKeyboardEvent coop report id time nowTime
        dispatched := s.dispatched ++ s.passedOn coop report id time
        expected := s.expected.report report }
  | .processNext nowTime id =>
      let r := s.keyboard.processNext nowTime id
      { s with keyboard := r.2, dispatched := s.dispatched ++ r.1.toList }
  | .subscriberTimer n =>
      { s with dispatched := s.dispatched ++ s.dispatched[n]?.toList.map KeyEvent.copy }
  | .other event _ => { s with keyboard := keyboardStep s.keyboard event }

end LockKeyService

/-! ## What a step does to the states -/

theorem getFunctionKey_setFunctionKey (key : KeyEvent) (funcKey : FunctionKey) (state : Bool) :
    (key.setFunctionKey funcKey state).getFunctionKey
      = Function.update key.getFunctionKey funcKey state := by
  funext k
  cases funcKey <;> cases k <;> rfl

/-- In a clone no lock is on. -/
theorem getFunctionKey_copy (key : KeyEvent) (funcKey : FunctionKey) :
    key.copy.getFunctionKey funcKey = false := by
  cases funcKey <;> rfl

theorem getFunctionKey_addPressedKeyItems (key : KeyEvent) (item : KeyItem) :
    (key.addPressedKeyItems item).getFunctionKey = key.getFunctionKey := by
  funext k
  unfold KeyEvent.addPressedKeyItems
  split
  · rfl
  · cases k <;> rfl

theorem getFunctionKey_removePreUpKeyItem (key : KeyEvent) :
    (removePreUpKeyItem key).getFunctionKey = key.getFunctionKey := by
  funext k
  unfold removePreUpKeyItem
  split
  · split
    · cases k <;> rfl
    · rfl
  · rfl

theorem getFunctionKey_setReport (report : KeyReport) (time : Int64) (key : KeyEvent) :
    (setReport report time key).getFunctionKey = key.getFunctionKey := by
  funext k
  cases k <;> rfl

/-- A press changes no state. -/
theorem getFunctionKey_normalize_press {report : KeyReport} (hpressed : report.pressed = true)
    (id : Int32) (time : Int64) (key : KeyEvent) :
    (normalize report id time key).getFunctionKey = key.getFunctionKey := by
  have hid : { key with id := id }.getFunctionKey = key.getFunctionKey := by
    funext k
    cases k <;> rfl
  simp only [normalize, hpressed, if_true, getFunctionKey_addPressedKeyItems,
    getFunctionKey_setReport, getFunctionKey_removePreUpKeyItem, hid]

/-- A release sets the state of a lock key, whatever it was. -/
theorem getFunctionKey_normalize_release {report : KeyReport} (hpressed : report.pressed = false)
    (id : Int32) (time : Int64) (key : KeyEvent) :
    (normalize report id time key).getFunctionKey
      = match KeyEvent.transitionFunctionKey report.keyCode with
        | some funcKey => Function.update key.getFunctionKey funcKey true
        | none => key.getFunctionKey := by
  have hid : { key with id := id }.getFunctionKey = key.getFunctionKey := by
    funext k
    cases k <;> rfl
  have hremove : ∀ (key : KeyEvent) (item : KeyItem),
      (key.removeReleasedKeyItems item).getFunctionKey = key.getFunctionKey := by
    intro key item
    funext k
    cases k <;> rfl
  simp only [normalize, hpressed, Bool.false_eq_true, if_false, getFunctionKey_addPressedKeyItems,
    hremove, setUpFunctionKey]
  cases KeyEvent.transitionFunctionKey report.keyCode with
  | none => simp only [getFunctionKey_setReport, getFunctionKey_removePreUpKeyItem, hid]
  | some funcKey =>
    simp only [getFunctionKey_setFunctionKey, getFunctionKey_setReport,
      getFunctionKey_removePreUpKeyItem, hid]

namespace KeyboardState

theorem getFunctionKey_resumeRepeat (s : KeyboardState) :
    s.resumeRepeat.keyEvent.getFunctionKey = s.keyEvent.getFunctionKey := by
  funext k
  unfold resumeRepeat
  cases s.keyEvent.getKeyItem s.keyEvent.keyCode <;> cases k <;> rfl

theorem getFunctionKey_selectAutoRepeat (s : KeyboardState) (nowTime : Int) :
    (s.selectAutoRepeat nowTime).keyEvent.getFunctionKey = s.keyEvent.getFunctionKey := by
  simp only [selectAutoRepeat]
  split
  · rfl
  split
  · split <;> rfl
  split
  · split
    · exact getFunctionKey_resumeRepeat s.stopTimer
    · rfl
  · rfl

/-- After the report nothing changes the states. -/
theorem getFunctionKey_handleKeyboardEvent (s : KeyboardState) (coop : Cooperation)
    (report : KeyReport) (id : Int32) (time : Int64) (nowTime : Int) :
    (s.handleKeyboardEvent coop report id time nowTime).keyEvent.getFunctionKey
      = (normalize report id time s.keyEvent).getFunctionKey := by
  have hnormalized : (s.normalized report id time).keyEvent
      = normalize report id time s.keyEvent := rfl
  simp only [handleKeyboardEvent]
  split
  · rw [getFunctionKey_selectAutoRepeat, hnormalized]
  · rw [hnormalized]
  · split
    · rw [getFunctionKey_selectAutoRepeat, hnormalized]
    · rw [hnormalized]

/-- The timers change no state, and auto-repeat emits the event as it is. -/
theorem getFunctionKey_processNext (s : KeyboardState) (nowTime : Int) (id : Int32) :
    (s.processNext nowTime id).2.keyEvent.getFunctionKey = s.keyEvent.getFunctionKey ∧
      ∀ event ∈ (s.processNext nowTime id).1,
        event.getFunctionKey = s.keyEvent.getFunctionKey := by
  simp only [processNext]
  cases (s.timers.processNext nowTime).1 with
  | idle => exact ⟨rfl, by simp⟩
  | dropped => exact ⟨rfl, by simp⟩
  | fired client =>
    cases client with
    | other component => exact ⟨rfl, by simp⟩
    | keyAutoRepeat =>
      refine ⟨?_, ?_⟩
      · funext k
        cases k <;> rfl
      · intro event hevent
        cases hevent
        rfl

theorem getFunctionKey_ofOthers (s : KeyboardState) {event : KeyboardEvent}
    (h : event.ofOthers = true) :
    (keyboardStep s event).keyEvent.getFunctionKey = s.keyEvent.getFunctionKey := by
  cases event <;> first | rfl | cases h

end KeyboardState

/-! ## Every run -/

namespace LockKeyService

/-- The events a step passes on. -/
def passed (s : LockKeyService) (i : LockKeyInput) : List KeyEvent :=
  (s.step i).dispatched.drop s.dispatched.length

/-- After the step a state is what is meant, for a client that asks and in
every event passed on, if its lock key's last press is over. -/
structure LocksAgree (s : LockKeyService) (i : LockKeyInput) : Prop where
  got : ∀ funcKey, (s.step i).expected.Settled funcKey →
    (s.step i).onGetFunctionKeyState funcKey = (s.step i).expected.state funcKey
  carried : ∀ event ∈ s.passed i, ∀ funcKey, (s.step i).expected.Settled funcKey →
    event.getFunctionKey funcKey = (s.step i).expected.state funcKey

/-- Only what ends with a 1: a request that gets through asks for it, a
release of a lock key finds a 0 if it completes a press and a 1 if not, and
no lock is on when a clone is passed on. -/
def EndsSet (s : LockKeyService) : LockKeyInput → Prop
  | .setFunctionKeyState hasKeyboard _ enable => hasKeyboard = true → enable = true
  | .key _ report _ _ _ => report.pressed = false → ∀ funcKey,
      KeyEvent.transitionFunctionKey report.keyCode = some funcKey →
        (s.expected.down funcKey report.deviceId = true ↔ s.onGetFunctionKeyState funcKey = false)
  | .processNext .. => True
  | .subscriberTimer n => n < s.dispatched.length → ∀ funcKey,
      s.expected.Settled funcKey → s.onGetFunctionKeyState funcKey = false
  | .other .. => True

/-- The states are what is meant. -/
def Meant (s : LockKeyService) : Prop := s.keyboard.keyEvent.getFunctionKey = s.expected.state

theorem create_meant (now : Int64) (deviceConfig : Int32 → Option DeviceConfig) :
    (create now deviceConfig).Meant := by
  funext k
  cases k <;> rfl

/-- The report's event has the states the report leaves. -/
theorem normalized_meant {s : LockKeyService} (hs : s.Meant) {coop : Cooperation}
    {report : KeyReport} {id : Int32} {time : Int64} {nowTime : Int}
    (h : s.EndsSet (.key coop report id time nowTime)) :
    (normalize report id time s.keyboard.keyEvent).getFunctionKey
      = (s.expected.report report).state := by
  unfold LockKeys.report
  cases hpressed : report.pressed with
  | true =>
    rw [getFunctionKey_normalize_press hpressed, hs]
    cases KeyEvent.transitionFunctionKey report.keyCode <;> rfl
  | false =>
    rw [getFunctionKey_normalize_release hpressed, hs]
    cases hkey : KeyEvent.transitionFunctionKey report.keyCode with
    | none => rfl
    | some funcKey =>
      have hfound := h hpressed funcKey hkey
      rw [onGetFunctionKeyState, hs] at hfound
      simp only [Bool.false_eq_true, if_false, LockKeys.release]
      cases hdown : s.expected.down funcKey report.deviceId with
      | true => simp [hfound.mp hdown]
      | false =>
        have hset : s.expected.state funcKey = true := by
          simpa [hdown] using hfound
        show Function.update s.expected.state funcKey true = s.expected.state
        exact Function.update_eq_iff.mpr ⟨hset.symm, fun _ _ => rfl⟩

/-- The step: the states stay what is meant, and so does what is passed on. -/
theorem step_meant {s : LockKeyService} (hs : s.Meant) {i : LockKeyInput} (h : s.EndsSet i) :
    (s.step i).Meant ∧ ∀ event ∈ s.passed i, ∀ funcKey, (s.step i).expected.Settled funcKey →
      event.getFunctionKey funcKey = (s.step i).expected.state funcKey := by
  cases i with
  | setFunctionKeyState hasKeyboard funcKey enable =>
    cases hasKeyboard with
    | false => exact ⟨hs, by simp [passed, step, onSetFunctionKeyState]⟩
    | true =>
      refine ⟨?_, by simp [passed, step, onSetFunctionKeyState]⟩
      show (s.keyboard.keyEvent.setFunctionKey funcKey true).getFunctionKey
        = Function.update s.expected.state funcKey enable
      rw [getFunctionKey_setFunctionKey, hs, h rfl]
  | key coop report id time nowTime =>
    have hreport := normalized_meant hs h
    refine ⟨?_, ?_⟩
    · show (s.keyboard.handleKeyboardEvent coop report id time nowTime).keyEvent.getFunctionKey
        = (s.expected.report report).state
      rw [KeyboardState.getFunctionKey_handleKeyboardEvent, hreport]
    · intro event hevent funcKey _
      have hpassed : event ∈ s.passedOn coop report id time := by
        simpa [passed, step] using hevent
      have hsame : event = normalize report id time s.keyboard.keyEvent := by
        simp only [passedOn] at hpassed
        split at hpassed
        · exact List.mem_singleton.mp hpassed
        · cases hpassed
        · cases hpassed
      rw [hsame, hreport]
      rfl
  | processNext nowTime id =>
    obtain ⟨hkept, hemitted⟩ := KeyboardState.getFunctionKey_processNext s.keyboard nowTime id
    refine ⟨hkept.trans hs, ?_⟩
    intro event hevent funcKey _
    have hmem : event ∈ (s.keyboard.processNext nowTime id).1 := by
      simpa [passed, step] using hevent
    rw [hemitted event hmem, hs]
    rfl
  | subscriberTimer n =>
    refine ⟨hs, ?_⟩
    intro event hevent funcKey hsettled
    obtain ⟨original, horiginal, rfl⟩ : ∃ original, s.dispatched[n]? = some original ∧
        original.copy = event := by
      simpa [passed, step] using hevent
    have hoff := h (List.getElem?_eq_some_iff.mp horiginal).1 funcKey hsettled
    rw [onGetFunctionKeyState, hs] at hoff
    exact (getFunctionKey_copy original funcKey).trans hoff.symm
  | other event hother =>
    exact ⟨(KeyboardState.getFunctionKey_ofOthers s.keyboard hother).trans hs,
      by simp [passed, step]⟩

/-- In every run whose requests and lock keys only ever end with a state of 1
that is meant, what clients get and what events carry is what is meant. -/
theorem locksAgree_of_endsSet (now : Int64) (deviceConfig : Int32 → Option DeviceConfig)
    (is : List LockKeyInput) (h : AllSteps step EndsSet (create now deviceConfig) is) :
    AllSteps step LocksAgree (create now deviceConfig) is :=
  allSteps_of_allSteps (I := Meant) (fun _ _ hs hset => (step_meant hs hset).1)
    (fun _ _ hs hset =>
      ⟨fun funcKey _ => congrFun (step_meant hs hset).1 funcKey, (step_meant hs hset).2⟩)
    is _ (create_meant now deviceConfig) h

end LockKeyService

/-! ## CapsLock on and off -/

/-- CapsLock on some keyboard, where cooperation is off. -/
def capsLockReport (pressed : Bool) : LockKeyInput :=
  .key ⟨.stateFree, false, false⟩ ⟨1, keyCodeCapsLock, pressed⟩ 0 0 0

/-- A first press and its release, and a request for what is there. -/
theorem locksAgree_capsLock :
    AllSteps LockKeyService.step LockKeyService.LocksAgree (.create 0 fun _ => none)
      [capsLockReport true, capsLockReport false, .setFunctionKeyState true .capsLock true] := by
  refine LockKeyService.locksAgree_of_endsSet 0 (fun _ => none) _ ⟨?_, ?_, ?_, trivial⟩
  · intro hreleased
    cases hreleased
  · intro _ funcKey hkey
    cases (show KeyEvent.transitionFunctionKey keyCodeCapsLock = some .capsLock by
      decide).symm.trans hkey
    decide +kernel
  · intro _
    rfl

/-- A request to turn CapsLock off turns it on. -/
theorem counterexample_locksAgree :
    ¬ AllSteps LockKeyService.step LockKeyService.LocksAgree (.create 0 fun _ => none)
      [.setFunctionKeyState true .capsLock false] := by
  rintro ⟨hagree, _⟩
  have hgot := hagree.got .capsLock fun _ => rfl
  revert hgot
  decide +kernel

end FtMmi.EventHandler
