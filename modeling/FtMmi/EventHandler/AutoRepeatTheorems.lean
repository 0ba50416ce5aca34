/-
FtMmi.EventHandler.AutoRepeatTheorems — what the items of the key event and
the auto-repeat of the keys have to do with the keys held down.

The bookkeeping of the items survives everything that happens between two
reports (`heldKeys_listed`). Auto-repeat is another matter: its timer goes
on while the event it emits is rewritten by every report, also by those
`SelectAutoRepeat` never gets. `autoRepeat_emitsHeld_iff` says exactly
which runs emit nothing but presses of the repeated key while it is held.
-/
import FtMmi.EventHandler.KeyAutoRepeat
import FtMmi.Lib.StepSystem

namespace FtMmi.EventHandler

open FtMmi.Event
open FtMmi.Lib
open FtMmi.Timer

/-- If a report on which the white list says so gets to `SelectAutoRepeat`. -/
def Verdict.selects : Verdict → Bool → Bool
  | .pass, _ => true
  | .drop, _ => false
  | .dropSelectUp, pressed => !pressed

namespace KeyboardState

/-! ## The parts of a step -/

@[simp] theorem addHandleTimer_keyEvent (s : KeyboardState) (nowTime : Int) (timeout : Int32) :
    (s.addHandleTimer nowTime timeout).keyEvent = s.keyEvent := rfl

@[simp] theorem addHandleTimer_held (s : KeyboardState) (nowTime : Int) (timeout : Int32) :
    (s.addHandleTimer nowTime timeout).held = s.held := rfl

@[simp] theorem addHandleTimer_repeatKeyCode (s : KeyboardState) (nowTime : Int)
    (timeout : Int32) : (s.addHandleTimer nowTime timeout).repeatKeyCode = s.repeatKeyCode := rfl

/-- The report gets to `SelectAutoRepeat`, and its keyboard repeats. -/
def reachesRepeat (s : KeyboardState) (coop : Cooperation) (report : KeyReport) : Bool :=
  decide ((s.getAutoSwitch report.deviceId).autoSwitch = openAutoRepeat) &&
    (checkKeyboardWhiteList coop report.keyCode).selects report.pressed

/-- A press starts the timer again, for the key pressed. -/
def repeatDown (s : KeyboardState) (nowTime : Int) : KeyboardState :=
  let stopped := if s.timers.isExist s.timerId then s.stopTimer else s
  { stopped.addHandleTimer nowTime (s.getAutoSwitch s.keyEvent.deviceId).delayTime with
    repeatKeyCode := s.keyEvent.keyCode }

/-- A release stops it, or resumes it for the key it was for. -/
def repeatUp (s : KeyboardState) (nowTime : Int) : KeyboardState :=
  if s.timers.isExist s.timerId then
    if s.repeatKeyCode ≠ s.keyEvent.keyCode then
      s.stopTimer.resumeRepeat.addHandleTimer nowTime
        (s.getAutoSwitch s.keyEvent.deviceId).delayTime
    else s.stopTimer
  else s

theorem selectAutoRepeat_off (s : KeyboardState) (nowTime : Int)
    (hoff : (s.getAutoSwitch s.keyEvent.deviceId).autoSwitch ≠ openAutoRepeat) :
    s.selectAutoRepeat nowTime = s := by
  rw [selectAutoRepeat, if_pos hoff]

theorem selectAutoRepeat_on (s : KeyboardState) (nowTime : Int) (report : KeyReport)
    (hon : (s.getAutoSwitch s.keyEvent.deviceId).autoSwitch = openAutoRepeat)
    (haction : s.keyEvent.keyAction = report.keyAction) :
    s.selectAutoRepeat nowTime
      = if report.pressed then s.repeatDown nowTime else s.repeatUp nowTime := by
  simp only [selectAutoRepeat, hon, ne_eq, not_true_eq_false, if_false, haction,
    keyAction_eq_down_iff, keyAction_eq_up_iff]
  cases report.pressed with
  | true =>
    simp only [if_true, repeatDown]
    split <;> rfl
  | false =>
    simp only [Bool.false_eq_true, if_false, true_and, repeatUp]
    rfl

theorem handleKeyboardEvent_eq (s : KeyboardState) (coop : Cooperation) (report : KeyReport)
    (id : Int32) (time : Int64) (nowTime : Int) :
    s.handleKeyboardEvent coop report id time nowTime =
      if s.reachesRepeat coop report then
        if report.pressed then (s.normalized report id time).repeatDown nowTime
        else (s.normalized report id time).repeatUp nowTime
      else s.normalized report id time := by
  set s' := s.normalized report id time with hs'
  have hcode : s'.keyEvent.keyCode = report.keyCode := normalize_keyCode _ _ _ _
  have hdevice : s'.keyEvent.deviceId = report.deviceId := normalize_deviceId _ _ _ _
  have haction : s'.keyEvent.keyAction = report.keyAction := normalize_keyAction _ _ _ _
  have hswitch : s'.getAutoSwitch s'.keyEvent.deviceId = s.getAutoSwitch report.deviceId := by
    rw [hdevice]
    rfl
  have hreach : s.reachesRepeat coop report = (decide ((s.getAutoSwitch report.deviceId).autoSwitch
      = openAutoRepeat) && (checkKeyboardWhiteList coop report.keyCode).selects report.pressed) := rfl
  simp only [handleKeyboardEvent, ← hs', hcode, haction, keyAction_eq_up_iff, hreach]
  generalize checkKeyboardWhiteList coop report.keyCode = verdict
  by_cases hon : (s.getAutoSwitch report.deviceId).autoSwitch = openAutoRepeat
  · rw [selectAutoRepeat_on s' nowTime report (by rw [hswitch, hon]) haction]
    cases verdict with
    | pass => simp [hon, Verdict.selects]
    | drop => simp [Verdict.selects]
    | dropSelectUp => cases hp : report.pressed <;> simp [hon, Verdict.selects]
  · rw [selectAutoRepeat_off s' nowTime (by rwa [hswitch])]
    cases verdict <;> simp [hon]

end KeyboardState

/-! ## The items and the keys held down -/

/-- What is removed on resuming is what the next report would remove. -/
theorem resumeRepeat_bookkept {s : KeyboardState} (h : Bookkept s.held s.keyEvent)
    (hup : s.keyEvent.action = keyActionUp) :
    Bookkept s.resumeRepeat.held s.resumeRepeat.keyEvent := by
  have hkeys : s.resumeRepeat.keyEvent.keys = s.keyEvent.keys.filter KeyItem.pressed := by
    rw [← h.removePreUpKeyItem_keys, removePreUpKeyItem, if_pos hup]
    rfl
  refine ⟨?_, ?_, fun item hmem hp => ?_, fun hdown => ?_⟩
  · rw [hkeys]
    exact h.nodup_filter
  · rw [hkeys]
    exact h.pressed.filter
  · rw [hkeys] at hmem
    rw [(List.mem_filter.mp hmem).2] at hp
    cases hp
  · exact absurd (show keyActionDown = keyActionUp from hdown) (by decide)

theorem repeatUp_bookkept {s : KeyboardState} (h : Bookkept s.held s.keyEvent)
    (hup : s.keyEvent.action = keyActionUp) (nowTime : Int) :
    Bookkept (s.repeatUp nowTime).held (s.repeatUp nowTime).keyEvent := by
  unfold KeyboardState.repeatUp
  split
  · split
    · exact resumeRepeat_bookkept (s := s.stopTimer) h hup
    · exact h
  · exact h

theorem repeatDown_bookkept {s : KeyboardState} (h : Bookkept s.held s.keyEvent) (nowTime : Int) :
    Bookkept (s.repeatDown nowTime).held (s.repeatDown nowTime).keyEvent := by
  unfold KeyboardState.repeatDown
  split <;> exact h

theorem processNext_bookkept {s : KeyboardState} (h : Bookkept s.held s.keyEvent)
    (nowTime : Int) (id : Int32) :
    Bookkept (s.processNext nowTime id).2.held (s.processNext nowTime id).2.keyEvent := by
  simp only [KeyboardState.processNext]
  cases (s.timers.processNext nowTime).1 with
  | idle => exact h
  | dropped => exact h
  | fired client =>
    cases client with
    | keyAutoRepeat => exact ⟨h.nodup, h.pressed, h.released, h.up⟩
    | other component => exact h

theorem setFunctionKey_bookkept {held : Held} {keyEvent : KeyEvent} (h : Bookkept held keyEvent)
    (funcKey : FunctionKey) : Bookkept held (keyEvent.setFunctionKey funcKey true) := by
  cases funcKey <;> exact ⟨h.nodup, h.pressed, h.released, h.up⟩

/-- The step of the bookkeeping. -/
theorem bookkept_step (s : KeyboardState) (e : KeyboardEvent) (h : Bookkept s.held s.keyEvent) :
    Bookkept (keyboardStep s e).held (keyboardStep s e).keyEvent := by
  cases e with
  | key coop report id time nowTime =>
    have hnorm : Bookkept (s.normalized report id time).held (s.normalized report id time).keyEvent :=
      h.normalize report id time
    rw [keyboardStep, KeyboardState.handleKeyboardEvent_eq]
    split
    · cases hp : report.pressed with
      | true => exact repeatDown_bookkept hnorm nowTime
      | false =>
        have hup : (s.normalized report id time).keyEvent.action = keyActionUp := by
          rw [KeyboardState.normalized, normalize_action, keyAction_eq_up_iff, hp]
        exact repeatUp_bookkept hnorm hup nowTime
    · exact hnorm
  | processNext nowTime id => exact processNext_bookkept h nowTime id
  | setFunctionKey funcKey => exact setFunctionKey_bookkept h funcKey
  | removeTimer => exact h
  | addDeviceConfig deviceId devConf => exact h
  | removeDeviceConfig deviceId => exact h
  | otherAdd component nowTime intervalMs repeatCount => exact h
  | otherRemove timerId => exact h
  | otherReset nowTime timerId => exact h

/-- Whatever report comes next, the event made of it lists the keys held
down. -/
def ListsNext (s : KeyboardState) : Prop :=
  ∀ report id time, ListsHeldKeys s.held report time (normalize report id time s.keyEvent)

/-- In every run, with reports from any keyboards and everything auto-repeat
does to the event between them. -/
theorem heldKeys_listed (now : Int64) (deviceConfig : Int32 → Option DeviceConfig)
    (events : List KeyboardEvent) :
    Always keyboardStep ListsNext (KeyboardState.create now deviceConfig) events :=
  (always_of_step bookkept_step events (KeyboardState.create now deviceConfig)
    (create_bookkept now)).mono fun _ h report id time => h.listsHeldKeys report id time

/-! ## What the timer emits -/

/-- The timer of auto-repeat is live. -/
def Repeating (s : KeyboardState) : Prop :=
  ∃ t ∈ s.timers.timers, t.callback = TimerClient.keyAutoRepeat

/-- If a timer of auto-repeat is live and expires now, the event its
callback emits is a press of the key recorded, and that key is down. -/
def EmitsHeld (s : KeyboardState) : Prop :=
  ∀ t ∈ s.timers.timers, t.callback = TimerClient.keyAutoRepeat → ∀ nowTime id,
    let event := (s.onHandleTimer nowTime id).1
    event.keyAction = keyActionDown ∧ event.keyCode = s.repeatKeyCode ∧
      (s.held event.keyCode).isSome = true

theorem emitsHeld_iff (s : KeyboardState) :
    EmitsHeld s ↔ (Repeating s → s.keyEvent.keyAction = keyActionDown ∧
      s.keyEvent.keyCode = s.repeatKeyCode ∧ (s.held s.keyEvent.keyCode).isSome = true) := by
  constructor
  · rintro h ⟨t, ht, hcb⟩
    exact h t ht hcb 0 0
  · intro h t ht hcb _ _
    exact h ⟨t, ht, hcb⟩

/-- `ProcessTimers` emits nothing but what `EmitsHeld` is about. -/
theorem processNext_emits {s : KeyboardState} {nowTime : Int} {id : Int32} {event : KeyEvent}
    (h : (s.processNext nowTime id).1 = some event) : Repeating s ∧ event = s.keyEvent := by
  simp only [KeyboardState.processNext] at h
  rcases s.timers.processNext_cases nowTime with
    ⟨_, hidle⟩ | ⟨t, rest, heq, _, ⟨_, _, hfired, _⟩ | ⟨_, hdropped, _⟩ | ⟨_, hfired, _⟩⟩
  · rw [hidle] at h
    cases h
  all_goals
    first
    | rw [hdropped] at h
      cases h
    | rw [hfired] at h
      cases hcb : t.callback with
      | keyAutoRepeat =>
        rw [hcb] at h
        cases h
        exact ⟨⟨t, by simp [heq], hcb⟩, rfl⟩
      | other component =>
        rw [hcb] at h
        cases h

/-- Every timer of auto-repeat is the one whose id is kept, and one-shot. -/
def OneRepeatTimer (s : KeyboardState) : Prop :=
  ∀ t ∈ s.timers.timers, t.callback = TimerClient.keyAutoRepeat →
    t.id = s.timerId ∧ t.repeatCount = 1 ∧ 0 ≤ t.callbackCount

theorem OneRepeatTimer.of_timers {s : KeyboardState} (h : OneRepeatTimer s)
    {timers : TimerManager TimerClient} (hfrom : s.timers.Descends timers) :
    OneRepeatTimer { s with timers := timers } := by
  intro t' ht' hcb'
  obtain ⟨t, ht, hid, hcb, hrepeat, hcount⟩ := hfrom t' ht'
  obtain ⟨hone, hshot, hcalls⟩ := h t ht (hcb.symm.trans hcb')
  exact ⟨hid.trans hone, hrepeat.trans hshot, hcount hcalls⟩

theorem stopTimer_not_repeating {s : KeyboardState} (h : OneRepeatTimer s) :
    ¬ Repeating s.stopTimer := by
  rintro ⟨t, ht, hcb⟩
  have hmem : t ∈ (s.timers.removeTimer s.timerId).2.timers := ht
  rw [TimerManager.removeTimer_timers, List.mem_filter] at hmem
  exact of_decide_eq_true hmem.2 (h t hmem.1 hcb).1

theorem not_repeating_of_not_exist {s : KeyboardState} (h : OneRepeatTimer s)
    (hnot : ¬ s.timers.isExist s.timerId = true) : ¬ Repeating s := by
  rintro ⟨t, ht, hcb⟩
  exact hnot ((TimerManager.isExist_eq_true_iff _ _).mpr ⟨t, ht, (h t ht hcb).1⟩)

theorem oneRepeatTimer_of_not_repeating {s : KeyboardState} (h : ¬ Repeating s) :
    OneRepeatTimer s :=
  fun t ht hcb => absurd ⟨t, ht, hcb⟩ h

/-- When none is live, one may be added. -/
theorem addHandleTimer_oneRepeatTimer {s : KeyboardState} (h : ¬ Repeating s) (nowTime : Int)
    (timeout : Int32) : OneRepeatTimer (s.addHandleTimer nowTime timeout) := by
  intro t ht hcb
  rcases s.timers.addTimer_cases nowTime timeout.toInt 1 .keyAutoRepeat with
    ⟨_, hsame⟩ | ⟨new, _, hcount, hcalls, _, _, hid, hperm⟩
  · rw [KeyboardState.addHandleTimer, hsame] at ht
    exact absurd ⟨t, ht, hcb⟩ h
  · rcases List.mem_cons.mp (hperm.mem_iff.mp ht) with rfl | hmem
    · exact ⟨hid.symm, hcount, hcalls ▸ Int.le_refl 0⟩
    · exact absurd ⟨t, hmem, hcb⟩ h

theorem addHandleTimer_repeating_iff {s : KeyboardState} (h : ¬ Repeating s) (nowTime : Int)
    (timeout : Int32) : Repeating (s.addHandleTimer nowTime timeout) ↔
      (s.timers.addTimer nowTime timeout.toInt 1 (some .keyAutoRepeat)).1 ≠ nonexistentId := by
  rcases s.timers.addTimer_cases nowTime timeout.toInt 1 .keyAutoRepeat with
    ⟨hnone, hsame⟩ | ⟨new, hcb, _, _, hpos, _, hid, hperm⟩
  · refine ⟨fun ⟨t, ht, hcb⟩ => ?_, fun hne => absurd hnone hne⟩
    rw [KeyboardState.addHandleTimer, hsame] at ht
    exact absurd ⟨t, ht, hcb⟩ h
  · refine ⟨fun _ => ?_, fun _ => ⟨new, hperm.mem_iff.mpr List.mem_cons_self, hcb⟩⟩
    rw [hid, nonexistentId]
    omega

theorem record_self {held : Held} {report : KeyReport} (hdown : report.pressed = true)
    (time : Int64) : (held.record report time report.keyCode).isSome = true := by
  rw [Held.record, Function.update_self, if_pos hdown]
  rfl

theorem record_of_ne {held : Held} {report : KeyReport} {code : Int32}
    (hne : code ≠ report.keyCode) (time : Int64) : held.record report time code = held code :=
  Function.update_of_ne hne _ _

/-! ## The condition on the reports -/

/-- If the release makes auto-repeat resume for the key recorded, that key
is down. It is, unless the timer found under the id kept is a stranger's. -/
def ResumesHeld (s : KeyboardState) (report : KeyReport) (nowTime : Int) : Prop :=
  report.pressed = false → s.timers.isExist s.timerId = true →
    s.repeatKeyCode ≠ report.keyCode →
    (s.stopTimer.timers.addTimer nowTime (s.getAutoSwitch report.deviceId).delayTime.toInt 1
      (some .keyAutoRepeat)).1 ≠ nonexistentId →
    (s.held s.repeatKeyCode).isSome = true

/-- A report that does not get to `SelectAutoRepeat` while the timer is live
is a press of the key recorded; one that does resumes for a key that is
down. -/
def KeepsRepeat (s : KeyboardState) : KeyboardEvent → Prop
  | .key coop report _ _ nowTime =>
      if s.reachesRepeat coop report = true then ResumesHeld s report nowTime
      else Repeating s → report.pressed = true ∧ report.keyCode = s.repeatKeyCode
  | _ => True

structure RepeatInv (s : KeyboardState) : Prop where
  emits : EmitsHeld s
  one : OneRepeatTimer s

theorem create_repeatInv (now : Int64) (deviceConfig : Int32 → Option DeviceConfig) :
    RepeatInv (KeyboardState.create now deviceConfig) where
  emits := fun _ h => nomatch h
  one := fun _ h => nomatch h

/-- A change of the timer list that brings in no timer of auto-repeat. -/
theorem RepeatInv.of_timers {s : KeyboardState} (h : RepeatInv s)
    {timers : TimerManager TimerClient} (hfrom : s.timers.Descends timers) :
    RepeatInv { s with timers := timers } := by
  refine ⟨fun t' ht' hcb' nowTime id => ?_, h.one.of_timers hfrom⟩
  obtain ⟨t, ht, _, hcb, _⟩ := hfrom t' ht'
  exact h.emits t ht (hcb.symm.trans hcb') nowTime id

/-! ## The step of a report -/

theorem repeatDown_repeatInv {s : KeyboardState} (hone : OneRepeatTimer s)
    (hdown : s.keyEvent.keyAction = keyActionDown)
    (hheld : (s.held s.keyEvent.keyCode).isSome = true) (nowTime : Int) :
    RepeatInv (s.repeatDown nowTime) := by
  have hstopped : ∃ s' : KeyboardState, ¬ Repeating s' ∧ s'.keyEvent = s.keyEvent ∧
      s'.held = s.held ∧ s.repeatDown nowTime =
        { s'.addHandleTimer nowTime (s.getAutoSwitch s.keyEvent.deviceId).delayTime with
          repeatKeyCode := s.keyEvent.keyCode } := by
    by_cases hexist : s.timers.isExist s.timerId = true
    · refine ⟨s.stopTimer, stopTimer_not_repeating hone, rfl, rfl, ?_⟩
      simp only [KeyboardState.repeatDown, if_pos hexist]
    · refine ⟨s, not_repeating_of_not_exist hone hexist, rfl, rfl, ?_⟩
      simp only [KeyboardState.repeatDown, if_neg hexist]
  obtain ⟨s', hnot, hevent, hkeep, heq⟩ := hstopped
  rw [heq]
  refine ⟨(emitsHeld_iff _).mpr fun _ => ⟨?_, ?_, ?_⟩, ?_⟩
  · show s'.keyEvent.keyAction = keyActionDown
    rw [hevent, hdown]
  · show s'.keyEvent.keyCode = s.keyEvent.keyCode
    rw [hevent]
  · show (s'.held s'.keyEvent.keyCode).isSome = true
    rw [hevent, hkeep, hheld]
  · exact addHandleTimer_oneRepeatTimer hnot _ _

theorem resumed_emitsHeld_iff {s : KeyboardState} (hone : OneRepeatTimer s) (nowTime : Int)
    (timeout : Int32) :
    EmitsHeld (s.stopTimer.resumeRepeat.addHandleTimer nowTime timeout) ↔
      ((s.stopTimer.timers.addTimer nowTime timeout.toInt 1 (some .keyAutoRepeat)).1
        ≠ nonexistentId → (s.held s.repeatKeyCode).isSome = true) := by
  have hnot : ¬ Repeating s.stopTimer.resumeRepeat := stopTimer_not_repeating hone
  rw [emitsHeld_iff, addHandleTimer_repeating_iff hnot]
  exact ⟨fun h hadd => (h hadd).2.2, fun h hadd => ⟨rfl, rfl, h hadd⟩⟩

theorem repeatUp_oneRepeatTimer {s : KeyboardState} (hone : OneRepeatTimer s) (nowTime : Int) :
    OneRepeatTimer (s.repeatUp nowTime) := by
  have hnot := stopTimer_not_repeating hone
  unfold KeyboardState.repeatUp
  split
  · split
    · exact addHandleTimer_oneRepeatTimer (s := s.stopTimer.resumeRepeat) hnot _ _
    · exact oneRepeatTimer_of_not_repeating hnot
  · exact hone

/-- After a report the property depends on the condition only. -/
theorem key_emitsHeld_iff {s : KeyboardState} (h : RepeatInv s) (coop : Cooperation)
    (report : KeyReport) (id : Int32) (time : Int64) (nowTime : Int) :
    EmitsHeld (s.handleKeyboardEvent coop report id time nowTime) ↔
      KeepsRepeat s (.key coop report id time nowTime) := by
  set s' := s.normalized report id time with hs'
  have hone : OneRepeatTimer s' := h.one
  have hcode : s'.keyEvent.keyCode = report.keyCode := normalize_keyCode _ _ _ _
  have haction : s'.keyEvent.keyAction = report.keyAction := normalize_keyAction _ _ _ _
  have hdevice : s'.keyEvent.deviceId = report.deviceId := normalize_deviceId _ _ _ _
  rw [KeyboardState.handleKeyboardEvent_eq, ← hs', KeepsRepeat]
  by_cases hreach : s.reachesRepeat coop report = true
  · rw [if_pos hreach, if_pos hreach]
    cases hp : report.pressed with
    | true =>
      have hheld : (s'.held s'.keyEvent.keyCode).isSome = true := by
        rw [hcode]
        exact record_self hp time
      have hdown := repeatDown_repeatInv hone (haction.trans ((keyAction_eq_down_iff report).mpr hp))
        hheld nowTime
      rw [if_pos rfl]
      exact ⟨fun _ hup => absurd (hp.symm.trans hup) (by decide), fun _ => hdown.emits⟩
    | false =>
      have hsame : s'.timers = s.timers ∧ s'.timerId = s.timerId ∧
          s'.repeatKeyCode = s.repeatKeyCode := ⟨rfl, rfl, rfl⟩
      rw [if_neg Bool.false_ne_true]
      unfold ResumesHeld KeyboardState.repeatUp
      rw [hcode, hsame.1, hsame.2.1, hsame.2.2]
      by_cases hexist : s.timers.isExist s.timerId = true
      · rw [if_pos hexist]
        by_cases hne : s.repeatKeyCode ≠ report.keyCode
        · rw [if_pos hne, resumed_emitsHeld_iff hone, hdevice]
          have hheld : s'.held s'.repeatKeyCode = s.held s.repeatKeyCode := record_of_ne hne time
          rw [hheld]
          exact ⟨fun hadd _ _ _ => hadd, fun hres => hres hp hexist hne⟩
        · rw [if_neg hne]
          refine ⟨fun _ _ _ hne' => absurd hne' hne, fun _ => (emitsHeld_iff _).mpr fun hlive => ?_⟩
          exact absurd hlive (stopTimer_not_repeating hone)
      · rw [if_neg hexist]
        refine ⟨fun _ _ hexist' => absurd hexist' hexist, fun _ => (emitsHeld_iff _).mpr fun hlive => ?_⟩
        exact absurd hlive (not_repeating_of_not_exist hone hexist)
  · rw [if_neg hreach, if_neg hreach, emitsHeld_iff]
    -- The timer goes on, with the event of this report.
    refine imp_congr_right fun _ => ?_
    rw [haction, hcode, keyAction_eq_down_iff]
    refine ⟨fun hgood => ⟨hgood.1, hgood.2.1⟩, fun hgood => ⟨hgood.1, hgood.2, ?_⟩⟩
    exact record_self hgood.1 time

theorem key_oneRepeatTimer {s : KeyboardState} (h : OneRepeatTimer s) (coop : Cooperation)
    (report : KeyReport) (id : Int32) (time : Int64) (nowTime : Int) :
    OneRepeatTimer (s.handleKeyboardEvent coop report id time nowTime) := by
  have hone : OneRepeatTimer (s.normalized report id time) := h
  rw [KeyboardState.handleKeyboardEvent_eq]
  split
  · split
    · have hnot : ¬ Repeating (if (s.normalized report id time).timers.isExist
          (s.normalized report id time).timerId then (s.normalized report id time).stopTimer
          else s.normalized report id time) := by
        split
        · exact stopTimer_not_repeating hone
        · rename_i hexist
          exact not_repeating_of_not_exist hone hexist
      exact addHandleTimer_oneRepeatTimer hnot _ _
    · exact repeatUp_oneRepeatTimer hone nowTime
  · exact hone

/-! ## The step of the timers -/

/-- The timer that fired is gone before its successor is added. -/
theorem fired_not_repeating {s : KeyboardState} (h : OneRepeatTimer s) {nowTime : Int}
    (hfired : (s.timers.processNext nowTime).1 = .fired .keyAutoRepeat) :
    ∀ t ∈ (s.timers.processNext nowTime).2.timers, t.callback ≠ .keyAutoRepeat := by
  intro t' ht' hcb'
  obtain ⟨t, ht, hcb, hgone⟩ := TimerManager.processNext_fired hfired
  obtain ⟨hid, hshot, hcalls⟩ := h t ht hcb
  obtain ⟨hmem, hne⟩ := hgone hshot hcalls t' ht'
  exact hne ((h t' hmem hcb').1.trans hid.symm)

theorem processNext_repeatInv {s : KeyboardState} (h : RepeatInv s) (nowTime : Int) (id : Int32) :
    RepeatInv (s.processNext nowTime id).2 := by
  have hsub : RepeatInv { s with timers := (s.timers.processNext nowTime).2 } :=
    h.of_timers (s.timers.processNext_descends nowTime)
  simp only [KeyboardState.processNext]
  split
  · rename_i hfired
    obtain ⟨t, ht, hcb, _⟩ := TimerManager.processNext_fired hfired
    have hgood := (emitsHeld_iff s).mp h.emits ⟨t, ht, hcb⟩
    have hnot : ¬ Repeating { s with timers := (s.timers.processNext nowTime).2 } :=
      fun ⟨t', ht', hcb'⟩ => fired_not_repeating h.one hfired t' ht' hcb'
    refine ⟨(emitsHeld_iff _).mpr fun _ => hgood, ?_⟩
    exact addHandleTimer_oneRepeatTimer (s := { s with
      timers := (s.timers.processNext nowTime).2, keyEvent := { s.keyEvent with id := id } })
      hnot _ _
  · exact hsub
  · exact hsub
  · exact hsub

theorem otherAdd_oneRepeatTimer {s : KeyboardState} (h : OneRepeatTimer s)
    (component : Nat) (nowTime intervalMs repeatCount : Int) :
    OneRepeatTimer (keyboardStep s (.otherAdd component nowTime intervalMs repeatCount)) := by
  intro t ht hcb
  rcases TimerManager.mem_addTimer ht with hmem | ⟨hother, _⟩
  · exact h t hmem hcb
  · rw [hcb] at hother
    cases hother

theorem otherAdd_repeatInv {s : KeyboardState} (h : RepeatInv s)
    (component : Nat) (nowTime intervalMs repeatCount : Int) :
    RepeatInv (keyboardStep s (.otherAdd component nowTime intervalMs repeatCount)) := by
  refine ⟨fun t ht hcb => ?_, otherAdd_oneRepeatTimer h.one component nowTime intervalMs repeatCount⟩
  rcases TimerManager.mem_addTimer ht with hmem | ⟨hother, _⟩
  · exact h.emits t hmem hcb
  · rw [hcb] at hother
    cases hother

theorem repeatInv_step (s : KeyboardState) (e : KeyboardEvent) (h : RepeatInv s)
    (he : KeepsRepeat s e) : RepeatInv (keyboardStep s e) := by
  cases e with
  | key coop report id time nowTime =>
    exact ⟨(key_emitsHeld_iff h coop report id time nowTime).mpr he,
      key_oneRepeatTimer h.one coop report id time nowTime⟩
  | processNext nowTime id => exact processNext_repeatInv h nowTime id
  | removeTimer => exact h.of_timers (s.timers.removeTimer_descends s.timerId)
  | setFunctionKey funcKey =>
    cases funcKey <;> exact ⟨h.emits, h.one⟩
  | addDeviceConfig deviceId devConf => exact ⟨h.emits, h.one⟩
  | removeDeviceConfig deviceId => exact ⟨h.emits, h.one⟩
  | otherAdd component nowTime intervalMs repeatCount =>
    exact otherAdd_repeatInv h component nowTime intervalMs repeatCount
  | otherRemove timerId => exact h.of_timers (s.timers.removeTimer_descends timerId)
  | otherReset nowTime timerId => exact h.of_timers (s.timers.resetTimer_descends nowTime timerId)

theorem keepsRepeat_of_emitsHeld (s : KeyboardState) (e : KeyboardEvent) (h : RepeatInv s)
    (hemits : EmitsHeld (keyboardStep s e)) : KeepsRepeat s e := by
  cases e with
  | key coop report id time nowTime =>
    exact (key_emitsHeld_iff h coop report id time nowTime).mp hemits
  | _ => trivial

/-- In a run, whatever state its timer expires in, auto-repeat emits a press
of the key recorded, which is down, precisely if every report meets the
condition. -/
theorem autoRepeat_emitsHeld_iff (now : Int64) (deviceConfig : Int32 → Option DeviceConfig)
    (events : List KeyboardEvent) :
    Always keyboardStep EmitsHeld (KeyboardState.create now deviceConfig) events ↔
      AllSteps keyboardStep KeepsRepeat (KeyboardState.create now deviceConfig) events :=
  always_iff_allSteps_of_inv (fun _ h => h.emits) repeatInv_step keepsRepeat_of_emitsHeld events
    (KeyboardState.create now deviceConfig) (create_repeatInv now deviceConfig)

/-- Keyboard 1 repeats, keyboard 2 does not. -/
def oneRepeats : Int32 → Option DeviceConfig := fun deviceId =>
  if deviceId = 2 then some { autoSwitch := 0 } else none

/-- A is pressed on keyboard 1 and held, B is pressed and released on
keyboard 2, and then the timer expires. -/
def otherKeyboard : List KeyboardEvent :=
  [.key ⟨.stateFree, false, false⟩ ⟨1, 2017, true⟩ 1 10 0,
    .key ⟨.stateFree, false, false⟩ ⟨2, 2018, true⟩ 2 20 1,
    .key ⟨.stateFree, false, false⟩ ⟨2, 2018, false⟩ 3 30 2]

/-- What is emitted is the release of B. -/
theorem counterexample_autoRepeat_emitsHeld :
    ¬ Always keyboardStep EmitsHeld (KeyboardState.create 0 oneRepeats) otherKeyboard ∧
      ((runFrom keyboardStep (KeyboardState.create 0 oneRepeats) otherKeyboard).processNext
        300 4).1.map (fun event => (event.keyAction, event.keyCode))
        = some (keyActionUp, 2018) := by
  refine ⟨fun h => ?_, by decide +kernel⟩
  have hlast := (emitsHeld_iff _).mp h.last ?_
  · exact absurd hlast.1 (by decide +kernel)
  · unfold Repeating
    decide +kernel

end FtMmi.EventHandler
