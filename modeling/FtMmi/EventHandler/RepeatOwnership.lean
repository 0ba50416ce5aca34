/-
FtMmi.EventHandler.RepeatOwnership — whose timers auto-repeat removes.

`KeyAutoRepeat` keeps the id of its timer. There is never more than one
timer of auto-repeat, and it is the one with that id (`OneRepeatTimer`).
But the id may outlive the timer: `KeyAutoRepeat::RemoveTimer`, which the
cooperation calls, does not reset it as `SelectAutoRepeat` does. Once
another component's timer is added under the same id, the next key takes
it for the own one.

While the callback of the timer runs, the handlers behind may add timers
before the next timer of auto-repeat is added; `fires` has them.
-/
import FtMmi.EventHandler.AutoRepeatTheorems

namespace FtMmi.EventHandler

open FtMmi.Event
open FtMmi.Lib
open FtMmi.Timer

/-! ## Runs -/

/-- What another component does to the timers. -/
inductive OtherUse where
  | add (component : Nat) (nowTime intervalMs repeatCount : Int)
  | remove (timerId : Int)
  | reset (nowTime timerId : Int)

def OtherUse.event : OtherUse → KeyboardEvent
  | .add component nowTime intervalMs repeatCount =>
      .otherAdd component nowTime intervalMs repeatCount
  | .remove timerId => .otherRemove timerId
  | .reset nowTime timerId => .otherReset nowTime timerId

inductive RepeatInput where
  | event (e : KeyboardEvent)
  /-- A round of `ProcessTimers`. If the timer is that of auto-repeat, its callback
  hands the event on, and adds the next timer after what the handlers do. -/
  | fires (nowTime : Int) (handlers : List OtherUse) (addTime : Int) (id : Int32)

namespace KeyboardState

def uses (s : KeyboardState) (others : List OtherUse) : KeyboardState :=
  others.foldl (fun s other => keyboardStep s other.event) s

def fires (s : KeyboardState) (nowTime : Int) (handlers : List OtherUse) (addTime : Int)
    (id : Int32) : KeyboardState :=
  let r := s.timers.processNext nowTime
  let s := { s with timers := r.2 }
  match r.1 with
  | .fired .keyAutoRepeat => ((s.uses handlers).onHandleTimer addTime id).2
  | .fired (.other _) => s
  | .idle => s
  | .dropped => s

def repeatStep (s : KeyboardState) : RepeatInput → KeyboardState
  | .event e => keyboardStep s e
  | .fires nowTime handlers addTime id => s.fires nowTime handlers addTime id

/-- The id that `KeyAutoRepeat` calls `TimerMgr->RemoveTimer` with. -/
def removes (s : KeyboardState) : RepeatInput → Option Int
  | .event (.key coop report _ _ _) =>
      if s.reachesRepeat coop report = true ∧ s.timers.isExist s.timerId = true then
        some s.timerId
      else none
  | .event .removeTimer => some s.timerId
  | _ => none

end KeyboardState

/-! ## The property -/

/-- A call finds no timer of another component; and if the timer of auto-repeat is
live, it is the one found. -/
def TargetsOwn (s : KeyboardState) (i : RepeatInput) : Prop :=
  ∀ timerId ∈ s.removes i,
    (∀ t ∈ s.timers.timers, t.id = timerId → t.callback = .keyAutoRepeat) ∧
      (Repeating s → ∃ t ∈ s.timers.timers, t.id = timerId ∧ t.callback = .keyAutoRepeat)

/-- At most one timer of auto-repeat is live. -/
def OneLive (s : KeyboardState) : Prop :=
  ∀ t ∈ s.timers.timers, ∀ t' ∈ s.timers.timers, t.callback = .keyAutoRepeat →
    t'.callback = .keyAutoRepeat → t = t'

/-- No timer of another component is added under the id that auto-repeat keeps. -/
def NotReused (s : KeyboardState) : RepeatInput → Prop
  | .event (.otherAdd component nowTime intervalMs repeatCount) =>
      let timerId := (s.timers.addTimer nowTime intervalMs repeatCount (some (.other component))).1
      timerId = s.timerId → timerId = nonexistentId
  | _ => True

instance (s : KeyboardState) (i : RepeatInput) : Decidable (NotReused s i) := by
  cases i with
  | event e => cases e <;> unfold NotReused <;> infer_instance
  | fires _ _ _ _ => exact isTrue trivial

/-- A live timer with the id kept is that of auto-repeat. -/
def OwnId (s : KeyboardState) : Prop :=
  ∀ t ∈ s.timers.timers, t.id = s.timerId → t.callback = .keyAutoRepeat

/-! ## At most one timer -/

/-- The handlers add no timer of auto-repeat. -/
theorem uses_not_repeating {s : KeyboardState} (h : ¬ Repeating s) (others : List OtherUse) :
    ¬ Repeating (s.uses others) := by
  induction others generalizing s with
  | nil => exact h
  | cons other others ih =>
    refine ih ?_
    have hfrom : ∀ {timers : TimerManager TimerClient}, s.timers.Descends timers →
        ¬ Repeating { s with timers := timers } := by
      rintro timers hfrom ⟨t', ht', hcb'⟩
      obtain ⟨t, ht, _, hcb, _⟩ := hfrom t' ht'
      exact h ⟨t, ht, hcb.symm.trans hcb'⟩
    cases other with
    | add component nowTime intervalMs repeatCount =>
      rintro ⟨t, ht, hcb⟩
      rcases TimerManager.mem_addTimer ht with hmem | ⟨hother, _⟩
      · exact h ⟨t, hmem, hcb⟩
      · rw [hcb] at hother
        cases hother
    | remove timerId => exact hfrom (s.timers.removeTimer_descends timerId)
    | reset nowTime timerId => exact hfrom (s.timers.resetTimer_descends nowTime timerId)

theorem fires_oneRepeatTimer {s : KeyboardState} (h : OneRepeatTimer s) (nowTime : Int)
    (handlers : List OtherUse) (addTime : Int) (id : Int32) :
    OneRepeatTimer (s.fires nowTime handlers addTime id) := by
  have hsub : OneRepeatTimer { s with timers := (s.timers.processNext nowTime).2 } :=
    h.of_timers (s.timers.processNext_descends nowTime)
  simp only [KeyboardState.fires]
  split
  · rename_i hfired
    have hnot : ¬ Repeating { s with timers := (s.timers.processNext nowTime).2 } :=
      fun ⟨t, ht, hcb⟩ => fired_not_repeating h hfired t ht hcb
    have huses := uses_not_repeating hnot handlers
    exact addHandleTimer_oneRepeatTimer (s := { KeyboardState.uses _ handlers with
      keyEvent := { (KeyboardState.uses _ handlers).keyEvent with id := id } }) huses _ _
  · exact hsub
  · exact hsub
  · exact hsub

/-- A round with no handlers between. -/
theorem processNext_eq_fires (s : KeyboardState) (nowTime : Int) (id : Int32) :
    (s.processNext nowTime id).2 = s.fires nowTime [] nowTime id := by
  simp only [KeyboardState.processNext, KeyboardState.fires]
  cases (s.timers.processNext nowTime).1 with
  | idle => rfl
  | dropped => rfl
  | fired client => cases client <;> rfl

theorem repeatStep_oneRepeatTimer (s : KeyboardState) (i : RepeatInput) (h : OneRepeatTimer s) :
    OneRepeatTimer (s.repeatStep i) := by
  cases i with
  | fires nowTime handlers addTime id => exact fires_oneRepeatTimer h nowTime handlers addTime id
  | event e =>
    cases e with
    | key coop report id time nowTime => exact key_oneRepeatTimer h coop report id time nowTime
    | processNext nowTime id =>
      show OneRepeatTimer (s.processNext nowTime id).2
      rw [processNext_eq_fires]
      exact fires_oneRepeatTimer h nowTime [] nowTime id
    | removeTimer => exact h.of_timers (s.timers.removeTimer_descends s.timerId)
    | setFunctionKey funcKey => cases funcKey <;> exact h
    | addDeviceConfig deviceId devConf => exact h
    | removeDeviceConfig deviceId => exact h
    | otherAdd component nowTime intervalMs repeatCount =>
      exact otherAdd_oneRepeatTimer h component nowTime intervalMs repeatCount
    | otherRemove timerId => exact h.of_timers (s.timers.removeTimer_descends timerId)
    | otherReset nowTime timerId => exact h.of_timers (s.timers.resetTimer_descends nowTime timerId)

theorem OneRepeatTimer.oneLive {s : KeyboardState} (h : OneRepeatTimer s) : OneLive s := by
  intro t ht t' ht' hcb hcb'
  exact List.inj_on_of_nodup_map s.timers.nodup ht ht' ((h t ht hcb).1.trans (h t' ht' hcb').1.symm)

/-! ## The id kept -/

/-- The id of a new timer is nobody else's. -/
theorem addHandleTimer_ownId (s : KeyboardState) (nowTime : Int) (timeout : Int32) :
    OwnId (s.addHandleTimer nowTime timeout) := by
  intro t ht hid
  rcases s.timers.addTimer_cases nowTime timeout.toInt 1 .keyAutoRepeat with
    ⟨hnone, _⟩ | ⟨new, hcb, _, _, _, hfree, hnew, hperm⟩
  · -- None was added, and `-1` is no id.
    have hpos := ((s.addHandleTimer nowTime timeout).timers.range t ht).1
    have hkept : t.id = nonexistentId := hid.trans hnone
    rw [hkept] at hpos
    exact absurd hpos (by decide)
  · rcases List.mem_cons.mp (hperm.mem_iff.mp ht) with rfl | hmem
    · exact hcb
    · have hkept : t.id = new.id := hid.trans hnew
      exact absurd (hkept ▸ List.mem_map_of_mem hmem) hfree

theorem OwnId.of_timers {s : KeyboardState} (h : OwnId s) {timers : TimerManager TimerClient}
    (hfrom : s.timers.Descends timers) : OwnId { s with timers := timers } := by
  intro t' ht' hid'
  obtain ⟨t, ht, hid, hcb, _⟩ := hfrom t' ht'
  exact hcb.trans (h t ht (hid.symm.trans hid'))

theorem stopTimer_ownId (s : KeyboardState) : OwnId s.stopTimer := by
  intro t ht hid
  have hpos := (s.stopTimer.timers.range t ht).1
  have hkept : t.id = -1 := hid
  omega

theorem key_ownId {s : KeyboardState} (h : OwnId s) (coop : Cooperation) (report : KeyReport)
    (id : Int32) (time : Int64) (nowTime : Int) :
    OwnId (s.handleKeyboardEvent coop report id time nowTime) := by
  have hnormalized : OwnId (s.normalized report id time) := h
  rw [KeyboardState.handleKeyboardEvent_eq]
  split
  · split
    · exact addHandleTimer_ownId _ _ _
    · unfold KeyboardState.repeatUp
      split
      · split
        · exact addHandleTimer_ownId _ _ _
        · exact stopTimer_ownId _
      · exact hnormalized
  · exact hnormalized

theorem fires_ownId {s : KeyboardState} (h : OwnId s) (nowTime : Int)
    (handlers : List OtherUse) (addTime : Int) (id : Int32) :
    OwnId (s.fires nowTime handlers addTime id) := by
  have hsub : OwnId { s with timers := (s.timers.processNext nowTime).2 } :=
    h.of_timers (s.timers.processNext_descends nowTime)
  simp only [KeyboardState.fires]
  split
  · exact addHandleTimer_ownId _ _ _
  · exact hsub
  · exact hsub
  · exact hsub

theorem repeatStep_ownId (s : KeyboardState) (i : RepeatInput) (h : OwnId s)
    (hreused : NotReused s i) : OwnId (s.repeatStep i) := by
  cases i with
  | fires nowTime handlers addTime id => exact fires_ownId h nowTime handlers addTime id
  | event e =>
    cases e with
    | key coop report id time nowTime => exact key_ownId h coop report id time nowTime
    | processNext nowTime id =>
      show OwnId (s.processNext nowTime id).2
      rw [processNext_eq_fires]
      exact fires_ownId h nowTime [] nowTime id
    | removeTimer => exact h.of_timers (s.timers.removeTimer_descends s.timerId)
    | setFunctionKey funcKey => cases funcKey <;> exact h
    | addDeviceConfig deviceId devConf => exact h
    | removeDeviceConfig deviceId => exact h
    | otherAdd component nowTime intervalMs repeatCount =>
      intro t ht hid
      have hpos := ((keyboardStep s (.otherAdd component nowTime intervalMs
        repeatCount)).timers.range t ht).1
      rcases TimerManager.mem_addTimer ht with hmem | ⟨_, _, _, hnew, _⟩
      · exact h t hmem hid
      · have hnone := hreused (hnew.symm.trans hid)
        rw [hnew.trans hnone] at hpos
        exact absurd hpos (by decide)
    | otherRemove timerId => exact h.of_timers (s.timers.removeTimer_descends timerId)
    | otherReset nowTime timerId => exact h.of_timers (s.timers.resetTimer_descends nowTime timerId)

/-! ## The calls -/

theorem targetsOwn_of_ownId {s : KeyboardState} (hone : OneRepeatTimer s) (hown : OwnId s)
    (i : RepeatInput) : TargetsOwn s i := by
  intro timerId hcall
  have hid : timerId = s.timerId := by
    unfold KeyboardState.removes at hcall
    split at hcall
    · split at hcall
      · exact (Option.some.inj hcall).symm
      · cases hcall
    · exact (Option.some.inj hcall).symm
    · cases hcall
  subst hid
  exact ⟨hown, fun ⟨t, ht, hcb⟩ => ⟨t, ht, (hone t ht hcb).1, hcb⟩⟩

/-- In every run at most one timer of auto-repeat is live; and in every run in which no
other component gets the id that it keeps, its calls of `RemoveTimer` find its own
timer. -/
theorem repeatOwnership (now : Int64) (deviceConfig : Int32 → Option DeviceConfig)
    (is : List RepeatInput) :
    Always KeyboardState.repeatStep OneLive (KeyboardState.create now deviceConfig) is ∧
      (AllSteps KeyboardState.repeatStep NotReused (KeyboardState.create now deviceConfig) is →
        AllSteps KeyboardState.repeatStep TargetsOwn (KeyboardState.create now deviceConfig) is) := by
  have hone : OneRepeatTimer (KeyboardState.create now deviceConfig) := fun _ h => nomatch h
  have hown : OwnId (KeyboardState.create now deviceConfig) := fun _ h => nomatch h
  constructor
  · exact (always_of_step repeatStep_oneRepeatTimer is _ hone).mono fun _ h => h.oneLive
  · exact allSteps_of_allSteps (I := fun s => OneRepeatTimer s ∧ OwnId s)
      (fun s i h hreused => ⟨repeatStep_oneRepeatTimer s i h.1, repeatStep_ownId s i h.2 hreused⟩)
      (fun s i h _ => targetsOwn_of_ownId h.1 h.2 i) is _ ⟨hone, hown⟩

/-- A key is pressed and the cooperation stops auto-repeat; then another component adds a
timer, and another key is pressed. -/
def stoppedRepeat (others : List RepeatInput) : List RepeatInput :=
  .event (.key ⟨.stateFree, false, false⟩ ⟨1, 2017, true⟩ 1 10 0) :: .event .removeTimer ::
    (others ++ [RepeatInput.event (.key ⟨.stateFree, false, false⟩ ⟨1, 2018, true⟩ 2 20 10)])

theorem repeatOwnership_stopped :
    AllSteps KeyboardState.repeatStep TargetsOwn (KeyboardState.create 0 fun _ => none)
      (stoppedRepeat []) :=
  (repeatOwnership 0 (fun _ => none) (stoppedRepeat [])).2 (by decide +kernel)

/-- The other timer has got the id, and is removed. -/
theorem counterexample_repeatOwnership :
    ¬ ∀ is, AllSteps KeyboardState.repeatStep TargetsOwn (KeyboardState.create 0 fun _ => none)
      is := by
  intro h
  have hcall := (h (stoppedRepeat [.event (.otherAdd 7 5 1000 1)])).2.2.2.1 0 (by decide +kernel)
  have hlive : ∀ t ∈ (runFrom KeyboardState.repeatStep (KeyboardState.create 0 fun _ => none)
      [.event (.key ⟨.stateFree, false, false⟩ ⟨1, 2017, true⟩ 1 10 0), .event .removeTimer,
        .event (.otherAdd 7 5 1000 1)]).timers.timers, t.id = 0 → t.callback = .keyAutoRepeat :=
    hcall.1
  revert hlive
  decide +kernel

end FtMmi.EventHandler
