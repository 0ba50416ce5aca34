/-
FtMmi.Timer.NeverEarly — no timer is called before its interval has passed.

A run is any sequence of the operations and of rounds of `ProcessTimers`,
with any clock readings. `TimerRequests` remembers what the timer with an
id was asked for: the interval given to `AddTimer`, and the reading of that
call or of the last `ResetTimer` that found it.

`AddTimer` cuts an interval at `MAX_INTERVAL`, and the callers that ask for
more (`ANRManager` asks for five seconds in microseconds) are called then.
-/
import FtMmi.Timer.TimerHistory

namespace FtMmi.Timer

open FtMmi.Lib

variable {κ : Type}

/-! ## Runs -/

structure TimerRequests (κ : Type) where
  manager : TimerManager κ
  /-- The reading at which the timer with the id was added or last reset. -/
  since : Int → Int
  /-- The interval that it was added with. -/
  requested : Int → Int

namespace TimerRequests

def create : TimerRequests κ := ⟨.create, fun _ => 0, fun _ => 0⟩

def step (s : TimerRequests κ) (i : TimerInput κ) : TimerRequests κ :=
  let s' := { s with manager := s.manager.apply i }
  match i, s.manager.inserted i with
  | .addTimer nowTime intervalMs _ _, some timerId =>
      { s' with since := Function.update s.since timerId nowTime
                requested := Function.update s.requested timerId intervalMs }
  | .resetTimer nowTime _, some timerId =>
      { s' with since := Function.update s.since timerId nowTime }
  | _, _ => s'

@[simp] theorem step_manager (s : TimerRequests κ) (i : TimerInput κ) :
    (s.step i).manager = s.manager.apply i := by
  unfold step
  dsimp only
  split <;> rfl

/-! ## The property -/

/-- A timer that a round calls has waited for an interval. -/
def CalledAfter (wait : Int → Int) (s : TimerRequests κ) : TimerInput κ → Prop
  | .processNext nowTime =>
      ∀ t ∈ s.manager.timers.head?, (s.manager.processNext nowTime).1 = .fired t.callback →
        s.since t.id + wait (s.requested t.id) ≤ nowTime
  | _ => True

/-- The timers are called no earlier than their intervals after they were added or
reset. -/
def Waiting (s : TimerRequests κ) : Prop :=
  ∀ t ∈ s.manager.timers,
    t.intervalMs = TimerManager.boundedInterval (s.requested t.id) ∧
      s.since t.id + t.intervalMs ≤ t.nextCallTime

theorem boundedInterval_ge (intervalMs : Int) :
    0 < TimerManager.boundedInterval intervalMs ∧
      min intervalMs maxInterval ≤ TimerManager.boundedInterval intervalMs := by
  unfold TimerManager.boundedInterval minInterval maxInterval
  split
  · omega
  · split <;> omega

theorem addInt64_some {op1 op2 res : Int} (h : addInt64 op1 op2 = some res) :
    res = op1 + op2 := by
  unfold addInt64 at h
  split at h
  · split at h
    · cases h
    · exact (Option.some.inj h).symm
  · split at h
    · cases h
    · exact (Option.some.inj h).symm

/-! ## One step -/

theorem waiting_addTimer {s : TimerRequests κ} (h : Waiting s)
    (nowTime intervalMs repeatCount : Int) (callback : Option κ) :
    Waiting (s.step (.addTimer nowTime intervalMs repeatCount callback)) := by
  cases callback with
  | none => exact h
  | some callback =>
    obtain ⟨_, hfail⟩ | ⟨id, nextCallTime, hpos, hfree, hnext, hid, htimers⟩ :=
      s.manager.addTimer_item nowTime intervalMs repeatCount callback
    · have hstep : s.step (.addTimer nowTime intervalMs repeatCount (some callback)) = s := by
        simp [step, TimerManager.apply, TimerManager.inserted, hfail, nonexistentId]
      rw [hstep]
      exact h
    · have hinserted : s.manager.inserted (.addTimer nowTime intervalMs repeatCount (some callback))
          = some id := by
        simp only [TimerManager.inserted, hid]
        exact if_neg (by omega)
      simp only [Waiting, step, hinserted, TimerManager.apply, htimers]
      intro t ht
      rcases mem_insertTimer.mp ht with rfl | ht
      · simp only [Function.update_self, true_and]
        exact (addInt64_some hnext).ge
      · have hne : t.id ≠ id := by
          intro heq
          exact hfree (heq ▸ List.mem_map_of_mem ht)
        rw [Function.update_of_ne hne, Function.update_of_ne hne]
        exact h t ht

theorem waiting_resetTimer {s : TimerRequests κ} (h : Waiting s) (nowTime timerId : Int) :
    Waiting (s.step (.resetTimer nowTime timerId)) := by
  obtain ⟨_, heq⟩ | ⟨t, ht, rfl, ⟨_, hret, htimers⟩ | ⟨nextCallTime, hnext, hret, htimers⟩⟩ :=
    s.manager.resetTimer_inserts nowTime timerId
  · have hstep : s.step (.resetTimer nowTime timerId) = s := by
      simp [step, TimerManager.apply, TimerManager.inserted, heq, retErr, retOk]
    rw [hstep]
    exact h
  · have hinserted : s.manager.inserted (.resetTimer nowTime t.id) = none := by
      simp [TimerManager.inserted, hret, retErr, retOk]
    simp only [Waiting, step, hinserted, TimerManager.apply, htimers]
    exact fun a ha => h a (List.mem_of_mem_filter ha)
  · have hinserted : s.manager.inserted (.resetTimer nowTime t.id) = some t.id := by
      simp [TimerManager.inserted, hret]
    simp only [Waiting, step, hinserted, TimerManager.apply, htimers]
    intro a ha
    rcases mem_insertTimer.mp ha with rfl | ha
    · simp only [Function.update_self]
      exact ⟨(h t ht).1, (addInt64_some hnext).ge⟩
    · obtain ⟨ha, hne⟩ := List.mem_filter.mp ha
      rw [Function.update_of_ne (of_decide_eq_true hne)]
      exact h a ha

/-- A timer that is called again waits for another interval. -/
theorem waiting_processNext {s : TimerRequests κ} (h : Waiting s) (nowTime : Int) :
    Waiting (s.step (.processNext nowTime)) := by
  have hstep : s.step (.processNext nowTime)
      = { s with manager := (s.manager.processNext nowTime).2 } := by
    unfold step
    rfl
  rw [hstep]
  obtain ⟨_, hidle⟩ | ⟨t, rest, htimers, hdue, hcases⟩ := s.manager.processNext_inserts nowTime
  · rw [hidle]
    exact h
  · have hrest : ∀ a ∈ rest, a ∈ s.manager.timers := by
      intro a ha
      rw [htimers]
      exact List.mem_cons_of_mem t ha
    simp only [Waiting]
    rcases hcases with ⟨_, _, _, heq⟩ | ⟨_, _, _, heq⟩ | ⟨_, _, nextCallTime, hnext, heq⟩
    · rw [heq]
      exact fun a ha => h a (hrest a ha)
    · rw [heq]
      exact fun a ha => h a (hrest a ha)
    · rw [heq]
      intro a ha
      rcases mem_insertTimer.mp ha with rfl | ha
      · obtain ⟨hinterval, hsince⟩ := h t (by rw [htimers]; exact List.mem_cons_self)
        have hpos := (boundedInterval_ge (s.requested t.id)).1
        have hnext := addInt64_some hnext
        refine ⟨hinterval, ?_⟩
        dsimp only
        omega
      · exact h a (hrest a ha)

theorem Waiting.step {s : TimerRequests κ} (h : Waiting s) (i : TimerInput κ) :
    Waiting (s.step i) := by
  cases i with
  | addTimer nowTime intervalMs repeatCount callback =>
    exact waiting_addTimer h nowTime intervalMs repeatCount callback
  | removeTimer timerId =>
    intro t ht
    rw [step_manager, TimerManager.apply, TimerManager.removeTimer_timers] at ht
    exact h t (List.mem_of_mem_filter ht)
  | resetTimer nowTime timerId => exact waiting_resetTimer h nowTime timerId
  | processNext nowTime => exact waiting_processNext h nowTime

theorem Waiting.calledAfter {s : TimerRequests κ} (h : Waiting s) (i : TimerInput κ) :
    s.CalledAfter (fun requested => min requested maxInterval) i := by
  cases i with
  | processNext nowTime =>
    intro t ht hfired
    obtain ⟨_, hidle⟩ | ⟨first, rest, htimers, hdue, _⟩ := s.manager.processNext_inserts nowTime
    · rw [hidle] at hfired
      cases hfired
    · rw [htimers, List.head?_cons] at ht
      cases ht
      obtain ⟨hinterval, hsince⟩ := h t (by rw [htimers]; exact List.mem_cons_self)
      have hbound := (boundedInterval_ge (s.requested t.id)).2
      dsimp only
      omega
  | addTimer _ _ _ _ => trivial
  | removeTimer _ => trivial
  | resetTimer _ _ => trivial

/-! ## Every run -/

/-- In every run a timer is called once the interval given to `AddTimer` has passed
since then, or since the last `ResetTimer`, or `MAX_INTERVAL` where it is
longer. -/
theorem run_calledAfter (is : List (TimerInput κ)) :
    AllSteps TimerRequests.step (CalledAfter fun requested => min requested maxInterval)
      (.create : TimerRequests κ) is := by
  have hcreate : Waiting (.create : TimerRequests κ) := fun _ h => nomatch h
  exact allSteps_of_step (fun s i (hs : Waiting s) => hs.step i) (fun s i hs => hs.calledAfter i)
    is _ hcreate

/-- A timer for five million milliseconds is called after four seconds. -/
theorem counterexample_calledAfter :
    ¬ ∀ is : List (TimerInput Unit),
      AllSteps TimerRequests.step (CalledAfter fun requested => requested) .create is := by
  intro h
  have hall := h [.addTimer 0 5000000 1 (some ()), .processNext 4096]
  have hcalled := hall.2.1 _ rfl rfl
  exact absurd hcalled (by decide)

end TimerRequests

end FtMmi.Timer
