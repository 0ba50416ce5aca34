/-
FtMmi.Timer.TimerHistory — the timer list in every reachable state.

A run is any sequence of the operations and of rounds of `ProcessTimers`.
A call of `ProcessTimers` is some of these rounds, and what the callback
of a round calls stands between that round and the next.

The history counts the insertions and keeps, for each id, the number of
the insertion that put its timer where it stands. An operation drops
timers and inserts one at most (`Moves`), which is all the order depends
on.

A next call time overflows only where the clock is at the end of the 64-bit
range. A reading of `GetMillisTime` is far from there (`ClockInput`), and
the intervals are bounded, so that no timer is lost or refused so.
-/
import FtMmi.Lib.StepSystem
import FtMmi.Timer.TimerManager

namespace FtMmi.Timer

open FtMmi.Lib

variable {κ : Type}

/-! ## Inserting -/

/-- The timer stands behind those that are called no later, and before the
first that is called later. -/
theorem insertTimer_split (t : TimerItem κ) (timers : List (TimerItem κ)) :
    ∃ before after, timers = before ++ after ∧ insertTimer t timers = before ++ t :: after ∧
      (∀ a ∈ before, a.nextCallTime ≤ t.nextCallTime) ∧
      ∀ a ∈ after.head?, t.nextCallTime < a.nextCallTime := by
  induction timers with
  | nil => exact ⟨[], [], rfl, rfl, by simp, by simp⟩
  | cons first timers ih =>
    by_cases hlt : t.nextCallTime < first.nextCallTime
    · refine ⟨[], first :: timers, rfl, ?_, by simp, ?_⟩
      · simp [insertTimer, List.orderedInsert, hlt]
      · intro a ha
        cases ha
        exact hlt
    · obtain ⟨before, after, htimers, hinsert, hbefore, hafter⟩ := ih
      refine ⟨first :: before, after, by rw [htimers]; rfl, ?_, ?_, hafter⟩
      · rw [insertTimer] at hinsert
        simp [insertTimer, List.orderedInsert, hlt, hinsert]
      · simp only [List.mem_cons, forall_eq_or_imp]
        exact ⟨by omega, hbefore⟩

/-! ## The clock -/

/-- `GetMillisTime`: `system_clock` counts microseconds in 64 bits. -/
def getMillisTime (ticks : Int64) : Int := ticks.toInt.tdiv 1000

/-- A reading is far from the ends of the 64-bit range. -/
theorem getMillisTime_bounds (ticks : Int64) :
    -9223372036854776 < getMillisTime ticks ∧ getMillisTime ticks < 9223372036854776 := by
  have hlow := Int.tdiv_le_tdiv (by decide : (0 : Int) < 1000) ticks.le_toInt
  have hhigh := Int.tdiv_le_tdiv (by decide : (0 : Int) < 1000) (Int.le_of_lt ticks.toInt_lt)
  have hmin : (-2 ^ 63 : Int).tdiv 1000 = -9223372036854775 := by decide
  have hmax : (2 ^ 63 : Int).tdiv 1000 = 9223372036854775 := by decide
  rw [hmin] at hlow
  rw [hmax] at hhigh
  unfold getMillisTime
  omega

theorem boundedInterval_bounds (intervalMs : Int) :
    minInterval ≤ TimerManager.boundedInterval intervalMs ∧
      TimerManager.boundedInterval intervalMs ≤ maxInterval := by
  unfold TimerManager.boundedInterval minInterval maxInterval
  split
  · omega
  · split <;> omega

/-- The next call of a timer is always found. -/
theorem addInt64_interval (ticks : Int64) {interval : Int} (h : minInterval ≤ interval)
    (h' : interval ≤ maxInterval) :
    addInt64 (getMillisTime ticks) interval = some (getMillisTime ticks + interval) := by
  have hbounds := getMillisTime_bounds ticks
  unfold minInterval at h
  unfold maxInterval at h'
  unfold addInt64 int64Max int64Min
  split
  · rw [if_neg (by omega)]
  · rw [if_neg (by omega)]

/-! ## Runs -/

structure TimerHistory (κ : Type) where
  manager : TimerManager κ
  /-- By which insertion the timer with the id stands where it stands. -/
  stamp : Int → Nat
  insertions : Nat

inductive TimerInput (κ : Type) where
  | addTimer (nowTime intervalMs repeatCount : Int) (callback : Option κ)
  | removeTimer (timerId : Int)
  | resetTimer (nowTime timerId : Int)
  /-- A round of `ProcessTimers`. -/
  | processNext (nowTime : Int)

/-- The clock reading, if there is one, is one of `GetMillisTime`. -/
def TimerInput.OnClock : TimerInput κ → Prop
  | .addTimer nowTime _ _ _ => ∃ ticks, nowTime = getMillisTime ticks
  | .removeTimer _ => True
  | .resetTimer nowTime _ => ∃ ticks, nowTime = getMillisTime ticks
  | .processNext nowTime => ∃ ticks, nowTime = getMillisTime ticks

abbrev ClockInput (κ : Type) : Type := { i : TimerInput κ // i.OnClock }

def TimerManager.apply (m : TimerManager κ) : TimerInput κ → TimerManager κ
  | .addTimer nowTime intervalMs repeatCount callback =>
      (m.addTimer nowTime intervalMs repeatCount callback).2
  | .removeTimer timerId => (m.removeTimer timerId).2
  | .resetTimer nowTime timerId => (m.resetTimer nowTime timerId).2
  | .processNext nowTime => (m.processNext nowTime).2

/-- The id of the timer that an operation inserts. -/
def TimerManager.inserted (m : TimerManager κ) : TimerInput κ → Option Int
  | .addTimer nowTime intervalMs repeatCount callback =>
      let r := m.addTimer nowTime intervalMs repeatCount callback
      if r.1 < 0 then none else some r.1
  | .removeTimer _ => none
  | .resetTimer nowTime timerId =>
      if (m.resetTimer nowTime timerId).1 = retOk then some timerId else none
  | .processNext nowTime =>
      match m.timers.head? with
      | none => none
      | some t =>
          if t.nextCallTime ≤ nowTime ∧
              t.id ∈ (m.processNext nowTime).2.timers.map TimerItem.id then some t.id
          else none

namespace TimerHistory

def create : TimerHistory κ := ⟨.create, fun _ => 0, 0⟩

def step (s : TimerHistory κ) (i : TimerInput κ) : TimerHistory κ where
  manager := s.manager.apply i
  stamp :=
    match s.manager.inserted i with
    | none => s.stamp
    | some timerId => Function.update s.stamp timerId s.insertions
  insertions := if (s.manager.inserted i).isSome then s.insertions + 1 else s.insertions

end TimerHistory

/-! ## The property -/

/-- By the next call, and by the insertion among equal ones. -/
def Precedes (stamp : Int → Nat) (a b : TimerItem κ) : Prop :=
  a.nextCallTime < b.nextCallTime ∨
    a.nextCallTime = b.nextCallTime ∧ stamp a.id < stamp b.id

structure WellFormed (s : TimerHistory κ) : Prop where
  distinct : (s.manager.timers.map TimerItem.id).Nodup
  range : ∀ t ∈ s.manager.timers, 0 ≤ t.id ∧ t.id < maxTimerCount
  order : s.manager.timers.Pairwise (Precedes s.stamp)
  stamped : ∀ t ∈ s.manager.timers, s.stamp t.id < s.insertions

/-- The timer is still the same one. -/
def SameTimer (t t' : TimerItem κ) : Prop :=
  t'.id = t.id ∧ t'.intervalMs = t.intervalMs ∧ t'.repeatCount = t.repeatCount ∧
    t'.callback = t.callback

/-- The operation takes the timer away: it is removed, or has been called often
enough. -/
def Ends (t : TimerItem κ) : TimerInput κ → Prop
  | .addTimer .. => False
  | .removeTimer timerId => t.id = timerId
  | .resetTimer .. => False
  | .processNext nowTime =>
      t.nextCallTime ≤ nowTime ∧ 1 ≤ t.repeatCount ∧ t.repeatCount ≤ t.callbackCount + 1

/-- No other timer is lost. -/
def KeepsTimers (s : TimerHistory κ) (i : TimerInput κ) : Prop :=
  ∀ t ∈ s.manager.timers, Ends t i ∨ ∃ t' ∈ (s.step i).manager.timers, SameTimer t t'

/-- All ids are live. -/
def Full (m : TimerManager κ) : Prop :=
  ∀ timerId : Int, 0 ≤ timerId → timerId < maxTimerCount → timerId ∈ m.timers.map TimerItem.id

/-- `AddTimer` with a callback fails for want of an id only. -/
def AddsUnlessFull (s : TimerHistory κ) : TimerInput κ → Prop
  | .addTimer nowTime intervalMs repeatCount (some callback) =>
      (s.manager.addTimer nowTime intervalMs repeatCount (some callback)).1 < 0 →
        Full s.manager
  | _ => True

/-! ## One step -/

/-- An operation drops timers, and inserts one at most. -/
inductive Moves (m m' : TimerManager κ) : Option Int → Prop
  | drops (h : m'.timers.Sublist m.timers) : Moves m m' none
  | inserts (t : TimerItem κ) (rest : List (TimerItem κ)) (hrest : rest.Sublist m.timers)
      (hfree : t.id ∉ rest.map TimerItem.id) (h : m'.timers = insertTimer t rest) :
      Moves m m' (some t.id)

theorem not_mem_filter_id (timerId : Int) (timers : List (TimerItem κ)) :
    timerId ∉ (timers.filter fun t => t.id ≠ timerId).map TimerItem.id := by
  simp

theorem mem_insertTimer_id (t : TimerItem κ) (timers : List (TimerItem κ)) :
    t.id ∈ (insertTimer t timers).map TimerItem.id :=
  List.mem_map_of_mem (mem_insertTimer.mpr (.inl rfl))

theorem apply_moves (m : TimerManager κ) (i : TimerInput κ) :
    Moves m (m.apply i) (m.inserted i) := by
  cases i with
  | addTimer nowTime intervalMs repeatCount callback =>
    simp only [TimerManager.apply, TimerManager.inserted]
    cases callback with
    | none => exact .drops (.refl _)
    | some callback =>
      obtain ⟨_, hfail⟩ | ⟨t, _, _, _, hpos, hfree, _, hid, htimers⟩ :=
        m.addTimer_inserts nowTime intervalMs repeatCount callback
      · rw [hfail, if_pos (show nonexistentId < 0 by decide)]
        exact .drops (.refl _)
      · rw [hid, if_neg (by omega)]
        exact .inserts t m.timers (.refl _) hfree htimers
  | removeTimer timerId =>
    simp only [TimerManager.apply, TimerManager.inserted]
    refine .drops ?_
    rw [TimerManager.removeTimer_timers]
    exact List.filter_sublist
  | resetTimer nowTime timerId =>
    simp only [TimerManager.apply, TimerManager.inserted]
    obtain ⟨_, heq⟩ | ⟨t, _, rfl, ⟨_, hret, htimers⟩ | ⟨nextCallTime, _, hret, htimers⟩⟩ :=
      m.resetTimer_inserts nowTime timerId
    · rw [heq, if_neg (show retErr ≠ retOk by decide)]
      exact .drops (.refl _)
    · rw [hret, if_neg (show retErr ≠ retOk by decide)]
      refine .drops ?_
      rw [htimers]
      exact List.filter_sublist
    · rw [hret, if_pos rfl]
      exact .inserts { t with nextCallTime, callbackCount := 0 } _ List.filter_sublist
        (not_mem_filter_id t.id m.timers) htimers
  | processNext nowTime =>
    simp only [TimerManager.apply, TimerManager.inserted]
    obtain ⟨hlate, hidle⟩ | ⟨t, rest, htimers, hdue, hcases⟩ := m.processNext_inserts nowTime
    · rw [hidle]
      cases hhead : m.timers.head? with
      | none => exact .drops (.refl _)
      | some t =>
        have hlt := hlate t hhead
        simp only [not_le.mpr hlt, false_and, if_false]
        exact .drops (.refl _)
    · have hnodup := m.nodup
      rw [htimers, List.map_cons, List.nodup_cons] at hnodup
      have hsub : rest.Sublist m.timers := by
        rw [htimers]
        exact List.sublist_cons_self t rest
      simp only [htimers, List.head?_cons, hdue, true_and]
      rcases hcases with ⟨_, _, _, heq⟩ | ⟨_, _, _, heq⟩ | ⟨_, _, nextCallTime, _, heq⟩
      · rw [heq, if_neg hnodup.1]
        exact .drops (heq ▸ hsub)
      · rw [heq, if_neg hnodup.1]
        exact .drops (heq ▸ hsub)
      · have hmem : t.id ∈ (m.processNext nowTime).2.timers.map TimerItem.id := by
          rw [heq]
          exact mem_insertTimer_id { t with callbackCount := t.callbackCount + 1, nextCallTime } rest
        rw [if_pos hmem]
        exact .inserts { t with callbackCount := t.callbackCount + 1, nextCallTime } rest hsub
          hnodup.1 heq

theorem create_wellFormed : WellFormed (.create : TimerHistory κ) where
  distinct := List.nodup_nil
  range _ h := nomatch h
  order := List.Pairwise.nil
  stamped _ h := nomatch h

/-- Timers that were not inserted keep their stamps. -/
theorem precedes_update {stamp : Int → Nat} {timerId : Int} {n : Nat}
    {timers : List (TimerItem κ)} (horder : timers.Pairwise (Precedes stamp))
    (hother : timerId ∉ timers.map TimerItem.id) :
    timers.Pairwise (Precedes (Function.update stamp timerId n)) := by
  refine horder.imp_of_mem fun {a b} ha hb h => ?_
  have hsame : ∀ t ∈ timers, Function.update stamp timerId n t.id = stamp t.id := by
    intro t ht
    refine Function.update_of_ne ?_ n stamp
    rintro rfl
    exact hother (List.mem_map_of_mem ht)
  rw [Precedes, hsame a ha, hsame b hb]
  exact h

/-- Inserting with the newest stamp keeps the order. -/
theorem insertTimer_order {stamp : Int → Nat} {t : TimerItem κ} {timers : List (TimerItem κ)}
    (horder : timers.Pairwise (Precedes stamp))
    (hnewest : ∀ a ∈ timers, stamp a.id < stamp t.id) :
    (insertTimer t timers).Pairwise (Precedes stamp) := by
  obtain ⟨before, after, rfl, hinsert, hbefore, hafter⟩ := insertTimer_split t timers
  obtain ⟨horder₁, horder₂, hcross⟩ := List.pairwise_append.mp horder
  have hlater : ∀ a ∈ after, Precedes stamp t a := by
    intro a ha
    cases after with
    | nil => cases ha
    | cons first after =>
      have hfirst := hafter first rfl
      rcases List.mem_cons.mp ha with rfl | ha
      · exact .inl hfirst
      · rcases (List.pairwise_cons.mp horder₂).1 a ha with hlt | ⟨heq, _⟩
        · exact .inl (hfirst.trans hlt)
        · exact .inl (heq ▸ hfirst)
  have hearlier : ∀ a ∈ before, Precedes stamp a t := by
    intro a ha
    rcases (hbefore a ha).lt_or_eq with hlt | heq
    · exact .inl hlt
    · exact .inr ⟨heq, hnewest a (List.mem_append_left after ha)⟩
  rw [hinsert]
  refine List.pairwise_append.mpr ⟨horder₁, List.pairwise_cons.mpr ⟨hlater, horder₂⟩, ?_⟩
  intro a ha b hb
  rcases List.mem_cons.mp hb with rfl | hb
  · exact hearlier a ha
  · exact hcross a ha b hb

theorem WellFormed.step {s : TimerHistory κ} (h : WellFormed s) (i : TimerInput κ) :
    WellFormed (s.step i) := by
  have hmoves := apply_moves s.manager i
  suffices hordered : (s.step i).manager.timers.Pairwise (Precedes (s.step i).stamp) ∧
      ∀ t ∈ (s.step i).manager.timers, (s.step i).stamp t.id < (s.step i).insertions from
    ⟨(s.manager.apply i).nodup, (s.manager.apply i).range, hordered.1, hordered.2⟩
  simp only [TimerHistory.step]
  cases hinserted : s.manager.inserted i with
  | none =>
    rw [hinserted] at hmoves
    cases hmoves with
    | drops hsub => exact ⟨h.order.sublist hsub, fun t ht => h.stamped t (hsub.subset ht)⟩
  | some timerId =>
    rw [hinserted] at hmoves
    cases hmoves with
    | inserts t rest hrest hfree htimers =>
      have hnewest : ∀ a ∈ rest, Function.update s.stamp t.id s.insertions a.id
          < s.insertions := by
        intro a ha
        rw [Function.update_of_ne]
        · exact h.stamped a (hrest.subset ha)
        · intro heq
          exact hfree (heq ▸ List.mem_map_of_mem ha)
      rw [htimers]
      constructor
      · refine insertTimer_order (precedes_update (h.order.sublist hrest) hfree) fun a ha => ?_
        dsimp only
        rw [Function.update_self]
        exact hnewest a ha
      · intro a ha
        rcases mem_insertTimer.mp ha with rfl | ha
        · simp
        · exact Nat.lt_succ_of_lt (hnewest a ha)

/-! ## What is kept -/

theorem SameTimer.refl (t : TimerItem κ) : SameTimer t t := ⟨rfl, rfl, rfl, rfl⟩

/-- All intervals are as `AddTimer` bounds them. -/
def Bounded (m : TimerManager κ) : Prop :=
  ∀ t ∈ m.timers, minInterval ≤ t.intervalMs ∧ t.intervalMs ≤ maxInterval

theorem create_bounded : Bounded (.create : TimerManager κ) := fun _ h => nomatch h

theorem Bounded.apply {m : TimerManager κ} (h : Bounded m) (i : TimerInput κ) :
    Bounded (m.apply i) := by
  have hinserted : ∀ (t : TimerItem κ) (rest : List (TimerItem κ)),
      minInterval ≤ t.intervalMs ∧ t.intervalMs ≤ maxInterval → (∀ a ∈ rest, a ∈ m.timers) →
      ∀ a ∈ insertTimer t rest, minInterval ≤ a.intervalMs ∧ a.intervalMs ≤ maxInterval := by
    intro t rest ht hrest a ha
    rcases mem_insertTimer.mp ha with rfl | ha
    · exact ht
    · exact h a (hrest a ha)
  intro a ha
  cases i with
  | addTimer nowTime intervalMs repeatCount callback =>
    cases callback with
    | none => exact h a ha
    | some callback =>
      have ha : a ∈ (m.addTimer nowTime intervalMs repeatCount (some callback)).2.timers := ha
      obtain ⟨_, hfail⟩ | ⟨id, nextCallTime, _, _, _, _, htimers⟩ :=
        m.addTimer_item nowTime intervalMs repeatCount callback
      · rw [hfail] at ha
        exact h a ha
      · rw [htimers] at ha
        exact hinserted _ _ (boundedInterval_bounds intervalMs) (fun _ hold => hold) a ha
  | removeTimer timerId =>
    have ha : a ∈ (m.removeTimer timerId).2.timers := ha
    rw [TimerManager.removeTimer_timers] at ha
    exact h a (List.mem_of_mem_filter ha)
  | resetTimer nowTime timerId =>
    have ha : a ∈ (m.resetTimer nowTime timerId).2.timers := ha
    obtain ⟨_, heq⟩ | ⟨t, ht, _, ⟨_, _, htimers⟩ | ⟨nextCallTime, _, _, htimers⟩⟩ :=
      m.resetTimer_inserts nowTime timerId
    · rw [heq] at ha
      exact h a ha
    · rw [htimers] at ha
      exact h a (List.mem_of_mem_filter ha)
    · rw [htimers] at ha
      exact hinserted { t with nextCallTime, callbackCount := 0 } _ (h t ht)
        (fun _ hold => List.mem_of_mem_filter hold) a ha
  | processNext nowTime =>
    have ha : a ∈ (m.processNext nowTime).2.timers := ha
    obtain ⟨_, hidle⟩ | ⟨t, rest, htimers, _, hcases⟩ := m.processNext_inserts nowTime
    · rw [hidle] at ha
      exact h a ha
    · have hrest : ∀ a ∈ rest, a ∈ m.timers := by
        intro a ha
        rw [htimers]
        exact List.mem_cons_of_mem t ha
      rcases hcases with ⟨_, _, _, heq⟩ | ⟨_, _, _, heq⟩ | ⟨_, _, nextCallTime, _, heq⟩
      · rw [heq] at ha
        exact h a (hrest a ha)
      · rw [heq] at ha
        exact h a (hrest a ha)
      · rw [heq] at ha
        have ht : t ∈ m.timers := by
          rw [htimers]
          exact List.mem_cons_self
        exact hinserted { t with callbackCount := t.callbackCount + 1, nextCallTime } rest (h t ht)
          hrest a ha

/-- All but the timer with the id are kept, and that one stands somewhere else. -/
theorem mem_insertTimer_filter {timers : List (TimerItem κ)} {t t' a : TimerItem κ}
    (hsame : SameTimer t t') (hunique : a.id = t.id → a = t) (ha : a ∈ timers) :
    ∃ b ∈ insertTimer t' (timers.filter fun a => a.id ≠ t.id), SameTimer a b := by
  by_cases hid : a.id = t.id
  · rw [hunique hid]
    exact ⟨t', mem_insertTimer.mpr (.inl rfl), hsame⟩
  · refine ⟨a, mem_insertTimer.mpr (.inr ?_), .refl a⟩
    exact List.mem_filter.mpr ⟨ha, decide_eq_true hid⟩

theorem step_keepsTimers {s : TimerHistory κ} (h : Bounded s.manager) {i : TimerInput κ}
    (hclock : i.OnClock) : KeepsTimers s i := by
  intro a ha
  cases i with
  | addTimer nowTime intervalMs repeatCount callback =>
    refine .inr ⟨a, ?_, .refl a⟩
    show a ∈ (s.manager.addTimer nowTime intervalMs repeatCount callback).2.timers
    cases callback with
    | none => exact ha
    | some callback =>
      obtain ⟨_, hfail⟩ | ⟨t, _, _, _, _, _, _, _, htimers⟩ :=
        s.manager.addTimer_inserts nowTime intervalMs repeatCount callback
      · rw [hfail]
        exact ha
      · rw [htimers]
        exact mem_insertTimer.mpr (.inr ha)
  | removeTimer timerId =>
    by_cases hid : a.id = timerId
    · exact .inl hid
    · refine .inr ⟨a, ?_, .refl a⟩
      show a ∈ (s.manager.removeTimer timerId).2.timers
      rw [TimerManager.removeTimer_timers]
      exact List.mem_filter.mpr ⟨ha, decide_eq_true hid⟩
  | resetTimer nowTime timerId =>
    show _ ∨ ∃ t' ∈ (s.manager.resetTimer nowTime timerId).2.timers, SameTimer a t'
    obtain ⟨_, heq⟩ | ⟨t, ht, rfl, hcases⟩ := s.manager.resetTimer_inserts nowTime timerId
    · rw [heq]
      exact .inr ⟨a, ha, .refl a⟩
    · have hunique : a.id = t.id → a = t := List.inj_on_of_nodup_map s.manager.nodup ha ht
      obtain ⟨hover, _, _⟩ | ⟨nextCallTime, _, _, htimers⟩ := hcases
      · obtain ⟨ticks, rfl⟩ := hclock
        rw [addInt64_interval ticks (h t ht).1 (h t ht).2] at hover
        cases hover
      · rw [htimers]
        exact .inr (mem_insertTimer_filter ⟨rfl, rfl, rfl, rfl⟩ hunique ha)
  | processNext nowTime =>
    show _ ∨ ∃ t' ∈ (s.manager.processNext nowTime).2.timers, SameTimer a t'
    obtain ⟨_, hidle⟩ | ⟨t, rest, htimers, hdue, hcases⟩ := s.manager.processNext_inserts nowTime
    · rw [hidle]
      exact .inr ⟨a, ha, .refl a⟩
    · have ht : t ∈ s.manager.timers := by
        rw [htimers]
        exact List.mem_cons_self
      rw [htimers] at ha
      rcases hcases with ⟨hrepeat, hcalled, _, heq⟩ | ⟨_, hover, _, _⟩ |
        ⟨_, _, nextCallTime, _, heq⟩
      · rcases List.mem_cons.mp ha with rfl | ha
        · exact .inl ⟨hdue, hrepeat, hcalled⟩
        · exact .inr ⟨a, heq ▸ ha, .refl a⟩
      · obtain ⟨ticks, rfl⟩ := hclock
        rw [addInt64_interval ticks (h t ht).1 (h t ht).2] at hover
        cases hover
      · rw [heq]
        rcases List.mem_cons.mp ha with rfl | ha
        · exact .inr ⟨_, mem_insertTimer.mpr (.inl rfl), rfl, rfl, rfl, rfl⟩
        · exact .inr ⟨a, mem_insertTimer.mpr (.inr ha), .refl a⟩

theorem step_addsUnlessFull (s : TimerHistory κ) {i : TimerInput κ} (hclock : i.OnClock) :
    AddsUnlessFull s i := by
  cases i with
  | addTimer nowTime intervalMs repeatCount callback =>
    cases callback with
    | none => trivial
    | some callback =>
      intro hneg
      obtain ⟨hfull | hover, _⟩ | ⟨t, _, _, _, hpos, _, _, hid, _⟩ :=
        s.manager.addTimer_inserts nowTime intervalMs repeatCount callback
      · obtain ⟨_, hall⟩ | ⟨hpos, _, _⟩ := takeNextTimerId_cases s.manager
        · intro timerId hpos hlt
          obtain ⟨t, ht, hid⟩ := hall timerId.toNat (by omega)
          exact List.mem_map.mpr ⟨t, ht, by omega⟩
        · omega
      · obtain ⟨ticks, rfl⟩ := hclock
        have hbounds := boundedInterval_bounds intervalMs
        rw [addInt64_interval ticks hbounds.1 hbounds.2] at hover
        cases hover
      · omega
  | _ => trivial

/-! ## Every run -/

/-- In every run the ids are distinct and in range, the list is in the order of
the next calls and of the insertions, no timer is lost by being inserted
anew, and `AddTimer` finds an id unless all are live. -/
theorem timerManager_wellFormed (is : List (ClockInput κ)) :
    Always (fun s i => s.step i.1) WellFormed (.create : TimerHistory κ) is ∧
      AllSteps (fun s i => s.step i.1)
        (fun s i => KeepsTimers s i.1 ∧ AddsUnlessFull s i.1) (.create : TimerHistory κ) is := by
  have hwellFormed : ∀ (s : TimerHistory κ) (i : ClockInput κ), WellFormed s →
      WellFormed (s.step i.1) := fun s i hs => hs.step i.1
  have hbounded : ∀ (s : TimerHistory κ) (i : ClockInput κ), Bounded s.manager →
      Bounded (s.step i.1).manager := fun s i hs => hs.apply i.1
  constructor
  · exact always_of_step hwellFormed is _ create_wellFormed
  · exact allSteps_of_step hbounded
      (fun s i hs => ⟨step_keepsTimers hs i.2, step_addsUnlessFull s i.2⟩) is _ create_bounded

end FtMmi.Timer
