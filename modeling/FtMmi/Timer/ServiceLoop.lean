/-
FtMmi.Timer.ServiceLoop — the loop of the service
(`MMIService::OnThread`, `TimerManager::CalcNextDelay`).

A round of the loop waits for an event, at most as long as `CalcNextDelay`
says, lets the handlers of the events run, and calls `ProcessTimers`. Of
the handlers only what they do to the timers is kept.

How long `EpollWait` and the handlers take is not up to the loop. `Punctual`
bounds it: `slack` for a round after its wait, `pause` for the callbacks of
the timers. Under these bounds a timer is late by at most both
(`loop_onTime`), since no round waits beyond the first timer (`Rested`).
-/
import FtMmi.Timer.TimerCalls

namespace FtMmi.Timer

open FtMmi.Lib

variable {κ : Type}

/-! ## The loop -/

def minDelay : Int32 := -1

/-- A round of the loop, with the clock readings it makes: before the wait, in
`ProcessTimers`, and when that is through. -/
structure Round (κ : Type) where
  ticks : Int64
  ops : List (TimedOp κ)
  passTicks : Int64
  callbacks : Nat → List (TimedOp κ)
  endTicks : Int64

namespace Round

/-- The reading before the wait. -/
def start (r : Round κ) : Int := getMillisTime r.ticks

/-- The reading of `ProcessTimers`. -/
def pass (r : Round κ) : Int := getMillisTime r.passTicks

end Round

/-- What a round has done. -/
structure Waited (κ : Type) where
  round : Round κ
  timeout : Int32
  called : List (TimerItem κ)

namespace TimerManager

/-- `CalcNextDelayInternal`. The difference is narrowed to 32 bits. -/
def calcNextDelay (m : TimerManager κ) (nowTime : Int) : Int32 :=
  match m.timers with
  | [] => minDelay
  | item :: _ =>
      if item.nextCallTime ≤ nowTime then 0 else Int32.ofInt (item.nextCallTime - nowTime)

/-- The body of the loop of `OnThread`. -/
def runRound (m : TimerManager κ) (r : Round κ) : Option (Waited κ × TimerManager κ) :=
  let timeout := m.calcNextDelay r.start
  let handled := m.performAll r.ops
  (processTimers r.pass r.callbacks (handled.timers.length + 1) 0 handled).map fun p =>
    (⟨r, timeout, calls p.1⟩, p.2)

def onThread (m : TimerManager κ) : List (Round κ) → Option (List (Waited κ) × TimerManager κ)
  | [] => some ([], m)
  | r :: rounds =>
      (m.runRound r).bind fun p => (p.2.onThread rounds).map fun q => (p.1 :: q.1, q.2)

end TimerManager

/-! ## The time it takes -/

/-- The operation is done between two readings of the clock. -/
def TimedOp.Between (early late : Int) (o : TimedOp κ) : Prop :=
  early ≤ getMillisTime o.ticks ∧ getMillisTime o.ticks ≤ late

/-- A round on the timers `m`, after a round that passed at `last` and ended at
`ended`. The wait ends with an event or after the time that was asked for;
it and the handlers exceed that by no more than `slack`. -/
structure Punctual (slack pause last ended : Int) (m : TimerManager κ) (r : Round κ) : Prop where
  start : ended ≤ r.start ∧ r.start ≤ last + pause
  ops : ∀ o ∈ r.ops, o.Between r.start r.pass
  handled : ∀ o ∈ r.ops, r.pass ≤ getMillisTime o.ticks + slack
  pass : r.start ≤ r.pass
  waited : 0 ≤ (m.calcNextDelay r.start).toInt →
    r.pass ≤ r.start + (m.calcNextDelay r.start).toInt + slack
  callbacks : ∀ i, ∀ o ∈ r.callbacks i, o.Between r.pass (getMillisTime r.endTicks)
  ended : r.pass ≤ getMillisTime r.endTicks

/-- All rounds are punctual. -/
def PunctualRounds (slack pause : Int) : Int → Int → TimerManager κ → List (Round κ) → Prop
  | _, _, _, [] => True
  | last, ended, m, r :: rounds =>
      Punctual slack pause last ended m r ∧
        ∀ w m', m.runRound r = some (w, m') →
          PunctualRounds slack pause r.pass (getMillisTime r.endTicks) m' rounds

/-! ## Between two rounds -/

/-- No timer in the list was due at the last pass, and none is set further ahead
than an interval can be. -/
structure Rested (last ended : Int) (m : TimerManager κ) : Prop where
  sound : Sound m
  notDue : ∀ t ∈ m.timers, last < t.nextCallTime
  near : ∀ t ∈ m.timers, t.nextCallTime ≤ ended + maxInterval

/-- The timer is set at a reading. -/
def TimerItem.SetAt (t : TimerItem κ) (nowTime : Int) : Prop :=
  nowTime + minInterval ≤ t.nextCallTime ∧ t.nextCallTime ≤ nowTime + maxInterval

namespace TimerManager

/-- A timer in the list was there before the operation, or is set by it. -/
theorem mem_perform_cases {m : TimerManager κ} (h : Sound m) {o : TimedOp κ} {t : TimerItem κ}
    (ht : t ∈ (m.perform o).timers) : t ∈ m.timers ∨ t.SetAt (getMillisTime o.ticks) := by
  obtain ⟨ticks, op⟩ := o
  cases op with
  | addTimer intervalMs repeatCount callback =>
    cases callback with
    | none => exact .inl ht
    | some callback =>
      obtain ⟨_, hfail⟩ | ⟨id, nextCallTime, _, _, hnext, _, htimers⟩ :=
        m.addTimer_item (getMillisTime ticks) intervalMs repeatCount callback
      · exact .inl (by simpa only [perform, hfail] using ht)
      · have hbounds := boundedInterval_bounds intervalMs
        rw [addInt64_interval ticks hbounds.1 hbounds.2] at hnext
        obtain rfl := Option.some.inj hnext
        simp only [perform, htimers, mem_insertTimer] at ht
        rcases ht with rfl | ht
        · exact .inr ⟨Int.add_le_add_left hbounds.1 _, Int.add_le_add_left hbounds.2 _⟩
        · exact .inl ht
  | removeTimer timerId =>
    simp only [perform, removeTimer_timers] at ht
    exact .inl (List.mem_filter.mp ht).1
  | resetTimer timerId =>
    obtain ⟨_, heq⟩ | ⟨u, hu, _, ⟨_, _, htimers⟩ | ⟨nextCallTime, hnext, _, htimers⟩⟩ :=
      m.resetTimer_inserts (getMillisTime ticks) timerId
    · exact .inl (by simpa only [perform, heq] using ht)
    · simp only [perform, htimers] at ht
      exact .inl (List.mem_filter.mp ht).1
    · have hbounds := h.intervals u hu
      rw [addInt64_interval ticks hbounds.1 hbounds.2] at hnext
      obtain rfl := Option.some.inj hnext
      simp only [perform, htimers, mem_insertTimer] at ht
      rcases ht with rfl | ht
      · exact .inr ⟨Int.add_le_add_left hbounds.1 _, Int.add_le_add_left hbounds.2 _⟩
      · exact .inl (List.mem_filter.mp ht).1

theorem mem_performAll_cases {m : TimerManager κ} (h : Sound m) {ops : List (TimedOp κ)}
    {t : TimerItem κ} (ht : t ∈ (m.performAll ops).timers) :
    t ∈ m.timers ∨ ∃ o ∈ ops, t.SetAt (getMillisTime o.ticks) := by
  induction ops generalizing m with
  | nil => exact .inl ht
  | cons o ops ih =>
    obtain hmem | ⟨o', ho', hset⟩ := ih (perform_sound h o) ht
    · obtain hmem | hset := mem_perform_cases h hmem
      · exact .inl hmem
      · exact .inr ⟨o, List.mem_cons_self, hset⟩
    · exact .inr ⟨o', List.mem_cons_of_mem o ho', hset⟩

/-- A timer in the list was there before the call of the first timer, or is the
first timer, set anew. -/
theorem mem_processNext_cases {m : TimerManager κ} (h : Sound m) {ticks : Int64}
    {t : TimerItem κ} (ht : t ∈ (m.processNext (getMillisTime ticks)).2.timers) :
    t ∈ m.timers ∨ t.SetAt (getMillisTime ticks) := by
  obtain ⟨_, hidle⟩ | ⟨u, rest, htimers, _, hround⟩ := m.processNext_inserts (getMillisTime ticks)
  · exact .inl (by simpa only [hidle] using ht)
  have hbounds := h.intervals u (htimers ▸ List.mem_cons_self)
  obtain ⟨_, _, _, heq⟩ | ⟨_, hover, _⟩ | ⟨_, _, nextCallTime, hnext, heq⟩ := hround
  · exact .inl (htimers ▸ List.mem_cons_of_mem u (heq ▸ ht))
  · rw [addInt64_interval ticks hbounds.1 hbounds.2] at hover
    cases hover
  · rw [addInt64_interval ticks hbounds.1 hbounds.2] at hnext
    obtain rfl := Option.some.inj hnext
    rw [heq, mem_insertTimer] at ht
    rcases ht with rfl | ht
    · exact .inr ⟨Int.add_le_add_left hbounds.1 _, Int.add_le_add_left hbounds.2 _⟩
    · exact .inl (htimers ▸ List.mem_cons_of_mem u ht)

/-- A pass leaves no timer that is due. -/
theorem processTimers_rested {ticks : Int64} {callbacks : Nat → List (TimedOp κ)} {ended : Int}
    (hbetween : ∀ i, ∀ o ∈ callbacks i, o.Between (getMillisTime ticks) ended)
    (hended : getMillisTime ticks ≤ ended) (fuel : Nat) :
    ∀ (i : Nat) {m m' : TimerManager κ} {log : List (Happening κ)}, Sound m →
      (∀ t ∈ m.timers, t.nextCallTime ≤ ended + maxInterval) →
      processTimers (getMillisTime ticks) callbacks fuel i m = some (log, m') →
      Rested (getMillisTime ticks) ended m' := by
  induction fuel with
  | zero =>
    intro i m m' log _ _ hrun
    cases hrun
  | succ fuel ih =>
    intro i m m' log h hnear hrun
    obtain ⟨hnone, hidle⟩ | ⟨t, next, hfired, hfirst⟩ := processNext_callsFirst h ticks
    · rw [processTimers, hidle] at hrun
      cases hrun
      refine ⟨h, fun t ht => ?_, hnear⟩
      simpa using List.filter_eq_nil_iff.mp hnone t ht
    · simp only [processTimers, hfired, hfirst.first] at hrun
      obtain ⟨r, hrest, heq⟩ := Option.map_eq_some_iff.mp hrun
      obtain ⟨-, rfl⟩ := Prod.mk.inj heq
      refine ih (i + 1) (performAll_sound hfirst.sound _) (fun u hu => ?_) hrest
      obtain hmem | ⟨o, ho, -, hset⟩ := mem_performAll_cases hfirst.sound hu
      · have hnext : next = (m.processNext (getMillisTime ticks)).2 := by rw [hfired]
        obtain hmem | ⟨-, hset⟩ := mem_processNext_cases h (hnext ▸ hmem)
        · exact hnear u hmem
        · omega
      · have := (hbetween i o ho).2
        omega

/-! ## The wait -/

/-- With the timers in order, the time until the first is the least. -/
theorem calcNextDelay_cases {m : TimerManager κ} {last ended nowTime : Int}
    (h : Rested last ended m) (hended : ended ≤ nowTime) :
    (m.timers = [] ∧ m.calcNextDelay nowTime = minDelay) ∨
    ∃ t, m.timers.head? = some t ∧ (∀ u ∈ m.timers, t.nextCallTime ≤ u.nextCallTime) ∧
      0 ≤ (m.calcNextDelay nowTime).toInt ∧ (m.calcNextDelay nowTime).toInt ≤ maxInterval ∧
      nowTime + (m.calcNextDelay nowTime).toInt = max nowTime t.nextCallTime := by
  have horder := h.sound.order
  have hnear := h.near
  have hmax : maxInterval = 4096 := rfl
  unfold calcNextDelay
  cases htimers : m.timers with
  | nil => exact .inl ⟨rfl, rfl⟩
  | cons t rest =>
    rw [htimers] at horder hnear
    have hfirst : t.nextCallTime ≤ ended + maxInterval := hnear t List.mem_cons_self
    refine .inr ⟨t, rfl, fun u hu => ?_, ?_⟩
    · rcases List.mem_cons.mp hu with rfl | hu
      · exact Int.le_refl _
      · exact (List.pairwise_cons.mp horder).1 u hu
    · dsimp only
      split
      · rename_i hdue
        rw [Int.max_eq_left hdue, Int32.toInt_zero]
        omega
      · rename_i hlater
        rw [Int32.toInt_ofInt_of_le (by omega) (by omega), Int.max_eq_right (by omega)]
        omega

end TimerManager

/-! ## A round -/

/-- What a round owes: it calls no timer early and none later than the time the
callbacks and the handlers take. With nothing to handle it calls timers
precisely when it has waited for as long as was asked for. -/
structure Waited.OnTime (slack pause : Int) (w : Waited κ) : Prop where
  due : ∀ t ∈ w.called, t.nextCallTime ≤ w.round.pass
  soon : ∀ t ∈ w.called, w.round.pass ≤ t.nextCallTime + pause + slack
  timeout : w.timeout = minDelay ∨ 0 ≤ w.timeout.toInt ∧ w.timeout.toInt ≤ maxInterval
  wakes : w.round.ops = [] → (w.called ≠ [] ↔
    0 ≤ w.timeout.toInt ∧ w.round.start + w.timeout.toInt ≤ w.round.pass)

variable {slack pause last ended : Int} {m : TimerManager κ} {r : Round κ}

/-- No round waits beyond a timer. -/
theorem pass_le_of_rested (h : Rested last ended m) (hr : Punctual slack pause last ended m r)
    {t : TimerItem κ} (ht : t ∈ m.timers) : r.pass ≤ max r.start t.nextCallTime + slack := by
  obtain ⟨hnone, -⟩ | ⟨first, -, hfirst, hpos, -, hwait⟩ :=
    TimerManager.calcNextDelay_cases h hr.start.1
  · rw [hnone] at ht
    cases ht
  · have hpass := hr.waited hpos
    have hle := hfirst t ht
    omega

theorem turns_eq_nil_iff (callbacks : Nat → List (TimedOp κ)) (timers : List (TimerItem κ)) :
    turns callbacks 0 [] timers = [] ↔ timers = [] := by
  cases timers <;> simp [turns]

/-- A timer is due after the wait if the wait was for one and has been as long as
was asked for. -/
theorem due_ne_nil_iff (h : Rested last ended m) (hstart : ended ≤ r.start)
    (hpass : r.start ≤ r.pass) :
    TimerManager.due r.pass m ≠ [] ↔ 0 ≤ (m.calcNextDelay r.start).toInt ∧
      r.start + (m.calcNextDelay r.start).toInt ≤ r.pass := by
  obtain ⟨hnone, hdelay⟩ | ⟨t, hhead, hfirst, hpos, -, hwait⟩ :=
    TimerManager.calcNextDelay_cases h hstart
  · have hneg : ¬ 0 ≤ minDelay.toInt := by decide
    rw [hdelay]
    simp [TimerManager.due, hnone, hneg]
  · rw [hwait, and_iff_right hpos, max_le_iff, and_iff_right hpass]
    constructor
    · intro hdue
      obtain ⟨u, hu⟩ := List.exists_mem_of_ne_nil _ hdue
      obtain ⟨hmem, hu⟩ := List.mem_filter.mp hu
      exact Int.le_trans (hfirst u hmem) (of_decide_eq_true hu)
    · intro hdue
      exact List.ne_nil_of_mem
        (List.mem_filter.mpr ⟨List.mem_of_mem_head? hhead, decide_eq_true hdue⟩)

/-- A round ends and is on time, and after it nothing is due. -/
theorem runRound_onTime (h : Rested last ended m) (hlast : last ≤ ended)
    (hr : Punctual slack pause last ended m r) :
    ∃ w m', m.runRound r = some (w, m') ∧ w.round = r ∧ w.OnTime slack pause ∧
      Rested r.pass (getMillisTime r.endTicks) m' := by
  have hhandled := TimerManager.performAll_sound h.sound r.ops
  have hmin : minInterval = 50 := rfl
  have hmax : maxInterval = 4096 := rfl
  obtain ⟨hstart, hsoon⟩ := hr.start
  obtain ⟨log, m', hrun, hcalls, -⟩ := TimerManager.processTimers_due hhandled
    (fun i o ho => (hr.callbacks i o ho).1) (Nat.lt_succ_self (m.performAll r.ops).timers.length)
  have hnear : ∀ t ∈ (m.performAll r.ops).timers,
      t.nextCallTime ≤ getMillisTime r.endTicks + maxInterval := by
    intro t ht
    have hpass := hr.pass
    have hend := hr.ended
    obtain hmem | ⟨o, ho, -, hset⟩ := TimerManager.mem_performAll_cases h.sound ht
    · have := h.near t hmem
      omega
    · have := (hr.ops o ho).2
      omega
  have hcalled : ∀ t ∈ calls log,
      t ∈ (m.performAll r.ops).timers ∧ t.nextCallTime ≤ r.pass := by
    intro t ht
    rw [hcalls] at ht
    have hdue := (turns_sublist _ _ 0 []).subset ht
    obtain ⟨hmem, hdue⟩ := List.mem_filter.mp hdue
    exact ⟨hmem, of_decide_eq_true hdue⟩
  refine ⟨⟨r, m.calcNextDelay r.start, calls log⟩, m', ?_, rfl, ⟨?_, ?_, ?_, ?_⟩, ?_⟩
  · show (TimerManager.processTimers _ _ _ 0 _).map _ = _
    rw [show r.pass = getMillisTime r.passTicks from rfl, hrun]
    rfl
  · exact fun t ht => (hcalled t ht).2
  · intro t ht
    show r.pass ≤ _
    obtain hmem | ⟨o, ho, hset, -⟩ :=
      TimerManager.mem_performAll_cases h.sound (hcalled t ht).1
    · -- The timer was there before the wait, and not due at the last pass.
      have hpass := pass_le_of_rested h hr hmem
      have hnot := h.notDue t hmem
      omega
    · have hpass := hr.handled o ho
      omega
  · obtain ⟨-, hdelay⟩ | ⟨_, -, -, hpos, hle, -⟩ := TimerManager.calcNextDelay_cases h hstart
    · exact .inl hdelay
    · exact .inr ⟨hpos, hle⟩
  · intro hops
    show calls log ≠ [] ↔ _
    rw [hcalls, hops]
    exact (turns_eq_nil_iff _ _).not.trans (due_ne_nil_iff h hstart hr.pass)
  · exact TimerManager.processTimers_rested hr.callbacks hr.ended _ 0 hhandled hnear hrun

/-! ## The whole loop -/

theorem rounds_onTime {rounds : List (Round κ)} (h : Rested last ended m) (hlast : last ≤ ended)
    (hrounds : PunctualRounds slack pause last ended m rounds) :
    ∃ ws m', m.onThread rounds = some (ws, m') ∧ ws.map Waited.round = rounds ∧
      (∀ w ∈ ws, w.OnTime slack pause) ∧
      ∀ t ∈ m'.timers, (rounds.map Round.pass).getLastD last < t.nextCallTime := by
  induction rounds generalizing m last ended with
  | nil => exact ⟨[], m, rfl, rfl, by simp, h.notDue⟩
  | cons r rounds ih =>
    obtain ⟨hr, hrest⟩ := hrounds
    obtain ⟨w, m₁, hround, hw, honTime, hrested⟩ := runRound_onTime h hlast hr
    obtain ⟨ws, m', hrun, hws, hall, hnotDue⟩ := ih hrested hr.ended (hrest w m₁ hround)
    refine ⟨w :: ws, m', ?_, by simp [hw, hws], ?_, ?_⟩
    · rw [TimerManager.onThread, hround, Option.bind_some, hrun]
      rfl
    · exact fun w' hw' => (List.mem_cons.mp hw').elim (fun heq => heq ▸ honTime) (hall w')
    · simpa only [List.map_cons, List.getLastD_cons] using hnotDue

/-- Nothing is due before the loop starts, since what set the timers came after
the reading `last`. -/
theorem rested_init {init : List (TimedOp κ)}
    (hinit : ∀ o ∈ init, o.Between last ended) :
    Rested last ended ((TimerManager.create : TimerManager κ).performAll init) := by
  have hmin : minInterval = 50 := rfl
  have hset : ∀ t ∈ ((TimerManager.create : TimerManager κ).performAll init).timers,
      ∃ o ∈ init, t.SetAt (getMillisTime o.ticks) := fun t ht =>
    (TimerManager.mem_performAll_cases create_sound ht).resolve_left List.not_mem_nil
  refine ⟨TimerManager.performAll_sound create_sound init, fun t ht => ?_, fun t ht => ?_⟩
  · obtain ⟨o, ho, hnear, -⟩ := hset t ht
    have := (hinit o ho).1
    omega
  · obtain ⟨o, ho, -, hfar⟩ := hset t ht
    have := (hinit o ho).2
    omega

theorem onThread_onTime (slack pause last ended : Int) (hlast : last ≤ ended)
    (init : List (TimedOp κ)) (hinit : ∀ o ∈ init, o.Between last ended)
    (rounds : List (Round κ))
    (hrounds : PunctualRounds slack pause last ended (TimerManager.create.performAll init)
      rounds) :
    ∃ ws m', (TimerManager.create.performAll init).onThread rounds = some (ws, m') ∧
      ws.map Waited.round = rounds ∧ (∀ w ∈ ws, w.OnTime slack pause) ∧
      ∀ t ∈ m'.timers, (rounds.map Round.pass).getLastD last < t.nextCallTime :=
  rounds_onTime (rested_init hinit) hlast hrounds

/-- The timer that is added before the loop starts, which reloads the devices, is
called after the first wait. -/
theorem onThread_onTime_reload :
    ∃ ws m', ((TimerManager.create : TimerManager Nat).performAll
          [⟨0, .addTimer 2000 2 (some 0)⟩]).onThread
          [⟨1000000, [], 2003000, fun _ => [], 2003000⟩] = some (ws, m') ∧
      ws.map Waited.round = [⟨1000000, [], 2003000, fun _ => [], 2003000⟩] ∧
      (∀ w ∈ ws, w.OnTime 3 1000) ∧ ∀ t ∈ m'.timers, (2003 : Int) < t.nextCallTime :=
  onThread_onTime 3 1000 0 1000 (by decide) [⟨0, .addTimer 2000 2 (some 0)⟩]
    (fun o ho => List.mem_singleton.mp ho ▸ ⟨by decide, by decide⟩)
    [⟨1000000, [], 2003000, fun _ => [], 2003000⟩]
    ⟨⟨by decide, by simp, by simp, by decide, by decide, by simp, by decide⟩, fun _ _ _ => trivial⟩

end FtMmi.Timer
