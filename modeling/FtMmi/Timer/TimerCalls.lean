/-
FtMmi.Timer.TimerCalls — how often a timer is called over a run.

A run is operations on the timers and calls of `ProcessTimers`, in any
order. A timer is followed by its id, for as long as the id has not gone
to another timer. While it is in the list and no operation names it,
nothing touches it but its own turn: `Keeps` says so of a stretch of the
log. Once it is gone its id is called no more, which is `Stale`.

`duePasses` is what a repeating timer is for: of the readings of the calls,
the ones at which it is due, each an interval after the one before.
-/
import FtMmi.Timer.ProcessTimers

namespace FtMmi.Timer

open FtMmi.Lib

variable {κ : Type}

/-! ## Runs -/

/-- An operation on the timers, or a call of `ProcessTimers`. -/
inductive TimerEvent (κ : Type) where
  | op (o : TimedOp κ)
  | pass (ticks : Int64) (callbacks : Nat → List (TimedOp κ))

def TimerEvent.reading : TimerEvent κ → Int
  | .op o => getMillisTime o.ticks
  | .pass ticks _ => getMillisTime ticks

/-- Callbacks read the clock after the call that they are run by. -/
def TimerEvent.Timely : TimerEvent κ → Prop
  | .op _ => True
  | .pass ticks callbacks => ∀ i, ∀ o ∈ callbacks i, o.NotBefore (getMillisTime ticks)

/-- The clock does not go back. -/
structure Timely (events : List (TimerEvent κ)) : Prop where
  callbacks : ∀ e ∈ events, e.Timely
  readings : (events.map TimerEvent.reading).Pairwise (· ≤ ·)

/-- The readings of the calls of `ProcessTimers`. -/
def passReadings : List (TimerEvent κ) → List Int
  | [] => []
  | .op _ :: events => passReadings events
  | .pass ticks _ :: events => getMillisTime ticks :: passReadings events

namespace TimerManager

def run (m : TimerManager κ) :
    List (TimerEvent κ) → Option (List (Happening κ) × TimerManager κ)
  | [] => some ([], m)
  | .op o :: events => ((m.perform o).run events).map fun r => (m.happens o ++ r.1, r.2)
  | .pass ticks callbacks :: events =>
      (processTimers (getMillisTime ticks) callbacks (m.timers.length + 1) 0 m).bind fun p =>
        (p.2.run events).map fun r => (p.1 ++ r.1, r.2)

end TimerManager

/-! ## The life of a timer -/

def Happening.adds (id : Int) : Happening κ → Bool
  | .called _ => false
  | .named _ => false
  | .added t => t.id = id

/-- What happens until an id goes to another timer. -/
def life (id : Int) (log : List (Happening κ)) : List (Happening κ) :=
  log.takeWhile fun happening => !happening.adds id

/-- The number of times that the timer with an id is called in its life. -/
def callsOf (id : Int) (log : List (Happening κ)) : Nat :=
  (calls (life id log)).countP fun t => t.id = id

/-- No operation removes or resets the timer. -/
def Untouched (id : Int) (log : List (Happening κ)) : Prop :=
  ∀ t, .named t ∈ life id log → t.id ≠ id

def Adds (id : Int) (log : List (Happening κ)) : Prop := ∃ happening ∈ log, happening.adds id = true

theorem life_append_of_adds {id : Int} {log : List (Happening κ)} (h : Adds id log)
    (log' : List (Happening κ)) : life id (log ++ log') = life id log := by
  obtain ⟨happening, hmem, hadds⟩ := h
  unfold life
  induction log with
  | nil => cases hmem
  | cons first log ih =>
    rw [List.cons_append, List.takeWhile_cons, List.takeWhile_cons]
    cases hfirst : first.adds id with
    | true => rfl
    | false =>
      rcases List.mem_cons.mp hmem with rfl | hmem
      · rw [hadds] at hfirst
        cases hfirst
      · simp [ih hmem]

theorem life_append {id : Int} {log : List (Happening κ)} (h : ¬ Adds id log)
    (log' : List (Happening κ)) : life id (log ++ log') = log ++ life id log' := by
  refine List.takeWhile_append_of_pos fun happening hmem => ?_
  rw [Bool.not_eq_true', Bool.eq_false_iff]
  exact fun hadds => h ⟨happening, hmem, hadds⟩

theorem life_of_not_adds {id : Int} {log : List (Happening κ)} (h : ¬ Adds id log) :
    life id log = log := by
  have happend := life_append h []
  rw [List.append_nil] at happend
  rw [happend]
  exact List.append_nil log

theorem adds_append {id : Int} {log log' : List (Happening κ)} :
    Adds id (log ++ log') ↔ Adds id log ∨ Adds id log' := by
  simp [Adds, or_and_right, exists_or]

theorem callsOf_append_of_adds {id : Int} {log : List (Happening κ)} (h : Adds id log)
    (log' : List (Happening κ)) : callsOf id (log ++ log') = callsOf id log := by
  rw [callsOf, life_append_of_adds h, callsOf]

theorem callsOf_append {id : Int} {log : List (Happening κ)} (h : ¬ Adds id log)
    (log' : List (Happening κ)) : callsOf id (log ++ log') = callsOf id log + callsOf id log' := by
  rw [callsOf, life_append h, calls_append, List.countP_append, callsOf, life_of_not_adds h,
    callsOf]

theorem Untouched.append {id : Int} {log log' : List (Happening κ)}
    (h : Untouched id (log ++ log')) (hadds : ¬ Adds id log) :
    Untouched id log ∧ Untouched id log' := by
  unfold Untouched at h ⊢
  rw [life_append hadds] at h
  rw [life_of_not_adds hadds]
  exact ⟨fun t ht => h t (List.mem_append_left _ ht), fun t ht => h t (List.mem_append_right _ ht)⟩

/-! ## An id that no timer of the list has -/

/-- The id is not called, and no timer has it unless it has been given out. -/
structure Stale (id : Int) (log : List (Happening κ)) (m : TimerManager κ) : Prop where
  quiet : callsOf id log = 0
  absent : id ∉ m.timers.map TimerItem.id ∨ Adds id log

theorem Stale.append {id : Int} {log log' : List (Happening κ)} {m m' : TimerManager κ}
    (h : Stale id log m) (h' : id ∉ m.timers.map TimerItem.id → Stale id log' m') :
    Stale id (log ++ log') m' := by
  by_cases hadds : Adds id log
  · exact ⟨(callsOf_append_of_adds hadds log').trans h.quiet, .inr (adds_append.mpr (.inl hadds))⟩
  · have hlater := h' (h.absent.resolve_right hadds)
    refine ⟨?_, hlater.absent.imp_right fun hadds' => adds_append.mpr (.inr hadds')⟩
    rw [callsOf_append hadds, h.quiet, hlater.quiet]

namespace TimerManager

theorem callsOf_of_calls {id : Int} {log : List (Happening κ)} (h : ∀ t ∈ calls log, t.id ≠ id) :
    callsOf id log = 0 := by
  refine List.countP_eq_zero.mpr fun t ht => ?_
  rw [decide_eq_true_eq]
  refine h t ?_
  exact ((List.takeWhile_sublist _).filterMap Happening.called?).subset ht

theorem callsOf_happens (id : Int) (m : TimerManager κ) (o : TimedOp κ) :
    callsOf id (m.happens o) = 0 :=
  callsOf_of_calls fun t ht => by rw [calls_happens] at ht; cases ht

theorem adds_happens {id : Int} {m : TimerManager κ} {o : TimedOp κ} :
    Adds id (m.happens o) ↔
      id ∈ (m.perform o).timers.map TimerItem.id ∧ id ∉ m.timers.map TimerItem.id := by
  constructor
  · rintro ⟨happening, hmem, hadds⟩
    rcases List.mem_append.mp hmem with hmem | hmem
    · obtain ⟨t, _, rfl⟩ := List.mem_map.mp hmem
      cases hadds
    · obtain ⟨t, ht, rfl⟩ := List.mem_map.mp hmem
      obtain rfl : t.id = id := of_decide_eq_true hadds
      obtain ⟨hin, hnew⟩ := List.mem_filter.mp ht
      exact ⟨List.mem_map_of_mem hin, of_decide_eq_true hnew⟩
  · rintro ⟨hin, hnew⟩
    obtain ⟨t, ht, rfl⟩ := List.mem_map.mp hin
    refine ⟨.added t, List.mem_append_right _ (List.mem_map_of_mem ?_), decide_eq_true rfl⟩
    exact List.mem_filter.mpr ⟨ht, decide_eq_true hnew⟩

theorem happens_stale {id : Int} {m : TimerManager κ} (h : id ∉ m.timers.map TimerItem.id)
    (o : TimedOp κ) : Stale id (m.happens o) (m.perform o) := by
  refine ⟨callsOf_happens id m o, ?_⟩
  by_cases hin : id ∈ (m.perform o).timers.map TimerItem.id
  · exact .inr (adds_happens.mpr ⟨hin, h⟩)
  · exact .inl hin

theorem happensAll_stale {id : Int} {m : TimerManager κ} (h : id ∉ m.timers.map TimerItem.id)
    (ops : List (TimedOp κ)) : Stale id (m.happensAll ops) (m.performAll ops) := by
  induction ops generalizing m with
  | nil => exact ⟨rfl, .inl h⟩
  | cons o ops ih => exact (happens_stale h o).append fun hout => ih hout

/-! ## An operation that does not name a timer -/

/-- An operation leaves a timer that it does not name. -/
theorem mem_perform {m : TimerManager κ} {t : TimerItem κ} (ht : t ∈ m.timers) {o : TimedOp κ}
    (hother : o.named ≠ some t.id) : t ∈ (m.perform o).timers := by
  obtain ⟨ticks, op⟩ := o
  cases op with
  | addTimer intervalMs repeatCount callback =>
    cases callback with
    | none => exact ht
    | some callback =>
      show t ∈ (m.addTimer (getMillisTime ticks) intervalMs repeatCount (some callback)).2.timers
      obtain ⟨_, hfail⟩ | ⟨id, nextCallTime, _, _, _, _, htimers⟩ :=
        m.addTimer_item (getMillisTime ticks) intervalMs repeatCount callback
      · rw [hfail]
        exact ht
      · rw [htimers]
        exact mem_insertTimer.mpr (.inr ht)
  | removeTimer timerId =>
    have hid : t.id ≠ timerId := fun hid => hother (congrArg some hid.symm)
    show t ∈ (m.removeTimer timerId).2.timers
    rw [removeTimer_timers]
    exact List.mem_filter.mpr ⟨ht, decide_eq_true hid⟩
  | resetTimer timerId =>
    have hid : t.id ≠ timerId := fun hid => hother (congrArg some hid.symm)
    have hrest : t ∈ m.timers.filter fun t => t.id ≠ timerId :=
      List.mem_filter.mpr ⟨ht, decide_eq_true hid⟩
    show t ∈ (m.resetTimer (getMillisTime ticks) timerId).2.timers
    obtain ⟨_, heq⟩ | ⟨u, _, _, ⟨_, _, htimers⟩ | ⟨nextCallTime, _, _, htimers⟩⟩ :=
      m.resetTimer_inserts (getMillisTime ticks) timerId
    · rw [heq]
      exact ht
    · rw [htimers]
      exact hrest
    · rw [htimers]
      exact mem_insertTimer.mpr (.inr hrest)

theorem not_adds_happens {m : TimerManager κ} {t : TimerItem κ} (ht : t ∈ m.timers)
    (o : TimedOp κ) : ¬ Adds t.id (m.happens o) :=
  fun hadds => (adds_happens.mp hadds).2 (List.mem_map_of_mem ht)

/-- The timer stays in the list as it is through what happens. -/
structure Keeps (t : TimerItem κ) (log : List (Happening κ)) (m : TimerManager κ) : Prop where
  quiet : callsOf t.id log = 0
  sole : ¬ Adds t.id log
  mem : t ∈ m.timers

theorem Keeps.append {t : TimerItem κ} {log log' : List (Happening κ)} {m m' : TimerManager κ}
    (h : Keeps t log m) (h' : Keeps t log' m') : Keeps t (log ++ log') m' := by
  refine ⟨?_, fun hadds => (adds_append.mp hadds).elim h.sole h'.sole, h'.mem⟩
  rw [callsOf_append h.sole, h.quiet, h'.quiet]

theorem happens_keeps {m : TimerManager κ} {t : TimerItem κ} (ht : t ∈ m.timers)
    {o : TimedOp κ} {log : List (Happening κ)} (h : Untouched t.id (m.happens o ++ log)) :
    Keeps t (m.happens o) (m.perform o) := by
  refine ⟨callsOf_happens t.id m o, not_adds_happens ht o, mem_perform ht fun hnamed => ?_⟩
  have hown := (h.append (not_adds_happens ht o)).1
  rw [Untouched, life_of_not_adds (not_adds_happens ht o)] at hown
  refine hown t (List.mem_append_left _ (List.mem_map_of_mem ?_)) rfl
  exact List.mem_filter.mpr ⟨ht, decide_eq_true hnamed⟩

theorem happensAll_keeps {m : TimerManager κ} {t : TimerItem κ} (ht : t ∈ m.timers)
    {ops : List (TimedOp κ)} {log : List (Happening κ)}
    (h : Untouched t.id (m.happensAll ops ++ log)) :
    Keeps t (m.happensAll ops) (m.performAll ops) := by
  induction ops generalizing m with
  | nil =>
    refine ⟨rfl, ?_, ht⟩
    rintro ⟨_, hmem, _⟩
    cases hmem
  | cons o ops ih =>
    rw [happensAll, List.append_assoc] at h
    have hfirst := happens_keeps ht h
    exact hfirst.append (ih hfirst.mem (h.append hfirst.sole).2)

end TimerManager

/-! ## A round of the loop -/

/-- One more call is the timer's last. -/
def TimerItem.Finishes (t : TimerItem κ) : Prop :=
  1 ≤ t.repeatCount ∧ t.repeatCount ≤ t.callbackCount + 1

/-- The timer after a call at a clock reading. -/
def TimerItem.calledAt (t : TimerItem κ) (nowTime : Int) : TimerItem κ :=
  { t with callbackCount := t.callbackCount + 1, nextCallTime := nowTime + t.intervalMs }

/-- The first timer has been called at a clock reading, and `next` is the list when its
callback starts. -/
structure CallsFirst (nowTime : Int) (m : TimerManager κ) (t : TimerItem κ)
    (next : TimerManager κ) : Prop where
  first : m.timers.head? = some t
  due : t.nextCallTime ≤ nowTime
  others : ∀ u ∈ m.timers, u.id ≠ t.id → u ∈ next.timers
  ids : ∀ id ∈ next.timers.map TimerItem.id, id ∈ m.timers.map TimerItem.id
  last : t.Finishes → t.id ∉ next.timers.map TimerItem.id
  again : ¬ t.Finishes → t.calledAt nowTime ∈ next.timers
  sound : Sound next

namespace TimerManager

theorem processNext_callsFirst {m : TimerManager κ} (h : Sound m) (ticks : Int64) :
    (due (getMillisTime ticks) m = [] ∧ m.processNext (getMillisTime ticks) = (.idle, m)) ∨
    ∃ t next, m.processNext (getMillisTime ticks) = (.fired t.callback, next) ∧
      CallsFirst (getMillisTime ticks) m t next := by
  obtain hidle | ⟨t, _, _, hhead, hfired, hsound, _⟩ := processNext_due h ticks
  · exact .inl hidle
  refine .inr ⟨t, (m.processNext (getMillisTime ticks)).2, Prod.ext hfired rfl, ?_⟩
  have hnodup := m.nodup
  have hintervals := h.intervals
  obtain ⟨hlater, hidle⟩ | ⟨u, rest, htimers, hdue, hround⟩ :=
    m.processNext_inserts (getMillisTime ticks)
  · rw [hidle] at hfired
    cases hfired
  rw [htimers] at hhead hnodup hintervals
  obtain rfl : u = t := Option.some.inj hhead
  have hnew : u.id ∉ rest.map TimerItem.id := (List.nodup_cons.mp hnodup).1
  have hothers : ∀ a ∈ m.timers, a.id ≠ u.id → a ∈ rest := by
    intro a ha hne
    rw [htimers] at ha
    rcases List.mem_cons.mp ha with rfl | ha
    · exact absurd rfl hne
    · exact ha
  obtain ⟨hn, hlast, _, heq⟩ | ⟨_, hover, _⟩ | ⟨hmore, _, nextCallTime, hnext, heq⟩ := hround
  · refine ⟨htimers ▸ rfl, hdue, fun a ha hne => heq ▸ hothers a ha hne, ?_, ?_, ?_, hsound⟩
    · intro id hid
      rw [heq] at hid
      rw [htimers]
      exact List.mem_cons_of_mem _ hid
    · intro _
      rw [heq]
      exact hnew
    · exact fun hmore => absurd ⟨hn, hlast⟩ hmore
  · have hinterval := hintervals u List.mem_cons_self
    rw [addInt64_interval ticks hinterval.1 hinterval.2] at hover
    cases hover
  · have hinterval := hintervals u List.mem_cons_self
    rw [addInt64_interval ticks hinterval.1 hinterval.2] at hnext
    obtain rfl := Option.some.inj hnext
    refine ⟨htimers ▸ rfl, hdue, fun a ha hne => ?_, ?_, ?_, ?_, hsound⟩
    · rw [heq]
      exact mem_insertTimer.mpr (.inr (hothers a ha hne))
    · intro id hid
      rw [heq, ((insertTimer_perm _ rest).map TimerItem.id).mem_iff] at hid
      rw [htimers]
      exact hid
    · exact fun hdone => absurd hdone hmore
    · intro _
      rw [heq]
      exact mem_insertTimer.mpr (.inl rfl)

/-- The loop stops for want of a due timer, or calls the first. -/
theorem processTimers_cases {m : TimerManager κ} (h : Sound m) {ticks : Int64}
    {callbacks : Nat → List (TimedOp κ)} {fuel i : Nat} {log : List (Happening κ)}
    {m' : TimerManager κ}
    (hrun : processTimers (getMillisTime ticks) callbacks (fuel + 1) i m = some (log, m')) :
    (due (getMillisTime ticks) m = [] ∧ log = [] ∧ m' = m) ∨
    ∃ t next log', CallsFirst (getMillisTime ticks) m t next ∧
      log = .called t :: (next.happensAll (callbacks i) ++ log') ∧
      processTimers (getMillisTime ticks) callbacks fuel (i + 1) (next.performAll (callbacks i))
        = some (log', m') := by
  obtain ⟨hnone, hidle⟩ | ⟨t, next, hfired, hfirst⟩ := processNext_callsFirst h ticks
  · rw [processTimers, hidle] at hrun
    cases hrun
    exact .inl ⟨hnone, rfl, rfl⟩
  · simp only [processTimers, hfired, hfirst.first] at hrun
    obtain ⟨r, hrest, heq⟩ := Option.map_eq_some_iff.mp hrun
    obtain ⟨rfl, rfl⟩ := Prod.mk.inj heq
    exact .inr ⟨t, next, r.1, hfirst, rfl, hrest⟩

/-! ## A call of `ProcessTimers` and one timer -/

theorem not_adds_called (id : Int) (t : TimerItem κ) : ¬ Adds id [Happening.called t] := by
  rintro ⟨happening, hmem, hadds⟩
  obtain rfl := List.mem_singleton.mp hmem
  cases hadds

theorem adds_called_cons {id : Int} {t : TimerItem κ} {log : List (Happening κ)} :
    Adds id (.called t :: log) ↔ Adds id log := by
  have happend : Adds id ([Happening.called t] ++ log) ↔ _ := adds_append
  exact happend.trans (or_iff_right (not_adds_called id t))

theorem untouched_called_cons {id : Int} {t : TimerItem κ} {log : List (Happening κ)}
    (h : Untouched id (.called t :: log)) : Untouched id log := by
  have happend : Untouched id ([Happening.called t] ++ log) := h
  exact (happend.append (not_adds_called id t)).2

theorem callsOf_called_self (t : TimerItem κ) : callsOf t.id [Happening.called t] = 1 :=
  List.countP_singleton.trans (if_pos (decide_eq_true rfl))

theorem callsOf_called_of_ne {id : Int} {t : TimerItem κ} (h : t.id ≠ id) :
    callsOf id [Happening.called t] = 0 :=
  callsOf_of_calls fun u hu => by
    obtain rfl := List.mem_singleton.mp hu
    exact h

theorem processTimers_stale {id : Int} {ticks : Int64} {callbacks : Nat → List (TimedOp κ)}
    {fuel i : Nat} {m : TimerManager κ} (h : Sound m) (hid : id ∉ m.timers.map TimerItem.id)
    {log : List (Happening κ)} {m' : TimerManager κ}
    (hrun : processTimers (getMillisTime ticks) callbacks fuel i m = some (log, m')) :
    Stale id log m' := by
  induction fuel generalizing i m log with
  | zero => cases hrun
  | succ fuel ih =>
    obtain ⟨_, rfl, rfl⟩ | ⟨t, next, log', hfirst, rfl, hrest⟩ := processTimers_cases h hrun
    · exact ⟨rfl, .inl hid⟩
    · have hne : t.id ≠ id := by
        rintro rfl
        exact hid (List.mem_map_of_mem (List.mem_of_head? hfirst.first))
      have hcalled : Stale id [.called t] next :=
        ⟨callsOf_called_of_ne hne, .inl fun hin => hid (hfirst.ids id hin)⟩
      refine hcalled.append fun hnext => ?_
      refine (happensAll_stale hnext (callbacks i)).append fun hlater => ?_
      exact ih (performAll_sound hfirst.sound (callbacks i)) hlater hrest

/-- A timer whose turn is not to come stays as it is. -/
theorem processTimers_keeps {t : TimerItem κ} {ticks : Int64}
    {callbacks : Nat → List (TimedOp κ)} {fuel i : Nat} {m : TimerManager κ} (h : Sound m)
    (ht : t ∈ m.timers) (hlater : getMillisTime ticks < t.nextCallTime)
    {log rest : List (Happening κ)} {m' : TimerManager κ}
    (hrun : processTimers (getMillisTime ticks) callbacks fuel i m = some (log, m'))
    (huntouched : Untouched t.id (log ++ rest)) : Keeps t log m' := by
  induction fuel generalizing i m log with
  | zero => cases hrun
  | succ fuel ih =>
    obtain ⟨_, rfl, rfl⟩ | ⟨u, next, log', hfirst, rfl, hrest⟩ := processTimers_cases h hrun
    · refine ⟨rfl, ?_, ht⟩
      rintro ⟨_, hmem, _⟩
      cases hmem
    · have hne : t.id ≠ u.id := fun hid => by
        have hsame := List.inj_on_of_nodup_map m.nodup ht (List.mem_of_head? hfirst.first) hid
        have hdue := hfirst.due
        rw [← hsame] at hdue
        omega
      have hcalled : Keeps t [.called u] next :=
        ⟨callsOf_called_of_ne hne.symm, not_adds_called t.id u, hfirst.others t ht hne⟩
      have hafter : Untouched t.id (next.happensAll (callbacks i) ++ (log' ++ rest)) := by
        rw [← List.append_assoc]
        exact untouched_called_cons huntouched
      have hops := happensAll_keeps hcalled.mem hafter
      refine hcalled.append (hops.append ?_)
      exact ih (performAll_sound hfirst.sound (callbacks i)) hops.mem hrest
        (hafter.append hops.sole).2

/-- The timer is called once. After its last call it is gone, else it is there to be called
again. -/
structure CalledOnce (t : TimerItem κ) (nowTime : Int) (log : List (Happening κ))
    (m : TimerManager κ) : Prop where
  once : callsOf t.id log = 1
  last : t.Finishes → t.id ∉ m.timers.map TimerItem.id ∨ Adds t.id log
  again : ¬ t.Finishes → ¬ Adds t.id log ∧ t.calledAt nowTime ∈ m.timers

theorem Keeps.calledOnce {t : TimerItem κ} {nowTime : Int} {log log' : List (Happening κ)}
    {m m' : TimerManager κ} (h : Keeps t log m) (h' : CalledOnce t nowTime log' m') :
    CalledOnce t nowTime (log ++ log') m' := by
  refine ⟨?_, fun hlast => (h'.last hlast).imp_right fun hadds => adds_append.mpr (.inr hadds),
    fun hmore => ⟨fun hadds => ?_, (h'.again hmore).2⟩⟩
  · rw [callsOf_append h.sole, h.quiet, h'.once]
  · exact (adds_append.mp hadds).elim h.sole (h'.again hmore).1

/-- A due timer has its turn. -/
theorem processTimers_calls {t : TimerItem κ} {ticks : Int64}
    {callbacks : Nat → List (TimedOp κ)} {fuel i : Nat} {m : TimerManager κ} (h : Sound m)
    (ht : t ∈ m.timers) (hdue : t.nextCallTime ≤ getMillisTime ticks)
    {log rest : List (Happening κ)} {m' : TimerManager κ}
    (hrun : processTimers (getMillisTime ticks) callbacks fuel i m = some (log, m'))
    (huntouched : Untouched t.id (log ++ rest)) :
    CalledOnce t (getMillisTime ticks) log m' := by
  induction fuel generalizing i m log with
  | zero => cases hrun
  | succ fuel ih =>
    obtain ⟨hnone, _⟩ | ⟨u, next, log', hfirst, rfl, hrest⟩ := processTimers_cases h hrun
    · have hin : t ∈ due (getMillisTime ticks) m := List.mem_filter.mpr ⟨ht, decide_eq_true hdue⟩
      rw [hnone] at hin
      cases hin
    · have hafter : Untouched t.id (next.happensAll (callbacks i) ++ (log' ++ rest)) := by
        rw [← List.append_assoc]
        exact untouched_called_cons huntouched
      have hsound := performAll_sound hfirst.sound (callbacks i)
      by_cases hid : t.id = u.id
      · -- the turn of the timer
        obtain rfl := List.inj_on_of_nodup_map m.nodup ht (List.mem_of_head? hfirst.first) hid
        have hsum : callsOf t.id ([Happening.called t] ++ (next.happensAll (callbacks i) ++ log'))
            = 1 + callsOf t.id (next.happensAll (callbacks i) ++ log') := by
          rw [callsOf_append (not_adds_called t.id t), callsOf_called_self]
        by_cases hlast : t.Finishes
        · have hstale := (happensAll_stale (hfirst.last hlast) (callbacks i)).append
            fun hgone => processTimers_stale hsound hgone hrest
          refine ⟨hsum.trans (by rw [hstale.quiet]), fun _ => ?_, fun hmore => absurd hlast hmore⟩
          exact hstale.absent.imp_right adds_called_cons.mpr
        · have hops := happensAll_keeps (hfirst.again hlast) hafter
          have hmin : minInterval = 50 := rfl
          have hinterval := (h.intervals t ht).1
          have hkeeps := hops.append (processTimers_keeps hsound hops.mem
            (by show _ < getMillisTime ticks + t.intervalMs; omega) hrest
            (hafter.append hops.sole).2)
          refine ⟨hsum.trans ?_, fun hlast' => absurd hlast' hlast, fun _ => ⟨?_, hkeeps.mem⟩⟩
          · exact congrArg (1 + ·) hkeeps.quiet
          · exact fun hadds => hkeeps.sole (adds_called_cons.mp hadds)
      · -- the turn of a timer before it
        have hcalled : Keeps t [.called u] next :=
          ⟨callsOf_called_of_ne (Ne.symm hid), not_adds_called t.id u, hfirst.others t ht hid⟩
        have hops := happensAll_keeps hcalled.mem hafter
        exact hcalled.calledOnce (hops.calledOnce (ih hsound hops.mem hrest
          (hafter.append hops.sole).2))

end TimerManager

/-! ## A repeating timer over the readings -/

/-- How many of the readings find the timer due, when each puts its next call an interval
later. -/
def duePasses (interval : Int) : Int → List Int → Nat
  | _, [] => 0
  | nextCallTime, reading :: readings =>
      if nextCallTime ≤ reading then duePasses interval (reading + interval) readings + 1
      else duePasses interval nextCallTime readings

/-- Each reading is an interval or more after the one before. -/
def Spaced (interval : Int) : Int → List Int → Prop
  | _, [] => True
  | nextCallTime, reading :: readings =>
      nextCallTime ≤ reading ∧ Spaced interval (reading + interval) readings

theorem Spaced.mono {interval early late : Int} {readings : List Int}
    (h : Spaced interval late readings) (hle : early ≤ late) :
    Spaced interval early readings := by
  cases readings with
  | nil => trivial
  | cons reading readings => exact ⟨hle.trans h.1, h.2⟩

/-- Readings that are far enough apart all count. -/
theorem spaced_length_le {interval : Int} {readings : List Int}
    (hsorted : readings.Pairwise (· ≤ ·)) :
    ∀ {nextCallTime : Int} {rounds : List Int}, rounds.Sublist readings →
      Spaced interval nextCallTime rounds →
      rounds.length ≤ duePasses interval nextCallTime readings := by
  induction readings with
  | nil =>
    intro nextCallTime rounds hsub _
    rw [List.sublist_nil.mp hsub]
    exact Nat.zero_le _
  | cons reading readings ih =>
    obtain ⟨hle, hsorted⟩ := List.pairwise_cons.mp hsorted
    intro nextCallTime rounds hsub hspaced
    cases rounds with
    | nil => exact Nat.zero_le _
    | cons first rounds =>
      rw [duePasses]
      split
      · have hfirst : reading ≤ first := by
          rcases List.mem_cons.mp (hsub.subset List.mem_cons_self) with rfl | hmem
          · exact Int.le_refl _
          · exact hle first hmem
        have hrest := ih hsorted (List.cons_sublist_cons'.mp hsub |>.elim
          (fun h => (List.sublist_cons_self _ _).trans h) And.right)
          (hspaced.2.mono (Int.add_le_add_right hfirst interval))
        exact Nat.succ_le_succ hrest
      · rename_i hnot
        refine ih hsorted ?_ hspaced
        cases hsub with
        | cons _ hsub => exact hsub
        | cons_cons => exact absurd hspaced.1 hnot

/-! ## Runs -/

theorem Timely.tail {e : TimerEvent κ} {events : List (TimerEvent κ)} (h : Timely (e :: events)) :
    Timely events :=
  ⟨fun e' he' => h.callbacks e' (List.mem_cons_of_mem e he'),
    (List.pairwise_cons.mp h.readings).2⟩

theorem passReadings_sublist (events : List (TimerEvent κ)) :
    (passReadings events).Sublist (events.map TimerEvent.reading) := by
  induction events with
  | nil => exact List.Sublist.slnil
  | cons e events ih =>
    cases e with
    | op o => exact ih.cons _
    | pass ticks callbacks => exact ih.cons_cons _

/-- The calls that a timer still has, when it is due so often. -/
def TimerItem.remaining (t : TimerItem κ) (duePasses : Nat) : Nat :=
  if 1 ≤ t.repeatCount then min (t.repeatCount - t.callbackCount).toNat duePasses else duePasses

theorem TimerItem.remaining_succ {t : TimerItem κ} (hmore : ¬ t.Finishes) (nowTime : Int)
    (duePasses : Nat) :
    t.remaining (duePasses + 1) = (t.calledAt nowTime).remaining duePasses + 1 := by
  unfold Finishes at hmore
  show (if 1 ≤ t.repeatCount then _ else duePasses + 1)
    = (if 1 ≤ t.repeatCount then min (t.repeatCount - (t.callbackCount + 1)).toNat duePasses
        else duePasses) + 1
  by_cases hn : 1 ≤ t.repeatCount
  · rw [if_pos hn, if_pos hn]
    omega
  · rw [if_neg hn, if_neg hn]

namespace TimerManager

/-- A call of `ProcessTimers` ends, with the timers called whose turn came. -/
theorem processTimers_due {m : TimerManager κ} (h : Sound m) {ticks : Int64}
    {callbacks : Nat → List (TimedOp κ)}
    (hlater : ∀ i, ∀ o ∈ callbacks i, o.NotBefore (getMillisTime ticks)) {fuel : Nat}
    (hfuel : m.timers.length < fuel) :
    ∃ log m', processTimers (getMillisTime ticks) callbacks fuel 0 m = some (log, m') ∧
      calls log = turns callbacks 0 [] (due (getMillisTime ticks) m) ∧ Sound m' := by
  have hlength : (due (getMillisTime ticks) m).length ≤ m.timers.length :=
    List.length_filter_le _ _
  exact processTimers_turns ticks hlater _ fuel 0 [] h (by simp) (by omega)

theorem run_sound {events : List (TimerEvent κ)} (htimely : Timely events) {m : TimerManager κ}
    (h : Sound m) : ∃ log m', m.run events = some (log, m') ∧ Sound m' := by
  induction events generalizing m with
  | nil => exact ⟨[], m, rfl, h⟩
  | cons e events ih =>
    cases e with
    | op o =>
      obtain ⟨log, m', hrun, hsound⟩ := ih htimely.tail (perform_sound h o)
      exact ⟨m.happens o ++ log, m', by rw [run, hrun]; rfl, hsound⟩
    | pass ticks callbacks =>
      obtain ⟨log₁, m₁, hpass, _, hsound₁⟩ := processTimers_due h
        (htimely.callbacks _ List.mem_cons_self) (Nat.lt_succ_self m.timers.length)
      obtain ⟨log, m', hrun, hsound⟩ := ih htimely.tail hsound₁
      exact ⟨log₁ ++ log, m', by simp only [run, hpass, Option.bind_some, hrun]; rfl, hsound⟩

/-- A run is its first event and the run of the others. -/
theorem run_cons {m : TimerManager κ} (h : Sound m) {e : TimerEvent κ}
    {events : List (TimerEvent κ)} (htimely : e.Timely) {log : List (Happening κ)}
    {m' : TimerManager κ} (hrun : m.run (e :: events) = some (log, m')) :
    ∃ log₁ log₂ m₁, log = log₁ ++ log₂ ∧ m₁.run events = some (log₂, m') ∧ Sound m₁ ∧
      match e with
      | .op o => log₁ = m.happens o ∧ m₁ = m.perform o
      | .pass ticks callbacks =>
          processTimers (getMillisTime ticks) callbacks (m.timers.length + 1) 0 m
            = some (log₁, m₁) := by
  cases e with
  | op o =>
    obtain ⟨r, hrest, heq⟩ := Option.map_eq_some_iff.mp hrun
    obtain ⟨rfl, rfl⟩ := Prod.mk.inj heq
    exact ⟨_, r.1, _, rfl, hrest, perform_sound h o, rfl, rfl⟩
  | pass ticks callbacks =>
    obtain ⟨log₁, m₁, hpass, _, hsound⟩ := processTimers_due h htimely
      (Nat.lt_succ_self m.timers.length)
    rw [run, hpass, Option.bind_some] at hrun
    obtain ⟨r, hrest, heq⟩ := Option.map_eq_some_iff.mp hrun
    obtain ⟨rfl, rfl⟩ := Prod.mk.inj heq
    exact ⟨log₁, r.1, m₁, rfl, hrest, hsound, hpass⟩

theorem run_stale {id : Int} {events : List (TimerEvent κ)} (htimely : Timely events)
    {m : TimerManager κ} (h : Sound m) (hid : id ∉ m.timers.map TimerItem.id)
    {log : List (Happening κ)} {m' : TimerManager κ} (hrun : m.run events = some (log, m')) :
    Stale id log m' := by
  induction events generalizing m log with
  | nil =>
    cases hrun
    exact ⟨rfl, .inl hid⟩
  | cons e events ih =>
    obtain ⟨log₁, log₂, m₁, rfl, hrest, hsound, hfirst⟩ :=
      run_cons h (htimely.callbacks e List.mem_cons_self) hrun
    have hstale : Stale id log₁ m₁ := by
      cases e with
      | op o =>
        obtain ⟨rfl, rfl⟩ := hfirst
        exact happens_stale hid o
      | pass ticks callbacks => exact processTimers_stale h hid hfirst
    exact hstale.append fun hgone => ih htimely.tail hsound hgone hrest

/-- A timer that no operation names is called at each reading that finds it due, as long
as it has calls left. -/
theorem run_calls {t : TimerItem κ} {events : List (TimerEvent κ)} (htimely : Timely events)
    {m : TimerManager κ} (h : Sound m) (ht : t ∈ m.timers)
    (hleft : 1 ≤ t.repeatCount → t.callbackCount < t.repeatCount)
    {log : List (Happening κ)} {m' : TimerManager κ} (hrun : m.run events = some (log, m'))
    (huntouched : Untouched t.id log) :
    callsOf t.id log
      = t.remaining (duePasses t.intervalMs t.nextCallTime (passReadings events)) := by
  induction events generalizing t m log with
  | nil =>
    cases hrun
    simp [TimerItem.remaining, passReadings, duePasses, callsOf, life, calls]
  | cons e events ih =>
    obtain ⟨log₁, log₂, m₁, rfl, hrest, hsound, hfirst⟩ :=
      run_cons h (htimely.callbacks e List.mem_cons_self) hrun
    -- the event is not the timer's turn
    have hkept (hkeeps : Keeps t log₁ m₁) : callsOf t.id (log₁ ++ log₂)
        = t.remaining (duePasses t.intervalMs t.nextCallTime (passReadings events)) := by
      rw [callsOf_append hkeeps.sole, hkeeps.quiet, Nat.zero_add]
      exact ih htimely.tail hsound hkeeps.mem hleft hrest (huntouched.append hkeeps.sole).2
    cases e with
    | op o =>
      obtain ⟨rfl, rfl⟩ := hfirst
      exact hkept (happens_keeps ht huntouched)
    | pass ticks callbacks =>
      rw [passReadings, duePasses]
      by_cases hdue : t.nextCallTime ≤ getMillisTime ticks
      · rw [if_pos hdue]
        have hcalled := processTimers_calls h ht hdue hfirst huntouched
        by_cases hlast : t.Finishes
        · have hone : callsOf t.id (log₁ ++ log₂) = 1 := by
            by_cases hadds : Adds t.id log₁
            · exact (callsOf_append_of_adds hadds log₂).trans hcalled.once
            · have hgone := (hcalled.last hlast).resolve_right hadds
              rw [callsOf_append hadds, hcalled.once,
                (run_stale htimely.tail hsound hgone hrest).quiet]
          have hn := hleft hlast.1
          have hmax := hlast.2
          rw [hone, TimerItem.remaining, if_pos hlast.1]
          omega
        · obtain ⟨hadds, hagain⟩ := hcalled.again hlast
          have hnot : 1 ≤ t.repeatCount → t.callbackCount + 1 < t.repeatCount := fun hn =>
            Int.not_le.mp fun hle => hlast ⟨hn, hle⟩
          have hlater := ih htimely.tail hsound hagain hnot hrest (huntouched.append hadds).2
          rw [callsOf_append hadds, hcalled.once]
          rw [t.remaining_succ hlast (getMillisTime ticks), Nat.add_comm]
          exact congrArg (· + 1) hlater
      · rw [if_neg hdue]
        exact hkept (processTimers_keeps h ht (Int.not_le.mp hdue) hfirst huntouched)

/-- More fuel changes nothing. -/
theorem processTimers_fuel {nowTime : Int} {callbacks : Nat → List (TimedOp κ)}
    {fuel fuel' i : Nat} (hle : fuel ≤ fuel') {m : TimerManager κ}
    {r : List (Happening κ) × TimerManager κ}
    (h : processTimers nowTime callbacks fuel i m = some r) :
    processTimers nowTime callbacks fuel' i m = some r := by
  induction fuel generalizing fuel' i m r with
  | zero => cases h
  | succ fuel ih =>
    obtain ⟨fuel', rfl⟩ : ∃ n, fuel' = n + 1 := ⟨fuel' - 1, by omega⟩
    unfold processTimers at h ⊢
    cases hround : m.processNext nowTime with
    | mk processed next =>
      rw [hround] at h
      cases processed with
      | idle => exact h
      | dropped => exact h
      | fired callback =>
        obtain ⟨r', hrest, rfl⟩ := Option.map_eq_some_iff.mp h
        simp only [ih (Nat.le_of_succ_le_succ hle) hrest, Option.map_some]

end TimerManager

theorem turns_sublist (callbacks : Nat → List (TimedOp κ)) (timers : List (TimerItem κ)) :
    ∀ (i : Nat) (named : List Int), (turns callbacks i named timers).Sublist timers := by
  induction timers with
  | nil => exact fun _ _ => List.Sublist.slnil
  | cons t timers ih =>
    intro i named
    rw [turns]
    split
    · exact (ih i named).cons t
    · exact (ih _ _).cons_cons t

/-! ## What a call calls, and how often a timer fires -/

namespace TimerManager

/-- A call of `ProcessTimers` ends. It calls the due timers whose turn comes, in order and
each once. -/
def CallsDue (m : TimerManager κ) : Prop :=
  ∀ (ticks : Int64) (callbacks : Nat → List (TimedOp κ)),
    (∀ i, ∀ o ∈ callbacks i, o.NotBefore (getMillisTime ticks)) →
    ∃ log m', (∀ fuel, m.timers.length < fuel →
        processTimers (getMillisTime ticks) callbacks fuel 0 m = some (log, m')) ∧
      calls log = turns callbacks 0 [] (due (getMillisTime ticks) m) ∧
      InOrder (calls log) ∧ ((calls log).map TimerItem.id).Nodup

/-- A timer that is added now and then left alone is called at each reading that finds it
due, up to its repeat count. Readings an interval apart are such readings. -/
def FiresOften (m : TimerManager κ) : Prop :=
  ∀ (ticks : Int64) (intervalMs repeatCount : Int) (callback : κ) (timerId : Int)
    (added : TimerManager κ),
    m.addTimer (getMillisTime ticks) intervalMs repeatCount (some callback) = (timerId, added) →
    0 ≤ timerId →
    ∀ events : List (TimerEvent κ), Timely events →
      ∃ log m', added.run events = some (log, m') ∧ (Untouched timerId log →
        let interval := boundedInterval intervalMs
        let first := getMillisTime ticks + interval
        let times := duePasses interval first (passReadings events)
        callsOf timerId log = (if 1 ≤ repeatCount then min repeatCount.toNat times else times) ∧
        ∀ rounds, rounds.Sublist (passReadings events) → Spaced interval first rounds →
          (1 ≤ repeatCount → repeatCount ≤ rounds.length →
            (callsOf timerId log : Int) = repeatCount) ∧
          (repeatCount < 1 → rounds.length ≤ callsOf timerId log))

theorem callsDue {m : TimerManager κ} (h : Sound m) : m.CallsDue := by
  intro ticks callbacks hlater
  obtain ⟨log, m', hrun, hcalls, _⟩ := processTimers_due h hlater (Nat.lt_succ_self _)
  have hsub : (calls log).Sublist m.timers :=
    hcalls ▸ (turns_sublist callbacks _ 0 []).trans List.filter_sublist
  exact ⟨log, m', fun fuel hfuel => processTimers_fuel hfuel hrun, hcalls,
    h.order.sublist hsub, m.nodup.sublist (hsub.map TimerItem.id)⟩

theorem firesOften {m : TimerManager κ} (h : Sound m) : m.FiresOften := by
  intro ticks intervalMs repeatCount callback timerId added hadd hpos events htimely
  have hsound : Sound (m.addTimer (getMillisTime ticks) intervalMs repeatCount (some callback)).2 :=
    perform_sound h ⟨ticks, .addTimer intervalMs repeatCount (some callback)⟩
  rw [hadd] at hsound
  obtain ⟨log, m', hrun, _⟩ := run_sound htimely hsound
  refine ⟨log, m', hrun, fun huntouched => ?_⟩
  intro interval first times
  have hbounds := boundedInterval_bounds intervalMs
  obtain ⟨_, hfail⟩ | ⟨id, nextCallTime, _, _, hnext, hid, htimers⟩ :=
    m.addTimer_item (getMillisTime ticks) intervalMs repeatCount callback
  · rw [hfail] at hadd
    cases hadd
    exact absurd hpos (by decide)
  rw [addInt64_interval ticks hbounds.1 hbounds.2] at hnext
  obtain rfl := Option.some.inj hnext
  rw [hadd] at hid htimers
  obtain rfl : timerId = id := hid
  have hmem := htimers ▸ mem_insertTimer.mpr (Or.inl rfl)
  have hleft : 1 ≤ repeatCount → 0 < repeatCount := fun hn => by omega
  have hcalls := run_calls htimely hsound hmem hleft hrun huntouched
  have hexact : callsOf timerId log
      = if 1 ≤ repeatCount then min repeatCount.toNat times else times := by
    refine hcalls.trans ?_
    show (if 1 ≤ repeatCount then min (repeatCount - 0).toNat times else times) = _
    rw [Int.sub_zero]
  refine ⟨hexact, fun rounds hsub hspaced => ?_⟩
  have hsorted := htimely.readings.sublist (passReadings_sublist events)
  have hle : rounds.length ≤ times := spaced_length_le hsorted hsub hspaced
  constructor
  · intro hn hmany
    rw [hexact, if_pos hn]
    omega
  · intro hn
    rw [hexact, if_neg (by omega)]
    exact hle

end TimerManager

theorem run_callsDue_firesOften (before : List (TimerEvent κ)) (hbefore : Timely before) :
    ∃ log m, TimerManager.create.run before = some (log, m) ∧ m.CallsDue ∧ m.FiresOften := by
  obtain ⟨log, m, hrun, hsound⟩ := TimerManager.run_sound hbefore create_sound
  exact ⟨log, m, hrun, TimerManager.callsDue hsound, TimerManager.firesOften hsound⟩

/-- A timer with two calls that is called, then one that removes it. -/
theorem run_callsDue_firesOften_removed :
    ∃ log m, (TimerManager.create : TimerManager Nat).run
        [.op ⟨0, .addTimer 50 2 (some 7)⟩, .pass 50000 fun _ => [⟨60000, .removeTimer 0⟩]]
      = some (log, m) ∧ m.CallsDue ∧ m.FiresOften :=
  run_callsDue_firesOften _
    ⟨by
      intro e he
      fin_cases he
      · trivial
      · intro i o ho
        obtain rfl := List.mem_singleton.mp ho
        show getMillisTime 50000 ≤ getMillisTime 60000
        decide, by decide⟩

end FtMmi.Timer
