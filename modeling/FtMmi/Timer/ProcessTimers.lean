/-
FtMmi.Timer.ProcessTimers — a whole call of `ProcessTimers`, with callbacks
that work on the timers themselves.

The call reads the clock once. A repeating timer is inserted anew before
its callback runs, and what the callback adds or resets is inserted while
the loop is under way; all of it lies at least one interval after a
reading that is no earlier than the loop's own, so none of it is due in
this call. That is what `due_performAll` and `due_processNext` say: a
round takes the first of the timers that are due and leaves the others,
and a callback can only take timers off them.

`turns` is the call seen from outside. Timers are called in their order
unless a callback before their turn has named them.
-/
import FtMmi.Timer.TimerHistory

namespace FtMmi.Timer

open FtMmi.Lib

variable {κ : Type}

/-! ## Operations with a clock reading -/

inductive TimerOp (κ : Type) where
  | addTimer (intervalMs repeatCount : Int) (callback : Option κ)
  | removeTimer (timerId : Int)
  | resetTimer (timerId : Int)

/-- An operation and the state of the clock when it reads it. -/
structure TimedOp (κ : Type) where
  ticks : Int64
  op : TimerOp κ

/-- The timer that an operation names. -/
def TimedOp.named (o : TimedOp κ) : Option Int :=
  match o.op with
  | .addTimer .. => none
  | .removeTimer timerId => some timerId
  | .resetTimer timerId => some timerId

/-- The operation is done after a reading of the clock. -/
def TimedOp.NotBefore (nowTime : Int) (o : TimedOp κ) : Prop := nowTime ≤ getMillisTime o.ticks

/-- What happens to a timer: its callback is called, or an operation names it, or
it is new in the list. -/
inductive Happening (κ : Type) where
  | called (t : TimerItem κ)
  | named (t : TimerItem κ)
  | added (t : TimerItem κ)

def Happening.called? : Happening κ → Option (TimerItem κ)
  | .called t => some t
  | .named _ => none
  | .added _ => none

/-- The timers called, in order. -/
def calls (log : List (Happening κ)) : List (TimerItem κ) := log.filterMap Happening.called?

theorem calls_append (log log' : List (Happening κ)) :
    calls (log ++ log') = calls log ++ calls log' :=
  List.filterMap_append

namespace TimerManager

def perform (m : TimerManager κ) (o : TimedOp κ) : TimerManager κ :=
  match o.op with
  | .addTimer intervalMs repeatCount callback =>
      (m.addTimer (getMillisTime o.ticks) intervalMs repeatCount callback).2
  | .removeTimer timerId => (m.removeTimer timerId).2
  | .resetTimer timerId => (m.resetTimer (getMillisTime o.ticks) timerId).2

def performAll (m : TimerManager κ) (ops : List (TimedOp κ)) : TimerManager κ :=
  ops.foldl perform m

/-! ## The loop -/

/-- What an operation is to the timers: to those in the list that it names, and to
one that it adds. -/
def happens (m : TimerManager κ) (o : TimedOp κ) : List (Happening κ) :=
  (m.timers.filter fun t => o.named = some t.id).map .named ++
    ((m.perform o).timers.filter fun t => t.id ∉ m.timers.map TimerItem.id).map .added

def happensAll (m : TimerManager κ) : List (TimedOp κ) → List (Happening κ)
  | [] => []
  | o :: ops => m.happens o ++ (m.perform o).happensAll ops

/-- `ProcessTimers` at a clock reading, from its `i`-th callback on. The callbacks
are what they do to the timers. What happens to timers, in order, and the
timers afterwards; there is no result when the fuel runs out. -/
def processTimers (nowTime : Int) (callbacks : Nat → List (TimedOp κ)) :
    Nat → Nat → TimerManager κ → Option (List (Happening κ) × TimerManager κ)
  | 0, _, _ => none
  | fuel + 1, i, m =>
      match m.processNext nowTime with
      | (.idle, m') => some ([], m')
      | (.dropped, m') => some ([], m')
      | (.fired _, m') =>
          (processTimers nowTime callbacks fuel (i + 1) (m'.performAll (callbacks i))).map
            fun r =>
              (m.timers.head?.toList.map .called ++ (m'.happensAll (callbacks i) ++ r.1), r.2)

theorem calls_happens (m : TimerManager κ) (o : TimedOp κ) : calls (m.happens o) = [] := by
  refine List.filterMap_eq_nil_iff.mpr fun happening h => ?_
  rcases List.mem_append.mp h with h | h
  · obtain ⟨t, _, rfl⟩ := List.mem_map.mp h
    rfl
  · obtain ⟨t, _, rfl⟩ := List.mem_map.mp h
    rfl

theorem calls_happensAll (m : TimerManager κ) (ops : List (TimedOp κ)) :
    calls (m.happensAll ops) = [] := by
  induction ops generalizing m with
  | nil => rfl
  | cons o ops ih => rw [happensAll, calls_append, calls_happens, ih, List.nil_append]

/-- The timers that are due at a clock reading, in the order of the list. -/
def due (nowTime : Int) (m : TimerManager κ) : List (TimerItem κ) :=
  m.timers.filter fun t => t.nextCallTime ≤ nowTime

end TimerManager

/-- Whose turn comes among the due timers, from the `i`-th callback on. A timer that a
callback has named before its turn is passed over: it is gone, or reset and its turn
comes an interval later. -/
def turns (callbacks : Nat → List (TimedOp κ)) :
    Nat → List Int → List (TimerItem κ) → List (TimerItem κ)
  | _, _, [] => []
  | i, named, t :: rest =>
      if t.id ∈ named then turns callbacks i named rest
      else t :: turns callbacks (i + 1) (named ++ (callbacks i).filterMap TimedOp.named) rest

/-! ## What holds of every list -/

/-- In order, and with intervals that `AddTimer` has put within bounds. -/
structure Sound (m : TimerManager κ) : Prop where
  order : InOrder m.timers
  intervals : ∀ t ∈ m.timers, minInterval ≤ t.intervalMs ∧ t.intervalMs ≤ maxInterval

theorem create_sound : Sound (.create : TimerManager κ) :=
  ⟨List.Pairwise.nil, fun _ h => nomatch h⟩

theorem Sound.filter {m m' : TimerManager κ} (h : Sound m) {p : TimerItem κ → Bool}
    (htimers : m'.timers = m.timers.filter p) : Sound m' := by
  refine ⟨htimers ▸ List.Pairwise.filter p h.order, fun t ht => ?_⟩
  rw [htimers] at ht
  exact h.intervals t (List.mem_filter.mp ht).1

theorem Sound.insertTimer {m' : TimerManager κ} {timers : List (TimerItem κ)} {t : TimerItem κ}
    (horder : InOrder timers)
    (hall : ∀ a ∈ t :: timers, minInterval ≤ a.intervalMs ∧ a.intervalMs ≤ maxInterval)
    (htimers : m'.timers = insertTimer t timers) : Sound m' := by
  refine ⟨htimers ▸ horder.insertTimer t, fun a ha => ?_⟩
  rw [htimers, mem_insertTimer] at ha
  exact hall a (List.mem_cons.mpr ha)

/-- What is called later does not count among the due. -/
theorem filter_due_insertTimer {nowTime : Int} {t : TimerItem κ} (h : nowTime < t.nextCallTime)
    (timers : List (TimerItem κ)) :
    (insertTimer t timers).filter (fun t => t.nextCallTime ≤ nowTime)
      = timers.filter fun t => t.nextCallTime ≤ nowTime := by
  obtain ⟨before, after, htimers, hinsert, _, _⟩ := insertTimer_split t timers
  rw [hinsert, htimers, List.filter_append, List.filter_append, List.filter_cons_of_neg]
  simp only [decide_eq_true_eq]
  omega

namespace TimerManager

/-! ## An operation of a callback -/

theorem perform_sound {m : TimerManager κ} (h : Sound m) (o : TimedOp κ) :
    Sound (m.perform o) := by
  obtain ⟨ticks, op⟩ := o
  cases op with
  | addTimer intervalMs repeatCount callback =>
    cases callback with
    | none => exact h
    | some callback =>
      show Sound (m.addTimer (getMillisTime ticks) intervalMs repeatCount (some callback)).2
      obtain ⟨_, hfail⟩ | ⟨id, nextCallTime, _, _, _, _, htimers⟩ :=
        m.addTimer_item (getMillisTime ticks) intervalMs repeatCount callback
      · rw [hfail]
        exact h
      · refine Sound.insertTimer h.order (fun a ha => ?_) htimers
        rcases List.mem_cons.mp ha with rfl | ha
        · exact boundedInterval_bounds intervalMs
        · exact h.intervals a ha
  | removeTimer timerId => exact h.filter (m.removeTimer_timers timerId)
  | resetTimer timerId =>
    show Sound (m.resetTimer (getMillisTime ticks) timerId).2
    obtain ⟨_, heq⟩ | ⟨t, ht, _, ⟨_, _, htimers⟩ | ⟨nextCallTime, _, _, htimers⟩⟩ :=
      m.resetTimer_inserts (getMillisTime ticks) timerId
    · rw [heq]
      exact h
    · exact h.filter htimers
    · refine Sound.insertTimer (List.Pairwise.filter _ h.order) (fun a ha => ?_) htimers
      rcases List.mem_cons.mp ha with rfl | ha
      · exact h.intervals t ht
      · exact h.intervals a (List.mem_filter.mp ha).1

/-- An operation takes the timer it names off those that are due, and adds none. -/
theorem due_perform {m : TimerManager κ} (h : Sound m) {nowTime : Int} {o : TimedOp κ}
    (hlater : o.NotBefore nowTime) :
    due nowTime (m.perform o) = (due nowTime m).filter fun t => t.id ∉ o.named.toList := by
  obtain ⟨ticks, op⟩ := o
  have hlater' : nowTime ≤ getMillisTime ticks := hlater
  have hmin : minInterval = 50 := rfl
  cases op with
  | addTimer intervalMs repeatCount callback =>
    have hsame : due nowTime (m.perform ⟨ticks, .addTimer intervalMs repeatCount callback⟩)
        = due nowTime m := by
      cases callback with
      | none => rfl
      | some callback =>
        obtain ⟨_, hfail⟩ | ⟨id, nextCallTime, _, _, hnext, _, htimers⟩ :=
          m.addTimer_item (getMillisTime ticks) intervalMs repeatCount callback
        · exact congrArg (fun r => due nowTime r.2) hfail
        · have hbounds := boundedInterval_bounds intervalMs
          rw [addInt64_interval ticks hbounds.1 hbounds.2] at hnext
          have heq := Option.some.inj hnext
          refine (congrArg (List.filter _) htimers).trans (filter_due_insertTimer ?_ m.timers)
          show nowTime < nextCallTime
          omega
    rw [hsame]
    simp [TimedOp.named]
  | removeTimer timerId =>
    show (m.removeTimer timerId).2.timers.filter _ = _
    rw [removeTimer_timers, List.filter_comm]
    simp [due, TimedOp.named]
  | resetTimer timerId =>
    show (m.resetTimer (getMillisTime ticks) timerId).2.timers.filter _ = _
    have hfilter : (m.timers.filter fun t => t.id ≠ timerId).filter
        (fun t => t.nextCallTime ≤ nowTime)
          = (due nowTime m).filter fun t => t.id ∉ (some timerId : Option Int).toList := by
      rw [List.filter_comm]
      simp [due]
    obtain ⟨hnone, heq⟩ | ⟨t, ht, _, ⟨hover, _, _⟩ | ⟨nextCallTime, hnext, _, htimers⟩⟩ :=
      m.resetTimer_inserts (getMillisTime ticks) timerId
    · refine Eq.trans ?_ hfilter
      rw [heq]
      refine congrArg (List.filter _) (List.filter_eq_self.mpr ?_).symm
      exact fun t ht => decide_eq_true (hnone t ht)
    · rw [addInt64_interval ticks (h.intervals t ht).1 (h.intervals t ht).2] at hover
      cases hover
    · rw [addInt64_interval ticks (h.intervals t ht).1 (h.intervals t ht).2] at hnext
      have heq := Option.some.inj hnext
      have hinterval := (h.intervals t ht).1
      rw [htimers, filter_due_insertTimer (by show nowTime < nextCallTime; omega)]
      exact hfilter

theorem performAll_sound {m : TimerManager κ} (h : Sound m) (ops : List (TimedOp κ)) :
    Sound (m.performAll ops) := by
  induction ops generalizing m with
  | nil => exact h
  | cons o ops ih => exact ih (perform_sound h o)

theorem due_performAll {m : TimerManager κ} (h : Sound m) {nowTime : Int}
    {ops : List (TimedOp κ)} (hlater : ∀ o ∈ ops, o.NotBefore nowTime) :
    due nowTime (m.performAll ops)
      = (due nowTime m).filter fun t => t.id ∉ ops.filterMap TimedOp.named := by
  induction ops generalizing m with
  | nil => simp [performAll]
  | cons o ops ih =>
    have hstep := due_perform h (hlater o (by simp))
    have hrest := ih (perform_sound h o) fun o' ho' => hlater o' (by simp [ho'])
    show due nowTime ((m.perform o).performAll ops) = _
    rw [hrest, hstep, List.filter_filter]
    refine List.filter_congr fun t _ => ?_
    cases hname : o.named with
    | none => simp [hname]
    | some timerId => simp [hname, Bool.and_comm]

/-! ## A round of the loop -/

/-- Nothing is due, or the first of the timers that are due is called and taken off
them. -/
theorem processNext_due {m : TimerManager κ} (h : Sound m) (ticks : Int64) :
    (due (getMillisTime ticks) m = [] ∧ m.processNext (getMillisTime ticks) = (.idle, m)) ∨
    ∃ t rest, due (getMillisTime ticks) m = t :: rest ∧ m.timers.head? = some t ∧
      (m.processNext (getMillisTime ticks)).1 = .fired t.callback ∧
      Sound (m.processNext (getMillisTime ticks)).2 ∧
      due (getMillisTime ticks) (m.processNext (getMillisTime ticks)).2 = rest := by
  have hmin : minInterval = 50 := rfl
  obtain ⟨hhead, hidle⟩ | ⟨t, rest, htimers, hdue, hround⟩ :=
    m.processNext_inserts (getMillisTime ticks)
  · refine .inl ⟨List.filter_eq_nil_iff.mpr fun t ht => ?_, hidle⟩
    have horder := h.order
    cases htimers : m.timers with
    | nil => rw [htimers] at ht; cases ht
    | cons first rest =>
      rw [htimers] at ht hhead horder
      have hfirst := hhead first rfl
      have hlater : first.nextCallTime ≤ t.nextCallTime := by
        rcases List.mem_cons.mp ht with rfl | ht
        · exact Int.le_refl _
        · exact (List.pairwise_cons.mp horder).1 t ht
      rw [decide_eq_true_eq]
      omega
  · refine .inr ⟨t, rest.filter fun t => t.nextCallTime ≤ getMillisTime ticks, ?_, ?_, ?_⟩
    · rw [due, htimers]
      exact List.filter_cons_of_pos (by simpa using hdue)
    · rw [htimers]
      rfl
    have horder := h.order
    have hintervals := h.intervals
    rw [htimers] at horder hintervals
    have hrest : InOrder rest := (List.pairwise_cons.mp horder).2
    have hothers : ∀ a ∈ rest, minInterval ≤ a.intervalMs ∧ a.intervalMs ≤ maxInterval :=
      fun a ha => hintervals a (List.mem_cons_of_mem t ha)
    obtain ⟨hlow, hhigh⟩ := hintervals t List.mem_cons_self
    obtain ⟨_, _, hfired, heq⟩ | ⟨_, hover, _⟩ | ⟨_, hfired, nextCallTime, hnext, heq⟩ := hround
    · refine ⟨hfired, ⟨heq ▸ hrest, heq ▸ hothers⟩, ?_⟩
      rw [due, heq]
    · rw [addInt64_interval ticks hlow hhigh] at hover
      cases hover
    · rw [addInt64_interval ticks hlow hhigh] at hnext
      have hlater := Option.some.inj hnext
      refine ⟨hfired, Sound.insertTimer hrest (fun a ha => ?_) heq, ?_⟩
      · rcases List.mem_cons.mp ha with rfl | ha
        · exact ⟨hlow, hhigh⟩
        · exact hothers a ha
      · rw [due, heq]
        exact filter_due_insertTimer (by show _ < nextCallTime; omega) rest

/-! ## A whole call -/

/-- With fuel for every timer that is due, the call ends and has called those whose
turn came. -/
theorem processTimers_turns (ticks : Int64) {callbacks : Nat → List (TimedOp κ)}
    (hlater : ∀ i, ∀ o ∈ callbacks i, o.NotBefore (getMillisTime ticks))
    (timers : List (TimerItem κ)) :
    ∀ (fuel i : Nat) (named : List Int) {m : TimerManager κ}, Sound m →
      due (getMillisTime ticks) m = timers.filter (fun t => t.id ∉ named) →
      timers.length < fuel →
      ∃ log m', processTimers (getMillisTime ticks) callbacks fuel i m = some (log, m') ∧
        calls log = turns callbacks i named timers ∧ Sound m' := by
  induction timers with
  | nil =>
    intro fuel i named m h hdue hfuel
    obtain ⟨fuel, rfl⟩ : ∃ n, fuel = n + 1 := ⟨fuel - 1, by simp at hfuel; omega⟩
    obtain ⟨_, hidle⟩ | ⟨t, rest, hsome, _⟩ := processNext_due h ticks
    · refine ⟨[], m, ?_, rfl, h⟩
      rw [processTimers, hidle]
    · rw [hdue] at hsome
      cases hsome
  | cons t timers ih =>
    intro fuel i named m h hdue hfuel
    rw [List.length_cons] at hfuel
    by_cases hnamed : t.id ∈ named
    · rw [turns, if_pos hnamed]
      refine ih fuel i named h ?_ (by omega)
      rw [hdue]
      exact List.filter_cons_of_neg (by simpa using hnamed)
    · obtain ⟨fuel, rfl⟩ : ∃ n, fuel = n + 1 := ⟨fuel - 1, by omega⟩
      have hfirst : (t :: timers).filter (fun t => t.id ∉ named)
          = t :: timers.filter fun t => t.id ∉ named :=
        List.filter_cons_of_pos (by simpa using hnamed)
      rw [hfirst] at hdue
      obtain ⟨hnone, _⟩ | ⟨t', rest, hsome, hhead, hfired, hsound, hrest⟩ := processNext_due h ticks
      · rw [hdue] at hnone
        cases hnone
      · rw [hdue] at hsome
        obtain ⟨rfl, rfl⟩ := List.cons.inj hsome
        have hnext := due_performAll hsound (hlater i)
        rw [hrest, List.filter_filter] at hnext
        obtain ⟨log, m', hcall, hturns, hsound'⟩ := ih fuel (i + 1)
          (named ++ (callbacks i).filterMap TimedOp.named)
          (performAll_sound hsound (callbacks i))
          (hnext.trans (List.filter_congr fun u _ => by simp [Bool.and_comm])) (by omega)
        refine ⟨.called t ::
          ((m.processNext (getMillisTime ticks)).2.happensAll (callbacks i) ++ log),
          m', ?_, ?_, hsound'⟩
        · rw [processTimers]
          cases hround : m.processNext (getMillisTime ticks) with
          | mk processed m₁ =>
            rw [hround] at hfired hcall
            cases hfired
            simp only at hcall
            simp only [hcall, hhead]
            rfl
        · rw [turns, if_neg hnamed, ← hturns]
          show t :: calls (happensAll _ _ ++ log) = t :: calls log
          rw [calls_append, calls_happensAll, List.nil_append]

end TimerManager

end FtMmi.Timer
