/-
FtMmi.Timer.TimerManager — the timers of the server (`TimerManager` in
`timer_manager.h`, `timer_manager.cpp`).

The list is kept in the order of the next calls. An id is one of 64 slots
and is free again as soon as its timer is gone. Callbacks are data of an
arbitrary type; the clock reading of an operation is an argument.

`processNext` is one round of the loop of `ProcessTimers`: it takes the
first timer if it is due and says whose callback runs. What the callback
does to the timers comes after it, as further operations.
-/
import FtMmi.Lib.KeyedList
import FtMmi.Util.Config

namespace FtMmi.Timer

open FtMmi.Lib

/-! ## Timers -/

def minInterval : Int := 50

def maxInterval : Int := 4096

def maxTimerCount : Nat := 64

def nonexistentId : Int := -1

structure TimerItem (κ : Type) where
  id : Int
  intervalMs : Int
  repeatCount : Int
  callbackCount : Int
  nextCallTime : Int
  callback : κ

/-- The timer list. The ids are distinct slots. -/
structure TimerManager (κ : Type) where
  timers : List (TimerItem κ)
  nodup : (timers.map TimerItem.id).Nodup
  range : ∀ t ∈ timers, 0 ≤ t.id ∧ t.id < maxTimerCount

/-- What one round of `ProcessTimers` comes to: no timer is due, a callback
is called, or a timer is dropped since its next call time overflows. -/
inductive Processed (κ : Type) where
  | idle
  | fired (callback : κ)
  | dropped

variable {κ : Type}

/-- `timerSlot`: a bit for each id in use. -/
def timerSlot (timers : List (TimerItem κ)) : Nat :=
  timers.foldl (fun slot t => slot ||| 1 <<< t.id.toNat) 0

def takeNextTimerId (timers : List (TimerItem κ)) : Int :=
  match (List.range maxTimerCount).find? fun i => !(timerSlot timers).testBit i with
  | some i => i
  | none => nonexistentId

/-- `InsertTimerInternal`: before the first timer with a later call. -/
def insertTimer (t : TimerItem κ) (timers : List (TimerItem κ)) : List (TimerItem κ) :=
  timers.orderedInsert (fun a b => a.nextCallTime < b.nextCallTime) t

theorem insertTimer_perm (t : TimerItem κ) (timers : List (TimerItem κ)) :
    (insertTimer t timers).Perm (t :: timers) :=
  List.perm_orderedInsert _ t timers

theorem mem_insertTimer {t a : TimerItem κ} {timers : List (TimerItem κ)} :
    a ∈ insertTimer t timers ↔ a = t ∨ a ∈ timers := by
  rw [(insertTimer_perm t timers).mem_iff, List.mem_cons]

/-- The timers stand in the order of their next calls. -/
def InOrder (timers : List (TimerItem κ)) : Prop :=
  timers.Pairwise fun a b => a.nextCallTime ≤ b.nextCallTime

theorem InOrder.insertTimer {timers : List (TimerItem κ)} (h : InOrder timers)
    (t : TimerItem κ) : InOrder (insertTimer t timers) := by
  induction timers with
  | nil => exact List.pairwise_singleton _ t
  | cons a timers ih =>
    obtain ⟨ha, htimers⟩ := List.pairwise_cons.mp h
    simp only [Timer.insertTimer, List.orderedInsert]
    split
    · rename_i hlt
      refine List.pairwise_cons.mpr ⟨fun b hb => ?_, h⟩
      rcases List.mem_cons.mp hb with rfl | hb
      · exact hlt.le
      · exact hlt.le.trans (ha b hb)
    · rename_i hlt
      refine List.pairwise_cons.mpr ⟨fun b hb => ?_, ih htimers⟩
      rcases mem_insertTimer.mp hb with rfl | hb
      · omega
      · exact ha b hb

theorem timerSlot_testBit (timers : List (TimerItem κ)) (i : Nat) :
    (timerSlot timers).testBit i = true ↔ ∃ t ∈ timers, t.id.toNat = i := by
  have hfold : ∀ (ts : List (TimerItem κ)) (slot : Nat),
      (ts.foldl (fun slot t => slot ||| 1 <<< t.id.toNat) slot).testBit i = true ↔
        slot.testBit i = true ∨ ∃ t ∈ ts, t.id.toNat = i := by
    intro ts
    induction ts with
    | nil => simp
    | cons t ts ih =>
      intro slot
      have hbit : (1 <<< t.id.toNat).testBit i = true ↔ t.id.toNat = i := by
        rw [Nat.one_shiftLeft, Nat.testBit_two_pow]
        exact decide_eq_true_iff
      rw [List.foldl_cons, ih, Nat.testBit_or, Bool.or_eq_true, hbit, or_assoc]
      simp
  rw [timerSlot, hfold, Nat.zero_testBit]
  simp

/-- The id taken is a free slot, or all are in use. -/
theorem takeNextTimerId_cases (m : TimerManager κ) :
    (takeNextTimerId m.timers = nonexistentId ∧
      ∀ i < maxTimerCount, ∃ t ∈ m.timers, t.id = i) ∨
    (0 ≤ takeNextTimerId m.timers ∧ takeNextTimerId m.timers < maxTimerCount ∧
      takeNextTimerId m.timers ∉ m.timers.map TimerItem.id) := by
  unfold takeNextTimerId
  cases hfind : (List.range maxTimerCount).find? fun i => !(timerSlot m.timers).testBit i with
  | none =>
    refine .inl ⟨rfl, fun i hi => ?_⟩
    have hbit := List.find?_eq_none.mp hfind i (List.mem_range.mpr hi)
    rw [Bool.not_eq_true, Bool.not_eq_false', timerSlot_testBit] at hbit
    obtain ⟨t, ht, hid⟩ := hbit
    have hrange := m.range t ht
    exact ⟨t, ht, by omega⟩
  | some i =>
    have hi := List.mem_range.mp (List.mem_of_find?_eq_some hfind)
    have hbit := List.find?_some hfind
    show _ ∨ (0 ≤ (i : Int) ∧ (i : Int) < maxTimerCount ∧ (i : Int) ∉ m.timers.map TimerItem.id)
    refine .inr ⟨Int.natCast_nonneg i, Int.ofNat_lt.mpr hi, fun hmem => ?_⟩
    obtain ⟨t, ht, hid⟩ := List.mem_map.mp hmem
    have hused := (timerSlot_testBit m.timers i).mpr ⟨t, ht, by omega⟩
    simp only [hused] at hbit
    cases hbit

namespace TimerManager

def create : TimerManager κ := ⟨[], List.nodup_nil, fun _ h => nomatch h⟩

/-- `InsertTimerInternal` of a timer with a free id. -/
def insert (m : TimerManager κ) (t : TimerItem κ) (hfree : t.id ∉ m.timers.map TimerItem.id)
    (hrange : 0 ≤ t.id ∧ t.id < maxTimerCount) : TimerManager κ where
  timers := insertTimer t m.timers
  nodup := by
    rw [((insertTimer_perm t m.timers).map TimerItem.id).nodup_iff]
    exact List.nodup_cons.mpr ⟨hfree, m.nodup⟩
  range := by
    intro other hother
    rcases List.mem_cons.mp ((insertTimer_perm t m.timers).mem_iff.mp hother) with rfl | h
    · exact hrange
    · exact m.range other h

/-- `timers_.erase` of the timer with an id. -/
def erase (m : TimerManager κ) (timerId : Int) : TimerManager κ where
  timers := m.timers.eraseP fun t => t.id = timerId
  nodup := m.nodup.sublist (List.eraseP_sublist.map TimerItem.id)
  range := fun t ht => m.range t (List.mem_of_mem_eraseP ht)

theorem erase_timers (m : TimerManager κ) (timerId : Int) :
    (m.erase timerId).timers = m.timers.filter fun t => t.id ≠ timerId :=
  eraseP_eq_filter_key m.nodup timerId

theorem not_mem_erase (m : TimerManager κ) (timerId : Int) :
    timerId ∉ (m.erase timerId).timers.map TimerItem.id := by
  rw [erase_timers]
  simp

theorem takeNextTimerId_free (m : TimerManager κ) (h : ¬ takeNextTimerId m.timers < 0) :
    (0 ≤ takeNextTimerId m.timers ∧ takeNextTimerId m.timers < maxTimerCount) ∧
      takeNextTimerId m.timers ∉ m.timers.map TimerItem.id := by
  rcases takeNextTimerId_cases m with ⟨hnone, _⟩ | ⟨hpos, hlt, hfree⟩
  · rw [hnone] at h
    exact absurd (by decide) h
  · exact ⟨⟨hpos, hlt⟩, hfree⟩

theorem find_free (m : TimerManager κ) {timerId : Int} {t : TimerItem κ}
    (h : m.timers.find? (fun t => t.id = timerId) = some t) :
    t.id ∉ (m.erase timerId).timers.map TimerItem.id := by
  have hid : t.id = timerId := by simpa using List.find?_some h
  rw [hid]
  exact m.not_mem_erase timerId

/-! ## Operations -/

/-- `AddTimer`. A callback may be empty. -/
def addTimer (m : TimerManager κ) (nowTime intervalMs repeatCount : Int) (callback : Option κ) :
    Int × TimerManager κ :=
  let intervalMs :=
    if intervalMs < minInterval then minInterval
    else if maxInterval < intervalMs then maxInterval
    else intervalMs
  match callback with
  | none => (nonexistentId, m)
  | some callback =>
      if h : takeNextTimerId m.timers < 0 then (nonexistentId, m)
      else
        match addInt64 nowTime intervalMs with
        | none => (nonexistentId, m)
        | some nextCallTime =>
            let timer : TimerItem κ :=
              { id := takeNextTimerId m.timers, intervalMs, repeatCount, callbackCount := 0,
                nextCallTime, callback }
            (timer.id, m.insert timer (m.takeNextTimerId_free h).2 (m.takeNextTimerId_free h).1)

/-- `RemoveTimer` -/
def removeTimer (m : TimerManager κ) (timerId : Int) : Int × TimerManager κ :=
  if m.timers.any (fun t => t.id = timerId) then (retOk, m.erase timerId) else (retErr, m)

def isExist (m : TimerManager κ) (timerId : Int) : Bool :=
  m.timers.any fun t => t.id = timerId

/-- `ResetTimer`. A timer whose next call time overflows is lost. -/
def resetTimer (m : TimerManager κ) (nowTime timerId : Int) : Int × TimerManager κ :=
  match h : m.timers.find? (fun t => t.id = timerId) with
  | none => (retErr, m)
  | some t =>
      match addInt64 nowTime t.intervalMs with
      | none => (retErr, m.erase timerId)
      | some nextCallTime =>
          (retOk, (m.erase timerId).insert { t with nextCallTime, callbackCount := 0 }
            (m.find_free (t := t) h) (m.range t (List.mem_of_find?_eq_some h)))

/-- One round of the loop of `ProcessTimers`. -/
def processNext (m : TimerManager κ) (nowTime : Int) : Processed κ × TimerManager κ :=
  match m with
  | ⟨[], nodup, range⟩ => (.idle, ⟨[], nodup, range⟩)
  | ⟨t :: rest, nodup, range⟩ =>
      if nowTime < t.nextCallTime then (.idle, ⟨t :: rest, nodup, range⟩)
      else
        let others : TimerManager κ :=
          ⟨rest, (List.nodup_cons.mp nodup).2, fun x hx => range x (List.mem_cons_of_mem t hx)⟩
        let callbackCount := t.callbackCount + 1
        if 1 ≤ t.repeatCount ∧ t.repeatCount ≤ callbackCount then (.fired t.callback, others)
        else
          match addInt64 nowTime t.intervalMs with
          | none => (.dropped, others)
          | some nextCallTime =>
              (.fired t.callback, others.insert { t with callbackCount, nextCallTime }
                (List.nodup_cons.mp nodup).1 (range t List.mem_cons_self))

/-! ## What the operations do to the list -/

/-- The interval of a timer. -/
def boundedInterval (intervalMs : Int) : Int :=
  if intervalMs < minInterval then minInterval
  else if maxInterval < intervalMs then maxInterval
  else intervalMs

/-- `AddTimer` fails, for want of an id or of a next call time, or inserts a new
timer under the id it returns. -/
theorem addTimer_item (m : TimerManager κ) (nowTime intervalMs repeatCount : Int)
    (callback : κ) :
    ((takeNextTimerId m.timers < 0 ∨ addInt64 nowTime (boundedInterval intervalMs) = none) ∧
      m.addTimer nowTime intervalMs repeatCount (some callback) = (nonexistentId, m)) ∨
    ∃ id nextCallTime, 0 ≤ id ∧ id ∉ m.timers.map TimerItem.id ∧
      addInt64 nowTime (boundedInterval intervalMs) = some nextCallTime ∧
      (m.addTimer nowTime intervalMs repeatCount (some callback)).1 = id ∧
      (m.addTimer nowTime intervalMs repeatCount (some callback)).2.timers
        = insertTimer ⟨id, boundedInterval intervalMs, repeatCount, 0, nextCallTime, callback⟩
            m.timers := by
  simp only [addTimer]
  by_cases hneg : takeNextTimerId m.timers < 0
  · rw [dif_pos hneg]
    exact .inl ⟨.inl hneg, rfl⟩
  · rw [dif_neg hneg]
    split
    · rename_i hnext
      exact .inl ⟨.inr hnext, rfl⟩
    · rename_i nextCallTime hnext
      have hfree := m.takeNextTimerId_free hneg
      exact .inr ⟨takeNextTimerId m.timers, nextCallTime, hfree.1.1, hfree.2, hnext, rfl, rfl⟩

/-- `AddTimer` fails, for want of an id or of a next call time, or inserts a
timer under the id it returns. -/
theorem addTimer_inserts (m : TimerManager κ) (nowTime intervalMs repeatCount : Int)
    (callback : κ) :
    ((takeNextTimerId m.timers < 0 ∨ addInt64 nowTime (boundedInterval intervalMs) = none) ∧
      m.addTimer nowTime intervalMs repeatCount (some callback) = (nonexistentId, m)) ∨
    ∃ t : TimerItem κ, t.callback = callback ∧ t.repeatCount = repeatCount ∧
      t.callbackCount = 0 ∧ 0 ≤ t.id ∧ t.id ∉ m.timers.map TimerItem.id ∧
      addInt64 nowTime (boundedInterval intervalMs) = some t.nextCallTime ∧
      (m.addTimer nowTime intervalMs repeatCount (some callback)).1 = t.id ∧
      (m.addTimer nowTime intervalMs repeatCount (some callback)).2.timers
        = insertTimer t m.timers := by
  obtain hfail | ⟨id, nextCallTime, hpos, hfree, hnext, hid, htimers⟩ :=
    m.addTimer_item nowTime intervalMs repeatCount callback
  · exact .inl hfail
  · exact .inr ⟨_, rfl, rfl, rfl, hpos, hfree, hnext, hid, htimers⟩

/-- `AddTimer` fails and changes nothing, or adds a timer under the id it
returns. -/
theorem addTimer_cases (m : TimerManager κ) (nowTime intervalMs repeatCount : Int)
    (callback : κ) :
    ((m.addTimer nowTime intervalMs repeatCount (some callback)).1 = nonexistentId ∧
      (m.addTimer nowTime intervalMs repeatCount (some callback)).2 = m) ∨
    ∃ t : TimerItem κ, t.callback = callback ∧ t.repeatCount = repeatCount ∧
      t.callbackCount = 0 ∧ 0 ≤ t.id ∧ t.id ∉ m.timers.map TimerItem.id ∧
      (m.addTimer nowTime intervalMs repeatCount (some callback)).1 = t.id ∧
      (m.addTimer nowTime intervalMs repeatCount (some callback)).2.timers.Perm
        (t :: m.timers) := by
  obtain ⟨_, hfail⟩ | ⟨t, hcallback, hrepeat, hcount, hpos, hfree, _, hid, htimers⟩ :=
    m.addTimer_inserts nowTime intervalMs repeatCount callback
  · rw [hfail]
    exact .inl ⟨rfl, rfl⟩
  · refine .inr ⟨t, hcallback, hrepeat, hcount, hpos, hfree, hid, ?_⟩
    rw [htimers]
    exact insertTimer_perm t m.timers

theorem addTimer_of_overflow (m : TimerManager κ) {nowTime intervalMs : Int} (repeatCount : Int)
    (callback : κ) (h : addInt64 nowTime (boundedInterval intervalMs) = none) :
    m.addTimer nowTime intervalMs repeatCount (some callback) = (nonexistentId, m) := by
  obtain ⟨_, hfail⟩ | ⟨t, _, _, _, _, _, hnext, _⟩ :=
    m.addTimer_inserts nowTime intervalMs repeatCount callback
  · exact hfail
  · rw [h] at hnext
    cases hnext

/-- There are never more timers than ids. -/
theorem length_le_maxTimerCount (m : TimerManager κ) : m.timers.length ≤ maxTimerCount := by
  have hsub : m.timers.map TimerItem.id ⊆
      (List.range maxTimerCount).map fun i : Nat => (i : Int) := by
    intro id hid
    obtain ⟨t, ht, rfl⟩ := List.mem_map.mp hid
    have hrange := m.range t ht
    exact List.mem_map.mpr ⟨t.id.toNat, List.mem_range.mpr (by omega), by omega⟩
  have hle := (List.subperm_of_subset m.nodup hsub).length_le
  rw [List.length_map, List.length_map, List.length_range] at hle
  exact hle

/-- With fewer timers than slots there is an id. -/
theorem takeNextTimerId_of_room (m : TimerManager κ) (h : m.timers.length < maxTimerCount) :
    ¬ takeNextTimerId m.timers < 0 := by
  obtain ⟨_, hall⟩ | ⟨hpos, _, _⟩ := takeNextTimerId_cases m
  · have hsub : (List.range maxTimerCount).map (fun i : Nat => (i : Int)) ⊆
        m.timers.map TimerItem.id := by
      intro id hid
      obtain ⟨i, hi, rfl⟩ := List.mem_map.mp hid
      obtain ⟨t, ht, heq⟩ := hall i (List.mem_range.mp hi)
      exact List.mem_map.mpr ⟨t, ht, heq⟩
    have hnodup : ((List.range maxTimerCount).map (fun i : Nat => (i : Int))).Nodup :=
      List.nodup_range.map Nat.cast_injective
    have hle := (List.subperm_of_subset hnodup hsub).length_le
    rw [List.length_map, List.length_map, List.length_range] at hle
    omega
  · omega

theorem addTimer_of_room (m : TimerManager κ) {nowTime intervalMs nextCallTime : Int}
    (repeatCount : Int) (callback : κ) (hroom : m.timers.length < maxTimerCount)
    (h : addInt64 nowTime (boundedInterval intervalMs) = some nextCallTime) :
    ∃ t : TimerItem κ, t.callback = callback ∧ t.nextCallTime = nextCallTime ∧ 0 ≤ t.id ∧
      (m.addTimer nowTime intervalMs repeatCount (some callback)).1 = t.id ∧
      (m.addTimer nowTime intervalMs repeatCount (some callback)).2.timers
        = insertTimer t m.timers := by
  obtain ⟨hfull | hover, _⟩ | ⟨t, hcallback, _, _, hpos, _, hnext, hid, htimers⟩ :=
    m.addTimer_inserts nowTime intervalMs repeatCount callback
  · exact absurd hfull (m.takeNextTimerId_of_room hroom)
  · rw [h] at hover
    cases hover
  · rw [h] at hnext
    exact ⟨t, hcallback, (Option.some.inj hnext).symm, hpos, hid, htimers⟩

theorem removeTimer_timers (m : TimerManager κ) (timerId : Int) :
    (m.removeTimer timerId).2.timers = m.timers.filter fun t => t.id ≠ timerId := by
  unfold removeTimer
  split
  · exact m.erase_timers timerId
  · rename_i hnone
    rw [eq_comm, List.filter_eq_self]
    intro t ht
    refine decide_eq_true fun hid => hnone ?_
    exact List.any_eq_true.mpr ⟨t, ht, decide_eq_true hid⟩

/-- `RemoveTimer` for what each of a list keeps. -/
theorem foldl_removeTimer_timers {α : Type*} (timerId : α → Int) (xs : List α) (m : TimerManager κ) :
    (xs.foldl (fun timers x => (timers.removeTimer (timerId x)).2) m).timers
      = m.timers.filter fun t => t.id ∉ xs.map timerId := by
  induction xs generalizing m with
  | nil => simp
  | cons x xs ih =>
    rw [List.foldl_cons, ih, removeTimer_timers, List.filter_filter]
    apply List.filter_congr
    intro t _
    rw [← Bool.decide_and]
    simp only [List.map_cons, List.mem_cons, not_or]
    exact decide_eq_decide.mpr And.comm

theorem isExist_eq_true_iff (m : TimerManager κ) (timerId : Int) :
    m.isExist timerId = true ↔ ∃ t ∈ m.timers, t.id = timerId := by
  simp [isExist]

/-- `ResetTimer` inserts the timer with the id anew, or loses it. -/
theorem resetTimer_inserts (m : TimerManager κ) (nowTime timerId : Int) :
    ((∀ t ∈ m.timers, t.id ≠ timerId) ∧ m.resetTimer nowTime timerId = (retErr, m)) ∨
    ∃ t ∈ m.timers, t.id = timerId ∧
      ((addInt64 nowTime t.intervalMs = none ∧ (m.resetTimer nowTime timerId).1 = retErr ∧
          (m.resetTimer nowTime timerId).2.timers = m.timers.filter fun t => t.id ≠ timerId) ∨
        ∃ nextCallTime, addInt64 nowTime t.intervalMs = some nextCallTime ∧
          (m.resetTimer nowTime timerId).1 = retOk ∧
          (m.resetTimer nowTime timerId).2.timers
            = insertTimer { t with nextCallTime, callbackCount := 0 }
                (m.timers.filter fun t => t.id ≠ timerId)) := by
  unfold resetTimer
  split
  · rename_i hnone
    refine .inl ⟨fun t ht => ?_, rfl⟩
    have h := List.find?_eq_none.mp hnone t ht
    simpa using h
  · rename_i t hsome
    refine .inr ⟨t, List.mem_of_find?_eq_some hsome, by simpa using List.find?_some hsome, ?_⟩
    split
    · rename_i hover
      exact .inl ⟨hover, rfl, m.erase_timers timerId⟩
    · rename_i nextCallTime hnext
      refine .inr ⟨nextCallTime, hnext, rfl, ?_⟩
      rw [← m.erase_timers timerId]
      rfl

/-- `ResetTimer` puts the timer with the id somewhere else in the list, or
loses it. -/
theorem resetTimer_cases (m : TimerManager κ) (nowTime timerId : Int) :
    ((∀ t ∈ m.timers, t.id ≠ timerId) ∧ (m.resetTimer nowTime timerId).2 = m) ∨
    ∃ t ∈ m.timers, t.id = timerId ∧
      ((addInt64 nowTime t.intervalMs = none ∧ (m.resetTimer nowTime timerId).2.timers
          = m.timers.filter fun t => t.id ≠ timerId) ∨
        (addInt64 nowTime t.intervalMs ≠ none ∧
          ∃ nextCallTime, (m.resetTimer nowTime timerId).2.timers.Perm
            ({ t with nextCallTime, callbackCount := 0 } ::
              m.timers.filter fun t => t.id ≠ timerId))) := by
  obtain ⟨hnone, heq⟩ | ⟨t, ht, hid, ⟨hover, _, htimers⟩ | ⟨nextCallTime, hnext, _, htimers⟩⟩ :=
    m.resetTimer_inserts nowTime timerId
  · exact .inl ⟨hnone, congrArg Prod.snd heq⟩
  · exact .inr ⟨t, ht, hid, .inl ⟨hover, htimers⟩⟩
  · refine .inr ⟨t, ht, hid, .inr ⟨by rw [hnext]; exact Option.some_ne_none _, nextCallTime, ?_⟩⟩
    rw [htimers]
    exact insertTimer_perm _ _

/-- The first timer is taken if it is due. A timer that has been called often
enough is gone; another is inserted anew, unless its next call time
overflows. -/
theorem processNext_inserts (m : TimerManager κ) (nowTime : Int) :
    ((∀ t ∈ m.timers.head?, nowTime < t.nextCallTime) ∧ m.processNext nowTime = (.idle, m)) ∨
    ∃ t rest, m.timers = t :: rest ∧ t.nextCallTime ≤ nowTime ∧
      ((1 ≤ t.repeatCount ∧ t.repeatCount ≤ t.callbackCount + 1 ∧
          (m.processNext nowTime).1 = .fired t.callback ∧
          (m.processNext nowTime).2.timers = rest) ∨
        (¬ (1 ≤ t.repeatCount ∧ t.repeatCount ≤ t.callbackCount + 1) ∧
          addInt64 nowTime t.intervalMs = none ∧
          (m.processNext nowTime).1 = .dropped ∧ (m.processNext nowTime).2.timers = rest) ∨
        (¬ (1 ≤ t.repeatCount ∧ t.repeatCount ≤ t.callbackCount + 1) ∧
          (m.processNext nowTime).1 = .fired t.callback ∧
          ∃ nextCallTime, addInt64 nowTime t.intervalMs = some nextCallTime ∧
            (m.processNext nowTime).2.timers
              = insertTimer { t with callbackCount := t.callbackCount + 1, nextCallTime } rest)) := by
  obtain ⟨timers, nodup, range⟩ := m
  cases timers with
  | nil =>
    refine .inl ⟨?_, rfl⟩
    intro t h
    cases h
  | cons t rest =>
    by_cases hdue : nowTime < t.nextCallTime
    · refine .inl ⟨?_, ?_⟩
      · rintro _ ⟨⟩
        exact hdue
      · rw [processNext, if_pos hdue]
    · refine .inr ⟨t, rest, rfl, by omega, ?_⟩
      simp only [processNext, if_neg hdue]
      by_cases hdone : 1 ≤ t.repeatCount ∧ t.repeatCount ≤ t.callbackCount + 1
      · rw [if_pos hdone]
        exact .inl ⟨hdone.1, hdone.2, rfl, rfl⟩
      · rw [if_neg hdone]
        split
        · rename_i hover
          exact .inr (.inl ⟨hdone, hover, rfl, rfl⟩)
        · rename_i nextCallTime hnext
          exact .inr (.inr ⟨hdone, rfl, nextCallTime, hnext, rfl⟩)

/-- The first timer is taken if it is due. A timer that has been called
often enough is gone; another is put back, unless its next call time
overflows. -/
theorem processNext_cases (m : TimerManager κ) (nowTime : Int) :
    ((∀ t ∈ m.timers.head?, nowTime < t.nextCallTime) ∧ m.processNext nowTime = (.idle, m)) ∨
    ∃ t rest, m.timers = t :: rest ∧ t.nextCallTime ≤ nowTime ∧
      ((1 ≤ t.repeatCount ∧ t.repeatCount ≤ t.callbackCount + 1 ∧
          (m.processNext nowTime).1 = .fired t.callback ∧
          (m.processNext nowTime).2.timers = rest) ∨
        (¬ (1 ≤ t.repeatCount ∧ t.repeatCount ≤ t.callbackCount + 1) ∧
          (m.processNext nowTime).1 = .dropped ∧ (m.processNext nowTime).2.timers = rest) ∨
        (¬ (1 ≤ t.repeatCount ∧ t.repeatCount ≤ t.callbackCount + 1) ∧
          (m.processNext nowTime).1 = .fired t.callback ∧
          ∃ nextCallTime, (m.processNext nowTime).2.timers.Perm
            ({ t with callbackCount := t.callbackCount + 1, nextCallTime } :: rest))) := by
  obtain hidle | ⟨t, rest, htimers, hdue, hdone | ⟨hmore, _, hdropped⟩ |
    ⟨hmore, hfired, nextCallTime, _, heq⟩⟩ := m.processNext_inserts nowTime
  · exact .inl hidle
  · exact .inr ⟨t, rest, htimers, hdue, .inl hdone⟩
  · exact .inr ⟨t, rest, htimers, hdue, .inr (.inl ⟨hmore, hdropped⟩)⟩
  · refine .inr ⟨t, rest, htimers, hdue, .inr (.inr ⟨hmore, hfired, nextCallTime, ?_⟩)⟩
    rw [heq]
    exact insertTimer_perm _ _

/-! ## Where the timers come from -/

/-- The timers of the second list are timers of the first, called at other times. -/
def Descends (m m' : TimerManager κ) : Prop :=
  ∀ t' ∈ m'.timers, ∃ t ∈ m.timers, t'.id = t.id ∧ t'.callback = t.callback ∧
    t'.repeatCount = t.repeatCount ∧ (0 ≤ t.callbackCount → 0 ≤ t'.callbackCount)

theorem Descends.of_subset {m m' : TimerManager κ} (h : ∀ t ∈ m'.timers, t ∈ m.timers) :
    Descends m m' :=
  fun t ht => ⟨t, h t ht, rfl, rfl, rfl, id⟩

theorem removeTimer_descends (m : TimerManager κ) (timerId : Int) :
    Descends m (m.removeTimer timerId).2 := by
  refine .of_subset fun t ht => ?_
  rw [removeTimer_timers] at ht
  exact List.mem_of_mem_filter ht

theorem resetTimer_descends (m : TimerManager κ) (nowTime timerId : Int) :
    Descends m (m.resetTimer nowTime timerId).2 := by
  rcases m.resetTimer_cases nowTime timerId with
    ⟨_, hsame⟩ | ⟨t, ht, _, ⟨_, htimers⟩ | ⟨_, nextCallTime, hperm⟩⟩
  · rw [hsame]
    exact .of_subset fun _ h => h
  · refine .of_subset fun t' ht' => ?_
    rw [htimers] at ht'
    exact List.mem_of_mem_filter ht'
  · intro t' ht'
    rcases List.mem_cons.mp (hperm.mem_iff.mp ht') with rfl | hmem
    · exact ⟨t, ht, rfl, rfl, rfl, fun _ => Int.le_refl 0⟩
    · exact ⟨t', List.mem_of_mem_filter hmem, rfl, rfl, rfl, id⟩

theorem processNext_descends (m : TimerManager κ) (nowTime : Int) :
    Descends m (m.processNext nowTime).2 := by
  rcases m.processNext_cases nowTime with ⟨_, hidle⟩ | ⟨t, rest, htimers, _, hcases⟩
  · rw [hidle]
    exact .of_subset fun _ h => h
  · have hrest : ∀ a ∈ rest, a ∈ m.timers := by
      intro a ha
      rw [htimers]
      exact List.mem_cons_of_mem t ha
    rcases hcases with ⟨_, _, _, heq⟩ | ⟨_, _, heq⟩ | ⟨_, _, nextCallTime, hperm⟩
    · exact .of_subset fun a ha => hrest a (heq ▸ ha)
    · exact .of_subset fun a ha => hrest a (heq ▸ ha)
    · intro t' ht'
      rcases List.mem_cons.mp (hperm.mem_iff.mp ht') with rfl | hmem
      · refine ⟨t, by rw [htimers]; exact List.mem_cons_self, rfl, rfl, rfl, fun h => ?_⟩
        dsimp only
        omega
      · exact ⟨t', hrest t' hmem, rfl, rfl, rfl, id⟩

/-- A one-shot timer is gone when its callback is called. -/
theorem processNext_fired {m : TimerManager κ} {nowTime : Int} {callback : κ}
    (h : (m.processNext nowTime).1 = .fired callback) :
    ∃ t ∈ m.timers, t.callback = callback ∧ (t.repeatCount = 1 → 0 ≤ t.callbackCount →
      ∀ t' ∈ (m.processNext nowTime).2.timers, t' ∈ m.timers ∧ t'.id ≠ t.id) := by
  rcases m.processNext_cases nowTime with ⟨_, hidle⟩ | ⟨t, rest, htimers, _, hcases⟩
  · rw [hidle] at h
    cases h
  · refine ⟨t, by rw [htimers]; exact List.mem_cons_self, ?_, fun hrepeat hcount t' ht' => ?_⟩
    · rcases hcases with ⟨_, _, hfired, _⟩ | ⟨_, hdropped, _⟩ | ⟨_, hfired, _⟩
      · exact Processed.fired.inj (hfired.symm.trans h)
      · rw [hdropped] at h
        cases h
      · exact Processed.fired.inj (hfired.symm.trans h)
    · rcases hcases with ⟨_, _, _, heq⟩ | ⟨hmore, _⟩ | ⟨hmore, _⟩
      · rw [heq] at ht'
        have hnodup := m.nodup
        rw [htimers, List.map_cons, List.nodup_cons] at hnodup
        refine ⟨by rw [htimers]; exact List.mem_cons_of_mem t ht', fun hid => hnodup.1 ?_⟩
        exact hid ▸ List.mem_map_of_mem ht'
      · exact absurd ⟨by omega, by omega⟩ hmore
      · exact absurd ⟨by omega, by omega⟩ hmore

/-- What a timer added is not, was there before. -/
theorem mem_addTimer {m : TimerManager κ} {nowTime intervalMs repeatCount : Int} {callback : κ}
    {t : TimerItem κ} (h : t ∈ (m.addTimer nowTime intervalMs repeatCount (some callback)).2.timers) :
    t ∈ m.timers ∨
      (t.callback = callback ∧ t.repeatCount = repeatCount ∧ t.callbackCount = 0 ∧
        t.id = (m.addTimer nowTime intervalMs repeatCount (some callback)).1 ∧
        t.id ∉ m.timers.map TimerItem.id) := by
  rcases m.addTimer_cases nowTime intervalMs repeatCount callback with
    ⟨_, hsame⟩ | ⟨new, hcallback, hrepeat, hcount, _, hfree, hid, hperm⟩
  · rw [hsame] at h
    exact .inl h
  · rcases List.mem_cons.mp (hperm.mem_iff.mp h) with rfl | hmem
    · exact .inr ⟨hcallback, hrepeat, hcount, hid.symm, hfree⟩
    · exact .inl hmem

end TimerManager

end FtMmi.Timer
