/-
FtMmi.KeySubscriber.TimerPlaces — where the timers of subscriptions stand
among those of other components.

The timers are called in the order of the list. `others` is what the list
has of other components, without ids: which id a timer gets depends on which
are free. `placeOf` says when the timer of a subscription is due, and how
many of the others stand before it. Both are all that can be seen of the
list from outside, and each operation on the list is one on them.
-/
import FtMmi.KeySubscriber.SubscriberTimers

namespace FtMmi.KeySubscriber

open FtMmi.Timer

/-! ## Places -/

/-- When a timer is due, and how many timers of other components stand before it. -/
structure Place where
  due : Int
  ahead : Nat
  deriving DecidableEq, Repr

namespace Place

/-- One more stands before it. -/
def behind (p : Place) : Place := { p with ahead := p.ahead + 1 }

/-- A timer of another component is put in. -/
def inserted (nextCallTime : Int) (p : Place) : Place :=
  if nextCallTime < p.due then p.behind else p

/-- The timer with the number is taken out. -/
def removed (others : List (TimerItem Nat)) (number : Nat) (p : Place) : Place :=
  { p with ahead := (others.take p.ahead).countP fun o => o.callback ≠ number }

@[simp] theorem behind_due (p : Place) : p.behind.due = p.due := rfl

@[simp] theorem behind_ahead (p : Place) : p.behind.ahead = p.ahead + 1 := rfl

theorem inserted_behind (nextCallTime : Int) (p : Place) :
    p.behind.inserted nextCallTime = (p.inserted nextCallTime).behind := by
  unfold inserted
  rw [behind_due]
  split <;> rfl

/-- The first of the others is not the one that is taken out. -/
theorem removed_behind_of_ne {o : TimerItem Nat} {number : Nat} (h : o.callback ≠ number)
    (others : List (TimerItem Nat)) (p : Place) :
    p.behind.removed (o :: others) number = (p.removed others number).behind := by
  simp [removed, behind, h]

theorem removed_behind_of_eq {o : TimerItem Nat} {number : Nat} (h : o.callback = number)
    (others : List (TimerItem Nat)) (p : Place) :
    p.behind.removed (o :: others) number = p.removed others number := by
  simp [removed, behind, h]

end Place

/-- A timer of another component, without its id. -/
def otherTimer (t : TimerItem TimerOwner) : Option (TimerItem Nat) :=
  match t.callback with
  | .other number => some ⟨0, t.intervalMs, t.repeatCount, t.callbackCount, t.nextCallTime, number⟩
  | .subscriber _ => none

def others (timers : List (TimerItem TimerOwner)) : List (TimerItem Nat) :=
  timers.filterMap otherTimer

def placeOf (ref : Nat) : List (TimerItem TimerOwner) → Option Place
  | [] => none
  | t :: timers =>
      match t.callback with
      | .subscriber other => if other = ref then some ⟨t.nextCallTime, 0⟩ else placeOf ref timers
      | .other _ => (placeOf ref timers).map Place.behind

variable {ref number : Nat} {t : TimerItem TimerOwner} {o : TimerItem Nat}
variable {timers : List (TimerItem TimerOwner)}

theorem otherTimer_of_other (h : t.callback = .other number) :
    otherTimer t
      = some ⟨0, t.intervalMs, t.repeatCount, t.callbackCount, t.nextCallTime, number⟩ := by
  rw [otherTimer, h]

theorem otherTimer_of_subscriber (h : t.callback = .subscriber ref) : otherTimer t = none := by
  rw [otherTimer, h]

theorem others_cons_of_other (h : t.callback = .other number)
    (timers : List (TimerItem TimerOwner)) :
    others (t :: timers)
      = ⟨0, t.intervalMs, t.repeatCount, t.callbackCount, t.nextCallTime, number⟩
        :: others timers :=
  List.filterMap_cons_some (otherTimer_of_other h)

theorem others_cons_of_subscriber (h : t.callback = .subscriber ref)
    (timers : List (TimerItem TimerOwner)) : others (t :: timers) = others timers :=
  List.filterMap_cons_none (otherTimer_of_subscriber h)

theorem placeOf_cons_of_other (h : t.callback = .other number)
    (timers : List (TimerItem TimerOwner)) :
    placeOf ref (t :: timers) = (placeOf ref timers).map Place.behind := by
  rw [placeOf, h]

theorem placeOf_cons_of_subscriber {other : Nat} (h : t.callback = .subscriber other)
    (timers : List (TimerItem TimerOwner)) :
    placeOf ref (t :: timers)
      = if other = ref then some ⟨t.nextCallTime, 0⟩ else placeOf ref timers := by
  rw [placeOf, h]

/-! ## Members -/

theorem mem_others {timers : List (TimerItem TimerOwner)} (h : o ∈ others timers) :
    ∃ t ∈ timers, t.callback = .other o.callback ∧ t.nextCallTime = o.nextCallTime := by
  obtain ⟨t, ht, heq⟩ := List.mem_filterMap.mp h
  cases hcallback : t.callback with
  | subscriber ref =>
    rw [otherTimer_of_subscriber hcallback] at heq
    cases heq
  | other number =>
    rw [otherTimer_of_other hcallback] at heq
    obtain rfl := Option.some.inj heq
    exact ⟨t, ht, hcallback, rfl⟩

theorem placeOf_eq_none (h : ∀ t ∈ timers, t.callback ≠ .subscriber ref) :
    placeOf ref timers = none := by
  induction timers with
  | nil => rfl
  | cons t timers ih =>
    have hrest := ih fun t' ht' => h t' (List.mem_cons_of_mem t ht')
    cases hcallback : t.callback with
    | other number => rw [placeOf_cons_of_other hcallback, hrest, Option.map_none]
    | subscriber other =>
      have hne : other ≠ ref := by
        rintro rfl
        exact h t List.mem_cons_self hcallback
      rw [placeOf_cons_of_subscriber hcallback, if_neg hne, hrest]

/-- A place is that of a timer. -/
theorem mem_of_placeOf {place : Place} (h : placeOf ref timers = some place) :
    ∃ t ∈ timers, t.callback = .subscriber ref ∧ t.nextCallTime = place.due := by
  induction timers generalizing place with
  | nil => cases h
  | cons t timers ih =>
    cases hcallback : t.callback with
    | other number =>
      rw [placeOf_cons_of_other hcallback, Option.map_eq_some_iff] at h
      obtain ⟨place', hplace, rfl⟩ := h
      obtain ⟨t', ht', hown, hdue⟩ := ih hplace
      exact ⟨t', List.mem_cons_of_mem t ht', hown, hdue⟩
    | subscriber other =>
      rw [placeOf_cons_of_subscriber hcallback] at h
      split at h
      · rename_i heq
        obtain rfl := Option.some.inj h
        exact ⟨t, List.mem_cons_self, heq ▸ hcallback, rfl⟩
      · obtain ⟨t', ht', hown, hdue⟩ := ih h
        exact ⟨t', List.mem_cons_of_mem t ht', hown, hdue⟩

theorem placeOf_isSome (h : t ∈ timers) (hcallback : t.callback = .subscriber ref) :
    (placeOf ref timers).isSome = true := by
  induction timers with
  | nil => cases h
  | cons first timers ih =>
    rcases List.mem_cons.mp h with rfl | hrest
    · rw [placeOf_cons_of_subscriber hcallback, if_pos rfl]
      rfl
    · have hplace := ih hrest
      cases hfirst : first.callback with
      | other number =>
        rw [placeOf_cons_of_other hfirst, Option.isSome_map]
        exact hplace
      | subscriber other =>
        rw [placeOf_cons_of_subscriber hfirst]
        split
        · rfl
        · exact hplace

/-! ## Timers of subscriptions -/

/-- The timers of other subscriptions do not count. -/
theorem placeOf_filter {p : TimerItem TimerOwner → Bool} (timers : List (TimerItem TimerOwner))
    (hp : ∀ t, p t = false → ∃ other, t.callback = .subscriber other ∧ other ≠ ref) :
    placeOf ref (timers.filter p) = placeOf ref timers := by
  induction timers with
  | nil => rfl
  | cons t timers ih =>
    cases hpt : p t with
    | true =>
      rw [List.filter_cons_of_pos hpt]
      cases hcallback : t.callback with
      | other number => rw [placeOf_cons_of_other hcallback, placeOf_cons_of_other hcallback, ih]
      | subscriber other =>
        rw [placeOf_cons_of_subscriber hcallback, placeOf_cons_of_subscriber hcallback, ih]
    | false =>
      obtain ⟨other, hcallback, hne⟩ := hp t hpt
      rw [List.filter_cons_of_neg (by simp [hpt]), placeOf_cons_of_subscriber hcallback,
        if_neg hne, ih]

theorem others_filter {p : TimerItem TimerOwner → Bool} (timers : List (TimerItem TimerOwner))
    (hp : ∀ t, p t = false → t.callback.isOther = false) :
    others (timers.filter p) = others timers := by
  induction timers with
  | nil => rfl
  | cons t timers ih =>
    cases hpt : p t with
    | true =>
      rw [List.filter_cons_of_pos hpt, others, others, List.filterMap_cons, List.filterMap_cons]
      rw [others, others] at ih
      rw [ih]
    | false =>
      rw [List.filter_cons_of_neg (by simp [hpt]), ih]
      have hnot := hp t hpt
      cases hcallback : t.callback with
      | other number =>
        rw [hcallback] at hnot
        cases hnot
      | subscriber ref => exact (others_cons_of_subscriber hcallback timers).symm

section

variable {m m' : TimerManager TimerOwner} {own : Nat}

/-- The others stand as they stood when only a subscription's own timers come
and go. -/
theorem others_of_touches
    (h : Touches (fun callback => decide (callback = .subscriber own)) m m') :
    others m'.timers = others m.timers := by
  have hnot : ∀ t : TimerItem TimerOwner, (!decide (t.callback = .subscriber own)) = false →
      t.callback.isOther = false := by
    intro t ht
    have hcallback : t.callback = .subscriber own := by simpa using ht
    rw [hcallback]
    rfl
  rw [← others_filter m'.timers hnot, h.others, others_filter m.timers hnot]

theorem placeOf_of_touches
    (h : Touches (fun callback => decide (callback = .subscriber own)) m m') (hne : own ≠ ref) :
    placeOf ref m'.timers = placeOf ref m.timers := by
  have hnot : ∀ t : TimerItem TimerOwner, (!decide (t.callback = .subscriber own)) = false →
      ∃ other, t.callback = .subscriber other ∧ other ≠ ref := by
    intro t ht
    exact ⟨own, by simpa using ht, hne⟩
  rw [← placeOf_filter m'.timers hnot, h.others, placeOf_filter m.timers hnot]

end

/-- A timer that is started stands behind all that are due no later. -/
theorem placeOf_insertTimer_of_own (hown : t.callback = .subscriber ref) (horder : InOrder timers)
    (hnone : ∀ t' ∈ timers, t'.callback ≠ .subscriber ref) :
    placeOf ref (insertTimer t timers)
      = some ⟨t.nextCallTime, (others timers).countP fun o => o.nextCallTime ≤ t.nextCallTime⟩ := by
  induction timers with
  | nil =>
    show placeOf ref [t] = _
    rw [placeOf_cons_of_subscriber hown, if_pos rfl]
    rfl
  | cons first timers ih =>
    obtain ⟨hfirst, hrest⟩ := List.pairwise_cons.mp horder
    by_cases hlt : t.nextCallTime < first.nextCallTime
    · -- All are due later.
      have hinsert : insertTimer t (first :: timers) = t :: first :: timers := by
        simp [insertTimer, List.orderedInsert, hlt]
      have hzero : ((others (first :: timers)).countP fun o =>
          decide (o.nextCallTime ≤ t.nextCallTime)) = 0 := by
        rw [List.countP_eq_zero]
        intro o ho
        obtain ⟨t', ht', _, hnext⟩ := mem_others ho
        rw [decide_eq_true_eq, ← hnext, not_le]
        rcases List.mem_cons.mp ht' with rfl | ht'
        · exact hlt
        · exact hlt.trans_le (hfirst t' ht')
      rw [hinsert, placeOf_cons_of_subscriber hown, if_pos rfl, hzero]
    · have hinsert : insertTimer t (first :: timers) = first :: insertTimer t timers := by
        simp [insertTimer, List.orderedInsert, hlt]
      have hplace := ih hrest fun t' ht' => hnone t' (List.mem_cons_of_mem first ht')
      rw [hinsert]
      cases hcallback : first.callback with
      | other number =>
        rw [placeOf_cons_of_other hcallback, hplace, others_cons_of_other hcallback,
          List.countP_cons_of_pos (by simpa using not_lt.mp hlt)]
        rfl
      | subscriber other =>
        have hne : other ≠ ref := by
          rintro rfl
          exact hnone first List.mem_cons_self hcallback
        rw [placeOf_cons_of_subscriber hcallback, if_neg hne, hplace,
          others_cons_of_subscriber hcallback]

/-! ## Timers of other components -/

/-- The others find the timer with a number where it stands in the list. -/
theorem find_others (number : Nat) (timers : List (TimerItem TimerOwner)) :
    (∀ t ∈ timers, t.callback ≠ .other number) ∧
        (others timers).find? (fun o => o.callback = number) = none ∨
      ∃ t ∈ timers, t.callback = .other number ∧
        (others timers).find? (fun o => o.callback = number)
          = some ⟨0, t.intervalMs, t.repeatCount, t.callbackCount, t.nextCallTime, number⟩ := by
  cases hfind : (others timers).find? fun o => o.callback = number with
  | none =>
    refine .inl ⟨fun t ht hcallback => ?_, rfl⟩
    have hmem : _ ∈ others timers := List.mem_filterMap.mpr ⟨t, ht, otherTimer_of_other hcallback⟩
    simpa using List.find?_eq_none.mp hfind _ hmem
  | some o =>
    have hnumber : o.callback = number := by simpa using List.find?_some hfind
    obtain ⟨t, ht, heq⟩ := List.mem_filterMap.mp (List.mem_of_find?_eq_some hfind)
    cases hcallback : t.callback with
    | subscriber ref =>
      rw [otherTimer_of_subscriber hcallback] at heq
      cases heq
    | other other =>
      rw [otherTimer_of_other hcallback] at heq
      obtain rfl := Option.some.inj heq
      obtain rfl : other = number := hnumber
      exact .inr ⟨t, ht, hcallback, rfl⟩

theorem others_insertTimer (h : t.callback = .other number) (horder : InOrder timers) :
    others (insertTimer t timers)
      = insertTimer ⟨0, t.intervalMs, t.repeatCount, t.callbackCount, t.nextCallTime, number⟩
          (others timers) := by
  induction timers with
  | nil => exact others_cons_of_other h []
  | cons first timers ih =>
    obtain ⟨hfirst, hrest⟩ := List.pairwise_cons.mp horder
    by_cases hlt : t.nextCallTime < first.nextCallTime
    · have hinsert : insertTimer t (first :: timers) = t :: first :: timers := by
        simp [insertTimer, List.orderedInsert, hlt]
      rw [hinsert, others_cons_of_other h]
      -- It stands before the first of the others too.
      cases hothers : others (first :: timers) with
      | nil => rfl
      | cons o rest =>
        obtain ⟨t', ht', _, hnext⟩ := mem_others (hothers ▸ List.mem_cons_self)
        have hlater : t.nextCallTime < o.nextCallTime := by
          rw [← hnext]
          rcases List.mem_cons.mp ht' with rfl | ht'
          · exact hlt
          · exact hlt.trans_le (hfirst t' ht')
        simp [insertTimer, List.orderedInsert, hlater]
    · have hinsert : insertTimer t (first :: timers) = first :: insertTimer t timers := by
        simp [insertTimer, List.orderedInsert, hlt]
      rw [hinsert]
      cases hcallback : first.callback with
      | other other =>
        rw [others_cons_of_other hcallback, others_cons_of_other hcallback, ih hrest]
        simp [insertTimer, List.orderedInsert, hlt]
      | subscriber ref =>
        rw [others_cons_of_subscriber hcallback, others_cons_of_subscriber hcallback, ih hrest]

theorem placeOf_insertTimer (h : t.callback = .other number) (horder : InOrder timers) :
    placeOf ref (insertTimer t timers)
      = (placeOf ref timers).map (Place.inserted t.nextCallTime) := by
  induction timers with
  | nil =>
    show placeOf ref [t] = _
    rw [placeOf_cons_of_other h]
    rfl
  | cons first timers ih =>
    obtain ⟨hfirst, hrest⟩ := List.pairwise_cons.mp horder
    by_cases hlt : t.nextCallTime < first.nextCallTime
    · have hinsert : insertTimer t (first :: timers) = t :: first :: timers := by
        simp [insertTimer, List.orderedInsert, hlt]
      rw [hinsert, placeOf_cons_of_other h]
      refine Option.map_congr fun place hplace => ?_
      obtain ⟨t', ht', _, hdue⟩ := mem_of_placeOf hplace
      have hlater : t.nextCallTime < place.due := by
        rw [← hdue]
        rcases List.mem_cons.mp ht' with rfl | ht'
        · exact hlt
        · exact hlt.trans_le (hfirst t' ht')
      rw [Place.inserted, if_pos hlater]
    · have hinsert : insertTimer t (first :: timers) = first :: insertTimer t timers := by
        simp [insertTimer, List.orderedInsert, hlt]
      rw [hinsert]
      cases hcallback : first.callback with
      | other other =>
        rw [placeOf_cons_of_other hcallback, placeOf_cons_of_other hcallback, ih hrest,
          Option.map_map, Option.map_map]
        exact Option.map_congr fun place _ => (Place.inserted_behind _ place).symm
      | subscriber other =>
        rw [placeOf_cons_of_subscriber hcallback, placeOf_cons_of_subscriber hcallback, ih hrest]
        split
        · rw [Option.map_some, Place.inserted, if_neg hlt]
        · rfl

/-- The list without the timer that has the number. -/
theorem others_remove (number : Nat) (timers : List (TimerItem TimerOwner)) :
    others (timers.filter fun t => t.callback ≠ .other number)
      = (others timers).filter fun o => o.callback ≠ number := by
  induction timers with
  | nil => rfl
  | cons t timers ih =>
    cases hcallback : t.callback with
    | subscriber ref =>
      rw [List.filter_cons_of_pos (by simp [hcallback]), others_cons_of_subscriber hcallback,
        others_cons_of_subscriber hcallback, ih]
    | other other =>
      by_cases hsame : other = number
      · rw [List.filter_cons_of_neg (by simp [hcallback, hsame]), ih,
          others_cons_of_other hcallback, List.filter_cons_of_neg (by simp [hsame])]
      · rw [List.filter_cons_of_pos (by simp [hcallback, hsame]),
          others_cons_of_other hcallback, others_cons_of_other hcallback, ih,
          List.filter_cons_of_pos (by simp [hsame])]

theorem placeOf_remove (number : Nat) (timers : List (TimerItem TimerOwner)) :
    placeOf ref (timers.filter fun t => t.callback ≠ .other number)
      = (placeOf ref timers).map (Place.removed (others timers) number) := by
  induction timers with
  | nil => rfl
  | cons t timers ih =>
    cases hcallback : t.callback with
    | subscriber other =>
      rw [List.filter_cons_of_pos (by simp [hcallback]), placeOf_cons_of_subscriber hcallback,
        placeOf_cons_of_subscriber hcallback, others_cons_of_subscriber hcallback, ih]
      split
      · simp [Place.removed]
      · rfl
    | other other =>
      rw [placeOf_cons_of_other hcallback, others_cons_of_other hcallback, Option.map_map]
      by_cases hsame : other = number
      · rw [List.filter_cons_of_neg (by simp [hcallback, hsame]), ih]
        exact Option.map_congr fun place _ => (Place.removed_behind_of_eq hsame _ place).symm
      · rw [List.filter_cons_of_pos (by simp [hcallback, hsame]),
          placeOf_cons_of_other hcallback, ih, Option.map_map]
        exact Option.map_congr fun place _ => (Place.removed_behind_of_ne hsame _ place).symm

end FtMmi.KeySubscriber
