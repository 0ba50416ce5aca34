/-
FtMmi.EventHandler.TimerOwnership — which timers the sessions' queues name.

A timer id is a slot that another component may be given as soon as the
timer is gone, so an id that stays in a queue may come to name a stranger's
timer. `Ledger` is the invariant against that: the timers created for the
events of a queue and the ids the queue stores are the same, one by one,
and the counter counts them. `Ledger.release` is the step all removals
share.

The callback of a timer does not always clear what it should.
`timerOwnership_iff` states exactly which runs keep the ledger.
-/
import FtMmi.EventHandler.ANRManager
import FtMmi.Lib.StepSystem

namespace FtMmi.EventHandler

open FtMmi.Lib
open FtMmi.Socket
open FtMmi.Timer

/-! ## Ownership -/

def Owner.isAnr : Owner → Bool
  | .anr _ _ _ => true
  | .other _ => false

/-- The live timers of this component. -/
def anrTimers (timers : List (TimerItem Owner)) : List (TimerItem Owner) :=
  timers.filter fun t => t.callback.isAnr

/-- The live timers of the others. -/
def otherTimers (timers : List (TimerItem Owner)) : List (TimerItem Owner) :=
  timers.filter fun t => !t.callback.isAnr

/-- Every id stored in a queue names a live timer made for that event, the
counter counts the live timers, and neither an acknowledgement nor the
loss of a session touches a timer of another component. -/
structure TimersOwned (s : ANRManager) : Prop where
  stored : ∀ sess type, ∀ item ∈ (s.sessions sess).events type, item.timerId ≠ -1 →
    ∃ t ∈ s.timers.timers, t.id = item.timerId ∧ t.callback = .anr sess type item.id
  counted : s.anrTimerCount = (anrTimers s.timers.timers).length
  acknowledged : ∀ eventType eventId sess currentTime,
    otherTimers (s.markProcessed eventType eventId sess currentTime).timers.timers
      = otherTimers s.timers.timers
  lost : ∀ info sess, otherTimers (s.onSessionLost info sess).timers.timers
    = otherTimers s.timers.timers

/-- If the timer was made for an event of the queue: the event and the
timer's id. -/
def claim (sess : Nat) (type : ANREventType) (t : TimerItem Owner) : Option (Int × Int) :=
  match t.callback with
  | .anr sess' type' id => if sess' = sess ∧ type' = type then some (id, t.id) else none
  | .other _ => none

def claimsOf (sess : Nat) (type : ANREventType) (timers : List (TimerItem Owner)) :
    List (Int × Int) :=
  timers.filterMap (claim sess type)

/-- The timers made for the events of a queue are those it stores. -/
structure Ledger (s : ANRManager) : Prop where
  owned : ∀ sess type, (claimsOf sess type s.timers.timers).Perm
    (storedIn ((s.sessions sess).events type))
  counted : s.anrTimerCount = (anrTimers s.timers.timers).length
  oneShot : ∀ t ∈ s.timers.timers, t.callback.isAnr = true →
    t.repeatCount = 1 ∧ 0 ≤ t.callbackCount

/-! ## Claims -/

theorem claim_eq_some_iff {sess : Nat} {type : ANREventType} {t : TimerItem Owner}
    {id timerId : Int} :
    claim sess type t = some (id, timerId) ↔ t.callback = .anr sess type id ∧ t.id = timerId := by
  unfold claim
  cases hcb : t.callback with
  | anr sess' type' id' =>
    simp only [Owner.anr.injEq]
    constructor
    · intro h
      split at h
      · rename_i heq
        cases h
        exact ⟨⟨heq.1, heq.2, rfl⟩, rfl⟩
      · cases h
    · rintro ⟨⟨rfl, rfl, rfl⟩, rfl⟩
      rw [if_pos ⟨rfl, rfl⟩]
  | other component =>
    simp

theorem mem_claimsOf {sess : Nat} {type : ANREventType} {timers : List (TimerItem Owner)}
    {id timerId : Int} :
    (id, timerId) ∈ claimsOf sess type timers ↔
      ∃ t ∈ timers, t.callback = .anr sess type id ∧ t.id = timerId := by
  rw [claimsOf, List.mem_filterMap]
  simp only [claim_eq_some_iff]

/-- The ids claimed by a queue are ids of timers, in the same order. -/
theorem claimsOf_sublist (sess : Nat) (type : ANREventType) (timers : List (TimerItem Owner)) :
    ((claimsOf sess type timers).map Prod.snd).Sublist (timers.map TimerItem.id) := by
  induction timers with
  | nil => exact List.Sublist.refl _
  | cons t timers ih =>
    rw [claimsOf, List.map_cons]
    cases hclaim : claim sess type t with
    | none =>
      rw [List.filterMap_cons_none hclaim]
      exact ih.cons _
    | some c =>
      rw [List.filterMap_cons_some hclaim, List.map_cons]
      have hid := (claim_eq_some_iff.mp (show claim sess type t = some (c.1, c.2) from hclaim)).2
      rw [← hid]
      exact ih.cons_cons _

theorem claimsOf_dropKeys (sess : Nat) (type : ANREventType) (ks : List Int)
    (timers : List (TimerItem Owner)) :
    claimsOf sess type (dropKeys TimerItem.id ks timers)
      = (claimsOf sess type timers).filter fun c => c.2 ∉ ks := by
  induction timers with
  | nil => rfl
  | cons t timers ih =>
    rw [claimsOf, dropKeys] at ih ⊢
    cases hclaim : claim sess type t with
    | none =>
      rw [claimsOf, List.filterMap_cons_none hclaim]
      by_cases hk : t.id ∈ ks
      · rw [List.filter_cons_of_neg (by simp [hk])]
        exact ih
      · rw [List.filter_cons_of_pos (by simp [hk]), List.filterMap_cons_none hclaim]
        exact ih
    | some c =>
      have hid := (claim_eq_some_iff.mp (show claim sess type t = some (c.1, c.2) from hclaim)).2
      rw [claimsOf, List.filterMap_cons_some hclaim]
      by_cases hk : t.id ∈ ks
      · rw [List.filter_cons_of_neg (by simp [hk]), List.filter_cons_of_neg (by simp [← hid, hk])]
        exact ih
      · rw [List.filter_cons_of_pos (by simp [hk]), List.filterMap_cons_some hclaim,
          List.filter_cons_of_pos (by simp [← hid, hk])]
        exact congrArg _ ih

/-- Two queues do not claim the same timer. -/
theorem claim_unique (s : ANRManager) {sess sess' : Nat} {type type' : ANREventType}
    {id id' timerId : Int} (h : (id, timerId) ∈ claimsOf sess type s.timers.timers)
    (h' : (id', timerId) ∈ claimsOf sess' type' s.timers.timers) :
    sess = sess' ∧ type = type' := by
  obtain ⟨t, ht, hcb, hid⟩ := mem_claimsOf.mp h
  obtain ⟨t', ht', hcb', hid'⟩ := mem_claimsOf.mp h'
  have heq := List.inj_on_of_nodup_map s.timers.nodup ht ht' (hid.trans hid'.symm)
  rw [heq, hcb'] at hcb
  cases hcb
  exact ⟨rfl, rfl⟩

/-! ## Removal -/

/-- The entries `gone` leave a queue together with their timers. -/
theorem Ledger.release {s s' : ANRManager} (hs : Ledger s) {sess : Nat} {type : ANREventType}
    {gone : List (Int × Int)} {left : List EventTime}
    (hsplit : storedIn ((s.sessions sess).events type) = gone ++ storedIn left)
    (htimers : s'.timers.timers = dropKeys TimerItem.id (gone.map Prod.snd) s.timers.timers)
    (hcount : s'.anrTimerCount = s.anrTimerCount - gone.length)
    (hevents : ∀ sess' type', (s'.sessions sess').events type'
      = if sess' = sess ∧ type' = type then left else (s.sessions sess').events type') :
    Ledger s' ∧ otherTimers s'.timers.timers = otherTimers s.timers.timers := by
  have hclaims := hs.owned sess type
  rw [hsplit] at hclaims
  have hnodup : ((gone ++ storedIn left).map Prod.snd).Nodup :=
    (hclaims.map Prod.snd).nodup_iff.mp (s.timers.nodup.sublist (claimsOf_sublist sess type _))
  rw [List.map_append] at hnodup
  -- The ids that go belong to timers of this queue.
  have hgone : ∀ k ∈ gone.map Prod.snd, ∃ id, (id, k) ∈ claimsOf sess type s.timers.timers := by
    intro k hk
    obtain ⟨⟨id, timerId⟩, hc, rfl⟩ := List.mem_map.mp hk
    exact ⟨id, hclaims.mem_iff.mpr (List.mem_append_left _ hc)⟩
  have howner : ∀ k ∈ gone.map Prod.snd, ∃ t ∈ s.timers.timers,
      t.callback.isAnr = true ∧ t.id = k := by
    intro k hk
    obtain ⟨id, hc⟩ := hgone k hk
    obtain ⟨t, ht, hcb, hid⟩ := mem_claimsOf.mp hc
    exact ⟨t, ht, by rw [hcb]; rfl, hid⟩
  refine ⟨⟨fun sess' type' => ?_, ?_, ?_⟩, ?_⟩
  · rw [htimers, claimsOf_dropKeys, hevents]
    by_cases hq : sess' = sess ∧ type' = type
    · rw [if_pos hq, hq.1, hq.2]
      have hfilter := hclaims.filter fun c => c.2 ∉ gone.map Prod.snd
      have hin : gone.filter (fun c => c.2 ∉ gone.map Prod.snd) = [] := by
        rw [List.filter_eq_nil_iff]
        intro c hc
        simpa using List.mem_map_of_mem (f := Prod.snd) hc
      have hout : (storedIn left).filter (fun c => c.2 ∉ gone.map Prod.snd) = storedIn left := by
        rw [List.filter_eq_self]
        intro c hc
        refine decide_eq_true fun hk => ?_
        exact (List.nodup_append.mp hnodup).2.2 _ hk _ (List.mem_map_of_mem hc) rfl
      rwa [List.filter_append, hin, hout, List.nil_append] at hfilter
    · rw [if_neg hq]
      have hother : (claimsOf sess' type' s.timers.timers).filter
          (fun c => c.2 ∉ gone.map Prod.snd) = claimsOf sess' type' s.timers.timers := by
        rw [List.filter_eq_self]
        rintro ⟨id, timerId⟩ hc
        refine decide_eq_true fun hk => ?_
        obtain ⟨id', hc'⟩ := hgone timerId hk
        obtain ⟨hsess, htype⟩ := claim_unique s hc hc'
        exact hq ⟨hsess, htype⟩
      rw [hother]
      exact hs.owned sess' type'
  · have hlen := length_filter_dropKeys s.timers.nodup (fun t => t.callback.isAnr)
      (List.nodup_append.mp hnodup).1 howner
    have hcounted := hs.counted
    rw [List.length_map] at hlen
    rw [htimers, hcount, hcounted, anrTimers, anrTimers, ← hlen]
    omega
  · intro t ht
    rw [htimers] at ht
    exact hs.oneShot t ((dropKeys_sublist _ _ _).subset ht)
  · rw [htimers, otherTimers, otherTimers]
    apply filter_dropKeys_of_disjoint
    intro t ht hother hk
    obtain ⟨t', ht', hanr, hid⟩ := howner t.id hk
    rw [List.inj_on_of_nodup_map s.timers.nodup ht' ht hid] at hanr
    rw [hanr] at hother
    cases hother

/-- The loop over ids removes the timers with these ids and counts them. -/
theorem removeIds_eq (ids : List Int) : ∀ s : ANRManager,
    (s.removeIds ids).timers.timers
        = dropKeys TimerItem.id (ids.filter fun id => id ≠ -1) s.timers.timers ∧
      (s.removeIds ids).anrTimerCount
        = s.anrTimerCount - (ids.filter fun id => id ≠ -1).length ∧
      (s.removeIds ids).sessions = s.sessions ∧
      (s.removeIds ids).anrNoticedPid = s.anrNoticedPid := by
  induction ids with
  | nil =>
    intro s
    exact ⟨(dropKeys_nil _ _).symm, by simp [ANRManager.removeIds], rfl, rfl⟩
  | cons item ids ih =>
    intro s
    rw [ANRManager.removeIds]
    by_cases hitem : item = -1
    · rw [if_neg (not_not_intro hitem), List.filter_cons_of_neg (by simp [hitem])]
      exact ih s
    · rw [if_pos hitem, List.filter_cons_of_pos (by simp [hitem])]
      obtain ⟨htimers, hcount, hsessions, hpid⟩ := ih
        { s with
          timers := (s.timers.removeTimer item).2
          anrTimerCount := s.anrTimerCount - 1 }
      refine ⟨?_, ?_, hsessions, hpid⟩
      · rw [htimers, dropKeys_cons, TimerManager.removeTimer_timers]
      · rw [hcount, List.length_cons]
        show s.anrTimerCount - 1 - _ = _
        omega

/-- One queue of one session changes. -/
theorem setSession_queue (s : ANRManager) {sess : Nat} {type : ANREventType}
    {events : SessionEvents} {queue : List EventTime}
    (h : events.events = Function.update (s.sessions sess).events type queue) (sess' : Nat)
    (type' : ANREventType) :
    ((s.setSession sess events).sessions sess').events type'
      = if sess' = sess ∧ type' = type then queue else (s.sessions sess').events type' := by
  show (Function.update s.sessions sess events sess').events type' = _
  by_cases hsess : sess' = sess
  · rw [hsess, Function.update_self, h]
    by_cases htype : type' = type
    · rw [if_pos ⟨rfl, htype⟩, htype, Function.update_self]
    · rw [if_neg (fun h => htype h.2), Function.update_of_ne htype]
  · rw [if_neg (fun h => hsess h.1), Function.update_of_ne hsess]

/-- A session's queue changes, and the timers it hands out are removed. -/
theorem Ledger.removeIds {s : ANRManager} (hs : Ledger s) {sess : Nat} {type : ANREventType}
    {gone left : List EventTime} {events : SessionEvents}
    (hsplit : storedIn ((s.sessions sess).events type) = storedIn gone ++ storedIn left)
    (hevents : events.events = Function.update (s.sessions sess).events type left) :
    Ledger ((s.setSession sess events).removeIds (gone.map EventTime.timerId)) ∧
      otherTimers ((s.setSession sess events).removeIds
        (gone.map EventTime.timerId)).timers.timers = otherTimers s.timers.timers := by
  obtain ⟨htimers, hcount, hsessions, _⟩ :=
    removeIds_eq (gone.map EventTime.timerId) (s.setSession sess events)
  rw [timerIds_filter] at htimers hcount
  rw [List.length_map] at hcount
  refine hs.release hsplit htimers hcount fun sess' type' => ?_
  rw [hsessions, setSession_queue s hevents]

theorem Ledger.markProcessed {s : ANRManager} (hs : Ledger s) (eventType eventId : Int)
    (sess : Nat) (currentTime : Int) :
    Ledger (s.markProcessed eventType eventId sess currentTime) ∧
      otherTimers (s.markProcessed eventType eventId sess currentTime).timers.timers
        = otherTimers s.timers.timers := by
  unfold ANRManager.markProcessed
  rcases (s.sessions sess).delEvents_cases eventType eventId currentTime with
    hnone | ⟨type, gone, left, hqueue, hids, hevents⟩
  · have hsame : s.setSession sess (s.sessions sess) = s := by
      rw [ANRManager.setSession, Function.update_eq_self]
    rw [hnone]
    show Ledger (s.setSession sess (s.sessions sess)) ∧
      otherTimers (s.setSession sess (s.sessions sess)).timers.timers = _
    rw [hsame]
    exact ⟨hs, rfl⟩
  · simp only [hids]
    exact hs.removeIds (by rw [hqueue, storedIn_append]) hevents

/-- All timers of a queue are removed, and the queue forgets them. -/
theorem removeTimersOf_eq (s : ANRManager) (type : ANREventType) (sess : Nat) :
    (s.removeTimersOf type sess).timers.timers = dropKeys TimerItem.id
        ((storedIn ((s.sessions sess).events type)).map Prod.snd) s.timers.timers ∧
      (s.removeTimersOf type sess).anrTimerCount
        = s.anrTimerCount - (storedIn ((s.sessions sess).events type)).length ∧
      ∀ sess' type', ((s.removeTimersOf type sess).sessions sess').events type'
        = if sess' = sess ∧ type' = type then
            ((s.sessions sess).events type).map fun item => { item with timerId := -1 }
          else (s.sessions sess').events type' := by
  obtain ⟨htimers, hcount, hsessions, _⟩ := removeIds_eq
    (((s.sessions sess).events type).map EventTime.timerId)
    (s.setSession sess ((s.sessions sess).getTimerIds type).2)
  rw [timerIds_filter] at htimers hcount
  rw [List.length_map] at hcount
  refine ⟨htimers, hcount, fun sess' type' => ?_⟩
  have hevents := congrArg (fun sessions => (sessions sess').events type') hsessions
  exact hevents.trans (setSession_queue s rfl sess' type')

theorem storedIn_split (events : List EventTime) :
    storedIn events = storedIn events
      ++ storedIn (events.map fun item => { item with timerId := -1 }) := by
  rw [storedIn_forgotten, List.append_nil]

theorem Ledger.removeTimersOf {s : ANRManager} (hs : Ledger s) (type : ANREventType)
    (sess : Nat) :
    Ledger (s.removeTimersOf type sess) ∧
      otherTimers (s.removeTimersOf type sess).timers.timers = otherTimers s.timers.timers := by
  obtain ⟨htimers, hcount, hevents⟩ := removeTimersOf_eq s type sess
  exact hs.release (storedIn_split _) htimers hcount hevents

theorem Ledger.onSessionLost {s : ANRManager} (hs : Ledger s) (info : Nat → SessionInfo)
    (sess : Nat) :
    Ledger (s.onSessionLost info sess) ∧
      otherTimers (s.onSessionLost info sess).timers.timers = otherTimers s.timers.timers := by
  have hpid : ∀ pid, Ledger { s with anrNoticedPid := pid } :=
    fun _ => ⟨hs.owned, hs.counted, hs.oneShot⟩
  have hremove : ∀ s' : ANRManager, Ledger s' → s'.timers = s.timers →
      Ledger (s'.removeTimers sess) ∧
        otherTimers (s'.removeTimers sess).timers.timers = otherTimers s.timers.timers := by
    intro s' hs' heq
    obtain ⟨hfirst, hkept⟩ := hs'.removeTimersOf .dispatch sess
    obtain ⟨hsecond, hkept'⟩ := hfirst.removeTimersOf .monitor sess
    refine ⟨hsecond, ?_⟩
    rw [ANRManager.removeTimers, hkept', hkept, heq]
  unfold ANRManager.onSessionLost
  by_cases hnoticed : s.anrNoticedPid = (info sess).pid
  · rw [if_pos hnoticed]
    exact hremove _ (hpid (-1)) rfl
  · rw [if_neg hnoticed]
    exact hremove s hs rfl

/-- The ledger says what is to be kept. -/
theorem Ledger.timersOwned {s : ANRManager} (hs : Ledger s) : TimersOwned s where
  stored := by
    intro sess type item hitem hne
    have hmem : (item.id, item.timerId) ∈ storedIn ((s.sessions sess).events type) :=
      mem_storedIn.mpr ⟨hne, item, hitem, rfl, rfl⟩
    obtain ⟨t, ht, hcb, hid⟩ := mem_claimsOf.mp ((hs.owned sess type).mem_iff.mpr hmem)
    exact ⟨t, ht, hid, hcb⟩
  counted := hs.counted
  acknowledged := fun eventType eventId sess currentTime =>
    (hs.markProcessed eventType eventId sess currentTime).2
  lost := fun info sess => (hs.onSessionLost info sess).2

/-! ## Other changes of the timer list -/

/-- Timers of others come, go and move. -/
theorem Ledger.of_otherTimers {s : ANRManager} (hs : Ledger s) (timers : TimerManager Owner)
    (h : (anrTimers timers.timers).Perm (anrTimers s.timers.timers)) :
    Ledger { s with timers } := by
  have hclaims : ∀ sess type ts, claimsOf sess type (anrTimers ts) = claimsOf sess type ts := by
    intro sess type ts
    rw [claimsOf, anrTimers, List.filterMap_filter, claimsOf]
    apply List.filterMap_congr
    intro t _
    cases hcb : t.callback with
    | anr sess' type' id => rw [if_pos (by rfl)]
    | other component =>
      rw [if_neg (by simp [Owner.isAnr])]
      unfold claim
      rw [hcb]
  refine ⟨fun sess type => ?_, ?_, fun t ht hanr => ?_⟩
  · rw [← hclaims]
    refine (h.filterMap _).trans ?_
    show (claimsOf sess type (anrTimers s.timers.timers)).Perm _
    rw [hclaims]
    exact hs.owned sess type
  · rw [h.length_eq]
    exact hs.counted
  · have hmem : t ∈ anrTimers timers.timers := List.mem_filter.mpr ⟨ht, hanr⟩
    exact hs.oneShot t (List.mem_filter.mp (h.mem_iff.mp hmem)).1 hanr

theorem anrTimers_cons_other {t : TimerItem Owner} (h : t.callback.isAnr = false)
    (timers : List (TimerItem Owner)) : anrTimers (t :: timers) = anrTimers timers := by
  rw [anrTimers, List.filter_cons_of_neg (by rw [h]; exact Bool.false_ne_true)]
  rfl

theorem anrTimers_cons_anr {t : TimerItem Owner} (h : t.callback.isAnr = true)
    (timers : List (TimerItem Owner)) : anrTimers (t :: timers) = t :: anrTimers timers := by
  rw [anrTimers, List.filter_cons_of_pos (by exact h)]
  rfl

theorem anrTimers_perm {first second : List (TimerItem Owner)} (h : first.Perm second) :
    (anrTimers first).Perm (anrTimers second) := h.filter _

/-- Removing an id that no timer of this component has leaves these alone. -/
theorem anrTimers_filter_id {timers : List (TimerItem Owner)} {timerId : Int}
    (h : ∀ t ∈ timers, t.id = timerId → t.callback.isAnr = false) :
    anrTimers (timers.filter fun t => t.id ≠ timerId) = anrTimers timers := by
  rw [anrTimers, anrTimers, List.filter_filter]
  apply List.filter_congr
  intro t ht
  by_cases hid : t.id = timerId
  · simp [hid, h t ht hid]
  · simp [hid]

/-! ## One event -/

theorem Ledger.addTimer {s : ANRManager} (hs : Ledger s) (info : Nat → SessionInfo)
    (type : ANREventType) (id currentTime : Int) (sess : Nat) (nowTime : Int) :
    Ledger (s.addTimer info type id currentTime sess nowTime) := by
  unfold ANRManager.addTimer
  split
  · exact hs
  · split
    · exact hs
    · rcases s.timers.addTimer_cases nowTime inputUiTimeoutTime 1 (.anr sess type id) with
        ⟨hfail, hsame⟩ | ⟨t, hcb, hrepeat, hcalled, hid, _, hret, hperm⟩
      · simp only [hfail, hsame]
        rw [if_pos (by decide)]
        exact hs
      · simp only [hret]
        rw [if_neg (by omega)]
        have hsave : ((s.sessions sess).saveANREvent type id currentTime t.id).events
            = Function.update (s.sessions sess).events type
              ((s.sessions sess).events type ++ [⟨id, currentTime, t.id⟩]) := rfl
        have hqueue := setSession_queue s hsave
        refine ⟨fun sess' type' => ?_, ?_, fun t' ht' hanr => ?_⟩
        · refine (hperm.filterMap (claim sess' type')).trans ?_
          refine List.Perm.trans ?_ (List.Perm.of_eq (congrArg storedIn (hqueue sess' type').symm))
          by_cases hq : sess' = sess ∧ type' = type
          · have hclaim : claim sess' type' t = some (id, t.id) := by
              rw [hq.1, hq.2]
              exact claim_eq_some_iff.mpr ⟨hcb, rfl⟩
            have hstored : storedIn [⟨id, currentTime, t.id⟩] = [(id, t.id)] := by
              rw [storedIn, List.filterMap_cons_some (by rw [EventTime.stored, if_neg (by
                show t.id ≠ -1
                omega)])]
              rfl
            rw [if_pos hq, List.filterMap_cons_some hclaim, storedIn_append, hstored, hq.1, hq.2]
            exact ((hs.owned sess type).cons _).trans (List.perm_append_singleton _ _).symm
          · have hclaim : claim sess' type' t = none := by
              unfold claim
              rw [hcb]
              exact if_neg fun h => hq ⟨h.1.symm, h.2.symm⟩
            rw [if_neg hq, List.filterMap_cons_none hclaim]
            exact hs.owned sess' type'
        · have hlen := (anrTimers_perm hperm).length_eq
          rw [anrTimers_cons_anr (by rw [hcb]; rfl), List.length_cons] at hlen
          have hcounted := hs.counted
          show s.anrTimerCount + 1 = ((anrTimers (s.timers.addTimer nowTime inputUiTimeoutTime 1
            (some (.anr sess type id))).2.timers).length : Int)
          rw [hlen]
          push_cast
          omega
        · rcases List.mem_cons.mp (hperm.mem_iff.mp ht') with rfl | hmem
          · exact ⟨hrepeat, by omega⟩
          · exact hs.oneShot t' hmem hanr

/-- Marking a session as not responding leaves its queues alone. -/
theorem setAnrStatus_queue (s : ANRManager) (sess : Nat) (type : ANREventType) (status : Bool)
    (sess' : Nat) (type' : ANREventType) :
    ((s.setSession sess ((s.sessions sess).setAnrStatus type status)).sessions sess').events type'
      = (s.sessions sess').events type' := by
  have hsame : ((s.sessions sess).setAnrStatus type status).events = Function.update
      (s.sessions sess).events type ((s.sessions sess).events type) :=
    (Function.update_eq_self _ _).symm
  rw [setSession_queue s hsame]
  by_cases hq : sess' = sess ∧ type' = type
  · rw [if_pos hq, hq.1, hq.2]
  · rw [if_neg hq]

/-- Without an observer, or when the notice cannot be sent, the callback
returns early. -/
theorem onTimeout_unanswered (s : ANRManager) (type : ANREventType) (sess : Nat) {sent : Bool}
    (h : ¬ (0 ≤ s.anrNoticedPid ∧ sent = true)) :
    (s.onTimeout type sess sent).timers = s.timers ∧
      ∀ sess' type', ((s.onTimeout type sess sent).sessions sess').events type'
        = (s.sessions sess').events type' := by
  have hearly : s.onTimeout type sess sent
      = s.setSession sess ((s.sessions sess).setAnrStatus type true) := by
    show (if s.anrNoticedPid < 0 then _ else if !sent then _ else _) = _
    by_cases hneg : s.anrNoticedPid < 0
    · rw [if_pos hneg]
    · have hsent : sent = false := by
        cases sent with
        | false => rfl
        | true => exact absurd ⟨by omega, rfl⟩ h
      rw [if_neg hneg, hsent]
      rfl
  rw [hearly]
  exact ⟨rfl, setAnrStatus_queue s sess type true⟩

/-- A timeout that is answered: the timer is the first of the list, and goes
with all others of its queue. -/
theorem Ledger.onTimeout {s : ANRManager} (hs : Ledger s) {t : TimerItem Owner}
    {rest : List (TimerItem Owner)} {sess : Nat} {type : ANREventType} {id : Int}
    (hcb : t.callback = .anr sess type id) (hhead : s.timers.timers = t :: rest)
    {timers : TimerManager Owner} (hrest : timers.timers = rest)
    (hnoticed : 0 ≤ s.anrNoticedPid) :
    Ledger ({ s with timers }.onTimeout type sess true) := by
  set s' : ANRManager := { s with timers }.setSession sess
    ((s.sessions sess).setAnrStatus type true) with hs'
  have hqueue : ∀ sess' type',
      (s'.sessions sess').events type' = (s.sessions sess').events type' :=
    setAnrStatus_queue { s with timers } sess type true
  have hres : { s with timers }.onTimeout type sess true = s'.removeTimersOf type sess := by
    show (if s.anrNoticedPid < 0 then s' else if !true then s' else s'.removeTimersOf type sess) = _
    rw [if_neg (by omega)]
    rfl
  obtain ⟨htimers, hcount, hevents⟩ := removeTimersOf_eq s' type sess
  rw [hqueue] at htimers hcount
  rw [hres]
  refine (hs.release (storedIn_split _) ?_ hcount fun sess' type' => ?_).1
  · -- The timer that has fired is among those the queue stores.
    have hstored : t.id ∈ (storedIn ((s.sessions sess).events type)).map Prod.snd := by
      have hclaim : (id, t.id) ∈ claimsOf sess type s.timers.timers :=
        mem_claimsOf.mpr ⟨t, by rw [hhead]; exact List.mem_cons_self, hcb, rfl⟩
      exact List.mem_map_of_mem ((hs.owned sess type).mem_iff.mp hclaim)
    rw [htimers, hhead]
    show dropKeys _ _ timers.timers = _
    rw [hrest, dropKeys, dropKeys, List.filter_cons_of_neg (by simpa using hstored)]
  · rw [hevents, hqueue, hqueue]

/-- The event is one under which the ledger is kept: a timer of this
component that expires is answered, and other components remove and lose
timers of their own only. -/
def KeepsLedger (s : ANRManager) : ANREvent → Prop
  | .processNext nowTime sent =>
      ∀ t ∈ s.timers.timers.head?, t.nextCallTime ≤ nowTime → t.callback.isAnr = true →
        0 ≤ s.anrNoticedPid ∧ sent = true
  | .otherRemove timerId =>
      ∀ t ∈ s.timers.timers, t.id = timerId → t.callback.isAnr = false
  | .otherReset nowTime timerId =>
      ∀ t ∈ s.timers.timers, t.id = timerId → t.callback.isAnr = true →
        addInt64 nowTime t.intervalMs ≠ none
  | _ => True

theorem ledger_step (info : Nat → SessionInfo) (s : ANRManager) (e : ANREvent) (hs : Ledger s)
    (he : KeepsLedger s e) : Ledger (anrStep info s e) := by
  cases e with
  | addTimer type id currentTime sess nowTime =>
    exact hs.addTimer info type id currentTime sess nowTime
  | markProcessed eventType eventId sess currentTime =>
    exact (hs.markProcessed eventType eventId sess currentTime).1
  | sessionLost sess => exact (hs.onSessionLost info sess).1
  | setANRNoticedPid pid => exact ⟨hs.owned, hs.counted, hs.oneShot⟩
  | processNext nowTime sent =>
    show Ledger (s.processNext nowTime sent)
    unfold ANRManager.processNext
    rcases s.timers.processNext_cases nowTime with ⟨_, hidle⟩ | ⟨t, rest, hhead, hdue, hcase⟩
    · rw [hidle]
      exact hs
    · have hmem : t ∈ s.timers.timers := by rw [hhead]; exact List.mem_cons_self
      cases hcb : t.callback with
      | anr sess type id =>
        have hanr : t.callback.isAnr = true := by rw [hcb]; rfl
        obtain ⟨hnoticed, hsent⟩ := he t (by rw [hhead]; rfl) hdue hanr
        have hshot := hs.oneShot t hmem hanr
        rcases hcase with ⟨_, _, hfired, hrest⟩ | ⟨hmore, _⟩ | ⟨hmore, _⟩
        · simp only [hfired, hcb]
          rw [hsent]
          exact hs.onTimeout hcb hhead hrest hnoticed
        · omega
        · omega
      | other component =>
        have hother : t.callback.isAnr = false := by rw [hcb]; rfl
        have hsame : anrTimers rest = anrTimers s.timers.timers := by
          rw [hhead, anrTimers_cons_other hother]
        have hafter : (anrTimers (s.timers.processNext nowTime).2.timers).Perm
            (anrTimers s.timers.timers) := by
          rw [← hsame]
          rcases hcase with ⟨_, _, _, hrest⟩ | ⟨_, _, hrest⟩ | ⟨_, _, _, hperm⟩
          · rw [hrest]
          · rw [hrest]
          · have h := anrTimers_perm hperm
            rwa [anrTimers_cons_other (by exact hother)] at h
        have hledger := hs.of_otherTimers _ hafter
        rcases hcase with ⟨_, _, hfired, _⟩ | ⟨_, hdropped, _⟩ | ⟨_, hfired, _⟩
        · simp only [hfired, hcb]
          exact hledger
        · simp only [hdropped]
          exact hledger
        · simp only [hfired, hcb]
          exact hledger
  | otherAdd component nowTime intervalMs repeatCount =>
    apply hs.of_otherTimers
    rcases s.timers.addTimer_cases nowTime intervalMs repeatCount (.other component) with
      ⟨_, hsame⟩ | ⟨t, hcb, _, _, _, _, _, hperm⟩
    · rw [hsame]
    · have h := anrTimers_perm hperm
      rwa [anrTimers_cons_other (by rw [hcb]; rfl)] at h
  | otherRemove timerId =>
    apply hs.of_otherTimers
    rw [TimerManager.removeTimer_timers, anrTimers_filter_id he]
  | otherReset nowTime timerId =>
    show Ledger { s with timers := (s.timers.resetTimer nowTime timerId).2 }
    rcases s.timers.resetTimer_cases nowTime timerId with
      ⟨_, hsame⟩ | ⟨t, ht, hid, ⟨hover, htimers⟩ | ⟨_, nextCallTime, hperm⟩⟩
    · rw [hsame]
      exact hs
    · apply hs.of_otherTimers
      have hnone : ∀ t' ∈ s.timers.timers, t'.id = timerId → t'.callback.isAnr = false := by
        intro t' ht' hid'
        rw [List.inj_on_of_nodup_map s.timers.nodup ht' ht (hid'.trans hid.symm)]
        by_contra hanr
        exact he t ht hid (by simpa using hanr) hover
      rw [htimers, anrTimers_filter_id hnone]
    · -- The timer moved has its id and its callback still.
      set t' : TimerItem Owner := { t with nextCallTime, callbackCount := 0 } with ht'
      have hfrom := perm_cons_filter_key s.timers.nodup ht
      rw [hid] at hfrom
      have hclaim : ∀ sess type, claimsOf sess type (t' :: s.timers.timers.filter
          fun t => t.id ≠ timerId) = claimsOf sess type (t :: s.timers.timers.filter
          fun t => t.id ≠ timerId) := fun _ _ => rfl
      refine ⟨fun sess type => ?_, ?_, fun other hother hanr => ?_⟩
      · refine (hperm.filterMap (claim sess type)).trans ?_
        show (claimsOf sess type (t' :: _)).Perm _
        rw [hclaim]
        exact (hfrom.filterMap (claim sess type)).symm.trans (hs.owned sess type)
      · have hlen := (anrTimers_perm hperm).length_eq
        have hlen' := (anrTimers_perm hfrom).length_eq
        have hcounted := hs.counted
        show s.anrTimerCount = ((anrTimers (s.timers.resetTimer nowTime timerId).2.timers).length : Int)
        rw [hcounted, hlen, hlen']
        cases hanr : t.callback.isAnr with
        | true => rw [anrTimers_cons_anr hanr, anrTimers_cons_anr (by exact hanr)]; rfl
        | false => rw [anrTimers_cons_other hanr, anrTimers_cons_other (by exact hanr)]
      · rcases List.mem_cons.mp (hperm.mem_iff.mp hother) with rfl | hmem
        · exact ⟨(hs.oneShot t ht hanr).1, Int.le_refl 0⟩
        · exact hs.oneShot other (List.mem_filter.mp hmem).1 hanr

/-- While the queues stay as they are, the timers of this component have to
stay live. -/
theorem Ledger.still_live {s s' : ANRManager} (hs : Ledger s) (hs' : TimersOwned s')
    (hevents : ∀ sess type, (s'.sessions sess).events type = (s.sessions sess).events type)
    {t : TimerItem Owner} (ht : t ∈ s.timers.timers) (hanr : t.callback.isAnr = true) :
    t.id ∈ s'.timers.timers.map TimerItem.id := by
  cases hcb : t.callback with
  | anr sess type id =>
    have hclaim : (id, t.id) ∈ claimsOf sess type s.timers.timers :=
      mem_claimsOf.mpr ⟨t, ht, hcb, rfl⟩
    have hstored := (hs.owned sess type).mem_iff.mp hclaim
    rw [← hevents] at hstored
    obtain ⟨hne, item, hitem, _, htimer⟩ := mem_storedIn.mp hstored
    obtain ⟨t', ht', hid, _⟩ := hs'.stored sess type item hitem (by rw [htimer]; exact hne)
    exact List.mem_map.mpr ⟨t', ht', hid.trans htimer⟩
  | other component =>
    rw [hcb] at hanr
    cases hanr

/-- An event that does not meet the condition leaves a queue with the id of
a timer that is gone. -/
theorem keepsLedger_of_timersOwned (info : Nat → SessionInfo) (s : ANRManager) (e : ANREvent)
    (hs : Ledger s) (h : TimersOwned (anrStep info s e)) : KeepsLedger s e := by
  cases e with
  | addTimer type id currentTime sess nowTime => trivial
  | markProcessed eventType eventId sess currentTime => trivial
  | sessionLost sess => trivial
  | setANRNoticedPid pid => trivial
  | otherAdd component nowTime intervalMs repeatCount => trivial
  | processNext nowTime sent =>
    intro t hhead hdue hanr
    have ht : t ∈ s.timers.timers := List.mem_of_mem_head? hhead
    by_contra hunanswered
    have hshot := hs.oneShot t ht hanr
    rcases s.timers.processNext_cases nowTime with ⟨hlater, _⟩ | ⟨t', rest, heq, _, hcase⟩
    · have hafter := hlater t hhead
      omega
    · rw [heq] at hhead
      cases hhead
      have hfree := s.timers.nodup
      rw [heq, List.map_cons, List.nodup_cons] at hfree
      rcases hcase with ⟨_, _, hfired, hrest⟩ | ⟨hmore, _⟩ | ⟨hmore, _⟩
      · cases hcb : t.callback with
        | anr sess type id =>
          have hstep : anrStep info s (.processNext nowTime sent)
              = ({ s with timers := (s.timers.processNext nowTime).2 } : ANRManager).onTimeout
                type sess sent := by
            show s.processNext nowTime sent = _
            simp only [ANRManager.processNext, hfired, hcb]
          obtain ⟨htimers, hevents⟩ := onTimeout_unanswered
            { s with timers := (s.timers.processNext nowTime).2 } type sess hunanswered
          rw [← hstep] at htimers hevents
          have hlive := hs.still_live h hevents ht hanr
          rw [htimers, hrest] at hlive
          exact hfree.1 hlive
        | other component =>
          rw [hcb] at hanr
          cases hanr
      · omega
      · omega
  | otherRemove timerId =>
    intro t ht hid
    by_contra hanr
    have hlive := hs.still_live h (fun _ _ => rfl) ht (by simpa using hanr)
    simp only [anrStep, TimerManager.removeTimer_timers] at hlive
    obtain ⟨t', ht', hid'⟩ := List.mem_map.mp hlive
    have hne := (List.mem_filter.mp ht').2
    rw [hid', hid] at hne
    simp at hne
  | otherReset nowTime timerId =>
    intro t ht hid hanr hover
    have hlive := hs.still_live h (fun _ _ => rfl) ht hanr
    rcases s.timers.resetTimer_cases nowTime timerId with
      ⟨hnone, _⟩ | ⟨t', ht', hid', ⟨_, htimers⟩ | ⟨hsum, _⟩⟩
    · exact hnone t ht hid
    · simp only [anrStep, htimers] at hlive
      obtain ⟨other, hother, heq⟩ := List.mem_map.mp hlive
      have hne := (List.mem_filter.mp hother).2
      rw [heq, hid] at hne
      simp at hne
    · rw [List.inj_on_of_nodup_map s.timers.nodup ht' ht (hid'.trans hid.symm)] at hsum
      exact hsum hover

theorem create_ledger : Ledger .create where
  owned := fun _ _ => List.Perm.refl _
  counted := rfl
  oneShot := fun _ h => nomatch h

/-- In a run of the server, the ids stored in the queues name the timers
made for their events in every state reached precisely if every event
meets the condition. -/
theorem timerOwnership_iff (info : Nat → SessionInfo) (events : List ANREvent) :
    Always (anrStep info) TimersOwned .create events ↔
      AllSteps (anrStep info) KeepsLedger .create events :=
  always_iff_allSteps_of_inv (fun _ hs => hs.timersOwned) (ledger_step info)
    (keepsLedger_of_timersOwned info) events ANRManager.create create_ledger

/-- A timer expires while nobody is registered for notices, another
component is given its id, and then the client acknowledges the event. -/
def unobserved : List ANREvent :=
  [.addTimer .dispatch 1 0 0 0, .processNext 5000 true, .otherAdd 9 5000 100 1]

/-- The acknowledgement removes the timer of the other component. -/
theorem counterexample_timerOwnership :
    ¬ Always (anrStep fun _ => ⟨7, "app", 0⟩) TimersOwned .create unobserved := by
  intro h
  have hack := congrArg List.length ((Always.last h).acknowledged 0 1 0 6000)
  revert hack
  decide

end FtMmi.EventHandler
