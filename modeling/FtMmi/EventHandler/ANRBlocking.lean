/-
FtMmi.EventHandler.ANRBlocking — whether an application that does not
respond is cut off for good.

A live timer belongs to an entry of the queue it watches, so a session is
marked only while its queue has an entry (`Watched`). The mark goes with
the last entry. `DelEvents` deletes up to the first entry with a later
id, which takes the ids of a queue to grow; an event that was injected
keeps the id its sender gave it, and need not be later than the others.
-/
import FtMmi.EventHandler.TimerOwnership

namespace FtMmi.EventHandler

open FtMmi.Lib
open FtMmi.Socket
open FtMmi.Timer

/-! ## Runs -/

/-- `ANR_DISPATCH` and `ANR_MONITOR` -/
def code : ANREventType → Int
  | .dispatch => 0
  | .monitor => 1

namespace ANRManager

def queue (s : ANRManager) (sess : Nat) (type : ANREventType) : List EventTime :=
  (s.sessions sess).events type

/-- `CheckAnrStatus` -/
def marked (s : ANRManager) (sess : Nat) (type : ANREventType) : Bool :=
  (s.sessions sess).isAnrProcess type

def triggerANR (info : Nat → SessionInfo) (s : ANRManager) (type : ANREventType) (sess : Nat) :
    Bool :=
  if (info sess).tokenType ≠ tokenHap ∨ (info sess).programName = foundation then false
  else s.marked sess type

end ANRManager

/-- The component, and the newest event dispatched to each session. -/
structure ANRService where
  manager : ANRManager
  newest : Nat → ANREventType → Option Int

inductive ANRInput where
  /-- `HandlePointerEventInner`, `DispatchKeyEventPid` and the monitors: an
  event for a session, and whether `SendMsg` succeeds. -/
  | dispatch (type : ANREventType) (id currentTime : Int) (sess : Nat) (nowTime : Int)
      (sent : Bool)
  | acknowledge (eventType eventId : Int) (sess : Nat) (currentTime : Int)
  | sessionLost (sess : Nat)
  | setANRNoticedPid (pid : Int)
  | processNext (nowTime : Int) (sent : Bool)
  | otherAdd (component : Nat) (nowTime intervalMs repeatCount : Int)
  | otherRemove (timerId : Int)
  | otherReset (nowTime timerId : Int)

namespace ANRService

def create : ANRService := ⟨.create, fun _ _ => none⟩

/-- The event is sent. -/
def dispatches (info : Nat → SessionInfo) (s : ANRService) (type : ANREventType) (sess : Nat)
    (sent : Bool) : Bool :=
  !s.manager.triggerANR info type sess && sent

def step (info : Nat → SessionInfo) (s : ANRService) : ANRInput → ANRService
  | .dispatch type id currentTime sess nowTime sent =>
      if s.dispatches info type sess sent then
        { manager := s.manager.addTimer info type id currentTime sess nowTime
          newest := Function.update s.newest sess
            (Function.update (s.newest sess) type (some id)) }
      else s
  | .acknowledge eventType eventId sess currentTime =>
      { s with manager := anrStep info s.manager (.markProcessed eventType eventId sess currentTime) }
  | .sessionLost sess => { s with manager := anrStep info s.manager (.sessionLost sess) }
  | .setANRNoticedPid pid => { s with manager := anrStep info s.manager (.setANRNoticedPid pid) }
  | .processNext nowTime sent =>
      { s with manager := anrStep info s.manager (.processNext nowTime sent) }
  | .otherAdd component nowTime intervalMs repeatCount =>
      { s with
        manager := anrStep info s.manager (.otherAdd component nowTime intervalMs repeatCount) }
  | .otherRemove timerId => { s with manager := anrStep info s.manager (.otherRemove timerId) }
  | .otherReset nowTime timerId =>
      { s with manager := anrStep info s.manager (.otherReset nowTime timerId) }

end ANRService

/-! ## The property -/

/-- A session is marked only while an event waits for its acknowledgement. -/
def MarkedWaits (s : ANRService) : Prop :=
  ∀ sess type, s.manager.marked sess type = true → s.manager.queue sess type ≠ []

/-- The acknowledgement of the newest event clears the mark, and nothing is
left for which the session would be marked. -/
def NewestClears (info : Nat → SessionInfo) (s : ANRService) : Prop :=
  ∀ sess type id, s.newest sess type = some id → ∀ currentTime,
    let s' := s.manager.markProcessed (code type) id sess currentTime
    s'.marked sess type = false ∧ s'.queue sess type = [] ∧ s'.triggerANR info type sess = false

/-- An event that is dispatched is not older than those that wait. -/
def DispatchesInOrder (info : Nat → SessionInfo) (s : ANRService) : ANRInput → Prop
  | .dispatch type id _ sess _ sent =>
      s.dispatches info type sess sent = true → ∀ item ∈ s.manager.queue sess type, item.id ≤ id
  | _ => True

instance (info : Nat → SessionInfo) (s : ANRService) (i : ANRInput) :
    Decidable (DispatchesInOrder info s i) := by
  cases i <;> unfold DispatchesInOrder <;> infer_instance

/-! ## The invariant -/

structure Watched (s : ANRManager) : Prop where
  /-- A timer is known to an entry of its queue. -/
  waiting : ∀ t ∈ s.timers.timers, ∀ sess type id, t.callback = .anr sess type id →
    ∃ item ∈ s.queue sess type, item.timerId = t.id
  marked : ∀ sess type, s.marked sess type = true → s.queue sess type ≠ []

/-- The events that wait have been waiting before. -/
structure Keeps (s s' : ANRManager) : Prop where
  watched : Watched s'
  ids : ∀ sess type,
    (s'.queue sess type).map EventTime.id ⊆ (s.queue sess type).map EventTime.id

variable {s s' : ANRManager}

theorem Watched.keeps_refl (hs : Watched s) : Keeps s s := ⟨hs, fun _ _ _ h => h⟩

theorem Keeps.trans {s'' : ANRManager} (h : Keeps s s') (h' : Keeps s' s'') : Keeps s s'' :=
  ⟨h'.watched, fun sess type _ hid => h.ids sess type (h'.ids sess type hid)⟩

/-- Timers are lost, or are those of other components. -/
theorem Watched.of_timers (hs : Watched s) (hsessions : s'.sessions = s.sessions)
    (htimers : ∀ t ∈ s'.timers.timers, t.callback.isAnr = true →
      ∃ t' ∈ s.timers.timers, t'.id = t.id ∧ t'.callback = t.callback) : Keeps s s' := by
  have hqueue : ∀ sess type, s'.queue sess type = s.queue sess type := fun sess type => by
    rw [ANRManager.queue, hsessions]
    rfl
  have hmarked : ∀ sess type, s'.marked sess type = s.marked sess type := fun sess type => by
    rw [ANRManager.marked, hsessions]
    rfl
  refine ⟨⟨fun t ht sess type id hcallback => ?_, fun sess type h => ?_⟩, fun sess type => ?_⟩
  · obtain ⟨t', ht', hid, hsame⟩ := htimers t ht (by rw [hcallback]; rfl)
    obtain ⟨item, hitem, htimer⟩ := hs.waiting t' ht' sess type id (hsame.trans hcallback)
    exact ⟨item, (hqueue sess type).symm ▸ hitem, htimer.trans hid⟩
  · rw [hmarked] at h
    rw [hqueue]
    exact hs.marked sess type h
  · rw [hqueue]
    exact fun _ h => h

/-- A queue lets entries go whose timers are removed. -/
theorem Watched.release (hs : Watched s) {sess : Nat} {type : ANREventType}
    {gone left : List EventTime}
    (htimers : s'.timers.timers = dropKeys TimerItem.id
      ((gone.map EventTime.timerId).filter fun id => id ≠ -1) s.timers.timers)
    (hqueue : ∀ sess' type', s'.queue sess' type'
      = if sess' = sess ∧ type' = type then left else s.queue sess' type')
    (hgone : ∀ item ∈ s.queue sess type, item ∈ gone ∨ item ∈ left)
    (hids : left.map EventTime.id ⊆ (s.queue sess type).map EventTime.id)
    (hmarked : ∀ sess' type', s'.marked sess' type' = true → s'.queue sess' type' ≠ []) :
    Keeps s s' := by
  refine ⟨⟨fun t ht sess' type' id hcallback => ?_, hmarked⟩, fun sess' type' => ?_⟩
  · rw [htimers, dropKeys, List.mem_filter, decide_eq_true_eq] at ht
    obtain ⟨item, hitem, htimer⟩ := hs.waiting t ht.1 sess' type' id hcallback
    rw [hqueue]
    by_cases hq : sess' = sess ∧ type' = type
    · rw [if_pos hq]
      obtain ⟨rfl, rfl⟩ := hq
      rcases hgone item hitem with hgone | hleft
      · -- The timer of an entry that goes is removed.
        have hrange := (s.timers.range t ht.1).1
        refine absurd ?_ ht.2
        rw [List.mem_filter, decide_eq_true_eq, ← htimer]
        exact ⟨List.mem_map_of_mem hgone, by omega⟩
      · exact ⟨item, hleft, htimer⟩
    · rw [if_neg hq]
      exact ⟨item, hitem, htimer⟩
  · rw [hqueue]
    by_cases hq : sess' = sess ∧ type' = type
    · rw [if_pos hq, hq.1, hq.2]
      exact hids
    · rw [if_neg hq]
      exact fun _ h => h

/-- The loop over the timer ids leaves the sessions alone. -/
theorem removeIds_sessions (s : ANRManager) (ids : List Int) :
    (s.removeIds ids).sessions = s.sessions := (removeIds_eq ids s).2.2.1

theorem markProcessed_sessions (s : ANRManager) (eventType eventId : Int) (sess : Nat)
    (currentTime : Int) :
    (s.markProcessed eventType eventId sess currentTime).sessions
      = Function.update s.sessions sess
          ((s.sessions sess).delEvents eventType eventId currentTime).2 := by
  rw [ANRManager.markProcessed, removeIds_sessions]
  rfl

theorem removeTimersOf_sessions (s : ANRManager) (type : ANREventType) (sess : Nat) :
    (s.removeTimersOf type sess).sessions
      = Function.update s.sessions sess ((s.sessions sess).getTimerIds type).2 := by
  rw [ANRManager.removeTimersOf, removeIds_sessions]
  rfl

/-! ## Acknowledgements -/

/-- `DelEvents` marks no session, and unmarks one whose queue it empties. -/
theorem delEvents_marked (e : SessionEvents) (eventType id currentTime : Int)
    (type : ANREventType)
    (h : (e.delEvents eventType id currentTime).2.isAnrProcess type = true) :
    e.isAnrProcess type = true ∧
      ((e.delEvents eventType id currentTime).2.events type = e.events type ∨
        (e.delEvents eventType id currentTime).2.events type ≠ []) := by
  unfold SessionEvents.delEvents at h ⊢
  split
  · rename_i hnone
    simp only [hnone] at h
    exact ⟨h, .inl rfl⟩
  · rename_i type' hsome
    simp only [hsome] at h
    by_cases hgone : ((e.events type').takeWhile fun item => item.id ≤ id).length = 0
    · simp only [if_pos hgone] at h ⊢
      exact ⟨h, .inl trivial⟩
    · simp only [if_neg hgone] at h ⊢
      by_cases htype : type = type'
      · subst htype
        simp only [Function.update_self] at h ⊢
        cases hleft : (e.events type).dropWhile fun item => item.id ≤ id with
        | nil =>
          rw [hleft] at h
          cases h
        | cons first rest =>
          rw [hleft] at h
          refine ⟨?_, .inr (List.cons_ne_nil _ _)⟩
          simp only [SessionEvents.statusAfter] at h
          split at h
          · exact h
          · split at h
            · cases h
            · exact h
      · simp only [Function.update_of_ne htype] at h ⊢
        exact ⟨h, .inl trivial⟩

theorem Watched.markProcessed (hs : Watched s) (eventType eventId : Int) (sess : Nat)
    (currentTime : Int) : Keeps s (s.markProcessed eventType eventId sess currentTime) := by
  have hsessions := markProcessed_sessions s eventType eventId sess currentTime
  have hmarked : ∀ sess' type',
      (s.markProcessed eventType eventId sess currentTime).marked sess' type' = true →
      (s.markProcessed eventType eventId sess currentTime).queue sess' type' ≠ [] := by
    intro sess' type' h
    rw [ANRManager.marked, hsessions] at h
    rw [ANRManager.queue, hsessions]
    by_cases hsess : sess' = sess
    · subst hsess
      rw [Function.update_self] at h ⊢
      obtain ⟨hbefore, heq | hne⟩ := delEvents_marked _ _ _ _ _ h
      · rw [heq]
        exact hs.marked sess' type' hbefore
      · exact hne
    · rw [Function.update_of_ne hsess] at h ⊢
      exact hs.marked sess' type' h
  rcases (s.sessions sess).delEvents_cases eventType eventId currentTime with
    hnone | ⟨type, gone, left, hqueue, hids, hevents⟩
  · rw [ANRManager.markProcessed, hnone]
    have hsame : s.setSession sess (s.sessions sess) = s := by
      rw [ANRManager.setSession, Function.update_eq_self]
    show Keeps s ((s.setSession sess (s.sessions sess)).removeIds [])
    rw [hsame]
    exact hs.keeps_refl
  · refine Watched.release hs (?_ : _ = dropKeys TimerItem.id
        ((gone.map EventTime.timerId).filter fun id => id ≠ -1) s.timers.timers)
      (fun sess' type' => (?_ : _ = if sess' = sess ∧ type' = type then left else _))
      (fun item hitem => ?_) ?_ hmarked
    · have htimers := (removeIds_eq ((s.sessions sess).delEvents eventType eventId currentTime).1
        (s.setSession sess ((s.sessions sess).delEvents eventType eventId currentTime).2)).1
      rw [hids] at htimers
      rw [ANRManager.markProcessed, hids]
      exact htimers
    · rw [ANRManager.queue, hsessions]
      exact setSession_queue s hevents sess' type'
    · rw [ANRManager.queue, hqueue] at hitem
      exact List.mem_append.mp hitem
    · rw [ANRManager.queue, hqueue, List.map_append]
      exact List.subset_append_right _ _

/-- An acknowledgement that is not older than any entry empties the queue. -/
theorem Watched.markProcessed_newest (hs : Watched s) {sess : Nat} {type : ANREventType}
    {id : Int} (hnewest : ∀ item ∈ s.queue sess type, item.id ≤ id) (currentTime : Int) :
    (s.markProcessed (code type) id sess currentTime).queue sess type = [] ∧
      (s.markProcessed (code type) id sess currentTime).marked sess type = false := by
  have hempty : (s.markProcessed (code type) id sess currentTime).queue sess type = [] := by
    rw [ANRManager.queue, markProcessed_sessions, Function.update_self]
    have htype : ANREventType.ofInt (code type) = some type := by cases type <;> rfl
    have htake : ((s.sessions sess).events type).takeWhile (fun item => item.id ≤ id)
        = (s.sessions sess).events type :=
      List.takeWhile_eq_self_iff.mpr fun item hitem => decide_eq_true (hnewest item hitem)
    have hdrop : ((s.sessions sess).events type).dropWhile (fun item => item.id ≤ id) = [] :=
      List.dropWhile_eq_nil_iff.mpr fun item hitem => decide_eq_true (hnewest item hitem)
    simp only [SessionEvents.delEvents, htype, htake, hdrop]
    split
    · rename_i hnil
      exact List.eq_nil_of_length_eq_zero hnil
    · exact Function.update_self ..
  refine ⟨hempty, ?_⟩
  by_contra hmarked
  exact (hs.markProcessed (code type) id sess currentTime).watched.marked sess type
    (Bool.eq_true_of_not_eq_false hmarked) hempty

/-! ## The other operations -/

theorem Watched.removeTimersOf (hs : Watched s) (type : ANREventType) (sess : Nat) :
    Keeps s (s.removeTimersOf type sess) := by
  obtain ⟨_, _, hevents⟩ := removeTimersOf_eq s type sess
  obtain ⟨htimers, _⟩ := removeIds_eq ((s.sessions sess).getTimerIds type).1
    (s.setSession sess ((s.sessions sess).getTimerIds type).2)
  refine hs.release htimers hevents (fun item hitem => .inl hitem) ?_ fun sess' type' h => ?_
  · rw [List.map_map]
    exact fun _ h => h
  · have hbefore : s.marked sess' type' = true := by
      rw [ANRManager.marked, removeTimersOf_sessions] at h
      rw [ANRManager.marked]
      by_cases hsess : sess' = sess
      · subst hsess
        rwa [Function.update_self] at h
      · rwa [Function.update_of_ne hsess] at h
    have hne := hs.marked sess' type' hbefore
    show ((s.removeTimersOf type sess).sessions sess').events type' ≠ []
    rw [hevents]
    by_cases hq : sess' = sess ∧ type' = type
    · rw [if_pos hq]
      rw [hq.1, hq.2] at hne
      exact fun hnil => hne (List.map_eq_nil_iff.mp hnil)
    · rw [if_neg hq]
      exact hne

theorem Watched.onSessionLost (hs : Watched s) (info : Nat → SessionInfo) (sess : Nat) :
    Keeps s (s.onSessionLost info sess) := by
  have hforget : ∀ {u : ANRManager}, Watched u → Keeps u (u.removeTimers sess) := fun hu =>
    let hdispatch := hu.removeTimersOf .dispatch sess
    hdispatch.trans (hdispatch.watched.removeTimersOf .monitor sess)
  unfold ANRManager.onSessionLost
  split
  · have hsame : Keeps s { s with anrNoticedPid := -1 } :=
      hs.of_timers rfl fun t ht _ => ⟨t, ht, rfl, rfl⟩
    exact hsame.trans (hforget hsame.watched)
  · exact hforget hs

/-- The session is marked while the event whose timer expired still waits. -/
theorem Watched.onTimeout (hs : Watched s) (type : ANREventType) (sess : Nat) (sent : Bool)
    (hwaiting : s.queue sess type ≠ []) : Keeps s (s.onTimeout type sess sent) := by
  have hqueue := setAnrStatus_queue s sess type true
  have hset : Keeps s (s.setSession sess ((s.sessions sess).setAnrStatus type true)) := by
    refine ⟨⟨fun t ht sess' type' id hcallback => ?_, fun sess' type' h => ?_⟩,
      fun sess' type' => ?_⟩
    · rw [ANRManager.queue, hqueue]
      exact hs.waiting t ht sess' type' id hcallback
    · rw [ANRManager.queue, hqueue]
      by_cases hq : sess' = sess ∧ type' = type
      · rw [hq.1, hq.2]
        exact hwaiting
      · refine hs.marked sess' type' ?_
        simp only [ANRManager.marked, ANRManager.setSession, SessionEvents.setAnrStatus] at h ⊢
        by_cases hsess : sess' = sess
        · subst hsess
          rw [Function.update_self] at h
          dsimp only at h
          rwa [Function.update_of_ne fun htype => hq ⟨rfl, htype⟩] at h
        · rwa [Function.update_of_ne hsess] at h
    · rw [ANRManager.queue, hqueue]
      exact fun _ h => h
  unfold ANRManager.onTimeout
  dsimp only
  split
  · exact hset
  · split
    · exact hset
    · exact hset.trans (hset.watched.removeTimersOf type sess)

theorem Watched.processNext (hs : Watched s) (nowTime : Int) (sent : Bool) :
    Keeps s (s.processNext nowTime sent) := by
  unfold ANRManager.processNext
  rcases s.timers.processNext_cases nowTime with ⟨_, hidle⟩ | ⟨t, rest, htimers, _, hcases⟩
  · rw [hidle]
    exact hs.keeps_refl
  have hmem : t ∈ s.timers.timers := by
    rw [htimers]
    exact List.mem_cons_self
  -- The timers left are those there were, one of them with another call time.
  have hleft : Keeps s { s with timers := (s.timers.processNext nowTime).2 } := by
    refine hs.of_timers rfl fun t' ht' _ => ?_
    have hrest : ∀ a ∈ rest, a ∈ s.timers.timers := fun a ha => by
      rw [htimers]
      exact List.mem_cons_of_mem t ha
    rcases hcases with ⟨_, _, _, heq⟩ | ⟨_, _, heq⟩ | ⟨_, _, nextCallTime, hperm⟩
    · exact ⟨t', hrest t' (heq ▸ ht'), rfl, rfl⟩
    · exact ⟨t', hrest t' (heq ▸ ht'), rfl, rfl⟩
    · rcases List.mem_cons.mp (hperm.mem_iff.mp ht') with rfl | ht'
      · exact ⟨t, hmem, rfl, rfl⟩
      · exact ⟨t', hrest t' ht', rfl, rfl⟩
  have hfired : (s.timers.processNext nowTime).1 = .fired t.callback ∨
      (s.timers.processNext nowTime).1 = .dropped := by
    rcases hcases with ⟨_, _, h, _⟩ | ⟨_, h, _⟩ | ⟨_, h, _⟩
    · exact .inl h
    · exact .inr h
    · exact .inl h
  rcases hfired with h | h
  · simp only [h]
    cases hcallback : t.callback with
    | other component => exact hleft
    | anr sess type id =>
      obtain ⟨item, hitem, _⟩ := hs.waiting t hmem sess type id hcallback
      exact hleft.trans (hleft.watched.onTimeout type sess sent (List.ne_nil_of_mem hitem))
  · simp only [h]
    exact hleft

theorem Watched.otherStep (hs : Watched s) (info : Nat → SessionInfo) (i : ANRInput)
    (newest : Nat → ANREventType → Option Int)
    (hother : ∀ type id currentTime sess nowTime sent,
      i ≠ .dispatch type id currentTime sess nowTime sent) :
    Keeps s ((ANRService.mk s newest).step info i).manager ∧
      ((ANRService.mk s newest).step info i).newest = newest := by
  cases i with
  | dispatch type id currentTime sess nowTime sent =>
    exact absurd rfl (hother type id currentTime sess nowTime sent)
  | acknowledge eventType eventId sess currentTime =>
    exact ⟨hs.markProcessed eventType eventId sess currentTime, rfl⟩
  | sessionLost sess => exact ⟨hs.onSessionLost info sess, rfl⟩
  | setANRNoticedPid pid => exact ⟨hs.of_timers rfl fun t ht _ => ⟨t, ht, rfl, rfl⟩, rfl⟩
  | processNext nowTime sent => exact ⟨hs.processNext nowTime sent, rfl⟩
  | otherAdd component nowTime intervalMs repeatCount =>
    refine ⟨hs.of_timers rfl fun t ht hanr => ?_, rfl⟩
    rcases s.timers.addTimer_cases nowTime intervalMs repeatCount (Owner.other component) with
      ⟨_, heq⟩ | ⟨t', hcallback, _, _, _, _, _, hperm⟩
    · exact ⟨t, heq ▸ ht, rfl, rfl⟩
    · rcases List.mem_cons.mp (hperm.mem_iff.mp ht) with rfl | ht
      · rw [hcallback] at hanr
        cases hanr
      · exact ⟨t, ht, rfl, rfl⟩
  | otherRemove timerId =>
    refine ⟨hs.of_timers rfl fun t ht _ => ⟨t, ?_, rfl, rfl⟩, rfl⟩
    have ht' : t ∈ (s.timers.removeTimer timerId).2.timers := ht
    rw [TimerManager.removeTimer_timers] at ht'
    exact List.mem_of_mem_filter ht'
  | otherReset nowTime timerId =>
    refine ⟨hs.of_timers rfl fun t ht _ => ?_, rfl⟩
    have ht' : t ∈ (s.timers.resetTimer nowTime timerId).2.timers := ht
    rcases s.timers.resetTimer_cases nowTime timerId with
      ⟨_, heq⟩ | ⟨t', hmem, _, ⟨_, heq⟩ | ⟨_, nextCallTime, hperm⟩⟩
    · rw [heq] at ht'
      exact ⟨t, ht', rfl, rfl⟩
    · rw [heq] at ht'
      exact ⟨t, List.mem_of_mem_filter ht', rfl, rfl⟩
    · rcases List.mem_cons.mp (hperm.mem_iff.mp ht') with rfl | ht'
      · exact ⟨t', hmem, rfl, rfl⟩
      · exact ⟨t, List.mem_of_mem_filter ht', rfl, rfl⟩

/-! ## Dispatching -/

/-- `AddTimer` leaves the queues alone, or adds the event to the one of its
session. -/
theorem addTimer_queue (info : Nat → SessionInfo) (s : ANRManager) (type : ANREventType)
    (id currentTime : Int) (sess : Nat) (nowTime : Int) (sess' : Nat) (type' : ANREventType) :
    (s.addTimer info type id currentTime sess nowTime).queue sess' type' = s.queue sess' type' ∨
      (sess' = sess ∧ type' = type ∧ ∃ item : EventTime, item.id = id ∧
        (s.addTimer info type id currentTime sess nowTime).queue sess' type'
          = s.queue sess' type' ++ [item]) := by
  unfold ANRManager.addTimer
  split
  · exact .inl rfl
  split
  · exact .inl rfl
  dsimp only
  split
  · exact .inl rfl
  · have hevents : ((s.sessions sess).saveANREvent type id currentTime
        (s.timers.addTimer nowTime inputUiTimeoutTime 1 (some (.anr sess type id))).1).events
        = Function.update (s.sessions sess).events type ((s.sessions sess).events type ++
            [⟨id, currentTime, (s.timers.addTimer nowTime inputUiTimeoutTime 1
              (some (.anr sess type id))).1⟩]) := rfl
    have hqueue := setSession_queue s hevents sess' type'
    by_cases hq : sess' = sess ∧ type' = type
    · rw [if_pos hq] at hqueue
      refine .inr ⟨hq.1, hq.2, ⟨id, currentTime, (s.timers.addTimer nowTime inputUiTimeoutTime 1
        (some (.anr sess type id))).1⟩, rfl, hqueue.trans ?_⟩
      rw [ANRManager.queue, hq.1, hq.2]
    · rw [if_neg hq] at hqueue
      exact .inl hqueue

theorem addTimer_marked (info : Nat → SessionInfo) (s : ANRManager) (type : ANREventType)
    (id currentTime : Int) (sess : Nat) (nowTime : Int) (sess' : Nat) (type' : ANREventType) :
    (s.addTimer info type id currentTime sess nowTime).marked sess' type'
      = s.marked sess' type' := by
  unfold ANRManager.addTimer
  split
  · rfl
  split
  · rfl
  dsimp only
  split
  · rfl
  · show (Function.update s.sessions sess _ sess').isAnrProcess type' = _
    by_cases hsess : sess' = sess
    · rw [hsess, Function.update_self]
      rfl
    · rw [Function.update_of_ne hsess]
      rfl

theorem Watched.addTimer (hs : Watched s) (info : Nat → SessionInfo) (type : ANREventType)
    (id currentTime : Int) (sess : Nat) (nowTime : Int) :
    Watched (s.addTimer info type id currentTime sess nowTime) := by
  have hqueue := addTimer_queue info s type id currentTime sess nowTime
  have hkept : ∀ sess' type', ∀ item ∈ s.queue sess' type',
      item ∈ (s.addTimer info type id currentTime sess nowTime).queue sess' type' := by
    intro sess' type' item hitem
    rcases hqueue sess' type' with heq | ⟨_, _, _, _, heq⟩
    · rw [heq]
      exact hitem
    · rw [heq]
      exact List.mem_append_left _ hitem
  constructor
  · have hold : ∀ t ∈ s.timers.timers, ∀ sess' type' id', t.callback = .anr sess' type' id' →
        ∃ item ∈ (s.addTimer info type id currentTime sess nowTime).queue sess' type',
          item.timerId = t.id := by
      intro t ht sess' type' id' hcallback
      obtain ⟨item, hitem, htimer⟩ := hs.waiting t ht sess' type' id' hcallback
      exact ⟨item, hkept sess' type' item hitem, htimer⟩
    intro t ht sess' type' id' hcallback
    by_cases hmem : t ∈ s.timers.timers
    · exact hold t hmem sess' type' id' hcallback
    -- The new timer is known to the entry that was saved.
    unfold ANRManager.addTimer at ht ⊢
    split at ht
    · exact absurd ht hmem
    rename_i happ
    split at ht
    · exact absurd ht hmem
    rename_i hcount
    rw [if_neg happ, if_neg hcount]
    dsimp only at ht ⊢
    obtain ⟨hfail, hsame⟩ | ⟨t', hnew, _, _, hpos, _, hid, hperm⟩ :=
      s.timers.addTimer_cases nowTime inputUiTimeoutTime 1 (Owner.anr sess type id)
    · rw [if_pos (by rw [hfail]; decide)] at ht
      rw [show ({ s with timers := (s.timers.addTimer nowTime inputUiTimeoutTime 1
        (some (Owner.anr sess type id))).2 } : ANRManager).timers.timers = s.timers.timers by
          simp only [hsame]] at ht
      exact absurd ht hmem
    · rw [if_neg (by omega)] at ht ⊢
      obtain rfl := (List.mem_cons.mp (hperm.mem_iff.mp ht)).resolve_right hmem
      rw [hnew] at hcallback
      cases hcallback
      refine ⟨⟨id, currentTime, t.id⟩, ?_, rfl⟩
      simp only [ANRManager.queue, ANRManager.setSession, SessionEvents.saveANREvent,
        Function.update_self, hid]
      exact List.mem_append_right _ (List.mem_singleton.mpr rfl)
  · intro sess' type' h
    rw [addTimer_marked] at h
    obtain ⟨item, hitem⟩ := List.exists_mem_of_ne_nil _ (hs.marked sess' type' h)
    exact List.ne_nil_of_mem (hkept sess' type' item hitem)

theorem step_watched (info : Nat → SessionInfo) (v : ANRService) (i : ANRInput)
    (hv : Watched v.manager) : Watched (v.step info i).manager := by
  by_cases hdispatch : ∃ type id currentTime sess nowTime sent,
      i = .dispatch type id currentTime sess nowTime sent
  · obtain ⟨type, id, currentTime, sess, nowTime, sent, rfl⟩ := hdispatch
    simp only [ANRService.step]
    split
    · exact hv.addTimer info type id currentTime sess nowTime
    · exact hv
  · simp only [not_exists] at hdispatch
    exact (hv.otherStep info i v.newest hdispatch).1.watched

/-- What waits was dispatched, and is not newer than the newest. -/
def BoundedByNewest (v : ANRService) : Prop :=
  ∀ sess type, ∀ item ∈ v.manager.queue sess type,
    ∃ newest, v.newest sess type = some newest ∧ item.id ≤ newest

theorem step_bounded (info : Nat → SessionInfo) (v : ANRService) (i : ANRInput)
    (hv : Watched v.manager) (hbounded : BoundedByNewest v) (horder : DispatchesInOrder info v i) :
    BoundedByNewest (v.step info i) := by
  by_cases hdispatch : ∃ type id currentTime sess nowTime sent,
      i = .dispatch type id currentTime sess nowTime sent
  · obtain ⟨type, id, currentTime, sess, nowTime, sent, rfl⟩ := hdispatch
    simp only [ANRService.step]
    split
    · rename_i hsent
      intro sess' type' item hitem
      by_cases hq : sess' = sess ∧ type' = type
      · obtain ⟨rfl, rfl⟩ := hq
        refine ⟨id, by simp only [Function.update_self], ?_⟩
        rcases addTimer_queue info v.manager type' id currentTime sess' nowTime sess' type' with
          heq | ⟨_, _, new, hnew, heq⟩
        · rw [heq] at hitem
          exact horder hsent item hitem
        · rw [heq] at hitem
          rcases List.mem_append.mp hitem with hitem | hitem
          · exact horder hsent item hitem
          · rw [List.mem_singleton.mp hitem, hnew]
      · have hsame : Function.update v.newest sess
            (Function.update (v.newest sess) type (some id)) sess' type'
            = v.newest sess' type' := by
          by_cases hsess : sess' = sess
          · subst hsess
            rw [Function.update_self, Function.update_of_ne fun htype => hq ⟨rfl, htype⟩]
          · rw [Function.update_of_ne hsess]
        rcases addTimer_queue info v.manager type id currentTime sess nowTime sess' type' with
          heq | ⟨hsess, htype, _⟩
        · rw [heq] at hitem
          dsimp only
          rw [hsame]
          exact hbounded sess' type' item hitem
        · exact absurd ⟨hsess, htype⟩ hq
    · exact hbounded
  · simp only [not_exists] at hdispatch
    obtain ⟨hkeeps, hnewest⟩ := hv.otherStep info i v.newest hdispatch
    intro sess type item hitem
    obtain ⟨old, hold, hid⟩ := List.mem_map.mp (hkeeps.ids sess type (List.mem_map_of_mem hitem))
    obtain ⟨newest, heq, hle⟩ := hbounded sess type old hold
    exact ⟨newest, (congrFun (congrFun hnewest sess) type).trans heq, hid ▸ hle⟩

/-! ## Every run -/

theorem create_watched : Watched ANRService.create.manager where
  waiting _ h := nomatch h
  marked _ _ h := nomatch h

theorem Watched.newestClears {v : ANRService} (hv : Watched v.manager)
    (hbounded : BoundedByNewest v) (info : Nat → SessionInfo) : NewestClears info v := by
  intro sess type id hnewest currentTime
  have hall : ∀ item ∈ v.manager.queue sess type, item.id ≤ id := by
    intro item hitem
    obtain ⟨newest, heq, hle⟩ := hbounded sess type item hitem
    rw [hnewest] at heq
    cases heq
    exact hle
  obtain ⟨hqueue, hmarked⟩ := hv.markProcessed_newest hall currentTime
  refine ⟨hmarked, hqueue, ?_⟩
  rw [ANRManager.triggerANR, hmarked, ite_self]

/-- In every run a session is marked only while an event waits; and in every
run whose events are dispatched in the order of their ids, in every state
reached, the acknowledgement of the newest event clears the mark. -/
theorem anrBlocking (info : Nat → SessionInfo) (is : List ANRInput) :
    Always (ANRService.step info) MarkedWaits .create is ∧
      (AllSteps (ANRService.step info) (DispatchesInOrder info) .create is →
        Always (ANRService.step info) (NewestClears info) .create is) := by
  constructor
  · exact (always_of_step (fun s i hs => step_watched info s i hs) is _ create_watched).mono
      fun _ hs => hs.marked
  · intro horder
    have hinv := always_of_allSteps (P := fun v => Watched v.manager ∧ BoundedByNewest v)
      (fun v i hv hc => ⟨step_watched info v i hv.1, step_bounded info v i hv.1 hv.2 hc⟩) is _
      ⟨create_watched, fun _ _ _ h => nomatch h⟩ horder
    exact hinv.mono fun v hv => hv.1.newestClears hv.2 info

/-- Two events of an application, neither of them acknowledged in time. -/
def unanswered (first second : Int) : List ANRInput :=
  [.dispatch .dispatch first 0 1 0 true, .dispatch .dispatch second 10 1 10 true,
    .processNext 5000 true]

theorem anrBlocking_unanswered :
    Always (ANRService.step fun _ => ⟨7, "app", 0⟩) (NewestClears fun _ => ⟨7, "app", 0⟩) .create
      (unanswered 500 501) :=
  (anrBlocking (fun _ => ⟨7, "app", 0⟩) (unanswered 500 501)).2 (by decide +kernel)

/-- The second event was injected and has a small id: its acknowledgement
deletes nothing, and the mark stays. -/
theorem counterexample_anrBlocking :
    ¬ Always (ANRService.step fun _ => ⟨7, "app", 0⟩) (NewestClears fun _ => ⟨7, "app", 0⟩) .create
      (unanswered 500 1) := by
  intro h
  have hmarked := (h.last 1 .dispatch 1 (by decide +kernel) 6000).1
  revert hmarked
  decide +kernel

end FtMmi.EventHandler
