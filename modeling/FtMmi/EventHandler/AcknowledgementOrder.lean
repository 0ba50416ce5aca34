/-
FtMmi.EventHandler.AcknowledgementOrder — which events an acknowledgement
removes, over runs of any length.

`UpdateId` takes the ids of all events of the process from one 64-bit
counter and keeps 32 bits of it, with a sign. The number of an event is
what the counter was; `EventRun` remembers the numbers of the events that
wait in each queue, in the order of the queue.

`DelEvents` compares ids. Numbers in the same round of the 32-bit counter
compare as their ids do (`eventId_le_iff`), so `SameRound` is asked of the
events that decide where the scan stops: those that go, and the first one
that stays.
-/
import FtMmi.EventHandler.ANRBlocking

namespace FtMmi.EventHandler

open FtMmi.Lib
open FtMmi.Socket
open FtMmi.Timer

/-! ## Ids -/

/-- `UpdateId`: `id_ = g_nextEventId++` -/
def eventId (number : Int) : Int := Int.bmod number (2 ^ 32)

/-- How often the ids have wrapped around. -/
def round (number : Int) : Int := (number + 2 ^ 31) / 2 ^ 32

theorem eventId_eq (number : Int) : eventId number = number - 2 ^ 32 * round number := by
  unfold eventId round
  rw [Int.bmod_def]
  split <;> omega

theorem eventId_le_iff {m n : Int} (h : round m = round n) : eventId m ≤ eventId n ↔ m ≤ n := by
  rw [eventId_eq, eventId_eq, h]
  omega

/-- Where ids compare as near numbers do, they have not wrapped between them. -/
theorem round_eq_of_eventId_le {m n : Int} (hle : m ≤ n) (hnear : n < m + 2 ^ 32)
    (h : eventId m ≤ eventId n) : round m = round n := by
  rw [eventId_eq, eventId_eq] at h
  unfold round at h ⊢
  omega

/-! ## Runs -/

structure EventRun where
  manager : ANRManager
  /-- `g_nextEventId` -/
  nextEventId : Int
  /-- The numbers of the events in a queue. -/
  numbers : Nat → ANREventType → List Int

/-- An event of the component that dispatches nothing. -/
structure Undispatched where
  event : ANREvent
  none : ∀ type id currentTime sess nowTime, event ≠ .addTimer type id currentTime sess nowTime

inductive EventInput where
  /-- Events of the process take ids. -/
  | updateIds (count : Nat)
  /-- The newest event is dispatched to a session. -/
  | dispatch (type : ANREventType) (currentTime : Int) (sess : Nat) (nowTime : Int)
  /-- The session acknowledges the event with a number. -/
  | acknowledge (type : ANREventType) (number : Int) (sess : Nat) (currentTime : Int)
  | other (e : Undispatched)

namespace EventRun

def create : EventRun := ⟨.create, 1, fun _ _ => []⟩

/-- The number of the newest event. -/
def newest (s : EventRun) : Int := s.nextEventId - 1

/-- What an input is to `ANRManager`. -/
def event (s : EventRun) : EventInput → Option ANREvent
  | .updateIds _ => none
  | .dispatch type currentTime sess nowTime =>
      some (.addTimer type (eventId s.newest) currentTime sess nowTime)
  | .acknowledge type number sess currentTime =>
      some (.markProcessed (code type) (eventId number) sess currentTime)
  | .other e => some e.event

/-- A queue has got the newest event, or has lost events at its front. -/
def renumber (s : EventRun) (manager : ANRManager) (sess : Nat) (type : ANREventType) : List Int :=
  if (s.manager.queue sess type).length < (manager.queue sess type).length then
    s.numbers sess type ++ [s.newest]
  else
    (s.numbers sess type).drop
      ((s.manager.queue sess type).length - (manager.queue sess type).length)

def step (info : Nat → SessionInfo) (s : EventRun) (i : EventInput) : EventRun :=
  let manager := (s.event i).elim s.manager (anrStep info s.manager)
  { manager
    nextEventId :=
      match i with
      | .updateIds count => s.nextEventId + count
      | _ => s.nextEventId
    numbers := s.renumber manager }

/-- The events that wait, with their numbers. -/
def waiting (s : EventRun) (sess : Nat) (type : ANREventType) : List (Int × EventTime) :=
  (s.numbers sess type).zip (s.manager.queue sess type)

end EventRun

/-! ## The property -/

/-- An acknowledgement removes the events dispatched no later than its event, hands out
their timers, which are removed, and leaves the later ones as they stand. -/
def RemovesUpTo (info : Nat → SessionInfo) (s : EventRun) : EventInput → Prop
  | .acknowledge type number sess currentTime =>
      let s' := s.step info (.acknowledge type number sess currentTime)
      let gone := (s.waiting sess type).filter fun p => p.1 ≤ number
      s'.waiting sess type = ((s.waiting sess type).filter fun p => number < p.1) ∧
        ((s.manager.sessions sess).delEvents (code type) (eventId number) currentTime).1
          = gone.map (fun p => p.2.timerId) ∧
        (∀ p ∈ gone, p.2.timerId ∉ s'.manager.timers.timers.map TimerItem.id) ∧
        ∀ sess' type', ¬ (sess' = sess ∧ type' = type) →
          s'.waiting sess' type' = s.waiting sess' type'
  | _ => True

/-- The ids have not wrapped around between the acknowledged event and those that
wait before it, nor the first that waits after it. -/
def SameRound (s : EventRun) : EventInput → Prop
  | .acknowledge type number sess _ =>
      (∀ n ∈ s.numbers sess type, n ≤ number → round n = round number) ∧
        ∀ n ∈ ((s.numbers sess type).filter fun n => number < n).head?, round n = round number
  | _ => True

instance (s : EventRun) (i : EventInput) : Decidable (SameRound s i) := by
  cases i <;> unfold SameRound <;> infer_instance

/-- Fewer than 2^32 ids have been taken between the acknowledged event and those that
wait. -/
def Near (s : EventRun) : EventInput → Prop
  | .acknowledge type number sess _ =>
      ∀ n ∈ s.numbers sess type, n < number + 2 ^ 32 ∧ number < n + 2 ^ 32
  | _ => True

instance (s : EventRun) (i : EventInput) : Decidable (Near s i) := by
  cases i <;> unfold Near <;> infer_instance

structure Numbered (s : EventRun) : Prop where
  ids : ∀ sess type,
    (s.manager.queue sess type).map EventTime.id = (s.numbers sess type).map eventId
  order : ∀ sess type, (s.numbers sess type).Pairwise (· ≤ ·)
  newest : ∀ sess type, ∀ n ∈ s.numbers sess type, n ≤ s.newest

/-! ## Scanning a queue -/

variable {α : Type}

/-- A scan that stops where the keys get greater than `k` takes the items up to `k`. -/
theorem takeWhile_eq_filter {key : α → Int} {p : α → Bool} {k : Int} {xs : List α}
    (horder : (xs.map key).Pairwise (· ≤ ·)) (hgone : ∀ x ∈ xs, key x ≤ k → p x = true)
    (hfirst : ∀ x ∈ (xs.filter fun x => k < key x).head?, p x = false) :
    xs.takeWhile p = (xs.filter fun x => key x ≤ k) ∧
      xs.dropWhile p = xs.filter fun x => k < key x := by
  induction xs with
  | nil => exact ⟨rfl, rfl⟩
  | cons x xs ih =>
    obtain ⟨hx, horder⟩ := List.pairwise_cons.mp horder
    by_cases hle : key x ≤ k
    · have hstays := hgone x List.mem_cons_self hle
      have hnot : ¬ k < key x := by omega
      rw [List.filter_cons_of_neg (by simpa using hle)] at hfirst
      obtain ⟨htake, hdrop⟩ :=
        ih horder (fun y hy => hgone y (List.mem_cons_of_mem x hy)) hfirst
      rw [List.takeWhile_cons_of_pos hstays, List.dropWhile_cons_of_pos hstays,
        List.filter_cons_of_pos (by simpa using hle), List.filter_cons_of_neg (by simpa using hle),
        htake, hdrop]
      exact ⟨rfl, rfl⟩
    · have hlater : ∀ y ∈ x :: xs, k < key y := by
        intro y hy
        rcases List.mem_cons.mp hy with rfl | hy
        · omega
        · have := hx (key y) (List.mem_map_of_mem hy)
          omega
      have hall : (x :: xs).filter (fun x => k < key x) = x :: xs :=
        List.filter_eq_self.mpr fun y hy => decide_eq_true (hlater y hy)
      have hnone : (x :: xs).filter (fun x => key x ≤ k) = [] :=
        List.filter_eq_nil_iff.mpr fun y hy => by
          have := hlater y hy
          simpa using this
      rw [hall] at hfirst
      have hstop : ¬ p x = true := by simp [hfirst x rfl]
      rw [hall, hnone, List.takeWhile_cons_of_neg hstop, List.dropWhile_cons_of_neg hstop]
      exact ⟨rfl, rfl⟩

/-- Where the scan ends. -/
theorem filter_of_dropWhile {key : α → Int} {stays : α → Bool} {k : Int} {xs : List α}
    (h : xs.dropWhile stays = xs.filter fun x => k < key x) :
    (∀ x ∈ xs, key x ≤ k → stays x = true) ∧
      ∀ x ∈ (xs.filter fun x => k < key x).head?, stays x = false := by
  constructor
  · intro x hx hle
    rw [← List.takeWhile_append_dropWhile (p := stays) (l := xs), List.mem_append] at hx
    rcases hx with hx | hx
    · exact List.mem_takeWhile_imp hx
    · rw [h] at hx
      have := of_decide_eq_true (List.mem_filter.mp hx).2
      omega
  · intro x hx
    rw [← h] at hx
    have := List.head?_dropWhile_not stays xs
    rw [Option.mem_def.mp hx] at this
    simpa using this

theorem delEvents_code (e : SessionEvents) (type : ANREventType) (id currentTime : Int) :
    (e.delEvents (code type) id currentTime).1
        = ((e.events type).takeWhile fun item => item.id ≤ id).map EventTime.timerId ∧
      (e.delEvents (code type) id currentTime).2.events = Function.update e.events type
        ((e.events type).dropWhile fun item => item.id ≤ id) := by
  have htype : ANREventType.ofInt (code type) = some type := by cases type <;> rfl
  simp only [SessionEvents.delEvents, htype]
  split
  · rename_i hnone
    have htake := List.eq_nil_of_length_eq_zero hnone
    have hsplit := List.takeWhile_append_dropWhile (p := fun item => decide (item.id ≤ id))
      (l := e.events type)
    rw [htake, List.nil_append] at hsplit
    rw [htake, hsplit, Function.update_eq_self]
    exact ⟨rfl, rfl⟩
  · exact ⟨rfl, rfl⟩

/-! ## What the component does to the queues -/

namespace ANRManager

/-- The ids of the events in a queue. -/
def ids (m : ANRManager) (sess : Nat) (type : ANREventType) : List Int :=
  (m.queue sess type).map EventTime.id

theorem removeTimersOf_ids (m : ANRManager) (type : ANREventType) (sess : Nat) :
    (m.removeTimersOf type sess).ids = m.ids := by
  funext sess' type'
  have hqueue := (removeTimersOf_eq m type sess).2.2 sess' type'
  rw [ids, queue, hqueue]
  by_cases hq : sess' = sess ∧ type' = type
  · rw [if_pos hq, hq.1, hq.2, List.map_map]
    rfl
  · rw [if_neg hq]
    rfl

theorem onSessionLost_ids (info : Nat → SessionInfo) (m : ANRManager) (sess : Nat) :
    (m.onSessionLost info sess).ids = m.ids := by
  unfold onSessionLost removeTimers
  dsimp only
  rw [removeTimersOf_ids, removeTimersOf_ids]
  split <;> rfl

theorem onTimeout_ids (m : ANRManager) (type : ANREventType) (sess : Nat) (sent : Bool) :
    (m.onTimeout type sess sent).ids = m.ids := by
  have hset : (m.setSession sess ((m.sessions sess).setAnrStatus type true)).ids = m.ids := by
    funext sess' type'
    rw [ids, queue, setAnrStatus_queue]
    rfl
  unfold onTimeout
  dsimp only
  split
  · exact hset
  · split
    · exact hset
    · rw [removeTimersOf_ids, hset]

theorem processNext_ids (m : ANRManager) (nowTime : Int) (sent : Bool) :
    (m.processNext nowTime sent).ids = m.ids := by
  unfold processNext
  dsimp only
  split
  · rw [onTimeout_ids]
    rfl
  · rfl
  · rfl
  · rfl

/-- An acknowledgement takes events off the front of a queue. -/
theorem markProcessed_ids (m : ANRManager) (eventType eventId : Int) (sess : Nat)
    (currentTime : Int) (sess' : Nat) (type' : ANREventType) :
    ∃ k, (m.markProcessed eventType eventId sess currentTime).ids sess' type'
      = (m.ids sess' type').drop k := by
  have hsessions := markProcessed_sessions m eventType eventId sess currentTime
  rw [ids, queue, hsessions]
  rcases (m.sessions sess).delEvents_cases eventType eventId currentTime with
    hnone | ⟨type, gone, left, hqueue, _, hevents⟩
  · rw [hnone, Function.update_eq_self]
    exact ⟨0, rfl⟩
  · have hleft := setSession_queue m hevents sess' type'
    rw [setSession] at hleft
    rw [hleft]
    by_cases hq : sess' = sess ∧ type' = type
    · refine ⟨gone.length, ?_⟩
      rw [if_pos hq, ids, queue, hq.1, hq.2, hqueue, List.map_append]
      exact (List.drop_left' (List.length_map ..)).symm
    · rw [if_neg hq]
      exact ⟨0, rfl⟩

end ANRManager

/-- What dispatches nothing takes events off the front of a queue at most. -/
theorem undispatched_ids (info : Nat → SessionInfo) (m : ANRManager) (e : Undispatched)
    (sess : Nat) (type : ANREventType) :
    ∃ k, (anrStep info m e.event).ids sess type = (m.ids sess type).drop k := by
  obtain ⟨event, hnone⟩ := e
  cases event with
  | addTimer type id currentTime sess nowTime =>
    exact absurd rfl (hnone type id currentTime sess nowTime)
  | markProcessed eventType eventId sess' currentTime =>
    exact m.markProcessed_ids eventType eventId sess' currentTime sess type
  | sessionLost sess' => exact ⟨0, by rw [anrStep, ANRManager.onSessionLost_ids]; rfl⟩
  | setANRNoticedPid pid => exact ⟨0, rfl⟩
  | processNext nowTime sent => exact ⟨0, by rw [anrStep, ANRManager.processNext_ids]; rfl⟩
  | otherAdd component nowTime intervalMs repeatCount => exact ⟨0, rfl⟩
  | otherRemove timerId => exact ⟨0, rfl⟩
  | otherReset nowTime timerId => exact ⟨0, rfl⟩

/-! ## One step -/

namespace Numbered

variable {s : EventRun}

theorem length_eq (hs : Numbered s) (sess : Nat) (type : ANREventType) :
    (s.manager.queue sess type).length = (s.numbers sess type).length := by
  have hlength := congrArg List.length (hs.ids sess type)
  rwa [List.length_map, List.length_map] at hlength

/-- Where a queue has lost events at its front, the numbers of the others are left. -/
theorem renumber_drop (hs : Numbered s) {manager : ANRManager} {sess : Nat}
    {type : ANREventType} {k : Nat}
    (h : manager.ids sess type = (s.manager.ids sess type).drop k) :
    s.renumber manager sess type = (s.numbers sess type).drop k := by
  have hlength := congrArg List.length h
  have hlen := hs.length_eq sess type
  rw [List.length_drop, ANRManager.ids, ANRManager.ids, List.length_map, List.length_map]
    at hlength
  rw [EventRun.renumber, if_neg (by omega)]
  by_cases hk : k ≤ (s.numbers sess type).length
  · congr 1
    omega
  · rw [List.drop_of_length_le (by omega), List.drop_of_length_le (by omega)]

/-- A queue and its numbers lose as many. -/
theorem of_drops (hs : Numbered s) {manager : ANRManager} {nextEventId : Int}
    (hnext : s.nextEventId ≤ nextEventId)
    (h : ∀ sess type, ∃ k, manager.ids sess type = (s.manager.ids sess type).drop k) :
    Numbered ⟨manager, nextEventId, s.renumber manager⟩ := by
  refine ⟨fun sess type => ?_, fun sess type => ?_, fun sess type n hn => ?_⟩
  · obtain ⟨k, hk⟩ := h sess type
    show manager.ids sess type = (s.renumber manager sess type).map eventId
    rw [hs.renumber_drop hk, hk, ANRManager.ids, hs.ids sess type, List.map_drop]
  · obtain ⟨k, hk⟩ := h sess type
    show (s.renumber manager sess type).Pairwise (· ≤ ·)
    rw [hs.renumber_drop hk]
    exact (hs.order sess type).drop
  · obtain ⟨k, hk⟩ := h sess type
    have hn : n ∈ s.renumber manager sess type := hn
    rw [hs.renumber_drop hk] at hn
    have := hs.newest sess type n (List.mem_of_mem_drop hn)
    show n ≤ nextEventId - 1
    unfold EventRun.newest at this
    omega

/-- The newest event joins a queue. -/
theorem dispatch (hs : Numbered s) (info : Nat → SessionInfo) (type : ANREventType)
    (currentTime : Int) (sess : Nat) (nowTime : Int) :
    Numbered (s.step info (.dispatch type currentTime sess nowTime)) := by
  have hnumbers : ∀ sess' type',
      ((s.step info (.dispatch type currentTime sess nowTime)).manager.ids sess' type'
          = s.manager.ids sess' type' ∧
        (s.step info (.dispatch type currentTime sess nowTime)).numbers sess' type'
          = s.numbers sess' type') ∨
      ((s.step info (.dispatch type currentTime sess nowTime)).manager.ids sess' type'
          = s.manager.ids sess' type' ++ [eventId s.newest] ∧
        (s.step info (.dispatch type currentTime sess nowTime)).numbers sess' type'
          = s.numbers sess' type' ++ [s.newest]) := by
    intro sess' type'
    simp only [EventRun.step, EventRun.event, Option.elim, anrStep]
    obtain hsame | ⟨_, _, item, hid, hadded⟩ := addTimer_queue info s.manager type
      (eventId s.newest) currentTime sess nowTime sess' type'
    · refine .inl ⟨by rw [ANRManager.ids, hsame, ANRManager.ids], ?_⟩
      rw [EventRun.renumber, hsame, if_neg (lt_irrefl _), Nat.sub_self, List.drop_zero]
    · refine .inr ⟨by rw [ANRManager.ids, hadded, List.map_append, ← hid]; rfl, ?_⟩
      rw [EventRun.renumber, hadded, if_pos (by simp)]
  refine ⟨fun sess' type' => ?_, fun sess' type' => ?_, fun sess' type' n hn => ?_⟩
  · rcases hnumbers sess' type' with ⟨hids, hnums⟩ | ⟨hids, hnums⟩
    · rw [hnums]
      exact hids.trans (hs.ids sess' type')
    · rw [hnums, List.map_append, ← hs.ids sess' type']
      exact hids
  · rcases hnumbers sess' type' with ⟨_, hnums⟩ | ⟨_, hnums⟩
    · rw [hnums]
      exact hs.order sess' type'
    · rw [hnums, List.pairwise_append]
      refine ⟨hs.order sess' type', List.pairwise_singleton _ _, fun m hm n hn => ?_⟩
      rw [List.mem_singleton.mp hn]
      exact hs.newest sess' type' m hm
  · show n ≤ s.newest
    rcases hnumbers sess' type' with ⟨_, hnums⟩ | ⟨_, hnums⟩
    · rw [hnums] at hn
      exact hs.newest sess' type' n hn
    · rw [hnums, List.mem_append, List.mem_singleton] at hn
      rcases hn with hn | rfl
      · exact hs.newest sess' type' n hn
      · exact le_rfl

theorem step (hs : Numbered s) (info : Nat → SessionInfo) (i : EventInput) :
    Numbered (s.step info i) := by
  cases i with
  | updateIds count =>
    exact hs.of_drops (Int.le_add_of_nonneg_right (Int.natCast_nonneg count)) fun _ _ => ⟨0, rfl⟩
  | dispatch type currentTime sess nowTime => exact hs.dispatch info type currentTime sess nowTime
  | acknowledge type number sess currentTime =>
    exact hs.of_drops le_rfl
      (s.manager.markProcessed_ids (code type) (eventId number) sess currentTime)
  | other e => exact hs.of_drops le_rfl (undispatched_ids info s.manager e)

theorem waiting_fst (hs : Numbered s) (sess : Nat) (type : ANREventType) :
    (s.waiting sess type).map Prod.fst = s.numbers sess type :=
  List.map_fst_zip (hs.length_eq sess type).ge

theorem waiting_snd (hs : Numbered s) (sess : Nat) (type : ANREventType) :
    (s.waiting sess type).map Prod.snd = s.manager.queue sess type :=
  List.map_snd_zip (hs.length_eq sess type).le

theorem waiting_id (hs : Numbered s) {sess : Nat} {type : ANREventType} {p : Int × EventTime}
    (hp : p ∈ s.waiting sess type) : p.2.id = eventId p.1 := by
  have hids := hs.ids sess type
  rw [← hs.waiting_fst, ← hs.waiting_snd, List.map_map, List.map_map] at hids
  exact List.map_inj_left.mp hids p hp

/-- The scan of `DelEvents` over the events with their numbers. -/
def stays (number : Int) (p : Int × EventTime) : Bool := p.2.id ≤ eventId number

/-- What an acknowledgement does, by its scan. -/
theorem acknowledge_scan (hs : Numbered s) (info : Nat → SessionInfo) (type : ANREventType)
    (number : Int) (sess : Nat) (currentTime : Int) :
    ((s.manager.sessions sess).delEvents (code type) (eventId number) currentTime).1
        = ((s.waiting sess type).takeWhile (stays number)).map (fun p => p.2.timerId) ∧
      (s.step info (.acknowledge type number sess currentTime)).waiting sess type
        = (s.waiting sess type).dropWhile (stays number) := by
  obtain ⟨htimers, hevents⟩ := delEvents_code (s.manager.sessions sess) type (eventId number)
    currentTime
  have hqueue : (s.manager.sessions sess).events type = (s.waiting sess type).map Prod.snd :=
    (hs.waiting_snd sess type).symm
  have htake : ((s.manager.sessions sess).events type).takeWhile (fun item => item.id ≤ eventId number)
      = ((s.waiting sess type).takeWhile (stays number)).map Prod.snd := by
    rw [hqueue, List.takeWhile_map]
    rfl
  have hdrop : ((s.manager.sessions sess).events type).dropWhile (fun item => item.id ≤ eventId number)
      = ((s.waiting sess type).dropWhile (stays number)).map Prod.snd := by
    rw [hqueue, List.dropWhile_map]
    rfl
  have hqueue' : (s.manager.markProcessed (code type) (eventId number) sess currentTime).queue
      sess type = ((s.waiting sess type).dropWhile (stays number)).map Prod.snd := by
    rw [ANRManager.queue, markProcessed_sessions, Function.update_self, hevents,
      Function.update_self, hdrop]
  have hsplit := List.takeWhile_append_dropWhile (p := stays number) (l := s.waiting sess type)
  have hids : (s.manager.markProcessed (code type) (eventId number) sess currentTime).ids sess type
      = (s.manager.ids sess type).drop ((s.waiting sess type).takeWhile (stays number)).length := by
    rw [ANRManager.ids, hqueue', ANRManager.ids, ← hs.waiting_snd]
    conv_rhs => rw [← hsplit]
    rw [List.map_append, List.map_append]
    exact (List.drop_left' (by simp)).symm
  have hnumbers := hs.renumber_drop hids
  rw [← hs.waiting_fst, ← hsplit, List.map_append, List.drop_left' (by simp [hsplit])] at hnumbers
  refine ⟨by rw [htimers, htake, List.map_map]; rfl, ?_⟩
  show (s.renumber (s.manager.markProcessed (code type) (eventId number) sess currentTime)
    sess type).zip
      ((s.manager.markProcessed (code type) (eventId number) sess currentTime).queue sess type) = _
  rw [hnumbers, hqueue', List.zip_map', List.map_id'']
  exact fun _ => rfl

/-- The other queues stay as they are. -/
theorem acknowledge_other (hs : Numbered s) (info : Nat → SessionInfo) (type : ANREventType)
    (number : Int) (sess : Nat) (currentTime : Int) {sess' : Nat} {type' : ANREventType}
    (hother : ¬ (sess' = sess ∧ type' = type)) :
    (s.step info (.acknowledge type number sess currentTime)).waiting sess' type'
      = s.waiting sess' type' := by
  have hevents := (delEvents_code (s.manager.sessions sess) type (eventId number) currentTime).2
  have hqueue := setSession_queue s.manager hevents sess' type'
  rw [if_neg hother] at hqueue
  have hqueue' : (s.manager.markProcessed (code type) (eventId number) sess currentTime).queue
      sess' type' = s.manager.queue sess' type' := by
    rw [ANRManager.queue, markProcessed_sessions]
    exact hqueue
  have hnumbers := hs.renumber_drop (k := 0)
    (congrArg (List.map EventTime.id) hqueue')
  show (s.renumber (s.manager.markProcessed (code type) (eventId number) sess currentTime)
    sess' type').zip
      ((s.manager.markProcessed (code type) (eventId number) sess currentTime).queue sess' type')
        = _
  rw [hnumbers, hqueue']
  rfl

/-- The timers that are handed out are removed. -/
theorem acknowledge_timers (s : EventRun) (info : Nat → SessionInfo) (type : ANREventType)
    (number : Int) (sess : Nat) (currentTime : Int) :
    ∀ timerId ∈ ((s.manager.sessions sess).delEvents (code type) (eventId number) currentTime).1,
      timerId ∉ (s.step info (.acknowledge type number sess currentTime)).manager.timers.timers.map
        TimerItem.id := by
  intro timerId hgone hlive
  obtain ⟨t, ht, rfl⟩ := List.mem_map.mp hlive
  have hpos := ((s.step info (.acknowledge type number sess currentTime)).manager.timers.range t
    ht).1
  have htimers := (removeIds_eq
    ((s.manager.sessions sess).delEvents (code type) (eventId number) currentTime).1
    (s.manager.setSession sess
      ((s.manager.sessions sess).delEvents (code type) (eventId number) currentTime).2)).1
  have ht' : t ∈ ((s.manager.setSession sess
      ((s.manager.sessions sess).delEvents (code type) (eventId number) currentTime).2).removeIds
        ((s.manager.sessions sess).delEvents (code type) (eventId number) currentTime).1
          ).timers.timers := ht
  rw [htimers, dropKeys, List.mem_filter, decide_eq_true_eq, List.mem_filter] at ht'
  exact ht'.2 ⟨hgone, decide_eq_true (by omega)⟩

/-- The numbers of the queue are those of the events that wait. -/
theorem numbers_filter (hs : Numbered s) (sess : Nat) (type : ANREventType) (number : Int) :
    (s.numbers sess type).filter (fun n => number < n)
      = ((s.waiting sess type).filter fun p => number < p.1).map Prod.fst := by
  rw [← hs.waiting_fst, List.filter_map]
  rfl

theorem removesUpTo (hs : Numbered s) (info : Nat → SessionInfo) {i : EventInput}
    (h : SameRound s i) : RemovesUpTo info s i := by
  cases i with
  | acknowledge type number sess currentTime =>
    obtain ⟨hgone, hfirst⟩ := h
    obtain ⟨htimers, hwaiting⟩ := hs.acknowledge_scan info type number sess currentTime
    have horder := hs.order sess type
    rw [← hs.waiting_fst] at horder hgone
    obtain ⟨htake, hdrop⟩ := takeWhile_eq_filter (p := stays number) (k := number) horder
      (fun p hp hle => by
        have hround := hgone p.1 (List.mem_map_of_mem hp) hle
        rw [stays, hs.waiting_id hp]
        exact decide_eq_true ((eventId_le_iff hround).mpr hle))
      (fun p hp => by
        rw [hs.numbers_filter, List.head?_map, Option.mem_def.mp hp] at hfirst
        have hmem := List.mem_filter.mp (List.mem_of_mem_head? hp)
        have hlt := of_decide_eq_true hmem.2
        rw [stays, hs.waiting_id hmem.1]
        refine decide_eq_false fun hle => ?_
        have := (eventId_le_iff (hfirst p.1 rfl)).mp hle
        omega)
    rw [htake] at htimers
    rw [hdrop] at hwaiting
    refine ⟨hwaiting, htimers, fun p hp => ?_,
      fun sess' type' => hs.acknowledge_other info type number sess currentTime⟩
    refine acknowledge_timers s info type number sess currentTime _ ?_
    rw [htimers]
    exact List.mem_map_of_mem hp
  | updateIds _ => trivial
  | dispatch _ _ _ _ => trivial
  | other _ => trivial

/-- Among near events the condition is also needed. -/
theorem sameRound (hs : Numbered s) (info : Nat → SessionInfo) {i : EventInput}
    (hnear : Near s i) (h : RemovesUpTo info s i) : SameRound s i := by
  cases i with
  | acknowledge type number sess currentTime =>
    have hwaiting := (hs.acknowledge_scan info type number sess currentTime).2
    obtain ⟨hgone, hfirst⟩ := filter_of_dropWhile (hwaiting.symm.trans h.1)
    constructor
    · intro n hn hle
      have hnear := hnear n hn
      rw [← hs.waiting_fst] at hn
      obtain ⟨p, hp, rfl⟩ := List.mem_map.mp hn
      have hstays := hgone p hp hle
      rw [stays, hs.waiting_id hp] at hstays
      exact round_eq_of_eventId_le hle hnear.2 (of_decide_eq_true hstays)
    · intro n hn
      rw [hs.numbers_filter, List.head?_map] at hn
      obtain ⟨p, hp, rfl⟩ := Option.mem_map.mp hn
      have hmem := List.mem_filter.mp (List.mem_of_mem_head? hp)
      have hlt := of_decide_eq_true hmem.2
      have hnear := hnear p.1 (by
        rw [← hs.waiting_fst]
        exact List.mem_map_of_mem hmem.1)
      have hstops := hfirst p hp
      rw [stays, hs.waiting_id hmem.1] at hstops
      have hle : eventId number ≤ eventId p.1 := by
        have := of_decide_eq_false hstops
        omega
      exact (round_eq_of_eventId_le hlt.le hnear.1 hle).symm
  | updateIds _ => trivial
  | dispatch _ _ _ _ => trivial
  | other _ => trivial

end Numbered

theorem create_numbered : Numbered .create where
  ids _ _ := rfl
  order _ _ := List.Pairwise.nil
  newest _ _ _ h := nomatch h

/-! ## Every run -/

/-- Two events of an application after others of the process, and the first of them
is acknowledged. -/
def acknowledged (others : Nat) : List EventInput :=
  [.updateIds others, .dispatch .dispatch 0 1 0, .updateIds 1, .dispatch .dispatch 10 1 10,
    .acknowledge .dispatch others 1 20]

end FtMmi.EventHandler
