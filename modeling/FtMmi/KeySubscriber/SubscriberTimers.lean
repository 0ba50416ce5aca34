/-
FtMmi.KeySubscriber.SubscriberTimers — which timers the subscribers' ids
name, and who is notified.

`Matched` is the invariant: a subscriber with a timer id is the owner of
the live timer with that id, and every live timer of a subscriber has an
owner in the list that knows it. Each operation of the handler writes to
one object (`Writes`), and the loops are made of those.

Other components add timers, and remove and reset timers by id. An id that
they have kept too long may be that of a subscriber's timer by then; a
subscriber whose timer is removed so goes on holding the id
(`SparesSubscribers`, `subscriberTimers_iff`).
-/
import FtMmi.KeySubscriber.KeySubscriberHandler
import FtMmi.Lib.StepSystem
import FtMmi.Timer.OwnTimers

namespace FtMmi.KeySubscriber

open FtMmi.Event
open FtMmi.Lib
open FtMmi.Server
open FtMmi.Timer

/-! ## Runs -/

/-- The handler and the sessions of the server, with what is over: the
subscriptions removed and the sessions lost. -/
structure SubscriberService where
  handler : KeySubscriberHandler
  server : UDSServer
  removed : List Nat
  lost : List Session

inductive SubscriberInput where
  | addSession (ses : Session)
  | delSession (fd : Int)
  | onSubscribeKeyEvent (pid : Int) (subscribeId : Int32) (keyOption : KeyOption)
  | onUnsubscribeKeyEvent (pid : Int) (subscribeId : Int32)
  | keyEvent (nowTime : Int) (keyEvent : KeyEvent)
  | removeSubscriberKeyUpTimer (keyCode : Int32)
  | processNext (nowTime : Int)
  | otherAdd (component : Nat) (nowTime intervalMs repeatCount : Int)
  | otherRemove (timerId : Int)
  | otherReset (nowTime timerId : Int)

namespace SubscriberService

def create : SubscriberService := ⟨.create, .create, [], []⟩

def handlerStep (s : SubscriberService) : SubscriberInput → KeySubscriberHandler
  | .addSession _ => s.handler
  | .delSession fd =>
      match s.server.getSession fd with
      | some ses =>
          if s.handler.callbackInitialized then s.handler.onSessionDelete ses else s.handler
      | none => s.handler
  | .onSubscribeKeyEvent pid subscribeId keyOption =>
      match s.server.getSessionByPid pid with
      | some sess => (s.handler.subscribeKeyEvent sess subscribeId keyOption).2
      | none => s.handler
  | .onUnsubscribeKeyEvent pid subscribeId =>
      match s.server.getSessionByPid pid with
      | some sess => (s.handler.unsubscribeKeyEvent sess subscribeId).2
      | none => s.handler
  | .keyEvent nowTime keyEvent => (s.handler.onSubscribeKeyEvent nowTime keyEvent).2
  | .removeSubscriberKeyUpTimer keyCode => s.handler.removeSubscriberKeyUpTimer keyCode
  | .processNext nowTime => s.handler.processNext nowTime
  | .otherAdd component nowTime intervalMs repeatCount =>
      { s.handler with
        timers := (s.handler.timers.addTimer nowTime intervalMs repeatCount
          (some (.other component))).2 }
  | .otherRemove timerId =>
      { s.handler with timers := (s.handler.timers.removeTimer timerId).2 }
  | .otherReset nowTime timerId =>
      { s.handler with timers := (s.handler.timers.resetTimer nowTime timerId).2 }

/-- The sessions that were deleted and did not come back. -/
def lostAfter (s : SubscriberService) : SubscriberInput → List Session
  | .addSession ses =>
      if (s.server.addSession ses).1 then s.lost.filter fun other => other ≠ ses else s.lost
  | .delSession fd =>
      match s.server.getSession fd with
      | some ses => ses :: s.lost
      | none => s.lost
  | _ => s.lost

def step (s : SubscriberService) (i : SubscriberInput) : SubscriberService where
  handler := s.handlerStep i
  server :=
    match i with
    | .addSession ses => (s.server.addSession ses).2
    | .delSession fd => s.server.delSession fd
    | _ => s.server
  removed := s.removed ++ (s.handler.subscribers.map Subscriber.ref).filter fun ref =>
    ref ∉ (s.handlerStep i).subscribers.map Subscriber.ref
  lost := s.lostAfter i

end SubscriberService

/-! ## The property -/

structure TimersMatch (s : KeySubscriberHandler) : Prop where
  /-- An id is stored precisely while there is a timer of the subscriber with
  this id. -/
  stored : ∀ x ∈ s.subscribers, 0 ≤ x.timerId ↔
    ∃ t ∈ s.timers.timers, t.callback = .subscriber x.ref ∧ t.id = x.timerId
  /-- A subscriber has no other timer. -/
  only : ∀ x ∈ s.subscribers, ∀ t ∈ s.timers.timers, t.callback = .subscriber x.ref →
    t.id = x.timerId
  registered : ∀ t ∈ s.timers.timers, ∀ ref, t.callback = .subscriber ref →
    ∃ x ∈ s.subscribers, x.ref = ref

/-- What is notified in a step. -/
def notifiedIn (s : SubscriberService) (i : SubscriberInput) : List Notification :=
  (s.step i).handler.notified.drop s.handler.notified.length

/-- The notification is one of the subscription. -/
def Notification.Of (n : Notification) (x : Subscriber) : Prop :=
  x.ref = n.ref ∧ x.sess = n.sess ∧ x.id = n.id

/-- Who is notified is registered, was not removed, and has its session. -/
def NotifiesRegistered (s : SubscriberService) (i : SubscriberInput) : Prop :=
  ∀ n ∈ notifiedIn s i, (∃ x ∈ s.handler.subscribers, n.Of x) ∧ n.ref ∉ s.removed ∧
    n.sess ∉ s.lost

/-! ## The condition -/

def TimerOwner.isOther : TimerOwner → Bool
  | .other _ => true
  | .subscriber _ => false

/-- Other components remove no timer of a subscriber, and reset one only if its
next call time does not overflow. -/
def SparesSubscribers (s : SubscriberService) : SubscriberInput → Prop
  | .otherRemove timerId => s.handler.timers.Owns TimerOwner.isOther timerId
  | .otherReset nowTime timerId => ∀ t ∈ s.handler.timers.timers, t.id = timerId →
      t.callback.isOther = true ∨ (addInt64 nowTime t.intervalMs).isSome = true
  | _ => True

instance (s : SubscriberService) : (i : SubscriberInput) → Decidable (SparesSubscribers s i)
  | .otherRemove timerId => inferInstanceAs (Decidable (∀ t ∈ s.handler.timers.timers,
      t.id = timerId → t.callback.isOther = true))
  | .otherReset nowTime timerId => inferInstanceAs (Decidable (∀ t ∈ s.handler.timers.timers,
      t.id = timerId → t.callback.isOther = true ∨ (addInt64 nowTime t.intervalMs).isSome = true))
  | .addSession _ => isTrue trivial
  | .delSession _ => isTrue trivial
  | .onSubscribeKeyEvent .. => isTrue trivial
  | .onUnsubscribeKeyEvent .. => isTrue trivial
  | .keyEvent .. => isTrue trivial
  | .removeSubscriberKeyUpTimer _ => isTrue trivial
  | .processNext _ => isTrue trivial
  | .otherAdd .. => isTrue trivial

/-! ## The invariant of the handler -/

structure Matched (s : KeySubscriberHandler) : Prop where
  refs : (s.subscribers.map Subscriber.ref).Nodup
  fresh : ∀ x ∈ s.subscribers, x.ref < s.nextRef
  owned : ∀ x ∈ s.subscribers, 0 ≤ x.timerId →
    ∃ t ∈ s.timers.timers, t.callback = .subscriber x.ref ∧ t.id = x.timerId
  known : ∀ t ∈ s.timers.timers, ∀ ref, t.callback = .subscriber ref →
    ∃ x ∈ s.subscribers, x.ref = ref ∧ x.timerId = t.id
  oneShot : ∀ t ∈ s.timers.timers, ∀ ref, t.callback = .subscriber ref →
    t.repeatCount = 1 ∧ t.callbackCount = 0
  /-- With a timer there is the event to notify of. -/
  pending : ∀ x ∈ s.subscribers, 0 ≤ x.timerId ↔ x.keyEvent.isSome

variable {s s' u : KeySubscriberHandler} {x z : Subscriber}

theorem create_matched : Matched .create where
  refs := List.nodup_nil
  fresh _ h := nomatch h
  owned _ h := nomatch h
  known _ h := nomatch h
  oneShot _ h := nomatch h
  pending _ h := nomatch h

theorem Matched.eq_of_ref (hs : Matched s) {y : Subscriber} (hx : x ∈ s.subscribers)
    (hy : y ∈ s.subscribers) (h : y.ref = x.ref) : y = x :=
  List.inj_on_of_nodup_map hs.refs hy hx h

theorem Matched.timersMatch (hs : Matched s) : TimersMatch s where
  stored x hx := by
    constructor
    · exact hs.owned x hx
    · rintro ⟨t, ht, _, hid⟩
      rw [← hid]
      exact (s.timers.range t ht).1
  only x hx t ht hcallback := by
    obtain ⟨y, hy, href, hid⟩ := hs.known t ht x.ref hcallback
    rw [← hid, hs.eq_of_ref hx hy href]
  registered t ht ref hcallback := by
    obtain ⟨x, hx, href, _⟩ := hs.known t ht ref hcallback
    exact ⟨x, hx, href⟩

/-! ## Writing to one object -/

/-- What does not change while a subscription lasts. -/
def Subscriber.ident (x : Subscriber) : Nat × Session × Int32 × KeyOption :=
  (x.ref, x.sess, x.id, x.keyOption)

/-- Subscriptions are only lost, and only they are notified. -/
structure Frame (s s' : KeySubscriberHandler) : Prop where
  idents : (s'.subscribers.map Subscriber.ident).Sublist (s.subscribers.map Subscriber.ident)
  nextRef : s'.nextRef = s.nextRef
  callbackInitialized : s'.callbackInitialized = s.callbackInitialized
  notified : ∃ new, s'.notified = s.notified ++ new ∧
    ∀ n ∈ new, ∃ x ∈ s.subscribers, Notification.Of n x

theorem Frame.refl (s : KeySubscriberHandler) : Frame s s :=
  ⟨.refl _, rfl, rfl, [], (List.append_nil _).symm, fun _ h => nomatch h⟩

/-- A subscription that is still there was there before. -/
theorem Frame.before (h : Frame s s') {y : Subscriber} (hy : y ∈ s'.subscribers) :
    ∃ x ∈ s.subscribers, x.ident = y.ident :=
  List.mem_map.mp (h.idents.subset (List.mem_map_of_mem hy))

theorem Frame.refs (h : Frame s s') {ref : Nat} (href : ref ∈ s'.subscribers.map Subscriber.ref) :
    ref ∈ s.subscribers.map Subscriber.ref := by
  obtain ⟨y, hy, rfl⟩ := List.mem_map.mp href
  obtain ⟨x, hx, hident⟩ := h.before hy
  exact List.mem_map.mpr ⟨x, hx, congrArg Prod.fst hident⟩

theorem Frame.trans {s'' : KeySubscriberHandler} (h : Frame s s') (h' : Frame s' s'') :
    Frame s s'' where
  idents := h'.idents.trans h.idents
  nextRef := h'.nextRef.trans h.nextRef
  callbackInitialized := h'.callbackInitialized.trans h.callbackInitialized
  notified := by
    obtain ⟨new, heq, hnew⟩ := h.notified
    obtain ⟨new', heq', hnew'⟩ := h'.notified
    refine ⟨new ++ new', by rw [heq', heq, List.append_assoc], fun n hn => ?_⟩
    rcases List.mem_append.mp hn with hn | hn
    · exact hnew n hn
    · obtain ⟨y, hy, hof⟩ := hnew' n hn
      obtain ⟨x, hx, hident⟩ := h.before hy
      simp only [Subscriber.ident, Prod.mk.injEq] at hident
      refine ⟨x, hx, hident.1.trans hof.1, hident.2.1.trans hof.2.1, hident.2.2.1.trans hof.2.2⟩

/-- Other objects are as they were. -/
structure Writes (x : Subscriber) (s s' : KeySubscriberHandler) : Prop where
  matched : Matched s'
  frame : Frame s s'
  others : ∀ y ∈ s.subscribers, y.ref ≠ x.ref → y ∈ s'.subscribers

theorem Matched.writes_refl (hs : Matched s) (x : Subscriber) : Writes x s s :=
  ⟨hs, .refl s, fun _ hy _ => hy⟩

theorem Matched.replaceKey_idents (hs : Matched s) (hx : x ∈ s.subscribers)
    (hident : z.ident = x.ident) :
    (replaceKey Subscriber.ref z s.subscribers).map Subscriber.ident
      = s.subscribers.map Subscriber.ident := by
  rw [replaceKey, List.map_map]
  apply List.map_congr_left
  intro y hy
  simp only [Function.comp_apply]
  split
  · rename_i href
    have hrefs : z.ref = x.ref := congrArg Prod.fst hident
    rw [hident, hs.eq_of_ref hx hy (href.trans hrefs)]
  · rfl

/-- An object is written to, and of the timers only its own may have come or
gone. -/
theorem Matched.set (hs : Matched s) (hx : x ∈ s.subscribers) (hident : z.ident = x.ident)
    (hsubscribers : u.subscribers = replaceKey Subscriber.ref z s.subscribers)
    (hnext : u.nextRef = s.nextRef)
    (hothers : ∀ t, t.callback ≠ .subscriber x.ref →
      (t ∈ u.timers.timers ↔ t ∈ s.timers.timers))
    (howned : 0 ≤ z.timerId →
      ∃ t ∈ u.timers.timers, t.callback = .subscriber x.ref ∧ t.id = z.timerId)
    (hown : ∀ t ∈ u.timers.timers, t.callback = .subscriber x.ref →
      t.id = z.timerId ∧ t.repeatCount = 1 ∧ t.callbackCount = 0)
    (hpending : 0 ≤ z.timerId ↔ z.keyEvent.isSome) : Matched u := by
  have href : z.ref = x.ref := congrArg Prod.fst hident
  have hmem : ∀ y, y ∈ u.subscribers ↔ y = z ∨ y ∈ s.subscribers ∧ y.ref ≠ x.ref := by
    intro y
    rw [hsubscribers, mem_replaceKey, href]
    simp [List.mem_map_of_mem hx]
  refine ⟨?_, fun y hy => ?_, fun y hy htimer => ?_, fun t ht ref hcallback => ?_,
    fun t ht ref hcallback => ?_, fun y hy => ?_⟩
  · rw [hsubscribers, replaceKey_keys]
    exact hs.refs
  · rw [hnext]
    rcases (hmem y).mp hy with rfl | ⟨hy, _⟩
    · rw [href]
      exact hs.fresh x hx
    · exact hs.fresh y hy
  · rcases (hmem y).mp hy with rfl | ⟨hy, hne⟩
    · rw [href]
      exact howned htimer
    · obtain ⟨t, ht, hcallback, hid⟩ := hs.owned y hy htimer
      refine ⟨t, (hothers t ?_).mpr ht, hcallback, hid⟩
      rw [hcallback]
      simpa using hne
  · by_cases hown' : ref = x.ref
    · rw [hown'] at hcallback ⊢
      exact ⟨z, (hmem z).mpr (.inl rfl), href, (hown t ht hcallback).1.symm⟩
    · have hne : t.callback ≠ .subscriber x.ref := by
        rw [hcallback]
        simpa using hown'
      obtain ⟨y, hy, hyref, hid⟩ := hs.known t ((hothers t hne).mp ht) ref hcallback
      exact ⟨y, (hmem y).mpr (.inr ⟨hy, by rw [hyref]; exact hown'⟩), hyref, hid⟩
  · by_cases hown' : ref = x.ref
    · rw [hown'] at hcallback
      exact (hown t ht hcallback).2
    · have hne : t.callback ≠ .subscriber x.ref := by
        rw [hcallback]
        simpa using hown'
      exact hs.oneShot t ((hothers t hne).mp ht) ref hcallback
  · rcases (hmem y).mp hy with rfl | ⟨hy, _⟩
    · exact hpending
    · exact hs.pending y hy

theorem Matched.writes_set (hs : Matched s) (hx : x ∈ s.subscribers) (hident : z.ident = x.ident)
    (hsubscribers : u.subscribers = replaceKey Subscriber.ref z s.subscribers)
    (hnext : u.nextRef = s.nextRef) (hcallback : u.callbackInitialized = s.callbackInitialized)
    (hnotified : ∃ new, u.notified = s.notified ++ new ∧ ∀ n ∈ new, Notification.Of n x)
    (hmatched : Matched u) : Writes x s u where
  matched := hmatched
  frame := by
    obtain ⟨new, heq, hnew⟩ := hnotified
    refine ⟨?_, hnext, hcallback, new, heq, fun n hn => ⟨x, hx, hnew n hn⟩⟩
    rw [hsubscribers, hs.replaceKey_idents hx hident]
  others y hy hne := by
    have href : z.ref = x.ref := congrArg Prod.fst hident
    rw [hsubscribers, mem_replaceKey, href]
    exact .inr ⟨hy, hne⟩

/-! ## The operations -/

theorem notifySubscriber_writes (hs : Matched s) (hx : x ∈ s.subscribers) (keyEvent : KeyEvent) :
    Writes x s (s.notifySubscriber keyEvent x) where
  matched := ⟨hs.refs, hs.fresh, hs.owned, hs.known, hs.oneShot, hs.pending⟩
  frame := ⟨.refl _, rfl, rfl, _, rfl, fun n hn => by
    obtain rfl := List.mem_singleton.mp hn
    exact ⟨x, hx, rfl, rfl, rfl⟩⟩
  others _ hy _ := hy

/-- With distinct ids a timer is known by its id. -/
theorem timer_eq_of_id {m : TimerManager TimerOwner} {t t' : TimerItem TimerOwner}
    (ht : t ∈ m.timers) (ht' : t' ∈ m.timers) (h : t.id = t'.id) : t = t' :=
  List.inj_on_of_nodup_map m.nodup ht ht' h

theorem clearTimer_writes (hs : Matched s) (hx : x ∈ s.subscribers) :
    Writes x s (s.clearTimer x) := by
  unfold KeySubscriberHandler.clearTimer
  split
  · exact hs.writes_refl x
  · rename_i htimer
    obtain ⟨t, ht, hcallback, hid⟩ := hs.owned x hx (by omega)
    refine hs.writes_set (z := { x with keyEvent := none, timerId := -1 }) hx rfl rfl rfl rfl
      ⟨[], (List.append_nil _).symm, fun _ h => nomatch h⟩ ?_
    refine hs.set (z := { x with keyEvent := none, timerId := -1 }) hx rfl rfl rfl
      (fun t' hne => ?_) (fun h : (0 : Int) ≤ -1 => absurd h (by decide)) (fun t' ht' hown => ?_)
      (by simp)
    · show t' ∈ (s.timers.removeTimer x.timerId).2.timers ↔ _
      rw [TimerManager.removeTimer_timers, List.mem_filter, and_iff_left_iff_imp]
      intro ht'
      refine decide_eq_true fun heq => hne ?_
      rw [timer_eq_of_id ht' ht (heq.trans hid.symm), hcallback]
    · -- The timer of the subscriber is gone.
      have hmem : t' ∈ (s.timers.removeTimer x.timerId).2.timers := ht'
      rw [TimerManager.removeTimer_timers, List.mem_filter, decide_eq_true_eq] at hmem
      exact absurd (hs.timersMatch.only x hx t' hmem.1 hown) hmem.2

/-- `AddTimer` does nothing, gets no timer, or starts one. -/
theorem addTimer_cases (s : KeySubscriberHandler) (nowTime : Int) (x : Subscriber)
    (keyEvent : KeyEvent) :
    ((0 ≤ x.timerId ∨ x.keyOption.timerDuration ≤ 0) ∧ (s.addTimer nowTime x keyEvent).2 = s) ∨
    (x.timerId < 0 ∧ ¬ x.keyOption.timerDuration ≤ 0 ∧ ∃ r,
      r = s.timers.addTimer nowTime x.keyOption.timerDuration.toInt 1 (some (.subscriber x.ref)) ∧
      (r.1 < 0 ∧ (s.addTimer nowTime x keyEvent).2
          = { s with keyEvent := some (s.keyEvent.getD keyEvent.copy), timers := r.2 }.setSubscriber
              { x with timerId := r.1 } ∨
        0 ≤ r.1 ∧ (s.addTimer nowTime x keyEvent).2
          = { s with
              keyEvent := some (s.keyEvent.getD keyEvent.copy)
              timers := r.2
              hasEventExecuting := true }.setSubscriber
                { x with timerId := r.1, keyEvent := some (s.keyEvent.getD keyEvent.copy) })) := by
  unfold KeySubscriberHandler.addTimer
  split
  · rename_i htimer
    exact .inl ⟨.inl htimer, rfl⟩
  · rename_i htimer
    split
    · rename_i hduration
      exact .inl ⟨.inr hduration, rfl⟩
    · rename_i hduration
      refine .inr ⟨by omega, hduration, _, rfl, ?_⟩
      dsimp only [KeySubscriberHandler.cloneKeyEvent]
      split
      · rename_i hneg
        exact .inl ⟨hneg, rfl⟩
      · rename_i hneg
        exact .inr ⟨by omega, rfl⟩

theorem addTimer_writes (hs : Matched s) (hx : x ∈ s.subscribers) (nowTime : Int)
    (keyEvent : KeyEvent) : Writes x s (s.addTimer nowTime x keyEvent).2 := by
  obtain ⟨_, heq⟩ | ⟨htimer, _, r, hr, hcases⟩ := addTimer_cases s nowTime x keyEvent
  · rw [heq]
    exact hs.writes_refl x
  have hadd := s.timers.addTimer_cases nowTime x.keyOption.timerDuration.toInt 1
    (TimerOwner.subscriber x.ref)
  rw [← hr] at hadd
  have hnone : ¬ x.keyEvent.isSome := fun h => by
    have := (hs.pending x hx).mpr h
    omega
  have hno : ∀ t ∈ s.timers.timers, t.callback ≠ .subscriber x.ref := by
    intro t ht hown
    have hid := hs.timersMatch.only x hx t ht hown
    have hrange := (s.timers.range t ht).1
    omega
  rcases hcases with ⟨hneg, heq⟩ | ⟨hpos, heq⟩
  · obtain ⟨_, hsame⟩ | ⟨t, _, _, _, hpos, _, hid, _⟩ := hadd
    · rw [heq]
      refine hs.writes_set (z := { x with timerId := r.1 }) hx rfl rfl rfl rfl
        ⟨[], (List.append_nil _).symm, fun _ h => nomatch h⟩ ?_
      refine hs.set (z := { x with timerId := r.1 }) hx rfl rfl rfl (fun t _ => ?_)
        (fun h => absurd h (Int.not_le.mpr hneg)) (fun t ht hown => ?_) ?_
      · show t ∈ r.2.timers ↔ _
        rw [hsame]
      · have ht' : t ∈ r.2.timers := ht
        rw [hsame] at ht'
        exact absurd hown (hno t ht')
      · exact iff_of_false (Int.not_le.mpr hneg) hnone
    · omega
  · obtain ⟨hfail, _⟩ | ⟨t, hcallback, hcount, hcalled, _, _, hid, hperm⟩ := hadd
    · rw [hfail] at hpos
      exact absurd hpos (by decide)
    · rw [heq]
      refine hs.writes_set (z := { x with timerId := r.1, keyEvent := some _ }) hx rfl rfl rfl rfl
        ⟨[], (List.append_nil _).symm, fun _ h => nomatch h⟩ ?_
      refine hs.set (z := { x with timerId := r.1, keyEvent := some _ }) hx rfl rfl rfl
        (fun t' hne => ?_) (fun _ => ⟨t, ?_, hcallback, hid.symm⟩) (fun t' ht' hown => ?_) ?_
      · show t' ∈ r.2.timers ↔ _
        rw [hperm.mem_iff, List.mem_cons, or_iff_right_iff_imp]
        rintro rfl
        exact absurd hcallback hne
      · exact hperm.mem_iff.mpr List.mem_cons_self
      · rcases List.mem_cons.mp (hperm.mem_iff.mp ht') with rfl | ht'
        · exact ⟨hid.symm, hcount, hcalled⟩
        · exact absurd hown (hno t' ht')
      · exact iff_of_true hpos rfl

/-- The timers of other components do not matter. -/
theorem Matched.of_timers (hs : Matched s) (hsubscribers : s'.subscribers = s.subscribers)
    (hnext : s'.nextRef = s.nextRef)
    (hsame : ∀ t ref, t.callback = .subscriber ref →
      (t ∈ s'.timers.timers ↔ t ∈ s.timers.timers)) : Matched s' := by
  refine ⟨?_, fun x hx => ?_, fun x hx htimer => ?_, fun t ht ref hcallback => ?_,
    fun t ht ref hcallback => ?_, fun x hx => ?_⟩
  · rw [hsubscribers]
    exact hs.refs
  · rw [hsubscribers] at hx
    rw [hnext]
    exact hs.fresh x hx
  · rw [hsubscribers] at hx
    obtain ⟨t, ht, hcallback, hid⟩ := hs.owned x hx htimer
    exact ⟨t, (hsame t x.ref hcallback).mpr ht, hcallback, hid⟩
  · rw [hsubscribers]
    exact hs.known t ((hsame t ref hcallback).mp ht) ref hcallback
  · exact hs.oneShot t ((hsame t ref hcallback).mp ht) ref hcallback
  · rw [hsubscribers] at hx
    exact hs.pending x hx

/-- A timer may also be set anew. -/
theorem Matched.of_reset (hs : Matched s) {timers : TimerManager TimerOwner}
    {t : TimerItem TimerOwner} {nextCallTime : Int} (ht : t ∈ s.timers.timers)
    (hperm : timers.timers.Perm ({ t with nextCallTime, callbackCount := 0 } ::
      s.timers.timers.filter fun t' => t'.id ≠ t.id)) : Matched { s with timers } := by
  -- Each timer was there, or is the one that was set anew.
  have hback : ∀ t' ∈ timers.timers, ∃ before ∈ s.timers.timers, SameTimer before t' ∧
      (t'.callbackCount = before.callbackCount ∨ t'.callbackCount = 0) := by
    intro t' ht'
    rcases List.mem_cons.mp (hperm.mem_iff.mp ht') with rfl | hother
    · exact ⟨t, ht, ⟨rfl, rfl, rfl, rfl⟩, .inr rfl⟩
    · exact ⟨t', List.mem_of_mem_filter hother, ⟨rfl, rfl, rfl, rfl⟩, .inl rfl⟩
  refine ⟨hs.refs, hs.fresh, fun x hx htimer => ?_, fun t' ht' ref hcallback => ?_,
    fun t' ht' ref hcallback => ?_, hs.pending⟩
  · obtain ⟨before, hbefore, hcallback, hid⟩ := hs.owned x hx htimer
    by_cases hsame : before.id = t.id
    · obtain rfl := s.timers.eq_of_id hbefore ht hsame
      exact ⟨_, hperm.mem_iff.mpr List.mem_cons_self, hcallback, hid⟩
    · exact ⟨before, hperm.mem_iff.mpr (List.mem_cons_of_mem _
        (List.mem_filter.mpr ⟨hbefore, decide_eq_true hsame⟩)), hcallback, hid⟩
  · obtain ⟨before, hbefore, ⟨hid, _, _, hown⟩, _⟩ := hback t' ht'
    obtain ⟨x, hx, href, htimer⟩ := hs.known before hbefore ref (hown.symm.trans hcallback)
    exact ⟨x, hx, href, htimer.trans hid.symm⟩
  · obtain ⟨before, hbefore, ⟨_, _, hrepeat, hown⟩, hcount⟩ := hback t' ht'
    obtain ⟨hone, hzero⟩ := hs.oneShot before hbefore ref (hown.symm.trans hcallback)
    exact ⟨hrepeat.trans hone, hcount.elim (fun h => h.trans hzero) id⟩

theorem find_ref (hs : Matched s) (hx : x ∈ s.subscribers) :
    s.subscribers.find? (fun subscriber => subscriber.ref = x.ref) = some x := by
  cases hfind : s.subscribers.find? fun subscriber => subscriber.ref = x.ref with
  | none => exact absurd (decide_eq_true rfl) (List.find?_eq_none.mp hfind x hx)
  | some y =>
    have hy := List.mem_of_find?_eq_some hfind
    rw [hs.eq_of_ref hx hy (by simpa using List.find?_some hfind)]

/-- A round of `ProcessTimers` does nothing for the subscribers, or the first
timer is one of theirs, is due, and its subscriber is notified of the event
that was kept. -/
theorem processNext_cases (hs : Matched s) (nowTime : Int) :
    ((∀ t ∈ s.timers.timers.head?, t.nextCallTime ≤ nowTime →
        ∀ ref, t.callback ≠ .subscriber ref) ∧
      s.processNext nowTime = { s with timers := (s.timers.processNext nowTime).2 } ∧
      ∀ t ref, t.callback = .subscriber ref →
        (t ∈ (s.timers.processNext nowTime).2.timers ↔ t ∈ s.timers.timers)) ∨
    ∃ t rest x keyEvent, s.timers.timers = t :: rest ∧ t.nextCallTime ≤ nowTime ∧
      t.callback = .subscriber x.ref ∧ x ∈ s.subscribers ∧ x.keyEvent = some keyEvent ∧
      (s.timers.processNext nowTime).2.timers = rest ∧
      s.processNext nowTime = ({ s with
        timers := (s.timers.processNext nowTime).2 }.notifySubscriber keyEvent
          { x with timerId := -1 }).setSubscriber { x with timerId := -1, keyEvent := none } := by
  obtain ⟨hdue, hidle⟩ | ⟨t, rest, htimers, hdue, hcases⟩ := s.timers.processNext_cases nowTime
  · refine .inl ⟨fun t ht hle => ?_, ?_, fun t ref _ => by rw [hidle]⟩
    · have := hdue t ht
      omega
    · simp only [KeySubscriberHandler.processNext, hidle]
  · have hmem : t ∈ s.timers.timers := by
      rw [htimers]
      exact List.mem_cons_self
    cases hcallback : t.callback with
    | subscriber ref =>
      obtain ⟨hrepeat, hcalled⟩ := hs.oneShot t hmem ref hcallback
      obtain ⟨x, hx, rfl, hid⟩ := hs.known t hmem ref hcallback
      have hsome : x.keyEvent.isSome := by
        rw [← hs.pending x hx, hid]
        exact (s.timers.range t hmem).1
      obtain ⟨keyEvent, hkeyEvent⟩ := Option.isSome_iff_exists.mp hsome
      have hdone : 1 ≤ t.repeatCount ∧ t.repeatCount ≤ t.callbackCount + 1 := by omega
      rcases hcases with ⟨_, _, hfired, hrest⟩ | ⟨hmore, _⟩ | ⟨hmore, _⟩
      · refine .inr ⟨t, rest, x, keyEvent, htimers, hdue, hcallback, hx, hkeyEvent, hrest, ?_⟩
        simp only [KeySubscriberHandler.processNext, hfired, hcallback, find_ref hs hx,
          KeySubscriberHandler.onTimer, hkeyEvent]
      · exact absurd hdone hmore
      · exact absurd hdone hmore
    | other component =>
      have hother : ∀ t' ref, t'.callback = TimerOwner.subscriber ref → t' ≠ t := by
        rintro t' ref hown rfl
        rw [hcallback] at hown
        cases hown
      have hrest : ∀ t' ref, t'.callback = TimerOwner.subscriber ref →
          (t' ∈ rest ↔ t' ∈ s.timers.timers) := by
        intro t' ref hown
        rw [htimers, List.mem_cons, or_iff_right (hother t' ref hown)]
      refine .inl ⟨fun t' ht' _ ref => ?_, ?_, fun t' ref hown => ?_⟩
      · rw [htimers] at ht'
        cases ht'
        rw [hcallback]
        simp
      · rcases hcases with ⟨_, _, hfired, _⟩ | ⟨_, hfired, _⟩ | ⟨_, hfired, _⟩
        · simp only [KeySubscriberHandler.processNext, hfired, hcallback]
        · simp only [KeySubscriberHandler.processNext, hfired]
        · simp only [KeySubscriberHandler.processNext, hfired, hcallback]
      · rcases hcases with ⟨_, _, _, heq⟩ | ⟨_, _, heq⟩ | ⟨_, _, _, hperm⟩
        · rw [heq]
          exact hrest t' ref hown
        · rw [heq]
          exact hrest t' ref hown
        · rw [hperm.mem_iff, List.mem_cons, or_iff_right]
          · exact hrest t' ref hown
          · rintro rfl
            rw [hcallback] at hown
            cases hown

theorem processNext_matched (hs : Matched s) (nowTime : Int) :
    Matched (s.processNext nowTime) ∧ Frame s (s.processNext nowTime) := by
  obtain ⟨_, heq, hsame⟩ | ⟨t, rest, x, keyEvent, htimers, _, hcallback, hx, _, hrest, heq⟩ :=
    processNext_cases hs nowTime
  · rw [heq]
    exact ⟨hs.of_timers rfl rfl hsame, .refl _, rfl, rfl, [], (List.append_nil _).symm,
      fun _ h => nomatch h⟩
  · rw [heq]
    have hids := s.timers.nodup
    rw [htimers, List.map_cons, List.nodup_cons] at hids
    have hmem : t ∈ s.timers.timers := by
      rw [htimers]
      exact List.mem_cons_self
    -- The timer was the only one of the subscriber.
    have hgone : ∀ t' ∈ rest, t'.callback ≠ .subscriber x.ref := by
      intro t' ht' hown
      have hmem' : t' ∈ s.timers.timers := by
        rw [htimers]
        exact List.mem_cons_of_mem _ ht'
      have hid := hs.timersMatch.only x hx t' hmem' hown
      rw [← hs.timersMatch.only x hx t hmem hcallback] at hid
      exact hids.1 (hid ▸ List.mem_map_of_mem ht')
    have hwrites := hs.writes_set (u := ({ s with
        timers := (s.timers.processNext nowTime).2 }.notifySubscriber keyEvent
          { x with timerId := -1 }).setSubscriber { x with timerId := -1, keyEvent := none })
      (z := { x with timerId := -1, keyEvent := none }) hx rfl rfl rfl rfl
      ⟨_, rfl, fun n hn => by
        obtain rfl := List.mem_singleton.mp hn
        exact ⟨rfl, rfl, rfl⟩⟩
      (hs.set (z := { x with timerId := -1, keyEvent := none }) hx rfl rfl rfl
        (fun t' hne => by
          show t' ∈ (s.timers.processNext nowTime).2.timers ↔ _
          rw [hrest, htimers, List.mem_cons, or_iff_right]
          rintro rfl
          exact hne hcallback)
        (fun h : (0 : Int) ≤ -1 => absurd h (by decide))
        (fun t' ht' hown => by
          have ht' : t' ∈ (s.timers.processNext nowTime).2.timers := ht'
          rw [hrest] at ht'
          exact absurd hown (hgone t' ht'))
        (by simp))
    exact ⟨hwrites.matched, hwrites.frame⟩

/-- The object that was written to knows no timer now. -/
theorem clearTimer_timerId (hs : Matched s) (hx : x ∈ s.subscribers) {y : Subscriber}
    (hy : y ∈ (s.clearTimer x).subscribers) (href : y.ref = x.ref) : y.timerId < 0 := by
  revert hy
  unfold KeySubscriberHandler.clearTimer
  split
  · rename_i htimer
    intro hy
    rw [hs.eq_of_ref hx hy href]
    exact htimer
  · intro hy
    rcases mem_replaceKey.mp hy with ⟨rfl, _⟩ | ⟨_, hne⟩
    · show (-1 : Int) < 0
      decide
    · exact absurd href hne

theorem removeSubscriber_writes (hs : Matched s) (hx : x ∈ s.subscribers) :
    Writes x s (s.removeSubscriber x) ∧
      x.ref ∉ (s.removeSubscriber x).subscribers.map Subscriber.ref := by
  have hclear := clearTimer_writes hs hx
  have hsubscribers : (s.removeSubscriber x).subscribers
      = (s.clearTimer x).subscribers.filter fun y => y.ref ≠ x.ref :=
    eraseP_eq_filter_key hclear.matched.refs x.ref
  have hmem : ∀ y, y ∈ (s.removeSubscriber x).subscribers ↔
      y ∈ (s.clearTimer x).subscribers ∧ y.ref ≠ x.ref := by
    intro y
    rw [hsubscribers, List.mem_filter, decide_eq_true_eq]
  have hsublist : (s.removeSubscriber x).subscribers.Sublist (s.clearTimer x).subscribers := by
    rw [hsubscribers]
    exact List.filter_sublist
  refine ⟨⟨⟨?_, fun y hy => ?_, fun y hy => ?_, fun t ht ref hcallback => ?_,
    hclear.matched.oneShot, fun y hy => ?_⟩, hclear.frame.trans ?_, fun y hy hne => ?_⟩, fun h => ?_⟩
  · exact hclear.matched.refs.sublist (hsublist.map _)
  · exact hclear.matched.fresh y ((hmem y).mp hy).1
  · exact hclear.matched.owned y ((hmem y).mp hy).1
  · -- No timer of the subscriber is left.
    obtain ⟨y, hy, href, hid⟩ := hclear.matched.known t ht ref hcallback
    refine ⟨y, (hmem y).mpr ⟨hy, fun heq => ?_⟩, href, hid⟩
    have hneg := clearTimer_timerId hs hx hy heq
    rw [hid] at hneg
    exact absurd ((s.clearTimer x).timers.range t ht).1 (Int.not_le.mpr hneg)
  · exact hclear.matched.pending y ((hmem y).mp hy).1
  · exact ⟨hsublist.map _, rfl, rfl, [], (List.append_nil _).symm, fun _ h => nomatch h⟩
  · exact (hmem y).mpr ⟨hclear.others y hy hne, hne⟩
  · obtain ⟨y, hy, href⟩ := List.mem_map.mp h
    exact ((hmem y).mp hy).2 href

theorem handleKeyUpWithDelay_writes (hs : Matched s) (hx : x ∈ s.subscribers) (nowTime : Int)
    (keyEvent : KeyEvent) : Writes x s (s.handleKeyUpWithDelay nowTime keyEvent x) := by
  unfold KeySubscriberHandler.handleKeyUpWithDelay
  split
  · exact notifySubscriber_writes hs hx keyEvent
  · exact addTimer_writes hs hx nowTime keyEvent

theorem keyDown_writes (hs : Matched s) (hx : x ∈ s.subscribers) {nowTime : Int}
    {keyEvent : KeyEvent} {pressedKeys : List Int32} {r : Bool × KeySubscriberHandler}
    (h : KeySubscriberHandler.keyDown nowTime keyEvent pressedKeys s x = some r) :
    Writes x s r.2 := by
  unfold KeySubscriberHandler.keyDown at h
  dsimp only at h
  split at h
  · cases h
    exact hs.writes_refl x
  · split at h
    · cases h
      exact clearTimer_writes hs hx
    · split at h
      · cases h
        exact clearTimer_writes hs hx
      · split at h
        · cases h
          exact notifySubscriber_writes hs hx keyEvent
        · cases h
          exact addTimer_writes hs hx nowTime keyEvent

theorem keyUp_writes (hs : Matched s) (hx : x ∈ s.subscribers) {nowTime : Int}
    {keyEvent : KeyEvent} {pressedKeys : List Int32} {r : Bool × KeySubscriberHandler}
    (h : KeySubscriberHandler.keyUp nowTime keyEvent pressedKeys s x = some r) :
    Writes x s r.2 := by
  have hdelay := handleKeyUpWithDelay_writes hs hx nowTime keyEvent
  unfold KeySubscriberHandler.keyUp at h
  dsimp only at h
  split at h
  · cases h
    exact clearTimer_writes hs hx
  · split at h
    · cases h
      exact hs.writes_refl x
    · split at h
      · cases h
        exact hs.writes_refl x
      · split at h
        · cases h
          exact hs.writes_refl x
        · split at h
          · cases h
            exact hdelay
          · split at h
            · cases h
            · split at h
              · cases h
                exact hs.writes_refl x
              · cases h
                exact hdelay

/-! ## The loops -/

/-- A loop whose body writes to the subscriber it is at. -/
theorem forSubscribers_matched
    {body : KeySubscriberHandler → Subscriber → Option (Bool × KeySubscriberHandler)}
    (hbody : ∀ {s : KeySubscriberHandler} {x : Subscriber}, Matched s → x ∈ s.subscribers →
      ∀ r, body s x = some r → Writes x s r.2) (xs : List Subscriber) (handled : Bool)
    (hs : Matched s) (hxs : ∀ x ∈ xs, x ∈ s.subscribers) (hrefs : (xs.map Subscriber.ref).Nodup) :
    Matched (KeySubscriberHandler.forSubscribers body handled xs s).2 ∧
      Frame s (KeySubscriberHandler.forSubscribers body handled xs s).2 := by
  induction xs generalizing s handled with
  | nil => exact ⟨hs, .refl s⟩
  | cons x xs ih =>
    have hx := hxs x List.mem_cons_self
    simp only [KeySubscriberHandler.forSubscribers]
    cases hr : body s x with
    | none => exact ⟨hs, .refl s⟩
    | some r =>
      have hwrites := hbody hs hx r hr
      obtain ⟨hnotin, hrest⟩ := List.nodup_cons.mp hrefs
      obtain ⟨hmatched, hframe⟩ := ih (handled || r.1) hwrites.matched
        (fun y hy => hwrites.others y (hxs y (List.mem_cons_of_mem _ hy)) fun heq =>
          hnotin (heq ▸ List.mem_map_of_mem hy)) hrest
      exact ⟨hmatched, hwrites.frame.trans hframe⟩

theorem forEach_matched {body : KeySubscriberHandler → Subscriber → KeySubscriberHandler}
    (hbody : ∀ {s : KeySubscriberHandler} {x : Subscriber}, Matched s → x ∈ s.subscribers →
      Writes x s (body s x)) (hs : Matched s) : Matched (s.forEach body) ∧ Frame s (s.forEach body) := by
  refine forSubscribers_matched (fun hs hx r hr => ?_) s.subscribers false hs (fun _ hx => hx) hs.refs
  cases hr
  exact hbody hs hx

theorem onSubscribeKeyEvent_matched (hs : Matched s) (nowTime : Int) (keyEvent : KeyEvent) :
    Matched (s.onSubscribeKeyEvent nowTime keyEvent).2 ∧
      Frame s (s.onSubscribeKeyEvent nowTime keyEvent).2 := by
  have hkept : ∀ hasEventExecuting : Bool, Matched { s with
      keyEvent := some keyEvent.copy, hasEventExecuting := hasEventExecuting } := fun _ =>
    ⟨hs.refs, hs.fresh, hs.owned, hs.known, hs.oneShot, hs.pending⟩
  have hframe : ∀ (hasEventExecuting : Bool) {s' : KeySubscriberHandler}, Frame { s with
      keyEvent := some keyEvent.copy, hasEventExecuting := hasEventExecuting } s' → Frame s s' :=
    fun _ _ h => ⟨h.idents, h.nextRef, h.callbackInitialized, h.notified⟩
  unfold KeySubscriberHandler.onSubscribeKeyEvent
  split
  · exact ⟨hs, .refl s⟩
  · dsimp only
    split
    · obtain ⟨hmatched, h⟩ := forSubscribers_matched (fun hs hx r hr => keyDown_writes hs hx hr)
        s.subscribers false (hkept s.hasEventExecuting) (fun _ hx => hx) hs.refs
      exact ⟨hmatched, hframe _ h⟩
    · split
      · obtain ⟨hmatched, h⟩ := forSubscribers_matched (fun hs hx r hr => keyUp_writes hs hx hr)
          s.subscribers false (hkept false) (fun _ hx => hx) hs.refs
        exact ⟨hmatched, hframe _ h⟩
      · split
        · obtain ⟨hmatched, h⟩ := forEach_matched (fun hs hx => clearTimer_writes hs hx) (hkept false)
          exact ⟨hmatched, hframe _ h⟩
        · exact ⟨hkept s.hasEventExecuting, hframe _ (.refl _)⟩

/-! ## Subscriptions -/

theorem deleteBody_writes (sess : Session) (hs : Matched s) (hx : x ∈ s.subscribers) :
    Writes x s (if x.sess = sess then s.removeSubscriber x else s) := by
  split
  · exact (removeSubscriber_writes hs hx).1
  · exact hs.writes_refl x

/-- No subscription of the session is left. -/
theorem onSessionDelete_gone (hs : Matched s) (sess : Session) :
    ∀ y ∈ (s.onSessionDelete sess).subscribers, y.sess ≠ sess := by
  have hbody : ∀ {s : KeySubscriberHandler} {x : Subscriber}, Matched s → x ∈ s.subscribers →
      ∀ r, some (false, if x.sess = sess then s.removeSubscriber x else s) = some r →
        Writes x s r.2 := by
    intro s x hs hx r hr
    cases hr
    exact deleteBody_writes sess hs hx
  have hloop : ∀ (xs : List Subscriber) (handled : Bool) {s : KeySubscriberHandler}, Matched s →
      (∀ x ∈ xs, x ∈ s.subscribers) → (xs.map Subscriber.ref).Nodup →
      ∀ x ∈ xs, x.sess = sess →
        x.ref ∉ (KeySubscriberHandler.forSubscribers (fun s subscriber => some (false,
          if subscriber.sess = sess then s.removeSubscriber subscriber else s)) handled xs
            s).2.subscribers.map Subscriber.ref := by
    intro xs
    induction xs with
    | nil =>
      intro _ _ _ _ _ x hx
      cases hx
    | cons x xs ih =>
      intro handled s hs hxs hrefs y hy hsess
      have hx := hxs x List.mem_cons_self
      have hwrites := deleteBody_writes sess hs hx
      obtain ⟨hnotin, hrest⟩ := List.nodup_cons.mp hrefs
      have hxs' : ∀ z ∈ xs, z ∈ (if x.sess = sess then s.removeSubscriber x
          else s).subscribers := fun z hz =>
        hwrites.others z (hxs z (List.mem_cons_of_mem _ hz)) fun heq =>
          hnotin (heq ▸ List.mem_map_of_mem hz)
      simp only [KeySubscriberHandler.forSubscribers]
      rcases List.mem_cons.mp hy with rfl | hy
      · -- It is removed here, and nobody brings it back.
        have hframe := (forSubscribers_matched hbody xs (handled || false) hwrites.matched hxs'
          hrest).2
        intro hmem
        have hgone := (removeSubscriber_writes hs hx).2
        have hback := hframe.refs hmem
        rw [if_pos hsess] at hback
        exact hgone hback
      · exact ih (handled || false) hwrites.matched hxs' hrest y hy hsess
  intro y hy hsess
  have hframe := (forEach_matched (fun hs hx => deleteBody_writes sess hs hx) hs).2
  obtain ⟨x, hx, hident⟩ := hframe.before hy
  simp only [Subscriber.ident, Prod.mk.injEq] at hident
  refine hloop s.subscribers false hs (fun _ h => h) hs.refs x hx (hident.2.1.trans hsess) ?_
  rw [hident.1]
  exact List.mem_map_of_mem hy

/-- A new object is put into the list, or was not needed. -/
theorem subscribeKeyEvent_cases (s : KeySubscriberHandler) (sess : Session) (subscribeId : Int32)
    (keyOption : KeyOption) :
    (s.subscribeKeyEvent sess subscribeId keyOption).2 = s ∨
    (s.subscribeKeyEvent sess subscribeId keyOption).2
      = { s with nextRef := s.nextRef + 1, callbackInitialized := true } ∨
    (s.subscribeKeyEvent sess subscribeId keyOption).2
      = { s with
          subscribers := s.subscribers ++ [{ ref := s.nextRef, id := subscribeId, sess, keyOption }]
          nextRef := s.nextRef + 1
          callbackInitialized := true } := by
  unfold KeySubscriberHandler.subscribeKeyEvent
  split
  · exact .inl rfl
  · split
    · exact .inl rfl
    · dsimp only [KeySubscriberHandler.insertSubscriber]
      split
      · exact .inr (.inl rfl)
      · exact .inr (.inr rfl)

theorem subscribeKeyEvent_matched (hs : Matched s) (sess : Session) (subscribeId : Int32)
    (keyOption : KeyOption) : Matched (s.subscribeKeyEvent sess subscribeId keyOption).2 := by
  rcases subscribeKeyEvent_cases s sess subscribeId keyOption with heq | heq | heq
  · rw [heq]
    exact hs
  · rw [heq]
    exact ⟨hs.refs, fun x hx => Nat.lt_succ_of_lt (hs.fresh x hx), hs.owned, hs.known, hs.oneShot,
      hs.pending⟩
  · rw [heq]
    refine ⟨?_, fun x hx => ?_, fun x hx htimer => ?_, fun t ht ref hcallback => ?_, hs.oneShot,
      fun x hx => ?_⟩
    · rw [List.map_append, List.nodup_append']
      refine ⟨hs.refs, List.nodup_singleton _, fun ref href hnew => ?_⟩
      obtain ⟨x, hx, rfl⟩ := List.mem_map.mp href
      have hlt := hs.fresh x hx
      have heq : x.ref = s.nextRef := List.mem_singleton.mp hnew
      omega
    · rcases List.mem_append.mp hx with hx | hx
      · exact Nat.lt_succ_of_lt (hs.fresh x hx)
      · obtain rfl := List.mem_singleton.mp hx
        exact Nat.lt_succ_self _
    · rcases List.mem_append.mp hx with hx | hx
      · exact hs.owned x hx htimer
      · obtain rfl := List.mem_singleton.mp hx
        exact absurd htimer (by simp)
    · obtain ⟨x, hx, href, hid⟩ := hs.known t ht ref hcallback
      exact ⟨x, List.mem_append_left _ hx, href, hid⟩
    · rcases List.mem_append.mp hx with hx | hx
      · exact hs.pending x hx
      · obtain rfl := List.mem_singleton.mp hx
        simp

theorem unsubscribeKeyEvent_matched (hs : Matched s) (sess : Session) (subscribeId : Int32) :
    Matched (s.unsubscribeKeyEvent sess subscribeId).2 ∧
      Frame s (s.unsubscribeKeyEvent sess subscribeId).2 := by
  unfold KeySubscriberHandler.unsubscribeKeyEvent
  split
  · rename_i subscriber hfind
    have hwrites := (removeSubscriber_writes hs (List.mem_of_find?_eq_some hfind)).1
    exact ⟨hwrites.matched, hwrites.frame⟩
  · exact ⟨hs, .refl s⟩

/-! ## One step -/

/-- The invariant of a run: a session that a subscription or the server knows
was not lost, and what was removed does not come back. -/
structure Live (s : SubscriberService) : Prop where
  matched : Matched s.handler
  sessions : ∀ x ∈ s.handler.subscribers, x.sess ∉ s.lost
  mapped : ∀ fd ses, s.server.getSession fd = some ses → ses ∉ s.lost
  removed : ∀ ref ∈ s.removed,
    ref < s.handler.nextRef ∧ ref ∉ s.handler.subscribers.map Subscriber.ref
  /-- The server tells the handler of lost sessions from the first
  subscription on. -/
  callback : s.handler.subscribers ≠ [] → s.handler.callbackInitialized = true

theorem create_live : Live .create where
  matched := create_matched
  sessions _ h := nomatch h
  mapped _ _ h := nomatch h
  removed _ h := nomatch h
  callback h := absurd rfl h

variable {v : SubscriberService} {i : SubscriberInput}

theorem getSessionByPid_some {server : UDSServer} {pid : Int} {sess : Session}
    (h : server.getSessionByPid pid = some sess) : ∃ fd, server.getSession fd = some sess := by
  unfold UDSServer.getSessionByPid at h
  dsimp only at h
  split at h
  · cases h
  · exact ⟨_, h⟩

/-- What a step does to the handler: subscriptions are lost, or one is new and
nobody is notified. -/
inductive Handles (v : SubscriberService) (s' : KeySubscriberHandler) : Prop where
  | frame (matched : Matched s') (frame : Frame v.handler s')
  | subscribes (matched : Matched s') (nextRef : s'.nextRef = v.handler.nextRef + 1)
      (notified : s'.notified = v.handler.notified) (callback : s'.callbackInitialized = true)
      (subscribers : ∀ y ∈ s'.subscribers, y ∈ v.handler.subscribers ∨
        y.ref = v.handler.nextRef ∧ ∃ fd, v.server.getSession fd = some y.sess)

/-- Only timers of other components come and go. -/
theorem handles_of_touches (hv : Live v) {timers : TimerManager TimerOwner}
    (htouches : Touches TimerOwner.isOther v.handler.timers timers) :
    Handles v { v.handler with timers } := by
  refine .frame (hv.matched.of_timers rfl rfl fun t ref hcallback => htouches.mem_iff ?_)
    ⟨.refl _, rfl, rfl, [], (List.append_nil _).symm, fun _ h => nomatch h⟩
  rw [hcallback]
  rfl

theorem otherReset_handles (hv : Live v) {nowTime timerId : Int}
    (hspares : SparesSubscribers v (.otherReset nowTime timerId)) :
    Handles v (v.handlerStep (.otherReset nowTime timerId)) := by
  by_cases howns : v.handler.timers.Owns TimerOwner.isOther timerId
  · exact handles_of_touches hv (Touches.resetTimer nowTime howns)
  · obtain ⟨hnone, _⟩ | ⟨t, ht, rfl, ⟨hover, _⟩ | ⟨_, nextCallTime, hperm⟩⟩ :=
      v.handler.timers.resetTimer_cases nowTime timerId
    · exact absurd (fun t ht hid => absurd hid (hnone t ht)) howns
    · -- A timer that is lost so is none of a subscriber.
      refine absurd (fun t' ht' hid' => ?_) howns
      rw [v.handler.timers.eq_of_id ht' ht hid']
      refine (hspares t ht rfl).resolve_right ?_
      rw [hover]
      exact Bool.false_ne_true
    · exact .frame (hv.matched.of_reset ht hperm)
        ⟨.refl _, rfl, rfl, [], (List.append_nil _).symm, fun _ h => nomatch h⟩

theorem handlerStep_handles (hv : Live v) (hspares : SparesSubscribers v i) :
    Handles v (v.handlerStep i) := by
  have hs := hv.matched
  cases i with
  | addSession ses => exact .frame hs (.refl _)
  | delSession fd =>
    simp only [SubscriberService.handlerStep]
    split
    · rename_i ses _
      split
      · obtain ⟨hmatched, hframe⟩ := forEach_matched (fun hs hx => deleteBody_writes ses hs hx) hs
        exact .frame hmatched hframe
      · exact .frame hs (.refl _)
    · exact .frame hs (.refl _)
  | onSubscribeKeyEvent pid subscribeId keyOption =>
    simp only [SubscriberService.handlerStep]
    split
    · rename_i sess hsess
      have hmatched := subscribeKeyEvent_matched hs sess subscribeId keyOption
      rcases subscribeKeyEvent_cases v.handler sess subscribeId keyOption with heq | heq | heq
      · rw [heq]
        exact .frame hs (.refl _)
      · rw [heq] at hmatched ⊢
        exact .subscribes hmatched rfl rfl rfl fun y hy => .inl hy
      · rw [heq] at hmatched ⊢
        refine .subscribes hmatched rfl rfl rfl fun y hy => ?_
        rcases List.mem_append.mp hy with hy | hy
        · exact .inl hy
        · obtain rfl := List.mem_singleton.mp hy
          exact .inr ⟨rfl, getSessionByPid_some hsess⟩
    · exact .frame hs (.refl _)
  | onUnsubscribeKeyEvent pid subscribeId =>
    simp only [SubscriberService.handlerStep]
    split
    · obtain ⟨hmatched, hframe⟩ := unsubscribeKeyEvent_matched hs _ subscribeId
      exact .frame hmatched hframe
    · exact .frame hs (.refl _)
  | keyEvent nowTime keyEvent =>
    obtain ⟨hmatched, hframe⟩ := onSubscribeKeyEvent_matched hs nowTime keyEvent
    exact .frame hmatched hframe
  | removeSubscriberKeyUpTimer keyCode =>
    obtain ⟨hmatched, hframe⟩ := forEach_matched (fun {s x} hs hx => by
      show Writes x s (if 0 ≤ x.timerId ∧ x.keyOption.finalKey = keyCode then s.clearTimer x else s)
      split
      · exact clearTimer_writes hs hx
      · exact hs.writes_refl x) hs
    exact .frame hmatched hframe
  | processNext nowTime =>
    obtain ⟨hmatched, hframe⟩ := processNext_matched hs nowTime
    exact .frame hmatched hframe
  | otherAdd component nowTime intervalMs repeatCount =>
    exact handles_of_touches hv (Touches.addTimer _ nowTime intervalMs repeatCount rfl)
  | otherRemove timerId => exact handles_of_touches hv (Touches.removeTimer hspares)
  | otherReset nowTime timerId => exact otherReset_handles hv hspares

/-- The new notifications are of subscriptions there were. -/
theorem notifiedIn_of (h : Handles v (v.handlerStep i)) :
    ∀ n ∈ notifiedIn v i, ∃ x ∈ v.handler.subscribers, Notification.Of n x := by
  intro n hn
  have hdrop : n ∈ (v.handlerStep i).notified.drop v.handler.notified.length := hn
  cases h with
  | frame _ hframe =>
    obtain ⟨new, heq, hnew⟩ := hframe.notified
    rw [heq, List.drop_left] at hdrop
    exact hnew n hdrop
  | subscribes _ _ hnotified _ _ =>
    rw [hnotified, List.drop_length] at hdrop
    cases hdrop

theorem Live.notifiesRegistered (hv : Live v) (hspares : SparesSubscribers v i) :
    NotifiesRegistered v i := by
  intro n hn
  obtain ⟨x, hx, href, hsess, hid⟩ := notifiedIn_of (handlerStep_handles hv hspares) n hn
  refine ⟨⟨x, hx, href, hsess, hid⟩, fun hremoved => ?_, ?_⟩
  · exact (hv.removed _ hremoved).2 (href ▸ List.mem_map_of_mem hx)
  · rw [← hsess]
    exact hv.sessions x hx

/-- The sessions of what is registered after a step were not lost in it. -/
theorem lostAfter_not_mem (hv : Live v) (hspares : SparesSubscribers v i) {y : Subscriber}
    (hy : y ∈ (v.handlerStep i).subscribers) : y.sess ∉ v.lostAfter i := by
  have hbefore : y.sess ∉ v.lost := by
    cases handlerStep_handles hv hspares with
    | frame _ hframe =>
      obtain ⟨x, hx, hident⟩ := hframe.before hy
      simp only [Subscriber.ident, Prod.mk.injEq] at hident
      rw [← hident.2.1]
      exact hv.sessions x hx
    | subscribes _ _ _ _ hsubscribers =>
      rcases hsubscribers y hy with hy | ⟨_, fd, hsession⟩
      · exact hv.sessions y hy
      · exact hv.mapped fd y.sess hsession
  cases i with
  | addSession ses =>
    simp only [SubscriberService.lostAfter]
    split
    · exact fun h => hbefore (List.mem_of_mem_filter h)
    · exact hbefore
  | delSession fd =>
    simp only [SubscriberService.lostAfter]
    split
    · rename_i ses hsession
      rw [List.mem_cons, not_or]
      refine ⟨fun heq => ?_, hbefore⟩
      simp only [SubscriberService.handlerStep, hsession] at hy
      split at hy
      · exact onSessionDelete_gone hv.matched ses y hy heq
      · rename_i hnot
        exact hnot (hv.callback (List.ne_nil_of_mem hy))
    · exact hbefore
  | _ => exact hbefore

theorem step_mapped (hv : Live v) (i : SubscriberInput) {fd : Int} {ses : Session}
    (h : (v.step i).server.getSession fd = some ses) : ses ∉ (v.step i).lost := by
  have hfiled := (v.step i).server.filed fd ses h
  cases i with
  | addSession new =>
    show ses ∉ v.lostAfter (.addSession new)
    simp only [SubscriberService.lostAfter]
    by_cases haccepted : new.fd < 0 ∨ new.pid ≤ 0
    · have hrefused := v.server.addSession_refused haccepted
      rw [hrefused]
      have hsame : v.server.getSession fd = some ses := by
        rw [← show (v.server.addSession new).2 = v.server by rw [hrefused]]
        exact h
      exact hv.mapped fd ses hsame
    · have hfd : 0 ≤ new.fd := by omega
      have hpid : 0 < new.pid := by omega
      obtain ⟨htrue, hmap, _⟩ := v.server.addSession_accepted hfd hpid
      rw [if_pos htrue, List.mem_filter, decide_eq_true_eq, not_and]
      intro hlost hne
      have hfound : (v.server.addSession new).2.sessionsMap fd = some ses := h
      rw [hmap] at hfound
      by_cases hfd : fd = new.fd
      · rw [hfd, Function.update_self] at hfound
        exact hne (Option.some.inj hfound).symm
      · rw [Function.update_of_ne hfd] at hfound
        exact hv.mapped fd ses hfound hlost
  | delSession gone =>
    show ses ∉ v.lostAfter (.delSession gone)
    simp only [SubscriberService.lostAfter]
    have hfound : (v.server.delSession gone).getSession fd = some ses := h
    cases hsession : v.server.getSession gone with
    | none =>
      rw [v.server.delSession_of_none hsession] at hfound
      exact hv.mapped fd ses hfound
    | some old =>
      have hmap := (v.server.delSession_of_some hsession).1
      rw [UDSServer.getSession, hmap] at hfound
      by_cases hfd : fd = gone
      · rw [hfd, Function.update_self] at hfound
        cases hfound
      · rw [Function.update_of_ne hfd] at hfound
        rw [List.mem_cons, not_or]
        refine ⟨fun heq => hfd ?_, hv.mapped fd ses hfound⟩
        rw [← hfiled.1, heq]
        exact (v.server.filed gone old hsession).1
  | _ => exact hv.mapped fd ses h

theorem Live.step (hv : Live v) (hspares : SparesSubscribers v i) : Live (v.step i) := by
  have hhandles := handlerStep_handles hv hspares
  refine ⟨?_, fun y hy => lostAfter_not_mem hv hspares hy, fun fd ses h => step_mapped hv i h,
    fun ref href => ?_, fun hne => ?_⟩
  · cases hhandles with
    | frame hmatched _ => exact hmatched
    | subscribes hmatched _ _ _ _ => exact hmatched
  · rcases List.mem_append.mp href with hbefore | hnew
    · obtain ⟨hlt, hnotin⟩ := hv.removed ref hbefore
      cases hhandles with
      | frame _ hframe =>
        refine ⟨?_, fun hmem => hnotin (hframe.refs hmem)⟩
        show ref < (v.handlerStep i).nextRef
        rw [hframe.nextRef]
        exact hlt
      | subscribes _ hnext _ _ hsubscribers =>
        refine ⟨?_, fun hmem => ?_⟩
        · show ref < (v.handlerStep i).nextRef
          omega
        · obtain ⟨y, hy, hyref⟩ := List.mem_map.mp hmem
          rcases hsubscribers y hy with hy | ⟨hnew, _⟩
          · exact hnotin (hyref ▸ List.mem_map_of_mem hy)
          · omega
    · obtain ⟨hmem, hgone⟩ := List.mem_filter.mp hnew
      obtain ⟨x, hx, rfl⟩ := List.mem_map.mp hmem
      have hlt := hv.matched.fresh x hx
      refine ⟨?_, of_decide_eq_true hgone⟩
      show x.ref < (v.handlerStep i).nextRef
      cases hhandles with
      | frame _ hframe =>
        rw [hframe.nextRef]
        exact hlt
      | subscribes _ hnext _ _ _ => omega
  · show (v.handlerStep i).callbackInitialized = true
    cases hhandles with
    | frame _ hframe =>
      rw [hframe.callbackInitialized]
      refine hv.callback fun hnil => hne ?_
      have hidents := hframe.idents
      rw [hnil, List.map_nil, List.sublist_nil, List.map_eq_nil_iff] at hidents
      exact hidents
    | subscribes _ _ _ hcallback _ => exact hcallback

/-! ## A timer that is lost -/

/-- A subscriber whose timer is gone still has its id. -/
theorem Matched.not_timersMatch (hs : Matched s) {timers : TimerManager TimerOwner}
    {t : TimerItem TimerOwner} {ref : Nat} (ht : t ∈ s.timers.timers)
    (hcallback : t.callback = .subscriber ref) (hgone : ∀ t' ∈ timers.timers, t'.id ≠ t.id) :
    ¬ TimersMatch { s with timers } := by
  intro hmatch
  obtain ⟨x, hx, _, hid⟩ := hs.known t ht ref hcallback
  have hpos : 0 ≤ x.timerId := by
    rw [hid]
    exact (s.timers.range t ht).1
  obtain ⟨t', ht', _, hid'⟩ := (hmatch.stored x hx).mp hpos
  exact hgone t' ht' (hid'.trans hid)

/-- What a step must not do, if the ids are to match behind it. -/
theorem Live.spares (hv : Live v) (hmatch : TimersMatch (v.step i).handler) :
    SparesSubscribers v i := by
  cases i with
  | otherRemove timerId =>
    intro t ht hid
    cases hcallback : t.callback with
    | other component => rfl
    | subscriber ref =>
      refine absurd hmatch (hv.matched.not_timersMatch ht hcallback fun t' ht' => ?_)
      rw [TimerManager.removeTimer_timers, List.mem_filter, decide_eq_true_eq] at ht'
      rw [hid]
      exact ht'.2
  | otherReset nowTime timerId =>
    intro t ht hid
    cases hcallback : t.callback with
    | other component => exact .inl rfl
    | subscriber ref =>
      refine .inr ?_
      obtain ⟨hnone, _⟩ | ⟨t', ht', hid', ⟨_, heq⟩ | ⟨hnext, _⟩⟩ :=
        v.handler.timers.resetTimer_cases nowTime timerId
      · exact absurd hid (hnone t ht)
      · refine absurd hmatch (hv.matched.not_timersMatch ht hcallback fun t' ht' => ?_)
        rw [heq, List.mem_filter, decide_eq_true_eq] at ht'
        rw [hid]
        exact ht'.2
      · rw [v.handler.timers.eq_of_id ht ht' (hid.trans hid'.symm)]
        exact Option.isSome_iff_ne_none.mpr hnext
  | _ => trivial

/-! ## Every run -/

/-- In a run of subscriptions, sessions, key events and timers the ids stored
are those of the subscribers' own timers, every timer of a subscriber belongs
to one that is registered, and who is notified is registered and has its
session, precisely if no other component takes a timer of a subscriber away. -/
theorem subscriberTimers_iff (is : List SubscriberInput) :
    (Always SubscriberService.step (fun s => TimersMatch s.handler) .create is ∧
      AllSteps SubscriberService.step NotifiesRegistered .create is) ↔
    AllSteps SubscriberService.step SparesSubscribers .create is := by
  have hkeep : ∀ s i, Live s → SparesSubscribers s i → Live (s.step i) :=
    fun s i hs hspares => hs.step hspares
  have halways : Always SubscriberService.step (fun s => TimersMatch s.handler) .create is ↔
      AllSteps SubscriberService.step SparesSubscribers .create is :=
    always_iff_allSteps_of_inv (fun s hs => hs.matched.timersMatch) hkeep
      (fun s i hs hmatch => hs.spares hmatch) is _ create_live
  constructor
  · rintro ⟨hmatch, _⟩
    exact halways.mp hmatch
  · intro hspares
    exact ⟨halways.mpr hspares, allSteps_of_allSteps hkeep
      (fun s i hs hspares => hs.notifiesRegistered hspares) is _ create_live hspares⟩

/-- Key 2018 goes down. -/
def downOfKey : KeyEvent :=
  { KeyEvent.create 0 with
    keyCode := 2018
    keyAction := keyActionDown
    keys := [{ keyCode := 2018, pressed := true }] }

/-- A component adds a timer, it is removed without the component, and its id is
given to a subscriber; then the component removes what it takes for its own
timer. -/
theorem counterexample_subscriberTimers :
    ¬ Always SubscriberService.step (fun s => TimersMatch s.handler) .create
      [.otherAdd 0 0 500 1, .otherRemove 0, .addSession ⟨1, 5, 10⟩,
        .onSubscribeKeyEvent 10 0 ⟨∅, 2018, true, 500, 0⟩, .keyEvent 0 downOfKey,
        .otherRemove 0] := by
  intro h
  have hstored := h.last.stored
  revert hstored
  decide +kernel

end FtMmi.KeySubscriber
