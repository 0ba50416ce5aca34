/-
FtMmi.KeySubscriber.RegistrationOrder — whether the order in which
subscriptions were registered can be told from the notifications.

The handler visits its subscribers in the order of registration and keeps
one flag for all of them. Its timers stand in one list with those of other
components, and share the ids with them. `board` forgets the order and the
ids. As long as the inputs are fair to the board, a step of the handler is a
step of the board, so that two handlers with the same subscriptions notify
alike.

Which id a component gets depends on which are free, and so on the order. A
component names its timers by the ids it was given (`SharedTimers.given`).
When it removes or resets a timer under an id that it has kept too long, the
order decides whose timer that is (`NamesOwn`).
-/
import FtMmi.KeySubscriber.SubscriptionBoard

namespace FtMmi.KeySubscriber

open FtMmi.Event
open FtMmi.Lib
open FtMmi.Server
open FtMmi.Timer

/-! ## Runs -/

structure Registration where
  sess : Session
  id : Int32
  keyOption : KeyOption

namespace KeySubscriberHandler

/-- The subscriptions are registered one after the other. -/
def registered (registrations : List Registration) : KeySubscriberHandler :=
  registrations.foldl (fun s r => (s.subscribeKeyEvent r.sess r.id r.keyOption).2) .create

/-- Rounds of `ProcessTimers`, up to one that takes a timer of another component. -/
def processRounds (nowTime : Int) : Nat → KeySubscriberHandler → KeySubscriberHandler
  | 0, s => s
  | n + 1, s =>
      match s.timers.timers with
      | [] => s
      | t :: _ =>
          if nowTime < t.nextCallTime then s
          else if t.callback.isOther then s.processNext nowTime
          else processRounds nowTime n (s.processNext nowTime)

/-- `ProcessTimers`, as far as the first timer of another component: the inputs that
follow are what its callback does, and another input of this kind goes on with the
call. A timer of a subscriber is called once, so that there are no more rounds than
timers. -/
def processTimers (s : KeySubscriberHandler) (nowTime : Int) : KeySubscriberHandler :=
  processRounds nowTime s.timers.timers.length s

/-- What a subscription is notified of. -/
def notifiedTo (s : KeySubscriberHandler) (sess : Session) (id : Int32) : List KeyEvent :=
  (s.notified.filter fun n => n.sess = sess ∧ n.id = id).map Notification.keyEvent

/-! ## The board of a handler -/

def entryOf (s : KeySubscriberHandler) (x : Subscriber) : Entry where
  sess := x.sess
  id := x.id
  keyOption := x.keyOption
  pending := (placeOf x.ref s.timers.timers).bind fun place =>
    x.keyEvent.map fun keyEvent => (place, keyEvent)
  received := s.notifiedTo x.sess x.id

def board (s : KeySubscriberHandler) (given : List Int) : Board where
  entries := s.subscribers.map s.entryOf
  executing := s.hasEventExecuting
  keyEvent := s.keyEvent
  others := others s.timers.timers
  asked := given.length

end KeySubscriberHandler

open KeySubscriberHandler (entryOf notifiedTo)

/-- The handler, and the ids that other components were given for their timers. -/
structure SharedTimers where
  handler : KeySubscriberHandler
  given : List Int

namespace SharedTimers

def registered (registrations : List Registration) : SharedTimers := ⟨.registered registrations, []⟩

def board (s : SharedTimers) : Board := s.handler.board s.given

def idOf (s : SharedTimers) (number : Nat) : Int := s.given.getD number nonexistentId

def step (s : SharedTimers) : SubscriptionInput → SharedTimers
  | .keyEvent nowTime keyEvent =>
      { s with handler := (s.handler.onSubscribeKeyEvent nowTime keyEvent).2 }
  | .processTimers nowTime => { s with handler := s.handler.processTimers nowTime }
  | .otherAdd nowTime intervalMs repeatCount =>
      let r := s.handler.timers.addTimer nowTime intervalMs repeatCount
        (some (.other s.given.length))
      ⟨{ s.handler with timers := r.2 }, s.given ++ [r.1]⟩
  | .otherRemove number =>
      { s with
        handler := { s.handler with timers := (s.handler.timers.removeTimer (s.idOf number)).2 } }
  | .otherReset nowTime number =>
      { s with
        handler :=
          { s.handler with timers := (s.handler.timers.resetTimer nowTime (s.idOf number)).2 } }

/-- An id under which another component removes or resets a timer is that of the timer
it was given for, or of none. -/
def NamesOwn (s : SharedTimers) : SubscriptionInput → Prop
  | .otherRemove number =>
      s.handler.timers.Owns (fun callback => callback = .other number) (s.idOf number)
  | .otherReset _ number =>
      s.handler.timers.Owns (fun callback => callback = .other number) (s.idOf number)
  | _ => True

instance (s : SharedTimers) : (i : SubscriptionInput) → Decidable (s.NamesOwn i)
  | .otherRemove number => inferInstanceAs (Decidable (∀ t ∈ s.handler.timers.timers,
      t.id = s.idOf number → decide (t.callback = .other number) = true))
  | .otherReset _ number => inferInstanceAs (Decidable (∀ t ∈ s.handler.timers.timers,
      t.id = s.idOf number → decide (t.callback = .other number) = true))
  | .keyEvent .. => isTrue trivial
  | .processTimers _ => isTrue trivial
  | .otherAdd .. => isTrue trivial

end SharedTimers

/-- What a subscription is known by. -/
def Subscriber.key (x : Subscriber) : Session × Int32 := (x.sess, x.id)

/-- A handler among other components, which have their timers under the ids they
were given. -/
structure Shares (given : List Int) (s : KeySubscriberHandler) : Prop where
  matched : Matched s
  keys : (s.subscribers.map Subscriber.key).Nodup
  inOrder : InOrder s.timers.timers
  numbered : ∀ t ∈ s.timers.timers, ∀ number, t.callback = .other number →
    given[number]? = some t.id
  notified : ∀ n ∈ s.notified, (n.sess, n.id) ∈ s.subscribers.map Subscriber.key

variable {s s' : KeySubscriberHandler} {x z : Subscriber} {given : List Int}

/-- Without a timer id there is no timer. -/
theorem Matched.no_timer (hs : Matched s) (hx : x ∈ s.subscribers) (h : x.timerId < 0) :
    ∀ t ∈ s.timers.timers, t.callback ≠ .subscriber x.ref := by
  intro t ht hcallback
  have hid := hs.timersMatch.only x hx t ht hcallback
  have hrange := (s.timers.range t ht).1
  omega

theorem Matched.pending_of_neg (hs : Matched s) (hx : x ∈ s.subscribers) (h : x.timerId < 0) :
    (s.entryOf x).pending = none := by
  rw [entryOf, placeOf_eq_none (hs.no_timer hx h)]
  rfl

theorem Matched.pending_of_nonneg (hs : Matched s) (hx : x ∈ s.subscribers)
    (h : 0 ≤ x.timerId) : ∃ place keyEvent, placeOf x.ref s.timers.timers = some place ∧
      x.keyEvent = some keyEvent ∧ (s.entryOf x).pending = some (place, keyEvent) := by
  obtain ⟨t, ht, hcallback, _⟩ := hs.owned x hx h
  obtain ⟨place, hplace⟩ := Option.isSome_iff_exists.mp (placeOf_isSome ht hcallback)
  obtain ⟨keyEvent, hkeyEvent⟩ := Option.isSome_iff_exists.mp ((hs.pending x hx).mp h)
  refine ⟨place, keyEvent, hplace, hkeyEvent, ?_⟩
  rw [entryOf, hplace, hkeyEvent]
  rfl

theorem Matched.pending_isSome_iff (hs : Matched s) (hx : x ∈ s.subscribers) :
    (s.entryOf x).pending.isSome = true ↔ 0 ≤ x.timerId := by
  by_cases h : 0 ≤ x.timerId
  · obtain ⟨_, _, _, _, heq⟩ := hs.pending_of_nonneg hx h
    simp [heq, h]
  · rw [hs.pending_of_neg hx (by omega)]
    simp [h]

/-- An entry is the same as long as the place of the timer and the notifications
are. -/
theorem entryOf_congr
    (hplace : placeOf x.ref s'.timers.timers = placeOf x.ref s.timers.timers)
    (hnotified : s'.notifiedTo x.sess x.id = s.notifiedTo x.sess x.id) :
    s'.entryOf x = s.entryOf x := by
  rw [entryOf, entryOf, hplace, hnotified]

/-- The timers are those of the others and of the entries that wait for one. -/
theorem Matched.length_eq (hs : Matched s) (given : List Int) :
    s.timers.timers.length
      = (s.board given).others.length + (s.board given).timerCount := by
  have hothers : (others s.timers.timers).length
      = (s.timers.timers.filter fun t => t.callback.isOther).length := by
    rw [others, List.length_filterMap_eq_countP, List.countP_eq_length_filter]
    congr 1
    refine List.filter_congr fun t _ => ?_
    cases hcallback : t.callback with
    | other number => rw [otherTimer_of_other hcallback]; rfl
    | subscriber ref => rw [otherTimer_of_subscriber hcallback]; rfl
  have hwaiting : ((s.timers.timers.filter fun t => !t.callback.isOther).map TimerItem.id).Perm
      ((s.subscribers.filter fun x => (s.entryOf x).pending.isSome).map Subscriber.timerId) := by
    refine (List.perm_ext_iff_of_nodup (s.timers.nodup.sublist (List.filter_sublist.map _))
      ?_).mpr fun id => ?_
    · refine (List.Nodup.filter _ (List.Nodup.of_map _ hs.refs)).map_on fun x hx y hy hid => ?_
      obtain ⟨hx, hpending⟩ := List.mem_filter.mp hx
      obtain ⟨hy, hpending'⟩ := List.mem_filter.mp hy
      obtain ⟨t, ht, hcallback, htid⟩ := hs.owned x hx ((hs.pending_isSome_iff hx).mp hpending)
      obtain ⟨t', ht', hcallback', htid'⟩ :=
        hs.owned y hy ((hs.pending_isSome_iff hy).mp hpending')
      obtain rfl := s.timers.eq_of_id ht ht' (htid.trans (hid.trans htid'.symm))
      exact hs.eq_of_ref hy hx
        (TimerOwner.subscriber.inj (hcallback.symm.trans hcallback'))
    · simp only [List.mem_map, List.mem_filter]
      constructor
      · rintro ⟨t, ⟨ht, hown⟩, rfl⟩
        cases hcallback : t.callback with
        | other number =>
          rw [hcallback] at hown
          cases hown
        | subscriber ref =>
          obtain ⟨x, hx, rfl, hid⟩ := hs.known t ht ref hcallback
          refine ⟨x, ⟨hx, (hs.pending_isSome_iff hx).mpr ?_⟩, hid⟩
          rw [hid]
          exact (s.timers.range t ht).1
      · rintro ⟨x, ⟨hx, hpending⟩, rfl⟩
        obtain ⟨t, ht, hcallback, hid⟩ := hs.owned x hx ((hs.pending_isSome_iff hx).mp hpending)
        exact ⟨t, ⟨ht, by rw [hcallback]; rfl⟩, hid⟩
  have hlength := hwaiting.length_eq
  rw [List.length_map, List.length_map] at hlength
  have hsplit := List.length_eq_length_filter_add (l := s.timers.timers)
    fun t => t.callback.isOther
  have hcount : (s.board given).timerCount
      = (s.subscribers.filter fun x => (s.entryOf x).pending.isSome).length := by
    rw [KeySubscriberHandler.board, Board.timerCount, Multiset.coe_countP, List.countP_map,
      List.countP_eq_length_filter]
    simp only [Function.comp_def, Bool.decide_eq_true]
  show _ = (others s.timers.timers).length + _
  rw [hsplit, hothers, hlength, hcount]

/-! ## Writing to one entry -/

/-- The entry of one subscriber changes. -/
structure Performs (given : List Int) (f : Entry → Entry) (x : Subscriber)
    (s s' : KeySubscriberHandler) : Prop where
  shares : Shares given s'
  subscribers : ∃ z, z.ref = x.ref ∧
    s'.subscribers = replaceKey Subscriber.ref z s.subscribers ∧ s'.entryOf z = f (s.entryOf x)
  entries : ∀ y ∈ s.subscribers, y.ref ≠ x.ref → s'.entryOf y = s.entryOf y
  others : others s'.timers.timers = others s.timers.timers

theorem Performs.split {f : Entry → Entry} (h : Performs given f x s s') (hs : Shares given s)
    {before rest : List Subscriber} (hsplit : s.subscribers = before ++ x :: rest) :
    ∃ z, s'.subscribers = before ++ z :: rest ∧ s'.entryOf z = f (s.entryOf x) ∧
      before.map s'.entryOf = before.map s.entryOf ∧
      rest.map s'.entryOf = rest.map s.entryOf := by
  obtain ⟨z, hz, hsubscribers, hentry⟩ := h.subscribers
  have hrefs := hs.matched.refs
  rw [hsplit] at hsubscribers hrefs
  obtain ⟨hx, _⟩ := List.nodup_cons.mp ((List.perm_middle.map Subscriber.ref).nodup_iff.mp hrefs)
  have hsame : ∀ y ∈ before ++ rest, s'.entryOf y = s.entryOf y := by
    intro y hy
    refine h.entries y ?_ fun heq => hx ?_
    · rw [hsplit]
      exact List.perm_middle.symm.subset (List.mem_cons_of_mem x hy)
    · rw [← heq]
      exact List.mem_map_of_mem hy
  refine ⟨z, hsubscribers.trans (replaceKey_append_cons hrefs hz), hentry, ?_, ?_⟩
  · exact List.map_congr_left fun y hy => hsame y (List.mem_append_left rest hy)
  · exact List.map_congr_left fun y hy => hsame y (List.mem_append_right before hy)

/-- An object is written to, its subscription is notified, and of the timers
only its own may have come or gone. -/
theorem Shares.performs (hs : Shares given s) {f : Entry → Entry} (hx : x ∈ s.subscribers)
    (hident : z.ident = x.ident)
    (hsubscribers : s'.subscribers = replaceKey Subscriber.ref z s.subscribers)
    (hmatched : Matched s')
    (htouches : Touches (fun callback => decide (callback = .subscriber x.ref)) s.timers s'.timers)
    (hnotified : ∃ new, s'.notified = s.notified ++ new ∧
      ∀ n ∈ new, (n.sess, n.id) = Subscriber.key x)
    (hentry : s'.entryOf z = f (s.entryOf x)) : Performs given f x s s' := by
  have href : z.ref = x.ref := congrArg Prod.fst hident
  have hkeys : s'.subscribers.map Subscriber.key = s.subscribers.map Subscriber.key := by
    have hidents := hs.matched.replaceKey_idents hx hident
    rw [← hsubscribers] at hidents
    have hcomp := congrArg (List.map fun i : Nat × Session × Int32 × KeyOption =>
      (i.2.1, i.2.2.1)) hidents
    rw [List.map_map, List.map_map] at hcomp
    exact hcomp
  obtain ⟨new, hnew, hof⟩ := hnotified
  refine ⟨⟨hmatched, ?_, htouches.order hs.inOrder, fun t ht number hcallback => ?_,
    fun n hn => ?_⟩, ⟨z, href, hsubscribers, hentry⟩, fun y hy hne => ?_,
    others_of_touches htouches⟩
  · rw [hkeys]
    exact hs.keys
  · refine hs.numbered t ((htouches.mem_iff ?_).mp ht) number hcallback
    rw [hcallback]
    rfl
  · rw [hkeys]
    rw [hnew] at hn
    rcases List.mem_append.mp hn with hn | hn
    · exact hs.notified n hn
    · rw [hof n hn]
      exact List.mem_map_of_mem hx
  · refine entryOf_congr (placeOf_of_touches htouches (Ne.symm hne)) ?_
    rw [notifiedTo, notifiedTo, hnew, List.filter_append]
    have hnil : (new.filter fun n => n.sess = y.sess ∧ n.id = y.id) = [] := by
      rw [List.filter_eq_nil_iff]
      intro n hn hkey
      have hkey : n.sess = y.sess ∧ n.id = y.id := by simpa using hkey
      have hsame : y.key = x.key := by
        rw [← hof n hn, hkey.1, hkey.2]
        rfl
      exact hne (congrArg Subscriber.ref (List.inj_on_of_nodup_map hs.keys hy hx hsame))
    rw [hnil, List.append_nil]

theorem Shares.performs_refl (hs : Shares given s) (hx : x ∈ s.subscribers) {f : Entry → Entry}
    (h : f (s.entryOf x) = s.entryOf x) : Performs given f x s s where
  shares := hs
  subscribers := ⟨x, rfl, (replaceKey_self hs.matched.refs hx).symm, h.symm⟩
  entries _ _ _ := rfl
  others := rfl

/-! ## The operations -/

variable {keyEvent : KeyEvent} {nowTime : Int}

/-- The subscriber does what its reaction says, and the flag follows. -/
structure Reacts (given : List Int) (keyEvent : KeyEvent) (r : Reaction) (x : Subscriber)
    (s s' : KeySubscriberHandler) : Prop where
  performs : Performs given (fun e => e.perform (others s.timers.timers) keyEvent r) x s s'
  executing : s'.hasEventExecuting = r.executing s.hasEventExecuting
  keyEvent : s'.keyEvent = s.keyEvent
  room : s'.timers.timers.length ≤ s.timers.timers.length + if r.isStart = true then 1 else 0

theorem Shares.reacts_ignore (hs : Shares given s) (hx : x ∈ s.subscribers) :
    Reacts given keyEvent .ignore x s s :=
  ⟨hs.performs_refl hx rfl, rfl, rfl, Nat.le_add_right _ _⟩

theorem notifySubscriber_reacts (hs : Shares given s) (hx : x ∈ s.subscribers) :
    Reacts given keyEvent .notify x s (s.notifySubscriber keyEvent x) where
  performs := by
    have hself := replaceKey_self hs.matched.refs hx
    refine hs.performs hx rfl hself.symm (notifySubscriber_writes hs.matched hx keyEvent).matched
      (.refl _) ⟨_, rfl, fun n hn => ?_⟩ ?_
    · obtain rfl := List.mem_singleton.mp hn
      rfl
    · simp [entryOf, notifiedTo, Entry.perform, KeySubscriberHandler.notifySubscriber]
  executing := rfl
  keyEvent := rfl
  room := Nat.le_add_right _ _

theorem clearTimer_reacts (hs : Shares given s) (hx : x ∈ s.subscribers) :
    Reacts given keyEvent (s.entryOf x).clearing x s (s.clearTimer x) := by
  have hmatched := (clearTimer_writes hs.matched hx).matched
  by_cases htimer : x.timerId < 0
  · have hsame : s.clearTimer x = s := if_pos htimer
    have hignore : (s.entryOf x).clearing = .ignore := by
      simp [Entry.clearing, hs.matched.pending_of_neg hx htimer]
    rw [hsame, hignore]
    exact hs.reacts_ignore hx
  · obtain ⟨t, ht, hcallback, hid⟩ := hs.matched.owned x hx (by omega)
    have hclear : (s.entryOf x).clearing = .clear :=
      if_pos ((hs.matched.pending_isSome_iff hx).mpr (by omega))
    have heq : s.clearTimer x
        = { s with
            timers := (s.timers.removeTimer x.timerId).2
            hasEventExecuting := false }.setSubscriber
              { x with keyEvent := none, timerId := -1 } := by
      rw [KeySubscriberHandler.clearTimer, if_neg htimer]
    have htouches : Touches (fun callback => decide (callback = .subscriber x.ref)) s.timers
        (s.timers.removeTimer x.timerId).2 :=
      .removeTimer (TimerManager.Names.owns ⟨t, ht, hid, decide_eq_true hcallback⟩)
    rw [hclear]
    rw [heq] at hmatched ⊢
    refine ⟨hs.performs (z := { x with keyEvent := none, timerId := -1 }) hx rfl rfl
      hmatched htouches ⟨[], (List.append_nil _).symm, fun n hn => nomatch hn⟩ ?_, rfl, rfl, ?_⟩
    · simp [entryOf, notifiedTo, Entry.perform, KeySubscriberHandler.setSubscriber]
    · show (s.timers.removeTimer x.timerId).2.timers.length ≤ _
      rw [TimerManager.removeTimer_timers]
      exact List.length_filter_le _ _

/-- A timer is started if there is room. -/
theorem addTimer_reacts (hs : Shares given s) (hx : x ∈ s.subscribers)
    (hkeyEvent : s.keyEvent = some keyEvent.copy)
    (hroom : ((s.entryOf x).starting nowTime).isStart = true →
      s.timers.timers.length < maxTimerCount) :
    Reacts given keyEvent ((s.entryOf x).starting nowTime) x s
      (s.addTimer nowTime x keyEvent).2 := by
  have hmatched := (addTimer_writes hs.matched hx nowTime keyEvent).matched
  have hpending := hs.matched.pending_isSome_iff hx
  have hkept : s.keyEvent.getD keyEvent.copy = keyEvent.copy := by rw [hkeyEvent]; rfl
  obtain ⟨hnot, heq⟩ | ⟨htimer, hduration, r, hr, hcases⟩ := addTimer_cases s nowTime x keyEvent
  · have hignore : (s.entryOf x).starting nowTime = .ignore := by
      rcases hnot with hrunning | hduration
      · exact if_pos (hpending.mpr hrunning)
      · rw [Entry.starting]
        split
        · rfl
        · exact if_pos hduration
    rw [heq, hignore]
    exact hs.reacts_ignore hx
  have hnone := hs.matched.pending_of_neg hx htimer
  cases hnext : addInt64 nowTime
      (TimerManager.boundedInterval x.keyOption.timerDuration.toInt) with
  | none =>
    have hignore : (s.entryOf x).starting nowTime = .ignore :=
      Entry.starting_of_none hnone hduration hnext
    have hfail := s.timers.addTimer_of_overflow 1 (TimerOwner.subscriber x.ref) hnext
    rw [← hr] at hfail
    obtain ⟨_, heq⟩ | ⟨hpos, _⟩ := hcases
    · rw [heq] at hmatched ⊢
      rw [hignore]
      have htouches : Touches (fun callback => decide (callback = .subscriber x.ref)) s.timers
          r.2 := by
        rw [hfail]
        exact .refl s.timers
      refine ⟨hs.performs (z := { x with timerId := r.1 }) hx rfl rfl hmatched htouches
        ⟨[], (List.append_nil _).symm, by simp⟩ ?_, rfl, ?_, ?_⟩
      · show (_ : Entry) = s.entryOf x
        simp only [entryOf, notifiedTo, KeySubscriberHandler.setSubscriber, hfail]
      · show some (s.keyEvent.getD keyEvent.copy) = s.keyEvent
        rw [hkept, hkeyEvent]
      · show r.2.timers.length ≤ _
        rw [hfail]
        exact Nat.le_add_right _ _
    · rw [hfail] at hpos
      exact absurd hpos (show ¬ (0 : Int) ≤ -1 by decide)
  | some due =>
    have hstart : (s.entryOf x).starting nowTime = .start due :=
      Entry.starting_of_none hnone hduration hnext
    rw [hstart] at hroom ⊢
    obtain ⟨t, hcallback, hdue, hpos, hid, htimers⟩ := s.timers.addTimer_of_room 1
      (TimerOwner.subscriber x.ref) (hroom rfl) hnext
    rw [← hr] at hid htimers
    obtain ⟨hneg, _⟩ | ⟨_, heq⟩ := hcases
    · omega
    · rw [heq, hkept] at hmatched ⊢
      refine ⟨hs.performs (z := { x with timerId := r.1, keyEvent := some keyEvent.copy }) hx rfl
        rfl hmatched (.of_insertTimer htimers (decide_eq_true hcallback))
        ⟨[], (List.append_nil _).symm, by simp⟩ ?_, rfl, hkeyEvent.symm, ?_⟩
      · have hplace := placeOf_insertTimer_of_own hcallback hs.inOrder
          (hs.matched.no_timer hx htimer)
        rw [← htimers, hdue] at hplace
        simp only [entryOf, Entry.perform]
        show Entry.mk _ _ _ ((placeOf x.ref r.2.timers).bind _) _ = _
        rw [hplace]
        rfl
      · show r.2.timers.length ≤ _
        rw [htimers, (insertTimer_perm t _).length_eq]
        exact le_refl _

/-! ## The loops -/

/-- A body does what a subscription on its own would do. -/
def Follows (given : List Int) (keyEvent : KeyEvent) (react : Entry → Reaction)
    (body : KeySubscriberHandler → Subscriber → Option (Bool × KeySubscriberHandler)) : Prop :=
  ∀ s x, Shares given s → x ∈ s.subscribers → s.keyEvent = some keyEvent.copy →
    react (s.entryOf x) ≠ .leave →
    ((react (s.entryOf x)).isStart = true → s.timers.timers.length < maxTimerCount) →
    ∃ handled s', body s x = some (handled, s') ∧
      Reacts given keyEvent (react (s.entryOf x)) x s s'

theorem keyDown_follows (nowTime : Int) (keyEvent : KeyEvent) (pressedKeys : List Int32) :
    Follows given keyEvent (Entry.onDown nowTime keyEvent pressedKeys)
      (KeySubscriberHandler.keyDown nowTime keyEvent pressedKeys) := by
  intro s x hs hx hkeyEvent _ hroom
  unfold KeySubscriberHandler.keyDown
  simp only [Entry.onDown, show (s.entryOf x).keyOption = x.keyOption from rfl] at hroom ⊢
  by_cases hdown : (!x.keyOption.isFinalKeyDown) = true
  · rw [if_pos hdown, if_pos hdown]
    exact ⟨_, _, rfl, hs.reacts_ignore hx⟩
  simp only [if_neg hdown] at hroom ⊢
  by_cases hkey : keyEvent.keyCode ≠ x.keyOption.finalKey
  · rw [if_pos hkey, if_pos hkey]
    exact ⟨_, _, rfl, clearTimer_reacts hs hx⟩
  simp only [if_neg hkey] at hroom ⊢
  by_cases hpre : (!KeySubscriberHandler.isPreKeysMatch x.keyOption.preKeys pressedKeys) = true
  · rw [if_pos hpre, if_pos hpre]
    exact ⟨_, _, rfl, clearTimer_reacts hs hx⟩
  simp only [if_neg hpre] at hroom ⊢
  by_cases hduration : x.keyOption.finalKeyDownDuration ≤ 0
  · rw [if_pos hduration, if_pos hduration]
    exact ⟨_, _, rfl, notifySubscriber_reacts hs hx⟩
  simp only [if_neg hduration] at hroom ⊢
  exact ⟨_, _, rfl, addTimer_reacts hs hx hkeyEvent hroom⟩

theorem handleKeyUpWithDelay_reacts (hs : Shares given s) (hx : x ∈ s.subscribers)
    (hkeyEvent : s.keyEvent = some keyEvent.copy)
    (hroom : ((s.entryOf x).onUpWithDelay nowTime).isStart = true →
      s.timers.timers.length < maxTimerCount) :
    Reacts given keyEvent ((s.entryOf x).onUpWithDelay nowTime) x s
      (s.handleKeyUpWithDelay nowTime keyEvent x) := by
  unfold KeySubscriberHandler.handleKeyUpWithDelay
  simp only [Entry.onUpWithDelay, show (s.entryOf x).keyOption = x.keyOption from rfl] at hroom ⊢
  by_cases hdelay : x.keyOption.finalKeyUpDelay ≤ 0
  · rw [if_pos hdelay, if_pos hdelay]
    exact notifySubscriber_reacts hs hx
  · simp only [if_neg hdelay] at hroom ⊢
    exact addTimer_reacts hs hx hkeyEvent hroom

theorem keyUp_follows (nowTime : Int) (keyEvent : KeyEvent) (pressedKeys : List Int32) :
    Follows given keyEvent (Entry.onUp nowTime keyEvent pressedKeys)
      (KeySubscriberHandler.keyUp nowTime keyEvent pressedKeys) := by
  intro s x hs hx hkeyEvent hstays hroom
  unfold KeySubscriberHandler.keyUp
  simp only [Entry.onUp, show (s.entryOf x).keyOption = x.keyOption from rfl] at hstays hroom ⊢
  by_cases hdown : x.keyOption.isFinalKeyDown = true
  · rw [if_pos hdown, if_pos hdown]
    exact ⟨_, _, rfl, clearTimer_reacts hs hx⟩
  simp only [if_neg hdown] at hstays hroom ⊢
  by_cases hkey : keyEvent.keyCode ≠ x.keyOption.finalKey
  · rw [if_pos hkey, if_pos hkey]
    exact ⟨_, _, rfl, hs.reacts_ignore hx⟩
  simp only [if_neg hkey] at hstays hroom ⊢
  by_cases hpre : (!KeySubscriberHandler.isPreKeysMatch x.keyOption.preKeys pressedKeys) = true
  · rw [if_pos hpre, if_pos hpre]
    exact ⟨_, _, rfl, hs.reacts_ignore hx⟩
  simp only [if_neg hpre] at hstays hroom ⊢
  by_cases hpower : (!KeySubscriberHandler.isNotifyPowerKeySubscriber x.keyOption.finalKey
      pressedKeys) = true
  · rw [if_pos hpower, if_pos hpower]
    exact ⟨_, _, rfl, hs.reacts_ignore hx⟩
  simp only [if_neg hpower] at hstays hroom ⊢
  by_cases hduration : x.keyOption.finalKeyDownDuration ≤ 0
  · simp only [if_pos hduration] at hroom ⊢
    exact ⟨_, _, rfl, handleKeyUpWithDelay_reacts hs hx hkeyEvent hroom⟩
  simp only [if_neg hduration] at hstays hroom ⊢
  cases hitem : keyEvent.getKeyItem keyEvent.keyCode with
  | none =>
    simp only [hitem] at hstays
    exact absurd rfl hstays
  | some keyItem =>
    simp only [hitem] at hroom ⊢
    by_cases hlong : x.keyOption.finalKeyDownDuration.toInt64 * 1000
        ≤ keyEvent.actionTime - keyItem.downTime
    · rw [if_pos hlong, if_pos hlong]
      exact ⟨_, _, rfl, hs.reacts_ignore hx⟩
    · simp only [if_neg hlong] at hroom ⊢
      exact ⟨_, _, rfl, handleKeyUpWithDelay_reacts hs hx hkeyEvent hroom⟩

theorem clearTimer_follows (keyEvent : KeyEvent) :
    Follows given keyEvent Entry.clearing fun s x => some (false, s.clearTimer x) :=
  fun _ _ hs hx _ _ _ => ⟨_, _, rfl, clearTimer_reacts hs hx⟩

/-- What is true after a loop: every entry reacted, and the flag went through
the reactions one after the other. -/
structure Looped (given : List Int) (keyEvent : KeyEvent) (entries : List Entry)
    (reactions : List Reaction) (s s' : KeySubscriberHandler) : Prop where
  shares : Shares given s'
  keyEvent : s'.keyEvent = some keyEvent.copy
  others : others s'.timers.timers = others s.timers.timers
  entries : s'.subscribers.map s'.entryOf = entries
  executing : s'.hasEventExecuting
    = reactions.foldl (fun executing r => r.executing executing) s.hasEventExecuting

theorem Follows.looped {react : Entry → Reaction}
    {body : KeySubscriberHandler → Subscriber → Option (Bool × KeySubscriberHandler)}
    (hbody : Follows given keyEvent react body) (todo before : List Subscriber) (handled : Bool)
    (s : KeySubscriberHandler) (hs : Shares given s) (hkeyEvent : s.keyEvent = some keyEvent.copy)
    (hsplit : s.subscribers = before ++ todo)
    (hstay : .leave ∉ (todo.map s.entryOf).map react)
    (hroom : s.timers.timers.length + Board.starts ((todo.map s.entryOf).map react)
      ≤ maxTimerCount) :
    Looped given keyEvent
      (before.map s.entryOf ++ (todo.map s.entryOf).map fun e =>
        e.perform (others s.timers.timers) keyEvent (react e))
      ((todo.map s.entryOf).map react) s
      (KeySubscriberHandler.forSubscribers body handled todo s).2 := by
  induction todo generalizing before handled s with
  | nil =>
    rw [List.append_nil] at hsplit
    exact ⟨hs, hkeyEvent, rfl, by simp [KeySubscriberHandler.forSubscribers, hsplit], rfl⟩
  | cons x todo ih =>
    have hx : x ∈ s.subscribers := by
      rw [hsplit]
      exact List.mem_append_right before List.mem_cons_self
    simp only [List.map_cons, List.mem_cons, not_or, Board.starts_cons] at hstay hroom
    obtain ⟨handled', s', heq, hreacts⟩ := hbody s x hs hx hkeyEvent (Ne.symm hstay.1)
      fun hstart => by
        rw [if_pos hstart] at hroom
        omega
    obtain ⟨z, hsplit', hentry, hbefore, htodo⟩ := hreacts.performs.split hs hsplit
    have hrest := ih (before ++ [z]) (handled || handled') s' hreacts.performs.shares
      (hreacts.keyEvent.trans hkeyEvent) (by rw [hsplit']; simp)
      (by rw [htodo]; exact hstay.2)
      (by
        rw [htodo]
        have hlength := hreacts.room
        omega)
    simp only [KeySubscriberHandler.forSubscribers, heq]
    refine ⟨hrest.shares, hrest.keyEvent, hrest.others.trans hreacts.performs.others, ?_, ?_⟩
    · rw [hrest.entries, htodo, hreacts.performs.others]
      simp [hentry, hbefore]
    · rw [hrest.executing, htodo, hreacts.executing]
      rfl

/-! ## One step -/

/-- The event and the flag are not part of what `Shares` and the entries are
about. -/
theorem Shares.reopen (hs : Shares given s) (executing : Bool) (last : Option KeyEvent) :
    Shares given { s with hasEventExecuting := executing, keyEvent := last } :=
  ⟨hs.matched.of_timers rfl rfl fun _ _ _ => Iff.rfl, hs.keys, hs.inOrder, hs.numbered,
    hs.notified⟩

theorem Follows.board {react : Entry → Reaction}
    {body : KeySubscriberHandler → Subscriber → Option (Bool × KeySubscriberHandler)}
    (hbody : Follows given keyEvent react body) (hs : Shares given s)
    (hreact : Entry.reaction nowTime keyEvent = react)
    (hrepeated : ¬ (s.board given).isRepeatedKeyEvent keyEvent = true)
    (hfair : (s.board given).Fair (.keyEvent nowTime keyEvent))
    (heq : s' = (KeySubscriberHandler.forSubscribers body false s.subscribers
      { s with
        hasEventExecuting := Board.openFlag s.hasEventExecuting keyEvent
        keyEvent := some keyEvent.copy }).2) :
    Shares given s' ∧ s'.board given = (s.board given).step (.keyEvent nowTime keyEvent) := by
  obtain ⟨hstay, hclear, hroom⟩ := hfair.resolve_left hrepeated
  have hreactions : (s.board given).reactions nowTime keyEvent
      = ((s.subscribers.map s.entryOf).map react : List Reaction) := by
    rw [Board.reactions, hreact]
    rfl
  rw [hreactions, ← hs.matched.length_eq given] at hroom
  rw [hreactions] at hstay hclear
  have hlooped := hbody.looped s.subscribers [] false _
    (hs.reopen (Board.openFlag s.hasEventExecuting keyEvent) (some keyEvent.copy)) rfl rfl hstay
    hroom
  rw [← heq] at hlooped
  refine ⟨hlooped.shares, ?_⟩
  rw [Board.step, if_neg hrepeated, KeySubscriberHandler.board, hlooped.entries,
    hlooped.executing, hlooped.keyEvent, hlooped.others, hreactions, Board.flagAfter_coe _ _ hclear,
    hreact]
  rfl

/-- An event of another action changes nothing but the event that is kept. -/
theorem other_board (hs : Shares given s)
    (hreact : Entry.reaction nowTime keyEvent = fun _ => .ignore)
    (hrepeated : ¬ (s.board given).isRepeatedKeyEvent keyEvent = true)
    (hopen : Board.openFlag s.hasEventExecuting keyEvent = s.hasEventExecuting) :
    Shares given { s with keyEvent := some keyEvent.copy } ∧
      ({ s with keyEvent := some keyEvent.copy } : KeySubscriberHandler).board given
        = (s.board given).step (.keyEvent nowTime keyEvent) := by
  refine ⟨hs.reopen s.hasEventExecuting (some keyEvent.copy), ?_⟩
  have hall : ∀ r ∈ (s.board given).reactions nowTime keyEvent, r = .ignore := by
    intro r hr
    rw [Board.reactions, hreact] at hr
    obtain ⟨_, _, rfl⟩ := Multiset.mem_map.mp hr
    rfl
  have hnone : Board.starts ((s.board given).reactions nowTime keyEvent) = 0 := by
    rw [Board.starts, Multiset.countP_eq_zero]
    intro r hr
    rw [hall r hr]
    simp [Reaction.isStart]
  have hclear : .clear ∉ (s.board given).reactions nowTime keyEvent := by
    intro hmem
    cases hall _ hmem
  rw [Board.step, if_neg hrepeated, Board.flagAfter, hnone, if_neg (lt_irrefl 0), if_neg hclear,
    hreact]
  simp only [Entry.perform, Multiset.map_id']
  show _ = Board.mk _ (Board.openFlag s.hasEventExecuting keyEvent) _ _ _
  rw [hopen]
  rfl

theorem onSubscribeKeyEvent_board (hs : Shares given s)
    (hfair : (s.board given).Fair (.keyEvent nowTime keyEvent)) :
    Shares given (s.onSubscribeKeyEvent nowTime keyEvent).2 ∧
      (s.onSubscribeKeyEvent nowTime keyEvent).2.board given
        = (s.board given).step (.keyEvent nowTime keyEvent) := by
  by_cases hrepeated : (s.board given).isRepeatedKeyEvent keyEvent = true
  · have hsame : (s.onSubscribeKeyEvent nowTime keyEvent).2 = s := by
      rw [KeySubscriberHandler.onSubscribeKeyEvent]
      exact congrArg Prod.snd (if_pos hrepeated)
    rw [hsame, Board.step, if_pos hrepeated]
    exact ⟨hs, rfl⟩
  have hopened : s.onSubscribeKeyEvent nowTime keyEvent
      = if keyEvent.keyAction = keyActionDown then
          { s with keyEvent := some keyEvent.copy }.handleKeyDown nowTime keyEvent
        else if keyEvent.keyAction = keyActionUp then
          { s with keyEvent := some keyEvent.copy, hasEventExecuting := false }.handleKeyUp nowTime
            keyEvent
        else if keyEvent.keyAction = keyActionCancel then
          { s with keyEvent := some keyEvent.copy, hasEventExecuting := false }.handleKeyCancel
        else (false, { s with keyEvent := some keyEvent.copy }) := if_neg hrepeated
  rw [hopened]
  by_cases hdown : keyEvent.keyAction = keyActionDown
  · rw [if_pos hdown]
    refine (keyDown_follows nowTime keyEvent (keyEvent.getPressedKeys.erase keyEvent.keyCode)).board
      hs (funext fun e => ?_) hrepeated hfair ?_
    · simp only [Entry.reaction, if_pos hdown]
    · simp only [Board.openFlag, hdown]
      rfl
  rw [if_neg hdown]
  by_cases hup : keyEvent.keyAction = keyActionUp
  · rw [if_pos hup]
    refine (keyUp_follows nowTime keyEvent (keyEvent.getPressedKeys.erase keyEvent.keyCode)).board
      hs (funext fun e => ?_) hrepeated hfair ?_
    · simp only [Entry.reaction, if_neg hdown, if_pos hup]
    · simp only [Board.openFlag, hup]
      rfl
  rw [if_neg hup]
  by_cases hcancel : keyEvent.keyAction = keyActionCancel
  · rw [if_pos hcancel]
    refine (clearTimer_follows keyEvent).board hs (funext fun e => ?_) hrepeated hfair ?_
    · simp only [Entry.reaction, if_neg hdown, if_neg hup, if_pos hcancel]
    · simp only [Board.openFlag, hcancel]
      rfl
  rw [if_neg hcancel]
  refine other_board hs (funext fun e => ?_) hrepeated ?_
  · simp only [Entry.reaction, if_neg hdown, if_neg hup, if_neg hcancel]
  · exact if_neg (not_or.mpr ⟨hup, hcancel⟩)

/-! ## Timers of other components -/

/-- A step on the timers of other components moves the places of the subscriptions. -/
theorem Shares.moved (hs : Shares given s) (timers : TimerManager TimerOwner) (f : Place → Place)
    (hown : ∀ t ref, t.callback = .subscriber ref →
      (t ∈ timers.timers ↔ t ∈ s.timers.timers))
    (horder : InOrder timers.timers)
    (hnumbered : ∀ t ∈ timers.timers, ∀ number, t.callback = .other number →
      given[number]? = some t.id)
    (hplaces : ∀ ref, placeOf ref timers.timers = (placeOf ref s.timers.timers).map f) :
    Shares given { s with timers } ∧
      s.subscribers.map ({ s with timers } : KeySubscriberHandler).entryOf
        = (s.subscribers.map s.entryOf).map (Entry.move f) := by
  refine ⟨⟨hs.matched.of_timers rfl rfl hown, hs.keys, horder, hnumbered, hs.notified⟩, ?_⟩
  rw [List.map_map]
  refine List.map_congr_left fun x _ => ?_
  simp only [entryOf, Function.comp_apply, Entry.move, hplaces]
  cases placeOf x.ref s.timers.timers with
  | none => rfl
  | some place => cases x.keyEvent <;> rfl

theorem Shares.remove {timers : TimerManager TimerOwner} {number : Nat} (hs : Shares given s)
    (htimers : timers.timers = s.timers.timers.filter fun t => t.callback ≠ .other number) :
    Shares given { s with timers } ∧
      ({ s with timers } : KeySubscriberHandler).board given
        = (s.board given).removeOther number := by
  obtain ⟨hshares, hentries⟩ := hs.moved timers (Place.removed (others s.timers.timers) number)
    (fun t ref hcallback => by
      rw [htimers, List.mem_filter, and_iff_left]
      simp [hcallback])
    (htimers ▸ List.Pairwise.filter _ hs.inOrder)
    (fun t ht => hs.numbered t (List.mem_of_mem_filter (htimers ▸ ht)))
    (fun ref => htimers ▸ placeOf_remove number s.timers.timers)
  refine ⟨hshares, ?_⟩
  rw [KeySubscriberHandler.board, hentries, htimers, others_remove]
  rfl

theorem Shares.insert {timers : TimerManager TimerOwner} {t : TimerItem TimerOwner} {number : Nat}
    (hs : Shares given s) (hcallback : t.callback = .other number)
    (hnumber : given[number]? = some t.id)
    (htimers : timers.timers = insertTimer t s.timers.timers) :
    Shares given { s with timers } ∧
      ({ s with timers } : KeySubscriberHandler).board given
        = (s.board given).insertOther
            ⟨0, t.intervalMs, t.repeatCount, t.callbackCount, t.nextCallTime, number⟩ := by
  obtain ⟨hshares, hentries⟩ := hs.moved timers (Place.inserted t.nextCallTime)
    (fun t' ref hown => by
      rw [htimers, mem_insertTimer, or_iff_right]
      rintro rfl
      rw [hcallback] at hown
      cases hown)
    (htimers ▸ hs.inOrder.insertTimer t)
    (fun t' ht' number' hother => by
      rw [htimers, mem_insertTimer] at ht'
      rcases ht' with rfl | ht'
      · rw [hcallback] at hother
        obtain rfl := TimerOwner.other.inj hother
        exact hnumber
      · exact hs.numbered t' ht' number' hother)
    (fun ref => htimers ▸ placeOf_insertTimer hcallback hs.inOrder)
  refine ⟨hshares, ?_⟩
  rw [KeySubscriberHandler.board, hentries, htimers, others_insertTimer hcallback hs.inOrder]
  rfl

/-- The timer with a number is taken out and put in again. -/
theorem Shares.replace {timers : TimerManager TimerOwner} {t : TimerItem TimerOwner} {number : Nat}
    (hs : Shares given s) (hcallback : t.callback = .other number)
    (hnumber : given[number]? = some t.id)
    (htimers : timers.timers
      = insertTimer t (s.timers.timers.filter fun t => t.callback ≠ .other number)) :
    Shares given { s with timers } ∧
      ({ s with timers } : KeySubscriberHandler).board given
        = ((s.board given).removeOther number).insertOther
            ⟨0, t.intervalMs, t.repeatCount, t.callbackCount, t.nextCallTime, number⟩ := by
  let rest : TimerManager TimerOwner :=
    { timers := s.timers.timers.filter fun t => t.callback ≠ .other number
      nodup := s.timers.nodup.sublist (List.filter_sublist.map TimerItem.id)
      range := fun t ht => s.timers.range t (List.mem_of_mem_filter ht) }
  obtain ⟨hshares, hboard⟩ := hs.remove (show rest.timers = _ from rfl)
  rw [← hboard]
  exact hshares.insert hcallback hnumber htimers

/-- The timer with a number is that with the id. -/
theorem Shares.filter_id {timerId : Int} {number : Nat} (hs : Shares given s)
    (hid : timerId = given.getD number nonexistentId)
    (howns : s.timers.Owns (fun callback => callback = .other number) timerId) :
    (s.timers.timers.filter fun t => t.id ≠ timerId)
      = s.timers.timers.filter fun t => t.callback ≠ .other number := by
  refine List.filter_congr fun t ht => decide_eq_decide.mpr (not_congr ⟨fun h => ?_, fun h => ?_⟩)
  · exact of_decide_eq_true (howns t ht h)
  · have hgiven := hs.numbered t ht number h
    rw [hid, List.getD_eq_getElem?_getD, hgiven]
    rfl

theorem Shares.append (hs : Shares given s) (timerId : Int) : Shares (given ++ [timerId]) s := by
  refine ⟨hs.matched, hs.keys, hs.inOrder, fun t ht number hcallback => ?_, hs.notified⟩
  have hgiven := hs.numbered t ht number hcallback
  rw [List.getElem?_append_left (List.getElem?_eq_some_iff.mp hgiven).1]
  exact hgiven

theorem Shares.otherAdd (hs : Shares given s) (nowTime intervalMs repeatCount : Int)
    {r : Int × TimerManager TimerOwner}
    (hr : r = s.timers.addTimer nowTime intervalMs repeatCount (some (.other given.length))) :
    Shares (given ++ [r.1]) { s with timers := r.2 } ∧
      ({ s with timers := r.2 } : KeySubscriberHandler).board (given ++ [r.1])
        = (s.board given).step (.otherAdd nowTime intervalMs repeatCount) := by
  have hlength := hs.matched.length_eq given
  have hasked : ∀ s : KeySubscriberHandler, s.board (given ++ [r.1])
      = { s.board given with asked := (s.board given).asked + 1 } := by
    intro s
    simp [KeySubscriberHandler.board]
  obtain ⟨hfail, heq⟩ | ⟨timerId, nextCallTime, _, _, hnext, hid, htimers⟩ :=
    s.timers.addTimer_item nowTime intervalMs repeatCount (.other given.length)
  · have hnone : (s.board given).addOther nowTime intervalMs repeatCount = s.board given := by
      rcases hfail with hfull | hover
      · have hroom : ¬ s.timers.timers.length < maxTimerCount :=
          fun hroom => s.timers.takeNextTimerId_of_room hroom hfull
        rw [Board.addOther, if_pos (by omega)]
      · simp only [Board.addOther, hover, ite_self]
    rw [Board.step, hnone, ← hasked]
    rw [← hr] at heq
    rw [heq]
    exact ⟨hs.append _, rfl⟩
  · rw [← hr] at hid htimers
    have hroom : ¬ maxTimerCount ≤ (s.board given).others.length + (s.board given).timerCount := by
      have hle := r.2.length_le_maxTimerCount
      rw [htimers, (insertTimer_perm _ _).length_eq, List.length_cons] at hle
      omega
    obtain ⟨hshares, hboard⟩ := (hs.append r.1).insert (t := ⟨timerId,
      TimerManager.boundedInterval intervalMs, repeatCount, 0, nextCallTime, .other given.length⟩)
      rfl (by simp [hid]) htimers
    refine ⟨hshares, ?_⟩
    rw [hboard, Board.step, Board.addOther, if_neg hroom, hnext, hasked]
    rfl

theorem Shares.otherRemove {number : Nat} {timerId : Int} (hs : Shares given s)
    (hid : timerId = given.getD number nonexistentId)
    (howns : s.timers.Owns (fun callback => callback = .other number) timerId) :
    Shares given { s with timers := (s.timers.removeTimer timerId).2 } ∧
      ({ s with timers := (s.timers.removeTimer timerId).2 } : KeySubscriberHandler).board given
        = (s.board given).removeOther number :=
  hs.remove ((s.timers.removeTimer_timers timerId).trans (hs.filter_id hid howns))

theorem Shares.otherReset {number : Nat} {timerId : Int} (hs : Shares given s)
    (hid : timerId = given.getD number nonexistentId)
    (howns : s.timers.Owns (fun callback => callback = .other number) timerId) :
    Shares given { s with timers := (s.timers.resetTimer nowTime timerId).2 } ∧
      ({ s with timers := (s.timers.resetTimer nowTime timerId).2 } :
          KeySubscriberHandler).board given
        = (s.board given).resetOther nowTime number := by
  have hfilter := hs.filter_id hid howns
  have hgiven : ∀ t ∈ s.timers.timers, t.callback = .other number → t.id = timerId := by
    intro t ht hcallback
    rw [hid, List.getD_eq_getElem?_getD, hs.numbered t ht number hcallback]
    rfl
  obtain ⟨hnot, hfind⟩ | ⟨t, ht, hcallback, hfind⟩ := find_others number s.timers.timers
  · have hsame : s.timers.resetTimer nowTime timerId = (retErr, s.timers) := by
      obtain ⟨_, heq⟩ | ⟨t, ht, htimer, _⟩ := s.timers.resetTimer_inserts nowTime timerId
      · exact heq
      · exact absurd (of_decide_eq_true (howns t ht htimer)) (hnot t ht)
    have hnone : (s.board given).resetOther nowTime number = s.board given := by
      simp only [Board.resetOther, KeySubscriberHandler.board, hfind]
    rw [hsame, hnone]
    exact ⟨hs, rfl⟩
  · have htimer := hgiven t ht hcallback
    obtain ⟨hno, _⟩ | ⟨t', ht', htimer', hcases⟩ := s.timers.resetTimer_inserts nowTime timerId
    · exact absurd htimer (hno t ht)
    obtain rfl := s.timers.eq_of_id ht ht' (htimer.trans htimer'.symm)
    obtain ⟨hover, _, htimers⟩ | ⟨nextCallTime, hnext, _, htimers⟩ := hcases
    · have hreset : (s.board given).resetOther nowTime number
          = (s.board given).removeOther number := by
        simp only [Board.resetOther, KeySubscriberHandler.board, hfind, hover]
      rw [hreset]
      exact hs.remove (htimers.trans hfilter)
    · have hreset : (s.board given).resetOther nowTime number
          = ((s.board given).removeOther number).insertOther
              ⟨0, t.intervalMs, t.repeatCount, 0, nextCallTime, number⟩ := by
        simp only [Board.resetOther, KeySubscriberHandler.board, hfind, hnext]
      rw [hfilter] at htimers
      rw [hreset]
      exact hs.replace (t := { t with nextCallTime, callbackCount := 0 }) hcallback
        (hs.numbered t ht number hcallback) htimers

/-! ## Timers that are due -/

/-- Nothing is due. -/
theorem Shares.expire_of_late (hs : Shares given s)
    (hlate : ∀ t ∈ s.timers.timers.head?, nowTime < t.nextCallTime) :
    (s.board given).processTimers nowTime = s.board given := by
  have hall : ∀ t ∈ s.timers.timers, nowTime < t.nextCallTime := by
    intro t ht
    have horder := hs.inOrder
    cases htimers : s.timers.timers with
    | nil =>
      rw [htimers] at ht
      cases ht
    | cons first rest =>
      rw [htimers] at ht horder hlate
      have hfirst := hlate first rfl
      rcases List.mem_cons.mp ht with rfl | ht
      · exact hfirst
      · exact hfirst.trans_le ((List.pairwise_cons.mp horder).1 t ht)
  have hentries : (s.subscribers.map s.entryOf).map (Entry.expire nowTime)
      = s.subscribers.map s.entryOf := by
    rw [List.map_map]
    refine List.map_congr_left fun x hx => Entry.expire_of_not_due fun place keyEvent hpending => ?_
    by_cases htimer : x.timerId < 0
    · rw [hs.matched.pending_of_neg hx htimer] at hpending
      cases hpending
    · obtain ⟨place', _, hplace, _, heq⟩ := hs.matched.pending_of_nonneg hx (by omega)
      rw [heq, Option.some.injEq, Prod.mk.injEq] at hpending
      obtain ⟨t, ht, _, hdue⟩ := mem_of_placeOf hplace
      rw [← hpending.1, ← hdue]
      exact .inr (hall t ht)
  have hexpire : (s.board given).expire nowTime = s.board given := by
    rw [Board.expire, KeySubscriberHandler.board, Multiset.map_coe, hentries]
  unfold Board.processTimers
  split
  · exact hexpire
  · rename_i o rest hothers
    obtain ⟨t, ht, _, hnext⟩ := mem_others (hothers ▸ List.mem_cons_self)
    rw [if_pos (hnext ▸ hall t ht), hexpire]

/-- The first timer is one of a subscription, and due: who has it is notified. -/
theorem Shares.processNext_of_subscriber (hs : Shares given s) {t : TimerItem TimerOwner}
    {rest : List (TimerItem TimerOwner)} {ref : Nat} (htimers : s.timers.timers = t :: rest)
    (hdue : t.nextCallTime ≤ nowTime) (hcallback : t.callback = .subscriber ref) :
    Shares given (s.processNext nowTime) ∧ (s.processNext nowTime).timers.timers = rest ∧
      ((s.processNext nowTime).board given).expire nowTime = (s.board given).expire nowTime := by
  have hmatched := (processNext_matched hs.matched nowTime).1
  obtain ⟨hother, _⟩ | ⟨t', rest', x, keyEvent, htimers', _, hown, hx, hkeyEvent, hrest, heq⟩ :=
    processNext_cases hs.matched nowTime
  · exact absurd hcallback (hother t (by rw [htimers]; rfl) hdue ref)
  obtain ⟨rfl, rfl⟩ := List.cons.inj (htimers.symm.trans htimers')
  have hpending : (s.entryOf x).pending = some (⟨t.nextCallTime, 0⟩, keyEvent) := by
    rw [entryOf, htimers, placeOf_cons_of_subscriber hown, if_pos rfl, hkeyEvent]
    rfl
  have htouches : Touches (fun callback => decide (callback = .subscriber x.ref)) s.timers
      (s.timers.processNext nowTime).2 := by
    refine .processNext nowTime fun first hfirst _ => decide_eq_true ?_
    rw [htimers] at hfirst
    obtain rfl := Option.some.inj hfirst
    exact hown
  have hperforms : Performs given (Entry.expire nowTime) x s (s.processNext nowTime) := by
    rw [heq] at hmatched ⊢
    refine hs.performs (z := { x with timerId := -1, keyEvent := none }) hx rfl rfl hmatched
      htouches ⟨[⟨x.ref, x.sess, x.id, keyEvent⟩], rfl, fun n hn => ?_⟩ ?_
    · obtain rfl := List.mem_singleton.mp hn
      rfl
    · rw [Entry.expire_of_due hpending rfl hdue]
      simp [entryOf, notifiedTo, KeySubscriberHandler.setSubscriber,
        KeySubscriberHandler.notifySubscriber]
  have hrest' : (s.processNext nowTime).timers.timers = rest := by
    rw [heq]
    exact hrest
  refine ⟨hperforms.shares, hrest', ?_⟩
  have hentries : ((s.processNext nowTime).subscribers.map
        (s.processNext nowTime).entryOf).map (Entry.expire nowTime)
      = (s.subscribers.map s.entryOf).map (Entry.expire nowTime) := by
    obtain ⟨before, after, hsplit⟩ := List.append_of_mem hx
    obtain ⟨z, hsplit', hentry, hbefore, hafter⟩ := hperforms.split hs hsplit
    rw [hsplit', hsplit]
    simp only [List.map_append, List.map_cons, hbefore, hafter, hentry, Entry.expire_expire]
  have hexecuting : (s.processNext nowTime).hasEventExecuting = s.hasEventExecuting := by
    rw [heq]
    rfl
  have hkept : (s.processNext nowTime).keyEvent = s.keyEvent := by
    rw [heq]
    rfl
  rw [Board.expire, Board.expire, KeySubscriberHandler.board, KeySubscriberHandler.board,
    Multiset.map_coe, Multiset.map_coe, hentries, hexecuting, hkept, hperforms.others]

/-- The timers behind the first are those with other numbers. -/
theorem Shares.rest_eq (hs : Shares given s) {t : TimerItem TimerOwner}
    {rest : List (TimerItem TimerOwner)} {number : Nat} (htimers : s.timers.timers = t :: rest)
    (hcallback : t.callback = .other number) :
    rest = s.timers.timers.filter fun t => t.callback ≠ .other number := by
  have hids := s.timers.nodup
  rw [htimers, List.map_cons, List.nodup_cons] at hids
  rw [htimers, List.filter_cons_of_neg (by simp [hcallback]), eq_comm, List.filter_eq_self]
  intro t' ht'
  refine decide_eq_true fun hsame => hids.1 (List.mem_map.mpr ⟨t', ht', ?_⟩)
  have hgiven := hs.numbered t (htimers ▸ List.mem_cons_self) number hcallback
  have hgiven' := hs.numbered t' (htimers ▸ List.mem_cons_of_mem t ht') number hsame
  exact Option.some.inj (hgiven'.symm.trans hgiven)

/-- The first timer is one of another component, and due: no subscription is
notified. -/
theorem Shares.processNext_of_other (hs : Shares given s) {t : TimerItem TimerOwner}
    {rest : List (TimerItem TimerOwner)} {number : Nat} (htimers : s.timers.timers = t :: rest)
    (hdue : t.nextCallTime ≤ nowTime) (hcallback : t.callback = .other number) :
    Shares given (s.processNext nowTime) ∧
      (s.processNext nowTime).board given = (s.board given).processTimers nowTime := by
  have hothers : (s.board given).others
      = ⟨0, t.intervalMs, t.repeatCount, t.callbackCount, t.nextCallTime, number⟩
        :: others rest := by
    rw [← others_cons_of_other hcallback, ← htimers]
    rfl
  have hentries : (s.subscribers.map s.entryOf).map (Entry.expire nowTime)
      = s.subscribers.map s.entryOf := by
    rw [List.map_map]
    refine List.map_congr_left fun x _ => Entry.expire_of_not_due fun place keyEvent hpending =>
      .inl ?_
    -- The timer of another component stands before it.
    rw [entryOf, htimers, placeOf_cons_of_other hcallback] at hpending
    cases hplace : placeOf x.ref rest with
    | none => simp [hplace] at hpending
    | some place' =>
      cases hkeyEvent : x.keyEvent with
      | none => simp [hplace, hkeyEvent] at hpending
      | some kept =>
        simp only [hplace, hkeyEvent, Option.map_some, Option.bind_some, Option.some.injEq,
          Prod.mk.injEq] at hpending
        rw [← hpending.1, Place.behind_ahead]
        exact Nat.succ_ne_zero _
  have hexpire : (s.board given).expire nowTime = s.board given := by
    rw [Board.expire, KeySubscriberHandler.board, Multiset.map_coe, hentries]
  have hcall : (s.board given).processTimers nowTime = (s.board given).callOther nowTime
      ⟨0, t.intervalMs, t.repeatCount, t.callbackCount, t.nextCallTime, number⟩ := by
    simp only [Board.processTimers, hothers, if_neg (not_lt.mpr hdue), hexpire]
  have heq : s.processNext nowTime = { s with timers := (s.timers.processNext nowTime).2 } := by
    obtain ⟨_, heq, _⟩ | ⟨t', rest', x, _, htimers', _, hown, _⟩ :=
      processNext_cases hs.matched nowTime
    · exact heq
    · obtain ⟨rfl, _⟩ := List.cons.inj (htimers.symm.trans htimers')
      rw [hcallback] at hown
      cases hown
  have hrest := hs.rest_eq htimers hcallback
  rw [heq, hcall]
  obtain ⟨hlate, _⟩ | ⟨t', rest', htimers', _, hcases⟩ := s.timers.processNext_inserts nowTime
  · have hfirst := hlate t (by rw [htimers]; rfl)
    omega
  obtain ⟨rfl, rfl⟩ := List.cons.inj (htimers.symm.trans htimers')
  rcases hcases with ⟨hrepeat, hcalled, _, hgone⟩ | ⟨hmore, hover, _, hgone⟩ |
    ⟨hmore, _, nextCallTime, hnext, hinsert⟩
  · rw [Board.callOther, if_pos ⟨hrepeat, hcalled⟩]
    exact hs.remove (hgone.trans hrest)
  · simp only [Board.callOther, if_neg hmore, hover]
    exact hs.remove (hgone.trans hrest)
  · simp only [Board.callOther, if_neg hmore, hnext]
    rw [hrest] at hinsert
    exact hs.replace (t := { t with callbackCount := t.callbackCount + 1, nextCallTime }) hcallback
      (hs.numbered t (htimers ▸ List.mem_cons_self) number hcallback) hinsert

/-- The rounds of a call that stops at the first timer of another component. -/
theorem processRounds_board (nowTime : Int) (rounds : Nat) (hs : Shares given s)
    (hrounds : s.timers.timers.length ≤ rounds) :
    Shares given (s.processRounds nowTime rounds) ∧
      (s.processRounds nowTime rounds).board given = (s.board given).processTimers nowTime := by
  induction rounds generalizing s with
  | zero =>
    have hnil : s.timers.timers = [] := List.eq_nil_of_length_eq_zero (Nat.le_zero.mp hrounds)
    have hlate : ∀ t ∈ s.timers.timers.head?, nowTime < t.nextCallTime := by simp [hnil]
    exact ⟨hs, (hs.expire_of_late hlate).symm⟩
  | succ rounds ih =>
    cases htimers : s.timers.timers with
    | nil =>
      have hlate : ∀ t ∈ s.timers.timers.head?, nowTime < t.nextCallTime := by simp [htimers]
      simp only [KeySubscriberHandler.processRounds, htimers]
      exact ⟨hs, (hs.expire_of_late hlate).symm⟩
    | cons t rest =>
      simp only [KeySubscriberHandler.processRounds, htimers]
      by_cases hlate : nowTime < t.nextCallTime
      · have hhead : ∀ t ∈ s.timers.timers.head?, nowTime < t.nextCallTime := by
          simpa [htimers] using hlate
        rw [if_pos hlate]
        exact ⟨hs, (hs.expire_of_late hhead).symm⟩
      rw [if_neg hlate]
      cases hcallback : t.callback with
      | other number =>
        rw [if_pos (show (TimerOwner.other number).isOther = true from rfl)]
        exact hs.processNext_of_other htimers (not_lt.mp hlate) hcallback
      | subscriber ref =>
        rw [if_neg (by simp [TimerOwner.isOther])]
        obtain ⟨hshares, hrest, hexpire⟩ :=
          hs.processNext_of_subscriber htimers (not_lt.mp hlate) hcallback
        obtain ⟨hshares', hboard⟩ := ih hshares (by
          rw [hrest]
          rw [htimers, List.length_cons] at hrounds
          omega)
        refine ⟨hshares', hboard.trans ?_⟩
        -- Who was notified is not notified again.
        have hothers : ((s.processNext nowTime).board given).others = (s.board given).others := by
          simpa only [Board.expire] using congrArg Board.others hexpire
        rw [Board.processTimers, Board.processTimers, hothers, hexpire]

theorem step_board {v : SharedTimers} (hv : Shares v.given v.handler) (i : SubscriptionInput)
    (hfair : v.board.Fair i) (howns : v.NamesOwn i) :
    Shares (v.step i).given (v.step i).handler ∧ (v.step i).board = v.board.step i := by
  cases i with
  | keyEvent nowTime keyEvent => exact onSubscribeKeyEvent_board hv hfair
  | processTimers nowTime => exact processRounds_board nowTime _ hv (le_refl _)
  | otherAdd nowTime intervalMs repeatCount => exact hv.otherAdd nowTime intervalMs repeatCount rfl
  | otherRemove number => exact hv.otherRemove rfl howns
  | otherReset nowTime number => exact hv.otherReset rfl howns

/-! ## Registration -/

def Registration.key (r : Registration) : Session × Int32 := (r.sess, r.id)

def Registration.accepted (r : Registration) : Bool :=
  !(r.id < 0 || maxPreKeyCount < r.keyOption.preKeys.card)

/-- The entry of a subscription that is new. -/
def Registration.entry (r : Registration) : Entry := ⟨r.sess, r.id, r.keyOption, none, []⟩

/-- The handler after registrations, before any event. -/
structure Registered (registrations : List Registration) (s : KeySubscriberHandler) : Prop where
  shares : Shares [] s
  timers : s.timers.timers = []
  executing : s.hasEventExecuting = false
  keyEvent : s.keyEvent = none
  notified : s.notified = []
  subscribers : s.subscribers.map (fun x => Registration.mk x.sess x.id x.keyOption)
    = registrations.filter Registration.accepted

theorem Registered.keys {registrations : List Registration} (h : Registered registrations s) :
    s.subscribers.map Subscriber.key
      = (registrations.filter Registration.accepted).map Registration.key := by
  rw [← h.subscribers, List.map_map]
  rfl

theorem Registered.subscribe {registrations : List Registration}
    (h : Registered registrations s) (r : Registration)
    (hkeys : ((registrations ++ [r]).map Registration.key).Nodup) :
    Registered (registrations ++ [r]) (s.subscribeKeyEvent r.sess r.id r.keyOption).2 := by
  have hmatched := subscribeKeyEvent_matched h.shares.matched r.sess r.id r.keyOption
  by_cases hid : r.id < 0
  · have hrefused : r.accepted = false := by simp [Registration.accepted, hid]
    rw [KeySubscriberHandler.subscribeKeyEvent, if_pos hid]
    refine ⟨h.shares, h.timers, h.executing, h.keyEvent, h.notified, ?_⟩
    simp [h.subscribers, hrefused]
  by_cases hcard : maxPreKeyCount < r.keyOption.preKeys.card
  · have hrefused : r.accepted = false := by simp [Registration.accepted, hcard]
    rw [KeySubscriberHandler.subscribeKeyEvent, if_neg hid, if_pos hcard]
    refine ⟨h.shares, h.timers, h.executing, h.keyEvent, h.notified, ?_⟩
    simp [h.subscribers, hrefused]
  have haccepted : r.accepted = true := by
    simpa [Registration.accepted, hid, not_lt] using Nat.not_lt.mp hcard
  have hnew : r.key ∉ s.subscribers.map Subscriber.key := by
    rw [h.keys]
    rw [List.map_append, List.nodup_append'] at hkeys
    intro hmem
    refine hkeys.2.2 ?_ (List.mem_singleton.mpr rfl)
    exact (List.filter_sublist.map Registration.key).subset hmem
  have hany : (s.subscribers.any fun item => item.id = r.id ∧ item.sess = r.sess) = false := by
    rw [List.any_eq_false]
    intro x hx hsame
    have hsame : x.id = r.id ∧ x.sess = r.sess := by simpa using hsame
    refine hnew (List.mem_map.mpr ⟨x, hx, ?_⟩)
    rw [Subscriber.key, Registration.key, hsame.1, hsame.2]
  rw [KeySubscriberHandler.subscribeKeyEvent, if_neg hid, if_neg hcard] at hmatched ⊢
  simp only [KeySubscriberHandler.insertSubscriber, hany, Bool.false_eq_true, if_false]
    at hmatched ⊢
  refine ⟨⟨hmatched, ?_, h.shares.inOrder, h.shares.numbered, fun n hn => ?_⟩, h.timers,
    h.executing, h.keyEvent, h.notified, ?_⟩
  · rw [List.map_append, List.nodup_append']
    refine ⟨h.shares.keys, List.nodup_singleton _, fun key hkey hlast => hnew ?_⟩
    rw [List.map_singleton, List.mem_singleton] at hlast
    rw [hlast] at hkey
    exact hkey
  · rw [h.notified] at hn
    cases hn
  · simp [h.subscribers, haccepted]

theorem registered_registered (registrations : List Registration)
    (hkeys : (registrations.map Registration.key).Nodup) :
    Registered registrations (KeySubscriberHandler.registered registrations) := by
  induction registrations using List.reverseRecOn with
  | nil =>
    have hshares : Shares [] .create :=
      ⟨create_matched, List.nodup_nil, List.Pairwise.nil, (fun _ ht => nomatch ht),
        (fun _ hn => nomatch hn)⟩
    exact ⟨hshares, rfl, rfl, rfl, rfl, rfl⟩
  | append_singleton registrations r ih =>
    rw [KeySubscriberHandler.registered, List.foldl_append]
    refine (ih ?_).subscribe r hkeys
    exact hkeys.sublist ((List.sublist_append_left registrations [r]).map Registration.key)

theorem Registered.board {registrations : List Registration} (h : Registered registrations s) :
    s.board [] = ⟨((registrations.filter Registration.accepted).map Registration.entry :
      List Entry), false, none, [], 0⟩ := by
  have hentries : s.subscribers.map s.entryOf
      = (registrations.filter Registration.accepted).map Registration.entry := by
    rw [← h.subscribers, List.map_map]
    refine List.map_congr_left fun x hx => ?_
    simp [entryOf, placeOf, notifiedTo, h.timers, h.notified, Registration.entry]
  rw [KeySubscriberHandler.board, hentries, h.executing, h.keyEvent, h.timers]
  rfl

theorem registered_board {registrations registrations' : List Registration}
    (hperm : registrations.Perm registrations')
    (h : Registered registrations s) (h' : Registered registrations' s') :
    s.board [] = s'.board [] := by
  have hentries := (hperm.filter Registration.accepted).map Registration.entry
  rw [h.board, h'.board, Multiset.coe_eq_coe.mpr hentries]

/-! ## Every run -/

/-- The board knows what everyone was notified of. -/
theorem notifiedTo_of_board {given' : List Int} (hs : Shares given s) (hs' : Shares given' s')
    (h : s.board given = s'.board given') (sess : Session) (id : Int32) :
    s.notifiedTo sess id = s'.notifiedTo sess id := by
  have hentries := congrArg Board.entries h
  have hperm := Multiset.coe_eq_coe.mp hentries
  -- Nobody else was notified.
  have hnil : ∀ {u : KeySubscriberHandler} {given : List Int}, Shares given u →
      (sess, id) ∉ u.subscribers.map Subscriber.key → u.notifiedTo sess id = [] := by
    intro u given hu hnot
    rw [notifiedTo, List.map_eq_nil_iff, List.filter_eq_nil_iff]
    intro n hn hkey
    have hkey : n.sess = sess ∧ n.id = id := by simpa using hkey
    refine hnot ?_
    rw [← hkey.1, ← hkey.2]
    exact hu.notified n hn
  have hkeys : (s.subscribers.map Subscriber.key).Perm (s'.subscribers.map Subscriber.key) := by
    have hmapped := hperm.map fun e : Entry => (e.sess, e.id)
    rw [List.map_map, List.map_map] at hmapped
    exact hmapped
  by_cases hkey : (sess, id) ∈ s.subscribers.map Subscriber.key
  · obtain ⟨x, hx, heq⟩ := List.mem_map.mp hkey
    obtain ⟨rfl, rfl⟩ : x.sess = sess ∧ x.id = id := by simpa [Subscriber.key] using heq
    obtain ⟨x', hx', hentry⟩ := List.mem_map.mp (hperm.subset (List.mem_map_of_mem hx))
    have hsess : x'.sess = x.sess := congrArg Entry.sess hentry
    have hid : x'.id = x.id := congrArg Entry.id hentry
    have hreceived : s'.notifiedTo x'.sess x'.id = s.notifiedTo x.sess x.id :=
      congrArg Entry.received hentry
    rw [hsess, hid] at hreceived
    exact hreceived.symm
  · rw [hnil hs hkey, hnil hs' (mt hkeys.mem_iff.mpr hkey)]

/-- In every run whose inputs are fair, and in which the other components name
timers of their own in both orders, the notifications of each subscription are
the same for both. -/
theorem registrationOrder (registrations registrations' : List Registration)
    (hperm : registrations.Perm registrations')
    (hkeys : (registrations.map Registration.key).Nodup) (is : List SubscriptionInput)
    (hfair : AllSteps SharedTimers.step (fun s i => s.board.Fair i ∧ s.NamesOwn i)
      (.registered registrations) is)
    (howns : AllSteps SharedTimers.step SharedTimers.NamesOwn (.registered registrations') is)
    (sess : Session) (id : Int32) :
    (runFrom SharedTimers.step (.registered registrations) is).handler.notifiedTo sess id
      = (runFrom SharedTimers.step (.registered registrations') is).handler.notifiedTo sess id := by
  have hregistered := registered_registered registrations hkeys
  have hregistered' := registered_registered registrations'
    ((hperm.map Registration.key).nodup_iff.mp hkeys)
  obtain ⟨hs, hs', hboard⟩ := runFrom_abstract Board.step SharedTimers.board Board.Fair
    SharedTimers.NamesOwn (fun v i hv hc hd => step_board hv i hc hd) is
    (.registered registrations) (.registered registrations') hregistered.shares
    hregistered'.shares (registered_board hperm hregistered hregistered') hfair howns
  exact notifiedTo_of_board hs hs' hboard sess id

namespace RegistrationExamples

def sess : Session := ⟨0, 5, 100⟩

def onKey (finalKey duration : Int32) : KeyOption := ⟨∅, finalKey, true, duration, 0⟩

/-- A long press of one key, a long press of another, and a short press of the
other. -/
def longPress : Registration := ⟨sess, 1, onKey 2017 500⟩

def otherLongPress : Registration := ⟨sess, 2, onKey 2018 500⟩

def press : Registration := ⟨sess, 3, onKey 2018 0⟩

def down (keyCode : Int32) (pressed : List Int32) : KeyEvent :=
  { KeyEvent.create 0 with
    keyCode
    keyAction := keyActionDown
    keys := pressed.map fun key => { pressed := true, keyCode := key } }

/-- The keys go down, and the second one repeats. -/
def inputs : List SubscriptionInput :=
  [.keyEvent 1000 (down 2017 [2017]), .keyEvent 1010 (down 2018 [2017, 2018]),
    .keyEvent 1020 (down 2018 [2017, 2018])]

def withRepeat : List SubscriptionInput :=
  [.otherAdd 1000 300 0, .keyEvent 1000 (down 2017 [2017]), .processTimers 1310,
    .otherReset 1320 0, .processTimers 1600, .otherRemove 0, .processTimers 1610]

end RegistrationExamples

open RegistrationExamples in
/-- A repeating timer of another component is called before the long press is
over, reset, and removed. -/
theorem registrationOrder_press :
    (runFrom SharedTimers.step (.registered [press, longPress]) withRepeat).handler.notifiedTo
        sess 1
      = (runFrom SharedTimers.step (.registered [longPress, press]) withRepeat).handler.notifiedTo
          sess 1 :=
  registrationOrder _ _ (List.Perm.swap longPress press []) (by decide) _ (by decide +kernel)
    (by decide +kernel) sess 1

open RegistrationExamples in
/-- The repeated event is hidden from the short press in one order only. -/
theorem counterexample_registrationOrder :
    ¬ ∀ (registrations registrations' : List Registration), registrations.Perm registrations' →
      (registrations.map Registration.key).Nodup → ∀ (is : List SubscriptionInput)
      (sess : Session) (id : Int32),
      (runFrom SharedTimers.step (.registered registrations) is).handler.notifiedTo sess id
        = (runFrom SharedTimers.step (.registered registrations') is).handler.notifiedTo
            sess id := by
  intro h
  have heq := h [longPress, otherLongPress, press] [otherLongPress, longPress, press]
    (List.Perm.swap otherLongPress longPress [press]) (by decide) inputs sess 3
  revert heq
  decide +kernel

end FtMmi.KeySubscriber
