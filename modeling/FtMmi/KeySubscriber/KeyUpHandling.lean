/-
FtMmi.KeySubscriber.KeyUpHandling — what `HandleKeyUp` does for each
subscription.

A subscription that matches the released key is notified at once or, with a
delay, gets a timer, whatever was done for those before it. What is by
design not in this: the power key is not told of while a volume key is held,
and a timer may be refused, in which case the key still counts as handled.

The loop ends early for an event without an item for its own key
(`KnowsDownTime` leaves that case out).
-/
import FtMmi.KeySubscriber.SubscriberTimers

namespace FtMmi.KeySubscriber

open FtMmi.Event
open FtMmi.EventHandler
open FtMmi.Lib
open FtMmi.Server
open FtMmi.Timer

/-! ## Which subscriptions -/

/-- The keys held beside the one released. -/
def heldKeys (keyEvent : KeyEvent) : List Int32 := keyEvent.getPressedKeys.erase keyEvent.keyCode

/-- The subscription is to the release of this key, with these keys held. -/
def Matches (keyEvent : KeyEvent) (keyOption : KeyOption) : Prop :=
  keyOption.isFinalKeyDown = false ∧ keyEvent.keyCode = keyOption.finalKey ∧
    KeySubscriberHandler.isPreKeysMatch keyOption.preKeys (heldKeys keyEvent) = true ∧
    KeySubscriberHandler.isNotifyPowerKeySubscriber keyOption.finalKey (heldKeys keyEvent) = true

/-- The key was held for less than the duration, if there is one. -/
def InTime (keyEvent : KeyEvent) (keyOption : KeyOption) : Prop :=
  keyOption.finalKeyDownDuration ≤ 0 ∨
    ∃ keyItem ∈ keyEvent.getKeyItem keyEvent.keyCode,
      ¬ keyOption.finalKeyDownDuration.toInt64 * 1000 ≤ keyEvent.actionTime - keyItem.downTime

def Wanted (keyEvent : KeyEvent) (keyOption : KeyOption) : Prop :=
  Matches keyEvent keyOption ∧ InTime keyEvent keyOption

instance (keyEvent : KeyEvent) (keyOption : KeyOption) : Decidable (InTime keyEvent keyOption) := by
  unfold InTime; infer_instance

instance (keyEvent : KeyEvent) (keyOption : KeyOption) : Decidable (Wanted keyEvent keyOption) := by
  unfold Wanted Matches; infer_instance

/-- Where a duration is compared the event tells when the key went down. -/
def KnowsDownTime (keyEvent : KeyEvent) (subscribers : List Subscriber) : Prop :=
  ∀ x ∈ subscribers, Matches keyEvent x.keyOption → 0 < x.keyOption.finalKeyDownDuration →
    (keyEvent.getKeyItem keyEvent.keyCode).isSome

/-- A timer of the subscription is running. -/
def Pending (s : KeySubscriberHandler) (ref : Nat) : Prop :=
  ∃ t ∈ s.timers.timers, t.callback = .subscriber ref

instance (s : KeySubscriberHandler) (ref : Nat) : Decidable (Pending s ref) := by
  unfold Pending; infer_instance

/-- The timer manager has a timer for the delay of the subscription. -/
def Granted (s : KeySubscriberHandler) (nowTime : Int) (x : Subscriber) : Prop :=
  0 ≤ (s.timers.addTimer nowTime x.keyOption.finalKeyUpDelay.toInt 1
    (some (.subscriber x.ref))).1

/-- The notification of a subscription that wants it at once. -/
def atOnce (keyEvent : KeyEvent) (x : Subscriber) : List Notification :=
  if Wanted keyEvent x.keyOption ∧ x.keyOption.finalKeyUpDelay ≤ 0 then
    [⟨x.ref, x.sess, x.id, keyEvent⟩]
  else []

/-! ## One subscription -/

variable {s s' : KeySubscriberHandler} {x : Subscriber} {keyEvent : KeyEvent} {nowTime : Int}

/-- By the invariant the subscriber knows of its timer. -/
theorem Matched.pending_iff (hs : Matched s) (hx : x ∈ s.subscribers) :
    Pending s x.ref ↔ 0 ≤ x.timerId := by
  constructor
  · rintro ⟨t, ht, hcallback⟩
    rw [← hs.timersMatch.only x hx t ht hcallback]
    exact (s.timers.range t ht).1
  · intro htimer
    obtain ⟨t, ht, hcallback, _⟩ := hs.owned x hx htimer
    exact ⟨t, ht, hcallback⟩

/-- The timers of the others stay as they are. -/
theorem Writes.pending_other (hs : Matched s) (hwrites : Writes x s s') {ref : Nat}
    (href : ref ≠ x.ref) : Pending s' ref ↔ Pending s ref := by
  constructor
  · rintro ⟨t, ht, hcallback⟩
    obtain ⟨y, hy, rfl, _⟩ := hwrites.matched.known t ht ref hcallback
    obtain ⟨z, hz, hident⟩ := hwrites.frame.before hy
    have hzref : z.ref = y.ref := congrArg Prod.fst hident
    have hsame := hwrites.matched.eq_of_ref hy (hwrites.others z hz (hzref ▸ href)) hzref
    rw [← hzref, hs.pending_iff hz, hsame, ← hwrites.matched.pending_iff hy]
    exact ⟨t, ht, hcallback⟩
  · rintro ⟨t, ht, hcallback⟩
    obtain ⟨y, hy, rfl, hid⟩ := hs.known t ht ref hcallback
    rw [hwrites.matched.pending_iff (hwrites.others y hy href), hid]
    exact (s.timers.range t ht).1

/-- A subscription with a delay has a timer afterwards if it had one or gets
one. -/
theorem addTimer_pending (hs : Matched s) (hx : x ∈ s.subscribers)
    (hup : x.keyOption.isFinalKeyDown = false) (hdelay : ¬ x.keyOption.finalKeyUpDelay ≤ 0) :
    (s.addTimer nowTime x keyEvent).2.notified = s.notified ∧
      (Pending (s.addTimer nowTime x keyEvent).2 x.ref ↔
        Pending s x.ref ∨ Granted s nowTime x) := by
  have hduration : x.keyOption.timerDuration = x.keyOption.finalKeyUpDelay := by
    simp [KeyOption.timerDuration, hup]
  have hpending := hs.pending_iff hx
  obtain ⟨hnone, heq⟩ | ⟨htimer, _, r, hr, hcases⟩ := addTimer_cases s nowTime x keyEvent
  · rw [heq]
    rw [hduration] at hnone
    exact ⟨rfl, by rw [hpending, or_iff_left_of_imp fun _ => hnone.resolve_right hdelay]⟩
  · have hadd := s.timers.addTimer_cases nowTime x.keyOption.finalKeyUpDelay.toInt 1
      (TimerOwner.subscriber x.ref)
    rw [hduration] at hr
    rw [← hr] at hadd
    rw [hpending, or_iff_right (Int.not_le.mpr htimer), Granted, ← hr]
    have hno : ¬ Pending s x.ref := fun h => Int.not_le.mpr htimer (hpending.mp h)
    rcases hcases with ⟨hneg, heq⟩ | ⟨hpos, heq⟩
    · rw [heq]
      refine ⟨rfl, iff_of_false ?_ (Int.not_le.mpr hneg)⟩
      rintro ⟨t, ht, hcallback⟩
      obtain ⟨_, hsame⟩ | ⟨_, _, _, _, hpos, _, hid, _⟩ := hadd
      · have ht' : t ∈ r.2.timers := ht
        rw [hsame] at ht'
        exact hno ⟨t, ht', hcallback⟩
      · omega
    · rw [heq]
      refine ⟨rfl, iff_of_true ?_ hpos⟩
      obtain ⟨hfail, _⟩ | ⟨t, hcallback, _, _, _, _, _, hperm⟩ := hadd
      · rw [hfail] at hpos
        exact absurd hpos (by decide)
      · exact ⟨t, hperm.mem_iff.mpr List.mem_cons_self, hcallback⟩

/-- What the loop does at a subscription. -/
structure Turn (nowTime : Int) (keyEvent : KeyEvent) (x : Subscriber)
    (s s' : KeySubscriberHandler) : Prop where
  writes : Writes x s s'
  notified : s'.notified = s.notified ++ atOnce keyEvent x
  pending : Pending s' x.ref ↔ x.keyOption.isFinalKeyDown = false ∧
    (Pending s x.ref ∨ (Wanted keyEvent x.keyOption ∧ 0 < x.keyOption.finalKeyUpDelay) ∧
      Granted s nowTime x)

/-- A subscription that is not wanted is left alone. -/
theorem Turn.refl (hs : Matched s) (hup : x.keyOption.isFinalKeyDown = false)
    (hnot : ¬ Wanted keyEvent x.keyOption) : Turn nowTime keyEvent x s s where
  writes := hs.writes_refl x
  notified := by simp [atOnce, hnot]
  pending := by simp [hup, hnot]

theorem turn_of_wanted (hs : Matched s) (hx : x ∈ s.subscribers)
    (hwanted : Wanted keyEvent x.keyOption) :
    Turn nowTime keyEvent x s (s.handleKeyUpWithDelay nowTime keyEvent x) where
  writes := handleKeyUpWithDelay_writes hs hx nowTime keyEvent
  notified := by
    unfold KeySubscriberHandler.handleKeyUpWithDelay
    split
    · rename_i hdelay
      simp [atOnce, hwanted, hdelay, KeySubscriberHandler.notifySubscriber]
    · rename_i hdelay
      rw [(addTimer_pending hs hx hwanted.1.1 hdelay).1]
      simp [atOnce, hdelay]
  pending := by
    rw [and_iff_right hwanted.1.1, and_iff_right hwanted]
    unfold KeySubscriberHandler.handleKeyUpWithDelay
    split
    · rename_i hdelay
      have hnot : ¬ 0 < x.keyOption.finalKeyUpDelay := Int32.not_lt.mpr hdelay
      rw [or_iff_left fun h => hnot h.1]
      exact Iff.rfl
    · rename_i hdelay
      rw [(addTimer_pending hs hx hwanted.1.1 hdelay).2, and_iff_right (Int32.not_le.mp hdelay)]

theorem turn_clearTimer (hs : Matched s) (hx : x ∈ s.subscribers)
    (hdown : x.keyOption.isFinalKeyDown = true) : Turn nowTime keyEvent x s (s.clearTimer x) where
  writes := clearTimer_writes hs hx
  notified := by
    have hnot : ¬ Wanted keyEvent x.keyOption := fun h =>
      Bool.false_ne_true (h.1.1.symm.trans hdown)
    unfold KeySubscriberHandler.clearTimer
    split <;> simp [atOnce, hnot, KeySubscriberHandler.setSubscriber]
  pending := by
    refine iff_of_false ?_ (fun h => by simp [hdown] at h)
    rintro ⟨t, ht, hcallback⟩
    obtain ⟨y, hy, href, hid⟩ := (clearTimer_writes hs hx).matched.known t ht x.ref hcallback
    have hneg := clearTimer_timerId hs hx hy href
    have hrange := ((s.clearTimer x).timers.range t ht).1
    omega

variable (nowTime) in
/-- The body of the loop takes its turn, and says whether the subscription was
wanted. -/
theorem keyUp_turn (hs : Matched s) (hx : x ∈ s.subscribers)
    (hknows : Matches keyEvent x.keyOption → 0 < x.keyOption.finalKeyDownDuration →
      (keyEvent.getKeyItem keyEvent.keyCode).isSome) :
    ∃ s', KeySubscriberHandler.keyUp nowTime keyEvent (heldKeys keyEvent) s x
        = some (decide (Wanted keyEvent x.keyOption), s') ∧ Turn nowTime keyEvent x s s' := by
  -- The tests that `Matches` is made of, in their order.
  unfold KeySubscriberHandler.keyUp
  dsimp only
  cases hdown : x.keyOption.isFinalKeyDown with
  | true =>
    have hnot : ¬ Wanted keyEvent x.keyOption := fun h =>
      Bool.false_ne_true (h.1.1.symm.trans hdown)
    rw [if_pos rfl, decide_eq_false hnot]
    exact ⟨_, rfl, turn_clearTimer hs hx hdown⟩
  | false =>
    rw [if_neg Bool.false_ne_true]
    have hskip : ¬ Wanted keyEvent x.keyOption → ∃ s',
        some (false, s) = some (decide (Wanted keyEvent x.keyOption), s') ∧
          Turn nowTime keyEvent x s s' := fun hnot =>
      ⟨s, by rw [decide_eq_false hnot], .refl hs hdown hnot⟩
    by_cases hkey : keyEvent.keyCode = x.keyOption.finalKey
    · rw [if_neg (not_not.mpr hkey)]
      cases hpre : KeySubscriberHandler.isPreKeysMatch x.keyOption.preKeys (heldKeys keyEvent) with
      | false => exact hskip fun h => Bool.false_ne_true (hpre.symm.trans h.1.2.2.1)
      | true =>
        cases hpower : KeySubscriberHandler.isNotifyPowerKeySubscriber x.keyOption.finalKey
          (heldKeys keyEvent) with
        | false => exact hskip fun h => Bool.false_ne_true (hpower.symm.trans h.1.2.2.2)
        | true =>
          have hmatches : Matches keyEvent x.keyOption := ⟨hdown, hkey, hpre, hpower⟩
          have hdone : InTime keyEvent x.keyOption → ∃ s',
              some (true, s.handleKeyUpWithDelay nowTime keyEvent x)
                = some (decide (Wanted keyEvent x.keyOption), s') ∧
                Turn nowTime keyEvent x s s' := by
            intro hintime
            have hwanted : Wanted keyEvent x.keyOption := ⟨hmatches, hintime⟩
            exact ⟨_, by rw [decide_eq_true hwanted], turn_of_wanted hs hx hwanted⟩
          by_cases hduration : x.keyOption.finalKeyDownDuration ≤ 0
          · rw [if_pos hduration]
            exact hdone (.inl hduration)
          · rw [if_neg hduration]
            obtain ⟨keyItem, hitem⟩ := Option.isSome_iff_exists.mp
              (hknows hmatches (Int32.not_le.mp hduration))
            rw [hitem]
            dsimp only
            by_cases hlong : x.keyOption.finalKeyDownDuration.toInt64 * 1000
                ≤ keyEvent.actionTime - keyItem.downTime
            · rw [if_pos hlong]
              refine hskip fun h => ?_
              obtain hzero | ⟨_, hitem', hshort⟩ := h.2
              · exact hduration hzero
              · cases hitem.symm.trans hitem'
                exact hshort hlong
            · rw [if_neg hlong]
              exact hdone (.inr ⟨keyItem, hitem, hlong⟩)
    · rw [if_pos hkey]
      exact hskip fun h => hkey h.1.2.1

/-! ## The loop -/

/-- The loop of `HandleKeyUp` over some of the subscriptions. -/
def keyUpLoop (nowTime : Int) (keyEvent : KeyEvent) (xs : List Subscriber)
    (s : KeySubscriberHandler) : KeySubscriberHandler :=
  (KeySubscriberHandler.forSubscribers
    (KeySubscriberHandler.keyUp nowTime keyEvent (heldKeys keyEvent)) false xs s).2

/-- What the loop leaves does not depend on what was handled before. -/
theorem forSubscribers_snd
    (body : KeySubscriberHandler → Subscriber → Option (Bool × KeySubscriberHandler))
    (xs : List Subscriber) (handled handled' : Bool) (s : KeySubscriberHandler) :
    (KeySubscriberHandler.forSubscribers body handled xs s).2
      = (KeySubscriberHandler.forSubscribers body handled' xs s).2 := by
  induction xs generalizing handled handled' s with
  | nil => rfl
  | cons x xs ih =>
    unfold KeySubscriberHandler.forSubscribers
    cases body s x with
    | none => rfl
    | some r => exact ih _ _ _

variable (nowTime) in
/-- The loop goes on with the state that the first turn leaves. -/
theorem forSubscribers_cons_turn (hs : Matched s) (hx : x ∈ s.subscribers)
    (hknows : Matches keyEvent x.keyOption → 0 < x.keyOption.finalKeyDownDuration →
      (keyEvent.getKeyItem keyEvent.keyCode).isSome) :
    ∃ s', Turn nowTime keyEvent x s s' ∧
      (∀ xs, keyUpLoop nowTime keyEvent (x :: xs) s = keyUpLoop nowTime keyEvent xs s') ∧
      ∀ xs handled, KeySubscriberHandler.forSubscribers
        (KeySubscriberHandler.keyUp nowTime keyEvent (heldKeys keyEvent)) handled (x :: xs) s
          = KeySubscriberHandler.forSubscribers
            (KeySubscriberHandler.keyUp nowTime keyEvent (heldKeys keyEvent))
            (handled || decide (Wanted keyEvent x.keyOption)) xs s' := by
  obtain ⟨s', hbody, hturn⟩ := keyUp_turn nowTime hs hx hknows
  have hcons : ∀ xs handled, KeySubscriberHandler.forSubscribers
      (KeySubscriberHandler.keyUp nowTime keyEvent (heldKeys keyEvent)) handled (x :: xs) s
        = KeySubscriberHandler.forSubscribers
          (KeySubscriberHandler.keyUp nowTime keyEvent (heldKeys keyEvent))
          (handled || decide (Wanted keyEvent x.keyOption)) xs s' := by
    intro xs handled
    rw [KeySubscriberHandler.forSubscribers, hbody]
  refine ⟨s', hturn, fun xs => ?_, hcons⟩
  rw [keyUpLoop, hcons]
  exact forSubscribers_snd _ _ _ _ _

/-- The subscriptions the loop comes to, with what it has to know of each. -/
structure Ahead (keyEvent : KeyEvent) (xs : List Subscriber) (s : KeySubscriberHandler) :
    Prop where
  matched : Matched s
  mem : ∀ x ∈ xs, x ∈ s.subscribers
  refs : (xs.map Subscriber.ref).Nodup
  knows : KnowsDownTime keyEvent xs

theorem Ahead.next {xs : List Subscriber} (h : Ahead keyEvent (x :: xs) s)
    (hturn : Turn nowTime keyEvent x s s') : Ahead keyEvent xs s' where
  matched := hturn.writes.matched
  mem y hy := hturn.writes.others y (h.mem y (List.mem_cons_of_mem _ hy)) fun heq =>
    (List.nodup_cons.mp h.refs).1 (heq ▸ List.mem_map_of_mem hy)
  refs := (List.nodup_cons.mp h.refs).2
  knows y hy := h.knows y (List.mem_cons_of_mem _ hy)

theorem Ahead.turn {xs : List Subscriber} (h : Ahead keyEvent (x :: xs) s) (nowTime : Int) :
    ∃ s', Turn nowTime keyEvent x s s' ∧ Ahead keyEvent xs s' ∧
      (∀ ys, keyUpLoop nowTime keyEvent (x :: ys) s = keyUpLoop nowTime keyEvent ys s') ∧
      ∀ ys handled, KeySubscriberHandler.forSubscribers
        (KeySubscriberHandler.keyUp nowTime keyEvent (heldKeys keyEvent)) handled (x :: ys) s
          = KeySubscriberHandler.forSubscribers
            (KeySubscriberHandler.keyUp nowTime keyEvent (heldKeys keyEvent))
            (handled || decide (Wanted keyEvent x.keyOption)) ys s' := by
  obtain ⟨s', hturn, hloop, hcons⟩ := forSubscribers_cons_turn nowTime h.matched
    (h.mem x List.mem_cons_self) (h.knows x List.mem_cons_self)
  exact ⟨s', hturn, h.next hturn, hloop, hcons⟩

variable (nowTime) in
theorem forSubscribers_fst {xs : List Subscriber} (handled : Bool) (h : Ahead keyEvent xs s) :
    (KeySubscriberHandler.forSubscribers
      (KeySubscriberHandler.keyUp nowTime keyEvent (heldKeys keyEvent)) handled xs s).1 = true ↔
        handled = true ∨ ∃ x ∈ xs, Wanted keyEvent x.keyOption := by
  induction xs generalizing handled s with
  | nil => simp [KeySubscriberHandler.forSubscribers]
  | cons x xs ih =>
    obtain ⟨s', _, hahead, _, hcons⟩ := h.turn nowTime
    rw [hcons, ih _ hahead]
    simp [or_assoc]

theorem keyUpLoop_notified {xs : List Subscriber} (h : Ahead keyEvent xs s) :
    (keyUpLoop nowTime keyEvent xs s).notified = s.notified ++ xs.flatMap (atOnce keyEvent) := by
  induction xs generalizing s with
  | nil => simp [keyUpLoop, KeySubscriberHandler.forSubscribers]
  | cons x xs ih =>
    obtain ⟨s', hturn, hahead, hloop, _⟩ := h.turn nowTime
    rw [hloop, ih hahead, hturn.notified, List.append_assoc, List.flatMap_cons]

/-- The turns of the others do not matter. -/
theorem keyUpLoop_pending_other {xs : List Subscriber} (h : Ahead keyEvent xs s) {ref : Nat}
    (href : ref ∉ xs.map Subscriber.ref) :
    Pending (keyUpLoop nowTime keyEvent xs s) ref ↔ Pending s ref := by
  induction xs generalizing s with
  | nil => exact Iff.rfl
  | cons x xs ih =>
    obtain ⟨s', hturn, hahead, hloop, _⟩ := h.turn nowTime
    rw [List.map_cons, List.mem_cons, not_or] at href
    rw [hloop, ih hahead href.2, hturn.writes.pending_other h.matched href.1]

variable (nowTime) in
/-- A subscription has a timer at the end as its own turn has left it. -/
theorem keyUpLoop_pending {before after : List Subscriber}
    (h : Ahead keyEvent (before ++ x :: after) s) :
    Pending (keyUpLoop nowTime keyEvent (before ++ x :: after) s) x.ref ↔
      x.keyOption.isFinalKeyDown = false ∧
        (Pending s x.ref ∨ (Wanted keyEvent x.keyOption ∧ 0 < x.keyOption.finalKeyUpDelay) ∧
          Granted (keyUpLoop nowTime keyEvent before s) nowTime x) := by
  induction before generalizing s with
  | nil =>
    obtain ⟨s', hturn, hahead, hloop, _⟩ := h.turn nowTime
    rw [List.nil_append, hloop, keyUpLoop_pending_other hahead (List.nodup_cons.mp h.refs).1]
    exact hturn.pending
  | cons y before ih =>
    obtain ⟨s', hturn, hahead, hloop, _⟩ := h.turn nowTime
    have hne : x.ref ≠ y.ref := fun heq => (List.nodup_cons.mp h.refs).1
      (heq ▸ List.mem_map_of_mem (List.mem_append_right _ List.mem_cons_self))
    rw [List.cons_append, hloop, ih hahead, hloop, hturn.writes.pending_other h.matched hne]

/-! ## Key-up handling -/

/-- The call handles the event precisely if a subscription wants it, notifies
those that want it at once, in their order, and leaves a timer for a
subscription that had one or that wants the event later and gets one, and
for no other. -/
structure Reaches (s : KeySubscriberHandler) (nowTime : Int) (keyEvent : KeyEvent) : Prop where
  handled : (s.handleKeyUp nowTime keyEvent).1 = true ↔
    ∃ x ∈ s.subscribers, Wanted keyEvent x.keyOption
  notified : (s.handleKeyUp nowTime keyEvent).2.notified
    = s.notified ++ s.subscribers.flatMap (atOnce keyEvent)
  pending : ∀ before x after, s.subscribers = before ++ x :: after →
    (Pending (s.handleKeyUp nowTime keyEvent).2 x.ref ↔ x.keyOption.isFinalKeyDown = false ∧
      (Pending s x.ref ∨ (Wanted keyEvent x.keyOption ∧ 0 < x.keyOption.finalKeyUpDelay) ∧
        Granted (keyUpLoop nowTime keyEvent before s) nowTime x))

theorem Matched.reaches (hs : Matched s) (hknows : KnowsDownTime keyEvent s.subscribers) :
    Reaches s nowTime keyEvent := by
  have hahead : Ahead keyEvent s.subscribers s := ⟨hs, fun _ hx => hx, hs.refs, hknows⟩
  refine ⟨?_, keyUpLoop_notified hahead, fun before x after hsplit => ?_⟩
  · have hfst := forSubscribers_fst nowTime false hahead
    simp only [Bool.false_eq_true, false_or] at hfst
    exact hfst
  · have hpending := keyUpLoop_pending nowTime (hsplit ▸ hahead)
    rw [← hsplit] at hpending
    exact hpending

/-- The handler as `OnSubscribeKeyEvent` calls `HandleKeyUp`. -/
def beforeKeyUp (s : KeySubscriberHandler) (keyEvent : KeyEvent) : KeySubscriberHandler :=
  { s with keyEvent := some keyEvent.copy, hasEventExecuting := false }

/-- After every run in which other components leave the timers of the subscribers
alone, for every key that is released. -/
theorem handleKeyUp_reaches (is : List SubscriberInput) (nowTime : Int) (keyEvent : KeyEvent)
    (hspares : AllSteps SubscriberService.step SparesSubscribers .create is)
    (hknows : KnowsDownTime keyEvent
      (runFrom SubscriberService.step .create is).handler.subscribers) :
    Reaches (beforeKeyUp (runFrom SubscriberService.step .create is).handler keyEvent) nowTime
      keyEvent := by
  have hkeep : ∀ s i, Live s → SparesSubscribers s i → Live (s.step i) :=
    fun s i hs hspares => hs.step hspares
  have hs := (always_of_allSteps hkeep is _ create_live hspares).last.matched
  exact Matched.reaches ⟨hs.refs, hs.fresh, hs.owned, hs.known, hs.oneShot, hs.pending⟩ hknows

/-- A client subscribes to the release of the power key. -/
def onPowerKey : List SubscriberInput :=
  [.addSession ⟨1, 5, 10⟩, .onSubscribeKeyEvent 10 0 ⟨∅, keyCodePower, false, 0, 0⟩]

/-- The power key is released while other keys are held. -/
def powerReleased (others : List Int32) : KeyEvent :=
  { KeyEvent.create 0 with
    keyCode := keyCodePower
    keyAction := keyActionUp
    keys := { keyCode := keyCodePower } ::
      others.map fun keyCode => { keyCode, pressed := true } }

theorem handleKeyUp_reaches_onPowerKey :
    Reaches (beforeKeyUp (runFrom SubscriberService.step .create onPowerKey).handler
      (powerReleased [])) 0 (powerReleased []) :=
  handleKeyUp_reaches onPowerKey 0 (powerReleased []) (by decide +kernel)
    fun _ _ _ _ => by decide

/-- With volume down held the client is neither notified nor does it get a
timer, and the event is not handled. -/
theorem counterexample_handleKeyUp :
    let s := beforeKeyUp (runFrom SubscriberService.step .create onPowerKey).handler
      (powerReleased [keyCodeVolumeDown])
    let r := s.handleKeyUp 0 (powerReleased [keyCodeVolumeDown])
    ∃ x ∈ s.subscribers,
      (x.keyOption.isFinalKeyDown = false ∧ x.keyOption.finalKey = keyCodePower ∧
        KeySubscriberHandler.isPreKeysMatch x.keyOption.preKeys
          (heldKeys (powerReleased [keyCodeVolumeDown])) = true ∧
        InTime (powerReleased [keyCodeVolumeDown]) x.keyOption) ∧
      r.1 = false ∧ r.2.notified.length = 0 ∧ ¬ Pending r.2 x.ref := by
  refine ⟨List.head _ (by decide +kernel), List.head_mem _, ?_, ?_, ?_, ?_⟩
  · decide +kernel
  · decide +kernel
  · decide +kernel
  · decide +kernel

end FtMmi.KeySubscriber
