/-
FtMmi.KeyCommand.PendingLaunches — launches that wait for their start delay,
and the keys typed meanwhile.

`InterruptTimers` goes by the timer ids of the candidates, and only when a
key joins those typed. So a launch is cancelled by the next key if a
candidate has its timer and there are keys to join (`Held`). Both are lost
together with the candidates: after a pause, when the time goes back, when
another sequence is launched.
-/
import FtMmi.KeyCommand.ClaimedKeys

namespace FtMmi.KeyCommand

open FtMmi.Event
open FtMmi.EventHandler
open FtMmi.Lib
open FtMmi.Timer

/-! ## Pending launches -/

/-- The timer launches a sequence. -/
def PendingLaunch (t : TimerItem TimerClosure) : Prop := ∃ sequence, t.callback = .sequence sequence

instance (t : TimerItem TimerClosure) : Decidable (PendingLaunch t) :=
  match h : t.callback with
  | .sequence sequence => isTrue ⟨sequence, h⟩
  | .shortcut _ => isFalse fun ⟨_, hsequence⟩ => nomatch h.symm.trans hsequence
  | .special _ => isFalse fun ⟨_, hsequence⟩ => nomatch h.symm.trans hsequence
  | .subscriber _ _ => isFalse fun ⟨_, hsequence⟩ => nomatch h.symm.trans hsequence
  | .other _ => isFalse fun ⟨_, hsequence⟩ => nomatch h.symm.trans hsequence

def NonePending (s : KeyCommandHandler) : Prop := ∀ t ∈ s.timers.timers, ¬ PendingLaunch t

instance (s : KeyCommandHandler) : Decidable (NonePending s) :=
  inferInstanceAs (Decidable (∀ t ∈ s.timers.timers, ¬ PendingLaunch t))

/-- No launch is new, though it may be put off. -/
def PendingFrom (m m' : TimerManager TimerClosure) : Prop :=
  ∀ t' ∈ m'.timers, PendingLaunch t' → ∃ t ∈ m.timers, t'.id = t.id ∧ t'.callback = t.callback ∧
    t'.repeatCount = t.repeatCount ∧ (0 ≤ t.callbackCount → 0 ≤ t'.callbackCount)

namespace PendingFrom

variable {m m' m'' : TimerManager TimerClosure}

theorem of_descends (h : m.Descends m') : PendingFrom m m' := fun t' ht' _ => h t' ht'

theorem of_subset (h : ∀ t ∈ m'.timers, PendingLaunch t → t ∈ m.timers) : PendingFrom m m' :=
  fun t ht hpending => ⟨t, h t ht hpending, rfl, rfl, rfl, id⟩

theorem refl (m : TimerManager TimerClosure) : PendingFrom m m := of_subset fun _ h _ => h

theorem of_adds {P : TimerClosure → Prop} (h : AddsOnly P m m')
    (hP : ∀ sequence, ¬ P (.sequence sequence)) : PendingFrom m m' := by
  refine of_subset fun t ht hpending => (h t ht).resolve_right ?_
  rintro ⟨hclosure, _⟩
  obtain ⟨sequence, hsequence⟩ := hpending
  exact hP sequence (hsequence ▸ hclosure)

theorem trans (h : PendingFrom m m') (h' : PendingFrom m' m'') : PendingFrom m m'' := by
  intro t'' ht'' hpending
  obtain ⟨t', ht', hid', hcallback', hrepeat', hcount'⟩ := h' t'' ht'' hpending
  have hpending' : PendingLaunch t' := by
    obtain ⟨sequence, hsequence⟩ := hpending
    exact ⟨sequence, hcallback'.symm.trans hsequence⟩
  obtain ⟨t, ht, hid, hcallback, hrepeat, hcount⟩ := h t' ht' hpending'
  exact ⟨t, ht, hid'.trans hid, hcallback'.trans hcallback, hrepeat'.trans hrepeat,
    fun h => hcount' (hcount h)⟩

/-- A timer with another closure is added. -/
theorem addTimer (m : TimerManager TimerClosure) (nowTime intervalMs repeatCount : Int)
    (closure : TimerClosure) (h : ∀ sequence, closure ≠ .sequence sequence) :
    PendingFrom m (m.addTimer nowTime intervalMs repeatCount (some closure)).2 := by
  refine of_subset fun t ht hpending => (TimerManager.mem_addTimer ht).resolve_right ?_
  rintro ⟨hcallback, _⟩
  obtain ⟨sequence, hsequence⟩ := hpending
  exact h sequence (hcallback.symm.trans hsequence)

theorem nonePending {s t : KeyCommandHandler} (h : PendingFrom s.timers t.timers)
    (hnone : NonePending s) : NonePending t := by
  intro x hx hpending
  obtain ⟨x0, hx0, _, hcallback, _⟩ := h x hx hpending
  obtain ⟨sequence, hsequence⟩ := hpending
  exact hnone x0 hx0 ⟨sequence, hcallback.symm.trans hsequence⟩

end PendingFrom

variable {s : KeyCommandHandler}

theorem pendingFrom_handleShortKeys (s : KeyCommandHandler) (nowTime : Int) (keyEvent : KeyEvent) :
    PendingFrom s.timers (s.handleShortKeys nowTime keyEvent).2.timers :=
  .of_adds (s.handleShortKeys_adds nowTime keyEvent) fun _ ⟨_, h⟩ => nomatch h

theorem foldl_claimKey_removes (s : KeyCommandHandler) (items : List SequenceKey) :
    ∀ t ∈ (items.foldl KeyCommandHandler.claimKey s).timers.timers, t ∈ s.timers.timers := by
  induction items generalizing s with
  | nil => exact fun _ h => h
  | cons item items ih =>
    intro t ht
    exact ((claimKey_cases s item).1 t (ih (s.claimKey item) t ht)).1

theorem settle_removes (p : Pass) :
    ∀ t ∈ (KeyCommandHandler.settle p).timers.timers, t ∈ p.state.timers.timers := by
  have hclaimed : ∀ t ∈ (if p.isLaunchAbility then p.state.claimKeys else p.state).timers.timers,
      t ∈ p.state.timers.timers := by
    split
    · exact foldl_claimKey_removes p.state p.state.keys
    · exact fun _ h => h
  unfold KeyCommandHandler.settle
  dsimp only
  split <;> exact hclaimed

/-- What comes after `HandleSequences` adds no launch, and leaves the sequences alone. -/
theorem onHandleEvent_pending (s : KeyCommandHandler) (nowTime : Int) (key : KeyEvent) :
    PendingFrom ((s.handleShortKeys nowTime key).2.handleSequences nowTime key).2.timers
      (s.onHandleEvent nowTime key).2.timers := by
  unfold KeyCommandHandler.onHandleEvent
  dsimp only
  split
  · exact .refl _
  split
  · obtain ⟨_, heq⟩ := KeyCommandHandler.handleSpecialKeys_frame
      ((s.handleShortKeys nowTime key).2.handleSequences nowTime key).2 key.keyCode key.action
    rw [heq]
    exact .refl _
  split
  · have hadds := PendingFrom.addTimer
      ((s.handleShortKeys nowTime key).2.handleSequences nowTime key).2.timers nowTime
      specialKeyDownDelay 1 (.special key.copy) fun _ h => nomatch h
    unfold KeyCommandHandler.delaySpecialKey
    dsimp only
    split <;> exact hadds
  · exact .refl _

/-! ## A key joins -/

/-- Where the loop starts no launch is pending, precisely if the key has joined and the
candidates had the timers of all pending ones. -/
theorem loopStart_nonePending_iff {keyEvent : KeyEvent} {start : KeyCommandHandler}
    (hstart : s.loopStart keyEvent = some start) :
    NonePending start ↔ ∀ t ∈ s.timers.timers, PendingLaunch t →
      (∃ last ∈ s.keys.getLast?, s.joins keyEvent last) ∧
        ∃ item ∈ s.filterSequences, item.timerId = t.id := by
  have hpush : ∀ (s : KeyCommandHandler) size key, (s.pushKey size key).2.timers = s.timers := by
    intro s size key
    unfold KeyCommandHandler.pushKey
    split <;> rfl
  -- Without `InterruptTimers` there must be none at all.
  have hsame : start.timers = s.timers → (∀ last ∈ s.keys.getLast?, ¬ s.joins keyEvent last) →
      (NonePending start ↔ ∀ t ∈ s.timers.timers, PendingLaunch t →
        (∃ last ∈ s.keys.getLast?, s.joins keyEvent last) ∧
          ∃ item ∈ s.filterSequences, item.timerId = t.id) := by
    intro htimers hnot
    rw [NonePending, htimers]
    refine forall₂_congr fun t _ => ⟨fun hnone hpending => absurd hpending hnone, fun h hpending => ?_⟩
    obtain ⟨⟨last, hlast, hjoins⟩, _⟩ := h hpending
    exact hnot last hlast hjoins
  unfold KeyCommandHandler.loopStart at hstart
  split at hstart
  · cases hstart
  split at hstart
  · rename_i hadded
    obtain rfl := Option.some.inj hstart
    have htimers : (s.addSequenceKey keyEvent).2.refill.timers = (s.addSequenceKey keyEvent).2.timers := by
      obtain ⟨_, hrefill⟩ := (s.addSequenceKey keyEvent).2.refill_frame
      rw [hrefill]
    have hadds := addSequenceKey_adds s keyEvent
    generalize s.addSequenceKey keyEvent = r at hadds hadded htimers hsame ⊢
    cases hadds with
    | first hnil =>
      refine hsame htimers fun last hlast => ?_
      rw [hnil] at hlast
      cases hlast
    | backwards _ _ _ => cases hadded
    | pause last hlast hpause =>
      refine hsame (htimers.trans (hpush _ _ _)) fun last' hlast' hjoins => ?_
      rw [Option.mem_unique hlast' hlast] at hjoins
      exact not_lt.mpr hjoins.2.1 hpause
    | repeats _ _ _ _ => cases hadded
    | joins last hlast hjoins =>
      rw [hpush] at htimers
      have hleft : ∀ t, t ∈ (KeyCommandHandler.pushKey (s.setLastDelay last
          (keyEvent.actionTime.toInt - last.actionTime)).interruptTimers s.keys.length
            (.ofEvent keyEvent)).2.refill.timers.timers ↔ t ∈ s.timers.timers ∧
              t.id ∉ (s.filterSequences.filter fun item => 0 ≤ item.timerId).map Sequence.timerId := by
        intro t
        rw [htimers]
        show t ∈ ((s.filterSequences.filter fun item => 0 ≤ item.timerId).foldl
          (fun timers item => (timers.removeTimer item.timerId).2) s.timers).timers ↔ _
        rw [TimerManager.foldl_removeTimer_timers, List.mem_filter, decide_eq_true_eq]
      constructor
      · intro hnone t ht hpending
        refine ⟨⟨last, hlast, hjoins⟩, ?_⟩
        by_contra hfree
        refine hnone t ((hleft t).mpr ⟨ht, fun hmem => hfree ?_⟩) hpending
        obtain ⟨item, hitem, heq⟩ := List.mem_map.mp hmem
        exact ⟨item, List.mem_of_mem_filter hitem, heq⟩
      · intro hall t ht hpending
        obtain ⟨hold, hnot⟩ := (hleft t).mp ht
        obtain ⟨_, item, hitem, heq⟩ := hall t hold hpending
        have hpos := (s.timers.range t hold).1
        refine hnot (List.mem_map.mpr ⟨item, List.mem_filter.mpr ⟨hitem, ?_⟩, heq⟩)
        exact decide_eq_true (heq ▸ hpos)
  · cases hstart

/-! ## What the loop leaves pending -/

/-- A launch that the loop has added is that of a candidate kept. -/
theorem forCandidates_held (nowTime : Int) (items : List Sequence) :
    ∀ (i : Nat) (s : KeyCommandHandler), (∀ item ∈ items, launchesAtOnce s.keys item = false) →
      ∀ t ∈ (KeyCommandHandler.forCandidates nowTime i items s).state.timers.timers,
        t ∈ s.timers.timers ∨
          ∃ item ∈ (KeyCommandHandler.forCandidates nowTime i items s).tempSeqs,
            item.timerId = t.id := by
  induction items with
  | nil => exact fun _ _ _ t ht => .inl ht
  | cons item items ih =>
    intro i s hquiet t
    have hturn := handleSequence_turn s nowTime item
    obtain ⟨⟨timers, hstate⟩, _⟩ := turn_quiet hturn (hquiet item List.mem_cons_self)
    rw [KeyCommandHandler.forCandidates]
    generalize s.handleSequence nowTime item = h at hturn hstate ⊢
    have hrest := ih (i + 1) { h.state with filterSequences := h.state.filterSequences.set i h.sequence }
      (by rw [hstate]; exact fun other hother => hquiet other (List.mem_cons_of_mem item hother)) t
    dsimp only at hrest ⊢
    intro ht
    have hkept : ∀ {p : List Sequence}, (∃ item ∈ p, item.timerId = t.id) →
        ∃ item ∈ (if h.keeps then h.sequence :: p else p), item.timerId = t.id := by
      rintro p ⟨other, hother, hid⟩
      refine ⟨other, ?_, hid⟩
      split
      · exact List.mem_cons_of_mem _ hother
      · exact hother
    rcases hrest ht with hbefore | hlater
    · cases hturn with
      | atOnce honce =>
        rw [hquiet item List.mem_cons_self] at honce
        cases honce
      | later _ r hr =>
        subst hr
        rcases TimerManager.mem_addTimer hbefore with hold | ⟨_, _, _, hid, _⟩
        · exact .inl hold
        · -- The new timer has an id, so the candidate is kept.
          have hpos : 0 ≤ t.id := ((s.addTimer nowTime _ (.sequence item)).2.timers.range t hbefore).1
          refine .inr ⟨{ item with timerId := (s.addTimer nowTime
            (item.abilityStartDelay.tdiv secondsSystem) (.sequence item)).1 }, ?_, hid.symm⟩
          rw [if_pos (decide_eq_true (hid ▸ hpos))]
          exact List.mem_cons_self
      | compared _ => exact .inl hbefore
    · exact .inr (hkept hlater)

/-- The candidates that come before one that is launched at once. -/
def beforeAtOnce (s : KeyCommandHandler) : List Sequence :=
  s.filterSequences.takeWhile fun item => !launchesAtOnce s.keys item

/-- With a launch at once nothing is left pending, if no candidate before it gets a timer. -/
theorem forCandidates_atOnce_none (nowTime : Int) (items : List Sequence) :
    ∀ (i : Nat) (s : KeyCommandHandler), (∀ item ∈ items, item.sequenceKeys ≠ []) →
      (∃ item ∈ items, launchesAtOnce s.keys item = true) →
      (∀ item ∈ items.takeWhile fun item => !launchesAtOnce s.keys item,
        launchesLater s.keys item = true → s.launchTimer nowTime item < 0) →
      ∀ t ∈ (KeyCommandHandler.forCandidates nowTime i items s).state.timers.timers,
        t ∈ s.timers.timers := by
  induction items with
  | nil =>
    rintro i s _ ⟨item, hitem, _⟩
    cases hitem
  | cons item items ih =>
    intro i s hsome hlaunch hbefore t
    have hturn := handleSequence_turn s nowTime item
    rw [KeyCommandHandler.forCandidates]
    generalize s.handleSequence nowTime item = h at hturn ⊢
    dsimp only
    cases honce : launchesAtOnce s.keys item with
    | true =>
      cases hturn with
      | atOnce _ =>
        -- No keys are left to complete another.
        have hadds := forCandidates_adds nowTime items (i + 1) { s.launchSequence item with
          filterSequences := (s.launchSequence item).filterSequences.set i item }
        intro ht
        refine (hadds t ht).resolve_right ?_
        rintro ⟨⟨sequence, hsequence, _, hlater | hnil⟩, _⟩
        · exact hsome sequence (List.mem_cons_of_mem item hsequence) (launchesLater_nil hlater)
        · exact hsome sequence (List.mem_cons_of_mem item hsequence) hnil
      | later hlater r hr =>
        simp only [launchesAtOnce, launchesLater, Bool.and_eq_true, decide_eq_true_eq] at honce hlater
        exact absurd honce.2 hlater.2
      | compared hnot =>
        simp only [launchesAtOnce, Bool.and_eq_true] at honce
        rw [hnot] at honce
        cases honce.1
    | false =>
      rw [List.takeWhile_cons_of_pos (by simp [honce])] at hbefore
      have hlaunch' : ∃ item ∈ items, launchesAtOnce s.keys item = true := by
        obtain ⟨other, hother, honce'⟩ := hlaunch
        rcases List.mem_cons.mp hother with rfl | hother
        · rw [honce] at honce'
          cases honce'
        · exact ⟨other, hother, honce'⟩
      have hrest : ∀ filterSequences, ∀ t ∈ (KeyCommandHandler.forCandidates nowTime (i + 1) items
          { s with filterSequences }).state.timers.timers, t ∈ s.timers.timers :=
        fun filterSequences => ih (i + 1) { s with filterSequences }
          (fun other hother => hsome other (List.mem_cons_of_mem item hother)) hlaunch'
          fun other hother => hbefore other (List.mem_cons_of_mem item hother)
      cases hturn with
      | atOnce honce' =>
        rw [honce] at honce'
        cases honce'
      | later hlater r hr =>
        have hneg := hbefore item List.mem_cons_self hlater
        have hsame : r.2 = s := by
          rw [hr]
          exact s.addTimer_failed hneg
        rw [hsame]
        exact hrest _ t
      | compared _ => exact hrest _ t

/-! ## A candidate has the timer -/

/-- Every pending launch is called once, has a candidate, and there are keys to join. -/
structure Held (s : KeyCommandHandler) : Prop where
  once : ∀ t ∈ s.timers.timers, PendingLaunch t → t.repeatCount = 1 ∧ 0 ≤ t.callbackCount
  held : ∀ t ∈ s.timers.timers, PendingLaunch t → ∃ item ∈ s.filterSequences, item.timerId = t.id
  typed : ∀ t ∈ s.timers.timers, PendingLaunch t → s.keys ≠ []

/-- No step takes the candidates away from a pending launch: a pause, a time that goes back,
a launch at once behind a candidate that gets a timer, and the end of one of two delays. -/
def Keeps (s : KeyCommandHandler) : KeyCommandInput → Prop
  | .key keyEvent nowTime =>
      (∀ last ∈ s.keys.getLast?, keyEvent.actionTime.toInt < last.actionTime ∨
        KeyCommandHandler.pauses keyEvent last → NonePending s) ∧
      ∀ start ∈ (s.handleShortKeys nowTime keyEvent).2.loopStart keyEvent,
        (∃ item ∈ start.filterSequences, launchesAtOnce start.keys item = true) →
          ∀ item ∈ beforeAtOnce start, launchesLater start.keys item = true →
            start.launchTimer nowTime item < 0
  | .processNext nowTime =>
      ∀ t ∈ s.timers.timers.head?, t.nextCallTime ≤ nowTime → PendingLaunch t →
        ∀ other ∈ s.timers.timers.tail, ¬ PendingLaunch other
  | _ => True

namespace Held

theorem of_none (h : NonePending s) : Held s :=
  ⟨fun t ht hpending => absurd hpending (h t ht), fun t ht hpending => absurd hpending (h t ht),
    fun t ht hpending => absurd hpending (h t ht)⟩

theorem of_pending (h : Held s) {t : KeyCommandHandler} (hpending : PendingFrom s.timers t.timers)
    (hlist : t.filterSequences = s.filterSequences) (hkeys : t.keys = s.keys) : Held t := by
  have hfrom : ∀ x ∈ t.timers.timers, PendingLaunch x → ∃ x0 ∈ s.timers.timers, PendingLaunch x0 ∧
      x.id = x0.id ∧ x.repeatCount = x0.repeatCount ∧
      (0 ≤ x0.callbackCount → 0 ≤ x.callbackCount) := by
    intro x hx hlaunch
    obtain ⟨x0, hx0, hid, hcallback, hrepeat, hcount⟩ := hpending x hx hlaunch
    obtain ⟨sequence, hsequence⟩ := hlaunch
    exact ⟨x0, hx0, ⟨sequence, hcallback.symm.trans hsequence⟩, hid, hrepeat, hcount⟩
  refine ⟨fun x hx hlaunch => ?_, fun x hx hlaunch => ?_, fun x hx hlaunch => ?_⟩
  · obtain ⟨x0, hx0, hlaunch0, _, hrepeat, hcount⟩ := hfrom x hx hlaunch
    obtain ⟨honce, hpos⟩ := h.once x0 hx0 hlaunch0
    exact ⟨hrepeat.trans honce, hcount hpos⟩
  · obtain ⟨x0, hx0, hlaunch0, hid, _⟩ := hfrom x hx hlaunch
    rw [hlist, hid]
    exact h.held x0 hx0 hlaunch0
  · obtain ⟨x0, hx0, hlaunch0, _⟩ := hfrom x hx hlaunch
    rw [hkeys]
    exact h.typed x0 hx0 hlaunch0

theorem addSequenceKey (h : Held s) {keyEvent : KeyEvent}
    (hforgets : ∀ last ∈ s.keys.getLast?, keyEvent.actionTime.toInt < last.actionTime ∨
      KeyCommandHandler.pauses keyEvent last → NonePending s) :
    Held (s.addSequenceKey keyEvent).2 := by
  have hnone : NonePending s → Held (s.addSequenceKey keyEvent).2 := by
    intro hnone
    refine .of_none (PendingFrom.nonePending (.of_subset fun t ht _ => ?_) hnone)
    exact s.addSequenceKey_removes keyEvent t ht
  have hadds := addSequenceKey_adds s keyEvent
  generalize s.addSequenceKey keyEvent = r at hadds hnone ⊢
  cases hadds with
  | first hnil => exact hnone fun t ht hpending => h.typed t ht hpending hnil
  | backwards last hlast hback => exact hnone (hforgets last hlast (.inl hback))
  | pause last hlast hpause => exact hnone (hforgets last hlast (.inr hpause))
  | repeats _ _ _ _ => exact h
  | joins last _ _ =>
    -- `InterruptTimers` has taken all of them.
    refine .of_none fun t ht hpending => ?_
    have hpush : ∀ (s : KeyCommandHandler) size key, (s.pushKey size key).2.timers = s.timers := by
      intro s size key
      unfold KeyCommandHandler.pushKey
      split <;> rfl
    rw [hpush] at ht
    have ht : t ∈ ((s.filterSequences.filter fun item => 0 ≤ item.timerId).foldl
      (fun timers item => (timers.removeTimer item.timerId).2) s.timers).timers := ht
    rw [TimerManager.foldl_removeTimer_timers, List.mem_filter, decide_eq_true_eq] at ht
    obtain ⟨item, hitem, heq⟩ := h.held t ht.1 hpending
    have hpos := (s.timers.range t ht.1).1
    refine ht.2 (List.mem_map.mpr ⟨item, List.mem_filter.mpr ⟨hitem, ?_⟩, heq⟩)
    exact decide_eq_true (heq ▸ hpos)

/-- The key is accepted with all pending launches cancelled. -/
theorem loopStart_none (h : Held s) {keyEvent : KeyEvent}
    (hforgets : ∀ last ∈ s.keys.getLast?, keyEvent.actionTime.toInt < last.actionTime ∨
      KeyCommandHandler.pauses keyEvent last → NonePending s) {start : KeyCommandHandler}
    (hstart : s.loopStart keyEvent = some start) : NonePending start := by
  rw [loopStart_nonePending_iff hstart]
  intro t ht hpending
  refine ⟨?_, h.held t ht hpending⟩
  have hsome : s.keys ≠ [] := h.typed t ht hpending
  have hadded : (s.addSequenceKey keyEvent).1 = true := by
    unfold KeyCommandHandler.loopStart at hstart
    split at hstart
    · cases hstart
    · by_contra hrefused
      rw [if_neg hrefused] at hstart
      cases hstart
  have hadds := addSequenceKey_adds s keyEvent
  generalize s.addSequenceKey keyEvent = r at hadds hadded
  cases hadds with
  | first hnil => exact absurd hnil hsome
  | backwards _ _ _ => cases hadded
  | pause last hlast hpause => exact absurd hpending (hforgets last hlast (.inr hpause) t ht)
  | repeats _ _ _ _ => cases hadded
  | joins last hlast hjoins => exact ⟨last, hlast, hjoins⟩

theorem settle {start : KeyCommandHandler} (hnone : NonePending start) (hkeys : start.keys ≠ [])
    (hsome : ∀ item ∈ start.filterSequences, item.sequenceKeys ≠ []) (nowTime : Int)
    (hbefore : (∃ item ∈ start.filterSequences, launchesAtOnce start.keys item = true) →
      ∀ item ∈ beforeAtOnce start, launchesLater start.keys item = true →
        start.launchTimer nowTime item < 0) :
    Held (KeyCommandHandler.settle (start.pass nowTime)) := by
  have hremoves := settle_removes (start.pass nowTime)
  by_cases hquiet : ∀ item ∈ start.filterSequences, launchesAtOnce start.keys item = false
  · have hadds := forCandidates_adds nowTime start.filterSequences 0 start
    have hheld := forCandidates_held nowTime start.filterSequences 0 start hquiet
    have hsame := (pass_keys start nowTime).2 hquiet
    obtain ⟨_, _, _, _, hsettle⟩ := KeyCommandHandler.settle_frame (start.pass nowTime)
    have hlist : (KeyCommandHandler.settle (start.pass nowTime)).filterSequences
        = if (start.pass nowTime).tempSeqs.isEmpty then (start.pass nowTime).state.filterSequences
          else (start.pass nowTime).tempSeqs := by
      rw [hsettle]
    refine ⟨fun t ht hpending => ?_, fun t ht hpending => ?_, fun _ _ _ => ?_⟩
    · rcases hadds t (hremoves t ht) with hold | ⟨_, hrepeat, hcount⟩
      · exact absurd hpending (hnone t hold)
      · exact ⟨hrepeat, hcount.ge⟩
    · rcases hheld t (hremoves t ht) with hold | ⟨item, hitem, hid⟩
      · exact absurd hpending (hnone t hold)
      · have hitem : item ∈ (start.pass nowTime).tempSeqs := hitem
        have htemp : ¬ (start.pass nowTime).tempSeqs.isEmpty = true := by
          rw [List.isEmpty_iff]
          exact List.ne_nil_of_mem hitem
        refine ⟨item, ?_, hid⟩
        rw [hlist, if_neg htemp]
        exact hitem
    · rw [hsame]
      exact hkeys
  · push Not at hquiet
    obtain ⟨item, hitem, honce⟩ := hquiet
    have hlaunch : ∃ item ∈ start.filterSequences, launchesAtOnce start.keys item = true :=
      ⟨item, hitem, by simpa using honce⟩
    refine .of_none fun t ht hpending => hnone t ?_ hpending
    exact forCandidates_atOnce_none nowTime start.filterSequences 0 start hsome hlaunch
      (hbefore hlaunch) t (hremoves t ht)

theorem step (h : Held s) (hcandidates : Candidates (· ≠ []) s) (i : KeyCommandInput)
    (hkeeps : Keeps s i) : Held (keyCommandStep s i) := by
  cases i with
  | key keyEvent nowTime =>
    obtain ⟨hforgets, hbefore⟩ := hkeeps
    have hpendingShort := pendingFrom_handleShortKeys s nowTime keyEvent
    obtain ⟨_, _, _, _, hframe⟩ := s.handleShortKeys_frame nowTime keyEvent
    have hkeysShort : (s.handleShortKeys nowTime keyEvent).2.keys = s.keys := by rw [hframe]
    have hlistShort : (s.handleShortKeys nowTime keyEvent).2.filterSequences = s.filterSequences := by
      rw [hframe]
    have hshort : Held (s.handleShortKeys nowTime keyEvent).2 :=
      h.of_pending hpendingShort hlistShort hkeysShort
    have hcandidatesShort : Candidates (· ≠ []) (s.handleShortKeys nowTime keyEvent).2 := by
      rw [hframe]
      exact ⟨hcandidates.sequences, hcandidates.candidates, hcandidates.none⟩
    have hforgetsShort : ∀ last ∈ (s.handleShortKeys nowTime keyEvent).2.keys.getLast?,
        keyEvent.actionTime.toInt < last.actionTime ∨ KeyCommandHandler.pauses keyEvent last →
          NonePending (s.handleShortKeys nowTime keyEvent).2 := by
      rw [hkeysShort]
      exact fun last hlast hforget => hpendingShort.nonePending (hforgets last hlast hforget)
    have hafter : Held ((s.handleShortKeys nowTime keyEvent).2.handleSequences nowTime keyEvent).2 := by
      rw [KeyCommandHandler.handleSequences_eq]
      cases hstart : (s.handleShortKeys nowTime keyEvent).2.loopStart keyEvent with
      | some start =>
        obtain ⟨hcandidatesStart, _⟩ := hcandidatesShort.loopStart hstart
        obtain ⟨keys, hkeys⟩ := KeyCommandHandler.loopStart_keys hstart
        exact settle (hshort.loopStart_none hforgetsShort hstart) (by rw [hkeys]; simp)
          hcandidatesStart.candidates nowTime (hbefore start hstart)
      | none =>
        dsimp only
        split
        · exact hshort
        · exact hshort.addSequenceKey hforgetsShort
    have hpending := onHandleEvent_pending s nowTime keyEvent
    obtain ⟨_, _, _, hevent⟩ := s.onHandleEvent_frame nowTime keyEvent
    refine hafter.of_pending hpending ?_ ?_
    · rw [keyCommandStep, hevent]
    · rw [keyCommandStep, hevent]
  | processNext nowTime =>
    have hdescends := PendingFrom.of_descends (s.timers.processNext_descends nowTime)
    simp only [keyCommandStep, KeyCommandHandler.processNext]
    cases hfired : (s.timers.processNext nowTime).1 with
    | idle => exact h.of_pending hdescends rfl rfl
    | dropped => exact h.of_pending hdescends rfl rfl
    | fired closure =>
      cases closure with
      | shortcut _ => exact h.of_pending hdescends rfl rfl
      | special _ => exact h.of_pending hdescends rfl rfl
      | subscriber _ _ => exact h.of_pending hdescends rfl rfl
      | other _ => exact h.of_pending hdescends rfl rfl
      | sequence sequence =>
        -- It was the only one.
        refine .of_none ?_
        rcases s.timers.processNext_cases nowTime with
          ⟨_, hidle⟩ | ⟨t, rest, htimers, hdue, ⟨_, _, hthis, hrest⟩ | ⟨_, hdropped, _⟩ |
            ⟨hmore, hthis, _⟩⟩
        · rw [hidle] at hfired
          cases hfired
        · have hpending : PendingLaunch t :=
            ⟨sequence, Processed.fired.inj (hthis.symm.trans hfired)⟩
          intro other hother
          have hother : other ∈ (s.timers.processNext nowTime).2.timers := hother
          rw [hrest] at hother
          exact hkeeps t (by rw [htimers]; rfl) hdue hpending other (by rw [htimers]; exact hother)
        · cases hdropped.symm.trans hfired
        · have hpending : PendingLaunch t :=
            ⟨sequence, Processed.fired.inj (hthis.symm.trans hfired)⟩
          have hmem : t ∈ s.timers.timers := by
            rw [htimers]
            exact List.mem_cons_self
          obtain ⟨honce, hpos⟩ := h.once t hmem hpending
          exact absurd ⟨by omega, by omega⟩ hmore
  | addSubscriberTimer ref finalKey nowTime duration =>
    have hadds := PendingFrom.addTimer s.timers nowTime duration 1 (.subscriber ref finalKey)
      fun _ h => nomatch h
    simp only [keyCommandStep, KeyCommandHandler.addSubscriberTimer]
    split
    · exact h
    · split <;> exact h.of_pending hadds rfl rfl
  | clearSubscriberTimer ref =>
    simp only [keyCommandStep, KeyCommandHandler.clearSubscriberTimer]
    split
    · exact h
    · exact h.of_pending (.of_descends (s.timers.removeTimer_descends _)) rfl rfl
  | otherAdd component nowTime intervalMs repeatCount =>
    exact h.of_pending (.addTimer s.timers nowTime intervalMs repeatCount (.other component)
      fun _ h => nomatch h) rfl rfl
  | otherRemove timerId => exact h.of_pending (.of_descends (s.timers.removeTimer_descends timerId)) rfl rfl
  | otherReset nowTime timerId =>
    exact h.of_pending (.of_descends (s.timers.resetTimer_descends nowTime timerId)) rfl rfl

end Held

/-! ## A further key -/

theorem pendingFrom_addSequenceKey (s : KeyCommandHandler) (keyEvent : KeyEvent) :
    PendingFrom s.timers (s.addSequenceKey keyEvent).2.timers :=
  .of_subset fun t ht _ => s.addSequenceKey_removes keyEvent t ht

/-- A key accepted finds no launch pending when its own are added, and leaves those of the
sequences that it completes. No other step adds a launch. -/
def Cancels (s : KeyCommandHandler) : KeyCommandInput → Prop
  | .key keyEvent nowTime =>
      (∀ start ∈ (s.handleShortKeys nowTime keyEvent).2.loopStart keyEvent,
        NonePending start ∧
          ∀ t ∈ (keyCommandStep s (.key keyEvent nowTime)).timers.timers,
            ∀ sequence, t.callback = .sequence sequence →
              sequence ∈ start.filterSequences ∧ launchesLater start.keys sequence = true) ∧
      ((s.handleShortKeys nowTime keyEvent).2.loopStart keyEvent = none →
        PendingFrom s.timers (keyCommandStep s (.key keyEvent nowTime)).timers)
  | i => PendingFrom s.timers (keyCommandStep s i).timers

/-- An accepted key joins those typed, and the candidates have the timers of all pending
launches; or none is pending. -/
def Cancellable (s : KeyCommandHandler) : KeyCommandInput → Prop
  | .key keyEvent nowTime =>
      ((s.handleShortKeys nowTime keyEvent).2.loopStart keyEvent).isSome = true →
        ∀ t ∈ (s.handleShortKeys nowTime keyEvent).2.timers.timers, PendingLaunch t →
          (∃ last ∈ s.keys.getLast?, s.joins keyEvent last) ∧
            ∃ item ∈ s.filterSequences, item.timerId = t.id
  | _ => True

/-- Outside the accepted keys a launch is only put off. -/
theorem pendingFrom_step (s : KeyCommandHandler) (i : KeyCommandInput)
    (h : ∀ keyEvent nowTime, i = .key keyEvent nowTime →
      (s.handleShortKeys nowTime keyEvent).2.loopStart keyEvent = none) :
    PendingFrom s.timers (keyCommandStep s i).timers := by
  cases i with
  | key keyEvent nowTime =>
    have hrefused : PendingFrom (s.handleShortKeys nowTime keyEvent).2.timers
        ((s.handleShortKeys nowTime keyEvent).2.handleSequences nowTime keyEvent).2.timers := by
      rw [KeyCommandHandler.handleSequences_eq, h keyEvent nowTime rfl]
      dsimp only
      split
      · exact .refl _
      · exact pendingFrom_addSequenceKey _ keyEvent
    exact ((pendingFrom_handleShortKeys s nowTime keyEvent).trans hrefused).trans
      (onHandleEvent_pending s nowTime keyEvent)
  | processNext nowTime =>
    have hdescends := PendingFrom.of_descends (s.timers.processNext_descends nowTime)
    simp only [keyCommandStep, KeyCommandHandler.processNext]
    cases (s.timers.processNext nowTime).1 with
    | idle => exact hdescends
    | dropped => exact hdescends
    | fired closure => cases closure <;> exact hdescends
  | addSubscriberTimer ref finalKey nowTime duration =>
    have hadds := PendingFrom.addTimer s.timers nowTime duration 1 (.subscriber ref finalKey)
      fun _ h => nomatch h
    simp only [keyCommandStep, KeyCommandHandler.addSubscriberTimer]
    split
    · exact .refl _
    · split <;> exact hadds
  | clearSubscriberTimer ref =>
    simp only [keyCommandStep, KeyCommandHandler.clearSubscriberTimer]
    split
    · exact .refl _
    · exact .of_descends (s.timers.removeTimer_descends _)
  | otherAdd component nowTime intervalMs repeatCount =>
    exact .addTimer s.timers nowTime intervalMs repeatCount (.other component) fun _ h => nomatch h
  | otherRemove timerId => exact .of_descends (s.timers.removeTimer_descends timerId)
  | otherReset nowTime timerId => exact .of_descends (s.timers.resetTimer_descends nowTime timerId)

/-- The launches after the loop, if it starts without any. -/
theorem completed_of_settle {start : KeyCommandHandler} (hnone : NonePending start)
    (hsome : ∀ item ∈ start.filterSequences, item.sequenceKeys ≠ []) (nowTime : Int) :
    ∀ t ∈ (KeyCommandHandler.settle (start.pass nowTime)).timers.timers,
      ∀ sequence, t.callback = .sequence sequence →
        sequence ∈ start.filterSequences ∧ launchesLater start.keys sequence = true := by
  intro t ht sequence hcallback
  rcases forCandidates_adds nowTime start.filterSequences 0 start t
    (settle_removes (start.pass nowTime) t ht) with hold | ⟨⟨sequence', hmem, hclosure, hlater⟩, _⟩
  · exact absurd ⟨sequence, hcallback⟩ (hnone t hold)
  · obtain rfl := TimerClosure.sequence.inj (hcallback.symm.trans hclosure)
    exact ⟨hmem, hlater.resolve_right (hsome sequence hmem)⟩

theorem cancels_iff (h : Candidates (· ≠ []) s) (i : KeyCommandInput) :
    Cancels s i ↔ Cancellable s i := by
  cases i with
  | key keyEvent nowTime =>
    obtain ⟨_, _, _, _, hframe⟩ := s.handleShortKeys_frame nowTime keyEvent
    have hcandidates : Candidates (· ≠ []) (s.handleShortKeys nowTime keyEvent).2 := by
      rw [hframe]
      exact ⟨h.sequences, h.candidates, h.none⟩
    have hjoins : ∀ last, (s.handleShortKeys nowTime keyEvent).2.joins keyEvent last ↔
        s.joins keyEvent last := by
      intro last
      rw [hframe]
      exact Iff.rfl
    have hkeys : (s.handleShortKeys nowTime keyEvent).2.keys = s.keys := by rw [hframe]
    have hlist : (s.handleShortKeys nowTime keyEvent).2.filterSequences = s.filterSequences := by
      rw [hframe]
    simp only [Cancels, Cancellable]
    cases hstart : (s.handleShortKeys nowTime keyEvent).2.loopStart keyEvent with
    | none =>
      refine iff_of_true ⟨(fun _ h => nomatch h), fun _ => ?_⟩ (fun hsome => nomatch hsome)
      refine pendingFrom_step s (.key keyEvent nowTime) ?_
      rintro _ _ ⟨rfl, rfl⟩
      exact hstart
    | some start =>
      have hiff := loopStart_nonePending_iff hstart
      simp only [hjoins, hkeys, hlist] at hiff
      obtain ⟨hcandidatesStart, _⟩ := hcandidates.loopStart hstart
      have hcompleted : NonePending start →
          ∀ t ∈ (keyCommandStep s (.key keyEvent nowTime)).timers.timers,
            ∀ sequence, t.callback = .sequence sequence →
              sequence ∈ start.filterSequences ∧ launchesLater start.keys sequence = true := by
        intro hnone t ht sequence hcallback
        obtain ⟨t', ht', _, hcallback', _⟩ :=
          onHandleEvent_pending s nowTime keyEvent t ht ⟨sequence, hcallback⟩
        rw [KeyCommandHandler.handleSequences_eq, hstart] at ht'
        exact completed_of_settle hnone hcandidatesStart.candidates nowTime t' ht' sequence
          (hcallback'.symm.trans hcallback)
      constructor
      · exact fun hcancels _ => hiff.mp (hcancels.1 start rfl).1
      · intro hcancellable
        have hnone := hiff.mpr (hcancellable rfl)
        refine ⟨fun start' hstart' => ?_, (fun h => nomatch h)⟩
        obtain rfl := Option.some.inj hstart'
        exact ⟨hnone, hcompleted hnone⟩
  | processNext nowTime =>
    exact iff_of_true (pendingFrom_step s (.processNext nowTime) fun _ _ h => nomatch h) trivial
  | addSubscriberTimer ref finalKey nowTime duration =>
    exact iff_of_true (pendingFrom_step s (.addSubscriberTimer ref finalKey nowTime duration)
      fun _ _ h => nomatch h) trivial
  | clearSubscriberTimer ref =>
    exact iff_of_true (pendingFrom_step s (.clearSubscriberTimer ref) fun _ _ h => nomatch h) trivial
  | otherAdd component nowTime intervalMs repeatCount =>
    exact iff_of_true (pendingFrom_step s (.otherAdd component nowTime intervalMs repeatCount)
      fun _ _ h => nomatch h) trivial
  | otherRemove timerId =>
    exact iff_of_true (pendingFrom_step s (.otherRemove timerId) fun _ _ h => nomatch h) trivial
  | otherReset nowTime timerId =>
    exact iff_of_true (pendingFrom_step s (.otherReset nowTime timerId) fun _ _ h => nomatch h) trivial

theorem Held.cancellable (h : Held s) (i : KeyCommandInput) (hkeeps : Keeps s i) :
    Cancellable s i := by
  cases i with
  | key keyEvent nowTime =>
    intro hsome t ht hpending
    obtain ⟨start, hstart⟩ := Option.isSome_iff_exists.mp hsome
    obtain ⟨_, _, _, _, hframe⟩ := s.handleShortKeys_frame nowTime keyEvent
    have hpendingShort := pendingFrom_handleShortKeys s nowTime keyEvent
    have hshort : Held (s.handleShortKeys nowTime keyEvent).2 :=
      h.of_pending hpendingShort (by rw [hframe]) (by rw [hframe])
    have hforgets : ∀ last ∈ (s.handleShortKeys nowTime keyEvent).2.keys.getLast?,
        keyEvent.actionTime.toInt < last.actionTime ∨ KeyCommandHandler.pauses keyEvent last →
          NonePending (s.handleShortKeys nowTime keyEvent).2 := by
      intro last hlast hforget
      rw [hframe] at hlast
      exact hpendingShort.nonePending (hkeeps.1 last hlast hforget)
    have hcond := (loopStart_nonePending_iff hstart).mp (hshort.loopStart_none hforgets hstart) t ht
      hpending
    rw [hframe] at hcond
    exact hcond
  | processNext _ => trivial
  | addSubscriberTimer _ _ _ _ => trivial
  | clearSubscriberTimer _ => trivial
  | otherAdd _ _ _ _ => trivial
  | otherRemove _ => trivial
  | otherReset _ _ => trivial

theorem create_candidates (config : Config) : Candidates (· ≠ []) (.create config) where
  sequences sequence hsequence :=
    (isSequenceKeysValid_length (config.configured sequence hsequence).keys).1
  candidates _ h := nomatch h
  none _ := rfl

/-- In a run each further key cancels what is pending, precisely if it can; and it can if no
step before has taken the candidates away. -/
theorem run_cancels_iff (config : Config) (is : List KeyCommandInput) :
    (AllSteps keyCommandStep Cancels (.create config) is ↔
        AllSteps keyCommandStep Cancellable (.create config) is) ∧
      (AllSteps keyCommandStep Keeps (.create config) is →
        AllSteps keyCommandStep Cancellable (.create config) is) := by
  constructor
  · exact allSteps_iff_of_step (fun _ i h => h.step i) (fun _ i h => cancels_iff h i) is _
      (create_candidates config)
  · have hinit : Held (.create config) ∧ Candidates (· ≠ []) (.create config) :=
      ⟨.of_none (fun _ h => nomatch h), create_candidates config⟩
    have hstep : ∀ s i, Held s ∧ Candidates (· ≠ []) s → Keeps s i →
        Held (keyCommandStep s i) ∧ Candidates (· ≠ []) (keyCommandStep s i) :=
      fun s i h hkeeps => ⟨h.1.step h.2 i hkeeps, h.2.step i⟩
    exact allSteps_of_allSteps hstep (fun _ i h hkeeps => h.1.cancellable i hkeeps) is _ hinit

/-- One key, and the ability two seconds later. -/
def launchMuchLater : Config where
  shortcuts := []
  sequences := [{
    sequenceKeys := [{ keyCode := keyCodeVolumeUp, keyAction := keyActionDown }]
    abilityStartDelay := 2000000 }]
  configured := by
    intro sequence hsequence
    rw [List.mem_singleton.mp hsequence]
    exact ⟨rfl, by simp, by decide, rfl⟩

/-- The key that comes after a pause starts anew, and the launch stays. -/
theorem counterexample_cancels :
    ¬ ∀ (config : Config) (is : List KeyCommandInput),
      AllSteps keyCommandStep Cancels (.create config) is := by
  intro h
  have hcancels := (h launchMuchLater [.key (pressed keyCodeVolumeUp 1) 0,
    .key (pressed keyCodePower 1500000) 1500]).2.1
  exact absurd (hcancels.1 (Option.get _ (by decide +kernel)) (Option.get_mem _)).1
    (by decide +kernel)

end FtMmi.KeyCommand
