/-
FtMmi.KeyCommand.SpecialTimers — the delays of the special keys.

The handler keeps for each key a list of the ids of its delays: at the end
a new id is put in, at the front one is taken off when a delay is over,
and all go when the key is claimed. All delays are of one length, so a
timer that is added later is called later, and the list is that of the
timers of the key in the order in which the manager calls them. For that
no other part of the handler may remove such a timer, whatever id it holds
(`ShortcutIds`, `SequenceIds`, `SubscriberIds`), and no other component may
remove or reset one (`SparesHandler`): the manager looks at the id only, and
a component that has kept an id too long names a timer that is not its own.
-/
import FtMmi.KeyCommand.ClaimedKeys
import FtMmi.KeyCommand.HeldIds
import FtMmi.Timer.NeverEarly

namespace FtMmi.KeyCommand

open FtMmi.Event
open FtMmi.EventHandler
open FtMmi.Lib
open FtMmi.Timer

/-! ## Delays -/

/-- The closure hands the key on to the subscribers. -/
def delaysKey (keyCode : Int32) : TimerClosure → Bool
  | .special keyEvent => keyEvent.keyCode = keyCode
  | _ => false

theorem delaysKey_special {keyCode : Int32} {closure : TimerClosure}
    (h : delaysKey keyCode closure = true) : ofKind .special closure = true := by
  cases closure <;> first | rfl | cases h

theorem ofKind_not_delaysKey {kind : TimerKind} (hkind : kind ≠ .special) (keyCode : Int32)
    (closure : TimerClosure) (h : ofKind kind closure = true) :
    delaysKey keyCode closure = false := by
  cases closure with
  | special _ => exact absurd (of_decide_eq_true h).symm hkind
  | _ => rfl

/-! ## Runs -/

/-- A configuration as it is parsed: no shortcut has a timer. -/
structure ParsedConfig extends Config where
  shortcutTimers : ∀ key ∈ shortcuts, key.timerId = -1

/-- What happens to the handler. Of the clock readings only those for key events
need be in order. -/
inductive KeyUse where
  | key (keyEvent : KeyEvent) (elapsed : Nat)
  | processNext (nowTime : Int)
  | addSubscriberTimer (ref : Nat) (finalKey : Int32) (nowTime duration : Int)
  | clearSubscriberTimer (ref : Nat)
  | otherAdd (component : Nat) (nowTime intervalMs repeatCount : Int)
  | otherRemove (timerId : Int)
  | otherReset (nowTime timerId : Int)

/-- The handler, and the reading for its last key event. -/
structure TimedHandler where
  handler : KeyCommandHandler
  now : Int

namespace TimedHandler

def create (config : ParsedConfig) (now : Int) : TimedHandler := ⟨.create config.toConfig, now⟩

def handlerStep (s : TimedHandler) : KeyUse → KeyCommandHandler
  | .key keyEvent elapsed => keyCommandStep s.handler (.key keyEvent (s.now + elapsed))
  | .processNext nowTime => keyCommandStep s.handler (.processNext nowTime)
  | .addSubscriberTimer ref finalKey nowTime duration =>
      keyCommandStep s.handler (.addSubscriberTimer ref finalKey nowTime duration)
  | .clearSubscriberTimer ref => keyCommandStep s.handler (.clearSubscriberTimer ref)
  | .otherAdd component nowTime intervalMs repeatCount =>
      keyCommandStep s.handler (.otherAdd component nowTime intervalMs repeatCount)
  | .otherRemove timerId => keyCommandStep s.handler (.otherRemove timerId)
  | .otherReset nowTime timerId => keyCommandStep s.handler (.otherReset nowTime timerId)

def step (s : TimedHandler) (i : KeyUse) : TimedHandler where
  handler := s.handlerStep i
  now :=
    match i with
    | .key _ elapsed => s.now + elapsed
    | _ => s.now

end TimedHandler

/-! ## The property -/

/-- The timers of a key's delays, in the order in which they are called. -/
def KeyCommandHandler.delaysOf (s : KeyCommandHandler) (keyCode : Int32) :
    List (TimerItem TimerClosure) :=
  s.timers.timers.filter fun t => delaysKey keyCode t.callback

/-- The list of a key has the ids of its delays, in their order. -/
structure DelaysListed (s : KeyCommandHandler) : Prop where
  order : InOrder s.timers.timers
  ids : ∀ keyCode, (s.specialTimers keyCode).getD [] = (s.delaysOf keyCode).map TimerItem.id

/-- The callback of a delay takes its own id off the list. -/
def PopsFront (s : TimedHandler) : KeyUse → Prop
  | .processNext nowTime =>
      ∀ t ∈ s.handler.timers.timers.head?, t.nextCallTime ≤ nowTime →
        ∀ keyEvent, t.callback = .special keyEvent →
          ∃ rest, s.handler.specialTimers keyEvent.keyCode = some (t.id :: rest)
  | _ => True

/-- Other components remove and reset no timer of the handler or the subscribers. -/
def SparesHandler (s : TimedHandler) : KeyUse → Prop
  | .otherRemove timerId => s.handler.timers.Owns (ofKind .other) timerId
  | .otherReset _ timerId => s.handler.timers.Owns (ofKind .other) timerId
  | _ => True

instance (s : TimedHandler) : (i : KeyUse) → Decidable (SparesHandler s i)
  | .otherRemove timerId => inferInstanceAs (Decidable (∀ t ∈ s.handler.timers.timers,
      t.id = timerId → ofKind .other t.callback = true))
  | .otherReset _ timerId => inferInstanceAs (Decidable (∀ t ∈ s.handler.timers.timers,
      t.id = timerId → ofKind .other t.callback = true))
  | .key .. => isTrue trivial
  | .processNext _ => isTrue trivial
  | .addSubscriberTimer .. => isTrue trivial
  | .clearSubscriberTimer _ => isTrue trivial
  | .otherAdd .. => isTrue trivial

/-! ## The invariant -/

/-- The invariant; `now` is the reading for the last key event. -/
structure Kept (s : KeyCommandHandler) (now : Int) : Prop where
  delays : DelaysListed s
  soon : ∀ t ∈ s.timers.timers, ofKind .special t.callback = true →
    t.nextCallTime ≤ now + specialKeyDownDelay
  shortcuts : ShortcutIds s
  sequences : SequenceIds s
  subscribers : SubscriberIds s

variable {s t : KeyCommandHandler} {own : TimerClosure → Bool} {now : Int}

/-! ## One part of the handler -/

/-- The delays are as they were when only other timers come and go. -/
theorem DelaysListed.of_touches (h : DelaysListed s) (htouches : Touches own s.timers t.timers)
    (hother : ∀ closure, ofKind .special closure = true → own closure = false)
    (hspecial : t.specialTimers = s.specialTimers) : DelaysListed t where
  order := htouches.order h.order
  ids keyCode := by
    have hsame : t.delaysOf keyCode = s.delaysOf keyCode :=
      htouches.filter fun timer hdelays => hother _ (delaysKey_special hdelays)
    rw [hspecial, hsame]
    exact h.ids keyCode

/-- No delay is new. -/
theorem Kept.soon_of_touches (h : Kept s now) (htouches : Touches own s.timers t.timers)
    (hother : ∀ closure, ofKind .special closure = true → own closure = false) :
    ∀ timer ∈ t.timers.timers, ofKind .special timer.callback = true →
      timer.nextCallTime ≤ now + specialKeyDownDelay :=
  fun timer htimer hkind => h.soon timer ((htouches.mem_iff (hother _ hkind)).mp htimer) hkind

theorem Kept.later {later : Int} (h : Kept s now) (hlater : now ≤ later) : Kept s later :=
  { h with
    soon := fun timer htimer hkind => by
      have hsoon := h.soon timer htimer hkind
      omega }

theorem Kept.of_shortcuts (h : Kept s now) (htouches : Touches (ofKind .shortcut) s.timers t.timers)
    (hids : ShortcutIds t) (heq : t = { s with
      lastMatchedKey := t.lastMatchedKey, shortcutKeys := t.shortcutKeys, timers := t.timers,
      launched := t.launched }) : Kept t now where
  delays := h.delays.of_touches htouches (ofKind_ne (by decide)) (by rw [heq])
  soon := h.soon_of_touches htouches (ofKind_ne (by decide))
  shortcuts := hids
  sequences := h.sequences.of_touches htouches (ofKind_ne (by decide)) (by rw [heq]) (by rw [heq])
  subscribers := h.subscribers.of_touches htouches fun entry hentry => by
    rw [heq] at hentry
    exact ⟨hentry, rfl⟩

theorem Kept.of_sequences (h : Kept s now) (htouches : Touches (ofKind .sequence) s.timers t.timers)
    (hids : SequenceIds t) (heq : t = { s with
      keys := t.keys, filterSequences := t.filterSequences, timers := t.timers,
      launched := t.launched }) : Kept t now where
  delays := h.delays.of_touches htouches (ofKind_ne (by decide)) (by rw [heq])
  soon := h.soon_of_touches htouches (ofKind_ne (by decide))
  shortcuts := h.shortcuts.of_touches htouches (ofKind_ne (by decide)) (by rw [heq]) (by rw [heq])
  sequences := hids
  subscribers := h.subscribers.of_touches htouches fun entry hentry => by
    rw [heq] at hentry
    exact ⟨hentry, rfl⟩

/-- Subscribers go together with their timers. -/
theorem Kept.of_subscribers {p : Nat → Int32 → Bool} (h : Kept s now)
    (htouches : Touches (ofSubscriber p) s.timers t.timers)
    (hentries : ∀ entry ∈ t.subscribers,
      entry ∈ s.subscribers ∧ p entry.ref entry.finalKey = false)
    (heq : t = { s with timers := t.timers, subscribers := t.subscribers }) : Kept t now where
  delays := h.delays.of_touches htouches (ofKind_not_ofSubscriber (by decide) p) (by rw [heq])
  soon := h.soon_of_touches htouches (ofKind_not_ofSubscriber (by decide) p)
  shortcuts := h.shortcuts.of_touches htouches (ofKind_not_ofSubscriber (by decide) p)
    (by rw [heq]) (by rw [heq])
  sequences := h.sequences.of_touches htouches (ofKind_not_ofSubscriber (by decide) p)
    (by rw [heq]) (by rw [heq])
  subscribers := h.subscribers.of_touches htouches hentries

theorem Kept.of_others {timers : TimerManager TimerClosure} (h : Kept s now)
    (htouches : Touches (ofKind .other) s.timers timers) : Kept { s with timers } now where
  delays := h.delays.of_touches htouches (ofKind_ne (by decide)) rfl
  soon := h.soon_of_touches htouches (ofKind_ne (by decide))
  shortcuts := h.shortcuts.of_touches htouches (ofKind_ne (by decide)) rfl rfl
  sequences := h.sequences.of_touches htouches (ofKind_ne (by decide)) rfl rfl
  subscribers := h.subscribers.of_touches htouches fun _ hentry => ⟨hentry, rfl⟩

/-- The delays of other keys are not touched with those of the key. -/
theorem DelaysListed.of_delays {keyCode : Int32} (h : DelaysListed s)
    (htouches : Touches (delaysKey keyCode) s.timers t.timers)
    (hother : ∀ keyCode', keyCode' ≠ keyCode → t.specialTimers keyCode' = s.specialTimers keyCode')
    (hids : (t.specialTimers keyCode).getD [] = (t.delaysOf keyCode).map TimerItem.id) :
    DelaysListed t where
  order := htouches.order h.order
  ids keyCode' := by
    by_cases hsame : keyCode' = keyCode
    · rw [hsame]
      exact hids
    · have hdelays : t.delaysOf keyCode' = s.delaysOf keyCode' := by
        refine htouches.filter fun timer hdelays => ?_
        cases hcallback : timer.callback with
        | special keyEvent =>
          rw [hcallback] at hdelays
          exact decide_eq_false fun h => hsame ((of_decide_eq_true hdelays).symm.trans h)
        | _ => rfl
      rw [hother keyCode' hsame, hdelays]
      exact h.ids keyCode'

theorem Kept.of_delays {keyCode : Int32} (h : Kept s now)
    (htouches : Touches (delaysKey keyCode) s.timers t.timers) (hdelays : DelaysListed t)
    (hsoon : ∀ timer ∈ t.timers.timers, ofKind .special timer.callback = true →
      timer.nextCallTime ≤ now + specialKeyDownDelay)
    (heq : t = { s with
      specialTimers := t.specialTimers, timers := t.timers, handedOn := t.handedOn }) :
    Kept t now where
  delays := hdelays
  soon := hsoon
  shortcuts := h.shortcuts.of_touches htouches (ofKind_not_delaysKey (by decide) keyCode)
    (by rw [heq]) (by rw [heq])
  sequences := h.sequences.of_touches htouches (ofKind_not_delaysKey (by decide) keyCode)
    (by rw [heq]) (by rw [heq])
  subscribers := h.subscribers.of_touches htouches fun entry hentry => by
    rw [heq] at hentry
    exact ⟨hentry, rfl⟩

/-! ## Claimed keys -/

theorem Kept.handleSpecialKeys (h : Kept s now) (keyCode keyAction : Int32) :
    Kept (s.handleSpecialKeys keyCode keyAction) now := by
  obtain ⟨_, heq⟩ := s.handleSpecialKeys_frame keyCode keyAction
  rw [heq]
  exact ⟨⟨h.delays.order, h.delays.ids⟩, h.soon, ⟨h.shortcuts.lastMatched, h.shortcuts.shortcuts⟩,
    ⟨h.sequences.sequences, h.sequences.candidates⟩, h.subscribers⟩

theorem Kept.removeSubscriberKeyUpTimer_touches (h : Kept s now) (keyCode : Int32) :
    Touches (ofSubscriber fun _ finalKey => finalKey = keyCode) s.timers
      (s.removeSubscriberKeyUpTimer keyCode).timers := by
  refine .foldl_removeTimer SubscriberTimer.timerId fun entry hentry => ?_
  obtain ⟨hmem, hkey⟩ := List.mem_filter.mp hentry
  obtain ⟨timer, htimer, hid, hcallback⟩ := h.subscribers entry hmem
  refine TimerManager.Names.owns ⟨timer, htimer, hid, ?_⟩
  rw [hcallback]
  exact hkey

theorem Kept.removeSubscriberKeyUpTimer (h : Kept s now) (keyCode : Int32) :
    Kept (s.removeSubscriberKeyUpTimer keyCode) now := by
  refine h.of_subscribers (h.removeSubscriberKeyUpTimer_touches keyCode) (fun entry hentry => ?_) rfl
  obtain ⟨hmem, hkey⟩ := List.mem_filter.mp hentry
  exact ⟨hmem, decide_eq_false (of_decide_eq_true hkey)⟩

/-- The ids that are listed go, and they are those of the key's delays. -/
theorem removeSubscribedTimer_timers (s : KeyCommandHandler) (keyCode : Int32) :
    (s.removeSubscribedTimer keyCode).timers.timers
      = s.timers.timers.filter fun t => t.id ∉ (s.specialTimers keyCode).getD [] := by
  unfold KeyCommandHandler.removeSubscribedTimer
  cases hlist : s.specialTimers keyCode with
  | none => simp
  | some timerIds =>
    have htimers := TimerManager.foldl_removeTimer_timers id timerIds s.timers
    rw [List.map_id] at htimers
    exact htimers

theorem Kept.removeSubscribedTimer_touches (h : Kept s now) (keyCode : Int32) :
    Touches (delaysKey keyCode) s.timers (s.removeSubscribedTimer keyCode).timers := by
  refine .of_filter (removeSubscribedTimer_timers s keyCode) fun timer htimer hlisted => ?_
  have hmem : timer.id ∈ (s.specialTimers keyCode).getD [] := by simpa using hlisted
  rw [h.delays.ids keyCode] at hmem
  obtain ⟨other, hother, hid⟩ := List.mem_map.mp hmem
  obtain ⟨hother, hdelays⟩ := List.mem_filter.mp hother
  rw [s.timers.eq_of_id htimer hother hid.symm]
  exact hdelays

theorem Kept.removeSubscribedTimer (h : Kept s now) (keyCode : Int32) :
    Kept (s.removeSubscribedTimer keyCode) now := by
  have htouches := h.removeSubscribedTimer_touches keyCode
  have htimers := removeSubscribedTimer_timers s keyCode
  have hlists : (s.removeSubscribedTimer keyCode).specialTimers
      = Function.update s.specialTimers keyCode none := by
    unfold KeyCommandHandler.removeSubscribedTimer
    split
    · rename_i hlist
      rw [← hlist, Function.update_eq_self]
    · rfl
  have hnone : (s.removeSubscribedTimer keyCode).delaysOf keyCode = [] := by
    rw [KeyCommandHandler.delaysOf, List.filter_eq_nil_iff]
    intro timer htimer hdelays
    rw [htimers, h.delays.ids keyCode] at htimer
    obtain ⟨hmem, hfree⟩ := List.mem_filter.mp htimer
    refine of_decide_eq_true hfree ?_
    exact List.mem_map_of_mem (List.mem_filter.mpr ⟨hmem, hdelays⟩)
  obtain ⟨_, _, hframe⟩ := s.removeSubscribedTimer_frame keyCode
  refine h.of_delays htouches (h.delays.of_delays htouches (fun keyCode' hne => ?_) ?_) ?_ ?_
  · rw [hlists, Function.update_of_ne hne]
  · rw [hnone, hlists, Function.update_self]
    rfl
  · intro timer htimer hkind
    rw [htimers] at htimer
    exact h.soon timer (List.mem_of_mem_filter htimer) hkind
  · rw [hframe]

theorem Kept.claimed_special (h : Kept s now) (item : SequenceKey) :
    Kept (if isSpecialType item.keyCode .keyDownAction then
      s.handleSpecialKeys item.keyCode item.keyAction else s) now := by
  split
  · exact h.handleSpecialKeys item.keyCode item.keyAction
  · exact h

theorem Kept.claimKey (h : Kept s now) (item : SequenceKey) : Kept (s.claimKey item) now :=
  ((h.claimed_special item).removeSubscriberKeyUpTimer item.keyCode).removeSubscribedTimer item.keyCode

theorem Kept.foldl_claimKey (h : Kept s now) (items : List SequenceKey) :
    Kept (items.foldl KeyCommandHandler.claimKey s) now := by
  induction items generalizing s with
  | nil => exact h
  | cons item items ih => exact ih (h.claimKey item)

/-! ## Key events -/

/-- The candidates are not read when a key is claimed. -/
theorem claimKey_candidates (s : KeyCommandHandler) (candidates : List Sequence)
    (item : SequenceKey) :
    { s with filterSequences := candidates }.claimKey item
      = { s.claimKey item with filterSequences := candidates } := by
  have hspecial : (if isSpecialType item.keyCode .keyDownAction then
      { s with filterSequences := candidates }.handleSpecialKeys item.keyCode item.keyAction
      else { s with filterSequences := candidates })
      = { (if isSpecialType item.keyCode .keyDownAction then
          s.handleSpecialKeys item.keyCode item.keyAction else s) with
          filterSequences := candidates } := by
    unfold KeyCommandHandler.handleSpecialKeys
    split
    · dsimp only
      split
      · rfl
      · split <;> rfl
    · rfl
  unfold KeyCommandHandler.claimKey
  dsimp only
  rw [hspecial]
  unfold KeyCommandHandler.removeSubscribedTimer KeyCommandHandler.removeSubscriberKeyUpTimer
  dsimp only
  split <;> rfl

theorem foldl_claimKey_candidates (items : List SequenceKey) (s : KeyCommandHandler)
    (candidates : List Sequence) :
    items.foldl KeyCommandHandler.claimKey { s with filterSequences := candidates }
      = { items.foldl KeyCommandHandler.claimKey s with filterSequences := candidates } := by
  induction items generalizing s with
  | nil => rfl
  | cons item items ih => rw [List.foldl_cons, claimKey_candidates, ih, List.foldl_cons]

theorem Kept.settle {p : Pass} (h : Kept p.state now) (htemp : Named p.state.timers p.tempSeqs) :
    Kept (KeyCommandHandler.settle p) now := by
  have hkept : Kept { p.state with filterSequences := p.tempSeqs } now :=
    h.of_sequences (.refl _) ⟨h.sequences.sequences, htemp⟩ rfl
  unfold KeyCommandHandler.settle KeyCommandHandler.claimKeys
  dsimp only
  split
  · split
    · exact h.foldl_claimKey p.state.keys
    · exact h
  · split
    · rw [← foldl_claimKey_candidates]
      exact hkept.foldl_claimKey p.state.keys
    · exact hkept

theorem Kept.handleShortKeys (h : Kept s now) (nowTime : Int) (keyEvent : KeyEvent) :
    Kept (s.handleShortKeys nowTime keyEvent).2 now := by
  obtain ⟨htouches, hids⟩ := h.shortcuts.handleShortKeys nowTime keyEvent
  obtain ⟨_, _, _, _, heq⟩ := s.handleShortKeys_frame nowTime keyEvent
  refine h.of_shortcuts htouches hids ?_
  rw [heq]

/-- The loop, and the candidates that it keeps. -/
theorem Kept.pass (h : Kept s now) {keyEvent : KeyEvent} {start : KeyCommandHandler}
    (hstart : s.loopStart keyEvent = some start) (nowTime : Int) :
    Kept (start.pass nowTime).state now ∧
      Named (start.pass nowTime).state.timers (start.pass nowTime).tempSeqs := by
  obtain ⟨htouches, hids⟩ := h.sequences.loopStart hstart
  obtain ⟨_, _, _, heq⟩ := KeyCommandHandler.loopStart_frame hstart
  have hkept : Kept start now := h.of_sequences htouches hids (by rw [heq])
  obtain ⟨hlooped, hlist, htemp⟩ := forCandidates_names nowTime start.filterSequences 0 start
    hids.candidates hids.candidates
  obtain ⟨_, _, _, _, hstate⟩ := pass_frame start nowTime
  refine ⟨hkept.of_sequences hlooped ⟨?_, hlist⟩ ?_, htemp⟩
  · rw [hstate]
    exact hids.sequences
  · rw [hstate]

theorem Kept.handleSequences (h : Kept s now) (nowTime : Int) (keyEvent : KeyEvent) :
    Kept (s.handleSequences nowTime keyEvent).2 now := by
  rw [KeyCommandHandler.handleSequences_eq]
  cases hstart : s.loopStart keyEvent with
  | none =>
    obtain ⟨htouches, hids⟩ := h.sequences.addSequenceKey keyEvent
    obtain ⟨_, _, _, heq⟩ := s.addSequenceKey_frame keyEvent
    dsimp only
    split
    · exact h
    · refine h.of_sequences htouches hids ?_
      rw [heq]
  | some start =>
    obtain ⟨hlooped, htemp⟩ := h.pass hstart nowTime
    exact hlooped.settle htemp

theorem Kept.delaySpecialKey (h : Kept s now) (key : KeyEvent) :
    Kept (s.delaySpecialKey now key).2 now := by
  have hids := h.delays.ids key.keyCode
  have hkind : delaysKey key.keyCode (.special key.copy) = true := decide_eq_true rfl
  have htouches : Touches (delaysKey key.keyCode) s.timers
      (s.addTimer now specialKeyDownDelay (.special key.copy)).2.timers :=
    .addTimer s.timers now specialKeyDownDelay 1 hkind
  have hadded : (s.addTimer now specialKeyDownDelay (.special key.copy)).1 < 0 ∨
      ∃ timer, timer.callback = .special key.copy ∧ timer.nextCallTime = now + specialKeyDownDelay ∧
        (s.addTimer now specialKeyDownDelay (.special key.copy)).1 = timer.id ∧
        (s.addTimer now specialKeyDownDelay (.special key.copy)).2.timers.timers
          = insertTimer timer s.timers.timers := by
    obtain ⟨_, hfail⟩ | ⟨timer, hcallback, _, _, _, _, hnext, hid, htimers⟩ :=
      s.timers.addTimer_inserts now specialKeyDownDelay 1 (.special key.copy)
    · refine .inl ?_
      show (s.timers.addTimer now specialKeyDownDelay 1 (some (.special key.copy))).1 < 0
      rw [hfail]
      exact show nonexistentId < 0 by decide
    · exact .inr ⟨timer, hcallback, TimerRequests.addInt64_some hnext, hid, htimers⟩
  unfold KeyCommandHandler.delaySpecialKey
  dsimp only
  split
  · rename_i hneg
    rw [s.addTimer_failed hneg]
    exact h
  · rename_i hpos
    obtain ⟨timer, hcallback, hnext, hid, htimers⟩ := hadded.resolve_left hpos
    refine h.of_delays htouches (h.delays.of_delays htouches (fun keyCode' hne => ?_) ?_) ?_ rfl
    · exact Function.update_of_ne hne _ _
    · -- The new timer is called last.
      have hlast := filter_insertTimer_of_latest (p := fun t => delaysKey key.keyCode t.callback)
        (t := timer) (by rw [hcallback]; exact hkind) h.delays.order fun other hother hdelays => by
          rw [hnext]
          exact h.soon other hother (delaysKey_special hdelays)
      show (Function.update s.specialTimers key.keyCode _ key.keyCode).getD [] = List.map _
        ((s.addTimer now specialKeyDownDelay (.special key.copy)).2.timers.timers.filter _)
      rw [Function.update_self, htimers, hlast, List.map_append, hid]
      exact congrArg (· ++ [timer.id]) hids
    · intro other hother hspecial
      have hother : other ∈ insertTimer timer s.timers.timers := htimers ▸ hother
      rcases mem_insertTimer.mp hother with rfl | hold
      · exact hnext.le
      · exact h.soon other hold hspecial

theorem Kept.onHandleEvent (h : Kept s now) (key : KeyEvent) :
    Kept (s.onHandleEvent now key).2 now := by
  have hafter := (h.handleShortKeys now key).handleSequences now key
  unfold KeyCommandHandler.onHandleEvent
  dsimp only
  split
  · exact hafter
  split
  · exact hafter.handleSpecialKeys key.keyCode key.action
  split
  · exact hafter.delaySpecialKey key
  · exact hafter

/-! ## Timers that are over -/

/-- The list of a key whose delay is over has the id in front. -/
theorem DelaysListed.front (h : DelaysListed s) {timer : TimerItem TimerClosure}
    {rest : List (TimerItem TimerClosure)} (htimers : s.timers.timers = timer :: rest)
    {keyEvent : KeyEvent} (hcallback : timer.callback = .special keyEvent) :
    s.specialTimers keyEvent.keyCode = some (timer.id ::
      (rest.filter fun t => delaysKey keyEvent.keyCode t.callback).map TimerItem.id) := by
  have hids := h.ids keyEvent.keyCode
  have hfirst : delaysKey keyEvent.keyCode timer.callback = true := by
    rw [hcallback]
    exact decide_eq_true rfl
  rw [KeyCommandHandler.delaysOf, htimers, List.filter_cons, if_pos hfirst, List.map_cons] at hids
  cases hlist : s.specialTimers keyEvent.keyCode with
  | none =>
    rw [hlist] at hids
    cases hids
  | some timerIds =>
    rw [hlist] at hids
    exact congrArg some hids

/-- The callback of a timer that is called once. -/
theorem Kept.onTimer (h : Kept s now) {timer : TimerItem TimerClosure}
    {rest : List (TimerItem TimerClosure)} (htimers : s.timers.timers = timer :: rest)
    {timers : TimerManager TimerClosure} (hrest : timers.timers = rest) :
    Kept ({ s with timers }.onTimer timer.callback) now := by
  have htouches : ∀ own : TimerClosure → Bool, own timer.callback = true →
      Touches own s.timers timers := by
    intro own hown
    refine ⟨?_, fun horder => ?_⟩
    · rw [hrest, htimers]
      simp [hown]
    · rw [hrest]
      rw [htimers] at horder
      exact (List.pairwise_cons.mp horder).2
  cases hcallback : timer.callback with
  | shortcut shortcutKey =>
    exact h.of_shortcuts (htouches _ (by rw [hcallback]; rfl))
      (.of_none h.shortcuts.shortcuts rfl) rfl
  | sequence sequence =>
    have hids : SequenceIds ({ s with timers }.launchSequence sequence) :=
      ⟨h.sequences.sequences,
        by simp [Named, KeyCommandHandler.launchSequence, KeyCommandHandler.resetSequenceKeys]⟩
    exact h.of_sequences (htouches _ (by rw [hcallback]; rfl)) hids rfl
  | special keyEvent =>
    have htouches := htouches (delaysKey keyEvent.keyCode)
      (by rw [hcallback]; exact decide_eq_true rfl)
    refine h.of_delays htouches (h.delays.of_delays htouches (fun keyCode' hne => ?_) ?_) ?_ rfl
    · exact Function.update_of_ne hne _ _
    · show (Function.update s.specialTimers keyEvent.keyCode _ keyEvent.keyCode).getD [] =
        (timers.timers.filter _).map _
      rw [Function.update_self, h.delays.front htimers hcallback, hrest]
      rfl
    · intro other hother hspecial
      have hother : other ∈ rest := hrest ▸ hother
      exact h.soon other (htimers ▸ List.mem_cons_of_mem timer hother) hspecial
  | subscriber ref finalKey =>
    refine h.of_subscribers (htouches (ofSubscriber fun ref' _ => ref' = ref)
      (by rw [hcallback]; exact decide_eq_true rfl)) (fun entry hentry => ?_) rfl
    obtain ⟨hmem, hne⟩ := List.mem_filter.mp hentry
    exact ⟨hmem, decide_eq_false (of_decide_eq_true hne)⟩
  | other component => exact h.of_others (htouches _ (by rw [hcallback]; rfl))

theorem Kept.processNext (h : Kept s now) (hlisted : Listed s) (nowTime : Int) :
    Kept (s.processNext nowTime) now := by
  unfold KeyCommandHandler.processNext
  dsimp only
  obtain ⟨_, hidle⟩ | ⟨timer, rest, htimers, hdue, hcases⟩ := s.timers.processNext_inserts nowTime
  · rw [hidle]
    exact h
  · rcases hcases with ⟨_, _, hfired, hrest⟩ | ⟨hmore, _, hdropped, hrest⟩ | ⟨hmore, hfired, _⟩
    · rw [hfired]
      exact h.onTimer htimers hrest
    all_goals
      -- Only a timer of another component is called again.
      have hother : ∃ component, timer.callback = .other component := by
        by_contra hown
        push Not at hown
        obtain ⟨honce, hpos⟩ := hlisted.once timer (htimers ▸ List.mem_cons_self) hown
        exact hmore ⟨by omega, by omega⟩
      obtain ⟨component, hcallback⟩ := hother
      have htouches : Touches (ofKind .other) s.timers (s.timers.processNext nowTime).2 := by
        refine .processNext nowTime fun t ht _ => ?_
        rw [htimers] at ht
        cases ht
        rw [hcallback]
        rfl
    · rw [hdropped]
      exact h.of_others htouches
    · rw [hfired, hcallback]
      exact h.of_others htouches

/-! ## Subscribers and other components -/

theorem Kept.addSubscriberTimer (h : Kept s now) (ref : Nat) (finalKey : Int32)
    (nowTime duration : Int) : Kept (s.addSubscriberTimer ref finalKey nowTime duration) now := by
  have htouches : Touches (ofKind .subscriber) s.timers
      (s.addTimer nowTime duration (.subscriber ref finalKey)).2.timers :=
    .addTimer s.timers nowTime duration 1 rfl
  have hgrows := mem_addTimer_of_mem s.timers nowTime duration (.subscriber ref finalKey)
  have hkept : SubscriberIds (s.addTimer nowTime duration (.subscriber ref finalKey)).2 := by
    intro entry hentry
    obtain ⟨timer, htimer, hid, hcallback⟩ := h.subscribers entry hentry
    exact ⟨timer, hgrows timer htimer, hid, hcallback⟩
  unfold KeyCommandHandler.addSubscriberTimer
  split
  · exact h
  dsimp only
  split
  · rename_i hneg
    rw [s.addTimer_failed hneg]
    exact h
  · rename_i hpos
    refine
      { delays := h.delays.of_touches htouches (ofKind_ne (by decide)) rfl
        soon := h.soon_of_touches htouches (ofKind_ne (by decide))
        shortcuts := h.shortcuts.of_touches htouches (ofKind_ne (by decide)) rfl rfl
        sequences := h.sequences.of_touches htouches (ofKind_ne (by decide)) rfl rfl
        subscribers := fun entry hentry => ?_ }
    rcases List.mem_append.mp hentry with hold | hnew
    · exact hkept entry hold
    · rw [List.mem_singleton.mp hnew]
      have hnames : (s.timers.addTimer nowTime duration 1 (some (.subscriber ref finalKey))).2.Names
          (fun closure => closure = .subscriber ref finalKey) _ :=
        addTimer_names s.timers nowTime duration (decide_eq_true rfl) (not_lt.mp hpos)
      obtain ⟨timer, htimer, hid, hcallback⟩ := hnames
      exact ⟨timer, htimer, hid, of_decide_eq_true hcallback⟩

theorem Kept.clearSubscriberTimer (h : Kept s now) (ref : Nat) :
    Kept (s.clearSubscriberTimer ref) now := by
  unfold KeyCommandHandler.clearSubscriberTimer
  split
  · exact h
  · rename_i item hfound
    have href : item.ref = ref := by simpa using List.find?_some hfound
    obtain ⟨timer, htimer, hid, hcallback⟩ := h.subscribers item (List.mem_of_find?_eq_some hfound)
    have htouches : Touches (ofSubscriber fun ref' _ => ref' = ref) s.timers
        (s.timers.removeTimer item.timerId).2 := by
      refine .removeTimer (TimerManager.Names.owns ⟨timer, htimer, hid, ?_⟩)
      rw [hcallback]
      exact decide_eq_true href
    refine h.of_subscribers htouches (fun entry hentry => ?_) rfl
    obtain ⟨hmem, hne⟩ := List.mem_filter.mp hentry
    exact ⟨hmem, decide_eq_false (of_decide_eq_true hne)⟩

/-! ## Runs -/

namespace TimedHandler

/-- What is listed, and the ids behind it. -/
structure Inv (s : TimedHandler) : Prop where
  listed : Listed s.handler
  kept : Kept s.handler s.now

theorem Inv.popsFront {s : TimedHandler} (h : s.Inv) (i : KeyUse) : PopsFront s i := by
  cases i with
  | processNext nowTime =>
    intro timer hhead _ keyEvent hcallback
    obtain ⟨rest, htimers⟩ := List.head?_eq_some_iff.mp hhead
    exact ⟨_, h.kept.delays.front htimers hcallback⟩
  | _ => trivial

/-- The front entry is not that of another timer. -/
theorem Inv.popsOwn {s : TimedHandler} (h : s.Inv) (nowTime : Int) :
    PopsOwn s.handler (.processNext nowTime) := by
  intro timer hhead _ keyEvent hcallback other hother keyEvent' hspecial hcode timerIds hlist
  obtain ⟨rest, htimers⟩ := List.head?_eq_some_iff.mp hhead
  rw [htimers, List.tail_cons] at hother
  rw [h.kept.delays.front htimers hcallback] at hlist
  obtain rfl := Option.some.inj hlist
  refine List.mem_map_of_mem (List.mem_filter.mpr ⟨hother, ?_⟩)
  rw [hspecial]
  exact decide_eq_true hcode

theorem Inv.step {s : TimedHandler} (h : s.Inv) {i : KeyUse} (hspares : SparesHandler s i) :
    (s.step i).Inv := by
  cases i with
  | key keyEvent elapsed =>
    exact ⟨h.listed.step (.key keyEvent (s.now + elapsed)) trivial,
      (h.kept.later (by omega)).onHandleEvent keyEvent⟩
  | processNext nowTime =>
    exact ⟨h.listed.step _ (h.popsOwn nowTime), h.kept.processNext h.listed nowTime⟩
  | addSubscriberTimer ref finalKey nowTime duration =>
    exact ⟨h.listed.step (.addSubscriberTimer ref finalKey nowTime duration) trivial,
      h.kept.addSubscriberTimer ref finalKey nowTime duration⟩
  | clearSubscriberTimer ref =>
    exact ⟨h.listed.step (.clearSubscriberTimer ref) trivial, h.kept.clearSubscriberTimer ref⟩
  | otherAdd component nowTime intervalMs repeatCount =>
    exact ⟨h.listed.step (.otherAdd component nowTime intervalMs repeatCount) trivial,
      h.kept.of_others (.addTimer s.handler.timers nowTime intervalMs repeatCount rfl)⟩
  | otherRemove timerId =>
    exact ⟨h.listed.step (.otherRemove timerId) trivial, h.kept.of_others (.removeTimer hspares)⟩
  | otherReset nowTime timerId =>
    exact ⟨h.listed.step (.otherReset nowTime timerId) trivial,
      h.kept.of_others (.resetTimer nowTime hspares)⟩

/-- The shortcuts are among those that are parsed. -/
theorem mem_foldl_emplace {converted : List ShortcutKey} {m : ShortcutMap} {key : ShortcutKey}
    (h : key ∈ (converted.foldl ShortcutMap.emplace m).items) :
    key ∈ m.items ∨ key ∈ converted := by
  induction converted generalizing m with
  | nil => exact .inl h
  | cons first converted ih =>
    rcases ih h with hmem | hmem
    · unfold ShortcutMap.emplace at hmem
      split at hmem
      · exact .inl hmem
      · rcases List.mem_cons.mp ((List.perm_orderedInsert _ _ _).mem_iff.mp hmem) with rfl | hold
        · exact .inr List.mem_cons_self
        · exact .inl hold
    · exact .inr (List.mem_cons_of_mem first hmem)

theorem create_inv (config : ParsedConfig) (now : Int) : (create config now).Inv where
  listed := create_listed config.toConfig
  kept :=
    { delays := ⟨List.Pairwise.nil, fun _ => rfl⟩
      soon := by simp [create, KeyCommandHandler.create, TimerManager.create]
      shortcuts := .of_none (fun key hkey _ => config.shortcutTimers key
        ((mem_foldl_emplace hkey).resolve_left (List.not_mem_nil))) rfl
      sequences := ⟨fun sequence hsequence => (config.configured sequence hsequence).timer,
        by simp [Named, create, KeyCommandHandler.create]⟩
      subscribers := by simp [SubscriberIds, create, KeyCommandHandler.create] }

end TimedHandler

/-- In a run in which other components spare the timers of the handler, the list of each key has
the ids of its delays in the order in which they are called, and a delay that is over takes its
own id off. -/
theorem run_delaysListed (config : ParsedConfig) (now : Int) (is : List KeyUse)
    (h : AllSteps TimedHandler.step SparesHandler (.create config now) is) :
    Always TimedHandler.step (fun s => DelaysListed s.handler) (.create config now) is ∧
      AllSteps TimedHandler.step PopsFront (.create config now) is := by
  have hkeep : ∀ (s : TimedHandler) i, s.Inv → SparesHandler s i → (s.step i).Inv :=
    fun _ _ hinv hspares => hinv.step hspares
  have hcreate := TimedHandler.create_inv config now
  exact ⟨(always_of_allSteps hkeep is _ hcreate h).mono fun _ hinv => hinv.kept.delays,
    allSteps_of_allSteps hkeep (fun _ i hinv _ => hinv.popsFront i) is _ hcreate h⟩

def ParsedConfig.empty : ParsedConfig where
  shortcuts := []
  sequences := []
  configured := List.forall_mem_nil _
  shortcutTimers := List.forall_mem_nil _

/-- Volume up goes down. -/
def volumeUpDown : KeyEvent :=
  { KeyEvent.create 0 with keyCode := keyCodeVolumeUp, keyAction := keyActionDown }

/-- Volume up is pressed twice, and another component removes its own timer in between. -/
theorem run_delaysListed_volumeUp :
    Always TimedHandler.step (fun s => DelaysListed s.handler) (.create ParsedConfig.empty 0)
        [.otherAdd 0 0 500 1, .key volumeUpDown 0, .otherRemove 0, .key volumeUpDown 10,
          .processNext 200] ∧
      AllSteps TimedHandler.step PopsFront (.create ParsedConfig.empty 0)
        [.otherAdd 0 0 500 1, .key volumeUpDown 0, .otherRemove 0, .key volumeUpDown 10,
          .processNext 200] :=
  run_delaysListed ParsedConfig.empty 0 _ (by decide +kernel)

/-- A component adds a timer, it is removed without the component, and its id is
given to the delay of volume up; then the component removes what it takes for its
own timer, and the list still has the id. -/
theorem counterexample_delaysListed :
    ¬ Always TimedHandler.step (fun s => DelaysListed s.handler) (.create ParsedConfig.empty 0)
      [.otherAdd 0 0 500 1, .otherRemove 0, .key volumeUpDown 0, .otherRemove 0] := by
  intro h
  have hids := h.last.ids keyCodeVolumeUp
  revert hids
  decide +kernel

end FtMmi.KeyCommand
