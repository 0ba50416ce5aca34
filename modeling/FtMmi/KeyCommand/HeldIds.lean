/-
FtMmi.KeyCommand.HeldIds — the timer ids that the handler holds.

`lastMatchedKey_` has the id of a shortcut's timer, the candidates have
those of sequences, and the subscribers their own. Whatever id is held is
that of a live timer of its kind: a timer that is over is forgotten with
the id, since a launch clears the record or the candidates. So the handler
never takes away a timer of another kind, though ids are given out again.
-/
import FtMmi.KeyCommand.SequenceOutcome
import FtMmi.Timer.OwnTimers

namespace FtMmi.KeyCommand

open FtMmi.Event
open FtMmi.EventHandler
open FtMmi.Timer

/-! ## Kinds of timers -/

inductive TimerKind where
  | shortcut
  | sequence
  | special
  | subscriber
  | other
  deriving DecidableEq, Repr

def TimerClosure.kind : TimerClosure → TimerKind
  | .shortcut _ => .shortcut
  | .sequence _ => .sequence
  | .special _ => .special
  | .subscriber _ _ => .subscriber
  | .other _ => .other

def ofKind (kind : TimerKind) (closure : TimerClosure) : Bool := closure.kind = kind

theorem ofKind_ne {kind kind' : TimerKind} (hne : kind ≠ kind') (closure : TimerClosure)
    (h : ofKind kind closure = true) : ofKind kind' closure = false := by
  simp only [ofKind, decide_eq_true_eq, decide_eq_false_iff_not] at h ⊢
  rw [h]
  exact hne

/-! ## The ids that the handler holds -/

/-- Each candidate with a timer has one that launches a sequence. -/
def Named (timers : TimerManager TimerClosure) (items : List Sequence) : Prop :=
  ∀ item ∈ items, 0 ≤ item.timerId → timers.Names (ofKind .sequence) item.timerId

structure ShortcutIds (s : KeyCommandHandler) : Prop where
  lastMatched : 0 ≤ s.lastMatchedKey.timerId →
    s.timers.Names (ofKind .shortcut) s.lastMatchedKey.timerId
  /-- Only a shortcut that is launched while it is held gets a timer. -/
  shortcuts : ∀ key ∈ s.shortcutKeys.items, key.triggerType ≠ keyActionDown → key.timerId = -1

structure SequenceIds (s : KeyCommandHandler) : Prop where
  sequences : ∀ sequence ∈ s.sequences, sequence.timerId = -1
  candidates : Named s.timers s.filterSequences

def SubscriberIds (s : KeyCommandHandler) : Prop :=
  ∀ entry ∈ s.subscribers, ∃ t ∈ s.timers.timers,
    t.id = entry.timerId ∧ t.callback = .subscriber entry.ref entry.finalKey

variable {s t : KeyCommandHandler} {own : TimerClosure → Bool}

/-! ## Timers of another kind -/

theorem ShortcutIds.of_touches (h : ShortcutIds s) (htouches : Touches own s.timers t.timers)
    (hother : ∀ closure, ofKind .shortcut closure = true → own closure = false)
    (hlast : t.lastMatchedKey = s.lastMatchedKey) (hkeys : t.shortcutKeys = s.shortcutKeys) :
    ShortcutIds t where
  lastMatched hpos := by
    rw [hlast] at hpos ⊢
    exact htouches.names hother (h.lastMatched hpos)
  shortcuts := hkeys ▸ h.shortcuts

theorem SequenceIds.of_touches (h : SequenceIds s) (htouches : Touches own s.timers t.timers)
    (hother : ∀ closure, ofKind .sequence closure = true → own closure = false)
    (hsequences : t.sequences = s.sequences) (hfilter : t.filterSequences = s.filterSequences) :
    SequenceIds t where
  sequences := hsequences ▸ h.sequences
  candidates item hitem hpos := by
    rw [hfilter] at hitem
    exact htouches.names hother (h.candidates item hitem hpos)

/-- The subscribers that are left have timers of another kind. -/
theorem SubscriberIds.of_touches (h : SubscriberIds s) (htouches : Touches own s.timers t.timers)
    (hentries : ∀ entry ∈ t.subscribers, entry ∈ s.subscribers ∧
      own (.subscriber entry.ref entry.finalKey) = false) : SubscriberIds t := by
  intro entry hentry
  obtain ⟨hold, hother⟩ := hentries entry hentry
  obtain ⟨timer, htimer, hid, hcallback⟩ := h entry hold
  refine ⟨timer, (htouches.mem_iff ?_).mpr htimer, hid, hcallback⟩
  rw [hcallback]
  exact hother

/-- The closure is that of such a subscriber. -/
def ofSubscriber (p : Nat → Int32 → Bool) : TimerClosure → Bool
  | .subscriber ref finalKey => p ref finalKey
  | _ => false

theorem ofKind_not_ofSubscriber {kind : TimerKind} (hkind : kind ≠ .subscriber)
    (p : Nat → Int32 → Bool) (closure : TimerClosure) (h : ofKind kind closure = true) :
    ofSubscriber p closure = false := by
  cases closure with
  | subscriber _ _ => exact absurd (of_decide_eq_true h).symm hkind
  | _ => rfl

/-! ## Shortcuts -/

theorem addTimer_names (m : TimerManager TimerClosure) (nowTime intervalMs : Int)
    {closure : TimerClosure} (hown : own closure = true)
    (hadded : 0 ≤ (m.addTimer nowTime intervalMs 1 (some closure)).1) :
    (m.addTimer nowTime intervalMs 1 (some closure)).2.Names own
      (m.addTimer nowTime intervalMs 1 (some closure)).1 := by
  obtain ⟨_, hfail⟩ | ⟨timer, rfl, _, _, _, _, _, hid, htimers⟩ :=
    m.addTimer_inserts nowTime intervalMs 1 closure
  · rw [hfail] at hadded
    exact absurd (show 0 ≤ nonexistentId from hadded) (by decide)
  · refine ⟨timer, ?_, hid.symm, hown⟩
    rw [htimers]
    exact mem_insertTimer.mpr (.inl rfl)

theorem setTimerId_shortcuts {m : ShortcutMap} {key : ShortcutKey} (timerId : Int)
    (h : ∀ item ∈ m.items, item.triggerType ≠ keyActionDown → item.timerId = -1)
    (hkey : key.triggerType = keyActionDown ∨ timerId = -1) :
    ∀ item ∈ (m.setTimerId key timerId).items,
      item.triggerType ≠ keyActionDown → item.timerId = -1 := by
  intro item hitem htrigger
  obtain ⟨old, hold, rfl⟩ := List.mem_map.mp hitem
  by_cases hsame : old = key
  · rw [if_pos hsame] at htrigger ⊢
    rcases hkey with hdown | hnone
    · exact absurd (hsame ▸ hdown) htrigger
    · exact hnone
  · rw [if_neg hsame] at htrigger ⊢
    exact h old hold htrigger

/-- With no shortcut held there is no id that matters. -/
theorem ShortcutIds.of_none (h : ∀ key ∈ s.shortcutKeys.items,
    key.triggerType ≠ keyActionDown → key.timerId = -1) (hnone : s.lastMatchedKey.timerId = -1) :
    ShortcutIds s where
  lastMatched hpos := by omega
  shortcuts := h

theorem ShortcutIds.handleKeyDown (h : ShortcutIds s) (hnone : s.lastMatchedKey.timerId = -1)
    (nowTime : Int) {key : ShortcutKey} (hdown : key.triggerType = keyActionDown) :
    Touches (ofKind .shortcut) s.timers (s.handleKeyDown nowTime key).2.timers ∧
      ShortcutIds (s.handleKeyDown nowTime key).2 := by
  have hadded := Touches.addTimer s.timers nowTime key.keyDownDuration.toInt 1
    (show ofKind .shortcut (.shortcut key) = true from rfl)
  unfold KeyCommandHandler.handleKeyDown
  split
  · exact ⟨.refl _, .of_none h.shortcuts rfl⟩
  · have hshortcuts := fun timerId => setTimerId_shortcuts timerId h.shortcuts (.inl hdown)
    dsimp only
    split
    · exact ⟨hadded, .of_none (hshortcuts _) hnone⟩
    · refine ⟨hadded, fun hpos => ?_, hshortcuts _⟩
      exact addTimer_names s.timers nowTime key.keyDownDuration.toInt rfl hpos

theorem ShortcutIds.handleShortKeys (h : ShortcutIds s) (nowTime : Int) (keyEvent : KeyEvent) :
    Touches (ofKind .shortcut) s.timers (s.handleShortKeys nowTime keyEvent).2.timers ∧
      ShortcutIds (s.handleShortKeys nowTime keyEvent).2 := by
  have hsearched : Touches (ofKind .shortcut) s.timers (if 0 ≤ s.lastMatchedKey.timerId then
      s.removeTimer s.lastMatchedKey.timerId else s).resetLastMatchedKey.timers := by
    split
    · rename_i hpos
      exact .removeTimer (h.lastMatched hpos).owns
    · exact .refl _
  have hitems : (if 0 ≤ s.lastMatchedKey.timerId then s.removeTimer s.lastMatchedKey.timerId
      else s).resetLastMatchedKey.shortcutKeys = s.shortcutKeys := by
    split <;> rfl
  have hnone : (if 0 ≤ s.lastMatchedKey.timerId then s.removeTimer s.lastMatchedKey.timerId
      else s).resetLastMatchedKey.lastMatchedKey.timerId = -1 := rfl
  unfold KeyCommandHandler.handleShortKeys
  split
  · exact ⟨.refl _, h⟩
  split
  · exact ⟨.refl _, h⟩
  dsimp only
  generalize (if 0 ≤ s.lastMatchedKey.timerId then s.removeTimer s.lastMatchedKey.timerId
    else s).resetLastMatchedKey = searched at hsearched hitems hnone ⊢
  have hids : ShortcutIds searched := .of_none (hitems ▸ h.shortcuts) hnone
  split
  · exact ⟨hsearched, hids⟩
  · rename_i key hfound
    have hkey : key ∈ searched.shortcutKeys.items := List.mem_of_find?_eq_some hfound
    split
    · rename_i hdown
      obtain ⟨htouches, hafter⟩ := hids.handleKeyDown hnone nowTime hdown
      exact ⟨hsearched.trans htouches, hafter⟩
    rename_i hdown
    split
    · have hlaunched : ShortcutIds (searched.launchShortcut key) := .of_none hids.shortcuts rfl
      unfold KeyCommandHandler.handleKeyUp
      split
      · exact ⟨hsearched, hlaunched⟩
      · split
        · exact ⟨hsearched, hlaunched⟩
        · exact ⟨hsearched, hids⟩
    · -- A shortcut that is launched otherwise has no timer.
      have hneg : key.timerId = -1 := hids.shortcuts key hkey hdown
      unfold KeyCommandHandler.handleKeyCancel
      refine ⟨hsearched.trans (.removeTimer ?_), .of_none ?_ hnone⟩
      · exact TimerManager.owns_of_neg _ _ (by omega)
      · exact setTimerId_shortcuts (-1) hids.shortcuts (.inr rfl)

/-! ## Sequences -/

theorem SequenceIds.resetSequenceKeys (h : SequenceIds s) : SequenceIds s.resetSequenceKeys :=
  ⟨h.sequences, by simp [Named, KeyCommandHandler.resetSequenceKeys]⟩

theorem SequenceIds.pushKey (h : SequenceIds s) (size : Nat) (key : SequenceKey) :
    Touches (ofKind .sequence) s.timers (s.pushKey size key).2.timers ∧
      SequenceIds (s.pushKey size key).2 := by
  unfold KeyCommandHandler.pushKey
  split
  · exact ⟨.refl _, h⟩
  · exact ⟨.refl _, h.sequences, h.candidates⟩

theorem SequenceIds.interruptTimers (h : SequenceIds s) :
    Touches (ofKind .sequence) s.timers s.interruptTimers.timers ∧
      SequenceIds s.interruptTimers := by
  refine ⟨.foldl_removeTimer Sequence.timerId fun item hitem => ?_, h.sequences,
    fun item hitem hpos => ?_⟩
  · obtain ⟨hmem, hpos⟩ := List.mem_filter.mp hitem
    exact (h.candidates item hmem (of_decide_eq_true hpos)).owns
  · -- No candidate has a timer any more.
    obtain ⟨old, _, rfl⟩ := List.mem_map.mp hitem
    split at hpos
    · exact absurd (show (0 : Int) ≤ -1 from hpos) (by decide)
    · contradiction

theorem SequenceIds.addSequenceKey (h : SequenceIds s) (keyEvent : KeyEvent) :
    Touches (ofKind .sequence) s.timers (s.addSequenceKey keyEvent).2.timers ∧
      SequenceIds (s.addSequenceKey keyEvent).2 := by
  have hadds := addSequenceKey_adds s keyEvent
  generalize s.addSequenceKey keyEvent = r at hadds ⊢
  cases hadds with
  | first _ => exact ⟨.refl _, h.sequences, h.candidates⟩
  | backwards _ _ _ => exact ⟨.refl _, h.resetSequenceKeys⟩
  | pause _ _ _ => exact h.resetSequenceKeys.pushKey _ _
  | repeats _ _ _ _ => exact ⟨.refl _, h⟩
  | joins last _ _ =>
    have hdelayed : ∀ delay, SequenceIds (s.setLastDelay last delay) :=
      fun _ => ⟨h.sequences, h.candidates⟩
    obtain ⟨htouches, hids⟩ := (hdelayed _).interruptTimers
    obtain ⟨hpushed, hafter⟩ := hids.pushKey _ _
    exact ⟨htouches.trans hpushed, hafter⟩

theorem SequenceIds.refill (h : SequenceIds s) : SequenceIds s.refill := by
  unfold KeyCommandHandler.refill
  split
  · refine ⟨h.sequences, fun item hitem hpos => ?_⟩
    have hneg := h.sequences item hitem
    omega
  · exact h

theorem SequenceIds.loopStart (h : SequenceIds s) {keyEvent : KeyEvent} {start : KeyCommandHandler}
    (hstart : s.loopStart keyEvent = some start) :
    Touches (ofKind .sequence) s.timers start.timers ∧ SequenceIds start := by
  obtain ⟨htouches, hids⟩ := h.addSequenceKey keyEvent
  unfold KeyCommandHandler.loopStart at hstart
  split at hstart
  · cases hstart
  split at hstart
  · obtain rfl := Option.some.inj hstart
    obtain ⟨_, hrefill⟩ := (s.addSequenceKey keyEvent).2.refill_frame
    refine ⟨?_, hids.refill⟩
    rw [hrefill]
    exact htouches
  · cases hstart

theorem mem_addTimer_of_mem (m : TimerManager TimerClosure) (nowTime intervalMs : Int)
    (closure : TimerClosure) (timer : TimerItem TimerClosure) (h : timer ∈ m.timers) :
    timer ∈ (m.addTimer nowTime intervalMs 1 (some closure)).2.timers := by
  obtain ⟨_, hfail⟩ | ⟨_, _, _, _, _, _, _, _, htimers⟩ :=
    m.addTimer_inserts nowTime intervalMs 1 closure
  · rw [hfail]
    exact h
  · rw [htimers]
    exact mem_insertTimer.mpr (.inr h)

theorem Named.of_subset {m m' : TimerManager TimerClosure} {items : List Sequence}
    (h : Named m items) (hsub : ∀ timer ∈ m.timers, timer ∈ m'.timers) : Named m' items := by
  intro item hitem hpos
  obtain ⟨timer, htimer, hid, hkind⟩ := h item hitem hpos
  exact ⟨timer, hsub timer htimer, hid, hkind⟩

theorem Named.set {m : TimerManager TimerClosure} {items : List Sequence} (h : Named m items)
    (i : Nat) {item : Sequence}
    (hitem : 0 ≤ item.timerId → m.Names (ofKind .sequence) item.timerId) :
    Named m (items.set i item) := by
  intro other hother
  rcases List.mem_or_eq_of_mem_set hother with hold | rfl
  · exact h other hold
  · exact hitem

theorem turn_grows {nowTime : Int} {item : Sequence} {h : Handled} (hturn : Turn s nowTime item h) :
    ∀ timer ∈ s.timers.timers, timer ∈ h.state.timers.timers := by
  cases hturn with
  | atOnce _ => exact fun _ htimer => htimer
  | later _ r hr =>
    subst hr
    exact mem_addTimer_of_mem s.timers nowTime (item.abilityStartDelay.tdiv secondsSystem)
      (.sequence item)
  | compared _ => exact fun _ htimer => htimer

/-- The loop takes no timers away. -/
theorem forCandidates_grows (nowTime : Int) (items : List Sequence) (i : Nat)
    (s : KeyCommandHandler) : ∀ timer ∈ s.timers.timers,
      timer ∈ (KeyCommandHandler.forCandidates nowTime i items s).state.timers.timers := by
  induction items generalizing i s with
  | nil => exact fun _ htimer => htimer
  | cons item items ih =>
    intro timer htimer
    exact ih (i + 1) _ timer (turn_grows (handleSequence_turn s nowTime item) timer htimer)

/-- What the candidate is after its turn. -/
theorem turn_names {nowTime : Int} {item : Sequence} {h : Handled} (hturn : Turn s nowTime item h)
    (hs : Named s.timers s.filterSequences)
    (hitem : 0 ≤ item.timerId → s.timers.Names (ofKind .sequence) item.timerId) :
    Touches (ofKind .sequence) s.timers h.state.timers ∧
      Named h.state.timers h.state.filterSequences ∧
      (0 ≤ h.sequence.timerId → h.state.timers.Names (ofKind .sequence) h.sequence.timerId) := by
  have hgrows := turn_grows hturn
  cases hturn with
  | atOnce _ =>
    exact ⟨.refl _,
      by simp [Named, KeyCommandHandler.launchSequence, KeyCommandHandler.resetSequenceKeys], hitem⟩
  | later _ r hr =>
    subst hr
    exact ⟨.addTimer s.timers nowTime _ 1 rfl, hs.of_subset hgrows,
      addTimer_names s.timers nowTime _ rfl⟩
  | compared _ => exact ⟨.refl _, hs, hitem⟩

/-- The candidates kept, and those in the list, are named when the loop is over. -/
theorem forCandidates_names (nowTime : Int) (items : List Sequence) (i : Nat)
    (s : KeyCommandHandler) (hs : Named s.timers s.filterSequences)
    (hitems : Named s.timers items) :
    Touches (ofKind .sequence) s.timers
        (KeyCommandHandler.forCandidates nowTime i items s).state.timers ∧
      Named (KeyCommandHandler.forCandidates nowTime i items s).state.timers
        (KeyCommandHandler.forCandidates nowTime i items s).state.filterSequences ∧
      Named (KeyCommandHandler.forCandidates nowTime i items s).state.timers
        (KeyCommandHandler.forCandidates nowTime i items s).tempSeqs := by
  induction items generalizing i s with
  | nil => exact ⟨.refl _, hs, by simp [Named, KeyCommandHandler.forCandidates]⟩
  | cons item items ih =>
    have hturn := handleSequence_turn s nowTime item
    have hgrows := turn_grows hturn
    have hrestItems : Named s.timers items :=
      fun other hother => hitems other (List.mem_cons_of_mem item hother)
    obtain ⟨htouches, hlist, hown⟩ := turn_names hturn hs (hitems item List.mem_cons_self)
    rw [KeyCommandHandler.forCandidates]
    generalize s.handleSequence nowTime item = h at htouches hgrows hlist hown ⊢
    have hgrows' := forCandidates_grows nowTime items (i + 1)
      { h.state with filterSequences := h.state.filterSequences.set i h.sequence }
    obtain ⟨hrest, hlist', htemp⟩ := ih (i + 1)
      { h.state with filterSequences := h.state.filterSequences.set i h.sequence }
      (hlist.set i hown) (hrestItems.of_subset hgrows)
    refine ⟨htouches.trans hrest, hlist', ?_⟩
    intro other hother hpos
    dsimp only at hother
    split at hother
    · rcases List.mem_cons.mp hother with rfl | hother
      · obtain ⟨timer, htimer, hid, hkind⟩ := hown hpos
        exact ⟨timer, hgrows' timer htimer, hid, hkind⟩
      · exact htemp other hother hpos
    · exact htemp other hother hpos

end FtMmi.KeyCommand
