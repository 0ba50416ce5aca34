/-
FtMmi.KeyCommand.AddedTimers — which timers each part of an event adds.

Shortcuts add timers that launch a shortcut; a key typed adds none and may
take some away; the loop of `HandleSequences` adds timers for the sequences
that the keys complete.
-/
import FtMmi.KeyCommand.SequenceOutcome

namespace FtMmi.KeyCommand

open FtMmi.Event
open FtMmi.EventHandler
open FtMmi.Timer

/-- The new timers are called once, with one of these closures. -/
def AddsOnly (P : TimerClosure → Prop) (m m' : TimerManager TimerClosure) : Prop :=
  ∀ t ∈ m'.timers, t ∈ m.timers ∨ (P t.callback ∧ t.repeatCount = 1 ∧ t.callbackCount = 0)

namespace AddsOnly

variable {P Q : TimerClosure → Prop} {m m' m'' : TimerManager TimerClosure}

theorem of_subset (h : ∀ t ∈ m'.timers, t ∈ m.timers) : AddsOnly P m m' :=
  fun t ht => .inl (h t ht)

theorem refl (m : TimerManager TimerClosure) : AddsOnly P m m := of_subset fun _ h => h

theorem mono (h : AddsOnly P m m') (hPQ : ∀ closure, P closure → Q closure) : AddsOnly Q m m' :=
  fun t ht => (h t ht).imp_right fun hnew => ⟨hPQ _ hnew.1, hnew.2⟩

theorem trans (h : AddsOnly P m m') (h' : AddsOnly P m' m'') : AddsOnly P m m'' := by
  intro t ht
  rcases h' t ht with ht | hnew
  · exact h t ht
  · exact .inr hnew

theorem removeTimer (m : TimerManager TimerClosure) (timerId : Int) :
    AddsOnly P m (m.removeTimer timerId).2 := by
  refine of_subset fun t ht => ?_
  rw [TimerManager.removeTimer_timers] at ht
  exact List.mem_of_mem_filter ht

theorem addTimer (m : TimerManager TimerClosure) (nowTime intervalMs : Int) {closure : TimerClosure}
    (h : P closure) : AddsOnly P m (m.addTimer nowTime intervalMs 1 (some closure)).2 := by
  intro t ht
  rcases TimerManager.mem_addTimer ht with hold | ⟨hcallback, hrepeat, hcount, _⟩
  · exact .inl hold
  · refine .inr ⟨?_, hrepeat, hcount⟩
    rw [hcallback]
    exact h

end AddsOnly

namespace KeyCommandHandler

theorem handleShortKeys_adds (s : KeyCommandHandler) (nowTime : Int) (keyEvent : KeyEvent) :
    AddsOnly (fun closure => ∃ shortcutKey, closure = .shortcut shortcutKey) s.timers
      (s.handleShortKeys nowTime keyEvent).2.timers := by
  have hsearched : AddsOnly (fun closure => ∃ shortcutKey, closure = .shortcut shortcutKey)
      s.timers (if 0 ≤ s.lastMatchedKey.timerId then
      s.removeTimer s.lastMatchedKey.timerId else s).resetLastMatchedKey.timers := by
    split
    · exact .removeTimer _ _
    · exact .refl _
  unfold handleShortKeys
  split
  · exact .refl _
  split
  · exact .refl _
  dsimp only
  generalize (if 0 ≤ s.lastMatchedKey.timerId then s.removeTimer s.lastMatchedKey.timerId
    else s).resetLastMatchedKey = searched at hsearched ⊢
  refine hsearched.trans ?_
  split
  · exact .refl _
  · rename_i shortcutKey _
    split
    · have hadded := AddsOnly.addTimer (P := fun closure => ∃ shortcutKey,
        closure = .shortcut shortcutKey) searched.timers nowTime shortcutKey.keyDownDuration.toInt
        ⟨shortcutKey, rfl⟩
      unfold handleKeyDown
      split
      · exact .refl _
      · dsimp only
        split <;> exact hadded
    split
    · unfold handleKeyUp
      split
      · exact .refl _
      · split <;> exact .refl _
    · exact .removeTimer _ _

/-- A key typed takes timers away, if it does anything about them. -/
theorem addSequenceKey_removes (s : KeyCommandHandler) (keyEvent : KeyEvent) :
    ∀ t ∈ (s.addSequenceKey keyEvent).2.timers.timers, t ∈ s.timers.timers := by
  have hpush : ∀ (s : KeyCommandHandler) size key, (s.pushKey size key).2.timers = s.timers := by
    intro s size key
    unfold pushKey
    split <;> rfl
  have hadds := addSequenceKey_adds s keyEvent
  generalize s.addSequenceKey keyEvent = r at hadds ⊢
  intro t ht
  cases hadds with
  | first _ => exact ht
  | backwards _ _ _ => exact ht
  | pause _ _ _ =>
    rw [hpush] at ht
    exact ht
  | repeats _ _ _ _ => exact ht
  | joins last _ _ =>
    rw [hpush, interruptTimers, TimerManager.foldl_removeTimer_timers] at ht
    exact List.mem_of_mem_filter ht

theorem loopStart_removes {s : KeyCommandHandler} {keyEvent : KeyEvent} {start : KeyCommandHandler}
    (h : s.loopStart keyEvent = some start) : ∀ t ∈ start.timers.timers, t ∈ s.timers.timers := by
  unfold loopStart at h
  split at h
  · cases h
  split at h
  · obtain rfl := Option.some.inj h
    obtain ⟨_, hrefill⟩ := refill_frame (s.addSequenceKey keyEvent).2
    rw [hrefill]
    exact s.addSequenceKey_removes keyEvent
  · cases h

end KeyCommandHandler

/-- No keys complete no sequence, unless it has none. -/
theorem launchesLater_nil {sequence : Sequence} (h : launchesLater [] sequence = true) :
    sequence.sequenceKeys = [] := by
  simp only [launchesLater, completes, Bool.and_eq_true, decide_eq_true_eq] at h
  exact List.length_eq_zero_iff.mp h.1.2.symm

/-- The loop adds timers for the candidates that the keys complete. -/
theorem forCandidates_adds (nowTime : Int) (items : List Sequence) (i : Nat) (s : KeyCommandHandler) :
    AddsOnly (fun closure => ∃ sequence ∈ items, closure = .sequence sequence ∧
        (launchesLater s.keys sequence = true ∨ sequence.sequenceKeys = []))
      s.timers (KeyCommandHandler.forCandidates nowTime i items s).state.timers := by
  induction items generalizing i s with
  | nil => exact .refl _
  | cons item items ih =>
    have hturn := handleSequence_turn s nowTime item
    rw [KeyCommandHandler.forCandidates]
    generalize s.handleSequence nowTime item = h at hturn ⊢
    have hrest := ih (i + 1) { h.state with filterSequences := h.state.filterSequences.set i h.sequence }
    dsimp only at hrest ⊢
    have hkeys : h.state.keys = s.keys ∨ h.state.keys = [] := by
      cases hturn with
      | atOnce _ => exact .inr rfl
      | later _ r hr =>
        rw [hr]
        exact .inl rfl
      | compared _ => exact .inl rfl
    have hfirst : AddsOnly (fun closure => ∃ sequence ∈ item :: items, closure = .sequence sequence ∧
        (launchesLater s.keys sequence = true ∨ sequence.sequenceKeys = [])) s.timers
          h.state.timers := by
      cases hturn with
      | atOnce _ => exact .refl _
      | later hlater r hr =>
        rw [hr]
        exact .addTimer s.timers nowTime _ ⟨item, List.mem_cons_self, rfl, .inl hlater⟩
      | compared _ => exact .refl _
    refine hfirst.trans (hrest.mono ?_)
    rintro closure ⟨sequence, hsequence, rfl, hlater | hnil⟩
    · refine ⟨sequence, List.mem_cons_of_mem item hsequence, rfl, ?_⟩
      rcases hkeys with heq | heq
      · exact .inl (heq ▸ hlater)
      · exact .inr (launchesLater_nil (heq ▸ hlater))
    · exact ⟨sequence, List.mem_cons_of_mem item hsequence, rfl, .inr hnil⟩

end FtMmi.KeyCommand
