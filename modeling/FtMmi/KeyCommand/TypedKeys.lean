/-
FtMmi.KeyCommand.TypedKeys — the list of the keys typed, over a run.

`Adds` is all that `AddSequenceKey` can do with an event. The size that it
checks at its end was taken at its start: a list of eleven keys, one more
than a sequence can have, refuses also the key that starts anew after a
pause.
-/
import FtMmi.KeyCommand.CandidateList
import FtMmi.Lib.StepSystem

namespace FtMmi.KeyCommand

open FtMmi.Event
open FtMmi.EventHandler
open FtMmi.Lib
open FtMmi.Timer

variable {s : KeyCommandHandler}

/-! ## AddSequenceKey -/

namespace KeyCommandHandler

/-- The event comes within the interval after a key, and does not repeat one. -/
def joins (s : KeyCommandHandler) (keyEvent : KeyEvent) (last : SequenceKey) : Prop :=
  last.actionTime ≤ keyEvent.actionTime.toInt ∧
    keyEvent.actionTime.toInt - last.actionTime ≤ maxDelayTime ∧
      s.isRepeatKeyEvent (.ofEvent keyEvent) = false

instance (s : KeyCommandHandler) (keyEvent : KeyEvent) (last : SequenceKey) :
    Decidable (s.joins keyEvent last) := inferInstanceAs (Decidable (_ ∧ _ ∧ _))

/-- The event comes more than the maximum interval after a key. -/
def pauses (keyEvent : KeyEvent) (last : SequenceKey) : Prop :=
  maxDelayTime < keyEvent.actionTime.toInt - last.actionTime

end KeyCommandHandler

inductive Adds (s : KeyCommandHandler) (keyEvent : KeyEvent) : Bool × KeyCommandHandler → Prop
  | first (h : s.keys = []) :
      Adds s keyEvent (true, { s with keys := [.ofEvent keyEvent] })
  | backwards (last : SequenceKey) (h : last ∈ s.keys.getLast?)
      (hback : keyEvent.actionTime.toInt < last.actionTime) :
      Adds s keyEvent (false, s.resetSequenceKeys)
  | pause (last : SequenceKey) (h : last ∈ s.keys.getLast?)
      (hpause : KeyCommandHandler.pauses keyEvent last) :
      Adds s keyEvent (s.resetSequenceKeys.pushKey s.keys.length (.ofEvent keyEvent))
  | repeats (last : SequenceKey) (h : last ∈ s.keys.getLast?)
      (hpause : ¬ KeyCommandHandler.pauses keyEvent last)
      (hrepeat : s.isRepeatKeyEvent (.ofEvent keyEvent) = true) :
      Adds s keyEvent (false, s)
  | joins (last : SequenceKey) (h : last ∈ s.keys.getLast?) (hjoins : s.joins keyEvent last) :
      Adds s keyEvent ((s.setLastDelay last
        (keyEvent.actionTime.toInt - last.actionTime)).interruptTimers.pushKey s.keys.length
          (.ofEvent keyEvent))

theorem addSequenceKey_adds (s : KeyCommandHandler) (keyEvent : KeyEvent) :
    Adds s keyEvent (s.addSequenceKey keyEvent) := by
  unfold KeyCommandHandler.addSequenceKey
  dsimp only
  cases hlast : s.keys.getLast? with
  | none =>
    have hnil : s.keys = [] := List.getLast?_eq_none_iff.mp hlast
    dsimp only
    rw [KeyCommandHandler.pushKey, hnil,
      if_neg (show ¬ maxSequenceKeysNum < ([] : List SequenceKey).length by decide)]
    exact .first hnil
  | some last =>
    dsimp only
    by_cases hback : keyEvent.actionTime.toInt < last.actionTime
    · rw [if_pos (show (SequenceKey.ofEvent keyEvent).actionTime < last.actionTime from hback)]
      exact .backwards last hlast hback
    rw [if_neg (show ¬ (SequenceKey.ofEvent keyEvent).actionTime < last.actionTime from hback)]
    by_cases hpause : KeyCommandHandler.pauses keyEvent last
    · rw [if_pos (show maxDelayTime < (SequenceKey.ofEvent keyEvent).actionTime - last.actionTime
        from hpause)]
      exact .pause last hlast hpause
    rw [if_neg (show ¬ maxDelayTime < (SequenceKey.ofEvent keyEvent).actionTime - last.actionTime
      from hpause)]
    cases hrepeat : s.isRepeatKeyEvent (.ofEvent keyEvent) with
    | true => exact .repeats last hlast hpause hrepeat
    | false => exact .joins last hlast ⟨not_lt.mp hback, not_lt.mp hpause, hrepeat⟩

/-! ## What the other parts of an event leave alone -/

namespace KeyCommandHandler

theorem handleKeyDown_frame (s : KeyCommandHandler) (nowTime : Int) (shortcutKey : ShortcutKey) :
    ∃ lastMatchedKey shortcutKeys timers launched, (s.handleKeyDown nowTime shortcutKey).2
      = { s with lastMatchedKey, shortcutKeys, timers, launched } := by
  unfold handleKeyDown
  split
  · exact ⟨_, _, _, _, rfl⟩
  · dsimp only
    split <;> exact ⟨_, _, _, _, rfl⟩

theorem handleKeyUp_frame (s : KeyCommandHandler) (keyEvent : KeyEvent)
    (shortcutKey : ShortcutKey) :
    ∃ lastMatchedKey launched, (s.handleKeyUp keyEvent shortcutKey).2
      = { s with lastMatchedKey, launched } := by
  unfold handleKeyUp
  split
  · exact ⟨_, _, rfl⟩
  · split <;> exact ⟨_, _, rfl⟩

/-- Shortcuts have nothing to do with sequences and special keys. -/
theorem handleShortKeys_frame (s : KeyCommandHandler) (nowTime : Int) (keyEvent : KeyEvent) :
    ∃ lastMatchedKey shortcutKeys timers launched, (s.handleShortKeys nowTime keyEvent).2
      = { s with lastMatchedKey, shortcutKeys, timers, launched } := by
  have hremoved : ∃ timers, (if 0 ≤ s.lastMatchedKey.timerId then
      s.removeTimer s.lastMatchedKey.timerId else s) = { s with timers } := by
    split
    · exact ⟨_, rfl⟩
    · exact ⟨s.timers, rfl⟩
  obtain ⟨timers, hremoved⟩ := hremoved
  unfold handleShortKeys
  split
  · exact ⟨_, _, _, _, rfl⟩
  split
  · exact ⟨_, _, _, _, rfl⟩
  dsimp only
  rw [hremoved]
  split
  · exact ⟨_, _, _, _, rfl⟩
  · rename_i shortcutKey _
    split
    · obtain ⟨_, _, _, _, heq⟩ :=
        handleKeyDown_frame { s with timers }.resetLastMatchedKey nowTime shortcutKey
      rw [heq]
      exact ⟨_, _, _, _, rfl⟩
    · split
      · obtain ⟨_, _, heq⟩ :=
          handleKeyUp_frame { s with timers }.resetLastMatchedKey keyEvent shortcutKey
        rw [heq]
        exact ⟨_, _, _, _, rfl⟩
      · exact ⟨_, _, _, _, rfl⟩

theorem handleSpecialKeys_frame (s : KeyCommandHandler) (keyCode keyAction : Int32) :
    ∃ specialKeys, s.handleSpecialKeys keyCode keyAction = { s with specialKeys } := by
  unfold handleSpecialKeys
  split
  · exact ⟨_, rfl⟩
  · split <;> exact ⟨_, rfl⟩

theorem removeSubscribedTimer_frame (s : KeyCommandHandler) (keyCode : Int32) :
    ∃ timers specialTimers, s.removeSubscribedTimer keyCode
      = { s with timers, specialTimers } := by
  unfold removeSubscribedTimer
  split <;> exact ⟨_, _, rfl⟩

theorem claimKey_frame (s : KeyCommandHandler) (item : SequenceKey) :
    ∃ specialKeys specialTimers timers subscribers, s.claimKey item
      = { s with specialKeys, specialTimers, timers, subscribers } := by
  have hspecial : ∃ specialKeys, (if isSpecialType item.keyCode .keyDownAction then
      s.handleSpecialKeys item.keyCode item.keyAction else s) = { s with specialKeys } := by
    split
    · exact handleSpecialKeys_frame s item.keyCode item.keyAction
    · exact ⟨s.specialKeys, rfl⟩
  obtain ⟨specialKeys, hspecial⟩ := hspecial
  unfold claimKey
  dsimp only
  rw [hspecial]
  obtain ⟨timers, specialTimers, heq⟩ := removeSubscribedTimer_frame
    ({ s with specialKeys }.removeSubscriberKeyUpTimer item.keyCode) item.keyCode
  rw [heq]
  exact ⟨_, _, _, _, rfl⟩

theorem foldl_claimKey_frame (items : List SequenceKey) (s : KeyCommandHandler) :
    ∃ specialKeys specialTimers timers subscribers, items.foldl claimKey s
      = { s with specialKeys, specialTimers, timers, subscribers } := by
  induction items generalizing s with
  | nil => exact ⟨s.specialKeys, s.specialTimers, s.timers, s.subscribers, rfl⟩
  | cons item items ih =>
    obtain ⟨_, _, _, _, heq⟩ := claimKey_frame s item
    obtain ⟨_, _, _, _, hrest⟩ := ih (s.claimKey item)
    rw [List.foldl_cons, hrest, heq]
    exact ⟨_, _, _, _, rfl⟩

theorem delaySpecialKey_frame (s : KeyCommandHandler) (nowTime : Int) (key : KeyEvent) :
    ∃ timers specialTimers, (s.delaySpecialKey nowTime key).2 = { s with timers, specialTimers } := by
  unfold delaySpecialKey
  dsimp only
  split <;> exact ⟨_, _, rfl⟩

/-- What comes after `HandleSequences` leaves the sequences alone. -/
theorem onHandleEvent_frame (s : KeyCommandHandler) (nowTime : Int) (key : KeyEvent) :
    ∃ specialKeys timers specialTimers, (s.onHandleEvent nowTime key).2
      = { ((s.handleShortKeys nowTime key).2.handleSequences nowTime key).2 with
          specialKeys, timers, specialTimers } := by
  unfold onHandleEvent
  dsimp only
  split
  · exact ⟨_, _, _, rfl⟩
  split
  · obtain ⟨_, heq⟩ := handleSpecialKeys_frame
      ((s.handleShortKeys nowTime key).2.handleSequences nowTime key).2 key.keyCode key.action
    rw [heq]
    exact ⟨_, _, _, rfl⟩
  split
  · obtain ⟨_, _, heq⟩ := delaySpecialKey_frame
      ((s.handleShortKeys nowTime key).2.handleSequences nowTime key).2 nowTime key
    rw [heq]
    exact ⟨_, _, _, rfl⟩
  · exact ⟨_, _, _, rfl⟩

/-- `HandleSequences` ends with the candidates left, if there are any. -/
theorem settle_frame (p : Pass) :
    ∃ specialKeys specialTimers timers subscribers, settle p
      = { p.state with
          specialKeys, specialTimers, timers, subscribers
          filterSequences := if p.tempSeqs.isEmpty then p.state.filterSequences else p.tempSeqs } := by
  have hclaimed : ∃ specialKeys specialTimers timers subscribers,
      (if p.isLaunchAbility then p.state.claimKeys else p.state)
        = { p.state with specialKeys, specialTimers, timers, subscribers } := by
    split
    · exact foldl_claimKey_frame p.state.keys p.state
    · exact ⟨_, _, _, _, rfl⟩
  obtain ⟨_, _, _, _, hclaimed⟩ := hclaimed
  unfold settle
  dsimp only
  rw [hclaimed]
  split <;> exact ⟨_, _, _, _, rfl⟩

theorem addSequenceKey_frame (s : KeyCommandHandler) (keyEvent : KeyEvent) :
    ∃ keys filterSequences timers,
      (s.addSequenceKey keyEvent).2 = { s with keys, filterSequences, timers } := by
  have hpush : ∀ (s : KeyCommandHandler) size key, ∃ keys, (s.pushKey size key).2 = { s with keys } := by
    intro s size key
    unfold pushKey
    split <;> exact ⟨_, rfl⟩
  have hadds := addSequenceKey_adds s keyEvent
  generalize s.addSequenceKey keyEvent = r at hadds ⊢
  cases hadds with
  | first _ => exact ⟨_, _, _, rfl⟩
  | backwards _ _ _ => exact ⟨_, _, _, rfl⟩
  | pause _ _ _ =>
    obtain ⟨_, heq⟩ := hpush s.resetSequenceKeys s.keys.length (.ofEvent keyEvent)
    rw [heq]
    exact ⟨_, _, _, rfl⟩
  | repeats _ _ _ _ => exact ⟨_, _, _, rfl⟩
  | joins last _ _ =>
    obtain ⟨_, heq⟩ := hpush (s.setLastDelay last
      (keyEvent.actionTime.toInt - last.actionTime)).interruptTimers s.keys.length (.ofEvent keyEvent)
    rw [heq]
    exact ⟨_, _, _, rfl⟩

theorem refill_frame (s : KeyCommandHandler) :
    ∃ filterSequences, s.refill = { s with filterSequences } := by
  unfold refill
  split <;> exact ⟨_, rfl⟩

/-- Sequences have nothing to do with shortcuts. -/
theorem handleSequences_frame (s : KeyCommandHandler) (nowTime : Int) (keyEvent : KeyEvent) :
    ∃ keys filterSequences specialKeys specialTimers timers subscribers launched,
      (s.handleSequences nowTime keyEvent).2
        = { s with
            keys, filterSequences, specialKeys, specialTimers, timers, subscribers, launched } := by
  unfold handleSequences
  split
  · exact ⟨_, _, _, _, _, _, _, rfl⟩
  dsimp only
  obtain ⟨_, _, _, hadded⟩ := addSequenceKey_frame s keyEvent
  rw [hadded]
  split
  · exact ⟨_, _, _, _, _, _, _, rfl⟩
  generalize hadded' : ({ s with keys := _, filterSequences := _, timers := _ } :
    KeyCommandHandler) = added
  obtain ⟨_, hrefill⟩ := refill_frame added
  obtain ⟨_, _, _, _, hstate, _⟩ := forCandidates_frame nowTime added.refill.filterSequences 0
    added.refill
  obtain ⟨_, _, _, _, hsettle⟩ := settle_frame (added.refill.pass nowTime)
  rw [hsettle, pass, hstate, hrefill, ← hadded']
  exact ⟨_, _, _, _, _, _, _, rfl⟩

end KeyCommandHandler

/-! ## The sequences in a run -/

/-- What holds of the keys of every sequence, and so of every candidate. -/
structure Candidates (P : List SequenceKey → Prop) (s : KeyCommandHandler) : Prop where
  sequences : ∀ sequence ∈ s.sequences, P sequence.sequenceKeys
  candidates : ∀ sequence ∈ s.filterSequences, P sequence.sequenceKeys
  none : s.sequences = [] → s.keys = []

variable {P : List SequenceKey → Prop}

theorem Candidates.reset (h : Candidates P s) : Candidates P s.resetSequenceKeys :=
  ⟨h.sequences, (fun _ h => nomatch h), fun _ => rfl⟩

theorem Candidates.interrupt (h : Candidates P s) : Candidates P s.interruptTimers := by
  refine ⟨h.sequences, fun sequence hsequence => ?_, h.none⟩
  obtain ⟨item, hitem, rfl⟩ := List.mem_map.mp hsequence
  split
  · exact h.candidates item hitem
  · exact h.candidates item hitem

/-- There is something to add keys for. -/
theorem Candidates.withKeys (h : Candidates P s) (hsome : s.sequences ≠ []) (keys : List SequenceKey) :
    Candidates P { s with keys } :=
  ⟨h.sequences, h.candidates, fun hnil => absurd hnil hsome⟩

theorem Candidates.pushKey (h : Candidates P s) (hsome : s.sequences ≠ []) (size : Nat) (key : SequenceKey) :
    Candidates P (s.pushKey size key).2 := by
  unfold KeyCommandHandler.pushKey
  split
  · exact h
  · exact h.withKeys hsome _

theorem Candidates.addSequenceKey (h : Candidates P s) (hsome : s.sequences ≠ []) (keyEvent : KeyEvent) :
    Candidates P (s.addSequenceKey keyEvent).2 ∧ (s.addSequenceKey keyEvent).2.sequences = s.sequences := by
  have hpush : ∀ (s : KeyCommandHandler) size key, (s.pushKey size key).2.sequences = s.sequences := by
    intro s size key
    unfold KeyCommandHandler.pushKey
    split <;> rfl
  have hadds := addSequenceKey_adds s keyEvent
  generalize s.addSequenceKey keyEvent = r at hadds ⊢
  cases hadds with
  | first _ => exact ⟨h.withKeys hsome _, rfl⟩
  | backwards _ _ _ => exact ⟨h.reset, rfl⟩
  | pause _ _ _ => exact ⟨h.reset.pushKey hsome _ _, hpush _ _ _⟩
  | repeats _ _ _ _ => exact ⟨h, rfl⟩
  | joins _ _ _ => exact ⟨((h.withKeys hsome _).interrupt).pushKey hsome _ _, hpush _ _ _⟩

theorem Candidates.refill (h : Candidates P s) : Candidates P s.refill := by
  unfold KeyCommandHandler.refill
  split
  · exact ⟨h.sequences, h.sequences, h.none⟩
  · exact h

/-- What the loop starts with. -/
theorem Candidates.loopStart (h : Candidates P s) {keyEvent : KeyEvent} {start : KeyCommandHandler}
    (hstart : s.loopStart keyEvent = some start) :
    Candidates P start ∧ start.sequences = s.sequences ∧ s.sequences ≠ [] ∧
      start = (s.addSequenceKey keyEvent).2.refill ∧ (s.addSequenceKey keyEvent).1 = true := by
  unfold KeyCommandHandler.loopStart at hstart
  split at hstart
  · cases hstart
  rename_i hsome
  have hsome : s.sequences ≠ [] := fun hnil => hsome (by rw [hnil]; rfl)
  split at hstart
  · rename_i hadded
    obtain rfl := Option.some.inj hstart
    obtain ⟨hshort, hsequences⟩ := h.addSequenceKey hsome keyEvent
    refine ⟨hshort.refill, ?_, hsome, rfl, hadded⟩
    unfold KeyCommandHandler.refill
    split <;> exact hsequences
  · cases hstart

theorem Candidates.settle (h : Candidates P s) (hsome : s.sequences ≠ []) (nowTime : Int) :
    Candidates P (KeyCommandHandler.settle (s.pass nowTime)) := by
  obtain ⟨keys, filterSequences, timers, launched, hstate, _, hlist, htemp⟩ :=
    forCandidates_frame nowTime s.filterSequences 0 s
  obtain ⟨_, _, _, _, hsettle⟩ := KeyCommandHandler.settle_frame (s.pass nowTime)
  have hstate : (s.pass nowTime).state = { s with keys, filterSequences, timers, launched } := hstate
  rw [hsettle, hstate]
  refine ⟨h.sequences, fun sequence hsequence => ?_, fun hnil => absurd hnil hsome⟩
  dsimp only at hsequence
  split at hsequence
  · obtain ⟨other, hother, heq⟩ := hlist sequence hsequence
    rw [List.mem_append, or_self] at hother
    exact heq ▸ h.candidates other hother
  · obtain ⟨other, hother, heq⟩ := htemp sequence hsequence
    exact heq ▸ h.candidates other hother

theorem Candidates.handleSequences (h : Candidates P s) (nowTime : Int) (keyEvent : KeyEvent) :
    Candidates P (s.handleSequences nowTime keyEvent).2 := by
  rw [KeyCommandHandler.handleSequences_eq]
  cases hstart : s.loopStart keyEvent with
  | some start =>
    obtain ⟨hshort, hsequences, hsome, _⟩ := h.loopStart hstart
    exact hshort.settle (hsequences ▸ hsome) nowTime
  | none =>
    dsimp only
    split
    · exact h
    · rename_i hsome
      exact (h.addSequenceKey (fun hnil => hsome (by rw [hnil]; rfl)) keyEvent).1

theorem Candidates.step (h : Candidates P s) (i : KeyCommandInput) : Candidates P (keyCommandStep s i) := by
  cases i with
  | key keyEvent nowTime =>
    obtain ⟨_, _, _, _, hshort⟩ := s.handleShortKeys_frame nowTime keyEvent
    obtain ⟨_, _, _, hevent⟩ := s.onHandleEvent_frame nowTime keyEvent
    have h' : Candidates P (s.handleShortKeys nowTime keyEvent).2 := by
      rw [hshort]
      exact ⟨h.sequences, h.candidates, h.none⟩
    have hafter := h'.handleSequences nowTime keyEvent
    rw [keyCommandStep, hevent]
    exact ⟨hafter.sequences, hafter.candidates, hafter.none⟩
  | processNext nowTime =>
    simp only [keyCommandStep, KeyCommandHandler.processNext]
    cases (s.timers.processNext nowTime).1 with
    | idle => exact ⟨h.sequences, h.candidates, h.none⟩
    | dropped => exact ⟨h.sequences, h.candidates, h.none⟩
    | fired closure =>
      cases closure with
      | sequence sequence => exact ⟨h.sequences, (fun _ h => nomatch h), fun _ => rfl⟩
      | shortcut _ => exact ⟨h.sequences, h.candidates, h.none⟩
      | special _ => exact ⟨h.sequences, h.candidates, h.none⟩
      | subscriber _ _ => exact ⟨h.sequences, h.candidates, h.none⟩
      | other _ => exact ⟨h.sequences, h.candidates, h.none⟩
  | addSubscriberTimer ref finalKey nowTime duration =>
    simp only [keyCommandStep, KeyCommandHandler.addSubscriberTimer]
    split
    · exact h
    · split <;> exact ⟨h.sequences, h.candidates, h.none⟩
  | clearSubscriberTimer ref =>
    simp only [keyCommandStep, KeyCommandHandler.clearSubscriberTimer]
    split <;> exact ⟨h.sequences, h.candidates, h.none⟩
  | otherAdd _ _ _ _ => exact ⟨h.sequences, h.candidates, h.none⟩
  | otherRemove _ => exact ⟨h.sequences, h.candidates, h.none⟩
  | otherReset _ _ => exact ⟨h.sequences, h.candidates, h.none⟩

/-- The sequences are no longer than the configuration allows. -/
def Short (s : KeyCommandHandler) : Prop :=
  Candidates (fun keys => keys.length ≤ maxSequenceKeysNum) s

theorem isSequenceKeysValid_length {sequence : Sequence} (h : isSequenceKeysValid sequence = true) :
    sequence.sequenceKeys ≠ [] ∧ sequence.sequenceKeys.length ≤ maxSequenceKeysNum := by
  unfold isSequenceKeysValid at h
  split at h
  · cases h
  · rename_i hsome
    split at h
    · cases h
    · exact ⟨fun hnil => hsome (by rw [hnil]; rfl), by omega⟩

theorem create_short (config : Config) : Short (.create config) where
  sequences sequence hsequence :=
    (isSequenceKeysValid_length (config.configured sequence hsequence).keys).2
  candidates _ h := nomatch h
  none _ := rfl

/-! ## The length of the list -/

/-- The loop leaves the keys alone, unless it launches a sequence at once. -/
theorem pass_keys (s : KeyCommandHandler) (nowTime : Int) :
    ((KeyCommandHandler.settle (s.pass nowTime)).keys = s.keys ∨
        (KeyCommandHandler.settle (s.pass nowTime)).keys = []) ∧
      ((∀ item ∈ s.filterSequences, launchesAtOnce s.keys item = false) →
        (KeyCommandHandler.settle (s.pass nowTime)).keys = s.keys) := by
  obtain ⟨keys, _, _, _, hstate, hkeys, _, _⟩ := forCandidates_frame nowTime s.filterSequences 0 s
  obtain ⟨_, _, _, _, hsettle⟩ := KeyCommandHandler.settle_frame (s.pass nowTime)
  have hsame : (KeyCommandHandler.settle (s.pass nowTime)).keys = (s.pass nowTime).state.keys := by
    rw [hsettle]
  have hpass : (s.pass nowTime).state.keys = keys := by
    rw [KeyCommandHandler.pass, hstate]
  constructor
  · rw [hsame, hpass]
    exact hkeys
  · intro hquiet
    obtain ⟨⟨_, _, _, hstate'⟩, _⟩ := forCandidates_quiet nowTime s.filterSequences 0 s hquiet
    rw [hsame, KeyCommandHandler.pass, hstate']

theorem refill_keys (s : KeyCommandHandler) : s.refill.keys = s.keys := by
  unfold KeyCommandHandler.refill
  split <;> rfl

/-- The list grows beyond the maximum precisely if a key joins a full one. -/
theorem handleSequences_length_iff (h : Short s) (hlength : s.keys.length ≤ maxSequenceKeysNum)
    (nowTime : Int) (keyEvent : KeyEvent) :
    (s.handleSequences nowTime keyEvent).2.keys.length ≤ maxSequenceKeysNum ↔
      ∀ last ∈ s.keys.getLast?, s.joins keyEvent last → s.keys.length < maxSequenceKeysNum := by
  have hroom : ¬ maxSequenceKeysNum < s.keys.length := by omega
  have hlast : ∀ {last last' : SequenceKey}, last ∈ s.keys.getLast? → last' ∈ s.keys.getLast? →
      last' = last := fun h h' => Option.mem_unique h' h
  rw [KeyCommandHandler.handleSequences_eq]
  cases hstart : s.loopStart keyEvent with
  | some start =>
    obtain ⟨hshort, _, _, hstarts, hadded⟩ := h.loopStart hstart
    have hkeys : start.keys = (s.addSequenceKey keyEvent).2.keys := by rw [hstarts, refill_keys]
    obtain ⟨hpass, hquiet⟩ := pass_keys start nowTime
    have hadds := addSequenceKey_adds s keyEvent
    generalize s.addSequenceKey keyEvent = r at hadds hadded hkeys
    dsimp only
    cases hadds with
    | first hnil =>
      refine ⟨fun _ last hlast _ => ?_, fun _ => ?_⟩
      · rw [hnil] at hlast
        cases hlast
      · rcases hpass with heq | heq
        · rw [heq, hkeys]
          exact Nat.succ_le_succ (Nat.zero_le _)
        · rw [heq]
          exact Nat.zero_le _
    | backwards _ _ _ => cases hadded
    | pause last hmem hpause =>
      rw [KeyCommandHandler.pushKey, if_neg hroom] at hkeys
      refine ⟨fun _ last' hmem' hjoins => ?_, fun _ => ?_⟩
      · rw [hlast hmem hmem'] at hjoins
        exact absurd hpause (not_lt.mpr hjoins.2.1)
      · rcases hpass with heq | heq
        · rw [heq, hkeys]
          exact Nat.succ_le_succ (Nat.zero_le _)
        · rw [heq]
          exact Nat.zero_le _
    | repeats _ _ _ _ => cases hadded
    | joins last hmem hjoins =>
      rw [KeyCommandHandler.pushKey, if_neg hroom] at hkeys
      have hpos : 0 < s.keys.length := List.length_pos_of_mem (List.mem_of_getLast? hmem)
      have hgrows : start.keys.length = s.keys.length + 1 := by
        rw [hkeys]
        simp [KeyCommandHandler.interruptTimers, KeyCommandHandler.setLastDelay]
        omega
      constructor
      · intro hshorter _ _ _
        by_contra hfull
        have hnone : ∀ item ∈ start.filterSequences, launchesAtOnce start.keys item = false := by
          intro item hitem
          have := hshort.candidates item hitem
          simp only [launchesAtOnce, completes, Bool.and_eq_false_iff, decide_eq_false_iff_not]
          exact .inl (.inr (by omega))
        rw [hquiet hnone] at hshorter
        omega
      · intro hfits
        have := hfits last hmem hjoins
        rcases hpass with heq | heq
        · rw [heq]
          omega
        · rw [heq]
          exact Nat.zero_le _
  | none =>
    dsimp only
    by_cases hnil : s.sequences = []
    · have hkeys := h.none hnil
      simp [hnil, hkeys]
    · have hsome : s.sequences.isEmpty = false := by simpa using hnil
      rw [KeyCommandHandler.loopStart, hsome] at hstart
      simp only [Bool.false_eq_true, if_false, ite_eq_right_iff, reduceCtorEq, imp_false,
        Bool.not_eq_true] at hstart
      rw [hsome]
      have hadds := addSequenceKey_adds s keyEvent
      generalize s.addSequenceKey keyEvent = r at hadds hstart
      simp only [Bool.false_eq_true, if_false]
      cases hadds with
      | first _ => cases hstart
      | backwards last hmem hback =>
        refine ⟨fun _ last' hmem' hjoins => ?_, fun _ => Nat.zero_le _⟩
        rw [hlast hmem hmem'] at hjoins
        exact absurd hback (not_lt.mpr hjoins.1)
      | pause last hmem hpause =>
        rw [KeyCommandHandler.pushKey, if_neg hroom] at hstart
        cases hstart
      | repeats last hmem _ hrepeat =>
        refine ⟨fun _ last' hmem' hjoins => ?_, fun _ => hlength⟩
        rw [hjoins.2.2] at hrepeat
        cases hrepeat
      | joins last hmem hjoins =>
        rw [KeyCommandHandler.pushKey, if_neg hroom] at hstart
        cases hstart

/-! ## Every run -/

/-- A key that comes after a pause is the first of a new attempt: it is the only key in
the list, all sequences are candidates, and the list stays so unless the key launches
a sequence at once. -/
def StartsAnew (s : KeyCommandHandler) : KeyCommandInput → Prop
  | .key keyEvent nowTime =>
      ∀ last ∈ s.keys.getLast?, KeyCommandHandler.pauses keyEvent last →
        ∃ start, (s.handleShortKeys nowTime keyEvent).2.loopStart keyEvent = some start ∧
          start.keys = [.ofEvent keyEvent] ∧ start.filterSequences = s.sequences ∧
          (NoneAtOnce (s.handleShortKeys nowTime keyEvent).2 keyEvent →
            (keyCommandStep s (.key keyEvent nowTime)).keys = [.ofEvent keyEvent])
  | _ => True

/-- The list holds no more keys than a sequence may have. -/
def KeysFit (s : KeyCommandHandler) : Prop := s.keys.length ≤ maxSequenceKeysNum

/-- No key joins a list that is full. -/
def JoinsRoom (s : KeyCommandHandler) : KeyCommandInput → Prop
  | .key keyEvent _ =>
      ∀ last ∈ s.keys.getLast?, s.joins keyEvent last → s.keys.length < maxSequenceKeysNum
  | _ => True

theorem key_keys (s : KeyCommandHandler) (keyEvent : KeyEvent) (nowTime : Int) :
    (keyCommandStep s (.key keyEvent nowTime)).keys
      = ((s.handleShortKeys nowTime keyEvent).2.handleSequences nowTime keyEvent).2.keys := by
  obtain ⟨_, _, _, hevent⟩ := s.onHandleEvent_frame nowTime keyEvent
  rw [keyCommandStep, hevent]

theorem step_keysFit_iff (h : Short s) (hfit : KeysFit s) (i : KeyCommandInput) :
    KeysFit (keyCommandStep s i) ↔ JoinsRoom s i := by
  cases i with
  | key keyEvent nowTime =>
    obtain ⟨_, _, _, _, hshort⟩ := s.handleShortKeys_frame nowTime keyEvent
    have h' : Short (s.handleShortKeys nowTime keyEvent).2 := by
      rw [hshort]
      exact ⟨h.sequences, h.candidates, h.none⟩
    have hiff := handleSequences_length_iff h' (by rw [hshort]; exact hfit) nowTime keyEvent
    rw [KeysFit, key_keys, hiff, hshort]
    exact Iff.rfl
  | processNext nowTime =>
    refine iff_of_true ?_ trivial
    simp only [keyCommandStep, KeyCommandHandler.processNext]
    cases (s.timers.processNext nowTime).1 with
    | idle => exact hfit
    | dropped => exact hfit
    | fired closure =>
      cases closure with
      | sequence sequence => exact Nat.zero_le _
      | shortcut _ => exact hfit
      | special _ => exact hfit
      | subscriber _ _ => exact hfit
      | other _ => exact hfit
  | addSubscriberTimer ref finalKey nowTime duration =>
    refine iff_of_true ?_ trivial
    simp only [keyCommandStep, KeyCommandHandler.addSubscriberTimer]
    split
    · exact hfit
    · split <;> exact hfit
  | clearSubscriberTimer ref =>
    refine iff_of_true ?_ trivial
    simp only [keyCommandStep, KeyCommandHandler.clearSubscriberTimer]
    split <;> exact hfit
  | otherAdd _ _ _ _ => exact iff_of_true hfit trivial
  | otherRemove _ => exact iff_of_true hfit trivial
  | otherReset _ _ => exact iff_of_true hfit trivial

theorem step_startsAnew (h : Short s) (hfit : KeysFit s) (i : KeyCommandInput) :
    StartsAnew s i := by
  cases i with
  | key keyEvent nowTime =>
    intro last hmem hpause
    obtain ⟨_, _, _, _, hshort⟩ := s.handleShortKeys_frame nowTime keyEvent
    have hsame : (s.handleShortKeys nowTime keyEvent).2.keys = s.keys ∧
        (s.handleShortKeys nowTime keyEvent).2.sequences = s.sequences := by
      rw [hshort]
      exact ⟨rfl, rfl⟩
    generalize hs' : (s.handleShortKeys nowTime keyEvent).2 = s' at hsame
    obtain ⟨hkeys, hsequences⟩ := hsame
    have hsome : s'.sequences ≠ [] := by
      intro hnil
      rw [h.none (hsequences ▸ hnil)] at hmem
      cases hmem
    have hadds : s'.addSequenceKey keyEvent
        = (true, { s'.resetSequenceKeys with keys := [.ofEvent keyEvent] }) := by
      have hroom : ¬ maxSequenceKeysNum < s'.keys.length := by
        rw [hkeys]
        exact not_lt.mpr hfit
      have hlast : s'.keys.getLast? = some last := hkeys ▸ hmem
      have hforth : ¬ (SequenceKey.ofEvent keyEvent).actionTime < last.actionTime := by
        have hlate : maxDelayTime < (SequenceKey.ofEvent keyEvent).actionTime - last.actionTime := hpause
        unfold maxDelayTime at hlate
        omega
      simp only [KeyCommandHandler.addSequenceKey, hlast]
      rw [if_neg hforth, if_pos (show maxDelayTime < (SequenceKey.ofEvent keyEvent).actionTime
        - last.actionTime from hpause), KeyCommandHandler.pushKey, if_neg hroom]
      rfl
    have hstart : s'.loopStart keyEvent
        = some { s' with keys := [.ofEvent keyEvent], filterSequences := s'.sequences } := by
      rw [KeyCommandHandler.loopStart, if_neg (by simpa using hsome), hadds]
      rfl
    refine ⟨_, hstart, rfl, hsequences, fun hquiet => ?_⟩
    rw [key_keys, hs', KeyCommandHandler.handleSequences_eq, hstart]
    exact (pass_keys _ nowTime).2 (hquiet _ hstart)
  | processNext _ => trivial
  | addSubscriberTimer _ _ _ _ => trivial
  | clearSubscriberTimer _ => trivial
  | otherAdd _ _ _ _ => trivial
  | otherRemove _ => trivial
  | otherReset _ _ => trivial

/-- In a run the keys after a pause start anew and the list holds no more keys than the
maximum, precisely if no key joins a full list. -/
theorem run_startsAnew_iff (config : Config) (is : List KeyCommandInput) :
    (AllSteps keyCommandStep StartsAnew (.create config) is ∧
        Always keyCommandStep KeysFit (.create config) is) ↔
      AllSteps keyCommandStep JoinsRoom (.create config) is := by
  have hinit : Short (.create config) ∧ KeysFit (.create config) :=
    ⟨create_short config, Nat.zero_le _⟩
  have hkeep : ∀ (s : KeyCommandHandler) i, Short s ∧ KeysFit s → JoinsRoom s i →
      Short (keyCommandStep s i) ∧ KeysFit (keyCommandStep s i) :=
    fun s i hs hc => ⟨hs.1.step i, (step_keysFit_iff hs.1 hs.2 i).mpr hc⟩
  have hfit := always_iff_allSteps_of_inv (fun s (hs : Short s ∧ KeysFit s) => hs.2) hkeep
    (fun s i hs hfit => (step_keysFit_iff hs.1 hs.2 i).mp hfit) is _ hinit
  constructor
  · exact fun h => hfit.mp h.2
  · intro h
    exact ⟨allSteps_of_allSteps hkeep (fun s i hs _ => step_startsAnew hs.1 hs.2 i) is _ hinit h,
      hfit.mpr h⟩

/-- Ten keys, pressed one after another, that no other comes near. -/
def tenKeys : Config where
  shortcuts := []
  sequences := [{ sequenceKeys := (List.range 10).map fun i =>
    { keyCode := Int32.ofNat (2000 + i), keyAction := keyActionDown } }]
  configured := by
    intro sequence hsequence
    rw [List.mem_singleton.mp hsequence]
    exact ⟨by decide +kernel, by decide +kernel, le_rfl, rfl⟩

/-- Key after key, none of them of the sequence. -/
def otherKeys (count : Nat) : List KeyCommandInput :=
  (List.range count).map fun i => .key (pressed (Int32.ofNat (3000 + i)) (Int64.ofNat i)) 0

/-- The eleventh key is added. -/
theorem counterexample_startsAnew :
    ¬ ∀ (config : Config) (is : List KeyCommandInput),
      AllSteps keyCommandStep StartsAnew (.create config) is ∧
        Always keyCommandStep KeysFit (.create config) is := by
  intro h
  have hlast := (h tenKeys (otherKeys 11)).2.last
  revert hlast
  unfold KeysFit
  decide +kernel

end FtMmi.KeyCommand
