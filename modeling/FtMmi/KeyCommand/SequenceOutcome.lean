/-
FtMmi.KeyCommand.SequenceOutcome — what `HandleSequences` comes to.

`Outcome` has one case for each: the key is refused; a candidate without a
start delay is completed, which leaves no keys to claim; only candidates
with one are completed, and the keys typed are claimed; none is completed.
-/
import FtMmi.KeyCommand.TypedKeys

namespace FtMmi.KeyCommand

open FtMmi.Event
open FtMmi.EventHandler
open FtMmi.Timer

namespace KeyCommandHandler

/-! ## Where the loop starts -/

/-- The event is the last of the keys. -/
theorem loopStart_keys {s : KeyCommandHandler} {keyEvent : KeyEvent} {start : KeyCommandHandler}
    (h : s.loopStart keyEvent = some start) :
    ∃ keys, start.keys = keys ++ [SequenceKey.ofEvent keyEvent] := by
  have hpush : ∀ (s : KeyCommandHandler) size key, (s.pushKey size key).1 = true →
      (s.pushKey size key).2.keys = s.keys ++ [key] := by
    intro s size key hpushed
    unfold pushKey at hpushed ⊢
    split at hpushed
    · cases hpushed
    · rename_i hroom
      rw [if_neg hroom]
  unfold loopStart at h
  split at h
  · cases h
  split at h
  · rename_i hadded
    obtain rfl := Option.some.inj h
    rw [refill_keys]
    have hadds := addSequenceKey_adds s keyEvent
    generalize s.addSequenceKey keyEvent = r at hadds hadded
    cases hadds with
    | first _ => exact ⟨[], rfl⟩
    | backwards _ _ _ => cases hadded
    | pause _ _ _ => exact ⟨_, hpush _ _ _ hadded⟩
    | repeats _ _ _ _ => cases hadded
    | joins _ _ _ => exact ⟨_, hpush _ _ _ hadded⟩
  · cases h

theorem loopStart_frame {s : KeyCommandHandler} {keyEvent : KeyEvent} {start : KeyCommandHandler}
    (h : s.loopStart keyEvent = some start) :
    ∃ keys filterSequences timers, start = { s with keys, filterSequences, timers } := by
  unfold loopStart at h
  split at h
  · cases h
  split at h
  · obtain rfl := Option.some.inj h
    obtain ⟨_, _, _, hadded⟩ := addSequenceKey_frame s keyEvent
    obtain ⟨_, hrefill⟩ := refill_frame (s.addSequenceKey keyEvent).2
    rw [hrefill, hadded]
    exact ⟨_, _, _, rfl⟩
  · cases h

end KeyCommandHandler

/-! ## What it comes to -/

/-- A candidate with a start delay is completed and can get a timer. -/
def CompletedLater (s : KeyCommandHandler) (nowTime : Int) (keyEvent : KeyEvent) : Prop :=
  ∃ start ∈ s.loopStart keyEvent, ∃ item ∈ start.filterSequences,
    launchesLater start.keys item = true ∧ 0 ≤ start.launchTimer nowTime item

inductive Outcome (s : KeyCommandHandler) (nowTime : Int) (keyEvent : KeyEvent) :
    Bool × KeyCommandHandler → Prop
  | refused (hstart : s.loopStart keyEvent = none) :
      Outcome s nowTime keyEvent
        (false, if s.sequences.isEmpty then s else (s.addSequenceKey keyEvent).2)
  | atOnce (start : KeyCommandHandler) (hstart : s.loopStart keyEvent = some start)
      (honce : ¬ NoneAtOnce s keyEvent)
      (looped : KeyCommandHandler) (hlooped : looped = (start.pass nowTime).state)
      (hkeys : looped.keys = []) (filterSequences : List Sequence) :
      Outcome s nowTime keyEvent (true, { looped with filterSequences })
  | later (start : KeyCommandHandler) (hstart : s.loopStart keyEvent = some start)
      (hquiet : NoneAtOnce s keyEvent) (hlater : CompletedLater s nowTime keyEvent)
      (looped : KeyCommandHandler) (hlooped : looped = (start.pass nowTime).state)
      (filterSequences : List Sequence) :
      Outcome s nowTime keyEvent
        (true, { start.keys.foldl KeyCommandHandler.claimKey looped with filterSequences })
  | none (start : KeyCommandHandler) (hstart : s.loopStart keyEvent = some start)
      (hquiet : NoneAtOnce s keyEvent) (hlater : ¬ CompletedLater s nowTime keyEvent)
      (looped : KeyCommandHandler) (hlooped : looped = (start.pass nowTime).state)
      (filterSequences : List Sequence) :
      Outcome s nowTime keyEvent (false, { looped with filterSequences })

theorem handleSequences_outcome (s : KeyCommandHandler) (nowTime : Int) (keyEvent : KeyEvent) :
    Outcome s nowTime keyEvent (s.handleSequences nowTime keyEvent) := by
  rw [KeyCommandHandler.handleSequences_eq]
  cases hstart : s.loopStart keyEvent with
  | none => exact .refused hstart
  | some start =>
    have hcandidates : ∀ end' : KeyCommandHandler, ∃ filterSequences,
        (if (start.pass nowTime).tempSeqs.isEmpty then end'
          else { end' with filterSequences := (start.pass nowTime).tempSeqs })
            = { end' with filterSequences } := by
      intro end'
      split <;> exact ⟨_, rfl⟩
    unfold KeyCommandHandler.settle
    dsimp only
    by_cases hquiet : NoneAtOnce s keyEvent
    · obtain ⟨⟨_, _, _, hstate⟩, _⟩ := forCandidates_quiet nowTime start.filterSequences 0 start
        (hquiet start hstart)
      have hiff : (start.pass nowTime).isLaunchAbility = true ↔ CompletedLater s nowTime keyEvent := by
        rw [CompletedLater, hstart]
        simp only [Option.mem_def, Option.some.injEq, exists_eq_left']
        exact forCandidates_later_iff nowTime start.filterSequences 0 start (hquiet start hstart)
      by_cases hlater : CompletedLater s nowTime keyEvent
      · have hkeys : (start.pass nowTime).state.keys = start.keys := by
          rw [KeyCommandHandler.pass, hstate]
        rw [hiff.mpr hlater, if_pos rfl, KeyCommandHandler.claimKeys, hkeys]
        obtain ⟨_, heq⟩ := hcandidates
          (start.keys.foldl KeyCommandHandler.claimKey (start.pass nowTime).state)
        rw [heq]
        exact .later start hstart hquiet hlater _ rfl _
      · rw [Bool.eq_false_iff.mpr fun h => hlater (hiff.mp h), if_neg Bool.false_ne_true]
        obtain ⟨_, heq⟩ := hcandidates (start.pass nowTime).state
        rw [heq]
        exact .none start hstart hquiet hlater _ rfl _
    · have hlaunch : ∃ item ∈ start.filterSequences, launchesAtOnce start.keys item = true := by
        simp only [NoneAtOnce, hstart, Option.mem_def, Option.some.injEq, forall_eq'] at hquiet
        push Not at hquiet
        obtain ⟨item, hitem, honce⟩ := hquiet
        exact ⟨item, hitem, by simpa using honce⟩
      obtain ⟨hreport, hkeys⟩ := forCandidates_atOnce nowTime start.filterSequences 0 start hlaunch
      have hclaimed : (start.pass nowTime).state.claimKeys = (start.pass nowTime).state := by
        rw [KeyCommandHandler.claimKeys, KeyCommandHandler.pass, hkeys, List.foldl_nil]
      have hreport : (start.pass nowTime).isLaunchAbility = true := hreport
      rw [hreport, if_pos rfl, hclaimed]
      obtain ⟨_, heq⟩ := hcandidates (start.pass nowTime).state
      rw [heq]
      exact .atOnce start hstart hquiet _ rfl hkeys _

/-- When `HandleSequences` returns true. -/
theorem handleSequences_eq_true_iff (s : KeyCommandHandler) (nowTime : Int) (keyEvent : KeyEvent) :
    (s.handleSequences nowTime keyEvent).1 = true ↔
      ¬ NoneAtOnce s keyEvent ∨ CompletedLater s nowTime keyEvent := by
  have houtcome := handleSequences_outcome s nowTime keyEvent
  generalize s.handleSequences nowTime keyEvent = r at houtcome ⊢
  cases houtcome with
  | refused hstart =>
    refine iff_of_false (fun h => nomatch h) ?_
    simp [NoneAtOnce, CompletedLater, hstart]
  | atOnce _ _ honce _ _ _ _ => exact iff_of_true rfl (.inl honce)
  | later _ _ _ hlater _ _ _ => exact iff_of_true rfl (.inr hlater)
  | none _ _ hquiet hlater _ _ _ =>
    exact iff_of_false (fun h => nomatch h) fun h => h.elim (fun h => h hquiet) hlater

/-- The loop does not touch the special keys and the timers of subscribers. -/
theorem pass_frame (s : KeyCommandHandler) (nowTime : Int) :
    ∃ keys filterSequences timers launched,
      (s.pass nowTime).state = { s with keys, filterSequences, timers, launched } := by
  obtain ⟨_, _, _, _, hstate, _⟩ := forCandidates_frame nowTime s.filterSequences 0 s
  exact ⟨_, _, _, _, hstate⟩

end FtMmi.KeyCommand
