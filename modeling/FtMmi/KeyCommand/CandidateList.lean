/-
FtMmi.KeyCommand.CandidateList — the loop of `HandleSequences` over the
candidates, and the list under it.

A candidate is completed when the keys typed are all of its keys. Without a
start delay it is launched at once, and the launch clears the list that the
loop goes through; with one it gets a timer, and the list stays. The three
cases of `handleSequence_cases` are all that one turn of the loop can do,
and everything about the loop is an induction over them.
-/
import FtMmi.KeyCommand.KeyCommandHandler

namespace FtMmi.KeyCommand

open FtMmi.Event
open FtMmi.EventHandler
open FtMmi.Timer

/-! ## One candidate -/

/-- The keys typed are all keys of the sequence. -/
def completes (keys : List SequenceKey) (sequence : Sequence) : Bool :=
  matchesKeys keys sequence.sequenceKeys && keys.length = sequence.sequenceKeys.length

/-- The sequence is completed and has no start delay. -/
def launchesAtOnce (keys : List SequenceKey) (sequence : Sequence) : Bool :=
  completes keys sequence && sequence.abilityStartDelay = 0

/-- The sequence is completed and its launch waits. -/
def launchesLater (keys : List SequenceKey) (sequence : Sequence) : Bool :=
  completes keys sequence && sequence.abilityStartDelay ≠ 0

theorem matchesKeys_length {keys sequenceKeys : List SequenceKey}
    (h : matchesKeys keys sequenceKeys = true) : keys.length ≤ sequenceKeys.length := by
  induction keys generalizing sequenceKeys with
  | nil => exact Nat.zero_le _
  | cons key keys ih =>
    cases sequenceKeys with
    | nil => cases h
    | cons sequenceKey sequenceKeys =>
      simp only [matchesKeys, Bool.and_eq_true] at h
      exact Nat.succ_le_succ (ih h.2)

/-- The keys typed are the first keys of the sequence. -/
theorem matchesKeys_same {keys sequenceKeys : List SequenceKey}
    (h : matchesKeys keys sequenceKeys = true) :
    keys.map (fun key => (key.keyCode, key.keyAction))
      = (sequenceKeys.take keys.length).map fun key => (key.keyCode, key.keyAction) := by
  induction keys generalizing sequenceKeys with
  | nil => rfl
  | cons key keys ih =>
    cases sequenceKeys with
    | nil => cases h
    | cons sequenceKey sequenceKeys =>
      simp only [matchesKeys, Bool.and_eq_true, SequenceKey.same, decide_eq_true_eq] at h
      obtain ⟨⟨⟨hcode, haction⟩, _⟩, hrest⟩ := h
      simp only [List.map_cons, List.length_cons, List.take_succ_cons, ih hrest, hcode, haction]

/-- The keys typed are those of a sequence that they complete. -/
theorem completes_same {keys : List SequenceKey} {sequence : Sequence}
    (h : completes keys sequence = true) :
    keys.map (fun key => (key.keyCode, key.keyAction))
      = sequence.sequenceKeys.map fun key => (key.keyCode, key.keyAction) := by
  simp only [completes, Bool.and_eq_true, decide_eq_true_eq] at h
  have hsame := matchesKeys_same h.1
  rwa [h.2, List.take_length] at hsame

variable {s : KeyCommandHandler}

/-- A candidate is launched at once, or gets a timer, or is only compared. -/
inductive Turn (s : KeyCommandHandler) (nowTime : Int) (sequence : Sequence) : Handled → Prop
  | atOnce (h : launchesAtOnce s.keys sequence = true) :
      Turn s nowTime sequence
        ⟨true, true, sequence, [s.filterSequences.length, s.filterSequences.length, 0],
          s.launchSequence sequence⟩
  | later (h : launchesLater s.keys sequence = true) (r : Int × KeyCommandHandler)
      (hr : r = s.addTimer nowTime (sequence.abilityStartDelay.tdiv secondsSystem)
        (.sequence sequence)) :
      Turn s nowTime sequence
        ⟨decide (0 ≤ r.1), decide (0 ≤ r.1), { sequence with timerId := r.1 },
          [s.filterSequences.length, s.filterSequences.length], r.2⟩
  | compared (h : completes s.keys sequence = false) :
      Turn s nowTime sequence
        ⟨matchesKeys s.keys sequence.sequenceKeys, false, sequence, [s.filterSequences.length], s⟩

theorem handleSequence_turn (s : KeyCommandHandler) (nowTime : Int) (sequence : Sequence) :
    Turn s nowTime sequence (s.handleSequence nowTime sequence) := by
  have compared := @Turn.compared s nowTime sequence
  have later := fun h => @Turn.later s nowTime sequence h _ rfl
  unfold KeyCommandHandler.handleSequence
  dsimp only
  by_cases hlong : sequence.sequenceKeys.length < s.keys.length
  · have hnot : matchesKeys s.keys sequence.sequenceKeys = false := by
      rw [Bool.eq_false_iff]
      intro h
      have := matchesKeys_length h
      omega
    have hcompared := compared (by rw [completes, hnot]; rfl)
    rw [hnot] at hcompared
    rw [if_pos hlong]
    exact hcompared
  rw [if_neg hlong]
  cases hmatch : matchesKeys s.keys sequence.sequenceKeys with
  | false =>
    have hcompared := compared (by rw [completes, hmatch]; rfl)
    rw [hmatch] at hcompared
    exact hcompared
  | true =>
    rw [if_neg (by simp)]
    by_cases hlength : s.keys.length = sequence.sequenceKeys.length
    · have hcompletes : completes s.keys sequence = true := by simp [completes, hmatch, hlength]
      rw [if_pos hlength]
      by_cases hdelay : sequence.abilityStartDelay = 0
      · rw [if_pos hdelay]
        exact .atOnce (by simp [launchesAtOnce, hcompletes, hdelay])
      · rw [if_neg hdelay]
        have hlater := later (by simp [launchesLater, hcompletes, hdelay])
        split
        · rename_i hneg
          rw [decide_eq_false (by omega)] at hlater
          exact hlater
        · rename_i hpos
          rw [decide_eq_true (by omega)] at hlater
          exact hlater
    · have hcompared := compared (by simp [completes, hlength])
      rw [hmatch] at hcompared
      rw [if_neg hlength]
      exact hcompared

/-! ## The loop -/

/-- A turn that launches nothing at once leaves the keys and the number of candidates
alone. -/
theorem turn_quiet {nowTime : Int} {sequence : Sequence} {h : Handled} (hturn : Turn s nowTime sequence h)
    (hquiet : launchesAtOnce s.keys sequence = false) :
    (∃ timers, h.state = { s with timers }) ∧ (∀ size ∈ h.sizes, size = s.filterSequences.length) ∧
      (h.launches = true → launchesLater s.keys sequence = true) := by
  cases hturn with
  | atOnce honce =>
    rw [hquiet] at honce
    cases honce
  | later hlater r hr =>
    subst hr
    refine ⟨⟨_, rfl⟩, ?_, fun _ => hlater⟩
    simp
  | compared _ =>
    refine ⟨⟨s.timers, rfl⟩, ?_, fun hlaunches => nomatch hlaunches⟩
    simp

theorem forCandidates_quiet (nowTime : Int) (items : List Sequence) :
    ∀ (i : Nat) (s : KeyCommandHandler), (∀ item ∈ items, launchesAtOnce s.keys item = false) →
      (∃ timers filterSequences, filterSequences.length = s.filterSequences.length ∧
        (KeyCommandHandler.forCandidates nowTime i items s).state
          = { s with timers, filterSequences }) ∧
      (∀ access ∈ (KeyCommandHandler.forCandidates nowTime i items s).accesses,
        access.index < i + items.length ∧ access.size = s.filterSequences.length) ∧
      ((KeyCommandHandler.forCandidates nowTime i items s).isLaunchAbility = true →
        ∃ item ∈ items, launchesLater s.keys item = true) := by
  induction items with
  | nil =>
    intro i s _
    exact ⟨⟨s.timers, s.filterSequences, rfl, rfl⟩, (fun _ h => nomatch h), fun h => nomatch h⟩
  | cons item items ih =>
    intro i s hquiet
    obtain ⟨⟨timers, hstate⟩, hsizes, hlaunches⟩ := turn_quiet (handleSequence_turn s nowTime item)
      (hquiet item List.mem_cons_self)
    rw [KeyCommandHandler.forCandidates]
    generalize s.handleSequence nowTime item = h at hstate hsizes hlaunches ⊢
    obtain ⟨keeps, launches, sequence, sizes, state⟩ := h
    dsimp only at hstate hsizes hlaunches ⊢
    subst hstate
    have hlength : (s.filterSequences.set i sequence).length = s.filterSequences.length :=
      List.length_set
    obtain ⟨⟨timers', filterSequences', hlength', hstate'⟩, haccesses, hlaunch⟩ := ih (i + 1)
      { s with timers, filterSequences := s.filterSequences.set i sequence }
      fun other hother => hquiet other (List.mem_cons_of_mem item hother)
    refine ⟨⟨timers', filterSequences', hlength'.trans hlength, hstate'⟩, ?_, ?_⟩
    · intro access haccess
      rcases List.mem_append.mp haccess with hown | hrest
      · obtain ⟨size, hsize, rfl⟩ := List.mem_map.mp hown
        refine ⟨by simp, ?_⟩
        cases keeps with
        | false => exact hsizes size hsize
        | true =>
          rcases List.mem_append.mp hsize with hsize | hsize
          · exact hsizes size hsize
          · exact (List.mem_singleton.mp hsize).trans hlength
      · obtain ⟨hindex, hsize⟩ := haccesses access hrest
        exact ⟨by simpa [Nat.add_assoc, Nat.add_comm 1] using hindex, hsize.trans hlength⟩
    · intro h
      rcases Bool.or_eq_true _ _ ▸ h with h | h
      · exact ⟨item, List.mem_cons_self, hlaunches h⟩
      · obtain ⟨other, hother, hlater⟩ := hlaunch h
        exact ⟨other, List.mem_cons_of_mem item hother, hlater⟩

/-- What the loop changes at all. Keys and candidates go away, and candidates get
timers. -/
theorem forCandidates_frame (nowTime : Int) (items : List Sequence) :
    ∀ (i : Nat) (s : KeyCommandHandler), ∃ keys filterSequences timers launched,
      (KeyCommandHandler.forCandidates nowTime i items s).state
        = { s with keys, filterSequences, timers, launched } ∧
      (keys = s.keys ∨ keys = []) ∧
      (∀ item ∈ filterSequences, ∃ other ∈ s.filterSequences ++ items,
        item.sequenceKeys = other.sequenceKeys) ∧
      ∀ item ∈ (KeyCommandHandler.forCandidates nowTime i items s).tempSeqs, ∃ other ∈ items,
        item.sequenceKeys = other.sequenceKeys := by
  induction items with
  | nil =>
    intro i s
    refine ⟨s.keys, s.filterSequences, s.timers, s.launched, rfl, .inl rfl, fun item hitem => ?_,
      fun _ h => nomatch h⟩
    exact ⟨item, List.mem_append_left [] hitem, rfl⟩
  | cons item items ih =>
    intro i s
    have hturn : ∃ keys filterSequences timers launched,
        (s.handleSequence nowTime item).state
          = { s with keys, filterSequences, timers, launched } ∧
        (keys = s.keys ∨ keys = []) ∧ (filterSequences = s.filterSequences ∨ filterSequences = []) ∧
        (s.handleSequence nowTime item).sequence.sequenceKeys = item.sequenceKeys := by
      have hturn := handleSequence_turn s nowTime item
      generalize s.handleSequence nowTime item = h at hturn ⊢
      cases hturn with
      | atOnce _ => exact ⟨_, _, _, _, rfl, .inr rfl, .inr rfl, rfl⟩
      | later _ r hr =>
        subst hr
        exact ⟨_, _, _, _, rfl, .inl rfl, .inl rfl, rfl⟩
      | compared _ => exact ⟨_, _, _, _, rfl, .inl rfl, .inl rfl, rfl⟩
    rw [KeyCommandHandler.forCandidates]
    generalize s.handleSequence nowTime item = h at hturn ⊢
    obtain ⟨keeps, launches, sequence, sizes, state⟩ := h
    obtain ⟨keys, filterSequences, timers, launched, hstate, hkeys, hlist, hsame⟩ := hturn
    dsimp only at hstate hsame ⊢
    subst hstate
    obtain ⟨keys', filterSequences', timers', launched', hstate', hkeys', hlist', htemp⟩ :=
      ih (i + 1) { s with keys, filterSequences := filterSequences.set i sequence, timers, launched }
    refine ⟨keys', filterSequences', timers', launched', hstate', ?_, fun other hother => ?_,
      fun other hother => ?_⟩
    · rcases hkeys' with h | h
      · exact h ▸ hkeys
      · exact .inr h
    · obtain ⟨from', hfrom, heq⟩ := hlist' other hother
      rcases List.mem_append.mp hfrom with hfrom | hfrom
      · rcases List.mem_or_eq_of_mem_set hfrom with hfrom | rfl
        · rcases hlist with rfl | rfl
          · exact ⟨from', List.mem_append_left _ hfrom, heq⟩
          · cases hfrom
        · exact ⟨item, List.mem_append_right _ List.mem_cons_self, heq.trans hsame⟩
      · exact ⟨from', List.mem_append_right _ (List.mem_cons_of_mem item hfrom), heq⟩
    · have hcases : other = sequence ∨ other ∈ (KeyCommandHandler.forCandidates nowTime (i + 1) items
          { s with keys, filterSequences := filterSequences.set i sequence, timers, launched }).tempSeqs := by
        cases keeps with
        | false => exact .inr hother
        | true => exact List.mem_cons.mp hother
      rcases hcases with rfl | hrest
      · exact ⟨item, List.mem_cons_self, hsame⟩
      · obtain ⟨from', hfrom, heq⟩ := htemp other hrest
        exact ⟨from', List.mem_cons_of_mem item hfrom, heq⟩

/-- A launch at once is read again when the list is empty. -/
theorem forCandidates_launched (nowTime : Int) (items : List Sequence) :
    ∀ (i : Nat) (s : KeyCommandHandler), (∃ item ∈ items, launchesAtOnce s.keys item = true) →
      ∃ access ∈ (KeyCommandHandler.forCandidates nowTime i items s).accesses,
        access.size = 0 := by
  induction items with
  | nil =>
    rintro i s ⟨item, hitem, _⟩
    cases hitem
  | cons item items ih =>
    intro i s hlaunch
    have hturn := handleSequence_turn s nowTime item
    rw [KeyCommandHandler.forCandidates]
    cases honce : launchesAtOnce s.keys item with
    | true =>
      generalize s.handleSequence nowTime item = h at hturn
      cases hturn with
      | atOnce _ => exact ⟨⟨i, 0⟩, by simp, rfl⟩
      | later hlater r hr =>
        simp only [launchesAtOnce, launchesLater, Bool.and_eq_true, decide_eq_true_eq] at honce hlater
        exact absurd honce.2 hlater.2
      | compared hnot =>
        simp only [launchesAtOnce, Bool.and_eq_true] at honce
        rw [hnot] at honce
        cases honce.1
    | false =>
      obtain ⟨other, hother, honce'⟩ := hlaunch
      rcases List.mem_cons.mp hother with rfl | hother
      · rw [honce] at honce'
        cases honce'
      obtain ⟨⟨timers, hstate⟩, _⟩ := turn_quiet hturn honce
      obtain ⟨access, haccess, hsize⟩ := ih (i + 1)
        { (s.handleSequence nowTime item).state with
          filterSequences := (s.handleSequence nowTime item).state.filterSequences.set i
            (s.handleSequence nowTime item).sequence }
        ⟨other, hother, by rw [hstate]; exact honce'⟩
      exact ⟨access, List.mem_append_right _ haccess, hsize⟩

/-- A launch at once is reported, and leaves no keys. -/
theorem forCandidates_atOnce (nowTime : Int) (items : List Sequence) :
    ∀ (i : Nat) (s : KeyCommandHandler), (∃ item ∈ items, launchesAtOnce s.keys item = true) →
      (KeyCommandHandler.forCandidates nowTime i items s).isLaunchAbility = true ∧
        (KeyCommandHandler.forCandidates nowTime i items s).state.keys = [] := by
  induction items with
  | nil =>
    rintro i s ⟨item, hitem, _⟩
    cases hitem
  | cons item items ih =>
    intro i s hlaunch
    have hturn := handleSequence_turn s nowTime item
    rw [KeyCommandHandler.forCandidates]
    generalize s.handleSequence nowTime item = h at hturn ⊢
    cases honce : launchesAtOnce s.keys item with
    | true =>
      cases hturn with
      | atOnce _ =>
        refine ⟨rfl, ?_⟩
        obtain ⟨keys, _, _, _, hstate, hkeys, _⟩ := forCandidates_frame nowTime items (i + 1)
          { s.launchSequence item with
            filterSequences := (s.launchSequence item).filterSequences.set i item }
        dsimp only
        rw [hstate]
        rcases hkeys with hkeys | hkeys
        · exact hkeys
        · exact hkeys
      | later hlater r hr =>
        simp only [launchesAtOnce, launchesLater, Bool.and_eq_true, decide_eq_true_eq] at honce hlater
        exact absurd honce.2 hlater.2
      | compared hnot =>
        simp only [launchesAtOnce, Bool.and_eq_true] at honce
        rw [hnot] at honce
        cases honce.1
    | false =>
      obtain ⟨other, hother, honce'⟩ := hlaunch
      rcases List.mem_cons.mp hother with rfl | hother
      · rw [honce] at honce'
        cases honce'
      obtain ⟨⟨timers, hstate⟩, _⟩ := turn_quiet hturn honce
      obtain ⟨hlaunches, hkeys⟩ := ih (i + 1)
        { h.state with filterSequences := h.state.filterSequences.set i h.sequence }
        ⟨other, hother, by rw [hstate]; exact honce'⟩
      exact ⟨by simp [hlaunches], hkeys⟩

/-- `AddTimer` changes nothing when it fails. -/
theorem KeyCommandHandler.addTimer_failed (s : KeyCommandHandler) {nowTime intervalMs : Int}
    {closure : TimerClosure} (h : (s.addTimer nowTime intervalMs closure).1 < 0) :
    (s.addTimer nowTime intervalMs closure).2 = s := by
  rcases s.timers.addTimer_cases nowTime intervalMs 1 closure with
    ⟨_, hsame⟩ | ⟨t, _, _, _, hpos, _, hid, _⟩
  · rw [KeyCommandHandler.addTimer, hsame]
  · have hnew : (s.addTimer nowTime intervalMs closure).1 = t.id := hid
    omega

/-- The id of the timer that a launch would get. -/
def KeyCommandHandler.launchTimer (s : KeyCommandHandler) (nowTime : Int) (sequence : Sequence) :
    Int :=
  (s.addTimer nowTime (sequence.abilityStartDelay.tdiv secondsSystem) (.sequence sequence)).1

/-- Without a launch at once, the report is that of a candidate completed which can get a
timer. -/
theorem forCandidates_later_iff (nowTime : Int) (items : List Sequence) :
    ∀ (i : Nat) (s : KeyCommandHandler), (∀ item ∈ items, launchesAtOnce s.keys item = false) →
      ((KeyCommandHandler.forCandidates nowTime i items s).isLaunchAbility = true ↔
        ∃ item ∈ items, launchesLater s.keys item = true ∧ 0 ≤ s.launchTimer nowTime item) := by
  induction items with
  | nil =>
    intro i s _
    exact iff_of_false (fun h => nomatch h) fun ⟨_, hitem, _⟩ => nomatch hitem
  | cons item items ih =>
    intro i s hquiet
    have hturn := handleSequence_turn s nowTime item
    have honce := hquiet item List.mem_cons_self
    have hrest : ∀ filterSequences, ((KeyCommandHandler.forCandidates nowTime (i + 1) items
        { s with filterSequences }).isLaunchAbility = true ↔
          ∃ item ∈ items, launchesLater s.keys item = true ∧ 0 ≤ s.launchTimer nowTime item) :=
      fun filterSequences => ih (i + 1) { s with filterSequences } fun other hother =>
        hquiet other (List.mem_cons_of_mem item hother)
    rw [KeyCommandHandler.forCandidates]
    generalize s.handleSequence nowTime item = h at hturn ⊢
    simp only [List.exists_mem_cons_iff, Bool.or_eq_true]
    cases hturn with
    | atOnce h => rw [honce] at h; cases h
    | later hlater r hr =>
      by_cases hpos : 0 ≤ r.1
      · refine iff_of_true (.inl (decide_eq_true hpos)) (.inl ⟨hlater, ?_⟩)
        rw [KeyCommandHandler.launchTimer, ← hr]
        exact hpos
      · -- `AddTimer` has failed, and the timers are as they were.
        have hsame : r.2 = s := by
          rw [hr] at hpos ⊢
          exact s.addTimer_failed (not_le.mp hpos)
        have hnot : ¬ 0 ≤ s.launchTimer nowTime item := by
          rw [KeyCommandHandler.launchTimer, ← hr]
          exact hpos
        rw [hsame]
        simp [hpos, hnot, hrest]
    | compared hnot =>
      have hlater : launchesLater s.keys item = false := by simp [launchesLater, hnot]
      simp [hlater, hrest]

/-! ## The accesses -/

namespace KeyCommandHandler

/-- The state in which the loop of `HandleSequences` starts, if it does. -/
def loopStart (s : KeyCommandHandler) (keyEvent : KeyEvent) : Option KeyCommandHandler :=
  if s.sequences.isEmpty then none
  else if (s.addSequenceKey keyEvent).1 then some (s.addSequenceKey keyEvent).2.refill
  else none

theorem handleSequences_eq (s : KeyCommandHandler) (nowTime : Int) (keyEvent : KeyEvent) :
    s.handleSequences nowTime keyEvent =
      match s.loopStart keyEvent with
      | some start => ((start.pass nowTime).isLaunchAbility, settle (start.pass nowTime))
      | none => (false, if s.sequences.isEmpty then s else (s.addSequenceKey keyEvent).2) := by
  unfold handleSequences loopStart
  cases s.sequences.isEmpty with
  | true => rfl
  | false =>
    cases hadd : (s.addSequenceKey keyEvent).1 <;> simp [hadd]

/-- The accesses to candidates during `HandleSequences`. -/
def accesses (s : KeyCommandHandler) (nowTime : Int) (keyEvent : KeyEvent) : List Access :=
  match s.loopStart keyEvent with
  | some start => (start.pass nowTime).accesses
  | none => []

end KeyCommandHandler

/-- No candidate is completed that has no start delay. -/
def NoneAtOnce (s : KeyCommandHandler) (keyEvent : KeyEvent) : Prop :=
  ∀ start ∈ s.loopStart keyEvent, ∀ item ∈ start.filterSequences,
    launchesAtOnce start.keys item = false

instance (s : KeyCommandHandler) (keyEvent : KeyEvent) : Decidable (NoneAtOnce s keyEvent) :=
  match h : s.loopStart keyEvent with
  | none => isTrue fun _ hstart => nomatch h.symm.trans hstart
  | some start =>
      decidable_of_iff (∀ item ∈ start.filterSequences, launchesAtOnce start.keys item = false)
        ⟨fun hall _ hstart => Option.some.inj (h.symm.trans hstart) ▸ hall, fun hall => hall start h⟩

/-- Every candidate that `HandleSequences` and what it calls access is in the list at
that moment, precisely if none without a start delay is completed. -/
theorem accesses_inList_iff (s : KeyCommandHandler) (nowTime : Int) (keyEvent : KeyEvent) :
    (∀ access ∈ s.accesses nowTime keyEvent, access.inList) ↔ NoneAtOnce s keyEvent := by
  unfold NoneAtOnce KeyCommandHandler.accesses
  cases s.loopStart keyEvent with
  | none => simp
  | some start =>
    simp only [Option.mem_def, Option.some.injEq, forall_eq']
    constructor
    · intro h item hitem
      by_contra honce
      rw [Bool.not_eq_false] at honce
      obtain ⟨access, haccess, hsize⟩ :=
        forCandidates_launched nowTime start.filterSequences 0 start ⟨item, hitem, honce⟩
      have hin := h access haccess
      rw [Access.inList, hsize] at hin
      exact absurd hin (Nat.not_lt_zero _)
    · intro h access haccess
      obtain ⟨hindex, hsize⟩ :=
        (forCandidates_quiet nowTime start.filterSequences 0 start h).2.1 access haccess
      rw [Access.inList, hsize]
      omega

/-- One key, and the ability at once. -/
def launchVolumeUp : Config where
  shortcuts := []
  sequences := [{ sequenceKeys := [{ keyCode := keyCodeVolumeUp, keyAction := keyActionDown }] }]
  configured := by
    intro sequence hsequence
    rw [List.mem_singleton.mp hsequence]
    exact ⟨rfl, by simp, le_rfl, rfl⟩

/-- A press as the normaliser reports it. -/
def pressed (keyCode : Int32) (time : Int64) : KeyEvent :=
  { KeyEvent.create time with
    keyCode, action := keyActionDown, keyAction := keyActionDown
    keys := [{ pressed := true, keyCode, downTime := time }] }

/-- The launched sequence is read once more. -/
theorem counterexample_accesses_inList :
    ¬ ∀ (config : Config) (nowTime : Int) (keyEvent : KeyEvent),
      ∀ access ∈ (KeyCommandHandler.create config).accesses nowTime keyEvent, access.inList := by
  intro h
  exact absurd (h launchVolumeUp 0 (pressed keyCodeVolumeUp 1)) (by decide +kernel)

end FtMmi.KeyCommand
