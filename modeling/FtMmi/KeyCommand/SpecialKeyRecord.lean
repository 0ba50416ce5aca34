/-
FtMmi.KeyCommand.SpecialKeyRecord — the record of the special keys
(`specialKeys_`), and the release of one.

A release takes the record back in two places: `HandleSequences`, when it
completes a sequence and the keys typed are still there, and
`OnHandleEvent`, when nothing has consumed the event. The first goes by the
key action of the event, the second by its action.
-/
import FtMmi.KeyCommand.SequenceOutcome
import FtMmi.KeyCommand.ShortcutConsumption

namespace FtMmi.KeyCommand

open FtMmi.Event
open FtMmi.EventHandler
open FtMmi.Lib
open FtMmi.Timer

namespace KeyCommandHandler

/-! ## What the operations do to the record -/

theorem handleSpecialKeys_up (s : KeyCommandHandler) (keyCode : Int32) :
    (s.handleSpecialKeys keyCode keyActionUp).specialKeys keyCode = none := by
  have hne : keyActionUp ≠ keyActionDown := by decide
  unfold handleSpecialKeys
  cases hrecord : s.specialKeys keyCode with
  | none => simp [hrecord, hne]
  | some _ => simp

theorem handleSpecialKeys_down (s : KeyCommandHandler) (keyCode : Int32) :
    ((s.handleSpecialKeys keyCode keyActionDown).specialKeys keyCode).isSome = true := by
  have hne : keyActionDown ≠ keyActionUp := by decide
  unfold handleSpecialKeys
  cases hrecord : s.specialKeys keyCode with
  | none => simp [hne]
  | some _ => simp [hrecord, hne]

theorem handleSpecialKeys_other (s : KeyCommandHandler) {keyCode keyCode' : Int32}
    (h : keyCode' ≠ keyCode) (keyAction : Int32) :
    (s.handleSpecialKeys keyCode keyAction).specialKeys keyCode' = s.specialKeys keyCode' := by
  unfold handleSpecialKeys
  split
  · exact Function.update_of_ne h _ _
  · split
    · exact Function.update_of_ne h _ _
    · rfl

/-- Another action than that of a release leaves what is recorded. -/
theorem handleSpecialKeys_stays (s : KeyCommandHandler) {keyCode keyAction : Int32}
    (h : (s.specialKeys keyCode).isSome = true) (hup : keyAction ≠ keyActionUp) :
    ((s.handleSpecialKeys keyCode keyAction).specialKeys keyCode).isSome = true := by
  unfold handleSpecialKeys
  rw [if_neg (fun h => hup h.1)]
  split
  · simp
  · exact h

theorem claimKey_specialKeys (s : KeyCommandHandler) (item : SequenceKey) :
    (s.claimKey item).specialKeys = if isSpecialType item.keyCode .keyDownAction then
      (s.handleSpecialKeys item.keyCode item.keyAction).specialKeys else s.specialKeys := by
  have hremoved : ∀ (s : KeyCommandHandler) keyCode,
      (s.removeSubscribedTimer keyCode).specialKeys = s.specialKeys := by
    intro s keyCode
    obtain ⟨_, _, heq⟩ := s.removeSubscribedTimer_frame keyCode
    rw [heq]
  rw [claimKey, hremoved, removeSubscriberKeyUpTimer]
  split <;> rfl

end KeyCommandHandler

/-- The loop leaves the record alone. -/
theorem looped_specialKeys {s start : KeyCommandHandler} {keyEvent : KeyEvent}
    (hstart : s.loopStart keyEvent = some start) (nowTime : Int) :
    (start.pass nowTime).state.specialKeys = s.specialKeys := by
  obtain ⟨_, _, _, hstarts⟩ := KeyCommandHandler.loopStart_frame hstart
  obtain ⟨_, _, _, _, hstate⟩ := pass_frame start nowTime
  rw [hstate, hstarts]

/-! ## Only special keys are recorded -/

def OnlySpecial (s : KeyCommandHandler) : Prop :=
  ∀ keyCode, (s.specialKeys keyCode).isSome = true → isSpecialType keyCode .keyDownAction = true

namespace OnlySpecial

variable {s : KeyCommandHandler}

theorem handleSpecialKeys (h : OnlySpecial s) {keyCode : Int32} (keyAction : Int32)
    (hspecial : isSpecialType keyCode .keyDownAction = true) :
    OnlySpecial (s.handleSpecialKeys keyCode keyAction) := by
  intro keyCode' hsome
  by_cases hsame : keyCode' = keyCode
  · rw [hsame]
    exact hspecial
  · rw [s.handleSpecialKeys_other hsame] at hsome
    exact h keyCode' hsome

theorem of_same (h : OnlySpecial s) {t : KeyCommandHandler} (hsame : t.specialKeys = s.specialKeys) :
    OnlySpecial t := by
  intro keyCode hsome
  rw [hsame] at hsome
  exact h keyCode hsome

theorem claimKey (h : OnlySpecial s) (item : SequenceKey) : OnlySpecial (s.claimKey item) := by
  have hclaimed := s.claimKey_specialKeys item
  split at hclaimed
  · rename_i hspecial
    exact (h.handleSpecialKeys item.keyAction hspecial).of_same hclaimed
  · exact h.of_same hclaimed

theorem foldl_claimKey (h : OnlySpecial s) (items : List SequenceKey) :
    OnlySpecial (items.foldl KeyCommandHandler.claimKey s) := by
  induction items generalizing s with
  | nil => exact h
  | cons item items ih => exact ih (h.claimKey item)

theorem handleSequences (h : OnlySpecial s) (nowTime : Int) (keyEvent : KeyEvent) :
    OnlySpecial (s.handleSequences nowTime keyEvent).2 := by
  have hlooped' : ∀ {start}, s.loopStart keyEvent = some start →
      OnlySpecial (start.pass nowTime).state :=
    fun hstart => h.of_same (looped_specialKeys hstart nowTime)
  have houtcome := handleSequences_outcome s nowTime keyEvent
  generalize s.handleSequences nowTime keyEvent = r at houtcome ⊢
  cases houtcome with
  | refused _ =>
    obtain ⟨_, _, _, hadded⟩ := s.addSequenceKey_frame keyEvent
    dsimp only
    split
    · exact h
    · rw [hadded]
      exact h
  | atOnce start hstart _ looped hlooped _ _ =>
    have honly : OnlySpecial looped := hlooped ▸ hlooped' hstart
    exact honly
  | later start hstart _ _ looped hlooped _ =>
    have honly : OnlySpecial looped := hlooped ▸ hlooped' hstart
    exact honly.foldl_claimKey start.keys
  | none start hstart _ _ looped hlooped _ =>
    have honly : OnlySpecial looped := hlooped ▸ hlooped' hstart
    exact honly

theorem step (h : OnlySpecial s) (i : KeyCommandInput) : OnlySpecial (keyCommandStep s i) := by
  cases i with
  | key keyEvent nowTime =>
    have hshort : OnlySpecial (s.handleShortKeys nowTime keyEvent).2 := by
      obtain ⟨_, _, _, _, heq⟩ := s.handleShortKeys_frame nowTime keyEvent
      rw [heq]
      exact h
    have hafter := hshort.handleSequences nowTime keyEvent
    simp only [keyCommandStep, KeyCommandHandler.onHandleEvent]
    generalize ((s.handleShortKeys nowTime keyEvent).2.handleSequences nowTime keyEvent) = r
      at hafter ⊢
    split
    · exact hafter
    split
    · rename_i hrecord
      exact hafter.handleSpecialKeys keyEvent.action (hafter keyEvent.keyCode hrecord)
    split
    · obtain ⟨_, _, heq⟩ := r.2.delaySpecialKey_frame nowTime keyEvent
      rw [heq]
      exact hafter
    · exact hafter
  | processNext nowTime =>
    simp only [keyCommandStep, KeyCommandHandler.processNext]
    cases (s.timers.processNext nowTime).1 with
    | idle => exact h
    | dropped => exact h
    | fired closure => cases closure <;> exact h
  | addSubscriberTimer ref finalKey nowTime duration =>
    simp only [keyCommandStep, KeyCommandHandler.addSubscriberTimer]
    split
    · exact h
    · split <;> exact h
  | clearSubscriberTimer ref =>
    simp only [keyCommandStep, KeyCommandHandler.clearSubscriberTimer]
    split <;> exact h
  | otherAdd _ _ _ _ => exact h
  | otherRemove _ => exact h
  | otherReset _ _ => exact h

end OnlySpecial

/-! ## The release of a key -/

/-- The last of the keys claimed is a release. -/
theorem claimed_released {s : KeyCommandHandler} (h : OnlySpecial s) (keys : List SequenceKey)
    {item : SequenceKey} (hup : item.keyAction = keyActionUp) :
    ((keys ++ [item]).foldl KeyCommandHandler.claimKey s).specialKeys item.keyCode = none := by
  rw [List.foldl_append, List.foldl_cons, List.foldl_nil, KeyCommandHandler.claimKey_specialKeys]
  split
  · rw [hup]
    exact KeyCommandHandler.handleSpecialKeys_up _ _
  · rename_i hplain
    have honly := h.foldl_claimKey keys item.keyCode
    rw [Option.eq_none_iff_forall_ne_some]
    intro keyAction hrecord
    exact hplain (honly (by rw [hrecord]; rfl))

/-- After `HandleSequences` has seen the release of a key. -/
theorem handleSequences_released_iff {s : KeyCommandHandler} (h : OnlySpecial s) (nowTime : Int)
    {keyEvent : KeyEvent} (hup : keyEvent.keyAction = keyActionUp) :
    (s.handleSequences nowTime keyEvent).2.specialKeys keyEvent.keyCode = none ↔
      s.specialKeys keyEvent.keyCode = none ∨
        (NoneAtOnce s keyEvent ∧ CompletedLater s nowTime keyEvent) := by
  have houtcome := handleSequences_outcome s nowTime keyEvent
  generalize s.handleSequences nowTime keyEvent = r at houtcome ⊢
  cases houtcome with
  | refused hstart =>
    have hnot : ¬ CompletedLater s nowTime keyEvent := by simp [CompletedLater, hstart]
    have hsame : (if s.sequences.isEmpty then s else (s.addSequenceKey keyEvent).2).specialKeys
        = s.specialKeys := by
      obtain ⟨_, _, _, hadded⟩ := s.addSequenceKey_frame keyEvent
      split
      · rfl
      · rw [hadded]
    dsimp only
    rw [hsame]
    simp [hnot]
  | atOnce start hstart honce looped hlooped _ _ =>
    dsimp only
    rw [hlooped, looped_specialKeys hstart]
    simp [honce]
  | later start hstart hquiet hlater looped hlooped _ =>
    refine iff_of_true ?_ (.inr ⟨hquiet, hlater⟩)
    obtain ⟨keys, hkeys⟩ := KeyCommandHandler.loopStart_keys hstart
    have honly : OnlySpecial looped := hlooped ▸ h.of_same (looped_specialKeys hstart nowTime)
    rw [hkeys]
    exact claimed_released honly keys (show (SequenceKey.ofEvent keyEvent).keyAction = keyActionUp from hup)
  | none start hstart _ hlater looped hlooped _ =>
    dsimp only
    rw [hlooped, looped_specialKeys hstart]
    simp [hlater]

/-- A shortcut for a release takes it. -/
def TakenByShortcut (s : KeyCommandHandler) (keyEvent : KeyEvent) : Prop :=
  ∃ shortcutKey, s.matchShortcut keyEvent = some shortcutKey ∧
    (shortcutKey.keyDownDuration = 0 ∨ releasedInTime keyEvent shortcutKey = true)

theorem handleShortKeys_up_iff {config : Config} {s : KeyCommandHandler} (h : Remembers config s)
    (nowTime : Int) {keyEvent : KeyEvent} (hup : keyEvent.keyAction = keyActionUp) :
    (s.handleShortKeys nowTime keyEvent).1 = true ↔ TakenByShortcut s keyEvent := by
  have hne : keyActionUp ≠ keyActionDown := by decide
  have hlast : isKeyMatch s.lastMatchedKey keyEvent ≠ true := by
    intro hmatch
    have haction := (isKeyMatch_eq_true.mp hmatch).1
    rw [hup, h.trigger] at haction
    exact hne haction
  have hsearched : ∀ t : KeyCommandHandler, t.shortcutKeys = s.shortcutKeys →
      t.matchShortcut keyEvent = s.matchShortcut keyEvent := by
    intro t hsame
    rw [KeyCommandHandler.matchShortcut, KeyCommandHandler.matchShortcut, hsame]
  unfold KeyCommandHandler.handleShortKeys TakenByShortcut
  split
  · rename_i hempty
    refine iff_of_false (fun h => nomatch h) ?_
    rintro ⟨shortcutKey, hfound, _⟩
    rw [KeyCommandHandler.matchShortcut, List.isEmpty_iff.mp hempty] at hfound
    cases hfound
  dsimp only
  rw [hsearched _ (by split <;> rfl)]
  split
  · rename_i hnone
    refine iff_of_false (fun h => nomatch h) ?_
    rintro ⟨_, hfound, _⟩
    rw [hnone] at hfound
    cases hfound
  · rename_i shortcutKey hfound
    have hmatch : isKeyMatch shortcutKey keyEvent = true :=
      List.find?_some (p := fun item => isKeyMatch item keyEvent) hfound
    have htrigger : shortcutKey.triggerType = keyActionUp :=
      (isKeyMatch_eq_true.mp hmatch).1.symm.trans hup
    rw [if_neg (by rw [htrigger]; exact hne), if_pos htrigger, hfound]
    simp only [Option.some.injEq, exists_eq_left', KeyCommandHandler.handleKeyUp]
    split
    · rename_i hduration
      exact iff_of_true rfl (.inl hduration)
    split
    · rename_i htime
      exact iff_of_true rfl (.inr htime)
    · rename_i hduration htime
      exact iff_of_false (fun h => nomatch h) fun h => h.elim hduration htime

/-- After the release of a key the record has no action for it. -/
def Released (s : KeyCommandHandler) : KeyCommandInput → Prop
  | .key keyEvent nowTime =>
      keyEvent.keyAction = keyActionUp →
        (keyCommandStep s (.key keyEvent nowTime)).specialKeys keyEvent.keyCode = none
  | _ => True

/-- The record has none, or the release completes sequences with a start delay only, or it
is one by its action as well and nothing consumes it. -/
def Releases (s : KeyCommandHandler) : KeyCommandInput → Prop
  | .key keyEvent nowTime =>
      keyEvent.keyAction = keyActionUp → s.specialKeys keyEvent.keyCode = none ∨
        (NoneAtOnce (s.handleShortKeys nowTime keyEvent).2 keyEvent ∧
          (CompletedLater (s.handleShortKeys nowTime keyEvent).2 nowTime keyEvent ∨
            (keyEvent.action = keyActionUp ∧ ¬ TakenByShortcut s keyEvent)))
  | _ => True

theorem released_iff {config : Config} {s : KeyCommandHandler} (hremembers : Remembers config s)
    (h : OnlySpecial s) (i : KeyCommandInput) : Released s i ↔ Releases s i := by
  cases i with
  | key keyEvent nowTime =>
    refine forall_congr' fun hup => ?_
    have hshort := handleShortKeys_up_iff hremembers nowTime hup
    have hsame : (s.handleShortKeys nowTime keyEvent).2.specialKeys = s.specialKeys := by
      obtain ⟨_, _, _, _, heq⟩ := s.handleShortKeys_frame nowTime keyEvent
      rw [heq]
    have hreleased := handleSequences_released_iff (h.of_same hsame) nowTime hup
    have hreports := handleSequences_eq_true_iff (s.handleShortKeys nowTime keyEvent).2 nowTime keyEvent
    rw [hsame] at hreleased
    simp only [keyCommandStep, KeyCommandHandler.onHandleEvent]
    generalize s.handleShortKeys nowTime keyEvent = short at hshort hreleased hreports ⊢
    generalize short.2.handleSequences nowTime keyEvent = r at hreleased hreports ⊢
    split
    · -- The event is consumed, and what `HandleSequences` has left stays.
      rename_i hconsumed
      rw [hreleased]
      rw [Bool.or_eq_true, hreports, hshort] at hconsumed
      tauto
    · rename_i hfree
      rw [Bool.or_eq_true, hreports, hshort] at hfree
      split
      · rename_i hrecord
        have hnot : r.2.specialKeys keyEvent.keyCode ≠ none := Option.isSome_iff_ne_none.mp hrecord
        have haction : (r.2.handleSpecialKeys keyEvent.keyCode keyEvent.action).specialKeys
            keyEvent.keyCode = none ↔ keyEvent.action = keyActionUp := by
          constructor
          · intro hnone
            by_contra hother
            have hstays := r.2.handleSpecialKeys_stays hrecord hother
            rw [hnone] at hstays
            cases hstays
          · intro haction
            rw [haction]
            exact r.2.handleSpecialKeys_up _
        rw [haction]
        rw [Ne, hreleased] at hnot
        tauto
      · rename_i hrecord
        have hnone : r.2.specialKeys keyEvent.keyCode = none := by simpa using hrecord
        have hafter : (if isSpecialType keyEvent.keyCode .subscriberBeforeDelay then
            r.2.delaySpecialKey nowTime keyEvent else (false, r.2)).2.specialKeys
              = r.2.specialKeys := by
          split
          · obtain ⟨_, _, heq⟩ := r.2.delaySpecialKey_frame nowTime keyEvent
            rw [heq]
          · rfl
        rw [hafter]
        refine iff_of_true hnone ?_
        rcases hreleased.mp hnone with hbefore | ⟨hquiet, hlater⟩
        · exact .inl hbefore
        · exact .inr ⟨hquiet, .inl hlater⟩
  | processNext _ => exact Iff.rfl
  | addSubscriberTimer _ _ _ _ => exact Iff.rfl
  | clearSubscriberTimer _ => exact Iff.rfl
  | otherAdd _ _ _ _ => exact Iff.rfl
  | otherRemove _ => exact Iff.rfl
  | otherReset _ _ => exact Iff.rfl

/-- In a run every release of a key takes its record back, precisely if the steps meet the
condition. -/
theorem run_released_iff (config : Config) (is : List KeyCommandInput) :
    AllSteps keyCommandStep Released (.create config) is ↔
      AllSteps keyCommandStep Releases (.create config) is :=
  allSteps_iff_of_step
    (fun s i (h : Remembers config s ∧ OnlySpecial s) => ⟨h.1.step i, h.2.step i⟩)
    (fun _ i h => released_iff h.1 h.2 i) is _
    ⟨create_remembers config, fun _ h => nomatch h⟩

/-- One key, and the ability after a tenth of a second. -/
def launchVolumeUpLater : Config where
  shortcuts := []
  sequences := [{
    sequenceKeys := [{ keyCode := keyCodeVolumeUp, keyAction := keyActionDown }]
    abilityStartDelay := 100000 }]
  configured := by
    intro sequence hsequence
    rw [List.mem_singleton.mp hsequence]
    exact ⟨rfl, by simp, by decide, rfl⟩

/-- A release as a client injects it, whose action is not set. -/
def injectedRelease (keyCode : Int32) (time : Int64) : KeyEvent :=
  { KeyEvent.create time with
    keyCode, keyAction := keyActionUp, keys := [{ keyCode, downTime := time }] }

/-- The press completes the sequence, and the release is not seen as one. -/
theorem counterexample_released :
    ¬ ∀ (config : Config) (is : List KeyCommandInput),
      AllSteps keyCommandStep Released (.create config) is := by
  intro h
  have hreleased := (h launchVolumeUpLater [.key (pressed keyCodeVolumeUp 1) 0,
    .key (injectedRelease keyCodeVolumeUp 2) 0]).2.1 rfl
  revert hreleased
  decide +kernel

end FtMmi.KeyCommand
