/-
FtMmi.KeyCommand.ShortcutConsumption — which events `HandleShortKeys` keeps
from the handlers behind.

The shortcut matched last is a copy of a configured one while its timer
counts. When it is cleared it has the values of an empty `ShortcutKey`,
and `IsKeyMatch` compares events with those as well: the press of a key of
code -1, alone, passes for a repetition of nothing.
-/
import FtMmi.KeyCommand.ShortcutMatch
import FtMmi.KeyCommand.TypedKeys

namespace FtMmi.KeyCommand

open FtMmi.Event
open FtMmi.EventHandler
open FtMmi.Lib
open FtMmi.Timer

/-! ## The last shortcut matched -/

/-- What the shortcut matched last is cleared to. -/
def clearedCombination : Finset Int32 × Int32 × Int32 := (∅, -1, keyActionDown)

theorem isKeyMatch_congr {a b : ShortcutKey} (h : a.combination = b.combination) (key : KeyEvent) :
    isKeyMatch a key = isKeyMatch b key := by
  obtain ⟨hpre, hfinal, htrigger⟩ : a.preKeys = b.preKeys ∧ a.finalKey = b.finalKey ∧
      a.triggerType = b.triggerType := by simpa [ShortcutKey.combination] using h
  unfold isKeyMatch
  rw [hpre, hfinal, htrigger]

/-- A key of code -1 is pressed, and no other is held down. -/
def UnknownPressed (keyEvent : KeyEvent) : Prop :=
  keyEvent.keyAction = keyActionDown ∧ keyEvent.keyCode = -1 ∧ keyCodes keyEvent = [-1]

theorem isKeyMatch_cleared_iff {shortcutKey : ShortcutKey}
    (h : shortcutKey.combination = clearedCombination) {keyEvent : KeyEvent} :
    isKeyMatch shortcutKey keyEvent = true ↔ UnknownPressed keyEvent := by
  have hempty : isKeyMatch shortcutKey keyEvent = isKeyMatch {} keyEvent := isKeyMatch_congr h keyEvent
  rw [hempty, isKeyMatch_eq_true, UnknownPressed]
  refine and_congr Iff.rfl (and_congr Iff.rfl ?_)
  show (keyCodes keyEvent).length = 1 ∧ (∀ code ∈ keyCodes keyEvent, code ∈ ({-1} : Finset Int32)) ↔
    keyCodes keyEvent = [-1]
  constructor
  · rintro ⟨hlength, hmem⟩
    obtain ⟨code, hcode⟩ := List.length_eq_one_iff.mp hlength
    rw [hcode] at hmem ⊢
    rw [Finset.mem_singleton.mp (hmem code List.mem_cons_self)]
  · intro hcodes
    rw [hcodes]
    simp

/-- The shortcuts of the configuration, one for each combination. -/
def Config.shortcutKeys (config : Config) : List ShortcutKey :=
  (parseShortcutKeys config.shortcuts).items

/-- Timer ids are written to the shortcuts, and the one matched last is cleared or a copy. -/
structure Remembers (config : Config) (s : KeyCommandHandler) : Prop where
  items : s.shortcutKeys.items.map ShortcutKey.combination
    = config.shortcutKeys.map ShortcutKey.combination
  trigger : s.lastMatchedKey.triggerType = keyActionDown
  cleared : s.lastMatchedKey.timerId < 0 → s.lastMatchedKey.combination = clearedCombination
  copied : 0 ≤ s.lastMatchedKey.timerId →
    s.lastMatchedKey.combination ∈ config.shortcutKeys.map ShortcutKey.combination

namespace Remembers

variable {config : Config} {s : KeyCommandHandler}

theorem isEmpty_eq (h : Remembers config s) :
    s.shortcutKeys.items.isEmpty = config.shortcutKeys.isEmpty := by
  have hlength := congrArg List.length h.items
  rw [List.length_map, List.length_map] at hlength
  rw [Bool.eq_iff_iff, List.isEmpty_iff, List.isEmpty_iff, ← List.length_eq_zero_iff, hlength,
    List.length_eq_zero_iff]

/-- A shortcut of the map is a configured one. -/
theorem configured (h : Remembers config s) {shortcutKey : ShortcutKey}
    (hmem : shortcutKey ∈ s.shortcutKeys.items) :
    shortcutKey.combination ∈ config.shortcutKeys.map ShortcutKey.combination := by
  rw [← h.items]
  exact List.mem_map_of_mem hmem

theorem reset (h : Remembers config s) : Remembers config s.resetLastMatchedKey where
  items := h.items
  trigger := h.trigger
  cleared _ := by
    show ((∅ : Finset Int32), (-1 : Int32), s.lastMatchedKey.triggerType) = _
    rw [h.trigger, clearedCombination]
  copied hpos := absurd (show (0 : Int) ≤ -1 from hpos) (by decide)

/-- What concerns neither the map nor the shortcut matched last. -/
theorem of_same (h : Remembers config s) {t : KeyCommandHandler}
    (hitems : t.shortcutKeys = s.shortcutKeys) (hlast : t.lastMatchedKey = s.lastMatchedKey) :
    Remembers config t := by
  refine ⟨?_, ?_, ?_, ?_⟩
  · rw [hitems]
    exact h.items
  · rw [hlast]
    exact h.trigger
  · rw [hlast]
    exact h.cleared
  · rw [hlast]
    exact h.copied

theorem launchShortcut (h : Remembers config s) (key : ShortcutKey) :
    Remembers config (s.launchShortcut key) :=
  (h.of_same (t := { s with launched := s.launched ++ [key.ability.want] }) rfl rfl).reset

theorem setTimerId (h : Remembers config s) (shortcutKey : ShortcutKey) (timerId : Int) :
    Remembers config { s with shortcutKeys := s.shortcutKeys.setTimerId shortcutKey timerId } := by
  refine ⟨?_, h.trigger, h.cleared, h.copied⟩
  show (s.shortcutKeys.items.map _).map ShortcutKey.combination = _
  rw [List.map_map, ← h.items]
  apply List.map_congr_left
  intro item _
  by_cases hitem : item = shortcutKey <;> simp [hitem, ShortcutKey.combination]

theorem handleKeyDown (h : Remembers config s) (nowTime : Int) {shortcutKey : ShortcutKey}
    (hmem : shortcutKey ∈ s.shortcutKeys.items) (htrigger : shortcutKey.triggerType = keyActionDown) :
    Remembers config (s.handleKeyDown nowTime shortcutKey).2 := by
  unfold KeyCommandHandler.handleKeyDown
  split
  · exact h.launchShortcut shortcutKey
  · have hcopied := h.configured hmem
    have hset := (h.of_same (t := (s.addTimer nowTime shortcutKey.keyDownDuration.toInt
      (.shortcut shortcutKey)).2) rfl rfl).setTimerId shortcutKey
        (s.addTimer nowTime shortcutKey.keyDownDuration.toInt (.shortcut shortcutKey)).1
    dsimp only
    split
    · exact hset
    · rename_i hpos
      exact ⟨hset.items, htrigger, fun hneg => absurd hneg hpos, fun _ => hcopied⟩

theorem handleKeyUp (h : Remembers config s) (keyEvent : KeyEvent) (shortcutKey : ShortcutKey) :
    Remembers config (s.handleKeyUp keyEvent shortcutKey).2 := by
  unfold KeyCommandHandler.handleKeyUp
  split
  · exact h.launchShortcut shortcutKey
  · split
    · exact h.launchShortcut shortcutKey
    · exact h

theorem handleKeyCancel (h : Remembers config s) (shortcutKey : ShortcutKey) :
    Remembers config (s.handleKeyCancel shortcutKey).2 :=
  (h.setTimerId shortcutKey (-1)).of_same rfl rfl

/-- What `HandleShortKeys` starts its search in. -/
theorem searched (h : Remembers config s) :
    Remembers config (if 0 ≤ s.lastMatchedKey.timerId then s.removeTimer s.lastMatchedKey.timerId
      else s).resetLastMatchedKey := by
  split
  · exact (h.of_same (t := s.removeTimer s.lastMatchedKey.timerId) rfl rfl).reset
  · exact h.reset

theorem handleShortKeys (h : Remembers config s) (nowTime : Int) (keyEvent : KeyEvent) :
    Remembers config (s.handleShortKeys nowTime keyEvent).2 := by
  have hsearched := h.searched
  unfold KeyCommandHandler.handleShortKeys
  split
  · exact h
  split
  · exact h
  dsimp only
  split
  · exact hsearched
  · rename_i shortcutKey hfound
    have hmem := List.mem_of_find?_eq_some hfound
    split
    · rename_i htrigger
      exact hsearched.handleKeyDown nowTime hmem htrigger
    split
    · exact hsearched.handleKeyUp keyEvent shortcutKey
    · exact hsearched.handleKeyCancel shortcutKey

theorem step (h : Remembers config s) (i : KeyCommandInput) : Remembers config (keyCommandStep s i) := by
  cases i with
  | key keyEvent nowTime =>
    obtain ⟨_, _, _, hevent⟩ := s.onHandleEvent_frame nowTime keyEvent
    obtain ⟨_, _, _, _, _, _, _, hsequences⟩ :=
      (s.handleShortKeys nowTime keyEvent).2.handleSequences_frame nowTime keyEvent
    rw [keyCommandStep, hevent, hsequences]
    exact (h.handleShortKeys nowTime keyEvent).of_same rfl rfl
  | processNext nowTime =>
    simp only [keyCommandStep, KeyCommandHandler.processNext]
    cases (s.timers.processNext nowTime).1 with
    | idle => exact h.of_same rfl rfl
    | dropped => exact h.of_same rfl rfl
    | fired closure =>
      have h' : Remembers config { s with timers := (s.timers.processNext nowTime).2 } :=
        h.of_same rfl rfl
      cases closure with
      | shortcut shortcutKey => exact h'.launchShortcut shortcutKey
      | sequence _ => exact h'.of_same rfl rfl
      | special _ => exact h'.of_same rfl rfl
      | subscriber _ _ => exact h'.of_same rfl rfl
      | other _ => exact h'
  | addSubscriberTimer ref finalKey nowTime duration =>
    simp only [keyCommandStep, KeyCommandHandler.addSubscriberTimer]
    split
    · exact h
    · split <;> exact h.of_same rfl rfl
  | clearSubscriberTimer ref =>
    simp only [keyCommandStep, KeyCommandHandler.clearSubscriberTimer]
    split
    · exact h
    · exact h.of_same rfl rfl
  | otherAdd _ _ _ _ => exact h.of_same rfl rfl
  | otherRemove _ => exact h.of_same rfl rfl
  | otherReset _ _ => exact h.of_same rfl rfl

end Remembers

theorem create_remembers (config : Config) : Remembers config (.create config) where
  items := rfl
  trigger := rfl
  cleared _ := rfl
  copied hpos := absurd (show (0 : Int) ≤ -1 from hpos) (by decide)

/-! ## Justified consumption -/

/-- An event that `HandleShortKeys` keeps matches a shortcut of the configuration, or the
last one matched, and the timer of that one still counts. -/
def Justified (config : Config) (s : KeyCommandHandler) : KeyCommandInput → Prop
  | .key keyEvent nowTime =>
      (s.handleShortKeys nowTime keyEvent).1 = true →
        (∃ shortcutKey ∈ config.shortcutKeys, isKeyMatch shortcutKey keyEvent = true) ∨
          (s.timers.isExist s.lastMatchedKey.timerId = true ∧
            isKeyMatch s.lastMatchedKey keyEvent = true)
  | _ => True

/-- There are shortcuts, none of them waits and none is for a key of code -1 alone, and
such a key is pressed. -/
def PassesForCleared (config : Config) (s : KeyCommandHandler) : KeyCommandInput → Prop
  | .key keyEvent _ =>
      config.shortcutKeys ≠ [] ∧ s.lastMatchedKey.timerId < 0 ∧
        clearedCombination ∉ config.shortcutKeys.map ShortcutKey.combination ∧
        UnknownPressed keyEvent
  | _ => False

/-- What is kept matches the last shortcut or one of the map. -/
theorem handleShortKeys_kept {s : KeyCommandHandler} {nowTime : Int} {keyEvent : KeyEvent}
    (h : (s.handleShortKeys nowTime keyEvent).1 = true) :
    s.shortcutKeys.items ≠ [] ∧ (isKeyMatch s.lastMatchedKey keyEvent = true ∨
      ∃ shortcutKey ∈ s.shortcutKeys.items, isKeyMatch shortcutKey keyEvent = true) := by
  unfold KeyCommandHandler.handleShortKeys at h
  split at h
  · cases h
  rename_i hsome
  refine ⟨fun hnil => hsome (by rw [hnil]; rfl), ?_⟩
  split at h
  · rename_i hlast
    exact .inl hlast
  refine .inr ?_
  dsimp only at h
  split at h
  · cases h
  · rename_i shortcutKey hfound
    have hitems : (if 0 ≤ s.lastMatchedKey.timerId then s.removeTimer s.lastMatchedKey.timerId
        else s).resetLastMatchedKey.shortcutKeys = s.shortcutKeys := by
      split <;> rfl
    have hmem := List.mem_of_find?_eq_some hfound
    rw [hitems] at hmem
    exact ⟨shortcutKey, hmem, List.find?_some (p := fun item => isKeyMatch item keyEvent) hfound⟩

theorem justified_iff {config : Config} {s : KeyCommandHandler} (h : Remembers config s)
    (i : KeyCommandInput) : Justified config s i ↔ ¬ PassesForCleared config s i := by
  cases i with
  | key keyEvent nowTime =>
    have hconfigured : ∀ {shortcutKey : ShortcutKey},
        shortcutKey.combination ∈ config.shortcutKeys.map ShortcutKey.combination →
        isKeyMatch shortcutKey keyEvent = true →
        ∃ shortcutKey ∈ config.shortcutKeys, isKeyMatch shortcutKey keyEvent = true := by
      intro shortcutKey hmem hmatch
      obtain ⟨item, hitem, heq⟩ := List.mem_map.mp hmem
      exact ⟨item, hitem, isKeyMatch_congr heq keyEvent ▸ hmatch⟩
    constructor
    · rintro hjustified ⟨hsome, hneg, hnone, hunknown⟩
      have hlast := (isKeyMatch_cleared_iff (h.cleared hneg)).mpr hunknown
      have hkept : (s.handleShortKeys nowTime keyEvent).1 = true := by
        rw [KeyCommandHandler.handleShortKeys, h.isEmpty_eq, if_neg (by simpa using hsome),
          if_pos hlast]
      rcases hjustified hkept with ⟨shortcutKey, hmem, hmatch⟩ | ⟨hexist, _⟩
      · -- A shortcut that matches such an event is one for it.
        obtain ⟨haction, hcode, hcodes⟩ := hunknown
        have hdistinct : (keyCodes keyEvent).Nodup := by rw [hcodes]; simp
        refine hnone (List.mem_map.mpr ⟨shortcutKey, hmem, ?_⟩)
        rw [← h.cleared hneg]
        exact combination_of_isKeyMatch hdistinct hmatch hlast
      · obtain ⟨t, ht, hid⟩ := (s.timers.isExist_eq_true_iff _).mp hexist
        have := (s.timers.range t ht).1
        omega
    · intro hnot hkept
      obtain ⟨hsome, hlast | ⟨shortcutKey, hmem, hmatch⟩⟩ := handleShortKeys_kept hkept
      · by_cases hneg : s.lastMatchedKey.timerId < 0
        · have hcleared := h.cleared hneg
          have hsome : config.shortcutKeys ≠ [] := by
            have hempty := h.isEmpty_eq
            intro hnil
            rw [hnil] at hempty
            exact hsome (List.isEmpty_iff.mp hempty)
          have hmem : clearedCombination ∈ config.shortcutKeys.map ShortcutKey.combination := by
            by_contra hnone
            exact hnot ⟨hsome, hneg, hnone, (isKeyMatch_cleared_iff hcleared).mp hlast⟩
          exact .inl (hconfigured (hcleared ▸ hmem) hlast)
        · exact .inl (hconfigured (h.copied (not_lt.mp hneg)) hlast)
      · exact .inl (hconfigured (h.configured hmem) hmatch)
  | processNext _ => exact iff_of_true trivial id
  | addSubscriberTimer _ _ _ _ => exact iff_of_true trivial id
  | clearSubscriberTimer _ => exact iff_of_true trivial id
  | otherAdd _ _ _ _ => exact iff_of_true trivial id
  | otherRemove _ => exact iff_of_true trivial id
  | otherReset _ _ => exact iff_of_true trivial id

/-- Every event that is kept in a run is kept for a shortcut, precisely if none passes for
the cleared one. -/
theorem run_justified_iff (config : Config) (is : List KeyCommandInput) :
    AllSteps keyCommandStep (Justified config) (.create config) is ↔
      AllSteps keyCommandStep (fun s i => ¬ PassesForCleared config s i) (.create config) is :=
  allSteps_iff_of_step (fun _ i h => h.step i) (fun _ i h => justified_iff h i) is _
    (create_remembers config)

/-- The power key and the one that lowers the volume. -/
def screenshot : Config where
  shortcuts := [{ preKeys := {keyCodePower}, finalKey := keyCodeVolumeDown }]
  sequences := []
  configured := fun _ h => nomatch h

/-- The press of a key of code -1 is kept. -/
theorem counterexample_justified :
    ¬ ∀ (config : Config) (is : List KeyCommandInput),
      AllSteps keyCommandStep (Justified config) (.create config) is := by
  intro h
  have hkept := (h screenshot [.key (pressed (-1) 1) 0]).1 (by decide +kernel)
  revert hkept
  decide +kernel

end FtMmi.KeyCommand
