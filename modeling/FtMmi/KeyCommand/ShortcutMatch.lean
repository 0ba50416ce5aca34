/-
FtMmi.KeyCommand.ShortcutMatch — which shortcut an event matches.

`IsKeyMatch` compares a number of keys and looks each item up among the
pre-keys. With no code twice among the items that is an equality of sets
(`isKeyMatch_iff`), and the set and the action are what `GenerateKey`
writes (`generateKey_eq_iff`). So the map has one shortcut at most for an
event, and `HandleShortKeys` does the same in any order of the map.
-/
import FtMmi.KeyCommand.KeyCommandHandler
import FtMmi.Lib.KeyedList
import FtMmi.Lib.SeparatedFields

namespace FtMmi.KeyCommand

open FtMmi.Event
open FtMmi.EventHandler
open FtMmi.Lib
open FtMmi.Timer

/-! ## GenerateKey -/

/-- What is held down, the key that comes last, and what it does. -/
def ShortcutKey.combination (shortcutKey : ShortcutKey) : Finset Int32 × Int32 × Int32 :=
  (shortcutKey.preKeys, shortcutKey.finalKey, shortcutKey.triggerType)

/-- A number as `std::stringstream` writes it. -/
def numeral (n : Int) : List Char := (toString n).toList

theorem numeral_injective : Function.Injective numeral := by
  intro a b h
  exact Int.repr_inj.mp (String.toList_inj.mp h)

theorem comma_not_mem_numeral (n : Int) : ',' ∉ numeral n := by
  have hnat : ∀ m : Nat, ',' ∉ m.repr.toList := by
    intro m hmem
    rw [Nat.toList_repr] at hmem
    have hdigit := Nat.isDigit_of_mem_toDigits (by decide) (by decide) hmem
    exact absurd hdigit (by decide)
  cases n with
  | ofNat m => exact hnat m
  | negSucc m =>
    intro hmem
    have hmem : ',' ∈ ("-" ++ m.succ.repr).toList := hmem
    rw [String.toList_append, List.mem_append] at hmem
    rcases hmem with hsign | hdigits
    · exact absurd hsign (by decide)
    · exact hnat m.succ hdigits

theorem foldl_toList (preKeys : List Int) (ss : String) :
    (preKeys.foldl (fun ss preKey => ss ++ (toString preKey ++ ",")) ss).toList
      = ss.toList ++ separated ',' (preKeys.map numeral) := by
  induction preKeys generalizing ss with
  | nil => simp
  | cons preKey preKeys ih =>
    rw [List.foldl_cons, ih]
    simp [numeral]

/-- The codes in order and the final key are fields, and the trigger comes last. -/
theorem generateKey_toList (key : ShortcutKey) :
    (generateKey key).toList
      = separated ',' ((((key.preKeys.image Int32.toInt).sort (· ≤ ·)) ++ [key.finalKey.toInt]).map
          numeral) ++ numeral key.triggerType.toInt := by
  have hcomma : ",".toList = [','] := rfl
  have hempty : "".toList = [] := rfl
  simp only [generateKey, String.toList_append, foldl_toList, hcomma, hempty, List.map_append,
    separated_append, List.map_cons, List.map_nil, separated_cons, separated_nil, numeral,
    List.nil_append, List.append_assoc]

theorem int32_toInt_injective : Function.Injective Int32.toInt := fun _ _ h => Int32.toInt_inj.mp h

theorem generateKey_eq_iff {a b : ShortcutKey} :
    generateKey a = generateKey b ↔ a.combination = b.combination := by
  constructor
  · intro h
    have htext := congrArg String.toList h
    rw [generateKey_toList, generateKey_toList] at htext
    obtain ⟨hfields, htrigger⟩ :=
      separated_map_append_inj numeral_injective comma_not_mem_numeral htext
    obtain ⟨hsorted, hfinal⟩ := List.append_inj' hfields (by simp only [List.length_singleton])
    have hcodes : a.preKeys.image Int32.toInt = b.preKeys.image Int32.toInt := by
      ext code
      rw [← Finset.mem_sort (· ≤ ·), hsorted, Finset.mem_sort]
    have hpre := Finset.image_injective int32_toInt_injective hcodes
    have hfinal := Int32.toInt_inj.mp (List.singleton_inj.mp hfinal)
    simp [ShortcutKey.combination, hpre, hfinal, Int32.toInt_inj.mp htrigger]
  · intro h
    obtain ⟨hpre, hfinal, htrigger⟩ : a.preKeys = b.preKeys ∧ a.finalKey = b.finalKey ∧
        a.triggerType = b.triggerType := by simpa [ShortcutKey.combination] using h
    rw [generateKey, generateKey, hpre, hfinal, htrigger]

/-! ## IsKeyMatch -/

/-- The codes of the items. -/
def keyCodes (keyEvent : KeyEvent) : List Int32 := keyEvent.keys.map KeyItem.keyCode

theorem isKeyMatch_eq_true {shortcutKey : ShortcutKey} {key : KeyEvent} :
    isKeyMatch shortcutKey key = true ↔
      key.keyAction = shortcutKey.triggerType ∧ key.keyCode = shortcutKey.finalKey ∧
        (keyCodes key).length = shortcutKey.preKeys.card + 1 ∧
        ∀ code ∈ keyCodes key, code ∈ insert shortcutKey.finalKey shortcutKey.preKeys := by
  unfold isKeyMatch keyCodes
  by_cases hkey : key.keyCode ≠ shortcutKey.finalKey ∨ shortcutKey.triggerType ≠ key.keyAction
  · rw [if_pos hkey]
    refine iff_of_false (by simp) ?_
    rintro ⟨haction, hcode, _⟩
    rcases hkey with h | h
    · exact h hcode
    · exact h haction.symm
  · rw [if_neg hkey]
    push Not at hkey
    obtain ⟨hcode, haction⟩ := hkey
    rw [hcode, haction]
    simp only [List.length_map, List.forall_mem_map, Finset.mem_insert, true_and]
    by_cases hsize : shortcutKey.preKeys.card + 1 = key.keys.length
    · simp [hsize]
    · rw [if_pos hsize]
      exact iff_of_false (by simp) fun h => hsize h.1.symm

/-- The items are then the keys of the shortcut. -/
theorem isKeyMatch_codes {shortcutKey : ShortcutKey} {key : KeyEvent} (hdistinct : (keyCodes key).Nodup)
    (h : isKeyMatch shortcutKey key = true) :
    shortcutKey.finalKey ∉ shortcutKey.preKeys ∧
      (keyCodes key).toFinset = insert shortcutKey.finalKey shortcutKey.preKeys := by
  obtain ⟨_, _, hlength, hmem⟩ := isKeyMatch_eq_true.mp h
  have hcard : (keyCodes key).toFinset.card = shortcutKey.preKeys.card + 1 := by
    rw [List.toFinset_card_of_nodup hdistinct, hlength]
  have hsubset : (keyCodes key).toFinset ⊆ insert shortcutKey.finalKey shortcutKey.preKeys :=
    fun code hcode => hmem code (List.mem_toFinset.mp hcode)
  constructor
  · intro hfinal
    have hle := Finset.card_le_card hsubset
    rw [Finset.insert_eq_of_mem hfinal] at hle
    omega
  · apply Finset.eq_of_subset_of_card_le hsubset
    rw [hcard]
    exact Finset.card_insert_le _ _

theorem isKeyMatch_iff {shortcutKey : ShortcutKey} {key : KeyEvent} (hdistinct : (keyCodes key).Nodup)
    (hfinal : shortcutKey.finalKey ∉ shortcutKey.preKeys) :
    isKeyMatch shortcutKey key = true ↔
      key.keyAction = shortcutKey.triggerType ∧ key.keyCode = shortcutKey.finalKey ∧
        (keyCodes key).toFinset = insert shortcutKey.finalKey shortcutKey.preKeys := by
  constructor
  · intro h
    obtain ⟨haction, hcode, _⟩ := isKeyMatch_eq_true.mp h
    exact ⟨haction, hcode, (isKeyMatch_codes hdistinct h).2⟩
  · rintro ⟨haction, hcode, hset⟩
    refine isKeyMatch_eq_true.mpr ⟨haction, hcode, ?_, fun code hmem => ?_⟩
    · rw [← List.toFinset_card_of_nodup hdistinct, hset, Finset.card_insert_of_notMem hfinal]
    · rw [← hset]
      exact List.mem_toFinset.mpr hmem

/-- Two shortcuts that match one event are entered under one key. -/
theorem combination_of_isKeyMatch {a b : ShortcutKey} {key : KeyEvent} (hdistinct : (keyCodes key).Nodup)
    (ha : isKeyMatch a key = true) (hb : isKeyMatch b key = true) : a.combination = b.combination := by
  obtain ⟨haction, hcode, _⟩ := isKeyMatch_eq_true.mp ha
  obtain ⟨haction', hcode', _⟩ := isKeyMatch_eq_true.mp hb
  obtain ⟨hfinal, hset⟩ := isKeyMatch_codes hdistinct ha
  obtain ⟨hfinal', hset'⟩ := isKeyMatch_codes hdistinct hb
  have hkey : a.finalKey = b.finalKey := hcode.symm.trans hcode'
  have hpre : a.preKeys = b.preKeys := by
    rw [← Finset.erase_insert hfinal, ← hset, hkey, hset', Finset.erase_insert hfinal']
  simp [ShortcutKey.combination, hkey, hpre, haction.symm.trans haction']

theorem ShortcutMap.eq_of_isKeyMatch (m : ShortcutMap) {key : KeyEvent} (hdistinct : (keyCodes key).Nodup)
    {a b : ShortcutKey} (ha : a ∈ m.items) (hb : b ∈ m.items) (hamatch : isKeyMatch a key = true)
    (hbmatch : isKeyMatch b key = true) : a = b :=
  List.inj_on_of_nodup_map m.distinct ha hb
    (generateKey_eq_iff.mpr (combination_of_isKeyMatch hdistinct hamatch hbmatch))

/-! ## The order of the map -/

/-- The same shortcuts in another order, and otherwise the same state. -/
def Reordered (s s' : KeyCommandHandler) : Prop :=
  ∃ m : ShortcutMap, m.items.Perm s.shortcutKeys.items ∧ s' = { s with shortcutKeys := m }

namespace Reordered

variable {s s' : KeyCommandHandler}

theorem handleKeyDown (h : Reordered s s') (nowTime : Int) (shortcutKey : ShortcutKey) :
    (s'.handleKeyDown nowTime shortcutKey).1 = (s.handleKeyDown nowTime shortcutKey).1 ∧
      Reordered (s.handleKeyDown nowTime shortcutKey).2
        (s'.handleKeyDown nowTime shortcutKey).2 := by
  obtain ⟨m, hperm, rfl⟩ := h
  unfold KeyCommandHandler.handleKeyDown
  split
  · exact ⟨rfl, m, hperm, rfl⟩
  · dsimp only [KeyCommandHandler.addTimer]
    split
    · exact ⟨rfl, _, hperm.map _, rfl⟩
    · exact ⟨rfl, _, hperm.map _, rfl⟩

theorem handleKeyUp (h : Reordered s s') (keyEvent : KeyEvent) (shortcutKey : ShortcutKey) :
    (s'.handleKeyUp keyEvent shortcutKey).1 = (s.handleKeyUp keyEvent shortcutKey).1 ∧
      Reordered (s.handleKeyUp keyEvent shortcutKey).2 (s'.handleKeyUp keyEvent shortcutKey).2 := by
  obtain ⟨m, hperm, rfl⟩ := h
  unfold KeyCommandHandler.handleKeyUp
  split
  · exact ⟨rfl, m, hperm, rfl⟩
  · split
    · exact ⟨rfl, m, hperm, rfl⟩
    · exact ⟨rfl, m, hperm, rfl⟩

theorem handleShortKeys (h : Reordered s s') {keyEvent : KeyEvent} (hdistinct : (keyCodes keyEvent).Nodup)
    (nowTime : Int) :
    (s'.handleShortKeys nowTime keyEvent).1 = (s.handleShortKeys nowTime keyEvent).1 ∧
      Reordered (s.handleShortKeys nowTime keyEvent).2 (s'.handleShortKeys nowTime keyEvent).2 := by
  have hmatch : ∀ {s s' : KeyCommandHandler}, Reordered s s' →
      s'.matchShortcut keyEvent = s.matchShortcut keyEvent := by
    rintro s _ ⟨m, hperm, rfl⟩
    exact find?_perm hperm fun a ha b hb => m.eq_of_isKeyMatch hdistinct ha hb
  have hreset : ∀ {s s' : KeyCommandHandler}, Reordered s s' →
      Reordered (if 0 ≤ s.lastMatchedKey.timerId then s.removeTimer s.lastMatchedKey.timerId
          else s).resetLastMatchedKey
        (if 0 ≤ s'.lastMatchedKey.timerId then s'.removeTimer s'.lastMatchedKey.timerId
          else s').resetLastMatchedKey := by
    rintro s _ ⟨m, hperm, rfl⟩
    dsimp only
    split
    · exact ⟨m, hperm, rfl⟩
    · exact ⟨m, hperm, rfl⟩
  have hafter := hreset h
  obtain ⟨m, hperm, rfl⟩ := h
  have hempty : m.items.isEmpty = s.shortcutKeys.items.isEmpty := hperm.isEmpty_eq
  unfold KeyCommandHandler.handleShortKeys
  dsimp only at hafter ⊢
  rw [hempty, hmatch hafter]
  split
  · exact ⟨rfl, m, hperm, rfl⟩
  split
  · exact ⟨rfl, m, hperm, rfl⟩
  split
  · exact ⟨rfl, hafter⟩
  · rename_i shortcutKey _
    split
    · exact hafter.handleKeyDown nowTime shortcutKey
    split
    · exact hafter.handleKeyUp keyEvent shortcutKey
    · obtain ⟨m', hperm', heq⟩ := hafter
      rw [heq]
      exact ⟨rfl, _, hperm'.map _, rfl⟩

end Reordered

/-! ## Exact and unambiguous -/

/-- For an event that has no code twice among its items: `IsKeyMatch` is the equality of the
action, the key and the set of codes; `GenerateKey` tells any two combinations apart; one
shortcut of the map matches at most; and in any order of the map the event is consumed or
not, and leaves the state, alike. -/
theorem shortcuts_unambiguous (keyEvent : KeyEvent) (hdistinct : (keyCodes keyEvent).Nodup) :
    (∀ shortcutKey : ShortcutKey, shortcutKey.finalKey ∉ shortcutKey.preKeys →
      (isKeyMatch shortcutKey keyEvent = true ↔
        keyEvent.keyAction = shortcutKey.triggerType ∧ keyEvent.keyCode = shortcutKey.finalKey ∧
          (keyCodes keyEvent).toFinset = insert shortcutKey.finalKey shortcutKey.preKeys)) ∧
    (∀ a b : ShortcutKey, generateKey a = generateKey b ↔ a.combination = b.combination) ∧
    (∀ m : ShortcutMap, ∀ a ∈ m.items, ∀ b ∈ m.items,
      isKeyMatch a keyEvent = true → isKeyMatch b keyEvent = true → a = b) ∧
    ∀ (s s' : KeyCommandHandler) (nowTime : Int), Reordered s s' →
      (s'.handleShortKeys nowTime keyEvent).1 = (s.handleShortKeys nowTime keyEvent).1 ∧
        Reordered (s.handleShortKeys nowTime keyEvent).2 (s'.handleShortKeys nowTime keyEvent).2 :=
  ⟨fun _ hfinal => isKeyMatch_iff hdistinct hfinal, fun _ _ => generateKey_eq_iff,
    fun m _ ha _ hb => m.eq_of_isKeyMatch hdistinct ha hb,
    fun _ _ nowTime h => h.handleShortKeys hdistinct nowTime⟩

/-- An event with the codes of its items, the last of them pressed. -/
def chord (codes : List Int32) (keyCode : Int32) : KeyEvent :=
  { KeyEvent.create 0 with
    keyCode, action := keyActionDown, keyAction := keyActionDown
    keys := (codes ++ [keyCode]).map fun code => { pressed := true, keyCode := code } }

theorem shortcuts_unambiguous_chord :
    (∀ m : ShortcutMap, ∀ a ∈ m.items, ∀ b ∈ m.items,
      isKeyMatch a (chord [keyCodePower] keyCodeVolumeDown) = true →
        isKeyMatch b (chord [keyCodePower] keyCodeVolumeDown) = true → a = b) ∧
      isKeyMatch { preKeys := {keyCodePower}, finalKey := keyCodeVolumeDown }
        (chord [keyCodePower] keyCodeVolumeDown) = true :=
  have h := shortcuts_unambiguous (chord [keyCodePower] keyCodeVolumeDown) (by decide)
  ⟨h.2.2.1, (h.1 _ (by decide)).mpr ⟨rfl, rfl, by decide⟩⟩

/-- Two items of one code pass for either pair of pre-keys. -/
example : isKeyMatch { preKeys := {1, 2}, finalKey := 3 } (chord [1, 1] 3) = true ∧
    isKeyMatch { preKeys := {1, 4}, finalKey := 3 } (chord [1, 1] 3) = true := by
  decide

end FtMmi.KeyCommand
