/-
FtMmi.Client.SubscriptionOrder — the order of a client's set of
subscriptions (`operator<` in `key_event_input_subscribe_manager.cpp`).

The comparison is the lexicographic order of `rank`, the fields it looks
at. The delay after the final key is released is not among them, so two
options that differ there alone are one to the set.
-/
import FtMmi.Client.SubscriptionAcceptance

namespace FtMmi.Client

open FtMmi.KeySubscriber

/-! ## A strict weak order -/

/-- The fields in the order in which they are compared. -/
def rank (keyOption : KeyOption) : Int ×ₗ List Int ×ₗ Bool ×ₗ Int :=
  toLex (keyOption.finalKey.toInt, toLex (keyOption.preKeys.sort.map Int32.toInt,
    toLex (keyOption.isFinalKeyDown, keyOption.finalKeyDownDuration.toInt)))

theorem preKeysLess_eq_some_true_iff : ∀ ss ts : List Int32,
    preKeysLess ss ts = some true ↔ ss.map Int32.toInt < ts.map Int32.toInt
  | [], [] => by simp [preKeysLess]
  | [], _ :: _ => by simp [preKeysLess]
  | _ :: _, [] => by simp [preKeysLess]
  | s :: ss, t :: ts => by
      by_cases h : s = t
      · simp [preKeysLess, h, preKeysLess_eq_some_true_iff ss ts]
      · have hne : s.toInt ≠ t.toInt := fun heq => h (Int32.toInt_inj.mp heq)
        simp [preKeysLess, h, hne, List.cons_lt_cons_iff, Int32.lt_iff_toInt_lt]

theorem optionLess_iff (first second : KeyOption) :
    optionLess first second = true ↔ rank first < rank second := by
  have hkeys := preKeysLess_eq_some_true_iff first.preKeys.sort second.preKeys.sort
  have hsame := preKeysLess_eq_none_iff first.preKeys.sort second.preKeys.sort
  simp only [rank, Prod.Lex.toLex_lt_toLex, ← hkeys, Bool.lt_iff]
  by_cases hfinal : first.finalKey = second.finalKey
  · cases hless : preKeysLess first.preKeys.sort second.preKeys.sort with
    | some less =>
      -- One of the two sets is less.
      have hne : first.preKeys.sort.map Int32.toInt ≠ second.preKeys.sort.map Int32.toInt := by
        intro heq
        have hinj := List.map_injective_iff.mpr (fun _ _ => Int32.toInt_inj.mp) heq
        simp [hsame.mpr hinj] at hless
      simp [optionLess, hfinal, hless, hne]
    | none =>
      have heq := hsame.mp hless
      have hself : preKeysLess second.preKeys.sort second.preKeys.sort = none :=
        (preKeysLess_eq_none_iff _ _).mpr rfl
      cases hfirst : first.isFinalKeyDown <;> cases hsecond : second.isFinalKeyDown <;>
        simp [optionLess, hfinal, hself, heq, hfirst, hsecond, Int32.lt_iff_toInt_lt]
  · have hne : first.finalKey.toInt ≠ second.finalKey.toInt :=
      fun heq => hfinal (Int32.toInt_inj.mp heq)
    simp [optionLess, hfinal, hne, Int32.lt_iff_toInt_lt]

/-- Irreflexive and transitive, and so is being equivalent. -/
theorem optionLess_strictWeakOrder :
    IsStrictWeakOrder KeyOption fun first second => optionLess first second = true where
  irrefl first := by simp [optionLess_iff]
  trans first second third := by
    simp only [optionLess_iff]
    exact lt_trans
  incomp_trans first second third := by
    simp only [optionLess_iff]
    rintro ⟨hfirst, hsecond⟩ ⟨hsecond', hthird⟩
    have heq : rank first = rank second := le_antisymm (not_lt.mp hsecond) (not_lt.mp hfirst)
    have heq' : rank second = rank third := le_antisymm (not_lt.mp hthird) (not_lt.mp hsecond')
    rw [heq, heq']
    exact ⟨lt_irrefl _, lt_irrefl _⟩

/-! ## The set -/

/-- The client has a subscription with exactly these options. -/
def Holds (s : Subscription) (keyOption : KeyOption) : Prop :=
  ∃ info ∈ s.manager.subscribeInfos, info.keyOption = keyOption

/-- What `SubscribeKeyEvent` asks before it looks at the set. -/
def PassesChecks (call : SubscribeCall) (keyOption : KeyOption) : Prop :=
  keyOption.preKeys.card ≤ preKeysNum ∧ call.initClient = true

theorem subscribeKeyEvent_infos (s : Subscription) (pid : Int) (call : SubscribeCall)
    (keyOption : KeyOption) :
    (s.subscribeKeyEvent pid call keyOption).2.manager.subscribeInfos
        = s.manager.subscribeInfos ∧
        (¬ PassesChecks call keyOption ∨ (recorded s.manager keyOption).isSome) ∨
      (s.subscribeKeyEvent pid call keyOption).2.manager.subscribeInfos
        = s.manager.subscribeInfos.orderedInsert (infoLess · ·) (makeInfo s.manager keyOption).1 ∧
        PassesChecks call keyOption ∧ recorded s.manager keyOption = none := by
  unfold Subscription.subscribeKeyEvent PassesChecks
  by_cases hmany : preKeysNum < keyOption.preKeys.card
  · rw [if_pos hmany]
    exact .inl ⟨rfl, .inl fun h => Nat.not_lt.mpr h.1 hmany⟩
  · rw [if_neg hmany]
    cases hinit : call.initClient with
    | false => exact .inl ⟨rfl, .inl fun h => nomatch h.2⟩
    | true =>
      have hinfos := makeInfo_infos s.manager keyOption
      simp only [Bool.not_true, Bool.false_eq_true, if_false, find_equivalent]
      have hrecorded : recorded (makeInfo s.manager keyOption).2 keyOption
          = recorded s.manager keyOption := by
        rw [recorded, hinfos]
        rfl
      rw [hrecorded]
      cases hrec : recorded s.manager keyOption with
      | some info => exact .inl ⟨hinfos, .inr rfl⟩
      | none => exact .inr ⟨by rw [hinfos], ⟨Nat.not_lt.mp hmany, trivial⟩, rfl⟩

theorem makeInfo_keyOption (m : KeyEventInputSubscribeManager) (keyOption : KeyOption) :
    (makeInfo m keyOption).1.keyOption = keyOption := by
  unfold makeInfo
  split <;> rfl

theorem recorded_eq_none_iff (m : KeyEventInputSubscribeManager) (keyOption : KeyOption) :
    recorded m keyOption = none ↔
      ∀ info ∈ m.subscribeInfos, ¬ SamePress info.keyOption keyOption := by
  simp [recorded, List.find?_eq_none]

/-- After the call the client holds the option if it did before, or if it
held none that differs at most in the delay. -/
theorem holds_subscribe_iff (s : Subscription) (pid : Int) (call : SubscribeCall)
    (keyOption : KeyOption) :
    Holds (s.subscribeKeyEvent pid call keyOption).2 keyOption ↔
      Holds s keyOption ∨ PassesChecks call keyOption ∧
        ∀ info ∈ s.manager.subscribeInfos, ¬ SamePress info.keyOption keyOption := by
  rw [← recorded_eq_none_iff]
  unfold Holds
  obtain ⟨hinfos, hkept⟩ | ⟨hinfos, hpasses, hnone⟩ := subscribeKeyEvent_infos s pid call keyOption
  · rw [hinfos, or_iff_left]
    rintro ⟨hpasses, hnone⟩
    rcases hkept with hnot | hsome
    · exact hnot hpasses
    · simp [hnone] at hsome
  · rw [hinfos]
    refine ⟨fun _ => .inr ⟨hpasses, hnone⟩, fun _ => ?_⟩
    exact ⟨_, (List.mem_orderedInsert _).mpr (.inl rfl), makeInfo_keyOption ..⟩

/-- An option that the client holds is not taken up again. -/
theorem subscribe_of_holds {s : Subscription} (pid : Int) (call : SubscribeCall)
    {keyOption : KeyOption} (h : Holds s keyOption) :
    (s.subscribeKeyEvent pid call keyOption).2.manager.subscribeInfos
      = s.manager.subscribeInfos := by
  obtain ⟨hinfos, _⟩ | ⟨_, _, hnone⟩ := subscribeKeyEvent_infos s pid call keyOption
  · exact hinfos
  · obtain ⟨info, hinfo, rfl⟩ := h
    exact absurd ⟨rfl, rfl, rfl, rfl⟩ ((recorded_eq_none_iff _ _).mp hnone info hinfo)

/-! ## Subscription ordering -/

/-- The comparison is a strict weak order. Two options are equivalent just if
they are equal, precisely if they do not differ in the delay alone. A call
that passes the checks leaves the client with the option, precisely if it
had the option or none that differs from it in the delay alone; and it never
takes up an option a second time. -/
theorem subscriptionOrder_iff (first second : KeyOption) (s : Subscription) (pid : Int)
    (call : SubscribeCall) (keyOption : KeyOption) :
    (IsStrictWeakOrder KeyOption fun first second => optionLess first second = true) ∧
      (((¬ optionLess first second = true ∧ ¬ optionLess second first = true) ↔ first = second) ↔
        (SamePress first second → first.finalKeyUpDelay = second.finalKeyUpDelay)) ∧
      ((PassesChecks call keyOption →
          Holds (s.subscribeKeyEvent pid call keyOption).2 keyOption) ↔
        (PassesChecks call keyOption → Holds s keyOption ∨
          ∀ info ∈ s.manager.subscribeInfos, ¬ SamePress info.keyOption keyOption)) ∧
      (Holds s keyOption → (s.subscribeKeyEvent pid call keyOption).2.manager.subscribeInfos
        = s.manager.subscribeInfos) := by
  refine ⟨optionLess_strictWeakOrder, ?_, ?_, ?_⟩
  · have hequivalent : (¬ optionLess first second = true ∧ ¬ optionLess second first = true) ↔
        SamePress first second := by
      rw [← equivalent_iff]
      simp [equivalent]
    have heq : first = second ↔
        SamePress first second ∧ first.finalKeyUpDelay = second.finalKeyUpDelay := by
      cases first
      cases second
      simp only [SamePress, KeyOption.mk.injEq]
      tauto
    rw [hequivalent, heq]
    tauto
  · rw [holds_subscribe_iff]
    tauto
  · exact subscribe_of_holds pid call

/-- Volume up, notified of at once or a second after it is released. -/
def onVolumeUp (finalKeyUpDelay : Int32) : KeyOption :=
  { KeyOption.create with finalKey := 16, finalKeyUpDelay }

/-- Neither of the two is less, and the second is not taken up. -/
theorem counterexample_subscriptionOrder :
    ¬ ((¬ optionLess (onVolumeUp 0) (onVolumeUp 1000) = true ∧
        ¬ optionLess (onVolumeUp 1000) (onVolumeUp 0) = true) ↔
        onVolumeUp 0 = onVolumeUp 1000) ∧
      ((freshClient.subscribeKeyEvent 100 smoothCall (onVolumeUp 0)).2.subscribeKeyEvent 100
        smoothCall (onVolumeUp 1000)).2.manager.subscribeInfos.map SubscribeKeyEventInfo.keyOption
          = [onVolumeUp 0] := by
  constructor
  · decide +kernel
  · decide +kernel

end FtMmi.Client
