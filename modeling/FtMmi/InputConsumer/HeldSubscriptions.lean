/-
FtMmi.InputConsumer.HeldSubscriptions — callbacks and the subscriptions
behind them.

The module counts on its texts: an option has one text and a text one
option (`subKeyNames_eq_iff`), so a list of callbacks has a subscription of
its own. `Backed` is the invariant of the module and its client. It does
not need the requests to succeed; when they do, the client holds no
subscription that has lost its callbacks (`Tidy`).
-/
import FtMmi.Client.RestoredRegistrations
import FtMmi.Client.SubscriptionOrder
import FtMmi.InputConsumer.JsRegisterModule
import FtMmi.KeyCommand.ShortcutMatch

namespace FtMmi.InputConsumer

open FtMmi.Client
open FtMmi.Event
open FtMmi.KeyCommand
open FtMmi.KeySubscriber
open FtMmi.Lib

/-! ## The text of an option -/

/-- The codes in order, the final key and its direction are fields, and the
duration comes last. -/
theorem subKeyNames_toList (keyOption : KeyOption) :
    (subKeyNames keyOption).toList
      = separated ',' ((keyOption.preKeys.sort.map Int32.toInt ++
          [keyOption.finalKey.toInt, if keyOption.isFinalKeyDown then 1 else 0]).map KeyCommand.numeral)
        ++ KeyCommand.numeral keyOption.finalKeyDownDuration.toInt := by
  have hcomma : ",".toList = [','] := rfl
  have hempty : "".toList = [] := rfl
  simp only [subKeyNames, String.toList_append, foldl_toList, hcomma, hempty, List.map_append,
    separated_append, List.map_cons, List.map_nil, separated_cons, separated_nil, KeyCommand.numeral,
    List.nil_append, List.append_assoc, List.cons_append]

theorem digit_inj {a b : Bool} (h : (if a then (1 : Int) else 0) = if b then 1 else 0) : a = b := by
  cases a <;> cases b <;> first | rfl | cases h

/-- Two options have one text if they differ at most in the delay after the final
key is released. -/
theorem subKeyNames_eq_iff {first second : KeyOption} :
    subKeyNames first = subKeyNames second ↔ SamePress first second := by
  constructor
  · intro h
    have htext := congrArg String.toList h
    rw [subKeyNames_toList, subKeyNames_toList] at htext
    obtain ⟨hfields, hduration⟩ :=
      separated_map_append_inj numeral_injective comma_not_mem_numeral htext
    obtain ⟨hcodes, hrest⟩ := List.append_inj' hfields (by simp only [List.length_cons])
    have hsorted := List.map_injective_iff.mpr int32_toInt_injective hcodes
    have hpre : first.preKeys = second.preKeys := by
      rw [← Finset.sort_toFinset first.preKeys (fun a b => a ≤ b), hsorted, Finset.sort_toFinset]
    obtain ⟨hfinal, hdown⟩ := List.cons_eq_cons.mp hrest
    exact ⟨Int32.toInt_inj.mp hfinal, hpre, digit_inj (List.singleton_inj.mp hdown),
      Int32.toInt_inj.mp hduration⟩
  · rintro ⟨hfinal, hpre, hdown, hduration⟩
    rw [subKeyNames, subKeyNames, hfinal, hpre, hdown, hduration]

/-- What a call has read when it goes on. -/
structure EventInfo.Accepted (event : EventInfo) (args : List JsValue) : Prop where
  text : event.eventType = subKeyNames event.keyOption
  undelayed : event.keyOption.finalKeyUpDelay = 0
  few : event.keyOption.preKeys.card ≤ preKeysSize
  preKeys : ∀ preKey ∈ event.keyOption.preKeys, 0 ≤ preKey
  finalKey : 0 ≤ event.keyOption.finalKey
  duration : 0 ≤ event.keyOption.finalKeyDownDuration
  callback : event.callback.isSome ↔ args.length = 3

theorem insertPreKeys_nonneg {elements : List JsValue} {params preKeys : Finset Int32}
    (hparams : ∀ preKey ∈ params, 0 ≤ preKey)
    (h : insertPreKeys elements params = .ok preKeys) : ∀ preKey ∈ preKeys, 0 ≤ preKey := by
  induction elements generalizing params with
  | nil =>
    cases h
    exact hparams
  | cons element elements ih =>
    cases element with
    | number value =>
      rw [insertPreKeys] at h
      split at h
      · cases h
      · rename_i hpos
        split at h
        · cases h
        · refine ih (fun preKey hmem => ?_) h
          rcases Finset.mem_insert.mp hmem with rfl | hmem
          · exact Int32.not_lt.mp hpos
          · exact hparams preKey hmem
    | _ => cases h

theorem getPreKeys_nonneg {value : JsValue} {preKeys : Finset Int32}
    (h : getPreKeys value = .ok preKeys) : ∀ preKey ∈ preKeys, 0 ≤ preKey := by
  cases value with
  | array elements => exact insertPreKeys_nonneg (by simp) h
  | _ => cases h

theorem bind_ok {α β : Type} {x : Except JsFailure α} {f : α → Except JsFailure β} {b : β}
    (h : x >>= f = .ok b) : ∃ a, x = .ok a ∧ f a = .ok b := by
  cases x with
  | error failure => cases h
  | ok a => exact ⟨a, rfl, h⟩

theorem require_ok {condition : Bool} {texts : List String} {u : Unit}
    (h : require condition texts = .ok u) : condition = true := by
  by_contra hnot
  rw [require, if_neg hnot] at h
  cases h

theorem getCallback_isSome_iff {args : List JsValue} {callback : Option Nat}
    (h : getCallback args = .ok callback) : callback.isSome ↔ args.length = 3 := by
  unfold getCallback at h
  split at h
  · rename_i hthree
    split at h
    · cases h
      simp [hthree]
    · cases h
  · rename_i hthree
    cases h
    simp [hthree]

theorem getEventInfoAPI9_accepted {args : List JsValue} {event : EventInfo}
    (h : getEventInfoAPI9 args = .ok event) : event.Accepted args := by
  obtain ⟨_, -, h⟩ := bind_ok h
  obtain ⟨_, -, h⟩ := bind_ok h
  obtain ⟨_, -, h⟩ := bind_ok h
  obtain ⟨preKeys, hpre, h⟩ := bind_ok h
  obtain ⟨_, hfew, h⟩ := bind_ok h
  obtain ⟨finalKey, -, h⟩ := bind_ok h
  obtain ⟨_, hfinal, h⟩ := bind_ok h
  obtain ⟨isFinalKeyDown, -, h⟩ := bind_ok h
  obtain ⟨duration, -, h⟩ := bind_ok h
  obtain ⟨_, hduration, h⟩ := bind_ok h
  obtain ⟨callback, hcallback, h⟩ := bind_ok h
  cases h
  exact
    { text := rfl
      undelayed := rfl
      few := of_decide_eq_true (require_ok hfew)
      preKeys := getPreKeys_nonneg hpre
      finalKey := of_decide_eq_true (require_ok hfinal)
      duration := of_decide_eq_true (require_ok hduration)
      callback := getCallback_isSome_iff hcallback }

/-! ## The lists of callbacks -/

namespace Callbacks

/-- All callbacks that are registered. -/
def infos (callbacks : Callbacks) : List KeyEventMonitorInfo := callbacks.flatMap Prod.snd

/-- The lists are in the order of their texts, each has the callbacks of the
option of its text, and none twice. -/
structure Ordered (callbacks : Callbacks) : Prop where
  sorted : (callbacks.map Prod.fst).Pairwise (· < ·)
  texts : ∀ entry ∈ callbacks, ∀ info ∈ entry.2, subKeyNames info.keyOption = entry.1
  once : ∀ entry ∈ callbacks, (entry.2.map KeyEventMonitorInfo.callback).Nodup

variable {callbacks : Callbacks} {eventType : String} {list rest : List KeyEventMonitorInfo}
  {entry : String × List KeyEventMonitorInfo} {info : KeyEventMonitorInfo}

theorem mem_infos : info ∈ callbacks.infos ↔ ∃ entry ∈ callbacks, info ∈ entry.2 :=
  List.mem_flatMap

theorem write_keys : (callbacks.write eventType list).map Prod.fst = callbacks.map Prod.fst := by
  rw [write, List.map_map]
  refine List.map_congr_left fun entry _ => ?_
  by_cases h : entry.1 = eventType <;> simp [h]

theorem mem_write (h : entry ∈ callbacks.write eventType list) :
    entry ∈ callbacks ∧ entry.1 ≠ eventType ∨ entry = (eventType, list) := by
  obtain ⟨old, hold, rfl⟩ := List.mem_map.mp h
  by_cases heq : old.1 = eventType
  · exact .inr (if_pos heq)
  · rw [if_neg heq]
    exact .inl ⟨hold, heq⟩

theorem mem_write_of_ne (h : entry ∈ callbacks) (hne : entry.1 ≠ eventType) :
    entry ∈ callbacks.write eventType list :=
  List.mem_map.mpr ⟨entry, h, if_neg hne⟩

theorem mem_write_self (h : eventType ∈ callbacks.map Prod.fst) :
    (eventType, list) ∈ callbacks.write eventType list := by
  obtain ⟨old, hold, heq⟩ := List.mem_map.mp h
  exact List.mem_map.mpr ⟨old, hold, if_pos heq⟩

theorem mem_of_lookup (h : callbacks.lookup eventType = some list) :
    (eventType, list) ∈ callbacks := by
  obtain ⟨before, after, rfl, -⟩ := List.lookup_eq_some_iff.mp h
  exact List.mem_append_right _ List.mem_cons_self

/-- There is one list under a text. -/
theorem Ordered.eq_of_mem (h : callbacks.Ordered) (hmem : (eventType, list) ∈ callbacks)
    (hmem' : (eventType, rest) ∈ callbacks) : list = rest := by
  have hnodup : (callbacks.map Prod.fst).Nodup := h.sorted.imp fun hlt => hlt.ne
  exact congrArg Prod.snd (List.inj_on_of_nodup_map hnodup hmem hmem' rfl)

theorem Ordered.write (h : callbacks.Ordered)
    (htexts : ∀ info ∈ list, subKeyNames info.keyOption = eventType)
    (honce : (list.map KeyEventMonitorInfo.callback).Nodup) :
    (callbacks.write eventType list).Ordered where
  sorted := by rw [write_keys]; exact h.sorted
  texts := fun entry hentry => by
    obtain ⟨hold, -⟩ | rfl := mem_write hentry
    · exact h.texts entry hold
    · exact htexts
  once := fun entry hentry => by
    obtain ⟨hold, -⟩ | rfl := mem_write hentry
    · exact h.once entry hold
    · exact honce

/-- A list that may be empty is there for the text. -/
theorem Ordered.emplace (h : callbacks.Ordered) (eventType : String) :
    Ordered (emplaceBy Prod.fst callbacks (eventType, [])) where
  sorted := emplaceBy_sorted h.sorted _
  texts := fun entry hentry => by
    rcases mem_of_mem_emplaceBy hentry with rfl | hold
    · simp
    · exact h.texts entry hold
  once := fun entry hentry => by
    rcases mem_of_mem_emplaceBy hentry with rfl | hold
    · exact List.nodup_nil
    · exact h.once entry hold

theorem mem_emplaceBy_of_mem (h : entry ∈ callbacks) :
    entry ∈ emplaceBy Prod.fst callbacks (eventType, []) := by
  unfold emplaceBy
  split
  · exact h
  · exact (List.mem_orderedInsert _).mpr (.inr h)

theorem key_mem_emplaceBy : eventType ∈ (emplaceBy Prod.fst callbacks (eventType, [])).map
    Prod.fst := by
  unfold emplaceBy
  split
  · assumption
  · exact List.mem_map_of_mem ((List.mem_orderedInsert _).mpr (.inl rfl))

theorem infos_emplaceBy (eventType : String) :
    info ∈ infos (emplaceBy Prod.fst callbacks (eventType, [])) ↔ info ∈ callbacks.infos := by
  rw [mem_infos, mem_infos]
  constructor
  · rintro ⟨entry, hentry, hinfo⟩
    rcases mem_of_mem_emplaceBy hentry with rfl | hold
    · cases hinfo
    · exact ⟨entry, hold, hinfo⟩
  · rintro ⟨entry, hentry, hinfo⟩
    exact ⟨entry, mem_emplaceBy_of_mem hentry, hinfo⟩

/-- No callback is there twice for an option. -/
theorem Ordered.nodup (h : callbacks.Ordered) :
    (callbacks.infos.map fun info => (info.callback, info.keyOption)).Nodup := by
  rw [infos, List.map_flatMap, List.nodup_flatMap]
  constructor
  · intro entry hentry
    refine List.Nodup.of_map Prod.fst ?_
    rw [List.map_map]
    exact h.once entry hentry
  · refine (List.pairwise_map.mp h.sorted).imp_of_mem fun {first second} hfirst hsecond hlt => ?_
    intro pair hmem hmem'
    obtain ⟨info, hinfo, rfl⟩ := List.mem_map.mp hmem
    obtain ⟨info', hinfo', heq⟩ := List.mem_map.mp hmem'
    refine hlt.ne ?_
    rw [← h.texts first hfirst info hinfo, ← h.texts second hsecond info' hinfo',
      (Prod.mk.inj heq).2]

/-- The callbacks under the other texts. -/
def Elsewhere (callbacks : Callbacks) (eventType : String) (info : KeyEventMonitorInfo) : Prop :=
  ∃ entry ∈ callbacks, entry.1 ≠ eventType ∧ info ∈ entry.2

theorem Ordered.mem_infos_iff (h : callbacks.Ordered) (hlist : (eventType, list) ∈ callbacks) :
    info ∈ callbacks.infos ↔ callbacks.Elsewhere eventType info ∨ info ∈ list := by
  rw [mem_infos]
  constructor
  · rintro ⟨⟨text, others⟩, hentry, hinfo⟩
    by_cases heq : text = eventType
    · subst heq
      obtain rfl := h.eq_of_mem hentry hlist
      exact .inr hinfo
    · exact .inl ⟨_, hentry, heq, hinfo⟩
  · rintro (⟨entry, hentry, -, hinfo⟩ | hinfo)
    · exact ⟨entry, hentry, hinfo⟩
    · exact ⟨_, hlist, hinfo⟩

theorem mem_infos_write (hlist : (eventType, list) ∈ callbacks) :
    info ∈ (callbacks.write eventType rest).infos ↔
      callbacks.Elsewhere eventType info ∨ info ∈ rest := by
  rw [mem_infos]
  constructor
  · rintro ⟨entry, hentry, hinfo⟩
    obtain ⟨hold, hne⟩ | rfl := mem_write hentry
    · exact .inl ⟨entry, hold, hne, hinfo⟩
    · exact .inr hinfo
  · rintro (⟨entry, hentry, hne, hinfo⟩ | hinfo)
    · exact ⟨entry, mem_write_of_ne hentry hne, hinfo⟩
    · exact ⟨_, mem_write_self (List.mem_map_of_mem hlist), hinfo⟩

/-- A callback is added under the text of its option, or nothing is. -/
theorem addEventCallback_cases (h : callbacks.Ordered) {args : List JsValue} {event : EventInfo}
    (hevent : event.Accepted args) (subscribeId : Int32) :
    (callbacks.addEventCallback event subscribeId).2.Ordered ∧
      ((∀ info, info ∈ (callbacks.addEventCallback event subscribeId).2.infos ↔
          info ∈ callbacks.infos) ∧
        (event.callback = none ∨ ∃ info ∈ callbacks.infos,
          subKeyNames info.keyOption = event.eventType) ∨
      ∃ ref, event.callback = some ref ∧
        ∀ info, info ∈ (callbacks.addEventCallback event subscribeId).2.infos ↔
          info ∈ callbacks.infos ∨ info = ⟨ref, subscribeId, event.keyOption⟩) := by
  have hplaced := h.emplace event.eventType
  unfold addEventCallback
  cases hcallback : event.callback with
  | none => exact ⟨hplaced, .inl ⟨fun _ => infos_emplaceBy _, .inl rfl⟩⟩
  | some ref =>
    dsimp only
    have hkey : event.eventType ∈ (emplaceBy Prod.fst callbacks (event.eventType, [])).map
        Prod.fst := key_mem_emplaceBy
    cases hlookup : (emplaceBy Prod.fst callbacks (event.eventType, [])).lookup
        event.eventType with
    | none =>
      obtain ⟨entry, hentry, heq⟩ := List.mem_map.mp hkey
      exact absurd (List.lookup_eq_none_iff.mp hlookup entry hentry) (by simp [heq])
    | some list =>
      have hlist := mem_of_lookup hlookup
      rw [Option.getD_some]
      split
      · rename_i hany
        obtain ⟨info, hinfo, -⟩ := List.any_eq_true.mp hany
        exact ⟨hplaced, .inl ⟨fun _ => infos_emplaceBy _, .inr ⟨info,
          (infos_emplaceBy _).mp (mem_infos.mpr ⟨_, hlist, hinfo⟩),
          hplaced.texts _ hlist info hinfo⟩⟩⟩
      · rename_i hnone
        refine ⟨hplaced.write (fun info hinfo => ?_) ?_, .inr ⟨ref, rfl, fun info => ?_⟩⟩
        · rcases List.mem_append.mp hinfo with hold | hnew
          · exact hplaced.texts _ hlist info hold
          · rw [List.mem_singleton.mp hnew]
            exact hevent.text.symm
        · rw [List.map_append]
          refine List.nodup_append.mpr ⟨hplaced.once _ hlist, List.nodup_singleton _, ?_⟩
          rintro a ha b hb rfl
          obtain ⟨info, hinfo, rfl⟩ := List.mem_map.mp ha
          exact hnone (List.any_eq_true.mpr
            ⟨info, hinfo, decide_eq_true (by simpa using hb)⟩)
        · refine Iff.trans ?_ (or_congr_left (infos_emplaceBy event.eventType))
          rw [mem_infos_write hlist, hplaced.mem_infos_iff hlist, List.mem_append,
            List.mem_singleton, or_assoc]

/-- Callbacks are taken off the list under the text, and the subscription is
given up if that leaves the list empty; or nothing happens. -/
theorem delEventCallback_cases (h : callbacks.Ordered) (event : EventInfo) :
    ((callbacks.delEventCallback event).2.1 = -1 ∧
        (callbacks.delEventCallback event).2.2 = callbacks) ∨
      ¬ (callbacks.delEventCallback event).1 < 0 ∧ ∃ list rest,
        (event.eventType, list) ∈ callbacks ∧ rest.Sublist list ∧
        (callbacks.delEventCallback event).2.2 = callbacks.write event.eventType rest ∧
        (callbacks.write event.eventType rest).Ordered ∧
        ((callbacks.delEventCallback event).2.1 = -1 ∧ (rest = [] → list = []) ∨
          rest = [] ∧ ∃ info ∈ list,
            (callbacks.delEventCallback event).2.1 = info.subscribeId) := by
  have hsuccess : ¬ jsCallbackEventSuccess < 0 := by decide
  unfold delEventCallback
  cases hlookup : callbacks.lookup event.eventType with
  | none => exact .inl ⟨rfl, rfl⟩
  | some list =>
    have hlist := mem_of_lookup hlookup
    have hordered : ∀ {rest : List KeyEventMonitorInfo}, rest.Sublist list →
        (callbacks.write event.eventType rest).Ordered := fun hsub =>
      h.write (fun info hinfo => h.texts _ hlist info (hsub.subset hinfo))
        ((h.once _ hlist).sublist (hsub.map _))
    cases hcallback : event.callback with
    | none =>
      refine .inr ⟨hsuccess, list, [], hlist, List.nil_sublist _, rfl,
        hordered (List.nil_sublist _), ?_⟩
      cases hlast : list.getLast? with
      | none => exact .inl ⟨by simp [hlast], fun _ => List.getLast?_eq_none_iff.mp hlast⟩
      | some info => exact .inr ⟨rfl, info, List.mem_of_getLast? hlast, by simp [hlast]⟩
    | some ref =>
      cases hfind : list.find? fun info => info.callback = ref with
      | none => exact .inl ⟨by simp [hfind], by simp [hfind]⟩
      | some info =>
        have hinfo := List.mem_of_find?_eq_some hfind
        simp only [hfind]
        refine .inr ⟨hsuccess, list, list.eraseP fun info => info.callback = ref, hlist,
          List.eraseP_sublist, rfl, hordered List.eraseP_sublist, ?_⟩
        by_cases hrest : (list.eraseP fun info => info.callback = ref) = []
        · exact .inr ⟨hrest, info, hinfo, by simp [hrest]⟩
        · exact .inl ⟨by simp [hrest], fun hnil => absurd hnil hrest⟩

end Callbacks

/-! ## The subscriptions of the client -/

/-- Of two members of a list, one comes first. -/
theorem rel_of_mem {α : Type} {R : α → α → Prop} {xs : List α} (h : xs.Pairwise R) {a b : α}
    (ha : a ∈ xs) (hb : b ∈ xs) : a = b ∨ R a b ∨ R b a := by
  induction h with
  | nil => cases ha
  | cons hfirst _ ih =>
    rcases List.mem_cons.mp ha with rfl | hrest
    · rcases List.mem_cons.mp hb with rfl | hrest'
      · exact .inl rfl
      · exact .inr (.inl (hfirst b hrest'))
    · rcases List.mem_cons.mp hb with rfl | hrest'
      · exact .inr (.inr (hfirst a hrest))
      · exact ih hrest hrest'

/-- An id stands for one subscription. -/
theorem issued_eq_of_id {m : KeyEventInputSubscribeManager} (hm : Issued m)
    {r r' : SubscribeKeyEventInfo} (hr : r ∈ m.subscribeInfos) (hr' : r' ∈ m.subscribeInfos)
    (hid : 0 ≤ r.subscribeId) (h : r.subscribeId = r'.subscribeId) : r = r' := by
  obtain heq | hne | hne := rel_of_mem hm.apart hr hr'
  · exact heq
  · exact absurd h (hne hid)
  · exact absurd h.symm (hne (h ▸ hid))

/-- The client holds one subscription for an option, and all without a delay. -/
structure Distinct (m : KeyEventInputSubscribeManager) : Prop where
  issued : Issued m
  apart : m.subscribeInfos.Pairwise fun r r' => ¬ SamePress r.keyOption r'.keyOption
  undelayed : ∀ r ∈ m.subscribeInfos, r.keyOption.finalKeyUpDelay = 0

theorem Distinct.eq_of_option {m : KeyEventInputSubscribeManager} (hm : Distinct m)
    {r r' : SubscribeKeyEventInfo} (hr : r ∈ m.subscribeInfos) (hr' : r' ∈ m.subscribeInfos)
    (h : r.keyOption = r'.keyOption) : r = r' := by
  obtain heq | hapart | hapart := rel_of_mem hm.apart hr hr'
  · exact heq
  · exact absurd (h ▸ ⟨rfl, rfl, rfl, rfl⟩) hapart
  · exact absurd (h ▸ ⟨rfl, rfl, rfl, rfl⟩) hapart

theorem samePress_of_undelayed {first second : KeyOption} (h : SamePress first second)
    (hfirst : first.finalKeyUpDelay = 0) (hsecond : second.finalKeyUpDelay = 0) :
    first = second := by
  obtain ⟨hfinal, hpre, hdown, hduration⟩ := h
  cases first
  cases second
  simp_all

theorem samePress_symm {first second : KeyOption} (h : SamePress first second) :
    SamePress second first :=
  ⟨h.1.symm, h.2.1.symm, h.2.2.1.symm, h.2.2.2.symm⟩

/-- The id that `SubscribeKeyEvent` returns. -/
theorem subscribeKeyEvent_id (s : Subscription) (pid : Int) (call : SubscribeCall)
    (keyOption : KeyOption) :
    (PassesChecks call keyOption → (s.subscribeKeyEvent pid call keyOption).1 =
        ((recorded s.manager keyOption).getD (makeInfo s.manager keyOption).1).subscribeId) ∧
      (¬ PassesChecks call keyOption →
        (s.subscribeKeyEvent pid call keyOption).1 = invalidSubscribeId) := by
  unfold Subscription.subscribeKeyEvent PassesChecks
  by_cases hmany : preKeysNum < keyOption.preKeys.card
  · rw [if_pos hmany]
    exact ⟨fun h => absurd hmany (Nat.not_lt.mpr h.1), fun _ => rfl⟩
  · rw [if_neg hmany]
    cases hinit : call.initClient with
    | false => exact ⟨fun h => absurd h.2 Bool.false_ne_true, fun _ => rfl⟩
    | true =>
      have hrecorded : recorded (makeInfo s.manager keyOption).2 keyOption
          = recorded s.manager keyOption := by
        rw [recorded, makeInfo_infos]
        rfl
      refine ⟨fun _ => ?_, fun hnot => absurd ⟨Nat.not_lt.mp hmany, rfl⟩ hnot⟩
      simp only [Bool.not_true, Bool.false_eq_true, if_false, find_equivalent, hrecorded]
      cases recorded s.manager keyOption <;> rfl

/-- `SubscribeKeyEvent` refuses; or it gives the subscription there is for the
option; or there was none and it makes one. -/
theorem subscribeKeyEvent_cases {s : Subscription} (h : Distinct s.manager) (pid : Int)
    (call : SubscribeCall) {keyOption : KeyOption} (hdelay : keyOption.finalKeyUpDelay = 0) :
    Distinct (s.subscribeKeyEvent pid call keyOption).2.manager ∧
    ((∃ r ∈ s.manager.subscribeInfos, r.keyOption = keyOption ∧
        (s.subscribeKeyEvent pid call keyOption).1 = r.subscribeId) ∧
        (s.subscribeKeyEvent pid call keyOption).2.manager.subscribeInfos
          = s.manager.subscribeInfos ∨
      (s.subscribeKeyEvent pid call keyOption).1 < 0 ∧
        (s.subscribeKeyEvent pid call keyOption).2.manager.subscribeInfos
          = s.manager.subscribeInfos ∨
      ∃ r : SubscribeKeyEventInfo, r.keyOption = keyOption ∧
        (s.subscribeKeyEvent pid call keyOption).1 = r.subscribeId ∧
        ∀ r', r' ∈ (s.subscribeKeyEvent pid call keyOption).2.manager.subscribeInfos ↔
          r' = r ∨ r' ∈ s.manager.subscribeInfos) := by
  have hissued : Issued (s.subscribeKeyEvent pid call keyOption).2.manager :=
    issued_subscribe h.issued s.service pid call keyOption
  obtain ⟨hid, hrefused⟩ := subscribeKeyEvent_id s pid call keyOption
  obtain ⟨hinfos, hkept⟩ | ⟨hinfos, hpasses, hnone⟩ := subscribeKeyEvent_infos s pid call keyOption
  · refine ⟨⟨hissued, hinfos ▸ h.apart, hinfos ▸ h.undelayed⟩, ?_⟩
    by_cases hpasses : PassesChecks call keyOption
    · obtain ⟨r, hr⟩ := Option.isSome_iff_exists.mp (hkept.resolve_left (not_not_intro hpasses))
      have hmem := List.mem_of_find?_eq_some hr
      have hsame : SamePress r.keyOption keyOption := by simpa using List.find?_some hr
      refine .inl ⟨⟨r, hmem, ?_, by rw [hid hpasses, hr]; rfl⟩, hinfos⟩
      exact samePress_of_undelayed hsame (h.undelayed r hmem) hdelay
    · exact .inr (.inl ⟨by rw [hrefused hpasses]; decide, hinfos⟩)
  · have hoption := makeInfo_keyOption s.manager keyOption
    have hmem : ∀ r', r' ∈ (s.subscribeKeyEvent pid call keyOption).2.manager.subscribeInfos ↔
        r' = (makeInfo s.manager keyOption).1 ∨ r' ∈ s.manager.subscribeInfos := fun r' => by
      rw [hinfos, List.mem_orderedInsert]
    refine ⟨⟨hissued, ?_, fun r hr => ?_⟩, .inr (.inr
      ⟨_, hoption, by rw [hid hpasses, hnone]; rfl, hmem⟩)⟩
    · rw [hinfos, (List.perm_orderedInsert (infoLess · ·) _ _).pairwise_iff
        fun {a b} hab hba => hab (samePress_symm hba)]
      refine List.pairwise_cons.mpr ⟨fun r hr => ?_, h.apart⟩
      rw [hoption]
      exact fun hsame => (recorded_eq_none_iff _ _).mp hnone r hr (samePress_symm hsame)
    · rcases (hmem r).mp hr with rfl | hr
      · rw [hoption]
        exact hdelay
      · exact h.undelayed r hr

/-- `UnsubscribeKeyEvent` takes at most the subscription with the id. -/
theorem unsubscribeKeyEvent_cases {s : Subscription} (h : Distinct s.manager) (pid : Int)
    (call : SubscribeCall) (subscribeId : Int32) :
    Distinct (s.unsubscribeKeyEvent pid call subscribeId).2.manager ∧
    ∀ r ∈ s.manager.subscribeInfos, r.subscribeId ≠ subscribeId →
      r ∈ (s.unsubscribeKeyEvent pid call subscribeId).2.manager.subscribeInfos := by
  have hissued : Issued (s.unsubscribeKeyEvent pid call subscribeId).2.manager :=
    issued_unsubscribe h.issued s.service pid call subscribeId
  have hsub : (s.unsubscribeKeyEvent pid call subscribeId).2.manager.subscribeInfos
        = s.manager.subscribeInfos ∨
      (s.unsubscribeKeyEvent pid call subscribeId).2.manager.subscribeInfos
        = s.manager.subscribeInfos.eraseP fun info => info.subscribeId = subscribeId := by
    unfold Subscription.unsubscribeKeyEvent
    split
    · exact .inl rfl
    split
    · exact .inl rfl
    split
    · exact .inl rfl
    dsimp only
    split
    · exact .inl rfl
    · exact .inr rfl
  rcases hsub with hsame | herase
  · exact ⟨⟨hissued, hsame ▸ h.apart, hsame ▸ h.undelayed⟩, fun r hr _ => hsame ▸ hr⟩
  · refine ⟨⟨hissued, ?_, fun r hr => h.undelayed r ?_⟩, fun r hr hne => ?_⟩
    · rw [herase]
      exact h.apart.sublist List.eraseP_sublist
    · rw [herase] at hr
      exact List.mem_of_mem_eraseP hr
    · rw [herase]
      exact (List.mem_eraseP_of_neg (by simpa using hne)).mpr hr

/-! ## Runs -/

/-- What an application and the service go through. The process subscribes to keys
through the module alone. -/
inductive JsInput where
  | on (call : SubscribeCall) (args : List JsValue)
  | off (call : SubscribeCall) (args : List JsValue)
  | connected (calls : SubscribeKeyEventInfo → SubscribeCall)
  | service (i : SubscriberInput)

namespace JsRegisterModule

def create (service : SubscriberService) : JsRegisterModule := ⟨[], ⟨⟨[], 0⟩, service⟩⟩

def step (pid : Int) (s : JsRegisterModule) : JsInput → JsRegisterModule
  | .on call args => (s.jsOn pid call args).2
  | .off call args => (s.jsOff pid call args).2
  | .connected calls => { s with subscription := s.subscription.onConnected pid calls }
  | .service i =>
      { s with subscription := { s.subscription with service := s.subscription.service.step i } }

/-- Every callback has the subscription of its option. -/
structure Backed (s : JsRegisterModule) : Prop where
  ordered : s.callbacks.Ordered
  distinct : Distinct s.subscription.manager
  held : ∀ info ∈ s.callbacks.infos, ∃ r ∈ s.subscription.manager.subscribeInfos,
    r.subscribeId = info.subscribeId ∧ 0 ≤ r.subscribeId ∧ r.keyOption = info.keyOption

variable {s : JsRegisterModule} {args : List JsValue}

theorem create_backed (service : SubscriberService) : (create service).Backed where
  ordered := ⟨List.Pairwise.nil, by simp [create], by simp [create]⟩
  distinct := ⟨⟨List.Pairwise.nil, by simp [create]⟩, List.Pairwise.nil, by simp [create]⟩
  held := by simp [create, Callbacks.infos]

/-- One option, one subscription. -/
theorem Backed.id_eq_iff (h : s.Backed) {info info' : KeyEventMonitorInfo}
    (hinfo : info ∈ s.callbacks.infos) (hinfo' : info' ∈ s.callbacks.infos) :
    info.subscribeId = info'.subscribeId ↔ info.keyOption = info'.keyOption := by
  obtain ⟨r, hr, hid, hpos, hoption⟩ := h.held info hinfo
  obtain ⟨r', hr', hid', -, hoption'⟩ := h.held info' hinfo'
  constructor
  · intro heq
    rw [← hoption, ← hoption', issued_eq_of_id h.distinct.issued hr hr' hpos (by rw [hid, hid', heq])]
  · intro heq
    obtain rfl := h.distinct.eq_of_option hr hr' (by rw [hoption, hoption', heq])
    rw [← hid, hid']

theorem Backed.undelayed (h : s.Backed) {info : KeyEventMonitorInfo}
    (hinfo : info ∈ s.callbacks.infos) : info.keyOption.finalKeyUpDelay = 0 := by
  obtain ⟨r, hr, -, -, hoption⟩ := h.held info hinfo
  rw [← hoption]
  exact h.distinct.undelayed r hr

/-- A callback under the text of an option is one of the option. -/
theorem Backed.option_eq (h : s.Backed) {info : KeyEventMonitorInfo}
    (hinfo : info ∈ s.callbacks.infos) {keyOption : KeyOption}
    (hdelay : keyOption.finalKeyUpDelay = 0)
    (htext : subKeyNames info.keyOption = subKeyNames keyOption) : info.keyOption = keyOption :=
  samePress_of_undelayed (subKeyNames_eq_iff.mp htext) (h.undelayed hinfo) hdelay

/-- An option that has callbacks is not subscribed to again. -/
theorem Backed.getPreSubscribeId_cases (h : s.Backed) {args : List JsValue} {event : EventInfo}
    (hevent : event.Accepted args) :
    s.callbacks.getPreSubscribeId event < 0 ∨ ∃ r ∈ s.subscription.manager.subscribeInfos,
      r.subscribeId = s.callbacks.getPreSubscribeId event ∧ 0 ≤ r.subscribeId ∧
        r.keyOption = event.keyOption := by
  unfold Callbacks.getPreSubscribeId
  split
  · rename_i info infos hlookup
    have hlist := Callbacks.mem_of_lookup hlookup
    have hinfo : info ∈ s.callbacks.infos :=
      Callbacks.mem_infos.mpr ⟨_, hlist, List.mem_cons_self⟩
    obtain ⟨r, hr, hid, hpos, hoption⟩ := h.held info hinfo
    refine .inr ⟨r, hr, hid, hpos, hoption.trans (h.option_eq hinfo hevent.undelayed ?_)⟩
    rw [← hevent.text]
    exact h.ordered.texts _ hlist info List.mem_cons_self
  · exact .inl (by decide)

/-! ## `on` -/

/-- The subscription that a call of `on` works with. -/
def subscriptionFor (s : JsRegisterModule) (pid : Int) (call : SubscribeCall)
    (event : EventInfo) : Int32 × Subscription :=
  if s.callbacks.getPreSubscribeId event < 0 then
    s.subscription.subscribeKeyEvent pid call event.keyOption
  else (s.callbacks.getPreSubscribeId event, s.subscription)

theorem jsOn_cases (s : JsRegisterModule) (pid : Int) (call : SubscribeCall)
    (args : List JsValue) :
    (s.jsOn pid call args).2 = s ∨ ∃ event : EventInfo, event.Accepted args ∧ 3 ≤ args.length ∧
      (s.jsOn pid call args).2 =
        if (s.subscriptionFor pid call event).1 < 0 then
          { s with subscription := (s.subscriptionFor pid call event).2 }
        else
          ⟨(s.callbacks.addEventCallback event (s.subscriptionFor pid call event).1).2,
            (s.subscriptionFor pid call event).2⟩ := by
  unfold jsOn
  split
  · exact .inl rfl
  · rename_i hargs
    cases hevent : getEventInfoAPI9 args with
    | error failure => exact .inl rfl
    | ok event =>
      refine .inr ⟨event, getEventInfoAPI9_accepted hevent, Nat.not_lt.mp hargs, ?_⟩
      dsimp only [subscriptionFor]
      split <;> split <;> rfl

/-- The subscription is one of the option, and no other is given up for it. -/
theorem Backed.subscriptionFor (h : s.Backed) (pid : Int) (call : SubscribeCall)
    {args : List JsValue} {event : EventInfo} (hevent : event.Accepted args) :
    Distinct (s.subscriptionFor pid call event).2.manager ∧
    (∀ r ∈ s.subscription.manager.subscribeInfos,
      r ∈ (s.subscriptionFor pid call event).2.manager.subscribeInfos) ∧
    (0 ≤ (s.subscriptionFor pid call event).1 →
      ∃ r ∈ (s.subscriptionFor pid call event).2.manager.subscribeInfos,
        r.subscribeId = (s.subscriptionFor pid call event).1 ∧ r.keyOption = event.keyOption) ∧
    ∀ r ∈ (s.subscriptionFor pid call event).2.manager.subscribeInfos,
      r ∈ s.subscription.manager.subscribeInfos ∨
        r.subscribeId = (s.subscriptionFor pid call event).1 ∧ r.keyOption = event.keyOption := by
  unfold JsRegisterModule.subscriptionFor
  obtain hnone | ⟨r, hr, hid, hpos, hoption⟩ := h.getPreSubscribeId_cases hevent
  · rw [if_pos hnone]
    obtain ⟨hdistinct, ⟨⟨r, hr, hoption, hid⟩, hsame⟩ | ⟨hneg, hsame⟩ | ⟨r, hoption, hid, hmem⟩⟩ :=
      subscribeKeyEvent_cases h.distinct pid call hevent.undelayed
    · exact ⟨hdistinct, fun _ => hsame ▸ id, fun _ => ⟨r, hsame ▸ hr, hid.symm, hoption⟩,
        fun _ hr' => .inl (hsame ▸ hr')⟩
    · exact ⟨hdistinct, fun _ => hsame ▸ id, fun hpos => absurd hneg (Int32.not_lt.mpr hpos),
        fun _ hr' => .inl (hsame ▸ hr')⟩
    · refine ⟨hdistinct, fun r' hr' => (hmem r').mpr (.inr hr'),
        fun _ => ⟨r, (hmem r).mpr (.inl rfl), hid.symm, hoption⟩, fun r' hr' => ?_⟩
      rcases (hmem r').mp hr' with rfl | hr'
      · exact .inr ⟨hid.symm, hoption⟩
      · exact .inl hr'
  · rw [if_neg (hid ▸ Int32.not_lt.mpr hpos)]
    exact ⟨h.distinct, fun _ => id, fun _ => ⟨r, hr, hid, hoption⟩, fun _ => .inl⟩

theorem jsOn_backed (h : s.Backed) (pid : Int) (call : SubscribeCall) (args : List JsValue) :
    (s.jsOn pid call args).2.Backed := by
  obtain hsame | ⟨event, hevent, -, hon⟩ := jsOn_cases s pid call args
  · rw [hsame]
    exact h
  obtain ⟨hdistinct, hkept, hgiven, -⟩ := h.subscriptionFor pid call hevent
  have hold : ∀ info ∈ s.callbacks.infos,
      ∃ r ∈ (s.subscriptionFor pid call event).2.manager.subscribeInfos,
        r.subscribeId = info.subscribeId ∧ 0 ≤ r.subscribeId ∧ r.keyOption = info.keyOption :=
    fun info hinfo => by
      obtain ⟨r, hr, hrest⟩ := h.held info hinfo
      exact ⟨r, hkept r hr, hrest⟩
  rw [hon]
  split
  · exact ⟨h.ordered, hdistinct, hold⟩
  · rename_i hneg
    obtain ⟨r, hr, hid, hoption⟩ := hgiven (Int32.not_lt.mp hneg)
    obtain ⟨hordered, hadded⟩ := Callbacks.addEventCallback_cases h.ordered hevent
      (s.subscriptionFor pid call event).1
    refine ⟨hordered, hdistinct, fun info hinfo => ?_⟩
    obtain ⟨hinfos, -⟩ | ⟨ref, -, hinfos⟩ := hadded
    · exact hold info ((hinfos info).mp hinfo)
    · rcases (hinfos info).mp hinfo with hinfo | rfl
      · exact hold info hinfo
      · exact ⟨r, hr, hid, hid ▸ Int32.not_lt.mp hneg, hoption⟩

/-! ## `off` -/

/-- The id of the subscription that `off` gives up, or a negative one. -/
def givenUp (s : JsRegisterModule) (args : List JsValue) : Int32 :=
  match getEventInfoAPI9 args with
  | .error _ => -1
  | .ok event => (s.callbacks.delEventCallback event).2.1

theorem jsOff_cases (h : s.Backed) (pid : Int) (call : SubscribeCall) (args : List JsValue) :
    (s.jsOff pid call args).2 = s ∨ ∃ (event : EventInfo) (list rest : List KeyEventMonitorInfo),
      (event.eventType, list) ∈ s.callbacks ∧ rest.Sublist list ∧
      (s.callbacks.write event.eventType rest).Ordered ∧
      ((s.jsOff pid call args).2 = { s with callbacks := s.callbacks.write event.eventType rest } ∧
          (rest = [] → list = []) ∨
        rest = [] ∧ ∃ info ∈ list, (s.jsOff pid call args).2 =
            ⟨s.callbacks.write event.eventType rest,
              (s.subscription.unsubscribeKeyEvent pid call info.subscribeId).2⟩ ∧
          s.givenUp args = info.subscribeId) := by
  unfold jsOff
  split
  · exact .inl rfl
  cases hevent : getEventInfoAPI9 args with
  | error failure => exact .inl rfl
  | ok event =>
    dsimp only
    obtain ⟨hid, hsame⟩ | ⟨hsuccess, list, rest, hlist, hsub, hwritten, hordered, hcase⟩ :=
      Callbacks.delEventCallback_cases h.ordered event
    · have hneg : ¬ (0 : Int32) ≤ -1 := by decide
      refine .inl ?_
      rw [hid, hsame, if_neg hneg]
      split <;> rfl
    · refine .inr ⟨event, list, rest, hlist, hsub, hordered, ?_⟩
      rw [if_neg hsuccess, hwritten]
      obtain ⟨hid, hrest⟩ | ⟨hrest, info, hinfo, hid⟩ := hcase
      · have hneg : ¬ (0 : Int32) ≤ -1 := by decide
        exact .inl ⟨by rw [hid, if_neg hneg], hrest⟩
      · obtain ⟨r, -, hr, hpos, -⟩ :=
          h.held info (Callbacks.mem_infos.mpr ⟨_, hlist, hinfo⟩)
        have hgiven : s.givenUp args = info.subscribeId := by
          rw [← hid, givenUp, hevent]
        exact .inr ⟨hrest, info, hinfo, by rw [hid, if_pos (hr ▸ hpos)], hgiven⟩

theorem jsOff_backed (h : s.Backed) (pid : Int) (call : SubscribeCall) (args : List JsValue) :
    (s.jsOff pid call args).2.Backed := by
  obtain hsame | ⟨event, list, rest, hlist, hsub, hordered, hoff⟩ := jsOff_cases h pid call args
  · rw [hsame]
    exact h
  obtain ⟨hoff, -⟩ | ⟨rfl, gone, hgone, hoff, -⟩ := hoff
  · rw [hoff]
    refine ⟨hordered, h.distinct, fun info hinfo => h.held info ?_⟩
    rw [h.ordered.mem_infos_iff hlist]
    exact ((Callbacks.mem_infos_write hlist).mp hinfo).imp_right fun hrest => hsub.subset hrest
  · rw [hoff]
    obtain ⟨hdistinct, hkept⟩ :=
      unsubscribeKeyEvent_cases h.distinct pid call gone.subscribeId
    refine ⟨hordered, hdistinct, fun info hinfo => ?_⟩
    -- The callbacks left are those of other texts, and so of other subscriptions.
    obtain ⟨entry, hentry, hne, hmem⟩ :=
      ((Callbacks.mem_infos_write hlist).mp hinfo).resolve_right List.not_mem_nil
    have hinfo' := Callbacks.mem_infos.mpr ⟨entry, hentry, hmem⟩
    have hgone' := Callbacks.mem_infos.mpr ⟨_, hlist, hgone⟩
    obtain ⟨r, hr, hid, hrest⟩ := h.held info hinfo'
    refine ⟨r, hkept r hr fun heq => hne ?_, hid, hrest⟩
    have hoption := (h.id_eq_iff hinfo' hgone').mp (hid ▸ heq)
    rw [← h.ordered.texts entry hentry info hmem, hoption, h.ordered.texts _ hlist gone hgone]

theorem step_backed (pid : Int) (s : JsRegisterModule) (i : JsInput) (h : s.Backed) :
    (s.step pid i).Backed := by
  cases i with
  | on call args => exact jsOn_backed h pid call args
  | off call args => exact jsOff_backed h pid call args
  | connected calls => exact ⟨h.ordered, h.distinct, h.held⟩
  | service i => exact ⟨h.ordered, h.distinct, h.held⟩

/-- In every state of every run, whatever the requests come to: a callback has a
subscription of the client for its option, callbacks have one subscription
just if they are for one option, and no callback is there twice. -/
theorem run_backed (pid : Int) (service : SubscriberService) (inputs : List JsInput) :
    Always (step pid) (fun s =>
      (∀ info ∈ s.callbacks.infos, ∃ r ∈ s.subscription.manager.subscribeInfos,
        r.subscribeId = info.subscribeId ∧ 0 ≤ r.subscribeId ∧ r.keyOption = info.keyOption) ∧
      (∀ info ∈ s.callbacks.infos, ∀ info' ∈ s.callbacks.infos,
        (info.subscribeId = info'.subscribeId ↔ info.keyOption = info'.keyOption)) ∧
      (s.callbacks.infos.map fun info => (info.callback, info.keyOption)).Nodup)
      (create service) inputs := by
  refine (always_of_step (step_backed pid) inputs _ (create_backed service)).mono fun s h => ?_
  exact ⟨h.held, fun info hinfo info' hinfo' => h.id_eq_iff hinfo hinfo', h.ordered.nodup⟩

/-! ## Nothing is left over -/

/-- Every subscription of the client has a callback. -/
def Tidy (s : JsRegisterModule) : Prop :=
  ∀ r ∈ s.subscription.manager.subscribeInfos, 0 ≤ r.subscribeId →
    ∃ info ∈ s.callbacks.infos, info.subscribeId = r.subscribeId

/-- `on` is called with a callback and nothing behind it, and when `off` gives a
subscription up, the service answers the request. -/
def Smooth (pid : Int) (s : JsRegisterModule) : JsInput → Prop
  | .on _ args => args.length ≤ 3
  | .off call args => 0 ≤ s.givenUp args → call.initClient = true ∧
      (requestUnsubscribe s.subscription.service pid call (s.givenUp args)).1 = true
  | _ => True

theorem jsOn_tidy (h : s.Backed) (htidy : s.Tidy) (pid : Int) (call : SubscribeCall)
    {args : List JsValue} (hargs : args.length ≤ 3) : (s.jsOn pid call args).2.Tidy := by
  obtain hsame | ⟨event, hevent, hthree, hon⟩ := jsOn_cases s pid call args
  · rw [hsame]
    exact htidy
  have hbacked := jsOn_backed h pid call args
  obtain ⟨-, -, -, hnew⟩ := h.subscriptionFor pid call hevent
  rw [hon] at hbacked ⊢
  split
  · rename_i hneg
    intro r hr hpos
    obtain hold | ⟨hid, -⟩ := hnew r hr
    · exact htidy r hold hpos
    · exact absurd (hid ▸ hneg) (Int32.not_lt.mpr hpos)
  · rename_i hneg
    rw [if_neg hneg] at hbacked
    have hcallback : event.callback ≠ none := by
      have hsome := hevent.callback.mpr (Nat.le_antisymm hargs hthree)
      rintro hnone
      simp [hnone] at hsome
    obtain ⟨-, hadded⟩ := Callbacks.addEventCallback_cases h.ordered hevent
      (s.subscriptionFor pid call event).1
    intro r hr hpos
    obtain ⟨hinfos, hnone | ⟨info, hinfo, htext⟩⟩ | ⟨ref, -, hinfos⟩ := hadded
    · exact absurd hnone hcallback
    · obtain hold | ⟨-, hoption⟩ := hnew r hr
      · obtain ⟨info, hinfo, hid⟩ := htidy r hold hpos
        exact ⟨info, (hinfos info).mpr hinfo, hid⟩
      · -- The callback is refused because it is there, with the subscription.
        have hinfo' := (hinfos info).mpr hinfo
        obtain ⟨r', hr', hid, -, hoption'⟩ := hbacked.held info hinfo'
        have hsame := h.option_eq hinfo hevent.undelayed (htext.trans hevent.text)
        obtain rfl := hbacked.distinct.eq_of_option hr hr' (by rw [hoption, hoption', hsame])
        exact ⟨info, hinfo', hid.symm⟩
    · obtain hold | ⟨hid, -⟩ := hnew r hr
      · obtain ⟨info, hinfo, hid⟩ := htidy r hold hpos
        exact ⟨info, (hinfos info).mpr (.inl hinfo), hid⟩
      · exact ⟨_, (hinfos _).mpr (.inr rfl), hid.symm⟩

theorem not_mem_eraseP_of_apart {α : Type} {p : α → Bool} {xs : List α}
    (h : xs.Pairwise fun a b => p a = true → ¬ p b = true) : ∀ x ∈ xs.eraseP p, ¬ p x = true := by
  induction h with
  | nil => simp
  | @cons a xs hfirst _ ih =>
    by_cases ha : p a = true
    · rw [List.eraseP_cons_of_pos ha]
      exact fun x hx => hfirst x hx ha
    · rw [List.eraseP_cons_of_neg ha]
      intro x hx
      rcases List.mem_cons.mp hx with rfl | hx
      · exact ha
      · exact ih x hx

/-- An unsubscription that is answered takes the subscription with the id. -/
theorem unsubscribeKeyEvent_gone {s : Subscription} (h : Distinct s.manager) {pid : Int}
    {call : SubscribeCall} (hinit : call.initClient = true) {r : SubscribeKeyEventInfo}
    (hr : r ∈ s.manager.subscribeInfos) (hpos : 0 ≤ r.subscribeId)
    (hanswer : (requestUnsubscribe s.service pid call r.subscribeId).1 = true) :
    ∀ r' ∈ (s.unsubscribeKeyEvent pid call r.subscribeId).2.manager.subscribeInfos,
      r' ∈ s.manager.subscribeInfos ∧ r'.subscribeId ≠ r.subscribeId := by
  have hfind : (s.manager.subscribeInfos.find? fun info => info.subscribeId = r.subscribeId)
      ≠ none := fun hnone => by
    simpa using List.find?_eq_none.mp hnone r hr
  obtain ⟨first, hfirst⟩ := Option.ne_none_iff_exists'.mp hfind
  have hinfos : (s.unsubscribeKeyEvent pid call r.subscribeId).2.manager.subscribeInfos
      = s.manager.subscribeInfos.eraseP fun info => info.subscribeId = r.subscribeId := by
    unfold Subscription.unsubscribeKeyEvent
    rw [if_neg (Int32.not_lt.mpr hpos), hinit, hfirst]
    simp [hanswer]
  rw [hinfos]
  refine fun r' hr' => ⟨List.mem_of_mem_eraseP hr', ?_⟩
  have hapart := not_mem_eraseP_of_apart (h.issued.apart.imp
    fun {a b} hab (ha : decide (a.subscribeId = r.subscribeId) = true) hb => by
      have ha := of_decide_eq_true ha
      exact hab (ha ▸ hpos) (ha.trans (of_decide_eq_true hb).symm)) r' hr'
  simpa using hapart

theorem jsOff_tidy (h : s.Backed) (htidy : s.Tidy) {pid : Int} {call : SubscribeCall}
    (hsmooth : s.Smooth pid (.off call args)) : (s.jsOff pid call args).2.Tidy := by
  obtain hsame | ⟨event, list, rest, hlist, hsub, hordered, hoff⟩ := jsOff_cases h pid call args
  · rw [hsame]
    exact htidy
  have hsplit : ∀ {info}, info ∈ s.callbacks.infos →
      s.callbacks.Elsewhere event.eventType info ∨ info ∈ list :=
    fun hinfo => (h.ordered.mem_infos_iff hlist).mp hinfo
  obtain ⟨hoff, hrest⟩ | ⟨rfl, gone, hgone, hoff, hgiven⟩ := hoff
  · rw [hoff]
    intro r hr hpos
    obtain ⟨info, hinfo, hid⟩ := htidy r hr hpos
    rcases hsplit hinfo with helse | hmem
    · exact ⟨info, (Callbacks.mem_infos_write hlist).mpr (.inl helse), hid⟩
    · -- Of the callbacks of the option, one is left.
      have hne : rest ≠ [] := fun hnil => by
        rw [hrest hnil] at hmem
        cases hmem
      obtain ⟨left, hleft⟩ := List.exists_mem_of_ne_nil _ hne
      have hleft' := Callbacks.mem_infos.mpr ⟨_, hlist, hsub.subset hleft⟩
      refine ⟨left, (Callbacks.mem_infos_write hlist).mpr (.inr hleft), hid ▸ ?_⟩
      refine (h.id_eq_iff hleft' hinfo).mpr (h.option_eq hleft' (h.undelayed hinfo) ?_)
      rw [h.ordered.texts _ hlist left (hsub.subset hleft), h.ordered.texts _ hlist info hmem]
  · rw [hoff]
    have hgone' := Callbacks.mem_infos.mpr ⟨_, hlist, hgone⟩
    obtain ⟨taken, htaken, hid, hpos, -⟩ := h.held gone hgone'
    obtain ⟨hinit, hanswer⟩ := hsmooth (by rw [hgiven, ← hid]; exact hpos)
    rw [hgiven, ← hid] at hanswer
    intro r hr hpos'
    obtain ⟨hold, hne⟩ := unsubscribeKeyEvent_gone h.distinct hinit htaken hpos hanswer r (hid ▸ hr)
    obtain ⟨info, hinfo, hid'⟩ := htidy r hold hpos'
    rcases hsplit hinfo with helse | hmem
    · exact ⟨info, (Callbacks.mem_infos_write hlist).mpr (.inl helse), hid'⟩
    · refine absurd ?_ hne
      rw [← hid', hid]
      refine (h.id_eq_iff hinfo hgone').mpr (h.option_eq hinfo (h.undelayed hgone') ?_)
      rw [h.ordered.texts _ hlist info hmem, h.ordered.texts _ hlist gone hgone]

/-- In a run without a call of `on` that has too many arguments, and in which the
service answers each `off` that gives a subscription up, the client never holds a
subscription that has no callback. -/
theorem run_tidy (pid : Int) (service : SubscriberService) (inputs : List JsInput)
    (hsmooth : AllSteps (step pid) (Smooth pid) (create service) inputs) :
    Always (step pid) Tidy (create service) inputs := by
  have hstep : ∀ (s : JsRegisterModule) i, s.Backed ∧ s.Tidy → s.Smooth pid i →
      (s.step pid i).Backed ∧ (s.step pid i).Tidy := by
    rintro s i ⟨h, htidy⟩ hsmooth
    refine ⟨step_backed pid s i h, ?_⟩
    cases i with
    | on call args => exact jsOn_tidy h htidy pid call hsmooth
    | off call args => exact jsOff_tidy h htidy hsmooth
    | connected calls => exact htidy
    | service i => exact htidy
  have hcreate : (create service).Tidy := by simp [Tidy, create]
  exact (always_of_allSteps hstep inputs _ ⟨create_backed service, hcreate⟩ hsmooth).mono
    fun s h => h.2

theorem run_tidy_onOff :
    let option : JsValue := .object
      [("preKeys", .array [.number 2072]), ("finalKey", .number 2017),
        ("isFinalKeyDown", .boolean true), ("finalKeyDownDuration", .number 0)]
    let call : SubscribeCall := ⟨true, fun _ _ => true, true, true⟩
    let inputs : List JsInput :=
      [.service (.addSession ⟨0, 10, 7⟩), .on call [.string "key", option, .function 1],
        .off call [.string "key", option, .function 1]]
    ((create .create).step 7 inputs[0] |>.step 7 inputs[1]).callbacks.infos.length = 1 ∧
      Always (step 7) Tidy (create .create) inputs := by
  refine ⟨by decide +kernel, run_tidy 7 .create _ ⟨trivial, Nat.le_refl 3, fun _ => ⟨rfl, ?_⟩,
    trivial⟩⟩
  decide +kernel

end JsRegisterModule

end FtMmi.InputConsumer
