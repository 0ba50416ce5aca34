/-
FtMmi.KeyCommand.AbilityLaunchConfig — the file with the shortcuts and the
key sequences (`ability_launch_config.json`), from the value that cJSON makes
of its text. How the text is read is left out, and with it that `ReadJsonFile`
takes no file of more than 0x5000 bytes: a file is its value here.

A getter gives nothing where the one of the source returns false: what it
has written by then is thrown away with the entry. `cJSON_IsObject` is
asked all the way down; `getObjectItem` has no answer for another value, so
the question is not repeated here.

* `parseJson_tfae` — what a value can give is exactly what is well formed, and
  that is read back from the value written for it.
-/
import FtMmi.Lib.OrderedKeys
import FtMmi.KeyCommand.KeyCommandHandler

namespace FtMmi.KeyCommand

open FtMmi.Lib
open FtMmi.Event

/-! ## Values -/

/-- `cJSON`. Of a number it keeps what fits into 32 bits. -/
inductive CJson where
  | null
  | bool (value : Bool)
  | number (valueint : Int32)
  | string (valuestring : String)
  | array (items : List CJson)
  | object (members : List (String × CJson))

namespace CJson

/-- `cJSON_GetObjectItemCaseSensitive`: the first member of the name. -/
def getObjectItem : CJson → String → Option CJson
  | .object members, name => members.lookup name
  | _, _ => none

def getArray (json : CJson) (name : String) : Option (List CJson) :=
  match json.getObjectItem name with
  | some (.array items) => some items
  | _ => none

def getString (json : CJson) (name : String) : Option String :=
  match json.getObjectItem name with
  | some (.string valuestring) => some valuestring
  | _ => none

def getNumber (json : CJson) (name : String) : Option Int32 :=
  match json.getObjectItem name with
  | some (.number valueint) => some valueint
  | _ => none

/-- A number that is accepted. -/
def getNumberThat (accepts : Int32 → Bool) (json : CJson) (name : String) : Option Int32 :=
  (json.getNumber name).filter accepts

def asString : CJson → Option String
  | .string valuestring => some valuestring
  | _ => none

end CJson

/-! ## Abilities -/

/-- `GetKeyVal` -/
def getKeyVal (json : CJson) (key : String) : String := (json.getString key).getD ""

def getEntities (jsonAbility : CJson) : Option (List String) := do
  let entities ← jsonAbility.getArray "entities"
  entities.mapM CJson.asString

/-- `std::map::emplace` -/
def emplaceParam (params : List (String × String)) (param : CJson) :
    Option (List (String × String)) := do
  let key ← param.getString "key"
  let value ← param.getString "value"
  return emplaceBy Prod.fst params (key, value)

def getParams (jsonAbility : CJson) : Option (List (String × String)) := do
  let params ← jsonAbility.getArray "params"
  params.foldlM emplaceParam []

def packageAbility (jsonAbility : CJson) : Option Ability := do
  let entities ← getEntities jsonAbility
  let params ← getParams jsonAbility
  return {
    bundleName := getKeyVal jsonAbility "bundleName"
    abilityName := getKeyVal jsonAbility "abilityName"
    action := getKeyVal jsonAbility "action"
    type := getKeyVal jsonAbility "type"
    deviceId := getKeyVal jsonAbility "deviceId"
    uri := getKeyVal jsonAbility "uri"
    entities
    params }

/-! ## Shortcuts -/

def maxPreKeysNum : Nat := 4

/-- `std::set::emplace`, of a key code that is not there yet. -/
def emplacePreKey (preKeys : Finset Int32) : CJson → Option (Finset Int32)
  | .number valueint =>
      if valueint < 0 ∨ valueint ∈ preKeys then none else some (insert valueint preKeys)
  | _ => none

def getPreKeys (jsonData : CJson) : Option (Finset Int32) := do
  let preKey ← jsonData.getArray "preKey"
  if maxPreKeysNum < preKey.length then none
  else preKey.foldlM emplacePreKey ∅

def getTrigger (jsonData : CJson) : Option Int32 := do
  let trigger ← jsonData.getString "trigger"
  if trigger = "key_up" then some keyActionUp
  else if trigger = "key_down" then some keyActionDown
  else none

def getKeyDownDuration (jsonData : CJson) : Option Int32 :=
  jsonData.getNumberThat (fun valueint => 0 ≤ valueint) "keyDownDuration"

def getKeyFinalKey (jsonData : CJson) : Option Int32 := jsonData.getNumber "finalKey"

def convertToShortcutKey (jsonData : CJson) : Option ShortcutKey := do
  let preKeys ← getPreKeys jsonData
  let finalKey ← getKeyFinalKey jsonData
  let triggerType ← getTrigger jsonData
  let keyDownDuration ← getKeyDownDuration jsonData
  let ability ← jsonData.getObjectItem "ability"
  let ability ← packageAbility ability
  return { preKeys, finalKey, triggerType, keyDownDuration, ability }

/-! ## Sequences -/

def getKeyCode (jsonData : CJson) : Option Int32 :=
  jsonData.getNumberThat (fun valueint => 0 ≤ valueint) "keyCode"

def getKeyAction (jsonData : CJson) : Option Int32 :=
  jsonData.getNumberThat (fun valueint => valueint = keyActionDown ∨ valueint = keyActionUp)
    "keyAction"

/-- A time of milliseconds, in microseconds. -/
def getTime (jsonData : CJson) (name : String) : Option Int :=
  (jsonData.getNumberThat (fun valueint => 0 ≤ valueint ∧ valueint.toInt ≤ maxDelayTime) name).map
    fun valueint => valueint.toInt * secondsSystem

def getDelay (jsonData : CJson) : Option Int := getTime jsonData "delay"

def getAlibityStartDelay (jsonData : CJson) : Option Int := getTime jsonData "abilityStartDelay"

def packageSequenceKey (sequenceKeysJson : CJson) : Option SequenceKey := do
  let keyCode ← getKeyCode sequenceKeysJson
  let keyAction ← getKeyAction sequenceKeysJson
  let delay ← getDelay sequenceKeysJson
  return { keyCode, keyAction, delay }

def getSequenceKeys (jsonData : CJson) : Option (List SequenceKey) := do
  let sequenceKeys ← jsonData.getArray "sequenceKeys"
  if maxSequenceKeysNum < sequenceKeys.length then none
  else sequenceKeys.mapM packageSequenceKey

def convertToKeySequence (jsonData : CJson) : Option Sequence := do
  let sequenceKeys ← getSequenceKeys jsonData
  if !isSequenceKeysValid { sequenceKeys } then none
  else
    let abilityStartDelay ← getAlibityStartDelay jsonData
    let ability ← jsonData.getObjectItem "ability"
    let ability ← packageAbility ability
    return { sequenceKeys, abilityStartDelay, ability }

/-! ## The file -/

/-- `ParseShortcutKeys`. An entry that is refused is passed over. -/
def parseShortkeys (json : CJson) (shortcutKeyMap : ShortcutMap) : Bool × ShortcutMap :=
  match json.getArray "Shortkeys" with
  | none => (false, shortcutKeyMap)
  | some shortkeys =>
      (true, (shortkeys.filterMap convertToShortcutKey).foldl ShortcutMap.emplace shortcutKeyMap)

def parseSequences (json : CJson) (sequenceVec : List Sequence) : Bool × List Sequence :=
  match json.getArray "Sequences" with
  | none => (false, sequenceVec)
  | some sequences => (true, sequenceVec ++ sequences.filterMap convertToKeySequence)

/-- What is parsed of a file: if there is enough of it, and what the handler has then. -/
structure Parsed where
  isParsed : Bool
  shortcutKeys : ShortcutMap
  sequences : List Sequence

/-- `ParseJson`, of what `cJSON_Parse` gives for the text of the file. A file that cannot be
read gives nothing. -/
def parseJson (json : Option CJson) (shortcutKeys : ShortcutMap) (sequences : List Sequence) :
    Parsed :=
  match json with
  | some (.object members) =>
      let short := parseShortkeys (.object members) shortcutKeys
      let seqs := parseSequences (.object members) sequences
      ⟨short.1 || seqs.1, short.2, seqs.2⟩
  | _ => ⟨false, shortcutKeys, sequences⟩

/-! ## What is well formed -/

structure Ability.WellFormed (ability : Ability) : Prop where
  params : (ability.params.map Prod.fst).Pairwise (· < ·)

structure ShortcutKey.WellFormed (key : ShortcutKey) : Prop where
  preKeys_card : key.preKeys.card ≤ maxPreKeysNum
  preKeys : ∀ preKey ∈ key.preKeys, 0 ≤ preKey
  triggerType : key.triggerType = keyActionUp ∨ key.triggerType = keyActionDown
  keyDownDuration : 0 ≤ key.keyDownDuration
  timerId : key.timerId = -1
  ability : key.ability.WellFormed

/-- A time that the file can name. -/
def IsTime (time : Int) : Prop :=
  ∃ valueint : Int32, 0 ≤ valueint ∧ valueint.toInt ≤ maxDelayTime ∧
    time = valueint.toInt * secondsSystem

structure SequenceKey.WellFormed (key : SequenceKey) : Prop where
  keyCode : 0 ≤ key.keyCode
  keyAction : key.keyAction = keyActionDown ∨ key.keyAction = keyActionUp
  actionTime : key.actionTime = 0
  delay : IsTime key.delay

structure Sequence.WellFormed (sequence : Sequence) : Prop where
  keys : ∀ key ∈ sequence.sequenceKeys, key.WellFormed
  valid : isSequenceKeysValid sequence = true
  abilityStartDelay : IsTime sequence.abilityStartDelay
  timerId : sequence.timerId = -1
  ability : sequence.ability.WellFormed

/-- A configuration that the value of a file can hold. -/
structure WellFormedConfig (shortcutKeys : ShortcutMap) (sequences : List Sequence) : Prop where
  shortcuts : ∀ key ∈ shortcutKeys.items, key.WellFormed
  inOrder : (shortcutKeys.items.map generateKey).Pairwise (· < ·)
  keySequences : ∀ sequence ∈ sequences, sequence.WellFormed

/-! ## A value for a configuration -/

def Ability.toJson (ability : Ability) : CJson :=
  .object [
    ("bundleName", .string ability.bundleName),
    ("abilityName", .string ability.abilityName),
    ("action", .string ability.action),
    ("type", .string ability.type),
    ("deviceId", .string ability.deviceId),
    ("uri", .string ability.uri),
    ("entities", .array (ability.entities.map .string)),
    ("params", .array (ability.params.map fun param =>
      .object [("key", .string param.1), ("value", .string param.2)]))]

/-- The keys, the greatest code first. -/
def preKeyList (preKeys : Finset Int32) : List Int32 :=
  ((preKeys.image Int32.toInt).sort (· ≥ ·)).map Int32.ofInt

def ShortcutKey.toJson (key : ShortcutKey) : CJson :=
  .object [
    ("preKey", .array ((preKeyList key.preKeys).map .number)),
    ("finalKey", .number key.finalKey),
    ("trigger", .string (if key.triggerType = keyActionUp then "key_up" else "key_down")),
    ("keyDownDuration", .number key.keyDownDuration),
    ("ability", key.ability.toJson)]

def timeToJson (time : Int) : CJson := .number (Int32.ofInt (time / secondsSystem))

def SequenceKey.toJson (key : SequenceKey) : CJson :=
  .object [
    ("keyCode", .number key.keyCode),
    ("keyAction", .number key.keyAction),
    ("delay", timeToJson key.delay)]

def Sequence.toJson (sequence : Sequence) : CJson :=
  .object [
    ("sequenceKeys", .array (sequence.sequenceKeys.map SequenceKey.toJson)),
    ("abilityStartDelay", timeToJson sequence.abilityStartDelay),
    ("ability", sequence.ability.toJson)]

def fileOf (shortcutKeys : ShortcutMap) (sequences : List Sequence) : CJson :=
  .object [
    ("Shortkeys", .array (shortcutKeys.items.map ShortcutKey.toJson)),
    ("Sequences", .array (sequences.map Sequence.toJson))]

/-! ## Loops over an array -/

theorem mapM_map {α β : Type} {read : α → Option β} {write : β → α} {items : List β}
    (h : ∀ item ∈ items, read (write item) = some item) :
    (items.map write).mapM read = some items := by
  induction items with
  | nil => rfl
  | cons item items ih =>
    rw [List.map_cons, List.mapM_cons, h item List.mem_cons_self,
      ih fun other hother => h other (List.mem_cons_of_mem _ hother)]
    rfl

theorem mem_of_mapM {α β : Type} {read : α → Option β} {items : List α} {out : List β}
    (h : items.mapM read = some out) : ∀ b ∈ out, ∃ item ∈ items, read item = some b := by
  induction items generalizing out with
  | nil =>
    simp only [List.mapM_nil] at h
    cases h
    simp
  | cons item items ih =>
    simp only [List.mapM_cons, Option.bind_eq_bind, Option.bind_eq_some_iff] at h
    obtain ⟨b, hb, rest, hrest, heq⟩ := h
    cases heq
    intro c hc
    rcases List.mem_cons.mp hc with rfl | hc
    · exact ⟨item, List.mem_cons_self, hb⟩
    · obtain ⟨other, hother, hread⟩ := ih hrest c hc
      exact ⟨other, List.mem_cons_of_mem _ hother, hread⟩

/-- What one round keeps, the loop keeps; `n` rounds are over. -/
theorem foldlM_keeps {α β : Type} {P : ℕ → β → Prop} {step : β → α → Option β}
    (hstep : ∀ n b a b', P n b → step b a = some b' → P (n + 1) b') {items : List α} {n : ℕ}
    {b b' : β} (hb : P n b) (h : items.foldlM step b = some b') : P (n + items.length) b' := by
  induction items generalizing n b with
  | nil =>
    cases h
    exact hb
  | cons a items ih =>
    simp only [List.foldlM_cons, Option.bind_eq_bind, Option.bind_eq_some_iff] at h
    obtain ⟨c, hc, hrest⟩ := h
    have hlength : n + (a :: items).length = n + 1 + items.length := by
      simp only [List.length_cons]
      omega
    rw [hlength]
    exact ih (hstep n b a c hb hc) hrest

/-! ## What is accepted is well formed -/

theorem getNumberThat_some {accepts : Int32 → Bool} {json : CJson} {name : String} {v : Int32}
    (h : json.getNumberThat accepts name = some v) : accepts v = true :=
  (Option.filter_eq_some_iff.mp h).2

theorem getTime_some {json : CJson} {name : String} {time : Int}
    (h : getTime json name = some time) : IsTime time := by
  obtain ⟨v, hv, rfl⟩ := Option.map_eq_some_iff.mp h
  obtain ⟨hnonneg, hmax⟩ := of_decide_eq_true (getNumberThat_some hv)
  exact ⟨v, hnonneg, hmax, rfl⟩

theorem packageAbility_some {json : CJson} {ability : Ability}
    (h : packageAbility json = some ability) : ability.WellFormed := by
  simp only [packageAbility, Option.bind_eq_bind, Option.bind_eq_some_iff] at h
  obtain ⟨entities, _, params, hparams, heq⟩ := h
  cases heq
  simp only [getParams, Option.bind_eq_bind, Option.bind_eq_some_iff] at hparams
  obtain ⟨items, _, hparams⟩ := hparams
  have hsorted := foldlM_keeps (n := 0)
    (P := fun _ params => (params.map Prod.fst).Pairwise (· < ·)) ?_ .nil hparams
  · exact ⟨hsorted⟩
  · intro _ params param params' hsorted hparam
    simp only [emplaceParam, Option.bind_eq_bind, Option.bind_eq_some_iff] at hparam
    obtain ⟨key, _, value, _, heq⟩ := hparam
    cases heq
    exact emplaceBy_sorted hsorted _

theorem getPreKeys_some {json : CJson} {preKeys : Finset Int32}
    (h : getPreKeys json = some preKeys) :
    preKeys.card ≤ maxPreKeysNum ∧ ∀ preKey ∈ preKeys, 0 ≤ preKey := by
  simp only [getPreKeys, Option.bind_eq_bind, Option.bind_eq_some_iff] at h
  obtain ⟨items, _, h⟩ := h
  split at h
  · cases h
  · rename_i hlength
    have hkept := foldlM_keeps (n := 0) (P := fun n (preKeys : Finset Int32) =>
      preKeys.card = n ∧ ∀ preKey ∈ preKeys, 0 ≤ preKey) ?_ ⟨Finset.card_empty, by simp⟩ h
    · rw [hkept.1]
      exact ⟨by omega, hkept.2⟩
    · intro n preKeys item preKeys' hold hitem
      cases item with
      | number valueint =>
        simp only [emplacePreKey] at hitem
        split at hitem
        · cases hitem
        · rename_i hnew
          cases hitem
          obtain ⟨hnonneg, hfresh⟩ := not_or.mp hnew
          refine ⟨by rw [Finset.card_insert_of_notMem hfresh, hold.1], fun preKey hmem => ?_⟩
          rcases Finset.mem_insert.mp hmem with rfl | hmem
          · exact Int32.not_lt.mp hnonneg
          · exact hold.2 preKey hmem
      | _ => cases hitem

theorem convertToShortcutKey_some {json : CJson} {key : ShortcutKey}
    (h : convertToShortcutKey json = some key) : key.WellFormed := by
  simp only [convertToShortcutKey, Option.bind_eq_bind, Option.bind_eq_some_iff] at h
  obtain ⟨preKeys, hpreKeys, finalKey, _, triggerType, htrigger, keyDownDuration, hduration,
    abilityJson, _, ability, hability, heq⟩ := h
  cases heq
  obtain ⟨hcard, hnonneg⟩ := getPreKeys_some hpreKeys
  have htriggerType : triggerType = keyActionUp ∨ triggerType = keyActionDown := by
    simp only [getTrigger, Option.bind_eq_bind, Option.bind_eq_some_iff] at htrigger
    obtain ⟨trigger, _, h⟩ := htrigger
    split at h
    · exact .inl (Option.some.inj h).symm
    · split at h
      · exact .inr (Option.some.inj h).symm
      · cases h
  exact ⟨hcard, hnonneg, htriggerType, of_decide_eq_true (getNumberThat_some hduration), rfl,
    packageAbility_some hability⟩

theorem packageSequenceKey_some {json : CJson} {key : SequenceKey}
    (h : packageSequenceKey json = some key) : key.WellFormed := by
  simp only [packageSequenceKey, Option.bind_eq_bind, Option.bind_eq_some_iff] at h
  obtain ⟨keyCode, hcode, keyAction, haction, delay, hdelay, heq⟩ := h
  cases heq
  exact ⟨of_decide_eq_true (getNumberThat_some hcode),
    of_decide_eq_true (getNumberThat_some haction), rfl, getTime_some hdelay⟩

theorem convertToKeySequence_some {json : CJson} {sequence : Sequence}
    (h : convertToKeySequence json = some sequence) : sequence.WellFormed := by
  simp only [convertToKeySequence, Option.bind_eq_bind, Option.bind_eq_some_iff] at h
  obtain ⟨sequenceKeys, hkeys, h⟩ := h
  split at h
  · cases h
  · rename_i hvalid
    obtain ⟨abilityStartDelay, hdelay, abilityJson, _, ability, hability, heq⟩ := by
      simpa only [Option.bind_eq_bind, Option.bind_eq_some_iff] using h
    cases heq
    have hwell : ∀ key ∈ sequenceKeys, key.WellFormed := by
      simp only [getSequenceKeys, Option.bind_eq_bind, Option.bind_eq_some_iff] at hkeys
      obtain ⟨items, _, hkeys⟩ := hkeys
      split at hkeys
      · cases hkeys
      · intro key hkey
        obtain ⟨item, _, hitem⟩ := mem_of_mapM hkeys key hkey
        exact packageSequenceKey_some hitem
    have hvalid : isSequenceKeysValid { sequenceKeys } = true := by simpa using hvalid
    exact ⟨hwell, hvalid, getTime_some hdelay, rfl, packageAbility_some hability⟩

/-! ## What is well formed is read back -/

theorem packageAbility_toJson {ability : Ability} (h : ability.WellFormed) :
    packageAbility ability.toJson = some ability := by
  have hentities : (ability.entities.map CJson.string).mapM CJson.asString
      = some ability.entities :=
    mapM_map fun _ _ => rfl
  have hparam : ∀ (params : List (String × String)) (more : List (String × String)),
      List.foldlM emplaceParam params
        (more.map fun param => CJson.object [("key", .string param.1), ("value", .string param.2)])
          = some (more.foldl (emplaceBy Prod.fst) params) := by
    intro params more
    induction more generalizing params with
    | nil => rfl
    | cons param more ih =>
      rw [List.map_cons, List.foldlM_cons, List.foldl_cons, ← ih]
      rfl
  have hparams := hparam [] ability.params
  rw [foldl_emplaceBy (by simpa using h.params), List.nil_append] at hparams
  simp [packageAbility, getEntities, getParams, getKeyVal, Ability.toJson, CJson.getArray,
    CJson.getString, CJson.getObjectItem, List.lookup, hentities, hparams]

theorem foldlM_emplacePreKey (preKeys : Finset Int32) {items : List Int32} (h : items.Nodup)
    (hnew : ∀ item ∈ items, item ∉ preKeys) (hnonneg : ∀ item ∈ items, 0 ≤ item) :
    (items.map CJson.number).foldlM emplacePreKey preKeys = some (preKeys ∪ items.toFinset) := by
  induction items generalizing preKeys with
  | nil => simp
  | cons item items ih =>
    obtain ⟨hitem, hitems⟩ := List.nodup_cons.mp h
    obtain ⟨hfirst, hnonneg⟩ := List.forall_mem_cons.mp hnonneg
    obtain ⟨hfresh, hnew⟩ := List.forall_mem_cons.mp hnew
    have hstep : emplacePreKey preKeys (.number item) = some (insert item preKeys) := by
      rw [emplacePreKey, if_neg (not_or.mpr ⟨Int32.not_lt.mpr hfirst, hfresh⟩)]
    have hrest : ∀ other ∈ items, other ∉ insert item preKeys := by
      intro other hother hmem
      rcases Finset.mem_insert.mp hmem with rfl | hmem
      · exact hitem hother
      · exact hnew other hother hmem
    rw [List.map_cons, List.foldlM_cons, hstep]
    refine (ih _ hitems hrest hnonneg).trans ?_
    rw [List.toFinset_cons, Finset.insert_union, Finset.union_insert]

theorem preKeyList_nodup (preKeys : Finset Int32) : (preKeyList preKeys).Nodup := by
  refine List.Nodup.map_on ?_ (Finset.sort_nodup _ _)
  intro a ha b hb heq
  obtain ⟨x, _, rfl⟩ := Finset.mem_image.mp ((Finset.mem_sort _).mp ha)
  obtain ⟨y, _, rfl⟩ := Finset.mem_image.mp ((Finset.mem_sort _).mp hb)
  rw [Int32.ofInt_toInt, Int32.ofInt_toInt] at heq
  rw [heq]

theorem mem_preKeyList {preKeys : Finset Int32} {preKey : Int32} :
    preKey ∈ preKeyList preKeys ↔ preKey ∈ preKeys := by
  simp [preKeyList, Int32.ofInt_toInt]

theorem getPreKeys_toJson {key : ShortcutKey} (h : key.WellFormed) :
    getPreKeys key.toJson = some key.preKeys := by
  have hset : (preKeyList key.preKeys).toFinset = key.preKeys := by
    ext preKey
    rw [List.mem_toFinset, mem_preKeyList]
  have hlength : (preKeyList key.preKeys).length ≤ maxPreKeysNum := by
    rw [← List.toFinset_card_of_nodup (preKeyList_nodup _), hset]
    exact h.preKeys_card
  have hloop := foldlM_emplacePreKey ∅ (preKeyList_nodup key.preKeys) (by simp)
    fun item hitem => h.preKeys item (mem_preKeyList.mp hitem)
  rw [Finset.empty_union, hset] at hloop
  simp [getPreKeys, ShortcutKey.toJson, CJson.getArray, CJson.getObjectItem, List.lookup, hloop,
    not_lt.mpr hlength]

theorem convertToShortcutKey_toJson {key : ShortcutKey} (h : key.WellFormed) :
    convertToShortcutKey key.toJson = some key := by
  have htrigger : getTrigger key.toJson = some key.triggerType := by
    rcases h.triggerType with htype | htype <;>
      simp [getTrigger, ShortcutKey.toJson, CJson.getString, CJson.getObjectItem, List.lookup,
        htype, keyActionUp, keyActionDown]
  have hduration : getKeyDownDuration key.toJson = some key.keyDownDuration := by
    simp [getKeyDownDuration, CJson.getNumberThat, ShortcutKey.toJson, CJson.getNumber,
      CJson.getObjectItem, List.lookup, h.keyDownDuration]
  have hfinal : getKeyFinalKey key.toJson = some key.finalKey := by
    simp [getKeyFinalKey, ShortcutKey.toJson, CJson.getNumber, CJson.getObjectItem, List.lookup]
  have hability : key.toJson.getObjectItem "ability" = some key.ability.toJson := by
    simp [ShortcutKey.toJson, CJson.getObjectItem, List.lookup]
  have htimer : key.timerId = -1 := h.timerId
  simp only [convertToShortcutKey, getPreKeys_toJson h, hfinal, htrigger, hduration, hability,
    packageAbility_toJson h.ability, Option.bind_eq_bind, Option.bind_some]
  rw [← htimer]
  rfl

theorem getTime_toJson {json : CJson} {name : String} {time : Int} (htime : IsTime time)
    (h : json.getObjectItem name = some (timeToJson time)) : getTime json name = some time := by
  obtain ⟨v, hnonneg, hmax, rfl⟩ := htime
  have hdiv : v.toInt * secondsSystem / secondsSystem = v.toInt := by
    simp [secondsSystem]
  simp [getTime, CJson.getNumberThat, CJson.getNumber, h, timeToJson, hdiv, Int32.ofInt_toInt,
    hnonneg, hmax]

theorem packageSequenceKey_toJson {key : SequenceKey} (h : key.WellFormed) :
    packageSequenceKey key.toJson = some key := by
  have hcode : getKeyCode key.toJson = some key.keyCode := by
    simp [getKeyCode, CJson.getNumberThat, SequenceKey.toJson, CJson.getNumber, CJson.getObjectItem,
      List.lookup, h.keyCode]
  have haction : getKeyAction key.toJson = some key.keyAction := by
    simp [getKeyAction, CJson.getNumberThat, SequenceKey.toJson, CJson.getNumber,
      CJson.getObjectItem, List.lookup, h.keyAction]
  have hdelay : getDelay key.toJson = some key.delay := by
    refine getTime_toJson h.delay ?_
    simp [SequenceKey.toJson, CJson.getObjectItem, List.lookup]
  have htime : key.actionTime = 0 := h.actionTime
  simp only [packageSequenceKey, hcode, haction, hdelay, Option.bind_eq_bind, Option.bind_some]
  rw [← htime]
  rfl

theorem length_le_of_valid {sequence : Sequence} (h : isSequenceKeysValid sequence = true) :
    sequence.sequenceKeys.length ≤ maxSequenceKeysNum := by
  simp only [isSequenceKeysValid] at h
  split at h
  · cases h
  · split at h
    · cases h
    · omega

theorem convertToKeySequence_toJson {sequence : Sequence} (h : sequence.WellFormed) :
    convertToKeySequence sequence.toJson = some sequence := by
  have hloop : (sequence.sequenceKeys.map SequenceKey.toJson).mapM packageSequenceKey
      = some sequence.sequenceKeys :=
    mapM_map fun key hkey => packageSequenceKey_toJson (h.keys key hkey)
  have hkeys : getSequenceKeys sequence.toJson = some sequence.sequenceKeys := by
    simp [getSequenceKeys, Sequence.toJson, CJson.getArray, CJson.getObjectItem, List.lookup, hloop,
      not_lt.mpr (length_le_of_valid h.valid)]
  have hvalid : isSequenceKeysValid { sequenceKeys := sequence.sequenceKeys } = true := h.valid
  have hdelay : getAlibityStartDelay sequence.toJson = some sequence.abilityStartDelay := by
    refine getTime_toJson h.abilityStartDelay ?_
    simp [Sequence.toJson, CJson.getObjectItem, List.lookup]
  have hability : sequence.toJson.getObjectItem "ability" = some sequence.ability.toJson := by
    simp [Sequence.toJson, CJson.getObjectItem, List.lookup]
  have htimer : sequence.timerId = -1 := h.timerId
  simp only [convertToKeySequence, hkeys, hvalid, hdelay, hability,
    packageAbility_toJson h.ability, Option.bind_eq_bind, Option.bind_some, Bool.not_true,
    Bool.false_eq_true, if_false]
  rw [← htimer]
  rfl

/-! ## A whole file -/

theorem filterMap_map {α β : Type} {read : α → Option β} {write : β → α} {items : List β}
    (h : ∀ item ∈ items, read (write item) = some item) :
    (items.map write).filterMap read = items := by
  induction items with
  | nil => rfl
  | cons item items ih =>
    rw [List.map_cons, List.filterMap_cons_some (h item List.mem_cons_self),
      ih fun other hother => h other (List.mem_cons_of_mem _ hother)]

theorem emplace_items (m : ShortcutMap) (key : ShortcutKey) :
    (m.emplace key).items = emplaceBy generateKey m.items key := by
  unfold ShortcutMap.emplace emplaceBy
  split <;> rfl

theorem foldl_emplace_items (m : ShortcutMap) (keys : List ShortcutKey) :
    (keys.foldl ShortcutMap.emplace m).items = keys.foldl (emplaceBy generateKey) m.items := by
  induction keys generalizing m with
  | nil => rfl
  | cons key keys ih => rw [List.foldl_cons, List.foldl_cons, ih, emplace_items]

theorem emplaced_keeps {P : ShortcutKey → Prop} {keys : List ShortcutKey} {m : ShortcutMap}
    (hkeys : ∀ key ∈ keys, P key) (h : ∀ key ∈ m.items, P key)
    (hsorted : (m.items.map generateKey).Pairwise (· < ·)) :
    (∀ key ∈ (keys.foldl ShortcutMap.emplace m).items, P key) ∧
      ((keys.foldl ShortcutMap.emplace m).items.map generateKey).Pairwise (· < ·) := by
  induction keys generalizing m with
  | nil => exact ⟨h, hsorted⟩
  | cons key keys ih =>
    obtain ⟨hkey, hkeys⟩ := List.forall_mem_cons.mp hkeys
    refine ih hkeys (fun other hother => ?_) ?_
    · rw [emplace_items] at hother
      rcases mem_of_mem_emplaceBy hother with rfl | hold
      · exact hkey
      · exact h other hold
    · rw [emplace_items]
      exact emplaceBy_sorted hsorted key

/-- A map in order is built again from its own items. -/
theorem parseShortcutKeys_items {m : ShortcutMap}
    (h : (m.items.map generateKey).Pairwise (· < ·)) : parseShortcutKeys m.items = m := by
  have hitems : (parseShortcutKeys m.items).items = m.items := by
    rw [parseShortcutKeys, foldl_emplace_items]
    exact foldl_emplaceBy (by simpa [ShortcutMap.empty] using h)
  generalize parseShortcutKeys m.items = m' at hitems
  cases m
  cases m'
  cases hitems
  rfl

/-- A well-formed configuration is read back from its file. -/
theorem parseJson_fileOf {m : ShortcutMap} {sequences : List Sequence}
    (h : WellFormedConfig m sequences) :
    parseJson (some (fileOf m sequences)) .empty [] = ⟨true, m, sequences⟩ := by
  have hshort : (m.items.map ShortcutKey.toJson).filterMap convertToShortcutKey = m.items :=
    filterMap_map fun key hkey => convertToShortcutKey_toJson (h.shortcuts key hkey)
  have hseqs : (sequences.map Sequence.toJson).filterMap convertToKeySequence = sequences :=
    filterMap_map fun sequence hmem => convertToKeySequence_toJson (h.keySequences sequence hmem)
  have hmap : m.items.foldl ShortcutMap.emplace .empty = m := parseShortcutKeys_items h.inOrder
  simp [parseJson, fileOf, parseShortkeys, parseSequences, CJson.getArray, CJson.getObjectItem,
    List.lookup, hshort, hseqs, hmap]

theorem parseShortkeys_wellFormed (json : CJson) :
    (∀ key ∈ (parseShortkeys json .empty).2.items, key.WellFormed) ∧
      ((parseShortkeys json .empty).2.items.map generateKey).Pairwise (· < ·) := by
  unfold parseShortkeys
  split
  · simp [ShortcutMap.empty]
  · refine emplaced_keeps (fun key hkey => ?_) (by simp [ShortcutMap.empty])
      (by simp [ShortcutMap.empty])
    obtain ⟨_, _, hread⟩ := List.mem_filterMap.mp hkey
    exact convertToShortcutKey_some hread

theorem parseSequences_wellFormed (json : CJson) :
    ∀ sequence ∈ (parseSequences json []).2, sequence.WellFormed := by
  unfold parseSequences
  split
  · simp
  · intro sequence hmem
    obtain ⟨_, _, hread⟩ := List.mem_filterMap.mp (by simpa using hmem)
    exact convertToKeySequence_some hread

/-- What is parsed of any value is well formed. -/
theorem parseJson_wellFormed (json : Option CJson) :
    WellFormedConfig (parseJson json .empty []).shortcutKeys
      (parseJson json .empty []).sequences := by
  unfold parseJson
  split
  · obtain ⟨hshort, hsorted⟩ := parseShortkeys_wellFormed (.object _)
    exact ⟨hshort, hsorted, parseSequences_wellFormed _⟩
  · refine ⟨?_, ?_, ?_⟩ <;> simp [ShortcutMap.empty]

/-- What a value can give is exactly what is well formed, and its own value gives it back. -/
theorem parseJson_tfae (m : ShortcutMap) (sequences : List Sequence) :
    List.TFAE [
      WellFormedConfig m sequences,
      parseJson (some (fileOf m sequences)) .empty [] = ⟨true, m, sequences⟩,
      ∃ json, parseJson json .empty [] = ⟨true, m, sequences⟩] := by
  tfae_have 1 → 2 := parseJson_fileOf
  tfae_have 2 → 3 := fun h => ⟨_, h⟩
  tfae_have 3 → 1 := by
    rintro ⟨json, heq⟩
    have h := parseJson_wellFormed json
    rwa [heq] at h
  tfae_finish

/-- A file that is not enough leaves the handler as it was. -/
theorem parseJson_unparsed {json : Option CJson} {m : ShortcutMap} {sequences : List Sequence}
    (h : (parseJson json m sequences).isParsed = false) :
    parseJson json m sequences = ⟨false, m, sequences⟩ := by
  unfold parseJson at h ⊢
  split at h
  · simp only [Bool.or_eq_false_iff] at h
    obtain ⟨hshort, hseqs⟩ := h
    unfold parseShortkeys at hshort ⊢
    unfold parseSequences at hseqs ⊢
    split at hshort
    · split at hseqs
      · simp_all
      · cases hseqs
    · cases hshort
  · rfl

end FtMmi.KeyCommand
