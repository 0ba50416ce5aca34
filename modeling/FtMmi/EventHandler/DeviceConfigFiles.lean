/-
FtMmi.EventHandler.DeviceConfigFiles — the two configuration files of a
keyboard (`ReadConfigFile` and `ReadProConfigFile` in `util.cpp`).

The first sets the auto-repeat of the keyboard, line by line, the second
is its key table. Either should take exactly the files whose lines are
blank, comments or well-formed items; `configFiles_exact_iff` says for
which files they do.

Both test a number with `IsNum`, which takes any `double`, and convert it
with `stoi`. So what is let through may stop the service with an exception,
or be cut off at the first character that is not a digit. The key table
also refuses a line of blanks.
-/
import FtMmi.EventHandler.KeyAutoRepeat
import FtMmi.EventHandler.KeyMapManager
import FtMmi.Lib.LineReader
import FtMmi.Util.NumberText

namespace FtMmi.EventHandler

open FtMmi.Lib

/-! ## Lines -/

/-- The lines `std::getline` gives. -/
def getLines (content : List UInt8) : List (List UInt8) :=
  let pieces := content.splitOn 10
  if pieces.getLast? = some [] then pieces.dropLast else pieces

def removeSpace (str : List UInt8) : List UInt8 := str.filter fun c => !isSpace c

/-- `'#'` -/
def commentMark : UInt8 := 35

def commentSubscript : Nat := 0

/-- There is a `'#'`, and the first is not at `COMMENT_SUBSCRIPT`. -/
def hasLateComment (line : List UInt8) : Bool :=
  match line.idxOf? commentMark with
  | some pos => pos ≠ commentSubscript
  | none => false

def IsComment (line : List UInt8) : Prop := line.head? = some commentMark

instance (line : List UInt8) : Decidable (IsComment line) :=
  inferInstanceAs (Decidable (line.head? = some commentMark))

theorem hasLateComment_eq_true_iff {line : List UInt8} :
    hasLateComment line = true ↔ commentMark ∈ line ∧ ¬ IsComment line := by
  cases line with
  | nil => simp [hasLateComment]
  | cons c line =>
    by_cases hc : c = commentMark
    · simp [hasLateComment, List.idxOf?_cons, IsComment, hc, commentSubscript]
    · have hne : commentMark ≠ c := fun h => hc h.symm
      cases hrest : line.idxOf? commentMark with
      | none =>
        have hnot := List.idxOf?_eq_none_iff.mp hrest
        simp [hasLateComment, List.idxOf?_cons, IsComment, hc, hne, hrest, hnot]
      | some pos =>
        have hmem : commentMark ∈ line := by
          by_contra hnot
          rw [List.idxOf?_eq_none_iff.mpr hnot] at hrest
          cases hrest
        simp [hasLateComment, List.idxOf?_cons, IsComment, hc, hrest, hmem, commentSubscript]

/-! ## `ReadConfigFile` -/

/-- `DeviceConfig` with the field that auto-repeat does not read. -/
structure KeyboardConfig extends DeviceConfig where
  keyboardType : Int32 := 0

def minIntervalTime : Int32 := 50

def maxIntervalTime : Int32 := 500

def minDelayTime : Int32 := 200

def maxDelayTime : Int32 := 1000

/-- `"Key.autorepeat"` -/
def configItemRepeat : List UInt8 :=
  [75, 101, 121, 46, 97, 117, 116, 111, 114, 101, 112, 101, 97, 116]

/-- `"Key.autorepeat.delaytime"` -/
def configItemDelay : List UInt8 :=
  configItemRepeat ++ [46, 100, 101, 108, 97, 121, 116, 105, 109, 101]

/-- `"Key.autorepeat.intervaltime"` -/
def configItemInterval : List UInt8 :=
  configItemRepeat ++ [46, 105, 110, 116, 101, 114, 118, 97, 108, 116, 105, 109, 101]

/-- `"Key.keyboard.type"` -/
def configItemType : List UInt8 :=
  [75, 101, 121, 46, 107, 101, 121, 98, 111, 97, 114, 100, 46, 116, 121, 112, 101]

def configItemSwitch (configItem value : List UInt8) (devConf : KeyboardConfig) :
    Outcome KeyboardConfig :=
  if configItem = [] ∨ value = [] then .refused devConf
  else if isNum value = false then .refused devConf
  else if configItem = configItemRepeat then
    match stoi value with
    | none => .threw
    | some autoSwitch => .accepted { devConf with autoSwitch }
  else if configItem = configItemDelay then
    match stoi value with
    | none => .threw
    | some delayTime =>
        if delayTime < minDelayTime ∨ delayTime > maxDelayTime then
          .refused { devConf with delayTime }
        else .accepted { devConf with delayTime }
  else if configItem = configItemInterval then
    match stoi value with
    | none => .threw
    | some intervalTime =>
        if intervalTime < minIntervalTime ∨ intervalTime > maxIntervalTime then
          .refused { devConf with intervalTime }
        else .accepted { devConf with intervalTime }
  else if configItem = configItemType then
    match stoi value with
    | none => .threw
    | some keyboardType => .accepted { devConf with keyboardType }
  else .accepted devConf

/-- `'='` -/
def equalSign : UInt8 := 61

/-- One turn of the loop of `ReadConfigFile`. An `'='` that is the last
character or not there is an error. -/
def readConfigLine (devConf : KeyboardConfig) (tmp : List UInt8) : Outcome KeyboardConfig :=
  let tmp := removeSpace tmp
  if hasLateComment tmp then .refused devConf
  else if tmp = [] ∨ IsComment tmp then .accepted devConf
  else
    match tmp.dropWhile (· ≠ equalSign) with
    | [] => .refused devConf
    | [_] => .refused devConf
    | _ :: value => configItemSwitch (tmp.takeWhile (· ≠ equalSign)) value devConf

/-- `ReadConfigFile` of a file that can be opened; there is no result when an
exception is thrown. -/
def readConfigFile (content : List UInt8) (devConf : KeyboardConfig) :
    Option (Int × KeyboardConfig) :=
  match readLines readConfigLine devConf (getLines content) with
  | .threw => none
  | .refused devConf => some (retErr, devConf)
  | .accepted devConf => some (retOk, devConf)

/-! ## `ReadProConfigFile` -/

/-- `stream >> field`: what is up to the next space. -/
def readField (stream : List UInt8) : List UInt8 × List UInt8 :=
  let stream := stream.dropWhile isSpace
  (stream.takeWhile fun c => !isSpace c, stream.dropWhile fun c => !isSpace c)

/-- One turn of the loop of `ReadProConfigFile`. -/
def readKeyLine (tmpConfigKey : KeyTable) (strLine : List UInt8) : Outcome KeyTable :=
  if hasLateComment strLine then .refused tmpConfigKey
  else if strLine ≠ [] ∧ ¬ IsComment strLine then
    let (keyElement0, stream) := readField strLine
    let (keyElement1, stream) := readField stream
    let (keyElement2, stream) := readField stream
    let (keyElement3, _) := readField stream
    if keyElement0 = [] ∨ keyElement1 = [] ∨ keyElement2 = [] ∨ keyElement3 = [] then
      .refused tmpConfigKey
    else if isNum keyElement1 = false ∨ isNum keyElement2 = false then .refused tmpConfigKey
    else
      match stoi keyElement1 with
      | none => .threw
      | some nativeKeyValue =>
          match stoi keyElement2 with
          | none => .threw
          | some sysKeyValue => .accepted (tmpConfigKey.insertIfNew nativeKeyValue sysKeyValue)
  else .accepted tmpConfigKey

/-- `ReadProConfigFile` of a file that can be opened; there is no result when
an exception is thrown. -/
def readProConfigFile (content : List UInt8) (deviceId : Int32)
    (configKey : Std.TreeMap Int32 KeyTable) : Option (Std.TreeMap Int32 KeyTable) :=
  match readLines readKeyLine ∅ (getLines content) with
  | .threw => none
  | .refused _ => some configKey
  | .accepted tmpConfigKey =>
      some (if deviceId ∈ configKey then configKey else configKey.insert deviceId tmpConfigKey)

/-! ## Items of a configuration -/

/-- `name=value`, with both parts non-empty. -/
structure IsItem (text name value : List UInt8) : Prop where
  eq : text = name ++ equalSign :: value
  first : equalSign ∉ name
  name : name ≠ []
  value : value ≠ []
  noComment : commentMark ∉ text

def IsKnown (name : List UInt8) : Prop :=
  name = configItemRepeat ∨ name = configItemDelay ∨ name = configItemInterval ∨
    name = configItemType

/-- The range of an item, if it has one. -/
structure InRange (name : List UInt8) (n : Int) : Prop where
  delay : name = configItemDelay → minDelayTime.toInt ≤ n ∧ n ≤ maxDelayTime.toInt
  interval : name = configItemInterval → minIntervalTime.toInt ≤ n ∧ n ≤ maxIntervalTime.toInt

namespace ConfigLine

/-- A line is read without its spaces. -/
def Skipped (line : List UInt8) : Prop := removeSpace line = [] ∨ IsComment (removeSpace line)

/-- What a line should be. -/
def WellFormed (line : List UInt8) : Prop :=
  Skipped line ∨ ∃ name value, IsItem (removeSpace line) name value ∧ IsInt32 value ∧
    InRange name (intValue value (dropSign value))

/-- What a line has to be. -/
def Accepts (line : List UInt8) : Prop :=
  Skipped line ∨ ∃ name value, IsItem (removeSpace line) name value ∧ isNum value = true ∧
    (IsKnown name → ∃ n, stoi value = some n ∧ InRange name n.toInt)

/-- A number that `stoi` does not convert, for an item that is converted. -/
def Throws (line : List UInt8) : Prop :=
  ∃ name value, IsItem (removeSpace line) name value ∧ isNum value = true ∧ IsKnown name ∧
    stoi value = none

/-- A number that is not an integer of 32 bits. -/
def Loose (line : List UInt8) : Prop :=
  ∃ name value, IsItem (removeSpace line) name value ∧ isNum value = true ∧ ¬ IsInt32 value

end ConfigLine

theorem IsItem.takeWhile {text name value : List UInt8} (h : IsItem text name value) :
    text.takeWhile (· ≠ equalSign) = name := by
  have hname : ∀ c ∈ name, decide (c ≠ equalSign) = true := by
    intro c hc
    exact decide_eq_true fun heq => h.first (heq ▸ hc)
  rw [h.eq, List.takeWhile_append_of_pos hname, List.takeWhile_cons_of_neg (by simp),
    List.append_nil]

theorem IsItem.dropWhile {text name value : List UInt8} (h : IsItem text name value) :
    text.dropWhile (· ≠ equalSign) = equalSign :: value := by
  have hname : ∀ c ∈ name, decide (c ≠ equalSign) = true := by
    intro c hc
    exact decide_eq_true fun heq => h.first (heq ▸ hc)
  rw [h.eq, List.dropWhile_append_of_pos hname, List.dropWhile_cons_of_neg (by simp)]

/-- A text is an item in one way. -/
theorem IsItem.unique {text name value name' value' : List UInt8} (h : IsItem text name value)
    (h' : IsItem text name' value') : name = name' ∧ value = value' := by
  refine ⟨h.takeWhile.symm.trans h'.takeWhile, ?_⟩
  have hvalue := h.dropWhile.symm.trans h'.dropWhile
  exact (List.cons.inj hvalue).2

theorem isNot_comment {text : List UInt8} (h : commentMark ∉ text) : ¬ IsComment text := by
  intro hcomment
  exact h (List.mem_of_mem_head? (Option.mem_def.mpr hcomment))

theorem hasLateComment_eq_false_of_notMem {line : List UInt8} (h : commentMark ∉ line) :
    hasLateComment line = false := by
  rw [Bool.eq_false_iff, Ne, hasLateComment_eq_true_iff]
  exact fun hmem => h hmem.1

/-! ### What a line of a configuration does -/

theorem readConfigLine_of_skipped {line : List UInt8} (h : ConfigLine.Skipped line)
    (devConf : KeyboardConfig) : readConfigLine devConf line = .accepted devConf := by
  have hlate : hasLateComment (removeSpace line) = false := by
    rw [Bool.eq_false_iff, Ne, hasLateComment_eq_true_iff]
    rintro ⟨hmem, hnot⟩
    rcases h with hempty | hcomment
    · rw [hempty] at hmem
      cases hmem
    · exact hnot hcomment
  unfold readConfigLine
  simp only [hlate]
  unfold ConfigLine.Skipped at h
  rw [if_neg Bool.false_ne_true, if_pos h]

theorem readConfigLine_of_item {line name value : List UInt8}
    (h : IsItem (removeSpace line) name value) (devConf : KeyboardConfig) :
    readConfigLine devConf line = configItemSwitch name value devConf := by
  have hne : removeSpace line ≠ [] := by
    rw [h.eq]
    exact List.append_ne_nil_of_right_ne_nil _ (List.cons_ne_nil _ _)
  have hskip : ¬ (removeSpace line = [] ∨ IsComment (removeSpace line)) :=
    not_or.mpr ⟨hne, isNot_comment h.noComment⟩
  unfold readConfigLine
  simp only [hasLateComment_eq_false_of_notMem h.noComment, h.dropWhile, h.takeWhile]
  rw [if_neg Bool.false_ne_true, if_neg hskip]
  cases hvalue : value with
  | nil => exact absurd hvalue h.value
  | cons c rest => rfl

/-- A line that is neither is refused. -/
theorem readConfigLine_of_neither {line : List UInt8} (hskip : ¬ ConfigLine.Skipped line)
    (hitem : ∀ name value, ¬ IsItem (removeSpace line) name value) (devConf : KeyboardConfig) :
    readConfigLine devConf line = .refused devConf := by
  unfold readConfigLine
  by_cases hlate : hasLateComment (removeSpace line) = true
  · simp only [hlate, if_true]
  · have hnoComment : commentMark ∉ removeSpace line := by
      intro hmem
      exact hlate (hasLateComment_eq_true_iff.mpr ⟨hmem, fun h => hskip (.inr h)⟩)
    have hsplit := (removeSpace line).takeWhile_append_dropWhile (p := (· ≠ equalSign))
    have hfirst : equalSign ∉ (removeSpace line).takeWhile (· ≠ equalSign) := by
      intro hmem
      simpa using List.mem_takeWhile_imp hmem
    simp only
    unfold ConfigLine.Skipped at hskip
    rw [if_neg hlate, if_neg hskip]
    cases hrest : (removeSpace line).dropWhile (· ≠ equalSign) with
    | nil => rfl
    | cons c value =>
      obtain rfl : c = equalSign := by
        have hhead := List.head?_dropWhile_not (· ≠ equalSign) (removeSpace line)
        rw [hrest] at hhead
        simpa using hhead
      cases hvalue : value with
      | nil => rfl
      | cons d rest =>
        by_cases hname : (removeSpace line).takeWhile (· ≠ equalSign) = []
        · simp only [configItemSwitch, hname]
          rfl
        · refine absurd ⟨?_, hfirst, hname, List.cons_ne_nil d rest, hnoComment⟩ (hitem _ (d :: rest))
          rw [← hvalue, ← hrest, hsplit]

theorem toInt_ofInt_of_isInt32 {text : List UInt8} (h : IsInt32 text) :
    (Int32.ofInt (intValue text (dropSign text))).toInt = intValue text (dropSign text) :=
  Int32.toInt_ofInt_of_le h.lower h.upper

theorem inRange_of_ne {name : List UInt8} (hdelay : name ≠ configItemDelay)
    (hinterval : name ≠ configItemInterval) (n : Int) : InRange name n :=
  ⟨fun h => absurd h hdelay, fun h => absurd h hinterval⟩

/-- The test of a range on integers of 32 bits. -/
theorem outside_iff {n least greatest : Int32} :
    ¬ (n < least ∨ n > greatest) ↔ least.toInt ≤ n.toInt ∧ n.toInt ≤ greatest.toInt := by
  rw [not_or, gt_iff_lt, Int32.not_lt, Int32.not_lt, Int32.le_iff_toInt_le, Int32.le_iff_toInt_le]

theorem inRange_delay_iff {n : Int32} :
    InRange configItemDelay n.toInt ↔ ¬ (n < minDelayTime ∨ n > maxDelayTime) := by
  rw [outside_iff]
  refine ⟨fun h => h.delay rfl, fun h => ⟨fun _ => h, fun heq => absurd heq (by decide)⟩⟩

theorem inRange_interval_iff {n : Int32} :
    InRange configItemInterval n.toInt ↔ ¬ (n < minIntervalTime ∨ n > maxIntervalTime) := by
  rw [outside_iff]
  refine ⟨fun h => h.interval rfl, fun h => ⟨fun heq => absurd heq (by decide), fun _ => h⟩⟩

/-- An item takes a number in its range, if it reads one. -/
theorem configItemSwitch_isAccepted_iff {name value : List UInt8} (hname : name ≠ [])
    (hvalue : value ≠ []) (devConf : KeyboardConfig) :
    (configItemSwitch name value devConf).IsAccepted ↔
      isNum value = true ∧ (IsKnown name → ∃ n, stoi value = some n ∧ InRange name n.toInt) := by
  have hparts : ¬ (name = [] ∨ value = []) := not_or.mpr ⟨hname, hvalue⟩
  unfold configItemSwitch IsKnown
  rw [if_neg hparts]
  cases isNum value with
  | false => simp
  | true =>
    rw [if_neg Bool.noConfusion]
    by_cases hrepeat : name = configItemRepeat
    · subst hrepeat
      have hall := @inRange_of_ne configItemRepeat (by decide) (by decide)
      rw [if_pos rfl]
      cases stoi value <;> simp [hall]
    rw [if_neg hrepeat]
    by_cases hdelay : name = configItemDelay
    · subst hdelay
      rw [if_pos rfl]
      cases stoi value with
      | none => simp
      | some n =>
        simp only [Option.some.injEq, exists_eq_left', inRange_delay_iff]
        split <;> simp_all
    rw [if_neg hdelay]
    by_cases hinterval : name = configItemInterval
    · subst hinterval
      rw [if_pos rfl]
      cases stoi value with
      | none => simp
      | some n =>
        simp only [Option.some.injEq, exists_eq_left', inRange_interval_iff]
        split <;> simp_all
    rw [if_neg hinterval]
    by_cases htype : name = configItemType
    · subst htype
      have hall := inRange_of_ne hdelay hinterval
      rw [if_pos rfl]
      cases stoi value <;> simp [hall]
    · simp [hrepeat, hdelay, hinterval, htype]

theorem configItemSwitch_threw_iff {name value : List UInt8} (hname : name ≠ [])
    (hvalue : value ≠ []) (devConf : KeyboardConfig) :
    configItemSwitch name value devConf = .threw ↔
      isNum value = true ∧ IsKnown name ∧ stoi value = none := by
  have hparts : ¬ (name = [] ∨ value = []) := not_or.mpr ⟨hname, hvalue⟩
  unfold configItemSwitch IsKnown
  rw [if_neg hparts]
  cases isNum value with
  | false => simp
  | true =>
    rw [if_neg Bool.noConfusion]
    cases hn : stoi value with
    | none =>
      simp only [true_and, and_true]
      split_ifs <;> simp_all
    | some n =>
      simp only [reduceCtorEq, and_false, iff_false]
      split_ifs <;> simp

theorem readConfigLine_isAccepted_iff (devConf : KeyboardConfig) (line : List UInt8) :
    (readConfigLine devConf line).IsAccepted ↔ ConfigLine.Accepts line := by
  rw [ConfigLine.Accepts, ← Prod.exists']
  refine Outcome.isAccepted_iff_of_items (fun hskip => ?_) (fun item hitem => ?_)
    fun hskip hnone => ?_
  · exact ⟨devConf, readConfigLine_of_skipped hskip devConf⟩
  · rw [readConfigLine_of_item hitem, configItemSwitch_isAccepted_iff hitem.name hitem.value]
  · rw [readConfigLine_of_neither hskip fun name value => hnone (name, value)]
    exact Outcome.not_isAccepted_refused devConf

theorem readConfigLine_threw_iff (devConf : KeyboardConfig) (line : List UInt8) :
    readConfigLine devConf line = .threw ↔ ConfigLine.Throws line := by
  rw [ConfigLine.Throws, ← Prod.exists']
  refine Outcome.threw_iff_of_items (fun hskip : ConfigLine.Skipped line => ?_)
    (fun item hitem => ?_) fun hskip hnone => ?_
  · exact ⟨devConf, readConfigLine_of_skipped hskip devConf⟩
  · rw [readConfigLine_of_item hitem, configItemSwitch_threw_iff hitem.name hitem.value]
  · rw [readConfigLine_of_neither hskip fun name value => hnone (name, value)]
    exact fun h => nomatch h

/-- A well-formed line is accepted. -/
theorem ConfigLine.WellFormed.accepts {line : List UInt8} (h : ConfigLine.WellFormed line) :
    ConfigLine.Accepts line := by
  obtain hskip | ⟨name, value, hitem, hint, hrange⟩ := h
  · exact .inl hskip
  · refine .inr ⟨name, value, hitem, isNum_of_isInt32 hint, fun _ => ?_⟩
    exact ⟨_, stoi_of_isInt32 hint, (toInt_ofInt_of_isInt32 hint).symm ▸ hrange⟩

/-- What is accepted and not well formed has a number that is no integer. -/
theorem ConfigLine.wellFormed_iff {line : List UInt8} (h : ConfigLine.Accepts line) :
    ConfigLine.WellFormed line ↔ ¬ ConfigLine.Loose line := by
  by_cases hskip : ConfigLine.Skipped line
  · refine iff_of_true (.inl hskip) ?_
    rintro ⟨name, value, hitem, -⟩
    rcases hskip with hempty | hcomment
    · have heq := hitem.eq
      rw [hempty] at heq
      simp at heq
    · exact isNot_comment hitem.noComment hcomment
  obtain ⟨name, value, hitem, hnum, hknown⟩ := h.resolve_left hskip
  constructor
  · rintro hwell ⟨name', value', hitem', -, hnot⟩
    obtain ⟨name'', value'', hitem'', hint, -⟩ := hwell.resolve_left hskip
    obtain ⟨-, rfl⟩ := hitem''.unique hitem'
    exact hnot hint
  · intro hloose
    have hint : IsInt32 value := by
      by_contra hnot
      exact hloose ⟨name, value, hitem, hnum, hnot⟩
    refine .inr ⟨name, value, hitem, hint, ?_⟩
    by_cases hname : IsKnown name
    · obtain ⟨n, hn, hrange⟩ := hknown hname
      rw [stoi_of_isInt32 hint] at hn
      obtain rfl := Option.some.inj hn
      rwa [toInt_ofInt_of_isInt32 hint] at hrange
    · exact inRange_of_ne (fun h => hname (.inr (.inl h))) (fun h => hname (.inr (.inr (.inl h)))) _

end FtMmi.EventHandler
