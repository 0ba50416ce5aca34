/-
FtMmi.EventHandler.KeyTableFiles — when the two configuration files of a
keyboard are read as they should be.

A line of a key table is cut into fields at its spaces, as the stream
extraction does one field after the other (`fields_eq`). What a line of
either file does is said once for each way it can end, and the rule for
readers of lines puts the lines together.
-/
import FtMmi.EventHandler.DeviceConfigFiles

namespace FtMmi.EventHandler

open FtMmi.Lib

/-! ## Fields -/

/-- What is between the spaces of a line. -/
def fields (line : List UInt8) : List (List UInt8) := (line.splitOnP isSpace).filter (· ≠ [])

theorem fields_space_cons {c : UInt8} (h : isSpace c = true) (line : List UInt8) :
    fields (c :: line) = fields line := by
  simp [fields, List.splitOnP_cons_eq_if_modifyHead, h]

theorem fields_dropWhile (line : List UInt8) : fields (line.dropWhile isSpace) = fields line := by
  induction line with
  | nil => rfl
  | cons c line ih =>
    by_cases hc : isSpace c = true
    · rw [List.dropWhile_cons_of_pos hc, ih, fields_space_cons hc]
    · rw [List.dropWhile_cons_of_neg hc]

theorem fields_word {word : List UInt8} (hne : word ≠ []) (h : ∀ c ∈ word, isSpace c = false) :
    fields word = [word] := by
  simp [fields, List.splitOnP_eq_singleton h, hne]

/-- The fields are read one after the other. -/
theorem fields_eq (line : List UInt8) :
    fields line = if (readField line).1 = [] then []
      else (readField line).1 :: fields (readField line).2 := by
  rw [← fields_dropWhile line]
  unfold readField
  generalize hstream : line.dropWhile isSpace = stream
  have hfirst := List.head?_dropWhile_not isSpace line
  rw [hstream] at hfirst
  simp only
  have hword : ∀ c ∈ stream.takeWhile fun c => !isSpace c, isSpace c = false := by
    intro c hc
    simpa using List.mem_takeWhile_imp hc
  have hsplit := stream.takeWhile_append_dropWhile (p := fun c => !isSpace c)
  have hrest := List.head?_dropWhile_not (fun c => !isSpace c) stream
  cases stream with
  | nil => simp [fields]
  | cons c stream =>
    have hc : isSpace c = false := hfirst
    have hne : (c :: stream).takeWhile (fun c => !isSpace c) ≠ [] := by
      rw [List.takeWhile_cons_of_pos (by simp [hc])]
      exact List.cons_ne_nil _ _
    rw [if_neg hne]
    cases hafter : (c :: stream).dropWhile fun c => !isSpace c with
    | nil =>
      rw [hafter, List.append_nil] at hsplit
      conv_lhs => rw [← hsplit]
      rw [fields_word hne hword]
      simp [fields]
    | cons d after =>
      rw [hafter] at hsplit hrest
      have hd : isSpace d = true := by simpa using hrest
      conv_lhs => rw [← hsplit]
      have happend : fields ((c :: stream).takeWhile (fun c => !isSpace c) ++ d :: after)
          = fields ((c :: stream).takeWhile fun c => !isSpace c) ++ fields after := by
        rw [fields, List.splitOnP_append_cons _ _ hd, List.filter_append]
        rfl
      rw [happend, fields_word hne hword, fields_space_cons hd, List.singleton_append]

/-! ## Items of a key table -/

/-- At least four fields, of which the second and the third are `native` and
`sys`. -/
def KeyItem (line native sys : List UInt8) : Prop :=
  commentMark ∉ line ∧ ∃ keyEvent event more, fields line = keyEvent :: native :: sys :: event :: more

theorem KeyItem.unique {line native sys native' sys' : List UInt8} (h : KeyItem line native sys)
    (h' : KeyItem line native' sys') : native = native' ∧ sys = sys' := by
  obtain ⟨-, _, _, _, heq⟩ := h
  obtain ⟨-, _, _, _, heq'⟩ := h'
  rw [heq] at heq'
  simp only [List.cons.injEq] at heq'
  exact ⟨heq'.2.1, heq'.2.2.1⟩

namespace KeyLine

/-- What a line should be. -/
def WellFormed (line : List UInt8) : Prop :=
  (∀ c ∈ line, isSpace c = true) ∨ IsComment line ∨
    ∃ native sys, KeyItem line native sys ∧ IsInt32 native ∧ IsInt32 sys

/-- What a line has to be. -/
def Accepts (line : List UInt8) : Prop :=
  line = [] ∨ IsComment line ∨ ∃ native sys, KeyItem line native sys ∧
    (isNum native = true ∧ isNum sys = true) ∧ (stoi native).isSome ∧ (stoi sys).isSome

/-- Numbers that `stoi` does not both convert. -/
def Throws (line : List UInt8) : Prop :=
  ∃ native sys, KeyItem line native sys ∧
    (isNum native = true ∧ isNum sys = true) ∧ ¬ ((stoi native).isSome ∧ (stoi sys).isSome)

/-- Numbers that are not both integers of 32 bits. -/
def Loose (line : List UInt8) : Prop :=
  ∃ native sys, KeyItem line native sys ∧
    (isNum native = true ∧ isNum sys = true) ∧ ¬ (IsInt32 native ∧ IsInt32 sys)

/-- A blank line that is not empty. -/
def Blank (line : List UInt8) : Prop := line ≠ [] ∧ ∀ c ∈ line, isSpace c = true

end KeyLine

theorem fields_eq_nil {line : List UInt8} (h : ∀ c ∈ line, isSpace c = true) : fields line = [] := by
  rw [← fields_dropWhile, List.dropWhile_eq_nil_iff.mpr h]
  rfl

theorem KeyItem.ne_nil {line native sys : List UInt8} (h : KeyItem line native sys) :
    line ≠ [] := by
  rintro rfl
  obtain ⟨-, _, _, _, heq⟩ := h
  simp [fields] at heq

/-- A field that is read is the first. -/
theorem readField_of_fields {line field : List UInt8} {more : List (List UInt8)}
    (h : fields line = field :: more) :
    (readField line).1 = field ∧ field ≠ [] ∧ fields (readField line).2 = more := by
  rw [fields_eq] at h
  by_cases hne : (readField line).1 = []
  · simp [hne] at h
  · rw [if_neg hne] at h
    obtain ⟨rfl, rfl⟩ := List.cons.inj h
    exact ⟨rfl, hne, rfl⟩

theorem fields_of_readField {line : List UInt8} (h : (readField line).1 ≠ []) :
    fields line = (readField line).1 :: fields (readField line).2 := by
  rw [fields_eq, if_neg h]

/-! ## What a line of a key table does -/

theorem readKeyLine_of_skipped {line : List UInt8} (h : line = [] ∨ IsComment line)
    (tmpConfigKey : KeyTable) : readKeyLine tmpConfigKey line = .accepted tmpConfigKey := by
  have hlate : hasLateComment line = false := by
    rw [Bool.eq_false_iff, Ne, hasLateComment_eq_true_iff]
    rintro ⟨hmem, hnot⟩
    rcases h with rfl | hcomment
    · cases hmem
    · exact hnot hcomment
  have hskip : ¬ (line ≠ [] ∧ ¬ IsComment line) := by
    rintro ⟨hne, hnot⟩
    exact h.elim hne hnot
  unfold readKeyLine
  rw [hlate, if_neg Bool.false_ne_true, if_neg hskip]

theorem readKeyLine_of_item {line native sys : List UInt8} (h : KeyItem line native sys)
    (tmpConfigKey : KeyTable) :
    readKeyLine tmpConfigKey line =
      if isNum native = false ∨ isNum sys = false then .refused tmpConfigKey
      else
        match stoi native with
        | none => .threw
        | some nativeKeyValue =>
            match stoi sys with
            | none => .threw
            | some sysKeyValue => .accepted (tmpConfigKey.insertIfNew nativeKeyValue sysKeyValue) := by
  obtain ⟨hnoComment, keyEvent, event, more, hfields⟩ := id h
  obtain ⟨h0, hne0, hfields⟩ := readField_of_fields hfields
  obtain ⟨h1, hne1, hfields⟩ := readField_of_fields hfields
  obtain ⟨h2, hne2, hfields⟩ := readField_of_fields hfields
  obtain ⟨h3, hne3, -⟩ := readField_of_fields hfields
  unfold readKeyLine
  rw [hasLateComment_eq_false_of_notMem hnoComment, if_neg Bool.false_ne_true,
    if_pos ⟨h.ne_nil, isNot_comment hnoComment⟩]
  simp only [h0, h1, h2, h3]
  exact if_neg (by simp [hne0, hne1, hne2, hne3])

/-- A line that is neither is refused. -/
theorem readKeyLine_of_neither {line : List UInt8} (hskip : ¬ (line = [] ∨ IsComment line))
    (hitem : ∀ native sys, ¬ KeyItem line native sys) (tmpConfigKey : KeyTable) :
    readKeyLine tmpConfigKey line = .refused tmpConfigKey := by
  unfold readKeyLine
  by_cases hlate : hasLateComment line = true
  · rw [if_pos hlate]
  · have hnoComment : commentMark ∉ line := by
      intro hmem
      exact hlate (hasLateComment_eq_true_iff.mpr ⟨hmem, fun h => hskip (.inr h)⟩)
    rw [if_neg hlate, if_pos (not_or.mp hskip)]
    simp only
    rw [if_pos]
    by_contra hnone
    push Not at hnone
    obtain ⟨h0, h1, h2, h3⟩ := hnone
    have hfields := fields_of_readField h0
    rw [fields_of_readField h1, fields_of_readField h2, fields_of_readField h3] at hfields
    exact hitem _ _ ⟨hnoComment, _, _, _, hfields⟩

theorem readKeyLine_isAccepted_iff (tmpConfigKey : KeyTable) (line : List UInt8) :
    (readKeyLine tmpConfigKey line).IsAccepted ↔ KeyLine.Accepts line := by
  rw [KeyLine.Accepts, ← or_assoc, ← Prod.exists']
  refine Outcome.isAccepted_iff_of_items (fun hskip => ?_) (fun item hitem => ?_)
    fun hskip hnone => ?_
  · exact ⟨tmpConfigKey, readKeyLine_of_skipped hskip tmpConfigKey⟩
  · rw [readKeyLine_of_item hitem]
    cases isNum item.1 <;> cases isNum item.2 <;> cases stoi item.1 <;> cases stoi item.2 <;> simp
  · rw [readKeyLine_of_neither hskip fun native sys => hnone (native, sys)]
    exact Outcome.not_isAccepted_refused tmpConfigKey

theorem readKeyLine_threw_iff (tmpConfigKey : KeyTable) (line : List UInt8) :
    readKeyLine tmpConfigKey line = .threw ↔ KeyLine.Throws line := by
  rw [KeyLine.Throws, ← Prod.exists']
  refine Outcome.threw_iff_of_items (fun hskip : line = [] ∨ IsComment line => ?_)
    (fun item hitem => ?_) fun hskip hnone => ?_
  · exact ⟨tmpConfigKey, readKeyLine_of_skipped hskip tmpConfigKey⟩
  · rw [readKeyLine_of_item hitem]
    cases isNum item.1 <;> cases isNum item.2 <;> cases stoi item.1 <;> cases stoi item.2 <;> simp
  · rw [readKeyLine_of_neither hskip fun native sys => hnone (native, sys)]
    exact fun h => nomatch h

/-- What is accepted and not well formed has a number that is no integer. -/
theorem KeyLine.wellFormed_iff {line : List UInt8} (h : KeyLine.Accepts line) :
    KeyLine.WellFormed line ↔ ¬ KeyLine.Loose line := by
  constructor
  · rintro hwell ⟨native, sys, hitem, -, hnot⟩
    rcases hwell with hblank | hcomment | ⟨native', sys', hitem', hint⟩
    · obtain ⟨-, _, _, _, hfields⟩ := hitem
      rw [fields_eq_nil hblank] at hfields
      cases hfields
    · exact isNot_comment hitem.1 hcomment
    · obtain ⟨rfl, rfl⟩ := hitem.unique hitem'
      exact hnot hint
  · intro hloose
    rcases h with rfl | hcomment | ⟨native, sys, hitem, hnum, -⟩
    · exact .inl fun _ h => nomatch h
    · exact .inr (.inl hcomment)
    · refine .inr (.inr ⟨native, sys, hitem, ?_⟩)
      by_contra hnot
      exact hloose ⟨native, sys, hitem, hnum, hnot⟩

/-- A well-formed line is refused only if it is blank. -/
theorem KeyLine.accepts_iff {line : List UInt8} (h : KeyLine.WellFormed line) :
    KeyLine.Accepts line ↔ ¬ KeyLine.Blank line := by
  constructor
  · rintro haccepts ⟨hne, hblank⟩
    rcases haccepts with hempty | hcomment | ⟨native, sys, hitem, -⟩
    · exact hne hempty
    · have hspace := hblank commentMark (List.mem_of_mem_head? (Option.mem_def.mpr hcomment))
      exact absurd hspace (by decide)
    · obtain ⟨-, _, _, _, hfields⟩ := hitem
      rw [fields_eq_nil hblank] at hfields
      cases hfields
  · intro hblank
    rcases h with hspaces | hcomment | ⟨native, sys, hitem, hnative, hsys⟩
    · by_contra hnot
      exact hblank ⟨fun hempty => hnot (.inl hempty), hspaces⟩
    · exact .inr (.inl hcomment)
    · refine .inr (.inr ⟨native, sys, hitem, ⟨isNum_of_isInt32 hnative, isNum_of_isInt32 hsys⟩, ?_⟩)
      rw [stoi_of_isInt32 hnative, stoi_of_isInt32 hsys]
      exact ⟨rfl, rfl⟩

/-! ## The table that is read -/

/-- The code and the key of a line, if it has them. -/
def keyPair (line : List UInt8) : Option (Int32 × Int32) :=
  match fields line with
  | _ :: native :: sys :: _ :: _ =>
      if commentMark ∈ line then none
      else (stoi native).bind fun code => (stoi sys).map fun key => (code, key)
  | _ => none

/-- The first line of a code counts. -/
def IsKeyTable (lines : List (List UInt8)) (table : KeyTable) : Prop :=
  ∀ code : Int32, table[code]? = ((lines.filterMap keyPair).find? fun e => e.1 = code).map Prod.snd

def addKey (table : KeyTable) (line : List UInt8) : KeyTable :=
  match keyPair line with
  | some (code, key) => table.insertIfNew code key
  | none => table

theorem keyPair_of_skipped {line : List UInt8} (h : line = [] ∨ IsComment line) :
    keyPair line = none := by
  rcases h with rfl | hcomment
  · rfl
  · have hmem : commentMark ∈ line := List.mem_of_mem_head? (Option.mem_def.mpr hcomment)
    unfold keyPair
    split
    · rw [if_pos hmem]
    · rfl

theorem addKey_of_accepted {table table' : KeyTable} {line : List UInt8}
    (h : readKeyLine table line = .accepted table') : table' = addKey table line := by
  have haccepts := (readKeyLine_isAccepted_iff table line).mp ⟨table', h⟩
  rcases or_assoc.mpr haccepts with hskip | ⟨native, sys, hitem, ⟨hnative, hsys⟩, hcode, hkey⟩
  · rw [readKeyLine_of_skipped hskip] at h
    rw [addKey, keyPair_of_skipped hskip]
    exact (Outcome.accepted.inj h).symm
  · obtain ⟨code, hcode⟩ := Option.isSome_iff_exists.mp hcode
    obtain ⟨key, hkey⟩ := Option.isSome_iff_exists.mp hkey
    obtain ⟨hnoComment, keyEvent, event, more, hfields⟩ := id hitem
    rw [readKeyLine_of_item hitem, hnative, hsys, if_neg (by simp), hcode, hkey] at h
    have hpair : keyPair line = some (code, key) := by
      simp [keyPair, hfields, hnoComment, hcode, hkey]
    rw [addKey, hpair]
    exact (Outcome.accepted.inj h).symm

theorem getElem?_addKeys (lines : List (List UInt8)) (table : KeyTable) (code : Int32) :
    (lines.foldl addKey table)[code]? =
      (table[code]?).or (((lines.filterMap keyPair).find? fun e => e.1 = code).map Prod.snd) := by
  induction lines generalizing table with
  | nil => simp
  | cons line lines ih =>
    rw [List.foldl_cons, ih]
    cases hpair : keyPair line with
    | none => simp [addKey, hpair]
    | some e =>
      obtain ⟨code', key⟩ := e
      rw [List.filterMap_cons_some hpair, addKey, hpair, Std.TreeMap.getElem?_insertIfNew]
      by_cases hcode : code' = code
      · subst hcode
        cases hold : table[code']? with
        | none =>
          have hmem : code' ∉ table := by
            rw [Std.TreeMap.mem_iff_isSome_getElem?, hold]
            exact Bool.false_ne_true
          simp [hmem]
        | some old =>
          have hmem : code' ∈ table := by
            rw [Std.TreeMap.mem_iff_isSome_getElem?, hold]
            rfl
          simp [hmem]
      · simp [hcode]

theorem isKeyTable_of_accepted {lines : List (List UInt8)} {table : KeyTable}
    (h : readLines readKeyLine ∅ lines = .accepted table) : IsKeyTable lines table := by
  intro code
  have heq := readLines_eq_foldl (fun _ _ _ h => addKey_of_accepted h) h
  rw [heq, getElem?_addKeys]
  simp

/-! ## Both files -/

/-- The configuration is read, and the result is success exactly if every line
is well formed. -/
def ConfigExact (content : List UInt8) (devConf : KeyboardConfig) : Prop :=
  ∃ ret devConf', readConfigFile content devConf = some (ret, devConf') ∧
    (ret = retOk ↔ ∀ line ∈ getLines content, ConfigLine.WellFormed line)

/-- The key table is read, and added for the device exactly if every line is
well formed; otherwise the tables are as they were. -/
def KeysExact (content : List UInt8) (deviceId : Int32)
    (configKey : Std.TreeMap Int32 KeyTable) : Prop :=
  ∃ configKey', readProConfigFile content deviceId configKey = some configKey' ∧
    ((∀ line ∈ getLines content, KeyLine.WellFormed line) →
      deviceId ∉ configKey ∧ ∃ table, IsKeyTable (getLines content) table ∧
        configKey' = configKey.insert deviceId table) ∧
    ((¬ ∀ line ∈ getLines content, KeyLine.WellFormed line) → configKey' = configKey)

/-- No number that `stoi` throws on is reached, and if nothing is refused no
number is anything but an integer. -/
structure ConfigReads (lines : List (List UInt8)) : Prop where
  throws : ∀ line, Reaches ConfigLine.Accepts lines line → ¬ ConfigLine.Throws line
  loose : (∀ line ∈ lines, ConfigLine.Accepts line) → ∀ line ∈ lines, ¬ ConfigLine.Loose line

/-- The same for a key table that can be added; and one whose lines are well
formed can be, and has no blank line that is not empty. -/
structure KeysRead (lines : List (List UInt8)) (Free : Prop) : Prop where
  throws : ∀ line, Reaches KeyLine.Accepts lines line → ¬ KeyLine.Throws line
  loose : (∀ line ∈ lines, KeyLine.Accepts line) → Free → ∀ line ∈ lines, ¬ KeyLine.Loose line
  blank : (∀ line ∈ lines, KeyLine.WellFormed line) → Free ∧ ∀ line ∈ lines, ¬ KeyLine.Blank line

theorem configExact_iff (content : List UInt8) (devConf : KeyboardConfig) :
    ConfigExact content devConf ↔ ConfigReads (getLines content) := by
  have hexact := exact_iff readConfigLine_isAccepted_iff readConfigLine_threw_iff
    (fun _ => ConfigLine.wellFormed_iff) devConf (getLines content) True
  have hread : ConfigExact content devConf ↔
      readLines readConfigLine devConf (getLines content) ≠ .threw ∧
        ((readLines readConfigLine devConf (getLines content)).IsAccepted ∧ True ↔
          ∀ line ∈ getLines content, ConfigLine.WellFormed line) := by
    unfold ConfigExact readConfigFile
    cases readLines readConfigLine devConf (getLines content) with
    | threw => simp
    | refused devConf' => simp [retOk, retErr]
    | accepted devConf' => simp [retOk]
  rw [hread, hexact]
  constructor
  · rintro ⟨hthrows, hloose, -⟩
    exact ⟨hthrows, fun haccepts => hloose haccepts trivial⟩
  · rintro ⟨hthrows, hloose⟩
    refine ⟨hthrows, fun haccepts _ => hloose haccepts, fun hwell => ⟨trivial, ?_⟩⟩
    exact fun line hline => (hwell line hline).accepts

/-- Adding a table changes the tables. -/
theorem insert_ne {configKey : Std.TreeMap Int32 KeyTable} {deviceId : Int32}
    (h : deviceId ∉ configKey) (table : KeyTable) : configKey ≠ configKey.insert deviceId table := by
  intro heq
  rw [heq] at h
  exact h Std.TreeMap.mem_insert_self

theorem keysExact_iff (content : List UInt8) (deviceId : Int32)
    (configKey : Std.TreeMap Int32 KeyTable) :
    KeysExact content deviceId configKey ↔
      KeysRead (getLines content) (deviceId ∉ configKey) := by
  have hexact := exact_iff readKeyLine_isAccepted_iff readKeyLine_threw_iff
    (fun _ => KeyLine.wellFormed_iff) ∅ (getLines content) (deviceId ∉ configKey)
  have hread : KeysExact content deviceId configKey ↔
      readLines readKeyLine ∅ (getLines content) ≠ .threw ∧
        ((readLines readKeyLine ∅ (getLines content)).IsAccepted ∧ deviceId ∉ configKey ↔
          ∀ line ∈ getLines content, KeyLine.WellFormed line) := by
    have hkept : ∀ Well : Prop,
        ((Well → deviceId ∉ configKey ∧ ∃ table, IsKeyTable (getLines content) table ∧
          configKey = configKey.insert deviceId table) ↔ ¬ Well) := by
      intro Well
      constructor
      · intro h hwell
        obtain ⟨hfree, table, -, heq⟩ := h hwell
        exact insert_ne hfree table heq
      · intro hnot hwell
        exact absurd hwell hnot
    unfold KeysExact readProConfigFile
    cases hlines : readLines readKeyLine ∅ (getLines content) with
    | threw => simp
    | refused table => simp [hkept]
    | accepted table =>
      by_cases hmem : deviceId ∈ configKey
      · simp only [if_pos hmem, Option.some.injEq, exists_eq_left', hkept]
        simp [hmem]
      · have htable := isKeyTable_of_accepted hlines
        simp only [if_neg hmem, Option.some.injEq, exists_eq_left']
        simp only [hmem, not_false_eq_true, true_and, and_true, Outcome.isAccepted_accepted,
          true_iff, ne_eq, reduceCtorEq]
        constructor
        · rintro ⟨-, hnot⟩
          by_contra hwell
          exact insert_ne hmem table (hnot hwell).symm
        · intro hwell
          exact ⟨fun _ => ⟨table, htable, rfl⟩, fun hnot => absurd hwell hnot⟩
  rw [hread, hexact]
  constructor
  · rintro ⟨hthrows, hloose, hwell⟩
    refine ⟨hthrows, hloose, fun h => ⟨(hwell h).1, fun line hline => ?_⟩⟩
    exact (KeyLine.accepts_iff (h line hline)).mp ((hwell h).2 line hline)
  · rintro ⟨hthrows, hloose, hblank⟩
    refine ⟨hthrows, hloose, fun h => ⟨(hblank h).1, fun line hline => ?_⟩⟩
    exact (KeyLine.accepts_iff (h line hline)).mpr ((hblank h).2 line hline)

/-- For every content the files are read exactly where no such number and no
such line is in the way. -/
theorem configFiles_exact_iff (content : List UInt8) (devConf : KeyboardConfig) (deviceId : Int32)
    (configKey : Std.TreeMap Int32 KeyTable) :
    (ConfigExact content devConf ↔ ConfigReads (getLines content)) ∧
      (KeysExact content deviceId configKey ↔
        KeysRead (getLines content) (deviceId ∉ configKey)) :=
  ⟨configExact_iff content devConf, keysExact_iff content deviceId configKey⟩

/-- `KEY_A 99999999999 2017 HOS_KEY_A` -/
def largeCode : List UInt8 :=
  [75, 69, 89, 95, 65, 32, 57, 57, 57, 57, 57, 57, 57, 57, 57, 57, 57, 32, 50, 48, 49, 55, 32,
    72, 79, 83, 95, 75, 69, 89, 95, 65]

/-- `Key.keyboard.type=.5` -/
def fractionType : List UInt8 := configItemType ++ [61, 46, 53]

/-- Neither number is converted. -/
theorem counterexample_configFiles_exact :
    ¬ ConfigExact fractionType {} ∧ ¬ KeysExact largeCode 3 ∅ := by
  constructor
  · rintro ⟨_, _, hread, -⟩
    have hthrew : (readConfigFile fractionType {}).isNone = true := by decide +kernel
    rw [hread] at hthrew
    cases hthrew
  · rintro ⟨_, hread, -⟩
    have hthrew : (readProConfigFile largeCode 3 ∅).isNone = true := by decide +kernel
    rw [hread] at hthrew
    cases hthrew

end FtMmi.EventHandler
