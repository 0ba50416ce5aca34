/-
FtMmi.KeyCommand.ConfigLoading — the handler reads its configuration at the
first key event, or at a later one when there is no file to read.

The other results are about a handler that has its configuration from the
start. `run_loaded` says that they hold of the real one: from the event at
which a file is read it is the handler of that file's configuration, which
has seen no key before and everything else, and up to then it hands every
key on.
-/
import FtMmi.KeyCommand.AbilityLaunchConfig
import FtMmi.KeyCommand.SpecialTimers

namespace FtMmi.KeyCommand

open FtMmi.Lib
open FtMmi.Event

/-! ## The files -/

/-- What the two files hold when the handler asks for them. -/
structure ConfigFiles where
  /-- The file that `GetOneCfgFile` finds, if it finds one. -/
  customConfig : Option (Option CJson)
  defaultConfig : Option CJson

namespace KeyCommandHandler

/-- `ParseJson` -/
def parseFile (s : KeyCommandHandler) (json : Option CJson) : Bool × KeyCommandHandler :=
  let p := parseJson json s.shortcutKeys s.sequences
  (p.isParsed, { s with shortcutKeys := p.shortcutKeys, sequences := p.sequences })

def parseConfig (s : KeyCommandHandler) (files : ConfigFiles) : Bool × KeyCommandHandler :=
  match files.customConfig with
  | none => s.parseFile files.defaultConfig
  | some customConfig =>
      let r := s.parseFile customConfig
      if r.1 then r else r.2.parseFile files.defaultConfig

end KeyCommandHandler

structure LoadingHandler where
  handler : KeyCommandHandler
  isParseConfig : Bool
  /-- The events given to the next handler. -/
  passedOn : List KeyEvent

namespace LoadingHandler

def create : LoadingHandler := ⟨.create ParsedConfig.empty.toConfig, false, []⟩

def onHandleEvent (s : LoadingHandler) (files : ConfigFiles) (nowTime : Int) (key : KeyEvent) :
    Bool × LoadingHandler :=
  if s.isParseConfig then
    let r := s.handler.onHandleEvent nowTime key
    (r.1, { s with handler := r.2 })
  else
    let p := s.handler.parseConfig files
    if !p.1 then (false, { s with handler := p.2 })
    else
      let r := p.2.onHandleEvent nowTime key
      (r.1, { s with handler := r.2, isParseConfig := true })

def handleKeyEvent (s : LoadingHandler) (files : ConfigFiles) (nowTime : Int) (key : KeyEvent) :
    LoadingHandler :=
  let r := s.onHandleEvent files nowTime key
  if r.1 then r.2 else { r.2 with passedOn := r.2.passedOn ++ [key] }

/-- A step, with the files as they are then. -/
def step (s : LoadingHandler) (i : ConfigFiles × KeyCommandInput) : LoadingHandler :=
  match i.2 with
  | .key keyEvent nowTime => s.handleKeyEvent i.1 nowTime keyEvent
  | input => { s with handler := keyCommandStep s.handler input }

end LoadingHandler

/-! ## The configuration of a file -/

theorem Sequence.WellFormed.configured {sequence : Sequence} (h : sequence.WellFormed) :
    Configured sequence where
  keys := h.valid
  actions := fun key hkey => (h.keys key hkey).keyAction
  delay := by
    obtain ⟨v, hv, _, htime⟩ := h.abilityStartDelay
    have hv : 0 ≤ v.toInt := Int32.le_iff_toInt_le.mp hv
    rw [htime]
    exact Int.mul_nonneg hv (by decide)
  timer := h.timerId

/-- The configuration in a file. -/
def ParsedConfig.ofFile (json : Option CJson) : Option ParsedConfig :=
  if (parseJson json .empty []).isParsed then
    some {
      shortcuts := (parseJson json .empty []).shortcutKeys.items
      sequences := (parseJson json .empty []).sequences
      configured := fun sequence h =>
        ((parseJson_wellFormed json).keySequences sequence h).configured
      shortcutTimers := fun key h => ((parseJson_wellFormed json).shortcuts key h).timerId }
  else none

/-- The one the handler takes. -/
def ConfigFiles.config (files : ConfigFiles) : Option ParsedConfig :=
  (files.customConfig.bind ParsedConfig.ofFile).or (ParsedConfig.ofFile files.defaultConfig)

namespace KeyCommandHandler

/-- The handler with the configuration, if it has none. -/
def configured (s : KeyCommandHandler) (config : Config) : KeyCommandHandler :=
  { s with shortcutKeys := parseShortcutKeys config.shortcuts, sequences := config.sequences }

variable {s : KeyCommandHandler}

theorem parseFile_eq (hshort : s.shortcutKeys = .empty) (hseqs : s.sequences = [])
    (json : Option CJson) :
    s.parseFile json = match ParsedConfig.ofFile json with
      | none => (false, s)
      | some config => (true, s.configured config.toConfig) := by
  unfold parseFile ParsedConfig.ofFile
  rw [hshort, hseqs]
  cases hparsed : (parseJson json .empty []).isParsed with
  | false =>
    have hsame := parseJson_unparsed hparsed
    simp only [hsame, Bool.false_eq_true, if_false]
    rw [← hshort, ← hseqs]
  | true =>
    have hitems := parseShortcutKeys_items (parseJson_wellFormed json).inOrder
    simp only [if_true, configured, hitems, hparsed]

theorem parseConfig_eq (hshort : s.shortcutKeys = .empty) (hseqs : s.sequences = [])
    (files : ConfigFiles) :
    s.parseConfig files = match files.config with
      | none => (false, s)
      | some config => (true, s.configured config.toConfig) := by
  unfold parseConfig ConfigFiles.config
  cases files.customConfig with
  | none => exact parseFile_eq hshort hseqs _
  | some customConfig =>
    simp only [parseFile_eq hshort hseqs customConfig, Option.bind_some]
    cases ParsedConfig.ofFile customConfig with
    | none => exact parseFile_eq hshort hseqs _
    | some config => rfl

end KeyCommandHandler

/-! ## What happens before a file is read -/

def KeyCommandInput.isKey : KeyCommandInput → Bool
  | .key _ _ => true
  | _ => false

theorem KeyCommandInput.eq_key {i : KeyCommandInput} (h : i.isKey = true) :
    ∃ keyEvent nowTime, i = .key keyEvent nowTime := by
  cases i with
  | key keyEvent nowTime => exact ⟨keyEvent, nowTime, rfl⟩
  | _ => cases h

/-- Only a key event asks for the configuration. -/
theorem keyCommandStep_configured (s : KeyCommandHandler) (config : Config) {i : KeyCommandInput}
    (h : i.isKey = false) :
    keyCommandStep (s.configured config) i = (keyCommandStep s i).configured config := by
  cases i with
  | key => cases h
  | processNext nowTime =>
    simp only [keyCommandStep, KeyCommandHandler.processNext, KeyCommandHandler.configured]
    cases (s.timers.processNext nowTime).1 with
    | idle => rfl
    | dropped => rfl
    | fired closure => cases closure <;> rfl
  | addSubscriberTimer ref finalKey nowTime duration =>
    simp only [keyCommandStep, KeyCommandHandler.addSubscriberTimer, KeyCommandHandler.configured,
      KeyCommandHandler.addTimer]
    by_cases hany : (s.subscribers.any fun item => item.ref = ref) = true
    · simp only [hany, if_true]
    · by_cases hneg : (s.timers.addTimer nowTime duration 1 (some (.subscriber ref finalKey))).1 < 0
      · simp only [hany, hneg, if_true, if_false, Bool.false_eq_true]
      · simp only [hany, hneg, if_false, Bool.false_eq_true]
  | clearSubscriberTimer ref =>
    simp only [keyCommandStep, KeyCommandHandler.clearSubscriberTimer,
      KeyCommandHandler.configured]
    cases s.subscribers.find? fun item => item.ref = ref <;> rfl
  | otherAdd => rfl
  | otherRemove => rfl
  | otherReset => rfl

theorem runFrom_configured (config : Config) {is : List KeyCommandInput}
    (h : ∀ i ∈ is, i.isKey = false) (s : KeyCommandHandler) :
    runFrom keyCommandStep (s.configured config) is
      = (runFrom keyCommandStep s is).configured config := by
  induction is generalizing s with
  | nil => rfl
  | cons i is ih =>
    obtain ⟨hi, his⟩ := List.forall_mem_cons.mp h
    rw [runFrom_cons, keyCommandStep_configured s config hi, ih his, runFrom_cons]

/-! ## Runs -/

/-- All but the key events. -/
def others (is : List (ConfigFiles × KeyCommandInput)) : List KeyCommandInput :=
  (is.map Prod.snd).filter fun i => !i.isKey

def keysOf (is : List (ConfigFiles × KeyCommandInput)) : List KeyEvent :=
  is.filterMap fun i =>
    match i.2 with
    | .key keyEvent _ => some keyEvent
    | _ => none

/-- The key events that a handler with its configuration does not take. -/
def passes : KeyCommandHandler → List KeyCommandInput → List KeyEvent
  | _, [] => []
  | s, .key keyEvent nowTime :: is =>
      let r := s.onHandleEvent nowTime keyEvent
      if r.1 then passes r.2 is else keyEvent :: passes r.2 is
  | s, i :: is => passes (keyCommandStep s i) is

/-- The handler after a run: it still waits for a file, or it is the one of the first file
there was. -/
inductive Loaded (is : List (ConfigFiles × KeyCommandInput)) : LoadingHandler → Prop
  | waiting (hfiles : ∀ i ∈ is, i.2.isKey = true → i.1.config = none) :
      Loaded is ⟨runFrom keyCommandStep (.create ParsedConfig.empty.toConfig) (others is), false,
        keysOf is⟩
  | loaded {before after : List (ConfigFiles × KeyCommandInput)} {files : ConfigFiles}
      {keyEvent : KeyEvent} {nowTime : Int} {config : ParsedConfig}
      (hrun : is = before ++ (files, .key keyEvent nowTime) :: after)
      (hfiles : ∀ i ∈ before, i.2.isKey = true → i.1.config = none)
      (hconfig : files.config = some config) :
      Loaded is ⟨runFrom keyCommandStep (.create config.toConfig)
          (others before ++ .key keyEvent nowTime :: after.map Prod.snd), true,
        keysOf before ++ passes (runFrom keyCommandStep (.create config.toConfig) (others before))
          (.key keyEvent nowTime :: after.map Prod.snd)⟩

namespace LoadingHandler

/-- A handler with its configuration asks for no file. -/
theorem runFrom_parsed (handler : KeyCommandHandler) (passedOn : List KeyEvent)
    (is : List (ConfigFiles × KeyCommandInput)) :
    runFrom step ⟨handler, true, passedOn⟩ is =
      ⟨runFrom keyCommandStep handler (is.map Prod.snd), true,
        passedOn ++ passes handler (is.map Prod.snd)⟩ := by
  induction is generalizing handler passedOn with
  | nil => simp [passes]
  | cons i is ih =>
    obtain ⟨files, input⟩ := i
    rw [runFrom_cons, List.map_cons, runFrom_cons]
    cases input with
    | key keyEvent nowTime =>
      simp only [step, handleKeyEvent, onHandleEvent, if_true, passes, keyCommandStep]
      split
      · exact ih _ _
      · rw [ih, List.append_assoc]
        rfl
    | processNext => exact ih _ _
    | addSubscriberTimer => exact ih _ _
    | clearSubscriberTimer => exact ih _ _
    | otherAdd => exact ih _ _
    | otherRemove => exact ih _ _
    | otherReset => exact ih _ _

/-- A handler that waits, and has taken no file so far. -/
theorem runFrom_waiting {s : KeyCommandHandler} (hshort : s.shortcutKeys = .empty)
    (hseqs : s.sequences = []) (passedOn : List KeyEvent)
    {is : List (ConfigFiles × KeyCommandInput)}
    (hfiles : ∀ i ∈ is, i.2.isKey = true → i.1.config = none) :
    runFrom step ⟨s, false, passedOn⟩ is
      = ⟨runFrom keyCommandStep s (others is), false, passedOn ++ keysOf is⟩ := by
  induction is generalizing s passedOn with
  | nil => simp [others, keysOf]
  | cons i is ih =>
    obtain ⟨files, input⟩ := i
    obtain ⟨hi, his⟩ := List.forall_mem_cons.mp hfiles
    cases hkey : input.isKey with
    | true =>
      obtain ⟨keyEvent, nowTime, rfl⟩ := KeyCommandInput.eq_key hkey
      have hnone : files.config = none := hi rfl
      have hstep : step ⟨s, false, passedOn⟩ (files, .key keyEvent nowTime)
          = ⟨s, false, passedOn ++ [keyEvent]⟩ := by
        simp [step, handleKeyEvent, onHandleEvent, KeyCommandHandler.parseConfig_eq hshort hseqs,
          hnone]
      rw [runFrom_cons, hstep, ih hshort hseqs _ his]
      simp [others, keysOf, KeyCommandInput.isKey]
    | false =>
      have hself : s.configured ParsedConfig.empty.toConfig = s := by
        cases s
        cases hshort
        cases hseqs
        rfl
      have hkeeps := keyCommandStep_configured s ParsedConfig.empty.toConfig hkey
      rw [hself] at hkeeps
      have hshort' : (keyCommandStep s input).shortcutKeys = .empty :=
        congrArg KeyCommandHandler.shortcutKeys hkeeps
      have hseqs' : (keyCommandStep s input).sequences = [] :=
        congrArg KeyCommandHandler.sequences hkeeps
      have hstep : step ⟨s, false, passedOn⟩ (files, input)
          = ⟨keyCommandStep s input, false, passedOn⟩ := by
        cases input with
        | key => cases hkey
        | _ => rfl
      have hothers : others ((files, input) :: is) = input :: others is := by
        simp [others, hkey]
      have hkeys : keysOf ((files, input) :: is) = keysOf is := by
        cases input with
        | key => cases hkey
        | _ => rfl
      rw [runFrom_cons, hstep, ih hshort' hseqs' _ his, hothers, hkeys, runFrom_cons]

/-- At the key event that finds a file, the handler is the one of that file. -/
theorem step_loading {s : KeyCommandHandler} (hshort : s.shortcutKeys = .empty)
    (hseqs : s.sequences = []) (passedOn : List KeyEvent) {files : ConfigFiles}
    {config : ParsedConfig} (hconfig : files.config = some config) (keyEvent : KeyEvent)
    (nowTime : Int) :
    step ⟨s, false, passedOn⟩ (files, .key keyEvent nowTime)
      = step ⟨s.configured config.toConfig, true, passedOn⟩ (files, .key keyEvent nowTime) := by
  simp [step, handleKeyEvent, onHandleEvent, KeyCommandHandler.parseConfig_eq hshort hseqs,
    hconfig]

end LoadingHandler

/-- Every run of the handler is one of a handler that has its configuration from the start. -/
theorem run_loaded (is : List (ConfigFiles × KeyCommandInput)) :
    Loaded is (runFrom LoadingHandler.step .create is) := by
  cases hfind : is.find? fun i => i.2.isKey && i.1.config.isSome with
  | none =>
    have hfiles : ∀ i ∈ is, i.2.isKey = true → i.1.config = none := by
      intro i hi hkey
      have h := List.find?_eq_none.mp hfind i hi
      simpa [hkey] using h
    have h := LoadingHandler.runFrom_waiting (s := .create ParsedConfig.empty.toConfig) rfl rfl []
      hfiles
    exact h ▸ .waiting hfiles
  | some i =>
    obtain ⟨hi, before, after, rfl, hbefore⟩ := List.find?_eq_some_iff_append.mp hfind
    obtain ⟨files, input⟩ := i
    obtain ⟨hkey, hsome⟩ : input.isKey = true ∧ files.config.isSome = true := by simpa using hi
    obtain ⟨config, hconfig⟩ := Option.isSome_iff_exists.mp hsome
    obtain ⟨keyEvent, nowTime, rfl⟩ := KeyCommandInput.eq_key hkey
    have hfiles : ∀ i ∈ before, i.2.isKey = true → i.1.config = none := by
      intro i hmem hkey
      simpa [hkey] using hbefore i hmem
    have hwaiting := LoadingHandler.runFrom_waiting
      (s := .create ParsedConfig.empty.toConfig) rfl rfl [] hfiles
    have hnot : ∀ i ∈ others before, i.isKey = false := by
      intro i hmem
      simpa using (List.mem_filter.mp hmem).2
    -- The handler that waits can be given any configuration afterwards.
    have hlater : ∀ config : ParsedConfig, runFrom keyCommandStep (.create config.toConfig)
        (others before) = (runFrom keyCommandStep (.create ParsedConfig.empty.toConfig)
          (others before)).configured config.toConfig := fun config =>
      runFrom_configured config.toConfig hnot (.create ParsedConfig.empty.toConfig)
    have hshort := congrArg KeyCommandHandler.shortcutKeys (hlater .empty)
    have hseqs := congrArg KeyCommandHandler.sequences (hlater .empty)
    have hstep := LoadingHandler.step_loading hshort hseqs (keysOf before) hconfig keyEvent nowTime
    have hrun := LoadingHandler.runFrom_parsed
      (runFrom keyCommandStep (.create config.toConfig) (others before)) (keysOf before)
      ((files, .key keyEvent nowTime) :: after)
    rw [runFrom_cons, hlater config, ← hstep, ← runFrom_cons, ← hlater config] at hrun
    have hwhole : runFrom LoadingHandler.step .create
          (before ++ (files, .key keyEvent nowTime) :: after)
        = runFrom LoadingHandler.step (runFrom LoadingHandler.step .create before)
            ((files, .key keyEvent nowTime) :: after) := runFrom_append _ _ _ _
    have hbefore' : runFrom LoadingHandler.step .create before = _ := hwaiting
    rw [hwhole, hbefore', List.nil_append, hrun, ← runFrom_append]
    exact .loaded rfl hfiles hconfig

end FtMmi.KeyCommand
