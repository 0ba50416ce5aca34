/-
FtMmi.KeyCommand.KeyCommandHandler — shortcuts and key sequences that launch
an ability (`KeyCommandHandler` in `key_command_handler.h`,
`key_command_handler.cpp`), once the configuration is parsed.

The handler works on the one `TimerManager` of the server; the callback of
a timer is what its closure captures. The subscribers of the next handler
are known by what `RemoveSubscriberKeyUpTimer` reads of them. The clock is
read once for an event, and the difference of two action times does not
overflow.

`HandleSequences` goes through `filterSequences_` by reference, and a launch
clears that list under it. What is read of a candidate after that is taken
to be what was there; `Access` notes how many candidates the list holds at
each access, so that such reads are seen.

Null checks, logs and the reports of `DfxHisysevent` are left out.
-/
import FtMmi.EventHandler.KeyAutoRepeat

namespace FtMmi.KeyCommand

open FtMmi.Event
open FtMmi.EventHandler
open FtMmi.Timer

/-! ## Data -/

structure Ability where
  bundleName : String := ""
  abilityName : String := ""
  action : String := ""
  type : String := ""
  deviceId : String := ""
  uri : String := ""
  entities : List String := []
  params : List (String × String) := []
  deriving DecidableEq, Repr

structure ShortcutKey where
  preKeys : Finset Int32 := ∅
  finalKey : Int32 := -1
  keyDownDuration : Int32 := 0
  triggerType : Int32 := keyActionDown
  timerId : Int := -1
  ability : Ability := {}
  deriving DecidableEq

structure SequenceKey where
  keyCode : Int32 := -1
  keyAction : Int32 := 0
  actionTime : Int := 0
  delay : Int := 0
  deriving DecidableEq, Repr

/-- `operator!=` does not hold. -/
def SequenceKey.same (key sequenceKey : SequenceKey) : Bool :=
  key.keyCode = sequenceKey.keyCode ∧ key.keyAction = sequenceKey.keyAction

structure Sequence where
  sequenceKeys : List SequenceKey
  abilityStartDelay : Int := 0
  timerId : Int := -1
  ability : Ability := {}
  deriving DecidableEq, Repr

def maxSequenceKeysNum : Nat := 10

def maxDelayTime : Int := 1000000

/-- `SECONDS_SYSTEM` -/
def secondsSystem : Int := 1000

def specialKeyDownDelay : Int := 150

inductive SpecialType where
  | specialAll
  | subscriberBeforeDelay
  | keyDownAction
  deriving DecidableEq, Repr

/-- `SPECIAL_KEYS` -/
def specialKeyTypes : List (Int32 × SpecialType) :=
  [(keyCodePower, .keyDownAction), (keyCodeVolumeDown, .specialAll),
    (keyCodeVolumeUp, .specialAll)]

def isSpecialType (keyCode : Int32) (type : SpecialType) : Bool :=
  match specialKeyTypes.lookup keyCode with
  | none => false
  | some special => special = .specialAll ∨ special = type

/-- What `StartAbility` is called with. The type is set to the URI. -/
structure Want where
  deviceId : String
  bundleName : String
  abilityName : String
  action : String
  uri : String
  type : String
  entities : List String
  params : List (String × String)
  deriving DecidableEq, Repr

def Ability.want (ability : Ability) : Want where
  deviceId := ability.deviceId
  bundleName := ability.bundleName
  abilityName := ability.abilityName
  action := ability.action
  uri := ability.uri
  type := ability.uri
  entities := ability.entities
  params := ability.params

/-! ## The configuration -/

/-- `GenerateKey`. A `std::set` is in order. -/
def generateKey (key : ShortcutKey) : String :=
  ((key.preKeys.image Int32.toInt).sort (· ≤ ·)).foldl
      (fun ss preKey => ss ++ (toString preKey ++ ",")) ""
    ++ toString key.finalKey.toInt ++ "," ++ toString key.triggerType.toInt

/-- `std::map<std::string, ShortcutKey>`: its values, in the order of their keys, which are
those of `GenerateKey`. -/
structure ShortcutMap where
  items : List ShortcutKey
  distinct : (items.map generateKey).Nodup

namespace ShortcutMap

def empty : ShortcutMap := ⟨[], List.nodup_nil⟩

theorem orderedInsert_distinct {items : List ShortcutKey} {key : ShortcutKey}
    (h : (items.map generateKey).Nodup) (hkey : generateKey key ∉ items.map generateKey) :
    ((items.orderedInsert (fun a b => generateKey a < generateKey b) key).map
      generateKey).Nodup := by
  rw [((List.perm_orderedInsert _ key items).map generateKey).nodup_iff, List.map_cons]
  exact List.nodup_cons.mpr ⟨hkey, h⟩

def emplace (m : ShortcutMap) (key : ShortcutKey) : ShortcutMap :=
  if h : generateKey key ∈ m.items.map generateKey then m
  else
    ⟨m.items.orderedInsert (fun a b => generateKey a < generateKey b) key,
      orderedInsert_distinct m.distinct h⟩

/-- The value is written to. -/
def setTimerId (m : ShortcutMap) (shortcutKey : ShortcutKey) (timerId : Int) : ShortcutMap where
  items := m.items.map fun item => if item = shortcutKey then { item with timerId } else item
  distinct := by
    rw [List.map_map]
    have hsame : generateKey ∘ (fun item => if item = shortcutKey then { item with timerId }
        else item) = generateKey := by
      funext item
      by_cases hitem : item = shortcutKey <;> simp [hitem, generateKey]
    rw [hsame]
    exact m.distinct

end ShortcutMap

/-- `ParseShortcutKeys`, of the entries that `ConvertToShortcutKey` accepts. -/
def parseShortcutKeys (converted : List ShortcutKey) : ShortcutMap :=
  converted.foldl ShortcutMap.emplace .empty

/-- `IsSequenceKeysValid`. No key has the same action twice in a row. -/
def isSequenceKeysValid (sequence : Sequence) : Bool :=
  let rec check : (Int32 → Option Int32) → List SequenceKey → Bool
    | _, [] => true
    | actions, item :: items =>
        if actions item.keyCode = some item.keyAction then false
        else check (Function.update actions item.keyCode (some item.keyAction)) items
  if sequence.sequenceKeys.isEmpty then false
  else if maxSequenceKeysNum < sequence.sequenceKeys.length then false
  else check (fun _ => none) sequence.sequenceKeys

/-- A sequence as `ConvertToKeySequence` accepts it. -/
structure Configured (sequence : Sequence) : Prop where
  keys : isSequenceKeysValid sequence = true
  actions : ∀ key ∈ sequence.sequenceKeys, key.keyAction = keyActionDown ∨ key.keyAction = keyActionUp
  delay : 0 ≤ sequence.abilityStartDelay
  timer : sequence.timerId = -1

structure Config where
  shortcuts : List ShortcutKey
  sequences : List Sequence
  configured : ∀ sequence ∈ sequences, Configured sequence

/-! ## State -/

inductive TimerClosure where
  | shortcut (shortcutKey : ShortcutKey)
  | sequence (sequence : Sequence)
  /-- A special key is handed to the subscribers. -/
  | special (keyEvent : KeyEvent)
  | subscriber (ref : Nat) (finalKey : Int32)
  | other (component : Nat)
  deriving DecidableEq

/-- A subscriber with a timer. -/
structure SubscriberTimer where
  ref : Nat
  finalKey : Int32
  timerId : Int
  deriving DecidableEq, Repr

structure KeyCommandHandler where
  lastMatchedKey : ShortcutKey
  shortcutKeys : ShortcutMap
  sequences : List Sequence
  filterSequences : List Sequence
  keys : List SequenceKey
  specialKeys : Int32 → Option Int32
  specialTimers : Int32 → Option (List Int)
  /-- `TimerMgr` -/
  timers : TimerManager TimerClosure
  subscribers : List SubscriberTimer
  /-- The calls of `StartAbility`. -/
  launched : List Want
  /-- The events that the callbacks of the special keys hand on. -/
  handedOn : List KeyEvent

namespace KeyCommandHandler

/-- The handler when the configuration is parsed. -/
def create (config : Config) : KeyCommandHandler where
  lastMatchedKey := {}
  shortcutKeys := parseShortcutKeys config.shortcuts
  sequences := config.sequences
  filterSequences := []
  keys := []
  specialKeys := fun _ => none
  specialTimers := fun _ => none
  timers := .create
  subscribers := []
  launched := []
  handedOn := []

def resetLastMatchedKey (s : KeyCommandHandler) : KeyCommandHandler :=
  { s with
    lastMatchedKey := { s.lastMatchedKey with
      preKeys := ∅, finalKey := -1, timerId := -1, keyDownDuration := 0 } }

def resetSequenceKeys (s : KeyCommandHandler) : KeyCommandHandler :=
  { s with keys := [], filterSequences := [] }

/-- `TimerMgr->AddTimer` of a one-shot timer. -/
def addTimer (s : KeyCommandHandler) (nowTime intervalMs : Int) (closure : TimerClosure) :
    Int × KeyCommandHandler :=
  let r := s.timers.addTimer nowTime intervalMs 1 (some closure)
  (r.1, { s with timers := r.2 })

/-- `TimerMgr->RemoveTimer` -/
def removeTimer (s : KeyCommandHandler) (timerId : Int) : KeyCommandHandler :=
  { s with timers := (s.timers.removeTimer timerId).2 }

/-- `LaunchAbility(const ShortcutKey &)` -/
def launchShortcut (s : KeyCommandHandler) (key : ShortcutKey) : KeyCommandHandler :=
  { s with launched := s.launched ++ [key.ability.want] }.resetLastMatchedKey

/-- `LaunchAbility(const Sequence &)` -/
def launchSequence (s : KeyCommandHandler) (sequence : Sequence) : KeyCommandHandler :=
  { s with launched := s.launched ++ [sequence.ability.want] }.resetSequenceKeys

end KeyCommandHandler

/-! ## Shortcuts -/

def isKeyMatch (shortcutKey : ShortcutKey) (key : KeyEvent) : Bool :=
  if key.keyCode ≠ shortcutKey.finalKey ∨ shortcutKey.triggerType ≠ key.keyAction then false
  else if shortcutKey.preKeys.card + 1 ≠ key.keys.length then false
  else key.keys.all fun item => item.keyCode = key.keyCode ∨ item.keyCode ∈ shortcutKey.preKeys

/-- A release that comes soon enough, in `HandleKeyUp`. -/
def releasedInTime (keyEvent : KeyEvent) (shortcutKey : ShortcutKey) : Bool :=
  match keyEvent.getKeyItem keyEvent.keyCode with
  | none => false
  | some keyItem =>
      keyEvent.actionTime.toInt - keyItem.downTime.toInt < shortcutKey.keyDownDuration.toInt * 1000

namespace KeyCommandHandler

def handleKeyDown (s : KeyCommandHandler) (nowTime : Int) (shortcutKey : ShortcutKey) :
    Bool × KeyCommandHandler :=
  if shortcutKey.keyDownDuration = 0 then (true, s.launchShortcut shortcutKey)
  else
    let r := s.addTimer nowTime shortcutKey.keyDownDuration.toInt (.shortcut shortcutKey)
    let s := { r.2 with shortcutKeys := r.2.shortcutKeys.setTimerId shortcutKey r.1 }
    if r.1 < 0 then (false, s)
    else (true, { s with lastMatchedKey := { shortcutKey with timerId := r.1 } })

def handleKeyUp (s : KeyCommandHandler) (keyEvent : KeyEvent) (shortcutKey : ShortcutKey) :
    Bool × KeyCommandHandler :=
  if shortcutKey.keyDownDuration = 0 then (true, s.launchShortcut shortcutKey)
  else if releasedInTime keyEvent shortcutKey then (true, s.launchShortcut shortcutKey)
  else (false, s)

def handleKeyCancel (s : KeyCommandHandler) (shortcutKey : ShortcutKey) :
    Bool × KeyCommandHandler :=
  let s := { s with shortcutKeys := s.shortcutKeys.setTimerId shortcutKey (-1) }
  (false, s.removeTimer shortcutKey.timerId)

/-- The first shortcut that matches. -/
def matchShortcut (s : KeyCommandHandler) (keyEvent : KeyEvent) : Option ShortcutKey :=
  s.shortcutKeys.items.find? fun shortcutKey => isKeyMatch shortcutKey keyEvent

def handleShortKeys (s : KeyCommandHandler) (nowTime : Int) (keyEvent : KeyEvent) :
    Bool × KeyCommandHandler :=
  if s.shortcutKeys.items.isEmpty then (false, s)
  else if isKeyMatch s.lastMatchedKey keyEvent then (true, s)
  else
    let s := if 0 ≤ s.lastMatchedKey.timerId then s.removeTimer s.lastMatchedKey.timerId else s
    let s := s.resetLastMatchedKey
    match s.matchShortcut keyEvent with
    | none => (false, s)
    | some shortcutKey =>
        if shortcutKey.triggerType = keyActionDown then s.handleKeyDown nowTime shortcutKey
        else if shortcutKey.triggerType = keyActionUp then s.handleKeyUp keyEvent shortcutKey
        else s.handleKeyCancel shortcutKey

end KeyCommandHandler

/-! ## Sequences -/

/-- The key of an event, as it is added. -/
def SequenceKey.ofEvent (keyEvent : KeyEvent) : SequenceKey where
  keyCode := keyEvent.keyCode
  keyAction := keyEvent.keyAction
  actionTime := keyEvent.actionTime.toInt

/-- The comparison in `HandleSequence` of the typed keys with those of a sequence; the
delay of the last one does not count. -/
def matchesKeys : List SequenceKey → List SequenceKey → Bool
  | [], _ => true
  | _ :: _, [] => false
  | key :: keys, sequenceKey :: sequenceKeys =>
      key.same sequenceKey &&
        (keys.isEmpty || sequenceKey.delay = 0 || key.delay < sequenceKey.delay) &&
        matchesKeys keys sequenceKeys

/-- An access to the candidate at an index, and how many the list holds. -/
structure Access where
  index : Nat
  size : Nat
  deriving DecidableEq, Repr

/-- The candidate accessed is in the list. -/
def Access.inList (access : Access) : Prop := access.index < access.size

instance (access : Access) : Decidable access.inList := inferInstanceAs (Decidable (_ < _))

/-- What `HandleSequence` does with a candidate. -/
structure Handled where
  /-- The value returned. -/
  keeps : Bool
  /-- `isLaunchAbility` is set. -/
  launches : Bool
  sequence : Sequence
  /-- How many candidates the list holds at each access to this one. -/
  sizes : List Nat
  state : KeyCommandHandler

/-- What the loop of `HandleSequences` does. -/
structure Pass where
  tempSeqs : List Sequence
  isLaunchAbility : Bool
  accesses : List Access
  state : KeyCommandHandler

namespace KeyCommandHandler

def isRepeatKeyEvent (s : KeyCommandHandler) (sequenceKey : SequenceKey) : Bool :=
  match s.keys.reverse.find? fun key => key.keyCode = sequenceKey.keyCode with
  | some key => key.keyAction = sequenceKey.keyAction
  | none => false

def interruptTimers (s : KeyCommandHandler) : KeyCommandHandler :=
  { s with
    timers := (s.filterSequences.filter fun item => 0 ≤ item.timerId).foldl
      (fun timers item => (timers.removeTimer item.timerId).2) s.timers
    filterSequences := s.filterSequences.map fun item =>
      if 0 ≤ item.timerId then { item with timerId := -1 } else item }

/-- The time since the last key is written to it. -/
def setLastDelay (s : KeyCommandHandler) (last : SequenceKey) (delay : Int) : KeyCommandHandler :=
  { s with keys := s.keys.dropLast ++ [{ last with delay }] }

/-- The end of `AddSequenceKey`. The size was taken at its start. -/
def pushKey (s : KeyCommandHandler) (size : Nat) (sequenceKey : SequenceKey) :
    Bool × KeyCommandHandler :=
  if maxSequenceKeysNum < size then (false, s)
  else (true, { s with keys := s.keys ++ [sequenceKey] })

def addSequenceKey (s : KeyCommandHandler) (keyEvent : KeyEvent) : Bool × KeyCommandHandler :=
  let sequenceKey := SequenceKey.ofEvent keyEvent
  let size := s.keys.length
  match s.keys.getLast? with
  | none => s.pushKey size sequenceKey
  | some last =>
      if sequenceKey.actionTime < last.actionTime then (false, s.resetSequenceKeys)
      else if maxDelayTime < sequenceKey.actionTime - last.actionTime then
        s.resetSequenceKeys.pushKey size sequenceKey
      else if s.isRepeatKeyEvent sequenceKey then (false, s)
      else
        (s.setLastDelay last (sequenceKey.actionTime - last.actionTime)).interruptTimers.pushKey
          size sequenceKey

def handleSequence (s : KeyCommandHandler) (nowTime : Int) (sequence : Sequence) : Handled :=
  let size := s.filterSequences.length
  if sequence.sequenceKeys.length < s.keys.length then ⟨false, false, sequence, [size], s⟩
  else if !matchesKeys s.keys sequence.sequenceKeys then ⟨false, false, sequence, [size], s⟩
  else if s.keys.length = sequence.sequenceKeys.length then
    if sequence.abilityStartDelay = 0 then
      -- `LaunchAbility` reads the candidate once more after it has cleared the list.
      let s' := s.launchSequence sequence
      ⟨true, true, sequence, [size, size, s'.filterSequences.length], s'⟩
    else
      let r := s.addTimer nowTime (sequence.abilityStartDelay.tdiv secondsSystem) (.sequence sequence)
      let sequence := { sequence with timerId := r.1 }
      if r.1 < 0 then ⟨false, false, sequence, [size, size], r.2⟩
      else ⟨true, true, sequence, [size, size], r.2⟩
  else ⟨true, false, sequence, [size], s⟩

/-- The loop of `HandleSequences` over the candidates from an index on. -/
def forCandidates (nowTime : Int) : Nat → List Sequence → KeyCommandHandler → Pass
  | _, [], s => ⟨[], false, [], s⟩
  | i, item :: items, s =>
      let h := s.handleSequence nowTime item
      let s' := { h.state with filterSequences := h.state.filterSequences.set i h.sequence }
      let p := forCandidates nowTime (i + 1) items s'
      -- `tempSeqs.push_back(item)` reads the candidate again.
      let sizes := if h.keeps then h.sizes ++ [s'.filterSequences.length] else h.sizes
      { tempSeqs := if h.keeps then h.sequence :: p.tempSeqs else p.tempSeqs
        isLaunchAbility := h.launches || p.isLaunchAbility
        accesses := sizes.map (Access.mk i) ++ p.accesses
        state := p.state }

/-! ## Special keys -/

def removeSubscriberKeyUpTimer (s : KeyCommandHandler) (keyCode : Int32) : KeyCommandHandler :=
  { s with
    timers := (s.subscribers.filter fun item => item.finalKey = keyCode).foldl
      (fun timers item => (timers.removeTimer item.timerId).2) s.timers
    subscribers := s.subscribers.filter fun item => item.finalKey ≠ keyCode }

def removeSubscribedTimer (s : KeyCommandHandler) (keyCode : Int32) : KeyCommandHandler :=
  match s.specialTimers keyCode with
  | none => s
  | some timerIds =>
      { s with
        timers := timerIds.foldl (fun timers timerId => (timers.removeTimer timerId).2) s.timers
        specialTimers := Function.update s.specialTimers keyCode none }

def handleSpecialKeys (s : KeyCommandHandler) (keyCode keyAction : Int32) : KeyCommandHandler :=
  if keyAction = keyActionUp ∧ (s.specialKeys keyCode).isSome then
    { s with specialKeys := Function.update s.specialKeys keyCode none }
  else if keyAction = keyActionDown ∧ (s.specialKeys keyCode).isNone then
    { s with specialKeys := Function.update s.specialKeys keyCode (some keyAction) }
  else s

/-- What a launch does about a key typed. -/
def claimKey (s : KeyCommandHandler) (item : SequenceKey) : KeyCommandHandler :=
  let s := if isSpecialType item.keyCode .keyDownAction then
      s.handleSpecialKeys item.keyCode item.keyAction
    else s
  (s.removeSubscriberKeyUpTimer item.keyCode).removeSubscribedTimer item.keyCode

def claimKeys (s : KeyCommandHandler) : KeyCommandHandler := s.keys.foldl claimKey s

/-- The candidates when there are none left are all sequences. -/
def refill (s : KeyCommandHandler) : KeyCommandHandler :=
  if s.filterSequences.isEmpty then { s with filterSequences := s.sequences } else s

/-- The loop of `HandleSequences`, from the state in which it starts. -/
def pass (s : KeyCommandHandler) (nowTime : Int) : Pass :=
  forCandidates nowTime 0 s.filterSequences s

/-- The end of `HandleSequences`. -/
def settle (p : Pass) : KeyCommandHandler :=
  let s := if p.isLaunchAbility then p.state.claimKeys else p.state
  if p.tempSeqs.isEmpty then s else { s with filterSequences := p.tempSeqs }

def handleSequences (s : KeyCommandHandler) (nowTime : Int) (keyEvent : KeyEvent) :
    Bool × KeyCommandHandler :=
  if s.sequences.isEmpty then (false, s)
  else
    let r := s.addSequenceKey keyEvent
    if !r.1 then (false, r.2)
    else
      let p := r.2.refill.pass nowTime
      (p.isLaunchAbility, settle p)

/-! ## Events -/

/-- A special key that waits for its delay. -/
def delaySpecialKey (s : KeyCommandHandler) (nowTime : Int) (key : KeyEvent) :
    Bool × KeyCommandHandler :=
  let r := s.addTimer nowTime specialKeyDownDelay (.special key.copy)
  if r.1 < 0 then (false, r.2)
  else
    let timerIds := (r.2.specialTimers key.keyCode).getD [] ++ [r.1]
    (true, { r.2 with specialTimers := Function.update r.2.specialTimers key.keyCode (some timerIds) })

def onHandleEvent (s : KeyCommandHandler) (nowTime : Int) (key : KeyEvent) :
    Bool × KeyCommandHandler :=
  let short := s.handleShortKeys nowTime key
  let r := short.2.handleSequences nowTime key
  if r.1 || short.1 then (true, r.2)
  else if (r.2.specialKeys key.keyCode).isSome then
    (true, r.2.handleSpecialKeys key.keyCode key.action)
  else if isSpecialType key.keyCode .subscriberBeforeDelay then r.2.delaySpecialKey nowTime key
  else (false, r.2)

/-- The callback of a timer. That of a subscriber is `OnTimer`. -/
def onTimer (s : KeyCommandHandler) : TimerClosure → KeyCommandHandler
  | .shortcut shortcutKey => s.launchShortcut shortcutKey
  | .sequence sequence => s.launchSequence sequence
  | .special keyEvent =>
      { s with
        specialTimers := Function.update s.specialTimers keyEvent.keyCode
          ((s.specialTimers keyEvent.keyCode).map List.tail)
        handedOn := s.handedOn ++ [keyEvent] }
  | .subscriber ref _ => { s with subscribers := s.subscribers.filter fun item => item.ref ≠ ref }
  | .other _ => s

/-- One round of `ProcessTimers`. -/
def processNext (s : KeyCommandHandler) (nowTime : Int) : KeyCommandHandler :=
  let r := s.timers.processNext nowTime
  match r.1 with
  | .fired closure => { s with timers := r.2 }.onTimer closure
  | .idle => { s with timers := r.2 }
  | .dropped => { s with timers := r.2 }

/-- `KeySubscriberHandler::AddTimer` of a subscriber that has no timer. -/
def addSubscriberTimer (s : KeyCommandHandler) (ref : Nat) (finalKey : Int32)
    (nowTime duration : Int) : KeyCommandHandler :=
  if s.subscribers.any fun item => item.ref = ref then s
  else
    let r := s.addTimer nowTime duration (.subscriber ref finalKey)
    if r.1 < 0 then r.2 else { r.2 with subscribers := r.2.subscribers ++ [⟨ref, finalKey, r.1⟩] }

/-- `KeySubscriberHandler::ClearTimer` -/
def clearSubscriberTimer (s : KeyCommandHandler) (ref : Nat) : KeyCommandHandler :=
  match s.subscribers.find? fun item => item.ref = ref with
  | none => s
  | some item =>
      { s.removeTimer item.timerId with
        subscribers := s.subscribers.filter fun item => item.ref ≠ ref }

end KeyCommandHandler

inductive KeyCommandInput where
  | key (keyEvent : KeyEvent) (nowTime : Int)
  | processNext (nowTime : Int)
  | addSubscriberTimer (ref : Nat) (finalKey : Int32) (nowTime duration : Int)
  | clearSubscriberTimer (ref : Nat)
  | otherAdd (component : Nat) (nowTime intervalMs repeatCount : Int)
  | otherRemove (timerId : Int)
  | otherReset (nowTime timerId : Int)

def keyCommandStep (s : KeyCommandHandler) : KeyCommandInput → KeyCommandHandler
  | .key keyEvent nowTime => (s.onHandleEvent nowTime keyEvent).2
  | .processNext nowTime => s.processNext nowTime
  | .addSubscriberTimer ref finalKey nowTime duration =>
      s.addSubscriberTimer ref finalKey nowTime duration
  | .clearSubscriberTimer ref => s.clearSubscriberTimer ref
  | .otherAdd component nowTime intervalMs repeatCount =>
      { s with
        timers := (s.timers.addTimer nowTime intervalMs repeatCount (some (.other component))).2 }
  | .otherRemove timerId => s.removeTimer timerId
  | .otherReset nowTime timerId => { s with timers := (s.timers.resetTimer nowTime timerId).2 }

end FtMmi.KeyCommand
