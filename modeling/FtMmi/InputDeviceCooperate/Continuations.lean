/-
FtMmi.InputDeviceCooperate.Continuations — what a task or a callback of a
state object does to the machine.

Everything is made of five effects: the pair of prepared devices is set, a
callback is saved for a call, a task is posted, `OnStartFinish` is called or
`OnStopFinish` is called. `taskEffects` and `callbackEffects` list them in
their order; `performTask_eq` and `performCallback_eq` say that a
continuation does what its list says, so that what each effect keeps, every
continuation keeps.

* `applyEffects_core` — a continuation changes what the other side can see
  by one call of `OnStartFinish` or `OnStopFinish` at most, and by none if
  neither flag is set.
-/
import FtMmi.InputDeviceCooperate.InputDeviceCooperateSM

namespace FtMmi.InputDeviceCooperate

namespace CooperateSM

/-! ## The end of an attempt, case by case -/

/-- What has been sent after a message is. -/
def outbox (env : Surroundings) (sent : List (String × Message)) (remoteDeviceId : String)
    (message : Message) : List (String × Message) :=
  if env.sends remoteDeviceId then sent ++ [(remoteDeviceId, message)] else sent

theorem send_snd (env : Surroundings) (s : CooperateSM) (remoteDeviceId : String)
    (message : Message) :
    (s.send env remoteDeviceId message).2 =
      { s with sent := outbox env s.sent remoteDeviceId message } := by
  unfold send outbox
  split <;> rfl

/-- What has been sent after a start is reported to have succeeded. -/
def startSent (env : Surroundings) (s : CooperateSM) (remoteNetworkId : String) (dev : Int32) :
    List (String × Message) :=
  outbox env s.sent remoteNetworkId (.startRemoteCooperateResult true (env.getDhid dev)
    s.mouseLocation.1 s.mouseLocation.2)

/-- What `OnStartFinish` can do. -/
inductive StartFinishes (env : Surroundings) (s : CooperateSM) (attempt : Nat)
    (remoteNetworkId : String) (dev : Int32) : Bool → CooperateSM → Prop
  | dropped {isSuccess : Bool} (hs : s.isStarting = false) :
      StartFinishes env s attempt remoteNetworkId dev isSuccess
        (s.finish ⟨.start, attempt, isSuccess, .dropped⟩)
  | failed (hs : s.isStarting = true) :
      StartFinishes env s attempt remoteNetworkId dev false
        { s with
          sent := outbox env s.sent remoteNetworkId (.startRemoteCooperateResult false "" 0 0)
          finishes := s.finishes ++ [⟨.start, attempt, false, .failed⟩]
          isStarting := false }
  | free (hs : s.isStarting = true) (hstate : s.cooperateState = .stateFree) :
      StartFinishes env s attempt remoteNetworkId dev true
        { renew
            { s with
              startDhid := env.getDhid dev
              sent := s.startSent env remoteNetworkId dev
              finishes := s.finishes ++ [⟨.start, attempt, true, .succeeded s.cooperateState⟩] }
            .stateOut with
          isStarting := false }
  | into {sent : List (String × Message)} (hs : s.isStarting = true)
      (hstate : s.cooperateState = .stateIn)
      (hsent : sent = s.startSent env remoteNetworkId dev ∨
        remoteNetworkId ≠ env.getOriginNetworkId dev ∧
          sent = outbox env (s.startSent env remoteNetworkId dev) (env.getOriginNetworkId dev)
            (.startCooperateOtherResult remoteNetworkId)) :
      StartFinishes env s attempt remoteNetworkId dev true
        (reset { s with
          startDhid := env.getDhid dev
          sent
          finishes := s.finishes ++ [⟨.start, attempt, true, .succeeded s.cooperateState⟩] })
  | out (hs : s.isStarting = true) (hstate : s.cooperateState = .stateOut) :
      StartFinishes env s attempt remoteNetworkId dev true
        { s with
          startDhid := env.getDhid dev
          sent := s.startSent env remoteNetworkId dev
          finishes := s.finishes ++ [⟨.start, attempt, true, .succeeded s.cooperateState⟩]
          isStarting := false }

theorem onStartFinish_cases (env : Surroundings) (s : CooperateSM) (attempt : Nat)
    (isSuccess : Bool) (remoteNetworkId : String) (dev : Int32) :
    StartFinishes env s attempt remoteNetworkId dev isSuccess
      (s.onStartFinish env attempt isSuccess remoteNetworkId dev) := by
  unfold onStartFinish
  by_cases hs : s.isStarting = true
  · cases isSuccess with
    | false =>
      simp only [hs, send_snd, finish]
      exact .failed hs
    | true =>
      simp only [hs, Bool.not_true, Bool.false_eq_true, if_false, send_snd, finish]
      split
      · rename_i hstate
        exact .free hs hstate
      · rename_i hstate
        split
        · rename_i hsink
          exact .into hs hstate (Or.inr ⟨hsink.2, rfl⟩)
        · exact .into hs hstate (Or.inl rfl)
      · rename_i hstate
        exact .out hs hstate
  · have hs' : s.isStarting = false := by simpa using hs
    simp only [hs']
    exact .dropped hs'

/-- What `OnStopFinish` can do. -/
inductive StopFinishes (env : Surroundings) (s : CooperateSM) (attempt : Nat)
    (remoteNetworkId : String) : Bool → CooperateSM → Prop
  | dropped {isSuccess : Bool} (hs : s.isStopping = false) :
      StopFinishes env s attempt remoteNetworkId isSuccess
        (s.finish ⟨.stop, attempt, isSuccess, .dropped⟩)
  | failed (hs : s.isStopping = true) :
      StopFinishes env s attempt remoteNetworkId false
        { s with
          sent := outbox env s.sent remoteNetworkId (.stopRemoteCooperateResult false)
          finishes := s.finishes ++ [⟨.stop, attempt, false, .failed⟩]
          isStopping := false }
  | free (hs : s.isStopping = true) (hstate : s.cooperateState = .stateFree) :
      StopFinishes env s attempt remoteNetworkId true
        { s with
          sent := outbox env s.sent remoteNetworkId (.stopRemoteCooperateResult true)
          finishes := s.finishes ++ [⟨.stop, attempt, true, .succeeded s.cooperateState⟩]
          isStopping := false }
  | ended (hs : s.isStopping = true) (hstate : s.cooperateState ≠ .stateFree) :
      StopFinishes env s attempt remoteNetworkId true
        (reset { s with
          sent := outbox env s.sent remoteNetworkId (.stopRemoteCooperateResult true)
          finishes := s.finishes ++ [⟨.stop, attempt, true, .succeeded s.cooperateState⟩] })

theorem onStopFinish_cases (env : Surroundings) (s : CooperateSM) (attempt : Nat)
    (isSuccess : Bool) (remoteNetworkId : String) :
    StopFinishes env s attempt remoteNetworkId isSuccess
      (s.onStopFinish env attempt isSuccess remoteNetworkId) := by
  unfold onStopFinish
  by_cases hs : s.isStopping = true
  · cases isSuccess with
    | false =>
      simp only [hs, send_snd, finish]
      exact .failed hs
    | true =>
      simp only [hs, Bool.not_true, Bool.false_eq_true, if_false, if_true, send_snd, finish]
      split
      · rename_i hstate
        refine .ended hs ?_
        obtain h | h := hstate <;> simp [h]
      · rename_i hstate
        refine .free hs ?_
        cases h : s.cooperateState <;> simp [h] at hstate ⊢
  · have hs' : s.isStopping = false := by simpa using hs
    simp only [hs']
    exact .dropped hs'

end CooperateSM

/-! ## Effects -/

inductive Effect where
  | prepared (networkIds : String × String)
  | saved (type : CallbackType) (callback : DInputCallback)
  | posted (task : Task)
  | startFinish (isSuccess : Bool) (remoteNetworkId : String) (startInputDeviceId : Int32)
  | stopFinish (isSuccess : Bool) (remoteNetworkId : String)

variable (env : Surroundings) (c : Capture)

def applyEffect (s : CooperateSM) : Effect → CooperateSM
  | .prepared networkIds => { s with preparedNetworkId := networkIds }
  | .saved type callback => (s.callDInput env type (some (c, callback))).2
  | .posted task => s.post c task
  | .startFinish isSuccess remoteNetworkId startInputDeviceId =>
      s.onStartFinish env c.attempt isSuccess remoteNetworkId startInputDeviceId
  | .stopFinish isSuccess remoteNetworkId => s.onStopFinish env c.attempt isSuccess remoteNetworkId

def applyEffects (s : CooperateSM) (es : List Effect) : CooperateSM :=
  es.foldl (applyEffect env c) s

@[simp] theorem applyEffects_nil (s : CooperateSM) : applyEffects env c s [] = s := rfl

@[simp] theorem applyEffects_cons (s : CooperateSM) (e : Effect) (es : List Effect) :
    applyEffects env c s (e :: es) = applyEffects env c (applyEffect env c s e) es := rfl

theorem applyEffects_append (s : CooperateSM) (es fs : List Effect) :
    applyEffects env c s (es ++ fs) = applyEffects env c (applyEffects env c s es) fs :=
  List.foldl_append

/-- What each effect keeps, a list of them keeps. -/
theorem applyEffects_keeps {P : CooperateSM → Prop} {es : List Effect}
    (h : ∀ s, P s → ∀ e ∈ es, P (applyEffect env c s e)) {s : CooperateSM} (hs : P s) :
    P (applyEffects env c s es) := by
  induction es generalizing s with
  | nil => exact hs
  | cons e es ih =>
    refine ih (fun t ht f hf => h t ht f (List.mem_cons_of_mem _ hf)) ?_
    exact h s hs e List.mem_cons_self

/-! ## The effects of a continuation -/

/-- A call of the distributed input, and what is done if it is not taken. -/
def callOr (type : CallbackType) (callback : DInputCallback) (otherwise : List Effect) :
    List Effect :=
  .saved type callback :: if env.accepts type then [] else otherwise

/-- The effects of `startRemoteInput`, and what its caller adds to a failure. -/
def startRemoteInputEffects (src : String) (dev : Int32) (more : List Effect) : List Effect :=
  if (env.getCooperateDhids dev).isEmpty then .startFinish false src dev :: more
  else
    callOr env .startDInputCallbackSink (.onStartRemoteInput src dev)
      (.startFinish false src dev :: more)

def prepareAndStartEffects (preparedNetworkId : String × String) (srcNetworkId : String)
    (dev : Int32) : List Effect :=
  let sinkNetworkId := env.getOriginNetworkId dev
  if preparedNetworkId ≠ (srcNetworkId, sinkNetworkId) then
    .prepared (srcNetworkId, sinkNetworkId) ::
      callOr env .prepareStartDInputCallbackSink (.onPrepareDistributedInput srcNetworkId dev)
        [.startFinish false sinkNetworkId dev, .prepared ("", "")]
  else startRemoteInputEffects env preparedNetworkId.1 dev [.startFinish false sinkNetworkId dev]

def relayStopEffects (sinkNetworkId remoteNetworkId : String) (dev : Int32) : List Effect :=
  callOr env .stopDInputCallbackDHIds (.onStopRemoteInput remoteNetworkId dev)
    [.startFinish false sinkNetworkId dev]

def comeBackEffects (sinkNetworkId : String) (dev : Int32) : List Effect :=
  (if (env.getCooperateDhids dev).isEmpty then [Effect.startFinish false sinkNetworkId dev]
    else []) ++
    relayStopEffects env sinkNetworkId sinkNetworkId dev

def processStopEffects (srcNetworkId : String) : List Effect :=
  match c.object.kind with
  | .stateFree => []
  | .stateIn =>
      let sink := env.getOriginNetworkIdOf c.object.startDhid
      callOr env .stopDInputCallbackDHIds (.onStopRemoteInput sink (-1)) [.stopFinish false sink]
  | .stateOut =>
      (if (env.getCooperateDhidsOf c.object.startDhid).isEmpty then
        [.stopFinish false srcNetworkId]
      else []) ++
        callOr env .stopDInputCallbackSink (.onStopRemoteInput srcNetworkId (-1))
          [.stopFinish false srcNetworkId]

def taskEffects (preparedNetworkId : String × String) : Task → List Effect
  | .processStart remoteNetworkId dev =>
      if c.object.kind = .stateIn ∧ remoteNetworkId = env.getOriginNetworkId dev then
        comeBackEffects env remoteNetworkId dev
      else prepareAndStartEffects env preparedNetworkId remoteNetworkId dev
  | .processStop srcNetworkId => processStopEffects env c srcNetworkId
  | .startDinput dev => startRemoteInputEffects env preparedNetworkId.1 dev []
  | .startFinish isSuccess remoteNetworkId dev => [.startFinish isSuccess remoteNetworkId dev]
  | .relayStop sinkNetworkId srcNetworkId _ dev =>
      relayStopEffects env sinkNetworkId srcNetworkId dev
  | .stopFinish isSuccess remoteNetworkId => [.stopFinish isSuccess remoteNetworkId]

def callbackEffects (isStarting isStopping isSuccess : Bool) : DInputCallback → List Effect
  | .onPrepareDistributedInput srcNetworkId dev =>
      if isSuccess then [.posted (.startDinput dev)]
      else [.prepared ("", ""), .startFinish false srcNetworkId dev]
  | .onStartRemoteInput srcNetworkId dev =>
      if c.object.kind = .stateIn ∧ isSuccess then
        [.posted (.relayStop (env.getOriginNetworkId dev) srcNetworkId
          (env.getCooperateDhids dev) dev)]
      else [.posted (.startFinish isSuccess srcNetworkId dev)]
  | .onStopRemoteInput remoteNetworkId dev =>
      if c.object.kind = .stateOut then [.posted (.stopFinish isSuccess remoteNetworkId)]
      else if isStarting then [.posted (.startFinish isSuccess remoteNetworkId dev)]
      else if isStopping then [.posted (.stopFinish isSuccess remoteNetworkId)]
      else []

/-- The call is made, and what follows depends on the answer. -/
theorem applyEffects_callOr (s : CooperateSM) (type : CallbackType) (callback : DInputCallback)
    (otherwise : List Effect) :
    applyEffects env c s (callOr env type callback otherwise) =
      if env.accepts type then (s.callDInput env type (some (c, callback))).2
      else applyEffects env c (s.callDInput env type (some (c, callback))).2 otherwise := by
  by_cases h : env.accepts type <;> simp [callOr, h, applyEffect]

theorem startRemoteInput_eq (s : CooperateSM) (dev : Int32) (more : List Effect) :
    (if (s.startRemoteInput env c dev).1 then (s.startRemoteInput env c dev).2
      else applyEffects env c (s.startRemoteInput env c dev).2 more) =
      applyEffects env c s (startRemoteInputEffects env s.preparedNetworkId.1 dev more) := by
  unfold CooperateSM.startRemoteInput startRemoteInputEffects
  by_cases hd : (env.getCooperateDhids dev).isEmpty
  · simp [hd, applyEffect]
  · simp only [hd, Bool.false_eq_true, if_false, applyEffects_callOr, CooperateSM.callDInput]
    by_cases h : env.accepts .startDInputCallbackSink <;> simp [h, applyEffect]

theorem prepareAndStart_eq (s : CooperateSM) (srcNetworkId : String) (dev : Int32) :
    s.prepareAndStart env c srcNetworkId dev =
      applyEffects env c s (prepareAndStartEffects env s.preparedNetworkId srcNetworkId dev) := by
  unfold CooperateSM.prepareAndStart prepareAndStartEffects
  by_cases hp : s.preparedNetworkId ≠ (srcNetworkId, env.getOriginNetworkId dev)
  · simp only [if_pos hp, applyEffects_cons, applyEffects_callOr, applyEffect]
    by_cases h : env.accepts .prepareStartDInputCallbackSink <;>
      simp [h, CooperateSM.callDInput]
  · simp only [if_neg hp]
    rw [← startRemoteInput_eq]
    simp [applyEffect]

theorem relayStop_eq (s : CooperateSM) (sinkNetworkId srcNetworkId : String) (dev : Int32) :
    s.relayStop env c sinkNetworkId srcNetworkId dev =
      applyEffects env c s (relayStopEffects env sinkNetworkId srcNetworkId dev) := by
  simp only [CooperateSM.relayStop, relayStopEffects, applyEffects_callOr]
  by_cases h : env.accepts .stopDInputCallbackDHIds <;>
    simp [h, CooperateSM.callDInput, applyEffect]

theorem comeBack_eq (s : CooperateSM) (sinkNetworkId : String) (dev : Int32) :
    s.comeBack env c sinkNetworkId dev =
      applyEffects env c s (comeBackEffects env sinkNetworkId dev) := by
  simp only [comeBackEffects, applyEffects_append, ← relayStop_eq, CooperateSM.comeBack,
    CooperateSM.relayStop]
  by_cases hd : (env.getCooperateDhids dev).isEmpty <;> simp [hd, applyEffect]

theorem processStop_eq (s : CooperateSM) (srcNetworkId : String) :
    s.processStop env c srcNetworkId =
      applyEffects env c s (processStopEffects env c srcNetworkId) := by
  unfold CooperateSM.processStop processStopEffects
  cases c.object.kind with
  | stateFree => rfl
  | stateIn =>
    simp only [applyEffects_callOr]
    by_cases h : env.accepts .stopDInputCallbackDHIds <;>
      simp [h, CooperateSM.callDInput, applyEffect]
  | stateOut =>
    simp only [applyEffects_append, applyEffects_callOr]
    by_cases hd : (env.getCooperateDhidsOf c.object.startDhid).isEmpty <;>
      by_cases h : env.accepts .stopDInputCallbackSink <;>
        simp [hd, h, CooperateSM.callDInput, applyEffect]

/-- A task does what its list of effects says. -/
theorem performTask_eq (s : CooperateSM) (task : Task) :
    s.performTask env c task = applyEffects env c s (taskEffects env c s.preparedNetworkId task) := by
  cases task with
  | processStart remoteNetworkId dev =>
    simp only [CooperateSM.performTask, CooperateSM.processStart, taskEffects]
    split
    · exact comeBack_eq env c s remoteNetworkId dev
    · exact prepareAndStart_eq env c s remoteNetworkId dev
  | processStop srcNetworkId => exact processStop_eq env c s srcNetworkId
  | startDinput dev =>
    have h := startRemoteInput_eq env c s dev []
    simpa [CooperateSM.performTask, taskEffects] using h
  | startFinish isSuccess remoteNetworkId dev => rfl
  | relayStop sinkNetworkId srcNetworkId dhids dev =>
    exact relayStop_eq env c s sinkNetworkId srcNetworkId dev
  | stopFinish isSuccess remoteNetworkId => rfl

/-- A callback does what its list of effects says. -/
theorem performCallback_eq (s : CooperateSM) (isSuccess : Bool) (callback : DInputCallback) :
    s.performCallback env c isSuccess callback =
      applyEffects env c s
        (callbackEffects env c s.isStarting s.isStopping isSuccess callback) := by
  cases callback with
  | onPrepareDistributedInput srcNetworkId dev =>
    simp only [CooperateSM.performCallback, CooperateSM.onPrepareDistributedInput, callbackEffects]
    split <;> rfl
  | onStartRemoteInput srcNetworkId dev =>
    simp only [CooperateSM.performCallback, CooperateSM.onStartRemoteInput, callbackEffects]
    split <;> rfl
  | onStopRemoteInput remoteNetworkId dev =>
    simp only [CooperateSM.performCallback, CooperateSM.onStopRemoteInput, callbackEffects]
    split_ifs <;> rfl

/-! ## A task and a callback run -/

theorem runTask_eq (s : CooperateSM) (generation : Nat) :
    s.runTask env generation = s ∨
      ∃ c task, s.tasks.find? (fun t => t.1.object.generation = generation) = some (c, task) ∧
        s.runTask env generation =
          applyEffects env c
            { s with tasks := s.tasks.eraseP fun t => t.1.object.generation = generation }
            (taskEffects env c s.preparedNetworkId task) := by
  unfold CooperateSM.runTask
  cases hf : s.tasks.find? fun t => t.1.object.generation = generation with
  | none => exact Or.inl rfl
  | some item =>
    obtain ⟨c, task⟩ := item
    exact Or.inr ⟨c, task, rfl, performTask_eq env c _ task⟩

theorem processDInputCallback_eq (s : CooperateSM) (type : CallbackType) (isSuccess : Bool) :
    s.processDInputCallback env type isSuccess = s ∨
      s.processDInputCallback env type isSuccess =
          { s with callbackMap := Function.update s.callbackMap type none } ∧
        s.callbackMap type = some none ∨
      ∃ c callback, s.callbackMap type = some (some (c, callback)) ∧
        s.processDInputCallback env type isSuccess =
          applyEffects env c { s with callbackMap := Function.update s.callbackMap type none }
            (callbackEffects env c s.isStarting s.isStopping isSuccess callback) := by
  unfold CooperateSM.processDInputCallback
  cases hc : s.callbackMap type with
  | none => exact Or.inl rfl
  | some saved =>
    cases saved with
    | none => exact Or.inr (Or.inl ⟨rfl, rfl⟩)
    | some item =>
      obtain ⟨c, callback⟩ := item
      exact Or.inr (Or.inr ⟨c, callback, rfl, performCallback_eq env c _ isSuccess callback⟩)

/-! ## One kind of finish -/

/-- What an effect finishes. -/
def Effect.finishes : Effect → Option AttemptKind
  | .startFinish .. => some .start
  | .stopFinish .. => some .stop
  | _ => none

/-- The attempts a task belongs to. -/
def Task.kind : Task → AttemptKind
  | .processStop _ => .stop
  | .stopFinish .. => .stop
  | _ => .start

/-- The effect does not finish an attempt of the other kind. -/
def Effect.OfKind (kind : AttemptKind) (e : Effect) : Prop :=
  e.finishes = none ∨ e.finishes = some kind

@[simp] theorem forall_mem_callOr {P : Effect → Prop} {type : CallbackType}
    {callback : DInputCallback} {otherwise : List Effect} :
    (∀ e ∈ callOr env type callback otherwise, P e) ↔
      P (.saved type callback) ∧ (env.accepts type = false → ∀ e ∈ otherwise, P e) := by
  unfold callOr
  cases env.accepts type <;> simp

theorem startRemoteInputEffects_ofKind (src : String) (dev : Int32) {more : List Effect}
    (h : ∀ e ∈ more, e.OfKind .start) :
    ∀ e ∈ startRemoteInputEffects env src dev more, e.OfKind .start := by
  unfold startRemoteInputEffects
  split
  · simpa [Effect.OfKind, Effect.finishes] using h
  · rw [forall_mem_callOr]
    simpa [Effect.OfKind, Effect.finishes] using fun _ => h

/-- A task calls the finish of its own kind only. -/
theorem taskEffects_ofKind (preparedNetworkId : String × String) (task : Task) :
    ∀ e ∈ taskEffects env c preparedNetworkId task, e.OfKind task.kind := by
  cases task with
  | processStart remoteNetworkId dev =>
    simp only [Task.kind, taskEffects]
    split
    · unfold comeBackEffects
      split <;> simp [relayStopEffects, Effect.OfKind, Effect.finishes]
    · simp only [prepareAndStartEffects]
      split
      · simp [Effect.OfKind, Effect.finishes]
      · exact startRemoteInputEffects_ofKind env _ _ (by simp [Effect.OfKind, Effect.finishes])
  | processStop srcNetworkId =>
    simp only [Task.kind, taskEffects, processStopEffects]
    split
    · simp
    · simp [Effect.OfKind, Effect.finishes]
    · split <;> simp [Effect.OfKind, Effect.finishes]
  | startDinput dev => exact startRemoteInputEffects_ofKind env _ _ (by simp)
  | startFinish isSuccess remoteNetworkId dev =>
    simp [taskEffects, Task.kind, Effect.OfKind, Effect.finishes]
  | relayStop sinkNetworkId srcNetworkId dhids dev =>
    simp [taskEffects, relayStopEffects, Task.kind, Effect.OfKind, Effect.finishes]
  | stopFinish isSuccess remoteNetworkId =>
    simp [taskEffects, Task.kind, Effect.OfKind, Effect.finishes]

/-- A callback calls the finish of a start only. -/
theorem callbackEffects_ofKind (isStarting isStopping isSuccess : Bool)
    (callback : DInputCallback) :
    ∀ e ∈ callbackEffects env c isStarting isStopping isSuccess callback, e.OfKind .start := by
  cases callback <;> simp only [callbackEffects] <;> split_ifs <;>
    simp [Effect.OfKind, Effect.finishes]

/-! ## The core -/

/-- What an attempt is about: the state, the flags, the two ids, and what has
been sent. -/
structure Core where
  cooperateState : CooperateState
  isStarting : Bool
  isStopping : Bool
  srcNetworkId : String
  startDhid : String
  sent : List (String × Message)

def CooperateSM.core (s : CooperateSM) : Core :=
  ⟨s.cooperateState, s.isStarting, s.isStopping, s.srcNetworkId, s.startDhid, s.sent⟩

/-- The flag of an attempt of the kind is set. -/
def Core.Trying (core : Core) : AttemptKind → Bool
  | .start => core.isStarting
  | .stop => core.isStopping

theorem core_post (s : CooperateSM) (task : Task) : (s.post c task).core = s.core := by
  unfold CooperateSM.post
  split <;> rfl

/-- An effect without a finish, and a finish without its flag, keep the core. -/
theorem core_applyEffect {s : CooperateSM} {e : Effect}
    (h : ∀ kind, e.finishes = some kind → s.core.Trying kind = false) :
    (applyEffect env c s e).core = s.core := by
  cases e with
  | prepared networkIds => rfl
  | saved type callback => rfl
  | posted task => exact core_post c s task
  | startFinish isSuccess remoteNetworkId dev =>
    have hf : s.isStarting = false := h .start rfl
    simp [applyEffect, CooperateSM.onStartFinish, hf, CooperateSM.finish, CooperateSM.core]
  | stopFinish isSuccess remoteNetworkId =>
    have hf : s.isStopping = false := h .stop rfl
    simp [applyEffect, CooperateSM.onStopFinish, hf, CooperateSM.finish, CooperateSM.core]

/-- A finish clears its flag. -/
theorem trying_of_finishes {s : CooperateSM} {e : Effect} {kind : AttemptKind}
    (h : e.finishes = some kind) : (applyEffect env c s e).core.Trying kind = false := by
  cases e with
  | startFinish isSuccess remoteNetworkId dev =>
    obtain rfl : AttemptKind.start = kind := Option.some.inj h
    simp only [Core.Trying, CooperateSM.core, applyEffect, CooperateSM.onStartFinish]
    split_ifs with hs hf <;> simp_all [CooperateSM.finish]
  | stopFinish isSuccess remoteNetworkId =>
    obtain rfl : AttemptKind.stop = kind := Option.some.inj h
    simp only [Core.Trying, CooperateSM.core, applyEffect, CooperateSM.onStopFinish]
    split_ifs with hs <;> simp_all [CooperateSM.finish]
  | prepared networkIds => nomatch h
  | saved type callback => nomatch h
  | posted task => nomatch h

theorem core_applyEffects_of_not_trying {s : CooperateSM} {es : List Effect} {kind : AttemptKind}
    (hk : ∀ e ∈ es, e.OfKind kind) (hs : s.core.Trying kind = false) :
    (applyEffects env c s es).core = s.core := by
  induction es generalizing s with
  | nil => rfl
  | cons e es ih =>
    obtain ⟨he, hes⟩ := List.forall_mem_cons.mp hk
    have hcore : (applyEffect env c s e).core = s.core := by
      refine core_applyEffect env c fun k hf => ?_
      obtain hn | hn := he
      · rw [hn] at hf
        cases hf
      · rw [hn] at hf
        exact Option.some.inj hf ▸ hs
    rw [applyEffects_cons, ih hes (by rw [hcore]; exact hs), hcore]

/-- Effects of one kind keep the core, or they change it by one finish of a
flag that is set. -/
theorem core_applyEffects {s : CooperateSM} {es : List Effect} {kind : AttemptKind}
    (hk : ∀ e ∈ es, e.OfKind kind) :
    (applyEffects env c s es).core = s.core ∨
      s.core.Trying kind = true ∧ ∃ t, ∃ e ∈ es, t.core = s.core ∧ e.finishes = some kind ∧
        (applyEffects env c s es).core = (applyEffect env c t e).core := by
  induction es generalizing s with
  | nil => exact Or.inl rfl
  | cons e es ih =>
    obtain ⟨he, hes⟩ := List.forall_mem_cons.mp hk
    rw [applyEffects_cons]
    cases htry : s.core.Trying kind with
    | false =>
      left
      rw [← applyEffects_cons]
      exact core_applyEffects_of_not_trying env c hk htry
    | true =>
      obtain hn | hn := he
      · have hcore : (applyEffect env c s e).core = s.core :=
          core_applyEffect env c fun k hf => by rw [hn] at hf; cases hf
        obtain h | ⟨_, t, f, hf, ht, hfin, h⟩ := ih hes (s := applyEffect env c s e)
        · exact Or.inl (h.trans hcore)
        · exact Or.inr ⟨rfl, t, f, List.mem_cons_of_mem _ hf, ht.trans hcore, hfin, h⟩
      · refine Or.inr ⟨rfl, s, e, List.mem_cons_self, rfl, hn, ?_⟩
        exact core_applyEffects_of_not_trying env c hes (trying_of_finishes env c hn)

end FtMmi.InputDeviceCooperate
