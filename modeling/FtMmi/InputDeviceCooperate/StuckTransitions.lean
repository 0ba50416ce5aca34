/-
FtMmi.InputDeviceCooperate.StuckTransitions — who will lower a flag that is
up.

`Watched` is the machine with a note for each flag: a request of the other
side has come, and the flag has not been lowered since, so the result of the
other side is outstanding. Without such a result a flag needs a carrier, a
task or a saved callback that goes on until the finish function is called.

* `notStuck_of_apart` — in a run that keeps a start and a local stop of an in
  object apart, and closes no cooperation over the callback that a stop waits
  for, the flags are down whenever nothing is left to run and no result is
  outstanding.
-/
import FtMmi.InputDeviceCooperate.AttemptFinish

namespace FtMmi.InputDeviceCooperate

open FtMmi.Lib

/-! ## The machine, and what is outstanding -/

structure Watched where
  machine : CooperateSM
  /-- The result of a remote start is outstanding. -/
  remoteStarting : Bool
  /-- The result of a remote stop is outstanding. -/
  remoteStopping : Bool

/-- The step is a request of the other side. -/
def CooperateInput.requests : CooperateInput → Option AttemptKind
  | .onBytesReceived sessionId (.startRemoteCooperate _) =>
      if sessionId < 0 then none else some .start
  | .onBytesReceived sessionId .stopRemoteCooperate => if sessionId < 0 then none else some .stop
  | _ => none

namespace Watched

def init (keepsTasks : Bool) : Watched := ⟨.init keepsTasks, false, false⟩

def step (s : Watched) (i : CooperateStep) : Watched where
  machine := s.machine.step i
  remoteStarting :=
    (i.input.requests = some .start || s.remoteStarting) && (s.machine.step i).isStarting
  remoteStopping :=
    (i.input.requests = some .stop || s.remoteStopping) && (s.machine.step i).isStopping

end Watched

/-- If nothing is left to run and no result is outstanding, no transition is in
progress. -/
def NotStuck (s : Watched) : Prop :=
  s.machine.tasks = [] → s.machine.saved = [] → s.remoteStarting = false →
    s.remoteStopping = false → s.machine.isStarting = false ∧ s.machine.isStopping = false

/-- A stop is in progress that only this side can end. -/
def Watched.StopsAlone (s : Watched) : Prop :=
  s.machine.isStopping = true ∧ s.remoteStopping = false

instance (s : Watched) : Decidable s.StopsAlone := by
  unfold Watched.StopsAlone
  infer_instance

/-- An in object is not told to start while it stops, nor to stop while it
starts. A cooperation that is not left is not closed over the callback that
the stop of an out object waits for. -/
def Apart (s : Watched) (i : CooperateStep) : Prop :=
  match i.input with
  | .startInputDeviceCooperate remoteNetworkId _ =>
      s.machine.cooperateState = .stateIn → s.StopsAlone →
        ¬ s.machine.AcceptsStart i.env remoteNetworkId
  | .onBytesReceived sessionId (.startRemoteCooperate _) =>
      s.machine.cooperateState = .stateIn → s.StopsAlone → sessionId < 0
  | .stopInputDeviceCooperate =>
      s.machine.cooperateState = .stateIn → s.machine.isStarting = false
  | .onCloseCooperation networkId isLocal =>
      s.machine.cooperateState = .stateOut → s.StopsAlone →
        s.machine.LeftBy ⟨i.env, .onCloseCooperation networkId isLocal⟩ ∨
          networkId ≠ s.machine.preparedNetworkId.1 ∧ networkId ≠ s.machine.preparedNetworkId.2
  | _ => True

instance (s : Watched) : (i : CooperateStep) → Decidable (Apart s i)
  | ⟨_, .startInputDeviceCooperate ..⟩ => inferInstanceAs (Decidable (_ → _))
  | ⟨_, .onBytesReceived _ (.startRemoteCooperate _)⟩ => inferInstanceAs (Decidable (_ → _))
  | ⟨_, .stopInputDeviceCooperate⟩ => inferInstanceAs (Decidable (_ → _))
  | ⟨_, .onCloseCooperation ..⟩ => inferInstanceAs (Decidable (_ → _))
  | ⟨_, .onBytesReceived _ (.startRemoteCooperateResult ..)⟩ => instDecidableTrue
  | ⟨_, .onBytesReceived _ .stopRemoteCooperate⟩ => instDecidableTrue
  | ⟨_, .onBytesReceived _ (.stopRemoteCooperateResult _)⟩ => instDecidableTrue
  | ⟨_, .onBytesReceived _ (.startCooperateOtherResult _)⟩ => instDecidableTrue
  | ⟨_, .checkPointerEvent ..⟩ | ⟨_, .onKeyboardOnline⟩ | ⟨_, .onPointerOffline _⟩
  | ⟨_, .onDeviceOffline _⟩ | ⟨_, .onSessionClosed _⟩ | ⟨_, .runTask _⟩
  | ⟨_, .processDInputCallback ..⟩ => instDecidableTrue

/-! ## Well-formed tasks and callbacks -/

/-- What the object of a task is. -/
def TaskOk (c : Capture) : Task → Prop
  | .processStop _ => c.object.kind ≠ .stateFree
  | .relayStop .. => c.object.kind = .stateIn
  | _ => True

/-- Which callback is saved for a kind of call, and of which object. -/
def SavedOk (c : Capture) : CallbackType → DInputCallback → Prop
  | .prepareStartDInputCallbackSink, .onPrepareDistributedInput .. => True
  | .startDInputCallbackSink, .onStartRemoteInput .. => True
  | .stopDInputCallbackSink, .onStopRemoteInput .. => c.object.kind = .stateOut
  | .stopDInputCallbackDHIds, .onStopRemoteInput .. => c.object.kind = .stateIn
  | _, _ => False

def EffectOk (c : Capture) : Effect → Prop
  | .saved type callback => SavedOk c type callback
  | .posted task => TaskOk c task
  | _ => True

theorem taskEffects_ok (env : Surroundings) {c : Capture} (preparedNetworkId : String × String)
    {task : Task} (h : TaskOk c task) :
    ∀ e ∈ taskEffects env c preparedNetworkId task, EffectOk c e := by
  cases task with
  | processStart remoteNetworkId dev =>
    simp only [taskEffects]
    split
    · rename_i hback
      unfold comeBackEffects
      split <;> simp [relayStopEffects, EffectOk, SavedOk, hback.1]
    · simp only [prepareAndStartEffects, startRemoteInputEffects]
      split_ifs <;> simp [EffectOk, SavedOk]
  | processStop srcNetworkId =>
    simp only [taskEffects, processStopEffects]
    split
    · simp
    · rename_i hk
      simp [EffectOk, SavedOk, hk]
    · rename_i hk
      split_ifs <;> simp [EffectOk, SavedOk, hk]
  | startDinput dev =>
    simp only [taskEffects, startRemoteInputEffects]
    split_ifs <;> simp [EffectOk, SavedOk]
  | startFinish isSuccess remoteNetworkId dev => simp [taskEffects, EffectOk]
  | relayStop sinkNetworkId srcNetworkId dhids dev =>
    have hk : c.object.kind = .stateIn := h
    simp [taskEffects, relayStopEffects, EffectOk, SavedOk, hk]
  | stopFinish isSuccess remoteNetworkId => simp [taskEffects, EffectOk]

theorem callbackEffects_ok (env : Surroundings) {c : Capture} (isStarting isStopping isSuccess : Bool)
    (callback : DInputCallback) :
    ∀ e ∈ callbackEffects env c isStarting isStopping isSuccess callback, EffectOk c e := by
  cases callback with
  | onPrepareDistributedInput srcNetworkId dev =>
    simp only [callbackEffects]
    split_ifs <;> simp [EffectOk, TaskOk]
  | onStartRemoteInput srcNetworkId dev =>
    simp only [callbackEffects]
    split
    · rename_i h
      simp [EffectOk, TaskOk, h.1]
    · simp [EffectOk, TaskOk]
  | onStopRemoteInput remoteNetworkId dev =>
    simp only [callbackEffects]
    split_ifs <;> simp [EffectOk, TaskOk]

/-! ## What goes on -/

/-- The calls a start waits for. -/
def CallbackType.servesStart : CallbackType → Bool
  | .prepareStartDInputCallbackSink | .startDInputCallbackSink | .stopDInputCallbackDHIds => true
  | _ => false

/-- The calls a stop waits for. -/
def CallbackType.servesStop : CallbackType → Bool
  | .stopDInputCallbackSink | .stopDInputCallbackDHIds => true
  | _ => false

def CallbackType.serves (type : CallbackType) : AttemptKind → Bool
  | .start => type.servesStart
  | .stop => type.servesStop

/-- The effect leaves something that carries on an attempt of the kind. -/
def Effect.Carries (kind : AttemptKind) : Effect → Prop
  | .saved type _ => type.serves kind = true
  | .posted task => task.kind = kind
  | _ => False

/-- A task calls its finish function, or leaves a carrier. -/
theorem taskEffects_goOn (env : Surroundings) {c : Capture}
    (preparedNetworkId : String × String) {task : Task} (h : TaskOk c task) :
    ∃ e ∈ taskEffects env c preparedNetworkId task,
      e.finishes = some task.kind ∨ e.Carries task.kind := by
  cases task with
  | processStart remoteNetworkId dev =>
    simp only [taskEffects, comeBackEffects, relayStopEffects, prepareAndStartEffects,
      startRemoteInputEffects]
    split_ifs <;>
      simp [callOr, Effect.finishes, Effect.Carries, Task.kind, CallbackType.serves,
        CallbackType.servesStart]
  | processStop srcNetworkId =>
    simp only [taskEffects, processStopEffects]
    split
    · rename_i hk
      exact (h hk).elim
    · simp [callOr, Effect.Carries, Task.kind, CallbackType.serves, CallbackType.servesStop]
    · split_ifs <;>
        simp [callOr, Effect.finishes, Effect.Carries, Task.kind, CallbackType.serves,
          CallbackType.servesStop]
  | startDinput dev =>
    simp only [taskEffects, startRemoteInputEffects]
    split_ifs <;>
      simp [callOr, Effect.finishes, Effect.Carries, Task.kind, CallbackType.serves,
        CallbackType.servesStart]
  | startFinish isSuccess remoteNetworkId dev => simp [taskEffects, Effect.finishes, Task.kind]
  | relayStop sinkNetworkId srcNetworkId dhids dev =>
    simp [taskEffects, relayStopEffects, callOr, Effect.Carries, Task.kind, CallbackType.serves,
      CallbackType.servesStart]
  | stopFinish isSuccess remoteNetworkId => simp [taskEffects, Effect.finishes, Task.kind]

/-- So does a callback that a start waits for, while the start flag is up. -/
theorem callbackEffects_goOn_start (env : Surroundings) {c : Capture} {type : CallbackType}
    {callback : DInputCallback} (h : SavedOk c type callback) (hserves : type.serves .start = true)
    (isStopping isSuccess : Bool) :
    ∃ e ∈ callbackEffects env c true isStopping isSuccess callback,
      e.finishes = some .start ∨ e.Carries .start := by
  cases callback with
  | onPrepareDistributedInput srcNetworkId dev =>
    simp only [callbackEffects]
    split_ifs <;> simp [Effect.finishes, Effect.Carries, Task.kind]
  | onStartRemoteInput srcNetworkId dev =>
    simp only [callbackEffects]
    split_ifs <;> simp [Effect.Carries, Task.kind]
  | onStopRemoteInput remoteNetworkId dev =>
    have hk : c.object.kind = .stateIn := by
      cases type with
      | stopDInputCallbackDHIds => exact h
      | _ => first | exact h.elim | cases hserves
    simp [callbackEffects, hk, Effect.Carries, Task.kind]

/-- And a callback that a stop waits for, if its object is an out object or
the start flag is down. -/
theorem callbackEffects_goOn_stop (env : Surroundings) {c : Capture} {type : CallbackType}
    {callback : DInputCallback} (h : SavedOk c type callback) (hserves : type.serves .stop = true)
    {isStarting : Bool} (hkind : c.object.kind = .stateOut ∨ isStarting = false)
    (isSuccess : Bool) :
    ∃ e ∈ callbackEffects env c isStarting true isSuccess callback,
      e.finishes = some .stop ∨ e.Carries .stop := by
  cases callback with
  | onStopRemoteInput remoteNetworkId dev =>
    simp only [callbackEffects]
    by_cases hout : c.object.kind = .stateOut
    · simp [hout, Effect.Carries, Task.kind]
    · have hstart : isStarting = false := hkind.resolve_left hout
      simp [hout, hstart, Effect.Carries, Task.kind]
  | _ => cases type <;> first | exact h.elim | cases hserves

/-! ## While the object stays -/

/-- The event handler of the object takes tasks. -/
def CooperateSM.Alive (s : CooperateSM) (c : Capture) : Prop :=
  c.object.generation = s.current.generation ∨ s.keepsTasks = true

/-- What effects of `c` leave of a machine whose object they do not replace. -/
structure Grown (c : Capture) (es : List Effect) (s t : CooperateSM) : Prop where
  current : t.current = s.current
  keepsTasks : t.keepsTasks = s.keepsTasks
  cooperateState : t.cooperateState = s.cooperateState
  tasks : ∀ x ∈ s.tasks, x ∈ t.tasks
  callbackMap : ∀ type, t.callbackMap type = s.callbackMap type ∨
    ∃ callback, Effect.saved type callback ∈ es ∧ t.callbackMap type = some (some (c, callback))
  posted : s.Alive c → ∀ task, Effect.posted task ∈ es → (c, task) ∈ t.tasks
  saved : ∀ type callback, Effect.saved type callback ∈ es →
    ∃ other, t.callbackMap type = some (some (c, other))

theorem Grown.alive {c d : Capture} {es : List Effect} {s t : CooperateSM} (h : Grown c es s t) :
    t.Alive d ↔ s.Alive d := by
  unfold CooperateSM.Alive
  rw [h.current, h.keepsTasks]

theorem Grown.cons {c : Capture} {e : Effect} {es : List Effect} {s t u : CooperateSM}
    (h : Grown c [e] s t) (h' : Grown c es t u) : Grown c (e :: es) s u where
  current := h'.current.trans h.current
  keepsTasks := h'.keepsTasks.trans h.keepsTasks
  cooperateState := h'.cooperateState.trans h.cooperateState
  tasks x hx := h'.tasks x (h.tasks x hx)
  callbackMap type := by
    obtain hsame | ⟨callback, hmem, hnew⟩ := h'.callbackMap type
    · rw [hsame]
      refine (h.callbackMap type).imp_right ?_
      rintro ⟨callback, hmem, hnew⟩
      exact ⟨callback, by simp [List.mem_singleton.mp hmem], hnew⟩
    · exact Or.inr ⟨callback, List.mem_cons_of_mem _ hmem, hnew⟩
  posted halive task hmem := by
    obtain heq | hmem := List.mem_cons.mp hmem
    · exact h'.tasks _ (h.posted halive task (by simp [heq]))
    · exact h'.posted (h.alive.mpr halive) task hmem
  saved type callback hmem := by
    obtain heq | hmem := List.mem_cons.mp hmem
    · obtain ⟨other, hnew⟩ := h.saved type callback (by simp [heq])
      obtain hsame | ⟨callback, _, hnew'⟩ := h'.callbackMap type
      · exact ⟨other, hsame.trans hnew⟩
      · exact ⟨callback, hnew'⟩
    · exact h'.saved type callback hmem

/-- An effect that leaves the record of callbacks, and all tasks. -/
theorem grown_of_same {c : Capture} {e : Effect} {s t : CooperateSM}
    (hnone : ∀ type callback, e ≠ .saved type callback) (hpost : ∀ task, e ≠ .posted task)
    (hcur : t.current = s.current) (hkeeps : t.keepsTasks = s.keepsTasks)
    (hstate : t.cooperateState = s.cooperateState) (htasks : t.tasks = s.tasks)
    (hmap : t.callbackMap = s.callbackMap) : Grown c [e] s t where
  current := hcur
  keepsTasks := hkeeps
  cooperateState := hstate
  tasks x hx := htasks ▸ hx
  callbackMap type := Or.inl (by rw [hmap])
  posted _ task hmem := (hpost task (List.mem_singleton.mp hmem).symm).elim
  saved type callback hmem := (hnone type callback (List.mem_singleton.mp hmem).symm).elim

/-- A flag that is up after an effect was up before it, and the object is the
same, unless a stop flag stands over an idle machine. -/
theorem grown_applyEffect (env : Surroundings) (c : Capture) {s : CooperateSM} {e : Effect}
    {kind : AttemptKind} (hfree : kind = .stop → s.cooperateState ≠ .stateFree)
    (h : (applyEffect env c s e).core.Trying kind = true) :
    s.core.Trying kind = true ∧ e.finishes ≠ some kind ∧ Grown c [e] s (applyEffect env c s e) := by
  have hfin : e.finishes ≠ some kind := by
    intro hf
    rw [trying_of_finishes env c hf] at h
    cases h
  cases e with
  | prepared networkIds =>
    exact ⟨h, hfin, grown_of_same (by simp) (by simp) rfl rfl rfl rfl rfl⟩
  | saved type callback =>
    refine ⟨h, hfin, rfl, rfl, rfl, fun _ hx => hx, fun other => ?_, by simp, ?_⟩
    · by_cases ho : other = type
      · subst ho
        exact Or.inr ⟨callback, by simp, Function.update_self ..⟩
      · exact Or.inl (Function.update_of_ne ho ..)
    · intro other callback' hmem
      obtain ⟨rfl, rfl⟩ := Effect.saved.inj (List.mem_singleton.mp hmem)
      exact ⟨_, Function.update_self ..⟩
  | posted task =>
    by_cases halive : c.object.generation = s.current.generation ∨ s.keepsTasks = true
    · have hpost : s.post c task = { s with tasks := s.tasks ++ [(c, task)] } := if_pos halive
      simp only [applyEffect, hpost] at h ⊢
      refine ⟨h, hfin, rfl, rfl, rfl, fun _ hx => List.mem_append_left _ hx,
        fun _ => Or.inl rfl, fun _ other hmem => ?_, by simp⟩
      rw [Effect.posted.inj (List.mem_singleton.mp hmem)]
      exact List.mem_append_right _ (List.mem_singleton.mpr rfl)
    · have hpost : s.post c task = s := if_neg halive
      simp only [applyEffect, hpost] at h ⊢
      exact ⟨h, hfin, rfl, rfl, rfl, fun _ hx => hx, fun _ => Or.inl rfl,
        fun ha => (halive ha).elim, by simp⟩
  | startFinish isSuccess remoteNetworkId dev =>
    have hcases := s.onStartFinish_cases env c.attempt isSuccess remoteNetworkId dev
    simp only [applyEffect] at h ⊢
    generalize s.onStartFinish env c.attempt isSuccess remoteNetworkId dev = s' at hcases h
    have hkind : kind = .stop := by
      cases kind with
      | start => exact (hfin rfl).elim
      | stop => rfl
    subst hkind
    cases hcases with
    | dropped => exact ⟨h, hfin, grown_of_same (by simp) (by simp) rfl rfl rfl rfl rfl⟩
    | failed => exact ⟨h, hfin, grown_of_same (by simp) (by simp) rfl rfl rfl rfl rfl⟩
    | free hs hstate => exact (hfree rfl hstate).elim
    | into => cases h
    | out => exact ⟨h, hfin, grown_of_same (by simp) (by simp) rfl rfl rfl rfl rfl⟩
  | stopFinish isSuccess remoteNetworkId =>
    have hcases := s.onStopFinish_cases env c.attempt isSuccess remoteNetworkId
    simp only [applyEffect] at h ⊢
    generalize s.onStopFinish env c.attempt isSuccess remoteNetworkId = s' at hcases h
    have hkind : kind = .start := by
      cases kind with
      | start => rfl
      | stop => exact (hfin rfl).elim
    subst hkind
    cases hcases with
    | dropped => exact ⟨h, hfin, grown_of_same (by simp) (by simp) rfl rfl rfl rfl rfl⟩
    | failed => exact ⟨h, hfin, grown_of_same (by simp) (by simp) rfl rfl rfl rfl rfl⟩
    | free => exact ⟨h, hfin, grown_of_same (by simp) (by simp) rfl rfl rfl rfl rfl⟩
    | ended => cases h

/-- No effect raises a flag. -/
theorem trying_applyEffect (env : Surroundings) (c : Capture) {s : CooperateSM} {e : Effect}
    {kind : AttemptKind} (h : (applyEffect env c s e).core.Trying kind = true) :
    s.core.Trying kind = true := by
  cases e with
  | prepared networkIds => exact h
  | saved type callback => exact h
  | posted task =>
    simp only [applyEffect, core_post] at h
    exact h
  | startFinish isSuccess remoteNetworkId dev =>
    have hcases := s.onStartFinish_cases env c.attempt isSuccess remoteNetworkId dev
    simp only [applyEffect] at h
    generalize s.onStartFinish env c.attempt isSuccess remoteNetworkId dev = s' at hcases h
    cases hcases <;> cases kind <;> first | exact h | cases h
  | stopFinish isSuccess remoteNetworkId =>
    have hcases := s.onStopFinish_cases env c.attempt isSuccess remoteNetworkId
    simp only [applyEffect] at h
    generalize s.onStopFinish env c.attempt isSuccess remoteNetworkId = s' at hcases h
    cases hcases <;> cases kind <;> first | exact h | cases h

theorem trying_applyEffects (env : Surroundings) (c : Capture) (kind : AttemptKind)
    {s : CooperateSM} {es : List Effect}
    (h : (applyEffects env c s es).core.Trying kind = true) : s.core.Trying kind = true := by
  induction es generalizing s with
  | nil => exact h
  | cons e es ih => exact trying_applyEffect env c (ih h)

/-- If a flag is up after the effects, none of them was its finish, and the
object is the same. -/
theorem grown_applyEffects (env : Surroundings) (c : Capture) (kind : AttemptKind)
    {s : CooperateSM} {es : List Effect} (hfree : kind = .stop → s.cooperateState ≠ .stateFree)
    (h : (applyEffects env c s es).core.Trying kind = true) :
    (∀ e ∈ es, e.finishes ≠ some kind) ∧ Grown c es s (applyEffects env c s es) := by
  induction es generalizing s with
  | nil =>
    exact ⟨by simp, rfl, rfl, rfl, fun _ hx => hx, fun _ => Or.inl rfl, by simp, by simp⟩
  | cons e es ih =>
    obtain ⟨_, hfin, hgrown⟩ := grown_applyEffect env c hfree (trying_applyEffects env c kind h)
    obtain ⟨hfins, hrest⟩ := ih (by rw [hgrown.cooperateState]; exact hfree) h
    exact ⟨List.forall_mem_cons.mpr ⟨hfin, hfins⟩, hgrown.cons hrest⟩

/-! ## The invariant -/

/-- Something is left that carries on an attempt of the kind. A stop is carried
on by an object for the state there is. -/
def CooperateSM.Carried (s : CooperateSM) (kind : AttemptKind) : Prop :=
  ∃ c, s.Alive c ∧ (kind = .stop → c.object.kind = s.cooperateState) ∧
    ((∃ task, (c, task) ∈ s.tasks ∧ task.kind = kind) ∨
      ∃ type callback, type.serves kind = true ∧ s.callbackMap type = some (some (c, callback)))

/-- Tasks wait at event handlers that run them, and tasks and callbacks are of
the right objects. -/
structure WellFormed (s : CooperateSM) : Prop where
  tasks : ∀ c task, (c, task) ∈ s.tasks → TaskOk c task ∧ s.Alive c
  saved : ∀ type c callback, s.callbackMap type = some (some (c, callback)) →
    SavedOk c type callback

structure InProgress (s : Watched) : Prop where
  kind : KindMatches s.machine
  wellFormed : WellFormed s.machine
  starting : s.machine.isStarting = true → s.remoteStarting = false →
    s.machine.cooperateState ≠ .stateOut ∧ s.machine.Carried .start
  stopping : s.machine.isStopping = true → s.remoteStopping = false →
    s.machine.cooperateState ≠ .stateFree ∧ s.machine.Carried .stop
  apart : s.machine.cooperateState = .stateIn → s.machine.isStarting = true →
    s.machine.isStopping = true → s.remoteStopping = true

theorem not_carried {s : CooperateSM} (htasks : s.tasks = []) (hsaved : s.saved = [])
    (kind : AttemptKind) : ¬ s.Carried kind := by
  rintro ⟨c, _, _, ⟨task, hmem, _⟩ | ⟨type, callback, _, hcb⟩⟩
  · rw [htasks] at hmem
    cases hmem
  · have hmem : (c, callback) ∈ s.saved := mem_saved.mpr ⟨type, hcb⟩
    rw [hsaved] at hmem
    cases hmem

/-- The property is what the invariant says when nothing is left to run. -/
theorem notStuck_of_inProgress {s : Watched} (h : InProgress s) : NotStuck s := by
  intro htasks hsaved hrs hrp
  constructor
  · by_contra hne
    exact not_carried htasks hsaved _ (h.starting (by simpa using hne) hrs).2
  · by_contra hne
    exact not_carried htasks hsaved _ (h.stopping (by simpa using hne) hrp).2

/-! ## Well-formed machines -/

theorem wellFormed_of_renewed {s t : CooperateSM} (h : WellFormed s)
    (htasks : t.tasks = if s.keepsTasks then s.tasks
      else s.tasks.filter fun x => x.1.object.generation ≠ s.current.generation)
    (hkeeps : t.keepsTasks = s.keepsTasks) (hmap : t.callbackMap = s.callbackMap) :
    WellFormed t := by
  refine ⟨fun c task hmem => ?_, fun type c callback hcb => h.saved type c callback (hmap ▸ hcb)⟩
  rw [htasks] at hmem
  cases hk : s.keepsTasks with
  | true =>
    simp only [hk, if_true] at hmem
    exact ⟨(h.tasks c task hmem).1, Or.inr (hkeeps.trans hk)⟩
  | false =>
    simp only [hk, Bool.false_eq_true, if_false, List.mem_filter, decide_eq_true_eq] at hmem
    obtain hgen | hkeep := (h.tasks c task hmem.1).2
    · exact (hmem.2 hgen).elim
    · rw [hk] at hkeep
      cases hkeep

theorem wellFormed_of_same {s t : CooperateSM} (h : WellFormed s) (hcur : t.current = s.current)
    (hkeeps : t.keepsTasks = s.keepsTasks) (htasks : ∀ x ∈ t.tasks, x ∈ s.tasks)
    (hmap : ∀ type item, t.callbackMap type = some (some item) →
      s.callbackMap type = some (some item)) : WellFormed t := by
  refine ⟨fun c task hmem => ?_, fun type c callback hcb => h.saved type c callback (hmap _ _ hcb)⟩
  obtain ⟨hok, halive⟩ := h.tasks c task (htasks _ hmem)
  refine ⟨hok, ?_⟩
  unfold CooperateSM.Alive at *
  rwa [hcur, hkeeps]

theorem wellFormed_append {s t : CooperateSM} (h : WellFormed s) (hcur : t.current = s.current)
    (hkeeps : t.keepsTasks = s.keepsTasks) {c : Capture} {task : Task}
    (htasks : t.tasks = s.tasks ++ [(c, task)]) (hok : TaskOk c task) (halive : s.Alive c)
    (hmap : t.callbackMap = s.callbackMap) : WellFormed t := by
  have hsame : ∀ d, s.Alive d → t.Alive d := by
    intro d hd
    unfold CooperateSM.Alive at *
    rwa [hcur, hkeeps]
  refine ⟨fun d other hmem => ?_, fun type d callback hcb => h.saved type d callback (hmap ▸ hcb)⟩
  rw [htasks] at hmem
  obtain hmem | hmem := List.mem_append.mp hmem
  · exact ⟨(h.tasks d other hmem).1, hsame d (h.tasks d other hmem).2⟩
  · obtain ⟨rfl, rfl⟩ := Prod.mk.inj (List.mem_singleton.mp hmem)
    exact ⟨hok, hsame _ halive⟩

theorem wellFormed_applyEffect (env : Surroundings) {c : Capture} {s : CooperateSM} {e : Effect}
    (he : EffectOk c e) (h : WellFormed s) : WellFormed (applyEffect env c s e) := by
  cases e with
  | prepared networkIds => exact ⟨h.tasks, h.saved⟩
  | saved type callback =>
    refine ⟨h.tasks, fun other d callback' hcb => ?_⟩
    by_cases ho : other = type
    · subst ho
      simp only [applyEffect, CooperateSM.callDInput, Function.update_self, Option.some.injEq,
        Prod.mk.injEq] at hcb
      obtain ⟨rfl, rfl⟩ := hcb
      exact he
    · simp only [applyEffect, CooperateSM.callDInput, Function.update_of_ne ho] at hcb
      exact h.saved other d callback' hcb
  | posted task =>
    by_cases halive : c.object.generation = s.current.generation ∨ s.keepsTasks = true
    · have hpost : s.post c task = { s with tasks := s.tasks ++ [(c, task)] } := if_pos halive
      simp only [applyEffect, hpost]
      exact wellFormed_append h rfl rfl rfl he halive rfl
    · have hpost : s.post c task = s := if_neg halive
      simp only [applyEffect, hpost]
      exact h
  | startFinish isSuccess remoteNetworkId dev =>
    have hcases := s.onStartFinish_cases env c.attempt isSuccess remoteNetworkId dev
    simp only [applyEffect]
    generalize s.onStartFinish env c.attempt isSuccess remoteNetworkId dev = s' at hcases
    cases hcases with
    | dropped => exact ⟨h.tasks, h.saved⟩
    | failed => exact ⟨h.tasks, h.saved⟩
    | free => exact wellFormed_of_renewed h rfl rfl rfl
    | into => exact wellFormed_of_renewed h rfl rfl rfl
    | out => exact ⟨h.tasks, h.saved⟩
  | stopFinish isSuccess remoteNetworkId =>
    have hcases := s.onStopFinish_cases env c.attempt isSuccess remoteNetworkId
    simp only [applyEffect]
    generalize s.onStopFinish env c.attempt isSuccess remoteNetworkId = s' at hcases
    cases hcases with
    | dropped => exact ⟨h.tasks, h.saved⟩
    | failed => exact ⟨h.tasks, h.saved⟩
    | free => exact ⟨h.tasks, h.saved⟩
    | ended => exact wellFormed_of_renewed h rfl rfl rfl

/-! ## Carriers -/

/-- The state of the objects that a stop's callbacks are of. -/
theorem kind_of_savedOk {type : CallbackType} {c d : Capture} {callback other : DInputCallback}
    (hserves : type.serves .stop = true) (hc : SavedOk c type callback)
    (hd : SavedOk d type other) : d.object.kind = c.object.kind := by
  cases type with
  | stopDInputCallbackSink =>
    cases callback <;> cases other <;> first | exact hd.trans hc.symm | exact hc.elim | exact hd.elim
  | stopDInputCallbackDHIds =>
    cases callback <;> cases other <;> first | exact hd.trans hc.symm | exact hc.elim | exact hd.elim
  | _ => cases hserves

theorem carried_mono {s t : CooperateSM} {kind : AttemptKind} (h : s.Carried kind)
    (hcur : t.current = s.current) (hkeeps : t.keepsTasks = s.keepsTasks)
    (hstate : t.cooperateState = s.cooperateState) (htasks : ∀ x ∈ s.tasks, x ∈ t.tasks)
    (hmap : ∀ type item, type.serves kind = true → s.callbackMap type = some (some item) →
      t.callbackMap type = some (some item)) : t.Carried kind := by
  obtain ⟨c, halive, hkind, hleft⟩ := h
  refine ⟨c, ?_, by rwa [hstate], ?_⟩
  · unfold CooperateSM.Alive at *
    rwa [hcur, hkeeps]
  · obtain ⟨task, hmem, hk⟩ | ⟨type, callback, hserves, hcb⟩ := hleft
    · exact Or.inl ⟨task, htasks _ hmem, hk⟩
    · exact Or.inr ⟨type, callback, hserves, hmap _ _ hserves hcb⟩

/-- What carries on an attempt still does when another continuation has run. -/
theorem carried_of_grown {c : Capture} {es : List Effect} {s t : CooperateSM} {kind : AttemptKind}
    (hgrown : Grown c es s t) (h : s.Carried kind) (hwf : WellFormed s)
    (hok : ∀ e ∈ es, EffectOk c e)
    (halive : ∀ type callback, Effect.saved type callback ∈ es → s.Alive c) : t.Carried kind := by
  obtain ⟨d, hd, hkind, ⟨task, hmem, hk⟩ | ⟨type, callback, hserves, hcb⟩⟩ := h
  · exact ⟨d, hgrown.alive.mpr hd, by rwa [hgrown.cooperateState],
      Or.inl ⟨task, hgrown.tasks _ hmem, hk⟩⟩
  · obtain hsame | ⟨other, hmem, hnew⟩ := hgrown.callbackMap type
    · exact ⟨d, hgrown.alive.mpr hd, by rwa [hgrown.cooperateState],
        Or.inr ⟨type, callback, hserves, hsame.trans hcb⟩⟩
    · refine ⟨c, hgrown.alive.mpr (halive type other hmem), fun hstop => ?_,
        Or.inr ⟨type, other, hserves, hnew⟩⟩
      subst hstop
      rw [hgrown.cooperateState, ← hkind rfl]
      exact kind_of_savedOk hserves (hwf.saved type d callback hcb) (hok _ hmem)

/-- A continuation that leaves a carrier. -/
theorem carried_of_effect {c : Capture} {es : List Effect} {s t : CooperateSM} {kind : AttemptKind}
    {e : Effect} (hgrown : Grown c es s t) (he : e ∈ es) (hcarries : e.Carries kind)
    (halive : s.Alive c) (hkind : kind = .stop → c.object.kind = s.cooperateState) :
    t.Carried kind := by
  refine ⟨c, hgrown.alive.mpr halive, by rwa [hgrown.cooperateState], ?_⟩
  cases e with
  | saved type callback =>
    obtain ⟨other, hnew⟩ := hgrown.saved type callback he
    exact Or.inr ⟨type, other, hcarries, hnew⟩
  | posted task => exact Or.inl ⟨task, hgrown.posted halive task he, hcarries⟩
  | _ => exact hcarries.elim

/-! ## A continuation runs -/

/-- The continuation that runs was what carried on the attempt, and goes on. -/
def GoesOn (c : Capture) (es : List Effect) (m : CooperateSM) (kind : AttemptKind) : Prop :=
  m.Alive c ∧ (kind = .stop → c.object.kind = m.cooperateState) ∧
    ∃ e ∈ es, e.finishes = some kind ∨ e.Carries kind

/-- The machine `m` without the continuation, and then its effects. -/
theorem inProgress_continue (env : Surroundings) {s : Watched} {c : Capture} {m : CooperateSM}
    {es : List Effect} {rs rp : Bool} (h : InProgress s) (hcore : m.core = s.machine.core)
    (hkind : KindMatches m) (hwf : WellFormed m) (hok : ∀ e ∈ es, EffectOk c e)
    (halive : ∀ type callback, Effect.saved type callback ∈ es → m.Alive c)
    (hrs : s.remoteStarting = true → (applyEffects env c m es).isStarting = true → rs = true)
    (hrp : s.remoteStopping = true → (applyEffects env c m es).isStopping = true → rp = true)
    (hstart : m.isStarting = true → s.remoteStarting = false →
      m.Carried .start ∨ GoesOn c es m .start)
    (hstop : m.isStopping = true → s.remoteStopping = false →
      m.Carried .stop ∨ GoesOn c es m .stop) :
    InProgress ⟨applyEffects env c m es, rs, rp⟩ := by
  have hstate : m.cooperateState = s.machine.cooperateState := congrArg Core.cooperateState hcore
  have hs1 : m.isStarting = s.machine.isStarting := congrArg Core.isStarting hcore
  have hs2 : m.isStopping = s.machine.isStopping := congrArg Core.isStopping hcore
  have hcarried : ∀ kind, Grown c es m (applyEffects env c m es) →
      (∀ e ∈ es, e.finishes ≠ some kind) → m.Carried kind ∨ GoesOn c es m kind →
      (applyEffects env c m es).Carried kind := by
    intro kind hgrown hfin hor
    obtain hc | ⟨ha, hk, e, he, hf | hcar⟩ := hor
    · exact carried_of_grown hgrown hc hwf hok halive
    · exact (hfin e he hf).elim
    · exact carried_of_effect hgrown he hcar ha hk
  refine ⟨?_, ?_, fun hup hrs0 => ?_, fun hup hrp0 => ?_, fun hin hup1 hup2 => ?_⟩
  · exact applyEffects_keeps env c (fun _ h _ _ => kindMatches_applyEffect env c h) hkind
  · exact applyEffects_keeps env c (P := WellFormed)
      (fun _ h e he => wellFormed_applyEffect env (hok e he) h) hwf
  · have hup' : m.isStarting = true := trying_applyEffects env c .start hup
    have hr : s.remoteStarting = false := by
      by_contra hne
      rw [hrs (by simpa using hne) hup] at hrs0
      cases hrs0
    obtain ⟨hfin, hgrown⟩ := grown_applyEffects env c .start (by simp) hup
    refine ⟨?_, hcarried _ hgrown hfin (hstart hup' hr)⟩
    rw [hgrown.cooperateState, hstate]
    exact (h.starting (hs1 ▸ hup') hr).1
  · have hup' : m.isStopping = true := trying_applyEffects env c .stop hup
    have hr : s.remoteStopping = false := by
      by_contra hne
      rw [hrp (by simpa using hne) hup] at hrp0
      cases hrp0
    have hfree := (h.stopping (hs2 ▸ hup') hr).1
    obtain ⟨hfin, hgrown⟩ := grown_applyEffects env c .stop
      (fun _ => by rwa [hstate]) hup
    refine ⟨?_, hcarried _ hgrown hfin (hstop hup' hr)⟩
    rw [hgrown.cooperateState, hstate]
    exact hfree
  · obtain ⟨_, hgrown⟩ := grown_applyEffects env c .start (by simp) hup1
    have hup1' : m.isStarting = true := trying_applyEffects env c .start hup1
    have hup2' : m.isStopping = true := trying_applyEffects env c .stop hup2
    refine hrp (h.apart ?_ (hs1 ▸ hup1') (hs2 ▸ hup2')) hup2
    rw [← hstate, ← hgrown.cooperateState]
    exact hin

theorem mem_eraseP_of_find {α : Type*} {p : α → Bool} {l : List α} {x y : α}
    (h : l.find? p = some x) (hy : y ∈ l) : y = x ∨ y ∈ l.eraseP p := by
  induction l with
  | nil => cases hy
  | cons a l ih =>
    cases ha : p a with
    | true =>
      simp only [List.find?_cons, ha, Option.some.injEq] at h
      subst h
      simpa [List.eraseP_cons, ha] using hy
    | false =>
      simp only [List.find?_cons, ha] at h
      obtain rfl | hy := List.mem_cons.mp hy
      · right
        simp [ha]
      · obtain hx | hx := ih h hy
        · exact Or.inl hx
        · right
          simp [ha, hx]

theorem inProgress_task (env : Surroundings) {s : Watched} {c : Capture} {task : Task}
    {generation : Nat} {rs rp : Bool} (h : InProgress s)
    (hfind : s.machine.tasks.find? (fun t => t.1.object.generation = generation) = some (c, task))
    (es : List Effect) (hes : es = taskEffects env c s.machine.preparedNetworkId task)
    (m : CooperateSM) (hm : m = { s.machine with
      tasks := s.machine.tasks.eraseP fun t => t.1.object.generation = generation })
    (hrs : s.remoteStarting = true → (applyEffects env c m es).isStarting = true → rs = true)
    (hrp : s.remoteStopping = true → (applyEffects env c m es).isStopping = true → rp = true) :
    InProgress ⟨applyEffects env c m es, rs, rp⟩ := by
  obtain ⟨hok, halive⟩ := h.wellFormed.tasks c task (List.mem_of_find?_eq_some hfind)
  have halive' : m.Alive c := by rw [hm]; exact halive
  have hor : ∀ kind, s.machine.Carried kind → m.Carried kind ∨ GoesOn c es m kind := by
    rintro kind ⟨d, hd, hk, ⟨other, hmem, hkind⟩ | ⟨type, callback, hserves, hcb⟩⟩
    · obtain heq | hrest := mem_eraseP_of_find hfind hmem
      · obtain ⟨rfl, rfl⟩ := Prod.mk.inj heq
        subst hkind
        have hgo := taskEffects_goOn env s.machine.preparedNetworkId hok
        rw [← hes] at hgo
        exact Or.inr ⟨halive', by rw [hm]; exact hk, hgo⟩
      · left
        rw [hm]
        exact ⟨d, hd, hk, Or.inl ⟨other, hrest, hkind⟩⟩
    · left
      rw [hm]
      exact ⟨d, hd, hk, Or.inr ⟨type, callback, hserves, hcb⟩⟩
  refine inProgress_continue env h (by rw [hm]; rfl) (by rw [hm]; exact h.kind) ?_ ?_
    (fun _ _ _ => halive') hrs hrp ?_ ?_
  · rw [hm]
    exact wellFormed_of_same h.wellFormed rfl rfl (fun _ hx => List.mem_of_mem_eraseP hx)
      fun _ _ hcb => hcb
  · rw [hes]
    exact taskEffects_ok env _ hok
  · intro hup hr
    rw [hm] at hup
    exact hor _ (h.starting hup hr).2
  · intro hup hr
    rw [hm] at hup
    exact hor _ (h.stopping hup hr).2

theorem inProgress_callback (env : Surroundings) {s : Watched} {c : Capture}
    {callback : DInputCallback} {type : CallbackType} {isSuccess rs rp : Bool} (h : InProgress s)
    (hsaved : s.machine.callbackMap type = some (some (c, callback)))
    (es : List Effect) (hes : es = callbackEffects env c s.machine.isStarting s.machine.isStopping
      isSuccess callback)
    (m : CooperateSM) (hm : m = { s.machine with
      callbackMap := Function.update s.machine.callbackMap type none })
    (hrs : s.remoteStarting = true → (applyEffects env c m es).isStarting = true → rs = true)
    (hrp : s.remoteStopping = true → (applyEffects env c m es).isStopping = true → rp = true) :
    InProgress ⟨applyEffects env c m es, rs, rp⟩ := by
  have hok := h.wellFormed.saved type c callback hsaved
  have hor : ∀ kind, s.machine.Carried kind → (type.serves kind = true →
      (kind = .stop → c.object.kind = s.machine.cooperateState) →
      ∃ e ∈ es, e.finishes = some kind ∨ e.Carries kind) →
      m.Carried kind ∨ GoesOn c es m kind := by
    rintro kind ⟨d, hd, hk, ⟨other, hmem, hkind⟩ | ⟨type', callback', hserves, hcb⟩⟩ hgo
    · left
      rw [hm]
      exact ⟨d, hd, hk, Or.inl ⟨other, hmem, hkind⟩⟩
    · by_cases hsame : type' = type
      · subst hsame
        rw [hsaved] at hcb
        obtain ⟨rfl, rfl⟩ := Prod.mk.inj (Option.some.inj (Option.some.inj hcb))
        right
        rw [hm]
        exact ⟨hd, hk, hgo hserves hk⟩
      · left
        rw [hm]
        exact ⟨d, hd, hk, Or.inr ⟨type', callback', hserves, by simp [hsame, hcb]⟩⟩
  refine inProgress_continue env h (by rw [hm]; rfl) (by rw [hm]; exact h.kind) ?_ ?_ ?_ hrs hrp
    ?_ ?_
  · rw [hm]
    exact wellFormed_of_same h.wellFormed rfl rfl (fun _ hx => hx)
      fun _ _ hcb => saved_of_update_none hcb
  · rw [hes]
    exact callbackEffects_ok env _ _ _ callback
  · intro type' callback' hmem
    have hcall := callbackEffects_call env c s.machine.isStarting s.machine.isStopping isSuccess
      callback
    rw [← hes] at hcall
    have hnone := List.filterMap_eq_nil_iff.mp hcall _ hmem
    cases hnone
  · intro hup hr
    rw [hm] at hup
    have hup' : s.machine.isStarting = true := hup
    refine hor _ (h.starting hup hr).2 fun hserves _ => ?_
    rw [hes, hup']
    exact callbackEffects_goOn_start env hok hserves _ _
  · intro hup hr
    rw [hm] at hup
    have hup' : s.machine.isStopping = true := hup
    obtain ⟨hfree, hcar⟩ := h.stopping hup hr
    refine hor _ hcar fun hserves hk => ?_
    rw [hes, hup']
    refine callbackEffects_goOn_stop env hok hserves ?_ isSuccess
    by_contra hne
    obtain ⟨hout, hstarting⟩ := not_or.mp hne
    rw [hk rfl] at hout
    have hin : s.machine.cooperateState = .stateIn := by
      cases hst : s.machine.cooperateState with
      | stateFree => exact (hfree hst).elim
      | stateIn => rfl
      | stateOut => exact (hout hst).elim
    have hrp' := h.apart hin (by simpa using hstarting) hup'
    rw [hr] at hrp'
    cases hrp'

/-! ## A step -/

theorem closePrepared_callbackMap (env : Surroundings) (s : CooperateSM) (networkId : String)
    {type : CallbackType} (hstop : type ≠ .stopDInputCallbackSink)
    (hprep : type ≠ .unPrepareStopDInputCallbackSink) :
    (s.closePrepared env networkId).callbackMap type = s.callbackMap type := by
  unfold CooperateSM.closePrepared
  split_ifs <;> simp [CooperateSM.callDInput, hstop, hprep]

/-- A device that is not prepared takes no callback's place. -/
theorem closePrepared_of_ne (env : Surroundings) (s : CooperateSM) {networkId : String}
    (h : networkId ≠ s.preparedNetworkId.1 ∧ networkId ≠ s.preparedNetworkId.2) :
    (s.closePrepared env networkId).callbackMap = s.callbackMap := by
  unfold CooperateSM.closePrepared
  rw [if_neg]
  rintro ⟨_, _, h1 | h2⟩
  · exact h.1 h1
  · exact h.2 h2

/-- No flag that was down is up, and what carries on a flag that stays up is
left. -/
theorem inProgress_of_kept {s : Watched} {t : CooperateSM} {rs rp : Bool} (h : InProgress s)
    (hrs : s.remoteStarting = true → t.isStarting = true → rs = true)
    (hrp : s.remoteStopping = true → t.isStopping = true → rp = true)
    (hcur : t.current = s.machine.current) (hstate : t.cooperateState = s.machine.cooperateState)
    (hwf : WellFormed t) (hstarting : t.isStarting = true → s.machine.isStarting = true)
    (hstopping : t.isStopping = true → s.machine.isStopping = true)
    (hstart : s.machine.cooperateState ≠ .stateOut → s.machine.Carried .start → t.Carried .start)
    (hstop : s.StopsAlone → s.machine.Carried .stop → t.Carried .stop) :
    InProgress ⟨t, rs, rp⟩ := by
  refine ⟨?_, hwf, fun hup hr => ?_, fun hup hr => ?_, fun hin hup1 hup2 => ?_⟩
  · have hkind : s.machine.current.kind = s.machine.cooperateState := h.kind
    show t.current.kind = t.cooperateState
    rw [hcur, hkind, hstate]
  · have hr' : s.remoteStarting = false := by
      by_contra hne
      rw [hrs (by simpa using hne) hup] at hr
      cases hr
    obtain ⟨hout, hcar⟩ := h.starting (hstarting hup) hr'
    exact ⟨by rwa [hstate], hstart hout hcar⟩
  · have hr' : s.remoteStopping = false := by
      by_contra hne
      rw [hrp (by simpa using hne) hup] at hr
      cases hr
    obtain ⟨hfree, hcar⟩ := h.stopping (hstopping hup) hr'
    exact ⟨by rwa [hstate], hstop ⟨hstopping hup, hr'⟩ hcar⟩
  · exact hrp (h.apart (by rwa [← hstate]) (hstarting hup1) (hstopping hup2)) hup2

/-- A machine whose flags are down. -/
theorem inProgress_of_idle {t : CooperateSM} {rs rp : Bool} (hkind : KindMatches t)
    (hwf : WellFormed t) (hstarting : t.isStarting = false) (hstopping : t.isStopping = false) :
    InProgress ⟨t, rs, rp⟩ where
  kind := hkind
  wellFormed := hwf
  starting hup := by rw [hstarting] at hup; cases hup
  stopping hup := by rw [hstopping] at hup; cases hup
  apart _ hup := by rw [hstarting] at hup; cases hup

theorem wellFormed_reset {s : CooperateSM} (h : WellFormed s) : WellFormed s.reset :=
  wellFormed_of_renewed h rfl rfl rfl

theorem wellFormed_quieted {s t : CooperateSM} (h : WellFormed s)
    (ht : CooperateSM.Quieted s t) : WellFormed t := by
  have hs : t.current = s.current ∧ t.keepsTasks = s.keepsTasks ∧ t.tasks = s.tasks := by
    rw [ht.eq]
    exact ⟨rfl, rfl, rfl⟩
  refine wellFormed_of_same h hs.1 hs.2.1 (fun x hx => hs.2.2 ▸ hx) fun type item hcb => ?_
  obtain hsame | hnone := ht.callbackMap type
  · rw [← hsame, hcb]
  · rw [hnone] at hcb
    cases hcb

theorem inProgress_received {s : Watched} {env : Surroundings} {sessionId : Int32}
    {message : Message} {rs rp : Bool} (h : InProgress s) (hsession : ¬ sessionId < 0)
    (hap : Apart s ⟨env, .onBytesReceived sessionId message⟩)
    (hrs : (CooperateInput.onBytesReceived sessionId message).requests = some .start ∨
      s.remoteStarting = true →
      (s.machine.handleSessionData sessionId message).isStarting = true → rs = true)
    (hrp : (CooperateInput.onBytesReceived sessionId message).requests = some .stop ∨
      s.remoteStopping = true →
      (s.machine.handleSessionData sessionId message).isStopping = true → rp = true) :
    InProgress ⟨s.machine.handleSessionData sessionId message, rs, rp⟩ := by
  have hsame : ∀ {t : CooperateSM}, t.current = s.machine.current →
      t.keepsTasks = s.machine.keepsTasks → t.tasks = s.machine.tasks →
      t.callbackMap = s.machine.callbackMap → WellFormed t := fun h1 h2 h3 h4 =>
    wellFormed_of_same h.wellFormed h1 h2 (fun _ hx => h3 ▸ hx) fun _ _ hcb => h4 ▸ hcb
  cases message with
  | startRemoteCooperate deviceId =>
    have hreq : rs = true := hrs (Or.inl (if_neg hsession)) rfl
    refine ⟨h.kind, hsame rfl rfl rfl rfl, fun _ hr => ?_, fun hup hr => ?_, fun hin _ hup => ?_⟩
    · rw [hreq] at hr
      cases hr
    · have hr' : s.remoteStopping = false := by
        by_contra hne
        rw [hrp (Or.inr (by simpa using hne)) hup] at hr
        cases hr
      exact h.stopping hup hr'
    · refine hrp (Or.inr ?_) hup
      by_contra hne
      exact hsession (hap hin ⟨hup, by simpa using hne⟩)
  | startRemoteCooperateResult isSuccess startDhid x y =>
    have hcases := s.machine.startRemoteCooperateResult_cases isSuccess startDhid x y
    rw [CooperateSM.handleSessionData_eq s.machine sessionId 0] at hrs hrp ⊢
    generalize s.machine.handleSessionData 0 _ = t at hcases hrs hrp
    cases hcases with
    | ignored hs =>
      exact inProgress_of_kept h (fun hr => hrs (Or.inr hr)) (fun hr => hrp (Or.inr hr)) rfl rfl
        h.wellFormed id id (fun _ hc => hc) fun _ hc => hc
    | failed hs =>
      refine inProgress_of_kept h (fun hr => hrs (Or.inr hr)) (fun hr => hrp (Or.inr hr)) rfl rfl
        (hsame rfl rfl rfl rfl) (fun hup => by cases hup) id (fun _ hc => hc) fun _ hc => hc
    | into hs hfree =>
      -- a stop that this side ends has an object that is not free
      refine ⟨rfl, wellFormed_of_renewed h.wellFormed rfl rfl rfl, fun hup => ?_,
        fun hup hr => ?_, fun _ hup => ?_⟩
      · cases hup
      · have hr' : s.remoteStopping = false := by
          by_contra hne
          rw [hrp (Or.inr (by simpa using hne)) hup] at hr
          cases hr
        exact ((h.stopping hup hr').1 hfree).elim
      · cases hup
    | back =>
      exact inProgress_of_idle rfl (wellFormed_of_renewed h.wellFormed rfl rfl rfl) rfl rfl
  | stopRemoteCooperate =>
    have hreq : rp = true := hrp (Or.inl (if_neg hsession)) rfl
    refine ⟨h.kind, hsame rfl rfl rfl rfl, fun hup hr => ?_, fun _ hr => ?_, fun _ _ _ => hreq⟩
    · have hr' : s.remoteStarting = false := by
        by_contra hne
        rw [hrs (Or.inr (by simpa using hne)) hup] at hr
        cases hr
      exact h.starting hup hr'
    · rw [hreq] at hr
      cases hr
  | stopRemoteCooperateResult isSuccess =>
    have hcases := s.machine.stopRemoteCooperateResult_cases isSuccess
    rw [CooperateSM.handleSessionData_eq s.machine sessionId 0] at hrs hrp ⊢
    generalize s.machine.handleSessionData 0 _ = t at hcases hrs hrp
    cases hcases with
    | ignored hs =>
      exact inProgress_of_kept h (fun hr => hrs (Or.inr hr)) (fun hr => hrp (Or.inr hr)) rfl rfl
        h.wellFormed id id (fun _ hc => hc) fun _ hc => hc
    | failed hs =>
      refine inProgress_of_kept h (fun hr => hrs (Or.inr hr)) (fun hr => hrp (Or.inr hr)) rfl rfl
        (hsame rfl rfl rfl rfl) id (fun hup => by cases hup) (fun _ hc => hc) fun _ hc => hc
    | ended => exact inProgress_of_idle rfl (wellFormed_reset h.wellFormed) rfl rfl
  | startCooperateOtherResult srcNetworkId =>
    exact inProgress_of_kept h (fun hr => hrs (Or.inr hr)) (fun hr => hrp (Or.inr hr)) rfl rfl
      (hsame rfl rfl rfl rfl) id id (fun _ hc => hc) fun _ hc => hc

/-- What a move does, by its cases. -/
theorem inProgress_move {s : Watched} {i : CooperateStep} {t : CooperateSM} {rs rp : Bool}
    (h : InProgress s) (hap : Apart s i) (hmoves : Moves s.machine i t)
    (hrs : i.input.requests = some .start ∨ s.remoteStarting = true → t.isStarting = true →
      rs = true)
    (hrp : i.input.requests = some .stop ∨ s.remoteStopping = true → t.isStopping = true →
      rp = true) : InProgress ⟨t, rs, rp⟩ := by
  have hkind : s.machine.current.kind = s.machine.cooperateState := h.kind
  cases hmoves with
  | nothing =>
    exact inProgress_of_kept h (fun hr => hrs (Or.inr hr)) (fun hr => hrp (Or.inr hr)) rfl rfl
      h.wellFormed id id (fun _ hc => hc) fun _ hc => hc
  | @started env remoteNetworkId dev ha =>
    have hwf : WellFormed (s.machine.started env remoteNetworkId dev) :=
      wellFormed_append h.wellFormed rfl rfl rfl trivial (Or.inl rfl) rfl
    refine ⟨hkind, hwf, fun _ _ => ⟨?_, ?_⟩, fun hup hr => ?_, fun hin _ hup => ?_⟩
    · show s.machine.cooperateState ≠ .stateOut
      rw [← hkind]
      exact ha.2.1
    · exact ⟨⟨s.machine.current, s.machine.nextAttempt⟩, Or.inl rfl, by simp,
        Or.inl ⟨_, List.mem_append_right _ (List.mem_singleton.mpr rfl), rfl⟩⟩
    · have hr' : s.remoteStopping = false := by
        by_contra hne
        rw [hrp (Or.inr (by simpa using hne)) hup] at hr
        cases hr
      obtain ⟨hfree, hcar⟩ := h.stopping hup hr'
      exact ⟨hfree, carried_mono hcar rfl rfl rfl (fun _ hx => List.mem_append_left _ hx)
        fun _ _ _ hcb => hcb⟩
    · refine hrp (Or.inr ?_) hup
      by_contra hne
      exact hap hin ⟨hup, by simpa using hne⟩ ha
  | stopped hi hs ha =>
    have hfree : s.machine.cooperateState ≠ .stateFree := hkind ▸ ha.1
    have hok : TaskOk ⟨s.machine.current, s.machine.nextAttempt⟩
        (.processStop (s.machine.stopSource (s.machine.stopNetworkId i.env))) := ha.1
    refine ⟨hkind, wellFormed_append h.wellFormed rfl rfl rfl hok (Or.inl rfl) rfl,
      fun hup hr => ?_, fun _ _ => ⟨hfree, ?_⟩, fun hin hup _ => ?_⟩
    · have hr' : s.remoteStarting = false := by
        by_contra hne
        rw [hrs (Or.inr (by simpa using hne)) hup] at hr
        cases hr
      obtain ⟨hout, hcar⟩ := h.starting hup hr'
      exact ⟨hout, carried_mono hcar rfl rfl rfl (fun _ hx => List.mem_append_left _ hx)
        fun _ _ _ hcb => hcb⟩
    · exact ⟨⟨s.machine.current, s.machine.nextAttempt⟩, Or.inl rfl, fun _ => hkind,
        Or.inl ⟨_, List.mem_append_right _ (List.mem_singleton.mpr rfl), rfl⟩⟩
    · have hdown : s.machine.isStarting = false := by
        obtain hi | ⟨hdown, _⟩ := hi
        · unfold Apart at hap
          rw [hi] at hap
          exact hap hin
        · exact hdown
      have hup' : s.machine.isStarting = true := hup
      rw [hdown] at hup'
      cases hup'
  | received hsession => exact inProgress_received h hsession hap hrs hrp
  | left hi ht =>
    exact inProgress_of_idle rfl (wellFormed_reset (wellFormed_quieted h.wellFormed ht)) rfl rfl
  | @closed env networkId isLocal hleft =>
    have hq := s.machine.quieted_closePrepared env networkId
    have hwf := wellFormed_quieted h.wellFormed hq
    have hstart : ∀ type, type.serves .start = true →
        (s.machine.closePrepared env networkId).callbackMap type = s.machine.callbackMap type := by
      intro type hserves
      refine closePrepared_callbackMap env s.machine networkId ?_ ?_
      · rintro rfl
        cases hserves
      · rintro rfl
        cases hserves
    have hmap : ∀ kind (c : Capture), s.machine.Alive c →
        (kind = .stop → c.object.kind = s.machine.cooperateState) →
        ((∃ task, (c, task) ∈ s.machine.tasks ∧ task.kind = kind) ∨
          ∃ type callback, type.serves kind = true ∧
            (s.machine.closePrepared env networkId).callbackMap type =
              some (some (c, callback))) →
        (s.machine.closePrepared env networkId).Carried kind := by
      intro kind c halive hk hleft
      generalize s.machine.closePrepared env networkId = t at hq hleft
      refine ⟨c, ?_, ?_, ?_⟩
      · unfold CooperateSM.Alive at *
        rw [hq.eq]
        exact halive
      · rw [hq.eq]
        exact hk
      · obtain ⟨task, hmem, hkind⟩ | hcb := hleft
        · left
          rw [hq.eq]
          exact ⟨task, hmem, hkind⟩
        · exact Or.inr hcb
    refine inProgress_of_kept h (fun hr => hrs (Or.inr hr)) (fun hr => hrp (Or.inr hr))
      (by rw [hq.eq]) (by rw [hq.eq]) hwf (by rw [hq.eq]; exact id) (by rw [hq.eq]; exact id) ?_ ?_
    · rintro _ ⟨c, halive, hk, htask | ⟨type, callback, hserves, hcb⟩⟩
      · exact hmap _ c halive hk (Or.inl htask)
      · exact hmap _ c halive hk
          (Or.inr ⟨type, callback, hserves, (hstart type hserves).trans hcb⟩)
    · rintro halone ⟨c, halive, hk, htask | ⟨type, callback, hserves, hcb⟩⟩
      · exact hmap _ c halive hk (Or.inl htask)
      · refine hmap _ c halive hk (Or.inr ⟨type, callback, hserves, ?_⟩)
        have hsaved := h.wellFormed.saved type c callback hcb
        cases hstate : s.machine.cooperateState with
        | stateFree =>
          obtain ⟨hup, hr⟩ := halone
          exact ((h.stopping hup hr).1 hstate).elim
        | stateIn =>
          -- the slot of an out object's stop is not a carrier here
          rw [closePrepared_callbackMap env s.machine networkId ?_ ?_, hcb]
          · rintro rfl
            cases callback with
            | onStopRemoteInput =>
              have hout : c.object.kind = .stateOut := hsaved
              rw [hk rfl, hstate] at hout
              cases hout
            | _ => exact hsaved
          · rintro rfl
            cases hserves
        | stateOut =>
          obtain hl | hne := hap hstate halone
          · exact (hleft hl).elim
          · rw [closePrepared_of_ne env s.machine hne, hcb]
  | @keyboard env hout =>
    have hstate : s.machine.cooperateState = .stateOut := hkind ▸ hout
    have hq : CooperateSM.Quieted s.machine
        (s.machine.callDInput env .startDInputCallbackSink none).2 :=
      CooperateSM.quieted_callDInput (CooperateSM.Quieted.refl s.machine) _
    have hwf := wellFormed_quieted h.wellFormed hq
    refine inProgress_of_kept h (fun hr => hrs (Or.inr hr)) (fun hr => hrp (Or.inr hr)) rfl rfl
      hwf id id (fun hne _ => (hne hstate).elim) fun _ hcar => ?_
    refine carried_mono hcar rfl rfl rfl (fun _ hx => hx) fun type item hserves hcb => ?_
    rw [← hcb]
    refine Function.update_of_ne ?_ ..
    rintro rfl
    cases hserves
  | @emptied env type isSuccess hnone =>
    have hcarried : ∀ kind, s.machine.Carried kind → CooperateSM.Carried
        { s.machine with callbackMap := Function.update s.machine.callbackMap type none } kind := by
      intro kind hcar
      refine carried_mono hcar rfl rfl rfl (fun _ hx => hx) fun other item _ hcb => ?_
      rw [← hcb]
      refine Function.update_of_ne ?_ ..
      rintro rfl
      rw [hnone] at hcb
      cases hcb
    exact inProgress_of_kept h (fun hr => hrs (Or.inr hr)) (fun hr => hrp (Or.inr hr)) rfl rfl
      (wellFormed_of_same h.wellFormed rfl rfl (fun _ hx => hx)
        fun _ _ hcb => saved_of_update_none hcb) id id (fun _ => hcarried _) fun _ => hcarried _
  | task hfind =>
    exact inProgress_task _ h hfind _ rfl _ rfl (fun hr => hrs (Or.inr hr))
      fun hr => hrp (Or.inr hr)
  | callback hsaved =>
    exact inProgress_callback _ h hsaved _ rfl _ rfl (fun hr => hrs (Or.inr hr))
      fun hr => hrp (Or.inr hr)

theorem inProgress_step (s : Watched) (i : CooperateStep) (h : InProgress s) (hap : Apart s i) :
    InProgress (s.step i) := by
  refine inProgress_move h hap (step_moves s.machine i) (fun hreq hup => ?_) fun hreq hup => ?_
  · simp [hup, hreq]
  · simp [hup, hreq]

theorem inProgress_init (keepsTasks : Bool) : InProgress (Watched.init keepsTasks) :=
  inProgress_of_idle rfl
    ⟨fun _ _ hmem => (List.not_mem_nil hmem).elim, fun _ _ _ hcb => by cases hcb⟩ rfl rfl

/-! ## Runs -/

/-- No flag is up with nobody left to lower it, if an in object's start and
stop are kept apart and nothing takes the place of the callback that an out
object's stop waits for. -/
theorem notStuck_of_apart (keepsTasks : Bool) (is : List CooperateStep)
    (h : AllSteps Watched.step Apart (Watched.init keepsTasks) is) :
    Always Watched.step NotStuck (Watched.init keepsTasks) is :=
  (always_of_allSteps inProgress_step is _ (inProgress_init keepsTasks) h).mono
    fun _ => notStuck_of_inProgress

theorem notStuck_of_apart_calmStart :
    Always Watched.step NotStuck (Watched.init true) calmStart :=
  notStuck_of_apart true calmStart (by decide +kernel)

/-- `calm`, and the peer's mouse is there as well, as device 2. -/
def joined : Surroundings :=
  { calm with inputDevice := calm.inputDevice ++ [(2, ⟨"peer", true, true, "dhid", none⟩)] }

/-- A device that the peer uses stops, and starts to come back before the stop
has come to its end. -/
def comeBackWhileStopping : List CooperateStep :=
  [⟨joined, .onBytesReceived 1 (.startRemoteCooperate "peer")⟩,
    ⟨joined, .onBytesReceived 1 (.startRemoteCooperateResult true "dhid" 0 0)⟩,
    ⟨joined, .stopInputDeviceCooperate⟩, ⟨joined, .runTask 1⟩,
    ⟨joined, .startInputDeviceCooperate "peer" 2⟩, ⟨joined, .runTask 1⟩,
    ⟨joined, .processDInputCallback .stopDInputCallbackDHIds false⟩, ⟨joined, .runTask 1⟩]

/-- Both have waited for one callback, which has failed the start only. -/
theorem stop_stuck_comeBackWhileStopping :
    ¬ Always Watched.step NotStuck (Watched.init true) comeBackWhileStopping := by
  intro h
  obtain ⟨_, hdown⟩ := h.last (by decide +kernel) (by decide +kernel) (by decide +kernel)
    (by decide +kernel)
  exact absurd hdown (by decide +kernel)

end FtMmi.InputDeviceCooperate
