/-
FtMmi.InputDeviceCooperate.AttemptFinish — how an attempt that is left alone
comes to its end.

`Alone` runs one attempt from an idle machine: the task that is waiting, or
else the callback of the call that has been taken and has not answered. Each
step has its own surroundings, and its own report for the callback, so every
pattern of calls that are refused, that fail and that succeed is a run.

* `finishesOnce_iff` — an attempt ends with exactly one call of its finish
  function, true precisely if each call it needed reported success, unless
  the state object goes on after it has given up (`Request.Single`).
-/
import FtMmi.InputDeviceCooperate.StateObjects

namespace FtMmi.InputDeviceCooperate

open FtMmi.Lib

/-! ## An attempt alone -/

/-- What is around a step, and what the callback reports if one is called. -/
structure AloneStep where
  env : Surroundings
  isSuccess : Bool

structure Alone where
  machine : CooperateSM
  /-- the calls that were taken and have not answered -/
  awaited : List CallbackType
  /-- the calls, and what was reported of each -/
  reports : List (CallbackType × Bool)

namespace Alone

/-- The machine goes on. The calls it has refused have reported a failure. -/
def after (a : Alone) (machine : CooperateSM) : Alone :=
  let made := machine.calls.drop a.machine.calls.length
  { machine
    awaited := a.awaited ++ (made.filter fun call => call.2).map Prod.fst
    reports := a.reports ++ made.filter fun call => !call.2 }

def step (a : Alone) (i : AloneStep) : Alone :=
  match a.machine.tasks with
  | (c, _) :: _ => a.after (a.machine.runTask i.env c.object.generation)
  | [] =>
      match a.awaited with
      | [] => a
      | type :: rest =>
          after { a with awaited := rest, reports := a.reports ++ [(type, i.isSuccess)] }
            (a.machine.processDInputCallback i.env type i.isSuccess)

def begin (machine : CooperateSM) : Alone := ⟨machine, [], []⟩

end Alone

/-- A request for an attempt: a start, or a stop of the current object. -/
inductive Request where
  | start (remoteNetworkId : String) (startInputDeviceId : Int32)
  | stop (networkId : String)

namespace Request

def kind : Request → AttemptKind
  | start .. => .start
  | stop _ => .stop

def result (env : Surroundings) (s : CooperateSM) : Request → Bool × CooperateSM
  | start remoteNetworkId dev => s.startInputDeviceCooperate env remoteNetworkId dev
  | stop networkId => s.stopCurrent env networkId

/-- The start takes the devices back from the side they were lent to. -/
def ComesBack (env : Surroundings) (s : CooperateSM) (remoteNetworkId : String) (dev : Int32) :
    Prop :=
  s.current.kind = .stateIn ∧ remoteNetworkId = env.getOriginNetworkId dev

instance (env : Surroundings) (s : CooperateSM) (remoteNetworkId : String) (dev : Int32) :
    Decidable (ComesBack env s remoteNetworkId dev) := by
  unfold ComesBack
  infer_instance

/-- The calls of the distributed input that the attempt needs. -/
def needed (env : Surroundings) (s : CooperateSM) : Request → List CallbackType
  | start remoteNetworkId dev =>
      if ComesBack env s remoteNetworkId dev then [.stopDInputCallbackDHIds]
      else
        (if s.preparedNetworkId ≠ (remoteNetworkId, env.getOriginNetworkId dev) then
          [.prepareStartDInputCallbackSink]
        else []) ++
          .startDInputCallbackSink ::
            if s.current.kind = .stateIn then [.stopDInputCallbackDHIds] else []
  | stop _ =>
      if s.current.kind = .stateIn then [.stopDInputCallbackDHIds] else [.stopDInputCallbackSink]

/-- When the state object does not go on after it has given up. `i` and `j`
are the attempt's first steps. -/
def Single (s : CooperateSM) (i j : AloneStep) : Request → Prop
  | start remoteNetworkId dev =>
      if ComesBack i.env s remoteNetworkId dev then
        i.env.getCooperateDhids dev ≠ [] ∨
          i.env.accepts .stopDInputCallbackDHIds = true ∧ j.isSuccess = false
      else
        s.preparedNetworkId ≠ (remoteNetworkId, i.env.getOriginNetworkId dev) ∨
          i.env.getCooperateDhids dev ≠ [] ∧ i.env.accepts .startDInputCallbackSink = true
  | stop _ =>
      s.current.kind = .stateOut → i.env.getCooperateDhidsOf s.current.startDhid ≠ []

end Request

/-- The machine is in no attempt, and no task is waiting. -/
structure Quiet (s : CooperateSM) : Prop where
  starting : s.isStarting = false
  stopping : s.isStopping = false
  tasks : s.tasks = []

/-- The attempt has come to its end with one call of its finish function, which
carries true precisely if each call it needed reported success. -/
def FinishesOnce (s : CooperateSM) (kind : AttemptKind) (needed : List CallbackType)
    (a : Alone) : Prop :=
  ∃ f, a.machine.finishes = s.finishes ++ [f] ∧ f.kind = kind ∧ f.attempt = s.nextAttempt ∧
    (f.isSuccess = true ↔ ∀ type ∈ needed, (type, true) ∈ a.reports)

/-! ## What a list of effects leaves behind -/

/-- The finish an effect calls, and what it carries. -/
def Effect.brief : Effect → Option (AttemptKind × Bool)
  | .startFinish isSuccess _ _ => some (.start, isSuccess)
  | .stopFinish isSuccess _ => some (.stop, isSuccess)
  | _ => none

def Finish.brief (f : Finish) : AttemptKind × Bool := (f.kind, f.isSuccess)

section
variable (env : Surroundings) (c : Capture)

theorem finishes_applyEffect (s : CooperateSM) (e : Effect) :
    ∃ fs : List Finish, (applyEffect env c s e).finishes = s.finishes ++ fs ∧
      fs.map Finish.brief = e.brief.toList ∧ ∀ f ∈ fs, f.attempt = c.attempt := by
  cases e with
  | prepared networkIds => exact ⟨[], by simp [applyEffect], rfl, by simp⟩
  | saved type callback => exact ⟨[], by simp [applyEffect, CooperateSM.callDInput], rfl, by simp⟩
  | posted task =>
    refine ⟨[], ?_, rfl, by simp⟩
    simp only [applyEffect, CooperateSM.post]
    split <;> simp
  | startFinish isSuccess remoteNetworkId dev =>
    have hcases := s.onStartFinish_cases env c.attempt isSuccess remoteNetworkId dev
    simp only [applyEffect]
    generalize s.onStartFinish env c.attempt isSuccess remoteNetworkId dev = s' at hcases
    cases hcases <;> exact ⟨[_], rfl, rfl, by simp⟩
  | stopFinish isSuccess remoteNetworkId =>
    have hcases := s.onStopFinish_cases env c.attempt isSuccess remoteNetworkId
    simp only [applyEffect]
    generalize s.onStopFinish env c.attempt isSuccess remoteNetworkId = s' at hcases
    cases hcases <;> exact ⟨[_], rfl, rfl, by simp⟩

theorem finishes_applyEffects (s : CooperateSM) (es : List Effect) :
    ∃ fs : List Finish, (applyEffects env c s es).finishes = s.finishes ++ fs ∧
      fs.map Finish.brief = es.filterMap Effect.brief ∧ ∀ f ∈ fs, f.attempt = c.attempt := by
  induction es generalizing s with
  | nil => exact ⟨[], by simp, rfl, by simp⟩
  | cons e es ih =>
    obtain ⟨fs, hfs, hbrief, hatt⟩ := finishes_applyEffect env c s e
    obtain ⟨gs, hgs, hbrief', hatt'⟩ := ih (applyEffect env c s e)
    refine ⟨fs ++ gs, ?_, ?_, ?_⟩
    · rw [applyEffects_cons, hgs, hfs, List.append_assoc]
    · rw [List.map_append, hbrief, hbrief']
      cases h : e.brief <;> simp [h]
    · intro f hf
      obtain hf | hf := List.mem_append.mp hf
      · exact hatt f hf
      · exact hatt' f hf

/-- The call an effect makes, and if it is taken. -/
def Effect.call : Effect → Option (CallbackType × Bool)
  | .saved type _ => some (type, env.accepts type)
  | _ => none

theorem calls_applyEffect (s : CooperateSM) (e : Effect) :
    (applyEffect env c s e).calls = s.calls ++ (e.call env).toList := by
  cases e with
  | prepared networkIds => simp [applyEffect, Effect.call]
  | saved type callback => rfl
  | posted task =>
    simp only [applyEffect, CooperateSM.post]
    split <;> simp [Effect.call]
  | startFinish isSuccess remoteNetworkId dev =>
    have hcases := s.onStartFinish_cases env c.attempt isSuccess remoteNetworkId dev
    simp only [applyEffect]
    generalize s.onStartFinish env c.attempt isSuccess remoteNetworkId dev = s' at hcases
    cases hcases <;> exact (List.append_nil _).symm
  | stopFinish isSuccess remoteNetworkId =>
    have hcases := s.onStopFinish_cases env c.attempt isSuccess remoteNetworkId
    simp only [applyEffect]
    generalize s.onStopFinish env c.attempt isSuccess remoteNetworkId = s' at hcases
    cases hcases <;> exact (List.append_nil _).symm

theorem calls_applyEffects (s : CooperateSM) (es : List Effect) :
    (applyEffects env c s es).calls = s.calls ++ es.filterMap (Effect.call env) := by
  induction es generalizing s with
  | nil => simp
  | cons e es ih =>
    rw [applyEffects_cons, ih, calls_applyEffect]
    cases h : e.call env <;> simp [h]

theorem tasks_applyEffects {s : CooperateSM} {es : List Effect}
    (hes : ∀ e ∈ es, ∀ task, e ≠ .posted task) (hs : s.tasks = []) :
    (applyEffects env c s es).tasks = [] := by
  refine applyEffects_keeps env c (P := fun t => t.tasks = []) (fun t ht e he => ?_) hs
  cases e with
  | prepared networkIds => exact ht
  | saved type callback => exact ht
  | posted task => exact (hes _ he task rfl).elim
  | startFinish isSuccess remoteNetworkId dev =>
    have hcases := t.onStartFinish_cases env c.attempt isSuccess remoteNetworkId dev
    simp only [applyEffect]
    generalize t.onStartFinish env c.attempt isSuccess remoteNetworkId dev = t' at hcases
    cases hcases <;> simp [ht, CooperateSM.finish, CooperateSM.reset, CooperateSM.renew]
  | stopFinish isSuccess remoteNetworkId =>
    have hcases := t.onStopFinish_cases env c.attempt isSuccess remoteNetworkId
    simp only [applyEffect]
    generalize t.onStopFinish env c.attempt isSuccess remoteNetworkId = t' at hcases
    cases hcases <;> simp [ht, CooperateSM.finish, CooperateSM.reset, CooperateSM.renew]

theorem current_applyEffects {s : CooperateSM} {es : List Effect} (hes : ∀ e ∈ es, e.Keeps) :
    (applyEffects env c s es).current = s.current := by
  refine applyEffects_keeps env c (P := fun t => t.current = s.current) (fun t ht e he => ?_) rfl
  have hkeep := hes e he
  cases e with
  | prepared networkIds => exact ht
  | saved type callback => exact ht
  | posted task =>
    simp only [applyEffect, CooperateSM.post]
    split <;> exact ht
  | startFinish isSuccess remoteNetworkId dev =>
    obtain rfl : isSuccess = false := hkeep
    have hcases := t.onStartFinish_cases env c.attempt false remoteNetworkId dev
    simp only [applyEffect]
    generalize t.onStartFinish env c.attempt false remoteNetworkId dev = t' at hcases
    cases hcases <;> exact ht
  | stopFinish isSuccess remoteNetworkId =>
    obtain rfl : isSuccess = false := hkeep
    have hcases := t.onStopFinish_cases env c.attempt false remoteNetworkId
    simp only [applyEffect]
    generalize t.onStopFinish env c.attempt false remoteNetworkId = t' at hcases
    cases hcases <;> exact ht

/-- The calls among the effects that are taken. -/
def taken (es : List Effect) : List CallbackType :=
  ((es.filterMap (Effect.call env)).filter fun call => call.2).map Prod.fst

/-- The calls among the effects that are refused. -/
def refused (es : List Effect) : List (CallbackType × Bool) :=
  (es.filterMap (Effect.call env)).filter fun call => !call.2

theorem after_applyEffects (a : Alone) {m : CooperateSM} (hm : m.calls = a.machine.calls)
    (es : List Effect) :
    a.after (applyEffects env c m es) =
      ⟨applyEffects env c m es, a.awaited ++ taken env es, a.reports ++ refused env es⟩ := by
  simp [Alone.after, calls_applyEffects, hm, taken, refused]

end

/-! ## Where an attempt stands -/

/-- The task is waiting, and no call. -/
structure Runs (c : Capture) (task : Task) (a : Alone) : Prop where
  tasks : a.machine.tasks = [(c, task)]
  awaited : a.awaited = []
  current : a.machine.current = c.object

/-- The callback is waiting for a call, and no task. -/
structure Waits (c : Capture) (type : CallbackType) (callback : DInputCallback) (a : Alone) :
    Prop where
  tasks : a.machine.tasks = []
  awaited : a.awaited = [type]
  saved : a.machine.callbackMap type = some (some (c, callback))
  current : a.machine.current = c.object

/-- The machine without the task or the callback it is about to run. -/
structure Without (c : Capture) (a : Alone) (m : CooperateSM) : Prop where
  tasks : m.tasks = []
  current : m.current = c.object
  finishes : m.finishes = a.machine.finishes
  isStarting : m.isStarting = a.machine.isStarting
  isStopping : m.isStopping = a.machine.isStopping

theorem step_of_runs {c : Capture} {task : Task} {a : Alone} (h : Runs c task a) (i : AloneStep) :
    ∃ m, Without c a m ∧ a.step i =
      let es := taskEffects i.env c a.machine.preparedNetworkId task
      ⟨applyEffects i.env c m es, taken i.env es, a.reports ++ refused i.env es⟩ := by
  refine ⟨{ a.machine with tasks := [] }, ⟨rfl, h.current, rfl, rfl, rfl⟩, ?_⟩
  have hrun : a.machine.runTask i.env c.object.generation =
      applyEffects i.env c { a.machine with tasks := [] }
        (taskEffects i.env c a.machine.preparedNetworkId task) := by
    simp [CooperateSM.runTask, h.tasks, performTask_eq]
  have hstep : a.step i = a.after (a.machine.runTask i.env c.object.generation) := by
    simp [Alone.step, h.tasks]
  have hafter := after_applyEffects i.env c a (m := { a.machine with tasks := [] }) rfl
    (taskEffects i.env c a.machine.preparedNetworkId task)
  rw [hstep, hrun, hafter, h.awaited]
  rfl

theorem callbackEffects_call (env : Surroundings) (c : Capture)
    (isStarting isStopping isSuccess : Bool) (callback : DInputCallback) :
    (callbackEffects env c isStarting isStopping isSuccess callback).filterMap (Effect.call env) =
      [] := by
  cases callback <;> simp only [callbackEffects] <;> split_ifs <;> simp [Effect.call]

theorem step_of_waits {c : Capture} {type : CallbackType} {callback : DInputCallback} {a : Alone}
    (h : Waits c type callback a) (i : AloneStep) :
    ∃ m, Without c a m ∧ a.step i =
      ⟨applyEffects i.env c m
          (callbackEffects i.env c a.machine.isStarting a.machine.isStopping i.isSuccess callback),
        [], a.reports ++ [(type, i.isSuccess)]⟩ := by
  refine ⟨{ a.machine with callbackMap := Function.update a.machine.callbackMap type none },
    ⟨h.tasks, h.current, rfl, rfl, rfl⟩, ?_⟩
  have hrun : a.machine.processDInputCallback i.env type i.isSuccess =
      applyEffects i.env c
        { a.machine with callbackMap := Function.update a.machine.callbackMap type none }
        (callbackEffects i.env c a.machine.isStarting a.machine.isStopping i.isSuccess
          callback) := by
    simp [CooperateSM.processDInputCallback, h.saved, performCallback_eq]
  have hafter := after_applyEffects i.env c
    { a with awaited := [], reports := a.reports ++ [(type, i.isSuccess)] }
    (m := { a.machine with callbackMap := Function.update a.machine.callbackMap type none }) rfl
    (callbackEffects i.env c a.machine.isStarting a.machine.isStopping i.isSuccess callback)
  have hstep : a.step i =
      Alone.after { a with awaited := [], reports := a.reports ++ [(type, i.isSuccess)] }
        (a.machine.processDInputCallback i.env type i.isSuccess) := by
    simp [Alone.step, h.tasks, h.awaited]
  rw [hstep, hrun, hafter]
  simp [taken, refused, callbackEffects_call]

/-- The steps end with these calls of the finish functions, and add these
reports. -/
def Ends (c : Capture) (a : Alone) (is : List AloneStep) (bs : List (AttemptKind × Bool))
    (rs : List (CallbackType × Bool)) : Prop :=
  ∃ fs : List Finish,
    (runFrom Alone.step a is).machine.finishes = a.machine.finishes ++ fs ∧
      fs.map Finish.brief = bs ∧ (∀ f ∈ fs, f.attempt = c.attempt) ∧
      (runFrom Alone.step a is).reports = a.reports ++ rs

/-- Nothing is left to run. -/
theorem ends_of_rests (c : Capture) {a : Alone} (ht : a.machine.tasks = []) (hw : a.awaited = [])
    (is : List AloneStep) : Ends c a is [] [] := by
  have hstay : runFrom Alone.step a is = a := by
    induction is with
    | nil => rfl
    | cons i is ih =>
      have hstep : a.step i = a := by simp [Alone.step, ht, hw]
      rw [runFrom_cons, hstep]
      exact ih
  exact ⟨[], by simp [hstay], rfl, by simp, by simp [hstay]⟩

/-- A step, and what follows. -/
theorem ends_cons {c : Capture} {a : Alone} {i : AloneStep} {is : List AloneStep}
    {m : CooperateSM} {es : List Effect} {w : List CallbackType}
    {bs : List (AttemptKind × Bool)} {rs rs' : List (CallbackType × Bool)}
    (hstep : a.step i = ⟨applyEffects i.env c m es, w, a.reports ++ rs⟩)
    (hm : m.finishes = a.machine.finishes)
    (hrest : Ends c ⟨applyEffects i.env c m es, w, a.reports ++ rs⟩ is bs rs') :
    Ends c a (i :: is) (es.filterMap Effect.brief ++ bs) (rs ++ rs') := by
  obtain ⟨gs, hgs, hbrief, hatt, hreports⟩ := hrest
  obtain ⟨fs, hfs, hbrief', hatt'⟩ := finishes_applyEffects i.env c m es
  refine ⟨fs ++ gs, ?_, ?_, ?_, ?_⟩
  · rw [runFrom_cons, hstep, hgs]
    simp only [hfs, hm, List.append_assoc]
  · rw [List.map_append, hbrief, hbrief']
  · intro f hf
    obtain hf | hf := List.mem_append.mp hf
    · exact hatt' f hf
    · exact hatt f hf
  · rw [runFrom_cons, hstep, hreports, List.append_assoc]

/-- The attempt ends here. -/
theorem ends_of_step {c : Capture} {a : Alone} {i : AloneStep} {m : CooperateSM}
    {es : List Effect} {rs : List (CallbackType × Bool)}
    (hstep : a.step i = ⟨applyEffects i.env c m es, [], a.reports ++ rs⟩)
    (hm : m.finishes = a.machine.finishes) (htasks : m.tasks = [])
    (hes : ∀ e ∈ es, ∀ task, e ≠ .posted task) (is : List AloneStep) :
    Ends c a (i :: is) (es.filterMap Effect.brief) rs := by
  have h := ends_cons hstep hm
    (ends_of_rests c (tasks_applyEffects i.env c hes htasks) rfl is)
  simpa using h

/-! ## The links of the chain -/

section
variable {c : Capture} {a : Alone}

theorem ends_startFinish {isSuccess : Bool} {remoteNetworkId : String} {dev : Int32}
    (h : Runs c (.startFinish isSuccess remoteNetworkId dev) a) (i : AloneStep)
    (is : List AloneStep) : Ends c a (i :: is) [(.start, isSuccess)] [] := by
  obtain ⟨m, hm, hstep⟩ := step_of_runs h i
  exact ends_of_step hstep hm.finishes hm.tasks (by simp [taskEffects]) is

theorem ends_stopFinish {isSuccess : Bool} {remoteNetworkId : String}
    (h : Runs c (.stopFinish isSuccess remoteNetworkId) a) (i : AloneStep)
    (is : List AloneStep) : Ends c a (i :: is) [(.stop, isSuccess)] [] := by
  obtain ⟨m, hm, hstep⟩ := step_of_runs h i
  exact ends_of_step hstep hm.finishes hm.tasks (by simp [taskEffects]) is

/-- A callback that posts a task, and what follows. -/
theorem exists_posted {type : CallbackType} {callback : DInputCallback} {i : AloneStep}
    {task : Task} (h : Waits c type callback a)
    (hes : callbackEffects i.env c a.machine.isStarting a.machine.isStopping i.isSuccess callback =
      [.posted task]) :
    ∃ b, Runs c task b ∧ b.machine.isStarting = a.machine.isStarting ∧
      ∀ is bs rs, Ends c b is bs rs → Ends c a (i :: is) bs ((type, i.isSuccess) :: rs) := by
  obtain ⟨m, hm, hstep⟩ := step_of_waits h i
  have hpost : applyEffects i.env c m [.posted task] = { m with tasks := [(c, task)] } := by
    simp [applyEffect, CooperateSM.post, hm.current, hm.tasks]
  rw [hes] at hstep
  refine ⟨_, ?_, ?_, fun is bs rs hrest => ends_cons hstep hm.finishes hrest⟩
  · rw [hpost]
    exact ⟨rfl, rfl, hm.current⟩
  · rw [hpost]
    exact hm.isStarting

/-- A task that makes a call, and what follows if the call is taken. -/
theorem exists_called (es : List Effect) {task : Task} {type : CallbackType}
    {callback : DInputCallback} {i : AloneStep} (h : Runs c task a)
    (hes : taskEffects i.env c a.machine.preparedNetworkId task =
      es ++ [Effect.saved type callback])
    (hplain : ∀ e ∈ es, e.Keeps ∧ e.call i.env = none ∧ ∀ task, e ≠ .posted task)
    (htaken : i.env.accepts type = true) :
    ∃ b m, Waits c type callback b ∧ Without c a m ∧
      b.machine.isStarting = (applyEffects i.env c m es).isStarting ∧
      b.machine.isStopping = (applyEffects i.env c m es).isStopping ∧
      ∀ is bs rs, Ends c b is bs rs → Ends c a (i :: is) (es.filterMap Effect.brief ++ bs) rs := by
  obtain ⟨m, hm, hstep⟩ := step_of_runs h i
  have hcalls : es.filterMap (Effect.call i.env) = [] :=
    List.filterMap_eq_nil_iff.mpr fun e he => (hplain e he).2.1
  have htasks : (applyEffects i.env c m es).tasks = [] :=
    tasks_applyEffects i.env c (fun e he => (hplain e he).2.2) hm.tasks
  have hcur : (applyEffects i.env c m es).current = c.object :=
    (current_applyEffects i.env c fun e he => (hplain e he).1).trans hm.current
  have hmade : (es ++ [Effect.saved type callback]).filterMap (Effect.call i.env) =
      [(type, true)] := by
    simp [List.filterMap_append, hcalls, Effect.call, htaken]
  have hstep' : a.step i = ⟨applyEffects i.env c m (es ++ [Effect.saved type callback]), [type],
      a.reports ++ []⟩ := by
    rw [hstep, hes]
    simp only [taken, refused, hmade]
    rfl
  have hbrief : es.filterMap Effect.brief =
      (es ++ [Effect.saved type callback]).filterMap Effect.brief := by
    simp [List.filterMap_append, Effect.brief]
  rw [hbrief]
  refine ⟨_, m, ?_, hm, ?_, ?_, fun is bs rs hrest => ends_cons hstep' hm.finishes hrest⟩
  · rw [applyEffects_append]
    exact ⟨htasks, rfl, Function.update_self .., hcur⟩
  · rw [applyEffects_append]
    rfl
  · rw [applyEffects_append]
    rfl

/-- A task that ends the attempt: no call of it is taken. -/
theorem ends_given_up {task : Task} {i : AloneStep} {es : List Effect} (h : Runs c task a)
    (hes : taskEffects i.env c a.machine.preparedNetworkId task = es)
    (hplain : ∀ e ∈ es, ∀ task, e ≠ .posted task) (htaken : taken i.env es = [])
    (is : List AloneStep) : Ends c a (i :: is) (es.filterMap Effect.brief) (refused i.env es) := by
  obtain ⟨m, hm, hstep⟩ := step_of_runs h i
  simp only [hes, htaken] at hstep
  exact ends_of_step hstep hm.finishes hm.tasks hplain is

/-- The stop of the in object's own devices, at the end of a start. -/
theorem ends_onStop_starting {type : CallbackType} {remoteNetworkId : String} {dev : Int32}
    (h : Waits c type (.onStopRemoteInput remoteNetworkId dev) a)
    (hkind : c.object.kind ≠ .stateOut) (hs : a.machine.isStarting = true) (i j : AloneStep)
    (is : List AloneStep) :
    Ends c a (i :: j :: is) [(.start, i.isSuccess)] [(type, i.isSuccess)] := by
  have hes : callbackEffects i.env c a.machine.isStarting a.machine.isStopping i.isSuccess
      (.onStopRemoteInput remoteNetworkId dev) =
      [.posted (.startFinish i.isSuccess remoteNetworkId dev)] := by
    simp [callbackEffects, hkind, hs]
  obtain ⟨b, hb, _, hends⟩ := exists_posted h hes
  exact hends _ _ _ (ends_startFinish hb j is)

theorem ends_onStop_stopping {type : CallbackType} {remoteNetworkId : String} {dev : Int32}
    (h : Waits c type (.onStopRemoteInput remoteNetworkId dev) a)
    (hs : c.object.kind = .stateOut ∨
      a.machine.isStarting = false ∧ a.machine.isStopping = true) (i j : AloneStep)
    (is : List AloneStep) :
    Ends c a (i :: j :: is) [(.stop, i.isSuccess)] [(type, i.isSuccess)] := by
  have hes : callbackEffects i.env c a.machine.isStarting a.machine.isStopping i.isSuccess
      (.onStopRemoteInput remoteNetworkId dev) =
      [.posted (.stopFinish i.isSuccess remoteNetworkId)] := by
    obtain hk | ⟨h1, h2⟩ := hs
    · simp [callbackEffects, hk]
    · by_cases hk : c.object.kind = .stateOut <;> simp [callbackEffects, hk, h1, h2]
  obtain ⟨b, hb, _, hends⟩ := exists_posted h hes
  exact hends _ _ _ (ends_stopFinish hb j is)

/-! ## One end -/

/-- The attempt ends once, with what its calls have reported. -/
def Succeeds (c : Capture) (a : Alone) (is : List AloneStep) (kind : AttemptKind)
    (needed : List CallbackType) : Prop :=
  ∃ isSuccess rs, Ends c a is [(kind, isSuccess)] rs ∧ (∀ r ∈ rs, r.1 ∈ needed) ∧
    (isSuccess = true ↔ ∀ type ∈ needed, (type, true) ∈ rs)

/-- The last call of the attempt. -/
theorem succeeds_of_last {is : List AloneStep} {kind : AttemptKind} {type : CallbackType}
    {isSuccess : Bool} (h : Ends c a is [(kind, isSuccess)] [(type, isSuccess)]) :
    Succeeds c a is kind [type] := by
  refine ⟨isSuccess, _, h, by simp, ?_⟩
  cases isSuccess <;> simp

/-- A call that reported success, and the rest of the attempt. -/
theorem Succeeds.cons {type : CallbackType} {i : AloneStep} {is : List AloneStep} {b : Alone}
    {kind : AttemptKind} {needed : List CallbackType} (hnew : type ∉ needed)
    (h : Succeeds c b is kind needed)
    (hends : ∀ bs rs, Ends c b is bs rs → Ends c a (i :: is) bs ((type, true) :: rs)) :
    Succeeds c a (i :: is) kind (type :: needed) := by
  obtain ⟨isSuccess, rs, hrs, hmem, hiff⟩ := h
  refine ⟨isSuccess, (type, true) :: rs, hends _ _ hrs, ?_, ?_⟩
  · simpa using fun t b hr => Or.inr (hmem (t, b) hr)
  · rw [hiff]
    constructor
    · intro hall t ht
      obtain rfl | ht := List.mem_cons.mp ht
      · exact List.mem_cons_self
      · exact List.mem_cons_of_mem _ (hall t ht)
    · intro hall t ht
      obtain heq | ht' := List.mem_cons.mp (hall t (List.mem_cons_of_mem _ ht))
      · exact (hnew ((Prod.mk.inj heq).1 ▸ ht)).elim
      · exact ht'

/-- An attempt that gives up, with no success reported of a call it needs. -/
theorem succeeds_of_failure {is : List AloneStep} {kind : AttemptKind} {type : CallbackType}
    {needed : List CallbackType} {rs : List (CallbackType × Bool)} (hmem : type ∈ needed)
    (h : Ends c a is [(kind, false)] rs) (hrs : ∀ r ∈ rs, r = (type, false)) :
    Succeeds c a is kind needed := by
  refine ⟨false, rs, h, fun r hr => by rw [hrs r hr]; exact hmem, ?_⟩
  constructor
  · rintro ⟨⟩
  · intro hall
    have heq := hrs _ (hall type hmem)
    simp at heq

theorem succeeds_relayStop {sinkNetworkId srcNetworkId : String} {dhids : List String}
    {dev : Int32} (h : Runs c (.relayStop sinkNetworkId srcNetworkId dhids dev) a)
    (hkind : c.object.kind ≠ .stateOut) (hs : a.machine.isStarting = true) (i j k : AloneStep)
    (is : List AloneStep) :
    Succeeds c a (i :: j :: k :: is) .start [.stopDInputCallbackDHIds] := by
  cases hacc : i.env.accepts .stopDInputCallbackDHIds with
  | true =>
    have hes : taskEffects i.env c a.machine.preparedNetworkId
        (.relayStop sinkNetworkId srcNetworkId dhids dev) =
        [] ++ [Effect.saved .stopDInputCallbackDHIds (.onStopRemoteInput srcNetworkId dev)] := by
      simp [taskEffects, relayStopEffects, callOr, hacc]
    obtain ⟨b, m, hb, hm, hstart, _, hends⟩ := exists_called [] h hes (by simp) hacc
    have hs' : b.machine.isStarting = true := hstart.trans (hm.isStarting.trans hs)
    exact succeeds_of_last (hends _ _ _ (ends_onStop_starting hb hkind hs' j k is))
  | false =>
    have hes : taskEffects i.env c a.machine.preparedNetworkId
        (.relayStop sinkNetworkId srcNetworkId dhids dev) =
        [.saved .stopDInputCallbackDHIds (.onStopRemoteInput srcNetworkId dev),
          .startFinish false sinkNetworkId dev] := by
      simp [taskEffects, relayStopEffects, callOr, hacc]
    have hends := ends_given_up h hes (by simp) (by simp [taken, Effect.call, hacc]) (j :: k :: is)
    exact succeeds_of_failure List.mem_cons_self hends (by simp [refused, Effect.call, hacc])

/-- The calls of a start that come after the devices are prepared. -/
def startCalls (c : Capture) : List CallbackType :=
  .startDInputCallbackSink ::
    if c.object.kind = .stateIn then [.stopDInputCallbackDHIds] else []

theorem succeeds_onStart {srcNetworkId : String} {dev : Int32}
    (h : Waits c .startDInputCallbackSink (.onStartRemoteInput srcNetworkId dev) a)
    (hs : a.machine.isStarting = true) (i j k l : AloneStep) (is : List AloneStep) :
    Succeeds c a (i :: j :: k :: l :: is) .start (startCalls c) := by
  by_cases hrelay : c.object.kind = .stateIn ∧ i.isSuccess = true
  · obtain ⟨hin, hb⟩ := hrelay
    have hes : callbackEffects i.env c a.machine.isStarting a.machine.isStopping i.isSuccess
        (.onStartRemoteInput srcNetworkId dev) =
        [.posted (.relayStop (i.env.getOriginNetworkId dev) srcNetworkId
          (i.env.getCooperateDhids dev) dev)] := by
      simp [callbackEffects, hin, hb]
    obtain ⟨b, hruns, hstart, hends⟩ := exists_posted h hes
    rw [hb] at hends
    have hrest := succeeds_relayStop hruns (by simp [hin]) (hstart.trans hs) j k l is
    simpa [startCalls, hin] using hrest.cons (by simp) fun bs rs => hends _ bs rs
  · have hes : callbackEffects i.env c a.machine.isStarting a.machine.isStopping i.isSuccess
        (.onStartRemoteInput srcNetworkId dev) =
        [.posted (.startFinish i.isSuccess srcNetworkId dev)] := by
      simp [callbackEffects, hrelay]
    obtain ⟨b, hruns, hstart, hends⟩ := exists_posted h hes
    have hend := hends _ _ _ (ends_startFinish hruns j (k :: l :: is))
    by_cases hin : c.object.kind = .stateIn
    · have hb : i.isSuccess = false := by simpa [hin] using hrelay
      rw [hb] at hend
      exact succeeds_of_failure List.mem_cons_self hend (by simp)
    · simpa [startCalls, hin] using succeeds_of_last hend

theorem startCalls_fresh (c : Capture) : CallbackType.prepareStartDInputCallbackSink ∉ startCalls c := by
  unfold startCalls
  split <;> simp

theorem succeeds_startDinput {dev : Int32} (h : Runs c (.startDinput dev) a)
    (hs : a.machine.isStarting = true) (i j k l n : AloneStep) (is : List AloneStep) :
    Succeeds c a (i :: j :: k :: l :: n :: is) .start (startCalls c) := by
  have hfirst : CallbackType.startDInputCallbackSink ∈ startCalls c := List.mem_cons_self
  by_cases hd : (i.env.getCooperateDhids dev).isEmpty = true
  · have hes : taskEffects i.env c a.machine.preparedNetworkId (.startDinput dev) =
        [.startFinish false a.machine.preparedNetworkId.1 dev] := by
      simp [taskEffects, startRemoteInputEffects, hd]
    have hends := ends_given_up h hes (by simp) rfl (j :: k :: l :: n :: is)
    exact succeeds_of_failure hfirst hends (by simp [refused, Effect.call])
  · cases hacc : i.env.accepts .startDInputCallbackSink with
    | true =>
      have hes : taskEffects i.env c a.machine.preparedNetworkId (.startDinput dev) =
          [] ++ [Effect.saved .startDInputCallbackSink
            (.onStartRemoteInput a.machine.preparedNetworkId.1 dev)] := by
        simp [taskEffects, startRemoteInputEffects, hd, callOr, hacc]
      obtain ⟨b, m, hb, hm, hstart, _, hends⟩ := exists_called [] h hes (by simp) hacc
      have hs' : b.machine.isStarting = true := hstart.trans (hm.isStarting.trans hs)
      obtain ⟨isSuccess, rs, hrest, hmem, hiff⟩ := succeeds_onStart hb hs' j k l n is
      exact ⟨isSuccess, rs, hends _ _ _ hrest, hmem, hiff⟩
    | false =>
      have hes : taskEffects i.env c a.machine.preparedNetworkId (.startDinput dev) =
          [.saved .startDInputCallbackSink
            (.onStartRemoteInput a.machine.preparedNetworkId.1 dev),
            .startFinish false a.machine.preparedNetworkId.1 dev] := by
        simp [taskEffects, startRemoteInputEffects, hd, callOr, hacc]
      have hends := ends_given_up h hes (by simp) (by simp [taken, Effect.call, hacc])
        (j :: k :: l :: n :: is)
      exact succeeds_of_failure hfirst hends (by simp [refused, Effect.call, hacc])

theorem succeeds_onPrepare {srcNetworkId : String} {dev : Int32}
    (h : Waits c .prepareStartDInputCallbackSink (.onPrepareDistributedInput srcNetworkId dev) a)
    (hs : a.machine.isStarting = true) (i j k l n o : AloneStep) (is : List AloneStep) :
    Succeeds c a (i :: j :: k :: l :: n :: o :: is) .start
      (.prepareStartDInputCallbackSink :: startCalls c) := by
  cases hb : i.isSuccess with
  | true =>
    have hes : callbackEffects i.env c a.machine.isStarting a.machine.isStopping i.isSuccess
        (.onPrepareDistributedInput srcNetworkId dev) = [.posted (.startDinput dev)] := by
      simp [callbackEffects, hb]
    obtain ⟨b, hruns, hstart, hends⟩ := exists_posted h hes
    rw [hb] at hends
    have hrest := succeeds_startDinput hruns (hstart.trans hs) j k l n o is
    exact hrest.cons (startCalls_fresh c) fun bs rs => hends _ bs rs
  | false =>
    obtain ⟨m, hm, hstep⟩ := step_of_waits h i
    have hes : callbackEffects i.env c a.machine.isStarting a.machine.isStopping i.isSuccess
        (.onPrepareDistributedInput srcNetworkId dev) =
        [.prepared ("", ""), .startFinish false srcNetworkId dev] := by
      simp [callbackEffects, hb]
    rw [hes, hb] at hstep
    have hends := ends_of_step hstep hm.finishes hm.tasks (by simp)
      (j :: k :: l :: n :: o :: is)
    exact succeeds_of_failure List.mem_cons_self hends (by simp)

/-- The first task of a start whose devices are yet to be prepared. -/
theorem succeeds_prepare {remoteNetworkId : String} {dev : Int32}
    (h : Runs c (.processStart remoteNetworkId dev) a) (hs : a.machine.isStarting = true)
    {i : AloneStep}
    (hback : ¬ (c.object.kind = .stateIn ∧ remoteNetworkId = i.env.getOriginNetworkId dev))
    (hp : a.machine.preparedNetworkId ≠ (remoteNetworkId, i.env.getOriginNetworkId dev))
    (j k l n o p : AloneStep) (is : List AloneStep) :
    Succeeds c a (i :: j :: k :: l :: n :: o :: p :: is) .start
      (.prepareStartDInputCallbackSink :: startCalls c) := by
  have heff : taskEffects i.env c a.machine.preparedNetworkId
      (.processStart remoteNetworkId dev) =
      .prepared (remoteNetworkId, i.env.getOriginNetworkId dev) ::
        callOr i.env .prepareStartDInputCallbackSink
          (.onPrepareDistributedInput remoteNetworkId dev)
          [.startFinish false (i.env.getOriginNetworkId dev) dev, .prepared ("", "")] := by
    simp [taskEffects, hback, prepareAndStartEffects, hp]
  cases hacc : i.env.accepts .prepareStartDInputCallbackSink with
  | true =>
    have hes : taskEffects i.env c a.machine.preparedNetworkId
        (.processStart remoteNetworkId dev) =
        [Effect.prepared (remoteNetworkId, i.env.getOriginNetworkId dev)] ++
          [Effect.saved .prepareStartDInputCallbackSink
            (.onPrepareDistributedInput remoteNetworkId dev)] := by
      simp [heff, callOr, hacc]
    obtain ⟨b, m, hb, hm, hstart, _, hends⟩ :=
      exists_called [.prepared (remoteNetworkId, i.env.getOriginNetworkId dev)] h hes
        (by simp [Effect.call]) hacc
    have hs' : b.machine.isStarting = true := hstart.trans (hm.isStarting.trans hs)
    obtain ⟨isSuccess, rs, hrest, hmem, hiff⟩ := succeeds_onPrepare hb hs' j k l n o p is
    exact ⟨isSuccess, rs, hends _ _ _ hrest, hmem, hiff⟩
  | false =>
    have hes : taskEffects i.env c a.machine.preparedNetworkId
        (.processStart remoteNetworkId dev) =
        [.prepared (remoteNetworkId, i.env.getOriginNetworkId dev),
          .saved .prepareStartDInputCallbackSink (.onPrepareDistributedInput remoteNetworkId dev),
          .startFinish false (i.env.getOriginNetworkId dev) dev, .prepared ("", "")] := by
      simp [heff, callOr, hacc]
    have hends := ends_given_up h hes (by simp) (by simp [taken, Effect.call, hacc])
      (j :: k :: l :: n :: o :: p :: is)
    exact succeeds_of_failure List.mem_cons_self hends (by simp [refused, Effect.call, hacc])

/-! ## Two ends -/

/-- The first task of a start whose devices are prepared already: a failure is
reported twice. -/
theorem prepared_ends {remoteNetworkId : String} {dev : Int32}
    (h : Runs c (.processStart remoteNetworkId dev) a) (hs : a.machine.isStarting = true)
    {i : AloneStep}
    (hback : ¬ (c.object.kind = .stateIn ∧ remoteNetworkId = i.env.getOriginNetworkId dev))
    (hp : a.machine.preparedNetworkId = (remoteNetworkId, i.env.getOriginNetworkId dev))
    (j k l n o : AloneStep) (is : List AloneStep) :
    (i.env.getCooperateDhids dev ≠ [] ∧ i.env.accepts .startDInputCallbackSink = true ∧
        Succeeds c a (i :: j :: k :: l :: n :: o :: is) .start (startCalls c)) ∨
      ¬ (i.env.getCooperateDhids dev ≠ [] ∧ i.env.accepts .startDInputCallbackSink = true) ∧
        ∃ rs, Ends c a (i :: j :: k :: l :: n :: o :: is) [(.start, false), (.start, false)] rs := by
  have heff : taskEffects i.env c a.machine.preparedNetworkId
      (.processStart remoteNetworkId dev) =
      startRemoteInputEffects i.env remoteNetworkId dev
        [.startFinish false (i.env.getOriginNetworkId dev) dev] := by
    simp [taskEffects, hback, prepareAndStartEffects, hp]
  by_cases hd : i.env.getCooperateDhids dev = []
  · right
    have hes : taskEffects i.env c a.machine.preparedNetworkId
        (.processStart remoteNetworkId dev) =
        [.startFinish false remoteNetworkId dev,
          .startFinish false (i.env.getOriginNetworkId dev) dev] := by
      simp [heff, startRemoteInputEffects, hd]
    exact ⟨fun h => h.1 hd, [], ends_given_up h hes (by simp) rfl _⟩
  · cases hacc : i.env.accepts .startDInputCallbackSink with
    | true =>
      left
      refine ⟨hd, rfl, ?_⟩
      have hes : taskEffects i.env c a.machine.preparedNetworkId
          (.processStart remoteNetworkId dev) =
          [] ++ [Effect.saved .startDInputCallbackSink
            (.onStartRemoteInput remoteNetworkId dev)] := by
        simp [heff, startRemoteInputEffects, hd, callOr, hacc]
      obtain ⟨b, m, hb, hm, hstart, _, hends⟩ := exists_called [] h hes (by simp) hacc
      have hs' : b.machine.isStarting = true := hstart.trans (hm.isStarting.trans hs)
      obtain ⟨isSuccess, rs, hrest, hmem, hiff⟩ := succeeds_onStart hb hs' j k l n (o :: is)
      exact ⟨isSuccess, rs, hends _ _ _ hrest, hmem, hiff⟩
    | false =>
      right
      have hes : taskEffects i.env c a.machine.preparedNetworkId
          (.processStart remoteNetworkId dev) =
          [.saved .startDInputCallbackSink (.onStartRemoteInput remoteNetworkId dev),
            .startFinish false remoteNetworkId dev,
            .startFinish false (i.env.getOriginNetworkId dev) dev] := by
        simp [heff, startRemoteInputEffects, hd, callOr, hacc]
      exact ⟨by simp, _, ends_given_up h hes (by simp) (by simp [taken, Effect.call, hacc]) _⟩

/-- A come-back that finds devices to stop. -/
theorem succeeds_comeBack {remoteNetworkId : String} {dev : Int32}
    (h : Runs c (.processStart remoteNetworkId dev) a) (hs : a.machine.isStarting = true)
    {i : AloneStep} (hin : c.object.kind = .stateIn)
    (hremote : remoteNetworkId = i.env.getOriginNetworkId dev)
    (hd : i.env.getCooperateDhids dev ≠ []) (j k : AloneStep) (is : List AloneStep) :
    Succeeds c a (i :: j :: k :: is) .start [.stopDInputCallbackDHIds] := by
  have heff : taskEffects i.env c a.machine.preparedNetworkId
      (.processStart remoteNetworkId dev) =
      relayStopEffects i.env remoteNetworkId remoteNetworkId dev := by
    simp [taskEffects, hin, hremote, comeBackEffects, hd]
  cases hacc : i.env.accepts .stopDInputCallbackDHIds with
  | true =>
    have hes : taskEffects i.env c a.machine.preparedNetworkId
        (.processStart remoteNetworkId dev) =
        [] ++ [Effect.saved .stopDInputCallbackDHIds (.onStopRemoteInput remoteNetworkId dev)] := by
      simp [heff, relayStopEffects, callOr, hacc]
    obtain ⟨b, m, hb, hm, hstart, _, hends⟩ := exists_called [] h hes (by simp) hacc
    have hs' : b.machine.isStarting = true := hstart.trans (hm.isStarting.trans hs)
    exact succeeds_of_last (hends _ _ _ (ends_onStop_starting hb (by simp [hin]) hs' j k is))
  | false =>
    have hes : taskEffects i.env c a.machine.preparedNetworkId
        (.processStart remoteNetworkId dev) =
        [.saved .stopDInputCallbackDHIds (.onStopRemoteInput remoteNetworkId dev),
          .startFinish false remoteNetworkId dev] := by
      simp [heff, relayStopEffects, callOr, hacc]
    have hends := ends_given_up h hes (by simp) (by simp [taken, Effect.call, hacc]) (j :: k :: is)
    exact succeeds_of_failure List.mem_cons_self hends (by simp [refused, Effect.call, hacc])

theorem isStopping_startFinish (env : Surroundings) (c : Capture) (m : CooperateSM)
    (remoteNetworkId : String) (dev : Int32) :
    (applyEffects env c m [.startFinish false remoteNetworkId dev]).isStopping =
      m.isStopping := by
  have hcases := m.onStartFinish_cases env c.attempt false remoteNetworkId dev
  simp only [applyEffects_cons, applyEffects_nil, applyEffect]
  generalize m.onStartFinish env c.attempt false remoteNetworkId dev = m' at hcases
  cases hcases <;> rfl

/-- A come-back that finds none goes on after it has given up. If its call is
taken, what the call reports is not heard. -/
theorem comeBack_ends {remoteNetworkId : String} {dev : Int32}
    (h : Runs c (.processStart remoteNetworkId dev) a) (hstop : a.machine.isStopping = false)
    {i : AloneStep} (hin : c.object.kind = .stateIn)
    (hremote : remoteNetworkId = i.env.getOriginNetworkId dev)
    (hd : i.env.getCooperateDhids dev = []) (j : AloneStep) (is : List AloneStep) :
    (i.env.accepts .stopDInputCallbackDHIds = true ∧
        Ends c a (i :: j :: is) [(.start, false)] [(.stopDInputCallbackDHIds, j.isSuccess)]) ∨
      i.env.accepts .stopDInputCallbackDHIds = false ∧
        ∃ rs, Ends c a (i :: j :: is) [(.start, false), (.start, false)] rs := by
  have heff : taskEffects i.env c a.machine.preparedNetworkId
      (.processStart remoteNetworkId dev) =
      .startFinish false remoteNetworkId dev ::
        relayStopEffects i.env remoteNetworkId remoteNetworkId dev := by
    simp [taskEffects, hin, ← hremote, comeBackEffects, hd]
  cases hacc : i.env.accepts .stopDInputCallbackDHIds with
  | true =>
    left
    refine ⟨rfl, ?_⟩
    have hes : taskEffects i.env c a.machine.preparedNetworkId
        (.processStart remoteNetworkId dev) =
        [Effect.startFinish false remoteNetworkId dev] ++
          [Effect.saved .stopDInputCallbackDHIds (.onStopRemoteInput remoteNetworkId dev)] := by
      simp [heff, relayStopEffects, callOr, hacc]
    obtain ⟨b, m, hb, hm, hstart, hstop', hends⟩ :=
      exists_called [.startFinish false remoteNetworkId dev] h hes (by simp [Effect.call]) hacc
    have hb1 : b.machine.isStarting = false := hstart.trans
      (trying_of_finishes i.env c (s := m) (e := .startFinish false remoteNetworkId dev) rfl)
    have hb2 : b.machine.isStopping = false := by
      rw [hstop', isStopping_startFinish, hm.isStopping, hstop]
    obtain ⟨m', hm', hstep⟩ := step_of_waits hb j
    have hes' : callbackEffects j.env c b.machine.isStarting b.machine.isStopping j.isSuccess
        (.onStopRemoteInput remoteNetworkId dev) = [] := by
      simp [callbackEffects, hin, hb1, hb2]
    rw [hes'] at hstep
    exact hends _ _ _ (ends_of_step hstep hm'.finishes hm'.tasks (by simp) is)
  | false =>
    right
    have hes : taskEffects i.env c a.machine.preparedNetworkId
        (.processStart remoteNetworkId dev) =
        [.startFinish false remoteNetworkId dev,
          .saved .stopDInputCallbackDHIds (.onStopRemoteInput remoteNetworkId dev),
          .startFinish false remoteNetworkId dev] := by
      simp [heff, relayStopEffects, callOr, hacc]
    exact ⟨rfl, _, ends_given_up h hes (by simp) (by simp [taken, Effect.call, hacc]) _⟩

theorem succeeds_stop_in {srcNetworkId : String} (h : Runs c (.processStop srcNetworkId) a)
    (hs : a.machine.isStarting = false ∧ a.machine.isStopping = true)
    (hin : c.object.kind = .stateIn) (i j k : AloneStep) (is : List AloneStep) :
    Succeeds c a (i :: j :: k :: is) .stop [.stopDInputCallbackDHIds] := by
  have heff : taskEffects i.env c a.machine.preparedNetworkId (.processStop srcNetworkId) =
      callOr i.env .stopDInputCallbackDHIds
        (.onStopRemoteInput (i.env.getOriginNetworkIdOf c.object.startDhid) (-1))
        [.stopFinish false (i.env.getOriginNetworkIdOf c.object.startDhid)] := by
    simp [taskEffects, processStopEffects, hin]
  cases hacc : i.env.accepts .stopDInputCallbackDHIds with
  | true =>
    have hes : taskEffects i.env c a.machine.preparedNetworkId (.processStop srcNetworkId) =
        [] ++ [Effect.saved .stopDInputCallbackDHIds
          (.onStopRemoteInput (i.env.getOriginNetworkIdOf c.object.startDhid) (-1))] := by
      simp [heff, callOr, hacc]
    obtain ⟨b, m, hb, hm, hstart, hstop, hends⟩ := exists_called [] h hes (by simp) hacc
    have hs' : b.machine.isStarting = false ∧ b.machine.isStopping = true :=
      ⟨hstart.trans (hm.isStarting.trans hs.1), hstop.trans (hm.isStopping.trans hs.2)⟩
    exact succeeds_of_last (hends _ _ _ (ends_onStop_stopping hb (Or.inr hs') j k is))
  | false =>
    have hes : taskEffects i.env c a.machine.preparedNetworkId (.processStop srcNetworkId) =
        [.saved .stopDInputCallbackDHIds
          (.onStopRemoteInput (i.env.getOriginNetworkIdOf c.object.startDhid) (-1)),
          .stopFinish false (i.env.getOriginNetworkIdOf c.object.startDhid)] := by
      simp [heff, callOr, hacc]
    have hends := ends_given_up h hes (by simp) (by simp [taken, Effect.call, hacc]) (j :: k :: is)
    exact succeeds_of_failure List.mem_cons_self hends (by simp [refused, Effect.call, hacc])

theorem succeeds_stop_out {srcNetworkId : String} (h : Runs c (.processStop srcNetworkId) a)
    (hout : c.object.kind = .stateOut) {i : AloneStep}
    (hd : i.env.getCooperateDhidsOf c.object.startDhid ≠ []) (j k : AloneStep)
    (is : List AloneStep) :
    Succeeds c a (i :: j :: k :: is) .stop [.stopDInputCallbackSink] := by
  have heff : taskEffects i.env c a.machine.preparedNetworkId (.processStop srcNetworkId) =
      callOr i.env .stopDInputCallbackSink (.onStopRemoteInput srcNetworkId (-1))
        [.stopFinish false srcNetworkId] := by
    simp [taskEffects, processStopEffects, hout, hd]
  cases hacc : i.env.accepts .stopDInputCallbackSink with
  | true =>
    have hes : taskEffects i.env c a.machine.preparedNetworkId (.processStop srcNetworkId) =
        [] ++ [Effect.saved .stopDInputCallbackSink (.onStopRemoteInput srcNetworkId (-1))] := by
      simp [heff, callOr, hacc]
    obtain ⟨b, m, hb, hm, _, _, hends⟩ := exists_called [] h hes (by simp) hacc
    exact succeeds_of_last (hends _ _ _ (ends_onStop_stopping hb (Or.inl hout) j k is))
  | false =>
    have hes : taskEffects i.env c a.machine.preparedNetworkId (.processStop srcNetworkId) =
        [.saved .stopDInputCallbackSink (.onStopRemoteInput srcNetworkId (-1)),
          .stopFinish false srcNetworkId] := by
      simp [heff, callOr, hacc]
    have hends := ends_given_up h hes (by simp) (by simp [taken, Effect.call, hacc]) (j :: k :: is)
    exact succeeds_of_failure List.mem_cons_self hends (by simp [refused, Effect.call, hacc])

/-- An out object that finds no devices to stop goes on after it has given
up, and ends twice. -/
theorem stop_out_ends {srcNetworkId : String} (h : Runs c (.processStop srcNetworkId) a)
    (hout : c.object.kind = .stateOut) {i : AloneStep}
    (hd : i.env.getCooperateDhidsOf c.object.startDhid = []) (j k : AloneStep)
    (is : List AloneStep) :
    ∃ b rs, Ends c a (i :: j :: k :: is) [(.stop, false), (.stop, b)] rs := by
  have heff : taskEffects i.env c a.machine.preparedNetworkId (.processStop srcNetworkId) =
      .stopFinish false srcNetworkId ::
        callOr i.env .stopDInputCallbackSink (.onStopRemoteInput srcNetworkId (-1))
          [.stopFinish false srcNetworkId] := by
    simp [taskEffects, processStopEffects, hout, hd]
  cases hacc : i.env.accepts .stopDInputCallbackSink with
  | true =>
    have hes : taskEffects i.env c a.machine.preparedNetworkId (.processStop srcNetworkId) =
        [Effect.stopFinish false srcNetworkId] ++
          [Effect.saved .stopDInputCallbackSink (.onStopRemoteInput srcNetworkId (-1))] := by
      simp [heff, callOr, hacc]
    obtain ⟨b, m, hb, hm, _, _, hends⟩ :=
      exists_called [.stopFinish false srcNetworkId] h hes (by simp [Effect.call]) hacc
    exact ⟨_, _, hends _ _ _ (ends_onStop_stopping hb (Or.inl hout) j k is)⟩
  | false =>
    have hes : taskEffects i.env c a.machine.preparedNetworkId (.processStop srcNetworkId) =
        [.stopFinish false srcNetworkId,
          .saved .stopDInputCallbackSink (.onStopRemoteInput srcNetworkId (-1)),
          .stopFinish false srcNetworkId] := by
      simp [heff, callOr, hacc]
    exact ⟨_, _, ends_given_up h hes (by simp) (by simp [taken, Effect.call, hacc]) _⟩

end

/-! ## Exactly one finish -/

section
variable {s m : CooperateSM} {c : Capture} {is : List AloneStep} {kind : AttemptKind}
  {needed : List CallbackType}

theorem finishesOnce_iff_of_ends {bs : List (AttemptKind × Bool)}
    {rs : List (CallbackType × Bool)} (hm : m.finishes = s.finishes)
    (hc : c.attempt = s.nextAttempt) (h : Ends c (.begin m) is bs rs) :
    FinishesOnce s kind needed (runFrom Alone.step (.begin m) is) ↔
      ∃ b, bs = [(kind, b)] ∧ (b = true ↔ ∀ type ∈ needed, (type, true) ∈ rs) := by
  obtain ⟨fs, hfs, hbrief, hatt, hreports⟩ := h
  have hfinishes : (runFrom Alone.step (.begin m) is).machine.finishes = s.finishes ++ fs := by
    rw [hfs]
    exact congrArg (· ++ fs) hm
  have hrs : (runFrom Alone.step (.begin m) is).reports = rs := hreports
  simp only [FinishesOnce, hfinishes, hrs, List.append_cancel_left_eq]
  constructor
  · rintro ⟨f, rfl, rfl, _, hiff⟩
    exact ⟨f.isSuccess, hbrief.symm, hiff⟩
  · rintro ⟨b, rfl, hiff⟩
    obtain ⟨f, rfl, hf⟩ := List.map_eq_singleton_iff.mp hbrief
    obtain ⟨rfl, rfl⟩ := Prod.mk.inj hf
    exact ⟨f, rfl, rfl, (hatt f (by simp)).trans hc, hiff⟩

theorem finishesOnce_of_succeeds (hm : m.finishes = s.finishes) (hc : c.attempt = s.nextAttempt)
    (h : Succeeds c (.begin m) is kind needed) :
    FinishesOnce s kind needed (runFrom Alone.step (.begin m) is) := by
  obtain ⟨b, rs, hends, _, hiff⟩ := h
  exact (finishesOnce_iff_of_ends hm hc hends).mpr ⟨b, rfl, hiff⟩

theorem not_finishesOnce_of_two {x y : AttemptKind × Bool} {rs : List (CallbackType × Bool)}
    (hm : m.finishes = s.finishes) (hc : c.attempt = s.nextAttempt)
    (h : Ends c (.begin m) is [x, y] rs) :
    ¬ FinishesOnce s kind needed (runFrom Alone.step (.begin m) is) := by
  rw [finishesOnce_iff_of_ends hm hc h]
  rintro ⟨b, hb, _⟩
  cases hb

end

/-- An accepted request leaves the first task of its attempt. -/
theorem result_start {env : Surroundings} {s : CooperateSM} {remoteNetworkId : String}
    {dev : Int32} (hquiet : Quiet s)
    (hok : (s.startInputDeviceCooperate env remoteNetworkId dev).1 = true) :
    (s.startInputDeviceCooperate env remoteNetworkId dev).2 = s.started env remoteNetworkId dev ∧
      Runs ⟨s.current, s.nextAttempt⟩ (.processStart remoteNetworkId dev)
        (.begin (s.started env remoteNetworkId dev)) := by
  rw [CooperateSM.startInputDeviceCooperate_eq] at hok ⊢
  split at hok
  · rename_i ha
    rw [if_pos ha]
    exact ⟨rfl, by simp [Alone.begin, CooperateSM.started, hquiet.tasks], rfl, rfl⟩
  · cases hok

theorem result_stop {env : Surroundings} {s : CooperateSM} {networkId : String}
    (hquiet : Quiet s) (hok : (s.stopCurrent env networkId).1 = true) :
    s.current.kind ≠ .stateFree ∧
      (s.stopCurrent env networkId).2 = s.stopped networkId (s.stopSource networkId) ∧
      Runs ⟨s.current, s.nextAttempt⟩ (.processStop (s.stopSource networkId))
        (.begin (s.stopped networkId (s.stopSource networkId))) := by
  obtain h | ⟨ha, h⟩ := s.stopCurrent_eq env networkId hquiet.stopping
  · rw [h] at hok
    cases hok
  · rw [h]
    exact ⟨ha.1, rfl, by simp [Alone.begin, CooperateSM.stopped, hquiet.tasks], rfl, rfl⟩

theorem start_finishesOnce_iff {env : Surroundings} {s : CooperateSM} {remoteNetworkId : String}
    {dev : Int32} (hquiet : Quiet s)
    (hok : (s.startInputDeviceCooperate env remoteNetworkId dev).1 = true)
    (i j k l n o p : AloneStep) (is : List AloneStep) :
    FinishesOnce s .start ((Request.start remoteNetworkId dev).needed i.env s)
        (runFrom Alone.step
          (.begin (s.startInputDeviceCooperate env remoteNetworkId dev).2)
          (i :: j :: k :: l :: n :: o :: p :: is)) ↔
      (Request.start remoteNetworkId dev).Single s i j := by
  obtain ⟨hres, hruns⟩ := result_start hquiet hok
  rw [hres]
  have hm : (s.started env remoteNetworkId dev).finishes = s.finishes := rfl
  have hc : (⟨s.current, s.nextAttempt⟩ : Capture).attempt = s.nextAttempt := rfl
  by_cases hback : Request.ComesBack i.env s remoteNetworkId dev
  · have hneeded : (Request.start remoteNetworkId dev).needed i.env s =
        [.stopDInputCallbackDHIds] := by simp only [Request.needed, if_pos hback]
    have hsingle : (Request.start remoteNetworkId dev).Single s i j ↔
        i.env.getCooperateDhids dev ≠ [] ∨
          i.env.accepts .stopDInputCallbackDHIds = true ∧ j.isSuccess = false := by
      simp only [Request.Single, if_pos hback]
    obtain ⟨hin, hremote⟩ := hback
    rw [hneeded, hsingle]
    by_cases hd : i.env.getCooperateDhids dev = []
    · obtain ⟨hacc, hends⟩ | ⟨hacc, rs, hends⟩ :=
        comeBack_ends hruns hquiet.stopping hin hremote hd j (k :: l :: n :: o :: p :: is)
      · rw [finishesOnce_iff_of_ends hm hc hends]
        cases j.isSuccess <;> simp [hd, hacc]
      · exact iff_of_false (not_finishesOnce_of_two hm hc hends) (by simp [hd, hacc])
    · exact iff_of_true (finishesOnce_of_succeeds hm hc
        (succeeds_comeBack hruns rfl hin hremote hd j k (l :: n :: o :: p :: is))) (Or.inl hd)
  · have hneeded : (Request.start remoteNetworkId dev).needed i.env s =
        (if s.preparedNetworkId ≠ (remoteNetworkId, i.env.getOriginNetworkId dev) then
          [.prepareStartDInputCallbackSink]
        else []) ++ startCalls ⟨s.current, s.nextAttempt⟩ := by
      simp only [Request.needed, if_neg hback, startCalls]
    have hsingle : (Request.start remoteNetworkId dev).Single s i j ↔
        s.preparedNetworkId ≠ (remoteNetworkId, i.env.getOriginNetworkId dev) ∨
          i.env.getCooperateDhids dev ≠ [] ∧ i.env.accepts .startDInputCallbackSink = true := by
      simp only [Request.Single, if_neg hback]
    rw [hneeded, hsingle]
    by_cases hp : s.preparedNetworkId = (remoteNetworkId, i.env.getOriginNetworkId dev)
    · rw [if_neg (not_not.mpr hp), List.nil_append]
      obtain ⟨hd, hacc, hsucc⟩ | ⟨hnot, rs, hends⟩ :=
        prepared_ends hruns rfl hback hp j k l n o (p :: is)
      · exact iff_of_true (finishesOnce_of_succeeds hm hc hsucc) (Or.inr ⟨hd, hacc⟩)
      · refine iff_of_false (not_finishesOnce_of_two hm hc hends) ?_
        rintro (h | h)
        · exact h hp
        · exact hnot h
    · rw [if_pos hp]
      exact iff_of_true (finishesOnce_of_succeeds hm hc
        (succeeds_prepare hruns rfl hback hp j k l n o p is)) (Or.inl hp)

theorem stop_finishesOnce_iff {env : Surroundings} {s : CooperateSM} {networkId : String}
    (hquiet : Quiet s) (hok : (s.stopCurrent env networkId).1 = true)
    (i j k : AloneStep) (is : List AloneStep) :
    FinishesOnce s .stop ((Request.stop networkId).needed i.env s)
        (runFrom Alone.step (.begin (s.stopCurrent env networkId).2) (i :: j :: k :: is)) ↔
      (Request.stop networkId).Single s i j := by
  obtain ⟨hkind, hres, hruns⟩ := result_stop hquiet hok
  rw [hres]
  have hm : (s.stopped networkId (s.stopSource networkId)).finishes = s.finishes := rfl
  have hc : (⟨s.current, s.nextAttempt⟩ : Capture).attempt = s.nextAttempt := rfl
  simp only [Request.needed, Request.Single]
  cases hk : s.current.kind with
  | stateFree => exact (hkind hk).elim
  | stateIn =>
    refine iff_of_true ?_ (by simp)
    exact finishesOnce_of_succeeds hm hc
      (succeeds_stop_in hruns ⟨hquiet.starting, rfl⟩ hk i j k is)
  | stateOut =>
    by_cases hd : i.env.getCooperateDhidsOf s.current.startDhid = []
    · obtain ⟨b, rs, hends⟩ := stop_out_ends hruns hk hd j k is
      exact iff_of_false (not_finishesOnce_of_two hm hc hends) (by simp [hd])
    · exact iff_of_true (finishesOnce_of_succeeds hm hc (succeeds_stop_out hruns hk hd j k is))
        (fun _ => hd)

/-- An attempt that an idle machine accepts, and that is left alone until it
has come to its end: whatever its calls report, its finish function is
called exactly once, with what they have reported, precisely if the state
object does not go on after it has given up. -/
theorem finishesOnce_iff {env : Surroundings} {s : CooperateSM} {request : Request}
    (hquiet : Quiet s) (hok : (request.result env s).1 = true) (i j : AloneStep)
    {is : List AloneStep} (hlong : 5 ≤ is.length) :
    FinishesOnce s request.kind (request.needed i.env s)
        (runFrom Alone.step (.begin (request.result env s).2) (i :: j :: is)) ↔
      request.Single s i j := by
  obtain ⟨k, l, n, o, p, rest, rfl⟩ : ∃ k l n o p rest, is = k :: l :: n :: o :: p :: rest := by
    match is, hlong with
    | k :: l :: n :: o :: p :: rest, _ => exact ⟨k, l, n, o, p, rest, rfl⟩
  cases request with
  | start remoteNetworkId dev => exact start_finishesOnce_iff hquiet hok i j k l n o p rest
  | stop networkId => exact stop_finishesOnce_iff hquiet hok i j k (l :: n :: o :: p :: rest)

/-- A start in which every call succeeds. -/
theorem finishesOnce_iff_calm :
    FinishesOnce (.init false) (Request.start "peer" 1).kind
        ((Request.start "peer" 1).needed calm (.init false))
        (runFrom Alone.step (.begin ((Request.start "peer" 1).result calm (.init false)).2)
          (⟨calm, true⟩ :: ⟨calm, true⟩ :: List.replicate 5 ⟨calm, true⟩)) ↔
      (Request.start "peer" 1).Single (.init false) ⟨calm, true⟩ ⟨calm, true⟩ :=
  finishesOnce_iff ⟨rfl, rfl, rfl⟩ (by decide) _ _ (by decide)

/-- The distributed input refuses to start. -/
def refusing : Surroundings := { calm with accepts := fun type => type ≠ .startDInputCallbackSink }

/-- The machine after a start that prepared its devices and was then refused. -/
def refusedOnce : CooperateSM :=
  runFrom CooperateSM.step (.init false)
    [⟨calm, .startInputDeviceCooperate "peer" 1⟩, ⟨calm, .runTask 0⟩,
      ⟨calm, .processDInputCallback .prepareStartDInputCallbackSink true⟩, ⟨refusing, .runTask 0⟩]

/-- The second start with the same device is refused, and its failure is
reported twice. -/
theorem refused_twice :
    Quiet refusedOnce ∧ ((Request.start "peer" 1).result calm refusedOnce).1 = true ∧
      ¬ FinishesOnce refusedOnce .start ((Request.start "peer" 1).needed refusing refusedOnce)
        (runFrom Alone.step (.begin ((Request.start "peer" 1).result calm refusedOnce).2)
          (List.replicate 7 ⟨refusing, false⟩)) := by
  refine ⟨⟨by decide, by decide, by decide⟩, by decide, ?_⟩
  rintro ⟨f, hf, _⟩
  have hlength := congrArg List.length hf
  rw [List.length_append, List.length_singleton] at hlength
  exact absurd hlength (by decide +kernel)

end FtMmi.InputDeviceCooperate
