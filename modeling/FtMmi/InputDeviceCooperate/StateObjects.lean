/-
FtMmi.InputDeviceCooperate.StateObjects — the tasks and callbacks of a state
object that has been replaced.

A continuation has captured the object it was made by, and nothing tells it
that the machine has freed the object. `Replaces` lists the steps that put
another object in its place.

* `runsCurrent_of_unreferenced` — as long as an object is replaced only when
  no callback of it is saved, and no task of it is left that would still run,
  every continuation that runs is of the machine's current object.
-/
import FtMmi.InputDeviceCooperate.Transitions

namespace FtMmi.InputDeviceCooperate

open FtMmi.Lib

/-! ## The property and the condition -/

/-- If the step runs a continuation, it is one of the current object. -/
def RunsCurrent (s : CooperateSM) (i : CooperateStep) : Prop :=
  match i.input with
  | .runTask generation =>
      ∀ c task, s.tasks.find? (fun t => t.1.object.generation = generation) = some (c, task) →
        c.object.generation = s.current.generation
  | .processDInputCallback type _ =>
      ∀ c callback, s.callbackMap type = some (some (c, callback)) →
        c.object.generation = s.current.generation
  | _ => True

/-- The message puts another object in the place of the one there is. -/
def Message.Replaces (s : CooperateSM) : Message → Prop
  | .startRemoteCooperateResult isSuccess _ _ _ =>
      s.isStarting = true ∧ isSuccess = true ∧ s.cooperateState ≠ .stateIn
  | .stopRemoteCooperateResult isSuccess => s.isStopping = true ∧ isSuccess = true
  | _ => False

/-- So does the task. -/
def Task.Replaces (s : CooperateSM) : Task → Prop
  | .startFinish isSuccess _ _ =>
      s.isStarting = true ∧ isSuccess = true ∧ s.cooperateState ≠ .stateOut
  | .stopFinish isSuccess _ =>
      s.isStopping = true ∧ isSuccess = true ∧ s.cooperateState ≠ .stateFree
  | _ => False

instance (s : CooperateSM) (message : Message) : Decidable (message.Replaces s) := by
  cases message <;> unfold Message.Replaces <;> infer_instance

instance (s : CooperateSM) (task : Task) : Decidable (task.Replaces s) := by
  cases task <;> unfold Task.Replaces <;> infer_instance

/-- The step puts another object in the place of the one there is. -/
def Replaces (s : CooperateSM) (i : CooperateStep) : Prop :=
  match i.input with
  | .onBytesReceived sessionId message => ¬ sessionId < 0 ∧ message.Replaces s
  | .runTask generation =>
      ∃ t ∈ s.tasks.find? fun t => t.1.object.generation = generation, t.2.Replaces s
  | _ => s.LeftBy i

def CallbackType.all : List CallbackType :=
  [.prepareStartDInputCallbackSink, .unPrepareStopDInputCallbackSink, .startDInputCallbackSink,
    .stopDInputCallbackSink, .stopDInputCallbackDHIds]

theorem CallbackType.mem_all (type : CallbackType) : type ∈ CallbackType.all := by
  cases type <;> decide

/-- The saved callbacks that do something. -/
def CooperateSM.saved (s : CooperateSM) : List (Capture × DInputCallback) :=
  CallbackType.all.filterMap fun type => (s.callbackMap type).join

theorem mem_saved {s : CooperateSM} {item : Capture × DInputCallback} :
    item ∈ s.saved ↔ ∃ type, s.callbackMap type = some (some item) := by
  simp only [CooperateSM.saved, List.mem_filterMap, Option.join_eq_some_iff]
  constructor
  · rintro ⟨type, _, h⟩
    exact ⟨type, h⟩
  · rintro ⟨type, h⟩
    exact ⟨type, type.mem_all, h⟩

/-- The tasks a step leaves waiting. -/
def CooperateSM.waiting (s : CooperateSM) (i : CooperateStep) : List (Capture × Task) :=
  match i.input with
  | .runTask generation => s.tasks.eraseP fun t => t.1.object.generation = generation
  | _ => s.tasks

/-- If the step replaces the object, no callback is saved, and no task is left
that would still run. -/
def ReplacesUnreferenced (s : CooperateSM) (i : CooperateStep) : Prop :=
  Replaces s i → s.saved = [] ∧ (s.keepsTasks = true → s.waiting i = [])

/-! ## What holds along a run -/

/-- Every task and every callback has captured the current object, whose
generation has been given out. -/
structure OwnedByCurrent (s : CooperateSM) : Prop where
  tasks : ∀ t ∈ s.tasks, t.1.object = s.current
  saved : ∀ type item, s.callbackMap type = some (some item) → item.1.object = s.current

/-- The effect leaves the object in its place. -/
def Effect.Keeps : Effect → Prop
  | .startFinish isSuccess _ _ => isSuccess = false
  | .stopFinish isSuccess _ => isSuccess = false
  | _ => True

@[simp] theorem keeps_saved (type : CallbackType) (callback : DInputCallback) :
    (Effect.saved type callback).Keeps := trivial

@[simp] theorem keeps_posted (task : Task) : (Effect.posted task).Keeps := trivial

@[simp] theorem keeps_prepared (networkIds : String × String) :
    (Effect.prepared networkIds).Keeps := trivial

@[simp] theorem keeps_startFinish {isSuccess : Bool} {remoteNetworkId : String} {dev : Int32} :
    (Effect.startFinish isSuccess remoteNetworkId dev).Keeps ↔ isSuccess = false := Iff.rfl

@[simp] theorem keeps_stopFinish {isSuccess : Bool} {remoteNetworkId : String} :
    (Effect.stopFinish isSuccess remoteNetworkId).Keeps ↔ isSuccess = false := Iff.rfl

/-- Only the task that reports a success can replace the object. -/
theorem taskEffects_keeps (env : Surroundings) (c : Capture) (preparedNetworkId : String × String)
    (task : Task) :
    (∀ e ∈ taskEffects env c preparedNetworkId task, e.Keeps) ∨
      ∃ e, taskEffects env c preparedNetworkId task = [e] ∧
        ((∃ r dev, task = .startFinish true r dev ∧ e = .startFinish true r dev) ∨
          ∃ r, task = .stopFinish true r ∧ e = .stopFinish true r) := by
  cases task with
  | processStart remoteNetworkId dev =>
    left
    simp only [taskEffects, comeBackEffects, relayStopEffects, prepareAndStartEffects,
      startRemoteInputEffects]
    split_ifs <;> simp
  | processStop srcNetworkId =>
    left
    simp only [taskEffects, processStopEffects]
    split
    · simp
    · simp
    · split_ifs <;> simp
  | startDinput dev =>
    left
    simp only [taskEffects, startRemoteInputEffects]
    split_ifs <;> simp
  | startFinish isSuccess remoteNetworkId dev =>
    cases isSuccess with
    | false => left; simp [taskEffects]
    | true => exact Or.inr ⟨_, rfl, Or.inl ⟨_, _, rfl, rfl⟩⟩
  | relayStop sinkNetworkId srcNetworkId dhids dev =>
    left
    simp [taskEffects, relayStopEffects]
  | stopFinish isSuccess remoteNetworkId =>
    cases isSuccess with
    | false => left; simp [taskEffects]
    | true => exact Or.inr ⟨_, rfl, Or.inr ⟨_, rfl, rfl⟩⟩

theorem callbackEffects_keeps (env : Surroundings) (c : Capture)
    (isStarting isStopping isSuccess : Bool) (callback : DInputCallback) :
    ∀ e ∈ callbackEffects env c isStarting isStopping isSuccess callback, e.Keeps := by
  cases callback <;> simp only [callbackEffects] <;> split_ifs <;> simp

/-- An effect of the current object that leaves it in its place. -/
theorem owned_applyEffect (env : Surroundings) {c : Capture} {s : CooperateSM} {e : Effect}
    (he : e.Keeps) (h : OwnedByCurrent s ∧ c.object = s.current) :
    OwnedByCurrent (applyEffect env c s e) ∧ c.object = (applyEffect env c s e).current := by
  obtain ⟨⟨htasks, hsaved⟩, hc⟩ := h
  cases e with
  | prepared networkIds => exact ⟨⟨htasks, hsaved⟩, hc⟩
  | saved type callback =>
    refine ⟨⟨htasks, fun other item hitem => ?_⟩, hc⟩
    by_cases ho : other = type
    · subst ho
      simp only [applyEffect, CooperateSM.callDInput, Function.update_self, Option.some.injEq]
        at hitem
      subst hitem
      exact hc
    · simp only [applyEffect, CooperateSM.callDInput, Function.update_of_ne ho] at hitem
      exact hsaved other item hitem
  | posted task =>
    have hpost : s.post c task = { s with tasks := s.tasks ++ [(c, task)] } := by
      simp [CooperateSM.post, hc]
    simp only [applyEffect, hpost]
    refine ⟨⟨fun t ht => ?_, hsaved⟩, hc⟩
    obtain ht | ht := List.mem_append.mp ht
    · exact htasks t ht
    · rw [List.mem_singleton.mp ht]
      exact hc
  | startFinish isSuccess remoteNetworkId dev =>
    obtain rfl : isSuccess = false := he
    have hcases := s.onStartFinish_cases env c.attempt false remoteNetworkId dev
    simp only [applyEffect]
    generalize s.onStartFinish env c.attempt false remoteNetworkId dev = s' at hcases
    cases hcases with
    | dropped => exact ⟨⟨htasks, hsaved⟩, hc⟩
    | failed => exact ⟨⟨htasks, hsaved⟩, hc⟩
  | stopFinish isSuccess remoteNetworkId =>
    obtain rfl : isSuccess = false := he
    have hcases := s.onStopFinish_cases env c.attempt false remoteNetworkId
    simp only [applyEffect]
    generalize s.onStopFinish env c.attempt false remoteNetworkId = s' at hcases
    cases hcases with
    | dropped => exact ⟨⟨htasks, hsaved⟩, hc⟩
    | failed => exact ⟨⟨htasks, hsaved⟩, hc⟩

theorem owned_applyEffects (env : Surroundings) {c : Capture} {s : CooperateSM}
    {es : List Effect} (hes : ∀ e ∈ es, e.Keeps) (h : OwnedByCurrent s)
    (hc : c.object = s.current) : OwnedByCurrent (applyEffects env c s es) :=
  (applyEffects_keeps env c (P := fun t => OwnedByCurrent t ∧ c.object = t.current)
    (fun _ ht e he => owned_applyEffect env (hes e he) ht) ⟨h, hc⟩).1

/-- When an object is replaced, the tasks of it that would not run are gone. -/
theorem tasks_of_replaced {s : CooperateSM} (h : OwnedByCurrent s)
    (hwait : s.keepsTasks = true → s.tasks = []) :
    (if s.keepsTasks then s.tasks
      else s.tasks.filter fun t => t.1.object.generation ≠ s.current.generation) = [] := by
  split
  · rename_i hk
    exact hwait hk
  · refine List.filter_eq_nil_iff.mpr fun x hx => ?_
    simp [h.tasks x hx]

/-- A machine that nothing is left of. -/
theorem owned_of_nil {s t : CooperateSM} (hsaved : s.saved = [])
    (hmap : t.callbackMap = s.callbackMap) (htasks : t.tasks = []) : OwnedByCurrent t := by
  constructor
  · simp [htasks]
  · intro type item hitem
    have hmem : item ∈ s.saved := mem_saved.mpr ⟨type, hmap ▸ hitem⟩
    rw [hsaved] at hmem
    cases hmem

/-- A machine whose saved callbacks are among those there were. -/
theorem owned_of_saved {s t : CooperateSM} (h : OwnedByCurrent s) (hcur : t.current = s.current)
    (htasks : ∀ x ∈ t.tasks, x ∈ s.tasks) (hmap : ∀ type item,
      t.callbackMap type = some (some item) → s.callbackMap type = some (some item)) :
    OwnedByCurrent t :=
  ⟨fun x hx => (h.tasks x (htasks x hx)).trans hcur.symm,
    fun type item hitem => (h.saved type item (hmap type item hitem)).trans hcur.symm⟩

theorem saved_of_update_none {s : CooperateSM} {type other : CallbackType}
    {item : Capture × DInputCallback}
    (h : Function.update s.callbackMap type none other = some (some item)) :
    s.callbackMap other = some (some item) := by
  by_cases ho : other = type
  · subst ho
    simp at h
  · rwa [Function.update_of_ne ho] at h

theorem saved_of_quieted {s t : CooperateSM} (ht : CooperateSM.Quieted s t) {type : CallbackType}
    {item : Capture × DInputCallback} (h : t.callbackMap type = some (some item)) :
    s.callbackMap type = some (some item) := by
  obtain hsame | hnone := ht.callbackMap type
  · rw [← hsame]
    exact h
  · rw [hnone] at h
    simp at h

/-- The object of a new task is the current one. -/
theorem owned_append {s t : CooperateSM} (h : OwnedByCurrent s) (hcur : t.current = s.current)
    {x : Capture × Task} (hx : x.1.object = s.current) (htasks : t.tasks = s.tasks ++ [x])
    (hmap : t.callbackMap = s.callbackMap) : OwnedByCurrent t := by
  refine ⟨fun y hy => ?_, fun type item hitem => ?_⟩
  · rw [htasks] at hy
    obtain hy | hy := List.mem_append.mp hy
    · exact (h.tasks y hy).trans hcur.symm
    · rw [List.mem_singleton.mp hy, hx, hcur]
  · rw [hmap] at hitem
    exact (h.saved type item hitem).trans hcur.symm

theorem owned_handleSessionData {s : CooperateSM} {sessionId : Int32} {message : Message}
    (h : OwnedByCurrent s)
    (hfree : message.Replaces s → s.saved = [] ∧ (s.keepsTasks = true → s.tasks = [])) :
    OwnedByCurrent (s.handleSessionData sessionId message) := by
  rw [s.handleSessionData_eq sessionId 0]
  cases message with
  | startRemoteCooperate localDeviceId => exact ⟨h.tasks, h.saved⟩
  | startRemoteCooperateResult isSuccess startDhid x y =>
    have hcases := s.startRemoteCooperateResult_cases isSuccess startDhid x y
    generalize s.handleSessionData 0 _ = s' at hcases
    cases hcases with
    | ignored => exact h
    | failed => exact ⟨h.tasks, h.saved⟩
    | into hs hstate =>
      obtain ⟨hsaved, hwait⟩ := hfree ⟨hs, rfl, by simp [hstate]⟩
      have hgone := tasks_of_replaced h hwait
      exact owned_of_nil hsaved rfl hgone
    | back hs hstate =>
      obtain ⟨hsaved, hwait⟩ := hfree ⟨hs, rfl, by simp [hstate]⟩
      have hgone := tasks_of_replaced h hwait
      exact owned_of_nil hsaved rfl hgone
  | stopRemoteCooperate => exact ⟨h.tasks, h.saved⟩
  | stopRemoteCooperateResult isSuccess =>
    have hcases := s.stopRemoteCooperateResult_cases isSuccess
    generalize s.handleSessionData 0 _ = s' at hcases
    cases hcases with
    | ignored => exact h
    | failed => exact ⟨h.tasks, h.saved⟩
    | ended hs =>
      obtain ⟨hsaved, hwait⟩ := hfree ⟨hs, rfl⟩
      have hgone := tasks_of_replaced h hwait
      exact owned_of_nil hsaved rfl hgone
  | startCooperateOtherResult srcNetworkId => exact ⟨h.tasks, h.saved⟩

/-- A report of success that replaces the object, when nothing else refers to
it. -/
theorem owned_finish (env : Surroundings) {c : Capture} {s : CooperateSM} {task : Task} {e : Effect}
    (he : (∃ r dev, task = .startFinish true r dev ∧ e = .startFinish true r dev) ∨
      ∃ r, task = .stopFinish true r ∧ e = .stopFinish true r) (h : OwnedByCurrent s)
    (hfree : task.Replaces s → s.saved = [] ∧ (s.keepsTasks = true → s.tasks = [])) :
    OwnedByCurrent (applyEffect env c s e) := by
  obtain ⟨r, dev, rfl, rfl⟩ | ⟨r, rfl, rfl⟩ := he
  · have hcases := s.onStartFinish_cases env c.attempt true r dev
    simp only [applyEffect]
    generalize s.onStartFinish env c.attempt true r dev = s' at hcases
    cases hcases with
    | dropped => exact ⟨h.tasks, h.saved⟩
    | free hs hstate =>
      obtain ⟨hsaved, hwait⟩ := hfree ⟨hs, rfl, by simp [hstate]⟩
      have hgone := tasks_of_replaced h hwait
      exact owned_of_nil hsaved rfl hgone
    | into hs hstate =>
      obtain ⟨hsaved, hwait⟩ := hfree ⟨hs, rfl, by simp [hstate]⟩
      have hgone := tasks_of_replaced h hwait
      exact owned_of_nil hsaved rfl hgone
    | out => exact ⟨h.tasks, h.saved⟩
  · have hcases := s.onStopFinish_cases env c.attempt true r
    simp only [applyEffect]
    generalize s.onStopFinish env c.attempt true r = s' at hcases
    cases hcases with
    | dropped => exact ⟨h.tasks, h.saved⟩
    | free => exact ⟨h.tasks, h.saved⟩
    | ended hs hstate =>
      obtain ⟨hsaved, hwait⟩ := hfree ⟨hs, rfl, hstate⟩
      have hgone := tasks_of_replaced h hwait
      exact owned_of_nil hsaved rfl hgone

theorem replaces_of_leftBy {s : CooperateSM} {i : CooperateStep} (h : s.LeftBy i) :
    Replaces s i := by
  obtain ⟨env, input⟩ := i
  cases input <;> first | exact h | exact h.elim

theorem waiting_of_leftBy {s : CooperateSM} {i : CooperateStep} (h : s.LeftBy i) :
    s.waiting i = s.tasks := by
  obtain ⟨env, input⟩ := i
  cases input <;> first | rfl | exact h.elim

/-- What a step keeps that replaces its object only when nothing refers to it. -/
theorem owned_step (s : CooperateSM) (i : CooperateStep) (h : OwnedByCurrent s)
    (hi : ReplacesUnreferenced s i) : OwnedByCurrent (s.step i) := by
  have hmoves := step_moves s i
  generalize s.step i = s' at hmoves
  cases hmoves with
  | nothing => exact h
  | started => exact owned_append h rfl (x := (⟨s.current, s.nextAttempt⟩, _)) rfl rfl rfl
  | stopped => exact owned_append h rfl (x := (⟨s.current, s.nextAttempt⟩, _)) rfl rfl rfl
  | received hsession => exact owned_handleSessionData h fun hr => hi ⟨hsession, hr⟩
  | @left _ t hleft ht =>
    obtain ⟨hsaved, hwait⟩ := hi (replaces_of_leftBy hleft)
    rw [waiting_of_leftBy hleft] at hwait
    have hnone : t.saved = [] := by
      refine List.eq_nil_iff_forall_not_mem.mpr fun item hitem => ?_
      obtain ⟨type, hm⟩ := mem_saved.mp hitem
      have hmem : item ∈ s.saved := mem_saved.mpr ⟨type, saved_of_quieted ht hm⟩
      rw [hsaved] at hmem
      cases hmem
    refine owned_of_nil hnone rfl ?_
    have htasks := tasks_of_replaced h hwait
    rw [ht.eq]
    exact htasks
  | @closed env networkId isLocal =>
    have ht := s.quieted_closePrepared env networkId
    exact owned_of_saved h (by rw [ht.eq]) (by rw [ht.eq]; exact fun _ hx => hx)
      fun _ _ hm => saved_of_quieted ht hm
  | @keyboard env hk =>
    have ht : CooperateSM.Quieted s (s.callDInput env .startDInputCallbackSink none).2 :=
      CooperateSM.quieted_callDInput (.refl s) _
    exact owned_of_saved h rfl (fun _ hx => hx) fun _ _ hm => saved_of_quieted ht hm
  | emptied =>
    exact owned_of_saved h rfl (fun _ hx => hx) fun _ _ hm => saved_of_update_none hm
  | @task env generation c task hfind =>
    have hc : c.object = s.current := h.tasks _ (List.mem_of_find?_eq_some hfind)
    have hrest : OwnedByCurrent
        { s with tasks := s.tasks.eraseP fun t => t.1.object.generation = generation } :=
      owned_of_saved h rfl (fun _ hx => List.mem_of_mem_eraseP hx) fun _ _ hm => hm
    obtain hkeeps | ⟨e, hes, he⟩ := taskEffects_keeps env c s.preparedNetworkId task
    · exact owned_applyEffects env hkeeps hrest hc
    · rw [hes]
      refine owned_finish env he hrest fun hr => hi ⟨(c, task), hfind, ?_⟩
      obtain ⟨_, _, rfl, _⟩ | ⟨_, rfl, _⟩ := he <;> exact hr
  | @callback env type isSuccess c callback hsave =>
    have hc : c.object = s.current := h.saved _ _ hsave
    have hrest : OwnedByCurrent
        { s with callbackMap := Function.update s.callbackMap type none } :=
      owned_of_saved h rfl (fun _ hx => hx) fun _ _ hm => saved_of_update_none hm
    exact owned_applyEffects env (callbackEffects_keeps _ _ _ _ _ _) hrest hc

/-! ## Only the current object runs -/

theorem runsCurrent_of_owned {s : CooperateSM} (h : OwnedByCurrent s) (i : CooperateStep) :
    RunsCurrent s i := by
  obtain ⟨env, input⟩ := i
  cases input with
  | runTask generation =>
    intro c task hfind
    exact congrArg StateObject.generation (h.tasks _ (List.mem_of_find?_eq_some hfind))
  | processDInputCallback type isSuccess =>
    intro c callback hsaved
    exact congrArg StateObject.generation (h.saved _ _ hsaved)
  | _ => trivial

/-- In every run that replaces a state object only when nothing is left that
refers to it, a continuation runs only for the current object. -/
theorem runsCurrent_of_unreferenced (keepsTasks : Bool) (is : List CooperateStep)
    (h : AllSteps CooperateSM.step ReplacesUnreferenced (.init keepsTasks) is) :
    AllSteps CooperateSM.step RunsCurrent (.init keepsTasks) is := by
  refine allSteps_of_allSteps owned_step (fun s i hs _ => runsCurrent_of_owned hs i) is _ ?_ h
  refine ⟨fun t ht => ?_, fun type item hitem => ?_⟩
  · cases ht
  · cases hitem

instance (s : CooperateSM) (i : CooperateStep) : Decidable (Replaces s i) := by
  have leftBy : Decidable (s.LeftBy i) := inferInstance
  obtain ⟨env, input⟩ := i
  cases input with
  | onBytesReceived sessionId message =>
    exact inferInstanceAs (Decidable (¬ sessionId < 0 ∧ message.Replaces s))
  | runTask generation =>
    show Decidable (∃ t ∈ s.tasks.find? fun t => t.1.object.generation = generation, t.2.Replaces s)
    cases s.tasks.find? fun t => t.1.object.generation = generation with
    | none => exact isFalse (by simp)
    | some t => exact decidable_of_iff (t.2.Replaces s) (by simp)
  | _ => exact leftBy

instance (s : CooperateSM) (i : CooperateStep) : Decidable (ReplacesUnreferenced s i) := by
  unfold ReplacesUnreferenced
  infer_instance

/-- A start in which everything goes well. -/
def calmStart : List CooperateStep :=
  [⟨calm, .startInputDeviceCooperate "peer" 1⟩, ⟨calm, .runTask 0⟩,
    ⟨calm, .processDInputCallback .prepareStartDInputCallbackSink true⟩, ⟨calm, .runTask 0⟩,
    ⟨calm, .processDInputCallback .startDInputCallbackSink true⟩, ⟨calm, .runTask 0⟩]

theorem runsCurrent_of_unreferenced_calmStart :
    AllSteps CooperateSM.step RunsCurrent (.init true) calmStart :=
  runsCurrent_of_unreferenced true calmStart (by decide +kernel)

/-- A start waits for the devices to be prepared when its peer goes offline.
The callback then runs for the object that has been freed. -/
theorem freed_object_runs :
    ¬ AllSteps CooperateSM.step RunsCurrent (.init false)
      [⟨calm, .startInputDeviceCooperate "peer" 1⟩, ⟨calm, .runTask 0⟩,
        ⟨calm, .onDeviceOffline "peer"⟩,
        ⟨calm, .processDInputCallback .prepareStartDInputCallbackSink true⟩] := by
  rintro ⟨_, _, _, hruns, _⟩
  exact absurd (hruns ⟨⟨0, .stateFree, ""⟩, 0⟩ (.onPrepareDistributedInput "peer" 1) (by decide))
    (by decide)

end FtMmi.InputDeviceCooperate
