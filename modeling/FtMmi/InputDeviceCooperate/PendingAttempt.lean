/-
FtMmi.InputDeviceCooperate.PendingAttempt — one attempt with one other
device, from the request to its end.

While the flag of the attempt is set, every task and every callback left
`Leads` on: what it names as the other device is that device, so a success
is told to it. A continuation then either keeps what the other side can
see and leaves something pending, or ends the attempt with one call of the
finish function (`Goes`, `Attempting.goes`).
-/
import FtMmi.InputDeviceCooperate.Transitions

namespace FtMmi.InputDeviceCooperate

/-! ## What is pending -/

/-- What a task of an attempt with `peer` names. `origin` finds the device that an input
device has come from, `object` is the state object. -/
def Task.Leads (peer : String) (origin : String → String) (prepared : String × String)
    (object : StateObject) : AttemptKind → Task → Prop
  | .start, .processStart remoteNetworkId _ => remoteNetworkId = peer
  | .start, .startDinput _ => prepared.1 = peer
  | .start, .startFinish isSuccess remoteNetworkId _ => isSuccess = true → remoteNetworkId = peer
  | .start, .relayStop _ srcNetworkId _ _ => srcNetworkId = peer
  | .stop, .processStop srcNetworkId =>
      match object.kind with
      | .stateFree => False
      | .stateIn => origin object.startDhid = peer
      | .stateOut => srcNetworkId = peer
  | .stop, .stopFinish _ remoteNetworkId => remoteNetworkId = peer
  | _, _ => False

/-- What a callback of the attempt names. -/
def DInputCallback.Leads (peer : String) (prepared : String × String) :
    AttemptKind → DInputCallback → Prop
  | .start, .onPrepareDistributedInput _ _ => prepared.1 = peer
  | .start, .onStartRemoteInput srcNetworkId _ => srcNetworkId = peer
  | _, .onStopRemoteInput remoteNetworkId _ => remoteNetworkId = peer
  | .stop, _ => False

/-- Every task and every callback of the machine is one of the attempt's. -/
structure Led (peer : String) (origin : String → String) (kind : AttemptKind) (s : CooperateSM) :
    Prop where
  tasks : ∀ item ∈ s.tasks, item.1.object = s.current ∧
    item.2.Leads peer origin s.preparedNetworkId s.current kind
  callbacks : ∀ type saved, s.callbackMap type = some saved → ∃ c callback,
    saved = some (c, callback) ∧ c.object = s.current ∧ callback.Leads peer s.preparedNetworkId kind

/-- Something is left to run. -/
def CooperateSM.Pending (s : CooperateSM) : Prop := s.tasks ≠ [] ∨ ∃ type, s.callbackMap type ≠ none

/-- The object is one that can be in such an attempt. -/
def CooperateSM.CanBeIn (s : CooperateSM) : AttemptKind → Prop
  | .start => s.current.kind ≠ .stateOut
  | .stop => s.current.kind = .stateOut ∨ s.current.kind = .stateIn ∧ s.isStarting = false

structure Attempting (peer : String) (origin : String → String) (kind : AttemptKind)
    (s : CooperateSM) : Prop where
  trying : s.core.Trying kind = true
  able : s.CanBeIn kind
  led : Led peer origin kind s
  pending : s.Pending

/-- A success is told to the other device, and so is the end of a stop. -/
def Effect.Tells (peer : String) : Effect → Prop
  | .startFinish isSuccess remoteNetworkId _ => isSuccess = true → remoteNetworkId = peer
  | .stopFinish _ remoteNetworkId => remoteNetworkId = peer
  | _ => True

/-- A continuation goes on with the attempt, or it ends it. -/
inductive Goes (peer : String) (origin : String → String) (kind : AttemptKind)
    (env : Surroundings) (c : Capture) (s s' : CooperateSM) : Prop
  | on (hcore : s'.core = s.core) (hcurrent : s'.current = s.current)
      (h : Attempting peer origin kind s')
  | ends {t : CooperateSM} {e : Effect} (ht : t.core = s.core) (he : e.finishes = some kind)
      (htells : e.Tells peer) (hcore : s'.core = (applyEffect env c t e).core)

variable {peer : String} {origin : String → String} {kind : AttemptKind} {s : CooperateSM}
  {env : Surroundings} {c : Capture}

/-! ## The effects of a continuation -/

/-- An effect that goes on with the attempt. -/
def Effect.GoesOn (peer : String) (origin : String → String) (prepared : String × String)
    (object : StateObject) (kind : AttemptKind) : Effect → Prop
  | .saved _ callback => callback.Leads peer prepared kind
  | .posted task => task.Leads peer origin prepared object kind
  | _ => False

/-- What the effects of a continuation come to. -/
inductive Shape (peer : String) (origin : String → String) (prepared : String × String)
    (object : StateObject) (kind : AttemptKind) : List Effect → Prop
  | ends {es : List Effect} (hkind : ∀ e ∈ es, e.OfKind kind) (htells : ∀ e ∈ es, e.Tells peer)
      (h : ∃ e ∈ es, e.finishes = some kind) : Shape peer origin prepared object kind es
  | on {e : Effect} (h : e.GoesOn peer origin prepared object kind) :
      Shape peer origin prepared object kind [e]
  | prepares {e : Effect} (networkIds : String × String) (hpeer : networkIds.1 = peer)
      (h : e.GoesOn peer origin networkIds object kind) :
      Shape peer origin prepared object kind [.prepared networkIds, e]

theorem shape_callOr {prepared : String × String} {object : StateObject} {type : CallbackType}
    {callback : DInputCallback} {otherwise : List Effect}
    (h : callback.Leads peer prepared kind) (hkind : ∀ e ∈ otherwise, e.OfKind kind)
    (htells : ∀ e ∈ otherwise, e.Tells peer) (hends : ∃ e ∈ otherwise, e.finishes = some kind) :
    Shape peer origin prepared object kind (callOr env type callback otherwise) := by
  unfold callOr
  split
  · exact .on h
  · obtain ⟨e, he, hfin⟩ := hends
    refine .ends ?_ ?_ ⟨e, List.mem_cons_of_mem _ he, hfin⟩
    · exact List.forall_mem_cons.mpr ⟨.inl rfl, hkind⟩
    · exact List.forall_mem_cons.mpr ⟨trivial, htells⟩

theorem shape_startRemoteInput {prepared : String × String} {object : StateObject} {src : String}
    (dev : Int32) {more : List Effect} (hsrc : src = peer) (hkind : ∀ e ∈ more, e.OfKind .start)
    (htells : ∀ e ∈ more, e.Tells peer) :
    Shape peer origin prepared object .start (startRemoteInputEffects env src dev more) := by
  have hfails : (∀ e ∈ Effect.startFinish false src dev :: more, e.OfKind .start) ∧
      (∀ e ∈ Effect.startFinish false src dev :: more, e.Tells peer) ∧
      ∃ e ∈ Effect.startFinish false src dev :: more, e.finishes = some .start := by
    refine ⟨List.forall_mem_cons.mpr ⟨.inr rfl, hkind⟩,
      List.forall_mem_cons.mpr ⟨fun h => ?_, htells⟩, _, List.mem_cons_self, rfl⟩
    cases h
  obtain ⟨hk, ht, hends⟩ := hfails
  unfold startRemoteInputEffects
  split
  · exact .ends hk ht hends
  · exact shape_callOr hsrc hk ht hends

theorem shape_relayStop {prepared : String × String} {object : StateObject}
    {remoteNetworkId : String} (sinkNetworkId : String) (dev : Int32)
    (hremote : remoteNetworkId = peer) :
    Shape peer origin prepared object .start
      (relayStopEffects env sinkNetworkId remoteNetworkId dev) := by
  refine shape_callOr hremote ?_ ?_ ⟨_, List.mem_cons_self, rfl⟩
  · simp [Effect.OfKind, Effect.finishes]
  · simp [Effect.Tells]

/-- A task of the attempt, by its kind. -/
theorem shape_task {task : Task} {prepared : String × String}
    (horigin : ∀ dhid, env.getOriginNetworkIdOf dhid = origin dhid)
    (h : task.Leads peer origin prepared c.object kind) :
    Shape peer origin prepared c.object kind (taskEffects env c prepared task) := by
  cases task with
  | processStart remoteNetworkId dev =>
    cases kind with
    | stop => exact absurd h id
    | start =>
      have hremote : remoteNetworkId = peer := h
      simp only [taskEffects]
      split
      · unfold comeBackEffects
        split
        · refine .ends ?_ ?_ ⟨_, List.mem_append_left _ List.mem_cons_self, rfl⟩
          · simp [relayStopEffects, Effect.OfKind, Effect.finishes]
          · simp [relayStopEffects, Effect.Tells]
        · exact shape_relayStop remoteNetworkId dev hremote
      · unfold prepareAndStartEffects
        dsimp only
        split
        · unfold callOr
          split
          · exact .prepares _ hremote hremote
          · refine .ends ?_ ?_ ⟨.startFinish false (env.getOriginNetworkId dev) dev, ?_, rfl⟩
            · simp [Effect.OfKind, Effect.finishes]
            · simp [Effect.Tells]
            · simp
        · rename_i hprepared
          have hprepared : prepared = (remoteNetworkId, env.getOriginNetworkId dev) :=
            not_not.mp hprepared
          refine shape_startRemoteInput dev ?_ ?_ ?_
          · rw [hprepared]
            exact hremote
          · simp [Effect.OfKind, Effect.finishes]
          · simp [Effect.Tells]
  | startDinput dev =>
    cases kind with
    | stop => exact absurd h id
    | start => exact shape_startRemoteInput dev h (by simp) (by simp)
  | startFinish isSuccess remoteNetworkId dev =>
    cases kind with
    | stop => exact absurd h id
    | start =>
      have htells : (Effect.startFinish isSuccess remoteNetworkId dev).Tells peer := h
      refine .ends ?_ (by simpa [taskEffects] using htells) ⟨_, List.mem_cons_self, rfl⟩
      simp [taskEffects, Effect.OfKind, Effect.finishes]
  | relayStop sinkNetworkId srcNetworkId dhids dev =>
    cases kind with
    | stop => exact absurd h id
    | start => exact shape_relayStop sinkNetworkId dev h
  | processStop srcNetworkId =>
    cases kind with
    | start => exact absurd h id
    | stop =>
      have hfails : ∀ remoteNetworkId, remoteNetworkId = peer →
          (∀ e ∈ [Effect.stopFinish false remoteNetworkId], e.OfKind .stop) ∧
          (∀ e ∈ [Effect.stopFinish false remoteNetworkId], e.Tells peer) ∧
          ∃ e ∈ [Effect.stopFinish false remoteNetworkId], e.finishes = some .stop := by
        intro remoteNetworkId hremote
        exact ⟨by simp [Effect.OfKind, Effect.finishes], by simp [Effect.Tells, hremote],
          _, List.mem_cons_self, rfl⟩
      simp only [taskEffects, processStopEffects]
      simp only [Task.Leads] at h
      cases hobject : c.object.kind with
      | stateFree => simp [hobject] at h
      | stateIn =>
        simp only [hobject] at h
        have hsink : env.getOriginNetworkIdOf c.object.startDhid = peer := by
          rw [horigin]
          exact h
        obtain ⟨hk, ht, hends⟩ := hfails _ hsink
        exact shape_callOr hsink hk ht hends
      | stateOut =>
        simp only [hobject] at h
        obtain ⟨hk, ht, hends⟩ := hfails _ h
        dsimp only
        split
        · refine .ends ?_ ?_ ⟨_, List.mem_append_left _ List.mem_cons_self, rfl⟩
          · simp [Effect.OfKind, Effect.finishes]
          · simp [Effect.Tells, h]
        · exact shape_callOr h hk ht hends
  | stopFinish isSuccess remoteNetworkId =>
    cases kind with
    | start => exact absurd h id
    | stop =>
      have htells : (Effect.stopFinish isSuccess remoteNetworkId).Tells peer := h
      refine .ends ?_ (by simpa [taskEffects] using htells) ⟨_, List.mem_cons_self, rfl⟩
      simp [taskEffects, Effect.OfKind, Effect.finishes]

/-- A callback of the attempt, while its flag is set. -/
theorem shape_callback (env : Surroundings) (origin : String → String) {callback : DInputCallback}
    {prepared : String × String} (htrying : s.core.Trying kind = true) (hable : s.CanBeIn kind)
    (hobject : c.object = s.current)
    (isSuccess : Bool) (h : callback.Leads peer prepared kind) :
    Shape peer origin prepared s.current kind
      (callbackEffects env c s.isStarting s.isStopping isSuccess callback) := by
  cases callback with
  | onPrepareDistributedInput srcNetworkId dev =>
    cases kind with
    | stop => exact absurd h id
    | start =>
      simp only [callbackEffects]
      split
      · exact .on h
      · refine .ends ?_ ?_ ⟨.startFinish false srcNetworkId dev, by simp, rfl⟩
        · simp [Effect.OfKind, Effect.finishes]
        · simp [Effect.Tells]
  | onStartRemoteInput srcNetworkId dev =>
    cases kind with
    | stop => exact absurd h id
    | start =>
      simp only [callbackEffects]
      split
      · exact .on h
      · exact .on fun _ => h
  | onStopRemoteInput remoteNetworkId dev =>
    simp only [callbackEffects, hobject]
    cases kind with
    | start =>
      have hstarting : s.isStarting = true := htrying
      have hremote : remoteNetworkId = peer := h
      rw [if_neg hable, if_pos hstarting]
      exact .on fun _ => hremote
    | stop =>
      have hstopping : s.isStopping = true := htrying
      have hremote : remoteNetworkId = peer := h
      rcases hable with hout | ⟨hin, hstarting⟩
      · rw [if_pos hout]
        exact .on hremote
      · rw [if_neg (by rw [hin]; decide), if_neg (by simp [hstarting]), if_pos hstopping]
        exact .on hremote

/-! ## A continuation of the attempt -/

theorem Led.prepare (h : Led peer origin kind s) (networkIds : String × String)
    (hpeer : networkIds.1 = peer) :
    Led peer origin kind { s with preparedNetworkId := networkIds } where
  tasks item hitem := by
    obtain ⟨hobject, hleads⟩ := h.tasks item hitem
    refine ⟨hobject, ?_⟩
    cases kind <;> cases htask : item.2 <;> rw [htask] at hleads <;>
      first | exact hleads | exact hpeer
  callbacks type saved hsaved := by
    obtain ⟨c, callback, hcallback, hobject, hleads⟩ := h.callbacks type saved hsaved
    refine ⟨c, callback, hcallback, hobject, ?_⟩
    cases kind <;> cases callback <;> first | exact hleads | exact hpeer

/-- One more task or callback of the attempt. -/
theorem Led.goesOn (env : Surroundings) (h : Led peer origin kind s)
    (hobject : c.object = s.current) {e : Effect}
    (he : e.GoesOn peer origin s.preparedNetworkId s.current kind) :
    Led peer origin kind (applyEffect env c s e) ∧ (applyEffect env c s e).Pending ∧
      (applyEffect env c s e).core = s.core ∧ (applyEffect env c s e).current = s.current := by
  cases e with
  | saved type callback =>
    refine ⟨⟨h.tasks, fun type' saved hsaved => ?_⟩, .inr ⟨type, ?_⟩, rfl, rfl⟩
    · by_cases hsame : type' = type
      · have hnew : (Function.update s.callbackMap type (some (some (c, callback)))) type
            = some saved := by
          rw [hsame] at hsaved
          exact hsaved
        rw [Function.update_self] at hnew
        cases hnew
        exact ⟨c, callback, rfl, hobject, he⟩
      · have hold : (Function.update s.callbackMap type (some (some (c, callback)))) type'
            = some saved := hsaved
        rw [Function.update_of_ne hsame] at hold
        exact h.callbacks type' saved hold
    · simp [applyEffect, CooperateSM.callDInput]
  | posted task =>
    have hposted : applyEffect env c s (.posted task)
        = { s with tasks := s.tasks ++ [(c, task)] } := by
      simp [applyEffect, CooperateSM.post, hobject]
    rw [hposted]
    refine ⟨⟨fun item hitem => ?_, h.callbacks⟩, .inl (by simp), rfl, rfl⟩
    rcases List.mem_append.mp hitem with hold | hnew
    · exact h.tasks item hold
    · rw [List.mem_singleton.mp hnew]
      exact ⟨hobject, he⟩
  | prepared _ => exact absurd he id
  | startFinish _ _ _ => exact absurd he id
  | stopFinish _ _ => exact absurd he id

theorem not_trying_of_finish (env : Surroundings) (c : Capture) (s : CooperateSM) {es : List Effect}
    (hk : ∀ e ∈ es, e.OfKind kind) (h : ∃ e ∈ es, e.finishes = some kind) :
    (applyEffects env c s es).core.Trying kind = false := by
  induction es generalizing s with
  | nil => obtain ⟨_, he, _⟩ := h; cases he
  | cons e es ih =>
    obtain ⟨_, hes⟩ := List.forall_mem_cons.mp hk
    rw [applyEffects_cons]
    by_cases hrest : ∃ f ∈ es, f.finishes = some kind
    · exact ih _ hes hrest
    · have hfin : e.finishes = some kind := by
        obtain ⟨f, hf, hfin⟩ := h
        rcases List.mem_cons.mp hf with rfl | hmem
        · exact hfin
        · exact absurd ⟨f, hmem, hfin⟩ hrest
      have hnot := trying_of_finishes env c (s := s) hfin
      rw [core_applyEffects_of_not_trying env c hes hnot]
      exact hnot

/-- What effects of such a shape do to the attempt. -/
theorem goes_of_shape (env : Surroundings) {es : List Effect} (h : Led peer origin kind s)
    (htrying : s.core.Trying kind = true) (hable : s.CanBeIn kind) (hobject : c.object = s.current)
    (hes : Shape peer origin s.preparedNetworkId s.current kind es) :
    Goes peer origin kind env c s (applyEffects env c s es) := by
  have hon : ∀ (t : CooperateSM) (e : Effect), t.core = s.core → t.current = s.current →
      Led peer origin kind t → e.GoesOn peer origin t.preparedNetworkId t.current kind →
      Goes peer origin kind env c s (applyEffect env c t e) := by
    intro t e hcore hcurrent hled he
    obtain ⟨hled', hpending, hcore', hcurrent'⟩ :=
      hled.goesOn env (hobject.trans hcurrent.symm) he
    have hsame := hcore'.trans hcore
    refine .on hsame (hcurrent'.trans hcurrent) ⟨by rw [hsame]; exact htrying, ?_, hled', hpending⟩
    have hstarting : (applyEffect env c t e).isStarting = s.isStarting :=
      congrArg Core.isStarting hsame
    unfold CooperateSM.CanBeIn at hable ⊢
    rw [hcurrent', hcurrent, hstarting]
    exact hable
  cases hes with
  | on he => exact hon s _ rfl rfl h he
  | prepares networkIds hpeer he => exact hon _ _ rfl rfl (h.prepare networkIds hpeer) he
  | ends hk htells hfin =>
    rcases core_applyEffects env c (s := s) hk with hsame | ⟨_, t, e, he, ht, hfinish, hcore⟩
    · have hnot := not_trying_of_finish env c s hk hfin
      rw [hsame, htrying] at hnot
      cases hnot
    · exact .ends ht hfinish (htells e he) hcore

/-- A task of the attempt is run. -/
theorem Attempting.goes_task (h : Attempting peer origin kind s)
    (horigin : ∀ dhid, env.getOriginNetworkIdOf dhid = origin dhid) {generation : Nat} {task : Task}
    (hfound : s.tasks.find? (fun t => t.1.object.generation = generation) = some (c, task)) :
    Goes peer origin kind env c s (applyEffects env c
      { s with tasks := s.tasks.eraseP fun t => t.1.object.generation = generation }
      (taskEffects env c s.preparedNetworkId task)) := by
  obtain ⟨hobject, hleads⟩ := h.led.tasks _ (List.mem_of_find?_eq_some hfound)
  have hled : Led peer origin kind
      { s with tasks := s.tasks.eraseP fun t => t.1.object.generation = generation } :=
    ⟨fun item hitem => h.led.tasks item (List.mem_of_mem_eraseP hitem), h.led.callbacks⟩
  have hshape := shape_task (c := c) horigin (by rw [hobject]; exact hleads)
  rw [hobject] at hshape
  have hgoes := goes_of_shape env hled h.trying h.able hobject hshape
  cases hgoes with
  | on hcore hcurrent hattempt => exact .on hcore hcurrent hattempt
  | ends ht he htells hcore => exact .ends ht he htells hcore

/-- A callback of the attempt is called. -/
theorem Attempting.goes_callback (h : Attempting peer origin kind s) {type : CallbackType}
    {callback : DInputCallback} (isSuccess : Bool)
    (hsaved : s.callbackMap type = some (some (c, callback))) :
    Goes peer origin kind env c s (applyEffects env c
      { s with callbackMap := Function.update s.callbackMap type none }
      (callbackEffects env c s.isStarting s.isStopping isSuccess callback)) := by
  obtain ⟨c', callback', hsame, hobject, hleads⟩ := h.led.callbacks type _ hsaved
  cases hsame
  have hled : Led peer origin kind
      { s with callbackMap := Function.update s.callbackMap type none } := by
    refine ⟨h.led.tasks, fun type' saved hsaved' => ?_⟩
    have hupdated : Function.update s.callbackMap type none type' = some saved := hsaved'
    by_cases hsame : type' = type
    · rw [hsame, Function.update_self] at hupdated
      cases hupdated
    · rw [Function.update_of_ne hsame] at hupdated
      exact h.led.callbacks type' saved hupdated
  have hshape := shape_callback env origin h.trying h.able hobject isSuccess hleads
  have hgoes := goes_of_shape env hled h.trying h.able hobject hshape
  cases hgoes with
  | on hcore hcurrent hattempt => exact .on hcore hcurrent hattempt
  | ends ht he htells hcore => exact .ends ht he htells hcore

end FtMmi.InputDeviceCooperate
