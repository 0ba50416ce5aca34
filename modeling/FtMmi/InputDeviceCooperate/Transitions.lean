/-
FtMmi.InputDeviceCooperate.Transitions — what a step of the machine can do.

`Moves` lists it, with the new state written out, and `step_moves` says that
the list is complete. Invariants go by its cases and unfold no handler.
-/
import FtMmi.InputDeviceCooperate.Continuations

namespace FtMmi.InputDeviceCooperate

namespace CooperateSM

/-! ## Local requests -/

/-- The machine after a start it has accepted. -/
def started (env : Surroundings) (s : CooperateSM) (remoteNetworkId : String)
    (startInputDeviceId : Int32) : CooperateSM :=
  { s with
    isStarting := true
    sent := s.sent ++ [(remoteNetworkId, .startRemoteCooperate env.localDeviceId)]
    tasks := s.tasks ++
      [(⟨s.current, s.nextAttempt⟩, .processStart remoteNetworkId startInputDeviceId)]
    nextAttempt := s.nextAttempt + 1
    mouseLocation := env.mouseLocation.getD s.mouseLocation
    srcNetworkId := if s.cooperateState = .stateFree then remoteNetworkId else s.srcNetworkId }

/-- The machine after a stop it has accepted. -/
def stopped (s : CooperateSM) (networkId srcNetworkId : String) : CooperateSM :=
  { s with
    isStopping := true
    sent := s.sent ++ [(networkId, .stopRemoteCooperate)]
    tasks := s.tasks ++ [(⟨s.current, s.nextAttempt⟩, .processStop srcNetworkId)]
    nextAttempt := s.nextAttempt + 1 }

theorem with_isStarting {s : CooperateSM} {b : Bool} (h : s.isStarting = b) :
    { s with isStarting := b } = s := by
  subst h
  rfl

theorem with_isStopping {s : CooperateSM} {b : Bool} (h : s.isStopping = b) :
    { s with isStopping := b } = s := by
  subst h
  rfl

/-- When a start is accepted. -/
def AcceptsStart (env : Surroundings) (s : CooperateSM) (remoteNetworkId : String) : Prop :=
  s.isStarting = false ∧ s.current.kind ≠ .stateOut ∧ remoteNetworkId ≠ "" ∧
    env.localDeviceId ≠ "" ∧ remoteNetworkId ≠ env.localDeviceId ∧
    env.sends remoteNetworkId = true

instance (env : Surroundings) (s : CooperateSM) (remoteNetworkId : String) :
    Decidable (s.AcceptsStart env remoteNetworkId) := by
  unfold AcceptsStart
  infer_instance

theorem startInputDeviceCooperate_eq (env : Surroundings) (s : CooperateSM)
    (remoteNetworkId : String) (dev : Int32) :
    s.startInputDeviceCooperate env remoteNetworkId dev =
      if s.AcceptsStart env remoteNetworkId then (true, s.started env remoteNetworkId dev)
      else (false, s) := by
  unfold startInputDeviceCooperate
  cases hs : s.isStarting with
  | true => simp [AcceptsStart, hs]
  | false =>
    have hback := with_isStarting hs
    simp only [Bool.false_eq_true, if_false, objectStart]
    split
    · rename_i hk
      simp [AcceptsStart, hk, hback]
    · rename_i hk
      by_cases hr : remoteNetworkId = ""
      · simp [AcceptsStart, hr, hback]
      · by_cases hl : env.localDeviceId = "" ∨ remoteNetworkId = env.localDeviceId
        · have hno : ¬ s.AcceptsStart env remoteNetworkId := by
            rintro ⟨_, _, _, h1, h2, _⟩
            obtain h | h := hl
            · exact h1 h
            · exact h2 h
          simp [hr, hl, hno, hback]
        · cases hsend : env.sends remoteNetworkId with
          | false => simp [AcceptsStart, hr, hl, hsend, send, hback]
          | true =>
            have hyes : s.AcceptsStart env remoteNetworkId :=
              ⟨hs, hk, hr, fun h => hl (Or.inl h), fun h => hl (Or.inr h), hsend⟩
            simp [hr, hl, hyes, hsend, send, post, started]
            split <;> simp_all

/-- When a stop of the current object is accepted. -/
def AcceptsStop (env : Surroundings) (s : CooperateSM) (networkId : String) : Prop :=
  s.current.kind ≠ .stateFree ∧ env.sends networkId = true

/-- The device an out object names as the source when it stops. -/
def stopSource (s : CooperateSM) (networkId : String) : String :=
  match s.current.kind with
  | .stateOut => if networkId.isEmpty then s.preparedNetworkId.1 else networkId
  | _ => ""

theorem stopCurrent_eq (env : Surroundings) (s : CooperateSM) (networkId : String)
    (hs : s.isStopping = false) :
    s.stopCurrent env networkId = (false, s) ∨
      s.AcceptsStop env networkId ∧
        s.stopCurrent env networkId = (true, s.stopped networkId (s.stopSource networkId)) := by
  have hback := with_isStopping hs
  unfold stopCurrent objectStop
  cases hk : s.current.kind with
  | stateFree => simp [hback]
  | stateIn =>
    cases hsend : env.sends networkId with
    | false => simp [send, hsend, hback]
    | true => simp [send, hsend, AcceptsStop, hk, post, stopped, stopSource]
  | stateOut =>
    cases hsend : env.sends networkId with
    | false => simp [send, hsend, hback]
    | true => simp [send, hsend, AcceptsStop, hk, post, stopped, stopSource]

/-- The device a stop is told to. -/
def stopNetworkId (env : Surroundings) (s : CooperateSM) : String :=
  match s.cooperateState with
  | .stateFree => ""
  | .stateIn => env.getOriginNetworkIdOf s.startDhid
  | .stateOut => s.srcNetworkId

theorem stopInputDeviceCooperate_eq (env : Surroundings) (s : CooperateSM) :
    s.stopInputDeviceCooperate env =
      if s.isStopping then (false, s) else s.stopCurrent env (s.stopNetworkId env) := by
  unfold stopInputDeviceCooperate stopNetworkId
  cases s.cooperateState <;> rfl

theorem checkPointerEvent_eq (env : Surroundings) (s : CooperateSM) (deviceId : Int32)
    (isRemote : Bool) :
    s.checkPointerEvent env deviceId isRemote = s ∨
      s.isStopping = false ∧ s.isStarting = false ∧ s.checkPointerEvent env deviceId isRemote =
        (s.stopCurrent env (s.stopNetworkId env)).2 := by
  unfold checkPointerEvent stopNetworkId
  cases hstop : s.isStopping <;> cases hstart : s.isStarting <;>
    cases s.cooperateState <;> simp
  · cases isRemote <;> simp
  · by_cases hd : s.startDhid = env.getDhid deviceId <;> simp [hd]

/-! ## What closes a cooperation -/

/-- The prepared devices are given up, with callbacks that do nothing. -/
def closePrepared (env : Surroundings) (s : CooperateSM) (networkId : String) : CooperateSM :=
  let s :=
    if s.preparedNetworkId.1 ≠ "" ∧ s.preparedNetworkId.2 ≠ "" ∧
        (networkId = s.preparedNetworkId.1 ∨ networkId = s.preparedNetworkId.2) then
      let s :=
        if s.cooperateState ≠ .stateFree then (s.callDInput env .stopDInputCallbackSink none).2
        else s
      (s.callDInput env .unPrepareStopDInputCallbackSink none).2
    else s
  { s with preparedNetworkId := ("", "") }

/-- The machine with other prepared devices, and with callbacks that do
nothing in some places. -/
structure Quieted (s t : CooperateSM) : Prop where
  eq : t = { s with
    preparedNetworkId := t.preparedNetworkId, callbackMap := t.callbackMap, calls := t.calls }
  callbackMap : ∀ type, t.callbackMap type = s.callbackMap type ∨ t.callbackMap type = some none

theorem Quieted.refl (s : CooperateSM) : Quieted s s := ⟨rfl, fun _ => Or.inl rfl⟩

theorem quieted_callDInput {env : Surroundings} {s t : CooperateSM} (h : Quieted s t)
    (type : CallbackType) : Quieted s (t.callDInput env type none).2 := by
  refine ⟨by rw [h.eq]; rfl, fun other => ?_⟩
  by_cases ho : other = type
  · subst ho
    exact Or.inr (Function.update_self ..)
  · simpa [callDInput, Function.update_of_ne ho] using h.callbackMap other

theorem quieted_closePrepared (env : Surroundings) (s : CooperateSM) (networkId : String) :
    Quieted s (s.closePrepared env networkId) := by
  have hclear : ∀ t, Quieted s t → Quieted s { t with preparedNetworkId := ("", "") } :=
    fun t h => ⟨by rw [h.eq], h.callbackMap⟩
  unfold closePrepared
  refine hclear _ ?_
  split
  · refine quieted_callDInput ?_ _
    split
    · exact quieted_callDInput (Quieted.refl s) _
    · exact Quieted.refl s
  · exact Quieted.refl s

theorem onCloseCooperation_eq (env : Surroundings) (s : CooperateSM) (networkId : String)
    (isLocal : Bool) :
    s.onCloseCooperation env networkId isLocal =
      if s.cooperateState ≠ .stateFree ∧ (isLocal = true ∨ networkId = s.srcNetworkId ∨
          env.getOriginNetworkIdOf s.startDhid = networkId) then
        (s.closePrepared env networkId).reset
      else s.closePrepared env networkId := by
  have hq : s.closePrepared env networkId = _ := (quieted_closePrepared env s networkId).eq
  have hstate : (s.closePrepared env networkId).cooperateState = s.cooperateState := by rw [hq]
  have hsrc : (s.closePrepared env networkId).srcNetworkId = s.srcNetworkId := by rw [hq]
  have hdhid : (s.closePrepared env networkId).startDhid = s.startDhid := by rw [hq]
  have h : s.onCloseCooperation env networkId isLocal =
      if (s.closePrepared env networkId).cooperateState = .stateFree then
        s.closePrepared env networkId
      else if isLocal = true ∨ networkId = (s.closePrepared env networkId).srcNetworkId then
        (s.closePrepared env networkId).reset
      else if env.getOriginNetworkIdOf (s.closePrepared env networkId).startDhid = networkId then
        (s.closePrepared env networkId).reset
      else s.closePrepared env networkId := rfl
  rw [h, hstate, hsrc, hdhid]
  by_cases hf : s.cooperateState = .stateFree
  · simp [hf]
  · by_cases hl : isLocal = true ∨ networkId = s.srcNetworkId
    · rw [if_neg hf, if_pos hl, if_pos ⟨hf, hl.imp_right Or.inl⟩]
    · by_cases ho : env.getOriginNetworkIdOf s.startDhid = networkId
      · rw [if_neg hf, if_neg hl, if_pos ho, if_pos ⟨hf, Or.inr (Or.inr ho)⟩]
      · rw [if_neg hf, if_neg hl, if_neg ho, if_neg]
        rintro ⟨_, h | h | h⟩
        · exact hl (Or.inl h)
        · exact hl (Or.inr h)
        · exact ho h

/-! ## Results of the other side -/

/-- The session makes no difference. -/
theorem handleSessionData_eq (s : CooperateSM) (sessionId other : Int32) (message : Message) :
    s.handleSessionData sessionId message = s.handleSessionData other message := by
  cases message <;> rfl

/-- What the result of a remote start can do. -/
inductive StartResults (s : CooperateSM) (startDhid : String) : Bool → CooperateSM → Prop
  | ignored {isSuccess : Bool} (hs : s.isStarting = false) : StartResults s startDhid isSuccess s
  | failed {isSuccess : Bool} (hs : s.isStarting = true)
      (h : isSuccess = false ∨ s.cooperateState = .stateIn) :
      StartResults s startDhid isSuccess { s with startDhid, isStarting := false }
  | into (hs : s.isStarting = true) (h : s.cooperateState = .stateFree) :
      StartResults s startDhid true
        { renew { s with startDhid } .stateIn with isStarting := false }
  | back (hs : s.isStarting = true) (h : s.cooperateState = .stateOut) :
      StartResults s startDhid true (reset { s with startDhid })

theorem startRemoteCooperateResult_cases (s : CooperateSM) (isSuccess : Bool) (startDhid : String)
    (xPercent yPercent : Int32) :
    StartResults s startDhid isSuccess
      (s.handleSessionData 0 (.startRemoteCooperateResult isSuccess startDhid xPercent yPercent)) := by
  simp only [handleSessionData, startRemoteCooperateResult]
  by_cases hs : s.isStarting = true
  · by_cases hf : isSuccess = false ∨ s.cooperateState = .stateIn
    · have hif : (!isSuccess) = true ∨ s.cooperateState = .stateIn := by simpa using hf
      simp only [hs, if_pos hif]
      exact .failed hs hf
    · obtain ⟨hb, hstate⟩ := not_or.mp hf
      obtain rfl : isSuccess = true := by simpa using hb
      have hif : ¬ ((!true) = true ∨ s.cooperateState = .stateIn) := by simpa using hstate
      simp only [hs, if_neg hif]
      by_cases hfree : s.cooperateState = .stateFree
      · simp only [hfree, if_true, updateState, renew, Bool.not_true]
        exact .into hs hfree
      · have hout : s.cooperateState = .stateOut := by
          cases h : s.cooperateState <;> simp_all
        simp only [hout]
        exact .back hs hout
  · have hs' : s.isStarting = false := by simpa using hs
    simp only [hs']
    exact .ignored hs'

/-- What the result of a remote stop can do. -/
inductive StopResults (s : CooperateSM) : Bool → CooperateSM → Prop
  | ignored {isSuccess : Bool} (hs : s.isStopping = false) : StopResults s isSuccess s
  | failed (hs : s.isStopping = true) : StopResults s false { s with isStopping := false }
  | ended (hs : s.isStopping = true) : StopResults s true s.reset

theorem stopRemoteCooperateResult_cases (s : CooperateSM) (isSuccess : Bool) :
    StopResults s isSuccess (s.handleSessionData 0 (.stopRemoteCooperateResult isSuccess)) := by
  simp only [handleSessionData, stopRemoteCooperateResult]
  by_cases hs : s.isStopping = true
  · cases isSuccess with
    | false =>
      simp only [hs]
      exact .failed hs
    | true =>
      simp only [hs]
      exact .ended hs
  · have hs' : s.isStopping = false := by simpa using hs
    simp only [hs']
    exact .ignored hs'

end CooperateSM

/-! ## Steps -/

/-- The step takes the device out of the cooperation, or resets an idle
machine. -/
def CooperateSM.LeftBy (s : CooperateSM) (i : CooperateStep) : Prop :=
  match i.input with
  | .onCloseCooperation networkId isLocal =>
      s.cooperateState ≠ .stateFree ∧ (isLocal = true ∨ networkId = s.srcNetworkId ∨
        i.env.getOriginNetworkIdOf s.startDhid = networkId)
  | .onPointerOffline dhid => s.cooperateState = .stateFree ∨ s.startDhid = dhid
  | .onDeviceOffline networkId | .onSessionClosed networkId =>
      match s.cooperateState with
      | .stateFree => True
      | .stateIn => networkId = i.env.getOriginNetworkIdOf s.startDhid
      | .stateOut => networkId = s.srcNetworkId
  | _ => False

instance (s : CooperateSM) (i : CooperateStep) : Decidable (s.LeftBy i) := by
  unfold CooperateSM.LeftBy
  split
  all_goals first | infer_instance | (split <;> infer_instance)

/-- What the machine can do. -/
inductive Moves (s : CooperateSM) : CooperateStep → CooperateSM → Prop
  | nothing (i : CooperateStep) : Moves s i s
  | started {env : Surroundings} {remoteNetworkId : String} {dev : Int32}
      (h : s.AcceptsStart env remoteNetworkId) :
      Moves s ⟨env, .startInputDeviceCooperate remoteNetworkId dev⟩
        (s.started env remoteNetworkId dev)
  | stopped {i : CooperateStep}
      (hi : i.input = .stopInputDeviceCooperate ∨
        s.isStarting = false ∧ ∃ dev isRemote, i.input = .checkPointerEvent dev isRemote)
      (hs : s.isStopping = false) (h : s.AcceptsStop i.env (s.stopNetworkId i.env)) :
      Moves s i (s.stopped (s.stopNetworkId i.env) (s.stopSource (s.stopNetworkId i.env)))
  | received {env : Surroundings} {sessionId : Int32} {message : Message} (h : ¬ sessionId < 0) :
      Moves s ⟨env, .onBytesReceived sessionId message⟩ (s.handleSessionData sessionId message)
  | left {i : CooperateStep} {t : CooperateSM} (hi : s.LeftBy i) (ht : CooperateSM.Quieted s t) :
      Moves s i t.reset
  | closed {env : Surroundings} {networkId : String} {isLocal : Bool}
      (h : ¬ s.LeftBy ⟨env, .onCloseCooperation networkId isLocal⟩) :
      Moves s ⟨env, .onCloseCooperation networkId isLocal⟩ (s.closePrepared env networkId)
  | keyboard {env : Surroundings} (h : s.current.kind = .stateOut) :
      Moves s ⟨env, .onKeyboardOnline⟩ (s.callDInput env .startDInputCallbackSink none).2
  | emptied {env : Surroundings} {type : CallbackType} {isSuccess : Bool}
      (h : s.callbackMap type = some none) :
      Moves s ⟨env, .processDInputCallback type isSuccess⟩
        { s with callbackMap := Function.update s.callbackMap type none }
  | task {env : Surroundings} {generation : Nat} {c : Capture} {task : Task}
      (h : s.tasks.find? (fun t => t.1.object.generation = generation) = some (c, task)) :
      Moves s ⟨env, .runTask generation⟩
        (applyEffects env c
          { s with tasks := s.tasks.eraseP fun t => t.1.object.generation = generation }
          (taskEffects env c s.preparedNetworkId task))
  | callback {env : Surroundings} {type : CallbackType} {isSuccess : Bool} {c : Capture}
      {callback : DInputCallback} (h : s.callbackMap type = some (some (c, callback))) :
      Moves s ⟨env, .processDInputCallback type isSuccess⟩
        (applyEffects env c { s with callbackMap := Function.update s.callbackMap type none }
          (callbackEffects env c s.isStarting s.isStopping isSuccess callback))

theorem resetOf_moves {i : CooperateStep} (s : CooperateSM) (networkId : String)
    (hi : i.input = .onDeviceOffline networkId ∨ i.input = .onSessionClosed networkId) :
    Moves s i (s.resetOf i.env networkId) := by
  have hleft : s.LeftBy i ↔ match s.cooperateState with
      | .stateFree => True
      | .stateIn => networkId = i.env.getOriginNetworkIdOf s.startDhid
      | .stateOut => networkId = s.srcNetworkId := by
    obtain hi | hi := hi <;> simp [CooperateSM.LeftBy, hi]
  have hany : ∀ needReset : Bool, (needReset = true → s.LeftBy i) → Moves s i
      (if needReset then { s with preparedNetworkId := ("", "") }.reset else s) := by
    intro needReset h
    cases needReset with
    | false => exact .nothing i
    | true => exact .left (h rfl) ⟨rfl, fun _ => Or.inl rfl⟩
  refine hany _ fun h => hleft.mpr ?_
  cases hs : s.cooperateState <;> simp_all

/-- Every step is one of the moves. -/
theorem step_moves (s : CooperateSM) (i : CooperateStep) : Moves s i (s.step i) := by
  obtain ⟨env, input⟩ := i
  cases input with
  | startInputDeviceCooperate remoteNetworkId dev =>
    simp only [CooperateSM.step, CooperateSM.startInputDeviceCooperate_eq]
    split
    · rename_i h
      exact .started h
    · exact .nothing _
  | stopInputDeviceCooperate =>
    simp only [CooperateSM.step, CooperateSM.stopInputDeviceCooperate_eq]
    split
    · exact .nothing _
    · rename_i hs
      have hs' : s.isStopping = false := by simpa using hs
      obtain h | ⟨ha, h⟩ := s.stopCurrent_eq env (s.stopNetworkId env) hs'
      · rw [h]
        exact .nothing _
      · rw [h]
        exact .stopped (i := ⟨env, .stopInputDeviceCooperate⟩) (Or.inl rfl) hs' ha
  | checkPointerEvent dev isRemote =>
    simp only [CooperateSM.step]
    obtain h | ⟨hs, hstart, h⟩ := s.checkPointerEvent_eq env dev isRemote
    · rw [h]
      exact .nothing _
    · rw [h]
      obtain h | ⟨ha, h⟩ := s.stopCurrent_eq env (s.stopNetworkId env) hs
      · rw [h]
        exact .nothing _
      · rw [h]
        exact .stopped (i := ⟨env, .checkPointerEvent dev isRemote⟩)
          (Or.inr ⟨hstart, dev, isRemote, rfl⟩) hs ha
  | onBytesReceived sessionId message =>
    simp only [CooperateSM.step, CooperateSM.onBytesReceived]
    split
    · exact .nothing _
    · rename_i h
      exact .received h
  | onCloseCooperation networkId isLocal =>
    simp only [CooperateSM.step, CooperateSM.onCloseCooperation_eq]
    split
    · rename_i h
      exact .left h (s.quieted_closePrepared env networkId)
    · rename_i h
      exact .closed h
  | onKeyboardOnline =>
    simp only [CooperateSM.step, CooperateSM.onKeyboardOnline]
    split
    · rename_i h
      exact .keyboard h
    · exact .nothing _
  | onPointerOffline dhid =>
    simp only [CooperateSM.step, CooperateSM.onPointerOffline]
    have hleft : s.LeftBy ⟨env, .onPointerOffline dhid⟩ →
        ∀ t, CooperateSM.Quieted s t → Moves s ⟨env, .onPointerOffline dhid⟩ t.reset :=
      fun h t ht => .left h ht
    split
    · rename_i hs
      exact hleft (Or.inl hs) s (.refl s)
    · split
      · rename_i hd
        exact hleft (Or.inr hd) s (.refl s)
      · exact .nothing _
    · split
      · rename_i hd
        exact hleft (Or.inr hd) _ (CooperateSM.quieted_callDInput (.refl s) _)
      · exact .nothing _
  | onDeviceOffline networkId =>
    exact resetOf_moves (i := ⟨env, .onDeviceOffline networkId⟩) s networkId (Or.inl rfl)
  | onSessionClosed deviceId =>
    exact resetOf_moves (i := ⟨env, .onSessionClosed deviceId⟩) s deviceId (Or.inr rfl)
  | runTask generation =>
    simp only [CooperateSM.step]
    obtain h | ⟨c, task, hf, h⟩ := runTask_eq env s generation
    · rw [h]
      exact .nothing _
    · rw [h]
      exact .task hf
  | processDInputCallback type isSuccess =>
    simp only [CooperateSM.step]
    obtain h | ⟨h, hn⟩ | ⟨c, callback, hc, h⟩ := processDInputCallback_eq env s type isSuccess
    · rw [h]
      exact .nothing _
    · rw [h]
      exact .emptied hn
    · rw [h]
      exact .callback hc

/-! ## The state object is one for the state -/

def KindMatches (s : CooperateSM) : Prop := s.current.kind = s.cooperateState

theorem kindMatches_applyEffect (env : Surroundings) (c : Capture) {s : CooperateSM} {e : Effect}
    (h : KindMatches s) : KindMatches (applyEffect env c s e) := by
  cases e with
  | prepared networkIds => exact h
  | saved type callback => exact h
  | posted task =>
    simp only [applyEffect, CooperateSM.post]
    split <;> exact h
  | startFinish isSuccess remoteNetworkId dev =>
    have hcases := s.onStartFinish_cases env c.attempt isSuccess remoteNetworkId dev
    simp only [applyEffect]
    generalize s.onStartFinish env c.attempt isSuccess remoteNetworkId dev = s' at hcases
    cases hcases with
    | dropped => exact h
    | failed => exact h
    | free => rfl
    | into => rfl
    | out => exact h
  | stopFinish isSuccess remoteNetworkId =>
    have hcases := s.onStopFinish_cases env c.attempt isSuccess remoteNetworkId
    simp only [applyEffect]
    generalize s.onStopFinish env c.attempt isSuccess remoteNetworkId = s' at hcases
    cases hcases with
    | dropped => exact h
    | failed => exact h
    | free => exact h
    | ended => rfl

theorem kindMatches_step (s : CooperateSM) (i : CooperateStep) (h : KindMatches s) :
    KindMatches (s.step i) := by
  have hmoves := step_moves s i
  generalize s.step i = s' at hmoves
  cases hmoves with
  | nothing => exact h
  | started => exact h
  | stopped => exact h
  | @received env sessionId message =>
    cases message with
    | startRemoteCooperate => exact h
    | startRemoteCooperateResult isSuccess startDhid x y =>
      have hcases := s.startRemoteCooperateResult_cases isSuccess startDhid x y
      rw [CooperateSM.handleSessionData_eq s sessionId 0]
      generalize s.handleSessionData 0 _ = s' at hcases
      cases hcases with
      | ignored => exact h
      | failed => exact h
      | into => rfl
      | back => rfl
    | stopRemoteCooperate => exact h
    | stopRemoteCooperateResult isSuccess =>
      have hcases := s.stopRemoteCooperateResult_cases isSuccess
      rw [CooperateSM.handleSessionData_eq s sessionId 0]
      generalize s.handleSessionData 0 _ = s' at hcases
      cases hcases with
      | ignored => exact h
      | failed => exact h
      | ended => rfl
    | startCooperateOtherResult => exact h
  | left => rfl
  | closed =>
    unfold KindMatches
    rw [(s.quieted_closePrepared _ _).eq]
    exact h
  | keyboard => exact h
  | emptied => exact h
  | task => exact applyEffects_keeps _ _ (fun _ h _ _ => kindMatches_applyEffect _ _ h) h
  | callback => exact applyEffects_keeps _ _ (fun _ h _ _ => kindMatches_applyEffect _ _ h) h

/-! ## A surroundings -/

/-- A surroundings in which everything goes well: the local mouse is device 1,
session 2 is with a third device. -/
def calm : Surroundings where
  localDeviceId := "local"
  inputDevice := [(1, ⟨"", false, true, "mouse", none⟩)]
  mouseLocation := none
  peerDeviceId := fun sessionId => if sessionId = 1 then "peer" else "third"
  sends := fun _ => true
  accepts := fun _ => true

end FtMmi.InputDeviceCooperate
