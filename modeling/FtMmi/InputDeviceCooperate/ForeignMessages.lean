/-
FtMmi.InputDeviceCooperate.ForeignMessages — messages of devices that have no
part in a cooperation.

`Cooperation` is the machine with its partners: the devices that it is
cooperating with, or that an attempt involves. A start brings in the device
it is told, a request that reaches an idle machine the device at the other
end of its session, and a partner the device it hands the cooperation to.

* `partners_ne_nil` — a machine that is not idle has partners.
* `undisturbed_iff_harmless` — the steps of a run leave the cooperation of
  the partners alone precisely if each foreign message comes when its
  handler has nothing to do.
-/
import FtMmi.InputDeviceCooperate.Transitions

namespace FtMmi.InputDeviceCooperate

open FtMmi.Lib

structure Cooperation where
  machine : CooperateSM
  partners : List String

/-- The machine is cooperating, or in an attempt. -/
def CooperateSM.Engaged (s : CooperateSM) : Prop :=
  s.cooperateState ≠ .stateFree ∨ s.isStarting = true ∨ s.isStopping = true

instance (s : CooperateSM) : Decidable s.Engaged := by
  unfold CooperateSM.Engaged
  infer_instance

namespace Cooperation

def init (keepsTasks : Bool) : Cooperation := ⟨.init keepsTasks, []⟩

/-- The devices a step brings in. -/
def joining (s : Cooperation) (i : CooperateStep) : List String :=
  match i.input with
  | .startInputDeviceCooperate remoteNetworkId dev =>
      if (s.machine.startInputDeviceCooperate i.env remoteNetworkId dev).1 then [remoteNetworkId]
      else []
  | .onBytesReceived sessionId message =>
      if s.partners = [] then [i.env.peerDeviceId sessionId]
      else
        match message with
        | .startCooperateOtherResult srcNetworkId =>
            if i.env.peerDeviceId sessionId ∈ s.partners then [srcNetworkId] else []
        | _ => []
  | _ => []

def step (s : Cooperation) (i : CooperateStep) : Cooperation where
  machine := s.machine.step i
  partners := if (s.machine.step i).Engaged then s.partners ++ s.joining i else []

/-- The message comes from a device that is no partner of those there are. -/
def Foreign (s : Cooperation) (env : Surroundings) (sessionId : Int32) : Prop :=
  s.partners ≠ [] ∧ env.peerDeviceId sessionId ∉ s.partners

instance (s : Cooperation) (env : Surroundings) (sessionId : Int32) :
    Decidable (s.Foreign env sessionId) := by
  unfold Foreign
  infer_instance

end Cooperation

/-! ## The partners -/

/-- An idle machine is engaged by a start it accepts or by a message. -/
theorem joining_ne_nil {s : Cooperation} {i : CooperateStep} (hkind : KindMatches s.machine)
    (hs : ¬ s.machine.Engaged) (hp : s.partners = []) (h : (s.machine.step i).Engaged) :
    s.joining i ≠ [] := by
  obtain ⟨hfree, hstart, hstop⟩ : s.machine.cooperateState = .stateFree ∧
      s.machine.isStarting = false ∧ s.machine.isStopping = false := by
    simpa [CooperateSM.Engaged] using hs
  have hcore : (s.machine.step i).core = s.machine.core → False := by
    intro heq
    refine hs ?_
    simp only [CooperateSM.core, Core.mk.injEq] at heq
    simpa [CooperateSM.Engaged, heq] using h
  have hidle : ∀ kind, s.machine.core.Trying kind = false := by
    intro kind
    cases kind with
    | start => exact hstart
    | stop => exact hstop
  have hmoves := step_moves s.machine i
  generalize hs' : s.machine.step i = s' at hmoves
  rw [hs'] at hcore h
  cases hmoves with
  | nothing => exact (hcore rfl).elim
  | started ha => simp [Cooperation.joining, CooperateSM.startInputDeviceCooperate_eq, ha]
  | stopped hi hs ha => exact (ha.1 (hkind.trans hfree)).elim
  | received => simp [Cooperation.joining, hp]
  | left => simp [CooperateSM.Engaged, CooperateSM.reset, CooperateSM.renew] at h
  | closed =>
    refine (hcore ?_).elim
    rw [(s.machine.quieted_closePrepared _ _).eq]
    rfl
  | keyboard hk => exact (hcore rfl).elim
  | emptied => exact (hcore rfl).elim
  | task =>
    refine (hcore ?_).elim
    exact core_applyEffects_of_not_trying _ _ (taskEffects_ofKind _ _ _ _) (hidle _)
  | callback =>
    refine (hcore ?_).elim
    exact core_applyEffects_of_not_trying _ _ (callbackEffects_ofKind _ _ _ _ _ _) (hidle _)

/-- In every state reached, a machine that is not idle has partners. -/
theorem partners_ne_nil (keepsTasks : Bool) (is : List CooperateStep) :
    Always Cooperation.step (fun s => KindMatches s.machine ∧ (s.machine.Engaged → s.partners ≠ []))
      (Cooperation.init keepsTasks) is := by
  refine always_of_step (fun s i h => ?_) is _ ⟨rfl, by decide +revert⟩
  obtain ⟨hkind, hp⟩ := h
  refine ⟨kindMatches_step _ i hkind, fun he => ?_⟩
  simp only [Cooperation.step] at he ⊢
  rw [if_pos he]
  by_cases hs : s.partners = []
  · have hj : s.joining i ≠ [] := joining_ne_nil hkind (fun h => hp h hs) hs he
    simpa [hs] using hj
  · simp [hs]

/-! ## Foreign messages -/

/-- The state, the flags and the ids of the cooperation are the same. -/
def SameCooperation (s t : CooperateSM) : Prop :=
  s.cooperateState = t.cooperateState ∧ s.isStarting = t.isStarting ∧
    s.isStopping = t.isStopping ∧ s.srcNetworkId = t.srcNetworkId ∧ s.startDhid = t.startDhid

/-- If the step is a foreign message, it changes nothing of the cooperation. -/
def Undisturbed (s : Cooperation) (i : CooperateStep) : Prop :=
  match i.input with
  | .onBytesReceived sessionId _ =>
      s.Foreign i.env sessionId → SameCooperation s.machine (s.machine.step i)
  | _ => True

/-- The message comes when its handler has nothing to do. -/
def Message.Harmless (s : CooperateSM) : Message → Prop
  | .startRemoteCooperate _ => s.isStarting = true
  | .startRemoteCooperateResult .. => s.isStarting = false
  | .stopRemoteCooperate => s.isStopping = true
  | .stopRemoteCooperateResult _ => s.isStopping = false
  | .startCooperateOtherResult srcNetworkId => srcNetworkId = s.srcNetworkId

/-- A foreign message is harmless, or comes with no session. -/
def ForeignHarmless (s : Cooperation) (i : CooperateStep) : Prop :=
  match i.input with
  | .onBytesReceived sessionId message =>
      s.Foreign i.env sessionId → sessionId < 0 ∨ message.Harmless s.machine
  | _ => True

/-- A message leaves the cooperation as it is precisely if it is harmless. -/
theorem sameCooperation_iff (s : CooperateSM) (sessionId : Int32) (message : Message) :
    SameCooperation s (s.handleSessionData sessionId message) ↔ message.Harmless s := by
  rw [s.handleSessionData_eq sessionId 0]
  cases message with
  | startRemoteCooperate localDeviceId =>
    simp [SameCooperation, CooperateSM.handleSessionData, CooperateSM.startRemoteCooperate,
      Message.Harmless]
  | startRemoteCooperateResult isSuccess startDhid x y =>
    have hcases := s.startRemoteCooperateResult_cases isSuccess startDhid x y
    generalize s.handleSessionData 0 _ = s' at hcases
    simp only [Message.Harmless]
    cases hcases with
    | ignored hs => simp [SameCooperation, hs]
    | failed hs => simp [SameCooperation, hs]
    | into hs => simp [SameCooperation, hs]
    | back hs => simp [SameCooperation, hs, CooperateSM.reset]
  | stopRemoteCooperate =>
    simp [SameCooperation, CooperateSM.handleSessionData, CooperateSM.stopRemoteCooperate,
      Message.Harmless]
  | stopRemoteCooperateResult isSuccess =>
    have hcases := s.stopRemoteCooperateResult_cases isSuccess
    generalize s.handleSessionData 0 _ = s' at hcases
    simp only [Message.Harmless]
    cases hcases with
    | ignored hs => simp [SameCooperation, hs]
    | failed hs => simp [SameCooperation, hs]
    | ended hs => simp [SameCooperation, hs, CooperateSM.reset]
  | startCooperateOtherResult srcNetworkId =>
    simp [SameCooperation, CooperateSM.handleSessionData, CooperateSM.startCooperateOtherResult,
      Message.Harmless, eq_comm]

theorem undisturbed_step_iff (s : Cooperation) (i : CooperateStep) :
    Undisturbed s i ↔ ForeignHarmless s i := by
  obtain ⟨env, input⟩ := i
  cases input with
  | onBytesReceived sessionId message =>
    simp only [Undisturbed, ForeignHarmless, CooperateSM.step, CooperateSM.onBytesReceived]
    refine imp_congr_right fun _ => ?_
    by_cases h : sessionId < 0
    · simp [h, SameCooperation]
    · simp [h, sameCooperation_iff]
  | _ => exact Iff.rfl

/-- From any state, the messages of foreign devices leave the cooperation
alone precisely if each of them comes when its handler has nothing to do. -/
theorem undisturbed_iff_harmless (is : List CooperateStep) (s : Cooperation) :
    AllSteps Cooperation.step Undisturbed s is ↔
      AllSteps Cooperation.step ForeignHarmless s is :=
  allSteps_congr undisturbed_step_iff is s

/-- A start with the peer is on its way, and a third device asks to stop: the
machine is stopping. -/
theorem third_device_disturbs :
    ¬ AllSteps Cooperation.step Undisturbed (.init false)
      [⟨calm, .startInputDeviceCooperate "peer" 1⟩,
        ⟨calm, .onBytesReceived 2 .stopRemoteCooperate⟩] := by
  rintro ⟨_, hstop, _⟩
  have h := hstop (by decide)
  exact absurd h.2.2.1 (by decide)

end FtMmi.InputDeviceCooperate
