/-
FtMmi.InputDeviceCooperate.TwoDevices — two devices that cooperate with each
other and with no third one.

Each side runs a machine of its own. What a machine sends is in its `sent`;
the other side gets it in this order, each message at some later step
(`delivered`). The side that finishes a stop closes the session behind the
result (`CloseInputSoftbus`), and the other side is told of that too. A step
is a request at a side, a task or a callback of a side, or the next arrival
from a side. A session is opened whenever a start asks for one, and is lost
in no other way; devices that are unplugged or switched off are left out.

The two sides need not agree when requests cross: each may become the one
that has given its mouse away. Nor need they when a stop fails: the session
is closed all the same, which resets the other side only. When no request is
accepted before the one before it has come to its end, and no stop fails
(`Calm`), they agree as soon as what is under way is taken
(`agrees_of_calm`). The invariant says that one side is alone in having
anything left to run and in having something under way (`Initiates`), and
where the attempt is (`Phase`).
-/
import FtMmi.InputDeviceCooperate.PendingAttempt

namespace FtMmi.InputDeviceCooperate

open FtMmi.Lib

/-! ## Two machines -/

inductive Side where
  | left
  | right
  deriving DecidableEq, Repr

def Side.other : Side → Side
  | .left => .right
  | .right => .left

@[simp] theorem Side.other_other (side : Side) : side.other.other = side := by cases side <;> rfl

theorem Side.other_ne (side : Side) : side.other ≠ side := by cases side <;> decide

/-- The ids of two devices, and the input devices each of them has. -/
structure Devices where
  id : Side → String
  named : ∀ side, id side ≠ ""
  inputDevice : Side → List (Int32 × InputDeviceInfo)

namespace Devices

/-- A message goes out to the other device, and to no one else. -/
def surroundings (d : Devices) (side : Side) (accepts : CallbackType → Bool)
    (mouseLocation : Option (Int32 × Int32)) : Surroundings where
  localDeviceId := d.id side
  inputDevice := d.inputDevice side
  mouseLocation
  peerDeviceId := fun _ => d.id side.other
  sends := fun remoteDeviceId => remoteDeviceId = d.id side.other
  accepts

def origin (d : Devices) (side : Side) : String → String :=
  (d.surroundings side (fun _ => true) none).getOriginNetworkIdOf

end Devices

/-- What comes from the other device: a message, or that the session is closed. -/
inductive Arrival where
  | bytes (message : Message)
  | closed

/-- The session is closed behind the result of a stop. -/
def Message.arrivals : Message → List Arrival
  | .stopRemoteCooperateResult isSuccess => [.bytes (.stopRemoteCooperateResult isSuccess), .closed]
  | message => [.bytes message]

def arrivals (sent : List (String × Message)) : List Arrival :=
  sent.flatMap fun message => message.2.arrivals

/-- The machine of the side takes what arrives: `OnBytesReceived` or `OnSessionClosed`. -/
def Devices.takes (d : Devices) (side : Side) (machine : CooperateSM) : Arrival → CooperateSM
  | .bytes message => machine.onBytesReceived 0 message
  | .closed => machine.resetOf (d.surroundings side (fun _ => true) none) (d.id side.other)

structure Pair where
  machine : Side → CooperateSM
  /-- how many of the arrivals from a side the other one has got -/
  delivered : Side → Nat

/-- What can happen at one side. -/
inductive LocalInput where
  | startInputDeviceCooperate (remoteNetworkId : String) (startInputDeviceId : Int32)
  | stopInputDeviceCooperate
  | checkPointerEvent (deviceId : Int32) (isRemote : Bool)
  | runTask (generation : Nat)
  | processDInputCallback (type : CallbackType) (isSuccess : Bool)

namespace LocalInput

def input : LocalInput → CooperateInput
  | .startInputDeviceCooperate remoteNetworkId dev => .startInputDeviceCooperate remoteNetworkId dev
  | .stopInputDeviceCooperate => .stopInputDeviceCooperate
  | .checkPointerEvent deviceId isRemote => .checkPointerEvent deviceId isRemote
  | .runTask generation => .runTask generation
  | .processDInputCallback type isSuccess => .processDInputCallback type isSuccess

def isRequest : LocalInput → Bool
  | .startInputDeviceCooperate .. | .stopInputDeviceCooperate | .checkPointerEvent .. => true
  | .runTask _ | .processDInputCallback .. => false

end LocalInput

inductive PairInput where
  | act (side : Side) (accepts : CallbackType → Bool) (mouseLocation : Option (Int32 × Int32))
      (input : LocalInput)
  /-- The first of what is under way from the side arrives. -/
  | deliver (side : Side)

namespace Pair

def create (keepsTasks : Side → Bool) : Pair where
  machine := fun side => .init (keepsTasks side)
  delivered := fun _ => 0

/-- What is under way from the side. -/
def inFlight (s : Pair) (side : Side) : List Arrival :=
  (arrivals (s.machine side).sent).drop (s.delivered side)

def acted (d : Devices) (s : Pair) (side : Side) (accepts : CallbackType → Bool)
    (mouseLocation : Option (Int32 × Int32)) (input : LocalInput) : CooperateSM :=
  (s.machine side).step ⟨d.surroundings side accepts mouseLocation, input.input⟩

def step (d : Devices) (s : Pair) : PairInput → Pair
  | .act side accepts mouseLocation input =>
      { s with
        machine := Function.update s.machine side (s.acted d side accepts mouseLocation input) }
  | .deliver side =>
      match s.inFlight side with
      | [] => s
      | arrival :: _ =>
          { machine := Function.update s.machine side.other
              (d.takes side.other (s.machine side.other) arrival)
            delivered := Function.update s.delivered side (s.delivered side + 1) }

/-! ## Agreement -/

/-- The machine of the side when it has taken the arrivals too. -/
def received (d : Devices) (side : Side) (machine : CooperateSM) (new : List Arrival) :
    CooperateSM :=
  new.foldl (d.takes side) machine

/-- The machine of the side when it has taken all that is under way to it. -/
def caughtUp (d : Devices) (s : Pair) (side : Side) : CooperateSM :=
  received d side (s.machine side) (s.inFlight side.other)

/-- Both are free, or one has given its mouse to the other. -/
def Agree : CooperateState → CooperateState → Prop
  | .stateFree, .stateFree => True
  | .stateOut, .stateIn => True
  | .stateIn, .stateOut => True
  | _, _ => False

instance : (a b : CooperateState) → Decidable (Agree a b)
  | .stateFree, .stateFree => isTrue trivial
  | .stateOut, .stateIn => isTrue trivial
  | .stateIn, .stateOut => isTrue trivial
  | .stateFree, .stateIn => isFalse id
  | .stateFree, .stateOut => isFalse id
  | .stateIn, .stateFree => isFalse id
  | .stateIn, .stateIn => isFalse id
  | .stateOut, .stateFree => isFalse id
  | .stateOut, .stateOut => isFalse id

/-- Nothing is under way, and nothing is left to run. -/
def Still (s : Pair) : Prop := ∀ side, s.inFlight side = [] ∧ ¬ (s.machine side).Pending

/-- They agree once what is under way is taken, so also when nothing is. -/
structure Agrees (d : Devices) (s : Pair) : Prop where
  caughtUp : Agree (s.caughtUp d .left).cooperateState (s.caughtUp d .right).cooperateState
  still : s.Still →
    Agree (s.machine .left).cooperateState (s.machine .right).cooperateState

/-- What a machine sends anew has no result of a stop that has failed. -/
def NoStopFails (machine machine' : CooperateSM) : Prop :=
  ∀ message ∈ machine'.sent.drop machine.sent.length,
    message.2 ≠ .stopRemoteCooperateResult false

instance (machine machine' : CooperateSM) : Decidable (NoStopFails machine machine') :=
  inferInstanceAs (Decidable (∀ message ∈ machine'.sent.drop machine.sent.length,
    message.2 ≠ .stopRemoteCooperateResult false))

/-- A request is refused, or the one before it has come to its end; and no stop
fails. -/
def Calm (d : Devices) (s : Pair) : PairInput → Prop
  | .act side accepts mouseLocation input =>
      (input.isRequest = true →
        s.acted d side accepts mouseLocation input = s.machine side ∨ s.Still) ∧
      NoStopFails (s.machine side) (s.acted d side accepts mouseLocation input)
  | .deliver _ => True

end Pair

/-! ## The invariant -/

open Pair

/-- The state object is one for the state. -/
structure Sound (s : CooperateSM) : Prop where
  kind : KindMatches s
  startDhid : s.cooperateState = .stateIn → s.current.startDhid = s.startDhid

/-- No stop is under way. A start of the other side may have been given up without a
message, but not at a side that has the other one's mouse. -/
structure AtRest (s : CooperateSM) : Prop where
  sound : Sound s
  isStopping : s.isStopping = false
  isStarting : s.isStarting = true → s.cooperateState ≠ .stateIn

/-- All that is left to run belongs to a stop of an out object. -/
structure StopsOnly (s : CooperateSM) : Prop where
  tasks : ∀ item ∈ s.tasks, item.1.object.kind = .stateOut ∧ item.2.kind = .stop
  callbacks : ∀ type saved, s.callbackMap type = some saved → ∃ c remoteNetworkId dev,
    saved = some (c, .onStopRemoteInput remoteNetworkId dev) ∧ c.object.kind = .stateOut

/-- Where an attempt of `x` is; `y` is the other side when it has caught up. -/
inductive Phase (peer : String) (origin : String → String) (x y : CooperateSM) : Prop
  | starting (h : Attempting peer origin .start x) (hx : Sound x) (hxstop : x.isStopping = false)
      (hy : Sound y) (hystart : y.isStarting = true) (hystop : y.isStopping = false)
  | stopping (h : Attempting peer origin .stop x) (hx : Sound x)
      (hxstart : x.isStarting = true → x.cooperateState ≠ .stateIn) (hy : Sound y)
      (hystart : y.isStarting = true → y.cooperateState ≠ .stateIn) (hystop : y.isStopping = true)
  | ended (hx : AtRest x) (hy : AtRest y) (hquiet : x.isStarting = true → StopsOnly x)

/-- One side is alone in having something under way. -/
structure Initiates (d : Devices) (s : Pair) (side : Side) : Prop where
  delivered : ∀ side, s.delivered side ≤ (arrivals (s.machine side).sent).length
  silent : s.inFlight side.other = []
  idle : ¬ (s.machine side.other).Pending
  agree : Agree (s.machine side).cooperateState (s.caughtUp d side.other).cooperateState
  phase : Phase (d.id side.other) (d.origin side) (s.machine side) (s.caughtUp d side.other)

section

variable {a b : CooperateState}

theorem agree_symm (h : Agree a b) : Agree b a := by
  cases a <;> cases b <;> exact h

theorem free_of_agree (h : Agree .stateFree b) : b = .stateFree := by
  cases b with
  | stateFree => rfl
  | stateIn => exact h.elim
  | stateOut => exact h.elim

theorem out_of_agree (h : Agree .stateIn b) : b = .stateOut := by
  cases b with
  | stateOut => rfl
  | stateFree => exact h.elim
  | stateIn => exact h.elim

end

/-! ## What effects keep -/

variable {env : Surroundings} {c : Capture} {s : CooperateSM}

theorem Sound.applyEffect {e : Effect} (h : Sound s) : Sound (applyEffect env c s e) := by
  refine ⟨kindMatches_applyEffect env c h.kind, ?_⟩
  cases e with
  | prepared networkIds => exact h.startDhid
  | saved type callback => exact h.startDhid
  | posted task =>
    simp only [InputDeviceCooperate.applyEffect, CooperateSM.post]
    split <;> exact h.startDhid
  | startFinish isSuccess remoteNetworkId dev =>
    have hcases := s.onStartFinish_cases env c.attempt isSuccess remoteNetworkId dev
    simp only [InputDeviceCooperate.applyEffect]
    generalize s.onStartFinish env c.attempt isSuccess remoteNetworkId dev = s' at hcases
    cases hcases with
    | dropped => exact h.startDhid
    | failed => exact h.startDhid
    | free =>
      intro hin
      cases hin
    | into =>
      intro hin
      cases hin
    | out _ hstate =>
      intro hin
      rw [hstate] at hin
      cases hin
  | stopFinish isSuccess remoteNetworkId =>
    have hcases := s.onStopFinish_cases env c.attempt isSuccess remoteNetworkId
    simp only [InputDeviceCooperate.applyEffect]
    generalize s.onStopFinish env c.attempt isSuccess remoteNetworkId = s' at hcases
    cases hcases with
    | dropped => exact h.startDhid
    | failed => exact h.startDhid
    | free => exact h.startDhid
    | ended =>
      intro hin
      cases hin

theorem Sound.applyEffects (h : Sound s) (es : List Effect) :
    Sound (applyEffects env c s es) :=
  applyEffects_keeps env c (fun _ hs _ _ => hs.applyEffect) h

/-- An effect of a stop. -/
def Effect.Stops : Effect → Prop
  | .saved _ (.onStopRemoteInput _ _) => True
  | .posted task => task.kind = .stop
  | .stopFinish _ _ => True
  | _ => False

theorem StopsOnly.of_sublist {t : CooperateSM} (h : StopsOnly s) (htasks : t.tasks.Sublist s.tasks)
    (hcallbacks : t.callbackMap = s.callbackMap) : StopsOnly t where
  tasks item hitem := h.tasks item (htasks.subset hitem)
  callbacks type saved hsaved := h.callbacks type saved (hcallbacks ▸ hsaved)

theorem StopsOnly.applyEffect {e : Effect} (h : StopsOnly s) (hobject : c.object.kind = .stateOut)
    (he : e.Stops) : StopsOnly (applyEffect env c s e) := by
  cases e with
  | saved type callback =>
    cases callback with
    | onStopRemoteInput remoteNetworkId dev =>
      refine ⟨h.tasks, fun type' saved hsaved => ?_⟩
      have hupdated : Function.update s.callbackMap type
          (some (some (c, .onStopRemoteInput remoteNetworkId dev))) type' = some saved := hsaved
      by_cases hsame : type' = type
      · rw [hsame, Function.update_self] at hupdated
        cases hupdated
        exact ⟨c, remoteNetworkId, dev, rfl, hobject⟩
      · rw [Function.update_of_ne hsame] at hupdated
        exact h.callbacks type' saved hupdated
    | onPrepareDistributedInput _ _ => exact absurd he id
    | onStartRemoteInput _ _ => exact absurd he id
  | posted task =>
    simp only [InputDeviceCooperate.applyEffect, CooperateSM.post]
    split
    · refine ⟨fun item hitem => ?_, h.callbacks⟩
      rcases List.mem_append.mp hitem with hold | hnew
      · exact h.tasks item hold
      · rw [List.mem_singleton.mp hnew]
        exact ⟨hobject, he⟩
    · exact h
  | stopFinish isSuccess remoteNetworkId =>
    have hcases := s.onStopFinish_cases env c.attempt isSuccess remoteNetworkId
    simp only [InputDeviceCooperate.applyEffect]
    generalize s.onStopFinish env c.attempt isSuccess remoteNetworkId = s' at hcases
    cases hcases with
    | dropped => exact h.of_sublist (List.Sublist.refl _) rfl
    | failed => exact h.of_sublist (List.Sublist.refl _) rfl
    | free => exact h.of_sublist (List.Sublist.refl _) rfl
    | ended =>
      refine h.of_sublist ?_ rfl
      simp only [CooperateSM.reset, CooperateSM.renew]
      split
      · exact List.Sublist.refl _
      · exact List.filter_sublist
  | prepared _ => exact absurd he id
  | startFinish _ _ _ => exact absurd he id

theorem StopsOnly.applyEffects (h : StopsOnly s) (hobject : c.object.kind = .stateOut)
    {es : List Effect} (hes : ∀ e ∈ es, e.Stops) : StopsOnly (applyEffects env c s es) :=
  applyEffects_keeps env c (fun _ hs e he => hs.applyEffect hobject (hes e he)) h

theorem stops_task {task : Task} (prepared : String × String) (hkind : task.kind = .stop)
    (hobject : c.object.kind = .stateOut) : ∀ e ∈ taskEffects env c prepared task, e.Stops := by
  cases task with
  | processStop srcNetworkId =>
    simp only [taskEffects, processStopEffects, hobject]
    split <;> simp [Effect.Stops]
  | stopFinish isSuccess remoteNetworkId => simp [taskEffects, Effect.Stops]
  | _ => cases hkind

theorem stops_callback (isStarting isStopping isSuccess : Bool) (remoteNetworkId : String)
    (dev : Int32) (hobject : c.object.kind = .stateOut) :
    ∀ e ∈ callbackEffects env c isStarting isStopping isSuccess
      (.onStopRemoteInput remoteNetworkId dev), e.Stops ∧ e.OfKind .stop := by
  simp [callbackEffects, hobject, Effect.Stops, Task.kind, Effect.OfKind, Effect.finishes]

/-! ## The end of an attempt -/

variable {d : Devices} {other : Side} {peer : String} {origin : String → String}
  {x y x' : CooperateSM}

/-- What is left when an attempt is over: what is new is taken by the other side. -/
def EndsWith (d : Devices) (other : Side) (x x' y : CooperateSM) : Prop :=
  ∃ messages, x'.sent = x.sent ++ messages ∧
    Agree x'.cooperateState (received d other y (arrivals messages)).cooperateState ∧
    x'.isStopping = false ∧ (x'.isStarting = true → x'.cooperateState ≠ .stateIn) ∧
    AtRest (received d other y (arrivals messages))

theorem outbox_peer (hsends : ∀ id, env.sends id = decide (id = peer))
    (sent : List (String × Message)) (message : Message) :
    CooperateSM.outbox env sent peer message = sent ++ [(peer, message)] := by
  simp [CooperateSM.outbox, hsends]

/-- A message goes to the other side, or nowhere. -/
theorem outbox_cases (hsends : ∀ id, env.sends id = decide (id = peer))
    (sent : List (String × Message)) (id : String) (message : Message) :
    CooperateSM.outbox env sent id message = sent ++ [(id, message)] ∨
      CooperateSM.outbox env sent id message = sent ∧ id ≠ peer := by
  by_cases hid : id = peer
  · rw [hid]
    exact .inl (outbox_peer hsends sent message)
  · exact .inr ⟨by simp [CooperateSM.outbox, hsends, hid], hid⟩

/-- The other side takes the result of a start. -/
theorem received_startResult (isSuccess : Bool) (startDhid : String) (xPercent yPercent : Int32) :
    received d other y
        (arrivals [(peer, .startRemoteCooperateResult isSuccess startDhid xPercent yPercent)])
      = y.handleSessionData 0
          (.startRemoteCooperateResult isSuccess startDhid xPercent yPercent) := by
  simp [received, arrivals, Message.arrivals, Devices.takes, CooperateSM.onBytesReceived]

/-- It takes the result of a stop, and that the session is closed. -/
theorem received_stopResult (isSuccess : Bool) :
    received d other y (arrivals [(peer, .stopRemoteCooperateResult isSuccess)])
      = (y.handleSessionData 0 (.stopRemoteCooperateResult isSuccess)).resetOf
          (d.surroundings other (fun _ => true) none) (d.id other.other) := by
  simp [received, arrivals, Message.arrivals, Devices.takes, CooperateSM.onBytesReceived]

/-- A session that is closed resets the machine, or does nothing to it. -/
theorem resetOf_cases (env : Surroundings) (networkId : String) :
    y.resetOf env networkId = { y with preparedNetworkId := ("", "") }.reset ∨
      y.resetOf env networkId = y :=
  ite_eq_or_eq _ _ _

/-- It resets a machine that is free. -/
theorem resetOf_free (env : Surroundings) (networkId : String) (h : y.cooperateState = .stateFree) :
    y.resetOf env networkId = { y with preparedNetworkId := ("", "") }.reset := by
  simp [CooperateSM.resetOf, h]

/-- The other side is told that the start has failed. -/
theorem atRest_startFailed (hy : Sound y) (hystart : y.isStarting = true)
    (hystop : y.isStopping = false) (hyin : y.cooperateState ≠ .stateIn) :
    (y.handleSessionData 0 (.startRemoteCooperateResult false "" 0 0)).cooperateState
        = y.cooperateState ∧
      AtRest (y.handleSessionData 0 (.startRemoteCooperateResult false "" 0 0)) := by
  have hresult := y.startRemoteCooperateResult_cases false "" 0 0
  generalize y.handleSessionData 0 _ = y' at hresult
  cases hresult with
  | ignored hs =>
    rw [hystart] at hs
    cases hs
  | failed _ _ => exact ⟨rfl, ⟨hy.kind, fun hin => absurd hin hyin⟩, hystop, by simp⟩

/-- It is told that the start has succeeded: from free it goes in, from out it goes free. -/
theorem atRest_started (hystart : y.isStarting = true) (hystop : y.isStopping = false)
    (hyin : y.cooperateState ≠ .stateIn) (startDhid : String) (xPercent yPercent : Int32)
    {y' : CooperateSM}
    (hy' : y.handleSessionData 0 (.startRemoteCooperateResult true startDhid xPercent yPercent)
      = y') :
    (y.cooperateState = .stateFree ∧ y'.cooperateState = .stateIn ∨
        y.cooperateState = .stateOut ∧ y'.cooperateState = .stateFree) ∧ AtRest y' := by
  have hresult := y.startRemoteCooperateResult_cases true startDhid xPercent yPercent
  rw [hy'] at hresult
  cases hresult with
  | ignored hs =>
    rw [hystart] at hs
    cases hs
  | failed _ h =>
    rcases h with h | h
    · cases h
    · exact absurd h hyin
  | into _ hfree => exact ⟨.inl ⟨hfree, rfl⟩, ⟨rfl, fun _ => rfl⟩, hystop, by simp⟩
  | back _ hout =>
    exact ⟨.inr ⟨hout, rfl⟩, ⟨rfl, fun h => nomatch h⟩, rfl, fun h => nomatch h⟩

/-- A start comes to its end. -/
theorem ends_start {t : CooperateSM} {isSuccess : Bool} {remoteNetworkId : String} {dev : Int32}
    (hsends : ∀ id, env.sends id = decide (id = peer)) (ht : t.core = x.core)
    (htrying : x.isStarting = true) (hxstop : x.isStopping = false)
    (hout : x.cooperateState ≠ .stateOut)
    (hagree : Agree x.cooperateState y.cooperateState) (hy : Sound y)
    (hystart : y.isStarting = true) (hystop : y.isStopping = false)
    (htells : isSuccess = true → remoteNetworkId = peer)
    (hcore : x'.core = (t.onStartFinish env c.attempt isSuccess remoteNetworkId dev).core) :
    EndsWith d other x x' y := by
  have hstate : t.cooperateState = x.cooperateState := congrArg Core.cooperateState ht
  have hstarting : t.isStarting = x.isStarting := congrArg Core.isStarting ht
  have hstopping : t.isStopping = x.isStopping := congrArg Core.isStopping ht
  have hsent : t.sent = x.sent := congrArg Core.sent ht
  have hcases := t.onStartFinish_cases env c.attempt isSuccess remoteNetworkId dev
  generalize t.onStartFinish env c.attempt isSuccess remoteNetworkId dev = u at hcases hcore
  have hustate : x'.cooperateState = u.cooperateState := congrArg Core.cooperateState hcore
  have hustarting : x'.isStarting = u.isStarting := congrArg Core.isStarting hcore
  have hustopping : x'.isStopping = u.isStopping := congrArg Core.isStopping hcore
  have husent : x'.sent = u.sent := congrArg Core.sent hcore
  have hyin : y.cooperateState ≠ .stateIn := by
    intro hin
    rw [hin] at hagree
    exact hout (out_of_agree (agree_symm hagree))
  cases hcases with
  | dropped hs =>
    rw [hstarting, htrying] at hs
    cases hs
  | failed _ =>
    have hstop : x'.isStopping = false := hustopping.trans (hstopping.trans hxstop)
    have hstart : x'.isStarting = false := hustarting
    have hsame : x'.cooperateState = x.cooperateState := hustate.trans hstate
    rcases outbox_cases hsends t.sent remoteNetworkId
        (.startRemoteCooperateResult false "" 0 0) with hnew | ⟨hnone, _⟩
    · refine ⟨[(remoteNetworkId, .startRemoteCooperateResult false "" 0 0)],
        by rw [husent, ← hsent]; exact hnew, ?_⟩
      obtain ⟨hystate, hrest⟩ := atRest_startFailed hy hystart hystop hyin
      rw [received_startResult, hsame, hystate]
      exact ⟨hagree, hstop, by simp [hstart], hrest⟩
    · refine ⟨[], by rw [husent, ← hsent, List.append_nil]; exact hnone, ?_⟩
      rw [hsame]
      exact ⟨hagree, hstop, by simp [hstart], ⟨hy, hystop, fun _ => hyin⟩⟩
  | free _ hfree =>
    obtain rfl := htells rfl
    have hxfree : x.cooperateState = .stateFree := hstate.symm.trans hfree
    have hyfree : y.cooperateState = .stateFree := free_of_agree (by rwa [hxfree] at hagree)
    refine ⟨[(remoteNetworkId, .startRemoteCooperateResult true (env.getDhid dev)
      t.mouseLocation.1 t.mouseLocation.2)], ?_, ?_⟩
    · rw [husent, ← hsent]
      exact outbox_peer hsends t.sent _
    · have hxout : x'.cooperateState = .stateOut := hustate
      have hxstop' : x'.isStopping = false := hustopping.trans (hstopping.trans hxstop)
      have hxstart' : x'.isStarting = false := hustarting
      obtain ⟨⟨_, hyin'⟩ | ⟨hyout, _⟩, hrest⟩ := atRest_started hystart hystop hyin
        (env.getDhid dev) t.mouseLocation.1 t.mouseLocation.2 rfl
      · rw [received_startResult, hxout, hyin']
        exact ⟨trivial, hxstop', by simp [hxstart'], hrest⟩
      · rw [hyfree] at hyout
        cases hyout
  | @into sent _ hin hsentcases =>
    obtain rfl := htells rfl
    have hxin : x.cooperateState = .stateIn := hstate.symm.trans hin
    have hyout : y.cooperateState = .stateOut := out_of_agree (by rwa [hxin] at hagree)
    have hone : sent = t.startSent env remoteNetworkId dev := by
      rcases hsentcases with hone | ⟨hne, hother⟩
      · exact hone
      · rw [hother]
        rcases outbox_cases hsends (t.startSent env remoteNetworkId dev)
          (env.getOriginNetworkId dev) (.startCooperateOtherResult remoteNetworkId) with
          hnew | ⟨hnone, _⟩
        · have hsend : env.sends (env.getOriginNetworkId dev) = false := by
            rw [hsends]
            exact decide_eq_false fun h => hne h.symm
          simp [CooperateSM.outbox, hsend] at hnew
        · exact hnone
    refine ⟨[(remoteNetworkId, .startRemoteCooperateResult true (env.getDhid dev)
      t.mouseLocation.1 t.mouseLocation.2)], ?_, ?_⟩
    · rw [husent, ← hsent]
      exact hone.trans (outbox_peer hsends t.sent _)
    · have hxfree : x'.cooperateState = .stateFree := hustate
      have hxstop' : x'.isStopping = false := hustopping
      have hxstart' : x'.isStarting = false := hustarting
      obtain ⟨⟨hyfree, _⟩ | ⟨_, hyfree'⟩, hrest⟩ := atRest_started hystart hystop hyin
        (env.getDhid dev) t.mouseLocation.1 t.mouseLocation.2 rfl
      · rw [hyout] at hyfree
        cases hyfree
      · rw [received_startResult, hxfree, hyfree']
        exact ⟨trivial, hxstop', by simp [hxstart'], hrest⟩
  | out _ hstateOut => exact absurd (hstate.symm.trans hstateOut) hout

/-- A stop comes to its end with success. -/
theorem ends_stop {t : CooperateSM} {isSuccess : Bool} {remoteNetworkId : String}
    (hsends : ∀ id, env.sends id = decide (id = peer)) (ht : t.core = x.core)
    (htrying : x.isStopping = true) (hfree : x.cooperateState ≠ .stateFree)
    (hystop : y.isStopping = true) (htells : remoteNetworkId = peer)
    (hcore : x'.core = (t.onStopFinish env c.attempt isSuccess remoteNetworkId).core)
    (hnofail : NoStopFails x x') : EndsWith d other x x' y := by
  obtain rfl := htells
  have hstate : t.cooperateState = x.cooperateState := congrArg Core.cooperateState ht
  have hstarting : t.isStarting = x.isStarting := congrArg Core.isStarting ht
  have hstopping : t.isStopping = x.isStopping := congrArg Core.isStopping ht
  have hsent : t.sent = x.sent := congrArg Core.sent ht
  have hcases := t.onStopFinish_cases env c.attempt isSuccess remoteNetworkId
  generalize t.onStopFinish env c.attempt isSuccess remoteNetworkId = u at hcases hcore
  have hustate : x'.cooperateState = u.cooperateState := congrArg Core.cooperateState hcore
  have hustarting : x'.isStarting = u.isStarting := congrArg Core.isStarting hcore
  have hustopping : x'.isStopping = u.isStopping := congrArg Core.isStopping hcore
  have husent : x'.sent = u.sent := congrArg Core.sent hcore
  have htold : ∀ isSuccess, u.sent = CooperateSM.outbox env t.sent remoteNetworkId
      (.stopRemoteCooperateResult isSuccess) →
      x'.sent = x.sent ++ [(remoteNetworkId, .stopRemoteCooperateResult isSuccess)] := by
    intro isSuccess h
    rw [husent, h, outbox_peer hsends, hsent]
  cases hcases with
  | dropped hs =>
    rw [hstopping, htrying] at hs
    cases hs
  | failed _ =>
    have hnew : (remoteNetworkId, Message.stopRemoteCooperateResult false)
        ∈ x'.sent.drop x.sent.length := by
      rw [htold false rfl, List.drop_left]
      exact List.mem_singleton_self _
    exact absurd rfl (hnofail _ hnew)
  | free _ hstateFree => exact absurd (hstate.symm.trans hstateFree) hfree
  | ended _ _ =>
    refine ⟨_, htold true rfl, ?_⟩
    rw [received_stopResult]
    have hxfree : x'.cooperateState = .stateFree := hustate
    have hresult := y.stopRemoteCooperateResult_cases true
    generalize y.handleSessionData 0 _ = y' at hresult
    cases hresult with
    | ignored hs => rw [hystop] at hs; cases hs
    | ended _ =>
      rw [resetOf_free _ _ rfl]
      refine ⟨by rw [hxfree]; trivial, hustopping, fun _ => by rw [hxfree]; decide,
        ⟨⟨rfl, fun h => nomatch h⟩, rfl, fun h => nomatch h⟩⟩

/-! ## A continuation of the side that has an attempt -/

/-- What a continuation leads to: the machine has sent some messages, and with what arrives of
them the other side agrees. -/
def Continues (d : Devices) (other : Side) (peer : String) (origin : String → String)
    (x x' y : CooperateSM) : Prop :=
  ∃ messages, x'.sent = x.sent ++ messages ∧
    Agree x'.cooperateState (received d other y (arrivals messages)).cooperateState ∧
    Phase peer origin x' (received d other y (arrivals messages))

/-- The attempt has ended, and what is left to run changes nothing. -/
theorem EndsWith.continues (h : EndsWith d other x x' y) (hsound : Sound x')
    (hquiet : x'.isStarting = true → StopsOnly x') : Continues d other peer origin x x' y := by
  obtain ⟨messages, hsent, hagree, hstop, hstart, hrest⟩ := h
  exact ⟨messages, hsent, hagree, .ended ⟨hsound, hstop, hstart⟩ hrest hquiet⟩

/-- A continuation of a start. -/
theorem continues_start (hsends : ∀ id, env.sends id = decide (id = peer))
    (hagree : Agree x.cooperateState y.cooperateState) (h : Attempting peer origin .start x)
    (hx : Sound x) (hxstop : x.isStopping = false) (hy : Sound y) (hystart : y.isStarting = true)
    (hystop : y.isStopping = false) (hsound : Sound x')
    (hgoes : Goes peer origin .start env c x x') : Continues d other peer origin x x' y := by
  have hxstart : x.isStarting = true := h.trying
  cases hgoes with
  | on hcore hcurrent hattempt =>
    have hstate : x'.cooperateState = x.cooperateState := congrArg Core.cooperateState hcore
    have hstopping : x'.isStopping = x.isStopping := congrArg Core.isStopping hcore
    refine ⟨[], by rw [List.append_nil]; exact congrArg Core.sent hcore, ?_, ?_⟩
    · rw [hstate]
      exact hagree
    · exact .starting hattempt hsound (hstopping.trans hxstop) hy hystart hystop
  | @ends t e ht he htells hcore =>
    cases e with
    | startFinish isSuccess remoteNetworkId dev =>
      have hout : x.cooperateState ≠ .stateOut := fun hout => h.able (hx.kind.trans hout)
      refine (ends_start (c := c) hsends ht hxstart hxstop hout hagree hy hystart hystop htells
        hcore).continues hsound fun hs => ?_
      have hcleared : x'.core.Trying .start = false := by
        rw [hcore]
        exact trying_of_finishes env c he
      exact absurd hs (by simpa [Core.Trying, CooperateSM.core] using hcleared)
    | _ => cases he

/-- A continuation of a stop. -/
theorem continues_stop (hsends : ∀ id, env.sends id = decide (id = peer))
    (hagree : Agree x.cooperateState y.cooperateState) (h : Attempting peer origin .stop x)
    (hx : Sound x) (hxstart : x.isStarting = true → x.cooperateState ≠ .stateIn) (hy : Sound y)
    (hystart : y.isStarting = true → y.cooperateState ≠ .stateIn) (hystop : y.isStopping = true)
    (hsound : Sound x') (hquiet : x'.isStarting = true → StopsOnly x')
    (hnofail : NoStopFails x x') (hgoes : Goes peer origin .stop env c x x') :
    Continues d other peer origin x x' y := by
  cases hgoes with
  | on hcore hcurrent hattempt =>
    have hstate : x'.cooperateState = x.cooperateState := congrArg Core.cooperateState hcore
    have hstarting : x'.isStarting = x.isStarting := congrArg Core.isStarting hcore
    refine ⟨[], by rw [List.append_nil]; exact congrArg Core.sent hcore, ?_, ?_⟩
    · rw [hstate]
      exact hagree
    · refine .stopping hattempt hsound (fun hs => ?_) hy hystart hystop
      rw [hstate]
      exact hxstart (hstarting.symm.trans hs)
  | @ends t e ht he htells hcore =>
    cases e with
    | stopFinish isSuccess remoteNetworkId =>
      have hfree : x.cooperateState ≠ .stateFree := by
        intro hfree
        have hkind := hx.kind.trans hfree
        rcases h.able with hout | ⟨hin, _⟩
        · rw [hkind] at hout
          cases hout
        · rw [hkind] at hin
          cases hin
      exact (ends_stop (c := c) hsends ht h.trying hfree hystop htells hcore hnofail).continues
        hsound hquiet
    | _ => cases he

/-- A start that is left over at an out object goes with stops only. -/
theorem Attempting.stopsOnly (h : Attempting peer origin .stop x) (hstart : x.isStarting = true) :
    StopsOnly x := by
  have hout : x.current.kind = .stateOut := by
    rcases h.able with hout | ⟨_, hnot⟩
    · exact hout
    · rw [hstart] at hnot
      cases hnot
  refine ⟨fun item hitem => ?_, fun type saved hsaved => ?_⟩
  · obtain ⟨hobject, hleads⟩ := h.led.tasks item hitem
    refine ⟨by rw [hobject]; exact hout, ?_⟩
    cases htask : item.2 <;> rw [htask] at hleads <;> first | rfl | exact absurd hleads id
  · obtain ⟨c, callback, heq, hobject, hleads⟩ := h.led.callbacks type saved hsaved
    cases callback with
    | onStopRemoteInput remoteNetworkId dev =>
      exact ⟨c, remoteNetworkId, dev, heq, by rw [hobject]; exact hout⟩
    | onPrepareDistributedInput _ _ => exact absurd hleads id
    | onStartRemoteInput _ _ => exact absurd hleads id

/-- What is left to run when the attempt is over keeps all that the other side can see. -/
theorem continues_ended {es : List Effect} {kind : AttemptKind}
    (hagree : Agree x.cooperateState y.cooperateState) (hx : AtRest x) (hy : AtRest y)
    (hes : ∀ e ∈ es, e.OfKind kind) (hkind : x.isStarting = true → kind = .stop)
    (hsame : s.core = x.core) (hsound : Sound s)
    (hquiet : x.isStarting = true → StopsOnly (applyEffects env c s es)) :
    Continues d other peer origin x (applyEffects env c s es) y := by
  have hnot : s.core.Trying kind = false := by
    rw [hsame]
    cases kind with
    | stop => exact hx.isStopping
    | start =>
      cases hstart : x.isStarting with
      | false => exact hstart
      | true => cases hkind hstart
  have hcore : (applyEffects env c s es).core = x.core :=
    (core_applyEffects_of_not_trying env c hes hnot).trans hsame
  have hstate : (applyEffects env c s es).cooperateState = x.cooperateState :=
    congrArg Core.cooperateState hcore
  have hstarting : (applyEffects env c s es).isStarting = x.isStarting :=
    congrArg Core.isStarting hcore
  have hstopping : (applyEffects env c s es).isStopping = x.isStopping :=
    congrArg Core.isStopping hcore
  refine ⟨[], by rw [List.append_nil]; exact congrArg Core.sent hcore, ?_, ?_⟩
  · rw [hstate]
    exact hagree
  · refine .ended ⟨hsound.applyEffects es, hstopping.trans hx.isStopping, fun hs => ?_⟩ hy
      fun hs => ?_
    · rw [hstate]
      exact hx.isStarting (hstarting.symm.trans hs)
    · exact hquiet (hstarting.symm.trans hs)

/-! ## What the side runs -/

/-- No effect sets the flag of a start. -/
theorem isStarting_applyEffect {e : Effect} (h : (applyEffect env c s e).isStarting = true) :
    s.isStarting = true := by
  cases e with
  | prepared networkIds => exact h
  | saved type callback => exact h
  | posted task =>
    have hcore : (applyEffect env c s (.posted task)).core = s.core := core_post c s task
    exact (congrArg Core.isStarting hcore).symm.trans h
  | startFinish isSuccess remoteNetworkId dev =>
    have hcleared : (InputDeviceCooperate.applyEffect env c s
        (.startFinish isSuccess remoteNetworkId dev)).core.Trying .start = false :=
      trying_of_finishes env c rfl
    simp only [Core.Trying, CooperateSM.core, h] at hcleared
    cases hcleared
  | stopFinish isSuccess remoteNetworkId =>
    have hcases := s.onStopFinish_cases env c.attempt isSuccess remoteNetworkId
    simp only [InputDeviceCooperate.applyEffect] at h
    generalize s.onStopFinish env c.attempt isSuccess remoteNetworkId = s' at hcases h
    cases hcases with
    | dropped => exact h
    | failed => exact h
    | free => exact h
    | ended => cases h

theorem isStarting_applyEffects {es : List Effect}
    (h : (applyEffects env c s es).isStarting = true) : s.isStarting = true := by
  induction es generalizing s with
  | nil => exact h
  | cons e es ih => exact isStarting_applyEffect (ih h)

theorem StopsOnly.task (h : StopsOnly x) {generation : Nat} {task : Task}
    (hfound : x.tasks.find? (fun t => t.1.object.generation = generation) = some (c, task)) :
    StopsOnly (InputDeviceCooperate.applyEffects env c
      { x with tasks := x.tasks.eraseP fun t => t.1.object.generation = generation }
      (taskEffects env c x.preparedNetworkId task)) := by
  obtain ⟨hobject, hkind⟩ := h.tasks _ (List.mem_of_find?_eq_some hfound)
  have hrest : StopsOnly
      { x with tasks := x.tasks.eraseP fun t => t.1.object.generation = generation } :=
    h.of_sublist List.eraseP_sublist rfl
  exact hrest.applyEffects hobject (stops_task _ hkind hobject)

theorem StopsOnly.emptied (h : StopsOnly x) (type : CallbackType) :
    StopsOnly { x with callbackMap := Function.update x.callbackMap type none } := by
  refine ⟨h.tasks, fun type' saved hsaved => h.callbacks type' saved ?_⟩
  have hupdated : Function.update x.callbackMap type none type' = some saved := hsaved
  by_cases hsame : type' = type
  · rw [hsame, Function.update_self] at hupdated
    cases hupdated
  · rwa [Function.update_of_ne hsame] at hupdated

/-- What the callbacks of stops call. -/
theorem StopsOnly.callback (env : Surroundings) (h : StopsOnly x) {type : CallbackType}
    {callback : DInputCallback} (hsaved : x.callbackMap type = some (some (c, callback)))
    (isStarting isStopping isSuccess : Bool) :
    ∀ e ∈ callbackEffects env c isStarting isStopping isSuccess callback,
      e.Stops ∧ e.OfKind .stop := by
  obtain ⟨c', remoteNetworkId, dev, heq, hobject⟩ := h.callbacks type _ hsaved
  cases heq
  exact stops_callback isStarting isStopping isSuccess remoteNetworkId dev hobject

/-- A task of the side is run. -/
theorem Phase.runTask (hsends : ∀ id, env.sends id = decide (id = peer))
    (horigin : ∀ dhid, env.getOriginNetworkIdOf dhid = origin dhid)
    (hagree : Agree x.cooperateState y.cooperateState) (h : Phase peer origin x y)
    (generation : Nat) (hnofail : NoStopFails x (x.runTask env generation)) :
    Continues d other peer origin x (x.runTask env generation) y := by
  rcases runTask_eq env x generation with heq | ⟨c, task, hfound, heq⟩
  · rw [heq]
    exact ⟨[], by simp, hagree, h⟩
  · rw [heq] at hnofail ⊢
    have hsound : Sound x → Sound
        { x with tasks := x.tasks.eraseP fun t => t.1.object.generation = generation } :=
      fun hx => ⟨hx.kind, hx.startDhid⟩
    cases h with
    | starting h hx hxstop hy hystart hystop =>
      exact continues_start hsends hagree h hx hxstop hy hystart hystop
        ((hsound hx).applyEffects _) (h.goes_task horigin hfound)
    | stopping h hx hxstart hy hystart hystop =>
      refine continues_stop hsends hagree h hx hxstart hy hystart hystop
        ((hsound hx).applyEffects _) (fun hs => ?_) hnofail (h.goes_task horigin hfound)
      have hstart := isStarting_applyEffects hs
      exact (h.stopsOnly hstart).task hfound
    | ended hx hy hquiet =>
      refine continues_ended hagree hx hy (taskEffects_ofKind env c x.preparedNetworkId task)
        (fun hs => ?_) rfl (hsound hx.sound) fun hs => (hquiet hs).task hfound
      exact ((hquiet hs).tasks _ (List.mem_of_find?_eq_some hfound)).2

/-- A callback of the side is called. -/
theorem Phase.processDInputCallback (hsends : ∀ id, env.sends id = decide (id = peer))
    (hagree : Agree x.cooperateState y.cooperateState) (h : Phase peer origin x y)
    (type : CallbackType) (isSuccess : Bool)
    (hnofail : NoStopFails x (x.processDInputCallback env type isSuccess)) :
    Continues d other peer origin x (x.processDInputCallback env type isSuccess) y := by
  have hsound : Sound x → Sound
      { x with callbackMap := Function.update x.callbackMap type none } :=
    fun hx => ⟨hx.kind, hx.startDhid⟩
  rcases processDInputCallback_eq env x type isSuccess with
    heq | ⟨heq, hempty⟩ | ⟨c, callback, hsaved, heq⟩
  · rw [heq]
    exact ⟨[], by simp, hagree, h⟩
  · rw [heq]
    cases h with
    | starting h =>
      obtain ⟨_, _, hsome, _⟩ := h.led.callbacks type _ hempty
      cases hsome
    | stopping h =>
      obtain ⟨_, _, hsome, _⟩ := h.led.callbacks type _ hempty
      cases hsome
    | ended hx hy hquiet =>
      exact ⟨[], by simp, hagree, .ended ⟨hsound hx.sound, hx.isStopping, hx.isStarting⟩ hy
        fun hs => (hquiet hs).emptied type⟩
  · rw [heq] at hnofail ⊢
    cases h with
    | starting h hx hxstop hy hystart hystop =>
      exact continues_start hsends hagree h hx hxstop hy hystart hystop
        ((hsound hx).applyEffects _) (h.goes_callback isSuccess hsaved)
    | stopping h hx hxstart hy hystart hystop =>
      refine continues_stop hsends hagree h hx hxstart hy hystart hystop
        ((hsound hx).applyEffects _) (fun hs => ?_) hnofail
        (h.goes_callback isSuccess hsaved)
      have hstart := isStarting_applyEffects hs
      have hstops := h.stopsOnly hstart
      obtain ⟨_, _, _, hcallback, hobject⟩ := hstops.callbacks type _ hsaved
      cases hcallback
      exact (hstops.emptied type).applyEffects hobject fun e he =>
        (hstops.callback env hsaved x.isStarting x.isStopping isSuccess e he).1
    | ended hx hy hquiet =>
      by_cases hstart : x.isStarting = true
      · have hstops := hquiet hstart
        obtain ⟨_, _, _, hcallback, hobject⟩ := hstops.callbacks type _ hsaved
        cases hcallback
        have hes := hstops.callback env hsaved x.isStarting x.isStopping isSuccess
        exact continues_ended hagree hx hy (fun e he => (hes e he).2) (fun _ => rfl) rfl
          (hsound hx.sound) fun _ =>
            (hstops.emptied type).applyEffects hobject fun e he => (hes e he).1
      · exact continues_ended hagree hx hy
          (callbackEffects_ofKind env c x.isStarting x.isStopping isSuccess callback)
          (fun hs => (hstart hs).elim) rfl (hsound hx.sound) fun hs => (hstart hs).elim

/-! ## A request of a side -/

theorem continues_refl (hagree : Agree x.cooperateState y.cooperateState)
    (h : Phase peer origin x y) : Continues d other peer origin x x y :=
  ⟨[], by simp, hagree, h⟩

theorem nothing_of_not_pending (h : ¬ x.Pending) :
    x.tasks = [] ∧ ∀ type, x.callbackMap type = none := by
  simpa [CooperateSM.Pending, not_or] using h

/-- An attempt of which a single task is there so far. -/
theorem led_single (origin : String → String) (kind : AttemptKind) {task : Task}
    (htasks : x'.tasks = [(c, task)])
    (hcallbacks : ∀ type, x'.callbackMap type = none) (hobject : c.object = x'.current)
    (h : task.Leads peer origin x'.preparedNetworkId x'.current kind) :
    Led peer origin kind x' ∧ x'.Pending := by
  refine ⟨⟨fun item hitem => ?_, fun type saved hsaved => ?_⟩, .inl (by simp [htasks])⟩
  · rw [htasks, List.mem_singleton] at hitem
    rw [hitem]
    exact ⟨hobject, h⟩
  · rw [hcallbacks] at hsaved
    cases hsaved

theorem continues_started (hsends : ∀ id, env.sends id = decide (id = peer)) {dev : Int32}
    {remoteNetworkId : String}
    (hagree : Agree x.cooperateState y.cooperateState) (hx : AtRest x) (hy : AtRest y)
    (hidle : ¬ x.Pending) (h : x.AcceptsStart env remoteNetworkId) :
    Continues d other peer origin x (x.started env remoteNetworkId dev) y := by
  obtain ⟨htasks, hcallbacks⟩ := nothing_of_not_pending hidle
  obtain ⟨_, hkind, _, _, _, hsend⟩ := h
  have hremote : remoteNetworkId = peer := of_decide_eq_true ((hsends _).symm.trans hsend)
  have hnew : (x.started env remoteNetworkId dev).tasks
      = [(⟨x.current, x.nextAttempt⟩, .processStart remoteNetworkId dev)] := by
    simp [CooperateSM.started, htasks]
  obtain ⟨hled, hpending⟩ := led_single origin .start hnew hcallbacks rfl hremote
  exact ⟨_, rfl, hagree, .starting ⟨rfl, hkind, hled, hpending⟩
    ⟨hx.sound.kind, hx.sound.startDhid⟩ hx.isStopping ⟨hy.sound.kind, hy.sound.startDhid⟩ rfl
    hy.isStopping⟩

theorem continues_stopped (hsends : ∀ id, env.sends id = decide (id = peer))
    (horigin : ∀ dhid, env.getOriginNetworkIdOf dhid = origin dhid) (hpeer : peer ≠ "")
    (hagree : Agree x.cooperateState y.cooperateState) (hx : AtRest x) (hy : AtRest y)
    (hidle : ¬ x.Pending) (h : x.AcceptsStop env (x.stopNetworkId env)) :
    Continues d other peer origin x
      (x.stopped (x.stopNetworkId env) (x.stopSource (x.stopNetworkId env))) y := by
  obtain ⟨htasks, hcallbacks⟩ := nothing_of_not_pending hidle
  obtain ⟨hkind, hsend⟩ := h
  have hremote : x.stopNetworkId env = peer := of_decide_eq_true ((hsends _).symm.trans hsend)
  have hstate : x.cooperateState = x.current.kind := hx.sound.kind.symm
  have hnew : (x.stopped (x.stopNetworkId env) (x.stopSource (x.stopNetworkId env))).tasks
      = [(⟨x.current, x.nextAttempt⟩, .processStop (x.stopSource (x.stopNetworkId env)))] := by
    simp [CooperateSM.stopped, htasks]
  have hleads : (Task.processStop (x.stopSource (x.stopNetworkId env))).Leads peer origin
      x.preparedNetworkId x.current .stop := by
    cases hobject : x.current.kind with
    | stateFree => exact absurd hobject hkind
    | stateIn =>
      have hin : x.cooperateState = .stateIn := hstate.trans hobject
      simp only [Task.Leads, hobject]
      rw [← horigin, hx.sound.startDhid hin, ← hremote]
      simp [CooperateSM.stopNetworkId, hin]
    | stateOut =>
      simp only [Task.Leads, hobject, CooperateSM.stopSource, hremote]
      rw [if_neg (by simpa using hpeer)]
  obtain ⟨hled, hpending⟩ := led_single origin .stop hnew hcallbacks rfl hleads
  have hable : (x.stopped (x.stopNetworkId env) (x.stopSource (x.stopNetworkId env))).CanBeIn
      .stop := by
    cases hobject : x.current.kind with
    | stateFree => exact absurd hobject hkind
    | stateIn =>
      have hin : x.cooperateState = .stateIn := hstate.trans hobject
      exact .inr ⟨hobject, by simpa [CooperateSM.stopped] using fun hs => hx.isStarting hs hin⟩
    | stateOut => exact .inl hobject
  exact ⟨_, rfl, hagree, .stopping ⟨rfl, hable, hled, hpending⟩
    ⟨hx.sound.kind, hx.sound.startDhid⟩ hx.isStarting ⟨hy.sound.kind, hy.sound.startDhid⟩
    hy.isStarting rfl⟩

/-- A request of a side, when nothing is under way. -/
theorem continues_request (hsends : ∀ id, env.sends id = decide (id = peer))
    (horigin : ∀ dhid, env.getOriginNetworkIdOf dhid = origin dhid) (hpeer : peer ≠ "")
    (hagree : Agree x.cooperateState y.cooperateState) (hx : AtRest x) (hy : AtRest y)
    (hidle : ¬ x.Pending) {input : LocalInput} (h : input.isRequest = true) :
    Continues d other peer origin x (x.step ⟨env, input.input⟩) y := by
  have hrest : Continues d other peer origin x x y := by
    refine continues_refl hagree (.ended hx hy fun _ => ?_)
    obtain ⟨htasks, hcallbacks⟩ := nothing_of_not_pending hidle
    exact ⟨by simp [htasks], by simp [hcallbacks]⟩
  have hstop : Continues d other peer origin x (x.stopCurrent env (x.stopNetworkId env)).2 y := by
    rcases x.stopCurrent_eq env (x.stopNetworkId env) hx.isStopping with heq | ⟨haccepts, heq⟩
    · rw [heq]
      exact hrest
    · rw [heq]
      exact continues_stopped hsends horigin hpeer hagree hx hy hidle haccepts
  cases input with
  | startInputDeviceCooperate remoteNetworkId dev =>
    simp only [LocalInput.input, CooperateSM.step, CooperateSM.startInputDeviceCooperate_eq]
    split
    · rename_i haccepts
      exact continues_started hsends hagree hx hy hidle haccepts
    · exact hrest
  | stopInputDeviceCooperate =>
    simp only [LocalInput.input, CooperateSM.step, CooperateSM.stopInputDeviceCooperate_eq]
    split
    · exact hrest
    · exact hstop
  | checkPointerEvent deviceId isRemote =>
    simp only [LocalInput.input, CooperateSM.step]
    rcases x.checkPointerEvent_eq env deviceId isRemote with heq | ⟨_, _, heq⟩
    · rw [heq]
      exact hrest
    · rw [heq]
      exact hstop
  | runTask _ => cases h
  | processDInputCallback _ _ => cases h

/-! ## A step of the pair -/

variable {p : Pair} {side : Side}

theorem Side.eq_or_other (a b : Side) : a = b ∨ a = b.other := by
  cases a <;> cases b <;> decide

theorem received_append (machine : CooperateSM) (old new : List Arrival) :
    received d side machine (old ++ new) = received d side (received d side machine old) new :=
  List.foldl_append

theorem arrivals_append (old new : List (String × Message)) :
    arrivals (old ++ new) = arrivals old ++ arrivals new :=
  List.flatMap_append

theorem sends_surroundings (accepts : CallbackType → Bool) (mouseLocation : Option (Int32 × Int32))
    (id : String) :
    (d.surroundings side accepts mouseLocation).sends id = decide (id = d.id side.other) := rfl

theorem not_pending_renew (h : ¬ x.Pending) (kind : CooperateState) : ¬ (x.renew kind).Pending := by
  obtain ⟨htasks, hcallbacks⟩ := nothing_of_not_pending h
  simp [CooperateSM.Pending, CooperateSM.renew, htasks, hcallbacks]

/-- A message that is taken adds nothing to what is sent and to what is left to run. -/
theorem onBytesReceived_idle (message : Message) :
    (x.onBytesReceived 0 message).sent = x.sent ∧
      (¬ x.Pending → ¬ (x.onBytesReceived 0 message).Pending) := by
  have hrenewed : ∀ (t : CooperateSM) (kind : CooperateState), ¬ t.Pending →
      ¬ (t.renew kind).Pending := fun _ kind h => not_pending_renew h kind
  have heq : x.onBytesReceived 0 message = x.handleSessionData 0 message := by
    simp [CooperateSM.onBytesReceived]
  rw [heq]
  cases message with
  | startRemoteCooperate _ => exact ⟨rfl, id⟩
  | stopRemoteCooperate => exact ⟨rfl, id⟩
  | startCooperateOtherResult _ => exact ⟨rfl, id⟩
  | startRemoteCooperateResult isSuccess startDhid xPercent yPercent =>
    have hcases := x.startRemoteCooperateResult_cases isSuccess startDhid xPercent yPercent
    generalize x.handleSessionData 0 _ = x' at hcases
    cases hcases with
    | ignored => exact ⟨rfl, id⟩
    | failed => exact ⟨rfl, id⟩
    | into => exact ⟨rfl, hrenewed { x with startDhid } .stateIn⟩
    | back => exact ⟨rfl, hrenewed { x with startDhid, srcNetworkId := "" } .stateFree⟩
  | stopRemoteCooperateResult isSuccess =>
    have hcases := x.stopRemoteCooperateResult_cases isSuccess
    generalize x.handleSessionData 0 _ = x' at hcases
    cases hcases with
    | ignored => exact ⟨rfl, id⟩
    | failed => exact ⟨rfl, id⟩
    | ended => exact ⟨rfl, hrenewed { x with startDhid := "", srcNetworkId := "" } .stateFree⟩

/-- Nor does a session that is closed. -/
theorem takes_idle (d : Devices) (side : Side) (x : CooperateSM) (arrival : Arrival) :
    (d.takes side x arrival).sent = x.sent ∧
      (¬ x.Pending → ¬ (d.takes side x arrival).Pending) := by
  cases arrival with
  | bytes message => exact onBytesReceived_idle message
  | closed =>
    rw [Devices.takes]
    obtain heq | heq := resetOf_cases (y := x) (d.surroundings side (fun _ => true) none)
      (d.id side.other)
    · rw [heq]
      exact ⟨rfl, fun h => not_pending_renew (x := { x with
        preparedNetworkId := ("", ""), startDhid := "", srcNetworkId := "" }) h .stateFree⟩
    · rw [heq]
      exact ⟨rfl, id⟩

/-- The side that has something under way goes on. -/
theorem Initiates.continued (h : Initiates d p side)
    (hcontinues : Continues d side.other (d.id side.other) (d.origin side) (p.machine side) x'
      (p.caughtUp d side.other)) :
    Initiates d { p with machine := Function.update p.machine side x' } side := by
  obtain ⟨messages, hsent, hagree, hphase⟩ := hcontinues
  have hother : Function.update p.machine side x' side.other = p.machine side.other :=
    Function.update_of_ne side.other_ne _ _
  have hflight : Pair.inFlight { p with machine := Function.update p.machine side x' } side
      = p.inFlight side ++ arrivals messages := by
    simp only [Pair.inFlight, Function.update_self, hsent, arrivals_append]
    exact List.drop_append_of_le_length (h.delivered side)
  have hcaught : Pair.caughtUp d { p with machine := Function.update p.machine side x' } side.other
      = received d side.other (p.caughtUp d side.other) (arrivals messages) := by
    simp only [Pair.caughtUp, Side.other_other, hother, hflight, received_append]
  refine ⟨fun which => ?_, ?_, ?_, ?_, ?_⟩
  · rcases which.eq_or_other side with rfl | rfl
    · simp only [Function.update_self, hsent, arrivals_append, List.length_append]
      exact Nat.le_add_right_of_le (h.delivered _)
    · simp only [hother]
      exact h.delivered _
  · simp only [Pair.inFlight, hother]
    exact h.silent
  · simp only [hother]
    exact h.idle
  · simp only [hcaught, Function.update_self]
    exact hagree
  · simp only [hcaught, Function.update_self]
    exact hphase

theorem Pair.Still.caughtUp (h : p.Still) (which : Side) :
    p.caughtUp d which = p.machine which := by
  rw [Pair.caughtUp, (h which.other).1]
  rfl

/-- When all is still, either side may be the next to begin. -/
theorem Initiates.turn (h : Initiates d p side) (hstill : p.Still) (which : Side) :
    Initiates d p which ∧ AtRest (p.machine which) ∧ AtRest (p.machine which.other) := by
  have hcaught := hstill.caughtUp (d := d)
  have hquiet : ∀ which, StopsOnly (p.machine which) := by
    intro which
    obtain ⟨htasks, hcallbacks⟩ := nothing_of_not_pending (hstill which).2
    exact ⟨by simp [htasks], by simp [hcallbacks]⟩
  have hrest : AtRest (p.machine side) ∧ AtRest (p.machine side.other) := by
    have hphase := h.phase
    rw [hcaught] at hphase
    cases hphase with
    | starting h => exact absurd h.pending (hstill side).2
    | stopping h => exact absurd h.pending (hstill side).2
    | ended hx hy => exact ⟨hx, hy⟩
  have hagree := h.agree
  rw [hcaught] at hagree
  rcases which.eq_or_other side with rfl | rfl
  · exact ⟨h, hrest⟩
  · rw [Side.other_other]
    refine ⟨⟨h.delivered, (hstill _).1, (hstill _).2, ?_, ?_⟩, hrest.2, hrest.1⟩
    · rw [hcaught, Side.other_other]
      exact agree_symm hagree
    · rw [hcaught, Side.other_other]
      exact .ended hrest.2 hrest.1 fun _ => hquiet _

/-- The first of what is under way from the side is taken. -/
theorem Initiates.delivers (h : Initiates d p side) {arrival : Arrival} {rest : List Arrival}
    (hflight : p.inFlight side = arrival :: rest) :
    Initiates d (p.step d (.deliver side)) side := by
  obtain ⟨hsent, hidle⟩ := takes_idle d side.other (p.machine side.other) arrival
  have hne : side ≠ side.other := side.other_ne.symm
  have hside : Function.update p.machine side.other
      (d.takes side.other (p.machine side.other) arrival) side = p.machine side :=
    Function.update_of_ne hne _ _
  have hcount : Function.update p.delivered side (p.delivered side + 1) side.other
      = p.delivered side.other :=
    Function.update_of_ne side.other_ne _ _
  have hlength : p.delivered side < (arrivals (p.machine side).sent).length := by
    refine lt_of_not_ge fun hge => ?_
    rw [Pair.inFlight, List.drop_eq_nil_of_le hge] at hflight
    cases hflight
  have hrest : (arrivals (p.machine side).sent).drop (p.delivered side + 1) = rest := by
    rw [← List.drop_drop, show (arrivals (p.machine side).sent).drop (p.delivered side)
      = arrival :: rest from hflight]
    rfl
  have hstep : p.step d (.deliver side) =
      { machine := Function.update p.machine side.other
          (d.takes side.other (p.machine side.other) arrival)
        delivered := Function.update p.delivered side (p.delivered side + 1) } := by
    simp only [Pair.step, hflight]
  have hcaught : Pair.caughtUp d (p.step d (.deliver side)) side.other
      = p.caughtUp d side.other := by
    simp only [hstep, Pair.caughtUp, Side.other_other, hflight]
    simp only [Pair.inFlight, Function.update_self, hside, hrest]
    rfl
  refine ⟨fun which => ?_, ?_, ?_, ?_, ?_⟩
  · rw [hstep]
    rcases which.eq_or_other side with rfl | rfl
    · simp only [hside, Function.update_self]
      exact hlength
    · simp only [hcount, Function.update_self, hsent]
      exact h.delivered _
  · rw [hstep]
    simp only [Pair.inFlight, hcount, Function.update_self, hsent]
    exact h.silent
  · rw [hstep]
    simp only [Function.update_self]
    exact hidle h.idle
  · rw [hcaught, hstep]
    simp only [hside]
    exact h.agree
  · rw [hcaught, hstep]
    simp only [hside]
    exact h.phase

/-- A task or a callback of a side. -/
theorem Initiates.goesOn (h : Initiates d p side) (accepts : CallbackType → Bool)
    (mouseLocation : Option (Int32 × Int32)) {input : LocalInput}
    (hinput : input.isRequest = false)
    (hnofail : NoStopFails (p.machine side) (p.acted d side accepts mouseLocation input)) :
    Continues d side.other (d.id side.other) (d.origin side) (p.machine side)
      (p.acted d side accepts mouseLocation input) (p.caughtUp d side.other) := by
  cases input with
  | runTask generation =>
    exact h.phase.runTask (sends_surroundings accepts mouseLocation) (fun _ => rfl) h.agree
      generation hnofail
  | processDInputCallback type isSuccess =>
    exact h.phase.processDInputCallback (sends_surroundings accepts mouseLocation) h.agree type
      isSuccess hnofail
  | startInputDeviceCooperate _ _ => cases hinput
  | stopInputDeviceCooperate => cases hinput
  | checkPointerEvent _ _ => cases hinput

/-- Nothing is left to run at the side. -/
theorem acted_idle (h : ¬ (p.machine side).Pending) (accepts : CallbackType → Bool)
    (mouseLocation : Option (Int32 × Int32)) {input : LocalInput}
    (hinput : input.isRequest = false) :
    p.acted d side accepts mouseLocation input = p.machine side := by
  obtain ⟨htasks, hcallbacks⟩ := nothing_of_not_pending h
  cases input with
  | runTask generation =>
    simp [Pair.acted, LocalInput.input, CooperateSM.step, CooperateSM.runTask, htasks]
  | processDInputCallback type isSuccess =>
    simp [Pair.acted, LocalInput.input, CooperateSM.step, CooperateSM.processDInputCallback,
      hcallbacks]
  | startInputDeviceCooperate _ _ => cases hinput
  | stopInputDeviceCooperate => cases hinput
  | checkPointerEvent _ _ => cases hinput

/-- What a step of the pair keeps. -/
theorem initiates_step (i : PairInput) (h : ∃ side, Initiates d p side) (hcalm : p.Calm d i) :
    ∃ side, Initiates d (p.step d i) side := by
  obtain ⟨side, h⟩ := h
  cases i with
  | deliver which =>
    rcases which.eq_or_other side with rfl | rfl
    · cases hflight : p.inFlight which with
      | nil =>
        refine ⟨which, ?_⟩
        simpa only [Pair.step, hflight] using h
      | cons arrival rest => exact ⟨which, h.delivers hflight⟩
    · refine ⟨side, ?_⟩
      simpa only [Pair.step, h.silent] using h
  | act which accepts mouseLocation input =>
    obtain ⟨hcalm, hnofail⟩ := hcalm
    have hsame : p.acted d which accepts mouseLocation input = p.machine which →
        ∃ side, Initiates d (p.step d (.act which accepts mouseLocation input)) side := by
      intro hsame
      refine ⟨side, ?_⟩
      simp only [Pair.step, hsame, Function.update_eq_self]
      exact h
    cases hinput : input.isRequest with
    | false =>
      rcases which.eq_or_other side with rfl | rfl
      · exact ⟨which, h.continued (h.goesOn accepts mouseLocation hinput hnofail)⟩
      · exact hsame (acted_idle h.idle accepts mouseLocation hinput)
    | true =>
      rcases hcalm hinput with hrefused | hstill
      · exact hsame hrefused
      · obtain ⟨hturn, hx, hy⟩ := h.turn hstill which
        have hagree := hturn.agree
        refine ⟨which, hturn.continued ?_⟩
        rw [hstill.caughtUp] at hagree ⊢
        exact continues_request (sends_surroundings accepts mouseLocation) (fun _ => rfl)
          (d.named _) hagree hx hy (hstill which).2 hinput

theorem initiates_create (keepsTasks : Side → Bool) :
    Initiates d (Pair.create keepsTasks) .left := by
  have hrest : ∀ keeps, AtRest (.init keeps) := fun _ => ⟨⟨rfl, fun h => nomatch h⟩, rfl,
    fun h => nomatch h⟩
  refine ⟨fun _ => Nat.zero_le _, rfl, ?_, trivial, .ended (hrest _) (hrest _) fun h => nomatch h⟩
  simp [Pair.create, CooperateSM.init, CooperateSM.Pending]

theorem Initiates.agrees (h : Initiates d p side) : p.Agrees d := by
  have hown : p.caughtUp d side = p.machine side := by
    simp [Pair.caughtUp, h.silent, received]
  have hagree := h.agree
  rw [← hown] at hagree
  have hcaught : Agree (p.caughtUp d .left).cooperateState
      (p.caughtUp d .right).cooperateState := by
    cases side with
    | left => exact hagree
    | right => exact agree_symm hagree
  refine ⟨hcaught, fun hstill => ?_⟩
  rwa [hstill.caughtUp, hstill.caughtUp] at hcaught

/-- When no request is accepted before the one before it has come to its end, and no stop fails,
the two sides agree once what is under way is taken. -/
theorem agrees_of_calm (d : Devices) (keepsTasks : Side → Bool) (is : List PairInput)
    (h : AllSteps (Pair.step d) (Pair.Calm d) (.create keepsTasks) is) :
    Always (Pair.step d) (Pair.Agrees d) (.create keepsTasks) is := by
  have hinv : Always (Pair.step d) (fun p => ∃ side, Initiates d p side) (.create keepsTasks) is :=
    always_of_allSteps (fun _ i => initiates_step i) is _ ⟨.left, initiates_create keepsTasks⟩ h
  exact hinv.mono fun _ ⟨_, hside⟩ => hside.agrees

/-! ## A run -/

def nameOf : Side → String
  | .left => "left"
  | .right => "right"

/-- Each of the two has one mouse, and sees that of the other. -/
def twoDevices : Devices where
  id := nameOf
  named := fun side => by cases side <;> decide
  inputDevice := fun side =>
    [(1, ⟨"", false, true, nameOf side, none⟩),
      (2, ⟨nameOf side.other, true, true, nameOf side.other, none⟩)]

def act (side : Side) (input : LocalInput) : PairInput := .act side (fun _ => true) none input

def startOf (side : Side) : PairInput :=
  act side (.startInputDeviceCooperate (twoDevices.id side.other) 1)

/-- What the side then runs, up to what the other side gets of it. -/
def restOf (side : Side) : List PairInput :=
  [act side (.runTask 0), act side (.processDInputCallback .prepareStartDInputCallbackSink true),
    act side (.runTask 0), act side (.processDInputCallback .startDInputCallbackSink true),
    act side (.runTask 0)]

/-- A side that is out stops, and the distributed input says how it went. -/
def stopOf (side : Side) (isSuccess : Bool) : List PairInput :=
  [act side .stopInputDeviceCooperate, act side (.runTask 1),
    act side (.processDInputCallback .stopDInputCallbackSink isSuccess), act side (.runTask 1)]

/-- The left side gives its mouse away, and takes it back. -/
def thereAndBack : List PairInput :=
  startOf .left :: restOf .left ++ [.deliver .left, .deliver .left] ++ stopOf .left true ++
    [.deliver .left, .deliver .left, .deliver .left]

theorem still_of {s : Pair} (hflight : ∀ side, s.inFlight side = [])
    (htasks : ∀ side, (s.machine side).tasks = [])
    (hcallbacks : ∀ side type, (s.machine side).callbackMap type = none) : s.Still :=
  fun side => ⟨hflight side, by simp [CooperateSM.Pending, htasks, hcallbacks]⟩

theorem agrees_of_calm_startOf :
    Always (Pair.step twoDevices) (Pair.Agrees twoDevices) (.create fun _ => true)
        thereAndBack ∧
      ((runFrom (Pair.step twoDevices) (.create fun _ => true)
        (startOf .left :: restOf .left)).machine .left).cooperateState = .stateOut := by
  refine ⟨agrees_of_calm twoDevices (fun _ => true) _ ?_, by decide +kernel⟩
  simp only [thereAndBack, startOf, restOf, stopOf, act, List.cons_append, List.nil_append,
    AllSteps, Pair.Calm, LocalInput.isRequest, forall_true_left, and_true, true_and, Bool.false_eq_true,
    false_imp_iff]
  refine ⟨⟨.inr (still_of ?_ ?_ ?_), ?_⟩, ?_, ?_, ?_, ?_, ?_, ⟨.inr (still_of ?_ ?_ ?_), ?_⟩, ?_,
    ?_, ?_⟩
  all_goals first | decide +kernel | (intro side; cases side <;> decide +kernel) |
    (intro side type; cases side <;> cases type <;> decide +kernel)

/-- Starts that cross: in the end each side has given its mouse away. -/
example :
    let s := runFrom (Pair.step twoDevices) (.create fun _ => true)
      ([startOf .left, startOf .right, .deliver .left, .deliver .right] ++ restOf .left ++
        restOf .right ++ [.deliver .left, .deliver .right])
    (s.machine .left).cooperateState = .stateOut ∧
      (s.machine .right).cooperateState = .stateOut := by
  decide +kernel

/-- A stop that fails: the side still has its mouse away, and the other one is free. -/
example :
    let s := runFrom (Pair.step twoDevices) (.create fun _ => true)
      (startOf .left :: restOf .left ++ [.deliver .left, .deliver .left] ++ stopOf .left false ++
        [.deliver .left, .deliver .left, .deliver .left])
    (s.machine .left).cooperateState = .stateOut ∧
      (s.machine .right).cooperateState = .stateFree := by
  decide +kernel

end FtMmi.InputDeviceCooperate
