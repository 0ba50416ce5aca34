/-
FtMmi.Client.KeyEventInputSubscribeManager — key subscriptions of a client
(`key_event_input_subscribe_manager.cpp`) and the way of a request to the
server (`multimodal_input_connect_proxy.cpp`,
`multimodal_input_connect_stub.cpp`, `server_msg_handler.cpp`).

The client keeps its subscriptions in a set ordered by the options. A
request is written to a parcel, which may refuse a value, and may fail to
reach the service: for the latter stand the descriptor of the interface,
the transport, the permission and the state of the service together.
-/
import FtMmi.KeySubscriber.KeyOptionParcel
import FtMmi.KeySubscriber.SubscriberTimers

namespace FtMmi.Client

open FtMmi.Event
open FtMmi.KeySubscriber
open FtMmi.Lib.TypedQueue
open FtMmi.Server

/-! ## The order of options -/

/-- The loop over two sets of pre-keys, and the test after it: whether the
first set is less, if they differ. -/
def preKeysLess : List Int32 → List Int32 → Option Bool
  | s :: ss, t :: ts => if s ≠ t then some (s < t) else preKeysLess ss ts
  | [], [] => none
  | [], _ :: _ => some true
  | _ :: _, [] => some false

/-- `operator<` of options. -/
def optionLess (first second : KeyOption) : Bool :=
  if first.finalKey ≠ second.finalKey then first.finalKey < second.finalKey
  else
    match preKeysLess first.preKeys.sort second.preKeys.sort with
    | some less => less
    | none =>
        if first.isFinalKeyDown && !second.isFinalKeyDown then false
        else if !first.isFinalKeyDown && second.isFinalKeyDown then true
        else first.finalKeyDownDuration < second.finalKeyDownDuration

/-- What the set takes for the same option. -/
def equivalent (first second : KeyOption) : Bool :=
  !optionLess first second && !optionLess second first

theorem preKeysLess_eq_none_iff : ∀ ss ts : List Int32, preKeysLess ss ts = none ↔ ss = ts
  | [], [] => by simp [preKeysLess]
  | [], _ :: _ => by simp [preKeysLess]
  | _ :: _, [] => by simp [preKeysLess]
  | s :: ss, t :: ts => by
      by_cases h : s = t
      · simp [preKeysLess, h, preKeysLess_eq_none_iff ss ts]
      · simp [preKeysLess, h]

/-- Two different sets of pre-keys are ordered one way. -/
theorem preKeysLess_swap : ∀ ss ts : List Int32,
    preKeysLess ts ss = (preKeysLess ss ts).map not
  | [], [] => rfl
  | [], _ :: _ => rfl
  | _ :: _, [] => rfl
  | s :: ss, t :: ts => by
      by_cases h : s = t
      · simp [preKeysLess, h, preKeysLess_swap ss ts]
      · have hle : (t < s) = ¬ s < t := by
          rw [Int32.not_lt, Int32.le_iff_lt_or_eq]
          simp [Ne.symm h]
        simp only [preKeysLess, ne_eq, h, Ne.symm h, not_false_eq_true, if_true, Option.map_some,
          hle, decide_not]

/-- The options differ at most in the delay after the final key is
released. -/
def SamePress (first second : KeyOption) : Prop :=
  first.finalKey = second.finalKey ∧ first.preKeys = second.preKeys ∧
    first.isFinalKeyDown = second.isFinalKeyDown ∧
    first.finalKeyDownDuration = second.finalKeyDownDuration

instance (first second : KeyOption) : Decidable (SamePress first second) :=
  inferInstanceAs (Decidable (_ ∧ _ ∧ _ ∧ _))

theorem int32_le_and_le_iff {a b : Int32} : a ≤ b ∧ b ≤ a ↔ a = b :=
  ⟨fun h => Int32.le_antisymm h.1 h.2, fun h => by simp [h]⟩

theorem equivalent_iff (first second : KeyOption) :
    equivalent first second = true ↔ SamePress first second := by
  by_cases hfinal : first.finalKey = second.finalKey
  · have hswap := preKeysLess_swap first.preKeys.sort second.preKeys.sort
    have hkeys := preKeysLess_eq_none_iff first.preKeys.sort second.preKeys.sort
    have hsort : first.preKeys.sort = second.preKeys.sort ↔ first.preKeys = second.preKeys := by
      refine ⟨fun h => ?_, fun h => by rw [h]⟩
      rw [← Finset.sort_toFinset first.preKeys (fun a b => a ≤ b), h, Finset.sort_toFinset]
    rw [hsort] at hkeys
    unfold equivalent optionLess SamePress
    rw [hswap]
    cases hless : preKeysLess first.preKeys.sort second.preKeys.sort with
    | some less =>
      -- One of the two sets is less.
      have hne : first.preKeys ≠ second.preKeys := fun h => by simp [hkeys.mpr h] at hless
      cases less <;> simp [hfinal, hne]
    | none =>
      have heq := hkeys.mp hless
      cases first.isFinalKeyDown <;> cases second.isFinalKeyDown <;>
        simp [hfinal, heq, and_comm, int32_le_and_le_iff]
  · have hne : ¬ (second.finalKey ≤ first.finalKey ∧ first.finalKey ≤ second.finalKey) := by
      rw [int32_le_and_le_iff]
      exact Ne.symm hfinal
    simpa [equivalent, optionLess, SamePress, hfinal, Ne.symm hfinal] using hne

/-! ## Requests -/

structure SubscribeKeyEventInfo where
  keyOption : KeyOption
  subscribeId : Int32

/-- What a call meets on its way: whether the client is initialised, what the
parcel takes, whether the request gets to the service and its result back. -/
structure SubscribeCall where
  initClient : Bool
  accepts : List ParcelValue → ParcelValue → Bool
  reaches : Bool
  replies : Bool

/-- `MultimodalInputConnectProxy::SubscribeKeyEvent` -/
def writeRequest (accepts : List ParcelValue → ParcelValue → Bool) (subscribeId : Int32)
    (keyOption : KeyOption) : ParcelM Unit := do
  enqueue accepts (.int32 subscribeId)
  keyOption.writeToParcel accepts

/-- `MultimodalInputConnectStub::StubSubscribeKeyEvent` -/
def readRequest : ParcelM (Int32 × KeyOption) := do
  let subscribeId ← readInt32
  let keyOption ← KeyOption.create.readFromParcel
  pure (subscribeId, keyOption)

/-- `ServerMsgHandler::OnSubscribeKeyEvent` -/
def onSubscribeKeyEvent (v : SubscriberService) (pid : Int) (subscribeId : Int32)
    (keyOption : KeyOption) : Bool × SubscriberService :=
  ((v.server.getSessionByPid pid).any fun sess =>
      (v.handler.subscribeKeyEvent sess subscribeId keyOption).1 = retOk,
    v.step (.onSubscribeKeyEvent pid subscribeId keyOption))

/-- `ServerMsgHandler::OnUnsubscribeKeyEvent` -/
def onUnsubscribeKeyEvent (v : SubscriberService) (pid : Int) (subscribeId : Int32) :
    Bool × SubscriberService :=
  ((v.server.getSessionByPid pid).any fun sess =>
      (v.handler.unsubscribeKeyEvent sess subscribeId).1 = retOk,
    v.step (.onUnsubscribeKeyEvent pid subscribeId))

/-- Whether `RET_OK` came back, and the service. -/
def requestSubscribe (v : SubscriberService) (pid : Int) (call : SubscribeCall)
    (info : SubscribeKeyEventInfo) : Bool × SubscriberService :=
  match writeRequest call.accepts info.subscribeId info.keyOption [] with
  | none => (false, v)
  | some (_, data) =>
      if !call.reaches then (false, v)
      else
        match readRequest data with
        | none => (false, v)
        | some (r, _) =>
            let served := onSubscribeKeyEvent v pid r.1 r.2
            (served.1 && call.replies, served.2)

def requestUnsubscribe (v : SubscriberService) (pid : Int) (call : SubscribeCall)
    (subscribeId : Int32) : Bool × SubscriberService :=
  match enqueue call.accepts (.int32 subscribeId) [] with
  | none => (false, v)
  | some (_, data) =>
      if !call.reaches then (false, v)
      else
        match readInt32 data with
        | none => (false, v)
        | some (subscribeId, _) =>
            let served := onUnsubscribeKeyEvent v pid subscribeId
            (served.1 && call.replies, served.2)

/-! ## The manager -/

/-- The manager of a client. `subscribeIdManager` is the next id. -/
structure KeyEventInputSubscribeManager where
  subscribeInfos : List SubscribeKeyEventInfo
  subscribeIdManager : Nat

/-- A client and the service it asks. -/
structure Subscription where
  manager : KeyEventInputSubscribeManager
  service : SubscriberService

def preKeysNum : Nat := 4

def invalidSubscribeId : Int32 := -1

/-- The constructor of `SubscribeKeyEventInfo`, which takes an id. -/
def makeInfo (m : KeyEventInputSubscribeManager) (keyOption : KeyOption) :
    SubscribeKeyEventInfo × KeyEventInputSubscribeManager :=
  if intMax ≤ m.subscribeIdManager then (⟨keyOption, -1⟩, m)
  else
    (⟨keyOption, Int32.ofNat m.subscribeIdManager⟩,
      { m with subscribeIdManager := m.subscribeIdManager + 1 })

def infoLess (info other : SubscribeKeyEventInfo) : Bool :=
  optionLess info.keyOption other.keyOption

namespace Subscription

/-- The new record is made before the set is searched, and dropped when there
is an equivalent one. A request that fails is only logged. -/
def subscribeKeyEvent (s : Subscription) (pid : Int) (call : SubscribeCall)
    (keyOption : KeyOption) : Int32 × Subscription :=
  if preKeysNum < keyOption.preKeys.card then (invalidSubscribeId, s)
  else if !call.initClient then (invalidSubscribeId, s)
  else
    let r := makeInfo s.manager keyOption
    match r.2.subscribeInfos.find? fun info => equivalent info.keyOption keyOption with
    | some info => (info.subscribeId, { s with manager := r.2 })
    | none =>
        (r.1.subscribeId,
          { manager :=
              { r.2 with
                subscribeInfos := r.2.subscribeInfos.orderedInsert (infoLess · ·) r.1 }
            service := (requestSubscribe s.service pid call r.1).2 })

def unsubscribeKeyEvent (s : Subscription) (pid : Int) (call : SubscribeCall)
    (subscribeId : Int32) : Int × Subscription :=
  if subscribeId < 0 then (retErr, s)
  else if !call.initClient then (invalidSubscribeId.toInt, s)
  else
    match s.manager.subscribeInfos.find? fun info => info.subscribeId = subscribeId with
    | none => (retErr, s)
    | some _ =>
        let r := requestUnsubscribe s.service pid call subscribeId
        if !r.1 then (retErr, { s with service := r.2 })
        else
          (retOk,
            { manager :=
                { s.manager with
                  subscribeInfos :=
                    s.manager.subscribeInfos.eraseP fun info => info.subscribeId = subscribeId }
              service := r.2 })

/-- `OnConnected`: every record is registered again. -/
def onConnected (s : Subscription) (pid : Int)
    (calls : SubscribeKeyEventInfo → SubscribeCall) : Subscription :=
  { s with
    service := s.manager.subscribeInfos.foldl
      (fun v info => (requestSubscribe v pid (calls info) info).2) s.service }

end Subscription

end FtMmi.Client
