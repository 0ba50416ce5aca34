/-
FtMmi.Client.SubscriptionAcceptance — what a subscription id is worth.

A client that got an id for an option expects the server to hold the
option under that id, for the client's session. `request_registered_iff`
says when a request leads to that, and `accepted_iff` adds the ways in
which the client comes by an id without one.
-/
import FtMmi.Client.KeyEventInputSubscribeManager
import FtMmi.Lib.StepSystem

namespace FtMmi.Client

open FtMmi.Event
open FtMmi.KeySubscriber
open FtMmi.Lib
open FtMmi.Lib.TypedQueue
open FtMmi.Server

/-! ## Runs -/

/-- What a client and the service go through: its calls, a new connection,
and whatever the service does otherwise. -/
inductive SubscriptionInput where
  | subscribe (call : SubscribeCall) (keyOption : KeyOption)
  | unsubscribe (call : SubscribeCall) (subscribeId : Int32)
  | connected (calls : SubscribeKeyEventInfo → SubscribeCall)
  | service (i : SubscriberInput)

def subscriptionStep (pid : Int) (s : Subscription) : SubscriptionInput → Subscription
  | .subscribe call keyOption => (s.subscribeKeyEvent pid call keyOption).2
  | .unsubscribe call subscribeId => (s.unsubscribeKeyEvent pid call subscribeId).2
  | .connected calls => s.onConnected pid calls
  | .service i => { s with service := s.service.step i }

/-! ## The property -/

/-- The server holds the option under the id, for the session of the process. -/
def Registered (v : SubscriberService) (pid : Int) (subscribeId : Int32)
    (keyOption : KeyOption) : Prop :=
  ∃ sess, v.server.getSessionByPid pid = some sess ∧
    ∃ x ∈ v.handler.subscribers,
      x.sess = sess ∧ x.id = subscribeId ∧ x.keyOption = keyOption

/-- A call of `SubscribeKeyEvent` that returns an id has registered the
option. -/
def IdIsRegistered (pid : Int) (s : Subscription) : SubscriptionInput → Prop
  | .subscribe call keyOption =>
      let r := s.subscribeKeyEvent pid call keyOption
      0 ≤ r.1 → Registered r.2.service pid r.1 keyOption
  | _ => True

/-! ## The condition -/

/-- The request makes it into the list of the server. -/
structure GetsThrough (v : SubscriberService) (pid : Int) (call : SubscribeCall)
    (subscribeId : Int32) (keyOption : KeyOption) : Prop where
  small : keyOption.preKeys.card ≤ preKeysMaxSize
  written : (writeRequest call.accepts subscribeId keyOption []).isSome = true
  reaches : call.reaches = true
  free : ∃ sess, v.server.getSessionByPid pid = some sess ∧
    ∀ x ∈ v.handler.subscribers, ¬ (x.id = subscribeId ∧ x.sess = sess)

/-- The record the client has of the option, but for the delay after the
final key is released. -/
def recorded (m : KeyEventInputSubscribeManager) (keyOption : KeyOption) :
    Option SubscribeKeyEventInfo :=
  m.subscribeInfos.find? fun info => SamePress info.keyOption keyOption

/-- The call refuses the option; or there is a record of it, and what the
record stands for is this option; or there is none, and the request gets
through. -/
def BacksId (pid : Int) (s : Subscription) : SubscriptionInput → Prop
  | .subscribe call keyOption =>
      preKeysNum < keyOption.preKeys.card ∨ call.initClient = false ∨
        match recorded s.manager keyOption with
        | some info =>
            info.subscribeId < 0 ∨ Registered s.service pid info.subscribeId keyOption
        | none =>
            intMax ≤ s.manager.subscribeIdManager ∨
              Registered s.service pid (Int32.ofNat s.manager.subscribeIdManager) keyOption ∨
              GetsThrough s.service pid call (Int32.ofNat s.manager.subscribeIdManager) keyOption
  | _ => True

/-! ## Requests -/

/-- The service reads what was written. -/
theorem readRequest_of_write {accepts : List ParcelValue → ParcelValue → Bool}
    {subscribeId : Int32} {keyOption : KeyOption} {data : List ParcelValue}
    (hsmall : keyOption.preKeys.card ≤ preKeysMaxSize)
    (hwrite : writeRequest accepts subscribeId keyOption [] = some ((), data)) :
    readRequest data = some ((subscribeId, keyOption), []) := by
  have hdata := ((Writes.enqueue accepts (.int32 subscribeId)).bind fun _ =>
    KeyOption.writeToParcel_writes keyOption) [] () data hwrite
  have hread : Reads readRequest ([ParcelValue.int32 subscribeId] ++ (keyOption.values ++ []))
      (subscribeId, keyOption) :=
    (readInt32_reads subscribeId).bind ((KeyOption.readFromParcel_reads hsmall).bind (Reads.pure _))
  rw [hdata]
  simpa using hread []

theorem writeRequest_small {accepts : List ParcelValue → ParcelValue → Bool}
    {subscribeId : Int32} {keyOption : KeyOption} {r : Unit × List ParcelValue}
    (hwrite : writeRequest accepts subscribeId keyOption [] = some r) :
    keyOption.preKeys.card ≤ preKeysMaxSize := by
  by_contra hmany
  rw [writeRequest, bind_eq, Option.bind_eq_some_iff] at hwrite
  obtain ⟨_, _, hoption⟩ := hwrite
  rw [KeyOption.writeToParcel_of_many (by omega)] at hoption
  cases hoption

/-- The handler puts the subscription behind the others, unless the session
has one with the id. -/
theorem subscribeKeyEvent_mem_iff (s : KeySubscriberHandler) (sess : Session)
    {subscribeId : Int32} {keyOption : KeyOption} (hid : 0 ≤ subscribeId)
    (hsmall : keyOption.preKeys.card ≤ maxPreKeyCount) :
    (∃ x ∈ (s.subscribeKeyEvent sess subscribeId keyOption).2.subscribers,
        x.sess = sess ∧ x.id = subscribeId ∧ x.keyOption = keyOption) ↔
      (∃ x ∈ s.subscribers, x.sess = sess ∧ x.id = subscribeId ∧ x.keyOption = keyOption) ∨
      ∀ x ∈ s.subscribers, ¬ (x.id = subscribeId ∧ x.sess = sess) := by
  unfold KeySubscriberHandler.subscribeKeyEvent
  rw [if_neg (Int32.not_lt.mpr hid), if_neg (by omega)]
  dsimp only [KeySubscriberHandler.insertSubscriber]
  by_cases htaken : ∃ x ∈ s.subscribers, x.id = subscribeId ∧ x.sess = sess
  · rw [if_pos (by simpa using htaken)]
    refine ⟨.inl, fun h => h.resolve_right fun hfree => ?_⟩
    obtain ⟨x, hx, hsame⟩ := htaken
    exact hfree x hx hsame
  · rw [if_neg (by simpa using htaken)]
    refine ⟨fun _ => .inr fun x hx hsame => htaken ⟨x, hx, hsame⟩, fun _ => ?_⟩
    exact ⟨_, List.mem_append_right _ (List.mem_singleton_self _), rfl, rfl, rfl⟩

theorem onSubscribeKeyEvent_registered_iff (v : SubscriberService) (pid : Int)
    {subscribeId : Int32} {keyOption : KeyOption} (hid : 0 ≤ subscribeId)
    (hsmall : keyOption.preKeys.card ≤ maxPreKeyCount) :
    Registered (onSubscribeKeyEvent v pid subscribeId keyOption).2 pid subscribeId keyOption ↔
      Registered v pid subscribeId keyOption ∨
      ∃ sess, v.server.getSessionByPid pid = some sess ∧
        ∀ x ∈ v.handler.subscribers, ¬ (x.id = subscribeId ∧ x.sess = sess) := by
  unfold Registered onSubscribeKeyEvent
  cases hsess : v.server.getSessionByPid pid with
  | none => simp [SubscriberService.step, hsess]
  | some sess =>
    simp only [SubscriberService.step, SubscriberService.handlerStep, hsess, Option.some.injEq,
      exists_eq_left']
    exact subscribeKeyEvent_mem_iff v.handler sess hid hsmall

/-- The server holds the option after a request precisely if it held it
before, or the request gets through. -/
theorem request_registered_iff (v : SubscriberService) (pid : Int) (call : SubscribeCall)
    {subscribeId : Int32} (keyOption : KeyOption) (hid : 0 ≤ subscribeId) :
    Registered (requestSubscribe v pid call ⟨keyOption, subscribeId⟩).2 pid subscribeId keyOption ↔
      Registered v pid subscribeId keyOption ∨ GetsThrough v pid call subscribeId keyOption := by
  unfold requestSubscribe
  cases hwrite : writeRequest call.accepts subscribeId keyOption [] with
  | none =>
    refine ⟨.inl, fun h => h.resolve_right fun hthrough => ?_⟩
    simpa [hwrite] using hthrough.written
  | some r =>
    obtain ⟨⟨⟩, data⟩ := r
    have hsmall := writeRequest_small hwrite
    cases hreaches : call.reaches with
    | false =>
      refine ⟨.inl, fun h => h.resolve_right fun hthrough => ?_⟩
      simpa [hreaches] using hthrough.reaches
    | true =>
      have hread := readRequest_of_write hsmall hwrite
      simp only [hread, Bool.not_true, Bool.false_eq_true, if_false]
      rw [onSubscribeKeyEvent_registered_iff v pid hid (Nat.le_trans hsmall (by decide))]
      refine or_congr_right ⟨fun hfree => ?_, fun hthrough => hthrough.free⟩
      exact ⟨hsmall, by rw [hwrite]; rfl, hreaches, hfree⟩

/-! ## One call -/

theorem find_equivalent (m : KeyEventInputSubscribeManager) (keyOption : KeyOption) :
    (m.subscribeInfos.find? fun info => equivalent info.keyOption keyOption)
      = recorded m keyOption := by
  have heq : (fun info : SubscribeKeyEventInfo => equivalent info.keyOption keyOption)
      = fun info => decide (SamePress info.keyOption keyOption) := by
    funext info
    rw [← Bool.coe_iff_coe, decide_eq_true_iff, equivalent_iff]
  rw [heq]
  rfl

theorem makeInfo_infos (m : KeyEventInputSubscribeManager) (keyOption : KeyOption) :
    (makeInfo m keyOption).2.subscribeInfos = m.subscribeInfos := by
  unfold makeInfo
  split <;> rfl

theorem int32_ofNat_nonneg {n : Nat} (h : n < intMax) : 0 ≤ Int32.ofNat n := by
  rw [Int32.le_iff_toInt_le, count_toInt (Nat.le_of_lt h)]
  simp

theorem idIsRegistered_iff (pid : Int) (s : Subscription) (i : SubscriptionInput) :
    IdIsRegistered pid s i ↔ BacksId pid s i := by
  cases i with
  | unsubscribe call subscribeId => exact Iff.rfl
  | connected calls => exact Iff.rfl
  | service i => exact Iff.rfl
  | subscribe call keyOption =>
    simp only [IdIsRegistered, BacksId]
    unfold Subscription.subscribeKeyEvent
    by_cases hmany : preKeysNum < keyOption.preKeys.card
    · simp [hmany, invalidSubscribeId]
    · rw [if_neg hmany]
      cases hinit : call.initClient with
      | false => simp [invalidSubscribeId]
      | true =>
        have hfind := find_equivalent (makeInfo s.manager keyOption).2 keyOption
        have hrecorded : recorded (makeInfo s.manager keyOption).2 keyOption
            = recorded s.manager keyOption := by
          rw [recorded, makeInfo_infos]
          rfl
        rw [hrecorded] at hfind
        simp only [Bool.not_true, Bool.false_eq_true, if_false, hfind, hmany, false_or, reduceCtorEq]
        cases hrec : recorded s.manager keyOption with
        | some info =>
          simp only
          rw [← Int32.not_le, ← imp_iff_not_or]
        | none =>
          simp only
          by_cases hfull : intMax ≤ s.manager.subscribeIdManager
          · simp [makeInfo, hfull]
          · have hid := int32_ofNat_nonneg (Nat.lt_of_not_le hfull)
            have hreq := request_registered_iff s.service pid call keyOption hid
            simp only [makeInfo, if_neg hfull]
            rw [hreq]
            simp [hid, hfull]

/-! ## Subscription acceptance -/

/-- Both the client and the server accept the option. -/
def AcceptedByChecks (keyOption : KeyOption) : Prop :=
  keyOption.preKeys.card ≤ preKeysNum ∧ keyOption.preKeys.card ≤ maxPreKeyCount

theorem survives_checks_iff (keyOption : KeyOption) :
    (AcceptedByChecks keyOption → keyOption.Survives) ↔ keyOption.preKeys.card ≠ 4 := by
  rw [KeyOption.survives_iff, AcceptedByChecks, preKeysNum, maxPreKeyCount, preKeysMaxSize]
  omega

/-- Every id of a run is backed by a registration precisely if its calls meet
the condition, and an option that both checks accept survives the parcel
precisely if it does not have four pre-keys. -/
theorem subscriptionAcceptance_iff (pid : Int) (s : Subscription)
    (is : List SubscriptionInput) (keyOption : KeyOption) :
    (AllSteps (subscriptionStep pid) (IdIsRegistered pid) s is ↔
        AllSteps (subscriptionStep pid) (BacksId pid) s is) ∧
      ((AcceptedByChecks keyOption → keyOption.Survives) ↔ keyOption.preKeys.card ≠ 4) :=
  ⟨allSteps_congr (fun s i => idIsRegistered_iff pid s i) is s, survives_checks_iff keyOption⟩

/-- A client connected as process 100. -/
def freshClient : Subscription where
  manager := { subscribeInfos := [], subscribeIdManager := 0 }
  service := SubscriberService.create.step (.addSession { ref := 0, fd := 7, pid := 100 })

/-- Nothing goes wrong on the way. -/
def smoothCall : SubscribeCall where
  initClient := true
  accepts := fun _ _ => true
  reaches := true
  replies := true

def fourPreKeys : KeyOption := { KeyOption.create with preKeys := {2045, 2046, 2047, 2048} }

/-- Four pre-keys pass both checks but not the parcel, and the client returns
id 0 all the same. -/
theorem counterexample_subscriptionAcceptance :
    (freshClient.subscribeKeyEvent 100 smoothCall fourPreKeys).1 = 0 ∧
      (freshClient.subscribeKeyEvent 100 smoothCall fourPreKeys).2.service.handler.subscribers
        = [] ∧
      ¬ AllSteps (subscriptionStep 100) (IdIsRegistered 100) freshClient
        [.subscribe smoothCall fourPreKeys] ∧
      AcceptedByChecks fourPreKeys ∧ ¬ fourPreKeys.Survives := by
  have hid : (freshClient.subscribeKeyEvent 100 smoothCall fourPreKeys).1 = 0 := by decide
  have hnone : (freshClient.subscribeKeyEvent 100 smoothCall fourPreKeys).2.service.handler.subscribers
      = [] := by rfl
  refine ⟨hid, hnone, fun h => ?_, ⟨by decide, by decide⟩, ?_⟩
  · obtain ⟨sess, _, x, hx, _⟩ := h.1 (by rw [hid]; decide)
    rw [hnone] at hx
    cases hx
  · rw [KeyOption.survives_iff]
    decide

end FtMmi.Client
