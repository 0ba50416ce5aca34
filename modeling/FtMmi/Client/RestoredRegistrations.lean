/-
FtMmi.Client.RestoredRegistrations — what a restarted server holds for a
process after the process has connected to it again.

`serve_holds_iff` says what one request adds, `served_holds_iff` what all
of them do: the server holds exactly what it was asked for. So the question
is what `OnConnected` asks for, and `restored_iff` answers it: not for the
listeners of devices and of the cooperation, not for an event filter, and
for the layout and the ANR observer only when the layout has windows.
-/
import FtMmi.Client.InputManagerImpl
import FtMmi.Client.SubscriptionAcceptance

namespace FtMmi.Client

open FtMmi.InputHandler
open FtMmi.KeySubscriber
open FtMmi.Event
open FtMmi.Lib
open FtMmi.Lib.TypedQueue
open FtMmi.MessageHandle

/-! ## Registrations -/

/-- What a server can hold for a process. -/
inductive Registration where
  | displayInfo (displayGroupInfo : DisplayGroupData)
  | anrObserver
  | keyEvent (subscribeId : Int32) (keyOption : KeyOption)
  | inputHandler (kind : HandlerKind) (eventType : HandleEventType)
  | devListener
  | cooperateListener
  | eventFilter
  deriving DecidableEq

/-- The server holds it for the process. -/
def MMIService.Holds (v : MMIService) (pid : Int) : Registration → Prop
  | .displayInfo displayGroupInfo => v.displayGroupInfo = some displayGroupInfo
  | .anrObserver => v.anrNoticedPid = pid
  | .keyEvent subscribeId keyOption => Registered v.service pid subscribeId keyOption
  | .inputHandler kind eventType =>
      ∃ sess, v.service.server.getSessionByPid pid = some sess ∧
        ∃ handler ∈ v.handlers kind, handler.session = sess.ref ∧ handler.eventType = eventType
  | .devListener =>
      ∃ sess, v.service.server.getSessionByPid pid = some sess ∧ sess.ref ∈ v.devListener
  | .cooperateListener =>
      ∃ sess, v.service.server.getSessionByPid pid = some sess ∧
        sess.ref ∈ v.remoteCooperateCallbacks
  | .eventFilter => v.filter = some pid

/-- The process holds it itself. -/
def InputManagerImpl.Holds (s : InputManagerImpl) : Registration → Prop
  | .displayInfo displayGroupInfo =>
      s.displayGroupInfo = displayGroupInfo ∧ displayGroupInfo.displaysInfo ≠ []
  | .anrObserver => s.anrObservers ≠ []
  | .keyEvent subscribeId keyOption =>
      ∃ info ∈ s.keyEvents.subscribeInfos,
        info.subscribeId = subscribeId ∧ info.keyOption = keyOption
  | .inputHandler kind eventType =>
      (s.handlers kind).inputHandlers ≠ [] ∧ (s.handlers kind).getEventType = eventType
  | .devListener => s.inputDevices.listeners ≠ []
  | .cooperateListener => s.cooperation.listeners ≠ []
  | .eventFilter => s.eventFilterService ≠ none

/-- What the request asks for. -/
def Request.registration : Request → Registration
  | .displayInfo displayGroupInfo => .displayInfo displayGroupInfo
  | .setAnrObserver => .anrObserver
  | .subscribeKeyEvent info => .keyEvent info.subscribeId info.keyOption
  | .addInputHandler kind eventType => .inputHandler kind eventType

/-- The server has one place for the registration and what is asked for. -/
def Request.SharesPlace : Request → Registration → Prop
  | .displayInfo _, .displayInfo _ => True
  | .subscribeKeyEvent info, .keyEvent subscribeId _ => info.subscribeId = subscribeId
  | .addInputHandler kind _, .inputHandler kind' _ => kind = kind'
  | _, _ => False

/-- A mask of the bits the server knows. -/
def Request.Known : Request → Prop
  | .addInputHandler _ eventType => eventType &&& handleEventTypeAll = eventType
  | _ => True

/-! ## One request -/

/-- A subscription that succeeds is handed to the handler for the session of
the process. -/
theorem requestSubscribe_ok {v : SubscriberService} {pid : Int} {call : SubscribeCall}
    {info : SubscribeKeyEventInfo} (h : (requestSubscribe v pid call info).1 = true) :
    ∃ sess, v.server.getSessionByPid pid = some sess ∧ 0 ≤ info.subscribeId ∧
      info.keyOption.preKeys.card ≤ maxPreKeyCount ∧
      (requestSubscribe v pid call info).2.server = v.server ∧
      (requestSubscribe v pid call info).2.handler =
        (v.handler.subscribeKeyEvent sess info.subscribeId info.keyOption).2 := by
  unfold requestSubscribe at h ⊢
  cases hwrite : writeRequest call.accepts info.subscribeId info.keyOption [] with
  | none => simp [hwrite] at h
  | some r =>
    obtain ⟨⟨⟩, data⟩ := r
    have hread := readRequest_of_write (writeRequest_small hwrite) hwrite
    cases hreaches : call.reaches with
    | false => simp [hwrite, hreaches] at h
    | true =>
      simp only [hwrite, hreaches, hread, Bool.not_true, Bool.false_eq_true, if_false,
        Bool.and_eq_true, onSubscribeKeyEvent] at h ⊢
      obtain ⟨hserved, -⟩ := h
      cases hsess : v.server.getSessionByPid pid with
      | none => simp [hsess] at hserved
      | some sess =>
        simp only [hsess, Option.any_some, decide_eq_true_eq] at hserved
        refine ⟨sess, rfl, ?_, ?_, ?_, ?_⟩
        · by_contra hneg
          simp [KeySubscriberHandler.subscribeKeyEvent, Int32.not_le.mp hneg, retErr,
            retOk] at hserved
        · by_contra hmany
          unfold KeySubscriberHandler.subscribeKeyEvent at hserved
          split at hserved
          · simp [retErr, retOk] at hserved
          · rw [if_pos (by omega)] at hserved
            simp [retErr, retOk] at hserved
        · simp [SubscriberService.step]
        · simp [SubscriberService.step, SubscriberService.handlerStep, hsess]

/-- The handler adds the subscription and no other, if the session has none
with the id. -/
theorem mem_subscribeKeyEvent_iff (s : KeySubscriberHandler) {sess : Server.Session}
    {subscribeId : Int32} {keyOption : KeyOption} (hid : 0 ≤ subscribeId)
    (hsmall : keyOption.preKeys.card ≤ maxPreKeyCount)
    (hfree : ∀ x ∈ s.subscribers, ¬ (x.id = subscribeId ∧ x.sess = sess))
    (subscribeId' : Int32) (keyOption' : KeyOption) :
    (∃ x ∈ (s.subscribeKeyEvent sess subscribeId keyOption).2.subscribers,
        x.sess = sess ∧ x.id = subscribeId' ∧ x.keyOption = keyOption') ↔
      (∃ x ∈ s.subscribers, x.sess = sess ∧ x.id = subscribeId' ∧ x.keyOption = keyOption') ∨
        (subscribeId' = subscribeId ∧ keyOption' = keyOption) := by
  unfold KeySubscriberHandler.subscribeKeyEvent
  rw [if_neg (Int32.not_lt.mpr hid), if_neg (by omega)]
  dsimp only [KeySubscriberHandler.insertSubscriber]
  rw [if_neg (by simpa using hfree)]
  simp only [List.mem_append, List.mem_singleton, or_and_right, exists_or, exists_eq_left,
    true_and]
  refine or_congr_right ⟨?_, ?_⟩
  · rintro ⟨rfl, rfl⟩
    exact ⟨rfl, rfl⟩
  · rintro ⟨rfl, rfl⟩
    exact ⟨rfl, rfl⟩

/-- A session without an entry gets one with the mask. -/
theorem onAddInputHandler_ok {kind : HandlerKind} {handlers : List SessionHandler}
    {eventType : HandleEventType} {session : Nat}
    (hok : (kind.onAddInputHandler handlers eventType session).1 = retOk)
    (hnone : ∀ handler ∈ handlers, handler.session ≠ session) :
    (kind.onAddInputHandler handlers eventType session).2 =
      handlers ++ [SessionHandler.create kind.handlerType eventType session] := by
  unfold HandlerKind.onAddInputHandler addInputHandler at hok ⊢
  split
  · rename_i hzero
    simp [if_pos hzero, retErr, retOk] at hok
  · rename_i hzero
    rw [if_neg hzero] at hok
    have hfind : findSession handlers session = none := by simpa [findSession] using hnone
    unfold addSessionHandler at hok ⊢
    split
    · rename_i hfull
      simp [if_pos hfull, retErr, retOk] at hok
    · simp [SessionHandler.create, hfind]

/-- A request that succeeds adds what it asks for, when nothing else has its
place. -/
theorem serve_holds_iff {v : MMIService} {pid : Int} {call : SubscribeCall} {request : Request}
    (hok : (v.serve pid call request).1 = true) (hknown : request.Known)
    (hfree : ∀ r, v.Holds pid r → ¬ request.SharesPlace r) (r : Registration) :
    (v.serve pid call request).2.Holds pid r ↔ v.Holds pid r ∨ r = request.registration := by
  cases request with
  | displayInfo displayGroupInfo =>
    have hnone : ∀ d, v.displayGroupInfo ≠ some d := fun d hd => hfree (.displayInfo d) hd trivial
    cases hreaches : call.reaches with
    | false => simp [MMIService.serve, hreaches] at hok
    | true =>
      cases r <;> simp [MMIService.serve, hreaches, MMIService.Holds, Request.registration, hnone,
        eq_comm]
  | setAnrObserver =>
    cases hreaches : call.reaches with
    | false => simp [MMIService.serve, hreaches] at hok
    | true => cases r <;> simp [MMIService.serve, hreaches, MMIService.Holds, Request.registration]
  | subscribeKeyEvent info =>
    obtain ⟨sess, hsess, hid, hsmall, hserver, hhandler⟩ := requestSubscribe_ok hok
    have hfree' : ∀ x ∈ v.service.handler.subscribers,
        ¬ (x.id = info.subscribeId ∧ x.sess = sess) := by
      rintro x hx ⟨hxid, hxsess⟩
      exact hfree (.keyEvent x.id x.keyOption) ⟨sess, hsess, x, hx, hxsess, rfl, rfl⟩ hxid.symm
    cases r with
    | keyEvent subscribeId keyOption =>
      simp only [MMIService.Holds, MMIService.serve, Registered, hserver, hsess, hhandler,
        Option.some.injEq, exists_eq_left', Request.registration, Registration.keyEvent.injEq]
      exact mem_subscribeKeyEvent_iff v.service.handler hid hsmall hfree' subscribeId keyOption
    | _ => simp [MMIService.Holds, MMIService.serve, hserver, Request.registration]
  | addInputHandler kind eventType =>
    cases hreaches : call.reaches with
    | false => simp [MMIService.serve, hreaches] at hok
    | true =>
      cases hsess : v.service.server.getSessionByPid pid with
      | none => simp [MMIService.serve, hreaches, hsess] at hok
      | some sess =>
        have hnone : ∀ handler ∈ v.handlers kind, handler.session ≠ sess.ref :=
          fun handler hmem hsession =>
            hfree (.inputHandler kind handler.eventType) ⟨sess, hsess, handler, hmem, hsession, rfl⟩
              rfl
        simp only [MMIService.serve, hreaches, hsess, Bool.not_true, Bool.false_eq_true, if_false,
          Bool.and_eq_true, decide_eq_true_eq] at hok ⊢
        rw [onAddInputHandler_ok hok.1 hnone]
        cases r with
        | inputHandler kind' eventType' =>
          simp only [MMIService.Holds, hsess, Option.some.injEq, exists_eq_left',
            Request.registration, Registration.inputHandler.injEq]
          by_cases hkind : kind' = kind
          · subst hkind
            simp only [Function.update_self, List.mem_append, List.mem_singleton, or_and_right,
              exists_or, exists_eq_left, SessionHandler.create, true_and]
            rw [show eventType &&& handleEventTypeAll = eventType from hknown, eq_comm (a := eventType)]
          · simp [hkind]
        | _ => simp [MMIService.Holds, Request.registration, hsess]

/-! ## All requests -/

/-- The server after one of the requests; `calls` is what they meet on their
way. -/
def served (pid : Int) (calls : Request → SubscribeCall) (v : MMIService) (request : Request) :
    MMIService :=
  (v.serve pid (calls request) request).2

/-- `RET_OK` comes back for the request. -/
def Succeeds (pid : Int) (calls : Request → SubscribeCall) (v : MMIService) (request : Request) :
    Prop :=
  (v.serve pid (calls request) request).1 = true

instance (pid : Int) (calls : Request → SubscribeCall) (v : MMIService) (request : Request) :
    Decidable (Succeeds pid calls v request) :=
  inferInstanceAs (Decidable (_ = true))

/-- Requests for different places that all succeed add what they ask for. -/
theorem served_holds_iff {pid : Int} {calls : Request → SubscribeCall} {requests : List Request}
    {v : MMIService} (hok : AllSteps (served pid calls) (Succeeds pid calls) v requests)
    (hknown : ∀ request ∈ requests, request.Known)
    (hapart : requests.Pairwise fun a b => ¬ b.SharesPlace a.registration)
    (hfree : ∀ request ∈ requests, ∀ r, v.Holds pid r → ¬ request.SharesPlace r)
    (r : Registration) :
    (runFrom (served pid calls) v requests).Holds pid r ↔
      v.Holds pid r ∨ ∃ request ∈ requests, r = request.registration := by
  induction requests generalizing v with
  | nil => simp
  | cons request requests ih =>
    obtain ⟨hfirst, hrest⟩ := hok
    obtain ⟨hhead, htail⟩ := List.pairwise_cons.mp hapart
    have hone := serve_holds_iff hfirst (hknown request List.mem_cons_self)
      (hfree request List.mem_cons_self)
    rw [runFrom_cons, ih hrest (fun other h => hknown other (List.mem_cons_of_mem _ h)) htail]
    · rw [show (served pid calls v request).Holds pid r ↔ _ from hone r]
      simp [or_assoc]
    · intro other hother r' hr'
      rcases (hone r').mp hr' with hold | rfl
      · exact hfree other (List.mem_cons_of_mem _ hother) r' hold
      · exact hhead other hother
/-! ## What a process has registered -/

/-- The subscriptions that have an id have it alone, and the counter is past
it. -/
structure Issued (m : KeyEventInputSubscribeManager) : Prop where
  apart : m.subscribeInfos.Pairwise fun a b => 0 ≤ a.subscribeId → a.subscribeId ≠ b.subscribeId
  given : ∀ info ∈ m.subscribeInfos, 0 ≤ info.subscribeId →
    ∃ n < m.subscribeIdManager, n < intMax ∧ info.subscribeId = Int32.ofNat n

/-- The handlers of a manager have the masks that the calls give them. -/
structure Masked (s : InputHandlerManager) : Prop where
  numbered : Numbered s
  masks : ∀ handler ∈ s.inputHandlers,
    handler.eventType = handleEventTypeAll ∨ handler.eventType = handleEventTypeKey

/-- What holds of the registrations of a process after any calls. -/
structure KeptInOrder (s : InputManagerImpl) : Prop where
  issued : Issued s.keyEvents
  masked : ∀ kind, Masked (s.handlers kind)

theorem int32_ofNat_inj {n k : Nat} (hn : n < intMax) (hk : k < intMax)
    (h : Int32.ofNat n = Int32.ofNat k) : n = k := by
  have := congrArg Int32.toInt h
  rw [count_toInt (Nat.le_of_lt hn), count_toInt (Nat.le_of_lt hk)] at this
  omega

theorem issued_subscribe {m : KeyEventInputSubscribeManager} (hm : Issued m)
    (service : SubscriberService) (pid : Int) (call : SubscribeCall) (keyOption : KeyOption) :
    Issued ((Subscription.mk m service).subscribeKeyEvent pid call keyOption).2.manager := by
  -- the counter may move without a new record
  have hinfo : Issued (makeInfo m keyOption).2 := by
    unfold makeInfo
    split
    · exact hm
    · refine ⟨hm.apart, fun info h hid => ?_⟩
      obtain ⟨n, hn, hmax, heq⟩ := hm.given info h hid
      exact ⟨n, Nat.lt_succ_of_lt hn, hmax, heq⟩
  unfold Subscription.subscribeKeyEvent
  split
  · exact hm
  split
  · exact hm
  dsimp only
  split
  · exact hinfo
  · have hnew : 0 ≤ (makeInfo m keyOption).1.subscribeId →
        m.subscribeIdManager < intMax ∧
        (makeInfo m keyOption).1.subscribeId = Int32.ofNat m.subscribeIdManager ∧
        (makeInfo m keyOption).2.subscribeIdManager = m.subscribeIdManager + 1 := by
      unfold makeInfo
      split
      · intro h
        exact absurd h (show ¬ (0 : Int32) ≤ -1 by decide)
      · rename_i hfull
        exact fun _ => ⟨Nat.lt_of_not_le hfull, rfl, rfl⟩
    have hperm := List.perm_orderedInsert (infoLess · ·) (makeInfo m keyOption).1
      (makeInfo m keyOption).2.subscribeInfos
    constructor
    · have hsymm : ∀ {a b : SubscribeKeyEventInfo},
          (0 ≤ a.subscribeId → a.subscribeId ≠ b.subscribeId) →
          0 ≤ b.subscribeId → b.subscribeId ≠ a.subscribeId := by
        intro a b h hb heq
        exact h (heq ▸ hb) heq.symm
      refine (hperm.pairwise_iff fun {a b} h => hsymm h).mpr (List.pairwise_cons.mpr ⟨?_, hinfo.apart⟩)
      intro info hmem hid heq
      rw [makeInfo_infos] at hmem
      obtain ⟨hmax, hval, -⟩ := hnew hid
      obtain ⟨n, hn, hnmax, hn'⟩ := hm.given info hmem (heq ▸ hid)
      have := int32_ofNat_inj hmax hnmax (hval ▸ heq.trans hn')
      omega
    · intro info hmem hid
      rcases List.mem_cons.mp (hperm.mem_iff.mp hmem) with rfl | hold
      · obtain ⟨hmax, hval, hnext⟩ := hnew hid
        exact ⟨m.subscribeIdManager, by simp [hnext], hmax, hval⟩
      · exact hinfo.given info hold hid

theorem issued_unsubscribe {m : KeyEventInputSubscribeManager} (hm : Issued m)
    (service : SubscriberService) (pid : Int) (call : SubscribeCall) (subscribeId : Int32) :
    Issued ((Subscription.mk m service).unsubscribeKeyEvent pid call subscribeId).2.manager := by
  unfold Subscription.unsubscribeKeyEvent
  split
  · exact hm
  split
  · exact hm
  split
  · exact hm
  dsimp only
  split
  · exact hm
  · exact ⟨hm.apart.sublist List.eraseP_sublist,
      fun info hmem => hm.given info (List.mem_of_mem_eraseP hmem)⟩

theorem Masked.removeLocal {s : InputHandlerManager} (hs : Masked s) (handlerId : Int)
    (handlerType : InputHandlerType) : Masked (s.removeLocal handlerId handlerType).2 := by
  rcases hs.numbered.removeLocal handlerId handlerType with ⟨-, hsame⟩ | ⟨-, hnum, handler, hperm⟩
  · rw [hsame]
    exact hs
  · exact ⟨hnum, fun other hother =>
      hs.masks other (hperm.mem_iff.mpr (List.mem_cons_of_mem _ hother))⟩

theorem masked_addHandler {s : InputHandlerManager} (hs : Masked s) (kind : HandlerKind)
    (consumer : Nat) {eventType : HandleEventType}
    (hmask : eventType = handleEventTypeAll ∨ eventType = handleEventTypeKey) (answer : Int) :
    Masked (addHandler s kind consumer eventType answer).2 := by
  have hprepared : Masked (s.prepareHandler kind.handlerType consumer eventType).2.2 := by
    rcases hs.numbered.prepareHandler kind.handlerType consumer eventType with
      ⟨-, hsame, hnum⟩ | ⟨handler, -, htype, hperm, hnum, -⟩
    · exact ⟨hnum, fun other hother => hs.masks other (hsame ▸ hother)⟩
    · refine ⟨hnum, fun other hother => ?_⟩
      rcases List.mem_cons.mp (hperm.mem_iff.mp hother) with rfl | hold
      · exact htype ▸ hmask
      · exact hs.masks other hold
  unfold addHandler
  dsimp only
  split
  · exact hprepared
  · unfold InputHandlerManager.finishHandler
    split
    · exact hprepared.removeLocal _ _
    · exact hprepared

theorem masked_removeHandler {s : InputHandlerManager} (hs : Masked s) (handlerId : Int)
    (handlerType : InputHandlerType) : Masked (s.removeHandler handlerId handlerType).2 := by
  unfold InputHandlerManager.removeHandler
  dsimp only
  split
  · exact hs.removeLocal handlerId handlerType
  · exact hs.removeLocal handlerId handlerType

theorem inv_create : KeptInOrder .create :=
  ⟨⟨.nil, fun _ h => nomatch h⟩, fun _ => ⟨numbered_create, fun _ h => nomatch h⟩⟩

theorem masked_update {handlers : HandlerKind → InputHandlerManager}
    (h : ∀ kind, Masked (handlers kind)) {kind : HandlerKind} {s : InputHandlerManager}
    (hs : Masked s) (kind' : HandlerKind) : Masked (Function.update handlers kind s kind') := by
  by_cases hk : kind' = kind
  · subst hk
    simpa using hs
  · simpa [hk] using h kind'

theorem inv_step {s : InputManagerImpl} (hs : KeptInOrder s) (call : ClientCall) :
    KeptInOrder (s.step call) := by
  cases call with
  | updateDisplayInfo displayGroupInfo =>
    simp only [InputManagerImpl.step]
    split
    · exact ⟨hs.issued, hs.masked⟩
    · exact hs
  | addInputEventFilter filter answer =>
    simp only [InputManagerImpl.step]
    split
    · exact ⟨hs.issued, hs.masked⟩
    split
    · exact ⟨hs.issued, hs.masked⟩
    · exact ⟨hs.issued, hs.masked⟩
  | setAnrObserver observer =>
    simp only [InputManagerImpl.step]
    split
    · exact hs
    · exact ⟨hs.issued, hs.masked⟩
  | subscribeKeyEvent service pid call keyOption =>
    exact ⟨issued_subscribe hs.issued service pid call keyOption, hs.masked⟩
  | unsubscribeKeyEvent service pid call subscribeId =>
    exact ⟨issued_unsubscribe hs.issued service pid call subscribeId, hs.masked⟩
  | addMonitor consumer answer =>
    exact ⟨hs.issued, masked_update hs.masked
      (masked_addHandler (hs.masked _) _ consumer (.inl rfl) answer)⟩
  | addInterceptor interceptor answer =>
    exact ⟨hs.issued, masked_update hs.masked
      (masked_addHandler (hs.masked _) _ interceptor (.inl rfl) answer)⟩
  | addKeyInterceptor interceptor answer =>
    exact ⟨hs.issued, masked_update hs.masked
      (masked_addHandler (hs.masked _) _ interceptor (.inr rfl) answer)⟩
  | removeMonitor monitorId =>
    exact ⟨hs.issued, masked_update hs.masked (masked_removeHandler (hs.masked _) monitorId _)⟩
  | removeInterceptor interceptorId =>
    exact ⟨hs.issued, masked_update hs.masked (masked_removeHandler (hs.masked _) interceptorId _)⟩
  | _ => exact ⟨hs.issued, hs.masked⟩

theorem inv_run (calls : List ClientCall) :
    KeptInOrder (runFrom InputManagerImpl.step .create calls) := by
  have h : Always InputManagerImpl.step KeptInOrder .create calls :=
    always_of_step (fun _ call hs => inv_step hs call) calls InputManagerImpl.create inv_create
  exact h.last

/-- The union of the masks is empty without handlers, and known. -/
theorem getEventType_cases {s : InputHandlerManager} (hs : Masked s) :
    (s.inputHandlers = [] ∧ s.getEventType = handleEventTypeNone) ∨
      (s.inputHandlers ≠ [] ∧ s.getEventType ≠ handleEventTypeNone ∧
        s.getEventType &&& handleEventTypeAll = s.getEventType) := by
  rw [getEventType_eq]
  have hunion : ∀ ms : List HandleEventType,
      (∀ m ∈ ms, m = handleEventTypeAll ∨ m = handleEventTypeKey) →
      unionOf ms = handleEventTypeNone ∨ unionOf ms = handleEventTypeAll ∨
        unionOf ms = handleEventTypeKey := by
    intro ms hms
    induction ms with
    | nil => exact .inl rfl
    | cons m ms ih =>
      rw [List.forall_mem_cons] at hms
      rw [show unionOf (m :: ms) = m ||| unionOf ms from rfl]
      rcases hms.1 with rfl | rfl <;> rcases ih hms.2 with h | h | h <;> rw [h] <;> decide
  cases hh : s.inputHandlers with
  | nil => exact .inl ⟨rfl, rfl⟩
  | cons handler handlers =>
    have hmasks := hs.masks
    rw [hh, List.forall_mem_cons] at hmasks
    refine .inr ⟨by simp, ?_⟩
    rw [List.map_cons, show ∀ m ms, unionOf (m :: ms) = m ||| unionOf ms from fun _ _ => rfl]
    have hrest := hunion (handlers.map Handler.eventType) (by simpa using hmasks.2)
    rcases hmasks.1 with h | h <;> rcases hrest with h' | h' | h' <;> rw [h, h'] <;> decide

/-! ## What `OnConnected` asks for -/

theorem mem_handlerRequests_iff {s : InputManagerImpl} {kind : HandlerKind} {request : Request} :
    request ∈ s.handlerRequests kind ↔
      (s.handlers kind).getEventType ≠ handleEventTypeNone ∧
        request = .addInputHandler kind (s.handlers kind).getEventType := by
  unfold InputManagerImpl.handlerRequests
  split <;> simp_all

theorem mem_ownRequests_iff {s : InputManagerImpl} {request : Request} :
    request ∈ s.ownRequests ↔
      s.displayGroupInfo.windowsInfo ≠ [] ∧ s.displayGroupInfo.displaysInfo ≠ [] ∧
        (request = .displayInfo s.displayGroupInfo ∨
          request = .setAnrObserver ∧ s.anrObservers ≠ []) := by
  unfold InputManagerImpl.ownRequests
  by_cases hw : s.displayGroupInfo.windowsInfo = []
  · simp [hw]
  by_cases hd : s.displayGroupInfo.displaysInfo = []
  · simp [hd]
  by_cases ha : s.anrObservers = [] <;> simp [hw, hd, ha]

/-- Of what a process holds the layout and the ANR observer are asked for if
the layout has windows, the subscriptions and the handlers always, and the
rest never. -/
theorem mem_onConnected_iff {s : InputManagerImpl} (hs : KeptInOrder s) (r : Registration) :
    (∃ request ∈ s.onConnected, r = request.registration) ↔
      match r with
      | .displayInfo displayGroupInfo =>
          s.displayGroupInfo = displayGroupInfo ∧ displayGroupInfo.displaysInfo ≠ [] ∧
            displayGroupInfo.windowsInfo ≠ []
      | .anrObserver =>
          s.anrObservers ≠ [] ∧ s.displayGroupInfo.displaysInfo ≠ [] ∧
            s.displayGroupInfo.windowsInfo ≠ []
      | .keyEvent subscribeId keyOption => s.Holds (.keyEvent subscribeId keyOption)
      | .inputHandler kind eventType => s.Holds (.inputHandler kind eventType)
      | _ => False := by
  have hhandlers : ∀ kind, (s.handlers kind).getEventType ≠ handleEventTypeNone ↔
      (s.handlers kind).inputHandlers ≠ [] := by
    intro kind
    rcases getEventType_cases (hs.masked kind) with ⟨h, h'⟩ | ⟨h, h', -⟩ <;> simp [h, h']
  have hmem : ∀ request, request ∈ s.onConnected ↔
      request ∈ s.ownRequests ∨ (∃ info ∈ s.keyEvents.subscribeInfos,
        .subscribeKeyEvent info = request) ∨ ∃ kind, request ∈ s.handlerRequests kind := by
    intro request
    simp only [InputManagerImpl.onConnected, List.mem_append, List.mem_map, or_assoc]
    refine or_congr_right (or_congr_right ⟨?_, ?_⟩)
    · rintro (h | h)
      · exact ⟨.monitor, h⟩
      · exact ⟨.interceptor, h⟩
    · rintro ⟨_ | _, h⟩
      · exact .inl h
      · exact .inr h
  simp only [hmem, mem_ownRequests_iff, mem_handlerRequests_iff, hhandlers]
  constructor
  · rintro ⟨request, ⟨hw, hd, rfl | ⟨rfl, ha⟩⟩ | ⟨info, hinfo, rfl⟩ | ⟨kind, hne, rfl⟩, rfl⟩
    · exact ⟨rfl, hd, hw⟩
    · exact ⟨ha, hd, hw⟩
    · exact ⟨info, hinfo, rfl, rfl⟩
    · exact ⟨hne, rfl⟩
  · cases r with
    | displayInfo displayGroupInfo =>
      rintro ⟨rfl, hd, hw⟩
      exact ⟨_, .inl ⟨hw, hd, .inl rfl⟩, rfl⟩
    | anrObserver =>
      rintro ⟨ha, hd, hw⟩
      exact ⟨_, .inl ⟨hw, hd, .inr ⟨rfl, ha⟩⟩, rfl⟩
    | keyEvent subscribeId keyOption =>
      rintro ⟨info, hinfo, rfl, rfl⟩
      exact ⟨_, .inr (.inl ⟨info, hinfo, rfl⟩), rfl⟩
    | inputHandler kind eventType =>
      rintro ⟨hne, rfl⟩
      exact ⟨_, .inr (.inr ⟨kind, hne, rfl⟩), rfl⟩
    | _ => exact False.elim

theorem known_onConnected {s : InputManagerImpl} (hs : KeptInOrder s) :
    ∀ request ∈ s.onConnected, request.Known := by
  intro request h
  cases request with
  | addInputHandler kind eventType =>
    have hreg := (mem_onConnected_iff hs (.inputHandler kind eventType)).mp ⟨_, h, rfl⟩
    obtain ⟨hne, rfl⟩ := hreg
    rcases getEventType_cases (hs.masked kind) with ⟨hnil, -⟩ | ⟨-, -, hknown⟩
    · exact absurd hnil hne
    · exact hknown
  | _ => trivial

/-- The requests are for different places, when the subscriptions have ids. -/
theorem pairwise_onConnected {s : InputManagerImpl} (hs : KeptInOrder s)
    (hids : ∀ info ∈ s.keyEvents.subscribeInfos, 0 ≤ info.subscribeId) :
    s.onConnected.Pairwise fun a b => ¬ b.SharesPlace a.registration := by
  have hown : s.ownRequests.Pairwise fun a b => ¬ b.SharesPlace a.registration := by
    unfold InputManagerImpl.ownRequests
    split
    · exact .nil
    split
    · exact List.pairwise_singleton _ _
    · simp [Request.SharesPlace]
  have hhandler : ∀ kind, (s.handlerRequests kind).Pairwise
      fun a b => ¬ b.SharesPlace a.registration := by
    intro kind
    unfold InputManagerImpl.handlerRequests
    split
    · exact List.pairwise_singleton _ _
    · exact .nil
  have hinfos : (s.keyEvents.subscribeInfos.map Request.subscribeKeyEvent).Pairwise
      fun a b => ¬ b.SharesPlace a.registration := by
    refine List.pairwise_map.mpr (hs.issued.apart.imp_of_mem fun {a b} ha hb h heq => ?_)
    exact h (hids a ha) (Eq.symm heq)
  unfold InputManagerImpl.onConnected
  refine List.pairwise_append.mpr ⟨List.pairwise_append.mpr ⟨List.pairwise_append.mpr
    ⟨hown, hinfos, ?_⟩, hhandler _, ?_⟩, hhandler _, ?_⟩
  · intro a ha b hb
    obtain ⟨info, -, rfl⟩ := List.mem_map.mp hb
    obtain ⟨-, -, rfl | ⟨rfl, -⟩⟩ := mem_ownRequests_iff.mp ha <;>
      simp [Request.SharesPlace, Request.registration]
  · intro a ha b hb
    obtain ⟨-, rfl⟩ := mem_handlerRequests_iff.mp hb
    rcases List.mem_append.mp ha with ha | ha
    · obtain ⟨-, -, rfl | ⟨rfl, -⟩⟩ := mem_ownRequests_iff.mp ha <;>
        simp [Request.SharesPlace, Request.registration]
    · obtain ⟨info, -, rfl⟩ := List.mem_map.mp ha
      simp [Request.SharesPlace, Request.registration]
  · intro a ha b hb
    obtain ⟨-, rfl⟩ := mem_handlerRequests_iff.mp hb
    rcases List.mem_append.mp ha with ha | ha
    · rcases List.mem_append.mp ha with ha | ha
      · obtain ⟨-, -, rfl | ⟨rfl, -⟩⟩ := mem_ownRequests_iff.mp ha <;>
          simp [Request.SharesPlace, Request.registration]
      · obtain ⟨info, -, rfl⟩ := List.mem_map.mp ha
        simp [Request.SharesPlace, Request.registration]
    · obtain ⟨-, rfl⟩ := mem_handlerRequests_iff.mp ha
      simp [Request.SharesPlace, Request.registration]

/-! ## Restored registrations -/

/-- What a process holds besides its subscriptions and handlers is a layout
with windows, and perhaps an ANR observer with it. -/
structure Restorable (s : InputManagerImpl) : Prop where
  devListener : s.inputDevices.listeners = []
  cooperateListener : s.cooperation.listeners = []
  eventFilter : s.eventFilterService = none
  windows : s.displayGroupInfo.displaysInfo ≠ [] → s.displayGroupInfo.windowsInfo ≠ []
  anrObserver : s.anrObservers ≠ [] → s.displayGroupInfo.displaysInfo ≠ []

/-- A request of a run that succeeds throughout succeeds in some state of it. -/
theorem succeeds_of_mem {pid : Int} {calls : Request → SubscribeCall} {requests : List Request}
    {v : MMIService} (hok : AllSteps (served pid calls) (Succeeds pid calls) v requests)
    {request : Request} (h : request ∈ requests) : ∃ v', Succeeds pid calls v' request := by
  induction requests generalizing v with
  | nil => simp at h
  | cons first rest ih =>
    rcases List.mem_cons.mp h with rfl | h
    · exact ⟨v, hok.1⟩
    · exact ih hok.2 h

/-- After a reconnection in which every request succeeds, a server that held
nothing for the process holds what the process holds itself if and only if
that is restorable. -/
theorem restored_iff (pid : Int) (history : List ClientCall) (v : MMIService)
    (hv : ∀ r, ¬ v.Holds pid r) (calls : Request → SubscribeCall)
    (hok : AllSteps (served pid calls) (Succeeds pid calls) v
      (runFrom InputManagerImpl.step .create history).onConnected) :
    (∀ r, (runFrom (served pid calls) v
        (runFrom InputManagerImpl.step .create history).onConnected).Holds pid r ↔
          (runFrom InputManagerImpl.step .create history).Holds r) ↔
      Restorable (runFrom InputManagerImpl.step .create history) := by
  have hs := inv_run history
  generalize runFrom InputManagerImpl.step .create history = s at hs hok ⊢
  have hids : ∀ info ∈ s.keyEvents.subscribeInfos, 0 ≤ info.subscribeId := by
    intro info hinfo
    obtain ⟨request, hmem, hreg⟩ :=
      (mem_onConnected_iff hs (.keyEvent info.subscribeId info.keyOption)).mpr ⟨info, hinfo, rfl, rfl⟩
    obtain ⟨v', hserved⟩ := succeeds_of_mem hok hmem
    cases request with
    | subscribeKeyEvent info' =>
      obtain ⟨-, -, hid, -⟩ := requestSubscribe_ok hserved
      injection hreg with heq
      exact heq ▸ hid
    | _ => cases hreg
  have hheld : ∀ r, (runFrom (served pid calls) v s.onConnected).Holds pid r ↔
      ∃ request ∈ s.onConnected, r = request.registration := by
    intro r
    rw [served_holds_iff hok (known_onConnected hs) (pairwise_onConnected hs hids)
      fun _ _ r hr => (hv r hr).elim]
    simp [hv r]
  simp only [hheld, mem_onConnected_iff hs]
  constructor
  · intro h
    refine ⟨?_, ?_, ?_, fun hd => ?_, fun ha => ?_⟩
    · by_contra hne
      exact (h .devListener).mpr hne
    · by_contra hne
      exact (h .cooperateListener).mpr hne
    · by_contra hne
      exact (h .eventFilter).mpr hne
    · exact ((h (.displayInfo s.displayGroupInfo)).mpr ⟨rfl, hd⟩).2.2
    · exact ((h .anrObserver).mpr ha).2.1
  · intro h r
    cases r with
    | displayInfo displayGroupInfo =>
      exact ⟨fun hr => ⟨hr.1, hr.2.1⟩, fun ⟨heq, hd⟩ => ⟨heq, hd, heq ▸ h.windows (heq ▸ hd)⟩⟩
    | anrObserver =>
      exact ⟨fun hr => hr.1, fun ha => ⟨ha, h.anrObserver ha, h.windows (h.anrObserver ha)⟩⟩
    | keyEvent subscribeId keyOption => exact Iff.rfl
    | inputHandler kind eventType => exact Iff.rfl
    | devListener => simpa [InputManagerImpl.Holds] using h.devListener
    | cooperateListener => simpa [InputManagerImpl.Holds] using h.cooperateListener
    | eventFilter => simpa [InputManagerImpl.Holds] using h.eventFilter

/-- A server that has just come up, and the process has connected to it. -/
def MMIService.restarted (ses : Server.Session) : MMIService where
  service := SubscriberService.create.step (.addSession ses)
  handlers := fun _ => []
  devListener := []
  remoteCooperateCallbacks := []
  anrNoticedPid := -1
  filter := none
  displayGroupInfo := none

theorem restarted_holds_nothing {ses : Server.Session} {pid : Int} (hpid : pid ≠ -1)
    (r : Registration) : ¬ (MMIService.restarted ses).Holds pid r := by
  cases r with
  | keyEvent subscribeId keyOption =>
    rintro ⟨_, _, x, hx, _⟩
    simp [MMIService.restarted, SubscriberService.step, SubscriberService.handlerStep,
      SubscriberService.create, KeySubscriberHandler.create] at hx
  | _ => simp [MMIService.Holds, MMIService.restarted, hpid.symm]

/-- A process that has subscribed to a key and added a monitor. -/
def listeningHistory : List ClientCall :=
  [.subscribeKeyEvent .create 100 smoothCall KeyOption.create, .addMonitor 1 retOk]

theorem restored_iff_listening :
    (∀ r, (runFrom (served 100 fun _ => smoothCall) (.restarted ⟨1, 7, 100⟩)
        (runFrom InputManagerImpl.step .create listeningHistory).onConnected).Holds 100 r ↔
          (runFrom InputManagerImpl.step .create listeningHistory).Holds r) ↔
      Restorable (runFrom InputManagerImpl.step .create listeningHistory) :=
  restored_iff 100 listeningHistory (.restarted ⟨1, 7, 100⟩) (restarted_holds_nothing (by decide))
    (fun _ => smoothCall) (by decide +kernel)

/-- A listener for devices is not asked for again: the process has it, the
server does not. -/
theorem counterexample_restored :
    ¬ ∀ (pid : Int) (history : List ClientCall) (v : MMIService)
      (calls : Request → SubscribeCall), (∀ r, ¬ v.Holds pid r) →
      AllSteps (served pid calls) (Succeeds pid calls) v
        (runFrom InputManagerImpl.step .create history).onConnected →
      ∀ r, (runFrom (served pid calls) v
        (runFrom InputManagerImpl.step .create history).onConnected).Holds pid r ↔
          (runFrom InputManagerImpl.step .create history).Holds r := by
  intro h
  have hserver := h 100 [.registerDevListener "change" 1 retOk] (.restarted ⟨1, 7, 100⟩)
    (fun _ => smoothCall) (restarted_holds_nothing (by decide)) trivial .devListener
  exact restarted_holds_nothing (by decide) _
    (hserver.mpr (show [1] ≠ ([] : List Nat) by decide))

end FtMmi.Client
