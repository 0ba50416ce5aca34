/-
FtMmi.InputDeviceCooperate.CooperationReplies — which listeners and which
requests hear of the cooperation, in any interleaving of sessions, calls
and completions.

`CooperateService` is the event manager beside what a reader wants to
compare it with: the sessions that registered and did not unregister, the
requests made, those nobody has refused or completed yet, and the replies
sent. A call is two events, since the completion of an earlier transition
can come from its own thread before the state machine has answered.

The manager keeps one request of a type and forgets the one before, it
keeps an entry for each registration, and it is not told when a session is
lost or a transition dropped. `repliesReach_of_met` says that this is all
that goes wrong.
-/
import FtMmi.InputDeviceCooperate.CooperateEventManager

namespace FtMmi.InputDeviceCooperate

open CooperateEventManager
open FtMmi.Lib

/-! ## The service -/

structure CooperateService where
  manager : CooperateEventManager
  connected : List Nat
  /-- Sessions and `EventInfo` objects made so far. -/
  sessions : Nat
  objects : Nat
  /-- The call the service thread is in, and its object. -/
  inCall : Option (RequestType × Nat)
  registered : List Nat
  requests : List EventInfo
  /-- The objects of the requests neither refused nor completed. -/
  awaiting : RequestType → List Nat
  replies : List Notification

namespace CooperateService

def create : CooperateService :=
  ⟨CooperateEventManager.create, [], 0, 0, none, [], [], fun _ => [], []⟩

inductive Event where
  | connect
  | lose (sess : Nat)
  | register (sess : Nat)
  | unregister (sess : Nat)
  | request (type : RequestType) (sess : Nat) (userData : Int32)
  /-- The state machine has answered the call the service is in. -/
  | answer (ret : Int) (state : Bool)
  | onStart (msg : Int) (deviceId : String)
  | onStop (msg : Int) (deviceId : String)
  /-- The state machine drops its transition and tells nobody. -/
  | drop (type : RequestType)
  | onCooperateMessage (msg : Int) (deviceId : String)

def connect (s : CooperateService) : CooperateService :=
  { s with connected := s.sessions :: s.connected, sessions := s.sessions + 1 }

/-- Nothing of the manager is registered for the loss of a session. -/
def lose (s : CooperateService) (sess : Nat) : CooperateService :=
  { s with
    connected := s.connected.filter (· ≠ sess)
    registered := s.registered.erase sess }

/-- `OnRegisterCooperateListener` -/
def register (s : CooperateService) (sess : Nat) : CooperateService :=
  if sess ∈ s.connected then
    { s with
      manager := s.manager.addCooperationEvent (listenerInfo s.objects sess)
      objects := s.objects + 1
      registered := if sess ∈ s.registered then s.registered else s.registered ++ [sess] }
  else s

/-- `OnUnregisterCooperateListener` -/
def unregister (s : CooperateService) (sess : Nat) : CooperateService :=
  if sess ∈ s.connected then
    { s with
      manager := s.manager.removeCooperationEvent sess
      registered := s.registered.erase sess }
  else s

/-- A request up to the call of the state machine. -/
def request (s : CooperateService) (type : RequestType) (sess : Nat) (userData : Int32) :
    CooperateService :=
  if sess ∈ s.connected then
    { s with
      manager := s.manager.addCooperationEvent (requestInfo s.objects type sess userData)
      objects := s.objects + 1
      inCall := some (type, s.objects)
      requests := s.requests ++ [requestInfo s.objects type sess userData]
      awaiting := Function.update s.awaiting type (s.awaiting type ++ [s.objects]) }
  else s

/-- Whether the call is over for the client, too. -/
def settles (type : RequestType) (ret : Int) : Bool := type = .state || ret ≠ retOk

def answered (s : CooperateService) (type : RequestType) (ref : Nat) (ret : Int) (state : Bool) :
    CooperateService :=
  { s with
    manager := (answer s.manager type ret state).2
    inCall := none
    awaiting :=
      if settles type ret then Function.update s.awaiting type ((s.awaiting type).erase ref)
      else s.awaiting
    replies := s.replies ++ (answer s.manager type ret state).1 }

/-- A transition is over, and with it every request for one. -/
def complete (s : CooperateService) (type : RequestType)
    (result : List Notification × CooperateEventManager) : CooperateService :=
  { s with
    manager := result.2
    awaiting := Function.update s.awaiting type []
    replies := s.replies ++ result.1 }

/-- `Reset`, and `StartRemoteCooperateResult` of a start the other side made:
`isStarting_` or `isStopping_` is false again, so the finish of the transition
returns before it tells anyone. The call the service is in has yet to be
answered. -/
def drop (s : CooperateService) (type : RequestType) : CooperateService :=
  { s with
    awaiting := Function.update s.awaiting type
      ((s.awaiting type).filter fun ref => s.inCall = some (type, ref)) }

/-- What the service thread does waits until it is out of its call. -/
def step (s : CooperateService) : Event → CooperateService
  | .connect => if s.inCall = none then s.connect else s
  | .lose sess => if s.inCall = none then s.lose sess else s
  | .register sess => if s.inCall = none then s.register sess else s
  | .unregister sess => if s.inCall = none then s.unregister sess else s
  | .request type sess userData => if s.inCall = none then s.request type sess userData else s
  | .answer ret state =>
      match s.inCall with
      | none => s
      | some (type, ref) => s.answered type ref ret state
  | .onStart msg deviceId => s.complete .start (s.manager.onStart msg deviceId)
  | .onStop msg deviceId => s.complete .stop (s.manager.onStop msg deviceId)
  | .drop type => s.drop type
  | .onCooperateMessage _ _ => s

/-- What the step sends. -/
def sent (s : CooperateService) : Event → List Notification
  | .answer ret state =>
      match s.inCall with
      | none => []
      | some (type, _) => (answer s.manager type ret state).1
  | .onStart msg deviceId => (s.manager.onStart msg deviceId).1
  | .onStop msg deviceId => (s.manager.onStop msg deviceId).1
  | .onCooperateMessage msg deviceId => (s.manager.onCooperateMessage msg deviceId).2
  | _ => []

/-! ## The properties -/

/-- Nothing is sent for a lost session, and a cooperation message goes once
to each session that is registered and to no other. -/
def Delivers (s : CooperateService) (e : Event) : Prop :=
  (∀ n ∈ s.sent e, n.sess ∈ s.connected) ∧
    ∀ msg deviceId, e = .onCooperateMessage msg deviceId →
      (∀ n ∈ s.sent e, n.content = .message deviceId msg) ∧
        ∀ sess, ((s.sent e).map (·.sess)).count sess = if sess ∈ s.registered then 1 else 0

/-- The replies sent from an object. -/
def repliesTo (s : CooperateService) (ref : Nat) : List Notification :=
  s.replies.filter fun n => n.ref = ref

def Awaits (s : CooperateService) (ref : Nat) : Prop := ∃ type, ref ∈ s.awaiting type

/-- The request has no reply while it waits and one, its own, from then on. -/
def RepliedOnce (s : CooperateService) (info : EventInfo) : Prop :=
  (s.Awaits info.ref → s.repliesTo info.ref = []) ∧
    (¬ s.Awaits info.ref → ∃ n, s.repliesTo info.ref = [n] ∧
      n.sess = info.sess ∧ n.msgId = info.msgId ∧ n.userData = info.userData)

def RepliesOnce (s : CooperateService) : Prop :=
  ∀ info ∈ s.requests, info.sess ∈ s.connected → s.RepliedOnce info

/-! ## The condition -/

/-- The request in the place of the type. -/
def waiting (s : CooperateService) (type : RequestType) : Option EventInfo :=
  s.manager.cooperateCallbacks type.eventType

/-- A session does not register twice, does not go while the manager has
anything of it, and asks for a start or a stop only when no request for
one waits; no transition is dropped that a request waits for. -/
def Met (s : CooperateService) : Event → Prop
  | .lose sess => s.inCall = none →
      (∀ info ∈ s.manager.remoteCooperateCallbacks, info.sess ≠ sess) ∧
        (∀ info ∈ s.waiting .start, info.sess ≠ sess) ∧
        ∀ info ∈ s.waiting .stop, info.sess ≠ sess
  | .register sess => s.inCall = none → sess ∈ s.connected →
      ∀ info ∈ s.manager.remoteCooperateCallbacks, info.sess ≠ sess
  | .request type sess _ => s.inCall = none → sess ∈ s.connected → type ≠ .state →
      s.waiting type = none
  | .drop type => ∀ info ∈ s.waiting type, s.inCall = some (type, info.ref)
  | _ => True

instance (s : CooperateService) (e : Event) : Decidable (s.Met e) := by
  cases e <;> unfold Met <;> infer_instance

/-! ## The invariant -/

/-- Listeners are the sessions registered; a request waits in its place or
does not wait. -/
structure Inv (s : CooperateService) : Prop where
  listeners : s.manager.remoteCooperateCallbacks.map (·.sess) = s.registered
  distinct : s.registered.Nodup
  live : ∀ sess ∈ s.registered, sess ∈ s.connected
  places : ∀ type, s.awaiting type = (s.waiting type).toList.map (·.ref)
  held : ∀ type, ∀ info ∈ s.waiting type,
    info ∈ s.requests ∧ info.sess ∈ s.connected ∧ info.type = type.eventType
  call : ∀ type ref, s.inCall = some (type, ref) → ∀ info ∈ s.waiting type, info.ref = ref
  idle : (∀ ref, s.inCall ≠ some (.state, ref)) → s.waiting .state = none
  fresh : ∀ info ∈ s.requests, info.ref < s.objects
  refs : ∀ info ∈ s.requests, ∀ info' ∈ s.requests, info.ref = info'.ref → info = info'
  old : ∀ n ∈ s.replies, n.ref < s.objects
  replied : ∀ info ∈ s.requests, s.RepliedOnce info

theorem create_inv : create.Inv := by
  constructor <;> simp [create, CooperateEventManager.create, waiting]

theorem eventType_injective : Function.Injective RequestType.eventType := by
  intro t t'
  cases t <;> cases t' <;> simp [RequestType.eventType]

theorem Inv.awaits_iff {s : CooperateService} (h : s.Inv) (ref : Nat) :
    s.Awaits ref ↔ ∃ type, ∃ info ∈ s.waiting type, info.ref = ref := by
  simp [Awaits, h.places]

/-- Two requests that wait with one object are one, in one place. -/
theorem Inv.eq_type {s : CooperateService} (h : s.Inv) {t t' : RequestType}
    {info info' : EventInfo} (hinfo : info ∈ s.waiting t) (hinfo' : info' ∈ s.waiting t')
    (href : info.ref = info'.ref) : t = t' := by
  obtain ⟨hreq, -, htype⟩ := h.held t info hinfo
  obtain ⟨hreq', -, htype'⟩ := h.held t' info' hinfo'
  have heq : info = info' := h.refs info hreq info' hreq' href
  exact eventType_injective (by rw [← htype, ← htype', heq])

/-! ## Replies -/

/-- What `reply` does, in one form. -/
theorem reply_eq (m : CooperateEventManager) (type : EventType) (content : Content) :
    m.reply type content =
      ((m.cooperateCallbacks type).toList.map (notify · content),
        { m with cooperateCallbacks := Function.update m.cooperateCallbacks type none }) := by
  unfold reply
  cases hinfo : m.cooperateCallbacks type with
  | none => simp [← hinfo]
  | some info => simp

/-- Whoever waits hears, and nobody waits any more. -/
def settle (s : CooperateService) (type : RequestType) (content : Content) : CooperateService :=
  s.complete type (s.manager.reply type.eventType content)

@[simp] theorem settle_waiting (s : CooperateService) (t : RequestType) (content : Content)
    (t' : RequestType) :
    (s.settle t content).waiting t' = if t' = t then none else s.waiting t' := by
  simp only [settle, complete, waiting, reply_eq, Function.update_apply,
    eventType_injective.eq_iff]

theorem settle_repliesTo (s : CooperateService) (t : RequestType) (content : Content) (ref : Nat) :
    (s.settle t content).repliesTo ref =
      s.repliesTo ref ++
        ((s.waiting t).toList.map (notify · content)).filter fun n => n.ref = ref := by
  simp only [settle, complete, repliesTo, reply_eq, List.filter_append, waiting]

/-- A request keeps what it has if the state keeps what concerns it. -/
theorem RepliedOnce.congr {s s' : CooperateService} {info : EventInfo} (h : s.RepliedOnce info)
    (hawaits : s'.Awaits info.ref ↔ s.Awaits info.ref)
    (hreplies : s'.repliesTo info.ref = s.repliesTo info.ref) : s'.RepliedOnce info := by
  unfold RepliedOnce
  rw [hawaits, hreplies]
  exact h

/-- The request that waits is replied to, the others are left alone. -/
theorem Inv.settle_replied {s : CooperateService} (h : s.Inv) (t : RequestType) (content : Content)
    {info : EventInfo} (hinfo : info ∈ s.requests) : (s.settle t content).RepliedOnce info := by
  have hawaits : (s.settle t content).Awaits info.ref ↔
      ∃ t', t' ≠ t ∧ ∃ w ∈ s.waiting t', w.ref = info.ref := by
    simp only [Awaits, settle, complete, Function.update_apply, h.places]
    refine exists_congr fun t' => ?_
    by_cases heq : t' = t <;> simp [heq]
  cases hw : s.waiting t with
  | none =>
    refine (h.replied info hinfo).congr ?_ (by simp [settle_repliesTo, hw])
    rw [hawaits, h.awaits_iff]
    refine exists_congr fun t' => and_iff_right_of_imp ?_
    rintro ⟨w, hmem, -⟩ rfl
    simp [hw] at hmem
  | some w =>
    obtain ⟨hreq, -, -⟩ := h.held t w hw
    by_cases href : w.ref = info.ref
    · have heq : w = info := h.refs w hreq info hinfo href
      subst heq
      have hempty : s.repliesTo w.ref = [] :=
        (h.replied w hinfo).1 ((h.awaits_iff _).mpr ⟨t, w, hw, rfl⟩)
      have hnot : ¬ (s.settle t content).Awaits w.ref := by
        rw [hawaits]
        rintro ⟨t', hne, w', hw', hrefs⟩
        exact hne (h.eq_type hw' hw hrefs)
      refine ⟨fun hyes => absurd hyes hnot, fun _ => ⟨notify w content, ?_, rfl, rfl, rfl⟩⟩
      simp [settle_repliesTo, hempty, hw, notify]
    · refine (h.replied info hinfo).congr ?_ (by simp [settle_repliesTo, hw, notify, href])
      rw [hawaits, h.awaits_iff]
      refine exists_congr fun t' => and_iff_right_of_imp ?_
      rintro ⟨w', hw', hrefs⟩ rfl
      cases hw.symm.trans hw'
      exact href hrefs

theorem Inv.settle {s : CooperateService} (h : s.Inv) (t : RequestType) (content : Content) :
    (s.settle t content).Inv := by
  have hwaiting : ∀ t', ∀ info ∈ (s.settle t content).waiting t', info ∈ s.waiting t' := by
    intro t' info hinfo
    rw [settle_waiting] at hinfo
    split at hinfo
    · simp at hinfo
    · exact hinfo
  constructor
  · simpa [CooperateService.settle, complete, reply_eq] using h.listeners
  · exact h.distinct
  · exact h.live
  · intro t'
    by_cases heq : t' = t <;> simp [CooperateService.settle, complete, heq, h.places, waiting,
      reply_eq, eventType_injective.eq_iff]
  · exact fun t' info hinfo => h.held t' info (hwaiting t' info hinfo)
  · exact fun t' ref hcall info hinfo => h.call t' ref hcall info (hwaiting t' info hinfo)
  · intro hidle
    rw [settle_waiting, h.idle hidle]
    simp
  · exact h.fresh
  · exact h.refs
  · intro n hn
    rcases List.mem_append.mp hn with hn | hn
    · exact h.old n hn
    · rw [reply_eq] at hn
      simp only [List.mem_map, Option.mem_toList] at hn
      obtain ⟨w, hw, rfl⟩ := hn
      exact h.fresh w (h.held t w hw).1
  · exact fun info hinfo => h.settle_replied t content hinfo

/-- The call is over. -/
theorem Inv.leave {s : CooperateService} (h : s.Inv) (hstate : s.waiting .state = none) :
    Inv { s with inCall := none } where
  __ := h
  call := by simp
  idle := fun _ => hstate

/-- What the service thread sends at the end of a call. -/
def answerContent (type : RequestType) (ret : Int) (state : Bool) : Content :=
  match type with
  | .state => .state state
  | .start | .stop => .message "" ret

theorem answer_of_settles (m : CooperateEventManager) {type : RequestType} {ret : Int}
    (hsettles : settles type ret = true) (state : Bool) :
    answer m type ret state = m.reply type.eventType (answerContent type ret state) := by
  cases type <;> simp_all [settles, answer, answerContent, onGetState, onErrorMessage,
    RequestType.eventType]

theorem answer_of_not_settles (m : CooperateEventManager) {type : RequestType} {ret : Int}
    (hsettles : settles type ret = false) (state : Bool) :
    type ≠ .state ∧ answer m type ret state = ([], m) := by
  cases type <;> simp_all [settles, answer]

theorem Inv.answered_eq {s : CooperateService} (h : s.Inv) {type : RequestType} {ref : Nat}
    (hcall : s.inCall = some (type, ref)) {ret : Int} (hsettles : settles type ret = true)
    (state : Bool) :
    s.answered type ref ret state =
      { s.settle type (answerContent type ret state) with inCall := none } := by
  have herase : (s.awaiting type).erase ref = [] := by
    rw [h.places]
    cases hw : s.waiting type with
    | none => rfl
    | some w => simp [h.call type ref hcall w hw]
  simp [answered, CooperateService.settle, complete, answer_of_settles _ hsettles, hsettles,
    herase]

theorem Inv.answered {s : CooperateService} (h : s.Inv) {type : RequestType} {ref : Nat}
    (hcall : s.inCall = some (type, ref)) (ret : Int) (state : Bool) :
    (s.answered type ref ret state).Inv := by
  have hidle : type ≠ .state → s.waiting .state = none := by
    intro hne
    refine h.idle fun ref' hcall' => hne ?_
    rw [hcall] at hcall'
    cases hcall'
    rfl
  cases hsettles : settles type ret with
  | true =>
    rw [h.answered_eq hcall hsettles]
    refine (h.settle type _).leave ?_
    rw [settle_waiting]
    split
    · rfl
    · exact hidle (Ne.symm ‹_›)
  | false =>
    obtain ⟨hne, hanswer⟩ := answer_of_not_settles s.manager hsettles state
    have heq : s.answered type ref ret state = { s with inCall := none } := by
      simp [CooperateService.answered, hanswer, hsettles]
    rw [heq]
    exact h.leave (hidle hne)

/-- A transition nobody waits for. -/
theorem Inv.drop_eq {s : CooperateService} (h : s.Inv) {t : RequestType}
    (hmet : s.Met (.drop t)) : s.drop t = s := by
  have hkept : (s.awaiting t).filter (fun ref => s.inCall = some (t, ref)) = s.awaiting t := by
    rw [List.filter_eq_self, h.places]
    intro ref href
    simp only [List.mem_map, Option.mem_toList] at href
    obtain ⟨info, hinfo, rfl⟩ := href
    simp [hmet info hinfo]
  simp [drop, hkept]

/-! ## Sessions and listeners -/

theorem Inv.connect {s : CooperateService} (h : s.Inv) : s.connect.Inv where
  __ := h
  live := fun sess hsess => List.mem_cons_of_mem _ (h.live sess hsess)
  held := fun t info hinfo =>
    have hheld := h.held t info hinfo
    ⟨hheld.1, List.mem_cons_of_mem _ hheld.2.1, hheld.2.2⟩

/-- A session goes that the manager has nothing of. -/
theorem Inv.lose {s : CooperateService} (h : s.Inv) {sess : Nat} (hcall : s.inCall = none)
    (hmet : s.Met (.lose sess)) : (s.lose sess).Inv := by
  obtain ⟨hlisteners, hstart, hstop⟩ := hmet hcall
  have hgone : sess ∉ s.registered := by
    rw [← h.listeners, List.mem_map]
    rintro ⟨info, hinfo, heq⟩
    exact hlisteners info hinfo heq
  have hother : ∀ t, ∀ info ∈ s.waiting t, info.sess ≠ sess := by
    intro t
    cases t with
    | start => exact hstart
    | stop => exact hstop
    | state => simp [h.idle (by simp [hcall])]
  have hsame : (s.lose sess).registered = s.registered := List.erase_of_not_mem hgone
  constructor
  · rw [hsame]
    exact h.listeners
  · rw [hsame]
    exact h.distinct
  · rw [hsame]
    intro x hx
    have hne : x ≠ sess := fun heq => hgone (heq ▸ hx)
    simpa [CooperateService.lose, hne] using h.live x hx
  · exact h.places
  · intro t info hinfo
    obtain ⟨hreq, hlive, htype⟩ := h.held t info hinfo
    refine ⟨hreq, ?_, htype⟩
    simpa [CooperateService.lose, hother t info hinfo] using hlive
  · exact h.call
  · exact h.idle
  · exact h.fresh
  · exact h.refs
  · exact h.old
  · exact h.replied

theorem Inv.register {s : CooperateService} (h : s.Inv) {sess : Nat} (hcall : s.inCall = none)
    (hmet : s.Met (.register sess)) : (s.register sess).Inv := by
  unfold CooperateService.register
  split
  · next hlive =>
    have hnew : sess ∉ s.registered := by
      rw [← h.listeners, List.mem_map]
      rintro ⟨info, hinfo, heq⟩
      exact hmet hcall hlive info hinfo heq
    rw [if_neg hnew]
    constructor
    · simp [addCooperationEvent, listenerInfo, h.listeners]
    · exact List.nodup_append.mpr ⟨h.distinct, List.nodup_singleton _, by
        rintro x hx y hy rfl
        exact hnew (List.mem_singleton.mp hy ▸ hx)⟩
    · intro x hx
      rcases List.mem_append.mp hx with hx | hx
      · exact h.live x hx
      · rw [List.mem_singleton.mp hx]
        exact hlive
    · exact h.places
    · exact h.held
    · exact h.call
    · exact h.idle
    · exact fun info hinfo => (h.fresh info hinfo).trans (Nat.lt_succ_self _)
    · exact h.refs
    · exact fun n hn => (h.old n hn).trans (Nat.lt_succ_self _)
    · exact h.replied
  · exact h

theorem Inv.unregister {s : CooperateService} (h : s.Inv) (sess : Nat) :
    (s.unregister sess).Inv := by
  unfold CooperateService.unregister
  split
  · constructor
    · rw [← h.listeners, List.erase_eq_eraseP', List.eraseP_map]
      rfl
    · exact h.distinct.erase sess
    · exact fun x hx => h.live x (List.mem_of_mem_erase hx)
    · exact h.places
    · exact h.held
    · exact h.call
    · exact h.idle
    · exact h.fresh
    · exact h.refs
    · exact h.old
    · exact h.replied
  · exact h

/-! ## Requests -/

theorem request_waiting (s : CooperateService) (t : RequestType) {sess : Nat} (userData : Int32)
    (hlive : sess ∈ s.connected) (t' : RequestType) :
    (s.request t sess userData).waiting t' =
      if t' = t then some (requestInfo s.objects t sess userData) else s.waiting t' := by
  have htype : (requestInfo s.objects t sess userData).type = t.eventType := rfl
  have hne : t.eventType ≠ .listener := by cases t <;> simp [RequestType.eventType]
  simp [request, hlive, waiting, addCooperationEvent, htype, hne, Function.update_apply,
    eventType_injective.eq_iff]

/-- The object of a request is new, so nobody has replied to it. -/
theorem Inv.request_replied {s : CooperateService} (h : s.Inv) (t : RequestType) {sess : Nat}
    (userData : Int32) (hlive : sess ∈ s.connected) {info : EventInfo}
    (hinfo : info ∈ (s.request t sess userData).requests) :
    (s.request t sess userData).RepliedOnce info := by
  have hawaiting : (s.request t sess userData).awaiting =
      Function.update s.awaiting t (s.awaiting t ++ [s.objects]) := by simp [request, hlive]
  have hreplies : (s.request t sess userData).replies = s.replies := by simp [request, hlive]
  have hrequests : (s.request t sess userData).requests =
      s.requests ++ [requestInfo s.objects t sess userData] := by simp [request, hlive]
  rw [hrequests, List.mem_append, List.mem_singleton] at hinfo
  rcases hinfo with hinfo | rfl
  · refine (h.replied info hinfo).congr ?_ (by rw [repliesTo, hreplies, repliesTo])
    have hne : info.ref ≠ s.objects := (h.fresh info hinfo).ne
    unfold Awaits
    rw [hawaiting]
    refine exists_congr fun t' => ?_
    by_cases heq : t' = t
    · subst heq
      simp [hne]
    · simp [heq]
  · have hwaits : (s.request t sess userData).Awaits s.objects := by
      refine ⟨t, ?_⟩
      simp [hawaiting]
    refine ⟨fun _ => ?_, fun hnot => absurd hwaits hnot⟩
    rw [repliesTo, hreplies, List.filter_eq_nil_iff]
    intro n hn
    have hlt : n.ref < s.objects := h.old n hn
    simp [requestInfo, hlt.ne]

/-- A request finds its place free. -/
theorem Inv.request {s : CooperateService} (h : s.Inv) {t : RequestType} {sess : Nat}
    {userData : Int32} (hcall : s.inCall = none) (hmet : s.Met (.request t sess userData)) :
    (s.request t sess userData).Inv := by
  by_cases hlive : sess ∈ s.connected
  · have hfree : s.waiting t = none := by
      by_cases hstate : t = .state
      · rw [hstate]
        exact h.idle (by simp [hcall])
      · exact hmet hcall hlive hstate
    have hwaiting := request_waiting s t userData hlive
    have hrequests : (s.request t sess userData).requests =
        s.requests ++ [requestInfo s.objects t sess userData] := by simp [CooperateService.request, hlive]
    have hobjects : (s.request t sess userData).objects = s.objects + 1 := by
      simp [CooperateService.request, hlive]
    constructor
    · cases t <;>
        simp [CooperateService.request, hlive, addCooperationEvent, requestInfo, RequestType.eventType, h.listeners]
    · simpa [CooperateService.request, hlive] using h.distinct
    · simpa [CooperateService.request, hlive] using h.live
    · intro t'
      rw [hwaiting]
      by_cases heq : t' = t
      · subst heq
        simp [CooperateService.request, hlive, h.places, hfree, requestInfo]
      · simp [CooperateService.request, hlive, heq, h.places]
    · intro t' info hinfo
      rw [hwaiting] at hinfo
      rw [hrequests]
      split at hinfo
      · next heq =>
        cases hinfo
        refine ⟨by simp, ?_, heq ▸ rfl⟩
        simp only [CooperateService.request, hlive, if_true]
        exact hlive
      · obtain ⟨hreq, hsess, htype⟩ := h.held t' info hinfo
        exact ⟨List.mem_append_left _ hreq, by simpa [CooperateService.request, hlive] using hsess, htype⟩
    · intro t' ref hcall' info hinfo
      have hhere : t = t' ∧ s.objects = ref := by simpa [CooperateService.request, hlive] using hcall'
      obtain ⟨rfl, rfl⟩ := hhere
      rw [hwaiting, if_pos rfl] at hinfo
      cases hinfo
      rfl
    · intro hidle
      have hne : RequestType.state ≠ t := by
        rintro rfl
        exact hidle s.objects (by simp [CooperateService.request, hlive])
      rw [hwaiting, if_neg hne]
      exact h.idle (by simp [hcall])
    · intro info hinfo
      rw [hrequests, List.mem_append, List.mem_singleton] at hinfo
      rw [hobjects]
      rcases hinfo with hinfo | rfl
      · exact (h.fresh info hinfo).trans (Nat.lt_succ_self _)
      · exact Nat.lt_succ_self _
    · intro info hinfo info' hinfo' href
      rw [hrequests, List.mem_append, List.mem_singleton] at hinfo hinfo'
      rcases hinfo with hinfo | rfl <;> rcases hinfo' with hinfo' | rfl
      · exact h.refs info hinfo info' hinfo' href
      · exact absurd href (h.fresh info hinfo).ne
      · exact absurd href (h.fresh info' hinfo').ne'
      · rfl
    · intro n hn
      rw [hobjects]
      exact (h.old n (by simpa [CooperateService.request, hlive] using hn)).trans (Nat.lt_succ_self _)
    · exact fun info hinfo => h.request_replied t userData hlive hinfo
  · simpa [CooperateService.request, hlive] using h

/-! ## Runs -/

theorem Inv.step {s : CooperateService} (h : s.Inv) (e : Event) (hmet : s.Met e) :
    (s.step e).Inv := by
  cases e with
  | connect =>
    dsimp only [CooperateService.step]
    split
    · exact h.connect
    · exact h
  | lose sess =>
    dsimp only [CooperateService.step]
    split
    · next hcall => exact h.lose hcall hmet
    · exact h
  | register sess =>
    dsimp only [CooperateService.step]
    split
    · next hcall => exact h.register hcall hmet
    · exact h
  | unregister sess =>
    dsimp only [CooperateService.step]
    split
    · exact h.unregister sess
    · exact h
  | request t sess userData =>
    dsimp only [CooperateService.step]
    split
    · next hcall => exact h.request hcall hmet
    · exact h
  | answer ret state =>
    dsimp only [CooperateService.step]
    split
    · exact h
    · next t ref hcall => exact h.answered hcall ret state
  | onStart msg deviceId => exact h.settle .start (.message deviceId msg)
  | onStop msg deviceId => exact h.settle .stop (.message deviceId msg)
  | drop t =>
    have heq : s.step (.drop t) = s := h.drop_eq hmet
    rwa [heq]
  | onCooperateMessage => exact h

theorem Inv.reply_connected {s : CooperateService} (h : s.Inv) (t : RequestType)
    (content : Content) : ∀ n ∈ (s.manager.reply t.eventType content).1, n.sess ∈ s.connected := by
  intro n hn
  rw [reply_eq] at hn
  simp only [List.mem_map, Option.mem_toList] at hn
  obtain ⟨w, hw, rfl⟩ := hn
  exact (h.held t w hw).2.1

/-- What goes out goes to sessions that are there. -/
theorem Inv.sent_connected {s : CooperateService} (h : s.Inv) (e : Event) :
    ∀ n ∈ s.sent e, n.sess ∈ s.connected := by
  cases e with
  | answer ret state =>
    dsimp only [sent]
    split
    · simp
    · next t ref hcall =>
      cases hsettles : settles t ret with
      | true =>
        rw [answer_of_settles _ hsettles]
        exact h.reply_connected t _
      | false => simp [(answer_of_not_settles s.manager hsettles state).2]
  | onStart msg deviceId => exact h.reply_connected .start _
  | onStop msg deviceId => exact h.reply_connected .stop _
  | onCooperateMessage msg deviceId =>
    intro n hn
    dsimp only [sent, CooperateEventManager.onCooperateMessage] at hn
    split at hn
    · simp at hn
    · obtain ⟨info, hinfo, rfl⟩ := List.mem_map.mp hn
      refine h.live _ ?_
      rw [← h.listeners]
      exact List.mem_map_of_mem hinfo
  | _ => simp [sent]

theorem Inv.delivers {s : CooperateService} (h : s.Inv) (e : Event) : s.Delivers e := by
  refine ⟨h.sent_connected e, ?_⟩
  rintro msg deviceId rfl
  have hsent : s.sent (.onCooperateMessage msg deviceId) =
      s.manager.remoteCooperateCallbacks.map (notify · (.message deviceId msg)) := by
    simp only [sent, CooperateEventManager.onCooperateMessage]
    split
    · next hempty => simp [List.isEmpty_iff.mp hempty]
    · rfl
  have hsess : (s.sent (.onCooperateMessage msg deviceId)).map (·.sess) = s.registered := by
    rw [hsent, List.map_map, ← h.listeners]
    rfl
  refine ⟨?_, fun sess => ?_⟩
  · rw [hsent]
    simp [notify]
  · rw [hsess]
    split
    · next hmem => exact List.count_eq_one_of_mem h.distinct hmem
    · next hmem => exact List.count_eq_zero.mpr hmem

/-- As long as no session registers twice, goes with something of it left
behind, or asks while another request of the type waits, and no request
loses its transition, messages and replies reach those they are for. -/
theorem repliesReach_of_met (events : List Event) (h : AllSteps step Met create events) :
    AllSteps step Delivers create events ∧ Always step RepliesOnce create events := by
  have hstep : ∀ (s : CooperateService) (e : Event), s.Inv → s.Met e → (s.step e).Inv :=
    fun s e hs hmet => hs.step e hmet
  constructor
  · exact allSteps_of_allSteps hstep (fun s e hs _ => hs.delivers e) events create create_inv h
  · refine (always_of_allSteps hstep events create create_inv h).mono fun s hs info hinfo _ => ?_
    exact hs.replied info hinfo

/-- Two clients, one that listens and one that asks. -/
theorem repliesReach_of_met_run :
    AllSteps step Delivers create
        [.connect, .connect, .register 0, .request .start 1 7, .onCooperateMessage 200 "",
          .answer retOk false, .request .state 0 8, .onStart 201 "", .answer 0 true,
          .unregister 0, .lose 0] ∧
      Always step RepliesOnce create
        [.connect, .connect, .register 0, .request .start 1 7, .onCooperateMessage 200 "",
          .answer retOk false, .request .state 0 8, .onStart 201 "", .answer 0 true,
          .unregister 0, .lose 0] :=
  repliesReach_of_met _ (by decide)

/-- A second request takes the place of the first; a session that registers
twice hears twice; a lost session is still sent to; a reset leaves a request
without an answer. -/
theorem counterexample_replies :
    ¬ Always step RepliesOnce create
        [.connect, .connect, .request .start 0 7, .answer retOk false, .request .start 1 8,
          .answer 4400002 false, .onStart 201 ""] ∧
      ¬ Always step RepliesOnce create
        [.connect, .request .start 0 7, .answer retOk false, .drop .start] ∧
      ¬ AllSteps step Delivers create
        [.connect, .register 0, .register 0, .onCooperateMessage 202 ""] ∧
      ¬ AllSteps step Delivers create
        [.connect, .register 0, .lose 0, .onCooperateMessage 202 ""] := by
  refine ⟨fun h => ?_, fun h => ?_, fun h => ?_, fun h => ?_⟩
  · have hlast := h.last (requestInfo 0 .start 0 7) (by decide) (by decide)
    obtain ⟨n, hn, -⟩ := hlast.2 (by rintro ⟨t, ht⟩; cases t <;> revert ht <;> decide)
    exact absurd (hn.symm.trans (by decide)) (List.cons_ne_nil n [])
  · have hlast := h.last (requestInfo 0 .start 0 7) (by decide) (by decide)
    obtain ⟨n, hn, -⟩ := hlast.2 (by rintro ⟨t, ht⟩; cases t <;> revert ht <;> decide)
    exact absurd (hn.symm.trans (by decide)) (List.cons_ne_nil n [])
  · obtain ⟨-, -, -, ⟨-, h⟩, -⟩ := h
    have hcount := (h 202 "" rfl).2 0
    revert hcount
    decide
  · obtain ⟨-, -, -, ⟨h, -⟩, -⟩ := h
    revert h
    decide

end CooperateService

end FtMmi.InputDeviceCooperate
