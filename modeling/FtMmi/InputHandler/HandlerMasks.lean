/-
FtMmi.InputHandler.HandlerMasks — the mask of a session at the server is
the union of the masks of its handlers.

The client asks the server for a new mask only when the union changes. The
server keeps the two bits it knows of what it is asked for; the callers of
`AddHandler` pass masks with no other bits (`KnownInput`).
-/
import FtMmi.InputHandler.InputHandlerManager
import FtMmi.Lib.KeyedList
import FtMmi.Lib.StepSystem

namespace FtMmi.InputHandler

open FtMmi.Lib

/-! ## Runs -/

/-- The two kinds of handlers. Each has a manager in the client and a
collection in the server. -/
inductive HandlerKind where
  | monitor
  | interceptor
  deriving DecidableEq, Repr

namespace HandlerKind

def handlerType : HandlerKind → InputHandlerType
  | .monitor => .monitor
  | .interceptor => .interceptor

def limit : HandlerKind → Nat
  | .monitor => maxNInputMonitors
  | .interceptor => maxNInputInterceptors

/-- `OnAddInputHandler` -/
def onAddInputHandler (kind : HandlerKind) (handlers : List SessionHandler)
    (eventType : HandleEventType) (session : Nat) : Int × List SessionHandler :=
  addInputHandler kind.limit handlers kind.handlerType eventType session

/-- `OnRemoveInputHandler` -/
def onRemoveInputHandler (kind : HandlerKind) (handlers : List SessionHandler)
    (eventType : HandleEventType) (session : Nat) : List SessionHandler :=
  removeInputHandler kind.handlerType handlers kind.handlerType eventType session

end HandlerKind

/-- The manager of a client, and the handlers of the server. -/
structure HandlerService where
  manager : InputHandlerManager
  server : List SessionHandler

/-- A request may be refused before it gets to the server's handlers. -/
inductive HandlerInput where
  | addHandler (consumer : Nat) (eventType : HandleEventType) (granted : Bool)
  | removeHandler (handlerId : Int) (granted : Bool)
  /-- the requests of other sessions, and their end -/
  | otherAdd (eventType : HandleEventType) (session : Nat)
  | otherRemove (eventType : HandleEventType) (session : Nat)
  | otherLost (session : Nat)

/-- A handler is added with types that there are. -/
def HandlerInput.Known : HandlerInput → Prop
  | .addHandler _ eventType _ => eventType &&& handleEventTypeAll = eventType
  | _ => True

abbrev KnownInput : Type := { i : HandlerInput // i.Known }

namespace HandlerService

variable (kind : HandlerKind) (own : Nat)

/-- The client begins when it has connected; others may be there. -/
def create (server : List SessionHandler) : HandlerService := ⟨.create, eraseSession server own⟩

/-- `AddToServer` -/
def addToServer (s : HandlerService) (eventType : HandleEventType) (granted : Bool) :
    Int × List SessionHandler :=
  if granted then kind.onAddInputHandler s.server eventType own else (retErr, s.server)

/-- `RemoveFromServer` -/
def removeFromServer (s : HandlerService) (eventType : HandleEventType) (granted : Bool) :
    Int × List SessionHandler :=
  if granted then (retOk, kind.onRemoveInputHandler s.server eventType own)
  else (retErr, s.server)

def step (s : HandlerService) : HandlerInput → HandlerService
  | .addHandler consumer eventType granted =>
      let p := s.manager.prepareHandler kind.handlerType consumer eventType
      match p.2.1 with
      | none => { s with manager := p.2.2 }
      | some newType =>
          let r := s.addToServer kind own newType granted
          ⟨(p.2.2.finishHandler p.1 kind.handlerType r.1).2, r.2⟩
  | .removeHandler handlerId granted =>
      let p := s.manager.removeHandler handlerId kind.handlerType
      match p.1 with
      | none => { s with manager := p.2 }
      | some newType => ⟨p.2, (s.removeFromServer kind own newType granted).2⟩
  | .otherAdd eventType session =>
      if session = own then s
      else { s with server := (kind.onAddInputHandler s.server eventType session).2 }
  | .otherRemove eventType session =>
      if session = own then s
      else { s with server := kind.onRemoveInputHandler s.server eventType session }
  | .otherLost session =>
      if session = own then s else { s with server := eraseSession s.server session }

/-- The request of the step succeeds, if it makes one. -/
def Succeeds (s : HandlerService) : HandlerInput → Prop
  | .addHandler consumer eventType granted =>
      ∀ newType ∈ (s.manager.prepareHandler kind.handlerType consumer eventType).2.1,
        (s.addToServer kind own newType granted).1 = retOk
  | .removeHandler handlerId granted =>
      ∀ newType ∈ (s.manager.removeHandler handlerId kind.handlerType).1,
        (s.removeFromServer kind own newType granted).1 = retOk
  | _ => True

instance (s : HandlerService) : (i : HandlerInput) → Decidable (s.Succeeds kind own i)
  | .addHandler consumer eventType _ =>
      Option.decidableForallMem (s.manager.prepareHandler kind.handlerType consumer eventType).2.1
  | .removeHandler handlerId _ =>
      Option.decidableForallMem (s.manager.removeHandler handlerId kind.handlerType).1
  | .otherAdd _ _ => isTrue trivial
  | .otherRemove _ _ => isTrue trivial
  | .otherLost _ => isTrue trivial

end HandlerService

/-! ## The property -/

def unionOf (masks : List HandleEventType) : HandleEventType := masks.foldr (· ||| ·) 0

/-- The union of the masks of the client's handlers. -/
def HandlerService.union (s : HandlerService) : HandleEventType :=
  unionOf (s.manager.inputHandlers.map Handler.eventType)

structure MasksAgree (own : Nat) (s : HandlerService) : Prop where
  mask : ∀ handler ∈ s.server, handler.session = own → handler.eventType = s.union
  entry : (∃ handler ∈ s.server, handler.session = own) ↔ s.union ≠ 0
  /-- The server reports the types of the union. -/
  reported : ∀ type, type = handleEventTypeKey ∨ type = handleEventTypePointer →
    ((∃ handler ∈ s.server, handler.session = own ∧ handles handler.eventType type = true) ↔
      handles s.union type = true)
  /-- An event is passed to each handler that has its type, once. -/
  key : s.manager.onKeyEvent
    = s.manager.inputHandlers.filter fun handler => handles handler.eventType handleEventTypeKey
  pointer : ∀ tokenType sourceType eventId,
    (s.manager.getConsumerInfos tokenType sourceType eventId).1
      = s.manager.inputHandlers.filter fun handler =>
          handles handler.eventType handleEventTypePointer
  once : (s.manager.inputHandlers.map Handler.handlerId).Nodup

/-! ## Unions -/

theorem unionOf_perm {ms ms' : List HandleEventType} (h : ms.Perm ms') :
    unionOf ms = unionOf ms' := h.foldr_eq' (fun a _ b _ c => by
      rw [← UInt32.or_assoc, ← UInt32.or_assoc, UInt32.or_comm b a]) 0

theorem getEventType_eq (s : InputHandlerManager) :
    s.getEventType = unionOf (s.inputHandlers.map Handler.eventType) := by
  have hfold : ∀ (handlers : List Handler) (a : HandleEventType),
      handlers.foldl (fun eventType handler => eventType ||| handler.eventType) a
        = a ||| unionOf (handlers.map Handler.eventType) := by
    intro handlers
    induction handlers with
    | nil => simp [unionOf]
    | cons handler handlers ih =>
      intro a
      rw [List.foldl_cons, ih, UInt32.or_assoc]
      rfl
  rw [InputHandlerManager.getEventType, hfold]
  simp [handleEventTypeNone]

/-! ## The manager -/

/-- Ids are given out in order and once. -/
structure Numbered (s : InputHandlerManager) : Prop where
  nodup : (s.inputHandlers.map Handler.handlerId).Nodup
  lt : ∀ handler ∈ s.inputHandlers, handler.handlerId < s.nextId
  pos : 0 < s.nextId

theorem numbered_create : Numbered .create :=
  ⟨List.nodup_nil, (fun _ h => nomatch h), by decide⟩

variable {s : InputHandlerManager}

theorem Numbered.removeLocal (hs : Numbered s) (handlerId : Int) (handlerType : InputHandlerType) :
    ((s.removeLocal handlerId handlerType).1 ≠ retOk ∧ (s.removeLocal handlerId handlerType).2 = s) ∨
      ((s.removeLocal handlerId handlerType).1 = retOk ∧
        Numbered (s.removeLocal handlerId handlerType).2 ∧
        ∃ handler, s.inputHandlers.Perm
          (handler :: (s.removeLocal handlerId handlerType).2.inputHandlers)) := by
  unfold InputHandlerManager.removeLocal
  cases hfind : s.inputHandlers.find? fun handler => handler.handlerId = handlerId with
  | none => exact .inl ⟨by simp [retErr, retOk], rfl⟩
  | some handler =>
    dsimp only
    split
    · exact .inl ⟨by simp [retErr, retOk], rfl⟩
    · have hid : handler.handlerId = handlerId := by simpa using List.find?_some hfind
      refine .inr ⟨rfl, ⟨hs.nodup.sublist (List.filter_sublist.map _), fun other hother => ?_, hs.pos⟩,
        handler, ?_⟩
      · exact hs.lt other (List.mem_of_mem_filter hother)
      · subst hid
        exact perm_cons_filter_key hs.nodup (List.mem_of_find?_eq_some hfind)

/-- `AddHandler` adds a handler and asks for the new union if it is new, or
adds none and asks for nothing. -/
theorem Numbered.prepareHandler (hs : Numbered s) (handlerType : InputHandlerType) (consumer : Nat)
    (eventType : HandleEventType) :
    let p := s.prepareHandler handlerType consumer eventType
    (p.2.1 = none ∧ p.2.2.inputHandlers = s.inputHandlers ∧ Numbered p.2.2) ∨
      ∃ handler, handler.handlerId = p.1 ∧ handler.eventType = eventType ∧
        p.2.2.inputHandlers.Perm (handler :: s.inputHandlers) ∧ Numbered p.2.2 ∧
        p.2.1 = if s.getEventType ≠ p.2.2.getEventType then some p.2.2.getEventType else none := by
  intro p
  by_cases hfull : maxNInputHandlers ≤ s.inputHandlers.length
  · simp only [p, InputHandlerManager.prepareHandler, if_pos hfull]
    exact .inl ⟨trivial, trivial, hs⟩
  by_cases hend : s.nextId = int32Max
  · simp only [p, InputHandlerManager.prepareHandler, if_neg hfull, InputHandlerManager.getNextId,
      if_pos hend, if_true]
    exact .inl ⟨trivial, trivial, hs⟩
  have hid : s.nextId ≠ invalidHandlerId := by
    have hpos := hs.pos
    unfold invalidHandlerId
    omega
  have hnext : Numbered { s with nextId := s.nextId + 1 } := by
    refine ⟨hs.nodup, fun handler hmem => ?_, ?_⟩
    · have hlt := hs.lt handler hmem
      show handler.handlerId < s.nextId + 1
      omega
    · have hpos := hs.pos
      show 0 < s.nextId + 1
      omega
  by_cases hnone : eventType = handleEventTypeNone
  · simp only [p, InputHandlerManager.prepareHandler, if_neg hfull, InputHandlerManager.getNextId,
      if_neg hend, if_neg hid, if_pos hnone]
    exact .inl ⟨trivial, trivial, hnext⟩
  have hnew : (s.inputHandlers.any fun handler => handler.handlerId = s.nextId) = false := by
    rw [List.any_eq_false]
    intro handler hmem
    have hlt := hs.lt handler hmem
    simp only [decide_eq_true_eq]
    omega
  have hperm := List.perm_orderedInsert (fun a b : Handler => a.handlerId ≤ b.handlerId)
    ⟨s.nextId, handlerType, eventType, consumer⟩ s.inputHandlers
  simp only [p, InputHandlerManager.prepareHandler, if_neg hfull, InputHandlerManager.getNextId,
    if_neg hend, if_neg hid, if_neg hnone, InputHandlerManager.addLocal, hnew, Bool.false_eq_true, if_false, if_true]
  refine .inr ⟨_, rfl, rfl, hperm, ⟨?_, fun handler hmem => ?_, hnext.pos⟩, rfl⟩
  · rw [(hperm.map Handler.handlerId).nodup_iff, List.map_cons, List.nodup_cons]
    refine ⟨fun hmem => ?_, hs.nodup⟩
    obtain ⟨handler, hmem, heq⟩ := List.mem_map.mp hmem
    exact absurd heq (hs.lt handler hmem).ne
  · rcases List.mem_cons.mp (hperm.mem_iff.mp hmem) with rfl | hmem
    · show s.nextId < s.nextId + 1
      omega
    · exact hnext.lt handler hmem

/-- With ids given out once every consumer is kept. -/
theorem consumersOf_eq (infos handlers : List Handler)
    (h : ((infos ++ handlers).map Handler.handlerId).Nodup) :
    InputHandlerManager.consumersOf infos handlers
      = infos ++ handlers.filter fun handler => handles handler.eventType handleEventTypePointer := by
  induction handlers generalizing infos with
  | nil => simp [InputHandlerManager.consumersOf]
  | cons handler handlers ih =>
    rw [InputHandlerManager.consumersOf, List.filter_cons]
    cases hhandles : handles handler.eventType handleEventTypePointer with
    | false =>
      simp only [Bool.not_false, if_true, Bool.false_eq_true, if_false]
      refine ih infos (h.sublist (List.Sublist.map _ ?_))
      exact List.Sublist.append_left (List.sublist_cons_self _ _) _
    | true =>
      have hnew : (infos.any fun info => info.handlerId = handler.handlerId) = false := by
        rw [List.map_append, List.map_cons, List.nodup_append'] at h
        rw [List.any_eq_false]
        intro info hinfo
        rw [decide_eq_true_eq]
        intro heq
        exact h.2.2 (List.mem_map_of_mem hinfo) (heq ▸ List.mem_cons_self)
      simp only [Bool.not_true, Bool.false_eq_true, if_false, hnew, if_true]
      rw [ih (infos ++ [handler]) (by simpa using h)]
      simp

theorem Numbered.getConsumerInfos (hs : Numbered s) (tokenType : Int) (sourceType eventId : Int32) :
    (s.getConsumerInfos tokenType sourceType eventId).1
      = s.inputHandlers.filter fun handler => handles handler.eventType handleEventTypePointer := by
  have hinfos : (s.getConsumerInfos tokenType sourceType eventId).1
      = InputHandlerManager.consumersOf [] s.inputHandlers := by
    unfold InputHandlerManager.getConsumerInfos
    dsimp only
    split
    · rfl
    split
    · rfl
    split
    · split
      · rfl
      · rfl
    · rfl
  rw [hinfos, consumersOf_eq [] s.inputHandlers (by simpa using hs.nodup), List.nil_append]

/-! ## The server -/

/-- The entry of a session, if it has any, has the mask. -/
structure HoldsMask (handlers : List SessionHandler) (own : Nat) (mask : HandleEventType) : Prop where
  held : ∀ handler ∈ handlers, handler.session = own → handler.eventType = mask
  entry : (∃ handler ∈ handlers, handler.session = own) ↔ mask ≠ 0

variable {handlers : List SessionHandler} {own : Nat} {mask : HandleEventType}

theorem findSession_some {found : SessionHandler} (h : findSession handlers own = some found) :
    found ∈ handlers ∧ found.session = own :=
  ⟨List.mem_of_find?_eq_some h, by simpa using List.find?_some h⟩

theorem findSession_none (h : findSession handlers own = none) :
    ∀ handler ∈ handlers, handler.session ≠ own := by
  simpa [findSession] using h

theorem mem_eraseSession {handler : SessionHandler} :
    handler ∈ eraseSession handlers own ↔ handler ∈ handlers ∧ handler.session ≠ own := by
  simp [eraseSession]

/-- The entry is replaced, or a new one is made. -/
theorem holdsMask_replaced (handlers : List SessionHandler) (handler : SessionHandler)
    (h : handler.eventType ≠ 0) :
    HoldsMask (eraseSession handlers handler.session ++ [handler]) handler.session
      handler.eventType := by
  constructor
  · intro other hother hsession
    rcases List.mem_append.mp hother with hother | hother
    · exact absurd hsession (mem_eraseSession.mp hother).2
    · rw [List.mem_singleton.mp hother]
  · exact ⟨fun _ => h, fun _ => ⟨handler, by simp, rfl⟩⟩

theorem holdsMask_erased (handlers : List SessionHandler) (own : Nat) :
    HoldsMask (eraseSession handlers own) own 0 := by
  constructor
  · intro other hother hsession
    exact absurd hsession (mem_eraseSession.mp hother).2
  · constructor
    · rintro ⟨other, hother, hsession⟩
      exact absurd hsession (mem_eraseSession.mp hother).2
    · intro hne
      exact absurd rfl hne

theorem HoldsMask.added {limit : Nat} (handler : SessionHandler)
    (hs : HoldsMask handlers handler.session mask) (h : handler.eventType ≠ 0)
    (hok : (addSessionHandler limit handlers handler).1 = retOk) :
    HoldsMask (addSessionHandler limit handlers handler).2 handler.session handler.eventType := by
  unfold addSessionHandler at hok ⊢
  split
  · rename_i hfull
    simp [if_pos hfull, retErr, retOk] at hok
  · split
    · rename_i found hfound
      obtain ⟨hmem, hsession⟩ := findSession_some hfound
      by_cases hsame : found.eventType = handler.eventType
      · rw [if_pos hsame, ← hsame, hs.held found hmem hsession]
        exact hs
      · rw [if_neg hsame]
        exact holdsMask_replaced handlers handler h
    · rename_i hnone
      have herase : eraseSession handlers handler.session = handlers :=
        List.filter_eq_self.mpr fun other hother => by simpa using findSession_none hnone other hother
      have hreplaced := holdsMask_replaced handlers handler h
      rw [herase] at hreplaced
      exact hreplaced

theorem HoldsMask.removed (handler : SessionHandler)
    (hs : HoldsMask handlers handler.session mask) (h : mask = 0 → handler.eventType = 0) :
    HoldsMask (removeSessionHandler handlers handler) handler.session handler.eventType := by
  unfold removeSessionHandler
  split
  · rename_i hnone
    have hmask : mask = 0 := by
      by_contra hne
      obtain ⟨other, hother, hsession⟩ := hs.entry.mpr hne
      exact findSession_none hnone other hother hsession
    rw [h hmask, ← hmask]
    exact hs
  · split
    · rename_i hzero
      rw [hzero]
      exact holdsMask_erased handlers handler.session
    · rename_i hne
      exact holdsMask_replaced handlers handler hne

/-- Nothing is done to the entry. -/
theorem HoldsMask.of_mem_iff (hs : HoldsMask handlers own mask) {handlers' : List SessionHandler}
    (h : ∀ handler, handler.session = own → (handler ∈ handlers' ↔ handler ∈ handlers)) :
    HoldsMask handlers' own mask := by
  constructor
  · intro handler hmem hsession
    exact hs.held handler ((h handler hsession).mp hmem) hsession
  · rw [← hs.entry]
    exact exists_congr fun handler =>
      ⟨fun ⟨hmem, hsession⟩ => ⟨(h handler hsession).mp hmem, hsession⟩,
        fun ⟨hmem, hsession⟩ => ⟨(h handler hsession).mpr hmem, hsession⟩⟩

theorem mem_addSessionHandler_other {limit : Nat} {handler other : SessionHandler}
    (h : other.session ≠ handler.session) :
    other ∈ (addSessionHandler limit handlers handler).2 ↔ other ∈ handlers := by
  have hne : other ≠ handler := fun heq => h (heq ▸ rfl)
  unfold addSessionHandler
  split
  · exact Iff.rfl
  · split
    · split
      · exact Iff.rfl
      · simp [mem_eraseSession, h, hne]
    · simp [hne]

theorem mem_removeSessionHandler_other {handler other : SessionHandler}
    (h : other.session ≠ handler.session) :
    other ∈ removeSessionHandler handlers handler ↔ other ∈ handlers := by
  have hne : other ≠ handler := fun heq => h (heq ▸ rfl)
  unfold removeSessionHandler
  split
  · exact Iff.rfl
  · split
    · simp [mem_eraseSession, h]
    · simp [mem_eraseSession, h, hne]

/-! ## One step -/

variable {kind : HandlerKind} {v : HandlerService}

structure Agree (own : Nat) (v : HandlerService) : Prop where
  numbered : Numbered v.manager
  holds : HoldsMask v.server own (v.union &&& handleEventTypeAll)

theorem create_agree (own : Nat) (server : List SessionHandler) :
    Agree own (.create own server) := by
  refine ⟨numbered_create, ?_⟩
  show HoldsMask (eraseSession server own) own (0 &&& handleEventTypeAll)
  rw [UInt32.zero_and]
  exact holdsMask_erased server own

theorem Agree.added (hv : Agree own v) {eventType : HandleEventType} {granted : Bool}
    (hok : (v.addToServer kind own eventType granted).1 = retOk) :
    HoldsMask (v.addToServer kind own eventType granted).2 own (eventType &&& handleEventTypeAll) := by
  unfold HandlerService.addToServer at hok ⊢
  cases granted with
  | false => simp [retErr, retOk] at hok
  | true =>
    simp only [if_true, HandlerKind.onAddInputHandler, addInputHandler] at hok ⊢
    split
    · rename_i hnone
      simp [if_pos hnone, retErr, retOk] at hok
    · rename_i hsome
      rw [if_neg hsome] at hok
      exact HoldsMask.added (.create kind.handlerType eventType own) hv.holds hsome hok

theorem Agree.removed (hv : Agree own v) {eventType : HandleEventType} {granted : Bool}
    (hok : (v.removeFromServer kind own eventType granted).1 = retOk)
    (hless : v.union &&& handleEventTypeAll = 0 → eventType &&& handleEventTypeAll = 0) :
    HoldsMask (v.removeFromServer kind own eventType granted).2 own
      (eventType &&& handleEventTypeAll) := by
  unfold HandlerService.removeFromServer at hok ⊢
  cases granted with
  | false => simp [retErr, retOk] at hok
  | true =>
    simp only [if_true, HandlerKind.onRemoveInputHandler, removeInputHandler]
    exact HoldsMask.removed (.create kind.handlerType eventType own) hv.holds hless

theorem union_of_perm {s s' : InputHandlerManager} {handler : Handler}
    (h : s.inputHandlers.Perm (handler :: s'.inputHandlers)) :
    unionOf (s.inputHandlers.map Handler.eventType)
      = handler.eventType ||| unionOf (s'.inputHandlers.map Handler.eventType) :=
  unionOf_perm (h.map Handler.eventType)

/-- What a mask does not have, a smaller one does not have. -/
theorem and_eq_zero_of_or {a b c : HandleEventType} (h : (a ||| b) &&& c = 0) : b &&& c = 0 := by
  rw [← UInt32.toNat_inj] at h ⊢
  refine Nat.eq_of_testBit_eq fun i => ?_
  have hbit := congrArg (fun n => n.testBit i) h
  simp only [UInt32.toNat_and, UInt32.toNat_or, Nat.testBit_and, Nat.testBit_or] at hbit ⊢
  simp only [UInt32.toNat_zero, Nat.zero_testBit] at hbit ⊢
  revert hbit
  cases a.toNat.testBit i <;> cases b.toNat.testBit i <;> simp

theorem step_agree (v : HandlerService) (i : HandlerInput) (hv : Agree own v)
    (hok : v.Succeeds kind own i) : Agree own (v.step kind own i) := by
  cases i with
  | addHandler consumer eventType granted =>
    simp only [HandlerService.Succeeds] at hok
    simp only [HandlerService.step]
    rcases hv.numbered.prepareHandler kind.handlerType consumer eventType with
      ⟨hnone, hsame, hnumbered⟩ | ⟨handler, _, _, hperm, hnumbered, hrequest⟩
    · rw [hnone]
      refine ⟨hnumbered, ?_⟩
      rw [HandlerService.union, hsame]
      exact hv.holds
    · rw [getEventType_eq, getEventType_eq] at hrequest
      split at hrequest
      · have hadded := hv.added (hok _ hrequest)
        rw [hrequest]
        simp only [InputHandlerManager.finishHandler, hok _ hrequest, ne_eq, not_true_eq_false,
          if_false]
        exact ⟨hnumbered, hadded⟩
      · rename_i hsame
        rw [hrequest]
        refine ⟨hnumbered, ?_⟩
        rw [HandlerService.union, ← not_not.mp hsame]
        exact hv.holds
  | removeHandler handlerId granted =>
    simp only [HandlerService.Succeeds, InputHandlerManager.removeHandler] at hok
    simp only [HandlerService.step, InputHandlerManager.removeHandler]
    rcases hv.numbered.removeLocal handlerId kind.handlerType with
      ⟨hfail, hsame⟩ | ⟨hfound, hnumbered, handler, hperm⟩
    · rw [if_neg hfail, hsame]
      exact hv
    · rw [if_pos hfound] at hok ⊢
      rw [getEventType_eq, getEventType_eq] at hok ⊢
      split at hok
      · rename_i hchange
        rw [if_pos hchange]
        refine ⟨hnumbered, hv.removed (hok _ rfl) fun hzero => ?_⟩
        rw [HandlerService.union, union_of_perm hperm] at hzero
        exact and_eq_zero_of_or hzero
      · rename_i hsame
        rw [if_neg hsame]
        refine ⟨hnumbered, ?_⟩
        rw [HandlerService.union, ← not_not.mp hsame]
        exact hv.holds
  | otherAdd eventType session =>
    simp only [HandlerService.step]
    split
    · exact hv
    · rename_i hother
      refine ⟨hv.numbered, hv.holds.of_mem_iff fun handler hsession => ?_⟩
      unfold HandlerKind.onAddInputHandler addInputHandler
      split
      · exact Iff.rfl
      · exact mem_addSessionHandler_other fun heq => hother (heq.symm.trans hsession)
  | otherRemove eventType session =>
    simp only [HandlerService.step]
    split
    · exact hv
    · rename_i hother
      refine ⟨hv.numbered, hv.holds.of_mem_iff fun handler hsession => ?_⟩
      simp only [HandlerKind.onRemoveInputHandler, removeInputHandler, if_true]
      exact mem_removeSessionHandler_other fun heq => hother (heq.symm.trans hsession)
  | otherLost session =>
    simp only [HandlerService.step]
    split
    · exact hv
    · rename_i hother
      refine ⟨hv.numbered, hv.holds.of_mem_iff fun handler hsession => ?_⟩
      rw [mem_eraseSession, and_iff_left fun heq => hother (heq.symm.trans hsession)]

/-! ## Masks with known bits -/

/-- No handler of the client has a bit that the server does not know. -/
def Within (v : HandlerService) : Prop :=
  ∀ handler ∈ v.manager.inputHandlers, handler.eventType &&& handleEventTypeAll = handler.eventType

theorem or_and_distrib (a b c : HandleEventType) : (a ||| b) &&& c = (a &&& c) ||| (b &&& c) :=
  UInt32.eq_of_toBitVec_eq BitVec.and_or_distrib_right

theorem unionOf_and {known : HandleEventType} :
    ∀ {ms : List HandleEventType}, (∀ m ∈ ms, m &&& known = m) → unionOf ms &&& known = unionOf ms
  | [], _ => UInt32.zero_and
  | m :: ms, h => by
      have hrest : unionOf ms &&& known = unionOf ms :=
        unionOf_and fun m' hm' => h m' (List.mem_cons_of_mem m hm')
      show (m ||| unionOf ms) &&& known = m ||| unionOf ms
      rw [or_and_distrib, h m List.mem_cons_self, hrest]

theorem Within.union_and (h : Within v) : v.union &&& handleEventTypeAll = v.union := by
  refine unionOf_and fun m hm => ?_
  obtain ⟨handler, hmem, rfl⟩ := List.mem_map.mp hm
  exact h handler hmem

theorem mem_of_mem_removeLocal {s : InputHandlerManager} {handlerId : Int}
    {handlerType : InputHandlerType} {handler : Handler}
    (hmem : handler ∈ (s.removeLocal handlerId handlerType).2.inputHandlers) :
    handler ∈ s.inputHandlers := by
  unfold InputHandlerManager.removeLocal at hmem
  split at hmem
  · exact hmem
  · split at hmem
    · exact hmem
    · exact List.mem_of_mem_filter hmem

theorem mem_prepareHandler (hv : Agree own v) {consumer : Nat} {eventType : HandleEventType}
    {handler : Handler} (hmem : handler ∈
      (v.manager.prepareHandler kind.handlerType consumer eventType).2.2.inputHandlers) :
    handler ∈ v.manager.inputHandlers ∨ handler.eventType = eventType := by
  rcases hv.numbered.prepareHandler kind.handlerType consumer eventType with
    ⟨_, hsame, _⟩ | ⟨new, _, htype, hperm, _, _⟩
  · exact .inl (hsame ▸ hmem)
  · rcases List.mem_cons.mp (hperm.mem_iff.mp hmem) with rfl | hold
    · exact .inr htype
    · exact .inl hold

/-- A handler was there, or is the one that is added. -/
theorem mem_step (hv : Agree own v) {i : HandlerInput} {handler : Handler}
    (hmem : handler ∈ (v.step kind own i).manager.inputHandlers) :
    handler ∈ v.manager.inputHandlers ∨
      ∃ consumer granted, i = .addHandler consumer handler.eventType granted := by
  cases i with
  | addHandler consumer eventType granted =>
    have hthere : handler ∈
        (v.manager.prepareHandler kind.handlerType consumer eventType).2.2.inputHandlers := by
      simp only [HandlerService.step] at hmem
      split at hmem
      · exact hmem
      · simp only [InputHandlerManager.finishHandler] at hmem
        split at hmem
        · exact mem_of_mem_removeLocal hmem
        · exact hmem
    rcases mem_prepareHandler hv hthere with hold | htype
    · exact .inl hold
    · exact .inr ⟨consumer, granted, by rw [htype]⟩
  | removeHandler handlerId granted =>
    have hmanager : (v.step kind own (.removeHandler handlerId granted)).manager
        = (v.manager.removeHandler handlerId kind.handlerType).2 := by
      simp only [HandlerService.step]
      split <;> rfl
    rw [hmanager, InputHandlerManager.removeHandler] at hmem
    dsimp only at hmem
    have hleft : handler ∈
        (v.manager.removeLocal handlerId kind.handlerType).2.inputHandlers := by
      split at hmem <;> exact hmem
    exact .inl (mem_of_mem_removeLocal hleft)
  | otherAdd eventType session =>
    simp only [HandlerService.step] at hmem
    split at hmem <;> exact .inl hmem
  | otherRemove eventType session =>
    simp only [HandlerService.step] at hmem
    split at hmem <;> exact .inl hmem
  | otherLost session =>
    simp only [HandlerService.step] at hmem
    split at hmem <;> exact .inl hmem

theorem Within.step (h : Within v) (hv : Agree own v) {i : HandlerInput} (hknown : i.Known) :
    Within (v.step kind own i) := by
  intro handler hmem
  rcases mem_step hv hmem with hold | ⟨consumer, granted, rfl⟩
  · exact h handler hold
  · exact hknown

theorem Agree.agrees (hv : Agree own v) (hwithin : Within v) : MasksAgree own v := by
  have hholds := hv.holds
  rw [hwithin.union_and] at hholds
  refine ⟨hholds.held, hholds.entry, fun type htype => ?_, rfl, hv.numbered.getConsumerInfos,
    hv.numbered.nodup⟩
  constructor
  · rintro ⟨handler, hmem, hsession, hhandles⟩
    rw [hholds.held handler hmem hsession] at hhandles
    exact hhandles
  · intro hhandles
    have hne : v.union ≠ 0 := by
      intro hzero
      rw [hzero] at hhandles
      revert hhandles
      rcases htype with rfl | rfl
      · decide
      · decide
    obtain ⟨handler, hmem, hsession⟩ := hholds.entry.mpr hne
    exact ⟨handler, hmem, hsession, (hholds.held handler hmem hsession).symm ▸ hhandles⟩

/-! ## Every run -/

/-- In every run whose requests succeed, after each call the server has the union of
the client's masks, and an event reaches the handlers that have its type. -/
theorem masksAgree (kind : HandlerKind) (own : Nat) (server : List SessionHandler)
    (is : List KnownInput)
    (h : AllSteps (fun (s : HandlerService) (i : KnownInput) => s.step kind own i.1)
      (fun s i => s.Succeeds kind own i.1) (.create own server) is) :
    Always (fun (s : HandlerService) (i : KnownInput) => s.step kind own i.1) (MasksAgree own)
      (.create own server) is := by
  have hkeep : ∀ (s : HandlerService) (i : KnownInput), Agree own s ∧ Within s →
      s.Succeeds kind own i.1 → Agree own (s.step kind own i.1) ∧ Within (s.step kind own i.1) :=
    fun s i hs hok => ⟨step_agree s i.1 hs.1 hok, hs.2.step hs.1 i.2⟩
  have hcreate : Within (.create own server) := fun _ hmem => nomatch hmem
  exact (always_of_allSteps hkeep is _ ⟨create_agree own server, hcreate⟩ h).mono
    fun _ hs => hs.1.agrees hs.2

/-- Two monitors with masks that overlap come and go. -/
theorem masksAgree_overlapping :
    Always (fun (s : HandlerService) (i : KnownInput) => s.step .monitor 1 i.1) (MasksAgree 1)
      (.create 1 [])
      [⟨.addHandler 10 1 true, rfl⟩, ⟨.addHandler 11 3 true, rfl⟩,
        ⟨.removeHandler 2 true, trivial⟩, ⟨.removeHandler 1 true, trivial⟩] :=
  masksAgree .monitor 1 [] _ (by decide +kernel)

end FtMmi.InputHandler
