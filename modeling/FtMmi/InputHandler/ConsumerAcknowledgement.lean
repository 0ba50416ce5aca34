/-
FtMmi.InputHandler.ConsumerAcknowledgement — when an application tells the
server that a touch event has been processed.

Every handler gets a copy of the event, with a callback that it loses when
the copy is marked. The ids of the events are the server's and are given
out once. Handlers may come and go meanwhile; the connection is there.
-/
import FtMmi.InputHandler.InputHandlerManager
import FtMmi.Lib.StepSystem

namespace FtMmi.InputHandler

open FtMmi.EventHandler (tokenHap)
open FtMmi.Lib
open FtMmi.WindowManager (sourceTypeMouse sourceTypeTouchscreen)

/-! ## Runs -/

/-- The event of a consumer: a copy that has its callback until it is
marked. -/
structure Copy where
  eventId : Int32
  sourceType : Int32
  handlerId : Int
  callback : Bool
  deriving DecidableEq, Repr

structure ConsumerService where
  manager : InputHandlerManager
  copies : List Copy
  /-- The ids of the `MARK_PROCESS` sent. -/
  sent : List Int32

inductive ConsumerInput where
  /-- with the server's answer, if it is asked -/
  | addHandler (handlerType : InputHandlerType) (consumer : Nat) (eventType : HandleEventType)
      (ret : Int)
  | removeHandler (handlerId : Int) (handlerType : InputHandlerType)
  | onInputEvent (sourceType eventId : Int32)
  | markProcessed (copy : Nat)

namespace ConsumerService

def create : ConsumerService := ⟨.create, [], []⟩

/-- `MarkProcessed` -/
def markProcessed (s : ConsumerService) (index : Nat) : ConsumerService :=
  match s.copies[index]? with
  | none => s
  | some copy =>
      if !copy.callback then s
      else
        let r := s.manager.onDispatchEventProcessed copy.eventId
        { manager := r.2
          copies := s.copies.set index { copy with callback := false }
          sent := s.sent ++ r.1 }

/-- `OnInputEvent` in an application's process. -/
def onInputEvent (s : ConsumerService) (sourceType eventId : Int32) : ConsumerService :=
  let r := s.manager.getConsumerInfos tokenHap sourceType eventId
  { s with
    manager := r.2
    copies := s.copies ++
      r.1.map fun handler => ⟨eventId, sourceType, handler.handlerId, true⟩ }

def step (s : ConsumerService) : ConsumerInput → ConsumerService
  | .addHandler handlerType consumer eventType ret =>
      let p := s.manager.prepareHandler handlerType consumer eventType
      match p.2.1 with
      | none => { s with manager := p.2.2 }
      | some _ => { s with manager := (p.2.2.finishHandler p.1 handlerType ret).2 }
  | .removeHandler handlerId handlerType =>
      { s with manager := (s.manager.removeHandler handlerId handlerType).2 }
  | .onInputEvent sourceType eventId => s.onInputEvent sourceType eventId
  | .markProcessed copy => s.markProcessed copy

/-- An event has an id of its own. -/
def Fresh (s : ConsumerService) : ConsumerInput → Prop
  | .onInputEvent _ eventId => eventId ∉ s.copies.map Copy.eventId
  | _ => True

instance (s : ConsumerService) (i : ConsumerInput) : Decidable (s.Fresh i) := by
  cases i <;> unfold Fresh <;> infer_instance

/-! ## The property -/

/-- The copies of an event that are not marked yet. -/
def pending (s : ConsumerService) (eventId : Int32) : Nat :=
  s.copies.countP fun copy => copy.eventId = eventId ∧ copy.callback = true

/-- For a touch event one message is sent as soon as all its copies are
marked, and none before. -/
def AcknowledgedOnce (s : ConsumerService) : Prop :=
  ∀ copy ∈ s.copies, copy.sourceType = sourceTypeTouchscreen →
    s.sent.count copy.eventId = if s.pending copy.eventId = 0 then 1 else 0

end ConsumerService

/-! ## The invariant -/

/-- What the manager knows of an event of which `pending` copies are not
marked. -/
structure CountsTouch (s : ConsumerService) (eventId : Int32) (pending : Nat) : Prop where
  processed : s.manager.processedEvents eventId = if pending = 0 then none else some pending
  sent : s.sent.count eventId = if pending = 0 then 1 else 0
  notMouse : eventId ∉ s.manager.mouseEventIds

structure Counted (s : ConsumerService) : Prop where
  touch : ∀ copy ∈ s.copies, copy.sourceType = sourceTypeTouchscreen →
    CountsTouch s copy.eventId (s.pending copy.eventId)
  unknown : ∀ eventId, eventId ∉ s.copies.map Copy.eventId →
    s.manager.processedEvents eventId = none ∧ eventId ∉ s.manager.mouseEventIds ∧
      eventId ∉ s.sent
  source : ∀ copy ∈ s.copies, ∀ other ∈ s.copies, copy.eventId = other.eventId →
    copy.sourceType = other.sourceType

theorem create_counted : Counted .create :=
  ⟨(fun _ h => nomatch h), fun _ _ => ⟨rfl, List.not_mem_nil, List.not_mem_nil⟩,
    (fun _ h => nomatch h)⟩

variable {s : ConsumerService} {eventId : Int32}

/-- The manager's records of events are left alone. -/
theorem Counted.of_manager (hs : Counted s) {manager : InputHandlerManager}
    (hprocessed : manager.processedEvents = s.manager.processedEvents)
    (hmouse : manager.mouseEventIds = s.manager.mouseEventIds) :
    Counted { s with manager := manager } := by
  refine ⟨fun copy hcopy htouch => ?_, fun id hid => ?_, hs.source⟩
  · obtain ⟨h₁, h₂, h₃⟩ := hs.touch copy hcopy htouch
    exact ⟨(congrFun hprocessed _).trans h₁, h₂, hmouse.symm ▸ h₃⟩
  · obtain ⟨h₁, h₂, h₃⟩ := hs.unknown id hid
    exact ⟨(congrFun hprocessed _).trans h₁, hmouse.symm ▸ h₂, h₃⟩

/-! ## The handlers -/

/-- Two managers with the same records of events. -/
def SameEvents (s s' : InputHandlerManager) : Prop :=
  s'.processedEvents = s.processedEvents ∧ s'.mouseEventIds = s.mouseEventIds

theorem removeLocal_sameEvents (s : InputHandlerManager) (handlerId : Int)
    (handlerType : InputHandlerType) : SameEvents s (s.removeLocal handlerId handlerType).2 := by
  unfold InputHandlerManager.removeLocal
  split
  · exact ⟨rfl, rfl⟩
  · split
    · exact ⟨rfl, rfl⟩
    · exact ⟨rfl, rfl⟩

theorem removeHandler_sameEvents (s : InputHandlerManager) (handlerId : Int)
    (handlerType : InputHandlerType) : SameEvents s (s.removeHandler handlerId handlerType).2 := by
  have hremoved := removeLocal_sameEvents s handlerId handlerType
  unfold InputHandlerManager.removeHandler
  dsimp only
  split
  · exact hremoved
  · exact hremoved

theorem addLocal_sameEvents (s : InputHandlerManager) (handlerId : Int)
    (handlerType : InputHandlerType) (eventType : HandleEventType) (consumer : Nat) :
    SameEvents s (s.addLocal handlerId handlerType eventType consumer).2 := by
  unfold InputHandlerManager.addLocal
  split
  · exact ⟨rfl, rfl⟩
  · exact ⟨rfl, rfl⟩

theorem getNextId_sameEvents (s : InputHandlerManager) : SameEvents s s.getNextId.2 := by
  unfold InputHandlerManager.getNextId
  split
  · exact ⟨rfl, rfl⟩
  · exact ⟨rfl, rfl⟩

theorem SameEvents.trans {s s' s'' : InputHandlerManager} (h : SameEvents s s')
    (h' : SameEvents s' s'') : SameEvents s s'' := ⟨h'.1.trans h.1, h'.2.trans h.2⟩

theorem prepareHandler_sameEvents (s : InputHandlerManager) (handlerType : InputHandlerType)
    (consumer : Nat) (eventType : HandleEventType) :
    SameEvents s (s.prepareHandler handlerType consumer eventType).2.2 := by
  have hnext := getNextId_sameEvents s
  unfold InputHandlerManager.prepareHandler
  split
  · exact ⟨rfl, rfl⟩
  dsimp only
  split
  · exact hnext
  split
  · exact hnext
  split
  · exact hnext.trans (addLocal_sameEvents ..)
  · exact hnext.trans (addLocal_sameEvents ..)

theorem finishHandler_sameEvents (s : InputHandlerManager) (handlerId : Int)
    (handlerType : InputHandlerType) (ret : Int) :
    SameEvents s (s.finishHandler handlerId handlerType ret).2 := by
  unfold InputHandlerManager.finishHandler
  split
  · exact removeLocal_sameEvents ..
  · exact ⟨rfl, rfl⟩

/-! ## Deliveries -/

/-- What a delivery notes: the number of the consumers of a touch event. -/
theorem getConsumerInfos_cases (s : InputHandlerManager) (sourceType eventId : Int32)
    (hnew : s.processedEvents eventId = none) :
    let r := s.getConsumerInfos tokenHap sourceType eventId
    r.2 = s ∧ (r.1 = [] ∨ sourceType ≠ sourceTypeTouchscreen) ∨
      r.1 ≠ [] ∧ sourceType = sourceTypeTouchscreen ∧ r.2 = { s with
        processedEvents := Function.update s.processedEvents eventId (some r.1.length) } ∨
      r.1 ≠ [] ∧ sourceType = sourceTypeMouse ∧
        r.2 = { s with mouseEventIds := s.mouseEventIds.insert eventId } := by
  intro r
  by_cases hempty : (InputHandlerManager.consumersOf [] s.inputHandlers).length = 0
  · have hr : r = (InputHandlerManager.consumersOf [] s.inputHandlers, s) := by
      simp only [r, InputHandlerManager.getConsumerInfos, if_pos hempty]
    rw [hr]
    exact .inl ⟨rfl, .inl (List.eq_nil_of_length_eq_zero hempty)⟩
  have hsome : InputHandlerManager.consumersOf [] s.inputHandlers ≠ [] := fun h => by simp [h] at hempty
  by_cases htouch : sourceType = sourceTypeTouchscreen
  · have hmouse : sourceType ≠ sourceTypeMouse := by
      rw [htouch]
      decide
    have hr : r = (InputHandlerManager.consumersOf [] s.inputHandlers, { s with
        processedEvents := Function.update s.processedEvents eventId
          (some (InputHandlerManager.consumersOf [] s.inputHandlers).length) }) := by
      simp only [r, InputHandlerManager.getConsumerInfos, if_neg hempty, ne_eq, not_true_eq_false,
        if_false, if_neg hmouse, if_pos htouch, hnew]
    rw [hr]
    exact .inr (.inl ⟨hsome, htouch, rfl⟩)
  · by_cases hmouse : sourceType = sourceTypeMouse
    · have hr : r = (InputHandlerManager.consumersOf [] s.inputHandlers,
          { s with mouseEventIds := s.mouseEventIds.insert eventId }) := by
        simp only [r, InputHandlerManager.getConsumerInfos, if_neg hempty, ne_eq, not_true_eq_false,
          if_false, if_pos hmouse, if_neg htouch]
      rw [hr]
      exact .inr (.inr ⟨hsome, hmouse, rfl⟩)
    · have hr : r = (InputHandlerManager.consumersOf [] s.inputHandlers, s) := by
        simp only [r, InputHandlerManager.getConsumerInfos, if_neg hempty, ne_eq, not_true_eq_false,
          if_false, if_neg hmouse, if_neg htouch]
      rw [hr]
      exact .inl ⟨rfl, .inr htouch⟩

/-- The copies of one event. -/
def copiesOf (sourceType eventId : Int32) (handlers : List Handler) : List Copy :=
  handlers.map fun handler => ⟨eventId, sourceType, handler.handlerId, true⟩

theorem mem_copiesOf {sourceType : Int32} {handlers : List Handler} {copy : Copy}
    (h : copy ∈ copiesOf sourceType eventId handlers) :
    copy.eventId = eventId ∧ copy.sourceType = sourceType ∧ copy.callback = true := by
  obtain ⟨handler, _, rfl⟩ := List.mem_map.mp h
  exact ⟨rfl, rfl, rfl⟩

theorem pending_append (s : ConsumerService) (new : List Copy) (id : Int32) :
    ConsumerService.pending { s with copies := s.copies ++ new } id
      = s.pending id + new.countP fun copy => copy.eventId = id ∧ copy.callback = true := by
  rw [ConsumerService.pending, List.countP_append]
  rfl

theorem pending_new (hnew : eventId ∉ s.copies.map Copy.eventId) : s.pending eventId = 0 := by
  rw [ConsumerService.pending, List.countP_eq_zero]
  intro copy hcopy hpending
  simp only [decide_eq_true_eq] at hpending
  exact hnew (hpending.1 ▸ List.mem_map_of_mem hcopy)

/-- The copies of an event with a new id are added, and the manager notes
nothing of other events. -/
theorem Counted.deliver (hs : Counted s) (hnew : eventId ∉ s.copies.map Copy.eventId)
    {manager : InputHandlerManager} {sourceType : Int32} {handlers : List Handler}
    (hothers : ∀ id, id ≠ eventId →
      manager.processedEvents id = s.manager.processedEvents id ∧
        (id ∈ manager.mouseEventIds ↔ id ∈ s.manager.mouseEventIds))
    (hnone : handlers = [] → manager = s.manager)
    (htouch : handlers ≠ [] → sourceType = sourceTypeTouchscreen →
      manager.processedEvents eventId = some handlers.length ∧
        eventId ∉ manager.mouseEventIds) :
    Counted { s with
      manager := manager, copies := s.copies ++ copiesOf sourceType eventId handlers } := by
  have hids : ∀ copy ∈ s.copies, copy.eventId ≠ eventId := fun copy hcopy heq =>
    hnew (heq ▸ List.mem_map_of_mem hcopy)
  have hpending : ∀ id, ConsumerService.pending
      { s with manager := manager, copies := s.copies ++ copiesOf sourceType eventId handlers } id
        = s.pending id + if id = eventId then handlers.length else 0 := by
    intro id
    refine (pending_append s _ id).trans ?_
    congr 1
    by_cases hid : id = eventId
    · rw [if_pos hid, List.countP_eq_length.mpr fun copy hcopy => ?_]
      · exact List.length_map _
      · obtain ⟨heq, _, hcallback⟩ := mem_copiesOf hcopy
        simp [heq, hid, hcallback]
    · rw [if_neg hid, List.countP_eq_zero]
      intro copy hcopy
      simp [(mem_copiesOf hcopy).1, Ne.symm hid]
  constructor
  · intro copy hcopy hsource
    rw [hpending]
    rcases List.mem_append.mp hcopy with hcopy | hcopy
    · obtain ⟨h₁, h₂, h₃⟩ := hs.touch copy hcopy hsource
      obtain ⟨hprocessed, hmouse⟩ := hothers copy.eventId (hids copy hcopy)
      rw [if_neg (hids copy hcopy), Nat.add_zero]
      exact ⟨hprocessed.trans h₁, h₂, fun hmem => h₃ (hmouse.mp hmem)⟩
    · obtain ⟨heq, hsame, _⟩ := mem_copiesOf hcopy
      have hsome : handlers ≠ [] := by
        rintro rfl
        cases hcopy
      have hlength : handlers.length ≠ 0 := fun h => hsome (List.eq_nil_of_length_eq_zero h)
      obtain ⟨hprocessed, hmouse⟩ := htouch hsome (hsame ▸ hsource)
      rw [heq, pending_new hnew, if_pos rfl, Nat.zero_add]
      refine ⟨?_, ?_, hmouse⟩
      · rw [if_neg hlength]
        exact hprocessed
      · rw [if_neg hlength]
        exact List.count_eq_zero_of_not_mem (hs.unknown eventId hnew).2.2
  · intro id hid
    have hold : id ∉ s.copies.map Copy.eventId := fun hmem => hid (by
      rw [List.map_append]
      exact List.mem_append_left _ hmem)
    obtain ⟨h₁, h₂, h₃⟩ := hs.unknown id hold
    by_cases heq : id = eventId
    · -- Nobody got the event.
      have hempty : handlers = [] := by
        by_contra hsome
        obtain ⟨handler, hmem⟩ := List.exists_mem_of_ne_nil _ hsome
        refine hid (List.mem_map.mpr ⟨⟨eventId, sourceType, handler.handlerId, true⟩, ?_, heq.symm⟩)
        exact List.mem_append_right _ (List.mem_map_of_mem hmem)
      rw [hnone hempty]
      exact ⟨h₁, h₂, h₃⟩
    · obtain ⟨hprocessed, hmouse⟩ := hothers id heq
      exact ⟨hprocessed.trans h₁, fun hmem => h₂ (hmouse.mp hmem), h₃⟩
  · intro copy hcopy other hother heq
    rcases List.mem_append.mp hcopy with hcopy | hcopy
    · rcases List.mem_append.mp hother with hother | hother
      · exact hs.source copy hcopy other hother heq
      · exact absurd (heq.trans (mem_copiesOf hother).1) (hids copy hcopy)
    · rcases List.mem_append.mp hother with hother | hother
      · exact absurd (heq.symm.trans (mem_copiesOf hcopy).1) (hids other hother)
      · rw [(mem_copiesOf hcopy).2.1, (mem_copiesOf hother).2.1]

theorem Counted.onInputEvent (hs : Counted s) (hnew : eventId ∉ s.copies.map Copy.eventId)
    (sourceType : Int32) : Counted (s.onInputEvent sourceType eventId) := by
  obtain ⟨hprocessed, hmouse, _⟩ := hs.unknown eventId hnew
  rcases getConsumerInfos_cases s.manager sourceType eventId hprocessed with
    ⟨hsame, hreason⟩ | ⟨hsome, htouch, hnoted⟩ | ⟨hsome, hsource, hnoted⟩
  · refine hs.deliver hnew (fun id _ => ?_) (fun _ => hsame) fun hsome htouch => ?_
    · rw [hsame]
      exact ⟨rfl, Iff.rfl⟩
    · rcases hreason with hempty | hother
      · exact absurd hempty hsome
      · exact absurd htouch hother
  · refine hs.deliver hnew (fun id hid => ?_) (fun hempty => absurd hempty hsome) fun _ _ => ?_
    · rw [hnoted]
      exact ⟨Function.update_of_ne hid _ _, Iff.rfl⟩
    · rw [hnoted]
      exact ⟨Function.update_self _ _ _, hmouse⟩
  · refine hs.deliver hnew (fun id hid => ?_) (fun hempty => absurd hempty hsome) fun _ htouch => ?_
    · rw [hnoted]
      exact ⟨rfl, by simp [List.mem_insert_iff, hid]⟩
    · rw [hsource] at htouch
      exact absurd htouch (by decide)

/-! ## Acknowledgements -/

/-- An acknowledgement of one event is nothing to the others. -/
theorem onDispatchEventProcessed_other (s : InputHandlerManager) {id : Int32} (hid : id ≠ eventId) :
    (s.onDispatchEventProcessed eventId).2.processedEvents id = s.processedEvents id ∧
      (id ∈ (s.onDispatchEventProcessed eventId).2.mouseEventIds → id ∈ s.mouseEventIds) ∧
      id ∉ (s.onDispatchEventProcessed eventId).1 := by
  unfold InputHandlerManager.onDispatchEventProcessed
  split
  · exact ⟨rfl, List.mem_of_mem_filter, List.not_mem_nil⟩
  · split
    · exact ⟨rfl, (fun h => h), List.not_mem_nil⟩
    · split
      · exact ⟨Function.update_of_ne hid _ _, (fun h => h), List.not_mem_nil⟩
      · exact ⟨Function.update_of_ne hid _ _, (fun h => h), by simpa using hid⟩

/-- It counts down, and the last one is told to the server. -/
theorem onDispatchEventProcessed_touch (s : InputHandlerManager) {count : Nat}
    (hmouse : eventId ∉ s.mouseEventIds) (hcount : s.processedEvents eventId = some (count + 1)) :
    (s.onDispatchEventProcessed eventId).2.processedEvents eventId
        = (if count = 0 then none else some count) ∧
      (s.onDispatchEventProcessed eventId).1 = (if count = 0 then [eventId] else []) ∧
      (s.onDispatchEventProcessed eventId).2.mouseEventIds = s.mouseEventIds := by
  unfold InputHandlerManager.onDispatchEventProcessed
  rw [if_neg hmouse]
  simp only [hcount, Nat.add_sub_cancel]
  cases count with
  | zero => simp
  | succ count => simp

theorem Counted.markProcessed (hs : Counted s) (index : Nat) : Counted (s.markProcessed index) := by
  unfold ConsumerService.markProcessed
  cases hget : s.copies[index]? with
  | none => exact hs
  | some copy =>
    cases hcallback : copy.callback with
    | false =>
      simp only [hcallback, Bool.not_false, if_true]
      exact hs
    | true =>
      simp only [hcallback, Bool.not_true, Bool.false_eq_true, if_false]
      obtain ⟨hlt, hcopy⟩ := List.getElem?_eq_some_iff.mp hget
      have hmem : copy ∈ s.copies := hcopy ▸ List.getElem_mem hlt
      generalize hr : s.manager.onDispatchEventProcessed copy.eventId = r
      generalize hmarked : ({ copy with callback := false } : Copy) = marked
      have hsame : marked.eventId = copy.eventId ∧ marked.sourceType = copy.sourceType ∧
          marked.callback = false := by
        rw [← hmarked]
        exact ⟨rfl, rfl, rfl⟩
      have hids : (s.copies.set index marked).map Copy.eventId = s.copies.map Copy.eventId := by
        rw [List.map_set, hsame.1, ← hcopy, ← List.getElem_map Copy.eventId, List.set_getElem_self]
        simpa using hlt
      have hold : ∀ c ∈ s.copies.set index marked, ∃ old ∈ s.copies,
          old.eventId = c.eventId ∧ old.sourceType = c.sourceType := by
        intro c hc
        rcases List.mem_or_eq_of_mem_set hc with hc | rfl
        · exact ⟨c, hc, rfl, rfl⟩
        · exact ⟨copy, hmem, hsame.1.symm, hsame.2.1.symm⟩
      have hpositive : s.pending copy.eventId ≠ 0 := by
        rw [ConsumerService.pending, Ne, List.countP_eq_zero]
        intro hnone
        exact hnone copy hmem (by simp [hcallback])
      have hpending : ∀ id, ConsumerService.pending
          { manager := r.2, copies := s.copies.set index marked, sent := s.sent ++ r.1 } id
            = s.pending id - if copy.eventId = id then 1 else 0 := by
        intro id
        rw [ConsumerService.pending, List.countP_set hlt, hcopy]
        simp [hsame.2.2, hcallback, ConsumerService.pending]
      constructor
      · intro c hc htouch
        obtain ⟨old, holdMem, hid, hsource⟩ := hold c hc
        obtain ⟨h₁, h₂, h₃⟩ := hs.touch old holdMem (hsource.trans htouch)
        rw [hpending, ← hid]
        by_cases heq : copy.eventId = old.eventId
        · rw [if_pos heq]
          rw [← heq] at h₁ h₂ h₃ ⊢
          obtain ⟨count, hcount⟩ := Nat.exists_eq_succ_of_ne_zero hpositive
          rw [hcount] at h₁ h₂ ⊢
          simp only [Nat.succ_ne_zero, if_false] at h₁ h₂
          obtain ⟨hprocessed, hsent, hmouse⟩ := onDispatchEventProcessed_touch s.manager h₃ h₁
          rw [hr] at hprocessed hsent hmouse
          refine ⟨hprocessed, ?_, hmouse.symm ▸ h₃⟩
          show (s.sent ++ r.1).count copy.eventId = _
          rw [List.count_append, h₂, hsent]
          cases count with
          | zero => simp
          | succ count => simp
        · rw [if_neg heq, Nat.sub_zero]
          obtain ⟨hprocessed, hmouse, hsent⟩ :=
            onDispatchEventProcessed_other s.manager (Ne.symm heq)
          rw [hr] at hprocessed hmouse hsent
          refine ⟨hprocessed.trans h₁, ?_, fun h => h₃ (hmouse h)⟩
          show (s.sent ++ r.1).count old.eventId = _
          rw [List.count_append, List.count_eq_zero_of_not_mem hsent, h₂, Nat.add_zero]
      · intro id hid
        rw [hids] at hid
        obtain ⟨h₁, h₂, h₃⟩ := hs.unknown id hid
        have hne : id ≠ copy.eventId := fun heq => hid (heq ▸ List.mem_map_of_mem hmem)
        obtain ⟨hprocessed, hmouse, hsent⟩ := onDispatchEventProcessed_other s.manager hne
        rw [hr] at hprocessed hmouse hsent
        exact ⟨hprocessed.trans h₁, fun h => h₂ (hmouse h), by simp [h₃, hsent]⟩
      · intro c hc other hother heq
        obtain ⟨old, holdMem, hid, hsource⟩ := hold c hc
        obtain ⟨old', holdMem', hid', hsource'⟩ := hold other hother
        rw [← hsource, ← hsource']
        exact hs.source old holdMem old' holdMem' (hid.trans (heq.trans hid'.symm))

/-! ## Every run -/

theorem step_counted (s : ConsumerService) (i : ConsumerInput) (hs : Counted s)
    (hfresh : s.Fresh i) : Counted (s.step i) := by
  cases i with
  | addHandler handlerType consumer eventType ret =>
    simp only [ConsumerService.step]
    have hprepared := prepareHandler_sameEvents s.manager handlerType consumer eventType
    split
    · exact hs.of_manager hprepared.1 hprepared.2
    · have hfinished := hprepared.trans (finishHandler_sameEvents _
        (s.manager.prepareHandler handlerType consumer eventType).1 handlerType ret)
      exact hs.of_manager hfinished.1 hfinished.2
  | removeHandler handlerId handlerType =>
    have hremoved := removeHandler_sameEvents s.manager handlerId handlerType
    exact hs.of_manager hremoved.1 hremoved.2
  | onInputEvent sourceType eventId => exact hs.onInputEvent hfresh sourceType
  | markProcessed copy => exact hs.markProcessed copy

/-- In every run whose events have ids of their own, in every state, one
message was sent for a touch event that all its consumers have marked,
and none for one that some consumer has not. -/
theorem consumerAcknowledgement (is : List ConsumerInput)
    (h : AllSteps ConsumerService.step ConsumerService.Fresh .create is) :
    Always ConsumerService.step ConsumerService.AcknowledgedOnce .create is :=
  (always_of_allSteps step_counted is _ create_counted h).mono fun _ hs copy hcopy htouch =>
    (hs.touch copy hcopy htouch).sent

/-- Two consumers and two events, which are marked crosswise. -/
theorem consumerAcknowledgement_crosswise :
    Always ConsumerService.step ConsumerService.AcknowledgedOnce .create
      [.addHandler .monitor 10 3 retOk, .addHandler .monitor 11 2 retOk,
        .onInputEvent sourceTypeTouchscreen 5, .markProcessed 0,
        .onInputEvent sourceTypeTouchscreen 6, .markProcessed 3, .markProcessed 1,
        .markProcessed 1, .markProcessed 2] :=
  consumerAcknowledgement _ (by decide +kernel)

end FtMmi.InputHandler
