/-
FtMmi.EventDispatch.CancelledTouches — what becomes of a finger whose touch
is cancelled (`HandleEvent` in `event_normalize_handler.cpp`).

`HandleEvent` returns at once for a `LIBINPUT_EVENT_TOUCH_CANCEL`. So the
item of the finger stays in the event of its touch screen, and no client
hears that it is gone. Beside the service stands what is known of each
slot of a device: whether a finger is down in it or was cancelled there, and
what was sent of the finger since it went down.

`endsFinger_of_unseen` says in which runs a cancel ends the finger all the
same: there is no item of it and nothing was sent of it, as when the finger
went down where there is no display.
-/
import FtMmi.EventDispatch.TouchRecords

namespace FtMmi.EventDispatch

open FtMmi.Event
open FtMmi.Lib
open FtMmi.TouchEventNormalize
open FtMmi.WindowManager

/-! ## Runs -/

/-- The libinput events of touch screens, and the other inputs of the server. -/
inductive TouchScreenInput where
  /-- `LIBINPUT_EVENT_TOUCH_DOWN` and so on are inputs of the service. -/
  | input (i : PointerInput)
  | touchCancel (deviceId seatSlot : Int32)
  | touchFrame

/-- `HandleEvent` -/
def PointerService.handleEvent (s : PointerService) : TouchScreenInput → PointerService
  | .input i => s.step i
  | .touchCancel _ _ => s
  | .touchFrame => s

/-- What is in a slot, and what was sent of the finger since it went down. -/
inductive Slot where
  | free
  | down (sent : List Delivery)
  | cancelled (sent : List Delivery)

namespace Slot

def sent : Slot → List Delivery
  | .free => []
  | .down sent => sent
  | .cancelled sent => sent

/-- The slot after a report of it, of which `new` is sent. A finger that was
cancelled stays so until the next one goes down. -/
def after (slot : Slot) (type : TouchType) (new : List Delivery) : Slot :=
  match type, slot with
  | .down, _ => .down new
  | .motion, .down sent => .down (sent ++ new)
  | .up, .down _ => .free
  | _, .free => .free
  | _, .cancelled sent => .cancelled (sent ++ new)

end Slot

structure CancelledTouches where
  service : PointerService
  /-- By device and slot. -/
  slots : Int32 × Int32 → Slot
  everCancelled : Int32 × Int32 → Bool

namespace CancelledTouches

def create (now : Int64) (lastWindowInfo mouseDownInfo : WindowInfo) : CancelledTouches where
  service := .create now lastWindowInfo mouseDownInfo
  slots _ := .free
  everCancelled _ := false

def step (s : CancelledTouches) (i : TouchScreenInput) : CancelledTouches where
  service := s.service.handleEvent i
  slots :=
    match i with
    | .input (.touch now deviceId touch) =>
        Function.update s.slots (deviceId, touch.seatSlot)
          ((s.slots (deviceId, touch.seatSlot)).after touch.type
            (s.service.deliveries (.touch now deviceId touch)))
    | .touchCancel deviceId seatSlot =>
        Function.update s.slots (deviceId, seatSlot)
          (.cancelled (s.slots (deviceId, seatSlot)).sent)
    | _ => s.slots
  everCancelled :=
    match i with
    | .touchCancel deviceId seatSlot =>
        Function.update s.everCancelled (deviceId, seatSlot) true
    | _ => s.everCancelled

/-- The event that `OnEvent` returns for a report. -/
def returned (s : CancelledTouches) (now : Moment) (deviceId : Int32) (touch : LibinputTouch) :
    Option PointerEvent :=
  (s.service.processor deviceId).returned ⟨s.service.env now, s.service.windowsManager, touch⟩

/-! ## The property -/

/-- The ups and cancels that went where the down went. -/
def endsOf (down : Delivery) (sent : List Delivery) : Nat :=
  sent.countP fun d =>
    d.fd = down.fd ∧ d.event.targetWindowId = down.event.targetWindowId ∧
      (d.event.pointerAction = pointerActionUp ∨ d.event.pointerAction = pointerActionCancel)

/-- The window that got the down got one end. -/
def Ended (sent : List Delivery) : Prop :=
  ∀ down ∈ sent, down.event.pointerAction = pointerActionDown → endsOf down sent = 1

/-- A finger that was cancelled is not in the events returned, until one goes
down in its slot. -/
def Unlisted (s : CancelledTouches) (i : TouchScreenInput) : Prop :=
  match i with
  | .input (.touch now deviceId touch) =>
      ∀ event, s.returned now deviceId touch = some event → ∀ item ∈ event.pointers,
        item.pressed = true → ∀ sent, (s.step i).slots (deviceId, item.pointerId) ≠ .cancelled sent
  | _ => True

/-- A down of a slot in which a finger was cancelled gives one item. -/
def GivesItem (s : CancelledTouches) (i : TouchScreenInput) : Prop :=
  match i with
  | .input (.touch now deviceId touch) =>
      touch.type = .down → s.everCancelled (deviceId, touch.seatSlot) = true →
        ∃ event, s.returned now deviceId touch = some event ∧
          event.getPointerIds.count touch.seatSlot = 1
  | _ => True

structure EndsFinger (s : CancelledTouches) (i : TouchScreenInput) : Prop where
  unlisted : s.Unlisted i
  again : s.GivesItem i
  /-- Once it is cancelled, its window has got one up or cancel. -/
  ended : ∀ slot sent, (s.step i).slots slot = .cancelled sent → Ended sent

/-! ## The condition -/

/-- The ids of the items that the event of a device has. -/
def ids (s : CancelledTouches) (deviceId : Int32) : List Int32 :=
  (s.service.processor deviceId).items.map PointerItem.pointerId

/-- A finger is cancelled of which there is no item and nothing was sent. Where
one was cancelled a finger goes down only on a display, and when there is no
item of the slot and there are fewer than five. -/
def Unseen (s : CancelledTouches) : TouchScreenInput → Prop
  | .touchCancel deviceId seatSlot =>
      seatSlot ∉ s.ids deviceId ∧ (s.slots (deviceId, seatSlot)).sent = []
  | .input (.touch _ deviceId touch) =>
      touch.type = .down → s.everCancelled (deviceId, touch.seatSlot) = true →
        (touchPointToDisplayPoint s.service.windowsManager.displayGroupInfo touch).isSome ∧
          touch.seatSlot ∉ s.ids deviceId ∧ (s.ids deviceId).length < maxNPointerItems
  | _ => True

end CancelledTouches

/-! ## The ids of the items -/

section Report

variable {group : DisplayGroupInfo} {event : PointerEvent} {touch : LibinputTouch}
  {p : TouchTransformProcessor} {r : TouchReport}

/-- A down adds an id if there is room. Other reports are written for an id that
is there, and leave the ids. -/
structure WritesIds (touch : LibinputTouch) (before after : List Int32) : Prop where
  down : touch.type = .down →
    after = if before.length < maxNPointerItems then before ++ [touch.seatSlot] else before
  other : touch.type ≠ .down → touch.seatSlot ∈ before ∧ after = before

theorem WritesIds.mem_ne {before after : List Int32} (h : WritesIds touch before after) {id : Int32}
    (hne : id ≠ touch.seatSlot) : id ∈ after ↔ id ∈ before := by
  by_cases htype : touch.type = .down
  · rw [h.down htype]
    split
    · simp [hne]
    · rfl
  · rw [(h.other htype).2]

theorem addPointerItem_ids (event : PointerEvent) (item : PointerItem) :
    (event.addPointerItem item).getPointerIds =
      if event.getPointerIds.length < maxNPointerItems then event.getPointerIds ++ [item.pointerId]
      else event.getPointerIds := by
  have hlength : event.getPointerIds.length = event.pointers.length := List.length_map ..
  rw [hlength]
  split
  · rename_i hroom
    rw [PointerEvent.getPointerIds, PointerEvent.addPointerItem_pointers hroom, List.map_append]
    rfl
  · rename_i hfull
    rw [PointerEvent.addPointerItem_full (Nat.le_of_not_lt hfull)]

theorem onEventTouchDown_ids (deviceId : Int32) (time : Int64)
    (h : (onEventTouchDown group deviceId time touch event).1 = true) :
    (onEventTouchDown group deviceId time touch event).2.pointerId = touch.seatSlot ∧
      (onEventTouchDown group deviceId time touch event).2.getPointerIds =
        if event.getPointerIds.length < maxNPointerItems then
          event.getPointerIds ++ [touch.seatSlot]
        else event.getPointerIds := by
  revert h
  simp only [onEventTouchDown]
  cases touchPointToDisplayPoint group touch with
  | none => simp
  | some point =>
    intro _
    refine ⟨rfl, ?_⟩
    dsimp only
    split
    · exact addPointerItem_ids _ (downItem deviceId time touch point.1)
    · exact addPointerItem_ids _ (downItem deviceId time touch point.1)

/-- An item that is found is written back with its id. -/
theorem updatePointerItem_found_ids {item updated : PointerItem}
    (hitem : event.getPointerItem touch.seatSlot = some item)
    (hid : updated.pointerId = item.pointerId) :
    touch.seatSlot ∈ event.getPointerIds ∧
      (event.updatePointerItem touch.seatSlot updated).getPointerIds = event.getPointerIds := by
  obtain ⟨hmem, hslot⟩ := PointerEvent.getPointerItem_some hitem
  have hthere : updated.pointerId ∈ event.getPointerIds := by
    rw [hid]
    exact List.mem_map_of_mem hmem
  have hsame := PointerEvent.updatePointerItem_ids hthere
  rw [hid, hslot] at hsame hthere
  exact ⟨hthere, hsame⟩

theorem onEventTouch_ids (deviceId : Int32) (time : Int64)
    (h : (onEventTouch group deviceId time touch event).1 = true) :
    (onEventTouch group deviceId time touch event).2.pointerId = touch.seatSlot ∧
      WritesIds touch event.getPointerIds
        (onEventTouch group deviceId time touch event).2.getPointerIds := by
  revert h
  unfold onEventTouch
  cases htype : touch.type with
  | down =>
    intro h
    obtain ⟨hid, hids⟩ := onEventTouchDown_ids deviceId time h
    exact ⟨hid, fun _ => hids, fun hne => absurd htype hne⟩
  | up =>
    simp only [onEventTouchUp]
    split
    · simp
    · rename_i item hitem
      intro _
      exact ⟨rfl, (by simp [htype]), fun _ => updatePointerItem_found_ids hitem rfl⟩
  | motion =>
    simp only [onEventTouchMotion]
    split
    · simp
    · split
      · simp
      · rename_i item hitem
        intro _
        exact ⟨rfl, (by simp [htype]), fun _ => updatePointerItem_found_ids hitem rfl⟩

/-- The ids of the event returned. -/
theorem returned_ids (h : p.returned r = some event) :
    event.pointerId = r.touch.seatSlot ∧
      WritesIds r.touch (p.items.map PointerItem.pointerId) event.getPointerIds := by
  obtain ⟨_, hnone, _⟩ | ⟨hwrite, target, htarget, hreturned, _⟩ := touchStep_cases ⟨p, []⟩ r
  · rw [hnone] at h
    cases h
  · cases hreturned.symm.trans h
    have hsource : (p.ready r.env r.manager r.touch).sourceType = sourceTypeTouchscreen := rfl
    obtain ⟨hid, hids⟩ := updateTargetPointer_ids r.manager.updateId r.env hsource
    obtain ⟨hslot, hwrites⟩ := onEventTouch_ids p.deviceId r.env.time hwrite
    rw [← htarget] at hid hids
    refine ⟨hid.trans hslot, ?_⟩
    have hbefore : (p.event r.env.time).getPointerIds = p.items.map PointerItem.pointerId :=
      congrArg (List.map PointerItem.pointerId) (event_pointers p r.env.time)
    rw [hbefore] at hwrites
    rw [hids]
    exact hwrites

/-- The ids that are left: a report that returns nothing changes none, and after
an up the one of the finger is taken out. -/
theorem handleTouchEvent_ids (p : TouchTransformProcessor) (r : TouchReport) :
    (p.handleTouchEvent r).items.map PointerItem.pointerId =
      match p.returned r with
      | none => p.items.map PointerItem.pointerId
      | some event =>
          if r.touch.type = .up then event.getPointerIds.erase r.touch.seatSlot
          else event.getPointerIds := by
  obtain ⟨_, hnone, hitems⟩ | ⟨_, event, _, hreturned, hitems⟩ := touchStep_cases ⟨p, []⟩ r
  · rw [hnone]
    exact congrArg (List.map PointerItem.pointerId) hitems
  · obtain ⟨hid, _⟩ := returned_ids hreturned
    rw [hid] at hitems
    rw [hreturned]
    refine (congrArg (List.map PointerItem.pointerId) hitems).trans ?_
    dsimp only
    split
    · exact PointerEvent.removePointerItem_ids event r.touch.seatSlot
    · rfl

/-- A down on a display is returned. -/
theorem returned_down (htype : r.touch.type = .down)
    (h : (touchPointToDisplayPoint r.manager.displayGroupInfo r.touch).isSome) :
    ∃ event, p.returned r = some event := by
  obtain ⟨point, hpoint⟩ := Option.isSome_iff_exists.mp h
  obtain ⟨hfalse, _⟩ | ⟨_, event, _, hreturned, _⟩ := touchStep_cases ⟨p, []⟩ r
  · simp [TouchTransformProcessor.writeReport, onEventTouch, htype, onEventTouchDown, hpoint]
      at hfalse
  · exact ⟨event, hreturned⟩

end Report

namespace CancelledTouches

variable {s : CancelledTouches} {now : Moment} {deviceId : Int32} {touch : LibinputTouch}

theorem ids_touch (s : CancelledTouches) (now : Moment) (deviceId : Int32) (touch : LibinputTouch)
    (device : Int32) :
    (s.step (.input (.touch now deviceId touch))).ids device =
      if device = deviceId then
        match s.returned now deviceId touch with
        | none => s.ids deviceId
        | some event =>
            if touch.type = .up then event.getPointerIds.erase touch.seatSlot
            else event.getPointerIds
      else s.ids device := by
  have hprocessors := PointerService.handleTouchEvent_processors now s.service deviceId touch
  have hprocessor : (s.step (.input (.touch now deviceId touch))).service.processor device =
      if device = deviceId then (s.service.processor deviceId).handleTouchEvent
        ⟨s.service.env now, s.service.windowsManager, touch⟩
      else s.service.processor device := by
    show ((s.service.handleTouchEvent now deviceId touch).processors device).getD _ = _
    rw [hprocessors]
    by_cases hdevice : device = deviceId
    · rw [hdevice, Function.update_self, if_pos rfl]
      rfl
    · rw [Function.update_of_ne hdevice, if_neg hdevice]
      rfl
  rw [ids, hprocessor]
  split
  · exact handleTouchEvent_ids _ _
  · rfl

/-- Other inputs leave the items. -/
theorem ids_other {i : TouchScreenInput} (hi : ∀ now deviceId touch, i ≠ .input (.touch now deviceId touch))
    (device : Int32) : (s.step i).ids device = s.ids device := by
  have hprocessors : (s.step i).service.processors = s.service.processors := by
    cases i with
    | input i =>
      exact PointerService.step_processors fun now deviceId touch heq =>
        hi now deviceId touch (congrArg _ heq)
    | touchCancel deviceId seatSlot => rfl
    | touchFrame => rfl
  show (((s.step i).service.processors device).getD _).items.map _ = _
  rw [hprocessors]
  rfl

theorem deliveries_of_not_returned (h : s.returned now deviceId touch = none) :
    s.service.deliveries (.touch now deviceId touch) = [] := by
  refine PointerService.deliveries_dropped ?_
  obtain ⟨hfalse, _⟩ | ⟨_, event, _, hreturned, _⟩ :=
    touchStep_cases ⟨s.service.processor deviceId, []⟩
      ⟨s.service.env now, s.service.windowsManager, touch⟩
  · simp only [PointerService.handled]
    exact if_neg (by rw [hfalse]; exact Bool.false_ne_true)
  · rw [returned, hreturned] at h
    cases h

/-! ## The invariant -/

/-- Of a finger that is cancelled there is no item, and nothing was sent. -/
structure Kept (s : CancelledTouches) : Prop where
  notMem : ∀ deviceId seatSlot sent, s.slots (deviceId, seatSlot) = .cancelled sent →
    seatSlot ∉ s.ids deviceId
  sent : ∀ slot sent, s.slots slot = .cancelled sent → sent = []

theorem create_kept (now : Int64) (lastWindowInfo mouseDownInfo : WindowInfo) :
    (create now lastWindowInfo mouseDownInfo).Kept where
  notMem _ _ _ h := nomatch h
  sent _ _ h := nomatch h

theorem after_cancelled {slot : Slot} {type : TouchType} {new sent : List Delivery}
    (h : slot.after type new = .cancelled sent) :
    type ≠ .down ∧ ∃ before, slot = .cancelled before ∧ sent = before ++ new := by
  cases type <;> cases slot <;> simp_all [Slot.after]

/-- A finger that is cancelled is not reported again until one goes down. -/
theorem Kept.after_cancelled (hs : s.Kept) {sent : List Delivery}
    (h : (s.step (.input (.touch now deviceId touch))).slots (deviceId, touch.seatSlot)
      = .cancelled sent) :
    s.returned now deviceId touch = none ∧ s.slots (deviceId, touch.seatSlot) = .cancelled sent := by
  have hafter : (s.slots (deviceId, touch.seatSlot)).after touch.type
      (s.service.deliveries (.touch now deviceId touch)) = .cancelled sent :=
    (Function.update_self ..).symm.trans h
  obtain ⟨htype, before, hbefore, hsent⟩ := CancelledTouches.after_cancelled hafter
  have hnone : s.returned now deviceId touch = none := by
    by_contra hsome
    obtain ⟨event, hevent⟩ := Option.ne_none_iff_exists'.mp hsome
    exact hs.notMem _ _ _ hbefore ((returned_ids hevent).2.other htype).1
  rw [deliveries_of_not_returned hnone, List.append_nil] at hsent
  exact ⟨hnone, hsent ▸ hbefore⟩

/-! ## One step -/

theorem slots_touch_ne {slot : Int32 × Int32} (hne : slot ≠ (deviceId, touch.seatSlot)) :
    (s.step (.input (.touch now deviceId touch))).slots slot = s.slots slot :=
  Function.update_of_ne hne ..

theorem slots_cancel (s : CancelledTouches) (deviceId seatSlot : Int32) :
    (s.step (.touchCancel deviceId seatSlot)).slots (deviceId, seatSlot)
      = .cancelled (s.slots (deviceId, seatSlot)).sent :=
  Function.update_self ..

/-- A cancelled finger after a report was one before it. -/
theorem Kept.cancelled_touch (hs : s.Kept) {slot : Int32 × Int32} {sent : List Delivery}
    (h : (s.step (.input (.touch now deviceId touch))).slots slot = .cancelled sent) :
    s.slots slot = .cancelled sent := by
  by_cases hslot : slot = (deviceId, touch.seatSlot)
  · rw [hslot] at h ⊢
    exact (hs.after_cancelled h).2
  · rw [slots_touch_ne hslot] at h
    exact h

theorem Kept.unlisted_touch (hs : s.Kept) : s.Unlisted (.input (.touch now deviceId touch)) := by
  intro event hevent item hitem _ sent hcancelled
  have hmem : item.pointerId ∈ event.getPointerIds := List.mem_map_of_mem hitem
  by_cases hslot : item.pointerId = touch.seatSlot
  · rw [hslot] at hcancelled
    rw [(hs.after_cancelled hcancelled).1] at hevent
    cases hevent
  · -- The ids of other fingers are as they were.
    refine hs.notMem _ _ _ (hs.cancelled_touch hcancelled) ?_
    exact ((returned_ids hevent).2.mem_ne hslot).mp hmem

theorem givesItem_touch (hc : s.Unseen (.input (.touch now deviceId touch))) :
    s.GivesItem (.input (.touch now deviceId touch)) := by
  intro htype hever
  obtain ⟨hlocated, hnew, hroom⟩ := hc htype hever
  obtain ⟨event, hevent⟩ := returned_down (p := s.service.processor deviceId)
    (r := ⟨s.service.env now, s.service.windowsManager, touch⟩) htype hlocated
  have hids : event.getPointerIds = s.ids deviceId ++ [touch.seatSlot] :=
    ((returned_ids hevent).2.down htype).trans (if_pos hroom)
  refine ⟨event, hevent, ?_⟩
  rw [hids, List.count_append, List.count_eq_zero.mpr hnew, List.count_singleton_self]

theorem Kept.step_touch (hs : s.Kept) : (s.step (.input (.touch now deviceId touch))).Kept := by
  refine ⟨fun device seatSlot sent h => ?_, fun slot sent h => ?_⟩
  · have hnot := hs.notMem device seatSlot sent (hs.cancelled_touch h)
    rw [ids_touch]
    split
    · rename_i hdevice
      subst hdevice
      by_cases hslot : seatSlot = touch.seatSlot
      · rw [hslot] at h hnot ⊢
        rw [(hs.after_cancelled h).1]
        exact hnot
      · cases hreturned : s.returned now device touch with
        | none => exact hnot
        | some event =>
          have hevent : seatSlot ∉ event.getPointerIds := fun hmem =>
            hnot (((returned_ids hreturned).2.mem_ne hslot).mp hmem)
          dsimp only
          split
          · exact fun hmem => hevent (List.mem_of_mem_erase hmem)
          · exact hevent
    · exact hnot
  · exact hs.sent slot sent (hs.cancelled_touch h)

/-- A cancel of a finger that nothing is known of. -/
theorem Kept.step_cancel (hs : s.Kept) {deviceId seatSlot : Int32}
    (hc : s.Unseen (.touchCancel deviceId seatSlot)) :
    (s.step (.touchCancel deviceId seatSlot)).Kept := by
  obtain ⟨hnot, hsent⟩ := hc
  refine ⟨fun device other sent h => ?_, fun slot sent h => ?_⟩
  · show other ∉ s.ids device
    by_cases hslot : (device, other) = (deviceId, seatSlot)
    · obtain ⟨rfl, rfl⟩ := Prod.mk.inj hslot
      exact hnot
    · exact hs.notMem device other sent ((Function.update_of_ne hslot ..).symm.trans h)
  · by_cases hslot : slot = (deviceId, seatSlot)
    · rw [hslot, slots_cancel, hsent] at h
      exact (Slot.cancelled.inj h).symm
    · exact hs.sent slot sent ((Function.update_of_ne hslot ..).symm.trans h)

theorem Kept.step (hs : s.Kept) {i : TouchScreenInput} (hc : s.Unseen i) : (s.step i).Kept := by
  cases i with
  | touchCancel deviceId seatSlot => exact hs.step_cancel hc
  | touchFrame => exact ⟨hs.notMem, hs.sent⟩
  | input i =>
    cases i with
    | touch now deviceId touch => exact hs.step_touch
    | _ =>
      refine ⟨fun device seatSlot sent h => ?_, hs.sent⟩
      rw [ids_other (by simp)]
      exact hs.notMem device seatSlot sent h

theorem Kept.endsFinger (hs : s.Kept) {i : TouchScreenInput} (hc : s.Unseen i) :
    s.EndsFinger i := by
  have hended : ∀ slot sent, (s.step i).slots slot = .cancelled sent → Ended sent := by
    intro slot sent h
    rw [(hs.step hc).sent slot sent h]
    exact fun _ hdown => nomatch hdown
  cases i with
  | touchCancel deviceId seatSlot => exact ⟨trivial, trivial, hended⟩
  | touchFrame => exact ⟨trivial, trivial, hended⟩
  | input i =>
    cases i with
    | touch now deviceId touch => exact ⟨hs.unlisted_touch, givesItem_touch hc, hended⟩
    | _ => exact ⟨trivial, trivial, hended⟩

/-! ## Every run -/

/-- In every run in which fingers are cancelled only if there is no item of them
and nothing was sent of them, and in which the next ones that go down there
find a display and room, a cancel ends its finger: no event lists it until
the next one goes down, that one gets one item, and nobody who has heard of
the finger waits for its end. -/
theorem endsFinger_of_unseen (now : Int64) (lastWindowInfo mouseDownInfo : WindowInfo)
    (is : List TouchScreenInput)
    (h : AllSteps step Unseen (create now lastWindowInfo mouseDownInfo) is) :
    AllSteps step EndsFinger (create now lastWindowInfo mouseDownInfo) is :=
  allSteps_of_allSteps (fun _ _ hs hc => Kept.step hs hc) (fun _ _ hs hc => Kept.endsFinger hs hc)
    is _ (create_kept now lastWindowInfo mouseDownInfo) h

/-! ## With a display and without -/

instance (sent : List Delivery) : Decidable (Ended sent) :=
  inferInstanceAs (Decidable (∀ down ∈ sent, _ → endsOf down sent = 1))

instance (s : CancelledTouches) : DecidablePred s.Unseen := fun i => by
  unfold Unseen
  split <;> infer_instance

/-- The layout comes once a finger is down and cancelled, and before another
one goes down in its slot. -/
def cancelledUnseen : List TouchScreenInput :=
  [.input (.addSession ⟨1, 5, 10⟩), .input (.touch quietMoment 3 (downAt 10 0)), .touchCancel 3 0,
    .input (.updateDisplayInfo quietMoment (oneDisplay [leftOrRight 1 10 0])),
    .input (.touch quietMoment 3 (downAt 20 1)), .input (.touch quietMoment 3 (downAt 10 0))]

theorem endsFinger_of_unseen_layout :
    AllSteps step EndsFinger (create 0 (leftOrRight 0 0 0) (leftOrRight 0 0 0)) cancelledUnseen :=
  endsFinger_of_unseen 0 (leftOrRight 0 0 0) (leftOrRight 0 0 0) cancelledUnseen (by decide +kernel)

/-- A finger goes down on a window and is cancelled. -/
def cancelledOnWindow : List TouchScreenInput :=
  [.input (.addSession ⟨1, 5, 10⟩),
    .input (.updateDisplayInfo quietMoment (oneDisplay [leftOrRight 1 10 0])),
    .input (.touch quietMoment 3 (downAt 10 0)), .touchCancel 3 0]

def onWindow (is : List TouchScreenInput) : CancelledTouches :=
  runFrom step (create 0 (leftOrRight 0 0 0) (leftOrRight 0 0 0)) (cancelledOnWindow ++ is)

/-- The window has got a down and nothing else. The next finger's event still has
the item of the one cancelled, and when one goes down in its slot there are
two of them. -/
theorem counterexample_endsFinger :
    ¬ AllSteps step EndsFinger (create 0 (leftOrRight 0 0 0) (leftOrRight 0 0 0))
        cancelledOnWindow ∧
      ((onWindow []).returned quietMoment 3 (downAt 20 1)).map (fun event =>
          event.pointers.map fun item => (item.pointerId, item.pressed))
        = some [(0, true), (1, true)] ∧
      ((onWindow [.input (.touch quietMoment 3 (downAt 20 1))]).returned quietMoment 3
          (downAt 10 0)).map PointerEvent.getPointerIds = some [0, 1, 0] := by
  refine ⟨?_, by decide +kernel, by decide +kernel⟩
  rintro ⟨_, _, _, hcancel, _⟩
  have hended := hcancel.ended (3, 0) _ (slots_cancel ..)
  revert hended
  decide +kernel

end CancelledTouches

end FtMmi.EventDispatch
