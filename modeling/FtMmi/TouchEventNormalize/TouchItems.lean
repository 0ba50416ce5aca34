/-
FtMmi.TouchEventNormalize.TouchItems — the items of the event of a touch
screen are the fingers that are down.

`AddPointerItem` refuses a sixth item, and `OnEventTouchDown` does not
notice: the event it returns then has no item with its pointer id.
`itemsFollow_iff` says that this, and a finger that goes down where there
is no display, are the only ways in which the items and the fingers come
apart.
-/
import FtMmi.Lib.KeyedList
import FtMmi.Lib.StepSystem
import FtMmi.TouchEventNormalize.TouchTransformProcessor
import FtMmi.WindowManager.TouchTarget

namespace FtMmi.TouchEventNormalize

open FtMmi.Event
open FtMmi.Lib
open FtMmi.WindowManager

/-! ## Runs -/

/-- A report, and what the window manager and its surroundings are then. -/
structure TouchReport where
  env : Env
  manager : InputWindowsManager
  touch : LibinputTouch

/-- A processor, and the fingers that are down. -/
structure TouchScreen where
  processor : TouchTransformProcessor
  fingers : List Int32

def TouchScreen.create (deviceId : Int32) : TouchScreen := ⟨.create deviceId, []⟩

/-- The event `OnEvent` returns. -/
def TouchTransformProcessor.returned (p : TouchTransformProcessor) (r : TouchReport) :
    Option PointerEvent :=
  let result := p.onEvent r.env r.manager r.touch
  if result.1 then result.2.1.pointerEvent else none

/-- `HandleTouchEvent`, as far as the processor goes. -/
def TouchTransformProcessor.handleTouchEvent (p : TouchTransformProcessor) (r : TouchReport) :
    TouchTransformProcessor :=
  let result := p.onEvent r.env r.manager r.touch
  if result.1 then result.2.1.resetTouchUpEvent r.env.time r.touch else result.2.1

def TouchTransformProcessor.items (p : TouchTransformProcessor) : List PointerItem :=
  match p.pointerEvent with
  | none => []
  | some event => event.pointers

def fingersAfter (fingers : List Int32) (touch : LibinputTouch) : List Int32 :=
  match touch.type with
  | .down => fingers ++ [touch.seatSlot]
  | .motion => fingers
  | .up => fingers.erase touch.seatSlot

def touchStep (t : TouchScreen) (r : TouchReport) : TouchScreen :=
  ⟨t.processor.handleTouchEvent r, fingersAfter t.fingers r.touch⟩

/-- A finger goes down before it moves or is lifted. -/
def WellFormed (t : TouchScreen) (r : TouchReport) : Prop :=
  r.touch.type = .down ↔ r.touch.seatSlot ∉ t.fingers

instance (t : TouchScreen) (r : TouchReport) : Decidable (WellFormed t r) :=
  inferInstanceAs (Decidable (_ ↔ _))

/-! ## The property and the condition -/

/-- The item has what the report says of its finger. -/
def Reported (touch : LibinputTouch) (item : PointerItem) : Prop :=
  match touch.type with
  | .up => item.pressed = false
  | _ => item.pressed = true ∧ item.pressure = touch.pressure ∧
      item.longAxis = touch.longAxis ∧ item.shortAxis = touch.shortAxis

structure ItemsFollow (t : TouchScreen) (r : TouchReport) : Prop where
  /-- The event returned is about the finger of the report, which has one
  item with what was reported. -/
  item : ∀ event, t.processor.returned r = some event →
    event.pointerId = r.touch.seatSlot ∧
      event.getPointerIds.count event.pointerId = 1 ∧
      ∃ item, event.getPointerItem event.pointerId = some item ∧ Reported r.touch item
  /-- Other items are as they were. -/
  others : ∀ event, t.processor.returned r = some event →
    ∀ item ∈ event.pointers, item.pointerId ≠ event.pointerId → item ∈ t.processor.items
  /-- The items are those of the fingers down and of the one lifted. -/
  fingers : ∀ event, t.processor.returned r = some event →
    ∀ id, id ∈ event.getPointerIds ↔
      id ∈ (touchStep t r).fingers ∨ r.touch.type = .up ∧ id = r.touch.seatSlot
  /-- After the event is reset they are those of the fingers down. -/
  after : ∀ id, id ∈ (touchStep t r).processor.items.map PointerItem.pointerId ↔
    id ∈ (touchStep t r).fingers
  /-- With no finger down there is none. -/
  empty : (touchStep t r).fingers = [] → (touchStep t r).processor.items = []

/-- A finger goes down on a display, and fewer than five are down. -/
def Fits (t : TouchScreen) (r : TouchReport) : Prop :=
  r.touch.type = .down →
    (touchPointToDisplayPoint r.manager.displayGroupInfo r.touch).isSome ∧
      t.fingers.length < maxNPointerItems

instance (t : TouchScreen) (r : TouchReport) : Decidable (Fits t r) :=
  inferInstanceAs (Decidable (_ → _))

/-- What holds between reports: the items are those of the fingers, in the
order in which they went down. -/
structure Following (t : TouchScreen) : Prop where
  ids : t.processor.items.map PointerItem.pointerId = t.fingers
  nodup : t.fingers.Nodup
  pressed : ∀ item ∈ t.processor.items, item.pressed = true

theorem create_following (deviceId : Int32) : Following (.create deviceId) :=
  ⟨rfl, List.nodup_nil, fun _ h => nomatch h⟩

theorem event_pointers (p : TouchTransformProcessor) (now : Int64) :
    (p.event now).pointers = p.items := by
  unfold TouchTransformProcessor.event TouchTransformProcessor.items
  cases p.pointerEvent with
  | none => rfl
  | some event => rfl

/-! ## The report in the event -/

/-- The event is about the finger of the report. -/
structure HasReport (before after : PointerEvent) (touch : LibinputTouch) : Prop where
  pointerId : after.pointerId = touch.seatSlot
  nodup : after.getPointerIds.Nodup
  item : ∃ item, after.getPointerItem touch.seatSlot = some item ∧ Reported touch item
  others : ∀ item, item.pointerId ≠ touch.seatSlot →
    (item ∈ after.pointers ↔ item ∈ before.pointers)

variable {group : DisplayGroupInfo} {event : PointerEvent} {touch : LibinputTouch}

theorem onEventTouchDown_located (deviceId : Int32) (time : Int64)
    (htype : touch.type = .down) (hnodup : event.getPointerIds.Nodup)
    (hnew : touch.seatSlot ∉ event.getPointerIds)
    (hroom : event.pointers.length < maxNPointerItems)
    (hlocated : (touchPointToDisplayPoint group touch).isSome) :
    (onEventTouchDown group deviceId time touch event).1 = true ∧
      HasReport event (onEventTouchDown group deviceId time touch event).2 touch ∧
      (onEventTouchDown group deviceId time touch event).2.getPointerIds
        = event.getPointerIds ++ [touch.seatSlot] := by
  obtain ⟨⟨touchInfo, displayId⟩, hpoint⟩ := Option.isSome_iff_exists.mp hlocated
  have hpointers : (onEventTouchDown group deviceId time touch event).2.pointers
      = event.pointers ++ [downItem deviceId time touch touchInfo] := by
    simp only [onEventTouchDown, hpoint]
    split
    · exact PointerEvent.addPointerItem_pointers hroom
    · exact PointerEvent.addPointerItem_pointers hroom
  have hids : (onEventTouchDown group deviceId time touch event).2.getPointerIds
      = event.getPointerIds ++ [touch.seatSlot] := by
    rw [PointerEvent.getPointerIds, hpointers, List.map_append]
    rfl
  have hnodup' : (onEventTouchDown group deviceId time touch event).2.getPointerIds.Nodup := by
    rw [hids]
    exact List.nodup_append'.mpr ⟨hnodup, List.nodup_singleton _, by simpa using hnew⟩
  refine ⟨by simp only [onEventTouchDown, hpoint], ?_, hids⟩
  refine ⟨by simp only [onEventTouchDown, hpoint]; rfl, hnodup', ?_, ?_⟩
  · have hmem : downItem deviceId time touch touchInfo
        ∈ (onEventTouchDown group deviceId time touch event).2.pointers := by
      simp [hpointers]
    refine ⟨_, PointerEvent.getPointerItem_of_mem hnodup' hmem, ?_⟩
    simp [Reported, htype, downItem]
  · intro item hne
    rw [hpointers]
    simp only [List.mem_append, List.mem_singleton, or_iff_left_iff_imp]
    intro heq
    exact absurd (by rw [heq]; rfl) hne

/-- The item of the finger is replaced. -/
theorem updatePointerItem_hasReport {before : PointerEvent} {item : PointerItem}
    (hpointers : before.pointers = event.pointers) (hnodup : event.getPointerIds.Nodup)
    (hid : item.pointerId = touch.seatSlot) (hmem : touch.seatSlot ∈ event.getPointerIds)
    (hreported : Reported touch item) :
    HasReport event ((before.updatePointerItem touch.seatSlot item).setPointerId touch.seatSlot)
        touch ∧
      ((before.updatePointerItem touch.seatSlot item).setPointerId touch.seatSlot).getPointerIds
        = event.getPointerIds := by
  have hids : before.getPointerIds = event.getPointerIds :=
    congrArg (List.map PointerItem.pointerId) hpointers
  rw [← hids] at hnodup hmem ⊢
  rw [← hid] at hmem ⊢
  have hupdated := PointerEvent.updatePointerItem_ids hmem
  have hfound : (before.updatePointerItem item.pointerId item).getPointerItem touch.seatSlot
      = some item := by
    have hself := PointerEvent.updatePointerItem_found hnodup hmem
    rw [hid] at hself ⊢
    exact hself
  refine ⟨⟨hid, ?_, ⟨item, hfound, hreported⟩, ?_⟩, hupdated⟩
  · show (before.updatePointerItem item.pointerId item).getPointerIds.Nodup
    rw [hupdated]
    exact hnodup
  · intro other hne
    rw [← hpointers]
    refine (PointerEvent.mem_updatePointerItem hnodup hmem).trans ⟨fun h => ?_, fun h => ?_⟩
    · rcases h with rfl | ⟨h, _⟩
      · exact absurd hid hne
      · exact h
    · exact .inr ⟨h, fun heq => hne (heq.trans hid)⟩

theorem onEventTouchMotion_returned (time : Int64) (htype : touch.type = .motion)
    (hnodup : event.getPointerIds.Nodup) (hpressed : ∀ item ∈ event.pointers, item.pressed = true)
    (h : (onEventTouchMotion group time touch event).1 = true) :
    HasReport event (onEventTouchMotion group time touch event).2 touch ∧
      (onEventTouchMotion group time touch event).2.getPointerIds = event.getPointerIds := by
  revert h
  simp only [onEventTouchMotion]
  split
  · simp
  · rename_i touchInfo displayId _
    split
    · simp
    · rename_i item hitem
      intro _
      have hfound : event.getPointerItem touch.seatSlot = some item := hitem
      obtain ⟨hmem, hid⟩ := PointerEvent.getPointerItem_some hfound
      refine updatePointerItem_hasReport rfl hnodup hid ?_ ?_
      · rw [← hid]
        exact List.mem_map_of_mem hmem
      · simp only [Reported, htype]
        exact ⟨hpressed item hmem, rfl, rfl, rfl⟩

theorem onEventTouchUp_returned (time : Int64) (htype : touch.type = .up)
    (hnodup : event.getPointerIds.Nodup)
    (h : (onEventTouchUp time touch event).1 = true) :
    HasReport event (onEventTouchUp time touch event).2 touch ∧
      (onEventTouchUp time touch event).2.getPointerIds = event.getPointerIds := by
  revert h
  simp only [onEventTouchUp]
  split
  · simp
  · rename_i item hitem
    intro _
    have hfound : event.getPointerItem touch.seatSlot = some item := hitem
    obtain ⟨hmem, hid⟩ := PointerEvent.getPointerItem_some hfound
    refine updatePointerItem_hasReport rfl hnodup hid ?_ ?_
    · rw [← hid]
      exact List.mem_map_of_mem hmem
    · simp only [Reported, htype]

/-- A finger with an item is reported unless it moves where there is no
display, and what is not reported leaves the items alone. -/
theorem onEventTouch_not_returned (deviceId : Int32) (time : Int64)
    (h : (onEventTouch group deviceId time touch event).1 = false) :
    (onEventTouch group deviceId time touch event).2.pointers = event.pointers := by
  revert h
  simp only [onEventTouch]
  cases touch.type with
  | down =>
    simp only [onEventTouchDown]
    split <;> simp
  | up =>
    simp only [onEventTouchUp]
    split
    · simp [PointerEvent.setPointerAction, PointerEvent.setActionTime, PointerEvent.setBase]
    · simp
  | motion =>
    simp only [onEventTouchMotion]
    split
    · simp [PointerEvent.setPointerAction, PointerEvent.setActionTime, PointerEvent.setBase]
    · split
      · simp [PointerEvent.setPointerAction, PointerEvent.setActionTime, PointerEvent.setBase]
      · simp

/-! ## The target and the reset -/

/-- Asking for a target leaves the pointer and the ids of the items. -/
theorem updateTargetPointer_ids (s : InputWindowsManager) (env : Env)
    (hsource : event.sourceType = sourceTypeTouchscreen) :
    (s.updateTargetPointer env .other event).2.1.pointerId = event.pointerId ∧
      (s.updateTargetPointer env .other event).2.1.getPointerIds = event.getPointerIds := by
  rw [InputWindowsManager.updateTargetPointer, if_pos hsource]
  cases htarget : s.findTouchTarget event with
  | none =>
    obtain ⟨_, heq | ⟨displayId, heq⟩⟩ :=
      InputWindowsManager.updateTouchScreenTarget_of_none env .other htarget
    · rw [heq]
      exact ⟨rfl, rfl⟩
    · rw [heq]
      exact ⟨rfl, rfl⟩
  | some target =>
    obtain ⟨written, heq⟩ := InputWindowsManager.updateTouchScreenTarget_of_some env .other htarget
    rw [heq]
    exact ⟨(InputWindowsManager.targeted_pointerId target).trans
      (InputWindowsManager.findTouchTarget_event htarget).1,
      InputWindowsManager.targeted_ids htarget⟩

/-- Asking for a target keeps the report in the event. -/
theorem updateTargetPointer_hasReport (s : InputWindowsManager) (env : Env) {before : PointerEvent}
    (hsource : event.sourceType = sourceTypeTouchscreen) (h : HasReport before event touch) :
    HasReport before (s.updateTargetPointer env .other event).2.1 touch ∧
      (s.updateTargetPointer env .other event).2.1.getPointerIds = event.getPointerIds := by
  rw [InputWindowsManager.updateTargetPointer, if_pos hsource]
  cases htarget : s.findTouchTarget event with
  | none =>
    obtain ⟨_, heq | ⟨displayId, heq⟩⟩ :=
      InputWindowsManager.updateTouchScreenTarget_of_none env .other htarget
    · rw [heq]
      exact ⟨h, rfl⟩
    · rw [heq]
      exact ⟨⟨h.pointerId, h.nodup, h.item, h.others⟩, rfl⟩
  | some target =>
    obtain ⟨written, heq⟩ := InputWindowsManager.updateTouchScreenTarget_of_some env .other htarget
    obtain ⟨hids, hfound, hothers⟩ := InputWindowsManager.targeted_items htarget h.nodup
    obtain ⟨item, hitem, hreported⟩ := h.item
    have hplace := (InputWindowsManager.findTouchTarget_cases htarget).1
    rw [h.pointerId] at hplace hfound hothers
    rw [hitem] at hplace
    injection hplace with hplace
    rw [heq]
    refine ⟨⟨?_, by rw [hids]; exact h.nodup, ⟨_, hfound, ?_⟩, fun other hne => ?_⟩, hids⟩
    · rw [InputWindowsManager.targeted_pointerId,
        (InputWindowsManager.findTouchTarget_event htarget).1, h.pointerId]
    · -- The item keeps what was reported; only its place and its window are set.
      rw [hplace] at hreported
      exact hreported
    · exact (hothers other hne).trans (h.others other hne)

/-- What happens to a report: it is dropped, or its event gets a target, is
returned, and is reset. -/
theorem touchStep_cases (t : TouchScreen) (r : TouchReport) :
    ((t.processor.writeReport r.env r.manager r.touch).1 = false ∧
      t.processor.returned r = none ∧
      (touchStep t r).processor.items = t.processor.items) ∨
    ((t.processor.writeReport r.env r.manager r.touch).1 = true ∧ ∃ event,
      event = (r.manager.updateId.updateTargetPointer r.env .other
        (t.processor.ready r.env r.manager r.touch)).2.1 ∧
      t.processor.returned r = some event ∧
      (touchStep t r).processor.items
        = if r.touch.type = .up then (event.removePointerItem event.pointerId).pointers
          else event.pointers) := by
  cases hresult : (t.processor.writeReport r.env r.manager r.touch).1 with
  | false =>
    have hsame := onEventTouch_not_returned _ _ hresult
    rw [event_pointers] at hsame
    refine .inl ⟨rfl, ?_, ?_⟩
    · simp [TouchTransformProcessor.returned, TouchTransformProcessor.onEvent, hresult]
    · simp only [touchStep, TouchTransformProcessor.handleTouchEvent,
        TouchTransformProcessor.onEvent, hresult, Bool.false_eq_true, if_false]
      exact hsame
  | true =>
    refine .inr ⟨rfl, _, rfl, ?_, ?_⟩
    · simp [TouchTransformProcessor.returned, TouchTransformProcessor.onEvent, hresult]
    · simp only [touchStep, TouchTransformProcessor.handleTouchEvent,
        TouchTransformProcessor.onEvent, hresult, if_true,
        TouchTransformProcessor.resetTouchUpEvent]
      generalize ((r.manager.updateId.updateTargetPointer r.env .other _).2.1) = event
      by_cases hup : r.touch.type = .up
      · simp only [if_pos hup]
        by_cases hempty : (event.removePointerItem event.pointerId).getPointerIds.isEmpty = true
        · -- The new event has no items, and neither has the old one.
          have hnone : (event.removePointerItem event.pointerId).pointers = [] := by
            simpa [PointerEvent.getPointerIds] using hempty
          rw [if_pos hempty, hnone]
          rfl
        · rw [if_neg hempty]
          rfl
      · simp only [if_neg hup]
        rfl

/-! ## One report -/

variable {t : TouchScreen} {r : TouchReport}

/-- The fingers the event is about: those down, and the one lifted. -/
def reportedFingers (t : TouchScreen) (r : TouchReport) : List Int32 :=
  if r.touch.type = .down then t.fingers ++ [r.touch.seatSlot] else t.fingers

theorem mem_reportedFingers (ht : Following t) (hw : WellFormed t r) (id : Int32) :
    id ∈ reportedFingers t r ↔
      id ∈ (touchStep t r).fingers ∨ r.touch.type = .up ∧ id = r.touch.seatSlot := by
  cases htype : r.touch.type with
  | down => simp [reportedFingers, touchStep, fingersAfter, htype]
  | motion => simp [reportedFingers, touchStep, fingersAfter, htype]
  | up =>
    have hmem : r.touch.seatSlot ∈ t.fingers := by
      by_contra hnot
      rw [hw.mpr hnot] at htype
      cases htype
    simp only [reportedFingers, touchStep, fingersAfter, htype, reduceCtorEq, if_false, true_and,
      ht.nodup.mem_erase_iff]
    constructor
    · intro h
      by_cases hid : id = r.touch.seatSlot
      · exact .inr hid
      · exact .inl ⟨hid, h⟩
    · intro h
      rcases h with ⟨_, h⟩ | rfl
      · exact h
      · exact hmem

theorem touchStep_fingers_nodup (ht : Following t) (hw : WellFormed t r) :
    (touchStep t r).fingers.Nodup := by
  simp only [touchStep, fingersAfter]
  cases htype : r.touch.type with
  | up => exact ht.nodup.erase _
  | down =>
    have hnew := hw.mp htype
    exact List.nodup_append'.mpr ⟨ht.nodup, List.nodup_singleton _, by simpa using hnew⟩
  | motion => exact ht.nodup

/-- A finger reported stays pressed until it is lifted. -/
theorem HasReport.pressed {before : PointerEvent} (h : HasReport before event touch)
    (hbefore : ∀ item ∈ before.pointers, item.pressed = true) (htype : touch.type ≠ .up) :
    ∀ item ∈ event.pointers, item.pressed = true := by
  intro item hmem
  by_cases hid : item.pointerId = touch.seatSlot
  · obtain ⟨reported, hitem, hreported⟩ := h.item
    obtain ⟨hreportedMem, hreportedId⟩ := PointerEvent.getPointerItem_some hitem
    rw [List.inj_on_of_nodup_map h.nodup hmem hreportedMem (hid.trans hreportedId.symm)]
    unfold Reported at hreported
    split at hreported
    · rename_i hup
      exact absurd hup htype
    · exact hreported.1
  · exact hbefore item ((h.others item hid).mp hmem)

/-- Without the finger reported the items are as they were. -/
theorem HasReport.removed {before : PointerEvent} (h : HasReport before event touch)
    {item : PointerItem} (hmem : item ∈ (event.removePointerItem touch.seatSlot).pointers) :
    item ∈ before.pointers := by
  have hmem' : item ∈ event.pointers.eraseP fun item => item.pointerId = touch.seatSlot := hmem
  rw [eraseP_eq_filter_key h.nodup, List.mem_filter, decide_eq_true_eq] at hmem'
  exact (h.others item hmem'.2).mp hmem'.1

/-- A report that is in the event: the event is right, and so is what is
left of it. -/
theorem follow_of_report (ht : Following t) (hw : WellFormed t r)
    (hresult : (t.processor.writeReport r.env r.manager r.touch).1 = true)
    (hreport : HasReport (t.processor.event r.env.time)
      (t.processor.writeReport r.env r.manager r.touch).2 r.touch)
    (hids : (t.processor.writeReport r.env r.manager r.touch).2.getPointerIds
      = reportedFingers t r) :
    ItemsFollow t r ∧ Following (touchStep t r) := by
  obtain ⟨hfalse, _⟩ | ⟨_, event, hevent, hreturned, hitems⟩ := touchStep_cases t r
  · rw [hfalse] at hresult
    cases hresult
  have hready : HasReport (t.processor.event r.env.time)
      (t.processor.ready r.env r.manager r.touch) r.touch :=
    ⟨hreport.pointerId, hreport.nodup, hreport.item, hreport.others⟩
  obtain ⟨htarget, hsame⟩ := updateTargetPointer_hasReport r.manager.updateId r.env rfl hready
  rw [← hevent] at htarget hsame
  have heventIds : event.pointers.map PointerItem.pointerId = reportedFingers t r :=
    hsame.trans hids
  have hbefore : ∀ item ∈ (t.processor.event r.env.time).pointers, item.pressed = true := by
    rw [event_pointers]
    exact ht.pressed
  have hafter : (touchStep t r).processor.items.map PointerItem.pointerId
        = (touchStep t r).fingers ∧
      ∀ item ∈ (touchStep t r).processor.items, item.pressed = true := by
    rw [hitems, htarget.pointerId]
    by_cases hup : r.touch.type = .up
    · have hremoved : (event.removePointerItem r.touch.seatSlot).pointers.map PointerItem.pointerId
          = (event.pointers.map PointerItem.pointerId).erase r.touch.seatSlot :=
        event.removePointerItem_ids r.touch.seatSlot
      rw [if_pos hup, hremoved, heventIds]
      refine ⟨?_, fun item hmem => hbefore item (htarget.removed hmem)⟩
      simp [reportedFingers, touchStep, fingersAfter, hup]
    · rw [if_neg hup, heventIds]
      refine ⟨?_, htarget.pressed hbefore hup⟩
      cases htype : r.touch.type with
      | up => exact absurd htype hup
      | down => simp [reportedFingers, touchStep, fingersAfter, htype]
      | motion => simp [reportedFingers, touchStep, fingersAfter, htype]
  obtain ⟨item, hitem, hreported⟩ := htarget.item
  refine ⟨⟨?_, ?_, ?_, ?_, ?_⟩, hafter.1, touchStep_fingers_nodup ht hw, hafter.2⟩
  · intro other hother
    cases hreturned.symm.trans hother
    rw [htarget.pointerId]
    obtain ⟨hmem, hid⟩ := PointerEvent.getPointerItem_some hitem
    refine ⟨rfl, ?_, item, hitem, hreported⟩
    rw [← hid]
    exact List.count_eq_one_of_mem htarget.nodup (List.mem_map_of_mem hmem)
  · intro other hother
    cases hreturned.symm.trans hother
    rw [htarget.pointerId, ← event_pointers t.processor r.env.time]
    exact fun item hmem hne => (htarget.others item hne).mp hmem
  · intro other hother id
    cases hreturned.symm.trans hother
    rw [PointerEvent.getPointerIds, heventIds]
    exact mem_reportedFingers ht hw id
  · intro id
    rw [hafter.1]
  · intro hnone
    rw [hnone] at hafter
    exact List.map_eq_nil_iff.mp hafter.1

/-- A report that is dropped, of a finger with an item. -/
theorem follow_of_dropped (ht : Following t) (htype : r.touch.type = .motion)
    (hresult : (t.processor.writeReport r.env r.manager r.touch).1 = false) :
    ItemsFollow t r ∧ Following (touchStep t r) := by
  obtain ⟨_, hreturned, hitems⟩ | ⟨htrue, _⟩ := touchStep_cases t r
  · have hfingers : (touchStep t r).fingers = t.fingers := by
      simp [touchStep, fingersAfter, htype]
    have hnone : ∀ event, t.processor.returned r = some event → False := by
      simp [hreturned]
    refine ⟨⟨fun event h => (hnone event h).elim, fun event h => (hnone event h).elim,
      fun event h => (hnone event h).elim, ?_, ?_⟩, ?_, ?_, ?_⟩
    · intro id
      rw [hitems, hfingers, ht.ids]
    · intro hempty
      rw [hfingers, ← ht.ids] at hempty
      rw [hitems]
      exact List.map_eq_nil_iff.mp hempty
    · rw [hitems, hfingers]
      exact ht.ids
    · rw [hfingers]
      exact ht.nodup
    · rw [hitems]
      exact ht.pressed
  · rw [htrue] at hresult
    cases hresult

theorem follow_of_fits (ht : Following t) (hw : WellFormed t r) (hc : Fits t r) :
    ItemsFollow t r ∧ Following (touchStep t r) := by
  have hids : (t.processor.event r.env.time).getPointerIds = t.fingers := by
    rw [PointerEvent.getPointerIds, event_pointers]
    exact ht.ids
  have hnodup : (t.processor.event r.env.time).getPointerIds.Nodup := by
    rw [hids]
    exact ht.nodup
  have hlength : (t.processor.event r.env.time).pointers.length = t.fingers.length := by
    rw [← hids, PointerEvent.getPointerIds, List.length_map]
  have hpressed : ∀ item ∈ (t.processor.event r.env.time).pointers, item.pressed = true := by
    rw [event_pointers]
    exact ht.pressed
  cases htype : r.touch.type with
  | down =>
    obtain ⟨hlocated, hroom⟩ := hc htype
    have hnew := hw.mp htype
    rw [← hids] at hnew
    have hdown := onEventTouchDown_located t.processor.deviceId r.env.time htype hnodup hnew
      (hlength ▸ hroom) hlocated
    have hwrite : t.processor.writeReport r.env r.manager r.touch
        = onEventTouchDown r.manager.displayGroupInfo t.processor.deviceId r.env.time r.touch
          (t.processor.event r.env.time) := by
      simp only [TouchTransformProcessor.writeReport, onEventTouch, htype]
    rw [← hwrite] at hdown
    refine follow_of_report ht hw hdown.1 hdown.2.1 ?_
    rw [hdown.2.2, hids, reportedFingers, if_pos htype]
  | motion =>
    have hwrite : t.processor.writeReport r.env r.manager r.touch
        = onEventTouchMotion r.manager.displayGroupInfo r.env.time r.touch
          (t.processor.event r.env.time) := by
      simp only [TouchTransformProcessor.writeReport, onEventTouch, htype]
    cases hresult : (t.processor.writeReport r.env r.manager r.touch).1 with
    | false => exact follow_of_dropped ht htype hresult
    | true =>
      rw [hwrite] at hresult
      have hmotion := onEventTouchMotion_returned r.env.time htype hnodup hpressed hresult
      rw [← hwrite] at hmotion hresult
      refine follow_of_report ht hw hresult hmotion.1 ?_
      simp [hmotion.2, hids, reportedFingers, htype]
  | up =>
    have hwrite : t.processor.writeReport r.env r.manager r.touch
        = onEventTouchUp r.env.time r.touch (t.processor.event r.env.time) := by
      simp only [TouchTransformProcessor.writeReport, onEventTouch, htype]
    have hmem : r.touch.seatSlot ∈ (t.processor.event r.env.time).getPointerIds := by
      rw [hids]
      by_contra hnot
      rw [hw.mpr hnot] at htype
      cases htype
    have hresult : (onEventTouchUp r.env.time r.touch (t.processor.event r.env.time)).1 = true := by
      obtain ⟨item, hitem⟩ := Option.isSome_iff_exists.mp
        (PointerEvent.getPointerItem_isSome_iff.mpr hmem)
      have hfound : (((t.processor.event r.env.time).setActionTime r.env.time).setPointerAction
          pointerActionUp).getPointerItem r.touch.seatSlot = some item := hitem
      simp only [onEventTouchUp, hfound]
    have hup := onEventTouchUp_returned r.env.time htype hnodup hresult
    rw [← hwrite] at hup hresult
    refine follow_of_report ht hw hresult hup.1 ?_
    simp [hup.2, hids, reportedFingers, htype]

/-- A sixth finger is reported without an item. -/
theorem writeReport_full (ht : Following t) (htype : r.touch.type = .down)
    (hfull : maxNPointerItems ≤ t.fingers.length)
    (hlocated : (touchPointToDisplayPoint r.manager.displayGroupInfo r.touch).isSome) :
    (t.processor.writeReport r.env r.manager r.touch).1 = true ∧
      (t.processor.writeReport r.env r.manager r.touch).2.pointerId = r.touch.seatSlot ∧
      (t.processor.writeReport r.env r.manager r.touch).2.getPointerIds = t.fingers := by
  obtain ⟨⟨touchInfo, displayId⟩, hpoint⟩ := Option.isSome_iff_exists.mp hlocated
  have hlength : maxNPointerItems ≤ (t.processor.event r.env.time).pointers.length := by
    rw [event_pointers, ← List.length_map PointerItem.pointerId, ht.ids]
    exact hfull
  have hids : (t.processor.event r.env.time).getPointerIds = t.fingers := by
    rw [PointerEvent.getPointerIds, event_pointers]
    exact ht.ids
  have hfullEvent : ∀ (before : PointerEvent) (item : PointerItem),
      before.pointers = (t.processor.event r.env.time).pointers →
      (before.addPointerItem item).getPointerIds = t.fingers := by
    intro before item hpointers
    rw [PointerEvent.addPointerItem_full (by rw [hpointers]; exact hlength), ← hids,
      PointerEvent.getPointerIds, hpointers, PointerEvent.getPointerIds]
  simp only [TouchTransformProcessor.writeReport, onEventTouch, htype, onEventTouchDown, hpoint]
  refine ⟨trivial, rfl, ?_⟩
  split
  · exact hfullEvent _ _ rfl
  · exact hfullEvent _ _ rfl

theorem fits_of_follow (ht : Following t) (hw : WellFormed t r) (h : ItemsFollow t r) :
    Fits t r := by
  intro htype
  have hnew := hw.mp htype
  have hfingers : (touchStep t r).fingers = t.fingers ++ [r.touch.seatSlot] := by
    simp [touchStep, fingersAfter, htype]
  have hlocated : (touchPointToDisplayPoint r.manager.displayGroupInfo r.touch).isSome := by
    by_contra hnot
    have hnone := Option.not_isSome_iff_eq_none.mp hnot
    obtain ⟨_, _, hitems⟩ | ⟨htrue, _⟩ := touchStep_cases t r
    · -- The finger is down and has no item.
      have hafter := (h.after r.touch.seatSlot).mpr (by simp [hfingers])
      rw [hitems, ht.ids] at hafter
      exact hnew hafter
    · simp [TouchTransformProcessor.writeReport, onEventTouch, htype, onEventTouchDown, hnone] at htrue
  refine ⟨hlocated, ?_⟩
  by_contra hfull
  obtain ⟨hresult, hid, hids⟩ := writeReport_full ht htype (by omega) hlocated
  obtain ⟨hfalse, _⟩ | ⟨_, event, hevent, hreturned, _⟩ := touchStep_cases t r
  · rw [hfalse] at hresult
    cases hresult
  · -- The event returned names the finger, and has no item of it.
    have hreadyIds : (t.processor.ready r.env r.manager r.touch).getPointerIds = t.fingers := hids
    have hreadyId : (t.processor.ready r.env r.manager r.touch).pointerId = r.touch.seatSlot := hid
    have hsource : (t.processor.ready r.env r.manager r.touch).sourceType
        = sourceTypeTouchscreen := rfl
    obtain ⟨htargetId, htargetIds⟩ := updateTargetPointer_ids r.manager.updateId r.env hsource
    rw [← hevent] at htargetId htargetIds
    obtain ⟨_, hcount, _⟩ := h.item event hreturned
    rw [htargetIds, htargetId, hreadyIds, hreadyId, List.count_eq_zero_of_not_mem hnew] at hcount
    cases hcount

/-! ## Every run -/

/-- In every run in which fingers go down before they move or are lifted, the
items follow the fingers at each report precisely if each finger goes
down on a display while fewer than five are down. -/
theorem itemsFollow_iff (deviceId : Int32) (rs : List TouchReport)
    (hw : AllSteps touchStep WellFormed (.create deviceId) rs) :
    AllSteps touchStep ItemsFollow (.create deviceId) rs ↔
      AllSteps touchStep Fits (.create deviceId) rs := by
  refine allSteps_iff_of_inv (W := WellFormed) (fun t r ht hw => ?_)
    (fun t r ht hw hc => (follow_of_fits ht hw hc).2) rs _ (create_following deviceId) hw
  exact ⟨fits_of_follow ht hw, fun hc => (follow_of_fits ht hw hc).1⟩

/-! ## Six fingers -/

/-- A finger goes down at the top of the screen. -/
def downAt (x seatSlot : Int32) : LibinputTouch where
  type := .down
  seatSlot := seatSlot
  xTransformed := fun _ => x
  yTransformed := fun _ => 1
  toolXTransformed := fun _ => 0
  toolYTransformed := fun _ => 0
  toolWidthTransformed := fun _ => 0
  toolHeightTransformed := fun _ => 0
  pressure := .zero
  longAxis := 0
  shortAxis := 0
  toolType := 0
  screenId := ""

/-- A manager with one window on one display. -/
def oneWindow : InputWindowsManager :=
  let window : WindowInfo :=
    { id := 1, pid := 10, area := ⟨0, 0, 100, 100⟩, defaultHotAreas := [⟨0, 0, 100, 100⟩]
      pointerHotAreas := [⟨0, 0, 100, 100⟩], agentWindowId := 1, flags := 0 }
  { InputWindowsManager.create 0 window window with
    displayGroupInfo := ⟨1, [window], [⟨0, 0, 0, 100, 100, "default0", .direction0⟩]⟩ }

def fingerDown (seatSlot : Int32) : TouchReport :=
  ⟨⟨.create, 0, false, 0⟩, oneWindow, downAt 1 seatSlot⟩

/-- Two fingers, of which the first moves and is lifted. -/
theorem itemsFollow_iff_twoFingers :
    AllSteps touchStep ItemsFollow (.create 3)
      [fingerDown 0, fingerDown 1, { fingerDown 0 with touch := { downAt 1 0 with type := .motion } },
        { fingerDown 0 with touch := { downAt 1 0 with type := .up } }] := by
  refine (itemsFollow_iff 3 _ ?_).mpr ?_
  · decide
  · decide

/-- The event returned for a sixth finger has no item with its pointer
id. -/
theorem counterexample_itemsFollow :
    AllSteps touchStep WellFormed (.create 3)
        [fingerDown 0, fingerDown 1, fingerDown 2, fingerDown 3, fingerDown 4, fingerDown 5] ∧
      ¬ AllSteps touchStep ItemsFollow (.create 3)
        [fingerDown 0, fingerDown 1, fingerDown 2, fingerDown 3, fingerDown 4, fingerDown 5] := by
  refine ⟨?_, ?_⟩
  · decide
  · rintro ⟨_, _, _, _, _, h, _⟩
    obtain ⟨_, hcount, _⟩ := h.item _ rfl
    revert hcount
    decide +kernel

end FtMmi.TouchEventNormalize
