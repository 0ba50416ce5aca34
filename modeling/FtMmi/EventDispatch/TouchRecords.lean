/-
FtMmi.EventDispatch.TouchRecords — what a touch report does to the records
of the windows fingers went down on (`touchItemDownInfos_`) and to the
items of its event.
-/
import FtMmi.EventDispatch.StaleTarget

namespace FtMmi.EventDispatch

open FtMmi.Event
open FtMmi.Lib
open FtMmi.Server
open FtMmi.TouchEventNormalize
open FtMmi.WindowManager

/-! ## Records -/

/-- The records after a touch event: a down enters its window, an up takes it
out, and so does a cancel whose window is gone. -/
def recordsAfter (s : InputWindowsManager) (event : PointerEvent) : Int32 → Option WindowInfo :=
  match s.findTouchTarget event with
  | none => s.touchItemDownInfos
  | some target =>
      if target.event.pointerAction = pointerActionDown ∧
          s.touchItemDownInfos event.pointerId = none then
        Function.update s.touchItemDownInfos event.pointerId (some target.touchWindow)
      else if target.event.pointerAction = pointerActionUp ∨
          target.event.pointerAction = pointerActionCancel ∧
            s.displayGroupInfo.findWindow target.touchWindow.id = none then
        Function.update s.touchItemDownInfos event.pointerId none
      else s.touchItemDownInfos

theorem recordsAfter_of_ne {s : InputWindowsManager} {event : PointerEvent} {pointerId : Int32}
    (h : pointerId ≠ event.pointerId) :
    recordsAfter s event pointerId = s.touchItemDownInfos pointerId := by
  unfold recordsAfter
  cases s.findTouchTarget event with
  | none => rfl
  | some target =>
    dsimp only
    split
    · exact Function.update_of_ne h ..
    · split
      · exact Function.update_of_ne h ..
      · rfl

theorem recordsAfter_none {s : InputWindowsManager} {event : PointerEvent}
    (h : s.findTouchTarget event = none) : recordsAfter s event = s.touchItemDownInfos := by
  rw [recordsAfter, h]

theorem recordsAfter_some {s : InputWindowsManager} {event : PointerEvent}
    {target : InputWindowsManager.TouchTarget} (h : s.findTouchTarget event = some target) :
    recordsAfter s event event.pointerId
      = if target.event.pointerAction = pointerActionDown ∧
            s.touchItemDownInfos event.pointerId = none then some target.touchWindow
        else if target.event.pointerAction = pointerActionUp ∨
            target.event.pointerAction = pointerActionCancel ∧
              s.displayGroupInfo.findWindow target.touchWindow.id = none then none
        else s.touchItemDownInfos event.pointerId := by
  rw [recordsAfter, h]
  dsimp only
  split
  · exact Function.update_self ..
  · split
    · exact Function.update_self ..
    · rfl

theorem hideMouse_sameMaps (env : Env) (s : InputWindowsManager) :
    InputWindowsManager.SameMaps s (s.hideMouse env) := by
  unfold InputWindowsManager.hideMouse
  split
  · have hframe := InputWindowsManager.dispatchPointer_frame env s pointerActionLeaveWindow
    exact ⟨hframe.displayGroupInfo, hframe.touchItemDownInfos⟩
  · exact .refl s

theorem keepTouchDown_records (s : InputWindowsManager) (pointerAction pointerId : Int32)
    (touchWindow : WindowInfo) :
    (s.keepTouchDown pointerAction pointerId touchWindow).displayGroupInfo = s.displayGroupInfo ∧
      (s.keepTouchDown pointerAction pointerId touchWindow).touchItemDownInfos
        = if pointerAction = pointerActionDown ∧ s.touchItemDownInfos pointerId = none then
            Function.update s.touchItemDownInfos pointerId (some touchWindow)
          else if pointerAction = pointerActionUp then
            Function.update s.touchItemDownInfos pointerId none
          else s.touchItemDownInfos := by
  unfold InputWindowsManager.keepTouchDown
  split
  · rename_i hdown
    have hup : ¬ pointerAction = pointerActionUp := by
      rw [hdown]
      decide
    split
    · rename_i record hrecord
      simp [hrecord, hup]
    · rename_i hrecord
      simp [hdown, hrecord]
  · rename_i hdown
    split
    · refine ⟨rfl, ?_⟩
      rw [if_neg fun h => hdown h.1]
    · refine ⟨rfl, ?_⟩
      rw [if_neg fun h => hdown h.1]

/-- `GetClientFd` takes out the record of a cancelled finger whose window is
gone, and no other. -/
theorem getClientFd_records (env : Env) (s : InputWindowsManager) (event : PointerEvent) :
    (s.getClientFd env event).2.displayGroupInfo = s.displayGroupInfo ∧
      (s.getClientFd env event).2.touchItemDownInfos
        = if event.pointerAction = pointerActionCancel ∧
              event.sourceType = sourceTypeTouchscreen ∧
              s.displayGroupInfo.findWindow event.targetWindowId = none then
            Function.update s.touchItemDownInfos event.pointerId none
          else s.touchItemDownInfos := by
  unfold InputWindowsManager.getClientFd
  split
  · rename_i windowInfo hwindow
    simp [hwindow]
  · rename_i hwindow
    by_cases hcancel : event.pointerAction = pointerActionCancel
    · by_cases hsource : event.sourceType = sourceTypeTouchscreen
      · simp only [hcancel, hsource, hwindow, ne_eq, not_true_eq_false, if_false, and_self,
          if_true, InputWindowsManager.takeDownPid]
        cases hrecord : s.touchItemDownInfos event.pointerId with
        | some record => simp
        | none =>
          simp only [true_and]
          rw [← hrecord, Function.update_eq_self]
      · simp only [hcancel, hsource, ne_eq, not_true_eq_false, if_false, false_and, and_false,
          InputWindowsManager.takeDownPid]
        split
        · exact ⟨rfl, rfl⟩
        · exact ⟨rfl, rfl⟩
    · simp [hcancel]

/-- What a touch event leaves in the window manager, once its target is
asked for and it is dispatched. -/
theorem touch_records (env env' : Env) {s : InputWindowsManager} {event : PointerEvent}
    (hsource : event.sourceType = sourceTypeTouchscreen)
    (haction : event.pointerAction ≠ pointerActionCancel) :
    ((s.updateTargetPointer env .other event).2.2.getClientFd env'
        (s.updateTargetPointer env .other event).2.1).2.displayGroupInfo = s.displayGroupInfo ∧
      ((s.updateTargetPointer env .other event).2.2.getClientFd env'
        (s.updateTargetPointer env .other event).2.1).2.touchItemDownInfos
          = recordsAfter s event := by
  obtain ⟨hlayout, hrecords⟩ := getClientFd_records env'
    (s.updateTargetPointer env .other event).2.2 (s.updateTargetPointer env .other event).2.1
  rw [hlayout, hrecords, recordsAfter]
  clear hlayout hrecords
  rw [InputWindowsManager.updateTargetPointer, if_pos hsource]
  cases htarget : s.findTouchTarget event with
  | none =>
    obtain ⟨_, heq | ⟨displayId, heq⟩⟩ :=
      InputWindowsManager.updateTouchScreenTarget_of_none env .other htarget
    · rw [heq]
      exact ⟨rfl, if_neg fun h => haction h.1⟩
    · rw [heq]
      exact ⟨rfl, if_neg fun h => haction h.1⟩
  | some target =>
    obtain ⟨written, heq⟩ := InputWindowsManager.updateTouchScreenTarget_of_some env .other htarget
    obtain ⟨hid, _, htype⟩ := InputWindowsManager.findTouchTarget_event htarget
    have hhide := hideMouse_sameMaps env ((s.write .other written).write .other
      (InputWindowsManager.targeted target))
    obtain ⟨hlayout, hrecords⟩ := keepTouchDown_records
      (((s.write .other written).write .other (InputWindowsManager.targeted target)).hideMouse env)
      target.event.pointerAction target.event.pointerId target.touchWindow
    rw [heq]
    dsimp only
    rw [hlayout, hrecords, hhide.displayGroupInfo, hhide.touchItemDownInfos,
      InputWindowsManager.targeted_pointerAction, InputWindowsManager.targeted_sourceType,
      InputWindowsManager.targeted_pointerId, InputWindowsManager.targeted_targetWindowId, hid,
      htype, hsource]
    refine ⟨rfl, ?_⟩
    show (if _ then Function.update (if _ ∧ s.touchItemDownInfos event.pointerId = none then _
      else _) _ _ else _) = _
    by_cases hcancel : target.event.pointerAction = pointerActionCancel
    · have hdown : ¬ pointerActionCancel = pointerActionDown := by decide
      have hup : ¬ pointerActionCancel = pointerActionUp := by decide
      simp [hcancel, hdown, hup, InputWindowsManager.write]
    · simp only [hcancel, InputWindowsManager.write, false_and, if_false, or_false]
      rfl

/-- A new layout leaves the records as they are. -/
theorem updateDisplayInfo_records (env : Env) (s : InputWindowsManager)
    (displayGroupInfo : DisplayGroupInfo) :
    (s.updateDisplayInfo env displayGroupInfo).touchItemDownInfos = s.touchItemDownInfos := by
  have hrefresh : ∀ s : InputWindowsManager,
      (s.refreshPointer env).2.touchItemDownInfos = s.touchItemDownInfos := by
    intro s
    unfold InputWindowsManager.refreshPointer
    split
    · rfl
    · obtain ⟨location, h⟩ := s.getMouseInfo_eq
      dsimp only
      rw [h]
      split
      · rfl
      · split
        · rfl
        · rename_i displayInfo _ _ last _
          obtain ⟨id, hwindow, _⟩ := { s with mouseLocation := location }.windowOfLast_eq
            (location.physicalX + displayInfo.x) (location.physicalY + displayInfo.y) last
          dsimp only
          rw [hwindow]
  unfold InputWindowsManager.updateDisplayInfo
  dsimp only
  split
  · split
    · exact (InputWindowsManager.notifyPointerToWindow_frame env _).touchItemDownInfos.trans
        (hrefresh _)
    · exact hrefresh _
  · rfl

/-! ## Items -/

def actionOf : TouchType → Int32
  | .down => pointerActionDown
  | .up => pointerActionUp
  | .motion => pointerActionMove

/-- An event with a report in it, over the items there were. -/
structure HoldsReport (items : List PointerItem) (event : PointerEvent) (touch : LibinputTouch) :
    Prop where
  sourceType : event.sourceType = sourceTypeTouchscreen
  pointerId : event.pointerId = touch.seatSlot
  pointerAction : event.pointerAction = actionOf touch.type
  nodup : event.getPointerIds.Nodup
  /-- No finger loses its item. -/
  kept : ∀ item ∈ items, item.pointerId ∈ event.getPointerIds
  others : ∀ item, item.pointerId ≠ touch.seatSlot → (item ∈ event.pointers ↔ item ∈ items)
  /-- The item of the finger stays on its window. -/
  window : ∀ old ∈ items, old.pointerId = touch.seatSlot →
    ∃ item, event.getPointerItem touch.seatSlot = some item ∧
      item.targetWindowId = old.targetWindowId

variable {env : Env} {s : InputWindowsManager} {p : TouchTransformProcessor}
  {touch : LibinputTouch}

theorem ready_holdsReport_down (htype : touch.type = .down)
    (hnodup : (p.items.map PointerItem.pointerId).Nodup)
    (hnew : touch.seatSlot ∉ p.items.map PointerItem.pointerId)
    (h : (p.writeReport env s touch).1 = true) :
    HoldsReport p.items (p.ready env s touch) touch := by
  have hitems := event_pointers p env.time
  revert h
  simp only [TouchTransformProcessor.ready, TouchTransformProcessor.writeReport, onEventTouch,
    htype, onEventTouchDown]
  cases touchPointToDisplayPoint s.displayGroupInfo touch with
  | none => simp
  | some point =>
    intro _
    -- The event before the item is added has the items there were.
    have hadded : ∀ before : PointerEvent, before.pointers = p.items →
        before.pointerAction = pointerActionDown →
        HoldsReport p.items ((((before.addPointerItem (downItem p.deviceId env.time touch
          point.1)).setPointerId touch.seatSlot).setSourceType sourceTypeTouchscreen).setId
            s.nextEventId) touch := by
      intro before hbefore haction
      have hwindow : ∀ old ∈ p.items, old.pointerId ≠ touch.seatSlot := by
        intro old hold heq
        exact hnew (heq ▸ List.mem_map_of_mem hold)
      by_cases hroom : before.pointers.length < maxNPointerItems
      · have hpointers : (before.addPointerItem (downItem p.deviceId env.time touch
            point.1)).pointers = p.items ++ [downItem p.deviceId env.time touch point.1] := by
          rw [PointerEvent.addPointerItem_pointers hroom, hbefore]
        have hactionAdded : (before.addPointerItem (downItem p.deviceId env.time touch
            point.1)).pointerAction = pointerActionDown := by
          rw [← haction, PointerEvent.addPointerItem, dif_neg (by omega)]
        have hids : (before.addPointerItem (downItem p.deviceId env.time touch
            point.1)).getPointerIds = p.items.map PointerItem.pointerId ++ [touch.seatSlot] := by
          rw [PointerEvent.getPointerIds, hpointers, List.map_append]
          rfl
        refine ⟨rfl, rfl, by rw [htype]; exact hactionAdded, ?_, ?_, ?_, ?_⟩
        · show (before.addPointerItem _).getPointerIds.Nodup
          rw [hids]
          exact List.nodup_append'.mpr ⟨hnodup, List.nodup_singleton _, by simpa using hnew⟩
        · intro item hitem
          show _ ∈ (before.addPointerItem _).getPointerIds
          rw [hids]
          exact List.mem_append_left _ (List.mem_map_of_mem hitem)
        · intro item hne
          show item ∈ (before.addPointerItem _).pointers ↔ _
          rw [hpointers, List.mem_append, List.mem_singleton, or_iff_left_iff_imp]
          intro heq
          exact absurd (by rw [heq]; rfl) hne
        · intro old hold heq
          exact absurd heq (hwindow old hold)
      · have hfull : before.addPointerItem (downItem p.deviceId env.time touch point.1) = before :=
          PointerEvent.addPointerItem_full (Nat.le_of_not_lt hroom)
        rw [hfull]
        refine ⟨rfl, rfl, by rw [htype]; exact haction, ?_, ?_, ?_, ?_⟩
        · show (before.pointers.map PointerItem.pointerId).Nodup
          rw [hbefore]
          exact hnodup
        · intro item hitem
          show _ ∈ before.pointers.map PointerItem.pointerId
          rw [hbefore]
          exact List.mem_map_of_mem hitem
        · intro item _
          show item ∈ before.pointers ↔ _
          rw [hbefore]
        · intro old hold heq
          exact absurd heq (hwindow old hold)
    dsimp only
    split
    · exact hadded _ hitems rfl
    · exact hadded _ hitems rfl

/-- The item of the finger is replaced by one on the same window. -/
theorem updatePointerItem_holdsReport {before : PointerEvent} {old item : PointerItem}
    (hitems : before.pointers = p.items)
    (hnodup : (p.items.map PointerItem.pointerId).Nodup)
    (hold : before.getPointerItem touch.seatSlot = some old)
    (hid : item.pointerId = touch.seatSlot) (hwindow : item.targetWindowId = old.targetWindowId)
    (haction : before.pointerAction = actionOf touch.type) (id : Int32) :
    HoldsReport p.items ((((before.updatePointerItem touch.seatSlot item).setPointerId
      touch.seatSlot).setSourceType sourceTypeTouchscreen).setId id) touch := by
  obtain ⟨holdMem, holdId⟩ := PointerEvent.getPointerItem_some hold
  have hbefore : before.getPointerIds = p.items.map PointerItem.pointerId :=
    congrArg (List.map PointerItem.pointerId) hitems
  have hnodup' : before.getPointerIds.Nodup := by
    rw [hbefore]
    exact hnodup
  have hmem : item.pointerId ∈ before.getPointerIds := by
    rw [hid, ← holdId]
    exact List.mem_map_of_mem holdMem
  have hids := PointerEvent.updatePointerItem_ids hmem
  have hfound := PointerEvent.updatePointerItem_found hnodup' hmem
  have hothers : ∀ other, other ∈ (before.updatePointerItem item.pointerId item).pointers ↔
      other = item ∨ other ∈ before.pointers ∧ other.pointerId ≠ item.pointerId :=
    fun other => PointerEvent.mem_updatePointerItem hnodup' hmem
  have hactionUpdated : (before.updatePointerItem touch.seatSlot item).pointerAction
      = before.pointerAction := by
    obtain ⟨pointers, hlength, heq⟩ := before.updatePointerItem_eq touch.seatSlot item
    rw [heq]
  rw [hid] at hids hfound hothers
  refine ⟨rfl, rfl, hactionUpdated.trans haction, ?_, ?_, ?_, ?_⟩
  · show (before.updatePointerItem touch.seatSlot item).getPointerIds.Nodup
    rw [hids]
    exact hnodup'
  · intro other hother
    show _ ∈ (before.updatePointerItem touch.seatSlot item).getPointerIds
    rw [hids, hbefore]
    exact List.mem_map_of_mem hother
  · intro other hne
    rw [← hitems]
    refine (hothers other).trans ⟨fun h => ?_, fun h => .inr ⟨h, hne⟩⟩
    rcases h with rfl | ⟨h, _⟩
    · exact absurd hid hne
    · exact h
  · intro other hother heq
    refine ⟨item, hfound, ?_⟩
    rw [← hitems] at hother
    rw [hwindow, List.inj_on_of_nodup_map hnodup' hother holdMem (heq.trans holdId.symm)]

theorem ready_holdsReport (hnodup : (p.items.map PointerItem.pointerId).Nodup)
    (hnew : touch.type = .down → touch.seatSlot ∉ p.items.map PointerItem.pointerId)
    (h : (p.writeReport env s touch).1 = true) :
    HoldsReport p.items (p.ready env s touch) touch := by
  cases htype : touch.type with
  | down => exact ready_holdsReport_down htype hnodup (hnew htype) h
  | up =>
    revert h
    simp only [TouchTransformProcessor.ready, TouchTransformProcessor.writeReport, onEventTouch,
      htype, onEventTouchUp]
    split
    · simp
    · rename_i item hitem
      intro _
      dsimp only
      have hid : { item with pressed := false }.pointerId = touch.seatSlot :=
        (PointerEvent.getPointerItem_some hitem).2
      have hitems : (((p.event env.time).setActionTime env.time).setPointerAction
          pointerActionUp).pointers = p.items := event_pointers p env.time
      exact updatePointerItem_holdsReport hitems hnodup hitem hid rfl (by rw [htype]; rfl) _
  | motion =>
    revert h
    simp only [TouchTransformProcessor.ready, TouchTransformProcessor.writeReport, onEventTouch,
      htype, onEventTouchMotion]
    split
    · simp
    · split
      · simp
      · rename_i touchInfo displayId hpoint _ item hitem
        intro _
        dsimp only
        have hid : (motionItem item touch touchInfo).pointerId = touch.seatSlot :=
          (PointerEvent.getPointerItem_some hitem).2
        have hitems : (((p.event env.time).setActionTime env.time).setPointerAction
            pointerActionMove).pointers = p.items := event_pointers p env.time
        exact updatePointerItem_holdsReport hitems hnodup hitem hid rfl (by rw [htype]; rfl) _

theorem selectedWindow_touch {manager : InputWindowsManager} {event : PointerEvent}
    (hsource : event.sourceType = sourceTypeTouchscreen) :
    manager.selectedWindow event
      = (manager.findTouchTarget event).map InputWindowsManager.TouchTarget.touchWindow := by
  rw [InputWindowsManager.selectedWindow, if_pos hsource]

/-- What asking for a target makes of the header of a touch event. -/
theorem touch_target (env : Env) {event : PointerEvent}
    (hsource : event.sourceType = sourceTypeTouchscreen) :
    (s.updateTargetPointer env .other event).2.2.displayGroupInfo = s.displayGroupInfo ∧
      (s.updateTargetPointer env .other event).2.1.targetWindowId
        = ((s.findTouchTarget event).map fun t => t.touchWindow.id).getD event.targetWindowId ∧
      (s.updateTargetPointer env .other event).2.1.pointerAction
        = ((s.findTouchTarget event).map fun t => t.event.pointerAction).getD
            event.pointerAction := by
  rw [InputWindowsManager.updateTargetPointer, if_pos hsource]
  cases htarget : s.findTouchTarget event with
  | none =>
    obtain ⟨_, heq | ⟨displayId, heq⟩⟩ :=
      InputWindowsManager.updateTouchScreenTarget_of_none env .other htarget
    · rw [heq]
      exact ⟨rfl, rfl, rfl⟩
    · rw [heq]
      exact ⟨rfl, rfl, rfl⟩
  | some target =>
    obtain ⟨written, heq⟩ := InputWindowsManager.updateTouchScreenTarget_of_some env .other htarget
    have hhide := hideMouse_sameMaps env ((s.write .other written).write .other
      (InputWindowsManager.targeted target))
    rw [heq]
    dsimp only
    rw [(keepTouchDown_records _ _ _ _).1, hhide.displayGroupInfo]
    exact ⟨rfl, InputWindowsManager.targeted_targetWindowId target,
      InputWindowsManager.targeted_pointerAction target⟩

/-- The items once the target is asked for: the one of the finger is on the
window found. -/
structure OnTarget (s : InputWindowsManager) (items : List PointerItem) (event after : PointerEvent)
    (touch : LibinputTouch) : Prop where
  pointerId : after.pointerId = touch.seatSlot
  ids : after.getPointerIds = event.getPointerIds
  others : ∀ item, item.pointerId ≠ touch.seatSlot → (item ∈ after.pointers ↔ item ∈ items)
  found : ∀ target, s.findTouchTarget event = some target →
    touch.seatSlot ∈ after.getPointerIds ∧ ∀ item ∈ after.pointers,
      item.pointerId = touch.seatSlot → item.targetWindowId = target.touchWindow.id
  left : s.findTouchTarget event = none → after.pointers = event.pointers

theorem HoldsReport.onTarget {items : List PointerItem} {event : PointerEvent}
    (h : HoldsReport items event touch) (s : InputWindowsManager) (env : Env) :
    OnTarget s items event (s.updateTargetPointer env .other event).2.1 touch := by
  rw [InputWindowsManager.updateTargetPointer, if_pos h.sourceType]
  cases htarget : s.findTouchTarget event with
  | none =>
    have hfound : ∀ (after : PointerEvent) (target : InputWindowsManager.TouchTarget),
        s.findTouchTarget event = some target →
        touch.seatSlot ∈ after.getPointerIds ∧ ∀ item ∈ after.pointers,
          item.pointerId = touch.seatSlot → item.targetWindowId = target.touchWindow.id := by
      intro after target hsome
      rw [htarget] at hsome
      cases hsome
    obtain ⟨_, heq | ⟨displayId, heq⟩⟩ :=
      InputWindowsManager.updateTouchScreenTarget_of_none env .other htarget
    · rw [heq]
      exact ⟨h.pointerId, rfl, h.others, hfound _, fun _ => rfl⟩
    · rw [heq]
      exact ⟨h.pointerId, rfl, h.others, hfound _, fun _ => rfl⟩
  | some target =>
    obtain ⟨written, heq⟩ := InputWindowsManager.updateTouchScreenTarget_of_some env .other htarget
    obtain ⟨hids, hitem, hothers⟩ := InputWindowsManager.targeted_items htarget h.nodup
    obtain ⟨hmem, hid⟩ := PointerEvent.getPointerItem_some hitem
    rw [h.pointerId] at hid hothers
    have hnodup : (InputWindowsManager.targeted target).getPointerIds.Nodup := by
      rw [hids]
      exact h.nodup
    rw [heq]
    refine ⟨?_, hids, fun item hne => (hothers item hne).trans (h.others item hne),
      fun target' hsome => ⟨?_, fun item hitem' hid' => ?_⟩, fun hnone => ?_⟩
    · exact (InputWindowsManager.targeted_pointerId target).trans
        ((InputWindowsManager.findTouchTarget_event htarget).1.trans h.pointerId)
    · rw [← hid]
      exact List.mem_map_of_mem hmem
    · cases htarget.symm.trans hsome
      rw [List.inj_on_of_nodup_map hnodup hitem' hmem (hid'.trans hid.symm)]
      rfl
    · rw [htarget] at hnone
      cases hnone

/-! ## Steps of the service -/

namespace PointerService

variable {s : PointerService}

theorem handlePointerEventInner_rest (now : Moment) (s : PointerService) (point : PointerEvent) :
    (s.handlePointerEventInner now point).processors = s.processors ∧
      (s.handlePointerEventInner now point).windowsManager
        = (s.windowsManager.getClientFd (s.env now) point).2 := by
  simp only [handlePointerEventInner]
  split
  · exact ⟨rfl, rfl⟩
  · split
    · exact ⟨rfl, rfl⟩
    · exact ⟨rfl, rfl⟩

/-! ### The processors -/

/-- A report of a touch screen changes its processor. -/
theorem handleTouchEvent_processors (now : Moment) (s : PointerService) (deviceId : Int32)
    (touch : LibinputTouch) :
    (s.handleTouchEvent now deviceId touch).processors
      = Function.update s.processors deviceId (some ((s.processor deviceId).handleTouchEvent
          ⟨s.env now, s.windowsManager, touch⟩)) := by
  simp only [handleTouchEvent, TouchTransformProcessor.onEvent,
    TouchTransformProcessor.handleTouchEvent]
  split
  · have hprocessors : ∀ (t : PointerService) (event : PointerEvent),
        (t.handlePointerEventInner now event).processors = t.processors :=
      fun t event => (handlePointerEventInner_rest now t event).1
    simp only [setProcessor, if_true, hprocessors]
    rfl
  · rfl

theorem handlePointerEvent_processors (now : Moment) (s : PointerService)
    (ref : InputWindowsManager.EventRef) (event : PointerEvent) :
    (s.handlePointerEvent now ref event).processors = s.processors := by
  unfold handlePointerEvent
  split
  · rfl
  · exact (handlePointerEventInner_rest now { s with windowsManager := _ } _).1

/-- Other inputs keep the processors. -/
theorem step_processors {i : PointerInput}
    (hi : ∀ now deviceId touch, i ≠ .touch now deviceId touch) :
    (s.step i).processors = s.processors := by
  cases i with
  | touch now deviceId touch => exact absurd rfl (hi now deviceId touch)
  | mouse now report => exact (handlePointerEventInner_rest now { s with windowsManager := _ } _).1
  | axisEnd now => exact handlePointerEvent_processors now { s with windowsManager := _ } _ _
  | injectPointerEvent now event =>
    simp only [step, onInjectPointerEvent]
    split
    · exact (handlePointerEventInner_rest now { s with windowsManager := _ } _).1
    · split
      · exact handlePointerEvent_processors now { s with windowsManager := _ } _ _
      · rfl
  | updateDisplayInfo now displayGroupInfo => rfl
  | addSession ses => rfl
  | delSession fd =>
    simp only [step, delSession]
    split <;> rfl

/-! ### The records -/

theorem handleTouchEvent_records (now : Moment) (s : PointerService) (deviceId : Int32)
    (touch : LibinputTouch)
    (haction : ((s.processor deviceId).writeReport (s.env now) s.windowsManager touch).1 = true →
      ((s.processor deviceId).ready (s.env now) s.windowsManager touch).pointerAction
        ≠ pointerActionCancel) :
    (s.handleTouchEvent now deviceId touch).windowsManager.touchItemDownInfos
      = if ((s.processor deviceId).writeReport (s.env now) s.windowsManager touch).1 then
          recordsAfter s.windowsManager.updateId
            ((s.processor deviceId).ready (s.env now) s.windowsManager touch)
        else s.windowsManager.touchItemDownInfos := by
  simp only [handleTouchEvent, TouchTransformProcessor.onEvent]
  split
  · rename_i hwrite
    have hmanager := (handlePointerEventInner_rest now { s with
      windowsManager := (s.windowsManager.updateId.updateTargetPointer (s.env now) .other
        ((s.processor deviceId).ready (s.env now) s.windowsManager touch)).2.2 }
      (s.windowsManager.updateId.updateTargetPointer (s.env now) .other
        ((s.processor deviceId).ready (s.env now) s.windowsManager touch)).2.1).2
    simp only [setProcessor, if_true, hmanager]
    exact (touch_records (s.env now) _ rfl (haction hwrite)).2
  · rfl

theorem targetAndDispatch_records (now : Moment) {ref : InputWindowsManager.EventRef}
    {event : PointerEvent} (hsource : event.sourceType ≠ sourceTypeTouchscreen) :
    (s.targetAndDispatch now ref event).windowsManager.touchItemDownInfos
      = s.windowsManager.touchItemDownInfos := by
  obtain ⟨hmaps, hsame⟩ := InputWindowsManager.updateTargetPointer_other (s.env now) ref hsource
  have hmanager := (handlePointerEventInner_rest now { s with
    windowsManager := (s.windowsManager.updateTargetPointer (s.env now) ref event).2.2 }
    (s.windowsManager.updateTargetPointer (s.env now) ref event).2.1).2
  simp only [targetAndDispatch, hmanager]
  rw [(getClientFd_records _ _ _).2, if_neg fun h => hsource (hsame.symm.trans h.2.1)]
  exact hmaps.touchItemDownInfos

theorem handlePointerEvent_records {now : Moment} {ref : InputWindowsManager.EventRef}
    {event : PointerEvent}
    (hsource : ∀ h ∈ handledPointerEvent now s.windowsManager ref event,
      h.event.sourceType ≠ sourceTypeTouchscreen) :
    (s.handlePointerEvent now ref event).windowsManager.touchItemDownInfos
      = s.windowsManager.touchItemDownInfos := by
  unfold handledPointerEvent at hsource
  unfold handlePointerEvent
  split
  · rfl
  · rename_i hkeep
    rw [if_neg hkeep] at hsource
    exact targetAndDispatch_records now (hsource _ rfl)

theorem handleMouseEvent_records (now : Moment) (s : PointerService) (report : MouseReport) :
    (s.handleMouseEvent now report).windowsManager.touchItemDownInfos
      = s.windowsManager.touchItemDownInfos := by
  have hmouse : (handlePostInner now.time s.windowsManager report).1.sourceType
      ≠ sourceTypeTouchscreen := by
    show sourceTypeMouse ≠ sourceTypeTouchscreen
    decide
  have hpost : (handlePostInner now.time s.windowsManager report).2.touchItemDownInfos
      = s.windowsManager.touchItemDownInfos := by
    obtain ⟨location, h⟩ :=
      { s.windowsManager with mouseLocation := report.mouseLocation }.getMouseInfo_eq
    simp only [handlePostInner, h]
    rfl
  obtain ⟨hmaps, hsame⟩ := InputWindowsManager.updateTargetPointer_other (s.env now) .mouse hmouse
  have hmanager : ∀ (t : PointerService) (event : PointerEvent),
      (t.handlePointerEventInner now event).windowsManager
        = (t.windowsManager.getClientFd (t.env now) event).2 :=
    fun t event => (handlePointerEventInner_rest now t event).2
  simp only [handleMouseEvent, hmanager]
  rw [(getClientFd_records _ _ _).2, if_neg fun h => hmouse (hsame.symm.trans h.2.1)]
  exact hmaps.touchItemDownInfos.trans hpost

/-- Other inputs keep the records. -/
theorem step_records {i : PointerInput}
    (hi : ∀ now deviceId touch, i ≠ .touch now deviceId touch)
    (hsource : ∀ h ∈ s.handled i, h.event.sourceType ≠ sourceTypeTouchscreen) :
    (s.step i).windowsManager.touchItemDownInfos = s.windowsManager.touchItemDownInfos := by
  cases i with
  | touch now deviceId touch => exact absurd rfl (hi now deviceId touch)
  | mouse now report => exact handleMouseEvent_records now s report
  | axisEnd now => exact handlePointerEvent_records (s := { s with windowsManager := _ }) hsource
  | injectPointerEvent now event =>
    simp only [handled] at hsource
    simp only [step, onInjectPointerEvent]
    split
    · rename_i htouch
      rw [if_pos htouch] at hsource
      exact absurd htouch (hsource _ rfl)
    · rename_i htouch
      rw [if_neg htouch] at hsource
      split
      · rename_i hpointer
        rw [if_pos hpointer] at hsource
        exact handlePointerEvent_records (s := { s with windowsManager := _ }) hsource
      · rfl
  | updateDisplayInfo now displayGroupInfo => exact updateDisplayInfo_records ..
  | addSession ses => rfl
  | delSession fd =>
    simp only [step, delSession]
    split
    · rfl
    · rfl

end PointerService

end FtMmi.EventDispatch
