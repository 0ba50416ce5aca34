/-
FtMmi.MouseEventNormalize.AxisBrackets — the order of the axis events.

A scroll begins with `AXIS_BEGIN`, goes on with `AXIS_UPDATE` and ends with
`AXIS_END` when its timer is due. `Tracking` is the invariant: the actions
handed on so far are read by the automaton of the brackets, and a bracket
is open while there is a timer.

The reports share one event. A report of an unknown button leaves the
action the event has and is handed on all the same, so that a begin or an
end comes twice; a scroll that the window manager turns into a cancel is
missing from its bracket. `axisBracketed_of_orderly` excludes both.
-/
import FtMmi.Lib.Brackets
import FtMmi.MouseEventNormalize.MouseEventNormalize
import FtMmi.WindowManager.MouseTarget

namespace FtMmi.EventDispatch.PointerService

open FtMmi.Event
open FtMmi.WindowManager
open FtMmi.WindowManager.InputWindowsManager

/-! ## The mouse's event in the other inputs -/

theorem handlePointerEventInner_mouseEvent (now : Moment) (s : PointerService)
    (point : PointerEvent) :
    (s.handlePointerEventInner now point).windowsManager.mouseEvent
      = s.windowsManager.mouseEvent := by
  have hfd := getClientFd_mouseEvent (s.env now) s.windowsManager point
  simp only [handlePointerEventInner]
  split
  · exact hfd
  · split <;> exact hfd

theorem targetAndDispatch_mouseEvent (now : Moment) (s : PointerService) (event : PointerEvent) :
    (s.targetAndDispatch now .other event).windowsManager.mouseEvent
      = s.windowsManager.mouseEvent := by
  simp only [targetAndDispatch]
  rw [handlePointerEventInner_mouseEvent]
  exact updateTargetPointer_mouseEvent ..

theorem handlePointerEvent_mouseEvent (now : Moment) (s : PointerService) (event : PointerEvent) :
    (s.handlePointerEvent now .other event).windowsManager.mouseEvent
      = s.windowsManager.mouseEvent := by
  unfold handlePointerEvent
  split
  · rfl
  · exact targetAndDispatch_mouseEvent now s event

theorem handleTouchEvent_mouseEvent (now : Moment) (s : PointerService) (deviceId : Int32)
    (touch : TouchEventNormalize.LibinputTouch) :
    (s.handleTouchEvent now deviceId touch).windowsManager.mouseEvent
      = s.windowsManager.mouseEvent := by
  simp only [handleTouchEvent, TouchEventNormalize.TouchTransformProcessor.onEvent]
  split
  · simp only [if_true, setProcessor]
    rw [handlePointerEventInner_mouseEvent]
    exact updateTargetPointer_mouseEvent ..
  · rfl

theorem step_mouseEvent (s : PointerService) (i : MouseEventNormalize.OtherInput) :
    (s.step i).windowsManager.mouseEvent = s.windowsManager.mouseEvent := by
  obtain ⟨i, hi⟩ := i
  cases i with
  | touch now deviceId touch => exact handleTouchEvent_mouseEvent now s deviceId touch
  | mouse now report => exact hi.elim
  | axisEnd now => exact hi.elim
  | injectPointerEvent now event =>
    simp only [step, onInjectPointerEvent]
    split
    · exact targetAndDispatch_mouseEvent ..
    · split
      · exact handlePointerEvent_mouseEvent ..
      · rfl
  | updateDisplayInfo now displayGroupInfo => exact updateDisplayInfo_mouseEvent ..
  | addSession ses => rfl
  | delSession fd =>
    simp only [step, delSession]
    split <;> rfl

end FtMmi.EventDispatch.PointerService

namespace FtMmi.MouseEventNormalize

open FtMmi.Event
open FtMmi.EventDispatch
open FtMmi.Lib
open FtMmi.Timer
open FtMmi.WindowManager
open FtMmi.WindowManager.InputWindowsManager

/-! ## The property -/

/-- `(AXIS_BEGIN AXIS_UPDATE* AXIS_END)*` -/
def axisBrackets : Brackets Int32 where
  opening := pointerActionAxisBegin
  inner := pointerActionAxisUpdate
  closing := pointerActionAxisEnd
  inner_ne_closing := by decide

def isAxisAction (action : Int32) : Bool :=
  action = pointerActionAxisBegin ∨ action = pointerActionAxisUpdate ∨
    action = pointerActionAxisEnd

/-- There is the timer of a scroll. -/
def hasAxisTimer (timers : TimerManager TimerOwner) : Bool :=
  timers.timers.any fun t => t.callback = .axis

namespace MouseService

/-- The axis actions handed on. -/
def axisActions (s : MouseService) : List Int32 := s.handedOn.filter isAxisAction

/-- The end of a scroll is still to come. -/
def axisPending (s : MouseService) : Bool := hasAxisTimer s.timers

end MouseService

/-- The actions so far, with the end that is to come, are a word of the
language, and whatever goes on or ends has begun. -/
structure AxisBracketed (s : MouseService) : Prop where
  word : s.axisActions ++ (if s.axisPending then [pointerActionAxisEnd] else []) ∈
    axisBrackets.language
  ended : ∀ before after, s.axisActions = before ++ pointerActionAxisEnd :: after →
    axisBrackets.Open before
  scrolled : ∀ before after, s.axisActions = before ++ pointerActionAxisUpdate :: after →
    axisBrackets.Open before

/-- A timer that a scroll asks for is added. -/
def AddsTimer (s : MouseService) : MouseInput → Prop
  | .report _ nowTime report =>
      match report.pointer with
      | .axis _ _ => s.timers.isExist s.timerId = false →
          (s.timers.addTimer nowTime 100 1 (some .axis)).1 ≠ nonexistentId
      | _ => True
  | _ => True

/-! ## The condition -/

/-- The window manager turns the event of an input into a cancel. -/
def Cancelled (s : PointerService) (i : PointerInput) : Prop :=
  ∃ h, s.handled i = some h ∧ h.manager.leftAction h.event = pointerActionCancel

instance (s : PointerService) (i : PointerInput) : Decidable (Cancelled s i) :=
  decidable_of_iff ((s.handled i).any fun h => h.manager.leftAction h.event = pointerActionCancel)
    (by simp [Cancelled, Option.any_eq_true])

/-- A timer of a scroll with this id can be started again. -/
def Restarts (timers : TimerManager TimerOwner) (nowTime timerId : Int) : Prop :=
  ∀ t ∈ timers.timers, t.callback = .axis → t.id = timerId →
    addInt64 nowTime t.intervalMs ≠ none

/-- A report of an unknown button comes when the event does not begin or end a
scroll, a scroll or its end does not become a cancel, and nobody takes its
timer. -/
def Orderly (s : MouseService) : MouseInput → Prop
  | .report now nowTime report =>
      match report.pointer with
      | .motion => True
      | .button button state =>
          (libinputChangeToPointer button = buttonNone ∨ state = .unknown) →
            s.pointers.windowsManager.mouseEvent.pointerAction ≠ pointerActionAxisBegin ∧
                s.pointers.windowsManager.mouseEvent.pointerAction ≠ pointerActionAxisEnd ∨
              Cancelled s.pointers (.mouse now (s.mouseReport nowTime report))
      | .axis _ _ =>
          Restarts s.timers nowTime s.timerId ∧
            ¬ Cancelled s.pointers (.mouse now (s.mouseReport nowTime report))
  | .processNext now nowTime =>
      ∀ t ∈ s.timers.timers.head?, t.callback = .axis → t.nextCallTime ≤ nowTime →
        ¬ Cancelled s.pointers (.axisEnd now)
  | .otherRemove timerId => ∀ t ∈ s.timers.timers, t.callback = .axis → t.id ≠ timerId
  | .otherReset nowTime timerId => Restarts s.timers nowTime timerId
  | _ => True

/-! ## Items -/

variable {event : PointerEvent}

/-- The event of the mouse: no report yet, or one item. -/
def MouseItems (event : PointerEvent) : Prop := event.pointers = [] ∨ OneItem event

/-- The item of a report is the event's only one. -/
theorem MouseItems.report_pointers (h : MouseItems event) (item : PointerItem) :
    (event.updatePointerItem event.pointerId item).pointers = [item] := by
  rcases h with hnone | hone
  · unfold PointerEvent.updatePointerItem
    split
    · rename_i pointers hpointers
      rw [hnone] at hpointers
      cases hpointers
    · rw [PointerEvent.addPointerItem_pointers (by rw [hnone]; decide), hnone]
      rfl
  · obtain ⟨hlength, heq⟩ := hone.updatePointerItem item
    rw [heq]

/-- `UpdatePointerItem` and `SetPointerId` of `HandlePostInner`. -/
theorem MouseItems.report (h : MouseItems event) {item : PointerItem} (hid : item.pointerId = 0) :
    OneItem ((event.updatePointerItem event.pointerId item).setPointerId 0) :=
  ⟨item, h.report_pointers item, hid⟩

theorem updatePointerItem_action (event : PointerEvent) (pointerId : Int32) (item : PointerItem) :
    (event.updatePointerItem pointerId item).pointerAction = event.pointerAction := by
  obtain ⟨pointers, hlength, heq⟩ := event.updatePointerItem_eq pointerId item
  rw [heq]

theorem handlePostInner_event (time : Int64) (s : InputWindowsManager) (report : MouseReport)
    (h : MouseItems report.event) :
    (handlePostInner time s report).1.sourceType = sourceTypeMouse ∧
      (handlePostInner time s report).1.pointerAction = report.event.pointerAction ∧
      OneItem (handlePostInner time s report).1 := by
  refine ⟨rfl, updatePointerItem_action .., ?_⟩
  have hset : MouseItems (report.event.setId { s with
      mouseLocation := report.mouseLocation }.getMouseInfo.nextEventId) := h
  exact hset.report rfl

theorem handlePostMoveMouse_event (time : Int64) (s : InputWindowsManager)
    (mouseLocation : MouseLocation) (isPressed : Bool) (h : MouseItems event) :
    (MouseService.handlePostMoveMouse time s mouseLocation isPressed event).1.sourceType
        = sourceTypeMouse ∧
      (MouseService.handlePostMoveMouse time s mouseLocation isPressed event).1.pointerAction
        = event.pointerAction ∧
      OneItem (MouseService.handlePostMoveMouse time s mouseLocation isPressed event).1 := by
  refine ⟨rfl, updatePointerItem_action .., ?_⟩
  have hset : MouseItems (event.setId { s with mouseLocation }.getMouseInfo.nextEventId) := h
  exact hset.report rfl

theorem setAxis_rest (event : PointerEvent) (axis : AxisType) (axisValue : Option Double) :
    (MouseService.setAxis event axis axisValue).pointers = event.pointers ∧
      (MouseService.setAxis event axis axisValue).pointerId = event.pointerId ∧
      (MouseService.setAxis event axis axisValue).pointerAction = event.pointerAction := by
  cases axisValue with
  | none => exact ⟨rfl, rfl, rfl⟩
  | some value =>
    simp only [MouseService.setAxis, PointerEvent.setAxisValue]
    split <;> exact ⟨rfl, rfl, rfl⟩

theorem setButtonPressed_rest (event : PointerEvent) (buttonId : Int32) :
    (event.setButtonPressed buttonId).pointers = event.pointers ∧
      (event.setButtonPressed buttonId).pointerId = event.pointerId ∧
      (event.setButtonPressed buttonId).pointerAction = event.pointerAction := by
  unfold PointerEvent.setButtonPressed
  split <;> exact ⟨rfl, rfl, rfl⟩

/-- `Normalize` leaves the items and the pointer of the event. -/
theorem normalize_items (s : MouseService) (nowTime : Int) (pointer : LibinputPointer)
    (h : MouseItems s.pointers.windowsManager.mouseEvent) :
    MouseItems (s.normalize nowTime pointer).1 := by
  have hsame : ∀ event : PointerEvent,
      event.pointers = s.pointers.windowsManager.mouseEvent.pointers →
      event.pointerId = s.pointers.windowsManager.mouseEvent.pointerId → MouseItems event := by
    intro event hpointers hid
    rw [MouseItems, OneItem, hpointers, hid]
    exact h
  cases pointer with
  | motion => exact hsame _ rfl rfl
  | button button state =>
    simp only [MouseService.normalize, MouseService.handleButtonInner]
    split
    · exact hsame _ rfl rfl
    · cases state with
      | released => exact hsame _ rfl rfl
      | pressed => exact hsame _ (setButtonPressed_rest ..).1 (setButtonPressed_rest ..).2.1
      | unknown => exact hsame _ rfl rfl
  | axis vertical horizontal =>
    simp only [MouseService.normalize, MouseService.handleAxisInner]
    refine hsame _ ?_ ?_
    · rw [(setAxis_rest ..).1, (setAxis_rest ..).1]
      split <;> rfl
    · rw [(setAxis_rest ..).2.1, (setAxis_rest ..).2.1]
      split <;> rfl

/-! ## Handing on -/

/-- An event of the mouse was handed on with the action `action`, which is the
one it came with or a cancel. -/
structure HandedOn (s s' : MouseService) (came action : Int32) (cancelled : Prop) : Prop where
  handedOn : s'.handedOn = s.handedOn ++ [action]
  timers : s'.timers = s.timers
  timerId : s'.timerId = s.timerId
  pointerAction : s'.pointers.windowsManager.mouseEvent.pointerAction = action
  oneItem : OneItem s'.pointers.windowsManager.mouseEvent
  sourceType : s'.pointers.windowsManager.mouseEvent.sourceType = sourceTypeMouse
  kept : ¬ cancelled → action = came
  cancel : cancelled → action = pointerActionCancel

/-- An action is kept or becomes a cancel. -/
theorem leftAction_cases (s : InputWindowsManager) (event : PointerEvent) :
    s.leftAction event = event.pointerAction ∨ s.leftAction event = pointerActionCancel := by
  unfold leftAction
  split
  · cases hfound : s.findMouseTarget event with
    | none => exact .inl rfl
    | some r =>
      unfold findMouseTarget at hfound
      split at hfound
      · cases hfound
      · split at hfound
        · cases hfound
        · unfold mouseTarget at hfound
          dsimp only at hfound
          split at hfound
          · cases hfound
            exact .inl rfl
          · split at hfound
            · cases hfound
            · cases hfound
              exact .inr rfl
  · exact .inl rfl

/-- What is handed on when a target was looked for the mouse's event. -/
theorem handedOn_of_target {s s' : MouseService} {p : PointerService} {h : Handled}
    {event : PointerEvent} {cancelled : Prop}
    (hhanded : s'.handedOn = s.handedOn ++ MouseService.actionOf p (some h))
    (htimers : s'.timers = s.timers) (htimerId : s'.timerId = s.timerId)
    (hmouse : h.manager.mouseEvent = h.event) (href : h.ref = .mouse)
    (hsource : h.event.sourceType = sourceTypeMouse) (hone : OneItem h.event)
    (hevent : s'.pointers.windowsManager.mouseEvent = event)
    (haction : event.pointerAction = (p.target h).2.1.pointerAction)
    (hitems : OneItem (p.target h).2.1 → OneItem event)
    (hsource' : event.sourceType = (p.target h).2.1.sourceType)
    (hcancelled : cancelled ↔ h.manager.leftAction h.event = pointerActionCancel) :
    HandedOn s s' h.event.pointerAction (h.manager.leftAction h.event) cancelled := by
  have htarget : MouseRetargeted h.manager (p.target h).2.2 h.event (p.target h).2.1 := by
    rw [PointerService.target, href]
    exact updateTargetPointer_mouse _ hmouse hsource
  refine ⟨?_, htimers, htimerId, ?_, ?_, ?_, ?_, hcancelled.mp⟩
  · rw [hhanded, MouseService.actionOf, htarget.pointerAction]
  · rw [hevent, haction, htarget.pointerAction]
  · rw [hevent]
    exact hitems (htarget.oneItem hone)
  · rw [hevent, hsource', ← hsource]
    refine (updateTargetPointer_other _ h.ref ?_).2
    rw [hsource]
    decide
  · intro hnot
    exact (leftAction_cases h.manager h.event).resolve_right fun h => hnot (hcancelled.mpr h)

theorem cancelled_iff {s : PointerService} {i : PointerInput} {h : Handled}
    (hh : s.handled i = some h) :
    Cancelled s i ↔ h.manager.leftAction h.event = pointerActionCancel := by
  constructor
  · rintro ⟨h', hh', hleft⟩
    cases hh.symm.trans hh'
    exact hleft
  · intro hleft
    exact ⟨h, hh, hleft⟩

/-- The mouse's event when a report has been handed on. -/
theorem handOn_mouse_event (s : MouseService) (now : Moment) (report : MouseReport) :
    let r := handlePostInner now.time s.pointers.windowsManager report
    (s.handOn (.mouse now report)).pointers.windowsManager.mouseEvent
      = (s.pointers.target ⟨now, r.2.write .mouse r.1, .mouse, r.1⟩).2.1.setPressedKeys
          report.pressedKeys := by
  simp only [MouseService.handOn, PointerService.step, PointerService.handleMouseEvent]
  exact PointerService.handlePointerEventInner_mouseEvent ..

theorem handOn_mouse (s : MouseService) (now : Moment) (report : MouseReport)
    (h : MouseItems report.event) :
    ∃ action, HandedOn s (s.handOn (.mouse now report)) report.event.pointerAction action
      (Cancelled s.pointers (.mouse now report)) := by
  let r := handlePostInner now.time s.pointers.windowsManager report
  obtain ⟨hsource, haction, hone⟩ :=
    handlePostInner_event now.time s.pointers.windowsManager report h
  let looked : Handled := ⟨now, r.2.write .mouse r.1, .mouse, r.1⟩
  have hhandled : s.pointers.handled (.mouse now report) = some looked := rfl
  have hevent : (s.handOn (.mouse now report)).pointers.windowsManager.mouseEvent
      = (s.pointers.target looked).2.1.setPressedKeys report.pressedKeys :=
    handOn_mouse_event s now report
  have hhanded : HandedOn s (s.handOn (.mouse now report)) looked.event.pointerAction _
      (Cancelled s.pointers (.mouse now report)) :=
    handedOn_of_target rfl rfl rfl rfl rfl hsource hone hevent rfl id rfl
      (cancelled_iff hhandled)
  exact ⟨_, haction ▸ hhanded⟩

/-- The mouse's event when `HandlePointerEvent` is done with it. -/
theorem handlePointerEvent_event {p : PointerService} (now : Moment) {event : PointerEvent}
    (hmouse : p.windowsManager.mouseEvent = event) (hsource : event.sourceType = sourceTypeMouse)
    (hone : OneItem event) :
    (p.handlePointerEvent now .mouse event).windowsManager.mouseEvent
      = (p.target ⟨now, p.windowsManager, .mouse, event⟩).2.1 := by
  have hkeep : ¬ (event.pointerAction = pointerActionAxisEnd ∧
      (event.getPointerItem event.pointerId).isNone) := by
    obtain ⟨item, _, _, hitem⟩ := hone.found
    simp [hitem]
  rw [PointerService.handlePointerEvent, if_neg hkeep, PointerService.targetAndDispatch,
    PointerService.handlePointerEventInner_mouseEvent]
  exact (updateTargetPointer_mouse _ hmouse hsource).mouseEvent

/-- `HandlePointerEvent` of the mouse's event, which has an item. -/
theorem handlePointerEvent_mouse {s s' : MouseService} {p : PointerService} (now : Moment)
    {event : PointerEvent} {cancelled : Prop} (hmouse : p.windowsManager.mouseEvent = event)
    (hsource : event.sourceType = sourceTypeMouse) (hone : OneItem event)
    (hp : s'.pointers = p.handlePointerEvent now .mouse event)
    (hhanded : s'.handedOn = s.handedOn ++ MouseService.actionOf p
      (PointerService.handledPointerEvent now p.windowsManager .mouse event))
    (htimers : s'.timers = s.timers) (htimerId : s'.timerId = s.timerId)
    (hcancelled : cancelled ↔ p.windowsManager.leftAction event = pointerActionCancel) :
    ∃ action, HandedOn s s' event.pointerAction action cancelled := by
  have hkeep : ¬ (event.pointerAction = pointerActionAxisEnd ∧
      (event.getPointerItem event.pointerId).isNone) := by
    obtain ⟨item, _, _, hitem⟩ := hone.found
    simp [hitem]
  rw [PointerService.handledPointerEvent, if_neg hkeep] at hhanded
  let looked : Handled := ⟨now, p.windowsManager, .mouse, event⟩
  have hevent : s'.pointers.windowsManager.mouseEvent = (p.target looked).2.1 := by
    rw [hp]
    exact handlePointerEvent_event now hmouse hsource hone
  exact ⟨_, handedOn_of_target hhanded htimers htimerId hmouse rfl hsource hone hevent rfl id
    rfl hcancelled⟩

/-! ## The timer of a scroll -/

/-- The timers of scrolls: there is at most the one that `timerId_` names. -/
structure AxisTimer (timers : TimerManager TimerOwner) (timerId : Int) : Prop where
  own : ∀ t ∈ timers.timers, t.callback = .axis →
    t.id = timerId ∧ t.repeatCount = 1 ∧ 0 ≤ t.callbackCount
  free : (∀ t ∈ timers.timers, t.callback ≠ .axis) → timerId < 0

variable {timers timers' : TimerManager TimerOwner} {timerId nowTime : Int}

theorem hasAxisTimer_iff :
    hasAxisTimer timers = true ↔ ∃ t ∈ timers.timers, t.callback = .axis := by
  simp [hasAxisTimer]

theorem not_hasAxisTimer_iff :
    hasAxisTimer timers = false ↔ ∀ t ∈ timers.timers, t.callback ≠ .axis := by
  simp [hasAxisTimer]

/-- `IsExist(timerId_)` tells if a scroll is going on. -/
theorem AxisTimer.isExist (h : AxisTimer timers timerId) :
    timers.isExist timerId = hasAxisTimer timers := by
  cases haxis : hasAxisTimer timers with
  | true =>
    obtain ⟨t, ht, hcallback⟩ := hasAxisTimer_iff.mp haxis
    exact (timers.isExist_eq_true_iff timerId).mpr ⟨t, ht, (h.own t ht hcallback).1⟩
  | false =>
    have hneg := h.free (not_hasAxisTimer_iff.mp haxis)
    rw [Bool.eq_false_iff, Ne, timers.isExist_eq_true_iff]
    rintro ⟨t, ht, rfl⟩
    have hpos := (timers.range t ht).1
    omega

/-- The timers of scrolls are the same. -/
def SameAxis (timers timers' : TimerManager TimerOwner) : Prop :=
  ∀ t : TimerItem TimerOwner, t.callback = .axis → (t ∈ timers'.timers ↔ t ∈ timers.timers)

theorem SameAxis.axisTimer (hsame : SameAxis timers timers') (h : AxisTimer timers timerId) :
    AxisTimer timers' timerId ∧ hasAxisTimer timers' = hasAxisTimer timers := by
  refine ⟨⟨fun t ht hcallback => h.own t ((hsame t hcallback).mp ht) hcallback, fun hnone => ?_⟩, ?_⟩
  · exact h.free fun t ht hcallback => hnone t ((hsame t hcallback).mpr ht) hcallback
  · rw [Bool.eq_iff_iff, hasAxisTimer_iff, hasAxisTimer_iff]
    constructor
    · rintro ⟨t, ht, hcallback⟩
      exact ⟨t, (hsame t hcallback).mp ht, hcallback⟩
    · rintro ⟨t, ht, hcallback⟩
      exact ⟨t, (hsame t hcallback).mpr ht, hcallback⟩

/-- The timer of a scroll stays, with another time. -/
theorem AxisTimer.restart (h : AxisTimer timers timerId) {id : Int}
    (hrestart : Restarts timers nowTime id) :
    AxisTimer (timers.resetTimer nowTime id).2 timerId ∧
      hasAxisTimer (timers.resetTimer nowTime id).2 = hasAxisTimer timers := by
  obtain ⟨_, hsame⟩ | ⟨t, ht, hid, ⟨hover, heq⟩ | ⟨_, nextCallTime, hperm⟩⟩ :=
    timers.resetTimer_cases nowTime id
  · rw [hsame]
    exact ⟨h, rfl⟩
  · -- The timer that is lost is none of a scroll.
    have hother : t.callback ≠ .axis := fun hcallback => hrestart t ht hcallback hid hover
    refine SameAxis.axisTimer (fun a ha => ?_) h
    rw [heq, List.mem_filter]
    constructor
    · exact And.left
    · intro hmem
      refine ⟨hmem, decide_eq_true fun haid => hother ?_⟩
      rw [List.inj_on_of_nodup_map timers.nodup ht hmem (hid.trans haid.symm)]
      exact ha
  · have hmem : ∀ a, a ∈ (timers.resetTimer nowTime id).2.timers ↔
        a = { t with nextCallTime, callbackCount := 0 } ∨ a ∈ timers.timers ∧ a.id ≠ id := by
      intro a
      rw [hperm.mem_iff]
      simp
    have hsplit : ∀ a ∈ timers.timers, a = t ∨ a.id ≠ id := by
      intro a ha
      by_cases haid : a.id = id
      · exact .inl (List.inj_on_of_nodup_map timers.nodup ha ht (haid.trans hid.symm))
      · exact .inr haid
    refine ⟨⟨fun a ha hcallback => ?_, fun hnone => ?_⟩, ?_⟩
    · rcases (hmem a).mp ha with rfl | ⟨ha, _⟩
      · obtain ⟨hid', hrepeat, _⟩ := h.own t ht hcallback
        exact ⟨hid', hrepeat, le_refl _⟩
      · exact h.own a ha hcallback
    · refine h.free fun a ha hcallback => ?_
      rcases hsplit a ha with rfl | hne
      · exact hnone _ ((hmem _).mpr (.inl rfl)) hcallback
      · exact hnone a ((hmem a).mpr (.inr ⟨ha, hne⟩)) hcallback
    · rw [Bool.eq_iff_iff, hasAxisTimer_iff, hasAxisTimer_iff]
      constructor
      · rintro ⟨a, ha, hcallback⟩
        rcases (hmem a).mp ha with rfl | ⟨ha, _⟩
        · exact ⟨t, ht, hcallback⟩
        · exact ⟨a, ha, hcallback⟩
      · rintro ⟨a, ha, hcallback⟩
        rcases hsplit a ha with rfl | hne
        · exact ⟨_, (hmem _).mpr (.inl rfl), hcallback⟩
        · exact ⟨a, (hmem a).mpr (.inr ⟨ha, hne⟩), hcallback⟩

/-- A scroll begins. -/
theorem addTimer_axisTimer (hnone : hasAxisTimer timers = false)
    (hadds : (timers.addTimer nowTime 100 1 (some .axis)).1 ≠ nonexistentId) :
    AxisTimer (timers.addTimer nowTime 100 1 (some .axis)).2
        (timers.addTimer nowTime 100 1 (some .axis)).1 ∧
      hasAxisTimer (timers.addTimer nowTime 100 1 (some .axis)).2 = true := by
  obtain ⟨hfail, _⟩ | ⟨t, hcallback, hrepeat, hcount, _, _, hid, hperm⟩ :=
    timers.addTimer_cases nowTime 100 1 .axis
  · exact absurd hfail hadds
  · have ht : t ∈ (timers.addTimer nowTime 100 1 (some .axis)).2.timers :=
      hperm.mem_iff.mpr List.mem_cons_self
    refine ⟨⟨fun a ha haxis => ?_, fun hno => absurd hcallback (hno t ht)⟩,
      hasAxisTimer_iff.mpr ⟨t, ht, hcallback⟩⟩
    rcases List.mem_cons.mp (hperm.mem_iff.mp ha) with rfl | ha
    · exact ⟨hid.symm, hrepeat, hcount.ge⟩
    · exact absurd haxis (not_hasAxisTimer_iff.mp hnone a ha)

theorem otherAdd_sameAxis (timers : TimerManager TimerOwner) (component : Nat)
    (nowTime intervalMs repeatCount : Int) :
    SameAxis timers (timers.addTimer nowTime intervalMs repeatCount (some (.other component))).2 := by
  intro a ha
  obtain ⟨_, heq⟩ | ⟨t, hcallback, _, _, _, _, _, hperm⟩ :=
    timers.addTimer_cases nowTime intervalMs repeatCount (.other component)
  · rw [heq]
  · rw [hperm.mem_iff, List.mem_cons]
    refine or_iff_right fun heq => ?_
    rw [heq, hcallback] at ha
    cases ha

theorem otherRemove_sameAxis {id : Int}
    (h : ∀ t ∈ timers.timers, t.callback = .axis → t.id ≠ id) :
    SameAxis timers (timers.removeTimer id).2 := by
  intro a ha
  rw [timers.removeTimer_timers, List.mem_filter]
  exact ⟨And.left, fun hmem => ⟨hmem, decide_eq_true (h a hmem ha)⟩⟩

/-- The timer of a scroll is called once, when it is the first and due. -/
theorem AxisTimer.processNext (h : AxisTimer timers timerId) (nowTime : Int) :
    (∃ t ∈ timers.timers.head?, t.callback = .axis ∧ t.nextCallTime ≤ nowTime ∧
      (timers.processNext nowTime).1 = .fired .axis ∧
      ∀ a ∈ (timers.processNext nowTime).2.timers, a.callback ≠ .axis) ∨
    ((timers.processNext nowTime).1 ≠ .fired .axis ∧
      SameAxis timers (timers.processNext nowTime).2) := by
  obtain ⟨_, hidle⟩ | ⟨t, rest, htimers, hdue, hprocessed⟩ := timers.processNext_cases nowTime
  · rw [hidle]
    exact .inr ⟨by simp, fun _ _ => Iff.rfl⟩
  · have hhead : t ∈ timers.timers := by
      rw [htimers]
      exact List.mem_cons_self
    by_cases hcallback : t.callback = .axis
    · obtain ⟨hid, hrepeat, hcount⟩ := h.own t hhead hcallback
      have hrest : ∀ a ∈ rest, a.callback ≠ .axis := by
        intro a ha haxis
        have hmem : a ∈ timers.timers := by
          rw [htimers]
          exact List.mem_cons_of_mem _ ha
        have hnodup := timers.nodup
        rw [htimers, List.map_cons, List.nodup_cons] at hnodup
        refine hnodup.1 (List.mem_map.mpr ⟨a, ha, ?_⟩)
        rw [(h.own a hmem haxis).1, hid]
      refine .inl ⟨t, by rw [htimers]; rfl, hcallback, hdue, ?_⟩
      obtain ⟨_, _, hfired, hleft⟩ | ⟨hmore, _⟩ | ⟨hmore, _⟩ := hprocessed
      · rw [hfired, hleft, hcallback]
        exact ⟨rfl, hrest⟩
      · exact absurd (by omega) hmore
      · exact absurd (by omega) hmore
    · -- A timer of another component, with whatever happens to it.
      have hne : ∀ a : TimerItem TimerOwner, a.callback = .axis → a ∈ timers.timers →
          a ∈ rest := by
        intro a ha hmem
        rw [htimers] at hmem
        rcases List.mem_cons.mp hmem with rfl | hmem
        · exact absurd ha hcallback
        · exact hmem
      have hmem : ∀ a ∈ rest, a ∈ timers.timers := by
        intro a ha
        rw [htimers]
        exact List.mem_cons_of_mem _ ha
      have hfired : Processed.fired t.callback ≠ .fired .axis := by
        simpa using hcallback
      right
      obtain ⟨_, _, hout, hleft⟩ | ⟨_, hout, hleft⟩ | ⟨_, hout, nextCallTime, hperm⟩ := hprocessed
      · rw [hout]
        exact ⟨hfired, fun a ha => by rw [hleft]; exact ⟨hmem a, hne a ha⟩⟩
      · rw [hout]
        exact ⟨by simp, fun a ha => by rw [hleft]; exact ⟨hmem a, hne a ha⟩⟩
      · rw [hout]
        refine ⟨hfired, fun a ha => ?_⟩
        rw [hperm.mem_iff, List.mem_cons]
        constructor
        · rintro (rfl | hrest)
          · exact absurd ha hcallback
          · exact hmem a hrest
        · intro ha'
          exact .inr (hne a ha ha')

/-! ## The invariant -/

structure Tracking (s : MouseService) : Prop where
  word : axisBrackets.run false s.axisActions = some s.axisPending
  timer : AxisTimer s.timers s.timerId
  items : MouseItems s.pointers.windowsManager.mouseEvent
  /-- With a scroll going on there was a report. -/
  begun : s.axisPending = true → OneItem s.pointers.windowsManager.mouseEvent ∧
    s.pointers.windowsManager.mouseEvent.sourceType = sourceTypeMouse
  updating : s.pointers.windowsManager.mouseEvent.pointerAction = pointerActionAxisUpdate →
    s.axisPending = true

variable {s s' t : MouseService}

theorem create_tracking (now : Int64) (lastWindowInfo mouseDownInfo : WindowInfo) :
    Tracking (.create now lastWindowInfo mouseDownInfo) where
  word := rfl
  timer := ⟨(fun _ h => nomatch h), fun _ => (by decide : (-1 : Int) < 0)⟩
  items := .inl rfl
  begun h := by cases h
  updating h := by cases h

/-- What a scroll's invariant gives of the property. -/
theorem Tracking.axisBracketed (hs : Tracking s) : AxisBracketed s where
  word := by
    rw [Brackets.mem_language_iff, Brackets.run_append, hs.word]
    cases s.axisPending with
    | false => rfl
    | true => rfl
  ended before after h := by
    refine Brackets.open_of_ne_opening (a := pointerActionAxisEnd) (by decide) (h ▸ hs.word)
  scrolled before after h := by
    refine Brackets.open_of_ne_opening (a := pointerActionAxisUpdate) (by decide) (h ▸ hs.word)

/-- The inputs that do not touch the mouse's event. -/
theorem Tracking.of_sameAxis (hs : Tracking s) (hsame : SameAxis s.timers t.timers)
    (hid : t.timerId = s.timerId) (hhanded : t.handedOn = s.handedOn)
    (hmouse : t.pointers.windowsManager.mouseEvent = s.pointers.windowsManager.mouseEvent) :
    Tracking t := by
  obtain ⟨htimer, hpending⟩ := hsame.axisTimer hs.timer
  have hactions : t.axisActions = s.axisActions := by
    rw [MouseService.axisActions, hhanded, MouseService.axisActions]
  have heq : t.axisPending = s.axisPending := hpending
  exact ⟨by rw [hactions, heq]; exact hs.word, by rw [hid]; exact htimer, by rw [hmouse]; exact hs.items,
    by rw [heq, hmouse]; exact hs.begun, by rw [heq, hmouse]; exact hs.updating⟩

/-- An event is handed on, and the automaton goes on with its action. -/
theorem Tracking.handedOn (hs : Tracking s) {came action : Int32} {cancelled : Prop}
    (hkept : t.handedOn = s.handedOn) (h : HandedOn t s' came action cancelled)
    (htimer : AxisTimer t.timers t.timerId)
    (hnext : if isAxisAction action then
        axisBrackets.next s.axisPending action = some (hasAxisTimer t.timers)
      else hasAxisTimer t.timers = s.axisPending)
    (hupdating : action = pointerActionAxisUpdate → hasAxisTimer t.timers = true) :
    Tracking s' := by
  have hpending : s'.axisPending = hasAxisTimer t.timers := by
    rw [MouseService.axisPending, h.timers]
  refine ⟨?_, ?_, .inr h.oneItem, fun _ => ⟨h.oneItem, h.sourceType⟩, ?_⟩
  · rw [hpending]
    cases haxis : isAxisAction action with
    | true =>
      have hactions : s'.axisActions = s.axisActions ++ [action] := by
        simp [MouseService.axisActions, h.handedOn, hkept, haxis]
      rw [haxis, if_pos rfl] at hnext
      simp [hactions, hs.word, hnext]
    | false =>
      have hactions : s'.axisActions = s.axisActions := by
        simp [MouseService.axisActions, h.handedOn, hkept, haxis]
      rw [haxis, if_neg (by simp)] at hnext
      rw [hactions, hs.word, hnext]
  · rw [h.timers, h.timerId]
    exact htimer
  · rw [h.pointerAction, hpending]
    exact hupdating

/-- A cancel is no scroll. -/
theorem HandedOn.isAxisAction {came action : Int32} {cancelled : Prop}
    (h : HandedOn s s' came action cancelled) (hcame : isAxisAction came = false) :
    isAxisAction action = false := by
  by_cases hcancelled : cancelled
  · rw [h.cancel hcancelled]
    decide
  · rw [h.kept hcancelled, hcame]

/-- An event that is none of a scroll. -/
theorem Tracking.handedOn_other (hs : Tracking s) {came action : Int32} {cancelled : Prop}
    (hkept : t.handedOn = s.handedOn) (h : HandedOn t s' came action cancelled)
    (htimers : t.timers = s.timers) (htimerId : t.timerId = s.timerId)
    (haction : isAxisAction action = false) : Tracking s' := by
  refine hs.handedOn hkept h (by rw [htimers, htimerId]; exact hs.timer) ?_ ?_
  · rw [haction, htimers]
    rfl
  · intro hupdate
    rw [hupdate] at haction
    cases haction

/-! ## The steps -/

theorem normalize_pointers (s : MouseService) (nowTime : Int) (pointer : LibinputPointer) :
    (s.normalize nowTime pointer).2.pointers = s.pointers ∧
      (s.normalize nowTime pointer).2.handedOn = s.handedOn := by
  cases pointer with
  | motion => exact ⟨rfl, rfl⟩
  | button button state =>
    simp only [MouseService.normalize, MouseService.handleButtonInner]
    split
    · exact ⟨rfl, rfl⟩
    · cases state <;> exact ⟨rfl, rfl⟩
  | axis vertical horizontal =>
    simp only [MouseService.normalize, MouseService.handleAxisInner, MouseService.axisTimer]
    split <;> exact ⟨rfl, rfl⟩

/-- The action and the timers when a button was reported. -/
theorem handleButtonInner_cases (s : MouseService) (event : PointerEvent) (button : UInt32)
    (state : ButtonState) :
    (s.handleButtonInner event button state).2.timers = s.timers ∧
      (s.handleButtonInner event button state).2.timerId = s.timerId ∧
      (isAxisAction (s.handleButtonInner event button state).1.pointerAction = false ∨
        (libinputChangeToPointer button = buttonNone ∨ state = .unknown) ∧
          (s.handleButtonInner event button state).1.pointerAction = event.pointerAction) := by
  simp only [MouseService.handleButtonInner]
  split
  · rename_i hnone
    exact ⟨rfl, rfl, .inr ⟨.inl hnone, rfl⟩⟩
  · cases state with
    | released => exact ⟨rfl, rfl, .inl rfl⟩
    | pressed =>
      refine ⟨rfl, rfl, .inl ?_⟩
      rw [(setButtonPressed_rest ..).2.2]
      rfl
    | unknown => exact ⟨rfl, rfl, .inr ⟨.inr rfl, rfl⟩⟩

/-- A button: only what the condition allows is an action of a scroll. -/
theorem Tracking.button (hs : Tracking s) (now : Moment) (nowTime : Int) (report : PointerReport)
    {button : UInt32} {state : ButtonState} (hpointer : report.pointer = .button button state)
    (horderly : Orderly s (.report now nowTime report)) :
    Tracking (s.handleMouseEvent now nowTime report) := by
  obtain ⟨hpointers, hkept⟩ := normalize_pointers s nowTime report.pointer
  obtain ⟨action, h⟩ := handOn_mouse (s.normalize nowTime report.pointer).2 now
    (s.mouseReport nowTime report) (normalize_items s nowTime report.pointer hs.items)
  rw [hpointers] at h
  have hevent : (s.mouseReport nowTime report).event = (s.handleButtonInner
      s.pointers.windowsManager.mouseEvent.clearAxisValue button state).1 := by
    simp [MouseService.mouseReport, MouseService.normalize, hpointer]
  obtain ⟨htimers, htimerId, hcame⟩ := handleButtonInner_cases s
    s.pointers.windowsManager.mouseEvent.clearAxisValue button state
  have hservice : (s.normalize nowTime report.pointer).2 = (s.handleButtonInner
      s.pointers.windowsManager.mouseEvent.clearAxisValue button state).2 := by
    simp [MouseService.normalize, hpointer]
  rw [← hservice] at htimers htimerId
  rw [← hevent] at hcame
  rcases hcame with hcame | ⟨hunknown, heq⟩
  · exact hs.handedOn_other hkept h htimers htimerId (h.isAxisAction hcame)
  · simp only [Orderly, hpointer] at horderly
    by_cases hcancelled : Cancelled s.pointers (.mouse now (s.mouseReport nowTime report))
    · have haction := h.cancel hcancelled
      exact hs.handedOn_other hkept h htimers htimerId (by rw [haction]; decide)
    · -- The action the event had goes out once more.
      have haction : action = s.pointers.windowsManager.mouseEvent.pointerAction :=
        (h.kept hcancelled).trans heq
      obtain ⟨hbegin, hend⟩ := (horderly hunknown).resolve_right hcancelled
      rw [← haction] at hbegin hend
      by_cases hupdate : action = pointerActionAxisUpdate
      · have hpending := hs.updating (haction ▸ hupdate)
        refine hs.handedOn hkept h (by rw [htimers, htimerId]; exact hs.timer) ?_ fun _ => ?_
        · rw [hupdate, hpending, htimers]
          exact congrArg some hpending.symm
        · rw [htimers]
          exact hpending
      · refine hs.handedOn_other hkept h htimers htimerId ?_
        simp [MouseEventNormalize.isAxisAction, hbegin, hend, hupdate]

/-- A scroll. -/
theorem Tracking.axis (hs : Tracking s) (now : Moment) (nowTime : Int) (report : PointerReport)
    {vertical horizontal : Option Double} (hpointer : report.pointer = .axis vertical horizontal)
    (hadds : AddsTimer s (.report now nowTime report))
    (horderly : Orderly s (.report now nowTime report)) :
    Tracking (s.handleMouseEvent now nowTime report) := by
  obtain ⟨hpointers, _⟩ := normalize_pointers s nowTime report.pointer
  obtain ⟨action, h⟩ := handOn_mouse (s.normalize nowTime report.pointer).2 now
    (s.mouseReport nowTime report) (normalize_items s nowTime report.pointer hs.items)
  rw [hpointers] at h
  simp only [Orderly, hpointer] at horderly
  simp only [AddsTimer, hpointer] at hadds
  obtain ⟨hrestart, hnot⟩ := horderly
  have hevent : (s.mouseReport nowTime report).event.pointerAction = (s.axisTimer nowTime).1 := by
    simp only [MouseService.mouseReport, MouseService.normalize, hpointer,
      MouseService.handleAxisInner]
    rw [(setAxis_rest ..).2.2, (setAxis_rest ..).2.2]
    rfl
  have hservice : (s.normalize nowTime report.pointer).2 = (s.axisTimer nowTime).2 := by
    simp [MouseService.normalize, hpointer, MouseService.handleAxisInner]
  have haction := (h.kept hnot).trans hevent
  rw [hservice] at h
  have hexist : s.timers.isExist s.timerId = s.axisPending := hs.timer.isExist
  rw [MouseService.handleMouseEvent, hservice]
  cases hpending : s.axisPending with
  | true =>
    rw [hpending] at hexist
    obtain ⟨htimer, hsame⟩ := hs.timer.restart hrestart
    let t : MouseService := { s with timers := (s.timers.resetTimer nowTime s.timerId).2 }
    have haxis : s.axisTimer nowTime = (pointerActionAxisUpdate, t) := by
      simp [MouseService.axisTimer, hexist, t]
    rw [haxis] at h haction ⊢
    have hnow : hasAxisTimer (s.timers.resetTimer nowTime s.timerId).2 = true :=
      hsame.trans hpending
    refine hs.handedOn (t := t) rfl h htimer ?_ fun _ => hnow
    rw [haction, hpending, hnow]
    rfl
  | false =>
    rw [hpending] at hexist
    obtain ⟨htimer, hadded⟩ := addTimer_axisTimer hpending (hadds hexist)
    let t : MouseService := { s with
      timerId := (s.timers.addTimer nowTime 100 1 (some .axis)).1
      timers := (s.timers.addTimer nowTime 100 1 (some .axis)).2 }
    have haxis : s.axisTimer nowTime = (pointerActionAxisBegin, t) := by
      simp [MouseService.axisTimer, hexist, t]
    rw [haxis] at h haction ⊢
    refine hs.handedOn (t := t) rfl h htimer ?_ fun _ => hadded
    rw [haction, hpending, hadded]
    rfl

/-- A motion. -/
theorem Tracking.motion (hs : Tracking s) (now : Moment) (nowTime : Int) (report : PointerReport)
    (hpointer : report.pointer = .motion) : Tracking (s.handleMouseEvent now nowTime report) := by
  obtain ⟨action, h⟩ := handOn_mouse (s.normalize nowTime report.pointer).2 now
    (s.mouseReport nowTime report) (normalize_items s nowTime report.pointer hs.items)
  have hservice : (s.normalize nowTime report.pointer).2 = s := by
    simp [MouseService.normalize, hpointer]
  have hcame : isAxisAction (s.mouseReport nowTime report).event.pointerAction = false := by
    simp only [MouseService.mouseReport, MouseService.normalize, hpointer]
    rfl
  have haction := h.isAxisAction hcame
  rw [hservice] at h
  have hhanded : Tracking (s.handOn (.mouse now (s.mouseReport nowTime report))) :=
    hs.handedOn_other rfl h rfl rfl haction
  rw [MouseService.handleMouseEvent, hservice]
  exact hhanded

theorem Tracking.moveMouse (hs : Tracking s) (now : Moment) (mouseLocation : MouseLocation) :
    Tracking (s.onMoveMouse now mouseLocation) := by
  unfold MouseService.onMoveMouse
  split
  · have hitems : MouseItems (s.pointers.windowsManager.mouseEvent.setPointerAction
        pointerActionMove) := hs.items
    obtain ⟨hsource, hcame, hone⟩ := handlePostMoveMouse_event now.time s.pointers.windowsManager
      mouseLocation s.isPressed hitems
    let r := s.normalizeMoveMouse now mouseLocation
    let t : MouseService := { s with
      pointers := r.2.handlePointerEvent now .mouse r.1
      handedOn := s.handedOn ++ MouseService.actionOf r.2
        (PointerService.handledPointerEvent now r.2.windowsManager .mouse r.1) }
    have hhanded : ∃ action, HandedOn s t r.1.pointerAction action
        (r.2.windowsManager.leftAction r.1 = pointerActionCancel) :=
      handlePointerEvent_mouse now rfl hsource hone rfl rfl rfl rfl Iff.rfl
    obtain ⟨action, h⟩ := hhanded
    have haction : isAxisAction r.1.pointerAction = false :=
      (congrArg MouseEventNormalize.isAxisAction hcame).trans (by rfl)
    have htracking : Tracking t := hs.handedOn_other rfl h rfl rfl (h.isAxisAction haction)
    exact htracking
  · exact hs

/-- The end of a scroll: its timer is gone and its event goes out. -/
theorem Tracking.axisEnd (hs : Tracking s) (hpending : s.axisPending = true) (now : Moment)
    (hnone : ∀ a ∈ timers.timers, a.callback ≠ .axis)
    (hnot : ¬ Cancelled s.pointers (.axisEnd now)) :
    Tracking ({ s with timers, timerId := -1 }.handOn (.axisEnd now)) := by
  obtain ⟨hone, hsource⟩ := hs.begun hpending
  let t : MouseService := { s with timers, timerId := -1 }
  let event := (s.pointers.windowsManager.mouseEvent.setPointerAction pointerActionAxisEnd).setId
    s.pointers.windowsManager.nextEventId
  let p : PointerService :=
    { s.pointers with windowsManager := s.pointers.windowsManager.updateId.write .mouse event }
  have hone' : OneItem event := hone
  have hhandled : s.pointers.handled (.axisEnd now)
      = some ⟨now, p.windowsManager, .mouse, event⟩ := by
    obtain ⟨item, _, _, hitem⟩ := hone'.found
    show PointerService.handledPointerEvent now p.windowsManager .mouse event = _
    simp [PointerService.handledPointerEvent, hitem]
  have hhanded : ∃ action, HandedOn t (t.handOn (.axisEnd now)) event.pointerAction action
      (Cancelled s.pointers (.axisEnd now)) :=
    handlePointerEvent_mouse (p := p) now rfl hsource hone' rfl rfl rfl rfl
      (cancelled_iff hhandled)
  obtain ⟨action, h⟩ := hhanded
  have haction : action = pointerActionAxisEnd := h.kept hnot
  have hclosed : hasAxisTimer t.timers = false := not_hasAxisTimer_iff.mpr hnone
  refine hs.handedOn (t := t) rfl h ⟨fun b hb hcallback => absurd hcallback (hnone b hb),
    fun _ => (by decide : (-1 : Int) < 0)⟩ ?_ ?_
  · rw [haction, hpending, hclosed]
    rfl
  · intro hupdate
    rw [haction] at hupdate
    cases hupdate

theorem Tracking.processNext (hs : Tracking s) (now : Moment) (nowTime : Int)
    (horderly : Orderly s (.processNext now nowTime)) : Tracking (s.processNext now nowTime) := by
  have hround := hs.timer.processNext nowTime
  cases hprocessed : s.timers.processNext nowTime with
  | mk processed timers =>
    rw [hprocessed] at hround
    obtain ⟨a, ha, hcallback, hdue, hfired, hgone⟩ | ⟨hother, hsame⟩ := hround
    · have hpending : s.axisPending = true :=
        hasAxisTimer_iff.mpr ⟨a, List.mem_of_mem_head? ha, hcallback⟩
      obtain rfl : processed = .fired .axis := hfired
      simp only [MouseService.processNext, hprocessed]
      exact hs.axisEnd hpending now hgone (horderly a ha hcallback hdue)
    · have hkept : s.processNext now nowTime = { s with timers } := by
        simp only [MouseService.processNext, hprocessed]
      rw [hkept]
      exact hs.of_sameAxis hsame rfl rfl rfl

theorem step_tracking (s : MouseService) (i : MouseInput) (hs : Tracking s)
    (h : AddsTimer s i ∧ Orderly s i) : Tracking (s.step i) := by
  obtain ⟨hadds, horderly⟩ := h
  cases i with
  | report now nowTime report =>
    cases hpointer : report.pointer with
    | motion => exact hs.motion now nowTime report hpointer
    | button button state => exact hs.button now nowTime report hpointer horderly
    | axis vertical horizontal => exact hs.axis now nowTime report hpointer hadds horderly
  | moveMouse now mouseLocation => exact hs.moveMouse now mouseLocation
  | processNext now nowTime => exact hs.processNext now nowTime horderly
  | others i =>
    exact hs.of_sameAxis (fun _ _ => Iff.rfl) rfl rfl (PointerService.step_mouseEvent s.pointers i)
  | otherAdd component nowTime intervalMs repeatCount =>
    have hsame := otherAdd_sameAxis s.timers component nowTime intervalMs repeatCount
    exact hs.of_sameAxis hsame rfl rfl rfl
  | otherRemove timerId => exact hs.of_sameAxis (otherRemove_sameAxis horderly) rfl rfl rfl
  | otherReset nowTime timerId =>
    obtain ⟨htimer, hsame⟩ := hs.timer.restart horderly
    have heq : (s.step (.otherReset nowTime timerId)).axisPending = s.axisPending := hsame
    exact ⟨by rw [heq]; exact hs.word, htimer, hs.items, by rw [heq]; exact hs.begun,
      by rw [heq]; exact hs.updating⟩

/-! ## Every run -/

/-- In every run in which the timer manager accepts the timers of the scrolls
and whose steps are orderly, the axis actions handed on are a word of
`(AXIS_BEGIN AXIS_UPDATE* AXIS_END)*` up to the end that is still to come. -/
theorem axisBracketed_of_orderly (now : Int64) (lastWindowInfo mouseDownInfo : WindowInfo)
    (is : List MouseInput)
    (hadds : AllSteps MouseService.step AddsTimer (.create now lastWindowInfo mouseDownInfo) is)
    (horderly : AllSteps MouseService.step Orderly (.create now lastWindowInfo mouseDownInfo) is) :
    Always MouseService.step AxisBracketed (.create now lastWindowInfo mouseDownInfo) is := by
  have hboth : AllSteps MouseService.step (fun s i => AddsTimer s i ∧ Orderly s i)
      (.create now lastWindowInfo mouseDownInfo) is := allSteps_and.mpr ⟨hadds, horderly⟩
  have hinv := always_of_allSteps step_tracking is _
    (create_tracking now lastWindowInfo mouseDownInfo) hboth
  exact hinv.mono fun s hs => hs.axisBracketed

/-! ## An unknown button -/

def scroll : PointerReport := ⟨.axis (some ⟨1⟩) none, ⟨0, 0⟩, 0, 1, []⟩

/-- A ninth button of a mouse, which has no name. -/
def ninthButton : PointerReport := ⟨.button 280 .pressed, ⟨0, 0⟩, 0, 1, []⟩

/-- A scroll, and the button while its timer runs. -/
def scrollAndButton : List MouseInput :=
  [.report quietMoment 0 scroll, .report quietMoment 10 ninthButton]

def quietMouse : MouseService := .create 0 (leftOrRight 0 0 0) (leftOrRight 0 0 0)

/-- The timer is added, and the scroll begins twice. -/
theorem counterexample_axisBracketed :
    AllSteps MouseService.step AddsTimer quietMouse scrollAndButton ∧
      ¬ Always MouseService.step AxisBracketed quietMouse scrollAndButton := by
  constructor
  · refine ⟨fun _ => ?_, trivial, trivial⟩
    decide +kernel
  · intro h
    have hword := h.last.word
    have hactions : (runFrom MouseService.step quietMouse scrollAndButton).axisActions
        = [pointerActionAxisBegin, pointerActionAxisBegin] := by
      decide +kernel
    rw [Brackets.mem_language_iff, hactions] at hword
    cases hword

/-- A scroll of two reports among motions and clicks, and its end. -/
def scrollOfTwo : List MouseInput :=
  [.report quietMoment 0 scroll, .report quietMoment 20 { scroll with pointer := .motion },
    .report quietMoment 40 scroll,
    .report quietMoment 60 { scroll with pointer := .button 272 .pressed },
    .processNext quietMoment 140]

theorem axisBracketed_of_orderly_scrollOfTwo :
    Always MouseService.step AxisBracketed quietMouse scrollOfTwo ∧
      (runFrom MouseService.step quietMouse scrollOfTwo).axisActions
        = [pointerActionAxisBegin, pointerActionAxisUpdate, pointerActionAxisEnd] := by
  refine ⟨axisBracketed_of_orderly 0 (leftOrRight 0 0 0) (leftOrRight 0 0 0) scrollOfTwo ?_ ?_,
    by decide +kernel⟩
  · refine ⟨fun _ => ?_, trivial, fun _ => ?_, trivial, trivial, trivial⟩
    · decide +kernel
    · decide +kernel
  · refine ⟨⟨?_, ?_⟩, trivial, ⟨?_, ?_⟩, fun hunknown => ?_, fun _ _ _ _ => ?_, trivial⟩
    · exact fun t ht => nomatch ht
    · decide +kernel
    · intro t ht _ _
      have hall : ∀ t ∈ (runFrom MouseService.step quietMouse (scrollOfTwo.take 2)).timers.timers,
          addInt64 40 t.intervalMs ≠ none := by
        decide +kernel
      exact hall t ht
    · decide +kernel
    · revert hunknown
      decide
    · decide +kernel

end FtMmi.MouseEventNormalize
