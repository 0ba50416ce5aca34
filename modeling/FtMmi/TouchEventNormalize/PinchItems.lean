/-
FtMmi.TouchEventNormalize.PinchItems — the item of a pinch, in runs of
gestures of a touchpad and of the reports of mice.

Each begin adds an item, and nothing ever takes one out: the handler of a
gesture only passes the event on, where those of the other reports remove
the item or reset the event (`ResetTouchUpEvent`, `HandleTouchPadEvent`,
`HandleTableToolEvent`). So the event has one item as long as there is no
begin but the first report. `currentItem_iff` says that this is all: the
place and the buttons are always those that the mouse has then.
-/
import FtMmi.MouseEventNormalize.ButtonAgreement
import FtMmi.TouchEventNormalize.GestureTransformProcessor

namespace FtMmi.TouchEventNormalize

open FtMmi.Event
open FtMmi.EventDispatch
open FtMmi.Lib
open FtMmi.MouseEventNormalize
open FtMmi.WindowManager

/-! ## Runs -/

/-- The mouse's service, `mouseCoord_` of `MouseState`, and the processor of the
touchpad. -/
structure PinchService where
  mouse : MouseButtons
  mouseCoord : MouseLocation
  processor : GestureTransformProcessor

inductive PinchInput where
  | mouse (i : MouseInput)
  /-- A report of the touchpad, with what libinput has of it. -/
  | gesture (now : Moment) (type : GestureType) (time : Int64) (scale : Double)

/-- `IsLeftBtnPressed`, of `LIBINPUT_LEFT_BUTTON_CODE` -/
def isLeftBtnPressed (counts : MouseBtnState) : Bool := 0 < counts.getD 272 0

namespace PinchService

def create (now : Int64) (lastWindowInfo mouseDownInfo : WindowInfo) (deviceId : Int32) :
    PinchService where
  mouse := .create now lastWindowInfo mouseDownInfo
  mouseCoord := ⟨0, 0⟩
  processor := .create deviceId

/-- `SetMouseCoords` of `HandlePostInner` and `HandlePostMoveMouse`. -/
def setMouseCoords (s : PinchService) (mouseLocation : MouseLocation) : MouseLocation :=
  { s.mouse.service.pointers.windowsManager with mouseLocation }.getMouseInfo.mouseLocation

def coordAfter (s : PinchService) : MouseInput → MouseLocation
  | .report _ _ report => s.setMouseCoords report.mouseLocation
  | .moveMouse now mouseLocation =>
      if now.hasPointerDevice then s.setMouseCoords mouseLocation else s.mouseCoord
  | _ => s.mouseCoord

def libinputGesture (s : PinchService) (type : GestureType) (time : Int64) (scale : Double) :
    LibinputGesture where
  type
  time
  scale
  mouseCoordsX := s.mouseCoord.physicalX
  mouseCoordsY := s.mouseCoord.physicalY
  isLeftBtnPressed := isLeftBtnPressed s.mouse.mouseBtnState
  pressedButtons := s.mouse.mouseBtnState.getPressedButtons

/-- `OnEvent` of a report. -/
def onEvent (s : PinchService) (now : Moment) (type : GestureType) (time : Int64)
    (scale : Double) : Option PointerEvent × GestureTransformProcessor :=
  s.processor.onEvent (s.mouse.service.pointers.env now) s.mouse.service.pointers.windowsManager
    (s.libinputGesture type time scale)

/-- What `HandleGestureEvent` does with the event returned: there is no
`UpdateTargetPointer` here. -/
def passOn (now : Moment) (mouse : MouseButtons) : Option PointerEvent → MouseButtons
  | some event =>
      let pointers := mouse.service.pointers
      let pointers := { pointers with windowsManager := pointers.windowsManager.updateId }
      { mouse with
        service := { mouse.service with pointers := pointers.handlePointerEventInner now event } }
  | none => mouse

def step (s : PinchService) : PinchInput → PinchService
  | .mouse i => { s with mouse := s.mouse.step i, mouseCoord := s.coordAfter i }
  | .gesture now type time scale =>
      let result := s.onEvent now type time scale
      { s with mouse := passOn now s.mouse result.1, processor := result.2 }

/-! ## The property and the condition -/

/-- One item with the default id, where the mouse is, and the buttons that are
down. -/
structure Current (s : PinchService) (event : PointerEvent) : Prop where
  item : ∃ item, event.pointers = [item] ∧ item.pointerId = defaultPointerId ∧
    item.displayX = s.mouseCoord.physicalX ∧ item.displayY = s.mouseCoord.physicalY
  buttons : ∀ buttonId,
    buttonId ∈ event.pressedButtons ↔ buttonId ∈ s.mouse.mouseBtnState.getPressedButtons

def ReturnsCurrent (s : PinchService) : PinchInput → Prop
  | .mouse _ => True
  | .gesture now type time scale =>
      ∀ event, (s.onEvent now type time scale).1 = some event → s.Current event

end PinchService

/-- The items of the event kept. -/
def GestureTransformProcessor.items (p : GestureTransformProcessor) : List PointerItem :=
  match p.pointerEvent with
  | some event => event.pointers
  | none => []

/-- A pinch begins only as the first one: the event has no item. -/
def PinchService.BeginsFirst (s : PinchService) : PinchInput → Prop
  | .gesture _ .pinchBegin _ _ => s.processor.items = []
  | _ => True

instance (s : PinchService) : DecidablePred s.BeginsFirst := fun i => by
  unfold PinchService.BeginsFirst
  split <;> infer_instance

/-! ## The buttons of the event -/

variable {event : PointerEvent} {gesture : LibinputGesture}

theorem foldl_setButtonPressed_pointers (event : PointerEvent) (buttons : List Int32) :
    (buttons.foldl PointerEvent.setButtonPressed event).pointers = event.pointers := by
  induction buttons generalizing event with
  | nil => rfl
  | cons button buttons ih =>
    rw [List.foldl_cons, ih, PointerEvent.setButtonPressed]
    split <;> rfl

@[simp] theorem setPressedButtons_pointers (gesture : LibinputGesture) (event : PointerEvent) :
    (setPressedButtons gesture event).pointers = event.pointers :=
  foldl_setButtonPressed_pointers event.clearButtonPressed gesture.pressedButtons

theorem mem_foldl_setButtonPressed {buttons : List Int32} (hbuttons : buttons ⊆ mouseButtons)
    (h : event.pressedButtons ⊆ mouseButtons) (buttonId : Int32) :
    buttonId ∈ (buttons.foldl PointerEvent.setButtonPressed event).pressedButtons ↔
      buttonId ∈ buttons ∨ buttonId ∈ event.pressedButtons := by
  induction buttons generalizing event with
  | nil => simp
  | cons button buttons ih =>
    obtain ⟨hbutton, hrest⟩ := List.cons_subset.mp hbuttons
    have hmem := mem_setButtonPressed_iff (pressedButtons_room h) button
    have hset : (event.setButtonPressed button).pressedButtons ⊆ mouseButtons := by
      intro other hother
      rcases (hmem other).mp hother with rfl | hother
      · exact hbutton
      · exact h hother
    rw [List.foldl_cons, ih hrest hset, hmem, List.mem_cons]
    tauto

theorem mem_setPressedButtons (h : gesture.pressedButtons ⊆ mouseButtons) (event : PointerEvent)
    (buttonId : Int32) :
    buttonId ∈ (setPressedButtons gesture event).pressedButtons ↔
      buttonId ∈ gesture.pressedButtons := by
  rw [setPressedButtons, mem_foldl_setButtonPressed h (List.nil_subset _)]
  exact or_iff_left List.not_mem_nil

@[simp] theorem setAxisValue_pressedButtons (event : PointerEvent) (axis : AxisType)
    (axisValue : Double) :
    (event.setAxisValue axis axisValue).pressedButtons = event.pressedButtons := by
  unfold PointerEvent.setAxisValue
  split <;> rfl

@[simp] theorem setAxisValue_pointers (event : PointerEvent) (axis : AxisType)
    (axisValue : Double) : (event.setAxisValue axis axisValue).pointers = event.pointers := by
  unfold PointerEvent.setAxisValue
  split <;> rfl

/-! ## One report -/

/-- The item has the default id and is where the mouse is. -/
structure AtMouse (gesture : LibinputGesture) (item : PointerItem) : Prop where
  pointerId : item.pointerId = defaultPointerId
  displayX : item.displayX = gesture.mouseCoordsX
  displayY : item.displayY = gesture.mouseCoordsY

/-- There is no item, or one with the default id. -/
def AtMostOne (items : List PointerItem) : Prop :=
  items = [] ∨ ∃ item, items = [item] ∧ item.pointerId = defaultPointerId

theorem AtMostOne.length_lt {items : List PointerItem} (h : AtMostOne items) :
    items.length < maxNPointerItems := by
  rcases h with rfl | ⟨item, rfl, _⟩
  · decide
  · rw [List.length_singleton]
    decide

/-- The item put in is the only one. -/
theorem AtMostOne.updatePointerItem (h : AtMostOne event.pointers) (item : PointerItem) :
    (event.updatePointerItem defaultPointerId item).pointers = [item] := by
  rcases h with hnone | ⟨first, hfirst, hid⟩
  · unfold PointerEvent.updatePointerItem
    split
    · rename_i pointers hpointers
      rw [hnone] at hpointers
      cases hpointers
    · rw [PointerEvent.addPointerItem_pointers (by rw [hnone]; decide), hnone]
      rfl
  · have hhead : ∃ h, event.updatePointerItem first.pointerId item
        = { event with pointers := [item], pointers_length := h } :=
      PointerEvent.updatePointerItem_head hfirst
    obtain ⟨hlength, heq⟩ := hhead
    rw [← hid, heq]

theorem pinchItem_atMouse {item : PointerItem} (h : item.pointerId = defaultPointerId) :
    AtMouse gesture (pinchItem item gesture) :=
  ⟨h, rfl, rfl⟩

theorem onEventTouchPadPinchBegin_pointers (deviceId : Int32) (now : Int64)
    (gesture : LibinputGesture) (h : AtMostOne event.pointers) :
    ∃ item, AtMouse gesture item ∧
      (onEventTouchPadPinchBegin deviceId now gesture event).pointers = event.pointers ++ [item] := by
  let item : PointerItem :=
    { downTime := gesture.time, deviceId := deviceId, pointerId := defaultPointerId }
  refine ⟨pinchItem item gesture, pinchItem_atMouse rfl, ?_⟩
  have hadd : (((event.setActionTime now).setActionStartTime gesture.time).addPointerItem
      (pinchItem item gesture)).pointers = event.pointers ++ [pinchItem item gesture] :=
    PointerEvent.addPointerItem_pointers h.length_lt
  exact (setAxisValue_pointers ..).trans ((setPressedButtons_pointers ..).trans hadd)

theorem mem_onEventTouchPadPinchBegin (hbuttons : gesture.pressedButtons ⊆ mouseButtons)
    (deviceId : Int32) (now : Int64) (event : PointerEvent) (buttonId : Int32) :
    buttonId ∈ (onEventTouchPadPinchBegin deviceId now gesture event).pressedButtons ↔
      buttonId ∈ gesture.pressedButtons := by
  rw [onEventTouchPadPinchBegin, setAxisValue_pressedButtons]
  exact mem_setPressedButtons hbuttons _ buttonId

theorem onEventTouchPadPinchUpdate_pointers (now : Int64) (gesture : LibinputGesture)
    (h : AtMostOne event.pointers) :
    ∃ item, AtMouse gesture item ∧
      (onEventTouchPadPinchUpdate now gesture event).pointers = [item] := by
  let timed := (event.setActionTime now).setActionStartTime gesture.time
  let item := (timed.getPointerItem defaultPointerId).getD {}
  have htimed : AtMostOne timed.pointers := h
  have hid : item.pointerId = defaultPointerId := by
    cases hitem : timed.getPointerItem defaultPointerId with
    | none =>
      simp only [item, hitem]
      rfl
    | some found =>
      simp only [item, hitem, Option.getD_some]
      exact (PointerEvent.getPointerItem_some hitem).2
  refine ⟨pinchItem item gesture, pinchItem_atMouse hid, ?_⟩
  exact (setAxisValue_pointers ..).trans
    ((setPressedButtons_pointers ..).trans (htimed.updatePointerItem _))

theorem mem_onEventTouchPadPinchUpdate (hbuttons : gesture.pressedButtons ⊆ mouseButtons)
    (now : Int64) (event : PointerEvent) (buttonId : Int32) :
    buttonId ∈ (onEventTouchPadPinchUpdate now gesture event).pressedButtons ↔
      buttonId ∈ gesture.pressedButtons := by
  rw [onEventTouchPadPinchUpdate, setAxisValue_pressedButtons]
  exact mem_setPressedButtons hbuttons _ buttonId

namespace GestureTransformProcessor

variable {p : GestureTransformProcessor} {env : Env} {manager : InputWindowsManager}

theorem getD_pointers (p : GestureTransformProcessor) (now : Int64) :
    (p.pointerEvent.getD (.create now)).pointers = p.items := by
  unfold items
  cases p.pointerEvent <;> rfl

/-- A begin returns the event with another item. -/
theorem onEvent_begin (env : Env) (manager : InputWindowsManager) (h : AtMostOne p.items)
    (htype : gesture.type = .pinchBegin) :
    ∃ event item, (p.onEvent env manager gesture).1 = some event ∧ AtMouse gesture item ∧
      event.pointers = p.items ++ [item] := by
  let before := (p.pointerEvent.getD (.create env.time)).setPointerAction pointerActionAxisBegin
  have hbefore : before.pointers = p.items := p.getD_pointers env.time
  obtain ⟨item, hitem, hpointers⟩ := onEventTouchPadPinchBegin_pointers p.deviceId env.time gesture
    (hbefore ▸ h : AtMostOne before.pointers)
  let begun := onEventTouchPadPinchBegin p.deviceId env.time gesture before
  refine ⟨(begun.setSourceType sourceTypeMouse).setId manager.nextEventId, item, ?_, hitem,
    hpointers.trans (by rw [hbefore])⟩
  unfold onEvent writeGesture
  simp only [htype]
  rfl

/-- Any other report that returns the event leaves it one item. -/
theorem onEvent_update (h : AtMostOne p.items) (htype : gesture.type ≠ .pinchBegin)
    (hevent : (p.onEvent env manager gesture).1 = some event) :
    ∃ item, AtMouse gesture item ∧ event.pointers = [item] := by
  have hupdate : ∀ action, ∃ item, AtMouse gesture item ∧ (onEventTouchPadPinchUpdate env.time
      gesture ((p.pointerEvent.getD (.create env.time)).setPointerAction action)).pointers
        = [item] := fun action =>
    onEventTouchPadPinchUpdate_pointers env.time gesture ((p.getD_pointers env.time).symm ▸ h)
  unfold onEvent writeGesture at hevent
  cases htype' : gesture.type with
  | pinchBegin => exact absurd htype' htype
  | swipe => simp [htype'] at hevent
  | pinchUpdate =>
    simp only [htype', Option.some.injEq] at hevent
    exact hevent ▸ hupdate pointerActionAxisUpdate
  | pinchEnd =>
    simp only [htype', Option.some.injEq] at hevent
    exact hevent ▸ hupdate pointerActionAxisEnd

/-- The buttons are those of the mouse. -/
theorem onEvent_buttons (hbuttons : gesture.pressedButtons ⊆ mouseButtons)
    (hevent : (p.onEvent env manager gesture).1 = some event) (buttonId : Int32) :
    buttonId ∈ event.pressedButtons ↔ buttonId ∈ gesture.pressedButtons := by
  unfold onEvent writeGesture at hevent
  cases htype : gesture.type with
  | swipe => simp [htype] at hevent
  | pinchBegin =>
    simp only [htype, Option.some.injEq] at hevent
    rw [← hevent]
    exact mem_onEventTouchPadPinchBegin hbuttons ..
  | _ =>
    simp only [htype, Option.some.injEq] at hevent
    rw [← hevent]
    exact mem_onEventTouchPadPinchUpdate hbuttons ..

/-- An event that is returned is kept. -/
theorem onEvent_items (env : Env) (manager : InputWindowsManager) (p : GestureTransformProcessor)
    (gesture : LibinputGesture) :
    (p.onEvent env manager gesture).2.items =
      match (p.onEvent env manager gesture).1 with
      | some event => event.pointers
      | none => p.items := by
  unfold onEvent
  cases p.writeGesture env gesture with
  | some event => rfl
  | none => exact p.getD_pointers env.time

end GestureTransformProcessor

/-! ## One step -/

namespace PinchService

variable {s : PinchService}

/-- What holds as long as no pinch begins but the first. -/
structure Kept (s : PinchService) : Prop where
  counted : Counted s.mouse.mouseBtnState
  items : AtMostOne s.processor.items

/-- The items that a report returns. -/
theorem Kept.returned (h : s.Kept) {now : Moment} {type : GestureType} {time : Int64}
    {scale : Double} {event : PointerEvent}
    (hevent : (s.onEvent now type time scale).1 = some event) :
    ∃ item, AtMouse (s.libinputGesture type time scale) item ∧
      event.pointers = if type = .pinchBegin then s.processor.items ++ [item] else [item] := by
  let gesture := s.libinputGesture type time scale
  by_cases htype : type = .pinchBegin
  · have hgesture : gesture.type = .pinchBegin := htype
    obtain ⟨begun, item, hbegun, hitem, hpointers⟩ := GestureTransformProcessor.onEvent_begin
      (s.mouse.service.pointers.env now) s.mouse.service.pointers.windowsManager h.items hgesture
    have heq : begun = event := Option.some.inj (hbegun.symm.trans hevent)
    exact ⟨item, hitem, by rw [if_pos htype, ← heq, hpointers]⟩
  · have hgesture : gesture.type ≠ .pinchBegin := htype
    obtain ⟨item, hitem, hpointers⟩ :=
      GestureTransformProcessor.onEvent_update h.items hgesture hevent
    exact ⟨item, hitem, by rw [if_neg htype, hpointers]⟩

/-- If no pinch begins but the first, one item is returned. -/
theorem Kept.returned_one (h : s.Kept) {now : Moment} {type : GestureType} {time : Int64}
    {scale : Double} (hfirst : s.BeginsFirst (.gesture now type time scale)) {event : PointerEvent}
    (hevent : (s.onEvent now type time scale).1 = some event) :
    ∃ item, AtMouse (s.libinputGesture type time scale) item ∧ event.pointers = [item] := by
  obtain ⟨item, hitem, hpointers⟩ := h.returned hevent
  refine ⟨item, hitem, hpointers.trans ?_⟩
  cases type with
  | pinchBegin =>
    have hnone : s.processor.items = [] := hfirst
    rw [if_pos rfl, hnone, List.nil_append]
  | _ => rfl

theorem passOn_mouseBtnState (now : Moment) (mouse : MouseButtons) (event : Option PointerEvent) :
    (passOn now mouse event).mouseBtnState = mouse.mouseBtnState := by
  cases event <;> rfl

theorem Kept.step (h : s.Kept) {i : PinchInput} (hfirst : s.BeginsFirst i) : (s.step i).Kept := by
  cases i with
  | mouse i =>
    refine ⟨?_, h.items⟩
    cases i with
    | report now nowTime report => exact handleButtonInner_counted h.counted report.pointer
    | _ => exact h.counted
  | gesture now type time scale =>
    constructor
    · show Counted (passOn now s.mouse _).mouseBtnState
      rw [passOn_mouseBtnState]
      exact h.counted
    · show AtMostOne (s.onEvent now type time scale).2.items
      have hitems : (s.onEvent now type time scale).2.items =
          match (s.onEvent now type time scale).1 with
          | some event => event.pointers
          | none => s.processor.items := GestureTransformProcessor.onEvent_items ..
      rw [hitems]
      cases hevent : (s.onEvent now type time scale).1 with
      | none => exact h.items
      | some event =>
        obtain ⟨item, hitem, hpointers⟩ := h.returned_one hfirst hevent
        exact .inr ⟨item, hpointers, hitem.pointerId⟩

/-- A report returns a current event, precisely if it meets the condition. -/
theorem Kept.returnsCurrent_iff (h : s.Kept) (i : PinchInput) :
    s.ReturnsCurrent i ↔ s.BeginsFirst i := by
  cases i with
  | mouse i => exact Iff.rfl
  | gesture now type time scale =>
    constructor
    · intro hcurrent
      cases type with
      | pinchBegin =>
        -- The new item is the only one that the event has.
        have htype : (s.libinputGesture .pinchBegin time scale).type = .pinchBegin := rfl
        obtain ⟨event, item, hevent, _, hpointers⟩ := GestureTransformProcessor.onEvent_begin
          (s.mouse.service.pointers.env now) s.mouse.service.pointers.windowsManager h.items htype
        obtain ⟨only, hone, _⟩ := (hcurrent event hevent).item
        have hlength := congrArg List.length (hpointers.symm.trans hone)
        rw [List.length_append, List.length_singleton, List.length_singleton] at hlength
        exact List.length_eq_zero_iff.mp (Nat.succ_injective hlength)
      | _ => trivial
    · intro hfirst event hevent
      obtain ⟨item, hitem, hpointers⟩ := h.returned_one hfirst hevent
      refine ⟨⟨item, hpointers, hitem.pointerId, hitem.displayX, hitem.displayY⟩, ?_⟩
      have hbuttons : (s.libinputGesture type time scale).pressedButtons ⊆ mouseButtons :=
        h.counted.getPressedButtons_subset
      exact GestureTransformProcessor.onEvent_buttons hbuttons hevent

/-! ## Every run -/

/-- In every run of gestures of a touchpad and of whatever happens to the
mice, each event returned has one item, with the default id and where the
mouse is, and the buttons that are down, if and only if no pinch begins but
as the first report of one. -/
theorem currentItem_iff (now : Int64) (lastWindowInfo mouseDownInfo : WindowInfo)
    (deviceId : Int32) (is : List PinchInput) :
    AllSteps step ReturnsCurrent (create now lastWindowInfo mouseDownInfo deviceId) is ↔
      AllSteps step BeginsFirst (create now lastWindowInfo mouseDownInfo deviceId) is := by
  have hany : AllSteps step (fun _ _ => True)
      (create now lastWindowInfo mouseDownInfo deviceId) is :=
    @allSteps_of_step _ _ step (fun _ => True) _ (fun _ _ h => h) (fun _ _ _ => trivial) is _ trivial
  have hcreate : (create now lastWindowInfo mouseDownInfo deviceId).Kept :=
    ⟨counted_empty, .inl rfl⟩
  have hiff : ∀ (s : PinchService) i, s.Kept → True → (s.ReturnsCurrent i ↔ s.BeginsFirst i) :=
    fun _ i h _ => h.returnsCurrent_iff i
  exact allSteps_iff_of_inv hiff (fun _ _ h _ hfirst => h.step hfirst) is _ hcreate hany

/-- Two pinches, one after the other. -/
def twoPinches : List PinchInput :=
  [.gesture quietMoment .pinchBegin 1 .zero, .gesture quietMoment .pinchEnd 2 .zero,
    .gesture quietMoment .pinchBegin 3 .zero]

def quietPinches : PinchService := .create 0 (leftOrRight 0 0 0) (leftOrRight 0 0 0) 3

/-- The event of the second pinch has the item of the first one too. -/
theorem counterexample_currentItem : ¬ AllSteps step ReturnsCurrent quietPinches twoPinches := by
  intro h
  obtain ⟨_, _, hlast, _⟩ := h
  obtain ⟨⟨item, hone, _⟩, _⟩ := hlast (Option.get _ (by decide +kernel)) (Option.some_get _).symm
  have hlength := congrArg List.length hone
  revert hlength
  rw [List.length_singleton]
  decide +kernel

end PinchService

end FtMmi.TouchEventNormalize
