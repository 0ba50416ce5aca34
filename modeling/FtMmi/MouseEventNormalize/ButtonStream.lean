/-
FtMmi.MouseEventNormalize.ButtonStream — the presses and releases that come
out of the mouse path.

`ButtonStream` is the service with a note of the press and release reports
of the buttons there are, of the events that go to the handlers that follow
(`passedOn`), and of those among them that come of a report whose
normalisation fails.

The window manager may turn the event of a report into a cancel, when the
window that a button went down on is gone. `answersClicks` says what comes of
the reports whose normalisation succeeds, in every run.
-/
import FtMmi.MouseEventNormalize.AxisBrackets

namespace FtMmi.MouseEventNormalize

open FtMmi.Event
open FtMmi.EventDispatch
open FtMmi.Lib
open FtMmi.WindowManager
open FtMmi.WindowManager.InputWindowsManager

/-! ## What is passed on -/

/-- An event as it is looked at here: its action and its button. -/
structure ButtonEvent where
  pointerAction : Int32
  buttonId : Int32
  deriving DecidableEq, Repr

def PointerEvent.button (event : PointerEvent) : ButtonEvent :=
  ⟨event.pointerAction, event.buttonId⟩

def ButtonEvent.isButton (e : ButtonEvent) : Bool :=
  e.pointerAction = pointerActionButtonDown ∨ e.pointerAction = pointerActionButtonUp

namespace MouseService

/-- An event as the handlers that follow get it. -/
def buttonOf (p : PointerService) : Option Handled → List ButtonEvent
  | some h => [PointerEvent.button (p.target h).2.1]
  | none => []

/-- The events of the mouse that a step passes on. -/
def passedOn (s : MouseService) : MouseInput → List ButtonEvent
  | .report now nowTime report =>
      buttonOf s.pointers (s.pointers.handled (.mouse now (s.mouseReport nowTime report)))
  | .moveMouse now mouseLocation =>
      if now.hasPointerDevice then
        let r := s.normalizeMoveMouse now mouseLocation
        buttonOf r.2 (PointerService.handledPointerEvent now r.2.windowsManager .mouse r.1)
      else []
  | .processNext now nowTime =>
      match s.timers.processNext nowTime with
      | (.fired .axis, _) => buttonOf s.pointers (s.pointers.handled (.axisEnd now))
      | _ => []
  | _ => []

end MouseService

theorem actionOf_eq (p : PointerService) (h : Option Handled) :
    MouseService.actionOf p h = (MouseService.buttonOf p h).map ButtonEvent.pointerAction := by
  cases h <;> rfl

/-- They are the events whose actions the service logs. -/
theorem handedOn_step (s : MouseService) (i : MouseInput) :
    (s.step i).handedOn = s.handedOn ++ (s.passedOn i).map ButtonEvent.pointerAction := by
  cases i with
  | report now nowTime report =>
    simp only [MouseService.step, MouseService.handleMouseEvent, MouseService.handOn,
      MouseService.passedOn, normalize_pointers, actionOf_eq]
  | moveMouse now mouseLocation =>
    simp only [MouseService.step, MouseService.onMoveMouse, MouseService.passedOn]
    split
    · rw [actionOf_eq]
    · simp
  | processNext now nowTime =>
    simp only [MouseService.step, MouseService.processNext, MouseService.passedOn]
    obtain ⟨processed, timers⟩ := s.timers.processNext nowTime
    cases processed with
    | fired owner =>
      cases owner with
      | axis => simp only [MouseService.handOn, actionOf_eq]
      | other => simp
    | _ => simp
  | _ => simp [MouseService.step, MouseService.passedOn]

/-! ## Reports and their normalisation -/

/-- `Normalize` returns `RET_OK`. Whether a motion succeeds comes with the
report. -/
def normalizes (motionSucceeds : Bool) : LibinputPointer → Bool
  | .motion => motionSucceeds
  | .button button state => libinputChangeToPointer button ≠ buttonNone && state ≠ .unknown
  | .axis _ _ => true

/-- The event of a press or release report of a button there is. -/
def click : LibinputPointer → Option ButtonEvent
  | .button button state =>
      if libinputChangeToPointer button = buttonNone then none
      else
        match state with
        | .pressed => some ⟨pointerActionButtonDown, libinputChangeToPointer button⟩
        | .released => some ⟨pointerActionButtonUp, libinputChangeToPointer button⟩
        | .unknown => none
  | _ => none

structure StreamInput where
  input : MouseInput
  motionSucceeds : Bool

/-- The input is a report whose normalisation fails. -/
def StreamInput.fails (i : StreamInput) : Bool :=
  match i.input with
  | .report _ _ report => !normalizes i.motionSucceeds report.pointer
  | _ => false

/-- A press or release report, and if the window manager turns its event into
a cancel. -/
structure Click where
  event : ButtonEvent
  cancelled : Bool
  deriving DecidableEq, Repr

def Click.answer (c : Click) : ButtonEvent :=
  if c.cancelled then { c.event with pointerAction := pointerActionCancel } else c.event

structure ButtonStream where
  service : MouseService
  clicks : List Click
  /-- what was passed on for the clicks -/
  answers : List ButtonEvent
  /-- what was passed on, but for the reports whose normalisation fails -/
  passed : List ButtonEvent
  /-- what was passed on for those -/
  failed : List ButtonEvent

namespace ButtonStream

def create (now : Int64) (lastWindowInfo mouseDownInfo : WindowInfo) : ButtonStream where
  service := .create now lastWindowInfo mouseDownInfo
  clicks := []
  answers := []
  passed := []
  failed := []

/-- The click of an input. -/
def clickOf (s : MouseService) : MouseInput → Option Click
  | .report now nowTime report =>
      (click report.pointer).map fun event =>
        ⟨event, decide (Cancelled s.pointers (.mouse now (s.mouseReport nowTime report)))⟩
  | _ => none

def step (w : ButtonStream) (i : StreamInput) : ButtonStream where
  service := w.service.step i.input
  clicks := w.clicks ++ (clickOf w.service i.input).toList
  answers :=
    w.answers ++ if (clickOf w.service i.input).isSome then w.service.passedOn i.input else []
  passed := w.passed ++ if i.fails then [] else w.service.passedOn i.input
  failed := w.failed ++ if i.fails then w.service.passedOn i.input else []

end ButtonStream

/-- The presses and releases passed on are the press and release reports, and
a report whose normalisation fails passes on nothing. -/
structure Faithful (w : ButtonStream) : Prop where
  clicks : w.passed.filter ButtonEvent.isButton = w.clicks.map Click.event
  failed : w.failed = []

/-- One event comes of each click, with its button: the press or the release
itself, or a cancel in its place. No other report, motion or timer passes on a
press or a release. -/
structure AnswersClicks (w : ButtonStream) : Prop where
  answers : w.answers = w.clicks.map Click.answer
  clicks : w.passed.filter ButtonEvent.isButton
    = (w.clicks.filter fun c => !c.cancelled).map Click.event

/-! ## The target of an event -/

@[simp] theorem updatePointerItem_button (event : PointerEvent) (pointerId : Int32)
    (item : PointerItem) :
    (event.updatePointerItem pointerId item).buttonId = event.buttonId := by
  obtain ⟨pointers, hlength, heq⟩ := event.updatePointerItem_eq pointerId item
  rw [heq]

theorem setButtonPressed_button (event : PointerEvent) (buttonId : Int32) :
    (event.setButtonPressed buttonId).buttonId = event.buttonId := by
  unfold PointerEvent.setButtonPressed
  split <;> rfl

theorem updateMouseTarget_button (env : Env) (s : InputWindowsManager) (ref : EventRef)
    (event : PointerEvent) :
    (s.updateMouseTarget env ref event).2.1.buttonId = event.buttonId := by
  unfold updateMouseTarget
  split
  · rfl
  · dsimp only
    split
    · rfl
    · split
      · rfl
      · rename_i touchWindow found htarget
        have heq : found = (event.setTargetDisplayId _).setPointerAction found.pointerAction :=
          mouseTarget_event htarget
        have hfound : found.buttonId = event.buttonId := by
          rw [heq]
          rfl
        split
        · simp only [applyMouseTarget, updatePointerItem_button]
          exact hfound
        · exact hfound

/-- The event of the mouse as it is when its target has been looked for. -/
theorem target_button {p : PointerService} {h : Handled} (href : h.ref = .mouse)
    (hmouse : h.manager.mouseEvent = h.event) (hsource : h.event.sourceType = sourceTypeMouse) :
    PointerEvent.button (p.target h).2.1
      = ⟨h.manager.leftAction h.event, h.event.buttonId⟩ := by
  have hnotTouch : ¬ h.event.sourceType = sourceTypeTouchscreen := by
    rw [hsource]
    decide
  have htarget : MouseRetargeted h.manager (p.target h).2.2 h.event (p.target h).2.1 := by
    rw [PointerService.target, href]
    exact updateTargetPointer_mouse _ hmouse hsource
  have hbutton : (p.target h).2.1.buttonId = h.event.buttonId := by
    rw [PointerService.target, updateTargetPointer, if_neg hnotTouch, if_pos hsource]
    exact updateMouseTarget_button ..
  rw [PointerEvent.button, htarget.pointerAction, hbutton]

/-! ## One input -/

/-- A report passes on one event, with the button of the event and its action
or a cancel. -/
theorem passedOn_report (s : MouseService) (now : Moment) (nowTime : Int)
    (report : PointerReport) :
    s.passedOn (.report now nowTime report) =
      [⟨if Cancelled s.pointers (.mouse now (s.mouseReport nowTime report)) then
          pointerActionCancel
        else (s.normalize nowTime report.pointer).1.pointerAction,
        (s.normalize nowTime report.pointer).1.buttonId⟩] := by
  let mouse := s.mouseReport nowTime report
  let r := handlePostInner now.time s.pointers.windowsManager mouse
  have hhandled : s.pointers.handled (.mouse now mouse)
      = some ⟨now, r.2.write .mouse r.1, .mouse, r.1⟩ := rfl
  have haction : r.1.pointerAction = (s.normalize nowTime report.pointer).1.pointerAction :=
    updatePointerItem_action ..
  have hbutton : r.1.buttonId = (s.normalize nowTime report.pointer).1.buttonId :=
    updatePointerItem_button ..
  have hcancelled := cancelled_iff hhandled
  rw [MouseService.passedOn, hhandled, MouseService.buttonOf, target_button rfl rfl rfl]
  by_cases hcancel : Cancelled s.pointers (.mouse now mouse)
  · rw [if_pos hcancel, hcancelled.mp hcancel, hbutton]
  · rw [if_neg hcancel, (leftAction_cases _ _).resolve_right (mt hcancelled.mpr hcancel), haction,
      hbutton]

theorem isButton_cancel (buttonId : Int32) :
    (ButtonEvent.mk pointerActionCancel buttonId).isButton = false := rfl

/-- What `Normalize` makes of a click. -/
theorem normalize_click (s : MouseService) (nowTime : Int) {pointer : LibinputPointer}
    {event : ButtonEvent} (h : click pointer = some event) :
    (s.normalize nowTime pointer).1.pointerAction = event.pointerAction ∧
      (s.normalize nowTime pointer).1.buttonId = event.buttonId ∧ event.isButton = true := by
  cases pointer with
  | motion => cases h
  | axis vertical horizontal => cases h
  | button button state =>
    simp only [click] at h
    split at h
    · cases h
    · rename_i hbutton
      simp only [MouseService.normalize, MouseService.handleButtonInner, if_neg hbutton]
      cases state with
      | pressed =>
        obtain rfl := Option.some.inj h
        exact ⟨(setButtonPressed_rest ..).2.2, setButtonPressed_button .., rfl⟩
      | released =>
        obtain rfl := Option.some.inj h
        exact ⟨rfl, rfl, rfl⟩
      | unknown => cases h

theorem normalizes_of_click {motionSucceeds : Bool} {pointer : LibinputPointer}
    {event : ButtonEvent} (h : click pointer = some event) :
    normalizes motionSucceeds pointer = true := by
  cases pointer with
  | button button state =>
    simp only [click] at h
    split at h
    · cases h
    · rename_i hbutton
      cases state with
      | unknown => cases h
      | _ => simp [normalizes, hbutton]
  | _ => cases h

/-- What it makes of a report that succeeds and is no click. -/
theorem normalize_other (s : MouseService) (nowTime : Int) {motionSucceeds : Bool}
    {pointer : LibinputPointer} (h : click pointer = none)
    (hsucceeds : normalizes motionSucceeds pointer = true) :
    ∀ buttonId, (ButtonEvent.mk (s.normalize nowTime pointer).1.pointerAction
      buttonId).isButton = false := by
  intro buttonId
  cases pointer with
  | motion => rfl
  | axis vertical horizontal =>
    have haxis : (s.axisTimer nowTime).1 = pointerActionAxisUpdate ∨
        (s.axisTimer nowTime).1 = pointerActionAxisBegin := by
      unfold MouseService.axisTimer
      split
      · exact Or.inl rfl
      · exact Or.inr rfl
    simp only [MouseService.normalize, MouseService.handleAxisInner, (setAxis_rest ..).2.2]
    show (ButtonEvent.mk (s.axisTimer nowTime).1 buttonId).isButton = false
    obtain h | h := haxis <;> rw [h] <;> rfl
  | button button state =>
    simp only [normalizes, Bool.and_eq_true, decide_eq_true_eq] at hsucceeds
    simp only [click, if_neg hsucceeds.1] at h
    cases state with
    | pressed => cases h
    | released => cases h
    | unknown => exact (hsucceeds.2 rfl).elim

theorem applyMouseTarget_action (env : Env) (s : InputWindowsManager) (ref : EventRef)
    (event : PointerEvent) (place : PointerPlace) (touchWindow : WindowInfo) :
    (s.applyMouseTarget env ref event place touchWindow).1.pointerAction = event.pointerAction := by
  simp only [applyMouseTarget, updatePointerItem_action]
  rfl

/-- No event gets another action than a cancel. -/
theorem updateTargetPointer_action (env : Env) (s : InputWindowsManager) (ref : EventRef)
    (event : PointerEvent) :
    (s.updateTargetPointer env ref event).2.1.pointerAction = event.pointerAction ∨
      (s.updateTargetPointer env ref event).2.1.pointerAction = pointerActionCancel := by
  unfold updateTargetPointer
  split
  · unfold updateTouchScreenTarget
    split
    · exact Or.inl rfl
    · dsimp only
      split
      · exact Or.inl rfl
      · split
        · exact Or.inl rfl
        · rename_i touchWindow found htarget
          rw [updatePointerItem_action]
          unfold touchTarget at htarget
          split at htarget
          · cases htarget
            exact Or.inl rfl
          · split at htarget
            · cases htarget
            · split at htarget
              · cases htarget
              · cases htarget
                exact Or.inr rfl
  split
  · unfold updateMouseTarget
    split
    · exact Or.inl rfl
    · dsimp only
      split
      · exact Or.inl rfl
      · split
        · exact Or.inl rfl
        · rename_i touchWindow found htarget
          have hfound : found.pointerAction = event.pointerAction ∨
              found.pointerAction = pointerActionCancel := by
            unfold mouseTarget at htarget
            split at htarget
            · cases htarget
              exact Or.inl rfl
            · split at htarget
              · cases htarget
              · cases htarget
                exact Or.inr rfl
          split
          · rw [applyMouseTarget_action]
            exact hfound
          · exact hfound
  split
  · exact Or.inl rfl
  split
  · unfold updateJoystickTarget
    split <;> exact Or.inl rfl
  · exact Or.inl rfl

/-- An event that is no press or release stays none. -/
theorem buttonOf_other {p : PointerService} {h : Handled}
    (hno : ∀ buttonId, (ButtonEvent.mk h.event.pointerAction buttonId).isButton = false) :
    (MouseService.buttonOf p (some h)).filter ButtonEvent.isButton = [] := by
  have hnot : (PointerEvent.button (p.target h).2.1).isButton = false := by
    unfold PointerEvent.button PointerService.target
    obtain hsame | hcancel := updateTargetPointer_action (p.env h.now) h.manager h.ref h.event
    · rw [hsame]
      exact hno _
    · rw [hcancel]
      exact isButton_cancel _
  simp [MouseService.buttonOf, hnot]

/-- A motion of the mouse, or the end of a scroll. -/
theorem buttonOf_pointerEvent {p : PointerService} {now : Moment} {manager : InputWindowsManager}
    {event : PointerEvent}
    (hno : ∀ buttonId, (ButtonEvent.mk event.pointerAction buttonId).isButton = false) :
    (MouseService.buttonOf p (PointerService.handledPointerEvent now manager .mouse
      event)).filter ButtonEvent.isButton = [] := by
  unfold PointerService.handledPointerEvent
  split
  · rfl
  · exact buttonOf_other hno

/-- An input that is not a report passes on no press and no release. -/
theorem passedOn_noReport (s : MouseService) {i : MouseInput}
    (hi : ∀ now nowTime report, i ≠ .report now nowTime report) :
    (s.passedOn i).filter ButtonEvent.isButton = [] := by
  cases i with
  | report now nowTime report => exact (hi now nowTime report rfl).elim
  | moveMouse now mouseLocation =>
    simp only [MouseService.passedOn]
    split
    · refine buttonOf_pointerEvent fun buttonId => ?_
      have hmove : (s.normalizeMoveMouse now mouseLocation).1.pointerAction
          = pointerActionMove := updatePointerItem_action ..
      rw [hmove]
      rfl
    · rfl
  | processNext now nowTime =>
    simp only [MouseService.passedOn]
    split
    · exact buttonOf_pointerEvent fun _ => rfl
    · rfl
  | _ => rfl

/-! ## Runs -/

theorem answersClicks_step (w : ButtonStream) (i : StreamInput) (h : AnswersClicks w) :
    AnswersClicks (w.step i) := by
  obtain ⟨input, motionSucceeds⟩ := i
  have hnone : (∀ now nowTime report, input ≠ .report now nowTime report) →
      AnswersClicks (w.step ⟨input, motionSucceeds⟩) := by
    intro hi
    have hclick : ButtonStream.clickOf w.service input = none := by
      cases input with
      | report now nowTime report => exact (hi now nowTime report rfl).elim
      | _ => rfl
    have hfails : StreamInput.fails ⟨input, motionSucceeds⟩ = false := by
      cases input with
      | report now nowTime report => exact (hi now nowTime report rfl).elim
      | _ => rfl
    refine ⟨?_, ?_⟩
    · simp [ButtonStream.step, hclick, h.answers]
    · simp [ButtonStream.step, hclick, hfails, passedOn_noReport w.service hi, h.clicks]
  cases input with
  | report now nowTime report =>
    have hpassed := passedOn_report w.service now nowTime report
    cases hclick : click report.pointer with
    | some event =>
      obtain ⟨haction, hbutton, hevent⟩ := normalize_click w.service nowTime hclick
      have hfails : StreamInput.fails ⟨.report now nowTime report, motionSucceeds⟩ = false := by
        simp [StreamInput.fails, normalizes_of_click hclick]
      have hclickOf : ButtonStream.clickOf w.service (.report now nowTime report)
          = some ⟨event, decide (Cancelled w.service.pointers
            (.mouse now (w.service.mouseReport nowTime report)))⟩ := by
        simp [ButtonStream.clickOf, hclick]
      rw [haction, hbutton] at hpassed
      by_cases hcancel : Cancelled w.service.pointers
          (.mouse now (w.service.mouseReport nowTime report))
      · rw [if_pos hcancel] at hpassed
        refine ⟨?_, ?_⟩
        · simp [ButtonStream.step, hclickOf, hpassed, h.answers, Click.answer, hcancel]
        · simp [ButtonStream.step, hclickOf, hfails, hpassed, h.clicks, hcancel, isButton_cancel]
      · rw [if_neg hcancel] at hpassed
        refine ⟨?_, ?_⟩
        · simp [ButtonStream.step, hclickOf, hpassed, h.answers, Click.answer, hcancel]
        · simp [ButtonStream.step, hclickOf, hfails, hpassed, h.clicks, hcancel, hevent]
    | none =>
      have hclickOf : ButtonStream.clickOf w.service (.report now nowTime report) = none := by
        simp [ButtonStream.clickOf, hclick]
      refine ⟨?_, ?_⟩
      · simp [ButtonStream.step, hclickOf, h.answers]
      · cases hfails : StreamInput.fails ⟨.report now nowTime report, motionSucceeds⟩ with
        | true => simp [ButtonStream.step, hclickOf, hfails, h.clicks]
        | false =>
          have hno := normalize_other w.service nowTime hclick
            (by simpa [StreamInput.fails] using hfails)
          by_cases hcancel : Cancelled w.service.pointers
              (.mouse now (w.service.mouseReport nowTime report))
          · rw [if_pos hcancel] at hpassed
            simp [ButtonStream.step, hclickOf, hfails, hpassed, h.clicks, isButton_cancel]
          · rw [if_neg hcancel] at hpassed
            simp [ButtonStream.step, hclickOf, hfails, hpassed, h.clicks, hno]
  | _ => exact hnone (by simp)

/-- In every run of reports, motions, scroll timers, other events and layouts,
one event comes of each press or release report of a button there is, in their
order and with the same button: the press or the release, or a cancel where
the window manager has one sent. -/
theorem answersClicks (now : Int64) (lastWindowInfo mouseDownInfo : WindowInfo)
    (is : List StreamInput) :
    Always ButtonStream.step AnswersClicks (.create now lastWindowInfo mouseDownInfo) is :=
  always_of_step answersClicks_step is _ ⟨rfl, rfl⟩

/-! ## A window that goes while a button is down -/

def leftButton (state : ButtonState) : PointerReport :=
  ⟨.button 272 state, ⟨10, 10⟩, 0, 1, []⟩

/-- The left button goes down on the left window, the right window is there in
its place, and the button comes up. -/
def windowGoes : List StreamInput :=
  [⟨.others ⟨.updateDisplayInfo quietMoment (oneDisplay [leftOrRight 1 10 0]), trivial⟩, true⟩,
    ⟨.report quietMoment 0 (leftButton .pressed), true⟩,
    ⟨.others ⟨.updateDisplayInfo quietMoment (oneDisplay [leftOrRight 2 11 50]), trivial⟩, true⟩,
    ⟨.report quietMoment 20 (leftButton .released), true⟩]

theorem counterexample_faithful :
    ¬ Always ButtonStream.step Faithful (.create 0 (leftOrRight 0 0 0) (leftOrRight 0 0 0))
      windowGoes := by
  intro h
  exact absurd h.last.clicks (by decide +kernel)

end FtMmi.MouseEventNormalize
