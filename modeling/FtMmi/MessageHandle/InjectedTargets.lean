/-
FtMmi.MessageHandle.InjectedTargets — whether a pointer that is injected
stays with the window it went down on.

The handler has one saved id for all pointers, the window of the latest
down, and it writes it into the item of the event's first pointer only. A
pointer that comes first gets the window of whoever went down last; one
that does not is looked for where it is now. `injectedTargets_iff` says in
which runs both come out as the window of its own down.
-/
import FtMmi.Lib.StepSystem
import FtMmi.MessageHandle.ServerMsgHandler

namespace FtMmi.MessageHandle

open FtMmi.Event
open FtMmi.EventDispatch
open FtMmi.Lib
open FtMmi.TouchEventNormalize
open FtMmi.WindowManager

/-! ## Runs -/

/-- The handler, and the window each pointer's latest down selected. -/
structure Injector where
  handler : ServerMsgHandler
  downWindow : Int32 → Option Int32

/-- An injected event. -/
structure Injected where
  now : Moment
  event : PointerEvent

namespace Injected

def isTouch (i : Injected) : Prop := i.event.sourceType = sourceTypeTouchscreen

instance (i : Injected) : Decidable i.isTouch :=
  inferInstanceAs (Decidable (_ = _))

end Injected

namespace Injector

def create (service : PointerService) : Injector := ⟨.create service, fun _ => none⟩

def layout (s : Injector) : DisplayGroupInfo := s.handler.manager.displayGroupInfo

/-- The window an event is for, of those of the layout. -/
def selected (s : Injector) (i : Injected) : Option WindowInfo :=
  s.handler.manager.selectedWindow i.event

def step (s : Injector) (i : Injected) : Injector where
  handler := s.handler.onInjectPointerEvent i.now i.event
  downWindow :=
    if i.isTouch ∧ i.event.pointerAction = pointerActionDown then
      Function.update s.downWindow i.event.pointerId ((s.selected i).map WindowInfo.id)
    else if i.isTouch ∧ i.event.pointerAction = pointerActionUp then
      Function.update s.downWindow i.event.pointerId none
    else s.downWindow

end Injector

/-! ## The property -/

/-- A down is on a window. -/
def ValidDown (s : Injector) (i : Injected) : Prop :=
  i.isTouch → i.event.pointerAction = pointerActionDown →
    ∃ window, s.selected i = some window ∧ 0 ≤ window.id

/-- A move or an up of a pointer that went down on the window `w`. -/
def Continues (s : Injector) (i : Injected) (w : Int32) : Prop :=
  i.isTouch ∧ (i.event.pointerAction = pointerActionMove ∨ i.event.pointerAction = pointerActionUp) ∧
    s.downWindow i.event.pointerId = some w

/-- It is dispatched with that window as its target. -/
def CarriesDown (s : Injector) (i : Injected) : Prop :=
  ∀ w, Continues s i w → ∀ event, s.handler.dispatched i.now i.event = some event →
    event.targetWindowId = w

/-- The window of a pointer by its item: the one the item names, or else the
one below it; where there is none, the one kept for it from a down. -/
def itemWindow (s : Injector) (i : Injected) (place : InputWindowsManager.PointerPlace) : Int32 :=
  match s.layout.findTouchWindow place.item.targetWindowId place.logicalX place.logicalY with
  | some window => window.id
  | none =>
      match s.handler.manager.touchItemDownInfos i.event.pointerId with
      | some record => record.id
      | none => s.handler.targetWindowId

/-- The saved window is the pointer's own, if the pointer comes first in the
event or has no place on a display; otherwise the window by its item is. -/
def OwnWindow (s : Injector) (i : Injected) : Prop :=
  i.event.pointers ≠ [] → ∀ w, Continues s i w →
    match s.handler.manager.placed i.event with
    | none => s.handler.targetWindowId = w
    | some place =>
        if i.event.getPointerIds.head? = some i.event.pointerId then s.handler.targetWindowId = w
        else itemWindow s i place = w

/-! ## The invariant -/

/-- When a pointer has gone down, the saved window is one of the layout that
takes touches. -/
def Saved (s : Injector) : Prop :=
  ∀ pointerId w, s.downWindow pointerId = some w →
    0 ≤ s.handler.targetWindowId ∧
      ∃ window ∈ s.layout.windowsInfo, window.untouchable = false ∧
        window.id = s.handler.targetWindowId

theorem saved_create (service : PointerService) : Saved (.create service) := by
  simp [Saved, Injector.create]

/-! ### The layout -/

theorem handlePointerEventInner_layout (now : Moment) (s : PointerService) (point : PointerEvent) :
    (s.handlePointerEventInner now point).windowsManager.displayGroupInfo
      = s.windowsManager.displayGroupInfo := by
  rw [(PointerService.handlePointerEventInner_rest now s point).2]
  exact (getClientFd_records (s.env now) s.windowsManager point).1

theorem targetAndDispatch_layout (now : Moment) (s : PointerService) (event : PointerEvent) :
    (s.targetAndDispatch now .other event).windowsManager.displayGroupInfo
      = s.windowsManager.displayGroupInfo := by
  unfold PointerService.targetAndDispatch
  rw [handlePointerEventInner_layout]
  by_cases hsource : event.sourceType = sourceTypeTouchscreen
  · exact (touch_target (s.env now) hsource).1
  · exact (InputWindowsManager.updateTargetPointer_other (s.env now) .other hsource).1.displayGroupInfo

theorem service_layout (now : Moment) (s : PointerService) (event : PointerEvent) :
    (s.onInjectPointerEvent now event).windowsManager.displayGroupInfo
      = s.windowsManager.displayGroupInfo := by
  unfold PointerService.onInjectPointerEvent
  dsimp only
  split
  · exact targetAndDispatch_layout ..
  · split
    · unfold PointerService.handlePointerEvent
      split
      · rfl
      · exact targetAndDispatch_layout ..
    · rfl

/-- Injected events do not change the layout. -/
theorem layout_step (s : Injector) (i : Injected) : (s.step i).layout = s.layout := by
  unfold Injector.step Injector.layout ServerMsgHandler.onInjectPointerEvent
  dsimp only
  split
  · split
    · rfl
    · exact service_layout ..
  · exact service_layout ..

/-! ### The search -/

/-- A window of the layout that takes touches is found by its id. -/
theorem findTouchWindow_of_mem {group : DisplayGroupInfo} {id : Int32} (hid : 0 ≤ id)
    (hmem : ∃ window ∈ group.windowsInfo, window.untouchable = false ∧ window.id = id)
    (logicalX logicalY : Int32) :
    ∃ window, group.findTouchWindow id logicalX logicalY = some window ∧ window.id = id := by
  obtain ⟨window, hwindow, htouchable, heq⟩ := hmem
  cases hfound : group.findTouchWindow id logicalX logicalY with
  | none =>
    have hnot := List.find?_eq_none.mp hfound window hwindow
    simp [htouchable, hid, heq] at hnot
  | some found => exact ⟨found, rfl, DisplayGroupInfo.findTouchWindow_id hid hfound⟩

/-- The window a move or an up gets: the one its item names, or else the one
below it, or else the one kept for it. -/
theorem findTouchTarget_id (s : InputWindowsManager) {event : PointerEvent}
    (haction : event.pointerAction ≠ pointerActionDown) (left : Int32) :
    ((s.findTouchTarget event).map fun t => t.touchWindow.id).getD left
      = match s.placed event with
        | none => left
        | some place =>
            match s.displayGroupInfo.findTouchWindow place.item.targetWindowId place.logicalX
              place.logicalY with
            | some window => window.id
            | none =>
                match s.touchItemDownInfos event.pointerId with
                | some record => record.id
                | none => left := by
  cases hplaced : s.placed event with
  | none => simp [InputWindowsManager.findTouchTarget_of_not_placed hplaced]
  | some place =>
    obtain ⟨_, displayId, htarget⟩ := InputWindowsManager.findTouchTarget_of_placed hplaced
    have hdown : ¬ (event.setTargetDisplayId displayId).pointerAction = pointerActionDown := haction
    have hid : (event.setTargetDisplayId displayId).pointerId = event.pointerId := rfl
    simp only [htarget, InputWindowsManager.touchTarget, hid]
    cases s.displayGroupInfo.findTouchWindow place.item.targetWindowId place.logicalX
        place.logicalY with
    | some window => rfl
    | none =>
      cases s.touchItemDownInfos event.pointerId with
      | none => rfl
      | some record => simp [hdown]

/-- An item that changes in its window only is where it was. -/
theorem placed_of_item (s : InputWindowsManager) {event event' : PointerEvent}
    (f : PointerItem → PointerItem) (hdisplay : event'.targetDisplayId = event.targetDisplayId)
    (hid : event'.pointerId = event.pointerId)
    (hitem : event'.getPointerItem event.pointerId = (event.getPointerItem event.pointerId).map f)
    (hf : ∀ item, (f item).displayX = item.displayX ∧ (f item).displayY = item.displayY) :
    s.placed event' = (s.placed event).map fun place => { place with item := f place.item } := by
  unfold InputWindowsManager.placed
  rw [hdisplay]
  cases s.displayGroupInfo.updateDisplayId event.targetDisplayId with
  | none => rfl
  | some displayId =>
    have hitem' : (event'.setTargetDisplayId displayId).getPointerItem
        (event'.setTargetDisplayId displayId).pointerId
          = (event.getPointerItem event.pointerId).map f := by
      rw [← hitem, ← hid]
      rfl
    have hsame : (event.setTargetDisplayId displayId).getPointerItem
        (event.setTargetDisplayId displayId).pointerId = event.getPointerItem event.pointerId := rfl
    have htarget : (event'.setTargetDisplayId displayId).targetDisplayId
        = (event.setTargetDisplayId displayId).targetDisplayId := rfl
    simp only [InputWindowsManager.locatePointer, hitem', hsame, htarget]
    cases event.getPointerItem event.pointerId with
    | none => rfl
    | some item =>
      obtain ⟨hx, hy⟩ := hf item
      simp only [Option.map_some, hx, hy]
      cases s.displayGroupInfo.getPhysicalDisplay
          (event.setTargetDisplayId displayId).targetDisplayId with
      | none => rfl
      | some displayInfo =>
        dsimp only
        cases addInt32 (adjustDisplayCoordinate displayInfo item.displayX item.displayY).1
            displayInfo.x with
        | none => rfl
        | some logicalX =>
          dsimp only
          cases addInt32 (adjustDisplayCoordinate displayInfo item.displayX item.displayY).2
              displayInfo.y with
          | none => rfl
          | some logicalY => rfl

/-- The id of an event makes no difference. -/
theorem findTouchTarget_setId (s : InputWindowsManager) (event : PointerEvent) (id : Int32) :
    (s.updateId.findTouchTarget (event.setId id)).map InputWindowsManager.TouchTarget.touchWindow
      = (s.findTouchTarget event).map InputWindowsManager.TouchTarget.touchWindow := by
  have hlayout : s.updateId.displayGroupInfo = s.displayGroupInfo := rfl
  have hdisplay : (event.setId id).targetDisplayId = event.targetDisplayId := rfl
  have hplace : ∀ displayId, InputWindowsManager.locatePointer s.displayGroupInfo
      adjustDisplayCoordinate ((event.setId id).setTargetDisplayId displayId)
        = InputWindowsManager.locatePointer s.displayGroupInfo adjustDisplayCoordinate
            (event.setTargetDisplayId displayId) := fun _ => rfl
  simp only [InputWindowsManager.findTouchTarget, hlayout, hdisplay, hplace]
  cases s.displayGroupInfo.updateDisplayId event.targetDisplayId with
  | none => rfl
  | some displayId =>
    dsimp only
    cases InputWindowsManager.locatePointer s.displayGroupInfo adjustDisplayCoordinate
        (event.setTargetDisplayId displayId) with
    | error ret => rfl
    | ok place =>
      simp only [InputWindowsManager.touchTarget, hlayout]
      cases s.displayGroupInfo.findTouchWindow place.item.targetWindowId place.logicalX
          place.logicalY with
      | some window => rfl
      | none =>
        have hrecord : s.updateId.touchItemDownInfos
            ((event.setId id).setTargetDisplayId displayId).pointerId
              = s.touchItemDownInfos (event.setTargetDisplayId displayId).pointerId := rfl
        have haction : ((event.setId id).setTargetDisplayId displayId).pointerAction
            = (event.setTargetDisplayId displayId).pointerAction := rfl
        simp only [hrecord, haction]
        cases s.touchItemDownInfos (event.setTargetDisplayId displayId).pointerId with
        | none => rfl
        | some record =>
          dsimp only
          split <;> rfl

/-- What `HandleTouchEvent` makes the target of an event. -/
theorem handleTouchEvent_targetWindowId (now : Moment) (s : ServerMsgHandler)
    {event : PointerEvent} (hsource : event.sourceType = sourceTypeTouchscreen) :
    (s.handleTouchEvent now event).targetWindowId
      = ((s.manager.findTouchTarget event).map fun t => t.touchWindow.id).getD
          event.targetWindowId := by
  have hset : (event.setId s.manager.nextEventId).sourceType = sourceTypeTouchscreen := hsource
  have htarget := (touch_target (s := s.manager.updateId) (s.service.env now) hset).2.1
  have hsame := congrArg (Option.map WindowInfo.id)
    (findTouchTarget_setId s.manager event s.manager.nextEventId)
  simp only [Option.map_map] at hsame
  rw [ServerMsgHandler.handleTouchEvent, htarget]
  exact congrArg (fun o => Option.getD o event.targetWindowId) hsame

/-! ## One step -/

/-- A down saves the window it is for. -/
theorem step_targetWindowId_down {s : Injector} {i : Injected} (htouch : i.isTouch)
    (hdown : i.event.pointerAction = pointerActionDown) :
    (s.step i).handler.targetWindowId
      = (s.handler.handleTouchEvent i.now i.event).targetWindowId := by
  have hfix : fixTargetWindowId s.handler.targetWindowId i.event pointerActionDown
      = some i.event := by
    simp [fixTargetWindowId]
  have hsource : i.event.sourceType = sourceTypeTouchscreen := htouch
  simp only [Injector.step, ServerMsgHandler.onInjectPointerEvent, hsource, hdown, hfix, if_true]

/-- Nothing else does. -/
theorem step_targetWindowId_other {s : Injector} {i : Injected}
    (h : ¬ (i.isTouch ∧ i.event.pointerAction = pointerActionDown)) :
    (s.step i).handler.targetWindowId = s.handler.targetWindowId := by
  simp only [Injector.step, ServerMsgHandler.onInjectPointerEvent]
  split
  · rename_i hsource
    have hdown : ¬ i.event.pointerAction = pointerActionDown := fun hdown => h ⟨hsource, hdown⟩
    split
    · rfl
    · simp [hdown]
  · rfl

/-- A window kept for a pointer after an event that is no down was kept before. -/
theorem downWindow_other {s : Injector} {i : Injected}
    (h : ¬ (i.isTouch ∧ i.event.pointerAction = pointerActionDown)) {pointerId w : Int32}
    (hw : (s.step i).downWindow pointerId = some w) : s.downWindow pointerId = some w := by
  simp only [Injector.step, if_neg h] at hw
  split at hw
  · by_cases hid : pointerId = i.event.pointerId
    · simp [hid] at hw
    · simpa [hid] using hw
  · exact hw

theorem saved_step (s : Injector) (i : Injected) (hs : Saved s) (hvalid : ValidDown s i) :
    Saved (s.step i) := by
  intro pointerId w hw
  rw [layout_step]
  by_cases hdown : i.isTouch ∧ i.event.pointerAction = pointerActionDown
  · obtain ⟨htouch, hdown⟩ := hdown
    obtain ⟨window, hselected, hid⟩ := hvalid htouch hdown
    obtain ⟨target, htarget, rfl⟩ := Option.map_eq_some_iff.mp
      ((selectedWindow_touch htouch).symm.trans hselected)
    have hsaved : (s.step i).handler.targetWindowId = target.touchWindow.id := by
      rw [step_targetWindowId_down htouch hdown, handleTouchEvent_targetWindowId i.now _ htouch,
        htarget]
      rfl
    rw [hsaved]
    refine ⟨hid, target.touchWindow, ?_⟩
    obtain ⟨_, _, ⟨_, hfound⟩ | ⟨_, _, _, hnot⟩⟩ :=
      InputWindowsManager.findTouchTarget_cases htarget
    · obtain ⟨hmem, htouchable⟩ := DisplayGroupInfo.findTouchWindow_mem hfound
      exact ⟨hmem, htouchable, rfl⟩
    · exact absurd hdown hnot
  · rw [step_targetWindowId_other hdown]
    exact hs pointerId w (downWindow_other hdown hw)

/-- The place of a fixed event: its pointer's item is on the saved window, if
it is the first. -/
theorem placed_fixed (s : InputWindowsManager) {event fixed : PointerEvent} {first : PointerItem}
    {rest : List PointerItem} {targetWindowId : Int32} (hpointers : event.pointers = first :: rest)
    {h : (({ first with targetWindowId } : PointerItem) :: rest).length ≤ maxNPointerItems}
    (hfixed : fixed = { event.setTargetWindowId targetWindowId with
      pointers := { first with targetWindowId } :: rest, pointers_length := h }) :
    s.placed fixed = (s.placed event).map fun place =>
      if first.pointerId = event.pointerId then
        { place with item := { place.item with targetWindowId } }
      else place := by
  have hitem : fixed.getPointerItem event.pointerId
      = (event.getPointerItem event.pointerId).map fun item =>
          if first.pointerId = event.pointerId then { item with targetWindowId } else item := by
    by_cases hid : first.pointerId = event.pointerId
    · simp [hfixed, PointerEvent.getPointerItem, hpointers, hid]
    · simp [hfixed, PointerEvent.getPointerItem, hpointers, hid]
  have hdisplay : fixed.targetDisplayId = event.targetDisplayId := by
    rw [hfixed]
    rfl
  have hpointerId : fixed.pointerId = event.pointerId := by
    rw [hfixed]
    rfl
  rw [placed_of_item s _ hdisplay hpointerId hitem fun item => by split <;> exact ⟨rfl, rfl⟩]
  congr 1
  funext place
  split <;> rfl

/-- The target with which a move or an up is dispatched. -/
theorem dispatched_target {s : Injector} {i : Injected} {w : Int32} {first : PointerItem}
    {rest : List PointerItem} (hs : Saved s) (hcontinues : Continues s i w)
    (hpointers : i.event.pointers = first :: rest) :
    ∃ event, s.handler.dispatched i.now i.event = some event ∧
      event.targetWindowId = match s.handler.manager.placed i.event with
        | none => s.handler.targetWindowId
        | some place =>
            if i.event.getPointerIds.head? = some i.event.pointerId then s.handler.targetWindowId
            else itemWindow s i place := by
  obtain ⟨htouch, haction, hw⟩ := hcontinues
  obtain ⟨hsaved, hmem⟩ := hs _ w hw
  have hdown : i.event.pointerAction ≠ pointerActionDown := by
    rcases haction with h | h <;> rw [h] <;> decide
  have hfix := fixTargetWindowId_eq hsaved hdown
  rw [hpointers] at hfix
  obtain ⟨hlength, hfix⟩ := hfix
  obtain ⟨fixed, hfixed⟩ : ∃ fixed : PointerEvent, fixed
      = { i.event.setTargetWindowId s.handler.targetWindowId with
          pointers := { first with targetWindowId := s.handler.targetWindowId } :: rest,
          pointers_length := hlength } := ⟨_, rfl⟩
  rw [← hfixed] at hfix
  have hplaced := placed_fixed s.handler.manager hpointers hfixed
  have hsource : fixed.sourceType = sourceTypeTouchscreen := by
    rw [hfixed]
    exact htouch
  have hnotDown : fixed.pointerAction ≠ pointerActionDown := by
    rw [hfixed]
    exact hdown
  have htarget : fixed.targetWindowId = s.handler.targetWindowId := by
    rw [hfixed]
    rfl
  have hpointerId : fixed.pointerId = i.event.pointerId := by
    rw [hfixed]
    rfl
  have hhead : i.event.getPointerIds.head? = some first.pointerId := by
    simp [PointerEvent.getPointerIds, hpointers]
  refine ⟨s.handler.handleTouchEvent i.now fixed, ?_, ?_⟩
  · rw [ServerMsgHandler.dispatched, hfix]
    rfl
  · rw [handleTouchEvent_targetWindowId i.now _ hsource, htarget, findTouchTarget_id _ hnotDown,
      hplaced, hhead, hpointerId]
    cases s.handler.manager.placed i.event with
    | none => rfl
    | some place =>
      by_cases hfirst : first.pointerId = i.event.pointerId
      · -- the item names the saved window, which is in the layout
        obtain ⟨window, hfound, hid⟩ :=
          findTouchWindow_of_mem hsaved hmem place.logicalX place.logicalY
        have hfound' : s.handler.manager.displayGroupInfo.findTouchWindow s.handler.targetWindowId
            place.logicalX place.logicalY = some window := hfound
        simp only [Option.map_some, hfirst, if_true, hfound', hid]
      · simp only [Option.map_some, Option.some.injEq, hfirst, if_false]
        rfl

theorem carriesDown_iff {s : Injector} {i : Injected} (hs : Saved s) :
    CarriesDown s i ↔ OwnWindow s i := by
  cases hpointers : i.event.pointers with
  | nil =>
    refine ⟨fun _ hne => absurd hpointers hne, fun _ w hcontinues event hevent => ?_⟩
    obtain ⟨_, haction, hw⟩ := hcontinues
    have hdown : i.event.pointerAction ≠ pointerActionDown := by
      rcases haction with h | h <;> rw [h] <;> decide
    have hfix := fixTargetWindowId_eq (hs _ w hw).1 hdown
    rw [hpointers] at hfix
    simp [ServerMsgHandler.dispatched, hfix] at hevent
  | cons first rest =>
    constructor
    · intro hcarries _ w hcontinues
      obtain ⟨event, hevent, htarget⟩ := dispatched_target hs hcontinues hpointers
      have hw := hcarries w hcontinues event hevent
      rw [htarget] at hw
      revert hw
      split
      · exact id
      · split <;> exact id
    · intro hown w hcontinues event hevent
      obtain ⟨event', hevent', htarget⟩ := dispatched_target hs hcontinues hpointers
      cases hevent.symm.trans hevent'
      have hw := hown (by simp [hpointers]) w hcontinues
      rw [htarget]
      revert hw
      split
      · exact id
      · split <;> exact id

/-! ## Every run -/

/-- In every run in which downs are on windows, every move and every up is
for the window of its pointer's down precisely if, each time, the saved
window or the pointer's item leads there. -/
theorem injectedTargets_iff (service : PointerService) (is : List Injected)
    (hvalid : AllSteps Injector.step ValidDown (.create service) is) :
    AllSteps Injector.step CarriesDown (.create service) is ↔
      AllSteps Injector.step OwnWindow (.create service) is := by
  have hiff : ∀ s i, Saved s → ValidDown s i → (CarriesDown s i ↔ OwnWindow s i) :=
    fun _ _ hs _ => carriesDown_iff hs
  have hkeep : ∀ s i, Saved s → ValidDown s i → OwnWindow s i → Saved (s.step i) :=
    fun s i hs hdown _ => saved_step s i hs hdown
  exact allSteps_iff_of_inv hiff hkeep is _ (saved_create service) hvalid

/-! ## Two fingers -/

/-- Window 1 on the left half of the display, window 2 on the right half. -/
def leftAndRight : PointerService :=
  let service := PointerService.create 0 (leftOrRight 0 0 0) (leftOrRight 0 0 0)
  { service with
    windowsManager := { service.windowsManager with
      displayGroupInfo := oneDisplay [leftOrRight 1 10 0, leftOrRight 2 11 50] } }

/-- An event of pointer 0 or 1 with both at the given places. -/
def bothAt (action pointerId x0 x1 : Int32) : Injected :=
  let event := ((PointerEvent.create 0).setSourceType sourceTypeTouchscreen).setPointerAction action
  let event := (event.setPointerId pointerId).addPointerItem { pointerId := 0, displayX := x0 }
  ⟨quietMoment, event.addPointerItem { pointerId := 1, displayX := x1 }⟩

/-- Both go down on the left window, and the first moves over to the right. -/
def bothOnLeft : List Injected :=
  [bothAt pointerActionDown 0 10 20, bothAt pointerActionDown 1 10 20,
    bothAt pointerActionMove 0 60 20]

theorem injectedTargets_iff_bothOnLeft :
    AllSteps Injector.step CarriesDown (.create leftAndRight) bothOnLeft ↔
      AllSteps Injector.step OwnWindow (.create leftAndRight) bothOnLeft := by
  refine injectedTargets_iff leftAndRight bothOnLeft ⟨?_, ?_, ?_, trivial⟩
  · exact fun _ _ => ⟨leftOrRight 1 10 0, by decide +kernel, by decide⟩
  · exact fun _ _ => ⟨leftOrRight 1 10 0, by decide +kernel, by decide⟩
  · intro _ haction
    exact absurd haction (by decide)

/-- The second goes down on the right window, and the first moves a little on
the left one. -/
def oneOnEach : List Injected :=
  [bothAt pointerActionDown 0 10 75, bothAt pointerActionDown 1 10 75,
    bothAt pointerActionMove 0 11 75]

/-- The move of the first is for the window of the second. -/
theorem counterexample_injectedTargets :
    AllSteps Injector.step ValidDown (.create leftAndRight) oneOnEach ∧
      ¬ AllSteps Injector.step CarriesDown (.create leftAndRight) oneOnEach := by
  constructor
  · refine ⟨?_, ?_, ?_, trivial⟩
    · exact fun _ _ => ⟨leftOrRight 1 10 0, by decide +kernel, by decide⟩
    · exact fun _ _ => ⟨leftOrRight 2 11 50, by decide +kernel, by decide⟩
    · intro _ haction
      exact absurd haction (by decide)
  · rintro ⟨_, _, hmove, _⟩
    have hdispatched : (((runFrom Injector.step (.create leftAndRight) (oneOnEach.take 2)).handler.dispatched
        quietMoment (bothAt pointerActionMove 0 11 75).event).map
          fun event => event.targetWindowId) = some 2 := by
      decide +kernel
    obtain ⟨event, hevent, htarget⟩ := Option.map_eq_some_iff.mp hdispatched
    have hdown : (runFrom Injector.step (.create leftAndRight) (oneOnEach.take 2)).downWindow 0
        = some 1 := by
      decide +kernel
    have hcarried := hmove 1 ⟨by decide, .inl (by decide), hdown⟩ event hevent
    exact absurd (hcarried.symm.trans htarget) (by decide)

end FtMmi.MessageHandle
