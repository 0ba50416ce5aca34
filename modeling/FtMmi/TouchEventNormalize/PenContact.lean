/-
FtMmi.TouchEventNormalize.PenContact — the events of a pen.

They should be contacts: the tip goes down, moves and is lifted, with one
item that is pressed until then. A pen that moves above the screen breaks
this, as `OnTipMotion` makes the item it does not find, and so do a tip
that goes down twice and an event that the window manager turns into a
cancel, which is not reset. `contactsBracketed_iff` says that there is no
other way.
-/
import FtMmi.Lib.Brackets
import FtMmi.Lib.StepSystem
import FtMmi.TouchEventNormalize.TabletToolTransformProcessor
import FtMmi.WindowManager.TouchTarget

namespace FtMmi.TouchEventNormalize

open FtMmi.Event
open FtMmi.Lib
open FtMmi.WindowManager

/-! ## Runs -/

/-- A report, and what the window manager and its surroundings are then. -/
structure PenReport where
  env : Env
  manager : InputWindowsManager
  tip : LibinputTabletTool

/-- A processor, and the events passed on. -/
structure PenRun where
  processor : TabletToolTransformProcessor
  passed : List PointerEvent

namespace TabletToolTransformProcessor

def items (p : TabletToolTransformProcessor) : List PointerItem :=
  match p.pointerEvent with
  | none => []
  | some event => event.pointers

theorem event_pointers (p : TabletToolTransformProcessor) (now : Int64) :
    (p.event now).pointers = p.items := by
  unfold event items
  cases p.pointerEvent with
  | none => rfl
  | some event => rfl

end TabletToolTransformProcessor

def PenRun.create (deviceId : Int32) : PenRun := ⟨.create deviceId, []⟩

def penStep (t : PenRun) (r : PenReport) : PenRun :=
  let result := t.processor.handleTableToolEvent r.env r.manager r.tip
  ⟨result.2, t.passed ++ result.1.toList⟩

/-! ## The property and the condition -/

def penBrackets : Brackets Int32 where
  opening := pointerActionDown
  inner := pointerActionMove
  closing := pointerActionUp
  inner_ne_closing := by decide

/-- The actions of the events passed on are those of contacts, up to the end
of the last; each event has one item, pressed as its action says. -/
structure ContactsBracketed (t : PenRun) : Prop where
  word : t.passed.map PointerEvent.pointerAction ∈ penBrackets.language ∨
    t.passed.map PointerEvent.pointerAction ++ [pointerActionUp] ∈ penBrackets.language
  items : ∀ event ∈ t.passed, ∃ item, event.pointers = [item] ∧
    (item.pressed = true ↔
      event.pointerAction = pointerActionDown ∨ event.pointerAction = pointerActionMove)

/-- There is a display for the pen. -/
def Located (r : PenReport) : Prop :=
  (calculateTipPoint r.manager.displayGroupInfo r.tip).isSome

/-- The window manager finds no window where the event is, but the one on which
the contact began, and makes the event a cancel. -/
def BecomesCancel (s : InputWindowsManager) (event : PointerEvent) : Prop :=
  ∃ target, s.findTouchTarget event = some target ∧
    target.event.pointerAction = pointerActionCancel

def Cancelled (t : PenRun) (r : PenReport) : Prop :=
  BecomesCancel r.manager.updateId (t.processor.ready r.env r.manager r.tip)

/-- The tip goes down without an item, and moves and is lifted with one. -/
def InContact (t : PenRun) (r : PenReport) : Prop :=
  match r.tip.type with
  | .tipDown => Located r → t.processor.items = []
  | .axis => Located r → t.processor.items ≠ [] ∧ ¬ Cancelled t r
  | .tipUp => t.processor.items ≠ [] → ¬ Cancelled t r
  | .proximity => True

/-! ## One report in the event -/

/-- The pointer has one item. -/
structure HasItem (event : PointerEvent) (pressed : Bool) : Prop where
  pointerId : event.pointerId = defaultPointerId
  item : ∃ item, event.pointers = [item] ∧ item.pointerId = defaultPointerId ∧
    item.pressed = pressed

/-- No item, or one that is pressed. -/
def Steady (event : PointerEvent) : Prop := event.pointers = [] ∨ HasItem event true

variable {group : DisplayGroupInfo} {event : PointerEvent} {tip : LibinputTabletTool}

theorem getPointerItem_of_nil (h : event.pointers = []) (pointerId : Int32) :
    event.getPointerItem pointerId = none := by
  simp [PointerEvent.getPointerItem, h]

theorem getPointerItem_of_singleton {item : PointerItem} (h : event.pointers = [item])
    (hid : item.pointerId = defaultPointerId) :
    event.getPointerItem defaultPointerId = some item := by
  simp [PointerEvent.getPointerItem, h, hid]

/-- An item is put in the place of the one there is, or is the first. -/
theorem updatePointerItem_hasItem {item : PointerItem}
    (h : event.pointers = [] ∨ ∃ old, event.pointers = [old] ∧ old.pointerId = defaultPointerId)
    (hpointerId : event.pointerId = defaultPointerId) (hid : item.pointerId = defaultPointerId) :
    HasItem (event.updatePointerItem defaultPointerId item) item.pressed ∧
      (event.updatePointerItem defaultPointerId item).pointerAction = event.pointerAction := by
  have hpointers : (event.updatePointerItem defaultPointerId item).pointers = [item] := by
    rcases h with hnil | ⟨old, hold, holdId⟩
    · have hreplace : PointerEvent.replacePointer defaultPointerId item event.pointers = none := by
        rw [hnil]
        rfl
      have hadd : event.updatePointerItem defaultPointerId item = event.addPointerItem item := by
        unfold PointerEvent.updatePointerItem
        split
        · rename_i pointers hsome
          rw [hreplace] at hsome
          cases hsome
        · rfl
      rw [hadd, PointerEvent.addPointerItem_pointers (by rw [hnil]; decide), hnil]
      rfl
    · obtain ⟨_, heq⟩ := @PointerEvent.updatePointerItem_head event item old [] hold
      rw [← holdId, heq]
  obtain ⟨pointers, hlength, heq⟩ := event.updatePointerItem_eq defaultPointerId item
  rw [heq] at hpointers ⊢
  exact ⟨⟨hpointerId, item, hpointers, hid, rfl⟩, rfl⟩

theorem addPointerItem_hasItem {item : PointerItem} (hnil : event.pointers = [])
    (hid : item.pointerId = defaultPointerId) :
    HasItem ((event.addPointerItem item).setPointerId defaultPointerId) item.pressed ∧
      ((event.addPointerItem item).setPointerId defaultPointerId).pointerAction
        = event.pointerAction := by
  have hroom : ¬ maxNPointerItems ≤ event.pointers.length := by
    rw [hnil]
    decide
  have hpointers : (event.addPointerItem item).pointers = [item] := by
    rw [PointerEvent.addPointerItem_pointers (by omega), hnil]
    rfl
  refine ⟨⟨rfl, item, hpointers, hid, rfl⟩, ?_⟩
  unfold PointerEvent.addPointerItem
  rw [dif_neg hroom]
  rfl

theorem onTipDown_located (h : Steady event) (hlocated : (calculateTipPoint group tip).isSome)
    (deviceId : Int32) (time : Int64) :
    (onTipDown group deviceId time tip event).1 = true ∧
      HasItem (onTipDown group deviceId time tip event).2 true ∧
      (onTipDown group deviceId time tip event).2.pointerAction = pointerActionDown := by
  obtain ⟨⟨coord, targetDisplayId⟩, hpoint⟩ := Option.isSome_iff_exists.mp hlocated
  unfold onTipDown
  simp only [hpoint, true_and]
  generalize hset : (((event.setActionStartTime time).setTargetDisplayId
    targetDisplayId).setActionTime time).setPointerAction pointerActionDown = set
  have hpointers : set.pointers = event.pointers := hset ▸ rfl
  have haction : set.pointerAction = pointerActionDown := hset ▸ rfl
  rcases h with hnil | ⟨_, old, hold, hid, -⟩
  · rw [hnil] at hpointers
    rw [getPointerItem_of_nil hpointers, ← haction]
    exact @addPointerItem_hasItem (set.setDeviceId deviceId) _ hpointers rfl
  · rw [hold] at hpointers
    rw [getPointerItem_of_singleton hpointers hid, ← haction]
    have hremoved : (set.removePointerItem defaultPointerId).pointers = [] := by
      simp [PointerEvent.removePointerItem, hpointers, hid]
    exact @addPointerItem_hasItem ((set.removePointerItem defaultPointerId).setDeviceId deviceId) _
      hremoved rfl

theorem onTipMotion_located (h : Steady event) (hlocated : (calculateTipPoint group tip).isSome)
    (deviceId : Int32) (time : Int64) :
    (onTipMotion group deviceId time tip event).1 = true ∧
      HasItem (onTipMotion group deviceId time tip event).2 true ∧
      (onTipMotion group deviceId time tip event).2.pointerAction = pointerActionMove := by
  obtain ⟨⟨coord, targetDisplayId⟩, hpoint⟩ := Option.isSome_iff_exists.mp hlocated
  unfold onTipMotion
  simp only [hpoint]
  rcases h with hnil | ⟨hpointerId, old, hold, hid, hpressed⟩
  · have hnone : ((event.setActionTime time).setPointerAction
        pointerActionMove).getPointerItem defaultPointerId = none := getPointerItem_of_nil hnil _
    rw [hnone]
    exact ⟨rfl, updatePointerItem_hasItem (.inl hnil) rfl rfl⟩
  · have hsome : ((event.setActionTime time).setPointerAction
        pointerActionMove).getPointerItem defaultPointerId = some old :=
      getPointerItem_of_singleton hold hid
    rw [hsome]
    have hmoved := @updatePointerItem_hasItem ((event.setActionTime time).setPointerAction
        pointerActionMove) (tipMotionItem old tip coord) (.inr ⟨old, hold, hid⟩) hpointerId hid
    have hkept : (tipMotionItem old tip coord).pressed = true := hpressed
    rw [hkept] at hmoved
    exact ⟨rfl, hmoved⟩

theorem onTipUp_item (h : HasItem event true) (time : Int64) :
    (onTipUp time event).1 = true ∧ HasItem (onTipUp time event).2 false ∧
      (onTipUp time event).2.pointerAction = pointerActionUp := by
  obtain ⟨hpointerId, old, hold, hid, -⟩ := h
  have hsome : ((event.setActionTime time).setPointerAction
      pointerActionUp).getPointerItem defaultPointerId = some old :=
    getPointerItem_of_singleton hold hid
  unfold onTipUp
  dsimp only
  rw [hsome]
  exact ⟨rfl, @updatePointerItem_hasItem ((event.setActionTime time).setPointerAction
    pointerActionUp) { old with pressed := false } (.inr ⟨old, hold, hid⟩) hpointerId hid⟩

/-- A report that is not written leaves the item alone. -/
theorem onTabletTool_not_written (deviceId : Int32) (time : Int64)
    (h : (onTabletTool group deviceId time tip event).1 = false) :
    (onTabletTool group deviceId time tip event).2.pointers = event.pointers ∧
      (onTabletTool group deviceId time tip event).2.pointerId = event.pointerId := by
  revert h
  unfold onTabletTool
  cases tip.type with
  | proximity => simp
  | axis =>
    simp only [onTipMotion]
    split
    · exact fun _ => ⟨rfl, rfl⟩
    · split <;> simp
  | tipDown =>
    simp only [onTipDown]
    split
    · exact fun _ => ⟨rfl, rfl⟩
    · simp
  | tipUp =>
    simp only [onTipUp]
    split
    · exact fun _ => ⟨rfl, rfl⟩
    · simp

/-! ## The target -/

variable {s : InputWindowsManager} {pressed : Bool}

/-- The item of a target is the one there was, moved. -/
theorem targeted_hasItem {target : InputWindowsManager.TouchTarget} (h : HasItem event pressed)
    (htarget : s.findTouchTarget event = some target) :
    HasItem (InputWindowsManager.targeted target) pressed := by
  obtain ⟨hpointerId, item, hpointers, hid, hpressed⟩ := h
  obtain ⟨hsameId, hsame, -⟩ := InputWindowsManager.findTouchTarget_event htarget
  have hplace := (InputWindowsManager.findTouchTarget_cases htarget).1
  rw [hpointerId, getPointerItem_of_singleton hpointers hid] at hplace
  have hplace : item = target.place.item := Option.some.inj hplace
  have hmoved := @updatePointerItem_hasItem (InputWindowsManager.setTarget target.event target.touchWindow)
    (InputWindowsManager.touchItem target.place target.touchWindow) (.inr ⟨item, hsame.trans hpointers, hid⟩)
    (hsameId.trans hpointerId) (by rw [← hid, hplace]; rfl)
  rw [InputWindowsManager.targeted, hsameId, hpointerId]
  have hkept : (InputWindowsManager.touchItem target.place target.touchWindow).pressed = pressed := by
    rw [← hpressed, hplace]
    rfl
  exact hkept ▸ hmoved.1

/-- Asking for a target keeps the item, and the action unless it becomes a
cancel. -/
theorem updateTargetPointer_hasItem (env : Env)
    (hsource : event.sourceType = sourceTypeTouchscreen) (h : HasItem event pressed) :
    HasItem (s.updateTargetPointer env .other event).2.1 pressed ∧
      (BecomesCancel s event →
        (s.updateTargetPointer env .other event).2.1.pointerAction = pointerActionCancel) ∧
      (¬ BecomesCancel s event →
        (s.updateTargetPointer env .other event).2.1.pointerAction = event.pointerAction) := by
  rw [InputWindowsManager.updateTargetPointer, if_pos hsource]
  unfold BecomesCancel
  cases htarget : s.findTouchTarget event with
  | none =>
    obtain ⟨_, heq | ⟨displayId, heq⟩⟩ :=
      InputWindowsManager.updateTouchScreenTarget_of_none env .other htarget
    · rw [heq]
      exact ⟨h, by simp, fun _ => rfl⟩
    · rw [heq]
      exact ⟨⟨h.pointerId, h.item⟩, by simp, fun _ => rfl⟩
  | some target =>
    obtain ⟨written, heq⟩ := InputWindowsManager.updateTouchScreenTarget_of_some env .other htarget
    rw [heq]
    simp only [Option.some.injEq, exists_eq_left', InputWindowsManager.targeted_pointerAction]
    refine ⟨targeted_hasItem h htarget, id, fun hnot => ?_⟩
    obtain ⟨_, displayId, ⟨hsame, _⟩ | ⟨hcancel, _⟩⟩ :=
      InputWindowsManager.findTouchTarget_cases htarget
    · rw [hsame]
      rfl
    · exact absurd (by rw [hcancel]; rfl) hnot

/-! ## One report -/

/-- The action a report is passed on with, unless it becomes a cancel. -/
def actionOf : TabletToolType → Int32
  | .tipDown => pointerActionDown
  | .axis => pointerActionMove
  | .tipUp => pointerActionUp
  | .proximity => 0

/-- A report that is written. -/
def Written (t : PenRun) (r : PenReport) : Prop :=
  match r.tip.type with
  | .tipDown => Located r
  | .axis => Located r
  | .tipUp => t.processor.items ≠ []
  | .proximity => False

/-- The action the event gets. -/
noncomputable def passedAction (t : PenRun) (r : PenReport) : Int32 :=
  open Classical in if Cancelled t r then pointerActionCancel else actionOf r.tip.type

variable {t : PenRun} {r : PenReport}

def PenRun.Steady (t : PenRun) : Prop := ∀ now, TouchEventNormalize.Steady (t.processor.event now)

theorem writeReport_written (ht : t.Steady) (h : Written t r) :
    (t.processor.writeReport r.env r.manager r.tip).1 = true ∧
      HasItem (t.processor.writeReport r.env r.manager r.tip).2 (r.tip.type ≠ .tipUp) ∧
      (t.processor.writeReport r.env r.manager r.tip).2.pointerAction = actionOf r.tip.type := by
  have hsteady := ht r.env.time
  unfold Written at h
  unfold TabletToolTransformProcessor.writeReport onTabletTool
  cases htype : r.tip.type with
  | proximity =>
    rw [htype] at h
    exact h.elim
  | axis =>
    rw [htype] at h
    exact onTipMotion_located hsteady h _ _
  | tipDown =>
    rw [htype] at h
    exact onTipDown_located hsteady h _ _
  | tipUp =>
    rw [htype] at h
    refine onTipUp_item (hsteady.resolve_left ?_) _
    rw [TabletToolTransformProcessor.event_pointers]
    exact h

theorem writeReport_not_written (h : ¬ Written t r) :
    (t.processor.writeReport r.env r.manager r.tip).1 = false := by
  unfold Written Located at h
  unfold TabletToolTransformProcessor.writeReport onTabletTool
  cases htype : r.tip.type with
  | proximity => rfl
  | axis =>
    rw [htype] at h
    simp only [Bool.not_eq_true, Option.isSome_eq_false_iff, Option.isNone_iff_eq_none] at h
    simp [onTipMotion, h]
  | tipDown =>
    rw [htype] at h
    simp only [Bool.not_eq_true, Option.isSome_eq_false_iff, Option.isNone_iff_eq_none] at h
    simp [onTipDown, h]
  | tipUp =>
    rw [htype] at h
    have hnil : (t.processor.event r.env.time).pointers = [] := by
      rw [TabletToolTransformProcessor.event_pointers]
      exact not_not.mp h
    have hnone : (((t.processor.event r.env.time).setActionTime r.env.time).setPointerAction
        pointerActionUp).getPointerItem defaultPointerId = none := getPointerItem_of_nil hnil _
    simp only [onTipUp]
    rw [hnone]

theorem Steady.congr {event' : PointerEvent} (h : TouchEventNormalize.Steady event)
    (hpointers : event'.pointers = event.pointers) (hpointerId : event'.pointerId = event.pointerId) :
    TouchEventNormalize.Steady event' := by
  rcases h with hnil | ⟨hid, item, hitem, h⟩
  · exact .inl (hpointers.trans hnil)
  · exact .inr ⟨hpointerId.trans hid, item, hpointers.trans hitem, h⟩

/-- What is not written is not passed on. -/
theorem penStep_not_written (ht : t.Steady) (h : ¬ Written t r) :
    (penStep t r).passed = t.passed ∧ (penStep t r).processor.items = t.processor.items ∧
      (penStep t r).Steady := by
  have hfalse := writeReport_not_written h
  obtain ⟨hpointers, hpointerId⟩ := onTabletTool_not_written t.processor.deviceId r.env.time hfalse
  have hstep : penStep t r = ⟨{ t.processor with
      pointerEvent := some (t.processor.writeReport r.env r.manager r.tip).2 }, t.passed⟩ := by
    simp [penStep, TabletToolTransformProcessor.handleTableToolEvent,
      TabletToolTransformProcessor.onEvent, hfalse]
  rw [hstep]
  refine ⟨rfl, ?_, fun _ => (ht r.env.time).congr hpointers hpointerId⟩
  rw [← t.processor.event_pointers r.env.time]
  exact hpointers

/-- What is written is passed on; after an up the event is empty. -/
theorem penStep_written (ht : t.Steady) (h : Written t r) :
    ∃ event, (penStep t r).passed = t.passed ++ [event] ∧
      HasItem event (r.tip.type ≠ .tipUp) ∧ event.pointerAction = passedAction t r ∧
      ∀ now, (penStep t r).processor.event now
        = if passedAction t r = pointerActionUp then event.reset r.env.time else event := by
  obtain ⟨htrue, hitem, haction⟩ := writeReport_written ht h
  have hready : HasItem (t.processor.ready r.env r.manager r.tip) (r.tip.type ≠ .tipUp) :=
    ⟨hitem.pointerId, hitem.item⟩
  have hreadyAction : (t.processor.ready r.env r.manager r.tip).pointerAction
      = actionOf r.tip.type := haction
  obtain ⟨htarget, hcancel, hkept⟩ := @updateTargetPointer_hasItem _ r.manager.updateId _ r.env
    rfl hready
  have hpassed : (r.manager.updateId.updateTargetPointer r.env .other
      (t.processor.ready r.env r.manager r.tip)).2.1.pointerAction = passedAction t r := by
    unfold passedAction Cancelled
    split
    · rename_i h
      exact hcancel h
    · rename_i h
      exact (hkept h).trans hreadyAction
  refine ⟨_, ?_, htarget, hpassed, fun now => ?_⟩
  · simp [penStep, TabletToolTransformProcessor.handleTableToolEvent,
      TabletToolTransformProcessor.onEvent, htrue]
  · simp only [penStep, TabletToolTransformProcessor.handleTableToolEvent,
      TabletToolTransformProcessor.onEvent, htrue, if_true, hpassed]
    split <;> rfl

/-! ## Every run -/

/-- What holds between reports. -/
structure Contact (t : PenRun) : Prop where
  steady : t.Steady
  word : penBrackets.run false (t.passed.map PointerEvent.pointerAction)
    = some (!t.processor.items.isEmpty)
  items : ∀ event ∈ t.passed, ∃ item, event.pointers = [item] ∧
    (item.pressed = true ↔
      event.pointerAction = pointerActionDown ∨ event.pointerAction = pointerActionMove)

theorem create_contact (deviceId : Int32) : Contact (.create deviceId) :=
  ⟨fun _ => .inl rfl, rfl, fun _ h => nomatch h⟩

theorem Contact.contactsBracketed (h : Contact t) : ContactsBracketed t :=
  ⟨Brackets.mem_or_closed_mem_iff.mpr (by rw [h.word]; rfl), h.items⟩

/-- A tip that goes down is never cancelled. -/
theorem not_cancelled_of_tipDown (ht : t.Steady) (h : Written t r) (htype : r.tip.type = .tipDown) :
    ¬ Cancelled t r := by
  rintro ⟨target, htarget, hcancel⟩
  obtain ⟨-, -, haction⟩ := writeReport_written ht h
  rw [htype] at haction
  have haction : (t.processor.ready r.env r.manager r.tip).pointerAction = pointerActionDown :=
    haction
  obtain ⟨-, displayId, ⟨hsame, -⟩ | ⟨-, -, -, hnot⟩⟩ :=
    InputWindowsManager.findTouchTarget_cases htarget
  · rw [hsame] at hcancel
    have hdown : pointerActionDown = pointerActionCancel := haction.symm.trans hcancel
    exact absurd hdown (by decide)
  · exact hnot haction

theorem inContact_of_not_written (h : ¬ Written t r) : InContact t r := by
  unfold Written at h
  unfold InContact
  cases htype : r.tip.type with
  | proximity => trivial
  | axis =>
    rw [htype] at h
    exact fun hlocated => absurd hlocated h
  | tipDown =>
    rw [htype] at h
    exact fun hlocated => absurd hlocated h
  | tipUp =>
    rw [htype] at h
    exact fun hitems => absurd hitems h

/-- A report in its place is one whose action may follow. -/
theorem inContact_iff (ht : t.Steady) (h : Written t r) :
    InContact t r ↔
      (penBrackets.next (!t.processor.items.isEmpty) (passedAction t r)).isSome := by
  have hdown := not_cancelled_of_tipDown ht h
  unfold Written at h
  unfold InContact passedAction
  have hcancel : ∀ isOpen, penBrackets.next isOpen pointerActionCancel = none := by decide
  cases htype : r.tip.type with
  | proximity =>
    rw [htype] at h
    exact h.elim
  | axis =>
    rw [htype] at h
    by_cases hc : Cancelled t r
    · simp [hc, hcancel, h]
    · cases hitems : t.processor.items with
      | nil => simp [hc, h, actionOf]; decide
      | cons item rest => simp [hc, h, actionOf]; decide
  | tipDown =>
    rw [htype] at h
    rw [if_neg (hdown htype)]
    cases hitems : t.processor.items with
    | nil => simp [actionOf]; decide
    | cons item rest => simp [h, actionOf]; decide
  | tipUp =>
    rw [htype] at h
    by_cases hc : Cancelled t r
    · simp [hc, hcancel, h]
    · cases hitems : t.processor.items with
      | nil => exact absurd hitems h
      | cons item rest => simp [hc, actionOf]; decide

/-- Only an up, a down or a move may follow. -/
theorem next_cases {isOpen isOpen' : Bool} {action : Int32}
    (h : penBrackets.next isOpen action = some isOpen') :
    (action = pointerActionUp ∧ isOpen' = false) ∨
      ((action = pointerActionDown ∨ action = pointerActionMove) ∧ isOpen' = true) := by
  cases isOpen with
  | false =>
    by_cases hdown : action = pointerActionDown
    · simp [Brackets.next, penBrackets, hdown] at h
      exact .inr ⟨.inl hdown, h⟩
    · simp [Brackets.next, penBrackets, hdown] at h
  | true =>
    by_cases hmove : action = pointerActionMove
    · simp [Brackets.next, penBrackets, hmove] at h
      exact .inr ⟨.inr hmove, h⟩
    · by_cases hup : action = pointerActionUp
      · rw [hup] at h
        exact .inl ⟨hup, (Option.some.inj h).symm⟩
      · simp [Brackets.next, penBrackets, hmove, hup] at h

theorem tipUp_of_passedAction (h : passedAction t r = pointerActionUp) : r.tip.type = .tipUp := by
  unfold passedAction at h
  split at h
  · exact absurd h (by decide)
  · cases htype : r.tip.type with
    | tipUp => rfl
    | axis => exact absurd (htype ▸ h) (by decide)
    | tipDown => exact absurd (htype ▸ h) (by decide)
    | proximity => exact absurd (htype ▸ h) (by decide)

theorem not_tipUp_of_passedAction
    (h : passedAction t r = pointerActionDown ∨ passedAction t r = pointerActionMove) :
    r.tip.type ≠ .tipUp := by
  intro htype
  unfold passedAction at h
  split at h
  · exact absurd h (by decide)
  · exact absurd (htype ▸ h) (by decide)

/-- The step. -/
theorem penStep_contact (ht : Contact t) (h : InContact t r) : Contact (penStep t r) := by
  by_cases hwritten : Written t r
  · obtain ⟨isOpen, hnext⟩ :=
      Option.isSome_iff_exists.mp ((inContact_iff ht.steady hwritten).mp h)
    obtain ⟨event, hpassed, hitem, haction, hevent⟩ := penStep_written ht.steady hwritten
    have hword : penBrackets.run false ((penStep t r).passed.map PointerEvent.pointerAction)
        = some isOpen := by
      rw [hpassed, List.map_append, Brackets.run_append, ht.word]
      simp [haction, hnext]
    have hitems : (penStep t r).processor.items
        = (if passedAction t r = pointerActionUp then event.reset r.env.time else event).pointers := by
      rw [← (penStep t r).processor.event_pointers r.env.time, hevent]
    obtain ⟨item, hpointers, hid, hpressed⟩ := hitem.item
    have hnew : ∃ item, event.pointers = [item] ∧ (item.pressed = true ↔
        event.pointerAction = pointerActionDown ∨ event.pointerAction = pointerActionMove) := by
      refine ⟨item, hpointers, ?_⟩
      rw [hpressed, haction]
      rcases next_cases hnext with ⟨hup, -⟩ | ⟨hmoves, -⟩
      · rw [tipUp_of_passedAction hup, hup]
        decide
      · exact iff_of_true (decide_eq_true (not_tipUp_of_passedAction hmoves)) hmoves
    have hall : ∀ event ∈ (penStep t r).passed, ∃ item, event.pointers = [item] ∧
        (item.pressed = true ↔
          event.pointerAction = pointerActionDown ∨ event.pointerAction = pointerActionMove) := by
      intro other hmem
      rw [hpassed] at hmem
      rcases List.mem_append.mp hmem with hold | hlast
      · exact ht.items other hold
      · rw [List.mem_singleton.mp hlast]
        exact hnew
    rcases next_cases hnext with ⟨hup, hclosed⟩ | ⟨hmoves, hopen⟩
    · rw [if_pos hup] at hitems
      refine ⟨fun now => ?_, ?_, hall⟩
      · rw [hevent, if_pos hup]
        exact .inl rfl
      · rw [hword, hclosed, hitems]
        rfl
    · have hnot : passedAction t r ≠ pointerActionUp := fun hup =>
        not_tipUp_of_passedAction hmoves (tipUp_of_passedAction hup)
      rw [if_neg hnot, hpointers] at hitems
      refine ⟨fun now => ?_, ?_, hall⟩
      · rw [hevent, if_neg hnot]
        refine .inr ⟨hitem.pointerId, item, hpointers, hid, ?_⟩
        rw [hpressed]
        exact decide_eq_true (not_tipUp_of_passedAction hmoves)
      · rw [hword, hopen, hitems]
        rfl
  · obtain ⟨hpassed, hitems, hsteady⟩ := penStep_not_written ht.steady hwritten
    exact ⟨hsteady, by rw [hpassed, hitems]; exact ht.word, by rw [hpassed]; exact ht.items⟩

/-- A report out of its place is passed on all the same. -/
theorem inContact_of_step (ht : Contact t) (h : ContactsBracketed (penStep t r)) :
    InContact t r := by
  by_cases hwritten : Written t r
  · obtain ⟨event, hpassed, -, haction, -⟩ := penStep_written ht.steady hwritten
    have hword := Brackets.mem_or_closed_mem_iff.mp h.word
    rw [hpassed, List.map_append, Brackets.run_append, ht.word] at hword
    rw [inContact_iff ht.steady hwritten, ← haction]
    cases hnext : penBrackets.next (!t.processor.items.isEmpty) event.pointerAction with
    | none => simp [hnext] at hword
    | some isOpen => rfl
  · exact inContact_of_not_written hwritten

/-- In every run the events are contacts precisely if every report is in its
place. -/
theorem contactsBracketed_iff (deviceId : Int32) (rs : List PenReport) :
    Always penStep ContactsBracketed (.create deviceId) rs ↔
      AllSteps penStep InContact (.create deviceId) rs :=
  always_iff_allSteps_of_inv (fun _ h => h.contactsBracketed) (fun _ _ => penStep_contact)
    (fun _ _ => inContact_of_step) rs _ (create_contact deviceId)

/-! ## A pen above the screen -/

/-- A pen that has come near and moves. -/
def hovering : PenReport :=
  let window : WindowInfo :=
    { id := 1, pid := 10, area := ⟨0, 0, 100, 100⟩, defaultHotAreas := [⟨0, 0, 100, 100⟩]
      pointerHotAreas := [⟨0, 0, 100, 100⟩], agentWindowId := 1, flags := 0 }
  { env := ⟨.create, 0, false, 0⟩
    manager :=
      { InputWindowsManager.create 0 window window with
        displayGroupInfo := ⟨1, [window], [⟨0, 0, 0, 100, 100, "default0", .direction0⟩]⟩ }
    tip :=
      { type := .axis
        xTransformed := fun _ => 1
        yTransformed := fun _ => 1
        tiltX := .zero
        tiltY := .zero
        pressure := .zero
        toolType := 1 } }

/-- It is passed on as a move. -/
theorem counterexample_contactsBracketed :
    ¬ Always penStep ContactsBracketed (.create 3) [hovering] := by
  rintro ⟨_, hbracketed⟩
  have hlocated : Located hovering := by
    unfold Located
    decide +kernel
  obtain ⟨hitems, -⟩ := inContact_of_step (create_contact 3) hbracketed hlocated
  exact hitems rfl

end FtMmi.TouchEventNormalize
