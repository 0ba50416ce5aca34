/-
FtMmi.WindowManager.HoverTarget — which window a mouse event selects when
`SelectWindowInfo` looks for one anew.

The search finds a window or leaves `firstBtnDownWindowId_` as it was, and
the window with that id is the result. So a point without a window gets
the window of an earlier event, while that one is in the layout.
-/
import FtMmi.WindowManager.HotArea
import FtMmi.WindowManager.SelectedWindow

namespace FtMmi.WindowManager

open FtMmi.Event
open FtMmi.Lib

/-! ## The window at a point -/

/-- The window takes the pointer at a point. -/
def WindowInfo.Takes (window : WindowInfo) (x y : Int32) : Prop :=
  window.untouchable = false ∧ ∃ rect ∈ window.pointerHotAreas, rect.Contains x y

instance (window : WindowInfo) (x y : Int32) : Decidable (window.Takes x y) :=
  inferInstanceAs (Decidable (_ ∧ _))

/-- The hot-area test sees it: a hot area with the point stands before the
first one whose end overflows. -/
def WindowInfo.Shows (window : WindowInfo) (x y : Int32) : Prop :=
  window.untouchable = false ∧
    ∃ rect ∈ window.pointerHotAreas.takeWhile Rect.fits, rect.Contains x y

instance (window : WindowInfo) (x y : Int32) : Decidable (window.Shows x y) :=
  inferInstanceAs (Decidable (_ ∧ _))

theorem WindowInfo.Shows.takes {window : WindowInfo} {x y : Int32} (h : window.Shows x y) :
    window.Takes x y := by
  obtain ⟨hflag, rect, hmem, hcontains⟩ := h
  exact ⟨hflag, rect, (List.takeWhile_prefix _).subset hmem, hcontains⟩

namespace DisplayGroupInfo

variable {group : DisplayGroupInfo} {x y : Int32}

/-- The top one of the windows that take the pointer. -/
def topWindowAt (group : DisplayGroupInfo) (x y : Int32) : Option WindowInfo :=
  group.windowsInfo.find? fun item => item.Takes x y

/-- The top one of the windows that the test sees. -/
def topShownAt (group : DisplayGroupInfo) (x y : Int32) : Option WindowInfo :=
  group.windowsInfo.find? fun item => item.Shows x y

theorem getWindowInfo_eq (group : DisplayGroupInfo) (x y : Int32) :
    group.getWindowInfo x y = group.topShownAt x y := by
  refine List.find?_congr fun item _ => Bool.eq_iff_iff.mpr ?_
  rw [decide_eq_true_iff]
  simp only [WindowInfo.Shows, Bool.and_eq_true, Bool.not_eq_true', isInHotArea_iff]

theorem topShownAt_of_none (h : group.topWindowAt x y = none) : group.topShownAt x y = none := by
  rw [topWindowAt, List.find?_eq_none] at h
  rw [topShownAt, List.find?_eq_none]
  intro window hwindow hshows
  exact h window hwindow (decide_eq_true (of_decide_eq_true hshows).takes)

/-- The windows above the top one take no pointer, so the test sees none of
them. -/
theorem topShownAt_of_some {top : WindowInfo} (h : group.topWindowAt x y = some top)
    (hshows : top.Shows x y) : group.topShownAt x y = some top := by
  rw [topWindowAt, List.find?_eq_some_iff_append] at h
  rw [topShownAt, List.find?_eq_some_iff_append]
  obtain ⟨_, above, below, hsplit, habove⟩ := h
  refine ⟨decide_eq_true hshows, above, below, hsplit, fun window hwindow => ?_⟩
  have hnot := habove window hwindow
  simp only [Bool.not_eq_true', decide_eq_false_iff_not] at hnot ⊢
  exact fun hseen => hnot hseen.takes

end DisplayGroupInfo

namespace InputWindowsManager

variable {s : InputWindowsManager} {event : PointerEvent}

/-! ## A fresh selection -/

/-- The mouse moves with no button held, or the first button goes down, and
no window is set. -/
def Fresh (event : PointerEvent) : Prop :=
  event.targetWindowId < 0 ∧
    (event.pointerAction = pointerActionMove ∧ event.pressedButtons = [] ∨
      event.pointerAction = pointerActionButtonDown ∧ event.pressedButtons.length = 1)

instance (event : PointerEvent) : Decidable (Fresh event) := inferInstanceAs (Decidable (_ ∧ _))

/-- It goes by the window that the test sees, or by the one of before. -/
theorem firstWindowId_of_fresh (h : Fresh event) (x y : Int32) :
    s.firstWindowId x y event
      = ((s.displayGroupInfo.topShownAt x y).map WindowInfo.id).getD s.firstBtnDownWindowId := by
  obtain ⟨htarget, hkind⟩ := h
  have hanew : s.selectsAnew event = true := by
    unfold selectsAnew
    refine decide_eq_true (.inr ?_)
    rcases hkind with ⟨hmove, hnone⟩ | ⟨hdown, hone⟩
    · exact .inr ⟨hmove, by simp [hnone]⟩
    · exact .inl ⟨hdown, hone⟩
  have hfind : findDispatchWindow s.displayGroupInfo event.targetWindowId x y
      = s.displayGroupInfo.getWindowInfo x y := by
    simp [findDispatchWindow, DisplayGroupInfo.getWindowInfo, htarget]
  rw [firstWindowId, if_pos hanew, hfind, DisplayGroupInfo.getWindowInfo_eq]
  cases s.displayGroupInfo.topShownAt x y <;> rfl

/-- Without a window at the point, the one remembered is not in the layout.
With one, no other window of its id is above it, and the test sees it, or the
window that is selected for want of it has its id. -/
def Unmistaken (s : InputWindowsManager) (x y : Int32) : Prop :=
  match s.displayGroupInfo.topWindowAt x y with
  | none => s.displayGroupInfo.findWindow s.firstBtnDownWindowId = none
  | some top =>
      s.displayGroupInfo.findWindow top.id = some top ∧
        (top.Shows x y ∨
          ((s.displayGroupInfo.topShownAt x y).map WindowInfo.id).getD
            s.firstBtnDownWindowId = top.id)

theorem selectWindowInfo_iff (h : Fresh event) (x y : Int32) :
    (s.selectWindowInfo x y event).1 = s.displayGroupInfo.topWindowAt x y ↔
      s.Unmistaken x y := by
  simp only [selectWindowInfo, firstWindowId_of_fresh h, Unmistaken]
  cases htop : s.displayGroupInfo.topWindowAt x y with
  | none =>
    rw [DisplayGroupInfo.topShownAt_of_none htop]
    rfl
  | some top =>
    constructor
    · intro hfound
      have hid := DisplayGroupInfo.findWindow_id hfound
      rw [← hid] at hfound
      exact ⟨hfound, .inr hid.symm⟩
    · rintro ⟨hfound, hshows | hid⟩
      · rw [DisplayGroupInfo.topShownAt_of_some htop hshows]
        exact hfound
      · rw [hid]
        exact hfound

/-! ## Every run -/

/-- The event and the place with which `UpdateMouseTarget` gets to
`SelectWindowInfo`. -/
def selection (s : InputWindowsManager) (event : PointerEvent) :
    Option (PointerEvent × PointerPlace) :=
  if event.sourceType = sourceTypeMouse then
    match s.displayGroupInfo.updateDisplayId event.targetDisplayId with
    | none => none
    | some displayId =>
        match locatePointer s.displayGroupInfo (fun _ x y => (x, y))
            (event.setTargetDisplayId displayId) with
        | .error _ => none
        | .ok place => some (event.setTargetDisplayId displayId, place)
  else none

/-- The search for a mouse target begins with the selection. -/
theorem findMouseTarget_selection (hsource : event.sourceType = sourceTypeMouse) :
    s.findMouseTarget event = (s.selection event).bind fun r =>
      (s.selectWindowInfo r.2.logicalX r.2.logicalY r.1).2.mouseTarget
        (s.selectWindowInfo r.2.logicalX r.2.logicalY r.1).1 r.1 := by
  unfold findMouseTarget selection
  rw [if_pos hsource]
  cases s.displayGroupInfo.updateDisplayId event.targetDisplayId with
  | none => rfl
  | some displayId =>
    dsimp only
    cases locatePointer s.displayGroupInfo (fun _ x y => (x, y))
      (event.setTargetDisplayId displayId) <;> rfl

/-- What a step selects, if it is a mouse event. -/
def stepSelection (s : InputWindowsManager) : Input → Option (PointerEvent × PointerPlace)
  | .updateTargetPointer _ event => s.selection (event.getD s.mouseEvent)
  | _ => none

/-- A fresh selection finds the top window at the point, or none if there is
none. -/
def SelectsTop (s : InputWindowsManager) (i : Input) : Prop :=
  ∀ r ∈ s.stepSelection i, Fresh r.1 →
    (s.selectWindowInfo r.2.logicalX r.2.logicalY r.1).1
      = s.displayGroupInfo.topWindowAt r.2.logicalX r.2.logicalY

def NotMistaken (s : InputWindowsManager) (i : Input) : Prop :=
  ∀ r ∈ s.stepSelection i, Fresh r.1 → s.Unmistaken r.2.logicalX r.2.logicalY

end InputWindowsManager

open InputWindowsManager

/-- In a run all fresh selections are right precisely if none is mistaken. -/
theorem hoverTarget_iff (now : Int64) (lastWindowInfo mouseDownInfo : WindowInfo)
    (is : List Input) :
    AllSteps step SelectsTop (.create now lastWindowInfo mouseDownInfo) is ↔
      AllSteps step NotMistaken (.create now lastWindowInfo mouseDownInfo) is := by
  refine allSteps_congr (fun s i => ?_) is _
  refine forall_congr' fun r => forall_congr' fun _ => ?_
  exact forall_congr' fun hfresh => selectWindowInfo_iff hfresh _ _

/-- The mouse where there is no window. -/
def mouseOnNothing : PointerEvent :=
  mouseOnLeft.updatePointerItem 0 { pointerId := 0, displayX := 70 }

/-- The manager after a move over the left window. -/
def leftVisited : InputWindowsManager :=
  runFrom step (.create 0 (leftOrRight 0 0 0) (leftOrRight 0 0 0))
    [.updateDisplayInfo twoClientsEnv (oneDisplay [leftOrRight 1 10 0]),
      .mouseEvent mouseOnLeft ⟨10, 0⟩, .updateTargetPointer twoClientsEnv none]

/-- The mouse leaves the left window, and the next move selects it once more. -/
theorem counterexample_hoverTarget :
    ¬ AllSteps step SelectsTop (.create 0 (leftOrRight 0 0 0) (leftOrRight 0 0 0))
      [.updateDisplayInfo twoClientsEnv (oneDisplay [leftOrRight 1 10 0]),
        .mouseEvent mouseOnLeft ⟨10, 0⟩, .updateTargetPointer twoClientsEnv none,
        .updateTargetPointer twoClientsEnv (some mouseOnNothing)] := by
  intro h
  have hlast : leftVisited.SelectsTop (.updateTargetPointer twoClientsEnv (some mouseOnNothing)) :=
    h.2.2.2.1
  have hselects := hlast ((leftVisited.selection mouseOnNothing).get (by decide +kernel))
    (Option.get_mem _) (by decide +kernel)
  exact absurd hselects (by decide +kernel)

end FtMmi.WindowManager
