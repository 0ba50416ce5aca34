/-
FtMmi.WindowManager.DisplayReads — reading the first display of the layout
(`displaysInfo[0]`).

A layout may have windows and no display. Every function that takes the
first display is here, as one that has no result where it does so of an
empty list: `IsNeedRefreshLayer` is the only one that does not look before.
It is reached from `SetPointerStyle` alone, which `HasDisplay` is about.

What an event does besides calling the three small ones of these functions,
it does to the display, the place of the mouse and the display drawn on
(`DisplayCall.moved`); any calls in any order make an event here. Windows
and layers are drawn without a display list, and so are visibility requests
carried out.
-/
import FtMmi.MouseEventNormalize.MouseMotion
import FtMmi.WindowManager.PointerStyles

namespace FtMmi.WindowManager

open FtMmi.Lib
open FtMmi.MouseEventNormalize

/-! ## The functions -/

namespace DisplayGroupInfo

/-- `displaysInfo[0]`, which an empty list does not have. -/
def firstDisplay (group : DisplayGroupInfo) : Option DisplayInfo := group.displaysInfo.head?

/-- `GetDisplayId` of an event for a display. -/
def getDisplayId (group : DisplayGroupInfo) (targetDisplayId : Int32) : Option Int32 :=
  if targetDisplayId < 0 then
    if group.displaysInfo.isEmpty then some targetDisplayId
    else group.firstDisplay.map DisplayInfo.id
  else some targetDisplayId

/-- `UpdateDisplayId`: its result, and the display id it leaves. -/
def checkDisplayId (group : DisplayGroupInfo) (displayId : Int32) : Option (Bool × Int32) :=
  if group.displaysInfo.isEmpty then some (false, displayId)
  else if group.windowsInfo.isEmpty then some (false, displayId)
  else if displayId < 0 then group.firstDisplay.map fun first => (true, first.id)
  else some (group.displaysInfo.any fun item => item.id = displayId, displayId)

end DisplayGroupInfo

/-- The window manager, the normaliser and the drawing manager, as far as
displays matter to them. -/
structure DisplayService where
  motion : MotionService
  pointerStyle : PointerStyles
  hasPointerDevice : Bool

namespace DisplayService

def create (speed : Fin 11) : DisplayService := ⟨.create speed, ∅, false⟩

def group (s : DisplayService) : DisplayGroupInfo := s.motion.displayGroupInfo

def getMouseInfo (s : DisplayService) : Option DisplayService :=
  if s.motion.mouseLocation.physicalX = -1 ∨ s.motion.mouseLocation.physicalY = -1 then
    if !s.group.displaysInfo.isEmpty then
      s.group.firstDisplay.map fun first =>
        { s with
          motion := { s.motion with mouseLocation := ⟨first.width / 2, first.height / 2⟩ } }
    else some s
  else some s

/-- The display the mouse is on. -/
def mouseDisplayId (s : DisplayService) : Option Int32 :=
  if s.motion.currentDisplayId < 0 then s.group.firstDisplay.map DisplayInfo.id
  else some s.motion.currentDisplayId

def isNeedRefreshLayer (s : DisplayService) (windowId : Int32) :
    Option (Bool × DisplayService) := do
  let s ← s.getMouseInfo
  let displayId ← s.mouseDisplayId
  match s.group.getPhysicalDisplay displayId with
  | none => some (false, s)
  | some displayInfo =>
      let logicX := s.motion.mouseLocation.physicalX + displayInfo.x
      let logicY := s.motion.mouseLocation.physicalY + displayInfo.y
      match s.group.getWindowInfo logicX logicY with
      | none => some (false, s)
      | some touchWindow => some (touchWindow.id = windowId, s)

/-- `PointerDrawingManager::SetPointerStyle`; `hasIcon` says if the style is
one of `mouseIcons_`. -/
def setPointerStyle (s : DisplayService) (hasIcon : Bool) (pid windowId pointerStyle : Int32) :
    Option DisplayService :=
  if !hasIcon then some s
  else
    let r := s.pointerStyle.setPointerStyle pid windowId pointerStyle
    if r.1 ≠ retOk then some s
    else
      let s := { s with pointerStyle := r.2 }
      if !s.hasPointerDevice then some s else (s.isNeedRefreshLayer windowId).map Prod.snd

/-- `PointerDrawingManager::OnDisplayInfo` -/
def onDisplayInfo (s : DisplayService) (screenSize : ScreenSize) : Option DisplayService :=
  match s.group.getPhysicalDisplay s.motion.displayInfo.id with
  | some item => some { s with motion := { s.motion with displayInfo := item } }
  | none =>
      s.group.firstDisplay.map fun first =>
        { s with
          motion := { s.motion with displayInfo := first }.onDisplayLost screenSize first.id }

end DisplayService

/-! ## The system -/

/-- What a pointer, touch or key event does that has to do with displays. -/
inductive DisplayCall where
  | getDisplayId (targetDisplayId : Int32)
  | updateDisplayId (displayId : Int32)
  | getMouseInfo
  | moved (currentDisplayId : Int32) (mouseLocation : MouseLocation) (displayInfo : DisplayInfo)

inductive DisplayInput where
  /-- a layout packet, with what `NotifyPointerToWindow` does if it is reached -/
  | updateDisplayInfo (screenSize : ScreenSize) (group : DisplayGroupInfo)
      (notify : List DisplayCall)
  | updatePointerDevice (hasPointerDevice : Bool)
  | setPointerStyle (hasIcon : Bool) (pid windowId pointerStyle : Int32)
  | setPointerVisible (pid : Int32) (visible : Bool)
  | onSessionLost (pid : Int32)
  | event (calls : List DisplayCall)

namespace DisplayService

def call (s : DisplayService) : DisplayCall → Option DisplayService
  | .getDisplayId targetDisplayId => (s.group.getDisplayId targetDisplayId).map fun _ => s
  | .updateDisplayId displayId => (s.group.checkDisplayId displayId).map fun _ => s
  | .getMouseInfo => s.getMouseInfo
  | .moved currentDisplayId mouseLocation displayInfo =>
      some { s with motion := { s.motion with currentDisplayId, mouseLocation, displayInfo } }

/-- The part of `UpdateDisplayInfo` for a layout with a display. -/
def refreshPointer (s : DisplayService) (screenSize : ScreenSize) : Option DisplayService := do
  let s ← s.onDisplayInfo screenSize
  if s.hasPointerDevice then
    let s ← s.getMouseInfo
    let _ ← s.mouseDisplayId
    some s
  else some s

def updateDisplayInfo (s : DisplayService) (screenSize : ScreenSize) (group : DisplayGroupInfo)
    (notify : List DisplayCall) : Option DisplayService := do
  let s := { s with
    motion := { s.motion with displayGroupInfo := group }
    pointerStyle := s.pointerStyle.updatePointerStyle group }
  let s ← if !group.displaysInfo.isEmpty then s.refreshPointer screenSize else some s
  if s.hasPointerDevice then notify.foldlM call s else some s

/-- The state after the input, if no first display of an empty list was read. -/
def handle (s : DisplayService) : DisplayInput → Option DisplayService
  | .updateDisplayInfo screenSize group notify => s.updateDisplayInfo screenSize group notify
  | .updatePointerDevice hasPointerDevice => some { s with hasPointerDevice }
  | .setPointerStyle hasIcon pid windowId pointerStyle =>
      s.setPointerStyle hasIcon pid windowId pointerStyle
  | .setPointerVisible _ _ => some s
  | .onSessionLost pid => some { s with pointerStyle := s.pointerStyle.onSessionLost pid }
  | .event calls => calls.foldlM call s

/-- A run is over where `handle` has no result. -/
def step (s : DisplayService) (i : DisplayInput) : DisplayService := (s.handle i).getD s

end DisplayService

/-! ## The functions that look before -/

namespace DisplayGroupInfo

variable {group : DisplayGroupInfo}

@[simp] theorem firstDisplay_isSome_iff : group.firstDisplay.isSome ↔ group.displaysInfo ≠ [] := by
  simp [firstDisplay]

theorem getDisplayId_isSome (targetDisplayId : Int32) :
    (group.getDisplayId targetDisplayId).isSome := by
  unfold getDisplayId
  split
  · split
    · rfl
    · rename_i hdisplays
      rw [Option.isSome_map, firstDisplay_isSome_iff]
      simpa using hdisplays
  · rfl

/-- `UpdateDisplayId` as it is known from the targets. -/
theorem checkDisplayId_eq (displayId : Int32) :
    group.checkDisplayId displayId
      = some (match group.updateDisplayId displayId with
        | some found => (true, found)
        | none => (false, displayId)) := by
  unfold checkDisplayId updateDisplayId
  cases hdisplays : group.displaysInfo with
  | nil => rfl
  | cons first rest =>
    by_cases hwindows : group.windowsInfo.isEmpty = true
    · simp [hwindows]
    · by_cases hnegative : displayId < 0
      · simp [hwindows, hnegative, firstDisplay, hdisplays]
      · by_cases hfound : (first :: rest).any (fun item => item.id = displayId) = true
        · simp only [List.isEmpty_cons, Bool.false_eq_true, if_false, hwindows, hnegative, hfound,
            if_true]
        · simp only [List.isEmpty_cons, Bool.false_eq_true, if_false, hwindows, hnegative, hfound]

end DisplayGroupInfo

namespace DisplayService

variable {s : DisplayService}

/-- `GetMouseInfo` has a result, with the same layout and display. -/
theorem getMouseInfo_some (s : DisplayService) :
    ∃ s', s.getMouseInfo = some s' ∧ s'.group = s.group ∧
      s'.motion.currentDisplayId = s.motion.currentDisplayId := by
  unfold getMouseInfo
  split
  · cases hdisplays : s.group.displaysInfo with
    | nil => exact ⟨s, by simp, rfl, rfl⟩
    | cons first rest =>
      refine ⟨{ s with motion := { s.motion with
        mouseLocation := ⟨first.width / 2, first.height / 2⟩ } }, ?_, rfl, rfl⟩
      simp [DisplayGroupInfo.firstDisplay, hdisplays]
  · exact ⟨s, rfl, rfl, rfl⟩

theorem mouseDisplayId_isSome_iff :
    s.mouseDisplayId.isSome ↔ 0 ≤ s.motion.currentDisplayId ∨ s.group.displaysInfo ≠ [] := by
  unfold mouseDisplayId
  split
  · rename_i hnegative
    rw [Option.isSome_map, DisplayGroupInfo.firstDisplay_isSome_iff]
    simp [Int32.not_le.mpr hnegative]
  · rename_i hnot
    simp [Int32.not_lt.mp hnot]

/-- The function that does not look. -/
theorem isNeedRefreshLayer_isSome_iff (windowId : Int32) :
    (s.isNeedRefreshLayer windowId).isSome ↔
      0 ≤ s.motion.currentDisplayId ∨ s.group.displaysInfo ≠ [] := by
  obtain ⟨s', hmouse, hgroup, hdisplay⟩ := getMouseInfo_some s
  rw [← hgroup, ← hdisplay, ← mouseDisplayId_isSome_iff]
  simp only [isNeedRefreshLayer, hmouse, Option.bind_eq_bind, Option.bind_some]
  cases s'.mouseDisplayId with
  | none => simp
  | some displayId =>
    simp only [Option.bind_some, Option.isSome_some, iff_true]
    split
    · rfl
    · split <;> rfl

/-- With a display `OnDisplayInfo` is what it is for the motions. -/
theorem onDisplayInfo_some (screenSize : ScreenSize) (h : s.group.displaysInfo ≠ []) :
    s.onDisplayInfo screenSize = some { s with motion := s.motion.onDisplayInfo screenSize } := by
  unfold onDisplayInfo MotionService.onDisplayInfo
  cases hfound : s.motion.displayGroupInfo.getPhysicalDisplay s.motion.displayInfo.id with
  | some item => simp [group, hfound]
  | none =>
    cases hdisplays : s.motion.displayGroupInfo.displaysInfo with
    | nil => exact absurd hdisplays h
    | cons first rest => simp [group, hfound, DisplayGroupInfo.firstDisplay, hdisplays]

theorem onDisplayInfo_displayGroupInfo (s : MotionService) (screenSize : ScreenSize) :
    (s.onDisplayInfo screenSize).displayGroupInfo = s.displayGroupInfo := by
  unfold MotionService.onDisplayInfo
  split
  · rfl
  · split
    · rfl
    · unfold MotionService.onDisplayLost
      split <;> simp

theorem call_isSome (s : DisplayService) (c : DisplayCall) : (s.call c).isSome := by
  cases c with
  | getDisplayId targetDisplayId =>
    rw [call, Option.isSome_map]
    exact DisplayGroupInfo.getDisplayId_isSome targetDisplayId
  | updateDisplayId displayId =>
    rw [call, Option.isSome_map, DisplayGroupInfo.checkDisplayId_eq]
    rfl
  | getMouseInfo =>
    obtain ⟨s', hmouse, _⟩ := getMouseInfo_some s
    rw [call, hmouse]
    rfl
  | moved currentDisplayId mouseLocation displayInfo => rfl

theorem foldlM_call_isSome (calls : List DisplayCall) (s : DisplayService) :
    (calls.foldlM call s).isSome := by
  induction calls generalizing s with
  | nil => rfl
  | cons c calls ih =>
    rw [List.foldlM_cons]
    cases hcall : s.call c with
    | none =>
      have hsome := call_isSome s c
      rw [hcall] at hsome
      cases hsome
    | some s' => exact ih s'

/-- The layout has a display, so there is a first one to read. -/
theorem refreshPointer_isSome (screenSize : ScreenSize) (h : s.group.displaysInfo ≠ []) :
    (s.refreshPointer screenSize).isSome := by
  simp only [refreshPointer, onDisplayInfo_some screenSize h, Option.bind_eq_bind,
    Option.bind_some]
  split
  · obtain ⟨s', hmouse, hgroup, _⟩ :=
      getMouseInfo_some { s with motion := s.motion.onDisplayInfo screenSize }
    have hdisplays : s'.group.displaysInfo ≠ [] := by
      rw [hgroup]
      show (s.motion.onDisplayInfo screenSize).displayGroupInfo.displaysInfo ≠ []
      rw [onDisplayInfo_displayGroupInfo]
      exact h
    have hread := mouseDisplayId_isSome_iff.mpr (.inr hdisplays)
    rw [hmouse]
    simp only [Option.bind_some]
    cases hid : s'.mouseDisplayId with
    | none =>
      rw [hid] at hread
      cases hread
    | some displayId => rfl
  · rfl

theorem updateDisplayInfo_isSome (s : DisplayService) (screenSize : ScreenSize)
    (group : DisplayGroupInfo) (notify : List DisplayCall) :
    (s.updateDisplayInfo screenSize group notify).isSome := by
  have hnotify : ∀ s : DisplayService,
      (if s.hasPointerDevice then notify.foldlM call s else some s).isSome := by
    intro s
    split
    · exact foldlM_call_isSome notify s
    · rfl
  simp only [updateDisplayInfo, Option.bind_eq_bind]
  cases hdisplays : group.displaysInfo.isEmpty with
  | true => exact hnotify _
  | false =>
    have hne : group.displaysInfo ≠ [] := by
      simpa using hdisplays
    obtain ⟨s', hs'⟩ := Option.isSome_iff_exists.mp
      (@refreshPointer_isSome { s with
        motion := { s.motion with displayGroupInfo := group }
        pointerStyle := s.pointerStyle.updatePointerStyle group } screenSize hne)
    simp only [Bool.not_false, if_true, hs', Option.bind_some]
    exact hnotify s'

/-! ## Every run -/

/-- The request gets to `IsNeedRefreshLayer`. -/
def Refreshes (s : DisplayService) (hasIcon : Bool) (pid windowId pointerStyle : Int32) : Prop :=
  hasIcon = true ∧ (s.pointerStyle.setPointerStyle pid windowId pointerStyle).1 = retOk ∧
    s.hasPointerDevice = true

/-- No first display of an empty list is read. -/
def ReadsDisplays (s : DisplayService) (i : DisplayInput) : Prop := (s.handle i).isSome = true

/-- A style that is set while there is a pointer device, is so on a display. -/
def HasDisplay (s : DisplayService) : DisplayInput → Prop
  | .setPointerStyle hasIcon pid windowId pointerStyle =>
      s.Refreshes hasIcon pid windowId pointerStyle →
        0 ≤ s.motion.currentDisplayId ∨ s.group.displaysInfo ≠ []
  | .updateDisplayInfo .. => True
  | .updatePointerDevice _ => True
  | .setPointerVisible .. => True
  | .onSessionLost _ => True
  | .event _ => True

theorem setPointerStyle_isSome_iff (hasIcon : Bool) (pid windowId pointerStyle : Int32) :
    (s.setPointerStyle hasIcon pid windowId pointerStyle).isSome ↔
      (s.Refreshes hasIcon pid windowId pointerStyle →
        0 ≤ s.motion.currentDisplayId ∨ s.group.displaysInfo ≠ []) := by
  simp only [setPointerStyle, Refreshes]
  cases hasIcon with
  | false => simp
  | true =>
    by_cases hset : (s.pointerStyle.setPointerStyle pid windowId pointerStyle).1 = retOk
    · cases hdevice : s.hasPointerDevice with
      | false => simp [hset]
      | true =>
        simp only [Bool.not_true, Bool.false_eq_true, if_false, hset, ne_eq, not_true_eq_false,
          Option.isSome_map, forall_const, and_self]
        exact isNeedRefreshLayer_isSome_iff windowId
    · simp [hset]

theorem readsDisplays_iff (s : DisplayService) (i : DisplayInput) :
    s.ReadsDisplays i ↔ s.HasDisplay i := by
  cases i with
  | updateDisplayInfo screenSize group notify =>
    exact iff_of_true (updateDisplayInfo_isSome s screenSize group notify) trivial
  | updatePointerDevice hasPointerDevice => exact iff_of_true rfl trivial
  | setPointerStyle hasIcon pid windowId pointerStyle =>
    exact setPointerStyle_isSome_iff hasIcon pid windowId pointerStyle
  | setPointerVisible pid visible => exact iff_of_true rfl trivial
  | onSessionLost pid => exact iff_of_true rfl trivial
  | event calls => exact iff_of_true (foldlM_call_isSome calls s) trivial

/-- In every run no first display of an empty list is read precisely if each
style that is set while there is a pointer device finds a display known. -/
theorem displayReads_iff (speed : Fin 11) (is : List DisplayInput) :
    AllSteps step ReadsDisplays (create speed) is ↔ AllSteps step HasDisplay (create speed) is :=
  allSteps_congr readsDisplays_iff is _

end DisplayService

/-! ## Windows without a display -/

/-- A layout of one window of process 10 and no display, a mouse, and a style
for the window. -/
def styleWithoutDisplay : List DisplayInput :=
  [.updateDisplayInfo none ⟨1, [⟨1, 10, ⟨0, 0, 50, 50⟩, [], [], 1, 0⟩], []⟩ [],
    .updatePointerDevice true, .setPointerStyle true 10 1 2]

theorem counterexample_displayReads :
    ¬ AllSteps DisplayService.step DisplayService.ReadsDisplays (.create 0)
      styleWithoutDisplay := by
  rintro ⟨_, _, hread, _⟩
  revert hread
  unfold DisplayService.ReadsDisplays
  decide +kernel

end FtMmi.WindowManager
