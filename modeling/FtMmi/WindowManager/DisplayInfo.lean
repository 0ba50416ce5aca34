/-
FtMmi.WindowManager.DisplayInfo — windows and displays (`display_info.h`)
and the questions asked of a layout (`input_windows_manager.cpp`).

A coordinate is an `int32_t`. Sums that the source checks are `addInt32`;
the others are the wrapping operations of `Int32`. The uid of a window,
the name of a display and the size of the group are not used here and
are left out.
-/
import FtMmi.Util.Config

namespace FtMmi.WindowManager

/-! ## Data -/

inductive Direction where
  | direction0
  | direction90
  | direction180
  | direction270
  deriving DecidableEq, Repr

structure Rect where
  x : Int32
  y : Int32
  width : Int32
  height : Int32
  deriving DecidableEq, Repr

structure WindowInfo where
  id : Int32
  pid : Int32
  area : Rect
  defaultHotAreas : List Rect
  pointerHotAreas : List Rect
  agentWindowId : Int32
  flags : UInt32
  deriving DecidableEq, Repr

structure DisplayInfo where
  id : Int32
  x : Int32
  y : Int32
  width : Int32
  height : Int32
  uniq : String
  direction : Direction
  deriving DecidableEq, Repr

/-- The windows in Z order, the top window first. -/
structure DisplayGroupInfo where
  focusWindowId : Int32
  windowsInfo : List WindowInfo
  displaysInfo : List DisplayInfo
  deriving DecidableEq, Repr

/-! ## Arithmetic -/

/-- `AddInt32`: the sum, if there is no overflow. -/
def addInt32 (op1 op2 : Int32) : Option Int32 :=
  let res := op1.toInt + op2.toInt
  if -2 ^ 31 ≤ res ∧ res < 2 ^ 31 then some (op1 + op2) else none

/-! ## Windows -/

def flagBitUntouchable : UInt32 := 1

def WindowInfo.untouchable (window : WindowInfo) : Bool :=
  window.flags &&& flagBitUntouchable = flagBitUntouchable

/-- `IsInHotArea`. A rectangle whose end overflows ends the search. -/
def isInHotArea (x y : Int32) : List Rect → Bool
  | [] => false
  | item :: rects =>
      match addInt32 item.x item.width with
      | none => false
      | some displayMaxX =>
          match addInt32 item.y item.height with
          | none => false
          | some displayMaxY =>
              if item.x ≤ x ∧ x < displayMaxX ∧ item.y ≤ y ∧ y < displayMaxY then true
              else isInHotArea x y rects

namespace DisplayGroupInfo

def empty : DisplayGroupInfo := ⟨0, [], []⟩

/-- The search for a window by its id. -/
def findWindow (group : DisplayGroupInfo) (windowId : Int32) : Option WindowInfo :=
  group.windowsInfo.find? fun item => item.id = windowId

def getWindowPid (group : DisplayGroupInfo) (windowId : Int32) : Int32 :=
  match group.findWindow windowId with
  | some item => item.pid
  | none => -1

/-- `GetWindowInfo`: the top window that takes the mouse at a point. -/
def getWindowInfo (group : DisplayGroupInfo) (logicalX logicalY : Int32) : Option WindowInfo :=
  group.windowsInfo.find? fun item =>
    !item.untouchable && isInHotArea logicalX logicalY item.pointerHotAreas

/-- The loop of `UpdateTouchScreenTarget`: the window a finger is on already,
if `targetWindowId` names one, or the top window at the point. -/
def findTouchWindow (group : DisplayGroupInfo) (targetWindowId logicalX logicalY : Int32) :
    Option WindowInfo :=
  group.windowsInfo.find? fun item =>
    !item.untouchable &&
      if 0 ≤ targetWindowId then item.id = targetWindowId
      else isInHotArea logicalX logicalY item.defaultHotAreas

/-! ## Displays -/

def getPhysicalDisplay (group : DisplayGroupInfo) (id : Int32) : Option DisplayInfo :=
  group.displaysInfo.find? fun item => item.id = id

def findPhysicalDisplayInfo (group : DisplayGroupInfo) (uniq : String) : Option DisplayInfo :=
  group.displaysInfo.find? fun item => item.uniq = uniq

/-- `UpdateDisplayId`: the display meant by an id, if there is one. -/
def updateDisplayId (group : DisplayGroupInfo) (displayId : Int32) : Option Int32 :=
  match group.displaysInfo with
  | [] => none
  | first :: _ =>
      if group.windowsInfo.isEmpty then none
      else if displayId < 0 then some first.id
      else if group.displaysInfo.any (fun item => item.id = displayId) then some displayId
      else none

end DisplayGroupInfo

/-- `AdjustDisplayCoordinate` in one direction. -/
def adjustCoordinate (size physical : Int32) : Int32 :=
  let physical := if physical ≤ 0 then 0 else physical
  if size ≤ physical ∧ 0 < size then size - 1 else physical

def adjustDisplayCoordinate (displayInfo : DisplayInfo) (physicalX physicalY : Int32) :
    Int32 × Int32 :=
  let upright := displayInfo.direction = .direction0 ∨ displayInfo.direction = .direction180
  let width := if upright then displayInfo.width else displayInfo.height
  let height := if upright then displayInfo.height else displayInfo.width
  (adjustCoordinate width physicalX, adjustCoordinate height physicalY)

/-- `RotateTouchScreen` -/
def rotateTouchScreen (info : DisplayInfo) (coord : Int32 × Int32) : Int32 × Int32 :=
  match info.direction with
  | .direction0 => coord
  | .direction90 => (info.height - coord.2, coord.1)
  | .direction180 => (info.width - coord.1, info.height - coord.2)
  | .direction270 => (coord.2, info.width - coord.1)

/-! ## What the searches find -/

theorem DisplayGroupInfo.findWindow_id {group : DisplayGroupInfo} {windowId : Int32}
    {window : WindowInfo} (h : group.findWindow windowId = some window) : window.id = windowId := by
  simpa using List.find?_some h

/-- A finger that is on a window stays on it or is on none. -/
theorem DisplayGroupInfo.findTouchWindow_id {group : DisplayGroupInfo}
    {targetWindowId logicalX logicalY : Int32} {window : WindowInfo} (ht : 0 ≤ targetWindowId)
    (h : group.findTouchWindow targetWindowId logicalX logicalY = some window) :
    window.id = targetWindowId := by
  have hfound := List.find?_some h
  simp only [if_pos ht, Bool.and_eq_true, decide_eq_true_eq] at hfound
  exact hfound.2

theorem DisplayGroupInfo.findTouchWindow_mem {group : DisplayGroupInfo}
    {targetWindowId logicalX logicalY : Int32} {window : WindowInfo}
    (h : group.findTouchWindow targetWindowId logicalX logicalY = some window) :
    window ∈ group.windowsInfo ∧ window.untouchable = false := by
  have hfound := List.find?_some h
  refine ⟨List.mem_of_find?_eq_some h, ?_⟩
  simp only [Bool.and_eq_true, Bool.not_eq_true'] at hfound
  exact hfound.1

end FtMmi.WindowManager
