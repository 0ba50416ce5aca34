/-
FtMmi.WindowManager.PointerDrawingManager — the window the pointer is drawn
in (`pointer_drawing_manager.cpp`).

Operations on the window and on its layer succeed. The window has a place,
is shown or hidden, and has in it the icon of a style at a size. What the
window manager answers, the style of a window or if a layer is to be
refreshed, comes with the call. An empty list of displays does not get to
`OnDisplayInfo`. The display id of a new window is left out, and so is
what the icons look like.

`DeletePointerVisible` compares an iterator it has just erased with the end,
which tells that there was an entry.
-/
import FtMmi.WindowManager.DisplayInfo
import Mathlib.Logic.Function.Basic

namespace FtMmi.WindowManager

/-! ## Icons -/

inductive IconType where
  | angleE
  | angleS
  | angleW
  | angleN
  | angleSE
  | angleNE
  | angleSW
  | angleNW
  | angleCenter
  deriving DecidableEq, Repr

/-- The styles of `InitStyle` with their alignment. -/
def iconStyles : List (Int32 × IconType) :=
  [(0, .angleNW), (1, .angleCenter), (2, .angleCenter), (3, .angleCenter), (4, .angleCenter),
   (5, .angleCenter), (6, .angleCenter), (7, .angleCenter), (8, .angleCenter), (9, .angleCenter),
   (10, .angleCenter), (11, .angleCenter), (12, .angleCenter), (13, .angleCenter), (14, .angleNW),
   (15, .angleNW), (16, .angleSW), (17, .angleCenter), (18, .angleCenter), (19, .angleNW),
   (20, .angleNW), (21, .angleCenter), (22, .angleCenter), (23, .angleCenter), (24, .angleCenter),
   (25, .angleCenter), (26, .angleCenter), (27, .angleCenter), (28, .angleCenter),
   (29, .angleCenter), (30, .angleCenter), (31, .angleCenter), (32, .angleCenter),
   (33, .angleCenter), (34, .angleCenter), (35, .angleCenter), (36, .angleCenter),
   (37, .angleCenter), (38, .angleCenter)]

/-- An icon as it is drawn. -/
structure Image where
  style : Int32
  width : Int32
  height : Int32
  deriving DecidableEq, Repr

/-! ## Visibility requests -/

structure PidInfo where
  pid : Int32
  visible : Bool
  deriving DecidableEq, Repr

/-- `pidInfos_`, one entry for a process. -/
@[ext] structure PidInfos where
  infos : List PidInfo
  nodup : (infos.map PidInfo.pid).Nodup

namespace PidInfos

def empty : PidInfos := ⟨[], List.nodup_nil⟩

/-- The loop that takes the entry of a process out. -/
def erase (p : PidInfos) (pid : Int32) : PidInfos where
  infos := p.infos.eraseP fun info => info.pid = pid
  nodup := p.nodup.sublist (List.eraseP_sublist.map _)

/-- With one entry for a process, all of its entries go. -/
theorem infos_erase (p : PidInfos) (pid : Int32) :
    (p.erase pid).infos = p.infos.filter fun info => info.pid ≠ pid := by
  obtain ⟨infos, hnodup⟩ := p
  show infos.eraseP _ = _
  induction infos with
  | nil => rfl
  | cons info infos ih =>
    obtain ⟨hnotin, hrest⟩ := List.nodup_cons.mp hnodup
    by_cases hpid : info.pid = pid
    · have hothers : ∀ other ∈ infos, other.pid ≠ pid := by
        intro other hmem heq
        exact hnotin (List.mem_map.mpr ⟨other, hmem, heq.trans hpid.symm⟩)
      rw [List.eraseP_cons_of_pos (by simpa using hpid), List.filter_cons_of_neg (by simpa using hpid)]
      exact (List.filter_eq_self.mpr fun other hmem => by simpa using hothers other hmem).symm
    · rw [List.eraseP_cons_of_neg (by simpa using hpid),
        List.filter_cons_of_pos (by simpa using hpid), ih hrest]

/-- The new entry of a process goes to the end. -/
def push (p : PidInfos) (pid : Int32) (visible : Bool) : PidInfos where
  infos := (p.erase pid).infos ++ [⟨pid, visible⟩]
  nodup := by
    rw [List.map_append, List.nodup_append]
    refine ⟨(p.erase pid).nodup, by simp, ?_⟩
    intro a ha b hb heq
    obtain rfl : b = pid := by simpa using hb
    rw [infos_erase, List.mem_map] at ha
    obtain ⟨info, hmem, rfl⟩ := ha
    simp [heq] at hmem

end PidInfos

/-! ## State -/

/-- A window of the window system. -/
structure PointerWindow where
  x : Int32
  y : Int32
  shown : Bool
  drawn : Option Image
  deriving DecidableEq, Repr

structure PointerDrawingManager where
  pointerWindow : Option PointerWindow
  hasDisplay : Bool
  displayInfo : DisplayInfo
  hasPointerDevice : Bool
  lastPhysicalX : Int32
  lastPhysicalY : Int32
  lastMouseStyle : Int32
  imageWidth : Int32
  imageHeight : Int32
  mouseIcons : Int32 → Option IconType
  pidInfos : PidInfos
  mouseDisplayState : Bool

namespace PointerDrawingManager

/-- A style whose file cannot be read has no icon. -/
def create (readable : Int32 → Bool) : PointerDrawingManager where
  pointerWindow := none
  hasDisplay := false
  displayInfo := ⟨0, 0, 0, 0, 0, "", .direction0⟩
  hasPointerDevice := false
  lastPhysicalX := -1
  lastPhysicalY := -1
  lastMouseStyle := -1
  imageWidth := 0
  imageHeight := 0
  mouseIcons := fun style => if readable style then iconStyles.lookup style else none
  pidInfos := .empty
  mouseDisplayState := false

/-! ## Icons and places -/

/-- `mouseIcons_[style]`, which adds an icon with the alignment 0 for a style
that has none. -/
def alignmentWay (s : PointerDrawingManager) (style : Int32) : IconType :=
  (s.mouseIcons style).getD .angleE

def lookUpIcon (s : PointerDrawingManager) (style : Int32) : PointerDrawingManager :=
  { s with mouseIcons := Function.update s.mouseIcons style (some (s.alignmentWay style)) }

def adjustMouseFocus (s : PointerDrawingManager) (iconType : IconType)
    (physicalX physicalY : Int32) : Int32 × Int32 :=
  match iconType with
  | .angleSW => (physicalX, physicalY - s.imageHeight)
  | .angleCenter => (physicalX - s.imageWidth / 2, physicalY - s.imageHeight / 2)
  | _ => (physicalX, physicalY)

def cursorUnit : Int32 := 16

/-- The upper ends of `FixCursorPosition`. -/
def limits (s : PointerDrawingManager) : Int32 × Int32 :=
  if s.displayInfo.direction = .direction0 ∨ s.displayInfo.direction = .direction180 then
    (s.displayInfo.width - s.imageWidth / cursorUnit,
      s.displayInfo.height - s.imageHeight / cursorUnit)
  else
    (s.displayInfo.height - s.imageHeight / cursorUnit,
      s.displayInfo.width - s.imageWidth / cursorUnit)

def fixCursorPosition (s : PointerDrawingManager) (physicalX physicalY : Int32) : Int32 × Int32 :=
  let physicalX := if physicalX < 0 then 0 else physicalX
  let physicalY := if physicalY < 0 then 0 else physicalY
  (if s.limits.1 < physicalX then s.limits.1 else physicalX,
    if s.limits.2 < physicalY then s.limits.2 else physicalY)

/-! ## The window -/

def moveTo (s : PointerDrawingManager) (x y : Int32) : PointerDrawingManager :=
  { s with pointerWindow := s.pointerWindow.map fun window => { window with x, y } }

/-- `InitLayer`, which fails without a window. -/
def initLayer (s : PointerDrawingManager) (mouseStyle : Int32) : PointerDrawingManager :=
  match s.pointerWindow with
  | none => s
  | some window =>
      { s with
        pointerWindow := some
          { window with drawn := some ⟨mouseStyle, s.imageWidth, s.imageHeight⟩ } }.lookUpIcon
        mouseStyle

def isPointerVisible (s : PointerDrawingManager) : Bool :=
  match s.pidInfos.infos.getLast? with
  | none => true
  | some info => info.visible

def updatePointerVisible (s : PointerDrawingManager) : PointerDrawingManager :=
  { s with
    pointerWindow := s.pointerWindow.map fun window =>
      { window with shown := s.isPointerVisible && s.mouseDisplayState } }

/-- A new window is hidden. -/
def createPointerWindow (s : PointerDrawingManager) (physicalX physicalY : Int32) :
    PointerDrawingManager :=
  { s with pointerWindow := some ⟨physicalX, physicalY, false, none⟩ }

def destroy (s : PointerDrawingManager) : PointerDrawingManager := { s with pointerWindow := none }

def drawPointer (s : PointerDrawingManager) (physicalX physicalY mouseStyle : Int32) :
    PointerDrawingManager :=
  let fixed := s.fixCursorPosition physicalX physicalY
  let s := { s with lastPhysicalX := fixed.1, lastPhysicalY := fixed.2 }
  let adjusted := s.adjustMouseFocus (s.alignmentWay mouseStyle) fixed.1 fixed.2
  let s := s.lookUpIcon mouseStyle
  match s.pointerWindow with
  | some _ =>
      let s := s.moveTo (adjusted.1 + s.displayInfo.x) (adjusted.2 + s.displayInfo.y)
      if s.lastMouseStyle = mouseStyle then s
      else ({ s with lastMouseStyle := mouseStyle }.initLayer mouseStyle).updatePointerVisible
  | none =>
      ((s.createPointerWindow adjusted.1 adjusted.2).initLayer mouseStyle).updatePointerVisible

/-- Where `DrawManager` and `DrawPointerStyle` draw. -/
def drawAtLast (s : PointerDrawingManager) (mouseStyle : Int32) : PointerDrawingManager :=
  if s.lastPhysicalX = -1 ∨ s.lastPhysicalY = -1 then
    s.drawPointer (s.displayInfo.width / 2) (s.displayInfo.height / 2) mouseStyle
  else s.drawPointer s.lastPhysicalX s.lastPhysicalY mouseStyle

/-- `mouseStyle` is what `GetPointerStyle` finds. -/
def drawManager (s : PointerDrawingManager) (mouseStyle : Option Int32) : PointerDrawingManager :=
  if s.hasDisplay && s.hasPointerDevice && s.pointerWindow.isNone then
    match mouseStyle with
    | none => s
    | some mouseStyle => s.drawAtLast mouseStyle
  else if !s.hasPointerDevice && s.pointerWindow.isSome then s.destroy
  else s

def drawPointerStyle (s : PointerDrawingManager) (mouseStyle : Option Int32) :
    PointerDrawingManager :=
  if s.hasDisplay && s.hasPointerDevice then
    match mouseStyle with
    | none => s
    | some mouseStyle => s.drawAtLast mouseStyle
  else s

/-! ## Displays -/

def phoneScreenWidth : Int32 := 2160

def padScreenWidth : Int32 := 2560

/-- The width and the height of an icon on a display. -/
def imageSize (displayInfo : DisplayInfo) : Int32 :=
  if phoneScreenWidth ≤ displayInfo.width ∨ phoneScreenWidth ≤ displayInfo.height then
    if displayInfo.width = padScreenWidth ∨ displayInfo.height = padScreenWidth then 60 else 80
  else 40

def updateDisplayInfo (s : PointerDrawingManager) (displayInfo : DisplayInfo) :
    PointerDrawingManager :=
  { s with
    hasDisplay := true
    displayInfo
    imageWidth := imageSize displayInfo
    imageHeight := imageSize displayInfo }

def onDisplayInfo (s : PointerDrawingManager) (displayGroupInfo : DisplayGroupInfo)
    (mouseStyle : Option Int32) : PointerDrawingManager :=
  match displayGroupInfo.getPhysicalDisplay s.displayInfo.id with
  | some item => (s.updateDisplayInfo item).drawManager mouseStyle
  | none =>
      match displayGroupInfo.displaysInfo with
      | [] => s
      | first :: _ =>
          { s.updateDisplayInfo first with
            lastPhysicalX := first.width / 2, lastPhysicalY := first.height / 2 }.destroy

/-! ## Requests -/

def setMouseDisplayState (s : PointerDrawingManager) (state : Bool) : PointerDrawingManager :=
  if s.mouseDisplayState ≠ state then
    let s := { s with mouseDisplayState := state }
    (if s.mouseDisplayState then s.initLayer s.lastMouseStyle else s).updatePointerVisible
  else s

def setPointerVisible (s : PointerDrawingManager) (pid : Int32) (visible : Bool) :
    PointerDrawingManager :=
  let s := { s with pidInfos := s.pidInfos.push pid visible }
  (if visible then s.initLayer s.lastMouseStyle else s).updatePointerVisible

def deletePointerVisible (s : PointerDrawingManager) (pid : Int32) : PointerDrawingManager :=
  if s.pidInfos.infos.any fun info => info.pid = pid then
    let s := { s with pidInfos := s.pidInfos.erase pid }
    (if s.isPointerVisible then s.initLayer s.lastMouseStyle else s).updatePointerVisible
  else s

def setPointerLocation (s : PointerDrawingManager) (pid x y : Int32) : PointerDrawingManager :=
  let fixed := s.fixCursorPosition x y
  let s := { s with lastPhysicalX := fixed.1, lastPhysicalY := fixed.2 }
  if s.pointerWindow.isSome then (s.moveTo fixed.1 fixed.2).setPointerVisible pid true else s

/-- `refresh`: the window manager has taken the style, there is a pointer
device and the pointer is on the window. -/
def setPointerStyle (s : PointerDrawingManager) (refresh : Bool) (pointerStyle : Int32) :
    PointerDrawingManager :=
  if (s.mouseIcons pointerStyle).isNone then s
  else if !refresh then s
  else
    let s :=
      if s.pointerWindow.isSome then
        let adjusted := s.adjustMouseFocus (s.alignmentWay pointerStyle) s.lastPhysicalX
          s.lastPhysicalY
        let s := s.moveTo (adjusted.1 + s.displayInfo.x) (adjusted.2 + s.displayInfo.y)
        { s with lastMouseStyle := pointerStyle }.initLayer pointerStyle
      else s
    s.updatePointerVisible

/-- `UpdatePointerDevice`; `getpid` is the service's own process. -/
def updatePointerDevice (s : PointerDrawingManager) (getpid : Int32)
    (hasPointerDevice isPointerVisible : Bool) (mouseStyle : Option Int32) :
    PointerDrawingManager :=
  let s := { s with hasPointerDevice }
  (if s.hasPointerDevice then s.setPointerVisible getpid isPointerVisible
    else s.deletePointerVisible getpid).drawManager mouseStyle

end PointerDrawingManager

/-! ## Steps -/

inductive DrawingInput where
  | drawPointer (physicalX physicalY mouseStyle : Int32)
  | drawPointerStyle (mouseStyle : Option Int32)
  | setPointerLocation (pid x y : Int32)
  | setPointerStyle (refresh : Bool) (pointerStyle : Int32)
  | onDisplayInfo (displayGroupInfo : DisplayGroupInfo) (mouseStyle : Option Int32)
  | updatePointerDevice (getpid : Int32) (hasPointerDevice isPointerVisible : Bool)
      (mouseStyle : Option Int32)
  | setPointerVisible (pid : Int32) (visible : Bool)
  | deletePointerVisible (pid : Int32)
  | setMouseDisplayState (state : Bool)

namespace PointerDrawingManager

def step (s : PointerDrawingManager) : DrawingInput → PointerDrawingManager
  | .drawPointer physicalX physicalY mouseStyle => s.drawPointer physicalX physicalY mouseStyle
  | .drawPointerStyle mouseStyle => s.drawPointerStyle mouseStyle
  | .setPointerLocation pid x y => s.setPointerLocation pid x y
  | .setPointerStyle refresh pointerStyle => s.setPointerStyle refresh pointerStyle
  | .onDisplayInfo displayGroupInfo mouseStyle => s.onDisplayInfo displayGroupInfo mouseStyle
  | .updatePointerDevice getpid hasPointerDevice isPointerVisible mouseStyle =>
      s.updatePointerDevice getpid hasPointerDevice isPointerVisible mouseStyle
  | .setPointerVisible pid visible => s.setPointerVisible pid visible
  | .deletePointerVisible pid => s.deletePointerVisible pid
  | .setMouseDisplayState state => s.setMouseDisplayState state

end PointerDrawingManager

end FtMmi.WindowManager
