/-
FtMmi.MouseEventNormalize.MouseMotion — where a motion takes the mouse, and
on which display (`mouse_event_normalize.cpp`,
`InputWindowsManager::UpdateAndAdjustMouseLocation`,
`PointerDrawingManager::OnDisplayInfo`).

The state is what these three remember: the normaliser its display and the
position there, the window manager the layout and the location, the drawing
manager the display it drew on. A `double` is a rational number, and what is
computed with it is exact: no rounding and no overflow of a `double` is seen
here.

The size of the screen is what the drawing library answers, if it does. From
`UpdateMouseTarget` only the call of the drawing manager matters here; a
report says whether it is reached, that is, whether there is a window with a
style below the mouse.
-/
import FtMmi.WindowManager.InputWindowsManager

namespace FtMmi.MouseEventNormalize

open FtMmi.WindowManager

/-! ## Acceleration -/

structure AccelerateCurve where
  speeds : List Int32
  slopes : List ℚ
  diffNums : List ℚ

/-- `ACCELERATE_CURVES`: the slopes and the differences, which end a bend at
the same speeds in every row. -/
def accelerateCurve (slopes diffNums : List ℚ) : AccelerateCurve := ⟨[8, 32, 128], slopes, diffNums⟩

def accelerateCurves : Fin 11 → AccelerateCurve
  | 0 => accelerateCurve [0.16, 0.30, 0.56] [0.0, -1.12, -9.44]
  | 1 => accelerateCurve [0.32, 0.60, 1.12] [0.0, -2.24, -18.88]
  | 2 => accelerateCurve [0.48, 0.90, 1.68] [0.0, -3.36, -28.32]
  | 3 => accelerateCurve [0.64, 1.20, 2.24] [0.0, -4.48, -37.76]
  | 4 => accelerateCurve [0.80, 1.50, 2.80] [0.0, -5.60, -47.20]
  | 5 => accelerateCurve [0.86, 1.95, 3.64] [0.0, -8.72, -62.80]
  | 6 => accelerateCurve [0.92, 2.40, 4.48] [0.0, -11.84, -78.40]
  | 7 => accelerateCurve [0.98, 2.85, 5.32] [0.0, -14.96, -94.00]
  | 8 => accelerateCurve [1.04, 3.30, 6.16] [0.0, -18.08, -109.60]
  | 9 => accelerateCurve [1.10, 3.75, 7.00] [0.0, -21.20, -125.20]
  | 10 => accelerateCurve [1.16, 4.20, 7.84] [0.0, -24.32, -140.80]

/-- The slope and the difference of the first bend that reaches `num`, or the
last ones. -/
def AccelerateCurve.bend (curve : AccelerateCurve) (num : ℤ) : ℚ × ℚ :=
  let i := curve.speeds.findIdx fun speed => num ≤ speed.toInt
  (curve.slopes.getD i (curve.slopes.getLastD 0), curve.diffNums.getD i (curve.diffNums.getLastD 0))

/-- `GetSpeedGain`. `SetPointerSpeed` keeps `speed_` from 1 to 11; here it
counts from 0. -/
def getSpeedGain (speed : Fin 11) (vin : ℚ) : Option ℚ :=
  if |vin| < 1 / 1000000 then none
  else
    let (slope, diffNum) := (accelerateCurves speed).bend ⌈|vin|⌉
    some ((slope * vin + diffNum) / vin)

/-- The speed of a motion. -/
def motionSpeed (dx dy : ℚ) : ℚ := (max |dx| |dy| + min |dx| |dy|) / 2

/-! ## State -/

structure MotionService where
  absolutionX : ℚ
  absolutionY : ℚ
  currentDisplayId : Int32
  speed : Fin 11
  screenWidth : Int32
  screenHeight : Int32
  /-- of the window manager -/
  displayGroupInfo : DisplayGroupInfo
  mouseLocation : MouseLocation
  /-- of the drawing manager -/
  displayInfo : DisplayInfo

/-- What `GetScreenSize` answers. -/
abbrev ScreenSize := Option (Int32 × Int32)

namespace MotionService

/-- `displayInfo_ {}` is all zeros. -/
def create (speed : Fin 11) : MotionService where
  absolutionX := -1
  absolutionY := -1
  currentDisplayId := -1
  speed
  screenWidth := -1
  screenHeight := -1
  displayGroupInfo := DisplayGroupInfo.empty
  mouseLocation := ⟨-1, -1⟩
  displayInfo := ⟨0, 0, 0, 0, 0, "", .direction0⟩

/-! ## InitAbsolution -/

/-- Whether `InitAbsolution` has still to be done. -/
def Unset (s : MotionService) : Prop :=
  s.absolutionX = -1 ∧ s.absolutionY = -1 ∧ s.currentDisplayId = -1

instance (s : MotionService) : Decidable s.Unset := by unfold Unset; infer_instance

/-- The two members, asked for if one is not known. -/
def getScreenSize (s : MotionService) (screenSize : ScreenSize) : Int32 × Int32 :=
  if s.screenWidth = -1 ∨ s.screenHeight = -1 then
    screenSize.getD (s.screenWidth, s.screenHeight)
  else (s.screenWidth, s.screenHeight)

/-- `DEFAULT_DISPLAY_WIDTH`, `DEFAULT_DISPLAY_HEIGHT` -/
def orDefault (size : Int32) : Int32 := if size ≠ -1 then size else 1000

def initAbsolution (s : MotionService) (screenSize : ScreenSize) : MotionService :=
  if s.Unset then
    let screenWidth := orDefault (s.getScreenSize screenSize).1
    let screenHeight := orDefault (s.getScreenSize screenSize).2
    { s with
      screenWidth, screenHeight
      absolutionX := (screenWidth / 2).toInt
      absolutionY := (screenHeight / 2).toInt
      currentDisplayId := 0 }
  else s

/-! ## UpdateAndAdjustMouseLocation -/

/-- `static_cast<int32_t>` of a `double` -/
def truncate (x : ℚ) : Int32 := Int32.ofInt (if 0 ≤ x then ⌊x⌋ else ⌈x⌉)

def isInsideDisplay (displayInfo : DisplayInfo) (physicalX physicalY : Int32) : Bool :=
  0 ≤ physicalX ∧ physicalX < displayInfo.width ∧ 0 ≤ physicalY ∧ physicalY < displayInfo.height

/-- The loop of `FindPhysicalDisplay`: the display a point is on, and the point
there. A display whose end overflows ends the search. -/
def findDisplayAt (logicalX logicalY : Int32) : List DisplayInfo → Option (Int32 × Int32 × Int32)
  | [] => none
  | item :: displaysInfo =>
      match addInt32 item.x item.width with
      | none => none
      | some displayMaxX =>
          match addInt32 item.y item.height with
          | none => none
          | some displayMaxY =>
              if item.x ≤ logicalX ∧ logicalX < displayMaxX ∧ item.y ≤ logicalY ∧
                  logicalY < displayMaxY then
                some (logicalX - item.x, logicalY - item.y, item.id)
              else findDisplayAt logicalX logicalY displaysInfo

def findPhysicalDisplay (group : DisplayGroupInfo) (displayInfo : DisplayInfo)
    (physicalX physicalY displayId : Int32) : Int32 × Int32 × Int32 :=
  match addInt32 physicalX displayInfo.x with
  | none => (physicalX, physicalY, displayId)
  | some logicalX =>
      match addInt32 physicalY displayInfo.y with
      | none => (physicalX, physicalY, displayId)
      | some logicalY =>
          (findDisplayAt logicalX logicalY group.displaysInfo).getD
            (physicalX, physicalY, displayId)

/-- The size of a display as it is turned. -/
def boundWidth (displayInfo : DisplayInfo) : Int32 :=
  if displayInfo.direction = .direction0 ∨ displayInfo.direction = .direction180 then
    displayInfo.width
  else displayInfo.height

def boundHeight (displayInfo : DisplayInfo) : Int32 :=
  if displayInfo.direction = .direction0 ∨ displayInfo.direction = .direction180 then
    displayInfo.height
  else displayInfo.width

def adjust (size integer : Int32) : Int32 :=
  let integer := if integer < 0 then 0 else integer
  if size ≤ integer then size - 1 else integer

def updateAndAdjustMouseLocation (s : MotionService) : MotionService :=
  let integerX := truncate s.absolutionX
  let integerY := truncate s.absolutionY
  match s.displayGroupInfo.getPhysicalDisplay s.currentDisplayId with
  | none => { s with mouseLocation := ⟨integerX, integerY⟩ }
  | some displayInfo =>
      let (integerX, integerY, displayId) :=
        if isInsideDisplay displayInfo integerX integerY then
          (integerX, integerY, s.currentDisplayId)
        else
          findPhysicalDisplay s.displayGroupInfo displayInfo integerX integerY s.currentDisplayId
      let found :=
        if displayId ≠ s.currentDisplayId then s.displayGroupInfo.getPhysicalDisplay displayId
        else some displayInfo
      match found with
      | none =>
          { s with
            currentDisplayId := displayId
            mouseLocation := ⟨truncate s.absolutionX, truncate s.absolutionY⟩ }
      | some displayInfo =>
          let integerX := adjust (boundWidth displayInfo) integerX
          let integerY := adjust (boundHeight displayInfo) integerY
          { s with
            currentDisplayId := displayId
            absolutionX := integerX.toInt + Int.fract s.absolutionX
            absolutionY := integerY.toInt + Int.fract s.absolutionY
            mouseLocation := ⟨integerX, integerY⟩ }

/-! ## Motion reports -/

/-- The screen is the limit of a motion. -/
def limit (screen : Int32) (absolution : ℚ) : ℚ :=
  if absolution < 0 then 0
  else if screen.toInt < absolution then screen.toInt
  else absolution

def handleMotionAccelerate (s : MotionService) (dx dy : ℚ) : Option MotionService :=
  (getSpeedGain s.speed (motionSpeed dx dy)).map fun gain =>
    { s with
      absolutionX := limit s.screenWidth (max 0 (s.absolutionX + dx * gain))
      absolutionY := limit s.screenHeight (s.absolutionY + dy * gain) }

/-- `transformedX` and `transformedY` are the answers of libinput for a width
and a height. -/
def handleMotionAbsoluteAccelerate (s : MotionService) (screenSize : ScreenSize)
    (transformedX transformedY : Int32 → ℚ) : MotionService :=
  let (screenWidth, screenHeight) := s.getScreenSize screenSize
  { s with
    screenWidth, screenHeight
    absolutionX := transformedX (orDefault screenWidth)
    absolutionY := transformedY (orDefault screenHeight) }

def handleMotionInner (s : MotionService) (screenSize : ScreenSize) (dx dy : ℚ) :
    MotionService :=
  let s := s.initAbsolution screenSize
  match s.handleMotionAccelerate dx dy with
  | none => s
  | some s => s.updateAndAdjustMouseLocation

def handleMotionAbsoluteInner (s : MotionService) (screenSize : ScreenSize)
    (transformedX transformedY : Int32 → ℚ) : MotionService :=
  ((s.initAbsolution screenSize).handleMotionAbsoluteAccelerate screenSize transformedX
    transformedY).updateAndAdjustMouseLocation

/-- The display of the event, which is the current one, is drawn on. -/
def updateMouseTarget (s : MotionService) (drawn : Bool) : MotionService :=
  match s.displayGroupInfo.updateDisplayId s.currentDisplayId with
  | none => s
  | some displayId =>
      match s.displayGroupInfo.getPhysicalDisplay displayId with
      | none => s
      | some displayInfo => if drawn then { s with displayInfo } else s

/-! ## Layouts -/

def onDisplayLost (s : MotionService) (screenSize : ScreenSize) (displayId : Int32) :
    MotionService :=
  if s.currentDisplayId ≠ displayId then
    let s := { s with currentDisplayId := -1, absolutionX := -1, absolutionY := -1 }
    (s.initAbsolution screenSize).updateAndAdjustMouseLocation
  else s

/-- `OnDisplayInfo`, which goes by the display the drawing manager has. -/
def onDisplayInfo (s : MotionService) (screenSize : ScreenSize) : MotionService :=
  match s.displayGroupInfo.getPhysicalDisplay s.displayInfo.id with
  | some item => { s with displayInfo := item }
  | none =>
      match s.displayGroupInfo.displaysInfo with
      | [] => s
      | first :: _ => { s with displayInfo := first }.onDisplayLost screenSize first.id

/-- A layout without a display is not passed on. -/
def updateDisplayInfo (s : MotionService) (screenSize : ScreenSize) (group : DisplayGroupInfo) :
    MotionService :=
  let s := { s with displayGroupInfo := group }
  if group.displaysInfo.isEmpty then s else s.onDisplayInfo screenSize

/-! ## Steps -/

inductive MotionInput where
  | updateDisplayInfo (screenSize : ScreenSize) (group : DisplayGroupInfo)
  | motion (screenSize : ScreenSize) (dx dy : ℚ) (drawn : Bool)
  | motionAbsolute (screenSize : ScreenSize) (transformedX transformedY : Int32 → ℚ)
      (drawn : Bool)

def step (s : MotionService) : MotionInput → MotionService
  | .updateDisplayInfo screenSize group => s.updateDisplayInfo screenSize group
  | .motion screenSize dx dy drawn =>
      (s.handleMotionInner screenSize dx dy).updateMouseTarget drawn
  | .motionAbsolute screenSize transformedX transformedY drawn =>
      (s.handleMotionAbsoluteInner screenSize transformedX transformedY).updateMouseTarget drawn

/-! ## What stays -/

@[simp] theorem initAbsolution_displayGroupInfo (s : MotionService) (screenSize : ScreenSize) :
    (s.initAbsolution screenSize).displayGroupInfo = s.displayGroupInfo := by
  unfold initAbsolution
  split <;> rfl

@[simp] theorem initAbsolution_displayInfo (s : MotionService) (screenSize : ScreenSize) :
    (s.initAbsolution screenSize).displayInfo = s.displayInfo := by
  unfold initAbsolution
  split <;> rfl

@[simp] theorem initAbsolution_speed (s : MotionService) (screenSize : ScreenSize) :
    (s.initAbsolution screenSize).speed = s.speed := by
  unfold initAbsolution
  split <;> rfl

/-- The display a motion starts from. -/
def current (s : MotionService) : Int32 := if s.Unset then 0 else s.currentDisplayId

@[simp] theorem initAbsolution_currentDisplayId (s : MotionService) (screenSize : ScreenSize) :
    (s.initAbsolution screenSize).currentDisplayId = s.current := by
  unfold initAbsolution current
  split <;> rfl

@[simp] theorem updateAndAdjustMouseLocation_displayGroupInfo (s : MotionService) :
    s.updateAndAdjustMouseLocation.displayGroupInfo = s.displayGroupInfo := by
  unfold updateAndAdjustMouseLocation
  dsimp only
  split
  · rfl
  · split <;> rfl

/-- A motion that is accelerated moves the position. -/
theorem handleMotionAccelerate_some {s r : MotionService} {dx dy : ℚ}
    (h : s.handleMotionAccelerate dx dy = some r) :
    ∃ absolutionX absolutionY, r = { s with absolutionX, absolutionY } := by
  obtain ⟨gain, -, rfl⟩ := Option.map_eq_some_iff.mp h
  exact ⟨_, _, rfl⟩

theorem handleMotionAccelerate_none {s : MotionService} {dx dy : ℚ}
    (h : s.handleMotionAccelerate dx dy = none) :
    getSpeedGain s.speed (motionSpeed dx dy) = none :=
  Option.map_eq_none_iff.mp h

theorem updateMouseTarget_eq (s : MotionService) (drawn : Bool) :
    ∃ displayInfo, s.updateMouseTarget drawn = { s with displayInfo } := by
  unfold updateMouseTarget
  split
  · exact ⟨s.displayInfo, rfl⟩
  · split
    · exact ⟨s.displayInfo, rfl⟩
    · split
      · exact ⟨_, rfl⟩
      · exact ⟨s.displayInfo, rfl⟩

end MotionService

end FtMmi.MouseEventNormalize
