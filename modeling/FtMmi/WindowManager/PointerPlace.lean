/-
FtMmi.WindowManager.PointerPlace — where the pointer's window is.

It should be at the offset of the display and the position last asked for,
less the hot spot of the icon in it. A new window is made without the
offset, a location is set without offset and hot spot, a layout that moves
the display moves nothing, and an icon is drawn again in `lastMouseStyle_`,
which a new window does not set. `KeepsPlace` says for each call when that
makes no difference, and `placed_step_iff` that it says so exactly.
-/
import FtMmi.Lib.StepSystem
import FtMmi.WindowManager.PointerDrawingManager

namespace FtMmi.WindowManager

open FtMmi.Lib

/-! ## Hot spots -/

/-- The point of an icon that is at the position of the mouse. -/
def IconType.hotSpot (iconType : IconType) (width height : Int32) : Int32 × Int32 :=
  match iconType with
  | .angleSW => (0, height)
  | .angleCenter => (width / 2, height / 2)
  | _ => (0, 0)

namespace PointerDrawingManager

variable {s : PointerDrawingManager}

theorem adjustMouseFocus_eq (s : PointerDrawingManager) (iconType : IconType)
    (physicalX physicalY : Int32) :
    s.adjustMouseFocus iconType physicalX physicalY
      = (physicalX - (iconType.hotSpot s.imageWidth s.imageHeight).1,
        physicalY - (iconType.hotSpot s.imageWidth s.imageHeight).2) := by
  cases iconType <;> simp [adjustMouseFocus, IconType.hotSpot]

def hotSpotOf (s : PointerDrawingManager) (image : Image) : Int32 × Int32 :=
  (s.alignmentWay image.style).hotSpot image.width image.height

/-- The hot spot of a style as it would be drawn now. -/
def hotSpotNow (s : PointerDrawingManager) (style : Int32) : Int32 × Int32 :=
  s.hotSpotOf ⟨style, s.imageWidth, s.imageHeight⟩

/-- The window is at a position, as the icon in it goes. -/
def PlacedAt (s : PointerDrawingManager) (position : Int32 × Int32) (window : PointerWindow) :
    Prop :=
  ∃ image, window.drawn = some image ∧
    window.x = s.displayInfo.x + position.1 - (s.hotSpotOf image).1 ∧
    window.y = s.displayInfo.y + position.2 - (s.hotSpotOf image).2

/-- The position kept is the one of the window. -/
def Placed (s : PointerDrawingManager) : Prop :=
  ∀ window ∈ s.pointerWindow, s.PlacedAt (s.lastPhysicalX, s.lastPhysicalY) window

/-! ## When the place is kept -/

/-- The icon drawn again has the hot spot of the one that is there. -/
def RedrawsInPlace (s : PointerDrawingManager) : Prop :=
  ∀ window ∈ s.pointerWindow, ∀ image ∈ window.drawn,
    s.hotSpotNow s.lastMouseStyle = s.hotSpotOf image

/-- A display without an offset for a new window; and where no icon is drawn
since the style is the last one, the one that is there has its hot spot. -/
def DrawsInPlace (s : PointerDrawingManager) (mouseStyle : Int32) : Prop :=
  match s.pointerWindow with
  | none => (s.displayInfo.x, s.displayInfo.y) = (0, 0)
  | some window => s.lastMouseStyle = mouseStyle → ∀ image ∈ window.drawn,
      s.hotSpotNow mouseStyle = s.hotSpotOf image

/-- `DrawManager` makes a window only, or takes it away. -/
def ManagesInPlace (s : PointerDrawingManager) (mouseStyle : Option Int32) : Prop :=
  s.hasDisplay = true → s.hasPointerDevice = true → s.pointerWindow = none → mouseStyle.isSome →
    (s.displayInfo.x, s.displayInfo.y) = (0, 0)

/-- What keeps the window in its place, for each call. -/
def KeepsPlace (s : PointerDrawingManager) : DrawingInput → Prop
  | .drawPointer _ _ mouseStyle => s.DrawsInPlace mouseStyle
  | .drawPointerStyle mouseStyle => s.hasDisplay = true → s.hasPointerDevice = true →
      ∀ style ∈ mouseStyle, s.DrawsInPlace style
  | .setPointerLocation _ _ _ => s.pointerWindow.isSome →
      (s.displayInfo.x, s.displayInfo.y) = s.hotSpotNow s.lastMouseStyle
  | .setPointerStyle _ _ => True
  | .onDisplayInfo displayGroupInfo mouseStyle =>
      ∀ item, displayGroupInfo.getPhysicalDisplay s.displayInfo.id = some item →
        (s.hasPointerDevice = true → s.pointerWindow.isSome →
          (item.x, item.y) = (s.displayInfo.x, s.displayInfo.y)) ∧
        (s.updateDisplayInfo item).ManagesInPlace mouseStyle
  | .updatePointerDevice _ hasPointerDevice isPointerVisible mouseStyle =>
      hasPointerDevice = true → (isPointerVisible = true → s.RedrawsInPlace) ∧
        { s with hasPointerDevice }.ManagesInPlace mouseStyle
  | .setPointerVisible _ visible => visible = true → s.RedrawsInPlace
  | .deletePointerVisible pid => (s.pidInfos.infos.any fun info => info.pid = pid) = true →
      { s with pidInfos := s.pidInfos.erase pid }.isPointerVisible = true → s.RedrawsInPlace
  | .setMouseDisplayState state => s.mouseDisplayState ≠ state → state = true → s.RedrawsInPlace

/-! ## Icons that are looked up -/

@[simp] theorem alignmentWay_lookUpIcon (s : PointerDrawingManager) (style : Int32) :
    (s.lookUpIcon style).alignmentWay = s.alignmentWay := by
  funext other
  by_cases h : other = style
  · simp [lookUpIcon, alignmentWay, h]
  · simp [lookUpIcon, alignmentWay, Function.update_of_ne h]

@[simp] theorem hotSpotOf_lookUpIcon (s : PointerDrawingManager) (style : Int32) (image : Image) :
    (s.lookUpIcon style).hotSpotOf image = s.hotSpotOf image := by
  simp [hotSpotOf]

theorem lookUpIcon_placed_iff (style : Int32) : (s.lookUpIcon style).Placed ↔ s.Placed := by
  unfold Placed PlacedAt
  simp only [hotSpotOf_lookUpIcon]
  rfl

theorem placed_of_none (h : s.pointerWindow = none) : s.Placed := by
  intro window hwindow
  rw [h] at hwindow
  cases hwindow

theorem placed_of_some {window : PointerWindow} (h : s.pointerWindow = some window) :
    s.Placed ↔ s.PlacedAt (s.lastPhysicalX, s.lastPhysicalY) window := by
  unfold Placed
  simp [h]

/-! ## Drawing -/

theorem placedAt_iff {position : Int32 × Int32} {window : PointerWindow} {image : Image}
    (h : window.drawn = some image) :
    s.PlacedAt position window ↔
      window.x = s.displayInfo.x + position.1 - (s.hotSpotOf image).1 ∧
        window.y = s.displayInfo.y + position.2 - (s.hotSpotOf image).2 := by
  simp [PlacedAt, h]

/-- A window in its place stays so with another icon exactly if that has the
same hot spot. -/
theorem redrawn_placedAt_iff {position : Int32 × Int32} {window : PointerWindow} {image : Image}
    (hplaced : s.PlacedAt position window) (hdrawn : window.drawn = some image) (other : Image) :
    s.PlacedAt position { window with drawn := some other } ↔
      s.hotSpotOf other = s.hotSpotOf image := by
  obtain ⟨hx, hy⟩ := (placedAt_iff hdrawn).mp hplaced
  rw [placedAt_iff rfl, Prod.ext_iff]
  constructor
  · rintro ⟨hotherX, hotherY⟩
    have hsameX := hotherX.symm.trans hx
    have hsameY := hotherY.symm.trans hy
    exact ⟨by grind, by grind⟩
  · rintro ⟨heqX, heqY⟩
    exact ⟨by rw [heqX]; exact hx, by rw [heqY]; exact hy⟩

theorem updatePointerVisible_placed_iff : s.updatePointerVisible.Placed ↔ s.Placed := by
  cases hwindow : s.pointerWindow with
  | none =>
    exact iff_of_true (placed_of_none (by simp [updatePointerVisible, hwindow]))
      (placed_of_none hwindow)
  | some window =>
    rw [placed_of_some hwindow, placed_of_some (by simp [updatePointerVisible, hwindow]; rfl)]
    rfl

theorem initLayer_eq {window : PointerWindow} (h : s.pointerWindow = some window)
    (style : Int32) :
    s.initLayer style = { s with
      pointerWindow := some
        { window with drawn := some ⟨style, s.imageWidth, s.imageHeight⟩ } }.lookUpIcon style := by
  simp [initLayer, h]

/-- Drawing an icon. -/
theorem initLayer_placedAt_iff {window : PointerWindow} (h : s.pointerWindow = some window)
    (style : Int32) :
    (s.initLayer style).Placed ↔
      window.x = s.displayInfo.x + s.lastPhysicalX - (s.hotSpotNow style).1 ∧
        window.y = s.displayInfo.y + s.lastPhysicalY - (s.hotSpotNow style).2 := by
  rw [initLayer_eq h, lookUpIcon_placed_iff, placed_of_some rfl]
  exact placedAt_iff rfl

/-- Drawing the icon of the last style again. -/
theorem initLayer_placed_iff (hs : s.Placed) :
    (s.initLayer s.lastMouseStyle).Placed ↔ s.RedrawsInPlace := by
  cases hwindow : s.pointerWindow with
  | none =>
    have hsame : s.initLayer s.lastMouseStyle = s := by
      simp [initLayer, hwindow]
    rw [hsame]
    exact iff_of_true hs fun window hmem => by simp [hwindow] at hmem
  | some window =>
    have hplaced := (placed_of_some hwindow).mp hs
    obtain ⟨image, hdrawn, _⟩ := id hplaced
    rw [initLayer_eq hwindow, lookUpIcon_placed_iff, placed_of_some rfl]
    refine (redrawn_placedAt_iff hplaced hdrawn _).trans ?_
    simp [RedrawsInPlace, hwindow, hdrawn, hotSpotNow]

/-- `DrawPointer` up to the window: the position is kept, the icon looked up. -/
def prepared (s : PointerDrawingManager) (physicalX physicalY mouseStyle : Int32) :
    PointerDrawingManager :=
  { s with
    lastPhysicalX := (s.fixCursorPosition physicalX physicalY).1
    lastPhysicalY := (s.fixCursorPosition physicalX physicalY).2 }.lookUpIcon mouseStyle

@[simp] theorem hotSpotOf_prepared (physicalX physicalY mouseStyle : Int32) (image : Image) :
    (s.prepared physicalX physicalY mouseStyle).hotSpotOf image = s.hotSpotOf image :=
  hotSpotOf_lookUpIcon _ mouseStyle image

theorem hotSpotNow_prepared (physicalX physicalY mouseStyle style : Int32) :
    (s.prepared physicalX physicalY mouseStyle).hotSpotNow style = s.hotSpotNow style :=
  hotSpotOf_prepared physicalX physicalY mouseStyle _

theorem drawPointer_of_none (h : s.pointerWindow = none) (physicalX physicalY mouseStyle : Int32) :
    s.drawPointer physicalX physicalY mouseStyle
      = (((s.prepared physicalX physicalY mouseStyle).createPointerWindow
          ((s.fixCursorPosition physicalX physicalY).1 - (s.hotSpotNow mouseStyle).1)
          ((s.fixCursorPosition physicalX physicalY).2 - (s.hotSpotNow mouseStyle).2)).initLayer
        mouseStyle).updatePointerVisible := by
  simp only [drawPointer, adjustMouseFocus_eq]
  split
  · rename_i window hwindow
    cases h.symm.trans hwindow
  · rfl

theorem drawPointer_of_some {window : PointerWindow} (h : s.pointerWindow = some window)
    (physicalX physicalY mouseStyle : Int32) :
    s.drawPointer physicalX physicalY mouseStyle
      = let moved := (s.prepared physicalX physicalY mouseStyle).moveTo
          ((s.fixCursorPosition physicalX physicalY).1 - (s.hotSpotNow mouseStyle).1
            + s.displayInfo.x)
          ((s.fixCursorPosition physicalX physicalY).2 - (s.hotSpotNow mouseStyle).2
            + s.displayInfo.y)
        if s.lastMouseStyle = mouseStyle then moved
        else ({ moved with lastMouseStyle := mouseStyle }.initLayer
          mouseStyle).updatePointerVisible := by
  simp only [drawPointer, adjustMouseFocus_eq]
  split
  · rfl
  · rename_i hwindow
    cases h.symm.trans hwindow

/-- A new window is in its place if the display has no offset. -/
theorem drawPointer_new (h : s.pointerWindow = none) (physicalX physicalY mouseStyle : Int32) :
    (s.drawPointer physicalX physicalY mouseStyle).Placed ↔
      (s.displayInfo.x, s.displayInfo.y) = (0, 0) := by
  rw [drawPointer_of_none h, updatePointerVisible_placed_iff, initLayer_eq rfl,
    lookUpIcon_placed_iff, placed_of_some rfl, placedAt_iff rfl, Prod.ext_iff]
  show (s.fixCursorPosition physicalX physicalY).1 - (s.hotSpotNow mouseStyle).1
      = s.displayInfo.x + (s.fixCursorPosition physicalX physicalY).1
        - ((s.prepared physicalX physicalY mouseStyle).hotSpotOf
          ⟨mouseStyle, s.imageWidth, s.imageHeight⟩).1 ∧
    (s.fixCursorPosition physicalX physicalY).2 - (s.hotSpotNow mouseStyle).2
      = s.displayInfo.y + (s.fixCursorPosition physicalX physicalY).2
        - ((s.prepared physicalX physicalY mouseStyle).hotSpotOf
          ⟨mouseStyle, s.imageWidth, s.imageHeight⟩).2 ↔
    s.displayInfo.x = 0 ∧ s.displayInfo.y = 0
  rw [prepared, hotSpotOf_lookUpIcon]
  show (s.fixCursorPosition physicalX physicalY).1 - (s.hotSpotNow mouseStyle).1
      = s.displayInfo.x + (s.fixCursorPosition physicalX physicalY).1
        - (s.hotSpotNow mouseStyle).1 ∧
    (s.fixCursorPosition physicalX physicalY).2 - (s.hotSpotNow mouseStyle).2
      = s.displayInfo.y + (s.fixCursorPosition physicalX physicalY).2
        - (s.hotSpotNow mouseStyle).2 ↔
    s.displayInfo.x = 0 ∧ s.displayInfo.y = 0
  constructor
  · rintro ⟨hx, hy⟩
    exact ⟨by grind, by grind⟩
  · rintro ⟨hx, hy⟩
    exact ⟨by grind, by grind⟩

/-- A window that is there is moved as the style goes, and is in its place if
the icon in it does too. -/
theorem drawPointer_placed_iff (hs : s.Placed) (physicalX physicalY mouseStyle : Int32) :
    (s.drawPointer physicalX physicalY mouseStyle).Placed ↔ s.DrawsInPlace mouseStyle := by
  unfold DrawsInPlace
  cases hwindow : s.pointerWindow with
  | none => exact drawPointer_new hwindow physicalX physicalY mouseStyle
  | some window =>
    obtain ⟨image, hdrawn, _⟩ := (placed_of_some hwindow).mp hs
    rw [drawPointer_of_some hwindow]
    have hsome : ∀ x y, ((s.prepared physicalX physicalY mouseStyle).moveTo x y).pointerWindow
        = some { window with x, y } := by
      intro x y
      simp [moveTo, prepared, lookUpIcon, hwindow]
    have hkept : ∀ x y, ({ window with x, y } : PointerWindow).drawn = some image :=
      fun _ _ => hdrawn
    by_cases hstyle : s.lastMouseStyle = mouseStyle
    · simp only [hstyle, if_true]
      rw [placed_of_some (hsome _ _), placedAt_iff (hkept _ _)]
      show (s.fixCursorPosition physicalX physicalY).1 - (s.hotSpotNow mouseStyle).1
            + s.displayInfo.x
          = s.displayInfo.x + (s.fixCursorPosition physicalX physicalY).1
            - ((s.prepared physicalX physicalY mouseStyle).hotSpotOf image).1 ∧
        (s.fixCursorPosition physicalX physicalY).2 - (s.hotSpotNow mouseStyle).2
            + s.displayInfo.y
          = s.displayInfo.y + (s.fixCursorPosition physicalX physicalY).2
            - ((s.prepared physicalX physicalY mouseStyle).hotSpotOf image).2 ↔ _
      simp only [hotSpotOf_prepared, hdrawn, Option.mem_some_iff, forall_eq', true_imp_iff,
        Prod.ext_iff]
      constructor
      · rintro ⟨hx, hy⟩
        exact ⟨by grind, by grind⟩
      · rintro ⟨hx, hy⟩
        exact ⟨by grind, by grind⟩
    · refine iff_of_true ?_ fun heq => absurd heq hstyle
      dsimp only
      have hstyled : ∀ x y, { (s.prepared physicalX physicalY mouseStyle).moveTo x y with
          lastMouseStyle := mouseStyle }.pointerWindow = some { window with x, y } := hsome
      rw [if_neg hstyle, updatePointerVisible_placed_iff, initLayer_placedAt_iff (hstyled _ _)]
      show (s.fixCursorPosition physicalX physicalY).1 - (s.hotSpotNow mouseStyle).1
            + s.displayInfo.x
          = s.displayInfo.x + (s.fixCursorPosition physicalX physicalY).1
            - ((s.prepared physicalX physicalY mouseStyle).hotSpotNow mouseStyle).1 ∧
        (s.fixCursorPosition physicalX physicalY).2 - (s.hotSpotNow mouseStyle).2
            + s.displayInfo.y
          = s.displayInfo.y + (s.fixCursorPosition physicalX physicalY).2
            - ((s.prepared physicalX physicalY mouseStyle).hotSpotNow mouseStyle).2
      rw [hotSpotNow_prepared]
      exact ⟨by grind, by grind⟩

/-! ## The other calls -/

theorem drawAtLast_placed_iff (hs : s.Placed) (mouseStyle : Int32) :
    (s.drawAtLast mouseStyle).Placed ↔ s.DrawsInPlace mouseStyle := by
  unfold drawAtLast
  split
  · exact drawPointer_placed_iff hs _ _ _
  · exact drawPointer_placed_iff hs _ _ _

theorem drawPointerStyle_placed_iff (hs : s.Placed) (mouseStyle : Option Int32) :
    (s.drawPointerStyle mouseStyle).Placed ↔
      (s.hasDisplay = true → s.hasPointerDevice = true →
        ∀ style ∈ mouseStyle, s.DrawsInPlace style) := by
  unfold drawPointerStyle
  split
  · rename_i hboth
    obtain ⟨hdisplay, hdevice⟩ := Bool.and_eq_true_iff.mp hboth
    cases mouseStyle with
    | none => simpa using hs
    | some style => simpa [hdisplay, hdevice] using drawAtLast_placed_iff hs style
  · rename_i hnot
    refine iff_of_true hs fun hdisplay hdevice => absurd ?_ hnot
    rw [hdisplay, hdevice]
    rfl

/-- A window that is there stays where it is, if there is a pointer device. -/
theorem drawManager_placed_iff (s : PointerDrawingManager) (mouseStyle : Option Int32) :
    (s.drawManager mouseStyle).Placed ↔
      (s.hasPointerDevice = true → s.pointerWindow.isSome → s.Placed) ∧
        s.ManagesInPlace mouseStyle := by
  unfold drawManager ManagesInPlace
  cases hdevice : s.hasPointerDevice with
  | false =>
    cases hwindow : s.pointerWindow with
    | none => simpa using placed_of_none hwindow
    | some window => simpa using placed_of_none (s := s.destroy) rfl
  | true =>
    cases hwindow : s.pointerWindow with
    | none =>
      cases hdisplay : s.hasDisplay with
      | false => simpa using placed_of_none hwindow
      | true =>
        cases mouseStyle with
        | none => simpa using placed_of_none hwindow
        | some style =>
          have hnew := drawAtLast_placed_iff (placed_of_none hwindow) style
          simp only [DrawsInPlace, hwindow] at hnew
          simpa using hnew
    | some window => simp

theorem setPointerVisible_placed_iff (hs : s.Placed) (pid : Int32) (visible : Bool) :
    (s.setPointerVisible pid visible).Placed ↔ (visible = true → s.RedrawsInPlace) := by
  simp only [setPointerVisible]
  rw [updatePointerVisible_placed_iff]
  have hlisted : { s with pidInfos := s.pidInfos.push pid visible }.Placed := hs
  cases visible with
  | true => exact (initLayer_placed_iff hlisted).trans ⟨fun h _ => h, fun h => h rfl⟩
  | false => simpa using hlisted

theorem deletePointerVisible_placed_iff (hs : s.Placed) (pid : Int32) :
    (s.deletePointerVisible pid).Placed ↔
      ((s.pidInfos.infos.any fun info => info.pid = pid) = true →
        { s with pidInfos := s.pidInfos.erase pid }.isPointerVisible = true →
          s.RedrawsInPlace) := by
  unfold deletePointerVisible
  split
  · rename_i hentry
    dsimp only
    rw [updatePointerVisible_placed_iff]
    have herased : { s with pidInfos := s.pidInfos.erase pid }.Placed := hs
    cases hvisible : { s with pidInfos := s.pidInfos.erase pid }.isPointerVisible with
    | true =>
      exact (initLayer_placed_iff herased).trans ⟨fun h _ _ => h, fun h => h hentry rfl⟩
    | false => simpa using herased
  · rename_i hnone
    exact iff_of_true hs fun hentry => absurd hentry hnone

theorem setMouseDisplayState_placed_iff (hs : s.Placed) (state : Bool) :
    (s.setMouseDisplayState state).Placed ↔
      (s.mouseDisplayState ≠ state → state = true → s.RedrawsInPlace) := by
  unfold setMouseDisplayState
  split
  · rename_i hchanged
    dsimp only
    rw [updatePointerVisible_placed_iff]
    have hstate : { s with mouseDisplayState := state }.Placed := hs
    cases state with
    | true =>
      exact (initLayer_placed_iff hstate).trans ⟨fun h _ _ => h, fun h => h hchanged rfl⟩
    | false => simpa using hstate
  · rename_i hsame
    exact iff_of_true hs fun hchanged => absurd hchanged hsame

/-- A location is set without the offset and the hot spot, and the icon of the
last style is drawn. -/
theorem setPointerLocation_placed_iff (pid x y : Int32) :
    (s.setPointerLocation pid x y).Placed ↔
      (s.pointerWindow.isSome → (s.displayInfo.x, s.displayInfo.y)
        = s.hotSpotNow s.lastMouseStyle) := by
  simp only [setPointerLocation]
  cases hwindow : s.pointerWindow with
  | none => exact iff_of_true (placed_of_none rfl) (by simp)
  | some window =>
    have hmoved : ({ s with
        lastPhysicalX := (s.fixCursorPosition x y).1
        lastPhysicalY := (s.fixCursorPosition x y).2
        pointerWindow := some
          { window with x := (s.fixCursorPosition x y).1, y := (s.fixCursorPosition x y).2 }
        pidInfos := s.pidInfos.push pid true }.initLayer s.lastMouseStyle).Placed ↔
        (s.displayInfo.x, s.displayInfo.y) = s.hotSpotNow s.lastMouseStyle := by
      rw [initLayer_placedAt_iff rfl]
      show (s.fixCursorPosition x y).1 = s.displayInfo.x + (s.fixCursorPosition x y).1
          - (s.hotSpotNow s.lastMouseStyle).1 ∧
        (s.fixCursorPosition x y).2 = s.displayInfo.y + (s.fixCursorPosition x y).2
          - (s.hotSpotNow s.lastMouseStyle).2 ↔ _
      rw [Prod.ext_iff]
      constructor
      · rintro ⟨hx, hy⟩
        exact ⟨by grind, by grind⟩
      · rintro ⟨hx, hy⟩
        exact ⟨by grind, by grind⟩
    simp only [Option.isSome_some, if_true, true_imp_iff, setPointerVisible]
    rw [updatePointerVisible_placed_iff, ← hmoved]
    simp only [moveTo, Option.map_some]

/-- A style is set in its place. -/
theorem setPointerStyle_placed (hs : s.Placed) (refresh : Bool) (pointerStyle : Int32) :
    (s.setPointerStyle refresh pointerStyle).Placed := by
  simp only [setPointerStyle]
  split
  · exact hs
  split
  · exact hs
  rw [updatePointerVisible_placed_iff]
  cases hwindow : s.pointerWindow with
  | none => simpa using hs
  | some window =>
    simp only [Option.isSome_some, if_true, adjustMouseFocus_eq, moveTo, hwindow, Option.map_some]
    rw [initLayer_placedAt_iff rfl]
    show s.lastPhysicalX - (s.hotSpotNow pointerStyle).1 + s.displayInfo.x
        = s.displayInfo.x + s.lastPhysicalX - (s.hotSpotNow pointerStyle).1 ∧
      s.lastPhysicalY - (s.hotSpotNow pointerStyle).2 + s.displayInfo.y
        = s.displayInfo.y + s.lastPhysicalY - (s.hotSpotNow pointerStyle).2
    exact ⟨by grind, by grind⟩

/-- A layout moves the display under a window that stays. -/
theorem updateDisplayInfo_placed_iff (hs : s.Placed) (item : DisplayInfo) :
    (s.updateDisplayInfo item).Placed ↔
      (s.pointerWindow.isSome → (item.x, item.y) = (s.displayInfo.x, s.displayInfo.y)) := by
  cases hwindow : s.pointerWindow with
  | none => exact iff_of_true (placed_of_none hwindow) (by simp)
  | some window =>
    obtain ⟨image, hdrawn, hx, hy⟩ := (placed_of_some hwindow).mp hs
    rw [placed_of_some (show (s.updateDisplayInfo item).pointerWindow = some window from hwindow),
      placedAt_iff hdrawn]
    show window.x = item.x + s.lastPhysicalX - (s.hotSpotOf image).1 ∧
      window.y = item.y + s.lastPhysicalY - (s.hotSpotOf image).2 ↔ _
    simp only [Option.isSome_some, true_imp_iff, Prod.ext_iff]
    constructor
    · rintro ⟨hitemX, hitemY⟩
      exact ⟨by grind, by grind⟩
    · rintro ⟨hitemX, hitemY⟩
      exact ⟨by grind, by grind⟩

/-- The position kept. -/
def last (s : PointerDrawingManager) : Int32 × Int32 := (s.lastPhysicalX, s.lastPhysicalY)

/-- What `DrawManager` looks at is as it was, and the position kept. -/
structure SameManaged (s s' : PointerDrawingManager) : Prop where
  last : s'.last = s.last
  hasDisplay : s'.hasDisplay = s.hasDisplay
  hasPointerDevice : s'.hasPointerDevice = s.hasPointerDevice
  displayInfo : s'.displayInfo = s.displayInfo
  isSome : s'.pointerWindow.isSome = s.pointerWindow.isSome

theorem SameManaged.managesInPlace_iff {s' : PointerDrawingManager} (h : SameManaged s s')
    (mouseStyle : Option Int32) : s'.ManagesInPlace mouseStyle ↔ s.ManagesInPlace mouseStyle := by
  have hnone : s'.pointerWindow = none ↔ s.pointerWindow = none := by
    rw [← Option.isNone_iff_eq_none, ← Option.isNone_iff_eq_none, ← Option.not_isSome,
      ← Option.not_isSome, h.isSome]
  unfold ManagesInPlace
  rw [h.hasDisplay, h.hasPointerDevice, h.displayInfo, hnone]

theorem initLayer_frame (s : PointerDrawingManager) (style : Int32) :
    SameManaged s (s.initLayer style) := by
  cases hwindow : s.pointerWindow with
  | none =>
    rw [show s.initLayer style = s by simp [initLayer, hwindow]]
    exact ⟨rfl, rfl, rfl, rfl, rfl⟩
  | some window =>
    rw [initLayer_eq hwindow]
    exact ⟨rfl, rfl, rfl, rfl, by rw [hwindow]; rfl⟩

theorem updatePointerVisible_frame {s' : PointerDrawingManager} (h : SameManaged s s') :
    SameManaged s s'.updatePointerVisible := by
  obtain ⟨hlast, hdisplay, hdevice, hinfo, hsome⟩ := h
  exact ⟨hlast, hdisplay, hdevice, hinfo, by simpa [updatePointerVisible] using hsome⟩

theorem setPointerVisible_frame (s : PointerDrawingManager) (pid : Int32) (visible : Bool) :
    SameManaged s (s.setPointerVisible pid visible) := by
  refine updatePointerVisible_frame ?_
  cases visible with
  | true =>
    obtain ⟨hlast, hdisplay, hdevice, hinfo, hsome⟩ :=
      initLayer_frame { s with pidInfos := s.pidInfos.push pid true } s.lastMouseStyle
    exact ⟨hlast, hdisplay, hdevice, hinfo, hsome⟩
  | false => exact ⟨rfl, rfl, rfl, rfl, rfl⟩

theorem deletePointerVisible_frame (s : PointerDrawingManager) (pid : Int32) :
    SameManaged s (s.deletePointerVisible pid) := by
  unfold deletePointerVisible
  split
  · refine updatePointerVisible_frame ?_
    dsimp only
    split
    · obtain ⟨hlast, hdisplay, hdevice, hinfo, hsome⟩ :=
        initLayer_frame { s with pidInfos := s.pidInfos.erase pid } s.lastMouseStyle
      exact ⟨hlast, hdisplay, hdevice, hinfo, hsome⟩
    · exact ⟨rfl, rfl, rfl, rfl, rfl⟩
  · exact ⟨rfl, rfl, rfl, rfl, rfl⟩

theorem setMouseDisplayState_frame (s : PointerDrawingManager) (state : Bool) :
    SameManaged s (s.setMouseDisplayState state) := by
  unfold setMouseDisplayState
  split
  · refine updatePointerVisible_frame ?_
    dsimp only
    split
    · obtain ⟨hlast, hdisplay, hdevice, hinfo, hsome⟩ :=
        initLayer_frame { s with mouseDisplayState := state } s.lastMouseStyle
      exact ⟨hlast, hdisplay, hdevice, hinfo, hsome⟩
    · exact ⟨rfl, rfl, rfl, rfl, rfl⟩
  · exact ⟨rfl, rfl, rfl, rfl, rfl⟩

theorem setPointerStyle_frame (s : PointerDrawingManager) (refresh : Bool) (pointerStyle : Int32) :
    SameManaged s (s.setPointerStyle refresh pointerStyle) := by
  simp only [setPointerStyle]
  split
  · exact ⟨rfl, rfl, rfl, rfl, rfl⟩
  split
  · exact ⟨rfl, rfl, rfl, rfl, rfl⟩
  refine updatePointerVisible_frame ?_
  split
  · obtain ⟨hlast, hdisplay, hdevice, hinfo, hsome⟩ := initLayer_frame
      { s.moveTo
          ((s.adjustMouseFocus (s.alignmentWay pointerStyle) s.lastPhysicalX s.lastPhysicalY).1
            + s.displayInfo.x)
          ((s.adjustMouseFocus (s.alignmentWay pointerStyle) s.lastPhysicalX s.lastPhysicalY).2
            + s.displayInfo.y) with
        lastMouseStyle := pointerStyle } pointerStyle
    exact ⟨hlast, hdisplay, hdevice, hinfo, hsome.trans (by simp [moveTo])⟩
  · exact ⟨rfl, rfl, rfl, rfl, rfl⟩

/-! ## The step -/

/-- The window is in its place after a call precisely if the call keeps it. -/
theorem placed_step_iff (hs : s.Placed) (i : DrawingInput) :
    (s.step i).Placed ↔ s.KeepsPlace i := by
  cases i with
  | drawPointer physicalX physicalY mouseStyle => exact drawPointer_placed_iff hs _ _ _
  | drawPointerStyle mouseStyle => exact drawPointerStyle_placed_iff hs mouseStyle
  | setPointerLocation pid x y => exact setPointerLocation_placed_iff pid x y
  | setPointerStyle refresh pointerStyle =>
    exact iff_of_true (setPointerStyle_placed hs refresh pointerStyle) trivial
  | onDisplayInfo displayGroupInfo mouseStyle =>
    simp only [step, onDisplayInfo, KeepsPlace]
    cases hitem : displayGroupInfo.getPhysicalDisplay s.displayInfo.id with
    | none =>
      refine iff_of_true ?_ (by simp)
      cases displayGroupInfo.displaysInfo with
      | nil => exact hs
      | cons first rest => exact placed_of_none rfl
    | some item =>
      simp only [Option.some.injEq, forall_eq']
      rw [drawManager_placed_iff, updateDisplayInfo_placed_iff hs]
      exact and_congr_left fun _ =>
        ⟨fun h hdevice hwindow => h hdevice hwindow hwindow, fun h hdevice hwindow _ =>
          h hdevice hwindow⟩
  | updatePointerDevice getpid hasPointerDevice isPointerVisible mouseStyle =>
    simp only [step, updatePointerDevice, KeepsPlace]
    rw [drawManager_placed_iff]
    have hdeviceSet : { s with hasPointerDevice }.Placed := hs
    cases hasPointerDevice with
    | false =>
      have hdevice := (deletePointerVisible_frame { s with hasPointerDevice := false }
        getpid).hasPointerDevice
      have hno : ({ s with hasPointerDevice := false }.deletePointerVisible getpid).hasPointerDevice
          ≠ true := by
        rw [hdevice]
        exact Bool.false_ne_true
      refine iff_of_true ⟨fun h => absurd h hno, fun _ h => absurd h hno⟩ (by simp)
    | true =>
      have hframe := setPointerVisible_frame { s with hasPointerDevice := true } getpid
        isPointerVisible
      simp only [if_true, true_imp_iff]
      rw [hframe.managesInPlace_iff, setPointerVisible_placed_iff hdeviceSet]
      refine and_congr_left fun _ => ⟨fun h hvisible window hwindow => ?_, fun h _ _ => h⟩
      refine h ?_ ?_ hvisible window hwindow
      · rw [hframe.hasPointerDevice]
      · rw [hframe.isSome]
        exact Option.isSome_of_mem hwindow
  | setPointerVisible pid visible => exact setPointerVisible_placed_iff hs pid visible
  | deletePointerVisible pid => exact deletePointerVisible_placed_iff hs pid
  | setMouseDisplayState state => exact setMouseDisplayState_placed_iff hs state

/-! ## The position last asked for -/

/-- Where `DrawPointer` is called to draw at the position kept. -/
def lastRequest (s : PointerDrawingManager) : Int32 × Int32 :=
  if s.lastPhysicalX = -1 ∨ s.lastPhysicalY = -1 then
    s.fixCursorPosition (s.displayInfo.width / 2) (s.displayInfo.height / 2)
  else s.fixCursorPosition s.lastPhysicalX s.lastPhysicalY

def managerRequest (s : PointerDrawingManager) (mouseStyle : Option Int32) :
    Option (Int32 × Int32) :=
  if s.hasDisplay && s.hasPointerDevice && s.pointerWindow.isNone then
    mouseStyle.map fun _ => s.lastRequest
  else none

/-- The position a call asks for, as `FixCursorPosition` leaves it: that of
`DrawPointer`, from wherever it is called, and that of `SetPointerLocation`. -/
def requestOf (s : PointerDrawingManager) : DrawingInput → Option (Int32 × Int32)
  | .drawPointer physicalX physicalY _ => some (s.fixCursorPosition physicalX physicalY)
  | .drawPointerStyle mouseStyle =>
      if s.hasDisplay && s.hasPointerDevice then mouseStyle.map fun _ => s.lastRequest else none
  | .setPointerLocation _ x y => some (s.fixCursorPosition x y)
  | .setPointerStyle .. => none
  | .onDisplayInfo displayGroupInfo mouseStyle =>
      (displayGroupInfo.getPhysicalDisplay s.displayInfo.id).bind fun item =>
        (s.updateDisplayInfo item).managerRequest mouseStyle
  | .updatePointerDevice getpid hasPointerDevice isPointerVisible mouseStyle =>
      let s := { s with hasPointerDevice }
      (if s.hasPointerDevice then s.setPointerVisible getpid isPointerVisible
        else s.deletePointerVisible getpid).managerRequest mouseStyle
  | .setPointerVisible .. => none
  | .deletePointerVisible _ => none
  | .setMouseDisplayState _ => none

theorem drawPointer_last (s : PointerDrawingManager) (physicalX physicalY mouseStyle : Int32) :
    (s.drawPointer physicalX physicalY mouseStyle).last
      = s.fixCursorPosition physicalX physicalY := by
  cases hwindow : s.pointerWindow with
  | none =>
    rw [drawPointer_of_none hwindow]
    exact (initLayer_frame _ mouseStyle).last
  | some window =>
    rw [drawPointer_of_some hwindow]
    dsimp only
    split
    · rfl
    · exact (initLayer_frame _ mouseStyle).last

theorem drawAtLast_last (s : PointerDrawingManager) (mouseStyle : Int32) :
    (s.drawAtLast mouseStyle).last = s.lastRequest := by
  unfold drawAtLast lastRequest
  split <;> exact drawPointer_last _ _ _ _

/-- While there is a window, the position kept is the one asked for. -/
def KeepsRequest (s : PointerDrawingManager) (requested : Int32 × Int32) : Prop :=
  s.pointerWindow.isSome = true → s.last = requested

theorem SameManaged.keepsRequest {s' : PointerDrawingManager} {requested : Int32 × Int32}
    (h : SameManaged s s') (hs : s.KeepsRequest requested) : s'.KeepsRequest requested := by
  intro hsome
  rw [h.last]
  exact hs (h.isSome ▸ hsome)

theorem drawManager_keepsRequest {requested : Int32 × Int32} (hs : s.KeepsRequest requested)
    (mouseStyle : Option Int32) :
    (s.drawManager mouseStyle).KeepsRequest ((s.managerRequest mouseStyle).getD requested) := by
  unfold drawManager managerRequest
  split
  · cases mouseStyle with
    | none => exact hs
    | some mouseStyle => exact fun _ => drawAtLast_last s mouseStyle
  · split
    · intro h
      cases h
    · exact hs

/-- The step. -/
theorem step_keepsRequest {requested : Int32 × Int32} (hs : s.KeepsRequest requested)
    (i : DrawingInput) : (s.step i).KeepsRequest ((s.requestOf i).getD requested) := by
  cases i with
  | drawPointer physicalX physicalY mouseStyle => exact fun _ => drawPointer_last s _ _ _
  | drawPointerStyle mouseStyle =>
    simp only [step, drawPointerStyle, requestOf]
    split
    · cases mouseStyle with
      | none => exact hs
      | some mouseStyle => exact fun _ => drawAtLast_last s mouseStyle
    · exact hs
  | setPointerLocation pid x y =>
    intro _
    simp only [step, setPointerLocation, requestOf, Option.getD_some]
    split
    · exact (setPointerVisible_frame _ pid true).last
    · rfl
  | setPointerStyle refresh pointerStyle =>
    exact (setPointerStyle_frame s refresh pointerStyle).keepsRequest hs
  | onDisplayInfo displayGroupInfo mouseStyle =>
    simp only [step, onDisplayInfo, requestOf]
    cases displayGroupInfo.getPhysicalDisplay s.displayInfo.id with
    | some item =>
      have hupdated : (s.updateDisplayInfo item).KeepsRequest requested := hs
      exact drawManager_keepsRequest hupdated mouseStyle
    | none =>
      cases displayGroupInfo.displaysInfo with
      | nil => exact hs
      | cons first rest =>
        intro h
        cases h
  | updatePointerDevice getpid hasPointerDevice isPointerVisible mouseStyle =>
    simp only [step, updatePointerDevice, requestOf]
    have hdevice : { s with hasPointerDevice }.KeepsRequest requested := hs
    refine drawManager_keepsRequest ?_ mouseStyle
    split
    · exact (setPointerVisible_frame _ getpid isPointerVisible).keepsRequest hdevice
    · exact (deletePointerVisible_frame _ getpid).keepsRequest hdevice
  | setPointerVisible pid visible => exact (setPointerVisible_frame s pid visible).keepsRequest hs
  | deletePointerVisible pid => exact (deletePointerVisible_frame s pid).keepsRequest hs
  | setMouseDisplayState state => exact (setMouseDisplayState_frame s state).keepsRequest hs

end PointerDrawingManager

/-! ## Every run -/

/-- The manager, and the position last asked for. -/
structure PlacedRun where
  manager : PointerDrawingManager
  requested : Int32 × Int32

namespace PlacedRun

def create (readable : Int32 → Bool) : PlacedRun := ⟨.create readable, (-1, -1)⟩

def step (s : PlacedRun) (i : DrawingInput) : PlacedRun where
  manager := s.manager.step i
  requested := (s.manager.requestOf i).getD s.requested

/-- The window, if there is one, is where it should be. -/
def InPlace (s : PlacedRun) : Prop :=
  ∀ window ∈ s.manager.pointerWindow, s.manager.PlacedAt s.requested window

def KeepsPlace (s : PlacedRun) (i : DrawingInput) : Prop := s.manager.KeepsPlace i

structure Kept (s : PlacedRun) : Prop where
  request : s.manager.KeepsRequest s.requested
  placed : s.manager.Placed

theorem inPlace_iff_placed {s : PlacedRun} (h : s.manager.KeepsRequest s.requested) :
    s.InPlace ↔ s.manager.Placed := by
  have hlast : ∀ window ∈ s.manager.pointerWindow,
      (s.manager.lastPhysicalX, s.manager.lastPhysicalY) = s.requested :=
    fun window hwindow => h (Option.isSome_of_mem hwindow)
  constructor
  · intro hplaced window hwindow
    rw [hlast window hwindow]
    exact hplaced window hwindow
  · intro hplaced window hwindow
    rw [← hlast window hwindow]
    exact hplaced window hwindow

end PlacedRun

/-! ## A second display -/

/-- The display of the pointer is the right one of two: a mouse is there and
moves. -/
def rightDisplay : List DrawingInput :=
  [.onDisplayInfo ⟨0, [], [⟨1, 1920, 0, 1920, 1080, "default1", .direction0⟩]⟩ none,
    .drawPointer 100 100 0]

end FtMmi.WindowManager
