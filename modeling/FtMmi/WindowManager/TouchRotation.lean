/-
FtMmi.WindowManager.TouchRotation — where the pixels of a touch screen come
to lie on a turned display (`RotateTouchScreen`, then
`AdjustDisplayCoordinate`).

A rotation swaps the two axes and reflects some. The reflection takes a
coordinate from the size, which is one too much: the last pixel is reached
from the first two, and the first pixel from none.
-/
import FtMmi.TouchEventNormalize.TouchTransformProcessor

namespace FtMmi.WindowManager

open Event TouchEventNormalize

/-! ## One axis -/

/-- The pixels along a side. -/
def Axis (size : Int32) : Set Int32 := {c | 0 ≤ c ∧ c < size}

/-- A coordinate as it is reflected and then adjusted. -/
def reflect (size c : Int32) : Int32 := adjustCoordinate size (size - c)

theorem int32_toInt_zero : (0 : Int32).toInt = 0 := rfl

theorem int32_toInt_one : (1 : Int32).toInt = 1 := rfl

theorem mem_axis_iff {size c : Int32} :
    c ∈ Axis size ↔ 0 ≤ c.toInt ∧ c.toInt < size.toInt := by
  simp only [Axis, Set.mem_ofPred_eq, Int32.le_iff_toInt_le, Int32.lt_iff_toInt_lt, int32_toInt_zero]

theorem toInt_sub_of_range {a b : Int32} (h : -2 ^ 31 ≤ a.toInt - b.toInt)
    (h' : a.toInt - b.toInt < 2 ^ 31) : (a - b).toInt = a.toInt - b.toInt := by
  rw [Int32.toInt_sub, Int.bmod_eq_of_le (by omega) (by omega)]

/-- A coordinate of the display is left as it is. -/
theorem adjustCoordinate_of_mem {size c : Int32} (h : c ∈ Axis size) :
    adjustCoordinate size c = c := by
  obtain ⟨hnonneg, hlt⟩ := mem_axis_iff.mp h
  unfold adjustCoordinate
  have hstart : (if c ≤ 0 then 0 else c) = c := by
    split
    · rename_i hle
      rw [Int32.le_iff_toInt_le, int32_toInt_zero] at hle
      exact Int32.toInt_inj.mp (by rw [int32_toInt_zero]; omega)
    · rfl
  rw [hstart, if_neg]
  rintro ⟨hle, _⟩
  rw [Int32.le_iff_toInt_le] at hle
  omega

/-- The first pixel goes to the last one, and the others one too far. -/
theorem toInt_reflect {size c : Int32} (h : c ∈ Axis size) :
    (reflect size c).toInt = if c = 0 then size.toInt - 1 else size.toInt - c.toInt := by
  obtain ⟨hnonneg, hlt⟩ := mem_axis_iff.mp h
  have hmax := size.toInt_lt
  have hsub : (size - c).toInt = size.toInt - c.toInt :=
    toInt_sub_of_range (by omega) (by omega)
  split
  · rename_i hc
    subst hc
    rw [int32_toInt_zero] at hsub
    have hself : size - 0 = size := Int32.toInt_inj.mp (by rw [hsub]; omega)
    have hlast : (size - 1).toInt = size.toInt - 1 := by
      rw [toInt_sub_of_range] <;> rw [int32_toInt_one] <;> omega
    unfold reflect adjustCoordinate
    have hpos : ¬ size ≤ 0 := by
      rw [Int32.le_iff_toInt_le, int32_toInt_zero]
      omega
    have hpos' : 0 < size := Int32.not_le.mp hpos
    rw [hself, if_neg hpos, if_pos ⟨Int32.le_refl size, hpos'⟩, hlast]
  · rename_i hc
    have hne : c.toInt ≠ 0 := fun heq => hc (Int32.toInt_inj.mp heq)
    rw [reflect, adjustCoordinate_of_mem (mem_axis_iff.mpr (by rw [hsub]; omega)), hsub]

theorem reflect_mem {size c : Int32} (h : c ∈ Axis size) : reflect size c ∈ Axis size := by
  rw [mem_axis_iff, toInt_reflect h]
  obtain ⟨hnonneg, hlt⟩ := mem_axis_iff.mp h
  split
  · omega
  · rename_i hc
    have hne : c.toInt ≠ 0 := fun heq => hc (Int32.toInt_inj.mp heq)
    omega

theorem zero_mem_axis {size : Int32} (hpos : 0 < size) : 0 ∈ Axis size := by
  rw [mem_axis_iff]
  rw [Int32.lt_iff_toInt_lt, int32_toInt_zero] at hpos
  exact ⟨Int.le_refl _, hpos⟩

theorem one_mem_axis {size : Int32} (hpos : 0 < size) (hone : size ≠ 1) : 1 ∈ Axis size := by
  have hne : size.toInt ≠ 1 := fun heq => hone (Int32.toInt_inj.mp heq)
  rw [mem_axis_iff, int32_toInt_one]
  rw [Int32.lt_iff_toInt_lt, int32_toInt_zero] at hpos
  omega

/-- The first two pixels fall together. -/
theorem reflect_one {size : Int32} (hpos : 0 < size) (hone : size ≠ 1) :
    reflect size 1 = reflect size 0 := by
  refine Int32.toInt_inj.mp ?_
  rw [toInt_reflect (one_mem_axis hpos hone), toInt_reflect (zero_mem_axis hpos)]
  simp [int32_toInt_one]

/-- Only a side of one pixel is reflected onto itself. -/
theorem reflect_of_one {c : Int32} (h : c ∈ Axis 1) : reflect 1 c = c := by
  obtain ⟨hnonneg, hlt⟩ := mem_axis_iff.mp h
  rw [int32_toInt_one] at hlt
  have hc : c = 0 := Int32.toInt_inj.mp (by rw [int32_toInt_zero]; omega)
  subst hc
  decide

/-! ## Both axes -/

/-- The pixels of a screen. -/
def pixelGrid (width height : Int32) : Set (Int32 × Int32) := Axis width ×ˢ Axis height

/-- The size of a display as it is turned. -/
def rotatedGrid (info : DisplayInfo) : Set (Int32 × Int32) :=
  if info.direction = .direction0 ∨ info.direction = .direction180 then
    pixelGrid info.width info.height
  else pixelGrid info.height info.width

/-- A raw pixel as it reaches the display. -/
def touchPixel (info : DisplayInfo) (raw : Int32 × Int32) : Int32 × Int32 :=
  let coord := rotateTouchScreen info raw
  adjustDisplayCoordinate info coord.1 coord.2

/-- What `touchPixel` does to the pixels of the screen. -/
def reflected (info : DisplayInfo) (raw : Int32 × Int32) : Int32 × Int32 :=
  match info.direction with
  | .direction0 => raw
  | .direction90 => (reflect info.height raw.2, raw.1)
  | .direction180 => (reflect info.width raw.1, reflect info.height raw.2)
  | .direction270 => (raw.2, reflect info.width raw.1)

theorem touchPixel_eq {info : DisplayInfo} {raw : Int32 × Int32}
    (h : raw ∈ pixelGrid info.width info.height) : touchPixel info raw = reflected info raw := by
  obtain ⟨hx, hy⟩ := h
  have hx' := adjustCoordinate_of_mem hx
  have hy' := adjustCoordinate_of_mem hy
  unfold touchPixel reflected rotateTouchScreen adjustDisplayCoordinate
  cases info.direction with
  | direction0 => simp [hx', hy']
  | direction90 => simp [hx', reflect]
  | direction180 => simp [reflect]
  | direction270 => simp [hy', reflect]

/-- The sides that the rotation reflects are one pixel long. -/
def ReflectsOnePixel (info : DisplayInfo) : Prop :=
  match info.direction with
  | .direction0 => True
  | .direction90 => info.height = 1
  | .direction180 => info.width = 1 ∧ info.height = 1
  | .direction270 => info.width = 1

/-- No touch lands outside the display, in any rotation. -/
theorem touchPixel_mapsTo (info : DisplayInfo) :
    Set.MapsTo (touchPixel info) (pixelGrid info.width info.height) (rotatedGrid info) := by
  intro raw hraw
  rw [touchPixel_eq hraw]
  obtain ⟨hx, hy⟩ := hraw
  unfold reflected rotatedGrid
  cases info.direction with
  | direction0 => exact ⟨hx, hy⟩
  | direction90 => exact ⟨reflect_mem hy, hx⟩
  | direction180 => exact ⟨reflect_mem hx, reflect_mem hy⟩
  | direction270 => exact ⟨hy, reflect_mem hx⟩

/-- Without two pixels along a reflected side the axes are at most swapped. -/
theorem reflected_eq {info : DisplayInfo} (h : ReflectsOnePixel info) {raw : Int32 × Int32}
    (hraw : raw ∈ pixelGrid info.width info.height) :
    reflected info raw
      = if info.direction = .direction0 ∨ info.direction = .direction180 then raw else raw.swap := by
  obtain ⟨hx, hy⟩ := hraw
  unfold reflected
  unfold ReflectsOnePixel at h
  cases hdirection : info.direction with
  | direction0 => simp
  | direction90 =>
    rw [hdirection] at h
    rw [h] at hy
    simp [h, reflect_of_one hy, Prod.swap]
  | direction180 =>
    rw [hdirection] at h
    rw [h.1] at hx
    rw [h.2] at hy
    simp [h.1, h.2, reflect_of_one hx, reflect_of_one hy]
  | direction270 =>
    rw [hdirection] at h
    rw [h] at hx
    simp [h, reflect_of_one hx, Prod.swap]

/-- Two touches fall together when a reflected side has two pixels. -/
theorem reflectsOnePixel_of_injOn {info : DisplayInfo} (hwidth : 0 < info.width)
    (hheight : 0 < info.height)
    (h : Set.InjOn (touchPixel info) (pixelGrid info.width info.height)) :
    ReflectsOnePixel info := by
  have hzero : ((0, 0) : Int32 × Int32) ∈ pixelGrid info.width info.height :=
    ⟨zero_mem_axis hwidth, zero_mem_axis hheight⟩
  -- The second pixel of a side that is reflected, if there is one.
  have hsecond : ∀ raw ∈ pixelGrid info.width info.height,
      reflected info raw = reflected info (0, 0) → raw = (0, 0) := by
    intro raw hraw heq
    refine h hraw hzero ?_
    rw [touchPixel_eq hraw, touchPixel_eq hzero, heq]
  have hy : (reflect info.height 1 = reflect info.height 0 →
      reflected info (0, 1) = reflected info (0, 0)) → info.height = 1 := by
    intro hcollapse
    by_contra hone
    have heq := hsecond (0, 1) ⟨zero_mem_axis hwidth, one_mem_axis hheight hone⟩
      (hcollapse (reflect_one hheight hone))
    simp at heq
  have hx : (reflect info.width 1 = reflect info.width 0 →
      reflected info (1, 0) = reflected info (0, 0)) → info.width = 1 := by
    intro hcollapse
    by_contra hone
    have heq := hsecond (1, 0) ⟨one_mem_axis hwidth hone, zero_mem_axis hheight⟩
      (hcollapse (reflect_one hwidth hone))
    simp at heq
  unfold ReflectsOnePixel
  unfold reflected at hx hy
  cases hdirection : info.direction with
  | direction0 => trivial
  | direction90 => exact hy fun heq => by simp [hdirection, heq]
  | direction180 =>
    exact ⟨hx fun heq => by simp [hdirection, heq], hy fun heq => by simp [hdirection, heq]⟩
  | direction270 => exact hx fun heq => by simp [hdirection, heq]

/-- Where a finger is placed on the display that its touch was turned for. -/
theorem locatePointer_touchPixel {group : DisplayGroupInfo} {event : PointerEvent}
    {touch : LibinputTouch} {info : DisplayInfo} {item : PointerItem}
    {place : InputWindowsManager.PointerPlace}
    (hitem : event.getPointerItem event.pointerId = some item)
    (hx : item.displayX = (getPhysicalDisplayCoord touch info).x)
    (hy : item.displayY = (getPhysicalDisplayCoord touch info).y)
    (hinfo : group.getPhysicalDisplay event.targetDisplayId = some info)
    (h : InputWindowsManager.locatePointer group adjustDisplayCoordinate event = .ok place) :
    (place.physicalX, place.physicalY)
      = touchPixel info (touch.xTransformed info.width, touch.yTransformed info.height) := by
  have hcoord : (item.displayX, item.displayY)
      = rotateTouchScreen info (touch.xTransformed info.width, touch.yTransformed info.height) :=
    Prod.ext hx hy
  simp only [InputWindowsManager.locatePointer, hitem, hinfo] at h
  split at h
  · cases h
  · split at h
    · cases h
    · cases h
      simp only [touchPixel, ← hcoord]

/-! ## Touch rotation -/

/-- The pixels of the screen go one-to-one onto those of the turned display
precisely if the sides that the rotation reflects are one pixel long. -/
theorem touchPixel_bijOn_iff (info : DisplayInfo) (hwidth : 0 < info.width)
    (hheight : 0 < info.height) :
    Set.BijOn (touchPixel info) (pixelGrid info.width info.height) (rotatedGrid info) ↔
      ReflectsOnePixel info := by
  refine ⟨fun h => reflectsOnePixel_of_injOn hwidth hheight h.injOn, fun h => ?_⟩
  have heq : Set.EqOn (fun raw : Int32 × Int32 =>
      if info.direction = .direction0 ∨ info.direction = .direction180 then raw else raw.swap)
      (touchPixel info) (pixelGrid info.width info.height) := by
    intro raw hraw
    dsimp only
    rw [touchPixel_eq hraw, reflected_eq h hraw]
  refine Set.BijOn.congr ?_ heq
  unfold rotatedGrid
  split
  · exact Set.bijOn_id _
  · refine ⟨?_, Prod.swap_injective.injOn, ?_⟩
    · rintro raw ⟨hx, hy⟩
      exact ⟨hy, hx⟩
    · rintro raw ⟨hx, hy⟩
      exact ⟨raw.swap, ⟨hy, hx⟩, raw.swap_swap⟩

/-- A display of 720 by 1280 pixels, turned by 90 degrees. -/
def turnedDisplay : DisplayInfo := ⟨0, 0, 0, 720, 1280, "default0", .direction90⟩

/-- A column of 1280 pixels, turned by 270 degrees. -/
theorem touchPixel_bijOn_iff_column :
    Set.BijOn (touchPixel ⟨0, 0, 0, 1, 1280, "default0", .direction270⟩) (pixelGrid 1 1280)
        (rotatedGrid ⟨0, 0, 0, 1, 1280, "default0", .direction270⟩) ↔
      ReflectsOnePixel ⟨0, 0, 0, 1, 1280, "default0", .direction270⟩ :=
  touchPixel_bijOn_iff ⟨0, 0, 0, 1, 1280, "default0", .direction270⟩ (by decide) (by decide)

/-- The first two rows of the screen fall together, and nothing reaches the
left edge. -/
theorem counterexample_touchPixel :
    ¬ Set.BijOn (touchPixel turnedDisplay) (pixelGrid 720 1280) (rotatedGrid turnedDisplay) ∧
      touchPixel turnedDisplay (0, 0) = (1279, 0) ∧
      touchPixel turnedDisplay (0, 1) = (1279, 0) := by
  refine ⟨fun h => ?_, by decide, by decide⟩
  have hzero : ((0, 0) : Int32 × Int32) ∈ pixelGrid 720 1280 :=
    ⟨zero_mem_axis (by decide), zero_mem_axis (by decide)⟩
  have hone : ((0, 1) : Int32 × Int32) ∈ pixelGrid 720 1280 :=
    ⟨zero_mem_axis (by decide), one_mem_axis (by decide) (by decide)⟩
  have heq := h.injOn hzero hone (by decide)
  simp at heq

end FtMmi.WindowManager
