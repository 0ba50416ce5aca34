/-
FtMmi.WindowManager.HotArea — the hot-area test beside the rectangles it is
asked about (`IsInHotArea`).

`Rect.Contains` is said in unbounded integers. The test computes the ends
of a rectangle in 32 bits, and the first rectangle whose end overflows ends
it with the answer no: it sees the rectangles before that one only.
-/
import FtMmi.WindowManager.DisplayInfo

namespace FtMmi.WindowManager

namespace Rect

/-! ## Rectangles -/

/-- The point is in the rectangle, which then has a positive size. -/
def Contains (rect : Rect) (x y : Int32) : Prop :=
  (0 < rect.width ∧ 0 < rect.height) ∧
    (rect.x.toInt ≤ x.toInt ∧ x.toInt < rect.x.toInt + rect.width.toInt) ∧
    (rect.y.toInt ≤ y.toInt ∧ y.toInt < rect.y.toInt + rect.height.toInt)

instance (rect : Rect) (x y : Int32) : Decidable (rect.Contains x y) :=
  inferInstanceAs (Decidable (_ ∧ _ ∧ _))

/-- Both ends of the rectangle are 32-bit numbers. -/
def fits (rect : Rect) : Bool :=
  (addInt32 rect.x rect.width).isSome && (addInt32 rect.y rect.height).isSome

end Rect

theorem addInt32_some {op1 op2 res : Int32} (h : addInt32 op1 op2 = some res) :
    res.toInt = op1.toInt + op2.toInt := by
  unfold addInt32 at h
  dsimp only at h
  split at h
  · rename_i hrange
    cases h
    rw [Int32.toInt_add, Int.bmod_eq_of_le (by omega) (by omega)]
  · cases h

/-- For a rectangle that fits the two comparisons in 32 bits are right. -/
theorem Rect.contains_iff_of_ends {rect : Rect} {x y displayMaxX displayMaxY : Int32}
    (hx : addInt32 rect.x rect.width = some displayMaxX)
    (hy : addInt32 rect.y rect.height = some displayMaxY) :
    rect.Contains x y ↔
      rect.x ≤ x ∧ x < displayMaxX ∧ rect.y ≤ y ∧ y < displayMaxY := by
  have hmaxX := addInt32_some hx
  have hmaxY := addInt32_some hy
  have hzero : (0 : Int32).toInt = 0 := rfl
  simp only [Rect.Contains, Int32.le_iff_toInt_le, Int32.lt_iff_toInt_lt, hmaxX, hmaxY, hzero]
  omega

/-! ## The test -/

/-- The rectangles that the test looks at. -/
theorem isInHotArea_iff (x y : Int32) (rects : List Rect) :
    isInHotArea x y rects = true ↔ ∃ rect ∈ rects.takeWhile Rect.fits, rect.Contains x y := by
  induction rects with
  | nil => simp [isInHotArea]
  | cons item rects ih =>
    unfold isInHotArea
    cases hx : addInt32 item.x item.width with
    | none => simp [Rect.fits, hx]
    | some displayMaxX =>
      cases hy : addInt32 item.y item.height with
      | none => simp [Rect.fits, hx, hy]
      | some displayMaxY =>
        have hfits : item.fits = true := by simp [Rect.fits, hx, hy]
        have hcontains := Rect.contains_iff_of_ends (x := x) (y := y) hx hy
        rw [List.takeWhile_cons_of_pos hfits]
        simp only [List.mem_cons, exists_eq_or_imp, hcontains, ← ih]
        split
        · rename_i hin
          simp [hin]
        · rename_i hout
          simp [hout]

/-- The answer yes is always right. -/
theorem exists_contains_of_isInHotArea {x y : Int32} {rects : List Rect}
    (h : isInHotArea x y rects = true) : ∃ rect ∈ rects, rect.Contains x y := by
  obtain ⟨rect, hmem, hcontains⟩ := (isInHotArea_iff x y rects).mp h
  exact ⟨rect, (List.takeWhile_prefix _).subset hmem, hcontains⟩

/-- When all rectangles fit the test sees them all. -/
theorem isInHotArea_iff_of_fits {x y : Int32} {rects : List Rect}
    (h : ∀ rect ∈ rects, rect.fits = true) :
    isInHotArea x y rects = true ↔ ∃ rect ∈ rects, rect.Contains x y := by
  rw [isInHotArea_iff, List.takeWhile_eq_self_iff.mpr h]

/-- A rectangle that does not fit hides those behind it. -/
theorem isInHotArea_cons_of_not_fits {x y : Int32} {item : Rect} (h : ¬ item.fits = true)
    (rects : List Rect) : isInHotArea x y (item :: rects) = false := by
  rw [Bool.eq_false_iff, Ne, isInHotArea_iff, List.takeWhile_cons_of_neg h]
  rintro ⟨_, hmem, _⟩
  cases hmem

/-! ## Hot-area test is exact -/

/-- In whatever order the rectangles stand, the answer is whether one of them
contains the point. -/
def HotAreaExact (x y : Int32) (rects : List Rect) : Prop :=
  ∀ rects', rects'.Perm rects →
    (isInHotArea x y rects' = true ↔ ∃ rect ∈ rects, rect.Contains x y)

/-- The test is exact and independent of the order precisely if all
rectangles fit, or none contains the point. -/
theorem hotAreaExact_iff (x y : Int32) (rects : List Rect) :
    HotAreaExact x y rects ↔
      (∀ rect ∈ rects, rect.fits = true) ∨ ∀ rect ∈ rects, ¬ rect.Contains x y := by
  constructor
  · intro hexact
    by_contra hneither
    push Not at hneither
    obtain ⟨⟨item, hitem, hnot⟩, hsome⟩ := hneither
    -- The rectangle that does not fit is moved to the front.
    have hfirst := hexact _ (List.perm_cons_erase hitem).symm
    rw [isInHotArea_cons_of_not_fits hnot] at hfirst
    exact Bool.false_ne_true (hfirst.mpr hsome)
  · rintro (hfits | hnone) rects' hperm
    · rw [isInHotArea_iff_of_fits fun rect hrect => hfits rect (hperm.subset hrect)]
      simp only [hperm.mem_iff]
    · constructor
      · intro h
        obtain ⟨rect, hrect, hcontains⟩ := exists_contains_of_isInHotArea h
        exact ⟨rect, hperm.subset hrect, hcontains⟩
      · rintro ⟨rect, hrect, hcontains⟩
        exact absurd hcontains (hnone rect hrect)

/-- A window at the far right of the number range stands before one that
contains the point. -/
theorem counterexample_hotAreaExact :
    ¬ (isInHotArea 10 10 [⟨2147483647, 0, 100, 100⟩, ⟨0, 0, 100, 100⟩] = true ↔
      ∃ rect ∈ [(⟨2147483647, 0, 100, 100⟩ : Rect), ⟨0, 0, 100, 100⟩], rect.Contains 10 10) := by
  decide

end FtMmi.WindowManager
