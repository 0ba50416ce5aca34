/-
FtMmi.MouseEventNormalize.CursorConfinement — where
`UpdateAndAdjustMouseLocation` leaves the mouse, and if it would stay
there.

The result is always inside a display of the layout as it is turned. The
inside test and the search for a display go by the display as it is not
turned, so a point between the two rectangles may be another display's: it
is there that a second call moves the mouse once more.
-/
import FtMmi.MouseEventNormalize.MouseOnDisplay
import FtMmi.WindowManager.HotArea

namespace FtMmi.MouseEventNormalize

open FtMmi.WindowManager

namespace MotionService

/-! ## The nearest point -/

/-- The point of the display as it is turned that is nearest to a point. -/
def nearest (displayInfo : DisplayInfo) (x y : Int32) : Int32 × Int32 :=
  (adjust (boundWidth displayInfo) x, adjust (boundHeight displayInfo) y)

theorem adjust_of_mem {size c : Int32} (h : 0 ≤ c.toInt ∧ c.toInt < size.toInt) :
    adjust size c = c := by
  have hzero : (0 : Int32).toInt = 0 := rfl
  have hnonneg : ¬ c < 0 := by
    rw [Int32.lt_iff_toInt_lt, hzero]
    omega
  have hlarge : ¬ size ≤ c := by
    rw [Int32.le_iff_toInt_le]
    omega
  simp [adjust, hnonneg, hlarge]

theorem adjust_adjust {size : Int32} (hsize : 0 < size) (c : Int32) :
    adjust size (adjust size c) = adjust size c :=
  adjust_of_mem (adjust_mem hsize c)

theorem nearest_nearest {displayInfo : DisplayInfo} (hwidth : 0 < boundWidth displayInfo)
    (hheight : 0 < boundHeight displayInfo) (x y : Int32) :
    nearest displayInfo (nearest displayInfo x y).1 (nearest displayInfo x y).2
      = nearest displayInfo x y := by
  simp only [nearest, adjust_adjust hwidth, adjust_adjust hheight]

/-- Raising and lowering a coordinate does not take it out of a range that
starts at 0. -/
theorem adjust_mem_of_mem {size bound c : Int32} (hsize : 0 < size) (h : 0 ≤ c ∧ c < bound) :
    0 ≤ adjust size c ∧ adjust size c < bound := by
  obtain ⟨hlow, hhigh⟩ := adjust_mem hsize c
  have hzero : (0 : Int32).toInt = 0 := rfl
  have hone : (1 : Int32).toInt = 1 := rfl
  have hsize' : 0 < size.toInt := by simpa [Int32.lt_iff_toInt_lt] using hsize
  obtain ⟨hnonneg, hlt⟩ := h
  have hnot : ¬ c < 0 := Int32.not_lt.mpr hnonneg
  rw [Int32.le_iff_toInt_le, Int32.lt_iff_toInt_lt, hzero]
  rw [Int32.lt_iff_toInt_lt] at hlt
  refine ⟨hlow, ?_⟩
  by_cases hlarge : size ≤ c
  · rw [Int32.le_iff_toInt_le] at hlarge
    omega
  · have heq : adjust size c = c := by simp [adjust, hnot, hlarge]
    rw [heq]
    exact hlt

theorem isInsideDisplay_nearest {displayInfo : DisplayInfo} {x y : Int32}
    (hwidth : 0 < boundWidth displayInfo) (hheight : 0 < boundHeight displayInfo)
    (h : isInsideDisplay displayInfo x y = true) :
    isInsideDisplay displayInfo (nearest displayInfo x y).1 (nearest displayInfo x y).2 = true := by
  simp only [isInsideDisplay, decide_eq_true_eq] at h ⊢
  obtain ⟨hx, hx', hy, hy'⟩ := h
  obtain ⟨hlowX, hhighX⟩ := adjust_mem_of_mem hwidth ⟨hx, hx'⟩
  obtain ⟨hlowY, hhighY⟩ := adjust_mem_of_mem hheight ⟨hy, hy'⟩
  exact ⟨hlowX, hhighX, hlowY, hhighY⟩

/-! ## The display at a point -/

/-- The rectangle of a display as it is not turned. -/
def area (displayInfo : DisplayInfo) : Rect :=
  ⟨displayInfo.x, displayInfo.y, displayInfo.width, displayInfo.height⟩

/-- The first display at a place of the layout. The displays from the first
one on whose end overflows are not seen. -/
def firstDisplayAt (logicalX logicalY : Int32) (displaysInfo : List DisplayInfo) :
    Option DisplayInfo :=
  (displaysInfo.takeWhile fun item => (area item).fits).find? fun item =>
    (area item).Contains logicalX logicalY

theorem findDisplayAt_eq (logicalX logicalY : Int32) (displaysInfo : List DisplayInfo) :
    findDisplayAt logicalX logicalY displaysInfo
      = (firstDisplayAt logicalX logicalY displaysInfo).map fun item =>
          (logicalX - item.x, logicalY - item.y, item.id) := by
  induction displaysInfo with
  | nil => rfl
  | cons item displaysInfo ih =>
    unfold findDisplayAt firstDisplayAt
    cases hx : addInt32 item.x item.width with
    | none => simp [area, Rect.fits, hx]
    | some displayMaxX =>
      cases hy : addInt32 item.y item.height with
      | none => simp [area, Rect.fits, hx, hy]
      | some displayMaxY =>
        have hfits : (area item).fits = true := by simp [area, Rect.fits, hx, hy]
        have hcontains : (area item).Contains logicalX logicalY ↔ _ :=
          Rect.contains_iff_of_ends hx hy
        rw [List.takeWhile_cons_of_pos (p := fun item => (area item).fits) hfits]
        by_cases hin : (area item).Contains logicalX logicalY
        · rw [List.find?_cons_of_pos
            (p := fun item => decide ((area item).Contains logicalX logicalY))
            (decide_eq_true hin)]
          exact if_pos (hcontains.mp hin)
        · rw [List.find?_cons_of_neg
            (p := fun item => decide ((area item).Contains logicalX logicalY))
            (by simpa using hin)]
          exact (if_neg fun h => hin (hcontains.mpr h)).trans ih

/-- The display at a point of a display. -/
def displayAt (group : DisplayGroupInfo) (displayInfo : DisplayInfo) (x y : Int32) :
    Option DisplayInfo :=
  match addInt32 x displayInfo.x, addInt32 y displayInfo.y with
  | some logicalX, some logicalY => firstDisplayAt logicalX logicalY group.displaysInfo
  | _, _ => none

/-- A point of a display, as a point of another one. -/
def carry (displayInfo item : DisplayInfo) (x y : Int32) : Int32 × Int32 :=
  (x + displayInfo.x - item.x, y + displayInfo.y - item.y)

theorem addInt32_eq {op1 op2 res : Int32} (h : addInt32 op1 op2 = some res) : res = op1 + op2 := by
  unfold addInt32 at h
  dsimp only at h
  split at h
  · exact (Option.some.inj h).symm
  · cases h

theorem findPhysicalDisplay_eq (group : DisplayGroupInfo) (displayInfo : DisplayInfo)
    (x y displayId : Int32) :
    findPhysicalDisplay group displayInfo x y displayId =
      match displayAt group displayInfo x y with
      | some item => ((carry displayInfo item x y).1, (carry displayInfo item x y).2, item.id)
      | none => (x, y, displayId) := by
  unfold findPhysicalDisplay displayAt
  cases hx : addInt32 x displayInfo.x with
  | none => rfl
  | some logicalX =>
    cases hy : addInt32 y displayInfo.y with
    | none => rfl
    | some logicalY =>
      cases addInt32_eq hx
      cases addInt32_eq hy
      dsimp only
      rw [findDisplayAt_eq]
      cases firstDisplayAt (x + displayInfo.x) (y + displayInfo.y) group.displaysInfo <;> rfl

/-- The display found is one of the layout, and the point is inside it. -/
theorem displayAt_spec {group : DisplayGroupInfo} {displayInfo item : DisplayInfo} {x y : Int32}
    (h : displayAt group displayInfo x y = some item) :
    item ∈ group.displaysInfo ∧
      isInsideDisplay item (carry displayInfo item x y).1 (carry displayInfo item x y).2 = true := by
  unfold displayAt at h
  split at h
  · rename_i logicalX logicalY hx hy
    cases addInt32_eq hx
    cases addInt32_eq hy
    unfold firstDisplayAt at h
    have hfound := List.find?_some h
    have hcontains : (area item).Contains (x + displayInfo.x) (y + displayInfo.y) :=
      of_decide_eq_true hfound
    have hmem := (List.takeWhile_prefix _).subset (List.mem_of_find?_eq_some h)
    refine ⟨hmem, ?_⟩
    obtain ⟨_, ⟨hlowX, hhighX⟩, hlowY, hhighY⟩ := hcontains
    simp only [area] at hlowX hhighX hlowY hhighY
    have hmaxX := item.width.toInt_lt
    have hmaxY := item.height.toInt_lt
    have hsubX : (x + displayInfo.x - item.x).toInt
        = (x + displayInfo.x).toInt - item.x.toInt := by
      rw [Int32.toInt_sub, Int.bmod_eq_of_le (by omega) (by omega)]
    have hsubY : (y + displayInfo.y - item.y).toInt
        = (y + displayInfo.y).toInt - item.y.toInt := by
      rw [Int32.toInt_sub, Int.bmod_eq_of_le (by omega) (by omega)]
    have hzero : (0 : Int32).toInt = 0 := rfl
    simp only [isInsideDisplay, carry, decide_eq_true_eq, Int32.le_iff_toInt_le,
      Int32.lt_iff_toInt_lt, hsubX, hsubY, hzero]
    omega
  · cases h

/-- The point and the display the mouse goes to from a point of a display. -/
def destination (group : DisplayGroupInfo) (displayInfo : DisplayInfo) (x y displayId : Int32) :
    Int32 × Int32 × Int32 :=
  if isInsideDisplay displayInfo x y then (x, y, displayId)
  else
    match displayAt group displayInfo x y with
    | some item => ((carry displayInfo item x y).1, (carry displayInfo item x y).2, item.id)
    | none => (x, y, displayId)

/-- At a point of a display as it is turned the mouse stays, if the point is
inside the display as it is not turned, or no other display is there. -/
def Rests (group : DisplayGroupInfo) (displayInfo : DisplayInfo) (p : Int32 × Int32) : Prop :=
  isInsideDisplay displayInfo p.1 p.2 = true ∨
    ∀ item ∈ displayAt group displayInfo p.1 p.2,
      item.id = displayInfo.id ∧
        nearest displayInfo (carry displayInfo item p.1 p.2).1 (carry displayInfo item p.1 p.2).2
          = p

instance (group : DisplayGroupInfo) (displayInfo : DisplayInfo) (p : Int32 × Int32) :
    Decidable (Rests group displayInfo p) := by unfold Rests; infer_instance

variable {s : MotionService}

/-! ## One call -/

/-- The mouse at a point of its display. -/
def place (s : MotionService) (x y : Int32) : MotionService :=
  { s with absolutionX := x.toInt, absolutionY := y.toInt }

/-- The mouse as the call leaves it. -/
def land (s : MotionService) (displayId : Int32) (p : Int32 × Int32) : MotionService :=
  { s with
    currentDisplayId := displayId
    absolutionX := p.1.toInt
    absolutionY := p.2.toInt
    mouseLocation := ⟨p.1, p.2⟩ }

theorem land_inj {displayId displayId' : Int32} {p p' : Int32 × Int32} :
    s.land displayId p = s.land displayId' p' ↔ displayId = displayId' ∧ p = p' := by
  constructor
  · intro h
    have hid := congrArg MotionService.currentDisplayId h
    have hlocation := congrArg MotionService.mouseLocation h
    simp only [land, MouseLocation.mk.injEq] at hid hlocation
    exact ⟨hid, Prod.ext hlocation.1 hlocation.2⟩
  · rintro ⟨rfl, rfl⟩
    rfl

theorem truncate_toInt (c : Int32) : truncate (c.toInt : ℚ) = c := by
  simp [truncate]

theorem destination_hasDisplay {group : DisplayGroupInfo} {displayId : Int32}
    (h : HasDisplay group displayId) (displayInfo : DisplayInfo) (x y : Int32) :
    HasDisplay group (destination group displayInfo x y displayId).2.2 := by
  unfold destination
  split
  · exact h
  · rw [← findPhysicalDisplay_eq]
    exact findPhysicalDisplay_hasDisplay h displayInfo x y

/-- The call takes the mouse to the nearest point of the display it goes
to. -/
theorem updateAndAdjust_place {displayInfo : DisplayInfo} (x y : Int32)
    (h : s.displayGroupInfo.getPhysicalDisplay s.currentDisplayId = some displayInfo) :
    ∃ found, s.displayGroupInfo.getPhysicalDisplay
        (destination s.displayGroupInfo displayInfo x y s.currentDisplayId).2.2 = some found ∧
      (s.place x y).updateAndAdjustMouseLocation
        = s.land (destination s.displayGroupInfo displayInfo x y s.currentDisplayId).2.2
          (nearest found
            (destination s.displayGroupInfo displayInfo x y s.currentDisplayId).1
            (destination s.displayGroupInfo displayInfo x y s.currentDisplayId).2.1) := by
  have hcurrent : HasDisplay s.displayGroupInfo s.currentDisplayId :=
    Option.isSome_iff_exists.mpr ⟨displayInfo, h⟩
  have hdestination : (if isInsideDisplay displayInfo x y then (x, y, s.currentDisplayId)
      else findPhysicalDisplay s.displayGroupInfo displayInfo x y s.currentDisplayId)
        = destination s.displayGroupInfo displayInfo x y s.currentDisplayId := by
    rw [findPhysicalDisplay_eq]
    rfl
  obtain ⟨found, hfound⟩ := Option.isSome_iff_exists.mp
    (destination_hasDisplay hcurrent displayInfo x y)
  refine ⟨found, hfound, ?_⟩
  unfold updateAndAdjustMouseLocation
  simp only [place, truncate_toInt, h, hdestination]
  generalize destination s.displayGroupInfo displayInfo x y s.currentDisplayId = r at hfound ⊢
  obtain ⟨integerX, integerY, displayId⟩ := r
  have hsame : (if displayId ≠ s.currentDisplayId then
      s.displayGroupInfo.getPhysicalDisplay displayId else some displayInfo) = some found := by
    split
    · exact hfound
    · next heq => rw [← h, ← not_not.mp heq, hfound]
  simp only [hsame, Int.fract_intCast, add_zero]
  rfl

/-- A second call changes nothing precisely if the mouse rests where the first
one takes it. -/
theorem updateAndAdjust_twice_iff {displayInfo found : DisplayInfo} {x y : Int32}
    (hsized : Sized s.displayGroupInfo)
    (h : s.displayGroupInfo.getPhysicalDisplay s.currentDisplayId = some displayInfo)
    (hfound : s.displayGroupInfo.getPhysicalDisplay
      (destination s.displayGroupInfo displayInfo x y s.currentDisplayId).2.2 = some found) :
    (s.place x y).updateAndAdjustMouseLocation.updateAndAdjustMouseLocation
        = (s.place x y).updateAndAdjustMouseLocation ↔
      Rests s.displayGroupInfo found (nearest found
        (destination s.displayGroupInfo displayInfo x y s.currentDisplayId).1
        (destination s.displayGroupInfo displayInfo x y s.currentDisplayId).2.1) := by
  obtain ⟨_, hfound', hfirst⟩ := updateAndAdjust_place x y h
  cases hfound.symm.trans hfound'
  generalize destination s.displayGroupInfo displayInfo x y s.currentDisplayId = r at *
  have hid : found.id = r.2.2 := by simpa using List.find?_some hfound
  obtain ⟨hwidth, hheight⟩ := boundWidth_pos hsized (List.mem_of_find?_eq_some hfound)
  have hagain := nearest_nearest hwidth hheight r.1 r.2.1
  generalize nearest found r.1 r.2.1 = p at *
  rw [hfirst]
  -- The second call starts from the display and the point where the first one ends.
  obtain ⟨next, hnext, hsecond⟩ := updateAndAdjust_place (s := s.land r.2.2 p) p.1 p.2 hfound
  have hplace : (s.land r.2.2 p).place p.1 p.2 = s.land r.2.2 p := rfl
  rw [hplace] at hsecond
  have hland : ∀ displayId q, (s.land r.2.2 p).land displayId q = s.land displayId q :=
    fun _ _ => rfl
  rw [hsecond, hland, land_inj]
  have hgroup : (s.land r.2.2 p).displayGroupInfo = s.displayGroupInfo := rfl
  have hcurrent : (s.land r.2.2 p).currentDisplayId = r.2.2 := rfl
  rw [hgroup, hcurrent] at hnext ⊢
  by_cases hinside : isInsideDisplay found p.1 p.2 = true
  · simp only [destination, if_pos hinside] at hnext ⊢
    cases hfound.symm.trans hnext
    exact iff_of_true ⟨trivial, hagain⟩ (.inl hinside)
  · simp only [destination, if_neg hinside] at hnext ⊢
    unfold Rests
    rw [or_iff_right hinside]
    cases hat : displayAt s.displayGroupInfo found p.1 p.2 with
    | none =>
      simp only [hat] at hnext ⊢
      cases hfound.symm.trans hnext
      exact iff_of_true ⟨trivial, hagain⟩ (fun _ hr => nomatch hr)
    | some item =>
      simp only [hat] at hnext ⊢
      simp only [Option.mem_some_iff, forall_eq', hid]
      refine and_congr_right fun hsame => ?_
      rw [hsame] at hnext
      cases hfound.symm.trans hnext
      rfl

/-! ## Cursor confinement -/

/-- The call takes the mouse to a display of the layout, inside its bounds as
it is turned, and a second call changes nothing. -/
def Confined (s : MotionService) : Prop :=
  s.updateAndAdjustMouseLocation.OnDisplay ∧
    s.updateAndAdjustMouseLocation.updateAndAdjustMouseLocation = s.updateAndAdjustMouseLocation

/-- The mouse is inside its display; or another display is at its point, and
it rests at the nearest point of the display with its id; or none is, and it
rests at the nearest point of its own. -/
def Settled (group : DisplayGroupInfo) (displayInfo : DisplayInfo) (x y : Int32) : Prop :=
  isInsideDisplay displayInfo x y = true ∨
    match displayAt group displayInfo x y with
    | some item => ∀ found ∈ group.getPhysicalDisplay item.id,
        Rests group found
          (nearest found (carry displayInfo item x y).1 (carry displayInfo item x y).2)
    | none => Rests group displayInfo (nearest displayInfo x y)

/-- Where the ids are distinct the mouse rests on every display it gets to
from outside. -/
theorem settled_iff {group : DisplayGroupInfo} {displayInfo : DisplayInfo} (x y : Int32)
    (hsized : Sized group) (hids : (group.displaysInfo.map DisplayInfo.id).Nodup) :
    Settled group displayInfo x y ↔ isInsideDisplay displayInfo x y = true ∨
      (displayAt group displayInfo x y = none →
        Rests group displayInfo (nearest displayInfo x y)) := by
  refine or_congr_right ?_
  cases hat : displayAt group displayInfo x y with
  | none => simp
  | some item =>
    obtain ⟨hmem, hinside⟩ := displayAt_spec hat
    refine iff_of_true (fun found hfound => ?_) (fun h => nomatch h)
    have hid : found.id = item.id := by simpa using List.find?_some hfound
    have hsame : found = item :=
      List.inj_on_of_nodup_map hids (List.mem_of_find?_eq_some hfound) hmem hid
    subst hsame
    obtain ⟨hwidth, hheight⟩ := boundWidth_pos hsized hmem
    exact .inl (isInsideDisplay_nearest hwidth hheight hinside)

/-- From any point of any display of the layout the call takes the mouse inside
a display, and a second one changes nothing, precisely if the mouse is
settled. -/
theorem confined_iff {displayInfo : DisplayInfo} (x y : Int32)
    (hsized : Sized s.displayGroupInfo)
    (h : s.displayGroupInfo.getPhysicalDisplay s.currentDisplayId = some displayInfo) :
    (s.place x y).Confined ↔ Settled s.displayGroupInfo displayInfo x y := by
  have hcurrent : HasDisplay s.displayGroupInfo s.currentDisplayId :=
    Option.isSome_iff_exists.mpr ⟨displayInfo, h⟩
  have honDisplay := updateAndAdjust_onDisplay (s := s.place x y) hsized hcurrent
  obtain ⟨found, hfound, _⟩ := updateAndAdjust_place x y h
  rw [Confined, and_iff_right honDisplay, updateAndAdjust_twice_iff hsized h hfound]
  unfold Settled
  by_cases hinside : isInsideDisplay displayInfo x y = true
  · simp only [destination, if_pos hinside] at hfound ⊢
    cases h.symm.trans hfound
    obtain ⟨hwidth, hheight⟩ := boundWidth_pos hsized (List.mem_of_find?_eq_some h)
    exact iff_of_true (.inl (isInsideDisplay_nearest hwidth hheight hinside)) (.inl hinside)
  · simp only [destination, if_neg hinside] at hfound ⊢
    rw [or_iff_right hinside]
    cases hat : displayAt s.displayGroupInfo displayInfo x y with
    | none =>
      simp only [hat] at hfound ⊢
      cases h.symm.trans hfound
      rfl
    | some item =>
      simp only [hat] at hfound ⊢
      simp [hfound]

/-- A display turned by 90 degrees, with another one to the right of it as it
is not turned. -/
def besideTurned : MotionService :=
  { create 5 with
    currentDisplayId := 0
    displayGroupInfo := ⟨1, [], [⟨0, 0, 0, 100, 200, "default0", .direction90⟩,
      ⟨1, 100, 0, 100, 200, "default1", .direction0⟩]⟩ }

theorem confined_iff_besideTurned :
    (besideTurned.place 150 (-5)).Confined ↔
      Settled besideTurned.displayGroupInfo ⟨0, 0, 0, 100, 200, "default0", .direction90⟩ 150
        (-5) :=
  confined_iff 150 (-5) (by decide) (by decide)

/-- The first call leaves the mouse at (150, 0) of the turned display, and the
second takes it to (50, 0) of the other one. -/
theorem counterexample_confined : ¬ (besideTurned.place 150 (-5)).Confined := by
  rintro ⟨_, htwice⟩
  exact absurd (congrArg currentDisplayId htwice) (by decide +kernel)

end MotionService

end FtMmi.MouseEventNormalize
