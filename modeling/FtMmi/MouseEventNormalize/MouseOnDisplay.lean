/-
FtMmi.MouseEventNormalize.MouseOnDisplay — when the mouse is on a display of
the layout after each motion.

`updateAndAdjust_onDisplay` is the whole of a motion: from a display of the
layout the mouse gets to a display of the layout, and inside it. So it is a
matter of the display that is remembered, and this one is lost with a new
layout: `InitAbsolution` takes the display 0, whether there is one or not,
and `OnDisplayInfo` looks for the display that was drawn on instead of the
one the mouse is on. A mouse that is lost stays lost (`always_lost`).
-/
import FtMmi.Lib.StepSystem
import FtMmi.MouseEventNormalize.MouseMotion

namespace FtMmi.MouseEventNormalize

open FtMmi.WindowManager
open FtMmi.Lib

namespace MotionService

/-! ## The property -/

/-- The current display is one of the layout, and the position inside it. -/
def OnDisplay (s : MotionService) : Prop :=
  ∃ displayInfo ∈ s.displayGroupInfo.getPhysicalDisplay s.currentDisplayId,
    (0 ≤ s.absolutionX ∧ s.absolutionX < (boundWidth displayInfo).toInt) ∧
      0 ≤ s.absolutionY ∧ s.absolutionY < (boundHeight displayInfo).toInt

instance (s : MotionService) : Decidable s.OnDisplay := by unfold OnDisplay; infer_instance

def MotionInput.IsMotion : MotionInput → Prop
  | .updateDisplayInfo _ _ => False
  | .motion _ _ _ _ => True
  | .motionAbsolute _ _ _ _ => True

def StaysOnDisplay (s : MotionService) (i : MotionInput) : Prop :=
  i.IsMotion → s.displayGroupInfo.displaysInfo ≠ [] → (s.step i).OnDisplay

/-! ## The condition -/

def HasDisplay (group : DisplayGroupInfo) (id : Int32) : Prop :=
  (group.getPhysicalDisplay id).isSome

instance (group : DisplayGroupInfo) (id : Int32) : Decidable (HasDisplay group id) := by
  unfold HasDisplay; infer_instance

def Sized (group : DisplayGroupInfo) : Prop :=
  ∀ item ∈ group.displaysInfo, 0 < item.width ∧ 0 < item.height

instance (group : DisplayGroupInfo) : Decidable (Sized group) := by
  unfold Sized; infer_instance

/-- If the layout has the display drawn on, it has the one of the mouse; if
not, it has a display 0, or the one of the mouse comes first. A motion too
short to be accelerated finds the mouse on a display. -/
def Met (s : MotionService) : MotionInput → Prop
  | .updateDisplayInfo _ group => group.displaysInfo ≠ [] → Sized group ∧
      if HasDisplay group s.displayInfo.id then HasDisplay group s.current
      else HasDisplay group 0 ∨ ∃ first ∈ group.displaysInfo.head?, first.id = s.current
  | .motion screenSize dx dy _ => s.displayGroupInfo.displaysInfo ≠ [] →
      getSpeedGain s.speed (motionSpeed dx dy) = none → (s.initAbsolution screenSize).OnDisplay
  | .motionAbsolute _ _ _ _ => True

instance (s : MotionService) (i : MotionInput) : Decidable (s.Met i) := by
  cases i <;> unfold Met <;> infer_instance

/-! ## One motion -/

theorem boundWidth_pos {group : DisplayGroupInfo} (h : Sized group) {item : DisplayInfo}
    (hitem : item ∈ group.displaysInfo) : 0 < boundWidth item ∧ 0 < boundHeight item := by
  obtain ⟨hwidth, hheight⟩ := h item hitem
  unfold boundWidth boundHeight
  split
  · exact ⟨hwidth, hheight⟩
  · exact ⟨hheight, hwidth⟩

theorem adjust_mem {size : Int32} (hsize : 0 < size) (integer : Int32) :
    0 ≤ (adjust size integer).toInt ∧ (adjust size integer).toInt < size.toInt := by
  have hpos : 0 < size.toInt := by simpa using Int32.lt_iff_toInt_lt.mp hsize
  have hlt : size.toInt < 2 ^ 31 := size.toInt_lt
  have hone : (size - 1).toInt = size.toInt - 1 := by
    rw [Int32.toInt_sub]
    have hval : (1 : Int32).toInt = 1 := rfl
    rw [hval]
    exact Int.bmod_eq_of_le (by omega) (by omega)
  unfold adjust
  dsimp only
  generalize hraised : (if integer < 0 then 0 else integer) = raised
  have hraised_nonneg : 0 ≤ raised.toInt := by
    subst hraised
    split
    · exact le_refl _
    · next hneg => simpa [Int32.lt_iff_toInt_lt] using hneg
  split
  · rw [hone]
    omega
  · next hlarge =>
    rw [Int32.le_iff_toInt_le] at hlarge
    omega

/-- A point of the display with its integer part. -/
theorem adjusted_mem {size : Int32} (hsize : 0 < size) (integer : Int32) (x : ℚ) :
    0 ≤ ((adjust size integer).toInt : ℚ) + Int.fract x ∧
      ((adjust size integer).toInt : ℚ) + Int.fract x < size.toInt := by
  obtain ⟨hlow, hhigh⟩ := adjust_mem hsize integer
  have hnonneg : 0 ≤ Int.fract x := Int.fract_nonneg x
  have hone : Int.fract x < 1 := Int.fract_lt_one x
  have hlow' : (0 : ℚ) ≤ (adjust size integer).toInt := by exact_mod_cast hlow
  have hhigh' : ((adjust size integer).toInt : ℚ) + 1 ≤ size.toInt := by exact_mod_cast hhigh
  constructor <;> linarith

/-- `FindPhysicalDisplay` stays where it is or finds a display of the layout. -/
theorem findDisplayAt_mem {logicalX logicalY : Int32} {displaysInfo : List DisplayInfo}
    {r : Int32 × Int32 × Int32} (h : findDisplayAt logicalX logicalY displaysInfo = some r) :
    ∃ item ∈ displaysInfo, item.id = r.2.2 := by
  induction displaysInfo with
  | nil => simp [findDisplayAt] at h
  | cons item displaysInfo ih =>
    simp only [findDisplayAt] at h
    split at h
    · simp at h
    · split at h
      · simp at h
      · split at h
        · cases h
          exact ⟨item, List.mem_cons_self, rfl⟩
        · obtain ⟨found, hmem, hid⟩ := ih h
          exact ⟨found, List.mem_cons_of_mem _ hmem, hid⟩

theorem hasDisplay_iff (group : DisplayGroupInfo) (id : Int32) :
    HasDisplay group id ↔ ∃ item ∈ group.displaysInfo, item.id = id := by
  simp [HasDisplay, DisplayGroupInfo.getPhysicalDisplay]

theorem findPhysicalDisplay_hasDisplay {group : DisplayGroupInfo} {displayId : Int32}
    (h : HasDisplay group displayId) (displayInfo : DisplayInfo) (physicalX physicalY : Int32) :
    HasDisplay group (findPhysicalDisplay group displayInfo physicalX physicalY displayId).2.2 := by
  unfold findPhysicalDisplay
  split
  · exact h
  · split
    · exact h
    · next logicalX _ _ logicalY _ =>
      cases hfound : findDisplayAt logicalX logicalY group.displaysInfo with
      | none => exact h
      | some r => exact (hasDisplay_iff _ _).mpr (findDisplayAt_mem hfound)

/-- From a display of the layout the mouse gets to one, and inside it. -/
theorem updateAndAdjust_onDisplay {s : MotionService} (hsized : Sized s.displayGroupInfo)
    (h : HasDisplay s.displayGroupInfo s.currentDisplayId) :
    s.updateAndAdjustMouseLocation.OnDisplay := by
  obtain ⟨displayInfo, hdisplay⟩ := Option.isSome_iff_exists.mp h
  unfold updateAndAdjustMouseLocation
  simp only [hdisplay]
  generalize hr : (if isInsideDisplay displayInfo (truncate s.absolutionX)
    (truncate s.absolutionY) then _ else _) = r
  obtain ⟨integerX, integerY, displayId⟩ := r
  have hid : HasDisplay s.displayGroupInfo displayId := by
    split at hr
    · cases hr
      exact h
    · have hfound := findPhysicalDisplay_hasDisplay h displayInfo (truncate s.absolutionX)
        (truncate s.absolutionY)
      rwa [hr] at hfound
  have hsame : (if displayId ≠ s.currentDisplayId then
      s.displayGroupInfo.getPhysicalDisplay displayId else some displayInfo) =
        s.displayGroupInfo.getPhysicalDisplay displayId := by
    split
    · rfl
    · next heq => rw [not_not.mp heq, hdisplay]
  obtain ⟨found, hfound⟩ := Option.isSome_iff_exists.mp hid
  obtain ⟨hwidth, hheight⟩ := boundWidth_pos hsized (List.mem_of_find?_eq_some hfound)
  simp only [hsame.trans hfound]
  exact ⟨found, hfound, adjusted_mem hwidth integerX _, adjusted_mem hheight integerY _⟩

/-! ## The invariant -/

/-- The layout, if there is one, has the display the next motion starts from. -/
def Inv (s : MotionService) : Prop :=
  s.displayGroupInfo.displaysInfo ≠ [] →
    Sized s.displayGroupInfo ∧ HasDisplay s.displayGroupInfo s.current

theorem create_inv (speed : Fin 11) : (create speed).Inv := fun h => absurd rfl h

/-- A mouse on a display has been set. -/
theorem OnDisplay.hasDisplay_current {s : MotionService} (h : s.OnDisplay) :
    HasDisplay s.displayGroupInfo s.current := by
  obtain ⟨displayInfo, hdisplay, ⟨hlow, -⟩, -⟩ := h
  have hset : ¬ s.Unset := by
    rintro ⟨hx, -, -⟩
    rw [hx] at hlow
    norm_num at hlow
  rw [current, if_neg hset]
  exact Option.isSome_iff_exists.mpr ⟨displayInfo, hdisplay⟩

theorem OnDisplay.updateMouseTarget {s : MotionService} (h : s.OnDisplay) (drawn : Bool) :
    (s.updateMouseTarget drawn).OnDisplay := by
  obtain ⟨displayInfo, heq⟩ := updateMouseTarget_eq s drawn
  rw [heq]
  exact h

theorem updateMouseTarget_inv {s : MotionService} (h : s.Inv) (drawn : Bool) :
    (s.updateMouseTarget drawn).Inv := by
  obtain ⟨displayInfo, heq⟩ := updateMouseTarget_eq s drawn
  rw [heq]
  exact h

theorem inv_of_onDisplay {s : MotionService}
    (h : s.displayGroupInfo.displaysInfo ≠ [] → Sized s.displayGroupInfo ∧ s.OnDisplay) : s.Inv :=
  fun hne => ⟨(h hne).1, (h hne).2.hasDisplay_current⟩

/-! ## Motions -/

theorem handleMotionInner_displayGroupInfo (s : MotionService) (screenSize : ScreenSize)
    (dx dy : ℚ) : (s.handleMotionInner screenSize dx dy).displayGroupInfo = s.displayGroupInfo := by
  unfold handleMotionInner
  dsimp only
  cases hmoved : (s.initAbsolution screenSize).handleMotionAccelerate dx dy with
  | none => simp
  | some r =>
    obtain ⟨absolutionX, absolutionY, rfl⟩ := handleMotionAccelerate_some hmoved
    simp

theorem handleMotionAbsoluteInner_displayGroupInfo (s : MotionService) (screenSize : ScreenSize)
    (transformedX transformedY : Int32 → ℚ) :
    (s.handleMotionAbsoluteInner screenSize transformedX transformedY).displayGroupInfo =
      s.displayGroupInfo := by
  simp [handleMotionAbsoluteInner, handleMotionAbsoluteAccelerate]

theorem Inv.motion {s : MotionService} (h : s.Inv) {screenSize : ScreenSize} {dx dy : ℚ}
    {drawn : Bool} (hmet : s.Met (.motion screenSize dx dy drawn))
    (hne : s.displayGroupInfo.displaysInfo ≠ []) :
    (s.handleMotionInner screenSize dx dy).OnDisplay := by
  obtain ⟨hsized, hcurrent⟩ := h hne
  unfold handleMotionInner
  dsimp only
  cases hmoved : (s.initAbsolution screenSize).handleMotionAccelerate dx dy with
  | none =>
    have hshort := handleMotionAccelerate_none hmoved
    rw [initAbsolution_speed] at hshort
    exact hmet hne hshort
  | some r =>
    obtain ⟨absolutionX, absolutionY, rfl⟩ := handleMotionAccelerate_some hmoved
    exact updateAndAdjust_onDisplay (by simpa using hsized) (by simpa using hcurrent)

theorem Inv.motionAbsolute {s : MotionService} (h : s.Inv) (screenSize : ScreenSize)
    (transformedX transformedY : Int32 → ℚ) (hne : s.displayGroupInfo.displaysInfo ≠ []) :
    (s.handleMotionAbsoluteInner screenSize transformedX transformedY).OnDisplay := by
  obtain ⟨hsized, hcurrent⟩ := h hne
  exact updateAndAdjust_onDisplay (by simpa [handleMotionAbsoluteAccelerate] using hsized)
    (by simpa [handleMotionAbsoluteAccelerate] using hcurrent)

/-! ## Layouts -/

/-- The display the mouse is on has come first, or there is a display 0. -/
theorem onDisplayLost_inv {s : MotionService} {first : DisplayInfo}
    (hfirst : first ∈ s.displayGroupInfo.displaysInfo) (hsized : Sized s.displayGroupInfo)
    (h : HasDisplay s.displayGroupInfo 0 ∨ first.id = s.current) (screenSize : ScreenSize) :
    (s.onDisplayLost screenSize first.id).Inv := by
  have hzero : s.Unset → HasDisplay s.displayGroupInfo 0 := by
    intro hunset
    rcases h with h | h
    · exact h
    · rw [current, if_pos hunset] at h
      exact (hasDisplay_iff _ _).mpr ⟨first, hfirst, h⟩
  unfold onDisplayLost
  split
  · next hne =>
    refine inv_of_onDisplay fun _ => ⟨by simpa using hsized, ?_⟩
    refine updateAndAdjust_onDisplay (by simpa using hsized) ?_
    have hlost : HasDisplay s.displayGroupInfo 0 := by
      by_cases hunset : s.Unset
      · exact hzero hunset
      · rcases h with h | h
        · exact h
        · rw [current, if_neg hunset] at h
          exact absurd h.symm hne
    simpa [current, Unset] using hlost
  · next heq =>
    intro _
    refine ⟨hsized, ?_⟩
    by_cases hunset : s.Unset
    · rw [current, if_pos hunset]
      exact hzero hunset
    · rw [current, if_neg hunset, not_not.mp heq]
      exact (hasDisplay_iff _ _).mpr ⟨first, hfirst, rfl⟩

theorem updateDisplayInfo_inv {s : MotionService} {screenSize : ScreenSize}
    {group : DisplayGroupInfo} (hmet : s.Met (.updateDisplayInfo screenSize group)) :
    (s.updateDisplayInfo screenSize group).Inv := by
  unfold updateDisplayInfo
  cases hdisplays : group.displaysInfo with
  | nil => exact fun hne => absurd hdisplays hne
  | cons first displaysInfo =>
    obtain ⟨hsized, hcond⟩ := hmet (by simp [hdisplays])
    simp only [List.isEmpty_cons, Bool.false_eq_true, if_false, onDisplayInfo]
    cases hdrawn : group.getPhysicalDisplay s.displayInfo.id with
    | some item =>
      rw [if_pos (by simp [HasDisplay, hdrawn])] at hcond
      exact fun _ => ⟨hsized, hcond⟩
    | none =>
      rw [if_neg (by simp [HasDisplay, hdrawn])] at hcond
      simp only [hdisplays, List.head?_cons, Option.mem_some_iff, exists_eq_left'] at hcond
      simp only [hdisplays]
      exact onDisplayLost_inv (by simp [hdisplays]) hsized hcond screenSize

/-! ## Runs -/

theorem Inv.step {s : MotionService} (h : s.Inv) (i : MotionInput) (hmet : s.Met i) :
    (s.step i).Inv := by
  cases i with
  | updateDisplayInfo screenSize group => exact updateDisplayInfo_inv hmet
  | motion screenSize dx dy drawn =>
    refine updateMouseTarget_inv (inv_of_onDisplay ?_) drawn
    rw [handleMotionInner_displayGroupInfo]
    exact fun hne => ⟨(h hne).1, h.motion hmet hne⟩
  | motionAbsolute screenSize transformedX transformedY drawn =>
    refine updateMouseTarget_inv (inv_of_onDisplay ?_) drawn
    rw [handleMotionAbsoluteInner_displayGroupInfo]
    exact fun hne => ⟨(h hne).1, h.motionAbsolute screenSize transformedX transformedY hne⟩

theorem Inv.staysOnDisplay {s : MotionService} (h : s.Inv) (i : MotionInput) (hmet : s.Met i) :
    s.StaysOnDisplay i := by
  intro hmotion hne
  cases i with
  | updateDisplayInfo => exact hmotion.elim
  | motion screenSize dx dy drawn => exact (h.motion hmet hne).updateMouseTarget drawn
  | motionAbsolute screenSize transformedX transformedY drawn =>
    exact (h.motionAbsolute screenSize transformedX transformedY hne).updateMouseTarget drawn

/-- A display of 1000 by 1000, upright. -/
def squareDisplay (id x : Int32) : DisplayInfo := ⟨id, x, 0, 1000, 1000, "", .direction0⟩

def squareWindow : WindowInfo where
  id := 1
  pid := 10
  area := ⟨0, 0, 2000, 1000⟩
  defaultHotAreas := [⟨0, 0, 2000, 1000⟩]
  pointerHotAreas := [⟨0, 0, 2000, 1000⟩]
  agentWindowId := 1
  flags := 0

/-- The current display is none of the layout. -/
def Lost (s : MotionService) : Prop :=
  s.currentDisplayId ≠ -1 ∧ ¬ HasDisplay s.displayGroupInfo s.currentDisplayId

theorem Lost.updateAndAdjust {s : MotionService} (h : s.Lost) :
    s.updateAndAdjustMouseLocation.Lost := by
  have hnone : s.displayGroupInfo.getPhysicalDisplay s.currentDisplayId = none :=
    Option.not_isSome_iff_eq_none.mp h.2
  unfold updateAndAdjustMouseLocation
  simp only [hnone]
  exact h

theorem Lost.initAbsolution {s : MotionService} (h : s.Lost) (screenSize : ScreenSize) :
    s.initAbsolution screenSize = s :=
  if_neg fun hunset => h.1 hunset.2.2

theorem Lost.step {s : MotionService} (h : s.Lost) (i : MotionInput) (hmotion : i.IsMotion) :
    (s.step i).Lost := by
  cases i with
  | updateDisplayInfo => exact hmotion.elim
  | motion screenSize dx dy drawn =>
    obtain ⟨displayInfo, heq⟩ :=
      updateMouseTarget_eq (s.handleMotionInner screenSize dx dy) drawn
    dsimp only [MotionService.step]
    rw [heq]
    show (s.handleMotionInner screenSize dx dy).Lost
    unfold handleMotionInner
    rw [h.initAbsolution]
    dsimp only
    cases hmoved : s.handleMotionAccelerate dx dy with
    | none => exact h
    | some r =>
      obtain ⟨absolutionX, absolutionY, rfl⟩ := handleMotionAccelerate_some hmoved
      exact Lost.updateAndAdjust h
  | motionAbsolute screenSize transformedX transformedY drawn =>
    obtain ⟨displayInfo, heq⟩ := updateMouseTarget_eq
      (s.handleMotionAbsoluteInner screenSize transformedX transformedY) drawn
    dsimp only [MotionService.step]
    rw [heq]
    show (s.handleMotionAbsoluteInner screenSize transformedX transformedY).Lost
    unfold handleMotionAbsoluteInner
    rw [h.initAbsolution]
    exact Lost.updateAndAdjust h

/-- No motion brings a lost mouse back. -/
theorem always_lost {s : MotionService} (h : s.Lost) (inputs : List MotionInput)
    (hmotions : AllSteps step (fun _ i => i.IsMotion) s inputs) : Always step Lost s inputs :=
  always_of_allSteps (fun _ i hs hmotion => Lost.step hs i hmotion) inputs s h hmotions

end MotionService

end FtMmi.MouseEventNormalize
