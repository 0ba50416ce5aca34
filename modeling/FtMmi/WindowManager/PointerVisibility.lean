/-
FtMmi.WindowManager.PointerVisibility — when the pointer's window is shown.

Whatever makes or draws the window ends with `UpdatePointerVisible`, except
a redraw in the style that is drawn, which leaves it as it is: so it is
shown as the last entry of `pidInfos_` and the display state say. The list
has the processes in the order of their latest requests, and a process that
is lost is taken out (`mostRecent_eq`); nothing else is needed.
-/
import FtMmi.Lib.StepSystem
import FtMmi.WindowManager.PointerDrawingManager

namespace FtMmi.WindowManager

open FtMmi.Lib

/-! ## What was asked for -/

/-- What there is to know of the requests of the processes. -/
inductive Notice where
  | request (pid : Int32) (visible : Bool)
  /-- The session of the process is gone. -/
  | lost (pid : Int32)

/-- The most recent request of a process that is not lost since; the newest
notice stands first, and `gone` are those lost after the notices. -/
def mostRecent (gone : List Int32) : List Notice → Option Bool
  | [] => none
  | .request pid visible :: older => if pid ∈ gone then mostRecent gone older else some visible
  | .lost pid :: older => mostRecent (pid :: gone) older

/-- The list that the notices make. -/
def entriesOf : List Notice → PidInfos
  | [] => .empty
  | .request pid visible :: older => (entriesOf older).push pid visible
  | .lost pid :: older => (entriesOf older).erase pid

/-- The entries of the processes that are not gone end with their most recent
request. -/
theorem mostRecent_eq (history : List Notice) (gone : List Int32) :
    mostRecent gone history
      = (((entriesOf history).infos.filter fun info => info.pid ∉ gone).getLast?).map
          PidInfo.visible := by
  induction history generalizing gone with
  | nil => rfl
  | cons notice older ih =>
    cases notice with
    | request pid visible =>
      rw [mostRecent, entriesOf, PidInfos.push]
      dsimp only
      rw [List.filter_append, PidInfos.infos_erase, List.filter_filter]
      by_cases hgone : pid ∈ gone
      · have hsame : ∀ info : PidInfo,
            (decide (info.pid ∉ gone) && decide (info.pid ≠ pid)) = decide (info.pid ∉ gone) := by
          intro info
          by_cases heq : info.pid = pid
          · simp [heq, hgone]
          · simp [heq]
        simp only [hsame]
        rw [if_pos hgone, ih gone]
        simp [hgone]
      · rw [if_neg hgone]
        simp [hgone]
    | lost pid =>
      rw [mostRecent, ih, entriesOf, PidInfos.infos_erase, List.filter_filter]
      congr 3
      funext info
      simp only [List.mem_cons, not_or, ne_eq, Bool.decide_and]
      exact Bool.and_comm _ _

/-! ## The window and the list -/

namespace PointerDrawingManager

variable {s : PointerDrawingManager}

/-- The window is as `UpdatePointerVisible` leaves it. -/
def Shown (s : PointerDrawingManager) : Prop :=
  ∀ window ∈ s.pointerWindow, window.shown = (s.isPointerVisible && s.mouseDisplayState)

theorem updatePointerVisible_shown (s : PointerDrawingManager) :
    s.updatePointerVisible.Shown := by
  intro window hwindow
  simp only [updatePointerVisible, Option.mem_def, Option.map_eq_some_iff] at hwindow
  obtain ⟨old, _, rfl⟩ := hwindow
  rfl

theorem moveTo_shown (h : s.Shown) (x y : Int32) : (s.moveTo x y).Shown := by
  intro window hwindow
  simp only [moveTo, Option.mem_def, Option.map_eq_some_iff] at hwindow
  obtain ⟨old, hold, rfl⟩ := hwindow
  exact h old hold

theorem drawPointer_shown (h : s.Shown) (physicalX physicalY mouseStyle : Int32) :
    (s.drawPointer physicalX physicalY mouseStyle).Shown := by
  simp only [drawPointer]
  split
  · split
    · exact moveTo_shown h _ _
    · exact updatePointerVisible_shown _
  · exact updatePointerVisible_shown _

theorem drawAtLast_shown (h : s.Shown) (mouseStyle : Int32) : (s.drawAtLast mouseStyle).Shown := by
  unfold drawAtLast
  split
  · exact drawPointer_shown h _ _ _
  · exact drawPointer_shown h _ _ _

theorem destroy_shown (s : PointerDrawingManager) : s.destroy.Shown := by
  intro window hwindow
  cases hwindow

theorem drawManager_shown (h : s.Shown) (mouseStyle : Option Int32) :
    (s.drawManager mouseStyle).Shown := by
  unfold drawManager
  split
  · cases mouseStyle with
    | none => exact h
    | some mouseStyle => exact drawAtLast_shown h mouseStyle
  · split
    · exact destroy_shown s
    · exact h

theorem setPointerVisible_shown (s : PointerDrawingManager) (pid : Int32) (visible : Bool) :
    (s.setPointerVisible pid visible).Shown := updatePointerVisible_shown _

theorem deletePointerVisible_shown (h : s.Shown) (pid : Int32) :
    (s.deletePointerVisible pid).Shown := by
  unfold deletePointerVisible
  split
  · exact updatePointerVisible_shown _
  · exact h

/-- The step: the window is shown as the list and the display state say. -/
theorem step_shown (h : s.Shown) (i : DrawingInput) : (s.step i).Shown := by
  cases i with
  | drawPointer physicalX physicalY mouseStyle => exact drawPointer_shown h _ _ _
  | drawPointerStyle mouseStyle =>
    simp only [step, drawPointerStyle]
    split
    · cases mouseStyle with
      | none => exact h
      | some mouseStyle => exact drawAtLast_shown h mouseStyle
    · exact h
  | setPointerLocation pid x y =>
    simp only [step, setPointerLocation]
    split
    · exact setPointerVisible_shown _ pid true
    · exact h
  | setPointerStyle refresh pointerStyle =>
    simp only [step, setPointerStyle]
    split
    · exact h
    · split
      · exact h
      · exact updatePointerVisible_shown _
  | onDisplayInfo displayGroupInfo mouseStyle =>
    simp only [step, onDisplayInfo]
    split
    · rename_i item _
      have hupdated : (s.updateDisplayInfo item).Shown := h
      exact drawManager_shown hupdated mouseStyle
    · split
      · exact h
      · exact destroy_shown _
  | updatePointerDevice getpid hasPointerDevice isPointerVisible mouseStyle =>
    have hdevice : { s with hasPointerDevice }.Shown := h
    refine drawManager_shown ?_ mouseStyle
    split
    · exact setPointerVisible_shown _ getpid isPointerVisible
    · exact deletePointerVisible_shown hdevice getpid
  | setPointerVisible pid visible => exact setPointerVisible_shown s pid visible
  | deletePointerVisible pid => exact deletePointerVisible_shown h pid
  | setMouseDisplayState state =>
    simp only [step, setMouseDisplayState]
    split
    · exact updatePointerVisible_shown _
    · exact h

end PointerDrawingManager

/-! ## The requests of a step -/

namespace PointerDrawingManager

variable {s : PointerDrawingManager}

/-- What a step adds to the notices. A location is set with a request to be
visible, if there is a window, and a service without a pointer device takes
its own request back. -/
def noticeOf (s : PointerDrawingManager) : DrawingInput → Option Notice
  | .setPointerVisible pid visible => some (.request pid visible)
  | .deletePointerVisible pid => some (.lost pid)
  | .setPointerLocation pid _ _ => if s.pointerWindow.isSome then some (.request pid true) else none
  | .updatePointerDevice getpid hasPointerDevice isPointerVisible _ =>
      if hasPointerDevice then some (.request getpid isPointerVisible) else some (.lost getpid)
  | .drawPointer .. => none
  | .drawPointerStyle _ => none
  | .setPointerStyle .. => none
  | .onDisplayInfo .. => none
  | .setMouseDisplayState _ => none

/-- The list as a notice leaves it. -/
def noted (p : PidInfos) : Option Notice → PidInfos
  | none => p
  | some (.request pid visible) => p.push pid visible
  | some (.lost pid) => p.erase pid

@[simp] theorem initLayer_pidInfos (style : Int32) :
    (s.initLayer style).pidInfos = s.pidInfos := by
  unfold initLayer
  split <;> rfl

theorem drawPointer_pidInfos (physicalX physicalY mouseStyle : Int32) :
    (s.drawPointer physicalX physicalY mouseStyle).pidInfos = s.pidInfos := by
  simp only [drawPointer]
  split
  · split
    · rfl
    · exact initLayer_pidInfos mouseStyle
  · exact initLayer_pidInfos mouseStyle

theorem drawAtLast_pidInfos (mouseStyle : Int32) :
    (s.drawAtLast mouseStyle).pidInfos = s.pidInfos := by
  unfold drawAtLast
  split <;> exact drawPointer_pidInfos _ _ _

theorem drawManager_pidInfos (mouseStyle : Option Int32) :
    (s.drawManager mouseStyle).pidInfos = s.pidInfos := by
  unfold drawManager
  split
  · cases mouseStyle with
    | none => rfl
    | some mouseStyle => exact drawAtLast_pidInfos mouseStyle
  · split <;> rfl

theorem setPointerVisible_pidInfos (s : PointerDrawingManager) (pid : Int32) (visible : Bool) :
    (s.setPointerVisible pid visible).pidInfos = s.pidInfos.push pid visible := by
  cases visible with
  | true => exact initLayer_pidInfos _
  | false => rfl

/-- An entry that is not there need not be taken out. -/
theorem deletePointerVisible_pidInfos (s : PointerDrawingManager) (pid : Int32) :
    (s.deletePointerVisible pid).pidInfos = s.pidInfos.erase pid := by
  unfold deletePointerVisible
  split
  · dsimp only
    split
    · exact initLayer_pidInfos _
    · rfl
  · rename_i habsent
    have hsame : s.pidInfos.infos = (s.pidInfos.erase pid).infos := by
      rw [PidInfos.infos_erase]
      refine (List.filter_eq_self.mpr fun info hmem => ?_).symm
      simpa using fun heq => habsent (List.any_eq_true.mpr ⟨info, hmem, by simpa using heq⟩)
    exact PidInfos.ext hsame

/-- The step: the list changes as the notice says. -/
theorem step_pidInfos (s : PointerDrawingManager) (i : DrawingInput) :
    (s.step i).pidInfos = noted s.pidInfos (s.noticeOf i) := by
  cases i with
  | drawPointer physicalX physicalY mouseStyle => exact drawPointer_pidInfos _ _ _
  | drawPointerStyle mouseStyle =>
    simp only [step, drawPointerStyle]
    split
    · cases mouseStyle with
      | none => rfl
      | some mouseStyle => exact drawAtLast_pidInfos mouseStyle
    · rfl
  | setPointerLocation pid x y =>
    simp only [step, setPointerLocation, noticeOf]
    split
    · exact setPointerVisible_pidInfos _ pid true
    · rfl
  | setPointerStyle refresh pointerStyle =>
    simp only [step, setPointerStyle]
    split
    · rfl
    · split
      · rfl
      · dsimp only [updatePointerVisible]
        split
        · exact initLayer_pidInfos pointerStyle
        · rfl
  | onDisplayInfo displayGroupInfo mouseStyle =>
    simp only [step, onDisplayInfo]
    split
    · exact drawManager_pidInfos mouseStyle
    · split <;> rfl
  | updatePointerDevice getpid hasPointerDevice isPointerVisible mouseStyle =>
    simp only [step, updatePointerDevice, noticeOf]
    rw [drawManager_pidInfos]
    cases hasPointerDevice with
    | true => exact setPointerVisible_pidInfos _ getpid isPointerVisible
    | false => exact deletePointerVisible_pidInfos _ getpid
  | setPointerVisible pid visible => exact setPointerVisible_pidInfos s pid visible
  | deletePointerVisible pid => exact deletePointerVisible_pidInfos s pid
  | setMouseDisplayState state =>
    simp only [step, setMouseDisplayState]
    split
    · dsimp only [updatePointerVisible]
      split
      · exact initLayer_pidInfos _
      · rfl
    · rfl

end PointerDrawingManager

/-! ## Every run -/

/-- The manager, and what was asked for, the newest first. -/
structure DrawingRun where
  manager : PointerDrawingManager
  history : List Notice

namespace DrawingRun

def create (readable : Int32 → Bool) : DrawingRun := ⟨.create readable, []⟩

def step (s : DrawingRun) (i : DrawingInput) : DrawingRun where
  manager := s.manager.step i
  history := (s.manager.noticeOf i).toList ++ s.history

/-- The window is shown exactly when the display state is on and the most
recent request of a process that is not lost, if there is one, asked for it. -/
def FollowsRequests (s : DrawingRun) : Prop :=
  ∀ window ∈ s.manager.pointerWindow,
    window.shown = (s.manager.mouseDisplayState && (mostRecent [] s.history).getD true)

/-- The list is that of the notices, and the window goes by it. -/
structure Followed (s : DrawingRun) : Prop where
  entries : s.manager.pidInfos = entriesOf s.history
  shown : s.manager.Shown

theorem create_followed (readable : Int32 → Bool) : (create readable).Followed :=
  ⟨rfl, fun _ h => nomatch h⟩

theorem step_followed {s : DrawingRun} (hs : s.Followed) (i : DrawingInput) :
    (s.step i).Followed := by
  refine ⟨?_, PointerDrawingManager.step_shown hs.shown i⟩
  show (s.manager.step i).pidInfos = _
  rw [PointerDrawingManager.step_pidInfos, hs.entries]
  simp only [step]
  cases s.manager.noticeOf i with
  | none => rfl
  | some notice => cases notice <;> rfl

theorem followsRequests_of_followed {s : DrawingRun} (hs : s.Followed) : s.FollowsRequests := by
  intro window hwindow
  rw [hs.shown window hwindow, Bool.and_comm, mostRecent_eq, ← hs.entries]
  simp only [PointerDrawingManager.isPointerVisible, List.not_mem_nil, not_false_eq_true,
    decide_true, List.filter_true]
  cases s.manager.pidInfos.infos.getLast? <;> rfl

/-- In every run the window is shown as the requests say. -/
theorem followsRequests_run (readable : Int32 → Bool) (is : List DrawingInput) :
    Always step FollowsRequests (create readable) is :=
  (always_of_step (P := Followed) (fun _ i hs => step_followed hs i) is _
    (create_followed readable)).mono fun _ hs => followsRequests_of_followed hs

end DrawingRun

end FtMmi.WindowManager
