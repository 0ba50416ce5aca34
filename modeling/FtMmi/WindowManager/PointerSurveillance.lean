/-
FtMmi.WindowManager.PointerSurveillance — who gets the events the manager
sends itself (`SendPointerEvent`, `DispatchPointer`,
`NotifyPointerToWindow`).

An event sent names `lastWindowInfo_`, a window of a layout that was in
force when it was remembered, and goes to the process remembered with it
if that has a descriptor (`sent_addressed`). The window need not be in
the layout in force: a window that is gone still gets its leave event.
-/
import FtMmi.Lib.StepSystem
import FtMmi.Server.SessionIndex
import FtMmi.WindowManager.InputWindowsManager

namespace FtMmi.WindowManager

open FtMmi.Event
open FtMmi.Lib
open FtMmi.Server

/-! ## What sending leaves as it was -/

structure Frame (s s' : InputWindowsManager) : Prop where
  displayGroupInfo : s'.displayGroupInfo = s.displayGroupInfo
  touchItemDownInfos : s'.touchItemDownInfos = s.touchItemDownInfos
  mouseDownInfo : s'.mouseDownInfo = s.mouseDownInfo
  mouseEvent : s'.mouseEvent = s.mouseEvent
  lastPointerEvent : s'.lastPointerEvent = s.lastPointerEvent

namespace Frame

theorem refl (s : InputWindowsManager) : Frame s s := ⟨rfl, rfl, rfl, rfl, rfl⟩

theorem trans {s s' s'' : InputWindowsManager} (h : Frame s s') (h' : Frame s' s'') :
    Frame s s'' where
  displayGroupInfo := h'.displayGroupInfo.trans h.displayGroupInfo
  touchItemDownInfos := h'.touchItemDownInfos.trans h.touchItemDownInfos
  mouseDownInfo := h'.mouseDownInfo.trans h.mouseDownInfo
  mouseEvent := h'.mouseEvent.trans h.mouseEvent
  lastPointerEvent := h'.lastPointerEvent.trans h.lastPointerEvent

end Frame

namespace InputWindowsManager

variable {s : InputWindowsManager}

/-- The window chosen is one of the layout. -/
theorem windowOfLast_eq (s : InputWindowsManager) (logicalX logicalY : Int32)
    (last : PointerEvent) :
    ∃ id, (s.windowOfLast logicalX logicalY last).2 = { s with firstBtnDownWindowId := id } ∧
      ∀ window, (s.windowOfLast logicalX logicalY last).1 = some window →
        window ∈ s.displayGroupInfo.windowsInfo := by
  unfold windowOfLast
  split
  · exact ⟨s.firstBtnDownWindowId, rfl, fun window h => List.mem_of_find?_eq_some h⟩
  · exact ⟨s.firstWindowId logicalX logicalY last, rfl,
      fun window h => List.mem_of_find?_eq_some h⟩

theorem getMouseInfo_eq (s : InputWindowsManager) :
    ∃ location, s.getMouseInfo = { s with mouseLocation := location } := by
  unfold getMouseInfo
  split
  · split
    · exact ⟨_, rfl⟩
    · exact ⟨_, rfl⟩
  · exact ⟨_, rfl⟩

theorem sendMsg_frame (env : Env) (s : InputWindowsManager) (fd : Int) (event : PointerEvent) :
    Frame s (s.sendMsg env fd event) := by
  unfold sendMsg
  split
  · exact ⟨rfl, rfl, rfl, rfl, rfl⟩
  · exact .refl s

theorem sendPointerEvent_frame (env : Env) (s : InputWindowsManager) (pointerAction : Int32) :
    Frame s (s.sendPointerEvent env pointerAction) := by
  obtain ⟨location, h⟩ := s.updateId.getMouseInfo_eq
  simp only [sendPointerEvent, h]
  split
  · exact ⟨rfl, rfl, rfl, rfl, rfl⟩
  · split
    · exact ⟨rfl, rfl, rfl, rfl, rfl⟩
    · refine .trans ?_ (sendMsg_frame ..)
      exact ⟨rfl, rfl, rfl, rfl, rfl⟩

theorem enterWindow_frame (s : InputWindowsManager) (pointerAction : Int32)
    (last : PointerEvent) : Frame s (s.enterWindow pointerAction last).2 := by
  obtain ⟨id, h, _⟩ := s.windowOfLast_eq s.lastLogicX s.lastLogicY last
  simp only [enterWindow, h]
  split
  · split
    · exact ⟨rfl, rfl, rfl, rfl, rfl⟩
    · split
      · exact ⟨rfl, rfl, rfl, rfl, rfl⟩
      · exact ⟨rfl, rfl, rfl, rfl, rfl⟩
  · exact .refl s

theorem dispatchPointer_frame (env : Env) (s : InputWindowsManager) (pointerAction : Int32) :
    Frame s (s.dispatchPointer env pointerAction) := by
  unfold dispatchPointer
  split
  · exact .refl s
  · split
    · exact sendPointerEvent_frame env s pointerAction
    · rename_i last _
      have hid : Frame s s.updateId := ⟨rfl, rfl, rfl, rfl, rfl⟩
      have henter := s.updateId.enterWindow_frame pointerAction last
      dsimp only
      split
      · exact hid
      · split
        · exact hid.trans henter
        · split
          · exact hid.trans henter
          · exact (hid.trans henter).trans (sendMsg_frame ..)

theorem notifyPointerToWindow_frame (env : Env) (s : InputWindowsManager) :
    Frame s (s.notifyPointerToWindow env) := by
  unfold notifyPointerToWindow
  split
  · exact .refl s
  · rename_i last _
    obtain ⟨id, h, _⟩ := s.windowOfLast_eq s.lastLogicX s.lastLogicY last
    have hselect : Frame s { s with firstBtnDownWindowId := id } := ⟨rfl, rfl, rfl, rfl, rfl⟩
    dsimp only
    rw [h]
    split
    · exact hselect
    · split
      · exact ⟨rfl, rfl, rfl, rfl, rfl⟩
      · refine .trans ?_ (dispatchPointer_frame ..)
        split
        · obtain ⟨h1, h2, h3, h4, h5⟩ := hselect.trans (dispatchPointer_frame env _ _)
          exact ⟨h1, h2, h3, h4, h5⟩
        · exact ⟨rfl, rfl, rfl, rfl, rfl⟩

end InputWindowsManager

/-! ## Runs -/

inductive Input where
  | updateDisplayInfo (env : Env) (displayGroupInfo : DisplayGroupInfo)
  /-- `UpdateTargetPointer` with the mouse's event (`none`) or another. -/
  | updateTargetPointer (env : Env) (event : Option PointerEvent)
  | getClientFd (env : Env) (event : PointerEvent)
  | dispatchPointer (env : Env) (pointerAction : Int32)
  /-- What `MouseEventNormalize` makes of a report. -/
  | mouseEvent (event : PointerEvent) (mouseLocation : MouseLocation)
  | setMouseDisplayState (state : Bool)
  | onSessionLost (pid : Int32)

def step (s : InputWindowsManager) : Input → InputWindowsManager
  | .updateDisplayInfo env displayGroupInfo => s.updateDisplayInfo env displayGroupInfo
  | .updateTargetPointer env none => (s.updateTargetPointer env .mouse s.mouseEvent).2.2
  | .updateTargetPointer env (some event) => (s.updateTargetPointer env .other event).2.2
  | .getClientFd env event => (s.getClientFd env event).2
  | .dispatchPointer env pointerAction => s.dispatchPointer env pointerAction
  | .mouseEvent event mouseLocation => { s with mouseEvent := event, mouseLocation }
  | .setMouseDisplayState state => { s with mouseDisplayState := state }
  | .onSessionLost pid => s.onSessionLost pid

/-- The layouts of a run. -/
def layouts (is : List Input) : List DisplayGroupInfo :=
  is.filterMap fun
    | .updateDisplayInfo _ displayGroupInfo => some displayGroupInfo
    | _ => none

/-! ## Whom an event names and reaches -/

/-- The process remembered with the last window has a descriptor. -/
def Sent.Connected (m : Sent) : Prop :=
  m.server.getClientFd m.lastWindowInfo.pid.toInt ≠ invalidFd

/-- The event went to the process that owns its window in the layout in
force, and to no other. -/
def Sent.ToOwner (m : Sent) : Prop :=
  ∃ window, m.displayGroupInfo.findWindow m.event.targetWindowId = some window ∧
    m.fd = m.server.getClientFd window.pid.toInt

/-- The event names the last window, one of those `known`, and went to its
process if that is connected. An enter event names a window of the layout
in force. -/
structure Sent.Addressed (known : WindowInfo → Prop) (m : Sent) : Prop where
  remembered : known m.lastWindowInfo
  named : m.event.targetWindowId = m.lastWindowInfo.id
  reached : m.Connected → m.fd = m.server.getClientFd m.lastWindowInfo.pid.toInt
  entered : m.event.pointerAction = pointerActionEnterWindow →
    ∃ window ∈ m.displayGroupInfo.windowsInfo, window.id = m.event.targetWindowId

/-- What a manager keeps when all windows it is told are `known`. -/
structure Surveyed (known : WindowInfo → Prop) (s : InputWindowsManager) : Prop where
  layout : ∀ window ∈ s.displayGroupInfo.windowsInfo, known window
  last : known s.lastWindowInfo
  down : s.mouseDownInfo.id ≠ -1 → known s.mouseDownInfo
  sent : ∀ m ∈ s.sent, m.Addressed known

namespace InputWindowsManager

variable {s : InputWindowsManager} {known : WindowInfo → Prop}

@[simp] theorem windowEvent_targetWindowId (s : InputWindowsManager) (id : Int32) (time : Int64)
    (pointerAction displayId displayX displayY sourceType deviceId : Int32) :
    (s.windowEvent id time pointerAction displayId displayX displayY sourceType
      deviceId).targetWindowId = s.lastWindowInfo.id := rfl

@[simp] theorem windowEvent_pointerAction (s : InputWindowsManager) (id : Int32) (time : Int64)
    (pointerAction displayId displayX displayY sourceType deviceId : Int32) :
    (s.windowEvent id time pointerAction displayId displayX displayY sourceType
      deviceId).pointerAction = pointerAction := rfl

theorem sendMsg_surveyed (hs : Surveyed known s) {env : Env} {fd : Int} {event : PointerEvent}
    (hnamed : event.targetWindowId = s.lastWindowInfo.id)
    (hreached : clientFd env s.lastWindowInfo ≠ invalidFd → fd = clientFd env s.lastWindowInfo)
    (hentered : event.pointerAction = pointerActionEnterWindow →
      ∃ window ∈ s.displayGroupInfo.windowsInfo, window.id = s.lastWindowInfo.id) :
    Surveyed known (s.sendMsg env fd event) := by
  unfold sendMsg
  split
  · refine ⟨hs.layout, hs.last, hs.down, fun m hm => ?_⟩
    rcases List.mem_append.mp hm with hm | hm
    · exact hs.sent m hm
    · obtain rfl := List.mem_singleton.mp hm
      refine ⟨hs.last, hnamed, hreached, fun h => ?_⟩
      obtain ⟨window, hmem, hid⟩ := hentered h
      exact ⟨window, hmem, hid.trans hnamed.symm⟩
  · exact hs

theorem sendPointerEvent_surveyed (hs : Surveyed known s) (env : Env) (pointerAction : Int32) :
    Surveyed known (s.sendPointerEvent env pointerAction) := by
  obtain ⟨location, h⟩ := s.updateId.getMouseInfo_eq
  simp only [sendPointerEvent, h]
  split
  · exact ⟨hs.layout, hs.last, hs.down, hs.sent⟩
  · rename_i touchWindow htouch
    -- An entered window is one of the layout.
    have hmem : pointerAction = pointerActionEnterWindow →
        touchWindow ∈ s.displayGroupInfo.windowsInfo := by
      intro henter
      rw [if_pos henter] at htouch
      exact List.mem_of_find?_eq_some htouch
    have hknown : known touchWindow := by
      by_cases henter : pointerAction = pointerActionEnterWindow
      · exact hs.layout _ (hmem henter)
      · rw [if_neg henter] at htouch
        cases htouch
        exact hs.last
    split
    · exact ⟨hs.layout, hknown, hs.down, hs.sent⟩
    · refine sendMsg_surveyed ?_ rfl (fun _ => rfl) fun henter => ⟨touchWindow, hmem henter, rfl⟩
      exact ⟨hs.layout, hknown, hs.down, hs.sent⟩

theorem enterWindow_surveyed (hs : Surveyed known s) (pointerAction : Int32)
    (last : PointerEvent) : Surveyed known (s.enterWindow pointerAction last).2 := by
  obtain ⟨id, h, hmem⟩ := s.windowOfLast_eq s.lastLogicX s.lastLogicY last
  simp only [enterWindow, h]
  split
  · split
    · exact ⟨hs.layout, hs.last, hs.down, hs.sent⟩
    · rename_i windowInfo hwindow
      split
      · exact ⟨hs.layout, hs.layout _ (hmem _ hwindow), hs.down, hs.sent⟩
      · exact ⟨hs.layout, hs.last, hs.down, hs.sent⟩
  · exact hs

/-- The window entered is one of the layout. -/
theorem enterWindow_entered (s : InputWindowsManager) {pointerAction : Int32}
    {last : PointerEvent} (henter : pointerAction = pointerActionEnterWindow)
    (h : (s.enterWindow pointerAction last).1 = true) :
    ∃ window ∈ s.displayGroupInfo.windowsInfo,
      window.id = (s.enterWindow pointerAction last).2.lastWindowInfo.id := by
  obtain ⟨id, hstate, hmem⟩ := s.windowOfLast_eq s.lastLogicX s.lastLogicY last
  revert h
  simp only [enterWindow, if_pos henter, hstate]
  split
  · simp
  · rename_i windowInfo hwindow
    intro _
    refine ⟨windowInfo, hmem _ hwindow, ?_⟩
    split
    · rfl
    · rename_i hid
      exact not_not.mp hid

theorem dispatchPointer_surveyed (hs : Surveyed known s) (env : Env) (pointerAction : Int32) :
    Surveyed known (s.dispatchPointer env pointerAction) := by
  unfold dispatchPointer
  split
  · exact hs
  · split
    · exact sendPointerEvent_surveyed hs env pointerAction
    · rename_i last _
      have hid : Surveyed known s.updateId := ⟨hs.layout, hs.last, hs.down, hs.sent⟩
      have henter := enterWindow_surveyed hid pointerAction last
      dsimp only
      split
      · exact hid
      · split
        · exact henter
        · rename_i hok
          split
          · exact henter
          · rename_i fd hfd
            refine sendMsg_surveyed henter (windowEvent_targetWindowId ..) ?_ ?_
            · intro hconnected
              rw [dispatchFd, if_neg hconnected] at hfd
              exact (Option.some.inj hfd).symm
            · rw [windowEvent_pointerAction]
              intro haction
              rw [(enterWindow_frame ..).displayGroupInfo]
              exact enterWindow_entered _ haction (by simpa using hok)

theorem notifyPointerToWindow_surveyed (hs : Surveyed known s) (env : Env) :
    Surveyed known (s.notifyPointerToWindow env) := by
  unfold notifyPointerToWindow
  split
  · exact hs
  · rename_i last _
    obtain ⟨id, h, hmem⟩ := s.windowOfLast_eq s.lastLogicX s.lastLogicY last
    have hselect : Surveyed known { s with firstBtnDownWindowId := id } :=
      ⟨hs.layout, hs.last, hs.down, hs.sent⟩
    dsimp only
    rw [h]
    split
    · exact hselect
    · rename_i windowInfo hwindow
      have hknown := hs.layout _ (hmem _ hwindow)
      split
      · exact ⟨hs.layout, hknown, hs.down, hs.sent⟩
      · refine dispatchPointer_surveyed ?_ ..
        split
        · obtain ⟨h1, _, h3, h4⟩ := dispatchPointer_surveyed hselect env pointerActionLeaveWindow
          exact ⟨h1, hknown, h3, h4⟩
        · exact ⟨hs.layout, hknown, hs.down, hs.sent⟩

/-- The event in the mouse's object is of no matter here. -/
theorem write_surveyed (hs : Surveyed known s) (ref : EventRef) (event : PointerEvent) :
    Surveyed known (s.write ref event) := by
  cases ref with
  | mouse => exact ⟨hs.layout, hs.last, hs.down, hs.sent⟩
  | other => exact hs

theorem updatePointerEvent_surveyed (hs : Surveyed known s) (env : Env)
    (logicalX logicalY : Int32) (ref : EventRef) (event : PointerEvent) {touchWindow : WindowInfo}
    (hknown : known touchWindow) :
    Surveyed known (s.updatePointerEvent env logicalX logicalY ref event touchWindow) := by
  unfold updatePointerEvent
  split
  · obtain ⟨h1, _, h3, h4⟩ := dispatchPointer_surveyed hs env pointerActionLeaveWindow
    refine dispatchPointer_surveyed ?_ ..
    exact ⟨h1, hknown, h3, h4⟩
  · exact ⟨hs.layout, hknown, hs.down, hs.sent⟩

theorem keepMouseDown_surveyed (hs : Surveyed known s) (pointerAction : Int32)
    {touchWindow : WindowInfo} (hknown : known touchWindow) :
    Surveyed known (s.keepMouseDown pointerAction touchWindow) := by
  unfold keepMouseDown
  split
  · exact ⟨hs.layout, hs.last, fun _ => hknown, hs.sent⟩
  · split
    · exact ⟨hs.layout, hs.last, fun h => absurd rfl h, hs.sent⟩
    · exact hs

theorem showMouse_surveyed (hs : Surveyed known s) (env : Env) :
    Surveyed known (s.showMouse env) := by
  unfold showMouse
  split
  · exact hs
  · refine dispatchPointer_surveyed ?_ ..
    exact ⟨hs.layout, hs.last, hs.down, hs.sent⟩

/-- The target of a mouse event is in the layout, or a button went down on
it. -/
theorem mouseTarget_known (hs : Surveyed known s) {touchWindow : Option WindowInfo}
    {event : PointerEvent} (hwindow : ∀ window, touchWindow = some window → known window)
    {r : WindowInfo × PointerEvent} (h : s.mouseTarget touchWindow event = some r) :
    known r.1 := by
  cases touchWindow with
  | some window =>
    cases h
    exact hwindow window rfl
  | none =>
    simp only [mouseTarget] at h
    split at h
    · cases h
    · rename_i hdown
      cases h
      exact hs.down fun hid => hdown (.inr hid)

theorem updateMouseTarget_surveyed (hs : Surveyed known s) (env : Env) (ref : EventRef)
    (event : PointerEvent) : Surveyed known (s.updateMouseTarget env ref event).2.2 := by
  unfold updateMouseTarget
  split
  · exact hs
  · rename_i displayId _
    have hwrite := write_surveyed hs ref (event.setTargetDisplayId displayId)
    dsimp only
    split
    · exact hwrite
    · rename_i place _
      have hfirst : Surveyed known ((s.write ref (event.setTargetDisplayId displayId)).selectWindowInfo
          place.logicalX place.logicalY (event.setTargetDisplayId displayId)).2 :=
        ⟨hwrite.layout, hwrite.last, hwrite.down, hwrite.sent⟩
      split
      · exact hfirst
      · rename_i touchWindow event' htarget
        have hknown : known touchWindow := mouseTarget_known hfirst
          (fun window h => hwrite.layout _ (List.mem_of_find?_eq_some h)) htarget
        split
        · exact keepMouseDown_surveyed (updatePointerEvent_surveyed
            (write_surveyed (showMouse_surveyed (write_surveyed hfirst ..) env) ..) _ _ _ _ _ hknown)
            _ hknown
        · exact write_surveyed hfirst ..

theorem hideMouse_surveyed (hs : Surveyed known s) (env : Env) :
    Surveyed known (s.hideMouse env) := by
  unfold hideMouse
  split
  · obtain ⟨h1, h2, h3, h4⟩ := dispatchPointer_surveyed hs env pointerActionLeaveWindow
    exact ⟨h1, h2, h3, h4⟩
  · exact hs

theorem keepTouchDown_surveyed (hs : Surveyed known s) (pointerAction pointerId : Int32)
    (touchWindow : WindowInfo) :
    Surveyed known (s.keepTouchDown pointerAction pointerId touchWindow) := by
  unfold keepTouchDown
  split
  · split
    · exact hs
    · exact ⟨hs.layout, hs.last, hs.down, hs.sent⟩
  · split
    · exact ⟨hs.layout, hs.last, hs.down, hs.sent⟩
    · exact hs

theorem updateTouchScreenTarget_surveyed (hs : Surveyed known s) (env : Env) (ref : EventRef)
    (event : PointerEvent) : Surveyed known (s.updateTouchScreenTarget env ref event).2.2 := by
  unfold updateTouchScreenTarget
  split
  · exact hs
  · rename_i displayId _
    have hwrite := write_surveyed hs ref (event.setTargetDisplayId displayId)
    dsimp only
    split
    · exact hwrite
    · split
      · exact hwrite
      · exact keepTouchDown_surveyed (hideMouse_surveyed (write_surveyed hwrite ..) env) ..

theorem updateTargetPointer_surveyed (hs : Surveyed known s) (env : Env) (ref : EventRef)
    (event : PointerEvent) : Surveyed known (s.updateTargetPointer env ref event).2.2 := by
  unfold updateTargetPointer
  split
  · exact updateTouchScreenTarget_surveyed hs env ref event
  · split
    · exact updateMouseTarget_surveyed hs env ref event
    · split
      · exact hs
      · split
        · unfold updateJoystickTarget
          split
          · exact hs
          · exact write_surveyed hs ..
        · exact hs

theorem getClientFd_surveyed (hs : Surveyed known s) (env : Env) (event : PointerEvent) :
    Surveyed known (s.getClientFd env event).2 := by
  unfold getClientFd
  split
  · exact hs
  · split
    · exact hs
    · unfold takeDownPid
      split
      · split
        · exact ⟨hs.layout, hs.last, hs.down, hs.sent⟩
        · exact hs
      · split
        · exact ⟨hs.layout, hs.last, fun h => absurd rfl h, hs.sent⟩
        · exact hs

theorem refreshPointer_surveyed (hs : Surveyed known s) (env : Env) :
    Surveyed known (s.refreshPointer env).2 := by
  unfold refreshPointer
  split
  · exact hs
  · obtain ⟨location, h⟩ := s.getMouseInfo_eq
    have hlocation : Surveyed known { s with mouseLocation := location } :=
      ⟨hs.layout, hs.last, hs.down, hs.sent⟩
    dsimp only
    rw [h]
    split
    · exact hlocation
    · rename_i displayInfo _
      split
      · exact hlocation
      · rename_i last _
        obtain ⟨id, hwindow, _⟩ := { s with mouseLocation := location }.windowOfLast_eq
          (location.physicalX + displayInfo.x) (location.physicalY + displayInfo.y) last
        dsimp only
        rw [hwindow]
        exact ⟨hs.layout, hs.last, hs.down, hs.sent⟩

theorem updateDisplayInfo_surveyed (hs : Surveyed known s) (env : Env)
    {displayGroupInfo : DisplayGroupInfo}
    (hknown : ∀ window ∈ displayGroupInfo.windowsInfo, known window) :
    Surveyed known (s.updateDisplayInfo env displayGroupInfo) := by
  unfold updateDisplayInfo
  dsimp only
  split
  · have hgroup : Surveyed known { s with
        displayGroupInfo := displayGroupInfo
        pointerStyle := fun pid =>
          s.pointerStyle pid || displayGroupInfo.windowsInfo.any fun item => item.pid = pid } :=
      ⟨hknown, hs.last, hs.down, hs.sent⟩
    have hrefresh := refreshPointer_surveyed hgroup env
    split
    · exact notifyPointerToWindow_surveyed hrefresh env
    · exact hrefresh
  · exact ⟨hknown, hs.last, hs.down, hs.sent⟩

end InputWindowsManager

/-! ## Every run -/

theorem step_surveyed {s : InputWindowsManager} {known : WindowInfo → Prop}
    (hs : Surveyed known s) {i : Input}
    (hknown : ∀ group ∈ layouts [i], ∀ window ∈ group.windowsInfo, known window) :
    Surveyed known (step s i) := by
  cases i with
  | updateDisplayInfo env displayGroupInfo =>
    exact InputWindowsManager.updateDisplayInfo_surveyed hs env (hknown _ (by simp [layouts]))
  | updateTargetPointer env event =>
    cases event with
    | none => exact InputWindowsManager.updateTargetPointer_surveyed hs env .mouse s.mouseEvent
    | some event => exact InputWindowsManager.updateTargetPointer_surveyed hs env .other event
  | getClientFd env event => exact InputWindowsManager.getClientFd_surveyed hs env event
  | dispatchPointer env pointerAction =>
    exact InputWindowsManager.dispatchPointer_surveyed hs env pointerAction
  | mouseEvent event mouseLocation => exact ⟨hs.layout, hs.last, hs.down, hs.sent⟩
  | setMouseDisplayState state => exact ⟨hs.layout, hs.last, hs.down, hs.sent⟩
  | onSessionLost pid => exact ⟨hs.layout, hs.last, hs.down, hs.sent⟩

theorem run_surveyed {known : WindowInfo → Prop} {is : List Input} {s : InputWindowsManager}
    (hs : Surveyed known s)
    (hknown : ∀ group ∈ layouts is, ∀ window ∈ group.windowsInfo, known window) :
    Surveyed known (runFrom step s is) := by
  induction is generalizing s with
  | nil => exact hs
  | cons i is ih =>
    have hsplit : layouts (i :: is) = layouts [i] ++ layouts is :=
      @List.filterMap_append _ _ [i] is _
    rw [hsplit] at hknown
    exact ih (step_surveyed hs fun group hg => hknown group (List.mem_append_left _ hg))
      fun group hg => hknown group (List.mem_append_right _ hg)

/-- The window the manager starts with, or one of a layout of the run. -/
def Recorded (initial : WindowInfo) (is : List Input) (window : WindowInfo) : Prop :=
  window = initial ∨ ∃ group ∈ layouts is, window ∈ group.windowsInfo

/-- Every event sent names the last window, which is of a layout of the run,
and goes to the process remembered with it if that is connected: to a
session of that process if the maps of the server agree, and to the owner
of the window if the layout in force has it with the same process. -/
theorem sent_addressed (now : Int64) (lastWindowInfo mouseDownInfo : WindowInfo)
    (is : List Input) :
    ∀ m ∈ (runFrom step (.create now lastWindowInfo mouseDownInfo) is).sent,
      m.Addressed (Recorded lastWindowInfo is) ∧
        (m.Connected → Consistent m.server →
          ∃ ses, m.server.getSession m.fd = some ses ∧ ses.pid = m.lastWindowInfo.pid.toInt) ∧
        (m.Connected → ∀ window,
          m.displayGroupInfo.findWindow m.event.targetWindowId = some window →
          window.pid = m.lastWindowInfo.pid → m.ToOwner) := by
  have hstart : Surveyed (Recorded lastWindowInfo is) (.create now lastWindowInfo mouseDownInfo) :=
    { layout := by simp [InputWindowsManager.create, DisplayGroupInfo.empty]
      last := .inl rfl
      down := fun h => absurd rfl h
      sent := by simp [InputWindowsManager.create] }
  have hrun := run_surveyed hstart fun group hg window hw => .inr ⟨group, hg, hw⟩
  intro m hm
  have haddressed := hrun.sent m hm
  refine ⟨haddressed, fun hconnected hconsistent => ?_, fun hconnected window hwindow hpid => ?_⟩
  · have hfd := haddressed.reached hconnected
    refine hconsistent.named _ _ ?_
    rw [hfd]
    cases hidx : m.server.idxPidMap m.lastWindowInfo.pid.toInt with
    | none => exact absurd (by rw [UDSServer.getClientFd, hidx]; rfl) hconnected
    | some fd => rw [UDSServer.getClientFd, hidx]; rfl
  · refine ⟨window, hwindow, ?_⟩
    rw [hpid]
    exact haddressed.reached hconnected

/-! ## A window that is gone -/

/-- A window of 50 by 100 at `x`, on a display of 100 by 100. -/
def leftOrRight (id pid x : Int32) : WindowInfo :=
  { id, pid, agentWindowId := id, flags := 0
    area := ⟨x, 0, 50, 100⟩
    defaultHotAreas := [⟨x, 0, 50, 100⟩]
    pointerHotAreas := [⟨x, 0, 50, 100⟩] }

def oneDisplay (windowsInfo : List WindowInfo) : DisplayGroupInfo :=
  ⟨1, windowsInfo, [⟨0, 0, 0, 100, 100, "default0", .direction0⟩]⟩

/-- Two processes with a session each. -/
def twoClients : UDSServer :=
  ((UDSServer.create.addSession ⟨1, 5, 10⟩).2.addSession ⟨2, 6, 11⟩).2

def twoClientsEnv : Env := ⟨twoClients, 0, true, 0⟩

/-- The mouse moves over the left window. -/
def mouseOnLeft : PointerEvent :=
  ((((PointerEvent.create 0).setSourceType sourceTypeMouse).setPointerAction
    pointerActionMove).setPointerId 0).addPointerItem { pointerId := 0, displayX := 10 }

/-- Then the left window is taken away and the right one moves below the
mouse. -/
def leftIsGone : List Input :=
  [.updateDisplayInfo twoClientsEnv (oneDisplay [leftOrRight 1 10 0, leftOrRight 2 11 50]),
    .mouseEvent mouseOnLeft ⟨10, 0⟩, .updateTargetPointer twoClientsEnv none,
    .updateDisplayInfo twoClientsEnv (oneDisplay [leftOrRight 2 11 0])]

/-- The events sent in that run, as the theorem has them. -/
theorem sent_addressed_leftIsGone :
    ∃ m ∈ (runFrom step (.create 0 (leftOrRight 0 0 0) (leftOrRight 0 0 0)) leftIsGone).sent,
      m.Addressed (Recorded (leftOrRight 0 0 0) leftIsGone) := by
  have hsent : ∃ m, m ∈ (runFrom step (.create 0 (leftOrRight 0 0 0) (leftOrRight 0 0 0))
      leftIsGone).sent := by
    refine List.exists_mem_of_ne_nil _ fun hnil => ?_
    have hlength := congrArg List.length hnil
    revert hlength
    decide +kernel
  obtain ⟨m, hm⟩ := hsent
  exact ⟨m, hm, (sent_addressed 0 (leftOrRight 0 0 0) (leftOrRight 0 0 0) leftIsGone m hm).1⟩

/-- The leave event goes to the process of the left window, which is not in
the layout. -/
theorem counterexample_sent_addressed :
    ¬ ∀ m ∈ (runFrom step (.create 0 (leftOrRight 0 0 0) (leftOrRight 0 0 0)) leftIsGone).sent,
      m.ToOwner := by
  have hgone : ∃ m ∈ (runFrom step (.create 0 (leftOrRight 0 0 0) (leftOrRight 0 0 0))
      leftIsGone).sent, m.event.pointerAction = pointerActionLeaveWindow ∧ m.fd = 5 ∧
        m.displayGroupInfo.findWindow m.event.targetWindowId = none := by
    decide +kernel
  obtain ⟨m, hm, _, _, hnone⟩ := hgone
  intro h
  obtain ⟨window, hwindow, _⟩ := h m hm
  rw [hnone] at hwindow
  cases hwindow

end FtMmi.WindowManager
