/-
FtMmi.EventDispatch.MouseDrags — the mouse while a button is held.

The first press selects a window, and `SelectWindowInfo` stays with it until
the mouse moves with no button down. `Captures` is the invariant: the window
manager goes by that window, and whatever asks for the window of the last
event finds it again.

When the window is gone from the layout, the record of the press makes one
event a cancel for its process; `GetClientFd` takes the record back, and
nothing is delivered until the window is listed again (`drag_captured`).
-/
import FtMmi.EventDispatch.PointerSplit
import FtMmi.WindowManager.MouseCapture

namespace FtMmi.EventDispatch

open FtMmi.Event
open FtMmi.Lib
open FtMmi.Server
open FtMmi.WindowManager
open FtMmi.WindowManager.InputWindowsManager

variable {w p : Int32} {m m' : InputWindowsManager} {event event' : PointerEvent}
  {touchWindow : WindowInfo}

/-! ## The window manager in a drag -/

/-- The mouse is on the window `w` of the process `p`. The record of the press
is there, or it has been taken back. -/
structure Captures (w p : Int32) (m : InputWindowsManager) : Prop where
  firstBtnDownWindowId : m.firstBtnDownWindowId = w
  lastPointerEvent : m.lastPointerEvent = .mouse
  mouseDisplayState : m.mouseDisplayState = true
  selects : m.Selects m.mouseEvent
  owner : ∀ window, m.displayGroupInfo.findWindow w = some window → window.pid = p
  nameless : m.displayGroupInfo.findWindow (-1) = none
  record : (m.mouseDownInfo.id = w ∧ m.mouseDownInfo.pid = p) ∨
    (m.mouseDownInfo.id = -1 ∧ m.mouseDownInfo.pid = -1)

/-- Neither the first press nor a motion with no button held. -/
def Continues (event : PointerEvent) : Prop :=
  ¬ (event.pointerAction = pointerActionButtonDown ∧ event.pressedButtons.length = 1) ∧
    ¬ (event.pointerAction = pointerActionMove ∧ event.pressedButtons.isEmpty)

theorem ne_neg_one (hw : 0 ≤ w) : w ≠ -1 := by
  rintro rfl
  exact absurd hw (by decide)

theorem Continues.selectsAnew (hc : Continues event) (hm : Captures w p m) (hw : 0 ≤ w) :
    m.selectsAnew event = false := by
  have hfirst : m.firstBtnDownWindowId ≠ -1 := hm.firstBtnDownWindowId ▸ ne_neg_one hw
  simp only [InputWindowsManager.selectsAnew, hfirst, false_or, decide_eq_false_iff_not, not_or]
  exact hc

/-- A cancelled event does not select a window. -/
theorem continues_cancel (h : event.pointerAction = pointerActionCancel) : Continues event := by
  constructor
  · rintro ⟨haction, _⟩
    rw [h] at haction
    exact absurd haction (by decide)
  · rintro ⟨haction, _⟩
    rw [h] at haction
    exact absurd haction (by decide)

theorem Captures.steady (hm : Captures w p m) : m.Steady := by
  intro last hlast
  simp only [InputWindowsManager.lastEvent, hm.lastPointerEvent, Option.some.injEq] at hlast
  exact hlast ▸ hm.selects

theorem Captures.write (hm : Captures w p m) (hw : 0 ≤ w) (hc : Continues event) :
    Captures w p (m.write .mouse event) :=
  { hm with selects := selects_of_not (s := m) (hc.selectsAnew hm hw) }

/-- Everything but the pointer's window stays as it was. -/
theorem Captures.unmoved (hm : Captures w p m) (h : Unmoved m m') : Captures w p m' where
  firstBtnDownWindowId := h.firstBtnDownWindowId.trans hm.firstBtnDownWindowId
  lastPointerEvent := h.lastPointerEvent.trans hm.lastPointerEvent
  mouseDisplayState := h.mouseDisplayState.trans hm.mouseDisplayState
  selects := by
    have hlast : m'.lastEvent = some m'.mouseEvent := by
      rw [InputWindowsManager.lastEvent, h.lastPointerEvent, hm.lastPointerEvent]
    exact h.steady hm.steady _ hlast
  owner := by
    rw [h.displayGroupInfo]
    exact hm.owner
  nameless := by
    rw [h.displayGroupInfo]
    exact hm.nameless
  record := by
    rw [h.mouseDownInfo]
    exact hm.record

/-- The record of the press is taken back. -/
theorem Captures.initMouseDownInfo (hm : Captures w p m) : Captures w p m.initMouseDownInfo :=
  { hm with record := .inr ⟨rfl, rfl⟩ }

/-- A window that is found for an event is the pointer's from there on. -/
theorem captures_of_targeted (h : MouseTargeted m m' event' touchWindow)
    (hid : 0 ≤ touchWindow.id)
    (howner : ∀ window, m.displayGroupInfo.findWindow touchWindow.id = some window →
      window.pid = touchWindow.pid)
    (hnameless : m.displayGroupInfo.findWindow (-1) = none)
    (hrecord : event'.pointerAction = pointerActionButtonDown ∨
      (m.mouseDownInfo.id = touchWindow.id ∧ m.mouseDownInfo.pid = touchWindow.pid) ∨
      (m.mouseDownInfo.id = -1 ∧ m.mouseDownInfo.pid = -1)) :
    Captures touchWindow.id touchWindow.pid m' where
  firstBtnDownWindowId := h.firstBtnDownWindowId
  lastPointerEvent := h.lastPointerEvent
  mouseDisplayState := h.mouseDisplayState
  selects := by
    intro _
    rw [h.mouseEvent, h.targetWindowId, h.firstBtnDownWindowId]
    exact ⟨hid, rfl⟩
  owner := by
    rw [h.displayGroupInfo]
    exact howner
  nameless := by
    rw [h.displayGroupInfo]
    exact hnameless
  record := by
    rw [h.mouseDownInfo]
    split
    · exact .inl ⟨rfl, rfl⟩
    · rename_i hdown
      split
      · exact .inr ⟨rfl, rfl⟩
      · exact hrecord.resolve_left hdown

/-! ## The target of an event -/

/-- The display of the event is known, and the place of its pointer. -/
def Placed (group : DisplayGroupInfo) (event : PointerEvent) : Prop :=
  ∃ displayId place, group.updateDisplayId event.targetDisplayId = some displayId ∧
    locatePointer group (fun _ x y => (x, y)) (event.setTargetDisplayId displayId) = .ok place

/-- What the search for a target does in a drag: the event gets the window, or
it keeps the one it names; it is cancelled when the window is gone. -/
structure Retained (w p : Int32) (m m' : InputWindowsManager) (event event' : PointerEvent) :
    Prop where
  captures : Captures w p m'
  displayGroupInfo : m'.displayGroupInfo = m.displayGroupInfo
  mouseEvent : m'.mouseEvent = event'
  buttons : SameButtons event event'
  named : event'.targetWindowId = w ∨ event'.targetWindowId = event.targetWindowId
  action : event'.pointerAction = event.pointerAction ∨ event'.pointerAction = pointerActionCancel
  listed : Placed m.displayGroupInfo event → (m.displayGroupInfo.findWindow w).isSome →
    m.pointerStyle p = true →
      event'.targetWindowId = w ∧ event'.pointerAction = event.pointerAction
  gone : m.displayGroupInfo.findWindow w = none → m'.mouseDownInfo = m.mouseDownInfo
  cancelled : Placed m.displayGroupInfo event → m.displayGroupInfo.findWindow w = none →
    m.mouseDownInfo.id = w → event.pointerAction ≠ pointerActionButtonDown →
      event'.pointerAction = pointerActionCancel

theorem Continues.setTargetDisplayId (hc : Continues event) (displayId : Int32) :
    Continues (event.setTargetDisplayId displayId) := hc

/-- No window is looked for: the window is the one there is. -/
theorem Captures.selectWindowInfo (hm : Captures w p m) (hw : 0 ≤ w) (hc : Continues event)
    (logicalX logicalY : Int32) :
    m.selectWindowInfo logicalX logicalY event = (m.displayGroupInfo.findWindow w, m) := by
  rw [(selects_of_not (hc.selectsAnew hm hw)).selectWindowInfo, hm.firstBtnDownWindowId]

/-- A window that is found retains the event: the window is listed, or it is
gone and the event is cancelled. -/
theorem retained_of_found (m' : InputWindowsManager) {found : PointerEvent} (env : Env)
    (place : PointerPlace)
    (hgroup : m'.displayGroupInfo = m.displayGroupInfo)
    (hdown : m'.mouseDownInfo = m.mouseDownInfo) (hshown : m'.Shown)
    (hfirst : m'.firstBtnDownWindowId = touchWindow.id) (hid : 0 ≤ touchWindow.id)
    (hbuttons : SameButtons event found)
    (howner : ∀ window, m.displayGroupInfo.findWindow touchWindow.id = some window →
      window.pid = touchWindow.pid)
    (hnameless : m.displayGroupInfo.findWindow (-1) = none)
    (hrecord : found.pointerAction = pointerActionButtonDown ∨
      (m.mouseDownInfo.id = touchWindow.id ∧ m.mouseDownInfo.pid = touchWindow.pid) ∨
      (m.mouseDownInfo.id = -1 ∧ m.mouseDownInfo.pid = -1))
    (hcase : found.pointerAction = event.pointerAction ∧
        (m.displayGroupInfo.findWindow touchWindow.id).isSome ∨
      found.pointerAction = pointerActionCancel ∧
        m.displayGroupInfo.findWindow touchWindow.id = none) :
    Retained touchWindow.id touchWindow.pid m
      ((m'.showMouse env).applyMouseTarget env .mouse found place touchWindow).2 event
      ((m'.showMouse env).applyMouseTarget env .mouse found place touchWindow).1 := by
  have htargeted := applyMouseTarget_targeted env found place touchWindow hshown hfirst hid
  obtain ⟨hsame, haction⟩ := applyMouseTarget_buttons env (m'.showMouse env) .mouse found place
    touchWindow
  rw [← hgroup] at howner hnameless
  rw [← hdown] at hrecord
  have hcaptures := captures_of_targeted htargeted hid howner hnameless (haction ▸ hrecord)
  rcases hcase with ⟨hkept, hlisted⟩ | ⟨hcancelled, hgone⟩
  · have hnot : m.displayGroupInfo.findWindow touchWindow.id ≠ none :=
      Option.isSome_iff_ne_none.mp hlisted
    exact
      { captures := hcaptures
        displayGroupInfo := htargeted.displayGroupInfo.trans hgroup
        mouseEvent := htargeted.mouseEvent
        buttons := ⟨hsame.sourceType.trans hbuttons.sourceType,
          hsame.pressedButtons.trans hbuttons.pressedButtons⟩
        named := .inl htargeted.targetWindowId
        action := .inl (haction.trans hkept)
        listed := fun _ _ _ => ⟨htargeted.targetWindowId, haction.trans hkept⟩
        gone := fun hnone => absurd hnone hnot
        cancelled := fun _ hnone => absurd hnone hnot }
  · have hnot : ¬ (m.displayGroupInfo.findWindow touchWindow.id).isSome := by simp [hgone]
    have hsaved := htargeted.mouseDownInfo
    rw [haction, hcancelled] at hsaved
    exact
      { captures := hcaptures
        displayGroupInfo := htargeted.displayGroupInfo.trans hgroup
        mouseEvent := htargeted.mouseEvent
        buttons := ⟨hsame.sourceType.trans hbuttons.sourceType,
          hsame.pressedButtons.trans hbuttons.pressedButtons⟩
        named := .inl htargeted.targetWindowId
        action := .inr (haction.trans hcancelled)
        listed := fun _ hsome => absurd hsome hnot
        gone := fun _ => hsaved.trans hdown
        cancelled := fun _ _ _ _ => haction.trans hcancelled }

theorem Captures.updateMouseTarget (hm : Captures w p m) (hw : 0 ≤ w)
    (hevent : m.mouseEvent = event) (hc : Continues event) (env : Env) :
    Retained w p m (m.updateMouseTarget env .mouse event).2.2 event
      (m.updateMouseTarget env .mouse event).2.1 := by
  simp only [InputWindowsManager.updateMouseTarget]
  cases hdisplay : m.displayGroupInfo.updateDisplayId event.targetDisplayId with
  | none =>
    have hnot : ¬ Placed m.displayGroupInfo event := by
      rintro ⟨displayId, place, hsome, _⟩
      rw [hdisplay] at hsome
      cases hsome
    exact ⟨hm, rfl, hevent, ⟨rfl, rfl⟩, .inr rfl, .inl rfl, fun h => absurd h hnot, fun _ => rfl,
      fun h => absurd h hnot⟩
  | some displayId =>
    have hset : Captures w p (m.write .mouse (event.setTargetDisplayId displayId)) :=
      hm.write hw (hc.setTargetDisplayId displayId)
    simp only [write_displayGroupInfo]
    cases hplace : locatePointer m.displayGroupInfo (fun _ x y => (x, y))
        (event.setTargetDisplayId displayId) with
    | error ret =>
      have hnot : ¬ Placed m.displayGroupInfo event := by
        rintro ⟨otherId, place, hsome, hok⟩
        cases hdisplay.symm.trans hsome
        rw [hplace] at hok
        cases hok
      exact ⟨hset, rfl, rfl, ⟨rfl, rfl⟩, .inr rfl, .inl rfl, fun h => absurd h hnot, fun _ => rfl,
        fun h => absurd h hnot⟩
    | ok place =>
      simp only [hset.selectWindowInfo hw (hc.setTargetDisplayId displayId), mouseTarget,
        write_displayGroupInfo]
      cases hfind : m.displayGroupInfo.findWindow w with
      | some window =>
        have hid : window.id = w := DisplayGroupInfo.findWindow_id hfind
        have hpid : window.pid = p := hm.owner window hfind
        dsimp only
        split
        · subst hid hpid
          exact retained_of_found ((m.write .mouse (event.setTargetDisplayId displayId)).write
            .mouse (event.setTargetDisplayId displayId)) env place rfl rfl
            (.inl hm.mouseDisplayState) hm.firstBtnDownWindowId hw ⟨rfl, rfl⟩ hm.owner hm.nameless
            (.inr hm.record) (.inl ⟨rfl, by simp [hfind]⟩)
        · rename_i hstyle
          exact
            { captures := hset.write hw (hc.setTargetDisplayId displayId)
              displayGroupInfo := rfl
              mouseEvent := rfl
              buttons := ⟨rfl, rfl⟩
              named := .inr rfl
              action := .inl rfl
              listed := fun _ _ hstyled => absurd (hpid ▸ hstyled) hstyle
              gone := fun hnone => by simp [hfind] at hnone
              cancelled := fun _ hnone => by simp [hfind] at hnone }
      | none =>
        by_cases hnothing : (event.setTargetDisplayId displayId).pointerAction
            = pointerActionButtonDown ∨
              (m.write .mouse (event.setTargetDisplayId displayId)).mouseDownInfo.id = -1
        · simp only [if_pos hnothing]
          exact
            { captures := hset
              displayGroupInfo := rfl
              mouseEvent := rfl
              buttons := ⟨rfl, rfl⟩
              named := .inr rfl
              action := .inl rfl
              listed := fun _ hsome => by simp [hfind] at hsome
              gone := fun _ => rfl
              cancelled := fun _ _ hid hdown => by
                rcases hnothing with haction | hgone
                · exact absurd haction hdown
                · exact absurd (hid.symm.trans hgone) (ne_neg_one hw) }
        · simp only [if_neg hnothing]
          have hheld : m.mouseDownInfo.id = w ∧ m.mouseDownInfo.pid = p :=
            hm.record.resolve_right fun hgone => hnothing (.inr hgone.1)
          have hcancelled : Captures w p (m.write .mouse ((event.setTargetDisplayId
              displayId).setPointerAction pointerActionCancel)) :=
            hm.write hw (continues_cancel rfl)
          split
          · obtain ⟨rfl, rfl⟩ := hheld
            exact retained_of_found ((m.write .mouse (event.setTargetDisplayId
              displayId)).write .mouse ((event.setTargetDisplayId displayId).setPointerAction
                pointerActionCancel)) env place rfl rfl (.inl hm.mouseDisplayState)
              hm.firstBtnDownWindowId hw ⟨rfl, rfl⟩ hm.owner hm.nameless
              (.inr (.inl ⟨rfl, rfl⟩)) (.inr ⟨rfl, hfind⟩)
          · exact
              { captures := hcancelled
                displayGroupInfo := rfl
                mouseEvent := rfl
                buttons := ⟨rfl, rfl⟩
                named := .inr rfl
                action := .inr rfl
                listed := fun _ hsome => by simp [hfind] at hsome
                gone := fun _ => rfl
                cancelled := fun _ _ _ _ => rfl }

/-! ## The client of an event -/

/-- What `GetClientFd` makes of an event of the mouse in a drag: it is for the
process of the window, or for none. With no window it names, it is for the
process only as a cancel, and the record of the press is taken back. -/
structure Addressed (w p : Int32) (m m' : InputWindowsManager) (event : PointerEvent) : Prop where
  captures : Captures w p m'
  mouseEvent : m'.mouseEvent = m.mouseEvent
  process : addressee m event event.pointerAction = p ∨
    addressee m event event.pointerAction = -1
  lost : m.displayGroupInfo.findWindow event.targetWindowId = none →
    addressee m event event.pointerAction ≠ -1 →
      event.pointerAction = pointerActionCancel ∧ m.mouseDownInfo.pid ≠ -1 ∧
        m'.mouseDownInfo.pid = -1
  taken : m.mouseDownInfo.pid = -1 → m'.mouseDownInfo.pid = -1

theorem Captures.findWindow_named (hm : Captures w p m)
    (hnamed : event.targetWindowId = w ∨ event.targetWindowId = -1) {window : WindowInfo}
    (h : m.displayGroupInfo.findWindow event.targetWindowId = some window) :
    event.targetWindowId = w ∧ window.pid = p := by
  rcases hnamed with hw | hnone
  · exact ⟨hw, hm.owner window (hw ▸ h)⟩
  · rw [hnone, hm.nameless] at h
    cases h

theorem downPid_mouse (hsource : event.sourceType = sourceTypeMouse) :
    downPid m event = m.mouseDownInfo.pid := by
  have hnotTouch : ¬ event.sourceType = sourceTypeTouchscreen := by
    rw [hsource]
    decide
  rw [downPid, if_neg hnotTouch]
  split
  · rfl
  · rename_i hnobody
    exact (not_not.mp fun hpid => hnobody ⟨hsource, hpid⟩).symm

theorem takeDownPid_mouse (hsource : event.sourceType = sourceTypeMouse) :
    (m.takeDownPid event).2 = if m.mouseDownInfo.pid = -1 then m else m.initMouseDownInfo := by
  have hnotTouch : ¬ event.sourceType = sourceTypeTouchscreen := by
    rw [hsource]
    decide
  rw [takeDownPid, if_neg hnotTouch]
  by_cases hpid : m.mouseDownInfo.pid = -1
  · rw [if_neg fun h => h.2 hpid, if_pos hpid]
  · rw [if_pos ⟨hsource, hpid⟩, if_neg hpid]

theorem Captures.getClientFd (hm : Captures w p m)
    (hnamed : event.targetWindowId = w ∨ event.targetWindowId = -1)
    (hsource : event.sourceType = sourceTypeMouse) (env : Env) :
    Addressed w p m (m.getClientFd env event).2 event := by
  cases hfind : m.displayGroupInfo.findWindow event.targetWindowId with
  | some window =>
    have hsame : (m.getClientFd env event).2 = m := by
      simp only [InputWindowsManager.getClientFd, hfind]
    have hpid : addressee m event event.pointerAction = p := by
      simp only [addressee, hfind]
      exact (hm.findWindow_named hnamed hfind).2
    rw [hsame]
    exact ⟨hm, rfl, .inl hpid, by simp [hfind], id⟩
  | none =>
    by_cases hcancel : event.pointerAction = pointerActionCancel
    · have hpid : addressee m event event.pointerAction = m.mouseDownInfo.pid := by
        simp only [addressee, hfind, if_pos hcancel, downPid_mouse hsource]
      have hafter : (m.getClientFd env event).2
          = if m.mouseDownInfo.pid = -1 then m else m.initMouseDownInfo := by
        simp only [InputWindowsManager.getClientFd, hfind, if_neg (not_not.mpr hcancel),
          takeDownPid_mouse hsource]
      rw [hafter]
      split
      · rename_i hgone
        exact ⟨hm, rfl, .inr (hpid.trans hgone), fun _ h => absurd (hpid.trans hgone) h, id⟩
      · rename_i hheld
        have hp : m.mouseDownInfo.pid = p :=
          (hm.record.resolve_right fun hgone => hheld hgone.2).2
        exact ⟨hm.initMouseDownInfo, rfl, .inl (hpid.trans hp), fun _ _ => ⟨hcancel, hheld, rfl⟩,
          fun _ => rfl⟩
    · have hsame : (m.getClientFd env event).2 = m := by
        simp only [InputWindowsManager.getClientFd, hfind, if_pos hcancel]
      have hnobody : addressee m event event.pointerAction = -1 := by
        simp only [addressee, hfind, if_neg hcancel]
      rw [hsame]
      exact ⟨hm, rfl, .inr hnobody, fun _ h => absurd hnobody h, id⟩

/-- An event that names the window, while it is listed, is for its process. -/
theorem Captures.addressee_listed (hm : Captures w p m) (htarget : event.targetWindowId = w)
    (hlisted : (m.displayGroupInfo.findWindow w).isSome) (pointerAction : Int32) :
    addressee m event pointerAction = p := by
  obtain ⟨window, hwindow⟩ := Option.isSome_iff_exists.mp hlisted
  simp only [addressee, htarget, hwindow]
  exact hm.owner window hwindow

/-- So is a cancel, while the window is gone and the record is there. -/
theorem Captures.addressee_gone (hm : Captures w p m)
    (hnamed : event.targetWindowId = w ∨ event.targetWindowId = -1)
    (hgone : m.displayGroupInfo.findWindow w = none)
    (hsource : event.sourceType = sourceTypeMouse) (hrecord : m.mouseDownInfo.id = w)
    (hw : 0 ≤ w) : addressee m event pointerActionCancel = p := by
  have hfind : m.displayGroupInfo.findWindow event.targetWindowId = none := by
    rcases hnamed with h | h
    · rw [h, hgone]
    · rw [h, hm.nameless]
  have hpid : m.mouseDownInfo.pid = p :=
    (hm.record.resolve_right fun h => ne_neg_one hw (hrecord.symm.trans h.1)).2
  simp only [addressee, hfind, if_true, downPid_mouse hsource, hpid]

/-! ## Drags -/

variable {s t : PointerService} {now : Moment} {report : MouseReport} {i : PointerInput}
  {h : Handled}

/-- No session is found for the process -1. -/
theorem not_connected_of_unknown {server : UDSServer}
    (h : server.getClientFd (-1) = invalidFd) : ¬ Connected server (-1) := by
  have hpid : (-1 : Int32).toInt = -1 := by decide
  rw [Connected, hpid, h]
  intro hsome
  obtain ⟨ses, hses⟩ := Option.isSome_iff_exists.mp hsome
  exact absurd (server.filed _ ses hses).2.1 (by decide)

/-- A drag under way. -/
structure Dragging (w p : Int32) (s : PointerService) : Prop where
  captures : Captures w p s.windowsManager
  named : s.windowsManager.mouseEvent.targetWindowId = w ∨
    s.windowsManager.mouseEvent.targetWindowId = -1
  sourceType : s.windowsManager.mouseEvent.sourceType = sourceTypeMouse
  unknown : s.server.getClientFd (-1) = invalidFd

/-- The window has been taken out of the layout. -/
def Gone (w : Int32) (s : PointerService) : Prop :=
  s.windowsManager.displayGroupInfo.findWindow w = none

/-- A packet of a drag: it goes to the process of the window, and names the
window or is a cancel. While the window is gone it is a cancel, and the record
of the press is spent on it. -/
structure DragDelivery (w p : Int32) (s s' : PointerService) (d : Delivery) : Prop where
  fd : d.fd = s.server.getClientFd p.toInt
  named : d.event.targetWindowId = w ∨ d.event.pointerAction = pointerActionCancel
  gone : Gone w s → d.event.pointerAction = pointerActionCancel ∧
    s.windowsManager.mouseDownInfo.pid ≠ -1 ∧ s'.windowsManager.mouseDownInfo.pid = -1

/-- What is delivered in a step of a drag. An event whose place is known is
delivered while the window is listed, and cancelled while it is gone and the
record of the press is there. -/
structure Captured (w p : Int32) (s : PointerService) (i : PointerInput) : Prop where
  once : (s.deliveries i).length ≤ 1
  delivered : ∀ d ∈ s.deliveries i, DragDelivery w p s (s.step i) d
  listed : ∀ h, s.handled i = some h → h.now.blocked = false → Connected s.server p →
    Placed s.windowsManager.displayGroupInfo h.event → ¬ Gone w s →
      s.windowsManager.pointerStyle p = true →
        ∃ d ∈ s.deliveries i, d.event.targetWindowId = w ∧
          d.event.pointerAction = h.event.pointerAction
  cancelled : ∀ h, s.handled i = some h → h.now.blocked = false → Connected s.server p →
    Placed s.windowsManager.displayGroupInfo h.event → Gone w s →
      s.windowsManager.mouseDownInfo.id = w →
        h.event.pointerAction ≠ pointerActionButtonDown →
          ∃ d ∈ s.deliveries i, d.event.pointerAction = pointerActionCancel

/-- A step after which the drag goes on. -/
structure DragStep (w p : Int32) (s : PointerService) (i : PointerInput) : Prop where
  captured : Captured w p s i
  dragging : Dragging w p (s.step i)
  spent : Gone w s → s.windowsManager.mouseDownInfo.pid = -1 →
    (s.step i).windowsManager.mouseDownInfo.pid = -1

namespace PointerService

theorem handlePointerEventInner_server (now : Moment) (s : PointerService)
    (point : PointerEvent) : (s.handlePointerEventInner now point).server = s.server := by
  simp only [handlePointerEventInner]
  split
  · rfl
  · split <;> rfl

theorem handlePointerEventInner_fd {now : Moment} {s : PointerService} {point : PointerEvent}
    {d : Delivery} (hd : (s.handlePointerEventInner now point).delivered = s.delivered ++ [d]) :
    d.fd = s.server.getClientFd
      (addressee s.windowsManager point point.pointerAction).toInt := by
  have hfd := getClientFd_fst (s.env now) s.windowsManager point
  simp only [handlePointerEventInner] at hd
  split at hd
  · simp at hd
  · split at hd
    · simp at hd
    · have hdelivery := List.append_cancel_left hd
      cases hdelivery
      exact hfd

theorem step_append (s : PointerService) (i : PointerInput) :
    (s.step i).delivered = s.delivered ++ s.deliveries i := by
  cases hh : s.handled i with
  | none => rw [deliveries_dropped hh, List.append_nil, step_dropped hh]
  | some h =>
    obtain ⟨new, hnew, _⟩ := step_delivered hh
    rw [deliveries, hnew, List.drop_left]

end PointerService

/-- What the manager that is asked for the target has from before the step. -/
structure SameWindows (m m' : InputWindowsManager) : Prop where
  displayGroupInfo : m'.displayGroupInfo = m.displayGroupInfo
  mouseDownInfo : m'.mouseDownInfo = m.mouseDownInfo
  pointerStyle : m'.pointerStyle = m.pointerStyle

/-- An event of the mouse is looked for a target and dispatched. -/
theorem dragStep_of_retained {point : PointerEvent} (hh : s.handled i = some h)
    (hstep : s.step i = t.handlePointerEventInner h.now point) (hserver : t.server = s.server)
    (hdelivered : t.delivered = s.delivered) (hsame : SameWindows s.windowsManager h.manager)
    (hr : Retained w p h.manager t.windowsManager h.event point) (hw : 0 ≤ w)
    (hnamed : h.event.targetWindowId = w ∨ h.event.targetWindowId = -1)
    (hsource : h.event.sourceType = sourceTypeMouse)
    (hunknown : s.server.getClientFd (-1) = invalidFd) :
    DragStep w p s i := by
  have hpoint : point.targetWindowId = w ∨ point.targetWindowId = -1 := by
    rcases hr.named with hname | hname
    · exact .inl hname
    · rw [hname]
      exact hnamed
  have hmouse : point.sourceType = sourceTypeMouse := hr.buttons.sourceType.trans hsource
  have haddressed := hr.captures.getClientFd hpoint hmouse (t.env h.now)
  have hafter : (s.step i).windowsManager
      = (t.windowsManager.getClientFd (t.env h.now) point).2 := by
    rw [hstep, (PointerService.handlePointerEventInner_rest h.now t point).2]
  obtain ⟨new, hnew, hto⟩ := PointerService.handlePointerEventInner_delivered h.now t point
  have hdeliveries : s.deliveries i = new := by
    rw [PointerService.deliveries, hstep, hnew, hdelivered, List.drop_left]
  rw [hserver] at hto
  have hgroup : t.windowsManager.displayGroupInfo = s.windowsManager.displayGroupInfo :=
    hr.displayGroupInfo.trans hsame.displayGroupInfo
  -- Something is delivered only to a process, and this is the window's.
  have hprocess : ∀ d ∈ new, addressee t.windowsManager point point.pointerAction = p ∧
      addressee t.windowsManager point point.pointerAction ≠ -1 := by
    intro d hd
    have hne : addressee t.windowsManager point point.pointerAction ≠ -1 := fun hnone =>
      not_connected_of_unknown hunknown (hnone ▸ hto.connected d hd)
    exact ⟨haddressed.process.resolve_right hne, hne⟩
  have hfd : ∀ d ∈ new, d.fd = s.server.getClientFd p.toInt := by
    intro d hd
    have hone : new = [d] := by
      obtain ⟨d', rfl⟩ := List.length_eq_one_iff.mp
        (le_antisymm hto.once (List.length_pos_of_mem hd))
      rw [List.mem_singleton.mp hd]
    rw [PointerService.handlePointerEventInner_fd (hone ▸ hnew), hserver, (hprocess d hd).1]
  have hgone : Gone w s → h.manager.displayGroupInfo.findWindow w = none := by
    rw [Gone, hsame.displayGroupInfo]
    exact id
  have hrecord : Gone w s → t.windowsManager.mouseDownInfo = s.windowsManager.mouseDownInfo :=
    fun hg => (hr.gone (hgone hg)).trans hsame.mouseDownInfo
  have hunnamed : Gone w s → t.windowsManager.displayGroupInfo.findWindow point.targetWindowId
      = none := by
    intro hg
    rcases hpoint with hname | hname
    · rw [hname, hgroup]
      exact hg
    · rw [hname]
      exact hr.captures.nameless
  refine ⟨⟨?_, ?_, ?_, ?_⟩, ⟨?_, ?_, ?_, ?_⟩, ?_⟩
  · rw [hdeliveries]
    exact hto.once
  · rw [hdeliveries]
    intro d hd
    obtain ⟨htarget, haction⟩ := hto.named d hd
    refine ⟨hfd d hd, ?_, fun hg => ?_⟩
    · cases hfind : t.windowsManager.displayGroupInfo.findWindow point.targetWindowId with
      | some window => exact .inl (htarget.trans (hr.captures.findWindow_named hpoint hfind).1)
      | none => exact .inr (haction.trans (haddressed.lost hfind (hprocess d hd).2).1)
    · obtain ⟨hcancel, hheld, htaken⟩ := haddressed.lost (hunnamed hg) (hprocess d hd).2
      rw [hafter, ← hrecord hg]
      exact ⟨haction.trans hcancel, hheld, htaken⟩
  · intro h' hh' hfree hconnected hplaced hlisted hstyle
    cases hh.symm.trans hh'
    rw [← hsame.displayGroupInfo] at hplaced
    have hsome : (h.manager.displayGroupInfo.findWindow w).isSome := by
      rw [hsame.displayGroupInfo]
      exact Option.isSome_iff_ne_none.mpr hlisted
    obtain ⟨htarget, haction⟩ := hr.listed hplaced hsome (hsame.pointerStyle ▸ hstyle)
    have hp := hr.captures.addressee_listed htarget (hr.displayGroupInfo ▸ hsome)
      point.pointerAction
    obtain ⟨d, hd⟩ := List.exists_mem_of_ne_nil _ (hto.sent hfree (hp ▸ hconnected))
    rw [hdeliveries]
    exact ⟨d, hd, (hto.named d hd).1.trans htarget, (hto.named d hd).2.trans haction⟩
  · intro h' hh' hfree hconnected hplaced hg hid hdown
    cases hh.symm.trans hh'
    rw [← hsame.displayGroupInfo] at hplaced
    have hcancel := hr.cancelled hplaced (hgone hg) (hsame.mouseDownInfo ▸ hid) hdown
    have hp := hr.captures.addressee_gone hpoint (hgroup ▸ hg) hmouse ((hrecord hg).symm ▸ hid) hw
    rw [hcancel] at hto
    obtain ⟨d, hd⟩ := List.exists_mem_of_ne_nil _ (hto.sent hfree (hp ▸ hconnected))
    rw [hdeliveries]
    exact ⟨d, hd, (hto.named d hd).2.trans hcancel⟩
  · rw [hafter]
    exact haddressed.captures
  · rw [hafter, haddressed.mouseEvent, hr.mouseEvent]
    exact hpoint
  · rw [hafter, haddressed.mouseEvent, hr.mouseEvent]
    exact hmouse
  · rw [hstep, PointerService.handlePointerEventInner_server, hserver]
    exact hunknown
  · intro hg hspent
    rw [hafter]
    exact haddressed.taken ((hrecord hg).symm ▸ hspent)

/-! ## The steps of a drag -/

/-- The keys held down are written into the event before it is dispatched. -/
theorem Retained.setPressedKeys (hr : Retained w p m m' event event') (pressedKeys : List Int32) :
    Retained w p m (m'.write .mouse (event'.setPressedKeys pressedKeys)) event
      (event'.setPressedKeys pressedKeys) where
  captures := { hr.captures with selects := hr.mouseEvent ▸ hr.captures.selects }
  displayGroupInfo := hr.displayGroupInfo
  mouseEvent := rfl
  buttons := ⟨hr.buttons.sourceType, hr.buttons.pressedButtons⟩
  named := hr.named
  action := hr.action
  listed := hr.listed
  gone := hr.gone
  cancelled := hr.cancelled

theorem updateTargetPointer_of_mouse (env : Env) (m : InputWindowsManager)
    (hsource : event.sourceType = sourceTypeMouse) :
    m.updateTargetPointer env .mouse event = m.updateMouseTarget env .mouse event := by
  have hnotTouch : ¬ event.sourceType = sourceTypeTouchscreen := by
    rw [hsource]
    decide
  rw [InputWindowsManager.updateTargetPointer, if_neg hnotTouch, if_pos hsource]

/-- What `HandlePostInner` leaves of the window manager and of the report. -/
theorem handlePostInner_manager (time : Int64) (m : InputWindowsManager) (report : MouseReport) :
    (∃ location, (handlePostInner time m report).2
      = { m with mouseLocation := location, nextEventId := m.nextEventId + 1 }) ∧
    SameButtons (report.event.setSourceType sourceTypeMouse) (handlePostInner time m report).1 ∧
    (handlePostInner time m report).1.pointerAction = report.event.pointerAction := by
  obtain ⟨location, hlocation⟩ := { m with mouseLocation := report.mouseLocation }.getMouseInfo_eq
  obtain ⟨pointers, hlength, hitem⟩ := (report.event.setId m.nextEventId).updatePointerItem_eq
    report.event.pointerId
    { displayX := location.physicalX
      displayY := location.physicalY
      pointerId := 0
      pressed := report.isPressed
      downTime := time
      deviceId := report.deviceId }
  simp only [handlePostInner]
  rw [hlocation]
  refine ⟨⟨location, rfl⟩, ?_⟩
  have hpointer : (report.event.setId m.nextEventId).pointerId = report.event.pointerId := rfl
  rw [hpointer, hitem]
  exact ⟨⟨rfl, rfl⟩, rfl⟩

/-- The window manager that is asked for the target of a report's event. -/
def asked (now : Moment) (s : PointerService) (report : MouseReport) : InputWindowsManager :=
  (handlePostInner now.time s.windowsManager report).2.write .mouse
    (handlePostInner now.time s.windowsManager report).1

/-- The target of a report's event. -/
def mouseTargetOf (now : Moment) (s : PointerService) (report : MouseReport) :
    TargetRet × PointerEvent × InputWindowsManager :=
  (asked now s report).updateMouseTarget (s.env now) .mouse
    (handlePostInner now.time s.windowsManager report).1

/-- A step of the mouse, from what the search for its target does. -/
theorem dragStep_mouse (hw : 0 ≤ w) (hunknown : s.server.getClientFd (-1) = invalidFd)
    (hr : Retained w p (asked now s report) (mouseTargetOf now s report).2.2
      (handlePostInner now.time s.windowsManager report).1 (mouseTargetOf now s report).2.1) :
    DragStep w p s (.mouse now report) := by
  obtain ⟨⟨location, hpost⟩, hbuttons, _⟩ :=
    handlePostInner_manager now.time s.windowsManager report
  have htarget : (asked now s report).updateTargetPointer (s.env now) .mouse
      (handlePostInner now.time s.windowsManager report).1 = mouseTargetOf now s report :=
    updateTargetPointer_of_mouse _ _ hbuttons.sourceType
  have hstep : s.step (.mouse now report) = { s with
      windowsManager := (mouseTargetOf now s report).2.2.write .mouse
        ((mouseTargetOf now s report).2.1.setPressedKeys report.pressedKeys)
      }.handlePointerEventInner now
        ((mouseTargetOf now s report).2.1.setPressedKeys report.pressedKeys) := by
    rw [← htarget]
    rfl
  have hsame : SameWindows s.windowsManager (asked now s report) := by
    rw [asked, hpost]
    exact ⟨rfl, rfl, rfl⟩
  exact dragStep_of_retained (h := ⟨now, asked now s report, .mouse, _⟩) rfl hstep rfl rfl hsame
    (hr.setPressedKeys report.pressedKeys) hw (.inr rfl) hbuttons.sourceType hunknown

theorem Dragging.mouse (hs : Dragging w p s) (hw : 0 ≤ w) (hc : Continues report.event) :
    DragStep w p s (.mouse now report) := by
  obtain ⟨⟨location, hpost⟩, hbuttons, haction⟩ :=
    handlePostInner_manager now.time s.windowsManager report
  have hcontinues : Continues (handlePostInner now.time s.windowsManager report).1 := by
    simp only [Continues, haction, hbuttons.pressedButtons]
    exact hc
  have hlocated : Captures w p (handlePostInner now.time s.windowsManager report).2 := by
    rw [hpost]
    exact hs.captures.unmoved ⟨⟨rfl, rfl, rfl, rfl, rfl⟩, rfl, rfl⟩
  exact dragStep_mouse hw hs.unknown
    ((hlocated.write hw hcontinues).updateMouseTarget hw rfl hcontinues (s.env now))

theorem dragStep_of_dropped (hh : s.handled i = none) (hdragging : Dragging w p (s.step i))
    (hrecord : (s.step i).windowsManager.mouseDownInfo = s.windowsManager.mouseDownInfo) :
    DragStep w p s i where
  captured := by
    have hnone := PointerService.deliveries_dropped hh
    refine ⟨by simp [hnone], by simp [hnone], ?_, ?_⟩
    · intro h hsome
      rw [hh] at hsome
      cases hsome
    · intro h hsome
      rw [hh] at hsome
      cases hsome
  dragging := hdragging
  spent := fun _ h => hrecord ▸ h

/-- The end of a scroll is the mouse's event once more. -/
def axisEndEvent (m : InputWindowsManager) : PointerEvent :=
  (m.mouseEvent.setPointerAction pointerActionAxisEnd).setId m.nextEventId

theorem continues_axisEndEvent (m : InputWindowsManager) : Continues (axisEndEvent m) := by
  have haction : (axisEndEvent m).pointerAction = pointerActionAxisEnd := rfl
  simp only [Continues, haction]
  exact ⟨fun h => absurd h.1 (by decide), fun h => absurd h.1 (by decide)⟩

theorem Dragging.axisEnd (hs : Dragging w p s) (hw : 0 ≤ w) : DragStep w p s (.axisEnd now) := by
  have hcontinues := continues_axisEndEvent s.windowsManager
  have hid : Captures w p s.windowsManager.updateId :=
    hs.captures.unmoved ⟨⟨rfl, rfl, rfl, rfl, rfl⟩, rfl, rfl⟩
  have hwritten := hid.write hw hcontinues
  by_cases hitem : ((axisEndEvent s.windowsManager).getPointerItem
      (axisEndEvent s.windowsManager).pointerId).isNone
  · have hdrop : (axisEndEvent s.windowsManager).pointerAction = pointerActionAxisEnd ∧
        ((axisEndEvent s.windowsManager).getPointerItem
          (axisEndEvent s.windowsManager).pointerId).isNone := ⟨rfl, hitem⟩
    have hh : s.handled (.axisEnd now) = none := if_pos hdrop
    have hstep : s.step (.axisEnd now) = { s with
        windowsManager := s.windowsManager.updateId.write .mouse
          (axisEndEvent s.windowsManager) } := if_pos hdrop
    refine dragStep_of_dropped hh ?_ (by rw [hstep]; rfl)
    rw [hstep]
    exact ⟨hwritten, hs.named, hs.sourceType, hs.unknown⟩
  · have hkeep : ¬ ((axisEndEvent s.windowsManager).pointerAction = pointerActionAxisEnd ∧
        ((axisEndEvent s.windowsManager).getPointerItem
          (axisEndEvent s.windowsManager).pointerId).isNone) := fun h => hitem h.2
    have hevent : (s.windowsManager.updateId.write .mouse
        (axisEndEvent s.windowsManager)).mouseEvent = axisEndEvent s.windowsManager := rfl
    have hsource : (axisEndEvent s.windowsManager).sourceType = sourceTypeMouse := hs.sourceType
    have hr := hwritten.updateMouseTarget hw hevent hcontinues (s.env now)
    rw [← updateTargetPointer_of_mouse (s.env now) _ hsource] at hr
    have hh : s.handled (.axisEnd now) = some ⟨now,
        s.windowsManager.updateId.write .mouse (axisEndEvent s.windowsManager), .mouse,
        axisEndEvent s.windowsManager⟩ := if_neg hkeep
    have hstep : s.step (.axisEnd now) = PointerService.targetAndDispatch now { s with
        windowsManager := s.windowsManager.updateId.write .mouse (axisEndEvent s.windowsManager) }
        .mouse (axisEndEvent s.windowsManager) := if_neg hkeep
    exact dragStep_of_retained hh hstep rfl rfl ⟨rfl, rfl, rfl⟩ hr hw hs.named hs.sourceType
      hs.unknown

/-! ### Layouts and sessions -/

/-- What comes in between in a drag: reports of the mouse while a button is
held, the end of a scroll, layouts in which the window is not another
process's, and sessions. -/
def DragInput (w p : Int32) : PointerInput → Prop
  | .mouse _ report => Continues report.event
  | .axisEnd _ => True
  | .updateDisplayInfo _ displayGroupInfo =>
      (∀ window, displayGroupInfo.findWindow w = some window → window.pid = p) ∧
        displayGroupInfo.findWindow (-1) = none
  | .addSession _ => True
  | .delSession _ => True
  | .touch _ _ _ => False
  | .injectPointerEvent _ _ => False

theorem Dragging.updateDisplayInfo {displayGroupInfo : DisplayGroupInfo} (hs : Dragging w p s)
    (hi : DragInput w p (.updateDisplayInfo now displayGroupInfo)) :
    DragStep w p s (.updateDisplayInfo now displayGroupInfo) := by
  have hlayout : Captures w p { s.windowsManager with displayGroupInfo } :=
    { hs.captures with owner := hi.1, nameless := hi.2 }
  have hunmoved := updateDisplayInfo_unmoved (s.env now) displayGroupInfo hs.captures.steady
  have hmouse : (s.windowsManager.updateDisplayInfo (s.env now) displayGroupInfo).mouseEvent
      = s.windowsManager.mouseEvent := hunmoved.mouseEvent
  refine dragStep_of_dropped rfl ⟨hlayout.unmoved hunmoved, ?_, ?_, hs.unknown⟩
    hunmoved.mouseDownInfo
  · exact hmouse ▸ hs.named
  · exact hmouse ▸ hs.sourceType

theorem Dragging.addSession (hs : Dragging w p s) (ses : Session) :
    DragStep w p s (.addSession ses) := by
  refine dragStep_of_dropped rfl ⟨hs.captures, hs.named, hs.sourceType, ?_⟩ rfl
  show (s.server.addSession ses).2.getClientFd (-1) = invalidFd
  by_cases hrefused : ses.fd < 0 ∨ ses.pid ≤ 0
  · rw [UDSServer.addSession_refused s.server hrefused]
    exact hs.unknown
  · push Not at hrefused
    obtain ⟨_, _, hpids⟩ := UDSServer.addSession_accepted s.server hrefused.1 hrefused.2
    have hpid : (-1 : Int) ≠ ses.pid := by omega
    rw [UDSServer.getClientFd, hpids, Function.update_of_ne hpid]
    exact hs.unknown

theorem Dragging.delSession (hs : Dragging w p s) (fd : Int) :
    DragStep w p s (.delSession fd) := by
  cases hses : s.server.getSession fd with
  | none =>
    have hstep : s.step (.delSession fd) = s := by
      simp only [PointerService.step, PointerService.delSession, hses]
    exact dragStep_of_dropped rfl (hstep.symm ▸ hs) (by rw [hstep])
  | some ses =>
    have hstep : s.step (.delSession fd) = { s with
        server := s.server.delSession fd
        windowsManager := s.windowsManager.onSessionLost (Int32.ofInt ses.pid) } := by
      simp only [PointerService.step, PointerService.delSession, hses]
    refine dragStep_of_dropped rfl ?_ (by rw [hstep]; rfl)
    rw [hstep]
    refine ⟨hs.captures.unmoved ⟨⟨rfl, rfl, rfl, rfl, rfl⟩, rfl, rfl⟩, hs.named, hs.sourceType, ?_⟩
    have hpid : (-1 : Int) ≠ ses.pid := by
      have hpositive := (s.server.filed fd ses hses).2.2
      omega
    show (s.server.delSession fd).getClientFd (-1) = invalidFd
    rw [UDSServer.getClientFd, (s.server.delSession_of_some hses).2, Function.update_of_ne hpid]
    exact hs.unknown

theorem Dragging.dragStep (hs : Dragging w p s) (hw : 0 ≤ w) (hi : DragInput w p i) :
    DragStep w p s i := by
  cases i with
  | mouse now report => exact hs.mouse hw hi
  | axisEnd now => exact hs.axisEnd hw
  | updateDisplayInfo now displayGroupInfo => exact hs.updateDisplayInfo hi
  | addSession ses => exact hs.addSession ses
  | delSession fd => exact hs.delSession fd
  | touch now deviceId touch => exact hi.elim
  | injectPointerEvent now event => exact hi.elim

/-! ## The first press -/

/-- The press with which a drag begins: the pointer is shown, and the window
`w` of the process `p` is found for it. -/
structure Press (w p : Int32) (s : PointerService) (now : Moment) (report : MouseReport) :
    Prop where
  pointerAction : report.event.pointerAction = pointerActionButtonDown
  shown : s.windowsManager.Shown
  window : ∃ touchWindow, (asked now s report).selectedWindow
    (handlePostInner now.time s.windowsManager report).1 = some touchWindow ∧
      touchWindow.id = w ∧ touchWindow.pid = p
  id : 0 ≤ w
  nameless : s.windowsManager.displayGroupInfo.findWindow (-1) = none
  unknown : s.server.getClientFd (-1) = invalidFd

/-- The press is retained by the window found for it. -/
theorem updateMouseTarget_pressed (env : Env) (hsource : event.sourceType = sourceTypeMouse)
    (hdown : event.pointerAction = pointerActionButtonDown) (hshown : m.Shown)
    (hselected : m.selectedWindow event = some touchWindow) (hid : 0 ≤ touchWindow.id)
    (hnameless : m.displayGroupInfo.findWindow (-1) = none) :
    Retained touchWindow.id touchWindow.pid m (m.updateMouseTarget env .mouse event).2.2 event
      (m.updateMouseTarget env .mouse event).2.1 := by
  have hnotTouch : ¬ event.sourceType = sourceTypeTouchscreen := by
    rw [hsource]
    decide
  rw [selectedWindow, if_neg hnotTouch, if_pos hsource] at hselected
  obtain ⟨hfound, hstyle⟩ := Option.filter_eq_some_iff.mp hselected
  obtain ⟨⟨window, found⟩, htarget, rfl⟩ := Option.map_eq_some_iff.mp hfound
  simp only [findMouseTarget] at htarget
  simp only [InputWindowsManager.updateMouseTarget]
  cases hdisplay : m.displayGroupInfo.updateDisplayId event.targetDisplayId with
  | none => simp [hdisplay] at htarget
  | some displayId =>
    simp only [hdisplay, write_displayGroupInfo] at htarget ⊢
    cases hplace : locatePointer m.displayGroupInfo (fun _ x y => (x, y))
        (event.setTargetDisplayId displayId) with
    | error ret => simp [hplace] at htarget
    | ok place =>
      simp only [hplace, mouseTarget_write] at htarget ⊢
      -- A press that selects no window finds none.
      have hselect : (m.selectWindowInfo place.logicalX place.logicalY
          (event.setTargetDisplayId displayId)).1 = some window ∧
            found = event.setTargetDisplayId displayId := by
        unfold mouseTarget at htarget
        split at htarget
        · rename_i other hother
          cases htarget
          exact ⟨hother, rfl⟩
        · rw [if_pos (.inl hdown)] at htarget
          cases htarget
      obtain ⟨hwindow, rfl⟩ := hselect
      have hfirst : m.firstWindowId place.logicalX place.logicalY
          (event.setTargetDisplayId displayId) = window.id :=
        (DisplayGroupInfo.findWindow_id hwindow).symm
      have hlisted : m.displayGroupInfo.findWindow window.id = some window := hfirst ▸ hwindow
      rw [htarget]
      dsimp only
      split
      · refine retained_of_found (((m.write .mouse (event.setTargetDisplayId
          displayId)).selectWindowInfo place.logicalX place.logicalY (event.setTargetDisplayId
            displayId)).2.write .mouse (event.setTargetDisplayId displayId)) env place rfl rfl
          hshown hfirst hid ⟨rfl, rfl⟩ (fun other hother => ?_) hnameless (.inl hdown)
          (.inl ⟨rfl, by simp [hlisted]⟩)
        cases hlisted.symm.trans hother
        rfl
      · rename_i hunstyled
        exact absurd hstyle hunstyled

theorem Press.dragStep (hpress : Press w p s now report) : DragStep w p s (.mouse now report) := by
  obtain ⟨⟨location, hpost⟩, hbuttons, haction⟩ :=
    handlePostInner_manager now.time s.windowsManager report
  obtain ⟨touchWindow, hselected, rfl, rfl⟩ := hpress.window
  have hsame : (asked now s report).Shown ∧
      (asked now s report).displayGroupInfo = s.windowsManager.displayGroupInfo := by
    rw [asked, hpost]
    exact ⟨hpress.shown, rfl⟩
  exact dragStep_mouse hpress.id hpress.unknown (updateMouseTarget_pressed (s.env now)
    hbuttons.sourceType (haction.trans hpress.pointerAction) hsame.1 hselected hpress.id
    (hsame.2 ▸ hpress.nameless))

/-! ## Whole drags -/

theorem Dragging.run (hs : Dragging w p s) (hw : 0 ≤ w) {is : List PointerInput}
    (hin : ∀ i ∈ is, DragInput w p i) :
    AllSteps PointerService.step (Captured w p) s is ∧
      Dragging w p (runFrom PointerService.step s is) := by
  induction is generalizing s with
  | nil => exact ⟨trivial, hs⟩
  | cons i is ih =>
    obtain ⟨hi, his⟩ := List.forall_mem_cons.mp hin
    have hstep := hs.dragStep hw hi
    obtain ⟨hcaptured, hdragging⟩ := ih hstep.dragging his
    exact ⟨⟨hstep.captured, hcaptured⟩, hdragging⟩

/-- At most one event is delivered, a cancel. -/
def CancelledOnce (s s' : PointerService) : Prop :=
  ∃ new, s'.delivered = s.delivered ++ new ∧ new.length ≤ 1 ∧
    ∀ d ∈ new, d.event.pointerAction = pointerActionCancel

/-- With the record spent, nothing is delivered while the window is gone. -/
theorem Dragging.silent (hs : Dragging w p s) (hw : 0 ≤ w)
    (hspent : s.windowsManager.mouseDownInfo.pid = -1) {is : List PointerInput}
    (hin : ∀ i ∈ is, DragInput w p i)
    (hgone : AllSteps PointerService.step (fun s _ => Gone w s) s is) :
    (runFrom PointerService.step s is).delivered = s.delivered := by
  induction is generalizing s with
  | nil => rfl
  | cons i is ih =>
    obtain ⟨hi, his⟩ := List.forall_mem_cons.mp hin
    obtain ⟨hg, hgone⟩ := hgone
    have hstep := hs.dragStep hw hi
    have hnothing : s.deliveries i = [] := by
      refine List.eq_nil_iff_forall_not_mem.mpr fun d hd => ?_
      exact ((hstep.captured.delivered d hd).gone hg).2.1 hspent
    rw [runFrom_cons, ih hstep.dragging (hstep.spent hg hspent) his hgone,
      PointerService.step_append, hnothing, List.append_nil]

theorem Dragging.cancelledOnce (hs : Dragging w p s) (hw : 0 ≤ w) {is : List PointerInput}
    (hin : ∀ i ∈ is, DragInput w p i)
    (hgone : AllSteps PointerService.step (fun s _ => Gone w s) s is) :
    CancelledOnce s (runFrom PointerService.step s is) := by
  induction is generalizing s with
  | nil => exact ⟨[], (List.append_nil _).symm, by simp, by simp⟩
  | cons i is ih =>
    obtain ⟨hi, his⟩ := List.forall_mem_cons.mp hin
    obtain ⟨hg, hgone⟩ := hgone
    have hstep := hs.dragStep hw hi
    have happend := PointerService.step_append s i
    cases hdeliveries : s.deliveries i with
    | nil =>
      obtain ⟨new, hnew, hrest⟩ := ih hstep.dragging his hgone
      refine ⟨new, ?_, hrest⟩
      rw [runFrom_cons, hnew, happend, hdeliveries, List.append_nil]
    | cons d rest =>
      have hd : d ∈ s.deliveries i := by simp [hdeliveries]
      obtain ⟨_, _, hspent⟩ := (hstep.captured.delivered d hd).gone hg
      refine ⟨s.deliveries i, ?_, hstep.captured.once, fun d' hd' =>
        ((hstep.captured.delivered d' hd').gone hg).1⟩
      rw [runFrom_cons, hstep.dragging.silent hw hspent his hgone, happend]

/-- From the press of a button, whatever mouse events with a button held,
layouts and sessions follow: all that is delivered goes to the process of the
window that the press was on and names this window, or is a cancel. As long as
the window is gone from the layout, at most one event is delivered, and it is
a cancel. -/
theorem drag_captured {is : List PointerInput} (hpress : Press w p s now report)
    (hin : ∀ i ∈ is, DragInput w p i) :
    AllSteps PointerService.step (Captured w p) s (.mouse now report :: is) ∧
      ∀ before between after, is = before ++ between ++ after →
        AllSteps PointerService.step (fun s _ => Gone w s)
          (runFrom PointerService.step s (.mouse now report :: before)) between →
        CancelledOnce (runFrom PointerService.step s (.mouse now report :: before))
          (runFrom PointerService.step s (.mouse now report :: before ++ between)) := by
  have hstep := hpress.dragStep
  refine ⟨⟨hstep.captured, (hstep.dragging.run hpress.id hin).1⟩, ?_⟩
  rintro before between after rfl hgone
  simp only [List.mem_append, or_imp, forall_and] at hin
  have hbefore := (hstep.dragging.run hpress.id hin.1.1).2
  rw [runFrom_append]
  exact hbefore.cancelledOnce hpress.id hin.1.2 hgone

/-! ## A drag out of a window that goes -/

/-- A report of the mouse with the buttons that are down. -/
def heldReport (pointerAction : Int32) (pressedButtons : List Int32) (x : Int32) : MouseReport where
  event := pressedButtons.foldl PointerEvent.setButtonPressed
    ((PointerEvent.create 0).setPointerAction pointerAction)
  mouseLocation := ⟨x, 10⟩
  currentDisplayId := 0
  isPressed := !pressedButtons.isEmpty
  deviceId := 3
  pressedKeys := []

/-- Two windows of two processes, and the mouse on neither. -/
def beforeDrag : PointerService :=
  runFrom PointerService.step (.create 0 (leftOrRight 0 0 0) (leftOrRight 0 0 0))
    [.addSession ⟨1, 5, 10⟩, .addSession ⟨2, 6, 11⟩,
      .updateDisplayInfo quietMoment (oneDisplay [leftOrRight 1 10 0, leftOrRight 2 11 50])]

def pressOnLeft : MouseReport := heldReport pointerActionButtonDown [0] 10

/-- The mouse moves on to the right window, and the left one goes. -/
def dragOut : List PointerInput :=
  [.mouse quietMoment (heldReport pointerActionMove [0] 75),
    .updateDisplayInfo quietMoment (oneDisplay [leftOrRight 2 11 50]),
    .mouse quietMoment (heldReport pointerActionMove [0] 76),
    .mouse quietMoment (heldReport pointerActionMove [0] 77),
    .mouse quietMoment (heldReport pointerActionButtonUp [] 77)]

theorem drag_captured_dragOut :
    AllSteps PointerService.step (Captured 1 10) beforeDrag (.mouse quietMoment pressOnLeft ::
        dragOut) ∧
      ∀ before between after, dragOut = before ++ between ++ after →
        AllSteps PointerService.step (fun s _ => Gone 1 s)
          (runFrom PointerService.step beforeDrag (.mouse quietMoment pressOnLeft :: before))
          between →
        CancelledOnce
          (runFrom PointerService.step beforeDrag (.mouse quietMoment pressOnLeft :: before))
          (runFrom PointerService.step beforeDrag
            (.mouse quietMoment pressOnLeft :: before ++ between)) := by
  refine drag_captured ⟨rfl, .inr rfl, ⟨leftOrRight 1 10 0, by decide +kernel, rfl, rfl⟩,
    by decide, by decide +kernel, by decide +kernel⟩ ?_
  have hmove : Continues (heldReport pointerActionMove [0] 0).event :=
    ⟨fun h => absurd h.1 (by decide), fun h => absurd h.2 (by decide)⟩
  simp only [dragOut, List.forall_mem_cons, List.not_mem_nil, false_imp_iff, implies_true, and_true]
  refine ⟨hmove, ⟨fun window h => ?_, by decide +kernel⟩, hmove, hmove,
    fun h => absurd h.1 (by decide), fun h => absurd h.1 (by decide)⟩
  have hgone : (oneDisplay [leftOrRight 2 11 50]).findWindow 1 = none := by decide +kernel
  rw [hgone] at h
  cases h

/-- The press and the first motion, one cancel, and nothing more. -/
example : (runFrom PointerService.step beforeDrag (.mouse quietMoment pressOnLeft ::
    dragOut)).delivered.map (fun d => (d.fd, d.event.targetWindowId, d.event.pointerAction))
      = [(5, 1, pointerActionButtonDown), (5, 1, pointerActionMove),
          (5, 1, pointerActionCancel)] := by
  decide +kernel

end FtMmi.EventDispatch
