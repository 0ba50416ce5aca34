/-
FtMmi.EventDispatch.StaleTarget — when an event is delivered that has no
target of its own.

No handler looks at what `UpdateTargetPointer` returns. An event for which
it found no window still names the one it named before, and the dispatcher
sends it to the process of that window. `freshTargets_iff` says exactly
which runs are free of this.
-/
import FtMmi.EventDispatch.EventDispatchHandler
import FtMmi.Lib.StepSystem
import FtMmi.TouchEventNormalize.TouchItems
import FtMmi.WindowManager.SelectedWindow

namespace FtMmi.EventDispatch

open FtMmi.Event
open FtMmi.Lib
open FtMmi.Server
open FtMmi.TouchEventNormalize
open FtMmi.WindowManager

/-! ## The addressee of an event -/

/-- The process of the window a finger or a button is down on. -/
def downPid (s : InputWindowsManager) (event : PointerEvent) : Int32 :=
  if event.sourceType = sourceTypeTouchscreen then
    match s.touchItemDownInfos event.pointerId with
    | some record => record.pid
    | none => -1
  else if event.sourceType = sourceTypeMouse ∧ s.mouseDownInfo.pid ≠ -1 then s.mouseDownInfo.pid
  else -1

/-- The process of the window an event names, or, for a cancel, of the one
that was gone down on. -/
def addressee (s : InputWindowsManager) (event : PointerEvent) (pointerAction : Int32) : Int32 :=
  match s.displayGroupInfo.findWindow event.targetWindowId with
  | some windowInfo => windowInfo.pid
  | none => if pointerAction = pointerActionCancel then downPid s event else -1

theorem getClientFd_fst (env : Env) (s : InputWindowsManager) (event : PointerEvent) :
    (s.getClientFd env event).1
      = env.server.getClientFd (addressee s event event.pointerAction).toInt := by
  unfold InputWindowsManager.getClientFd addressee
  cases s.displayGroupInfo.findWindow event.targetWindowId with
  | some windowInfo => rfl
  | none =>
    by_cases hcancel : event.pointerAction = pointerActionCancel
    · simp only [hcancel, ne_eq, not_true_eq_false, if_false, if_true]
      unfold InputWindowsManager.takeDownPid downPid
      split
      · cases s.touchItemDownInfos event.pointerId with
        | none => rfl
        | some record => rfl
      · split
        · rfl
        · rfl
    · simp only [hcancel, ne_eq, not_false_eq_true, if_true, if_false]
      rfl

/-- The process has a session. -/
def Connected (server : UDSServer) (pid : Int32) : Prop :=
  (server.getSession (server.getClientFd pid.toInt)).isSome

/-! ## What a step delivers -/

/-- An event for which a target is asked: the window manager then, the object
the event is in, and the event. -/
structure Handled where
  now : Moment
  manager : InputWindowsManager
  ref : InputWindowsManager.EventRef
  event : PointerEvent

namespace PointerService

/-- A `PointerEvent` that `HandlePointerEvent` does not drop. -/
def handledPointerEvent (now : Moment) (manager : InputWindowsManager)
    (ref : InputWindowsManager.EventRef) (event : PointerEvent) : Option Handled :=
  if event.pointerAction = pointerActionAxisEnd ∧ (event.getPointerItem event.pointerId).isNone then
    none
  else some ⟨now, manager, ref, event⟩

/-- The event an input asks a target for. -/
def handled (s : PointerService) : PointerInput → Option Handled
  | .touch now deviceId touch =>
      let p := s.processor deviceId
      if (p.writeReport (s.env now) s.windowsManager touch).1 then
        some ⟨now, s.windowsManager.updateId, .other, p.ready (s.env now) s.windowsManager touch⟩
      else none
  | .mouse now report =>
      let r := handlePostInner now.time s.windowsManager report
      some ⟨now, r.2.write .mouse r.1, .mouse, r.1⟩
  | .axisEnd now =>
      let event := (s.windowsManager.mouseEvent.setPointerAction pointerActionAxisEnd).setId
        s.windowsManager.nextEventId
      handledPointerEvent now (s.windowsManager.updateId.write .mouse event) .mouse event
  | .injectPointerEvent now event =>
      let event := event.setId s.windowsManager.nextEventId
      if event.sourceType = sourceTypeTouchscreen then
        some ⟨now, s.windowsManager.updateId, .other, event⟩
      else if event.sourceType = sourceTypeMouse ∨ event.sourceType = sourceTypeJoystick ∨
          event.sourceType = sourceTypeTouchpad then
        handledPointerEvent now s.windowsManager.updateId .other event
      else none
  | _ => none

/-- `UpdateTargetPointer` of the event. -/
def target (s : PointerService) (h : Handled) : TargetRet × PointerEvent × InputWindowsManager :=
  h.manager.updateTargetPointer (s.env h.now) h.ref h.event

/-- What is delivered in a step. -/
def deliveries (s : PointerService) (i : PointerInput) : List Delivery :=
  (s.step i).delivered.drop s.delivered.length

end PointerService

theorem keepItemsOf_header (group : DisplayGroupInfo) (clientPid : Int)
    (event : PointerEvent) (ids : List Int32) :
    (keepItemsOf group clientPid event ids).targetWindowId = event.targetWindowId ∧
      (keepItemsOf group clientPid event ids).pointerAction = event.pointerAction := by
  induction ids generalizing event with
  | nil => exact ⟨rfl, rfl⟩
  | cons id ids ih =>
    unfold keepItemsOf
    split
    · exact ih event
    · dsimp only
      split
      · exact ih (event.removePointerItem id)
      · exact ih event

/-- The copy sent names the window the event names, with the same action. -/
theorem copyFor_header (group : DisplayGroupInfo) (clientPid : Int) (event : PointerEvent) :
    (copyFor group clientPid event).targetWindowId = event.targetWindowId ∧
      (copyFor group clientPid event).pointerAction = event.pointerAction := by
  unfold copyFor
  split
  · exact keepItemsOf_header ..
  · exact ⟨rfl, rfl⟩

/-- The event is delivered if its process is connected and it is not held
back. -/
structure DeliversTo (server : UDSServer) (now : Moment) (pid : Int32) (event : PointerEvent)
    (new : List Delivery) : Prop where
  sent : now.blocked = false → Connected server pid → new ≠ []
  once : new.length ≤ 1
  free : ∀ d ∈ new, now.blocked = false
  connected : ∀ d ∈ new, Connected server pid
  named : ∀ d ∈ new, d.event.targetWindowId = event.targetWindowId ∧
    d.event.pointerAction = event.pointerAction

theorem deliversTo_nil {server : UDSServer} {now : Moment} {pid : Int32} {event : PointerEvent}
    (h : now.blocked = false → ¬ Connected server pid) : DeliversTo server now pid event [] :=
  ⟨fun hfree hconnected => absurd hconnected (h hfree), by simp, by simp, by simp, by simp⟩

namespace PointerService

theorem handlePointerEventInner_delivered (now : Moment) (s : PointerService)
    (point : PointerEvent) :
    ∃ new, (s.handlePointerEventInner now point).delivered = s.delivered ++ new ∧
      DeliversTo s.server now (addressee s.windowsManager point point.pointerAction) point new := by
  have hfd : (s.windowsManager.getClientFd (s.env now) point).1
      = s.server.getClientFd (addressee s.windowsManager point point.pointerAction).toInt :=
    getClientFd_fst (s.env now) s.windowsManager point
  simp only [handlePointerEventInner]
  cases hsession : s.server.getSession (s.windowsManager.getClientFd (s.env now) point).1 with
  | none =>
    refine ⟨[], (List.append_nil _).symm, deliversTo_nil fun _ hconnected => ?_⟩
    rw [hfd] at hsession
    rw [Connected, hsession] at hconnected
    cases hconnected
  | some ses =>
    have hconnected : Connected s.server
        (addressee s.windowsManager point point.pointerAction) := by
      rw [hfd] at hsession
      rw [Connected, hsession]
      rfl
    by_cases hblocked : now.blocked = true
    · simp only [hblocked, if_true]
      refine ⟨[], (List.append_nil _).symm, deliversTo_nil fun hfree => ?_⟩
      rw [hblocked] at hfree
      cases hfree
    · simp only [hblocked, Bool.false_eq_true, if_false]
      refine ⟨_, rfl, by simp, by simp, fun _ _ => by simpa using hblocked, fun _ _ => hconnected,
        fun d hd => ?_⟩
      obtain rfl := List.mem_singleton.mp hd
      exact copyFor_header ..

/-- What the event gets from `UpdateTargetPointer` decides what is
delivered. -/
def Dispatched (s : PointerService) (h : Handled) (new : List Delivery) : Prop :=
  DeliversTo s.server h.now
    (addressee (s.target h).2.2 (s.target h).2.1 (s.target h).2.1.pointerAction)
    (s.target h).2.1 new

theorem targetAndDispatch_delivered (now : Moment) (s : PointerService)
    (ref : InputWindowsManager.EventRef) (event : PointerEvent) :
    ∃ new, (s.targetAndDispatch now ref event).delivered = s.delivered ++ new ∧
      s.Dispatched ⟨now, s.windowsManager, ref, event⟩ new :=
  handlePointerEventInner_delivered now
    { s with windowsManager := (s.target ⟨now, s.windowsManager, ref, event⟩).2.2 }
    (s.target ⟨now, s.windowsManager, ref, event⟩).2.1

theorem handlePointerEvent_dropped {now : Moment} {s : PointerService}
    {ref : InputWindowsManager.EventRef} {event : PointerEvent}
    (h : handledPointerEvent now s.windowsManager ref event = none) :
    (s.handlePointerEvent now ref event).delivered = s.delivered := by
  unfold handledPointerEvent at h
  split at h
  · rename_i hdrop
    rw [handlePointerEvent, if_pos hdrop]
  · cases h

theorem handlePointerEvent_delivered {now : Moment} {s : PointerService}
    {ref : InputWindowsManager.EventRef} {event : PointerEvent} {h : Handled}
    (hh : handledPointerEvent now s.windowsManager ref event = some h) :
    ∃ new, (s.handlePointerEvent now ref event).delivered = s.delivered ++ new ∧
      s.Dispatched h new := by
  unfold handledPointerEvent at hh
  split at hh
  · cases hh
  · rename_i hkeep
    cases hh
    rw [handlePointerEvent, if_neg hkeep]
    exact targetAndDispatch_delivered now s ref event

/-- The keys pressed make no difference, nor does the mouse's object. -/
theorem addressee_mouse (s : InputWindowsManager) (event : PointerEvent) (pressedKeys : List Int32)
    (pointerAction : Int32) :
    addressee (s.write .mouse (event.setPressedKeys pressedKeys)) (event.setPressedKeys pressedKeys)
      pointerAction = addressee s event pointerAction := rfl

theorem handleTouchEvent_delivered (now : Moment) (s : PointerService) (deviceId : Int32)
    (touch : LibinputTouch) :
    if ((s.processor deviceId).writeReport (s.env now) s.windowsManager touch).1 then
      ∃ new, (s.handleTouchEvent now deviceId touch).delivered = s.delivered ++ new ∧
        s.Dispatched ⟨now, s.windowsManager.updateId, .other,
          (s.processor deviceId).ready (s.env now) s.windowsManager touch⟩ new
    else (s.handleTouchEvent now deviceId touch).delivered = s.delivered := by
  simp only [handleTouchEvent, TouchTransformProcessor.onEvent]
  split
  · simp only [if_true]
    exact handlePointerEventInner_delivered now { s with windowsManager := _ } _
  · rfl

theorem handleMouseEvent_delivered (now : Moment) (s : PointerService) (report : MouseReport) :
    ∃ new, (s.handleMouseEvent now report).delivered = s.delivered ++ new ∧
      s.Dispatched ⟨now, (handlePostInner now.time s.windowsManager report).2.write .mouse
        (handlePostInner now.time s.windowsManager report).1, .mouse,
        (handlePostInner now.time s.windowsManager report).1⟩ new := by
  obtain ⟨new, hnew, hdelivers⟩ := handlePointerEventInner_delivered now
    { s with windowsManager := _ } _
  rw [addressee_mouse] at hdelivers
  exact ⟨new, hnew, hdelivers.sent, hdelivers.once, hdelivers.free, hdelivers.connected,
    hdelivers.named⟩

theorem step_dropped {s : PointerService} {i : PointerInput} (h : s.handled i = none) :
    (s.step i).delivered = s.delivered := by
  cases i with
  | touch now deviceId touch =>
    have hdelivered := handleTouchEvent_delivered now s deviceId touch
    simp only [handled] at h
    split at h
    · cases h
    · rename_i hwrite
      rw [if_neg hwrite] at hdelivered
      exact hdelivered
  | mouse now report => cases h
  | axisEnd now =>
    exact handlePointerEvent_dropped (s := { s with windowsManager := _ }) h
  | injectPointerEvent now event =>
    simp only [handled] at h
    simp only [step, onInjectPointerEvent]
    split at h
    · cases h
    · rename_i hsource
      rw [if_neg hsource]
      split at h
      · rename_i hpointer
        rw [if_pos hpointer]
        exact handlePointerEvent_dropped (s := { s with windowsManager := _ }) h
      · rename_i hpointer
        rw [if_neg hpointer]
  | updateDisplayInfo now displayGroupInfo => rfl
  | addSession ses => rfl
  | delSession fd =>
    simp only [step, delSession]
    split <;> rfl

theorem step_delivered {s : PointerService} {i : PointerInput} {h : Handled}
    (hh : s.handled i = some h) :
    ∃ new, (s.step i).delivered = s.delivered ++ new ∧ s.Dispatched h new := by
  cases i with
  | touch now deviceId touch =>
    have hdelivered := handleTouchEvent_delivered now s deviceId touch
    simp only [handled] at hh
    split at hh
    · rename_i hwrite
      rw [if_pos hwrite] at hdelivered
      cases hh
      exact hdelivered
    · cases hh
  | mouse now report =>
    cases hh
    exact handleMouseEvent_delivered now s report
  | axisEnd now =>
    exact handlePointerEvent_delivered (s := { s with windowsManager := _ }) hh
  | injectPointerEvent now event =>
    simp only [handled] at hh
    simp only [step, onInjectPointerEvent]
    split at hh
    · rename_i hsource
      rw [if_pos hsource]
      cases hh
      exact targetAndDispatch_delivered now { s with windowsManager := _ } .other _
    · rename_i hsource
      rw [if_neg hsource]
      split at hh
      · rename_i hpointer
        rw [if_pos hpointer]
        exact handlePointerEvent_delivered (s := { s with windowsManager := _ }) hh
      · cases hh
  | updateDisplayInfo now displayGroupInfo => cases hh
  | addSession ses => cases hh
  | delSession fd => cases hh

theorem deliveries_dropped {s : PointerService} {i : PointerInput} (h : s.handled i = none) :
    s.deliveries i = [] := by
  rw [deliveries, step_dropped h, List.drop_length]

theorem deliveries_dispatched {s : PointerService} {i : PointerInput} {h : Handled}
    (hh : s.handled i = some h) : s.Dispatched h (s.deliveries i) := by
  obtain ⟨new, hdelivered, hnew⟩ := step_delivered hh
  rw [deliveries, hdelivered, List.drop_left]
  exact hnew

end PointerService

/-! ## One step -/

variable {s : PointerService} {i : PointerInput}

/-- What is delivered has a target of its own: `UpdateTargetPointer` succeeded
for it, and it names the window found for it. -/
def FreshTargets (s : PointerService) (i : PointerInput) : Prop :=
  ∀ d ∈ s.deliveries i, ∃ h window, s.handled i = some h ∧ (s.target h).1 = .retOk ∧
    h.manager.selectedWindow h.event = some window ∧ d.event.targetWindowId = window.id

/-- When no window is found for an event, the process it would go to by the
window it still names has no session, or is held back. -/
def NothingLeft (s : PointerService) (i : PointerInput) : Prop :=
  ∀ h, s.handled i = some h → h.manager.selectedWindow h.event = none → h.now.blocked = false →
    ¬ Connected s.server (addressee h.manager h.event (h.manager.leftAction h.event))

theorem addressee_left {s s' : InputWindowsManager} {event event' : PointerEvent}
    (h : InputWindowsManager.LeftAsItWas s s' event event') (pointerAction : Int32) :
    addressee s' event' pointerAction = addressee s event pointerAction := by
  simp only [addressee, downPid, h.maps.displayGroupInfo, h.maps.touchItemDownInfos,
    h.mouseDownInfo, h.targetWindowId, h.sourceType, h.pointerId]

theorem freshTargets_step_iff (s : PointerService) (i : PointerInput) :
    FreshTargets s i ↔ NothingLeft s i := by
  cases hh : s.handled i with
  | none =>
    have hnone := PointerService.deliveries_dropped hh
    constructor
    · intro _ h hsome
      rw [hh] at hsome
      cases hsome
    · intro _ d hd
      rw [hnone] at hd
      cases hd
  | some h =>
    have hnew := PointerService.deliveries_dispatched hh
    constructor
    · intro hfresh h' hh' hselected hfree hconnected
      cases hh.symm.trans hh'
      obtain ⟨hret, hleft, haction⟩ :=
        InputWindowsManager.updateTargetPointer_left (s.env h.now) h.ref hselected
      -- The process gets the event, though there is no target.
      have hsent : s.deliveries i ≠ [] := by
        refine hnew.sent hfree ?_
        rw [PointerService.target, haction, addressee_left hleft]
        exact hconnected
      obtain ⟨d, hd⟩ := List.exists_mem_of_ne_nil _ hsent
      obtain ⟨h', window, hh'', hok, _⟩ := hfresh d hd
      cases hh.symm.trans hh''
      exact hret hok
    · intro hnothing d hd
      have hconnected := hnew.connected d hd
      cases hselected : h.manager.selectedWindow h.event with
      | some window =>
        obtain ⟨hok, htarget⟩ :=
          InputWindowsManager.updateTargetPointer_selected (s.env h.now) h.ref hselected
        exact ⟨h, window, hh, hok, hselected, (hnew.named d hd).1.trans htarget⟩
      | none =>
        obtain ⟨_, hleft, haction⟩ :=
          InputWindowsManager.updateTargetPointer_left (s.env h.now) h.ref hselected
        rw [PointerService.target, haction, addressee_left hleft] at hconnected
        exact absurd hconnected (hnothing h hh hselected (hnew.free d hd))

/-! ## Every run -/

/-- In every run, every event delivered has a target of its own precisely if
at no step an event without one names a process that can be reached. -/
theorem freshTargets_iff (now : Int64) (lastWindowInfo mouseDownInfo : WindowInfo)
    (is : List PointerInput) :
    AllSteps PointerService.step FreshTargets (.create now lastWindowInfo mouseDownInfo) is ↔
      AllSteps PointerService.step NothingLeft (.create now lastWindowInfo mouseDownInfo) is :=
  allSteps_congr freshTargets_step_iff is _

/-! ## Two fingers -/

def quietMoment : Moment := ⟨0, false, 0, false⟩

/-- A finger goes down on the only window, and another one beside it. -/
def secondBesideWindow : List PointerInput :=
  [.addSession ⟨1, 5, 10⟩, .updateDisplayInfo quietMoment (oneDisplay [leftOrRight 1 10 0]),
    .touch quietMoment 3 (downAt 10 0), .touch quietMoment 3 (downAt 75 1)]

/-- The second down is delivered to the process of the window, though none
was found for it. -/
theorem counterexample_freshTargets :
    ¬ AllSteps PointerService.step FreshTargets
      (.create 0 (leftOrRight 0 0 0) (leftOrRight 0 0 0)) secondBesideWindow := by
  rintro ⟨_, _, _, hfresh, _⟩
  have hdelivered : ∃ d, d ∈ PointerService.deliveries
      (runFrom PointerService.step (.create 0 (leftOrRight 0 0 0) (leftOrRight 0 0 0))
        (secondBesideWindow.take 3)) (.touch quietMoment 3 (downAt 75 1)) := by
    refine List.exists_mem_of_ne_nil _ ?_
    rw [Ne, ← List.length_eq_zero_iff]
    decide +kernel
  obtain ⟨d, hd⟩ := hdelivered
  obtain ⟨h, window, hh, _, hselected, _⟩ := hfresh d hd
  have hnone : ((runFrom PointerService.step
      (.create 0 (leftOrRight 0 0 0) (leftOrRight 0 0 0)) (secondBesideWindow.take 3)).handled
      (.touch quietMoment 3 (downAt 75 1))).bind (fun h => h.manager.selectedWindow h.event)
        = none := by
    decide +kernel
  have hsome : ((runFrom PointerService.step
      (.create 0 (leftOrRight 0 0 0) (leftOrRight 0 0 0)) (secondBesideWindow.take 3)).handled
      (.touch quietMoment 3 (downAt 75 1))) = some h := hh
  rw [hsome, Option.bind_some, hselected] at hnone
  cases hnone

end FtMmi.EventDispatch
