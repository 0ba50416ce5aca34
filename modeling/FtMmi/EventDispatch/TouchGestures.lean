/-
FtMmi.EventDispatch.TouchGestures — a finger stays on the window it went
down on.

Beside the service stands what is known of each finger from the outside:
its device and how far its gesture is. `stable_iff` says in which runs the
records agree with it, moves and ups go to the window of the down, and
nothing follows a cancel.

`GetClientFd` takes out the record of a cancelled finger only if the window
is gone from the layout. A window that became untouchable is still there,
so its record stays and every move becomes a cancel again.
-/
import FtMmi.EventDispatch.TouchRecords

namespace FtMmi.EventDispatch

open FtMmi.Event
open FtMmi.Lib
open FtMmi.Server
open FtMmi.TouchEventNormalize
open FtMmi.WindowManager

/-! ## Gestures -/

/-- How far a gesture is: no window was selected for its down, it is on the
window that was, or an event of it became a cancel, which was delivered or
not. -/
inductive Phase where
  | untracked
  | down (window : WindowInfo)
  | cancelled (delivered : Bool)

/-- The window that has to be recorded. -/
def Phase.record : Phase → Option WindowInfo
  | .untracked => none
  | .down window => some window
  | .cancelled _ => none

structure Finger where
  deviceId : Int32
  phase : Phase

structure Gestures where
  service : PointerService
  /-- The fingers down, by pointer id. -/
  fingers : Int32 → Option Finger

namespace Gestures

def create (now : Int64) (lastWindowInfo mouseDownInfo : WindowInfo) : Gestures :=
  ⟨.create now lastWindowInfo mouseDownInfo, fun _ => none⟩

/-- A down begins a gesture on the window selected for it. -/
def downPhase (s : Gestures) (i : PointerInput) : Phase :=
  match (s.service.handled i).bind fun h => h.manager.selectedWindow h.event with
  | some window => .down window
  | none => .untracked

/-- A move goes on with it, unless it becomes a cancel. -/
def movePhase (s : Gestures) (i : PointerInput) (phase : Phase) : Phase :=
  match s.service.handled i with
  | none => phase
  | some h =>
      if (s.service.target h).2.1.pointerAction = pointerActionCancel then
        .cancelled !(s.service.deliveries i).isEmpty
      else phase

def fingerAfter (s : Gestures) (i : PointerInput) (deviceId : Int32) (touch : LibinputTouch) :
    Option Finger :=
  match touch.type with
  | .down => some ⟨deviceId, s.downPhase i⟩
  | .motion => (s.fingers touch.seatSlot).map fun f => { f with phase := s.movePhase i f.phase }
  | .up => none

def step (s : Gestures) (i : PointerInput) : Gestures where
  service := s.service.step i
  fingers :=
    match i with
    | .touch _ deviceId touch =>
        Function.update s.fingers touch.seatSlot (s.fingerAfter i deviceId touch)
    | _ => s.fingers

/-- The finger an input moves or lifts. -/
def continued (s : Gestures) : PointerInput → Option Finger
  | .touch _ _ touch => if touch.type = .down then none else s.fingers touch.seatSlot
  | _ => none

/-- Seat slots are of the whole seat: a finger goes down in a free one and
moves and is lifted on its device. No other input brings events of a touch
screen. -/
def InOrder (s : Gestures) (i : PointerInput) : Prop :=
  match i with
  | .touch _ deviceId touch =>
      if touch.type = .down then s.fingers touch.seatSlot = none
      else (s.fingers touch.seatSlot).map Finger.deviceId = some deviceId
  | i => ∀ h ∈ s.service.handled i, h.event.sourceType ≠ sourceTypeTouchscreen

/-! ## The property -/

/-- What is recorded of a finger is the window of its last down, until the
gesture is over. -/
def RecordsFollow (s : Gestures) : Prop :=
  ∀ pointerId, s.service.windowsManager.touchItemDownInfos pointerId
    = (s.fingers pointerId).bind fun f => f.phase.record

structure Stable (s : Gestures) (i : PointerInput) : Prop where
  records : RecordsFollow (s.step i)
  /-- A move or an up is addressed to the window of the down. -/
  addressed : ∀ f window h, s.continued i = some f → f.phase = .down window →
    s.service.handled i = some h → (s.service.target h).2.1.targetWindowId = window.id ∧
      ∀ d ∈ s.service.deliveries i, d.event.targetWindowId = window.id
  /-- Nothing is delivered after a cancel was. -/
  silent : ∀ f, s.continued i = some f → f.phase = .cancelled true →
    s.service.deliveries i = []
  once : (s.service.deliveries i).length ≤ 1

/-! ## The condition -/

/-- For a finger on a window: the event is located, and the search finds the
window of the finger, or that is in the layout no more. An event that is
not located is a move, and its touch screen still names the window. -/
def KeepsWindow (h : Handled) (window : WindowInfo) : Prop :=
  match h.manager.placed h.event with
  | none =>
      h.event.pointerAction = pointerActionMove ∧ h.event.targetWindowId = window.id
  | some place =>
      match h.manager.displayGroupInfo.findTouchWindow window.id place.logicalX
          place.logicalY with
      | some found => found.id = window.id
      | none => h.manager.displayGroupInfo.findWindow window.id = none

/-- The window an event names after the search: the one selected, or the one
it named before. -/
def namedWindowId (h : Handled) : Int32 :=
  ((h.manager.selectedWindow h.event).map WindowInfo.id).getD h.event.targetWindowId

/-- An event of a finger on a window finds that window or none in the layout,
and one that follows a delivered cancel names no window of a process that
can be reached. -/
def SteadyIn (s : Gestures) (h : Handled) : Phase → Prop
  | .untracked => True
  | .down window => KeepsWindow h window
  | .cancelled delivered => delivered = true → h.now.blocked = false →
      ¬ Connected s.service.server (h.manager.displayGroupInfo.getWindowPid (namedWindowId h))

def Steady (s : Gestures) (i : PointerInput) : Prop :=
  ∀ f ∈ s.continued i, ∀ h ∈ s.service.handled i, s.SteadyIn h f.phase

/-! ## The invariant -/

structure Tracked (s : Gestures) : Prop where
  records : RecordsFollow s
  nodup : ∀ deviceId, ((s.service.processor deviceId).items.map PointerItem.pointerId).Nodup
  /-- An item is of a finger down on its device, and on its window. -/
  fingers : ∀ deviceId, ∀ item ∈ (s.service.processor deviceId).items, ∃ f,
    s.fingers item.pointerId = some f ∧ f.deviceId = deviceId ∧
      ∀ window, f.phase = .down window → item.targetWindowId = window.id
  items : ∀ pointerId f window, s.fingers pointerId = some f → f.phase = .down window →
    pointerId ∈ (s.service.processor f.deviceId).items.map PointerItem.pointerId

theorem create_tracked (now : Int64) (lastWindowInfo mouseDownInfo : WindowInfo) :
    (create now lastWindowInfo mouseDownInfo).Tracked where
  records _ := rfl
  nodup _ := List.nodup_nil
  fingers _ _ h := nomatch h
  items _ _ _ h := nomatch h

variable {s : Gestures} {now : Moment} {deviceId : Int32} {touch : LibinputTouch} {h : Handled}

/-! ## What a report does -/

theorem inOrder_down (hw : s.InOrder (.touch now deviceId touch)) (htype : touch.type = .down) :
    s.fingers touch.seatSlot = none := by
  simpa only [InOrder, htype, if_true] using hw

theorem inOrder_continued (hw : s.InOrder (.touch now deviceId touch))
    (htype : touch.type ≠ .down) :
    ∃ f, s.fingers touch.seatSlot = some f ∧ f.deviceId = deviceId ∧
      s.continued (.touch now deviceId touch) = some f := by
  simp only [InOrder, if_neg htype] at hw
  obtain ⟨f, hf, hdevice⟩ := Option.map_eq_some_iff.mp hw
  exact ⟨f, hf, hdevice, by rw [continued, if_neg htype, hf]⟩

/-- No item of another device has the id of the finger. -/
theorem Tracked.item_device (hs : Tracked s) (hw : s.InOrder (.touch now deviceId touch))
    {device : Int32} {item : PointerItem} (hitem : item ∈ (s.service.processor device).items)
    (hid : item.pointerId = touch.seatSlot) : touch.type ≠ .down ∧ device = deviceId := by
  obtain ⟨f, hf, hdevice, _⟩ := hs.fingers device item hitem
  rw [hid] at hf
  have htype : touch.type ≠ .down := by
    intro htype
    rw [inOrder_down hw htype] at hf
    cases hf
  obtain ⟨f', hf', hdevice', _⟩ := inOrder_continued hw htype
  cases hf.symm.trans hf'
  exact ⟨htype, hdevice.symm.trans hdevice'⟩

theorem Tracked.ready (hs : Tracked s) (hw : s.InOrder (.touch now deviceId touch))
    (hwrite : ((s.service.processor deviceId).writeReport (s.service.env now)
      s.service.windowsManager touch).1 = true) :
    HoldsReport (s.service.processor deviceId).items ((s.service.processor deviceId).ready
      (s.service.env now) s.service.windowsManager touch) touch := by
  refine ready_holdsReport (hs.nodup deviceId) (fun htype hmem => ?_) hwrite
  obtain ⟨item, hitem, hid⟩ := List.mem_map.mp hmem
  exact (hs.item_device hw hitem hid).1 htype

theorem actionOf_ne_cancel (type : TouchType) : actionOf type ≠ pointerActionCancel := by
  cases type <;> decide

theorem Tracked.step_rest (hs : Tracked s) (hw : s.InOrder (.touch now deviceId touch)) :
    (s.step (.touch now deviceId touch)).service.processors
        = Function.update s.service.processors deviceId
          (some ((s.service.processor deviceId).handleTouchEvent
            ⟨s.service.env now, s.service.windowsManager, touch⟩)) ∧
      (s.step (.touch now deviceId touch)).service.windowsManager.touchItemDownInfos
        = if ((s.service.processor deviceId).writeReport (s.service.env now)
            s.service.windowsManager touch).1 then
            recordsAfter s.service.windowsManager.updateId ((s.service.processor deviceId).ready
              (s.service.env now) s.service.windowsManager touch)
          else s.service.windowsManager.touchItemDownInfos := by
  refine ⟨PointerService.handleTouchEvent_processors now s.service deviceId touch,
    PointerService.handleTouchEvent_records now s.service deviceId touch fun hwrite => ?_⟩
  rw [(hs.ready hw hwrite).pointerAction]
  exact actionOf_ne_cancel touch.type

/-- A report for which a target is asked. -/
structure TouchHandled (s : Gestures) (now : Moment) (deviceId : Int32) (touch : LibinputTouch)
    (h : Handled) : Prop where
  manager : h.manager.touchItemDownInfos = s.service.windowsManager.touchItemDownInfos
  holds : HoldsReport (s.service.processor deviceId).items h.event touch
  records : (s.step (.touch now deviceId touch)).service.windowsManager.touchItemDownInfos
    = recordsAfter h.manager h.event
  onTarget : OnTarget h.manager (s.service.processor deviceId).items h.event
    (s.service.target h).2.1 touch
  layout : (s.service.target h).2.2.displayGroupInfo = h.manager.displayGroupInfo
  named : (s.service.target h).2.1.targetWindowId
    = ((h.manager.findTouchTarget h.event).map fun t => t.touchWindow.id).getD
        h.event.targetWindowId
  action : (s.service.target h).2.1.pointerAction
    = ((h.manager.findTouchTarget h.event).map fun t => t.event.pointerAction).getD
        h.event.pointerAction
  items : ((s.step (.touch now deviceId touch)).service.processor deviceId).items
    = if touch.type = .up then
        ((s.service.target h).2.1.removePointerItem touch.seatSlot).pointers
      else (s.service.target h).2.1.pointers

theorem Tracked.handled (hs : Tracked s) (hw : s.InOrder (.touch now deviceId touch))
    (hh : s.service.handled (.touch now deviceId touch) = some h) :
    TouchHandled s now deviceId touch h := by
  simp only [PointerService.handled] at hh
  split at hh
  · rename_i hwrite
    cases hh
    obtain ⟨hprocessors, hrecords⟩ := hs.step_rest hw
    obtain ⟨hfalse, _⟩ | ⟨_, event, hevent, _, hitems⟩ :=
      touchStep_cases ⟨s.service.processor deviceId, []⟩
        ⟨s.service.env now, s.service.windowsManager, touch⟩
    · rw [hfalse] at hwrite
      cases hwrite
    have hready := hs.ready hw hwrite
    have htarget := touch_target (s := s.service.windowsManager.updateId) (s.service.env now)
      hready.sourceType
    have honTarget := hready.onTarget s.service.windowsManager.updateId (s.service.env now)
    rw [if_pos hwrite] at hrecords
    refine ⟨rfl, hready, hrecords, honTarget, htarget.1, htarget.2.1, htarget.2.2, ?_⟩
    rw [PointerService.processor, hprocessors, Function.update_self]
    rw [← hevent] at honTarget
    rw [honTarget.pointerId] at hitems
    rw [hevent] at hitems
    exact hitems
  · cases hh

theorem Tracked.dropped (hs : Tracked s) (hw : s.InOrder (.touch now deviceId touch))
    (hh : s.service.handled (.touch now deviceId touch) = none) :
    (s.step (.touch now deviceId touch)).service.windowsManager.touchItemDownInfos
        = s.service.windowsManager.touchItemDownInfos ∧
      ((s.step (.touch now deviceId touch)).service.processor deviceId).items
        = (s.service.processor deviceId).items ∧
      (touch.type = .up →
        touch.seatSlot ∉ (s.service.processor deviceId).items.map PointerItem.pointerId) := by
  simp only [PointerService.handled] at hh
  split at hh
  · cases hh
  · rename_i hwrite
    obtain ⟨hprocessors, hrecords⟩ := hs.step_rest hw
    obtain ⟨_, _, hitems⟩ | ⟨htrue, _⟩ :=
      touchStep_cases ⟨s.service.processor deviceId, []⟩
        ⟨s.service.env now, s.service.windowsManager, touch⟩
    · rw [if_neg hwrite] at hrecords
      refine ⟨hrecords, ?_, fun htype hmem => hwrite ?_⟩
      · rw [PointerService.processor, hprocessors, Function.update_self]
        exact hitems
      · -- A finger with an item is lifted.
        rw [← event_pointers _ (s.service.env now).time] at hmem
        obtain ⟨item, hitem⟩ := Option.isSome_iff_exists.mp
          (PointerEvent.getPointerItem_isSome_iff.mpr hmem)
        have hfound : ((((s.service.processor deviceId).event
            (s.service.env now).time).setActionTime (s.service.env now).time).setPointerAction
              pointerActionUp).getPointerItem touch.seatSlot = some item := hitem
        simp only [TouchTransformProcessor.writeReport, onEventTouch, htype, onEventTouchUp, hfound]
    · exact absurd htrue hwrite

/-! ## The search -/

/-- A pointer with no record finds its target without becoming a cancel. -/
theorem findTouchTarget_of_no_record {manager : InputWindowsManager} {event : PointerEvent}
    {target : InputWindowsManager.TouchTarget}
    (hrecord : manager.touchItemDownInfos event.pointerId = none)
    (htarget : manager.findTouchTarget event = some target) :
    target.event.pointerAction = event.pointerAction := by
  obtain ⟨_, displayId, ⟨heq, _⟩ | ⟨_, _, hsome, _⟩⟩ :=
    InputWindowsManager.findTouchTarget_cases htarget
  · rw [heq]
    rfl
  · rw [hrecord] at hsome
    cases hsome

/-- The search for a finger on a window: there is no place, a window is found,
or the event becomes a cancel for the window. -/
theorem Tracked.keepsWindow_cases (hs : Tracked s) (ht : TouchHandled s now deviceId touch h)
    {f : Finger} {window : WindowInfo} (htype : touch.type ≠ .down)
    (hf : s.fingers touch.seatSlot = some f) (hdevice : f.deviceId = deviceId)
    (hphase : f.phase = .down window) :
    (h.manager.findTouchTarget h.event = none ∧
      (KeepsWindow h window ↔ h.event.pointerAction = pointerActionMove ∧
        h.event.targetWindowId = window.id)) ∨
    (∃ target, h.manager.findTouchTarget h.event = some target ∧
      target.event.pointerAction = h.event.pointerAction ∧
      (KeepsWindow h window ↔ target.touchWindow.id = window.id)) ∨
    (∃ target, h.manager.findTouchTarget h.event = some target ∧
      target.event.pointerAction = pointerActionCancel ∧ target.touchWindow = window ∧
      (KeepsWindow h window ↔ h.manager.displayGroupInfo.findWindow window.id = none)) := by
  unfold KeepsWindow
  cases hplace : h.manager.placed h.event with
  | none => exact .inl ⟨InputWindowsManager.findTouchTarget_of_not_placed hplace, Iff.rfl⟩
  | some place =>
    obtain ⟨hitem, displayId, hfind⟩ := InputWindowsManager.findTouchTarget_of_placed hplace
    -- The item of the finger is on its window.
    have hwindow : place.item.targetWindowId = window.id := by
      obtain ⟨old, hold, hid⟩ := List.mem_map.mp (hs.items _ f window hf hphase)
      rw [hdevice] at hold
      obtain ⟨f', hf', _, hon⟩ := hs.fingers deviceId old hold
      rw [hid, hf] at hf'
      cases hf'
      obtain ⟨item, hfound, htarget⟩ := ht.holds.window old hold hid
      rw [ht.holds.pointerId, hfound] at hitem
      cases hitem
      rw [htarget, hon window hphase]
    have hrecord : h.manager.touchItemDownInfos h.event.pointerId = some window := by
      rw [ht.manager, ht.holds.pointerId, hs.records, hf, Option.bind_some, hphase]
      rfl
    have haction : h.event.pointerAction ≠ pointerActionDown := by
      rw [ht.holds.pointerAction]
      revert htype
      cases touch.type <;> decide
    rw [hfind]
    unfold InputWindowsManager.touchTarget
    rw [hwindow]
    dsimp only
    cases h.manager.displayGroupInfo.findTouchWindow window.id place.logicalX place.logicalY with
    | some found => exact .inr (.inl ⟨_, rfl, rfl, Iff.rfl⟩)
    | none =>
      refine .inr (.inr ⟨⟨(h.event.setTargetDisplayId displayId).setPointerAction
        pointerActionCancel, place, window⟩, ?_, rfl, rfl, Iff.rfl⟩)
      have hdown : ¬ (h.event.setTargetDisplayId displayId).pointerAction = pointerActionDown :=
        haction
      have hsame : h.manager.touchItemDownInfos (h.event.setTargetDisplayId displayId).pointerId
          = some window := hrecord
      simp only [hsame, if_neg hdown, Option.map_some]

/-! ## The records after a report -/

/-- Only the record of the finger matters. -/
theorem recordsFollow_step_iff (hs : Tracked s)
    (hother : ∀ pointerId, pointerId ≠ touch.seatSlot →
      (s.step (.touch now deviceId touch)).service.windowsManager.touchItemDownInfos pointerId
        = s.service.windowsManager.touchItemDownInfos pointerId) :
    RecordsFollow (s.step (.touch now deviceId touch)) ↔
      (s.step (.touch now deviceId touch)).service.windowsManager.touchItemDownInfos
          touch.seatSlot
        = (s.fingerAfter (.touch now deviceId touch) deviceId touch).bind
            fun f => f.phase.record := by
  have hself : (s.step (.touch now deviceId touch)).fingers touch.seatSlot
      = s.fingerAfter (.touch now deviceId touch) deviceId touch := Function.update_self ..
  constructor
  · intro hrecords
    rw [hrecords, hself]
  · intro hslot pointerId
    by_cases hid : pointerId = touch.seatSlot
    · rw [hid, hslot, hself]
    · have hsame : (s.step (.touch now deviceId touch)).fingers pointerId = s.fingers pointerId :=
        Function.update_of_ne hid ..
      rw [hother pointerId hid, hsame, hs.records]

theorem TouchHandled.recordsFollow_iff (ht : TouchHandled s now deviceId touch h)
    (hs : Tracked s) :
    RecordsFollow (s.step (.touch now deviceId touch)) ↔
      recordsAfter h.manager h.event h.event.pointerId
        = (s.fingerAfter (.touch now deviceId touch) deviceId touch).bind
            fun f => f.phase.record := by
  rw [recordsFollow_step_iff hs, ht.records, ht.holds.pointerId]
  intro pointerId hne
  rw [ht.records, recordsAfter_of_ne (by rw [ht.holds.pointerId]; exact hne), ht.manager]

/-- A report for which no target is asked leaves the records right. -/
theorem Tracked.recordsFollow_dropped (hs : Tracked s)
    (hw : s.InOrder (.touch now deviceId touch))
    (hh : s.service.handled (.touch now deviceId touch) = none) :
    RecordsFollow (s.step (.touch now deviceId touch)) := by
  obtain ⟨hinfos, _, hup⟩ := hs.dropped hw hh
  rw [recordsFollow_step_iff hs fun pointerId _ => by rw [hinfos], hinfos, hs.records, fingerAfter]
  cases htype : touch.type with
  | down => simp [inOrder_down hw htype, downPhase, hh, Phase.record]
  | motion =>
    simp only [movePhase, hh]
    cases s.fingers touch.seatSlot <;> rfl
  | up =>
    obtain ⟨f, hf, hdevice, _⟩ := inOrder_continued hw (by rw [htype]; decide)
    have hitems := hs.items touch.seatSlot f
    rw [hf, Option.bind_some, Option.bind_none]
    cases hphase : f.phase with
    | down window =>
      have hmem := hitems window hf hphase
      rw [hdevice] at hmem
      exact absurd hmem (hup htype)
    | untracked => rfl
    | cancelled delivered => rfl

/-- A finger without a record: a down records its window, and nothing else
records one. -/
theorem TouchHandled.recordsFollow_of_no_record (ht : TouchHandled s now deviceId touch h)
    (hs : Tracked s) (hh : s.service.handled (.touch now deviceId touch) = some h)
    (hrecord : (s.fingers touch.seatSlot).bind (fun f => f.phase.record) = none) :
    RecordsFollow (s.step (.touch now deviceId touch)) := by
  have hnone : h.manager.touchItemDownInfos h.event.pointerId = none := by
    rw [ht.manager, ht.holds.pointerId, hs.records, hrecord]
  rw [ht.recordsFollow_iff hs, fingerAfter]
  cases hfind : h.manager.findTouchTarget h.event with
  | none =>
    rw [recordsAfter_none hfind, hnone]
    have haction := ht.action
    rw [hfind, Option.map_none, Option.getD_none, ht.holds.pointerAction] at haction
    cases htype : touch.type with
    | down => simp [downPhase, hh, selectedWindow_touch ht.holds.sourceType, hfind, Phase.record]
    | motion =>
      simp only [movePhase, hh, haction, if_neg (actionOf_ne_cancel touch.type)]
      rw [← hrecord]
      cases s.fingers touch.seatSlot <;> rfl
    | up => rfl
  | some target =>
    have hsame := findTouchTarget_of_no_record hnone hfind
    have haction := ht.action
    rw [hfind, Option.map_some, Option.getD_some, hsame, ht.holds.pointerAction] at haction
    rw [recordsAfter_some hfind, hnone, hsame, ht.holds.pointerAction]
    cases htype : touch.type with
    | down =>
      simp [actionOf, downPhase, hh, selectedWindow_touch ht.holds.sourceType, hfind, Phase.record]
    | motion =>
      have hmove : ¬ (actionOf .motion = pointerActionDown ∧ (none : Option WindowInfo) = none) := by
        decide
      rw [if_neg hmove, ite_self]
      simp only [movePhase, hh, haction, if_neg (actionOf_ne_cancel touch.type)]
      rw [← hrecord]
      cases s.fingers touch.seatSlot <;> rfl
    | up =>
      have hup : ¬ (actionOf .up = pointerActionDown ∧ (none : Option WindowInfo) = none) := by
        decide
      rw [if_neg hup, ite_self]
      rfl

/-- A finger on a window: its event is addressed to the window and the record
is right precisely if the search keeps to the window. -/
theorem Tracked.down_iff (hs : Tracked s) (ht : TouchHandled s now deviceId touch h)
    (hh : s.service.handled (.touch now deviceId touch) = some h) {f : Finger}
    {window : WindowInfo} (htype : touch.type ≠ .down) (hf : s.fingers touch.seatSlot = some f)
    (hdevice : f.deviceId = deviceId) (hphase : f.phase = .down window) :
    RecordsFollow (s.step (.touch now deviceId touch)) ∧
        (s.service.target h).2.1.targetWindowId = window.id ↔ KeepsWindow h window := by
  have hrecord : h.manager.touchItemDownInfos h.event.pointerId = some window := by
    rw [ht.manager, ht.holds.pointerId, hs.records, hf, Option.bind_some, hphase]
    rfl
  have hrecords := ht.recordsFollow_iff hs
  have hnamed := ht.named
  have haction := ht.action
  have hevent := ht.holds.pointerAction
  obtain ⟨hfind, hkeeps⟩ | ⟨target, hfind, hsame, hkeeps⟩ | ⟨target, hfind, hcancel, rfl, hkeeps⟩ :=
    hs.keepsWindow_cases ht htype hf hdevice hphase
  · -- The event is left as it was, and so is the record.
    rw [hfind, Option.map_none, Option.getD_none] at hnamed haction
    rw [recordsAfter_none hfind, hrecord, fingerAfter] at hrecords
    rw [hrecords, hkeeps, hnamed, hevent]
    cases hkind : touch.type with
    | down => exact absurd hkind htype
    | motion =>
      have hmove : actionOf .motion = pointerActionMove := rfl
      have hcancel : ¬ pointerActionMove = pointerActionCancel := by decide
      rw [hevent, hkind, hmove] at haction
      simp [movePhase, hh, haction, hcancel, hf, hphase, Phase.record, hmove]
    | up =>
      have hmove : ¬ actionOf .up = pointerActionMove := by decide
      simp [hmove]
  · rw [hfind, Option.map_some, Option.getD_some] at hnamed haction
    rw [recordsAfter_some hfind, hrecord, hsame, hevent, fingerAfter] at hrecords
    rw [hrecords, hkeeps, hnamed]
    cases hkind : touch.type with
    | down => exact absurd hkind htype
    | motion =>
      have hdown : ¬ actionOf .motion = pointerActionDown := by decide
      have hup : ¬ actionOf .motion = pointerActionUp := by decide
      rw [hsame, hevent] at haction
      simp [hdown, hup, movePhase, hh, haction, actionOf_ne_cancel touch.type,
        actionOf_ne_cancel TouchType.motion, hf, hphase, Phase.record]
    | up =>
      have hup : actionOf .up = pointerActionUp := rfl
      simp [hup]
  · -- A cancel goes to the window, and its record goes if the window is gone.
    have hdown : ¬ pointerActionCancel = pointerActionDown := by decide
    have hup : ¬ pointerActionCancel = pointerActionUp := by decide
    rw [hfind, Option.map_some, Option.getD_some] at hnamed haction
    rw [recordsAfter_some hfind, hrecord, hcancel, fingerAfter] at hrecords
    rw [hrecords, hkeeps, hnamed]
    rw [hcancel] at haction
    cases hkind : touch.type with
    | down => exact absurd hkind htype
    | motion => simp [hdown, hup, movePhase, hh, haction, hf, Phase.record]
    | up => simp [hdown, hup]

/-- A finger without a record: its event reaches someone if the window it names
is of a process that can be reached. -/
theorem TouchHandled.silent_iff (ht : TouchHandled s now deviceId touch h) (hs : Tracked s)
    (hh : s.service.handled (.touch now deviceId touch) = some h)
    (hrecord : (s.fingers touch.seatSlot).bind (fun f => f.phase.record) = none) :
    s.service.deliveries (.touch now deviceId touch) = [] ↔
      (h.now.blocked = false →
        ¬ Connected s.service.server
          (h.manager.displayGroupInfo.getWindowPid (namedWindowId h))) := by
  have hnone : h.manager.touchItemDownInfos h.event.pointerId = none := by
    rw [ht.manager, ht.holds.pointerId, hs.records, hrecord]
  have haction : (s.service.target h).2.1.pointerAction = actionOf touch.type := by
    rw [ht.action, ← ht.holds.pointerAction]
    cases hfind : h.manager.findTouchTarget h.event with
    | none => rfl
    | some target => exact findTouchTarget_of_no_record hnone hfind
  have hnamed : (s.service.target h).2.1.targetWindowId = namedWindowId h := by
    rw [ht.named, namedWindowId, selectedWindow_touch ht.holds.sourceType, Option.map_map]
    rfl
  have haddressee : addressee (s.service.target h).2.2 (s.service.target h).2.1
      (s.service.target h).2.1.pointerAction
        = h.manager.displayGroupInfo.getWindowPid (namedWindowId h) := by
    rw [addressee, ht.layout, hnamed, haction, if_neg (actionOf_ne_cancel touch.type)]
    rfl
  have hdispatched := PointerService.deliveries_dispatched hh
  rw [PointerService.Dispatched, haddressee] at hdispatched
  constructor
  · intro hempty hfree hconnected
    exact hdispatched.sent hfree hconnected hempty
  · intro hunreached
    rw [List.eq_nil_iff_forall_not_mem]
    intro d hd
    exact hunreached (hdispatched.free d hd) (hdispatched.connected d hd)

/-! ## The property of one step -/

theorem deliveries_length_le (s : PointerService) (i : PointerInput) :
    (s.deliveries i).length ≤ 1 := by
  cases hh : s.handled i with
  | none =>
    rw [PointerService.deliveries_dropped hh]
    exact Nat.zero_le 1
  | some h => exact (PointerService.deliveries_dispatched hh).once

/-- Without a finger that moves or is lifted, or without an event, only the
records matter. -/
theorem stable_of_records {i : PointerInput} (hrecords : RecordsFollow (s.step i))
    (hnone : s.continued i = none ∨ s.service.handled i = none) : Stable s i where
  records := hrecords
  addressed f window h hf hphase hh := by
    rw [hf, hh] at hnone
    rcases hnone with hnone | hnone <;> cases hnone
  silent f hf hphase := by
    rw [hf] at hnone
    rcases hnone with hnone | hnone
    · cases hnone
    · exact PointerService.deliveries_dropped hnone
  once := deliveries_length_le s.service i

theorem stable_continued_iff {i : PointerInput} {f : Finger} (hf : s.continued i = some f)
    (hh : s.service.handled i = some h) :
    Stable s i ↔ RecordsFollow (s.step i) ∧
      (∀ window, f.phase = .down window →
        (s.service.target h).2.1.targetWindowId = window.id) ∧
      (f.phase = .cancelled true → s.service.deliveries i = []) := by
  constructor
  · intro hstable
    exact ⟨hstable.records, fun window hphase => (hstable.addressed f window h hf hphase hh).1,
      hstable.silent f hf⟩
  · intro hstable
    obtain ⟨hrecords, haddressed, hsilent⟩ := hstable
    refine ⟨hrecords, fun f' window h' hf' hphase hh' => ?_, fun f' hf' hphase => ?_,
      deliveries_length_le s.service i⟩
    · cases hf.symm.trans hf'
      cases hh.symm.trans hh'
      refine ⟨haddressed window hphase, fun d hd => ?_⟩
      exact ((PointerService.deliveries_dispatched hh).named d hd).1.trans
        (haddressed window hphase)
    · cases hf.symm.trans hf'
      exact hsilent hphase

theorem stable_touch_iff (hs : Tracked s) (hw : s.InOrder (.touch now deviceId touch)) :
    Stable s (.touch now deviceId touch) ↔ Steady s (.touch now deviceId touch) := by
  cases hh : s.service.handled (.touch now deviceId touch) with
  | none =>
    constructor
    · intro _ f _ h hsome
      rw [hh] at hsome
      cases hsome
    · intro _
      exact stable_of_records (hs.recordsFollow_dropped hw hh) (.inr hh)
  | some h =>
    have ht := hs.handled hw hh
    by_cases htype : touch.type = .down
    · have hnone : s.continued (.touch now deviceId touch) = none := by
        rw [continued, if_pos htype]
      have hrecord : (s.fingers touch.seatSlot).bind (fun f => f.phase.record) = none := by
        rw [inOrder_down hw htype, Option.bind_none]
      constructor
      · intro _ f hsome
        rw [hnone] at hsome
        cases hsome
      · intro _
        exact stable_of_records (ht.recordsFollow_of_no_record hs hh hrecord) (.inl hnone)
    · obtain ⟨f, hf, hdevice, hcontinued⟩ := inOrder_continued hw htype
      have hsteady : Steady s (.touch now deviceId touch) ↔ s.SteadyIn h f.phase := by
        constructor
        · intro hall
          exact hall f hcontinued h hh
        · intro hthis f' hf' h' hh'
          cases hcontinued.symm.trans hf'
          cases hh.symm.trans hh'
          exact hthis
      rw [hsteady, stable_continued_iff hcontinued hh]
      cases hphase : f.phase with
      | untracked =>
        have hrecord : (s.fingers touch.seatSlot).bind (fun f => f.phase.record) = none := by
          rw [hf, Option.bind_some, hphase, Phase.record]
        simpa [SteadyIn] using ht.recordsFollow_of_no_record hs hh hrecord
      | down window => simpa [SteadyIn] using hs.down_iff ht hh htype hf hdevice hphase
      | cancelled delivered =>
        have hrecord : (s.fingers touch.seatSlot).bind (fun f => f.phase.record) = none := by
          rw [hf, Option.bind_some, hphase, Phase.record]
        simpa [SteadyIn, ht.recordsFollow_of_no_record hs hh hrecord] using
          imp_congr_right fun _ => ht.silent_iff hs hh hrecord

/-- Other inputs meet both. -/
theorem stable_other {i : PointerInput} (hs : Tracked s) (hw : s.InOrder i)
    (hi : ∀ now deviceId touch, i ≠ .touch now deviceId touch) : Stable s i ∧ Steady s i := by
  have hnone : s.continued i = none := by
    cases i with
    | touch now deviceId touch => exact absurd rfl (hi now deviceId touch)
    | _ => rfl
  have hsource : ∀ h ∈ s.service.handled i, h.event.sourceType ≠ sourceTypeTouchscreen := by
    cases i with
    | touch now deviceId touch => exact absurd rfl (hi now deviceId touch)
    | _ => exact hw
  have hfingers : (s.step i).fingers = s.fingers := by
    cases i with
    | touch now deviceId touch => exact absurd rfl (hi now deviceId touch)
    | _ => rfl
  refine ⟨stable_of_records (fun pointerId => ?_) (.inl hnone), fun f hf => ?_⟩
  · rw [hfingers, ← hs.records]
    exact congrFun (PointerService.step_records hi hsource) pointerId
  · rw [hnone] at hf
    cases hf

/-! ## The invariant of one step -/

/-- What has to be known of the items after a report. -/
theorem Tracked.step_of (hs : Tracked s) (hw : s.InOrder (.touch now deviceId touch))
    {items : List PointerItem}
    (hitems : ((s.step (.touch now deviceId touch)).service.processor deviceId).items = items)
    (hrecords : RecordsFollow (s.step (.touch now deviceId touch)))
    (hnodup : (items.map PointerItem.pointerId).Nodup)
    (hothers : ∀ item ∈ items, item.pointerId ≠ touch.seatSlot →
      item ∈ (s.service.processor deviceId).items)
    (hkept : ∀ item ∈ (s.service.processor deviceId).items, item.pointerId ≠ touch.seatSlot →
      item.pointerId ∈ items.map PointerItem.pointerId)
    (hfinger : ∀ item ∈ items, item.pointerId = touch.seatSlot →
      ∃ f, s.fingerAfter (.touch now deviceId touch) deviceId touch = some f ∧
        f.deviceId = deviceId ∧
        ∀ window, f.phase = .down window → item.targetWindowId = window.id)
    (hitem : ∀ f window, s.fingerAfter (.touch now deviceId touch) deviceId touch = some f →
      f.phase = .down window → f.deviceId = deviceId ∧
        touch.seatSlot ∈ items.map PointerItem.pointerId) :
    Tracked (s.step (.touch now deviceId touch)) := by
  have hself : (s.step (.touch now deviceId touch)).fingers touch.seatSlot
      = s.fingerAfter (.touch now deviceId touch) deviceId touch := Function.update_self ..
  have hsame : ∀ pointerId, pointerId ≠ touch.seatSlot →
      (s.step (.touch now deviceId touch)).fingers pointerId = s.fingers pointerId :=
    fun pointerId hne => Function.update_of_ne hne ..
  have hdevices : ∀ device, device ≠ deviceId →
      (s.step (.touch now deviceId touch)).service.processor device
        = s.service.processor device := by
    intro device hne
    rw [PointerService.processor, (hs.step_rest hw).1, Function.update_of_ne hne]
    rfl
  refine ⟨hrecords, fun device => ?_, fun device item hmem => ?_, fun pointerId f window hf hphase => ?_⟩
  · by_cases hdevice : device = deviceId
    · rw [hdevice, hitems]
      exact hnodup
    · rw [hdevices device hdevice]
      exact hs.nodup device
  · by_cases hdevice : device = deviceId
    · rw [hdevice, hitems] at hmem
      by_cases hid : item.pointerId = touch.seatSlot
      · rw [hid, hself, hdevice]
        exact hfinger item hmem hid
      · rw [hsame _ hid, hdevice]
        exact hs.fingers deviceId item (hothers item hmem hid)
    · rw [hdevices device hdevice] at hmem
      rw [hsame _ fun hid => hdevice (hs.item_device hw hmem hid).2]
      exact hs.fingers device item hmem
  · by_cases hid : pointerId = touch.seatSlot
    · rw [hid, hself] at hf
      obtain ⟨hdevice, hslot⟩ := hitem f window hf hphase
      rw [hid, hdevice, hitems]
      exact hslot
    · rw [hsame _ hid] at hf
      have hmem := hs.items pointerId f window hf hphase
      by_cases hdevice : f.deviceId = deviceId
      · rw [hdevice] at hmem ⊢
        rw [hitems]
        obtain ⟨item, hitem', rfl⟩ := List.mem_map.mp hmem
        exact hkept item hitem' hid
      · rw [hdevices _ hdevice]
        exact hmem

theorem Tracked.step_dropped (hs : Tracked s) (hw : s.InOrder (.touch now deviceId touch))
    (hh : s.service.handled (.touch now deviceId touch) = none) :
    Tracked (s.step (.touch now deviceId touch)) := by
  obtain ⟨_, hitems, hup⟩ := hs.dropped hw hh
  refine hs.step_of hw hitems (hs.recordsFollow_dropped hw hh) (hs.nodup deviceId)
    (fun item hmem _ => hmem) (fun item hmem _ => List.mem_map_of_mem hmem)
    (fun item hmem hid => ?_) (fun f window hf hphase => ?_)
  · have htype := (hs.item_device hw hmem hid).1
    obtain ⟨f, hf, hdevice, hon⟩ := hs.fingers deviceId item hmem
    rw [hid] at hf
    rw [fingerAfter]
    cases hkind : touch.type with
    | down => exact absurd hkind htype
    | motion =>
      simp only [movePhase, hh, hf, Option.map_some]
      exact ⟨f, rfl, hdevice, hon⟩
    | up =>
      refine absurd ?_ (hup hkind)
      rw [← hid]
      exact List.mem_map_of_mem hmem
  · rw [fingerAfter] at hf
    cases hkind : touch.type with
    | down =>
      simp only [hkind, downPhase, hh, Option.bind_none, Option.some.injEq] at hf
      rw [← hf] at hphase
      cases hphase
    | motion =>
      obtain ⟨f', hf', hdevice, _⟩ := inOrder_continued hw (by rw [hkind]; decide)
      simp only [hkind, movePhase, hh, hf', Option.map_some, Option.some.injEq] at hf
      rw [← hf] at hphase ⊢
      have hmem := hs.items _ _ _ hf' hphase
      rw [hdevice] at hmem
      exact ⟨hdevice, hmem⟩
    | up =>
      simp only [hkind] at hf
      cases hf

/-- The items after a report that was handled are those of the event, but for
a finger lifted. -/
theorem TouchHandled.mem_items (ht : TouchHandled s now deviceId touch h) {item : PointerItem} :
    item ∈ ((s.step (.touch now deviceId touch)).service.processor deviceId).items ↔
      item ∈ (s.service.target h).2.1.pointers ∧
        (touch.type = .up → item.pointerId ≠ touch.seatSlot) := by
  have hnodup : ((s.service.target h).2.1.pointers.map PointerItem.pointerId).Nodup := by
    show (s.service.target h).2.1.getPointerIds.Nodup
    rw [ht.onTarget.ids]
    exact ht.holds.nodup
  rw [ht.items]
  by_cases hup : touch.type = .up
  · simp only [hup, if_true, forall_const]
    show item ∈ (s.service.target h).2.1.pointers.eraseP (fun item => item.pointerId = touch.seatSlot)
      ↔ _
    rw [eraseP_eq_filter_key hnodup, List.mem_filter, decide_eq_true_eq]
  · simp only [hup, if_false, false_implies, and_true]

theorem TouchHandled.items_nodup (ht : TouchHandled s now deviceId touch h) :
    (((s.step (.touch now deviceId touch)).service.processor deviceId).items.map
      PointerItem.pointerId).Nodup := by
  have hnodup : (s.service.target h).2.1.getPointerIds.Nodup := by
    rw [ht.onTarget.ids]
    exact ht.holds.nodup
  rw [ht.items]
  split
  · show ((s.service.target h).2.1.removePointerItem touch.seatSlot).getPointerIds.Nodup
    rw [PointerEvent.removePointerItem_ids]
    exact hnodup.erase _
  · exact hnodup

/-- A finger that is still on its window after a report has its item there. -/
theorem Tracked.moved_item (hs : Tracked s) (ht : TouchHandled s now deviceId touch h)
    {f : Finger} {window : WindowInfo} (htype : touch.type ≠ .down)
    (hf : s.fingers touch.seatSlot = some f)
    (hdevice : f.deviceId = deviceId) (hphase : f.phase = .down window)
    (haction : (s.service.target h).2.1.pointerAction ≠ pointerActionCancel)
    (hkeeps : KeepsWindow h window) {item : PointerItem}
    (hitem : item ∈ (s.service.target h).2.1.pointers) (hid : item.pointerId = touch.seatSlot) :
    item.targetWindowId = window.id := by
  obtain ⟨hfind, _⟩ | ⟨target, hfind, _, hiff⟩ | ⟨target, hfind, hcancel, _, _⟩ :=
    hs.keepsWindow_cases ht htype hf hdevice hphase
  · -- The event was left as it was, and a report keeps the item on its window.
    obtain ⟨old, hold, hidOld⟩ := List.mem_map.mp (hs.items _ f window hf hphase)
    rw [hdevice] at hold
    obtain ⟨f', hf', _, hon⟩ := hs.fingers deviceId old hold
    rw [hidOld, hf] at hf'
    cases hf'
    obtain ⟨reported, hreported, htarget⟩ := ht.holds.window old hold hidOld
    obtain ⟨hmem, hidReported⟩ := PointerEvent.getPointerItem_some hreported
    rw [ht.onTarget.left hfind] at hitem
    rw [List.inj_on_of_nodup_map ht.holds.nodup hitem hmem (hid.trans hidReported.symm), htarget,
      hon window hphase]
  · rw [(ht.onTarget.found target hfind).2 item hitem hid]
    exact hiff.mp hkeeps
  · rw [ht.action, hfind, Option.map_some, Option.getD_some] at haction
    exact absurd hcancel haction

theorem movePhase_down {i : PointerInput} {phase : Phase} {window : WindowInfo}
    (hh : s.service.handled i = some h) (hphase : s.movePhase i phase = .down window) :
    phase = .down window ∧ (s.service.target h).2.1.pointerAction ≠ pointerActionCancel := by
  simp only [movePhase, hh] at hphase
  split at hphase
  · cases hphase
  · rename_i haction
    exact ⟨hphase, haction⟩

theorem Tracked.step_handled (hs : Tracked s) (hw : s.InOrder (.touch now deviceId touch))
    (hh : s.service.handled (.touch now deviceId touch) = some h)
    (hrecords : RecordsFollow (s.step (.touch now deviceId touch)))
    (hc : Steady s (.touch now deviceId touch)) : Tracked (s.step (.touch now deviceId touch)) := by
  have ht := hs.handled hw hh
  have hkept : ∀ id ∈ h.event.getPointerIds, (touch.type = .up → id ≠ touch.seatSlot) →
      id ∈ ((s.step (.touch now deviceId touch)).service.processor deviceId).items.map
        PointerItem.pointerId := by
    intro id hid hup
    rw [← ht.onTarget.ids] at hid
    obtain ⟨item, hitem, rfl⟩ := List.mem_map.mp hid
    exact List.mem_map_of_mem (ht.mem_items.mpr ⟨hitem, hup⟩)
  refine hs.step_of hw rfl hrecords ht.items_nodup (fun item hmem hne => ?_)
    (fun item hmem hne => hkept _ (ht.holds.kept item hmem) fun _ => hne)
    (fun item hmem hid => ?_) (fun f window hf hphase => ?_)
  · exact (ht.onTarget.others item hne).mp (ht.mem_items.mp hmem).1
  · obtain ⟨hitem, hup⟩ := ht.mem_items.mp hmem
    rw [fingerAfter]
    cases hkind : touch.type with
    | down =>
      refine ⟨_, rfl, rfl, fun window hphase => ?_⟩
      simp only [downPhase, hh, Option.bind_some, selectedWindow_touch ht.holds.sourceType] at hphase
      cases hfind : h.manager.findTouchTarget h.event with
      | none =>
        rw [hfind] at hphase
        cases hphase
      | some target =>
        rw [hfind] at hphase
        cases hphase
        exact (ht.onTarget.found target hfind).2 item hitem hid
    | motion =>
      have htype : touch.type ≠ .down := by
        rw [hkind]
        decide
      obtain ⟨f, hf, hdevice, hcontinued⟩ := inOrder_continued hw htype
      simp only [hf, Option.map_some]
      refine ⟨_, rfl, hdevice, fun window hphase => ?_⟩
      obtain ⟨hbefore, haction⟩ := movePhase_down hh hphase
      have hkeeps := hc f hcontinued h hh
      rw [hbefore] at hkeeps
      exact hs.moved_item ht htype hf hdevice hbefore haction hkeeps hitem hid
    | up => exact absurd hid (hup hkind)
  · rw [fingerAfter] at hf
    cases hkind : touch.type with
    | down =>
      simp only [hkind, Option.some.injEq] at hf
      subst hf
      simp only [downPhase, hh, Option.bind_some, selectedWindow_touch ht.holds.sourceType] at hphase
      refine ⟨rfl, hkept _ ?_ fun hup => ?_⟩
      · cases hfind : h.manager.findTouchTarget h.event with
        | none =>
          rw [hfind] at hphase
          cases hphase
        | some target =>
          rw [← ht.onTarget.ids]
          exact (ht.onTarget.found target hfind).1
      · rw [hkind] at hup
        cases hup
    | motion =>
      obtain ⟨f', hf', hdevice, _⟩ := inOrder_continued hw (by rw [hkind]; decide)
      simp only [hkind, hf', Option.map_some, Option.some.injEq] at hf
      subst hf
      obtain ⟨hbefore, _⟩ := movePhase_down hh hphase
      have hmem := hs.items _ _ _ hf' hbefore
      rw [hdevice] at hmem
      obtain ⟨item, hitem, hid⟩ := List.mem_map.mp hmem
      refine ⟨hdevice, hkept _ ?_ fun hup => ?_⟩
      · rw [← hid]
        exact ht.holds.kept item hitem
      · rw [hkind] at hup
        cases hup
    | up =>
      simp only [hkind] at hf
      cases hf

/-- Other inputs keep what the invariant is about. -/
theorem Tracked.step_other {i : PointerInput} (hs : Tracked s) (hw : s.InOrder i)
    (hi : ∀ now deviceId touch, i ≠ .touch now deviceId touch) : Tracked (s.step i) := by
  have hstable := (stable_other hs hw hi).1
  have hsame : (s.step i).fingers = s.fingers ∧
      ∀ device, (s.step i).service.processor device = s.service.processor device := by
    cases i with
    | touch now deviceId touch => exact absurd rfl (hi now deviceId touch)
    | _ =>
      refine ⟨rfl, fun device => ?_⟩
      exact congrArg (fun ps : Int32 → Option TouchTransformProcessor =>
        (ps device).getD (.create device)) (PointerService.step_processors hi)
  refine ⟨hstable.records, fun device => ?_, fun device => ?_, fun pointerId f window hf => ?_⟩
  · rw [hsame.2]
    exact hs.nodup device
  · rw [hsame.1, hsame.2]
    exact hs.fingers device
  · rw [hsame.1] at hf
    rw [hsame.2]
    exact hs.items pointerId f window hf

/-! ## Every run -/

/-- In every run in which fingers go down in free slots, each finger stays on
its window precisely if the search keeps to it and nobody is left to hear
of it after a cancel. -/
theorem gestures_stable_iff (now : Int64) (lastWindowInfo mouseDownInfo : WindowInfo)
    (is : List PointerInput)
    (hw : AllSteps step InOrder (create now lastWindowInfo mouseDownInfo) is) :
    AllSteps step Stable (create now lastWindowInfo mouseDownInfo) is ↔
      AllSteps step Steady (create now lastWindowInfo mouseDownInfo) is := by
  have hiff : ∀ s i, Tracked s → InOrder s i → (Stable s i ↔ Steady s i) := by
    intro s i hs hw
    by_cases hi : ∃ now deviceId touch, i = .touch now deviceId touch
    · obtain ⟨now, deviceId, touch, rfl⟩ := hi
      exact stable_touch_iff hs hw
    · obtain ⟨hstable, hsteady⟩ := stable_other hs hw (by simpa using hi)
      exact iff_of_true hstable hsteady
  refine allSteps_iff_of_inv (W := InOrder) hiff (fun s i hs hw hc => ?_) is _
    (create_tracked now lastWindowInfo mouseDownInfo) hw
  have hrecords := ((hiff s i hs hw).mpr hc).records
  cases i with
  | touch now deviceId touch =>
    cases hh : s.service.handled (.touch now deviceId touch) with
    | none => exact hs.step_dropped hw hh
    | some h => exact hs.step_handled hw hh hrecords hc
  | _ => exact hs.step_other hw (by simp)

/-! ## Two layouts -/

instance (s : Gestures) : (i : PointerInput) → Decidable (s.InOrder i)
  | .touch _ _ touch =>
      inferInstanceAs (Decidable (if touch.type = .down then s.fingers touch.seatSlot = none else _))
  | .mouse _ _ => inferInstanceAs (Decidable (∀ h ∈ s.service.handled _, _ ≠ _))
  | .axisEnd _ => inferInstanceAs (Decidable (∀ h ∈ s.service.handled _, _ ≠ _))
  | .injectPointerEvent _ _ => inferInstanceAs (Decidable (∀ h ∈ s.service.handled _, _ ≠ _))
  | .updateDisplayInfo _ _ => inferInstanceAs (Decidable (∀ h ∈ s.service.handled _, _ ≠ _))
  | .addSession _ => inferInstanceAs (Decidable (∀ h ∈ s.service.handled _, _ ≠ _))
  | .delSession _ => inferInstanceAs (Decidable (∀ h ∈ s.service.handled _, _ ≠ _))

instance (h : Handled) (window : WindowInfo) : Decidable (KeepsWindow h window) := by
  unfold KeepsWindow
  split
  · infer_instance
  · split <;> infer_instance

instance (s : Gestures) (h : Handled) : (phase : Phase) → Decidable (s.SteadyIn h phase)
  | .untracked => isTrue trivial
  | .down window => inferInstanceAs (Decidable (KeepsWindow h window))
  | .cancelled _ => inferInstanceAs (Decidable (_ → _ → ¬ Option.isSome _ = true))

instance (s : Gestures) (i : PointerInput) : Decidable (s.Steady i) :=
  inferInstanceAs (Decidable (∀ f ∈ s.continued i, ∀ h ∈ s.service.handled i, _))

def motionAt (x seatSlot : Int32) : LibinputTouch := { downAt x seatSlot with type := .motion }

/-- Two fingers on a window, of which one moves, and then the layout changes
and both move on. -/
def layoutChanges (after : List WindowInfo) : List PointerInput :=
  [.addSession ⟨1, 5, 10⟩, .updateDisplayInfo quietMoment (oneDisplay [leftOrRight 1 10 0]),
    .touch quietMoment 3 (downAt 10 0), .touch quietMoment 3 (downAt 20 1),
    .touch quietMoment 3 (motionAt 75 0), .updateDisplayInfo quietMoment (oneDisplay after),
    .touch quietMoment 3 (motionAt 10 0), .touch quietMoment 3 (motionAt 11 0)]

def layoutsRun (after : List WindowInfo) : Gestures :=
  runFrom step (create 0 (leftOrRight 0 0 0) (leftOrRight 0 0 0)) (layoutChanges after)

/-- The window goes away: one cancel, and nothing after it. -/
theorem gestures_stable_iff_gone :
    AllSteps step Stable (create 0 (leftOrRight 0 0 0) (leftOrRight 0 0 0))
      (layoutChanges [leftOrRight 2 11 50]) := by
  refine (gestures_stable_iff 0 _ _ _ ?_).mpr ?_
  · decide +kernel
  · decide +kernel

/-- The window becomes untouchable: two cancels are delivered, and the record
stays. -/
theorem counterexample_gestures_stable :
    AllSteps step InOrder (create 0 (leftOrRight 0 0 0) (leftOrRight 0 0 0))
        (layoutChanges [{ leftOrRight 1 10 0 with flags := flagBitUntouchable }]) ∧
      (layoutsRun [{ leftOrRight 1 10 0 with flags := flagBitUntouchable }]).service.delivered.map
          (fun d => (d.event.pointerAction, d.event.pointerId))
        = [(pointerActionDown, 0), (pointerActionDown, 1), (pointerActionMove, 0),
            (pointerActionCancel, 0), (pointerActionCancel, 0)] ∧
      ¬ AllSteps step Stable (create 0 (leftOrRight 0 0 0) (leftOrRight 0 0 0))
        (layoutChanges [{ leftOrRight 1 10 0 with flags := flagBitUntouchable }]) := by
  refine ⟨by decide +kernel, by decide +kernel, ?_⟩
  rintro ⟨_, _, _, _, _, _, hcancel, _⟩
  have hrecord := hcancel.records 0
  revert hrecord
  decide +kernel

end Gestures

end FtMmi.EventDispatch
