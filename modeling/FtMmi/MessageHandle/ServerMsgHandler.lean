/-
FtMmi.MessageHandle.ServerMsgHandler — the way of an injected pointer
event into the service (`OnInjectPointerEvent`).

An injected event comes without the windows its pointers went down on. The
handler keeps one id, `targetWindowId_`: the window the latest down was
for. `FixTargetWindowId` writes it into the later events, and into the
item of their first pointer.

`UpdateId` comes first in the source and last here: it sets the event's
id, which nothing before the dispatch reads. That the pointer is shown for
an injected mouse event is drawing and left out.
-/
import FtMmi.EventDispatch.TouchRecords

namespace FtMmi.MessageHandle

open FtMmi.Event
open FtMmi.EventDispatch
open FtMmi.TouchEventNormalize
open FtMmi.WindowManager

/-! ## The handler -/

/-- `FixTargetWindowId`; an event without items is refused. -/
def fixTargetWindowId (targetWindowId : Int32) (pointerEvent : PointerEvent) (action : Int32) :
    Option PointerEvent :=
  if action = pointerActionDown ∨ targetWindowId < 0 then some pointerEvent
  else
    let pointerEvent := pointerEvent.setTargetWindowId targetWindowId
    match pointerEvent.getPointerIds with
    | [] => none
    | id :: _ =>
        (pointerEvent.getPointerItem id).map fun pointerItem =>
          pointerEvent.updatePointerItem id { pointerItem with targetWindowId }

structure ServerMsgHandler where
  service : PointerService
  targetWindowId : Int32

namespace ServerMsgHandler

/-- A new handler. -/
def create (service : PointerService) : ServerMsgHandler := ⟨service, -1⟩

def manager (s : ServerMsgHandler) : InputWindowsManager := s.service.windowsManager

/-- An event of a touch screen, when `HandleTouchEvent` has asked for its
target. -/
def handleTouchEvent (now : Moment) (s : ServerMsgHandler) (pointerEvent : PointerEvent) :
    PointerEvent :=
  (s.manager.updateId.updateTargetPointer (s.service.env now) .other
    (pointerEvent.setId s.manager.nextEventId)).2.1

/-- The event of a touch screen that is dispatched. -/
def dispatched (now : Moment) (s : ServerMsgHandler) (pointerEvent : PointerEvent) :
    Option PointerEvent :=
  (fixTargetWindowId s.targetWindowId pointerEvent pointerEvent.pointerAction).map
    (s.handleTouchEvent now)

/-- `OnInjectPointerEvent` -/
def onInjectPointerEvent (now : Moment) (s : ServerMsgHandler) (pointerEvent : PointerEvent) :
    ServerMsgHandler :=
  if pointerEvent.sourceType = sourceTypeTouchscreen then
    match fixTargetWindowId s.targetWindowId pointerEvent pointerEvent.pointerAction with
    | none => { s with service := { s.service with windowsManager := s.manager.updateId } }
    | some fixed =>
        { service := s.service.onInjectPointerEvent now fixed
          targetWindowId :=
            if pointerEvent.pointerAction = pointerActionDown then
              (s.handleTouchEvent now fixed).targetWindowId
            else s.targetWindowId }
  else { s with service := s.service.onInjectPointerEvent now pointerEvent }

end ServerMsgHandler

/-! ## What the handler does to an event -/

variable {pointerEvent fixed : PointerEvent} {targetWindowId : Int32}

/-- `FixTargetWindowId` of an event that is no down: the event and its first
item are for the window. -/
theorem fixTargetWindowId_eq (hsaved : 0 ≤ targetWindowId)
    (haction : pointerEvent.pointerAction ≠ pointerActionDown) :
    match pointerEvent.pointers with
    | [] => fixTargetWindowId targetWindowId pointerEvent pointerEvent.pointerAction = none
    | first :: rest =>
        ∃ h, fixTargetWindowId targetWindowId pointerEvent pointerEvent.pointerAction
          = some { pointerEvent.setTargetWindowId targetWindowId with
              pointers := { first with targetWindowId } :: rest, pointers_length := h } := by
  have hskip : ¬ (pointerEvent.pointerAction = pointerActionDown ∨ targetWindowId < 0) := by
    rintro (h | h)
    · exact haction h
    · exact absurd hsaved (Int32.not_le.mpr h)
  unfold fixTargetWindowId
  rw [if_neg hskip]
  cases hpointers : pointerEvent.pointers with
  | nil =>
    have hids : (pointerEvent.setTargetWindowId targetWindowId).getPointerIds = [] :=
      congrArg (List.map PointerItem.pointerId) hpointers
    simp [hids]
  | cons first rest =>
    have hsame : (pointerEvent.setTargetWindowId targetWindowId).pointers = first :: rest :=
      hpointers
    have hids : (pointerEvent.setTargetWindowId targetWindowId).getPointerIds
        = first.pointerId :: rest.map PointerItem.pointerId :=
      congrArg (List.map PointerItem.pointerId) hpointers
    have hitem : (pointerEvent.setTargetWindowId targetWindowId).getPointerItem first.pointerId
        = some first := by
      simp [PointerEvent.getPointerItem, hsame]
    simp only [hids, hitem, Option.map_some, Option.some.injEq]
    exact PointerEvent.updatePointerItem_head hsame

end FtMmi.MessageHandle
