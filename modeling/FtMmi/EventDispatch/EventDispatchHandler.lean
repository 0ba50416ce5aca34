/-
FtMmi.EventDispatch.EventDispatchHandler — the way of a pointer event from
a report to a client: `MouseEventNormalize`, the pointer handlers of
`EventNormalizeHandler` and `HandlePointerEventInner` of
`EventDispatchHandler`. The devices are touch screens and mice: gestures,
touchpads and pens are no inputs here.

Filters, interceptors and monitors stand between the last two. They do not
change the event and are taken to pass it on. `delivered` keeps what is
sent; a session that `TriggerANR` holds back or to which the packet cannot
be sent gets nothing (`Moment.blocked`). The report of an invalid
descriptor to the system log is left out: no session has one.

`HandleMotionInner`, `HandleButtonInner` and `HandleAxisInner` decide the
action, the buttons and the axes of a mouse event; what they leave in the
event is given with the report.
-/
import FtMmi.TouchEventNormalize.TouchTransformProcessor

namespace FtMmi.EventDispatch

open FtMmi.Event
open FtMmi.Server
open FtMmi.TouchEventNormalize
open FtMmi.WindowManager

/-! ## State -/

structure Delivery where
  fd : Int
  event : PointerEvent

structure PointerService where
  server : UDSServer
  windowsManager : InputWindowsManager
  /-- `TouchEventNormalize::processors_`, the touch screens. -/
  processors : Int32 → Option TouchTransformProcessor
  delivered : List Delivery

def PointerService.create (now : Int64) (lastWindowInfo mouseDownInfo : WindowInfo) :
    PointerService where
  server := .create
  windowsManager := .create now lastWindowInfo mouseDownInfo
  processors := fun _ => none
  delivered := []

/-- What the surroundings answer while an event is handled. -/
structure Moment where
  time : Int64
  hasPointerDevice : Bool
  mouseDisplayId : Int32
  blocked : Bool

def PointerService.env (s : PointerService) (now : Moment) : Env :=
  ⟨s.server, now.time, now.hasPointerDevice, now.mouseDisplayId⟩

/-! ## Dispatch -/

/-- The loop over the items of a copied event: those on windows of other
processes go. -/
def keepItemsOf (group : DisplayGroupInfo) (clientPid : Int) (event : PointerEvent) :
    List Int32 → PointerEvent
  | [] => event
  | id :: ids =>
      match event.getPointerItem id with
      | none => keepItemsOf group clientPid event ids
      | some pointeritem =>
          let itemPid := group.getWindowPid pointeritem.targetWindowId
          if 0 ≤ itemPid ∧ itemPid.toInt ≠ clientPid then
            keepItemsOf group clientPid (event.removePointerItem id) ids
          else keepItemsOf group clientPid event ids

/-- The copy of the event that is sent. -/
def copyFor (group : DisplayGroupInfo) (clientPid : Int) (event : PointerEvent) : PointerEvent :=
  if 1 < event.getPointerIds.length then keepItemsOf group clientPid event event.getPointerIds
  else event

namespace PointerService

/-- `HandlePointerEventInner` -/
def handlePointerEventInner (now : Moment) (s : PointerService) (point : PointerEvent) :
    PointerService :=
  let r := s.windowsManager.getClientFd (s.env now) point
  let s := { s with windowsManager := r.2 }
  match s.server.getSession r.1 with
  | none => s
  | some _ =>
      if now.blocked then s
      else
        let copy := copyFor s.windowsManager.displayGroupInfo (s.server.getClientPid r.1) point
        { s with delivered := s.delivered ++ [⟨r.1, copy⟩] }

end PointerService

/-! ## Reports -/

/-- A report of a mouse: what is in the event when `HandlePostInner` begins
and where the mouse is then. -/
structure MouseReport where
  event : PointerEvent
  mouseLocation : MouseLocation
  currentDisplayId : Int32
  isPressed : Bool
  deviceId : Int32
  /-- `keyEvent->GetPressedKeys()` -/
  pressedKeys : List Int32

/-- `HandlePostInner` -/
def handlePostInner (time : Int64) (s : InputWindowsManager) (report : MouseReport) :
    PointerEvent × InputWindowsManager :=
  let s := { s with mouseLocation := report.mouseLocation }.getMouseInfo
  let pointerItem : PointerItem :=
    { displayX := s.mouseLocation.physicalX
      displayY := s.mouseLocation.physicalY
      pointerId := 0
      pressed := report.isPressed
      downTime := time
      deviceId := report.deviceId }
  let event := report.event.setId s.nextEventId
  let event := (event.updatePointerItem event.pointerId pointerItem).setSourceType sourceTypeMouse
  let event := ((event.setActionTime time).setActionStartTime time).setDeviceId report.deviceId
  let event := (event.setPointerId 0).setTargetDisplayId report.currentDisplayId
  ((event.setTargetWindowId (-1)).setAgentWindowId (-1), s.updateId)

inductive PointerInput where
  /-- a report of a touch screen -/
  | touch (now : Moment) (deviceId : Int32) (touch : LibinputTouch)
  | mouse (now : Moment) (report : MouseReport)
  /-- the timer of `HandleAxisInner` -/
  | axisEnd (now : Moment)
  | injectPointerEvent (now : Moment) (event : PointerEvent)
  | updateDisplayInfo (now : Moment) (displayGroupInfo : DisplayGroupInfo)
  | addSession (ses : Session)
  | delSession (fd : Int)

namespace PointerService

/-- `UpdateTargetPointer`, whose result is not looked at, and the handlers
that follow. -/
def targetAndDispatch (now : Moment) (s : PointerService) (ref : InputWindowsManager.EventRef)
    (event : PointerEvent) : PointerService :=
  let target := s.windowsManager.updateTargetPointer (s.env now) ref event
  { s with windowsManager := target.2.2 }.handlePointerEventInner now target.2.1

/-- `HandlePointerEvent` of a `PointerEvent`: the end of an axis movement
needs an item. -/
def handlePointerEvent (now : Moment) (s : PointerService) (ref : InputWindowsManager.EventRef)
    (event : PointerEvent) : PointerService :=
  if event.pointerAction = pointerActionAxisEnd ∧ (event.getPointerItem event.pointerId).isNone then
    s
  else s.targetAndDispatch now ref event

/-- The touch screen of a device; its first report makes it. -/
def processor (s : PointerService) (deviceId : Int32) : TouchTransformProcessor :=
  (s.processors deviceId).getD (.create deviceId)

def setProcessor (s : PointerService) (deviceId : Int32) (p : TouchTransformProcessor) :
    PointerService :=
  { s with processors := Function.update s.processors deviceId (some p) }

/-- `HandleTouchEvent` of libinput's event. -/
def handleTouchEvent (now : Moment) (s : PointerService) (deviceId : Int32)
    (touch : LibinputTouch) : PointerService :=
  let r := (s.processor deviceId).onEvent (s.env now) s.windowsManager touch
  let s := { s with windowsManager := r.2.2 }
  if r.1 then
    match r.2.1.pointerEvent with
    | none => s
    | some event =>
        (s.handlePointerEventInner now event).setProcessor deviceId
          (r.2.1.resetTouchUpEvent now.time touch)
  else s.setProcessor deviceId r.2.1

/-- `HandleMouseEvent` -/
def handleMouseEvent (now : Moment) (s : PointerService) (report : MouseReport) :
    PointerService :=
  let r := handlePostInner now.time s.windowsManager report
  let target := (r.2.write .mouse r.1).updateTargetPointer (s.env now) .mouse r.1
  let event := target.2.1.setPressedKeys report.pressedKeys
  { s with windowsManager := target.2.2.write .mouse event }.handlePointerEventInner now event

/-- The end of an axis movement is the mouse's event once more. -/
def handleAxisEnd (now : Moment) (s : PointerService) : PointerService :=
  let event := (s.windowsManager.mouseEvent.setPointerAction pointerActionAxisEnd).setId
    s.windowsManager.nextEventId
  { s with windowsManager := s.windowsManager.updateId.write .mouse event }.handlePointerEvent now
    .mouse event

/-- `OnInjectPointerEvent`, after `FixTargetWindowId`. -/
def onInjectPointerEvent (now : Moment) (s : PointerService) (event : PointerEvent) :
    PointerService :=
  let event := event.setId s.windowsManager.nextEventId
  let s := { s with windowsManager := s.windowsManager.updateId }
  if event.sourceType = sourceTypeTouchscreen then s.targetAndDispatch now .other event
  else if event.sourceType = sourceTypeMouse ∨ event.sourceType = sourceTypeJoystick ∨
      event.sourceType = sourceTypeTouchpad then
    s.handlePointerEvent now .other event
  else s

/-- The end of a session: the maps forget it, and the window manager's
callback is called with its process. -/
def delSession (s : PointerService) (fd : Int) : PointerService :=
  match s.server.getSession fd with
  | none => s
  | some ses =>
      { s with
        server := s.server.delSession fd
        windowsManager := s.windowsManager.onSessionLost (Int32.ofInt ses.pid) }

def step (s : PointerService) : PointerInput → PointerService
  | .touch now deviceId touch => s.handleTouchEvent now deviceId touch
  | .mouse now report => s.handleMouseEvent now report
  | .axisEnd now => s.handleAxisEnd now
  | .injectPointerEvent now event => s.onInjectPointerEvent now event
  | .updateDisplayInfo now displayGroupInfo =>
      { s with windowsManager := s.windowsManager.updateDisplayInfo (s.env now) displayGroupInfo }
  | .addSession ses => { s with server := (s.server.addSession ses).2 }
  | .delSession fd => s.delSession fd

end PointerService

end FtMmi.EventDispatch
