/-
FtMmi.WindowManager.InputWindowsManager — which window and which client a
pointer event is for (`input_windows_manager.cpp`, with
`OHOS_BUILD_ENABLE_POINTER_DRAWING`; without it nothing is sent from
here).

The state is the members of the class, the drawing manager's
`mouseDisplayState_`, and the `PointerEvent` of `MouseEventNormalize`,
which lives as long as the server: `lastPointerEvent_` may point to it
and then sees every later report written into it. What is sent with
`SendMsg` from here is kept in `sent`.

Of `pointerStyle_` only the processes in it matter. The session maps, the
clock and the pointing devices are the surroundings of a call (`Env`).
Drawing and null checks are left out.
-/
import FtMmi.Event.PointerEvent
import FtMmi.Server.UDSServer
import FtMmi.WindowManager.DisplayInfo

namespace FtMmi.WindowManager

open FtMmi.Event
open FtMmi.Server

/-! ## Actions and sources -/

def pointerActionCancel : Int32 := 1

def pointerActionDown : Int32 := 2

def pointerActionMove : Int32 := 3

def pointerActionUp : Int32 := 4

def pointerActionAxisEnd : Int32 := 7

def pointerActionButtonDown : Int32 := 8

def pointerActionButtonUp : Int32 := 9

def pointerActionEnterWindow : Int32 := 10

def pointerActionLeaveWindow : Int32 := 11

def sourceTypeMouse : Int32 := 1

def sourceTypeTouchscreen : Int32 := 2

def sourceTypeTouchpad : Int32 := 3

def sourceTypeJoystick : Int32 := 4

/-- What `UpdateTargetPointer` returns: `RET_OK`, `RET_ERR` or
`ERROR_NULL_POINTER`. -/
inductive TargetRet where
  | retOk
  | retErr
  | errorNullPointer
  deriving DecidableEq, Repr

/-! ## State -/

structure MouseLocation where
  physicalX : Int32
  physicalY : Int32
  deriving DecidableEq, Repr

/-- What `lastPointerEvent_` points to. An event of another object does not
change any more. -/
inductive LastPointerEvent where
  | null
  | mouse
  | other (event : PointerEvent)

/-- The surroundings of a call. -/
structure Env where
  server : UDSServer
  /-- `GetSysClockTime()` -/
  time : Int64
  /-- `InputDevMgr->HasPointerDevice()` -/
  hasPointerDevice : Bool
  /-- `MouseEventHdr->GetDisplayId()` -/
  mouseDisplayId : Int32

/-- An event sent, to whom, and what the manager went by at that moment. -/
structure Sent where
  event : PointerEvent
  fd : Int
  lastWindowInfo : WindowInfo
  displayGroupInfo : DisplayGroupInfo
  server : UDSServer

structure InputWindowsManager where
  displayGroupInfo : DisplayGroupInfo
  touchItemDownInfos : Int32 → Option WindowInfo
  mouseDownInfo : WindowInfo
  lastWindowInfo : WindowInfo
  lastLogicX : Int32
  lastLogicY : Int32
  lastPointerEvent : LastPointerEvent
  firstBtnDownWindowId : Int32
  pointerStyle : Int32 → Bool
  mouseLocation : MouseLocation
  mouseDisplayState : Bool
  /-- `MouseEventNormalize::pointerEvent_` -/
  mouseEvent : PointerEvent
  /-- `g_nextEventId` -/
  nextEventId : Int32
  sent : List Sent

namespace InputWindowsManager

/-- `InitMouseDownInfo` -/
def clearedMouseDownInfo (window : WindowInfo) : WindowInfo :=
  { window with id := -1, pid := -1, defaultHotAreas := [], pointerHotAreas := [] }

/-- A new manager. Two windows are not initialised and hold anything. -/
def create (now : Int64) (lastWindowInfo mouseDownInfo : WindowInfo) : InputWindowsManager where
  displayGroupInfo := DisplayGroupInfo.empty
  touchItemDownInfos := fun _ => none
  mouseDownInfo := clearedMouseDownInfo mouseDownInfo
  lastWindowInfo := lastWindowInfo
  lastLogicX := -1
  lastLogicY := -1
  lastPointerEvent := .null
  firstBtnDownWindowId := -1
  pointerStyle := fun _ => false
  mouseLocation := ⟨-1, -1⟩
  mouseDisplayState := false
  mouseEvent := PointerEvent.create now
  nextEventId := 1
  sent := []

def lastEvent (s : InputWindowsManager) : Option PointerEvent :=
  match s.lastPointerEvent with
  | .null => none
  | .mouse => some s.mouseEvent
  | .other event => some event

/-- A `PointerEvent` object: the one of the mouse, or another. -/
inductive EventRef where
  | mouse
  | other
  deriving DecidableEq, Repr

/-- The event was written into the object. -/
def write (s : InputWindowsManager) (ref : EventRef) (event : PointerEvent) :
    InputWindowsManager :=
  match ref with
  | .mouse => { s with mouseEvent := event }
  | .other => s

def initMouseDownInfo (s : InputWindowsManager) : InputWindowsManager :=
  { s with mouseDownInfo := clearedMouseDownInfo s.mouseDownInfo }

/-! ## Selecting a window -/

/-- If `SelectWindowInfo` looks for a window again, or stays with the last
one found. -/
def selectsAnew (s : InputWindowsManager) (event : PointerEvent) : Bool :=
  s.firstBtnDownWindowId = -1 ∨
    (event.pointerAction = pointerActionButtonDown ∧ event.pressedButtons.length = 1) ∨
    (event.pointerAction = pointerActionMove ∧ event.pressedButtons.isEmpty)

/-- The window it finds then: the one the event names, or the top one at the
point. -/
def findDispatchWindow (group : DisplayGroupInfo) (targetWindowId logicalX logicalY : Int32) :
    Option WindowInfo :=
  group.windowsInfo.find? fun item =>
    !item.untouchable &&
      if targetWindowId < 0 then isInHotArea logicalX logicalY item.pointerHotAreas
      else targetWindowId = item.id

/-- The window it goes by: the one found, or else the one of before. -/
def firstWindowId (s : InputWindowsManager) (logicalX logicalY : Int32) (event : PointerEvent) :
    Int32 :=
  if s.selectsAnew event then
    match findDispatchWindow s.displayGroupInfo event.targetWindowId logicalX logicalY with
    | some item => item.id
    | none => s.firstBtnDownWindowId
  else s.firstBtnDownWindowId

/-- `SelectWindowInfo` -/
def selectWindowInfo (s : InputWindowsManager) (logicalX logicalY : Int32)
    (event : PointerEvent) : Option WindowInfo × InputWindowsManager :=
  let id := s.firstWindowId logicalX logicalY event
  (s.displayGroupInfo.findWindow id, { s with firstBtnDownWindowId := id })

/-- The choice made in `DispatchPointer`, `NotifyPointerToWindow` and
`UpdateDisplayInfo`: a mouse that only moves is on the window below it. -/
def windowOfLast (s : InputWindowsManager) (logicalX logicalY : Int32) (last : PointerEvent) :
    Option WindowInfo × InputWindowsManager :=
  if last.pointerAction = pointerActionMove ∧ last.pressedButtons.isEmpty then
    (s.displayGroupInfo.getWindowInfo logicalX logicalY, s)
  else s.selectWindowInfo logicalX logicalY last

/-! ## Sending -/

/-- `GetMouseInfo` sets a location that is not known yet to the centre of
the first display. -/
def getMouseInfo (s : InputWindowsManager) : InputWindowsManager :=
  if s.mouseLocation.physicalX = -1 ∨ s.mouseLocation.physicalY = -1 then
    match s.displayGroupInfo.displaysInfo with
    | first :: _ => { s with mouseLocation := ⟨first.width / 2, first.height / 2⟩ }
    | [] => s
  else s

/-- `auto sess = udsServer_->GetSession(fd)` and `sess->SendMsg(pkt)` -/
def sendMsg (env : Env) (s : InputWindowsManager) (fd : Int) (event : PointerEvent) :
    InputWindowsManager :=
  match env.server.getSession fd with
  | some _ =>
      { s with
        sent := s.sent ++ [⟨event, fd, s.lastWindowInfo, s.displayGroupInfo, env.server⟩] }
  | none => s

def clientFd (env : Env) (window : WindowInfo) : Int := env.server.getClientFd window.pid.toInt

/-- The event of `SendPointerEvent` and `DispatchPointer`: for the last
window, with one item. -/
def windowEvent (s : InputWindowsManager) (id : Int32) (time : Int64)
    (pointerAction displayId displayX displayY sourceType deviceId : Int32) : PointerEvent :=
  let item : PointerItem :=
    { windowX := s.lastLogicX - s.lastWindowInfo.area.x
      windowY := s.lastLogicY - s.lastWindowInfo.area.y
      displayX := displayX
      displayY := displayY
      pointerId := 0 }
  let event := ((PointerEvent.create time).setId id).setTargetDisplayId displayId
  let event := event.setTargetWindowId s.lastWindowInfo.id
  let event := event.setAgentWindowId s.lastWindowInfo.agentWindowId
  let event := ((event.setPointerId 0).addPointerItem item).setPointerAction pointerAction
  let event := (event.setSourceType sourceType).setActionTime time
  (event.setActionStartTime time).setDeviceId deviceId

/-- `UpdateId()` -/
def updateId (s : InputWindowsManager) : InputWindowsManager :=
  { s with nextEventId := s.nextEventId + 1 }

def sendPointerEvent (env : Env) (s : InputWindowsManager) (pointerAction : Int32) :
    InputWindowsManager :=
  let s := s.updateId.getMouseInfo
  let s := { s with
    lastLogicX := s.mouseLocation.physicalX, lastLogicY := s.mouseLocation.physicalY }
  let touchWindow :=
    if pointerAction = pointerActionEnterWindow then
      s.displayGroupInfo.getWindowInfo s.lastLogicX s.lastLogicY
    else some s.lastWindowInfo
  match touchWindow with
  | none => s
  | some touchWindow =>
      let s := { s with lastWindowInfo := touchWindow }
      match s.displayGroupInfo.updateDisplayId (-1) with
      | none => s
      | some displayId =>
          let event := s.windowEvent s.nextEventId env.time pointerAction displayId s.lastLogicX
            s.lastLogicY sourceTypeMouse (-1)
          s.updateId.sendMsg env (clientFd env s.lastWindowInfo) event

/-- The last window as `DispatchPointer` finds it: an entered one is looked
for. -/
def enterWindow (s : InputWindowsManager) (pointerAction : Int32) (last : PointerEvent) :
    Bool × InputWindowsManager :=
  if pointerAction = pointerActionEnterWindow then
    let r := s.windowOfLast s.lastLogicX s.lastLogicY last
    match r.1 with
    | none => (false, r.2)
    | some windowInfo =>
        (true,
          if windowInfo.id ≠ r.2.lastWindowInfo.id then { r.2 with lastWindowInfo := windowInfo }
          else r.2)
  else (true, s)

/-- The client of the last window, or else of the window at the last
point. -/
def dispatchFd (env : Env) (s : InputWindowsManager) : Option Int :=
  if clientFd env s.lastWindowInfo = invalidFd then
    (s.displayGroupInfo.getWindowInfo s.lastLogicX s.lastLogicY).map (clientFd env)
  else some (clientFd env s.lastWindowInfo)

def dispatchPointer (env : Env) (s : InputWindowsManager) (pointerAction : Int32) :
    InputWindowsManager :=
  if !s.mouseDisplayState then s
  else
    match s.lastEvent with
    | none => s.sendPointerEvent env pointerAction
    | some last =>
        let id := s.nextEventId
        let s := s.updateId
        match last.getPointerItem last.pointerId with
        | none => s
        | some lastPointerItem =>
            let r := s.enterWindow pointerAction last
            if !r.1 then r.2
            else
              let event := r.2.windowEvent id env.time pointerAction last.targetDisplayId
                lastPointerItem.displayX lastPointerItem.displayY last.sourceType last.deviceId
              match r.2.dispatchFd env with
              | none => r.2
              | some fd => r.2.sendMsg env fd event

def notifyPointerToWindow (env : Env) (s : InputWindowsManager) : InputWindowsManager :=
  match s.lastEvent with
  | none => s
  | some last =>
      let r := s.windowOfLast s.lastLogicX s.lastLogicY last
      match r.1 with
      | none => r.2
      | some windowInfo =>
          let s := r.2
          if windowInfo.id = s.lastWindowInfo.id then { s with lastWindowInfo := windowInfo }
          else
            let isFindLastWindow := (s.displayGroupInfo.findWindow s.lastWindowInfo.id).isSome
            let s :=
              if isFindLastWindow ∨ clientFd env s.lastWindowInfo ≠ invalidFd then
                s.dispatchPointer env pointerActionLeaveWindow
              else s
            { s with lastWindowInfo := windowInfo }.dispatchPointer env pointerActionEnterWindow

/-! ## The target of an event -/

/-- `UpdatePointerEvent`: the event is the last one now. -/
def remember (s : InputWindowsManager) (logicalX logicalY : Int32) (ref : EventRef)
    (event : PointerEvent) (touchWindow : WindowInfo) : InputWindowsManager :=
  { s with
    lastLogicX := logicalX
    lastLogicY := logicalY
    lastPointerEvent := match ref with
      | .mouse => .mouse
      | .other => .other event
    lastWindowInfo := touchWindow }

def updatePointerEvent (env : Env) (s : InputWindowsManager) (logicalX logicalY : Int32)
    (ref : EventRef) (event : PointerEvent) (touchWindow : WindowInfo) : InputWindowsManager :=
  if s.lastWindowInfo.id ≠ touchWindow.id then
    ((s.dispatchPointer env pointerActionLeaveWindow).remember logicalX logicalY ref event
      touchWindow).dispatchPointer env pointerActionEnterWindow
  else s.remember logicalX logicalY ref event touchWindow

/-- Where the pointer of an event is: its item and display, the place on
the display and the place in the group. -/
structure PointerPlace where
  item : PointerItem
  displayInfo : DisplayInfo
  physicalX : Int32
  physicalY : Int32
  logicalX : Int32
  logicalY : Int32

/-- The steps `UpdateMouseTarget` and `UpdateTouchScreenTarget` share after
the display id: the second adjusts the place to the display. -/
def locatePointer (group : DisplayGroupInfo)
    (adjust : DisplayInfo → Int32 → Int32 → Int32 × Int32) (event : PointerEvent) :
    Except TargetRet PointerPlace :=
  match event.getPointerItem event.pointerId with
  | none => .error .retErr
  | some item =>
      match group.getPhysicalDisplay event.targetDisplayId with
      | none => .error .errorNullPointer
      | some displayInfo =>
          let physical := adjust displayInfo item.displayX item.displayY
          match addInt32 physical.1 displayInfo.x with
          | none => .error .retErr
          | some logicalX =>
              match addInt32 physical.2 displayInfo.y with
              | none => .error .retErr
              | some logicalY =>
                  .ok ⟨item, displayInfo, physical.1, physical.2, logicalX, logicalY⟩

/-- `SetTargetWindowId` and `SetAgentWindowId` with a window. -/
def setTarget (event : PointerEvent) (window : WindowInfo) : PointerEvent :=
  (event.setTargetWindowId window.id).setAgentWindowId window.agentWindowId

/-- The window of a mouse event: the one selected, or the one a button went
down on, which gets a cancel. -/
def mouseTarget (s : InputWindowsManager) (touchWindow : Option WindowInfo)
    (event : PointerEvent) : Option (WindowInfo × PointerEvent) :=
  match touchWindow with
  | some touchWindow => some (touchWindow, event)
  | none =>
      if event.pointerAction = pointerActionButtonDown ∨ s.mouseDownInfo.id = -1 then none
      else some (s.mouseDownInfo, event.setPointerAction pointerActionCancel)

/-- The window a button is down on. -/
def keepMouseDown (s : InputWindowsManager) (pointerAction : Int32) (touchWindow : WindowInfo) :
    InputWindowsManager :=
  if pointerAction = pointerActionButtonDown then { s with mouseDownInfo := touchWindow }
  else if pointerAction = pointerActionButtonUp then s.initMouseDownInfo
  else s

/-- The pointer is shown again. -/
def showMouse (env : Env) (s : InputWindowsManager) : InputWindowsManager :=
  if s.mouseDisplayState then s
  else { s with mouseDisplayState := true }.dispatchPointer env pointerActionEnterWindow

/-- The end of `UpdateMouseTarget`, with the window found. -/
def applyMouseTarget (env : Env) (s : InputWindowsManager) (ref : EventRef)
    (event : PointerEvent) (place : PointerPlace) (touchWindow : WindowInfo) :
    PointerEvent × InputWindowsManager :=
  let event := (setTarget event touchWindow).updatePointerItem event.pointerId
    { place.item with
      windowX := place.logicalX - touchWindow.area.x
      windowY := place.logicalY - touchWindow.area.y }
  let s := (s.write ref event).updatePointerEvent env place.logicalX place.logicalY ref event
    touchWindow
  (event, s.keepMouseDown event.pointerAction touchWindow)

def updateMouseTarget (env : Env) (s : InputWindowsManager) (ref : EventRef)
    (event : PointerEvent) : TargetRet × PointerEvent × InputWindowsManager :=
  match s.displayGroupInfo.updateDisplayId event.targetDisplayId with
  | none => (.retErr, event, s)
  | some displayId =>
      let event := event.setTargetDisplayId displayId
      let s := s.write ref event
      match locatePointer s.displayGroupInfo (fun _ x y => (x, y)) event with
      | .error ret => (ret, event, s)
      | .ok place =>
          let r := s.selectWindowInfo place.logicalX place.logicalY event
          match r.2.mouseTarget r.1 event with
          | none => (.retErr, event, r.2)
          | some (touchWindow, event) =>
              let s := r.2.write ref event
              if s.pointerStyle touchWindow.pid then
                (.retOk, (s.showMouse env).applyMouseTarget env ref event place touchWindow)
              else (.retErr, event, s)

/-- The window of a touch event: the one found, or the one the finger went
down on, which gets a cancel. -/
def touchTarget (s : InputWindowsManager) (event : PointerEvent) (place : PointerPlace) :
    Option (WindowInfo × PointerEvent) :=
  match s.displayGroupInfo.findTouchWindow place.item.targetWindowId place.logicalX
      place.logicalY with
  | some touchWindow => some (touchWindow, event)
  | none =>
      match s.touchItemDownInfos event.pointerId with
      | none => none
      | some touchWindow =>
          if event.pointerAction = pointerActionDown then none
          else some (touchWindow, event.setPointerAction pointerActionCancel)

/-- The mouse leaves its window when a finger takes over. -/
def hideMouse (env : Env) (s : InputWindowsManager) : InputWindowsManager :=
  if s.mouseDisplayState then
    { s.dispatchPointer env pointerActionLeaveWindow with mouseDisplayState := false }
  else s

/-- The windows fingers went down on. `insert` keeps a record there is. -/
def keepTouchDown (s : InputWindowsManager) (pointerAction pointerId : Int32)
    (touchWindow : WindowInfo) : InputWindowsManager :=
  if pointerAction = pointerActionDown then
    match s.touchItemDownInfos pointerId with
    | some _ => s
    | none =>
        { s with
          touchItemDownInfos :=
            Function.update s.touchItemDownInfos pointerId (some touchWindow) }
  else if pointerAction = pointerActionUp then
    { s with touchItemDownInfos := Function.update s.touchItemDownInfos pointerId none }
  else s

/-- The item of a finger on a window. -/
def touchItem (place : PointerPlace) (touchWindow : WindowInfo) : PointerItem :=
  { place.item with
    displayX := place.physicalX
    displayY := place.physicalY
    windowX := place.logicalX - touchWindow.area.x
    windowY := place.logicalY - touchWindow.area.y
    toolWindowX := place.item.toolDisplayX + place.displayInfo.x - touchWindow.area.x
    toolWindowY := place.item.toolDisplayY + place.displayInfo.y - touchWindow.area.y
    targetWindowId := touchWindow.id }

def updateTouchScreenTarget (env : Env) (s : InputWindowsManager) (ref : EventRef)
    (event : PointerEvent) : TargetRet × PointerEvent × InputWindowsManager :=
  match s.displayGroupInfo.updateDisplayId event.targetDisplayId with
  | none => (.retErr, event, s)
  | some displayId =>
      let event := event.setTargetDisplayId displayId
      let s := s.write ref event
      match locatePointer s.displayGroupInfo adjustDisplayCoordinate event with
      | .error ret => (ret, event, s)
      | .ok place =>
          match s.touchTarget event place with
          | none => (.retErr, event, s)
          | some (touchWindow, event) =>
              let event := (setTarget event touchWindow).updatePointerItem event.pointerId
                (touchItem place touchWindow)
              let s := (s.write ref event).hideMouse env
              (.retOk, event, s.keepTouchDown event.pointerAction event.pointerId touchWindow)

def updateTouchPadTarget (s : InputWindowsManager) (event : PointerEvent) :
    TargetRet × PointerEvent × InputWindowsManager := (.retErr, event, s)

def updateJoystickTarget (s : InputWindowsManager) (ref : EventRef) (event : PointerEvent) :
    TargetRet × PointerEvent × InputWindowsManager :=
  match s.displayGroupInfo.findWindow s.displayGroupInfo.focusWindowId with
  | none => (.errorNullPointer, event, s)
  | some windowInfo =>
      let event := setTarget event windowInfo
      (.retOk, event, s.write ref event)

def updateTargetPointer (env : Env) (s : InputWindowsManager) (ref : EventRef)
    (event : PointerEvent) : TargetRet × PointerEvent × InputWindowsManager :=
  if event.sourceType = sourceTypeTouchscreen then s.updateTouchScreenTarget env ref event
  else if event.sourceType = sourceTypeMouse then s.updateMouseTarget env ref event
  else if event.sourceType = sourceTypeTouchpad then s.updateTouchPadTarget event
  else if event.sourceType = sourceTypeJoystick then s.updateJoystickTarget ref event
  else (.retErr, event, s)

/-! ## The client of an event -/

/-- The process of a cancelled event whose window is gone. Its record goes
too. -/
def takeDownPid (s : InputWindowsManager) (event : PointerEvent) : Int32 × InputWindowsManager :=
  if event.sourceType = sourceTypeTouchscreen then
    match s.touchItemDownInfos event.pointerId with
    | some record =>
        (record.pid,
          { s with
            touchItemDownInfos := Function.update s.touchItemDownInfos event.pointerId none })
    | none => (-1, s)
  else if event.sourceType = sourceTypeMouse ∧ s.mouseDownInfo.pid ≠ -1 then
    (s.mouseDownInfo.pid, s.initMouseDownInfo)
  else (-1, s)

/-- `GetClientFd(pointerEvent)` -/
def getClientFd (env : Env) (s : InputWindowsManager) (event : PointerEvent) :
    Int × InputWindowsManager :=
  match s.displayGroupInfo.findWindow event.targetWindowId with
  | some windowInfo => (clientFd env windowInfo, s)
  | none =>
      if event.pointerAction ≠ pointerActionCancel then (env.server.getClientFd (-1), s)
      else
        let r := s.takeDownPid event
        (env.server.getClientFd r.1.toInt, r.2)

/-! ## Layouts and sessions -/

/-- The part of `UpdateDisplayInfo` that draws the pointer: it may remember a
window, and it ends the function where it cannot draw. -/
def refreshPointer (env : Env) (s : InputWindowsManager) : Bool × InputWindowsManager :=
  match s.displayGroupInfo.displaysInfo with
  | [] => (true, s)
  | first :: _ =>
      let s := s.getMouseInfo
      let displayId := if env.mouseDisplayId < 0 then first.id else env.mouseDisplayId
      match s.displayGroupInfo.getPhysicalDisplay displayId with
      | none => (false, s)
      | some displayInfo =>
          match s.lastEvent with
          | none => (false, s)
          | some last =>
              let r := s.windowOfLast (s.mouseLocation.physicalX + displayInfo.x)
                (s.mouseLocation.physicalY + displayInfo.y) last
              (r.1.isSome, r.2)

def updateDisplayInfo (env : Env) (s : InputWindowsManager) (displayGroupInfo : DisplayGroupInfo) :
    InputWindowsManager :=
  let s := { s with
    displayGroupInfo := displayGroupInfo
    pointerStyle := fun pid =>
      s.pointerStyle pid || displayGroupInfo.windowsInfo.any fun item => item.pid = pid }
  if env.hasPointerDevice then
    let r := s.refreshPointer env
    if r.1 then r.2.notifyPointerToWindow env else r.2
  else s

/-- `OnSessionLost` -/
def onSessionLost (s : InputWindowsManager) (pid : Int32) : InputWindowsManager :=
  { s with pointerStyle := Function.update s.pointerStyle pid false }

end InputWindowsManager

end FtMmi.WindowManager
