/-
FtMmi.TouchEventNormalize.TabletToolTransformProcessor — the event of a
pen (`tablet_tool_tranform_processor.cpp`) and what is done with it after
each report (`HandleTableToolEvent` in `event_normalize_handler.cpp`).

As for a touch screen there is one `PointerEvent` for the life of the
processor. It has the one pointer `DEFAULT_POINTER_ID`. A report is what
libinput says about the pen; its place on a screen is a function of the
size of the screen.
-/
import FtMmi.WindowManager.InputWindowsManager

namespace FtMmi.TouchEventNormalize

open FtMmi.Event
open FtMmi.WindowManager

/-! ## Reports -/

/-- `LIBINPUT_EVENT_TABLET_TOOL_AXIS`, `LIBINPUT_EVENT_TABLET_TOOL_PROXIMITY`
and `LIBINPUT_EVENT_TABLET_TOOL_TIP` with the state of the tip. -/
inductive TabletToolType where
  | axis
  | proximity
  | tipDown
  | tipUp
  deriving DecidableEq, Repr

/-- `libinput_event_tablet_tool` -/
structure LibinputTabletTool where
  type : TabletToolType
  xTransformed : Int32 → Int32
  yTransformed : Int32 → Int32
  tiltX : Double
  tiltY : Double
  pressure : Double
  /-- `GetToolType(tabletEvent)` -/
  toolType : Int32

/-- `CalculateTipPoint`: the place, and the display. -/
def calculateTipPoint (group : DisplayGroupInfo) (tip : LibinputTabletTool) :
    Option ((Int32 × Int32) × Int32) :=
  (group.findPhysicalDisplayInfo "default0").map fun displayInfo =>
    ((tip.xTransformed displayInfo.width, tip.yTransformed displayInfo.height), displayInfo.id)

/-! ## The processor -/

def defaultPointerId : Int32 := 0

structure TabletToolTransformProcessor where
  deviceId : Int32
  pointerEvent : Option PointerEvent

def TabletToolTransformProcessor.create (deviceId : Int32) : TabletToolTransformProcessor :=
  ⟨deviceId, none⟩

/-- The item of a pen that touches the screen; what is not set is kept of the
item there was. -/
def tipDownItem (item : PointerItem) (deviceId : Int32) (time : Int64) (tip : LibinputTabletTool)
    (coord : Int32 × Int32) : PointerItem :=
  { item with
    pointerId := defaultPointerId
    deviceId := deviceId
    downTime := time
    pressed := true
    displayX := coord.1
    displayY := coord.2
    tiltX := tip.tiltX
    tiltY := tip.tiltY
    pressure := tip.pressure
    toolType := tip.toolType
    targetWindowId := -1 }

/-- The item that is made for a pen that moves and has none. -/
def expectedItem (deviceId : Int32) (time : Int64) (tip : LibinputTabletTool) : PointerItem :=
  { pointerId := defaultPointerId
    deviceId := deviceId
    downTime := time
    pressed := true
    toolType := tip.toolType }

/-- The item of a pen that moves. -/
def tipMotionItem (item : PointerItem) (tip : LibinputTabletTool) (coord : Int32 × Int32) :
    PointerItem :=
  { item with
    displayX := coord.1
    displayY := coord.2
    tiltX := tip.tiltX
    tiltY := tip.tiltY
    pressure := tip.pressure }

def onTipDown (group : DisplayGroupInfo) (deviceId : Int32) (time : Int64)
    (tip : LibinputTabletTool) (event : PointerEvent) : Bool × PointerEvent :=
  match calculateTipPoint group tip with
  | none => (false, event)
  | some (coord, targetDisplayId) =>
      let event := (((event.setActionStartTime time).setTargetDisplayId targetDisplayId).setActionTime
        time).setPointerAction pointerActionDown
      let found := event.getPointerItem defaultPointerId
      let event := if found.isSome then event.removePointerItem defaultPointerId else event
      let item := tipDownItem (found.getD {}) deviceId time tip coord
      (true, ((event.setDeviceId deviceId).addPointerItem item).setPointerId defaultPointerId)

def onTipMotion (group : DisplayGroupInfo) (deviceId : Int32) (time : Int64)
    (tip : LibinputTabletTool) (event : PointerEvent) : Bool × PointerEvent :=
  let event := (event.setActionTime time).setPointerAction pointerActionMove
  match calculateTipPoint group tip with
  | none => (false, event)
  | some (coord, targetDisplayId) =>
      match event.getPointerItem defaultPointerId with
      | some item =>
          (true, event.updatePointerItem defaultPointerId (tipMotionItem item tip coord))
      | none =>
          let event := (((event.setActionStartTime time).setTargetDisplayId
            targetDisplayId).setDeviceId deviceId).setPointerId defaultPointerId
          (true, event.updatePointerItem defaultPointerId
            (tipMotionItem (expectedItem deviceId time tip) tip coord))

def onTipUp (time : Int64) (event : PointerEvent) : Bool × PointerEvent :=
  let event := (event.setActionTime time).setPointerAction pointerActionUp
  match event.getPointerItem defaultPointerId with
  | none => (false, event)
  | some item => (true, event.updatePointerItem defaultPointerId { item with pressed := false })

/-- The handler of the report's type. A pen that comes near or leaves is not
reported. -/
def onTabletTool (group : DisplayGroupInfo) (deviceId : Int32) (time : Int64)
    (tip : LibinputTabletTool) (event : PointerEvent) : Bool × PointerEvent :=
  match tip.type with
  | .axis => onTipMotion group deviceId time tip event
  | .proximity => (false, event)
  | .tipDown => onTipDown group deviceId time tip event
  | .tipUp => onTipUp time event

namespace TabletToolTransformProcessor

/-- The event of the processor; the first report makes it. -/
def event (p : TabletToolTransformProcessor) (now : Int64) : PointerEvent :=
  p.pointerEvent.getD (.create now)

/-- The report is written into the event, if it can be. -/
def writeReport (env : Env) (s : InputWindowsManager) (p : TabletToolTransformProcessor)
    (tip : LibinputTabletTool) : Bool × PointerEvent :=
  onTabletTool s.displayGroupInfo p.deviceId env.time tip (p.event env.time)

/-- The event for which `OnEvent` asks for a target. -/
def ready (env : Env) (s : InputWindowsManager) (p : TabletToolTransformProcessor)
    (tip : LibinputTabletTool) : PointerEvent :=
  ((p.writeReport env s tip).2.setSourceType sourceTypeTouchscreen).setId s.nextEventId

/-- `OnEvent`: if the event is returned, the processor with it, and the window
manager. -/
def onEvent (env : Env) (s : InputWindowsManager) (p : TabletToolTransformProcessor)
    (tip : LibinputTabletTool) : Bool × TabletToolTransformProcessor × InputWindowsManager :=
  if (p.writeReport env s tip).1 then
    let target := s.updateId.updateTargetPointer env .other (p.ready env s tip)
    (true, { p with pointerEvent := some target.2.1 }, target.2.2)
  else (false, { p with pointerEvent := some (p.writeReport env s tip).2 }, s)

/-- `HandleTableToolEvent`: the event passed on, and the processor after it. -/
def handleTableToolEvent (env : Env) (s : InputWindowsManager) (p : TabletToolTransformProcessor)
    (tip : LibinputTabletTool) : Option PointerEvent × TabletToolTransformProcessor :=
  let result := p.onEvent env s tip
  if result.1 then
    match result.2.1.pointerEvent with
    | none => (none, result.2.1)
    | some event =>
        (some event,
          if event.pointerAction = pointerActionUp then
            { p with pointerEvent := some (event.reset env.time) }
          else result.2.1)
  else (none, result.2.1)

end TabletToolTransformProcessor

end FtMmi.TouchEventNormalize
