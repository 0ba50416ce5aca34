/-
FtMmi.TouchEventNormalize.TouchEventNormalize — the processors of the
devices (`touch_event_normalize.cpp`), and the handlers of
`event_normalize_handler.cpp` through which their events come.

There is one processor for a device id. It is made for the class of the
first event that comes under the id and serves all later ones; no
processor is ever removed. An event of another class is not understood by
the processor and no event is returned for it.
-/
import FtMmi.Device.InputDeviceManager
import FtMmi.TouchEventNormalize.GestureTransformProcessor
import FtMmi.TouchEventNormalize.TouchItems
import FtMmi.TouchEventNormalize.TouchPadTransformProcessor

namespace FtMmi.TouchEventNormalize

open FtMmi.Device
open FtMmi.Event
open FtMmi.WindowManager

/-! ## Events -/

/-- `INPUT_DEVICE_CAP_TOUCH` and so on; the types for which there is no
processor are left out. -/
inductive InputDeviceType where
  | touch
  | tabletTool
  | touchPad
  | gesture
  deriving DecidableEq, Repr

/-- The libinput events that `HandleEvent` passes on to `TouchEventNormalize`. -/
inductive LibinputEvent where
  | touch (touch : LibinputTouch)
  | tabletTool (tip : LibinputTabletTool)
  | touchPad (touchpad : LibinputTouchPad)
  | gesture (gesture : LibinputGesture)

/-- The type with which the handler of the event calls `OnLibInput`. -/
def LibinputEvent.deviceType : LibinputEvent → InputDeviceType
  | .touch _ => .touch
  | .tabletTool _ => .tabletTool
  | .touchPad _ => .touchPad
  | .gesture _ => .gesture

/-! ## Processors -/

inductive TransformProcessor where
  | touch (p : TouchTransformProcessor)
  | tabletTool (p : TabletToolTransformProcessor)
  | touchPad (p : TouchPadTransformProcessor)
  | gesture (p : GestureTransformProcessor)

namespace TransformProcessor

/-- The type a processor is made for. -/
def deviceType : TransformProcessor → InputDeviceType
  | .touch _ => .touch
  | .tabletTool _ => .tabletTool
  | .touchPad _ => .touchPad
  | .gesture _ => .gesture

/-- `OnEvent`, and what the handler of the event does when it returns: the
event passed on, and the processor after it. -/
def handle (env : Env) (manager : InputWindowsManager) :
    TransformProcessor → LibinputEvent → Option PointerEvent × TransformProcessor
  | .touch p, .touch e =>
      let report : TouchReport := ⟨env, manager, e⟩
      (p.returned report, .touch (p.handleTouchEvent report))
  | .tabletTool p, .tabletTool e =>
      let result := p.handleTableToolEvent env manager e
      (result.1, .tabletTool result.2)
  | .touchPad p, .touchPad e =>
      let result := p.handleTouchPadEvent env manager e
      (some result.1, .touchPad result.2)
  | .gesture p, .gesture e =>
      let result := p.onEvent env manager e
      (result.1, .gesture result.2)
  -- The event is made all the same, except by a gesture processor.
  | .touch p, _ => (none, .touch { p with pointerEvent := some (p.event env.time) })
  | .tabletTool p, _ => (none, .tabletTool { p with pointerEvent := some (p.event env.time) })
  | .touchPad p, _ =>
      (none, .touchPad { p with pointerEvent := some (p.pointerEvent.getD (.create env.time)) })
  | .gesture p, _ => (none, .gesture p)

/-- A processor stays of its type. -/
@[simp] theorem handle_deviceType (env : Env) (manager : InputWindowsManager)
    (p : TransformProcessor) (event : LibinputEvent) :
    (p.handle env manager event).2.deviceType = p.deviceType := by
  cases p <;> cases event <;> rfl

/-- No event is returned for an event of another type. -/
theorem handle_other (env : Env) (manager : InputWindowsManager) {p : TransformProcessor}
    {event : LibinputEvent} (hother : p.deviceType ≠ event.deviceType) :
    (p.handle env manager event).1 = none := by
  cases p <;> cases event <;> first | rfl | exact absurd rfl hother

end TransformProcessor

def makeTransformProcessor (deviceId : Int32) : InputDeviceType → TransformProcessor
  | .touch => .touch (.create deviceId)
  | .tabletTool => .tabletTool (.create deviceId)
  | .touchPad => .touchPad (.create deviceId)
  | .gesture => .gesture (.create deviceId)

@[simp] theorem makeTransformProcessor_deviceType (deviceId : Int32) (type : InputDeviceType) :
    (makeTransformProcessor deviceId type).deviceType = type := by
  cases type <;> rfl

/-! ## The map -/

/-- The one `TouchEventNormalize`. -/
structure TouchEventHdr where
  /-- `processors_` -/
  processors : Std.TreeMap Int32 TransformProcessor

namespace TouchEventHdr

def create : TouchEventHdr := ⟨∅⟩

/-- The processor with which `OnLibInput` handles an event. -/
def processorFor (t : TouchEventHdr) (deviceId : Int32) (type : InputDeviceType) :
    TransformProcessor :=
  (t.processors[deviceId]?).getD (makeTransformProcessor deviceId type)

/-- `OnLibInput`, with what the handler does after it. -/
def onLibInput (env : Env) (manager : InputWindowsManager) (devices : InputDeviceManager)
    (device : Nat) (event : LibinputEvent) (t : TouchEventHdr) :
    Option PointerEvent × TouchEventHdr :=
  let deviceId := findInputDeviceId devices device
  let result := (t.processorFor deviceId event.deviceType).handle env manager event
  (result.1, ⟨t.processors.insert deviceId result.2⟩)

/-- The processor of an id after an event. -/
theorem onLibInput_processors (env : Env) (manager : InputWindowsManager)
    (devices : InputDeviceManager) (device : Nat) (event : LibinputEvent) (t : TouchEventHdr)
    (id : Int32) :
    (t.onLibInput env manager devices device event).2.processors[id]? =
      if findInputDeviceId devices device = id then
        some ((t.processorFor id event.deviceType).handle env manager event).2
      else t.processors[id]? := by
  simp only [onLibInput, Std.TreeMap.getElem?_insert, Std.LawfulEqCmp.compare_eq_iff_eq]
  by_cases hid : findInputDeviceId devices device = id
  · simp [hid]
  · simp [hid]

end TouchEventHdr

end FtMmi.TouchEventNormalize
