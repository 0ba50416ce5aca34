/-
FtMmi.JsMonitor.JsInputMonitor — monitors of an application written in
JavaScript (`js_input_monitor.cpp`, `js_input_monitor_manager.cpp`).

The thread that reads the events of the process hands each to the monitors,
one after another. A monitor keeps what its callback is to be called with,
and posts a task to the thread of its environment, which runs the callback.
While the callback runs, its monitor is locked, and the application may
register and remove monitors.

The calls of the engine succeed, save for `napi_call_function` where the
callback throws and `napi_get_value_bool` where it does not return a truth
value. Of the object a callback gets, what matters is whether it can be made.

A task holds a pointer to the id in the monitor. What it reads when the
monitor is gone is not known; here it finds no monitor. Ids are numbers
without a bound: an application is taken to register fewer than 2^31
monitors in its life (`nextId_` is an `int32_t`).
-/
import FtMmi.Event.PointerEvent
import FtMmi.InputHandler.ConsumerAcknowledgement
import FtMmi.Lib.KeyedList
import FtMmi.MouseEventNormalize.MouseEventNormalize

namespace FtMmi.JsMonitor

open FtMmi.Event
open FtMmi.InputHandler
open FtMmi.Lib
open FtMmi.WindowManager

/-! ## State -/

inductive MonitorType where
  | touch
  | mouse
  deriving DecidableEq, Repr

/-- `tempEvent`: the copy of an event that a consumer gets. -/
structure TempEvent where
  copy : Nat
  event : PointerEvent

structure InputMonitor where
  monitorId : Int
  consumed : Bool

/-- `monitorId` is the id among the monitors of the module. -/
structure JsInputMonitor where
  monitor : InputMonitor
  evQueue : List TempEvent
  receiver : Nat
  jsEnv : Nat
  typeName : MonitorType
  monitorId : Nat
  isMonitoring : Bool

/-- An event on its way to the monitor with the id. `taken` says that it is
with `JsInputMonitor` already. -/
structure Delivery where
  monitorId : Nat
  tempEvent : TempEvent
  taken : Bool

/-- A call of a callback. -/
structure Call where
  monitorId : Nat
  jsEnv : Nat
  typeName : MonitorType
  tempEvent : TempEvent

/-- What became of a call. -/
inductive CallResult where
  | threw
  | boolean (value : Bool)
  | other

/-- The monitors of a process. -/
structure JsInputMonitorManager where
  /-- the handlers and the copies that they got -/
  service : ConsumerService
  monitors : List JsInputMonitor
  nextId : Nat
  /-- the static of `OnInputEvent`, which all monitors share -/
  count : Nat
  deliveries : List Delivery
  tasks : List Nat
  /-- the calls that have not returned -/
  calls : List Call
  /-- the ids of the `MarkEventConsumed` requests -/
  requests : List Int32
  /-- all calls so far -/
  called : List Call
  /-- the events let go of without `MarkProcessed`, with the monitors they were for -/
  dropped : List (Nat × TempEvent)

def mouseFlow : Nat := 15

inductive MonitorInput where
  /-- with whether the client is initialised, and the server's answer -/
  | addMonitor (jsEnv : Nat) (typeName : MonitorType) (callback : Nat) (initClient : Bool)
      (ret : Int)
  /-- of one callback, or of all -/
  | removeMonitor (jsEnv : Nat) (typeName : MonitorType) (callback : Option Nat)
  | removeEnv (jsEnv : Nat)
  | onInputEvent (event : PointerEvent)
  /-- The thread of the events goes on. -/
  | consume
  | jsCallback (task : Nat)
  | callReturned (call : Nat) (result : CallResult)

namespace JsInputMonitorManager

def create : JsInputMonitorManager :=
  { service := .create, monitors := [], nextId := 0, count := mouseFlow, deliveries := []
    tasks := [], calls := [], requests := [], called := [], dropped := [] }

def getMonitor (s : JsInputMonitorManager) (id : Nat) : Option JsInputMonitor :=
  s.monitors.find? fun item => item.monitorId = id

/-- A monitor is written to. -/
def write (s : JsInputMonitorManager) (item : JsInputMonitor) : JsInputMonitorManager :=
  { s with monitors := replaceKey JsInputMonitor.monitorId item s.monitors }

/-- An event is let go of. -/
def drop (s : JsInputMonitorManager) (id : Nat) (event : TempEvent) : JsInputMonitorManager :=
  { s with dropped := s.dropped ++ [(id, event)] }

/-- `MarkProcessed` -/
def markProcessed (s : JsInputMonitorManager) (event : TempEvent) : JsInputMonitorManager :=
  { s with service := s.service.markProcessed event.copy }

/-! ## Registration -/

/-- `InputManagerImpl::AddMonitor`: the id of the handler or the error. -/
def startMonitor (s : JsInputMonitorManager) (id : Nat) (initClient : Bool) (ret : Int) :
    Int × ConsumerService :=
  if !initClient then (retErr, s.service)
  else
    let p := s.service.manager.prepareHandler .monitor id handleEventTypeAll
    (match p.2.1 with
      | none => p.1
      | some _ => (p.2.2.finishHandler p.1 .monitor ret).1,
      s.service.step (.addHandler .monitor id handleEventTypeAll ret))

def addMonitor (s : JsInputMonitorManager) (jsEnv : Nat) (typeName : MonitorType)
    (callback : Nat) (initClient : Bool) (ret : Int) : JsInputMonitorManager :=
  if s.monitors.any fun item => item.jsEnv = jsEnv ∧ item.receiver = callback then s
  else
    let id := s.nextId
    let r := s.startMonitor id initClient ret
    let s := { s with service := r.2, nextId := id + 1 }
    if r.1 < 0 then s
    else
      { s with
        monitors := s.monitors ++
          [{ monitor := ⟨r.1, false⟩, evQueue := [], receiver := callback, jsEnv, typeName
             monitorId := id, isMonitoring := true }] }

/-- `Stop` of a monitor that is not registered any more. -/
def stop (service : ConsumerService) (item : JsInputMonitor) : ConsumerService :=
  if !item.isMonitoring then service
  else if item.monitor.monitorId < 0 then service
  else service.step (.removeHandler item.monitor.monitorId .monitor)

/-- The monitors are taken out, and stopped one after another. -/
def stopAll (s : JsInputMonitorManager) (gone : JsInputMonitor → Bool) : JsInputMonitorManager :=
  { s with
    monitors := s.monitors.filter fun item => !gone item
    service := (s.monitors.filter gone).foldl stop s.service
    dropped := s.dropped ++ (s.monitors.filter gone).flatMap fun item =>
      item.evQueue.map fun event => (item.monitorId, event) }

def removeMonitor (s : JsInputMonitorManager) (jsEnv : Nat) (typeName : MonitorType) :
    Option Nat → JsInputMonitorManager
  | none => s.stopAll fun item => item.typeName = typeName ∧ item.jsEnv = jsEnv
  | some callback =>
      match s.monitors.find? fun item =>
          item.typeName = typeName ∧ item.jsEnv = jsEnv ∧ item.receiver = callback with
      | none => s
      | some item => s.stopAll fun other => other.monitorId = item.monitorId

/-! ## The thread of the events -/

/-- `InputHandlerManager::OnInputEvent` up to its loop. An event that comes while
the thread is at work waits. -/
def onInputEvent (s : JsInputMonitorManager) (event : PointerEvent) : JsInputMonitorManager :=
  if s.deliveries ≠ [] then s
  else
    let consumers :=
      (s.service.manager.getConsumerInfos EventHandler.tokenHap event.sourceType event.id).1
    { s with
      service := s.service.onInputEvent event.sourceType event.id
      deliveries := consumers.zipIdx.map fun consumer =>
        ⟨consumer.1.consumer, ⟨s.service.copies.length + consumer.2, event⟩, false⟩ }

/-- `InputMonitor::OnInputEvent`, up to the callback. -/
def inputMonitor (s : JsInputMonitorManager) (d : Delivery) (rest : List Delivery) :
    JsInputMonitorManager :=
  match s.getMonitor d.monitorId with
  | none => { s with deliveries := rest }.drop d.monitorId d.tempEvent
  | some item =>
      let event := d.tempEvent.event
      let move := event.sourceType = sourceTypeMouse ∧ event.pointerAction = pointerActionMove
      if move ∧ s.count + 1 < mouseFlow then
        { s with count := s.count + 1, deliveries := rest }.markProcessed d.tempEvent
      else
        let s := if move then { s with count := 0 } else s
        let down := event.getPointerIds.length = 1 ∧ event.pointerAction = pointerActionDown
        if event.sourceType = sourceTypeTouchscreen ∧ item.typeName ≠ .touch then
          { s with deliveries := rest }.markProcessed d.tempEvent
        else if event.sourceType = sourceTypeMouse ∧ item.typeName ≠ .mouse then
          { s with deliveries := rest }.drop d.monitorId d.tempEvent
        else
          let s :=
            if (event.sourceType = sourceTypeTouchscreen ∨ event.sourceType = sourceTypeMouse) ∧
                down then
              s.write { item with monitor := { item.monitor with consumed := false } }
            else s
          { s with deliveries := { d with taken := true } :: rest }

/-- `JsInputMonitor::OnPointerEvent`, which waits while the callback runs. -/
def onPointerEvent (s : JsInputMonitorManager) (d : Delivery) (rest : List Delivery) :
    JsInputMonitorManager :=
  match s.getMonitor d.monitorId with
  | none => { s with deliveries := rest }.drop d.monitorId d.tempEvent
  | some item =>
      if !item.isMonitoring then { s with deliveries := rest }.drop d.monitorId d.tempEvent
      else if s.calls.any fun call => call.monitorId = d.monitorId then s
      else
        let action := d.tempEvent.event.pointerAction
        let s : JsInputMonitorManager :=
          match item.evQueue with
          | [] => s.write { item with evQueue := [d.tempEvent] }
          | front :: _ =>
              if action = pointerActionDown ∨ action = pointerActionUp then
                (s.markProcessed front).write { item with evQueue := [d.tempEvent] }
              else s.drop d.monitorId d.tempEvent
        { s with deliveries := rest, tasks := s.tasks ++ [d.monitorId] }

def consume (s : JsInputMonitorManager) : JsInputMonitorManager :=
  match s.deliveries with
  | [] => s
  | d :: rest => if d.taken then s.onPointerEvent d rest else s.inputMonitor d rest

/-! ## The threads of the environments -/

/-- The action of a mouse event in JavaScript. -/
def transformTsActionValue (pointerAction : Int32) : Option Nat :=
  if pointerAction = pointerActionCancel then some 0
  else if pointerAction = pointerActionMove then some 1
  else if pointerAction = pointerActionButtonDown then some 2
  else if pointerAction = pointerActionButtonUp then some 3
  else if pointerAction = MouseEventNormalize.pointerActionAxisBegin then some 4
  else if pointerAction = MouseEventNormalize.pointerActionAxisUpdate then some 5
  else if pointerAction = pointerActionAxisEnd then some 6
  else none

/-- Whether `TransformPointerEvent` or `TransformMousePointerEvent` makes an object
of the event: the pointer of a touch must be there, the action of a mouse be known. -/
def transforms (typeName : MonitorType) (event : PointerEvent) : Bool :=
  match typeName with
  | .touch => (event.getPointerItem event.pointerId).isSome
  | .mouse => (transformTsActionValue event.pointerAction).isSome

/-- The loop of `OnPointerEventInJsThread`, up to the next call. -/
def onPointerEventInJsThread (s : JsInputMonitorManager) (id : Nat) : JsInputMonitorManager :=
  match s.getMonitor id with
  | none => s
  | some item =>
      if !item.isMonitoring then s
      else
        match item.evQueue with
        | [] => s
        | front :: rest =>
            let s := s.write { item with evQueue := rest }
            if transforms item.typeName front.event then
              let call : Call := ⟨id, item.jsEnv, item.typeName, front⟩
              { s with calls := s.calls ++ [call], called := s.called ++ [call] }
            else s.markProcessed front

/-- `JsCallback`. The thread of an environment runs one task at a time. -/
def jsCallback (s : JsInputMonitorManager) (task : Nat) : JsInputMonitorManager :=
  match s.tasks[task]? with
  | none => s
  | some id =>
      if (s.getMonitor id).any fun item => s.calls.any fun call => call.jsEnv = item.jsEnv then s
      else { s with tasks := s.tasks.eraseIdx task }.onPointerEventInJsThread id

/-- `MarkConsumed` -/
def markConsumed (s : JsInputMonitorManager) (id : Nat) (eventId : Int32) :
    JsInputMonitorManager :=
  match s.getMonitor id with
  | none => s
  | some item =>
      if item.monitor.consumed then s
      else if item.monitor.monitorId < 0 then s
      else
        let known := s.service.manager.inputHandlers.any fun handler =>
          handler.handlerId = item.monitor.monitorId
        { s with requests := if known then s.requests ++ [eventId] else s.requests }.write
          { item with monitor := { item.monitor with consumed := true } }

/-- The loop behind the call. -/
def callReturned (s : JsInputMonitorManager) (index : Nat) (result : CallResult) :
    JsInputMonitorManager :=
  match s.calls[index]? with
  | none => s
  | some call =>
      let s := { s with calls := s.calls.eraseIdx index }
      match result, call.typeName with
      | .threw, _ => s.markProcessed call.tempEvent
      | _, .mouse => (s.drop call.monitorId call.tempEvent).onPointerEventInJsThread call.monitorId
      | .other, .touch => s.markProcessed call.tempEvent
      | .boolean value, .touch =>
          let s := s.markProcessed call.tempEvent
          let s := if value then s.markConsumed call.monitorId call.tempEvent.event.id else s
          s.onPointerEventInJsThread call.monitorId

/-! ## Runs -/

def step (s : JsInputMonitorManager) : MonitorInput → JsInputMonitorManager
  | .addMonitor jsEnv typeName callback initClient ret =>
      s.addMonitor jsEnv typeName callback initClient ret
  | .removeMonitor jsEnv typeName callback => s.removeMonitor jsEnv typeName callback
  | .removeEnv jsEnv => s.stopAll fun item => item.jsEnv = jsEnv
  | .onInputEvent event => s.onInputEvent event
  | .consume => s.consume
  | .jsCallback task => s.jsCallback task
  | .callReturned call result => s.callReturned call result

end JsInputMonitorManager

end FtMmi.JsMonitor
