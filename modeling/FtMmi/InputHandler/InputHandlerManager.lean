/-
FtMmi.InputHandler.InputHandlerManager — the handlers of a client process
(`input_handler_manager.cpp`): its monitors or its interceptors, which the
server knows as one.

Consumers are known by identity and are not null. A request to the server
that is refused before it reaches the handlers there (the service does not
run, a permission is missing) is an error like any other.
-/
import FtMmi.EventHandler.ANRManager
import FtMmi.InputHandler.SessionHandlers
import FtMmi.WindowManager.InputWindowsManager

namespace FtMmi.InputHandler

open FtMmi.EventHandler (tokenHap)
open FtMmi.WindowManager (sourceTypeMouse sourceTypeTouchscreen)

/-! ## State -/

def invalidHandlerId : Int := -1

def errorExceedMaxCount : Int := -4100001

structure Handler where
  handlerId : Int
  handlerType : InputHandlerType
  eventType : HandleEventType
  consumer : Nat
  deriving DecidableEq, Repr

structure InputHandlerManager where
  /-- `std::map`, by id -/
  inputHandlers : List Handler
  processedEvents : Int32 → Option Nat
  mouseEventIds : List Int32
  nextId : Int

namespace InputHandlerManager

def create : InputHandlerManager := ⟨[], fun _ => none, [], 1⟩

/-! ## Adding and removing -/

/-- `GetNextId`: the id, or the invalid one at the end of the range. -/
def getNextId (s : InputHandlerManager) : Int × InputHandlerManager :=
  if s.nextId = int32Max then (invalidHandlerId, s)
  else (s.nextId, { s with nextId := s.nextId + 1 })

/-- `GetEventType` -/
def getEventType (s : InputHandlerManager) : HandleEventType :=
  s.inputHandlers.foldl (fun eventType handler => eventType ||| handler.eventType)
    handleEventTypeNone

def addLocal (s : InputHandlerManager) (handlerId : Int) (handlerType : InputHandlerType)
    (eventType : HandleEventType) (consumer : Nat) : Int × InputHandlerManager :=
  if s.inputHandlers.any fun handler => handler.handlerId = handlerId then (retErr, s)
  else
    (retOk,
      { s with
        inputHandlers := s.inputHandlers.orderedInsert (fun a b => a.handlerId ≤ b.handlerId)
          ⟨handlerId, handlerType, eventType, consumer⟩ })

def removeLocal (s : InputHandlerManager) (handlerId : Int) (handlerType : InputHandlerType) :
    Int × InputHandlerManager :=
  match s.inputHandlers.find? fun handler => handler.handlerId = handlerId with
  | none => (retErr, s)
  | some handler =>
      if handlerType ≠ handler.handlerType then (retErr, s)
      else
        (retOk,
          { s with
            inputHandlers := s.inputHandlers.filter fun other => other.handlerId ≠ handlerId })

/-- `AddHandler` up to the request: the id or the error, and the mask the
server is asked for, if it is asked. -/
def prepareHandler (s : InputHandlerManager) (handlerType : InputHandlerType) (consumer : Nat)
    (eventType : HandleEventType) : Int × Option HandleEventType × InputHandlerManager :=
  if maxNInputHandlers ≤ s.inputHandlers.length then (errorExceedMaxCount, none, s)
  else
    let r := s.getNextId
    let handlerId := r.1
    let s := r.2
    if handlerId = invalidHandlerId then (invalidHandlerId, none, s)
    else if eventType = handleEventTypeNone then (invalidHandlerId, none, s)
    else
      let currentType := s.getEventType
      let added := s.addLocal handlerId handlerType eventType consumer
      if added.1 = retOk then
        let newType := added.2.getEventType
        (handlerId, if currentType ≠ newType then some newType else none, added.2)
      else (invalidHandlerId, none, added.2)

/-- `AddHandler` after the request, with the server's answer. -/
def finishHandler (s : InputHandlerManager) (handlerId : Int) (handlerType : InputHandlerType)
    (ret : Int) : Int × InputHandlerManager :=
  if ret ≠ retOk then (ret, (s.removeLocal handlerId handlerType).2) else (handlerId, s)

/-- `RemoveHandler`, and the mask the server is asked to keep. -/
def removeHandler (s : InputHandlerManager) (handlerId : Int) (handlerType : InputHandlerType) :
    Option HandleEventType × InputHandlerManager :=
  let currentType := s.getEventType
  let removed := s.removeLocal handlerId handlerType
  if removed.1 = retOk then
    let newType := removed.2.getEventType
    (if currentType ≠ newType then some newType else none, removed.2)
  else (none, removed.2)

/-! ## Events -/

/-- `OnInputEvent` of a key event: the handlers it is passed to. -/
def onKeyEvent (s : InputHandlerManager) : List Handler :=
  s.inputHandlers.filter fun handler => handles handler.eventType handleEventTypeKey

/-- The loop of `GetConsumerInfos`, which keeps one consumer for an id. -/
def consumersOf (infos : List Handler) : List Handler → List Handler
  | [] => infos
  | handler :: handlers =>
      if !handles handler.eventType handleEventTypePointer then consumersOf infos handlers
      else if infos.any fun info => info.handlerId = handler.handlerId then
        consumersOf infos handlers
      else consumersOf (infos ++ [handler]) handlers

/-- `GetConsumerInfos` in a process with a token of the type given. -/
def getConsumerInfos (tokenType : Int) (s : InputHandlerManager) (sourceType eventId : Int32) :
    List Handler × InputHandlerManager :=
  let infos := consumersOf [] s.inputHandlers
  if infos.length = 0 then (infos, s)
  else if tokenType ≠ tokenHap then (infos, s)
  else
    let s :=
      if sourceType = sourceTypeMouse then
        { s with mouseEventIds := s.mouseEventIds.insert eventId }
      else s
    if sourceType = sourceTypeTouchscreen then
      match s.processedEvents eventId with
      | some _ => (infos, s)
      | none =>
          (infos,
            { s with
              processedEvents := Function.update s.processedEvents eventId (some infos.length) })
    else (infos, s)

/-- `OnDispatchEventProcessed`, and the ids of the `MARK_PROCESS` it sends. -/
def onDispatchEventProcessed (s : InputHandlerManager) (eventId : Int32) :
    List Int32 × InputHandlerManager :=
  if eventId ∈ s.mouseEventIds then
    ([], { s with mouseEventIds := s.mouseEventIds.filter fun id => id ≠ eventId })
  else
    match s.processedEvents eventId with
    | none => ([], s)
    | some count =>
        if 0 < count - 1 then
          ([], { s with
            processedEvents := Function.update s.processedEvents eventId (some (count - 1)) })
        else
          ([eventId],
            { s with processedEvents := Function.update s.processedEvents eventId none })

end InputHandlerManager

end FtMmi.InputHandler
