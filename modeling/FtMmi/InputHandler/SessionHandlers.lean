/-
FtMmi.InputHandler.SessionHandlers — the handlers the sessions have with
the server. `MonitorCollection` and `InterceptorCollection` keep them in a
set with one entry for a session and change it in the same way
(`event_monitor_handler.cpp`, `event_interceptor_handler.cpp`).

Sessions are known by the identity of the object. The set is ordered by
address; nothing but the order in which the sessions are written to
depends on that.
-/
import FtMmi.Util.Config

namespace FtMmi.InputHandler

/-! ## Masks -/

inductive InputHandlerType where
  | none
  | interceptor
  | monitor
  deriving DecidableEq, Repr

/-- `HandleEventType`: a mask of event types. -/
abbrev HandleEventType := UInt32

def handleEventTypeNone : HandleEventType := 0

def handleEventTypeKey : HandleEventType := 1

def handleEventTypePointer : HandleEventType := 2

def handleEventTypeAll : HandleEventType := handleEventTypeKey ||| handleEventTypePointer

/-- The test of the loops over handlers. -/
def handles (eventType type : HandleEventType) : Bool := eventType &&& type = type

def maxNInputHandlers : Nat := 16

def maxNInputMonitors : Nat := maxNInputHandlers

def maxNInputInterceptors : Nat := maxNInputHandlers

/-! ## The set -/

structure SessionHandler where
  handlerType : InputHandlerType
  eventType : HandleEventType
  session : Nat
  deriving DecidableEq, Repr

/-- The constructor. -/
def SessionHandler.create (handlerType : InputHandlerType) (eventType : HandleEventType)
    (session : Nat) : SessionHandler :=
  ⟨handlerType, eventType &&& handleEventTypeAll, session⟩

/-- `find` -/
def findSession (handlers : List SessionHandler) (session : Nat) : Option SessionHandler :=
  handlers.find? fun handler => handler.session = session

/-- `erase` -/
def eraseSession (handlers : List SessionHandler) (session : Nat) : List SessionHandler :=
  handlers.filter fun handler => handler.session ≠ session

/-- `AddMonitor` and `AddInterceptor` -/
def addSessionHandler (limit : Nat) (handlers : List SessionHandler) (handler : SessionHandler) :
    Int × List SessionHandler :=
  if limit ≤ handlers.length then (retErr, handlers)
  else
    match findSession handlers handler.session with
    | some found =>
        if found.eventType = handler.eventType then (retOk, handlers)
        else (retOk, eraseSession handlers handler.session ++ [handler])
    | none => (retOk, handlers ++ [handler])

/-- `RemoveMonitor` and `RemoveInterceptor`: what is left of the mask stays. -/
def removeSessionHandler (handlers : List SessionHandler) (handler : SessionHandler) :
    List SessionHandler :=
  match findSession handlers handler.session with
  | none => handlers
  | some _ =>
      if handler.eventType = handleEventTypeNone then eraseSession handlers handler.session
      else eraseSession handlers handler.session ++ [handler]

/-- `AddInputHandler` -/
def addInputHandler (limit : Nat) (handlers : List SessionHandler)
    (handlerType : InputHandlerType) (eventType : HandleEventType) (session : Nat) :
    Int × List SessionHandler :=
  if eventType &&& handleEventTypeAll = handleEventTypeNone then (retErr, handlers)
  else addSessionHandler limit handlers (.create handlerType eventType session)

/-- `RemoveInputHandler` of the handler for the type `own`. -/
def removeInputHandler (own : InputHandlerType) (handlers : List SessionHandler)
    (handlerType : InputHandlerType) (eventType : HandleEventType) (session : Nat) :
    List SessionHandler :=
  if handlerType = own then
    removeSessionHandler handlers (.create handlerType eventType session)
  else handlers

end FtMmi.InputHandler
