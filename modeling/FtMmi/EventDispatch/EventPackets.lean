/-
FtMmi.EventDispatch.EventPackets — the packets in which the server sends
events, and what the client reads from them: `HandlePointerEventInner` and
`DispatchKeyEventPid` of `EventDispatchHandler`, `NotifySubscriber`, the
`SendToClient` of monitors and interceptors, and the functions of
`client_msg_handler.cpp`.

A sender gives what is handed to the kernel. Whether `TriggerANR` holds a
session back and `CheckPointerEvent` takes an event is an argument. The
report of an invalid descriptor to the system log is left out: no session
has one.

A receiver gives what it passes on. It starts on a new event at the time
`now`; its uninitialised locals are an argument.
-/
import FtMmi.Event.KeyEventRoundTrip
import FtMmi.EventDispatch.EventDispatchHandler
import FtMmi.InputHandler.SessionHandlers
import FtMmi.KeySubscriber.KeySubscriberHandler
import FtMmi.Socket.SendMsg

namespace FtMmi.EventDispatch

open FtMmi.Event
open FtMmi.InputHandler
open FtMmi.KeySubscriber
open FtMmi.Lib
open FtMmi.Network
open FtMmi.Server
open FtMmi.Socket
open FtMmi.WindowManager

/-! ## Messages -/

/-- `MmiMessageId::ON_SUBSCRIBE_KEY` -/
def onSubscribeKeyMsg : Int32 := 9

def onKeyEventMsg : Int32 := 10

def onPointerEventMsg : Int32 := 11

def reportKeyEventMsg : Int32 := 12

def reportPointerEventMsg : Int32 := 13

/-- The value of the enumeration. -/
def handlerTypeValue : InputHandlerType → Int32
  | .none => 0
  | .interceptor => 1
  | .monitor => 2

/-- A new packet with the message id, and what a program over it returns. -/
def NetPacket.fill {α : Type} (msgId : Int32) (m : PacketM α) : α × NetPacket :=
  let r := m.run (NetPacket.create msgId).toStreamBuffer
  (r.1, { r.2 with msgId })

/-! ## Sending -/

/-- The sessions, and what the calls of `send` come back with. -/
structure Outlet where
  build : Build
  server : UDSServer
  outcome : Nat → SendOutcome

/-- `session->SendMsg(pkt)` -/
def Outlet.sendTo (out : Outlet) (session : Session) (pkt : NetPacket) : SendResult :=
  UDSSession.sendMsg out.build session.fd out.outcome pkt

/-- `UDSServer::SendMsg` -/
def Outlet.sendMsg (out : Outlet) (fd : Int) (pkt : NetPacket) : SendResult :=
  if fd < 0 then .refused
  else
    match out.server.getSession fd with
    | none => .refused
    | some ses => out.sendTo ses pkt

/-- The check of a packet before it is sent, in `DispatchKeyEventPid` and
`NotifySubscriber`. -/
def Outlet.sendChecked (out : Outlet) (fd : Int32) (pkt : NetPacket) : SendResult :=
  if pkt.chkRWError then .refused else out.sendMsg fd.toInt pkt

namespace EventDispatchHandler

/-- `DispatchKeyEventPid` for the descriptor from `UpdateTarget`. The result of
`KeyEventToNetPacket` is not looked at. -/
def dispatchKeyEventPid (out : Outlet) (fd : Int32) (blocked : Bool) (key : KeyEvent) :
    SendResult :=
  match out.server.getSession fd.toInt with
  | none => .refused
  | some _ =>
      if blocked then .refused
      else
        out.sendChecked fd (NetPacket.fill onKeyEventMsg do
          let _ ← keyEventToNetPacket key
          push fd).2

/-- `HandlePointerEventInner` for the descriptor from `GetClientFd`. The result of
`Marshalling` is not looked at. -/
def handlePointerEventInner (out : Outlet) (group : DisplayGroupInfo) (fd : Int)
    (filtered blocked : Bool) (point : PointerEvent) : SendResult :=
  if filtered then .refused
  else
    match out.server.getSession fd with
    | none => .refused
    | some _ =>
        if blocked then .refused
        else
          let pointerEvent := copyFor group (out.server.getClientPid fd) point
          out.sendMsg fd (NetPacket.fill onPointerEventMsg (marshalling pointerEvent)).2

end EventDispatchHandler

namespace KeySubscriberHandler

/-- `NotifySubscriber`. The result of `KeyEventToNetPacket` is not looked at. -/
def notifySubscriber (out : Outlet) (keyEvent : KeyEvent)
    (subscriber : Subscriber) : SendResult :=
  let fd := Int32.ofInt subscriber.sess.fd
  out.sendChecked fd (NetPacket.fill onSubscribeKeyMsg do
    let _ ← keyEventToNetPacket keyEvent
    push fd
    push subscriber.id).2

end KeySubscriberHandler

/-! ## Reports to monitors and interceptors -/

/-- The handler type, and the event behind it. -/
def writeReport (handlerType : InputHandlerType) (writeEvent : PacketM Int) : PacketM Int := do
  push (handlerTypeValue handlerType)
  if (← rwError) then pure retErr else writeEvent

/-- What all four `SendToClient` do with a packet. -/
def sendReport (out : Outlet) (session : Session) (msgId : Int32) (writeEvent : PacketM Int)
    (handlerType : InputHandlerType) : SendResult :=
  let r := NetPacket.fill msgId (writeReport handlerType writeEvent)
  if r.1 ≠ retOk then .refused else out.sendTo session r.2

namespace EventMonitorHandler

/-- `SessionHandler::SendToClient` of a key event -/
def sendKeyToClient (out : Outlet) (handlerType : InputHandlerType) (session : Session)
    (keyEvent : KeyEvent) : SendResult :=
  sendReport out session reportKeyEventMsg (keyEventToNetPacket keyEvent) handlerType

/-- `SessionHandler::SendToClient` of a pointer event. Only this one asks `TriggerANR`, and
only for a touch. -/
def sendPointerToClient (out : Outlet) (handlerType : InputHandlerType) (session : Session)
    (blocked : Bool) (pointerEvent : PointerEvent) : SendResult :=
  if pointerEvent.sourceType = sourceTypeTouchscreen ∧ blocked = true then .refused
  else sendReport out session reportPointerEventMsg (marshalling pointerEvent) handlerType

end EventMonitorHandler

namespace EventInterceptorHandler

def sendKeyToClient (out : Outlet) (handlerType : InputHandlerType) (session : Session)
    (keyEvent : KeyEvent) : SendResult :=
  sendReport out session reportKeyEventMsg (keyEventToNetPacket keyEvent) handlerType

def sendPointerToClient (out : Outlet) (handlerType : InputHandlerType) (session : Session)
    (pointerEvent : PointerEvent) : SendResult :=
  sendReport out session reportPointerEventMsg (marshalling pointerEvent) handlerType

end EventInterceptorHandler

/-! ## Receiving -/

inductive ReceiveError where
  | retErr
  | packetReadFail
  deriving DecidableEq, Repr

/-- The clock and the uninitialised locals of a receiver. -/
structure Receiving where
  now : Int64
  unicode : UInt32
  junk : Uninit
  handlerType : Int32

namespace ClientMsgHandler

/-- `OnKeyEvent`: the event, and the descriptor behind it. -/
def onKeyEvent (env : Receiving) : PacketM (Except ReceiveError (KeyEvent × Int32)) := do
  let r ← netPacketToKeyEvent env.unicode (KeyEvent.create env.now)
  if r.1 ≠ retOk then pure (.error .retErr)
  else
    let fd ← pull (0 : Int32)
    if (← rwError) then pure (.error .packetReadFail) else pure (.ok (r.2, fd))

def onPointerEvent (env : Receiving) : PacketM (Except ReceiveError PointerEvent) := do
  let r ← unmarshalling env.junk (PointerEvent.create env.now)
  if r.1 ≠ retOk then pure (.error .retErr) else pure (.ok r.2)

/-- `OnSubscribeKeyEventCallback`: the event, the descriptor and the id behind it. -/
def onSubscribeKeyEventCallback (env : Receiving) :
    PacketM (Except ReceiveError (KeyEvent × Int32 × Int32)) := do
  let r ← netPacketToKeyEvent env.unicode (KeyEvent.create env.now)
  if r.1 ≠ retOk then pure (.error .retErr)
  else
    let fd ← pull (-1 : Int32)
    let subscribeId ← pull (-1 : Int32)
    if (← rwError) then pure (.error .packetReadFail) else pure (.ok (r.2, fd, subscribeId))

/-- The handler type of a report and the event behind it. -/
def readReport {α : Type} (handlerType : Int32) (readEvent : PacketM (Int × α)) :
    PacketM (Except ReceiveError (Int32 × α)) := do
  let handlerType ← pull handlerType
  if (← rwError) then pure (.error .retErr)
  else
    let r ← readEvent
    if r.1 ≠ retOk then pure (.error .retErr) else pure (.ok (handlerType, r.2))

def reportKeyEvent (env : Receiving) : PacketM (Except ReceiveError (Int32 × KeyEvent)) :=
  readReport env.handlerType (netPacketToKeyEvent env.unicode (KeyEvent.create env.now))

def reportPointerEvent (env : Receiving) : PacketM (Except ReceiveError (Int32 × PointerEvent)) :=
  readReport env.handlerType (unmarshalling env.junk (PointerEvent.create env.now))

end ClientMsgHandler

end FtMmi.EventDispatch
