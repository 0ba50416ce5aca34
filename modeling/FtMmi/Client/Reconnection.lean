/-
FtMmi.Client.Reconnection — the connections of a client, one after the
other (`MMIClient` in `mmi_client.cpp`, `UDSClient::ConnectTo`).

A connection that is lost is closed, and a task is posted that makes the
next one. The receive buffer belongs to the client and not to a connection,
and nothing empties it: what is left of a frame that was cut stands before
the first frame of the next connection. `deliversFrames_of_whole` is about
the runs where nothing is left.

Every task that is posted is taken; the callbacks that an application
registers for the connection are left out.
-/
import FtMmi.Client.MMIClient

namespace FtMmi.Client

open FtMmi.Lib
open FtMmi.Network
open FtMmi.Server
open FtMmi.Socket

/-! ## The client -/

/-- The thread of an event handler: the client's own, or one that the
application has given it. -/
inductive EventRunner where
  | own
  | given
  deriving DecidableEq, Repr

structure MMIClient where
  fd : Option Nat
  isExit : Bool
  isRunning : Bool
  isConnected : Bool
  isListening : Bool
  eventHandler : Option EventRunner
  /-- the posted tasks of `OnReconnect` -/
  reconnects : Nat
  /-- `circBuf_`, and the packets handed to `recvFun_` -/
  receiver : Receiver

/-- What `AllocSocketPair` and `GetClientSocketFdOfAllocedSocketPair` come
back with: no answer, an invalid descriptor or a connection. -/
abbrev SocketPair := Option (Option Nat)

namespace MMIClient

/-- A client that is not started. -/
def create (eventHandler : Option EventRunner) : MMIClient where
  fd := none
  isExit := false
  isRunning := false
  isConnected := false
  isListening := false
  eventHandler
  reconnects := 0
  receiver := .create

/-- `listens`: the event handler takes the listener. -/
def addFdListener (s : MMIClient) (listens : Bool) : Bool × MMIClient :=
  if s.fd.isSome && s.eventHandler.isSome && listens then (true, { s with isRunning := true })
  else (false, s)

def onConnected (s : MMIClient) (listens : Bool) : MMIClient :=
  let s := { s with isConnected := true }
  if !s.isExit && !s.isRunning && s.fd.isSome && s.eventHandler.isSome then
    let r := s.addFdListener listens
    if r.1 then { r.2 with isListening := true } else r.2
  else s

/-- If `RET_OK` is returned. -/
def connectTo (s : MMIClient) (socket : SocketPair) (listens : Bool) : Bool × MMIClient :=
  match socket with
  | none => (false, s)
  | some none => (false, { s with fd := none })
  | some (some fd) => (true, { s with fd := some fd }.onConnected listens)

def postReconnect (s : MMIClient) : MMIClient := { s with reconnects := s.reconnects + 1 }

def startEventRunner (s : MMIClient) (listens : Bool) : MMIClient :=
  let s := { s with eventHandler := some (s.eventHandler.getD .own) }
  if s.isConnected && s.fd.isSome then
    if s.isListening then s else (s.addFdListener listens).2
  else s.postReconnect

/-- `Start` -/
def start (s : MMIClient) (socket : SocketPair) (listens : Bool) : MMIClient :=
  (s.connectTo socket listens).2.startEventRunner listens

/-- A posted task of `OnReconnect` runs. -/
def onReconnect (s : MMIClient) (socket : SocketPair) (listens : Bool) : Bool × MMIClient :=
  let r := { s with reconnects := s.reconnects - 1 }.connectTo socket listens
  if r.1 then r else (false, r.2.postReconnect)

/-- On its own thread the client drops all tasks. -/
def delFdListener (s : MMIClient) : MMIClient :=
  match s.eventHandler with
  | none => s
  | some .own => { s with reconnects := 0, isRunning := false }
  | some .given => { s with isRunning := false }

def onDisconnected (s : MMIClient) : MMIClient :=
  let s := { s with isConnected := false, isListening := false }.delFdListener
  let s := { s with fd := none }
  if !s.isExit && s.eventHandler.isSome then s.postReconnect else s

end MMIClient

/-! ## Connections -/

/-- What happens to a client. The frames are those that the server sends on
the connection, if there will be one. -/
inductive ClientInput where
  | onRecvMsg (chunk : List UInt8)
  | onDisconnect
  | onReconnect (socket : SocketPair) (listens : Bool) (frames : List Frame)

/-- The client, and a note of the connection there is. -/
structure Watched where
  client : MMIClient
  /-- the frames that the server sends -/
  frames : List Frame
  /-- what has arrived of them -/
  bytes : List UInt8
  /-- how many packets were delivered before the connection -/
  earlier : Nat

namespace Watched

def start (eventHandler : Option EventRunner) (socket : SocketPair) (listens : Bool)
    (frames : List Frame) : Watched where
  client := (MMIClient.create eventHandler).start socket listens
  frames
  bytes := []
  earlier := 0

def step (w : Watched) : ClientInput → Watched
  | .onRecvMsg chunk =>
      if w.client.isRunning then
        { w with
          client := { w.client with receiver := onRecvMsg w.client.receiver chunk }
          bytes := w.bytes ++ chunk }
      else w
  | .onDisconnect => if w.client.isRunning then { w with client := w.client.onDisconnected } else w
  | .onReconnect socket listens frames =>
      if w.client.reconnects = 0 then w
      else
        let r := w.client.onReconnect socket listens
        if r.1 then
          { client := r.2, frames, bytes := [], earlier := r.2.receiver.delivered.length }
        else { w with client := r.2 }

/-- How many frames have arrived completely. -/
def complete (w : Watched) : Nat := framesWithin (w.frames.map Frame.length) w.bytes.length

end Watched

/-- The packets delivered on the connection are its complete frames. -/
def DeliversFrames (w : Watched) : Prop :=
  (w.client.receiver.delivered.drop w.earlier).map packetContent
    = (w.frames.take w.complete).map Frame.content

/-- What arrives is the beginning of the connection's stream, in the pieces
that `recv` returns. -/
def Streams (w : Watched) : ClientInput → Prop
  | .onRecvMsg chunk =>
      (1 ≤ chunk.length ∧ chunk.length ≤ maxPacketBufSize) ∧
        w.bytes ++ chunk <+: Frame.stream w.frames
  | _ => True

/-- A piece completes no more frames than one call takes out, and a connection
begins with nothing in the buffer. -/
def Whole (w : Watched) : ClientInput → Prop
  | .onRecvMsg chunk =>
      framesWithin (w.frames.map Frame.length) (w.bytes ++ chunk).length
        ≤ w.complete + onceProcessNetpacketLimit
  | .onDisconnect => True
  | .onReconnect .. => w.client.receiver.circBuf.unread = []

instance (w : Watched) : Decidable (DeliversFrames w) :=
  inferInstanceAs (Decidable (_ = _))

instance (w : Watched) (i : ClientInput) : Decidable (Streams w i) := by
  unfold Streams
  split <;> infer_instance

instance (w : Watched) (i : ClientInput) : Decidable (Whole w i) := by
  unfold Whole
  split <;> infer_instance

/-! ## The invariant -/

/-- The buffer holds what is left of the connection's stream. -/
structure InFrame (w : Watched) : Prop where
  earlier : w.earlier ≤ w.client.receiver.delivered.length
  stream : w.bytes <+: Frame.stream w.frames
  holds : w.client.receiver.circBuf.Holds (w.bytes.drop (frameEnd w.frames w.complete))
  delivers : DeliversFrames w

theorem complete_le (w : Watched) : w.complete ≤ w.frames.length := by
  have h := framesWithin_le_length (w.frames.map Frame.length) w.bytes.length
  rwa [List.length_map] at h

theorem frameEnd_complete_le (w : Watched) : frameEnd w.frames w.complete ≤ w.bytes.length :=
  prefixBytes_framesWithin_le _ _

/-- What is left is shorter than a frame. -/
theorem leftover_lt {w : Watched} (h : InFrame w) :
    (w.bytes.drop (frameEnd w.frames w.complete)).length < maxPacketBufSize := by
  have hmax := maxPacketBufSize_eq
  rw [List.length_drop]
  rcases Nat.lt_or_eq_of_le (complete_le w) with hlt | heq
  · have hend := lt_prefixBytes_succ (w.frames.map Frame.length) w.bytes.length
      (by rw [List.length_map]; exact hlt)
    have hsucc := frameEnd_succ w.frames hlt
    have hle := frame_length_le w.frames[w.complete]
    have hcut : w.bytes.length < frameEnd w.frames (w.complete + 1) := hend
    omega
  · have hall := h.stream.length_le
    have hwhole := stream_length w.frames w.complete
    rw [List.take_of_length_le (by omega)] at hwhole
    omega

/-- A piece is kept, and the frames it completes are delivered, up to the
limit. -/
theorem onRecvMsg_spec {w : Watched} {chunk : List UInt8} (h : InFrame w)
    (hin : Streams w (.onRecvMsg chunk)) :
    let n := min onceProcessNetpacketLimit
      (framesWithin (w.frames.map Frame.length) (w.bytes ++ chunk).length - w.complete)
    ∃ pkts, (onRecvMsg w.client.receiver chunk).delivered = w.client.receiver.delivered ++ pkts ∧
      pkts.map packetContent = ((w.frames.drop w.complete).take n).map Frame.content ∧
      (onRecvMsg w.client.receiver chunk).circBuf.Holds
        ((w.bytes ++ chunk).drop (frameEnd w.frames (w.complete + n))) := by
  obtain ⟨hsize, hpre⟩ := hin
  have hne : chunk ≠ [] := List.ne_nil_of_length_pos hsize.1
  have hrest : w.bytes.drop (frameEnd w.frames w.complete) ++ chunk
      = (w.bytes ++ chunk).drop (frameEnd w.frames w.complete) :=
    (List.drop_append_of_le_length (frameEnd_complete_le w)).symm
  have hmono : w.complete ≤
      framesWithin (w.frames.map Frame.length) (w.bytes ++ chunk).length :=
    framesWithin_mono _ (by rw [List.length_append]; omega)
  rw [onRecvMsg_eq _ hsize]
  rcases CircleStreamBuffer.write_cases h.holds hne with ⟨_, _, hbuf⟩ | ⟨hfull, _, _⟩
  · rw [hrest] at hbuf
    have hdrop : (w.bytes ++ chunk).drop (frameEnd w.frames w.complete)
        <+: Frame.stream (w.frames.drop w.complete) := by
      rw [← stream_drop]
      exact hpre.drop _
    have hspec := readPackets_spec onceProcessNetpacketLimit _ _ _ hbuf hdrop
    have hcount : framesWithin ((w.frames.drop w.complete).map Frame.length)
        ((w.bytes ++ chunk).drop (frameEnd w.frames w.complete)).length
        = framesWithin (w.frames.map Frame.length) (w.bytes ++ chunk).length - w.complete := by
      rw [List.length_drop, List.map_drop]
      exact framesWithin_drop _ _ _ hmono
    rw [hcount] at hspec
    refine ⟨_, rfl, hspec.1, ?_⟩
    rw [frameEnd, prefixBytes_add, ← List.map_drop, ← List.drop_drop]
    exact hspec.2
  · have hleft := leftover_lt h
    have hmax : maxStreamBufSize = 2 * maxPacketBufSize := rfl
    omega

theorem inFrame_recv {w : Watched} {chunk : List UInt8} (h : InFrame w)
    (hin : Streams w (.onRecvMsg chunk)) (hwhole : Whole w (.onRecvMsg chunk)) :
    InFrame { w with
      client := { w.client with receiver := onRecvMsg w.client.receiver chunk }
      bytes := w.bytes ++ chunk } := by
  have hmono : w.complete ≤
      framesWithin (w.frames.map Frame.length) (w.bytes ++ chunk).length :=
    framesWithin_mono _ (by rw [List.length_append]; omega)
  obtain ⟨pkts, hpkts, hcontent, hholds⟩ := onRecvMsg_spec h hin
  -- the limit is not reached
  have hlimit : min onceProcessNetpacketLimit
      (framesWithin (w.frames.map Frame.length) (w.bytes ++ chunk).length - w.complete)
      = framesWithin (w.frames.map Frame.length) (w.bytes ++ chunk).length - w.complete := by
    have hle : framesWithin (w.frames.map Frame.length) (w.bytes ++ chunk).length
        ≤ w.complete + onceProcessNetpacketLimit := hwhole
    omega
  rw [hlimit] at hcontent hholds
  rw [Nat.add_sub_cancel' hmono] at hholds
  have hlen : w.earlier ≤ (onRecvMsg w.client.receiver chunk).delivered.length := by
    rw [hpkts, List.length_append]
    exact Nat.le_add_right_of_le h.earlier
  refine ⟨hlen, hin.2, hholds, ?_⟩
  have hbefore : (w.client.receiver.delivered.drop w.earlier).map packetContent
      = (w.frames.take w.complete).map Frame.content := h.delivers
  show ((onRecvMsg w.client.receiver chunk).delivered.drop w.earlier).map packetContent
    = (w.frames.take (framesWithin (w.frames.map Frame.length)
        (w.bytes ++ chunk).length)).map Frame.content
  rw [hpkts, List.drop_append_of_le_length h.earlier, List.map_append, hbefore, hcontent,
    ← List.map_append, ← List.take_add, Nat.add_sub_cancel' hmono]

/-! ## Nothing but `OnRecvMsg` touches the buffer -/

@[simp] theorem receiver_addFdListener (s : MMIClient) (listens : Bool) :
    (s.addFdListener listens).2.receiver = s.receiver := by
  unfold MMIClient.addFdListener
  split <;> rfl

@[simp] theorem receiver_onConnected (s : MMIClient) (listens : Bool) :
    (s.onConnected listens).receiver = s.receiver := by
  unfold MMIClient.onConnected
  dsimp only
  split_ifs <;> simp

@[simp] theorem receiver_connectTo (s : MMIClient) (socket : SocketPair) (listens : Bool) :
    (s.connectTo socket listens).2.receiver = s.receiver := by
  unfold MMIClient.connectTo
  split <;> simp

@[simp] theorem receiver_start (s : MMIClient) (socket : SocketPair) (listens : Bool) :
    (s.start socket listens).receiver = s.receiver := by
  unfold MMIClient.start MMIClient.startEventRunner MMIClient.postReconnect
  dsimp only
  split_ifs <;> simp

@[simp] theorem receiver_onReconnect (s : MMIClient) (socket : SocketPair) (listens : Bool) :
    (s.onReconnect socket listens).2.receiver = s.receiver := by
  unfold MMIClient.onReconnect MMIClient.postReconnect
  dsimp only
  split_ifs <;> simp

@[simp] theorem receiver_onDisconnected (s : MMIClient) :
    s.onDisconnected.receiver = s.receiver := by
  unfold MMIClient.onDisconnected MMIClient.postReconnect MMIClient.delFdListener
  dsimp only
  split_ifs <;> split <;> rfl

/-! ## Runs -/

theorem inFrame_of_receiver {w : Watched} {client : MMIClient} (h : InFrame w)
    (hsame : client.receiver = w.client.receiver) : InFrame { w with client } := by
  refine ⟨?_, h.stream, ?_, ?_⟩
  · rw [hsame]
    exact h.earlier
  · rw [hsame]
    exact h.holds
  · unfold DeliversFrames
    rw [hsame]
    exact h.delivers

/-- A connection that has brought nothing yet. -/
theorem inFrame_connected (client : MMIClient) (frames : List Frame)
    (h : client.receiver.circBuf.Holds []) :
    InFrame ⟨client, frames, [], client.receiver.delivered.length⟩ := by
  have hnone : (Watched.mk client frames [] client.receiver.delivered.length).complete = 0 := by
    refine framesWithin_of_short fun frame _ => ?_
    rw [frame.length_eq, List.length_nil]
    omega
  refine ⟨Nat.le_refl _, List.nil_prefix, ?_, ?_⟩
  · rw [List.drop_nil]
    exact h
  · unfold DeliversFrames
    rw [hnone, List.drop_length]
    rfl

theorem inFrame_step (w : Watched) (i : ClientInput) (h : InFrame w)
    (hi : Streams w i ∧ Whole w i) : InFrame (w.step i) := by
  cases i with
  | onRecvMsg chunk =>
    simp only [Watched.step]
    split
    · exact inFrame_recv h hi.1 hi.2
    · exact h
  | onDisconnect =>
    simp only [Watched.step]
    split
    · exact inFrame_of_receiver h (receiver_onDisconnected _)
    · exact h
  | onReconnect socket listens frames =>
    have hempty : w.client.receiver.circBuf.unread = [] := hi.2
    have hsame := receiver_onReconnect w.client socket listens
    simp only [Watched.step]
    split
    · exact h
    · split
      · refine inFrame_connected _ frames ?_
        rw [hsame]
        exact ⟨h.holds.ok, h.holds.le, hempty⟩
      · exact inFrame_of_receiver h hsame

theorem inFrame_start (eventHandler : Option EventRunner) (socket : SocketPair) (listens : Bool)
    (frames : List Frame) : InFrame (Watched.start eventHandler socket listens frames) := by
  have hsame := receiver_start (MMIClient.create eventHandler) socket listens
  have h := inFrame_connected ((MMIClient.create eventHandler).start socket listens) frames
    (by rw [hsame]; exact StreamBuffer.create_holds)
  rw [hsame] at h
  exact h

/-- Whatever the server sends on a connection, and however it comes, the
packets delivered are its complete frames at every moment of a run in which no
connection begins behind the rest of another, and no piece completes more than
`ONCE_PROCESS_NETPACKET_LIMIT` frames. -/
theorem deliversFrames_of_whole (eventHandler : Option EventRunner) (socket : SocketPair)
    (listens : Bool) (frames : List Frame) (is : List ClientInput)
    (hstreams : AllSteps Watched.step Streams (.start eventHandler socket listens frames) is)
    (hwhole : AllSteps Watched.step Whole (.start eventHandler socket listens frames) is) :
    Always Watched.step DeliversFrames (.start eventHandler socket listens frames) is :=
  (always_of_allSteps inFrame_step is _ (inFrame_start eventHandler socket listens frames)
    (allSteps_and.mpr ⟨hstreams, hwhole⟩)).mono fun _ h => h.delivers

/-- A frame comes in two pieces, the server is lost, and a frame comes from
the next one. -/
def betweenFrames : List ClientInput :=
  [.onRecvMsg (ping.bytes.take 3), .onRecvMsg (ping.bytes.drop 3), .onDisconnect,
    .onReconnect (some (some 8)) true [ping], .onRecvMsg ping.bytes]

theorem deliversFrames_of_whole_betweenFrames :
    (AllSteps Watched.step Streams (.start none (some (some 7)) true [ping]) betweenFrames ∧
      AllSteps Watched.step Whole (.start none (some (some 7)) true [ping]) betweenFrames) ∧
      Always Watched.step DeliversFrames (.start none (some (some 7)) true [ping])
        betweenFrames := by
  have hstreams : AllSteps Watched.step Streams (.start none (some (some 7)) true [ping])
      betweenFrames := by decide +kernel
  have hwhole : AllSteps Watched.step Whole (.start none (some (some 7)) true [ping])
      betweenFrames := by decide +kernel
  exact ⟨⟨hstreams, hwhole⟩,
    deliversFrames_of_whole none (some (some 7)) true [ping] betweenFrames hstreams hwhole⟩

/-- A frame with the bytes of a `ping` for a payload. -/
def wrapped : Frame := ⟨2, ping.bytes, by decide⟩

/-- Its header has come when the server is lost. The `ping` of the next server
is taken for its payload. -/
def withinFrame : List ClientInput :=
  [.onRecvMsg (wrapped.bytes.take headSize), .onDisconnect,
    .onReconnect (some (some 8)) true [ping], .onRecvMsg ping.bytes]

theorem counterexample_deliversFrames :
    AllSteps Watched.step Streams (.start none (some (some 7)) true [wrapped]) withinFrame ∧
      ¬ Always Watched.step DeliversFrames (.start none (some (some 7)) true [wrapped])
        withinFrame := by
  refine ⟨by decide +kernel, fun h => ?_⟩
  exact absurd h.last (by decide +kernel)

end FtMmi.Client
