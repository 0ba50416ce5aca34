/-
FtMmi.Server.Receiver — the receiving side of a server connection
(`UDSServer::OnEpollRecv` in `uds_server.cpp`).

The state is the receive buffer of the connection, the packets handed on
so far and whether an append was ever refused; a refused append is only
logged, and its bytes are lost. `recvChunk` is what one successful `recv`
leads to. `onEpollRecv` is the loop around it, and an epoll event is a
run of chunks (`onEpollRecv_eq`).

A call of `OnReadPackets` handles at most `ONCE_PROCESS_NETPACKET_LIMIT`
packets, so small frames can arrive faster than they are taken out. The
backlog is the recurrence `served` of `FtMmi.Lib.FrameStream`, and
`keepsEveryPacket_iff` states exactly, in terms of the frames and of the
cut alone, when it never outgrows the buffer.
-/
import FtMmi.Lib.StepSystem
import FtMmi.Socket.ReadPackets

namespace FtMmi.Server

open FtMmi.Lib
open FtMmi.Network
open FtMmi.Socket

/-! ## Receiving -/

structure Receiver where
  circBuf : StreamBuffer
  delivered : List NetPacket
  refused : Bool

/-- A new connection. -/
def Receiver.create : Receiver where
  circBuf := .create
  delivered := []
  refused := false

/-- The received bytes are appended and `OnReadPackets` is called, whether
the append succeeded or not. -/
def recvChunk (r : Receiver) (chunk : List UInt8) : Receiver :=
  let w := CircleStreamBuffer.write r.circBuf chunk
  let p := onReadPackets w.2
  { circBuf := p.2, delivered := r.delivered ++ p.1, refused := r.refused || !w.1 }

/-- What a call of `recv` comes back with. -/
inductive RecvResult where
  | data (chunk : List UInt8)
  | again
  | fail
  | closed

/-- The loop of `OnEpollRecv` over the results of its calls of `recv`. When
the peer has closed, the session is released and the connection is over. -/
def recvLoop : Nat → List RecvResult → Receiver → Receiver
  | 0, _, r => r
  | _ + 1, [], r => r
  | n + 1, .data chunk :: results, r =>
      let r := recvChunk r chunk
      if chunk.length < maxPacketBufSize then r else recvLoop n results r
  | n + 1, .again :: results, r => recvLoop n results r
  | _ + 1, .fail :: _, r => r
  | _ + 1, .closed :: _, r => r

def onEpollRecv (results : List RecvResult) (r : Receiver) : Receiver :=
  recvLoop maxRecvLimit results r

/-- The chunks the loop receives. -/
def recvChunks : Nat → List RecvResult → List (List UInt8)
  | 0, _ => []
  | _ + 1, [] => []
  | n + 1, .data chunk :: results =>
      if chunk.length < maxPacketBufSize then [chunk] else chunk :: recvChunks n results
  | n + 1, .again :: results => recvChunks n results
  | _ + 1, .fail :: _ => []
  | _ + 1, .closed :: _ => []

theorem recvLoop_eq (n : Nat) : ∀ (results : List RecvResult) (r : Receiver),
    recvLoop n results r = runFrom recvChunk r (recvChunks n results) := by
  induction n with
  | zero => intro results r; rfl
  | succ n ih =>
    intro results r
    cases results with
    | nil => rfl
    | cons result results =>
      cases result with
      | data chunk =>
        simp only [recvLoop, recvChunks]
        split
        · rfl
        · rw [runFrom_cons, ih]
      | again => exact ih results r
      | fail => rfl
      | closed => rfl

/-- An epoll event is a run of chunks. -/
theorem onEpollRecv_eq (results : List RecvResult) (r : Receiver) :
    onEpollRecv results r = runFrom recvChunk r (recvChunks maxRecvLimit results) :=
  recvLoop_eq maxRecvLimit results r

/-! ## What is to be kept -/

/-- No append was refused, and the packets handed on are the first of the
frames sent. -/
structure KeepsPackets (frames : List Frame) (r : Receiver) : Prop where
  accepted : r.refused = false
  delivered : r.delivered.map packetContent <+: frames.map Frame.content

/-- How many bytes the first `i` chunks bring. -/
def received (chunks : List (List UInt8)) (i : Nat) : Nat := ((chunks.take i).flatten).length

/-- How many frames have arrived completely with the first `i` chunks. -/
def arrived (frames : List Frame) (chunks : List (List UInt8)) (i : Nat) : Nat :=
  framesWithin (frames.map Frame.length) (received chunks i)

/-- How many packets have been handed on after `i` chunks. -/
def handedOn (frames : List Frame) (chunks : List (List UInt8)) (i : Nat) : Nat :=
  served onceProcessNetpacketLimit (arrived frames chunks) i

/-- Where the `k`-th frame ends. -/
def frameEnd (frames : List Frame) (k : Nat) : Nat := prefixBytes (frames.map Frame.length) k

/-- The state after `i` chunks, all of them accepted. -/
structure InStep (frames : List Frame) (chunks : List (List UInt8)) (i : Nat) (r : Receiver) :
    Prop where
  accepted : r.refused = false
  delivered : r.delivered.map packetContent
    = (frames.take (handedOn frames chunks i)).map Frame.content
  holds : r.circBuf.Holds
    (((chunks.take i).flatten).drop (frameEnd frames (handedOn frames chunks i)))

theorem stream_length (frames : List Frame) (k : Nat) :
    (Frame.stream (frames.take k)).length = frameEnd frames k := by
  rw [frameEnd, prefixBytes, ← List.map_take, Frame.stream, List.length_flatMap]
  rfl

theorem stream_drop (frames : List Frame) (k : Nat) :
    (Frame.stream frames).drop (frameEnd frames k) = Frame.stream (frames.drop k) := by
  have hsplit : Frame.stream frames = Frame.stream (frames.take k) ++ Frame.stream (frames.drop k) := by
    rw [Frame.stream, Frame.stream, Frame.stream, ← List.flatMap_append, List.take_append_drop]
  rw [hsplit, ← stream_length, List.drop_left]

theorem received_succ (chunks : List (List UInt8)) {i : Nat} (hi : i < chunks.length) :
    (chunks.take (i + 1)).flatten = (chunks.take i).flatten ++ chunks[i] := by
  rw [List.take_add_one, List.getElem?_eq_getElem hi, List.flatten_append]
  simp

theorem arrived_mono (frames : List Frame) (chunks : List (List UInt8)) {i j : Nat} (h : i ≤ j) :
    arrived frames chunks i ≤ arrived frames chunks j := by
  apply framesWithin_mono
  rw [received, received]
  apply List.IsPrefix.length_le
  exact List.IsPrefix.flatten ((List.take_prefix_take_left h))

theorem handedOn_le (frames : List Frame) (chunks : List (List UInt8)) (i : Nat) :
    handedOn frames chunks i ≤ arrived frames chunks i := by
  have h := served_le onceProcessNetpacketLimit (arrived frames chunks) (Nat.le_refl i)
  rwa [Nat.sub_self, Nat.mul_zero, Nat.add_zero] at h

theorem frameEnd_le (frames : List Frame) (chunks : List (List UInt8)) (i : Nat) :
    frameEnd frames (handedOn frames chunks i) ≤ received chunks i :=
  Nat.le_trans (prefixBytes_mono _ (handedOn_le frames chunks i))
    (prefixBytes_framesWithin_le _ _)

/-! ## One chunk -/

/-- The chunk is accepted precisely if what is left of the earlier ones
leaves room for it; then the connection stays in step. -/
theorem recvChunk_inStep {frames : List Frame} {chunks : List (List UInt8)} {i : Nat}
    {r : Receiver} (hcut : chunks.flatten <+: Frame.stream frames) (hi : i < chunks.length)
    (hne : chunks[i] ≠ []) (hr : InStep frames chunks i r) :
    (received chunks (i + 1)
        ≤ maxStreamBufSize + frameEnd frames (handedOn frames chunks i) ∧
      InStep frames chunks (i + 1) (recvChunk r chunks[i])) ∨
    (maxStreamBufSize + frameEnd frames (handedOn frames chunks i)
        < received chunks (i + 1) ∧
      (recvChunk r chunks[i]).refused = true) := by
  set k := handedOn frames chunks i with hk
  have hle : frameEnd frames k ≤ ((chunks.take i).flatten).length := frameEnd_le frames chunks i
  -- The unread rest of the stream, the new chunk included.
  have hrest : ((chunks.take i).flatten).drop (frameEnd frames k) ++ chunks[i]
      = ((chunks.take (i + 1)).flatten).drop (frameEnd frames k) := by
    rw [received_succ chunks hi, List.drop_append_of_le_length hle]
  have hsize : (((chunks.take i).flatten).drop (frameEnd frames k)).length + (chunks[i]).length
      = received chunks (i + 1) - frameEnd frames k := by
    rw [← List.length_append, hrest, List.length_drop]
    rfl
  have hroom : frameEnd frames k ≤ received chunks (i + 1) := by
    rw [received, received_succ chunks hi, List.length_append]
    omega
  rcases CircleStreamBuffer.write_cases hr.holds hne with ⟨hfit, hok, hbuf⟩ | ⟨hfull, hno, _⟩
  · rw [hsize] at hfit
    refine .inl ⟨by omega, ?_⟩
    rw [hrest] at hbuf
    have hpre : ((chunks.take (i + 1)).flatten).drop (frameEnd frames k)
        <+: Frame.stream (frames.drop k) := by
      rw [← stream_drop]
      apply List.IsPrefix.drop
      exact (List.IsPrefix.flatten (List.take_prefix _ _)).trans hcut
    obtain ⟨hcontent, hleft⟩ := readPackets_spec onceProcessNetpacketLimit (frames.drop k) _ _
      hbuf hpre
    -- The number of packets taken is the next step of the recurrence.
    have hmono : k ≤ arrived frames chunks (i + 1) :=
      Nat.le_trans (handedOn_le frames chunks i) (arrived_mono frames chunks (Nat.le_succ i))
    have hcount : min onceProcessNetpacketLimit (framesWithin ((frames.drop k).map Frame.length)
        (((chunks.take (i + 1)).flatten).drop (frameEnd frames k)).length)
        = handedOn frames chunks (i + 1) - k := by
      rw [List.length_drop, List.map_drop]
      show min _ (framesWithin _ (received chunks (i + 1) - prefixBytes _ k)) = _
      rw [framesWithin_drop _ _ _ hmono]
      show min onceProcessNetpacketLimit (arrived frames chunks (i + 1) - k)
        = min (k + onceProcessNetpacketLimit) (arrived frames chunks (i + 1)) - k
      omega
    have hnext : handedOn frames chunks (i + 1) = k + (handedOn frames chunks (i + 1) - k) := by
      have hstep : handedOn frames chunks (i + 1)
          = min (k + onceProcessNetpacketLimit) (arrived frames chunks (i + 1)) := rfl
      omega
    rw [hcount] at hcontent hleft
    constructor
    · simp [recvChunk, hr.accepted, hok]
    · show (r.delivered ++ _).map packetContent = _
      rw [List.map_append, hr.delivered, onReadPackets, hcontent, ← List.map_append, hnext,
        List.take_add, ← hk, Nat.add_sub_cancel_left]
    · rw [hnext, frameEnd, prefixBytes_add, ← List.map_drop, ← List.drop_drop]
      exact hleft
  · rw [hsize] at hfull
    refine .inr ⟨by omega, ?_⟩
    simp [recvChunk, hno]

/-! ## The whole run -/

theorem create_inStep (frames : List Frame) (chunks : List (List UInt8)) :
    InStep frames chunks 0 .create where
  accepted := rfl
  delivered := rfl
  holds := StreamBuffer.create_holds

theorem InStep.keepsPackets {frames : List Frame} {chunks : List (List UInt8)} {i : Nat}
    {r : Receiver} (h : InStep frames chunks i r) : KeepsPackets frames r where
  accepted := h.accepted
  delivered := by
    rw [h.delivered]
    exact List.IsPrefix.map _ (List.take_prefix _ _)

/-- From a state in step, the rest of the run keeps every packet precisely
if every further chunk finds room. -/
theorem always_keepsPackets_iff {frames : List Frame} {chunks : List (List UInt8)}
    (hcut : chunks.flatten <+: Frame.stream frames) (hne : ∀ chunk ∈ chunks, chunk ≠ [])
    (rest : List (List UInt8)) :
    ∀ (i : Nat) (r : Receiver), chunks.drop i = rest → InStep frames chunks i r →
      (Always recvChunk (KeepsPackets frames) r rest ↔
        ∀ m, i ≤ m → m < chunks.length → received chunks (m + 1)
          ≤ maxStreamBufSize + frameEnd frames (handedOn frames chunks m)) := by
  induction rest with
  | nil =>
    intro i r hdrop hr
    refine ⟨fun _ m him hm => ?_, fun _ => hr.keepsPackets⟩
    have hlen := List.drop_eq_nil_iff.mp hdrop
    omega
  | cons chunk rest ih =>
    intro i r hdrop hr
    have hi : i < chunks.length := by
      by_contra hge
      rw [List.drop_eq_nil_of_le (by omega)] at hdrop
      cases hdrop
    have hsplit := List.drop_eq_getElem_cons hi
    rw [hdrop] at hsplit
    injection hsplit with hchunk hrest
    subst hchunk
    have hstep := recvChunk_inStep hcut hi (hne _ (List.getElem_mem hi)) hr
    rcases hstep with ⟨hfit, hnext⟩ | ⟨hfull, hrefused⟩
    · show (KeepsPackets frames r ∧ Always recvChunk _ (recvChunk r chunks[i]) rest) ↔ _
      rw [ih (i + 1) _ hrest.symm hnext]
      constructor
      · intro h m him hm
        rcases Nat.lt_or_eq_of_le him with hlt | rfl
        · exact h.2 m hlt hm
        · exact hfit
      · intro h
        exact ⟨hr.keepsPackets, fun m him hm => h m (by omega) hm⟩
    · refine ⟨fun h => ?_, fun h => ?_⟩
      · have hkeeps := h.2.head
        rw [hkeeps.accepted] at hrefused
        cases hrefused
      · have hroom := h i (Nat.le_refl i) hi
        omega

theorem arrived_zero (frames : List Frame) (chunks : List (List UInt8)) :
    arrived frames chunks 0 = 0 := by
  apply framesWithin_of_short
  intro frame _
  rw [frame.length_eq, received, List.take_zero, List.flatten_nil, List.length_nil]
  omega

/-- Frames sent back to back and received in chunks are kept, in the sense
that no append is refused and the packets handed on are at every moment
the first frames, precisely if for all `j ≤ i` the bytes received with
chunk `i + 1` exceed by at most the capacity the end of the frame that is
`100 * (i - j)` frames after the last one complete with chunk `j`. -/
theorem keepsEveryPacket_iff (frames : List Frame) (chunks : List (List UInt8))
    (hcut : chunks.flatten <+: Frame.stream frames) (hne : ∀ chunk ∈ chunks, chunk ≠ []) :
    Always recvChunk (KeepsPackets frames) .create chunks ↔
      ∀ i < chunks.length, ∀ j ≤ i, received chunks (i + 1) ≤ maxStreamBufSize +
        frameEnd frames (arrived frames chunks j + onceProcessNetpacketLimit * (i - j)) := by
  rw [always_keepsPackets_iff hcut hne chunks 0 .create rfl (create_inStep frames chunks)]
  have hsolve := fun i => prefixBytes_served_iff (frames.map Frame.length)
    onceProcessNetpacketLimit (arrived frames chunks) (arrived_zero frames chunks) i
    (received chunks (i + 1)) maxStreamBufSize
  constructor
  · intro h i hi
    exact (hsolve i).mp (h i (Nat.zero_le i) hi)
  · intro h i _ hi
    exact (hsolve i).mpr (h i hi)

/-- A frame with a payload of one byte. -/
def ping : Frame := ⟨1, [7], by decide⟩

/-- It is kept when it comes in two pieces. -/
theorem keepsEveryPacket_ping :
    Always recvChunk (KeepsPackets [ping]) .create [ping.bytes.take 3, ping.bytes.drop 3] :=
  (keepsEveryPacket_iff [ping] [ping.bytes.take 3, ping.bytes.drop 3] (by decide)
    (by decide)).mpr (by decide)

/-- 3072 frames without a payload, in chunks of 8192 bytes. -/
def flood : List Frame := List.replicate 3072 ⟨1, [], by decide⟩

def floodChunks : List (List UInt8) :=
  [(Frame.stream flood).take 8192, ((Frame.stream flood).drop 8192).take 8192,
    (Frame.stream flood).drop 16384]

theorem flood_frameEnd (k : Nat) (hk : k ≤ 3072) : frameEnd flood k = 8 * k := by
  rw [frameEnd, flood, List.map_replicate, prefixBytes, List.take_replicate, List.sum_replicate,
    Nat.min_eq_left hk, smul_eq_mul, Nat.mul_comm]
  rfl

theorem floodChunks_flatten : floodChunks.flatten = Frame.stream flood := by
  have hdrop : (Frame.stream flood).drop 16384 = ((Frame.stream flood).drop 8192).drop 8192 := by
    rw [List.drop_drop]
  rw [floodChunks, hdrop, List.flatten_cons, List.flatten_cons, List.flatten_cons,
    List.flatten_nil, List.append_nil, List.take_append_drop, List.take_append_drop]

/-- Two calls take 200 of the 2048 frames that have arrived, and the third
chunk no longer fits. -/
theorem counterexample_keepsEveryPacket :
    (∀ chunk ∈ floodChunks, 1 ≤ chunk.length ∧ chunk.length ≤ maxPacketBufSize) ∧
      floodChunks.flatten = Frame.stream flood ∧
      ¬ Always recvChunk (KeepsPackets flood) .create floodChunks := by
  have hlen : (Frame.stream flood).length = 24576 := by
    have h := stream_length flood 3072
    rw [flood_frameEnd 3072 (Nat.le_refl _),
      List.take_of_length_le (by rw [flood, List.length_replicate])] at h
    exact h
  have hchunks : ∀ chunk ∈ floodChunks, 1 ≤ chunk.length ∧ chunk.length ≤ maxPacketBufSize := by
    intro chunk hchunk
    rw [maxPacketBufSize_eq]
    simp only [floodChunks, List.mem_cons, List.not_mem_nil, or_false] at hchunk
    rcases hchunk with h | h | h
    · rw [h, List.length_take, hlen]
      omega
    · rw [h, List.length_take, List.length_drop, hlen]
      omega
    · rw [h, List.length_drop, hlen]
      omega
  refine ⟨hchunks, floodChunks_flatten, fun h => ?_⟩
  have hcut : floodChunks.flatten <+: Frame.stream flood := by
    rw [floodChunks_flatten]
  have hne : ∀ chunk ∈ floodChunks, chunk ≠ [] := fun chunk hchunk =>
    List.ne_nil_of_length_pos (hchunks chunk hchunk).1
  have hroom := (always_keepsPackets_iff hcut hne floodChunks 0 .create rfl
    (create_inStep flood floodChunks)).mp h 2 (by decide) (by decide)
  have hall : received floodChunks 3 = 24576 := by
    rw [received, List.take_of_length_le (Nat.le_refl 3), floodChunks_flatten, hlen]
  have hserved : handedOn flood floodChunks 2 ≤ 200 := by
    have h := served_le onceProcessNetpacketLimit (arrived flood floodChunks) (Nat.zero_le 2)
    rw [arrived_zero] at h
    exact h
  rw [hall, flood_frameEnd _ (by omega), maxStreamBufSize_eq] at hroom
  omega

end FtMmi.Server
