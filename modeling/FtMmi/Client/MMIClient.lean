/-
FtMmi.Client.MMIClient — the receiving side of a client connection
(`MMIClient::OnRecvMsg` in `mmi_client.cpp`).

A client keeps its connection's bytes in the same kind of buffer as the
server and takes the packets out with the same `OnReadPackets`, so what
the server leaves waiting the client leaves waiting too.
-/
import FtMmi.Server.StrandedFrames

namespace FtMmi.Client

open FtMmi.Lib
open FtMmi.Network
open FtMmi.Server
open FtMmi.Socket

/-! ## Receiving -/

def onRecvMsg (r : Receiver) (buf : List UInt8) : Receiver :=
  if buf.length = 0 ∨ maxPacketBufSize < buf.length then r
  else
    let w := CircleStreamBuffer.write r.circBuf buf
    let p := onReadPackets w.2
    { circBuf := p.2, delivered := r.delivered ++ p.1, refused := r.refused || !w.1 }

/-- What `recv` returns passes the check. -/
theorem onRecvMsg_eq (r : Receiver) {buf : List UInt8}
    (h : 1 ≤ buf.length ∧ buf.length ≤ maxPacketBufSize) : onRecvMsg r buf = recvChunk r buf := by
  unfold onRecvMsg
  rw [if_neg (by omega)]
  rfl

theorem always_onRecvMsg_iff (P : Receiver → Prop) (chunks : List (List UInt8))
    (hsize : ∀ chunk ∈ chunks, 1 ≤ chunk.length ∧ chunk.length ≤ maxPacketBufSize)
    (r : Receiver) : Always onRecvMsg P r chunks ↔ Always recvChunk P r chunks := by
  induction chunks generalizing r with
  | nil => exact Iff.rfl
  | cons chunk chunks ih =>
    rw [List.forall_mem_cons] at hsize
    simp only [Always, onRecvMsg_eq r hsize.1]
    rw [ih hsize.2]

/-! ## No frame left stranded -/

/-- On the server and on a client, the bytes left after each chunk are
a proper prefix of one frame precisely if no chunk completes more than
`ONCE_PROCESS_NETPACKET_LIMIT` frames. -/
theorem noFrameStranded_iff (frames : List Frame) (chunks : List (List UInt8))
    (hcut : chunks.flatten <+: Frame.stream frames)
    (hsize : ∀ chunk ∈ chunks, 1 ≤ chunk.length ∧ chunk.length ≤ maxPacketBufSize) :
    (Always recvChunk Unstranded .create chunks ↔
        ∀ i < chunks.length,
          arrived frames chunks (i + 1) ≤ arrived frames chunks i + onceProcessNetpacketLimit) ∧
      (Always onRecvMsg Unstranded .create chunks ↔
        ∀ i < chunks.length,
          arrived frames chunks (i + 1) ≤ arrived frames chunks i + onceProcessNetpacketLimit) := by
  have hserver := always_unstranded_iff hcut hsize
  exact ⟨hserver, (always_onRecvMsg_iff Unstranded chunks hsize .create).trans hserver⟩

/-- A frame in two pieces. -/
theorem noFrameStranded_ping :
    ([ping.bytes.take 3, ping.bytes.drop 3].flatten <+: Frame.stream [ping] ∧
      ∀ chunk ∈ [ping.bytes.take 3, ping.bytes.drop 3],
        1 ≤ chunk.length ∧ chunk.length ≤ maxPacketBufSize) ∧
      Always recvChunk Unstranded .create [ping.bytes.take 3, ping.bytes.drop 3] ∧
      Always onRecvMsg Unstranded .create [ping.bytes.take 3, ping.bytes.drop 3] := by
  have hcut : [ping.bytes.take 3, ping.bytes.drop 3].flatten <+: Frame.stream [ping] := by decide
  have hsize : ∀ chunk ∈ [ping.bytes.take 3, ping.bytes.drop 3],
      1 ≤ chunk.length ∧ chunk.length ≤ maxPacketBufSize := by decide
  have h := noFrameStranded_iff [ping] [ping.bytes.take 3, ping.bytes.drop 3] hcut hsize
  exact ⟨⟨hcut, hsize⟩, h.1.mpr (by decide), h.2.mpr (by decide)⟩

theorem noPayload_size : ([] : List UInt8).length + headSize ≤ maxPacketBufSize := by decide

/-- 101 frames without a payload. -/
def burst : List Frame := List.replicate 101 ⟨1, [], noPayload_size⟩

/-- They arrive in one chunk of 808 bytes, and the last one stays in the
buffer. -/
theorem counterexample_noFrameStranded :
    (1 ≤ (Frame.stream burst).length ∧ (Frame.stream burst).length ≤ maxPacketBufSize) ∧
      ¬ Always recvChunk Unstranded .create [Frame.stream burst] ∧
      ¬ Always onRecvMsg Unstranded .create [Frame.stream burst] := by
  have hlen : 1 ≤ (Frame.stream burst).length ∧
      (Frame.stream burst).length ≤ maxPacketBufSize := by decide +kernel
  have hcut : [Frame.stream burst].flatten <+: Frame.stream burst := by
    rw [List.flatten_singleton]
  have hsize : ∀ chunk ∈ [Frame.stream burst],
      1 ≤ chunk.length ∧ chunk.length ≤ maxPacketBufSize := by
    intro chunk hchunk
    rw [List.mem_singleton.mp hchunk]
    exact hlen
  have hserver : ¬ Always recvChunk Unstranded .create [Frame.stream burst] := by
    rw [always_unstranded_iff hcut hsize]
    intro h
    have hfirst := h 0 (by decide)
    rw [arrived_zero] at hfirst
    revert hfirst
    decide +kernel
  exact ⟨hlen, hserver, fun h => hserver ((always_onRecvMsg_iff Unstranded _ hsize _).mp h)⟩

end FtMmi.Client
