/-
FtMmi.Server.StrandedFrames — complete frames left in the receive buffer.

No event is pending for bytes that have been received, so a complete frame
that `OnReadPackets` leaves in the buffer waits for the peer to send more.
`unstranded_iff` says in terms of the recurrence of
`FtMmi.Server.Receiver` when nothing waits, and
`always_unstranded_iff` solves it over a run: the first chunk that
completes more frames than a call handles leaves one behind.
-/
import FtMmi.Server.Receiver

namespace FtMmi.Server

open FtMmi.Lib
open FtMmi.Network
open FtMmi.Socket

/-! ## What may be left -/

/-- The unread part of the receive buffer is a proper prefix of one frame. -/
def Unstranded (r : Receiver) : Prop :=
  ∃ frame : Frame, r.circBuf.unread <+: frame.bytes ∧ r.circBuf.unread.length < frame.length

/-- A frame tells its length in its header, so none is the beginning of
a longer one. -/
theorem frame_length_eq_of_prefix {frame frame' : Frame} (h : frame.bytes <+: frame'.bytes) :
    frame.length = frame'.length := by
  have hhead : PackHead.mk frame.idMsg (Int32.ofNat frame.payload.length)
      = PackHead.mk frame'.idMsg (Int32.ofNat frame'.payload.length) := by
    obtain ⟨rest, hrest⟩ := h
    rw [Frame.bytes, Frame.bytes, frameBytes, frameBytes, List.append_assoc] at hrest
    have htake := congrArg (List.take headSize) hrest
    rw [headSize, take_toBytes_append, take_toBytes_append] at htake
    have hback := congrArg (ofBytes (α := PackHead)) htake
    rwa [ByteImage.ofBytes_toBytes, ByteImage.ofBytes_toBytes] at hback
  have hsize := congrArg (fun head => head.size.toInt) hhead
  rw [frame.length_eq, frame'.length_eq]
  simp only [frame.size_toInt, frame'.size_toInt] at hsize
  omega

theorem frame_length_le (frame : Frame) : frame.length ≤ maxPacketBufSize := by
  have hle := frame.size_le
  rw [headSize_eq] at hle
  rw [frame.length_eq]
  omega

/-- The stream behind the first `k` frames begins with the next one. -/
theorem stream_drop_of_lt (frames : List Frame) {k : Nat} (hk : k < frames.length) :
    frames[k].bytes <+: (Frame.stream frames).drop (frameEnd frames k) := by
  rw [stream_drop, List.drop_eq_getElem_cons hk, Frame.stream, List.flatMap_cons]
  exact List.prefix_append _ _

theorem frameEnd_succ (frames : List Frame) {k : Nat} (hk : k < frames.length) :
    frameEnd frames (k + 1) = frameEnd frames k + frames[k].length := by
  rw [frameEnd, frameEnd, prefixBytes_add, ← List.map_drop, List.drop_eq_getElem_cons hk,
    List.map_cons, prefixBytes_cons_succ, prefixBytes_zero, Nat.add_zero]

theorem arrived_le_length (frames : List Frame) (chunks : List (List UInt8)) (i : Nat) :
    arrived frames chunks i ≤ frames.length := by
  have h := framesWithin_le_length (frames.map Frame.length) (received chunks i)
  rwa [List.length_map] at h

/-- The frame after the last complete one has not arrived completely. -/
theorem received_lt (frames : List Frame) (chunks : List (List UInt8)) (i : Nat)
    (h : arrived frames chunks i < frames.length) :
    received chunks i < frameEnd frames (arrived frames chunks i + 1) :=
  lt_prefixBytes_succ _ _ (by rwa [List.length_map])

/-! ## One state -/

/-- The bytes received and not handed on. -/
theorem leftover_prefix {frames : List Frame} {chunks : List (List UInt8)}
    (hcut : chunks.flatten <+: Frame.stream frames) (i k : Nat) :
    ((chunks.take i).flatten).drop (frameEnd frames k)
      <+: (Frame.stream frames).drop (frameEnd frames k) :=
  List.IsPrefix.drop ((List.IsPrefix.flatten (List.take_prefix _ _)).trans hcut) _

/-- In step, nothing waits precisely if every complete frame has been handed
on. -/
theorem unstranded_iff {frames : List Frame} {chunks : List (List UInt8)} {i : Nat}
    {r : Receiver} (hcut : chunks.flatten <+: Frame.stream frames)
    (hr : InStep frames chunks i r) :
    Unstranded r ↔ handedOn frames chunks i = arrived frames chunks i := by
  have hall := arrived_le_length frames chunks i
  have hunread := hr.holds.eq
  have hleft := leftover_prefix hcut i (handedOn frames chunks i)
  have hlen : r.circBuf.unread.length
      = received chunks i - frameEnd frames (handedOn frames chunks i) := by
    rw [hunread, List.length_drop]
    rfl
  rw [← hunread] at hleft
  constructor
  · rintro ⟨frame, hpre, hlt⟩
    by_contra hne
    have hk : handedOn frames chunks i < arrived frames chunks i :=
      Nat.lt_of_le_of_ne (handedOn_le frames chunks i) hne
    have hin : handedOn frames chunks i < frames.length := by omega
    -- The next frame is there completely.
    have hend : frameEnd frames (handedOn frames chunks i + 1) ≤ received chunks i :=
      Nat.le_trans (prefixBytes_mono _ hk) (prefixBytes_framesWithin_le _ _)
    rw [frameEnd_succ frames hin] at hend
    have hnext : frames[handedOn frames chunks i].bytes <+: r.circBuf.unread :=
      List.prefix_of_prefix_length_le (stream_drop_of_lt frames hin) hleft (by
        rw [← Frame.length]
        omega)
    have hsame := frame_length_eq_of_prefix (hnext.trans hpre)
    have hle := hnext.length_le
    rw [← Frame.length] at hle
    omega
  · intro heq
    rcases Nat.lt_or_eq_of_le hall with hin | hend
    · -- The next frame is cut.
      have hlt := received_lt frames chunks i hin
      have hend := frameEnd_le frames chunks i
      rw [← heq] at hlt hin
      rw [frameEnd_succ frames hin] at hlt
      refine ⟨frames[handedOn frames chunks i], ?_, by omega⟩
      exact List.prefix_of_prefix_length_le hleft (stream_drop_of_lt frames hin) (by
        rw [← Frame.length]
        omega)
    · -- All frames have been handed on.
      have hnil : r.circBuf.unread = [] := by
        rw [heq, hend, stream_drop, List.drop_length] at hleft
        exact List.prefix_nil.mp hleft
      refine ⟨ping, ?_, ?_⟩
      · rw [hnil]
        exact List.nil_prefix
      · rw [hnil]
        exact Nat.lt_of_lt_of_le Nat.zero_lt_one (by rw [ping.length_eq]; omega)

/-! ## The whole run -/

theorem handedOn_succ (frames : List Frame) (chunks : List (List UInt8)) (i : Nat) :
    handedOn frames chunks (i + 1) =
      min (handedOn frames chunks i + onceProcessNetpacketLimit)
        (arrived frames chunks (i + 1)) := rfl

/-- With nothing waiting, the buffer has room for a chunk. -/
theorem recvChunk_of_unstranded {frames : List Frame} {chunks : List (List UInt8)} {i : Nat}
    {r : Receiver} (hcut : chunks.flatten <+: Frame.stream frames) (hi : i < chunks.length)
    (hsize : 1 ≤ chunks[i].length ∧ chunks[i].length ≤ maxPacketBufSize)
    (hr : InStep frames chunks i r) (h : Unstranded r) :
    InStep frames chunks (i + 1) (recvChunk r chunks[i]) := by
  have hne : chunks[i] ≠ [] := List.ne_nil_of_length_pos hsize.1
  rcases recvChunk_inStep hcut hi hne hr with ⟨_, hnext⟩ | ⟨hfull, _⟩
  · exact hnext
  · obtain ⟨frame, _, hlt⟩ := h
    have hle := frame_length_le frame
    have hend := frameEnd_le frames chunks i
    have hmax : maxStreamBufSize = 2 * maxPacketBufSize := rfl
    rw [hr.holds.eq, List.length_drop] at hlt
    rw [received, received_succ chunks hi, List.length_append] at hfull
    change frameEnd frames (handedOn frames chunks i) ≤ ((chunks.take i).flatten).length at hend
    omega

theorem always_unstranded_from {frames : List Frame} {chunks : List (List UInt8)}
    (hcut : chunks.flatten <+: Frame.stream frames)
    (hsize : ∀ chunk ∈ chunks, 1 ≤ chunk.length ∧ chunk.length ≤ maxPacketBufSize)
    (rest : List (List UInt8)) :
    ∀ (i : Nat) (r : Receiver), chunks.drop i = rest → InStep frames chunks i r → Unstranded r →
      (Always recvChunk Unstranded r rest ↔
        ∀ m, i ≤ m → m < chunks.length →
          arrived frames chunks (m + 1) ≤ arrived frames chunks m + onceProcessNetpacketLimit) := by
  induction rest with
  | nil =>
    intro i r hdrop _ h
    have hlen := List.drop_eq_nil_iff.mp hdrop
    exact ⟨fun _ m him hm => by omega, fun _ => h⟩
  | cons chunk rest ih =>
    intro i r hdrop hr h
    have hi : i < chunks.length := by
      by_contra hge
      rw [List.drop_eq_nil_of_le (by omega)] at hdrop
      cases hdrop
    rw [List.drop_eq_getElem_cons hi] at hdrop
    injection hdrop with hchunk hrest
    subst hchunk
    have hnext := recvChunk_of_unstranded hcut hi (hsize _ (List.getElem_mem hi)) hr h
    have hstep := handedOn_succ frames chunks i
    rw [(unstranded_iff hcut hr).mp h] at hstep
    constructor
    · rintro ⟨_, hrun⟩
      have hhead := (unstranded_iff hcut hnext).mp hrun.head
      have hlater := (ih (i + 1) _ hrest hnext hrun.head).mp hrun
      intro m him hm
      rcases Nat.lt_or_eq_of_le him with hlt | rfl
      · exact hlater m hlt hm
      · omega
    · intro hall
      have hnow := hall i (Nat.le_refl i) hi
      have hgood := (unstranded_iff hcut hnext).mpr (by omega)
      exact ⟨h, (ih (i + 1) _ hrest hnext hgood).mpr fun m him hm => hall m (by omega) hm⟩

/-- A run leaves nothing waiting precisely if no chunk completes more frames
than one call handles. -/
theorem always_unstranded_iff {frames : List Frame} {chunks : List (List UInt8)}
    (hcut : chunks.flatten <+: Frame.stream frames)
    (hsize : ∀ chunk ∈ chunks, 1 ≤ chunk.length ∧ chunk.length ≤ maxPacketBufSize) :
    Always recvChunk Unstranded .create chunks ↔
      ∀ i < chunks.length,
        arrived frames chunks (i + 1) ≤ arrived frames chunks i + onceProcessNetpacketLimit := by
  have hinit := create_inStep frames chunks
  have hgood : Unstranded .create := (unstranded_iff hcut hinit).mpr (arrived_zero _ _).symm
  rw [always_unstranded_from hcut hsize chunks 0 .create rfl hinit hgood]
  simp

end FtMmi.Server
