/-
FtMmi.Socket.FrameAlignment — what the calls of `SendMsg` on one session
leave in the socket's stream.

`SendMsg` gives up after `SEND_RETRY_LIMIT` calls of `send`, or after a
hard error, and keeps no record of a frame it has sent a part of.
`sendPacket_accepted` says how much of the frame the kernel has taken by
then. Each call appends a `Piece` of `FtMmi.Lib.FramePieces` to the
stream, and `frameAlignment_iff` states exactly for which kernels and
packets no piece follows a cut one.
-/
import FtMmi.Lib.FramePieces
import FtMmi.Lib.StepSystem
import FtMmi.Socket.SendMsg

namespace FtMmi.Socket

open FtMmi.Lib
open FtMmi.Network

/-! ## What the kernel takes -/

/-- What the kernel is ready to take in `n` calls of `send` from the
`i`-th on; a hard error ends the attempt. -/
def kernelTakes (outcome : Nat → SendOutcome) : Nat → Nat → Nat
  | 0, _ => 0
  | n + 1, i =>
      match outcome i with
      | .sent k => k + kernelTakes outcome n (i + 1)
      | .again => kernelTakes outcome n (i + 1)
      | .fail => 0

/-- The loop stops when everything is sent or the kernel takes no more. -/
theorem sendLoop_idx (outcome : Nat → SendOutcome) (buf : List UInt8) (n : Nat) :
    ∀ s : Sending, (sendLoop outcome buf n s).idx
      = s.idx + min s.remSize (kernelTakes outcome n s.retryCount) := by
  induction n with
  | zero =>
    intro s
    simp [sendLoop, kernelTakes]
  | succ n ih =>
    intro s
    rw [sendLoop, kernelTakes]
    by_cases hrem : s.remSize = 0
    · rw [if_pos hrem, hrem, Nat.zero_min, Nat.add_zero]
    · rw [if_neg hrem]
      cases outcome s.retryCount with
      | sent k =>
        simp only [ih]
        omega
      | again => simp only [ih]
      | fail => simp

theorem sendBytes_accepted (build : Build) {fd : Int} (hfd : 0 ≤ fd)
    (outcome : Nat → SendOutcome) (buf : List UInt8) (hbuf : buf.length ≤ maxPacketBufSize) :
    (sendBytes build fd outcome buf).accepted
      = buf.take (min buf.length (kernelTakes outcome (sendRetryLimit build) 0)) := by
  unfold sendBytes
  by_cases hnil : buf.length = 0
  · rw [if_pos (.inl hnil), hnil, Nat.zero_min, List.take_zero]
    rfl
  · rw [if_neg (by omega), if_neg (by omega)]
    simp only [sendLoop_idx, Nat.zero_add]

/-- The value returned is worked out from the loop's last state. -/
theorem sendLoop_result (outcome : Nat → SendOutcome) (buf : List UInt8) (n : Nat) :
    ∀ s : Sending, s.failed = false →
      let s' := sendLoop outcome buf n s
      (!s'.failed && !(decide (s.retryCount + n ≤ s'.retryCount) || s'.remSize != 0)) =
        decide (0 < n ∧ s.remSize ≤ kernelTakes outcome (n - 1) s.retryCount) := by
  induction n with
  | zero =>
    intro s hs
    simp [sendLoop, hs]
  | succ n ih =>
    intro s hs
    rw [sendLoop]
    by_cases hrem : s.remSize = 0
    · rw [if_pos hrem]
      simp [hs, hrem]
    · rw [if_neg hrem]
      have hcount : s.retryCount + (n + 1) = s.retryCount + 1 + n := by omega
      rw [hcount, Nat.add_sub_cancel]
      cases hout : outcome s.retryCount with
      | sent k =>
        simp only
        rw [ih _ (by exact hs)]
        cases n with
        | zero => simp [kernelTakes, hrem]
        | succ n =>
          rw [kernelTakes, hout]
          simp only [Nat.add_sub_cancel, decide_eq_decide]
          omega
      | again =>
        simp only
        rw [ih _ (by exact hs)]
        cases n with
        | zero => simp [kernelTakes, hrem]
        | succ n =>
          rw [kernelTakes, hout]
          simp
      | fail =>
        cases n with
        | zero => simp [kernelTakes, hrem]
        | succ n => simp [kernelTakes, hout, hrem]

/-- `SendMsg` succeeds if everything has gone out before the last retry. -/
theorem sendBytes_result (build : Build) {fd : Int} (hfd : 0 ≤ fd) (outcome : Nat → SendOutcome)
    {buf : List UInt8} (hne : buf ≠ []) (hbuf : buf.length ≤ maxPacketBufSize) :
    (sendBytes build fd outcome buf).result
      = decide (buf.length ≤ kernelTakes outcome (sendRetryLimit build - 1) 0) := by
  have hpos : 0 < buf.length := List.length_pos_iff.mpr hne
  unfold sendBytes
  rw [if_neg (by omega), if_neg (by omega)]
  have h := sendLoop_result outcome buf (sendRetryLimit build) ⟨0, buf.length, 0, [], false⟩ rfl
  simp only [Nat.zero_add] at h
  refine h.trans ?_
  rw [decide_eq_decide]
  exact and_iff_right (sendRetryLimit_pos build)

theorem sendBytes_of_large (build : Build) (fd : Int) (outcome : Nat → SendOutcome)
    {buf : List UInt8} (hbuf : maxPacketBufSize < buf.length) :
    sendBytes build fd outcome buf = .refused := by
  rw [sendBytes, if_pos (.inr hbuf)]

/-! ## One call of `SendMsg` -/

/-- A packet, and how the kernel answers the calls of `send` made for it. -/
structure Call where
  pkt : NetPacket
  outcome : Nat → SendOutcome

/-- How many bytes of the packet's frame are handed over: none of it with
an error or more than a packet's bytes, the header of a payload that does
not fit behind it, all of it otherwise. -/
def Call.offered (c : Call) : Nat :=
  if c.pkt.chkRWError then 0
  else if maxStreamBufSize < headSize + c.pkt.wPos then headSize
  else if maxPacketBufSize < headSize + c.pkt.wPos then 0
  else headSize + c.pkt.wPos

/-- How many of these the kernel takes. -/
def Call.taken (build : Build) (c : Call) : Nat :=
  min c.offered (kernelTakes c.outcome (sendRetryLimit build) 0)

/-- The kernel takes a part of the frame and not all of it. -/
def Call.Cut (build : Build) (c : Call) : Prop :=
  0 < c.taken build ∧ c.taken build < headSize + c.pkt.wPos

instance (build : Build) (c : Call) : Decidable (c.Cut build) :=
  inferInstanceAs (Decidable (_ ∧ _))

theorem Call.taken_le (build : Build) (c : Call) : c.taken build ≤ c.pkt.frame.length := by
  have hoff : c.offered ≤ 8 + c.pkt.wPos := by
    unfold Call.offered
    rw [headSize_eq]
    split
    · omega
    · split
      · omega
      · split <;> omega
  rw [NetPacket.frame_length, Call.taken]
  omega

/-- What a call on a live session leaves in the stream. -/
theorem sendPacket_accepted (build : Build) {fd : Int} (hfd : 0 ≤ fd) (c : Call) :
    (sendPacket (sendBytes build fd c.outcome) c.pkt).accepted
      = c.pkt.frame.take (c.taken build) := by
  have hmax := maxPacketBufSize_eq
  unfold sendPacket Call.taken Call.offered
  by_cases herr : c.pkt.chkRWError = true
  · rw [if_pos herr, if_pos herr, Nat.zero_min, List.take_zero]
    rfl
  · rw [if_neg herr, if_neg herr]
    by_cases hlarge : maxStreamBufSize < headSize + c.pkt.wPos
    · rw [if_pos hlarge, c.pkt.makeData_written_of_large hlarge,
        sendBytes_accepted build hfd _ _ (by rw [toBytes_packHead_length, hmax]; omega),
        toBytes_packHead_length, headSize_eq, NetPacket.frame, frameBytes,
        NetPacket.payload_length, List.take_append_of_le_length]
      rw [toBytes_packHead_length]
      exact Nat.min_le_left _ _
    · have hfit : 8 + c.pkt.wPos ≤ maxStreamBufSize := by rw [headSize_eq] at hlarge; omega
      rw [if_neg hlarge, headSize_eq,
        NetPacket.written_of_holds (c.pkt.makeData_holds hfit) c.pkt.makeData_rPos]
      by_cases hbig : maxPacketBufSize < 8 + c.pkt.wPos
      · rw [if_pos hbig, sendBytes_of_large _ _ _ (by rw [NetPacket.frame_length]; exact hbig),
          Nat.zero_min, List.take_zero]
        rfl
      · rw [if_neg hbig, sendBytes_accepted build hfd _ _
          (by rw [NetPacket.frame_length]; omega), NetPacket.frame_length]

theorem sendMsg_accepted (build : Build) (fd : Nat) (c : Call) :
    (UDSSession.sendMsg build fd c.outcome c.pkt).accepted = c.pkt.frame.take (c.taken build) :=
  sendPacket_accepted build fd.cast_nonneg c

/-! ## A run of calls -/

/-- What one call of `SendMsg` on the live session with descriptor `fd`
appends to the stream. -/
def sendPiece (build : Build) (fd : Nat) (c : Call) : Piece UInt8 where
  frame := c.pkt.frame
  bytes := (UDSSession.sendMsg build fd c.outcome c.pkt).accepted
  isPrefix := by
    rw [sendMsg_accepted]
    exact List.take_prefix _ _

def sendStep (build : Build) (fd : Nat) (pieces : List (Piece UInt8)) (c : Call) :
    List (Piece UInt8) :=
  pieces ++ [sendPiece build fd c]

/-- The stream consists of complete frames of the packets sent, in order,
and at most a part of one at its end; no packet follows a cut one. -/
structure Aligned (pieces : List (Piece UInt8)) : Prop where
  stream : FramesThenPart (pieces.map Piece.frame) (streamOf pieces)
  nothingAfterCut : NothingAfterCut pieces

theorem sendPiece_bytes_eq_nil_iff (build : Build) (fd : Nat) (c : Call) :
    (sendPiece build fd c).bytes = [] ↔ c.taken build = 0 := by
  have hle := c.taken_le build
  have hlen := c.pkt.frame_length
  show (UDSSession.sendMsg build fd c.outcome c.pkt).accepted = [] ↔ _
  rw [sendMsg_accepted, List.take_eq_nil_iff, ← List.length_eq_zero_iff]
  omega

theorem sendPiece_cut_iff (build : Build) (fd : Nat) (c : Call) :
    (sendPiece build fd c).Cut ↔ c.Cut build := by
  have hle := c.taken_le build
  have hframe : (sendPiece build fd c).bytes = (sendPiece build fd c).frame
      ↔ c.taken build = 8 + c.pkt.wPos := by
    show (UDSSession.sendMsg build fd c.outcome c.pkt).accepted = c.pkt.frame ↔ _
    rw [sendMsg_accepted, List.take_eq_self_iff, NetPacket.frame_length] at *
    omega
  rw [NetPacket.frame_length] at hle
  rw [Piece.Cut, Call.Cut, ne_eq, ne_eq, sendPiece_bytes_eq_nil_iff, hframe, headSize_eq]
  omega

theorem runFrom_sendStep (build : Build) (fd : Nat) (calls : List Call) :
    ∀ pieces, runFrom (sendStep build fd) pieces calls
      = pieces ++ calls.map (sendPiece build fd) := by
  induction calls with
  | nil => simp
  | cons c calls ih =>
    intro pieces
    rw [runFrom_cons, ih, sendStep, List.map_cons, List.append_assoc]
    rfl

/-- Every run of calls leaves the stream aligned after each of them
precisely if the kernel takes nothing more once it has cut a frame. -/
theorem frameAlignment_iff (build : Build) (fd : Nat) (calls : List Call) :
    Always (sendStep build fd) Aligned [] calls ↔
      calls.Pairwise fun earlier later => earlier.Cut build → later.taken build = 0 := by
  have hpieces : ∀ made : List Call,
      NothingAfterCut (runFrom (sendStep build fd) [] made) ↔
        made.Pairwise fun earlier later => earlier.Cut build → later.taken build = 0 := by
    intro made
    rw [runFrom_sendStep, List.nil_append, NothingAfterCut, List.pairwise_map]
    simp only [sendPiece_cut_iff, sendPiece_bytes_eq_nil_iff]
  rw [always_iff_forall]
  constructor
  · intro h
    exact (hpieces calls).mp (h calls (List.prefix_refl _)).nothingAfterCut
  · intro h made hmade
    have hafter := (hpieces made).mpr (h.sublist hmade.sublist)
    exact ⟨framesThenPart_of_pieces hafter, hafter⟩

/-- The kernel takes three bytes of a frame of twelve, and then fails. -/
def cutCall : Call where
  pkt := .ofPayload 1 [1, 2, 3, 4] (by decide)
  outcome := fun i => if i = 0 then .sent 3 else .fail

/-- It takes all of the next one. -/
def nextCall : Call where
  pkt := .ofPayload 2 [] (by decide)
  outcome := fun _ => .sent 8

/-- Eleven bytes: three of the first frame, and the second frame. -/
theorem counterexample_frameAlignment :
    ¬ Always (sendStep ⟨false⟩ 5)
      (fun pieces => FramesThenPart (pieces.map Piece.frame) (streamOf pieces))
      [] [cutCall, nextCall] := by
  intro h
  have hlast := Always.last h
  have htaken : cutCall.taken ⟨false⟩ = 3 ∧ nextCall.taken ⟨false⟩ = 8 := by decide
  have hcut : cutCall.pkt.frame = frameBytes 1 [1, 2, 3, 4] :=
    NetPacket.ofPayload_frame 1 [1, 2, 3, 4] (by decide)
  have hnext : nextCall.pkt.frame = frameBytes 2 [] :=
    NetPacket.ofPayload_frame 2 [] (by decide)
  simp only [runFrom_sendStep, List.nil_append, List.map_cons, List.map_nil, streamOf, sendPiece,
    List.flatMap_cons, List.flatMap_nil, List.append_nil, sendMsg_accepted, htaken, hcut,
    hnext] at hlast
  revert hlast
  decide

end FtMmi.Socket
