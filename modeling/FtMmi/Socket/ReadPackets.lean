/-
FtMmi.Socket.ReadPackets — taking frames out of a receive buffer
(`UDSSocket::OnReadPackets` in `uds_socket.cpp`).

One iteration of the loop is `readPacket`. The whole call hands the
packets it completes to a callback; here it returns them in order.

`onReadPackets_spec` is about a buffer that holds the beginning of a
sequence of well-formed frames: the call takes the complete frames, but
at most `ONCE_PROCESS_NETPACKET_LIMIT` of them, and leaves the rest.
-/
import FtMmi.Lib.FrameStream
import FtMmi.Network.CircleStreamBuffer
import FtMmi.Network.NetPacket

namespace FtMmi.Socket

open FtMmi.Lib
open FtMmi.Network
open FtMmi.Network.StreamBuffer

/-! ## The loop -/

/-- The end of an iteration, once the header is known to be good and the
payload to be there. -/
def takePacket (circBuf : StreamBuffer) (head : PackHead) : Option NetPacket × StreamBuffer :=
  let pkt := NetPacket.create head.idMsg
  let w :=
    if 0 < head.size.toInt then
      pkt.writeBytes ((circBuf.readBuf.drop headSize).take head.size.toInt.toNat)
    else (true, pkt.toStreamBuffer)
  if !w.1 then (none, circBuf)
  else
    let pkt : NetPacket := { w.2 with msgId := head.idMsg }
    let s := circBuf.seekReadPos pkt.getPacketLength
    if !s.1 then (none, circBuf.reset) else (some pkt, s.2)

/-- One iteration: the packet taken, if the loop does not end before the
callback, and the buffer. -/
def readPacket (circBuf : StreamBuffer) : Option NetPacket × StreamBuffer :=
  let unreadSize := circBuf.unreadSize
  if unreadSize < headSize then (none, circBuf)
  else
    let dataSize := unreadSize - headSize
    let head : PackHead := ofBytes (circBuf.readBuf.take headSize)
    if head.size.toInt < 0 ∨ (maxPacketBufSize : Int) < head.size.toInt then (none, circBuf.reset)
    else if (dataSize : Int) < head.size.toInt then (none, circBuf)
    else takePacket circBuf head

def readPackets : Nat → StreamBuffer → List NetPacket × StreamBuffer
  | 0, circBuf => ([], circBuf)
  | n + 1, circBuf =>
      match readPacket circBuf with
      | (none, circBuf) => ([], circBuf)
      | (some pkt, circBuf) =>
          if circBuf.isEmpty then ([pkt], circBuf.reset)
          else
            let r := readPackets n circBuf
            (pkt :: r.1, r.2)

def onReadPackets (circBuf : StreamBuffer) : List NetPacket × StreamBuffer :=
  readPackets onceProcessNetpacketLimit circBuf

/-! ## Well-formed frames -/

/-- A frame as a peer sends it: a payload that fits into a packet together
with the header. -/
structure Frame where
  idMsg : Int32
  payload : List UInt8
  size_le : payload.length + headSize ≤ maxPacketBufSize

namespace Frame

def bytes (frame : Frame) : List UInt8 := frameBytes frame.idMsg frame.payload

def length (frame : Frame) : Nat := frame.bytes.length

theorem length_eq (frame : Frame) : frame.length = 8 + frame.payload.length :=
  frameBytes_length frame.idMsg frame.payload

/-- The bytes of frames sent back to back. -/
def stream (frames : List Frame) : List UInt8 := frames.flatMap bytes

/-- What a receiver sees of a frame. -/
def content (frame : Frame) : Int32 × List UInt8 := (frame.idMsg, frame.payload)

theorem size_toInt (frame : Frame) :
    (Int32.ofNat frame.payload.length).toInt = frame.payload.length := by
  have hle := frame.size_le
  rw [headSize_eq, maxPacketBufSize_eq] at hle
  exact Int32.toInt_ofNat_of_lt (by omega)

end Frame

/-- What a packet carries. -/
def packetContent (pkt : NetPacket) : Int32 × List UInt8 := (pkt.msgId, pkt.payload)

/-! ## One iteration -/

theorem readPacket_of_short {b : StreamBuffer} {bs : List UInt8} (hb : b.Shows bs)
    (hshort : bs.length < headSize) : readPacket b = (none, b) := by
  have hsize : b.unreadSize < headSize := by rw [unreadSize_eq, hb.eq]; exact hshort
  unfold readPacket
  rw [if_pos hsize]

/-- With a whole header, the iteration is decided by the size in it. -/
theorem readPacket_of_head {b : StreamBuffer} {head : PackHead} {rest : List UInt8}
    (hb : b.Shows (toBytes head ++ rest)) :
    readPacket b =
      if head.size.toInt < 0 ∨ (maxPacketBufSize : Int) < head.size.toInt then (none, b.reset)
      else if (rest.length : Int) < head.size.toInt then (none, b)
      else takePacket b head := by
  have hle := hb.le
  have hlen := congrArg List.length hb.eq
  have hunread : b.unreadSize = headSize + rest.length := by
    rw [unreadSize_eq, hb.eq, List.length_append, toBytes_packHead_length, headSize_eq]
  rw [← unreadSize_eq, hunread, List.length_append, toBytes_packHead_length] at hlen
  have hfits : b.rPos + headSize ≤ b.wPos := by
    rw [unreadSize_eq, unread_length] at hunread
    omega
  have hhead : ofBytes (b.readBuf.take headSize) = head := by
    rw [readBuf_take b headSize hfits, hb.eq, headSize, take_toBytes_append,
      ByteImage.ofBytes_toBytes]
  unfold readPacket
  simp only [hunread, hhead, Nat.add_sub_cancel_left]
  rw [if_neg (by omega)]

/-- The payload is copied into the packet, and the cursor moves behind it. -/
theorem takePacket_spec {b : StreamBuffer} {head : PackHead} {rest : List UInt8}
    (hb : b.Shows (toBytes head ++ rest)) {n : Nat} (hsize : head.size.toInt = n)
    (hn : n ≤ rest.length) (hmax : n ≤ maxPacketBufSize) :
    ∃ pkt : NetPacket, packetContent pkt = (head.idMsg, rest.take n) ∧
      takePacket b head = (some pkt, b.advance (headSize + n)) := by
  have hle := hb.le
  have hlen := congrArg List.length hb.eq
  rw [unread_length, List.length_append, toBytes_packHead_length] at hlen
  rw [maxPacketBufSize_eq] at hmax
  have hdata : (b.readBuf.drop headSize).take n = rest.take n := by
    rw [List.take_drop, readBuf_take b _ (by rw [headSize_eq]; omega), hb.eq, ← List.take_drop,
      headSize, drop_toBytes_append]
  have hdatalen : (rest.take n).length = n := by
    rw [List.length_take]
    omega
  -- The packet has room for the payload, and an empty payload is not written.
  obtain ⟨pb, hw, hpb⟩ : ∃ pb : StreamBuffer, pb.written = rest.take n ∧
      (if 0 < head.size.toInt then
        (NetPacket.create head.idMsg).writeBytes ((b.readBuf.drop headSize).take
          head.size.toInt.toNat)
      else (true, (NetPacket.create head.idMsg).toStreamBuffer)) = (true, pb) := by
    rw [hsize, Int.toNat_natCast, hdata]
    by_cases hpos : 0 < n
    · have hfit : StreamBuffer.create.wPos + (rest.take n).length ≤ maxStreamBufSize := by
        rw [hdatalen, maxStreamBufSize_eq]
        show 0 + n ≤ 16384
        omega
      refine ⟨StreamBuffer.create.append (rest.take n) hfit, append_written _ _ _, ?_⟩
      rw [if_pos (by omega)]
      exact writeBytes_of_fits rfl (List.ne_nil_of_length_pos (by omega)) hfit
    · have hz : n = 0 := by omega
      subst hz
      exact ⟨StreamBuffer.create, rfl, rfl⟩
  have hwpos : pb.wPos = n := by rw [← written_length, hw, hdatalen]
  refine ⟨{ pb with msgId := head.idMsg }, Prod.ext rfl hw, ?_⟩
  unfold takePacket
  simp only [hpb, Bool.not_true, Bool.false_eq_true, if_false]
  rw [NetPacket.getPacketLength]
  simp only [hwpos]
  rw [seekReadPos_natCast (by rw [headSize_eq]; omega)]
  rfl

/-- A packet that is handed on is in good standing, none of it read yet. -/
theorem takePacket_holds {b b' : StreamBuffer} {head : PackHead} {pkt : NetPacket}
    (h : takePacket b head = (some pkt, b')) : pkt.Holds pkt.payload := by
  unfold takePacket at h
  extract_lets empty w at h
  have hwritten : w.1 = true → w.2.rwErrorStatus = .ok ∧ w.2.rPos = 0 := by
    intro htrue
    by_cases hsize : 0 < head.size.toInt
    · simp only [w, if_pos hsize] at htrue ⊢
      exact ⟨(writeBytes_ok_iff _ _).mpr htrue, writeBytes_rPos _ _⟩
    · simp only [w, if_neg hsize]
      exact ⟨rfl, rfl⟩
  clear_value w
  split at h
  · cases h
  · rename_i htrue
    obtain ⟨hok, hpos⟩ := hwritten (by simpa using htrue)
    split at h
    · cases h
    · injection h with htaken _
      injection htaken with htaken
      rw [← htaken]
      refine ⟨hok, ?_, ?_⟩
      · show w.2.rPos ≤ _
        rw [hpos]
        exact Nat.zero_le _
      · show w.2.written.drop w.2.rPos = _
        rw [hpos, List.drop_zero]
        rfl

theorem readPacket_holds {b b' : StreamBuffer} {pkt : NetPacket}
    (h : readPacket b = (some pkt, b')) : pkt.Holds pkt.payload := by
  unfold readPacket at h
  simp only at h
  split at h
  · cases h
  · split at h
    · cases h
    · split at h
      · cases h
      · exact takePacket_holds h

theorem readPackets_holds (limit : Nat) :
    ∀ b : StreamBuffer, ∀ pkt ∈ (readPackets limit b).1, pkt.Holds pkt.payload := by
  induction limit with
  | zero =>
    intro b pkt hpkt
    cases hpkt
  | succ limit ih =>
    intro b pkt hpkt
    cases hread : readPacket b with
    | mk taken rest =>
      cases taken with
      | none =>
        simp only [readPackets, hread] at hpkt
        cases hpkt
      | some first =>
        have hfirst := readPacket_holds hread
        simp only [readPackets, hread] at hpkt
        split at hpkt
        · rw [List.mem_singleton.mp hpkt]
          exact hfirst
        · rcases List.mem_cons.mp hpkt with rfl | hpkt
          · exact hfirst
          · exact ih rest pkt hpkt

/-- A frame that has not arrived completely stays where it is. -/
theorem readPacket_of_incomplete {b : StreamBuffer} {bs : List UInt8} {frame : Frame}
    (hb : b.Holds bs) (hpre : bs <+: frame.bytes) (hlen : bs.length < frame.length) :
    readPacket b = (none, b) := by
  by_cases hshort : bs.length < headSize
  · exact readPacket_of_short hb.shows hshort
  · have hhead : toBytes (PackHead.mk frame.idMsg (Int32.ofNat frame.payload.length)) <+: bs := by
      refine List.prefix_of_prefix_length_le (List.prefix_append _ _) hpre ?_
      rw [toBytes_packHead_length, ← headSize_eq]
      omega
    obtain ⟨rest, rfl⟩ := hhead
    have hle := frame.size_le
    rw [headSize_eq, maxPacketBufSize_eq] at hle
    rw [List.length_append, toBytes_packHead_length, frame.length_eq] at hlen
    rw [readPacket_of_head hb.shows, frame.size_toInt, maxPacketBufSize_eq, if_neg (by omega),
      if_pos (by omega)]

/-- A complete frame is taken. -/
theorem readPacket_of_frame {b : StreamBuffer} {frame : Frame} {rest : List UInt8}
    (hb : b.Holds (frame.bytes ++ rest)) :
    ∃ pkt, packetContent pkt = frame.content ∧
      readPacket b = (some pkt, b.advance frame.length) := by
  have hle := frame.size_le
  rw [headSize_eq, maxPacketBufSize_eq] at hle
  rw [Frame.bytes, frameBytes, List.append_assoc] at hb
  obtain ⟨pkt, hpkt, htake⟩ := takePacket_spec hb.shows frame.size_toInt
    (by rw [List.length_append]; omega) (by rw [maxPacketBufSize_eq]; omega)
  refine ⟨pkt, ?_, ?_⟩
  · rw [hpkt, List.take_left]
    rfl
  · rw [readPacket_of_head hb.shows, frame.size_toInt, maxPacketBufSize_eq, if_neg (by omega),
      if_neg (by rw [List.length_append]; omega), htake, frame.length_eq]
    rfl

/-! ## The whole call -/

theorem framesWithin_of_short {frames : List Frame} {p : Nat}
    (h : ∀ frame, frames.head? = some frame → p < frame.length) :
    framesWithin (frames.map Frame.length) p = 0 := by
  cases frames with
  | nil => rfl
  | cons frame frames =>
    have hlt := h frame rfl
    rw [List.map_cons, framesWithin, if_neg (by omega)]

/-- The loop takes the complete frames in order, up to its limit. -/
theorem readPackets_spec (limit : Nat) :
    ∀ (frames : List Frame) (b : StreamBuffer) (bs : List UInt8), b.Holds bs →
      bs <+: Frame.stream frames →
      let k := min limit (framesWithin (frames.map Frame.length) bs.length)
      (readPackets limit b).1.map packetContent = (frames.take k).map Frame.content ∧
        (readPackets limit b).2.Holds (bs.drop (prefixBytes (frames.map Frame.length) k)) := by
  induction limit with
  | zero =>
    intro frames b bs hb _
    simp only [Nat.zero_min, readPackets]
    exact ⟨rfl, hb⟩
  | succ limit ih =>
    intro frames b bs hb hpre
    by_cases hframe : ∃ frame rest, frames.head? = some frame ∧ bs = frame.bytes ++ rest
    · obtain ⟨frame, rest, hhead, rfl⟩ := hframe
      obtain ⟨frames, rfl⟩ : ∃ tail, frames = frame :: tail := by
        cases frames with
        | nil => cases hhead
        | cons f tail =>
          injection hhead with hf
          exact ⟨tail, by rw [hf]⟩
      obtain ⟨pkt, hpkt, hread⟩ := readPacket_of_frame hb
      have hadv : (b.advance frame.length).Holds rest := hb.advance
      have hrest : rest <+: Frame.stream frames := by
        rw [Frame.stream, List.flatMap_cons, List.prefix_append_right_inj] at hpre
        exact hpre
      have hwithin : framesWithin ((frame :: frames).map Frame.length)
          (frame.bytes ++ rest).length = framesWithin (frames.map Frame.length) rest.length + 1 := by
        rw [List.map_cons, framesWithin, List.length_append, ← Frame.length,
          if_pos (Nat.le_add_right _ _), Nat.add_sub_cancel_left]
      simp only [readPackets, hread, hwithin, Nat.succ_min_succ]
      by_cases hempty : (b.advance frame.length).isEmpty = true
      · -- Nothing is left: the buffer starts over.
        have hnil : rest = [] := by
          have hlen := congrArg List.length hadv.eq
          have hpos : (b.advance frame.length).rPos = (b.advance frame.length).wPos := by
            simpa [isEmpty] using hempty
          rw [unread_length, hpos, Nat.sub_self] at hlen
          exact List.eq_nil_of_length_eq_zero hlen.symm
        subst hnil
        have hzero : framesWithin (frames.map Frame.length) ([] : List UInt8).length = 0 := by
          apply framesWithin_of_short
          intro f _
          rw [f.length_eq, List.length_nil]
          omega
        rw [if_pos hempty, hzero]
        refine ⟨?_, ?_⟩
        · simp [hpkt]
        · rw [List.append_nil, List.map_cons, prefixBytes_cons_succ]
          simpa [Frame.length] using reset_holds (b.advance frame.length)
      · rw [if_neg hempty]
        obtain ⟨hcontent, hbuf⟩ := ih frames (b.advance frame.length) rest hadv hrest
        refine ⟨?_, ?_⟩
        · rw [List.map_cons, hpkt, hcontent]
          rfl
        · rw [List.map_cons, prefixBytes_cons_succ, ← List.drop_drop, Frame.length, List.drop_left]
          exact hbuf
    · have hzero : framesWithin (frames.map Frame.length) bs.length = 0 ∧
          readPacket b = (none, b) := by
        cases frames with
        | nil =>
          have hnil : bs = [] := List.prefix_nil.mp hpre
          exact ⟨rfl, readPacket_of_short hb.shows (by rw [hnil]; decide)⟩
        | cons frame frames =>
          have hfirst : frame.bytes <+: Frame.stream (frame :: frames) := by
            rw [Frame.stream, List.flatMap_cons]
            exact List.prefix_append _ _
          have hlt : bs.length < frame.length := by
            by_contra hge
            obtain ⟨rest, hrest⟩ := List.prefix_of_prefix_length_le hfirst hpre (by
              rw [← Frame.length]
              omega)
            exact hframe ⟨frame, rest, rfl, hrest.symm⟩
          refine ⟨?_, ?_⟩
          · apply framesWithin_of_short
            intro f hf
            injection hf with hf
            rw [← hf]
            exact hlt
          · exact readPacket_of_incomplete hb
              (List.prefix_of_prefix_length_le hpre hfirst (Nat.le_of_lt hlt)) hlt
      obtain ⟨hwithin, hread⟩ := hzero
      simp only [readPackets, hread, hwithin, Nat.min_zero]
      exact ⟨rfl, hb⟩

end FtMmi.Socket
