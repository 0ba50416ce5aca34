/-
FtMmi.Network.NetPacket — packets and their frames (`net_packet.h`,
`net_packet.cpp`).

A packet is a stream buffer with a message id. On the socket it is a
frame: an 8-byte header with the id and the payload size, and the
payload.
-/
import FtMmi.Network.StreamBufferTheorems

namespace FtMmi.Network

open FtMmi.Lib

/-- `PACKHEAD`, packed. -/
structure PackHead where
  idMsg : Int32
  size : Int32
  deriving DecidableEq, Repr

instance : ByteImage PackHead :=
  .ofLeftInverse (fun head => (head.idMsg, head.size)) (fun p => ⟨p.1, p.2⟩) fun _ => rfl

/-- `sizeof(PackHead)` -/
def headSize : Nat := byteSize PackHead

theorem headSize_eq : headSize = 8 := rfl

@[simp] theorem toBytes_packHead_length (head : PackHead) : (toBytes head).length = 8 :=
  ByteImage.toBytes_length head

/-- The header and the payload of a frame. -/
def frameBytes (idMsg : Int32) (payload : List UInt8) : List UInt8 :=
  toBytes (PackHead.mk idMsg (Int32.ofNat payload.length)) ++ payload

theorem frameBytes_length (idMsg : Int32) (payload : List UInt8) :
    (frameBytes idMsg payload).length = 8 + payload.length := by
  rw [frameBytes, List.length_append, toBytes_packHead_length]

structure NetPacket extends StreamBuffer where
  msgId : Int32

namespace NetPacket

/-- `NetPacket(MmiMessageId)` -/
def create (msgId : Int32) : NetPacket := { StreamBuffer.create with msgId }

/-- A new packet with a payload written to it. -/
def ofPayload (msgId : Int32) (data : List UInt8) (h : data.length ≤ maxStreamBufSize) :
    NetPacket :=
  { StreamBuffer.create.append data ((Nat.zero_add _).symm ▸ h) with msgId }

theorem ofPayload_wPos (msgId : Int32) (data : List UInt8) (h) :
    (ofPayload msgId data h).wPos = data.length := Nat.zero_add _

/-- The bytes stored in the packet. -/
def payload (pkt : NetPacket) : List UInt8 := pkt.toStreamBuffer.written

@[simp] theorem payload_length (pkt : NetPacket) : pkt.payload.length = pkt.wPos :=
  pkt.toStreamBuffer.written_length

theorem ofPayload_payload (msgId : Int32) (data : List UInt8) (h) :
    (ofPayload msgId data h).payload = data :=
  StreamBuffer.append_written StreamBuffer.create data _

def getPacketLength (pkt : NetPacket) : Nat := headSize + pkt.wPos

/-- The frame of a packet. -/
def frame (pkt : NetPacket) : List UInt8 := frameBytes pkt.msgId pkt.payload

@[simp] theorem frame_length (pkt : NetPacket) : pkt.frame.length = 8 + pkt.wPos := by
  rw [frame, frameBytes_length, payload_length]

theorem ofPayload_frame (msgId : Int32) (data : List UInt8) (h) :
    (ofPayload msgId data h).frame = frameBytes msgId data := by
  rw [frame, ofPayload_payload]
  rfl

/-- `MakeData(StreamBuffer &)`. The results of the two writes are not used. -/
def makeData (pkt : NetPacket) (buf : StreamBuffer) : StreamBuffer :=
  let buf := buf.insert (PackHead.mk pkt.msgId (Int32.ofNat pkt.wPos))
  if 0 < pkt.wPos then (buf.writeBytes (pkt.szBuff.take pkt.wPos)).2 else buf

/-- The buffer after the header was written to a new one. -/
theorem insert_head (head : PackHead) :
    (StreamBuffer.create.insert head).Holds (toBytes head) := by
  rw [StreamBuffer.insert_eq]
  have hfit : StreamBuffer.create.wPos + (toBytes head).length ≤ maxStreamBufSize := by
    rw [toBytes_packHead_length]
    decide
  have hw := StreamBuffer.writeBytes_of_fits rfl (toBytes_ne_nil head) hfit
  exact StreamBuffer.create_holds.of_writeBytes (congrArg Prod.fst hw)

theorem insert_head_wPos (head : PackHead) : (StreamBuffer.create.insert head).wPos = 8 := by
  have hlen := congrArg List.length (insert_head head).eq
  have hpos : (StreamBuffer.create.insert head).rPos = 0 := by
    rw [StreamBuffer.insert_eq, StreamBuffer.writeBytes_rPos]
    rfl
  rw [StreamBuffer.unread_length, toBytes_packHead_length, hpos] at hlen
  omega

/-- While header and payload fit into a stream buffer, `MakeData` makes the
frame. -/
theorem makeData_holds (pkt : NetPacket) (hfit : 8 + pkt.wPos ≤ maxStreamBufSize) :
    (pkt.makeData StreamBuffer.create).Holds pkt.frame := by
  have hhead := insert_head (PackHead.mk pkt.msgId (Int32.ofNat pkt.wPos))
  have hlen : (pkt.szBuff.take pkt.wPos).length = pkt.wPos := pkt.payload_length
  rw [frame, frameBytes, payload_length, makeData]
  by_cases hpos : 0 < pkt.wPos
  · simp only [if_pos hpos]
    have hne : pkt.szBuff.take pkt.wPos ≠ [] := List.ne_nil_of_length_pos (by omega)
    have hw := StreamBuffer.writeBytes_of_fits hhead.ok hne
      (by rw [insert_head_wPos, hlen]; exact hfit)
    exact hhead.of_writeBytes (congrArg Prod.fst hw)
  · simp only [if_neg hpos]
    have hnil : pkt.payload = [] := List.eq_nil_of_length_eq_zero (by rw [payload_length]; omega)
    rw [hnil, List.append_nil]
    exact hhead

/-- A larger payload is not written, and the header stays alone. -/
theorem makeData_written_of_large (pkt : NetPacket) (hlarge : maxStreamBufSize < 8 + pkt.wPos) :
    (pkt.makeData StreamBuffer.create).written
      = toBytes (PackHead.mk pkt.msgId (Int32.ofNat pkt.wPos)) := by
  have hhead := insert_head (PackHead.mk pkt.msgId (Int32.ofNat pkt.wPos))
  have hlen : (pkt.szBuff.take pkt.wPos).length = pkt.wPos := pkt.payload_length
  have hmax : maxStreamBufSize = 16384 := rfl
  have hpos : 0 < pkt.wPos := by omega
  have hread : (StreamBuffer.create.insert (PackHead.mk pkt.msgId (Int32.ofNat pkt.wPos))).rPos
      = 0 := by
    rw [StreamBuffer.insert_eq, StreamBuffer.writeBytes_rPos]
    rfl
  simp only [makeData, if_pos hpos]
  rcases StreamBuffer.writeBytes_cases
      (StreamBuffer.create.insert (PackHead.mk pkt.msgId (Int32.ofNat pkt.wPos)))
      (pkt.szBuff.take pkt.wPos) with ⟨_, _, hfit, _⟩ | ⟨_, e, _, heq⟩
  · rw [insert_head_wPos, hlen] at hfit
    omega
  · rw [heq, ← hhead.eq, StreamBuffer.unread, hread, List.drop_zero]
    rfl

/-- What is read from the beginning is all that was written. -/
theorem written_of_holds {b : StreamBuffer} {bs : List UInt8} (hb : b.Holds bs)
    (hpos : b.rPos = 0) : b.written = bs := by
  rw [← hb.eq, StreamBuffer.unread, hpos, List.drop_zero]

theorem makeData_rPos (pkt : NetPacket) : (pkt.makeData StreamBuffer.create).rPos = 0 := by
  unfold makeData
  simp only
  split
  · rw [StreamBuffer.writeBytes_rPos, StreamBuffer.insert_eq, StreamBuffer.writeBytes_rPos]
    rfl
  · rw [StreamBuffer.insert_eq, StreamBuffer.writeBytes_rPos]
    rfl

end NetPacket

end FtMmi.Network
