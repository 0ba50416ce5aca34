/-
FtMmi.Socket.ReferenceDecoder — `OnReadPackets` on any content of the
receive buffer.

`front` says what stands at the front of a row of bytes: a complete frame,
the beginning of one, or a header that no frame has. `completeFrames` and
`behindFrames` are the decoder that follows from it, written over the
bytes alone; `completeFrames_append` shows that they take the bytes apart
and lose none.

`readPacket_front` is one iteration of the loop in these terms, and
`readPackets_decodes` the loop, by induction on the iterations left.
`tracedPackets` is the loop with every read of the array in a record, and
`tracedPackets_snd` says that the record is all that was added.
-/
import FtMmi.Socket.ReadPackets

namespace FtMmi.Socket

open FtMmi.Lib
open FtMmi.Network
open FtMmi.Network.StreamBuffer

/-! ## The reference -/

/-- What stands at the front of some bytes. -/
inductive Front where
  | incomplete
  | invalid
  | frame (idMsg : Int32) (payload rest : List UInt8)
  deriving DecidableEq, Repr

def front (bs : List UInt8) : Front :=
  if bs.length < headSize then .incomplete
  else
    let head : PackHead := ofBytes (bs.take headSize)
    let behind := bs.drop headSize
    if head.size.toInt < 0 ∨ (maxPacketBufSize : Int) < head.size.toInt then .invalid
    else if (behind.length : Int) < head.size.toInt then .incomplete
    else .frame head.idMsg (behind.take head.size.toInt.toNat) (behind.drop head.size.toInt.toNat)

/-- Eight bytes are the image of a header. -/
theorem toBytes_ofBytes_packHead {bs : List UInt8} (h : bs.length = headSize) :
    toBytes (ofBytes bs : PackHead) = bs := by
  rw [headSize_eq] at h
  show toBytes (ofBytes (bs.take 4) : Int32) ++ toBytes (ofBytes (bs.drop 4) : Int32) = bs
  rw [toBytes_ofBytes_int32 (by rw [List.length_take]; omega),
    toBytes_ofBytes_int32 (by rw [List.length_drop]; omega), List.take_append_drop]

/-- With enough bytes for a header, there is one, and its size decides. -/
theorem front_cases (bs : List UInt8) :
    (bs.length < headSize ∧ front bs = .incomplete) ∨
    ∃ (head : PackHead) (behind : List UInt8), bs = toBytes head ++ behind ∧
      front bs =
        if head.size.toInt < 0 ∨ (maxPacketBufSize : Int) < head.size.toInt then .invalid
        else if (behind.length : Int) < head.size.toInt then .incomplete
        else .frame head.idMsg (behind.take head.size.toInt.toNat)
          (behind.drop head.size.toInt.toNat) := by
  by_cases hshort : bs.length < headSize
  · exact .inl ⟨hshort, by rw [front, if_pos hshort]⟩
  · have htake : (bs.take headSize).length = headSize := by
      rw [List.length_take]
      omega
    refine .inr ⟨ofBytes (bs.take headSize), bs.drop headSize, ?_, ?_⟩
    · rw [toBytes_ofBytes_packHead htake, List.take_append_drop]
    · rw [front, if_neg hshort]

theorem int32_ofNat_toInt {n : Int32} (h : 0 ≤ n.toInt) : Int32.ofNat n.toInt.toNat = n := by
  apply Int32.toInt_inj.mp
  have hlt := n.toInt_lt
  rw [Int32.toInt_ofNat_of_lt (by omega)]
  omega

/-- A complete frame is a header with the size of the payload, the payload, and
what follows. -/
theorem front_frame {bs payload rest : List UInt8} {idMsg : Int32}
    (h : front bs = .frame idMsg payload rest) :
    bs = frameBytes idMsg payload ++ rest ∧ payload.length ≤ maxPacketBufSize := by
  rcases front_cases bs with ⟨_, hfront⟩ | ⟨head, behind, hbs, hfront⟩
  · rw [hfront] at h
    cases h
  · rw [hfront] at h
    split at h
    · cases h
    · rename_i hsize
      split at h
      · cases h
      · rename_i hlen
        cases h
        have htake : (behind.take head.size.toInt.toNat).length = head.size.toInt.toNat := by
          rw [List.length_take]
          omega
        rw [frameBytes, htake, int32_ofNat_toInt (by omega), List.append_assoc,
          List.take_append_drop]
        exact ⟨hbs, by omega⟩

theorem front_shorter {bs payload rest : List UInt8} {idMsg : Int32}
    (h : front bs = .frame idMsg payload rest) : rest.length < bs.length := by
  obtain ⟨hbs, _⟩ := front_frame h
  rw [hbs, List.length_append, frameBytes_length]
  omega

/-- The frames before the first bytes that are none. -/
def completeFrames (bs : List UInt8) : List (Int32 × List UInt8) :=
  match _h : front bs with
  | .frame idMsg payload rest => (idMsg, payload) :: completeFrames rest
  | .incomplete => []
  | .invalid => []
termination_by bs.length
decreasing_by exact front_shorter _h

/-- What is behind the first `n` of them, or behind all of them. -/
def behindFrames : Nat → List UInt8 → List UInt8
  | 0, bs => bs
  | n + 1, bs =>
      match front bs with
      | .frame _ _ rest => behindFrames n rest
      | .incomplete => bs
      | .invalid => bs

theorem completeFrames_of_frame {bs payload rest : List UInt8} {idMsg : Int32}
    (h : front bs = .frame idMsg payload rest) :
    completeFrames bs = (idMsg, payload) :: completeFrames rest := by
  rw [completeFrames]
  split
  · rename_i hfront
    rw [h] at hfront
    cases hfront
    rfl
  · rename_i hfront
    rw [h] at hfront
    cases hfront
  · rename_i hfront
    rw [h] at hfront
    cases hfront

theorem completeFrames_of_none {bs : List UInt8}
    (h : ∀ idMsg payload rest, front bs ≠ .frame idMsg payload rest) :
    completeFrames bs = [] := by
  rw [completeFrames]
  split
  · rename_i hfront
    exact absurd hfront (h _ _ _)
  · rfl
  · rfl

theorem behindFrames_of_none {bs : List UInt8}
    (h : ∀ idMsg payload rest, front bs ≠ .frame idMsg payload rest) (n : Nat) :
    behindFrames n bs = bs := by
  cases n with
  | zero => rfl
  | succ n =>
    rw [behindFrames]
    split
    · rename_i hfront
      exact absurd hfront (h _ _ _)
    · rfl
    · rfl

/-- The decoder takes the bytes apart: the frames, and the rest. -/
theorem completeFrames_append (n : Nat) :
    ∀ bs : List UInt8,
      bs = ((completeFrames bs).take n).flatMap (fun f => frameBytes f.1 f.2)
        ++ behindFrames n bs := by
  induction n with
  | zero => intro bs; rfl
  | succ n ih =>
    intro bs
    cases hfront : front bs with
    | frame idMsg payload rest =>
      rw [completeFrames_of_frame hfront, behindFrames, hfront, List.take_succ_cons,
        List.flatMap_cons, List.append_assoc, ← ih rest]
      exact (front_frame hfront).1
    | incomplete =>
      have hnone : ∀ idMsg payload rest, front bs ≠ .frame idMsg payload rest := by
        simp [hfront]
      rw [completeFrames_of_none hnone, behindFrames_of_none hnone]
      rfl
    | invalid =>
      have hnone : ∀ idMsg payload rest, front bs ≠ .frame idMsg payload rest := by
        simp [hfront]
      rw [completeFrames_of_none hnone, behindFrames_of_none hnone]
      rfl

/-! ## One iteration -/

/-- An iteration of the loop does what the front of the unread bytes says. -/
theorem readPacket_front {b : StreamBuffer} {bs : List UInt8} (hb : b.Shows bs) :
    match front bs with
    | .incomplete => readPacket b = (none, b)
    | .invalid => readPacket b = (none, b.reset)
    | .frame idMsg payload _ => ∃ pkt, packetContent pkt = (idMsg, payload) ∧
        readPacket b = (some pkt, b.advance (frameBytes idMsg payload).length) := by
  rcases front_cases bs with ⟨hshort, hfront⟩ | ⟨head, behind, rfl, hfront⟩
  · rw [hfront]
    exact readPacket_of_short hb hshort
  · have hread := readPacket_of_head hb
    rw [hfront]
    by_cases hbad : head.size.toInt < 0 ∨ (maxPacketBufSize : Int) < head.size.toInt
    · rw [if_pos hbad] at hread ⊢
      exact hread
    · rw [if_neg hbad] at hread ⊢
      by_cases hcut : (behind.length : Int) < head.size.toInt
      · rw [if_pos hcut] at hread ⊢
        exact hread
      · rw [if_neg hcut] at hread ⊢
        have hsize : head.size.toInt = (head.size.toInt.toNat : Int) := by omega
        obtain ⟨pkt, hpkt, htake⟩ := takePacket_spec hb hsize (by omega) (by omega)
        refine ⟨pkt, hpkt, ?_⟩
        rw [hread, htake, frameBytes_length, List.length_take, headSize_eq,
          Nat.min_eq_left (by omega)]

/-! ## The loop -/

/-- The next bytes are an invalid header, and there is an iteration left to see it. -/
def MeetsInvalid (limit : Nat) (bs : List UInt8) : Prop :=
  (completeFrames bs).length < limit ∧ front (behindFrames limit bs) = .invalid

instance (limit : Nat) (bs : List UInt8) : Decidable (MeetsInvalid limit bs) :=
  inferInstanceAs (Decidable (_ ∧ _))

theorem meetsInvalid_of_frame {bs payload rest : List UInt8} {idMsg : Int32}
    (h : front bs = .frame idMsg payload rest) (limit : Nat) :
    MeetsInvalid (limit + 1) bs ↔ MeetsInvalid limit rest := by
  rw [MeetsInvalid, MeetsInvalid, completeFrames_of_frame h, behindFrames, h, List.length_cons]
  simp only [Nat.add_lt_add_iff_right]

/-- What is left unread after up to `limit` iterations. -/
def leftUnread (limit : Nat) (bs : List UInt8) : List UInt8 :=
  if MeetsInvalid limit bs then [] else behindFrames limit bs

theorem readPackets_decodes (limit : Nat) :
    ∀ (b : StreamBuffer) (bs : List UInt8), b.Shows bs →
      (readPackets limit b).1.map packetContent = (completeFrames bs).take limit ∧
        (readPackets limit b).2.Shows (leftUnread limit bs) := by
  induction limit with
  | zero =>
    intro b bs hb
    rw [leftUnread, if_neg fun h => absurd h.1 (Nat.not_lt_zero _)]
    exact ⟨rfl, hb⟩
  | succ limit ih =>
    intro b bs hb
    have hread := readPacket_front hb
    cases hfront : front bs with
    | frame idMsg payload rest =>
      rw [hfront] at hread
      obtain ⟨pkt, hpkt, hread⟩ := hread
      obtain ⟨rfl, _⟩ := front_frame hfront
      have hnext : (b.advance (frameBytes idMsg payload).length).Shows rest := hb.advance
      have hleft : leftUnread (limit + 1) (frameBytes idMsg payload ++ rest)
          = leftUnread limit rest := by
        rw [leftUnread, leftUnread, behindFrames, hfront]
        simp only [meetsInvalid_of_frame hfront]
      rw [completeFrames_of_frame hfront, hleft, List.take_succ_cons]
      simp only [readPackets, hread]
      by_cases hempty : (b.advance (frameBytes idMsg payload).length).isEmpty = true
      · -- Nothing is behind the frame, and the buffer starts over.
        have hnil : rest = [] := by
          have hlen := congrArg List.length hnext.eq
          have hpos := of_decide_eq_true hempty
          rw [unread_length, hpos, Nat.sub_self] at hlen
          exact List.eq_nil_of_length_eq_zero hlen.symm
        have hnone : ∀ idMsg payload rest', front rest ≠ .frame idMsg payload rest' := by
          rw [hnil]
          simp [front, headSize_eq]
        have hvalid : ¬ MeetsInvalid limit rest := by
          rw [MeetsInvalid, behindFrames_of_none hnone, hnil]
          simp [front, headSize_eq]
        rw [if_pos hempty, completeFrames_of_none hnone, leftUnread, if_neg hvalid,
          behindFrames_of_none hnone, hnil]
        exact ⟨by simp [hpkt], (reset_holds _).shows⟩
      · rw [if_neg hempty]
        obtain ⟨hcontent, hbuf⟩ := ih _ _ hnext
        exact ⟨by rw [List.map_cons, hpkt, hcontent], hbuf⟩
    | incomplete =>
      rw [hfront] at hread
      have hnone : ∀ idMsg payload rest, front bs ≠ .frame idMsg payload rest := by
        simp [hfront]
      have hvalid : ¬ MeetsInvalid (limit + 1) bs := by
        rw [MeetsInvalid, behindFrames_of_none hnone, hfront]
        simp
      rw [completeFrames_of_none hnone, leftUnread, if_neg hvalid, behindFrames_of_none hnone]
      simp only [readPackets, hread]
      exact ⟨rfl, hb⟩
    | invalid =>
      rw [hfront] at hread
      have hnone : ∀ idMsg payload rest, front bs ≠ .frame idMsg payload rest := by
        simp [hfront]
      have hinvalid : MeetsInvalid (limit + 1) bs := by
        rw [MeetsInvalid, behindFrames_of_none hnone, completeFrames_of_none hnone]
        exact ⟨Nat.succ_pos limit, hfront⟩
      rw [completeFrames_of_none hnone, leftUnread, if_pos hinvalid]
      simp only [readPackets, hread]
      exact ⟨rfl, (reset_holds b).shows⟩

/-! ## Where the loop looks -/

/-- The bytes of a span of the array, and in front the span, its start and its length. -/
def look (circBuf : StreamBuffer) (offset size : Nat) : List (Nat × Nat) × List UInt8 :=
  ([(circBuf.rPos + offset, size)], (circBuf.readBuf.drop offset).take size)

/-- `takePacket`, with the reads. -/
def tracedTake (circBuf : StreamBuffer) (head : PackHead) :
    List (Nat × Nat) × Option NetPacket × StreamBuffer :=
  let pkt := NetPacket.create head.idMsg
  let r :=
    if 0 < head.size.toInt then
      let payload := look circBuf headSize head.size.toInt.toNat
      (payload.1, pkt.writeBytes payload.2)
    else ([], true, pkt.toStreamBuffer)
  if !r.2.1 then (r.1, none, circBuf)
  else
    let pkt : NetPacket := { r.2.2 with msgId := head.idMsg }
    let s := circBuf.seekReadPos pkt.getPacketLength
    if !s.1 then (r.1, none, circBuf.reset) else (r.1, some pkt, s.2)

/-- `readPacket`, with the reads. -/
def tracedPacket (circBuf : StreamBuffer) : List (Nat × Nat) × Option NetPacket × StreamBuffer :=
  let unreadSize := circBuf.unreadSize
  if unreadSize < headSize then ([], none, circBuf)
  else
    let dataSize := unreadSize - headSize
    let buf := look circBuf 0 headSize
    let head : PackHead := ofBytes buf.2
    if head.size.toInt < 0 ∨ (maxPacketBufSize : Int) < head.size.toInt then
      (buf.1, none, circBuf.reset)
    else if (dataSize : Int) < head.size.toInt then (buf.1, none, circBuf)
    else
      let r := tracedTake circBuf head
      (buf.1 ++ r.1, r.2)

/-- `readPackets`, with the reads. -/
def tracedPackets : Nat → StreamBuffer → List (Nat × Nat) × List NetPacket × StreamBuffer
  | 0, circBuf => ([], [], circBuf)
  | n + 1, circBuf =>
      match tracedPacket circBuf with
      | (spans, none, circBuf) => (spans, [], circBuf)
      | (spans, some pkt, circBuf) =>
          if circBuf.isEmpty then (spans, [pkt], circBuf.reset)
          else
            let r := tracedPackets n circBuf
            (spans ++ r.1, pkt :: r.2.1, r.2.2)

/-- The spans of the array that the loop looks at. -/
def readPacketsSpans (limit : Nat) (circBuf : StreamBuffer) : List (Nat × Nat) :=
  (tracedPackets limit circBuf).1

theorem tracedTake_snd (b : StreamBuffer) (head : PackHead) :
    (tracedTake b head).2 = takePacket b head := by
  unfold tracedTake takePacket look
  by_cases hsize : 0 < head.size.toInt
  · simp only [if_pos hsize]
    split
    · rfl
    · split <;> rfl
  · simp only [if_neg hsize]
    split
    · rfl
    · split <;> rfl

theorem tracedPacket_snd (b : StreamBuffer) : (tracedPacket b).2 = readPacket b := by
  unfold tracedPacket readPacket look
  rw [List.drop_zero]
  simp only
  split
  · rfl
  · split
    · rfl
    · split
      · rfl
      · exact tracedTake_snd b _

theorem tracedPackets_snd (limit : Nat) :
    ∀ b : StreamBuffer, (tracedPackets limit b).2 = readPackets limit b := by
  induction limit with
  | zero => intro b; rfl
  | succ limit ih =>
    intro b
    rw [tracedPackets, readPackets, ← tracedPacket_snd]
    rcases tracedPacket b with ⟨spans, pkt, b'⟩
    cases pkt with
    | none => rfl
    | some pkt =>
      simp only
      split
      · rfl
      · rw [← ih b']

/-- Within the unread bytes of `b`. -/
def InWindow (b : StreamBuffer) (span : Nat × Nat) : Prop :=
  b.rPos ≤ span.1 ∧ span.1 + span.2 ≤ b.wPos

theorem tracedTake_inWindow {b : StreamBuffer} {head : PackHead}
    (h : b.rPos + headSize + head.size.toInt.toNat ≤ b.wPos) :
    ∀ span ∈ (tracedTake b head).1, InWindow b span := by
  have hpayload : InWindow b (b.rPos + headSize, head.size.toInt.toNat) := ⟨by omega, h⟩
  unfold tracedTake look
  by_cases hsize : 0 < head.size.toInt
  · simp only [if_pos hsize]
    split
    · simpa using hpayload
    · split <;> simpa using hpayload
  · simp only [if_neg hsize]
    split
    · simp
    · split <;> simp

theorem tracedPacket_inWindow (b : StreamBuffer) :
    ∀ span ∈ (tracedPacket b).1, InWindow b span := by
  have hsize : b.unreadSize = b.wPos - b.rPos := by rw [unreadSize_eq, unread_length]
  intro span hspan
  unfold tracedPacket at hspan
  simp only at hspan
  split at hspan
  · cases hspan
  · rename_i hhead
    have hfits : b.rPos + headSize ≤ b.wPos := by
      rw [headSize_eq] at hhead ⊢
      omega
    have hbuf : ∀ span ∈ (look b 0 headSize).1, InWindow b span := by
      intro span hspan
      rw [look, List.mem_singleton] at hspan
      rw [hspan]
      exact ⟨Nat.le_refl _, hfits⟩
    split at hspan
    · exact hbuf span hspan
    · split at hspan
      · exact hbuf span hspan
      · rename_i hdata
        rcases List.mem_append.mp hspan with hspan | hspan
        · exact hbuf span hspan
        · exact tracedTake_inWindow (by omega) span hspan

theorem readPacketsSpans_inWindow (limit : Nat) :
    ∀ b : StreamBuffer, b.rPos ≤ b.wPos →
      ∀ span ∈ readPacketsSpans limit b, InWindow b span := by
  induction limit with
  | zero =>
    intro b _ span hspan
    cases hspan
  | succ limit ih =>
    intro b hle span hspan
    have hread := readPacket_front (b := b) ⟨hle, rfl⟩
    have hwindow := tracedPacket_inWindow b
    rw [← tracedPacket_snd b] at hread
    rw [readPacketsSpans, tracedPackets] at hspan
    obtain ⟨⟨spans, pkt, b'⟩, htraced⟩ : ∃ r, tracedPacket b = r := ⟨_, rfl⟩
    rw [htraced] at hread hwindow hspan
    cases pkt with
    | none => exact hwindow span hspan
    | some pkt =>
      simp only at hspan
      split at hspan
      · exact hwindow span hspan
      · rcases List.mem_append.mp hspan with hspan | hspan
        · exact hwindow span hspan
        · cases hfront : front b.unread with
          | frame idMsg payload rest =>
            rw [hfront] at hread
            obtain ⟨_, _, hread⟩ := hread
            obtain rfl : b' = b.advance (frameBytes idMsg payload).length :=
              congrArg Prod.snd hread
            have hnext : (b.advance (frameBytes idMsg payload).length).Shows rest :=
              Shows.advance ⟨hle, (front_frame hfront).1⟩
            obtain ⟨hstart, hend⟩ := ih _ hnext.le span hspan
            rw [advance_rPos] at hstart
            exact ⟨by omega, hend⟩
          | incomplete =>
            rw [hfront] at hread
            cases congrArg Prod.fst hread
          | invalid =>
            rw [hfront] at hread
            cases congrArg Prod.fst hread

/-! ## The whole call -/

/-- With the read position behind the write position there is nothing to read. -/
theorem readPackets_of_past {b : StreamBuffer} (h : b.wPos < b.rPos) (limit : Nat) :
    readPackets limit b = ([], b) ∧ readPacketsSpans limit b = [] := by
  have hsize : b.unreadSize < headSize := by
    rw [unreadSize_eq, unread_length, headSize_eq]
    omega
  have hread : readPacket b = (none, b) := by rw [readPacket, if_pos hsize]
  have htraced : tracedPacket b = ([], none, b) := by rw [tracedPacket, if_pos hsize]
  cases limit with
  | zero => exact ⟨rfl, rfl⟩
  | succ limit => simp [readPackets, readPacketsSpans, tracedPackets, hread, htraced]

/-- On any content of the buffer, `OnReadPackets` delivers the first complete
frames, at most `ONCE_PROCESS_NETPACKET_LIMIT` of them; it discards the
rest when it meets an invalid header and leaves it unread if not; and it
looks at unread bytes only. -/
theorem onReadPackets_decodes (b : StreamBuffer) :
    (onReadPackets b).1.map packetContent
        = (completeFrames b.unread).take onceProcessNetpacketLimit ∧
      b.unread = (onReadPackets b).1.flatMap NetPacket.frame
        ++ behindFrames onceProcessNetpacketLimit b.unread ∧
      (onReadPackets b).2.unread
        = (if MeetsInvalid onceProcessNetpacketLimit b.unread then []
          else behindFrames onceProcessNetpacketLimit b.unread) ∧
      ∀ span ∈ readPacketsSpans onceProcessNetpacketLimit b, InWindow b span := by
  have hcall : (onReadPackets b).1.map packetContent
        = (completeFrames b.unread).take onceProcessNetpacketLimit ∧
      (onReadPackets b).2.unread = leftUnread onceProcessNetpacketLimit b.unread ∧
      ∀ span ∈ readPacketsSpans onceProcessNetpacketLimit b, InWindow b span := by
    by_cases hle : b.rPos ≤ b.wPos
    · obtain ⟨hcontent, hbuf⟩ := readPackets_decodes onceProcessNetpacketLimit b b.unread ⟨hle, rfl⟩
      exact ⟨hcontent, hbuf.eq, readPacketsSpans_inWindow _ b hle⟩
    · obtain ⟨hread, hspans⟩ := readPackets_of_past (not_le.mp hle) onceProcessNetpacketLimit
      have hnil : b.unread = [] := List.eq_nil_of_length_eq_zero (by rw [unread_length]; omega)
      have hnone : ∀ idMsg payload rest, front [] ≠ .frame idMsg payload rest := by
        simp [front, headSize_eq]
      have hleft : leftUnread onceProcessNetpacketLimit [] = [] := by
        rw [leftUnread, behindFrames_of_none hnone, ite_self]
      rw [onReadPackets, hread, hspans, hnil, completeFrames_of_none hnone, hleft]
      simp
  obtain ⟨hcontent, hleft, hspans⟩ := hcall
  refine ⟨hcontent, ?_, hleft, hspans⟩
  have hframes : (onReadPackets b).1.flatMap NetPacket.frame
      = ((onReadPackets b).1.map packetContent).flatMap fun f => frameBytes f.1 f.2 := by
    rw [List.flatMap_map]
    rfl
  rw [hframes, hcontent]
  exact completeFrames_append onceProcessNetpacketLimit b.unread

end FtMmi.Socket
