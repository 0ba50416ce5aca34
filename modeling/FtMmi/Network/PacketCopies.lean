/-
FtMmi.Network.PacketCopies — copies of a packet (`StreamBuffer::Clone`,
the copy constructors and the assignment in `stream_buffer.cpp` and
`net_packet.cpp`).

`Clone` cleans the target and writes the source's bytes to it through the
checked `Write`. So a copy is unread and without an error, whatever the
source was; and as `Write` refuses to write nothing, the copy of an empty
buffer carries a write error.

`AnswersAlike` compares two buffers by all that reads can tell of them.
Two things besides the written bytes show: the position and the error
status, which `Clone` resets, and the bytes of the array behind the
written ones, which a string read runs into when no NUL ends the string.
-/
import FtMmi.Network.CursorSafety
import FtMmi.Network.NetPacket

namespace FtMmi.Network

open FtMmi.Lib

namespace StreamBuffer

/-! ## Copying -/

/-- `Clone(buf)`, on another object than `buf`. -/
def clone (b buf : StreamBuffer) : Bool × StreamBuffer :=
  b.clean.writeBytes (buf.szBuff.take buf.size)

/-- The ways to copy a buffer. An object assigned to itself is cleaned before
its size is looked at. -/
inductive Copying where
  | constructed
  | assigned (target : StreamBuffer)
  | selfAssigned

def copyBy : Copying → StreamBuffer → StreamBuffer
  | .constructed, buf => (create.clone buf).2
  | .assigned target, buf => (target.clone buf).2
  | .selfAssigned, buf => (buf.clone buf.clean).2

end StreamBuffer

/-- `NetPacket(const NetPacket &)` -/
def NetPacket.copy (pkt : NetPacket) : NetPacket :=
  { ((NetPacket.create pkt.msgId).toStreamBuffer.clone pkt.toStreamBuffer).2 with
    msgId := pkt.msgId }

namespace StreamBuffer

/-! ## What reads can tell -/

/-- The reads of the interface: at a type, into a variable with an old value;
of raw bytes; of the whole buffer into another one. -/
inductive ReadOp : Type 1 where
  | field (t : FieldType) (old : t.Val)
  | bytes (size : Nat)
  | stream (into : StreamBuffer)

@[reducible] def ReadOp.Answer : ReadOp → Type
  | .field t _ => Bool × t.Val
  | .bytes _ => Option (List UInt8)
  | .stream _ => Bool × StreamBuffer

def ReadOp.run : (op : ReadOp) → StreamBuffer → op.Answer × StreamBuffer
  | .field t old, b =>
      let r := read t old b
      ((r.1, r.2.1), r.2.2)
  | .bytes size, b => b.readBytes size
  | .stream into, b => (into.writeBytes (b.szBuff.take b.size), b)

/-- The buffer after a sequence of reads. -/
def afterReads (ops : List ReadOp) (b : StreamBuffer) : StreamBuffer :=
  ops.foldl (fun b op => (op.run b).2) b

/-- After any reads, the next read answers the same on both. -/
def AnswersAlike (b c : StreamBuffer) : Prop :=
  ∀ (earlier : List ReadOp) (op : ReadOp),
    (op.run (afterReads earlier b)).1 = (op.run (afterReads earlier c)).1

/-- The same error status, and the same results of all reads. -/
def Preserves (b c : StreamBuffer) : Prop :=
  c.rwErrorStatus = b.rwErrorStatus ∧ AnswersAlike b c

/-- The buffers that another object can copy: unread, with bytes and without an
error, or without bytes and with the write error a copy will have. The last
byte is a NUL, or the rest of the array holds nothing else. -/
structure Copyable (b : StreamBuffer) : Prop where
  unread : b.rPos = 0
  status : b.rwErrorStatus = if b.wPos = 0 then .write else .ok
  ended : (∀ x ∈ b.written.getLast?, x = 0) ∨ ∀ x ∈ b.szBuff.drop b.wPos, x = 0

/-- Which buffers a way of copying preserves. -/
def Copying.Keeps : Copying → StreamBuffer → Prop
  | .selfAssigned, b => b.rwErrorStatus = .write ∧ b.rPos = 0 ∧ b.wPos = 0
  | _, b => Copyable b

/-! ## What a copy is -/

theorem clone_of_pos (b : StreamBuffer) {buf : StreamBuffer} (hpos : 0 < buf.wPos) :
    b.clone buf = (true, create.append buf.written (by simp [create, buf.wPos_le])) := by
  have hne : buf.written ≠ [] := List.ne_nil_of_length_pos (by simpa using hpos)
  exact writeBytes_of_fits rfl hne _

theorem clone_of_empty (b : StreamBuffer) {buf : StreamBuffer} (hempty : buf.wPos = 0) :
    b.clone buf = (false, create.setError .write) := by
  rw [clone, size, hempty]
  rfl

/-- A copy of bytes has no error, and all of them are unread. -/
theorem clone_holds (b : StreamBuffer) {buf : StreamBuffer} (hpos : 0 < buf.wPos) :
    (b.clone buf).2.Holds buf.written := by
  rw [clone_of_pos b hpos]
  exact create_holds.append buf.written _

/-- Where nothing but NULs lies behind the written bytes, the copy of an unread
buffer is that buffer. -/
theorem clone_eq_self {b : StreamBuffer} (hpos : 0 < b.wPos) (hread : b.rPos = 0)
    (hok : b.rwErrorStatus = .ok) (hzero : ∀ x ∈ b.szBuff.drop b.wPos, x = 0) :
    (create.clone b).2 = b := by
  have htail : b.szBuff.drop b.wPos = List.replicate (maxStreamBufSize + 1 - b.wPos) 0 := by
    rw [List.eq_replicate_iff, List.length_drop, b.szBuff_length]
    exact ⟨rfl, hzero⟩
  have hbytes : b.szBuff.take b.wPos ++ List.replicate (maxStreamBufSize + 1 - b.wPos) 0
      = b.szBuff := by
    rw [← htail, List.take_append_drop]
  rw [clone_of_pos create hpos]
  have hwritten : b.written.length = b.wPos := b.written_length
  unfold append create
  simp only [List.take_zero, List.nil_append, List.drop_replicate, Nat.zero_add, hwritten]
  obtain ⟨status, rPos, wPos, szBuff, hlength, hle⟩ := b
  subst hread hok
  simp only [mk.injEq, true_and]
  exact hbytes

/-! ## Buffers that reads cannot tell apart -/

/-- The same position, status and written bytes, and no string reaches behind
these: the cursor is within them, and they end with a NUL. -/
structure Alike (b c : StreamBuffer) : Prop where
  status : b.rwErrorStatus = c.rwErrorStatus
  rPos : b.rPos = c.rPos
  wPos : b.wPos = c.wPos
  written : b.written = c.written
  le : b.rPos ≤ b.wPos
  ended : ∀ x ∈ b.written.getLast?, x = 0

theorem Alike.unread {b c : StreamBuffer} (h : Alike b c) : b.unread = c.unread := by
  rw [StreamBuffer.unread, StreamBuffer.unread, h.written, h.rPos]

theorem Alike.setError {b c : StreamBuffer} (h : Alike b c) (e : ErrorStatus) :
    Alike (b.setError e) (c.setError e) :=
  { h with status := rfl }

theorem Alike.advance {b c : StreamBuffer} (h : Alike b c) {n : Nat} (hle : b.rPos + n ≤ b.wPos) :
    Alike (b.advance n) (c.advance n) :=
  { h with rPos := congrArg (· + n) h.rPos, le := hle }

theorem readBytes_alike {b c : StreamBuffer} (h : Alike b c) (size : Nat) :
    (b.readBytes size).1 = (c.readBytes size).1 ∧
      Alike (b.readBytes size).2 (c.readBytes size).2 := by
  have hstatus : b.chkRWError = c.chkRWError := by rw [chkRWError, chkRWError, h.status]
  rcases readBytes_cases b size with ⟨hok, hpos, hfit, heq⟩ | ⟨hbad, _⟩
  · rw [heq, readBytes_of_le (h.status ▸ hok) hpos (h.rPos ▸ h.wPos ▸ hfit), h.unread]
    exact ⟨rfl, h.advance hfit⟩
  · unfold StreamBuffer.readBytes
    rw [← hstatus, ← h.rPos, ← h.wPos]
    by_cases hst : b.chkRWError = true
    · rw [if_pos hst, if_pos hst]
      exact ⟨rfl, h⟩
    · rw [if_neg hst, if_neg hst]
      by_cases hz : size = 0
      · rw [if_pos hz, if_pos hz]
        exact ⟨rfl, h.setError .read⟩
      · have hshort : b.wPos < b.rPos + size := by
          rcases hbad with hne | h0 | hlt
          · exact absurd ((chkRWError_eq_true_iff b).mpr hne) hst
          · exact absurd h0 hz
          · exact hlt
        rw [if_neg hz, if_neg hz, if_pos hshort, if_pos hshort]
        exact ⟨rfl, h.setError .read⟩

/-- The unread bytes, where there are any, end with the NUL of the last string. -/
theorem Alike.string {b c : StreamBuffer} (h : Alike b c) (hne : b.rPos ≠ b.wPos) :
    ∃ s rest, b.unread = s ++ 0 :: rest ∧ 0 ∉ s := by
  have hle := h.le
  have hsome : b.unread ≠ [] := List.ne_nil_of_length_pos (by rw [unread_length]; omega)
  have hlast : b.unread.getLast hsome = 0 := by
    apply h.ended
    have hwritten : b.written.drop b.rPos ≠ [] := hsome
    have hfull : b.written ≠ [] := fun h => hwritten (by rw [h, List.drop_nil])
    rw [Option.mem_def, List.getLast?_eq_some_getLast hfull]
    exact congrArg some (List.getLast_drop hwritten).symm
  exact List.eq_append_cons_of_mem (hlast ▸ List.getLast_mem hsome)

theorem readString_alike {b c : StreamBuffer} (h : Alike b c) :
    b.readString.1 = c.readString.1 ∧ b.readString.2.1 = c.readString.2.1 ∧
      Alike b.readString.2.2 c.readString.2.2 := by
  unfold StreamBuffer.readString
  rw [← h.rPos, ← h.wPos]
  by_cases hend : b.rPos = b.wPos
  · rw [if_pos hend, if_pos hend]
    exact ⟨rfl, rfl, h.setError .read⟩
  · obtain ⟨s, rest, hsplit, hs⟩ := h.string hend
    have hle := h.le
    have hlen := congrArg List.length hsplit
    simp only [unread_length, List.length_append, List.length_cons] at hlen
    rw [if_neg hend, if_neg hend, cString_eq hle hsplit hs,
      cString_eq (h.rPos ▸ h.wPos ▸ hle) (h.unread ▸ hsplit) hs]
    exact ⟨rfl, rfl, h.advance (by omega)⟩

/-- A reader that answers alike and keeps buffers alike. -/
def ReadsAlike {α : Type} (read : StreamBuffer → Bool × α × StreamBuffer) : Prop :=
  ∀ {b c : StreamBuffer}, Alike b c →
    (read b).1 = (read c).1 ∧ (read b).2.1 = (read c).2.1 ∧ Alike (read b).2.2 (read c).2.2

theorem ReadsAlike.readLoop {α : Type} {read : StreamBuffer → Bool × α × StreamBuffer}
    (hread : ReadsAlike read) (n : Nat) :
    ∀ data : List α, ReadsAlike fun b => StreamBuffer.readLoop read n data b := by
  induction n with
  | zero => intro data b c h; exact ⟨rfl, rfl, h⟩
  | succ n ih =>
    intro data b c h
    obtain ⟨hret, hval, hnext⟩ := hread h
    simp only [StreamBuffer.readLoop, ← hret, ← hval]
    by_cases hr : (read b).1 = true
    · simp only [if_pos hr]
      exact ih _ hnext
    · simp only [if_neg hr]
      exact ⟨trivial, trivial, hnext⟩

theorem read_alike : ∀ (t : FieldType) (old : t.Val), ReadsAlike fun b => read t old b
  | @FieldType.fixed α _, old, b, c, h => by
      obtain ⟨hval, hnext⟩ := readBytes_alike h (byteSize α)
      simp only [StreamBuffer.read, StreamBuffer.readFixed, hval]
      exact ⟨trivial, trivial, hnext⟩
  | .string, old, b, c, h => by
      obtain ⟨hret, hval, hnext⟩ := readString_alike h
      simp only [StreamBuffer.read, hret, hval]
      exact ⟨trivial, trivial, hnext⟩
  | .vector t, old, b, c, h => by
      obtain ⟨hval, hnext⟩ := readBytes_alike h (byteSize Int32)
      have hfixed : (b.readFixed (α := Int32)).1 = (c.readFixed (α := Int32)).1 :=
        congrArg (Option.map ofBytes) hval
      have hnext' : Alike (b.readFixed (α := Int32)).2 (c.readFixed (α := Int32)).2 := hnext
      simp only [StreamBuffer.read]
      generalize b.readFixed (α := Int32) = r at hfixed hnext'
      generalize c.readFixed (α := Int32) = r' at hfixed hnext'
      obtain ⟨size, b'⟩ := r
      obtain ⟨size', c'⟩ := r'
      obtain rfl : size = size' := hfixed
      cases size with
      | none => exact ⟨rfl, rfl, hnext'⟩
      | some size =>
        by_cases hrange : size.toInt < 0 ∨ (maxVectorSize : Int) < size.toInt
        · simp only [if_pos hrange]
          exact ⟨trivial, trivial, hnext'⟩
        · simp only [if_neg hrange]
          exact (ReadsAlike.readLoop (read_alike t t.fresh) _ _) hnext'

theorem ReadOp.run_alike (op : ReadOp) {b c : StreamBuffer} (h : Alike b c) :
    (op.run b).1 = (op.run c).1 ∧ Alike (op.run b).2 (op.run c).2 := by
  cases op with
  | field t old =>
    obtain ⟨hret, hval, hnext⟩ := read_alike t old h
    exact ⟨Prod.ext hret hval, hnext⟩
  | bytes size => exact readBytes_alike h size
  | stream into =>
    refine ⟨?_, h⟩
    show into.writeBytes b.written = into.writeBytes c.written
    rw [h.written]

/-- Buffers alike answer every sequence of reads alike. -/
theorem Alike.answersAlike {b c : StreamBuffer} (h : Alike b c) : AnswersAlike b c := by
  intro earlier op
  have hafter : Alike (afterReads earlier b) (afterReads earlier c) := by
    induction earlier generalizing b c with
    | nil => exact h
    | cons first earlier ih => exact ih (first.run_alike h).2
  exact (op.run_alike hafter).1

/-! ## What reads bring out -/

theorem AnswersAlike.head {b c : StreamBuffer} (h : AnswersAlike b c) (op : ReadOp) :
    (op.run b).1 = (op.run c).1 := h [] op

theorem AnswersAlike.tail {b c : StreamBuffer} (h : AnswersAlike b c) (op : ReadOp) :
    AnswersAlike (op.run b).2 (op.run c).2 := fun earlier => h (op :: earlier)

/-- Away from the write position, strings read into an empty variable show the
C strings. -/
theorem AnswersAlike.cString {b c : StreamBuffer} (h : AnswersAlike b c)
    (hb : b.rPos ≠ b.wPos) (hc : c.rPos ≠ c.wPos) :
    b.cString = c.cString ∧
      AnswersAlike (b.advance (b.cString.length + 1)) (c.advance (c.cString.length + 1)) := by
  have hanswer := congrArg Prod.snd (h.head (.field .string []))
  have htail := h.tail (.field .string [])
  simp only [ReadOp.run, StreamBuffer.read, readString_of_ne hb, readString_of_ne hc,
    Option.getD_some] at hanswer htail
  exact ⟨hanswer, htail⟩

/-- Behind the written bytes, strings bring out whether the array holds anything
but NULs: every empty string is one of them. -/
theorem AnswersAlike.zeros (rest : List UInt8) :
    ∀ {b c : StreamBuffer}, AnswersAlike b c → b.wPos < b.rPos → c.wPos < c.rPos →
      b.readBuf = rest → (∀ x ∈ c.readBuf, x = 0) → ∀ x ∈ rest, x = 0 := by
  induction rest with
  | nil => intro b c _ _ _ _ _ x hx; cases hx
  | cons y rest ih =>
    intro b c h hb hc hbuf hzero
    obtain ⟨hstring, hnext⟩ := h.cString (Nat.ne_of_gt hb) (Nat.ne_of_gt hc)
    have hnil : b.cString = [] := hstring.trans (cString_eq_nil hzero)
    have hy : y = 0 := by
      by_contra hne
      rw [StreamBuffer.cString, hbuf] at hnil
      simp [hne] at hnil
    rw [← hstring, hnil] at hnext
    have hrest : (b.advance 1).readBuf = rest := by rw [readBuf_advance, hbuf]; rfl
    have hzero' : ∀ x ∈ (c.advance 1).readBuf, x = 0 := by
      rw [readBuf_advance]
      exact fun x hx => hzero x (List.mem_of_mem_drop hx)
    have hlater := ih hnext (Nat.lt_succ_of_lt hb) (Nat.lt_succ_of_lt hc) hrest hzero'
    intro x hx
    rcases List.mem_cons.mp hx with rfl | hx
    · exact hy
    · exact hlater x hx

/-- Raw bytes move an unread buffer without an error to any place in it. -/
theorem readBytes_to {b : StreamBuffer} (hread : b.rPos = 0) (hok : b.rwErrorStatus = .ok)
    {n : Nat} (hn : n ≤ b.wPos) :
    (b.readBytes n).2.rPos = n ∧ (b.readBytes n).2.wPos = b.wPos ∧
      (b.readBytes n).2.szBuff = b.szBuff := by
  rcases readBytes_cases b n with ⟨_, _, _, heq⟩ | ⟨hbad, e, _, heq⟩
  · rw [heq]
    exact ⟨by rw [advance_rPos, hread, Nat.zero_add], rfl, rfl⟩
  · rw [heq]
    have hzero : n = 0 := by
      rcases hbad with h | h | h
      · exact absurd hok h
      · exact h
      · omega
    exact ⟨hread.trans hzero.symm, rfl, rfl⟩

/-! ## Which buffers a copy preserves -/

/-- A buffer without bytes and with a write error stands for the copies of empty
buffers. -/
theorem preserves_empty_iff (b : StreamBuffer) :
    Preserves b (create.setError .write) ↔
      b.rwErrorStatus = .write ∧ b.rPos = 0 ∧ b.wPos = 0 := by
  constructor
  · intro h
    obtain ⟨hstatus, halike⟩ := h
    have hempty : b.wPos = 0 := by
      by_contra hne
      -- Reading the whole buffer into a new one fails for the copy only.
      have hanswer := congrArg Prod.fst (halike.head (.stream create))
      have hwrite : create.writeBytes b.written
          = (true, create.append b.written (by simp [create, b.wPos_le])) :=
        writeBytes_of_fits rfl (List.ne_nil_of_length_pos (by rw [written_length]; omega)) _
      simp only [ReadOp.run] at hanswer
      rw [show b.szBuff.take b.size = b.written from rfl, hwrite] at hanswer
      cases hanswer
    refine ⟨hstatus.symm, ?_, hempty⟩
    by_contra hne
    have hne' : b.rPos ≠ b.wPos := hempty ▸ hne
    -- The copy leaves the variable as it was.
    have hanswer := congrArg Prod.snd (halike.head (.field .string (b.cString ++ [0])))
    simp only [ReadOp.run, StreamBuffer.read, readString_of_ne hne', Option.getD_some] at hanswer
    exact absurd hanswer (by simp [StreamBuffer.readString, create])
  · rintro ⟨hstatus, hread, hempty⟩
    have hwritten : b.written = [] :=
      List.eq_nil_of_length_eq_zero (by rw [written_length, hempty])
    have halike : Alike b (create.setError .write) :=
      { status := hstatus
        rPos := hread
        wPos := hempty
        written := hwritten
        le := by omega
        ended := by simp [hwritten] }
    exact ⟨hstatus.symm, halike.answersAlike⟩

/-- The array from the last written byte on. -/
theorem readBuf_last {b b' : StreamBuffer} {first : List UInt8} {last : UInt8}
    (hsplit : b.written = first ++ [last]) (hbuf : b'.szBuff = b.szBuff)
    (hpos : b'.rPos = b.wPos - 1) : b'.readBuf = last :: b.szBuff.drop b.wPos := by
  have hlen := congrArg List.length hsplit
  simp only [written_length, List.length_append, List.length_singleton] at hlen
  have hszBuff : b.szBuff = first ++ (last :: b.szBuff.drop b.wPos) := by
    calc b.szBuff = b.written ++ b.szBuff.drop b.wPos := (List.take_append_drop _ _).symm
      _ = first ++ (last :: b.szBuff.drop b.wPos) := by rw [hsplit]; simp
  rw [readBuf, hbuf, hpos, hszBuff, List.drop_left' (by omega), ← hszBuff]

/-- The array of a copy holds nothing but NULs behind the written bytes. -/
theorem clone_zeros {b : StreamBuffer} (hpos : 0 < b.wPos) :
    ∀ x ∈ (create.clone b).2.szBuff.drop b.wPos, x = 0 := by
  have hlen : b.written.length = b.wPos := b.written_length
  rw [clone_of_pos create hpos]
  unfold append create
  simp only [List.take_zero, List.nil_append, Nat.zero_add, hlen]
  rw [List.drop_left' hlen, List.drop_replicate]
  exact fun x hx => List.eq_of_mem_replicate hx

theorem copyable_of_preserves {b : StreamBuffer} (hpos : 0 < b.wPos)
    (h : Preserves b (create.clone b).2) : Copyable b := by
  obtain ⟨hstatus, halike⟩ := h
  have hcopy := clone_of_pos create hpos
  have hwrite : (create.clone b).2.wPos = b.wPos := by
    rw [hcopy, append_wPos, written_length]
    exact Nat.zero_add _
  have hread' : (create.clone b).2.rPos = 0 := by rw [hcopy]; rfl
  have hok' : (create.clone b).2.rwErrorStatus = .ok := (clone_holds create hpos).ok
  have hok : b.rwErrorStatus = .ok := hstatus.symm.trans hok'
  have hread : b.rPos = 0 := by
    -- As many bytes as were written can be read from the beginning only.
    have hanswer := halike.head (.bytes b.wPos)
    have hwhole := readBytes_of_le hok' hpos (by rw [hread', hwrite]; omega)
    simp only [ReadOp.run, hwhole] at hanswer
    rcases readBytes_cases b b.wPos with ⟨_, _, hfit, _⟩ | ⟨_, e, _, heq⟩
    · omega
    · rw [heq] at hanswer
      cases hanswer
  refine ⟨hread, by rw [if_neg (by omega), hok], ?_⟩
  have hne : b.written ≠ [] := List.ne_nil_of_length_pos (by rw [written_length]; exact hpos)
  obtain ⟨first, last, hsplit⟩ : ∃ first last, b.written = first ++ [last] :=
    ⟨_, _, (List.dropLast_concat_getLast hne).symm⟩
  by_cases hlast : last = 0
  · refine .inl ?_
    simp [hsplit, hlast]
  refine .inr ?_
  -- Go to the last written byte and read strings from there on.
  have hnext := halike.tail (.bytes (b.wPos - 1))
  simp only [ReadOp.run] at hnext
  obtain ⟨hrb, hwb, hszb⟩ := readBytes_to hread hok (n := b.wPos - 1) (by omega)
  obtain ⟨hrc, hwc, hszc⟩ := readBytes_to hread' hok' (n := b.wPos - 1) (by omega)
  have hbufb := readBuf_last hsplit hszb hrb
  have hwritten' : (create.clone b).2.written = first ++ [last] := by
    rw [hcopy, append_written, hsplit]
    rfl
  have hbufc := readBuf_last hwritten' hszc (hrc.trans (by rw [hwrite]))
  have hzero := clone_zeros hpos
  rw [← hwrite] at hzero
  generalize (b.readBytes (b.wPos - 1)).2 = b₁ at *
  generalize ((create.clone b).2.readBytes (b.wPos - 1)).2 = c₁ at *
  generalize (create.clone b).2.szBuff.drop (create.clone b).2.wPos = stale at *
  have hstringc : c₁.cString = [last] := by
    rw [StreamBuffer.cString, hbufc, List.takeWhile_cons_of_pos (by simpa using hlast)]
    cases stale with
    | nil => rfl
    | cons x rest =>
      have hx : x = 0 := hzero x (by simp)
      simp [hx]
  obtain ⟨hstring, hlater⟩ := hnext.cString (by omega) (by omega)
  rw [hstringc] at hstring hlater
  rw [hstring] at hlater
  have hbufb₂ : (b₁.advance ([last].length + 1)).readBuf = (b.szBuff.drop b.wPos).drop 1 := by
    rw [readBuf_advance, hbufb]
    rfl
  have hzero₂ : ∀ x ∈ (c₁.advance ([last].length + 1)).readBuf, x = 0 := by
    rw [readBuf_advance, hbufc]
    exact fun x hx => hzero x (List.mem_of_mem_drop (i := 1) hx)
  have htail := hlater.zeros _ (by simp; omega) (by simp; omega) hbufb₂ hzero₂
  rw [StreamBuffer.cString, hbufb, List.takeWhile_cons_of_pos (by simpa using hlast)] at hstring
  injection hstring with _ hnil
  intro x hx
  generalize b.szBuff.drop b.wPos = rest at *
  cases rest with
  | nil => cases hx
  | cons y rest =>
    have hy : y = 0 := by
      by_contra hy
      simp [hy] at hnil
    rcases List.mem_cons.mp hx with rfl | hx
    · exact hy
    · exact htail x hx

theorem preserves_of_copyable {b : StreamBuffer} (hpos : 0 < b.wPos) (h : Copyable b) :
    Preserves b (create.clone b).2 := by
  have hok : b.rwErrorStatus = .ok := by rw [h.status, if_neg (by omega)]
  rcases h.ended with hended | hzero
  · have hcopy := clone_of_pos create hpos
    have halike : Alike b (create.clone b).2 := by
      rw [hcopy]
      exact
        { status := hok
          rPos := h.unread
          wPos := by rw [append_wPos, written_length]; exact (Nat.zero_add _).symm
          written := by rw [append_written]; rfl
          le := by rw [h.unread]; exact Nat.zero_le _
          ended := hended }
    exact ⟨halike.status.symm, halike.answersAlike⟩
  · rw [clone_eq_self hpos h.unread hok hzero]
    exact ⟨rfl, fun _ _ => rfl⟩

theorem preserves_clone_iff (b : StreamBuffer) :
    Preserves b (create.clone b).2 ↔ Copyable b := by
  rcases Nat.eq_zero_or_pos b.wPos with hempty | hpos
  · rw [clone_of_empty create hempty, preserves_empty_iff]
    have hwritten : b.written = [] :=
      List.eq_nil_of_length_eq_zero (by rw [written_length, hempty])
    constructor
    · rintro ⟨hstatus, hread, _⟩
      exact ⟨hread, by rw [if_pos hempty, hstatus], .inl (by simp [hwritten])⟩
    · intro h
      exact ⟨by rw [h.status, if_pos hempty], h.unread, hempty⟩
  · exact ⟨copyable_of_preserves hpos, preserves_of_copyable hpos⟩

/-- What a copy holds, and which buffers and packets it preserves. -/
theorem copies_preserve_iff :
    (∀ target b : StreamBuffer, (0 < b.wPos → (target.clone b).2.Holds b.written) ∧
      (b.wPos = 0 → target.clone b = (false, create.setError .write))) ∧
    (∀ (way : Copying) (b : StreamBuffer), Preserves b (copyBy way b) ↔ way.Keeps b) ∧
    ∀ pkt : NetPacket, pkt.copy.msgId = pkt.msgId ∧
      (Preserves pkt.toStreamBuffer pkt.copy.toStreamBuffer ↔ Copyable pkt.toStreamBuffer) := by
  refine ⟨fun target b => ⟨clone_holds target, clone_of_empty target⟩, fun way b => ?_,
    fun pkt => ⟨rfl, preserves_clone_iff pkt.toStreamBuffer⟩⟩
  cases way with
  | constructed => exact preserves_clone_iff b
  | assigned target => exact preserves_clone_iff b
  | selfAssigned =>
    show Preserves b (b.clone b.clean).2 ↔ _
    rw [clone_of_empty b rfl]
    exact preserves_empty_iff b

/-- A new buffer, and one with four bytes of which one has been read: the copy of
the first has an error, that of the second starts from the beginning. -/
theorem counterexample_copies_preserve :
    ¬ Preserves create (copyBy .constructed create) ∧
      ¬ Preserves ((create.writeBytes [1, 2, 3, 4]).2.readBytes 1).2
        (copyBy .constructed ((create.writeBytes [1, 2, 3, 4]).2.readBytes 1).2) := by
  constructor
  · intro h
    exact absurd h.1 (by decide)
  · intro h
    have hanswer := h.2 [] (.bytes 4)
    exact absurd hanswer (by decide)

end StreamBuffer

end FtMmi.Network
