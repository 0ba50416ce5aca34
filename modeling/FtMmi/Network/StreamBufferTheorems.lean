/-
FtMmi.Network.StreamBufferTheorems — one specification lemma for each
operation of the buffer, in terms of the bytes still to be read.

`unread b` are the written bytes behind the read position, and
`Holds b bs` says that `b` is in good standing with exactly `bs` left to
read. `readBytes_cases` and `writeBytes_cases` are the inversion lemmas
(all that the two primitives can do); the rest of the development cites
them and never unfolds a primitive.
-/
import FtMmi.Network.StreamBuffer

namespace FtMmi.Network

open FtMmi.Lib

namespace StreamBuffer

/-! ## Views -/

/-- The bytes that were written and not overwritten by a reset. -/
def written (b : StreamBuffer) : List UInt8 := b.szBuff.take b.wPos

/-- The written bytes behind the read position. -/
def unread (b : StreamBuffer) : List UInt8 := b.written.drop b.rPos

/-- `b` has exactly `bs` left to read, with or without an error. -/
structure Shows (b : StreamBuffer) (bs : List UInt8) : Prop where
  le : b.rPos ≤ b.wPos
  eq : b.unread = bs

/-- `b` has no error and exactly `bs` left to read. -/
structure Holds (b : StreamBuffer) (bs : List UInt8) : Prop where
  ok : b.rwErrorStatus = .ok
  le : b.rPos ≤ b.wPos
  eq : b.unread = bs

theorem Holds.shows {b : StreamBuffer} {bs : List UInt8} (hb : b.Holds bs) : b.Shows bs :=
  ⟨hb.le, hb.eq⟩

theorem Shows.holds {b : StreamBuffer} {bs : List UInt8} (hb : b.Shows bs)
    (hok : b.rwErrorStatus = .ok) : b.Holds bs :=
  ⟨hok, hb.le, hb.eq⟩

@[simp] theorem written_length (b : StreamBuffer) : b.written.length = b.wPos := by
  have hlen := b.szBuff_length
  have hw := b.wPos_le
  rw [written, List.length_take]
  omega

@[simp] theorem unread_length (b : StreamBuffer) : b.unread.length = b.wPos - b.rPos := by
  rw [unread, List.length_drop, written_length]

@[simp] theorem setError_rwErrorStatus (b : StreamBuffer) (e : ErrorStatus) :
    (b.setError e).rwErrorStatus = e := rfl

@[simp] theorem setError_rPos (b : StreamBuffer) (e : ErrorStatus) :
    (b.setError e).rPos = b.rPos := rfl

@[simp] theorem setError_wPos (b : StreamBuffer) (e : ErrorStatus) :
    (b.setError e).wPos = b.wPos := rfl

@[simp] theorem setError_unread (b : StreamBuffer) (e : ErrorStatus) :
    (b.setError e).unread = b.unread := rfl

@[simp] theorem advance_rwErrorStatus (b : StreamBuffer) (n : Nat) :
    (b.advance n).rwErrorStatus = b.rwErrorStatus := rfl

@[simp] theorem advance_rPos (b : StreamBuffer) (n : Nat) :
    (b.advance n).rPos = b.rPos + n := rfl

@[simp] theorem advance_wPos (b : StreamBuffer) (n : Nat) : (b.advance n).wPos = b.wPos := rfl

theorem advance_unread (b : StreamBuffer) (n : Nat) :
    (b.advance n).unread = b.unread.drop n := by
  rw [unread, unread, List.drop_drop]
  rfl

theorem advance_advance (b : StreamBuffer) (m n : Nat) :
    (b.advance m).advance n = b.advance (m + n) := by
  simp [advance, Nat.add_assoc]

theorem unreadSize_eq (b : StreamBuffer) : b.unreadSize = b.unread.length := by
  rw [unreadSize, unread_length]
  split <;> omega

theorem getAvailableBufSize_eq (b : StreamBuffer) :
    b.getAvailableBufSize = maxStreamBufSize - b.wPos := by
  rw [getAvailableBufSize]
  split <;> omega

theorem chkRWError_eq_false_iff (b : StreamBuffer) :
    b.chkRWError = false ↔ b.rwErrorStatus = .ok := by
  cases h : b.rwErrorStatus <;> simp [chkRWError, h]

theorem chkRWError_eq_true_iff (b : StreamBuffer) :
    b.chkRWError = true ↔ b.rwErrorStatus ≠ .ok := by
  cases h : b.rwErrorStatus <;> simp [chkRWError, h]

/-! ## Writing -/

@[simp] theorem append_rwErrorStatus (b : StreamBuffer) (data : List UInt8) (h) :
    (b.append data h).rwErrorStatus = b.rwErrorStatus := rfl

@[simp] theorem append_rPos (b : StreamBuffer) (data : List UInt8) (h) :
    (b.append data h).rPos = b.rPos := rfl

@[simp] theorem append_wPos (b : StreamBuffer) (data : List UInt8) (h) :
    (b.append data h).wPos = b.wPos + data.length := rfl

theorem append_written (b : StreamBuffer) (data : List UInt8) (h) :
    (b.append data h).written = b.written ++ data := by
  have hlen : (b.szBuff.take b.wPos).length = b.wPos := b.written_length
  show (b.szBuff.take b.wPos ++ data ++ _).take (b.wPos + data.length) = _
  rw [List.take_left' (by simp [hlen])]
  rfl

theorem append_unread (b : StreamBuffer) (data : List UInt8) (h) (hle : b.rPos ≤ b.wPos) :
    (b.append data h).unread = b.unread ++ data := by
  rw [unread, append_written, append_rPos, unread,
    List.drop_append_of_le_length (by simpa using hle)]

/-- All that `Write(const char *, size_t)` can do. -/
theorem writeBytes_cases (b : StreamBuffer) (data : List UInt8) :
    (b.rwErrorStatus = .ok ∧ data ≠ [] ∧
      ∃ h : b.wPos + data.length ≤ maxStreamBufSize,
        b.writeBytes data = (true, b.append data h)) ∨
    ((b.rwErrorStatus ≠ .ok ∨ data = [] ∨ maxStreamBufSize < b.wPos + data.length) ∧
      ∃ e, e ≠ .ok ∧ b.writeBytes data = (false, b.setError e)) := by
  unfold writeBytes
  by_cases hst : b.chkRWError = true
  · rw [if_pos hst]
    have hne := (chkRWError_eq_true_iff b).mp hst
    exact .inr ⟨.inl hne, b.rwErrorStatus, hne, rfl⟩
  · rw [if_neg hst]
    have hok := (chkRWError_eq_false_iff b).mp (by simpa using hst)
    by_cases hz : data.length = 0
    · rw [if_pos hz]
      exact .inr ⟨.inr (.inl (List.eq_nil_of_length_eq_zero hz)), .write, by decide, rfl⟩
    · rw [if_neg hz]
      by_cases hfit : b.wPos + data.length ≤ maxStreamBufSize
      · rw [dif_pos hfit]
        exact .inl ⟨hok, fun h => hz (by simp [h]), hfit, rfl⟩
      · rw [dif_neg hfit]
        exact .inr ⟨.inr (.inr (by omega)), .write, by decide, rfl⟩

/-- A write succeeds when there is no error, something to write and room. -/
theorem writeBytes_of_fits {b : StreamBuffer} {data : List UInt8}
    (hok : b.rwErrorStatus = .ok) (hne : data ≠ [])
    (hfit : b.wPos + data.length ≤ maxStreamBufSize) :
    b.writeBytes data = (true, b.append data hfit) := by
  rcases writeBytes_cases b data with ⟨_, _, _, heq⟩ | ⟨h | h | h, _⟩
  · exact heq
  · exact absurd hok h
  · exact absurd h hne
  · omega

theorem Holds.append {b : StreamBuffer} {bs : List UInt8} (hb : b.Holds bs)
    (data : List UInt8) (h) : (b.append data h).Holds (bs ++ data) where
  ok := hb.ok
  le := Nat.le_trans hb.le (Nat.le_add_right _ _)
  eq := by rw [append_unread b data h hb.le, hb.eq]

/-- A successful write adds its bytes behind those left to read. -/
theorem Holds.of_writeBytes {b : StreamBuffer} {bs data : List UInt8} (hb : b.Holds bs)
    (hw : (b.writeBytes data).1 = true) : (b.writeBytes data).2.Holds (bs ++ data) := by
  rcases writeBytes_cases b data with ⟨_, _, hfit, heq⟩ | ⟨_, e, _, heq⟩
  · rw [heq]
    exact hb.append data hfit
  · rw [heq] at hw
    cases hw

/-- The error status is sticky: a buffer without an error after a write
had none before it and took the bytes. -/
theorem writeBytes_ok_iff (b : StreamBuffer) (data : List UInt8) :
    (b.writeBytes data).2.rwErrorStatus = .ok ↔ (b.writeBytes data).1 = true := by
  rcases writeBytes_cases b data with ⟨hok, _, hfit, heq⟩ | ⟨_, e, he, heq⟩
  · simp [heq, hok]
  · simp [heq, he]

theorem writeBytes_true_ok {b : StreamBuffer} {data : List UInt8}
    (h : (b.writeBytes data).1 = true) : b.rwErrorStatus = .ok := by
  rcases writeBytes_cases b data with ⟨hok, _⟩ | ⟨_, e, _, heq⟩
  · exact hok
  · rw [heq] at h
    cases h

@[simp] theorem writeBytes_rPos (b : StreamBuffer) (data : List UInt8) :
    (b.writeBytes data).2.rPos = b.rPos := by
  rcases writeBytes_cases b data with ⟨_, _, _, heq⟩ | ⟨_, _, _, heq⟩ <;> rw [heq] <;> rfl

theorem le_writeBytes_wPos (b : StreamBuffer) (data : List UInt8) :
    b.wPos ≤ (b.writeBytes data).2.wPos := by
  rcases writeBytes_cases b data with ⟨_, _, _, heq⟩ | ⟨_, _, _, heq⟩ <;> rw [heq] <;> simp

/-! ## Reading -/

theorem readBuf_take (b : StreamBuffer) (n : Nat) (h : b.rPos + n ≤ b.wPos) :
    b.readBuf.take n = b.unread.take n := by
  rw [readBuf, unread, written, List.drop_take, List.take_take, Nat.min_eq_left (by omega)]

/-- All that `Read(char *, size_t)` can do. -/
theorem readBytes_cases (b : StreamBuffer) (size : Nat) :
    (b.rwErrorStatus = .ok ∧ 0 < size ∧ b.rPos + size ≤ b.wPos ∧
      b.readBytes size = (some (b.unread.take size), b.advance size)) ∨
    ((b.rwErrorStatus ≠ .ok ∨ size = 0 ∨ b.wPos < b.rPos + size) ∧
      ∃ e, e ≠ .ok ∧ b.readBytes size = (none, b.setError e)) := by
  unfold readBytes
  by_cases hst : b.chkRWError = true
  · rw [if_pos hst]
    have hne := (chkRWError_eq_true_iff b).mp hst
    exact .inr ⟨.inl hne, b.rwErrorStatus, hne, rfl⟩
  · rw [if_neg hst]
    have hok := (chkRWError_eq_false_iff b).mp (by simpa using hst)
    by_cases hz : size = 0
    · rw [if_pos hz]
      exact .inr ⟨.inr (.inl hz), .read, by decide, rfl⟩
    · rw [if_neg hz]
      by_cases hout : b.rPos + size > b.wPos
      · rw [if_pos hout]
        exact .inr ⟨.inr (.inr hout), .read, by decide, rfl⟩
      · rw [if_neg hout, readBuf_take b size (by omega)]
        exact .inl ⟨hok, by omega, by omega, rfl⟩

theorem readBytes_of_le {b : StreamBuffer} {size : Nat} (hok : b.rwErrorStatus = .ok)
    (hpos : 0 < size) (hle : b.rPos + size ≤ b.wPos) :
    b.readBytes size = (some (b.unread.take size), b.advance size) := by
  rcases readBytes_cases b size with ⟨_, _, _, heq⟩ | ⟨h | h | h, _⟩
  · exact heq
  · exact absurd hok h
  · omega
  · omega

@[simp] theorem readBytes_wPos (b : StreamBuffer) (size : Nat) :
    (b.readBytes size).2.wPos = b.wPos := by
  rcases readBytes_cases b size with ⟨_, _, _, heq⟩ | ⟨_, _, _, heq⟩ <;> rw [heq] <;> rfl

theorem le_readBytes_rPos (b : StreamBuffer) (size : Nat) :
    b.rPos ≤ (b.readBytes size).2.rPos := by
  rcases readBytes_cases b size with ⟨_, _, _, heq⟩ | ⟨_, _, _, heq⟩ <;> rw [heq] <;> simp

/-- A read keeps the read position behind the write position. -/
theorem readBytes_rPos_le {b : StreamBuffer} (size : Nat) (hle : b.rPos ≤ b.wPos) :
    (b.readBytes size).2.rPos ≤ (b.readBytes size).2.wPos := by
  rcases readBytes_cases b size with ⟨_, _, h, heq⟩ | ⟨_, _, _, heq⟩ <;> rw [heq] <;> simpa

theorem Shows.advance {b : StreamBuffer} {bs rest : List UInt8} (hb : b.Shows (bs ++ rest)) :
    (b.advance bs.length).Shows rest where
  le := by
    have hlen := congrArg List.length hb.eq
    have hle := hb.le
    simp only [unread_length, List.length_append] at hlen
    simp only [advance_rPos, advance_wPos]
    omega
  eq := by rw [advance_unread, hb.eq, List.drop_left]

theorem Holds.advance {b : StreamBuffer} {bs rest : List UInt8} (hb : b.Holds (bs ++ rest)) :
    (b.advance bs.length).Holds rest :=
  hb.shows.advance.holds hb.ok

/-- Reading an object whose image comes first. -/
theorem Holds.readFixed {α : Type} [ByteImage α] {b : StreamBuffer} {a : α} {rest : List UInt8}
    (hb : b.Holds (toBytes a ++ rest)) :
    b.readFixed (α := α) = (some a, b.advance (byteSize α)) ∧
      (b.advance (byteSize α)).Holds rest := by
  have hlen := congrArg List.length hb.eq
  simp only [unread_length, List.length_append, ByteImage.toBytes_length] at hlen
  have hle := hb.le
  have hpos : 0 < byteSize α := byteSize_pos
  constructor
  · rw [StreamBuffer.readFixed, readBytes_of_le hb.ok hpos (by omega), hb.eq, take_toBytes_append]
    simp
  · simpa using hb.advance

theorem Holds.extract {α : Type} [ByteImage α] {b : StreamBuffer} {a : α} {rest : List UInt8}
    (hb : b.Holds (toBytes a ++ rest)) (old : α) :
    b.extract old = (a, b.advance (byteSize α)) ∧ (b.advance (byteSize α)).Holds rest := by
  obtain ⟨heq, hrest⟩ := hb.readFixed
  exact ⟨by simp [StreamBuffer.extract, heq], hrest⟩

/-- Seeking forward within the written bytes. -/
theorem seekReadPos_natCast {b : StreamBuffer} {n : Nat} (h : b.rPos + n ≤ b.wPos) :
    b.seekReadPos n = (true, b.advance n) := by
  unfold seekReadPos
  simp only
  rw [if_neg (by omega)]
  have hpos : ((b.rPos : Int) + n).toNat = b.rPos + n := by omega
  simp only [hpos]
  rfl

theorem extract_snd {α : Type} [ByteImage α] (b : StreamBuffer) (old : α) :
    (b.extract old).2 = (b.readBytes (byteSize α)).2 := rfl

theorem insert_eq {α : Type} [ByteImage α] (b : StreamBuffer) (a : α) :
    b.insert a = (b.writeBytes (toBytes a)).2 := rfl

/-! ## A new buffer -/

theorem create_holds : create.Holds [] where
  ok := rfl
  le := Nat.le_refl _
  eq := rfl

theorem reset_holds (b : StreamBuffer) : b.reset.Holds [] where
  ok := rfl
  le := Nat.le_refl _
  eq := rfl

end StreamBuffer

end FtMmi.Network
