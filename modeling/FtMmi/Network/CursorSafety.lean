/-
FtMmi.Network.CursorSafety — where the read position can go on content
the other process chose.

`scan t ok bs` is the reader seen from outside: from the error status and
the unread bytes alone it tells whether a read at the type `t` returns
`true`, and which bytes are left, or `none` when the read comes to a
string that no NUL ends within the unread bytes. `read_scan` ties it to
the code: the reader follows the scan, and where the scan gives up, the
read position ends up behind the write position.

So every operation keeps the cursor inside the written bytes except a
string read of an unterminated string, which `Read(std::string &)` does
not check for; `cursorSafe_run_iff` says so for whole runs.
-/
import FtMmi.Network.TypedStream
import FtMmi.Lib.StepSystem

namespace FtMmi.Network

open FtMmi.Lib

/-! ## The reader from outside -/

/-- What a read returned, whether the error status is clear, and the bytes
left unread. -/
structure Scanned where
  returned : Bool
  ok : Bool
  rest : List UInt8
  deriving DecidableEq, Repr

/-- The element loop of a vector. -/
def scanLoop (scan : Bool → List UInt8 → Option Scanned) :
    Nat → Bool → List UInt8 → Option Scanned
  | 0, ok, bs => some ⟨true, ok, bs⟩
  | n + 1, ok, bs =>
      match scan ok bs with
      | none => none
      | some r => if r.returned then scanLoop scan n r.ok r.rest else some ⟨false, r.ok, r.rest⟩

/-- A read at a type, over the unread bytes; `none` when it comes to a
string that does not end within them. -/
def scan : FieldType → Bool → List UInt8 → Option Scanned
  | @FieldType.fixed α _, ok, bs =>
      if ok = true ∧ byteSize α ≤ bs.length then some ⟨true, ok, bs.drop (byteSize α)⟩
      else some ⟨false, false, bs⟩
  | .string, ok, bs =>
      if bs = [] then some ⟨false, false, []⟩
      else if 0 ∈ bs then
        let s := bs.takeWhile (· ≠ 0)
        some ⟨decide (0 < s.length), ok, bs.drop (s.length + 1)⟩
      else none
  | .vector t, ok, bs =>
      if ok = true ∧ byteSize Int32 ≤ bs.length then
        let size : Int32 := ofBytes (bs.take (byteSize Int32))
        let rest := bs.drop (byteSize Int32)
        if size.toInt < 0 ∨ (maxVectorSize : Int) < size.toInt then some ⟨false, ok, rest⟩
        else scanLoop (scan t) size.toInt.toNat ok rest
      else some ⟨false, false, bs⟩

namespace StreamBuffer

/-- The buffer after a read is the one the scan foresees; past a string
that does not end, its cursor is out of bounds. -/
def Follows (out : Option Scanned) (returned : Bool) (b : StreamBuffer) : Prop :=
  match out with
  | some r => returned = r.returned ∧ (!b.chkRWError) = r.ok ∧ b.rPos ≤ b.wPos ∧ b.unread = r.rest
  | none => b.wPos < b.rPos

/-! ## One operation -/

theorem readFixed_follows {α : Type} [ByteImage α] {b : StreamBuffer} (hle : b.rPos ≤ b.wPos) :
    ((!b.chkRWError) = true ∧ byteSize α ≤ b.unread.length ∧
      b.readFixed (α := α)
        = (some (ofBytes (b.unread.take (byteSize α))), b.advance (byteSize α))) ∨
    (¬ ((!b.chkRWError) = true ∧ byteSize α ≤ b.unread.length) ∧
      ∃ e, e ≠ .ok ∧ b.readFixed (α := α) = (none, b.setError e)) := by
  have hpos : 0 < byteSize α := byteSize_pos
  rw [Bool.not_eq_true', chkRWError_eq_false_iff, unread_length]
  rcases readBytes_cases b (byteSize α) with ⟨hok, _, hfit, heq⟩ | ⟨hbad, e, he, heq⟩
  · exact .inl ⟨hok, by omega, by simp [StreamBuffer.readFixed, heq]⟩
  · refine .inr ⟨?_, e, he, by simp [StreamBuffer.readFixed, heq]⟩
    intro hgood
    obtain ⟨hok, hfit⟩ := hgood
    rcases hbad with h | h | h
    · exact absurd hok h
    · omega
    · omega

theorem follows_setError {b : StreamBuffer} {e : ErrorStatus} (he : e ≠ .ok)
    (hle : b.rPos ≤ b.wPos) : Follows (some ⟨false, false, b.unread⟩) false (b.setError e) := by
  refine ⟨rfl, ?_, hle, rfl⟩
  rw [Bool.not_eq_false', chkRWError_eq_true_iff]
  exact he

/-- A string read away from the write position stores the C string it finds. -/
theorem readString_of_ne {b : StreamBuffer} (hne : b.rPos ≠ b.wPos) :
    b.readString
      = (decide (0 < b.cString.length), some b.cString, b.advance (b.cString.length + 1)) := by
  rw [StreamBuffer.readString, if_neg hne]

theorem readBuf_advance (b : StreamBuffer) (n : Nat) :
    (b.advance n).readBuf = b.readBuf.drop n := by
  rw [readBuf, readBuf, List.drop_drop]
  rfl

theorem cString_eq_nil {b : StreamBuffer} (hzero : ∀ x ∈ b.readBuf, x = 0) : b.cString = [] := by
  rw [StreamBuffer.cString]
  cases hbuf : b.readBuf with
  | nil => rfl
  | cons x rest =>
    have hx : x = 0 := hzero x (by simp [hbuf])
    simp [hx]

theorem readString_follows {b : StreamBuffer} (hle : b.rPos ≤ b.wPos) :
    Follows (scan .string (!b.chkRWError) b.unread) b.readString.1 b.readString.2.2 := by
  unfold StreamBuffer.readString scan
  have hlen : b.unread.length = b.wPos - b.rPos := b.unread_length
  by_cases hend : b.rPos = b.wPos
  · have hnil : b.unread = [] := List.eq_nil_of_length_eq_zero (by omega)
    rw [if_pos hend, if_pos hnil, ← hnil]
    exact follows_setError (by decide) hle
  · have hne : b.unread ≠ [] := List.ne_nil_of_length_pos (by omega)
    rw [if_neg hend, if_neg hne]
    by_cases h0 : (0 : UInt8) ∈ b.unread
    · obtain ⟨s, rest, hsplit, hs⟩ := List.eq_append_cons_of_mem h0
      have hcount := congrArg List.length hsplit
      simp only [List.length_append, List.length_cons] at hcount
      rw [if_pos h0, cString_eq hle hsplit hs, hsplit, takeWhile_nul hs]
      refine ⟨rfl, rfl, ?_, ?_⟩
      · rw [advance_rPos, advance_wPos]
        omega
      · rw [advance_unread, hsplit]
    · -- Every unread byte belongs to the string, and so does at least one more position.
      rw [if_neg h0]
      have hall : ∀ c ∈ b.unread, decide (c ≠ 0) = true := by
        intro c hc
        exact decide_eq_true fun h => h0 (h ▸ hc)
      have hstr : b.unread.length ≤ b.cString.length := by
        rw [StreamBuffer.cString, readBuf_eq hle, List.takeWhile_append_of_pos hall,
          List.length_append]
        omega
      show b.wPos < b.rPos + (b.cString.length + 1)
      omega

/-! ## Reads move the cursor forward -/

/-- `b'` is `b` after reads: the same written bytes, the cursor not moved back. -/
def Ahead (b b' : StreamBuffer) : Prop := b'.wPos = b.wPos ∧ b.rPos ≤ b'.rPos

theorem Ahead.refl (b : StreamBuffer) : Ahead b b := ⟨rfl, Nat.le_refl _⟩

theorem Ahead.trans {b₁ b₂ b₃ : StreamBuffer} (h : Ahead b₁ b₂) (h' : Ahead b₂ b₃) :
    Ahead b₁ b₃ := ⟨h'.1.trans h.1, Nat.le_trans h.2 h'.2⟩

theorem readBytes_ahead (b : StreamBuffer) (size : Nat) : Ahead b (b.readBytes size).2 :=
  ⟨readBytes_wPos b size, le_readBytes_rPos b size⟩

theorem readString_ahead (b : StreamBuffer) : Ahead b b.readString.2.2 := by
  unfold StreamBuffer.readString
  split
  · exact ⟨rfl, Nat.le_refl _⟩
  · exact ⟨rfl, Nat.le_add_right _ _⟩

theorem readLoop_ahead {α : Type} {read : StreamBuffer → Bool × α × StreamBuffer}
    (hread : ∀ b, Ahead b (read b).2.2) (n : Nat) :
    ∀ (data : List α) (b : StreamBuffer), Ahead b (readLoop read n data b).2.2 := by
  induction n with
  | zero => intro data b; exact Ahead.refl b
  | succ n ih =>
    intro data b
    rw [StreamBuffer.readLoop]
    by_cases hr : (read b).1 = true
    · rw [if_pos hr]
      exact (hread b).trans (ih _ _)
    · rw [if_neg hr]
      exact hread b

theorem read_ahead : ∀ (t : FieldType) (old : t.Val) (b : StreamBuffer),
    Ahead b (read t old b).2.2
  | @FieldType.fixed α _, _, b => readBytes_ahead b (byteSize α)
  | .string, _, b => readString_ahead b
  | .vector t, old, b => by
      have hsize : Ahead b (b.readFixed (α := Int32)).2 := readBytes_ahead b _
      rw [StreamBuffer.read]
      cases h : b.readFixed (α := Int32) with
      | mk size b' =>
        rw [h] at hsize
        cases size with
        | none => exact hsize
        | some size =>
          simp only
          split
          · exact hsize
          · exact hsize.trans (readLoop_ahead (read_ahead t t.fresh) _ _ _)

/-! ## The reader follows the scan -/

theorem readLoop_follows {α : Type} {read : StreamBuffer → Bool × α × StreamBuffer}
    {scan : Bool → List UInt8 → Option Scanned} (hahead : ∀ b, Ahead b (read b).2.2)
    (hread : ∀ b, b.rPos ≤ b.wPos →
      Follows (scan (!b.chkRWError) b.unread) (read b).1 (read b).2.2) (n : Nat) :
    ∀ (data : List α) (b : StreamBuffer), b.rPos ≤ b.wPos →
      Follows (scanLoop scan n (!b.chkRWError) b.unread)
        (readLoop read n data b).1 (readLoop read n data b).2.2 := by
  induction n with
  | zero => intro data b hle; exact ⟨rfl, rfl, hle, rfl⟩
  | succ n ih =>
    intro data b hle
    have hb := hread b hle
    rw [StreamBuffer.readLoop, scanLoop]
    cases hs : scan (!b.chkRWError) b.unread with
    | none =>
      -- Past the end after this element, and later elements only move further.
      rw [hs] at hb
      by_cases hr : (read b).1 = true
      · rw [if_pos hr]
        obtain ⟨hw, hpos⟩ := readLoop_ahead hahead n (data ++ [(read b).2.1]) (read b).2.2
        have hout : (read b).2.2.wPos < (read b).2.2.rPos := hb
        show _ < _
        omega
      · rw [if_neg hr]
        exact hb
    | some r =>
      rw [hs] at hb
      obtain ⟨hret, hok, hle', hrest⟩ := hb
      simp only [← hret, ← hok, ← hrest]
      by_cases hr : (read b).1 = true
      · rw [if_pos hr, if_pos hr]
        exact ih _ _ hle'
      · rw [if_neg hr, if_neg hr]
        exact ⟨rfl, rfl, hle', rfl⟩

/-- The reader of a type follows its scan. -/
theorem read_follows : ∀ (t : FieldType) (old : t.Val) (b : StreamBuffer), b.rPos ≤ b.wPos →
    Follows (scan t (!b.chkRWError) b.unread) (read t old b).1 (read t old b).2.2
  | @FieldType.fixed α _, old, b, hle => by
      rw [StreamBuffer.read, scan]
      rcases readFixed_follows (α := α) hle with ⟨hok, hfit, heq⟩ | ⟨hbad, e, he, heq⟩
      · rw [if_pos ⟨hok, hfit⟩, heq]
        rw [unread_length] at hfit
        refine ⟨rfl, rfl, ?_, advance_unread b _⟩
        rw [advance_rPos, advance_wPos]
        omega
      · rw [if_neg hbad, heq]
        exact follows_setError he hle
  | .string, old, b, hle => readString_follows hle
  | .vector t, old, b, hle => by
      rw [StreamBuffer.read, scan]
      rcases readFixed_follows (α := Int32) hle with ⟨hok, hfit, heq⟩ | ⟨hbad, e, he, heq⟩
      · rw [if_pos ⟨hok, hfit⟩, heq]
        rw [unread_length] at hfit
        have hle' : (b.advance (byteSize Int32)).rPos ≤ (b.advance (byteSize Int32)).wPos := by
          rw [advance_rPos, advance_wPos]
          omega
        simp only
        split
        · exact ⟨rfl, rfl, hle', advance_unread b _⟩
        · rw [← advance_unread]
          exact readLoop_follows (read_ahead t t.fresh) (read_follows t t.fresh) _ old _ hle'
      · rw [if_neg hbad, heq]
        exact follows_setError he hle

/-! ## Runs -/

/-- An operation on the buffer, with its arguments. -/
inductive StreamOp : Type 1 where
  | read (t : FieldType) (old : t.Val)
  | write (t : FieldType) (v : t.Val)
  | readBytes (size : Nat)
  | writeBytes (data : List UInt8)
  | seekReadPos (n : Int)

def perform (b : StreamBuffer) : StreamOp → StreamBuffer
  | .read t old => (read t old b).2.2
  | .write t v => (write t v b).2
  | .readBytes size => (b.readBytes size).2
  | .writeBytes data => (b.writeBytes data).2
  | .seekReadPos n => (b.seekReadPos n).2

/-- The read position is at most the write position, which is at most the
capacity. -/
def CursorSafe (b : StreamBuffer) : Prop := b.rPos ≤ b.wPos ∧ b.wPos ≤ maxStreamBufSize

/-- Every string a read comes to ends within the unread bytes. -/
def StringsEnd (b : StreamBuffer) : StreamOp → Prop
  | .read t _ => (scan t (!b.chkRWError) b.unread).isSome = true
  | _ => True

theorem writeBytes_cursorSafe {b : StreamBuffer} (hb : CursorSafe b) (data : List UInt8) :
    CursorSafe (b.writeBytes data).2 := by
  refine ⟨?_, StreamBuffer.wPos_le _⟩
  rw [writeBytes_rPos]
  exact Nat.le_trans hb.1 (le_writeBytes_wPos b data)

theorem writeLoop_cursorSafe {α : Type} {write : StreamBuffer → α → Bool × StreamBuffer}
    (hwrite : ∀ b v, CursorSafe b → CursorSafe (write b v).2) (vs : List α) :
    ∀ b, CursorSafe b → CursorSafe (writeLoop write vs b).2 := by
  induction vs with
  | nil => intro b hb; exact hb
  | cons v vs ih =>
    intro b hb
    rw [StreamBuffer.writeLoop]
    by_cases hv : (write b v).1 = true
    · rw [if_pos hv]
      exact ih _ (hwrite b v hb)
    · rw [if_neg hv]
      exact hwrite b v hb

theorem write_cursorSafe : ∀ (t : FieldType) (v : t.Val) (b : StreamBuffer),
    CursorSafe b → CursorSafe (write t v b).2
  | @FieldType.fixed _ _, v, _, hb => writeBytes_cursorSafe hb (toBytes v)
  | .string, s, _, hb => writeBytes_cursorSafe hb (s ++ [0])
  | .vector t, data, b, hb => by
      rw [StreamBuffer.write]
      have hsize : CursorSafe (b.writeFixed (Int32.ofNat data.length)).2 :=
        writeBytes_cursorSafe hb _
      split
      · exact hb
      · simp only
        split
        · exact writeLoop_cursorSafe (fun b v => write_cursorSafe t v b) data _ hsize
        · exact hsize

theorem seekReadPos_cursorSafe {b : StreamBuffer} (hb : CursorSafe b) (n : Int) :
    CursorSafe (b.seekReadPos n).2 := by
  unfold StreamBuffer.seekReadPos
  simp only
  split
  · exact hb
  · refine ⟨?_, b.wPos_le⟩
    show (b.rPos + n : Int).toNat ≤ b.wPos
    omega

/-- What one operation does to the cursor. -/
theorem perform_cursorSafe_iff (b : StreamBuffer) (op : StreamOp) (hb : CursorSafe b) :
    CursorSafe (perform b op) ↔ StringsEnd b op := by
  cases op with
  | read t old =>
    have hfollows := read_follows t old b hb.1
    rw [StringsEnd, perform]
    cases hs : scan t (!b.chkRWError) b.unread with
    | none =>
      rw [hs] at hfollows
      have hout : (read t old b).2.2.wPos < (read t old b).2.2.rPos := hfollows
      refine ⟨fun h => absurd h.1 (by omega), fun h => ?_⟩
      cases h
    | some r =>
      rw [hs] at hfollows
      exact ⟨fun _ => rfl, fun _ => ⟨hfollows.2.2.1, StreamBuffer.wPos_le _⟩⟩
  | write t v => exact ⟨fun _ => trivial, fun _ => write_cursorSafe t v b hb⟩
  | readBytes size =>
    exact ⟨fun _ => trivial, fun _ => ⟨readBytes_rPos_le size hb.1, StreamBuffer.wPos_le _⟩⟩
  | writeBytes data => exact ⟨fun _ => trivial, fun _ => writeBytes_cursorSafe hb data⟩
  | seekReadPos n => exact ⟨fun _ => trivial, fun _ => seekReadPos_cursorSafe hb n⟩

/-- A buffer with the bytes another process sent. -/
def received (content : List UInt8) : StreamBuffer := (create.writeBytes content).2

/-- Over any run on any content, the cursor stays inside the written bytes
precisely if every string that is read ends within them. -/
theorem cursorSafe_run_iff (content : List UInt8) (ops : List StreamOp) :
    Always perform CursorSafe (received content) ops ↔
      AllSteps perform StringsEnd (received content) ops := by
  apply always_iff_allSteps perform_cursorSafe_iff
  exact writeBytes_cursorSafe ⟨Nat.le_refl _, Nat.zero_le _⟩ content

/-- One byte that is not NUL, read as a string. -/
theorem counterexample_cursorSafe :
    ¬ Always perform CursorSafe (received [65]) [.read .string []] := by
  intro h
  have hsafe : CursorSafe (perform (received [65]) (.read .string [])) := h.last
  exact absurd hsafe.1 (by decide)

end StreamBuffer

end FtMmi.Network
