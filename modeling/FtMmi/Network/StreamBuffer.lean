/-
FtMmi.Network.StreamBuffer — `util/network`: the byte buffer under every
packet (`stream_buffer.h`, `stream_buffer.cpp`).

`szBuff` is the whole array `szBuff_`, one byte longer than the capacity;
the structure carries its length and the bound on the write position, so
a buffer with the write position outside the array cannot be built. The
read position has no such field: `Read(std::string &)` moves it without
a check, and whether it stays behind the write position is a question
about runs.

Positions are naturals. The source computes them in `int32_t`, and the
casts of a size to `int32_t` change no outcome: a size of 2^31 and more
that passes a check through the cast is refused by `memcpy_sp`, and the
sum in `SeekReadPos` is out of range on both sides of an overflow. The
counters `rCount_` and `wCount_` only feed log texts and are left out.

`FieldType` lists what `operator <<` and `operator >>` are used at:
trivially copyable objects (a template instance per type), strings, and
vectors of these. A read is given the old value of the variable it reads
into, because a read that fails leaves the variable as it was.
-/
import FtMmi.Lib.ByteImage
import FtMmi.Util.Config

namespace FtMmi.Network

open FtMmi.Lib

/-! ## The buffer -/

inductive ErrorStatus where
  | ok
  | read
  | write
  deriving DecidableEq, Repr

structure StreamBuffer where
  rwErrorStatus : ErrorStatus
  rPos : Nat
  wPos : Nat
  szBuff : List UInt8
  szBuff_length : szBuff.length = maxStreamBufSize + 1
  wPos_le : wPos ≤ maxStreamBufSize

namespace StreamBuffer

/-- `StreamBuffer()` -/
def create : StreamBuffer where
  rwErrorStatus := .ok
  rPos := 0
  wPos := 0
  szBuff := List.replicate (maxStreamBufSize + 1) 0
  szBuff_length := List.length_replicate
  wPos_le := Nat.zero_le _

def reset (b : StreamBuffer) : StreamBuffer :=
  { b with rwErrorStatus := .ok, rPos := 0, wPos := 0, wPos_le := Nat.zero_le _ }

def clean (b : StreamBuffer) : StreamBuffer :=
  { b.reset with
    szBuff := List.replicate (maxStreamBufSize + 1) 0
    szBuff_length := List.length_replicate }

def setError (b : StreamBuffer) (e : ErrorStatus) : StreamBuffer :=
  { b with rwErrorStatus := e }

/-- Move the read position forward. -/
def advance (b : StreamBuffer) (n : Nat) : StreamBuffer :=
  { b with rPos := b.rPos + n }

/-- `memcpy_sp(&szBuff_[wPos_], ..)` and the new write position. -/
def append (b : StreamBuffer) (data : List UInt8)
    (h : b.wPos + data.length ≤ maxStreamBufSize) : StreamBuffer :=
  { b with
    wPos := b.wPos + data.length
    szBuff := b.szBuff.take b.wPos ++ data ++ b.szBuff.drop (b.wPos + data.length)
    szBuff_length := by
      have hlen := b.szBuff_length
      simp only [List.length_append, List.length_take, List.length_drop]
      omega
    wPos_le := h }

def isEmpty (b : StreamBuffer) : Bool := b.rPos == b.wPos

/-- `Size()` -/
def size (b : StreamBuffer) : Nat := b.wPos

def unreadSize (b : StreamBuffer) : Nat :=
  if b.wPos ≤ b.rPos then 0 else b.wPos - b.rPos

def getAvailableBufSize (b : StreamBuffer) : Nat :=
  if maxStreamBufSize ≤ b.wPos then 0 else maxStreamBufSize - b.wPos

def chkRWError (b : StreamBuffer) : Bool := b.rwErrorStatus != .ok

/-- The array from the read position on, which is what `ReadBuf()` points at. -/
def readBuf (b : StreamBuffer) : List UInt8 := b.szBuff.drop b.rPos

def seekReadPos (b : StreamBuffer) (n : Int) : Bool × StreamBuffer :=
  let pos : Int := b.rPos + n
  if pos < 0 ∨ b.wPos < pos then (false, b)
  else (true, { b with rPos := pos.toNat })

/-- `Write(const char *, size_t)`. After the bound check `memcpy_sp` has
room for the bytes and cannot fail. -/
def writeBytes (b : StreamBuffer) (data : List UInt8) : Bool × StreamBuffer :=
  if b.chkRWError then (false, b)
  else if data.length = 0 then (false, b.setError .write)
  else if h : b.wPos + data.length ≤ maxStreamBufSize then (true, b.append data h)
  else (false, b.setError .write)

/-- `Read(char *, size_t)` -/
def readBytes (b : StreamBuffer) (size : Nat) : Option (List UInt8) × StreamBuffer :=
  if b.chkRWError then (none, b)
  else if size = 0 then (none, b.setError .read)
  else if b.rPos + size > b.wPos then (none, b.setError .read)
  else (some (b.readBuf.take size), b.advance size)

/-- The C string at the read position: the bytes before the first NUL. It
is looked for in the whole array, not in the bytes that were written. -/
def cString (b : StreamBuffer) : List UInt8 := b.readBuf.takeWhile (· ≠ 0)

/-- `Read(std::string &)`. The first component is the value returned, the
second the string assigned, if one is. There is no check of the error
status, and the string moves the read position whatever its length. -/
def readString (b : StreamBuffer) : Bool × Option (List UInt8) × StreamBuffer :=
  if b.rPos = b.wPos then (false, none, b.setError .read)
  else
    let buf := b.cString
    (decide (0 < buf.length), some buf, b.advance (buf.length + 1))

end StreamBuffer

/-! ## Typed fields -/

/-- The types `operator <<` and `operator >>` are used at. -/
inductive FieldType : Type 1 where
  | fixed (α : Type) [ByteImage α]
  | string
  | vector (t : FieldType)

/-- The values of a field type; a `std::string` is the list of its bytes. -/
@[reducible] def FieldType.Val : FieldType → Type
  | @fixed α _ => α
  | .string => List UInt8
  | .vector t => List t.Val

/-- The value of a new local variable. For a fixed-size type the source
leaves it uninitialised; the value given here is never looked at. -/
def FieldType.fresh : (t : FieldType) → t.Val
  | @fixed _ _ => ofBytes []
  | .string => []
  | .vector _ => []

theorem FieldType.fresh_vector (t : FieldType) : (FieldType.vector t).fresh = [] := rfl

namespace StreamBuffer

/-- `Write(const T &)` -/
def writeFixed {α : Type} [ByteImage α] (b : StreamBuffer) (a : α) : Bool × StreamBuffer :=
  b.writeBytes (toBytes a)

/-- `Read(T &)` -/
def readFixed {α : Type} [ByteImage α] (b : StreamBuffer) : Option α × StreamBuffer :=
  let r := b.readBytes (byteSize α)
  (r.1.map ofBytes, r.2)

/-- The element loop of `Write(const std::vector<T> &)`. -/
def writeLoop {α : Type} (write : StreamBuffer → α → Bool × StreamBuffer) :
    List α → StreamBuffer → Bool × StreamBuffer
  | [], b => (true, b)
  | item :: rest, b =>
      let r := write b item
      if r.1 then writeLoop write rest r.2 else (false, r.2)

/-- The element loop of `Read(std::vector<T> &)`: `size` elements are read
and pushed back one by one. -/
def readLoop {α : Type} (read : StreamBuffer → Bool × α × StreamBuffer) :
    Nat → List α → StreamBuffer → Bool × List α × StreamBuffer
  | 0, data, b => (true, data, b)
  | n + 1, data, b =>
      let r := read b
      if r.1 then readLoop read n (data ++ [r.2.1]) r.2.2 else (false, data, r.2.2)

/-- `Write` at a field type. -/
def write : (t : FieldType) → t.Val → StreamBuffer → Bool × StreamBuffer
  | @FieldType.fixed _ _, a, b => b.writeFixed a
  | .string, s, b => b.writeBytes (s ++ [0])
  | .vector t, data, b =>
      if int32Max < data.length then (false, b)
      else
        let r := b.writeFixed (Int32.ofNat data.length)
        if r.1 then writeLoop (fun b v => write t v b) data r.2 else (false, r.2)

/-- `Read` at a field type: the value returned, the variable read into
and the buffer afterwards. -/
def read : (t : FieldType) → t.Val → StreamBuffer → Bool × t.Val × StreamBuffer
  | @FieldType.fixed α _, old, b =>
      let r := b.readFixed (α := α)
      (r.1.isSome, r.1.getD old, r.2)
  | .string, old, b =>
      let r := b.readString
      (r.1, r.2.1.getD old, r.2.2)
  | .vector t, old, b =>
      match b.readFixed (α := Int32) with
      | (none, b') => (false, old, b')
      | (some size, b') =>
          if size.toInt < 0 ∨ (maxVectorSize : Int) < size.toInt then (false, old, b')
          else readLoop (fun b => read t t.fresh b) size.toInt.toNat old b'

/-- `operator <<` at a fixed-size type. -/
def insert {α : Type} [ByteImage α] (b : StreamBuffer) (a : α) : StreamBuffer :=
  (b.writeFixed a).2

/-- `operator >>` at a fixed-size type: the variable and the buffer. -/
def extract {α : Type} [ByteImage α] (b : StreamBuffer) (old : α) : α × StreamBuffer :=
  let r := b.readFixed (α := α)
  (r.1.getD old, r.2)

end StreamBuffer

end FtMmi.Network
