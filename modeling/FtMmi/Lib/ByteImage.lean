/-
FtMmi.Lib.ByteImage — fixed-size byte images of values.

`ByteImage α` is the object representation of a trivially copyable type:
every value has an image of the same, positive number of bytes, and the
image determines the value. The integer images are little endian. Images
of pairs are concatenations, padding bytes are the one-valued type
`Pad n`, and `ByteImage.ofLeftInverse` carries an image along a
representation of one type in another, which is how the image of a
record is obtained from the image of the tuple of its fields.
-/
import Mathlib

namespace FtMmi.Lib

/-! ## Little-endian naturals -/

/-- The `k` low-order base-256 digits of `n`, least significant first. -/
def leBytes : Nat → Nat → List UInt8
  | 0, _ => []
  | k + 1, n => UInt8.ofNat (n % 256) :: leBytes k (n / 256)

/-- The natural number a list of base-256 digits stands for. -/
def leNat : List UInt8 → Nat
  | [] => 0
  | b :: bs => b.toNat + 256 * leNat bs

@[simp] theorem leBytes_length (k n : Nat) : (leBytes k n).length = k := by
  induction k generalizing n with
  | zero => rfl
  | succ k ih => simp [leBytes, ih]

/-- Reading the digits back loses nothing below `256 ^ k`. -/
theorem leNat_leBytes (k n : Nat) (h : n < 256 ^ k) : leNat (leBytes k n) = n := by
  induction k generalizing n with
  | zero =>
    have hn : n = 0 := by simpa using h
    simp [hn, leBytes, leNat]
  | succ k ih =>
    have hdiv : n / 256 < 256 ^ k :=
      Nat.div_lt_of_lt_mul (by rw [pow_succ] at h; omega)
    have hmod : (UInt8.ofNat (n % 256)).toNat = n % 256 := by
      rw [UInt8.toNat_ofNat']; omega
    simp only [leBytes, leNat, ih (n / 256) hdiv, hmod]
    omega

/-- Digits written out again are the digits that were read. -/
theorem leBytes_leNat (bs : List UInt8) : leBytes bs.length (leNat bs) = bs := by
  induction bs with
  | nil => rfl
  | cons b bs ih =>
    have hb := b.toNat_lt
    have hmod : (b.toNat + 256 * leNat bs) % 256 = b.toNat := by omega
    have hdiv : (b.toNat + 256 * leNat bs) / 256 = leNat bs := by omega
    rw [List.length_cons, leBytes, leNat, hmod, hdiv, ih, UInt8.ofNat_toNat]

theorem leNat_lt (bs : List UInt8) : leNat bs < 256 ^ bs.length := by
  induction bs with
  | nil => exact Nat.one_pos
  | cons b bs ih =>
    have hb := b.toNat_lt
    rw [List.length_cons, pow_succ, leNat]
    omega

/-! ## Byte images -/

/-- A type whose values have byte images of one size. -/
class ByteImage (α : Type) where
  byteSize : Nat
  toBytes : α → List UInt8
  ofBytes : List UInt8 → α
  byteSize_pos : 0 < byteSize
  toBytes_length : ∀ a, (toBytes a).length = byteSize
  ofBytes_toBytes : ∀ a, ofBytes (toBytes a) = a

export ByteImage (byteSize toBytes ofBytes byteSize_pos)

attribute [simp] ByteImage.toBytes_length ByteImage.ofBytes_toBytes

theorem toBytes_ne_nil {α : Type} [ByteImage α] (a : α) : toBytes a ≠ [] := by
  have hlen : (toBytes a).length = byteSize α := ByteImage.toBytes_length a
  have hpos : 0 < byteSize α := byteSize_pos
  exact List.ne_nil_of_length_pos (by omega)

/-- An image followed by other bytes: the image is the front part. -/
theorem take_toBytes_append {α : Type} [ByteImage α] (a : α) (rest : List UInt8) :
    (toBytes a ++ rest).take (byteSize α) = toBytes a :=
  List.take_left' (ByteImage.toBytes_length a)

theorem drop_toBytes_append {α : Type} [ByteImage α] (a : α) (rest : List UInt8) :
    (toBytes a ++ rest).drop (byteSize α) = rest :=
  List.drop_left' (ByteImage.toBytes_length a)

/-- The image of a type whose values are represented in another type. -/
@[reducible] def ByteImage.ofLeftInverse {α β : Type} [ByteImage α] (rep : β → α) (abs : α → β)
    (h : ∀ b, abs (rep b) = b) : ByteImage β where
  byteSize := byteSize α
  toBytes b := toBytes (rep b)
  ofBytes bs := abs (ofBytes bs)
  byteSize_pos := byteSize_pos
  toBytes_length b := ByteImage.toBytes_length (rep b)
  ofBytes_toBytes b := by rw [ByteImage.ofBytes_toBytes, h]

/-! ## Integers and booleans -/

instance : ByteImage UInt32 where
  byteSize := 4
  toBytes n := leBytes 4 n.toNat
  ofBytes bs := UInt32.ofNat (leNat bs)
  byteSize_pos := by decide
  toBytes_length n := leBytes_length 4 n.toNat
  ofBytes_toBytes n := by
    rw [leNat_leBytes 4 n.toNat n.toNat_lt, UInt32.ofNat_toNat]

instance : ByteImage UInt64 where
  byteSize := 8
  toBytes n := leBytes 8 n.toNat
  ofBytes bs := UInt64.ofNat (leNat bs)
  byteSize_pos := by decide
  toBytes_length n := leBytes_length 8 n.toNat
  ofBytes_toBytes n := by
    rw [leNat_leBytes 8 n.toNat n.toNat_lt, UInt64.ofNat_toNat]

instance : ByteImage Int32 :=
  .ofLeftInverse Int32.toUInt32 UInt32.toInt32 fun _ => rfl

instance : ByteImage Int64 :=
  .ofLeftInverse Int64.toUInt64 UInt64.toInt64 fun _ => rfl

/-- Any four bytes are the image of a number. -/
theorem toBytes_ofBytes_int32 {bs : List UInt8} (h : bs.length = 4) :
    toBytes (ofBytes bs : Int32) = bs := by
  have hlt := leNat_lt bs
  have heq := leBytes_leNat bs
  rw [h] at hlt heq
  show leBytes 4 (UInt32.ofNat (leNat bs)).toInt32.toUInt32.toNat = bs
  rw [UInt32.toUInt32_toInt32, UInt32.toNat_ofNat', Nat.mod_eq_of_lt (show leNat bs < 2 ^ 32 from hlt), heq]

/-- One byte; any byte but zero reads as `true`. -/
instance : ByteImage Bool where
  byteSize := 1
  toBytes b := [if b then 1 else 0]
  ofBytes bs := bs.headD 0 != 0
  byteSize_pos := by decide
  toBytes_length _ := rfl
  ofBytes_toBytes b := by cases b <;> rfl

/-! ## Records -/

/-- The fields of a record follow one another. -/
instance {α β : Type} [ByteImage α] [ByteImage β] : ByteImage (α × β) where
  byteSize := byteSize α + byteSize β
  toBytes p := toBytes p.1 ++ toBytes p.2
  ofBytes bs := (ofBytes (bs.take (byteSize α)), ofBytes (bs.drop (byteSize α)))
  byteSize_pos := Nat.add_pos_left byteSize_pos _
  toBytes_length p := by simp
  ofBytes_toBytes p := by
    rw [take_toBytes_append, drop_toBytes_append]
    simp

/-- `n` bytes of padding, written as zeros and ignored when read. -/
structure Pad (n : Nat) where
  deriving DecidableEq, Repr

instance (n : Nat) [NeZero n] : ByteImage (Pad n) where
  byteSize := n
  toBytes _ := List.replicate n 0
  ofBytes _ := {}
  byteSize_pos := Nat.pos_of_neZero n
  toBytes_length _ := List.length_replicate
  ofBytes_toBytes _ := rfl

end FtMmi.Lib
