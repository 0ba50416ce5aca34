/-
FtMmi.Network.TypedStream — the typed codec of the stream buffer: what a
sequence of `operator <<` leaves in the buffer, and what a sequence of
`operator >>` of the same types makes of it.

`wire t v` are the bytes a successful write of `v` adds. The reader does
not accept everything the writer produces, so the round trip has a side
condition, `Plain`:

* a string goes out with its length in bytes but is read back as a C
  string, hence no NUL inside it;
* a vector goes out with any element count but is refused by the reader
  above `MAX_VECTOR_SIZE`;
* reading an empty string returns `false`, which the element loop of a
  vector takes for a failed read, hence no empty string as an element. A
  field that is an empty string is not affected: `operator >>` drops the
  value returned and the error status stays clear.

`counterexample_typedRoundTrip` shows each of the three at work.
-/
import FtMmi.Network.StreamBufferTheorems

namespace FtMmi.Network

open FtMmi.Lib

/-! ## Fields and their bytes -/

/-- A value with the type it is written at. -/
abbrev Field : Type 1 := (t : FieldType) × t.Val

/-- The bytes of a field. -/
def wire : (t : FieldType) → t.Val → List UInt8
  | @FieldType.fixed _ _, a => toBytes a
  | .string, s => s ++ [0]
  | .vector t, data => toBytes (Int32.ofNat data.length) ++ data.flatMap (wire t)

/-- The value `Read` returns for a field read back intact: `false` only for
an empty string. -/
def readsTrue : (t : FieldType) → t.Val → Bool
  | @FieldType.fixed _ _, _ => true
  | .string, s => decide (0 < s.length)
  | .vector _, _ => true

/-- What the reader accepts among the values the writer accepts. -/
def Plain : (t : FieldType) → t.Val → Prop
  | @FieldType.fixed _ _, _ => True
  | .string, s => 0 ∉ s
  | .vector t, data =>
      data.length ≤ maxVectorSize ∧ ∀ v ∈ data, Plain t v ∧ readsTrue t v = true

namespace StreamBuffer

/-- `buf << f₁ << f₂ << ..`: whether every write returned `true`, and the buffer. -/
def writeAll : List Field → StreamBuffer → Bool × StreamBuffer
  | [], b => (true, b)
  | f :: fs, b =>
      let r := write f.1 f.2 b
      let rest := writeAll fs r.2
      (r.1 && rest.1, rest.2)

/-- `buf >> v₁ >> v₂ >> ..` into new variables: the value each read returned
with the variable it read into, and the buffer. -/
def readAll : List FieldType → StreamBuffer → List (Bool × Field) × StreamBuffer
  | [], b => ([], b)
  | t :: ts, b =>
      let r := read t t.fresh b
      let rest := readAll ts r.2.2
      ((r.1, ⟨t, r.2.1⟩) :: rest.1, rest.2)

/-! ## Writing -/

/-- The element loop of a vector write adds the images of the elements. -/
theorem Holds.of_writeLoop {α : Type} {write : StreamBuffer → α → Bool × StreamBuffer}
    {image : α → List UInt8}
    (hwrite : ∀ (v : α) {b : StreamBuffer} {bs : List UInt8}, b.Holds bs →
      (write b v).1 = true → (write b v).2.Holds (bs ++ image v)) :
    ∀ (vs : List α) {b : StreamBuffer} {bs : List UInt8}, b.Holds bs →
      (writeLoop write vs b).1 = true →
      (writeLoop write vs b).2.Holds (bs ++ vs.flatMap image)
  | [], b, bs, hb, _ => by simpa [writeLoop] using hb
  | v :: vs, b, bs, hb, h => by
      unfold writeLoop at h ⊢
      by_cases hv : (write b v).1 = true
      · simp only [hv, if_true] at h ⊢
        have htail := Holds.of_writeLoop hwrite vs (hwrite v hb hv) h
        simpa using htail
      · simp [hv] at h

/-- A successful write of a field adds its bytes. -/
theorem Holds.of_write : ∀ (t : FieldType) (v : t.Val) {b : StreamBuffer} {bs : List UInt8},
    b.Holds bs → (write t v b).1 = true → (write t v b).2.Holds (bs ++ wire t v)
  | @FieldType.fixed _ _, _, _, _, hb, h => hb.of_writeBytes h
  | .string, _, _, _, hb, h => hb.of_writeBytes h
  | .vector t, data, b, bs, hb, h => by
      unfold write at h ⊢
      by_cases hbig : int32Max < data.length
      · simp [hbig] at h
      · simp only [hbig, if_false] at h ⊢
        by_cases hsize : (b.writeFixed (Int32.ofNat data.length)).1 = true
        · simp only [hsize, if_true] at h ⊢
          have hcount := hb.of_writeBytes hsize
          have htail := Holds.of_writeLoop (fun v => Holds.of_write t v) data hcount h
          simpa [wire, writeFixed] using htail
        · simp [hsize] at h

theorem Holds.of_writeAll : ∀ (fs : List Field) {b : StreamBuffer} {bs : List UInt8},
    b.Holds bs → (writeAll fs b).1 = true →
    (writeAll fs b).2.Holds (bs ++ fs.flatMap fun f => wire f.1 f.2)
  | [], b, bs, hb, _ => by simpa [writeAll] using hb
  | f :: fs, b, bs, hb, h => by
      unfold writeAll at h ⊢
      simp only [Bool.and_eq_true] at h
      obtain ⟨hf, hrest⟩ := h
      have htail := Holds.of_writeAll fs (hb.of_write f.1 f.2 hf) hrest
      simpa using htail

/-! ## Reading back -/

theorem readBuf_eq {b : StreamBuffer} (hle : b.rPos ≤ b.wPos) :
    b.readBuf = b.unread ++ b.szBuff.drop b.wPos := by
  have hlen : b.rPos ≤ (b.szBuff.take b.wPos).length := by
    rw [show (b.szBuff.take b.wPos).length = b.wPos from b.written_length]
    exact hle
  rw [unread, written, ← List.drop_append_of_le_length hlen, List.take_append_drop]
  rfl

/-- Bytes other than NUL followed by a NUL: `takeWhile` stops there. -/
theorem takeWhile_nul {s rest : List UInt8} (hs : 0 ∉ s) :
    (s ++ 0 :: rest).takeWhile (· ≠ 0) = s := by
  have hall : ∀ c ∈ s, decide (c ≠ 0) = true := by
    intro c hc
    exact decide_eq_true fun h => hs (h ▸ hc)
  rw [List.takeWhile_append_of_pos hall]
  simp

/-- A string that ends within the unread bytes is the C string found there. -/
theorem cString_eq {b : StreamBuffer} {s rest : List UInt8} (hle : b.rPos ≤ b.wPos)
    (heq : b.unread = s ++ 0 :: rest) (hs : 0 ∉ s) : b.cString = s := by
  rw [StreamBuffer.cString, readBuf_eq hle, heq, List.append_assoc, List.cons_append,
    takeWhile_nul hs]

theorem Holds.readString {b : StreamBuffer} {s rest : List UInt8}
    (hb : b.Holds (s ++ 0 :: rest)) (hs : 0 ∉ s) :
    b.readString = (decide (0 < s.length), some s, b.advance (s.length + 1)) ∧
      (b.advance (s.length + 1)).Holds rest := by
  have hlen := congrArg List.length hb.eq
  simp only [unread_length, List.length_append, List.length_cons] at hlen
  have hne : b.rPos ≠ b.wPos := by omega
  constructor
  · rw [StreamBuffer.readString, if_neg hne, cString_eq hb.le hb.eq hs]
  · have hb' : b.Holds ((s ++ [0]) ++ rest) := by simpa using hb
    simpa using hb'.advance

/-- The element loop of a vector read, over the images of the elements. -/
theorem Holds.readLoop {α : Type} (read : StreamBuffer → Bool × α × StreamBuffer)
    (image : α → List UInt8) (ok : α → Prop)
    (hread : ∀ (v : α) {b : StreamBuffer} {rest : List UInt8}, ok v → b.Holds (image v ++ rest) →
      ∃ b', read b = (true, v, b') ∧ b'.Holds rest) :
    ∀ (vs : List α) (data : List α) {b : StreamBuffer} {rest : List UInt8},
      (∀ v ∈ vs, ok v) → b.Holds (vs.flatMap image ++ rest) →
      ∃ b', StreamBuffer.readLoop read vs.length data b = (true, data ++ vs, b') ∧ b'.Holds rest
  | [], data, b, rest, _, hb => ⟨b, by simp [StreamBuffer.readLoop], by simpa using hb⟩
  | v :: vs, data, b, rest, hok, hb => by
      have hb' : b.Holds (image v ++ (vs.flatMap image ++ rest)) := by simpa using hb
      obtain ⟨b₁, heq, hb₁⟩ := hread v (hok v (by simp)) hb'
      obtain ⟨b₂, hloop, hb₂⟩ := Holds.readLoop read image ok hread vs (data ++ [v])
        (fun w hw => hok w (by simp [hw])) hb₁
      refine ⟨b₂, ?_, hb₂⟩
      simp only [List.length_cons, StreamBuffer.readLoop, heq, if_true, hloop]
      simp

/-- Reading a plain field back, with other bytes behind it. -/
theorem Holds.read : ∀ (t : FieldType) (v : t.Val) {b : StreamBuffer} {rest : List UInt8},
    Plain t v → b.Holds (wire t v ++ rest) →
    ∃ b', StreamBuffer.read t t.fresh b = (readsTrue t v, v, b') ∧ b'.Holds rest
  | @FieldType.fixed α _, v, b, rest, _, hb => by
      obtain ⟨heq, hrest⟩ := hb.readFixed
      exact ⟨_, by simp [StreamBuffer.read, heq, readsTrue], hrest⟩
  | .string, s, b, rest, hs, hb => by
      have hb' : b.Holds (s ++ 0 :: rest) := by simpa [wire] using hb
      obtain ⟨heq, hrest⟩ := hb'.readString hs
      exact ⟨_, by simp [StreamBuffer.read, heq, readsTrue], hrest⟩
  | .vector t, data, b, rest, hdata, hb => by
      obtain ⟨hcount, hall⟩ := hdata
      have hb' : b.Holds (toBytes (Int32.ofNat data.length) ++
          (data.flatMap (wire t) ++ rest)) := by
        simpa [wire] using hb
      obtain ⟨heq, hb₁⟩ := hb'.readFixed
      have hmax : data.length ≤ 1000 := hcount
      have hint : (Int32.ofNat data.length).toInt = data.length :=
        Int32.toInt_ofNat_of_lt (by omega)
      have hrange : ¬ ((Int32.ofNat data.length).toInt < 0 ∨
          (maxVectorSize : Int) < (Int32.ofNat data.length).toInt) := by
        rw [hint]
        omega
      have hread : ∀ (v : t.Val) {b : StreamBuffer} {rest : List UInt8},
          Plain t v ∧ readsTrue t v = true → b.Holds (wire t v ++ rest) →
          ∃ b', StreamBuffer.read t t.fresh b = (true, v, b') ∧ b'.Holds rest := by
        intro v b rest hv hb
        obtain ⟨b', hr, hb'⟩ := Holds.read t v hv.1 hb
        exact ⟨b', by rw [hr, hv.2], hb'⟩
      obtain ⟨b₂, hloop, hb₂⟩ := Holds.readLoop (fun b => StreamBuffer.read t t.fresh b)
        (wire t) _ hread data [] hall hb₁
      refine ⟨b₂, ?_, hb₂⟩
      simp only [StreamBuffer.read, heq]
      rw [if_neg hrange, hint, Int.toNat_natCast, FieldType.fresh_vector, hloop]
      simp [readsTrue]

theorem Holds.readAll : ∀ (fs : List Field) {b : StreamBuffer} {rest : List UInt8},
    (∀ f ∈ fs, Plain f.1 f.2) → b.Holds ((fs.flatMap fun f => wire f.1 f.2) ++ rest) →
    ∃ b', StreamBuffer.readAll (fs.map Sigma.fst) b
      = (fs.map fun f => (readsTrue f.1 f.2, f), b') ∧ b'.Holds rest
  | [], b, rest, _, hb => ⟨b, rfl, by simpa using hb⟩
  | f :: fs, b, rest, hok, hb => by
      have hb' : b.Holds (wire f.1 f.2 ++ ((fs.flatMap fun f => wire f.1 f.2) ++ rest)) := by
        simpa using hb
      obtain ⟨b₁, heq, hb₁⟩ := Holds.read f.1 f.2 (hok f (by simp)) hb'
      obtain ⟨b₂, hall, hb₂⟩ := Holds.readAll fs (fun g hg => hok g (by simp [hg])) hb₁
      refine ⟨b₂, ?_, hb₂⟩
      simp only [List.map_cons, StreamBuffer.readAll, heq, hall]

/-! ## The round trip -/

/-- Reading the fields `fs` back from the buffer they were written to gives
the same fields, no error, and nothing is left unread. -/
structure ReadsBack (fs : List Field) : Prop where
  values : (readAll (fs.map Sigma.fst) (writeAll fs create).2).1.map Prod.snd = fs
  noError : (readAll (fs.map Sigma.fst) (writeAll fs create).2).2.chkRWError = false
  allRead : (readAll (fs.map Sigma.fst) (writeAll fs create).2).2.unreadSize = 0

/-- The buffer `writeAll` leaves behind when every write succeeds. -/
theorem writeAll_create_holds {fs : List Field} (h : (writeAll fs create).1 = true) :
    (writeAll fs create).2.Holds (fs.flatMap fun f => wire f.1 f.2) := by
  have hall := Holds.of_writeAll fs create_holds h
  rwa [List.nil_append] at hall

/-- Plain fields written without an error to a new buffer are read back, and
each read returns `true` except where the field is an empty string. -/
theorem typedRoundTrip (fs : List Field) (hplain : ∀ f ∈ fs, Plain f.1 f.2)
    (hwrite : (writeAll fs create).1 = true) :
    ReadsBack fs ∧
      (readAll (fs.map Sigma.fst) (writeAll fs create).2).1.map Prod.fst
        = fs.map fun f => readsTrue f.1 f.2 := by
  have hb := writeAll_create_holds hwrite
  rw [← List.append_nil (fs.flatMap _)] at hb
  obtain ⟨b', heq, hb'⟩ := hb.readAll fs hplain
  refine ⟨⟨?_, ?_, ?_⟩, ?_⟩
  · rw [heq, List.map_map]
    exact List.map_id fs
  · rw [heq]
    exact (chkRWError_eq_false_iff b').mpr hb'.ok
  · rw [heq, unreadSize_eq, hb'.eq]
    rfl
  · rw [heq, List.map_map]
    rfl

/-- A number, two strings and a vector of strings. -/
theorem typedRoundTrip_mixed :
    ReadsBack [⟨.fixed Int32, -7⟩, ⟨.string, [65, 66]⟩, ⟨.string, []⟩,
      ⟨.vector .string, [[67], [68, 69]]⟩] := by
  refine (typedRoundTrip _ ?_ ?_).1
  · simp [Plain, readsTrue, maxVectorSize]
  · decide

/-- Element loops of fixed-size writes succeed while there is room. -/
theorem writeLoop_fixed_of_fits {α : Type} [ByteImage α] :
    ∀ (vs : List α) {b : StreamBuffer}, b.rwErrorStatus = .ok →
      b.wPos + vs.length * byteSize α ≤ maxStreamBufSize →
      (writeLoop (fun b v => write (.fixed α) v b) vs b).1 = true
  | [], _, _, _ => rfl
  | v :: vs, b, hok, hfit => by
      rw [List.length_cons, Nat.succ_mul] at hfit
      have hlen : (toBytes v).length = byteSize α := ByteImage.toBytes_length v
      have hv : write (.fixed α) v b = (true, b.append (toBytes v) (by omega)) :=
        writeBytes_of_fits hok (toBytes_ne_nil v) (by omega)
      unfold writeLoop
      simp only [hv, if_true]
      exact writeLoop_fixed_of_fits vs hok (by rw [append_wPos]; omega)

/-- A vector the writer accepts and the reader refuses for its length. -/
theorem longVector_not_readsBack (data : List Bool) (hlong : maxVectorSize < data.length)
    (hfit : 4 + data.length ≤ maxStreamBufSize) :
    (writeAll [⟨.vector (.fixed Bool), data⟩] create).1 = true ∧
      ¬ ReadsBack [⟨.vector (.fixed Bool), data⟩] := by
  rw [maxStreamBufSize_eq] at hfit
  have hlong' : 1000 < data.length := hlong
  have hmax : (Int32.ofNat data.length).toInt = data.length :=
    Int32.toInt_ofNat_of_lt (by omega)
  have hcount : create.writeFixed (Int32.ofNat data.length)
      = (true, create.append (toBytes (Int32.ofNat data.length)) (by simp [create]; decide)) :=
    writeBytes_of_fits rfl (toBytes_ne_nil _) _
  have hw : (writeAll [⟨.vector (.fixed Bool), data⟩] create).1 = true := by
    have hsmall : ¬ int32Max < data.length := by
      rw [int32Max]
      omega
    simp only [writeAll, write, if_neg hsmall, hcount, if_true, Bool.and_true]
    apply writeLoop_fixed_of_fits data rfl
    rw [append_wPos, ByteImage.toBytes_length]
    show 0 + 4 + data.length * 1 ≤ 16384
    omega
  refine ⟨hw, fun h => ?_⟩
  -- The count is refused, and the variable keeps its old value.
  have hb := writeAll_create_holds hw
  simp only [List.flatMap_cons, List.flatMap_nil, wire, List.append_assoc] at hb
  obtain ⟨heq, -⟩ := hb.readFixed
  have hbig : (Int32.ofNat data.length).toInt < 0 ∨
      (maxVectorSize : Int) < (Int32.ofNat data.length).toInt := by
    rw [hmax]
    exact .inr (by exact_mod_cast hlong)
  have hvalues := h.values
  simp only [List.map_cons, List.map_nil, readAll, StreamBuffer.read, heq, if_pos hbig,
    FieldType.fresh_vector] at hvalues
  injection hvalues with hfield
  injection hfield with _ hdata
  rw [← hdata] at hlong
  exact absurd hlong (by decide)

/-- The three values the writer accepts and the reader does not give back:
a string with a NUL in it, a vector of more than `MAX_VECTOR_SIZE` elements
and an empty string as the element of a vector. -/
theorem counterexample_typedRoundTrip :
    ((writeAll [⟨.string, [65, 0, 66]⟩] create).1 = true ∧
        ¬ ReadsBack [⟨.string, [65, 0, 66]⟩]) ∧
      ((writeAll [⟨.vector (.fixed Bool), List.replicate 1001 true⟩] create).1 = true ∧
        ¬ ReadsBack [⟨.vector (.fixed Bool), List.replicate 1001 true⟩]) ∧
      ((writeAll [⟨.vector .string, [[]]⟩] create).1 = true ∧
        ¬ ReadsBack [⟨.vector .string, [[]]⟩]) := by
  refine ⟨?_, ?_, ?_⟩
  · have hw : (writeAll [⟨.string, [65, 0, 66]⟩] create).1 = true := by decide
    refine ⟨hw, fun h => ?_⟩
    -- The read stops at the NUL, and two bytes stay behind.
    have hunread := h.allRead
    have hstop : (readAll [.string] (writeAll [⟨.string, [65, 0, 66]⟩] create).2).2.unreadSize
        = 2 := by decide
    rw [List.map_cons, List.map_nil, hstop] at hunread
    cases hunread
  · exact longVector_not_readsBack _ (by rw [List.length_replicate]; decide)
      (by rw [List.length_replicate]; decide)
  · have hw : (writeAll [⟨.vector .string, [[]]⟩] create).1 = true := by decide
    refine ⟨hw, fun h => ?_⟩
    -- The element is read, but its read returns `false` and it is not pushed.
    have hvalues := h.values
    have hread : (readAll [.vector .string] (writeAll [⟨.vector .string, [[]]⟩] create).2).1
        = [(false, ⟨.vector .string, []⟩)] := by rfl
    simp [hread] at hvalues

end StreamBuffer

end FtMmi.Network
