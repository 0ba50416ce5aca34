/-
FtMmi.Network.ErrorFlag — what a clear error status says about a sequence
of reads (`operator >>` with `ChkRWError` at its end).

`Encoding t v image` is the format, stated apart from reader and writer:
a scalar is any bytes of its size, a string ends with its first NUL, a
vector is a count and as many elements. `Consumed` says that a read took
such an image from the packet and stored its value.

Reads raise the status when the packet is over, and three malformed
contents pass without it:

* a vector count below zero or above `MAX_VECTOR_SIZE`, after which the
  elements are left unread;
* an empty string as an element of a vector, which ends its loop;
* a string that no NUL ends within the packet. The reader takes the rest
  of the packet and its cursor leaves it; from there on scalars and
  vectors raise the status, and strings do not.

`walk` finds from the content alone whether a read comes to the end of
the packet. Behind the content the array holds NULs; where the cursor
leaves the array as well, the source reads foreign memory and the model
goes on reading NULs.
-/
import FtMmi.Network.CursorSafety
import FtMmi.Network.NetPacket

namespace FtMmi.Network

open FtMmi.Lib

/-! ## The format -/

/-- The complete encodings of a value. -/
def Encoding : (t : FieldType) → t.Val → List UInt8 → Prop
  | @FieldType.fixed α _, a, image => image.length = byteSize α ∧ a = ofBytes image
  | .string, s, image => 0 ∉ s ∧ image = s ++ [0]
  | .vector t, data, image =>
      ∃ count images, count.length = byteSize Int32 ∧
        (ofBytes count : Int32).toInt = data.length ∧
        List.Forall₂ (fun v part => Encoding t v part) data images ∧
        image = count ++ images.flatten

/-- What a read of a value leaves in its variable: a vector is pushed back to. -/
def stored : (t : FieldType) → t.Val → t.Val → t.Val
  | @FieldType.fixed _ _, _, a => a
  | .string, _, s => s
  | .vector _, old, data => old ++ data

/-- The content begins with complete encodings at these types, all of values
the reader accepts. -/
def Complete : List FieldType → List UInt8 → Prop
  | [], _ => True
  | t :: ts, bs =>
      ∃ v image rest, Encoding t v image ∧ Plain t v ∧ bs = image ++ rest ∧ Complete ts rest

/-! ## Where reads come to the end of the packet -/

/-- Where the cursor is: before these bytes of the packet, or out of it. -/
inductive Place where
  | inside (bs : List UInt8)
  | behind
  deriving DecidableEq

/-- The element loop of a vector. -/
def walkLoop (walk : Place → Option (Bool × Place)) : Nat → Place → Option (Bool × Place)
  | 0, p => some (true, p)
  | n + 1, p =>
      match walk p with
      | none => none
      | some (true, p) => walkLoop walk n p
      | some (false, p) => some (false, p)

/-- What a read at a type returns and where it leaves the cursor; `none` when it
asks for bytes that the packet does not have. -/
def walk : FieldType → Place → Option (Bool × Place)
  | @FieldType.fixed α _, .inside bs =>
      if byteSize α ≤ bs.length then some (true, .inside (bs.drop (byteSize α))) else none
  | .string, .inside bs =>
      if bs = [] then none
      else if 0 ∈ bs then
        let s := bs.takeWhile (· ≠ 0)
        some (decide (0 < s.length), .inside (bs.drop (s.length + 1)))
      else some (true, .behind)
  | .vector t, .inside bs =>
      if byteSize Int32 ≤ bs.length then
        let size : Int32 := ofBytes (bs.take (byteSize Int32))
        let rest := bs.drop (byteSize Int32)
        if size.toInt < 0 ∨ (maxVectorSize : Int) < size.toInt then some (false, .inside rest)
        else walkLoop (walk t) size.toInt.toNat (.inside rest)
      else none
  | .string, .behind => some (false, .behind)
  | @FieldType.fixed _ _, .behind => none
  | .vector _, .behind => none

def walkAll : List FieldType → Place → Option Place
  | [], p => some p
  | t :: ts, p =>
      match walk t p with
      | none => none
      | some (_, p) => walkAll ts p

/-- Some read of the sequence asks for more than the content has. -/
def RunsOut (ts : List FieldType) (content : List UInt8) : Prop :=
  walkAll ts (.inside content) = none

namespace StreamBuffer

/-! ## Sequences of reads -/

/-- `buf >> v₁ >> v₂ >> ..` into variables with their old values. -/
def extractAll (vars : List Field) (b : StreamBuffer) : StreamBuffer :=
  vars.foldl (fun b var => (read var.1 var.2 b).2.2) b

/-- A read takes a complete encoding from the packet and stores its value. -/
def Consumed (var : Field) (b : StreamBuffer) : Prop :=
  ∃ v image, Encoding var.1 v image ∧
    (read var.1 var.2 b).2.1 = stored var.1 var.2 v ∧
    b.unread = image ++ (read var.1 var.2 b).2.2.unread ∧
    (read var.1 var.2 b).2.2.rPos = b.rPos + image.length

def AllConsumed : List Field → StreamBuffer → Prop
  | [], _ => True
  | var :: vars, b => Consumed var b ∧ AllConsumed vars (read var.1 var.2 b).2.2

/-- A clear error status in the end speaks for every read. -/
def FlagComplete (vars : List Field) (b : StreamBuffer) : Prop :=
  (extractAll vars b).chkRWError = false → AllConsumed vars b

/-! ## The status is never cleared -/

theorem readBytes_keeps_error {b : StreamBuffer} (h : b.rwErrorStatus ≠ .ok) (size : Nat) :
    (b.readBytes size).2.rwErrorStatus ≠ .ok := by
  rcases readBytes_cases b size with ⟨hok, _⟩ | ⟨_, e, he, heq⟩
  · exact absurd hok h
  · rw [heq]
    exact he

theorem readLoop_keeps_error {α : Type} {read : StreamBuffer → Bool × α × StreamBuffer}
    (hread : ∀ b, b.rwErrorStatus ≠ .ok → (read b).2.2.rwErrorStatus ≠ .ok) (n : Nat) :
    ∀ (data : List α) (b : StreamBuffer), b.rwErrorStatus ≠ .ok →
      (readLoop read n data b).2.2.rwErrorStatus ≠ .ok := by
  induction n with
  | zero => intro data b h; exact h
  | succ n ih =>
    intro data b h
    rw [StreamBuffer.readLoop]
    by_cases hr : (read b).1 = true
    · rw [if_pos hr]
      exact ih _ _ (hread b h)
    · rw [if_neg hr]
      exact hread b h

theorem read_keeps_error : ∀ (t : FieldType) (old : t.Val) (b : StreamBuffer),
    b.rwErrorStatus ≠ .ok → (read t old b).2.2.rwErrorStatus ≠ .ok
  | @FieldType.fixed α _, _, b, h => readBytes_keeps_error h (byteSize α)
  | .string, _, b, h => by
      unfold StreamBuffer.read StreamBuffer.readString
      by_cases hend : b.rPos = b.wPos
      · rw [if_pos hend]
        exact fun hread => by cases hread
      · rw [if_neg hend]
        exact h
  | .vector t, old, b, h => by
      have hsize : (b.readFixed (α := Int32)).2.rwErrorStatus ≠ .ok :=
        readBytes_keeps_error h (byteSize Int32)
      rw [StreamBuffer.read]
      cases hr : b.readFixed (α := Int32) with
      | mk size b' =>
        rw [hr] at hsize
        cases size with
        | none => exact hsize
        | some size =>
          simp only
          split
          · exact hsize
          · exact readLoop_keeps_error (fun b hb => read_keeps_error t t.fresh b hb) _ _ _ hsize

theorem extractAll_keeps_error (vars : List Field) {b : StreamBuffer}
    (h : b.rwErrorStatus ≠ .ok) : (extractAll vars b).rwErrorStatus ≠ .ok := by
  induction vars generalizing b with
  | nil => exact h
  | cons var vars ih => exact ih (read_keeps_error var.1 var.2 b h)

/-! ## The reader walks the content -/

/-- Where the cursor of `b` is. -/
def IsAt (b : StreamBuffer) : Place → Prop
  | .inside bs => b.Shows bs
  | .behind => b.wPos < b.rPos

/-- No error, nothing but NULs behind the content, and the cursor at `p`. -/
structure Stands (b : StreamBuffer) (p : Place) : Prop where
  ok : b.rwErrorStatus = .ok
  clear : ∀ x ∈ b.szBuff.drop b.wPos, x = 0
  at_ : b.IsAt p

/-- What a read came to is what the walk found. -/
def WalksTo {α : Type} (out : Option (Bool × Place)) (r : Bool × α × StreamBuffer) : Prop :=
  match out with
  | none => r.2.2.rwErrorStatus ≠ .ok
  | some (returned, p) => r.1 = returned ∧ Stands r.2.2 p

theorem Stands.moved {b : StreamBuffer} {p p' : Place} (h : Stands b p) (n : Nat)
    (hat : (b.advance n).IsAt p') : Stands (b.advance n) p' :=
  ⟨h.ok, h.clear, hat⟩

theorem readFixed_walks {α : Type} [ByteImage α] {b : StreamBuffer} {p : Place} (h : Stands b p)
    (old : α) : WalksTo (walk (.fixed α) p) (read (.fixed α) old b) := by
  have hpos : 0 < byteSize α := byteSize_pos
  simp only [StreamBuffer.read, StreamBuffer.readFixed]
  cases p with
  | behind =>
    have hover : b.wPos < b.rPos := h.at_
    rcases readBytes_cases b (byteSize α) with ⟨_, _, hfit, _⟩ | ⟨_, e, he, heq⟩
    · omega
    · rw [heq]
      exact he
  | inside bs =>
    have hshows : b.Shows bs := h.at_
    have hlen : bs.length = b.wPos - b.rPos := by rw [← hshows.eq, unread_length]
    have hle := hshows.le
    simp only [walk]
    rcases readBytes_cases b (byteSize α) with ⟨_, _, hfit, heq⟩ | ⟨hbad, e, he, heq⟩
    · rw [if_pos (by omega), heq]
      refine ⟨rfl, h.moved _ ⟨?_, ?_⟩⟩
      · rw [advance_rPos, advance_wPos]
        omega
      · rw [advance_unread, hshows.eq]
    · have hshort : ¬ byteSize α ≤ bs.length := by
        rcases hbad with hne | hzero | hlt
        · exact absurd h.ok hne
        · omega
        · omega
      rw [if_neg hshort, heq]
      exact he

theorem readString_walks {b : StreamBuffer} {p : Place} (h : Stands b p) (old : List UInt8) :
    WalksTo (walk .string p) (read .string old b) := by
  cases p with
  | behind =>
    have hover : b.wPos < b.rPos := h.at_
    -- Behind the content every string is empty.
    have hnil : b.cString = [] := by
      apply cString_eq_nil
      intro x hx
      refine h.clear x (List.mem_of_mem_drop (i := b.rPos - b.wPos) ?_)
      rw [List.drop_drop, Nat.add_sub_cancel' (Nat.le_of_lt hover)]
      exact hx
    simp only [StreamBuffer.read, readString_of_ne (Nat.ne_of_gt hover), hnil]
    exact ⟨rfl, h.moved 1 (Nat.lt_succ_of_lt hover)⟩
  | inside bs =>
    have hshows : b.Shows bs := h.at_
    have hlen : bs.length = b.wPos - b.rPos := by rw [← hshows.eq, unread_length]
    have hle := hshows.le
    simp only [walk]
    by_cases hnil : bs = []
    · have hend : b.rPos = b.wPos := by
        rw [hnil, List.length_nil] at hlen
        omega
      rw [if_pos hnil]
      simp only [StreamBuffer.read, StreamBuffer.readString, if_pos hend]
      exact fun hread => by cases hread
    · have hpos := List.length_pos_iff.mpr hnil
      have hne : b.rPos ≠ b.wPos := by omega
      rw [if_neg hnil]
      simp only [StreamBuffer.read, readString_of_ne hne]
      by_cases h0 : (0 : UInt8) ∈ bs
      · obtain ⟨s, rest, hsplit, hs⟩ := List.eq_append_cons_of_mem h0
        have hstring : b.cString = s := cString_eq hle (hshows.eq.trans hsplit) hs
        have hsplit' : b.Shows ((s ++ [0]) ++ rest) := by
          rw [List.append_assoc]
          exact hsplit ▸ hshows
        rw [if_pos h0, hstring, hsplit, takeWhile_nul hs]
        refine ⟨rfl, h.moved _ ?_⟩
        have hdrop : (s ++ 0 :: rest).drop (s.length + 1) = rest := by simp
        have hadvance := hsplit'.advance
        rw [List.length_append, List.length_singleton] at hadvance
        rw [hdrop]
        exact hadvance
      · -- All the content that is left belongs to the string, and the cursor leaves it.
        have hall : ∀ c ∈ b.unread, decide (c ≠ 0) = true := by
          rw [hshows.eq]
          intro c hc
          exact decide_eq_true fun heq => h0 (heq ▸ hc)
        have hstr : b.unread.length ≤ b.cString.length := by
          rw [StreamBuffer.cString, readBuf_eq hle, List.takeWhile_append_of_pos hall,
            List.length_append]
          omega
        rw [hshows.eq] at hstr
        rw [if_neg h0]
        refine ⟨decide_eq_true (by omega), h.moved _ ?_⟩
        show b.wPos < b.rPos + (b.cString.length + 1)
        omega

theorem readLoop_walks {α : Type} {read : StreamBuffer → Bool × α × StreamBuffer}
    {walk : Place → Option (Bool × Place)}
    (hkeeps : ∀ b, b.rwErrorStatus ≠ .ok → (read b).2.2.rwErrorStatus ≠ .ok)
    (hread : ∀ {b : StreamBuffer} {p : Place}, Stands b p → WalksTo (walk p) (read b)) (n : Nat) :
    ∀ (data : List α) {b : StreamBuffer} {p : Place}, Stands b p →
      WalksTo (walkLoop walk n p) (readLoop read n data b) := by
  induction n with
  | zero => intro data b p h; exact ⟨rfl, h⟩
  | succ n ih =>
    intro data b p h
    have hb := hread h
    rw [StreamBuffer.readLoop, walkLoop]
    cases hw : walk p with
    | none =>
      rw [hw] at hb
      by_cases hr : (read b).1 = true
      · rw [if_pos hr]
        exact readLoop_keeps_error hkeeps n _ _ hb
      · rw [if_neg hr]
        exact hb
    | some found =>
      obtain ⟨returned, p'⟩ := found
      rw [hw] at hb
      obtain ⟨hret, hstands⟩ := hb
      rw [hret]
      cases returned with
      | true => exact ih _ hstands
      | false => exact ⟨rfl, hstands⟩

theorem read_walks : ∀ (t : FieldType) (old : t.Val) {b : StreamBuffer} {p : Place},
    Stands b p → WalksTo (walk t p) (read t old b)
  | @FieldType.fixed _ _, old, _, _, h => readFixed_walks h old
  | .string, old, _, _, h => readString_walks h old
  | .vector t, old, b, p, h => by
      rw [StreamBuffer.read]
      cases p with
      | behind =>
        have hover : b.wPos < b.rPos := h.at_
        have hcount : ∃ e, e ≠ .ok ∧ b.readFixed (α := Int32) = (none, b.setError e) := by
          rcases readBytes_cases b (byteSize Int32) with ⟨_, _, hfit, _⟩ | ⟨_, e, he, heq⟩
          · omega
          · exact ⟨e, he, by simp [StreamBuffer.readFixed, heq]⟩
        obtain ⟨e, he, heq⟩ := hcount
        rw [heq]
        exact he
      | inside bs =>
        have hshows : b.Shows bs := h.at_
        have hok : (!b.chkRWError) = true := by
          rw [(chkRWError_eq_false_iff b).mpr h.ok]
          rfl
        rw [walk]
        rcases readFixed_follows (α := Int32) hshows.le with ⟨_, hlen, heq⟩ | ⟨hshort, e, he, heq⟩
        · rw [hshows.eq] at hlen heq
          rw [if_pos hlen, heq]
          simp only
          have hrest : Stands (b.advance (byteSize Int32)) (.inside (bs.drop (byteSize Int32))) := by
            have hsplit : b.Shows (bs.take (byteSize Int32) ++ bs.drop (byteSize Int32)) := by
              rw [List.take_append_drop]
              exact hshows
            have hadvance := hsplit.advance
            rw [List.length_take, Nat.min_eq_left hlen] at hadvance
            exact h.moved _ hadvance
          split
          · exact ⟨rfl, hrest⟩
          · exact readLoop_walks (fun b hb => read_keeps_error t t.fresh b hb)
              (fun hb => read_walks t t.fresh hb) _ _ hrest
        · have hshort' : ¬ byteSize Int32 ≤ bs.length := fun hle => hshort ⟨hok, hshows.eq ▸ hle⟩
          rw [if_neg hshort', heq]
          exact he

/-- The status is raised precisely if some read asks for more than there is. -/
theorem extractAll_ok_iff (vars : List Field) {b : StreamBuffer} {p : Place} (h : Stands b p) :
    (extractAll vars b).rwErrorStatus = .ok ↔ walkAll (vars.map Sigma.fst) p ≠ none := by
  induction vars generalizing b p with
  | nil => exact ⟨fun _ hnone => (nomatch hnone), fun _ => h.ok⟩
  | cons var vars ih =>
    have hread := read_walks var.1 var.2 h
    rw [List.map_cons, walkAll]
    cases hw : walk var.1 p with
    | none =>
      rw [hw] at hread
      exact ⟨fun hok => absurd hok (extractAll_keeps_error vars hread), fun hne => absurd rfl hne⟩
    | some found =>
      rw [hw] at hread
      exact ih hread.2

/-! ## What the reader makes of an encoding -/

/-- The reader takes an encoding whose value it accepts, and gives up on the
others with something else in the variable. -/
def Takes (t : FieldType) (v : t.Val) (image : List UInt8) : Prop :=
  ∀ (b : StreamBuffer) (rest : List UInt8) (old : t.Val), b.Holds (image ++ rest) →
    (Plain t v → read t old b = (readsTrue t v, stored t old v, b.advance image.length)) ∧
    (¬ Plain t v → (read t old b).1 = false ∧ (read t old b).2.1 ≠ stored t old v)

/-- The values that do not end the loop of a vector. -/
def Goes (t : FieldType) (v : t.Val) : Prop := Plain t v ∧ readsTrue t v = true

theorem stored_fresh (t : FieldType) (v : t.Val) : stored t t.fresh v = v := by
  cases t <;> rfl

/-- The loop takes the elements as long as they go; it falls short of the rest. -/
theorem readLoop_takes (t : FieldType) :
    ∀ {vs : List t.Val} {images : List (List UInt8)}, List.Forall₂ (Takes t) vs images →
      ∀ (data : List t.Val) {b : StreamBuffer} {rest : List UInt8},
        b.Holds (images.flatten ++ rest) →
        ((∀ v ∈ vs, Goes t v) →
          readLoop (fun b => read t t.fresh b) vs.length data b
            = (true, data ++ vs, b.advance images.flatten.length)) ∧
        (¬ (∀ v ∈ vs, Goes t v) →
          (readLoop (fun b => read t t.fresh b) vs.length data b).1 = false ∧
          (readLoop (fun b => read t t.fresh b) vs.length data b).2.1.length
            < data.length + vs.length) := by
  intro vs images hall
  induction hall with
  | nil =>
    intro data b rest hb
    exact ⟨fun _ => by simp [StreamBuffer.readLoop, advance], fun h => absurd (by simp) h⟩
  | @cons v image vs images hv hvs ih =>
    intro data b rest hb
    rw [List.flatten_cons, List.append_assoc] at hb
    obtain ⟨hplain, hnot⟩ := hv b _ t.fresh hb
    have hnext := ih (data ++ [v]) hb.advance
    by_cases hgoes : Goes t v
    · have hread := hplain hgoes.1
      rw [hgoes.2, stored_fresh] at hread
      simp only [List.length_cons, StreamBuffer.readLoop, hread, if_true, List.forall_mem_cons,
        hgoes, true_and]
      refine ⟨fun hrest => ?_, fun hrest => ?_⟩
      · rw [hnext.1 hrest, advance_advance, List.append_assoc, List.flatten_cons,
          List.length_append]
        rfl
      · obtain ⟨hret, hlen⟩ := hnext.2 hrest
        rw [List.length_append, List.length_singleton] at hlen
        exact ⟨hret, by omega⟩
    · have hret : (read t t.fresh b).1 = false := by
        by_cases hpl : Plain t v
        · rw [hplain hpl]
          exact Bool.eq_false_iff.mpr fun htrue => hgoes ⟨hpl, htrue⟩
        · exact (hnot hpl).1
      refine ⟨fun h => absurd (h v (by simp)) hgoes, fun _ => ?_⟩
      rw [List.length_cons, StreamBuffer.readLoop, if_neg (by rw [hret]; decide)]
      exact ⟨rfl, by simp only; omega⟩

theorem encoding_takes : ∀ (t : FieldType) {v : t.Val} {image : List UInt8},
    Encoding t v image → Takes t v image
  | @FieldType.fixed α _, v, image, henc => by
      intro b rest old hb
      obtain ⟨hlen, rfl⟩ := henc
      refine ⟨fun _ => ?_, fun h => absurd trivial h⟩
      have hcount := congrArg List.length hb.eq
      simp only [unread_length, List.length_append] at hcount
      have hpos : 0 < byteSize α := byteSize_pos
      have hle := hb.le
      have htake : (image ++ rest).take (byteSize α) = image := by rw [← hlen, List.take_left]
      simp only [StreamBuffer.read, StreamBuffer.readFixed,
        readBytes_of_le hb.ok hpos (by omega), hb.eq, htake, hlen]
      rfl
  | .string, s, image, henc => by
      intro b rest old hb
      obtain ⟨hs, rfl⟩ := henc
      refine ⟨fun _ => ?_, fun h => absurd hs h⟩
      rw [List.append_assoc] at hb
      have hread := (hb.readString hs).1
      simp only [StreamBuffer.read, hread, List.length_append, List.length_singleton]
      rfl
  | .vector t, data, image, henc => by
      intro b rest old hb
      obtain ⟨count, images, hcount, hsize, hall, rfl⟩ := henc
      have htakes : List.Forall₂ (Takes t) data images :=
        hall.imp fun _ _ h => encoding_takes t h
      have hrest : (b.advance (byteSize Int32)).Holds (images.flatten ++ rest) := by
        rw [List.append_assoc] at hb
        exact hcount ▸ hb.advance
      have hread : b.readFixed (α := Int32) = (some (ofBytes count), b.advance (byteSize Int32)) := by
        have hlen := congrArg List.length hb.eq
        simp only [unread_length, List.length_append] at hlen
        have hpos : 0 < byteSize Int32 := byteSize_pos
        have hle := hb.le
        have htake : (count ++ images.flatten ++ rest).take (byteSize Int32) = count := by
          rw [← hcount, List.append_assoc, List.take_left]
        rw [StreamBuffer.readFixed, readBytes_of_le hb.ok hpos (by omega), hb.eq, htake]
        rfl
      obtain ⟨hgo, hstop⟩ := readLoop_takes t htakes old hrest
      simp only [StreamBuffer.read, hread, hsize, Int.toNat_natCast]
      by_cases hlong : data.length ≤ maxVectorSize
      · rw [if_neg (by omega)]
        constructor
        · intro hplain
          rw [hgo hplain.2, advance_advance, List.length_append, hcount]
          rfl
        · intro hplain
          have hsome : ¬ ∀ v ∈ data, Goes t v := fun h => hplain ⟨hlong, h⟩
          obtain ⟨hret, hshort⟩ := hstop hsome
          refine ⟨hret, fun heq => ?_⟩
          rw [heq, stored, List.length_append] at hshort
          exact Nat.lt_irrefl _ hshort
      · rw [if_pos (by omega)]
        refine ⟨fun hplain => absurd hplain.1 hlong, fun _ => ⟨rfl, fun heq => ?_⟩⟩
        have hnil : data = [] := List.self_eq_append_right.mp heq
        rw [hnil] at hlong
        exact hlong (Nat.zero_le _)

/-! ## Which sequences the flag speaks for -/

/-- The reads took complete encodings precisely if the content begins with them. -/
theorem allConsumed_iff (vars : List Field) :
    ∀ {b : StreamBuffer} {bs : List UInt8}, b.Holds bs →
      (AllConsumed vars b ↔ Complete (vars.map Sigma.fst) bs) := by
  induction vars with
  | nil => intro b bs _; exact Iff.rfl
  | cons var vars ih =>
    intro b bs hb
    rw [List.map_cons, AllConsumed, Complete]
    constructor
    · rintro ⟨⟨v, image, henc, hstored, hunread, _⟩, hrest⟩
      rw [hb.eq] at hunread
      obtain ⟨htake, hnot⟩ := encoding_takes var.1 henc b _ var.2 (hunread ▸ hb)
      by_cases hplain : Plain var.1 v
      · have hread := htake hplain
        rw [hread] at hunread hrest
        simp only at hunread hrest
        have hnext := (hunread ▸ hb : b.Holds (image ++ _)).advance
        exact ⟨v, image, _, henc, hplain, hunread, (ih hnext).mp hrest⟩
      · exact absurd hstored (hnot hplain).2
    · rintro ⟨v, image, rest, henc, hplain, rfl, hrest⟩
      have hread := (encoding_takes var.1 henc b rest var.2 hb).1 hplain
      have hnext := hb.advance
      refine ⟨⟨v, image, henc, ?_, ?_, ?_⟩, ?_⟩
      · rw [hread]
      · rw [hread, hb.eq, hnext.eq]
      · rw [hread]
        rfl
      · rw [hread]
        exact (ih hnext).mpr hrest

theorem holds_ofPayload (msgId : Int32) (content : List UInt8)
    (h : content.length ≤ maxStreamBufSize) :
    (NetPacket.ofPayload msgId content h).toStreamBuffer.Holds content :=
  create_holds.append content _

/-- A packet that has just been filled. -/
theorem stands_ofPayload (msgId : Int32) (content : List UInt8)
    (h : content.length ≤ maxStreamBufSize) :
    Stands (NetPacket.ofPayload msgId content h).toStreamBuffer (.inside content) := by
  have hholds := holds_ofPayload msgId content h
  refine ⟨hholds.ok, ?_, hholds.shows⟩
  have htake : create.szBuff.take create.wPos = [] := List.take_zero
  have hpos : create.wPos + content.length = content.length := Nat.zero_add _
  show ∀ x ∈ (create.szBuff.take create.wPos ++ content ++
    create.szBuff.drop (create.wPos + content.length)).drop (create.wPos + content.length), x = 0
  rw [htake, hpos, List.nil_append, List.drop_left]
  show ∀ x ∈ (List.replicate (maxStreamBufSize + 1) 0).drop content.length, x = 0
  rw [List.drop_replicate]
  exact fun x hx => List.eq_of_mem_replicate hx

/-- The flag speaks for a sequence of reads precisely if one of them runs out of
content, or the content begins with the values they ask for. -/
theorem flagComplete_iff (msgId : Int32) (content : List UInt8)
    (h : content.length ≤ maxStreamBufSize) (vars : List Field) :
    FlagComplete vars (NetPacket.ofPayload msgId content h).toStreamBuffer ↔
      RunsOut (vars.map Sigma.fst) content ∨ Complete (vars.map Sigma.fst) content := by
  rw [FlagComplete, chkRWError_eq_false_iff,
    extractAll_ok_iff vars (stands_ofPayload msgId content h),
    allConsumed_iff vars (holds_ofPayload msgId content h), RunsOut, or_iff_not_imp_left]

/-- A number of which one byte is missing. -/
theorem flagComplete_number :
    RunsOut [.fixed Int32] [1, 0, 0] ∧
      (FlagComplete [⟨.fixed Int32, 0⟩]
          (NetPacket.ofPayload 0 [1, 0, 0] (by decide)).toStreamBuffer ↔
        RunsOut [.fixed Int32] [1, 0, 0] ∨ Complete [.fixed Int32] [1, 0, 0]) :=
  ⟨rfl, flagComplete_iff 0 [1, 0, 0] (by decide) [⟨.fixed Int32, 0⟩]⟩

theorem count_eq_take {content count parts rest : List UInt8}
    (hcount : count.length = byteSize Int32) (heq : content = count ++ parts ++ rest) :
    count = content.take (byteSize Int32) := by
  rw [heq, List.append_assoc, ← hcount, List.take_left]

/-- The count -1; a string without a NUL; a vector of one empty string. None of
the three raises the status. -/
theorem counterexample_flagComplete :
    ¬ FlagComplete [⟨.vector (.fixed Int32), []⟩]
        (NetPacket.ofPayload 0 [255, 255, 255, 255] (by decide)).toStreamBuffer ∧
      ¬ FlagComplete [⟨.string, []⟩] (NetPacket.ofPayload 0 [65] (by decide)).toStreamBuffer ∧
      ¬ FlagComplete [⟨.vector .string, []⟩]
        (NetPacket.ofPayload 0 [1, 0, 0, 0, 0] (by decide)).toStreamBuffer := by
  refine ⟨?_, ?_, ?_⟩
  · intro h
    have hall := h (by decide)
    rw [allConsumed_iff _ (holds_ofPayload _ _ _)] at hall
    obtain ⟨data, image, rest, ⟨count, images, hcount, hsize, _, rfl⟩, _, heq, _⟩ := hall
    have hbytes : count = [255, 255, 255, 255] := count_eq_take hcount heq
    rw [hbytes] at hsize
    have hminus : (ofBytes [255, 255, 255, 255] : Int32).toInt = -1 := by decide
    omega
  · intro h
    have hall := h (by decide)
    rw [allConsumed_iff _ (holds_ofPayload _ _ _)] at hall
    obtain ⟨s, image, rest, ⟨_, rfl⟩, _, heq, _⟩ := hall
    have hmem : (0 : UInt8) ∈ ([65] : List UInt8) := by
      rw [heq]
      simp
    exact absurd hmem (by decide)
  · intro h
    have hall := h (by decide)
    rw [allConsumed_iff _ (holds_ofPayload _ _ _)] at hall
    obtain ⟨data, image, rest, ⟨count, images, hcount, hsize, hparts, rfl⟩, hplain, heq, _⟩ := hall
    have hbytes : count = [1, 0, 0, 0] := count_eq_take hcount heq
    have hone : data.length = 1 := by
      rw [hbytes] at hsize
      have hcount1 : (ofBytes [1, 0, 0, 0] : Int32).toInt = 1 := by decide
      omega
    obtain ⟨s, rfl⟩ := List.length_eq_one_iff.mp hone
    cases hparts with
    | cons hs hnone =>
      cases hnone
      obtain ⟨_, rfl⟩ := hs
      rw [hbytes] at heq
      have hgoes := (hplain.2 s (by simp)).2
      -- The element has to be non-empty, and the content is over after one NUL.
      have hlen := congrArg List.length heq
      simp only [readsTrue, decide_eq_true_eq] at hgoes
      simp at hlen
      omega

end StreamBuffer

end FtMmi.Network
