/-
FtMmi.Network.CircleStreamBuffer — the receive buffer of a connection
(`circle_stream_buffer.cpp`): a stream buffer that moves its unread bytes
to the front when a write finds too little room behind them.

`write_shows` is its specification: as a queue of bytes it takes a write
as long as the unread bytes and the new ones fit into the capacity, and
refuses it with the unread bytes unchanged otherwise. A size is compared
as an `int32_t`, so that a write of no bytes or of 2^31 and more may pass
the comparison; the base class refuses it and leaves an error behind.
-/
import FtMmi.Network.StreamBufferTheorems

namespace FtMmi.Network.CircleStreamBuffer

open FtMmi.Network.StreamBuffer

/-! ## The operations -/

/-- The copy loop: `count` bytes from index `i` on to index `pos` on, one at
a time. -/
def copyLoop : Nat → Nat → Nat → List UInt8 → List UInt8
  | 0, _, _, szBuff => szBuff
  | count + 1, pos, i, szBuff =>
      copyLoop count (pos + 1) (i + 1) (szBuff.set pos (szBuff.getD i 0))

@[simp] theorem copyLoop_length (count : Nat) :
    ∀ (pos i : Nat) (szBuff : List UInt8), (copyLoop count pos i szBuff).length = szBuff.length := by
  induction count with
  | zero => intro pos i szBuff; rfl
  | succ count ih =>
    intro pos i szBuff
    rw [copyLoop, ih, List.length_set]

theorem unreadSize_le (b : StreamBuffer) : b.unreadSize ≤ maxStreamBufSize := by
  have hw := b.wPos_le
  rw [unreadSize_eq, unread_length]
  omega

/-- The loop runs from `rPos_` to `wPos_`, the byte behind the written ones
included. -/
def copyDataToBegin (b : StreamBuffer) : StreamBuffer :=
  { b with
    rPos := 0
    wPos := b.unreadSize
    szBuff :=
      if 0 < b.unreadSize ∧ 0 < b.rPos then copyLoop (b.wPos + 1 - b.rPos) 0 b.rPos b.szBuff
      else b.szBuff
    szBuff_length := by
      split
      · rw [copyLoop_length]
        exact b.szBuff_length
      · exact b.szBuff_length
    wPos_le := unreadSize_le b }

/-- The size is compared as an `int32_t`. -/
def checkWrite (b : StreamBuffer) (size : Nat) : Bool × StreamBuffer :=
  let bufferSize := (Int32.ofNat size).toInt
  let b := if (b.getAvailableBufSize : Int) < bufferSize ∧ 0 < b.rPos then copyDataToBegin b else b
  (decide (bufferSize ≤ b.getAvailableBufSize), b)

/-- `Write(const char *, size_t)` -/
def write (b : StreamBuffer) (data : List UInt8) : Bool × StreamBuffer :=
  let r := checkWrite b data.length
  if r.1 then r.2.writeBytes data else (false, r.2)

/-! ## Moving the unread bytes -/

/-- A forward copy to a lower index moves the bytes as they were: a byte is
read before the loop writes to its place. -/
theorem copyLoop_getD (count : Nat) :
    ∀ (pos i : Nat) (szBuff : List UInt8), pos < i → i + count ≤ szBuff.length →
      ∀ k, (copyLoop count pos i szBuff).getD k 0 =
        if pos ≤ k ∧ k < pos + count then szBuff.getD (i + (k - pos)) 0 else szBuff.getD k 0 := by
  induction count with
  | zero =>
    intro pos i szBuff _ _ k
    rw [copyLoop, if_neg (by omega)]
  | succ count ih =>
    intro pos i szBuff hlt hlen k
    have hset : ∀ j, (szBuff.set pos (szBuff.getD i 0)).getD j 0 =
        if j = pos then szBuff.getD i 0 else szBuff.getD j 0 := by
      intro j
      rw [List.getD_eq_getElem?_getD, List.getElem?_set]
      by_cases hj : j = pos
      · rw [if_pos hj.symm, if_pos (by omega), if_pos hj]
        rfl
      · rw [if_neg (Ne.symm hj), if_neg hj, List.getD_eq_getElem?_getD]
    rw [copyLoop, ih _ _ _ (by omega) (by rw [List.length_set]; omega), hset, hset]
    by_cases hk : k = pos
    · subst hk
      rw [if_neg (by omega), if_pos rfl, if_pos (by omega), Nat.sub_self, Nat.add_zero]
    · by_cases hin : pos + 1 ≤ k ∧ k < pos + 1 + count
      · rw [if_pos hin, if_neg (by omega), if_pos (by omega)]
        congr 1
        omega
      · rw [if_neg hin, if_neg hk, if_neg (by omega)]

/-- The unread bytes are the same after the move. -/
theorem copyDataToBegin_shows {b : StreamBuffer} {bs : List UInt8} (hb : b.Shows bs) :
    (copyDataToBegin b).Shows bs where
  le := Nat.zero_le _
  eq := by
    have hle := hb.le
    have hw : b.wPos ≤ 16384 := b.wPos_le
    have hlen : b.szBuff.length = 16385 := b.szBuff_length
    have hsize : b.unreadSize = b.wPos - b.rPos := by rw [unreadSize_eq, unread_length]
    rw [← hb.eq]
    apply List.ext_getElem?
    intro k
    show (((copyDataToBegin b).szBuff.take b.unreadSize).drop 0)[k]?
      = ((b.szBuff.take b.wPos).drop b.rPos)[k]?
    rw [List.drop_zero, List.getElem?_take, List.getElem?_drop, List.getElem?_take, hsize]
    by_cases hk : k < b.wPos - b.rPos
    · rw [if_pos hk, if_pos (by omega)]
      show (if 0 < b.unreadSize ∧ 0 < b.rPos then _ else b.szBuff)[k]? = _
      by_cases hmove : 0 < b.unreadSize ∧ 0 < b.rPos
      · rw [if_pos hmove]
        have hget := copyLoop_getD (b.wPos + 1 - b.rPos) 0 b.rPos b.szBuff hmove.2 (by omega) k
        rw [if_pos (by omega), Nat.sub_zero] at hget
        have h₁ : k < (copyLoop (b.wPos + 1 - b.rPos) 0 b.rPos b.szBuff).length := by
          rw [copyLoop_length]
          omega
        have h₂ : b.rPos + k < b.szBuff.length := by omega
        rw [List.getElem?_eq_getElem h₁, List.getElem?_eq_getElem h₂]
        rw [List.getD_eq_getElem _ _ h₁, List.getD_eq_getElem _ _ h₂] at hget
        rw [hget]
      · rw [if_neg hmove]
        congr 1
        omega
    · rw [if_neg hk, if_neg (by omega)]

/-! ## Writing -/

/-- The cast to `int32_t` does not make a size larger. -/
theorem int32Size_le (size : Nat) : (Int32.ofNat size).toInt ≤ size := by
  rw [Int32.toInt_ofNat', Int.bmod_def]
  have hmod : (size : Int) % (Int32.size : Nat) ≤ size := by exact_mod_cast Nat.mod_le _ _
  split <;> omega

/-- `CheckWrite` keeps the unread bytes, and finds room precisely if there is
room once they are moved. -/
theorem checkWrite_spec {b : StreamBuffer} {bs : List UInt8} (hb : b.Shows bs) (size : Nat) :
    (checkWrite b size).2.Shows bs ∧
      (checkWrite b size).2.rwErrorStatus = b.rwErrorStatus ∧
      (checkWrite b size).1 = decide (bs.length + (Int32.ofNat size).toInt ≤ maxStreamBufSize) ∧
      ((checkWrite b size).1 = true →
        (checkWrite b size).2.wPos + (Int32.ofNat size).toInt ≤ maxStreamBufSize) := by
  have hlen := congrArg List.length hb.eq
  rw [unread_length] at hlen
  have hle := hb.le
  have hw := b.wPos_le
  have havail := getAvailableBufSize_eq b
  generalize hsize : (Int32.ofNat size).toInt = bufferSize
  by_cases hmove : (b.getAvailableBufSize : Int) < bufferSize ∧ 0 < b.rPos
  · have hmoved : (copyDataToBegin b).wPos = bs.length := by
      show b.unreadSize = _
      rw [unreadSize_eq, hb.eq]
    have havail' := getAvailableBufSize_eq (copyDataToBegin b)
    have heq : checkWrite b size
        = (decide (bufferSize ≤ (copyDataToBegin b).getAvailableBufSize), copyDataToBegin b) := by
      simp only [checkWrite, hsize, if_pos hmove]
    rw [heq]
    refine ⟨copyDataToBegin_shows hb, rfl, decide_eq_decide.mpr ?_, fun h => ?_⟩
    · omega
    · have hroom := of_decide_eq_true h
      show ((copyDataToBegin b).wPos : Int) + bufferSize ≤ _
      omega
  · have heq : checkWrite b size = (decide (bufferSize ≤ b.getAvailableBufSize), b) := by
      simp only [checkWrite, hsize, if_neg hmove]
    rw [heq]
    refine ⟨hb, rfl, decide_eq_decide.mpr ?_, fun h => ?_⟩
    · omega
    · have hroom := of_decide_eq_true h
      show (b.wPos : Int) + bufferSize ≤ _
      omega

/-- All that a write can do: it appends, if there is no error, something to
write and room for it; if not, it leaves the unread bytes as they are. An
error is left behind when only the cast of the size let it through. -/
theorem write_shows {b : StreamBuffer} {bs : List UInt8} (hb : b.Shows bs) (data : List UInt8) :
    (b.rwErrorStatus = .ok ∧ data ≠ [] ∧ bs.length + data.length ≤ maxStreamBufSize ∧
      (write b data).1 = true ∧ (write b data).2.Holds (bs ++ data)) ∨
    (¬ (b.rwErrorStatus = .ok ∧ data ≠ [] ∧ bs.length + data.length ≤ maxStreamBufSize) ∧
      (write b data).1 = false ∧ (write b data).2.Shows bs ∧
      ((write b data).2.rwErrorStatus = .ok ↔ b.rwErrorStatus = .ok ∧
        (maxStreamBufSize : Int) < bs.length + (Int32.ofNat data.length).toInt)) := by
  obtain ⟨hb', hst, hchk, hroom⟩ := checkWrite_spec hb data.length
  have hcast := int32Size_le data.length
  have hlen := congrArg List.length hb'.eq
  have hle := hb'.le
  rw [unread_length] at hlen
  unfold write
  generalize checkWrite b data.length = r at hb' hst hchk hroom hlen hle ⊢
  by_cases htrue : r.1 = true
  · have hfit := hroom htrue
    rw [htrue, eq_comm, decide_eq_true_iff] at hchk
    simp only [htrue, if_true]
    rcases writeBytes_cases r.2 data with ⟨hok, hne, hwrite, heq⟩ | ⟨hbad, e, he, heq⟩
    · rw [heq]
      exact .inl ⟨hst ▸ hok, hne, by omega, rfl, (hb'.holds hok).append data hwrite⟩
    · rw [heq]
      refine .inr ⟨fun hgood => ?_, rfl, ⟨hb'.le, hb'.eq⟩, ?_⟩
      · obtain ⟨hok, hne, hsize⟩ := hgood
        rcases hbad with h | h | h
        · exact h (hst.trans hok)
        · exact hne h
        · rw [maxStreamBufSize_eq] at *
          rw [Int32.toInt_ofNat_of_lt (by omega)] at hfit
          omega
      · refine ⟨fun h => absurd h he, fun h => ?_⟩
        omega
  · have hfalse : r.1 = false := by simpa using htrue
    rw [hfalse, eq_comm, decide_eq_false_iff_not] at hchk
    simp only [hfalse]
    refine .inr ⟨fun hgood => ?_, rfl, hb', ?_⟩
    · omega
    · rw [if_neg (by decide), hst]
      exact ⟨fun h => ⟨h, by omega⟩, fun h => h.1⟩

/-- In good standing, the buffer is a queue of bytes of bounded size. -/
theorem write_cases {b : StreamBuffer} {bs data : List UInt8} (hb : b.Holds bs) (hne : data ≠ []) :
    (bs.length + data.length ≤ maxStreamBufSize ∧ (write b data).1 = true ∧
      (write b data).2.Holds (bs ++ data)) ∨
    (maxStreamBufSize < bs.length + data.length ∧ (write b data).1 = false ∧
      (write b data).2.Shows bs) := by
  rcases write_shows hb.shows data with ⟨_, _, hfit, hret, hafter⟩ | ⟨hnot, hret, hafter, _⟩
  · exact .inl ⟨hfit, hret, hafter⟩
  · refine .inr ⟨?_, hret, hafter⟩
    by_contra hfit
    exact hnot ⟨hb.ok, hne, not_lt.mp hfit⟩

end FtMmi.Network.CircleStreamBuffer
