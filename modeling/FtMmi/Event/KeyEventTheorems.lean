/-
FtMmi.Event.KeyEventTheorems — what `NetPacketToKeyEvent` makes of an
arbitrary packet.

A key event is 48 bytes of base fields, 12 bytes up to the item count, 21
bytes an item and 3 function keys. `readKeyItems_cases` is the loop: all
items are there, or they end within the last 4 bytes, the unicode of the
last item, which nothing looks at any more, or the loop returns an error.
With the 3 function keys, which nothing looks at either, a packet may
lack up to 7 bytes and still be decoded. A negative count is decoded as
no item at all.
-/
import FtMmi.Event.DataTransformation
import FtMmi.Network.CursorSafety

namespace FtMmi.Event

open FtMmi.Lib
open FtMmi.Network

/-! ## The parts of the decoder -/

theorem readInputEvent_consumes {eventType : Int32} (event : InputEvent eventType) :
    Consumes (readInputEvent event) 48 :=
  (Consumes.pull _).bind fun _ => (Consumes.pull _).bind fun _ => (Consumes.pull _).bind fun _ =>
  (Consumes.pull _).bind fun _ => (Consumes.pull _).bind fun _ => (Consumes.pull _).bind fun _ =>
  (Consumes.pull _).bind fun _ => (Consumes.pull _).bind fun _ => (Consumes.pull _).bind fun _ =>
  (Consumes.pull _).map _

/-- `DeserializeInputEvent` on any content. -/
theorem deserializeInputEvent_cases {eventType : Int32} (event : InputEvent eventType)
    (b : StreamBuffer) :
    (Has b 48 ∧ ∃ event',
      (deserializeInputEvent event).run b = ((retOk, event'), b.advance 48)) ∨
    (¬ Has b 48 ∧ ((deserializeInputEvent event).run b).1.1 = retErr) := by
  rw [deserializeInputEvent, PacketM.run_bind]
  rcases readInputEvent_consumes event b with ⟨hhas, heq⟩ | ⟨hhas, hbroken⟩
  · refine .inl ⟨hhas, ((readInputEvent event).run b).1.1.addFlag ((readInputEvent event).run b).1.2, ?_⟩
    rw [heq, PacketM.run_bind, run_rwError, advance_chkRWError, hhas.chkRWError]
    rfl
  · have hchk := (StreamBuffer.chkRWError_eq_true_iff _).mpr hbroken
    refine .inr ⟨hhas, ?_⟩
    rw [PacketM.run_bind, run_rwError, hchk]
    rfl

/-- The reads of the item loop before its check. -/
def readKeyItemHead (data : Int32) (isPressed : Bool) : PacketM (Int32 × Int64 × Int32 × Bool) := do
  let keyCode ← pull data
  let datatime ← pull (0 : Int64)
  let deviceId ← pull keyCode
  let isPressed ← pull isPressed
  pure (keyCode, datatime, deviceId, isPressed)

theorem readKeyItemHead_consumes (data : Int32) (isPressed : Bool) :
    Consumes (readKeyItemHead data isPressed) 17 :=
  (Consumes.pull _).bind fun _ => (Consumes.pull _).bind fun _ => (Consumes.pull _).bind fun _ =>
  (Consumes.pull _).map _

theorem readKeyItems_succ (unicode : UInt32) (n : Nat) (data : Int32) (isPressed : Bool)
    (key : KeyEvent) :
    readKeyItems unicode (n + 1) data isPressed key = (do
      let r ← readKeyItemHead data isPressed
      if (← rwError) then pure (retErr, key)
      else
        let unicode' ← pull unicode
        readKeyItems unicode n r.2.2.1 r.2.2.2 (key.addKeyItem
          { keyCode := r.1, downTime := r.2.1, deviceId := r.2.2.1, pressed := r.2.2.2,
            unicode := unicode' })) := by
  simp only [readKeyItems, readKeyItemHead, bind_assoc, pure_bind]

theorem run_readKeyItems_of_error {unicode : UInt32} {n : Nat} {data : Int32} {isPressed : Bool}
    {key : KeyEvent} {b : StreamBuffer}
    (h : ((readKeyItemHead data isPressed).run b).2.rwErrorStatus ≠ .ok) :
    ((readKeyItems unicode (n + 1) data isPressed key).run b).1.1 = retErr := by
  have hchk := (StreamBuffer.chkRWError_eq_true_iff _).mpr h
  rw [readKeyItems_succ, PacketM.run_bind, PacketM.run_bind, run_rwError, hchk]
  rfl

/-- The item loop on any content. The induction is on the items still to
be read; what the loop finds is a matter of the length alone. -/
theorem readKeyItems_cases (unicode : UInt32) (n : Nat) :
    ∀ (data : Int32) (isPressed : Bool) (key : KeyEvent) (b : StreamBuffer), Has b 0 →
      (Has b (21 * n) ∧ ∃ key', key'.keys.length = key.keys.length + n ∧
        (readKeyItems unicode n data isPressed key).run b
          = ((retOk, key'), b.advance (21 * n))) ∨
      (¬ Has b (21 * n) ∧ Has b (21 * n - 4) ∧
        ∃ key' b', (readKeyItems unicode n data isPressed key).run b = ((retOk, key'), b') ∧
          b'.rwErrorStatus ≠ .ok) ∨
      (¬ Has b (21 * n - 4) ∧
        ((readKeyItems unicode n data isPressed key).run b).1.1 = retErr) := by
  induction n with
  | zero =>
    intro data isPressed key b h0
    exact .inl ⟨h0, key, rfl, rfl⟩
  | succ n ih =>
    intro data isPressed key b h0
    rcases readKeyItemHead_consumes data isPressed b with ⟨hhead, heq⟩ | ⟨hhead, hbroken⟩
    · rw [readKeyItems_succ, PacketM.run_bind, heq, PacketM.run_bind, run_rwError,
        advance_chkRWError, hhead.chkRWError]
      simp only [Bool.false_eq_true, if_false, PacketM.run_bind]
      rcases Consumes.pull unicode (b.advance 17) with ⟨hlast, heq'⟩ | ⟨hlast, hbroken⟩
      · -- A whole item: the rest of the loop starts 21 bytes further.
        have hitem : Has b 21 := hhead.advance.mp hlast
        have hnext : Has (b.advance 21) 0 := hitem.advance.mpr hitem
        rw [heq', StreamBuffer.advance_advance, show 17 + byteSize UInt32 = 21 from rfl]
        generalize hkey : key.addKeyItem _ = key₁
        have hlen₁ : key₁.keys.length = key.keys.length + 1 := by
          rw [← hkey, KeyEvent.addKeyItem_keys, List.length_append, List.length_singleton]
        rcases ih _ _ key₁ _ hnext with ⟨hall, key', hlen, hrun⟩ | ⟨hnot, hbut, hrest⟩ | ⟨hnot, herr⟩
        · refine .inl ⟨?_, key', ?_, ?_⟩
          · rw [Nat.mul_succ, Nat.add_comm]
            exact hitem.advance.mp hall
          · rw [hlen, hlen₁, Nat.add_assoc, Nat.add_comm 1 n]
          · rw [Nat.mul_succ, Nat.add_comm, ← StreamBuffer.advance_advance, hrun]
        · refine .inr (.inl ⟨fun h => hnot (hitem.advance.mpr (h.mono ?_)), ?_, hrest⟩)
          · omega
          · cases n with
            | zero => exact absurd hnext hnot
            | succ n => exact (hitem.advance.mp hbut).mono (by omega)
        · refine .inr (.inr ⟨fun h => hnot (hitem.advance.mpr (h.mono ?_)), herr⟩)
          cases n with
          | zero => exact absurd hnext hnot
          | succ n => omega
      · -- The unicode is cut off: noticed by the next item only.
        have hcut : ¬ Has b 21 := fun h => hlast (hhead.advance.mpr h)
        cases n with
        | zero =>
          exact .inr (.inl ⟨hcut, hhead, _, _, rfl, hbroken⟩)
        | succ n =>
          refine .inr (.inr ⟨fun h => hcut (h.mono (by omega)), run_readKeyItems_of_error ?_⟩)
          rcases readKeyItemHead_consumes _ _ _ with ⟨hhas, _⟩ | ⟨_, hbroken'⟩
          · exact absurd hhas.1 hbroken
          · exact hbroken'
    · refine .inr (.inr ⟨fun h => hhead (h.mono (by omega)), run_readKeyItems_of_error hbroken⟩)

theorem readFunctionKeys_consumes (key : KeyEvent) : Consumes (readFunctionKeys key) 3 :=
  (Consumes.pull _).bind fun _ => (Consumes.pull _).bind fun _ => (Consumes.pull _).map _

theorem readFunctionKeys_keys (key : KeyEvent) (b : StreamBuffer) :
    ((readFunctionKeys key).run b).1.keys = key.keys := by
  simp only [readFunctionKeys, PacketM.run_bind, PacketM.run_pure, KeyEvent.setFunctionKey_keys]

/-! ## Up to the item count -/

/-- The item count carried by a packet with at least 60 bytes. -/
def itemCount (b : StreamBuffer) : Int32 := ofBytes ((b.unread.drop 56).take 4)

theorem readKeyEventRest_of_error {unicode : UInt32} {size data : Int32} {key : KeyEvent}
    {b : StreamBuffer} (h : b.rwErrorStatus ≠ .ok) :
    ((readKeyEventRest unicode size data key).run b).1.1 = retErr := by
  have hchk := (StreamBuffer.chkRWError_eq_true_iff b).mpr h
  unfold readKeyEventRest
  split
  · rfl
  · rw [PacketM.run_bind, run_rwError, hchk]
    rfl

/-- The key code, the action and the item count. -/
def readKeyEventHead : PacketM (Int32 × Int32 × Int32) := do
  let keyCode ← pull (0 : Int32)
  let keyAction ← pull keyCode
  let size ← pull (0 : Int32)
  pure (keyCode, keyAction, size)

theorem readKeyEventHead_consumes : Consumes readKeyEventHead 12 :=
  (Consumes.pull _).bind fun _ => (Consumes.pull _).bind fun _ => (Consumes.pull _).map _

theorem netPacketToKeyEvent_eq (unicode : UInt32) (key : KeyEvent) :
    netPacketToKeyEvent unicode key = (do
      let r ← deserializeInputEvent key.toInputEvent
      if r.1 ≠ retOk then pure (retErr, { key with toInputEvent := r.2 })
      else
        let h ← readKeyEventHead
        readKeyEventRest unicode h.2.2 h.2.1
          { key with toInputEvent := r.2, keyCode := h.1, keyAction := h.2.1 }) := by
  simp only [netPacketToKeyEvent, readKeyEventHead, bind_assoc, pure_bind]

theorem readKeyEventHead_size {b : StreamBuffer} (h : Has b 12) :
    (readKeyEventHead.run b).1.2.2 = ofBytes ((b.unread.drop 8).take 4) := by
  have h4 : Has b (byteSize Int32) := h.mono (by decide)
  have h8 : Has (b.advance (byteSize Int32)) (byteSize Int32) := h4.advance.mpr (h.mono (by decide))
  have h12 : Has ((b.advance (byteSize Int32)).advance (byteSize Int32)) (byteSize Int32) :=
    h8.advance.mpr (h4.advance.mpr h)
  simp only [readKeyEventHead, PacketM.run_bind, run_pull, PacketM.run_pure, extract_of_has h4,
    extract_of_has h8, extract_of_has h12, StreamBuffer.advance_unread, List.drop_drop]
  rfl

/-- With 60 bytes the decoder reaches the item count, with fewer it fails. -/
theorem netPacketToKeyEvent_cases (unicode : UInt32) (key : KeyEvent) (b : StreamBuffer) :
    (Has b 60 ∧ ∃ data key', key'.keys = key.keys ∧
      (netPacketToKeyEvent unicode key).run b
        = (readKeyEventRest unicode (itemCount b) data key').run (b.advance 60)) ∨
    (¬ Has b 60 ∧ ((netPacketToKeyEvent unicode key).run b).1.1 = retErr) := by
  rw [netPacketToKeyEvent_eq, PacketM.run_bind]
  rcases deserializeInputEvent_cases key.toInputEvent b with ⟨hbase, event', heq⟩ | ⟨hbase, herr⟩
  · rw [heq]
    simp only [ne_eq, not_true_eq_false, if_false, PacketM.run_bind]
    rcases readKeyEventHead_consumes (b.advance 48) with ⟨hhead, hrun⟩ | ⟨hhead, hbroken⟩
    · have hsize : (readKeyEventHead.run (b.advance 48)).1.2.2 = itemCount b := by
        rw [readKeyEventHead_size hhead, StreamBuffer.advance_unread, List.drop_drop]
        rfl
      generalize readKeyEventHead.run (b.advance 48) = r at hrun hsize ⊢
      obtain ⟨⟨keyCode, keyAction, size⟩, b'⟩ := r
      refine .inl ⟨hbase.advance.mp hhead, keyAction,
        { key with toInputEvent := event', keyCode, keyAction }, rfl, ?_⟩
      rw [show size = itemCount b from hsize, show b' = (b.advance 48).advance 12 from hrun,
        StreamBuffer.advance_advance]
    · exact .inr ⟨fun h => hhead (hbase.advance.mpr h), readKeyEventRest_of_error hbroken⟩
  · have hne : ((deserializeInputEvent key.toInputEvent).run b).1.1 ≠ retOk := by
      rw [herr]
      decide
    refine .inr ⟨fun h => hbase (h.mono (by decide)), ?_⟩
    rw [if_pos hne]
    rfl

/-! ## The whole decoder -/

/-- What follows the item count: everything is there, or at most the last
7 bytes are missing and it is not noticed, or an error is returned. -/
theorem readKeyEventRest_cases (unicode : UInt32) (size data : Int32) (key : KeyEvent)
    (b : StreamBuffer) (h0 : Has b 0) :
    let n := size.toInt.toNat
    let r := (readKeyEventRest unicode size data key).run b
    (size.toInt ≤ maxKeySize ∧ Has b (21 * n + 3) ∧ r.1.1 = retOk ∧ r.2.rwErrorStatus = .ok ∧
      r.1.2.keys.length = key.keys.length + n) ∨
    (size.toInt ≤ maxKeySize ∧ ¬ Has b (21 * n + 3) ∧ Has b (21 * n - 4) ∧ r.1.1 = retOk ∧
      r.2.rwErrorStatus ≠ .ok) ∨
    (((maxKeySize : Int) < size.toInt ∨ ¬ Has b (21 * n - 4)) ∧ r.1.1 = retErr) := by
  intro n r
  by_cases hbig : (maxKeySize : Int) < size.toInt
  · refine .inr (.inr ⟨.inl hbig, ?_⟩)
    simp only [r, readKeyEventRest, if_pos hbig]
    rfl
  · have hr : r = (do
        let r ← readKeyItems unicode n data false key
        if r.1 ≠ retOk then pure (retErr, r.2)
        else
          let key ← readFunctionKeys r.2
          pure (retOk, key) : PacketM (Int × KeyEvent)).run b := by
      simp only [r, readKeyEventRest, if_neg hbig, PacketM.run_bind, run_rwError, h0.chkRWError]
      rfl
    have hsmall : size.toInt ≤ maxKeySize := not_lt.mp hbig
    rw [PacketM.run_bind] at hr
    rcases readKeyItems_cases unicode n data false key b h0 with
      ⟨hall, key', hlen, hrun⟩ | ⟨hnot, hbut, key', b', hrun, hbroken⟩ | ⟨hnot, herr⟩
    · rw [hrun] at hr
      simp only [ne_eq, not_true_eq_false, if_false, PacketM.run_bind] at hr
      rw [hr]
      rcases readFunctionKeys_consumes key' (b.advance (21 * n)) with ⟨h3, heq⟩ | ⟨h3, hbroken⟩
      · refine .inl ⟨hsmall, hall.advance.mp h3, rfl, ?_, ?_⟩
        · show ((readFunctionKeys key').run (b.advance (21 * n))).2.rwErrorStatus = .ok
          rw [heq]
          exact hall.1
        · show ((readFunctionKeys key').run (b.advance (21 * n))).1.keys.length = _
          rw [readFunctionKeys_keys, hlen]
      · refine .inr (.inl ⟨hsmall, fun h => h3 (hall.advance.mpr h), ?_, rfl, hbroken⟩)
        exact hall.mono (by omega)
    · rw [hrun] at hr
      simp only [ne_eq, not_true_eq_false, if_false, PacketM.run_bind] at hr
      rw [hr]
      refine .inr (.inl ⟨hsmall, fun h => hnot (h.mono (by omega)), hbut, rfl, ?_⟩)
      rcases readFunctionKeys_consumes key' b' with ⟨hhas, _⟩ | ⟨_, hbroken'⟩
      · exact absurd hhas.1 hbroken
      · exact hbroken'
    · have hne : ((readKeyItems unicode n data false key).run b).1.1 ≠ retOk := by
        rw [herr]
        decide
      rw [if_pos hne] at hr
      rw [hr]
      exact .inr (.inr ⟨.inr hnot, rfl⟩)

/-- Either the decoder returns an error, or no read failed and as many
items were stored as the packet says. -/
def StrictlyDecoded (unicode : UInt32) (key : KeyEvent) (b : StreamBuffer) : Prop :=
  let r := (netPacketToKeyEvent unicode key).run b
  r.1.1 = retErr ∨
    (r.1.1 = retOk ∧ r.2.rwErrorStatus = .ok ∧
      (r.1.2.keys.length : Int) = key.keys.length + (itemCount b).toInt)

/-- A packet whose item count is negative, or which ends within its last 7
bytes: in the unicode of the last item or in the function keys. -/
def EndsUnchecked (b : StreamBuffer) : Prop :=
  Has b 60 ∧ ((itemCount b).toInt < 0 ∨
    ((itemCount b).toInt ≤ maxKeySize ∧ Has b (56 + 21 * (itemCount b).toInt.toNat) ∧
      ¬ Has b (63 + 21 * (itemCount b).toInt.toNat)))

/-- The decoder is strict on all packets but those. -/
theorem strictlyDecoded_iff (unicode : UInt32) (key : KeyEvent) (b : StreamBuffer) :
    StrictlyDecoded unicode key b ↔ ¬ EndsUnchecked b := by
  unfold StrictlyDecoded EndsUnchecked
  rcases netPacketToKeyEvent_cases unicode key b with ⟨h60, data, key', hkeys, hrun⟩ | ⟨h60, herr⟩
  · rw [hrun, ← hkeys]
    have h0 : Has (b.advance 60) 0 := h60.advance.mpr h60
    set count := (itemCount b).toInt with hcount
    have hok : retOk ≠ retErr := by decide
    rcases readKeyEventRest_cases unicode (itemCount b) data key' (b.advance 60) h0 with
      ⟨hsmall, hall, hret, hst, hlen⟩ | ⟨hsmall, hnot, hbut, hret, hst⟩ | ⟨hbad, hret⟩
    · have hfull : Has b (63 + 21 * count.toNat) := (h60.advance.mp hall).mono (by omega)
      simp only [hret, hst, hlen, hok, false_or, true_and, h60, hfull, not_true_eq_false,
        and_false, or_false, not_lt]
      omega
    · refine ⟨fun h => ?_, fun h => ?_⟩
      · rcases h with h | ⟨_, h, _⟩
        · exact absurd (hret.symm.trans h) hok
        · exact absurd h hst
      · refine absurd ⟨h60, ?_⟩ h
        by_cases hneg : count < 0
        · exact .inl hneg
        · refine .inr ⟨hsmall, ?_, fun hfull => hnot (h60.advance.mpr (hfull.mono ?_))⟩
          · rcases Nat.eq_zero_or_pos count.toNat with hz | hz
            · exact h60.mono (by omega)
            · exact (h60.advance.mp hbut).mono (by omega)
          · omega
    · refine ⟨fun _ hends => ?_, fun _ => .inl hret⟩
      obtain ⟨_, hneg | ⟨hsmall, hbut, _⟩⟩ := hends
      · rcases hbad with hbig | hnot
        · have hmax : (0 : Int) ≤ maxKeySize := Int.natCast_nonneg _
          omega
        · have hz : count.toNat = 0 := by omega
          exact hnot (by rw [← hcount, hz]; exact h0)
      · rcases hbad with hbig | hnot
        · omega
        · rcases Nat.eq_zero_or_pos count.toNat with hz | hz
          · exact hnot (by rw [← hcount, hz]; exact h0)
          · exact hnot (h60.advance.mpr (hbut.mono (by omega)))
  · exact ⟨fun _ hends => h60 hends.1, fun _ => .inl herr⟩

/-- Sixty-three zero bytes but for the item count, which is -1. -/
def negativeCountPacket : StreamBuffer :=
  StreamBuffer.received (List.replicate 56 0 ++ [255, 255, 255, 255, 0, 0, 0])

/-- One item, cut off before its unicode. -/
def truncatedPacket : StreamBuffer :=
  StreamBuffer.received (List.replicate 56 0 ++ [1, 0, 0, 0] ++ List.replicate 17 0)

/-- The first packet is decoded to an event without items, the second one
although reads fail. -/
theorem counterexample_strictlyDecoded :
    ¬ StrictlyDecoded 0 (KeyEvent.create 0) negativeCountPacket ∧
      ¬ StrictlyDecoded 0 (KeyEvent.create 0) truncatedPacket := by
  constructor
  · intro h
    rcases h with h | ⟨_, _, h⟩
    · exact absurd h (by decide +kernel)
    · exact absurd h (by decide +kernel)
  · intro h
    rcases h with h | ⟨_, h, _⟩
    · exact absurd h (by decide +kernel)
    · exact absurd h (by decide +kernel)

end FtMmi.Event
