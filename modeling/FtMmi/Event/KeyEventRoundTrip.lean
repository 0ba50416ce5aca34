/-
FtMmi.Event.KeyEventRoundTrip — the packet codec of key events: what
`KeyEventToNetPacket` writes, `NetPacketToKeyEvent` reads back.

As for pointer events, `keyEventWire key` are the bytes of an event; the
encoder is shown to write them and the decoder to rebuild the event from
them. The items go through `AddKeyItem` one by one, which keeps their
order and refuses none.
-/
import FtMmi.Event.PointerEventTheorems

namespace FtMmi.Event

open FtMmi.Lib
open FtMmi.Network
open FtMmi.Network.StreamBuffer (Holds)

/-! ## The bytes of an event -/

def keyItemWire (item : KeyItem) : List UInt8 :=
  toBytes item.keyCode ++ (toBytes item.downTime ++ (toBytes item.deviceId ++
    (toBytes item.pressed ++ toBytes item.unicode)))

def functionKeysWire (key : KeyEvent) : List UInt8 :=
  toBytes (key.getFunctionKey .numLock) ++ (toBytes (key.getFunctionKey .capsLock) ++
    toBytes (key.getFunctionKey .scrollLock))

def keyEventWire (key : KeyEvent) : List UInt8 :=
  inputEventWire key.toInputEvent ++ (toBytes key.keyCode ++ (toBytes key.keyAction ++
    (toBytes (Int32.ofNat key.keys.length) ++
      (key.keys.flatMap keyItemWire ++ functionKeysWire key))))

/-! ## Encoding -/

theorem pushKeyItem_appends (item : KeyItem) : Appends (pushKeyItem item) (keyItemWire item) :=
  (Appends.push _).bind fun _ => (Appends.push _).bind fun _ => (Appends.push _).bind fun _ =>
  (Appends.push _).bind fun _ => Appends.push _

/-- The cast of the item count to `int32_t`. -/
theorem size_toInt {n : Nat} (h : n ≤ maxKeySize) : (Int32.ofNat n).toInt = n := by
  have hmax : maxKeySize < 2 ^ 31 := by decide
  exact Int32.toInt_ofNat_of_lt (by omega)

/-- A count that is not refused. -/
theorem keyEventToNetPacket_reports_of_count (key : KeyEvent)
    (hsize : ¬ (maxKeySize : Int) < (Int32.ofNat key.keys.length).toInt) :
    Reports (keyEventToNetPacket key) (keyEventWire key) := by
  have h : Reports (keyEventToNetPacket key) _ :=
    (serializeInputEvent_reports key.toInputEvent).bind <|
    (Appends.push _).bindReports fun _ => (Appends.push _).bindReports fun _ => by
      simp only [if_neg hsize]
      exact (Appends.push _).bindReports fun _ =>
        (Appends.forM pushKeyItem_appends key.keys).bindReports fun _ =>
        (Appends.push _).bindReports fun _ => (Appends.push _).bindReports fun _ =>
        (Appends.push _).bindReports fun _ => Reports.check
  simpa only [keyEventWire, functionKeysWire, List.append_nil] using h

theorem keyEventToNetPacket_reports (key : KeyEvent) (hlen : key.keys.length ≤ maxKeySize) :
    Reports (keyEventToNetPacket key) (keyEventWire key) := by
  refine keyEventToNetPacket_reports_of_count key ?_
  rw [size_toInt hlen]
  omega

theorem keyEventToNetPacket_checked (key : KeyEvent) : Checked (keyEventToNetPacket key) :=
  Checked.bind fun _ => Checked.ite Checked.retErr <|
  Checked.bind fun _ => Checked.bind fun _ => Checked.ite Checked.retErr <|
  Checked.bind fun _ => Checked.bind fun _ => Checked.bind fun _ => Checked.bind fun _ =>
  Checked.bind fun _ => Checked.check

/-! ## Decoding -/

/-- The item loop: every item is appended as it was written. -/
theorem readKeyItems_reads (unicode : UInt32) (items : List KeyItem) :
    ∀ (data : Int32) (isPressed : Bool) (old : KeyEvent),
      Reads (readKeyItems unicode items.length data isPressed old) (items.flatMap keyItemWire)
        (retOk, { old with keys := old.keys ++ items }) := by
  induction items with
  | nil =>
    intro data isPressed old
    rw [List.append_nil]
    exact Reads.pure _
  | cons item items ih =>
    intro data isPressed old
    have hrest : Reads (readKeyItems unicode items.length item.deviceId item.pressed
        (old.addKeyItem item)) (items.flatMap keyItemWire)
        (retOk, { old with keys := old.keys ++ item :: items }) := by
      have hmore := ih item.deviceId item.pressed (old.addKeyItem item)
      rw [KeyEvent.addKeyItem_keys, List.append_assoc] at hmore
      exact hmore
    have h : Reads (readKeyItems unicode (items.length + 1) data isPressed old) _ _ :=
      (Reads.pull _ item.keyCode).bind <| (Reads.pull _ item.downTime).bind <|
      (Reads.pull _ item.deviceId).bind <| (Reads.pull _ item.pressed).bind <|
      Reads.rwError.bind <| (Reads.pull _ item.unicode).bind hrest
    simpa only [keyItemWire, List.length_cons, List.flatMap_cons, List.append_assoc,
      List.nil_append] using h

/-- The event `old` with the function keys of `key`. -/
def withFunctionKeys (old key : KeyEvent) : KeyEvent :=
  { old with numLock := key.numLock, capsLock := key.capsLock, scrollLock := key.scrollLock }

theorem readFunctionKeys_reads (old key : KeyEvent) :
    Reads (readFunctionKeys old) (functionKeysWire key) (withFunctionKeys old key) := by
  have h : Reads (readFunctionKeys old) _ _ :=
    (Reads.pull _ (key.getFunctionKey .numLock)).bind <|
    (Reads.pull _ (key.getFunctionKey .capsLock)).bind <|
    (Reads.pull _ (key.getFunctionKey .scrollLock)).bind <| Reads.pure _
  rwa [List.append_nil] at h

theorem readKeyEventRest_reads (unicode : UInt32) (data : Int32) (old key : KeyEvent)
    (hlen : key.keys.length ≤ maxKeySize) :
    Reads (readKeyEventRest unicode (Int32.ofNat key.keys.length) data old)
      (key.keys.flatMap keyItemWire ++ functionKeysWire key)
      (retOk, withFunctionKeys { old with keys := old.keys ++ key.keys } key) := by
  have hsize : ¬ (maxKeySize : Int) < (Int32.ofNat key.keys.length).toInt := by
    rw [size_toInt hlen]
    omega
  have hitems := readKeyItems_reads unicode key.keys data false old
  have hkeys := readFunctionKeys_reads { old with keys := old.keys ++ key.keys } key
  have h : Reads (readKeyEventRest unicode (Int32.ofNat key.keys.length) data old)
      ([] ++ (key.keys.flatMap keyItemWire ++ (functionKeysWire key ++ [])))
      (retOk, withFunctionKeys { old with keys := old.keys ++ key.keys } key) := by
    unfold readKeyEventRest
    rw [if_neg hsize, size_toInt hlen, Int.toNat_natCast]
    exact Reads.rwError.bind (hitems.bind (hkeys.bind (Reads.pure _)))
  rwa [List.append_nil, List.nil_append] at h

/-! ## The round trip -/

/-- Decoding the bytes of an event into a new event. -/
theorem netPacketToKeyEvent_reads (unicode : UInt32) (now : Int64) (key : KeyEvent)
    (hlen : key.keys.length ≤ maxKeySize) :
    Reads (netPacketToKeyEvent unicode (KeyEvent.create now)) (keyEventWire key) (retOk, key) :=
  (deserializeInputEvent_reads (KeyEvent.create now).toInputEvent key.toInputEvent rfl).bind <|
  (Reads.pull _ key.keyCode).bind <| (Reads.pull _ key.keyAction).bind <|
  (Reads.pull _ (Int32.ofNat key.keys.length)).bind <|
  readKeyEventRest_reads unicode key.keyAction
    { KeyEvent.create now with
      toInputEvent := key.toInputEvent, keyCode := key.keyCode, keyAction := key.keyAction }
    key hlen

/-- A key event that is written to a new packet with success is read back,
into a new event and whatever the uninitialised local holds, as the same
event, and nothing is left unread. -/
theorem keyEvent_roundTrip (key : KeyEvent) (now : Int64) (unicode : UInt32)
    (hlen : key.keys.length ≤ maxKeySize)
    (hret : ((keyEventToNetPacket key).run StreamBuffer.create).1 = retOk) :
    let pkt := ((keyEventToNetPacket key).run StreamBuffer.create).2
    let r := (netPacketToKeyEvent unicode (KeyEvent.create now)).run pkt
    r.1 = (retOk, key) ∧ r.2.unreadSize = 0 := by
  intro pkt r
  have hok : pkt.rwErrorStatus = .ok := keyEventToNetPacket_checked key StreamBuffer.create hret
  obtain ⟨-, -, hwrote⟩ := keyEventToNetPacket_reports key hlen StreamBuffer.create hok
  have hpkt : pkt.Holds (keyEventWire key) := hwrote [] StreamBuffer.create_holds
  rw [← List.append_nil (keyEventWire key)] at hpkt
  obtain ⟨hval, hrest⟩ := netPacketToKeyEvent_reads unicode now key hlen pkt [] hpkt
  refine ⟨hval, ?_⟩
  rw [StreamBuffer.unreadSize_eq, hrest.eq]
  rfl

/-- Ctrl held, C just released, with caps lock on. -/
def releasedC : KeyEvent :=
  { (((KeyEvent.create 5).addKeyItem
      { pressed := true, deviceId := 3, keyCode := 2072, downTime := 11 }).addKeyItem
      { deviceId := 3, keyCode := 2019, downTime := 12, unicode := 99 }).setFunctionKey
        .capsLock true with
    keyCode := 2019, keyAction := 3 }

theorem keyEvent_roundTrip_releasedC :
    let pkt := ((keyEventToNetPacket releasedC).run StreamBuffer.create).2
    let r := (netPacketToKeyEvent 7 (KeyEvent.create 9)).run pkt
    r.1 = (retOk, releasedC) ∧ r.2.unreadSize = 0 :=
  keyEvent_roundTrip releasedC 9 7 (by decide) (by decide +kernel)

end FtMmi.Event
