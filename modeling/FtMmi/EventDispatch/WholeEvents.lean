/-
FtMmi.EventDispatch.WholeEvents — what reaches a client of an event that the
server sends: nothing, the event, or a part of it.

`Whole` says of a call of a sender that the kernel is handed nothing, or
the frame of a packet from which the client's function reads what was
sent. What a program over a packet has written decides it, by the number
of bytes (`whole_sendTo_iff`): up to 8184 they make a frame, and it is for
the receiver to say what it reads; more are refused, unless they fill the
packet so far that the header is sent alone.

A key event of more items than `MAX_KEY_SIZE` is given up half-way by the
encoder, without an error in the packet. The senders that ask for the
encoder's result send nothing then.
-/
import FtMmi.Event.EventSizes
import FtMmi.EventDispatch.EventPackets
import FtMmi.Network.ErrorFlag

namespace FtMmi.EventDispatch

open FtMmi.Event
open FtMmi.InputHandler
open FtMmi.KeySubscriber (Subscriber)
open FtMmi.Lib
open FtMmi.Network
open FtMmi.Server
open FtMmi.Socket
open FtMmi.WindowManager

/-! ## Whole events -/

/-- From the packet of a payload the receiver reads what was sent, and leaves nothing. -/
def Decodes {α : Type} (msgId : Int32) (receive : Receiving → PacketM (Except ReceiveError α))
    (payload : List UInt8) (sent : α) : Prop :=
  ∀ (h : payload.length ≤ maxStreamBufSize) (env : Receiving),
    let r := (receive env).run (NetPacket.ofPayload msgId payload h).toStreamBuffer
    r.1 = .ok sent ∧ r.2.unreadSize = 0

/-- Nothing is sent, or a packet from which the receiver reads what was to be sent. -/
def Whole {α : Type} (msgId : Int32) (receive : Receiving → PacketM (Except ReceiveError α))
    (sent : α) (r : SendResult) : Prop :=
  r.calls = [] ∨
  ∃ payload, payload.length ≤ maxStreamBufSize ∧ Hands (frameBytes msgId payload) r.calls ∧
    Decodes msgId receive payload sent

/-! ## Sending what was written -/

theorem hands_unique {bytes bytes' : List UInt8} {calls : List (Nat × List UInt8)}
    (h : Hands bytes calls) (h' : Hands bytes' calls) : bytes = bytes' :=
  (Prod.mk.inj (Option.some.inj (h.first.symm.trans h'.first))).2

theorem hands_ne_nil {bytes : List UInt8} {calls : List (Nat × List UInt8)}
    (h : Hands bytes calls) : calls ≠ [] := by
  rintro rfl
  cases h.first

theorem frameBytes_payload {msgId : Int32} {payload payload' : List UInt8}
    (h : frameBytes msgId payload = frameBytes msgId payload') : payload = payload' := by
  refine (List.append_inj h ?_).2
  rw [toBytes_packHead_length, toBytes_packHead_length]

/-- A header alone is the frame of an empty payload only. -/
theorem header_ne_frame {msgId : Int32} {n : Nat} (hpos : 0 < n) (hlt : n < 2 ^ 31)
    (payload : List UInt8) :
    toBytes (PackHead.mk msgId (Int32.ofNat n)) ≠ frameBytes msgId payload := by
  intro h
  have hlen := congrArg List.length h
  rw [frameBytes_length, toBytes_packHead_length] at hlen
  obtain rfl : payload = [] := List.eq_nil_of_length_eq_zero (by omega)
  rw [frameBytes, List.append_nil] at h
  have hhead := congrArg (fun bytes => (ofBytes bytes : PackHead)) h
  rw [ByteImage.ofBytes_toBytes, ByteImage.ofBytes_toBytes] at hhead
  have hsize := congrArg Int32.toInt (PackHead.mk.inj hhead).2
  rw [Int32.toInt_ofNat_of_lt hlt] at hsize
  have hzero : (Int32.ofNat ([] : List UInt8).length).toInt = 0 := rfl
  omega

variable {α β : Type} {m : PacketM α} {bs : List UInt8} {msgId : Int32}

/-- What the kernel is handed of a packet, by the bytes written to it. -/
theorem sendTo_fill (out : Outlet) {session : Session} (hfd : 0 ≤ session.fd)
    (happ : Appends m bs) (hfits : Fits m bs) :
    let calls := (out.sendTo session (NetPacket.fill msgId m).2).calls
    (bs.length ≤ 8184 ∧ Hands (frameBytes msgId bs) calls) ∨
    (16376 < bs.length ∧ bs.length ≤ 16384 ∧
      Hands (toBytes (PackHead.mk msgId (Int32.ofNat bs.length))) calls) ∨
    (8184 < bs.length ∧ ¬ (16376 < bs.length ∧ bs.length ≤ 16384) ∧ calls = []) := by
  intro calls
  set pkt := (NetPacket.fill msgId m).2 with hpkt
  have hmax : maxStreamBufSize = 16384 := rfl
  have hzero : StreamBuffer.create.wPos = 0 := rfl
  have hsent : calls = (if pkt.chkRWError then SendResult.refused
      else sendBytes out.build session.fd out.outcome
        (pkt.makeData StreamBuffer.create).written).calls := rfl
  by_cases hroom : bs.length ≤ 16384
  · have htook : Took StreamBuffer.create pkt.toStreamBuffer bs.length :=
      hfits StreamBuffer.create rfl (by omega)
    have hholds : pkt.toStreamBuffer.Holds bs :=
      (happ StreamBuffer.create htook.ok).2 [] StreamBuffer.create_holds
    have hpayload : pkt.payload = bs := NetPacket.written_of_holds hholds htook.rPos
    have hwPos : pkt.wPos = bs.length := htook.wPos.trans (Nat.zero_add _)
    rw [(StreamBuffer.chkRWError_eq_false_iff _).mpr htook.ok, if_neg Bool.false_ne_true] at hsent
    by_cases hfit : bs.length ≤ 16376
    · have hframe : (pkt.makeData StreamBuffer.create).written = frameBytes msgId bs := by
        rw [NetPacket.written_of_holds (pkt.makeData_holds (by omega)) pkt.makeData_rPos,
          NetPacket.frame, hpayload]
        rfl
      have hlen := frameBytes_length msgId bs
      rw [hframe] at hsent
      rcases sendBytes_cases out.build session.fd out.outcome (frameBytes msgId bs) with
        ⟨hwhy, heq⟩ | ⟨_, hsize, _, hands⟩
      · rw [maxPacketBufSize_eq] at hwhy
        rw [heq] at hsent
        exact .inr (.inr ⟨by omega, by omega, hsent⟩)
      · rw [maxPacketBufSize_eq] at hsize
        exact .inl ⟨by omega, hsent ▸ hands⟩
    · rw [pkt.makeData_written_of_large (by omega), hwPos] at hsent
      rcases sendBytes_cases out.build session.fd out.outcome
          (toBytes (PackHead.mk msgId (Int32.ofNat bs.length))) with ⟨hwhy, _⟩ | ⟨_, _, _, hands⟩
      · rw [toBytes_packHead_length, maxPacketBufSize_eq] at hwhy
        omega
      · exact .inr (.inl ⟨by omega, hroom, hsent ▸ hands⟩)
  · have hbroken : pkt.chkRWError = true := by
      refine (StreamBuffer.chkRWError_eq_true_iff _).mpr fun hok => ?_
      have hholds : pkt.toStreamBuffer.Holds bs :=
        (happ StreamBuffer.create hok).2 [] StreamBuffer.create_holds
      have hlen := congrArg List.length hholds.eq
      have hle := pkt.wPos_le
      rw [StreamBuffer.unread_length] at hlen
      omega
    rw [if_pos hbroken] at hsent
    exact .inr (.inr ⟨by omega, by omega, hsent⟩)

/-- What was written reaches the client whole if it is not sent, or if it is sent and the
receiver reads it. -/
theorem whole_sendTo_iff (out : Outlet) {session : Session} (hfd : 0 ≤ session.fd)
    (happ : Appends m bs) (hfits : Fits m bs)
    {receive : Receiving → PacketM (Except ReceiveError β)} {sent : β} :
    Whole msgId receive sent (out.sendTo session (NetPacket.fill msgId m).2) ↔
      (8184 < bs.length ∧ ¬ (16376 < bs.length ∧ bs.length ≤ 16384)) ∨
      (bs.length ≤ 8184 ∧ Decodes msgId receive bs sent) := by
  have hmax : maxStreamBufSize = 16384 := rfl
  obtain ⟨hle, hands⟩ | ⟨hlow, hhigh, hands⟩ | ⟨hlow, hnot, hnone⟩ :=
    sendTo_fill out hfd happ hfits
  · refine ⟨fun h => .inr ⟨hle, ?_⟩, fun h => .inr ⟨bs, by omega, hands, ?_⟩⟩
    · obtain hnone | ⟨payload, _, hands', hdecodes⟩ := h
      · exact absurd hnone (hands_ne_nil hands)
      · rwa [frameBytes_payload (hands_unique hands hands')]
    · exact (h.resolve_left fun h' => by omega).2
  · refine ⟨fun h => ?_, fun h => ?_⟩
    · obtain hnone | ⟨payload, _, hands', _⟩ := h
      · exact absurd hnone (hands_ne_nil hands)
      · exact absurd (hands_unique hands hands') (header_ne_frame (by omega) (by omega) payload)
    · rcases h with h | h
      · exact absurd ⟨hlow, hhigh⟩ h.2
      · omega
  · exact ⟨fun _ => .inl ⟨hlow, hnot⟩, fun _ => .inl hnone⟩

/-! ## Reading -/

/-- A receiver that reads `val` from the bytes of a payload. -/
theorem decodes_iff {receive : Receiving → PacketM (Except ReceiveError β)} {sent : β}
    {val : Receiving → β} (hle : bs.length ≤ maxStreamBufSize)
    (hread : ∀ env, Reads (receive env) bs (.ok (val env))) :
    Decodes msgId receive bs sent ↔ ∀ env, val env = sent := by
  have hrun (env : Receiving) : ∀ h : bs.length ≤ maxStreamBufSize,
      ((receive env).run (NetPacket.ofPayload msgId bs h).toStreamBuffer).1 = .ok (val env) ∧
      ((receive env).run (NetPacket.ofPayload msgId bs h).toStreamBuffer).2.unreadSize = 0 := by
    intro h
    have hholds : (NetPacket.ofPayload msgId bs h).toStreamBuffer.Holds (bs ++ []) := by
      rw [List.append_nil]
      exact StreamBuffer.holds_ofPayload msgId bs h
    obtain ⟨hval, hrest⟩ := hread env _ [] hholds
    refine ⟨hval, ?_⟩
    rw [StreamBuffer.unreadSize_eq, hrest.eq]
    rfl
  constructor
  · intro h env
    exact Except.ok.inj ((hrun env hle).1.symm.trans (h hle env).1)
  · intro h hle' env
    rw [← h env]
    exact hrun env hle'

theorem onKeyEvent_reads (key : KeyEvent) (hlen : key.keys.length ≤ maxKeySize) (fd : Int32)
    (env : Receiving) :
    Reads (ClientMsgHandler.onKeyEvent env) (keyEventWire key ++ toBytes fd) (.ok (key, fd)) := by
  have h : Reads (ClientMsgHandler.onKeyEvent env) _ _ :=
    (netPacketToKeyEvent_reads env.unicode env.now key hlen).bind <|
    (Reads.pull 0 fd).bind <| Reads.unlessError <| Reads.pure _
  rwa [List.append_nil] at h

theorem onSubscribeKeyEventCallback_reads (key : KeyEvent) (hlen : key.keys.length ≤ maxKeySize)
    (fd subscribeId : Int32) (env : Receiving) :
    Reads (ClientMsgHandler.onSubscribeKeyEventCallback env)
      (keyEventWire key ++ (toBytes fd ++ toBytes subscribeId)) (.ok (key, fd, subscribeId)) := by
  have h : Reads (ClientMsgHandler.onSubscribeKeyEventCallback env) _ _ :=
    (netPacketToKeyEvent_reads env.unicode env.now key hlen).bind <|
    (Reads.pull (-1) fd).bind <| (Reads.pull (-1) subscribeId).bind <| Reads.unlessError <|
    Reads.pure _
  rwa [List.append_nil] at h

theorem onPointerEvent_reads (event : PointerEvent) (hkeys : event.pressedKeys.length < 2 ^ 64)
    (env : Receiving) :
    Reads (ClientMsgHandler.onPointerEvent env) (pointerEventWire event)
      (.ok (rebuilt env.now event)) := by
  have h : Reads (ClientMsgHandler.onPointerEvent env) _ _ :=
    (unmarshalling_rebuilds env.junk env.now event hkeys).bind <| Reads.pure _
  rwa [List.append_nil] at h

theorem readReport_reads {read : PacketM (Int × β)} {v : β} (hread : Reads read bs (retOk, v))
    (old handlerType : Int32) :
    Reads (ClientMsgHandler.readReport old read) (toBytes handlerType ++ bs)
      (.ok (handlerType, v)) := by
  have h : Reads (ClientMsgHandler.readReport old read) _ _ :=
    (Reads.pull old handlerType).bind <| Reads.unlessError <| hread.bind <| Reads.pure _
  rwa [List.append_nil] at h

/-! ## Key events -/

theorem readKeyItems_length (unicode : UInt32) (n : Nat) :
    ∀ (data : Int32) (isPressed : Bool) (key : KeyEvent) (b : StreamBuffer),
      ((readKeyItems unicode n data isPressed key).run b).1.2.keys.length
        ≤ key.keys.length + n := by
  induction n with
  | zero => exact fun _ _ _ _ => Nat.le_refl _
  | succ n ih =>
    intro data isPressed key b
    unfold readKeyItems
    simp only [PacketM.run_bind]
    split
    · exact Nat.le_add_right _ _
    · refine (ih _ _ _ _).trans ?_
      rw [KeyEvent.addKeyItem_keys, List.length_append, List.length_singleton]
      omega

theorem readKeyEventRest_length (unicode : UInt32) (size data : Int32) {key : KeyEvent}
    (hkey : key.keys = []) (b : StreamBuffer) :
    ((readKeyEventRest unicode size data key).run b).1.2.keys.length ≤ maxKeySize := by
  have hnone : key.keys.length ≤ maxKeySize := by
    rw [hkey]
    exact Nat.zero_le _
  unfold readKeyEventRest
  by_cases hlarge : (maxKeySize : Int) < size.toInt
  · rw [if_pos hlarge]
    exact hnone
  · rw [if_neg hlarge, PacketM.run_bind, run_rwError]
    cases b.chkRWError with
    | true => exact hnone
    | false =>
      have hitems := readKeyItems_length unicode size.toInt.toNat data false key b
      rw [hkey, List.length_nil, Nat.zero_add] at hitems
      have hread : ((readKeyItems unicode size.toInt.toNat data false key).run b).1.2.keys.length
          ≤ maxKeySize := by omega
      simp only [Bool.false_eq_true, if_false, PacketM.run_bind]
      generalize (readKeyItems unicode size.toInt.toNat data false key).run b = r at hread ⊢
      by_cases hret : r.1.1 = retOk
      · rw [if_neg (not_not_intro hret)]
        exact hread
      · rw [if_pos hret]
        exact hread

/-- The events that a program reads have no more items than the encoder writes. -/
def FewItems (m : PacketM (Int × KeyEvent)) : Prop :=
  ∀ b : StreamBuffer, (m.run b).1.2.keys.length ≤ maxKeySize

theorem FewItems.bind {m : PacketM α} {f : α → PacketM (Int × KeyEvent)}
    (hf : ∀ a, FewItems (f a)) : FewItems (m >>= f) :=
  fun b => hf (m.run b).1 (m.run b).2

theorem FewItems.ite {c : Prop} [Decidable c] {m k : PacketM (Int × KeyEvent)} (hm : FewItems m)
    (hk : FewItems k) : FewItems (if c then m else k) := by
  split
  · exact hm
  · exact hk

theorem netPacketToKeyEvent_fewItems (unicode : UInt32) (now : Int64) :
    FewItems (netPacketToKeyEvent unicode (KeyEvent.create now)) :=
  FewItems.bind fun _ => FewItems.ite (fun _ => Nat.zero_le _) <|
  FewItems.bind fun _ => FewItems.bind fun _ => FewItems.bind fun _ =>
  readKeyEventRest_length unicode _ _ rfl

/-- What a receiver hands on has a property. -/
def Yields (m : PacketM (Except ReceiveError β)) (P : β → Prop) : Prop :=
  ∀ (b : StreamBuffer) (v : β), (m.run b).1 = .ok v → P v

theorem Yields.error {P : β → Prop} (e : ReceiveError) : Yields (pure (.error e)) P :=
  fun _ _ h => nomatch h

theorem Yields.ok {P : β → Prop} {v : β} (hv : P v) : Yields (pure (.ok v)) P := by
  intro _ _ h
  cases h
  exact hv

theorem Yields.bind {m : PacketM α} {f : α → PacketM (Except ReceiveError β)} {P : β → Prop}
    (hf : ∀ a, Yields (f a) P) : Yields (m >>= f) P :=
  fun b => hf (m.run b).1 (m.run b).2

theorem Yields.bindOf {m : PacketM α} {f : α → PacketM (Except ReceiveError β)} {P : β → Prop}
    {Q : α → Prop} (hm : ∀ b, Q (m.run b).1) (hf : ∀ a, Q a → Yields (f a) P) :
    Yields (m >>= f) P :=
  fun b => hf (m.run b).1 (hm b) (m.run b).2

theorem Yields.ite {c : Prop} [Decidable c] {m k : PacketM (Except ReceiveError β)}
    {P : β → Prop} (hm : Yields m P) (hk : Yields k P) : Yields (if c then m else k) P := by
  split
  · exact hm
  · exact hk

theorem onKeyEvent_fewItems (env : Receiving) :
    Yields (ClientMsgHandler.onKeyEvent env) fun v => v.1.keys.length ≤ maxKeySize := by
  unfold ClientMsgHandler.onKeyEvent
  refine Yields.bindOf (Q := fun r => r.2.keys.length ≤ maxKeySize)
    (netPacketToKeyEvent_fewItems env.unicode env.now) fun r hr => ?_
  refine Yields.ite (Yields.error _) <| Yields.bind fun _ => Yields.bind fun _ => ?_
  exact Yields.ite (Yields.error _) (Yields.ok hr)

theorem onSubscribeKeyEventCallback_fewItems (env : Receiving) :
    Yields (ClientMsgHandler.onSubscribeKeyEventCallback env)
      fun v => v.1.keys.length ≤ maxKeySize := by
  unfold ClientMsgHandler.onSubscribeKeyEventCallback
  refine Yields.bindOf (Q := fun r => r.2.keys.length ≤ maxKeySize)
    (netPacketToKeyEvent_fewItems env.unicode env.now) fun r hr => ?_
  refine Yields.ite (Yields.error _) <| Yields.bind fun _ => Yields.bind fun _ =>
    Yields.bind fun _ => ?_
  exact Yields.ite (Yields.error _) (Yields.ok hr)

/-! ## What the senders of key events do -/

/-- The items of an event are more than the encoder writes. Their number is compared as an
`int32_t`. -/
def TooManyItems (key : KeyEvent) : Prop :=
  (maxKeySize : Int) < (Int32.ofNat key.keys.length).toInt

theorem TooManyItems.lt {key : KeyEvent} (h : TooManyItems key) :
    maxKeySize < key.keys.length := by
  by_contra hle
  rw [TooManyItems, size_toInt (Nat.not_lt.mp hle)] at h
  omega

/-- Unless the items are few, there are so many that no packet holds them. -/
theorem few_or_large {key : KeyEvent} (h : ¬ TooManyItems key) :
    key.keys.length ≤ maxKeySize ∨ 16384 < key.keys.length := by
  by_contra hnot
  obtain ⟨hmany, hle⟩ := not_or.mp hnot
  rw [TooManyItems, Int32.toInt_ofNat_of_lt (by omega)] at h
  omega

/-- A key event and what a sender adds to it arrive whole unless there are too many items. -/
theorem whole_keyEvent_iff (out : Outlet) {session : Session} (hfd : 0 ≤ session.fd)
    (key : KeyEvent) {tail : PacketM Unit} {ts : List UInt8} (happ : Appends tail ts)
    (hfits : Fits tail ts) (hlen : ts.length ≤ 8)
    {receive : Receiving → PacketM (Except ReceiveError β)} {sent : β}
    (hreads : key.keys.length ≤ maxKeySize →
      ∀ env, Reads (receive env) (keyEventWire key ++ ts) (.ok sent))
    (hfew : ∀ env, Yields (receive env) fun v => v = sent → key.keys.length ≤ maxKeySize) :
    Whole msgId receive sent (out.sendTo session (NetPacket.fill msgId do
        let _ ← keyEventToNetPacket key
        tail).2) ↔ ¬ TooManyItems key := by
  have hmax : maxStreamBufSize = 16384 := rfl
  by_cases hmany : TooManyItems key
  · refine iff_of_false (fun hwhole => ?_) (not_not_intro hmany)
    have hlength : (keyEventHead key ++ ts).length = 56 + ts.length := by
      rw [List.length_append, keyEventHead_length]
    rw [whole_sendTo_iff out hfd
      ((keyEventToNetPacket_appends_head key hmany).bind fun _ => happ)
      ((keyEventToNetPacket_fits_head key hmany).bind fun _ => hfits)] at hwhole
    rcases hwhole with hlarge | ⟨_, hdecodes⟩
    · omega
    · have hread := hdecodes (by omega) ⟨0, 0, ⟨0, 0, .zero, 0, 0, 0⟩, 0⟩
      have hle := hfew _ _ _ hread.1 rfl
      have hlt := hmany.lt
      omega
  · refine iff_of_true ?_ hmany
    have hlength : (keyEventWire key ++ ts).length = 63 + key.keys.length * 21 + ts.length := by
      rw [List.length_append, keyEventWire_length]
    rw [whole_sendTo_iff out hfd
      ((keyEventToNetPacket_reports_of_count key hmany).appends.bind fun _ => happ)
      ((keyEventToNetPacket_fits key hmany).bind fun _ => hfits)]
    have hkeys : maxKeySize = 395 := rfl
    rcases few_or_large hmany with hfewItems | hlarge
    · by_cases hsmall : (keyEventWire key ++ ts).length ≤ 8184
      · exact .inr ⟨hsmall, (decodes_iff (by omega) (hreads hfewItems)).mpr fun _ => rfl⟩
      · exact .inl (by omega)
    · exact .inl (by omega)

theorem sendMsg_of_session {out : Outlet} {fd : Int} {ses : Session}
    (h : out.server.getSession fd = some ses) (pkt : NetPacket) :
    out.sendMsg fd pkt = out.sendTo ses pkt := by
  have hfd := (out.server.filed fd ses h).2.1
  unfold Outlet.sendMsg
  rw [if_neg (by omega), h]

/-- `SendMsg` checks the packet once more. -/
theorem sendChecked_of_session {out : Outlet} {fd : Int32} {ses : Session}
    (h : out.server.getSession fd.toInt = some ses) (pkt : NetPacket) :
    out.sendChecked fd pkt = out.sendTo ses pkt := by
  unfold Outlet.sendChecked
  rw [sendMsg_of_session h]
  by_cases hbroken : pkt.chkRWError = true
  · rw [if_pos hbroken]
    exact (if_pos hbroken).symm
  · rw [if_neg hbroken]

theorem sendChecked_of_none {out : Outlet} {fd : Int32}
    (h : out.server.getSession fd.toInt = none) (pkt : NetPacket) :
    out.sendChecked fd pkt = .refused := by
  unfold Outlet.sendChecked Outlet.sendMsg
  rw [h]
  split
  · rfl
  · split <;> rfl

theorem dispatchKeyEventPid_whole_iff (out : Outlet) (fd : Int32) (blocked : Bool)
    (key : KeyEvent) :
    Whole onKeyEventMsg ClientMsgHandler.onKeyEvent (key, fd)
        (EventDispatchHandler.dispatchKeyEventPid out fd blocked key) ↔
      ((out.server.getSession fd.toInt).isSome = true → blocked = false → ¬ TooManyItems key) := by
  unfold EventDispatchHandler.dispatchKeyEventPid
  cases hses : out.server.getSession fd.toInt with
  | none => exact iff_of_true (.inl rfl) fun h => nomatch h
  | some ses =>
    cases blocked with
    | true => exact iff_of_true (.inl rfl) fun _ h => nomatch h
    | false =>
      have hfiled := out.server.filed _ ses hses
      simp only [Bool.false_eq_true, if_false, sendChecked_of_session hses, Option.isSome_some,
        forall_const]
      exact whole_keyEvent_iff out (by omega) key (Appends.push fd) (Fits.push fd)
        (by rw [ByteImage.toBytes_length]; decide) (fun hlen => onKeyEvent_reads key hlen fd)
        fun env b v hv heq => by
          have hle := onKeyEvent_fewItems env b v hv
          rwa [heq] at hle

theorem notifySubscriber_whole_iff (out : Outlet) (keyEvent : KeyEvent)
    (subscriber : Subscriber) :
    let fd := Int32.ofInt subscriber.sess.fd
    Whole onSubscribeKeyMsg ClientMsgHandler.onSubscribeKeyEventCallback
        (keyEvent, fd, subscriber.id)
        (KeySubscriberHandler.notifySubscriber out keyEvent subscriber) ↔
      ((out.server.getSession fd.toInt).isSome = true → ¬ TooManyItems keyEvent) := by
  unfold KeySubscriberHandler.notifySubscriber
  generalize Int32.ofInt subscriber.sess.fd = fd
  simp only
  cases hses : out.server.getSession fd.toInt with
  | none =>
    rw [sendChecked_of_none hses]
    exact iff_of_true (.inl rfl) fun h => nomatch h
  | some ses =>
    have hfiled := out.server.filed _ ses hses
    rw [sendChecked_of_session hses]
    simp only [Option.isSome_some, forall_const]
    exact whole_keyEvent_iff out (by omega) keyEvent
      ((Appends.push fd).bind fun _ => Appends.push subscriber.id)
      ((Fits.push fd).bind fun _ => Fits.push subscriber.id)
      (by rw [List.length_append, ByteImage.toBytes_length, ByteImage.toBytes_length]; decide)
      (fun hlen => onSubscribeKeyEventCallback_reads keyEvent hlen fd subscriber.id)
      fun env b v hv heq => by
        have hle := onSubscribeKeyEventCallback_fewItems env b v hv
        rwa [heq] at hle

/-! ## What the senders of pointer events do -/

/-- The room that a pointer event takes, behind so many other bytes, decides if it is sent.
What is sent is read back if every item is the one found under its id and the mask is free
of `AXIS_TYPE_UNKNOWN`. -/
def ArrivesWhole (others : Nat) (event : PointerEvent) : Prop :=
  let size := others + pointerEventSize event
  (8184 < size ∧ ¬ (16376 < size ∧ size ≤ 16384)) ∨
  (size ≤ 8184 ∧ (∀ item ∈ event.pointers, event.getPointerItem item.pointerId = some item) ∧
    hasAxis event.axes .unknown = false)

/-- The event that the encoder writes is read back unless it has the unknown axis. -/
theorem rebuilt_asWritten_iff (event : PointerEvent) :
    (∀ env : Receiving, rebuilt env.now event.asWritten = event) ↔
      (∀ item ∈ event.pointers, event.getPointerItem item.pointerId = some item) ∧
        hasAxis event.axes .unknown = false := by
  rw [← asWritten_eq_iff]
  constructor
  · intro h
    have hread := h ⟨0, 0, ⟨0, 0, .zero, 0, 0, 0⟩, 0⟩
    have hknown : hasAxis event.axes .unknown = false := by
      have hclear := rebuilt_unknown 0 event.asWritten
      rwa [hread] at hclear
    exact ⟨(rebuilt_eq 0 event.asWritten hknown).symm.trans hread, hknown⟩
  · rintro ⟨hsame, hknown⟩ env
    rw [hsame]
    exact rebuilt_eq env.now event hknown

theorem whole_pointerEvent_iff (out : Outlet) {session : Session} (hfd : 0 ≤ session.fd)
    (event : PointerEvent) (front : List UInt8) (wrap : PointerEvent → β)
    (happ : Appends m (front ++ pointerEventWire event.asWritten))
    (hfits : Fits m (front ++ pointerEventWire event.asWritten))
    {receive : Receiving → PacketM (Except ReceiveError β)}
    (hwrap : ∀ a b, wrap a = wrap b → a = b)
    (hreads : ∀ a : PointerEvent, a.pressedKeys.length < 2 ^ 64 → ∀ env,
      Reads (receive env) (front ++ pointerEventWire a) (.ok (wrap (rebuilt env.now a)))) :
    Whole msgId receive (wrap event) (out.sendTo session (NetPacket.fill msgId m).2) ↔
      ArrivesWhole front.length event := by
  have hmax : maxStreamBufSize = 16384 := rfl
  have hlength : (front ++ pointerEventWire event.asWritten).length
      = front.length + pointerEventSize event := by
    rw [List.length_append, pointerEventWire_length]
  rw [whole_sendTo_iff out hfd happ hfits, hlength, ArrivesWhole, ← rebuilt_asWritten_iff]
  refine or_congr_right (and_congr_right fun hle => ?_)
  have hkeys : event.asWritten.pressedKeys.length < 2 ^ 64 := by
    have hsize : pointerEventSize event = 92 + (writtenAxes event).length * 8
      + event.pressedButtons.length * 4 + event.pointers.length * 120
      + event.pressedKeys.length * 4 := rfl
    show event.pressedKeys.length < 2 ^ 64
    omega
  rw [decodes_iff (by omega) (hreads event.asWritten hkeys)]
  exact forall_congr' fun env => ⟨hwrap _ _, congrArg wrap⟩

theorem handlePointerEventInner_whole_iff (out : Outlet) (group : DisplayGroupInfo) (fd : Int)
    (filtered blocked : Bool) (point : PointerEvent) :
    let pointerEvent := copyFor group (out.server.getClientPid fd) point
    Whole onPointerEventMsg ClientMsgHandler.onPointerEvent pointerEvent
        (EventDispatchHandler.handlePointerEventInner out group fd filtered blocked point) ↔
      (filtered = false → (out.server.getSession fd).isSome = true → blocked = false →
        ArrivesWhole 0 pointerEvent) := by
  intro pointerEvent
  unfold EventDispatchHandler.handlePointerEventInner
  cases filtered with
  | true => exact iff_of_true (.inl rfl) fun h => nomatch h
  | false =>
    cases hses : out.server.getSession fd with
    | none => exact iff_of_true (.inl rfl) fun _ h => nomatch h
    | some ses =>
      cases blocked with
      | true => exact iff_of_true (.inl rfl) fun _ _ h => nomatch h
      | false =>
        have hfiled := out.server.filed _ ses hses
        simp only [Bool.false_eq_true, if_false, sendMsg_of_session hses, Option.isSome_some,
          forall_const]
        exact whole_pointerEvent_iff out (by omega) pointerEvent [] id
          (marshalling_reports_asWritten pointerEvent).appends (marshalling_fits pointerEvent)
          (fun _ _ h => h) fun a ha env => onPointerEvent_reads a ha env

/-! ## Reports -/

theorem handlerTypeValue_length (handlerType : InputHandlerType) :
    (toBytes (handlerTypeValue handlerType)).length = 4 := ByteImage.toBytes_length _

theorem writeReport_reports {write : PacketM Int} (h : Reports write bs)
    (handlerType : InputHandlerType) :
    Reports (writeReport handlerType write) (toBytes (handlerTypeValue handlerType) ++ bs) :=
  (Appends.push _).bindReports fun _ => Reports.unlessError h

theorem writeReport_fits {write : PacketM Int} (h : Fits write bs)
    (handlerType : InputHandlerType) :
    Fits (writeReport handlerType write) (toBytes (handlerTypeValue handlerType) ++ bs) :=
  (Fits.push _).bind fun _ => Fits.unlessError h

theorem writeReport_checked {write : PacketM Int} (h : Checked write)
    (handlerType : InputHandlerType) : Checked (writeReport handlerType write) :=
  Checked.bind fun _ => Checked.bind fun _ => Checked.ite Checked.retErr h

theorem sendTo_of_broken (out : Outlet) (session : Session) {pkt : NetPacket}
    (h : pkt.rwErrorStatus ≠ .ok) : out.sendTo session pkt = .refused :=
  if_pos ((StreamBuffer.chkRWError_eq_true_iff pkt.toStreamBuffer).mpr h)

theorem sendTo_of_neg (out : Outlet) {session : Session} (hfd : session.fd < 0)
    (pkt : NetPacket) : out.sendTo session pkt = .refused := by
  unfold Outlet.sendTo UDSSession.sendMsg sendPacket
  by_cases hbroken : pkt.chkRWError = true
  · rw [if_pos hbroken]
  · rw [if_neg hbroken]
    rcases sendBytes_cases out.build session.fd out.outcome
        (pkt.makeData StreamBuffer.create).written with ⟨_, heq⟩ | ⟨_, _, hpos, _⟩
    · exact heq
    · omega

/-- An encoder that reports the errors of the packet makes no difference to `SendMsg`. -/
theorem sendReport_eq (out : Outlet) (session : Session) {write : PacketM Int}
    (hreports : Reports write bs) (hchecked : Checked write) (handlerType : InputHandlerType) :
    sendReport out session msgId write handlerType
      = out.sendTo session (NetPacket.fill msgId (writeReport handlerType write)).2 := by
  unfold sendReport
  simp only
  by_cases hok : (NetPacket.fill msgId (writeReport handlerType write)).2.rwErrorStatus = .ok
  · have hret := (writeReport_reports hreports handlerType StreamBuffer.create hok).1
    exact if_neg (not_not_intro hret)
  · rw [sendTo_of_broken out session hok, if_pos]
    exact fun hret => hok (writeReport_checked hchecked handlerType StreamBuffer.create hret)

theorem writeReport_retErr {write : PacketM Int} (h : ∀ b, (write.run b).1 = retErr)
    (handlerType : InputHandlerType) (b : StreamBuffer) :
    ((writeReport handlerType write).run b).1 = retErr := by
  unfold writeReport
  rw [PacketM.run_bind, PacketM.run_bind, run_rwError]
  generalize ((push (handlerTypeValue handlerType)).run b).2 = b'
  cases b'.chkRWError with
  | true => rfl
  | false => exact h b'

theorem sendReport_refused (msgId : Int32) (out : Outlet) (session : Session) {write : PacketM Int}
    (h : ∀ b, (write.run b).1 = retErr) (handlerType : InputHandlerType) :
    sendReport out session msgId write handlerType = .refused := by
  have hret : (NetPacket.fill msgId (writeReport handlerType write)).1 = retErr :=
    writeReport_retErr h handlerType StreamBuffer.create
  unfold sendReport
  simp only [hret]
  rfl

theorem keyEventToNetPacket_retErr {key : KeyEvent} (h : TooManyItems key) (b : StreamBuffer) :
    ((keyEventToNetPacket key).run b).1 = retErr := by
  unfold keyEventToNetPacket
  rw [PacketM.run_bind]
  split
  · rfl
  · rw [PacketM.run_bind, PacketM.run_bind]
    exact congrArg (fun m : PacketM Int => (m.run _).1) (if_pos h)

/-- The report of a key event is whole: the encoder's result is looked at. -/
theorem sendReport_key_whole (out : Outlet) (handlerType : InputHandlerType) (session : Session)
    (keyEvent : KeyEvent) :
    Whole reportKeyEventMsg ClientMsgHandler.reportKeyEvent
      (handlerTypeValue handlerType, keyEvent)
      (sendReport out session reportKeyEventMsg (keyEventToNetPacket keyEvent) handlerType) := by
  have hmax : maxStreamBufSize = 16384 := rfl
  by_cases hmany : TooManyItems keyEvent
  · have hnone := sendReport_refused reportKeyEventMsg out session
      (keyEventToNetPacket_retErr hmany) handlerType
    exact .inl (congrArg SendResult.calls hnone)
  · have hreports := keyEventToNetPacket_reports_of_count keyEvent hmany
    rw [sendReport_eq out session hreports (keyEventToNetPacket_checked keyEvent) handlerType]
    rcases Int.lt_or_le session.fd 0 with hneg | hfd
    · exact .inl (congrArg SendResult.calls (sendTo_of_neg out hneg _))
    have hlength : (toBytes (handlerTypeValue handlerType) ++ keyEventWire keyEvent).length
        = 67 + keyEvent.keys.length * 21 := by
      rw [List.length_append, handlerTypeValue_length, keyEventWire_length]
      omega
    rw [whole_sendTo_iff out hfd (writeReport_reports hreports handlerType).appends
      (writeReport_fits (keyEventToNetPacket_fits keyEvent hmany) handlerType)]
    have hkeys : maxKeySize = 395 := rfl
    rcases few_or_large hmany with hfew | hlarge
    · by_cases hsmall : (toBytes (handlerTypeValue handlerType)
          ++ keyEventWire keyEvent).length ≤ 8184
      · refine .inr ⟨hsmall, (decodes_iff (by omega) fun env => ?_).mpr fun _ => rfl⟩
        exact readReport_reads (netPacketToKeyEvent_reads env.unicode env.now keyEvent hfew)
          env.handlerType (handlerTypeValue handlerType)
      · exact .inl (by omega)
    · exact .inl (by omega)

theorem sendReport_pointer_whole_iff (out : Outlet) (handlerType : InputHandlerType)
    (session : Session) (pointerEvent : PointerEvent) :
    Whole reportPointerEventMsg ClientMsgHandler.reportPointerEvent
        (handlerTypeValue handlerType, pointerEvent)
        (sendReport out session reportPointerEventMsg (marshalling pointerEvent) handlerType) ↔
      (0 ≤ session.fd → ArrivesWhole 4 pointerEvent) := by
  have hreports := marshalling_reports_asWritten pointerEvent
  rw [sendReport_eq out session hreports (marshalling_checked pointerEvent) handlerType]
  rcases Int.lt_or_le session.fd 0 with hneg | hfd
  · exact iff_of_true (.inl (congrArg SendResult.calls (sendTo_of_neg out hneg _)))
      fun h => by omega
  · have h : Whole reportPointerEventMsg ClientMsgHandler.reportPointerEvent
        (handlerTypeValue handlerType, pointerEvent) _ ↔ _ :=
      whole_pointerEvent_iff out hfd pointerEvent
      (toBytes (handlerTypeValue handlerType)) (fun a => (handlerTypeValue handlerType, a))
      (writeReport_reports hreports handlerType).appends
      (writeReport_fits (marshalling_fits pointerEvent) handlerType)
      (fun _ _ heq => (Prod.mk.inj heq).2) fun a ha env =>
        readReport_reads (unmarshalling_rebuilds env.junk env.now a ha) env.handlerType
          (handlerTypeValue handlerType)
    rw [handlerTypeValue_length] at h
    rw [h]
    exact ⟨fun hwhole _ => hwhole, fun hwhole => hwhole hfd⟩

/-! ## All senders -/

/-- The key event that is dispatched or sent to a subscriber arrives whole unless it has too
many items, a pointer event if its size and its items allow it, and a reported key event
always. -/
theorem wholeEvents_iff (out : Outlet) :
    (∀ (fd : Int32) (blocked : Bool) (key : KeyEvent),
      Whole onKeyEventMsg ClientMsgHandler.onKeyEvent (key, fd)
          (EventDispatchHandler.dispatchKeyEventPid out fd blocked key) ↔
        ((out.server.getSession fd.toInt).isSome = true → blocked = false →
          ¬ TooManyItems key)) ∧
    (∀ (keyEvent : KeyEvent) (subscriber : Subscriber),
      let fd := Int32.ofInt subscriber.sess.fd
      Whole onSubscribeKeyMsg ClientMsgHandler.onSubscribeKeyEventCallback
          (keyEvent, fd, subscriber.id)
          (KeySubscriberHandler.notifySubscriber out keyEvent subscriber) ↔
        ((out.server.getSession fd.toInt).isSome = true → ¬ TooManyItems keyEvent)) ∧
    (∀ (group : DisplayGroupInfo) (fd : Int) (filtered blocked : Bool) (point : PointerEvent),
      let pointerEvent := copyFor group (out.server.getClientPid fd) point
      Whole onPointerEventMsg ClientMsgHandler.onPointerEvent pointerEvent
          (EventDispatchHandler.handlePointerEventInner out group fd filtered blocked point) ↔
        (filtered = false → (out.server.getSession fd).isSome = true → blocked = false →
          ArrivesWhole 0 pointerEvent)) ∧
    (∀ (handlerType : InputHandlerType) (session : Session) (keyEvent : KeyEvent),
      Whole reportKeyEventMsg ClientMsgHandler.reportKeyEvent
          (handlerTypeValue handlerType, keyEvent)
          (EventMonitorHandler.sendKeyToClient out handlerType session keyEvent) ∧
        Whole reportKeyEventMsg ClientMsgHandler.reportKeyEvent
          (handlerTypeValue handlerType, keyEvent)
          (EventInterceptorHandler.sendKeyToClient out handlerType session keyEvent)) ∧
    (∀ (handlerType : InputHandlerType) (session : Session) (blocked : Bool)
        (pointerEvent : PointerEvent),
      (Whole reportPointerEventMsg ClientMsgHandler.reportPointerEvent
          (handlerTypeValue handlerType, pointerEvent)
          (EventMonitorHandler.sendPointerToClient out handlerType session blocked
            pointerEvent) ↔
        (¬ (pointerEvent.sourceType = sourceTypeTouchscreen ∧ blocked = true) →
          0 ≤ session.fd → ArrivesWhole 4 pointerEvent)) ∧
      (Whole reportPointerEventMsg ClientMsgHandler.reportPointerEvent
          (handlerTypeValue handlerType, pointerEvent)
          (EventInterceptorHandler.sendPointerToClient out handlerType session pointerEvent) ↔
        (0 ≤ session.fd → ArrivesWhole 4 pointerEvent))) := by
  refine ⟨dispatchKeyEventPid_whole_iff out, notifySubscriber_whole_iff out,
    handlePointerEventInner_whole_iff out, fun handlerType session keyEvent =>
      ⟨sendReport_key_whole out handlerType session keyEvent,
        sendReport_key_whole out handlerType session keyEvent⟩,
    fun handlerType session blocked pointerEvent => ⟨?_,
      sendReport_pointer_whole_iff out handlerType session pointerEvent⟩⟩
  unfold EventMonitorHandler.sendPointerToClient
  by_cases hheld : pointerEvent.sourceType = sourceTypeTouchscreen ∧ blocked = true
  · rw [if_pos hheld]
    exact iff_of_true (.inl rfl) fun h => absurd hheld h
  · rw [if_neg hheld, sendReport_pointer_whole_iff]
    exact ⟨fun h _ => h, fun h => h hheld⟩

/-- A session with the descriptor 5. -/
def fiveOutlet : Outlet where
  build := ⟨false⟩
  server := (UDSServer.create.addSession ⟨0, 5, 100⟩).2
  outcome := fun _ => .sent 8192

/-- As many items as there are keys held, and one more than the encoder writes. -/
def manyKeys : KeyEvent :=
  { KeyEvent.create 0 with keys := List.replicate 396 { pressed := true, keyCode := 2019 } }

/-- The event is sent up to its action and the descriptor, to the focused window and to a
subscriber. -/
theorem counterexample_wholeEvents :
    ¬ Whole onKeyEventMsg ClientMsgHandler.onKeyEvent (manyKeys, 5)
        (EventDispatchHandler.dispatchKeyEventPid fiveOutlet 5 false manyKeys) ∧
      ¬ Whole onSubscribeKeyMsg ClientMsgHandler.onSubscribeKeyEventCallback (manyKeys, 5, 1)
        (KeySubscriberHandler.notifySubscriber fiveOutlet manyKeys
          ⟨0, 1, ⟨0, 5, 100⟩, ⟨∅, 2019, true, 0, 0⟩, -1, none⟩) := by
  have hmany : TooManyItems manyKeys := by
    show (maxKeySize : Int) < (Int32.ofNat (List.replicate 396 _).length).toInt
    rw [List.length_replicate]
    decide
  have hses : (fiveOutlet.server.getSession 5).isSome = true := by decide
  refine ⟨fun h => ?_, fun h => ?_⟩
  · exact (dispatchKeyEventPid_whole_iff fiveOutlet 5 false manyKeys).mp h hses rfl hmany
  · exact (notifySubscriber_whole_iff fiveOutlet manyKeys _).mp h hses hmany

end FtMmi.EventDispatch
