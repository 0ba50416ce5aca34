/-
FtMmi.Socket.SendMsg — sending a packet (`UDSSession::SendMsg` in
`uds_session.cpp`, `UDSClient::SendMsg` in `uds_client.cpp`).

What each call of `send` comes back with is an argument, indexed by the
number of the call. The result records the value returned, the arguments
of the calls with the number of bytes accepted before each, and all the
bytes the kernel accepted. The pause between two calls is not modelled.

The two classes have the same code in two files.
-/
import FtMmi.Network.NetPacket
import FtMmi.Util.Config

namespace FtMmi.Socket

open FtMmi.Lib
open FtMmi.Network

/-! ## The retry loop -/

/-- The outcome of a call of `send`: so many bytes taken (never more than
there are), EAGAIN, EINTR or EWOULDBLOCK, or any other error. -/
inductive SendOutcome where
  | sent (count : Nat)
  | again
  | fail
  deriving DecidableEq, Repr

structure Sending where
  idx : Nat
  remSize : Nat
  retryCount : Nat
  /-- For each call, `idx` and the bytes handed over. -/
  calls : List (Nat × List UInt8)
  failed : Bool

/-- The `while` loop; the first argument is the number of retries left. -/
def sendLoop (outcome : Nat → SendOutcome) (buf : List UInt8) : Nat → Sending → Sending
  | 0, s => s
  | n + 1, s =>
      if s.remSize = 0 then s
      else
        let called : Sending :=
          { s with
            retryCount := s.retryCount + 1
            calls := s.calls ++ [(s.idx, (buf.drop s.idx).take s.remSize)] }
        match outcome s.retryCount with
        | .again => sendLoop outcome buf n called
        | .fail => { called with failed := true }
        | .sent k =>
            let count := min k s.remSize
            sendLoop outcome buf n
              { called with idx := s.idx + count, remSize := s.remSize - count }

structure SendResult where
  result : Bool
  calls : List (Nat × List UInt8)
  accepted : List UInt8

/-- Nothing is sent, and `false` is returned. -/
def SendResult.refused : SendResult := ⟨false, [], []⟩

/-- `SendMsg(const char *, size_t)` -/
def sendBytes (build : Build) (fd : Int) (outcome : Nat → SendOutcome) (buf : List UInt8) :
    SendResult :=
  if buf.length = 0 ∨ maxPacketBufSize < buf.length then .refused
  else if fd < 0 then .refused
  else
    let s := sendLoop outcome buf (sendRetryLimit build) ⟨0, buf.length, 0, [], false⟩
    { result := !s.failed && !(decide (sendRetryLimit build ≤ s.retryCount) || s.remSize != 0)
      calls := s.calls
      accepted := buf.take s.idx }

/-- `SendMsg(NetPacket &)` over one of the functions for bytes. -/
def sendPacket (send : List UInt8 → SendResult) (pkt : NetPacket) : SendResult :=
  if pkt.chkRWError then .refused else send (pkt.makeData StreamBuffer.create).written

namespace UDSSession

def sendMsgBytes (build : Build) (fd : Int) (outcome : Nat → SendOutcome) (buf : List UInt8) :
    SendResult :=
  sendBytes build fd outcome buf

def sendMsg (build : Build) (fd : Int) (outcome : Nat → SendOutcome) (pkt : NetPacket) :
    SendResult :=
  sendPacket (sendMsgBytes build fd outcome) pkt

end UDSSession

namespace UDSClient

def sendMsgBytes (build : Build) (fd : Int) (outcome : Nat → SendOutcome) (buf : List UInt8) :
    SendResult :=
  sendBytes build fd outcome buf

def sendMsg (build : Build) (fd : Int) (outcome : Nat → SendOutcome) (pkt : NetPacket) :
    SendResult :=
  sendPacket (sendMsgBytes build fd outcome) pkt

end UDSClient

/-! ## What the kernel is handed -/

/-- Every call hands over what is left of `bytes`, and the first one all of
them. -/
structure Hands (bytes : List UInt8) (calls : List (Nat × List UInt8)) : Prop where
  first : calls.head? = some (0, bytes)
  rest : ∀ c ∈ calls, c.2 = bytes.drop c.1

/-- The calls of the loop from a state on. -/
theorem sendLoop_calls (outcome : Nat → SendOutcome) (buf : List UInt8) (n : Nat) :
    ∀ s : Sending, s.idx + s.remSize = buf.length →
      ∃ more, (sendLoop outcome buf n s).calls = s.calls ++ more ∧
        (∀ c ∈ more, c.2 = buf.drop c.1) ∧
        (0 < n → 0 < s.remSize → more.head? = some (s.idx, buf.drop s.idx)) := by
  induction n with
  | zero =>
    intro s _
    exact ⟨[], (List.append_nil _).symm, by simp, fun h => absurd h (Nat.lt_irrefl 0)⟩
  | succ n ih =>
    intro s hlen
    rw [sendLoop]
    by_cases hrem : s.remSize = 0
    · rw [if_pos hrem]
      exact ⟨[], (List.append_nil _).symm, by simp, fun _ h => absurd hrem (Nat.ne_of_gt h)⟩
    · rw [if_neg hrem]
      have htake : (buf.drop s.idx).take s.remSize = buf.drop s.idx := by
        apply List.take_of_length_le
        rw [List.length_drop]
        omega
      -- One call, and then the calls of the rest of the loop.
      have hcons : ∀ s' : Sending, s'.idx + s'.remSize = buf.length →
          s'.calls = s.calls ++ [(s.idx, buf.drop s.idx)] →
          ∃ more, (sendLoop outcome buf n s').calls = s.calls ++ more ∧
            (∀ c ∈ more, c.2 = buf.drop c.1) ∧
            (0 < n + 1 → 0 < s.remSize → more.head? = some (s.idx, buf.drop s.idx)) := by
        intro s' hlen' hcalls
        obtain ⟨more, hmore, hdrop, _⟩ := ih s' hlen'
        refine ⟨(s.idx, buf.drop s.idx) :: more, ?_, ?_, fun _ _ => rfl⟩
        · rw [hmore, hcalls, List.append_assoc]
          rfl
        · intro c hc
          rcases List.mem_cons.mp hc with rfl | hc
          · rfl
          · exact hdrop c hc
      rw [htake]
      cases outcome s.retryCount with
      | sent k =>
        apply hcons _ _ rfl
        show s.idx + min k s.remSize + (s.remSize - min k s.remSize) = buf.length
        omega
      | again => exact hcons _ hlen rfl
      | fail =>
        refine ⟨[(s.idx, buf.drop s.idx)], rfl, ?_, fun _ _ => rfl⟩
        intro c hc
        rw [List.mem_singleton.mp hc]

/-- What `SendMsg` does with bytes: nothing, or it hands them over. -/
theorem sendBytes_cases (build : Build) (fd : Int) (outcome : Nat → SendOutcome)
    (buf : List UInt8) :
    ((buf.length = 0 ∨ maxPacketBufSize < buf.length ∨ fd < 0) ∧
      sendBytes build fd outcome buf = .refused) ∨
    (0 < buf.length ∧ buf.length ≤ maxPacketBufSize ∧ 0 ≤ fd ∧
      Hands buf (sendBytes build fd outcome buf).calls) := by
  unfold sendBytes
  by_cases hsize : buf.length = 0 ∨ maxPacketBufSize < buf.length
  · rw [if_pos hsize]
    refine .inl ⟨?_, rfl⟩
    rcases hsize with h | h
    · exact .inl h
    · exact .inr (.inl h)
  · rw [if_neg hsize]
    by_cases hfd : fd < 0
    · rw [if_pos hfd]
      exact .inl ⟨.inr (.inr hfd), rfl⟩
    · rw [if_neg hfd]
      refine .inr ⟨by omega, by omega, by omega, ?_⟩
      obtain ⟨more, hmore, hdrop, hfirst⟩ := sendLoop_calls outcome buf (sendRetryLimit build)
        ⟨0, buf.length, 0, [], false⟩ (Nat.zero_add _)
      constructor
      · simp only [hmore, List.nil_append]
        exact hfirst (sendRetryLimit_pos build) (by show 0 < buf.length; omega)
      · simp only [hmore, List.nil_append]
        exact hdrop

/-! ## Self-consistent frames -/

/-- Either nothing is sent and `false` returned, or the kernel is handed a
header with the size of the payload, followed by the payload. -/
def SelfConsistent (pkt : NetPacket) (r : SendResult) : Prop :=
  r = .refused ∨ ∃ head : PackHead, head.idMsg = pkt.msgId ∧
    head.size.toInt = pkt.payload.length ∧ Hands (toBytes head ++ pkt.payload) r.calls

theorem payloadSize_toInt (pkt : NetPacket) : (Int32.ofNat pkt.wPos).toInt = pkt.wPos := by
  have hle := pkt.wPos_le
  rw [maxStreamBufSize_eq] at hle
  exact Int32.toInt_ofNat_of_lt (by omega)

theorem sendPacket_selfConsistent_iff (build : Build) (fd : Int) (outcome : Nat → SendOutcome)
    (pkt : NetPacket) :
    SelfConsistent pkt (sendPacket (sendBytes build fd outcome) pkt) ↔
      pkt.chkRWError = true ∨ fd < 0 ∨ headSize + pkt.wPos ≤ maxStreamBufSize := by
  unfold sendPacket
  by_cases herr : pkt.chkRWError = true
  · rw [if_pos herr]
    exact ⟨fun _ => .inl herr, fun _ => .inl rfl⟩
  · rw [if_neg herr]
    by_cases hfit : headSize + pkt.wPos ≤ maxStreamBufSize
    · refine ⟨fun _ => .inr (.inr hfit), fun _ => ?_⟩
      rw [NetPacket.written_of_holds (pkt.makeData_holds hfit) pkt.makeData_rPos]
      rcases sendBytes_cases build fd outcome pkt.frame with ⟨_, heq⟩ | ⟨_, _, _, hands⟩
      · exact .inl heq
      · refine .inr ⟨⟨pkt.msgId, Int32.ofNat pkt.payload.length⟩, rfl, ?_, hands⟩
        rw [NetPacket.payload_length]
        exact payloadSize_toInt pkt
    · rw [pkt.makeData_written_of_large (by rw [headSize_eq] at hfit; omega)]
      rcases sendBytes_cases build fd outcome
          (toBytes (PackHead.mk pkt.msgId (Int32.ofNat pkt.wPos))) with
        ⟨hwhy, heq⟩ | ⟨_, _, hfd, hands⟩
      · refine ⟨fun _ => ?_, fun _ => .inl heq⟩
        rw [toBytes_packHead_length, maxPacketBufSize_eq] at hwhy
        rcases hwhy with h | h | h
        · cases h
        · omega
        · exact .inr (.inl h)
      · -- The first call hands over eight bytes only.
        refine ⟨fun h => ?_, fun h => ?_⟩
        · rcases h with h | ⟨head, _, _, hframe⟩
          · have hcalls := hands.first
            rw [h] at hcalls
            cases hcalls
          · have hbytes := hands.first.symm.trans hframe.first
            injection hbytes with hbytes
            injection hbytes with _ hbytes
            have hlen := congrArg List.length hbytes
            rw [List.length_append, toBytes_packHead_length, toBytes_packHead_length,
              NetPacket.payload_length] at hlen
            rw [headSize_eq, maxStreamBufSize_eq] at hfit
            omega
        · rcases h with h | h | h
          · exact absurd h herr
          · omega
          · exact absurd h hfit

/-- Both classes send self-consistent frames of the packets that leave room
for the header in a stream buffer, and of no others. -/
theorem sendMsg_selfConsistent_iff (build : Build) (fd : Int) (outcome : Nat → SendOutcome)
    (pkt : NetPacket) :
    (SelfConsistent pkt (UDSSession.sendMsg build fd outcome pkt) ↔
      pkt.chkRWError = true ∨ fd < 0 ∨ headSize + pkt.wPos ≤ maxStreamBufSize) ∧
    (SelfConsistent pkt (UDSClient.sendMsg build fd outcome pkt) ↔
      pkt.chkRWError = true ∨ fd < 0 ∨ headSize + pkt.wPos ≤ maxStreamBufSize) :=
  ⟨sendPacket_selfConsistent_iff build fd outcome pkt,
    sendPacket_selfConsistent_iff build fd outcome pkt⟩

/-- A packet filled to the last byte. -/
def fullPacket : NetPacket :=
  .ofPayload 1 (List.replicate 16384 0) (Nat.le_of_eq List.length_replicate)

/-- Its header announces 16384 bytes, and none follow. -/
theorem counterexample_sendMsg_selfConsistent :
    fullPacket.rwErrorStatus = .ok ∧
      ¬ SelfConsistent fullPacket (UDSSession.sendMsg ⟨false⟩ 5 (fun _ => .sent 8) fullPacket) ∧
      ¬ SelfConsistent fullPacket (UDSClient.sendMsg ⟨false⟩ 5 (fun _ => .sent 8) fullPacket) := by
  have hnot : ¬ (fullPacket.chkRWError = true ∨ (5 : Int) < 0 ∨
      headSize + fullPacket.wPos ≤ maxStreamBufSize) := by
    rw [fullPacket, NetPacket.ofPayload_wPos, List.length_replicate]
    decide
  exact ⟨rfl, fun h => hnot ((sendPacket_selfConsistent_iff _ _ _ _).mp h),
    fun h => hnot ((sendPacket_selfConsistent_iff _ _ _ _).mp h)⟩

end FtMmi.Socket
