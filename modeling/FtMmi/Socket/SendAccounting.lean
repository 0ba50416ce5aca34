/-
FtMmi.Socket.SendAccounting — what the value returned by `SendMsg` says
about the bytes that went out.

`acceptedOf` adds up the calls of `send`: the part of each call's bytes
that the kernel took. `sendLoop_acceptedOf` shows that the loop hands on
precisely the bytes behind those, so nothing goes out twice or is left
out in between.

The loop counts a call before it is made, and the check after the loop
looks at that count first. A message whose last byte goes out with the
last call allowed is reported as not sent.
-/
import FtMmi.Socket.FrameAlignment

namespace FtMmi.Socket

open FtMmi.Lib
open FtMmi.Network

/-! ## The bytes that went out -/

/-- How many bytes the kernel takes at this call, if it is offered as many. -/
def SendOutcome.count : SendOutcome → Nat
  | .sent k => k
  | .again => 0
  | .fail => 0

/-- What was taken over the calls, of which the first has the number `i`. -/
def acceptedOf (outcome : Nat → SendOutcome) : Nat → List (Nat × List UInt8) → List UInt8
  | _, [] => []
  | i, call :: calls => call.2.take (outcome i).count ++ acceptedOf outcome (i + 1) calls

/-- The calls of the loop take one piece after the other. -/
theorem sendLoop_acceptedOf (outcome : Nat → SendOutcome) (buf : List UInt8) (n : Nat) :
    ∀ s : Sending, s.idx + s.remSize = buf.length →
      ∃ more, (sendLoop outcome buf n s).calls = s.calls ++ more ∧
        acceptedOf outcome s.retryCount more
          = (buf.drop s.idx).take (kernelTakes outcome n s.retryCount) := by
  induction n with
  | zero =>
    intro s _
    exact ⟨[], (List.append_nil _).symm, rfl⟩
  | succ n ih =>
    intro s hlen
    have hdrop : (buf.drop s.idx).length = s.remSize := by
      rw [List.length_drop]
      omega
    rw [sendLoop]
    by_cases hrem : s.remSize = 0
    · rw [if_pos hrem]
      have hnil : buf.drop s.idx = [] := List.eq_nil_of_length_eq_zero (hdrop.trans hrem)
      exact ⟨[], (List.append_nil _).symm, by rw [hnil, List.take_nil, acceptedOf]⟩
    · rw [if_neg hrem, List.take_of_length_le (Nat.le_of_eq hdrop), kernelTakes]
      cases hout : outcome s.retryCount with
      | sent k =>
        obtain ⟨more, hcalls, hmore⟩ := ih
          { s with
            retryCount := s.retryCount + 1
            calls := s.calls ++ [(s.idx, buf.drop s.idx)]
            idx := s.idx + min k s.remSize
            remSize := s.remSize - min k s.remSize }
          (by simp only; omega)
        refine ⟨(s.idx, buf.drop s.idx) :: more, by simpa using hcalls, ?_⟩
        -- Past the end of the message the two cursors differ, but nothing is left there.
        have hnext : buf.drop (s.idx + min k s.remSize) = (buf.drop s.idx).drop k := by
          rw [List.drop_drop]
          rcases Nat.le_total k s.remSize with hk | hk
          · rw [Nat.min_eq_left hk]
          · rw [Nat.min_eq_right hk, List.drop_of_length_le (by omega),
              List.drop_of_length_le (by omega)]
        rw [acceptedOf, hout, hmore, hnext]
        exact List.take_add.symm
      | again =>
        obtain ⟨more, hcalls, hmore⟩ := ih
          { s with
            retryCount := s.retryCount + 1
            calls := s.calls ++ [(s.idx, buf.drop s.idx)] }
          hlen
        refine ⟨(s.idx, buf.drop s.idx) :: more, by simpa using hcalls, ?_⟩
        rw [acceptedOf, hout, hmore]
        rfl
      | fail =>
        refine ⟨[(s.idx, buf.drop s.idx)], rfl, ?_⟩
        rw [acceptedOf, hout]
        rfl

/-- What is taken of a message is its beginning, as far as the kernel goes. -/
theorem sendBytes_acceptedOf (build : Build) {fd : Int} (hfd : 0 ≤ fd)
    (outcome : Nat → SendOutcome) {buf : List UInt8} (hne : buf ≠ [])
    (hbuf : buf.length ≤ maxPacketBufSize) :
    acceptedOf outcome 0 (sendBytes build fd outcome buf).calls
      = buf.take (kernelTakes outcome (sendRetryLimit build) 0) := by
  have hpos : 0 < buf.length := List.length_pos_iff.mpr hne
  obtain ⟨more, hcalls, hmore⟩ := sendLoop_acceptedOf outcome buf (sendRetryLimit build)
    ⟨0, buf.length, 0, [], false⟩ (Nat.zero_add _)
  rw [List.nil_append] at hcalls
  rw [sendBytes, if_neg (by omega), if_neg (by omega)]
  simp only [hcalls]
  exact hmore

/-- One call more takes no fewer bytes. -/
theorem kernelTakes_succ_le (outcome : Nat → SendOutcome) (n : Nat) :
    ∀ i, kernelTakes outcome n i ≤ kernelTakes outcome (n + 1) i := by
  induction n with
  | zero => intro i; exact Nat.zero_le _
  | succ n ih =>
    intro i
    have hrest := ih (i + 1)
    rw [kernelTakes, kernelTakes]
    cases outcome i with
    | sent k => exact Nat.add_le_add_left hrest k
    | again => exact hrest
    | fail => exact Nat.le_refl _

/-! ## The value returned -/

/-- `true` says that the whole message went out, byte for byte, and `false`
that some end of it did not. -/
structure Truthful (outcome : Nat → SendOutcome) (buf : List UInt8) (r : SendResult) : Prop where
  inOrder : acceptedOf outcome 0 r.calls <+: buf
  success : r.result = true ↔ acceptedOf outcome 0 r.calls = buf
  failure : r.result = false ↔ ∃ unsent, unsent ≠ [] ∧ acceptedOf outcome 0 r.calls ++ unsent = buf

/-- The last call allowed takes the last byte of the message. -/
def LastCallCompletes (build : Build) (outcome : Nat → SendOutcome) (size : Nat) : Prop :=
  kernelTakes outcome (sendRetryLimit build - 1) 0 < size ∧
    size ≤ kernelTakes outcome (sendRetryLimit build) 0

/-- Of a message of which the first `n` bytes went out, the value has to say
whether these are all. -/
theorem truthful_take_iff {outcome : Nat → SendOutcome} {buf : List UInt8} {r : SendResult}
    {n : Nat} (hsent : acceptedOf outcome 0 r.calls = buf.take n) :
    Truthful outcome buf r ↔ (r.result = true ↔ buf.length ≤ n) := by
  have hall : buf.take n = buf ↔ buf.length ≤ n := List.take_eq_self_iff buf
  constructor
  · intro h
    rw [h.success, hsent, hall]
  · intro h
    refine ⟨hsent ▸ List.take_prefix n buf, by rw [h, hsent, hall], ?_⟩
    rw [← Bool.not_eq_true, h, hsent]
    constructor
    · intro hlt
      refine ⟨buf.drop n, fun hnil => hlt (List.drop_eq_nil_iff.mp hnil), List.take_append_drop n buf⟩
    · rintro ⟨unsent, hne, heq⟩ hle
      rw [List.take_of_length_le hle] at heq
      exact hne (List.append_right_eq_self.mp heq)

theorem sendBytes_truthful_iff (build : Build) (fd : Int) (outcome : Nat → SendOutcome)
    (buf : List UInt8) :
    Truthful outcome buf (sendBytes build fd outcome buf) ↔
      buf ≠ [] ∧ (maxPacketBufSize < buf.length ∨ fd < 0 ∨
        ¬ LastCallCompletes build outcome buf.length) := by
  have hrefused : Truthful outcome buf .refused ↔ buf ≠ [] := by
    rw [truthful_take_iff (n := 0) rfl]
    simp [SendResult.refused]
  by_cases hnil : buf = []
  · have hempty : sendBytes build fd outcome buf = .refused := by
      rw [sendBytes, if_pos (.inl (by rw [hnil]; rfl))]
    rw [hempty, hrefused]
    exact ⟨fun h => absurd hnil h, fun h => h.1⟩
  · by_cases hbig : maxPacketBufSize < buf.length
    · rw [sendBytes_of_large build fd outcome hbig, hrefused]
      exact ⟨fun h => ⟨h, .inl hbig⟩, fun h => h.1⟩
    · by_cases hfd : fd < 0
      · have hneg : sendBytes build fd outcome buf = .refused := by
          rcases sendBytes_cases build fd outcome buf with ⟨_, heq⟩ | ⟨_, _, hpos, _⟩
          · exact heq
          · omega
        rw [hneg, hrefused]
        exact ⟨fun h => ⟨h, .inr (.inl hfd)⟩, fun h => h.1⟩
      · have hbuf : buf.length ≤ maxPacketBufSize := not_lt.mp hbig
        have hpos : 0 ≤ fd := not_lt.mp hfd
        have hmono := kernelTakes_succ_le outcome (sendRetryLimit build - 1) 0
        rw [Nat.sub_add_cancel (sendRetryLimit_pos build)] at hmono
        rw [truthful_take_iff (sendBytes_acceptedOf build hpos outcome hnil hbuf),
          sendBytes_result build hpos outcome hnil hbuf, decide_eq_true_iff, LastCallCompletes]
        simp only [ne_eq, hnil, not_false_eq_true, true_and, hbig, hfd, false_or]
        omega

/-- The value both classes return is truthful of every message but those
whose last byte goes out with the last call allowed. -/
theorem sendMsgBytes_truthful_iff (build : Build) (fd : Int) (outcome : Nat → SendOutcome)
    (buf : List UInt8) :
    (Truthful outcome buf (UDSSession.sendMsgBytes build fd outcome buf) ↔
      buf ≠ [] ∧ (maxPacketBufSize < buf.length ∨ fd < 0 ∨
        ¬ LastCallCompletes build outcome buf.length)) ∧
    (Truthful outcome buf (UDSClient.sendMsgBytes build fd outcome buf) ↔
      buf ≠ [] ∧ (maxPacketBufSize < buf.length ∨ fd < 0 ∨
        ¬ LastCallCompletes build outcome buf.length)) :=
  ⟨sendBytes_truthful_iff build fd outcome buf, sendBytes_truthful_iff build fd outcome buf⟩

/-- The first call finds no room, the second takes all three bytes: `false`
where two calls are allowed. The same with the last of 32 calls. -/
theorem counterexample_sendMsgBytes_truthful :
    ¬ Truthful (fun i => if i = 0 then .again else .sent 3) [1, 2, 3]
        (UDSSession.sendMsgBytes ⟨true⟩ 5 (fun i => if i = 0 then .again else .sent 3) [1, 2, 3]) ∧
      ¬ Truthful (fun i => if i < 31 then .again else .sent 3) [1, 2, 3]
        (UDSClient.sendMsgBytes ⟨false⟩ 5 (fun i => if i < 31 then .again else .sent 3)
          [1, 2, 3]) := by
  constructor
  · intro h
    exact absurd (h.success.mpr (by decide)) (by decide)
  · intro h
    exact absurd (h.success.mpr (by decide)) (by decide)

end FtMmi.Socket
