/-
FtMmi.Network.PacketM — programs over a packet: `pkt << a`, `pkt >> a` and
`pkt.ChkRWError()` as actions of a state monad over the stream buffer,
with the rules the encoders and decoders are verified by.

* `Appends m bs` — a run of `m` that ends without an error started without
  one and put `bs` behind what was there.
* `Reports m bs` — the same of a function with a result, which is `RET_OK`
  then; `Checked m` is the converse, no error when it returns `RET_OK`.
* `Reads m bs v` — on a buffer that starts with `bs`, `m` returns `v` and
  leaves the rest.
* `Consumes m n` — on any content, `m` either takes `n` bytes or leaves an
  error behind, and it is the latter precisely when fewer are left.

Each has one rule for each action and one for sequencing, so the proof
about an encoder or decoder follows the text of the function.
-/
import FtMmi.Network.StreamBufferTheorems

namespace FtMmi.Network

open FtMmi.Lib
open StreamBuffer (Holds)

abbrev PacketM := StateM StreamBuffer

/-- `pkt << a` -/
def push {α : Type} [ByteImage α] (a : α) : PacketM Unit := fun b => ((), b.insert a)

/-- `pkt >> a`, where the variable holds `old` before. -/
def pull {α : Type} [ByteImage α] (old : α) : PacketM α := fun b => b.extract old

/-- `pkt.ChkRWError()` -/
def rwError : PacketM Bool := fun b => (b.chkRWError, b)

@[simp] theorem run_push {α : Type} [ByteImage α] (a : α) (b : StreamBuffer) :
    (push a).run b = ((), b.insert a) := rfl

@[simp] theorem run_pull {α : Type} [ByteImage α] (old : α) (b : StreamBuffer) :
    (pull old).run b = b.extract old := rfl

@[simp] theorem run_rwError (b : StreamBuffer) : rwError.run b = (b.chkRWError, b) := rfl

theorem PacketM.run_bind {α β : Type} (m : PacketM α) (f : α → PacketM β) (b : StreamBuffer) :
    (m >>= f).run b = (f (m.run b).1).run (m.run b).2 := rfl

theorem PacketM.run_pure {α : Type} (a : α) (b : StreamBuffer) :
    (pure a : PacketM α).run b = (a, b) := rfl

variable {α β : Type}

/-! ## Writing -/

/-- If `m` ends without an error, it started without one and wrote `bs`. -/
def Appends (m : PacketM α) (bs : List UInt8) : Prop :=
  ∀ b : StreamBuffer, (m.run b).2.rwErrorStatus = .ok →
    b.rwErrorStatus = .ok ∧ ∀ front, b.Holds front → (m.run b).2.Holds (front ++ bs)

theorem Appends.pure (a : α) : Appends (pure a) [] := by
  intro b hok
  refine ⟨hok, fun front hb => ?_⟩
  rw [List.append_nil]
  exact hb

theorem Appends.push [ByteImage α] (a : α) : Appends (push a) (toBytes a) := by
  intro b hok
  rw [run_push, StreamBuffer.insert_eq] at hok ⊢
  have hw := (StreamBuffer.writeBytes_ok_iff b (toBytes a)).mp hok
  exact ⟨StreamBuffer.writeBytes_true_ok hw, fun front hb => hb.of_writeBytes hw⟩

theorem Appends.bind {m : PacketM α} {f : α → PacketM β} {bs bs' : List UInt8}
    (hm : Appends m bs) (hf : ∀ a, Appends (f a) bs') : Appends (m >>= f) (bs ++ bs') := by
  intro b hok
  rw [PacketM.run_bind] at hok ⊢
  obtain ⟨hmid, hrest⟩ := hf _ _ hok
  obtain ⟨hstart, hfront⟩ := hm b hmid
  refine ⟨hstart, fun front hb => ?_⟩
  rw [← List.append_assoc]
  exact hrest _ (hfront front hb)

/-- A loop of writes. -/
theorem Appends.forM {m : α → PacketM Unit} {image : α → List UInt8}
    (hm : ∀ a, Appends (m a) (image a)) (as : List α) :
    Appends (forM as m) (as.flatMap image) := by
  induction as with
  | nil => exact Appends.pure ()
  | cons a as ih =>
    rw [List.forM_cons, List.flatMap_cons]
    exact (hm a).bind fun _ => ih

/-! ## Writing with a result -/

/-- If `m` ends without an error, it returned `RET_OK` and wrote `bs`. -/
def Reports (m : PacketM Int) (bs : List UInt8) : Prop :=
  ∀ b : StreamBuffer, (m.run b).2.rwErrorStatus = .ok →
    (m.run b).1 = retOk ∧ b.rwErrorStatus = .ok ∧
      ∀ front, b.Holds front → (m.run b).2.Holds (front ++ bs)

/-- If `m` returns `RET_OK`, it ends without an error. -/
def Checked (m : PacketM Int) : Prop :=
  ∀ b : StreamBuffer, (m.run b).1 = retOk → (m.run b).2.rwErrorStatus = .ok

/-- `if (pkt.ChkRWError()) return RET_ERR; return RET_OK;` -/
def checkRWError : PacketM Int := do
  if (← rwError) then pure retErr else pure retOk

theorem run_checkRWError (b : StreamBuffer) :
    checkRWError.run b = (if b.chkRWError then retErr else retOk, b) := by
  rw [checkRWError, PacketM.run_bind, run_rwError]
  cases b.chkRWError <;> rfl

theorem Reports.pure : Reports (pure retOk) [] := by
  intro b hok
  exact ⟨rfl, Appends.pure retOk b hok⟩

theorem Reports.check : Reports checkRWError [] := by
  intro b hok
  rw [run_checkRWError] at hok ⊢
  rw [(StreamBuffer.chkRWError_eq_false_iff b).mpr hok]
  refine ⟨rfl, hok, fun front hb => ?_⟩
  rw [List.append_nil]
  exact hb

theorem Appends.bindReports {m : PacketM α} {f : α → PacketM Int} {bs bs' : List UInt8}
    (hm : Appends m bs) (hf : ∀ a, Reports (f a) bs') : Reports (m >>= f) (bs ++ bs') := by
  intro b hok
  rw [PacketM.run_bind] at hok ⊢
  obtain ⟨hret, hmid, hrest⟩ := hf _ _ hok
  obtain ⟨hstart, hfront⟩ := hm b hmid
  refine ⟨hret, hstart, fun front hb => ?_⟩
  rw [← List.append_assoc]
  exact hrest _ (hfront front hb)

/-- A call whose failure is passed on. -/
theorem Reports.bind {m k : PacketM Int} {bs bs' : List UInt8} (hm : Reports m bs)
    (hk : Reports k bs') :
    Reports (do if (← m) ≠ retOk then Pure.pure retErr else k) (bs ++ bs') := by
  intro b hok
  rw [PacketM.run_bind] at hok ⊢
  by_cases hcall : (m.run b).1 = retOk
  · rw [if_neg (not_not_intro hcall)] at hok ⊢
    obtain ⟨hret, hmid, hrest⟩ := hk _ hok
    obtain ⟨-, hstart, hfront⟩ := hm b hmid
    refine ⟨hret, hstart, fun front hb => ?_⟩
    rw [← List.append_assoc]
    exact hrest _ (hfront front hb)
  · rw [if_pos hcall] at hok
    exact absurd (hm b hok).1 hcall

theorem Checked.retErr : Checked (pure retErr) := by
  intro _ hret
  cases hret

theorem Checked.check : Checked checkRWError := by
  intro b hret
  rw [run_checkRWError] at hret ⊢
  cases hchk : b.chkRWError with
  | true =>
    rw [hchk] at hret
    cases hret
  | false => exact (StreamBuffer.chkRWError_eq_false_iff b).mp hchk

theorem Checked.bind {m : PacketM α} {f : α → PacketM Int} (hf : ∀ a, Checked (f a)) :
    Checked (m >>= f) :=
  fun _ hret => hf _ _ hret

theorem Checked.ite {c : Prop} [Decidable c] {m k : PacketM Int} (hm : Checked m)
    (hk : Checked k) : Checked (if c then m else k) := by
  split
  · exact hm
  · exact hk

/-! ## Reading back -/

/-- On a buffer that starts with `bs`, `m` returns `v` and leaves the rest. -/
def Reads (m : PacketM α) (bs : List UInt8) (v : α) : Prop :=
  ∀ (b : StreamBuffer) (rest : List UInt8), b.Holds (bs ++ rest) →
    (m.run b).1 = v ∧ (m.run b).2.Holds rest

theorem Reads.pure (v : α) : Reads (pure v) [] v :=
  fun _ _ hb => ⟨rfl, hb⟩

theorem Reads.pull [ByteImage α] (old v : α) : Reads (pull old) (toBytes v) v := by
  intro b rest hb
  obtain ⟨heq, hrest⟩ := hb.extract old
  rw [run_pull, heq]
  exact ⟨rfl, hrest⟩

theorem Reads.bind {m : PacketM α} {f : α → PacketM β} {bs bs' : List UInt8} {v : α} {w : β}
    (hm : Reads m bs v) (hf : Reads (f v) bs' w) : Reads (m >>= f) (bs ++ bs') w := by
  intro b rest hb
  rw [List.append_assoc] at hb
  obtain ⟨hv, hmid⟩ := hm b _ hb
  rw [PacketM.run_bind, hv]
  exact hf _ rest hmid

theorem Reads.rwError : Reads rwError [] false :=
  fun b _ hb => ⟨(StreamBuffer.chkRWError_eq_false_iff b).mpr hb.ok, hb⟩

/-! ## Reading any content -/

/-- `n` more bytes can be read without an error. -/
def Has (b : StreamBuffer) (n : Nat) : Prop := b.rwErrorStatus = .ok ∧ b.rPos + n ≤ b.wPos

/-- `m` takes `n` bytes if they are there and leaves an error if not. -/
def Consumes (m : PacketM α) (n : Nat) : Prop :=
  ∀ b : StreamBuffer, (Has b n ∧ (m.run b).2 = b.advance n) ∨
    (¬ Has b n ∧ (m.run b).2.rwErrorStatus ≠ .ok)

theorem Has.advance {b : StreamBuffer} {n k : Nat} (h : Has b n) :
    Has (b.advance n) k ↔ Has b (n + k) := by
  have hok := h.1
  simp only [Has, StreamBuffer.advance_rwErrorStatus, StreamBuffer.advance_rPos,
    StreamBuffer.advance_wPos, hok, true_and]
  omega

theorem Has.mono {b : StreamBuffer} {n k : Nat} (h : Has b k) (hle : n ≤ k) : Has b n :=
  ⟨h.1, Nat.le_trans (Nat.add_le_add_left hle _) h.2⟩

theorem Has.chkRWError {b : StreamBuffer} {n : Nat} (h : Has b n) : b.chkRWError = false :=
  (StreamBuffer.chkRWError_eq_false_iff b).mpr h.1

@[simp] theorem advance_chkRWError (b : StreamBuffer) (n : Nat) :
    (b.advance n).chkRWError = b.chkRWError := rfl

theorem Consumes.pull [ByteImage α] (old : α) : Consumes (pull old) (byteSize α) := by
  intro b
  have hpos : 0 < byteSize α := byteSize_pos
  rw [run_pull, StreamBuffer.extract_snd]
  rcases StreamBuffer.readBytes_cases b (byteSize α) with ⟨hok, _, hfit, heq⟩ | ⟨hbad, e, he, heq⟩
  · rw [heq]
    exact .inl ⟨⟨hok, hfit⟩, rfl⟩
  · rw [heq]
    refine .inr ⟨fun hhas => ?_, he⟩
    obtain ⟨hok, hfit⟩ := hhas
    rcases hbad with h | h | h
    · exact h hok
    · omega
    · omega

theorem Consumes.bind {m : PacketM α} {f : α → PacketM β} {n k : Nat}
    (hm : Consumes m n) (hf : ∀ a, Consumes (f a) k) : Consumes (m >>= f) (n + k) := by
  intro b
  rw [PacketM.run_bind]
  rcases hm b with ⟨hn, heq⟩ | ⟨hn, hbroken⟩
  · rw [heq]
    rcases hf (m.run b).1 (b.advance n) with ⟨hk, heq'⟩ | ⟨hk, hbroken⟩
    · refine .inl ⟨hn.advance.mp hk, ?_⟩
      rw [heq', StreamBuffer.advance_advance]
    · exact .inr ⟨fun h => hk (hn.advance.mpr h), hbroken⟩
  · -- No read clears an error.
    refine .inr ⟨fun h => hn (h.mono (Nat.le_add_right n k)), ?_⟩
    rcases hf (m.run b).1 (m.run b).2 with ⟨hk, _⟩ | ⟨_, hbroken'⟩
    · exact absurd hk.1 hbroken
    · exact hbroken'

/-- What follows the last read of a program. -/
theorem Consumes.map {m : PacketM α} {n : Nat} (hm : Consumes m n) (f : α → β) :
    Consumes (m >>= fun a => Pure.pure (f a)) n :=
  hm

/-- The value read when the bytes are there. -/
theorem extract_of_has [ByteImage α] {b : StreamBuffer} (h : Has b (byteSize α)) (old : α) :
    b.extract old = (ofBytes (b.unread.take (byteSize α)), b.advance (byteSize α)) := by
  rw [StreamBuffer.extract, StreamBuffer.readFixed,
    StreamBuffer.readBytes_of_le h.1 byteSize_pos h.2]
  rfl

end FtMmi.Network
