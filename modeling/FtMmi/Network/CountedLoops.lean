/-
FtMmi.Network.CountedLoops — loops over a count that was read from the
packet.

`runLoop` is such a loop with a record of it: how many bytes could be read
when it began, the count, and how many iterations ran through to their
end. A body that looks at the error status makes its function return and
does not run through; a body that does not look goes on with whatever its
variables hold.

`Remaining` is what decides all this, as seen from the content: the bytes
left to read, or `none` once a read has failed and no later one can
succeed.
-/
import FtMmi.Network.PacketM

namespace FtMmi.Network

open FtMmi.Lib

/-! ## Loops with a record -/

structure LoopRun where
  elementSize : Nat
  /-- The bytes that could be read when the loop began. -/
  left : Nat
  count : Nat
  /-- The iterations that ran through. -/
  iterations : Nat
  deriving DecidableEq, Repr

/-- No more iterations ran through than there were elements to read. -/
def LoopRun.Bounded (run : LoopRun) : Prop := run.iterations * run.elementSize ≤ run.left

instance (run : LoopRun) : Decidable run.Bounded := by
  unfold LoopRun.Bounded
  infer_instance

/-- `while (n-- > 0)`: the iterations that ran through, whether the function
goes on behind the loop, and the variables. -/
def countedLoop {σ : Type} (body : σ → PacketM (Bool × σ)) : Nat → σ → PacketM (Nat × Bool × σ)
  | 0, s => pure (0, true, s)
  | n + 1, s => do
      let r ← body s
      if r.1 then
        let rest ← countedLoop body n r.2
        pure (rest.1 + 1, rest.2)
      else pure (0, false, r.2)

/-- The bytes that can be read: none after a failed read. -/
def readable : PacketM Nat := fun b => (if b.chkRWError then 0 else b.unreadSize, b)

def runLoop {σ : Type} (elementSize : Nat) (body : σ → PacketM (Bool × σ)) (n : Nat) (s : σ) :
    PacketM (LoopRun × Bool × σ) := do
  let left ← readable
  let r ← countedLoop body n s
  pure (⟨elementSize, left, n, r.1⟩, r.2)

/-! ## What is left of the content -/

/-- The bytes left to read, unless a read has failed. -/
abbrev Remaining := Option (List UInt8)

def Remaining.size : Remaining → Nat
  | some bs => bs.length
  | none => 0

/-- Read `n` bytes. -/
def Remaining.skip (n : Nat) : Remaining → Remaining
  | some bs => if n ≤ bs.length then some (bs.drop n) else none
  | none => none

/-- Read a count into a variable with an old value. -/
def Remaining.count (junk : UInt64) : Remaining → UInt64 × Remaining
  | some bs =>
      if byteSize UInt64 ≤ bs.length then
        (ofBytes (bs.take (byteSize UInt64)), some (bs.drop (byteSize UInt64)))
      else (junk, none)
  | none => (junk, none)

/-- What is left in a buffer. -/
def StreamBuffer.Leaves (b : StreamBuffer) : Remaining → Prop
  | some bs => b.Holds bs
  | none => b.rwErrorStatus ≠ .ok

/-- `m` reads `n` bytes, if they are there. -/
def Skips {α : Type} (m : PacketM α) (n : Nat) : Prop :=
  ∀ (b : StreamBuffer) (left : Remaining), b.Leaves left → (m.run b).2.Leaves (left.skip n)

theorem Remaining.skip_zero (left : Remaining) : left.skip 0 = left := by
  cases left with
  | none => rfl
  | some bs => simp [Remaining.skip]

theorem Remaining.skip_skip (left : Remaining) (n k : Nat) :
    (left.skip n).skip k = left.skip (n + k) := by
  cases left with
  | none => rfl
  | some bs =>
    by_cases hn : n ≤ bs.length
    · simp only [Remaining.skip, if_pos hn, List.length_drop, List.drop_drop]
      by_cases hk : k ≤ bs.length - n
      · rw [if_pos hk, if_pos (by omega)]
      · rw [if_neg hk, if_neg (by omega)]
    · simp only [Remaining.skip, if_neg hn, if_neg (show ¬ n + k ≤ bs.length by omega)]

theorem Remaining.skip_size_le (left : Remaining) (n : Nat) : (left.skip n).size ≤ left.size := by
  cases left with
  | none => exact Nat.le_refl 0
  | some bs =>
    by_cases hn : n ≤ bs.length
    · simp only [Remaining.skip, if_pos hn, Remaining.size, List.length_drop]
      omega
    · simp only [Remaining.skip, if_neg hn]
      exact Nat.zero_le _

theorem Remaining.count_size_le (left : Remaining) (junk : UInt64) :
    (left.count junk).2.size ≤ left.size := by
  cases left with
  | none => exact Nat.le_refl 0
  | some bs =>
    by_cases hn : byteSize UInt64 ≤ bs.length
    · simp only [Remaining.count, if_pos hn, Remaining.size, List.length_drop]
      omega
    · simp only [Remaining.count, if_neg hn]
      exact Nat.zero_le _

/-- Bytes that were read were there. -/
theorem Remaining.le_size_of_skip {left : Remaining} {n : Nat} {bs : List UInt8}
    (h : left.skip n = some bs) : n ≤ left.size := by
  cases left with
  | none => cases h
  | some bs' =>
    by_contra hn
    have hn' : ¬ n ≤ bs'.length := hn
    rw [Remaining.skip, if_neg hn'] at h
    cases h

/-- Nothing is read any more once a read has failed. -/
theorem Remaining.some_of_skip {left : Remaining} {n : Nat} {bs : List UInt8}
    (h : left.skip n = some bs) : ∃ bs', left = some bs' := by
  cases left with
  | none => cases h
  | some bs' => exact ⟨bs', rfl⟩

theorem Remaining.some_of_count {left : Remaining} {junk : UInt64} {bs : List UInt8}
    (h : (left.count junk).2 = some bs) : ∃ bs', left = some bs' := by
  cases left with
  | none => cases h
  | some bs' => exact ⟨bs', rfl⟩

theorem StreamBuffer.Leaves.some_of_ok {b : StreamBuffer} {left : Remaining} (h : b.Leaves left)
    (hok : b.rwErrorStatus = .ok) : ∃ bs, left = some bs := by
  cases left with
  | none => exact absurd hok h
  | some bs => exact ⟨bs, rfl⟩

theorem StreamBuffer.Leaves.has_iff {b : StreamBuffer} {left : Remaining} (h : b.Leaves left)
    {n : Nat} (hn : 0 < n) : Has b n ↔ n ≤ left.size := by
  cases left with
  | none =>
    have herr : b.rwErrorStatus ≠ .ok := h
    simp only [Remaining.size]
    exact ⟨fun hhas => absurd hhas.1 herr, fun hle => by omega⟩
  | some bs =>
    have hb : b.Holds bs := h
    have hlen : bs.length = b.wPos - b.rPos := by rw [← hb.eq, unread_length]
    have hle := hb.le
    simp only [Has, hb.ok, true_and, Remaining.size]
    omega

theorem StreamBuffer.Leaves.readable {b : StreamBuffer} {left : Remaining} (h : b.Leaves left) :
    Network.readable.run b = (left.size, b) := by
  cases left with
  | none =>
    have herr : b.chkRWError = true := (chkRWError_eq_true_iff b).mpr h
    show (if b.chkRWError then 0 else b.unreadSize, b) = _
    rw [if_pos herr]
    rfl
  | some bs =>
    have hb : b.Holds bs := h
    have hok : ¬ b.chkRWError = true := by rw [(chkRWError_eq_false_iff b).mpr hb.ok]; decide
    show (if b.chkRWError then 0 else b.unreadSize, b) = _
    rw [if_neg hok, unreadSize_eq, hb.eq]
    rfl

/-! ## Programs and what they leave -/

theorem Skips.pure {α : Type} (a : α) : Skips (pure a) 0 := by
  intro b left h
  rw [Remaining.skip_zero]
  exact h

theorem Skips.bind {α β : Type} {m : PacketM α} {f : α → PacketM β} {n k : Nat}
    (hm : Skips m n) (hf : ∀ a, Skips (f a) k) : Skips (m >>= f) (n + k) := by
  intro b left h
  rw [PacketM.run_bind, ← Remaining.skip_skip]
  exact hf _ _ _ (hm b left h)

theorem Consumes.skips {α : Type} {m : PacketM α} {n : Nat} (hm : Consumes m n) : Skips m n := by
  intro b left h
  cases left with
  | none =>
    rcases hm b with ⟨hhas, _⟩ | ⟨_, herr⟩
    · exact absurd hhas.1 h
    · exact herr
  | some bs =>
    have hb : b.Holds bs := h
    have hlen : bs.length = b.wPos - b.rPos := by rw [← hb.eq, StreamBuffer.unread_length]
    have hle := hb.le
    rcases hm b with ⟨hhas, heq⟩ | ⟨hhas, herr⟩
    · have hfit : n ≤ bs.length := by have hn := hhas.2; omega
      have hsplit : b.Holds (bs.take n ++ bs.drop n) := by rwa [List.take_append_drop]
      have hadvance := hsplit.advance
      rw [List.length_take, Nat.min_eq_left hfit] at hadvance
      rw [heq, Remaining.skip, if_pos hfit]
      exact hadvance
    · have hshort : ¬ n ≤ bs.length := fun hn => hhas ⟨hb.ok, by omega⟩
      rw [Remaining.skip, if_neg hshort]
      exact herr

/-- Reading a count. -/
theorem pull_count (junk : UInt64) {b : StreamBuffer} {left : Remaining} (h : b.Leaves left) :
    ((pull junk).run b).1 = (left.count junk).1 ∧
      ((pull junk).run b).2.Leaves (left.count junk).2 := by
  have hpos : 0 < byteSize UInt64 := byteSize_pos
  have hskip := (Consumes.pull junk).skips b left h
  have hcount : (left.count junk).2 = left.skip (byteSize UInt64) := by
    cases left with
    | none => rfl
    | some bs => simp only [Remaining.count, Remaining.skip]; split <;> rfl
  refine ⟨?_, hcount ▸ hskip⟩
  rw [run_pull]
  by_cases hhas : Has b (byteSize UInt64)
  · rw [extract_of_has hhas]
    have hfit := (h.has_iff hpos).mp hhas
    cases left with
    | none => exact absurd hhas.1 h
    | some bs =>
      have hb : b.Holds bs := h
      have hfit' : byteSize UInt64 ≤ bs.length := hfit
      simp only [Remaining.count, if_pos hfit', hb.eq]
  · have hold : (b.extract junk).1 = junk := by
      rcases StreamBuffer.readBytes_cases b (byteSize UInt64) with
        ⟨hok, _, hfit, _⟩ | ⟨_, e, _, heq⟩
      · exact absurd ⟨hok, hfit⟩ hhas
      · simp [StreamBuffer.extract, StreamBuffer.readFixed, heq]
    rw [hold]
    cases left with
    | none => rfl
    | some bs =>
      have hshort : ¬ byteSize UInt64 ≤ bs.length := fun hn => hhas ((h.has_iff hpos).mpr hn)
      simp only [Remaining.count, if_neg hshort]

/-! ## The two kinds of loops -/

variable {σ : Type} {body : σ → PacketM (Bool × σ)} {size : Nat}

/-- A body that does not look at the error status runs through as often as the
count says. -/
theorem countedLoop_unchecked (hbody : ∀ s, Skips (body s) size)
    (htrue : ∀ s b, ((body s).run b).1.1 = true) (n : Nat) :
    ∀ (s : σ) (b : StreamBuffer),
      ((countedLoop body n s).run b).1.1 = n ∧ ((countedLoop body n s).run b).1.2.1 = true ∧
      ∀ left, b.Leaves left → ((countedLoop body n s).run b).2.Leaves (left.skip (n * size)) := by
  induction n with
  | zero =>
    intro s b
    refine ⟨rfl, rfl, fun left h => ?_⟩
    rw [Nat.zero_mul, Remaining.skip_zero]
    exact h
  | succ n ih =>
    intro s b
    obtain ⟨hcount, hgo, hleft⟩ := ih ((body s).run b).1.2 ((body s).run b).2
    rw [countedLoop, PacketM.run_bind, if_pos (htrue s b), PacketM.run_bind]
    refine ⟨congrArg (· + 1) hcount, hgo, fun left h => ?_⟩
    rw [Nat.succ_mul, Nat.add_comm (n * size) size, ← Remaining.skip_skip]
    exact hleft _ (hbody s b left h)

/-- A body that returns when its read has failed runs through as often as there
are elements. -/
theorem countedLoop_checked (hsize : 0 < size) (hbody : ∀ s, Skips (body s) size)
    (hret : ∀ s b, ((body s).run b).1.1 = !((body s).run b).2.chkRWError) (n : Nat) :
    ∀ (s : σ) {b : StreamBuffer} {left : Remaining}, b.Leaves left →
      (n * size ≤ left.size → ((countedLoop body n s).run b).1.1 = n ∧
        ((countedLoop body n s).run b).1.2.1 = true ∧
        ((countedLoop body n s).run b).2.Leaves (left.skip (n * size))) ∧
      (¬ n * size ≤ left.size → ((countedLoop body n s).run b).1.1 * size ≤ left.size ∧
        ((countedLoop body n s).run b).1.2.1 = false ∧
        ((countedLoop body n s).run b).2.rwErrorStatus ≠ .ok) := by
  induction n with
  | zero =>
    intro s b left h
    rw [Nat.zero_mul, Remaining.skip_zero]
    exact ⟨fun _ => ⟨rfl, rfl, h⟩, fun hlt => absurd (Nat.zero_le _) hlt⟩
  | succ n ih =>
    intro s b left h
    have hnext := hbody s b left h
    have hle : (left.skip size).size = left.size - size ∨ left.size < size := by
      cases left with
      | none => exact .inr hsize
      | some bs =>
        by_cases hfit : size ≤ bs.length
        · simp [Remaining.skip, hfit, Remaining.size]
        · exact .inr (Nat.lt_of_not_le hfit)
    rw [countedLoop, PacketM.run_bind, Nat.succ_mul]
    by_cases hfit : size ≤ left.size
    · have hok : ((body s).run b).1.1 = true := by
        rw [hret]
        cases left with
        | none => exact absurd hfit (Nat.not_le.mpr hsize)
        | some bs =>
          have hfit' : size ≤ bs.length := hfit
          rw [Remaining.skip, if_pos hfit'] at hnext
          have hholds : ((body s).run b).2.Holds (bs.drop size) := hnext
          rw [(StreamBuffer.chkRWError_eq_false_iff _).mpr hholds.ok]
          rfl
      obtain ⟨hall, hsome⟩ := ih ((body s).run b).1.2 hnext
      have hrest : (left.skip size).size = left.size - size := by omega
      rw [if_pos hok, PacketM.run_bind, Nat.add_comm (n * size) size, ← Remaining.skip_skip]
      constructor
      · intro hn
        obtain ⟨hcount, hgo, hleft⟩ := hall (by omega)
        exact ⟨congrArg (· + 1) hcount, hgo, hleft⟩
      · intro hn
        obtain ⟨hcount, hstop, herr⟩ := hsome (by omega)
        refine ⟨?_, hstop, herr⟩
        show (_ + 1) * size ≤ left.size
        rw [Nat.succ_mul]
        omega
    · have herr : ((body s).run b).2.rwErrorStatus ≠ .ok := by
        cases left with
        | none => exact hnext
        | some bs =>
          have hshort : ¬ size ≤ bs.length := hfit
          rw [Remaining.skip, if_neg hshort] at hnext
          exact hnext
      have hstop : ¬ ((body s).run b).1.1 = true := by
        rw [hret, (StreamBuffer.chkRWError_eq_true_iff _).mpr herr]
        decide
      rw [if_neg hstop]
      refine ⟨fun hn => by omega, fun _ => ⟨?_, rfl, herr⟩⟩
      show 0 * size ≤ left.size
      omega

theorem runLoop_run (n : Nat) (s : σ) (b : StreamBuffer) :
    (runLoop size body n s).run b
      = ((⟨size, (readable.run b).1, n, ((countedLoop body n s).run b).1.1⟩,
          ((countedLoop body n s).run b).1.2), ((countedLoop body n s).run b).2) := rfl

/-- The record of a loop whose body does not look at the error status. -/
theorem runLoop_unchecked (hbody : ∀ s, Skips (body s) size)
    (htrue : ∀ s b, ((body s).run b).1.1 = true) (n : Nat) (s : σ) {b : StreamBuffer}
    {left : Remaining} (h : b.Leaves left) :
    ∃ b', (runLoop size body n s).run b
        = ((⟨size, left.size, n, n⟩, true, ((countedLoop body n s).run b).1.2.2), b') ∧
      b'.Leaves (left.skip (n * size)) := by
  obtain ⟨hcount, hgo, hleft⟩ := countedLoop_unchecked hbody htrue n s b
  refine ⟨((countedLoop body n s).run b).2, ?_, hleft left h⟩
  rw [runLoop_run, h.readable, hcount, ← hgo]

/-- The record of a loop whose body looks at it. -/
theorem runLoop_checked (hsize : 0 < size) (hbody : ∀ s, Skips (body s) size)
    (hret : ∀ s b, ((body s).run b).1.1 = !((body s).run b).2.chkRWError) (n : Nat) (s : σ)
    {b : StreamBuffer} {left : Remaining} (h : b.Leaves left) :
    (n * size ≤ left.size ∧ ∃ s' b', (runLoop size body n s).run b
        = ((⟨size, left.size, n, n⟩, true, s'), b') ∧ b'.Leaves (left.skip (n * size))) ∨
    (¬ n * size ≤ left.size ∧ ∃ k s' b', (runLoop size body n s).run b
        = ((⟨size, left.size, n, k⟩, false, s'), b') ∧ k * size ≤ left.size ∧
          b'.rwErrorStatus ≠ .ok) := by
  obtain ⟨hall, hsome⟩ := countedLoop_checked hsize hbody hret n s h
  rw [runLoop_run, h.readable]
  by_cases hfit : n * size ≤ left.size
  · obtain ⟨hcount, hgo, hleft⟩ := hall hfit
    exact .inl ⟨hfit, _, _, by rw [hcount, ← hgo], hleft⟩
  · obtain ⟨hcount, hstop, herr⟩ := hsome hfit
    exact .inr ⟨hfit, _, _, _, by rw [← hstop], hcount, herr⟩

end FtMmi.Network
