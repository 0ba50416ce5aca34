/-
FtMmi.Network.PacketFields — `pkt << a` and `pkt >> a` at the types with a
length of their own, strings and vectors, among the programs over a packet.

A vector of more than 2^31 - 1 elements is not written, and no error is
left; `Countable` excludes it. What else the reader does not give back is
excluded by `Plain`.
-/
import FtMmi.Network.PacketM
import FtMmi.Network.TypedStream

namespace FtMmi.Network

open FtMmi.Lib
open StreamBuffer (Holds)

/-- `pkt << v` -/
def pushField (t : FieldType) (v : t.Val) : PacketM Unit :=
  fun b => ((), (StreamBuffer.write t v b).2)

/-- `pkt >> v` into a new variable. -/
def pullField (t : FieldType) : PacketM t.Val :=
  fun b => (StreamBuffer.read t t.fresh b).2

@[simp] theorem run_pushField (t : FieldType) (v : t.Val) (b : StreamBuffer) :
    (pushField t v).run b = ((), (StreamBuffer.write t v b).2) := rfl

@[simp] theorem run_pullField (t : FieldType) (b : StreamBuffer) :
    (pullField t).run b = (StreamBuffer.read t t.fresh b).2 := rfl

/-- The vectors in a value have counts of 32 bits. -/
def Countable : (t : FieldType) → t.Val → Prop
  | @FieldType.fixed _ _, _ => True
  | .string, _ => True
  | .vector t, data => data.length ≤ int32Max ∧ ∀ v ∈ data, Countable t v

namespace StreamBuffer

theorem write_true_ok : ∀ (t : FieldType) (v : t.Val) {b : StreamBuffer},
    (write t v b).1 = true → b.rwErrorStatus = .ok
  | @FieldType.fixed _ _, _, _, h => writeBytes_true_ok h
  | .string, _, _, h => writeBytes_true_ok h
  | .vector t, data, b, h => by
      unfold write at h
      split at h
      · cases h
      · dsimp only at h
        split at h
        · rename_i hsize
          exact writeBytes_true_ok hsize
        · cases h

/-- An element loop that leaves no error has written all elements. -/
theorem writeLoop_true {α : Type} {write : StreamBuffer → α → Bool × StreamBuffer}
    {ok : α → Prop}
    (hwrite : ∀ v b, ok v → (write b v).2.rwErrorStatus = .ok → (write b v).1 = true)
    (vs : List α) (b : StreamBuffer) (hok : ∀ v ∈ vs, ok v)
    (h : (writeLoop write vs b).2.rwErrorStatus = .ok) : (writeLoop write vs b).1 = true := by
  induction vs generalizing b with
  | nil => rfl
  | cons v vs ih =>
    obtain ⟨hv, hvs⟩ := List.forall_mem_cons.mp hok
    unfold writeLoop at h ⊢
    cases hfirst : (write b v).1 with
    | true =>
      simp only [hfirst, if_true] at h ⊢
      exact ih _ hvs h
    | false =>
      simp only [hfirst, Bool.false_eq_true, if_false] at h
      rw [hwrite v b hv h] at hfirst
      cases hfirst

/-- A write that leaves no error has written. -/
theorem write_true : ∀ (t : FieldType) (v : t.Val) (b : StreamBuffer), Countable t v →
    (write t v b).2.rwErrorStatus = .ok → (write t v b).1 = true
  | @FieldType.fixed _ _, _, b, _, h => (writeBytes_ok_iff b _).mp h
  | .string, _, b, _, h => (writeBytes_ok_iff b _).mp h
  | .vector t, data, b, hdata, h => by
      have hcount : ¬ int32Max < data.length := Nat.not_lt.mpr hdata.1
      unfold write at h ⊢
      simp only [if_neg hcount] at h ⊢
      cases hsize : (b.writeFixed (Int32.ofNat data.length)).1 with
      | true =>
        simp only [hsize, if_true] at h ⊢
        exact writeLoop_true (fun v b => write_true t v b) data _ hdata.2 h
      | false =>
        simp only [hsize, Bool.false_eq_true, if_false] at h
        rw [writeFixed, (writeBytes_ok_iff b _).mp h] at hsize
        cases hsize

end StreamBuffer

theorem Appends.pushField {t : FieldType} {v : t.Val} (hv : Countable t v) :
    Appends (pushField t v) (wire t v) := by
  intro b hok
  rw [run_pushField] at hok ⊢
  have hw := StreamBuffer.write_true t v b hv hok
  exact ⟨StreamBuffer.write_true_ok t v hw, fun front hb => hb.of_write t v hw⟩

theorem Reads.pullField {t : FieldType} {v : t.Val} (hv : Plain t v) :
    Reads (pullField t) (wire t v) v := by
  intro b rest hb
  obtain ⟨b', heq, hb'⟩ := Holds.read t v hv hb
  rw [run_pullField, heq]
  exact ⟨rfl, hb'⟩

/-- A loop of writes of good values. -/
theorem appends_forM_mem {α : Type} {m : α → PacketM Unit} {image : α → List UInt8} (as : List α)
    (hm : ∀ a ∈ as, Appends (m a) (image a)) : Appends (forM as m) (as.flatMap image) := by
  induction as with
  | nil => exact Appends.pure ()
  | cons a as ih =>
    obtain ⟨ha, hrest⟩ := List.forall_mem_cons.mp hm
    rw [List.forM_cons, List.flatMap_cons]
    exact ha.bind fun _ => ih hrest

/-! ## Control flow -/

/-- What is returned for the value read last. -/
theorem Reads.map {α β : Type} {m : PacketM α} {bs : List UInt8} {v : α} (hm : Reads m bs v)
    (f : α → β) : Reads (m >>= fun a => Pure.pure (f a)) bs (f v) := by
  intro b rest hb
  obtain ⟨hv, hrest⟩ := hm b rest hb
  rw [PacketM.run_bind, hv]
  exact ⟨rfl, hrest⟩

/-- `if (pkt.ChkRWError())` on a buffer in good standing. -/
theorem Reads.unlessError {α : Type} {m k : PacketM α} {bs : List UInt8} {v : α}
    (hk : Reads k bs v) : Reads (do if (← Network.rwError) then m else k) bs v := by
  intro b rest hb
  rw [PacketM.run_bind, run_rwError, (StreamBuffer.chkRWError_eq_false_iff b).mpr hb.ok]
  exact hk b rest hb

theorem Reports.unlessError {k : PacketM Int} {bs : List UInt8} (hk : Reports k bs) :
    Reports (do if (← rwError) then Pure.pure retErr else k) bs := by
  intro b hok
  rw [PacketM.run_bind, run_rwError] at hok ⊢
  cases hchk : b.chkRWError with
  | true =>
    simp only [hchk, if_true] at hok
    exact absurd hok ((StreamBuffer.chkRWError_eq_true_iff b).mp hchk)
  | false =>
    simp only [hchk, Bool.false_eq_true, if_false] at hok ⊢
    exact hk b hok

/-- A call whose `RET_ERR` is passed on. -/
theorem Reports.bindErr {m k : PacketM Int} {bs bs' : List UInt8} (hm : Reports m bs)
    (hk : Reports k bs') :
    Reports (do if (← m) = retErr then Pure.pure retErr else k) (bs ++ bs') := by
  intro b hok
  rw [PacketM.run_bind] at hok ⊢
  by_cases hcall : (m.run b).1 = retErr
  · rw [if_pos hcall] at hok
    rw [(hm b hok).1] at hcall
    cases hcall
  · rw [if_neg hcall] at hok ⊢
    obtain ⟨hret, hmid, hrest⟩ := hk _ hok
    obtain ⟨-, hstart, hfront⟩ := hm b hmid
    refine ⟨hret, hstart, fun front hb => ?_⟩
    rw [← List.append_assoc]
    exact hrest _ (hfront front hb)

/-- What a function with a result writes. -/
theorem Reports.appends {m : PacketM Int} {bs : List UInt8} (h : Reports m bs) : Appends m bs :=
  fun b hok => (h b hok).2

/-- A call whose failure ends the program. -/
theorem Reports.bindAppends {m k : PacketM Int} {bs bs' : List UInt8} (hm : Reports m bs)
    (hk : Appends k bs') :
    Appends (do if (← m) ≠ retOk then Pure.pure retErr else k) (bs ++ bs') := by
  intro b hok
  rw [PacketM.run_bind] at hok ⊢
  by_cases hcall : (m.run b).1 = retOk
  · rw [if_neg (not_not_intro hcall)] at hok ⊢
    exact (Appends.bind hm.appends fun _ => hk) b hok
  · rw [if_pos hcall] at hok
    exact absurd (hm b hok).1 hcall

/-- If `m` ends with an error, it returns `RET_ERR`. -/
def Refuses (m : PacketM Int) : Prop :=
  ∀ b : StreamBuffer, (m.run b).2.rwErrorStatus ≠ .ok → (m.run b).1 = retErr

theorem Refuses.retErr : Refuses (Pure.pure retErr) :=
  fun _ _ => rfl

theorem Refuses.check : Refuses checkRWError := by
  intro b hbroken
  rw [run_checkRWError] at hbroken ⊢
  rw [(StreamBuffer.chkRWError_eq_true_iff b).mpr hbroken]
  rfl

theorem Refuses.bind {α : Type} {m : PacketM α} {f : α → PacketM Int} (hf : ∀ a, Refuses (f a)) :
    Refuses (m >>= f) :=
  fun _ hbroken => hf _ _ hbroken

theorem Refuses.ite {c : Prop} [Decidable c] {m k : PacketM Int} (hm : Refuses m)
    (hk : Refuses k) : Refuses (if c then m else k) := by
  split
  · exact hm
  · exact hk

/-! ## What fits -/

/-- `n` bytes were written without an error. -/
structure Took (b b' : StreamBuffer) (n : Nat) : Prop where
  ok : b'.rwErrorStatus = .ok
  wPos : b'.wPos = b.wPos + n
  rPos : b'.rPos = b.rPos

theorem Took.trans {b b' b'' : StreamBuffer} {n k : Nat} (h : Took b b' n) (h' : Took b' b'' k) :
    Took b b'' (n + k) where
  ok := h'.ok
  wPos := by rw [h'.wPos, h.wPos, Nat.add_assoc]
  rPos := h'.rPos.trans h.rPos

/-- With room for `bs`, `m` writes that much and leaves no error. -/
def Fits {α : Type} (m : PacketM α) (bs : List UInt8) : Prop :=
  ∀ b : StreamBuffer, b.rwErrorStatus = .ok → b.wPos + bs.length ≤ maxStreamBufSize →
    Took b (m.run b).2 bs.length

namespace StreamBuffer

theorem writeBytes_fits {b : StreamBuffer} {data : List UInt8} (hok : b.rwErrorStatus = .ok)
    (hne : data ≠ []) (hfit : b.wPos + data.length ≤ maxStreamBufSize) :
    (b.writeBytes data).1 = true ∧ Took b (b.writeBytes data).2 data.length := by
  rw [writeBytes_of_fits hok hne hfit]
  exact ⟨rfl, hok, rfl, rfl⟩

theorem writeLoop_fits {α : Type} {write : StreamBuffer → α → Bool × StreamBuffer}
    {image : α → List UInt8} {ok : α → Prop}
    (hwrite : ∀ v b, ok v → b.rwErrorStatus = .ok →
      b.wPos + (image v).length ≤ maxStreamBufSize →
      (write b v).1 = true ∧ Took b (write b v).2 (image v).length)
    (vs : List α) (b : StreamBuffer) (hvs : ∀ v ∈ vs, ok v) (hok : b.rwErrorStatus = .ok)
    (hfit : b.wPos + (vs.flatMap image).length ≤ maxStreamBufSize) :
    (writeLoop write vs b).1 = true ∧
      Took b (writeLoop write vs b).2 (vs.flatMap image).length := by
  induction vs generalizing b with
  | nil => exact ⟨rfl, hok, rfl, rfl⟩
  | cons v vs ih =>
    obtain ⟨hv, hrest⟩ := List.forall_mem_cons.mp hvs
    rw [List.flatMap_cons, List.length_append] at hfit ⊢
    obtain ⟨htrue, hfirst⟩ := hwrite v b hv hok (by omega)
    obtain ⟨hloop, htook⟩ := ih (write b v).2 hrest hfirst.ok (by rw [hfirst.wPos]; omega)
    unfold writeLoop
    simp only [htrue, if_true]
    exact ⟨hloop, hfirst.trans htook⟩

theorem write_fits : ∀ (t : FieldType) (v : t.Val) (b : StreamBuffer), Countable t v →
    b.rwErrorStatus = .ok → b.wPos + (wire t v).length ≤ maxStreamBufSize →
    (write t v b).1 = true ∧ Took b (write t v b).2 (wire t v).length
  | @FieldType.fixed _ _, v, _, _, hok, hfit => writeBytes_fits hok (toBytes_ne_nil v) hfit
  | .string, s, _, _, hok, hfit => writeBytes_fits hok (by simp) hfit
  | .vector t, data, b, hdata, hok, hfit => by
      have hcount : ¬ int32Max < data.length := Nat.not_lt.mpr hdata.1
      have hlen : (wire (.vector t) data).length = (toBytes (Int32.ofNat data.length)).length
          + (data.flatMap (wire t)).length := List.length_append
      rw [hlen] at hfit ⊢
      obtain ⟨hsize, htook⟩ := writeBytes_fits (b := b) hok
        (toBytes_ne_nil (Int32.ofNat data.length)) (by omega)
      obtain ⟨hloop, htookLoop⟩ := writeLoop_fits (fun v b hv => write_fits t v b hv) data _
        hdata.2 htook.ok (by rw [htook.wPos]; omega)
      unfold write
      simp only [if_neg hcount, writeFixed, hsize, if_true]
      exact ⟨hloop, htook.trans htookLoop⟩

end StreamBuffer

theorem Fits.push {α : Type} [ByteImage α] (a : α) : Fits (push a) (toBytes a) := by
  intro b hok hfit
  rw [run_push, StreamBuffer.insert_eq]
  exact (StreamBuffer.writeBytes_fits hok (toBytes_ne_nil a) hfit).2

theorem Fits.pushField {t : FieldType} {v : t.Val} (hv : Countable t v) :
    Fits (pushField t v) (wire t v) :=
  fun b hok hfit => (StreamBuffer.write_fits t v b hv hok hfit).2

theorem Fits.pure {α : Type} (a : α) : Fits (pure a) [] :=
  fun _ hok _ => ⟨hok, rfl, rfl⟩

theorem Fits.bind {α β : Type} {m : PacketM α} {f : α → PacketM β} {bs bs' : List UInt8}
    (hm : Fits m bs) (hf : ∀ a, Fits (f a) bs') : Fits (m >>= f) (bs ++ bs') := by
  intro b hok hfit
  rw [List.length_append] at hfit ⊢
  have hfirst := hm b hok (by omega)
  rw [PacketM.run_bind]
  exact hfirst.trans (hf (m.run b).1 (m.run b).2 hfirst.ok (by rw [hfirst.wPos]; omega))

theorem Fits.check : Fits checkRWError [] := by
  intro b hok _
  rw [run_checkRWError]
  exact ⟨hok, rfl, rfl⟩

theorem Fits.unlessError {m k : PacketM Int} {bs : List UInt8} (hk : Fits k bs) :
    Fits (do if (← rwError) then m else k) bs := by
  intro b hok hfit
  rw [PacketM.run_bind, run_rwError, (StreamBuffer.chkRWError_eq_false_iff b).mpr hok]
  exact hk b hok hfit

theorem Fits.bindErr {m k : PacketM Int} {bs bs' : List UInt8} (hm : Fits m bs)
    (hret : Reports m bs) (hk : Fits k bs') :
    Fits (do if (← m) = retErr then Pure.pure retErr else k) (bs ++ bs') := by
  intro b hok hfit
  rw [List.length_append] at hfit ⊢
  have hfirst := hm b hok (by omega)
  rw [PacketM.run_bind, (hret b hfirst.ok).1]
  exact hfirst.trans (hk (m.run b).2 hfirst.ok (by rw [hfirst.wPos]; omega))

theorem Fits.bindOk {m k : PacketM Int} {bs bs' : List UInt8} (hm : Fits m bs) (hret : Reports m bs)
    (hk : Fits k bs') :
    Fits (do if (← m) ≠ retOk then Pure.pure retErr else k) (bs ++ bs') := by
  intro b hok hfit
  rw [List.length_append] at hfit ⊢
  have hfirst := hm b hok (by omega)
  rw [PacketM.run_bind, if_neg (not_not_intro (hret b hfirst.ok).1)]
  exact hfirst.trans (hk (m.run b).2 hfirst.ok (by rw [hfirst.wPos]; omega))

theorem fits_forM_mem {α : Type} {m : α → PacketM Unit} {image : α → List UInt8} (as : List α)
    (hm : ∀ a ∈ as, Fits (m a) (image a)) : Fits (forM as m) (as.flatMap image) := by
  induction as with
  | nil => exact Fits.pure ()
  | cons a as ih =>
    obtain ⟨ha, hrest⟩ := List.forall_mem_cons.mp hm
    rw [List.forM_cons, List.flatMap_cons]
    exact ha.bind fun _ => ih hrest

end FtMmi.Network
