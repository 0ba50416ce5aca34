/-
FtMmi.Network.CircleQueue — the receive buffer as a bounded queue of
bytes, over whole runs.

`ByteQueue` is the queue with room for `MAX_STREAM_BUF_SIZE` bytes and one
flag. The buffer refuses a write of no bytes, and one whose size only fits
as an `int32_t`, with an error that stays until the next `Reset`, and it
takes nothing while it has an error. The flag stands for that error;
without such a write it is never set.

`Refines` ties the two after every step (`perform_refines`), so after
every run (`run_refines`).
-/
import FtMmi.Lib.BoundedQueue
import FtMmi.Lib.StepSystem
import FtMmi.Network.CircleStreamBuffer

namespace FtMmi.Network.CircleStreamBuffer

open FtMmi.Lib
open FtMmi.Network.StreamBuffer

/-! ## The operations -/

inductive CircleOp where
  | write (data : List UInt8)
  | seekReadPos (n : Nat)
  | reset
  deriving DecidableEq, Repr

def perform (b : StreamBuffer) : CircleOp → StreamBuffer
  | .write data => (write b data).2
  | .seekReadPos n => (b.seekReadPos n).2
  | .reset => b.reset

/-! ## The queue -/

structure ByteQueue where
  queue : BoundedQueue UInt8 maxStreamBufSize
  /-- There is an error. -/
  failed : Bool

namespace ByteQueue

def create : ByteQueue := ⟨.empty, false⟩

def Takes (q : ByteQueue) (data : List UInt8) : Prop :=
  q.failed = false ∧ data ≠ [] ∧ q.queue.Room data.length

/-- The size is found to fit once it is cast to `int32_t`. -/
def FitsAsInt32 (q : ByteQueue) (size : Nat) : Prop :=
  q.queue.items.length + (Int32.ofNat size).toInt ≤ maxStreamBufSize

instance (q : ByteQueue) (data : List UInt8) : Decidable (q.Takes data) :=
  inferInstanceAs (Decidable (_ ∧ _ ∧ _))

instance (q : ByteQueue) (size : Nat) : Decidable (q.FitsAsInt32 size) :=
  inferInstanceAs (Decidable (_ ≤ _))

def perform (q : ByteQueue) : CircleOp → ByteQueue
  | .write data =>
      if q.Takes data then { q with queue := q.queue.offer data }
      else { q with failed := q.failed || decide (q.FitsAsInt32 data.length) }
  | .seekReadPos n => { q with queue := q.queue.skip n }
  | .reset => create

end ByteQueue

/-! ## Refinement -/

/-- The unread bytes are the queue, and an error is the flag. -/
structure Refines (b : StreamBuffer) (q : ByteQueue) : Prop where
  shows : b.Shows q.queue.items
  ok_iff : b.rwErrorStatus = .ok ↔ q.failed = false

theorem create_refines : Refines .create .create :=
  ⟨create_holds.shows, ⟨fun _ => rfl, fun _ => rfl⟩⟩

/-- A write is taken by the buffer when the queue takes it. -/
theorem Refines.write_iff {b : StreamBuffer} {q : ByteQueue} (h : Refines b q)
    (data : List UInt8) : (write b data).1 = true ↔ q.Takes data := by
  rcases write_shows h.shows data with ⟨hok, hne, hfit, hret, _⟩ | ⟨hnot, hret, _⟩
  · exact ⟨fun _ => ⟨h.ok_iff.mp hok, hne, hfit⟩, fun _ => hret⟩
  · rw [hret]
    refine ⟨fun h => absurd h (by decide), fun htakes => absurd ?_ hnot⟩
    exact ⟨h.ok_iff.mpr htakes.1, htakes.2⟩

/-- A write that is refused leaves the unread bytes as they are. -/
theorem Refines.write_refused {b : StreamBuffer} {q : ByteQueue} (h : Refines b q)
    {data : List UInt8} (hret : (write b data).1 = false) :
    (write b data).2.unread = b.unread := by
  rcases write_shows h.shows data with ⟨_, _, _, htrue, _⟩ | ⟨_, _, hafter, _⟩
  · rw [htrue] at hret
    cases hret
  · rw [hafter.eq, h.shows.eq]

theorem write_refines {b : StreamBuffer} {q : ByteQueue} (h : Refines b q) (data : List UInt8) :
    Refines (write b data).2 (q.perform (.write data)) := by
  have hiff := h.write_iff data
  rcases write_shows h.shows data with ⟨_, _, _, hret, hafter⟩ | ⟨_, hret, hafter, hst⟩
  · have htakes := hiff.mp hret
    rw [ByteQueue.perform, if_pos htakes]
    refine ⟨?_, ⟨fun _ => htakes.1, fun _ => hafter.ok⟩⟩
    rw [BoundedQueue.offer_items_of_room htakes.2.2]
    exact hafter.shows
  · have hrefused : ¬ q.Takes data := by
      rw [← hiff, hret]
      decide
    rw [ByteQueue.perform, if_neg hrefused]
    refine ⟨hafter, ?_⟩
    rw [hst, h.ok_iff, Bool.or_eq_false_iff, decide_eq_false_iff_not, ByteQueue.FitsAsInt32, not_le]

theorem seekReadPos_refines {b : StreamBuffer} {q : ByteQueue} (h : Refines b q) (n : Nat) :
    Refines (b.seekReadPos n).2 (q.perform (.seekReadPos n)) := by
  have hle := h.shows.le
  have hlen := congrArg List.length h.shows.eq
  rw [unread_length] at hlen
  rw [ByteQueue.perform]
  by_cases hn : n ≤ q.queue.items.length
  · rw [seekReadPos_natCast (by omega)]
    refine ⟨⟨?_, ?_⟩, h.ok_iff⟩
    · rw [advance_rPos, advance_wPos]
      omega
    · rw [advance_unread, h.shows.eq, BoundedQueue.skip_items_of_le hn]
  · have hout : b.seekReadPos n = (false, b) := by
      unfold seekReadPos
      exact if_pos (by omega)
    rw [hout, BoundedQueue.skip_of_lt (by omega)]
    exact h

/-- What one operation does to the buffer, it does to the queue. -/
theorem perform_refines {b : StreamBuffer} {q : ByteQueue} (h : Refines b q) (op : CircleOp) :
    Refines (perform b op) (q.perform op) := by
  cases op with
  | write data => exact write_refines h data
  | seekReadPos n => exact seekReadPos_refines h n
  | reset => exact ⟨(reset_holds b).shows, ⟨fun _ => rfl, fun _ => rfl⟩⟩

theorem run_refines (ops : List CircleOp) :
    ∀ {b : StreamBuffer} {q : ByteQueue}, Refines b q →
      Refines (runFrom perform b ops) (runFrom ByteQueue.perform q ops) := by
  induction ops with
  | nil => exact fun h => h
  | cons op ops ih => exact fun h => ih (perform_refines h op)

/-- Only a write of no bytes, or of more than an `int32_t` counts, sets the flag. -/
theorem failed_of_run (ops : List CircleOp) :
    ∀ q : ByteQueue, (runFrom ByteQueue.perform q ops).failed = true →
      q.failed = true ∨ ∃ data, CircleOp.write data ∈ ops ∧ (data = [] ∨ 2 ^ 31 ≤ data.length) := by
  induction ops with
  | nil => exact fun _ h => .inl h
  | cons op ops ih =>
    intro q h
    rcases ih _ h with hafter | ⟨data, hmem, hsize⟩
    · cases op with
      | write data =>
        rw [ByteQueue.perform] at hafter
        split at hafter
        · exact .inl hafter
        · rename_i hnot
          rcases Bool.or_eq_true_iff.mp hafter with hold | hfits
          · exact .inl hold
          · by_cases hq : q.failed = true
            · exact .inl hq
            · refine .inr ⟨data, List.mem_cons_self, ?_⟩
              by_contra hplain
              obtain ⟨hne, hlt⟩ := not_or.mp hplain
              have hroom := of_decide_eq_true hfits
              rw [ByteQueue.FitsAsInt32, Int32.toInt_ofNat_of_lt (not_le.mp hlt)] at hroom
              exact hnot ⟨by simpa using hq, hne, by exact_mod_cast hroom⟩
      | seekReadPos n => exact .inl hafter
      | reset => cases hafter
    · exact .inr ⟨data, List.mem_cons_of_mem _ hmem, hsize⟩

/-! ## The receive buffer is the queue -/

/-- After any run the unread bytes are the queue's, a write of some bytes is
taken precisely if they fit and there is no error, a refused write changes
none of them, and there is an error only after a write of no bytes or of
2^31 and more. -/
theorem circleBuffer_isQueue (ops : List CircleOp) :
    let b := runFrom perform .create ops
    let q := runFrom ByteQueue.perform .create ops
    b.unread = q.queue.items ∧
      (∀ data, data ≠ [] → ((write b data).1 = true ↔
        q.failed = false ∧ b.unread.length + data.length ≤ maxStreamBufSize)) ∧
      (∀ data, (write b data).1 = false → (write b data).2.unread = b.unread) ∧
      (q.failed = true →
        ∃ data, CircleOp.write data ∈ ops ∧ (data = [] ∨ 2 ^ 31 ≤ data.length)) := by
  intro b q
  have h : Refines b q := run_refines ops create_refines
  refine ⟨h.shows.eq, fun data hne => ?_, fun data hret => h.write_refused hret, fun hfailed => ?_⟩
  · rw [h.write_iff, h.shows.eq, ByteQueue.Takes, BoundedQueue.Room]
    simp [hne]
  · exact (failed_of_run ops .create hfailed).resolve_left (by decide)

/-- A write of no bytes, and a byte that fits is refused; the same after a
write of 2^32 bytes. -/
theorem counterexample_circleBuffer :
    ¬ ((write (runFrom perform .create [.write []]) [1]).1 = true ↔
        (runFrom perform .create [.write []]).unread.length + 1 ≤ maxStreamBufSize) ∧
      ¬ ((write (runFrom perform .create [.write (List.replicate (2 ^ 32) 0)]) [1]).1 = true ↔
        (runFrom perform .create [.write (List.replicate (2 ^ 32) 0)]).unread.length + 1
          ≤ maxStreamBufSize) := by
  have hcase : ∀ data : List UInt8, data = [] ∨ data = List.replicate (2 ^ 32) 0 →
      ¬ ((write (runFrom perform .create [.write data]) [1]).1 = true ↔
        (runFrom perform .create [.write data]).unread.length + 1 ≤ maxStreamBufSize) := by
    intro data hdata hiff
    have h := run_refines [.write data] create_refines
    -- The size is zero as an `int32_t`.
    have hzero : (Int32.ofNat data.length).toInt = 0 := by
      rcases hdata with rfl | rfl
      · rfl
      · rw [List.length_replicate]
        decide
    have hnot : ¬ ByteQueue.create.Takes data := by
      rintro ⟨_, hne, hroom⟩
      rcases hdata with rfl | rfl
      · exact hne rfl
      · rw [BoundedQueue.Room, List.length_replicate] at hroom
        exact absurd hroom (by decide)
    have hq : runFrom ByteQueue.perform .create [.write data] = ⟨.empty, true⟩ := by
      rw [runFrom_cons, runFrom_nil, ByteQueue.perform, if_neg hnot]
      have hfits : ByteQueue.create.FitsAsInt32 data.length := by
        rw [ByteQueue.FitsAsInt32, hzero]
        decide
      rw [decide_eq_true hfits]
      rfl
    rw [hq] at h
    have htrue := hiff.mpr (by rw [h.shows.eq]; decide)
    have htakes := (h.write_iff [1]).mp htrue
    exact absurd htakes.1 (by decide)
  exact ⟨hcase [] (.inl rfl), hcase _ (.inr rfl)⟩

end FtMmi.Network.CircleStreamBuffer
