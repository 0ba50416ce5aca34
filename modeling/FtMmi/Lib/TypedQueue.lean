/-
FtMmi.Lib.TypedQueue — programs over a first-in first-out queue of tagged
values.

A value is put behind the others (`enqueue`) unless the queue refuses it,
and taken from the front (`dequeue`) if it has the type that is asked for.
Both kinds of programs end at the first step that fails.

* `Writes w vs` — when `w` succeeds it has put `vs` behind what was there.
* `Accepted w` — on a queue that refuses nothing, `w` succeeds.
* `Reads r vs a` — on a queue that starts with `vs`, `r` gives `a` and
  leaves the rest.
-/
import Mathlib

namespace FtMmi.Lib.TypedQueue

variable {ω α β : Type}

abbrev QueueM (ω : Type) := StateT (List ω) Option

/-- Put a value behind the others, if the queue takes it. -/
def enqueue (accepts : List ω → ω → Bool) (v : ω) : QueueM ω Unit := fun queue =>
  if accepts queue v then some ((), queue ++ [v]) else none

/-- Take the first value, if it is of the type. -/
def dequeue (project : ω → Option α) : QueueM ω α := fun queue =>
  match queue with
  | [] => none
  | v :: rest => (project v).map fun a => (a, rest)

/-- The same with a default, when there is no such value. -/
def dequeueD (project : ω → Option α) (default : α) : QueueM ω α := fun queue =>
  (dequeue project queue).getD (default, queue)

/-! ## Writing -/

def Writes (w : QueueM ω α) (vs : List ω) : Prop :=
  ∀ queue a queue', w queue = some (a, queue') → queue' = queue ++ vs

theorem Writes.pure (a : α) : Writes (pure a) ([] : List ω) := by
  intro queue _ _ h
  obtain ⟨_, rfl⟩ := Prod.mk.injEq .. ▸ Option.some.inj h
  rw [List.append_nil]

theorem Writes.enqueue (accepts : List ω → ω → Bool) (v : ω) :
    Writes (enqueue accepts v) [v] := by
  intro queue _ _ h
  rw [TypedQueue.enqueue] at h
  split at h
  · cases h
    rfl
  · cases h

/-- A program that always fails writes whatever one likes. -/
theorem Writes.failure (vs : List ω) : Writes (failure : QueueM ω α) vs := by
  intro _ _ _ h
  cases h

theorem bind_eq (m : QueueM ω α) (f : α → QueueM ω β) (queue : List ω) :
    (m >>= f) queue = (m queue).bind fun r => f r.1 r.2 := by
  show (m queue >>= fun r => f r.1 r.2) = _
  rfl

theorem Writes.bind {w : QueueM ω α} {f : α → QueueM ω β} {vs vs' : List ω}
    (hw : Writes w vs) (hf : ∀ a, Writes (f a) vs') : Writes (w >>= f) (vs ++ vs') := by
  intro queue b queue' h
  rw [bind_eq, Option.bind_eq_some_iff] at h
  obtain ⟨⟨a, mid⟩, hmid, hrest⟩ := h
  rw [hf a mid b queue' hrest, hw queue a mid hmid, List.append_assoc]

theorem Writes.forM {f : α → QueueM ω Unit} {image : α → List ω} (hf : ∀ a, Writes (f a) (image a))
    (as : List α) : Writes (forM as f) (as.flatMap image) := by
  induction as with
  | nil => exact Writes.pure ()
  | cons a as ih =>
    rw [List.forM_cons, List.flatMap_cons]
    exact (hf a).bind fun _ => ih

/-- On a queue that refuses nothing the program succeeds. -/
def Accepted (w : QueueM ω α) : Prop := ∀ queue, (w queue).isSome = true

theorem Accepted.pure (a : α) : Accepted (pure a : QueueM ω α) := fun _ => rfl

theorem Accepted.enqueue (v : ω) : Accepted (enqueue (fun _ _ => true) v) := fun _ => rfl

theorem Accepted.bind {w : QueueM ω α} {f : α → QueueM ω β} (hw : Accepted w)
    (hf : ∀ a, Accepted (f a)) : Accepted (w >>= f) := by
  intro queue
  obtain ⟨r, hr⟩ := Option.isSome_iff_exists.mp (hw queue)
  rw [bind_eq, hr]
  exact hf r.1 r.2

theorem Accepted.forM {f : α → QueueM ω Unit} (hf : ∀ a, Accepted (f a)) (as : List α) :
    Accepted (forM as f) := by
  induction as with
  | nil => exact Accepted.pure ()
  | cons a as ih =>
    rw [List.forM_cons]
    exact (hf a).bind fun _ => ih

/-! ## Reading -/

def Reads (r : QueueM ω α) (vs : List ω) (a : α) : Prop :=
  ∀ rest, r (vs ++ rest) = some (a, rest)

theorem Reads.pure (a : α) : Reads (pure a) ([] : List ω) a := fun _ => rfl

theorem Reads.dequeue {project : ω → Option α} {v : ω} {a : α} (h : project v = some a) :
    Reads (dequeue project) [v] a := by
  intro rest
  show (project v).map _ = _
  rw [h]
  rfl

theorem Reads.dequeueD {project : ω → Option α} {v : ω} {a : α} (default : α)
    (h : project v = some a) : Reads (dequeueD project default) [v] a := by
  intro rest
  rw [TypedQueue.dequeueD, Reads.dequeue h rest]
  rfl

theorem Reads.bind {r : QueueM ω α} {f : α → QueueM ω β} {vs vs' : List ω} {a : α} {b : β}
    (hr : Reads r vs a) (hf : Reads (f a) vs' b) : Reads (r >>= f) (vs ++ vs') b := by
  intro rest
  rw [List.append_assoc, bind_eq, hr]
  exact hf rest

end FtMmi.Lib.TypedQueue
