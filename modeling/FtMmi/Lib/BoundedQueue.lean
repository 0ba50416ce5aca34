/-
FtMmi.Lib.BoundedQueue — a first-in first-out queue with room for a fixed
number of items.

The bound is a field, so a queue that holds too much cannot be built:
`offer` takes a batch whole or not at all, `skip` drops from the front.
-/
import Mathlib

namespace FtMmi.Lib

variable {α : Type*} {capacity : Nat}

@[ext] structure BoundedQueue (α : Type*) (capacity : Nat) where
  items : List α
  length_le : items.length ≤ capacity

namespace BoundedQueue

def empty : BoundedQueue α capacity := ⟨[], Nat.zero_le _⟩

/-- There is room for `n` more items. -/
def Room (q : BoundedQueue α capacity) (n : Nat) : Prop := q.items.length + n ≤ capacity

instance (q : BoundedQueue α capacity) (n : Nat) : Decidable (q.Room n) :=
  inferInstanceAs (Decidable (_ ≤ _))

/-- Put a batch behind the others, if there is room for all of it. -/
def offer (q : BoundedQueue α capacity) (batch : List α) : BoundedQueue α capacity :=
  if h : q.Room batch.length then ⟨q.items ++ batch, by rw [List.length_append]; exact h⟩ else q

/-- Drop the first `n` items, if there are as many. -/
def skip (q : BoundedQueue α capacity) (n : Nat) : BoundedQueue α capacity :=
  if n ≤ q.items.length then
    ⟨q.items.drop n, Nat.le_trans (by rw [List.length_drop]; omega) q.length_le⟩
  else q

@[simp] theorem empty_items : (empty : BoundedQueue α capacity).items = [] := rfl

theorem offer_items_of_room {q : BoundedQueue α capacity} {batch : List α}
    (h : q.Room batch.length) : (q.offer batch).items = q.items ++ batch := by
  rw [offer, dif_pos h]

theorem skip_items_of_le {q : BoundedQueue α capacity} {n : Nat} (h : n ≤ q.items.length) :
    (q.skip n).items = q.items.drop n := by
  rw [skip, if_pos h]

theorem skip_of_lt {q : BoundedQueue α capacity} {n : Nat} (h : q.items.length < n) :
    q.skip n = q := by
  rw [skip, if_neg (not_le.mpr h)]

end BoundedQueue

end FtMmi.Lib
