/-
FtMmi.Lib.CappedMap — finite maps with at most so many entries, and lists
of items with distinct keys that stand for them.

`set` refuses a key only if it is new and there is no room; `replace`
writes to keys that are there, and `erase` forgets one. `Represents` ties
a list to a map: a key is looked up alike in both. It is kept by taking
the item of a key out (`Represents.erase`) and by putting a new one in
(`Represents.push`), and with it the list is as long as the map has
entries (`Represents.length_eq`).
-/
import Mathlib

namespace FtMmi.Lib

variable {α β γ : Type*} [DecidableEq α] {limit : Nat}

/-! ## The map -/

structure CappedMap (α β : Type*) [DecidableEq α] (limit : Nat) where
  entries : Finmap fun _ : α => β
  capped : entries.keys.card ≤ limit

namespace CappedMap

def empty : CappedMap α β limit := ⟨∅, by simp⟩

def lookup (m : CappedMap α β limit) (k : α) : Option β := m.entries.lookup k

def card (m : CappedMap α β limit) : Nat := m.entries.keys.card

/-- The key can be written to: it is there, or there is room for it. -/
def Accepts (m : CappedMap α β limit) (k : α) : Prop := (m.lookup k).isSome ∨ m.card < limit

instance (m : CappedMap α β limit) (k : α) : Decidable (m.Accepts k) :=
  inferInstanceAs (Decidable (_ ∨ _))

theorem keys_insert (entries : Finmap fun _ : α => β) (k : α) (v : β) :
    (entries.insert k v).keys = insert k entries.keys := by
  ext other
  simp [Finmap.mem_keys, Finmap.mem_insert]

theorem card_insert_le {m : CappedMap α β limit} {k : α} (h : m.Accepts k) (v : β) :
    (m.entries.insert k v).keys.card ≤ limit := by
  rw [keys_insert]
  rcases h with hthere | hroom
  · rw [Finset.insert_eq_of_mem (Finmap.mem_keys.mpr (Finmap.lookup_isSome.mp hthere))]
    exact m.capped
  · exact (Finset.card_insert_le k m.entries.keys).trans hroom

def set (m : CappedMap α β limit) (k : α) (v : β) : CappedMap α β limit :=
  if h : m.Accepts k then ⟨m.entries.insert k v, card_insert_le h v⟩ else m

def erase (m : CappedMap α β limit) (k : α) : CappedMap α β limit :=
  ⟨m.entries.erase k, by
    rw [Finmap.keys_erase]
    exact Finset.card_erase_le.trans m.capped⟩

/-- A key that is not there is not written to. -/
def replace (m : CappedMap α β limit) (k : α) (v : β) : CappedMap α β limit :=
  if (m.lookup k).isSome then m.set k v else m

@[simp] theorem lookup_empty (k : α) : (empty : CappedMap α β limit).lookup k = none := rfl

theorem lookup_set {m : CappedMap α β limit} {k : α} (h : m.Accepts k) (v : β) (other : α) :
    (m.set k v).lookup other = if other = k then some v else m.lookup other := by
  unfold set lookup
  rw [dif_pos h]
  by_cases heq : other = k
  · subst heq
    simp
  · simp [heq, Finmap.lookup_insert_of_ne]

theorem set_of_not {m : CappedMap α β limit} {k : α} (h : ¬ m.Accepts k) (v : β) :
    m.set k v = m := dif_neg h

theorem lookup_erase (m : CappedMap α β limit) (k other : α) :
    (m.erase k).lookup other = if other = k then none else m.lookup other := by
  unfold erase lookup
  by_cases heq : other = k
  · subst heq
    simp
  · simp [heq, Finmap.lookup_erase_ne]

end CappedMap

/-! ## Lists that stand for a map -/

/-- No key is there twice, and each has the value that it has in the map. -/
structure Represents (key : γ → α) (val : γ → β) (xs : List γ) (m : CappedMap α β limit) :
    Prop where
  nodup : (xs.map key).Nodup
  lookup : ∀ k, (xs.find? fun x => key x = k).map val = m.lookup k

namespace Represents

variable {key : γ → α} {val : γ → β} {xs : List γ} {m m' : CappedMap α β limit}

theorem nil : Represents key val [] (.empty : CappedMap α β limit) :=
  ⟨List.nodup_nil, fun _ => rfl⟩

/-- The same map, looked up. -/
theorem congr (h : Represents key val xs m) (hsame : ∀ k, m'.lookup k = m.lookup k) :
    Represents key val xs m' :=
  ⟨h.nodup, fun k => (h.lookup k).trans (hsame k).symm⟩

theorem length_eq (h : Represents key val xs m) : xs.length = m.card := by
  have hkeys : (xs.map key).toFinset = m.entries.keys := by
    ext k
    rw [List.mem_toFinset, Finmap.mem_keys, ← Finmap.lookup_isSome]
    show _ ↔ (m.lookup k).isSome = true
    rw [← h.lookup k]
    simp
  rw [CappedMap.card, ← hkeys, List.toFinset_card_of_nodup h.nodup, List.length_map]

theorem length_le (h : Represents key val xs m) : xs.length ≤ limit :=
  h.length_eq.trans_le m.capped

theorem erase (h : Represents key val xs m) (k : α) :
    Represents key val (xs.filter fun x => key x ≠ k) (m.erase k) := by
  refine ⟨h.nodup.sublist (List.filter_sublist.map key), fun other => ?_⟩
  rw [CappedMap.lookup_erase, List.find?_filter]
  by_cases heq : other = k
  · subst heq
    simp
  · rw [if_neg heq, ← h.lookup other]
    congr 2
    funext x
    by_cases hx : key x = other
    · simp [hx, heq]
    · simp [hx]

/-- A new item at the end. -/
theorem push (h : Represents key val xs m) {x : γ} (hfree : key x ∉ xs.map key)
    (hlookup : ∀ k, m'.lookup k = if k = key x then some (val x) else m.lookup k) :
    Represents key val (xs ++ [x]) m' := by
  constructor
  · rw [List.map_append, List.nodup_append]
    refine ⟨h.nodup, List.nodup_singleton _, fun a ha b hb heq => ?_⟩
    rw [List.map_singleton, List.mem_singleton] at hb
    exact hfree (hb ▸ heq ▸ ha)
  · intro k
    rw [hlookup, List.find?_append, ← h.lookup k]
    by_cases heq : k = key x
    · subst heq
      have hnone : (xs.find? fun y => key y = key x) = none := by
        rw [List.find?_eq_none]
        intro y hy hkey
        exact hfree (List.mem_map.mpr ⟨y, hy, of_decide_eq_true hkey⟩)
      simp [hnone]
    · simp [heq, Ne.symm heq]

/-- The item of a key that is there gives way to a new one. -/
theorem replace (h : Represents key val xs m) (x : γ)
    (hlookup : ∀ k, m'.lookup k = if k = key x then some (val x) else m.lookup k) :
    Represents key val ((xs.filter fun y => key y ≠ key x) ++ [x]) m' := by
  refine (h.erase (key x)).push (by simp) fun k => ?_
  rw [hlookup, CappedMap.lookup_erase]
  by_cases heq : k = key x
  · simp [heq]
  · simp [heq]

end Represents

end FtMmi.Lib
