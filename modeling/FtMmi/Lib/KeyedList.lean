/-
FtMmi.Lib.KeyedList — lists whose items have distinct keys.

Such a list is a table of handles: the key of an item is the handle its
owner keeps, and an owner drops items by their keys. `dropKeys` drops
several at once. Dropping keys that no item of a kind has leaves that kind
alone (`filter_dropKeys_of_disjoint`), and dropping keys that all belong
to items of a kind leaves that many fewer of them
(`length_filter_dropKeys`). An owner writes to an item through its handle
with `replaceKey`.
-/
import Mathlib

namespace FtMmi.Lib

variable {α κ : Type*} [DecidableEq κ]

/-- The items whose keys are not among `ks`. -/
def dropKeys (key : α → κ) (ks : List κ) (xs : List α) : List α :=
  xs.filter fun x => key x ∉ ks

theorem dropKeys_nil (key : α → κ) (xs : List α) : dropKeys key [] xs = xs := by
  simp [dropKeys]

theorem dropKeys_cons (key : α → κ) (k : κ) (ks : List κ) (xs : List α) :
    dropKeys key (k :: ks) xs = dropKeys key ks (xs.filter fun x => key x ≠ k) := by
  rw [dropKeys, dropKeys, List.filter_filter]
  apply List.filter_congr
  intro x _
  simp only [List.mem_cons, not_or]
  rw [← Bool.decide_and]
  exact decide_eq_decide.mpr And.comm

theorem dropKeys_sublist (key : α → κ) (ks : List κ) (xs : List α) :
    (dropKeys key ks xs).Sublist xs := List.filter_sublist

/-- With distinct keys the first item with a key is the only one. -/
theorem eraseP_eq_filter_key {key : α → κ} {xs : List α} (h : (xs.map key).Nodup) (k : κ) :
    xs.eraseP (fun x => key x = k) = xs.filter fun x => key x ≠ k := by
  induction xs with
  | nil => rfl
  | cons x xs ih =>
    obtain ⟨hx, hxs⟩ := List.nodup_cons.mp h
    by_cases hk : key x = k
    · have hrest : xs.filter (fun y => key y ≠ k) = xs := by
        rw [List.filter_eq_self]
        intro y hy
        have hne : key y ≠ k := by
          rintro heq
          rw [hk, ← heq] at hx
          exact hx (List.mem_map_of_mem hy)
        exact decide_eq_true hne
      rw [List.eraseP_cons_of_pos (by simp [hk]), List.filter_cons_of_neg (by simp [hk]), hrest]
    · rw [List.eraseP_cons_of_neg (by simp [hk]), List.filter_cons_of_pos (by simp [hk]), ih hxs]

theorem perm_cons_filter_key {key : α → κ} {xs : List α} (h : (xs.map key).Nodup) {x : α}
    (hx : x ∈ xs) : xs.Perm (x :: xs.filter fun y => key y ≠ key x) := by
  rw [List.perm_ext_iff_of_nodup (List.Nodup.of_map key h)]
  · intro y
    simp only [List.mem_cons, List.mem_filter, decide_eq_true_eq]
    constructor
    · intro hy
      by_cases hkey : key y = key x
      · exact .inl (List.inj_on_of_nodup_map h hy hx hkey)
      · exact .inr ⟨hy, hkey⟩
    · rintro (rfl | ⟨hy, _⟩)
      · exact hx
      · exact hy
  · rw [List.nodup_cons]
    refine ⟨?_, (List.Nodup.of_map key h).filter _⟩
    simp

theorem filter_dropKeys_of_disjoint {key : α → κ} {xs : List α} (p : α → Bool) {ks : List κ}
    (h : ∀ x ∈ xs, p x = true → key x ∉ ks) :
    (dropKeys key ks xs).filter p = xs.filter p := by
  rw [dropKeys, List.filter_filter]
  apply List.filter_congr
  intro x hx
  cases hp : p x with
  | false => simp
  | true => simp [h x hx hp]

theorem length_filter_dropKeys {key : α → κ} {xs : List α} (h : (xs.map key).Nodup)
    (p : α → Bool) {ks : List κ} (hks : ks.Nodup)
    (hmem : ∀ k ∈ ks, ∃ x ∈ xs, p x = true ∧ key x = k) :
    ((dropKeys key ks xs).filter p).length + ks.length = (xs.filter p).length := by
  -- The keys of the items of the kind that go are `ks` in some order.
  have hgone : (((xs.filter p).filter fun x => key x ∈ ks).map key).Perm ks := by
    rw [List.perm_ext_iff_of_nodup _ hks]
    · intro k
      simp only [List.mem_map, List.mem_filter, decide_eq_true_eq]
      constructor
      · rintro ⟨x, ⟨_, hin⟩, rfl⟩
        exact hin
      · intro hk
        obtain ⟨x, hx, hp, rfl⟩ := hmem k hk
        exact ⟨x, ⟨⟨hx, hp⟩, hk⟩, rfl⟩
    · exact h.sublist ((List.filter_sublist.trans List.filter_sublist).map key)
  have hsplit := List.length_eq_length_filter_add (l := xs.filter p) fun x => key x ∈ ks
  have hlen := hgone.length_eq
  rw [List.length_map] at hlen
  have hkeep : (dropKeys key ks xs).filter p = (xs.filter p).filter fun x => !decide (key x ∈ ks) := by
    rw [dropKeys, List.filter_filter, List.filter_filter]
    apply List.filter_congr
    intro x _
    rw [Bool.and_comm, decide_not]
  rw [hkeep]
  omega

/-- The item with the key of `x` becomes `x`. -/
def replaceKey (key : α → κ) (x : α) (xs : List α) : List α :=
  xs.map fun y => if key y = key x then x else y

@[simp] theorem replaceKey_keys (key : α → κ) (x : α) (xs : List α) :
    (replaceKey key x xs).map key = xs.map key := by
  rw [replaceKey, List.map_map]
  apply List.map_congr_left
  intro y _
  simp only [Function.comp_apply]
  split
  · rename_i h
    exact h.symm
  · rfl

theorem mem_replaceKey {key : α → κ} {x : α} {xs : List α} {y : α} :
    y ∈ replaceKey key x xs ↔ y = x ∧ key x ∈ xs.map key ∨ y ∈ xs ∧ key y ≠ key x := by
  rw [replaceKey, List.mem_map]
  constructor
  · rintro ⟨z, hz, rfl⟩
    by_cases hkey : key z = key x
    · rw [if_pos hkey]
      exact .inl ⟨rfl, hkey ▸ List.mem_map_of_mem hz⟩
    · rw [if_neg hkey]
      exact .inr ⟨hz, hkey⟩
  · intro h
    rcases h with ⟨rfl, hmem⟩ | ⟨hy, hne⟩
    · obtain ⟨z, hz, hkey⟩ := List.mem_map.mp hmem
      exact ⟨z, hz, if_pos hkey⟩
    · exact ⟨y, hy, if_neg hne⟩

/-- With distinct keys one item is replaced. -/
theorem replaceKey_append_cons {key : α → κ} {x z : α} {xs ys : List α}
    (h : ((xs ++ x :: ys).map key).Nodup) (hz : key z = key x) :
    replaceKey key z (xs ++ x :: ys) = xs ++ z :: ys := by
  have hperm : ((x :: (xs ++ ys)).map key).Nodup :=
    (List.perm_middle.map key).nodup_iff.mp h
  obtain ⟨hx, _⟩ := List.nodup_cons.mp hperm
  have hsame : ∀ y ∈ xs ++ ys, (if key y = key z then z else y) = y := by
    intro y hy
    refine if_neg fun heq => hx ?_
    rw [← hz, ← heq]
    exact List.mem_map_of_mem hy
  rw [replaceKey, List.map_append, List.map_cons, if_pos hz.symm,
    List.map_congr_left fun y hy => hsame y (List.mem_append_left ys hy),
    List.map_congr_left fun y hy => hsame y (List.mem_append_right xs hy)]
  simp

/-- If at most one item satisfies the test, the order does not decide which is found. -/
theorem find?_perm {p : α → Bool} {xs ys : List α} (h : xs.Perm ys)
    (hone : ∀ x ∈ xs, ∀ y ∈ xs, p x = true → p y = true → x = y) : xs.find? p = ys.find? p := by
  cases hxs : xs.find? p with
  | none =>
    rw [eq_comm, List.find?_eq_none]
    intro y hy
    exact List.find?_eq_none.mp hxs y (h.mem_iff.mpr hy)
  | some x =>
    have hx := List.mem_of_find?_eq_some hxs
    have hsome : (ys.find? p).isSome = true :=
      List.find?_isSome.mpr ⟨x, h.mem_iff.mp hx, List.find?_some hxs⟩
    obtain ⟨y, hys⟩ := Option.isSome_iff_exists.mp hsome
    have hy := h.mem_iff.mpr (List.mem_of_find?_eq_some hys)
    rw [hys, hone x hx y hy (List.find?_some hxs) (List.find?_some hys)]

theorem replaceKey_self {key : α → κ} {x : α} {xs : List α} (h : (xs.map key).Nodup)
    (hx : x ∈ xs) : replaceKey key x xs = xs := by
  obtain ⟨before, rest, rfl⟩ := List.append_of_mem hx
  exact replaceKey_append_cons h rfl

theorem find?_key_iff {key : α → κ} {xs : List α} (h : (xs.map key).Nodup) {k : κ} {x : α} :
    (xs.find? fun y => key y = k) = some x ↔ x ∈ xs ∧ key x = k := by
  constructor
  · exact fun hfind => ⟨List.mem_of_find?_eq_some hfind, by simpa using List.find?_some hfind⟩
  · rintro ⟨hx, rfl⟩
    cases hfind : xs.find? fun y => key y = key x with
    | none => simpa using List.find?_eq_none.mp hfind x hx
    | some y =>
      have hkey : key y = key x := by simpa using List.find?_some hfind
      rw [List.inj_on_of_nodup_map h (List.mem_of_find?_eq_some hfind) hx hkey]

theorem find?_replaceKey (key : α → κ) (x : α) (xs : List α) (k : κ) :
    ((replaceKey key x xs).find? fun y => key y = k)
      = if k = key x then (xs.find? fun y => key y = k).map fun _ => x
        else xs.find? fun y => key y = k := by
  induction xs with
  | nil => simp [replaceKey]
  | cons y xs ih =>
    rw [replaceKey, List.map_cons, ← replaceKey]
    by_cases hy : key y = key x
    · by_cases hk : k = key x
      · simp [hy, hk]
      · simp [hy, hk, Ne.symm hk, ih]
    · by_cases hk : key y = k
      · have hne : k ≠ key x := fun h => hy (hk.trans h)
        simp [hk, hne]
      · simp [hy, hk, ih]

end FtMmi.Lib
