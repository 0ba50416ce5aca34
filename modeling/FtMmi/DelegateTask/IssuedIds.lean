/-
FtMmi.DelegateTask.IssuedIds — which ids of the factory are in use
(`IdFactory` in `id_factory.h`).

An id comes from the counter or from the set of recovered ids. The ids in
the set and those outstanding lie below the counter and are no ids of each
other (`Kept`), so that none is given out twice. `RecoveryId` ignores what
lies above the counter, but not the counter's own value: that value then
comes out of the set once and off the counter once more
(`recoveryId_seed`).
-/
import FtMmi.DelegateTask.DelegateTasks
import FtMmi.Lib.StepSystem

namespace FtMmi.DelegateTask

open FtMmi.Lib

namespace IdFactory

/-! ## The set of recovered ids -/

theorem mem_insertId {id other : Int} {ids : List Int} :
    other ∈ insertId id ids ↔ other = id ∨ other ∈ ids := by
  induction ids with
  | nil => simp [insertId]
  | cons first ids ih =>
    unfold insertId
    split
    · simp
    split
    · rename_i heq
      simp [heq]
    · rw [List.mem_cons, ih, List.mem_cons]
      tauto

theorem insertId_sorted {id : Int} {ids : List Int} (h : ids.Pairwise (· < ·)) :
    (insertId id ids).Pairwise (· < ·) := by
  induction ids with
  | nil => simp [insertId]
  | cons first ids ih =>
    obtain ⟨hfirst, hrest⟩ := List.pairwise_cons.mp h
    unfold insertId
    split
    · rename_i hlt
      refine List.pairwise_cons.mpr ⟨fun other hother => ?_, h⟩
      rcases List.mem_cons.mp hother with rfl | hother
      · exact hlt
      · exact hlt.trans (hfirst other hother)
    split
    · exact h
    · refine List.pairwise_cons.mpr ⟨fun other hother => ?_, ih hrest⟩
      rcases mem_insertId.mp hother with rfl | hother
      · omega
      · exact hfirst other hother

/-- A value above all others stands last. -/
theorem insertId_last {id : Int} {ids : List Int} (h : ∀ other ∈ ids, other < id) :
    insertId id ids = ids ++ [id] := by
  induction ids with
  | nil => rfl
  | cons first ids ih =>
    have hfirst := h first List.mem_cons_self
    rw [insertId, if_neg (by omega), if_neg (by omega),
      ih fun other hother => h other (List.mem_cons_of_mem first hother)]
    rfl

/-! ## What is given out -/

/-- An id comes from the set, or there is none, or it comes off the counter. -/
theorem generateId_cases (f : IdFactory) :
    (∃ id ids, f.ids = id :: ids ∧ f.generateId = (id, { f with ids })) ∨
      (f.ids = [] ∧ f.seed = maxLimit ∧ f.generateId = (0, f)) ∨
      (f.ids = [] ∧ f.seed ≠ maxLimit ∧ f.generateId = (f.seed, { f with seed := f.seed + 1 })) := by
  unfold generateId
  cases f.ids with
  | nil =>
    by_cases hfull : f.seed = maxLimit
    · simp [hfull]
    · simp [hfull]
  | cons id ids => exact .inl ⟨id, ids, rfl, rfl⟩


/-- What lies above the counter is ignored. -/
theorem recoveryId_cases (f : IdFactory) (id : Int) :
    (f.seed < id ∧ f.recoveryId id = f) ∨
      (id ≤ f.seed ∧ f.recoveryId id = { f with ids := insertId id f.ids }) := by
  unfold recoveryId
  by_cases hlarge : id > f.seed
  · exact .inl ⟨hlarge, if_pos hlarge⟩
  · exact .inr ⟨not_lt.mp hlarge, if_neg hlarge⟩

/-- The factory when the ids of the set before `rest` are given out. -/
theorem iterate_generateId (f : IdFactory) (ids rest : List Int) (h : f.ids = ids ++ rest) :
    (fun f => (generateId f).2)^[ids.length] f = { f with ids := rest } := by
  induction ids generalizing f with
  | nil =>
    subst h
    rfl
  | cons id ids ih =>
    rw [List.length_cons, Function.iterate_succ_apply]
    have hnext : f.generateId.2 = { f with ids := ids ++ rest } := by
      rw [generateId, h]
      rfl
    rw [hnext, ih _ rfl]

/-- Some `GenerateId` to come returns the id, if no id is recovered before. -/
def Reissues (f : IdFactory) (id : Int) : Prop :=
  ∃ n, ((fun f => (generateId f).2)^[n] f).generateId.1 = id

theorem reissues_of_mem {f : IdFactory} {id : Int} (h : id ∈ f.ids) : f.Reissues id := by
  obtain ⟨before, after, hids⟩ := List.append_of_mem h
  refine ⟨before.length, ?_⟩
  rw [iterate_generateId f before (id :: after) hids]
  rfl

/-- The value of the counter is given out twice, once it is recovered. -/
theorem recoveryId_seed {f : IdFactory} (hbelow : ∀ id ∈ f.ids, id < f.seed)
    (hmore : f.seed < maxLimit) :
    ((fun f => (generateId f).2)^[f.ids.length] (f.recoveryId f.seed)).generateId.1 = f.seed ∧
      ((fun f => (generateId f).2)^[f.ids.length + 1] (f.recoveryId f.seed)).generateId.1
        = f.seed := by
  have hrecovered : f.recoveryId f.seed = { f with ids := f.ids ++ [f.seed] } := by
    rw [recoveryId, if_neg (lt_irrefl f.seed), insertId_last hbelow]
  have hfirst := iterate_generateId (f.recoveryId f.seed) f.ids [f.seed] (by rw [hrecovered])
  constructor
  · rw [hfirst]
    rfl
  · rw [Function.iterate_succ_apply', hfirst, hrecovered]
    simp [generateId, ne_of_lt hmore]

end IdFactory

/-! ## Runs -/

/-- A factory with the ids that were returned and not recovered since, and
those that were recovered when they had been returned. -/
structure IssuedIds where
  factory : IdFactory
  outstanding : Finset Int
  recovered : Finset Int

inductive IdCall where
  | generateId
  /-- Any value may be recovered. -/
  | recoveryId (id : Int)

namespace IssuedIds

/-- `IdFactory(T seed)` -/
def create (seed : Int32) : IssuedIds := ⟨⟨seed.toInt, []⟩, ∅, ∅⟩

def step (s : IssuedIds) : IdCall → IssuedIds
  | .generateId =>
      let result := s.factory.generateId
      { s with factory := result.2, outstanding := insert result.1 s.outstanding }
  | .recoveryId id =>
      { factory := s.factory.recoveryId id
        outstanding := s.outstanding.erase id
        recovered := if id ∈ s.outstanding then insert id s.recovered else s.recovered }

/-- What `GenerateId` returns is not outstanding. -/
def Unique (s : IssuedIds) : IdCall → Prop
  | .generateId => s.factory.generateId.1 ∉ s.outstanding
  | .recoveryId _ => True

/-- An id that was recovered is outstanding again, or can be issued again. -/
def Reissuable (s : IssuedIds) : Prop :=
  ∀ id ∈ s.recovered, id ∈ s.outstanding ∨ s.factory.Reissues id

/-- The value that the counter would give out next is not recovered; and the
value for want of an id is not returned while it is outstanding. -/
def Spares (s : IssuedIds) : IdCall → Prop
  | .generateId =>
      s.factory.ids = [] → s.factory.seed = IdFactory.maxLimit → 0 ∉ s.outstanding
  | .recoveryId id => id = s.factory.seed → s.factory.seed = IdFactory.maxLimit

instance (s : IssuedIds) : (i : IdCall) → Decidable (Spares s i)
  | .generateId => inferInstanceAs (Decidable (_ → _ → _))
  | .recoveryId _ => inferInstanceAs (Decidable (_ → _))

variable {s : IssuedIds}

/-! ## What is recovered can be issued -/

/-- All ids that were ever given out are within the counter, and those
recovered are in the set until they are given out again. -/
structure Held (s : IssuedIds) : Prop where
  below : ∀ id, id ∈ s.factory.ids ∨ id ∈ s.outstanding → id ≤ s.factory.seed
  recovered : ∀ id ∈ s.recovered, id ∈ s.outstanding ∨ id ∈ s.factory.ids

theorem create_held (seed : Int32) : (create seed).Held := by
  constructor
  · simp [create]
  · simp [create]

theorem Held.step (h : s.Held) (i : IdCall) : (s.step i).Held := by
  cases i with
  | generateId =>
    obtain ⟨id, ids, hids, hresult⟩ | ⟨hnone, hfull, hresult⟩ | ⟨hnone, _, hresult⟩ :=
      s.factory.generateId_cases
    · simp only [IssuedIds.step, hresult]
      constructor
      · have hbelow := h.below
        simp only [hids, List.mem_cons, Finset.mem_insert] at hbelow ⊢
        rintro other (hother | rfl | hother)
        · exact hbelow other (.inl (.inr hother))
        · exact hbelow other (.inl (.inl rfl))
        · exact hbelow other (.inr hother)
      · have hrecovered := h.recovered
        simp only [hids, List.mem_cons, Finset.mem_insert] at hrecovered ⊢
        intro other hother
        rcases hrecovered other hother with hout | rfl | hset
        · exact .inl (.inr hout)
        · exact .inl (.inl rfl)
        · exact .inr hset
    · simp only [IssuedIds.step, hresult]
      refine ⟨fun other hother => ?_, fun other hother => ?_⟩
      · rw [Finset.mem_insert] at hother
        rcases hother with hother | rfl | hother
        · exact h.below other (.inl hother)
        · rw [hfull]
          decide
        · exact h.below other (.inr hother)
      · exact (h.recovered other hother).imp_left (Finset.mem_insert_of_mem ·)
    · simp only [IssuedIds.step, hresult]
      refine ⟨fun other hother => ?_, fun other hother => ?_⟩
      · have hle : other ≤ s.factory.seed := by
          rw [Finset.mem_insert] at hother
          rcases hother with hother | rfl | hother
          · exact h.below other (.inl hother)
          · exact le_rfl
          · exact h.below other (.inr hother)
        dsimp only
        omega
      · exact (h.recovered other hother).imp_left (Finset.mem_insert_of_mem ·)
  | recoveryId id =>
    obtain ⟨hlarge, hresult⟩ | ⟨hsmall, hresult⟩ := s.factory.recoveryId_cases id
    · -- The id was never given out.
      have hnot : id ∉ s.outstanding := fun hout => not_lt.mpr (h.below id (.inr hout)) hlarge
      simp only [IssuedIds.step, hresult, Finset.erase_eq_of_notMem hnot, if_neg hnot]
      exact ⟨h.below, h.recovered⟩
    · simp only [IssuedIds.step, hresult]
      refine ⟨fun other hother => ?_, fun other hother => ?_⟩
      · rcases hother with hother | hother
        · rcases IdFactory.mem_insertId.mp hother with rfl | hother
          · exact hsmall
          · exact h.below other (.inl hother)
        · exact h.below other (.inr (Finset.mem_of_mem_erase hother))
      · by_cases heq : other = id
        · exact .inr (IdFactory.mem_insertId.mpr (.inl heq))
        · have hrecovered : other ∈ s.recovered := by
            split at hother
            · exact Finset.mem_of_mem_insert_of_ne hother heq
            · exact hother
          refine (h.recovered other hrecovered).imp ?_ ?_
          · exact Finset.mem_erase_of_ne_of_mem heq
          · exact fun hset => IdFactory.mem_insertId.mpr (.inr hset)

theorem Held.reissuable (h : s.Held) : s.Reissuable :=
  fun id hid => (h.recovered id hid).imp_right IdFactory.reissues_of_mem

/-! ## No id twice -/

/-- The ids that the counter has left behind; at its end the last one too. -/
def Behind (f : IdFactory) (id : Int) : Prop :=
  id ≤ f.seed ∧ (id = f.seed → f.seed = IdFactory.maxLimit)

/-- The ids recovered and those outstanding are different ones behind the
counter. -/
structure Kept (s : IssuedIds) : Prop where
  sorted : s.factory.ids.Pairwise (· < ·)
  behind : ∀ id, id ∈ s.factory.ids ∨ id ∈ s.outstanding → Behind s.factory id
  apart : ∀ id ∈ s.factory.ids, id ∉ s.outstanding
  bound : s.factory.seed ≤ IdFactory.maxLimit

theorem create_kept (seed : Int32) : (create seed).Kept := by
  refine ⟨List.Pairwise.nil, by simp [create], by simp [create], ?_⟩
  have hlt := Int32.toInt_lt seed
  show seed.toInt ≤ IdFactory.maxLimit
  unfold IdFactory.maxLimit
  omega

theorem Kept.unique (h : s.Kept) {i : IdCall} (hspares : s.Spares i) : s.Unique i := by
  cases i with
  | generateId =>
    unfold Unique
    obtain ⟨id, ids, hids, hresult⟩ | ⟨hnone, hfull, hresult⟩ | ⟨_, hmore, hresult⟩ :=
      s.factory.generateId_cases
    · rw [hresult]
      exact h.apart id (by rw [hids]; exact List.mem_cons_self)
    · rw [hresult]
      exact hspares hnone hfull
    · rw [hresult]
      exact fun hout => hmore ((h.behind s.factory.seed (.inr hout)).2 rfl)
  | recoveryId id => trivial

theorem Kept.step (h : s.Kept) {i : IdCall} (hspares : s.Spares i) : (s.step i).Kept := by
  cases i with
  | generateId =>
    obtain ⟨id, ids, hids, hresult⟩ | ⟨hnone, hfull, hresult⟩ | ⟨hnone, hmore, hresult⟩ :=
      s.factory.generateId_cases
    · have hsorted := h.sorted
      have hbehind := h.behind
      have hapart := h.apart
      rw [hids] at hsorted hbehind hapart
      obtain ⟨hfirst, hrest⟩ := List.pairwise_cons.mp hsorted
      simp only [IssuedIds.step, hresult]
      refine ⟨hrest, fun other hother => ?_, fun other hother hout => ?_, h.bound⟩
      · rw [Finset.mem_insert] at hother
        rcases hother with hother | rfl | hother
        · exact hbehind other (.inl (List.mem_cons_of_mem id hother))
        · exact hbehind other (.inl List.mem_cons_self)
        · exact hbehind other (.inr hother)
      · rcases Finset.mem_insert.mp hout with rfl | hout
        · exact lt_irrefl other (hfirst other hother)
        · exact hapart other (List.mem_cons_of_mem id hother) hout
    · simp only [IssuedIds.step, hresult]
      refine ⟨h.sorted, fun other hother => ?_, fun other hother => ?_, h.bound⟩
      · rw [Finset.mem_insert] at hother
        rcases hother with hother | rfl | hother
        · exact h.behind other (.inl hother)
        · exact ⟨by rw [hfull]; decide, fun _ => hfull⟩
        · exact h.behind other (.inr hother)
      · rw [hnone] at hother
        cases hother
    · have hbound := h.bound
      simp only [IssuedIds.step, hresult]
      refine ⟨h.sorted, fun other hother => ?_, fun other hother => ?_, by dsimp only; omega⟩
      · have hle : other ≤ s.factory.seed := by
          rw [Finset.mem_insert] at hother
          rcases hother with hother | rfl | hother
          · exact (h.behind other (.inl hother)).1
          · exact le_rfl
          · exact (h.behind other (.inr hother)).1
        unfold Behind
        dsimp only
        omega
      · rw [hnone] at hother
        cases hother
  | recoveryId id =>
    obtain ⟨_, hresult⟩ | ⟨hsmall, hresult⟩ := s.factory.recoveryId_cases id
    · simp only [IssuedIds.step, hresult]
      refine ⟨h.sorted, fun other hother => h.behind other ?_, fun other hother hout => ?_, h.bound⟩
      · exact hother.imp_right Finset.mem_of_mem_erase
      · exact h.apart other hother (Finset.mem_of_mem_erase hout)
    · simp only [IssuedIds.step, hresult]
      refine ⟨IdFactory.insertId_sorted h.sorted, fun other hother => ?_, fun other hother hout => ?_,
        h.bound⟩
      · rcases hother with hother | hother
        · rcases IdFactory.mem_insertId.mp hother with rfl | hother
          · exact ⟨hsmall, hspares⟩
          · exact h.behind other (.inl hother)
        · exact h.behind other (.inr (Finset.mem_of_mem_erase hother))
      · obtain ⟨hne, hout⟩ := Finset.mem_erase.mp hout
        exact h.apart other ((IdFactory.mem_insertId.mp hother).resolve_left hne) hout

/-! ## Every run -/

/-- In a run that recovers no value which the counter would give out next, an
id that is outstanding is not returned again; and in every run what was
recovered can be issued again. -/
theorem issuedIds (seed : Int32) (is : List IdCall)
    (h : AllSteps IssuedIds.step Spares (create seed) is) :
    AllSteps IssuedIds.step Unique (create seed) is ∧
      Always IssuedIds.step Reissuable (create seed) is := by
  constructor
  · exact allSteps_of_allSteps (fun _ _ hkept hspares => hkept.step hspares)
      (fun _ _ hkept hspares => hkept.unique hspares) is _ (create_kept seed) h
  · have hheld : Always IssuedIds.step Held (create seed) is :=
      always_of_step (fun _ i hheld => hheld.step i) is _ (create_held seed)
    exact hheld.mono fun _ => Held.reissuable

theorem issuedIds_threeCalls :
    AllSteps IssuedIds.step Unique (create 1) [.generateId, .recoveryId 1, .generateId] ∧
      Always IssuedIds.step Reissuable (create 1) [.generateId, .recoveryId 1, .generateId] :=
  issuedIds 1 _ (by decide +kernel)

/-- A value is recovered before it was ever issued, and issued twice. -/
theorem counterexample_issuedIds :
    ¬ AllSteps IssuedIds.step Unique (create 1) [.recoveryId 1, .generateId, .generateId] := by
  rintro ⟨-, -, hunique, -⟩
  revert hunique
  unfold Unique
  decide +kernel

end IssuedIds

end FtMmi.DelegateTask
