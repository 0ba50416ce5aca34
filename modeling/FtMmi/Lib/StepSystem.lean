/-
FtMmi.Lib.StepSystem — runs of a deterministic step function.

A component is a state type `σ`, an input type `ι` and a function
`step : σ → ι → σ`; the environment's choices (which client calls, what
the kernel answers) are part of the input. A run is the list of its
inputs.

* `Always step P s is` — `P` holds of every state the run goes through,
  the first and the last included.
* `AllSteps step C s is` — every step of the run meets `C`, a condition
  on the state before the step and on the step's input.

The two are tied by `always_of_allSteps` (the induction behind every
invariant proof: one step lemma, and the run follows) and by
`always_iff_allSteps_of_inv`, its exact form: when the steps that meet the
condition keep the invariant, and the others lose the property it
implies, then a run has the property throughout precisely if all of its
steps meet the condition.
-/
import Mathlib

namespace FtMmi.Lib

variable {σ ι : Type*}

/-! ## Runs -/

/-- The state a run ends in. -/
def runFrom (step : σ → ι → σ) (s : σ) (is : List ι) : σ := is.foldl step s

@[simp] theorem runFrom_nil (step : σ → ι → σ) (s : σ) : runFrom step s [] = s := rfl

@[simp] theorem runFrom_cons (step : σ → ι → σ) (s : σ) (i : ι) (is : List ι) :
    runFrom step s (i :: is) = runFrom step (step s i) is := rfl

theorem runFrom_append (step : σ → ι → σ) (s : σ) (is js : List ι) :
    runFrom step s (is ++ js) = runFrom step (runFrom step s is) js :=
  List.foldl_append

/-- `P` holds of every state the run goes through. -/
def Always (step : σ → ι → σ) (P : σ → Prop) : σ → List ι → Prop
  | s, [] => P s
  | s, i :: is => P s ∧ Always step P (step s i) is

/-- Every step of the run meets `C`. -/
def AllSteps (step : σ → ι → σ) (C : σ → ι → Prop) : σ → List ι → Prop
  | _, [] => True
  | s, i :: is => C s i ∧ AllSteps step C (step s i) is

instance AllSteps.decidable {step : σ → ι → σ} {C : σ → ι → Prop}
    [hC : ∀ s i, Decidable (C s i)] : (s : σ) → (is : List ι) → Decidable (AllSteps step C s is)
  | _, [] => isTrue trivial
  | s, i :: is =>
      match hC s i, AllSteps.decidable (step s i) is with
      | isTrue h, isTrue hrest => isTrue ⟨h, hrest⟩
      | isFalse h, _ => isFalse fun hall => h hall.1
      | _, isFalse hrest => isFalse fun hall => hrest hall.2

/-! ## What holds in every state reached -/

theorem Always.head {step : σ → ι → σ} {P : σ → Prop} {s : σ} {is : List ι}
    (h : Always step P s is) : P s := by
  cases is with
  | nil => exact h
  | cons i is => exact h.1

/-- `Always` is what it says: `P` after every prefix of the run. -/
theorem always_iff_forall (step : σ → ι → σ) (P : σ → Prop) (s : σ) (is : List ι) :
    Always step P s is ↔ ∀ pre, pre <+: is → P (runFrom step s pre) := by
  induction is generalizing s with
  | nil =>
    constructor
    · intro h pre hpre
      rw [List.prefix_nil.mp hpre]
      exact h
    · intro h
      exact h [] (List.prefix_refl _)
  | cons i is ih =>
    constructor
    · rintro ⟨h0, h⟩ pre hpre
      cases pre with
      | nil => exact h0
      | cons j pre =>
        obtain ⟨rfl, hpre'⟩ := List.cons_prefix_cons.mp hpre
        exact (ih (step s j)).mp h pre hpre'
    · intro h
      refine ⟨h [] (List.nil_prefix), (ih (step s i)).mpr fun pre hpre => ?_⟩
      exact h (i :: pre) (List.cons_prefix_cons.mpr ⟨rfl, hpre⟩)

theorem Always.last {step : σ → ι → σ} {P : σ → Prop} {s : σ} {is : List ι}
    (h : Always step P s is) : P (runFrom step s is) :=
  (always_iff_forall step P s is).mp h is (List.prefix_refl _)

theorem Always.mono {step : σ → ι → σ} {P Q : σ → Prop} {s : σ} {is : List ι}
    (h : Always step P s is) (hPQ : ∀ s, P s → Q s) : Always step Q s is := by
  rw [always_iff_forall] at h ⊢
  exact fun pre hpre => hPQ _ (h pre hpre)

/-! ## The invariant rules -/

/-- A run that starts in the invariant and whose steps all meet a
condition under which a step keeps the invariant stays in it. -/
theorem always_of_allSteps {step : σ → ι → σ} {P : σ → Prop} {C : σ → ι → Prop}
    (hstep : ∀ s i, P s → C s i → P (step s i)) :
    ∀ (is : List ι) (s : σ), P s → AllSteps step C s is → Always step P s is
  | [], _, h0, _ => h0
  | i :: is, s, h0, hc =>
      ⟨h0, always_of_allSteps hstep is (step s i) (hstep s i h0 hc.1) hc.2⟩

/-- The exact form, with an invariant behind the property: the condition on
the steps is also necessary when no step that violates it keeps the
property. -/
theorem always_iff_allSteps_of_inv {step : σ → ι → σ} {inv P : σ → Prop} {C : σ → ι → Prop}
    (hP : ∀ s, inv s → P s) (hkeep : ∀ s i, inv s → C s i → inv (step s i))
    (hneed : ∀ s i, inv s → P (step s i) → C s i) :
    ∀ (is : List ι) (s : σ), inv s → (Always step P s is ↔ AllSteps step C s is)
  | [], s, h0 => ⟨fun _ => trivial, fun _ => hP s h0⟩
  | i :: is, s, h0 => by
      constructor
      · rintro ⟨_, h⟩
        have hc : C s i := hneed s i h0 h.head
        exact ⟨hc, (always_iff_allSteps_of_inv hP hkeep hneed is _ (hkeep s i h0 hc)).mp h⟩
      · rintro ⟨hc, hrest⟩
        exact ⟨hP s h0,
          (always_iff_allSteps_of_inv hP hkeep hneed is _ (hkeep s i h0 hc)).mpr hrest⟩

/-- When the property is its own invariant. -/
theorem always_iff_allSteps {step : σ → ι → σ} {P : σ → Prop} {C : σ → ι → Prop}
    (hstep : ∀ s i, P s → (P (step s i) ↔ C s i)) (is : List ι) (s : σ) (h0 : P s) :
    Always step P s is ↔ AllSteps step C s is :=
  always_iff_allSteps_of_inv (fun _ h => h) (fun s i h hc => (hstep s i h).mpr hc)
    (fun s i h h1 => (hstep s i h).mp h1) is s h0

/-- The exact form for what each step does: in the runs whose steps all meet
`W`, the steps have the property precisely if they meet the condition. -/
theorem allSteps_iff_of_inv {step : σ → ι → σ} {inv : σ → Prop} {W P C : σ → ι → Prop}
    (hiff : ∀ s i, inv s → W s i → (P s i ↔ C s i))
    (hkeep : ∀ s i, inv s → W s i → C s i → inv (step s i)) (is : List ι) (s : σ)
    (h0 : inv s) (hW : AllSteps step W s is) :
    AllSteps step P s is ↔ AllSteps step C s is := by
  induction is generalizing s with
  | nil => exact Iff.rfl
  | cons i is ih =>
    obtain ⟨hw, hrest⟩ := hW
    have hhead := hiff s i h0 hw
    constructor
    · intro h
      have hc : C s i := hhead.mp h.1
      exact ⟨hc, (ih _ (hkeep s i h0 hw hc) hrest).mp h.2⟩
    · intro h
      exact ⟨hhead.mpr h.1, (ih _ (hkeep s i h0 hw h.1) hrest).mpr h.2⟩

/-- When every step keeps the invariant. -/
theorem allSteps_iff_of_step {step : σ → ι → σ} {inv : σ → Prop} {P C : σ → ι → Prop}
    (hstep : ∀ s i, inv s → inv (step s i)) (hiff : ∀ s i, inv s → (P s i ↔ C s i))
    (is : List ι) (s : σ) (h0 : inv s) : AllSteps step P s is ↔ AllSteps step C s is := by
  induction is generalizing s with
  | nil => exact Iff.rfl
  | cons i is ih => exact and_congr (hiff s i h0) (ih (step s i) (hstep s i h0))

/-- The same property of every step, said in two ways. -/
theorem allSteps_congr {step : σ → ι → σ} {P C : σ → ι → Prop} (h : ∀ s i, P s i ↔ C s i)
    (is : List ι) (s : σ) : AllSteps step P s is ↔ AllSteps step C s is := by
  induction is generalizing s with
  | nil => exact Iff.rfl
  | cons i is ih => simp [AllSteps, h, ih]

theorem allSteps_and {step : σ → ι → σ} {C D : σ → ι → Prop} {is : List ι} {s : σ} :
    AllSteps step (fun s i => C s i ∧ D s i) s is ↔ AllSteps step C s is ∧ AllSteps step D s is := by
  induction is generalizing s with
  | nil => simp [AllSteps]
  | cons i is ih =>
    simp only [AllSteps, ih]
    exact and_and_and_comm

/-- An invariant every step keeps holds in every state of every run. -/
theorem always_of_step {step : σ → ι → σ} {P : σ → Prop}
    (hstep : ∀ s i, P s → P (step s i)) (is : List ι) (s : σ) (h0 : P s) :
    Always step P s is := by
  induction is generalizing s with
  | nil => exact h0
  | cons i is ih => exact ⟨h0, ih (step s i) (hstep s i h0)⟩

/-- What the invariant makes every step do, every step of every run does. -/
theorem allSteps_of_step {step : σ → ι → σ} {inv : σ → Prop} {C : σ → ι → Prop}
    (hstep : ∀ s i, inv s → inv (step s i)) (hC : ∀ s i, inv s → C s i) (is : List ι) (s : σ)
    (h0 : inv s) : AllSteps step C s is := by
  induction is generalizing s with
  | nil => trivial
  | cons i is ih => exact ⟨hC s i h0, ih (step s i) (hstep s i h0)⟩

/-- What the invariant makes a step do that meets the condition, the steps of a
run do that all meet it. -/
theorem allSteps_of_allSteps {step : σ → ι → σ} {I : σ → Prop} {C P : σ → ι → Prop}
    (hkeep : ∀ s i, I s → C s i → I (step s i)) (hP : ∀ s i, I s → C s i → P s i)
    (is : List ι) (s : σ) (h0 : I s) (h : AllSteps step C s is) : AllSteps step P s is := by
  induction is generalizing s with
  | nil => trivial
  | cons i is ih => exact ⟨hP s i h0 h.1, ih (step s i) (hkeep s i h0 h.1) h.2⟩

/-! ## Two runs -/

/-- A run of the component is a run of its abstraction, as long as its steps meet
a condition on the abstract state, and one of their own: runs of two states with
the same abstraction end in states with the same abstraction. -/
theorem runFrom_abstract {τ : Type*} {step : σ → ι → σ} (next : τ → ι → τ) (abstract : σ → τ)
    {inv : σ → Prop} (C : τ → ι → Prop) (D : σ → ι → Prop)
    (hstep : ∀ s i, inv s → C (abstract s) i → D s i →
      inv (step s i) ∧ abstract (step s i) = next (abstract s) i) (is : List ι) (s t : σ)
    (hs : inv s) (ht : inv t) (heq : abstract s = abstract t)
    (h : AllSteps step (fun s i => C (abstract s) i ∧ D s i) s is) (h' : AllSteps step D t is) :
    inv (runFrom step s is) ∧ inv (runFrom step t is) ∧
      abstract (runFrom step s is) = abstract (runFrom step t is) := by
  induction is generalizing s t with
  | nil => exact ⟨hs, ht, heq⟩
  | cons i is ih =>
    obtain ⟨⟨hc, hd⟩, hrest⟩ := h
    obtain ⟨hd', hrest'⟩ := h'
    obtain ⟨hs', hnext⟩ := hstep s i hs hc hd
    obtain ⟨ht', hnext'⟩ := hstep t i ht (heq ▸ hc) hd'
    exact ih (step s i) (step t i) hs' ht' (by rw [hnext, hnext', heq]) hrest hrest'

end FtMmi.Lib
