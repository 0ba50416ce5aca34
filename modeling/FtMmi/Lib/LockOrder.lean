/-
FtMmi.Lib.LockOrder — threads that run lock programs, and what keeps them
out of a deadlock.

A call is known by the sequence of lock operations it performs (`locks`).
Any number of threads run calls; a thread that is to acquire a lock which
somebody holds stays where it is. The locks are not recursive: the holder
may be the thread itself.

* `nestings [] p` — the pairs `(a, b)` with `b` acquired by `p` while it
  holds `a`.
* `Compatible locks c c'` — the two calls nest no two locks in opposite
  orders.
* `always_not_deadlock` — when calls enter only beside compatible ones, and
  any compatible set of calls can be ranked, no state of the run has a
  deadlock.
-/
import FtMmi.Lib.StepSystem

namespace FtMmi.Lib.LockOrder

/-! ## Lock programs -/

/-- One operation on a lock. -/
inductive LockOp (L : Type*) where
  | acquire (l : L)
  | release (l : L)
  deriving DecidableEq

variable {L C T : Type*} [DecidableEq L]

/-- A lock held for the length of a scope. -/
def guarded (l : L) (body : List (LockOp L)) : List (LockOp L) :=
  .acquire l :: (body ++ [LockOp.release l])

/-- A wait on a condition variable under the lock `l`, with `n` wake-ups: each
gives the lock back and takes it again. -/
def waits (l : L) : Nat → List (LockOp L)
  | 0 => []
  | n + 1 => .release l :: .acquire l :: waits l n

/-- The locks held after a program, for those held before it. -/
def heldAfter : List L → List (LockOp L) → List L
  | held, [] => held
  | held, .acquire l :: rest => heldAfter (l :: held) rest
  | held, .release l :: rest => heldAfter (held.erase l) rest

/-- The pairs `(a, b)` with `b` acquired while `a` is held. -/
def nestings : List L → List (LockOp L) → List (L × L)
  | _, [] => []
  | held, .acquire l :: rest => (held.map fun a => (a, l)) ++ nestings (l :: held) rest
  | held, .release l :: rest => nestings (held.erase l) rest

theorem heldAfter_append (held : List L) (p q : List (LockOp L)) :
    heldAfter held (p ++ q) = heldAfter (heldAfter held p) q := by
  induction p generalizing held with
  | nil => rfl
  | cons op p ih => cases op <;> exact ih _

theorem nestings_append (held : List L) (p q : List (LockOp L)) :
    nestings held (p ++ q) = nestings held p ++ nestings (heldAfter held p) q := by
  induction p generalizing held with
  | nil => rfl
  | cons op p ih => cases op <;> simp [nestings, heldAfter, ih]

theorem heldAfter_guarded {l : L} {held : List L} {body : List (LockOp L)}
    (h : heldAfter (l :: held) body = l :: held) : heldAfter held (guarded l body) = held := by
  simp [guarded, heldAfter, heldAfter_append, h]

theorem nestings_guarded {l : L} {held : List L} {body : List (LockOp L)} :
    nestings held (guarded l body) =
      (held.map fun a => (a, l)) ++ nestings (l :: held) body := by
  simp [guarded, nestings, nestings_append]

theorem heldAfter_waits (l : L) (held : List L) (n : Nat) :
    heldAfter (l :: held) (waits l n) = l :: held := by
  induction n with
  | zero => rfl
  | succ n ih => simpa [waits, heldAfter] using ih

/-- A wake-up nests the lock under what is held around the wait, as its
first acquisition did. -/
theorem mem_nestings_waits {l : L} {held : List L} {n : Nat} {pr : L × L}
    (h : pr ∈ nestings (l :: held) (waits l n)) : pr ∈ held.map fun a => (a, l) := by
  induction n with
  | zero => simp [waits, nestings] at h
  | succ n ih =>
    simp only [waits, nestings, List.erase_cons_head, List.mem_append] at h
    exact h.elim id ih

/-! ## Threads -/

/-- The threads and the locks: who holds each lock, and for each thread the
call it entered last and what is left of it. -/
structure State (L C T : Type*) where
  owner : L → Option T
  call : T → Option C
  rest : T → List (LockOp L)

/-- Nobody runs, nobody holds. -/
def State.init : State L C T where
  owner _ := none
  call _ := none
  rest _ := []

/-- The thread `t` is to acquire a lock that `t'` holds. -/
def State.WaitsFor (s : State L C T) (t t' : T) : Prop :=
  ∃ l rest, s.rest t = .acquire l :: rest ∧ s.owner l = some t'

/-- Threads that each wait for a lock held by another of them, or a thread
that waits for a lock it holds itself. -/
def State.Deadlock (s : State L C T) : Prop :=
  (∃ S : Set T, S.Nonempty ∧ ∀ t ∈ S, ∃ t' ∈ S, t' ≠ t ∧ s.WaitsFor t t') ∨
    ∃ t, s.WaitsFor t t

/-- The thread is inside the call. -/
def State.Runs (s : State L C T) (t : T) (c : C) : Prop :=
  s.rest t ≠ [] ∧ s.call t = some c

/-! ## Where a thread stands in its call -/

variable {locks : C → List (LockOp L)} {s : State L C T}

/-- What the thread has done of its call took every lock it holds. -/
def Traces (locks : C → List (LockOp L)) (s : State L C T) (t : T) : Prop :=
  ∃ c done, s.call t = some c ∧ locks c = done ++ s.rest t ∧
    ∀ l, s.owner l = some t → l ∈ heldAfter [] done

/-- Every thread is somewhere in its call, or idle with no lock. -/
def Followed (locks : C → List (LockOp L)) (s : State L C T) : Prop :=
  ∀ t, Traces locks s t ∨ (s.rest t = [] ∧ ∀ l, s.owner l ≠ some t)

theorem followed_init : Followed locks (State.init : State L C T) :=
  fun _ => .inr ⟨rfl, fun _ => nofun⟩

/-- A thread that has left its call holds nothing. -/
theorem Followed.idle (hl : ∀ c, heldAfter [] (locks c) = []) (hs : Followed locks s) {t : T}
    (hr : s.rest t = []) (l : L) : s.owner l ≠ some t := by
  intro ho
  obtain ⟨c, done, -, hsplit, hheld⟩ | ⟨-, hnone⟩ := hs t
  · rw [hr, List.append_nil] at hsplit
    have hempty : heldAfter [] done = [] := hsplit ▸ hl c
    have := hheld l ho
    rw [hempty] at this
    simp at this
  · exact hnone l ho

/-- A step of another thread, which gives it no lock and changes nothing of
its call, leaves a thread where it was. -/
theorem Followed.other {s' : State L C T} (hs : Followed locks s) {t : T}
    (hcall : s'.call t = s.call t) (hrest : s'.rest t = s.rest t)
    (howner : ∀ l, s'.owner l = some t → s.owner l = some t) :
    Traces locks s' t ∨ (s'.rest t = [] ∧ ∀ l, s'.owner l ≠ some t) := by
  obtain ⟨c, done, hc, hsplit, hheld⟩ | ⟨hr, hnone⟩ := hs t
  · exact .inl ⟨c, done, hcall.trans hc, hrest ▸ hsplit, fun l ho => hheld l (howner l ho)⟩
  · exact .inr ⟨hrest.trans hr, fun l ho => hnone l (howner l ho)⟩

/-! ## A rank rules a deadlock out -/

/-- A lock a waiting thread holds is nested around the one it waits for. -/
theorem Followed.nested (hs : Followed locks s) {t : T} {l a : L} {rest : List (LockOp L)}
    (hr : s.rest t = .acquire l :: rest) (ho : s.owner a = some t) :
    ∃ c, s.Runs t c ∧ (a, l) ∈ nestings [] (locks c) := by
  obtain ⟨c, done, hc, hsplit, hheld⟩ | ⟨hnil, -⟩ := hs t
  · refine ⟨c, ⟨by simp [hr], hc⟩, ?_⟩
    rw [hsplit, hr, nestings_append]
    simp [nestings, hheld a ho]
  · simp [hr] at hnil

/-- When every call that runs takes its locks in the order of one rank,
the chain of waiting threads ends: the one that waits for the highest lock
waits for nobody of the set. -/
theorem not_deadlock_of_rank [Finite L] {α : Type*} [Preorder α] {rank : L → α}
    (hs : Followed locks s)
    (hrank : ∀ t c, s.Runs t c → ∀ pr ∈ nestings [] (locks c), rank pr.1 < rank pr.2) :
    ¬ s.Deadlock := by
  have hup : ∀ {t l a rest}, s.rest t = .acquire l :: rest → s.owner a = some t →
      rank a < rank l := by
    intro t l a rest hr ho
    obtain ⟨c, hruns, hmem⟩ := hs.nested hr ho
    exact hrank t c hruns _ hmem
  rintro (⟨S, ⟨t₀, ht₀⟩, hS⟩ | ⟨t, l, rest, hr, ho⟩)
  · -- the locks that members wait for and members hold
    let W : Set L := {l | ∃ t ∈ S, ∃ t' ∈ S, ∃ rest,
      s.rest t = .acquire l :: rest ∧ s.owner l = some t'}
    have hW : W.Nonempty := by
      obtain ⟨t', ht', -, l, rest, hr, ho⟩ := hS t₀ ht₀
      exact ⟨l, t₀, ht₀, t', ht', rest, hr, ho⟩
    obtain ⟨l, ⟨t, -, t', ht', rest, -, ho⟩, hmax⟩ := W.toFinite.exists_maximalFor rank W hW
    obtain ⟨t'', ht'', -, l', rest', hr', ho'⟩ := hS t' ht'
    have hlt : rank l < rank l' := hup hr' ho
    exact hlt.not_ge (hmax ⟨t', ht', t'', ht'', rest', hr', ho'⟩ hlt.le)
  · exact (hup hr ho).false

/-! ## Steps -/

/-- What the scheduler may do. -/
inductive Event (C T : Type*) where
  /-- the thread enters a call -/
  | enter (t : T) (c : C)
  /-- the thread performs the next operation of its call -/
  | next (t : T)
  deriving DecidableEq

variable [DecidableEq T]

/-- A thread enters a call once it has left the last one; to acquire a lock
it waits until nobody holds it. -/
def step (locks : C → List (LockOp L)) (s : State L C T) : Event C T → State L C T
  | .enter t c =>
      if s.rest t = [] then
        { s with call := Function.update s.call t (some c),
                 rest := Function.update s.rest t (locks c) }
      else s
  | .next t =>
      match s.rest t with
      | [] => s
      | .acquire l :: rest =>
          if s.owner l = none then
            { s with owner := Function.update s.owner l (some t),
                     rest := Function.update s.rest t rest }
          else s
      | .release l :: rest =>
          { s with owner := if s.owner l = some t then Function.update s.owner l none else s.owner,
                   rest := Function.update s.rest t rest }

theorem followed_step (hl : ∀ c, heldAfter [] (locks c) = []) (hs : Followed locks s) (e : Event C T) :
    Followed locks (step locks s e) := by
  cases e with
  | enter t c =>
    by_cases hr : s.rest t = []
    · intro t'
      simp only [step, hr, if_true]
      by_cases ht : t' = t
      · subst ht
        exact .inl ⟨c, [], by simp, by simp, fun l ho => (hs.idle hl hr l ho).elim⟩
      · exact hs.other (by simp [ht]) (by simp [ht]) fun l ho => ho
    · simpa [step, hr] using hs
  | next t =>
    cases hr : s.rest t with
    | nil => simpa [step, hr] using hs
    | cons op rest =>
      -- the thread has not left its call
      have htr : Traces locks s t := (hs t).resolve_right fun h => by simp [hr] at h
      obtain ⟨c, done, hc, hsplit, hheld⟩ := htr
      rw [hr] at hsplit
      cases op with
      | acquire l =>
        by_cases ho : s.owner l = none
        · intro t'
          simp only [step, hr, ho, if_true]
          by_cases ht : t' = t
          · subst ht
            refine .inl ⟨c, done ++ [LockOp.acquire l], hc, by simpa using hsplit, fun l' ho' => ?_⟩
            rw [heldAfter_append]
            by_cases hll : l' = l
            · simp [heldAfter, hll]
            · simpa [heldAfter, hll] using hheld l' (by simpa [hll] using ho')
          · refine hs.other rfl (by simp [ht]) fun l' ho' => ?_
            by_cases hll : l' = l
            · simp [hll, Ne.symm ht] at ho'
            · simpa [hll] using ho'
        · simpa [step, hr, ho] using hs
      | release l =>
        -- nobody gains a lock, and the thread loses the one it gives back
        have howner : ∀ t' l', (step locks s (.next t)).owner l' = some t' →
            s.owner l' = some t' ∧ (l' = l → t' ≠ t) := by
          intro t' l' ho'
          simp only [step, hr] at ho'
          by_cases hot : s.owner l = some t <;> by_cases hll : l' = l
          · simp [hot, hll] at ho'
          · exact ⟨by simpa [hot, hll] using ho', fun h => (hll h).elim⟩
          · subst hll
            rw [if_neg hot] at ho'
            exact ⟨ho', fun _ h => hot (h ▸ ho')⟩
          · exact ⟨by simpa [hot] using ho', fun h => (hll h).elim⟩
        intro t'
        by_cases ht : t' = t
        · subst ht
          refine .inl ⟨c, done ++ [LockOp.release l], by simpa [step, hr] using hc,
            by simpa [step, hr] using hsplit, fun l' ho' => ?_⟩
          obtain ⟨hold, hne⟩ := howner t' l' ho'
          rw [heldAfter_append]
          exact (List.mem_erase_of_ne fun h => hne h rfl).mpr (hheld l' hold)
        · exact hs.other (by simp [step, hr]) (by simp [step, hr, ht]) fun l' ho' =>
            (howner t' l' ho').1

/-! ## Calls that run beside each other -/

/-- The two calls nest no two locks in opposite orders. -/
def Compatible (locks : C → List (LockOp L)) (c c' : C) : Prop :=
  ∀ pr ∈ nestings [] (locks c), pr.swap ∉ nestings [] (locks c')

instance (locks : C → List (LockOp L)) (c c' : C) : Decidable (Compatible locks c c') :=
  inferInstanceAs (Decidable (∀ pr ∈ nestings [] (locks c), pr.swap ∉ nestings [] (locks c')))

theorem Compatible.symm {c c' : C} (h : Compatible locks c c') : Compatible locks c' c := by
  intro pr hpr hswap
  exact h pr.swap hswap (by simpa using hpr)

/-- A thread enters a call only beside calls it is compatible with. -/
def EntersCompatibly (locks : C → List (LockOp L)) (s : State L C T) : Event C T → Prop
  | .enter _ c => ∀ t', s.rest t' ≠ [] → ∀ c' ∈ s.call t', Compatible locks c c'
  | .next _ => True

/-- The calls that run are compatible with each other. -/
def RunCompatibly (locks : C → List (LockOp L)) (s : State L C T) : Prop :=
  ∀ t t' c c', s.Runs t c → s.Runs t' c' → Compatible locks c c'

/-- The calls that run after a step ran before it, the one just entered
apart. -/
theorem runs_step {t : T} {c : C} {e : Event C T} (h : (step locks s e).Runs t c) :
    s.Runs t c ∨ e = .enter t c := by
  cases e with
  | enter u d =>
    by_cases hr : s.rest u = []
    · by_cases ht : t = u
      · subst ht
        obtain ⟨-, hc⟩ := h
        simp only [step, hr, if_true, Function.update_self, Option.some.injEq] at hc
        exact .inr (hc ▸ rfl)
      · simpa [step, hr, State.Runs, ht] using Or.inl h
    · exact .inl (by simpa [step, hr] using h)
  | next u =>
    left
    cases hr : s.rest u with
    | nil => simpa [step, hr] using h
    | cons op rest =>
      cases op with
      | acquire l =>
        by_cases ho : s.owner l = none
        · by_cases ht : t = u
          · subst ht
            simp only [step, hr, ho, if_true, State.Runs] at h
            exact ⟨by simp [hr], h.2⟩
          · simpa [step, hr, ho, State.Runs, ht] using h
        · simpa [step, hr, ho] using h
      | release l =>
        by_cases ht : t = u
        · subst ht
          simp only [step, hr, State.Runs] at h
          exact ⟨by simp [hr], h.2⟩
        · simpa [step, hr, State.Runs, ht] using h

theorem runCompatibly_step (hself : ∀ c, Compatible locks c c) (hs : RunCompatibly locks s)
    {e : Event C T} (he : EntersCompatibly locks s e) : RunCompatibly locks (step locks s e) := by
  intro t t' c c' hc hc'
  rcases runs_step hc with h | rfl <;> rcases runs_step hc' with h' | h'
  · exact hs t t' c c' h h'
  · subst h'
    exact (he t h.1 c h.2).symm
  · exact he t' h'.1 c' h'.2
  · injection h' with _ hcc
    subst hcc
    exact hself c

/-- **Locks taken in compatible orders.** When every call gives back what it
takes, calls enter only beside compatible ones, and every compatible set of
calls can be ranked, no state of the run has a deadlock. -/
theorem always_not_deadlock [Finite L] {α : Type*} [Preorder α] (hl : ∀ c, heldAfter [] (locks c) = [])
    (hself : ∀ c, Compatible locks c c)
    (hrank : ∀ cs : Set C, (∀ c ∈ cs, ∀ c' ∈ cs, Compatible locks c c') →
      ∃ rank : L → α, ∀ c ∈ cs, ∀ pr ∈ nestings [] (locks c), rank pr.1 < rank pr.2)
    {events : List (Event C T)}
    (h : AllSteps (step locks) (EntersCompatibly locks) State.init events) :
    Always (step locks) (fun s => ¬ s.Deadlock) State.init events := by
  have hinv : Always (step locks) (fun s => Followed locks s ∧ RunCompatibly locks s)
      State.init events :=
    always_of_allSteps
      (fun s e hs he => ⟨followed_step hl hs.1 e, runCompatibly_step hself hs.2 he⟩) events _
      ⟨followed_init, fun t _ c _ hc => (hc.1 rfl).elim⟩ h
  refine hinv.mono fun s hs => ?_
  obtain ⟨rank, hr⟩ := hrank {c | ∃ t, s.Runs t c}
    (by rintro c ⟨t, ht⟩ c' ⟨t', ht'⟩; exact hs.2 t t' c c' ht ht')
  exact not_deadlock_of_rank hs.1 fun t c hc => hr c ⟨t, hc⟩

end FtMmi.Lib.LockOrder
