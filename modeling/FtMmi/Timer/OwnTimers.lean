/-
FtMmi.Timer.OwnTimers — operations on timers of one kind.

The components share the manager, and each works with the ids of its own
timers. `Touches own` says of two lists that only timers of the kind came
and went between them; the others stand as they stood, and in their order.
An operation touches the timers of the kind if the id it is given names
one of them, or none.
-/
import FtMmi.Timer.TimerHistory

namespace FtMmi.Timer

variable {κ : Type} {own : κ → Bool} {m m' m'' : TimerManager κ}

/-! ## Inserting and filtering -/

theorem filter_insertTimer_of_not {p : TimerItem κ → Bool} {t : TimerItem κ} (hnot : p t = false)
    (timers : List (TimerItem κ)) : (insertTimer t timers).filter p = timers.filter p := by
  obtain ⟨before, after, htimers, hinsert, _, _⟩ := insertTimer_split t timers
  rw [hinsert, htimers]
  simp [hnot]

/-- A timer that is called no earlier than those of its kind stands behind
them. -/
theorem filter_insertTimer_of_latest {p : TimerItem κ → Bool} {t : TimerItem κ} (hp : p t = true)
    {timers : List (TimerItem κ)} (horder : InOrder timers)
    (hlatest : ∀ a ∈ timers, p a = true → a.nextCallTime ≤ t.nextCallTime) :
    (insertTimer t timers).filter p = timers.filter p ++ [t] := by
  obtain ⟨before, after, htimers, hinsert, _, hafter⟩ := insertTimer_split t timers
  have hnone : after.filter p = [] := by
    rw [List.filter_eq_nil_iff]
    intro a ha hpa
    have hle := hlatest a (htimers ▸ List.mem_append_right before ha) hpa
    rw [htimers, InOrder, List.pairwise_append] at horder
    cases after with
    | nil => cases ha
    | cons first after =>
      have hfirst := hafter first rfl
      rcases List.mem_cons.mp ha with rfl | ha
      · omega
      · have hbehind := (List.pairwise_cons.mp horder.2.1).1 a ha
        omega
  rw [hinsert, htimers]
  simp [hp, hnone]

/-! ## Timers of one kind -/

/-- Only timers of the kind come and go. -/
structure Touches (own : κ → Bool) (m m' : TimerManager κ) : Prop where
  others : (m'.timers.filter fun t => !own t.callback) = m.timers.filter fun t => !own t.callback
  order : InOrder m.timers → InOrder m'.timers

/-- The id is that of a timer of the kind. -/
def TimerManager.Names (m : TimerManager κ) (own : κ → Bool) (timerId : Int) : Prop :=
  ∃ t ∈ m.timers, t.id = timerId ∧ own t.callback = true

/-- The id is that of no timer of another kind. -/
def TimerManager.Owns (m : TimerManager κ) (own : κ → Bool) (timerId : Int) : Prop :=
  ∀ t ∈ m.timers, t.id = timerId → own t.callback = true

/-- An id is that of one timer. -/
theorem TimerManager.eq_of_id (m : TimerManager κ) {t t' : TimerItem κ} (ht : t ∈ m.timers)
    (ht' : t' ∈ m.timers) (hid : t.id = t'.id) : t = t' :=
  List.inj_on_of_nodup_map m.nodup ht ht' hid

theorem TimerManager.Names.owns {timerId : Int} (h : m.Names own timerId) :
    m.Owns own timerId := by
  obtain ⟨t, ht, hid, hown⟩ := h
  intro t' ht' hid'
  rw [m.eq_of_id ht' ht (hid'.trans hid.symm)]
  exact hown

/-- No timer has a negative id. -/
theorem TimerManager.owns_of_neg (m : TimerManager κ) (own : κ → Bool) {timerId : Int}
    (h : timerId < 0) : m.Owns own timerId := by
  intro t ht hid
  have hrange := m.range t ht
  omega

namespace Touches

theorem refl (m : TimerManager κ) : Touches own m m := ⟨rfl, id⟩

theorem trans (h : Touches own m m') (h' : Touches own m' m'') : Touches own m m'' :=
  ⟨h'.others.trans h.others, fun horder => h'.order (h.order horder)⟩

/-- What a filter finds that leaves the kind out. -/
theorem filter (h : Touches own m m') {p : TimerItem κ → Bool}
    (hp : ∀ t, p t = true → own t.callback = false) : m'.timers.filter p = m.timers.filter p := by
  have hboth : ∀ t : TimerItem κ, (p t && !own t.callback) = p t := by
    intro t
    cases hpt : p t with
    | false => rfl
    | true => simp [hp t hpt]
  have hfilter : ∀ timers : List (TimerItem κ),
      (timers.filter fun t => !own t.callback).filter p = timers.filter p := by
    intro timers
    rw [List.filter_filter]
    exact List.filter_congr fun t _ => hboth t
  rw [← hfilter m'.timers, h.others, hfilter]

theorem mem_iff (h : Touches own m m') {t : TimerItem κ} (hother : own t.callback = false) :
    t ∈ m'.timers ↔ t ∈ m.timers := by
  have hmem := congrArg (t ∈ ·) h.others
  simpa [hother] using hmem

/-- An id of another kind stays one. -/
theorem names (h : Touches own m m') {other : κ → Bool} {timerId : Int}
    (hother : ∀ callback, other callback = true → own callback = false)
    (hnames : m.Names other timerId) : m'.Names other timerId := by
  obtain ⟨t, ht, hid, hkind⟩ := hnames
  exact ⟨t, (h.mem_iff (hother _ hkind)).mpr ht, hid, hkind⟩

/-- Timers of the kind are taken out. -/
theorem of_filter {p : TimerItem κ → Bool} (htimers : m'.timers = m.timers.filter p)
    (hp : ∀ t ∈ m.timers, p t = false → own t.callback = true) : Touches own m m' := by
  refine ⟨?_, fun horder => htimers ▸ List.Pairwise.filter p horder⟩
  rw [htimers, List.filter_filter]
  refine List.filter_congr fun t ht => ?_
  cases hpt : p t with
  | true => simp
  | false => simp [hp t ht hpt]

/-- A timer of the kind is put in. -/
theorem of_insertTimer {t : TimerItem κ} (htimers : m'.timers = insertTimer t m.timers)
    (hown : own t.callback = true) : Touches own m m' := by
  refine ⟨?_, fun horder => htimers ▸ horder.insertTimer t⟩
  rw [htimers]
  exact filter_insertTimer_of_not (by simp [hown]) m.timers

theorem addTimer (m : TimerManager κ) (nowTime intervalMs repeatCount : Int) {callback : κ}
    (hown : own callback = true) :
    Touches own m (m.addTimer nowTime intervalMs repeatCount (some callback)).2 := by
  obtain ⟨_, hfail⟩ | ⟨t, rfl, _, _, _, _, _, _, htimers⟩ :=
    m.addTimer_inserts nowTime intervalMs repeatCount callback
  · rw [hfail]
    exact .refl m
  · exact of_insertTimer htimers hown

theorem removeTimer {timerId : Int} (h : m.Owns own timerId) :
    Touches own m (m.removeTimer timerId).2 := by
  refine of_filter (m.removeTimer_timers timerId) fun t ht hp => h t ht ?_
  simpa using hp

theorem foldl_removeTimer {α : Type*} (timerId : α → Int) {xs : List α}
    (h : ∀ x ∈ xs, m.Owns own (timerId x)) :
    Touches own m (xs.foldl (fun timers x => (timers.removeTimer (timerId x)).2) m) := by
  refine of_filter (TimerManager.foldl_removeTimer_timers timerId xs m) fun t ht hp => ?_
  obtain ⟨x, hx, hid⟩ := List.mem_map.mp (by simpa using hp : t.id ∈ xs.map timerId)
  exact h x hx t ht hid.symm

theorem resetTimer (nowTime : Int) {timerId : Int} (h : m.Owns own timerId) :
    Touches own m (m.resetTimer nowTime timerId).2 := by
  have hgone := of_filter (m.erase_timers timerId) fun t ht hp => h t ht (by simpa using hp)
  obtain ⟨_, heq⟩ | ⟨t, ht, hid, ⟨_, _, htimers⟩ | ⟨nextCallTime, _, _, htimers⟩⟩ :=
    m.resetTimer_inserts nowTime timerId
  · rw [heq]
    exact .refl m
  · rw [← m.erase_timers] at htimers
    exact ⟨htimers ▸ hgone.others, htimers ▸ hgone.order⟩
  · rw [← m.erase_timers] at htimers
    exact hgone.trans (of_insertTimer htimers (h t ht hid))

/-- A round of `ProcessTimers` that takes a timer of the kind. -/
theorem processNext (nowTime : Int)
    (h : ∀ t ∈ m.timers.head?, t.nextCallTime ≤ nowTime → own t.callback = true) :
    Touches own m (m.processNext nowTime).2 := by
  obtain ⟨_, hidle⟩ | ⟨t, rest, htimers, hdue, hcases⟩ := m.processNext_inserts nowTime
  · rw [hidle]
    exact .refl m
  · have hown := h t (by rw [htimers]; rfl) hdue
    have horder : InOrder m.timers → InOrder rest := by
      intro horder
      rw [htimers] at horder
      exact (List.pairwise_cons.mp horder).2
    have hrest : (rest.filter fun t => !own t.callback)
        = m.timers.filter fun t => !own t.callback := by
      rw [htimers]
      simp [hown]
    rcases hcases with ⟨_, _, _, heq⟩ | ⟨_, _, _, heq⟩ | ⟨_, _, nextCallTime, _, heq⟩
    · exact ⟨heq ▸ hrest, heq ▸ horder⟩
    · exact ⟨heq ▸ hrest, heq ▸ horder⟩
    · refine ⟨?_, fun h => heq ▸ (horder h).insertTimer _⟩
      rw [heq, filter_insertTimer_of_not (by simp [hown])]
      exact hrest

end Touches

end FtMmi.Timer
