/-
FtMmi.InputDeviceCooperate.RemoteInputAnswers — that every request to the
distributed-input kit gets its own answer, once.

There is one place for a callback for each type, and nothing tells which
request a result or a timer is about. The adapter also forgets its timers in
two ways: a request that returns an error leaves its callback and its timer
behind, and after a timeout the id of the timer that is gone stays in
`watchingMap_`, where the next result finds it.

`ownAnswerOnce_of_met` says which steps have to be excluded, and
`counterexample_ownAnswerOnce` that they are there.
-/
import FtMmi.InputDeviceCooperate.DistributedInputAdapter
import FtMmi.Lib.StepSystem

namespace FtMmi.InputDeviceCooperate.DistributedInputAdapter

open FtMmi.Lib
open FtMmi.Timer

namespace DInput

/-! ## The property -/

/-- The requests that have got an answer. -/
def answered (s : DInput) : List Nat := s.answers.map Prod.fst

/-- The requests whose result has been reported. -/
def reported (s : DInput) : List Nat := s.results.map Prod.fst

/-- The closure of `AddTimer` for a type. -/
def isWatch (type : CallbackType) : TimerCallback → Bool
  | .watch type' _ => decide (type' = type)
  | .other => false

structure OwnAnswerOnce (s : DInput) : Prop where
  once : s.answered.Nodup
  /-- An answer is the request's own result, or `false` on its timeout. -/
  own : ∀ req isSuccess, (req, isSuccess) ∈ s.answers →
    (∃ status, (req, status) ∈ s.results ∧ isSuccess = decide (status = retOk)) ∨
      (isSuccess = false ∧ req ∈ s.expired)
  answered : ∀ req q, s.requests[req]? = some q → q.returned = .kit retOk →
    req ∈ s.reported ∨ req ∈ s.expired → req ∈ s.answered
  refused : ∀ req q, s.requests[req]? = some q → q.returned ≠ .kit retOk → req ∉ s.answered
  removesOwn : ∀ r ∈ s.removed, isWatch r.1 r.2 = true

/-! ## The condition -/

/-- The timer with the id kept for a type, if there is one, is the type's. -/
def WatchesOwn (s : DInput) (type : CallbackType) : Prop :=
  ∀ info ∈ s.watchingMap type, ∀ t ∈ s.timers.timers, t.id = info.timerId →
    isWatch type t.callback = true

/-- The timer with an id, if there is one, is another component's. -/
def Foreign (s : DInput) (timerId : Int) : Prop :=
  ∀ t ∈ s.timers.timers, t.id = timerId → t.callback = .other

/-- A request returns `RET_OK` if it gets as far as the kit, and comes when no
callback of its type is waiting. A result finds the callback of its request,
or none, and no timer of another's under the id kept for its type. Other
components leave the adapter's timers alone. -/
def Met (s : DInput) : DInputEvent → Prop
  | .request type allocated ret _ => allocated = true → ret = retOk ∧ s.callbackMap type = none
  | .result req _ =>
      ∀ q ∈ s.requests[req]?,
        (s.callbackMap q.type = none ∨ s.callbackMap q.type = some req) ∧ s.WatchesOwn q.type
  | .processTimer _ => True
  | .addTimer .. => True
  | .removeTimer timerId => s.Foreign timerId
  | .resetTimer _ timerId => s.Foreign timerId

instance (s : DInput) (type : CallbackType) : Decidable (s.WatchesOwn type) :=
  inferInstanceAs (Decidable (∀ info ∈ s.watchingMap type, _))

instance (s : DInput) (timerId : Int) : Decidable (s.Foreign timerId) :=
  inferInstanceAs (Decidable (∀ t ∈ s.timers.timers, _))

instance (s : DInput) (e : DInputEvent) : Decidable (s.Met e) := by
  cases e with
  | request type allocated ret nowTime => exact inferInstanceAs (Decidable (_ → _))
  | result req status => exact inferInstanceAs (Decidable (∀ q ∈ s.requests[req]?, _))
  | processTimer nowTime => exact inferInstanceAs (Decidable True)
  | addTimer nowTime intervalMs repeatCount => exact inferInstanceAs (Decidable True)
  | removeTimer timerId => exact inferInstanceAs (Decidable (s.Foreign timerId))
  | resetTimer nowTime timerId => exact inferInstanceAs (Decidable (s.Foreign timerId))

/-! ## The invariant -/

/-- A timer of the adapter watches the callback that is waiting, and has gone
off as often as `watchingMap_` says. -/
structure Watches (s : DInput) (t : TimerItem TimerCallback) (type : CallbackType) (req : Nat) :
    Prop where
  callback : s.callbackMap type = some req
  info : s.watchingMap type = some ⟨t.callbackCount, t.id⟩
  repeats : t.repeatCount = retryTime
  count : t.callbackCount = 0 ∨ t.callbackCount = 1

structure Answering (s : DInput) : Prop where
  waiting : ∀ type req, s.callbackMap type = some req →
    s.requests[req]? = some ⟨type, .kit retOk⟩ ∧ req ∉ s.answered ∧ req ∉ s.expired ∧
      req ∉ s.reported
  watching : ∀ t ∈ s.timers.timers, ∀ type req, t.callback = .watch type req → s.Watches t type req
  settled : ∀ req type, s.requests[req]? = some ⟨type, .kit retOk⟩ →
    s.callbackMap type = some req ∨ req ∈ s.answered
  known : ∀ req, req ∈ s.reported ∨ req ∈ s.expired → req < s.requests.length
  once : s.answered.Nodup
  own : ∀ req isSuccess, (req, isSuccess) ∈ s.answers →
    (∃ status, (req, status) ∈ s.results ∧ isSuccess = decide (status = retOk)) ∨
      (isSuccess = false ∧ req ∈ s.expired)
  refused : ∀ req q, s.requests[req]? = some q → q.returned ≠ .kit retOk → req ∉ s.answered
  removesOwn : ∀ r ∈ s.removed, isWatch r.1 r.2 = true

theorem Answering.ownAnswerOnce {s : DInput} (h : s.Answering) : s.OwnAnswerOnce where
  once := h.once
  own := h.own
  answered := by
    intro req q hq hret hend
    obtain ⟨type, returned⟩ := q
    simp only at hret
    subst hret
    rcases h.settled req type hq with hwait | hdone
    · obtain ⟨-, -, hexpired, hreported⟩ := h.waiting type req hwait
      rcases hend with hend | hend
      · exact absurd hend hreported
      · exact absurd hend hexpired
    · exact hdone
  refused := h.refused
  removesOwn := h.removesOwn

/-- Only requests that have been made are answered. -/
theorem Answering.answered_lt {s : DInput} (h : s.Answering) {req : Nat} (hreq : req ∈ s.answered) :
    req < s.requests.length := by
  obtain ⟨⟨req', isSuccess⟩, hmem, rfl⟩ := List.mem_map.mp hreq
  rcases h.own req' isSuccess hmem with ⟨status, hstatus, -⟩ | ⟨-, hexpired⟩
  · exact h.known req' (.inl (List.mem_map.mpr ⟨_, hstatus, rfl⟩))
  · exact h.known req' (.inr hexpired)

theorem create_answering : create.Answering where
  waiting := fun _ _ h => nomatch h
  watching := fun _ h => nomatch h
  settled := fun _ _ h => nomatch h
  known := by
    intro req h
    rcases h with h | h
    · cases h
    · cases h
  once := List.nodup_nil
  own := fun _ _ h => nomatch h
  refused := fun _ _ h => nomatch h
  removesOwn := fun _ h => nomatch h

/-! ## Lists -/

theorem getElem?_append_of_some {α : Type} {as : List α} {i : Nat} {a : α} (h : as[i]? = some a)
    (bs : List α) : (as ++ bs)[i]? = some a := by
  have hlt := (List.getElem?_eq_some_iff.mp h).1
  rw [List.getElem?_append_left hlt, h]

theorem getElem?_append_singleton {α : Type} {as : List α} {i : Nat} {a b : α}
    (h : (as ++ [b])[i]? = some a) : as[i]? = some a ∨ (i = as.length ∧ a = b) := by
  by_cases hlt : i < as.length
  · rw [List.getElem?_append_left hlt] at h
    exact .inl h
  · have hi := (List.getElem?_eq_some_iff.mp h).1
    rw [List.length_append, List.length_singleton] at hi
    have heq : i = as.length := by omega
    subst heq
    simp at h
    exact .inr ⟨rfl, h.symm⟩

/-! ## Timers -/

/-- The adapter's timers among `timers'` are timers it had. -/
def Retains (timers timers' : List (TimerItem TimerCallback)) : Prop :=
  ∀ t' ∈ timers', t'.callback = .other ∨ t' ∈ timers

theorem Answering.retime {s : DInput} (h : s.Answering) {m : TimerManager TimerCallback}
    (hm : Retains s.timers.timers m.timers) : Answering { s with timers := m } where
  waiting := h.waiting
  watching := by
    intro t ht type req hcallback
    rcases hm t ht with hother | hold
    · rw [hother] at hcallback
      cases hcallback
    · have hw := h.watching t hold type req hcallback
      exact ⟨hw.callback, hw.info, hw.repeats, hw.count⟩
  settled := h.settled
  known := h.known
  once := h.once
  own := h.own
  refused := h.refused
  removesOwn := h.removesOwn

theorem retains_addTimer (m : TimerManager TimerCallback) (nowTime intervalMs repeatCount : Int) :
    Retains m.timers (m.addTimer nowTime intervalMs repeatCount (some .other)).2.timers := by
  intro t' ht'
  obtain ⟨_, hsame⟩ | ⟨t, hcallback, _, _, _, _, _, hperm⟩ :=
    m.addTimer_cases nowTime intervalMs repeatCount .other
  · rw [hsame] at ht'
    exact .inr ht'
  · rcases List.mem_cons.mp (hperm.mem_iff.mp ht') with rfl | hold
    · exact .inl hcallback
    · exact .inr hold

theorem retains_removeTimer (m : TimerManager TimerCallback) (timerId : Int) :
    Retains m.timers (m.removeTimer timerId).2.timers := by
  intro t' ht'
  rw [m.removeTimer_timers] at ht'
  exact .inr (List.mem_filter.mp ht').1

theorem retains_resetTimer {s : DInput} (nowTime : Int) {timerId : Int} (h : s.Foreign timerId) :
    Retains s.timers.timers (s.timers.resetTimer nowTime timerId).2.timers := by
  intro t' ht'
  obtain ⟨_, hsame⟩ | ⟨t, ht, hid, ⟨_, heq⟩ | ⟨_, nextCallTime, hperm⟩⟩ :=
    s.timers.resetTimer_cases nowTime timerId
  · rw [hsame] at ht'
    exact .inr ht'
  · rw [heq] at ht'
    exact .inr (List.mem_filter.mp ht').1
  · rcases List.mem_cons.mp (hperm.mem_iff.mp ht') with rfl | hold
    · exact .inl (h t ht hid)
    · exact .inr (List.mem_filter.mp hold).1

/-! ## A request -/

/-- A request that does not get as far as the kit. -/
theorem Answering.fail {s : DInput} (h : s.Answering) (type : CallbackType) :
    Answering { s with requests := s.requests ++ [⟨type, .errorNullPointer⟩] } where
  waiting := by
    intro type' req hreq
    obtain ⟨hq, hrest⟩ := h.waiting type' req hreq
    exact ⟨getElem?_append_of_some hq _, hrest⟩
  watching := fun t ht type' req hcallback =>
    have hw := h.watching t ht type' req hcallback
    ⟨hw.callback, hw.info, hw.repeats, hw.count⟩
  settled := by
    intro req type' hreq
    rcases getElem?_append_singleton hreq with hold | ⟨-, hnew⟩
    · exact h.settled req type' hold
    · cases hnew
  known := by
    intro req hend
    have hlt := h.known req hend
    rw [List.length_append]
    omega
  once := h.once
  own := h.own
  refused := by
    intro req q hq hret
    rcases getElem?_append_singleton hq with hold | ⟨hreq, -⟩
    · exact h.refused req q hold hret
    · intro hmem
      have hlt := h.answered_lt hmem
      omega
  removesOwn := h.removesOwn

theorem saveCallback_requests (s : DInput) (type : CallbackType) (req : Nat) (nowTime : Int) :
    (s.saveCallback type req nowTime).requests = s.requests := by
  unfold saveCallback addTimer
  simp only
  split <;> rfl

/-- A request whose callback is saved, with a timer or without. -/
theorem Answering.save {s : DInput} (h : s.Answering) {type : CallbackType}
    (hnone : s.callbackMap type = none) (nowTime : Int) :
    Answering
      { s.saveCallback type s.requests.length nowTime with
        requests := s.requests ++ [⟨type, .kit retOk⟩] } := by
  -- The adapter's old timers are about other types.
  have hother : ∀ t ∈ s.timers.timers, ∀ type' req, t.callback = .watch type' req →
      type' ≠ type := by
    rintro t ht type' req hcallback rfl
    have hwait := (h.watching t ht type' req hcallback).callback
    rw [hnone] at hwait
    cases hwait
  have hcore : ∀ (m : TimerManager TimerCallback) (watchingMap : CallbackType → Option TimerInfo),
      (∀ type' ≠ type, watchingMap type' = s.watchingMap type') →
      (∀ t ∈ m.timers, t ∈ s.timers.timers ∨ (t.callback = .watch type s.requests.length ∧
        watchingMap type = some ⟨t.callbackCount, t.id⟩ ∧ t.repeatCount = retryTime ∧
        t.callbackCount = 0)) →
      Answering
        { s with
          callbackMap := Function.update s.callbackMap type (some s.requests.length)
          timers := m
          watchingMap
          requests := s.requests ++ [⟨type, .kit retOk⟩] } := by
    intro m watchingMap hwatching hm
    constructor
    · intro type' req hreq
      by_cases htype : type' = type
      · subst htype
        simp only [Function.update_self, Option.some.injEq] at hreq
        subst hreq
        refine ⟨by simp, fun hmem => ?_, fun hmem => ?_, fun hmem => ?_⟩
        · exact absurd (h.answered_lt hmem) (Nat.lt_irrefl _)
        · exact absurd (h.known _ (.inr hmem)) (Nat.lt_irrefl _)
        · exact absurd (h.known _ (.inl hmem)) (Nat.lt_irrefl _)
      · simp only [Function.update_of_ne htype] at hreq
        obtain ⟨hq, hrest⟩ := h.waiting type' req hreq
        exact ⟨getElem?_append_of_some hq _, hrest⟩
    · intro t ht type' req hcallback
      rcases hm t ht with hold | ⟨hnew, hinfo, hrepeats, hcount⟩
      · have hne := hother t hold type' req hcallback
        have hw := h.watching t hold type' req hcallback
        refine ⟨?_, ?_, hw.repeats, hw.count⟩
        · simp only [Function.update_of_ne hne]
          exact hw.callback
        · rw [← hw.info]
          exact hwatching type' hne
      · rw [hnew] at hcallback
        cases hcallback
        exact ⟨Function.update_self .., hinfo, hrepeats, .inl hcount⟩
    · intro req type' hreq
      rcases getElem?_append_singleton hreq with hold | ⟨rfl, hnew⟩
      · by_cases htype : type' = type
        · subst htype
          rcases h.settled req type' hold with hwait | hdone
          · rw [hnone] at hwait
            cases hwait
          · exact .inr hdone
        · simp only [Function.update_of_ne htype]
          exact h.settled req type' hold
      · cases hnew
        exact .inl (Function.update_self ..)
    · intro req hend
      have hlt := h.known req hend
      rw [List.length_append]
      omega
    · exact h.once
    · exact h.own
    · intro req q hq hret
      rcases getElem?_append_singleton hq with hold | ⟨-, rfl⟩
      · exact h.refused req q hold hret
      · exact absurd rfl hret
    · exact h.removesOwn
  unfold saveCallback addTimer
  simp only
  obtain ⟨hid, hsame⟩ | ⟨t, hcallback, hrepeat, hcount, hpos, _, hid, hperm⟩ :=
    s.timers.addTimer_cases nowTime defaultDelayTime retryTime (.watch type s.requests.length)
  · rw [hid, if_pos (by decide)]
    refine hcore _ _ (fun _ _ => rfl) fun t ht => ?_
    rw [hsame] at ht
    exact .inl ht
  · rw [hid, if_neg (by omega)]
    refine hcore _ _ (fun type' hne => Function.update_of_ne hne ..) fun t' ht' => ?_
    rcases List.mem_cons.mp (hperm.mem_iff.mp ht') with rfl | hold
    · refine .inr ⟨hcallback, ?_, hrepeat, hcount⟩
      simp only [Function.update_self, hcount]
    · exact .inl hold

/-! ## A result -/

/-- After `RemoveTimer` no timer watches the type. -/
theorem Answering.removeTimer {s : DInput} (h : s.Answering) {type : CallbackType}
    (hown : s.WatchesOwn type) :
    (s.removeTimer type).Answering ∧
      ∀ t ∈ (s.removeTimer type).timers.timers, isWatch type t.callback = false := by
  have hwatch : ∀ t ∈ s.timers.timers, isWatch type t.callback = true →
      s.watchingMap type = some ⟨t.callbackCount, t.id⟩ := by
    intro t ht htype
    cases hcallback : t.callback with
    | other => simp [hcallback, isWatch] at htype
    | watch type' req =>
      have heq : type' = type := by simpa [hcallback, isWatch] using htype
      subst heq
      exact (h.watching t ht type' req hcallback).info
  unfold DInput.removeTimer
  cases hinfo : s.watchingMap type with
  | none =>
    refine ⟨h, fun t ht => ?_⟩
    cases htype : isWatch type t.callback with
    | false => rfl
    | true =>
      have hsome := hwatch t ht htype
      rw [hinfo] at hsome
      cases hsome
  | some info =>
    have hgone : ∀ t ∈ (s.timers.removeTimer info.timerId).2.timers,
        t ∈ s.timers.timers ∧ isWatch type t.callback = false := by
      intro t ht
      rw [s.timers.removeTimer_timers] at ht
      obtain ⟨hold, hid⟩ := List.mem_filter.mp ht
      refine ⟨hold, ?_⟩
      cases htype : isWatch type t.callback with
      | false => rfl
      | true =>
        have hsome := hwatch t hold htype
        rw [hinfo] at hsome
        cases hsome
        simp at hid
    refine ⟨?_, fun t ht => (hgone t ht).2⟩
    constructor
    · exact h.waiting
    · intro t ht type' req hcallback
      obtain ⟨hold, hfalse⟩ := hgone t ht
      have hw := h.watching t hold type' req hcallback
      have hne : type' ≠ type := by
        rintro rfl
        simp [hcallback, isWatch] at hfalse
      refine ⟨hw.callback, ?_, hw.repeats, hw.count⟩
      simp only [Function.update_of_ne hne]
      exact hw.info
    · exact h.settled
    · exact h.known
    · exact h.once
    · exact h.own
    · exact h.refused
    · intro r hr
      rcases List.mem_append.mp hr with hr | hr
      · exact h.removesOwn r hr
      · obtain ⟨t, ht, rfl⟩ := List.mem_map.mp hr
        obtain ⟨hmem, hid⟩ := List.mem_filter.mp ht
        exact hown info hinfo t hmem (of_decide_eq_true hid)

/-- The callback of a request is called, with nothing that watches it any more,
and what it is called with has a reason that is recorded. -/
theorem Answering.answer {s : DInput} (h : s.Answering) {type : CallbackType} {req : Nat}
    (hwait : s.callbackMap type = some req)
    (hunwatched : ∀ t ∈ s.timers.timers, isWatch type t.callback = false)
    (isSuccess : Bool) (results : List (Nat × Int)) (expired : List Nat)
    (hresults : ∀ r ∈ results, r.1 = req) (hexpired : ∀ r ∈ expired, r = req)
    (hreason : (∃ status, (req, status) ∈ results ∧ isSuccess = decide (status = retOk)) ∨
      (isSuccess = false ∧ req ∈ expired)) :
    Answering
      { s.answer type req isSuccess with
        results := s.results ++ results
        expired := s.expired ++ expired } := by
  obtain ⟨hreq, hunanswered, -, -⟩ := h.waiting type req hwait
  have hlt : req < s.requests.length := (List.getElem?_eq_some_iff.mp hreq).1
  have hreported : ∀ r : Nat, r ∈ (s.results ++ results).map Prod.fst →
      r ∈ s.reported ∨ r = req := by
    intro r hr
    obtain ⟨p, hp, rfl⟩ := List.mem_map.mp hr
    rcases List.mem_append.mp hp with hp | hp
    · exact .inl (List.mem_map.mpr ⟨p, hp, rfl⟩)
    · exact .inr (hresults p hp)
  have hexpired' : ∀ r : Nat, r ∈ s.expired ++ expired → r ∈ s.expired ∨ r = req := by
    intro r hr
    rcases List.mem_append.mp hr with hr | hr
    · exact .inl hr
    · exact .inr (hexpired r hr)
  have hanswered : ∀ r : Nat, r ∈ (s.answers ++ [(req, isSuccess)]).map Prod.fst ↔
      r ∈ s.answered ∨ r = req := by
    intro r
    rw [List.map_append, List.mem_append]
    simp [answered]
  constructor
  · intro type' req' hreq'
    have hne : type' ≠ type := by
      rintro rfl
      simp [DInput.answer] at hreq'
    simp only [DInput.answer, Function.update_of_ne hne] at hreq'
    obtain ⟨hq, hans, hexp, hrep⟩ := h.waiting type' req' hreq'
    have hdiff : req' ≠ req := by
      rintro rfl
      rw [hreq] at hq
      cases hq
      exact hne rfl
    refine ⟨hq, fun hmem => ?_, fun hmem => ?_, fun hmem => ?_⟩
    · exact ((hanswered req').mp hmem).elim hans hdiff
    · exact (hexpired' req' hmem).elim hexp hdiff
    · exact (hreported req' hmem).elim hrep hdiff
  · intro t ht type' req' hcallback
    have hw := h.watching t ht type' req' hcallback
    have hne : type' ≠ type := by
      rintro rfl
      have hfalse := hunwatched t ht
      simp [hcallback, isWatch] at hfalse
    refine ⟨?_, hw.info, hw.repeats, hw.count⟩
    simp only [DInput.answer, Function.update_of_ne hne]
    exact hw.callback
  · intro req' type' hq
    show (DInput.answer s type req isSuccess).callbackMap type' = some req' ∨ _
    rcases h.settled req' type' hq with hold | hold
    · by_cases htype : type' = type
      · subst htype
        rw [hwait] at hold
        cases hold
        exact .inr ((hanswered req).mpr (.inr rfl))
      · simp only [DInput.answer, Function.update_of_ne htype]
        exact .inl hold
    · exact .inr ((hanswered req').mpr (.inl hold))
  · intro req' hend
    rcases hend with hend | hend
    · rcases hreported req' hend with hold | rfl
      · exact h.known req' (.inl hold)
      · exact hlt
    · rcases hexpired' req' hend with hold | rfl
      · exact h.known req' (.inr hold)
      · exact hlt
  · show ((s.answers ++ [(req, isSuccess)]).map Prod.fst).Nodup
    rw [List.map_append]
    exact List.nodup_append_comm.mp (List.nodup_cons.mpr ⟨hunanswered, h.once⟩)
  · intro req' isSuccess' hmem
    rcases List.mem_append.mp hmem with hold | hnew
    · rcases h.own req' isSuccess' hold with ⟨status, hstatus, heq⟩ | ⟨hfalse, hexp⟩
      · exact .inl ⟨status, List.mem_append_left _ hstatus, heq⟩
      · exact .inr ⟨hfalse, List.mem_append_left _ hexp⟩
    · cases List.mem_singleton.mp hnew
      rcases hreason with ⟨status, hstatus, heq⟩ | ⟨hfalse, hexp⟩
      · exact .inl ⟨status, List.mem_append_right _ hstatus, heq⟩
      · exact .inr ⟨hfalse, List.mem_append_right _ hexp⟩
  · intro req' q hq hret hmem
    rcases (hanswered req').mp hmem with hold | rfl
    · exact h.refused req' q hq hret hold
    · cases hreq.symm.trans hq
      exact hret rfl
  · exact h.removesOwn

/-- A result of a request that is not waiting. -/
theorem Answering.late {s : DInput} (h : s.Answering) {q : RemoteRequest} {req : Nat}
    (hq : s.requests[req]? = some q) (hnone : s.callbackMap q.type = none) (status : Int) :
    Answering { s with results := s.results ++ [(req, status)] } where
  waiting := by
    intro type' req' hreq'
    obtain ⟨hq', hans, hexp, hrep⟩ := h.waiting type' req' hreq'
    refine ⟨hq', hans, hexp, fun hmem => ?_⟩
    rw [reported, List.map_append, List.mem_append] at hmem
    rcases hmem with hmem | hmem
    · exact hrep hmem
    · have heq : req' = req := by simpa using hmem
      subst heq
      rw [hq] at hq'
      cases hq'
      rw [hnone] at hreq'
      cases hreq'
  watching := fun t ht type' req' hcallback =>
    have hw := h.watching t ht type' req' hcallback
    ⟨hw.callback, hw.info, hw.repeats, hw.count⟩
  settled := h.settled
  known := by
    intro req' hend
    rw [reported, List.map_append, List.mem_append] at hend
    rcases hend with (hend | hend) | hend
    · exact h.known req' (.inl hend)
    · have heq : req' = req := by simpa using hend
      subst heq
      exact (List.getElem?_eq_some_iff.mp hq).1
    · exact h.known req' (.inr hend)
  once := h.once
  own := by
    intro req' isSuccess hmem
    rcases h.own req' isSuccess hmem with ⟨status', hstatus, heq⟩ | hexp
    · exact .inl ⟨status', List.mem_append_left _ hstatus, heq⟩
    · exact .inr hexp
  refused := h.refused
  removesOwn := h.removesOwn

theorem removeTimer_callbackMap (s : DInput) (type : CallbackType) :
    (s.removeTimer type).callbackMap = s.callbackMap := by
  unfold DInput.removeTimer
  split <;> rfl

theorem removeTimer_requests (s : DInput) (type : CallbackType) :
    (s.removeTimer type).requests = s.requests := by
  unfold DInput.removeTimer
  split <;> rfl

theorem removeTimer_results (s : DInput) (type : CallbackType) :
    (s.removeTimer type).results = s.results := by
  unfold DInput.removeTimer
  split <;> rfl

theorem Answering.onResult {s : DInput} (h : s.Answering) {q : RemoteRequest} {req : Nat}
    (hq : s.requests[req]? = some q)
    (hfinds : s.callbackMap q.type = none ∨ s.callbackMap q.type = some req)
    (hown : s.WatchesOwn q.type) (status : Int) :
    Answering { s.onResult q.type status with results := s.results ++ [(req, status)] } := by
  obtain ⟨hremoved, hunwatched⟩ := h.removeTimer hown
  have hmap := removeTimer_callbackMap s q.type
  have hresults := removeTimer_results s q.type
  have hq' : (s.removeTimer q.type).requests[req]? = some q := by
    rw [removeTimer_requests]
    exact hq
  rw [← hmap] at hfinds
  rw [← hresults]
  unfold DInput.onResult processDInputCallback
  rcases hfinds with hnone | hwait
  · simp only [hnone]
    exact hremoved.late hq' hnone status
  · simp only [hwait]
    have hdone := hremoved.answer hwait hunwatched (decide (status = retOk)) [(req, status)] []
      (by simp) (by simp) (.inl ⟨status, List.mem_singleton.mpr rfl, rfl⟩)
    rw [List.append_nil] at hdone
    exact hdone

/-! ## A timer goes off -/

/-- No other timer has the id of the first one. -/
theorem rest_unwatched {s : DInput} (h : s.Answering) {t : TimerItem TimerCallback}
    {rest : List (TimerItem TimerCallback)} (htimers : s.timers.timers = t :: rest)
    {type : CallbackType} {req : Nat} (hcallback : t.callback = .watch type req) :
    ∀ t' ∈ rest, isWatch type t'.callback = false := by
  intro t' ht'
  have hinfo := (h.watching t (by rw [htimers]; exact List.mem_cons_self) type req hcallback).info
  cases hcallback' : t'.callback with
  | other => rfl
  | watch type' req' =>
    by_contra htype
    have heq : type' = type := by simpa [isWatch] using htype
    subst heq
    have hinfo' := (h.watching t' (by rw [htimers]; exact List.mem_cons_of_mem _ ht') type' req'
      hcallback').info
    have hnodup := s.timers.nodup
    rw [htimers, List.map_cons, List.nodup_cons] at hnodup
    rw [hinfo] at hinfo'
    injection hinfo' with hinfo'
    injection hinfo' with _ hid
    exact hnodup.1 (hid ▸ List.mem_map.mpr ⟨t', ht', rfl⟩)

/-- The timer of a request goes off for the last time. -/
theorem Answering.timeout {s : DInput} (h : s.Answering) {t : TimerItem TimerCallback}
    {rest : List (TimerItem TimerCallback)} (htimers : s.timers.timers = t :: rest)
    {type : CallbackType} {req : Nat} (hcallback : t.callback = .watch type req)
    (hlast : t.repeatCount ≤ t.callbackCount + 1) {m : TimerManager TimerCallback}
    (hm : m.timers = rest) : Answering (fire { s with timers := m } (.watch type req)) := by
  have hw := h.watching t (by rw [htimers]; exact List.mem_cons_self) type req hcallback
  have hunwatched := rest_unwatched h htimers hcallback
  have hretime : Answering { s with timers := m } := h.retime fun t' ht' => .inr (by
    rw [htimers]
    rw [hm] at ht'
    exact List.mem_cons_of_mem _ ht')
  have hcount : t.callbackCount ≠ 0 := by
    have htwo : retryTime = 2 := rfl
    have hrepeats := hw.repeats
    omega
  have hgone : (m.timers.any fun t => t.callback = .watch type req) = false := by
    rw [List.any_eq_false, hm]
    intro t' ht' heq
    have hfalse := hunwatched t' ht'
    rw [of_decide_eq_true heq] at hfalse
    simp [isWatch] at hfalse
  have honTimer : DInput.onTimer { s with timers := m } type
      = DInput.answer { s with timers := m } type req false := by
    unfold DInput.onTimer
    simp only [hw.callback, hw.info, if_neg hcount]
  have hdone := hretime.answer hw.callback (fun t' ht' => hunwatched t' (hm ▸ ht')) false [] [req]
    (by simp) (by simp) (.inr ⟨rfl, List.mem_singleton.mpr rfl⟩)
  rw [List.append_nil] at hdone
  unfold fire
  simp only [honTimer]
  have hany : ((DInput.answer { s with timers := m } type req false).timers.timers.any
      fun t => t.callback = .watch type req) = false := hgone
  rw [if_neg (by rw [hany]; decide)]
  exact hdone

/-- The timer of a request goes off for the first time. -/
theorem Answering.firstCall {s : DInput} (h : s.Answering) {t : TimerItem TimerCallback}
    {rest : List (TimerItem TimerCallback)} (htimers : s.timers.timers = t :: rest)
    {type : CallbackType} {req : Nat} (hcallback : t.callback = .watch type req)
    (hmore : ¬ (1 ≤ t.repeatCount ∧ t.repeatCount ≤ t.callbackCount + 1))
    {m : TimerManager TimerCallback} {nextCallTime : Int}
    (hm : m.timers.Perm ({ t with callbackCount := t.callbackCount + 1, nextCallTime } :: rest)) :
    Answering (fire { s with timers := m } (.watch type req)) := by
  have hw := h.watching t (by rw [htimers]; exact List.mem_cons_self) type req hcallback
  have hunwatched := rest_unwatched h htimers hcallback
  have hcount : t.callbackCount = 0 := by
    have htwo : retryTime = 2 := rfl
    have hrepeats := hw.repeats
    rcases hw.count with h | h
    · exact h
    · omega
  have hstill : (m.timers.any fun t => t.callback = .watch type req) = true := by
    rw [List.any_eq_true]
    exact ⟨_, hm.mem_iff.mpr List.mem_cons_self, decide_eq_true hcallback⟩
  have honTimer : DInput.onTimer { s with timers := m } type = { s with
      timers := m
      watchingMap := Function.update s.watchingMap type (some ⟨t.callbackCount + 1, t.id⟩) } := by
    unfold DInput.onTimer
    simp only [hw.callback, hw.info, if_pos hcount]
  unfold fire
  simp only [honTimer, if_pos hstill]
  constructor
  · exact h.waiting
  · intro t' ht' type' req' hcallback'
    rcases List.mem_cons.mp (hm.mem_iff.mp ht') with rfl | hold
    · rw [hcallback] at hcallback'
      cases hcallback'
      refine ⟨hw.callback, ?_, hw.repeats, .inr (by simp only [hcount, Int.zero_add])⟩
      simp only [Function.update_self]
    · have hw' := h.watching t' (by rw [htimers]; exact List.mem_cons_of_mem _ hold) type' req'
        hcallback'
      have hne : type' ≠ type := by
        rintro rfl
        have hfalse := hunwatched t' hold
        simp [hcallback', isWatch] at hfalse
      refine ⟨hw'.callback, ?_, hw'.repeats, hw'.count⟩
      simp only [Function.update_of_ne hne]
      exact hw'.info
  · exact h.settled
  · exact h.known
  · exact h.once
  · exact h.own
  · exact h.refused
  · exact h.removesOwn

theorem Answering.processTimer {s : DInput} (h : s.Answering) (nowTime : Int) :
    Answering (s.step (.processTimer nowTime)) := by
  unfold DInput.step
  simp only
  obtain ⟨_, hidle⟩ | ⟨t, rest, htimers, _, ⟨_, hlast, hfired, hm⟩ | ⟨_, hdropped, hm⟩ |
    ⟨hmore, hfired, nextCallTime, hm⟩⟩ := s.timers.processNext_cases nowTime
  · rw [hidle]
    exact h
  · rw [hfired]
    cases hcallback : t.callback with
    | watch type req => exact h.timeout htimers hcallback hlast hm
    | other =>
      refine h.retime fun t' ht' => .inr ?_
      rw [hm] at ht'
      rw [htimers]
      exact List.mem_cons_of_mem _ ht'
  · rw [hdropped]
    refine h.retime fun t' ht' => .inr ?_
    rw [hm] at ht'
    rw [htimers]
    exact List.mem_cons_of_mem _ ht'
  · rw [hfired]
    cases hcallback : t.callback with
    | watch type req => exact h.firstCall htimers hcallback hmore hm
    | other =>
      refine h.retime fun t' ht' => ?_
      rcases List.mem_cons.mp (hm.mem_iff.mp ht') with rfl | hold
      · exact .inl hcallback
      · refine .inr ?_
        rw [htimers]
        exact List.mem_cons_of_mem _ hold

/-! ## Runs -/

theorem answering_step (s : DInput) (e : DInputEvent) (h : s.Answering) (hmet : s.Met e) :
    (s.step e).Answering := by
  cases e with
  | request type allocated ret nowTime =>
    simp only [DInput.step, request_eq, remoteInput]
    cases allocated with
    | false => exact h.fail type
    | true =>
      obtain ⟨rfl, hnone⟩ := hmet rfl
      simp only [Bool.not_true, Bool.false_eq_true, if_false, saveCallback_requests]
      exact h.save hnone nowTime
  | result req status =>
    cases hq : s.requests[req]? with
    | none =>
      simp only [DInput.step, hq]
      exact h
    | some q =>
      obtain ⟨hfinds, hown⟩ := hmet q hq
      simp only [DInput.step, hq]
      exact h.onResult hq hfinds hown status
  | processTimer nowTime => exact h.processTimer nowTime
  | addTimer nowTime intervalMs repeatCount => exact h.retime (retains_addTimer _ _ _ _)
  | removeTimer timerId => exact h.retime (retains_removeTimer _ _)
  | resetTimer nowTime timerId => exact h.retime (retains_resetTimer nowTime hmet)

/-- In a run whose steps all meet the condition, every request has got at most
one answer in every state reached, its own, and has got it once its result or
its timeout is there; one that has returned an error has got none; and
`RemoveTimer` has removed no timer but the adapter's. -/
theorem ownAnswerOnce_of_met (events : List DInputEvent) (h : AllSteps step Met create events) :
    Always step OwnAnswerOnce create events :=
  (always_of_allSteps answering_step events create create_answering h).mono
    fun _ h => h.ownAnswerOnce

/-- A request that is answered by its result, one that is given up after two
calls of its timer, and its result when that is too late. -/
def calmRequests : List DInputEvent :=
  [.request .startDInputCallbackSink true 0 1000, .addTimer 1000 100 1, .result 0 0,
    .request .startDInputCallbackSink true 0 2000, .processTimer 6000, .processTimer 6000,
    .processTimer 10000, .result 1 0]

theorem ownAnswerOnce_calmRequests :
    Always step OwnAnswerOnce create calmRequests ∧
      (runFrom step create calmRequests).answers = [(0, true), (1, false)] :=
  ⟨ownAnswerOnce_of_met calmRequests (by decide +kernel), by decide +kernel⟩

/-- The first of two requests of a type returns an error, and leaves its
timer behind. -/
def crossedRequests : List DInputEvent :=
  [.request .prepareStartDInputCallback true (-1) 1000,
    .request .prepareStartDInputCallback true 0 2000, .processTimer 5000, .processTimer 9000]

/-- The second request is given up with its own timer still to go off, and so
without a result or a timeout of its own. -/
theorem counterexample_ownAnswerOnce :
    ¬ Always step OwnAnswerOnce create crossedRequests := by
  intro h
  have hlast := Always.last h
  have hanswers : (1, false) ∈ (runFrom step create crossedRequests).answers := by decide +kernel
  have hresults : (runFrom step create crossedRequests).results = [] := by decide +kernel
  have hexpired : 1 ∉ (runFrom step create crossedRequests).expired := by decide +kernel
  rcases hlast.own 1 false hanswers with ⟨status, hstatus, -⟩ | ⟨-, hexp⟩
  · rw [hresults] at hstatus
    cases hstatus
  · exact hexpired hexp

end DInput

end FtMmi.InputDeviceCooperate.DistributedInputAdapter
