/-
FtMmi.DelegateTask.SyncCancellation — whether the worker is done with a
synchronous task when `PostSyncTask` returns.

`PostSyncTask` sets `hasWaited_` and returns; the worker tests the flag
before it calls the task's function and before it completes the promise.
Flag and test are not one step, so the caller can return between the
worker's test and what the test guards, and it can find the time over
between the end of the function and `set_value`. In every other
interleaving the two agree: `syncCancellation` is the exact condition.
-/
import FtMmi.Lib.StepSystem
import FtMmi.DelegateTask.DelegateTasks

namespace FtMmi.DelegateTask

open FtMmi.Lib
open DelegateTasks

/-! ## The property -/

namespace Worker

/-- The task whose function runs, or whose promise is about to be
completed: both are in the frame of `PostSyncTask`. -/
def inFrame : Worker → Option Nat
  | .running task _ => some task.key
  | .completing task _ _ => some task.key
  | _ => none

/-- The task whose function has returned and whose promise is not completed. -/
def past : Worker → Option Nat
  | .finished task _ _ => some task.key
  | .completing task _ _ => some task.key
  | _ => none

end Worker

structure Cancelled (s : DelegateTasks) : Prop where
  frame : ∀ key, (s.objects key).returned ≠ none → s.worker.inFrame ≠ some key
  result : ∀ key ret, (s.objects key).returned = some (.result ret) →
    (s.objects key).ret = some ret
  /-- A timeout is returned if one was declared, and only before the function finishes. -/
  declared : ∀ key, (s.objects key).returned = some .waitTimeout → (s.objects key).timedOut ≠ none
  timeout : ∀ key ret, (s.objects key).timedOut = some ret → ret = none

/-- The wait does not time out while the worker is between the function and
`set_value`, and `PostSyncTask` does not return while the worker is in its
frame. -/
def ReturnsInTime (s : DelegateTasks) : Input → Prop
  | .waitTimeout tid => ∀ key, s.posters tid = .waiting key → s.worker.past ≠ some key
  | .leave tid => ∀ key outcome, s.posters tid = .leaving key outcome →
      s.worker.inFrame ≠ some key
  | _ => True

/-! ## Posters and the tasks they wait for -/

namespace Poster

/-- The task a thread is in `PostSyncTask` for. -/
def key : Poster → Option Nat
  | .waiting key => some key
  | .timedOut key => some key
  | .ready key => some key
  | .leaving key _ => some key
  | _ => none

/-- What a thread knows of the object of its task. -/
def Agrees : Poster → TaskObject → Prop
  | .waiting _, o => o.hasWaited = false
  | .timedOut _, o => o.hasWaited = false ∧ o.timedOut ≠ none
  | .ready _, o => o.hasWaited = false
  | .leaving _ .waitTimeout, o => o.hasWaited = true ∧ o.timedOut ≠ none
  | .leaving _ (.result ret), o => o.hasWaited = true ∧ o.promise = some ret
  | _, _ => True

/-- While the promise is not set, nobody knows its value. -/
theorem Agrees.of_unset {p : Poster} {o o' : TaskObject} (h : p.Agrees o)
    (hunset : o.promise = none) (hwaited : o'.hasWaited = o.hasWaited)
    (htimedOut : o'.timedOut = o.timedOut) : p.Agrees o' := by
  cases p with
  | idle => trivial
  | posting id sync => trivial
  | waiting key => exact hwaited.trans h
  | timedOut key => exact ⟨hwaited.trans h.1, htimedOut ▸ h.2⟩
  | ready key => exact hwaited.trans h
  | leaving key outcome =>
    cases outcome with
    | result ret => exact absurd (h.2.symm.trans hunset) (by simp)
    | waitTimeout => exact ⟨hwaited.trans h.1, htimedOut ▸ h.2⟩

end Poster

/-- What an object says by itself. -/
structure TaskObject.Sound (o : TaskObject) : Prop where
  returned : o.returned ≠ none → o.hasWaited = true
  declared : o.returned = some .waitTimeout → o.timedOut ≠ none
  result : ∀ ret, o.returned = some (.result ret) → o.promise = some ret
  promised : ∀ ret, o.promise = some ret → o.ret = some ret

/-- The tasks that are not done. -/
def DelegateTasks.live (s : DelegateTasks) : List Task :=
  s.worker.task.toList ++ s.worker.rest ++ s.tasks

structure Owned (s : DelegateTasks) : Prop where
  unique : ∀ tid tid' key, (s.posters tid).key = some key → (s.posters tid').key = some key →
    tid = tid'
  known : ∀ tid key, (s.posters tid).key = some key → key < s.accepted
  bounded : ∀ task ∈ s.live, task.key < s.accepted
  distinct : (s.live.map Task.key).Nodup
  /-- The task somebody waits for has a promise. -/
  sync : ∀ task ∈ s.live, ∀ tid, (s.posters tid).key = some task.key → task.sync = true
  fresh : ∀ key, s.accepted ≤ key → s.objects key = .make

/-- What threads are told of their tasks. -/
structure Told (s : DelegateTasks) : Prop where
  agrees : ∀ tid key, (s.posters tid).key = some key → (s.posters tid).Agrees (s.objects key)
  sound : ∀ key, (s.objects key).Sound

/-- Where the worker is, and what its tasks' objects say. -/
structure Worked (s : DelegateTasks) : Prop where
  unset : ∀ task ∈ s.live, (s.objects task.key).promise = none
  past : ∀ task ∈ s.live, (s.objects task.key).ret ≠ none → s.worker.past = some task.key
  value : ∀ task ret rest,
    s.worker = .finished task ret rest ∨ s.worker = .completing task ret rest →
    (s.objects task.key).ret = some ret
  /-- Who waits for a function that has returned will be told. -/
  waiting : ∀ tid key, s.posters tid = .waiting key → (s.objects key).ret ≠ none →
    (s.objects key).promise ≠ none ∨ s.worker.past = some key

theorem owned_create : Owned create where
  unique := by simp [create, Poster.key]
  known := by simp [create, Poster.key]
  bounded := by simp [create, DelegateTasks.live, Worker.task, Worker.rest]
  distinct := by simp [create, DelegateTasks.live, Worker.task, Worker.rest]
  sync := by simp [create, DelegateTasks.live, Worker.task, Worker.rest]
  fresh := by simp [create]

theorem sound_make : TaskObject.make.Sound := by
  constructor <;> simp [TaskObject.make]

theorem told_create : Told create where
  agrees := by simp [create, Poster.key]
  sound _ := sound_make

theorem worked_create : Worked create where
  unset := by simp [create, TaskObject.make]
  past := by simp [create, TaskObject.make]
  value := by simp [create]
  waiting := by simp [create]

variable {s s' : DelegateTasks}

/-! ### The steps and the owners -/

/-- No thread comes to wait for a task, no task comes to life, and objects
of tasks to come are left alone. -/
theorem Owned.of_sub (hs : Owned s)
    (hkeys : ∀ tid key, (s'.posters tid).key = some key → (s.posters tid).key = some key)
    (hlive : s'.live.Sublist s.live) (haccepted : s'.accepted = s.accepted)
    (hobjects : ∀ key, s.accepted ≤ key → s'.objects key = s.objects key) : Owned s' where
  unique tid tid' key h h' := hs.unique tid tid' key (hkeys tid key h) (hkeys tid' key h')
  known tid key h := haccepted ▸ hs.known tid key (hkeys tid key h)
  bounded task h := haccepted ▸ hs.bounded task (hlive.mem h)
  distinct := hs.distinct.sublist (hlive.map _)
  sync task h tid hkey := hs.sync task (hlive.mem h) tid (hkeys tid _ hkey)
  fresh key h := by
    rw [haccepted] at h
    rw [hobjects key h, hs.fresh key h]

theorem key_setPoster {tid : Nat} {p : Poster}
    (hp : ∀ key, p.key = some key → (s.posters tid).key = some key) (other key : Nat)
    (h : (Function.update s.posters tid p other).key = some key) :
    (s.posters other).key = some key := by
  by_cases htid : other = tid
  · subst htid
    exact hp key (by simpa using h)
  · simpa [htid] using h

/-- Who waits for a task after a push. -/
theorem pushed_key {tid other key : Nat} {sync : Bool}
    (h : (Function.update s.posters tid
      (if sync then .waiting s.accepted else .idle) other).key = some key) :
    (s.posters other).key = some key ∨ other = tid ∧ key = s.accepted ∧ sync = true := by
  by_cases htid : other = tid
  · subst htid
    cases sync with
    | false => simp [Poster.key] at h
    | true =>
      simp only [if_true, Function.update_self, Poster.key, Option.some.injEq] at h
      exact .inr ⟨rfl, h.symm, rfl⟩
  · exact .inl (by simpa [htid] using h)

theorem mem_live_pushed {task new : Task}
    (h : task ∈ s.worker.task.toList ++ s.worker.rest ++ (s.tasks ++ [new])) :
    task ∈ s.live ∨ task = new := by
  rw [← List.append_assoc, List.mem_append, List.mem_singleton] at h
  exact h

theorem objects_setObject {key other : Nat} (o : TaskObject) (h : other ≠ key) :
    Function.update s.objects key o other = s.objects other := Function.update_of_ne h _ _

/-- The task is new, and at most one thread waits for it. -/
theorem Owned.pushed (hs : Owned s) (tid : Nat) (id : Int) (sync : Bool) :
    Owned
      { s with
        mux := none, tasks := s.tasks ++ [⟨s.accepted, id, sync⟩], accepted := s.accepted + 1
        posters := Function.update s.posters tid (if sync then .waiting s.accepted else .idle) } where
  unique one other key h h' := by
    have hone := pushed_key h
    have hother := pushed_key h'
    rcases hone with hone | ⟨rfl, rfl, -⟩
    · rcases hother with hother | ⟨rfl, rfl, -⟩
      · exact hs.unique one other key hone hother
      · exact absurd (hs.known one _ hone) (Nat.lt_irrefl _)
    · rcases hother with hother | ⟨rfl, -, -⟩
      · exact absurd (hs.known other _ hother) (Nat.lt_irrefl _)
      · rfl
  known other key h := by
    rcases pushed_key h with h | ⟨-, rfl, -⟩
    · exact Nat.lt_succ_of_lt (hs.known other key h)
    · exact Nat.lt_succ_self _
  bounded task h := by
    rcases mem_live_pushed (s := s) h with h | rfl
    · exact Nat.lt_succ_of_lt (hs.bounded task h)
    · exact Nat.lt_succ_self _
  distinct := by
    have hnew : s.accepted ∉ s.live.map Task.key := by
      intro hmem
      obtain ⟨task, htask, hkey⟩ := List.mem_map.mp hmem
      have := hs.bounded task htask
      omega
    have hall := List.nodup_append.mpr ⟨hs.distinct, List.nodup_singleton s.accepted,
      fun key hkey other hother heq => hnew (by simp_all)⟩
    simpa [DelegateTasks.live] using hall
  sync task h other hkey := by
    rcases mem_live_pushed (s := s) h with h | rfl
    · rcases pushed_key hkey with hkey | ⟨-, heq, -⟩
      · exact hs.sync task h other hkey
      · exact absurd (hs.bounded task h) (by omega)
    · rcases pushed_key hkey with hkey | ⟨-, -, hsync⟩
      · exact absurd (hs.known other _ hkey) (Nat.lt_irrefl _)
      · exact hsync
  fresh key h := hs.fresh key (Nat.le_of_succ_le h)

theorem Owned.step {i : Input} (hs : Owned s) (h : Moves s i s') : Owned s' := by
  cases h with
  | refused tid sync factory => exact hs.of_sub (fun _ _ h => h) (List.Sublist.refl _) rfl (fun _ _ => rfl)
  | posted tid sync id factory hposter hmux hlimit =>
    exact hs.of_sub (key_setPoster (by simp [Poster.key])) (List.Sublist.refl _) rfl
      (fun _ _ => rfl)
  | pushed tid id sync hposter => exact hs.pushed tid id sync
  | timedOut tid key hposter hpromise =>
    have hkey : (s.posters tid).key = some key := by simp [hposter, Poster.key]
    refine hs.of_sub (key_setPoster (by rintro _ ⟨⟩; exact hkey)) (List.Sublist.refl _) rfl
      (fun other hother => objects_setObject _ ?_)
    have := hs.known tid key hkey
    omega
  | ready tid key ret hposter hpromise =>
    exact hs.of_sub (key_setPoster (by simp [hposter, Poster.key])) (List.Sublist.refl _) rfl
      (fun _ _ => rfl)
  | waited tid key outcome hposter =>
    have hkey : (s.posters tid).key = some key := by
      rcases hposter with ⟨hposter, -⟩ | ⟨hposter, -⟩ <;> simp [hposter, Poster.key]
    refine hs.of_sub (key_setPoster (by rintro _ ⟨⟩; exact hkey)) (List.Sublist.refl _) rfl
      (fun other hother => objects_setObject _ ?_)
    have := hs.known tid key hkey
    omega
  | left tid key outcome hposter =>
    have hkey : (s.posters tid).key = some key := by simp [hposter, Poster.key]
    refine hs.of_sub (key_setPoster (by simp [Poster.key])) (List.Sublist.refl _) rfl
      (fun other hother => objects_setObject _ ?_)
    have := hs.known tid key hkey
    omega
  | read ok hworker =>
    exact hs.of_sub (fun _ _ h => h)
      (by simp [DelegateTasks.live, hworker, Worker.task, Worker.rest]) rfl (fun _ _ => rfl)
  | popped factory hworker hmux =>
    exact hs.of_sub (fun _ _ h => h)
      (by simp [DelegateTasks.live, hworker, Worker.task, Worker.rest]) rfl (fun _ _ => rfl)
  | discarded task rest hworker hwaited =>
    exact hs.of_sub (fun _ _ h => h)
      (by simp [DelegateTasks.live, hworker, Worker.task, Worker.rest]) rfl (fun _ _ => rfl)
  | started task rest hworker hwaited =>
    exact hs.of_sub (fun _ _ h => h)
      (by simp [DelegateTasks.live, hworker, Worker.task, Worker.rest]) rfl (fun _ _ => rfl)
  | finished task rest ret hworker =>
    refine hs.of_sub (fun _ _ h => h)
      (by simp [DelegateTasks.live, DelegateTasks.setObject, hworker, Worker.task, Worker.rest])
      rfl (fun other hother => objects_setObject _ ?_)
    have := hs.bounded task (by simp [DelegateTasks.live, hworker, Worker.task])
    omega
  | completing task ret rest hworker hwaited hsync =>
    exact hs.of_sub (fun _ _ h => h)
      (by simp [DelegateTasks.live, hworker, Worker.task, Worker.rest]) rfl (fun _ _ => rfl)
  | passed task ret rest hworker hwaited =>
    exact hs.of_sub (fun _ _ h => h)
      (by simp [DelegateTasks.live, hworker, Worker.task, Worker.rest]) rfl (fun _ _ => rfl)
  | completed task ret rest hworker =>
    refine hs.of_sub (fun _ _ h => h)
      (by simp [DelegateTasks.live, DelegateTasks.setObject, hworker, Worker.task, Worker.rest])
      rfl (fun other hother => objects_setObject _ ?_)
    have := hs.bounded task (by simp [DelegateTasks.live, hworker, Worker.task])
    omega

/-! ### The steps and what threads are told -/

/-- A thread in `PostSyncTask` and the object of its task move on together. -/
theorem Told.setPair (hs : Told s) (hown : Owned s) {tid key : Nat} {p : Poster} {o : TaskObject}
    (hkey : (s.posters tid).key = some key) (hp : ∀ other, p.key = some other → other = key)
    (hagrees : p.Agrees o) (hsound : o.Sound) :
    Told ((s.setObject key o).setPoster tid p) where
  agrees other k h := by
    simp only [setPoster_posters, setPoster_objects, setObject_posters, setObject_objects] at h ⊢
    by_cases htid : other = tid
    · subst htid
      rw [Function.update_self] at h ⊢
      rw [hp k h, Function.update_self]
      exact hagrees
    · rw [Function.update_of_ne htid] at h ⊢
      have hne : k ≠ key := fun heq => htid (hown.unique other tid key (heq ▸ h) hkey)
      rw [Function.update_of_ne hne]
      exact hs.agrees other k h
  sound k := by
    simp only [setPoster_objects, setObject_objects]
    by_cases hk : k = key
    · subst hk
      simpa using hsound
    · rw [Function.update_of_ne hk]
      exact hs.sound k

/-- The object of the worker's task changes. -/
theorem Told.of_object (hs : Told s) {key : Nat} {o : TaskObject}
    (hposters : s'.posters = s.posters) (hobjects : s'.objects = Function.update s.objects key o)
    (hagrees : ∀ tid, (s.posters tid).Agrees (s.objects key) → (s.posters tid).Agrees o)
    (hsound : o.Sound) : Told s' where
  agrees tid k h := by
    rw [hposters] at h ⊢
    rw [hobjects]
    by_cases hk : k = key
    · subst hk
      rw [Function.update_self]
      exact hagrees tid (hs.agrees tid k h)
    · rw [Function.update_of_ne hk]
      exact hs.agrees tid k h
  sound k := by
    rw [hobjects]
    by_cases hk : k = key
    · subst hk
      simpa using hsound
    · rw [Function.update_of_ne hk]
      exact hs.sound k

/-- A thread that is in no `PostSyncTask` moves. -/
theorem Told.of_posters (hs : Told s) {tid : Nat} {p : Poster} (hp : p.key = none)
    (hposters : s'.posters = Function.update s.posters tid p) (hobjects : s'.objects = s.objects) :
    Told s' where
  agrees other k h := by
    rw [hposters] at h ⊢
    rw [hobjects]
    by_cases htid : other = tid
    · subst htid
      simp [hp] at h
    · rw [Function.update_of_ne htid] at h ⊢
      exact hs.agrees other k h
  sound k := hobjects ▸ hs.sound k

theorem Told.of_same (hs : Told s) (hposters : s'.posters = s.posters)
    (hobjects : s'.objects = s.objects) : Told s' where
  agrees tid key h := by
    rw [hposters] at h ⊢
    rw [hobjects]
    exact hs.agrees tid key h
  sound key := hobjects ▸ hs.sound key

theorem Told.step {i : Input} (hs : Told s) (hown : Owned s) (hworked : Worked s)
    (h : Moves s i s') : Told s' := by
  cases h with
  | refused tid sync factory => exact hs.of_same rfl rfl
  | posted tid sync id factory hposter hmux hlimit => exact hs.of_posters rfl rfl rfl
  | pushed tid id sync hposter =>
    cases sync with
    | false => exact hs.of_posters rfl rfl rfl
    | true =>
      refine ⟨fun other key h => ?_, hs.sound⟩
      rcases pushed_key h with h' | ⟨rfl, rfl, -⟩
      · by_cases htid : other = tid
        · subst htid
          simp [hposter, Poster.key] at h'
        · simpa [htid] using hs.agrees other key h'
      · rw [hown.fresh s.accepted (Nat.le_refl _)]
        simp [Poster.Agrees, TaskObject.make]
  | timedOut tid key hposter hpromise =>
    have hkey : (s.posters tid).key = some key := by simp [hposter, Poster.key]
    have hwaited := hs.agrees tid key hkey
    have hsound := hs.sound key
    rw [hposter] at hwaited
    refine hs.setPair hown hkey (by rintro _ ⟨⟩; rfl) ⟨hwaited, by simp⟩ ?_
    exact ⟨hsound.returned, by simp, hsound.result, hsound.promised⟩
  | ready tid key ret hposter hpromise =>
    have hkey : (s.posters tid).key = some key := by simp [hposter, Poster.key]
    have hwaited := hs.agrees tid key hkey
    rw [hposter] at hwaited
    have hnext := hs.setPair (p := .ready key) hown hkey (by rintro _ ⟨⟩; rfl) hwaited
      (hs.sound key)
    exact hnext.of_same rfl (by simp)
  | waited tid key outcome hposter =>
    have hkey : (s.posters tid).key = some key := by
      rcases hposter with ⟨hposter, -⟩ | ⟨hposter, -⟩ <;> simp [hposter, Poster.key]
    have hagrees := hs.agrees tid key hkey
    have hsound := hs.sound key
    refine hs.setPair hown hkey (by rintro _ ⟨⟩; rfl) ?_
      ⟨fun _ => rfl, hsound.declared, hsound.result, hsound.promised⟩
    rcases hposter with ⟨hposter, rfl⟩ | ⟨hposter, ret, hpromise, rfl⟩
    · rw [hposter] at hagrees
      exact ⟨rfl, hagrees.2⟩
    · exact ⟨rfl, hpromise⟩
  | left tid key outcome hposter =>
    have hkey : (s.posters tid).key = some key := by simp [hposter, Poster.key]
    have hagrees := hs.agrees tid key hkey
    have hsound := hs.sound key
    rw [hposter] at hagrees
    refine hs.setPair hown hkey (by simp [Poster.key]) trivial ?_
    cases outcome with
    | result ret =>
      obtain ⟨hwaited, hpromise⟩ := hagrees
      exact ⟨fun _ => hwaited, by simp, by simpa using hpromise, hsound.promised⟩
    | waitTimeout =>
      obtain ⟨hwaited, htimedOut⟩ := hagrees
      exact ⟨fun _ => hwaited, fun _ => htimedOut, by simp, hsound.promised⟩
  | read ok hworker => exact hs.of_same rfl rfl
  | popped factory hworker hmux => exact hs.of_same rfl rfl
  | discarded task rest hworker hwaited => exact hs.of_same rfl rfl
  | started task rest hworker hwaited => exact hs.of_same rfl rfl
  | finished task rest ret hworker =>
    have hunset := hworked.unset task (by simp [DelegateTasks.live, hworker, Worker.task])
    have hsound := hs.sound task.key
    exact hs.of_object rfl rfl (fun tid h => h.of_unset hunset rfl rfl)
      ⟨hsound.returned, hsound.declared, hsound.result, by simp [hunset]⟩
  | completing task ret rest hworker hwaited hsync => exact hs.of_same rfl rfl
  | passed task ret rest hworker hwaited => exact hs.of_same rfl rfl
  | completed task ret rest hworker =>
    have hunset := hworked.unset task (by simp [DelegateTasks.live, hworker, Worker.task])
    have hvalue := hworked.value task ret rest (.inr hworker)
    have hsound := hs.sound task.key
    exact hs.of_object rfl rfl (fun tid h => h.of_unset hunset rfl rfl)
      ⟨hsound.returned, hsound.declared,
        fun v hv => absurd (hunset.symm.trans (hsound.result v hv)) (by simp),
        by simpa using hvalue⟩

/-! ### The steps and the worker -/

/-- The worker and the objects stay as they are to it. -/
theorem Worked.of_same (hs : Worked s) (hlive : s'.live.Sublist s.live)
    (hworker : s'.worker = s.worker)
    (hpromise : ∀ key, (s'.objects key).promise = (s.objects key).promise)
    (hret : ∀ key, (s'.objects key).ret = (s.objects key).ret)
    (hwaiting : ∀ tid key, s'.posters tid = .waiting key → s.posters tid = .waiting key) :
    Worked s' where
  unset task h := by rw [hpromise, hs.unset task (hlive.mem h)]
  past task h hne := by
    rw [hret] at hne
    rw [hworker, hs.past task (hlive.mem h) hne]
  value task ret rest h := by
    rw [hworker] at h
    rw [hret, hs.value task ret rest h]
  waiting tid key h hne := by
    rw [hret] at hne
    rw [hpromise, hworker]
    exact hs.waiting tid key (hwaiting tid key h) hne

theorem update_object_same {α : Type} (f : TaskObject → α) {key : Nat} {o : TaskObject}
    (h : f o = f (s.objects key)) (other : Nat) :
    f (Function.update s.objects key o other) = f (s.objects other) := by
  by_cases hkey : other = key
  · subst hkey
    simpa using h
  · rw [Function.update_of_ne hkey]

theorem waiting_setPoster {tid : Nat} {p : Poster} (hp : ∀ key, p ≠ .waiting key)
    (other key : Nat) (h : Function.update s.posters tid p other = .waiting key) :
    s.posters other = .waiting key := by
  by_cases htid : other = tid
  · subst htid
    simp [hp] at h
  · simpa [htid] using h

/-- The worker goes on to where it is not past a function, and has not been. -/
theorem Worked.of_worker (hs : Worked s) (hpast : s.worker.past = none)
    (hpast' : s'.worker.past = none) (hlive : s'.live.Sublist s.live)
    (hobjects : s'.objects = s.objects) (hposters : s'.posters = s.posters) : Worked s' where
  unset task h := by rw [hobjects, hs.unset task (hlive.mem h)]
  past task h hne := by
    rw [hobjects] at hne
    rw [hpast', ← hpast, hs.past task (hlive.mem h) hne]
  value task ret rest h := by
    rcases h with h | h <;> simp [h, Worker.past] at hpast'
  waiting tid key h hne := by
    rw [hposters] at h
    rw [hobjects] at hne ⊢
    rw [hpast', ← hpast]
    exact hs.waiting tid key h hne

theorem Owned.ne_of_mem_tail (hs : Owned s) {task other : Task} {tasks : List Task}
    (hlive : s.live = task :: tasks) (h : other ∈ tasks) : other.key ≠ task.key := by
  have hdistinct := hs.distinct
  rw [hlive, List.map_cons, List.nodup_cons] at hdistinct
  intro heq
  exact hdistinct.1 (heq ▸ List.mem_map_of_mem h)

/-- The worker leaves the function it is past: who waits for it, is told. -/
theorem Worked.leave (hs : Worked s) (hown : Owned s) {task : Task} {rest : List Task}
    (hlive : s.live = task :: (rest ++ s.tasks)) (hpast : s.worker.past = some task.key)
    (hworker : s'.worker = .processing rest) (htasks : s'.tasks = s.tasks)
    (hposters : s'.posters = s.posters)
    (hobjects : ∀ key, key ≠ task.key → s'.objects key = s.objects key)
    (htold : ∀ tid, s.posters tid = .waiting task.key → (s'.objects task.key).promise ≠ none) :
    Worked s' := by
  have hlive' : s'.live = rest ++ s.tasks := by
    simp [DelegateTasks.live, hworker, htasks, Worker.task, Worker.rest]
  refine ⟨fun other h => ?_, fun other h hne => ?_, by simp [hworker], fun tid key h hne => ?_⟩
  · rw [hlive'] at h
    rw [hobjects _ (hown.ne_of_mem_tail hlive h)]
    exact hs.unset other (hlive ▸ List.mem_cons_of_mem _ h)
  · rw [hlive'] at h
    have hother := hown.ne_of_mem_tail hlive h
    rw [hobjects _ hother] at hne
    have hpast' := hs.past other (hlive ▸ List.mem_cons_of_mem _ h) hne
    rw [hpast, Option.some.injEq] at hpast'
    exact absurd hpast'.symm hother
  · rw [hposters] at h
    by_cases hkey : key = task.key
    · subst hkey
      exact .inl (htold tid h)
    · rw [hobjects key hkey] at hne ⊢
      rcases hs.waiting tid key h hne with hpromise | hpast'
      · exact .inl hpromise
      · rw [hpast, Option.some.injEq] at hpast'
        exact absurd hpast'.symm hkey

/-- The function the worker is in returns. -/
theorem Worked.finished (hs : Worked s) {task : Task} {rest : List Task} (ret : Int)
    (hworker : s.worker = .running task rest) :
    Worked { s.setObject task.key { s.objects task.key with ret := some ret } with
      worker := .finished task ret rest } := by
  have hlive : ∀ other ∈ task :: rest ++ s.tasks, other ∈ s.live := by
    simp [DelegateTasks.live, hworker, Worker.task, Worker.rest]
  have hpast : s.worker.past = none := by simp [hworker, Worker.past]
  refine ⟨fun other h => ?_, fun other h hne => ?_, fun other v tasks h => ?_,
    fun tid key h hne => ?_⟩
  · refine (update_object_same TaskObject.promise ?_ other.key).trans
      (hs.unset other (hlive other h))
    rfl
  · by_cases hkey : other.key = task.key
    · simp [Worker.past, hkey]
    · rw [setObject_objects, Function.update_of_ne hkey] at hne
      have hpast' := hs.past other (hlive other h) hne
      simp [hpast] at hpast'
  · rcases h with h | h
    · simp only [Worker.finished.injEq] at h
      obtain ⟨rfl, rfl, -⟩ := h
      simp
    · simp at h
  · by_cases hkey : key = task.key
    · simp [Worker.past, hkey]
    · rw [setObject_objects, Function.update_of_ne hkey] at hne ⊢
      have htold := hs.waiting tid key h hne
      simp only [hpast, reduceCtorEq, or_false] at htold
      exact .inl htold

theorem Worked.step {i : Input} (hs : Worked s) (hown : Owned s) (htold : Told s)
    (h : Moves s i s') : Worked s' := by
  cases h with
  | refused tid sync factory =>
    exact hs.of_same (List.Sublist.refl _) rfl (fun _ => rfl) (fun _ => rfl) (fun _ _ h => h)
  | posted tid sync id factory hposter hmux hlimit =>
    exact hs.of_same (List.Sublist.refl _) rfl (fun _ => rfl) (fun _ => rfl)
      (waiting_setPoster (by simp))
  | pushed tid id sync hposter =>
    have hfresh := hown.fresh s.accepted (Nat.le_refl _)
    refine ⟨fun task h => ?_, fun task h hne => ?_, hs.value, fun other key h hne => ?_⟩
    · rcases mem_live_pushed (s := s) h with h | rfl
      · exact hs.unset task h
      · simp [hfresh, TaskObject.make]
    · rcases mem_live_pushed (s := s) h with h | rfl
      · exact hs.past task h hne
      · simp [hfresh, TaskObject.make] at hne
    · by_cases htid : other = tid
      · subst htid
        cases sync with
        | false => simp at h
        | true =>
          simp only [if_true, Function.update_self, Poster.waiting.injEq] at h
          subst h
          simp [hfresh, TaskObject.make] at hne
      · exact hs.waiting other key (by simpa [htid] using h) hne
  | timedOut tid key hposter hpromise =>
    exact hs.of_same (List.Sublist.refl _) rfl (update_object_same TaskObject.promise rfl)
      (update_object_same TaskObject.ret rfl) (waiting_setPoster (by simp))
  | ready tid key ret hposter hpromise =>
    exact hs.of_same (List.Sublist.refl _) rfl (fun _ => rfl) (fun _ => rfl)
      (waiting_setPoster (by simp))
  | waited tid key outcome hposter =>
    exact hs.of_same (List.Sublist.refl _) rfl (update_object_same TaskObject.promise rfl)
      (update_object_same TaskObject.ret rfl) (waiting_setPoster (by simp))
  | left tid key outcome hposter =>
    exact hs.of_same (List.Sublist.refl _) rfl (update_object_same TaskObject.promise rfl)
      (update_object_same TaskObject.ret rfl) (waiting_setPoster (by simp))
  | read ok hworker =>
    exact hs.of_worker (by simp [hworker, Worker.past]) rfl
      (by simp [DelegateTasks.live, hworker, Worker.task, Worker.rest]) rfl rfl
  | popped factory hworker hmux =>
    exact hs.of_worker (by simp [hworker, Worker.past]) rfl
      (by simp [DelegateTasks.live, hworker, Worker.task, Worker.rest]) rfl rfl
  | discarded task rest hworker hwaited =>
    exact hs.of_worker (by simp [hworker, Worker.past]) rfl
      (by simp [DelegateTasks.live, hworker, Worker.task, Worker.rest]) rfl rfl
  | started task rest hworker hwaited =>
    exact hs.of_worker (by simp [hworker, Worker.past]) rfl
      (by simp [DelegateTasks.live, hworker, Worker.task, Worker.rest]) rfl rfl
  | finished task rest ret hworker => exact hs.finished ret hworker
  | completing task ret rest hworker hwaited hsync =>
    have hpast : s.worker.past = some task.key := by simp [hworker, Worker.past]
    have hlive : ∀ other ∈ task :: rest ++ s.tasks, other ∈ s.live := by
      simp [DelegateTasks.live, hworker, Worker.task, Worker.rest]
    refine ⟨fun other h => hs.unset other (hlive other h), fun other h hne => ?_,
      fun other v tasks h => ?_, fun tid key h hne => ?_⟩
    · have hother := hs.past other (hlive other h) hne
      exact hpast.symm.trans hother
    · rcases h with h | h
      · simp at h
      · simp only [Worker.completing.injEq] at h
        obtain ⟨rfl, rfl, rfl⟩ := h
        exact hs.value task ret rest (.inl hworker)
    · have hwait := hs.waiting tid key h hne
      rw [hpast] at hwait
      exact hwait
  | passed task ret rest hworker hwaited =>
    have hlive : s.live = task :: (rest ++ s.tasks) := by
      simp [DelegateTasks.live, hworker, Worker.task, Worker.rest]
    refine hs.leave hown hlive (by simp [hworker, Worker.past]) rfl rfl rfl (fun _ _ => rfl)
      (fun tid hposter => ?_)
    -- who waits has a promise, and has not been waited for
    have hkey : (s.posters tid).key = some task.key := by simp [hposter, Poster.key]
    have hagrees := htold.agrees tid task.key hkey
    rw [hposter] at hagrees
    have hsync := hown.sync task (by simp [hlive]) tid hkey
    rcases hwaited with hwaited | hasync
    · exact absurd (hwaited.symm.trans hagrees) (by simp)
    · exact absurd (hasync.symm.trans hsync) (by simp)
  | completed task ret rest hworker =>
    have hlive : s.live = task :: (rest ++ s.tasks) := by
      simp [DelegateTasks.live, hworker, Worker.task, Worker.rest]
    exact hs.leave hown hlive (by simp [hworker, Worker.past]) rfl rfl rfl
      (fun key hkey => objects_setObject _ hkey) (fun tid hposter => by simp)

/-! ## The runs -/

/-- What holds of every state. -/
structure Inv (s : DelegateTasks) : Prop where
  owned : Owned s
  told : Told s
  worked : Worked s

theorem inv_create : Inv create := ⟨owned_create, told_create, worked_create⟩

theorem Inv.step {i : Input} (hs : Inv s) (h : Moves s i s') : Inv s' :=
  ⟨hs.owned.step h, hs.told.step hs.owned hs.worked h, hs.worked.step hs.owned hs.told h⟩

theorem inv_step (workerThreadId : Nat) (s : DelegateTasks) (i : Input) (hs : Inv s) :
    Inv (step workerThreadId s i) := by
  rcases step_cases workerThreadId s i with hsame | hmoves
  · rw [hsame]
    exact hs
  · exact hs.step hmoves

/-- What needs no condition. -/
theorem Inv.result (hs : Inv s) (key : Nat) (ret : Int)
    (h : (s.objects key).returned = some (.result ret)) : (s.objects key).ret = some ret :=
  (hs.told.sound key).promised ret ((hs.told.sound key).result ret h)

/-- A task the worker is past is not done. -/
theorem Worker.mem_live_of_past {key : Nat} (h : s.worker.past = some key) :
    ∃ task ∈ s.live, task.key = key ∧ ∃ ret rest,
      s.worker = .finished task ret rest ∨ s.worker = .completing task ret rest := by
  cases hworker : s.worker with
  | finished task ret rest =>
    refine ⟨task, by simp [DelegateTasks.live, hworker, Worker.task], ?_, ret, rest, .inl rfl⟩
    simpa [hworker, Worker.past] using h
  | completing task ret rest =>
    refine ⟨task, by simp [DelegateTasks.live, hworker, Worker.task], ?_, ret, rest, .inr rfl⟩
    simpa [hworker, Worker.past] using h
  | processing rest => simp [hworker, Worker.past] at h
  | read => simp [hworker, Worker.past] at h
  | running task rest => simp [hworker, Worker.past] at h

/-- A thread that waits, and is not told: either the function has not
returned, or the worker is past it. -/
theorem Inv.ret_eq_none_iff (hs : Inv s) {tid key : Nat} (hposter : s.posters tid = .waiting key)
    (hpromise : (s.objects key).promise = none) :
    (s.objects key).ret = none ↔ s.worker.past ≠ some key := by
  constructor
  · intro hret hpast
    obtain ⟨task, -, rfl, ret, rest, hworker⟩ := Worker.mem_live_of_past hpast
    rw [hs.worked.value task ret rest hworker] at hret
    simp at hret
  · intro hpast
    by_contra hret
    rcases hs.worked.waiting tid key hposter hret with h | h
    · exact h hpromise
    · exact hpast h

theorem Inv.cancelled (hs : Inv s)
    (hframe : ∀ key, (s.objects key).returned ≠ none → s.worker.inFrame ≠ some key)
    (htimeout : ∀ key ret, (s.objects key).timedOut = some ret → ret = none) : Cancelled s where
  frame := hframe
  result := hs.result
  declared key h := (hs.told.sound key).declared h
  timeout := htimeout

theorem cancelled_create : Cancelled create :=
  inv_create.cancelled (by simp [create, TaskObject.make]) (by simp [create, TaskObject.make])

/-- Whose `PostSyncTask` has returned, in whose frame the worker is not. -/
theorem Cancelled.frame_step {i : Input} (hs : Cancelled s) (hinv : Inv s) (h : Moves s i s')
    (hi : ReturnsInTime s i) (key : Nat) (hreturned : (s'.objects key).returned ≠ none) :
    s'.worker.inFrame ≠ some key := by
  cases h with
  | refused tid sync factory => exact hs.frame key hreturned
  | posted tid sync id factory hposter hmux hlimit => exact hs.frame key hreturned
  | pushed tid id sync hposter => exact hs.frame key hreturned
  | timedOut tid other hposter hpromise =>
    refine hs.frame key ?_
    rwa [setPoster_objects, setObject_objects,
      update_object_same TaskObject.returned (by rfl)] at hreturned
  | ready tid other ret hposter hpromise => exact hs.frame key hreturned
  | waited tid other outcome hposter =>
    refine hs.frame key ?_
    rwa [setPoster_objects, setObject_objects,
      update_object_same TaskObject.returned (by rfl)] at hreturned
  | left tid other outcome hposter =>
    by_cases hkey : key = other
    · subst hkey
      exact hi key outcome hposter
    · rw [setPoster_objects, setObject_objects, Function.update_of_ne hkey] at hreturned
      exact hs.frame key hreturned
  | read ok hworker => simp [Worker.inFrame]
  | popped factory hworker hmux => simp [Worker.inFrame]
  | discarded task rest hworker hwaited => simp [Worker.inFrame]
  | started task rest hworker hwaited =>
    -- the worker has seen that nobody has stopped waiting
    intro heq
    simp only [Worker.inFrame, Option.some.injEq] at heq
    subst heq
    have hset := (hinv.told.sound task.key).returned hreturned
    exact absurd (hwaited.symm.trans hset) (by simp)
  | finished task rest ret hworker => simp [Worker.inFrame]
  | completing task ret rest hworker hwaited hsync =>
    intro heq
    simp only [Worker.inFrame, Option.some.injEq] at heq
    subst heq
    have hset := (hinv.told.sound task.key).returned hreturned
    exact absurd (hwaited.symm.trans hset) (by simp)
  | passed task ret rest hworker hwaited => simp [Worker.inFrame]
  | completed task ret rest hworker => simp [Worker.inFrame]

/-- A timeout is declared of no function that has returned. -/
theorem Cancelled.timeout_step {i : Input} (hs : Cancelled s) (hinv : Inv s) (h : Moves s i s')
    (hi : ReturnsInTime s i) (key : Nat) (before : Option Int)
    (hdeclared : (s'.objects key).timedOut = some before) : before = none := by
  cases h with
  | timedOut tid other hposter hpromise =>
    by_cases hkey : key = other
    · subst hkey
      simp only [setPoster_objects, setObject_objects, Function.update_self,
        Option.some.injEq] at hdeclared
      rw [← hdeclared]
      exact (hinv.ret_eq_none_iff hposter hpromise).mpr (hi key hposter)
    · rw [setPoster_objects, setObject_objects, Function.update_of_ne hkey] at hdeclared
      exact hs.timeout key before hdeclared
  | waited tid other outcome hposter =>
    refine hs.timeout key before ?_
    rwa [setPoster_objects, setObject_objects,
      update_object_same TaskObject.timedOut (by rfl)] at hdeclared
  | left tid other outcome hposter =>
    refine hs.timeout key before ?_
    rwa [setPoster_objects, setObject_objects,
      update_object_same TaskObject.timedOut (by rfl)] at hdeclared
  | finished task rest ret hworker =>
    refine hs.timeout key before ?_
    rwa [setObject_objects, update_object_same TaskObject.timedOut (by rfl)] at hdeclared
  | completed task ret rest hworker =>
    refine hs.timeout key before ?_
    rwa [setObject_objects, update_object_same TaskObject.timedOut (by rfl)] at hdeclared
  | _ => exact hs.timeout key before hdeclared

theorem Cancelled.step (workerThreadId : Nat) (i : Input) (hs : Cancelled s) (hinv : Inv s)
    (hi : ReturnsInTime s i) : Cancelled (step workerThreadId s i) := by
  rcases step_cases workerThreadId s i with hsame | hmoves
  · rw [hsame]
    exact hs
  · exact (hinv.step hmoves).cancelled (hs.frame_step hinv hmoves hi)
      (hs.timeout_step hinv hmoves hi)

/-- A step that breaks the condition shows. -/
theorem returnsInTime_of_cancelled (workerThreadId : Nat) (i : Input) (hinv : Inv s)
    (h : Cancelled (step workerThreadId s i)) : ReturnsInTime s i := by
  cases i with
  | waitTimeout tid =>
    intro key hposter hpast
    obtain ⟨task, htask, rfl, -⟩ := Worker.mem_live_of_past hpast
    have hpromise := hinv.worked.unset task htask
    have hret := (hinv.ret_eq_none_iff hposter hpromise).not_left.mpr hpast
    refine hret (h.timeout task.key _ ?_)
    simp [DelegateTask.step, DelegateTasks.waitTimeout, hposter, hpromise]
  | leave tid =>
    intro key outcome hposter
    have hframe := h.frame key
    simpa [DelegateTask.step, DelegateTasks.leave, hposter] using hframe
  | _ => trivial

/-- In the runs in which no wait times out while the worker is between the
function and `set_value`, and no `PostSyncTask` returns while the worker is
in its frame, and in no others, the worker has done with a task when its
`PostSyncTask` has returned, and a function that returned before the
timeout has its result returned. -/
theorem syncCancellation (workerThreadId : Nat) (is : List Input) :
    Always (step workerThreadId) Cancelled create is ↔
      AllSteps (step workerThreadId) ReturnsInTime create is := by
  have hkeep : ∀ s i, Inv s ∧ Cancelled s → ReturnsInTime s i →
      Inv (step workerThreadId s i) ∧ Cancelled (step workerThreadId s i) :=
    fun s i hs hi => ⟨inv_step workerThreadId s i hs.1, hs.2.step workerThreadId i hs.1 hi⟩
  have hneed : ∀ s i, Inv s ∧ Cancelled s → Cancelled (step workerThreadId s i) →
      ReturnsInTime s i :=
    fun _ i hs h => returnsInTime_of_cancelled workerThreadId i hs.1 h
  exact always_iff_allSteps_of_inv (fun _ hs => hs.2) hkeep hneed is create
    ⟨inv_create, cancelled_create⟩

/-- The worker has tested the flag and is in the function when the wait times
out: `PostSyncTask` returns, and the function goes on. -/
theorem counterexample_syncCancellation :
    let is : List Input := [.postTask 1 true true, .push 1, .readRecord true, .popPendingTaskList,
      .processTask, .waitTimeout 1, .setWaited 1, .leave 1]
    ((runFrom (step 0) create is).objects 0).returned = some .waitTimeout ∧
      (runFrom (step 0) create is).worker.inFrame = some 0 ∧
      ¬ Always (step 0) Cancelled create is := by
  refine ⟨by decide, by decide, fun h => ?_⟩
  exact h.last.frame 0 (by decide) (by decide)

end FtMmi.DelegateTask
