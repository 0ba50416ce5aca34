/-
FtMmi.DelegateTask.TaskQueue — every accepted task is taken once, in the
order in which the tasks were pushed.

The tasks that were processed, those of the worker's batch and those in
the queue are, in this order, all that were accepted (`Queued.order`).
A task of which the poster has stopped waiting is taken without being
executed. The records in the pipe, and the one the worker has read and
not acted on, are at least as many as the tasks in the queue
(`Queued.records`): the record is written before the task is pushed, and
the worker reads no more than one record for the tasks it takes. So the
worker comes back until the queue is empty.
-/
import FtMmi.Lib.StepSystem
import FtMmi.DelegateTask.DelegateTasks

namespace FtMmi.DelegateTask

open FtMmi.Lib
open DelegateTasks

namespace DelegateTasks

variable (s : DelegateTasks)

/-! ## The property -/

/-- The tasks whose function was called, in the order of the calls. -/
def executed : List Nat := (s.processed.filter (·.2)).map Prod.fst

/-- "Expired tasks will be discarded." -/
def discarded : List Nat := (s.processed.filter (!·.2)).map Prod.fst

/-- The tasks the worker has not come to, in the order in which it will. -/
def pending : List Nat := (s.worker.rest ++ s.tasks).map Task.key

/-- What the worker does next; `ret` is what the tasks' functions return. -/
def turn (ret : Task → Int) : Input :=
  match s.worker with
  | .processing [] => .readRecord true
  | .processing (_ :: _) => .processTask
  | .read => .popPendingTaskList
  | .running task _ => .finish (ret task)
  | .finished _ _ _ => .testWaited
  | .completing _ _ _ => .setValue

end DelegateTasks

/-- The worker takes `n` turns, and no other thread moves. -/
def workerRun (workerThreadId : Nat) (ret : Task → Int) : Nat → DelegateTasks → DelegateTasks
  | 0, s => s
  | n + 1, s => workerRun workerThreadId ret n (step workerThreadId s (s.turn ret))

/-- `keys` are all executed, but for those nobody waits for any more. -/
def Served (s : DelegateTasks) (keys : List Nat) : Prop :=
  ∀ key ∈ keys, key ∈ s.executed ∨ key ∈ s.discarded

structure ServesTasks (workerThreadId : Nat) (s : DelegateTasks) : Prop where
  once : ∀ key < s.accepted, (s.executed ++ s.discarded ++ s.pending).count key = 1
  /-- Keys are given in the order of the pushes. -/
  order : (s.executed ++ s.pending).Pairwise (· < ·)
  discarded : ∀ key ∈ s.discarded, (s.objects key).hasWaited = true
  drained : s.mux = none → s.pipe = [] → s.worker ≠ .read → s.tasks = []
  /-- Nothing more is needed than that the functions return. -/
  served : s.mux = none → ∀ ret : Task → Int, ∃ n,
    (workerRun workerThreadId ret n s).pending = [] ∧
      Served (workerRun workerThreadId ret n s) (List.range s.accepted)

/-! ## The invariant -/

structure Queued (s : DelegateTasks) : Prop where
  order : s.processed.map Prod.fst ++ s.pending = List.range s.accepted
  waited : ∀ key, (key, false) ∈ s.processed → (s.objects key).hasWaited = true
  /-- A thread in `PostTask` has the mutex. -/
  holder : ∀ tid id sync, s.posters tid = .posting id sync → s.mux = some tid
  records : s.tasks.length + (if s.mux = none then 0 else 1) ≤
    s.pipe.length + if s.worker = .read then 1 else 0

theorem queued_create : Queued create where
  order := rfl
  waited key hkey := by simp [create] at hkey
  holder tid id sync hposter := by simp [create] at hposter
  records := by simp [create]

variable {s s' : DelegateTasks}

/-- Nothing but the posters and the objects changes; no thread comes into
`PostTask`, and none has not waited any more. -/
theorem Queued.of_queue (hs : Queued s) (hprocessed : s'.processed = s.processed)
    (hpending : s'.pending = s.pending) (haccepted : s'.accepted = s.accepted)
    (htasks : s'.tasks = s.tasks) (hmux : s'.mux = s.mux) (hpipe : s'.pipe = s.pipe)
    (hread : s'.worker = .read ↔ s.worker = .read)
    (hwaited : ∀ key, (s.objects key).hasWaited = true → (s'.objects key).hasWaited = true)
    (hposters : ∀ tid id sync, s'.posters tid = .posting id sync →
      s.posters tid = .posting id sync) : Queued s' where
  order := by rw [hprocessed, hpending, haccepted, hs.order]
  waited key hkey := hwaited key (hs.waited key (hprocessed ▸ hkey))
  holder tid id sync hposter := by rw [hmux, hs.holder tid id sync (hposters tid id sync hposter)]
  records := by
    simp only [htasks, hmux, hpipe, hread]
    exact hs.records

/-- A poster moves on, and an object that has been waited for stays so. -/
theorem Queued.setPoster_setObject (hs : Queued s) (tid key : Nat) (p : Poster) (o : TaskObject)
    (hp : ∀ id sync, p ≠ .posting id sync)
    (ho : (s.objects key).hasWaited = true → o.hasWaited = true) :
    Queued ((s.setObject key o).setPoster tid p) := by
  refine hs.of_queue rfl rfl rfl rfl rfl rfl Iff.rfl (fun other hother => ?_)
    (fun other id sync hother => ?_)
  · by_cases hkey : other = key
    · subst hkey
      simpa [DelegateTasks.setPoster, DelegateTasks.setObject] using ho hother
    · simpa [DelegateTasks.setPoster, DelegateTasks.setObject, hkey] using hother
  · by_cases htid : other = tid
    · subst htid
      simp [DelegateTasks.setPoster, hp] at hother
    · simpa [DelegateTasks.setPoster, DelegateTasks.setObject, htid] using hother

/-- `hasWaited_` stays. -/
theorem hasWaited_setObject (key : Nat) (o : TaskObject)
    (ho : (s.objects key).hasWaited = true → o.hasWaited = true) (other : Nat)
    (h : (s.objects other).hasWaited = true) :
    ((s.setObject key o).objects other).hasWaited = true := by
  by_cases hkey : other = key
  · subst hkey
    simpa [DelegateTasks.setObject] using ho h
  · simpa [DelegateTasks.setObject, hkey] using h

theorem Queued.step {i : Input} (hs : Queued s) (h : Moves s i s') : Queued s' := by
  cases h with
  | refused tid sync factory =>
    exact hs.of_queue rfl rfl rfl rfl rfl rfl Iff.rfl (fun _ h => h) (fun _ _ _ h => h)
  | posted tid sync id factory hposter hmux hlimit =>
    refine ⟨hs.order, hs.waited, fun other id' sync' hother => ?_, ?_⟩
    · by_cases htid : other = tid
      · rw [htid]
      · simp only [ne_eq, htid, not_false_eq_true, Function.update_of_ne] at hother
        simpa [hmux] using hs.holder other id' sync' hother
    · have hrecords := hs.records
      simp only [hmux, reduceIte] at hrecords
      simp only [reduceCtorEq, if_false, List.length_append, List.length_singleton]
      omega
  | pushed tid id sync hposter =>
    have hmux := hs.holder tid id sync hposter
    refine ⟨?_, hs.waited, fun other id' sync' hother => ?_, ?_⟩
    · have horder := hs.order
      simp only [DelegateTasks.pending, List.map_append] at horder ⊢
      rw [List.range_succ, ← horder]
      simp
    · by_cases htid : other = tid
      · subst htid
        cases sync <;> simp at hother
      · simp only [ne_eq, htid, not_false_eq_true, Function.update_of_ne] at hother
        have hother' := hs.holder other id' sync' hother
        rw [hmux, Option.some.injEq] at hother'
        exact absurd hother'.symm htid
    · have hrecords := hs.records
      simp only [hmux, reduceCtorEq, if_false] at hrecords
      simpa using hrecords
  | timedOut tid key hposter hpromise =>
    exact hs.setPoster_setObject tid key _ _ (by simp) (fun h => h)
  | ready tid key ret hposter hpromise =>
    have hsame : s.setPoster tid (.ready key) =
        (s.setObject key (s.objects key)).setPoster tid (.ready key) := by
      simp [DelegateTasks.setPoster, DelegateTasks.setObject]
    rw [hsame]
    exact hs.setPoster_setObject tid key _ _ (by simp) (fun h => h)
  | waited tid key outcome hposter =>
    exact hs.setPoster_setObject tid key _ _ (by simp) (fun _ => rfl)
  | left tid key outcome hposter =>
    exact hs.setPoster_setObject tid key _ _ (by simp) (fun h => h)
  | read ok hworker =>
    refine ⟨?_, hs.waited, hs.holder, ?_⟩
    · have horder := hs.order
      simp only [DelegateTasks.pending, hworker, Worker.rest] at horder ⊢
      exact horder
    · have hrecords := hs.records
      simp only [hworker, reduceCtorEq, if_false] at hrecords
      have htail := List.length_tail (l := s.pipe)
      cases ok <;> simp <;> omega
  | popped factory hworker hmux =>
    refine ⟨?_, hs.waited, hs.holder, ?_⟩
    · have horder := hs.order
      simp only [DelegateTasks.pending, hworker, Worker.rest, List.nil_append] at horder ⊢
      rw [List.take_append_drop, horder]
    · have hrecords := hs.records
      simp only [hworker, hmux, if_true] at hrecords
      simp only [hmux, if_true, reduceCtorEq, if_false, List.length_drop, onceProcessTaskLimit]
      omega
  | discarded task rest hworker hwaited =>
    refine ⟨?_, fun key hkey => ?_, hs.holder, ?_⟩
    · have horder := hs.order
      simpa [DelegateTasks.pending, hworker, Worker.rest] using horder
    · rcases List.mem_append.mp hkey with hkey | hkey
      · exact hs.waited key hkey
      · simp only [List.mem_singleton, Prod.mk.injEq, and_true] at hkey
        rw [hkey]
        exact hwaited
    · simpa [hworker] using hs.records
  | started task rest hworker hwaited =>
    refine ⟨?_, fun key hkey => ?_, hs.holder, ?_⟩
    · have horder := hs.order
      simpa [DelegateTasks.pending, hworker, Worker.rest] using horder
    · refine hs.waited key ?_
      simpa using hkey
    · simpa [hworker] using hs.records
  | finished task rest ret hworker =>
    exact hs.of_queue rfl (by simp [DelegateTasks.pending, DelegateTasks.setObject, hworker,
        Worker.rest]) rfl rfl rfl rfl (by simp [hworker])
      (hasWaited_setObject task.key _ (fun h => h)) (fun _ _ _ h => h)
  | completing task ret rest hworker hwaited hsync =>
    exact hs.of_queue rfl (by simp [DelegateTasks.pending, hworker, Worker.rest]) rfl rfl rfl rfl
      (by simp [hworker]) (fun _ h => h) (fun _ _ _ h => h)
  | passed task ret rest hworker hwaited =>
    exact hs.of_queue rfl (by simp [DelegateTasks.pending, hworker, Worker.rest]) rfl rfl rfl rfl
      (by simp [hworker]) (fun _ h => h) (fun _ _ _ h => h)
  | completed task ret rest hworker =>
    exact hs.of_queue rfl (by simp [DelegateTasks.pending, DelegateTasks.setObject, hworker,
        Worker.rest]) rfl rfl rfl rfl (by simp [hworker])
      (hasWaited_setObject task.key _ (fun h => h)) (fun _ _ _ h => h)

theorem queued_step (workerThreadId : Nat) (s : DelegateTasks) (i : Input) (hs : Queued s) :
    Queued (step workerThreadId s i) := by
  rcases step_cases workerThreadId s i with hsame | hmoves
  · rw [hsame]
    exact hs
  · exact hs.step hmoves

/-! ## The worker by itself -/

/-- The turns the worker needs at most: four for a task, two for a record. -/
def turnsLeft (s : DelegateTasks) : Nat :=
  4 * s.tasks.length + 2 * s.pipe.length +
    match s.worker with
    | .processing rest => 4 * rest.length
    | .read => 1
    | .running _ rest => 4 * rest.length + 3
    | .finished _ _ rest => 4 * rest.length + 2
    | .completing _ _ rest => 4 * rest.length + 1

/-- A turn of the worker, with the mutex free: nothing is accepted, and there
is less left, unless all is done. -/
theorem turn_spec (workerThreadId : Nat) (ret : Task → Int) (s : DelegateTasks)
    (hmux : s.mux = none) :
    let s' := step workerThreadId s (s.turn ret)
    s'.mux = none ∧ s'.accepted = s.accepted ∧
      (turnsLeft s' < turnsLeft s ∨ s.worker = .processing [] ∧ s.pipe = []) := by
  intro s'
  simp only [s', DelegateTasks.turn]
  cases hworker : s.worker with
  | processing rest =>
    cases rest with
    | nil =>
      cases hpipe : s.pipe with
      | nil => simp [step, DelegateTasks.readRecord, hworker, hmux]
      | cons record pipe =>
        simp only [step, DelegateTasks.readRecord, hworker, hmux, turnsLeft, hpipe]
        simp
        omega
    | cons task rest =>
      cases hwaited : (s.objects task.key).hasWaited with
      | false =>
        simp [step, DelegateTasks.processTask, hworker, hmux, turnsLeft, hwaited]
        omega
      | true => simp [step, DelegateTasks.processTask, hworker, hmux, turnsLeft, hwaited]
  | read =>
    obtain ⟨htake, hdrop⟩ := popTasks_eq onceProcessTaskLimit s.factory s.tasks
    simp only [step, DelegateTasks.popPendingTaskList, hworker, hmux, turnsLeft, htake, hdrop]
    simp
    omega
  | running task rest =>
    simp [step, DelegateTasks.finish, DelegateTasks.setObject, hworker, hmux, turnsLeft]
  | finished task value rest =>
    cases htest : !(s.objects task.key).hasWaited && task.sync <;>
      simp [step, DelegateTasks.testWaited, hworker, hmux, turnsLeft, htest]
  | completing task value rest =>
    simp [step, DelegateTasks.setValue, DelegateTasks.setObject, hworker, hmux, turnsLeft]

/-- The worker gets to the end. -/
theorem workerRun_ends (workerThreadId : Nat) (ret : Task → Int) (bound : Nat)
    (s : DelegateTasks) (hs : Queued s) (hmux : s.mux = none) (hbound : turnsLeft s ≤ bound) :
    ∃ n, let s' := workerRun workerThreadId ret n s
      Queued s' ∧ s'.mux = none ∧ s'.accepted = s.accepted ∧ s'.worker = .processing [] ∧
        s'.pipe = [] := by
  induction bound generalizing s with
  | zero =>
    obtain ⟨-, -, hless | hdone⟩ := turn_spec workerThreadId ret s hmux
    · omega
    · exact ⟨0, hs, hmux, rfl, hdone⟩
  | succ bound ih =>
    obtain ⟨hmux', haccepted, hless | hdone⟩ := turn_spec workerThreadId ret s hmux
    · obtain ⟨n, hn, hn_mux, hn_accepted, hn_done⟩ :=
        ih _ (queued_step workerThreadId s _ hs) hmux' (by omega)
      exact ⟨n + 1, hn, hn_mux, hn_accepted.trans haccepted, hn_done⟩
    · exact ⟨0, hs, hmux, rfl, hdone⟩

/-! ## What the invariant says -/

/-- Those processed are those executed and those discarded. -/
theorem executed_discarded_perm (s : DelegateTasks) :
    (s.executed ++ s.discarded).Perm (s.processed.map Prod.fst) := by
  have hperm := List.filter_append_perm (fun p : Nat × Bool => p.2) s.processed
  simpa [DelegateTasks.executed, DelegateTasks.discarded] using hperm.map Prod.fst

theorem Queued.once (hs : Queued s) {key : Nat} (hkey : key < s.accepted) :
    (s.executed ++ s.discarded ++ s.pending).count key = 1 := by
  have hperm := (executed_discarded_perm s).append_right s.pending
  rw [hperm.count_eq, hs.order]
  exact List.count_eq_one_of_mem List.nodup_range (List.mem_range.mpr hkey)

theorem Queued.pairwise (hs : Queued s) : (s.executed ++ s.pending).Pairwise (· < ·) := by
  have hall : (s.processed.map Prod.fst ++ s.pending).Pairwise (· < ·) := by
    rw [hs.order]
    exact List.pairwise_lt_range
  exact hall.sublist ((List.filter_sublist.map Prod.fst).append (List.Sublist.refl _))

theorem Queued.discarded_waited (hs : Queued s) {key : Nat} (hkey : key ∈ s.discarded) :
    (s.objects key).hasWaited = true := by
  simp only [DelegateTasks.discarded, List.mem_map, List.mem_filter] at hkey
  obtain ⟨⟨other, executed⟩, ⟨hmem, hnot⟩, rfl⟩ := hkey
  cases executed with
  | false => exact hs.waited other hmem
  | true => simp at hnot

/-- The wake-up is not lost. -/
theorem Queued.drained (hs : Queued s) (hmux : s.mux = none) (hpipe : s.pipe = [])
    (hread : s.worker ≠ .read) : s.tasks = [] := by
  have hrecords := hs.records
  simp only [hmux, hpipe, hread, if_true, if_false, List.length_nil] at hrecords
  exact List.length_eq_zero_iff.mp (by omega)

theorem Queued.served (hs : Queued s) (hpending : s.pending = []) :
    Served s (List.range s.accepted) := by
  intro key hkey
  rw [← hs.order, hpending, List.append_nil] at hkey
  have hmem := (executed_discarded_perm s).mem_iff.mpr hkey
  exact List.mem_append.mp hmem

theorem Queued.serves (workerThreadId : Nat) (hs : Queued s) : ServesTasks workerThreadId s where
  once _ hkey := hs.once hkey
  order := hs.pairwise
  discarded _ hkey := hs.discarded_waited hkey
  drained := hs.drained
  served hmux ret := by
    obtain ⟨n, hn, hn_mux, hn_accepted, hn_worker, hn_pipe⟩ :=
      workerRun_ends workerThreadId ret _ s hs hmux (Nat.le_refl _)
    have htasks := hn.drained hn_mux hn_pipe (by simp [hn_worker])
    have hpending : (workerRun workerThreadId ret n s).pending = [] := by
      simp [DelegateTasks.pending, hn_worker, Worker.rest, htasks]
    refine ⟨n, hpending, ?_⟩
    rw [← hn_accepted]
    exact hn.served hpending

/-- In every run every accepted task is executed, once and in the order of
the pushes, unless nobody waits for it any more when its turn comes; and no
task is left in the queue that the worker would not come back for. -/
theorem taskQueue (workerThreadId : Nat) (is : List Input) :
    Always (step workerThreadId) (ServesTasks workerThreadId) create is :=
  (always_of_step (queued_step workerThreadId) is create queued_create).mono
    fun _ hs => hs.serves workerThreadId

/-- Thread 1 posts a synchronous task and gives up before the worker comes:
the task is taken and never executed. And a task is in the queue while the
pipe is empty, between the worker's `read` and its `PopPendingTaskList`. -/
theorem counterexample_taskQueue :
    (let s := runFrom (step 0) create
      [.postTask 1 true true, .push 1, .waitTimeout 1, .setWaited 1, .leave 1, .readRecord true,
        .popPendingTaskList, .processTask]
    s.accepted = 1 ∧ s.executed = [] ∧ s.pending = [] ∧ s.mux = none ∧ s.pipe = []) ∧
    (let s := runFrom (step 0) create [.postTask 1 true true, .push 1, .readRecord true]
    s.mux = none ∧ s.pipe = [] ∧ s.tasks ≠ []) := by
  decide

end FtMmi.DelegateTask
