/-
FtMmi.DelegateTask.DelegateTasks — tasks handed to the worker thread.

Binder threads post tasks (`PostSyncTask`, `PostAsyncTask`), the worker
runs them (`OnDelegateTask`, `ProcessTasks`). A posting thread writes a
record to a pipe and pushes the task, both under the mutex; the worker
reads one record without the mutex, takes up to ten tasks under it and
processes them. What a thread does between two things another thread can
see is one step:

* `PostTask` up to the write, and its push, which ends it;
* the end of `wait_for`, `SetWaited`, and the return of `PostSyncTask`;
* the two tests of `hasWaited_` in `ProcessTask`, the call of the task's
  function, and `set_value`.

A step that is not the thread's turn leaves the state alone. The pipe is
watched level-triggered, so the worker comes back as long as it is not
empty. A thread that posts on the worker runs its callback in place, and
the queue is not touched. The tasks are objects and are told apart by
`key`: their ids are recycled.
-/
import Mathlib

namespace FtMmi.DelegateTask

/-! ## Ids -/

/-- `IdFactory<int32_t>`: `ids` is the set of recovered ids, ascending. -/
structure IdFactory where
  seed : Int
  ids : List Int
  deriving DecidableEq

namespace IdFactory

/-- `std::numeric_limits<int32_t>::max()` -/
def maxLimit : Int := 2147483647

def generateId (f : IdFactory) : Int × IdFactory :=
  match f.ids with
  | [] => if f.seed = maxLimit then (0, f) else (f.seed, { f with seed := f.seed + 1 })
  | id :: ids => (id, { f with ids })

/-- `std::set::insert` -/
def insertId (id : Int) : List Int → List Int
  | [] => [id]
  | other :: ids =>
      if id < other then id :: other :: ids
      else if id = other then other :: ids
      else other :: insertId id ids

def recoveryId (f : IdFactory) (id : Int) : IdFactory :=
  if id > f.seed then f else { f with ids := insertId id f.ids }

end IdFactory

/-! ## The state -/

/-- The record a posting thread writes to the pipe. -/
structure TaskData where
  tid : Nat
  taskId : Int
  deriving DecidableEq

/-- A task, as the queue holds it: `sync` if it has a promise. -/
structure Task where
  key : Nat
  id : Int
  sync : Bool
  deriving DecidableEq

/-- What `PostSyncTask` gives its caller. -/
inductive Outcome where
  | result (ret : Int)
  /-- `ETASKS_WAIT_TIMEOUT` -/
  | waitTimeout
  deriving DecidableEq

/-- What threads share of a task, and its history. -/
structure TaskObject where
  hasWaited : Bool
  /-- The shared state of its promise. -/
  promise : Option Int
  /-- What its function has returned. -/
  ret : Option Int
  /-- What its function had returned when the wait for it timed out. -/
  timedOut : Option (Option Int)
  /-- What `PostSyncTask` has returned. -/
  returned : Option Outcome
  deriving DecidableEq

def TaskObject.make : TaskObject := ⟨false, none, none, none, none⟩

/-- Where a posting thread is. -/
inductive Poster where
  | idle
  /-- In `PostTask`, with the mutex: the record is written. -/
  | posting (id : Int) (sync : Bool)
  /-- In `wait_for`. -/
  | waiting (key : Nat)
  /-- `wait_for` has returned, because of the time or because of the result. -/
  | timedOut (key : Nat)
  | ready (key : Nat)
  /-- `SetWaited` is done. -/
  | leaving (key : Nat) (outcome : Outcome)
  deriving DecidableEq

/-- Where the worker is; `rest` are the tasks of `ProcessTasks` it has not
come to yet. -/
inductive Worker where
  | processing (rest : List Task)
  /-- In `OnDelegateTask`, after its `read`. -/
  | read
  /-- In `fun_`. -/
  | running (task : Task) (rest : List Task)
  | finished (task : Task) (ret : Int) (rest : List Task)
  /-- Before `set_value`. -/
  | completing (task : Task) (ret : Int) (rest : List Task)
  deriving DecidableEq

namespace Worker

def rest : Worker → List Task
  | .processing rest => rest
  | .read => []
  | .running _ rest => rest
  | .finished _ _ rest => rest
  | .completing _ _ rest => rest

/-- The task that is being processed. -/
def task : Worker → Option Task
  | .processing _ => none
  | .read => none
  | .running task _ => some task
  | .finished task _ _ => some task
  | .completing task _ _ => some task

end Worker

structure DelegateTasks where
  factory : IdFactory
  /-- The thread that holds the mutex. -/
  mux : Option Nat
  tasks : List Task
  pipe : List TaskData
  worker : Worker
  posters : Nat → Poster
  objects : Nat → TaskObject
  /-- The tasks that have been pushed, and the key of the next one. -/
  accepted : Nat
  /-- The tasks `ProcessTask` was called for, and whether it called their function. -/
  processed : List (Nat × Bool)

namespace DelegateTasks

def create : DelegateTasks where
  factory := ⟨1, []⟩
  mux := none
  tasks := []
  pipe := []
  worker := .processing []
  posters _ := .idle
  objects _ := .make
  accepted := 0
  processed := []

def maxTasksLimit : Nat := 1000

def onceProcessTaskLimit : Nat := 10

variable (s : DelegateTasks)

def setPoster (tid : Nat) (p : Poster) : DelegateTasks :=
  { s with posters := Function.update s.posters tid p }

def setObject (key : Nat) (o : TaskObject) : DelegateTasks :=
  { s with objects := Function.update s.objects key o }

@[simp] theorem setPoster_posters (tid : Nat) (p : Poster) :
    (s.setPoster tid p).posters = Function.update s.posters tid p := rfl

@[simp] theorem setPoster_objects (tid : Nat) (p : Poster) :
    (s.setPoster tid p).objects = s.objects := rfl

@[simp] theorem setPoster_worker (tid : Nat) (p : Poster) :
    (s.setPoster tid p).worker = s.worker := rfl

@[simp] theorem setObject_posters (key : Nat) (o : TaskObject) :
    (s.setObject key o).posters = s.posters := rfl

@[simp] theorem setObject_objects (key : Nat) (o : TaskObject) :
    (s.setObject key o).objects = Function.update s.objects key o := rfl

@[simp] theorem setObject_worker (key : Nat) (o : TaskObject) :
    (s.setObject key o).worker = s.worker := rfl

/-! ## The posting threads -/

/-- `PostTask`, up to its `write`; `written` if that succeeds. -/
def postTask (workerThreadId tid : Nat) (sync written : Bool) : DelegateTasks :=
  match s.posters tid, s.mux with
  | .idle, none =>
      if tid = workerThreadId then s
      else if s.tasks.length > maxTasksLimit then s
      else
        let (id, factory) := s.factory.generateId
        if written then
          { s with
            factory, mux := some tid, pipe := s.pipe ++ [⟨tid, id⟩]
            posters := Function.update s.posters tid (.posting id sync) }
        else { s with factory := factory.recoveryId id }
  | _, _ => s

/-- `tasks_.push(task)`; the guard is released. -/
def push (tid : Nat) : DelegateTasks :=
  match s.posters tid with
  | .posting id sync =>
      { s with
        mux := none, tasks := s.tasks ++ [⟨s.accepted, id, sync⟩], accepted := s.accepted + 1
        posters := Function.update s.posters tid (if sync then .waiting s.accepted else .idle) }
  | _ => s

/-- `wait_for` returns `future_status::timeout`. -/
def waitTimeout (tid : Nat) : DelegateTasks :=
  match s.posters tid with
  | .waiting key =>
      if (s.objects key).promise = none then
        (s.setObject key { s.objects key with timedOut := some (s.objects key).ret }).setPoster tid
          (.timedOut key)
      else s
  | _ => s

/-- `wait_for` returns `future_status::ready`. -/
def waitReady (tid : Nat) : DelegateTasks :=
  match s.posters tid with
  | .waiting key => if (s.objects key).promise = none then s else s.setPoster tid (.ready key)
  | _ => s

/-- `SetWaited`, and what is returned: `future.get()` unless the wait timed out. -/
def setWaited (tid : Nat) : DelegateTasks :=
  match s.posters tid with
  | .timedOut key =>
      (s.setObject key { s.objects key with hasWaited := true }).setPoster tid
        (.leaving key .waitTimeout)
  | .ready key =>
      match (s.objects key).promise with
      | some ret =>
          (s.setObject key { s.objects key with hasWaited := true }).setPoster tid
            (.leaving key (.result ret))
      | none => s
  | _ => s

/-- `PostSyncTask` returns. -/
def leave (tid : Nat) : DelegateTasks :=
  match s.posters tid with
  | .leaving key outcome =>
      (s.setObject key { s.objects key with returned := some outcome }).setPoster tid .idle
  | _ => s

/-! ## The worker -/

/-- `OnDelegateTask`, up to its `read`; `ok` if that succeeds. -/
def readRecord (ok : Bool) : DelegateTasks :=
  match s.worker with
  | .processing [] => { s with worker := .read, pipe := if ok then s.pipe.tail else s.pipe }
  | _ => s

/-- The loop of `PopPendingTaskList`: the tasks taken, and what is left. -/
def popTasks : Nat → IdFactory → List Task → List Task × IdFactory × List Task
  | 0, factory, tasks => ([], factory, tasks)
  | _ + 1, factory, [] => ([], factory, [])
  | count + 1, factory, task :: tasks =>
      let (popped, factory', left) := popTasks count (factory.recoveryId task.id) tasks
      (task :: popped, factory', left)

def popPendingTaskList : DelegateTasks :=
  match s.worker, s.mux with
  | .read, none =>
      let (popped, factory, left) := popTasks onceProcessTaskLimit s.factory s.tasks
      { s with factory, tasks := left, worker := .processing popped }
  | _, _ => s

/-- `ProcessTask`, up to the call of `fun_`. -/
def processTask : DelegateTasks :=
  match s.worker with
  | .processing (task :: rest) =>
      if (s.objects task.key).hasWaited then
        { s with worker := .processing rest, processed := s.processed ++ [(task.key, false)] }
      else { s with worker := .running task rest, processed := s.processed ++ [(task.key, true)] }
  | _ => s

/-- `fun_` returns. -/
def finish (ret : Int) : DelegateTasks :=
  match s.worker with
  | .running task rest =>
      { s.setObject task.key { s.objects task.key with ret := some ret } with
        worker := .finished task ret rest }
  | _ => s

/-- `!hasWaited_ && promise_ != nullptr` -/
def testWaited : DelegateTasks :=
  match s.worker with
  | .finished task ret rest =>
      if !(s.objects task.key).hasWaited && task.sync then
        { s with worker := .completing task ret rest }
      else { s with worker := .processing rest }
  | _ => s

/-- `promise_->set_value(ret)` -/
def setValue : DelegateTasks :=
  match s.worker with
  | .completing task ret rest =>
      { s.setObject task.key { s.objects task.key with promise := some ret } with
        worker := .processing rest }
  | _ => s

end DelegateTasks

inductive Input where
  | postTask (tid : Nat) (sync written : Bool)
  | push (tid : Nat)
  | waitTimeout (tid : Nat)
  | waitReady (tid : Nat)
  | setWaited (tid : Nat)
  | leave (tid : Nat)
  | readRecord (ok : Bool)
  | popPendingTaskList
  | processTask
  | finish (ret : Int)
  | testWaited
  | setValue
  deriving DecidableEq

def step (workerThreadId : Nat) (s : DelegateTasks) : Input → DelegateTasks
  | .postTask tid sync written => s.postTask workerThreadId tid sync written
  | .push tid => s.push tid
  | .waitTimeout tid => s.waitTimeout tid
  | .waitReady tid => s.waitReady tid
  | .setWaited tid => s.setWaited tid
  | .leave tid => s.leave tid
  | .readRecord ok => s.readRecord ok
  | .popPendingTaskList => s.popPendingTaskList
  | .processTask => s.processTask
  | .finish ret => s.finish ret
  | .testWaited => s.testWaited
  | .setValue => s.setValue

/-! ## What a step can do -/

open DelegateTasks

/-- The loop takes the first ten tasks. -/
theorem popTasks_eq (count : Nat) (factory : IdFactory) (tasks : List Task) :
    (popTasks count factory tasks).1 = tasks.take count ∧
      (popTasks count factory tasks).2.2 = tasks.drop count := by
  induction count generalizing factory tasks with
  | zero => simp [popTasks]
  | succ count ih =>
    cases tasks with
    | nil => simp [popTasks]
    | cons task tasks =>
      obtain ⟨htake, hdrop⟩ := ih (factory.recoveryId task.id) tasks
      simp [popTasks, htake, hdrop]

/-- The state changes in one of these ways. -/
inductive Moves (s : DelegateTasks) : Input → DelegateTasks → Prop
  | refused (tid : Nat) (sync : Bool) (factory : IdFactory) :
      Moves s (.postTask tid sync false) { s with factory }
  | posted (tid : Nat) (sync : Bool) (id : Int) (factory : IdFactory)
      (hposter : s.posters tid = .idle) (hmux : s.mux = none)
      (hlimit : s.tasks.length ≤ maxTasksLimit) :
      Moves s (.postTask tid sync true)
        { s with
          factory, mux := some tid, pipe := s.pipe ++ [⟨tid, id⟩]
          posters := Function.update s.posters tid (.posting id sync) }
  | pushed (tid : Nat) (id : Int) (sync : Bool) (hposter : s.posters tid = .posting id sync) :
      Moves s (.push tid)
        { s with
          mux := none, tasks := s.tasks ++ [⟨s.accepted, id, sync⟩], accepted := s.accepted + 1
          posters := Function.update s.posters tid (if sync then .waiting s.accepted else .idle) }
  | timedOut (tid key : Nat) (hposter : s.posters tid = .waiting key)
      (hpromise : (s.objects key).promise = none) :
      Moves s (.waitTimeout tid)
        ((s.setObject key { s.objects key with timedOut := some (s.objects key).ret }).setPoster
          tid (.timedOut key))
  | ready (tid key : Nat) (ret : Int) (hposter : s.posters tid = .waiting key)
      (hpromise : (s.objects key).promise = some ret) :
      Moves s (.waitReady tid) (s.setPoster tid (.ready key))
  | waited (tid key : Nat) (outcome : Outcome)
      (hposter : s.posters tid = .timedOut key ∧ outcome = .waitTimeout ∨
        s.posters tid = .ready key ∧
          ∃ ret, (s.objects key).promise = some ret ∧ outcome = .result ret) :
      Moves s (.setWaited tid)
        ((s.setObject key { s.objects key with hasWaited := true }).setPoster tid
          (.leaving key outcome))
  | left (tid key : Nat) (outcome : Outcome) (hposter : s.posters tid = .leaving key outcome) :
      Moves s (.leave tid)
        ((s.setObject key { s.objects key with returned := some outcome }).setPoster tid .idle)
  | read (ok : Bool) (hworker : s.worker = .processing []) :
      Moves s (.readRecord ok)
        { s with worker := .read, pipe := if ok then s.pipe.tail else s.pipe }
  | popped (factory : IdFactory) (hworker : s.worker = .read) (hmux : s.mux = none) :
      Moves s .popPendingTaskList
        { s with
          factory, tasks := s.tasks.drop onceProcessTaskLimit
          worker := .processing (s.tasks.take onceProcessTaskLimit) }
  | discarded (task : Task) (rest : List Task) (hworker : s.worker = .processing (task :: rest))
      (hwaited : (s.objects task.key).hasWaited = true) :
      Moves s .processTask
        { s with worker := .processing rest, processed := s.processed ++ [(task.key, false)] }
  | started (task : Task) (rest : List Task) (hworker : s.worker = .processing (task :: rest))
      (hwaited : (s.objects task.key).hasWaited = false) :
      Moves s .processTask
        { s with worker := .running task rest, processed := s.processed ++ [(task.key, true)] }
  | finished (task : Task) (rest : List Task) (ret : Int) (hworker : s.worker = .running task rest) :
      Moves s (.finish ret)
        { s.setObject task.key { s.objects task.key with ret := some ret } with
          worker := .finished task ret rest }
  | completing (task : Task) (ret : Int) (rest : List Task)
      (hworker : s.worker = .finished task ret rest)
      (hwaited : (s.objects task.key).hasWaited = false) (hsync : task.sync = true) :
      Moves s .testWaited { s with worker := .completing task ret rest }
  | passed (task : Task) (ret : Int) (rest : List Task)
      (hworker : s.worker = .finished task ret rest)
      (hwaited : (s.objects task.key).hasWaited = true ∨ task.sync = false) :
      Moves s .testWaited { s with worker := .processing rest }
  | completed (task : Task) (ret : Int) (rest : List Task)
      (hworker : s.worker = .completing task ret rest) :
      Moves s .setValue
        { s.setObject task.key { s.objects task.key with promise := some ret } with
          worker := .processing rest }

variable {s : DelegateTasks}

theorem postTask_moves (workerThreadId tid : Nat) (sync written : Bool) :
    s.postTask workerThreadId tid sync written = s ∨
      Moves s (.postTask tid sync written) (s.postTask workerThreadId tid sync written) := by
  unfold DelegateTasks.postTask
  split
  · rename_i hposter hmux
    split_ifs with hworker hlimit hwritten
    · exact .inl rfl
    · exact .inl rfl
    · subst hwritten
      exact .inr (.posted tid sync _ _ hposter hmux (by omega))
    · rw [Bool.not_eq_true] at hwritten
      subst hwritten
      exact .inr (.refused tid sync _)
  · exact .inl rfl

theorem setWaited_moves (tid : Nat) :
    s.setWaited tid = s ∨ Moves s (.setWaited tid) (s.setWaited tid) := by
  unfold DelegateTasks.setWaited
  split
  · rename_i hposter
    exact .inr (.waited tid _ _ (.inl ⟨hposter, rfl⟩))
  · rename_i hposter
    split
    · rename_i hpromise
      exact .inr (.waited tid _ _ (.inr ⟨hposter, _, hpromise, rfl⟩))
    · exact .inl rfl
  · exact .inl rfl

theorem popPendingTaskList_moves :
    s.popPendingTaskList = s ∨ Moves s .popPendingTaskList s.popPendingTaskList := by
  unfold DelegateTasks.popPendingTaskList
  split
  · rename_i hworker hmux
    obtain ⟨htake, hdrop⟩ := popTasks_eq onceProcessTaskLimit s.factory s.tasks
    simp only [htake, hdrop]
    exact .inr (.popped _ hworker hmux)
  · exact .inl rfl

theorem testWaited_moves : s.testWaited = s ∨ Moves s .testWaited s.testWaited := by
  unfold DelegateTasks.testWaited
  split
  · rename_i hworker
    split_ifs with htest
    · simp only [Bool.and_eq_true, Bool.not_eq_true'] at htest
      exact .inr (.completing _ _ _ hworker htest.1 htest.2)
    · refine .inr (.passed _ _ _ hworker ?_)
      cases hwaited : (s.objects _).hasWaited <;> simp_all
  · exact .inl rfl

/-- A step is one of the moves, or it is not the thread's turn. -/
theorem step_cases (workerThreadId : Nat) (s : DelegateTasks) (i : Input) :
    step workerThreadId s i = s ∨ Moves s i (step workerThreadId s i) := by
  cases i with
  | postTask tid sync written => exact postTask_moves workerThreadId tid sync written
  | push tid =>
    simp only [step, DelegateTasks.push]
    split
    · rename_i hposter
      exact .inr (.pushed tid _ _ hposter)
    · exact .inl rfl
  | waitTimeout tid =>
    simp only [step, DelegateTasks.waitTimeout]
    split
    · rename_i hposter
      split_ifs with hpromise
      · exact .inr (.timedOut tid _ hposter hpromise)
      · exact .inl rfl
    · exact .inl rfl
  | waitReady tid =>
    simp only [step, DelegateTasks.waitReady]
    split
    · rename_i hposter
      split_ifs with hpromise
      · exact .inl rfl
      · obtain ⟨ret, hret⟩ := Option.ne_none_iff_exists'.mp hpromise
        exact .inr (.ready tid _ ret hposter hret)
    · exact .inl rfl
  | setWaited tid => exact setWaited_moves tid
  | leave tid =>
    simp only [step, DelegateTasks.leave]
    split
    · rename_i hposter
      exact .inr (.left tid _ _ hposter)
    · exact .inl rfl
  | readRecord ok =>
    simp only [step, DelegateTasks.readRecord]
    split
    · rename_i hworker
      exact .inr (.read ok hworker)
    · exact .inl rfl
  | popPendingTaskList => exact popPendingTaskList_moves
  | processTask =>
    simp only [step, DelegateTasks.processTask]
    split
    · rename_i hworker
      split_ifs with hwaited
      · exact .inr (.discarded _ _ hworker hwaited)
      · exact .inr (.started _ _ hworker (by simpa using hwaited))
    · exact .inl rfl
  | finish ret =>
    simp only [step, DelegateTasks.finish]
    split
    · rename_i hworker
      exact .inr (.finished _ _ ret hworker)
    · exact .inl rfl
  | testWaited => exact testWaited_moves
  | setValue =>
    simp only [step, DelegateTasks.setValue]
    split
    · rename_i hworker
      exact .inr (.completed _ _ _ hworker)
    · exact .inl rfl

end FtMmi.DelegateTask
