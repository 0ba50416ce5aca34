/-
FtMmi.Server.SocketPair — making the socket pair of a new client
(`UDSServer::AddSocketPairInfo` in `uds_server.cpp`, with
`MMIService::AddEpoll`).

The state is what the call can change: the session maps, the epoll set,
the descriptors closed so far and the two output descriptors. What the
kernel answers is an argument (`PairEnv`).

The closure that is to undo a failed call captures the list of undo steps
by value, before anything is put on it. It is translated that way: a
failure runs the steps of an empty list. `setsockopt` is called for its
effect on the buffers only, and its result is not looked at.
-/
import FtMmi.Server.UDSServer
import FtMmi.Util.Config

namespace FtMmi.Server

/-! ## State and environment -/

structure PairState where
  server : UDSServer
  /-- The descriptors in the epoll set. -/
  epoll : List Int
  /-- The arguments of `close`, in order. -/
  closed : List Int
  serverFd : Int
  toReturnClientFd : Int

structure PairEnv where
  /-- The descriptors that `socketpair` makes, unless it fails. -/
  socketpair : Option (Int × Int)
  mmiFd : Int
  /-- `malloc` finds memory for the event data. -/
  malloc : Bool
  epollCtl : Int
  /-- The identity of the session object. -/
  ref : Nat

def invalidSocketFd : Int := -1

/-- `close`, which takes the descriptor out of the epoll set too. -/
def PairState.closeFd (s : PairState) (fd : Int) : PairState :=
  { s with closed := s.closed ++ [fd], epoll := s.epoll.filter (· ≠ fd) }

/-! ## The call -/

/-- `MMIService::AddEpoll` for a socket. -/
def addEpoll (env : PairEnv) (s : PairState) (fd : Int) : Int × PairState :=
  if fd < 0 then (retErr, s)
  else if env.mmiFd < 0 then (retErr, s)
  else if !env.malloc then (retErr, s)
  else if env.epollCtl < 0 then (env.epollCtl, s)
  else (retOk, { s with epoll := fd :: s.epoll })

/-- The undo step that is put on the list. -/
def closeSocketFdWhenError (s : PairState) : PairState :=
  let s := (s.closeFd s.serverFd).closeFd s.toReturnClientFd
  { s with serverFd := invalidSocketFd, toReturnClientFd := invalidSocketFd }

/-- The body of `cleanTaskWhenError` over the list it has captured. -/
def runCleanTasks (cleanTaskList : List (PairState → PairState)) (s : PairState) : PairState :=
  cleanTaskList.foldl (fun s item => item s) s

def addSocketPairInfo (env : PairEnv) (pid : Int) (s : PairState) : Int × PairState :=
  match env.socketpair with
  | none => (retErr, s)
  | some sockFds =>
      let s := { s with serverFd := sockFds.1, toReturnClientFd := sockFds.2 }
      if s.toReturnClientFd < 0 then (retErr, s)
      else
        let cleanTaskList : List (PairState → PairState) := []
        let cleanTaskWhenError := runCleanTasks cleanTaskList
        -- The closure above keeps the list as it was.
        let _cleanTaskList := cleanTaskList ++ [closeSocketFdWhenError]
        let added := addEpoll env s s.serverFd
        let s := added.2
        if added.1 ≠ retOk then (added.1, cleanTaskWhenError s)
        else
          let sess : Session := { ref := env.ref, fd := s.serverFd, pid }
          let r := s.server.addSession sess
          let s := { s with server := r.2 }
          if !r.1 then (retErr, cleanTaskWhenError s) else (retOk, s)

/-! ## Undoing a failed call -/

/-- Both descriptors have been closed once, no output names them, and neither
the epoll set nor a session map does. -/
structure Undone (fds : Int × Int) (before after : PairState) : Prop where
  closed : ∃ more, after.closed = before.closed ++ more ∧
    more.count fds.1 = 1 ∧ more.count fds.2 = 1
  outputs : after.serverFd = invalidSocketFd ∧ after.toReturnClientFd = invalidSocketFd
  epoll : fds.1 ∉ after.epoll ∧ fds.2 ∉ after.epoll
  sessions : after.server.sessionsMap fds.1 = none ∧ after.server.sessionsMap fds.2 = none
  index : ∀ pid, after.server.idxPidMap pid ≠ some fds.1 ∧ after.server.idxPidMap pid ≠ some fds.2

/-- A call that fails once the pair is made is undone. -/
def RollsBack (env : PairEnv) (pid : Int) (s : PairState) : Prop :=
  ∀ fds, env.socketpair = some fds → (addSocketPairInfo env pid s).1 ≠ retOk →
    Undone fds s (addSocketPairInfo env pid s).2

/-- No step after `socketpair` fails. -/
def Completes (env : PairEnv) (pid : Int) (fds : Int × Int) : Prop :=
  0 ≤ fds.2 ∧ 0 ≤ fds.1 ∧ 0 ≤ env.mmiFd ∧ env.malloc = true ∧ 0 ≤ env.epollCtl ∧ 0 < pid

/-- `AddEpoll` succeeds when nothing is wrong with its arguments and the kernel
agrees, and changes nothing otherwise. -/
theorem addEpoll_cases (env : PairEnv) (s : PairState) (fd : Int) :
    (0 ≤ fd ∧ 0 ≤ env.mmiFd ∧ env.malloc = true ∧ 0 ≤ env.epollCtl ∧
      addEpoll env s fd = (retOk, { s with epoll := fd :: s.epoll })) ∨
    (¬ (0 ≤ fd ∧ 0 ≤ env.mmiFd ∧ env.malloc = true ∧ 0 ≤ env.epollCtl) ∧
      ∃ ret, ret ≠ retOk ∧ addEpoll env s fd = (ret, s)) := by
  unfold addEpoll
  by_cases hfd : fd < 0
  · rw [if_pos hfd]
    exact .inr ⟨fun h => by omega, retErr, by decide, rfl⟩
  · rw [if_neg hfd]
    by_cases hmmi : env.mmiFd < 0
    · rw [if_pos hmmi]
      exact .inr ⟨fun h => by omega, retErr, by decide, rfl⟩
    · rw [if_neg hmmi]
      cases hmalloc : env.malloc with
      | false => exact .inr ⟨by simp, retErr, by decide, rfl⟩
      | true =>
        simp only [Bool.not_true, Bool.false_eq_true, if_false]
        by_cases hctl : env.epollCtl < 0
        · rw [if_pos hctl]
          refine .inr ⟨fun h => by omega, env.epollCtl, ?_, rfl⟩
          rw [retOk]
          omega
        · rw [if_neg hctl]
          exact .inl ⟨by omega, by omega, trivial, by omega, rfl⟩

/-- Once the pair is made, the call succeeds precisely if no later step fails; a
call that fails has closed nothing. -/
theorem addSocketPairInfo_cases {env : PairEnv} {fds : Int × Int}
    (hpair : env.socketpair = some fds) (pid : Int) (s : PairState) :
    (Completes env pid fds ∧ (addSocketPairInfo env pid s).1 = retOk) ∨
    (¬ Completes env pid fds ∧ (addSocketPairInfo env pid s).1 ≠ retOk ∧
      (addSocketPairInfo env pid s).2.closed = s.closed) := by
  have hne : retErr ≠ retOk := by decide
  unfold addSocketPairInfo Completes
  rw [hpair]
  simp only
  by_cases hclient : fds.2 < 0
  · rw [if_pos hclient]
    exact .inr ⟨fun h => by omega, hne, rfl⟩
  · rw [if_neg hclient]
    rcases addEpoll_cases env { s with serverFd := fds.1, toReturnClientFd := fds.2 } fds.1 with
      ⟨hfd, hmmi, hmalloc, hctl, hadd⟩ | ⟨hbad, ret, hret, hadd⟩
    · rw [hadd]
      simp only [ne_eq, not_true_eq_false, if_false]
      let ses : Session := ⟨env.ref, fds.1, pid⟩
      by_cases hpid : 0 < pid
      · have hadded : (s.server.addSession ses).1 = true := (s.server.addSession_accepted hfd hpid).1
        rw [hadded]
        exact .inl ⟨⟨by omega, hfd, hmmi, hmalloc, hctl, hpid⟩, rfl⟩
      · have hbad : ses.pid ≤ 0 := Int.not_lt.mp hpid
        have hrefused : s.server.addSession ses = (false, s.server) :=
          s.server.addSession_refused (.inr hbad)
        rw [hrefused]
        exact .inr ⟨fun h => hpid h.2.2.2.2.2, hne, rfl⟩
    · rw [hadd]
      simp only [ne_eq, hret, not_false_eq_true, if_true]
      exact .inr ⟨fun h => hbad ⟨h.2.1, h.2.2.1, h.2.2.2.1, h.2.2.2.2.1⟩, trivial, rfl⟩

/-- A call that fails behind `socketpair` is never undone, so that nothing is left
behind precisely if no later step fails. -/
theorem rollsBack_iff (env : PairEnv) (pid : Int) (s : PairState) :
    RollsBack env pid s ↔ ∀ fds, env.socketpair = some fds → Completes env pid fds := by
  constructor
  · intro h fds hpair
    rcases addSocketPairInfo_cases hpair pid s with ⟨hall, _⟩ | ⟨_, hret, hclosed⟩
    · exact hall
    · obtain ⟨more, hmore, hcount, _⟩ := (h fds hpair hret).closed
      rw [hclosed, List.self_eq_append_right] at hmore
      rw [hmore] at hcount
      exact absurd hcount (by simp)
  · intro h fds hpair hret
    rcases addSocketPairInfo_cases hpair pid s with ⟨_, hok⟩ | ⟨hnot, _⟩
    · exact absurd hok hret
    · exact absurd (h fds hpair) hnot

/-- `epoll_ctl` refuses the server's end; or it takes it, and the caller has no
process id. -/
theorem counterexample_rollsBack :
    ¬ RollsBack ⟨some (5, 6), 3, true, -1, 0⟩ 100 ⟨.create, [], [], -1, -1⟩ ∧
      ¬ RollsBack ⟨some (5, 6), 3, true, 0, 0⟩ 0 ⟨.create, [], [], -1, -1⟩ := by
  constructor
  · intro h
    have hundone := h (5, 6) rfl (by decide)
    exact absurd hundone.outputs.1 (by decide)
  · intro h
    have hundone := h (5, 6) rfl (by decide)
    exact absurd hundone.epoll.1 (by decide)

end FtMmi.Server
