/-
FtMmi.Server.UDSServer — the session maps of the server
(`UDSServer` in `uds_server.h`, `uds_server.cpp`).

`sessionsMap_` finds a session by its descriptor and `idxPidMap_` the
descriptor of a process. The first may hold several sessions of one
process, the second one descriptor for each.

A session is known here by its descriptor, its process and `ref`, the
identity of the object: sessions that share a descriptor one after the
other differ in it. The callbacks for deleted sessions belong to the
components that register them.
-/
import Mathlib

namespace FtMmi.Server

/-! ## Sessions and maps -/

/-- What the maps know of a `UDSSession`. -/
structure Session where
  ref : Nat
  fd : Int
  pid : Int
  deriving DecidableEq, Repr

def invalidFd : Int := -1

def invalidPid : Int := -1

/-- The two maps. Sessions are filed under their own descriptor, and what
`AddSession` refuses is in neither. -/
structure UDSServer where
  sessionsMap : Int → Option Session
  idxPidMap : Int → Option Int
  filed : ∀ fd ses, sessionsMap fd = some ses → ses.fd = fd ∧ 0 ≤ fd ∧ 0 < ses.pid

namespace UDSServer

def create : UDSServer where
  sessionsMap := fun _ => none
  idxPidMap := fun _ => none
  filed := fun _ _ h => nomatch h

def getClientFd (s : UDSServer) (pid : Int) : Int := (s.idxPidMap pid).getD invalidFd

def getSession (s : UDSServer) (fd : Int) : Option Session := s.sessionsMap fd

def getClientPid (s : UDSServer) (fd : Int) : Int :=
  match s.sessionsMap fd with
  | none => invalidPid
  | some ses => ses.pid

def getSessionByPid (s : UDSServer) (pid : Int) : Option Session :=
  let fd := s.getClientFd pid
  if fd ≤ 0 then none else s.getSession fd

/-- `AddSession`. What is stored under the same process or the same
descriptor is replaced. -/
def addSession (s : UDSServer) (ses : Session) : Bool × UDSServer :=
  if hfd : ses.fd < 0 then (false, s)
  else if hpid : ses.pid ≤ 0 then (false, s)
  else
    (true,
      { sessionsMap := Function.update s.sessionsMap ses.fd (some ses)
        idxPidMap := Function.update s.idxPidMap ses.pid (some ses.fd)
        filed := by
          intro fd other h
          by_cases heq : fd = ses.fd
          · rw [heq, Function.update_self] at h
            cases h
            exact ⟨heq.symm, by omega, by omega⟩
          · rw [Function.update_of_ne heq] at h
            exact s.filed fd other h })

/-- `DelSession` -/
def delSession (s : UDSServer) (fd : Int) : UDSServer :=
  if fd < 0 then s
  else
    let pid := s.getClientPid fd
    { sessionsMap := Function.update s.sessionsMap fd none
      idxPidMap := if 0 < pid then Function.update s.idxPidMap pid none else s.idxPidMap
      filed := by
        intro other ses h
        by_cases heq : other = fd
        · rw [heq, Function.update_self] at h
          cases h
        · rw [Function.update_of_ne heq] at h
          exact s.filed other ses h }

/-- `ReleaseSession`, as far as the maps go. -/
def releaseSession (s : UDSServer) (fd : Int) : UDSServer :=
  match s.getSession fd with
  | some _ => s.delSession fd
  | none => s

/-! ## What the operations change -/

theorem getClientFd_eq_iff (s : UDSServer) {pid fd : Int} (hfd : 0 ≤ fd) :
    s.getClientFd pid = fd ↔ s.idxPidMap pid = some fd := by
  unfold getClientFd invalidFd
  cases s.idxPidMap pid with
  | none =>
    simp only [Option.getD_none, reduceCtorEq, iff_false]
    omega
  | some f => simp

theorem addSession_refused (s : UDSServer) {ses : Session} (h : ses.fd < 0 ∨ ses.pid ≤ 0) :
    s.addSession ses = (false, s) := by
  unfold addSession
  by_cases hfd : ses.fd < 0
  · rw [dif_pos hfd]
  · rw [dif_neg hfd, dif_pos (h.resolve_left hfd)]

/-- An accepted session is found under its descriptor, and its descriptor
under its process. -/
theorem addSession_accepted (s : UDSServer) {ses : Session} (hfd : 0 ≤ ses.fd)
    (hpid : 0 < ses.pid) :
    (s.addSession ses).1 = true ∧
      (s.addSession ses).2.sessionsMap = Function.update s.sessionsMap ses.fd (some ses) ∧
      (s.addSession ses).2.idxPidMap = Function.update s.idxPidMap ses.pid (some ses.fd) := by
  unfold addSession
  rw [dif_neg (by omega), dif_neg (by omega)]
  exact ⟨rfl, rfl, rfl⟩

/-- `DelSession` of a descriptor without a session changes nothing. -/
theorem delSession_of_none (s : UDSServer) {fd : Int} (h : s.getSession fd = none) :
    s.delSession fd = s := by
  unfold delSession
  split
  · rfl
  · have hpid : s.getClientPid fd = invalidPid := by
      unfold getClientPid
      rw [show s.sessionsMap fd = none from h]
    have hmap : Function.update s.sessionsMap fd none = s.sessionsMap := by
      rw [← show s.sessionsMap fd = none from h, Function.update_eq_self]
    simp only [hpid, hmap]
    rfl

/-- Otherwise the session goes, and with it the entry of its process. -/
theorem delSession_of_some (s : UDSServer) {fd : Int} {ses : Session}
    (h : s.getSession fd = some ses) :
    (s.delSession fd).sessionsMap = Function.update s.sessionsMap fd none ∧
      (s.delSession fd).idxPidMap = Function.update s.idxPidMap ses.pid none := by
  obtain ⟨_, hfd, hpid⟩ := s.filed fd ses h
  have hget : s.getClientPid fd = ses.pid := by
    unfold getClientPid
    rw [show s.sessionsMap fd = some ses from h]
  unfold delSession
  rw [if_neg (by omega)]
  refine ⟨rfl, ?_⟩
  show (if 0 < s.getClientPid fd then _ else _) = _
  rw [hget, if_pos hpid]

theorem releaseSession_eq (s : UDSServer) (fd : Int) : s.releaseSession fd = s.delSession fd := by
  unfold releaseSession
  cases h : s.getSession fd with
  | none => exact (s.delSession_of_none h).symm
  | some ses => rfl

end UDSServer

end FtMmi.Server
