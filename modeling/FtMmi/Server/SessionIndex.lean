/-
FtMmi.Server.SessionIndex — when the process index of the server agrees
with its session map.

`AddSession` and `DelSession` update two maps with different keys, and a
process with several sessions has one entry in the index.
`consistent_addSession_iff` and `consistent_delSession_iff` say exactly
which calls keep the maps consistent, and `sessionIndex_iff` says it of
every sequence of calls.
-/
import FtMmi.Lib.StepSystem
import FtMmi.Server.UDSServer

namespace FtMmi.Server

open FtMmi.Lib

/-! ## Calls -/

inductive SessionCall where
  | addSession (ses : Session)
  | delSession (fd : Int)
  deriving DecidableEq, Repr

def callStep (s : UDSServer) : SessionCall → UDSServer
  | .addSession ses => (s.addSession ses).2
  | .delSession fd => s.delSession fd

/-! ## Consistency -/

/-- Every entry of the index names a session of its process, and every
process with a session is found through the index. -/
structure Consistent (s : UDSServer) : Prop where
  named : ∀ pid fd, s.idxPidMap pid = some fd →
    ∃ ses, s.getSession fd = some ses ∧ ses.pid = pid
  found : ∀ fd ses, s.getSession fd = some ses →
    ∃ other, s.getSessionByPid ses.pid = some other ∧ other.pid = ses.pid
  valid : ∀ fd ses, s.getSession fd = some ses → 0 ≤ s.getClientFd ses.pid

/-- The same in terms of the two maps. Descriptor 0 is not found by
`GetSessionByPid`. -/
theorem consistent_iff (s : UDSServer) :
    Consistent s ↔
      (∀ pid fd, s.idxPidMap pid = some fd →
        ∃ ses, s.sessionsMap fd = some ses ∧ ses.pid = pid) ∧
      (∀ fd ses, s.sessionsMap fd = some ses → ∃ f, 0 < f ∧ s.idxPidMap ses.pid = some f) := by
  constructor
  · intro h
    refine ⟨h.named, fun fd ses hses => ?_⟩
    obtain ⟨other, hother, _⟩ := h.found fd ses hses
    simp only [UDSServer.getSessionByPid] at hother
    by_cases hle : s.getClientFd ses.pid ≤ 0
    · rw [if_pos hle] at hother
      cases hother
    · exact ⟨s.getClientFd ses.pid, by omega, (s.getClientFd_eq_iff (by omega)).mp rfl⟩
  · rintro ⟨hnamed, hindexed⟩
    have hfd : ∀ fd ses, s.getSession fd = some ses →
        ∃ f, 0 < f ∧ s.idxPidMap ses.pid = some f ∧ s.getClientFd ses.pid = f := by
      intro fd ses hses
      obtain ⟨f, hf, hidx⟩ := hindexed fd ses hses
      exact ⟨f, hf, hidx, (s.getClientFd_eq_iff (by omega)).mpr hidx⟩
    refine ⟨hnamed, fun fd ses hses => ?_, fun fd ses hses => ?_⟩
    · obtain ⟨f, hf, hidx, hclient⟩ := hfd fd ses hses
      obtain ⟨other, hother, hpid⟩ := hnamed ses.pid f hidx
      refine ⟨other, ?_, hpid⟩
      simp only [UDSServer.getSessionByPid, hclient]
      rw [if_neg (by omega)]
      exact hother
    · obtain ⟨f, hf, _, hclient⟩ := hfd fd ses hses
      omega

/-! ## One call -/

/-- Which calls keep the maps consistent: a session is added under a
descriptor above 0 that the index does not hold for another process, and
a session is deleted when its process has no other. -/
def KeepsIndex (s : UDSServer) : SessionCall → Prop
  | .addSession ses =>
      ses.fd < 0 ∨ ses.pid ≤ 0 ∨
        (ses.fd ≠ 0 ∧ ∀ pid, pid ≠ ses.pid → s.getClientFd pid ≠ ses.fd)
  | .delSession fd =>
      ∀ ses, s.getSession fd = some ses →
        ∀ fd' other, s.getSession fd' = some other → other.pid = ses.pid → fd' = fd

theorem consistent_addSession_iff {s : UDSServer} (hs : Consistent s) (ses : Session) :
    Consistent (s.addSession ses).2 ↔ KeepsIndex s (.addSession ses) := by
  by_cases hrefused : ses.fd < 0 ∨ ses.pid ≤ 0
  · rw [s.addSession_refused hrefused]
    refine ⟨fun _ => ?_, fun _ => hs⟩
    rcases hrefused with h | h
    · exact .inl h
    · exact .inr (.inl h)
  · have hfd : 0 ≤ ses.fd := by omega
    have hpid : 0 < ses.pid := by omega
    obtain ⟨_, hmap, hidx⟩ := s.addSession_accepted hfd hpid
    obtain ⟨hnamed, hindexed⟩ := (consistent_iff s).mp hs
    rw [consistent_iff, hmap, hidx]
    constructor
    · rintro ⟨hnamed', hindexed'⟩
      refine .inr (.inr ⟨?_, fun pid hne hclient => ?_⟩)
      · obtain ⟨f, hf, heq⟩ := hindexed' ses.fd ses (Function.update_self ..)
        rw [Function.update_self] at heq
        injection heq with heq
        omega
      · have hentry := (s.getClientFd_eq_iff hfd).mp hclient
        rw [← Function.update_of_ne hne (some ses.fd) s.idxPidMap] at hentry
        obtain ⟨other, hother, hotherPid⟩ := hnamed' pid ses.fd hentry
        rw [Function.update_self] at hother
        injection hother with hother
        rw [← hotherPid, hother] at hne
        exact hne rfl
    · intro hkeeps
      obtain ⟨hzero, hothers⟩ : ses.fd ≠ 0 ∧ ∀ pid, pid ≠ ses.pid → s.getClientFd pid ≠ ses.fd := by
        rcases hkeeps with h | h | h
        · omega
        · omega
        · exact h
      -- The entries of other processes are for other descriptors.
      have hother : ∀ pid fd, pid ≠ ses.pid → s.idxPidMap pid = some fd → fd ≠ ses.fd := by
        rintro pid fd hne hentry rfl
        exact hothers pid hne ((s.getClientFd_eq_iff hfd).mpr hentry)
      refine ⟨fun pid fd hentry => ?_, fun fd stored hstored => ?_⟩
      · by_cases hp : pid = ses.pid
        · rw [hp, Function.update_self] at hentry
          injection hentry with hentry
          rw [← hentry, Function.update_self]
          exact ⟨ses, rfl, hp.symm⟩
        · rw [Function.update_of_ne hp] at hentry
          rw [Function.update_of_ne (hother pid fd hp hentry)]
          exact hnamed pid fd hentry
      · by_cases hp : stored.pid = ses.pid
        · rw [hp, Function.update_self]
          exact ⟨ses.fd, by omega, rfl⟩
        · have hf : fd ≠ ses.fd := by
            rintro rfl
            rw [Function.update_self] at hstored
            injection hstored with hstored
            rw [hstored] at hp
            exact hp rfl
          rw [Function.update_of_ne hf] at hstored
          rw [Function.update_of_ne hp]
          exact hindexed fd stored hstored

theorem consistent_delSession_iff {s : UDSServer} (hs : Consistent s) (fd : Int) :
    Consistent (s.delSession fd) ↔ KeepsIndex s (.delSession fd) := by
  cases hses : s.getSession fd with
  | none =>
    rw [s.delSession_of_none hses]
    refine ⟨fun _ ses h => ?_, fun _ => hs⟩
    rw [hses] at h
    cases h
  | some ses =>
    obtain ⟨hmap, hidx⟩ := s.delSession_of_some hses
    obtain ⟨hnamed, hindexed⟩ := (consistent_iff s).mp hs
    rw [consistent_iff, hmap, hidx]
    constructor
    · rintro ⟨_, hindexed'⟩ ses' hses' fd' other hother hpid
      rw [hses] at hses'
      cases hses'
      by_contra hne
      -- The other session is still there, and the entry of the process is gone.
      have hleft : Function.update s.sessionsMap fd none fd' = some other := by
        rw [Function.update_of_ne hne]
        exact hother
      obtain ⟨f, _, hentry⟩ := hindexed' fd' other hleft
      rw [hpid, Function.update_self] at hentry
      cases hentry
    · intro honly
      refine ⟨fun pid f hentry => ?_, fun fd' other hother => ?_⟩
      · by_cases hp : pid = ses.pid
        · rw [hp, Function.update_self] at hentry
          cases hentry
        · rw [Function.update_of_ne hp] at hentry
          obtain ⟨stored, hstored, hpid⟩ := hnamed pid f hentry
          have hf : f ≠ fd := by
            rintro rfl
            have heq : some stored = some ses := hstored.symm.trans hses
            injection heq with heq
            rw [← hpid, heq] at hp
            exact hp rfl
          rw [Function.update_of_ne hf]
          exact ⟨stored, hstored, hpid⟩
      · by_cases hf : fd' = fd
        · rw [hf, Function.update_self] at hother
          cases hother
        · rw [Function.update_of_ne hf] at hother
          have hp : other.pid ≠ ses.pid := fun hp => hf (honly ses hses fd' other hother hp)
          rw [Function.update_of_ne hp]
          exact hindexed fd' other hother

/-! ## Every sequence of calls -/

theorem create_consistent : Consistent .create := by
  rw [consistent_iff]
  constructor
  · intro pid fd h
    cases h
  · intro fd ses h
    cases h

/-- The maps are consistent after each of a sequence of calls precisely if
each of them meets the condition. -/
theorem sessionIndex_iff (calls : List SessionCall) :
    Always callStep Consistent .create calls ↔ AllSteps callStep KeepsIndex .create calls := by
  refine always_iff_allSteps (fun s call hs => ?_) calls UDSServer.create create_consistent
  cases call with
  | addSession ses => exact consistent_addSession_iff hs ses
  | delSession fd => exact consistent_delSession_iff hs fd

/-- A process connects, connects again, and then its first descriptor is
closed: it has a session, and is not found any more. -/
theorem counterexample_sessionIndex :
    ¬ Always callStep Consistent .create
      [.addSession ⟨1, 5, 7⟩, .addSession ⟨2, 6, 7⟩, .delSession 5] := by
  intro h
  obtain ⟨other, hother, _⟩ := (Always.last h).found 6 ⟨2, 6, 7⟩ (by decide)
  have hnone : (runFrom callStep UDSServer.create [.addSession ⟨1, 5, 7⟩, .addSession ⟨2, 6, 7⟩,
      .delSession 5]).getSessionByPid 7 = none := by decide
  rw [hnone] at hother
  cases hother

end FtMmi.Server
