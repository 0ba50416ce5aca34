/-
FtMmi.Device.DevListener — to whom device changes are announced while
sessions come and go.

`MMIService.step` is one event at the server: a session is added or
released, a process registers or unregisters, a device comes or goes.
Beside it runs the specification: `Monitored` keeps the sessions that are
registered and live, and `AnnouncesOnce` says that a device change is
announced to each of these exactly once and to nobody else.

`devListener_` is not told of released sessions. `devListener_iff` states
exactly which runs that leaves correct.
-/
import FtMmi.Device.InputDeviceManager
import FtMmi.Lib.Delivery
import FtMmi.Lib.StepSystem

namespace FtMmi.Device

open FtMmi.Lib
open FtMmi.Network
open FtMmi.Server

/-! ## The server's events -/

/-- A libinput device comes or goes; `cooperating` is the state of the
cooperation at that moment. -/
inductive DeviceEvent where
  | added (cooperating : Bool) (device : Nat) (sysName : List Char)
  | removed (cooperating : Bool) (device : Nat)

inductive ServiceEvent where
  | addSession (ses : Session)
  | releaseSession (fd : Int)
  | registerDevListener (pid : Int)
  | unregisterDevListener (pid : Int)
  | device (event : DeviceEvent)

namespace MMIService

def onDevice (build : Build) (m : InputDeviceManager) :
    DeviceEvent → List Announcement × InputDeviceManager
  | .added cooperating device sysName => m.onInputDeviceAdded build cooperating device sysName
  | .removed cooperating device => m.onInputDeviceRemoved build cooperating device

/-- The announcements an event leads to, and the state after it. -/
def step (build : Build) (s : MMIService) : ServiceEvent → List Announcement × MMIService
  | .addSession ses => ([], { s with toUDSServer := (s.addSession ses).2 })
  | .releaseSession fd => ([], { s with toUDSServer := s.releaseSession fd })
  | .registerDevListener pid => ([], (s.onRegisterDevListener pid).2)
  | .unregisterDevListener pid => ([], (s.onUnregisterDevListener pid).2)
  | .device event =>
      let r := onDevice build s.inputDevMgr event
      (r.1, { s with inputDevMgr := r.2 })

/-- The session is the one in the session map. -/
def IsLive (s : MMIService) (ses : Session) : Prop := s.getSession ses.fd = some ses

/-- A device that comes is taken up if it is new and its name is that of an
event device; a device that goes always counts. -/
def TakesPlace (s : MMIService) : DeviceEvent → Prop
  | .added _ device sysName =>
      s.inputDevMgr.inputDevice.any (fun item => item.2 = device) = false ∧
        ∃ id, parseDeviceId sysName = some id ∧ ¬ id < 0
  | .removed _ _ => True

end MMIService

/-! ## The specification -/

/-- The server, and the sessions that are registered. -/
structure Monitored where
  service : MMIService
  registered : Set Session
  registered_live : ∀ ses ∈ registered, service.IsLive ses

def Monitored.create : Monitored where
  service := .create
  registered := ∅
  registered_live := fun _ h => nomatch h

/-- Who is registered after an event, lost sessions aside. -/
def registration (s : MMIService) (registered : Set Session) : ServiceEvent → Set Session
  | .registerDevListener pid =>
      match s.getSession (s.getClientFd pid) with
      | none => registered
      | some ses => insert ses registered
  | .unregisterDevListener pid =>
      match s.getSession (s.getClientFd pid) with
      | none => registered
      | some ses => registered \ {ses}
  | _ => registered

/-- A session that is no longer live is not registered any more. -/
def monitorStep (build : Build) (m : Monitored) (e : ServiceEvent) : Monitored where
  service := (m.service.step build e).2
  registered := registration m.service m.registered e ∩ {ses | (m.service.step build e).2.IsLive ses}
  registered_live := fun _ h => h.2

/-- Whatever device event comes next: if it takes place, it is announced to
each registered session exactly once; nothing else is announced, and
nothing on behalf of a session that is not live. -/
structure AnnouncesOnce (build : Build) (m : Monitored) : Prop where
  once : ∀ event, m.service.TakesPlace event →
    Delivers m.registered ((m.service.step build (.device event)).1.map Prod.fst)
  otherwise : ∀ event, ¬ m.service.TakesPlace event →
    (m.service.step build (.device event)).1 = []
  live : ∀ event, ∀ a ∈ (m.service.step build (.device event)).1, m.service.IsLive a.1

/-! ## What the listener list has to be -/

theorem typeAdd_fits : typeAdd.length + 5 ≤ maxStreamBufSize := by decide

theorem typeRemove_fits : typeRemove.length + 5 ≤ maxStreamBufSize := by decide

/-- An event that takes place is announced to the whole list, any other to
nobody. -/
theorem onDevice_sessions (build : Build) (s : MMIService) (event : DeviceEvent) :
    (s.TakesPlace event ∧
      (s.step build (.device event)).1.map Prod.fst = s.inputDevMgr.devListener) ∨
    (¬ s.TakesPlace event ∧ (s.step build (.device event)).1 = []) := by
  cases event with
  | added cooperating device sysName =>
    have hstep : (s.step build (.device (.added cooperating device sysName))).1
        = (s.inputDevMgr.onInputDeviceAdded build cooperating device sysName).1 := rfl
    rw [hstep, InputDeviceManager.onInputDeviceAdded]
    by_cases hknown : s.inputDevMgr.inputDevice.any (fun item => item.2 = device) = true
    · rw [if_pos hknown]
      refine .inr ⟨?_, rfl⟩
      rintro ⟨hnew, _⟩
      rw [hnew] at hknown
      cases hknown
    · rw [if_neg hknown]
      have hnew := Bool.eq_false_iff.mpr hknown
      cases hid : parseDeviceId sysName with
      | none =>
        refine .inr ⟨?_, rfl⟩
        rintro ⟨_, _, h, _⟩
        rw [hid] at h
        cases h
      | some id =>
        by_cases hneg : id < 0
        · simp only [if_pos hneg]
          refine .inr ⟨?_, trivial⟩
          rintro ⟨_, other, hother, hpos⟩
          rw [hid] at hother
          cases hother
          exact hpos hneg
        · simp only [if_neg hneg, isAnnounced_eq, if_true]
          refine .inl ⟨⟨hnew, id, hid, hneg⟩, ?_⟩
          exact InputDeviceManager.notifyAll_sessions _ id typeAdd_fits
  | removed cooperating device =>
    refine .inl ⟨trivial, ?_⟩
    show (s.inputDevMgr.onInputDeviceRemoved build cooperating device).1.map _ = _
    simp only [InputDeviceManager.onInputDeviceRemoved, isAnnounced_eq, if_true]
    exact InputDeviceManager.notifyAll_sessions _ _ typeRemove_fits

/-- The announcements are right precisely if the list delivers to the
registered sessions. -/
theorem announcesOnce_iff (build : Build) (m : Monitored) :
    AnnouncesOnce build m ↔ Delivers m.registered m.service.inputDevMgr.devListener := by
  constructor
  · intro h
    have honce := h.once (.removed false 0) trivial
    rcases onDevice_sessions build m.service (.removed false 0) with ⟨_, heq⟩ | ⟨hnot, _⟩
    · rwa [heq] at honce
    · exact absurd trivial hnot
  · intro h
    refine ⟨fun event htakes => ?_, fun event hnot => ?_, fun event a ha => ?_⟩
    · rcases onDevice_sessions build m.service event with ⟨_, heq⟩ | ⟨hnot, _⟩
      · rwa [heq]
      · exact absurd htakes hnot
    · rcases onDevice_sessions build m.service event with ⟨htakes, _⟩ | ⟨_, heq⟩
      · exact absurd htakes hnot
      · exact heq
    · rcases onDevice_sessions build m.service event with ⟨_, heq⟩ | ⟨_, heq⟩
      · have hmem : a.1 ∈ (m.service.step build (.device event)).1.map Prod.fst :=
          List.mem_map_of_mem ha
        rw [heq, h.mem_iff] at hmem
        exact m.registered_live a.1 hmem
      · rw [heq] at ha
        cases ha

/-! ## One event -/

/-- The event takes no listener's session out of the session map. -/
def KeepsListeners (m : Monitored) : ServiceEvent → Prop
  | .addSession ses =>
      ses.fd < 0 ∨ ses.pid ≤ 0 ∨ ∀ old, m.service.getSession ses.fd = some old → old ≠ ses →
        old ∉ m.service.inputDevMgr.devListener
  | .releaseSession fd =>
      ∀ old, m.service.getSession fd = some old → old ∉ m.service.inputDevMgr.devListener
  | _ => True

/-- The sessions that are still live when one has been added. -/
theorem isLive_addSession_iff (s : MMIService) {ses x : Session} (hfd : 0 ≤ ses.fd)
    (hpid : 0 < ses.pid) (hx : s.IsLive x) :
    (s.addSession ses).2.getSession x.fd = some x ↔ x.fd = ses.fd → x = ses := by
  obtain ⟨_, hmap, _⟩ := s.addSession_accepted hfd hpid
  rw [UDSServer.getSession, hmap]
  by_cases heq : x.fd = ses.fd
  · rw [heq, Function.update_self, Option.some_inj]
    exact ⟨fun h _ => h.symm, fun h => (h rfl).symm⟩
  · rw [Function.update_of_ne heq]
    exact ⟨fun _ h => absurd h heq, fun _ => hx⟩

theorem isLive_releaseSession_iff (s : MMIService) (fd : Int) {x : Session} (hx : s.IsLive x) :
    (s.releaseSession fd).getSession x.fd = some x ↔ x.fd ≠ fd := by
  rw [UDSServer.releaseSession_eq]
  cases hses : s.getSession fd with
  | none =>
    rw [s.delSession_of_none hses]
    refine ⟨?_, fun _ => hx⟩
    rintro h rfl
    rw [h] at hses
    cases hses
  | some ses =>
    obtain ⟨hmap, _⟩ := s.delSession_of_some hses
    rw [UDSServer.getSession, hmap]
    by_cases heq : x.fd = fd
    · rw [heq, Function.update_self]
      constructor
      · intro h
        cases h
      · intro h
        exact absurd rfl h
    · rw [Function.update_of_ne heq]
      exact ⟨fun _ => heq, fun _ => hx⟩

theorem live_of_getSession (s : MMIService) {fd : Int} {ses : Session}
    (h : s.getSession fd = some ses) : s.IsLive ses := by
  have heq := (s.filed fd ses h).1
  rw [MMIService.IsLive, heq]
  exact h

theorem delivers_live {s : MMIService} {S : Set Session} {recipients : List Session}
    (h : Delivers S recipients) (hlive : ∀ x ∈ S, s.IsLive x) :
    Delivers (S ∩ {x | s.IsLive x}) recipients :=
  (delivers_inter_iff h _).mpr fun x hx => hlive x ((h.mem_iff x).mp hx)

theorem onDevice_devListener (build : Build) (m : InputDeviceManager) (event : DeviceEvent) :
    (MMIService.onDevice build m event).2.devListener = m.devListener := by
  cases event with
  | added cooperating device sysName =>
    show (m.onInputDeviceAdded build cooperating device sysName).2.devListener = _
    unfold InputDeviceManager.onInputDeviceAdded
    split
    · rfl
    · split
      · rfl
      · split <;> rfl
  | removed cooperating device => rfl

/-- An event keeps the announcements right precisely if it takes no
listener's session away. -/
theorem announcesOnce_step_iff (build : Build) (m : Monitored) (e : ServiceEvent)
    (hm : AnnouncesOnce build m) :
    AnnouncesOnce build (monitorStep build m e) ↔ KeepsListeners m e := by
  rw [announcesOnce_iff] at hm ⊢
  -- The listeners' sessions are live before the event.
  have hlive : ∀ x ∈ m.service.inputDevMgr.devListener, m.service.IsLive x :=
    fun x hx => m.registered_live x ((hm.mem_iff x).mp hx)
  cases e with
  | addSession ses =>
    show Delivers (m.registered ∩ {x | (m.service.addSession ses).2.getSession x.fd = some x})
      m.service.inputDevMgr.devListener ↔ _
    rw [delivers_inter_iff hm]
    by_cases hrefused : ses.fd < 0 ∨ ses.pid ≤ 0
    · rw [m.service.addSession_refused hrefused]
      refine ⟨fun _ => ?_, fun _ => hlive⟩
      rcases hrefused with h | h
      · exact .inl h
      · exact .inr (.inl h)
    · have hfd : 0 ≤ ses.fd := by omega
      have hpid : 0 < ses.pid := by omega
      constructor
      · refine fun h => .inr (.inr fun old hold hne hmem => hne ?_)
        have heq := (m.service.filed ses.fd old hold).1
        exact (isLive_addSession_iff m.service hfd hpid (hlive old hmem)).mp (h old hmem) heq
      · intro h x hx
        refine (isLive_addSession_iff m.service hfd hpid (hlive x hx)).mpr fun heq => ?_
        rcases h with h | h | h
        · omega
        · omega
        · by_contra hne
          have hold : m.service.getSession ses.fd = some x := heq ▸ hlive x hx
          exact h x hold hne hx
  | releaseSession fd =>
    show Delivers (m.registered ∩ {x | (m.service.releaseSession fd).getSession x.fd = some x})
      m.service.inputDevMgr.devListener ↔ _
    rw [delivers_inter_iff hm]
    constructor
    · intro h old hold hmem
      have heq := (m.service.filed fd old hold).1
      exact (isLive_releaseSession_iff m.service fd (hlive old hmem)).mp (h old hmem) heq
    · intro h x hx
      refine (isLive_releaseSession_iff m.service fd (hlive x hx)).mpr fun heq => ?_
      exact h x (heq ▸ hlive x hx) hx
  | registerDevListener pid =>
    refine ⟨fun _ => trivial, fun _ => ?_⟩
    show Delivers (registration m.service m.registered (.registerDevListener pid) ∩
      {x | (m.service.onRegisterDevListener pid).2.IsLive x})
      (m.service.onRegisterDevListener pid).2.inputDevMgr.devListener
    cases hses : m.service.getSession (m.service.getClientFd pid) with
    | none =>
      simp only [registration, MMIService.onRegisterDevListener, hses]
      exact delivers_live hm m.registered_live
    | some ses =>
      simp only [registration, MMIService.onRegisterDevListener, hses]
      have hadd : ∀ x ∈ insert ses m.registered, m.service.IsLive x := by
        rintro x (rfl | hx)
        · exact live_of_getSession m.service hses
        · exact m.registered_live x hx
      exact delivers_live (hm.insert ses) hadd
  | unregisterDevListener pid =>
    refine ⟨fun _ => trivial, fun _ => ?_⟩
    show Delivers (registration m.service m.registered (.unregisterDevListener pid) ∩
      {x | (m.service.onUnregisterDevListener pid).2.IsLive x})
      (m.service.onUnregisterDevListener pid).2.inputDevMgr.devListener
    cases hses : m.service.getSession (m.service.getClientFd pid) with
    | none =>
      simp only [registration, MMIService.onUnregisterDevListener, hses]
      exact delivers_live hm m.registered_live
    | some ses =>
      simp only [registration, MMIService.onUnregisterDevListener, hses]
      have hremove : ∀ x ∈ m.registered \ {ses}, m.service.IsLive x :=
        fun x hx => m.registered_live x hx.1
      exact delivers_live (hm.erase ses) hremove
  | device event =>
    refine ⟨fun _ => trivial, fun _ => ?_⟩
    show Delivers (m.registered ∩ {x | m.service.IsLive x})
      (MMIService.onDevice build m.service.inputDevMgr event).2.devListener
    rw [onDevice_devListener]
    exact delivers_live hm m.registered_live

/-! ## Every run -/

theorem create_announcesOnce (build : Build) : AnnouncesOnce build .create := by
  rw [announcesOnce_iff]
  exact delivers_nil

/-- In a run of the server, device changes are announced to the registered
live sessions exactly once, and to nobody else, in every state reached
precisely if no event takes a listener's session away. -/
theorem devListener_iff (build : Build) (events : List ServiceEvent) :
    Always (monitorStep build) (AnnouncesOnce build) .create events ↔
      AllSteps (monitorStep build) KeepsListeners .create events :=
  always_iff_allSteps (announcesOnce_step_iff build) events Monitored.create
    (create_announcesOnce build)

/-- A process registers and is gone, and its descriptor is used again. -/
def reusedFd : List ServiceEvent :=
  [.addSession ⟨1, 5, 7⟩, .registerDevListener 7, .releaseSession 5, .addSession ⟨2, 5, 8⟩]

/-- The next device event is announced on descriptor 5, for the session
that is gone. -/
theorem counterexample_devListener :
    ¬ Always (monitorStep ⟨false⟩) (AnnouncesOnce ⟨false⟩) .create reusedFd := by
  intro h
  set m := runFrom (monitorStep ⟨false⟩) Monitored.create reusedFd with hm
  have hlisten : Session.mk 1 5 7 ∈ m.service.inputDevMgr.devListener := by decide
  have hlive := m.registered_live _
    ((((announcesOnce_iff _ m).mp (Always.last h)).mem_iff _).mp hlisten)
  have hnow : m.service.getSession 5 = some ⟨2, 5, 8⟩ := by decide
  have heq := hlive.symm.trans hnow
  cases heq

end FtMmi.Device
