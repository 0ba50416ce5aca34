/-
FtMmi.InputDeviceCooperate.SessionMap — whether the session map tells the
truth: `OpenInputSoftbus` returns `RET_OK` only with a session to the device,
and what the map names is open or still being opened.

The flag a call waits for says that something has come of an attempt, a
session or an error (`OnSessionOpened` sets it in both cases), and it
outlasts the session. The map has a session from before it is open, and
keeps it when the wait is over. `truthful_of_met` says which steps this
goes wrong in.
-/
import FtMmi.InputDeviceCooperate.DeviceCooperateSoftbusAdapter
import FtMmi.Lib.StepSystem

namespace FtMmi.InputDeviceCooperate.DeviceCooperateSoftbusAdapter

open FtMmi.Lib

/-- No end of the session is reported yet. -/
def Session.live (x : Session) : Bool :=
  decide (x.status = .opening) || decide (x.status = .opened)

namespace SoftbusAdapter

/-! ## The property -/

structure Truthful (s : SoftbusAdapter) : Prop where
  returned : ∀ r ∈ s.returned, r.2 = true
  entries : ∀ item ∈ s.sessionDevMap, ∃ x ∈ s.sessions,
    x.id = item.2 ∧ x.peerDevId = item.1 ∧ x.current = true
  messages : ∀ m ∈ s.messages, m.2 = true

/-! ## The condition -/

/-- The device and the id of a call that is about to wait. -/
def beginning (s : SoftbusAdapter) (thread : Nat) : Option (String × Int) :=
  match s.calls thread with
  | some (.opening remoteDevId sessionId) => some (remoteDevId, sessionId)
  | _ => none

def inWait (s : SoftbusAdapter) (thread : Nat) : Option (String × Int) :=
  match s.calls thread with
  | some (.waiting remoteDevId sessionId) => some (remoteDevId, sessionId)
  | _ => none

/-- The softbus has no session with the id, and no callback is about it. -/
def Unused (s : SoftbusAdapter) (sessionId : Int) : Prop :=
  (∀ x ∈ s.session sessionId, x.status = .ended) ∧ ∀ c ∈ s.callbacks, c.sessionId ≠ sessionId

/-- The session is open or being opened, with no end of it reported yet. -/
def awaited (s : SoftbusAdapter) (devId : String) (sessionId : Int) : Bool :=
  (s.session sessionId).any fun x =>
    decide (x.peerDevId = devId) &&
      (decide (x.status = .opened) || decide (x.status = .opening) && !x.timedOut)

/-- There is another session to the device. -/
def hasOther (s : SoftbusAdapter) (x : Session) : Bool :=
  s.sessions.any fun y =>
    decide (y.id ≠ x.id) && (decide (y.peerDevId = x.peerDevId) && y.established)

/-- No flag is left for a device without a session. -/
def MetCallback (s : SoftbusAdapter) (x : Session) (c : Callback) : Prop :=
  if c.failed then c.peerKnown = true → s.hasOther x = true
  else s.channelStatusMap x.peerDevId = true →
    c.deviceId = x.peerDevId ∧ x.server = false ∨ s.hasOther x = true

/-- * a call finds no session for the device, or one that is open;
* an id is not used for two sessions at a time;
* the session is still being opened, or open, when a call begins to wait;
* a wait is not over while the map has its session as one being opened;
* a failed attempt to open a session is of an unknown device, or there is
  another session to the device;
* the flag for a device does not outlast the last session to it. -/
def Met (s : SoftbusAdapter) : SoftbusEvent → Prop
  | .openInputSoftbus _ remoteDevId =>
      ∀ sessionId ∈ s.sessionOf remoteDevId, ∀ x ∈ s.session sessionId, x.established = true
  | .openSession _ _ sessionId => s.Unused sessionId
  | .waitSessionOpend thread =>
      ∀ call ∈ s.beginning thread, s.awaited call.1 call.2 = true
  | .timeout thread =>
      ∀ call ∈ s.inWait thread, s.channelStatusMap call.1 = true ∨
        ∀ item ∈ s.sessionDevMap, item.2 = call.2 →
          ∀ x ∈ s.session call.2, x.status ≠ .opening
  | .onSessionOpenedServer sessionId _ _ => s.Unused sessionId
  | .callbackEnds sessionId =>
      ∀ c ∈ s.callbacks.find? fun c => c.sessionId = sessionId, ∀ x ∈ s.session sessionId,
        s.MetCallback x c
  | _ => True

instance (s : SoftbusAdapter) (sessionId : Int) : Decidable (s.Unused sessionId) :=
  inferInstanceAs (Decidable (_ ∧ _))

instance (s : SoftbusAdapter) (x : Session) (c : Callback) : Decidable (s.MetCallback x c) := by
  unfold MetCallback
  split <;> infer_instance

instance (s : SoftbusAdapter) (e : SoftbusEvent) : Decidable (s.Met e) := by
  cases e <;> unfold Met <;> infer_instance

/-! ## The invariant -/

structure Tracks (s : SoftbusAdapter) : Prop where
  distinct : (s.sessions.map Session.id).Nodup
  entries : ∀ item ∈ s.sessionDevMap, ∃ x, s.session item.2 = some x ∧
    x.peerDevId = item.1 ∧ x.current = true
  callbacks : ∀ c ∈ s.callbacks,
    (∀ x, s.session c.sessionId = some x → x.live = false ∧ (c.failed = true → x.status ≠ .closing)) ∧
      ∀ item ∈ s.sessionDevMap, item.2 = c.sessionId → item.1 = c.deviceId
  flags : ∀ devId, s.channelStatusMap devId = true →
    ∃ sessionId x, s.session sessionId = some x ∧ x.peerDevId = devId ∧ x.established = true
  returned : ∀ r ∈ s.returned, r.2 = true
  messages : ∀ m ∈ s.messages, m.2 = true

/-! ## The session table -/

theorem session_putSession (s : SoftbusAdapter) (x : Session) (sessionId : Int) :
    (s.putSession x).session sessionId = if sessionId = x.id then some x else s.session sessionId := by
  unfold session putSession
  rw [List.find?_cons]
  by_cases hid : sessionId = x.id
  · simp [hid]
  · have hne : ¬ x.id = sessionId := fun h => hid h.symm
    simp only [hne, hid, decide_false, if_false]
    rw [List.find?_filter]
    congr 1
    funext y
    by_cases hy : y.id = sessionId
    · simp [hy, hid]
    · simp [hy]

theorem session_id {s : SoftbusAdapter} {sessionId : Int} {x : Session}
    (h : s.session sessionId = some x) : x.id = sessionId := by
  simpa using List.find?_some h

theorem session_mem {s : SoftbusAdapter} {sessionId : Int} {x : Session}
    (h : s.session sessionId = some x) : x ∈ s.sessions :=
  List.mem_of_find?_eq_some h

theorem session_modifySession (s : SoftbusAdapter) (sessionId : Int) {f : Session → Session}
    (hf : ∀ x, (f x).id = x.id) (id : Int) :
    (s.modifySession sessionId f).session id =
      if id = sessionId then (s.session id).map f else s.session id := by
  unfold modifySession
  cases hx : s.session sessionId with
  | none =>
    by_cases hid : id = sessionId
    · rw [if_pos hid, hid, hx]
      rfl
    · rw [if_neg hid]
  | some x =>
    simp only [session_putSession, hf, session_id hx]
    by_cases hid : id = sessionId
    · rw [if_pos hid, if_pos hid, hid, hx]
      rfl
    · rw [if_neg hid, if_neg hid]

theorem modifySession_other (s : SoftbusAdapter) (sessionId : Int) (f : Session → Session) :
    (s.modifySession sessionId f).sessionDevMap = s.sessionDevMap ∧
      (s.modifySession sessionId f).channelStatusMap = s.channelStatusMap ∧
      (s.modifySession sessionId f).callbacks = s.callbacks ∧
      (s.modifySession sessionId f).returned = s.returned ∧
      (s.modifySession sessionId f).messages = s.messages := by
  unfold modifySession
  split <;> exact ⟨rfl, rfl, rfl, rfl, rfl⟩

theorem putSession_distinct {s : SoftbusAdapter} (h : (s.sessions.map Session.id).Nodup)
    (x : Session) : ((s.putSession x).sessions.map Session.id).Nodup := by
  unfold putSession
  rw [List.map_cons, List.nodup_cons]
  refine ⟨by simp, ?_⟩
  exact h.sublist (List.filter_sublist.map Session.id)

theorem modifySession_distinct {s : SoftbusAdapter} (h : (s.sessions.map Session.id).Nodup)
    (sessionId : Int) (f : Session → Session) :
    ((s.modifySession sessionId f).sessions.map Session.id).Nodup := by
  unfold modifySession
  split
  · exact h
  · exact putSession_distinct h _

/-- With distinct ids the table has what is in it. -/
theorem session_of_mem {s : SoftbusAdapter} (h : (s.sessions.map Session.id).Nodup) {x : Session}
    (hx : x ∈ s.sessions) : s.session x.id = some x := by
  unfold session
  cases hfind : s.sessions.find? fun y => y.id = x.id with
  | none =>
    have hnone := List.find?_eq_none.mp hfind x hx
    simp at hnone
  | some y =>
    have hid : y.id = x.id := by simpa using List.find?_some hfind
    rw [List.inj_on_of_nodup_map h (List.mem_of_find?_eq_some hfind) hx hid]

theorem hasSession_of_session {s : SoftbusAdapter} {sessionId : Int} {x : Session}
    (h : s.session sessionId = some x) (hx : x.established = true) :
    s.hasSession x.peerDevId = true := by
  unfold hasSession
  rw [List.any_eq_true]
  exact ⟨x, session_mem h, by simp [hx]⟩

theorem mem_setSessionOf {s : SoftbusAdapter} {devId : String} {sessionId : Int}
    {item : String × Int} (h : item ∈ (s.setSessionOf devId sessionId).sessionDevMap) :
    item = (devId, sessionId) ∨ item ∈ s.sessionDevMap := by
  unfold setSessionOf at h
  rw [List.mem_orderedInsert] at h
  rcases h with h | h
  · exact .inl h
  · exact .inr (List.mem_filter.mp h).1

theorem mem_eraseSessionOf {s : SoftbusAdapter} {devId : String} {item : String × Int} :
    item ∈ (s.eraseSessionOf devId).sessionDevMap ↔ item ∈ s.sessionDevMap ∧ item.1 ≠ devId := by
  unfold eraseSessionOf
  rw [List.mem_filter]
  exact and_congr_right fun _ => decide_eq_true_iff

theorem sessionOf_mem {s : SoftbusAdapter} {devId : String} {sessionId : Int}
    (h : s.sessionOf devId = some sessionId) : (devId, sessionId) ∈ s.sessionDevMap := by
  unfold sessionOf at h
  obtain ⟨item, hitem, hsnd⟩ := Option.map_eq_some_iff.mp h
  have hfst : item.1 = devId := by simpa using List.find?_some hitem
  have heq : (devId, sessionId) = item := by
    rw [← hfst, ← hsnd]
  rw [heq]
  exact List.mem_of_find?_eq_some hitem

/-- The device that `FindDevice` finds is the only one with the session. -/
theorem findDevice_of_unique {s : SoftbusAdapter} {devId : String} {sessionId : Int}
    (h : ∀ item ∈ s.sessionDevMap, item.2 = sessionId → item.1 = devId) :
    ∀ item ∈ s.sessionDevMap, item.2 = sessionId → item.1 = s.findDevice sessionId := by
  intro item hitem hid
  unfold findDevice
  cases hfind : s.sessionDevMap.find? fun item => item.2 = sessionId with
  | none =>
    have hnone := List.find?_eq_none.mp hfind item hitem
    simp [hid] at hnone
  | some other =>
    have hother : other.2 = sessionId := by simpa using List.find?_some hfind
    rw [h item hitem hid, ← h other (List.mem_of_find?_eq_some hfind) hother]
    rfl

theorem Tracks.truthful {s : SoftbusAdapter} (h : s.Tracks) : s.Truthful where
  returned := h.returned
  entries := by
    intro item hitem
    obtain ⟨x, hx, hpeer, hcurrent⟩ := h.entries item hitem
    exact ⟨x, session_mem hx, session_id hx, hpeer, hcurrent⟩
  messages := h.messages

theorem create_tracks : create.Tracks where
  distinct := List.nodup_nil
  entries := fun _ h => nomatch h
  callbacks := fun _ h => nomatch h
  flags := fun _ h => nomatch h
  returned := fun _ h => nomatch h
  messages := fun _ h => nomatch h

/-! ## Sessions change -/

/-- A session changes and has not ended. -/
theorem Tracks.modify {s : SoftbusAdapter} (h : s.Tracks) {sessionId : Int}
    {f : Session → Session} (hid : ∀ x, (f x).id = x.id)
    (hpeer : ∀ x, (f x).peerDevId = x.peerDevId)
    (hcurrent : ∀ x, s.session sessionId = some x →
      (∃ item ∈ s.sessionDevMap, item.2 = sessionId) → x.current = true → (f x).current = true)
    (hdead : ∀ x, s.session sessionId = some x → x.live = false → (f x).status = x.status)
    (hestablished : ∀ x, s.session sessionId = some x → x.established = true →
      (f x).established = true) : (s.modifySession sessionId f).Tracks := by
  obtain ⟨hmap, hflags, hcallbacks, hreturned, hmessages⟩ := modifySession_other s sessionId f
  have hsession := session_modifySession s sessionId hid
  constructor
  · exact modifySession_distinct h.distinct sessionId f
  · intro item hitem
    rw [hmap] at hitem
    obtain ⟨x, hx, hp, hc⟩ := h.entries item hitem
    rw [hsession]
    by_cases heq : item.2 = sessionId
    · rw [if_pos heq, hx]
      exact ⟨f x, rfl, by rw [hpeer, hp], hcurrent x (heq ▸ hx) ⟨item, hitem, heq⟩ hc⟩
    · rw [if_neg heq]
      exact ⟨x, hx, hp, hc⟩
  · intro c hc
    rw [hcallbacks] at hc
    rw [hmap]
    obtain ⟨hend, hitems⟩ := h.callbacks c hc
    refine ⟨fun y hy => ?_, hitems⟩
    rw [hsession] at hy
    by_cases heq : c.sessionId = sessionId
    · rw [if_pos heq] at hy
      obtain ⟨x, hx, rfl⟩ := Option.map_eq_some_iff.mp hy
      have hstatus := hdead x (heq ▸ hx) (hend x hx).1
      have hsame := hend x hx
      unfold Session.live at hsame ⊢
      rwa [hstatus]
    · rw [if_neg heq] at hy
      exact hend y hy
  · intro devId hflag
    rw [hflags] at hflag
    obtain ⟨id, x, hx, hp, he⟩ := h.flags devId hflag
    by_cases heq : id = sessionId
    · refine ⟨id, f x, ?_, by rw [hpeer, hp], hestablished x (heq ▸ hx) he⟩
      rw [hsession, if_pos heq, hx]
      rfl
    · refine ⟨id, x, ?_, hp, he⟩
      rw [hsession, if_neg heq, hx]
  · rw [hreturned]
    exact h.returned
  · rw [hmessages]
    exact h.messages

/-- A session ends, and the device that has it, if any, loses it. -/
theorem Tracks.drop {s : SoftbusAdapter} (h : s.Tracks) {devId : String} {sessionId : Int}
    (hitems : ∀ item ∈ s.sessionDevMap, item.2 = sessionId → item.1 = devId)
    (callbacks : List Callback) (hcallbacks : ∀ c ∈ callbacks, c ∈ s.callbacks)
    (channelStatusMap : String → Bool)
    (hflags : ∀ devId, channelStatusMap devId = true → ∃ id x, id ≠ sessionId ∧
      s.session id = some x ∧ x.peerDevId = devId ∧ x.established = true) :
    Tracks
      { (s.setStatus sessionId .ended).eraseSessionOf devId with callbacks, channelStatusMap } := by
  obtain ⟨hmap, -, -, hreturned, hmessages⟩ :=
    modifySession_other s sessionId fun x => { x with status := .ended }
  have hsession := session_modifySession s sessionId
    (f := fun x => { x with status := .ended }) fun _ => rfl
  have hrest : ∀ item ∈ ((s.setStatus sessionId .ended).eraseSessionOf devId).sessionDevMap,
      item ∈ s.sessionDevMap ∧ item.2 ≠ sessionId := by
    intro item hitem
    obtain ⟨hold, hne⟩ := mem_eraseSessionOf.mp hitem
    rw [setStatus, hmap] at hold
    exact ⟨hold, fun heq => hne (hitems item hold heq)⟩
  constructor
  · exact modifySession_distinct h.distinct _ _
  · intro item hitem
    obtain ⟨hold, hne⟩ := hrest item hitem
    obtain ⟨x, hx, hp, hc⟩ := h.entries item hold
    refine ⟨x, ?_, hp, hc⟩
    have hsame := hsession item.2
    rw [if_neg hne, hx] at hsame
    exact hsame
  · intro c hc
    obtain ⟨hdead, hold⟩ := h.callbacks c (hcallbacks c hc)
    refine ⟨fun y hy => ?_, fun item hitem => hold item (hrest item hitem).1⟩
    have hsame := (hsession c.sessionId).symm.trans hy
    by_cases heq : c.sessionId = sessionId
    · rw [if_pos heq] at hsame
      obtain ⟨x, hx, rfl⟩ := Option.map_eq_some_iff.mp hsame
      exact ⟨rfl, fun _ h => nomatch h⟩
    · rw [if_neg heq] at hsame
      exact hdead y hsame
  · intro devId' hflag
    obtain ⟨id, x, hne, hx, hp, he⟩ := hflags devId' hflag
    refine ⟨id, x, ?_, hp, he⟩
    have hsame := hsession id
    rw [if_neg hne, hx] at hsame
    exact hsame
  · show ∀ r ∈ (s.setStatus sessionId .ended).returned, _
    rw [setStatus, hreturned]
    exact h.returned
  · show ∀ m ∈ (s.setStatus sessionId .ended).messages, _
    rw [setStatus, hmessages]
    exact h.messages

/-- A session begins with an id that is not in use. -/
theorem Tracks.put {s : SoftbusAdapter} (h : s.Tracks) {x : Session} (hx : s.Unused x.id) :
    (s.putSession x).Tracks ∧ ∀ item ∈ s.sessionDevMap, item.2 ≠ x.id := by
  have hsession := session_putSession s x
  have hitems : ∀ item ∈ s.sessionDevMap, item.2 ≠ x.id := by
    intro item hitem heq
    obtain ⟨y, hy, -, hc⟩ := h.entries item hitem
    rw [heq] at hy
    simp [Session.current, hx.1 y hy] at hc
  refine ⟨?_, hitems⟩
  constructor
  · exact putSession_distinct h.distinct x
  · intro item hitem
    rw [hsession, if_neg (hitems item hitem)]
    exact h.entries item hitem
  · intro c hc
    rw [hsession, if_neg (hx.2 c hc)]
    exact h.callbacks c hc
  · intro devId hflag
    obtain ⟨id, y, hy, hp, he⟩ := h.flags devId hflag
    have hne : id ≠ x.id := by
      rintro rfl
      simp [Session.established, hx.1 y hy] at he
    exact ⟨id, y, by rw [hsession, if_neg hne, hy], hp, he⟩
  · exact h.returned
  · exact h.messages

/-! ## Calls, flags and entries -/

theorem Tracks.setCall {s : SoftbusAdapter} (h : s.Tracks) (thread : Nat)
    (call : Option OpenCall) : (s.setCall thread call).Tracks :=
  ⟨h.distinct, h.entries, h.callbacks, h.flags, h.returned, h.messages⟩

theorem Tracks.returnOk {s : SoftbusAdapter} (h : s.Tracks) {devId : String}
    (hhas : s.hasSession devId = true) (thread : Nat) : (s.returnOk thread devId).Tracks where
  distinct := h.distinct
  entries := h.entries
  callbacks := h.callbacks
  flags := h.flags
  returned := by
    intro r hr
    rcases List.mem_append.mp hr with hr | hr
    · exact h.returned r hr
    · rw [List.mem_singleton.mp hr]
      exact hhas
  messages := h.messages

theorem Tracks.clearFlag {s : SoftbusAdapter} (h : s.Tracks) (devId : String) :
    (s.setChannelStatus devId false).Tracks where
  distinct := h.distinct
  entries := h.entries
  callbacks := h.callbacks
  flags := by
    intro devId' hflag
    by_cases heq : devId' = devId
    · simp [setChannelStatus, heq] at hflag
    · simp only [setChannelStatus, Function.update_of_ne heq] at hflag
      exact h.flags devId' hflag
  returned := h.returned
  messages := h.messages

theorem Tracks.setFlag {s : SoftbusAdapter} (h : s.Tracks) {sessionId : Int} {x : Session}
    (hx : s.session sessionId = some x) (he : x.established = true) :
    (s.setChannelStatus x.peerDevId true).Tracks where
  distinct := h.distinct
  entries := h.entries
  callbacks := h.callbacks
  flags := by
    intro devId' hflag
    by_cases heq : devId' = x.peerDevId
    · exact ⟨sessionId, x, hx, heq.symm, he⟩
    · simp only [setChannelStatus, Function.update_of_ne heq] at hflag
      exact h.flags devId' hflag
  returned := h.returned
  messages := h.messages

theorem Tracks.setSessionOf {s : SoftbusAdapter} (h : s.Tracks) {sessionId : Int} {x : Session}
    (hx : s.session sessionId = some x) (hcurrent : x.current = true) (hlive : x.live = true) :
    (s.setSessionOf x.peerDevId sessionId).Tracks where
  distinct := h.distinct
  entries := by
    intro item hitem
    rcases mem_setSessionOf hitem with rfl | hold
    · exact ⟨x, hx, rfl, hcurrent⟩
    · exact h.entries item hold
  callbacks := by
    intro c hc
    obtain ⟨hdead, hold⟩ := h.callbacks c hc
    refine ⟨hdead, fun item hitem heq => ?_⟩
    rcases mem_setSessionOf hitem with rfl | hmem
    · have hfalse := (hdead x (heq ▸ hx)).1
      rw [hlive] at hfalse
      cases hfalse
    · exact hold item hmem heq
  flags := h.flags
  returned := h.returned
  messages := h.messages

/-- A flag that is set has a session behind it. -/
theorem Tracks.hasSession {s : SoftbusAdapter} (h : s.Tracks) {devId : String}
    (hflag : s.channelStatusMap devId = true) : s.hasSession devId = true := by
  obtain ⟨sessionId, x, hx, rfl, he⟩ := h.flags devId hflag
  exact hasSession_of_session hx he

theorem Tracks.checkChannel {s : SoftbusAdapter} (h : s.Tracks) (thread : Nat)
    (remoteDevId : String) (sessionId : Int) :
    (s.checkChannel thread remoteDevId sessionId).Tracks := by
  unfold SoftbusAdapter.checkChannel
  split
  · rename_i hflag
    exact (h.clearFlag remoteDevId).returnOk (h.hasSession hflag) thread
  · exact h.setCall thread _

/-! ## One step -/

theorem Tracks.openInputSoftbus {s : SoftbusAdapter} (h : s.Tracks) (thread : Nat)
    {remoteDevId : String}
    (hmet : ∀ sessionId ∈ s.sessionOf remoteDevId, ∀ x ∈ s.session sessionId,
      x.established = true) : (s.openInputSoftbus thread remoteDevId).Tracks := by
  unfold SoftbusAdapter.openInputSoftbus
  split
  · exact h
  · cases hfound : s.sessionOf remoteDevId with
    | none => exact h.setCall thread _
    | some sessionId =>
      obtain ⟨x, hx, rfl, -⟩ := h.entries _ (sessionOf_mem hfound)
      exact h.returnOk (hasSession_of_session hx (hmet sessionId hfound x hx)) thread

theorem Tracks.openSession {s : SoftbusAdapter} (h : s.Tracks) (thread : Nat)
    (initialized : Bool) {sessionId : Int} (hmet : s.Unused sessionId) :
    (s.openSession thread initialized sessionId).Tracks := by
  unfold SoftbusAdapter.openSession
  split
  · rename_i remoteDevId _
    split
    · exact h.setCall thread _
    · exact (h.put (x := ⟨sessionId, remoteDevId, false, .opening, false⟩) hmet).1.setCall thread _
  · exact h

theorem Tracks.waitSessionOpend {s : SoftbusAdapter} (h : s.Tracks) {thread : Nat}
    (hmet : ∀ call ∈ s.beginning thread, s.awaited call.1 call.2 = true) :
    (s.waitSessionOpend thread).Tracks := by
  unfold SoftbusAdapter.waitSessionOpend
  split
  · rename_i remoteDevId sessionId hcall
    have hawaited := hmet (remoteDevId, sessionId) (by simp [beginning, hcall])
    unfold awaited at hawaited
    cases hx : s.session sessionId with
    | none =>
      rw [hx] at hawaited
      cases hawaited
    | some x =>
      simp only [hx, Option.any_some, Bool.and_eq_true, decide_eq_true_eq, Bool.or_eq_true,
        Bool.not_eq_true'] at hawaited
      obtain ⟨rfl, hstatus⟩ := hawaited
      refine (h.setSessionOf hx ?_ ?_).checkChannel thread _ _
      · rcases hstatus with hopen | ⟨hopening, hnot⟩
        · simp [Session.current, hopen]
        · simp [Session.current, hopening, hnot]
      · rcases hstatus with hopen | ⟨hopening, -⟩
        · simp [Session.live, hopen]
        · simp [Session.live, hopening]
  · exact h

theorem Tracks.wake {s : SoftbusAdapter} (h : s.Tracks) (thread : Nat) :
    (s.wake thread).Tracks := by
  unfold SoftbusAdapter.wake
  split
  · exact h.checkChannel thread _ _
  · exact h

theorem Tracks.timeout {s : SoftbusAdapter} (h : s.Tracks) {thread : Nat}
    (hmet : ∀ call ∈ s.inWait thread, s.channelStatusMap call.1 = true ∨
      ∀ item ∈ s.sessionDevMap, item.2 = call.2 → ∀ x ∈ s.session call.2, x.status ≠ .opening) :
    (s.timeout thread).Tracks := by
  unfold SoftbusAdapter.timeout
  split
  · rename_i remoteDevId sessionId hcall
    split
    · exact h.checkChannel thread _ _
    · rename_i hflag
      have hnamed := (hmet (remoteDevId, sessionId) (by simp [inWait, hcall])).resolve_left hflag
      refine (h.modify (f := fun x => { x with timedOut := true }) (fun _ => rfl) (fun _ => rfl) ?_
        (fun _ _ _ => rfl) (fun _ _ hx => hx)).setCall thread _
      rintro x hx ⟨item, hitem, hid⟩ hcurrent
      have hne := hnamed item hitem hid x hx
      cases hstatus : x.status with
      | opening => exact absurd hstatus hne
      | opened => rfl
      | failing => rfl
      | closing => rfl
      | ended => simp [Session.current, hstatus] at hcurrent
  · exact h

theorem Tracks.onSessionOpened {s : SoftbusAdapter} (h : s.Tracks) (sessionId : Int)
    (peerKnown : Bool) : (s.onSessionOpened sessionId peerKnown).Tracks := by
  unfold SoftbusAdapter.onSessionOpened
  cases hx : s.session sessionId with
  | none => exact h
  | some x =>
    by_cases hopening : x.status = .opening
    · simp only [ne_eq, hopening, not_true_eq_false, if_false]
      have hopened : (s.setStatus sessionId .opened).Tracks := by
        refine h.modify (fun _ => rfl) (fun _ => rfl) (fun _ _ _ _ => rfl) ?_ (fun _ _ _ => rfl)
        intro y hy hdead
        rw [hx] at hy
        cases hy
        simp [Session.live, hopening] at hdead
      split
      · have hnew := session_modifySession s sessionId
          (f := fun x => { x with status := .opened }) (fun _ => rfl) sessionId
        rw [if_pos rfl, hx] at hnew
        exact hopened.setFlag (x := { x with status := .opened }) hnew rfl
      · exact hopened
    · simp only [ne_eq, hopening, not_false_eq_true, if_true]
      exact h

theorem Tracks.onSessionOpenedServer {s : SoftbusAdapter} (h : s.Tracks) {sessionId : Int}
    (hmet : s.Unused sessionId) (peerDevId : String) (peerKnown : Bool) :
    (s.onSessionOpenedServer sessionId peerDevId peerKnown).Tracks := by
  have hput := (h.put (x := ⟨sessionId, peerDevId, true, .opened, false⟩) hmet).1
  unfold SoftbusAdapter.onSessionOpenedServer
  simp only
  split
  · have hnew := session_putSession s ⟨sessionId, peerDevId, true, .opened, false⟩ sessionId
    rw [if_pos rfl] at hnew
    exact hput.setSessionOf hnew rfl rfl
  · exact hput

/-- What has a session is its peer. -/
theorem Tracks.device_unique {s : SoftbusAdapter} (h : s.Tracks) {sessionId : Int} {x : Session}
    (hx : s.session sessionId = some x) :
    ∀ item ∈ s.sessionDevMap, item.2 = sessionId → item.1 = x.peerDevId := by
  intro item hitem hid
  obtain ⟨y, hy, hp, -⟩ := h.entries item hitem
  rw [hid, hx] at hy
  cases hy
  exact hp.symm

/-- A callback that `FindDevice` was called for. -/
theorem Tracks.begin {s : SoftbusAdapter} (h : s.Tracks) {sessionId : Int} {x : Session}
    (hx : s.session sessionId = some x) {status : SessionStatus}
    (hlive : x.live = true) (hstatus : status = .failing ∨ status = .closing)
    (hestablished : x.established = true → status = .closing) (failed : Bool)
    (hfailed : failed = true → status ≠ .closing) (peerKnown : Bool) :
    Tracks
      { s.setStatus sessionId status with
        callbacks := ⟨sessionId, s.findDevice sessionId, failed, peerKnown⟩ :: s.callbacks } := by
  have hnew : (s.setStatus sessionId status).Tracks := by
    refine h.modify (fun _ => rfl) (fun _ => rfl) (fun _ _ _ _ => ?_) ?_ ?_
    · rcases hstatus with rfl | rfl <;> rfl
    · intro y hy hdead
      rw [hx] at hy
      cases hy
      rw [hlive] at hdead
      cases hdead
    · intro y hy he
      rw [hx] at hy
      cases hy
      rw [hestablished he]
      rfl
  obtain ⟨hmap, -, hcallbacks, -, -⟩ :=
    modifySession_other s sessionId fun x => { x with status }
  refine ⟨hnew.distinct, hnew.entries, ?_, hnew.flags, hnew.returned, hnew.messages⟩
  intro c hc
  rcases List.mem_cons.mp hc with rfl | hold
  · constructor
    · intro y hy
      have hmodified := session_modifySession s sessionId
        (f := fun x => { x with status }) (fun _ => rfl) sessionId
      rw [if_pos rfl, hx] at hmodified
      have heq : y = { x with status } := Option.some.inj (hy.symm.trans hmodified)
      rw [heq]
      refine ⟨?_, hfailed⟩
      rcases hstatus with rfl | rfl <;> rfl
    · intro item hitem heq
      have hitem' : item ∈ s.sessionDevMap := by
        rw [← hmap]
        exact hitem
      exact findDevice_of_unique (h.device_unique hx) item hitem' heq
  · exact hnew.callbacks c (by rw [setStatus, hcallbacks]; exact hold)

theorem Tracks.onSessionOpenFails {s : SoftbusAdapter} (h : s.Tracks) (sessionId : Int)
    (peerKnown : Bool) : (s.onSessionOpenFails sessionId peerKnown).Tracks := by
  unfold SoftbusAdapter.onSessionOpenFails
  cases hx : s.session sessionId with
  | none => exact h
  | some x =>
    by_cases hopening : x.status = .opening
    · simp only [ne_eq, hopening, not_true_eq_false, if_false]
      refine h.begin hx (by simp [Session.live, hopening]) (.inl rfl) (fun he => ?_)
        true (fun _ h => nomatch h) peerKnown
      simp [Session.established, hopening] at he
    · simp only [ne_eq, hopening, not_false_eq_true, if_true]
      exact h

theorem Tracks.onSessionCloses {s : SoftbusAdapter} (h : s.Tracks) (sessionId : Int) :
    (s.onSessionCloses sessionId).Tracks := by
  unfold SoftbusAdapter.onSessionCloses
  cases hx : s.session sessionId with
  | none => exact h
  | some x =>
    by_cases hopened : x.status = .opened
    · simp only [ne_eq, hopened, not_true_eq_false, if_false]
      refine h.begin hx (by simp [Session.live, hopened]) (.inr rfl)
        (fun _ => rfl) false (fun hfailed => ?_) true
      cases hfailed
    · simp only [ne_eq, hopened, not_false_eq_true, if_true]
      exact h

/-- Sessions to other devices are not the one that ends. -/
theorem Tracks.flags_other {s : SoftbusAdapter} (h : s.Tracks) {sessionId : Int} {x : Session}
    (hx : s.session sessionId = some x) {devId : String} (hne : devId ≠ x.peerDevId)
    (hflag : s.channelStatusMap devId = true) :
    ∃ id y, id ≠ sessionId ∧ s.session id = some y ∧ y.peerDevId = devId ∧
      y.established = true := by
  obtain ⟨id, y, hy, hp, he⟩ := h.flags devId hflag
  refine ⟨id, y, ?_, hy, hp, he⟩
  rintro rfl
  rw [hx] at hy
  cases hy
  exact hne hp.symm

theorem Tracks.closeInputSoftbus {s : SoftbusAdapter} (h : s.Tracks) (remoteDevId : String) :
    (s.closeInputSoftbus remoteDevId).Tracks := by
  unfold SoftbusAdapter.closeInputSoftbus
  cases hfound : s.sessionOf remoteDevId with
  | none => exact h
  | some sessionId =>
    obtain ⟨x, hx, hpeer, -⟩ := h.entries _ (sessionOf_mem hfound)
    simp only at hx hpeer
    subst hpeer
    obtain ⟨-, hflags, hcallbacks, -, -⟩ :=
      modifySession_other s sessionId fun x => { x with status := .ended }
    refine h.drop (h.device_unique hx) (s.setStatus sessionId .ended).callbacks ?_
      (Function.update (s.setStatus sessionId .ended).channelStatusMap x.peerDevId false) ?_
    · intro c hc
      rw [setStatus, hcallbacks] at hc
      exact hc
    · intro devId hflag
      have hne : devId ≠ x.peerDevId := by
        rintro rfl
        simp at hflag
      rw [Function.update_of_ne hne, setStatus, hflags] at hflag
      exact h.flags_other hx hne hflag

theorem Tracks.other_session {s : SoftbusAdapter} (h : s.Tracks) {sessionId : Int} {x : Session}
    (hx : s.session sessionId = some x) (hhas : s.hasOther x = true) :
    ∃ id y, id ≠ sessionId ∧ s.session id = some y ∧ y.peerDevId = x.peerDevId ∧
      y.established = true := by
  obtain ⟨y, hy, hand⟩ := List.any_eq_true.mp hhas
  simp only [Bool.and_eq_true, decide_eq_true_eq] at hand
  obtain ⟨hne, hp, he⟩ := hand
  exact ⟨y.id, y, by rw [← session_id hx]; exact hne, session_of_mem h.distinct hy, hp, he⟩

theorem Tracks.finishCallback {s : SoftbusAdapter} (h : s.Tracks) {sessionId : Int}
    {c : Callback} {x : Session}
    (hc : s.callbacks.find? (fun c => c.sessionId = sessionId) = some c)
    (hx : s.session sessionId = some x) (hmet : s.MetCallback x c) :
    (s.finishCallback x c).Tracks := by
  have hcid : c.sessionId = sessionId := by simpa using List.find?_some hc
  subst hcid
  obtain ⟨hend, hitems⟩ := h.callbacks c (List.mem_of_find?_eq_some hc)
  obtain ⟨hdead, hkind⟩ := hend x hx
  obtain ⟨-, hflags, hcallbacks, -, -⟩ :=
    modifySession_other s c.sessionId fun x => { x with status := .ended }
  have hsame : (s.setStatus c.sessionId .ended).channelStatusMap = s.channelStatusMap := hflags
  have hdrop := h.drop hitems ((s.setStatus c.sessionId .ended).callbacks.erase c)
    (fun c' hc' => by
      rw [setStatus, hcallbacks] at hc'
      exact List.mem_of_mem_erase hc')
  have hkeep : (s.channelStatusMap x.peerDevId = true → s.hasOther x = true ∨
      x.established = false) → ∀ devId, s.channelStatusMap devId = true →
        ∃ id y, id ≠ c.sessionId ∧ s.session id = some y ∧ y.peerDevId = devId ∧
          y.established = true := by
    intro hpeer devId hflag
    by_cases heq : devId = x.peerDevId
    · subst heq
      rcases hpeer hflag with hother | hnot
      · exact h.other_session hx hother
      · obtain ⟨id, y, hy, hp, he⟩ := h.flags _ hflag
        refine ⟨id, y, ?_, hy, hp, he⟩
        rintro rfl
        rw [hx] at hy
        cases hy
        rw [hnot] at he
        cases he
    · exact h.flags_other hx heq hflag
  unfold SoftbusAdapter.finishCallback
  unfold MetCallback at hmet
  simp only
  by_cases hfailed : c.failed = true
  · rw [if_pos hfailed] at hmet ⊢
    have hnot : x.established = false := by
      have hne := hkind hfailed
      cases hstatus : x.status <;> simp_all [Session.established, Session.live]
    by_cases hknown : c.peerKnown = true
    · rw [if_pos hknown]
      refine hdrop (Function.update (s.setStatus c.sessionId .ended).channelStatusMap x.peerDevId
        true) fun devId hflag => ?_
      by_cases heq : devId = x.peerDevId
      · subst heq
        exact h.other_session hx (hmet hknown)
      · rw [Function.update_of_ne heq, hsame] at hflag
        exact h.flags_other hx heq hflag
    · rw [if_neg hknown]
      refine hdrop (s.setStatus c.sessionId .ended).channelStatusMap ?_
      rw [hsame]
      exact hkeep fun _ => .inr hnot
  · rw [if_neg hfailed] at hmet ⊢
    by_cases hserver : x.server = true
    · rw [if_neg (by rw [hserver]; decide)]
      refine hdrop (s.setStatus c.sessionId .ended).channelStatusMap ?_
      rw [hsame]
      refine hkeep fun hflag => .inl ((hmet hflag).resolve_left fun hthis => ?_)
      rw [hthis.2] at hserver
      cases hserver
    · rw [if_pos (by simpa using hserver)]
      refine hdrop (Function.update (s.setStatus c.sessionId .ended).channelStatusMap c.deviceId
        false) fun devId hflag => ?_
      have hne : devId ≠ c.deviceId := by
        rintro rfl
        simp at hflag
      rw [Function.update_of_ne hne, hsame] at hflag
      by_cases heq : devId = x.peerDevId
      · subst heq
        rcases hmet hflag with hthis | hother
        · exact absurd hthis.1.symm hne
        · exact h.other_session hx hother
      · exact h.flags_other hx heq hflag

theorem Tracks.callbackEnds {s : SoftbusAdapter} (h : s.Tracks) {sessionId : Int}
    (hmet : ∀ c ∈ s.callbacks.find? fun c => c.sessionId = sessionId,
      ∀ x ∈ s.session sessionId, s.MetCallback x c) : (s.callbackEnds sessionId).Tracks := by
  unfold SoftbusAdapter.callbackEnds
  split
  · rename_i c x hc hx
    exact h.finishCallback hc hx (hmet c hc x hx)
  · exact h

theorem Tracks.sendMsg {s : SoftbusAdapter} (h : s.Tracks) (remoteDevId : String) :
    (s.sendMsg remoteDevId).Tracks := by
  unfold SoftbusAdapter.sendMsg
  cases hfound : s.sessionOf remoteDevId with
  | none => exact h
  | some sessionId =>
    obtain ⟨x, hx, -, hcurrent⟩ := h.entries _ (sessionOf_mem hfound)
    refine ⟨h.distinct, h.entries, h.callbacks, h.flags, h.returned, fun m hm => ?_⟩
    rcases List.mem_append.mp hm with hold | hnew
    · exact h.messages m hold
    · rw [List.mem_singleton.mp hnew, hx]
      exact hcurrent

/-! ## Runs -/

theorem tracks_step (s : SoftbusAdapter) (e : SoftbusEvent) (h : s.Tracks) (hmet : s.Met e) :
    (s.step e).Tracks := by
  cases e with
  | openInputSoftbus thread remoteDevId => exact h.openInputSoftbus thread hmet
  | openSession thread initialized sessionId => exact h.openSession thread initialized hmet
  | waitSessionOpend thread => exact h.waitSessionOpend hmet
  | wake thread => exact h.wake thread
  | timeout thread => exact h.timeout hmet
  | onSessionOpened sessionId peerKnown => exact h.onSessionOpened sessionId peerKnown
  | onSessionOpenedServer sessionId peerDevId peerKnown =>
    exact h.onSessionOpenedServer hmet peerDevId peerKnown
  | onSessionOpenFails sessionId peerKnown => exact h.onSessionOpenFails sessionId peerKnown
  | onSessionCloses sessionId => exact h.onSessionCloses sessionId
  | callbackEnds sessionId => exact h.callbackEnds hmet
  | closeInputSoftbus remoteDevId => exact h.closeInputSoftbus remoteDevId
  | sendMsg remoteDevId => exact h.sendMsg remoteDevId

/-- In a run whose steps all meet the condition, in every state reached, every
call that has returned `RET_OK` had a session to its device then, every entry
of the map names a session of its device that is open or still being opened,
and every message went to such a session. -/
theorem truthful_of_met (events : List SoftbusEvent) (h : AllSteps step Met create events) :
    Always step Truthful create events :=
  (always_of_allSteps tracks_step events create create_tracks h).mono fun _ h => h.truthful

/-- A session is opened and used, another is opened by a device, and both are
closed. -/
def calmSessions : List SoftbusEvent :=
  [.openInputSoftbus 0 "a", .openSession 0 true 1, .waitSessionOpend 0, .onSessionOpened 1 true,
    .wake 0, .sendMsg "a", .openInputSoftbus 1 "a", .onSessionOpenedServer 2 "b" true,
    .sendMsg "b", .onSessionCloses 1, .callbackEnds 1, .closeInputSoftbus "b"]

theorem truthful_calmSessions : Always step Truthful create calmSessions ∧
    (runFrom step create calmSessions).returned = [("a", true), ("a", true)] :=
  ⟨truthful_of_met calmSessions (by decide +kernel), by decide +kernel⟩

/-- The session that a call waits for cannot be opened. -/
def failedOpening : List SoftbusEvent :=
  [.openInputSoftbus 0 "a", .openSession 0 true 1, .waitSessionOpend 0,
    .onSessionOpenFails 1 true, .callbackEnds 1, .wake 0]

/-- The call returns `RET_OK`. -/
theorem counterexample_truthful : ¬ Always step Truthful create failedOpening := by
  intro h
  have hreturned : ("a", false) ∈ (runFrom step create failedOpening).returned := by
    decide +kernel
  have htrue := (Always.last h).returned _ hreturned
  cases htrue

end SoftbusAdapter

end FtMmi.InputDeviceCooperate.DeviceCooperateSoftbusAdapter
