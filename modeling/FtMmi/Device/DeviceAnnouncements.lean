/-
FtMmi.Device.DeviceAnnouncements — what a listener is told of the devices
over a run.

`Watched ses` is the device manager with the packets that go to one
listener, which stays registered. `AnnouncesInTurn` is the property: the
packets announce, for each id, a device that comes, then goes, then comes;
beside them runs the list of the devices that libinput has added and not
removed.

`OnInputDeviceRemoved` announces whatever the scan of the table leaves in
`deviceId`, and `OnInputDeviceAdded` writes over the entry of an id that is
taken. `announcesInTurn_iff` states exactly which runs that leaves correct.
-/
import FtMmi.Device.DevListener
import FtMmi.Lib.Visits

namespace FtMmi.Device

open FtMmi.Lib
open FtMmi.Network
open FtMmi.Server

/-! ## A listener -/

/-- The announcement of a device that comes, or goes. -/
def announcement : Visit Int32 → NetPacket
  | .enter id => devicePacket id typeAdd
  | .leave id => devicePacket id typeRemove

structure Watched (ses : Session) where
  manager : InputDeviceManager
  registered : ses ∈ manager.devListener
  nodup : manager.devListener.Nodup
  /-- what was sent to the listener -/
  packets : List NetPacket
  /-- the devices that libinput has added and not removed, by the ids of their names -/
  present : List (Int32 × Nat)

/-- The listener is registered; other listeners come and go. -/
inductive WatchedInput (ses : Session) where
  | device (event : DeviceEvent)
  | addDevListener (other : Session)
  | removeDevListener (other : Session) (h : other ≠ ses)

/-- The devices there are after a notification. -/
def presentAfter (present : List (Int32 × Nat)) : DeviceEvent → List (Int32 × Nat)
  | .added _ device sysName =>
      match parseDeviceId sysName with
      | none => present
      | some id =>
          if id < 0 ∨ present.any (fun item => item.2 = device) then present
          else (id, device) :: present
  | .removed _ device => present.filter fun item => item.2 ≠ device

theorem mem_addDevListener {m : InputDeviceManager} (ses other : Session) :
    other ∈ (m.addDevListener ses).devListener ↔ other ∈ m.devListener ∨ other = ses := by
  simp only [InputDeviceManager.addDevListener]
  split
  · rename_i hold
    exact ⟨.inl, fun h => h.elim id fun heq => heq ▸ hold⟩
  · simp

theorem addDevListener_nodup {m : InputDeviceManager} (h : m.devListener.Nodup)
    (ses : Session) : (m.addDevListener ses).devListener.Nodup := by
  simp only [InputDeviceManager.addDevListener]
  split
  · exact h
  · rename_i hnew
    exact List.nodup_append.mpr ⟨h, List.nodup_singleton ses, by
      rintro a ha b hb rfl
      exact hnew (List.mem_singleton.mp hb ▸ ha)⟩

namespace Watched

variable {ses : Session}

/-- The listener is the first one, and there is no device. -/
def create (ses : Session) : Watched ses where
  manager := InputDeviceManager.create.addDevListener ses
  registered := (mem_addDevListener ses ses).mpr (.inr rfl)
  nodup := addDevListener_nodup List.nodup_nil ses
  packets := []
  present := []

def step (build : Build) (w : Watched ses) : WatchedInput ses → Watched ses
  | .device event =>
      let r := MMIService.onDevice build w.manager event
      { manager := r.2
        registered := by rw [onDevice_devListener]; exact w.registered
        nodup := by rw [onDevice_devListener]; exact w.nodup
        packets := w.packets ++ (r.1.filter fun a => a.1 = ses).map Prod.snd
        present := presentAfter w.present event }
  | .addDevListener other =>
      { w with
        manager := w.manager.addDevListener other
        registered := (mem_addDevListener other ses).mpr (.inl w.registered)
        nodup := addDevListener_nodup w.nodup other }
  | .removeDevListener other h =>
      { w with
        manager := w.manager.removeDevListener (some other)
        registered := (List.mem_erase_of_ne h.symm).mpr w.registered
        nodup := w.nodup.erase other }

end Watched

/-- For each id the announcements are of a device that comes, goes, comes and
so on; the ids are not negative, and no two devices that are there share one. -/
structure AnnouncesInTurn {ses : Session} (w : Watched ses) : Prop where
  inTurn : ∃ log : List (Visit Int32), w.packets = log.map announcement ∧ Visit.InTurn log ∧
    ∀ visit ∈ log, 0 ≤ visit.place
  ids : (w.present.map Prod.fst).Nodup

/-- A device that goes is in the table; one that comes is, or its id is free. -/
def Matched {ses : Session} (w : Watched ses) : WatchedInput ses → Prop
  | .device (.added _ device sysName) =>
      device ∉ w.manager.inputDevice.map Prod.snd →
        ∀ id, parseDeviceId sysName = some id → 0 ≤ id → id ∉ w.manager.inputDevice.map Prod.fst
  | .device (.removed _ device) => device ∈ w.manager.inputDevice.map Prod.snd
  | _ => True

/-! ## The packets -/

theorem devicePacket_holds (id : Int32) {type : List UInt8}
    (htype : type.length + 5 ≤ maxStreamBufSize) :
    (devicePacket id type).toStreamBuffer.Holds (type ++ [0] ++ toBytes id) := by
  have hid : (toBytes id).length = 4 := ByteImage.toBytes_length id
  have htext : StreamBuffer.create.wPos + (type ++ [0]).length ≤ maxStreamBufSize := by
    rw [List.length_append]
    show 0 + (type.length + 1) ≤ maxStreamBufSize
    omega
  let b := StreamBuffer.create.append (type ++ [0]) htext
  have hb : b.Holds (type ++ [0]) := StreamBuffer.create_holds.append (type ++ [0]) htext
  have hroom : b.wPos + (toBytes id).length ≤ maxStreamBufSize := by
    rw [hid, StreamBuffer.append_wPos, List.length_append]
    show 0 + (type.length + 1) + 4 ≤ maxStreamBufSize
    omega
  have hfirst : StreamBuffer.write .string type StreamBuffer.create = (true, b) :=
    StreamBuffer.writeBytes_of_fits rfl (by simp) htext
  have hpacket : (devicePacket id type).toStreamBuffer = b.append (toBytes id) hroom := by
    show (StreamBuffer.write .string type StreamBuffer.create).2.insert id = _
    rw [hfirst, StreamBuffer.insert_eq,
      StreamBuffer.writeBytes_of_fits hb.ok (toBytes_ne_nil id) hroom]
  rw [hpacket]
  exact hb.append (toBytes id) hroom

theorem announcement_injective : Function.Injective announcement := by
  intro visit visit' heq
  have hadd := fun id => (devicePacket_holds id typeAdd_fits).eq
  have hremove := fun id => (devicePacket_holds id typeRemove_fits).eq
  have hunread := congrArg (fun packet => packet.toStreamBuffer.unread) heq
  have hlength : ∀ id : Int32, (toBytes id).length = 4 := ByteImage.toBytes_length
  have hid : ∀ id id' : Int32, toBytes id = toBytes id' → id = id' := by
    intro id id' h
    rw [← ByteImage.ofBytes_toBytes id, h, ByteImage.ofBytes_toBytes]
  cases visit with
  | enter id =>
    cases visit' with
    | enter id' =>
      simp only [announcement, hadd] at hunread
      rw [hid id id' (List.append_cancel_left hunread)]
    | leave id' =>
      simp only [announcement, hadd, hremove] at hunread
      have hlen := congrArg List.length hunread
      simp [hlength, typeAdd, typeRemove] at hlen
  | leave id =>
    cases visit' with
    | enter id' =>
      simp only [announcement, hadd, hremove] at hunread
      have hlen := congrArg List.length hunread
      simp [hlength, typeAdd, typeRemove] at hlen
    | leave id' =>
      simp only [announcement, hremove] at hunread
      rw [hid id id' (List.append_cancel_left hunread)]

/-- Of all announcements the listener gets one. -/
theorem notifyAll_packets {m : InputDeviceManager} {ses : Session} (hmem : ses ∈ m.devListener)
    (hnodup : m.devListener.Nodup) (id : Int32) {type : List UInt8}
    (htype : type.length + 5 ≤ maxStreamBufSize) :
    ((m.notifyAll id type).filter fun a => a.1 = ses).map Prod.snd = [devicePacket id type] := by
  have hall : m.notifyAll id type = m.devListener.map fun ses => (ses, devicePacket id type) := by
    unfold InputDeviceManager.notifyAll
    rw [← List.filterMap_eq_map]
    exact List.filterMap_congr fun other _ => notify_eq id type other htype
  have hone : m.devListener.filter (fun other => other = ses) = [ses] := by
    have hcount := List.count_eq_one_of_mem hnodup hmem
    rw [List.filter_eq, hcount]
    rfl
  rw [hall, List.filter_map, List.map_map]
  exact congrArg (List.map fun _ => devicePacket id type) hone

/-! ## One step -/

variable {ses : Session} {w : Watched ses} {log : List (Visit Int32)}

/-- The announcements so far are the log, in which the devices of the table
have come and not gone; these are the devices there are. -/
structure Recorded (w : Watched ses) (log : List (Visit Int32)) : Prop where
  packets : w.packets = log.map announcement
  inTurn : Visit.InTurn log
  nonneg : ∀ visit ∈ log, 0 ≤ visit.place
  inside : ∀ id, Visit.Inside log id ↔ id ∈ w.manager.inputDevice.map Prod.fst
  present : w.present = w.manager.inputDevice
  ids : (w.manager.inputDevice.map Prod.fst).Nodup
  devices : (w.manager.inputDevice.map Prod.snd).Nodup

theorem Recorded.announcesInTurn (h : Recorded w log) : AnnouncesInTurn w :=
  ⟨⟨log, h.packets, h.inTurn, h.nonneg⟩, h.present ▸ h.ids⟩

/-- An announcement goes on with the log. -/
theorem Recorded.next (h : Recorded w log) {w' : Watched ses} {visit : Visit Int32}
    (hpackets : w'.packets = w.packets ++ [announcement visit]) (hturn : AnnouncesInTurn w') :
    (visit.enters = true ↔ ¬ Visit.Inside log visit.place) ∧ 0 ≤ visit.place := by
  obtain ⟨log', hlog', hinTurn, hnonneg⟩ := hturn.inTurn
  have heq : log' = log ++ [visit] := by
    refine announcement_injective.list_map ?_
    rw [← hlog', hpackets, h.packets, List.map_append]
    rfl
  subst heq
  exact ⟨((Visit.inTurn_append_singleton_iff log visit).mp hinTurn).2,
    hnonneg visit (List.mem_append_right _ (List.mem_singleton.mpr rfl))⟩

theorem any_device_iff (devices : List (Int32 × Nat)) (device : Nat) :
    devices.any (fun item => item.2 = device) = true ↔ device ∈ devices.map Prod.snd := by
  simp [List.any_eq_true]

/-- A device that is known, or has no name of an event device. -/
theorem step_added_ignored (build : Build) (w : Watched ses) (cooperating : Bool) {device : Nat}
    {sysName : List Char} (h : device ∈ w.manager.inputDevice.map Prod.snd ∨
      ∀ id, parseDeviceId sysName = some id → id < 0) :
    (w.step build (.device (.added cooperating device sysName))).manager = w.manager ∧
      (w.step build (.device (.added cooperating device sysName))).packets = w.packets := by
  have hnone : w.manager.onInputDeviceAdded build cooperating device sysName = ([], w.manager) := by
    unfold InputDeviceManager.onInputDeviceAdded
    by_cases hknown : device ∈ w.manager.inputDevice.map Prod.snd
    · rw [if_pos ((any_device_iff _ _).mpr hknown)]
    · rw [if_neg (mt (any_device_iff _ _).mp hknown)]
      have hneg := h.resolve_left hknown
      split
      · rfl
      · rename_i id hid
        rw [if_pos (hneg id hid)]
  simp [Watched.step, MMIService.onDevice, hnone]

/-- A new device. -/
theorem step_added (build : Build) (w : Watched ses) (cooperating : Bool) {device : Nat}
    {sysName : List Char} {id : Int32} (hnew : device ∉ w.manager.inputDevice.map Prod.snd)
    (hid : parseDeviceId sysName = some id) (hpos : 0 ≤ id) :
    (w.step build (.device (.added cooperating device sysName))).manager
        = w.manager.setDevice id device ∧
      (w.step build (.device (.added cooperating device sysName))).packets
        = w.packets ++ [announcement (.enter id)] := by
  have hadded : w.manager.onInputDeviceAdded build cooperating device sysName
      = ((w.manager.setDevice id device).notifyAll id typeAdd, w.manager.setDevice id device) := by
    unfold InputDeviceManager.onInputDeviceAdded
    rw [if_neg (mt (any_device_iff _ _).mp hnew), hid]
    simp only [if_neg (Int32.not_lt.mpr hpos), isAnnounced_eq, if_true]
  have hpackets := notifyAll_packets (m := w.manager.setDevice id device) w.registered w.nodup id
    typeAdd_fits
  simp only [Watched.step, MMIService.onDevice, hadded, hpackets, announcement, and_self]

/-- The id that a removal announces. -/
def removedId (w : Watched ses) (device : Nat) : Int32 :=
  match w.manager.inputDevice.find? (fun item => item.2 = device) with
  | some item => item.1
  | none => invalidDeviceId

theorem step_removed (build : Build) (w : Watched ses) (cooperating : Bool) (device : Nat) :
    (w.step build (.device (.removed cooperating device))).manager.inputDevice
        = w.manager.inputDevice.eraseP (fun item => item.2 = device) ∧
      (w.step build (.device (.removed cooperating device))).packets
        = w.packets ++ [announcement (.leave (removedId w device))] := by
  have hpackets := notifyAll_packets (m := w.manager) w.registered w.nodup (removedId w device)
    typeRemove_fits
  refine ⟨rfl, ?_⟩
  simp only [Watched.step, MMIService.onDevice, InputDeviceManager.onInputDeviceRemoved,
    isAnnounced_eq, if_true]
  exact congrArg (w.packets ++ ·) hpackets

theorem eraseP_eq_filter {devices : List (Int32 × Nat)} (h : (devices.map Prod.snd).Nodup)
    (device : Nat) :
    devices.eraseP (fun item => item.2 = device) = devices.filter fun item => item.2 ≠ device := by
  induction devices with
  | nil => rfl
  | cons item devices ih =>
    rw [List.map_cons, List.nodup_cons] at h
    by_cases heq : item.2 = device
    · have hrest : ∀ other ∈ devices, other.2 ≠ device := by
        intro other hmem hother
        exact h.1 (List.mem_map.mpr ⟨other, hmem, hother.trans heq.symm⟩)
      rw [List.eraseP_cons_of_pos (by simp [heq]), List.filter_cons_of_neg (by simp [heq]),
        List.filter_eq_self.mpr fun other hmem => by simp [hrest other hmem]]
    · simp [heq, ih h.2]

theorem removedId_of_mem {id : Int32} {device : Nat} (hmem : (id, device) ∈ w.manager.inputDevice)
    (hdevices : (w.manager.inputDevice.map Prod.snd).Nodup) : removedId w device = id := by
  unfold removedId
  cases hfind : w.manager.inputDevice.find? (fun item => item.2 = device) with
  | none => simpa using List.find?_eq_none.mp hfind _ hmem
  | some item =>
    have hitem : item.2 = device := by simpa using List.find?_some hfind
    have heq := List.inj_on_of_nodup_map hdevices (List.mem_of_find?_eq_some hfind) hmem hitem
    rw [heq]

theorem Recorded.of_same (h : Recorded w log) {w' : Watched ses}
    (hpackets : w'.packets = w.packets)
    (htable : w'.manager.inputDevice = w.manager.inputDevice) (hpresent : w'.present = w.present) :
    Recorded w' log := by
  refine ⟨hpackets.trans h.packets, h.inTurn, h.nonneg, ?_, ?_, ?_, ?_⟩
  · rw [htable]
    exact h.inside
  · rw [hpresent, htable]
    exact h.present
  · rw [htable]
    exact h.ids
  · rw [htable]
    exact h.devices

/-- A device that is known, or has no name of an event device. -/
theorem Recorded.ignored (h : Recorded w log) (build : Build) (cooperating : Bool) {device : Nat}
    {sysName : List Char} (hignored : device ∈ w.manager.inputDevice.map Prod.snd ∨
      ∀ id, parseDeviceId sysName = some id → id < 0) :
    Recorded (w.step build (.device (.added cooperating device sysName))) log := by
  obtain ⟨hmanager, hpackets⟩ := step_added_ignored build w cooperating hignored
  refine h.of_same hpackets (by rw [hmanager]) ?_
  simp only [Watched.step, presentAfter]
  split
  · rfl
  · rename_i id hid
    rw [if_pos]
    rw [any_device_iff, h.present]
    exact hignored.symm.imp_left fun hneg => hneg id hid

/-- A device that comes, with an id that is free. -/
theorem Recorded.added (h : Recorded w log) (build : Build) (cooperating : Bool) {device : Nat}
    {sysName : List Char} {id : Int32} (hnew : device ∉ w.manager.inputDevice.map Prod.snd)
    (hid : parseDeviceId sysName = some id) (hpos : 0 ≤ id)
    (hfree : id ∉ w.manager.inputDevice.map Prod.fst) :
    Recorded (w.step build (.device (.added cooperating device sysName)))
      (log ++ [Visit.enter id]) := by
  obtain ⟨hmanager, hpackets⟩ := step_added build w cooperating hnew hid hpos
  have htable : (w.step build (.device (.added cooperating device sysName))).manager.inputDevice
      = (id, device) :: w.manager.inputDevice := by
    rw [hmanager, InputDeviceManager.setDevice]
    refine congrArg _ (List.filter_eq_self.mpr fun item hmem => ?_)
    have hne : item.1 ≠ id := fun heq => hfree (List.mem_map.mpr ⟨item, hmem, heq⟩)
    simp [hne]
  have hinside := h.inside
  refine ⟨?_, ?_, ?_, fun other => ?_, ?_, ?_, ?_⟩
  · rw [hpackets, h.packets, List.map_append]
    rfl
  · rw [Visit.inTurn_append_singleton_iff]
    exact ⟨h.inTurn, fun _ hin => hfree ((hinside id).mp hin), fun _ => rfl⟩
  · intro visit hmem
    rcases List.mem_append.mp hmem with hmem | hmem
    · exact h.nonneg visit hmem
    · rw [List.mem_singleton.mp hmem]
      exact hpos
  · rw [Visit.inside_append_singleton_iff, htable, List.map_cons, List.mem_cons, hinside]
    by_cases heq : id = other
    · simp [Visit.place, Visit.enters, heq]
    · simp [Visit.place, heq, Ne.symm heq]
  · rw [htable, ← h.present]
    have hnot : ¬ (id < 0 ∨ w.present.any (fun item => item.2 = device) = true) := by
      rw [any_device_iff, h.present]
      exact fun hor => hor.elim (Int32.not_lt.mpr hpos) hnew
    simp only [Watched.step, presentAfter, hid, if_neg hnot]
  · rw [htable]
    exact List.nodup_cons.mpr ⟨hfree, h.ids⟩
  · rw [htable]
    exact List.nodup_cons.mpr ⟨hnew, h.devices⟩

/-- A device of the table that goes. -/
theorem Recorded.removed (h : Recorded w log) (build : Build) (cooperating : Bool) {device : Nat}
    {id : Int32} (hmem : (id, device) ∈ w.manager.inputDevice) :
    Recorded (w.step build (.device (.removed cooperating device)))
      (log ++ [Visit.leave id]) := by
  obtain ⟨htable, hpackets⟩ := step_removed build w cooperating device
  rw [eraseP_eq_filter h.devices] at htable
  rw [removedId_of_mem hmem h.devices] at hpackets
  have hinside := h.inside
  have hid : id ∈ w.manager.inputDevice.map Prod.fst := List.mem_map_of_mem hmem
  refine ⟨?_, ?_, ?_, fun other => ?_, ?_, ?_, ?_⟩
  · rw [hpackets, h.packets, List.map_append]
    rfl
  · rw [Visit.inTurn_append_singleton_iff]
    exact ⟨h.inTurn, (fun hno => nomatch hno), fun hout => absurd ((hinside id).mpr hid) hout⟩
  · intro visit hvisit
    rcases List.mem_append.mp hvisit with hvisit | hvisit
    · exact h.nonneg visit hvisit
    · rw [List.mem_singleton.mp hvisit]
      obtain ⟨found, hfound, heq⟩ := ((hinside id).mpr hid).exists_visit
      exact heq ▸ h.nonneg found hfound
  · rw [Visit.inside_append_singleton_iff, htable, hinside]
    -- The id and the device are one entry of the table.
    have hentry : ∀ item ∈ w.manager.inputDevice, item.1 = id ↔ item.2 = device := by
      intro item hitem
      constructor
      · intro heq
        rw [List.inj_on_of_nodup_map h.ids hitem hmem heq]
      · intro heq
        rw [List.inj_on_of_nodup_map h.devices hitem hmem heq]
    have hleft : other ∈ (w.manager.inputDevice.filter fun item => item.2 ≠ device).map Prod.fst ↔
        other ∈ w.manager.inputDevice.map Prod.fst ∧ other ≠ id := by
      simp only [List.mem_map, List.mem_filter, decide_eq_true_eq]
      constructor
      · rintro ⟨item, ⟨hitem, hne⟩, rfl⟩
        exact ⟨⟨item, hitem, rfl⟩, mt (hentry item hitem).mp hne⟩
      · rintro ⟨⟨item, hitem, rfl⟩, hne⟩
        exact ⟨item, ⟨hitem, mt (hentry item hitem).mpr hne⟩, rfl⟩
    rw [hleft]
    by_cases heq : id = other
    · simp [Visit.place, Visit.enters, heq]
    · simp [Visit.place, heq, Ne.symm heq]
  · rw [htable, ← h.present]
    rfl
  · rw [htable]
    exact h.ids.sublist (List.filter_sublist.map _)
  · rw [htable]
    exact h.devices.sublist (List.filter_sublist.map _)

/-! ## Every run -/

/-- A step goes on with the announcements in turn precisely if its notification
is matched. -/
theorem matched_step (build : Build) (w : Watched ses) (i : WatchedInput ses)
    (h : Recorded w log) :
    (Matched w i → ∃ log', Recorded (w.step build i) log') ∧
      (AnnouncesInTurn (w.step build i) → Matched w i) := by
  cases i with
  | addDevListener other =>
    exact ⟨fun _ => ⟨log, h.of_same rfl rfl rfl⟩, fun _ => trivial⟩
  | removeDevListener other hne =>
    exact ⟨fun _ => ⟨log, h.of_same rfl rfl rfl⟩, fun _ => trivial⟩
  | device event =>
    cases event with
    | added cooperating device sysName =>
      by_cases hignored : device ∈ w.manager.inputDevice.map Prod.snd ∨
          ∀ id, parseDeviceId sysName = some id → id < 0
      · refine ⟨fun _ => ⟨log, h.ignored build cooperating hignored⟩, fun _ hnew id hid hpos => ?_⟩
        exact absurd (hignored.resolve_left hnew id hid) (Int32.not_lt.mpr hpos)
      · push Not at hignored
        obtain ⟨hnew, id, hid, hneg⟩ := hignored
        have hpos : 0 ≤ id := Int32.not_lt.mp hneg
        obtain ⟨_, hpackets⟩ := step_added build w cooperating hnew hid hpos
        constructor
        · intro hmatched
          exact ⟨_, h.added build cooperating hnew hid hpos (hmatched hnew id hid hpos)⟩
        · intro hturn _ id' hid' _ htaken
          obtain rfl := Option.some.inj (hid.symm.trans hid')
          exact (h.next hpackets hturn).1.mp rfl ((h.inside id).mpr htaken)
    | removed cooperating device =>
      obtain ⟨_, hpackets⟩ := step_removed build w cooperating device
      constructor
      · intro hmatched
        obtain ⟨item, hmem, rfl⟩ := List.mem_map.mp hmatched
        exact ⟨_, h.removed build cooperating hmem⟩
      · intro hturn
        have hid : 0 ≤ removedId w device := (h.next hpackets hturn).2
        unfold removedId at hid
        split at hid
        · rename_i item hfind
          have heq : item.2 = device := by simpa using List.find?_some hfind
          exact List.mem_map.mpr ⟨item, List.mem_of_find?_eq_some hfind, heq⟩
        · exact absurd hid (by decide)

theorem create_recorded (ses : Session) : Recorded (.create ses) [] := by
  refine ⟨rfl, Visit.inTurn_nil, (fun _ h => nomatch h), fun id => ?_, rfl, List.nodup_nil,
    List.nodup_nil⟩
  constructor
  · exact fun h => nomatch h
  · exact fun h => nomatch h

/-- In a run of device notifications and of listeners that come and go, the
announcements to a listener that stays are in turn, with ids that are not
negative and that no two devices share, precisely if every device that goes is
known, and every new one that comes has an id that is free. -/
theorem announcesInTurn_iff (build : Build) (ses : Session) (is : List (WatchedInput ses)) :
    Always (Watched.step build) AnnouncesInTurn (.create ses) is ↔
      AllSteps (Watched.step build) Matched (.create ses) is := by
  have hkeep : ∀ (w : Watched ses) i, (∃ log, Recorded w log) → Matched w i →
      ∃ log, Recorded (w.step build i) log :=
    fun w i ⟨_, h⟩ => (matched_step build w i h).1
  have hneed : ∀ (w : Watched ses) i, (∃ log, Recorded w log) →
      AnnouncesInTurn (w.step build i) → Matched w i :=
    fun w i ⟨_, h⟩ => (matched_step build w i h).2
  exact always_iff_allSteps_of_inv (fun _ ⟨_, h⟩ => h.announcesInTurn) hkeep hneed is _
    ⟨[], create_recorded ses⟩

/-! ## Two notifications -/

/-- The name of an event device. -/
def event3 : List Char := ['e', 'v', 'e', 'n', 't', '3']

/-- A device that nobody knows is removed. -/
def unknownGoes : List (WatchedInput ⟨1, 5, 7⟩) := [.device (.removed false 1)]

/-- Two devices come with the name `event3`. -/
def nameTwice : List (WatchedInput ⟨1, 5, 7⟩) :=
  [.device (.added false 1 event3), .device (.added false 2 event3)]

/-- The removal announces the id -1, and the second device announces 3 again. -/
theorem counterexample_announcesInTurn :
    ¬ Always (Watched.step ⟨false⟩) AnnouncesInTurn (.create ⟨1, 5, 7⟩) unknownGoes ∧
      ¬ Always (Watched.step ⟨false⟩) AnnouncesInTurn (.create ⟨1, 5, 7⟩) nameTwice := by
  have hcreate := create_recorded ⟨1, 5, 7⟩
  constructor
  · intro h
    have hknown : 1 ∈ ([] : List (Int32 × Nat)).map Prod.snd :=
      (matched_step ⟨false⟩ _ _ hcreate).2 h.2.head
    cases hknown
  · intro h
    have hfirst : Matched (.create ⟨1, 5, 7⟩) (.device (.added false 1 event3)) :=
      fun _ _ _ _ hmem => nomatch hmem
    obtain ⟨log, hlog⟩ := (matched_step ⟨false⟩ _ _ hcreate).1 hfirst
    have hfree := (matched_step ⟨false⟩ _ _ hlog).2 h.2.2.head
    exact hfree (by decide +kernel) 3 (by decide +kernel) (by decide) (by decide +kernel)

end FtMmi.Device
