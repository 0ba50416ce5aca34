/-
FtMmi.Device.InputDeviceManager — the device table and the listener list
(`InputDeviceManager` in `input_device_manager.cpp`), with the
registration calls of `MMIService` that fill the list.

Of a device the table keeps the libinput device it stands for; the parts
of the two handlers that switch the mouse pointer and the cooperation on
and off are not modelled. An announcement is a session and the packet its
`SendMsg` is called with. The source keeps the listeners in a map ordered
by the addresses of the sessions; here they stand in the order in which
they were registered.
-/
import FtMmi.Network.NetPacket
import FtMmi.Server.UDSServer
import FtMmi.Util.Config

namespace FtMmi.Device

open FtMmi.Lib
open FtMmi.Network
open FtMmi.Server

/-! ## Announcements -/

/-- `MmiMessageId::ADD_INPUT_DEVICE_LISTENER` -/
def addInputDeviceListener : Int32 := 4

/-- `"add"` -/
def typeAdd : List UInt8 := [97, 100, 100]

/-- `"remove"` -/
def typeRemove : List UInt8 := [114, 101, 109, 111, 118, 101]

abbrev Announcement := Session × NetPacket

/-- `pkt << type << id` -/
def devicePacket (id : Int32) (type : List UInt8) : NetPacket :=
  { ((StreamBuffer.write .string type StreamBuffer.create).2).insert id with
    msgId := addInputDeviceListener }

/-- The callback that `OnRegisterDevListener` stores for a session. -/
def notify (id : Int32) (type : List UInt8) (ses : Session) : Option Announcement :=
  let pkt := devicePacket id type
  if pkt.chkRWError then none else some (ses, pkt)

/-- A short text never fills the packet. -/
theorem notify_eq (id : Int32) (type : List UInt8) (ses : Session)
    (htype : type.length + 5 ≤ maxStreamBufSize) :
    notify id type ses = some (ses, devicePacket id type) := by
  have hfirst : StreamBuffer.write .string type StreamBuffer.create
      = (true, StreamBuffer.create.append (type ++ [0]) _) :=
    StreamBuffer.writeBytes_of_fits rfl (by simp)
      (by rw [List.length_append]; show 0 + (type.length + 1) ≤ maxStreamBufSize; omega)
  have hid : (toBytes id).length = 4 := ByteImage.toBytes_length id
  have hok : (devicePacket id type).chkRWError = false := by
    show ((StreamBuffer.write .string type StreamBuffer.create).2.insert id).chkRWError = false
    rw [hfirst, StreamBuffer.insert_eq, StreamBuffer.writeBytes_of_fits _ (toBytes_ne_nil id)]
    · rw [StreamBuffer.chkRWError_eq_false_iff]
      simp [StreamBuffer.create]
    · rw [StreamBuffer.append_wPos, hid, List.length_append]
      show 0 + (type.length + 1) + 4 ≤ maxStreamBufSize
      omega
    · simp [StreamBuffer.create]
  unfold notify
  simp only [hok]
  rfl

/-! ## Devices -/

structure InputDeviceManager where
  /-- `inputDevice_`: device id and libinput device. -/
  inputDevice : List (Int32 × Nat)
  devListener : List Session

def InputDeviceManager.create : InputDeviceManager := ⟨[], []⟩

def invalidDeviceId : Int32 := -1

/-- `ParseDeviceId`: the number behind `event`, or `-1`. There is no result
when `std::stoi` throws. -/
def parseDeviceId : List Char → Option Int32
  | 'e' :: 'v' :: 'e' :: 'n' :: 't' :: digits =>
      if digits ≠ [] ∧ digits.all Char.isDigit then
        let n := digits.foldl (fun n c => 10 * n + (c.toNat - '0'.toNat)) 0
        if n ≤ int32Max then some (Int32.ofNat n) else none
      else some (-1)
  | _ => some (-1)

/-- `INPUT_VIRTUAL_DEVICE_NAME` -/
def inputVirtualDeviceName : List Char :=
  ['H', 'o', 's', ' ', 'D', 'i', 's', 't', 'r', 'i', 'b', 'u', 't', 'e', 'd', ' ',
    'V', 'i', 'r', 't', 'u', 'a', 'l', ' ', 'D', 'e', 'v', 'i', 'c', 'e', ' ']

/-- `IsRemote` looks for the name of the virtual devices in a fixed text. -/
def isRemote : Bool :=
  ['u', 'n', 'k', 'n', 'o', 'w', 'n'].tails.any inputVirtualDeviceName.isPrefixOf

/-- Whether a change is announced; with cooperation, changes of remote
devices are not while there is none. -/
def isAnnounced (build : Build) (cooperating : Bool) : Bool :=
  !build.cooperate || !isRemote || cooperating

theorem isAnnounced_eq (build : Build) (cooperating : Bool) :
    isAnnounced build cooperating = true := by
  cases build with
  | mk cooperate => cases cooperate <;> cases cooperating <;> decide

namespace InputDeviceManager

/-- `AddDevListener`. A session that is there is not inserted again. -/
def addDevListener (m : InputDeviceManager) (ses : Session) : InputDeviceManager :=
  { m with
    devListener := if ses ∈ m.devListener then m.devListener else m.devListener ++ [ses] }

/-- `RemoveDevListener`. No listener is registered for the null pointer. -/
def removeDevListener (m : InputDeviceManager) : Option Session → InputDeviceManager
  | none => m
  | some ses => { m with devListener := m.devListener.erase ses }

def notifyAll (m : InputDeviceManager) (id : Int32) (type : List UInt8) : List Announcement :=
  m.devListener.filterMap (notify id type)

/-- `inputDevice_[deviceId] = info` -/
def setDevice (m : InputDeviceManager) (id : Int32) (device : Nat) : InputDeviceManager :=
  { m with inputDevice := (id, device) :: m.inputDevice.filter (fun item => item.1 ≠ id) }

def onInputDeviceAdded (build : Build) (cooperating : Bool) (device : Nat)
    (sysName : List Char) (m : InputDeviceManager) : List Announcement × InputDeviceManager :=
  if m.inputDevice.any (fun item => item.2 = device) then ([], m)
  else
    match parseDeviceId sysName with
    | none => ([], m)
    | some deviceId =>
        if deviceId < 0 then ([], m)
        else
          let m := m.setDevice deviceId device
          (if isAnnounced build cooperating then m.notifyAll deviceId typeAdd else [], m)

def onInputDeviceRemoved (build : Build) (cooperating : Bool) (device : Nat)
    (m : InputDeviceManager) : List Announcement × InputDeviceManager :=
  let deviceId := match m.inputDevice.find? (fun item => item.2 = device) with
    | some item => item.1
    | none => invalidDeviceId
  let m := { m with inputDevice := m.inputDevice.eraseP (fun item => item.2 = device) }
  (if isAnnounced build cooperating then m.notifyAll deviceId typeRemove else [], m)

/-- Every listener is notified, in the order of the list. -/
theorem notifyAll_sessions (m : InputDeviceManager) (id : Int32) {type : List UInt8}
    (htype : type.length + 5 ≤ maxStreamBufSize) :
    (m.notifyAll id type).map Prod.fst = m.devListener := by
  unfold notifyAll
  induction m.devListener with
  | nil => rfl
  | cons ses rest ih =>
    rw [List.filterMap_cons_some (notify_eq id type ses htype), List.map_cons, ih]

end InputDeviceManager

/-- `FindInputDeviceId` -/
def findInputDeviceId (devices : InputDeviceManager) (inputDevice : Nat) : Int32 :=
  ((devices.inputDevice.find? fun item => item.2 = inputDevice).map Prod.fst).getD invalidDeviceId

/-! ## Registration -/

/-- The server with the device manager. -/
structure MMIService extends UDSServer where
  inputDevMgr : InputDeviceManager

namespace MMIService

def create : MMIService := { UDSServer.create with inputDevMgr := .create }

def onRegisterDevListener (s : MMIService) (pid : Int) : Int × MMIService :=
  match s.getSession (s.getClientFd pid) with
  | none => (retErr, s)
  | some ses => (retOk, { s with inputDevMgr := s.inputDevMgr.addDevListener ses })

def onUnregisterDevListener (s : MMIService) (pid : Int) : Int × MMIService :=
  (retOk, { s with
    inputDevMgr := s.inputDevMgr.removeDevListener (s.getSession (s.getClientFd pid)) })

end MMIService

end FtMmi.Device
