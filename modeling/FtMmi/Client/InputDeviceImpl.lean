/-
FtMmi.Client.InputDeviceImpl — the description of an input device as the
client decodes it (`InputDeviceImpl::DevDataUnmarshalling` in
`input_device_impl.cpp`, with `InputDevice` in `input_device.h`).

The list `deviceIdList_` of a device is written and read nowhere and is
left out. The locals that the source leaves uninitialised hold arbitrary
values (`DevDataUninit`); those of the loop body may hold other ones in
every iteration.
-/
import FtMmi.Network.PacketFields

namespace FtMmi.Client

open FtMmi.Network

structure AxisInfo where
  axisType : Int32 := 0
  minimum : Int32 := 0
  maximum : Int32 := 0
  fuzz : Int32 := 0
  flat : Int32 := 0
  resolution : Int32 := 0
  deriving DecidableEq, Repr

/-- `InputDevice`; a `std::string` is the list of its bytes. -/
structure InputDevice where
  id : Int32
  name : List UInt8
  type : Int32
  bus : Int32
  version : Int32
  product : Int32
  vendor : Int32
  phys : List UInt8
  uniq : List UInt8
  axis : List AxisInfo
  deriving DecidableEq, Repr

def InputDevice.addAxisInfo (device : InputDevice) (axis : AxisInfo) : InputDevice :=
  { device with axis := device.axis ++ [axis] }

/-- The values of the locals that `DevDataUnmarshalling` leaves uninitialised. -/
structure DevDataUninit where
  deviceId : Int32
  deviceType : Int32
  bus : Int32
  product : Int32
  vendor : Int32
  version : Int32
  size : UInt64
  /-- In the iteration with that number. -/
  axis : Nat → AxisInfo

/-- The reads before the loop: the device and the number of its axes. -/
def readDevData (junk : DevDataUninit) : PacketM (InputDevice × UInt64) := do
  let deviceId ← pull junk.deviceId
  let name ← pullField .string
  let deviceType ← pull junk.deviceType
  let bus ← pull junk.bus
  let product ← pull junk.product
  let vendor ← pull junk.vendor
  let version ← pull junk.version
  let phys ← pullField .string
  let uniq ← pullField .string
  let size ← pull junk.size
  let device : InputDevice :=
    { id := deviceId, name, type := deviceType, bus, version, product, vendor, phys, uniq,
      axis := [] }
  pure (device, size)

def readAxisInfo (junk : AxisInfo) : PacketM AxisInfo := do
  let type ← pull junk.axisType
  let min ← pull junk.minimum
  let max ← pull junk.maximum
  let fuzz ← pull junk.fuzz
  let flat ← pull junk.flat
  let resolution ← pull junk.resolution
  pure { axisType := type, minimum := min, maximum := max, fuzz, flat, resolution }

/-- `for (size_t i = 0; i < size; ++i)` -/
def readAxes (junk : DevDataUninit) : Nat → InputDevice → PacketM InputDevice
  | 0, devData => pure devData
  | n + 1, devData => do
      -- The device has as many axes as iterations were made.
      let axis ← readAxisInfo (junk.axis devData.axis.length)
      readAxes junk n (devData.addAxisInfo axis)

def devDataUnmarshalling (junk : DevDataUninit) : PacketM InputDevice := do
  let r ← readDevData junk
  readAxes junk r.2.toNat r.1

end FtMmi.Client
