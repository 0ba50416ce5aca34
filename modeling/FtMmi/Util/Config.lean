/-
FtMmi.Util.Config — the limits of `config_multimodal.h`, the result codes
of `define_multimodal.h` and the checked addition of `util.h` that the
modelled functions use.

Two limits depend on the build: `OHOS_BUILD_ENABLE_COOPERATE` lowers the
number of `send` attempts per message. The build is a parameter of the
functions that use such a limit, so every result about them is about
both builds.
-/
import Mathlib

namespace FtMmi

/-- Maximum buffer size of network packets. -/
def maxPacketBufSize : Nat := 1024 * 8

/-- Maximum buffer size of a socket stream. -/
def maxStreamBufSize : Nat := maxPacketBufSize * 2

def maxVectorSize : Nat := 1000

def maxKeySize : Nat := 395

/-- `ONCE_PROCESS_NETPACKET_LIMIT`: packets one `OnReadPackets` call handles. -/
def onceProcessNetpacketLimit : Nat := 100

/-- `MAX_RECV_LIMIT`: `recv` calls one epoll event leads to. -/
def maxRecvLimit : Nat := 32

/-- `INT32_MAX`. -/
def int32Max : Nat := 2 ^ 31 - 1

theorem maxPacketBufSize_eq : maxPacketBufSize = 8192 := rfl

theorem maxStreamBufSize_eq : maxStreamBufSize = 16384 := rfl

/-- The build options the modelled code depends on. -/
structure Build where
  /-- `OHOS_BUILD_ENABLE_COOPERATE` -/
  cooperate : Bool
  deriving DecidableEq, Repr

def sendRetryLimit (build : Build) : Nat := if build.cooperate then 2 else 32

theorem sendRetryLimit_pos (build : Build) : 0 < sendRetryLimit build := by
  unfold sendRetryLimit
  split <;> decide

def retOk : Int := 0

def retErr : Int := -1

/-! ## Checked addition -/

def int64Min : Int := -2 ^ 63

def int64Max : Int := 2 ^ 63 - 1

/-- `AddInt64`: the sum, if there is no overflow. -/
def addInt64 (op1 op2 : Int) : Option Int :=
  if 0 ≤ op1 then
    if int64Max - op1 < op2 then none else some (op1 + op2)
  else
    if op2 < int64Min - op1 then none else some (op1 + op2)

end FtMmi
