import UsbStack.Foundation.Exec

/-! # Errors, traffic direction and the SETUP packet -/

namespace UsbStack

set_option autoImplicit false

inductive UsbError where
  | wouldBlock
  | parseError
  | bufferOverflow
  | endpointOverflow
  | endpointMemoryOverflow
  | invalidEndpoint
  | unsupported
  | invalidState
  deriving DecidableEq, Repr

/-- The ways the Rust code can panic: a slice or index out of range, an integer overflow in a build
that checks for it, `expect` on a missing value, and a panic of code outside the crate. -/
inductive Panic where
  | sliceIndex
  | overflow
  | expectFailed
  | foreign
  deriving DecidableEq, Repr

inductive UsbDirection where
  | out
  | in_
  deriving DecidableEq, Repr

namespace UsbDirection

def toU8 : UsbDirection → UInt8
  | out => 0x00
  | in_ => 0x80

/-- The transmute of `value & 0x80`. -/
def ofU8 (value : UInt8) : UsbDirection := if value &&& 0x80 = 0 then out else in_

end UsbDirection

inductive RequestType where
  | standard
  | class_
  | vendor
  | reserved
  deriving DecidableEq, Repr

/-- The transmute of the two bits `(rt >> 5) & 0b11`. -/
def RequestType.ofBits (bits : UInt8) : RequestType :=
  if bits = 0 then standard else if bits = 1 then class_ else if bits = 2 then vendor else reserved

def RequestType.toU8 : RequestType → UInt8
  | standard => 0
  | class_ => 1
  | vendor => 2
  | reserved => 3

inductive Recipient where
  | device
  | interface
  | endpoint
  | other
  | reserved
  deriving DecidableEq, Repr

/-- The transmute of values up to 3; all larger ones are `Reserved`. -/
def Recipient.ofBits (recipient : UInt8) : Recipient :=
  if recipient = 0 then device else if recipient = 1 then interface
  else if recipient = 2 then endpoint else if recipient = 3 then other else reserved

def Recipient.toU8 : Recipient → UInt8
  | device => 0
  | interface => 1
  | endpoint => 2
  | other => 3
  | reserved => 4

/-- `u16::to_le_bytes` -/
def toLeBytes (v : UInt16) : List UInt8 := [v.toUInt8, (v >>> 8).toUInt8]

structure Request where
  direction : UsbDirection
  requestType : RequestType
  recipient : Recipient
  request : UInt8
  value : UInt16
  index : UInt16
  length : UInt16
  deriving DecidableEq, Repr

namespace Request

def getStatus : UInt8 := 0
def clearFeature : UInt8 := 1
def setFeature : UInt8 := 3
def setAddress : UInt8 := 5
def getDescriptor : UInt8 := 6
def getConfiguration : UInt8 := 8
def setConfiguration : UInt8 := 9
def getInterface : UInt8 := 10
def setInterface : UInt8 := 11

def featureEndpointHalt : UInt16 := 0
def featureDeviceRemoteWakeup : UInt16 := 1

def ofLeBytes (low high : UInt8) : UInt16 := low.toUInt16 ||| (high.toUInt16 <<< 8)

theorem ofLeBytes_toLeBytes (v : UInt16) : ofLeBytes v.toUInt8 (v >>> 8).toUInt8 = v := by
  apply UInt16.toNat_inj.mp
  have hv := v.toNat_lt
  simp only [ofLeBytes, UInt16.toNat_or, UInt16.toNat_shiftLeft, UInt8.toNat_toUInt16,
    UInt16.toNat_toUInt8, UInt16.toNat_shiftRight]
  have hEight : UInt16.toNat 8 % 16 = 8 := rfl
  have hHigh : (v.toNat >>> 8 % 2 ^ 8) <<< 8 % 2 ^ 16 = v.toNat / 2 ^ 8 * 2 ^ 8 := by
    rw [Nat.shiftRight_eq_div_pow, Nat.mod_eq_of_lt (by omega), Nat.shiftLeft_eq,
      Nat.mod_eq_of_lt (by omega)]
  rw [hEight, hHigh, Nat.or_comm, ← Nat.shiftLeft_eq,
    ← Nat.shiftLeft_add_eq_or_of_lt (Nat.mod_lt _ (by decide)), Nat.shiftLeft_eq, Nat.div_add_mod']

def parse : List UInt8 → Except UsbError Request
  | [rt, request, value0, value1, index0, index1, length0, length1] =>
    .ok {
      direction := .ofU8 rt
      requestType := .ofBits ((rt >>> 5) &&& 0b11)
      recipient := .ofBits (rt &&& 0b11111)
      request := request
      value := ofLeBytes value0 value1
      index := ofLeBytes index0 index1
      length := ofLeBytes length0 length1 }
  | _ => .error .parseError

def descriptorTypeIndex (req : Request) : UInt8 × UInt8 :=
  ((req.value >>> 8).toUInt8, req.value.toUInt8)

theorem length_of_parse {packet : List UInt8} {req : Request} (h : parse packet = .ok req) :
    packet.length = 8 := by
  unfold parse at h
  split at h
  · rfl
  · cases h

end Request

end UsbStack
