import UsbStack.Control

/-! # Endpoint addresses and endpoint handles -/

namespace UsbStack

set_option autoImplicit false

inductive IsochronousSynchronizationType where
  | noSynchronization
  | asynchronous
  | adaptive
  | synchronous
  deriving DecidableEq, Repr

inductive IsochronousUsageType where
  | data
  | feedback
  | implicitFeedbackData
  deriving DecidableEq, Repr

inductive EndpointType where
  | control
  | isochronous (synchronization : IsochronousSynchronizationType) (usage : IsochronousUsageType)
  | bulk
  | interrupt
  deriving DecidableEq, Repr

def EndpointType.toBmAttributes : EndpointType → UInt8
  | control => 0b00
  | isochronous synchronization usage =>
    let syncBits : UInt8 := match synchronization with
      | .noSynchronization => 0b00
      | .asynchronous => 0b01
      | .adaptive => 0b10
      | .synchronous => 0b11
    let usageBits : UInt8 := match usage with
      | .data => 0b00
      | .feedback => 0b01
      | .implicitFeedbackData => 0b10
    (usageBits <<< 4) ||| (syncBits <<< 2) ||| 0b01
  | bulk => 0b10
  | interrupt => 0b11

structure EndpointAddress where
  value : UInt8
  deriving DecidableEq, Repr

namespace EndpointAddress

def fromParts (index : Nat) (dir : UsbDirection) : EndpointAddress := ⟨index.toUInt8 ||| dir.toU8⟩

def direction (addr : EndpointAddress) : UsbDirection :=
  if addr.value &&& UsbDirection.in_.toU8 ≠ 0 then .in_ else .out

def index (addr : EndpointAddress) : Nat := (addr.value &&& ~~~UsbDirection.in_.toU8).toNat

/-- The two directions of endpoint 0. -/
def control (dir : UsbDirection) : EndpointAddress := ⟨dir.toU8⟩

@[simp] theorem index_control (dir : UsbDirection) : (control dir).index = 0 := by
  cases dir <;> rfl

end EndpointAddress

/-- An endpoint handle. The bus it points to is part of the state it is used on. -/
structure Endpoint where
  address : EndpointAddress
  epType : EndpointType
  maxPacketSize : UInt16
  interval : UInt8
  deriving DecidableEq, Repr

def Endpoint.control (dir : UsbDirection) (maxPacketSize : UInt16) : Endpoint :=
  ⟨.control dir, .control, maxPacketSize, 0⟩

end UsbStack
