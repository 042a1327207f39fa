import UsbStack.ControlPipe

/-! # A bus with one packet slot in each direction of endpoint 0

`outgoing` is the packet that waits on EP0-IN until the host takes it, `incoming` the packet that
the host has sent to EP0-OUT. A packet is accepted whole or not at all. Other endpoints are never
ready.
-/

namespace UsbStack

set_option autoImplicit false

open Foundation

structure Mailbox where
  outgoing : Option (List UInt8)
  incoming : Option (List UInt8)
  event : PollResult
  deriving DecidableEq

namespace Mailbox

def empty : Mailbox := ⟨none, none, .none⟩

def write (bus : Mailbox) (addr : EndpointAddress) (data : List UInt8) :
    Except UsbError Nat × Mailbox :=
  if addr = .control .in_ then
    match bus.outgoing with
    | none => (.ok data.length, { bus with outgoing := some data })
    | some _ => (.error .wouldBlock, bus)
  else (.error .wouldBlock, bus)

def read (bus : Mailbox) (addr : EndpointAddress) (len : Nat) :
    Except UsbError (List UInt8) × Mailbox :=
  if addr = .control .out then
    match bus.incoming with
    | some packet =>
      (if packet.length ≤ len then .ok packet else .error .bufferOverflow,
        { bus with incoming := none })
    | none => (.error .wouldBlock, bus)
  else (.error .wouldBlock, bus)

instance : UsbBus Mailbox where
  allocEp bus dir addr _ _ _ := (.ok (addr.getD (.fromParts 1 dir)), bus)
  enable := id
  reset := id
  setDeviceAddress bus _ := bus
  write := write
  read := read
  setStalled bus _ _ := bus
  isStalled _ _ := false
  suspend := id
  resume := id
  poll bus := (bus.event, bus)
  quirkSetAddressBeforeStatus := false

instance : UsbBus.WholeWrites Mailbox where
  write_eq := by
    intro bus addr data count h
    change (bus.write addr data).1 = .ok count at h
    unfold write at h
    split at h
    · split at h
      · cases h
        rfl
      · cases h
    · cases h

instance : UsbBus.Contract Mailbox where
  alloc_eq := by
    intro bus dir addr epType size interval addr' h
    cases h
    rfl
  read_le := by
    intro bus addr len packet h
    change (bus.read addr len).1 = .ok packet at h
    unfold read at h
    split at h
    · split at h
      · dsimp only at h
        split at h
        · cases h
          assumption
        · cases h
      · cases h
    · cases h
  write_le bus addr data count h := Nat.le_of_eq (UsbBus.WholeWrites.write_eq bus addr data count h)

theorem write_control {bus : Mailbox} (h : bus.outgoing = none) (data : List UInt8) :
    UsbBus.write bus (.control .in_) data =
      (.ok data.length, { bus with outgoing := some data }) := by
  change bus.write _ data = _
  rw [write, if_pos rfl, h]

theorem read_control {bus : Mailbox} {packet : List UInt8} (h : bus.incoming = some packet)
    (len : Nat) :
    UsbBus.read bus (.control .out) len =
      (if packet.length ≤ len then .ok packet else .error .bufferOverflow,
        { bus with incoming := none }) := by
  change bus.read _ len = _
  rw [read, if_pos rfl, h]

end Mailbox

end UsbStack
