import UsbStack.ControlPipe

/-! # A bus that follows a script

The answers to `read`, `write` and `poll` are lists that the calls consume, so that every sequence
of answers which the contract allows is the behaviour of some script.
-/

namespace UsbStack

set_option autoImplicit false

open Foundation

/-- An answer `ok n` to a write accepts at most `n` bytes of the packet. -/
structure ScriptBus where
  reads : List (Except UsbError (List UInt8))
  writes : List (Except UsbError Nat)
  polls : List PollResult

namespace ScriptBus

def read (bus : ScriptBus) (len : Nat) : Except UsbError (List UInt8) × ScriptBus :=
  match bus.reads with
  | [] => (.error .wouldBlock, bus)
  | .error e :: rest => (.error e, { bus with reads := rest })
  | .ok packet :: rest =>
    (if packet.length ≤ len then .ok packet else .error .bufferOverflow, { bus with reads := rest })

def write (bus : ScriptBus) (data : List UInt8) : Except UsbError Nat × ScriptBus :=
  match bus.writes with
  | [] => (.error .wouldBlock, bus)
  | .error e :: rest => (.error e, { bus with writes := rest })
  | .ok count :: rest => (.ok (min count data.length), { bus with writes := rest })

def poll (bus : ScriptBus) : PollResult × ScriptBus :=
  match bus.polls with
  | [] => (.none, bus)
  | result :: rest => (result, { bus with polls := rest })

instance : UsbBus ScriptBus where
  allocEp bus dir addr _ _ _ := (.ok (addr.getD (.fromParts 1 dir)), bus)
  enable := id
  reset := id
  setDeviceAddress bus _ := bus
  write bus _ := bus.write
  read bus _ := bus.read
  setStalled bus _ _ := bus
  isStalled _ _ := false
  suspend := id
  resume := id
  poll := poll
  quirkSetAddressBeforeStatus := false

instance : UsbBus.Contract ScriptBus where
  alloc_eq := by
    intro bus dir addr epType size interval addr' h
    cases h
    rfl
  read_le := by
    intro bus addr len packet h
    change (bus.read len).1 = .ok packet at h
    rw [read] at h
    split at h
    · cases h
    · cases h
    · dsimp only at h
      split at h
      · cases h
        assumption
      · cases h
  write_le := by
    intro bus addr data count h
    change (bus.write data).1 = .ok count at h
    rw [write] at h
    split at h
    · cases h
    · cases h
    · cases h
      exact Nat.min_le_right _ _

theorem read_cons {bus : ScriptBus} {packet : List UInt8}
    {rest : List (Except UsbError (List UInt8))} (h : bus.reads = .ok packet :: rest)
    (addr : EndpointAddress) (len : Nat) :
    UsbBus.read bus addr len =
      (if packet.length ≤ len then .ok packet else .error .bufferOverflow,
        { bus with reads := rest }) := by
  change bus.read len = _
  rw [read, h]

theorem read_error {bus : ScriptBus} {e : UsbError} {rest : List (Except UsbError (List UInt8))}
    (h : bus.reads = .error e :: rest) (addr : EndpointAddress) (len : Nat) :
    UsbBus.read bus addr len = (.error e, { bus with reads := rest }) := by
  change bus.read len = _
  rw [read, h]

theorem handleSetup_of_reads {p : ControlPipe ScriptBus} {packet : List UInt8} {req : Request}
    {rest : List (Except UsbError (List UInt8))} (hReads : p.bus.bus.reads = .ok packet :: rest)
    (hParse : Request.parse packet = .ok req) (hBuf : 8 ≤ p.buf.length) :
    ControlPipe.handleSetup p =
      .done (.ok ((p.loaded 0 packet).begun req).1) ((p.loaded 0 packet).begun req).2 := by
  have hPacket : packet.length ≤ p.buf.length := by
    rw [Request.length_of_parse hParse]
    exact hBuf
  rw [ControlPipe.handleSetup_apply, read_cons hReads, if_pos hPacket]
  dsimp only
  rw [if_neg (Nat.not_lt.mpr hPacket), hParse]

def ofReads (reads : List (Except UsbError (List UInt8))) : ScriptBus := ⟨reads, [], []⟩

end ScriptBus

end UsbStack
