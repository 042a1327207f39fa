import UsbStack.Device

/-! # Building a device -/

namespace UsbStack

set_option autoImplicit false

open Foundation Exec

inductive BuilderError where
  | tooManyLanguages
  | invalidPacketSize
  | powerTooHigh
  | controlBufferTooSmall
  deriving DecidableEq, Repr

structure UsbVidPid where
  vid : UInt16
  pid : UInt16

structure UsbDeviceBuilder where
  controlBuffer : List UInt8
  config : Config

namespace UsbDeviceBuilder

def new (vidPid : UsbVidPid) (controlBuffer : List UInt8) : UsbDeviceBuilder where
  controlBuffer := controlBuffer
  config := {
    deviceClass := 0x00
    deviceSubClass := 0x00
    deviceProtocol := 0x00
    maxPacketSize0 := 8
    vendorId := vidPid.vid
    productId := vidPid.pid
    usbRev := .usb210
    deviceRelease := 0x0010
    stringDescriptors := ⟨[], by decide⟩
    selfPowered := false
    supportsRemoteWakeup := false
    compositeWithIads := false
    maxPower := 50 }

def setConfig (builder : UsbDeviceBuilder) (f : Config → Config) : UsbDeviceBuilder :=
  { builder with config := f builder.config }

def deviceClass (builder : UsbDeviceBuilder) (deviceClass : UInt8) : UsbDeviceBuilder :=
  builder.setConfig fun c => { c with deviceClass := deviceClass }

def deviceSubClass (builder : UsbDeviceBuilder) (deviceSubClass : UInt8) : UsbDeviceBuilder :=
  builder.setConfig fun c => { c with deviceSubClass := deviceSubClass }

def deviceProtocol (builder : UsbDeviceBuilder) (deviceProtocol : UInt8) : UsbDeviceBuilder :=
  builder.setConfig fun c => { c with deviceProtocol := deviceProtocol }

def deviceRelease (builder : UsbDeviceBuilder) (deviceRelease : UInt16) : UsbDeviceBuilder :=
  builder.setConfig fun c => { c with deviceRelease := deviceRelease }

def selfPowered (builder : UsbDeviceBuilder) (selfPowered : Bool) : UsbDeviceBuilder :=
  builder.setConfig fun c => { c with selfPowered := selfPowered }

def supportsRemoteWakeup (builder : UsbDeviceBuilder) (supportsRemoteWakeup : Bool) :
    UsbDeviceBuilder :=
  builder.setConfig fun c => { c with supportsRemoteWakeup := supportsRemoteWakeup }

def usbRev (builder : UsbDeviceBuilder) (usbRev : UsbRev) : UsbDeviceBuilder :=
  builder.setConfig fun c => { c with usbRev := usbRev }

def compositeWithIads (builder : UsbDeviceBuilder) : UsbDeviceBuilder :=
  builder.setConfig fun c => { c with
    deviceClass := 0xEF
    deviceSubClass := 0x02
    deviceProtocol := 0x01
    compositeWithIads := true }

def strings (builder : UsbDeviceBuilder) (descriptors : List StringDescriptors) :
    Except BuilderError UsbDeviceBuilder :=
  if h : descriptors.length ≤ 16 then
    .ok (builder.setConfig fun c => { c with stringDescriptors := ⟨descriptors, h⟩ })
  else .error .tooManyLanguages

def maxPacketSize0 (builder : UsbDeviceBuilder) (maxPacketSize0 : UInt8) :
    Except BuilderError UsbDeviceBuilder :=
  if maxPacketSize0 = 8 ∨ maxPacketSize0 = 16 ∨ maxPacketSize0 = 32 ∨ maxPacketSize0 = 64 then
    if builder.controlBuffer.length < maxPacketSize0.toNat then .error .controlBufferTooSmall
    else .ok (builder.setConfig fun c => { c with maxPacketSize0 := maxPacketSize0 })
  else .error .invalidPacketSize

def maxPower (builder : UsbDeviceBuilder) (maxPowerMa : Nat) : Except BuilderError UsbDeviceBuilder :=
  if 500 < maxPowerMa then .error .powerTooHigh
  else .ok (builder.setConfig fun c => { c with maxPower := (maxPowerMa / 2).toUInt8 })

/-- The builders that code outside the crate can come to hold. -/
inductive Made : UsbDeviceBuilder → Prop
  | new (vidPid : UsbVidPid) (controlBuffer : List UInt8) : Made (new vidPid controlBuffer)
  | deviceClass {builder : UsbDeviceBuilder} (h : Made builder) (v : UInt8) :
      Made (builder.deviceClass v)
  | deviceSubClass {builder : UsbDeviceBuilder} (h : Made builder) (v : UInt8) :
      Made (builder.deviceSubClass v)
  | deviceProtocol {builder : UsbDeviceBuilder} (h : Made builder) (v : UInt8) :
      Made (builder.deviceProtocol v)
  | deviceRelease {builder : UsbDeviceBuilder} (h : Made builder) (v : UInt16) :
      Made (builder.deviceRelease v)
  | selfPowered {builder : UsbDeviceBuilder} (h : Made builder) (v : Bool) :
      Made (builder.selfPowered v)
  | supportsRemoteWakeup {builder : UsbDeviceBuilder} (h : Made builder) (v : Bool) :
      Made (builder.supportsRemoteWakeup v)
  | usbRev {builder : UsbDeviceBuilder} (h : Made builder) (v : UsbRev) : Made (builder.usbRev v)
  | compositeWithIads {builder : UsbDeviceBuilder} (h : Made builder) :
      Made builder.compositeWithIads
  | strings {builder builder' : UsbDeviceBuilder} (h : Made builder) (v : List StringDescriptors)
      (hOk : builder.strings v = .ok builder') : Made builder'
  | maxPacketSize0 {builder builder' : UsbDeviceBuilder} (h : Made builder) (v : UInt8)
      (hOk : builder.maxPacketSize0 v = .ok builder') : Made builder'
  | maxPower {builder builder' : UsbDeviceBuilder} (h : Made builder) (v : Nat)
      (hOk : builder.maxPower v = .ok builder') : Made builder'

end UsbDeviceBuilder

variable {B : Type} [UsbBus B]

/-- `alloc.alloc(..).expect(..)` for one direction of endpoint 0 -/
def allocControl (dir : UsbDirection) (config : Config) : BusM B Endpoint := do
  let maxPacketSize := config.maxPacketSize0.toUInt16
  match ← attempt (Traced.allocEp dir (some (.control dir)) .control maxPacketSize 0) with
  | .ok address => pure ⟨address, .control, maxPacketSize, 0⟩
  | .error _ => abort .expectFailed

def UsbDevice.build (config : Config) (controlBuffer : List UInt8) : BusM B (UsbDevice B) := do
  let epOut ← allocControl .out config
  let epIn ← allocControl .in_ config
  Traced.enable
  let bus ← get
  pure {
    config := config
    control := ControlPipe.new bus controlBuffer epOut epIn
    deviceState := .default
    remoteWakeupEnabled := false
    selfPowered := false
    suspendedDeviceState := none
    pendingAddress := 0 }

def UsbDeviceBuilder.build (builder : UsbDeviceBuilder) (bus : B) :
    Except BuilderError (Outcome Panic UsbError (Traced B) (UsbDevice B)) :=
  if builder.controlBuffer.length < builder.config.maxPacketSize0.toNat then
    .error .controlBufferTooSmall
  else .ok (UsbDevice.build builder.config builder.controlBuffer ⟨bus, []⟩)

/-- `d` is a device as the builder hands it out. -/
def UsbDevice.Fresh (d : UsbDevice B) : Prop :=
  ∃ (builder : UsbDeviceBuilder) (bus : B) (t : Traced B),
    builder.Made ∧ builder.build bus = .ok (.done (.ok d) t)

omit [UsbBus B] in
/-- No call of the builder makes the packets of endpoint 0 shorter than eight bytes. -/
theorem UsbDeviceBuilder.Made.eight_le {builder : UsbDeviceBuilder} (h : builder.Made) :
    8 ≤ builder.config.maxPacketSize0.toNat := by
  induction h with
  | new vidPid controlBuffer => exact Nat.le_refl 8
  | strings h v hOk ih =>
    unfold UsbDeviceBuilder.strings at hOk
    split at hOk
    · cases hOk
      exact ih
    · cases hOk
  | maxPacketSize0 h v hOk ih =>
    unfold UsbDeviceBuilder.maxPacketSize0 at hOk
    split at hOk
    · rename_i hSize
      split at hOk
      · cases hOk
      · cases hOk
        change 8 ≤ v.toNat
        rcases hSize with rfl | rfl | rfl | rfl <;> decide
    · cases hOk
  | maxPower h v hOk ih =>
    unfold UsbDeviceBuilder.maxPower at hOk
    split at hOk
    · cases hOk
    · cases hOk
      exact ih
  | _ => assumption

/-- The control pipe uses the two directions of endpoint 0 and awaits OUT data for OUT requests, a
SETUP packet fits its buffer, and a suspended device remembers another state than that. -/
structure UsbDevice.WellFormed (d : UsbDevice B) : Prop where
  room : 8 ≤ d.control.buf.length
  epOut : d.control.epOut.address = .control .out
  epIn : d.control.epIn.address = .control .in_
  data : ∀ req, d.control.state = .dataOut req → req.direction = .out
  remembered : d.suspendedDeviceState ≠ some .suspend

structure UsbDevice.Initial (d : UsbDevice B) : Prop where
  wellFormed : d.WellFormed
  trace : d.control.bus.trace = [.enable]
  idle : d.control.state = .idle
  deviceState : d.deviceState = .default
  suspendedDeviceState : d.suspendedDeviceState = none
  pendingAddress : d.pendingAddress = 0

section Fresh

variable [UsbBus.Contract B]

theorem post_allocControl (dir : UsbDirection) (config : Config) (t : Traced B) :
    Post True (allocControl dir config) (fun r t' =>
      r = .ok (.control dir config.maxPacketSize0.toUInt16) ∧ t'.trace = t.trace) t := by
  rw [allocControl, post_bind, post_attempt, post_true_iff]
  intro r t' hAlloc
  cases hAlloc
  dsimp only
  split
  · rename_i address hAddress
    rw [UsbBus.Contract.alloc_eq _ _ _ _ _ _ _ hAddress]
    exact ⟨rfl, rfl⟩
  · trivial

/-- What a built device has. -/
theorem UsbDevice.Fresh.built {d : UsbDevice B} (h : d.Fresh) :
    ∃ (builder : UsbDeviceBuilder) (t : Traced B), builder.Made ∧
      builder.config.maxPacketSize0.toNat ≤ builder.controlBuffer.length ∧ t.trace = [.enable] ∧
      d = {
        config := builder.config
        control := .new t builder.controlBuffer
          (.control .out builder.config.maxPacketSize0.toUInt16)
          (.control .in_ builder.config.maxPacketSize0.toUInt16)
        deviceState := .default
        remoteWakeupEnabled := false
        selfPowered := false
        suspendedDeviceState := none
        pendingAddress := 0 } := by
  obtain ⟨builder, bus, t, hMade, hBuild⟩ := h
  unfold UsbDeviceBuilder.build at hBuild
  split at hBuild
  · cases hBuild
  · rename_i hFits
    have hPost : Post True (UsbDevice.build builder.config builder.controlBuffer) (fun r _ =>
        ∀ d, r = .ok d → ∃ t : Traced B, t.trace = [.enable] ∧ d = {
          config := builder.config
          control := .new t builder.controlBuffer
            (.control .out builder.config.maxPacketSize0.toUInt16)
            (.control .in_ builder.config.maxPacketSize0.toUInt16)
          deviceState := .default
          remoteWakeupEnabled := false
          selfPowered := false
          suspendedDeviceState := none
          pendingAddress := 0 }) (⟨bus, []⟩ : Traced B) := by
      rw [UsbDevice.build, post_bind]
      apply (post_allocControl .out builder.config _).mono
      rintro _ t ⟨rfl, hTrace⟩
      dsimp only
      rw [post_bind]
      apply (post_allocControl .in_ builder.config t).mono
      rintro _ u ⟨rfl, hTrace'⟩
      intro d hd
      cases hd
      exact ⟨_, by rw [hTrace', hTrace]; rfl, rfl⟩
    obtain ⟨t', hTrace, hDevice⟩ := post_of_done hPost (Except.ok.inj hBuild) d rfl
    exact ⟨builder, t', hMade, Nat.not_lt.mp hFits, hTrace, hDevice⟩

theorem UsbDevice.Fresh.initial {d : UsbDevice B} (h : d.Fresh) : d.Initial := by
  obtain ⟨builder, t, hMade, hFits, hTrace, rfl⟩ := h.built
  have hRoom : 8 ≤ builder.controlBuffer.length := by
    have hSize := hMade.eight_le
    omega
  have hNoData (req : Request) (hState : ControlState.idle = .dataOut req) :
      req.direction = .out := by cases hState
  have hForgotten : (none : Option UsbDeviceState) ≠ some .suspend := by
    intro hSome
    cases hSome
  exact ⟨⟨hRoom, rfl, rfl, hNoData, hForgotten⟩, hTrace, rfl, rfl, rfl, rfl⟩

end Fresh

end UsbStack
