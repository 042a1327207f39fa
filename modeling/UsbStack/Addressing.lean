import UsbStack.DeviceRun

/-! # A device without an address

An addressed or configured device was given an address since the last bus reset, in every run in
which a request to configure the device does not reach the standard handler in the default state.
-/

namespace UsbStack

set_option autoImplicit false

open Foundation Exec

variable {B C : Type}

/-- The state, or while suspended the remembered one, is one of a device with an address. -/
def UsbDevice.Active (d : UsbDevice B) : Prop :=
  d.state = .addressed ∨ d.state = .configured ∨
    d.state = .suspend ∧
      (d.suspendedDeviceState = some .addressed ∨ d.suspendedDeviceState = some .configured)

def UsbDeviceState.NeedsAddress : UsbDeviceState → Prop
  | .addressed | .configured => True
  | _ => False

def KeepsAddress : Event → Prop
  | .reset | .setDeviceAddress _ => False
  | _ => True

theorem addressed_eq {t t' : Traced B} (h : Traced.Grows KeepsAddress t t') :
    addressed t'.trace = addressed t.trace := by
  refine h.foldl_eq (fun now event hEvent => ?_) false
  cases event <;> first | rfl | exact hEvent.elim

theorem keepsAddress_of_background {event : Event} (h : BackgroundEvent event) :
    KeepsAddress event := by
  cases event <;> trivial

theorem keepsAddress_of_receive {event : Event} (h : ControlPipe.ReceiveEvent event) :
    KeepsAddress event := by
  cases event <;> trivial

theorem keepsAddress_of_transfer {event : Event} (h : ControlPipe.TransferEvent event) :
    KeepsAddress event := keepsAddress_of_receive (ControlPipe.receiveEvent_of_transfer h)

theorem addressed_append_setDeviceAddress {trace : List Event} {addr : UInt8} (hLow : 1 ≤ addr)
    (hHigh : addr ≤ 127) : addressed (trace ++ [.setDeviceAddress addr]) = true := by
  rw [addressed, List.foldl_append]
  simp [hLow, hHigh]

/-- The states that need an address have one, and a pending address is valid. -/
structure UsbDevice.AddressKnown (d : UsbDevice B) : Prop where
  state : d.deviceState.NeedsAddress → addressed d.control.bus.trace = true
  remembered : ∀ state, d.suspendedDeviceState = some state → state.NeedsAddress →
    addressed d.control.bus.trace = true
  pending : d.pendingAddress ≤ 127

namespace UsbDevice.AddressKnown

variable {d : UsbDevice B}

theorem active (h : d.AddressKnown) (hActive : d.Active) :
    addressed d.control.bus.trace = true := by
  rcases hActive with hState | hState | ⟨-, hRemembered | hRemembered⟩
  · exact h.state (by rw [show d.deviceState = _ from hState]; trivial)
  · exact h.state (by rw [show d.deviceState = _ from hState]; trivial)
  · exact h.remembered _ hRemembered trivial
  · exact h.remembered _ hRemembered trivial

theorem withPipe (h : d.AddressKnown) {p : ControlPipe B}
    (hGrows : Traced.Grows KeepsAddress d.control.bus p.bus) : (d.withPipe p).AddressKnown :=
  ⟨fun hState => (addressed_eq hGrows).trans (h.state hState),
    fun state hSome hState => (addressed_eq hGrows).trans (h.remembered state hSome hState),
    h.pending⟩

theorem of_addressed (hPending : d.pendingAddress ≤ 127)
    (hAddressed : addressed d.control.bus.trace = true) : d.AddressKnown :=
  ⟨fun _ => hAddressed, fun _ _ _ => hAddressed, hPending⟩

theorem of_initial (h : d.Initial) : d.AddressKnown := by
  refine ⟨fun hState => ?_, fun state hSome _ => ?_, ?_⟩
  · rw [h.deviceState] at hState
    exact hState.elim
  · rw [h.suspendedDeviceState] at hSome
    cases hSome
  · rw [h.pendingAddress]
    decide

variable [UsbBus B] [UsbClass C]

omit [UsbClass C] in
theorem background : Background (UsbDevice.AddressKnown : UsbDevice B → Prop) where
  events _ _ h hGrows := h.withPipe (hGrows.mono fun _ => keepsAddress_of_background)
  resume d state h hRemembered :=
    ⟨h.remembered state hRemembered, fun _ hNone => (Option.some_ne_none _ hNone.symm).elim, h.pending⟩
  suspend d h _ :=
    ⟨fun hState => hState.elim, fun state hSome => Option.some.inj hSome ▸ h.state, h.pending⟩
  reset d h :=
    ⟨fun hState => hState.elim, fun _ hNone => (Option.some_ne_none _ hNone.symm).elim, by
      change (0 : UInt8) ≤ 127
      decide⟩
  selfPowered _ _ h := ⟨h.state, h.remembered, h.pending⟩

end UsbDevice.AddressKnown

section Requests

variable {req : Request}

theorem Request.IsStandardOut.value_range (h : req.IsStandardOut .setAddress) :
    1 ≤ req.value ∧ req.value ≤ 127 := by
  have hArm := h.2
  unfold Request.standardOut at hArm
  iterate 4
    split at hArm
    · cases hArm
  split at hArm
  · rename_i hValue
    exact hValue.2.2
  · repeat
      split at hArm
      · cases hArm
    cases hArm

theorem Request.IsStandardOut.address_range (h : req.IsStandardOut .setAddress) :
    1 ≤ req.value.toUInt8 ∧ req.value.toUInt8 ≤ 127 := by
  obtain ⟨hLow, hHigh⟩ := h.value_range
  rw [UInt16.le_iff_toNat_le] at hLow hHigh
  rw [UInt8.le_iff_toNat_le, UInt8.le_iff_toNat_le, UInt16.toNat_toUInt8]
  have hOne : UInt8.toNat 1 = 1 := rfl
  have hMax : UInt8.toNat 127 = 127 := rfl
  have hOne' : UInt16.toNat 1 = 1 := rfl
  have hMax' : UInt16.toNat 127 = 127 := rfl
  omega

end Requests

variable [UsbBus B] [UsbClass C]

structure UsbDevice.HoldsAddress (d e : UsbDevice B) : Prop extends e.AddressKnown where
  awake : e.deviceState ≠ .suspend
  kept : d.deviceState ≠ .default → addressed e.control.bus.trace = true

namespace UsbDevice.HoldsAddress

variable {d e e' : UsbDevice B}

omit [UsbBus B] in
theorem start (h : d.AddressKnown) (hAwake : d.deviceState ≠ .suspend) : d.HoldsAddress d := by
  refine ⟨h, hAwake, fun hState => h.state ?_⟩
  cases hDevice : d.deviceState with
  | default => exact hState hDevice
  | suspend => exact hAwake hDevice
  | _ => trivial

omit [UsbBus B] in
theorem withPipe (h : d.HoldsAddress e) {p : ControlPipe B}
    (hGrows : Traced.Grows KeepsAddress e.control.bus p.bus) : d.HoldsAddress (e.withPipe p) :=
  ⟨h.toAddressKnown.withPipe hGrows, h.awake, fun hState => (addressed_eq hGrows).trans (h.kept hState)⟩

/-- No step for a request makes an address known that was not given. -/
theorem controlStep {req : Request}
    (hStep : ControlStep B C req (fun _ => d.deviceState ≠ .default) e e')
    (h : d.HoldsAddress e) : d.HoldsAddress e' := by
  cases hStep with
  | foreign hGrows =>
    exact h.withPipe (hGrows.mono fun _ hEvent =>
      keepsAddress_of_background (backgroundEvent_of_foreign hEvent))
  | answer hAnswers => exact h.withPipe (hAnswers.grows.mono fun _ => keepsAddress_of_transfer)
  | acceptOut _ hAccepts => exact h.withPipe (hAccepts.grows.mono fun _ => keepsAddress_of_transfer)
  | setHalt stalled _ => exact h.withPipe (Traced.Grows.single rfl trivial)
  | setRemoteWakeup enabled => exact ⟨⟨h.state, h.remembered, h.pending⟩, h.awake, h.kept⟩
  | setPendingAddress hReq _ =>
    exact ⟨⟨h.state, h.remembered, hReq.address_range.2⟩, h.awake, h.kept⟩
  | @setAddress t hReq _ hTrace =>
    have hAddressed : addressed t.trace = true := by
      rw [hTrace]
      exact addressed_append_setDeviceAddress hReq.address_range.1 hReq.address_range.2
    exact ⟨.of_addressed h.pending hAddressed, nofun, fun _ => hAddressed⟩
  | configure _ hState => exact ⟨.of_addressed h.pending (h.kept hState), nofun, h.kept⟩
  | deconfigure _ hState =>
    have hAddressed := (start h.toAddressKnown h.awake).kept hState
    exact ⟨.of_addressed h.pending hAddressed, nofun, h.kept⟩

end UsbDevice.HoldsAddress

/-- No poll brings a request to configure the device, which the classes leave to the device, to a
device in the default state. -/
def ConfiguresOutsideDefault (input : DeviceInput B C) (s : Session B C) : Prop :=
  input = .poll → ∀ epOut epIn epSetup d req p t,
    s.device.event? = some (.data epOut epIn epSetup, d) →
    Session.receive epOut epSetup d.control = .done (.ok (some req)) p → req.direction = .out →
    Session.firstClass (offer (callControlOut req)) { s with device := d.withPipe p } =
      .done (.ok none) t →
    req.IsStandardOut .configure → d.deviceState ≠ .default

/-- A poll of endpoint 0 keeps the invariant, unless it configures a device in the default state. -/
theorem addressKnown_pollControl {s : Session B C} {epOut epIn epSetup : UInt16} {d : UsbDevice B}
    (hWell : s.device.WellFormed) (hCondition : ConfiguresOutsideDefault .poll s)
    (hEvent : s.device.event? = some (.data epOut epIn epSetup, d)) (hd : d.AddressKnown) :
    Post True (Session.pollControl epOut epIn epSetup) (fun _ t => t.device.AddressKnown)
      { s with device := d } := by
  have hReceived {found : Option Request} {p : ControlPipe B}
      (hReceive : Session.receive epOut epSetup d.control = .done (.ok found) p) :
      (d.withPipe p).AddressKnown :=
    hd.withPipe ((ControlPipe.Receives.of_receive hReceive).grows.mono fun _ => keepsAddress_of_receive)
  refine post_pollControl (fun req p hReceive => ?_) (fun p hReceive => hReceived hReceive)
    fun p hReceive _ => ?_
  · have hSteps : Post True (Session.dispatch req)
        (fun _ t => SessionSteps B C req (fun _ => d.deviceState ≠ .default)
          { s with device := d.withPipe p } t) { s with device := d.withPipe p } :=
      post_dispatch fun hOut => post_true_iff.mpr fun r t hOffer hNone hConfigure =>
        hCondition rfl _ _ _ d req p t hEvent hReceive hOut (hNone ▸ hOffer) hConfigure
    refine hSteps.mono fun _ t ht => ?_
    have hAwake : d.deviceState ≠ .suspend := hWell.awake hEvent
    have hHolds : (d.withPipe p).HoldsAddress t.device := ControlSteps.invariant ht
      (fun _ _ hStep => UsbDevice.HoldsAddress.controlStep hStep)
      (.start (hReceived hReceive) hAwake)
    exact hHolds.toAddressKnown
  · refine post_completeIn (fun r q hCompletes => ?_) fun q hCompletes _ hPending => ?_
    · exact (hReceived hReceive).withPipe
        (hCompletes.grows.mono fun _ => keepsAddress_of_transfer)
    · have hLow : 1 ≤ d.pendingAddress := by
        have hZero : d.pendingAddress ≠ 0 := hPending
        rw [UInt8.le_iff_toNat_le]
        have hNat : d.pendingAddress.toNat ≠ 0 := fun h => hZero (UInt8.toNat_inj.mp h)
        have hOne : UInt8.toNat 1 = 1 := rfl
        omega
      refine .of_addressed (by change (0 : UInt8) ≤ 127; decide) ?_
      exact addressed_append_setDeviceAddress hLow hd.pending

/-- In every run whose polls meet the condition, a device with an address in its state was given one
since the last reset. -/
theorem addressed_of_active [UsbBus.Contract B] {d : UsbDevice B} (hFresh : d.Fresh)
    {classes : List C} {inputs : List (DeviceInput B C)}
    (hRun : Along DeviceInput.perform ConfiguresOutsideDefault inputs ⟨d, classes⟩) :
    Throughout DeviceInput.perform
      (fun s => s.device.Active → addressed s.device.control.bus.trace = true) inputs
      ⟨d, classes⟩ := by
  have hInitial := hFresh.initial
  have hKnown := throughout_of_background UsbDevice.AddressKnown.background
    (fun s _ _ _ _ hWell hCondition hEvent hd => addressKnown_pollControl hWell hCondition hEvent hd)
    hInitial.wellFormed (.of_initial hInitial) hRun
  exact hKnown.mono fun s h => h.active

/-- SET_ADDRESS(5) and its status stage. -/
theorem addressed_of_active_setAddress :
    Throughout DeviceInput.perform
      (fun s => s.device.Active → addressed s.device.control.bus.trace = true) [.poll, .poll]
      (addressingBus.session []) := by
  refine addressed_of_active (ScriptBus.fresh_device _)
    ⟨?_, fun r s' hPoll => ⟨?_, fun _ _ _ => trivial⟩⟩
  · rintro - epOut epIn epSetup d req p t hEvent hReceive - - hConfigure
    have hRequest := congrArg Outcome.value? hReceive
    cases hEvent
    cases (show _ = some (some req) from hRequest)
    cases hConfigure.2
  · rintro - epOut epIn epSetup d req p t hEvent hReceive - - -
    have hData : ((DeviceInput.poll.perform (addressingBus.session [])).state?.bind fun t =>
        t.device.event?.map Prod.fst) = some (.data 0 1 0) := by decide
    rw [hPoll] at hData
    dsimp only [Outcome.state?, Option.bind_some] at hData
    rw [hEvent] at hData
    cases hData
    cases hReceive

def configuringBus : ScriptBus :=
  ⟨[.ok [0x00, 9, 1, 0, 0, 0, 0, 0]], [.ok 0], [.data 0 0 1]⟩

def configuredSession : Session ScriptBus DefaultClass :=
  (finalState DeviceInput.perform [.poll] (configuringBus.session [])).get (by decide)

theorem not_forall_addressed_of_active :
    ¬ ∀ (B C : Type) [UsbBus B] [UsbClass C] [UsbBus.Contract B] (d : UsbDevice B), d.Fresh →
      ∀ (classes : List C) (inputs : List (DeviceInput B C)),
        Throughout DeviceInput.perform
          (fun s => s.device.Active → addressed s.device.control.bus.trace = true) inputs
          ⟨d, classes⟩ := by
  intro h
  have hRun := h ScriptBus DefaultClass _ (ScriptBus.fresh_device configuringBus) [] [.poll]
  have hFinal : finalState DeviceInput.perform [.poll] (configuringBus.session []) =
      some configuredSession := (Option.some_get _).symm
  have hAddressed := hRun.finalState hFinal (.inr (.inl (by decide)))
  exact absurd hAddressed (by decide)

end UsbStack
