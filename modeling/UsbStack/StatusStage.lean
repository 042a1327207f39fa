import UsbStack.DeviceRun

/-! # The status stage of SET_ADDRESS

The address that a SET_ADDRESS request leaves in the device takes effect at the end of that
request's own status stage, in every run in which no other OUT request is handed out while an
address is pending.
-/

namespace UsbStack

set_option autoImplicit false

open Foundation Exec

variable {B C : Type}

def NoAddress : Event → Prop
  | .setDeviceAddress _ => False
  | _ => True

def NoSetup : Event → Prop
  | .setup _ => False
  | _ => True

theorem noAddress_of_background {event : Event} (h : BackgroundEvent event) : NoAddress event := by
  cases event <;> trivial

theorem noAddress_of_receive {event : Event} (h : ControlPipe.ReceiveEvent event) :
    NoAddress event := by
  cases event <;> trivial

theorem noSetup_of_background {event : Event} (h : BackgroundEvent event) : NoSetup event := by
  cases event <;> trivial

theorem noSetup_of_transfer {event : Event} (h : ControlPipe.TransferEvent event) :
    NoSetup event := by
  cases event <;> trivial

theorem lastSetup_eq {t t' : Traced B} (h : Traced.Grows NoSetup t t') :
    lastSetup t'.trace = lastSetup t.trace := by
  refine h.foldl_eq (fun now event hEvent => ?_) none
  cases event <;> first | rfl | exact hEvent.elim

theorem lastSetup_append_setup (trace : List Event) (req : Request) :
    lastSetup (trace ++ [.setup req]) = some req := by
  rw [lastSetup, List.foldl_append]
  rfl

def Quiet : ControlState → Prop
  | .statusIn | .dataOut _ => False
  | _ => True

def Closed : ControlState → Prop
  | .statusIn | .dataOut _ | .completeOut => False
  | _ => True

theorem quiet_of_closed {state : ControlState} (h : Closed state) : Quiet state := by
  cases state <;> trivial

theorem closed_of_transmits {state : ControlState} (h : ControlPipe.Transmits state) :
    Closed state := by
  cases state <;> trivial

/-- An address that is pending in the status stage comes from the latest SETUP packet. -/
structure UsbDevice.AddressDue (d : UsbDevice B) : Prop where
  status : d.control.state = .statusIn → d.pendingAddress ≠ 0 →
    ∃ req, lastSetup d.control.bus.trace = some req ∧ req.IsStandardOut .setAddress ∧
      req.value.toUInt8 = d.pendingAddress
  data : ∀ req, d.control.state = .dataOut req →
    lastSetup d.control.bus.trace = some req

namespace UsbDevice.AddressDue

variable {d : UsbDevice B}

theorem of_quiet (h : Quiet d.control.state) : d.AddressDue := by
  refine ⟨fun hState => ?_, fun req hState => ?_⟩
  · rw [hState] at h
    exact h.elim
  · rw [hState] at h
    exact h.elim

theorem of_initial (h : d.Initial) : d.AddressDue := by
  refine of_quiet ?_
  rw [h.idle]
  trivial

theorem withPipe (h : d.AddressDue) {p : ControlPipe B}
    (hGrows : Traced.Grows NoSetup d.control.bus p.bus)
    (hState : p.state = d.control.state ∨ Quiet p.state) : (d.withPipe p).AddressDue := by
  rcases hState with hSame | hQuiet
  · refine ⟨fun hStatus hPending => ?_, fun req hData => ?_⟩
    · obtain ⟨req, hSetup, hReq⟩ := h.status (hSame.symm.trans hStatus) hPending
      exact ⟨req, (lastSetup_eq hGrows).trans hSetup, hReq⟩
    · exact (lastSetup_eq hGrows).trans (h.data req (hSame.symm.trans hData))
  · exact of_quiet hQuiet

variable [UsbBus B]

theorem background : Background (UsbDevice.AddressDue : UsbDevice B → Prop) where
  events _ _ h hGrows := h.withPipe (hGrows.mono fun _ => noSetup_of_background) (.inl rfl)
  resume _ _ h _ := ⟨h.status, h.data⟩
  suspend _ h _ := ⟨h.status, h.data⟩
  reset _ _ := of_quiet trivial
  selfPowered _ _ h := ⟨h.status, h.data⟩

theorem of_begun (h : d.AddressDue) (req : Request) :
    (d.withPipe (d.control.begun req).2).AddressDue := by
  have hNoted : lastSetup (d.control.noted req).trace = some req := lastSetup_append_setup _ _
  rcases d.control.begun_cases req with
    ⟨-, hBegun⟩ | ⟨-, hBegun⟩ | ⟨-, hBegun⟩ | ⟨-, hBegun⟩ <;> rw [hBegun]
  · exact h.withPipe (Traced.Grows.single rfl trivial) (.inl rfl)
  · refine ⟨fun hState => ?_, fun req' hState => ?_⟩
    · cases hState
    · cases hState
      exact hNoted
  · exact of_quiet trivial
  · exact of_quiet trivial

/-- What arrives on EP0-OUT keeps a pending address tied to the latest SETUP packet. -/
theorem receives (h : d.AddressDue) {epSetup : UInt16} {found : Option Request}
    {p : ControlPipe B} (hReceives : d.control.Receives epSetup found p) :
    (d.withPipe p).AddressDue := by
  have hAsked (len : Nat) : Traced.Grows NoSetup d.control.bus (d.control.asked len).bus :=
    Traced.Grows.single rfl trivial
  have hErrored (len : Nat) : Traced.Grows NoSetup d.control.bus (d.control.asked len).errored.bus :=
    Traced.Grows.trans _ _ _ (hAsked len)
      ((ControlPipe.grows_errored _).mono fun _ => noSetup_of_transfer)
  cases hReceives with
  | nothing => exact h
  | unread len => exact h.withPipe (hAsked len) (.inl rfl)
  | unparsed packet _ => exact h.withPipe (hAsked _) (.inl rfl)
  | setup packet req _ _ _ _ =>
    have hLoaded : (d.withPipe (d.control.loaded 0 packet)).AddressDue :=
      h.withPipe (hAsked _) (.inl rfl)
    exact hLoaded.of_begun req
  | failed req len _ => exact h.withPipe (hErrored len) (.inr trivial)
  | more req packet _ _ => exact h.withPipe (hAsked _) (.inl rfl)
  | complete req packet _ _ => exact h.withPipe (hAsked _) (.inr trivial)
  | status _ => exact h.withPipe (hAsked 0) (.inr trivial)
  | unexpected _ => exact h.withPipe (hErrored 0) (.inr trivial)

theorem handedOut (h : d.AddressDue) {epSetup : UInt16} {req : Request} {p : ControlPipe B}
    (hReceives : d.control.Receives epSetup (some req) p) : lastSetup p.bus.trace = some req := by
  generalize hFound : some req = found at hReceives
  cases hReceives with
  | setup packet req' _ _ _ _ =>
    have hNoted (p : ControlPipe B) : lastSetup (p.noted req').trace = some req' :=
      lastSetup_append_setup _ _
    rcases (d.control.loaded 0 packet).begun_cases req' with
      ⟨-, hBegun⟩ | ⟨-, hBegun⟩ | ⟨-, hBegun⟩ | ⟨-, hBegun⟩ <;> rw [hBegun] at hFound ⊢
    · cases hFound
    · cases hFound
    · exact hNoted _
    · exact hNoted _
  | complete req' packet hState _ =>
    have hAsked : Traced.Grows NoSetup d.control.bus
        (d.control.asked (d.control.buf.length - d.control.i)).bus := Traced.Grows.single rfl trivial
    exact (lastSetup_eq hAsked).trans (h.data req' hState)
  | _ => cases hFound

end UsbDevice.AddressDue

variable [UsbBus B] [UsbClass C]

structure UsbDevice.Handling (req : Request) (d e : UsbDevice B) : Prop where
  setup : lastSetup e.control.bus.trace = some req
  noData : ∀ req', e.control.state ≠ .dataOut req'
  stale : req.IsStandardOut .setAddress ∨ e.pendingAddress = 0 ∨ Closed e.control.state
  status : e.control.state = .statusIn → e.pendingAddress ≠ 0 →
    req.IsStandardOut .setAddress ∧ req.value.toUInt8 = e.pendingAddress
  trace : Traced.Grows NoAddress d.control.bus e.control.bus
  deviceState : e.deviceState = .addressed →
    d.deviceState = .addressed ∨ req.IsStandardOut .deconfigure ∧ d.deviceState ≠ .default
  default : d.deviceState = .default → e.deviceState = .default ∨ req.IsStandardOut .configure

namespace UsbDevice.Handling

variable {req : Request} {d e e' : UsbDevice B}

omit [UsbBus B] in
theorem addressDue (h : d.Handling req e) : e.AddressDue :=
  ⟨fun hState hPending => ⟨req, h.setup, h.status hState hPending⟩,
    fun req' hState => absurd hState (h.noData req')⟩

omit [UsbBus B] in
theorem withPipe (h : d.Handling req e) {p : ControlPipe B}
    (hSetup : Traced.Grows NoSetup e.control.bus p.bus)
    (hAddress : Traced.Grows NoAddress e.control.bus p.bus)
    (hState : p.state = e.control.state ∨ Closed p.state) : d.Handling req (e.withPipe p) := by
  refine ⟨(lastSetup_eq hSetup).trans h.setup, ?_, ?_, ?_,
    Traced.Grows.trans _ _ _ h.trace hAddress, h.deviceState, h.default⟩
  · rcases hState with hSame | hClosed
    · exact fun req' hData => h.noData req' (hSame.symm.trans hData)
    · exact fun req' hData => (hData ▸ hClosed : Closed (.dataOut req'))
  · rcases hState with hSame | hClosed
    · exact h.stale.imp_right (Or.imp_right fun hBefore => hSame ▸ hBefore)
    · exact .inr (.inr hClosed)
  · rcases hState with hSame | hClosed
    · exact fun hIn => h.status (hSame.symm.trans hIn)
    · exact fun hIn => (hIn ▸ hClosed : Closed .statusIn).elim

theorem answer (h : d.Handling req e) {p : ControlPipe B} (hAnswers : e.control.AnswersIn p) :
    d.Handling req (e.withPipe p) := by
  have hSetup := hAnswers.grows.mono fun _ => noSetup_of_transfer
  have hAddress := hAnswers.grows.mono fun _ hEvent =>
    noAddress_of_receive (ControlPipe.receiveEvent_of_transfer hEvent)
  refine h.withPipe hSetup hAddress ?_
  cases hAnswers with
  | kept buf _ => exact .inl rfl
  | errored buf _ _ => exact .inr trivial
  | transmitted _ hSent => exact .inr (closed_of_transmits hSent.state)

theorem acceptOut (h : d.Handling req e) (hQuirk : UsbBus.quirkSetAddressBeforeStatus B = false)
    (hAddress : UsbBus.quirkSetAddressBeforeStatus B = false →
      req.IsStandardOut .setAddress → e.pendingAddress = req.value.toUInt8)
    {r : Except UsbError Unit} {p : ControlPipe B} (hAccepts : e.control.AcceptsOut r p) :
    d.Handling req (e.withPipe p) := by
  have hSetup := hAccepts.grows.mono fun _ => noSetup_of_transfer
  have hTrace := hAccepts.grows.mono fun _ hEvent =>
    noAddress_of_receive (ControlPipe.receiveEvent_of_transfer hEvent)
  cases hAccepts with
  | unexpected _ => exact h
  | refused _ _ => exact h.withPipe hSetup hTrace (.inl rfl)
  | accepted hState =>
    have hDue : e.pendingAddress ≠ 0 → req.IsStandardOut .setAddress := by
      intro hPending
      rcases h.stale with hReq | hZero | hClosed
      · exact hReq
      · exact absurd hZero hPending
      · exact (hState ▸ hClosed : Closed .completeOut).elim
    refine ⟨(lastSetup_eq hSetup).trans h.setup, fun req' hData => ?_, h.stale.imp_right ?_,
      fun _ hPending => ?_, Traced.Grows.trans _ _ _ h.trace hTrace, h.deviceState, h.default⟩
    · cases hData
    · rintro (hZero | hClosed)
      · exact .inl hZero
      · exact (hState ▸ hClosed : Closed .completeOut).elim
    · exact ⟨hDue hPending, (hAddress hQuirk (hDue hPending)).symm⟩

/-- The steps for a request make only its own address pending. -/
theorem controlStep {allowed : UsbDevice B → Prop} (hLeaves : LeavesStandard C)
    (hQuirk : UsbBus.quirkSetAddressBeforeStatus B = false)
    (hStep : ControlStep B C req allowed e e') (h : d.Handling req e) : d.Handling req e' := by
  cases hStep with
  | foreign hGrows =>
    have hBackground := hGrows.mono fun _ => backgroundEvent_of_foreign
    exact h.withPipe (hBackground.mono fun _ => noSetup_of_background)
      (hBackground.mono fun _ => noAddress_of_background) (.inl rfl)
  | answer hAnswers => exact h.answer hAnswers
  | acceptOut hAddress hAccepts => exact h.acceptOut hQuirk (hAddress hLeaves) hAccepts
  | setHalt stalled _ =>
    exact h.withPipe (Traced.Grows.single rfl trivial) (Traced.Grows.single rfl trivial) (.inl rfl)
  | setRemoteWakeup enabled =>
    exact ⟨h.setup, h.noData, h.stale, h.status, h.trace, h.deviceState, h.default⟩
  | setPendingAddress hReq _ =>
    exact ⟨h.setup, h.noData, .inl hReq, fun _ _ => ⟨hReq, rfl⟩, h.trace, h.deviceState, h.default⟩
  | setAddress _ hTrue _ =>
    rw [hQuirk] at hTrue
    cases hTrue
  | configure hReq _ =>
    exact ⟨h.setup, h.noData, h.stale, h.status, h.trace, nofun, fun _ => .inr hReq⟩
  | deconfigure hReq hState =>
    refine ⟨h.setup, h.noData, h.stale, h.status, h.trace, fun _ => .inr ⟨hReq, fun hDefault => ?_⟩,
      fun hDefault => ?_⟩
    · rcases h.default hDefault with hSame | hConfigure
      · exact hState hSame
      · cases hConfigure.2.symm.trans hReq.2
    · rcases h.default hDefault with hSame | hConfigure
      · exact absurd hSame hState
      · exact .inr hConfigure

end UsbDevice.Handling

namespace UsbDevice

/-- The next poll of `d` completes the status stage of a SET_ADDRESS request for `addr`, which is
the latest SETUP that the pipe has taken up. -/
def OwnStatus (addr : UInt8) (d : UsbDevice B) : Prop :=
  ∃ epOut epIn epSetup d' p req, d.event? = some (.data epOut epIn epSetup, d') ∧
    epIn &&& 1 ≠ 0 ∧ Session.receive epOut epSetup d'.control = .done (.ok none) p ∧
    p.state = .statusIn ∧ lastSetup p.bus.trace = some req ∧ req.IsStandardOut .setAddress ∧
    req.value.toUInt8 = addr

/-- The next poll of `d` hands out a request to deconfigure a device that is not in the default
state. -/
def Deconfigures (d : UsbDevice B) : Prop :=
  ∃ epOut epIn epSetup d' p req, d.event? = some (.data epOut epIn epSetup, d') ∧
    Session.receive epOut epSetup d'.control = .done (.ok (some req)) p ∧
    req.IsStandardOut .deconfigure ∧ d'.deviceState ≠ .default

structure Unset (d e : UsbDevice B) : Prop where
  trace : Traced.Grows NoAddress d.control.bus e.control.bus
  state : e.deviceState = .addressed →
    d.deviceState = .addressed ∨ d.suspendedDeviceState = some .addressed
  remembered : e.suspendedDeviceState = some .addressed →
    d.deviceState = .addressed ∨ d.suspendedDeviceState = some .addressed

/-- What a poll may have done to the address of `d`, when it has led to `e`. -/
inductive Changed (d e : UsbDevice B) : Prop
  | unset (hTrace : Traced.Grows NoAddress d.control.bus e.control.bus)
      (hState : e.deviceState = .addressed → d.deviceState = .addressed ∨
        d.suspendedDeviceState = some .addressed ∨ d.Deconfigures)
  | set (addr : UInt8) (mid after : Traced B) (hOwn : d.OwnStatus addr)
      (hBefore : Traced.Grows NoAddress d.control.bus mid)
      (hSet : after.trace = mid.trace ++ [.setDeviceAddress addr])
      (hAfter : Traced.Grows NoAddress after e.control.bus) (hState : e.deviceState = .addressed)

/-- What holds from the handling of endpoint 0 to the end of the poll. -/
structure Settled (d e : UsbDevice B) : Prop where
  due : e.AddressDue
  changed : d.Changed e

variable {d e : UsbDevice B}

theorem Changed.foreign {e' : UsbDevice B} (h : d.Changed e) (hForeign : Foreign e e') :
    d.Changed e' := by
  obtain ⟨t, hUse, rfl⟩ := hForeign
  have hTrace := hUse.grows.mono fun _ hEvent =>
    noAddress_of_background (backgroundEvent_of_foreign hEvent)
  cases h with
  | unset hBefore hState => exact .unset (Traced.Grows.trans _ _ _ hBefore hTrace) hState
  | set addr mid after hOwn hBefore hSet hAfter hState =>
    exact .set addr mid after hOwn hBefore hSet (Traced.Grows.trans _ _ _ hAfter hTrace) hState

theorem stable_settled (d : UsbDevice B) : Stable d.Settled := fun _ _ h hForeign =>
  ⟨AddressDue.background.stable _ _ h.due hForeign, h.changed.foreign hForeign⟩

theorem Unset.changed (h : d.Unset e) : d.Changed e :=
  .unset h.trace fun hState => (h.state hState).imp_right .inl

omit [UsbBus B] in
theorem unset_refl (d : UsbDevice B) : d.Unset d := ⟨.refl _, .inl, .inr⟩

theorem background_unset (d : UsbDevice B) :
    Background (fun e : UsbDevice B => e.AddressDue ∧ d.Unset e) where
  events e t h hGrows :=
    ⟨AddressDue.background.events e t h.1 hGrows, Traced.Grows.trans _ _ _ h.2.trace
      (hGrows.mono fun _ => noAddress_of_background), h.2.state, h.2.remembered⟩
  resume e state h hRemembered :=
    ⟨AddressDue.background.resume e state h.1 hRemembered, h.2.trace,
      fun hState => h.2.remembered (hRemembered.trans (congrArg some hState)), nofun⟩
  suspend e h hAwake :=
    ⟨AddressDue.background.suspend e h.1 hAwake, h.2.trace, nofun,
      fun hSome => h.2.state (Option.some.inj hSome)⟩
  reset e h :=
    ⟨AddressDue.background.reset e h.1,
      Traced.Grows.trans _ _ _ h.2.trace (Traced.Grows.single rfl trivial), nofun, nofun⟩
  selfPowered e b h :=
    ⟨AddressDue.background.selfPowered e b h.1, h.2.trace, h.2.state, h.2.remembered⟩

end UsbDevice

/-- No poll hands out an OUT request other than SET_ADDRESS while an address is pending. -/
def NoneStale (input : DeviceInput B C) (s : Session B C) : Prop :=
  input = .poll → ∀ epOut epIn epSetup d req p,
    s.device.event? = some (.data epOut epIn epSetup, d) →
    Session.receive epOut epSetup d.control = .done (.ok (some req)) p → req.direction = .out →
    ¬ req.IsStandardOut .setAddress → d.pendingAddress = 0

omit [UsbClass C] in
theorem UsbDevice.AddressDue.handling {s : Session B C} {epOut epIn epSetup : UInt16}
    {d : UsbDevice B} {req : Request} {p : ControlPipe B} (hDue : d.AddressDue)
    (hData : ∀ req, d.control.state = .dataOut req → req.direction = .out)
    (hCondition : NoneStale .poll s)
    (hEvent : s.device.event? = some (.data epOut epIn epSetup, d))
    (hReceive : Session.receive epOut epSetup d.control = .done (.ok (some req)) p) :
    d.Handling req (d.withPipe p) := by
  have hReceives := ControlPipe.Receives.of_receive hReceive
  have hSetup := hDue.handedOut hReceives
  have hState := hReceives.waiting hData
  have hTrace := hReceives.grows.mono fun _ => noAddress_of_receive
  refine ⟨hSetup, fun req' hMore => ?_, ?_, fun hStatus => ?_, hTrace, .inl, .inl⟩
  · rcases hState with ⟨hOut, -⟩ | ⟨hIn, -⟩
    · cases hMore.symm.trans hOut
    · cases hMore.symm.trans hIn
  · by_cases hReq : req.IsStandardOut .setAddress
    · exact .inl hReq
    · rcases hState with ⟨-, hOut⟩ | ⟨hIn, -⟩
      · exact .inr (.inl (hCondition rfl _ _ _ d req p hEvent hReceive hOut hReq))
      · refine .inr (.inr ?_)
        change Closed p.state
        rw [hIn]
        trivial
  · rcases hState with ⟨hOut, -⟩ | ⟨hIn, -⟩
    · cases hStatus.symm.trans hOut
    · cases hStatus.symm.trans hIn

/-- What the handling of endpoint 0 may do to the address. -/
theorem changed_pollControl {s : Session B C} {epOut epIn epSetup : UInt16} {d : UsbDevice B}
    (hLeaves : LeavesStandard C) (hQuirk : UsbBus.quirkSetAddressBeforeStatus B = false)
    (hCondition : NoneStale .poll s) (hEvent : s.device.event? = some (.data epOut epIn epSetup, d))
    (hData : ∀ req, d.control.state = .dataOut req → req.direction = .out)
    (hDue : d.AddressDue) (hUnset : s.device.Unset d) :
    Post True (Session.pollControl epOut epIn epSetup)
      (fun _ t => s.device.Settled t.device) { s with device := d } := by
  have hReceived {found : Option Request} {p : ControlPipe B}
      (hReceive : Session.receive epOut epSetup d.control = .done (.ok found) p) :
      (d.withPipe p).AddressDue ∧ s.device.Unset (d.withPipe p) := by
    have hReceives := ControlPipe.Receives.of_receive hReceive
    have hTrace := hReceives.grows.mono fun _ => noAddress_of_receive
    exact ⟨hDue.receives hReceives, Traced.Grows.trans _ _ _ hUnset.trace hTrace, hUnset.state,
      hUnset.remembered⟩
  refine post_pollControl (fun req p hReceive => ?_)
    (fun p hReceive => ⟨(hReceived hReceive).1, (hReceived hReceive).2.changed⟩)
    fun p hReceive hBit => ?_
  · refine (sessionSteps_dispatch _).mono fun _ t ht => ?_
    have hHandling : d.Handling req t.device := ControlSteps.invariant ht
      (fun _ _ hStep => UsbDevice.Handling.controlStep hLeaves hQuirk hStep)
      (hDue.handling hData hCondition hEvent hReceive)
    refine ⟨hHandling.addressDue, .unset
      (Traced.Grows.trans _ _ _ hUnset.trace hHandling.trace) fun hState => ?_⟩
    rcases hHandling.deviceState hState with hBefore | ⟨hReq, hNot⟩
    · exact (hUnset.state hBefore).imp_right .inl
    · exact .inr (.inr ⟨_, _, _, d, p, req, hEvent, hReceive, hReq, hNot⟩)
  · obtain ⟨hDue', hUnset'⟩ := hReceived hReceive
    refine post_completeIn (fun r q hCompletes => ?_) fun q hCompletes _ hPending => ?_
    · have hTrace := hCompletes.grows.mono fun _ hTransfer =>
        noAddress_of_receive (ControlPipe.receiveEvent_of_transfer hTransfer)
      have hSetup := hCompletes.grows.mono fun _ => noSetup_of_transfer
      refine ⟨hDue'.withPipe hSetup ?_, .unset (Traced.Grows.trans _ _ _ hUnset'.trace hTrace)
        fun hState => (hUnset'.state hState).imp_right .inl⟩
      cases hCompletes with
      | ignored _ => exact .inl rfl
      | transmitted _ hSent _ => exact .inr (quiet_of_closed (closed_of_transmits hSent.state))
      | last _ => exact .inr trivial
      | status _ => exact .inr trivial
    · generalize hTrue : Except.ok true = r at hCompletes
      cases hCompletes with
      | status hState =>
        obtain ⟨req, hSetup, hReq, hValue⟩ := hDue'.status hState hPending
        refine ⟨.of_quiet trivial, .set _ p.bus _ ?_ hUnset'.trace rfl (.refl _) rfl⟩
        exact ⟨_, _, _, d, p, req, hEvent, hBit, hReceive, hState, hSetup, hReq, hValue⟩
      | transmitted _ _ hNot => exact absurd hTrue.symm hNot
      | ignored _ => cases hTrue
      | last _ => cases hTrue

/-- The step from `s` to `t` sets an address only at the end of that address's own status stage, and
the device comes to be addressed by that alone, by the end of a suspension or by a request to
deconfigure it. -/
structure AddressTaken (input : DeviceInput B C) (s t : Session B C) : Prop where
  bus : ∀ addr, .setDeviceAddress addr ∈ t.device.control.bus.trace.drop
      s.device.control.bus.trace.length →
    input = .poll ∧ s.device.OwnStatus addr ∧ t.device.deviceState = .addressed
  state : t.device.deviceState = .addressed → s.device.deviceState = .addressed ∨
    s.device.suspendedDeviceState = some .addressed ∨ s.device.Deconfigures ∨
    ∃ addr, .setDeviceAddress addr ∈ t.device.control.bus.trace.drop
      s.device.control.bus.trace.length

section Taken

omit [UsbBus B] [UsbClass C] in
theorem noAddress_drop {t t' : Traced B} (h : Traced.Grows NoAddress t t') (addr : UInt8) :
    .setDeviceAddress addr ∉ t'.trace.drop t.trace.length := by
  obtain ⟨events, hTrace, hEvents⟩ := h
  rw [hTrace, List.drop_left]
  exact fun hMem => hEvents _ hMem

omit [UsbClass C] in
/-- A poll that changes no more than it may takes the address as described. -/
theorem UsbDevice.Changed.taken {s t : Session B C} (h : s.device.Changed t.device) :
    AddressTaken .poll s t := by
  cases h with
  | unset hTrace hState =>
    refine ⟨fun addr hMem => absurd hMem (noAddress_drop hTrace addr), fun hAddressed => ?_⟩
    rcases hState hAddressed with hBefore | hBefore | hReq
    · exact .inl hBefore
    · exact .inr (.inl hBefore)
    · exact .inr (.inr (.inl hReq))
  | set addr mid after hOwn hBefore hSet hAfter hState =>
    obtain ⟨before, hMid, hNone⟩ := hBefore
    obtain ⟨rest, hEnd, hNone'⟩ := hAfter
    have hNew : t.device.control.bus.trace.drop s.device.control.bus.trace.length =
        before ++ .setDeviceAddress addr :: rest := by
      rw [hEnd, hSet, hMid]
      simp
    refine ⟨fun addr' hMem => ?_, fun _ => .inr (.inr (.inr ⟨addr, ?_⟩))⟩
    · rw [hNew] at hMem
      rcases List.mem_append.mp hMem with hMem | hMem
      · exact (hNone _ hMem).elim
      · rcases List.mem_cons.mp hMem with hEq | hMem
        · cases hEq
          exact ⟨rfl, hOwn, hState⟩
        · exact (hNone' _ hMem).elim
    · rw [hNew]
      exact List.mem_append_right _ List.mem_cons_self

omit [UsbClass C] in
theorem UsbDevice.Unset.taken {s t : Session B C} (h : s.device.Unset t.device)
    (input : DeviceInput B C) : AddressTaken input s t := by
  refine ⟨fun addr hMem => absurd hMem (noAddress_drop h.trace addr), fun hAddressed => ?_⟩
  rcases h.state hAddressed with hBefore | hBefore
  · exact .inl hBefore
  · exact .inr (.inl hBefore)

end Taken

/-- In every run whose polls meet the condition, each step takes an address as described. -/
theorem addressTaken_of_noneStale [UsbBus.Contract B]
    (hQuirk : UsbBus.quirkSetAddressBeforeStatus B = false) (hLeaves : LeavesStandard C)
    {d : UsbDevice B} (hFresh : d.Fresh) {classes : List C} {inputs : List (DeviceInput B C)}
    (hRun : Along DeviceInput.perform NoneStale inputs ⟨d, classes⟩) :
    Stepwise DeviceInput.perform AddressTaken inputs ⟨d, classes⟩ := by
  have hInitial := hFresh.initial
  have hStart : d.WellFormed ∧ d.AddressDue := ⟨hInitial.wellFormed, .of_initial hInitial⟩
  refine stepwise_of_along (I := fun s => s.device.WellFormed ∧ s.device.AddressDue)
    (fun input s hs hCondition => ?_) hStart hRun
  have hBackground := s.device.background_unset
  have hInvariant : s.device.AddressDue ∧ s.device.Unset s.device :=
    ⟨hs.2, UsbDevice.unset_refl _⟩
  have hStep : Post True input.perform
      (fun _ t => t.device.AddressDue ∧ AddressTaken input s t) s := by
    by_cases hInput : input = .poll
    · subst hInput
      have hSettled : Post True (DeviceInput.poll.perform : SessionM B C (Option Bool))
          (fun _ t => s.device.Settled t.device) s :=
        post_then (post_poll_of_background hBackground (UsbDevice.stable_settled _)
          (fun e he => ⟨he.1, he.2.changed⟩) hs.1 hInvariant
          fun epOut epIn epSetup e hEvent he =>
            changed_pollControl hLeaves hQuirk hCondition hEvent
              (background_wellFormed.event hs.1 hEvent).data he.1 he.2) fun _ _ ht => ht
      exact hSettled.mono fun _ t ht => ⟨ht.due, ht.changed.taken⟩
    · apply (post_perform_of_background hBackground hInvariant hInput).mono
      exact fun _ t ht => ⟨ht.1, ht.2.taken _⟩
  exact ((wellFormed_perform hs.1 input).and hStep).mono fun _ _ h => ⟨⟨h.1, h.2.1⟩, h.2.2⟩

/-- The address is set once, and takes effect at the end of its status stage. -/
theorem addressTaken_of_noneStale_five :
    Stepwise DeviceInput.perform AddressTaken [.poll, .poll] (addressingBus.session []) := by
  refine addressTaken_of_noneStale rfl leavesStandard_defaultClass (ScriptBus.fresh_device _)
    ⟨?_, fun r s' hPoll => ⟨?_, fun _ _ _ => trivial⟩⟩
  · rintro - epOut epIn epSetup d req p hEvent - - -
    cases hEvent
    rfl
  · rintro - epOut epIn epSetup d req p hEvent hReceive - -
    have hData : ((DeviceInput.poll.perform (addressingBus.session [])).state?.bind fun t =>
        t.device.event?.map Prod.fst) = some (.data 0 1 0) := by decide
    rw [hPoll] at hData
    dsimp only [Outcome.state?, Option.bind_some] at hData
    rw [hEvent] at hData
    cases hData
    cases hReceive

/-- SET_ADDRESS(5), then SET_CONFIGURATION(1) before its status stage has ended, then the end of a
status stage. -/
def supersededBus : ScriptBus :=
  ⟨[.ok [0x00, 5, 5, 0, 0, 0, 0, 0], .ok [0x00, 9, 1, 0, 0, 0, 0, 0]], [.ok 0, .ok 0],
    [.data 0 0 1, .data 0 0 1, .data 0 1 0]⟩

def supersededSession : Session ScriptBus DefaultClass :=
  (finalState DeviceInput.perform [.poll, .poll] (supersededBus.session [])).get (by decide +kernel)

def lateSession : Session ScriptBus DefaultClass :=
  (DeviceInput.poll.perform supersededSession).state?.get (by decide +kernel)

/-- The address is taken at the end of the status stage of another request. -/
theorem not_forall_addressTaken :
    ¬ ∀ (B C : Type) [UsbBus B] [UsbClass C] [UsbBus.Contract B],
      UsbBus.quirkSetAddressBeforeStatus B = false → LeavesStandard C →
      ∀ d : UsbDevice B, d.Fresh → ∀ (classes : List C) (inputs : List (DeviceInput B C)),
        Stepwise DeviceInput.perform AddressTaken inputs ⟨d, classes⟩ := by
  intro h
  have hRun : Stepwise DeviceInput.perform AddressTaken ([.poll, .poll] ++ [.poll])
      (supersededBus.session []) :=
    h ScriptBus DefaultClass rfl leavesStandard_defaultClass _ (ScriptBus.fresh_device _) [] _
  have hBefore : finalState DeviceInput.perform [.poll, .poll] (supersededBus.session []) =
      some supersededSession := (Option.some_get _).symm
  have hAfter : (DeviceInput.poll.perform supersededSession).state? = some lateSession :=
    (Option.some_get _).symm
  have hTaken : AddressTaken .poll supersededSession lateSession := hRun.last hBefore hAfter
  have hData : supersededSession.device.event?.map (fun event =>
      (event.1, lastSetup event.2.control.bus.trace)) =
      some (.data 0 1 0, some ⟨.out, .standard, .device, 9, 1, 0, 0⟩) := by decide +kernel
  rcases hTaken.state (by decide +kernel) with hState | hState | hReq | ⟨addr, hMem⟩
  · exact absurd hState (by decide +kernel)
  · exact absurd hState (by decide +kernel)
  · obtain ⟨epOut, epIn, epSetup, d, p, req, hEvent, hReceive, -, -⟩ := hReq
    rw [hEvent, Option.map_some] at hData
    obtain ⟨hPoll, -⟩ := Prod.mk.inj (Option.some.inj hData)
    cases hPoll
    cases hReceive
  · obtain ⟨-, ⟨epOut, epIn, epSetup, d, p, req, hEvent, -, hReceive, -, hSetup, hReq, -⟩, -⟩ :=
      hTaken.bus addr hMem
    rw [hEvent, Option.map_some] at hData
    obtain ⟨hPoll, hLast⟩ := Prod.mk.inj (Option.some.inj hData)
    cases hPoll
    cases hReceive
    cases hLast.symm.trans hSetup
    cases hReq.2

end UsbStack
