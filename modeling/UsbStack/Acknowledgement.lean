import UsbStack.Acts

/-! # What a request changes

A request that the device itself answers counts as an act if and only if it is accepted, and it
changes what the host can read back only then.
-/

namespace UsbStack

set_option autoImplicit false

open Foundation Exec

variable {B C : Type} [UsbBus B] [UsbClass C]

section Effects

variable {req : Request} {arm : StandardOut}

def StandardOut.Asks (req : Request) : StandardOut → Prop
  | clearRemoteWakeup => req.recipient = .device ∧ req.request = Request.clearFeature ∧
      req.value = Request.featureDeviceRemoteWakeup
  | clearHalt => req.recipient = .endpoint ∧ req.request = Request.clearFeature ∧
      req.value = Request.featureEndpointHalt
  | setRemoteWakeup => req.recipient = .device ∧ req.request = Request.setFeature ∧
      req.value = Request.featureDeviceRemoteWakeup
  | setHalt => req.recipient = .endpoint ∧ req.request = Request.setFeature ∧
      req.value = Request.featureEndpointHalt
  | setAddress => req.recipient = .device ∧ req.request = Request.setAddress ∧
      1 ≤ req.value ∧ req.value ≤ 127
  | configure => req.recipient = .device ∧ req.request = Request.setConfiguration ∧
      req.value = configurationValue.toUInt16
  | deconfigure => req.recipient = .device ∧ req.request = Request.setConfiguration ∧
      req.value = configurationNone.toUInt16
  | setInterface => req.recipient = .interface ∧ req.request = Request.setInterface
  | other => True

theorem Request.asks_standardOut (req : Request) : req.standardOut.Asks req := by
  unfold Request.standardOut
  iterate 8
    split
    · assumption
  trivial

theorem Request.feature?_of_ne (hSet : req.request ≠ Request.setFeature)
    (hClear : req.request ≠ Request.clearFeature) (recipient : Recipient) (feature : UInt16) :
    req.feature? recipient feature = none := by
  rw [Request.feature?, if_neg hSet, if_neg hClear, ite_self]

def StandardOut.effects : StandardOut → Option Bool × Option Bool × Option UInt16
  | clearRemoteWakeup => (some false, none, none)
  | setRemoteWakeup => (some true, none, none)
  | clearHalt => (none, some false, none)
  | setHalt => (none, some true, none)
  | configure => (none, none, some 1)
  | deconfigure => (none, none, some 0)
  | _ => (none, none, none)

theorem Request.IsStandardOut.effects (h : req.IsStandardOut arm) (hOther : arm ≠ .other) :
    (req.feature? .device Request.featureDeviceRemoteWakeup,
      req.feature? .endpoint Request.featureEndpointHalt, req.configuration?) = arm.effects := by
  have hAsks := req.asks_standardOut
  rw [h.2] at hAsks
  obtain ⟨direction, requestType, recipient, request, value, index, length⟩ := req
  obtain rfl : requestType = .standard := h.1
  cases arm with
  | other => exact absurd rfl hOther
  | setAddress =>
    obtain ⟨rfl, rfl, -⟩ := hAsks
    have hSet : Request.setAddress ≠ Request.setFeature := by decide
    have hClear : Request.setAddress ≠ Request.clearFeature := by decide
    rw [Request.feature?_of_ne hSet hClear, Request.feature?_of_ne hSet hClear]
    rfl
  | setInterface =>
    obtain ⟨rfl, rfl⟩ := hAsks
    rfl
  | _ =>
    obtain ⟨rfl, rfl, rfl⟩ := hAsks
    rfl

end Effects

/-- An event that does not bear on what the host reads back, unless the classes are asked. -/
def Request.Spares (req : Request) (event : Event) : Prop :=
  KeepsAddress event ∧ (req.recipient = .interface ∨ event.act? = none)

/-- No part of the handling of `req` between `d` and `e` bears on what the host reads back. -/
structure Inert (req : Request) (d e : UsbDevice B) : Prop extends
    ControlPipe.SameFrame d.control e.control where
  device : e = d.withPipe e.control
  grows : d.control.epOut.address = .control .out → d.control.epIn.address = .control .in_ →
    Traced.Grows req.Spares d.control.bus e.control.bus
  status : e.control.state = .statusIn → d.control.state = .statusIn

section Inert

variable {req : Request} {acts : List Act} {d e : UsbDevice B}

omit [UsbBus B] in
theorem inert_refl (d : UsbDevice B) : Inert req d d :=
  ⟨⟨rfl, rfl, rfl⟩, rfl, fun _ _ => .refl _, id⟩

omit [UsbBus B] in
theorem inert_trans (d e f : UsbDevice B) (h : Inert req d e) (h' : Inert req e f) :
    Inert req d f := by
  refine ⟨h.toSameFrame.trans h'.toSameFrame, ?_, ?_, fun hState => h.status (h'.status hState)⟩
  · have hDevice := h'.device
    rw [h.device] at hDevice
    exact hDevice
  · intro hOut hIn
    have hOut' : e.control.epOut.address = .control .out := (congrArg _ h.epOut).trans hOut
    have hIn' : e.control.epIn.address = .control .in_ := (congrArg _ h.epIn).trans hIn
    exact .trans _ _ _ (h.grows hOut hIn) (h'.grows hOut' hIn')

theorem spares_control (dir : UsbDirection) (b : Bool) :
    req.Spares (.setStalled (.control dir) b) := by
  refine ⟨trivial, .inr ?_⟩
  rw [Event.act?, if_pos (EndpointAddress.index_control dir)]

theorem inert_errored (d : UsbDevice B) : Inert req d (d.withPipe d.control.errored) := by
  refine ⟨⟨rfl, rfl, rfl⟩, rfl, fun hOut hIn => ?_, fun hState => ?_⟩
  · have hFirst : Traced.Grows req.Spares d.control.bus
        (d.control.bus.stalling d.control.epOut.address true) :=
      .single rfl (by rw [hOut]; exact spares_control .out true)
    refine .trans _ _ _ hFirst (.single rfl ?_)
    rw [hIn]
    exact spares_control .in_ true
  · cases hState

theorem inert_answersIn {p : ControlPipe B} (h : d.control.AnswersIn p) :
    Inert req d (d.withPipe p) := by
  cases h with
  | kept buf hLength => exact ⟨⟨rfl, rfl, hLength⟩, rfl, fun _ _ => .refl _, id⟩
  | errored buf hLength _ =>
    have hErrored : Inert req (d.withPipe { d.control with buf := buf })
        (d.withPipe ({ d.control with buf := buf } : ControlPipe B).errored) :=
      inert_errored (d.withPipe { d.control with buf := buf })
    exact ⟨⟨rfl, rfl, hLength⟩, rfl, hErrored.grows, hErrored.status⟩
  | transmitted _ hSent =>
    refine ⟨hSent.toSameFrame, rfl, fun _ _ => ?_, fun hState => ?_⟩
    · obtain ⟨chunk, hBus⟩ := hSent.bus
      change Traced.Grows req.Spares d.control.bus p.bus
      rw [hBus]
      exact .single rfl ⟨trivial, .inr rfl⟩
    · have hSends := hSent.state
      change p.state = _ at hState
      rw [hState] at hSends
      exact hSends.elim

theorem inert_foreign (hInterface : req.recipient = .interface) (h : Foreign d e) :
    Inert req d e := by
  obtain ⟨t, hUse, rfl⟩ := h
  refine ⟨⟨rfl, rfl, rfl⟩, rfl, fun _ _ => ?_, id⟩
  exact hUse.grows.mono fun _ hEvent =>
    ⟨keepsAddress_of_background (backgroundEvent_of_foreign hEvent), .inl hInterface⟩

omit [UsbClass C] in
theorem inert_onPipe {m : PipeM B Unit}
    (hm : ∀ p r q, m p = .done r q → ControlPipe.AnswersIn p q) :
    Within (OnDevices (Inert req)) (Session.onPipe m : SessionM B C Unit) := by
  apply within_onDevice
  intro d
  rw [UsbDevice.onPipe, post_zoom, post_true_iff]
  intro r q hDone
  exact inert_answersIn (hm _ _ _ hDone)

omit [UsbClass C] in
theorem inert_reject : Within (OnDevices (Inert req)) (Session.reject : SessionM B C Unit) :=
  inert_onPipe fun _ _ _ => ControlPipe.answersIn_of_reject

omit [UsbClass C] in
theorem inert_acceptWith (data : List UInt8) :
    Within (OnDevices (Inert req)) (Session.acceptWith data : SessionM B C Unit) :=
  inert_onPipe fun _ _ _ => ControlPipe.answersIn_of_acceptIn (.copy data)

omit [UsbBus B] [UsbClass C] in
theorem onInert_refl (s : Session B C) : OnDevices (Inert req) s s := inert_refl s.device

omit [UsbBus B] [UsbClass C] in
theorem onInert_trans (s t u : Session B C) (h : OnDevices (Inert req) s t)
    (h' : OnDevices (Inert req) t u) : OnDevices (Inert req) s u := inert_trans _ _ _ h h'

omit [UsbClass C] in
theorem inert_firstClass (hInterface : req.recipient = .interface) {α : Type}
    {f : Nat → C → DeviceM B (Option α × C)} (hf : ∀ index cls, Within Foreign (f index cls)) :
    Within (OnDevices (Inert req)) (Session.firstClass f) :=
  within_firstClass inert_refl inert_trans fun index cls =>
    (hf index cls).mono fun _ _ => inert_foreign hInterface

theorem Request.recipient_of_standardIn (h : req.standardIn = .interface) :
    req.recipient = .interface := by
  unfold Request.standardIn at h
  iterate 5
    split at h
    · cases h
  split at h
  · rename_i hFields
    exact hFields.1
  · cases h

theorem inert_standardControlIn :
    Within (OnDevices (Inert req)) (Session.standardControlIn req : SessionM B C Unit) := by
  refine within_bind onInert_trans (within_get onInert_refl) fun s => ?_
  cases hArm : req.standardIn with
  | deviceStatus => exact inert_acceptWith _
  | interfaceStatus => exact inert_acceptWith _
  | endpointStatus =>
    exact within_bind onInert_trans (fun t => onInert_refl t) fun _ => inert_acceptWith _
  | descriptor =>
    apply inert_onPipe
    intro p r q hDone
    rw [getDescriptor] at hDone
    cases hWriter : descriptorWriter s.device.config s.classes req with
    | none =>
      rw [hWriter] at hDone
      exact ControlPipe.answersIn_of_reject hDone
    | some f =>
      rw [hWriter] at hDone
      exact ControlPipe.answersIn_of_acceptIn
        (acceptWriterFn f (keepsLength_descriptorWriter hWriter)) hDone
  | configuration => exact inert_acceptWith _
  | interface =>
    refine within_ite inert_reject ?_
    have hInterface := Request.recipient_of_standardIn hArm
    refine within_bind onInert_trans (inert_firstClass hInterface fun index cls => ?_) fun _ =>
      inert_acceptWith _
    exact foreign_onBus (within_callClass _ _ index cls)
  | other => exact within_pure onInert_refl _

omit [UsbBus B] [UsbClass C] in
theorem actsBetween_eq {u v : Session B C} {events : List Event}
    (hTrace : v.device.control.bus.trace = u.device.control.bus.trace ++ events) :
    actsBetween u v = events.filterMap Event.act? := by
  rw [actsBetween, hTrace, List.drop_left]

theorem filter_spared {events : List Event} (hEvents : ∀ event ∈ events, req.Spares event) :
    (events.filterMap Event.act?).filter (Act.counts req) = events.filterMap Event.act? := by
  apply List.filter_eq_self.mpr
  intro act hAct
  obtain ⟨event, hEvent, hSome⟩ := List.mem_filterMap.mp hAct
  rcases (hEvents event hEvent).2 with hInterface | hNone
  · exact decide_eq_true (.inl hInterface)
  · rw [hNone] at hSome
    cases hSome

omit [UsbBus B] [UsbClass C] in
theorem Inert.tracks {u v : Session B C} (h : Inert req u.device v.device)
    (hTracks : u.device.Tracks acts) (hOut : u.device.control.epOut.address = .control .out)
    (hIn : u.device.control.epIn.address = .control .in_)
    (hStatus : u.device.control.state ≠ .statusIn) :
    v.device.Tracks (acts ++ dispatchActs req u v) := by
  obtain ⟨events, hTrace, hEvents⟩ := h.grows hOut hIn
  have hState : v.device.control.state ≠ .statusIn := fun hState => hStatus (h.status hState)
  rw [dispatchActs, actsBetween_eq hTrace, if_neg hState, List.append_nil, filter_spared hEvents,
    h.device]
  exact hTracks.withPipe hTrace fun event hEvent => (hEvents event hEvent).1

end Inert

def UsbDevice.acknowledged (d : UsbDevice B) : UsbDevice B :=
  d.withPipe { d.control.offered [] with state := .statusIn }

/-- The device has done what `req` asks for, but has not accepted it. -/
structure UsbDevice.Took (req : Request) (acts : List Act) (d : UsbDevice B) : Prop where
  wakeup : d.remoteWakeupEnabled =
    (req.feature? .device Request.featureDeviceRemoteWakeup).getD (wakeup acts)
  halted : ∀ addr, addr.index ≠ 0 → stalled addr d.control.bus.trace =
    if req.endpointAddress = addr then
      (req.feature? .endpoint Request.featureEndpointHalt).getD (halted addr acts)
    else halted addr acts
  configured : decide (d.underlying = .configured) =
    (req.configuration?.map fun value => decide (value = 1)).getD (configured acts)
  remembered : d.deviceState ≠ .suspend → d.suspendedDeviceState = none

section Acknowledged

variable {req : Request} {arm : StandardOut} {acts : List Act} {d : UsbDevice B}

theorem UsbDevice.Took.acknowledged (h : d.Took req acts) :
    d.acknowledged.Tracks (acts ++ [.accepted req]) where
  wakeup := by
    rw [UsbStack.wakeup, List.foldl_append]
    exact h.wakeup
  halted addr hAddr := by
    rw [UsbStack.halted, List.foldl_append]
    exact (stalled_append addr d.control.bus.trace _).trans (h.halted addr hAddr)
  configured := by
    rw [UsbStack.configured, List.foldl_append]
    exact h.configured
  remembered := h.remembered

omit [UsbBus B] in
theorem UsbDevice.took_of_effects (hReq : req.IsStandardOut arm) (hOther : arm ≠ .other)
    {wake halt : Option Bool} {value : Option UInt16} (hArm : arm.effects = (wake, halt, value))
    (hWakeup : d.remoteWakeupEnabled = wake.getD (wakeup acts))
    (hHalted : ∀ addr, addr.index ≠ 0 → stalled addr d.control.bus.trace =
      if req.endpointAddress = addr then halt.getD (halted addr acts) else halted addr acts)
    (hConfigured : decide (d.underlying = .configured) =
      (value.map fun value => decide (value = 1)).getD (configured acts))
    (hRemembered : d.deviceState ≠ .suspend → d.suspendedDeviceState = none) : d.Took req acts := by
  obtain ⟨hWake, hRest⟩ := Prod.mk.inj ((hReq.effects hOther).trans hArm)
  obtain ⟨hHalt, hValue⟩ := Prod.mk.inj hRest
  refine ⟨?_, fun addr hAddr => ?_, ?_, hRemembered⟩
  · rw [hWake]
    exact hWakeup
  · rw [hHalt]
    exact hHalted addr hAddr
  · rw [hValue]
    exact hConfigured

omit [UsbBus B] in
theorem UsbDevice.Tracks.unhalted (h : d.Tracks acts) (addr : EndpointAddress)
    (hAddr : addr.index ≠ 0) : stalled addr d.control.bus.trace =
      if req.endpointAddress = addr then (none : Option Bool).getD (UsbStack.halted addr acts)
      else UsbStack.halted addr acts := (h.halted addr hAddr).trans (ite_self _).symm

omit [UsbBus B] in
theorem UsbDevice.Tracks.took (h : d.Tracks acts) (hReq : req.IsStandardOut arm)
    (hOther : arm ≠ .other) (hArm : arm.effects = (none, none, none)) : d.Took req acts :=
  took_of_effects hReq hOther hArm h.wakeup h.unhalted h.configured h.remembered

omit [UsbBus B] in
theorem UsbDevice.Tracks.tookWakeup (h : d.Tracks acts) (hReq : req.IsStandardOut arm)
    (hOther : arm ≠ .other) {b : Bool} (hArm : arm.effects = (some b, none, none)) :
    ({ d with remoteWakeupEnabled := b } : UsbDevice B).Took req acts :=
  took_of_effects hReq hOther hArm rfl h.unhalted h.configured h.remembered

theorem UsbDevice.Tracks.tookHalt (h : d.Tracks acts) (hReq : req.IsStandardOut arm)
    (hOther : arm ≠ .other) {b : Bool} (hArm : arm.effects = (none, some b, none)) :
    (d.withBus (d.control.bus.stalling req.endpointAddress b)).Took req acts := by
  refine took_of_effects hReq hOther hArm h.wakeup (fun addr hAddr => ?_) h.configured h.remembered
  rw [← h.halted addr hAddr]
  exact stalled_append addr d.control.bus.trace _

omit [UsbBus B] in
theorem UsbDevice.Tracks.tookConfiguration (h : d.Tracks acts) (hReq : req.IsStandardOut arm)
    (hOther : arm ≠ .other) {value : UInt16} (hArm : arm.effects = (none, none, some value))
    (hAwake : d.deviceState ≠ .suspend) {state : UsbDeviceState}
    (hState : decide (state = .configured) = decide (value = 1)) :
    ({ d with deviceState := state } : UsbDevice B).Took req acts := by
  have hNone := h.remembered hAwake
  refine took_of_effects hReq hOther hArm h.wakeup h.unhalted ?_ fun _ => hNone
  change decide (d.suspendedDeviceState.getD state = .configured) = _
  rw [hNone]
  exact hState

omit [UsbBus B] in
theorem UsbDevice.Tracks.tookAddress (h : d.Tracks acts) (hReq : req.IsStandardOut .setAddress)
    (hAwake : d.deviceState ≠ .suspend) {t : Traced B} {addr : UInt8}
    (hTrace : t.trace = d.control.bus.trace ++ [.setDeviceAddress addr]) :
    ({ d.withBus t with deviceState := .addressed } : UsbDevice B).Took req (acts ++ [.address]) := by
  have hTracks : ({ d.withBus t with deviceState := .addressed } : UsbDevice B).Tracks
      (acts ++ [.address]) := by
    refine ⟨?_, fun addr' hAddr => ?_, ?_, fun _ => h.remembered hAwake⟩
    · rw [UsbStack.wakeup, List.foldl_append]
      exact h.wakeup
    · rw [UsbStack.halted, List.foldl_append]
      change stalled addr' t.trace = _
      rw [hTrace]
      exact (stalled_append addr' d.control.bus.trace _).trans (h.halted addr' hAddr)
    · have hUnderlying : d.suspendedDeviceState.getD .addressed = .addressed := by
        rw [h.remembered hAwake]
        rfl
      rw [UsbStack.configured, List.foldl_append]
      change decide (d.suspendedDeviceState.getD .addressed = .configured) = _
      rw [hUnderlying]
      rfl
  exact hTracks.took hReq StandardOut.noConfusion rfl

end Acknowledged

section Answer

variable {req : Request} {arm : StandardOut} {acts : List Act} {s t u : Session B C}

omit [UsbBus B] [UsbClass C] in
theorem refused_of_grows {P : Event → Prop} {addr : EndpointAddress} {t t' : Traced B}
    (h : Traced.Grows P t t') (hNone : refused addr t'.trace = []) : refused addr t.trace = [] := by
  obtain ⟨events, hTrace, -⟩ := h
  rw [hTrace, refused_append] at hNone
  exact (List.append_eq_nil_iff.mp hNone).1

/-- The request is accepted, if the bus takes the status packet, and counts as an act. -/
def Accounted (req : Request) (acts : List Act) (u v : Session B C) : Prop :=
  refused (.control .in_) v.device.control.bus.trace = [] →
    v.device.Tracks (acts ++ dispatchActs req u v) ∧
      v.device.control.waitingForResponse = false

omit [UsbClass C] in
/-- Accepting a request counts as an act if the bus takes the status packet. -/
theorem post_accept_accounted {events : List Event}
    (hTrace : s.device.control.bus.trace = u.device.control.bus.trace ++ events)
    (hState : s.device.control.state = .completeOut)
    (hIn : s.device.control.epIn.address = .control .in_)
    (hTook : s.device.Took req (acts ++ (events.filterMap Event.act?).filter (Act.counts req))) :
    Post True Session.accept (fun _ v => Accounted req acts u v) s := by
  rw [Session.accept, Session.onPipe, Session.onDevice, post_zoom, UsbDevice.onPipe, post_zoom,
    post_true_iff]
  intro r q hDone hWritten
  rw [ControlPipe.acceptOut_completeOut _ hState] at hDone
  split at hDone
  · cases hDone
    have hAfter : s.device.acknowledged.control.bus.trace = u.device.control.bus.trace ++
        (events ++ [.write (.control .in_) []
          (UsbBus.write s.device.control.bus.bus (.control .in_) []).1]) := by
      rw [← List.append_assoc, ← hTrace, ← hIn]
      rfl
    have hActs : actsBetween u { s with device := s.device.acknowledged } =
        events.filterMap Event.act? := by
      rw [actsBetween_eq hAfter, List.filterMap_append]
      exact List.append_nil _
    refine ⟨?_, rfl⟩
    change s.device.acknowledged.Tracks
      (acts ++ dispatchActs req u { s with device := s.device.acknowledged })
    have hStatus : s.device.acknowledged.control.state = .statusIn := rfl
    rw [dispatchActs, hActs]
    dsimp only
    rw [if_pos hStatus, ← List.append_assoc]
    exact hTook.acknowledged
  · rename_i e hWrite
    cases hDone
    have hRefused : refused (.control .in_) (s.device.control.offered []).bus.trace =
        refused (.control .in_) s.device.control.bus.trace ++ [[]] := by
      rw [hIn] at hWrite
      change refused _ (s.device.control.bus.trace ++ [.write s.device.control.epIn.address []
        (UsbBus.write s.device.control.bus.bus s.device.control.epIn.address []).1]) = _
      rw [refused_append, hIn, hWrite]
      rfl
    change refused (.control .in_) (s.device.control.offered []).bus.trace = [] at hWritten
    rw [hRefused] at hWritten
    exact absurd (List.append_eq_nil_iff.mp hWritten).2 (List.cons_ne_nil _ _)

def Settled (req : Request) (acts : List Act) (u v : Session B C) : Prop :=
  Inert req u.device v.device ∨ Accounted req acts u v

omit [UsbClass C] in
theorem post_accept_quiet (hControl : s.device.control = u.device.control)
    (hState : u.device.control.state = .completeOut)
    (hIn : u.device.control.epIn.address = .control .in_) (hTook : s.device.Took req acts) :
    Post True Session.accept (fun _ v => Settled req acts u v) s := by
  rw [← hControl] at hState hIn
  have hTrace : s.device.control.bus.trace = u.device.control.bus.trace ++ [] := by
    rw [hControl, List.append_nil]
  apply (post_accept_accounted hTrace hState hIn ?_).mono
  · exact fun _ _ => Or.inr
  · rw [List.filterMap_nil, List.filter_nil, List.append_nil]
    exact hTook

omit [UsbClass C] in
theorem post_setHalt_accounted (hTracks : u.device.Tracks acts)
    (hState : u.device.control.state = .completeOut)
    (hIn : u.device.control.epIn.address = .control .in_) (hReq : req.IsStandardOut arm)
    (hOther : arm ≠ .other) {b : Bool} (hArm : arm.effects = (none, some b, none))
    (hRecipient : req.recipient ≠ .interface) :
    Post True (do
      Session.setHalt req b
      Session.accept) (fun _ v => Settled req acts u v) u := by
  have hOwn : ([Event.setStalled req.endpointAddress b].filterMap Event.act?).filter
      (Act.counts req) = [] := by
    apply List.filter_eq_nil_iff.mpr
    intro act hAct hCounts
    have hHalt : act.isHalt = true := by
      refine isHalt_of_mem (fun event hEvent => ?_) act hAct
      rw [List.mem_singleton.mp hEvent]
      trivial
    rcases of_decide_eq_true hCounts with hInterface | hNot
    · exact hRecipient hInterface
    · exact hNot hHalt
  have hAccept : Post True Session.accept (fun _ v => Accounted req acts u v)
      { u with device := u.device.withBus (u.device.control.bus.stalling req.endpointAddress b) } := by
    refine post_accept_accounted
      (show _ = _ ++ [Event.setStalled req.endpointAddress b] from rfl) hState hIn ?_
    rw [hOwn, List.append_nil]
    exact hTracks.tookHalt hReq hOther hArm
  exact hAccept.mono fun _ _ => Or.inr

omit [UsbClass C] in
theorem post_setAddress_accounted (hTracks : u.device.Tracks acts)
    (hAwake : u.device.deviceState ≠ .suspend) (hState : u.device.control.state = .completeOut)
    (hIn : u.device.control.epIn.address = .control .in_) (hReq : req.IsStandardOut .setAddress) :
    Post True (do
      Session.setAddress req.value.toUInt8
      Session.accept) (fun _ v => Settled req acts u v) u := by
  rw [Session.setAddress]
  by_cases hQuirk : UsbBus.quirkSetAddressBeforeStatus B = true
  · rw [if_pos hQuirk]
    have hAccept : Post True Session.accept (fun _ v => Accounted req acts u v)
        { u with device := { u.device.withBus
          ⟨UsbBus.setDeviceAddress u.device.control.bus.bus req.value.toUInt8,
            u.device.control.bus.trace ++ [.setDeviceAddress req.value.toUInt8]⟩ with
            deviceState := .addressed } } := by
      have hCounts : Act.counts req .address = true := decide_eq_true (.inr Bool.noConfusion)
      have hOwn : ([Event.setDeviceAddress req.value.toUInt8].filterMap Event.act?).filter
          (Act.counts req) = [.address] := List.filter_cons_of_pos hCounts
      refine post_accept_accounted
        (show _ = _ ++ [Event.setDeviceAddress req.value.toUInt8] from rfl) hState hIn ?_
      rw [hOwn]
      exact hTracks.tookAddress hReq hAwake rfl
    exact hAccept.mono fun _ _ => Or.inr
  · rw [if_neg hQuirk]
    have hTook : u.device.Took req acts := hTracks.took hReq StandardOut.noConfusion rfl
    have hPending :
        ({ u.device with pendingAddress := req.value.toUInt8 } : UsbDevice B).Took req acts :=
      ⟨hTook.wakeup, hTook.halted, hTook.configured, hTook.remembered⟩
    exact post_accept_quiet
      (s := { u with device := { u.device with pendingAddress := req.value.toUInt8 } })
      rfl hState hIn hPending

/-- SET_INTERFACE changes nothing of the device itself before it is answered. -/
theorem post_setInterface_accounted (hTracks : u.device.Tracks acts)
    (hState : u.device.control.state = .completeOut)
    (hOut : u.device.control.epOut.address = .control .out)
    (hIn : u.device.control.epIn.address = .control .in_) (hReq : req.IsStandardOut .setInterface) :
    Post True (Session.setInterface req) (fun _ v => Settled req acts u v) u := by
  have hAsks := req.asks_standardOut
  rw [hReq.2] at hAsks
  unfold Session.setInterface
  split
  · exact (inert_reject u).mono fun _ _ => Or.inl
  rw [post_bind]
  refine Post.mono (within_firstClass foreign_refl foreign_trans (fun index cls => ?_) u) ?_
  · exact within_bind foreign_trans (foreign_onBus (within_callClass _ _ index cls)) fun _ =>
      within_pure foreign_refl _
  intro r t hForeign
  have hInert : Inert req u.device t.device := inert_foreign hAsks.1 hForeign
  obtain ⟨bus, hUse, hDevice⟩ := hForeign
  have hAccept : Post True Session.accept (fun _ v => Settled req acts u v) t := by
    obtain ⟨events, hTrace, hEvents⟩ := hInert.grows hOut hIn
    have hAfter : t.device.Tracks (acts ++ events.filterMap Event.act?) := by
      rw [hInert.device]
      exact hTracks.withPipe hTrace fun event hEvent => (hEvents event hEvent).1
    apply (post_accept_accounted hTrace ?_ ?_ ?_).mono
    · exact fun _ _ => Or.inr
    · rw [hDevice]
      exact hState
    · rw [hDevice]
      exact hIn
    · rw [filter_spared hEvents]
      exact hAfter.took hReq StandardOut.noConfusion rfl
  cases r with
  | error e => exact .inl hInert
  | ok found =>
    cases found with
    | some v => exact hAccept
    | none =>
      dsimp only
      split
      · exact hAccept
      · exact (inert_reject t).mono fun _ v hRejected => .inl (inert_trans _ _ _ hInert hRejected)

/-- Each arm of the handler of OUT requests accounts for what it does. -/
theorem post_standardControlOut_accounted (hReq : req.requestType = .standard)
    (hTracks : u.device.Tracks acts) (hAwake : u.device.deviceState ≠ .suspend)
    (hState : u.device.control.state = .completeOut)
    (hOut : u.device.control.epOut.address = .control .out)
    (hIn : u.device.control.epIn.address = .control .in_) :
    Post True (Session.standardControlOut req) (fun _ v => Settled req acts u v) u := by
  have hAsks := req.asks_standardOut
  rw [Session.standardControlOut, post_bind, post_get]
  dsimp only
  cases hArm : req.standardOut with
  | clearRemoteWakeup =>
    exact post_accept_quiet (s := { u with device := { u.device with remoteWakeupEnabled := false } })
      rfl hState hIn (hTracks.tookWakeup ⟨hReq, hArm⟩ StandardOut.noConfusion rfl)
  | setRemoteWakeup =>
    exact post_accept_quiet (s := { u with device := { u.device with remoteWakeupEnabled := true } })
      rfl hState hIn (hTracks.tookWakeup ⟨hReq, hArm⟩ StandardOut.noConfusion rfl)
  | clearHalt =>
    rw [hArm] at hAsks
    refine post_setHalt_accounted hTracks hState hIn ⟨hReq, hArm⟩ StandardOut.noConfusion rfl ?_
    rw [hAsks.1]
    exact Recipient.noConfusion
  | setHalt =>
    rw [hArm] at hAsks
    refine post_setHalt_accounted hTracks hState hIn ⟨hReq, hArm⟩ StandardOut.noConfusion rfl ?_
    rw [hAsks.1]
    exact Recipient.noConfusion
  | setAddress => exact post_setAddress_accounted hTracks hAwake hState hIn ⟨hReq, hArm⟩
  | configure =>
    exact post_accept_quiet (s := { u with device := { u.device with deviceState := .configured } })
      rfl hState hIn (hTracks.tookConfiguration ⟨hReq, hArm⟩ StandardOut.noConfusion rfl hAwake rfl)
  | deconfigure =>
    dsimp only
    by_cases hDefault : u.device.deviceState = .default
    · have hTook : ({ u.device with deviceState := .default } : UsbDevice B).Took req acts :=
        hTracks.tookConfiguration ⟨hReq, hArm⟩ StandardOut.noConfusion rfl hAwake rfl
      rw [← hDefault] at hTook
      rw [when_of_false (not_not.mpr hDefault)]
      exact post_accept_quiet (s := u) rfl hState hIn hTook
    · rw [when_of_true hDefault]
      exact post_accept_quiet (s := { u with device := { u.device with deviceState := .addressed } })
        rfl hState hIn
        (hTracks.tookConfiguration ⟨hReq, hArm⟩ StandardOut.noConfusion rfl hAwake rfl)
  | setInterface => exact post_setInterface_accounted hTracks hState hOut hIn ⟨hReq, hArm⟩
  | other => exact (inert_reject u).mono fun _ _ => Or.inl

omit [UsbClass C] in
theorem post_reject_accounted (h : Settled req acts u t)
    (hWaiting : t.device.control.waitingForResponse = true) :
    Post True Session.reject (fun _ v => refused (.control .in_) v.device.control.bus.trace = [] →
      Inert req u.device v.device) t := by
  have hGrows : Within (OnDevices fun d e : UsbDevice B =>
      Traced.Grows ControlPipe.TransferEvent d.control.bus e.control.bus)
      (Session.reject : SessionM B C Unit) := by
    apply within_onDevice
    intro d
    rw [UsbDevice.onPipe, post_zoom, post_true_iff]
    intro r q hDone
    exact (ControlPipe.answersIn_of_reject hDone).grows
  apply ((inert_reject t).and (hGrows t)).mono
  rintro r v ⟨hRejected, hGrown⟩ hWritten
  rcases h with hInert | hAccounted
  · exact inert_trans _ _ _ hInert hRejected
  · have hAnswered := (hAccounted (refused_of_grows hGrown hWritten)).2
    rw [hWaiting] at hAnswered
    cases hAnswered

/-- The device keeps track of the acts through its own answer to a request. -/
theorem post_answerSelf_tracks (hTracks : u.device.Tracks acts)
    (hAwake : u.device.deviceState ≠ .suspend) (hAwaits : u.device.control.Awaits req)
    (hOut : u.device.control.epOut.address = .control .out)
    (hIn : u.device.control.epIn.address = .control .in_) :
    Post True (answerSelf req) (fun _ v => refused (.control .in_) v.device.control.bus.trace = [] →
      v.device.Tracks (acts ++ dispatchActs req u v)) u := by
  have hStatus : u.device.control.state ≠ .statusIn := by
    intro hState
    have hWaiting := u.device.control.waitingForResponse_iff.mp hAwaits.waiting
    rw [hState] at hWaiting
    rcases hWaiting with hCase | ⟨req', hCase⟩ <;> cases hCase
  have hHandled : Post True (when (req.requestType = .standard) (standardControl req))
      (fun _ t => Settled req acts u t) u := by
    refine post_when (fun hStandard => ?_) fun _ => .inl (inert_refl _)
    unfold standardControl
    unfold ControlPipe.Awaits at hAwaits
    cases hDirection : req.direction <;> rw [hDirection] at hAwaits
    · exact post_standardControlOut_accounted hStandard hTracks hAwake hAwaits hOut hIn
    · exact (inert_standardControlIn u).mono fun _ _ => Or.inl
  have hSettled (t : Session B C) (h : Settled req acts u t)
      (hWritten : refused (.control .in_) t.device.control.bus.trace = []) :
      t.device.Tracks (acts ++ dispatchActs req u t) := by
    rcases h with hInert | hAccounted
    · exact hInert.tracks hTracks hOut hIn hStatus
    · exact (hAccounted hWritten).1
  rw [answerSelf, post_bind]
  apply hHandled.mono
  intro r t ht
  cases r with
  | error e => exact hSettled t ht
  | ok v =>
    rw [post_bind, post_get]
    refine post_when (fun hWaiting => ?_) fun _ => hSettled t ht
    exact (post_reject_accounted ht hWaiting).mono fun _ v hInert hWritten =>
      (hInert hWritten).tracks hTracks hOut hIn hStatus

end Answer

end UsbStack
