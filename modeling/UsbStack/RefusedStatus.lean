import UsbStack.AlternateSettings
import UsbStack.OneAnswer

/-! # Requests whose status packet is refused

The standard handler of OUT requests first does what the request asks for and then offers the status
packet. When the bus refuses the packet, what has been done stays.
-/

namespace UsbStack

set_option autoImplicit false

open Foundation Exec

/-- The address that the bus was given last. A bus reset takes it away. -/
def deviceAddress (trace : List Event) : UInt8 :=
  trace.foldl (fun now event =>
    match event with
    | .reset => 0
    | .setDeviceAddress addr => addr
    | _ => now) 0

/-- What standard OUT requests change. -/
structure Settings where
  deviceState : UsbDeviceState
  remoteWakeupEnabled : Bool
  pendingAddress : UInt8
  stalled : EndpointAddress → Bool
  address : UInt8

def Request.carryOut (quirk : Bool) (req : Request) (now : Settings) : Settings :=
  match req.standardOut with
  | .clearRemoteWakeup => { now with remoteWakeupEnabled := false }
  | .clearHalt => { now with stalled := Function.update now.stalled req.endpointAddress false }
  | .setRemoteWakeup => { now with remoteWakeupEnabled := true }
  | .setHalt => { now with stalled := Function.update now.stalled req.endpointAddress true }
  | .setAddress =>
    if quirk then { now with deviceState := .addressed, address := req.value.toUInt8 }
    else { now with pendingAddress := req.value.toUInt8 }
  | .configure => { now with deviceState := .configured }
  | .deconfigure => if now.deviceState = .default then now else { now with deviceState := .addressed }
  | .setInterface | .other => now

/-- What carrying out a standard request does on the bus. -/
def Request.ownEvents (quirk : Bool) (req : Request) : List Event :=
  match req.standardOut with
  | .clearHalt => [.setStalled req.endpointAddress false]
  | .setHalt => [.setStalled req.endpointAddress true]
  | .setAddress => if quirk then [.setDeviceAddress req.value.toUInt8] else []
  | .clearRemoteWakeup | .setRemoteWakeup | .configure | .deconfigure | .setInterface | .other => []

def LeavingEvent (event : Event) : Prop :=
  ForeignEvent event ∨ ∃ addr data e, event = .write addr data (.error e)

variable {B C α : Type}

def UsbDevice.settings (d : UsbDevice B) : Settings where
  deviceState := d.deviceState
  remoteWakeupEnabled := d.remoteWakeupEnabled
  pendingAddress := d.pendingAddress
  stalled := fun addr => UsbStack.stalled addr d.control.bus.trace
  address := deviceAddress d.control.bus.trace

theorem deviceAddress_append_setDeviceAddress (trace : List Event) (addr : UInt8) :
    deviceAddress (trace ++ [.setDeviceAddress addr]) = addr := by
  rw [deviceAddress, List.foldl_append]
  rfl

theorem deviceAddress_of_leaving {t u : Traced B} (h : Traced.Grows LeavingEvent t u) :
    deviceAddress u.trace = deviceAddress t.trace := by
  refine h.foldl_eq (fun now event hEvent => ?_) 0
  rcases hEvent with hForeign | ⟨addr, data, e, rfl⟩
  · cases event <;> first | rfl | exact hForeign.elim
  · rfl

/-- What asked classes do changes the stalls alone. -/
theorem UsbDevice.settings_leaving {d : UsbDevice B} {t : Traced B}
    (h : Traced.Grows LeavingEvent d.control.bus t) :
    (d.withBus t).settings = { d.settings with stalled := fun addr => UsbStack.stalled addr t.trace } :=
  congrArg (Settings.mk _ _ _ _) (deviceAddress_of_leaving h)

variable [UsbBus B]

theorem UsbDevice.settings_offered (d : UsbDevice B) (data : List UInt8) :
    (d.withPipe (d.control.offered data)).settings = d.settings := by
  have hStalled (addr : EndpointAddress) :
      UsbStack.stalled addr (d.control.offered data).bus.trace =
        UsbStack.stalled addr d.control.bus.trace := by
    rw [ControlPipe.offered, Traced.trace_writing, UsbStack.stalled, List.foldl_append]
    rfl
  have hAddress : deviceAddress (d.control.offered data).bus.trace =
      deviceAddress d.control.bus.trace := by
    rw [ControlPipe.offered, Traced.trace_writing, deviceAddress, List.foldl_append]
    rfl
  simp only [settings, withPipe, hStalled, hAddress]

namespace ControlPipe

/-- If the pipe still waits for an answer then classes have used the bus, and no more. -/
def Left (p q : ControlPipe B) : Prop :=
  q.waitingForResponse = true →
    ∃ t, q = { p with bus := t } ∧ Traced.Grows LeavingEvent p.bus t

omit [UsbBus B] in
theorem left_refl (p : ControlPipe B) : Left p p := fun _ => ⟨p.bus, rfl, .refl _⟩

omit [UsbBus B] in
theorem left_trans (p q s : ControlPipe B) (h : Left p q) (h' : Left q s) : Left p s := by
  intro hWaiting
  obtain ⟨t, rfl, hGrows'⟩ := h' hWaiting
  obtain ⟨u, rfl, hGrows⟩ := h hWaiting
  exact ⟨t, rfl, .trans _ _ _ hGrows hGrows'⟩

omit [UsbBus B] in
theorem left_onBus {m : BusM B α} (hm : Within (Traced.Grows ForeignEvent) m) :
    Within Left (onBus m) :=
  within_zoom hm fun _ t hGrows _ => ⟨t, rfl, hGrows.mono fun _ => Or.inl⟩

theorem left_acceptOut : Within Left (acceptOut : PipeM B Unit) := by
  intro p
  rw [post_true_iff]
  intro r q hDone
  cases acceptsOut_of_acceptOut hDone with
  | unexpected _ => exact left_refl p
  | refused _ hWrite =>
    refine fun _ => ⟨_, rfl, .single (Traced.trace_writing _ _ _) ?_⟩
    rw [hWrite]
    exact .inr ⟨_, _, _, rfl⟩
  | accepted _ =>
    intro hWaiting
    cases hWaiting

theorem left_reject : Within Left (reject : PipeM B Unit) := by
  intro p
  rw [Post, reject_apply]
  by_cases hWaiting : p.waitingForResponse = true
  · rw [if_pos hWaiting]
    intro hStill
    cases hStill
  · rw [if_neg hWaiting]
    exact left_refl p

theorem left_next {m : PipeM B Unit} (hm : Within Left m) (next : Except UsbError Unit → ClassM C) :
    Within Left (do
      let result ← attempt m
      onBus (next result).run : PipeM B C) :=
  within_bind left_trans (within_attempt hm) fun _ =>
    left_onBus fun t => (within_run (next _) t).mono fun _ _ hUse => hUse.grows

theorem left_outResponse (response : OutResponse C) :
    Within Left (response.perform : PipeM B C) := by
  cases response with
  | ignore cls => exact within_pure left_refl cls
  | accept next => exact left_next left_acceptOut next
  | reject next => exact left_next left_reject next

theorem left_callControlOut [UsbClass C] (req : Request) (index : Nat) (cls : C) :
    Within Left (callControlOut req index cls : PipeM B C) := by
  have hData : Within Left (ControlPipe.data : PipeM B (List UInt8)) :=
    within_bind left_trans (within_get left_refl) fun _ => within_ofOption left_refl _ _
  refine within_bind left_trans hData fun data => ?_
  refine within_bind left_trans (left_onBus fun t => ?_) fun _ => ?_
  · exact Traced.Grows.single rfl trivial
  · refine within_bind left_trans (left_onBus fun t => ?_) left_outResponse
    exact (within_run _ t).mono fun _ _ hUse => hUse.grows

end ControlPipe

def UsbDevice.Left (d e : UsbDevice B) : Prop :=
  e.control.waitingForResponse = true →
    ∃ t, e = d.withBus t ∧ Traced.Grows LeavingEvent d.control.bus t

omit [UsbBus B] in
theorem UsbDevice.left_refl (d : UsbDevice B) : d.Left d := fun _ => ⟨d.control.bus, rfl, .refl _⟩

omit [UsbBus B] in
theorem UsbDevice.left_trans (d e f : UsbDevice B) (h : d.Left e) (h' : e.Left f) : d.Left f := by
  intro hWaiting
  obtain ⟨t, rfl, hGrows'⟩ := h' hWaiting
  obtain ⟨u, rfl, hGrows⟩ := h hWaiting
  exact ⟨t, rfl, .trans _ _ _ hGrows hGrows'⟩

omit [UsbBus B] in
theorem UsbDevice.left_onPipe {m : PipeM B α} (hm : Within ControlPipe.Left m) :
    Within UsbDevice.Left (UsbDevice.onPipe m) := by
  refine within_zoom hm fun d q hLeft hWaiting => ?_
  obtain ⟨t, hEq, hGrows⟩ := hLeft hWaiting
  exact ⟨t, by rw [hEq]; rfl, hGrows⟩

omit [UsbBus B] in
theorem left_offer {f : Nat → C → PipeM B C} (hf : ∀ index cls, Within ControlPipe.Left (f index cls))
    (index : Nat) (cls : C) : Within UsbDevice.Left (offer f index cls) :=
  within_bind UsbDevice.left_trans (UsbDevice.left_onPipe (hf index cls)) fun _ =>
    within_bind UsbDevice.left_trans (within_get UsbDevice.left_refl) fun _ =>
      within_pure UsbDevice.left_refl _

section Handler

variable [UsbClass C] {req : Request} {s t u v : Session B C} {d : UsbDevice B}

/-- The classes of `s` are offered the request and leave it; with SET_INTERFACE they are then asked to
switch. -/
inductive Request.AskedAll (req : Request) (s : Session B C) : Session B C → Prop
  | offered {u : Session B C} (hArm : req.standardOut ≠ .setInterface)
      (hOffered : Session.firstClass (offer (callControlOut req)) s = .done (.ok none) u) :
      AskedAll req s u
  | switched {u v : Session B C} {found : Option Unit} (hArm : req.standardOut = .setInterface)
      (hOffered : Session.firstClass (offer (callControlOut req)) s = .done (.ok none) u)
      (hSwitched : Session.firstClass (switchSetting req.interface req.value.toUInt8) u =
        .done (.ok found) v) : AskedAll req s v

/-- Between `s` and `t` the bus has seen `events`, which the classes caused that were asked, then what
carrying out the request does there, and last the status packet, refused with `e`. The settings of
`s`, with the stalls that the classes made, have had the request carried out on them. -/
def Request.Refused (req : Request) (s : Session B C) (e : UsbError) (t : UsbDevice B) : Prop :=
  ∃ u events, req.AskedAll s u ∧
    u.device.control.bus.trace = s.device.control.bus.trace ++ events ∧
    (∀ event ∈ events, LeavingEvent event) ∧
    t.control.bus.trace =
      s.device.control.bus.trace ++ events ++ req.ownEvents (UsbBus.quirkSetAddressBeforeStatus B) ++
        [.write s.device.control.epIn.address [] (.error e)] ∧
    t.settings = req.carryOut (UsbBus.quirkSetAddressBeforeStatus B) { s.device.settings with
      stalled := fun addr => stalled addr (s.device.control.bus.trace ++ events) }

structure Waits (d e : UsbDevice B) : Prop where
  left : d.Left e
  state : e.control.state = .completeOut

omit [UsbBus B] [UsbClass C] in
theorem Waits.withBus (h : Waits d u.device) : ∃ t, u.device = d.withBus t ∧
    Traced.Grows LeavingEvent d.control.bus t :=
  h.left (u.device.control.waitingForResponse_iff.mpr (.inl h.state))

omit [UsbClass C] in
theorem Waits.foreign (h : Waits d u.device) {e : UsbDevice B} (hForeign : Foreign u.device e) :
    Waits d e := by
  obtain ⟨t, hUse, rfl⟩ := hForeign
  refine ⟨UsbDevice.left_trans _ _ _ h.left fun _ => ⟨t, rfl, ?_⟩, h.state⟩
  exact hUse.grows.mono fun _ => Or.inl

/-- Accepting a request fails only when the bus refuses the status packet. -/
theorem post_accept_refused (hAsked : req.AskedAll s u) (hWaits : Waits s.device u.device)
    (hState : v.device.control.state = .completeOut)
    (hIn : v.device.control.epIn = u.device.control.epIn)
    (hOwn : v.device.control.bus.trace = u.device.control.bus.trace ++
      req.ownEvents (UsbBus.quirkSetAddressBeforeStatus B))
    (hSettings : v.device.settings =
      req.carryOut (UsbBus.quirkSetAddressBeforeStatus B) u.device.settings) :
    Post True Session.accept (fun r t => ∀ e, r = .error e → req.Refused s e t.device) v := by
  obtain ⟨bus, hDevice, events, hTrace, hEvents⟩ := hWaits.withBus
  rw [Session.accept, Session.onPipe, Session.onDevice, post_zoom, UsbDevice.onPipe, post_zoom,
    post_true_iff]
  rintro r q hAccept e rfl
  cases ControlPipe.acceptsOut_of_acceptOut hAccept with
  | unexpected hNot => exact absurd hState hNot
  | refused _ hWrite =>
    have hLast : (v.device.control.offered []).bus.trace = v.device.control.bus.trace ++
        [.write s.device.control.epIn.address [] (.error e)] := by
      have hAddress : v.device.control.epIn.address = s.device.control.epIn.address := by
        rw [hIn, hDevice]
        rfl
      rw [ControlPipe.offered, Traced.trace_writing, hWrite, hAddress]
    have hBus : u.device.control.bus.trace = s.device.control.bus.trace ++ events := by
      rw [hDevice]
      exact hTrace
    have hLeft : u.device.settings = { s.device.settings with
        stalled := fun addr => stalled addr (s.device.control.bus.trace ++ events) } := by
      rw [hDevice, UsbDevice.settings_leaving ⟨events, hTrace, hEvents⟩, hTrace]
    refine ⟨u, events, hAsked, hBus, hEvents, ?_, ?_⟩
    · rw [← hBus, ← hOwn]
      exact hLast
    · exact (v.device.settings_offered []).trans (hSettings.trans (congrArg _ hLeft))

theorem post_then_accept_refused (hAsked : req.AskedAll s u) (hWaits : Waits s.device u.device)
    {m : SessionM B C Unit}
    (hm : m u = .done (.ok ()) v) (hState : v.device.control.state = u.device.control.state)
    (hIn : v.device.control.epIn = u.device.control.epIn)
    (hOwn : v.device.control.bus.trace = u.device.control.bus.trace ++
      req.ownEvents (UsbBus.quirkSetAddressBeforeStatus B))
    (hSettings : v.device.settings =
      req.carryOut (UsbBus.quirkSetAddressBeforeStatus B) u.device.settings) :
    Post True (do m; Session.accept) (fun r t => ∀ e, r = .error e → req.Refused s e t.device) u := by
  rw [Post, bind_of_ok hm]
  exact post_accept_refused hAsked hWaits (hState.trans hWaits.state) hIn hOwn hSettings

theorem post_reject_refused (hWaits : Waits s.device u.device) :
    Post True Session.reject (fun r t => ∀ e, r = .error e → req.Refused s e t.device) u := by
  have hWaiting := u.device.control.waitingForResponse_iff.mpr (.inl hWaits.state)
  rw [Session.reject, Session.onPipe, Session.onDevice, post_zoom, UsbDevice.onPipe, post_zoom, Post,
    ControlPipe.reject_apply, if_pos hWaiting]
  intro e hError
  cases hError

omit [UsbClass C] in
theorem settings_setHalt (u : Session B C) (addr : EndpointAddress) (b : Bool) :
    (u.device.withBus (u.device.control.bus.stalling addr b)).settings =
      { u.device.settings with stalled := Function.update u.device.settings.stalled addr b } := by
  have hStalled : (fun addr' => stalled addr' (u.device.control.bus.trace ++ [.setStalled addr b])) =
      Function.update u.device.settings.stalled addr b := by
    funext addr'
    rw [stalled_append_setStalled, Function.update_apply]
    by_cases hSame : addr = addr'
    · rw [if_pos hSame, if_pos hSame.symm]
    · rw [if_neg hSame, if_neg fun h => hSame h.symm]
      rfl
  have hAddress : deviceAddress (u.device.control.bus.trace ++ [.setStalled addr b]) =
      deviceAddress u.device.control.bus.trace := by
    rw [deviceAddress, List.foldl_append]
    rfl
  rw [← hStalled]
  exact congrArg (Settings.mk _ _ _ _) hAddress

theorem post_setInterface_refused (hArm : req.standardOut = .setInterface)
    (hOffered : Session.firstClass (offer (callControlOut req)) s = .done (.ok none) u)
    (hWaits : Waits s.device u.device) :
    Post True (Session.setInterface req)
      (fun r t => ∀ e, r = .error e → req.Refused s e t.device) u := by
  have hNone (t : Session B C) : req.carryOut (UsbBus.quirkSetAddressBeforeStatus B) t.device.settings =
      t.device.settings := by
    rw [Request.carryOut, hArm]
  have hOwn (t : Session B C) : t.device.control.bus.trace =
      t.device.control.bus.trace ++ req.ownEvents (UsbBus.quirkSetAddressBeforeStatus B) := by
    rw [Request.ownEvents, hArm, List.append_nil]
  by_cases hWide : 255 < req.index ∨ 255 < req.value
  · rw [Session.setInterface, if_pos hWide]
    exact post_reject_refused hWaits
  · have hForeign : Within (OnDevices Foreign)
        (Session.firstClass (switchSetting req.interface req.value.toUInt8) :
          SessionM B C (Option Unit)) :=
      within_firstClass foreign_refl foreign_trans fun index cls =>
        within_bind foreign_trans (foreign_onBus (within_callClass _ _ index cls)) fun _ =>
          within_pure foreign_refl _
    have hUnfailing : Unfailing
        (Session.firstClass (switchSetting req.interface req.value.toUInt8) :
          SessionM B C (Option Unit)) :=
      unfailing_firstClass fun index cls =>
        unfailing_bind (unfailing_deviceBus (unfailing_callClass _ _ index cls)) fun _ =>
          unfailing_pure _
    rw [setInterface_narrow hWide, post_bind, post_true_iff]
    intro r t hSwitched
    have hWaits' : Waits s.device t.device :=
      hWaits.foreign (post_of_done (hForeign u) hSwitched)
    obtain ⟨found, rfl⟩ := post_of_done (hUnfailing u) hSwitched
    dsimp only
    split
    · exact post_accept_refused (.switched hArm hOffered hSwitched) hWaits' hWaits'.state rfl (hOwn t)
        (hNone t).symm
    · exact post_reject_refused hWaits'

/-- Each arm of the handler has carried out its request when it fails. -/
theorem post_standardControlOut_refused
    (hOffered : Session.firstClass (offer (callControlOut req)) s = .done (.ok none) u)
    (hWaits : Waits s.device u.device) :
    Post True (Session.standardControlOut req)
      (fun r t => ∀ e, r = .error e → req.Refused s e t.device) u := by
  have hAsked {arm : StandardOut} (hArm : req.standardOut = arm) (hNot : arm ≠ .setInterface) :
      req.AskedAll s u := .offered (hArm ▸ hNot) hOffered
  rw [Session.standardControlOut, post_bind, post_get]
  dsimp only
  cases hArm : req.standardOut with
  | clearRemoteWakeup =>
    refine post_then_accept_refused (hAsked hArm StandardOut.noConfusion) hWaits rfl rfl rfl ?_ ?_
    · rw [Request.ownEvents, hArm, List.append_nil]
    · rw [Request.carryOut, hArm]
      rfl
  | setRemoteWakeup =>
    refine post_then_accept_refused (hAsked hArm StandardOut.noConfusion) hWaits rfl rfl rfl ?_ ?_
    · rw [Request.ownEvents, hArm, List.append_nil]
    · rw [Request.carryOut, hArm]
      rfl
  | clearHalt =>
    refine post_then_accept_refused (hAsked hArm StandardOut.noConfusion) hWaits rfl rfl rfl ?_ ?_
    · rw [Request.ownEvents, hArm]
    · rw [Request.carryOut, hArm]
      exact settings_setHalt u _ _
  | setHalt =>
    refine post_then_accept_refused (hAsked hArm StandardOut.noConfusion) hWaits rfl rfl rfl ?_ ?_
    · rw [Request.ownEvents, hArm]
    · rw [Request.carryOut, hArm]
      exact settings_setHalt u _ _
  | setAddress =>
    by_cases hQuirk : UsbBus.quirkSetAddressBeforeStatus B = true
    · have hSet : (Session.setAddress req.value.toUInt8 : SessionM B C Unit) u =
          .done (.ok ()) { u with device := { u.device.withBus
            ⟨UsbBus.setDeviceAddress u.device.control.bus.bus req.value.toUInt8,
              u.device.control.bus.trace ++ [.setDeviceAddress req.value.toUInt8]⟩ with
            deviceState := .addressed } } := by
        rw [Session.setAddress, if_pos hQuirk]
        rfl
      refine post_then_accept_refused (hAsked hArm StandardOut.noConfusion) hWaits hSet rfl rfl ?_ ?_
      · rw [Request.ownEvents, hArm]
        dsimp only
        rw [if_pos hQuirk]
        rfl
      · have hStalled (addr : EndpointAddress) :
            stalled addr (u.device.control.bus.trace ++ [.setDeviceAddress req.value.toUInt8]) =
              stalled addr u.device.control.bus.trace := by
          rw [stalled, List.foldl_append]
          rfl
        rw [Request.carryOut, hArm]
        dsimp only
        rw [if_pos hQuirk]
        simp only [UsbDevice.settings, UsbDevice.withBus, UsbDevice.withPipe, hStalled,
          deviceAddress_append_setDeviceAddress]
    · have hSet : (Session.setAddress req.value.toUInt8 : SessionM B C Unit) u =
          .done (.ok ()) { u with device := { u.device with
            pendingAddress := req.value.toUInt8 } } := by
        rw [Session.setAddress, if_neg hQuirk]
        rfl
      refine post_then_accept_refused (hAsked hArm StandardOut.noConfusion) hWaits hSet rfl rfl ?_ ?_
      · rw [Request.ownEvents, hArm]
        dsimp only
        rw [if_neg hQuirk, List.append_nil]
      · rw [Request.carryOut, hArm]
        dsimp only
        rw [if_neg hQuirk]
        rfl
  | configure =>
    refine post_then_accept_refused (hAsked hArm StandardOut.noConfusion) hWaits rfl rfl rfl ?_ ?_
    · rw [Request.ownEvents, hArm, List.append_nil]
    · rw [Request.carryOut, hArm]
      rfl
  | deconfigure =>
    have hOwn : u.device.control.bus.trace = u.device.control.bus.trace ++
        req.ownEvents (UsbBus.quirkSetAddressBeforeStatus B) := by
      rw [Request.ownEvents, hArm, List.append_nil]
    have hCarried : req.carryOut (UsbBus.quirkSetAddressBeforeStatus B) u.device.settings =
        if u.device.deviceState = .default then u.device.settings
        else { u.device.settings with deviceState := .addressed } := by
      rw [Request.carryOut, hArm]
      rfl
    by_cases hDefault : u.device.deviceState = .default
    · rw [if_pos hDefault] at hCarried
      rw [when_of_false (not_not.mpr hDefault)]
      exact post_then_accept_refused (hAsked hArm StandardOut.noConfusion) hWaits rfl rfl rfl hOwn
        hCarried.symm
    · rw [if_neg hDefault] at hCarried
      rw [when_of_true hDefault]
      exact post_then_accept_refused (hAsked hArm StandardOut.noConfusion) hWaits rfl rfl rfl hOwn
        hCarried.symm
  | setInterface => exact post_setInterface_refused hArm hOffered hWaits
  | other => exact post_reject_refused hWaits

/-- The classes have left the request, and the handler of the device fails. -/
theorem post_controlOut_refused (hState : s.device.control.state = .completeOut) :
    Post True (Session.controlOut req)
      (fun r t => ∀ e, r = .error e → req.Refused s e t.device) s := by
  have hWaiting := s.device.control.waitingForResponse_iff.mpr (.inl hState)
  have hLeft : Within (OnDevices UsbDevice.Left)
      (Session.firstClass (offer (callControlOut req)) : SessionM B C (Option Unit)) :=
    within_firstClass UsbDevice.left_refl UsbDevice.left_trans fun index cls =>
      left_offer (ControlPipe.left_callControlOut req) index cls
  rw [Session.controlOut, post_bind, post_true_iff]
  intro r u hOffered
  obtain ⟨found, rfl, hFound⟩ :=
    post_of_done (post_firstClass_offer (unfailing_callControlOut req) hWaiting) hOffered
  have hLeft' : s.device.Left u.device := post_of_done (hLeft s) hOffered
  cases found with
  | some v =>
    intro e hError
    cases hError
  | none =>
    obtain ⟨bus, hDevice, -⟩ := hLeft' hFound
    have hWaits : Waits s.device u.device := by
      refine ⟨hLeft', ?_⟩
      rw [hDevice]
      exact hState
    dsimp only
    rw [post_bind]
    have hStandard : Post True (when (req.requestType = .standard) (Session.standardControlOut req))
        (fun r t => ∀ e, r = .error e → req.Refused s e t.device) u := by
      refine post_when (fun _ => post_standardControlOut_refused hOffered hWaits) fun _ e hError => ?_
      cases hError
    apply hStandard.mono
    intro r t ht
    cases r with
    | error e => exact ht
    | ok v =>
      dsimp only
      rw [post_bind, post_get]
      refine post_when (fun hStill => ?_) fun _ e hError => ?_
      · rw [Session.reject, Session.onPipe, Session.onDevice, post_zoom, UsbDevice.onPipe, post_zoom,
          Post, ControlPipe.reject_apply, if_pos hStill]
        intro e hError
        cases hError
      · cases hError

/-- When a poll hands out an OUT request and its handler returns an error, the request has been
carried out and the bus has refused the status packet. -/
theorem refused_of_error [UsbBus.Contract B] (hReachable : s.Reachable)
    {epOut epIn epSetup : UInt16}
    (hEvent : s.device.event? = some (.data epOut epIn epSetup, d)) {p : ControlPipe B}
    (hReceive : Session.receive epOut epSetup d.control = .done (.ok (some req)) p)
    (hDirection : req.direction = .out) {e : UsbError}
    (hError : Session.controlOut req { s with device := d.withPipe p } = .done (.error e) t) :
    req.Refused { s with device := d.withPipe p } e t.device := by
  have hWell := background_wellFormed.event hReachable.wellFormed hEvent
  have hAwaits := (ControlPipe.Receives.of_receive hReceive).awaits hWell.data
  rw [ControlPipe.Awaits, hDirection] at hAwaits
  exact post_of_done (post_controlOut_refused hAwaits) hError e rfl

end Handler

def refusingBus : ScriptBus :=
  ⟨[.ok [0x00, 9, 1, 0, 0, 0, 0, 0]], [.error .wouldBlock], [.data 0 0 1]⟩

def refusedRequest : Request := ⟨.out, .standard, .device, 9, 1, 0, 0⟩

def refusingPipe : ControlPipe ScriptBus :=
  (Session.receive 0 1 refusingBus.device.polled.control).state?.get (by decide +kernel)

def refusingDevice : UsbDevice ScriptBus := refusingBus.device.polled.withPipe refusingPipe

theorem receive_refusing : Session.receive 0 1 refusingBus.device.polled.control =
    .done (.ok (some refusedRequest)) refusingPipe :=
  Outcome.eq_done (by decide +kernel) (Option.some_get _).symm

theorem controlOut_refusing : ∃ t, Session.controlOut refusedRequest
    (⟨refusingDevice, []⟩ : Session ScriptBus DefaultClass) = .done (.error .wouldBlock) t :=
  Outcome.exists_error (by decide +kernel)

/-- A class that stalls its endpoint when it is offered a request, and leaves the request. -/
structure HaltingClass where

instance : UsbClass HaltingClass where
  controlOut cls _ _ := do
    Program.perform (EndpointCall.stall ⟨⟨⟨0x84⟩, .interrupt, 8, 10⟩, by decide⟩)
    return .ignore cls

def haltingSession : Session ScriptBus HaltingClass := ⟨refusingDevice, [⟨⟩, ⟨⟩]⟩

theorem refused_of_error_configuration : ∃ t : Session ScriptBus HaltingClass,
    Session.controlOut refusedRequest haltingSession = .done (.error .wouldBlock) t ∧
      t.device.settings.stalled ⟨0x84⟩ = true ∧
      refusedRequest.Refused haltingSession .wouldBlock t.device := by
  have hReachable : (⟨refusingBus.device, [⟨⟩, ⟨⟩]⟩ : Session ScriptBus HaltingClass).Reachable :=
    ⟨_, _, ScriptBus.fresh_device _, .refl⟩
  obtain ⟨t, hError⟩ : ∃ t, Session.controlOut refusedRequest haltingSession =
      .done (.error .wouldBlock) t := Outcome.exists_error (by decide +kernel)
  have hStalled : (Session.controlOut refusedRequest haltingSession).state?.map
      (·.device.settings.stalled ⟨0x84⟩) = some true := by decide +kernel
  rw [hError] at hStalled
  exact ⟨t, hError, Option.some.inj hStalled,
    refused_of_error hReachable rfl receive_refusing rfl hError⟩

/-- The device is configured although the status packet was not taken. -/
theorem not_forall_settings_kept :
    ¬ ∀ (B C : Type) [UsbBus B] [UsbClass C] [UsbBus.Contract B] (s t u : Session B C),
      s.Reachable → ∀ (epOut epIn epSetup : UInt16) (d : UsbDevice B),
      s.device.event? = some (.data epOut epIn epSetup, d) →
      ∀ (req : Request) (p : ControlPipe B),
      Session.receive epOut epSetup d.control = .done (.ok (some req)) p →
      req.requestType = .standard → req.direction = .out →
      Session.firstClass (offer (callControlOut req)) { s with device := d.withPipe p } =
        .done (.ok none) u →
      ∀ e, Session.controlOut req { s with device := d.withPipe p } = .done (.error e) t →
      t.device.settings = (d.withPipe p).settings := by
  intro h
  have hReachable : (refusingBus.session []).Reachable := ⟨_, _, ScriptBus.fresh_device _, .refl⟩
  obtain ⟨t, hError⟩ := controlOut_refusing
  have hSame : t.device.settings = refusingDevice.settings :=
    h ScriptBus DefaultClass _ t ⟨refusingDevice, []⟩ hReachable 0 0 1 _ rfl _ _ receive_refusing rfl
      rfl rfl _ hError
  have hPipe : refusingPipe.state = .completeOut := by decide +kernel
  obtain ⟨u, events, -, -, -, -, hSettings⟩ := post_of_done
    (post_controlOut_refused (s := (⟨refusingDevice, []⟩ : Session ScriptBus DefaultClass)) hPipe)
    hError _ rfl
  have hConfigured : t.device.settings.deviceState = .configured := by
    rw [hSettings]
    rfl
  have hDefault : refusingDevice.settings.deviceState = .default := rfl
  rw [hSame, hDefault] at hConfigured
  cases hConfigured

end UsbStack
