import UsbStack.DeviceRun

/-! # Invariants of the control pipe

What each operation of the pipe keeps by itself holds throughout every run of the device, whichever
operations the classes and the handlers call and in which order.
-/

namespace UsbStack

set_option autoImplicit false

open Foundation Exec

variable {B C α : Type}

/-- An event that is caused neither by the pipe nor by a bus reset. -/
def AsideEvent : Event → Prop
  | .reset | .setup _ => False
  | .read addr _ _ | .write addr _ _ => addr.index ≠ 0
  | _ => True

theorem asideEvent_of_background {event : Event} (h : BackgroundEvent event) : AsideEvent event := by
  cases event <;> first | exact h | trivial

theorem asideEvent_of_foreign {event : Event} (h : ForeignEvent event) : AsideEvent event :=
  asideEvent_of_background (backgroundEvent_of_foreign h)

variable [UsbBus B]

namespace ControlPipe

def wasReset (p : ControlPipe B) : ControlPipe B :=
  { p with bus := ⟨UsbBus.reset p.bus.bus, p.bus.trace ++ [.reset]⟩, state := .idle }

/-- `I` is kept by every operation of the pipe, and by what happens on the bus beside it. -/
structure Invariant (I : ControlPipe B → Prop) : Prop where
  aside : ∀ p t, I p → Traced.Grows AsideEvent p.bus t → I { p with bus := t }
  reset : ∀ p, I p → I p.wasReset
  receive : ∀ epOut epSetup,
    Within (Carries I) (Session.receive epOut epSetup : PipeM B (Option Request))
  handleInComplete : Within (Carries I) (handleInComplete : PipeM B Bool)
  acceptIn : ∀ f : SliceFn, Within (Carries I) (acceptIn f.run : PipeM B Unit)
  acceptInStatic : ∀ data, Within (Carries I) (acceptInStatic data : PipeM B Unit)
  acceptOut : Within (Carries I) (acceptOut : PipeM B Unit)
  reject : Within (Carries I) (reject : PipeM B Unit)

namespace Invariant

variable {I : ControlPipe B → Prop}

theorem onBus (hI : Invariant I) {m : BusM B α} (hm : Within (Traced.Grows AsideEvent) m) :
    Within (Carries I) (ControlPipe.onBus m) :=
  within_zoom hm fun p t hGrows hp => hI.aside p t hp hGrows

theorem onClass (hI : Invariant I) {m : BusM B α} (hm : Within ClassUse m) :
    Within (Carries I) (ControlPipe.onBus m) :=
  hI.onBus (hm.mono fun _ _ hUse => hUse.grows.mono fun _ => asideEvent_of_foreign)

theorem next (hI : Invariant I) {m : PipeM B Unit} (hm : Within (Carries I) m)
    (next : Except UsbError Unit → ClassM C) :
    Within (Carries I) (do
      let result ← attempt m
      ControlPipe.onBus (next result).run : PipeM B C) :=
  within_bind carries_trans (within_attempt hm) fun _ => hI.onClass (within_run _)

theorem inResponse (hI : Invariant I) (response : InResponse C) :
    Within (Carries I) response.perform := by
  cases response with
  | ignore cls => exact within_pure carries_refl cls
  | acceptWith data next => exact hI.next (hI.acceptIn (.copy data)) next
  | acceptWithStatic data next => exact hI.next (hI.acceptInStatic data) next
  | accept f next => exact hI.next (hI.acceptIn f) next
  | reject next => exact hI.next hI.reject next

theorem outResponse (hI : Invariant I) (response : OutResponse C) :
    Within (Carries I) response.perform := by
  cases response with
  | ignore cls => exact within_pure carries_refl cls
  | accept next => exact hI.next hI.acceptOut next
  | reject next => exact hI.next hI.reject next

variable [UsbClass C] {req : Request}

theorem callControlIn (hI : Invariant I) (index : Nat) (cls : C) :
    Within (Carries I) (callControlIn req index cls) :=
  within_bind carries_trans (hI.onClass (within_note index _)) fun _ =>
    within_bind carries_trans (hI.onClass (within_run _)) hI.inResponse

theorem callControlOut (hI : Invariant I) (index : Nat) (cls : C) :
    Within (Carries I) (callControlOut req index cls) := by
  have hData : Within (Carries I) (ControlPipe.data : PipeM B (List UInt8)) :=
    within_bind carries_trans (within_get carries_refl) fun _ => within_ofOption carries_refl _ _
  refine within_bind carries_trans hData fun data => ?_
  exact within_bind carries_trans (hI.onClass (within_note index _)) fun _ =>
    within_bind carries_trans (hI.onClass (within_run _)) hI.outResponse

end Invariant

end ControlPipe

def UsbDevice.HasPipe (I : ControlPipe B → Prop) (d : UsbDevice B) : Prop := I d.control

namespace ControlPipe.Invariant

variable {I : ControlPipe B → Prop}

omit [UsbBus B] in
theorem onPipe {m : PipeM B α} (hm : Within (Carries I) m) :
    Within (Carries (UsbDevice.HasPipe I)) (UsbDevice.onPipe m) :=
  within_zoom hm fun _ _ h => h

theorem deviceBus (hI : Invariant I) {m : BusM B α} (hm : Within (Traced.Grows AsideEvent) m) :
    Within (Carries (UsbDevice.HasPipe I)) (UsbDevice.onBus m) := onPipe (hI.onBus hm)

abbrev Keeps (C : Type) (I : ControlPipe B → Prop) (m : SessionM B C α) : Prop :=
  Within (OnDevices (Carries (UsbDevice.HasPipe I))) m

omit [UsbBus B] in
theorem refl (s : Session B C) : OnDevices (Carries (UsbDevice.HasPipe I)) s s :=
  carries_refl s.device

omit [UsbBus B] in
theorem trans (s t u : Session B C) (h : OnDevices (Carries (UsbDevice.HasPipe I)) s t)
    (h' : OnDevices (Carries (UsbDevice.HasPipe I)) t u) :
    OnDevices (Carries (UsbDevice.HasPipe I)) s u := carries_trans _ _ _ h h'

omit [UsbBus B] in
theorem keeps_onPipe {m : PipeM B α} (hm : Within (Carries I) m) :
    Keeps C I (Session.onPipe m) := within_onDevice (onPipe hm)

theorem keeps_onBus (hI : Invariant I) {m : BusM B α} (hm : Within (Traced.Grows AsideEvent) m) :
    Keeps C I (Session.onDevice (UsbDevice.onBus m)) := within_onDevice (hI.deviceBus hm)

omit [UsbBus B] in
theorem keeps_modify {f : UsbDevice B → UsbDevice B} (h : ∀ d, (f d).control = d.control) :
    Keeps C I (Session.modifyDevice f) := by
  refine within_onDevice (within_modify fun d hd => ?_)
  rw [UsbDevice.HasPipe, h d]
  exact hd

theorem keeps_reject (hI : Invariant I) : Keeps C I Session.reject := keeps_onPipe hI.reject

theorem keeps_accept (hI : Invariant I) : Keeps C I Session.accept := keeps_onPipe hI.acceptOut

theorem keeps_acceptWith (hI : Invariant I) (data : List UInt8) :
    Keeps C I (Session.acceptWith data) := keeps_onPipe (hI.acceptIn (.copy data))

variable [UsbClass C] {req : Request}

omit [UsbClass C] in
theorem askClass (hI : Invariant I) (call : ClassCall) (m : C → ClassM α) (index : Nat) (cls : C) :
    Within (Carries (UsbDevice.HasPipe I)) (UsbDevice.onBus (callClass call m index cls)) :=
  onPipe (hI.onClass (within_callClass call m index cls))

omit [UsbBus B] [UsbClass C] in
theorem offer {f : Nat → C → PipeM B C} (hf : ∀ index cls, Within (Carries I) (f index cls))
    (index : Nat) (cls : C) : Within (Carries (UsbDevice.HasPipe I)) (offer f index cls) :=
  within_bind carries_trans (onPipe (hf index cls)) fun _ =>
    within_bind carries_trans (within_get carries_refl) fun _ => within_pure carries_refl _

theorem getDescriptor (hI : Invariant I) (config : Config) (classes : List C) :
    Within (Carries I) (getDescriptor config classes req) := by
  unfold UsbStack.getDescriptor
  cases h : descriptorWriter config classes req with
  | none => exact hI.reject
  | some f => exact hI.acceptIn (acceptWriterFn f (keepsLength_descriptorWriter h))

theorem keeps_standardControlIn (hI : Invariant I) : Keeps C I (Session.standardControlIn req) := by
  refine within_bind trans (within_get refl) fun s => ?_
  cases req.standardIn with
  | deviceStatus => exact hI.keeps_acceptWith _
  | interfaceStatus => exact hI.keeps_acceptWith _
  | endpointStatus =>
    refine within_bind trans (hI.keeps_onBus fun t => ?_) fun _ => hI.keeps_acceptWith _
    exact .refl t
  | descriptor => exact keeps_onPipe (hI.getDescriptor _ _)
  | configuration => exact hI.keeps_acceptWith _
  | interface =>
    refine within_ite hI.keeps_reject (within_bind trans ?_ fun _ => hI.keeps_acceptWith _)
    exact within_firstClass carries_refl carries_trans fun index cls => hI.askClass _ _ index cls
  | other => exact within_pure refl _

theorem keeps_setInterface (hI : Invariant I) : Keeps C I (Session.setInterface req) := by
  refine within_ite hI.keeps_reject (within_bind trans ?_ fun found => ?_)
  · refine within_firstClass carries_refl carries_trans fun index cls => ?_
    exact within_bind carries_trans (hI.askClass _ _ index cls) fun _ => within_pure carries_refl _
  · cases found with
    | some u => exact hI.keeps_accept
    | none => exact within_ite hI.keeps_accept hI.keeps_reject

omit [UsbClass C] in
theorem keeps_setAddress (hI : Invariant I) (addr : UInt8) : Keeps C I (Session.setAddress addr) := by
  refine within_ite (within_bind trans (hI.keeps_onBus fun t => ?_) fun _ => ?_) ?_
  · exact .single rfl trivial
  · exact keeps_modify fun _ => rfl
  · exact keeps_modify fun _ => rfl

theorem keeps_standardControlOut (hI : Invariant I) :
    Keeps C I (Session.standardControlOut req) := by
  have hAccept {m : SessionM B C Unit} (hm : Keeps C I m) : Keeps C I (do
      m
      Session.accept) := within_bind trans hm fun _ => hI.keeps_accept
  have hHalt (stalled : Bool) : Keeps C I (Session.setHalt req stalled) :=
    hI.keeps_onBus fun _ => .single rfl trivial
  refine within_bind trans (within_get refl) fun s => ?_
  cases req.standardOut with
  | clearRemoteWakeup => exact hAccept (keeps_modify fun _ => rfl)
  | clearHalt => exact hAccept (hHalt false)
  | setRemoteWakeup => exact hAccept (keeps_modify fun _ => rfl)
  | setHalt => exact hAccept (hHalt true)
  | setAddress => exact hAccept (hI.keeps_setAddress _)
  | configure => exact hAccept (keeps_modify fun _ => rfl)
  | deconfigure => exact hAccept (within_when refl (keeps_modify fun _ => rfl))
  | setInterface => exact hI.keeps_setInterface
  | other => exact hI.keeps_reject

omit [UsbClass C] in
theorem keeps_answers (hI : Invariant I) {f : Nat → C → PipeM B C} {m : SessionM B C Unit}
    (hf : ∀ index cls, Within (Carries I) (f index cls)) (hm : Keeps C I m) : Keeps C I (do
      match ← Session.firstClass (UsbStack.offer f) with
      | some () => pure ()
      | none => do
        when (req.requestType = .standard) m
        let s ← get
        when (s.device.control.waitingForResponse = true) Session.reject) := by
  refine within_bind trans (within_firstClass carries_refl carries_trans (offer hf)) fun found => ?_
  cases found with
  | some u => exact within_pure refl _
  | none =>
    exact within_bind trans (within_when refl hm) fun _ =>
      within_bind trans (within_get refl) fun _ => within_when refl hI.keeps_reject

theorem keeps_dispatch (hI : Invariant I) : Keeps C I (Session.dispatch req) := by
  unfold Session.dispatch
  cases req.direction with
  | in_ => exact hI.keeps_answers hI.callControlIn hI.keeps_standardControlIn
  | out => exact hI.keeps_answers hI.callControlOut hI.keeps_standardControlOut

omit [UsbClass C] in
theorem completeIn (hI : Invariant I) :
    Within (Carries (UsbDevice.HasPipe I)) (Session.completeIn : DeviceM B Unit) := by
  refine within_bind carries_trans (within_attempt (onPipe hI.handleInComplete)) fun _ => ?_
  refine within_bind carries_trans (within_get carries_refl) fun _ => within_when carries_refl ?_
  refine within_bind carries_trans (hI.deviceBus fun _ => .single rfl trivial) fun _ => ?_
  exact within_modify fun _ => id

theorem keeps_pollControl (hI : Invariant I) (epOut epIn epSetup : UInt16) :
    Keeps C I (Session.pollControl epOut epIn epSetup) := by
  refine within_bind trans (keeps_onPipe (hI.receive epOut epSetup)) fun found => ?_
  cases found with
  | some req => exact within_bind trans (within_attempt hI.keeps_dispatch) fun _ => within_pure refl _
  | none => exact within_when refl (within_onDevice hI.completeIn)

omit [UsbClass C] in
theorem background (hI : Invariant I) : Background (UsbDevice.HasPipe I) where
  events _ t hd hGrows := hI.aside _ t hd (hGrows.mono fun _ => asideEvent_of_background)
  resume _ _ hd _ := hd
  suspend _ hd _ := hd
  reset _ hd := hI.reset _ hd
  selfPowered _ _ hd := hd

theorem post_perform (hI : Invariant I) {s : Session B C} (hWell : s.device.WellFormed)
    (hs : I s.device.control) (input : DeviceInput B C) :
    Post True input.perform (fun _ t => UsbDevice.HasPipe I t.device) s := by
  cases input with
  | poll =>
    refine post_then (post_poll_of_background hI.background hI.background.stable (fun _ => id) hWell
      hs fun epOut epIn epSetup d _ hd => ?_) fun _ _ ht => ht
    exact (hI.keeps_pollControl epOut epIn epSetup _).mono fun _ _ h => h hd
  | _ => exact post_perform_of_background hI.background hs nofun

/-- What every operation of the pipe keeps holds in every state that the device reaches. -/
theorem reachable [UsbBus.Contract B] (hI : Invariant I)
    (hFresh : ∀ d : UsbDevice B, d.Fresh → I d.control) {s : Session B C} (h : s.Reachable) :
    I s.device.control := by
  obtain ⟨d, classes, hBuilt, hReaches⟩ := h
  have hBoth := hReaches.invariant (I := fun t => t.device.WellFormed ∧ I t.device.control)
    ⟨hBuilt.initial.wellFormed, hFresh d hBuilt⟩
    fun input t ht => (wellFormed_perform ht.1 input).and (hI.post_perform ht.1 ht.2 input)
  exact hBoth.2

end ControlPipe.Invariant

end UsbStack
