import UsbStack.OneAnswer

/-! # What the handling of endpoint 0 records

Calls of classes that belong to control requests, and calls of the bus. A property of these events
holds of everything that one poll records in its handling of endpoint 0.
-/

namespace UsbStack

set_option autoImplicit false

open Foundation Exec

def ClassCall.IsControl : ClassCall → Prop
  | .controlOut _ _ | .controlIn _ | .getAltSetting _ | .setAltSetting _ _ => True
  | _ => False

/-- `P` holds of what is recorded for control requests. -/
structure Records (P : Event → Prop) : Prop where
  endpoint : ∀ event, EndpointEvent event → P event
  receive : ∀ event, ControlPipe.ReceiveEvent event → P event
  address : ∀ addr, P (.setDeviceAddress addr)
  control : ∀ index (call : ClassCall), call.IsControl → P (.class_ index call)

namespace Records

variable {B C α : Type} [UsbBus B] {P : Event → Prop}

section Pipe

def OnPipes (P : Event → Prop) (p q : ControlPipe B) : Prop := Traced.Grows P p.bus q.bus

omit [UsbBus B] in
theorem pipe_refl (p : ControlPipe B) : OnPipes P p p := .refl _

omit [UsbBus B] in
theorem pipe_trans (p q s : ControlPipe B) (h : OnPipes P p q) (h' : OnPipes P q s) :
    OnPipes P p s := .trans _ _ _ h h'

omit [UsbBus B] in
theorem within_onBus {m : BusM B α} (hm : Within (Traced.Grows P) m) :
    Within (OnPipes P) (ControlPipe.onBus m) := within_zoom hm fun _ _ h => h

omit [UsbBus B] in
theorem of_transfer (h : Records P) {t u : Traced B}
    (hGrows : Traced.Grows ControlPipe.TransferEvent t u) : Traced.Grows P t u :=
  hGrows.mono fun event hEvent => h.receive event (ControlPipe.receiveEvent_of_transfer hEvent)

theorem within_run (h : Records P) (m : ClassM α) : Within (Traced.Grows P) (m.run : BusM B α) :=
  fun t => (within_run_endpoint m t).mono fun _ _ hGrows => hGrows.mono h.endpoint

omit [UsbBus B] in
theorem within_note (h : Records P) (index : Nat) {call : ClassCall} (hCall : call.IsControl) :
    Within (Traced.Grows P) (Traced.note (.class_ index call) : BusM B Unit) :=
  fun _ => Traced.Grows.single rfl (h.control index call hCall)

theorem within_acceptIn (h : Records P) (f : SliceFn) :
    Within (OnPipes P) (ControlPipe.acceptIn f.run : PipeM B Unit) :=
  fun _ => post_true_iff.mpr fun _ _ hDone =>
    h.of_transfer (ControlPipe.answersIn_of_acceptIn f hDone).grows

theorem within_acceptInStatic (h : Records P) (data : List UInt8) :
    Within (OnPipes P) (ControlPipe.acceptInStatic data : PipeM B Unit) :=
  fun _ => post_true_iff.mpr fun _ _ hDone =>
    h.of_transfer (ControlPipe.answersIn_of_acceptInStatic hDone).grows

theorem within_acceptOut (h : Records P) :
    Within (OnPipes P) (ControlPipe.acceptOut : PipeM B Unit) :=
  fun _ => post_true_iff.mpr fun _ _ hDone =>
    h.of_transfer (ControlPipe.acceptsOut_of_acceptOut hDone).grows

theorem within_reject (h : Records P) : Within (OnPipes P) (ControlPipe.reject : PipeM B Unit) :=
  fun _ => post_true_iff.mpr fun _ _ hDone =>
    h.of_transfer (ControlPipe.answersIn_of_reject hDone).grows

theorem within_next (h : Records P) {m : PipeM B Unit} (hm : Within (OnPipes P) m)
    (next : Except UsbError Unit → ClassM C) :
    Within (OnPipes P) (do
      let result ← attempt m
      ControlPipe.onBus (next result).run : PipeM B C) :=
  within_bind pipe_trans (within_attempt hm) fun _ => within_onBus (h.within_run _)

theorem within_inResponse (h : Records P) (response : InResponse C) :
    Within (OnPipes P) (response.perform : PipeM B C) := by
  cases response with
  | ignore cls => exact within_pure pipe_refl cls
  | acceptWith data next => exact h.within_next (h.within_acceptIn (.copy data)) next
  | acceptWithStatic data next => exact h.within_next (h.within_acceptInStatic data) next
  | accept f next => exact h.within_next (h.within_acceptIn f) next
  | reject next => exact h.within_next h.within_reject next

theorem within_outResponse (h : Records P) (response : OutResponse C) :
    Within (OnPipes P) (response.perform : PipeM B C) := by
  cases response with
  | ignore cls => exact within_pure pipe_refl cls
  | accept next => exact h.within_next h.within_acceptOut next
  | reject next => exact h.within_next h.within_reject next

theorem within_getDescriptor (h : Records P) [UsbClass C] (config : Config) (classes : List C)
    (req : Request) : Within (OnPipes P) (getDescriptor config classes req : PipeM B Unit) := by
  unfold getDescriptor
  cases hWriter : descriptorWriter config classes req with
  | none => exact h.within_reject
  | some f => exact h.within_acceptIn (acceptWriterFn f (keepsLength_descriptorWriter hWriter))

theorem within_callControlIn (h : Records P) [UsbClass C] (req : Request) (index : Nat) (cls : C) :
    Within (OnPipes P) (callControlIn req index cls : PipeM B C) :=
  within_bind pipe_trans (within_onBus (h.within_note index trivial)) fun _ =>
    within_bind pipe_trans (within_onBus (h.within_run _)) h.within_inResponse

theorem within_callControlOut (h : Records P) [UsbClass C] (req : Request) (index : Nat) (cls : C) :
    Within (OnPipes P) (callControlOut req index cls : PipeM B C) := by
  have hData : Within (OnPipes P) (ControlPipe.data : PipeM B (List UInt8)) :=
    within_bind pipe_trans (within_get pipe_refl) fun _ => within_ofOption pipe_refl _ _
  refine within_bind pipe_trans hData fun data => ?_
  exact within_bind pipe_trans (within_onBus (h.within_note index trivial)) fun _ =>
    within_bind pipe_trans (within_onBus (h.within_run _)) h.within_outResponse

end Pipe

section Device

variable [UsbClass C]

def OnDevice (P : Event → Prop) (d e : UsbDevice B) : Prop := OnPipes P d.control e.control

omit [UsbBus B] in
theorem device_refl (d : UsbDevice B) : OnDevice P d d := pipe_refl _

omit [UsbBus B] in
theorem device_trans (d e f : UsbDevice B) (h : OnDevice P d e) (h' : OnDevice P e f) :
    OnDevice P d f := pipe_trans _ _ _ h h'

variable (C) in
def OnSession (P : Event → Prop) : Session B C → Session B C → Prop := OnDevices (OnDevice P)

omit [UsbBus B] [UsbClass C] in
theorem session_refl (s : Session B C) : OnSession C P s s := device_refl _

omit [UsbBus B] [UsbClass C] in
theorem session_trans (s t u : Session B C) (h : OnSession C P s t) (h' : OnSession C P t u) :
    OnSession C P s u := device_trans _ _ _ h h'

omit [UsbBus B] in
theorem within_devicePipe {m : PipeM B α} (hm : Within (OnPipes P) m) :
    Within (OnDevice P) (UsbDevice.onPipe m) := within_zoom hm fun _ _ h => h

omit [UsbBus B] in
theorem within_deviceBus {m : BusM B α} (hm : Within (Traced.Grows P) m) :
    Within (OnDevice P) (UsbDevice.onBus m) := within_devicePipe (within_onBus hm)

omit [UsbBus B] [UsbClass C] in
theorem within_onPipe {m : PipeM B α} (hm : Within (OnPipes P) m) :
    Within (OnSession C P) (Session.onPipe m) := within_onDevice (within_devicePipe hm)

omit [UsbBus B] [UsbClass C] in
theorem within_modifyDevice {f : UsbDevice B → UsbDevice B} (hf : ∀ d, (f d).control = d.control) :
    Within (OnSession C P) (Session.modifyDevice f) := by
  refine within_onDevice fun d => ?_
  change OnPipes P d.control (f d).control
  rw [hf]
  exact pipe_refl _

omit [UsbBus B] [UsbClass C] in
theorem within_offer {f : Nat → C → PipeM B C} (hf : ∀ index cls, Within (OnPipes P) (f index cls))
    (index : Nat) (cls : C) : Within (OnDevice P) (offer f index cls) :=
  within_bind device_trans (within_devicePipe (hf index cls)) fun _ =>
    within_bind device_trans (within_get device_refl) fun _ => within_pure device_refl _

omit [UsbClass C] in
theorem within_callClass (h : Records P) {call : ClassCall} (hCall : call.IsControl)
    (m : C → ClassM α) (index : Nat) (cls : C) :
    Within (OnDevice P) (UsbDevice.onBus (callClass call m index cls) : DeviceM B α) :=
  within_deviceBus (within_bind Traced.Grows.trans (h.within_note index hCall) fun _ =>
    h.within_run (m cls))

omit [UsbClass C] in
theorem within_sessionReject (h : Records P) :
    Within (OnSession C P) (Session.reject : SessionM B C Unit) := within_onPipe h.within_reject

omit [UsbClass C] in
theorem within_accept (h : Records P) :
    Within (OnSession C P) (Session.accept : SessionM B C Unit) := within_onPipe h.within_acceptOut

omit [UsbClass C] in
theorem within_acceptWith (h : Records P) (data : List UInt8) :
    Within (OnSession C P) (Session.acceptWith data : SessionM B C Unit) :=
  within_onPipe (h.within_acceptIn (.copy data))

theorem within_standardControlIn (h : Records P) (req : Request) :
    Within (OnSession C P) (Session.standardControlIn req : SessionM B C Unit) := by
  refine within_bind session_trans (within_get session_refl) fun s => ?_
  cases req.standardIn with
  | deviceStatus => exact h.within_acceptWith _
  | interfaceStatus => exact h.within_acceptWith _
  | endpointStatus =>
    have hAsk : Within (Traced.Grows P) (Traced.isStalled req.endpointAddress : BusM B Bool) :=
      fun t => Traced.Grows.refl t
    exact within_bind session_trans (within_onDevice (within_deviceBus hAsk)) fun _ =>
      h.within_acceptWith _
  | descriptor => exact within_onPipe (h.within_getDescriptor _ _ _)
  | configuration => exact h.within_acceptWith _
  | interface =>
    refine within_ite h.within_sessionReject ?_
    refine within_bind session_trans (within_firstClass device_refl device_trans fun index cls => ?_)
      fun _ => h.within_acceptWith _
    refine h.within_callClass ?_ _ index cls
    trivial
  | other => exact within_pure session_refl _

theorem within_setInterface (h : Records P) (req : Request) :
    Within (OnSession C P) (Session.setInterface req : SessionM B C Unit) := by
  refine within_ite h.within_sessionReject ?_
  refine within_bind session_trans (within_firstClass device_refl device_trans fun index cls => ?_)
    fun found => ?_
  · refine within_bind device_trans (h.within_callClass ?_ _ index cls) fun _ =>
      within_pure device_refl _
    trivial
  · cases found with
    | some u => exact h.within_accept
    | none => exact within_ite h.within_accept h.within_sessionReject

theorem within_standardControlOut (h : Records P) (req : Request) :
    Within (OnSession C P) (Session.standardControlOut req : SessionM B C Unit) := by
  have hAccept {m : SessionM B C Unit} (hm : Within (OnSession C P) m) :
      Within (OnSession C P) (do
        m
        Session.accept : SessionM B C Unit) :=
    within_bind session_trans hm fun _ => h.within_accept
  have hHalt (stalled : Bool) :
      Within (OnSession C P) (Session.setHalt req stalled : SessionM B C Unit) :=
    within_onDevice (within_deviceBus fun _ => Traced.Grows.single rfl (h.receive _ trivial))
  refine within_bind session_trans (within_get session_refl) fun s => ?_
  cases req.standardOut with
  | clearRemoteWakeup => exact hAccept (within_modifyDevice fun _ => rfl)
  | clearHalt => exact hAccept (hHalt false)
  | setRemoteWakeup => exact hAccept (within_modifyDevice fun _ => rfl)
  | setHalt => exact hAccept (hHalt true)
  | setAddress =>
    refine hAccept (within_ite ?_ (within_modifyDevice fun _ => rfl))
    refine within_bind session_trans (within_onDevice (within_deviceBus fun _ => ?_)) fun _ =>
      within_modifyDevice fun _ => rfl
    exact Traced.Grows.single rfl (h.address _)
  | configure => exact hAccept (within_modifyDevice fun _ => rfl)
  | deconfigure => exact hAccept (within_when session_refl (within_modifyDevice fun _ => rfl))
  | setInterface => exact h.within_setInterface req
  | other => exact h.within_sessionReject

omit [UsbClass C] in
theorem within_rejectUnanswered (h : Records P) :
    Within (OnSession C P) (do
      let s ← get
      when (s.device.control.waitingForResponse = true) Session.reject : SessionM B C Unit) :=
  within_bind session_trans (within_get session_refl) fun _ =>
    within_when session_refl h.within_sessionReject

theorem within_answerSelf (h : Records P) (req : Request) :
    Within (OnSession C P) (answerSelf req : SessionM B C Unit) := by
  have hStandard : Within (OnSession C P) (standardControl req : SessionM B C Unit) := by
    unfold standardControl
    cases req.direction with
    | in_ => exact h.within_standardControlIn req
    | out => exact h.within_standardControlOut req
  exact within_bind session_trans (within_when session_refl hStandard) fun _ =>
    h.within_rejectUnanswered

theorem within_dispatch (h : Records P) (req : Request) :
    Within (OnSession C P) (Session.dispatch req : SessionM B C Unit) := by
  have hOffer (index : Nat) (cls : C) :
      Within (OnPipes P) (callControl req index cls : PipeM B C) := by
    unfold callControl
    cases req.direction with
    | in_ => exact h.within_callControlIn req index cls
    | out => exact h.within_callControlOut req index cls
  rw [dispatch_eq]
  refine within_bind session_trans
    (within_firstClass device_refl device_trans (within_offer hOffer)) fun found => ?_
  cases found with
  | some u => exact within_pure session_refl _
  | none => exact h.within_answerSelf req

omit [UsbClass C] in
theorem within_receive (h : Records P) (epOut epSetup : UInt16) :
    Within (OnPipes P) (Session.receive epOut epSetup : PipeM B (Option Request)) := by
  intro p
  rw [post_true_iff]
  intro r q hDone
  obtain ⟨found, -, hReceives⟩ := ControlPipe.receives_of_receive hDone
  exact hReceives.grows.mono h.receive

omit [UsbClass C] in
theorem within_completeIn (h : Records P) :
    Within (OnDevice P) (Session.completeIn : DeviceM B Unit) := by
  have hComplete : Within (OnPipes P) (ControlPipe.handleInComplete : PipeM B Bool) :=
    fun _ => post_true_iff.mpr fun _ _ hDone =>
      h.of_transfer (ControlPipe.completes_of_handleInComplete hDone).grows
  refine within_bind device_trans (within_attempt (within_devicePipe hComplete)) fun _ =>
    within_bind device_trans (within_get device_refl) fun _ => within_when device_refl ?_
  refine within_bind device_trans (within_deviceBus fun _ => ?_) fun _ =>
    within_modify fun d => device_refl d
  exact Traced.Grows.single rfl (h.address _)

theorem within_pollControl (h : Records P) (epOut epIn epSetup : UInt16) :
    Within (OnSession C P) (Session.pollControl epOut epIn epSetup : SessionM B C Unit) := by
  refine within_bind session_trans (within_onPipe (h.within_receive epOut epSetup)) fun found => ?_
  cases found with
  | some req =>
    exact within_bind session_trans (within_attempt (h.within_dispatch req)) fun _ =>
      within_pure session_refl _
  | none => exact within_when session_refl (within_onDevice h.within_completeIn)

end Device

end Records

end UsbStack
