import UsbStack.DeviceRun
import UsbStack.PipeCoupling

/-! # Two devices in tandem

Two devices whose pipes are coupled, which are the same beside the pipe and whose classes answer alike,
give the same results and stay so, whatever happens to them from then on.
-/

namespace UsbStack

set_option autoImplicit false

open Foundation Exec

variable {B C α : Type}

def InResponse.Uses (P : SliceFn → Prop) : InResponse C → Prop
  | accept f _ => P f
  | _ => True

structure Supplies (P : SliceFn → Prop) (C : Type) [UsbClass C] : Prop where
  controlIn : ∀ (cls : C) req, (UsbClass.controlIn cls req).Always (InResponse.Uses P)
  descriptor : ∀ (config : Config) (classes : List C) (req : Request) (f : WriterM Unit)
    (h : descriptorWriter config classes req = some f),
    P (acceptWriterFn f (keepsLength_descriptorWriter h))

/-- Classes to which the bytes that the control buffer held before are of no account. -/
structure Oblivious (C : Type) [UsbClass C] : Prop where
  controlIn : ∀ (cls : C) req, (UsbClass.controlIn cls req).Always (InResponse.Uses SliceFn.Blind)
  configuration : ∀ cls : C, (UsbClass.getConfigurationDescriptors cls).Blind

section Supplies

variable [UsbClass C]

theorem Oblivious.supplies (h : Oblivious C) : Supplies SliceFn.Blind C where
  controlIn := h.controlIn
  descriptor _ _ _ _ hWriter _ _ hLength :=
    agree_descriptorWriter hWriter (fun cls _ => h.configuration cls) hLength

theorem supplies_true : Supplies (fun _ => True) C where
  controlIn cls req := by
    generalize UsbClass.controlIn cls req = program
    induction program with
    | ret response => cases response <;> trivial
    | call c next ih => exact ih
    | panic => trivial
  descriptor _ _ _ _ _ := trivial

end Supplies

inductive Notice [UsbClass C] : ClassCall → (C → ClassM C) → Prop
  | reset : Notice .reset UsbClass.reset
  | poll : Notice .poll UsbClass.poll
  | endpointSetup (addr : EndpointAddress) :
      Notice (.endpointSetup addr) (UsbClass.endpointSetup · addr)
  | endpointOut (addr : EndpointAddress) : Notice (.endpointOut addr) (UsbClass.endpointOut · addr)
  | endpointInComplete (addr : EndpointAddress) :
      Notice (.endpointInComplete addr) (UsbClass.endpointInComplete · addr)

namespace ControlPipe

section Expects

variable [UsbBus B] {p q : ControlPipe B} {req : Request}

structure Expects (req : Request) (p : ControlPipe B) : Prop where
  waiting : p.waitingForResponse = true
  data : req.direction = .out → p.state = .completeOut

theorem Receives.expects {epSetup : UInt16} (h : Receives epSetup p (some req) q) : q.Expects req := by
  generalize hFound : some req = found at h
  cases h with
  | setup packet req' _ _ _ _ =>
    rcases (p.loaded 0 packet).begun_cases req' with
      ⟨-, hBegun⟩ | ⟨-, hBegun⟩ | ⟨-, hBegun⟩ | ⟨hIn, hBegun⟩ <;> rw [hBegun] at hFound ⊢
    · cases hFound
    · cases hFound
    · exact ⟨rfl, fun _ => rfl⟩
    · cases hFound
      exact ⟨rfl, fun hOut => UsbDirection.noConfusion (hOut.symm.trans hIn)⟩
  | complete _ _ _ _ => exact ⟨rfl, fun _ => rfl⟩
  | _ => cases hFound

/-- A class that does not answer leaves the data where they are. -/
theorem Expects.callControl [UsbClass C] {index : Nat} {cls : C} {r : Except UsbError C}
    (h : p.Expects req) (hDone : callControl req index cls p = .done r q)
    (hWaiting : q.waitingForResponse = true) : q.Expects req := by
  refine ⟨hWaiting, fun hOut => ?_⟩
  have hAwaits : p.Awaits req := by
    unfold Awaits
    rw [hOut]
    exact h.data hOut
  cases hData : slice? p.buf 0 p.len with
  | none =>
    unfold UsbStack.callControl at hDone
    rw [hOut] at hDone
    dsimp only at hDone
    rw [callControlOut, bind_of_panic (by rw [data_apply, hData])] at hDone
    cases hDone
  | some bytes =>
    have hShows : p.Shows req (.controlOut req bytes) := by
      unfold Shows
      rw [hOut]
      exact ⟨bytes, by rw [data_apply, hData], rfl⟩
    have hNext := (awaits_of_callControl hAwaits hShows hDone hWaiting).1
    unfold Awaits at hNext
    rw [hOut] at hNext
    exact hNext

end Expects

namespace Coupled

variable [UsbBus B] {T : Traced B → Traced B → Prop} {R : ControlPipe B → ControlPipe B → Prop}
  {P : SliceFn → Prop}

theorem lockstep_receive (hC : Coupled T R P) (epOut epSetup : UInt16) :
    Lockstep R (Session.receive epOut epSetup) := by
  refine lockstep_ite hC.handleSetup (lockstep_ite ?_ (lockstep_pure none))
  refine lockstep_bind (lockstep_attempt hC.handleOut) fun r => ?_
  cases r with
  | ok req => exact lockstep_pure req
  | error e => exact lockstep_pure none

theorem lockstep_inResponse (hC : Coupled T R P) {response : InResponse C} (h : response.Uses P) :
    Lockstep R response.perform := by
  have hNext {m : PipeM B Unit} (hm : Lockstep R m) (next : Except UsbError Unit → ClassM C) :
      Lockstep R (attempt m >>= fun result => onBus (next result).run) :=
    lockstep_bind (lockstep_attempt hm) fun _ => hC.lockstep_onBus (hC.lockstep_run _)
  cases response with
  | ignore cls => exact lockstep_pure cls
  | acceptWith data next => exact hNext (hC.acceptIn (hC.copy data)) next
  | acceptWithStatic data next => exact hNext (hC.acceptInStatic data) next
  | accept f next => exact hNext (hC.acceptIn h) next
  | reject next => exact hNext hC.reject next

theorem lockstep_outResponse (hC : Coupled T R P) (response : OutResponse C) :
    Lockstep R response.perform := by
  have hNext {m : PipeM B Unit} (hm : Lockstep R m) (next : Except UsbError Unit → ClassM C) :
      Lockstep R (attempt m >>= fun result => onBus (next result).run) :=
    lockstep_bind (lockstep_attempt hm) fun _ => hC.lockstep_onBus (hC.lockstep_run _)
  cases response with
  | ignore cls => exact lockstep_pure cls
  | accept next => exact hNext hC.acceptOut next
  | reject next => exact hNext hC.reject next

/-- The same class answers alike, once the call is on record on both sides. -/
theorem agree_callControl [UsbClass C] (hC : Coupled T R P) (hSupplies : Supplies P C)
    {req : Request} {index index' : Nat} (cls : C)
    (hNote : ∀ call, ∀ p q, R p q → Agree (fun _ => R)
      ((onBus (Traced.note (.class_ index call)) : PipeM B Unit) p)
      ((onBus (Traced.note (.class_ index' call)) : PipeM B Unit) q))
    {p q : ControlPipe B} (h : R p q) (hExpects : p.Expects req) :
    Agree (fun _ p' q' => R p' q' ∧ (p'.waitingForResponse = true → p'.Expects req))
      (callControl req index cls p) (callControl req index' cls q) := by
  suffices hAgree : Agree (fun _ => R) (callControl req index cls p) (callControl req index' cls q) by
    have hStays : Post True (callControl req index cls)
        (fun _ p' => p'.waitingForResponse = true → p'.Expects req) p :=
      post_true_iff.mpr fun _ _ hDone hWaiting => hExpects.callControl hDone hWaiting
    exact (hAgree.and_post hStays).mono fun _ _ _ hBoth => hBoth
  unfold UsbStack.callControl
  cases hDirection : req.direction with
  | in_ =>
    refine agree_bind (hNote _ p q h) (fun _ p q h => ?_) fun _ _ _ hNext => hNext
    have hUses : Post True (onBus (UsbClass.controlIn cls req).run)
        (fun r _ => ∀ response, r = .ok response → response.Uses P) p := by
      rw [onBus, post_zoom]
      exact Program.post_interp_always (hSupplies.controlIn cls req) _
    have hAsked := hC.lockstep_onBus (hC.lockstep_run (UsbClass.controlIn cls req)) p q h
    exact agree_bind (hAsked.and_post hUses)
      (fun response p' q' hNext => hC.lockstep_inResponse (hNext.2 response rfl) p' q' hNext.1)
      fun _ _ _ hNext => hNext.1
  | out =>
    refine agree_bind (hC.data h (hExpects.data hDirection)) (fun data p q hNext => ?_)
      fun _ _ _ hNext => hNext.1
    refine agree_bind (hNote _ p q hNext.1) (fun _ p q h => ?_) fun _ _ _ hNext => hNext
    exact lockstep_bind (hC.lockstep_onBus (hC.lockstep_run _)) hC.lockstep_outResponse p q h

theorem lockstep_getDescriptor [UsbClass C] (hC : Coupled T R P) (hSupplies : Supplies P C)
    (config : Config) (classes : List C) (req : Request) :
    Lockstep R (getDescriptor config classes req) := by
  unfold UsbStack.getDescriptor
  cases hWriter : descriptorWriter config classes req with
  | none => exact hC.reject
  | some f => exact hC.acceptIn (hSupplies.descriptor config classes req f hWriter)

end Coupled

end ControlPipe

open ControlPipe

variable {T : Traced B → Traced B → Prop} {R : ControlPipe B → ControlPipe B → Prop}
  {P : SliceFn → Prop}

/-- The pipes are related, and beside them the devices are the same. -/
def UsbDevice.Twin (R : ControlPipe B → ControlPipe B → Prop) (d e : UsbDevice B) : Prop :=
  ∃ q, R d.control q ∧ e = d.withPipe q

namespace UsbDevice

variable {d e : UsbDevice B}

theorem Twin.control (h : Twin R d e) : R d.control e.control := by
  obtain ⟨q, hRelated, rfl⟩ := h
  exact hRelated

theorem agree_onPipe {m m' : PipeM B α} (q : ControlPipe B)
    (hm : Agree (fun _ => R) (m d.control) (m' q)) :
    Agree (fun _ => Twin R) (onPipe m d) (onPipe m' (d.withPipe q)) := by
  apply (@agree_zoom _ _ _ _ _ (fun _ => R) UsbDevice.control (fun p d => { d with control := p })
    m m' d (d.withPipe q) hm).mono
  rintro _ _ _ ⟨p', q', rfl, rfl, hNext⟩
  exact ⟨q', hNext, rfl⟩

theorem lockstep_onPipe {m : PipeM B α} (hm : Lockstep R m) : Lockstep (Twin R) (onPipe m) := by
  rintro d _ ⟨q, h, rfl⟩
  exact agree_onPipe q (hm d.control q h)

/-- A change beside the pipe. -/
theorem lockstep_modify {f : UsbDevice B → UsbDevice B}
    (hBeside : ∀ d q, f (d.withPipe q) = (f d).withPipe q) (hControl : ∀ d, (f d).control = d.control) :
    Lockstep (Twin R) (modify f : DeviceM B Unit) := by
  refine Exec.lockstep_modify ?_
  rintro d _ ⟨q, h, rfl⟩
  exact ⟨q, (hControl d).symm ▸ h, hBeside d q⟩

theorem lockstep_onBus [UsbBus B] (hC : Coupled T R P) {m : BusM B α} (hm : Lockstep T m) :
    Lockstep (Twin R) (onBus m) := lockstep_onPipe (hC.lockstep_onBus hm)

end UsbDevice

def Session.Twin (R : ControlPipe B → ControlPipe B → Prop) (L : List C → List C → Prop)
    (s t : Session B C) : Prop := UsbDevice.Twin R s.device t.device ∧ L s.classes t.classes

namespace Session

variable {L : List C → List C → Prop} {s t : Session B C}

theorem agree_onDevice {m m' : DeviceM B α} (h : Twin R L s t)
    (hm : Agree (fun _ => UsbDevice.Twin R) (m s.device) (m' t.device)) :
    Agree (fun _ => Twin R L) (onDevice m s) (onDevice m' t) := by
  apply (agree_zoom hm).mono
  rintro _ _ _ ⟨d, e, rfl, rfl, hTwin⟩
  exact ⟨hTwin, h.2⟩

theorem lockstep_onDevice {m : DeviceM B α} (hm : Lockstep (UsbDevice.Twin R) m) :
    Lockstep (Twin R L) (onDevice m : SessionM B C α) :=
  fun _ _ h => agree_onDevice h (hm _ _ h.1)

theorem lockstep_onPipe {m : PipeM B α} (hm : Lockstep R m) :
    Lockstep (Twin R L) (onPipe m : SessionM B C α) := lockstep_onDevice (UsbDevice.lockstep_onPipe hm)

theorem lockstep_onBus [UsbBus B] (hC : Coupled T R P) {m : BusM B α} (hm : Lockstep T m) :
    Lockstep (Twin R L) (onDevice (UsbDevice.onBus m) : SessionM B C α) :=
  lockstep_onDevice (UsbDevice.lockstep_onBus hC hm)

theorem lockstep_modifyDevice {f : UsbDevice B → UsbDevice B}
    (hBeside : ∀ d q, f (d.withPipe q) = (f d).withPipe q) (hControl : ∀ d, (f d).control = d.control) :
    Lockstep (Twin R L) (modifyDevice f : SessionM B C Unit) :=
  lockstep_onDevice (UsbDevice.lockstep_modify hBeside hControl)

/-- What is read of the device beside its pipe is the same of its twin. -/
theorem lockstep_read {k : Session B C → SessionM B C α}
    (hSame : ∀ s q classes, k ⟨s.device.withPipe q, classes⟩ = k s)
    (hk : ∀ s, Lockstep (Twin R L) (k s)) : Lockstep (Twin R L) (get >>= k) := by
  refine lockstep_get_bind ?_ hk
  rintro s ⟨_, classes⟩ ⟨⟨q, -, rfl⟩, -⟩
  exact (hSame s q classes).symm

variable [UsbBus B] [UsbClass C]

/-- Class lists that `L` relates answer devices with coupled pipes alike. -/
structure Coupled (T : Traced B → Traced B → Prop) (R : ControlPipe B → ControlPipe B → Prop)
    (P : SliceFn → Prop) (L : List C → List C → Prop) : Prop
    extends toPipe : ControlPipe.Coupled T R P where
  notify {call : ClassCall} {f : C → ClassM C} : Notice call f → Lockstep (Twin R L) (notify call f)
  getAltSetting (interface : InterfaceNumber) : Lockstep (Twin R L)
    (firstClass fun index cls => UsbDevice.onBus
      (callClass (.getAltSetting interface) (UsbClass.getAltSetting · interface) index cls))
  setAltSetting (interface : InterfaceNumber) (alternative : UInt8) : Lockstep (Twin R L)
    (firstClass fun index cls => do
      let (taken, cls) ← UsbDevice.onBus (callClass (.setAltSetting interface alternative)
        (UsbClass.setAltSetting · interface alternative) index cls)
      pure (if taken then some () else none, cls))
  offers {req : Request} {s t : Session B C} : Twin R L s t → s.device.control.Expects req →
    Agree (fun _ => Twin R L) (firstClass (offer (callControl req)) s)
      (firstClass (offer (callControl req)) t)
  descriptor (config : Config) (req : Request) {classes classes' : List C} {p q : ControlPipe B} :
    L classes classes' → R p q →
      Agree (fun _ => R) (getDescriptor config classes req p) (getDescriptor config classes' req q)

variable (hC : Coupled T R P L)

include hC

theorem lockstep_acceptWith (data : List UInt8) :
    Lockstep (Twin R L) (acceptWith data : SessionM B C Unit) :=
  lockstep_onPipe (hC.acceptIn (hC.copy data))

theorem lockstep_reject : Lockstep (Twin R L) (reject : SessionM B C Unit) :=
  lockstep_onPipe hC.reject

theorem lockstep_accept : Lockstep (Twin R L) (accept : SessionM B C Unit) :=
  lockstep_onPipe hC.acceptOut

theorem lockstep_setAddress (addr : UInt8) :
    Lockstep (Twin R L) (setAddress addr : SessionM B C Unit) :=
  lockstep_ite (lockstep_bind (lockstep_onBus hC.toPipe (hC.lockstep_command _ _)) fun _ =>
    lockstep_modifyDevice (fun _ _ => rfl) fun _ => rfl)
    (lockstep_modifyDevice (fun _ _ => rfl) fun _ => rfl)

theorem lockstep_setHalt (req : Request) (stalled : Bool) :
    Lockstep (Twin R L) (setHalt req stalled : SessionM B C Unit) :=
  lockstep_onBus hC.toPipe (hC.lockstep_setStalled _ _)

theorem lockstep_standardControlIn (req : Request) :
    Lockstep (Twin R L) (standardControlIn req : SessionM B C Unit) := by
  unfold standardControlIn
  cases req.standardIn with
  | deviceStatus => exact lockstep_read (fun _ _ _ => rfl) fun _ => lockstep_acceptWith hC _
  | interfaceStatus => exact lockstep_read (fun _ _ _ => rfl) fun _ => lockstep_acceptWith hC _
  | endpointStatus =>
    refine lockstep_read (fun _ _ _ => rfl) fun _ => ?_
    exact lockstep_bind (lockstep_onBus hC.toPipe (hC.lockstep_isStalled _))
      fun _ => lockstep_acceptWith hC _
  | descriptor =>
    rintro s ⟨_, classes⟩ ⟨⟨q, h, rfl⟩, hList⟩
    refine agree_onDevice ⟨⟨q, h, rfl⟩, hList⟩ (UsbDevice.agree_onPipe q ?_)
    exact hC.descriptor s.device.config req hList h
  | configuration => exact lockstep_read (fun _ _ _ => rfl) fun _ => lockstep_acceptWith hC _
  | interface =>
    refine lockstep_read (fun _ _ _ => rfl) fun _ => lockstep_ite (lockstep_reject hC) ?_
    exact lockstep_bind (hC.getAltSetting _) fun _ => lockstep_acceptWith hC _
  | other => exact lockstep_read (fun _ _ _ => rfl) fun _ => lockstep_pure ()

theorem lockstep_setInterface (req : Request) :
    Lockstep (Twin R L) (setInterface req : SessionM B C Unit) := by
  refine lockstep_ite (lockstep_reject hC) (lockstep_bind (hC.setAltSetting _ _) fun found => ?_)
  cases found with
  | some u => exact lockstep_accept hC
  | none => exact lockstep_ite (lockstep_accept hC) (lockstep_reject hC)

theorem lockstep_standardControlOut (req : Request) :
    Lockstep (Twin R L) (standardControlOut req : SessionM B C Unit) := by
  have hThen {m : SessionM B C Unit} (hm : Lockstep (Twin R L) m) :
      Lockstep (Twin R L) (m >>= fun _ => accept) := lockstep_bind hm fun _ => lockstep_accept hC
  refine lockstep_read (fun s q _ => ?_) fun s => ?_
  · cases req.standardOut <;> rfl
  · cases req.standardOut with
    | clearRemoteWakeup => exact hThen (lockstep_modifyDevice (fun _ _ => rfl) fun _ => rfl)
    | clearHalt => exact hThen (lockstep_setHalt hC req false)
    | setRemoteWakeup => exact hThen (lockstep_modifyDevice (fun _ _ => rfl) fun _ => rfl)
    | setHalt => exact hThen (lockstep_setHalt hC req true)
    | setAddress => exact hThen (lockstep_setAddress hC _)
    | configure => exact hThen (lockstep_modifyDevice (fun _ _ => rfl) fun _ => rfl)
    | deconfigure =>
      exact hThen (lockstep_when (lockstep_modifyDevice (fun _ _ => rfl) fun _ => rfl))
    | setInterface => exact lockstep_setInterface hC req
    | other => exact lockstep_reject hC

theorem lockstep_answerSelf (req : Request) :
    Lockstep (Twin R L) (answerSelf req : SessionM B C Unit) := by
  have hStandard : Lockstep (Twin R L) (standardControl req : SessionM B C Unit) := by
    unfold standardControl
    cases req.direction with
    | in_ => exact lockstep_standardControlIn hC req
    | out => exact lockstep_standardControlOut hC req
  refine lockstep_bind (lockstep_when hStandard) fun _ => lockstep_get_bind ?_ fun _ =>
    lockstep_when (lockstep_reject hC)
  rintro s t ⟨h, -⟩
  rw [hC.waiting h.control]

/-- Twins dispatch a request alike. -/
theorem agree_dispatch {req : Request} (h : Twin R L s t) (hExpects : s.device.control.Expects req) :
    Agree (fun _ => Twin R L) (dispatch req s) (dispatch req t) := by
  rw [dispatch_eq]
  refine agree_bind (hC.offers h hExpects) ?_ fun _ _ _ hNext => hNext
  rintro (_ | ⟨⟩) s' t' hNext
  · exact lockstep_answerSelf hC req s' t' hNext
  · exact ⟨rfl, hNext⟩

theorem lockstep_reset : Lockstep (Twin R L) (reset : SessionM B C Unit) :=
  lockstep_bind (lockstep_onBus hC.toPipe (hC.lockstep_command _ _)) fun _ =>
    lockstep_bind (lockstep_modifyDevice (fun _ _ => rfl) fun _ => rfl) fun _ =>
      lockstep_bind (lockstep_onPipe (lockstep_modify fun _ _ h => hC.idle h)) fun _ =>
        hC.notify .reset

theorem lockstep_completeIn : Lockstep (UsbDevice.Twin R) (completeIn : DeviceM B Unit) := by
  refine lockstep_bind (lockstep_attempt (UsbDevice.lockstep_onPipe hC.handleInComplete)) fun _ => ?_
  refine lockstep_get_bind ?_ fun d => lockstep_when (lockstep_bind
    (UsbDevice.lockstep_onBus hC.toPipe (hC.lockstep_command _ _))
    fun _ => UsbDevice.lockstep_modify (fun _ _ => rfl) fun _ => rfl)
  rintro d _ ⟨q, -, rfl⟩
  rfl

theorem lockstep_pollControl (epOut epIn epSetup : UInt16) :
    Lockstep (Twin R L) (pollControl epOut epIn epSetup : SessionM B C Unit) := by
  intro s t h
  have hReceive : Lockstep (Twin R L) (onPipe (receive epOut epSetup) : SessionM B C (Option Request)) :=
    lockstep_onPipe (hC.lockstep_receive epOut epSetup)
  have hExpects : Post True (onPipe (receive epOut epSetup) : SessionM B C (Option Request))
      (fun r u => ∀ req, r = .ok (some req) → u.device.control.Expects req) s := by
    rw [onPipe, onDevice, UsbDevice.onPipe, post_zoom, post_zoom, post_true_iff]
    rintro _ p hDone req rfl
    exact (Receives.of_receive hDone).expects
  refine agree_bind ((hReceive s t h).and_post hExpects) ?_ fun _ _ _ hNext => hNext.1
  rintro (_ | req) s' t' ⟨hNext, hReq⟩
  · exact lockstep_when (lockstep_onDevice (lockstep_completeIn hC)) s' t' hNext
  · refine agree_bind (agree_attempt (agree_dispatch hC hNext (hReq req rfl))) ?_ ?_
    · rintro _ u v ⟨_, -, hLast⟩
      exact ⟨rfl, hLast⟩
    · rintro e u v ⟨_, ⟨⟩, -⟩

theorem lockstep_pollEndpoints (epOut epIn epSetup : UInt16) (rounds i : Nat) (bit eps : UInt16) :
    Lockstep (Twin R L) (pollEndpoints epOut epIn epSetup rounds i bit eps : SessionM B C Unit) := by
  induction rounds generalizing i bit eps with
  | zero => exact lockstep_pure ()
  | succ rounds ih =>
    exact lockstep_bind (lockstep_when (hC.notify (.endpointSetup _))) fun _ =>
      lockstep_bind (lockstep_when (hC.notify (.endpointOut _))) fun _ =>
        lockstep_bind (lockstep_when (hC.notify (.endpointInComplete _))) fun _ =>
          lockstep_when (ih (i + 1) _ _)

theorem lockstep_pollData (epOut epIn epSetup : UInt16) :
    Lockstep (Twin R L) (pollData epOut epIn epSetup : SessionM B C Unit) :=
  lockstep_bind (lockstep_when (lockstep_pollControl hC epOut epIn epSetup)) fun _ =>
    lockstep_bind (lockstep_when (lockstep_pollEndpoints hC epOut epIn epSetup _ _ _ _)) fun _ =>
      hC.notify .poll

theorem lockstep_handleEvent (pr : PollResult) :
    Lockstep (Twin R L) (handleEvent pr : SessionM B C Bool) := by
  cases pr with
  | none => exact lockstep_pure false
  | reset => exact lockstep_bind (lockstep_reset hC) fun _ => lockstep_pure false
  | data epOut epIn epSetup =>
    exact lockstep_bind (lockstep_pollData hC epOut epIn epSetup) fun _ => lockstep_pure true
  | resume => exact lockstep_pure false
  | suspend =>
    exact lockstep_bind (lockstep_bind (lockstep_onBus hC.toPipe (hC.lockstep_command _ _)) fun _ =>
      lockstep_modifyDevice (fun _ _ => rfl) fun _ => rfl) fun _ => lockstep_pure false

theorem lockstep_leaveSuspend : Lockstep (Twin R L) (leaveSuspend : SessionM B C Unit) :=
  lockstep_bind (lockstep_onBus hC.toPipe (hC.lockstep_command _ _)) fun _ =>
    lockstep_read (fun _ _ _ => rfl) fun _ => lockstep_bind (lockstep_ofOption _ _) fun _ =>
      lockstep_modifyDevice (fun _ _ => rfl) fun _ => rfl

theorem lockstep_poll : Lockstep (Twin R L) (poll : SessionM B C Bool) := by
  refine lockstep_bind (lockstep_onBus hC.toPipe hC.lockstep_poll) fun pr =>
    lockstep_read (fun _ _ _ => rfl) fun s => ?_
  refine lockstep_ite (lockstep_ite (lockstep_pure false) ?_) (lockstep_handleEvent hC pr)
  exact lockstep_bind (lockstep_leaveSuspend hC) fun _ => lockstep_handleEvent hC pr

end Session

/-- The same input, but for the classes that the application brings in. -/
inductive DeviceInput.Corresponds (L : List C → List C → Prop) :
    DeviceInput B C → DeviceInput B C → Prop
  | poll : Corresponds L .poll .poll
  | hardware (bus : B) : Corresponds L (.hardware bus) (.hardware bus)
  | setClasses {classes classes' : List C} (h : L classes classes') :
      Corresponds L (.setClasses classes) (.setClasses classes')
  | useEndpoints (m : ClassM Unit) : Corresponds L (.useEndpoints m) (.useEndpoints m)
  | setSelfPowered (isSelfPowered : Bool) :
      Corresponds L (.setSelfPowered isSelfPowered) (.setSelfPowered isSelfPowered)

theorem corresponds_refl {L : List C → List C → Prop} (hL : ∀ classes, L classes classes)
    (input : DeviceInput B C) : input.Corresponds L input := by
  cases input with
  | poll => exact .poll
  | hardware bus => exact .hardware bus
  | setClasses classes => exact .setClasses (hL classes)
  | useEndpoints m => exact .useEndpoints m
  | setSelfPowered isSelfPowered => exact .setSelfPowered isSelfPowered

section Perform

variable [UsbBus B] [UsbClass C] {L : List C → List C → Prop} {s t : Session B C}

/-- Twins answer every input alike, and stay twins. -/
theorem agree_perform (hC : Session.Coupled T R P L) {input input' : DeviceInput B C}
    (hInput : input.Corresponds L input') (h : s.Twin R L t) :
    Agree (fun _ => Session.Twin R L) (input.perform s) (input'.perform t) := by
  cases hInput with
  | poll =>
    exact lockstep_bind (Session.lockstep_poll hC) (fun found => lockstep_pure (some found)) s t h
  | hardware bus =>
    obtain ⟨⟨q, hRelated, hDevice⟩, hList⟩ := h
    have hNext := hC.next bus [] (hC.bus hRelated)
    rw [List.append_nil, List.append_nil] at hNext
    refine ⟨rfl, ⟨{ q with bus := ⟨bus, q.bus.trace⟩ }, hC.withBus hRelated hNext, ?_⟩, hList⟩
    rw [hDevice]
    rfl
  | setClasses hList => exact ⟨rfl, h.1, hList⟩
  | useEndpoints m =>
    exact lockstep_bind (Session.lockstep_onBus hC.toPipe (hC.lockstep_run m))
      (fun _ => lockstep_pure none) s t h
  | setSelfPowered isSelfPowered =>
    have hSet : Lockstep (Session.Twin R L)
        (Session.modifyDevice (UsbDevice.setSelfPowered isSelfPowered) : SessionM B C Unit) :=
      Session.lockstep_modifyDevice (fun _ _ => rfl) fun _ => rfl
    exact lockstep_bind hSet (fun _ => lockstep_pure none) s t h

end Perform

end UsbStack
