import UsbStack.DescriptorBuffer
import UsbStack.PipeSteps
import Mathlib.Logic.Relation

/-! # What the handling of a request does to the device

A request passes through code of the classes, of the standard handlers and of the pipe. All that it
can do to the device is a sequence of the steps below, each with the condition under which it is
taken.
-/

namespace UsbStack

set_option autoImplicit false

open Foundation Exec Relation

variable {B C α : Type}

/-- What code of a class can cause. -/
def ForeignEvent : Event → Prop
  | .read addr _ _ | .write addr _ _ | .setStalled addr _ => addr.index ≠ 0
  | .class_ _ _ => True
  | _ => False

def EndpointEvent : Event → Prop
  | .read addr _ _ | .write addr _ _ | .setStalled addr _ => addr.index ≠ 0
  | _ => False

theorem foreignEvent_of_endpoint {event : Event} (h : EndpointEvent event) : ForeignEvent event := by
  cases event <;> first | exact h | exact h.elim

namespace UsbDevice

def withPipe (d : UsbDevice B) (p : ControlPipe B) : UsbDevice B := { d with control := p }

def withBus (d : UsbDevice B) (t : Traced B) : UsbDevice B :=
  d.withPipe { d.control with bus := t }

end UsbDevice

section OnPipe

variable {s t : Session B C} {m : PipeM B α} {r : Except UsbError α} {q : ControlPipe B}

theorem Session.of_onPipe (h : (Session.onPipe m : SessionM B C α) s = .done r t) :
    ∃ q, m s.device.control = .done r q ∧ t = { s with device := s.device.withPipe q } := by
  rw [Session.onPipe, Session.onDevice, zoom_apply, UsbDevice.onPipe, zoom_apply] at h
  cases hRun : m s.device.control with
  | panic reason =>
    rw [hRun] at h
    cases h
  | done r' q =>
    rw [hRun] at h
    cases h
    exact ⟨q, rfl, rfl⟩

theorem Session.onPipe_of_done (h : m s.device.control = .done r q) :
    (Session.onPipe m : SessionM B C α) s = .done r { s with device := s.device.withPipe q } := by
  rw [Session.onPipe, Session.onDevice, zoom_apply, UsbDevice.onPipe, zoom_apply, h]
  rfl

end OnPipe

/-- Classes that leave the standard requests to the device. -/
def LeavesStandard (C : Type) [UsbClass C] : Prop :=
  ∀ (cls : C) (req : Request) (data : List UInt8), req.requestType = .standard →
    (UsbClass.controlOut cls req data).Always fun response => ∃ cls', response = .ignore cls'

def Request.IsStandardOut (req : Request) (arm : StandardOut) : Prop :=
  req.requestType = .standard ∧ req.standardOut = arm

def Request.IsHalt (req : Request) : Prop :=
  req.IsStandardOut .clearHalt ∨ req.IsStandardOut .setHalt

variable [UsbBus B] [UsbClass C]

omit [UsbClass C] in
theorem isStalled_apply (addr : EndpointAddress) (s : Session B C) :
    (Session.onDevice (UsbDevice.onBus (Traced.isStalled addr)) : SessionM B C Bool) s =
      .done (.ok (UsbBus.isStalled s.device.control.bus.bus addr)) s := rfl

section Relation

variable (B C) (req : Request) (allowed : UsbDevice B → Prop)

/-- One step of the handling of `req`; the device is configured only where `allowed` holds. -/
inductive ControlStep : UsbDevice B → UsbDevice B → Prop
  | foreign {d : UsbDevice B} {t : Traced B}
      (h : Traced.Grows ForeignEvent d.control.bus t) : ControlStep d (d.withBus t)
  | answer {d : UsbDevice B} {p : ControlPipe B} (h : d.control.AnswersIn p) :
      ControlStep d (d.withPipe p)
  | acceptOut {d : UsbDevice B} {r : Except UsbError Unit} {p : ControlPipe B}
      (hAddress : LeavesStandard C → UsbBus.quirkSetAddressBeforeStatus B = false →
        req.IsStandardOut .setAddress → d.pendingAddress = req.value.toUInt8)
      (h : d.control.AcceptsOut r p) : ControlStep d (d.withPipe p)
  | setHalt {d : UsbDevice B} (stalled : Bool) (hReq : req.IsHalt) :
      ControlStep d (d.withBus (d.control.bus.stalling req.endpointAddress stalled))
  | setRemoteWakeup {d : UsbDevice B} (enabled : Bool) :
      ControlStep d { d with remoteWakeupEnabled := enabled }
  | setPendingAddress {d : UsbDevice B} (hReq : req.IsStandardOut .setAddress)
      (hQuirk : UsbBus.quirkSetAddressBeforeStatus B = false) :
      ControlStep d { d with pendingAddress := req.value.toUInt8 }
  | setAddress {d : UsbDevice B} {t : Traced B} (hReq : req.IsStandardOut .setAddress)
      (hQuirk : UsbBus.quirkSetAddressBeforeStatus B = true)
      (hTrace : t.trace = d.control.bus.trace ++ [.setDeviceAddress req.value.toUInt8]) :
      ControlStep d { d.withBus t with deviceState := .addressed }
  | configure {d : UsbDevice B} (hReq : req.IsStandardOut .configure) (hAllowed : allowed d) :
      ControlStep d { d with deviceState := .configured }
  | deconfigure {d : UsbDevice B} (hReq : req.IsStandardOut .deconfigure)
      (hState : d.deviceState ≠ .default) : ControlStep d { d with deviceState := .addressed }

def ControlSteps : UsbDevice B → UsbDevice B → Prop := ReflTransGen (ControlStep B C req allowed)

end Relation

section Classes

inductive ClassAct (t : Traced B) : Traced B → Prop
  | called (index : Nat) (call : ClassCall) : ClassAct t (t.noting (.class_ index call))
  | used {u : Traced B} (call : EndpointCall) {r : Except UsbError call.Reply}
      (h : call.perform t = .done r u) : ClassAct t u

/-- What classes do to the bus between two steps of the device. -/
def ClassUse : Traced B → Traced B → Prop := ReflTransGen ClassAct

omit [UsbClass C] in
theorem classUse_refl (t : Traced B) : ClassUse t t := .refl

omit [UsbClass C] in
theorem classUse_trans (t u v : Traced B) (h : ClassUse t u) (h' : ClassUse u v) : ClassUse t v :=
  ReflTransGen.trans h h'

omit [UsbClass C] in
theorem EndpointCall.grows (call : EndpointCall) :
    Within (Traced.Grows EndpointEvent) (call.perform : BusM B call.Reply) := by
  have hRead (ep : ClassEndpoint) (len : Nat) :
      Within (Traced.Grows EndpointEvent) (ep.read len : BusM B (List UInt8)) :=
    fun _ => Traced.Grows.single rfl ep.notControl
  have hWrite (ep : ClassEndpoint) (data : List UInt8) :
      Within (Traced.Grows EndpointEvent) (ep.write data : BusM B Nat) :=
    fun _ => Traced.Grows.single rfl ep.notControl
  have hStall (ep : ClassEndpoint) (b : Bool) :
      Within (Traced.Grows EndpointEvent) (Traced.setStalled ep.address b : BusM B Unit) :=
    fun _ => Traced.Grows.single rfl ep.notControl
  cases call with
  | read ep len => exact within_attempt (hRead ep len)
  | write ep data => exact within_attempt (hWrite ep data)
  | stall ep => exact hStall ep true
  | unstall ep => exact hStall ep false

omit [UsbClass C] in
theorem within_run_endpoint (m : ClassM α) :
    Within (Traced.Grows EndpointEvent) (m.run : BusM B α) :=
  Program.within_interp Traced.Grows.refl Traced.Grows.trans EndpointCall.grows _ m

omit [UsbClass C] in
theorem ClassUse.grows {t u : Traced B} (h : ClassUse t u) : Traced.Grows ForeignEvent t u := by
  induction h with
  | refl => exact .refl _
  | tail _ hAct ih =>
    cases hAct with
    | called index call => exact .trans _ _ _ ih (.single rfl trivial)
    | used call hDone =>
      exact .trans _ _ _ ih ((call.grows.of_done hDone).mono fun _ => foreignEvent_of_endpoint)

omit [UsbClass C] in
theorem within_run (m : ClassM α) : Within ClassUse (m.run : BusM B α) :=
  Program.within_interp classUse_refl classUse_trans
    (fun call _ => post_true_iff.mpr fun _ _ hDone => .single (.used call hDone)) _ m

omit [UsbClass C] in
theorem within_note (index : Nat) (call : ClassCall) :
    Within ClassUse (Traced.note (.class_ index call) : BusM B Unit) :=
  fun _ => .single (.called index call)

omit [UsbClass C] in
theorem within_callClass (call : ClassCall) (m : C → ClassM α) (index : Nat) (cls : C) :
    Within ClassUse (callClass call m index cls : BusM B α) :=
  within_bind classUse_trans (within_note index call) fun _ => within_run (m cls)

end Classes

section Loops

variable {R : UsbDevice B → UsbDevice B → Prop}

omit [UsbBus B] [UsbClass C] in
theorem within_forEachClass (hRefl : ∀ d, R d d) (hTrans : ∀ d e f, R d e → R e f → R d f)
    {f : Nat → C → DeviceM B C} (hf : ∀ index cls, Within R (f index cls)) (index : Nat)
    (classes : List C) : Within R (forEachClass f index classes) := by
  induction classes generalizing index with
  | nil => exact within_pure hRefl _
  | cons cls rest ih =>
    refine within_bind hTrans (hf index cls) fun _ => ?_
    exact within_bind hTrans (ih (index + 1)) fun _ => within_pure hRefl _

omit [UsbBus B] [UsbClass C] in
theorem within_findClass (hRefl : ∀ d, R d d) (hTrans : ∀ d e f, R d e → R e f → R d f)
    {f : Nat → C → DeviceM B (Option α × C)} (hf : ∀ index cls, Within R (f index cls))
    (index : Nat) (classes : List C) : Within R (findClass f index classes) := by
  induction classes generalizing index with
  | nil => exact within_pure hRefl _
  | cons cls rest ih =>
    refine within_bind hTrans (hf index cls) fun found => ?_
    obtain ⟨found, cls⟩ := found
    cases found with
    | some a => exact within_pure hRefl _
    | none => exact within_bind hTrans (ih (index + 1)) fun _ => within_pure hRefl _

def OnDevices (R : UsbDevice B → UsbDevice B → Prop) (s s' : Session B C) : Prop :=
  R s.device s'.device

omit [UsbBus B] [UsbClass C] in
theorem within_onDevice {m : DeviceM B α} (hm : Within R m) :
    Within (OnDevices R) (Session.onDevice m : SessionM B C α) := within_zoom hm fun _ _ h => h

omit [UsbBus B] [UsbClass C] in
theorem within_eachClass (hRefl : ∀ d, R d d) (hTrans : ∀ d e f, R d e → R e f → R d f)
    {f : Nat → C → DeviceM B C} (hf : ∀ index cls, Within R (f index cls)) :
    Within (OnDevices R) (Session.eachClass f) := by
  have hRefl' (s : Session B C) : OnDevices R s s := hRefl s.device
  have hTrans' (s t u : Session B C) (h : OnDevices R s t) (h' : OnDevices R t u) :
      OnDevices R s u := hTrans _ _ _ h h'
  refine within_bind hTrans' (within_get hRefl') fun s => ?_
  exact within_bind hTrans' (within_onDevice (within_forEachClass hRefl hTrans hf _ _)) fun _ =>
    within_modify fun s => hRefl s.device

omit [UsbBus B] [UsbClass C] in
theorem within_firstClass (hRefl : ∀ d, R d d) (hTrans : ∀ d e f, R d e → R e f → R d f)
    {f : Nat → C → DeviceM B (Option α × C)} (hf : ∀ index cls, Within R (f index cls)) :
    Within (OnDevices R) (Session.firstClass f) := by
  have hRefl' (s : Session B C) : OnDevices R s s := hRefl s.device
  have hTrans' (s t u : Session B C) (h : OnDevices R s t) (h' : OnDevices R t u) :
      OnDevices R s u := hTrans _ _ _ h h'
  refine within_bind hTrans' (within_get hRefl') fun s => ?_
  refine within_bind hTrans' (within_onDevice (within_findClass hRefl hTrans hf _ _)) fun _ => ?_
  exact within_bind hTrans' (within_modify fun s => hRefl s.device) fun _ => within_pure hRefl' _

end Loops

section Pipe

variable {req : Request} {allowed : UsbDevice B → Prop}

theorem controlSteps_refl (d : UsbDevice B) : ControlSteps B C req allowed d d := .refl

theorem controlSteps_trans (d e f : UsbDevice B) (h : ControlSteps B C req allowed d e)
    (h' : ControlSteps B C req allowed e f) : ControlSteps B C req allowed d f := h.trans h'

variable (B C req allowed) in
/-- What code that works on the pipe alone does to every device with this pipe. -/
def PipeSteps (p q : ControlPipe B) : Prop :=
  ∀ d : UsbDevice B, d.control = p → ControlSteps B C req allowed d (d.withPipe q)

theorem pipeSteps_refl (p : ControlPipe B) : PipeSteps B C req allowed p p := by
  rintro d rfl
  exact .refl

theorem pipeSteps_trans (p q s : ControlPipe B) (h : PipeSteps B C req allowed p q)
    (h' : PipeSteps B C req allowed q s) : PipeSteps B C req allowed p s :=
  fun d hd => (h d hd).trans (h' (d.withPipe q) rfl)

theorem controlSteps_onPipe {m : PipeM B α} (hm : Within (PipeSteps B C req allowed) m) :
    Within (ControlSteps B C req allowed) (UsbDevice.onPipe m) :=
  within_zoom hm fun d _ h => h d rfl

theorem pipeSteps_onBus {m : BusM B α} (hm : Within ClassUse m) :
    Within (PipeSteps B C req allowed) (ControlPipe.onBus m) :=
  within_zoom hm fun p t h d hd => by
    subst hd
    exact .single (.foreign h.grows)

theorem controlSteps_onBus {m : BusM B α} (hm : Within ClassUse m) :
    Within (ControlSteps B C req allowed) (UsbDevice.onBus m) :=
  controlSteps_onPipe (pipeSteps_onBus hm)

theorem pipeSteps_acceptIn (f : SliceFn) :
    Within (PipeSteps B C req allowed) (ControlPipe.acceptIn f.run) :=
  fun _ => post_true_iff.mpr fun _ _ h _ hd =>
    .single (.answer (hd ▸ ControlPipe.answersIn_of_acceptIn f h))

theorem pipeSteps_acceptInStatic (data : List UInt8) :
    Within (PipeSteps B C req allowed) (ControlPipe.acceptInStatic data) :=
  fun _ => post_true_iff.mpr fun _ _ h _ hd =>
    .single (.answer (hd ▸ ControlPipe.answersIn_of_acceptInStatic h))

theorem pipeSteps_reject : Within (PipeSteps B C req allowed) ControlPipe.reject :=
  fun _ => post_true_iff.mpr fun _ _ h _ hd =>
    .single (.answer (hd ▸ ControlPipe.answersIn_of_reject h))

theorem pipeSteps_next {m : PipeM B Unit} (hm : Within (PipeSteps B C req allowed) m)
    (next : Except UsbError Unit → ClassM C) :
    Within (PipeSteps B C req allowed) (do
      let result ← attempt m
      ControlPipe.onBus (next result).run : PipeM B C) :=
  within_bind pipeSteps_trans (within_attempt hm) fun _ => pipeSteps_onBus (within_run _)

theorem pipeSteps_inResponse (response : InResponse C) :
    Within (PipeSteps B C req allowed) response.perform := by
  cases response with
  | ignore cls => exact within_pure pipeSteps_refl cls
  | acceptWith data next => exact pipeSteps_next (pipeSteps_acceptIn (.copy data)) next
  | acceptWithStatic data next => exact pipeSteps_next (pipeSteps_acceptInStatic data) next
  | accept f next => exact pipeSteps_next (pipeSteps_acceptIn f) next
  | reject next => exact pipeSteps_next pipeSteps_reject next

theorem pipeSteps_callControlIn (index : Nat) (cls : C) :
    Within (PipeSteps B C req allowed) (callControlIn req index cls) :=
  within_bind pipeSteps_trans (pipeSteps_onBus (within_note index _)) fun _ =>
    within_bind pipeSteps_trans (pipeSteps_onBus (within_run _)) pipeSteps_inResponse

theorem pipeSteps_outResponse {response : OutResponse C}
    (h : LeavesStandard C → req.requestType = .standard → ∃ cls, response = .ignore cls) :
    Within (PipeSteps B C req allowed) response.perform := by
  cases response with
  | ignore cls => exact within_pure pipeSteps_refl cls
  | accept next =>
    refine pipeSteps_next (fun p => post_true_iff.mpr fun r q hDone d hd => .single ?_) next
    refine .acceptOut (fun hLeaves _ hReq => ?_) (hd ▸ ControlPipe.acceptsOut_of_acceptOut hDone)
    obtain ⟨cls, hIgnore⟩ := h hLeaves hReq.1
    cases hIgnore
  | reject next => exact pipeSteps_next pipeSteps_reject next

theorem pipeSteps_callControlOut (index : Nat) (cls : C) :
    Within (PipeSteps B C req allowed) (callControlOut req index cls) := by
  have hData : Within (PipeSteps B C req allowed) (ControlPipe.data : PipeM B (List UInt8)) :=
    within_bind pipeSteps_trans (within_get pipeSteps_refl) fun _ =>
      within_ofOption pipeSteps_refl _ _
  refine within_bind pipeSteps_trans hData fun data => ?_
  refine within_bind pipeSteps_trans (pipeSteps_onBus (within_note index _)) fun _ p => ?_
  have hRun : Within (PipeSteps B C req allowed)
      (ControlPipe.onBus (UsbClass.controlOut cls req data).run) := pipeSteps_onBus (within_run _)
  have hLeaves : Post True (ControlPipe.onBus (UsbClass.controlOut cls req data).run)
      (fun r _ => ∀ response, r = .ok response → LeavesStandard C →
        req.requestType = .standard → ∃ cls', response = .ignore cls') p := by
    by_cases hStandard : LeavesStandard C ∧ req.requestType = .standard
    · rw [ControlPipe.onBus, post_zoom]
      apply (Program.post_interp_always (hStandard.1 cls req data hStandard.2) p.bus).mono
      exact fun r _ h response hr _ _ => h response hr
    · exact post_true_iff.mpr fun _ _ _ _ _ hL hS => absurd ⟨hL, hS⟩ hStandard
  rw [post_bind]
  apply ((hRun p).and hLeaves).mono
  rintro r q ⟨hq, hResponse⟩
  cases r with
  | error e => exact hq
  | ok response =>
    apply (pipeSteps_outResponse (hResponse response rfl) q).mono
    exact fun _ s hs => pipeSteps_trans _ _ _ hq hs

theorem controlSteps_offer {f : Nat → C → PipeM B C}
    (hf : ∀ index cls, Within (PipeSteps B C req allowed) (f index cls)) (index : Nat) (cls : C) :
    Within (ControlSteps B C req allowed) (offer f index cls) :=
  within_bind controlSteps_trans (controlSteps_onPipe (hf index cls)) fun _ =>
    within_bind controlSteps_trans (within_get controlSteps_refl) fun _ =>
      within_pure controlSteps_refl _

end Pipe

section Handlers

variable {req : Request} {allowed : UsbDevice B → Prop}

variable (B C req allowed) in
def SessionSteps : Session B C → Session B C → Prop := OnDevices (ControlSteps B C req allowed)

theorem sessionSteps_refl (s : Session B C) : SessionSteps B C req allowed s s := .refl

theorem sessionSteps_trans (s t u : Session B C) (h : SessionSteps B C req allowed s t)
    (h' : SessionSteps B C req allowed t u) : SessionSteps B C req allowed s u :=
  ReflTransGen.trans h h'

theorem sessionSteps_onPipe {m : PipeM B α} (hm : Within (PipeSteps B C req allowed) m) :
    Within (SessionSteps B C req allowed) (Session.onPipe m) :=
  within_onDevice (controlSteps_onPipe hm)

theorem sessionSteps_reject : Within (SessionSteps B C req allowed) Session.reject :=
  sessionSteps_onPipe pipeSteps_reject

theorem sessionSteps_acceptWith (data : List UInt8) :
    Within (SessionSteps B C req allowed) (Session.acceptWith data) :=
  sessionSteps_onPipe (pipeSteps_acceptIn (.copy data))

theorem pipeSteps_getDescriptor (config : Config) (classes : List C) (req' : Request) :
    Within (PipeSteps B C req allowed) (getDescriptor config classes req') := by
  unfold getDescriptor
  cases h : descriptorWriter config classes req' with
  | none => exact pipeSteps_reject
  | some f => exact pipeSteps_acceptIn (acceptWriterFn f (keepsLength_descriptorWriter h))

theorem sessionSteps_firstClass {f : Nat → C → DeviceM B (Option α × C)}
    (hf : ∀ index cls, Within (ControlSteps B C req allowed) (f index cls)) :
    Within (SessionSteps B C req allowed) (Session.firstClass f) :=
  within_firstClass controlSteps_refl controlSteps_trans hf

theorem sessionSteps_standardControlIn :
    Within (SessionSteps B C req allowed) (Session.standardControlIn req) := by
  refine within_bind sessionSteps_trans (within_get sessionSteps_refl) fun s => ?_
  cases req.standardIn with
  | deviceStatus => exact sessionSteps_acceptWith _
  | interfaceStatus => exact sessionSteps_acceptWith _
  | endpointStatus =>
    refine within_bind sessionSteps_trans (within_onDevice (controlSteps_onBus ?_)) fun _ =>
      sessionSteps_acceptWith _
    exact fun t => ReflTransGen.refl
  | descriptor => exact sessionSteps_onPipe (pipeSteps_getDescriptor _ _ _)
  | configuration => exact sessionSteps_acceptWith _
  | interface =>
    refine within_ite sessionSteps_reject ?_
    refine within_bind sessionSteps_trans (sessionSteps_firstClass fun index cls => ?_) fun _ =>
      sessionSteps_acceptWith _
    exact controlSteps_onBus (within_callClass _ _ index cls)
  | other => exact within_pure sessionSteps_refl _

theorem sessionSteps_rejectUnanswered :
    Within (SessionSteps B C req allowed) (do
      let s ← get
      when (s.device.control.waitingForResponse = true) Session.reject) :=
  within_bind sessionSteps_trans (within_get sessionSteps_refl) fun _ =>
    within_when sessionSteps_refl sessionSteps_reject

theorem sessionSteps_controlIn :
    Within (SessionSteps B C req allowed) (Session.controlIn req) := by
  refine within_bind sessionSteps_trans
    (sessionSteps_firstClass (controlSteps_offer pipeSteps_callControlIn)) fun found => ?_
  cases found with
  | some u => exact within_pure sessionSteps_refl _
  | none =>
    exact within_bind sessionSteps_trans
      (within_when sessionSteps_refl sessionSteps_standardControlIn) fun _ =>
        sessionSteps_rejectUnanswered

theorem sessionSteps_modify {f : UsbDevice B → UsbDevice B}
    (h : ∀ d, ControlSteps B C req allowed d (f d)) :
    Within (SessionSteps B C req allowed) (Session.modifyDevice f) := within_onDevice h

theorem sessionSteps_accept (h : ¬ req.IsStandardOut .setAddress) :
    Within (SessionSteps B C req allowed) Session.accept :=
  sessionSteps_onPipe fun _ => post_true_iff.mpr fun _ _ hDone _ hd =>
    .single (.acceptOut (fun _ _ hReq => absurd hReq h) (hd ▸ ControlPipe.acceptsOut_of_acceptOut hDone))

theorem sessionSteps_setHalt (h : req.IsHalt) (stalled : Bool) :
    Within (SessionSteps B C req allowed) (Session.setHalt req stalled) :=
  fun _ => ReflTransGen.single (.setHalt stalled h)

theorem post_accept {s t : Session B C} (hSteps : SessionSteps B C req allowed s t)
    (hAddress : UsbBus.quirkSetAddressBeforeStatus B = false →
      t.device.pendingAddress = req.value.toUInt8) :
    Post True Session.accept (fun _ u => SessionSteps B C req allowed s u) t := by
  rw [Session.accept, Session.onPipe, Session.onDevice, post_zoom, UsbDevice.onPipe, post_zoom,
    post_true_iff]
  intro r p hDone
  exact ReflTransGen.tail hSteps
    (.acceptOut (fun _ hQuirk _ => hAddress hQuirk) (ControlPipe.acceptsOut_of_acceptOut hDone))

theorem sessionSteps_setAddress (hReq : req.IsStandardOut .setAddress) :
    Within (SessionSteps B C req allowed) (do
      Session.setAddress req.value.toUInt8
      Session.accept) := by
  intro s
  rw [post_bind, Session.setAddress]
  by_cases hQuirk : UsbBus.quirkSetAddressBeforeStatus B = true
  · rw [if_pos hQuirk]
    refine post_accept (ReflTransGen.single (.setAddress hReq hQuirk rfl)) fun hFalse => ?_
    rw [hQuirk] at hFalse
    cases hFalse
  · rw [if_neg hQuirk]
    exact post_accept
      (ReflTransGen.single (.setPendingAddress hReq (Bool.eq_false_iff.mpr hQuirk))) fun _ => rfl

theorem sessionSteps_setInterface (h : ¬ req.IsStandardOut .setAddress) :
    Within (SessionSteps B C req allowed) (Session.setInterface req : SessionM B C Unit) := by
  refine within_ite sessionSteps_reject ?_
  refine within_bind sessionSteps_trans (sessionSteps_firstClass fun index cls => ?_) fun found => ?_
  · exact within_bind controlSteps_trans (controlSteps_onBus (within_callClass _ _ index cls))
      fun _ => within_pure controlSteps_refl _
  · cases found with
    | some u => exact sessionSteps_accept h
    | none => exact within_ite (sessionSteps_accept h) sessionSteps_reject

/-- All that the handler of standard OUT requests does, arm by arm. -/
theorem post_standardControlOut {s : Session B C} (hStandard : req.requestType = .standard)
    (hAllowed : req.IsStandardOut .configure → allowed s.device) :
    Post True (Session.standardControlOut req) (fun _ t => SessionSteps B C req allowed s t) s := by
  rw [Session.standardControlOut, post_bind, post_get]
  dsimp only
  have hArm {arm : StandardOut} (h : req.standardOut = arm) : req.IsStandardOut arm := ⟨hStandard, h⟩
  have hOther {arm : StandardOut} (h : req.standardOut = arm) (hNe : arm ≠ .setAddress) :
      ¬ req.IsStandardOut .setAddress := fun hAddress => hNe (h.symm.trans hAddress.2)
  have hAccept (h : ¬ req.IsStandardOut .setAddress) :
      Within (SessionSteps B C req allowed) Session.accept := sessionSteps_accept h
  have hRemoteWakeup (h : ¬ req.IsStandardOut .setAddress) (enabled : Bool) :
      Within (SessionSteps B C req allowed) (do
        Session.modifyDevice fun d => { d with remoteWakeupEnabled := enabled }
        Session.accept : SessionM B C Unit) :=
    within_bind sessionSteps_trans
      (sessionSteps_modify fun _ => ReflTransGen.single (.setRemoteWakeup enabled)) fun _ =>
        sessionSteps_accept h
  have hHalt (hReq : req.IsHalt) (h : ¬ req.IsStandardOut .setAddress) (stalled : Bool) :
      Within (SessionSteps B C req allowed) (do
        Session.setHalt req stalled
        Session.accept : SessionM B C Unit) :=
    within_bind sessionSteps_trans (sessionSteps_setHalt hReq stalled) fun _ =>
      sessionSteps_accept h
  cases h : req.standardOut with
  | clearRemoteWakeup => exact hRemoteWakeup (hOther h nofun) false s
  | clearHalt => exact hHalt (.inl (hArm h)) (hOther h nofun) false s
  | setRemoteWakeup => exact hRemoteWakeup (hOther h nofun) true s
  | setHalt => exact hHalt (.inr (hArm h)) (hOther h nofun) true s
  | setAddress => exact sessionSteps_setAddress (hArm h) s
  | configure =>
    have hStep : SessionSteps B C req allowed s
        { s with device := { s.device with deviceState := .configured } } :=
      ReflTransGen.single (.configure (hArm h) (hAllowed (hArm h)))
    apply (hAccept (hOther h nofun) _).mono
    exact fun _ t ht => sessionSteps_trans _ _ _ hStep ht
  | deconfigure =>
    by_cases hState : s.device.deviceState = .default
    · rw [when_of_false (not_not.mpr hState)]
      exact hAccept (hOther h nofun) s
    · rw [when_of_true hState]
      have hStep : SessionSteps B C req allowed s
          { s with device := { s.device with deviceState := .addressed } } :=
        ReflTransGen.single (.deconfigure (hArm h) hState)
      apply (hAccept (hOther h nofun) _).mono
      exact fun _ t ht => sessionSteps_trans _ _ _ hStep ht
  | setInterface => exact sessionSteps_setInterface (hOther h nofun) s
  | other => exact sessionSteps_reject s

/-- All that `control_out` does to the device. `allowed` has to hold where the classes leave a
request to configure the device. -/
theorem post_controlOut {s : Session B C}
    (hAllowed : Post True (Session.firstClass (offer (callControlOut req))) (fun r t =>
      r = .ok none → req.IsStandardOut .configure → allowed t.device) s) :
    Post True (Session.controlOut req) (fun _ t => SessionSteps B C req allowed s t) s := by
  rw [Session.controlOut, post_bind]
  have hOffer : Within (SessionSteps B C req allowed)
      (Session.firstClass (offer (callControlOut req))) :=
    sessionSteps_firstClass (controlSteps_offer pipeSteps_callControlOut)
  apply ((hOffer s).and hAllowed).mono
  rintro r t ⟨hSteps, hAllowed⟩
  have hTail {m : SessionM B C Unit}
      (hm : Post True m (fun _ u => SessionSteps B C req allowed t u) t) :
      Post True m (fun _ u => SessionSteps B C req allowed s u) t :=
    hm.mono fun _ u => sessionSteps_trans s t u hSteps
  cases r with
  | error e => exact hSteps
  | ok found =>
    cases found with
    | some u => exact hSteps
    | none =>
      apply hTail
      rw [post_bind]
      have hStandard : Post True (when (req.requestType = .standard)
          (Session.standardControlOut req))
          (fun _ u => SessionSteps B C req allowed t u) t :=
        post_when (fun h => post_standardControlOut h (hAllowed rfl)) fun _ => sessionSteps_refl t
      apply hStandard.mono
      intro r u hu
      cases r with
      | error e => exact hu
      | ok v =>
        apply (sessionSteps_rejectUnanswered u).mono
        exact fun _ w hw => sessionSteps_trans t u w hu hw

theorem post_dispatch {s : Session B C}
    (hAllowed : req.direction = .out →
      Post True (Session.firstClass (offer (callControlOut req))) (fun r t =>
        r = .ok none → req.IsStandardOut .configure → allowed t.device) s) :
    Post True (Session.dispatch req) (fun _ t => SessionSteps B C req allowed s t) s := by
  unfold Session.dispatch
  cases h : req.direction with
  | in_ => exact sessionSteps_controlIn s
  | out => exact post_controlOut (hAllowed h)

theorem sessionSteps_dispatch :
    Within (SessionSteps B C req (fun _ => True)) (Session.dispatch req) :=
  fun _ => post_dispatch fun _ => post_true_iff.mpr fun _ _ _ _ _ => trivial

omit [UsbClass C] in
theorem ControlSteps.invariant [UsbClass C] {I : UsbDevice B → Prop} {d d' : UsbDevice B}
    (h : ControlSteps B C req allowed d d')
    (hStep : ∀ e e', ControlStep B C req allowed e e' → I e → I e') (hd : I d) : I d' := by
  induction h with
  | refl => exact hd
  | tail _ hLast ih => exact hStep _ _ hLast ih

end Handlers

end UsbStack
