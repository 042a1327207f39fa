import UsbStack.DeviceRun

/-! # Every request that is handed out is answered

The dispatch of a request ends with the request accepted or rejected, unless the writer of a
standard descriptor fails.
-/

namespace UsbStack

set_option autoImplicit false

open Foundation Exec

variable {B C α : Type} [UsbBus B] [UsbClass C]

section Unfailing

omit [UsbClass C] in
theorem unfailing_run (m : ClassM α) : Unfailing (m.run : BusM B α) := by
  refine Program.unfailing_interp (fun call => ?_) _ m
  cases call with
  | read ep len => exact unfailing_attempt (ep.read len)
  | write ep data => exact unfailing_attempt (ep.write data)
  | stall ep => exact fun _ => ⟨(), rfl⟩
  | unstall ep => exact fun _ => ⟨(), rfl⟩

omit [UsbBus B] [UsbClass C] in
theorem unfailing_note (event : Event) : Unfailing (Traced.note event : BusM B Unit) :=
  fun _ => ⟨(), rfl⟩

omit [UsbBus B] [UsbClass C] in
theorem unfailing_findClass {f : Nat → C → DeviceM B (Option α × C)}
    (hf : ∀ index cls, Unfailing (f index cls)) (index : Nat) (classes : List C) :
    Unfailing (findClass f index classes) := by
  induction classes generalizing index with
  | nil => exact unfailing_pure _
  | cons cls rest ih =>
    refine unfailing_bind (hf index cls) fun found => ?_
    obtain ⟨found, cls⟩ := found
    cases found with
    | some a => exact unfailing_pure _
    | none => exact unfailing_bind (ih (index + 1)) fun _ => unfailing_pure _

omit [UsbBus B] [UsbClass C] in
theorem unfailing_firstClass {f : Nat → C → DeviceM B (Option α × C)}
    (hf : ∀ index cls, Unfailing (f index cls)) : Unfailing (Session.firstClass f) :=
  unfailing_bind unfailing_get fun s =>
    unfailing_bind (unfailing_zoom (unfailing_findClass hf 0 s.classes)) fun _ =>
      unfailing_bind (unfailing_modify _) fun _ => unfailing_pure _

omit [UsbClass C] in
theorem unfailing_callClass (call : ClassCall) (m : C → ClassM α) (index : Nat) (cls : C) :
    Unfailing (callClass call m index cls : BusM B α) :=
  unfailing_bind (unfailing_note _) fun _ => unfailing_run _

omit [UsbBus B] [UsbClass C] in
theorem unfailing_pipeBus {m : BusM B α} (hm : Unfailing m) : Unfailing (ControlPipe.onBus m) :=
  unfailing_zoom hm

omit [UsbBus B] [UsbClass C] in
theorem unfailing_deviceBus {m : BusM B α} (hm : Unfailing m) : Unfailing (UsbDevice.onBus m) :=
  unfailing_zoom (unfailing_pipeBus hm)

omit [UsbClass C] in
theorem unfailing_next (m : PipeM B Unit) (next : Except UsbError Unit → ClassM C) :
    Unfailing (do
      let result ← attempt m
      ControlPipe.onBus (next result).run : PipeM B C) :=
  unfailing_bind (unfailing_attempt m) fun _ => unfailing_pipeBus (unfailing_run _)

omit [UsbClass C] in
theorem unfailing_inResponse (response : InResponse C) :
    Unfailing (response.perform : PipeM B C) := by
  cases response with
  | ignore cls => exact unfailing_pure cls
  | _ => exact unfailing_next _ _

omit [UsbClass C] in
theorem unfailing_outResponse (response : OutResponse C) :
    Unfailing (response.perform : PipeM B C) := by
  cases response with
  | ignore cls => exact unfailing_pure cls
  | _ => exact unfailing_next _ _

theorem unfailing_callControlIn (req : Request) (index : Nat) (cls : C) :
    Unfailing (callControlIn req index cls : PipeM B C) :=
  unfailing_bind (unfailing_pipeBus (unfailing_note _)) fun _ =>
    unfailing_bind (unfailing_pipeBus (unfailing_run _)) unfailing_inResponse

theorem unfailing_callControlOut (req : Request) (index : Nat) (cls : C) :
    Unfailing (callControlOut req index cls : PipeM B C) :=
  unfailing_bind (unfailing_bind unfailing_get fun _ => unfailing_ofOption _ _) fun _ =>
    unfailing_bind (unfailing_pipeBus (unfailing_note _)) fun _ =>
      unfailing_bind (unfailing_pipeBus (unfailing_run _)) unfailing_outResponse

end Unfailing

section Offers

omit [UsbBus B] [UsbClass C] in
/-- A class is found if and only if the pipe waits no longer. -/
theorem post_findClass_offer {f : Nat → C → PipeM B C} (hf : ∀ index cls, Unfailing (f index cls))
    (index : Nat) (classes : List C) (d : UsbDevice B)
    (hWaiting : d.control.waitingForResponse = true) :
    Post True (findClass (offer f) index classes) (fun r e =>
      ∃ found rest, r = .ok (found, rest) ∧ e.control.waitingForResponse = found.isNone) d := by
  induction classes generalizing index d with
  | nil => exact ⟨none, [], rfl, hWaiting⟩
  | cons cls rest ih =>
    rw [findClass, post_bind, offer, post_bind]
    apply (unfailing_zoom (hf index cls) d).mono
    rintro _ e ⟨cls', rfl⟩
    dsimp only
    rw [post_bind, post_get]
    dsimp only
    rw [post_pure]
    dsimp only
    by_cases hStill : e.control.waitingForResponse = true
    · rw [if_pos hStill, post_bind]
      apply (ih (index + 1) e hStill).mono
      rintro _ e' ⟨found, rest', rfl, hFound⟩
      exact ⟨found, cls' :: rest', rfl, hFound⟩
    · rw [if_neg hStill]
      exact ⟨some (), cls' :: rest, rfl, Bool.eq_false_iff.mpr hStill⟩

omit [UsbBus B] [UsbClass C] in
theorem post_firstClass_offer {f : Nat → C → PipeM B C}
    (hf : ∀ index cls, Unfailing (f index cls)) {s : Session B C}
    (hWaiting : s.device.control.waitingForResponse = true) :
    Post True (Session.firstClass (offer f)) (fun r t =>
      ∃ found, r = .ok found ∧ t.device.control.waitingForResponse = found.isNone) s := by
  rw [Session.firstClass, post_bind, post_get]
  dsimp only
  rw [post_bind, Session.onDevice, post_zoom]
  apply (post_findClass_offer hf 0 s.classes s.device hWaiting).mono
  rintro _ d ⟨found, rest, rfl, hFound⟩
  exact ⟨found, rfl, hFound⟩

end Offers

section Course

variable {req : Request} {allowed : UsbDevice B → Prop} {d e : UsbDevice B}

omit [UsbBus B] [UsbClass C] in
theorem waiting_congr {p q : ControlPipe B} (h : q.state = p.state) :
    q.waitingForResponse = p.waitingForResponse := by
  unfold ControlPipe.waitingForResponse
  rw [h]

omit [UsbBus B] [UsbClass C] in
theorem not_waiting_of_transmits {p : ControlPipe B} (h : ControlPipe.Transmits p.state) :
    p.waitingForResponse = false := by
  unfold ControlPipe.waitingForResponse
  cases hState : p.state with
  | completeIn req =>
    rw [hState] at h
    exact h.elim
  | completeOut =>
    rw [hState] at h
    exact h.elim
  | _ => rfl

/-- A request stays unanswered in one way only: the pipe keeps its state. -/
theorem ControlStep.state (h : ControlStep B C req allowed d e) :
    e.control.state = d.control.state ∨ e.control.waitingForResponse = false := by
  cases h with
  | answer hAnswers =>
    cases hAnswers with
    | kept buf _ => exact .inl rfl
    | errored buf _ _ => exact .inr rfl
    | transmitted _ hSent => exact .inr (not_waiting_of_transmits hSent.state)
  | acceptOut _ hAccepts =>
    cases hAccepts with
    | accepted _ => exact .inr rfl
    | _ => exact .inl rfl
  | _ => exact .inl rfl

theorem ControlSteps.state (h : ControlSteps B C req allowed d e) :
    e.control.state = d.control.state ∨ e.control.waitingForResponse = false := by
  refine h.invariant (I := fun e =>
    e.control.state = d.control.state ∨ e.control.waitingForResponse = false) ?_ (.inl rfl)
  rintro e e' hStep (hSame | hAnswered)
  · rw [← hSame]
    exact hStep.state
  · rcases hStep.state with hSame | hAnswered'
    · exact .inr ((waiting_congr hSame).trans hAnswered)
    · exact .inr hAnswered'

theorem ControlSteps.wellFormed (h : ControlSteps B C req allowed d e) (hd : d.WellFormed) :
    e.WellFormed := h.invariant (fun _ _ => UsbDevice.WellFormed.controlStep) hd

theorem post_firstClass_then {β : Type} (req : Request) {f : Nat → C → DeviceM B (Option α × C)}
    {k : Option α → SessionM B C β} {Q : Except UsbError β → Session B C → Prop} {s : Session B C}
    (hUnfailing : ∀ index cls, Unfailing (f index cls))
    (hf : ∀ index cls, Within (ControlSteps B C req fun _ => True) (f index cls))
    (hk : ∀ found t, SessionSteps B C req (fun _ => True) s t → Post True (k found) Q t) :
    Post True (Session.firstClass f >>= k) Q s := by
  rw [post_bind]
  apply ((sessionSteps_firstClass hf s).and (unfailing_firstClass hUnfailing s)).mono
  rintro _ t ⟨ht, found, rfl⟩
  exact hk found t ht

end Course

section Answers

variable {s : Session B C}

omit [UsbClass C] in
theorem reject_of_waiting (hWaiting : s.device.control.waitingForResponse = true) :
    (Session.reject : SessionM B C Unit) s =
      .done (.ok ()) { s with device := s.device.withPipe s.device.control.errored } := by
  refine Session.onPipe_of_done ?_
  rw [ControlPipe.reject_apply, if_pos hWaiting]

omit [UsbClass C] in
theorem post_reject_answered :
    Post True Session.reject (fun _ t => t.device.control.waitingForResponse = false) s := by
  rw [Session.reject, Session.onPipe, Session.onDevice, post_zoom, UsbDevice.onPipe, post_zoom,
    Post, ControlPipe.reject_apply]
  by_cases hWaiting : s.device.control.waitingForResponse = true
  · rw [if_pos hWaiting]
    rfl
  · rw [if_neg hWaiting]
    exact Bool.eq_false_iff.mpr hWaiting

omit [UsbClass C] in
theorem post_rejectUnanswered {A : Session B C → Prop} {m : SessionM B C Unit}
    (hA : ∀ t : Session B C, t.device.control.waitingForResponse = false → A t)
    (hm : Post True m (fun r t => ∀ e, r = .error e → A t) s) :
    Post True (do
      m
      let s ← get
      when (s.device.control.waitingForResponse = true) Session.reject) (fun _ t => A t) s := by
  rw [post_bind]
  apply hm.mono
  intro r t ht
  cases r with
  | error e => exact ht e rfl
  | ok v =>
    rw [post_bind, post_get]
    refine post_when (fun _ => post_reject_answered.mono fun _ u => hA u) fun hNot => ?_
    exact hA t (Bool.eq_false_iff.mpr hNot)

omit [UsbClass C] in
/-- Nothing more happens after an answer. -/
theorem unwaiting_bind {m : SessionM B C Unit}
    (h : Post True m (fun r t => r = .ok () → t.device.control.waitingForResponse = false) s) :
    (do
      m
      let s ← get
      when (s.device.control.waitingForResponse = true) Session.reject : SessionM B C Unit) s = m s := by
  cases hDone : m s with
  | panic reason => rw [bind_of_panic hDone]
  | done r t =>
    cases r with
    | error e => rw [bind_of_error hDone]
    | ok v =>
      have hAnswered := post_of_done h hDone rfl
      rw [bind_of_ok hDone, bind_apply, get_apply]
      dsimp only
      rw [hAnswered, when_of_false Bool.false_ne_true]
      rfl

omit [UsbClass C] in
theorem post_acceptWith_answered {data : List UInt8}
    (hState : (∃ req, s.device.control.state = .completeIn req) ∨
      s.device.control.waitingForResponse = false)
    (hRoom : data.length ≤ s.device.control.buf.length) :
    Post True (Session.acceptWith data) (fun _ t => t.device.control.waitingForResponse = false) s := by
  rw [Session.acceptWith, Session.onPipe, Session.onDevice, post_zoom, UsbDevice.onPipe, post_zoom,
    ControlPipe.acceptWith, post_true_iff]
  intro r q hAccept
  by_cases hIn : ∃ req, s.device.control.state = .completeIn req
  · obtain ⟨req, hIn⟩ := hIn
    rw [ControlPipe.acceptIn_completeIn _ hIn, SliceFn.copy_run_apply,
      if_neg (Nat.not_lt.mpr hRoom)] at hAccept
    dsimp only at hAccept
    split at hAccept
    · cases hAccept
      rfl
    · exact not_waiting_of_transmits (ControlPipe.transmitted_of_writeInChunk rfl hAccept).state
  · rw [ControlPipe.acceptIn_of_ne _ fun req hReq => hIn ⟨req, hReq⟩] at hAccept
    cases hAccept
    exact hState.resolve_left hIn

omit [UsbClass C] in
theorem post_acceptWith_transmits {req : Request} {data : List UInt8}
    (hState : s.device.control.state = .completeIn req)
    (hRoom : data.length ≤ s.device.control.buf.length) :
    Post True (Session.acceptWith data)
      (fun _ t => ControlPipe.Transmits t.device.control.state) s := by
  rw [Session.acceptWith, Session.onPipe, Session.onDevice, post_zoom, UsbDevice.onPipe, post_zoom,
    ControlPipe.acceptWith, post_true_iff]
  intro r q hAccept
  rw [ControlPipe.acceptIn_completeIn _ hState, SliceFn.copy_run_apply,
    if_neg (Nat.not_lt.mpr hRoom)] at hAccept
  dsimp only at hAccept
  rw [if_neg (by rw [length_overwrite (by omega)]; omega)] at hAccept
  exact (ControlPipe.transmitted_of_writeInChunk rfl hAccept).state

end Answers

section In

/-- The classes leave a GET_DESCRIPTOR request to the device, whose writer returns an error. -/
def DescriptorFails (req : Request) (s : Session B C) : Prop :=
  ∃ (u : Session B C) (f : WriterM Unit) (e : UsbError) (buf : List UInt8),
    Session.firstClass (offer (callControlIn req)) s = .done (.ok none) u ∧
    req.requestType = .standard ∧ req.standardIn = .descriptor ∧
    descriptorWriter u.device.config u.classes req = some f ∧
    acceptWriter f u.device.control.buf = .done (.error e) buf

variable {req : Request} {s : Session B C}

omit [UsbClass C] in
theorem post_acceptWriter_answered {f : WriterM Unit}
    (hState : s.device.control.state = .completeIn req)
    (hFits : ∀ e buf, acceptWriter f s.device.control.buf ≠ .done (.error e) buf) :
    Post True (Session.onPipe (ControlPipe.acceptIn (acceptWriter f)))
      (fun _ t => t.device.control.waitingForResponse = false) s := by
  rw [Session.onPipe, Session.onDevice, post_zoom, UsbDevice.onPipe, post_zoom, post_true_iff]
  intro r q hAccept
  rw [ControlPipe.acceptIn_completeIn _ hState] at hAccept
  split at hAccept
  · cases hAccept
  · exact absurd ‹_› (hFits _ _)
  · split at hAccept
    · cases hAccept
      rfl
    · exact not_waiting_of_transmits (ControlPipe.transmitted_of_writeInChunk rfl hAccept).state

/-- An error of the handler of IN requests comes after an answer, if the descriptor can be written. -/
theorem post_standardControlIn (hWell : s.device.WellFormed)
    (hState : s.device.control.state = .completeIn req)
    (hFits : ∀ f e buf, req.standardIn = .descriptor →
      descriptorWriter s.device.config s.classes req = some f →
      acceptWriter f s.device.control.buf ≠ .done (.error e) buf) :
    Post True (Session.standardControlIn req) (fun r t =>
      ∀ e, r = .error e → t.device.control.waitingForResponse = false) s := by
  have hTwo (v : UInt16) : (toLeBytes v).length ≤ s.device.control.buf.length := by
    have hRoom := hWell.room
    change 2 ≤ _
    omega
  have hAccept {data : List UInt8} (hRoom : data.length ≤ s.device.control.buf.length) :
      Post True (Session.acceptWith data) (fun r t =>
        ∀ e, r = .error e → t.device.control.waitingForResponse = false) s :=
    (post_acceptWith_answered (.inl ⟨req, hState⟩) hRoom).mono fun _ _ h _ _ => h
  rw [Session.standardControlIn, post_bind, post_get]
  dsimp only
  cases hCase : req.standardIn with
  | deviceStatus =>
    dsimp only
    exact hAccept (hTwo _)
  | interfaceStatus =>
    dsimp only
    exact hAccept (hTwo _)
  | endpointStatus =>
    dsimp only
    rw [post_bind, Post, isStalled_apply]
    exact hAccept (hTwo _)
  | descriptor =>
    dsimp only
    rw [getDescriptor]
    cases hWriter : descriptorWriter s.device.config s.classes req with
    | none => exact post_reject_answered.mono fun _ _ h _ _ => h
    | some f =>
      exact (post_acceptWriter_answered hState fun e buf => hFits f e buf hCase hWriter).mono
        fun _ _ h _ _ => h
  | configuration =>
    refine hAccept ?_
    have hRoom := hWell.room
    change 1 ≤ _
    omega
  | interface =>
    dsimp only
    split
    · exact post_reject_answered.mono fun _ _ h _ _ => h
    · refine post_firstClass_then req
        (fun index cls => unfailing_deviceBus (unfailing_callClass _ _ index cls))
        (fun index cls => controlSteps_onBus (within_callClass _ _ index cls)) fun setting t ht => ?_
      have hRoom := (ControlSteps.wellFormed ht hWell).room
      have hAfter : (∃ req, t.device.control.state = .completeIn req) ∨
          t.device.control.waitingForResponse = false :=
        (ControlSteps.state ht).imp_left fun hSame => ⟨req, hSame.trans hState⟩
      refine (post_acceptWith_answered hAfter ?_).mono fun _ _ h _ _ => h
      change 1 ≤ _
      omega
  | other =>
    intro e h
    cases h

/-- An IN request is answered unless the descriptor that it asks for cannot be written. -/
theorem post_controlIn_answered (hWell : s.device.WellFormed)
    (hState : s.device.control.state = .completeIn req) :
    Post True (Session.controlIn req) (fun _ t =>
      t.device.control.waitingForResponse = false ↔ ¬ DescriptorFails req s) s := by
  have hWaiting : s.device.control.waitingForResponse = true := by
    unfold ControlPipe.waitingForResponse
    rw [hState]
  rw [Session.controlIn, post_bind, post_true_iff]
  intro r u hFirst
  obtain ⟨found, rfl, hFound⟩ :=
    post_of_done (post_firstClass_offer (unfailing_callControlIn req) hWaiting) hFirst
  cases found with
  | some v =>
    refine iff_of_true hFound ?_
    rintro ⟨u', f, e, buf, hFirst', -⟩
    cases hFirst.symm.trans hFirst'
  | none =>
    have hSteps : SessionSteps B C req (fun _ => True) s u :=
      (sessionSteps_firstClass (controlSteps_offer pipeSteps_callControlIn)).of_done hFirst
    have hUnanswered : u.device.control.waitingForResponse = true := hFound
    have hWell' := ControlSteps.wellFormed hSteps hWell
    have hState' : u.device.control.state = .completeIn req := by
      rcases ControlSteps.state hSteps with hSame | hAnswered
      · exact hSame.trans hState
      · rw [hUnanswered] at hAnswered
        cases hAnswered
    by_cases hFails : DescriptorFails req s
    · obtain ⟨u', f, e, buf, hFirst', hStandard, hDescriptor, hWriter, hError⟩ := hFails
      cases hFirst.symm.trans hFirst'
      have hAccept : ControlPipe.acceptIn (acceptWriter f) u.device.control =
          .done (.error e) { u.device.control with buf := buf } := by
        rw [ControlPipe.acceptIn_completeIn _ hState', hError]
      have hUnanswered' : ({ u.device.control with buf := buf } : ControlPipe B).waitingForResponse =
          true := hUnanswered
      have hDescribe : getDescriptor u.device.config u.classes req =
          (ControlPipe.acceptIn (acceptWriter f) : PipeM B Unit) := by
        rw [getDescriptor, hWriter]
      have hHandler : Session.standardControlIn req u =
          .done (.error e) { u with device := { u.device with
            control := { u.device.control with buf := buf } } } := by
        rw [Session.standardControlIn, bind_apply, get_apply]
        dsimp only
        rw [hDescriptor]
        dsimp only
        rw [hDescribe, Session.onPipe, Session.onDevice, zoom_apply, UsbDevice.onPipe, zoom_apply,
          hAccept]
      dsimp only
      rw [when_of_true hStandard]
      unfold Post
      rw [bind_of_error hHandler]
      refine iff_of_false ?_ (not_not.mpr
        ⟨u, f, e, buf, hFirst, hStandard, hDescriptor, hWriter, hError⟩)
      rw [hUnanswered']
      exact Bool.noConfusion
    · refine post_rejectUnanswered (fun t ht => iff_of_true ht hFails) ?_
      refine post_when (fun hStandard => ?_) fun _ _ h => by cases h
      refine (post_standardControlIn hWell' hState' fun f e buf hDescriptor hWriter hError => ?_).mono
        fun _ t ht e he => iff_of_true (ht e he) hFails
      exact hFails ⟨u, f, e, buf, hFirst, hStandard, hDescriptor, hWriter, hError⟩

end In

section Out

def Session.refusals (s : Session B C) : Nat :=
  (refused (.control .in_) s.device.control.bus.trace).length

variable {req : Request} {allowed : UsbDevice B → Prop} {s t u : Session B C}

omit [UsbBus B] [UsbClass C] in
theorem refused_le {P : Event → Prop} {v w : Traced B} (h : Traced.Grows P v w)
    (addr : EndpointAddress) : (refused addr v.trace).length ≤ (refused addr w.trace).length := by
  obtain ⟨events, hTrace, -⟩ := h
  rw [hTrace, refused_append, List.length_append]
  omega

theorem ControlStep.refused_le {d e : UsbDevice B} (h : ControlStep B C req allowed d e)
    (addr : EndpointAddress) : (refused addr d.control.bus.trace).length ≤
      (refused addr e.control.bus.trace).length := by
  cases h with
  | foreign hGrows => exact UsbStack.refused_le hGrows addr
  | answer hAnswers => exact UsbStack.refused_le hAnswers.grows addr
  | acceptOut _ hAccepts => exact UsbStack.refused_le hAccepts.grows addr
  | setHalt stalled _ => exact UsbStack.refused_le (ControlPipe.grows_stalling _ _ _) addr
  | setAddress _ _ hTrace =>
    exact UsbStack.refused_le (P := fun _ => True) (Traced.Grows.single hTrace trivial) addr
  | _ => exact Nat.le_refl _

structure OutReady (s t : Session B C) : Prop where
  state : t.device.control.state = .completeOut ∨ t.device.control.waitingForResponse = false
  wellFormed : t.device.WellFormed
  refusals : s.refusals ≤ t.refusals

theorem OutReady.steps (h : OutReady s t) (hSteps : SessionSteps B C req allowed t u) :
    OutReady s u := by
  refine ⟨?_, ControlSteps.wellFormed hSteps h.wellFormed, Nat.le_trans h.refusals ?_⟩
  · rcases ControlSteps.state hSteps with hSame | hAnswered
    · rcases h.state with hOut | hAnswered
      · exact .inl (hSame.trans hOut)
      · exact .inr ((waiting_congr hSame).trans hAnswered)
    · exact .inr hAnswered
  · refine ControlSteps.invariant hSteps (I := fun d =>
      (refused (.control .in_) t.device.control.bus.trace).length ≤
        (refused (.control .in_) d.control.bus.trace).length) (fun d e hStep hd => ?_) (Nat.le_refl _)
    exact Nat.le_trans hd (hStep.refused_le _)

/-- The request has been answered, or the bus has refused a packet on EP0-IN since `s`. -/
def Settles (s t : Session B C) : Prop :=
  t.device.control.waitingForResponse = false ∨ s.refusals < t.refusals

omit [UsbClass C] in
theorem post_accept_settles (h : OutReady s t) :
    Post True Session.accept (fun r u => ∀ e, r = .error e → Settles s u) t := by
  rw [Session.accept, Session.onPipe, Session.onDevice, post_zoom, UsbDevice.onPipe, post_zoom,
    post_true_iff]
  intro r q hAccept e hError
  cases ControlPipe.acceptsOut_of_acceptOut hAccept with
  | unexpected hNot => exact .inl (h.state.resolve_left hNot)
  | refused _ hWrite =>
    refine .inr (Nat.lt_of_le_of_lt h.refusals ?_)
    change (refused _ _).length < (refused _ (t.device.control.bus.writing _ _).trace).length
    rw [Traced.trace_writing, hWrite, h.wellFormed.epIn, refused_append, List.length_append]
    exact Nat.lt_succ_self _
  | accepted _ => cases hError

theorem post_then_accept (h : OutReady s t) {m : SessionM B C Unit}
    (hm : Post True m (fun r u => r = .ok () ∧ SessionSteps B C req (fun _ => True) t u) t) :
    Post True (do m; Session.accept) (fun r u => ∀ e, r = .error e → Settles s u) t := by
  rw [post_bind]
  apply hm.mono
  rintro _ u ⟨rfl, hSteps⟩
  exact post_accept_settles (h.steps hSteps)

theorem post_setInterface_settles (h : OutReady s t) :
    Post True (Session.setInterface req) (fun r u => ∀ e, r = .error e → Settles s u) t := by
  have hReject {v : Session B C} :
      Post True Session.reject (fun r u => ∀ e, r = .error e → Settles s u) v :=
    post_reject_answered.mono fun _ _ hAnswered _ _ => .inl hAnswered
  unfold Session.setInterface
  split
  · exact hReject
  · refine post_firstClass_then req (fun index cls => ?_) (fun index cls => ?_) fun found u hu => ?_
    · exact unfailing_bind (unfailing_deviceBus (unfailing_callClass _ _ index cls)) fun _ =>
        unfailing_pure _
    · exact within_bind controlSteps_trans (controlSteps_onBus (within_callClass _ _ index cls))
        fun _ => within_pure controlSteps_refl _
    · cases found with
      | some v => exact post_accept_settles (h.steps hu)
      | none =>
        dsimp only
        split
        · exact post_accept_settles (h.steps hu)
        · exact hReject

/-- An error of the handler of OUT requests comes after an answer, or from the bus. -/
theorem post_standardControlOut_settles (h : OutReady s t) (hStandard : req.requestType = .standard) :
    Post True (Session.standardControlOut req) (fun r u => ∀ e, r = .error e → Settles s u) t := by
  have hArm {arm : StandardOut} (hCase : req.standardOut = arm) : req.IsStandardOut arm :=
    ⟨hStandard, hCase⟩
  have hOne {f : UsbDevice B → UsbDevice B}
      (hStep : ControlStep B C req (fun _ => True) t.device (f t.device)) :
      Post True (do Session.modifyDevice f; Session.accept)
        (fun r u => ∀ e, r = .error e → Settles s u) t :=
    post_then_accept h ⟨rfl, Relation.ReflTransGen.single hStep⟩
  rw [Session.standardControlOut, post_bind, post_get]
  dsimp only
  cases hCase : req.standardOut with
  | clearRemoteWakeup => exact hOne (.setRemoteWakeup false)
  | setRemoteWakeup => exact hOne (.setRemoteWakeup true)
  | clearHalt =>
    exact post_then_accept h ⟨rfl, Relation.ReflTransGen.single (.setHalt false (.inl (hArm hCase)))⟩
  | setHalt =>
    exact post_then_accept h ⟨rfl, Relation.ReflTransGen.single (.setHalt true (.inr (hArm hCase)))⟩
  | setAddress =>
    have hSet : Post True (Session.setAddress req.value.toUInt8 : SessionM B C Unit)
        (fun r u => r = .ok () ∧ SessionSteps B C req (fun _ => True) t u) t := by
      unfold Session.setAddress
      by_cases hQuirk : UsbBus.quirkSetAddressBeforeStatus B = true
      · rw [if_pos hQuirk]
        exact ⟨rfl, Relation.ReflTransGen.single (.setAddress (hArm hCase) hQuirk rfl)⟩
      · rw [if_neg hQuirk]
        exact ⟨rfl, Relation.ReflTransGen.single
          (.setPendingAddress (hArm hCase) (Bool.eq_false_iff.mpr hQuirk))⟩
    exact post_then_accept h hSet
  | configure => exact hOne (.configure (hArm hCase) trivial)
  | deconfigure =>
    have hDeconfigure (hState : t.device.deviceState ≠ .default) :
        SessionSteps B C req (fun _ => True) t
          { t with device := { t.device with deviceState := .addressed } } :=
      Relation.ReflTransGen.single (.deconfigure (hArm hCase) hState)
    exact post_then_accept h
      (post_when (fun hState => ⟨rfl, hDeconfigure hState⟩) fun _ => ⟨rfl, .refl⟩)
  | setInterface => exact post_setInterface_settles h
  | other => exact post_reject_answered.mono fun _ _ hAnswered _ _ => .inl hAnswered

/-- An OUT request is answered unless the bus refuses its status packet. -/
theorem post_controlOut_settles (hWell : s.device.WellFormed)
    (hState : s.device.control.state = .completeOut) :
    Post True (Session.controlOut req) (fun _ t => Settles s t) s := by
  have hWaiting : s.device.control.waitingForResponse = true := by
    unfold ControlPipe.waitingForResponse
    rw [hState]
  have hReady : OutReady s s := ⟨.inl hState, hWell, Nat.le_refl _⟩
  have hOffers : Within (SessionSteps B C req fun _ => True)
      (Session.firstClass (offer (callControlOut req))) :=
    sessionSteps_firstClass (controlSteps_offer pipeSteps_callControlOut)
  rw [Session.controlOut, post_bind]
  apply ((hOffers s).and (post_firstClass_offer (unfailing_callControlOut req) hWaiting)).mono
  rintro _ u ⟨hSteps, found, rfl, hFound⟩
  cases found with
  | some v => exact .inl hFound
  | none =>
    refine post_rejectUnanswered (fun _ hAnswered => .inl hAnswered) ?_
    exact post_when (post_standardControlOut_settles (hReady.steps hSteps)) fun _ _ h => by cases h

end Out

/-- A request that a poll hands out is answered when its dispatch returns, if the bus refuses no
packet on EP0-IN meanwhile, unless it asks for a descriptor whose writer fails. -/
theorem answered_iff_not_descriptorFails [UsbBus.Contract B] {s t : Session B C}
    (hReachable : s.Reachable) {epOut epIn epSetup : UInt16} {d : UsbDevice B}
    (hEvent : s.device.event? = some (.data epOut epIn epSetup, d)) {req : Request}
    {p : ControlPipe B}
    (hReceive : Session.receive epOut epSetup d.control = .done (.ok (some req)) p)
    {r : Except UsbError Unit}
    (hDispatch : Session.dispatch req { s with device := d.withPipe p } = .done r t)
    (hWrites : refused (.control .in_) t.device.control.bus.trace =
      refused (.control .in_) p.bus.trace) :
    t.device.control.waitingForResponse = false ↔
      ¬ (req.direction = .in_ ∧ DescriptorFails req { s with device := d.withPipe p }) := by
  have hWell := background_wellFormed.event hReachable.wellFormed hEvent
  have hReceives := ControlPipe.Receives.of_receive hReceive
  have hWell' : (d.withPipe p).WellFormed := hWell.withPipe hReceives.frame
  rcases hReceives.waiting hWell.data with ⟨hState, hOut⟩ | ⟨hState, hIn⟩
  · rw [Session.dispatch, hOut] at hDispatch
    have hSettles := post_of_done (post_controlOut_settles hWell' hState) hDispatch
    refine iff_of_true (hSettles.resolve_right fun hMore => ?_) fun hFails => ?_
    · unfold Session.refusals at hMore
      rw [hWrites] at hMore
      exact Nat.lt_irrefl _ hMore
    · cases hOut.symm.trans hFails.1
  · rw [Session.dispatch, hIn] at hDispatch
    rw [post_of_done (post_controlIn_answered hWell' hState) hDispatch]
    exact not_congr ⟨fun hFails => ⟨hIn, hFails⟩, fun hFails => hFails.2⟩

def setupBus (packet : List UInt8) : ScriptBus := ⟨[.ok packet], [.ok 8], [.data 0 0 1]⟩

def queriedPipe : ControlPipe ScriptBus :=
  (Session.receive 0 1 (setupBus [0x80, 0, 0, 0, 0, 0, 2, 0]).device.polled.control).state?.get
    (by decide +kernel)

def queriedSession : Session ScriptBus DefaultClass :=
  (Session.dispatch ⟨.in_, .standard, .device, 0, 0, 0, 2⟩
    ⟨(setupBus [0x80, 0, 0, 0, 0, 0, 2, 0]).device.polled.withPipe queriedPipe, []⟩).state?.get
    (by decide +kernel)

theorem answered_iff_not_descriptorFails_getStatus :
    queriedSession.device.control.waitingForResponse = false ↔
      ¬ (UsbDirection.in_ = .in_ ∧ DescriptorFails ⟨.in_, .standard, .device, 0, 0, 0, 2⟩
        (⟨(setupBus [0x80, 0, 0, 0, 0, 0, 2, 0]).device.polled.withPipe queriedPipe, []⟩ :
          Session ScriptBus DefaultClass)) := by
  have hReachable : ((setupBus [0x80, 0, 0, 0, 0, 0, 2, 0]).session []).Reachable :=
    ⟨_, _, ScriptBus.fresh_device _, .refl⟩
  have hReceive : Session.receive 0 1 (setupBus [0x80, 0, 0, 0, 0, 0, 2, 0]).device.polled.control =
      .done (.ok (some ⟨.in_, .standard, .device, 0, 0, 0, 2⟩)) queriedPipe :=
    Outcome.eq_done (by decide +kernel) (Option.some_get _).symm
  obtain ⟨r, hDispatch⟩ : ∃ r, Session.dispatch ⟨.in_, .standard, .device, 0, 0, 0, 2⟩
      ⟨(setupBus [0x80, 0, 0, 0, 0, 0, 2, 0]).device.polled.withPipe queriedPipe, []⟩ =
      .done r queriedSession := Outcome.exists_done (Option.some_get _).symm
  have hEvent : ((setupBus [0x80, 0, 0, 0, 0, 0, 2, 0]).session []).device.event? =
      some (.data 0 0 1, (setupBus [0x80, 0, 0, 0, 0, 0, 2, 0]).device.polled) := rfl
  exact answered_iff_not_descriptorFails hReachable hEvent hReceive hDispatch (by decide +kernel)

/-- The pipe with GET_DESCRIPTOR(DEVICE), and the session after its dispatch: the 18 bytes of the
descriptor do not fit the buffer of eight. -/
def describedPipe : ControlPipe ScriptBus :=
  (Session.receive 0 1 (setupBus [0x80, 6, 0, 1, 0, 0, 18, 0]).device.polled.control).state?.get
    (by decide +kernel)

def describedSession : Session ScriptBus DefaultClass :=
  (Session.dispatch ⟨.in_, .standard, .device, 6, 0x100, 0, 18⟩
    ⟨(setupBus [0x80, 6, 0, 1, 0, 0, 18, 0]).device.polled.withPipe describedPipe, []⟩).state?.get
    (by decide +kernel)

/-- The device descriptor does not fit, and the request stays open. -/
theorem not_forall_answered :
    ¬ ∀ (B C : Type) [UsbBus B] [UsbClass C] [UsbBus.Contract B] (s t : Session B C),
      s.Reachable → ∀ (epOut epIn epSetup : UInt16) (d : UsbDevice B),
      s.device.event? = some (.data epOut epIn epSetup, d) →
      ∀ (req : Request) (p : ControlPipe B),
      Session.receive epOut epSetup d.control = .done (.ok (some req)) p →
      ∀ r, Session.dispatch req { s with device := d.withPipe p } = .done r t →
      refused (.control .in_) t.device.control.bus.trace = refused (.control .in_) p.bus.trace →
      t.device.control.waitingForResponse = false := by
  intro h
  have hReachable : ((setupBus [0x80, 6, 0, 1, 0, 0, 18, 0]).session []).Reachable :=
    ⟨_, _, ScriptBus.fresh_device _, .refl⟩
  have hReceive : Session.receive 0 1 (setupBus [0x80, 6, 0, 1, 0, 0, 18, 0]).device.polled.control =
      .done (.ok (some ⟨.in_, .standard, .device, 6, 0x100, 0, 18⟩)) describedPipe :=
    Outcome.eq_done (by decide +kernel) (Option.some_get _).symm
  obtain ⟨r, hDispatch⟩ : ∃ r, Session.dispatch ⟨.in_, .standard, .device, 6, 0x100, 0, 18⟩
      ⟨(setupBus [0x80, 6, 0, 1, 0, 0, 18, 0]).device.polled.withPipe describedPipe, []⟩ =
      .done r describedSession := Outcome.exists_done (Option.some_get _).symm
  have hAnswered := h ScriptBus DefaultClass _ _ hReachable 0 0 1 _ rfl _ _ hReceive r hDispatch
    (by decide +kernel)
  exact absurd hAnswered (by decide +kernel)

end UsbStack
