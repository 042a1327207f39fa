import UsbStack.Callbacks

/-! # Transfers that run to their end

A response from static memory is remembered by the pipe while it is being sent. If no packet and no
bus reset arrives before the last of it has been handed to the bus, nothing of it is left behind.
-/

namespace UsbStack

set_option autoImplicit false

open Foundation Exec

variable {B C α : Type} [UsbBus B]

namespace ControlPipe

/-- A static response is remembered only while it is being sent. -/
def Clear (p : ControlPipe B) : Prop := p.staticInBuf = none ∨ p.state = .dataIn

/-- `q` is `p` after an answer or the completion of a packet. -/
structure Tidy (p q : ControlPipe B) : Prop extends SameFrame p q where
  clear : p.Clear → q.Clear
  data : ∀ req, q.state = .dataOut req → p.state = .dataOut req

variable {p q : ControlPipe B}

omit [UsbBus B] in
theorem tidy_refl (p : ControlPipe B) : Tidy p p := ⟨⟨rfl, rfl, rfl⟩, id, fun _ => id⟩

omit [UsbBus B] in
theorem tidy_trans (p q s : ControlPipe B) (h : Tidy p q) (h' : Tidy q s) : Tidy p s :=
  ⟨h.toSameFrame.trans h'.toSameFrame, fun hp => h'.clear (h.clear hp),
    fun req hs => h.data req (h'.data req hs)⟩

omit [UsbBus B] in
theorem Clear.none (h : p.Clear) (hState : p.state ≠ .dataIn) : p.staticInBuf = none :=
  h.resolve_right hState

omit [UsbBus B] in
theorem Tidy.of_none (hFrame : SameFrame p q) (hStatic : p.Clear → q.staticInBuf = none)
    (hState : NoData q.state) : Tidy p q := by
  refine ⟨hFrame, fun hp => .inl (hStatic hp), fun req hData => ?_⟩
  rw [hData] at hState
  exact hState.elim

omit [UsbBus B] in
theorem Tidy.of_dataIn (hFrame : SameFrame p q) (hState : q.state = .dataIn) : Tidy p q := by
  refine ⟨hFrame, fun _ => .inr hState, fun req hData => ?_⟩
  rw [hState] at hData
  cases hData

theorem tidy_writeInChunk {r : Except UsbError Unit} (hState : p.state = .dataIn)
    (h : writeInChunk p = .done r q) : Tidy p q := by
  rw [writeInChunk_apply] at h
  split at h
  · cases h
  · split at h
    · cases h
    · rename_i chunk _
      split at h
      · cases h
        exact .of_dataIn ⟨rfl, rfl, rfl⟩ hState
      · rename_i written _
        split at h
        · cases h
        · cases h
          rcases Nat.lt_or_ge (p.i + written) p.len with hLt | hLe
          · rw [advanced_of_lt p hLt]
            exact .of_dataIn ⟨rfl, rfl, rfl⟩ hState
          · rw [advanced_of_le p hLe]
            refine .of_none ⟨rfl, rfl, rfl⟩ (fun _ => rfl) ?_
            dsimp only
            split <;> trivial

theorem tidy_errored (buf : List UInt8) (hLength : buf.length = p.buf.length)
    (hState : p.state ≠ .dataIn) : Tidy p ({ p with buf := buf } : ControlPipe B).errored :=
  .of_none ⟨rfl, rfl, hLength⟩ (fun hp => hp.none hState) trivial

omit [UsbBus B] in
theorem ne_dataIn_of_waiting (h : p.waitingForResponse = true) : p.state ≠ .dataIn := by
  intro hState
  rw [waitingForResponse, hState] at h
  cases h

theorem tidy_acceptIn (f : SliceFn) : Within Tidy (acceptIn f.run : PipeM B Unit) := by
  intro p
  rw [post_true_iff]
  intro r q hDone
  by_cases hIn : ∃ req, p.state = .completeIn req
  · obtain ⟨req, hState⟩ := hIn
    rw [acceptIn_completeIn p hState] at hDone
    cases hRun : f.run p.buf with
    | panic reason =>
      rw [hRun] at hDone
      cases hDone
    | done result buf =>
      have hLength : buf.length = p.buf.length := f.length_eq.of_done hRun
      rw [hRun] at hDone
      cases result with
      | error e =>
        cases hDone
        exact ⟨⟨rfl, rfl, hLength⟩, id, fun _ => id⟩
      | ok len =>
        dsimp only at hDone
        split at hDone
        · cases hDone
          exact tidy_errored buf hLength (ne_dataIn_of_waiting (waiting_of_completeIn hState))
        · have hStarted : Tidy p (({ p with buf := buf } : ControlPipe B).started req len) :=
            .of_dataIn ⟨rfl, rfl, hLength⟩ rfl
          exact tidy_trans _ _ _ hStarted (tidy_writeInChunk rfl hDone)
  · rw [acceptIn_of_ne p fun req hReq => hIn ⟨req, hReq⟩] at hDone
    cases hDone
    exact tidy_refl p

theorem tidy_acceptInStatic (data : List UInt8) :
    Within Tidy (acceptInStatic data : PipeM B Unit) := by
  intro p
  rw [post_true_iff]
  intro r q hDone
  by_cases hIn : ∃ req, p.state = .completeIn req
  · obtain ⟨req, hState⟩ := hIn
    rw [acceptInStatic_completeIn p hState] at hDone
    have hStarted : Tidy p
        (({ p with staticInBuf := some data } : ControlPipe B).started req data.length) :=
      .of_dataIn ⟨rfl, rfl, rfl⟩ rfl
    exact tidy_trans _ _ _ hStarted (tidy_writeInChunk rfl hDone)
  · rw [acceptInStatic_of_ne p fun req hReq => hIn ⟨req, hReq⟩] at hDone
    cases hDone
    exact tidy_refl p

theorem tidy_reject : Within Tidy (reject : PipeM B Unit) := by
  intro p
  rw [post_true_iff]
  intro r q hDone
  rw [reject_apply] at hDone
  split at hDone
  · cases hDone
    exact tidy_errored p.buf rfl (ne_dataIn_of_waiting ‹_›)
  · cases hDone
    exact tidy_refl p

theorem tidy_acceptOut : Within Tidy (acceptOut : PipeM B Unit) := by
  intro p
  rw [post_true_iff]
  intro r q hDone
  cases acceptsOut_of_acceptOut hDone with
  | unexpected _ => exact tidy_refl p
  | refused _ _ => exact ⟨⟨rfl, rfl, rfl⟩, id, fun _ => id⟩
  | accepted hState =>
    have hNot : p.state ≠ .dataIn := by
      rw [hState]
      intro hFalse
      cases hFalse
    exact .of_none ⟨rfl, rfl, rfl⟩ (fun hp => hp.none hNot) trivial

theorem tidy_handleInComplete : Within Tidy (handleInComplete : PipeM B Bool) := by
  intro p
  rw [post_true_iff]
  intro r q hDone
  have hNone (hState : p.state ≠ .dataIn) (hp : p.Clear) : p.staticInBuf = none := hp.none hState
  cases hState : p.state with
  | dataIn =>
    rw [handleInComplete_dataIn p hState] at hDone
    cases hWrite : writeInChunk p with
    | panic reason =>
      rw [hWrite] at hDone
      cases hDone
    | done result s =>
      rw [hWrite] at hDone
      have hTidy := tidy_writeInChunk hState hWrite
      cases result with
      | ok u =>
        cases hDone
        exact hTidy
      | error e =>
        cases hDone
        exact hTidy
  | dataInZlp =>
    rw [handleInComplete_dataInZlp p hState] at hDone
    split at hDone
    · cases hDone
      exact .of_none ⟨rfl, rfl, rfl⟩ (hNone (by simp [hState])) trivial
    · cases hDone
      exact ⟨⟨rfl, rfl, rfl⟩, id, fun _ => id⟩
  | dataInLast =>
    rw [handleInComplete_dataInLast p hState] at hDone
    cases hDone
    exact .of_none ⟨rfl, rfl, rfl⟩ (hNone (by simp [hState])) trivial
  | statusIn =>
    rw [handleInComplete_statusIn p hState] at hDone
    cases hDone
    exact .of_none ⟨rfl, rfl, rfl⟩ (hNone (by simp [hState])) trivial
  | idle | completeIn req | statusOut | completeOut | dataOut req | error =>
    rw [handleInComplete_unsending p (by rw [hState]; trivial)] at hDone
    cases hDone
    exact tidy_refl p

omit [UsbBus B] in
theorem tidy_onBus (m : BusM B α) : Within Tidy (onBus m) := by
  intro p
  rw [onBus, post_zoom, post_true_iff]
  exact fun _ _ _ => ⟨⟨rfl, rfl, rfl⟩, id, fun _ => id⟩

theorem tidy_next {m : PipeM B Unit} (hm : Within Tidy m) (next : Except UsbError Unit → ClassM C) :
    Within Tidy (do
      let result ← attempt m
      onBus (next result).run : PipeM B C) :=
  within_bind tidy_trans (within_attempt hm) fun _ => tidy_onBus _

end ControlPipe

def InResponse.Leaves (P : C → Prop) : InResponse C → Prop
  | ignore cls => P cls
  | acceptWith _ next | acceptWithStatic _ next | accept _ next | reject next =>
    ∀ result, (next result).Yields True P

def OutResponse.Leaves (P : C → Prop) : OutResponse C → Prop
  | ignore cls => P cls
  | accept next | reject next => ∀ result, (next result).Yields True P

structure Session.Tends (K : C → C → Prop) (s t : Session B C) : Prop where
  pipe : s.device.control.Tidy t.device.control
  classes : List.Forall₂ K s.classes t.classes

theorem Session.Kept.tends {K : C → C → Prop} {s t : Session B C} (h : s.Kept K t) : s.Tends K t := by
  obtain ⟨u, -, hDevice⟩ := h.device
  refine ⟨?_, h.classes⟩
  rw [hDevice]
  exact ⟨⟨rfl, rfl, rfl⟩, id, fun _ => id⟩

theorem post_next (next : Except UsbError Unit → ClassM C) {m : PipeM B Unit} {P : C → Prop}
    (hm : Within ControlPipe.Tidy m) (hNext : ∀ result, (next result).Yields True P)
    (p : ControlPipe B) :
    Post True (do
      let result ← attempt m
      ControlPipe.onBus (next result).run : PipeM B C) (fun r q => p.Tidy q ∧ OnOk P r) p := by
  refine (ControlPipe.tidy_next hm next p).and ?_
  rw [post_bind, post_attempt, post_true_iff]
  intro result q _
  dsimp only
  rw [ControlPipe.onBus, post_zoom]
  apply (post_run (hNext result) q.bus).mono
  rintro r t ⟨cls, rfl, hP, -⟩
  exact hP

theorem post_inResponse {P : C → Prop} {response : InResponse C} (h : response.Leaves P)
    (p : ControlPipe B) : Post True response.perform (fun r q => p.Tidy q ∧ OnOk P r) p := by
  cases response with
  | ignore cls => exact ⟨ControlPipe.tidy_refl p, h⟩
  | acceptWith data next => exact post_next next (ControlPipe.tidy_acceptIn (.copy data)) h p
  | acceptWithStatic data next => exact post_next next (ControlPipe.tidy_acceptInStatic data) h p
  | accept f next => exact post_next next (ControlPipe.tidy_acceptIn f) h p
  | reject next => exact post_next next ControlPipe.tidy_reject h p

theorem post_outResponse {P : C → Prop} {response : OutResponse C} (h : response.Leaves P)
    (p : ControlPipe B) : Post True response.perform (fun r q => p.Tidy q ∧ OnOk P r) p := by
  cases response with
  | ignore cls => exact ⟨ControlPipe.tidy_refl p, h⟩
  | accept next => exact post_next next ControlPipe.tidy_acceptOut h p
  | reject next => exact post_next next ControlPipe.tidy_reject h p

theorem post_response {R : Type} {m : ClassM R} {k : R → PipeM B C} {P : R → Prop} {Q : C → Prop}
    (hm : m.Yields True P)
    (hk : ∀ response, P response → ∀ p, Post True (k response) (fun r q => p.Tidy q ∧ OnOk Q r) p)
    (call : ClassCall) (index : Nat) (p : ControlPipe B) :
    Post True (do
      ControlPipe.onBus (Traced.note (.class_ index call))
      let response ← ControlPipe.onBus m.run
      k response) (fun r q => p.Tidy q ∧ OnOk Q r) p := by
  have hNoted : (ControlPipe.onBus (Traced.note (.class_ index call)) : PipeM B Unit) p =
      .done (.ok ()) { p with bus := p.bus.noting (.class_ index call) } := rfl
  have hStart (t : Traced B) : p.Tidy { p with bus := t } := ⟨⟨rfl, rfl, rfl⟩, id, fun _ => id⟩
  have hRun : Post True (ControlPipe.onBus m.run) (fun r q => p.Tidy q ∧ OnOk P r)
      { p with bus := p.bus.noting (.class_ index call) } := by
    rw [ControlPipe.onBus, post_zoom]
    apply (post_run hm _).mono
    rintro r t ⟨response, rfl, hP, -⟩
    exact ⟨hStart t, hP⟩
  rw [Post, bind_of_ok hNoted]
  change Post True (ControlPipe.onBus m.run >>= k) _ _
  rw [post_bind]
  apply hRun.mono
  rintro r q ⟨hTidy, hResponse⟩
  cases r with
  | error e => exact ⟨hTidy, trivial⟩
  | ok response =>
    apply (hk response hResponse q).mono
    rintro r s ⟨hs, hQ⟩
    exact ⟨ControlPipe.tidy_trans _ _ _ hTidy hs, hQ⟩

variable [UsbClass C]

/-- Every callback that returns keeps `K`; those for a control request do so if it is `Handled`. -/
structure Respects (K : C → C → Prop) (Handled : Request → Prop) : Prop where
  tame : ∀ epIn, Tame True K epIn fun _ => True
  reset : ∀ cls, (UsbClass.reset cls).Yields True (K cls)
  getAltSetting : ∀ cls interface,
    (UsbClass.getAltSetting cls interface).Yields True fun reply => K cls reply.2
  setAltSetting : ∀ cls interface alternative,
    (UsbClass.setAltSetting cls interface alternative).Yields True fun reply => K cls reply.2
  controlIn : ∀ cls req, Handled req →
    (UsbClass.controlIn cls req).Yields True fun response => response.Leaves (K cls)
  controlOut : ∀ cls req data, Handled req →
    (UsbClass.controlOut cls req data).Yields True fun response => response.Leaves (K cls)

namespace Respects

variable {K : C → C → Prop} {Handled : Request → Prop} {req : Request}

theorem refl (h : Respects K Handled) (cls : C) : K cls cls := (h.tame 0).refl cls

omit [UsbBus B] in
theorem tends_refl (h : Respects K Handled) (s : Session B C) : s.Tends K s :=
  ⟨ControlPipe.tidy_refl _, List.forall₂_same.mpr fun cls _ => h.refl cls⟩

omit [UsbBus B] in
theorem tends_trans (h : Respects K Handled) (s t u : Session B C) (hst : s.Tends K t)
    (htu : t.Tends K u) : s.Tends K u :=
  ⟨ControlPipe.tidy_trans _ _ _ hst.pipe htu.pipe,
    forall₂_trans (h.tame 0).trans hst.classes htu.classes⟩

theorem post_callControlIn (h : Respects K Handled) (hReq : Handled req) (index : Nat) (cls : C)
    (p : ControlPipe B) :
    Post True (callControlIn req index cls) (fun r q => p.Tidy q ∧ OnOk (K cls) r) p :=
  post_response (h.controlIn cls req hReq) (fun _ hLeaves => post_inResponse hLeaves) _ index p

theorem post_callControlOut (h : Respects K Handled) (hReq : Handled req) (index : Nat) (cls : C)
    (p : ControlPipe B) :
    Post True (callControlOut req index cls) (fun r q => p.Tidy q ∧ OnOk (K cls) r) p := by
  rw [callControlOut, post_bind, ControlPipe.data, post_bind, post_get]
  dsimp only
  cases slice? p.buf 0 p.len with
  | none => trivial
  | some data =>
    exact post_response (h.controlOut cls req data hReq)
      (fun _ hLeaves => post_outResponse hLeaves) _ index p

def Asks (K : C → C → Prop) (f : Nat → C → DeviceM B (Option α × C)) : Prop :=
  ∀ index cls d, Post True (f index cls)
    (fun r e => d.control.Tidy e.control ∧ OnOk (fun reply => K cls reply.2) r) d

omit [UsbBus B] [UsbClass C] in
theorem asks_offer {f : Nat → C → PipeM B C}
    (hf : ∀ index cls p, Post True (f index cls) (fun r q => p.Tidy q ∧ OnOk (K cls) r) p) :
    Asks K (offer f) := by
  intro index cls d
  rw [offer, post_bind, UsbDevice.onPipe, post_zoom]
  apply (hf index cls d.control).mono
  rintro r q ⟨hTidy, hK⟩
  cases r with
  | error e => exact ⟨hTidy, trivial⟩
  | ok cls' => exact ⟨hTidy, hK⟩

omit [UsbBus B] in
theorem post_findClass (h : Respects K Handled) {f : Nat → C → DeviceM B (Option α × C)}
    (hf : Asks K f) (index : Nat) (classes : List C) (d : UsbDevice B) :
    Post True (findClass f index classes)
      (fun r e => d.control.Tidy e.control ∧ OnOk (fun reply => List.Forall₂ K classes reply.2) r)
      d := by
  induction classes generalizing index d with
  | nil => exact ⟨ControlPipe.tidy_refl _, .nil⟩
  | cons cls rest ih =>
    rw [findClass, post_bind]
    apply (hf index cls d).mono
    rintro r e ⟨hTidy, hK⟩
    cases r with
    | error err => exact ⟨hTidy, trivial⟩
    | ok reply =>
      obtain ⟨found, cls'⟩ := reply
      cases found with
      | some a => exact ⟨hTidy, .cons hK (List.forall₂_same.mpr fun other _ => h.refl other)⟩
      | none =>
        dsimp only
        rw [post_bind]
        apply (ih (index + 1) e).mono
        rintro r e' ⟨hTidy', hRest⟩
        have hBoth := ControlPipe.tidy_trans _ _ _ hTidy hTidy'
        cases r with
        | error err => exact ⟨hBoth, trivial⟩
        | ok reply => exact ⟨hBoth, .cons hK hRest⟩

omit [UsbBus B] in
theorem within_firstClass (h : Respects K Handled) {f : Nat → C → DeviceM B (Option α × C)}
    (hf : Asks K f) : Within (Session.Tends K) (Session.firstClass f : SessionM B C (Option α)) := by
  intro s
  rw [Session.firstClass, post_bind, post_get]
  dsimp only
  rw [post_bind, Session.onDevice, post_zoom]
  apply (h.post_findClass hf 0 s.classes s.device).mono
  rintro r e ⟨hTidy, hK⟩
  cases r with
  | error err => exact ⟨hTidy, List.forall₂_same.mpr fun cls _ => h.refl cls⟩
  | ok reply => exact ⟨hTidy, hK⟩

omit [UsbBus B] in
theorem within_onDevice (h : Respects K Handled) {m : DeviceM B α}
    (hm : Within (fun d e : UsbDevice B => d.control.Tidy e.control) m) :
    Within (Session.Tends K) (Session.onDevice m : SessionM B C α) :=
  within_zoom hm fun _ _ hTidy => ⟨hTidy, List.forall₂_same.mpr fun cls _ => h.refl cls⟩

omit [UsbBus B] in
theorem within_onPipe (h : Respects K Handled) {m : PipeM B α} (hm : Within ControlPipe.Tidy m) :
    Within (Session.Tends K) (Session.onPipe m : SessionM B C α) :=
  h.within_onDevice (within_zoom hm fun _ _ hTidy => hTidy)

omit [UsbBus B] in
theorem within_onBus (h : Respects K Handled) (m : BusM B α) :
    Within (Session.Tends K) (Session.onDevice (UsbDevice.onBus m) : SessionM B C α) :=
  h.within_onPipe (ControlPipe.tidy_onBus m)

omit [UsbBus B] in
theorem within_modifyDevice (h : Respects K Handled) {f : UsbDevice B → UsbDevice B}
    (hf : ∀ d, (f d).control = d.control) :
    Within (Session.Tends K) (Session.modifyDevice f : SessionM B C Unit) := by
  refine h.within_onDevice fun d => ?_
  change d.control.Tidy (f d).control
  rw [hf]
  exact ControlPipe.tidy_refl _

theorem within_reject (h : Respects K Handled) :
    Within (Session.Tends K) (Session.reject : SessionM B C Unit) :=
  h.within_onPipe ControlPipe.tidy_reject

theorem within_acceptWith (h : Respects K Handled) (data : List UInt8) :
    Within (Session.Tends K) (Session.acceptWith data : SessionM B C Unit) :=
  h.within_onPipe (ControlPipe.tidy_acceptIn (.copy data))

theorem within_accept (h : Respects K Handled) :
    Within (Session.Tends K) (Session.accept : SessionM B C Unit) :=
  h.within_onPipe ControlPipe.tidy_acceptOut

theorem tidy_getDescriptor (config : Config) (classes : List C) (req' : Request) :
    Within ControlPipe.Tidy (getDescriptor config classes req' : PipeM B Unit) := by
  unfold getDescriptor
  cases h : descriptorWriter config classes req' with
  | none => exact ControlPipe.tidy_reject
  | some f => exact ControlPipe.tidy_acceptIn (acceptWriterFn f (keepsLength_descriptorWriter h))

theorem within_standardControlIn (h : Respects K Handled) :
    Within (Session.Tends K) (Session.standardControlIn req : SessionM B C Unit) := by
  refine within_bind h.tends_trans (within_get h.tends_refl) fun s => ?_
  cases req.standardIn with
  | deviceStatus => exact h.within_acceptWith _
  | interfaceStatus => exact h.within_acceptWith _
  | endpointStatus => exact within_bind h.tends_trans (h.within_onBus _) fun _ => h.within_acceptWith _
  | descriptor => exact h.within_onPipe (tidy_getDescriptor _ _ _)
  | configuration => exact h.within_acceptWith _
  | interface =>
    refine within_ite h.within_reject ?_
    refine within_bind h.tends_trans (h.within_firstClass fun index cls d => ?_) fun _ =>
      h.within_acceptWith _
    apply (post_deviceBus (post_callClass (h.getAltSetting cls _) d.control.bus)).mono
    rintro r e ⟨reply, rfl, hK, t, -, rfl⟩
    exact ⟨⟨⟨rfl, rfl, rfl⟩, id, fun _ => id⟩, hK⟩
  | other => exact within_pure h.tends_refl _

theorem within_rejectUnanswered (h : Respects K Handled) :
    Within (Session.Tends K) (do
      let s ← get
      when (s.device.control.waitingForResponse = true) Session.reject : SessionM B C Unit) :=
  within_bind h.tends_trans (within_get h.tends_refl) fun _ =>
    within_when h.tends_refl h.within_reject

theorem within_setInterface (h : Respects K Handled) :
    Within (Session.Tends K) (Session.setInterface req : SessionM B C Unit) := by
  refine within_ite h.within_reject ?_
  refine within_bind h.tends_trans (h.within_firstClass fun index cls d => ?_) fun found => ?_
  · rw [post_bind]
    apply (post_deviceBus (post_callClass (h.setAltSetting cls _ _) d.control.bus)).mono
    rintro r e ⟨reply, rfl, hK, t, -, rfl⟩
    exact ⟨⟨⟨rfl, rfl, rfl⟩, id, fun _ => id⟩, hK⟩
  · cases found with
    | some u => exact h.within_accept
    | none => exact within_ite h.within_accept h.within_reject

theorem within_standardControlOut (h : Respects K Handled) :
    Within (Session.Tends K) (Session.standardControlOut req : SessionM B C Unit) := by
  have hAccept {m : SessionM B C Unit} (hm : Within (Session.Tends K) m) :
      Within (Session.Tends K) (do
        m
        Session.accept : SessionM B C Unit) :=
    within_bind h.tends_trans hm fun _ => h.within_accept
  refine within_bind h.tends_trans (within_get h.tends_refl) fun s => ?_
  cases req.standardOut with
  | clearRemoteWakeup => exact hAccept (h.within_modifyDevice fun _ => rfl)
  | clearHalt => exact hAccept (h.within_onBus _)
  | setRemoteWakeup => exact hAccept (h.within_modifyDevice fun _ => rfl)
  | setHalt => exact hAccept (h.within_onBus _)
  | setAddress =>
    refine hAccept (within_ite ?_ (h.within_modifyDevice fun _ => rfl))
    exact within_bind h.tends_trans (h.within_onBus _) fun _ => h.within_modifyDevice fun _ => rfl
  | configure => exact hAccept (h.within_modifyDevice fun _ => rfl)
  | deconfigure =>
    exact hAccept (within_when h.tends_refl (h.within_modifyDevice fun _ => rfl))
  | setInterface => exact h.within_setInterface
  | other => exact h.within_reject

/-- The dispatch of a handled request leaves no response behind. -/
theorem within_dispatch (h : Respects K Handled) (hReq : Handled req) :
    Within (Session.Tends K) (Session.dispatch req : SessionM B C Unit) := by
  have hIn : Within (Session.Tends K) (Session.controlIn req : SessionM B C Unit) := by
    refine within_bind h.tends_trans
      (h.within_firstClass (asks_offer (h.post_callControlIn hReq))) fun found => ?_
    cases found with
    | some u => exact within_pure h.tends_refl _
    | none =>
      exact within_bind h.tends_trans (within_when h.tends_refl h.within_standardControlIn) fun _ =>
        h.within_rejectUnanswered
  have hOut : Within (Session.Tends K) (Session.controlOut req : SessionM B C Unit) := by
    refine within_bind h.tends_trans
      (h.within_firstClass (asks_offer (h.post_callControlOut hReq))) fun found => ?_
    cases found with
    | some u => exact within_pure h.tends_refl _
    | none =>
      exact within_bind h.tends_trans (within_when h.tends_refl h.within_standardControlOut) fun _ =>
        h.within_rejectUnanswered
  unfold Session.dispatch
  cases req.direction with
  | in_ => exact hIn
  | out => exact hOut

end Respects

/-- The event ends a response that is being sent. -/
def PollResult.Cuts : PollResult → Prop
  | .reset => True
  | .data epOut _ epSetup => epOut &&& 1 ≠ 0 ∨ epSetup &&& 1 ≠ 0
  | _ => False

/-- The next poll brings nothing that ends a response before all of it has been sent. -/
def UsbDevice.LetsFinish (d : UsbDevice B) : Prop :=
  d.control.state = .dataIn → ∀ pr e, d.event? = some (pr, e) → ¬ pr.Cuts

/-- A request that the next poll brings in a SETUP packet satisfies `P`. -/
def UsbDevice.Brings (P : Request → Prop) (d : UsbDevice B) : Prop :=
  ∀ epOut epIn epSetup e packet req, d.event? = some (.data epOut epIn epSetup, e) →
    epSetup &&& 1 ≠ 0 →
    (UsbBus.read e.control.bus.bus e.control.epOut.address e.control.buf.length).1 = .ok packet →
    Request.parse packet = .ok req → P req

structure Session.Tended (K : C → C → Prop) (Handled : Request → Prop) (s t : Session B C) : Prop where
  frame : ControlPipe.SameFrame s.device.control t.device.control
  clear : t.device.control.Clear
  awaiting : ∀ req, t.device.control.state = .dataOut req → Handled req
  classes : List.Forall₂ K s.classes t.classes

section Poll

variable {K : C → C → Prop} {Handled : Request → Prop} {base s : Session B C}
  {epOut epIn epSetup : UInt16}

omit [UsbClass C] in
theorem ControlPipe.Receives.tended {p q : ControlPipe B} {found : Option Request}
    (h : p.Receives epSetup found q) (hState : p.state ≠ .dataIn) (hClear : p.Clear)
    (hAwaiting : ∀ req, p.state = .dataOut req → Handled req)
    (hBrings : epSetup &&& 1 ≠ 0 → ∀ packet req,
      (UsbBus.read p.bus.bus p.epOut.address p.buf.length).1 = .ok packet →
      Request.parse packet = .ok req → Handled req) :
    q.Clear ∧ (∀ req, q.state = .dataOut req → Handled req) ∧ ∀ req, found = some req → Handled req := by
  have hNone : p.staticInBuf = none := hClear.none hState
  cases h with
  | nothing => exact ⟨hClear, hAwaiting, by simp⟩
  | unread len => exact ⟨hClear, hAwaiting, by simp⟩
  | unparsed packet hFits => exact ⟨hClear, hAwaiting, by simp⟩
  | setup packet req hBit hRead hFits hParse =>
    have hReq := hBrings hBit packet req hRead hParse
    rcases (p.loaded 0 packet).begun_cases req with
      ⟨-, hBegun⟩ | ⟨-, hBegun⟩ | ⟨-, hBegun⟩ | ⟨-, hBegun⟩ <;> rw [hBegun]
    · exact ⟨hClear, hAwaiting, by simp⟩
    · refine ⟨.inl hNone, fun req' hData => ?_, by simp⟩
      cases hData
      exact hReq
    · refine ⟨.inl hNone, by simp, fun req' hFound => ?_⟩
      cases hFound
      exact hReq
    · refine ⟨.inl hNone, by simp, fun req' hFound => ?_⟩
      cases hFound
      exact hReq
  | failed req len _ => exact ⟨.inl hNone, by simp [errored], by simp⟩
  | more req packet _ _ => exact ⟨.inl hNone, hAwaiting, by simp⟩
  | complete req packet hData _ =>
    refine ⟨.inl hNone, by simp, fun req' hFound => ?_⟩
    cases hFound
    exact hAwaiting req hData
  | status _ => exact ⟨.inl hNone, by simp, by simp⟩
  | unexpected _ => exact ⟨.inl hNone, by simp [errored], by simp⟩

omit [UsbBus B] [UsbClass C] in
theorem Session.Tended.tends {t : Session B C} (hK : ∀ a b c, K a b → K b c → K a c)
    (h : base.Tended K Handled s) (hTends : s.Tends K t) : base.Tended K Handled t := by
  refine ⟨h.frame.trans hTends.pipe.toSameFrame, hTends.pipe.clear h.clear,
    fun req hData => h.awaiting req (hTends.pipe.data req hData), ?_⟩
  exact forall₂_trans hK h.classes hTends.classes

omit [UsbClass C] in
theorem UsbDevice.control_of_event {d e : UsbDevice B} {pr : PollResult}
    (h : d.event? = some (pr, e)) : ∃ t, e.control = { d.control with bus := t } := by
  obtain ⟨-, ⟨-, rfl⟩ | ⟨-, -, state, -, rfl⟩⟩ := UsbDevice.event?_cases h
  · exact ⟨_, rfl⟩
  · exact ⟨_, rfl⟩

omit [UsbBus B] [UsbClass C] in
theorem Session.Tended.withBus (h : base.Tended K Handled s) {d : UsbDevice B} {t : Traced B}
    (hControl : d.control = { s.device.control with bus := t }) :
    base.Tended K Handled { s with device := d } := by
  refine ⟨⟨?_, ?_, ?_⟩, ?_, ?_, h.classes⟩ <;> dsimp only <;> rw [hControl]
  · exact h.frame.epOut
  · exact h.frame.epIn
  · exact h.frame.length
  · exact h.clear
  · exact h.awaiting

theorem unfailing_completeIn : Unfailing (Session.completeIn : DeviceM B Unit) := by
  refine unfailing_bind (unfailing_attempt _) fun _ => unfailing_bind unfailing_get fun _ => ?_
  have hCommand (addr : UInt8) : Unfailing (Traced.setDeviceAddress addr : BusM B Unit) :=
    fun _ => ⟨(), rfl⟩
  intro d
  refine post_when (fun _ => ?_) fun _ => ⟨(), rfl⟩
  exact unfailing_bind (unfailing_deviceBus (hCommand _)) (fun _ => unfailing_modify _) d

theorem within_completeIn {R : ControlPipe B → ControlPipe B → Prop} (hRefl : ∀ p, R p p)
    (hTrans : ∀ p q r, R p q → R q r → R p r) (hHandle : Within R (ControlPipe.handleInComplete))
    (hBus : ∀ m : BusM B Unit, Within R (ControlPipe.onBus m)) :
    Within (fun d e : UsbDevice B => R d.control e.control) (Session.completeIn : DeviceM B Unit) := by
  have hRefl' (d : UsbDevice B) : R d.control d.control := hRefl _
  have hTrans' (d e f : UsbDevice B) (h : R d.control e.control) (h' : R e.control f.control) :
      R d.control f.control := hTrans _ _ _ h h'
  have hOnBus (m : BusM B Unit) :
      Within (fun d e : UsbDevice B => R d.control e.control) (UsbDevice.onBus m) :=
    within_zoom (hBus m) fun _ _ h => h
  refine within_bind hTrans' (within_attempt (within_zoom hHandle fun _ _ h => h)) fun _ => ?_
  refine within_bind hTrans' (within_get hRefl') fun _ => within_when hRefl' ?_
  exact within_bind hTrans' (hOnBus _) fun _ => within_modify fun d => hRefl d.control

theorem tidy_completeIn :
    Within (fun d e : UsbDevice B => d.control.Tidy e.control) (Session.completeIn : DeviceM B Unit) :=
  within_completeIn ControlPipe.tidy_refl ControlPipe.tidy_trans ControlPipe.tidy_handleInComplete
    fun m => ControlPipe.tidy_onBus m

namespace Respects

theorem post_pollControl (h : Respects K Handled) (hs : base.Tended K Handled s)
    (hFinish : s.device.control.state = .dataIn → epOut &&& 1 = 0 ∧ epSetup &&& 1 = 0)
    (hBrings : epSetup &&& 1 ≠ 0 → ∀ packet req,
      (UsbBus.read s.device.control.bus.bus s.device.control.epOut.address
        s.device.control.buf.length).1 = .ok packet →
      Request.parse packet = .ok req → Handled req) :
    Post True (Session.pollControl epOut epIn epSetup)
      (fun r t => r = .ok () ∧ base.Tended K Handled t) s := by
  have hReceived {found : Option Request} {p : ControlPipe B}
      (hReceive : Session.receive epOut epSetup s.device.control = .done (.ok found) p) :
      base.Tended K Handled { s with device := s.device.withPipe p } ∧
        ∀ req, found = some req → Handled req := by
    by_cases hState : s.device.control.state = .dataIn
    · obtain ⟨hOut, hSetup⟩ := hFinish hState
      rw [Session.receive, if_neg (not_not.mpr hSetup), if_neg (not_not.mpr hOut)] at hReceive
      cases hReceive
      exact ⟨hs, by simp⟩
    · have hReceives := ControlPipe.Receives.of_receive hReceive
      obtain ⟨hClear, hAwaiting, hFound⟩ :=
        hReceives.tended hState hs.clear hs.awaiting hBrings
      exact ⟨⟨hs.frame.trans hReceives.frame.toSameFrame, hClear, hAwaiting, hs.classes⟩, hFound⟩
  refine post_pollControl_stages (fun req p hReceive => ?_)
    (fun p hReceive => ⟨rfl, (hReceived hReceive).1⟩) fun p hReceive _ => ?_
  · obtain ⟨hTended, hFound⟩ := hReceived hReceive
    apply (h.within_dispatch (hFound req rfl) _).mono
    intro r t hTends
    exact ⟨rfl, hTended.tends (h.tame 0).trans hTends⟩
  · refine ((unfailing_completeIn _).and (tidy_completeIn _)).mono ?_
    rintro r e ⟨⟨u, rfl⟩, hTidy⟩
    refine ⟨rfl, (hReceived hReceive).1.tends (h.tame 0).trans ⟨hTidy, ?_⟩⟩
    exact List.forall₂_same.mpr fun cls _ => h.refl cls

/-- A poll that lets responses finish leaves none behind. -/
theorem post_poll (h : Respects K Handled) (hs : base.Tended K Handled s)
    (hFinish : s.device.LetsFinish) (hBrings : s.device.Brings Handled) :
    Post True Session.poll (fun _ t => base.Tended K Handled t) s := by
  refine UsbStack.post_poll (fun _ _ => hs.withBus rfl) fun pr d hEvent => ?_
  obtain ⟨bus, hControl⟩ := UsbDevice.control_of_event hEvent
  have hd : base.Tended K Handled { s with device := d } := hs.withBus hControl
  have hState : d.control.state = s.device.control.state := by rw [hControl]
  cases pr with
  | none => exact hd
  | resume => exact hd
  | suspend => exact hd.withBus rfl
  | reset =>
    have hNot : d.control.state ≠ .dataIn := fun hIn => hFinish (hState ▸ hIn) _ _ hEvent trivial
    have hReset : base.Tended K Handled { s with device := d.afterReset } :=
      ⟨⟨hd.frame.epOut, hd.frame.epIn, hd.frame.length⟩, .inl (hd.clear.none hNot),
        by simp [UsbDevice.afterReset], hd.classes⟩
    have hCalls : Post True (Session.notify .reset UsbClass.reset : SessionM B C Unit)
        (fun r t => r = .ok () ∧ (⟨d.afterReset, s.classes⟩ : Session B C).Kept K t)
        ⟨d.afterReset, s.classes⟩ := post_notify fun cls _ => h.reset cls
    refine post_bind _ _ _ |>.mpr (Post.mono hCalls ?_)
    rintro r t ⟨rfl, hKept⟩
    exact hReset.tends (h.tame 0).trans hKept.tends
  | data epOut epIn epSetup =>
    have hBits (hIn : d.control.state = .dataIn) : epOut &&& 1 = 0 ∧ epSetup &&& 1 = 0 := by
      have hNot := hFinish (hState ▸ hIn) _ _ hEvent
      simpa only [PollResult.Cuts, not_or, not_not] using hNot
    have hData : Post True (Session.pollData epOut epIn epSetup)
        (fun r t => r = .ok () ∧ base.Tended K Handled t) { s with device := d } := by
      refine (h.tame epIn).pollData
        (fun t u ht hKept => ht.tends (h.tame 0).trans hKept.tends) (fun _ => ?_)
        fun _ => ⟨hd, fun _ _ => trivial⟩
      apply (h.post_pollControl hd hBits fun hBit packet req =>
        hBrings _ _ _ d packet req hEvent hBit).mono
      rintro r t ⟨rfl, ht⟩
      exact ⟨rfl, ht, fun _ _ => trivial⟩
    refine post_bind _ _ _ |>.mpr (hData.mono ?_)
    rintro r t ⟨rfl, ht⟩
    exact ht

end Respects

end Poll

section History

omit [UsbClass C] in
theorem leaves_true (response : InResponse C) : response.Leaves fun _ => True := by
  cases response with
  | ignore cls => trivial
  | _ => exact fun _ => Program.yields_true _

omit [UsbClass C] in
theorem outLeaves_true (response : OutResponse C) : response.Leaves fun _ => True := by
  cases response with
  | ignore cls => trivial
  | _ => exact fun _ => Program.yields_true _

theorem respects_true : Respects (fun _ _ : C => True) fun _ => True where
  tame _ := ⟨fun _ => trivial, fun _ _ _ _ _ => trivial, fun _ _ _ _ => trivial,
    fun _ _ => Program.yields_true _, fun _ _ _ => Program.yields_true _,
    fun _ _ _ => Program.yields_true _, fun _ _ _ _ => Program.yields_true _⟩
  reset _ := Program.yields_true _
  getAltSetting _ _ := Program.yields_true _
  setAltSetting _ _ _ := Program.yields_true _
  controlIn _ _ _ := (Program.yields_true _).mono fun response _ => leaves_true response
  controlOut _ _ _ _ := (Program.yields_true _).mono fun response _ => outLeaves_true response

/-- Reached from a new device without a poll that ends a response early, and not sending one. -/
def Session.Unaborted (s : Session B C) : Prop :=
  ∃ (d : UsbDevice B) (classes : List C) (inputs : List (DeviceInput B C)), d.Fresh ∧
    Along DeviceInput.perform (fun input t => input = .poll → t.device.LetsFinish) inputs
      ⟨d, classes⟩ ∧
    finalState DeviceInput.perform inputs ⟨d, classes⟩ = some s ∧
    s.device.control.state ≠ .dataIn

structure UsbDevice.Sendable (d : UsbDevice B) : Prop where
  wellFormed : d.WellFormed
  size : 0 < d.control.epIn.maxPacketSize.toNat
  clear : d.control.Clear

omit [UsbClass C] in
theorem UsbDevice.Fresh.sendable [UsbBus.Contract B] {d : UsbDevice B} (h : d.Fresh) :
    d.Sendable := by
  have hWell := h.initial.wellFormed
  obtain ⟨builder, t, hMade, -, -, rfl⟩ := h.built
  refine ⟨hWell, ?_, .inl rfl⟩
  change 0 < builder.config.maxPacketSize0.toUInt16.toNat
  rw [UInt8.toNat_toUInt16]
  have hSize := hMade.eight_le
  omega

/-- Every input that lets responses finish keeps the device sendable. -/
theorem sendable_perform {s : Session B C} (hs : s.device.Sendable) {input : DeviceInput B C}
    (hFinish : input = .poll → s.device.LetsFinish) :
    Post True input.perform (fun _ t => t.device.Sendable) s := by
  have hKeeps (t : Session B C) (hWell : t.device.WellFormed)
      (hTidy : s.device.control.Tidy t.device.control) : t.device.Sendable :=
    ⟨hWell, hTidy.epIn.symm ▸ hs.size, hTidy.clear hs.clear⟩
  have hSame (t : Traced B) : s.device.control.Tidy { s.device.control with bus := t } :=
    ⟨⟨rfl, rfl, rfl⟩, id, fun _ => id⟩
  have hWell := wellFormed_perform hs.wellFormed input
  cases input with
  | poll =>
    have hPoll : Post True Session.poll
        (fun _ t => s.Tended (fun _ _ : C => True) (fun _ => True) t) s := by
      refine respects_true.post_poll ?_ (hFinish rfl) fun _ _ _ _ _ _ _ _ _ _ => trivial
      exact ⟨⟨rfl, rfl, rfl⟩, hs.clear, fun _ _ => trivial,
        List.forall₂_same.mpr fun _ _ => trivial⟩
    have hBoth : Post True (DeviceInput.poll : DeviceInput B C).perform
        (fun _ t => s.Tended (fun _ _ : C => True) (fun _ => True) t) s := by
      rw [DeviceInput.perform, post_bind]
      apply hPoll.mono
      intro r t ht
      cases r with
      | ok handled => exact ht
      | error e => exact ht
    apply (hWell.and hBoth).mono
    rintro r t ⟨ht, hTended⟩
    exact ⟨ht, hTended.frame.epIn.symm ▸ hs.size, hTended.clear⟩
  | hardware bus => exact hKeeps _ hWell (hSame _)
  | setClasses classes => exact hs
  | useEndpoints m =>
    have hUse : Post True (DeviceInput.useEndpoints m : DeviceInput B C).perform
        (fun _ t => s.device.control.Tidy t.device.control) s := by
      refine post_then (P := fun t : Session B C => s.device.control.Tidy t.device.control) ?_
        fun _ _ ht => ht
      rw [Session.onDevice, post_zoom, UsbDevice.onBus, UsbDevice.onPipe, post_zoom]
      exact ControlPipe.tidy_onBus _ _
    apply (hWell.and hUse).mono
    rintro r t ⟨ht, hTidy⟩
    exact hKeeps t ht hTidy
  | setSelfPowered b => exact hKeeps _ hWell (hSame _)

theorem Session.Unaborted.sendable [UsbBus.Contract B] {s : Session B C} (h : s.Unaborted) :
    s.device.Sendable ∧ s.device.control.staticInBuf = none := by
  obtain ⟨d, classes, inputs, hFresh, hAlong, hFinal, hState⟩ := h
  have hAll : Throughout DeviceInput.perform (fun t => t.device.Sendable) inputs ⟨d, classes⟩ :=
    throughout_of_along (fun input t ht hFinish => sendable_perform ht hFinish) hFresh.sendable hAlong
  have hs := hAll.finalState hFinal
  exact ⟨hs, hs.clear.none hState⟩

end History

end UsbStack
