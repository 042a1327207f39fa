import UsbStack.Callbacks
import UsbStack.DescriptorRoom
import UsbStack.PipeRun

/-! # Devices that never panic

A device panics when a class does, when a count of descriptors overflows, when a string meets the end
of a buffer of odd length, and when an answer is sent in place of a shorter leftover. Under the
conditions below none of this happens in any run.
-/

namespace UsbStack

set_option autoImplicit false

open Foundation Exec

variable {B C α : Type} [UsbBus B] {size : Nat}

namespace ControlPipe

/-- `q` has the leftover of `p`, unless it has none or a long one. -/
structure Lasting (p q : ControlPipe B) : Prop extends Frame p q where
  leftover : ∀ data, q.staticInBuf = some data →
    p.staticInBuf = some data ∨ p.buf.length ≤ data.length

/-- The indices are inside the buffers, OUT data are awaited for OUT requests, and no leftover is
shorter than the buffer. -/
structure Steady (size : Nat) (p : ControlPipe B) : Prop where
  sound : p.Sound
  length : p.buf.length = size
  data : ∀ req, p.state = .dataOut req → req.direction = .out
  leftover : ∀ data, p.staticInBuf = some data → size ≤ data.length

variable {p q : ControlPipe B}

omit [UsbBus B] in
theorem Lasting.of_same (hFrame : Frame p q) (hStatic : q.staticInBuf = p.staticInBuf) :
    Lasting p q := ⟨hFrame, fun _ hData => .inl (hStatic.symm.trans hData)⟩

omit [UsbBus B] in
theorem steady_of_lasting (hp : p.Steady size) {m : PipeM B α}
    (hSound : Post False m (fun _ q => q.Sound) p) (hLasting : Post True m (fun _ q => p.Lasting q) p) :
    Post False m (fun _ q => q.Steady size) p := by
  apply (hSound.and_true hLasting).mono
  rintro r q ⟨hq, hLast⟩
  refine ⟨hq, hLast.length.trans hp.length, fun req hData => ?_, fun data hData => ?_⟩
  · exact (hLast.data req hData).elim (hp.data req) id
  · exact (hLast.leftover data hData).elim (hp.leftover data) (hp.length ▸ ·)

theorem leftover_writeInChunk {r : Except UsbError Unit} (h : writeInChunk p = .done r q)
    {data : List UInt8} (hData : q.staticInBuf = some data) : p.staticInBuf = some data := by
  rw [writeInChunk_apply] at h
  split at h
  · cases h
  · split at h
    · cases h
    · split at h
      · cases h
        exact hData
      · rename_i written _
        split at h
        · cases h
        · cases h
          rcases Nat.lt_or_ge (p.i + written) p.len with hLt | hLe
          · rw [advanced_of_lt p hLt] at hData
            exact hData
          · rw [advanced_of_le p hLe] at hData
            cases hData

theorem lasting_acceptIn (f : SliceFn) : Within Lasting (acceptIn f.run : PipeM B Unit) := by
  intro p
  rw [post_true_iff]
  intro r q h
  refine ⟨(answersIn_of_acceptIn f h).frame, fun data hData => .inl ?_⟩
  by_cases hState : ∃ req, p.state = .completeIn req
  · obtain ⟨req, hState⟩ := hState
    rw [acceptIn_completeIn p hState] at h
    split at h
    · cases h
    · cases h
      exact hData
    · split at h
      · cases h
        exact hData
      · exact leftover_writeInChunk h hData
  · rw [acceptIn_of_ne p fun req hReq => hState ⟨req, hReq⟩] at h
    cases h
    exact hData

theorem lasting_acceptInStatic {data : List UInt8} (hLong : p.buf.length ≤ data.length) :
    Post True (acceptInStatic data) (fun _ q => p.Lasting q) p := by
  rw [post_true_iff]
  intro r q h
  refine ⟨(answersIn_of_acceptInStatic h).frame, fun left hLeft => ?_⟩
  by_cases hState : ∃ req, p.state = .completeIn req
  · obtain ⟨req, hState⟩ := hState
    rw [acceptInStatic_completeIn p hState] at h
    cases leftover_writeInChunk h hLeft
    exact .inr hLong
  · rw [acceptInStatic_of_ne p fun req hReq => hState ⟨req, hReq⟩] at h
    cases h
    exact .inl hLeft

theorem lasting_receive {epOut epSetup : UInt16} :
    Within Lasting (Session.receive epOut epSetup : PipeM B (Option Request)) := by
  intro p
  rw [post_true_iff]
  intro r q h
  obtain ⟨found, -, hReceives⟩ := receives_of_receive h
  refine .of_same hReceives.frame ?_
  cases hReceives with
  | setup packet req _ _ _ _ =>
    rcases (p.loaded 0 packet).begun_cases req with
      ⟨-, hBegun⟩ | ⟨-, hBegun⟩ | ⟨-, hBegun⟩ | ⟨-, hBegun⟩ <;> rw [hBegun] <;> rfl
  | _ => rfl

/-- A completion leaves a leftover as long as it was. -/
theorem lasting_handleInComplete : Within Lasting (handleInComplete : PipeM B Bool) := by
  intro p
  rw [post_true_iff]
  intro r q h
  refine ⟨(completes_of_handleInComplete h).frame, fun data hData => .inl ?_⟩
  cases hState : p.state with
  | dataIn =>
    rw [handleInComplete_dataIn p hState] at h
    split at h
    · cases h
      exact leftover_writeInChunk ‹_› hData
    · cases h
      exact leftover_writeInChunk ‹_› hData
    · cases h
  | dataInZlp =>
    rw [handleInComplete_dataInZlp p hState] at h
    split at h <;> cases h <;> exact hData
  | dataInLast =>
    rw [handleInComplete_dataInLast p hState] at h
    cases h
    exact hData
  | statusIn =>
    rw [handleInComplete_statusIn p hState] at h
    cases h
    exact hData
  | idle | completeIn req | statusOut | completeOut | dataOut req | error =>
    rw [handleInComplete_unsending p (by rw [hState]; trivial)] at h
    cases h
    exact hData

theorem lasting_acceptOut : Within Lasting (acceptOut : PipeM B Unit) := by
  intro p
  rw [post_true_iff]
  intro r q h
  have hAccepts := acceptsOut_of_acceptOut h
  refine .of_same hAccepts.frame ?_
  cases hAccepts <;> rfl

theorem lasting_reject : Within Lasting (reject : PipeM B Unit) := by
  intro p
  rw [post_true_iff]
  intro r q h
  refine .of_same (answersIn_of_reject h).frame ?_
  rw [reject_apply] at h
  split at h <;> cases h <;> rfl

section Steady

variable [UsbBus.Contract B]

theorem sustains_receive (epOut epSetup : UInt16) :
    Sustains (Steady size) (Session.receive epOut epSetup : PipeM B (Option Request)) := by
  intro p hp
  refine steady_of_lasting hp ?_ (lasting_receive p)
  unfold Session.receive
  split
  · exact post_handleSetup hp.sound
  · split
    · rw [post_bind, post_attempt]
      apply (post_handleOut hp.sound).mono
      intro r q hq
      cases r <;> exact hq
    · exact hp.sound

theorem sustains_handleInComplete : Sustains (Steady size) (handleInComplete : PipeM B Bool) :=
  fun p hp => steady_of_lasting hp (post_handleInComplete hp.sound) (lasting_handleInComplete p)

omit [UsbBus.Contract B] in
theorem sustains_acceptOut : Sustains (Steady size) (acceptOut : PipeM B Unit) :=
  fun p hp => steady_of_lasting hp (post_acceptOut hp.sound) (lasting_acceptOut p)

omit [UsbBus.Contract B] in
theorem sustains_reject : Sustains (Steady size) (reject : PipeM B Unit) :=
  fun p hp => steady_of_lasting hp (post_reject hp.sound) (lasting_reject p)

theorem sustains_acceptInStatic {data : List UInt8} (hLong : size ≤ data.length) :
    Sustains (Steady size) (acceptInStatic data : PipeM B Unit) :=
  fun _ hp => steady_of_lasting hp (post_acceptInStatic data hp.sound)
    (lasting_acceptInStatic (hp.length ▸ hLong))

theorem sustains_acceptIn (f : SliceFn)
    (hf : ∀ buf, buf.length = size → Post False f.run (fun _ _ => True) buf) :
    Sustains (Steady size) (acceptIn f.run : PipeM B Unit) := by
  intro p hp
  refine steady_of_lasting hp ?_ (lasting_acceptIn f p)
  refine post_acceptIn_of_returns f (hf p.buf hp.length) hp.sound ?_
  intro _ _ buf data _ hRun _ hData
  have hBuf : buf.length = p.buf.length := f.length_eq.of_done hRun
  have hLong := hp.leftover data hData
  have hLength := hp.length
  omega

end Steady

end ControlPipe

def InResponse.Returns (size : Nat) (S : C → Prop) : InResponse C → Prop
  | ignore cls => S cls
  | acceptWith _ next | reject next => ∀ result, (next result).Yields False S
  | acceptWithStatic data next => size ≤ data.length ∧ ∀ result, (next result).Yields False S
  | accept f next => f.Returns ∧ ∀ result, (next result).Yields False S

def OutResponse.Returns (S : C → Prop) : OutResponse C → Prop
  | ignore cls => S cls
  | accept next | reject next => ∀ result, (next result).Yields False S

/-- From a class with `S` every callback returns and leaves a class with `S`. Static answers are as
long as the control buffer, and the descriptors of a class count at most `n`. -/
structure Calm [UsbClass C] (size n : Nat) (S : C → Prop) : Prop where
  reset : ∀ cls, S cls → (UsbClass.reset cls).Yields False S
  poll : ∀ cls, S cls → (UsbClass.poll cls).Yields False S
  endpointSetup : ∀ cls addr, S cls → (UsbClass.endpointSetup cls addr).Yields False S
  endpointOut : ∀ cls addr, S cls → (UsbClass.endpointOut cls addr).Yields False S
  endpointInComplete : ∀ cls addr, S cls → (UsbClass.endpointInComplete cls addr).Yields False S
  getAltSetting : ∀ cls interface, S cls →
    (UsbClass.getAltSetting cls interface).Yields False fun reply => S reply.2
  setAltSetting : ∀ cls interface alternative, S cls →
    (UsbClass.setAltSetting cls interface alternative).Yields False fun reply => S reply.2
  controlIn : ∀ cls req, S cls →
    (UsbClass.controlIn cls req).Yields False fun response => response.Returns size S
  controlOut : ∀ cls req data, S cls →
    (UsbClass.controlOut cls req data).Yields False fun response => response.Returns S
  describes : ∀ cls, S cls → Describes n cls

structure UsbDevice.Steady (size : Nat) (d : UsbDevice B) : Prop where
  pipe : d.control.Steady size
  remembers : d.deviceState = .suspend → d.suspendedDeviceState ≠ none
  awake : d.suspendedDeviceState ≠ some .suspend

/-- A steady device and classes that fit in its descriptors. -/
structure Session.Safe (size n : Nat) (S : C → Prop) (s : Session B C) : Prop where
  device : s.device.Steady size
  classes : ∀ cls ∈ s.classes, S cls
  few : s.classes.length * n < 255

omit [UsbBus B] in
theorem ControlPipe.Steady.withBus {p : ControlPipe B} (h : p.Steady size) (t : Traced B) :
    ({ p with bus := t } : ControlPipe B).Steady size := ⟨h.sound, h.length, h.data, h.leftover⟩

omit [UsbBus B] in
theorem UsbDevice.Steady.withBus {d : UsbDevice B} (h : d.Steady size) (t : Traced B) :
    (d.withBus t).Steady size := ⟨h.pipe.withBus t, h.remembers, h.awake⟩

section Callbacks

variable {S : C → Prop} {n : Nat}

theorem post_runOnPipe {P : α → Prop} {J : ControlPipe B → Prop}
    (hBus : ∀ q t, J q → J { q with bus := t }) {m : ClassM α} (hm : m.Yields False P)
    {p : ControlPipe B} (hp : J p) :
    Post False (ControlPipe.onBus m.run) (fun r q => ∃ a, r = .ok a ∧ P a ∧ J q) p := by
  rw [ControlPipe.onBus, post_zoom]
  apply (post_run hm p.bus).mono
  rintro r t ⟨a, rfl, hP, -⟩
  exact ⟨a, rfl, hP, hBus p t hp⟩

theorem post_answered {J : ControlPipe B → Prop} (hBus : ∀ q t, J q → J { q with bus := t })
    {m : PipeM B Unit} {p : ControlPipe B} (hm : Post False m (fun _ q => J q) p)
    {next : Except UsbError Unit → ClassM C} (hNext : ∀ result, (next result).Yields False S) :
    Post False (do
      let result ← attempt m
      ControlPipe.onBus (next result).run : PipeM B C)
      (fun r q => ∃ cls, r = .ok cls ∧ S cls ∧ J q) p := by
  rw [post_bind, post_attempt]
  exact hm.mono fun result q hq => post_runOnPipe hBus (hNext result) hq

theorem post_inReturns [UsbBus.Contract B] {response : InResponse C} (h : response.Returns size S)
    {p : ControlPipe B} (hp : p.Steady size) :
    Post False response.perform (fun r q => ∃ cls, r = .ok cls ∧ S cls ∧ q.Steady size) p := by
  have hBus (q : ControlPipe B) (t : Traced B) (hq : q.Steady size) := hq.withBus t
  cases response with
  | ignore cls => exact ⟨cls, rfl, h, hp⟩
  | acceptWith data next =>
    exact post_answered hBus (ControlPipe.sustains_acceptIn (.copy data) (fun buf _ =>
      SliceFn.returns_copy data buf) p hp) h
  | acceptWithStatic data next =>
    exact post_answered hBus (ControlPipe.sustains_acceptInStatic h.1 p hp) h.2
  | accept f next =>
    exact post_answered hBus (ControlPipe.sustains_acceptIn f (fun buf _ => h.1 buf) p hp) h.2
  | reject next => exact post_answered hBus (ControlPipe.sustains_reject p hp) h

def ControlPipe.AwaitsOut (p : ControlPipe B) : Prop :=
  p.waitingForResponse = true → p.state = .completeOut

theorem awaitsOut_acceptOut {p : ControlPipe B} (hState : p.state = .completeOut) :
    Post True ControlPipe.acceptOut (fun _ q => q.AwaitsOut) p := by
  rw [post_true_iff]
  intro r q h
  cases ControlPipe.acceptsOut_of_acceptOut h with
  | unexpected hNot => exact absurd hState hNot
  | refused _ _ => exact fun _ => hState
  | accepted _ => exact nofun

theorem awaitsOut_reject {p : ControlPipe B} (hState : p.state = .completeOut) :
    Post True ControlPipe.reject (fun _ q => q.AwaitsOut) p := by
  have hWaiting : p.waitingForResponse = true := p.waitingForResponse_iff.mpr (.inl hState)
  unfold Post
  rw [ControlPipe.reject_apply, if_pos hWaiting]
  exact nofun

theorem post_outReturns {response : OutResponse C} (h : response.Returns S) {p : ControlPipe B}
    (hp : p.Steady size) (hState : p.state = .completeOut) :
    Post False response.perform
      (fun r q => ∃ cls, r = .ok cls ∧ S cls ∧ q.Steady size ∧ q.AwaitsOut) p := by
  have hBus (q : ControlPipe B) (t : Traced B) (hq : q.Steady size ∧ q.AwaitsOut) :
      ({ q with bus := t } : ControlPipe B).Steady size ∧
        ({ q with bus := t } : ControlPipe B).AwaitsOut := ⟨hq.1.withBus t, hq.2⟩
  cases response with
  | ignore cls => exact ⟨cls, rfl, h, hp, fun _ => hState⟩
  | accept next =>
    exact post_answered hBus
      ((ControlPipe.sustains_acceptOut p hp).and_true (awaitsOut_acceptOut hState)) h
  | reject next =>
    exact post_answered hBus
      ((ControlPipe.sustains_reject p hp).and_true (awaitsOut_reject hState)) h

variable [UsbClass C]

theorem Calm.post_callControlIn [UsbBus.Contract B] (h : Calm size n S) {cls : C} (hCls : S cls)
    (req : Request) (index : Nat) {p : ControlPipe B} (hp : p.Steady size) :
    Post False (callControlIn req index cls)
      (fun r q => ∃ cls', r = .ok cls' ∧ S cls' ∧ q.Steady size) p := by
  have hNoted : (ControlPipe.onBus (Traced.note (.class_ index (.controlIn req))) : PipeM B Unit) p =
      .done (.ok ()) { p with bus := p.bus.noting (.class_ index (.controlIn req)) } := rfl
  unfold Post
  rw [callControlIn, bind_of_ok hNoted]
  change Post False (ControlPipe.onBus (UsbClass.controlIn cls req).run >>= InResponse.perform) _ _
  rw [post_bind]
  apply (post_runOnPipe (fun q t (hq : q.Steady size) => hq.withBus t) (h.controlIn cls req hCls)
    (hp.withBus _)).mono
  rintro r q ⟨response, rfl, hResponse, hq⟩
  exact post_inReturns hResponse hq

theorem Calm.post_callControlOut (h : Calm size n S) {cls : C} (hCls : S cls) (req : Request)
    (index : Nat) {p : ControlPipe B} (hp : p.Steady size) (hState : p.state = .completeOut) :
    Post False (callControlOut req index cls)
      (fun r q => ∃ cls', r = .ok cls' ∧ S cls' ∧ q.Steady size ∧ q.AwaitsOut) p := by
  have hLen : p.len ≤ p.buf.length := by simpa only [ControlPipe.Sound, hState] using hp.sound
  have hData : (ControlPipe.data : PipeM B (List UInt8)) p =
      .done (.ok ((p.buf.drop 0).take (p.len - 0))) p := by
    rw [ControlPipe.data, bind_apply, get_apply]
    dsimp only
    rw [slice?_of_le (Nat.zero_le _) hLen]
    rfl
  generalize (p.buf.drop 0).take (p.len - 0) = data at hData
  have hNoted : (ControlPipe.onBus (Traced.note (.class_ index (.controlOut req data))) :
      PipeM B Unit) p =
        .done (.ok ()) { p with bus := p.bus.noting (.class_ index (.controlOut req data)) } := rfl
  unfold Post
  rw [callControlOut, bind_of_ok hData, bind_of_ok hNoted]
  change Post False (ControlPipe.onBus (UsbClass.controlOut cls req data).run >>=
    OutResponse.perform) _ _
  rw [post_bind]
  have hBus (q : ControlPipe B) (t : Traced B) (hq : q.Steady size ∧ q.state = .completeOut) :
      ({ q with bus := t } : ControlPipe B).Steady size ∧ q.state = .completeOut :=
    ⟨hq.1.withBus t, hq.2⟩
  apply (post_runOnPipe hBus (h.controlOut cls req data hCls)
    (hBus p (p.bus.noting (.class_ index (.controlOut req data))) ⟨hp, hState⟩)).mono
  rintro r q ⟨response, rfl, hResponse, hq, hWaits⟩
  exact post_outReturns hResponse hq hWaits

/-- What a call to one class in a loop does: from `I` it gives an answer and `J`, or `I` again. -/
def AnswersFrom (I J : UsbDevice B → Prop) (S : C → Prop)
    (f : Nat → C → DeviceM B (Option α × C)) : Prop :=
  ∀ index cls d, S cls → I d → Post False (f index cls) (fun r e => ∃ found cls',
    r = .ok (found, cls') ∧ S cls' ∧ J e ∧ (found = none → I e)) d

omit [UsbBus B] [UsbClass C] in
theorem post_findClass_returns {I J : UsbDevice B → Prop} (hIJ : ∀ d, I d → J d)
    {f : Nat → C → DeviceM B (Option α × C)} (hf : AnswersFrom I J S f) (index : Nat)
    {classes : List C} (hClasses : ∀ cls ∈ classes, S cls) {d : UsbDevice B} (hd : I d) :
    Post False (findClass f index classes) (fun r e => ∃ found classes', r = .ok (found, classes') ∧
      classes'.length = classes.length ∧ (∀ cls ∈ classes', S cls) ∧ J e) d := by
  induction classes generalizing index d with
  | nil => exact ⟨none, [], rfl, rfl, hClasses, hIJ d hd⟩
  | cons cls rest ih =>
    obtain ⟨hFirst, hRest⟩ := List.forall_mem_cons.mp hClasses
    rw [findClass, post_bind]
    apply (hf index cls d hFirst hd).mono
    rintro _ e ⟨found, cls', rfl, hCls', hJ, hI⟩
    cases found with
    | some a => exact ⟨some a, cls' :: rest, rfl, rfl, List.forall_mem_cons.mpr ⟨hCls', hRest⟩, hJ⟩
    | none =>
      dsimp only
      rw [post_bind]
      apply (ih (index + 1) hRest (hI rfl)).mono
      rintro _ e' ⟨found, rest', rfl, hLength, hRest', hJ'⟩
      exact ⟨found, cls' :: rest', rfl, by rw [List.length_cons, hLength, List.length_cons],
        List.forall_mem_cons.mpr ⟨hCls', hRest'⟩, hJ'⟩

omit [UsbBus B] [UsbClass C] in
theorem answersFrom_offer {I : ControlPipe B → Prop} {f : Nat → C → PipeM B C}
    (hf : ∀ index cls p, S cls → I p → p.Steady size → Post False (f index cls) (fun r q =>
      ∃ cls', r = .ok cls' ∧ S cls' ∧ q.Steady size ∧ (q.waitingForResponse = true → I q)) p) :
    AnswersFrom (fun d => d.Steady size ∧ I d.control) (UsbDevice.Steady size) S (offer f) := by
  intro index cls d hCls hd
  rw [offer, post_bind, UsbDevice.onPipe, post_zoom]
  apply (hf index cls d.control hCls hd.2 hd.1.pipe).mono
  rintro _ q ⟨cls', rfl, hCls', hq, hWaits⟩
  have hSteady : (d.withPipe q).Steady size := ⟨hq, hd.1.remembers, hd.1.awake⟩
  refine ⟨_, cls', rfl, hCls', hSteady, fun hNone => ⟨hSteady, hWaits ?_⟩⟩
  by_contra hNot
  change (if q.waitingForResponse = true then none else some ()) = none at hNone
  rw [if_neg hNot] at hNone
  cases hNone

omit [UsbClass C] in
theorem post_askClass {call : ClassCall} {m : C → ClassM (α × C)} {cls : C}
    (hm : (m cls).Yields False fun reply => S reply.2) (index : Nat) {d : UsbDevice B}
    (hd : d.Steady size) :
    Post False (UsbDevice.onBus (callClass call m index cls))
      (fun r e => ∃ a cls', r = .ok (a, cls') ∧ S cls' ∧ e.Steady size) d := by
  apply (post_deviceBus (post_callClass hm d.control.bus)).mono
  rintro _ e ⟨⟨a, cls'⟩, rfl, hCls', t, -, rfl⟩
  exact ⟨a, cls', rfl, hCls', hd.withBus t⟩

end Callbacks

namespace Calm

variable [UsbBus.Contract B] [UsbClass C] {S : C → Prop} {n : Nat} {req : Request}

abbrev Keeps (size n : Nat) (S : C → Prop) (m : SessionM B C α) : Prop :=
  Sustains (Session.Safe size n S) m

omit [UsbBus.Contract B] [UsbBus B] [UsbClass C] in
theorem keeps_onDevice {m : DeviceM B α} (hm : Sustains (UsbDevice.Steady size) m) :
    Keeps size n S (Session.onDevice m : SessionM B C α) :=
  sustains_zoom hm (fun _ hs => hs.device) fun _ _ hs hd => ⟨hd, hs.classes, hs.few⟩

omit [UsbBus.Contract B] [UsbBus B] in
theorem steady_onPipe {m : PipeM B α} (hm : Sustains (ControlPipe.Steady size) m) :
    Sustains (UsbDevice.Steady size) (UsbDevice.onPipe m) :=
  sustains_zoom hm (fun _ hd => hd.pipe) fun _ _ hd hp => ⟨hp, hd.remembers, hd.awake⟩

omit [UsbBus.Contract B] [UsbBus B] in
theorem steady_onBus {m : BusM B α} (hm : ∀ t, Post False m (fun _ _ => True) t) :
    Sustains (UsbDevice.Steady size) (UsbDevice.onBus m) :=
  steady_onPipe (sustains_zoom (J := fun _ => True) (fun t _ => hm t) (fun _ _ => trivial)
    fun _ t hp _ => hp.withBus t)

omit [UsbBus.Contract B] [UsbBus B] [UsbClass C] in
theorem keeps_onPipe {m : PipeM B α} (hm : Sustains (ControlPipe.Steady size) m) :
    Keeps size n S (Session.onPipe m : SessionM B C α) := keeps_onDevice (steady_onPipe hm)

omit [UsbBus.Contract B] [UsbClass C] in
theorem keeps_reject : Keeps size n S (Session.reject : SessionM B C Unit) :=
  keeps_onPipe ControlPipe.sustains_reject

omit [UsbBus.Contract B] [UsbClass C] in
theorem keeps_accept : Keeps size n S (Session.accept : SessionM B C Unit) :=
  keeps_onPipe ControlPipe.sustains_acceptOut

omit [UsbClass C] in
theorem keeps_acceptWith (data : List UInt8) :
    Keeps size n S (Session.acceptWith data : SessionM B C Unit) :=
  keeps_onPipe (ControlPipe.sustains_acceptIn (.copy data) fun buf _ => SliceFn.returns_copy data buf)

omit [UsbBus.Contract B] [UsbBus B] [UsbClass C] in
theorem keeps_modifyDevice {f : UsbDevice B → UsbDevice B}
    (hf : ∀ d, d.Steady size → (f d).Steady size) :
    Keeps size n S (Session.modifyDevice f : SessionM B C Unit) := keeps_onDevice hf

omit [UsbBus.Contract B] [UsbBus B] [UsbClass C] in
theorem post_firstClass_returns {I : UsbDevice B → Prop}
    (hIJ : ∀ d, I d → d.Steady size) {f : Nat → C → DeviceM B (Option α × C)}
    (hf : AnswersFrom I (UsbDevice.Steady size) S f) {s : Session B C} (hs : s.Safe size n S)
    (hI : I s.device) :
    Post False (Session.firstClass f) (fun _ t => t.Safe size n S) s := by
  rw [Session.firstClass, post_bind, post_get]
  dsimp only
  rw [post_bind, Session.onDevice, post_zoom]
  apply (post_findClass_returns hIJ hf 0 hs.classes hI).mono
  rintro _ e ⟨found, classes', rfl, hLength, hClasses, he⟩
  exact ⟨he, hClasses, hLength ▸ hs.few⟩

theorem keeps_getDescriptor (h : Calm size n S) (hEven : size % 2 = 0) {s : Session B C}
    (hs : s.Safe size n S) :
    Keeps size n S (Session.onPipe (getDescriptor s.device.config s.classes req) :
      SessionM B C Unit) := by
  refine keeps_onPipe ?_
  unfold getDescriptor
  cases hWriter : descriptorWriter s.device.config s.classes req with
  | none => exact ControlPipe.sustains_reject
  | some f =>
    refine ControlPipe.sustains_acceptIn (acceptWriterFn f (keepsLength_descriptorWriter hWriter)) ?_
    rintro buf rfl
    exact post_descriptorWriter hWriter (fun cls hMem => h.describes cls (hs.classes cls hMem)) hs.few
      hEven

/-- No arm of the handler of IN requests panics. -/
theorem keeps_standardControlIn (h : Calm size n S) (hEven : size % 2 = 0) :
    Keeps size n S (Session.standardControlIn req : SessionM B C Unit) := by
  refine sustains_get_bind fun s hs => ?_
  cases req.standardIn with
  | deviceStatus => exact keeps_acceptWith _
  | interfaceStatus => exact keeps_acceptWith _
  | endpointStatus =>
    refine sustains_bind (keeps_onDevice (steady_onBus ?_)) fun _ => keeps_acceptWith _
    exact fun _ => trivial
  | descriptor => exact h.keeps_getDescriptor hEven hs
  | configuration => exact keeps_acceptWith _
  | interface =>
    refine sustains_ite keeps_reject (sustains_bind ?_ fun _ => keeps_acceptWith _)
    intro t ht
    refine post_firstClass_returns (fun _ => id) (fun index cls d hCls hd => ?_) ht ht.device
    apply (post_askClass (h.getAltSetting cls _ hCls) index hd).mono
    rintro _ e ⟨found, cls', rfl, hCls', he⟩
    exact ⟨found, cls', rfl, hCls', he, fun _ => he⟩
  | other => exact sustains_pure ()

omit [UsbBus.Contract B] [UsbClass C] in
theorem keeps_rejectUnanswered : Keeps size n S (do
    let s ← get
    when (s.device.control.waitingForResponse = true) Session.reject : SessionM B C Unit) :=
  sustains_get_bind fun _ _ => sustains_when keeps_reject

theorem keeps_controlIn (h : Calm size n S) (hEven : size % 2 = 0) :
    Keeps size n S (Session.controlIn req : SessionM B C Unit) := by
  refine sustains_bind (fun s hs => ?_) fun found => ?_
  · refine post_firstClass_returns (I := fun d => d.Steady size ∧ True) (fun _ hd => hd.1)
      (answersFrom_offer (I := fun _ => True) fun index cls p hCls _ hp => ?_) hs ⟨hs.device, trivial⟩
    apply (h.post_callControlIn hCls req index hp).mono
    rintro _ q ⟨cls', rfl, hCls', hq⟩
    exact ⟨cls', rfl, hCls', hq, fun _ => trivial⟩
  · cases found with
    | some u => exact sustains_pure ()
    | none =>
      exact sustains_bind (sustains_when (h.keeps_standardControlIn hEven)) fun _ =>
        keeps_rejectUnanswered

omit [UsbBus.Contract B] in
theorem keeps_setInterface (h : Calm size n S) :
    Keeps size n S (Session.setInterface req : SessionM B C Unit) := by
  refine sustains_ite keeps_reject (sustains_bind (fun s hs => ?_) fun found => ?_)
  · refine post_firstClass_returns (fun _ => id) (fun index cls d hCls hd => ?_) hs hs.device
    rw [post_bind]
    apply (post_askClass (h.setAltSetting cls _ _ hCls) index hd).mono
    rintro _ e ⟨taken, cls', rfl, hCls', he⟩
    exact ⟨_, cls', rfl, hCls', he, fun _ => he⟩
  · cases found with
    | some u => exact keeps_accept
    | none => exact sustains_ite keeps_accept keeps_reject

omit [UsbBus.Contract B] in
/-- No arm of the handler of OUT requests panics. -/
theorem keeps_standardControlOut (h : Calm size n S) :
    Keeps size n S (Session.standardControlOut req : SessionM B C Unit) := by
  have hAccept {m : SessionM B C Unit} (hm : Keeps size n S m) : Keeps size n S (do
      m
      Session.accept : SessionM B C Unit) := sustains_bind hm fun _ => keeps_accept
  refine sustains_get_bind fun s _ => ?_
  cases req.standardOut with
  | clearRemoteWakeup => exact hAccept (keeps_modifyDevice fun _ hd => ⟨hd.pipe, hd.remembers, hd.awake⟩)
  | clearHalt => exact hAccept (keeps_onDevice (steady_onBus fun _ => trivial))
  | setRemoteWakeup => exact hAccept (keeps_modifyDevice fun _ hd => ⟨hd.pipe, hd.remembers, hd.awake⟩)
  | setHalt => exact hAccept (keeps_onDevice (steady_onBus fun _ => trivial))
  | setAddress =>
    refine hAccept (sustains_ite ?_ (keeps_modifyDevice fun _ hd => ⟨hd.pipe, hd.remembers, hd.awake⟩))
    exact sustains_bind (keeps_onDevice (steady_onBus fun _ => trivial)) fun _ =>
      keeps_modifyDevice fun _ hd => ⟨hd.pipe, nofun, hd.awake⟩
  | configure => exact hAccept (keeps_modifyDevice fun _ hd => ⟨hd.pipe, nofun, hd.awake⟩)
  | deconfigure =>
    exact hAccept (sustains_when (keeps_modifyDevice fun _ hd => ⟨hd.pipe, nofun, hd.awake⟩))
  | setInterface => exact h.keeps_setInterface
  | other => exact keeps_reject

omit [UsbBus.Contract B] in
theorem post_controlOut_returns (h : Calm size n S) {s : Session B C} (hs : s.Safe size n S)
    (hState : s.device.control.state = .completeOut) :
    Post False (Session.controlOut req) (fun _ t => t.Safe size n S) s := by
  refine post_then ?_ fun found t ht => ?_
  · refine post_firstClass_returns (fun _ hd => hd.1) (answersFrom_offer
      (I := fun p => p.state = .completeOut) fun index cls p hCls hWaits hp => ?_) hs
        ⟨hs.device, hState⟩
    apply (h.post_callControlOut hCls req index hp hWaits).mono
    rintro _ q ⟨cls', rfl, hCls', hq, hAwaits⟩
    exact ⟨cls', rfl, hCls', hq, hAwaits⟩
  · cases found with
    | some u => exact ht
    | none =>
      refine sustains_bind (sustains_when h.keeps_standardControlOut) (fun _ => ?_) t ht
      exact keeps_rejectUnanswered

theorem post_dispatch_returns (h : Calm size n S) (hEven : size % 2 = 0) {s : Session B C}
    (hs : s.Safe size n S)
    (hState : req.direction = .out → s.device.control.state = .completeOut) :
    Post False (Session.dispatch req) (fun _ t => t.Safe size n S) s := by
  unfold Session.dispatch
  cases hDirection : req.direction with
  | in_ => exact h.keeps_controlIn hEven s hs
  | out => exact h.post_controlOut_returns hs (hState hDirection)

omit [UsbClass C] in
theorem keeps_completeIn :
    Keeps size n S (Session.onDevice Session.completeIn : SessionM B C Unit) := by
  refine keeps_onDevice (sustains_bind ?_ fun completed => sustains_get_bind fun d _ => ?_)
  · exact sustains_attempt (steady_onPipe ControlPipe.sustains_handleInComplete)
  · refine sustains_when (sustains_bind (steady_onBus fun _ => trivial) fun _ => ?_)
    exact sustains_modify fun _ hd => ⟨hd.pipe, nofun, hd.awake⟩

theorem keeps_pollControl (h : Calm size n S) (hEven : size % 2 = 0) (epOut epIn epSetup : UInt16) :
    Keeps size n S (Session.pollControl epOut epIn epSetup : SessionM B C Unit) := by
  intro s hs
  rw [Session.pollControl, post_bind, Session.onPipe, Session.onDevice, post_zoom, UsbDevice.onPipe,
    post_zoom]
  obtain ⟨r, p, hReceive, hp⟩ := post_false_iff.mp
    (ControlPipe.sustains_receive epOut epSetup s.device.control hs.device.pipe)
  obtain ⟨found, rfl, hReceives⟩ := ControlPipe.receives_of_receive hReceive
  have ht : Session.Safe size n S { s with device := s.device.withPipe p } :=
    ⟨⟨hp, hs.device.remembers, hs.device.awake⟩, hs.classes, hs.few⟩
  refine post_false_iff.mpr ⟨_, p, hReceive, ?_⟩
  cases found with
  | some req =>
    dsimp only
    rw [post_bind, post_attempt]
    refine (h.post_dispatch_returns hEven ht fun hOut => ?_).mono fun _ _ hu => hu
    rcases hReceives.waiting hs.device.pipe.data with ⟨hState, -⟩ | ⟨-, hIn⟩
    · exact hState
    · rw [hIn] at hOut
      cases hOut
  | none => exact sustains_when keeps_completeIn _ ht

omit [UsbBus.Contract B] [UsbClass C] in
theorem keeps_notify {call : ClassCall} {f : C → ClassM C}
    (hf : ∀ cls, S cls → (f cls).Yields False S) :
    Keeps size n S (Session.notify call f : SessionM B C Unit) := by
  intro s hs
  apply (post_notify (K := fun cls cls' => S cls → S cls') fun cls hMem =>
    (hf cls (hs.classes cls hMem)).mono fun _ hCls' _ => hCls').mono
  rintro _ t ⟨rfl, ⟨u, -, hDevice⟩, hClasses⟩
  refine ⟨hDevice ▸ hs.device.withBus u, fun cls' hMem => ?_, hClasses.length_eq ▸ hs.few⟩
  obtain ⟨cls, hBefore, hKept⟩ := exists_kept hClasses hMem
  exact hKept (hs.classes cls hBefore)

omit [UsbBus.Contract B] in
theorem keeps_pollEndpoints (h : Calm size n S) (epOut epIn epSetup : UInt16) (rounds i : Nat)
    (bit eps : UInt16) : Keeps size n S
      (Session.pollEndpoints epOut epIn epSetup rounds i bit eps : SessionM B C Unit) := by
  induction rounds generalizing i bit eps with
  | zero => exact sustains_pure ()
  | succ rounds ih =>
    refine sustains_bind (sustains_when (keeps_notify fun cls => h.endpointSetup cls _)) fun _ => ?_
    refine sustains_bind (sustains_when (keeps_notify fun cls => h.endpointOut cls _)) fun _ => ?_
    refine sustains_bind (sustains_when (keeps_notify fun cls => h.endpointInComplete cls _)) fun _ => ?_
    exact sustains_when (ih _ _ _)

theorem post_handleEvent_returns (h : Calm size n S) (hEven : size % 2 = 0) {s : Session B C}
    (hs : s.Safe size n S) (hAwake : s.device.deviceState ≠ .suspend) (pr : PollResult) :
    Post False (Session.handleEvent pr) (fun _ t => t.Safe size n S) s := by
  cases pr with
  | none => exact hs
  | resume => exact hs
  | data epOut epIn epSetup =>
    refine sustains_bind ?_ (fun _ => sustains_pure true) s hs
    refine sustains_bind (sustains_when (h.keeps_pollControl hEven epOut epIn epSetup)) fun _ => ?_
    refine sustains_bind (sustains_when (h.keeps_pollEndpoints _ _ _ _ _ _ _)) fun _ => ?_
    exact keeps_notify h.poll
  | reset =>
    refine sustains_bind ?_ (fun _ => sustains_pure false) s hs
    refine sustains_bind (keeps_onDevice (steady_onBus fun _ => trivial)) fun _ => ?_
    refine sustains_bind (keeps_modifyDevice fun _ hd => ⟨hd.pipe, nofun, nofun⟩) fun _ => ?_
    refine sustains_bind (keeps_onPipe (sustains_modify fun p hp => ?_)) fun _ => ?_
    · exact ⟨trivial, hp.length, nofun, hp.leftover⟩
    · exact keeps_notify h.reset
  | suspend =>
    refine ⟨⟨hs.device.pipe.withBus _, fun _ => Option.some_ne_none _, fun hSome => ?_⟩,
      hs.classes, hs.few⟩
    exact hAwake (Option.some.inj hSome)

/-- A poll keeps a session safe, and returns. -/
theorem keeps_poll (h : Calm size n S) (hEven : size % 2 = 0) :
    Keeps size n S (Session.poll : SessionM B C Bool) := by
  intro s hs
  have hPolled : s.device.polled.Steady size := hs.device.withBus _
  have hEvent {d : UsbDevice B} (hd : d.Steady size) (hAwake : d.deviceState ≠ .suspend)
      (pr : PollResult) : Post False (Session.handleEvent pr) (fun _ t => t.Safe size n S)
        { s with device := d } := by
    have ht : Session.Safe size n S { s with device := d } := ⟨hd, hs.classes, hs.few⟩
    exact h.post_handleEvent_returns hEven ht hAwake pr
  by_cases hState : s.device.deviceState = .suspend
  · by_cases hQuiet : (UsbBus.poll s.device.control.bus.bus).1 = .suspend ∨
        (UsbBus.poll s.device.control.bus.bus).1 = .none
    · unfold Post
      rw [poll_of_quiet hState hQuiet]
      exact ⟨hPolled, hs.classes, hs.few⟩
    · obtain ⟨state, hRemembered⟩ := Option.ne_none_iff_exists'.mp (hs.device.remembers hState)
      have hAwake : state ≠ .suspend := fun hSuspend => hs.device.awake (hSuspend ▸ hRemembered)
      unfold Post
      rw [poll_of_event (UsbDevice.event?_of_asleep hState hQuiet hRemembered)]
      have hResumed : (s.device.polled.resumed state).Steady size :=
        ⟨hPolled.pipe.withBus _, fun hAgain => absurd hAgain hAwake, nofun⟩
      exact hEvent hResumed hAwake _
  · unfold Post
    rw [poll_of_event (UsbDevice.event?_of_awake hState)]
    exact hEvent hPolled hState _

/-- What the application may do: it passes calm classes, of which there are not too many. -/
def Allows (n : Nat) (S : C → Prop) : DeviceInput B C → Prop
  | .setClasses classes => (∀ cls ∈ classes, S cls) ∧ classes.length * n < 255
  | .useEndpoints m => m.Yields False fun _ => True
  | _ => True

theorem keeps_perform (h : Calm size n S) (hEven : size % 2 = 0) {input : DeviceInput B C}
    (hInput : Allows n S input) : Keeps size n S (input.perform : SessionM B C (Option Bool)) := by
  have hCall {m : SessionM B C Unit} (hm : Keeps size n S m) : Keeps size n S (do
      m
      pure none : SessionM B C (Option Bool)) := sustains_bind hm fun _ => sustains_pure none
  cases input with
  | poll => exact sustains_bind (h.keeps_poll hEven) fun found => sustains_pure (some found)
  | hardware bus => exact hCall (keeps_modifyDevice fun _ hd => hd.withBus _)
  | setClasses classes => exact hCall (sustains_modify fun _ hs => ⟨hs.device, hInput.1, hInput.2⟩)
  | useEndpoints m =>
    exact hCall (keeps_onDevice
      (steady_onBus fun t => (post_run hInput t).mono fun _ _ _ => trivial))
  | setSelfPowered b =>
    exact hCall (keeps_modifyDevice fun _ hd => ⟨hd.pipe, hd.remembers, hd.awake⟩)

end Calm

/-- With a control buffer of even length and calm classes that are not too many, no call of the
application panics, whatever the host sends and the hardware does. -/
theorem run_never_panics [UsbBus.Contract B] [UsbClass C] {S : C → Prop} {n : Nat} {d : UsbDevice B}
    (hFresh : d.Fresh) (hEven : d.control.buf.length % 2 = 0) (h : Calm d.control.buf.length n S)
    {classes : List C} (hClasses : ∀ cls ∈ classes, S cls) (hFew : classes.length * n < 255)
    {inputs : List (DeviceInput B C)} (hInputs : ∀ input ∈ inputs, Calm.Allows n S input) :
    (finalState DeviceInput.perform inputs ⟨d, classes⟩).isSome := by
  have hSteady : d.Steady d.control.buf.length := by
    obtain ⟨builder, t, -, -, -, rfl⟩ := hFresh.built
    exact ⟨⟨trivial, rfl, nofun, nofun⟩, nofun, nofun⟩
  have hSafe : Session.Safe d.control.buf.length n S ⟨d, classes⟩ := ⟨hSteady, hClasses, hFew⟩
  obtain ⟨s, hRun, -⟩ := finalState_of_sustains
    (fun input hInput => h.keeps_perform hEven hInput) hInputs hSafe
  rw [hRun]
  rfl

theorem calm_settingsClass (size : Nat) : Calm size 4 fun _ : SettingsClass => True where
  reset _ _ := trivial
  poll _ _ := trivial
  endpointSetup _ _ _ := trivial
  endpointOut _ _ _ := trivial
  endpointInComplete _ _ _ := trivial
  getAltSetting _ _ _ := trivial
  setAltSetting _ _ _ _ := trivial
  controlIn _ _ _ := trivial
  controlOut _ _ _ _ := trivial
  describes _ _ := by
    refine ⟨DescriptorProgram.countsAtMost_sequence fun call hCall f hCallback => ?_, trivial⟩
    simp only [List.mem_cons, List.not_mem_nil, or_false] at hCall
    rcases hCall with rfl | rfl | rfl | rfl | rfl <;> cases hCallback

/-- GET_DESCRIPTOR for the configuration, which is longer than the buffer. -/
theorem run_never_panics_settings :
    (finalState DeviceInput.perform [.poll, .setSelfPowered true, .poll]
      (⟨ScriptBus.device ⟨[.ok [0x80, 6, 0, 2, 0, 0, 255, 0]], [], [.data 0 0 1, .reset]⟩,
        [SettingsClass.mk]⟩ : Session ScriptBus SettingsClass)).isSome :=
  run_never_panics (ScriptBus.fresh_device _) rfl (calm_settingsClass _) (fun _ _ => trivial)
    (by decide) (by simp [Calm.Allows])

end UsbStack
