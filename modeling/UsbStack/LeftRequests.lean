import UsbStack.Callbacks
import UsbStack.OneAnswer

/-! # Requests that the classes leave to the device

The classes are asked one after the other, and each of them leaves the request.
-/

namespace UsbStack

set_option autoImplicit false

open Foundation Exec

variable {B C α : Type}

section Search

inductive Asked (P : C → Option α → C → Prop) : List C → Option α → List C → Prop
  | exhausted : Asked P [] none []
  | found {cls cls' : C} {a : α} (h : P cls (some a) cls') (rest : List C) :
      Asked P (cls :: rest) (some a) (cls' :: rest)
  | passed {cls cls' : C} {rest rest' : List C} {found : Option α} (h : P cls none cls')
      (hRest : Asked P rest found rest') : Asked P (cls :: rest) found (cls' :: rest')

variable {P : C → Option α → C → Prop} {pan : Prop} [UsbBus B] {I : UsbDevice B → Prop}
  {f : Nat → C → DeviceM B (Option α × C)}

/-- What holds of each call holds of the loop, up to the class that gives a value. -/
theorem post_findClass (hI : Stable I)
    (hf : ∀ index cls d, I d → Post pan (f index cls)
      (fun r e => ∃ reply, r = .ok reply ∧ P cls reply.1 reply.2 ∧ Foreign d e) d)
    (index : Nat) (classes : List C) {d : UsbDevice B} (hd : I d) :
    Post pan (findClass f index classes)
      (fun r e => ∃ reply, r = .ok reply ∧ Asked P classes reply.1 reply.2 ∧ Foreign d e) d := by
  induction classes generalizing index d with
  | nil => exact ⟨(none, []), rfl, .exhausted, foreign_refl d⟩
  | cons cls rest ih =>
    rw [findClass, post_bind]
    apply (hf index cls d hd).mono
    rintro r e ⟨⟨found, cls'⟩, rfl, hP, hForeign⟩
    cases found with
    | some a => exact ⟨(some a, cls' :: rest), rfl, .found hP rest, hForeign⟩
    | none =>
      dsimp only
      rw [post_bind]
      apply (ih (index + 1) (hI _ _ hd hForeign)).mono
      rintro r e' ⟨⟨found, rest'⟩, rfl, hAsked, hForeign'⟩
      exact ⟨(found, cls' :: rest'), rfl, .passed hP hAsked, foreign_trans _ _ _ hForeign hForeign'⟩

theorem post_firstClass (hI : Stable I)
    (hf : ∀ index cls d, I d → Post pan (f index cls)
      (fun r e => ∃ reply, r = .ok reply ∧ P cls reply.1 reply.2 ∧ Foreign d e) d)
    {s : Session B C} (hs : I s.device) :
    Post pan (Session.firstClass f) (fun r t => ∃ found, r = .ok found ∧
      Asked P s.classes found t.classes ∧ Foreign s.device t.device) s := by
  rw [Session.firstClass, post_bind, post_get]
  dsimp only
  rw [post_bind, Session.onDevice, post_zoom]
  apply (post_findClass hI hf 0 s.classes hs).mono
  rintro r e ⟨⟨found, classes⟩, rfl, hAsked, hForeign⟩
  exact ⟨found, rfl, hAsked, hForeign⟩

end Search

theorem Asked.left {K : C → C → Prop} {classes classes' : List C} {found : Option Unit}
    (h : Asked (fun cls found cls' => found = none ∧ K cls cls') classes found classes') :
    found = none ∧ List.Forall₂ K classes classes' := by
  induction h with
  | exhausted => exact ⟨rfl, .nil⟩
  | found h rest => cases h.1
  | passed h hRest ih => exact ⟨ih.1, .cons h.2 ih.2⟩

section Left

variable [UsbBus B] [UsbClass C] {K : C → C → Prop} {req : Request}

/-- The class leaves the request to the device, and `K` relates it to what it is afterwards. -/
def LeavesRequest (K : C → C → Prop) (req : Request) (cls : C) : Prop :=
  match req.direction with
  | .in_ => (UsbClass.controlIn cls req).Yields False fun response =>
      ∃ cls', response = .ignore cls' ∧ K cls cls'
  | .out => ∀ data, (UsbClass.controlOut cls req data).Yields False fun response =>
      ∃ cls', response = .ignore cls' ∧ K cls cls'

/-- The pipe awaits the answer to the request, and its data lie in the buffer. -/
structure UsbDevice.Presents (req : Request) (d : UsbDevice B) : Prop where
  awaits : d.control.Awaits req
  data : req.direction = .out → d.control.len ≤ d.control.buf.length

omit [UsbClass C] in
theorem stable_presents (req : Request) : Stable (UsbDevice.Presents req : UsbDevice B → Prop) := by
  rintro d e hd ⟨t, -, rfl⟩
  exact ⟨hd.awaits, hd.data⟩

omit [UsbClass C] in
theorem presents_of_foreign {s u : Session B C} (h : s.device.Presents req)
    (hForeign : Foreign s.device u.device) : u.device.Presents req :=
  stable_presents req _ _ h hForeign

omit [UsbBus B] [UsbClass C] in
theorem UsbDevice.Presents.completeIn {d : UsbDevice B} (h : d.Presents req)
    (hIn : req.direction = .in_) : d.control.state = .completeIn req := by
  have hAwaits := h.awaits
  unfold ControlPipe.Awaits at hAwaits
  rw [hIn] at hAwaits
  exact hAwaits

omit [UsbBus B] [UsbClass C] in
theorem UsbDevice.Presents.completeOut {d : UsbDevice B} (h : d.Presents req)
    (hOut : req.direction = .out) : d.control.state = .completeOut := by
  have hAwaits := h.awaits
  unfold ControlPipe.Awaits at hAwaits
  rw [hOut] at hAwaits
  exact hAwaits

/-- A class that leaves the request changes nothing of the pipe but its record. -/
theorem post_callControl {cls : C} (h : LeavesRequest K req cls) (index : Nat) {p : ControlPipe B}
    (hData : req.direction = .out → p.len ≤ p.buf.length) :
    Post False (callControl req index cls) (fun r q => ∃ cls', r = .ok cls' ∧ K cls cls' ∧
      ∃ t, ClassUse p.bus t ∧ q = { p with bus := t }) p := by
  have hCalled (call : ClassCall) {t : Traced B}
      (hUse : ClassUse (p.bus.noting (.class_ index call)) t) : ClassUse p.bus t :=
    .trans (.single (.called index call)) hUse
  have hNoted (call : ClassCall) :
      (ControlPipe.onBus (Traced.note (.class_ index call)) : PipeM B Unit) p =
      .done (.ok ()) { p with bus := p.bus.noting (.class_ index call) } := rfl
  unfold LeavesRequest at h
  unfold callControl
  cases hDirection : req.direction with
  | in_ =>
    rw [hDirection] at h
    dsimp only
    rw [callControlIn, post_bind, Post, hNoted]
    dsimp only
    rw [post_bind, ControlPipe.onBus, post_zoom]
    apply (post_run h _).mono
    rintro r t ⟨response, rfl, ⟨cls', rfl, hK⟩, hUse⟩
    exact ⟨cls', rfl, hK, t, hCalled _ hUse, rfl⟩
  | out =>
    rw [hDirection] at h
    have hSlice : (ControlPipe.data : PipeM B (List UInt8)) p =
        .done (.ok (p.buf.take p.len)) p := by
      rw [ControlPipe.data_apply, slice?_of_le (Nat.zero_le _) (hData hDirection)]
      rfl
    dsimp only
    rw [callControlOut, post_bind, Post, hSlice]
    dsimp only
    rw [post_bind, Post, hNoted]
    dsimp only
    rw [post_bind, ControlPipe.onBus, post_zoom]
    apply (post_run (h _) _).mono
    rintro r t ⟨response, rfl, ⟨cls', rfl, hK⟩, hUse⟩
    exact ⟨cls', rfl, hK, t, hCalled _ hUse, rfl⟩

theorem post_offer {cls : C} (h : LeavesRequest K req cls) (index : Nat) {d : UsbDevice B}
    (hd : d.Presents req) :
    Post False (offer (callControl req) index cls) (fun r e => ∃ reply, r = .ok reply ∧
      (reply.1 = none ∧ K cls reply.2) ∧ Foreign d e) d := by
  rw [offer, post_bind, UsbDevice.onPipe, post_zoom]
  apply (post_callControl h index hd.data).mono
  rintro r q ⟨cls', rfl, hK, t, hUse, rfl⟩
  have hWaiting : ({ d.control with bus := t } : ControlPipe B).waitingForResponse = true :=
    hd.awaits.waiting
  dsimp only
  rw [post_bind, post_get]
  dsimp only
  rw [post_pure, if_pos hWaiting]
  exact ⟨(none, cls'), rfl, ⟨rfl, hK⟩, t, hUse, rfl⟩

/-- A request that every class leaves comes to the device itself. -/
theorem dispatch_of_left {s : Session B C} (h : ∀ cls : C, LeavesRequest K req cls)
    (hs : s.device.Presents req) :
    ∃ u, s.Kept K u ∧ Session.firstClass (offer (callControl req)) s = .done (.ok none) u ∧
      Session.dispatch req s = answerSelf req u := by
  have hOffers := post_firstClass (P := fun cls found cls' => found = none ∧ K cls cls')
    (stable_presents req) (fun index cls d hd => post_offer (h cls) index hd) hs
  obtain ⟨r, u, hDone, found, rfl, hAsked, hForeign⟩ := post_false_iff.mp hOffers
  obtain ⟨rfl, hK⟩ := hAsked.left
  refine ⟨u, ⟨hForeign, hK⟩, hDone, ?_⟩
  rw [dispatch_eq, bind_of_ok hDone]

end Left

end UsbStack
