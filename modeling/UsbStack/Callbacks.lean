import UsbStack.Answering
import UsbStack.DeviceRun
import Mathlib.Data.List.Forall2

/-! # The callbacks that a poll makes

What a poll does besides the handling of endpoint 0, for classes whose callbacks return and keep a
relation between a class before and after. With `pan` false the rules say that nothing panics.
-/

namespace UsbStack

set_option autoImplicit false

open Foundation Exec

variable {B C α : Type} [UsbBus B] {pan : Prop}

section Callback

theorem EndpointCall.returns (call : EndpointCall) (t : Traced B) :
    Post False (call.perform : BusM B call.Reply) (fun r _ => ∃ reply, r = .ok reply) t := by
  cases call with
  | read ep len => exact ⟨_, rfl⟩
  | write ep data => exact ⟨_, rfl⟩
  | stall ep => exact ⟨_, rfl⟩
  | unstall ep => exact ⟨_, rfl⟩

theorem post_run {P : α → Prop} {m : ClassM α} (h : m.Yields pan P) (t : Traced B) :
    Post pan (m.run : BusM B α) (fun r u => ∃ a, r = .ok a ∧ P a ∧ ClassUse t u) t := by
  have hYields : Post pan (m.run : BusM B α) (fun r _ => ∃ a, r = .ok a ∧ P a) t :=
    Program.post_interp_yields EndpointCall.returns h t
  apply (hYields.and_true (within_run m t)).mono
  rintro r u ⟨⟨a, rfl, hP⟩, hUse⟩
  exact ⟨a, rfl, hP, hUse⟩

theorem post_callClass {P : α → Prop} {call : ClassCall} {m : C → ClassM α} {index : Nat} {cls : C}
    (h : (m cls).Yields pan P) (t : Traced B) :
    Post pan (callClass call m index cls : BusM B α)
      (fun r u => ∃ a, r = .ok a ∧ P a ∧ ClassUse t u) t := by
  have hNoted : (Traced.note (.class_ index call) : BusM B Unit) t =
      .done (.ok ()) (t.noting (.class_ index call)) := rfl
  rw [callClass, Post, bind_of_ok hNoted]
  apply (post_run h (t.noting (.class_ index call))).mono
  rintro r u ⟨a, rfl, hP, hUse⟩
  exact ⟨a, rfl, hP, .trans (.single (.called index call)) hUse⟩

theorem post_deviceBus {m : BusM B α} {P : α → Prop} {d : UsbDevice B}
    (h : Post pan m (fun r u => ∃ a, r = .ok a ∧ P a ∧ ClassUse d.control.bus u) d.control.bus) :
    Post pan (UsbDevice.onBus m) (fun r e => ∃ a, r = .ok a ∧ P a ∧ Foreign d e) d := by
  rw [UsbDevice.onBus, UsbDevice.onPipe, ControlPipe.onBus, post_zoom, post_zoom]
  apply h.mono
  rintro r u ⟨a, rfl, hP, hUse⟩
  exact ⟨a, rfl, hP, u, hUse, rfl⟩

end Callback

/-- Classes related to those before, on a device that only classes have used. -/
structure Session.Kept (K : C → C → Prop) (s t : Session B C) : Prop where
  device : Foreign s.device t.device
  classes : List.Forall₂ K s.classes t.classes

section Classes

variable {K : C → C → Prop} {s t u : Session B C}

omit [UsbBus B] in
theorem forall₂_trans (hK : ∀ a b c, K a b → K b c → K a c) {a b c : List C}
    (h : List.Forall₂ K a b) (h' : List.Forall₂ K b c) : List.Forall₂ K a c := by
  induction h generalizing c with
  | nil =>
    cases h'
    exact .nil
  | cons hHead _ ih =>
    cases h' with
    | cons hHead' hTail => exact .cons (hK _ _ _ hHead hHead') (ih hTail)

omit [UsbBus B] in
theorem exists_kept {classes classes' : List C}
    (h : List.Forall₂ K classes classes') {y : C} (hy : y ∈ classes') : ∃ x ∈ classes, K x y := by
  induction h with
  | nil => cases hy
  | cons hHead _ ih =>
    rcases List.mem_cons.mp hy with rfl | hy
    · exact ⟨_, List.mem_cons_self, hHead⟩
    · obtain ⟨x, hx, hK⟩ := ih hy
      exact ⟨x, List.mem_cons_of_mem _ hx, hK⟩

theorem Session.Kept.trans (hK : ∀ a b c, K a b → K b c → K a c) (h : s.Kept K t) (h' : t.Kept K u) :
    s.Kept K u :=
  ⟨foreign_trans _ _ _ h.device h'.device, forall₂_trans hK h.classes h'.classes⟩

theorem Session.kept_refl (hK : ∀ a, K a a) (s : Session B C) : s.Kept K s :=
  ⟨foreign_refl _, List.forall₂_same.mpr fun a _ => hK a⟩

theorem post_forEachClass {f : Nat → C → DeviceM B C} {classes : List C}
    (hf : ∀ cls ∈ classes, ∀ index d, Post pan (f index cls)
      (fun r e => ∃ cls', r = .ok cls' ∧ K cls cls' ∧ Foreign d e) d)
    (index : Nat) (d : UsbDevice B) :
    Post pan (forEachClass f index classes)
      (fun r e => ∃ classes', r = .ok classes' ∧ List.Forall₂ K classes classes' ∧ Foreign d e) d := by
  induction classes generalizing index d with
  | nil => exact ⟨[], rfl, .nil, foreign_refl d⟩
  | cons cls rest ih =>
    rw [forEachClass, post_bind]
    apply (hf cls List.mem_cons_self index d).mono
    rintro r e ⟨cls', rfl, hK, hForeign⟩
    dsimp only
    rw [post_bind]
    apply (ih (fun other hOther => hf other (List.mem_cons_of_mem _ hOther)) (index + 1) e).mono
    rintro r e' ⟨rest', rfl, hRest, hForeign'⟩
    exact ⟨cls' :: rest', rfl, .cons hK hRest, foreign_trans _ _ _ hForeign hForeign'⟩

theorem post_notify {call : ClassCall} {f : C → ClassM C}
    (hf : ∀ cls ∈ s.classes, (f cls).Yields pan (K cls)) :
    Post pan (Session.notify call f) (fun r t => r = .ok () ∧ s.Kept K t) s := by
  rw [Session.notify, Session.eachClass, post_bind, post_get]
  dsimp only
  rw [post_bind, Session.onDevice, post_zoom]
  have hCalls : ∀ cls ∈ s.classes, ∀ index d, Post pan
      (UsbDevice.onBus (callClass call f index cls) : DeviceM B C)
      (fun r e => ∃ cls', r = .ok cls' ∧ K cls cls' ∧ Foreign d e) d :=
    fun cls hCls _ d => post_deviceBus (post_callClass (hf cls hCls) d.control.bus)
  apply (post_forEachClass hCalls 0 s.device).mono
  rintro r e ⟨classes', rfl, hClasses, hForeign⟩
  exact ⟨rfl, hForeign, hClasses⟩

end Classes

def endpointBit : Nat → UInt16
  | 0 => 1
  | n + 1 => endpointBit n <<< 1

variable [UsbClass C]

/-- The callbacks that a poll with the IN-complete events `epIn` makes return for classes with `S`
and keep `K`. -/
structure Tame (pan : Prop) (K : C → C → Prop) (epIn : UInt16) (S : C → Prop) : Prop where
  refl : ∀ cls, K cls cls
  trans : ∀ a b c, K a b → K b c → K a c
  keeps : ∀ cls cls', S cls → K cls cls' → S cls'
  poll : ∀ cls, S cls → (UsbClass.poll cls).Yields pan (K cls)
  endpointSetup : ∀ cls addr, S cls → (UsbClass.endpointSetup cls addr).Yields pan (K cls)
  endpointOut : ∀ cls addr, S cls → (UsbClass.endpointOut cls addr).Yields pan (K cls)
  endpointInComplete : ∀ cls n, S cls → epIn &&& endpointBit n ≠ 0 →
    (UsbClass.endpointInComplete cls (.fromParts n .in_)).Yields pan (K cls)

namespace Tame

variable {K : C → C → Prop} {S : C → Prop} {epOut epIn epSetup : UInt16} {s t : Session B C}

theorem keeps_all (h : Tame pan K epIn S) (hs : ∀ cls ∈ s.classes, S cls) (hKept : s.Kept K t) :
    ∀ cls ∈ t.classes, S cls := by
  have hAll (l l' : List C) (hK : List.Forall₂ K l l') (hl : ∀ cls ∈ l, S cls) :
      ∀ cls ∈ l', S cls := by
    induction hK with
    | nil => exact hl
    | cons hHead _ ih =>
      have hRest := ih fun cls hCls => hl cls (List.mem_cons_of_mem _ hCls)
      have hFirst := h.keeps _ _ (hl _ List.mem_cons_self) hHead
      exact List.forall_mem_cons.mpr ⟨hFirst, hRest⟩
  exact hAll _ _ hKept.classes hs

theorem andThen (h : Tame pan K epIn S) (hs : ∀ cls ∈ s.classes, S cls)
    {m : SessionM B C Unit} {k : Unit → SessionM B C Unit}
    (hm : Post pan m (fun r t => r = .ok () ∧ s.Kept K t) s)
    (hk : ∀ t, (∀ cls ∈ t.classes, S cls) → Post pan (k ()) (fun r u => r = .ok () ∧ t.Kept K u) t) :
    Post pan (m >>= k) (fun r u => r = .ok () ∧ s.Kept K u) s := by
  rw [post_bind]
  apply hm.mono
  rintro r t ⟨rfl, ht⟩
  apply (hk t (h.keeps_all hs ht)).mono
  rintro r u ⟨rfl, hu⟩
  exact ⟨rfl, ht.trans h.trans hu⟩

/-- The turns of the loop from endpoint `i` on. -/
theorem pollEndpoints (h : Tame pan K epIn S) (rounds i : Nat) (eps : UInt16)
    (hs : ∀ cls ∈ s.classes, S cls) :
    Post pan (Session.pollEndpoints epOut epIn epSetup rounds i (endpointBit i) eps)
      (fun r t => r = .ok () ∧ s.Kept K t) s := by
  induction rounds generalizing i eps s with
  | zero => exact ⟨rfl, s.kept_refl h.refl⟩
  | succ rounds ih =>
    have hWhen {c : Prop} [Decidable c] {m : SessionM B C Unit} (t : Session B C)
        (hm : c → Post pan m (fun r u => r = .ok () ∧ t.Kept K u) t) :
        Post pan (when c m) (fun r u => r = .ok () ∧ t.Kept K u) t :=
      post_when hm fun _ => ⟨rfl, t.kept_refl h.refl⟩
    rw [Session.pollEndpoints]
    refine h.andThen hs (hWhen s fun _ => ?_) fun t ht => ?_
    · exact post_notify fun cls hCls => h.endpointSetup cls _ (hs cls hCls)
    refine h.andThen ht (hWhen t fun _ => ?_) fun u hu => ?_
    · exact post_notify fun cls hCls => h.endpointOut cls _ (ht cls hCls)
    refine h.andThen hu (hWhen u fun hBit => ?_) fun v hv => ?_
    · exact post_notify fun cls hCls => h.endpointInComplete cls i (hu cls hCls) hBit
    · exact hWhen v fun _ => ih (i + 1) _ hv

/-- The handling of endpoint 0 leads to `Q`, and the callbacks that follow keep it. -/
theorem pollData (h : Tame pan K epIn S) {Q : Session B C → Prop}
    (hKept : ∀ t u, Q t → t.Kept K u → Q u)
    (hControl : (epOut ||| epIn ||| epSetup) &&& 1 ≠ 0 →
      Post pan (Session.pollControl epOut epIn epSetup)
        (fun r t => r = .ok () ∧ Q t ∧ ∀ cls ∈ t.classes, S cls) s)
    (hNone : (epOut ||| epIn ||| epSetup) &&& 1 = 0 → Q s ∧ ∀ cls ∈ s.classes, S cls) :
    Post pan (Session.pollData epOut epIn epSetup) (fun r t => r = .ok () ∧ Q t) s := by
  rw [Session.pollData]
  dsimp only
  rw [post_bind]
  have hFirst : Post pan (when ((epOut ||| epIn ||| epSetup) &&& 1 ≠ 0)
      (Session.pollControl epOut epIn epSetup))
      (fun r t => r = .ok () ∧ Q t ∧ ∀ cls ∈ t.classes, S cls) s :=
    post_when hControl fun hNot => ⟨rfl, hNone (not_not.mp hNot)⟩
  apply hFirst.mono
  rintro r t ⟨rfl, hQ, ht⟩
  have hRest : Post pan (do
      when ((epOut ||| epIn ||| epSetup) &&& ~~~1 ≠ 0)
        (Session.pollEndpoints epOut epIn epSetup (Session.maxEndpoints - 1) 1 2
          ((epOut ||| epIn ||| epSetup) &&& ~~~1))
      Session.notify .poll UsbClass.poll) (fun r u => r = .ok () ∧ t.Kept K u) t := by
    refine h.andThen ht (post_when (fun _ => ?_) fun _ => ⟨rfl, t.kept_refl h.refl⟩) fun u hu => ?_
    · exact h.pollEndpoints _ 1 _ ht
    · exact post_notify fun cls hCls => h.poll cls (hu cls hCls)
  apply hRest.mono
  rintro r u ⟨rfl, hu⟩
  exact ⟨rfl, hKept t u hQ hu⟩

end Tame

end UsbStack
