import UsbStack.TestClass
import UsbStack.Unaborted

/-! # The test class among other classes

A list of classes that holds one test class, and what the callbacks of a poll do to it.
-/

namespace UsbStack

set_option autoImplicit false

open Foundation Exec

section Sum

variable {A C : Type}

def InResponse.map {A C : Type} (f : A → C) : InResponse A → InResponse C
  | ignore cls => .ignore (f cls)
  | acceptWith data next => .acceptWith data fun result => (next result).map f
  | acceptWithStatic data next => .acceptWithStatic data fun result => (next result).map f
  | accept g next => .accept g fun result => (next result).map f
  | reject next => .reject fun result => (next result).map f

def OutResponse.map {A C : Type} (f : A → C) : OutResponse A → OutResponse C
  | ignore cls => .ignore (f cls)
  | accept next => .accept fun result => (next result).map f
  | reject next => .reject fun result => (next result).map f

def onEither {R : Type → Type} (map : {D : Type} → (D → A ⊕ C) → R D → R (A ⊕ C))
    (first : A → R A) (second : C → R C) (cls : A ⊕ C) : R (A ⊕ C) :=
  cls.elim (fun a => map .inl (first a)) fun c => map .inr (second c)

variable [UsbClass A] [UsbClass C]

instance : UsbClass (A ⊕ C) where
  getConfigurationDescriptors :=
    Sum.elim UsbClass.getConfigurationDescriptors UsbClass.getConfigurationDescriptors
  getBosDescriptors := Sum.elim UsbClass.getBosDescriptors UsbClass.getBosDescriptors
  getString := Sum.elim UsbClass.getString UsbClass.getString
  reset := onEither Program.map UsbClass.reset UsbClass.reset
  poll := onEither Program.map UsbClass.poll UsbClass.poll
  controlOut := fun cls req data => onEither (fun f => Program.map (OutResponse.map f))
    (UsbClass.controlOut · req data) (UsbClass.controlOut · req data) cls
  controlIn := fun cls req => onEither (fun f => Program.map (InResponse.map f))
    (UsbClass.controlIn · req) (UsbClass.controlIn · req) cls
  endpointSetup := fun cls addr =>
    onEither Program.map (UsbClass.endpointSetup · addr) (UsbClass.endpointSetup · addr) cls
  endpointOut := fun cls addr =>
    onEither Program.map (UsbClass.endpointOut · addr) (UsbClass.endpointOut · addr) cls
  endpointInComplete := fun cls addr =>
    onEither Program.map (UsbClass.endpointInComplete · addr) (UsbClass.endpointInComplete · addr) cls
  getAltSetting := fun cls interface =>
    onEither (fun f => Program.map (Prod.map id f)) (UsbClass.getAltSetting · interface)
      (UsbClass.getAltSetting · interface) cls
  setAltSetting := fun cls interface alternative =>
    onEither (fun f => Program.map (Prod.map id f)) (UsbClass.setAltSetting · interface alternative)
      (UsbClass.setAltSetting · interface alternative) cls

end Sum

variable {sizes : Sizes} {C : Type}

namespace TestClass

structure Same (a b : TestClass sizes) : Prop where
  controlBuf : b.controlBuf = a.controlBuf
  epBulkIn : b.epBulkIn = a.epBulkIn
  epInterruptIn : b.epInterruptIn = a.epInterruptIn

/-- No IN-complete event among `epIn` is one of an endpoint of the class. -/
def Spared (epIn : UInt16) (cls : TestClass sizes) : Prop :=
  ∀ n, epIn &&& endpointBit n ≠ 0 →
    EndpointAddress.fromParts n .in_ ≠ cls.epBulkIn.address ∧
      EndpointAddress.fromParts n .in_ ≠ cls.epInterruptIn.address

variable {cls : TestClass sizes}

theorem same_refl (cls : TestClass sizes) : cls.Same cls := ⟨rfl, rfl, rfl⟩

theorem same_trans (a b c : TestClass sizes) (h : a.Same b) (h' : b.Same c) : a.Same c :=
  ⟨h'.controlBuf.trans h.controlBuf, h'.epBulkIn.trans h.epBulkIn,
    h'.epInterruptIn.trans h.epInterruptIn⟩

theorem Spared.same {epIn : UInt16} {a b : TestClass sizes} (h : a.Spared epIn) (hSame : a.Same b) :
    b.Spared epIn := by
  intro n hBit
  rw [hSame.epBulkIn, hSame.epInterruptIn]
  exact h n hBit

theorem same_endpointOut (cls : TestClass sizes) (addr : EndpointAddress) :
    cls.Same (cls.endpointOut addr) := by
  unfold endpointOut
  split
  · exact ⟨rfl, rfl, rfl⟩
  · split
    · exact ⟨rfl, rfl, rfl⟩
    · exact same_refl cls

theorem yields_writeBulkIn (writeEmpty : Bool) (cls : TestClass sizes) :
    (writeBulkIn writeEmpty cls).Yields True cls.Same := by
  unfold writeBulkIn
  split
  · trivial
  · dsimp only
    split
    · exact ⟨rfl, rfl, rfl⟩
    · split
      · trivial
      · intro result
        cases result with
        | ok count =>
          dsimp only [orBlock, Program.bind]
          split
          · exact ⟨rfl, rfl, rfl⟩
          · trivial
        | error e =>
          cases e with
          | wouldBlock => exact same_refl cls
          | _ => trivial

theorem yields_endpointInComplete (cls : TestClass sizes) (addr : EndpointAddress) :
    (cls.endpointInComplete addr).Yields True cls.Same := by
  unfold endpointInComplete
  split
  · exact same_refl cls
  · split
    · split
      · exact (yields_writeBulkIn false _).mono fun b hSame =>
          ⟨hSame.controlBuf, hSame.epBulkIn, hSame.epInterruptIn⟩
      · trivial
    · split
      · split
        · exact ⟨rfl, rfl, rfl⟩
        · trivial
      · exact same_refl cls

theorem endpointInComplete_of_ne {addr : EndpointAddress} (hBulk : addr ≠ cls.epBulkIn.address)
    (hInterrupt : addr ≠ cls.epInterruptIn.address) : cls.endpointInComplete addr = .ret cls := by
  rw [endpointInComplete, if_neg hBulk, if_neg hInterrupt, ite_self]

end TestClass

/-- The test class keeps its buffer; nothing is asked of the other classes. -/
def Beside : TestClass sizes ⊕ C → TestClass sizes ⊕ C → Prop
  | .inl a, .inl b => a.Same b
  | .inr _, .inr _ => True
  | _, _ => False

theorem beside_refl (cls : TestClass sizes ⊕ C) : Beside cls cls := by
  cases cls with
  | inl a => exact TestClass.same_refl a
  | inr c => trivial

theorem beside_trans (a b c : TestClass sizes ⊕ C) (h : Beside a b) (h' : Beside b c) :
    Beside a c := by
  cases a <;> cases b <;> cases c <;> first | exact h.elim | exact h'.elim | trivial | skip
  exact TestClass.same_trans _ _ _ h h'

/-- Classes that leave the requests of the test class alone and do not panic in a poll. -/
structure Bystander (C : Type) [UsbClass C] : Prop where
  poll : ∀ cls : C, (UsbClass.poll cls).Yields False fun _ => True
  endpointSetup : ∀ (cls : C) addr, (UsbClass.endpointSetup cls addr).Yields False fun _ => True
  endpointOut : ∀ (cls : C) addr, (UsbClass.endpointOut cls addr).Yields False fun _ => True
  endpointInComplete : ∀ (cls : C) addr,
    (UsbClass.endpointInComplete cls addr).Yields False fun _ => True
  controlIn : ∀ (cls : C) req, TestClass.Owns req →
    (UsbClass.controlIn cls req).Yields False fun response => ∃ cls', response = .ignore cls'
  controlOut : ∀ (cls : C) req data, TestClass.Owns req →
    (UsbClass.controlOut cls req data).Yields False fun response => ∃ cls', response = .ignore cls'

/-- One test class, which satisfies `P`, among classes of the other type. -/
inductive Roster (P : TestClass sizes → Prop) : List (TestClass sizes ⊕ C) → Prop
  | here {cls : TestClass sizes} (h : P cls) (rest : List C) : Roster P (.inl cls :: rest.map .inr)
  | behind (other : C) {rest : List (TestClass sizes ⊕ C)} (h : Roster P rest) :
      Roster P (.inr other :: rest)

theorem roster_append (before after : List C) {P : TestClass sizes → Prop} {cls : TestClass sizes}
    (h : P cls) : Roster P (before.map .inr ++ .inl cls :: after.map .inr) := by
  induction before with
  | nil => exact .here h after
  | cons other rest ih => exact .behind other ih

theorem forall₂_beside_map {rest : List C} {classes : List (TestClass sizes ⊕ C)}
    (h : List.Forall₂ Beside (rest.map .inr) classes) : ∃ rest' : List C, classes = rest'.map .inr := by
  induction rest generalizing classes with
  | nil =>
    cases h
    exact ⟨[], rfl⟩
  | cons other rest ih =>
    cases h with
    | @cons _ cls _ _ hHead hTail =>
      obtain ⟨rest', rfl⟩ := ih hTail
      cases cls with
      | inl a => exact hHead.elim
      | inr c => exact ⟨c :: rest', rfl⟩

theorem Roster.beside {P Q : TestClass sizes → Prop} {classes classes' : List (TestClass sizes ⊕ C)}
    (h : Roster P classes) (hClasses : List.Forall₂ Beside classes classes')
    (hPQ : ∀ a b, P a → a.Same b → Q b) : Roster Q classes' := by
  induction h generalizing classes' with
  | @here cls hP rest =>
    cases hClasses with
    | @cons _ cls' _ _ hHead hTail =>
      obtain ⟨rest', rfl⟩ := forall₂_beside_map hTail
      cases cls' with
      | inl b => exact .here (hPQ _ _ hP hHead) rest'
      | inr c => exact hHead.elim
  | behind other _ ih =>
    cases hClasses with
    | @cons _ cls' _ _ hHead hTail =>
      cases cls' with
      | inl b => exact hHead.elim
      | inr c => exact .behind c (ih hTail)

theorem Roster.forall_mem {P : TestClass sizes → Prop} {classes : List (TestClass sizes ⊕ C)}
    (h : Roster P classes) (cls : TestClass sizes) (hCls : .inl cls ∈ classes) : P cls := by
  induction h with
  | here hP rest =>
    rcases List.mem_cons.mp hCls with hEq | hRest
    · cases hEq
      exact hP
    · obtain ⟨_, -, hEq⟩ := List.mem_map.mp hRest
      cases hEq
  | behind other _ ih =>
    rcases List.mem_cons.mp hCls with hEq | hRest
    · cases hEq
    · exact ih hRest

theorem yields_inr {pan : Prop} {m : ClassM C} (h : m.Yields pan fun _ => True) (c : C) :
    (m.map .inr : ClassM (TestClass sizes ⊕ C)).Yields pan (Beside (.inr c)) :=
  Program.yields_map.mpr (h.mono fun _ _ => trivial)

variable [UsbClass C]

/-- With no completion on the endpoints of the test class, the callbacks of a poll return. -/
theorem Bystander.tame (h : Bystander C) (epIn : UInt16) :
    Tame False (Beside : TestClass sizes ⊕ C → TestClass sizes ⊕ C → Prop) epIn
      fun cls => ∀ a, cls = .inl a → a.Spared epIn where
  refl := beside_refl
  trans := beside_trans
  keeps cls cls' hCls hBeside b hEq := by
    cases hEq
    cases cls with
    | inl a => exact (hCls a rfl).same hBeside
    | inr c => exact hBeside.elim
  poll cls _ := by
    cases cls with
    | inl a => exact TestClass.same_refl a
    | inr c => exact yields_inr (h.poll c) c
  endpointSetup cls addr _ := by
    cases cls with
    | inl a => exact TestClass.same_refl a
    | inr c => exact yields_inr (h.endpointSetup c addr) c
  endpointOut cls addr _ := by
    cases cls with
    | inl a => exact TestClass.same_endpointOut a addr
    | inr c => exact yields_inr (h.endpointOut c addr) c
  endpointInComplete cls n hCls hBit := by
    cases cls with
    | inl a =>
      obtain ⟨hBulk, hInterrupt⟩ := hCls a rfl n hBit
      refine Program.yields_map.mpr ?_
      change (a.endpointInComplete _).Yields False _
      rw [TestClass.endpointInComplete_of_ne hBulk hInterrupt]
      exact TestClass.same_refl a
    | inr c => exact yields_inr (h.endpointInComplete c _) c

/-- The classes beside the test class let its buffer be. -/
theorem respects_beside :
    Respects (Beside : TestClass sizes ⊕ C → TestClass sizes ⊕ C → Prop)
      fun req => ¬ TestClass.Owns req where
  tame epIn := {
    refl := beside_refl
    trans := beside_trans
    keeps := fun _ _ _ _ => trivial
    poll := by
      rintro (a | c) -
      · exact TestClass.same_refl a
      · exact yields_inr (Program.yields_true _) c
    endpointSetup := by
      rintro (a | c) addr -
      · exact TestClass.same_refl a
      · exact yields_inr (Program.yields_true _) c
    endpointOut := by
      rintro (a | c) addr -
      · exact TestClass.same_endpointOut a addr
      · exact yields_inr (Program.yields_true _) c
    endpointInComplete := by
      rintro (a | c) n - -
      · exact Program.yields_map.mpr (TestClass.yields_endpointInComplete a _)
      · exact yields_inr (Program.yields_true _) c }
  reset := by
    rintro (a | c)
    · exact ⟨rfl, rfl, rfl⟩
    · exact yields_inr (Program.yields_true _) c
  getAltSetting := by
    rintro (a | c) interface
    · exact TestClass.same_refl a
    · exact Program.yields_map.mpr ((Program.yields_true _).mono fun _ _ => trivial)
  setAltSetting := by
    rintro (a | c) interface alternative
    · exact TestClass.same_refl a
    · exact Program.yields_map.mpr ((Program.yields_true _).mono fun _ _ => trivial)
  controlIn := by
    rintro (a | c) req hNot
    · change (InResponse.map Sum.inl (a.controlIn req)).Leaves _
      rw [TestClass.controlIn, if_pos hNot]
      exact TestClass.same_refl a
    · refine Program.yields_map.mpr ((Program.yields_true _).mono fun response _ => ?_)
      cases response with
      | ignore cls => trivial
      | _ => exact fun _ => yields_inr (Program.yields_true _) c
  controlOut := by
    rintro (a | c) req data hNot
    · refine Program.yields_map.mpr ?_
      change (a.controlOut req data).Yields True _
      rw [TestClass.controlOut, if_pos hNot]
      exact TestClass.same_refl a
    · refine Program.yields_map.mpr ((Program.yields_true _).mono fun response _ => ?_)
      cases response with
      | ignore cls => trivial
      | _ => exact fun _ => yields_inr (Program.yields_true _) c

end UsbStack
