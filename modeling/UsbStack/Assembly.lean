import Mathlib.Data.List.Nodup
import Mathlib.Data.List.Pairwise
import UsbStack.Allocator
import UsbStack.AlternateSettings
import UsbStack.Unaborted
import UsbStack.StringRequests

/-! # Assembled systems

The constructors of the classes take their handles from the allocator, and then the device is built.
No two classes come to share a string, an interface or an endpoint, and none gets endpoint 0.
-/

namespace UsbStack

set_option autoImplicit false

open Foundation Exec AllocInput UsbBusAllocator

variable {B C : Type} [UsbBus B]

/-- What the documentation of `alloc_ep` says of repeated calls: an address that has been given out,
as `taken` tells, is not given out again. -/
structure GivesOnce (taken : B → EndpointAddress → Prop) : Prop where
  fresh : ∀ (bus : B) dir addr epType size interval address,
    (UsbBus.allocEp bus dir addr epType size interval).1 = .ok address →
      ¬ taken bus address ∧ taken (UsbBus.allocEp bus dir addr epType size interval).2 address
  kept : ∀ (bus : B) dir addr epType size interval address, taken bus address →
    taken (UsbBus.allocEp bus dir addr epType size interval).2 address

section Endpoints

variable {taken : B → EndpointAddress → Prop} {a : UsbBusAllocator B} {w : Wanted}
  {address : EndpointAddress}

theorem GivesOnce.given (h : GivesOnce taken) (hGiven : a.given w = .ok address) :
    ¬ taken a.bus.value.bus address ∧ taken (a.asked w).bus.value.bus address :=
  h.fresh _ _ _ _ _ _ _ hGiven

theorem GivesOnce.asked (h : GivesOnce taken) (hTaken : taken a.bus.value.bus address) :
    taken (a.asked w).bus.value.bus address := h.kept _ _ _ _ _ _ _ hTaken

def addresses (replies : List (AllocReply B)) : List EndpointAddress :=
  (replies.flatMap AllocReply.endpoints).map Endpoint.address

omit [UsbBus B] in
theorem addresses_cons (reply : AllocReply B) (rest : List (AllocReply B)) :
    addresses (reply :: rest) = reply.endpoints.map Endpoint.address ++ addresses rest := by
  rw [addresses, List.flatMap_cons, List.map_append]
  rfl

omit [UsbBus B] in
theorem addresses_quiet {replies : List (AllocReply B)}
    (h : ∀ reply ∈ replies, reply = .used ∨ ∃ e, reply = .built (.error e)) :
    addresses replies = [] := by
  rw [addresses, List.map_eq_nil_iff, List.flatMap_eq_nil_iff]
  intro reply hMem
  rcases h reply hMem with rfl | ⟨e, rfl⟩ <;> rfl

structure Unused (taken : B → EndpointAddress → Prop) (a : UsbBusAllocator B)
    (given : List EndpointAddress) : Prop where
  nodup : given.Nodup
  untaken : ∀ address ∈ given, ¬ taken a.bus.value.bus address

theorem Unused.asked (h : GivesOnce taken) {given : List EndpointAddress}
    (hRest : Unused taken (a.asked w) given) (hGiven : a.given w = .ok address) :
    Unused taken a (address :: given) := by
  obtain ⟨hFree, hTaken⟩ := h.given hGiven
  refine ⟨List.nodup_cons.mpr ⟨fun hMem => hRest.untaken _ hMem hTaken, hRest.nodup⟩, ?_⟩
  rintro other (_ | ⟨_, hMem⟩)
  · exact hFree
  · exact fun hOther => hRest.untaken other hMem (h.asked hOther)

/-- No address is given out twice in a run, nor one that was taken before it. -/
theorem unused_replies (h : GivesOnce taken) (inputs : List (AllocInput B)) (hOpen : a.Open) :
    Unused taken a (addresses (replies inputs a)) := by
  refine (relates_replies (J := fun a replies => (a.Open → Unused taken a (addresses replies)) ∧
    (a.Frozen → addresses replies = [])) (fun a _ => ?_) ?_ ?_ inputs hOpen).1 hOpen
  · exact ⟨fun _ => ⟨List.nodup_nil, by simp [addresses]⟩, fun _ => rfl⟩
  · intro a reply t rest ha hTaken hRest
    refine ⟨fun _ => ?_, fun hNot => absurd hNot ha.not_frozen⟩
    rw [addresses_cons]
    cases hTaken with
    | interface hRoom =>
      have hUnused := hRest.1 ⟨ha.bus, ha.busPtr, rfl⟩
      exact ⟨hUnused.nodup, hUnused.untaken⟩
    | string hRoom =>
      have hUnused := hRest.1 ⟨ha.bus, ha.busPtr, rfl⟩
      exact ⟨hUnused.nodup, hUnused.untaken⟩
    | refused e => exact hRest.1 ha
    | endpoint w _ _ hEndpoints =>
      have hUnused : Unused taken (a.asked w) (addresses rest) := hRest.1 (ha.driven _)
      rw [AllocReply.endpoints, hEndpoints]
      cases hGiven : a.given w with
      | ok address => exact hUnused.asked h hGiven
      | error e =>
        exact ⟨hUnused.nodup, fun other hMem hOther => hUnused.untaken other hMem (h.asked hOther)⟩
    | built builder hOut hIn =>
      rw [hRest.2 (frozen_frozen _ _)]
      have hNone : Unused taken ((a.asked (wantedControl .out builder.config)).asked
          (wantedControl .in_ builder.config)) [] := ⟨List.nodup_nil, by simp⟩
      exact (hNone.asked h hIn).asked h hOut
  · intro a replies ha hQuiet
    exact ⟨fun hNot => absurd ha hNot.not_frozen, fun _ => addresses_quiet hQuiet⟩

def HasControl : AllocReply B → Prop
  | .built (.ok d) => d.control.epOut.address = .control .out ∧ d.control.epIn.address = .control .in_
  | _ => True

theorem hasControl_replies [UsbBus.Contract B] (inputs : List (AllocInput B)) (hOpen : a.Open) :
    ∀ reply ∈ replies inputs a, HasControl reply := by
  have hQuiet {replies : List (AllocReply B)}
      (h : ∀ reply ∈ replies, reply = .used ∨ ∃ e, reply = .built (.error e)) :
      ∀ reply ∈ replies, HasControl reply := by
    intro reply hMem
    rcases h reply hMem with rfl | ⟨e, rfl⟩ <;> trivial
  refine relates_replies (J := fun _ replies => ∀ reply ∈ replies, HasControl reply)
    (fun a _ => by simp) ?_ (fun a replies _ => hQuiet) inputs hOpen
  rintro a reply t rest - hTaken hRest _ (_ | ⟨_, hMem⟩)
  · cases hTaken with
    | built builder hOut hIn =>
      exact ⟨UsbBus.Contract.alloc_eq _ _ _ _ _ _ _ hOut, UsbBus.Contract.alloc_eq _ _ _ _ _ _ _ hIn⟩
    | _ => trivial
  · exact hRest _ hMem

omit [UsbBus B] in
theorem control_of_index {address : EndpointAddress} (h : address.index = 0) :
    ∃ dir, address = .control dir := by
  obtain ⟨value⟩ := address
  have hMask : (value &&& ~~~0x80).toNat = 0 → value = 0x00 ∨ value = 0x80 := by
    apply Request.forall_byte value
    decide +kernel
  rcases hMask h with rfl | rfl
  · exact ⟨.out, rfl⟩
  · exact ⟨.in_, rfl⟩

/-- No address is handed out twice, and when a device is built then no class has endpoint 0. -/
theorem endpoints_apart [UsbBus.Contract B] (h : GivesOnce taken) (bus : B)
    (inputs : List (AllocInput B)) :
    (addresses (replies inputs (new bus))).Nodup ∧
      ∀ d, .built (.ok d) ∈ replies inputs (new bus) →
        ∀ c reply, .handle c reply ∈ replies inputs (new bus) →
          ∀ ep ∈ c.endpoints reply, ep.address.index ≠ 0 := by
  have hNodup := (unused_replies h inputs (open_new bus)).nodup
  refine ⟨hNodup, fun d hBuilt c reply hHandle ep hEp hIndex => ?_⟩
  obtain ⟨dir, hDir⟩ := control_of_index hIndex
  have hControl : HasControl (.built (.ok d)) := hasControl_replies inputs (open_new bus) _ hBuilt
  rw [addresses, List.map_flatMap, List.nodup_flatMap] at hNodup
  have hSymm : Std.Symm (Function.onFun List.Disjoint fun reply : AllocReply B =>
      reply.endpoints.map Endpoint.address) := ⟨fun _ _ hDisjoint address h h' => hDisjoint h' h⟩
  have hApart := hNodup.2.forall hHandle hBuilt (by simp)
  refine hApart (List.mem_map_of_mem hEp) ?_
  rw [hDir]
  cases dir with
  | out => exact List.mem_map.mpr ⟨d.control.epOut, by simp [AllocReply.endpoints], hControl.1⟩
  | in_ => exact List.mem_map.mpr ⟨d.control.epIn, by simp [AllocReply.endpoints], hControl.2⟩

end Endpoints

/-- `new` of a class, by what it asks the allocator for. -/
abbrev Constructor (C : Type) := Program AllocCall AllocCall.Reply C

def Constructor.run (constructor : Constructor C) : AllocM B C :=
  constructor.interp AllocCall.perform (.stack .foreign)

def construct : List (Constructor C) → AllocM B (List C)
  | [] => pure []
  | constructor :: others => do
    let cls ← constructor.run
    let rest ← construct others
    pure (cls :: rest)

def assemble (constructors : List (Constructor C)) (builder : UsbDeviceBuilder) :
    AllocM B (Except BuilderError (Session B C)) := do
  let classes ← construct constructors
  let result ← builder.allocate
  pure (result.map fun d => ⟨d, classes⟩)

abbrev Conversation := List ((c : AllocCall) × c.Reply)

namespace Conversation

def strings (heard : Conversation) : List StringIndex := heard.flatMap fun h => h.1.strings h.2

def interfaces (heard : Conversation) : List InterfaceNumber :=
  heard.flatMap fun h => h.1.interfaces h.2

structure Between (a : UsbBusAllocator B) (heard : Conversation) (t : UsbBusAllocator B) : Prop where
  still : t.Open
  strings : ∀ index ∈ heard.strings,
    a.state.value.nextStringIndex ≤ index.value ∧ index.value < t.state.value.nextStringIndex
  interfaces : ∀ number ∈ heard.interfaces,
    a.state.value.nextInterfaceNumber ≤ number.value ∧
      number.value < t.state.value.nextInterfaceNumber
  nextString : a.state.value.nextStringIndex ≤ t.state.value.nextStringIndex
  nextInterface : a.state.value.nextInterfaceNumber ≤ t.state.value.nextInterfaceNumber
  trace : t.bus.value.trace = a.bus.value.trace

end Conversation

theorem lt_add_one_of_ne {n : UInt8} (h : n ≠ 255) : n < n + 1 := by
  have hNe : n.toNat ≠ 255 := fun hEq => h (UInt8.toNat_inj.mp hEq)
  have hLt := n.toNat_lt
  rw [UInt8.lt_iff_toNat_lt, UInt8.toNat_add, UInt8.toNat_one]
  omega

/-- A call moves the counters past what it gives out. -/
theorem between_step {a t u : UsbBusAllocator B} {c : AllocCall} {reply : c.Reply}
    {heard : Conversation} (hTaken : Step a (.handle c reply) t)
    (hRest : Conversation.Between t heard u) : Conversation.Between a (⟨c, reply⟩ :: heard) u := by
  have hOld {n : UInt8} {first next stop : UInt8} (hFirst : first ≤ next)
      (h : next ≤ n ∧ n < stop) : first ≤ n ∧ n < stop := ⟨UInt8.le_trans hFirst h.1, h.2⟩
  generalize hReply : AllocReply.handle (B := B) c reply = given at hTaken
  cases hTaken with
  | interface hRoom =>
    cases hReply
    have hNext := UInt8.le_of_lt (lt_add_one_of_ne hRoom)
    refine ⟨hRest.still, hRest.strings, ?_, hRest.nextString,
      UInt8.le_trans hNext hRest.nextInterface, hRest.trace⟩
    rintro number (_ | ⟨_, hMem⟩)
    · exact ⟨UInt8.le_refl _, UInt8.lt_of_lt_of_le (lt_add_one_of_ne hRoom) hRest.nextInterface⟩
    · exact hOld hNext (hRest.interfaces number hMem)
  | string hRoom =>
    cases hReply
    have hNext := UInt8.le_of_lt (lt_add_one_of_ne hRoom)
    refine ⟨hRest.still, ?_, hRest.interfaces, UInt8.le_trans hNext hRest.nextString,
      hRest.nextInterface, hRest.trace⟩
    rintro index (_ | ⟨_, hMem⟩)
    · exact ⟨UInt8.le_refl _, UInt8.lt_of_lt_of_le (lt_add_one_of_ne hRoom) hRest.nextString⟩
    · exact hOld hNext (hRest.strings index hMem)
  | endpoint w hInterfaces hStrings _ =>
    cases hReply
    refine ⟨hRest.still, ?_, ?_, hRest.nextString, hRest.nextInterface, hRest.trace⟩
    · rw [Conversation.strings, List.flatMap_cons, hStrings]
      exact hRest.strings
    · rw [Conversation.interfaces, List.flatMap_cons, hInterfaces]
      exact hRest.interfaces
  | refused e => cases hReply
  | built builder _ _ => cases hReply

theorem post_run_constructor {P : Conversation → C → Prop} {constructor : Constructor C}
    (h : constructor.Relates P) {a : UsbBusAllocator B} (hOpen : a.Open) :
    Post True constructor.run (fun r t => ∀ cls, r = .ok cls →
      ∃ heard, Conversation.Between a heard t ∧ P heard cls) a := by
  refine (Program.post_interp_relates (J := fun a heard t => a.Open → Conversation.Between a heard t)
    (fun a ha => ⟨ha, by simp [Conversation.strings], by simp [Conversation.interfaces],
      UInt8.le_refl _, UInt8.le_refl _, rfl⟩) (fun c a => ?_) h a).mono ?_
  · rw [post_true_iff]
    intro r t hDone reply hReply heard u hRest ha
    obtain ⟨reply', rfl, hStill, hTaken⟩ := post_of_done (post_perform_call ha c) hDone
    cases hReply
    exact between_step hTaken (hRest hStill)
  · intro r t hHeard cls hCls
    obtain ⟨heard, hBetween, hP⟩ := hHeard cls hCls
    exact ⟨heard, hBetween hOpen, hP⟩

section Owners

variable (hasString : C → StringIndex → Prop) (hasInterface : C → InterfaceNumber → Prop)

/-- A class owns nothing but what its constructor was given. -/
def Constructor.OwnsGiven (constructor : Constructor C) : Prop :=
  constructor.Relates fun (heard : Conversation) cls =>
    (∀ index, hasString cls index → index ∈ heard.strings) ∧
      ∀ number, hasInterface cls number → number ∈ heard.interfaces

/-- No string and no interface is owned by both. -/
def Unshared (x y : C) : Prop :=
  (∀ index, ¬ (hasString x index ∧ hasString y index)) ∧
    ∀ number, ¬ (hasInterface x number ∧ hasInterface y number)

/-- The classes own numbers that were given out between `a` and `t`, and share none. -/
structure OwnBetween (a : UsbBusAllocator B) (classes : List C) (t : UsbBusAllocator B) : Prop where
  still : t.Open
  strings : ∀ cls ∈ classes, ∀ index, hasString cls index →
    a.state.value.nextStringIndex ≤ index.value ∧ index.value < t.state.value.nextStringIndex
  interfaces : ∀ cls ∈ classes, ∀ number, hasInterface cls number →
    a.state.value.nextInterfaceNumber ≤ number.value ∧
      number.value < t.state.value.nextInterfaceNumber
  nextString : a.state.value.nextStringIndex ≤ t.state.value.nextStringIndex
  nextInterface : a.state.value.nextInterfaceNumber ≤ t.state.value.nextInterfaceNumber
  trace : t.bus.value.trace = a.bus.value.trace
  unshared : classes.Pairwise (Unshared hasString hasInterface)

variable {hasString hasInterface}

omit [UsbBus B] in
/-- A class that is made before the others owns numbers below theirs. -/
theorem OwnBetween.cons {a t u : UsbBusAllocator B} {heard : Conversation} {cls : C}
    {classes : List C} (hFirst : Conversation.Between a heard t)
    (hStrings : ∀ index, hasString cls index → index ∈ heard.strings)
    (hInterfaces : ∀ number, hasInterface cls number → number ∈ heard.interfaces)
    (hRest : OwnBetween hasString hasInterface t classes u) :
    OwnBetween hasString hasInterface a (cls :: classes) u where
  still := hRest.still
  strings := by
    rintro other (_ | ⟨_, hMem⟩) index hOwned
    · obtain ⟨hFrom, hTo⟩ := hFirst.strings index (hStrings index hOwned)
      exact ⟨hFrom, UInt8.lt_of_lt_of_le hTo hRest.nextString⟩
    · obtain ⟨hFrom, hTo⟩ := hRest.strings other hMem index hOwned
      exact ⟨UInt8.le_trans hFirst.nextString hFrom, hTo⟩
  interfaces := by
    rintro other (_ | ⟨_, hMem⟩) number hOwned
    · obtain ⟨hFrom, hTo⟩ := hFirst.interfaces number (hInterfaces number hOwned)
      exact ⟨hFrom, UInt8.lt_of_lt_of_le hTo hRest.nextInterface⟩
    · obtain ⟨hFrom, hTo⟩ := hRest.interfaces other hMem number hOwned
      exact ⟨UInt8.le_trans hFirst.nextInterface hFrom, hTo⟩
  nextString := UInt8.le_trans hFirst.nextString hRest.nextString
  nextInterface := UInt8.le_trans hFirst.nextInterface hRest.nextInterface
  trace := hRest.trace.trans hFirst.trace
  unshared := by
    refine List.pairwise_cons.mpr ⟨fun other hMem => ⟨?_, ?_⟩, hRest.unshared⟩
    · rintro index ⟨hOwned, hOther⟩
      exact UInt8.not_lt.mpr (hRest.strings other hMem index hOther).1
        (hFirst.strings index (hStrings index hOwned)).2
    · rintro number ⟨hOwned, hOther⟩
      exact UInt8.not_lt.mpr (hRest.interfaces other hMem number hOther).1
        (hFirst.interfaces number (hInterfaces number hOwned)).2

/-- Classes that are made one after the other share nothing. -/
theorem post_construct {constructors : List (Constructor C)}
    (h : ∀ constructor ∈ constructors, constructor.OwnsGiven hasString hasInterface)
    {a : UsbBusAllocator B} (hOpen : a.Open) :
    Post True (construct constructors)
      (fun r t => ∀ classes, r = .ok classes → OwnBetween hasString hasInterface a classes t) a := by
  induction constructors generalizing a with
  | nil =>
    rintro classes ⟨⟩
    exact ⟨hOpen, by simp, by simp, UInt8.le_refl _, UInt8.le_refl _, rfl, .nil⟩
  | cons constructor others ih =>
    rw [construct, post_bind]
    apply (post_run_constructor (h constructor List.mem_cons_self) hOpen).mono
    intro r t hMade
    cases r with
    | error e => rintro classes ⟨⟩
    | ok cls =>
      obtain ⟨heard, hBetween, hStrings, hInterfaces⟩ := hMade cls rfl
      dsimp only
      rw [post_bind]
      apply (ih (fun other hMem => h other (List.mem_cons_of_mem _ hMem)) hBetween.still).mono
      intro r u hOthers
      cases r with
      | error e => rintro classes ⟨⟩
      | ok classes =>
        rintro _ ⟨⟩
        exact (hOthers classes rfl).cons hBetween hStrings hInterfaces

end Owners

namespace Respects

variable [UsbClass C] {K : C → C → Prop}

def OnClasses (K : C → C → Prop) (s t : Session B C) : Prop := List.Forall₂ K s.classes t.classes

omit [UsbBus B] in
theorem onClasses_refl (h : Respects K fun _ => True) (s : Session B C) : OnClasses K s s :=
  List.forall₂_same.mpr fun cls _ => h.refl cls

omit [UsbBus B] in
theorem onClasses_trans (h : Respects K fun _ => True) (s t u : Session B C) (hst : OnClasses K s t)
    (htu : OnClasses K t u) : OnClasses K s u := forall₂_trans (h.tame 0).trans hst htu

omit [UsbBus B] in
theorem onClasses_device (h : Respects K fun _ => True) {α : Type} (m : DeviceM B α) :
    Within (OnClasses K) (Session.onDevice m : SessionM B C α) :=
  within_zoom (fun _ => post_true_iff.mpr fun _ _ _ => trivial)
    fun s _ (_ : True) => h.onClasses_refl s

omit [UsbClass C] in
theorem onClasses_notify (call : ClassCall) {f : C → ClassM C}
    (hf : ∀ cls, (f cls).Yields True (K cls)) :
    Within (OnClasses K) (Session.notify call f : SessionM B C Unit) :=
  fun _ => (post_notify fun cls _ => hf cls).mono fun _ _ h => h.2.classes

theorem onClasses_pollControl (h : Respects K fun _ => True) (epOut epIn epSetup : UInt16) :
    Within (OnClasses K) (Session.pollControl epOut epIn epSetup : SessionM B C Unit) := by
  refine within_bind h.onClasses_trans (h.onClasses_device _) fun found => ?_
  cases found with
  | some req =>
    exact within_bind h.onClasses_trans
      (within_attempt ((h.within_dispatch trivial).mono fun _ _ hTends => hTends.classes))
      fun _ => within_pure h.onClasses_refl _
  | none => exact within_when h.onClasses_refl (h.onClasses_device _)

theorem onClasses_pollData (h : Respects K fun _ => True) (epOut epIn epSetup : UInt16) :
    Within (OnClasses K) (Session.pollData epOut epIn epSetup : SessionM B C Unit) := by
  refine within_bind h.onClasses_trans
    (within_when h.onClasses_refl (h.onClasses_pollControl _ _ _)) fun _ => ?_
  refine within_bind h.onClasses_trans (within_when h.onClasses_refl fun s => ?_) fun _ =>
    onClasses_notify _ fun cls => (h.tame 0).poll cls trivial
  exact ((h.tame epIn).pollEndpoints _ 1 _ fun _ _ => trivial).mono fun _ _ hKept => hKept.2.classes

/-- A poll keeps every class related to what it was. -/
theorem onClasses_poll (h : Respects K fun _ => True) :
    Within (OnClasses K) (Session.poll : SessionM B C Bool) := by
  have hEvent (pr : PollResult) :
      Within (OnClasses K) (Session.handleEvent pr : SessionM B C Bool) := by
    have hPure (b : Bool) : Within (OnClasses K) (pure b : SessionM B C Bool) :=
      within_pure h.onClasses_refl b
    cases pr with
    | none => exact hPure false
    | resume => exact hPure false
    | data epOut epIn epSetup =>
      exact within_bind h.onClasses_trans (h.onClasses_pollData _ _ _) fun _ => hPure true
    | reset =>
      refine within_bind h.onClasses_trans ?_ fun _ => hPure false
      refine within_bind h.onClasses_trans (h.onClasses_device _) fun _ => ?_
      refine within_bind h.onClasses_trans (h.onClasses_device _) fun _ => ?_
      refine within_bind h.onClasses_trans (h.onClasses_device _) fun _ => ?_
      exact onClasses_notify _ h.reset
    | suspend =>
      refine within_bind h.onClasses_trans ?_ fun _ => hPure false
      exact within_bind h.onClasses_trans (h.onClasses_device _) fun _ => h.onClasses_device _
  refine within_bind h.onClasses_trans (h.onClasses_device _) fun pr => ?_
  refine within_bind h.onClasses_trans (within_get h.onClasses_refl) fun s => ?_
  refine within_ite (within_ite (within_pure h.onClasses_refl _) ?_) (hEvent pr)
  refine within_bind h.onClasses_trans ?_ fun _ => hEvent pr
  refine within_bind h.onClasses_trans (h.onClasses_device _) fun _ => ?_
  refine within_bind h.onClasses_trans (within_get h.onClasses_refl) fun _ => ?_
  exact within_bind h.onClasses_trans (within_ofOption h.onClasses_refl _ _) fun _ =>
    h.onClasses_device _

theorem onClasses_perform (h : Respects K fun _ => True) {input : DeviceInput B C}
    (hInput : ∀ classes, input ≠ .setClasses classes) :
    Within (OnClasses K) (input.perform : SessionM B C (Option Bool)) := by
  have hDevice (m : DeviceM B Unit) : Within (OnClasses K) (do
      Session.onDevice m
      pure none : SessionM B C (Option Bool)) :=
    within_bind h.onClasses_trans (h.onClasses_device m) fun _ => within_pure h.onClasses_refl _
  cases input with
  | poll =>
    exact within_bind h.onClasses_trans h.onClasses_poll fun _ => within_pure h.onClasses_refl _
  | hardware bus => exact hDevice (modify fun d => d.withBus ⟨bus, d.control.bus.trace⟩)
  | setClasses classes => exact absurd rfl (hInput classes)
  | useEndpoints m => exact hDevice _
  | setSelfPowered b => exact hDevice (modify (UsbDevice.setSelfPowered b))

/-- While the application keeps the class list, a run keeps every class related to what it was. -/
theorem onClasses_run (h : Respects K fun _ => True) {inputs : List (DeviceInput B C)}
    (hInputs : ∀ classes, .setClasses classes ∉ inputs) {s t : Session B C}
    (hRun : finalState DeviceInput.perform inputs s = some t) : OnClasses K s t := by
  have hAll : Throughout DeviceInput.perform (OnClasses K s) inputs s := by
    refine throughout_of_along (C := fun input _ => ∀ classes, input ≠ .setClasses classes) ?_
      (h.onClasses_refl s) (along_of_forall (fun input hMem classes hEq => ?_) s)
    · intro input u hu hInput
      exact (h.onClasses_perform hInput u).mono fun _ v hv => h.onClasses_trans _ _ _ hu hv
    · exact hInputs classes (hEq ▸ hMem)
  exact hAll.finalState hRun

end Respects

theorem allocControl_of_given {dir : UsbDirection} {config : Config} {t : Traced B}
    {address : EndpointAddress} {a : UsbBusAllocator B} (hBus : a.bus.value = t)
    (hGiven : a.given (wantedControl dir config) = .ok address) :
    allocControl dir config t = .done (.ok ((wantedControl dir config).endpoint address))
      (a.asked (wantedControl dir config)).bus.value := by
  subst hBus
  have hAttempt : attempt (Traced.allocEp dir (some (.control dir)) .control
      config.maxPacketSize0.toUInt16 0) a.bus.value =
        .done (.ok (.ok address)) (a.asked (wantedControl dir config)).bus.value := by
    refine attempt_of_done ?_
    rw [Traced.allocEp, ← hGiven]
    rfl
  rw [allocControl, bind_of_ok hAttempt]
  rfl

/-- The device of the allocator is one that the builder makes on the bus of the allocator. -/
theorem build_of_allocate {builder : UsbDeviceBuilder} {a b : UsbBusAllocator B} {d : UsbDevice B}
    (hOpen : a.Open) (hTrace : a.bus.value.trace = [])
    (h : builder.allocate a = .done (.ok (.ok d)) b) :
    ∃ t, builder.build a.bus.value.bus = .ok (.done (.ok d) t) := by
  rw [UsbDeviceBuilder.allocate] at h
  split at h
  · cases h
  · rename_i hFits
    obtain ⟨d', u, hAllocate, hPure⟩ := of_bind_ok h
    cases hPure
    have hPost : Post True (UsbDevice.allocate builder.config builder.controlBuffer) (fun r _ =>
        ∀ d, r = .ok d → ∃ t, UsbDevice.build builder.config builder.controlBuffer
          a.bus.value = .done (.ok d) t) a := by
      refine post_allocate hOpen _ _ (fun _ _ => trivial) (fun _ _ => trivial) ?_
      rintro out in_ t hOut hIn ht d ⟨⟩
      refine ⟨t, ?_⟩
      rw [UsbDevice.build, bind_of_ok (allocControl_of_given rfl hOut),
        bind_of_ok (allocControl_of_given rfl hIn), ht]
      rfl
    obtain ⟨t, hBuild⟩ := post_of_done hPost hAllocate d rfl
    have hStart : (⟨a.bus.value.bus, []⟩ : Traced B) = a.bus.value := by rw [← hTrace]
    refine ⟨t, ?_⟩
    rw [UsbDeviceBuilder.build, if_neg hFits, hStart, hBuild]

section Assembled

variable [UsbClass C] (hasString : C → StringIndex → Prop) (hasInterface : C → InterfaceNumber → Prop)
  (K : C → C → Prop)

/-- A class serves only strings that it owns, and its callbacks, which keep `K`, do not change what it
owns. -/
structure Minds : Prop where
  getString : ∀ (cls : C) index langId string, UsbClass.getString cls index langId = some string →
    hasString cls index
  respects : Respects K fun _ => True
  owned : ∀ x y, K x y → hasString y = hasString x ∧ hasInterface y = hasInterface x

variable {hasString hasInterface K} {constructors : List (Constructor C)} {builder : UsbDeviceBuilder}
  {bus : B} {a : UsbBusAllocator B} {s t : Session B C}

omit [UsbClass C] in
theorem owned_of_assemble
    (hGiven : ∀ constructor ∈ constructors, constructor.OwnsGiven hasString hasInterface)
    (h : assemble constructors builder (new bus) = .done (.ok (.ok s)) a) :
    ∃ mid : UsbBusAllocator B, OwnBetween hasString hasInterface (new bus) s.classes mid ∧
      builder.allocate mid = .done (.ok (.ok s.device)) a := by
  obtain ⟨classes, mid, hConstruct, h⟩ := of_bind_ok h
  obtain ⟨result, end_, hAllocate, hPure⟩ := of_bind_ok h
  cases result with
  | error e => cases hPure
  | ok d =>
    cases hPure
    exact ⟨mid, post_of_done (post_construct hGiven (open_new bus)) hConstruct classes rfl, hAllocate⟩

omit [UsbBus B] [UsbClass C] in
theorem unshared_of_kept {classes classes' : List C}
    (hKept : List.Forall₂ (fun x y => hasString y = hasString x ∧ hasInterface y = hasInterface x)
      classes classes')
    (h : classes.Pairwise (Unshared hasString hasInterface)) :
    classes'.Pairwise (Unshared hasString hasInterface) := by
  induction hKept with
  | nil => exact .nil
  | cons hHead hTail ih =>
    obtain ⟨hFirst, hRest⟩ := List.pairwise_cons.mp h
    refine List.pairwise_cons.mpr ⟨fun y hy => ?_, ih hRest⟩
    obtain ⟨x, hx, hString, hInterface⟩ := exists_kept hTail hy
    have hApart := hFirst x hx
    unfold Unshared at hApart ⊢
    rw [hHead.1, hHead.2, hString, hInterface]
    exact hApart

omit [UsbBus B] in
/-- A string of an unshared class is the one that the device finds. -/
theorem findString_of_unshared {classes : List C} (hMinds : Minds hasString hasInterface K)
    (h : classes.Pairwise (Unshared hasString hasInterface)) {cls : C} (hCls : cls ∈ classes)
    {index : UInt8} {langId : LangID} {string : String} (hIndex : 3 < index)
    (hString : UsbClass.getString cls ⟨index⟩ langId = some string) (config : Config) :
    findString config classes index langId = some string := by
  let served (x : C) (i : StringIndex) : Option String := UsbClass.getString x i langId
  have hApart : Registry.Apart (classes.map served) := by
    refine List.pairwise_map.mpr (h.imp fun {x y} hxy i => ?_)
    by_contra hBoth
    obtain ⟨hx, hy⟩ := not_or.mp hBoth
    obtain ⟨first, hFirst⟩ := Option.ne_none_iff_exists'.mp hx
    obtain ⟨second, hSecond⟩ := Option.ne_none_iff_exists'.mp hy
    exact hxy.1 i ⟨hMinds.getString _ _ _ _ hFirst, hMinds.getString _ _ _ _ hSecond⟩
  have hFound := hApart.lookup_of_mem (List.mem_map_of_mem hCls) hString
  rw [findString_other hIndex, ← hFound, Registry.lookup, List.findSome?_map]
  rfl

/-- In every state that an assembled system reaches, no two classes share a string or an interface.
A string that any class serves is what the device answers for its index, wherever the class stands in
the list, and alternate settings of owned interfaces never collide. -/
theorem assembled_unshared (hMinds : Minds hasString hasInterface K)
    (hGiven : ∀ constructor ∈ constructors, constructor.OwnsGiven hasString hasInterface)
    (hMade : builder.Made)
    (hAssembled : assemble constructors builder (new bus) = .done (.ok (.ok s)) a)
    {inputs : List (DeviceInput B C)} (hInputs : ∀ classes, .setClasses classes ∉ inputs)
    (hRun : finalState DeviceInput.perform inputs s = some t) :
    s.device.Fresh ∧ t.classes.Pairwise (Unshared hasString hasInterface) ∧
      (∀ cls ∈ t.classes, ∀ index langId string,
        UsbClass.getString cls ⟨index⟩ langId = some string →
          ∀ config order, order.Perm t.classes →
            findString config order index langId = some string) ∧
      ∀ setting : C → InterfaceNumber → Option UInt8,
        (∀ cls number, (setting cls number).isSome → hasInterface cls number) →
          Registry.Apart (t.settings setting) := by
  obtain ⟨mid, hOwn, hAllocate⟩ := owned_of_assemble hGiven hAssembled
  have hKept := List.Forall₂.imp hMinds.owned (hMinds.respects.onClasses_run hInputs hRun)
  have hUnshared := unshared_of_kept hKept hOwn.unshared
  refine ⟨?_, hUnshared, fun cls hCls index langId string hString config order hPerm => ?_,
    fun setting hSetting => ?_⟩
  · obtain ⟨u, hBuild⟩ := build_of_allocate hOwn.still (hOwn.trace.trans rfl) hAllocate
    exact ⟨builder, _, u, hMade, hBuild⟩
  · obtain ⟨first, hFirst, hSame, -⟩ := exists_kept hKept hCls
    have hOwned : hasString first ⟨index⟩ := hSame ▸ hMinds.getString _ _ _ _ hString
    have hIndex : 3 < index :=
      UInt8.lt_of_lt_of_le (show (3 : UInt8) < 4 by decide) (hOwn.strings _ hFirst _ hOwned).1
    have hOrder : order.Pairwise (Unshared hasString hasInterface) := by
      refine hPerm.symm.pairwise hUnshared fun {x y} hxy => ⟨fun i h => ?_, fun n h => ?_⟩
      · exact hxy.1 i h.symm
      · exact hxy.2 n h.symm
    exact findString_of_unshared hMinds hOrder (hPerm.mem_iff.mpr hCls) hIndex hString config
  · refine List.pairwise_map.mpr (hUnshared.imp fun {x y} hxy number => ?_)
    by_contra hBoth
    obtain ⟨hx, hy⟩ := not_or.mp hBoth
    exact hxy.2 number ⟨hSetting x number (Option.isSome_iff_ne_none.mpr hx),
      hSetting y number (Option.isSome_iff_ne_none.mpr hy)⟩

end Assembled

end UsbStack
