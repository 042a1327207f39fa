import UsbStack.Assembly
import UsbStack.TestClass

/-! # Systems with the test class

The test class takes two strings, an interface and five endpoints from the allocator, and it keeps
what it was given.
-/

namespace UsbStack

set_option autoImplicit false

open Foundation Exec AllocInput UsbBusAllocator

/-- The handle of a class. Endpoint 0 goes to the device, which cannot be built after a driver has
given it to a class. -/
def ClassEndpoint.of? (ep : Endpoint) : Option ClassEndpoint :=
  if h : ep.address.index ≠ 0 then some ⟨ep, h⟩ else none

namespace TestClass

def vid : UInt16 := 0x16c0
def pid : UInt16 := 0x05dc
def manufacturer : String := "TestClass Manufacturer"
def product : String := "virkkunen.net usb-device TestClass"
def serialNumber : String := "TestClass Serial"

variable {sizes : Sizes}

def ofHandles (customString interfaceString : StringIndex) (iface : InterfaceNumber)
    (epBulkIn epBulkOut epInterruptIn epInterruptOut epIsoIn : Endpoint) :
    Constructor (TestClass sizes) :=
  match ClassEndpoint.of? epBulkIn, ClassEndpoint.of? epBulkOut, ClassEndpoint.of? epInterruptIn,
      ClassEndpoint.of? epInterruptOut, ClassEndpoint.of? epIsoIn with
  | some epBulkIn, some epBulkOut, some epInterruptIn, some epInterruptOut, some epIsoIn =>
    .ret (new customString interfaceString iface epBulkIn epBulkOut epInterruptIn epInterruptOut
      epIsoIn)
  | _, _, _, _, _ => .panic

/-- `new` -/
def construct (sizes : Sizes) : Constructor (TestClass sizes) := do
  let customString : StringIndex ← Program.perform AllocCall.string
  let interfaceString : StringIndex ← Program.perform AllocCall.string
  let iface : InterfaceNumber ← Program.perform AllocCall.interface
  let epBulkIn : Endpoint ← Program.perform (AllocCall.bulk .in_ sizes.bulkEndpoint)
  let epBulkOut : Endpoint ← Program.perform (AllocCall.bulk .out sizes.bulkEndpoint)
  let epInterruptIn : Endpoint ← Program.perform
    (AllocCall.interrupt .in_ sizes.interruptEndpoint 1)
  let epInterruptOut : Endpoint ← Program.perform
    (AllocCall.interrupt .out sizes.interruptEndpoint 1)
  let epIsoIn : Endpoint ← Program.perform
    (AllocCall.isochronous .in_ .asynchronous .implicitFeedbackData 500 1)
  ofHandles customString interfaceString iface epBulkIn epBulkOut epInterruptIn epInterruptOut epIsoIn

/-- `CONTROL_BUFFER` -/
def controlBuffer : List UInt8 := List.replicate 256 0

/-- `make_device_builder`, before the results are unwrapped -/
def makeDeviceBuilder (sizes : Sizes) : Except BuilderError UsbDeviceBuilder := do
  let strings := ((StringDescriptors.new .enUs).withManufacturer manufacturer |>.withProduct product
    |>.serialNumber serialNumber)
  let builder ← (UsbDeviceBuilder.new ⟨vid, pid⟩ controlBuffer).strings [strings]
  builder.maxPacketSize0 sizes.controlEndpoint

theorem made_of_makeDeviceBuilder {builder : UsbDeviceBuilder}
    (h : makeDeviceBuilder sizes = .ok builder) : builder.Made := by
  have hStrings : (UsbDeviceBuilder.new ⟨vid, pid⟩ controlBuffer).strings
      [((StringDescriptors.new .enUs).withManufacturer manufacturer |>.withProduct product
        |>.serialNumber serialNumber)] = .ok _ := rfl
  exact .maxPacketSize0 (.strings (.new _ _) _ hStrings) sizes.controlEndpoint h

def HasString (cls : TestClass sizes) (index : StringIndex) : Prop :=
  index = cls.customString ∨ index = cls.interfaceString

def HasInterface (cls : TestClass sizes) (number : InterfaceNumber) : Prop := number = cls.iface

structure SameHandles (a b : TestClass sizes) : Prop where
  customString : b.customString = a.customString
  interfaceString : b.interfaceString = a.interfaceString
  iface : b.iface = a.iface

variable {cls : TestClass sizes}

theorem sameHandles_refl (cls : TestClass sizes) : cls.SameHandles cls := ⟨rfl, rfl, rfl⟩

theorem sameHandles_trans (a b c : TestClass sizes) (h : a.SameHandles b) (h' : b.SameHandles c) :
    a.SameHandles c :=
  ⟨h'.customString.trans h.customString, h'.interfaceString.trans h.interfaceString,
    h'.iface.trans h.iface⟩

theorem sameHandles_endpointOut (cls : TestClass sizes) (addr : EndpointAddress) :
    cls.SameHandles (cls.endpointOut addr) := by
  unfold endpointOut
  split
  · exact ⟨rfl, rfl, rfl⟩
  · split
    · exact ⟨rfl, rfl, rfl⟩
    · exact sameHandles_refl cls

theorem sameHandles_writeBulkIn (writeEmpty : Bool) (cls : TestClass sizes) :
    (writeBulkIn writeEmpty cls).Yields True cls.SameHandles := by
  unfold writeBulkIn
  split
  · trivial
  · dsimp only
    split
    · exact ⟨rfl, rfl, rfl⟩
    · split
      · trivial
      · intro result
        cases result with
        | ok count =>
          dsimp only [orBlock, Program.bind]
          split
          · exact ⟨rfl, rfl, rfl⟩
          · trivial
        | error e =>
          cases e with
          | wouldBlock => exact sameHandles_refl cls
          | _ => trivial

theorem sameHandles_endpointInComplete (cls : TestClass sizes) (addr : EndpointAddress) :
    (cls.endpointInComplete addr).Yields True cls.SameHandles := by
  unfold endpointInComplete
  split
  · exact sameHandles_refl cls
  · split
    · split
      · exact (sameHandles_writeBulkIn false _).mono fun b hSame =>
          ⟨hSame.customString, hSame.interfaceString, hSame.iface⟩
      · trivial
    · split
      · split
        · exact ⟨rfl, rfl, rfl⟩
        · trivial
      · exact sameHandles_refl cls

theorem yields_expect {pan : Prop} {P : TestClass sizes → Prop} (hPan : pan) (h : P cls)
    (result : Except UsbError Unit) : (cls.expect result).Yields pan P := by
  cases result with
  | ok u => exact h
  | error e => exact hPan

theorem sameHandles_controlIn (cls : TestClass sizes) (req : Request) :
    (cls.controlIn req).Leaves cls.SameHandles := by
  have hSelf (result : Except UsbError Unit) : (cls.expect result).Yields True cls.SameHandles :=
    yields_expect trivial (sameHandles_refl cls) result
  unfold controlIn
  split
  · exact sameHandles_refl cls
  · split
    · exact hSelf
    · split <;> exact hSelf

theorem sameHandles_controlOut (cls : TestClass sizes) (req : Request) (data : List UInt8) :
    (cls.controlOut req data).Yields True fun response => response.Leaves cls.SameHandles := by
  have hChanged (changed : Option (TestClass sizes))
      (h : ∀ cls', changed = some cls' → cls.SameHandles cls') :
      (acceptChanged changed).Yields True fun response => response.Leaves cls.SameHandles := by
    cases changed with
    | none => trivial
    | some cls' => exact yields_expect trivial (h cls' rfl)
  have hStored (bytes : List UInt8) (cls' : TestClass sizes)
      (h : cls.storeControl bytes = some cls') : cls.SameHandles cls' := by
    obtain ⟨buf, -, rfl⟩ := Option.map_eq_some_iff.mp h
    exact ⟨rfl, rfl, rfl⟩
  unfold controlOut
  split
  · exact sameHandles_refl cls
  · split
    · exact hChanged _ (hStored _)
    · split
      · split
        · exact hChanged _ (hStored _)
        · trivial
      · split
        · refine hChanged _ ?_
          rintro cls' ⟨⟩
          exact ⟨rfl, rfl, rfl⟩
        · exact yields_expect trivial (sameHandles_refl cls)

theorem respects_sameHandles :
    Respects (SameHandles : TestClass sizes → TestClass sizes → Prop) fun _ => True where
  tame _ := {
    refl := sameHandles_refl
    trans := sameHandles_trans
    keeps := fun _ _ _ _ => trivial
    poll := fun cls _ => sameHandles_refl cls
    endpointSetup := fun cls _ _ => sameHandles_refl cls
    endpointOut := fun cls addr _ => sameHandles_endpointOut cls addr
    endpointInComplete := fun cls _ _ _ => sameHandles_endpointInComplete cls _ }
  reset _ := ⟨rfl, rfl, rfl⟩
  getAltSetting cls _ := sameHandles_refl cls
  setAltSetting cls _ _ := sameHandles_refl cls
  controlIn cls req _ := sameHandles_controlIn cls req
  controlOut cls req data _ := sameHandles_controlOut cls req data

theorem minds : Minds (HasString : TestClass sizes → _) HasInterface SameHandles where
  getString cls index langId string h := by
    change cls.getString index langId = some string at h
    unfold getString at h
    split at h
    · split at h
      · exact .inl ‹_›
      · split at h
        · exact .inr ‹_›
        · cases h
    · cases h
  respects := respects_sameHandles
  owned x y h := by
    refine ⟨funext fun index => ?_, funext fun number => ?_⟩
    · rw [HasString, HasString, h.customString, h.interfaceString]
    · rw [HasInterface, HasInterface, h.iface]

theorem relates_ofHandles {P : Conversation → TestClass sizes → Prop}
    {customString interfaceString : StringIndex} {iface : InterfaceNumber}
    {epBulkIn epBulkOut epInterruptIn epInterruptOut epIsoIn : Endpoint}
    (h : ∀ cls : TestClass sizes, cls.customString = customString →
      cls.interfaceString = interfaceString → cls.iface = iface → P [] cls) :
    (ofHandles customString interfaceString iface epBulkIn epBulkOut epInterruptIn epInterruptOut
      epIsoIn).Relates P := by
  unfold ofHandles
  split
  · exact h _ rfl rfl rfl
  · trivial

/-- The class owns the two strings and the interface that it is given. -/
theorem ownsGiven_construct : (construct sizes).OwnsGiven HasString HasInterface := by
  intro customString interfaceString iface epBulkIn epBulkOut epInterruptIn epInterruptOut epIsoIn
  refine relates_ofHandles fun cls hCustom hInterface hIface => ⟨?_, ?_⟩
  · rintro index (rfl | rfl)
    · exact hCustom ▸ List.mem_cons_self
    · exact hInterface ▸ List.mem_cons_of_mem _ List.mem_cons_self
  · rintro number rfl
    exact hIface ▸ List.mem_cons_self

end TestClass

/-- A driver that allocates as the documentation describes it, and otherwise has only events. -/
structure TableBus where
  taken : List EndpointAddress
  events : List PollResult

namespace TableBus

def allocEp (bus : TableBus) (dir : UsbDirection) (addr : Option EndpointAddress) :
    Except UsbError EndpointAddress × TableBus :=
  match addr with
  | some addr =>
    if addr ∈ bus.taken then (.error .invalidEndpoint, bus)
    else (.ok addr, { bus with taken := addr :: bus.taken })
  | none =>
    match ((List.range' 1 15).map fun n => EndpointAddress.fromParts n dir).find? (· ∉ bus.taken) with
    | some addr => (.ok addr, { bus with taken := addr :: bus.taken })
    | none => (.error .endpointOverflow, bus)

instance : UsbBus TableBus where
  allocEp bus dir addr _ _ _ := bus.allocEp dir addr
  enable := id
  reset := id
  setDeviceAddress bus _ := bus
  write bus _ _ := (.error .wouldBlock, bus)
  read bus _ _ := (.error .wouldBlock, bus)
  setStalled bus _ _ := bus
  isStalled _ _ := false
  suspend := id
  resume := id
  poll bus := (bus.events.headD .none, { bus with events := bus.events.tail })
  quirkSetAddressBeforeStatus := false

theorem allocEp_cases (bus : TableBus) (dir : UsbDirection) (addr : Option EndpointAddress) :
    (∃ e, bus.allocEp dir addr = (.error e, bus)) ∨
      ∃ given, given ∉ bus.taken ∧ (∀ wanted, addr = some wanted → given = wanted) ∧
        bus.allocEp dir addr = (.ok given, { bus with taken := given :: bus.taken }) := by
  unfold allocEp
  cases addr with
  | some addr =>
    dsimp only
    split
    · exact .inl ⟨_, rfl⟩
    · refine .inr ⟨addr, ‹_›, ?_, rfl⟩
      rintro wanted ⟨⟩
      rfl
  | none =>
    dsimp only
    split
    · rename_i given hFound
      have hFree := List.find?_some hFound
      exact .inr ⟨given, of_decide_eq_true hFree, nofun, rfl⟩
    · exact .inl ⟨_, rfl⟩

theorem givesOnce : GivesOnce fun (bus : TableBus) addr => addr ∈ bus.taken where
  fresh bus dir addr epType size interval address h := by
    change (bus.allocEp dir addr).1 = _ at h
    change _ ∧ address ∈ (bus.allocEp dir addr).2.taken
    rcases bus.allocEp_cases dir addr with ⟨e, hError⟩ | ⟨given, hFree, -, hGiven⟩
    · rw [hError] at h
      cases h
    · rw [hGiven] at h ⊢
      cases h
      exact ⟨hFree, List.mem_cons_self⟩
  kept bus dir addr epType size interval address h := by
    change address ∈ (bus.allocEp dir addr).2.taken
    rcases bus.allocEp_cases dir addr with ⟨e, hError⟩ | ⟨given, -, -, hGiven⟩
    · rw [hError]
      exact h
    · rw [hGiven]
      exact List.mem_cons_of_mem _ h

instance : UsbBus.Contract TableBus where
  alloc_eq bus dir addr epType size interval addr' h := by
    change (bus.allocEp dir (some addr)).1 = _ at h
    rcases bus.allocEp_cases dir (some addr) with ⟨e, hError⟩ | ⟨given, -, hWanted, hGiven⟩
    · rw [hError] at h
      cases h
    · rw [hGiven] at h
      cases h
      exact hWanted addr rfl
  read_le bus addr len packet h := by cases h
  write_le bus addr data count h := by cases h

end TableBus

def tableInputs : List (AllocInput TableBus) :=
  [.call (.bulk .in_ 64), .call (.bulk .out 64), .call (.interrupt .in_ 8 1),
    .build (.new ⟨0, 0⟩ (List.replicate 8 0)), .call (.bulk .in_ 64)]

/-- Three endpoints of classes, the device, and a call that comes too late. -/
theorem endpoints_apart_table :
    let given := replies tableInputs (new (⟨[], []⟩ : TableBus))
    (∃ d, .built (.ok d) ∈ given) ∧
      addresses given = [⟨0x81⟩, ⟨0x01⟩, ⟨0x82⟩, ⟨0x00⟩, ⟨0x80⟩] ∧ (addresses given).Nodup ∧
      ∀ c reply, .handle c reply ∈ given → ∀ ep ∈ c.endpoints reply, ep.address.index ≠ 0 := by
  obtain ⟨hNodup, hApart⟩ := endpoints_apart TableBus.givesOnce ⟨[], []⟩ tableInputs
  obtain ⟨d, hBuilt⟩ : ∃ d, (replies tableInputs (new (⟨[], []⟩ : TableBus)))[3]? =
      some (.built (.ok d)) := ⟨_, rfl⟩
  have hMem := List.mem_of_getElem? hBuilt
  exact ⟨⟨d, hMem⟩, rfl, hNodup, hApart d hMem⟩

namespace TestClass

def builder : UsbDeviceBuilder := (makeDeviceBuilder .fullSpeed).toOption.get (by decide +kernel)

def pair : List (Constructor (TestClass .fullSpeed)) := [construct .fullSpeed, construct .fullSpeed]

def pairStart : Session TableBus (TestClass .fullSpeed) :=
  ((assemble pair builder (UsbBusAllocator.new (⟨[], []⟩ : TableBus))).value?.bind Except.toOption).get
    (by decide +kernel)

/-- A bus reset, and then reports of a packet on EP1-OUT and of a SETUP packet that cannot be read. -/
def pairInputs : List (DeviceInput TableBus (TestClass .fullSpeed)) :=
  [.poll, .hardware ⟨[], [.reset, .data 2 0 1]⟩, .poll, .poll]

def pairSession : Session TableBus (TestClass .fullSpeed) :=
  (finalState DeviceInput.perform pairInputs pairStart).get (by decide +kernel)

end TestClass

open TestClass in
/-- Two test classes, after a bus reset. -/
theorem assembled_unshared_two :
    (∃ a, assemble pair builder (UsbBusAllocator.new (⟨[], []⟩ : TableBus)) = .done (.ok (.ok pairStart)) a) ∧
    finalState DeviceInput.perform pairInputs pairStart = some pairSession ∧
    pairSession.classes.map (·.customString) = [⟨4⟩, ⟨6⟩] ∧ pairStart.device.Fresh ∧
    pairSession.classes.Pairwise (Unshared HasString HasInterface) ∧
    (∀ order, order.Perm pairSession.classes →
      findString builder.config order 6 .enUs = some customStringText) ∧
    ∀ setting : TestClass .fullSpeed → InterfaceNumber → Option UInt8,
      (∀ cls number, (setting cls number).isSome → HasInterface cls number) →
        Registry.Apart (pairSession.settings setting) := by
  have hGiven : ∀ constructor ∈ pair, constructor.OwnsGiven HasString HasInterface := by
    simp only [pair, List.mem_cons, List.not_mem_nil, or_false, or_self, forall_eq]
    exact ownsGiven_construct
  have hBuilder : makeDeviceBuilder .fullSpeed = .ok builder := by
    have hSome : (makeDeviceBuilder .fullSpeed).toOption = some builder := (Option.some_get _).symm
    cases hMake : makeDeviceBuilder .fullSpeed with
    | error e =>
      rw [hMake] at hSome
      cases hSome
    | ok made =>
      rw [hMake] at hSome
      exact congrArg Except.ok (Option.some.inj hSome)
  have hStart : (assemble pair builder (UsbBusAllocator.new (⟨[], []⟩ : TableBus))).value?.bind
      Except.toOption = some pairStart := (Option.some_get _).symm
  obtain ⟨result, hResult, hOk⟩ := Option.bind_eq_some_iff.mp hStart
  obtain ⟨a, hAssembled⟩ := Outcome.exists_ok hResult
  have hRun : finalState DeviceInput.perform pairInputs pairStart = some pairSession :=
    (Option.some_get _).symm
  have hServed : pairSession.classes[1]?.bind (UsbClass.getString · ⟨6⟩ .enUs) =
      some customStringText := by decide +kernel
  obtain ⟨cls, hCls, hString⟩ := Option.bind_eq_some_iff.mp hServed
  cases result with
  | error e => cases hOk
  | ok s =>
    have hSame : s = pairStart := Option.some.inj hOk
    rw [hSame] at hAssembled
    obtain ⟨hFresh, hUnshared, hFound, hApart⟩ := assembled_unshared minds hGiven
      (made_of_makeDeviceBuilder hBuilder) hAssembled (by simp [pairInputs]) hRun
    exact ⟨⟨a, hAssembled⟩, hRun, by decide +kernel, hFresh, hUnshared,
      hFound cls (List.mem_of_getElem? hCls) _ _ _ hString _, hApart⟩

end UsbStack
