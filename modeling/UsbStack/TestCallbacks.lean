import UsbStack.Embodiment
import UsbStack.SessionTandem

/-! # The test class in the background

What the test class tells of itself never changes, it leaves all but its vendor requests to the device,
and it never looks at what a buffer held.
-/

namespace UsbStack

set_option autoImplicit false

open Foundation Exec

variable {B : Type} {sizes : Sizes}

namespace DescriptorProgram

theorem blind_sequence {calls : List DescriptorCall} (h : ∀ call ∈ calls, call.Blind) :
    (sequence calls).Blind := by
  induction calls with
  | nil => trivial
  | cons call rest ih =>
    refine ⟨h call List.mem_cons_self, fun reply => ?_⟩
    dsimp only
    cases hResult : call.result reply with
    | ok u =>
      refine ⟨?_, fun _ => ih fun other hMem => h other (List.mem_cons_of_mem _ hMem)⟩
      rintro ⟨e, hError⟩
      rw [hResult] at hError
      cases hError
    | error e => exact ⟨fun _ => ⟨.error e, rfl⟩, fun hNot => absurd ⟨e, hResult⟩ hNot⟩

end DescriptorProgram

namespace TestClass

variable {cls : TestClass sizes} {req : Request}

structure SameIdentity (a b : TestClass sizes) : Prop where
  customString : b.customString = a.customString
  interfaceString : b.interfaceString = a.interfaceString
  iface : b.iface = a.iface
  epBulkIn : b.epBulkIn = a.epBulkIn
  epBulkOut : b.epBulkOut = a.epBulkOut
  epInterruptIn : b.epInterruptIn = a.epInterruptIn
  epInterruptOut : b.epInterruptOut = a.epInterruptOut
  epIsoIn : b.epIsoIn = a.epIsoIn

theorem sameIdentity_refl (cls : TestClass sizes) : SameIdentity cls cls :=
  ⟨rfl, rfl, rfl, rfl, rfl, rfl, rfl, rfl⟩

theorem sameIdentity_trans (a b c : TestClass sizes) (h : SameIdentity a b) (h' : SameIdentity b c) :
    SameIdentity a c where
  customString := h'.customString.trans h.customString
  interfaceString := h'.interfaceString.trans h.interfaceString
  iface := h'.iface.trans h.iface
  epBulkIn := h'.epBulkIn.trans h.epBulkIn
  epBulkOut := h'.epBulkOut.trans h.epBulkOut
  epInterruptIn := h'.epInterruptIn.trans h.epInterruptIn
  epInterruptOut := h'.epInterruptOut.trans h.epInterruptOut
  epIsoIn := h'.epIsoIn.trans h.epIsoIn

theorem sameIdentity_endpointOut (cls : TestClass sizes) (addr : EndpointAddress) :
    SameIdentity cls (cls.endpointOut addr) := by
  unfold endpointOut
  split
  · exact ⟨rfl, rfl, rfl, rfl, rfl, rfl, rfl, rfl⟩
  · split
    · exact ⟨rfl, rfl, rfl, rfl, rfl, rfl, rfl, rfl⟩
    · exact sameIdentity_refl cls

def descriptorCalls (cls : TestClass sizes) : List DescriptorCall :=
  [.interface cls.iface 0xff 0x00 0x00, .endpoint cls.epBulkIn.toEndpoint,
    .endpoint cls.epBulkOut.toEndpoint, .endpoint cls.epInterruptIn.toEndpoint,
    .endpoint cls.epInterruptOut.toEndpoint,
    .interfaceAlt cls.iface 1 0xff 0x01 0x00 (some cls.interfaceString),
    .endpoint cls.epIsoIn.toEndpoint]

theorem configurationDescriptors_eq (cls : TestClass sizes) :
    cls.configurationDescriptors = DescriptorProgram.sequence cls.descriptorCalls := rfl

theorem callback_of_mem {call : DescriptorCall} (h : call ∈ cls.descriptorCalls) :
    call.callback = none := by
  simp only [descriptorCalls, List.mem_cons, List.not_mem_nil, or_false] at h
  rcases h with rfl | rfl | rfl | rfl | rfl | rfl | rfl <;> rfl

theorem blind_configurationDescriptors (cls : TestClass sizes) :
    (UsbClass.getConfigurationDescriptors cls).Blind := by
  change cls.configurationDescriptors.Blind
  rw [configurationDescriptors_eq]
  refine DescriptorProgram.blind_sequence fun call hCall f hCallback => ?_
  rw [callback_of_mem hCall] at hCallback
  cases hCallback

theorem describes (cls : TestClass sizes) : Describes 6 cls := by
  refine ⟨?_, trivial⟩
  change cls.configurationDescriptors.CountsAtMost 6
  rw [configurationDescriptors_eq]
  refine DescriptorProgram.countsAtMost_sequence fun call hCall f hCallback => ?_
  rw [callback_of_mem hCall] at hCallback
  cases hCallback

theorem oblivious : Oblivious (TestClass sizes) where
  controlIn cls req := by
    change (cls.controlIn req).Uses SliceFn.Blind
    unfold controlIn
    split
    · trivial
    · split
      · trivial
      · split <;> trivial
  configuration := blind_configurationDescriptors

theorem backdrop :
    Backdrop (@SameIdentity sizes) fun epIn cls => cls.Spared epIn where
  tame epIn :=
    { refl := sameIdentity_refl
      trans := sameIdentity_trans
      keeps := fun cls cls' hSpared hSame n hBit => by
        rw [hSame.epBulkIn, hSame.epInterruptIn]
        exact hSpared n hBit
      poll := fun cls _ => sameIdentity_refl cls
      endpointSetup := fun cls _ _ => sameIdentity_refl cls
      endpointOut := fun cls addr _ => sameIdentity_endpointOut cls addr
      endpointInComplete := fun cls n hSpared hBit => by
        obtain ⟨hBulk, hInterrupt⟩ := hSpared n hBit
        change (cls.endpointInComplete _).Yields False _
        rw [endpointInComplete_of_ne hBulk hInterrupt]
        exact sameIdentity_refl cls }
  reset cls := ⟨rfl, rfl, rfl, rfl, rfl, rfl, rfl, rfl⟩
  configuration a b h := by
    change b.configurationDescriptors = a.configurationDescriptors
    rw [configurationDescriptors_eq, configurationDescriptors_eq, descriptorCalls, descriptorCalls,
      h.iface, h.epBulkIn, h.epBulkOut, h.epInterruptIn, h.epInterruptOut, h.epIsoIn,
      h.interfaceString]
  bos _ _ _ := rfl
  string a b h := by
    funext index langId
    change b.getString index langId = a.getString index langId
    rw [getString, getString, h.customString, h.interfaceString]

theorem leaves (h : ¬ Owns req) (cls : TestClass sizes) : LeavesRequest SameIdentity req cls := by
  unfold LeavesRequest
  cases req.direction with
  | in_ =>
    change ∃ cls', cls.controlIn req = .ignore cls' ∧ SameIdentity cls cls'
    exact ⟨cls, if_pos h, sameIdentity_refl cls⟩
  | out =>
    intro data
    change (cls.controlOut req data).Yields False _
    rw [controlOut, if_pos h]
    exact ⟨cls, rfl, sameIdentity_refl cls⟩

end TestClass

end UsbStack
