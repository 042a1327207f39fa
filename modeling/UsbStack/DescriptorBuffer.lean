import UsbStack.Device

/-! # Descriptor writers keep the length of their buffer

So the callback that runs a writer on the control buffer is a callback on a slice.
-/

namespace UsbStack

set_option autoImplicit false

open Foundation Exec

namespace DescriptorWriter

def SameLength (w w' : DescriptorWriter) : Prop := w'.buf.length = w.buf.length

theorem sameLength_refl (w : DescriptorWriter) : SameLength w w := rfl

theorem sameLength_trans (u v w : DescriptorWriter) (h : SameLength u v) (h' : SameLength v w) :
    SameLength u w := h'.trans h

def KeepsLength {α : Type} (m : WriterM α) : Prop := Within SameLength m

theorem keepsLength_bind {α β : Type} {m : WriterM α} {k : α → WriterM β} (hm : KeepsLength m)
    (hk : ∀ a, KeepsLength (k a)) : KeepsLength (m >>= k) := within_bind sameLength_trans hm hk

theorem keepsLength_get_bind {α : Type} {k : DescriptorWriter → WriterM α}
    (hk : ∀ w, Post True (k w) (fun _ w' => SameLength w w') w) : KeepsLength (get >>= k) := by
  intro w
  rw [post_bind, post_get]
  exact hk w

theorem keepsLength_setByte (index : Nat) (value : UInt8) : KeepsLength (setByte index value) := by
  refine keepsLength_get_bind fun w => ?_
  unfold set?
  split
  · exact List.length_set
  · trivial

theorem keepsLength_copyTo {start stop : Nat} {data : List UInt8}
    (h : start + data.length ≤ stop) : KeepsLength (copyTo start stop data) := by
  refine keepsLength_get_bind fun w => ?_
  unfold slice?
  split
  · rename_i hRange
    exact length_overwrite (by omega)
  · trivial

theorem keepsLength_increment (mark : Nat) : KeepsLength (increment mark) := by
  refine keepsLength_get_bind fun w => ?_
  cases w.buf[mark]? with
  | none => trivial
  | some count =>
    dsimp only
    split
    · trivial
    · exact List.length_set

theorem keepsLength_onSlice (start stop : Nat) (f : SliceFn) :
    KeepsLength (onSlice start stop f) := by
  refine keepsLength_get_bind fun w => ?_
  cases hSlice : slice? w.buf start stop with
  | none => trivial
  | some part =>
    obtain ⟨hStart, hStop, -⟩ := slice?_eq_some hSlice
    rw [post_bind, ofOption_some, post_pure, post_zoom]
    apply (f.length_eq _).mono
    intro r part' hPart
    refine length_overwrite ?_
    rw [hPart, List.length_take, List.length_drop]
    omega

theorem keepsLength_writeWith (descriptorType : UInt8) (f : SliceFn) :
    KeepsLength (writeWith descriptorType f) := by
  refine keepsLength_bind (within_get sameLength_refl) fun w => ?_
  refine within_ite (within_fail sameLength_refl _) ?_
  refine keepsLength_bind (keepsLength_onSlice _ _ f) fun count => ?_
  refine within_ite (within_ite (fun _ => trivial) (within_fail sameLength_refl _)) ?_
  refine keepsLength_bind (keepsLength_setByte _ _) fun _ => ?_
  exact keepsLength_bind (keepsLength_setByte _ _) fun _ => within_modify fun _ => rfl

theorem keepsLength_write (descriptorType : UInt8) (descriptor : List UInt8) :
    KeepsLength (write descriptorType descriptor) := keepsLength_writeWith _ _

theorem keepsLength_configuration (config : Config) : KeepsLength (configuration config) :=
  keepsLength_bind (within_modify fun _ => rfl) fun _ => keepsLength_write _ _

theorem keepsLength_endClass : KeepsLength endClass := within_modify fun _ => rfl

theorem keepsLength_endConfiguration : KeepsLength endConfiguration :=
  keepsLength_bind (within_get sameLength_refl) fun _ => keepsLength_copyTo (Nat.le_refl _)

theorem keepsLength_iad (firstInterface : InterfaceNumber) (interfaceCount functionClass
    functionSubClass functionProtocol : UInt8) (string : Option StringIndex) :
    KeepsLength (iad firstInterface interfaceCount functionClass functionSubClass functionProtocol
      string) :=
  keepsLength_bind (within_get sameLength_refl) fun _ =>
    within_ite (within_pure sameLength_refl _) (keepsLength_write _ _)

theorem keepsLength_incrementMark (mark : Option Nat) : KeepsLength (incrementMark mark) := by
  cases mark with
  | none => exact within_fail sameLength_refl _
  | some mark => exact keepsLength_increment mark

theorem keepsLength_interfaceAlt (number : InterfaceNumber) (alternateSetting interfaceClass
    interfaceSubClass interfaceProtocol : UInt8) (string : Option StringIndex) :
    KeepsLength (interfaceAlt number alternateSetting interfaceClass interfaceSubClass
      interfaceProtocol string) :=
  keepsLength_bind (within_get sameLength_refl) fun w =>
    keepsLength_bind (within_when sameLength_refl
      (keepsLength_incrementMark w.numInterfacesMark)) fun _ =>
        keepsLength_bind (within_modify fun _ => rfl) fun _ => keepsLength_write _ _

theorem keepsLength_endpointEx (endpoint : Endpoint) (f : SliceFn) :
    KeepsLength (endpointEx endpoint f) :=
  keepsLength_bind (within_get sameLength_refl) fun w =>
    keepsLength_bind (keepsLength_incrementMark w.numEndpointsMark) fun _ => keepsLength_writeWith _ _

theorem keepsLength_stringUnits (units : List UInt16) (pos : Nat) :
    KeepsLength (stringUnits units pos) := by
  induction units generalizing pos with
  | nil => exact within_pure sameLength_refl _
  | cons c rest ih =>
    refine keepsLength_bind (within_get sameLength_refl) fun w => ?_
    exact within_ite (within_fail sameLength_refl _)
      (keepsLength_bind (keepsLength_copyTo (Nat.le_refl _)) fun _ => ih _)

theorem keepsLength_string (string : String) : KeepsLength (DescriptorWriter.string string) := by
  refine keepsLength_bind (within_get sameLength_refl) fun w => ?_
  refine within_ite (within_fail sameLength_refl _) ?_
  refine keepsLength_bind (keepsLength_setByte _ _) fun _ => ?_
  refine keepsLength_bind (keepsLength_setByte _ _) fun _ => ?_
  refine keepsLength_bind (keepsLength_stringUnits _ _) fun _ => ?_
  exact keepsLength_bind (keepsLength_setByte _ _) fun _ => within_modify fun _ => rfl

theorem keepsLength_perform (call : DescriptorCall) : KeepsLength call.perform := by
  cases call with
  | position => exact keepsLength_bind (within_get sameLength_refl) fun _ =>
      within_pure sameLength_refl _
  | write descriptorType descriptor => exact within_attempt (keepsLength_write _ _)
  | writeWith descriptorType f => exact within_attempt (keepsLength_writeWith _ f)
  | iad => exact within_attempt (keepsLength_iad _ _ _ _ _ _)
  | interface => exact within_attempt (keepsLength_interfaceAlt _ _ _ _ _ _)
  | interfaceAlt => exact within_attempt (keepsLength_interfaceAlt _ _ _ _ _ _)
  | endpoint ep => exact within_attempt (keepsLength_endpointEx ep _)
  | endpointEx ep f => exact within_attempt (keepsLength_endpointEx ep f)

theorem keepsLength_program (program : DescriptorProgram) : KeepsLength program.run :=
  keepsLength_bind (program.within_interp sameLength_refl sameLength_trans keepsLength_perform _)
    fun _ => within_ofExcept sameLength_refl _

theorem keepsLength_device (config : Config) : KeepsLength (device config) := keepsLength_write _ _

end DescriptorWriter

namespace BosWriter

def SameLength (b b' : BosWriter) : Prop := DescriptorWriter.SameLength b.writer b'.writer

theorem sameLength_refl (b : BosWriter) : SameLength b b := rfl

theorem sameLength_trans (a b c : BosWriter) (h : SameLength a b) (h' : SameLength b c) :
    SameLength a c := h'.trans h

theorem within_onWriter {α : Type} {m : WriterM α} (hm : DescriptorWriter.KeepsLength m) :
    Within SameLength (onWriter m) := within_zoom hm fun _ _ h => h

theorem within_capability (capabilityType : UInt8) (data : List UInt8) :
    Within SameLength (capability capabilityType data) := by
  refine within_bind sameLength_trans (within_get sameLength_refl) fun b => ?_
  refine within_bind sameLength_trans
    (within_onWriter (DescriptorWriter.keepsLength_incrementMark _)) fun _ => ?_
  refine within_ite (within_fail sameLength_refl _) (within_onWriter ?_)
  refine DescriptorWriter.keepsLength_bind (DescriptorWriter.keepsLength_setByte _ _) fun _ => ?_
  refine DescriptorWriter.keepsLength_bind (DescriptorWriter.keepsLength_setByte _ _) fun _ => ?_
  refine DescriptorWriter.keepsLength_bind (DescriptorWriter.keepsLength_setByte _ _) fun _ => ?_
  exact DescriptorWriter.keepsLength_bind (DescriptorWriter.keepsLength_copyTo (Nat.le_refl _))
    fun _ => within_modify fun _ => rfl

theorem within_bos : Within SameLength bos :=
  within_bind sameLength_trans (within_modify fun _ => rfl) fun _ =>
    within_bind sameLength_trans (within_onWriter (DescriptorWriter.keepsLength_write _ _))
      fun _ => within_capability _ _

theorem within_endBos : Within SameLength endBos :=
  within_bind sameLength_trans (within_modify fun _ => rfl) fun _ =>
    within_bind sameLength_trans (within_get sameLength_refl) fun _ =>
      within_onWriter (DescriptorWriter.keepsLength_copyTo (Nat.le_refl _))

theorem within_program (program : BosProgram) : Within SameLength program.run :=
  within_bind sameLength_trans
    (program.within_interp sameLength_refl sameLength_trans
      (fun _ => within_attempt (within_capability _ _)) _)
    fun _ => within_ofExcept sameLength_refl _

end BosWriter

variable {C : Type} [UsbClass C]

theorem within_bosDescriptors (classes : List C) :
    Within BosWriter.SameLength (bosDescriptors classes) := by
  refine within_bind BosWriter.sameLength_trans BosWriter.within_bos fun _ => ?_
  refine within_bind BosWriter.sameLength_trans ?_ fun _ => BosWriter.within_endBos
  induction classes with
  | nil => exact within_pure BosWriter.sameLength_refl _
  | cons cls rest ih =>
    exact within_bind BosWriter.sameLength_trans (BosWriter.within_program _) fun _ => ih

theorem keepsLength_configurationDescriptors (config : Config) (classes : List C) :
    DescriptorWriter.KeepsLength (configurationDescriptors config classes) := by
  refine DescriptorWriter.keepsLength_bind
    (DescriptorWriter.keepsLength_configuration config) fun _ => ?_
  refine DescriptorWriter.keepsLength_bind ?_ fun _ =>
    DescriptorWriter.keepsLength_endConfiguration
  induction classes with
  | nil => exact within_pure DescriptorWriter.sameLength_refl _
  | cons cls rest ih =>
    exact DescriptorWriter.keepsLength_bind (DescriptorWriter.keepsLength_bind
      (DescriptorWriter.keepsLength_program _) fun _ => DescriptorWriter.keepsLength_endClass)
        fun _ => ih

/-- Whatever descriptor is asked for, the buffer keeps its length. -/
theorem keepsLength_descriptorWriter {config : Config} {classes : List C} {req : Request}
    {f : WriterM Unit} (h : descriptorWriter config classes req = some f) :
    DescriptorWriter.KeepsLength f := by
  unfold descriptorWriter at h
  dsimp only at h
  split at h
  · cases h
    exact within_zoom (within_bosDescriptors classes) fun _ _ hSame => hSame
  · split at h
    · cases h
      exact DescriptorWriter.keepsLength_device config
    · split at h
      · cases h
        exact keepsLength_configurationDescriptors config classes
      · split at h
        · split at h
          · cases h
            exact DescriptorWriter.keepsLength_bind
              (within_ofOption DescriptorWriter.sameLength_refl _ _) fun _ =>
                DescriptorWriter.keepsLength_write _ _
          · obtain ⟨string, -, rfl⟩ := Option.map_eq_some_iff.mp h
            exact DescriptorWriter.keepsLength_string string
        · cases h

def acceptWriterFn (f : WriterM Unit) (h : DescriptorWriter.KeepsLength f) : SliceFn where
  run := acceptWriter f
  length_eq := by
    intro buf
    rw [post_true_iff]
    intro r buf' hDone
    unfold acceptWriter at hDone
    split at hDone
    · cases hDone
      exact Within.of_done h ‹_›
    · cases hDone
      exact Within.of_done h ‹_›
    · cases hDone

end UsbStack
