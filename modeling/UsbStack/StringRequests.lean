import UsbStack.StringDescriptor
import UsbStack.ConfigurationDescriptor
import UsbStack.RequestCodec
import UsbStack.OneAnswer

/-! # String requests

The strings that a device answers with, and the indices of strings in its device descriptor.
-/

namespace UsbStack

set_option autoImplicit false

open Foundation Exec

/-- A writer writes `bytes` when the buffer has room for them. -/
def Writes (f : WriterM Unit) (bytes : List UInt8) : Prop :=
  ∀ buf, bytes.length ≤ buf.length → acceptWriter f buf = (SliceFn.copy bytes).run buf

theorem set_set_overwrite {buf : List UInt8} (length descriptorType : UInt8) (payload : List UInt8)
    (hRoom : payload.length + 2 ≤ buf.length) :
    ((overwrite buf 2 payload).set 0 length).set 1 descriptorType =
      overwrite buf 0 (length :: descriptorType :: payload) := by
  have hLength : (overwrite buf 2 payload).length = buf.length := length_overwrite (by omega)
  apply List.ext_getElem?
  intro k
  rw [List.getElem?_set, List.getElem?_set, List.length_set, hLength,
    getElem?_overwrite (by omega), getElem?_overwrite (by omega)]
  simp only [List.length_cons, List.getElem?_cons]
  grind

theorem overwrite_slice {buf payload : List UInt8} {stop : Nat}
    (hPayload : payload.length + 2 ≤ stop) (hStop : stop ≤ buf.length) :
    overwrite buf 2 (overwrite ((buf.drop 2).take (stop - 2)) 0 payload) = overwrite buf 2 payload := by
  have hSlice : ((buf.drop 2).take (stop - 2)).length = stop - 2 := by
    rw [List.length_take, List.length_drop]
    omega
  have hWhole : (overwrite ((buf.drop 2).take (stop - 2)) 0 payload).length = stop - 2 := by
    rw [length_overwrite (by omega), hSlice]
  apply List.ext_getElem?
  intro k
  rw [getElem?_overwrite (by omega), getElem?_overwrite (by omega), getElem?_overwrite (by omega),
    hWhole, List.getElem?_take, List.getElem?_drop]
  grind

theorem writes_write (descriptorType : UInt8) {payload : List UInt8}
    (hByte : payload.length ≤ 253) :
    Writes (DescriptorWriter.write descriptorType payload) (descriptorBytes descriptorType payload) := by
  intro buf hRoom
  have hBytes : (descriptorBytes descriptorType payload).length = payload.length + 2 := rfl
  have hSlice : (DescriptorWriter.new buf).slice = (buf.drop 2).take (min buf.length 256 - 2) := by
    rw [DescriptorWriter.slice, DescriptorWriter.new, Nat.zero_add, Nat.zero_add]
  have hLength : (DescriptorWriter.new buf).slice.length = min buf.length 256 - 2 := by
    rw [hSlice, List.length_take, List.length_drop]
    omega
  rw [acceptWriter, DescriptorWriter.write, DescriptorWriter.writeWith_apply,
    if_neg (by change ¬ buf.length < 0 + 2; omega), SliceFn.copy_run_apply,
    if_neg (by omega)]
  dsimp only
  rw [if_neg (by change ¬ buf.length < 0 + (payload.length + 2); omega), SliceFn.copy_run_apply,
    if_neg (by omega), DescriptorWriter.wrote, hSlice]
  change Outcome.done (.ok (0 + (payload.length + 2))) (((overwrite buf (0 + 2) _).set 0 _).set
    (0 + 1) _) = _
  rw [Nat.zero_add, Nat.zero_add, Nat.zero_add, overwrite_slice (by omega) (by omega),
    set_set_overwrite _ _ _ (by omega), hBytes]
  rfl

/-- A string descriptor is its two bytes and the units. -/
theorem writes_string {string : String} (hUnits : (encodeUtf16 string).length ≤ 126) :
    Writes (DescriptorWriter.string string)
      (descriptorBytes DescriptorType.string (encodeUtf16Le string)) := by
  intro buf hRoom
  have hUtf : (encodeUtf16Le string).length = 2 * (encodeUtf16 string).length :=
    length_flatMap_toLeBytes _
  have hBytes : (descriptorBytes DescriptorType.string (encodeUtf16Le string)).length =
      (encodeUtf16Le string).length + 2 := rfl
  have hHeader : (DescriptorWriter.new buf).stringHeader.buf =
      (buf.set 0 0).set 1 DescriptorType.string := rfl
  have hLength : (DescriptorWriter.new buf).stringHeader.buf.length = buf.length :=
    DescriptorWriter.length_stringHeader _
  have hWhole : (overwrite (DescriptorWriter.new buf).stringHeader.buf 2 (encodeUtf16Le string)).length =
      buf.length := by rw [length_overwrite (by omega), hLength]
  have hBuf : (overwrite ((buf.set 0 0).set 1 DescriptorType.string) 2 (encodeUtf16Le string)).set 0
      ((encodeUtf16Le string).length + 2).toUInt8 =
      overwrite buf 0 (descriptorBytes DescriptorType.string (encodeUtf16Le string)) := by
    rw [hHeader] at hWhole hLength
    apply List.ext_getElem?
    intro k
    rw [List.getElem?_set, hWhole, getElem?_overwrite (by omega), getElem?_overwrite (by omega),
      hBytes]
    simp only [descriptorBytes, List.getElem?_cons, List.getElem?_set, List.length_set]
    grind
  rw [acceptWriter, DescriptorWriter.string_apply, if_neg (by change ¬ buf.length < 0 + 2; omega),
    bind_of_ok (DescriptorWriter.stringUnits_of_le (by
      rw [hLength]
      change 0 + 2 + _ ≤ _
      omega)),
    bind_of_ok (DescriptorWriter.setByte_apply (by
      rw [← encodeUtf16Le]
      change 0 < (overwrite _ 2 _).length
      omega) _), SliceFn.copy_run_apply, if_neg (by omega), hBytes]
  dsimp only [modify_apply]
  rw [← encodeUtf16Le]
  change Outcome.done (.ok (0 + 2 + 2 * _)) ((overwrite ((buf.set 0 0).set 1 _) (0 + 2) _).set 0
    (0 + 2 + 2 * _ - 0).toUInt8) = _
  rw [Nat.zero_add, Nat.sub_zero, ← hUtf, Nat.add_comm 2, hBuf]

def descriptorRequest (descriptorType index : UInt8) (langId length : UInt16) : Request :=
  ⟨.in_, .standard, .device, Request.getDescriptor, Request.ofLeBytes index descriptorType, langId,
    length⟩

def stringRequest (index : UInt8) (langId : LangID) (length : UInt16) : Request :=
  descriptorRequest DescriptorType.string index langId.id length

theorem descriptorTypeIndex_descriptorRequest (descriptorType index : UInt8)
    (langId length : UInt16) :
    (descriptorRequest descriptorType index langId length).descriptorTypeIndex =
      (descriptorType, index) := by
  have hBytes := Request.toLeBytes_ofLeBytes index descriptorType
  rw [toLeBytes, List.cons.injEq, List.cons.injEq] at hBytes
  exact Prod.ext hBytes.2.1 hBytes.1

variable {config : Config}

def languageBytes (config : Config) : List UInt8 :=
  config.stringDescriptors.val.flatMap fun lang => toLeBytes lang.id.id

/-- A field of the descriptors of a language, by the string index that the device gives it. -/
def StringDescriptors.field (index : UInt8) (lang : StringDescriptors) : Option String :=
  if index = 1 then lang.manufacturer else if index = 2 then lang.product else lang.serial

def deviceBytes (config : Config) : List UInt8 :=
  descriptorBytes DescriptorType.device (
    toLeBytes config.usbRev.toU16 ++
    [config.deviceClass, config.deviceSubClass, config.deviceProtocol, config.maxPacketSize0] ++
    toLeBytes config.vendorId ++
    toLeBytes config.productId ++
    toLeBytes config.deviceRelease ++
    [DescriptorWriter.stringIndexOf config (·.manufacturer) 1,
      DescriptorWriter.stringIndexOf config (·.product) 2,
      DescriptorWriter.stringIndexOf config (·.serial) 3,
      1])

theorem length_languageBytes (config : Config) :
    (languageBytes config).length = 2 * config.stringDescriptors.val.length := by
  rw [languageBytes]
  induction config.stringDescriptors.val with
  | nil => rfl
  | cons lang rest ih =>
    rw [List.flatMap_cons, List.length_append, ih, List.length_cons]
    change 2 + _ = _
    omega

theorem slice_langIdBytes :
    slice? (langIdBytes config) 0 (config.stringDescriptors.val.length * 2) =
      some (languageBytes config) := by
  have hCount := config.stringDescriptors.property
  have hLength := length_languageBytes config
  have hWhole : (langIdBytes config).length = 32 := by
    rw [langIdBytes, ← languageBytes, length_overwrite] <;> rw [List.length_replicate]
    omega
  rw [slice?_of_le (Nat.zero_le _) (by omega), Nat.sub_zero, List.drop_zero, Nat.mul_comm, ← hLength]
  have hTake := take_overwrite (languageBytes config)
    (Nat.zero_le (List.replicate 32 (0 : UInt8)).length)
  rw [Nat.zero_add, List.take_zero, List.nil_append] at hTake
  exact congrArg some hTake

section Writer

variable {C : Type} [UsbClass C] {classes : List C} {index : UInt8} {langId length : UInt16}

theorem writes_device : Writes (DescriptorWriter.device config) (deviceBytes config) :=
  writes_write DescriptorType.device (by change 16 ≤ 253; decide)

theorem descriptorWriter_device :
    descriptorWriter config classes (descriptorRequest DescriptorType.device index langId length) =
      some (DescriptorWriter.device config) := by
  rw [descriptorWriter, descriptorTypeIndex_descriptorRequest]
  dsimp only
  rw [if_neg fun hBos => absurd hBos.1 (by decide), if_pos rfl]

theorem descriptorWriter_string :
    descriptorWriter config classes (descriptorRequest DescriptorType.string index langId length) =
      if index = 0 then
        some (do
          let bytes ← Exec.ofOption .sliceIndex
            (slice? (langIdBytes config) 0 (config.stringDescriptors.val.length * 2))
          DescriptorWriter.write DescriptorType.string bytes)
      else (findString config classes index ⟨langId⟩).map DescriptorWriter.string := by
  rw [descriptorWriter, descriptorTypeIndex_descriptorRequest]
  dsimp only
  rw [if_neg fun hBos => absurd hBos.1 (by decide), if_neg (by decide), if_neg (by decide),
    if_pos rfl]
  rfl

end Writer

variable {B C : Type} [UsbBus B] [UsbClass C]

theorem ControlPipe.acceptIn_of_writes {f : WriterM Unit} {bytes : List UInt8} {p : ControlPipe B}
    (hWrites : Writes f bytes) (hRoom : bytes.length ≤ p.buf.length) :
    ControlPipe.acceptIn (acceptWriter f) p = ControlPipe.acceptWith bytes p := by
  rw [ControlPipe.acceptWith]
  by_cases hState : ∃ req, p.state = .completeIn req
  · obtain ⟨req, hState⟩ := hState
    rw [ControlPipe.acceptIn_completeIn p hState, ControlPipe.acceptIn_completeIn p hState,
      hWrites p.buf hRoom]
  · have hNot (req : Request) : p.state ≠ .completeIn req := fun hReq => hState ⟨req, hReq⟩
    rw [ControlPipe.acceptIn_of_ne p hNot, ControlPipe.acceptIn_of_ne p hNot]

namespace Session

/-- The request is in the hands of a device with this configuration, and no class has answered it. -/
structure Reaches (config : Config) (req : Request) (s t : Session B C) : Prop where
  config : s.device.config = config
  state : s.device.control.state = .completeIn req
  passed : firstClass (offer (callControlIn req)) s = .done (.ok none) t

section Reaches

variable {req : Request} {s t : Session B C}

theorem Reaches.kept (h : Reaches config req s t) (hIn : req.direction = .in_) :
    t.device.config = config ∧ t.device.control.state = .completeIn req ∧
      t.device.control.buf.length = s.device.control.buf.length := by
  have hAwaits : s.device.control.Awaits req := by
    unfold ControlPipe.Awaits
    rw [hIn]
    exact h.state
  have hCall : callControl req = (callControlIn req : Nat → C → PipeM B C) := by
    unfold callControl
    rw [hIn]
  obtain ⟨call, found, count, q, hFound, hDevice, hOffered⟩ :=
    offered_of_firstClass hAwaits (hCall ▸ h.passed)
  cases hFound
  have hStill : q.Awaits req := (hOffered.of_none hAwaits).2
  unfold ControlPipe.Awaits at hStill
  rw [hIn] at hStill
  rw [hDevice]
  exact ⟨h.config, hStill, hOffered.frame.length⟩

theorem Reaches.controlIn_eq (h : Reaches config req s t) (hIn : req.direction = .in_)
    (hStandard : req.requestType = .standard) (hDescriptor : req.standardIn = .descriptor) :
    controlIn req s = (do
      onPipe (UsbStack.getDescriptor config t.classes req)
      let s ← get
      when (s.device.control.waitingForResponse = true) reject : SessionM B C Unit) t := by
  have hHandler : standardControlIn req t =
      onPipe (UsbStack.getDescriptor config t.classes req) t := by
    rw [standardControlIn, bind_apply, get_apply]
    dsimp only
    rw [hDescriptor, (h.kept hIn).1]
  rw [controlIn, bind_of_ok h.passed]
  dsimp only
  rw [when_of_true hStandard, bind_apply, bind_apply, hHandler]

theorem Reaches.accepts (h : Reaches config req s t) (hIn : req.direction = .in_)
    (hStandard : req.requestType = .standard) (hDescriptor : req.standardIn = .descriptor)
    {f : WriterM Unit} {bytes : List UInt8}
    (hWriter : descriptorWriter config t.classes req = some f) (hWrites : Writes f bytes)
    (hRoom : bytes.length ≤ s.device.control.buf.length) :
    controlIn req s = acceptWith bytes t := by
  obtain ⟨-, hState, hLength⟩ := h.kept hIn
  have hRoom' : bytes.length ≤ t.device.control.buf.length := hLength ▸ hRoom
  have hAnswer : onPipe (UsbStack.getDescriptor config t.classes req) t = acceptWith bytes t := by
    rw [UsbStack.getDescriptor, hWriter, acceptWith, onPipe, onPipe, onDevice, onDevice, zoom_apply,
      zoom_apply, UsbDevice.onPipe, UsbDevice.onPipe, zoom_apply, zoom_apply]
    dsimp only
    rw [ControlPipe.acceptIn_of_writes hWrites hRoom']
  rw [h.controlIn_eq hIn hStandard hDescriptor, bind_apply, hAnswer, ← bind_apply,
    unwaiting_bind ((post_acceptWith_answered (.inl ⟨req, hState⟩) hRoom').mono fun _ _ h _ => h)]

theorem Reaches.rejects (h : Reaches config req s t) (hIn : req.direction = .in_)
    (hStandard : req.requestType = .standard) (hDescriptor : req.standardIn = .descriptor)
    (hWriter : descriptorWriter config t.classes req = none) :
    controlIn req s = reject t := by
  have hAnswer : onPipe (UsbStack.getDescriptor config t.classes req) t = reject t := by
    rw [UsbStack.getDescriptor, hWriter]
    rfl
  rw [h.controlIn_eq hIn hStandard hDescriptor, bind_apply, hAnswer, ← bind_apply,
    unwaiting_bind (post_reject_answered.mono fun _ _ h _ => h)]

end Reaches

def answerString : Option String → SessionM B C Unit
  | some string => acceptWith (descriptorBytes DescriptorType.string (encodeUtf16Le string))
  | none => reject

/-- The descriptor of a string fits in the control buffer, and its length in a byte. -/
def HasRoom (s : Session B C) (string : String) : Prop :=
  (encodeUtf16 string).length ≤ 126 ∧
    2 + 2 * (encodeUtf16 string).length ≤ s.device.control.buf.length

omit [UsbClass C] in
theorem acceptWith_ne_reject {req : Request} {t : Session B C} {bytes : List UInt8}
    (hState : t.device.control.state = .completeIn req)
    (hRoom : bytes.length ≤ t.device.control.buf.length) :
    (acceptWith bytes : SessionM B C Unit) t ≠ reject t := by
  have hWaiting : t.device.control.waitingForResponse = true :=
    (ControlPipe.waitingForResponse_iff _).mpr (.inr ⟨req, hState⟩)
  intro hSame
  exact (post_of_done (post_acceptWith_transmits hState hRoom)
    (hSame.trans (reject_of_waiting hWaiting))).elim

section Strings

variable {index : UInt8} {langId : LangID} {length : UInt16} {s t : Session B C}

/-- A string request is answered with the string that is found, or rejected. -/
theorem Reaches.answers (h : Reaches config (stringRequest index langId length) s t)
    (hIndex : index ≠ 0)
    (hRoom : ∀ string ∈ findString config t.classes index langId, s.HasRoom string) :
    controlIn (stringRequest index langId length) s =
      answerString (findString config t.classes index langId) t := by
  have hWriter : descriptorWriter config t.classes (stringRequest index langId length) =
      (findString config t.classes index langId).map DescriptorWriter.string := by
    rw [stringRequest, descriptorWriter_string, if_neg hIndex]
  cases hFound : findString config t.classes index langId with
  | none =>
    rw [hFound] at hWriter
    exact h.rejects rfl rfl rfl hWriter
  | some string =>
    rw [hFound] at hWriter
    obtain ⟨hUnits, hFits⟩ := hRoom string hFound
    refine h.accepts rfl rfl rfl hWriter (writes_string hUnits) ?_
    change (encodeUtf16Le string).length + 2 ≤ _
    rw [encodeUtf16Le, length_flatMap_toLeBytes]
    omega

/-- Whether a request is answered with a string or rejected. -/
theorem Reaches.answered_iff (h : Reaches config (stringRequest index langId length) s t)
    (hIndex : index ≠ 0)
    (hRoom : ∀ string ∈ findString config t.classes index langId, s.HasRoom string) :
    controlIn (stringRequest index langId length) s ≠ reject t ↔
      (findString config t.classes index langId).isSome := by
  rw [h.answers hIndex hRoom]
  cases hFound : findString config t.classes index langId with
  | none => exact iff_of_false (fun hNe => hNe rfl) Bool.false_ne_true
  | some string =>
    obtain ⟨-, hState, hLength⟩ := h.kept rfl
    obtain ⟨-, hFits⟩ := hRoom string hFound
    refine iff_of_true (acceptWith_ne_reject hState ?_) rfl
    rw [hLength]
    change (encodeUtf16Le string).length + 2 ≤ _
    rw [encodeUtf16Le, length_flatMap_toLeBytes]
    omega

end Strings

end Session

def OwnIndex (index : UInt8) : Prop := index = 1 ∨ index = 2 ∨ index = 3

/-- The byte of the device descriptor for one of them. -/
def advertisedIndex (config : Config) (index : UInt8) : UInt8 :=
  (deviceBytes config).getD (13 + index.toNat) 0

section Advertised

variable {classes : List C} {index : UInt8} {langId : LangID}

theorem OwnIndex.ne_zero (h : OwnIndex index) : index ≠ 0 := by
  rcases h with rfl | rfl | rfl <;> decide

theorem findString_own (hIndex : OwnIndex index) :
    findString config classes index langId =
      (config.stringDescriptors.val.find? fun lang => lang.id = langId).bind (·.field index) := by
  rcases hIndex with rfl | rfl | rfl <;> rfl

theorem findString_other (hIndex : 3 < index) :
    findString config classes index langId =
      classes.findSome? fun cls => UsbClass.getString cls ⟨index⟩ langId :=
  if_neg fun hOwn => absurd hOwn.2 (UInt8.not_le.mpr hIndex)

theorem advertisedIndex_own (hIndex : OwnIndex index) :
    advertisedIndex config index = (config.stringDescriptors.val.head?.map fun lang =>
      if (lang.field index).isSome then index else 0).getD 0 := by
  rcases hIndex with rfl | rfl | rfl <;> rfl

theorem advertisedIndex_ne_zero_iff {first : StringDescriptors}
    (hFirst : config.stringDescriptors.val.head? = some first) (hIndex : OwnIndex index) :
    advertisedIndex config index ≠ 0 ↔ (findString config classes index first.id).isSome := by
  obtain ⟨rest, hLanguages⟩ := List.head?_eq_some_iff.mp hFirst
  have hFound : (config.stringDescriptors.val.find? fun lang => lang.id = first.id) = some first := by
    rw [hLanguages]
    exact List.find?_cons_of_pos (decide_eq_true rfl)
  rw [advertisedIndex_own hIndex, findString_own hIndex, hFound, hFirst, Option.map_some,
    Option.getD_some, Option.bind_some]
  split
  · exact iff_of_true hIndex.ne_zero ‹_›
  · exact iff_of_false (fun hNe => hNe rfl) ‹_›

end Advertised

open Session in
/-- How string requests are answered, and how the device descriptor announces it. -/
structure StringsResolve (B C : Type) [UsbBus B] [UsbClass C] (config : Config) : Prop where
  languages {langId : LangID} {length : UInt16} {s t : Session B C}
    (h : Reaches config (stringRequest 0 langId length) s t)
    (hRoom : 2 + 2 * config.stringDescriptors.val.length ≤ s.device.control.buf.length) :
    controlIn (stringRequest 0 langId length) s =
      acceptWith ((2 + 2 * config.stringDescriptors.val.length).toUInt8 ::
        DescriptorType.string :: languageBytes config) t
  own {index : UInt8} (hIndex : OwnIndex index) {langId : LangID} {length : UInt16}
    {s t : Session B C} (h : Reaches config (stringRequest index langId length) s t)
    (hRoom : ∀ lang ∈ config.stringDescriptors.val, ∀ string ∈ lang.field index, s.HasRoom string) :
    controlIn (stringRequest index langId length) s =
      answerString ((config.stringDescriptors.val.find? fun lang => lang.id = langId).bind
        (·.field index)) t
  others {index : UInt8} (hIndex : 3 < index) {langId : LangID} {length : UInt16}
    {s t : Session B C} (h : Reaches config (stringRequest index langId length) s t)
    (hRoom : ∀ cls ∈ t.classes, ∀ string ∈ UsbClass.getString cls ⟨index⟩ langId,
      s.HasRoom string) :
    controlIn (stringRequest index langId length) s =
      answerString (t.classes.findSome? fun cls => UsbClass.getString cls ⟨index⟩ langId) t
  device {index : UInt8} {langId length : UInt16} {s t : Session B C}
    (h : Reaches config (descriptorRequest DescriptorType.device index langId length) s t)
    (hRoom : 18 ≤ s.device.control.buf.length) :
    controlIn (descriptorRequest DescriptorType.device index langId length) s =
      acceptWith (deviceBytes config) t
  advertised {first : StringDescriptors}
    (hFirst : config.stringDescriptors.val.head? = some first) {index : UInt8}
    (hIndex : OwnIndex index) {length : UInt16} {s t : Session B C}
    (h : Reaches config (stringRequest index first.id length) s t)
    (hRoom : ∀ lang ∈ config.stringDescriptors.val, ∀ string ∈ lang.field index, s.HasRoom string) :
    advertisedIndex config index ≠ 0 ↔
      controlIn (stringRequest index first.id length) s ≠ reject t
  silent (hNone : config.stringDescriptors.val = []) {index : UInt8} (hIndex : OwnIndex index) :
    advertisedIndex config index = 0

/-- The answers to string requests, and the indices in the device descriptor, for every configuration.
-/
theorem strings_resolve (config : Config) : StringsResolve B C config := by
  have hOwn {index : UInt8} (hIndex : OwnIndex index) {langId : LangID} {s t : Session B C}
      (hRoom : ∀ lang ∈ config.stringDescriptors.val, ∀ string ∈ lang.field index,
        s.HasRoom string) :
      ∀ string ∈ findString config t.classes index langId, s.HasRoom string := by
    intro string hString
    rw [findString_own hIndex] at hString
    obtain ⟨lang, hFound, hField⟩ := Option.bind_eq_some_iff.mp hString
    exact hRoom lang (List.mem_of_find?_eq_some hFound) string hField
  constructor
  case languages =>
    intro langId length s t h hRoom
    have hCount := config.stringDescriptors.property
    have hLength := length_languageBytes config
    have hWriter : Writes (do
        let bytes ← Exec.ofOption .sliceIndex
          (slice? (langIdBytes config) 0 (config.stringDescriptors.val.length * 2))
        DescriptorWriter.write DescriptorType.string bytes)
        (descriptorBytes DescriptorType.string (languageBytes config)) := by
      rw [slice_langIdBytes]
      exact writes_write DescriptorType.string (by omega)
    rw [h.accepts rfl rfl rfl (by rw [stringRequest, descriptorWriter_string, if_pos rfl]) hWriter
      (by change (languageBytes config).length + 2 ≤ _; omega), descriptorBytes, hLength,
      Nat.add_comm 2]
  case own =>
    intro index hIndex langId length s t h hRoom
    rw [h.answers hIndex.ne_zero (hOwn hIndex hRoom), findString_own hIndex]
  case others =>
    intro index hIndex langId length s t h hRoom
    have hNe : index ≠ 0 := fun hZero => absurd (hZero ▸ hIndex) (by decide)
    rw [h.answers hNe ?_, findString_other hIndex]
    intro string hString
    rw [findString_other hIndex] at hString
    obtain ⟨cls, hMem, hFound⟩ := List.exists_of_findSome?_eq_some hString
    exact hRoom cls hMem string hFound
  case device =>
    intro index langId length s t h hRoom
    exact h.accepts rfl rfl rfl descriptorWriter_device writes_device hRoom
  case advertised =>
    intro first hFirst index hIndex length s t h hRoom
    rw [h.answered_iff hIndex.ne_zero (hOwn hIndex hRoom)]
    exact advertisedIndex_ne_zero_iff hFirst hIndex
  case silent =>
    intro hNone index hIndex
    rw [advertisedIndex_own hIndex, hNone]
    rfl

structure LabelClass where
  index : UInt8
  langId : LangID
  label : String

instance : UsbClass LabelClass where
  getString cls index langId :=
    if index.value = cls.index ∧ langId = cls.langId then some cls.label else none

def labels : List LabelClass := [⟨4, .enUs, "port"⟩, ⟨5, .enUs, "lamp"⟩]

def finnish : LangID := ⟨0x040B⟩

def bilingualConfig : Config :=
  { (UsbDeviceBuilder.new ⟨0, 0⟩ []).config with
    stringDescriptors := ⟨[⟨.enUs, none, some "key", some "maker"⟩,
      ⟨finnish, none, some "avain", none⟩], by decide⟩ }

def labelledDevice (req : Request) (trace : List Event) : UsbDevice ScriptBus :=
  { ScriptBus.device ⟨[], [], []⟩ with
    config := bilingualConfig
    control := { ControlPipe.new ⟨⟨[], [], []⟩, trace⟩ (List.replicate 64 0) (.control .out 8)
      (.control .in_ 8) with state := .completeIn req } }

def labelledSession (req : Request) : Session ScriptBus LabelClass := ⟨labelledDevice req [], labels⟩

def passedSession (req : Request) : Session ScriptBus LabelClass :=
  ⟨labelledDevice req [.class_ 0 (.controlIn req), .class_ 1 (.controlIn req)], labels⟩

theorem reaches_labelled (req : Request) :
    Session.Reaches bilingualConfig req (labelledSession req) (passedSession req) := ⟨rfl, rfl, rfl⟩

open Session in
/-- Two languages, and two classes with a string each. -/
theorem strings_resolve_labels :
    let asked (index : UInt8) (langId : LangID) := controlIn (stringRequest index langId 255)
      (labelledSession (stringRequest index langId 255))
    let rest (index : UInt8) (langId : LangID) := passedSession (stringRequest index langId 255)
    asked 0 ⟨0⟩ = acceptWith [6, 3, 0x09, 0x04, 0x0B, 0x04] (rest 0 ⟨0⟩) ∧
    asked 2 finnish = answerString (some "avain") (rest 2 finnish) ∧
    asked 1 finnish = reject (rest 1 finnish) ∧
    asked 5 .enUs = answerString (some "lamp") (rest 5 .enUs) ∧
    controlIn (descriptorRequest DescriptorType.device 0 0 18)
      (labelledSession (descriptorRequest DescriptorType.device 0 0 18)) =
      acceptWith (deviceBytes bilingualConfig)
        (passedSession (descriptorRequest DescriptorType.device 0 0 18)) ∧
    (advertisedIndex bilingualConfig 1 ≠ 0 ↔ asked 1 .enUs ≠ reject (rest 1 .enUs)) ∧
    advertisedIndex (UsbDeviceBuilder.new ⟨0, 0⟩ []).config 1 = 0 := by
  have hStrings : StringsResolve ScriptBus LabelClass bilingualConfig := strings_resolve _
  have hNone : StringsResolve ScriptBus LabelClass (UsbDeviceBuilder.new ⟨0, 0⟩ []).config :=
    strings_resolve _
  refine ⟨hStrings.languages (reaches_labelled _) (by decide),
    hStrings.own (.inr (.inl rfl)) (reaches_labelled _) ?_,
    hStrings.own (.inl rfl) (reaches_labelled _) ?_,
    hStrings.others (by decide : 3 < (5 : UInt8)) (reaches_labelled _) ?_,
    hStrings.device (reaches_labelled _) (by decide),
    hStrings.advertised rfl (.inl rfl) (reaches_labelled _) ?_, hNone.silent rfl (.inl rfl)⟩
  all_goals
    unfold HasRoom
    decide +kernel

end UsbStack
