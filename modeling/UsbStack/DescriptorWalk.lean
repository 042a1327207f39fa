import UsbStack.ConfigurationDescriptor
import UsbStack.Foundation.LengthPrefixed

/-! # Walking descriptors by their length bytes

A host goes from one descriptor to the next by the length byte. The window of 256 bytes that
`write_with` gives to a callback leaves room for a payload of 254 bytes, whose length byte is 0.
-/

namespace UsbStack

set_option autoImplicit false

open Foundation Exec

structure FoundDescriptor where
  bLength : Nat
  descriptorType : UInt8
  payload : List UInt8
  deriving DecidableEq

namespace FoundDescriptor

def ofRecord : List UInt8 → Option FoundDescriptor
  | bLength :: descriptorType :: payload => some ⟨bLength.toNat, descriptorType, payload⟩
  | _ => none

end FoundDescriptor

/-- The reader that advances by `bLength`. -/
def readDescriptors (bytes : List UInt8) : Option (List FoundDescriptor) :=
  readRecords UInt8.toNat FoundDescriptor.ofRecord bytes

structure WrittenDescriptor where
  descriptorType : UInt8
  payload : List UInt8
  deriving DecidableEq

namespace WrittenDescriptor

def bytes (d : WrittenDescriptor) : List UInt8 := descriptorBytes d.descriptorType d.payload

def expected (d : WrittenDescriptor) : FoundDescriptor :=
  ⟨d.payload.length + 2, d.descriptorType, d.payload⟩

end WrittenDescriptor

theorem toNat_toUInt8_of_le {n : Nat} (h : n ≤ 255) : n.toUInt8.toNat = n := by
  rw [Nat.toUInt8, UInt8.toNat_ofNat', Nat.mod_eq_of_lt (by omega)]

theorem sized_descriptorBytes {descriptorType : UInt8} {payload : List UInt8}
    (h : payload.length + 2 ≤ 255) :
    Sized UInt8.toNat (descriptorBytes descriptorType payload) := by
  refine ⟨(payload.length + 2).toUInt8, descriptorType :: payload, rfl, ?_⟩
  rw [toNat_toUInt8_of_le h]
  rfl

theorem ofRecord_descriptorBytes {descriptorType : UInt8} {payload : List UInt8}
    (h : payload.length + 2 ≤ 255) :
    FoundDescriptor.ofRecord (descriptorBytes descriptorType payload) =
      some ⟨payload.length + 2, descriptorType, payload⟩ := by
  rw [descriptorBytes, FoundDescriptor.ofRecord, toNat_toUInt8_of_le h]

theorem FoundDescriptor.bLength_le {record : List UInt8} {found : FoundDescriptor}
    (h : ofRecord record = some found) : found.bLength ≤ 255 := by
  unfold ofRecord at h
  split at h
  · cases h
    exact Nat.le_of_lt_succ (UInt8.toNat_lt _)
  · cases h

/-- The reader finds what was written, unless a length does not fit in its byte. -/
theorem readDescriptors_flatMap_iff (written : List WrittenDescriptor) :
    readDescriptors (written.flatMap WrittenDescriptor.bytes) =
        some (written.map WrittenDescriptor.expected) ↔
      ∀ d ∈ written, d.payload.length + 2 ≤ 255 := by
  constructor
  · intro hRead d hMem
    have hFound : d.expected ∈ written.map WrittenDescriptor.expected := List.mem_map_of_mem hMem
    obtain ⟨record, -, hRecord⟩ := exists_of_mem_readRecords hRead hFound
    exact FoundDescriptor.bLength_le hRecord
  · intro hFits
    apply readRecords_flatMap
    · intro d hMem
      exact sized_descriptorBytes (hFits d hMem)
    · intro d hMem
      exact ofRecord_descriptorBytes (hFits d hMem)

inductive WriteCall where
  | write (descriptorType : UInt8) (descriptor : List UInt8)
  | writeWith (descriptorType : UInt8) (f : SliceFn)

namespace WriteCall

def perform : WriteCall → WriterM Unit
  | write descriptorType descriptor => DescriptorWriter.write descriptorType descriptor
  | writeWith descriptorType f => DescriptorWriter.writeWith descriptorType f

def descriptor (slice : List UInt8) : WriteCall → Option WrittenDescriptor
  | write descriptorType descriptor => some ⟨descriptorType, descriptor⟩
  | writeWith descriptorType f => (f.output slice).map (⟨descriptorType, ·⟩)

def InBounds : WriteCall → Prop
  | write _ _ => True
  | writeWith _ f => f.InBounds

end WriteCall

/-- The descriptors of a sequence of calls that all succeed, and the writer after it. -/
def writeAll : List WriteCall → DescriptorWriter →
    Option (List WrittenDescriptor × DescriptorWriter)
  | [], w => some ([], w)
  | call :: rest, w =>
    match call.perform w with
    | .done (.ok ()) w' => do
      let d ← call.descriptor w.slice
      let (written, last) ← writeAll rest w'
      pure (d :: written, last)
    | _ => none

section WriteAll

open DescriptorWriter

variable {w w' : DescriptorWriter} {call : WriteCall} {calls : List WriteCall}
  {d : WrittenDescriptor} {written : List WrittenDescriptor}

theorem DescriptorWriter.length_slice_le (w : DescriptorWriter) : w.slice.length ≤ 254 := by
  rw [slice, List.length_take, List.length_drop]
  omega

theorem SliceFn.length_output_le {f : SliceFn} (hBounds : f.InBounds) {slice payload : List UInt8}
    (h : f.output slice = some payload) : payload.length ≤ slice.length := by
  unfold output at h
  split at h
  · rename_i hRun
    cases h
    exact Nat.le_trans (List.length_take_le _ _) (hBounds _ _ _ hRun)
  · cases h

theorem length_le_of_write {descriptorType : UInt8} {descriptor : List UInt8}
    (h : write descriptorType descriptor w = .done (.ok ()) w') :
    descriptor.length ≤ w.slice.length := by
  obtain ⟨count, out, hRun, -, -⟩ := wrote_of_writeWith h
  rw [SliceFn.copy_run_apply] at hRun
  split at hRun
  · cases hRun
  · exact Nat.not_lt.mp ‹_›

theorem WriteCall.perform_eq (call : WriteCall) :
    ∃ descriptorType f, call.perform = DescriptorWriter.writeWith descriptorType f := by
  cases call with
  | write descriptorType descriptor => exact ⟨descriptorType, .copy descriptor, rfl⟩
  | writeWith descriptorType f => exact ⟨descriptorType, f, rfl⟩

theorem WriteCall.position_le (h : call.perform w = .done (.ok ()) w') :
    w.position ≤ w.buf.length := by
  obtain ⟨descriptorType, f, hPerform⟩ := call.perform_eq
  rw [hPerform] at h
  obtain ⟨count, out, -, hRoom, -⟩ := wrote_of_writeWith h
  omega

theorem WriteCall.appended (hBounds : call.InBounds) (h : call.perform w = .done (.ok ()) w')
    (hDescriptor : call.descriptor w.slice = some d) :
    Appended d.bytes w w' ∧ d.payload.length ≤ 254 := by
  cases call with
  | write descriptorType descriptor =>
    cases hDescriptor
    exact ⟨appended_of_write h, Nat.le_trans (length_le_of_write h) (length_slice_le w)⟩
  | writeWith descriptorType f =>
    obtain ⟨payload, hOutput, rfl⟩ := Option.map_eq_some_iff.mp hDescriptor
    obtain ⟨payload', hOutput', hAppended⟩ := appended_of_inBounds hBounds h
    cases hOutput.symm.trans hOutput'
    exact ⟨hAppended, Nat.le_trans (SliceFn.length_output_le hBounds hOutput) (length_slice_le w)⟩

/-- The bytes of a sequence of calls are its descriptors one behind the other. -/
theorem written_writeAll (hBounds : ∀ call ∈ calls, call.InBounds)
    (h : writeAll calls w = some (written, w')) :
    w'.written = w.written ++ written.flatMap WrittenDescriptor.bytes ∧
      (calls ≠ [] → w.position ≤ w.buf.length) ∧ ∀ d ∈ written, d.payload.length ≤ 254 := by
  induction calls generalizing w written with
  | nil =>
    cases h
    exact ⟨(List.append_nil _).symm, fun hNil => absurd rfl hNil, by simp⟩
  | cons call rest ih =>
    rw [writeAll] at h
    split at h
    · rename_i mid hDone
      obtain ⟨d, hDescriptor, h⟩ := Option.bind_eq_some_iff.mp h
      obtain ⟨⟨later, last⟩, hRest, hEq⟩ := Option.bind_eq_some_iff.mp h
      cases hEq
      obtain ⟨hAppended, hLength⟩ :=
        WriteCall.appended (hBounds call List.mem_cons_self) hDone hDescriptor
      obtain ⟨hWritten, -, hLater⟩ :=
        ih (fun other hOther => hBounds other (List.mem_cons_of_mem _ hOther)) hRest
      refine ⟨?_, fun _ => ?_, ?_⟩
      · rw [hWritten, hAppended.written, List.flatMap_cons, List.append_assoc]
      · exact WriteCall.position_le hDone
      · rintro other hOther
        rcases List.mem_cons.mp hOther with rfl | hOther
        · exact hLength
        · exact hLater other hOther
    · cases h

theorem drop_written_writeAll (hBounds : ∀ call ∈ calls, call.InBounds)
    (h : writeAll calls w = some (written, w')) :
    w'.written.drop w.position = written.flatMap WrittenDescriptor.bytes := by
  obtain ⟨hWritten, hPosition, -⟩ := written_writeAll hBounds h
  cases calls with
  | nil =>
    cases h
    rw [DescriptorWriter.written, List.drop_take, Nat.sub_self, List.take_zero]
    rfl
  | cons call rest =>
    have hLength : w.written.length = w.position := by
      rw [DescriptorWriter.written, List.length_take,
        Nat.min_eq_left (hPosition (List.cons_ne_nil _ _))]
    rw [hWritten, ← hLength, List.drop_left]

/-- When `write` is refused: the slice is at most 254 bytes long. -/
theorem write_refused_iff {descriptorType : UInt8} {descriptor : List UInt8} :
    (∃ w', write descriptorType descriptor w = .done (.error .bufferOverflow) w') ↔
      w.buf.length < w.position + 2 ∨ w.slice.length < descriptor.length := by
  rw [write, writeWith_apply, SliceFn.copy_run_apply]
  by_cases hRoom : w.buf.length < w.position + 2
  · rw [if_pos hRoom]
    exact iff_of_true ⟨_, rfl⟩ (.inl hRoom)
  · rw [if_neg hRoom]
    have hSlice := length_slice (Nat.not_lt.mp hRoom)
    by_cases hLong : w.slice.length < descriptor.length
    · rw [if_pos hLong]
      exact iff_of_true ⟨_, rfl⟩ (.inr hLong)
    · rw [if_neg hLong]
      dsimp only
      rw [if_neg (by omega)]
      refine iff_of_false ?_ (not_or.mpr ⟨hRoom, hLong⟩)
      rintro ⟨w', hDone⟩
      cases hDone

/-- A payload whose length does not fit in the length byte is refused, except one of 254 bytes. -/
theorem WriteCall.refused_iff (hBounds : call.InBounds)
    (hDescriptor : call.descriptor w.slice = some d) (hLong : 255 < d.payload.length + 2) :
    (∃ w', call.perform w = .done (.error .bufferOverflow) w') ↔
      d.payload.length ≠ 254 ∨ w.buf.length < w.position + 256 := by
  have hWindow : w.slice.length = min w.buf.length (w.position + 256) - (w.position + 2) := by
    rw [slice, List.length_take, List.length_drop]
    omega
  cases call with
  | write descriptorType descriptor =>
    cases hDescriptor
    dsimp only at hLong ⊢
    rw [WriteCall.perform, write_refused_iff, hWindow]
    omega
  | writeWith descriptorType f =>
    -- The callback stays in its slice, so it has filled a window of 254 bytes.
    obtain ⟨payload, hOutput, rfl⟩ := Option.map_eq_some_iff.mp hDescriptor
    have hLength := SliceFn.length_output_le hBounds hOutput
    dsimp only at hLong ⊢
    constructor
    · rintro ⟨w', hDone⟩
      obtain ⟨count, out, hRun, hPayload⟩ : ∃ count out, f.run w.slice = .done (.ok count) out ∧
          payload = out.take count := by
        unfold SliceFn.output at hOutput
        split at hOutput
        · cases hOutput
          exact ⟨_, _, ‹_›, rfl⟩
        · cases hOutput
      have hCount := hBounds _ _ _ hRun
      rw [WriteCall.perform, writeWith_apply, if_neg (by omega), hRun] at hDone
      dsimp only at hDone
      rw [if_neg (by omega)] at hDone
      cases hDone
    · intro hNot
      omega

/-- A reader that advances by the length bytes finds the descriptors that were written exactly when
none of them has 254 bytes of payload, and this is the only length that is wrongly accepted. -/
theorem readDescriptors_writeAll_iff (w : DescriptorWriter) :
    (∀ (calls : List WriteCall) (w' : DescriptorWriter) (written : List WrittenDescriptor),
      (∀ call ∈ calls, call.InBounds) → writeAll calls w = some (written, w') →
      (readDescriptors ((w'.buf.take w'.position).drop w.position) =
          some (written.map WrittenDescriptor.expected) ↔
        ∀ d ∈ written, d.payload.length ≠ 254)) ∧
    (∀ (call : WriteCall) (d : WrittenDescriptor),
      call.InBounds → call.descriptor w.slice = some d → 255 < d.payload.length + 2 →
      ((∃ w', call.perform w = .done (.error .bufferOverflow) w') ↔
        d.payload.length ≠ 254 ∨ w.buf.length < w.position + 256)) := by
  constructor
  · intro calls w' written hBounds h
    obtain ⟨-, -, hLengths⟩ := written_writeAll hBounds h
    change readDescriptors (w'.written.drop w.position) = _ ↔ _
    rw [drop_written_writeAll hBounds h, readDescriptors_flatMap_iff]
    constructor
    · intro hFits d hMem
      have hFit := hFits d hMem
      omega
    · intro hNot d hMem
      have hLength := hLengths d hMem
      have hOther := hNot d hMem
      omega
  · intro call d hBounds hDescriptor hLong
    exact WriteCall.refused_iff hBounds hDescriptor hLong

theorem readDescriptors_writeAll_zero_length :
    (writeAll [.write 0x24 (List.replicate 254 0)] (.new (List.replicate 256 0))).map
        (fun result => (result.1, result.2.position, result.2.buf[0]?,
          readDescriptors ((result.2.buf.take result.2.position).drop 0))) =
      some ([⟨0x24, List.replicate 254 0⟩], 256, some 0, none) ∧
    ¬ ∃ w', (WriteCall.write 0x24 (List.replicate 254 0)).perform (.new (List.replicate 256 0)) =
      .done (.error .bufferOverflow) w' := by
  constructor
  · decide +kernel
  · rw [WriteCall.perform, write_refused_iff]
    decide +kernel

/-- A descriptor of four bytes and one of three, and a payload that is refused. -/
theorem readDescriptors_writeAll_iff_two :
    (∃ w', writeAll [.write 0x24 [1, 2], .writeWith 0x25 (.copy [3])]
        (.new (List.replicate 16 0)) = some ([⟨0x24, [1, 2]⟩, ⟨0x25, [3]⟩], w') ∧
      readDescriptors ((w'.buf.take w'.position).drop 0) = some [⟨4, 0x24, [1, 2]⟩, ⟨3, 0x25, [3]⟩]) ∧
    ∃ w', (WriteCall.write 0x24 (List.replicate 255 0)).perform (.new (List.replicate 300 0)) =
      .done (.error .bufferOverflow) w' := by
  constructor
  · have hBounds : ∀ call ∈ [WriteCall.write 0x24 [1, 2], .writeWith 0x25 (.copy [3])],
        call.InBounds := by
      intro call hCall
      simp only [List.mem_cons, List.not_mem_nil, or_false] at hCall
      rcases hCall with rfl | rfl
      · trivial
      · exact SliceFn.inBounds_copy [3]
    have hWrites : (writeAll [.write 0x24 [1, 2], .writeWith 0x25 (.copy [3])]
        (.new (List.replicate 16 0))).map Prod.fst = some [⟨0x24, [1, 2]⟩, ⟨0x25, [3]⟩] := by
      decide +kernel
    obtain ⟨⟨_, w'⟩, hWrite, rfl⟩ := Option.map_eq_some_iff.mp hWrites
    exact ⟨w', hWrite, ((readDescriptors_writeAll_iff _).1 _ _ _ hBounds hWrite).mpr (by decide)⟩
  · exact ((readDescriptors_writeAll_iff (.new (List.replicate 300 0))).2
      (.write 0x24 (List.replicate 255 0)) ⟨0x24, List.replicate 255 0⟩ trivial rfl
      (by decide +kernel)).mpr (.inl (by decide +kernel))

end WriteAll

end UsbStack
