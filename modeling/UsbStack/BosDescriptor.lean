import UsbStack.StringDescriptor

/-! # The BOS descriptor

The capabilities that have been written determine the bytes that the writer has produced. The
number of capabilities in the header is a byte that the writer goes back to.
-/

namespace UsbStack

set_option autoImplicit false

open Foundation Exec

namespace BosCall

def bytes (call : BosCall) : List UInt8 :=
  descriptorBytes DescriptorType.capability (call.capabilityType :: call.data)

def usb20Extension : BosCall := ⟨CapabilityType.usb20Extension, List.replicate 4 0⟩

def expected (call : BosCall) : FoundDescriptor :=
  ⟨call.data.length + 3, DescriptorType.capability, call.capabilityType :: call.data⟩

end BosCall

def bosHeader (total count : Nat) : List UInt8 :=
  descriptorBytes DescriptorType.bos (toLeBytes total.toUInt16 ++ [count.toUInt8])

/-- The capabilities of a class, and the writer after it; `none` if a call fails. -/
def BosProgram.calls : BosProgram → BosWriter → Option (List BosCall × BosWriter)
  | .ret (.ok ()), b => some ([], b)
  | .ret (.error _), _ => none
  | .panic, _ => none
  | .call call next, b =>
    match BosWriter.capability call.capabilityType call.data b with
    | .done (.ok ()) b' => do
      let (rest, last) ← calls (next (.ok ())) b'
      pure (call :: rest, last)
    | _ => none

def classCapabilities {C : Type} [UsbClass C] :
    List C → BosWriter → Option (List BosCall × BosWriter)
  | [], b => some ([], b)
  | cls :: rest, b => do
    let (first, b) ← BosProgram.calls (UsbClass.getBosDescriptors cls) b
    let (later, b) ← classCapabilities rest b
    pure (first ++ later, b)

/-- The capabilities of the classes, when the header fits and every call succeeds. -/
def bosCapabilities {C : Type} [UsbClass C] (classes : List C) (buf : List UInt8) :
    Option (List BosCall) :=
  match BosWriter.bos (.new (.new buf)) with
  | .done (.ok ()) b => (classCapabilities classes b).map Prod.fst
  | _ => none

namespace DescriptorWriter

theorem increment_apply {w : DescriptorWriter} {mark : Nat} {count : UInt8}
    (h : w.buf[mark]? = some count) :
    increment mark w = if count = 255 then .panic .overflow
      else .done (.ok ()) { w with buf := w.buf.set mark (count + 1) } := by
  rw [increment, bind_apply, get_apply]
  dsimp only
  rw [h]
  dsimp only
  split <;> rfl

theorem setBytes_copyTo {w : DescriptorWriter} {start : Nat} {a b c : UInt8} {data : List UInt8}
    (hRoom : start + 3 + data.length ≤ w.buf.length) (position : Nat) :
    (do
      setByte start a
      setByte (start + 1) b
      setByte (start + 2) c
      copyTo (start + 3) (start + 3 + data.length) data
      modify fun w => { w with position := position } : WriterM Unit) w =
      .done (.ok ()) { w with
        buf := overwrite w.buf start (a :: b :: c :: data), position := position } := by
  have hData : overwrite (((w.buf.set start a).set (start + 1) b).set (start + 2) c) (start + 3)
      data = overwrite w.buf start (a :: b :: c :: data) := by
    apply List.ext_getElem?
    intro k
    rw [getElem?_overwrite (by simp only [List.length_set]; omega), getElem?_overwrite (by omega)]
    simp only [List.getElem?_set, List.length_set, List.length_cons, List.getElem?_cons]
    grind
  rw [bind_of_ok (setByte_apply (by omega) _),
    bind_of_ok (setByte_apply (by simp only [List.length_set]; omega) _),
    bind_of_ok (setByte_apply (by simp only [List.length_set]; omega) _),
    bind_of_ok (copyTo_apply (Nat.le_add_right _ _) (by simp only [List.length_set]; omega))]
  dsimp only
  rw [hData]
  rfl

end DescriptorWriter

namespace BosWriter

def counted (b : BosWriter) (mark : Nat) (count : UInt8) : BosWriter :=
  { b with writer := { b.writer with buf := b.writer.buf.set mark (count + 1) } }

def added (b : BosWriter) (call : BosCall) : BosWriter :=
  { b with writer := { b.writer with
      buf := overwrite b.writer.buf b.writer.position call.bytes
      position := b.writer.position + (call.data.length + 3) } }

/-- The count goes up before the capability is known to fit. -/
theorem capability_apply {b : BosWriter} {mark : Nat} {count : UInt8} (call : BosCall)
    (hMark : b.numCapsMark = some mark) (hCount : b.writer.buf[mark]? = some count) :
    capability call.capabilityType call.data b =
      if count = 255 then .panic .overflow
      else if b.writer.buf.length < b.writer.position + call.data.length + 3 ∨
          255 < call.data.length + 3 then
        .done (.error .bufferOverflow) (b.counted mark count)
      else .done (.ok ()) ((b.counted mark count).added call) := by
  rw [capability, bind_apply, get_apply]
  dsimp only
  rw [hMark, DescriptorWriter.incrementMark]
  by_cases hFull : count = 255
  · rw [if_pos hFull, bind_of_panic]
    rw [onWriter, zoom_apply, DescriptorWriter.increment_apply hCount, if_pos hFull]
  · have hIncrement : onWriter (DescriptorWriter.increment mark) b =
        .done (.ok ()) (b.counted mark count) := by
      rw [onWriter, zoom_apply, DescriptorWriter.increment_apply hCount, if_neg hFull]
      rfl
    rw [if_neg hFull, bind_of_ok hIncrement]
    split
    · rfl
    · have hRoom : b.writer.position + 3 + call.data.length ≤
          (b.counted mark count).writer.buf.length := by
        rw [counted, List.length_set]
        omega
      have hEnd : b.writer.position + 3 + call.data.length =
          b.writer.position + (call.data.length + 3) := by omega
      rw [onWriter, zoom_apply, DescriptorWriter.setBytes_copyTo hRoom, hEnd]
      rfl

end BosWriter

structure Capabilities (caps : List BosCall) (b : BosWriter) : Prop where
  written : b.writer.written = bosHeader 0 caps.length ++ caps.flatMap BosCall.bytes
  room : b.writer.position ≤ b.writer.buf.length
  numCapsMark : b.numCapsMark = some 4
  count_le : caps.length ≤ 255
  length_le : ∀ call ∈ caps, call.data.length + 3 ≤ 255

section Capabilities

variable {caps : List BosCall} {b b' : BosWriter} {cap : BosCall}

theorem Capabilities.position (h : Capabilities caps b) :
    b.writer.position = 5 + (caps.flatMap BosCall.bytes).length := by
  have hLength : b.writer.written.length = b.writer.position := by
    rw [DescriptorWriter.written, List.length_take, Nat.min_eq_left h.room]
  rw [← hLength, h.written, List.length_append]
  rfl

theorem Capabilities.count (h : Capabilities caps b) :
    b.writer.buf[4]? = some caps.length.toUInt8 := by
  have hPosition : 4 < b.writer.position := by
    rw [h.position]
    omega
  rw [← DescriptorWriter.getElem?_written hPosition, h.written]
  rfl

theorem Capabilities.capability_apply (h : Capabilities caps b) (cap : BosCall) :
    BosWriter.capability cap.capabilityType cap.data b =
      if caps.length = 255 then .panic .overflow
      else if b.writer.buf.length < b.writer.position + cap.data.length + 3 ∨
          255 < cap.data.length + 3 then
        .done (.error .bufferOverflow) (b.counted 4 caps.length.toUInt8)
      else .done (.ok ()) ((b.counted 4 caps.length.toUInt8).added cap) := by
  have hFull : caps.length.toUInt8 = 255 ↔ caps.length = 255 := by
    rw [← UInt8.toNat_inj, toNat_toUInt8_of_le h.count_le]
    rfl
  rw [BosWriter.capability_apply cap h.numCapsMark h.count]
  exact if_congr hFull rfl rfl

theorem Capabilities.added (h : Capabilities caps b) (hCount : caps.length < 255)
    (hRoom : b.writer.position + cap.data.length + 3 ≤ b.writer.buf.length)
    (hByte : cap.data.length + 3 ≤ 255) :
    Capabilities (caps ++ [cap]) ((b.counted 4 caps.length.toUInt8).added cap) where
  written := by
    have hStart : b.writer.position ≤ (b.writer.buf.set 4 (caps.length.toUInt8 + 1)).length := by
      rw [List.length_set]
      exact h.room
    have hWritten : ((b.counted 4 caps.length.toUInt8).added cap).writer.written =
        (b.writer.buf.set 4 (caps.length.toUInt8 + 1)).take b.writer.position ++ cap.bytes :=
      take_overwrite cap.bytes hStart
    have hHeader : (b.writer.buf.set 4 (caps.length.toUInt8 + 1)).take b.writer.position =
        bosHeader 0 (caps.length + 1) ++ caps.flatMap BosCall.bytes := by
      rw [List.take_set]
      change b.writer.written.set 4 _ = _
      rw [h.written, ← Record.toUInt8_succ]
      rfl
    rw [hWritten, hHeader, List.length_append, List.flatMap_append, List.flatMap_singleton,
      List.append_assoc]
    rfl
  room := by
    have hLength : (overwrite (b.writer.buf.set 4 (caps.length.toUInt8 + 1)) b.writer.position
        cap.bytes).length = (b.writer.buf.set 4 (caps.length.toUInt8 + 1)).length := by
      refine length_overwrite ?_
      rw [List.length_set]
      change b.writer.position + (cap.data.length + 3) ≤ _
      omega
    refine Nat.le_trans ?_ (Nat.le_of_eq hLength.symm)
    change b.writer.position + (cap.data.length + 3) ≤ _
    rw [List.length_set]
    omega
  numCapsMark := h.numCapsMark
  count_le := by
    rw [List.length_append]
    exact hCount
  length_le := by
    intro other hOther
    rcases List.mem_append.mp hOther with hOther | hOther
    · exact h.length_le other hOther
    · rw [List.mem_singleton.mp hOther]
      exact hByte

/-- A successful call adds its capability. -/
theorem Capabilities.call (h : Capabilities caps b)
    (hDone : BosWriter.capability cap.capabilityType cap.data b = .done (.ok ()) b') :
    Capabilities (caps ++ [cap]) b' := by
  rw [h.capability_apply] at hDone
  split at hDone
  · cases hDone
  · rename_i hFull
    split at hDone
    · cases hDone
    · rename_i hFits
      cases hDone
      have hCount := h.count_le
      exact h.added (by omega) (by omega) (by omega)

/-- Below 255 capabilities, a call succeeds exactly when it fits in the buffer and in a byte. -/
theorem Capabilities.call_iff (h : Capabilities caps b) (hCount : caps.length < 255)
    (cap : BosCall) :
    (∃ b', BosWriter.capability cap.capabilityType cap.data b = .done (.ok ()) b') ↔
      3 + cap.data.length ≤ 255 ∧
        b.writer.position + (3 + cap.data.length) ≤ b.writer.buf.length := by
  rw [h.capability_apply, if_neg (Nat.ne_of_lt hCount)]
  split
  · rename_i hLong
    refine iff_of_false ?_ (by omega)
    rintro ⟨b', hDone⟩
    cases hDone
  · rename_i hFits
    exact iff_of_true ⟨_, rfl⟩ (by omega)

theorem capabilities_bos {buf : List UInt8}
    (hDone : BosWriter.bos (.new (.new buf)) = .done (.ok ()) b) :
    Capabilities [.usb20Extension] b := by
  obtain ⟨_, _, ⟨⟩, hDone⟩ := of_bind_ok hDone
  obtain ⟨_, headed, hHeader, hDone⟩ := of_bind_ok hDone
  rw [BosWriter.onWriter, zoom_apply] at hHeader
  split at hHeader
  · rename_i r w hWrite
    cases hHeader
    have hAppended := DescriptorWriter.appended_of_write hWrite
    have hHeaded : Capabilities [] { writer := w, numCapsMark := some 4 } :=
      ⟨hAppended.written, hAppended.room, rfl, Nat.zero_le _, by simp⟩
    have hBuiltin : BosWriter.capability BosCall.usb20Extension.capabilityType
        BosCall.usb20Extension.data { writer := w, numCapsMark := some 4 } = .done (.ok ()) b := hDone
    exact hHeaded.call hBuiltin
  · cases hHeader

theorem Capabilities.forM {calls : List BosCall} (h : Capabilities caps b)
    (hDone : (calls.forM fun call =>
      BosWriter.capability call.capabilityType call.data : BosM Unit) b = .done (.ok ()) b') :
    Capabilities (caps ++ calls) b' := by
  induction calls generalizing caps b with
  | nil =>
    cases hDone
    rw [List.append_nil]
    exact h
  | cons call rest ih =>
    obtain ⟨_, mid, hCall, hRest⟩ := of_bind_ok hDone
    have hNext := ih (h.call hCall) hRest
    rwa [List.append_assoc] at hNext

/-- The calls of one class add their capabilities. -/
theorem Capabilities.program {program : BosProgram} {calls : List BosCall}
    (h : Capabilities caps b) (hCalls : program.calls b = some (calls, b')) :
    program.run b = .done (.ok ()) b' ∧ Capabilities (caps ++ calls) b' := by
  suffices program.interp (fun call =>
      attempt (BosWriter.capability call.capabilityType call.data)) .foreign b =
        .done (.ok (.ok ())) b' ∧ Capabilities (caps ++ calls) b' by
    refine ⟨?_, this.2⟩
    rw [BosProgram.run, bind_of_ok this.1]
    rfl
  induction program generalizing caps b calls with
  | ret result =>
    cases result with
    | error e => cases hCalls
    | ok u =>
      cases hCalls
      rw [List.append_nil]
      exact ⟨rfl, h⟩
  | panic => cases hCalls
  | call call next ih =>
    rw [BosProgram.calls] at hCalls
    split at hCalls
    · rename_i mid hDone
      obtain ⟨⟨rest, last⟩, hRest, hEq⟩ := Option.bind_eq_some_iff.mp hCalls
      cases hEq
      obtain ⟨hInterp, hNext⟩ := ih (.ok ()) (h.call hDone) hRest
      rw [List.append_assoc] at hNext
      refine ⟨?_, hNext⟩
      rw [Program.interp, bind_of_ok (attempt_of_done hDone)]
      exact hInterp
    · cases hCalls

theorem Capabilities.classes {C : Type} [UsbClass C] {classes : List C} {calls : List BosCall}
    (h : Capabilities caps b) (hCalls : classCapabilities classes b = some (calls, b')) :
    (classes.forM fun cls => (UsbClass.getBosDescriptors cls).run : BosM Unit) b =
      .done (.ok ()) b' ∧ Capabilities (caps ++ calls) b' := by
  induction classes generalizing caps b calls with
  | nil =>
    cases hCalls
    rw [List.append_nil]
    exact ⟨rfl, h⟩
  | cons cls rest ih =>
    obtain ⟨⟨first, mid⟩, hFirst, hRest⟩ := Option.bind_eq_some_iff.mp hCalls
    obtain ⟨⟨later, last⟩, hLater, hEq⟩ := Option.bind_eq_some_iff.mp hRest
    cases hEq
    obtain ⟨hRun, hNext⟩ := h.program hFirst
    obtain ⟨hForM, hAll⟩ := ih hNext hLater
    rw [List.append_assoc] at hAll
    exact ⟨(bind_of_ok hRun).trans hForM, hAll⟩

def bosBytes (caps : List BosCall) : List UInt8 :=
  bosHeader (5 + (caps.flatMap BosCall.bytes).length) caps.length ++ caps.flatMap BosCall.bytes

/-- The total length goes into the header. -/
theorem Capabilities.endBos (h : Capabilities caps b) :
    ∃ b', BosWriter.endBos b = .done (.ok ()) b' ∧ b'.writer.position = (bosBytes caps).length ∧
      b'.writer.written = bosBytes caps ∧ b'.writer.position ≤ b'.writer.buf.length := by
  have hPosition := h.position
  have hFits : 2 + (toLeBytes b.writer.position.toUInt16).length ≤ b.writer.position := by
    change 2 + 2 ≤ _
    omega
  obtain ⟨w, hCopy, hSame, hWritten, hLength⟩ := DescriptorWriter.copyTo_written hFits h.room
  change DescriptorWriter.copyTo 2 4 (toLeBytes b.writer.position.toUInt16) b.writer = _ at hCopy
  refine ⟨⟨w, none⟩, ?_, ?_, ?_, ?_⟩
  · rw [BosWriter.endBos, bind_apply, modify_apply]
    dsimp only
    rw [bind_apply, get_apply]
    dsimp only
    rw [BosWriter.onWriter, zoom_apply, hCopy]
  · rw [bosBytes, List.length_append, hSame]
    exact hPosition
  · rw [hWritten, h.written, hPosition]
    rfl
  · rw [hSame, hLength]
    exact h.room

theorem readDescriptors_flatMap_bytes {caps : List BosCall}
    (h : ∀ cap ∈ caps, cap.data.length + 3 ≤ 255) :
    readDescriptors (caps.flatMap BosCall.bytes) = some (caps.map BosCall.expected) := by
  apply readRecords_flatMap
  · intro cap hCap
    exact sized_descriptorBytes (h cap hCap)
  · intro cap hCap
    exact ofRecord_descriptorBytes (h cap hCap)

end Capabilities

/-- The answer to GET_DESCRIPTOR(BOS) when the header fits and every call of the classes succeeds,
and which calls succeed. -/
theorem bosDescriptor_exact {C : Type} [UsbClass C] (config : Config) :
    (∀ (classes : List C) (req : Request) (buf : List UInt8) (caps : List BosCall),
      req.descriptorTypeIndex.1 = DescriptorType.bos → UsbRev.usb200.toU16 < config.usbRev.toU16 →
      buf.length ≤ 65535 → bosCapabilities classes buf = some caps →
      ∃ f total buf', descriptorWriter config classes req = some f ∧
        acceptWriter f buf = .done (.ok total) buf' ∧ total ≤ buf'.length ∧ total ≤ 65535 ∧
        buf'.take 5 = [5, DescriptorType.bos] ++ toLeBytes (UInt16.ofNat total) ++
          [UInt8.ofNat (caps.length + 1)] ∧ caps.length + 1 ≤ 255 ∧
        readDescriptors ((buf'.take total).drop 5) =
          some ((BosCall.usb20Extension :: caps).map BosCall.expected)) ∧
    (∀ (buf : List UInt8) (calls : List BosCall) (b : BosWriter) (call : BosCall),
      (do
        BosWriter.bos
        calls.forM fun call => BosWriter.capability call.capabilityType call.data : BosM Unit)
          (.new (.new buf)) = .done (.ok ()) b → calls.length + 1 < 255 →
      ((∃ b', BosWriter.capability call.capabilityType call.data b = .done (.ok ()) b') ↔
        3 + call.data.length ≤ 255 ∧
          b.writer.position + (3 + call.data.length) ≤ b.writer.buf.length)) := by
  constructor
  · intro classes req buf caps hType hRev hBuf hCaps
    unfold bosCapabilities at hCaps
    split at hCaps
    · rename_i headed hBos
      obtain ⟨⟨calls, last⟩, hClasses, hEq⟩ := Option.map_eq_some_iff.mp hCaps
      obtain rfl : calls = caps := hEq
      obtain ⟨hForM, hAll⟩ := (capabilities_bos hBos).classes hClasses
      obtain ⟨b', hEnd, hPosition, hWritten, hRoom⟩ := hAll.endBos
      have hDone : bosDescriptors classes (.new (.new buf)) = .done (.ok ()) b' := by
        rw [bosDescriptors, bind_of_ok hBos, bind_of_ok hForM]
        exact hEnd
      have hLength : b'.writer.buf.length = buf.length :=
        (within_bosDescriptors classes).of_done hDone
      have hTotal : (bosBytes ([.usb20Extension] ++ calls)).length =
          5 + (([BosCall.usb20Extension] ++ calls).flatMap BosCall.bytes).length :=
        List.length_append
      have hTake : b'.writer.buf.take b'.writer.position = bosBytes ([.usb20Extension] ++ calls) :=
        hWritten
      refine ⟨zoom BosWriter.new (fun b _ => b.writer) (bosDescriptors classes),
        b'.writer.position, b'.writer.buf, ?_, ?_, hRoom, by omega, ?_, hAll.count_le, ?_⟩
      · have hHigh : (req.value >>> 8).toUInt8 = DescriptorType.bos := hType
        rw [descriptorWriter, Request.descriptorTypeIndex]
        dsimp only
        rw [hHigh, if_pos ⟨rfl, hRev⟩]
      · rw [acceptWriter, zoom_apply, hDone]
      · have hFive : b'.writer.buf.take 5 = (b'.writer.buf.take b'.writer.position).take 5 := by
          rw [List.take_take, Nat.min_eq_left (by omega)]
        rw [hFive, hTake, hPosition, hTotal]
        rfl
      · rw [hTake]
        exact readDescriptors_flatMap_bytes hAll.length_le
    · cases hCaps
  · intro buf calls b call hDone hCount
    obtain ⟨_, headed, hBos, hCalls⟩ := of_bind_ok hDone
    have hAll := (capabilities_bos hBos).forM hCalls
    exact hAll.call_iff (by rw [List.length_append]; exact Nat.add_comm 1 _ ▸ hCount) call

structure CapabilityClass where

instance : UsbClass CapabilityClass where
  getBosDescriptors _ :=
    .call ⟨5, [1, 2, 3]⟩ fun _ => .call ⟨4, []⟩ fun result => .ret result

/-- One class with two capabilities. -/
theorem bosDescriptor_exact_capability :
    (∃ f total buf', descriptorWriter
        (UsbDeviceBuilder.new ⟨0, 0⟩ []).config [CapabilityClass.mk]
        ⟨.in_, .standard, .device, 6, 0xf00, 0, 255⟩ = some f ∧
      acceptWriter f (List.replicate 32 0) = .done (.ok total) buf' ∧
      readDescriptors ((buf'.take total).drop 5) =
        some [⟨7, 16, [2, 0, 0, 0, 0]⟩, ⟨6, 16, [5, 1, 2, 3]⟩, ⟨3, 16, [4]⟩]) ∧
    ∀ b, BosWriter.bos (.new (.new (List.replicate 32 0))) = .done (.ok ()) b →
      ((∃ b', BosWriter.capability 5 (List.replicate 30 0) b = .done (.ok ()) b') ↔
        3 + 30 ≤ 255 ∧ b.writer.position + (3 + 30) ≤ b.writer.buf.length) := by
  constructor
  · have hCaps : bosCapabilities [CapabilityClass.mk] (List.replicate 32 0) =
        some [⟨5, [1, 2, 3]⟩, ⟨4, []⟩] := rfl
    obtain ⟨f, total, buf', hWriter, hDone, -, -, -, -, hRead⟩ :=
      (bosDescriptor_exact (UsbDeviceBuilder.new ⟨0, 0⟩ []).config).1
        [CapabilityClass.mk] ⟨.in_, .standard, .device, 6, 0xf00, 0, 255⟩ (List.replicate 32 0) _
        rfl (by decide) (by decide) hCaps
    exact ⟨f, total, buf', hWriter, hDone, hRead⟩
  · intro b hBos
    have hDone : (do
        BosWriter.bos
        ([] : List BosCall).forM fun call => BosWriter.capability call.capabilityType call.data :
          BosM Unit) (.new (.new (List.replicate 32 0))) = .done (.ok ()) b := bind_of_ok hBos
    exact (bosDescriptor_exact (C := CapabilityClass) (UsbDeviceBuilder.new ⟨0, 0⟩ []).config).2
      (List.replicate 32 0) [] b ⟨5, List.replicate 30 0⟩ hDone (by decide)

end UsbStack
