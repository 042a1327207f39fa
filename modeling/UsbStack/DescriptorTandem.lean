import UsbStack.DescriptorRoom
import UsbStack.Foundation.Lockstep

/-! # Descriptors do not show what the buffer held

Two writers over buffers of one length write the same descriptor, whatever the buffers held, as long
as the callbacks of the classes do not look at their slices and no class goes on after a failed call.
-/

namespace UsbStack

set_option autoImplicit false

open Foundation Exec

/-- The bytes that are counted are in the slice, and the same in both. -/
def SameOutput (r : Except UsbError Nat) (out out' : List UInt8) : Prop :=
  ∀ count, r = .ok count → count ≤ out.length ∧ out'.take count = out.take count

/-- A callback whose result and output do not depend on what its slice held. -/
def SliceFn.Blind (f : SliceFn) : Prop :=
  ∀ slice slice' : List UInt8, slice'.length = slice.length →
    Agree SameOutput (f.run slice) (f.run slice')

theorem SliceFn.blind_copy (data : List UInt8) : (SliceFn.copy data).Blind := by
  intro slice slice' hLength
  have hTake (buf : List UInt8) : (overwrite buf 0 data).take data.length = data := by
    simpa using take_overwrite data (Nat.zero_le buf.length)
  rw [SliceFn.copy_run_apply, SliceFn.copy_run_apply, hLength]
  by_cases hLong : slice.length < data.length
  · rw [if_pos hLong, if_pos hLong]
    exact ⟨rfl, fun count hOk => by cases hOk⟩
  · rw [if_neg hLong, if_neg hLong]
    refine ⟨rfl, ?_⟩
    rintro _ ⟨⟩
    rw [length_overwrite (by omega), hTake, hTake]
    exact ⟨Nat.not_lt.mp hLong, rfl⟩

namespace DescriptorCall

def Blind (call : DescriptorCall) : Prop := ∀ f, call.callback = some f → f.Blind

end DescriptorCall

/-- Code of a class that uses no callback that looks at its slice, and returns after a failed call. -/
def DescriptorProgram.Blind (program : DescriptorProgram) : Prop :=
  Program.Stops DescriptorCall.Failed DescriptorCall.Blind program

namespace DescriptorWriter

/-- Two writers that have written the same into buffers of one length. -/
structure Level (w w' : DescriptorWriter) : Prop where
  length : w'.buf.length = w.buf.length
  position : w'.position = w.position
  written : w'.written = w.written
  numInterfacesMark : w'.numInterfacesMark = w.numInterfacesMark
  numEndpointsMark : w'.numEndpointsMark = w.numEndpointsMark
  writeIads : w'.writeIads = w.writeIads
  room : w.position ≤ w.buf.length

structure Marked (w w' : DescriptorWriter) : Prop extends Level w w' where
  mark : w.numInterfacesMark = some 4
  interfaces : 4 < w.position

structure Paired (w w' : DescriptorWriter) : Prop extends Marked w w' where
  endpoints : ∀ mark, w.numEndpointsMark = some mark → mark < w.position

structure Beyond (w t : DescriptorWriter) : Prop where
  position : w.position ≤ t.position
  numInterfacesMark : t.numInterfacesMark = w.numInterfacesMark
  numEndpointsMark : t.numEndpointsMark = w.numEndpointsMark

variable {w w' t t' : DescriptorWriter}

theorem level_new {buf buf' : List UInt8} (hLength : buf'.length = buf.length) :
    Level (.new buf) (.new buf') :=
  ⟨hLength, rfl, rfl, rfl, rfl, rfl, Nat.zero_le _⟩

theorem Marked.beyond (h : Marked w w') (ht : Level t t') (hBeyond : Beyond w t) : Marked t t' :=
  ⟨ht, hBeyond.numInterfacesMark.trans h.mark, Nat.lt_of_lt_of_le h.interfaces hBeyond.position⟩

theorem Paired.beyond (h : Paired w w') (ht : Level t t') (hBeyond : Beyond w t) : Paired t t' :=
  ⟨h.toMarked.beyond ht hBeyond, fun mark hMark => Nat.lt_of_lt_of_le
    (h.endpoints mark (hBeyond.numEndpointsMark ▸ hMark)) hBeyond.position⟩

theorem Level.overwritten (h : Level w w') {start : Nat} {out out' : List UInt8}
    (hOut : out'.length = out.length) (hStart : w.position ≤ start)
    (hRoom : start + out.length ≤ w.buf.length) :
    Level { w with buf := overwrite w.buf start out } { w' with buf := overwrite w'.buf start out' } where
  length := by
    rw [length_overwrite hRoom, length_overwrite (by rw [hOut, h.length]; exact hRoom), h.length]
  position := h.position
  written := by
    have hSame := h.written
    simp only [DescriptorWriter.written] at hSame ⊢
    rw [take_overwrite_of_ge out hStart (by omega), take_overwrite_of_ge out'
      (h.position ▸ hStart) (by rw [h.length]; omega), hSame]
  numInterfacesMark := h.numInterfacesMark
  numEndpointsMark := h.numEndpointsMark
  writeIads := h.writeIads
  room := by
    rw [length_overwrite hRoom]
    exact h.room

theorem Level.length_slice_eq (h : Level w w') : w'.slice.length = w.slice.length := by
  simp only [slice, List.length_take, List.length_drop, h.length, h.position]

theorem Level.wrote (h : Level w w') {descriptorType : UInt8} {count : Nat} {out out' : List UInt8}
    (hOut : out'.length = out.length) (hFits : w.position + 2 + out.length ≤ w.buf.length)
    (hRoom : w.position + (count + 2) ≤ w.buf.length) (hCount : count ≤ out.length)
    (hSame : out'.take count = out.take count) :
    Level (w.wrote descriptorType count out) (w'.wrote descriptorType count out') where
  length := by
    simp only [DescriptorWriter.wrote, List.length_set]
    rw [length_overwrite hFits,
      length_overwrite (by rw [h.position, hOut, h.length]; exact hFits), h.length]
  position := congrArg (· + (count + 2)) h.position
  written := by
    rw [written_wrote descriptorType hRoom hFits,
      written_wrote descriptorType (by rw [h.position, h.length]; exact hRoom)
        (by rw [h.position, hOut, h.length]; exact hFits),
      payload_of_le w hCount, payload_of_le w' (hOut ▸ hCount), h.written, hSame]
  numInterfacesMark := h.numInterfacesMark
  numEndpointsMark := h.numEndpointsMark
  writeIads := h.writeIads
  room := by
    simp only [DescriptorWriter.wrote, List.length_set]
    rw [length_overwrite hFits]
    exact hRoom

/-- A blind callback writes the same into both buffers. -/
theorem agree_writeWith (h : Level w w') (descriptorType : UInt8) {f : SliceFn} (hf : f.Blind) :
    Agree (fun _ t t' => Level t t' ∧ Beyond w t) (writeWith descriptorType f w)
      (writeWith descriptorType f w') := by
  rw [writeWith_apply, writeWith_apply, h.length, h.position]
  by_cases hHeader : w.buf.length < w.position + 2
  · rw [if_pos hHeader, if_pos hHeader]
    exact ⟨rfl, h, Nat.le_refl _, rfl, rfl⟩
  · rw [if_neg hHeader, if_neg hHeader]
    have hAgree := hf w.slice w'.slice h.length_slice_eq
    cases hRun : f.run w.slice <;> cases hRun' : f.run w'.slice <;> rw [hRun, hRun'] at hAgree
    · rename_i r out r' out'
      obtain ⟨rfl, hSame⟩ := hAgree
      have hLength : out.length = w.slice.length := f.length_eq.of_done hRun
      have hLength' : out'.length = w'.slice.length := f.length_eq.of_done hRun'
      have hOut : out'.length = out.length := by rw [hLength, hLength', h.length_slice_eq]
      have hFits : w.position + 2 + out.length ≤ w.buf.length := by
        rw [hLength]
        exact length_slice (Nat.not_lt.mp hHeader)
      have hStopped := h.overwritten hOut (Nat.le_add_right _ 2) hFits
      rw [h.position] at hStopped
      cases r with
      | error e => exact ⟨rfl, hStopped, Nat.le_refl _, rfl, rfl⟩
      | ok count =>
        dsimp only
        by_cases hEnd : w.buf.length < w.position + (count + 2)
        · rw [if_pos hEnd, if_pos hEnd]
          split
          · rfl
          · exact ⟨rfl, hStopped, Nat.le_refl _, rfl, rfl⟩
        · rw [if_neg hEnd, if_neg hEnd]
          obtain ⟨hCount, hTake⟩ := hSame count rfl
          exact ⟨rfl, h.wrote hOut hFits (Nat.not_lt.mp hEnd) hCount hTake, Nat.le_add_right _ _,
            rfl, rfl⟩
    · exact hAgree.elim
    · exact hAgree.elim
    · exact hAgree

theorem agree_write (h : Level w w') (descriptorType : UInt8) (descriptor : List UInt8) :
    Agree (fun _ t t' => Level t t' ∧ Beyond w t) (write descriptorType descriptor w)
      (write descriptorType descriptor w') :=
  agree_writeWith h descriptorType (SliceFn.blind_copy descriptor)

theorem Level.set (h : Level w w') (mark : Nat) (value : UInt8) :
    Level { w with buf := w.buf.set mark value } { w' with buf := w'.buf.set mark value } where
  length := by rw [List.length_set, List.length_set, h.length]
  position := h.position
  written := by rw [written_set, written_set, h.written]
  numInterfacesMark := h.numInterfacesMark
  numEndpointsMark := h.numEndpointsMark
  writeIads := h.writeIads
  room := by
    rw [List.length_set]
    exact h.room

/-- The total length goes into the header. -/
theorem Level.copied (h : Level w w') {total : UInt16} (hHeader : 4 ≤ w.position) :
    Level { w with buf := overwrite w.buf 2 (toLeBytes total) }
      { w' with buf := overwrite w'.buf 2 (toLeBytes total) } where
  length := by
    have hRoom : 2 + (toLeBytes total).length ≤ w.buf.length := Nat.le_trans hHeader h.room
    rw [length_overwrite hRoom, length_overwrite (h.length ▸ hRoom), h.length]
  position := h.position
  written := by
    have hSame := h.written
    have hRoom := h.room
    have hTotal : 2 + (toLeBytes total).length ≤ w.position := hHeader
    have hStart : 2 ≤ w.buf.length := by omega
    simp only [DescriptorWriter.written, h.position] at hSame ⊢
    rw [take_overwrite_of_le _ hTotal (h.length ▸ hStart), take_overwrite_of_le _ hTotal hStart, hSame]
  numInterfacesMark := h.numInterfacesMark
  numEndpointsMark := h.numEndpointsMark
  writeIads := h.writeIads
  room := by
    rw [length_overwrite (Nat.le_trans hHeader h.room)]
    exact h.room

theorem Level.appended (h : Level w w') {bytes : List UInt8}
    (hRoom : w.position + bytes.length ≤ w.buf.length) :
    Level { w with buf := overwrite w.buf w.position bytes, position := w.position + bytes.length }
      { w' with
        buf := overwrite w'.buf w.position bytes
        position := w.position + bytes.length } where
  length := by
    rw [length_overwrite hRoom, length_overwrite (h.length ▸ hRoom), h.length]
  position := rfl
  written := by
    have hSame := h.written
    simp only [DescriptorWriter.written, h.position] at hSame ⊢
    rw [take_overwrite bytes h.room, take_overwrite bytes (h.length ▸ h.room), hSame]
  numInterfacesMark := h.numInterfacesMark
  numEndpointsMark := h.numEndpointsMark
  writeIads := h.writeIads
  room := by
    rw [length_overwrite hRoom]
    exact hRoom

theorem Level.getElem? (h : Level w w') {mark : Nat} (hMark : mark < w.position) :
    ∃ count, w.buf[mark]? = some count ∧ w'.buf[mark]? = some count := by
  have hSame : w'.buf[mark]? = w.buf[mark]? := by
    rw [← getElem?_written hMark, ← getElem?_written (h.position ▸ hMark), h.written]
  have hByte := List.getElem?_eq_getElem (Nat.lt_of_lt_of_le hMark h.room)
  exact ⟨_, hByte, hSame.trans hByte⟩

theorem agree_increment (h : Level w w') {mark : Nat} (hMark : mark < w.position) :
    Agree (fun _ t t' => Level t t' ∧ Beyond w t) (increment mark w) (increment mark w') := by
  obtain ⟨count, hByte, hByte'⟩ := h.getElem? hMark
  rw [increment_apply hByte, increment_apply hByte']
  split
  · rfl
  · exact ⟨rfl, h.set mark _, Nat.le_refl _, rfl, rfl⟩

/-- Both writers count the interface, at the same place. -/
theorem agree_interfaceAlt (h : Marked w w') (number : InterfaceNumber)
    (alternateSetting interfaceClass interfaceSubClass interfaceProtocol : UInt8)
    (string : Option StringIndex) :
    Agree (fun r t t' => Marked t t' ∧ (r = .ok () → Paired t t'))
      (interfaceAlt number alternateSetting interfaceClass interfaceSubClass interfaceProtocol string w)
      (interfaceAlt number alternateSetting interfaceClass interfaceSubClass interfaceProtocol string
        w') := by
  have hWrite {u u' : DescriptorWriter} (hu : Marked u u') : Agree (fun r t t' =>
      Marked t t' ∧ (r = .ok () → Paired t t'))
      ((do
        modify fun v => { v with numEndpointsMark := some (v.position + 4) }
        write DescriptorType.interface [number.value, alternateSetting, 0, interfaceClass,
          interfaceSubClass, interfaceProtocol, (string.map StringIndex.value).getD 0] : WriterM Unit) u)
      ((do
        modify fun v => { v with numEndpointsMark := some (v.position + 4) }
        write DescriptorType.interface [number.value, alternateSetting, 0, interfaceClass,
          interfaceSubClass, interfaceProtocol, (string.map StringIndex.value).getD 0] : WriterM Unit)
            u') := by
    have hMoved : Marked { u with numEndpointsMark := some (u.position + 4) }
        { u' with numEndpointsMark := some (u'.position + 4) } :=
      ⟨⟨hu.length, hu.position, hu.written, hu.numInterfacesMark, by rw [hu.position], hu.writeIads,
        hu.room⟩, hu.mark, hu.interfaces⟩
    have hPosition : Post True (write DescriptorType.interface [number.value, alternateSetting, 0,
        interfaceClass, interfaceSubClass, interfaceProtocol, (string.map StringIndex.value).getD 0])
        (fun r t => r = .ok () → t.position = u.position + 9)
        { u with numEndpointsMark := some (u.position + 4) } := by
      rw [post_true_iff]
      rintro r t hDone rfl
      have hAppended := appended_of_write hDone
      have hWritten := congrArg List.length hAppended.written
      simp only [written, descriptorBytes, List.length_append, List.length_take,
        Nat.min_eq_left hAppended.room, Nat.min_eq_left hu.room, List.length_cons,
        List.length_nil] at hWritten
      exact hWritten
    have hBoth := (agree_write hMoved.toLevel DescriptorType.interface [number.value,
      alternateSetting, 0, interfaceClass, interfaceSubClass, interfaceProtocol,
      (string.map StringIndex.value).getD 0]).and_post hPosition
    apply hBoth.mono
    rintro r t t' ⟨⟨ht, hBeyond⟩, hEnd⟩
    refine ⟨hMoved.beyond ht hBeyond, fun hOk => ⟨hMoved.beyond ht hBeyond, fun mark hMark => ?_⟩⟩
    rw [hBeyond.numEndpointsMark] at hMark
    cases hMark
    rw [hEnd hOk]
    omega
  change Agree _ ((when (alternateSetting = defaultAlternateSetting)
    (incrementMark w.numInterfacesMark) >>= fun _ => _) w)
    ((when (alternateSetting = defaultAlternateSetting)
      (incrementMark w'.numInterfacesMark) >>= fun _ => _) w')
  have hCounted : Agree (fun _ t t' => Marked t t')
      (when (alternateSetting = defaultAlternateSetting) (incrementMark w.numInterfacesMark) w)
      (when (alternateSetting = defaultAlternateSetting) (incrementMark w'.numInterfacesMark) w') := by
    rw [h.numInterfacesMark, h.mark]
    by_cases hDefault : alternateSetting = defaultAlternateSetting
    · rw [when_of_true hDefault]
      exact (agree_increment h.toLevel h.interfaces).mono fun _ _ _ ht => h.beyond ht.1 ht.2
    · rw [when_of_false hDefault]
      exact ⟨rfl, h⟩
  exact agree_bind hCounted (fun _ _ _ hu => hWrite hu)
    fun e _ _ hu => ⟨hu, fun hOk => by cases hOk⟩

theorem blind_endpointFn (ep : Endpoint) {f : SliceFn} (hf : f.Blind) : (endpointFn ep f).Blind := by
  intro slice slice' hLength
  rcases Nat.lt_or_ge slice.length 5 with hShort | hRoom
  · have hRun (buf : List UInt8) (hBuf : buf.length < 5) :
        (endpointFn ep f).run buf = .done (.error .bufferOverflow) buf := by
      change endpointRun ep f buf = _
      rw [endpointRun, bind_apply, get_apply]
      dsimp only
      rw [if_pos hBuf]
      rfl
    rw [hRun slice hShort, hRun slice' (hLength ▸ hShort)]
    exact ⟨rfl, fun count hOk => by cases hOk⟩
  · rw [endpointFn_apply hRoom, endpointFn_apply (hLength ▸ hRoom)]
    have hAgree := hf (slice.drop 5) (slice'.drop 5) (by rw [List.length_drop, List.length_drop, hLength])
    cases hRun : f.run (slice.drop 5) <;> cases hRun' : f.run (slice'.drop 5) <;>
      rw [hRun, hRun'] at hAgree
    · rename_i r out r' out'
      obtain ⟨rfl, hSame⟩ := hAgree
      cases r with
      | error e => exact ⟨rfl, fun count hOk => by cases hOk⟩
      | ok count =>
        obtain ⟨hCount, hTake⟩ := hSame count rfl
        have hFive : (endpointPayload ep).length = 5 := rfl
        have hOut : out.length = (slice.drop 5).length := f.length_eq.of_done hRun
        rw [List.length_drop] at hOut
        dsimp only
        rw [hLength, if_neg (by omega), if_neg (by omega)]
        refine ⟨rfl, ?_⟩
        rintro _ ⟨⟩
        rw [List.length_append, hFive, Nat.add_comm count 5]
        refine ⟨Nat.add_le_add_left hCount 5, ?_⟩
        rw [← hFive, List.take_length_add_append, List.take_length_add_append, hTake]
    · exact hAgree.elim
    · exact hAgree.elim
    · exact hAgree

theorem agree_endpointEx (h : Paired w w') (ep : Endpoint) {f : SliceFn} (hf : f.Blind) :
    Agree (fun _ t t' => Paired t t') (endpointEx ep f w) (endpointEx ep f w') := by
  change Agree _ ((incrementMark w.numEndpointsMark >>= fun _ => _) w)
    ((incrementMark w'.numEndpointsMark >>= fun _ => _) w')
  rw [h.numEndpointsMark]
  cases hMark : w.numEndpointsMark with
  | none => exact ⟨rfl, h⟩
  | some mark =>
    have hCounted : Agree (fun _ t t' => Paired t t') (increment mark w) (increment mark w') :=
      (agree_increment h.toLevel (h.endpoints mark hMark)).mono fun _ _ _ ht => h.beyond ht.1 ht.2
    exact agree_bind hCounted (fun _ _ _ hu =>
      (agree_writeWith hu.toLevel DescriptorType.endpoint (blind_endpointFn ep hf)).mono
        fun _ _ _ ht => hu.beyond ht.1 ht.2) fun _ _ _ hu => hu

/-- Each call of a blind class gives the same on both sides. -/
theorem agree_perform (call : DescriptorCall) (hBlind : call.Blind) (h : Paired w w') :
    Agree (fun r t t' => ∃ reply, r = .ok reply ∧ (call.Failed reply → Marked t t') ∧
      (¬ call.Failed reply → Paired t t')) (call.perform w) (call.perform w') := by
  have hAttempt {m : WriterM Unit}
      (hm : Agree (fun r t t' => Marked t t' ∧ (r = .ok () → Paired t t')) (m w) (m w')) :
      Agree (fun r t t' => ∃ reply, r = .ok reply ∧ ((∃ e, reply = .error e) → Marked t t') ∧
        ((¬ ∃ e, reply = .error e) → Paired t t')) (attempt m w) (attempt m w') := by
    apply (agree_attempt hm).mono
    rintro _ t t' ⟨reply, rfl, hMarked, hPaired⟩
    refine ⟨reply, rfl, fun _ => hMarked, fun hNot => hPaired ?_⟩
    cases reply with
    | ok u => rfl
    | error e => exact absurd ⟨e, rfl⟩ hNot
  have hKept {m : WriterM Unit} (hm : Agree (fun _ t t' => Level t t' ∧ Beyond w t) (m w) (m w')) :
      Agree (fun r t t' => Marked t t' ∧ (r = .ok () → Paired t t')) (m w) (m w') :=
    hm.mono fun _ _ _ ht => ⟨h.toMarked.beyond ht.1 ht.2, fun _ => h.beyond ht.1 ht.2⟩
  have hPaired {m : WriterM Unit} (hm : Agree (fun _ t t' => Paired t t') (m w) (m w')) :
      Agree (fun r t t' => Marked t t' ∧ (r = .ok () → Paired t t')) (m w) (m w') :=
    hm.mono fun _ _ _ ht => ⟨ht.toMarked, fun _ => ht⟩
  cases call with
  | position =>
    exact ⟨congrArg Except.ok h.position.symm, w.position, rfl, fun _ => h.toMarked, fun _ => h⟩
  | write descriptorType descriptor =>
    exact hAttempt (hKept (agree_write h.toLevel descriptorType descriptor))
  | writeWith descriptorType f =>
    exact hAttempt (hKept (agree_writeWith h.toLevel descriptorType (hBlind f rfl)))
  | iad firstInterface interfaceCount functionClass functionSubClass functionProtocol string =>
    refine hAttempt ?_
    rw [DescriptorWriter.iad, bind_apply, get_apply, bind_apply, get_apply]
    dsimp only
    rw [h.writeIads]
    split
    · exact ⟨rfl, h.toMarked, fun _ => h⟩
    · exact hKept (agree_write h.toLevel _ _)
  | interface number interfaceClass interfaceSubClass interfaceProtocol =>
    exact hAttempt (agree_interfaceAlt h.toMarked _ _ _ _ _ _)
  | interfaceAlt number alternateSetting interfaceClass interfaceSubClass interfaceProtocol string =>
    exact hAttempt (agree_interfaceAlt h.toMarked _ _ _ _ _ _)
  | endpoint ep =>
    refine hAttempt (hPaired (agree_endpointEx h ep fun _ _ _ => ⟨rfl, ?_⟩))
    rintro _ ⟨⟩
    exact ⟨Nat.zero_le _, rfl⟩
  | endpointEx ep f => exact hAttempt (hPaired (agree_endpointEx h ep (hBlind f rfl)))

end DescriptorWriter

section Configuration

open DescriptorWriter

variable {C : Type} [UsbClass C] {w w' : DescriptorWriter}

theorem agree_descriptorProgram {program : DescriptorProgram} (hBlind : program.Blind)
    (h : Paired w w') : Agree (fun _ t t' => Marked t t') (program.run w) (program.run w') := by
  have hCalls : Agree (fun _ t t' => Marked t t') (program.interp DescriptorCall.perform .foreign w)
      (program.interp DescriptorCall.perform .foreign w') :=
    Program.agree_interp_stops (fun _ _ hPaired => hPaired.toMarked)
      (fun call _ _ hCall hPaired => agree_perform call hCall hPaired) _ hBlind h
  exact agree_bind hCalls (fun _ _ _ ht => ⟨rfl, ht⟩) fun _ _ _ ht => ht

theorem agree_classDescriptors {classes : List C}
    (hBlind : ∀ cls ∈ classes, (UsbClass.getConfigurationDescriptors cls).Blind) (h : Marked w w')
    (hMark : w.numEndpointsMark = none) :
    Agree (fun r t t' => r = .ok () → Marked t t')
      ((classes.forM fun cls => do
        (UsbClass.getConfigurationDescriptors cls).run
        endClass : WriterM Unit) w)
      ((classes.forM fun cls => do
        (UsbClass.getConfigurationDescriptors cls).run
        endClass : WriterM Unit) w') := by
  induction classes generalizing w w' with
  | nil => exact ⟨rfl, fun _ => h⟩
  | cons cls rest ih =>
    have hStart : Paired w w' := ⟨h, fun mark hSome => by rw [hMark] at hSome; cases hSome⟩
    have hClass : Agree (fun r t t' => r = .ok () → Marked t t' ∧ t.numEndpointsMark = none)
        ((do
          (UsbClass.getConfigurationDescriptors cls).run
          endClass : WriterM Unit) w)
        ((do
          (UsbClass.getConfigurationDescriptors cls).run
          endClass : WriterM Unit) w') := by
      refine agree_bind (agree_descriptorProgram (hBlind cls List.mem_cons_self) hStart) ?_ ?_
      · intro _ t t' ht
        exact ⟨rfl, fun _ => ⟨⟨⟨ht.length, ht.position, ht.written, ht.numInterfacesMark, rfl,
          ht.writeIads, ht.room⟩, ht.mark, ht.interfaces⟩, rfl⟩⟩
      · rintro e t t' - ⟨⟩
    refine agree_bind hClass (fun _ t t' ht => ?_) (fun _ _ _ _ hOk => by cases hOk)
    exact ih (fun other hMem => hBlind other (List.mem_cons_of_mem _ hMem)) (ht rfl).1 (ht rfl).2

theorem agree_configuration (config : Config) {buf buf' : List UInt8}
    (hLength : buf'.length = buf.length) :
    Agree (fun r t t' => r = .ok () → Marked t t' ∧ t.numEndpointsMark = none)
      (configuration config (.new buf)) (configuration config (.new buf')) := by
  let start (buf : List UInt8) : DescriptorWriter := { DescriptorWriter.new buf with
    numInterfacesMark := some 4
    writeIads := config.compositeWithIads }
  have hStart : Level (start buf) (start buf') :=
    ⟨hLength, rfl, rfl, rfl, rfl, rfl, Nat.zero_le _⟩
  have hHeader := (agree_write hStart DescriptorType.configuration
    [0, 0, 0, configurationValue, 0, bmAttributes config, config.maxPower]).and_post
    (Q := fun r t => r = .ok () → t.position = 9) (post_true_iff.mpr fun r t hDone hOk => ?_)
  · refine hHeader.mono ?_
    rintro r t t' ⟨⟨ht, hBeyond⟩, hEnd⟩ hOk
    refine ⟨⟨ht, hBeyond.numInterfacesMark, ?_⟩, hBeyond.numEndpointsMark⟩
    rw [hEnd hOk]
    decide
  · subst hOk
    have hAppended := appended_of_write hDone
    have hWritten := congrArg List.length hAppended.written
    rw [written, List.length_take, Nat.min_eq_left hAppended.room] at hWritten
    exact hWritten

theorem agree_endConfiguration (h : Marked w w') :
    Agree (fun r t t' => r = .ok () → Level t t') (endConfiguration w) (endConfiguration w') := by
  have hRoom : 4 ≤ w.buf.length := Nat.le_trans (Nat.le_of_lt h.interfaces) h.room
  rw [endConfiguration, bind_apply, get_apply, bind_apply, get_apply]
  dsimp only
  rw [h.position, copyTo_apply (by decide) hRoom, copyTo_apply (by decide) (h.length ▸ hRoom)]
  exact ⟨rfl, fun _ => h.toLevel.copied (Nat.le_of_lt h.interfaces)⟩

theorem agree_configurationDescriptors (config : Config) {classes : List C}
    (hBlind : ∀ cls ∈ classes, (UsbClass.getConfigurationDescriptors cls).Blind)
    {buf buf' : List UInt8} (hLength : buf'.length = buf.length) :
    Agree (fun r t t' => r = .ok () → Level t t') (configurationDescriptors config classes (.new buf))
      (configurationDescriptors config classes (.new buf')) := by
  refine agree_bind (agree_configuration config hLength) (fun _ t t' hHeader => ?_)
    fun _ _ _ _ hOk => by cases hOk
  obtain ⟨ht, hMark⟩ := hHeader rfl
  exact agree_bind (agree_classDescriptors hBlind ht hMark)
    (fun _ u u' hClasses => agree_endConfiguration (hClasses rfl)) fun _ _ _ _ hOk => by cases hOk

end Configuration

section Bos

open DescriptorWriter BosWriter

variable {C : Type} [UsbClass C] {b b' : BosWriter}

structure Capping (b b' : BosWriter) : Prop where
  level : Level b.writer b'.writer
  mark : b.numCapsMark = some 4
  mark' : b'.numCapsMark = some 4
  counted : 4 < b.writer.position

theorem agree_capability (h : Capping b b') (call : BosCall) :
    Agree (fun _ => Capping) (capability call.capabilityType call.data b)
      (capability call.capabilityType call.data b') := by
  obtain ⟨count, hByte, hByte'⟩ := h.level.getElem? h.counted
  have hCounted : Capping (b.counted 4 count) (b'.counted 4 count) :=
    ⟨h.level.set 4 _, h.mark, h.mark', h.counted⟩
  rw [capability_apply call h.mark hByte, capability_apply call h.mark' hByte', h.level.position,
    h.level.length]
  by_cases hFull : count = 255
  · rw [if_pos hFull, if_pos hFull]
    exact rfl
  rw [if_neg hFull, if_neg hFull]
  by_cases hLong : b.writer.buf.length < b.writer.position + call.data.length + 3 ∨
      255 < call.data.length + 3
  · rw [if_pos hLong, if_pos hLong]
    exact ⟨rfl, hCounted⟩
  · rw [if_neg hLong, if_neg hLong]
    have hRoom : b.writer.position + call.bytes.length ≤ (b.writer.buf.set 4 (count + 1)).length := by
      rw [List.length_set]
      change b.writer.position + (call.data.length + 3) ≤ _
      omega
    have hAdded := hCounted.level.appended hRoom
    refine ⟨rfl, ⟨?_, h.mark, h.mark', Nat.lt_of_lt_of_le h.counted (Nat.le_add_right _ _)⟩⟩
    simp only [BosWriter.added, BosWriter.counted, h.level.position]
    exact hAdded

theorem agree_bos {buf buf' : List UInt8} (hLength : buf'.length = buf.length) :
    Agree (fun r b b' => r = .ok () → Capping b b') (bos (.new (.new buf))) (bos (.new (.new buf'))) := by
  have hHeader := (agree_write (level_new hLength) DescriptorType.bos [0x00, 0x00, 0x00]).and_post
    (Q := fun r t => r = .ok () → t.position = 5) (post_true_iff.mpr fun r t hDone hOk => ?_)
  · have hZoomed : Agree (fun r b b' => r = .ok () → Capping b b')
        (onWriter (write DescriptorType.bos [0x00, 0x00, 0x00])
          { BosWriter.new (.new buf) with numCapsMark := some 4 })
        (onWriter (write DescriptorType.bos [0x00, 0x00, 0x00])
          { BosWriter.new (.new buf') with numCapsMark := some 4 }) := by
      have hBoth := @agree_zoom _ _ _ _ _ _ BosWriter.writer (fun w b => { b with writer := w }) _ _
        { BosWriter.new (.new buf) with numCapsMark := some 4 }
        { BosWriter.new (.new buf') with numCapsMark := some 4 } hHeader
      apply hBoth.mono
      rintro r _ _ ⟨t, t', rfl, rfl, ⟨ht, -⟩, hEnd⟩ hOk
      exact ⟨ht, rfl, rfl, by dsimp only; rw [hEnd hOk]; decide⟩
    rw [bos, bind_apply, modify_apply, bind_apply, modify_apply]
    refine agree_bind hZoomed (fun _ b b' hb => ?_) fun _ _ _ _ hOk => by cases hOk
    exact (agree_capability (hb rfl) BosCall.usb20Extension).mono fun _ _ _ h _ => h
  · subst hOk
    have hAppended := appended_of_write hDone
    have hWritten := congrArg List.length hAppended.written
    rw [written, List.length_take, Nat.min_eq_left hAppended.room] at hWritten
    exact hWritten

theorem lockstep_bosProgram (program : BosProgram) : Lockstep Capping program.run :=
  lockstep_bind (Program.lockstep_interp (fun call => lockstep_attempt fun _ _ h =>
    agree_capability h call) _ program) fun _ _ _ h => ⟨rfl, h⟩

theorem agree_bosDescriptors (classes : List C) {buf buf' : List UInt8}
    (hLength : buf'.length = buf.length) :
    Agree (fun r b b' => r = .ok () → Level b.writer b'.writer)
      (bosDescriptors classes (.new (.new buf))) (bosDescriptors classes (.new (.new buf'))) := by
  refine agree_bind (agree_bos hLength) (fun _ b b' hHeader => ?_) fun _ _ _ _ hOk => by cases hOk
  refine agree_bind (lockstep_forM (fun cls _ => lockstep_bosProgram (UsbClass.getBosDescriptors cls))
    b b' (hHeader rfl)) (fun _ b b' hb => ?_) fun _ _ _ _ hOk => by cases hOk
  have hRoom : 4 ≤ b.writer.buf.length := Nat.le_trans (Nat.le_of_lt hb.counted) hb.level.room
  rw [endBos, bind_apply, modify_apply, bind_apply, modify_apply]
  dsimp only
  rw [bind_apply, get_apply, bind_apply, get_apply]
  dsimp only
  rw [onWriter, onWriter, zoom_apply, zoom_apply, hb.level.position,
    copyTo_apply (by decide) hRoom, copyTo_apply (by decide) (hb.level.length ▸ hRoom)]
  exact ⟨rfl, fun _ => hb.level.copied (Nat.le_of_lt hb.counted)⟩

end Bos

section Every

open DescriptorWriter

variable {C : Type} [UsbClass C] {config : Config} {classes : List C} {req : Request}

theorem agree_acceptWriter {f : WriterM Unit} {buf buf' : List UInt8}
    (h : Agree (fun r t t' => r = .ok () → Level t t') (f (.new buf)) (f (.new buf'))) :
    Agree SameOutput (acceptWriter f buf) (acceptWriter f buf') := by
  rw [acceptWriter, acceptWriter]
  cases hw : f (.new buf) <;> cases hw' : f (.new buf') <;> rw [hw, hw'] at h
  · rename_i r w r' w'
    obtain ⟨rfl, hLevel⟩ := h
    cases r with
    | error e => exact ⟨rfl, fun count hOk => by cases hOk⟩
    | ok u =>
      have hSame := hLevel rfl
      have hWritten := hSame.written
      simp only [written, hSame.position] at hWritten
      refine ⟨congrArg Except.ok hSame.position.symm, ?_⟩
      rintro _ ⟨⟩
      exact ⟨hSame.room, hWritten⟩
  · exact h.elim
  · exact h.elim
  · exact h

/-- The loop of the string writer runs alike on both sides. -/
theorem agree_string (string : String) {buf buf' : List UInt8} (hLength : buf'.length = buf.length) :
    Agree SameOutput (acceptWriter (DescriptorWriter.string string) buf)
      (acceptWriter (DescriptorWriter.string string) buf') := by
  let size := 2 + 2 * (encodeUtf16 string).length
  rcases Nat.lt_or_ge buf.length size with hLong | hFits
  · have hOver (buf : List UInt8) (h : buf.length < size) :
        (DescriptorWriter.new buf).buf.length < (DescriptorWriter.new buf).position + size := by
      change buf.length < 0 + size
      omega
    have hRest := string_of_lt (hOver buf hLong)
    have hRest' := string_of_lt (hOver buf' (hLength ▸ hLong))
    have hCut : (DescriptorWriter.new buf').buf.length - (DescriptorWriter.new buf').position =
        (DescriptorWriter.new buf).buf.length - (DescriptorWriter.new buf).position :=
      congrArg (· - 0) hLength
    rw [hCut] at hRest'
    by_cases hEven : (DescriptorWriter.new buf).buf.length - (DescriptorWriter.new buf).position < 2 ∨
        ((DescriptorWriter.new buf).buf.length - (DescriptorWriter.new buf).position) % 2 = 0
    · obtain ⟨w, hDone, -⟩ := hRest.1 hEven
      obtain ⟨w', hDone', -⟩ := hRest'.1 hEven
      rw [acceptWriter, acceptWriter, hDone, hDone']
      exact ⟨rfl, fun count hOk => by cases hOk⟩
    · rw [acceptWriter, acceptWriter, hRest.2 hEven, hRest'.2 hEven]
      exact rfl
  · have hRoom (buf : List UInt8) (h : size ≤ buf.length) :
        (DescriptorWriter.new buf).position + size ≤ (DescriptorWriter.new buf).buf.length := by
      change 0 + size ≤ buf.length
      omega
    obtain ⟨w, hDone, hPosition, hBytes⟩ := string_of_le (hRoom buf hFits)
    obtain ⟨w', hDone', hPosition', hBytes'⟩ := string_of_le (hRoom buf' (hLength ▸ hFits))
    have hSame : w'.position = w.position := hPosition'.trans hPosition.symm
    have hKept : w.buf.length = buf.length := (keepsLength_string string).of_done hDone
    rw [acceptWriter, acceptWriter, hDone, hDone']
    refine ⟨congrArg Except.ok hSame.symm, ?_⟩
    rintro _ ⟨⟩
    refine ⟨?_, ?_⟩
    · rw [hPosition, hKept]
      exact Nat.le_trans (Nat.le_of_eq (Nat.zero_add _)) hFits
    · rw [hSame] at hBytes'
      exact hBytes'.trans hBytes.symm

/-- Whatever descriptor is asked for, what is written does not depend on what the buffer held. -/
theorem agree_descriptorWriter {f : WriterM Unit} (h : descriptorWriter config classes req = some f)
    (hBlind : ∀ cls ∈ classes, (UsbClass.getConfigurationDescriptors cls).Blind)
    {buf buf' : List UInt8} (hLength : buf'.length = buf.length) :
    Agree SameOutput (acceptWriter f buf) (acceptWriter f buf') := by
  have hWrite (descriptorType : UInt8) (descriptor : List UInt8) :
      Agree (fun r t t' => r = .ok () → Level t t') (write descriptorType descriptor (.new buf))
        (write descriptorType descriptor (.new buf')) :=
    (agree_write (level_new hLength) descriptorType descriptor).mono fun _ _ _ ht _ => ht.1
  unfold descriptorWriter at h
  dsimp only at h
  split at h
  · cases h
    refine agree_acceptWriter ((agree_zoom (agree_bosDescriptors classes hLength)).mono ?_)
    rintro r _ _ ⟨b, b', rfl, rfl, hb⟩
    exact hb
  split at h
  · cases h
    exact agree_acceptWriter (hWrite _ _)
  split at h
  · cases h
    exact agree_acceptWriter (agree_configurationDescriptors config hBlind hLength)
  split at h
  · split at h
    · cases h
      rw [slice_langIdBytes, ofOption_some]
      exact agree_acceptWriter (hWrite _ _)
    · obtain ⟨string, -, rfl⟩ := Option.map_eq_some_iff.mp h
      exact agree_string string hLength
  · cases h

end Every

end UsbStack
