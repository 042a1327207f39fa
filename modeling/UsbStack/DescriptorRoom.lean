import UsbStack.DescriptorCounts
import UsbStack.StringRequests

/-! # Descriptors that are written without a panic

The counts of interfaces, endpoints and capabilities are bytes. Classes that count no more than a byte
can hold, that go no further after a failed call and whose callbacks return no more than they could
write never make the writer panic.
-/

namespace UsbStack

set_option autoImplicit false

open Foundation Exec

def SliceFn.Returns (f : SliceFn) : Prop := ∀ buf, Post False f.run (fun _ _ => True) buf

theorem SliceFn.returns_copy (data : List UInt8) : (SliceFn.copy data).Returns := by
  intro buf
  rw [post_false_iff, SliceFn.copy_run_apply]
  split
  · exact ⟨_, _, rfl, trivial⟩
  · exact ⟨_, _, rfl, trivial⟩

namespace DescriptorCall

def cost : DescriptorCall → Nat
  | interface _ _ _ _ => 1
  | interfaceAlt _ alternateSetting _ _ _ _ =>
    if alternateSetting = defaultAlternateSetting then 1 else 0
  | endpoint _ | endpointEx _ _ => 1
  | _ => 0

def totalCost : List DescriptorCall → Nat
  | [] => 0
  | call :: rest => cost call + totalCost rest

/-- The callback of the call returns, and no more than the length of its slice. -/
def Returns (call : DescriptorCall) : Prop :=
  ∀ f, call.callback = some f → f.Returns ∧ f.InBounds

def Failed (call : DescriptorCall) (reply : call.Reply) : Prop := ∃ e, call.result reply = .error e

end DescriptorCall

/-- Code of a class that counts at most `n` interfaces and endpoints. -/
def DescriptorProgram.CountsAtMost (program : DescriptorProgram) (n : Nat) : Prop :=
  Program.Spends DescriptorCall.cost DescriptorCall.Failed DescriptorCall.Returns program n

/-- Calls that are made one after the other up to the first error count what each of them counts. -/
theorem DescriptorProgram.countsAtMost_sequence {calls : List DescriptorCall}
    (h : ∀ call ∈ calls, call.Returns) :
    (sequence calls).CountsAtMost (DescriptorCall.totalCost calls) := by
  induction calls with
  | nil => trivial
  | cons call rest ih =>
    refine ⟨h call List.mem_cons_self, Nat.le_add_right _ _, fun reply => ?_⟩
    dsimp only
    rw [DescriptorCall.totalCost, Nat.add_sub_cancel_left]
    cases hResult : call.result reply with
    | ok u =>
      refine ⟨?_, fun _ => ih fun other hMem => h other (List.mem_cons_of_mem _ hMem)⟩
      rintro ⟨e, hError⟩
      rw [hResult] at hError
      cases hError
    | error e => exact ⟨fun _ => ⟨.error e, rfl⟩, fun hNot => absurd ⟨e, hResult⟩ hNot⟩

def BosProgram.CountsAtMost (program : BosProgram) (n : Nat) : Prop :=
  Program.Spends (fun _ => 1) (fun _ _ => False) (fun _ => True) program n

namespace DescriptorWriter

variable {w w' : DescriptorWriter} {used more mark : Nat}

structure Counted (used : Nat) (w : DescriptorWriter) (mark : Nat) : Prop where
  written : mark < w.position
  count : ∃ count : UInt8, w.buf[mark]? = some count ∧ count.toNat ≤ used

theorem Counted.add (h : Counted used w mark) (more : Nat) : Counted (used + more) w mark := by
  obtain ⟨count, hByte, hCount⟩ := h.count
  exact ⟨h.written, count, hByte, Nat.le_add_right_of_le hCount⟩

theorem Counted.set (h : Counted used w mark) {other : Nat} {count : UInt8}
    (hCount : count.toNat ≤ used + more) :
    Counted (used + more) { w with buf := w.buf.set other count } mark := by
  obtain ⟨old, hByte, hOld⟩ := h.count
  refine ⟨h.written, ?_⟩
  by_cases hSame : other = mark
  · subst hSame
    obtain ⟨hRoom, -⟩ := List.getElem?_eq_some_iff.mp hByte
    exact ⟨count, List.getElem?_set_self hRoom, hCount⟩
  · exact ⟨old, (List.getElem?_set_ne hSame).trans hByte, Nat.le_add_right_of_le hOld⟩

theorem post_increment {Q : Except UsbError Unit → DescriptorWriter → Prop}
    (h : Counted used w mark) (hRoom : used + 1 ≤ 255)
    (hQ : ∀ count : UInt8, count.toNat ≤ used + 1 →
      Q (.ok ()) { w with buf := w.buf.set mark count }) : Post False (increment mark) Q w := by
  obtain ⟨count, hByte, hCount⟩ := h.count
  have hNot : count ≠ 255 := by
    rintro rfl
    exact absurd hCount (by change ¬ 255 ≤ used; omega)
  rw [Post, increment_apply hByte, if_neg hNot]
  refine hQ _ ?_
  rw [UInt8.toNat_add, UInt8.toNat_one]
  exact Nat.le_trans (Nat.mod_le _ _) (Nat.succ_le_succ hCount)

structure Behind (w w' : DescriptorWriter) : Prop where
  position : w.position ≤ w'.position
  room : w'.position ≤ w'.buf.length
  numInterfacesMark : w'.numInterfacesMark = w.numInterfacesMark
  numEndpointsMark : w'.numEndpointsMark = w.numEndpointsMark
  before : w'.buf.take w.position = w.buf.take w.position

theorem Counted.behind (h : Counted used w mark) (hBehind : Behind w w') : Counted used w' mark := by
  obtain ⟨count, hByte, hCount⟩ := h.count
  refine ⟨Nat.lt_of_lt_of_le h.written hBehind.position, count, ?_, hCount⟩
  rw [← List.getElem?_take_of_lt h.written, hBehind.before, List.getElem?_take_of_lt h.written,
    hByte]

/-- `write_with` returns, and writes only behind what was written. -/
theorem post_writeWith (descriptorType : UInt8) {f : SliceFn} (hf : f.Returns)
    (hBounds : f.InBounds) (hRoom : w.position ≤ w.buf.length) :
    Post False (writeWith descriptorType f) (fun _ w' => Behind w w') w := by
  unfold Post
  rw [writeWith_apply]
  by_cases hHeader : w.buf.length < w.position + 2
  · rw [if_pos hHeader]
    exact ⟨Nat.le_refl _, hRoom, rfl, rfl, rfl⟩
  · rw [if_neg hHeader]
    obtain ⟨r, out, hRun, -⟩ := post_false_iff.mp (hf w.slice)
    have hOut : out.length = w.slice.length := f.length_eq.of_done hRun
    have hFits : w.position + 2 + out.length ≤ w.buf.length := by
      rw [hOut]
      exact length_slice (Nat.not_lt.mp hHeader)
    have hBefore : (overwrite w.buf (w.position + 2) out).take w.position = w.buf.take w.position :=
      take_overwrite_of_ge out (Nat.le_add_right _ _) (Nat.not_lt.mp hHeader)
    have hStopped : Behind w { w with buf := overwrite w.buf (w.position + 2) out } := by
      refine ⟨Nat.le_refl _, ?_, rfl, rfl, hBefore⟩
      dsimp only
      rw [length_overwrite hFits]
      exact hRoom
    rw [hRun]
    cases r with
    | error e => exact hStopped
    | ok count =>
      dsimp only
      have hCount : count ≤ w.slice.length := hBounds _ _ _ hRun
      have hEnd : w.position + (count + 2) ≤ w.buf.length := by omega
      rw [if_neg (Nat.not_lt.mpr hEnd)]
      refine ⟨Nat.le_add_right _ _, ?_, rfl, rfl, ?_⟩
      · simp only [wrote, List.length_set, length_overwrite hFits]
        exact hEnd
      · rw [wrote, List.take_set, List.take_set, hBefore,
            List.set_eq_of_length_le (by rw [List.length_set, List.length_take]; omega),
            List.set_eq_of_length_le (by rw [List.length_take]; omega)]

theorem post_write (descriptorType : UInt8) (descriptor : List UInt8)
    (hRoom : w.position ≤ w.buf.length) :
    Post False (write descriptorType descriptor) (fun _ w' => Behind w w') w :=
  post_writeWith descriptorType (SliceFn.returns_copy descriptor) (SliceFn.inBounds_copy descriptor)
    hRoom

structure Headed (used : Nat) (w : DescriptorWriter) : Prop where
  room : w.position ≤ w.buf.length
  numInterfacesMark : w.numInterfacesMark = some 4
  interfaces : Counted used w 4

structure Counting (used : Nat) (w : DescriptorWriter) : Prop extends Headed used w where
  endpoints : ∀ mark, w.numEndpointsMark = some mark → Counted used w mark

theorem Headed.add (h : Headed used w) (more : Nat) : Headed (used + more) w :=
  ⟨h.room, h.numInterfacesMark, h.interfaces.add more⟩

theorem Headed.behind (h : Headed used w) (hBehind : Behind w w') : Headed used w' :=
  ⟨hBehind.room, hBehind.numInterfacesMark.trans h.numInterfacesMark, h.interfaces.behind hBehind⟩

theorem Headed.set (h : Headed used w) {count : UInt8} (hCount : count.toNat ≤ used + more)
    (mark : Nat) : Headed (used + more) { w with buf := w.buf.set mark count } :=
  ⟨by rw [List.length_set]; exact h.room, h.numInterfacesMark, h.interfaces.set hCount⟩

theorem Counting.add (h : Counting used w) (more : Nat) : Counting (used + more) w :=
  ⟨h.toHeaded.add more, fun mark hMark => (h.endpoints mark hMark).add more⟩

theorem Counting.behind (h : Counting used w) (hBehind : Behind w w') : Counting used w' :=
  ⟨h.toHeaded.behind hBehind, fun mark hMark =>
    (h.endpoints mark (hBehind.numEndpointsMark ▸ hMark)).behind hBehind⟩

theorem Counting.set (h : Counting used w) {count : UInt8} (hCount : count.toNat ≤ used + more)
    (mark : Nat) : Counting (used + more) { w with buf := w.buf.set mark count } :=
  ⟨h.toHeaded.set hCount mark, fun other hOther => (h.endpoints other hOther).set hCount⟩

/-- What a call comes to: a failed one may leave a mark behind that counts nothing. -/
def Comes (n : Nat) (r : Except UsbError Unit) (w : DescriptorWriter) : Prop :=
  (r = .ok () → Counting n w) ∧ Headed n w

theorem Counting.comes (h : Counting used w) (r : Except UsbError Unit) : Comes used r w :=
  ⟨fun _ => h, h.toHeaded⟩

/-- An interface with the default setting counts one more. -/
theorem post_interfaceAlt (h : Counting used w) {number : InterfaceNumber}
    {alternateSetting interfaceClass interfaceSubClass interfaceProtocol : UInt8}
    {string : Option StringIndex}
    (hRoom : used + (if alternateSetting = defaultAlternateSetting then 1 else 0) ≤ 255) :
    Post False (interfaceAlt number alternateSetting interfaceClass interfaceSubClass
      interfaceProtocol string)
      (Comes (used + if alternateSetting = defaultAlternateSetting then 1 else 0)) w := by
  have hWrite (u : DescriptorWriter) {n : Nat} (hu : Headed n u) :
      Post False (do
        modify fun v => { v with numEndpointsMark := some (v.position + 4) }
        write DescriptorType.interface [number.value, alternateSetting, 0, interfaceClass,
          interfaceSubClass, interfaceProtocol, (string.map StringIndex.value).getD 0])
        (Comes n) u := by
    rw [post_bind, post_modify]
    have hMarked : Headed n { u with numEndpointsMark := some (u.position + 4) } :=
      ⟨hu.room, hu.numInterfacesMark, ⟨hu.interfaces.written, hu.interfaces.count⟩⟩
    obtain ⟨r, v, hDone, hBehind⟩ := post_false_iff.mp (post_write DescriptorType.interface
      [number.value, alternateSetting, 0, interfaceClass, interfaceSubClass, interfaceProtocol,
        (string.map StringIndex.value).getD 0] hMarked.room)
    refine post_false_iff.mpr ⟨r, v, hDone, ?_, hMarked.behind hBehind⟩
    rintro rfl
    refine ⟨hMarked.behind hBehind, fun mark hMark => ?_⟩
    have hAppended := appended_of_write hDone
    rw [hAppended.numEndpointsMark] at hMark
    cases hMark
    have hLength : v.position = u.position + 9 := by
      have hWritten := congrArg List.length hAppended.written
      simp only [written, descriptorBytes, List.length_append, List.length_take,
        Nat.min_eq_left hAppended.room, Nat.min_eq_left hu.room, List.length_cons,
        List.length_nil] at hWritten
      exact hWritten
    refine ⟨by rw [hLength]; omega, 0, ?_, Nat.zero_le _⟩
    have hBefore : (u.buf.take u.position).length = u.position := by
      rw [List.length_take, Nat.min_eq_left hu.room]
    rw [← getElem?_written (by rw [hLength]; omega), hAppended.written, written,
      List.getElem?_append_right (by rw [hBefore]; omega), hBefore, Nat.add_sub_cancel_left]
    rfl
  rw [interfaceAlt, post_bind, post_get]
  dsimp only
  rw [post_bind]
  split
  · rename_i hDefault
    rw [if_pos hDefault] at hRoom
    rw [when_of_true hDefault, h.numInterfacesMark, incrementMark]
    exact post_increment h.interfaces hRoom fun count hCount => hWrite _ (h.toHeaded.set hCount 4)
  · rename_i hOther
    rw [when_of_false hOther]
    exact hWrite w h.toHeaded

theorem post_endpointEx (h : Counting used w) (hRoom : used + 1 ≤ 255) (ep : Endpoint) {f : SliceFn}
    (hf : f.Returns) (hBounds : f.InBounds) :
    Post False (endpointEx ep f) (fun _ w' => Counting (used + 1) w') w := by
  have hFn : (endpointFn ep f).Returns := by
    intro buf
    refine post_false_iff.mpr ?_
    cases hRun : (endpointFn ep f).run buf with
    | done r out => exact ⟨r, out, rfl, trivial⟩
    | panic reason =>
      obtain ⟨r, out, hDone, -⟩ := post_false_iff.mp (hf (buf.drop 5))
      rcases endpointFn_panic hRun with hPanic | ⟨-, hNot⟩
      · rw [hDone] at hPanic
        cases hPanic
      · exact absurd hBounds hNot
  have hWrite (u : DescriptorWriter) (hu : Counting (used + 1) u) :
      Post False (writeWith DescriptorType.endpoint (endpointFn ep f))
        (fun _ w' => Counting (used + 1) w') u :=
    (post_writeWith DescriptorType.endpoint hFn (inBounds_endpointFn ep hBounds) hu.room).mono
      fun _ _ hBehind => hu.behind hBehind
  rw [endpointEx, post_bind, post_get]
  dsimp only
  rw [post_bind]
  cases hMark : w.numEndpointsMark with
  | none => exact h.add 1
  | some mark =>
    exact post_increment (h.endpoints mark hMark) hRoom fun count hCount =>
      hWrite _ (h.set hCount mark)

/-- A call of a class returns, at the cost that it has. -/
theorem post_perform (call : DescriptorCall) (hReturns : call.Returns) (h : Counting used w)
    (hRoom : used + call.cost ≤ 255) :
    Post False call.perform (fun r w' => ∃ reply, r = .ok reply ∧
      (call.Failed reply → Headed (used + call.cost) w') ∧
      (¬ call.Failed reply → Counting (used + call.cost) w')) w := by
  have hBehind {m : WriterM Unit} (hm : Post False m (fun _ w' => Behind w w') w) :
      Post False m (Comes used) w := hm.mono fun r _ hw => (h.behind hw).comes r
  have hAttempt {n : Nat} {m : WriterM Unit} (hm : Post False m (Comes n) w) :
      Post False (attempt m) (fun r w' => ∃ reply, r = .ok reply ∧
        ((∃ e, reply = .error e) → Headed n w') ∧
        ((¬ ∃ e, reply = .error e) → Counting n w')) w := by
    rw [post_attempt]
    apply hm.mono
    intro r w' hr
    refine ⟨r, rfl, fun _ => hr.2, fun hNot => hr.1 ?_⟩
    cases r with
    | ok u => rfl
    | error e => exact absurd ⟨e, rfl⟩ hNot
  cases call with
  | position => exact ⟨w.position, rfl, fun _ => h.toHeaded, fun _ => h⟩
  | write descriptorType descriptor =>
    exact hAttempt (hBehind (post_write descriptorType descriptor h.room))
  | writeWith descriptorType f =>
    obtain ⟨hf, hBounds⟩ := hReturns f rfl
    exact hAttempt (hBehind (post_writeWith descriptorType hf hBounds h.room))
  | iad firstInterface interfaceCount functionClass functionSubClass functionProtocol string =>
    refine hAttempt ?_
    rw [DescriptorWriter.iad, post_bind, post_get]
    dsimp only
    split
    · exact h.comes _
    · exact hBehind (post_write _ _ h.room)
  | interface number interfaceClass interfaceSubClass interfaceProtocol =>
    exact hAttempt (post_interfaceAlt h hRoom)
  | interfaceAlt number alternateSetting interfaceClass interfaceSubClass interfaceProtocol string =>
    exact hAttempt (post_interfaceAlt h hRoom)
  | endpoint ep =>
    have hReturnsNone : (⟨pure 0, fun _ => rfl⟩ : SliceFn).Returns :=
      fun _ => post_false_iff.mpr ⟨_, _, rfl, trivial⟩
    have hBounds : (⟨pure 0, fun _ => rfl⟩ : SliceFn).InBounds := by
      intro slice count out hRun
      cases hRun
      exact Nat.zero_le _
    exact hAttempt ((post_endpointEx h hRoom ep hReturnsNone hBounds).mono fun r _ hw => hw.comes r)
  | endpointEx ep f =>
    obtain ⟨hf, hBounds⟩ := hReturns f rfl
    exact hAttempt ((post_endpointEx h hRoom ep hf hBounds).mono fun r _ hw => hw.comes r)

theorem post_configuration (config : Config) (buf : List UInt8) :
    Post False (configuration config)
      (fun r w => r = .ok () → Headed 0 w ∧ w.numEndpointsMark = none) (.new buf) := by
  rw [configuration, post_bind, post_modify]
  obtain ⟨r, w, hDone, -⟩ := post_false_iff.mp (post_write (w := { DescriptorWriter.new buf with
      numInterfacesMark := some 4
      writeIads := config.compositeWithIads }) DescriptorType.configuration
    [0, 0, 0, configurationValue, 0, bmAttributes config, config.maxPower] (Nat.zero_le _))
  refine post_false_iff.mpr ⟨r, w, hDone, ?_⟩
  rintro rfl
  have hAppended := appended_of_write hDone
  have hLength : w.position = 9 := by
    have hWritten := congrArg List.length hAppended.written
    rw [written, List.length_take, Nat.min_eq_left hAppended.room] at hWritten
    exact hWritten
  refine ⟨⟨hAppended.room, hAppended.numInterfacesMark, by omega, 0, ?_, Nat.zero_le _⟩,
    hAppended.numEndpointsMark⟩
  rw [← getElem?_written (by omega), hAppended.written]
  rfl

end DescriptorWriter

section Configuration

open DescriptorWriter

variable {C : Type} [UsbClass C] {limit used : Nat} {w : DescriptorWriter}

theorem post_descriptorProgram {program : DescriptorProgram} (h : program.CountsAtMost limit)
    (hw : Counting used w) (hRoom : used + limit ≤ 255) :
    Post False program.run (fun _ w' => Headed (used + limit) w') w := by
  rw [DescriptorProgram.run, post_bind]
  apply (Program.post_interp_spends (fun _ _ h => h.toHeaded) (fun _ more _ h => h.add more)
    (fun call _ _ hReturns h hRoom => post_perform call hReturns h hRoom) _ h hRoom hw).mono
  rintro _ w' ⟨⟨result, rfl⟩, hHeaded⟩
  exact hHeaded

theorem post_classDescriptors {classes : List C}
    (h : ∀ cls ∈ classes, (UsbClass.getConfigurationDescriptors cls).CountsAtMost limit)
    (hw : Headed used w) (hMark : w.numEndpointsMark = none)
    (hRoom : used + classes.length * limit ≤ 255) :
    Post False (classes.forM fun cls => do
      (UsbClass.getConfigurationDescriptors cls).run
      endClass) (fun r w' => r = .ok () → Headed 255 w') w := by
  induction classes generalizing used w with
  | nil =>
    rintro -
    have hMore := hw.add (255 - used)
    rwa [Nat.add_sub_cancel' (Nat.le_trans (Nat.le_add_right _ _) hRoom)] at hMore
  | cons cls rest ih =>
    rw [List.length_cons, Nat.succ_mul] at hRoom
    have hCounting : Counting used w := ⟨hw, fun mark hSome => by rw [hMark] at hSome; cases hSome⟩
    change Post False ((do
      (UsbClass.getConfigurationDescriptors cls).run
      endClass : WriterM Unit) >>= fun _ => _) _ w
    rw [post_bind, post_bind]
    apply (post_descriptorProgram (h cls List.mem_cons_self) hCounting (by omega)).mono
    intro r w' hHeaded
    cases r with
    | error e => exact nofun
    | ok u =>
      exact ih (fun other hMem => h other (List.mem_cons_of_mem _ hMem))
        ⟨hHeaded.room, hHeaded.numInterfacesMark, ⟨hHeaded.interfaces.written, hHeaded.interfaces.count⟩⟩
        rfl (by omega)

/-- The configuration descriptor returns for classes that count few interfaces and endpoints. -/
theorem post_configurationDescriptors (config : Config) {classes : List C}
    (h : ∀ cls ∈ classes, (UsbClass.getConfigurationDescriptors cls).CountsAtMost limit)
    (hRoom : classes.length * limit ≤ 255) (buf : List UInt8) :
    Post False (configurationDescriptors config classes) (fun _ _ => True) (.new buf) := by
  rw [configurationDescriptors, post_bind]
  apply (post_configuration config buf).mono
  intro r w hStart
  cases r with
  | error e => trivial
  | ok u =>
    obtain ⟨hw, hMark⟩ := hStart rfl
    dsimp only
    rw [post_bind]
    apply (post_classDescriptors h hw hMark (by omega)).mono
    intro r w' hEnd
    cases r with
    | error e => trivial
    | ok u =>
      have hHeaded := hEnd rfl
      have hFour : 4 ≤ w'.buf.length :=
        Nat.le_trans (Nat.le_of_lt hHeaded.interfaces.written) hHeaded.room
      dsimp only
      rw [endConfiguration, post_bind, post_get]
      dsimp only
      rw [Post, copyTo_apply (by decide) hFour]
      trivial

end Configuration

section Bos

open DescriptorWriter BosWriter

variable {C : Type} [UsbClass C] {limit used : Nat} {b : BosWriter}

structure Capped (used : Nat) (b : BosWriter) : Prop where
  room : b.writer.position ≤ b.writer.buf.length
  numCapsMark : b.numCapsMark = some 4
  capabilities : Counted used b.writer 4

theorem Capped.add (h : Capped used b) (more : Nat) : Capped (used + more) b :=
  ⟨h.room, h.numCapsMark, h.capabilities.add more⟩

theorem post_capability (h : Capped used b) (hRoom : used + 1 ≤ 255) (call : BosCall) :
    Post False (capability call.capabilityType call.data) (fun _ b' => Capped (used + 1) b') b := by
  obtain ⟨count, hByte, hCount⟩ := h.capabilities.count
  have hNot : count ≠ 255 := by
    rintro rfl
    exact absurd hCount (by change ¬ 255 ≤ used; omega)
  have hNext : (count + 1).toNat ≤ used + 1 := by
    rw [UInt8.toNat_add, UInt8.toNat_one]
    exact Nat.le_trans (Nat.mod_le _ _) (Nat.succ_le_succ hCount)
  have hCapped : Capped (used + 1) (b.counted 4 count) :=
    ⟨by rw [counted, List.length_set]; exact h.room, h.numCapsMark, h.capabilities.set hNext⟩
  unfold Post
  rw [capability_apply call h.numCapsMark hByte, if_neg hNot]
  by_cases hLong : b.writer.buf.length < b.writer.position + call.data.length + 3 ∨
      255 < call.data.length + 3
  · rw [if_pos hLong]
    exact hCapped
  · rw [if_neg hLong]
    have hLength : b.writer.position + call.bytes.length ≤ (b.counted 4 count).writer.buf.length := by
      rw [counted, List.length_set]
      change b.writer.position + (call.data.length + 3) ≤ _
      omega
    refine ⟨?_, h.numCapsMark, hCapped.capabilities.behind ⟨Nat.le_add_right _ _, ?_, rfl, rfl, ?_⟩⟩
    · exact Nat.le_trans hLength (Nat.le_of_eq (length_overwrite hLength).symm)
    · exact Nat.le_trans hLength (Nat.le_of_eq (length_overwrite hLength).symm)
    · exact take_overwrite_of_ge _ (Nat.le_refl _) hCapped.room

theorem post_bos (buf : List UInt8) :
    Post False bos (fun r b => r = .ok () → Capped 1 b) (.new (.new buf)) := by
  rw [bos, post_bind, post_modify]
  dsimp only
  rw [post_bind, onWriter, post_zoom]
  obtain ⟨r, w, hDone, -⟩ := post_false_iff.mp (post_write (w := .new buf) DescriptorType.bos
    [0x00, 0x00, 0x00] (Nat.zero_le _))
  refine post_false_iff.mpr ⟨r, w, hDone, ?_⟩
  cases r with
  | error e => rintro ⟨⟩
  | ok u =>
    have hAppended := appended_of_write hDone
    have hLength : w.position = 5 := by
      have hWritten := congrArg List.length hAppended.written
      rw [written, List.length_take, Nat.min_eq_left hAppended.room] at hWritten
      exact hWritten
    have hStart : Capped 0 { writer := w, numCapsMark := some 4 } := by
      refine ⟨hAppended.room, rfl, by dsimp only; omega, 0, ?_, Nat.zero_le _⟩
      rw [← getElem?_written (by dsimp only; omega), hAppended.written]
      rfl
    exact (post_capability hStart (by decide) BosCall.usb20Extension).mono fun _ _ h _ => h

theorem post_bosProgram {program : BosProgram} (h : program.CountsAtMost limit)
    (hb : Capped used b) (hRoom : used + limit ≤ 255) :
    Post False program.run (fun _ b' => Capped (used + limit) b') b := by
  rw [BosProgram.run, post_bind]
  apply (Program.post_interp_spends (fun _ _ h => h) (fun _ more _ h => h.add more)
    (fun call used b _ h hRoom => ?_) _ h hRoom hb).mono
  · rintro _ b' ⟨⟨result, rfl⟩, hCapped⟩
    exact hCapped
  · rw [post_attempt]
    exact (post_capability h hRoom call).mono fun r _ h => ⟨r, rfl, fun _ => h, fun _ => h⟩

theorem post_classCapabilities {classes : List C}
    (h : ∀ cls ∈ classes, (UsbClass.getBosDescriptors cls).CountsAtMost limit)
    (hb : Capped used b) (hRoom : used + classes.length * limit ≤ 255) :
    Post False (classes.forM fun cls => (UsbClass.getBosDescriptors cls).run)
      (fun _ b' => Capped 255 b') b := by
  have hFull {n : Nat} {b : BosWriter} (hb : Capped n b) (hn : n ≤ 255) : Capped 255 b := by
    have hMore := hb.add (255 - n)
    rwa [Nat.add_sub_cancel' hn] at hMore
  induction classes generalizing used b with
  | nil => exact hFull hb (Nat.le_trans (Nat.le_add_right _ _) hRoom)
  | cons cls rest ih =>
    rw [List.length_cons, Nat.succ_mul] at hRoom
    change Post False ((UsbClass.getBosDescriptors cls).run >>= fun _ => _) _ b
    rw [post_bind]
    apply (post_bosProgram (h cls List.mem_cons_self) hb (by omega)).mono
    intro r b' hCapped
    cases r with
    | error e => exact hFull hCapped (by omega)
    | ok u => exact ih (fun other hMem => h other (List.mem_cons_of_mem _ hMem)) hCapped (by omega)

/-- The BOS descriptor returns for classes that ask for few capabilities. -/
theorem post_bosDescriptors {classes : List C}
    (h : ∀ cls ∈ classes, (UsbClass.getBosDescriptors cls).CountsAtMost limit)
    (hRoom : 1 + classes.length * limit ≤ 255) (buf : List UInt8) :
    Post False (bosDescriptors classes) (fun _ _ => True) (.new (.new buf)) := by
  rw [bosDescriptors, post_bind]
  apply (post_bos buf).mono
  intro r b hStart
  cases r with
  | error e => trivial
  | ok u =>
    dsimp only
    rw [post_bind]
    apply (post_classCapabilities h (hStart rfl) hRoom).mono
    intro r b' hCapped
    cases r with
    | error e => trivial
    | ok u =>
      have hFour : 4 ≤ b'.writer.buf.length :=
        Nat.le_trans (Nat.le_of_lt hCapped.capabilities.written) hCapped.room
      dsimp only
      rw [endBos, post_bind, post_modify]
      dsimp only
      rw [post_bind, post_get]
      dsimp only
      rw [onWriter, post_zoom, Post, copyTo_apply (by decide) hFour]
      trivial

end Bos

/-- The class describes itself with at most `n` interfaces and endpoints, and `n` capabilities. It
returns after a failed call, and its callbacks return at most the length of their slices. -/
structure Describes {C : Type} [UsbClass C] (n : Nat) (cls : C) : Prop where
  configuration : (UsbClass.getConfigurationDescriptors cls).CountsAtMost n
  bos : (UsbClass.getBosDescriptors cls).CountsAtMost n

theorem post_string (string : String) {buf : List UInt8} (hEven : buf.length % 2 = 0) :
    Post False (DescriptorWriter.string string) (fun _ _ => True) (.new buf) := by
  rw [post_false_iff]
  rcases Nat.lt_or_ge buf.length (2 + 2 * (encodeUtf16 string).length) with hLong | hFits
  · have hOver : (DescriptorWriter.new buf).buf.length < (DescriptorWriter.new buf).position
        + (2 + 2 * (encodeUtf16 string).length) := by
      rw [DescriptorWriter.new, Nat.zero_add]
      exact hLong
    obtain ⟨w, hDone, -⟩ := (DescriptorWriter.string_of_lt hOver).1 (.inr hEven)
    exact ⟨_, w, hDone, trivial⟩
  · have hRoom : (DescriptorWriter.new buf).position + (2 + 2 * (encodeUtf16 string).length)
        ≤ (DescriptorWriter.new buf).buf.length := by
      rw [DescriptorWriter.new, Nat.zero_add]
      exact hFits
    obtain ⟨w, hDone, -⟩ := DescriptorWriter.string_of_le hRoom
    exact ⟨_, w, hDone, trivial⟩

/-- Whatever descriptor is asked for, an even buffer and classes with few descriptors make an answer or
an error. -/
theorem post_descriptorWriter {C : Type} [UsbClass C] {limit : Nat} {config : Config}
    {classes : List C} {req : Request} {f : WriterM Unit}
    (h : descriptorWriter config classes req = some f)
    (hClasses : ∀ cls ∈ classes, Describes limit cls) (hRoom : classes.length * limit < 255)
    {buf : List UInt8} (hEven : buf.length % 2 = 0) :
    Post False (acceptWriter f) (fun _ _ => True) buf := by
  have hWriter : Post False f (fun _ _ => True) (.new buf) := by
    unfold descriptorWriter at h
    dsimp only at h
    split at h
    · cases h
      rw [post_zoom]
      exact post_bosDescriptors (fun cls hMem => (hClasses cls hMem).bos) (by omega) buf
    split at h
    · cases h
      exact (DescriptorWriter.post_write _ _ (Nat.zero_le _)).mono fun _ _ _ => trivial
    split at h
    · cases h
      exact post_configurationDescriptors config (fun cls hMem => (hClasses cls hMem).configuration)
        (Nat.le_of_lt hRoom) buf
    split at h
    · split at h
      · cases h
        rw [slice_langIdBytes, ofOption_some, post_bind, post_pure]
        exact (DescriptorWriter.post_write _ _ (Nat.zero_le _)).mono fun _ _ _ => trivial
      · obtain ⟨string, -, rfl⟩ := Option.map_eq_some_iff.mp h
        exact post_string string hEven
    · cases h
  obtain ⟨r, w, hDone, -⟩ := post_false_iff.mp hWriter
  rw [post_false_iff, acceptWriter, hDone]
  cases r with
  | ok u => exact ⟨_, _, rfl, trivial⟩
  | error e => exact ⟨_, _, rfl, trivial⟩

end UsbStack
