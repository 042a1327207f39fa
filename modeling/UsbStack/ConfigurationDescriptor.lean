import UsbStack.DescriptorBuffer
import UsbStack.DeviceBuilder

/-! # The configuration descriptor

The bytes that a writer has produced are determined by the records that were written, class by
class. The counts in the configuration header and in the interface descriptors are bytes that the
writer goes back to; in the description below they are counted from the records.
-/

namespace UsbStack

set_option autoImplicit false

open Foundation Exec

/-- What one call on a descriptor writer adds to the configuration descriptor. -/
inductive Record where
  | interface (number : InterfaceNumber) (alternateSetting interfaceClass interfaceSubClass
      interfaceProtocol string : UInt8)
  | endpoint (ep : Endpoint) (extra : List UInt8)
  | other (descriptorType : UInt8) (payload : List UInt8)
  deriving DecidableEq

def descriptorBytes (descriptorType : UInt8) (payload : List UInt8) : List UInt8 :=
  (payload.length + 2).toUInt8 :: descriptorType :: payload

def endpointPayload (ep : Endpoint) : List UInt8 :=
  ep.address.value :: ep.epType.toBmAttributes :: (toLeBytes ep.maxPacketSize ++ [ep.interval])

namespace Record

/-- The bytes of a record; for an interface, with the number of its endpoints. -/
def bytes (endpoints : Nat) : Record → List UInt8
  | interface number alternateSetting interfaceClass interfaceSubClass interfaceProtocol string =>
    descriptorBytes DescriptorType.interface [number.value, alternateSetting, endpoints.toUInt8,
      interfaceClass, interfaceSubClass, interfaceProtocol, string]
  | endpoint ep extra => descriptorBytes DescriptorType.endpoint (endpointPayload ep ++ extra)
  | other descriptorType payload => descriptorBytes descriptorType payload

def isDefaultInterface : Record → Bool
  | interface _ alternateSetting _ _ _ _ => alternateSetting = defaultAlternateSetting
  | _ => false

/-- The endpoint descriptors before the next interface descriptor. -/
def endpoints : List Record → Nat
  | [] => 0
  | interface _ _ _ _ _ _ :: _ => 0
  | endpoint _ _ :: rest => endpoints rest + 1
  | other _ _ :: rest => endpoints rest

def assemble : List Record → List UInt8
  | [] => []
  | record :: rest => record.bytes (endpoints rest) ++ assemble rest

def isInterface : Record → Bool
  | interface _ _ _ _ _ _ => true
  | _ => false

def mark : List Record → Option Nat
  | [] => none
  | record :: rest => ((mark rest).map ((record.bytes 0).length + ·)).or
      (if record.isInterface then some 4 else none)

theorem length_bytes (record : Record) (n m : Nat) :
    (record.bytes n).length = (record.bytes m).length := by
  cases record <;> rfl

theorem mark_cons_eq_none {record : Record} (hNot : record.isInterface = false)
    (rest : List Record) : mark (record :: rest) = none ↔ mark rest = none := by
  rw [mark, hNot, if_neg Bool.false_ne_true, Option.or_none, Option.map_eq_none_iff]

theorem endpoints_append (records : List Record) (record : Record) :
    endpoints (records ++ [record]) =
      endpoints records + if mark records = none then endpoints [record] else 0 := by
  induction records with
  | nil => rw [List.nil_append, mark, if_pos rfl, endpoints, Nat.zero_add]
  | cons first rest ih =>
    cases first with
    | interface number setting cls sub protocol string =>
      have hSome : mark (.interface number setting cls sub protocol string :: rest) ≠ none := by
        rw [mark]
        cases mark rest <;> nofun
      rw [if_neg hSome]
      rfl
    | endpoint ep extra =>
      rw [List.cons_append, endpoints, ih, endpoints, if_congr (mark_cons_eq_none rfl rest) rfl rfl]
      omega
    | other descriptorType payload =>
      rw [List.cons_append, endpoints, ih, endpoints, if_congr (mark_cons_eq_none rfl rest) rfl rfl]

theorem assemble_append {record : Record} (hNone : endpoints [record] = 0)
    (records : List Record) :
    assemble (records ++ [record]) = assemble records ++ record.bytes 0 := by
  induction records with
  | nil => exact List.append_nil _
  | cons first rest ih =>
    rw [List.cons_append, assemble, ih, endpoints_append, hNone, ite_self, Nat.add_zero, assemble,
      List.append_assoc]

theorem assemble_append_of_unmarked {records : List Record} (hNone : mark records = none)
    (record : Record) : assemble (records ++ [record]) = assemble records ++ record.bytes 0 := by
  induction records with
  | nil => exact List.append_nil _
  | cons first rest ih =>
    have hFirst : first.isInterface = false := by
      cases first with
      | interface number setting cls sub protocol string =>
        rw [mark, Option.or_eq_none_iff] at hNone
        cases hNone.2
      | _ => rfl
    have hBytes (n m : Nat) : first.bytes n = first.bytes m := by
      cases first with
      | interface number setting cls sub protocol string => cases hFirst
      | _ => rfl
    rw [List.cons_append, assemble, ih ((mark_cons_eq_none hFirst rest).mp hNone), assemble,
      hBytes _ (endpoints rest), List.append_assoc]

theorem mark_append (records : List Record) (record : Record) :
    mark (records ++ [record]) =
      (if record.isInterface then some ((assemble records).length + 4) else none).or
        (mark records) := by
  induction records with
  | nil =>
    simp only [List.nil_append, mark, Option.map_none, Option.none_or, Option.or_none, assemble,
      List.length_nil, Nat.zero_add]
  | cons first rest ih =>
    rw [List.cons_append, mark, ih]
    cases record.isInterface with
    | true =>
      rw [if_pos rfl, if_pos rfl, Option.some_or, Option.some_or, Option.map_some, Option.some_or,
        assemble, List.length_append, length_bytes first (endpoints rest) 0, Nat.add_assoc]
    | false =>
      rw [if_neg Bool.false_ne_true, if_neg Bool.false_ne_true, Option.none_or, Option.none_or, mark]

theorem mark_lt {records : List Record} {k : Nat} (hMark : mark records = some k) :
    k < (assemble records).length := by
  induction records generalizing k with
  | nil => cases hMark
  | cons first rest ih =>
    rw [mark] at hMark
    rw [assemble, List.length_append, length_bytes first (endpoints rest) 0]
    cases hRest : mark rest with
    | some j =>
      rw [hRest, Option.map_some, Option.some_or] at hMark
      cases hMark
      exact Nat.add_lt_add_left (ih hRest) _
    | none =>
      rw [hRest, Option.map_none, Option.none_or] at hMark
      cases first with
      | interface number setting cls sub protocol string =>
        cases hMark
        exact Nat.lt_of_lt_of_le (by decide) (Nat.le_add_right 9 _)
      | _ => cases hMark

theorem toUInt8_succ (n : Nat) : (n + 1).toUInt8 = n.toUInt8 + 1 := UInt8.ofNat_add n 1

/-- An endpoint raises the count of the interface before it, and of no other. -/
theorem assemble_append_endpoint {records : List Record} {k : Nat} (hMark : mark records = some k)
    (ep : Endpoint) (extra : List UInt8) :
    ∃ count, (assemble records)[k]? = some count ∧
      assemble (records ++ [.endpoint ep extra]) =
        (assemble records).set k (count + 1) ++ (Record.endpoint ep extra).bytes 0 := by
  induction records generalizing k with
  | nil => cases hMark
  | cons first rest ih =>
    rw [List.cons_append, assemble, assemble, endpoints_append]
    rw [mark] at hMark
    cases hRest : mark rest with
    | some j =>
      rw [hRest, Option.map_some, Option.some_or] at hMark
      cases hMark
      obtain ⟨count, hCount, hAssemble⟩ := ih hRest
      refine ⟨count, ?_, ?_⟩
      · rw [length_bytes first 0 (endpoints rest), List.getElem?_append_right (Nat.le_add_right _ _),
          Nat.add_sub_cancel_left]
        exact hCount
      · rw [if_neg (by nofun), Nat.add_zero, hAssemble, length_bytes first 0 (endpoints rest),
          List.set_append_right _ _ (Nat.le_add_right _ _), Nat.add_sub_cancel_left,
          List.append_assoc]
    | none =>
      rw [hRest, Option.map_none, Option.none_or] at hMark
      cases first with
      | interface number setting cls sub protocol string =>
        cases hMark
        refine ⟨(endpoints rest).toUInt8, rfl, ?_⟩
        rw [if_pos rfl, assemble_append_of_unmarked hRest]
        change Record.bytes (endpoints rest + 1) _ ++ _ = _
        rw [← toUInt8_succ]
        rfl
      | _ => cases hMark

end Record

def headerBytes (config : Config) (total interfaces : Nat) : List UInt8 :=
  descriptorBytes DescriptorType.configuration (toLeBytes total.toUInt16 ++
    [interfaces.toUInt8, configurationValue, 0, DescriptorWriter.bmAttributes config, config.maxPower])

/-- The configuration descriptor of a device whose classes write `records`. -/
def configurationBytes (config : Config) (records : List (List Record)) : List UInt8 :=
  headerBytes config (9 + (records.flatMap Record.assemble).length)
    (records.flatten.countP Record.isDefaultInterface) ++ records.flatMap Record.assemble

namespace DescriptorWriter

def slice (w : DescriptorWriter) : List UInt8 :=
  (w.buf.drop (w.position + 2)).take (min w.buf.length (w.position + 256) - (w.position + 2))

def written (w : DescriptorWriter) : List UInt8 := w.buf.take w.position

end DescriptorWriter

def SliceFn.output (f : SliceFn) (slice : List UInt8) : Option (List UInt8) :=
  match f.run slice with
  | .done (.ok count) out => some (out.take count)
  | _ => none

/-- The callback returns at most the length of the slice it gets. -/
def SliceFn.InBounds (f : SliceFn) : Prop :=
  ∀ slice count out, f.run slice = .done (.ok count) out → count ≤ slice.length

theorem SliceFn.inBounds_copy (data : List UInt8) : (SliceFn.copy data).InBounds := by
  intro slice count out hRun
  rw [SliceFn.copy_run_apply] at hRun
  split at hRun
  · cases hRun
  · cases hRun
    omega

namespace DescriptorCall

def record (iads : Bool) (slice : List UInt8) : DescriptorCall → Option Record
  | position => none
  | write descriptorType descriptor => some (.other descriptorType descriptor)
  | writeWith descriptorType f => (f.output slice).map (.other descriptorType)
  | iad firstInterface interfaceCount functionClass functionSubClass functionProtocol string =>
    if iads then some (.other DescriptorType.iad [firstInterface.value, interfaceCount,
      functionClass, functionSubClass, functionProtocol, (string.map StringIndex.value).getD 0])
    else none
  | interface number interfaceClass interfaceSubClass interfaceProtocol =>
    some (.interface number defaultAlternateSetting interfaceClass interfaceSubClass
      interfaceProtocol 0)
  | interfaceAlt number alternateSetting interfaceClass interfaceSubClass interfaceProtocol string =>
    some (.interface number alternateSetting interfaceClass interfaceSubClass interfaceProtocol
      ((string.map StringIndex.value).getD 0))
  | endpoint ep => some (.endpoint ep [])
  | endpointEx ep f => (f.output (slice.drop 5)).map (.endpoint ep)

def result : (call : DescriptorCall) → call.Reply → Except UsbError Unit
  | position, _ => .ok ()
  | write _ _, reply | writeWith _ _, reply | iad _ _ _ _ _ _, reply | interface _ _ _ _, reply
  | interfaceAlt _ _ _ _ _ _, reply | endpoint _, reply | endpointEx _ _, reply => reply

def InBounds : DescriptorCall → Prop
  | writeWith _ f | endpointEx _ f => f.InBounds
  | _ => True

end DescriptorCall

/-- The records of a class, and the writer after it; `none` if a call fails. -/
def DescriptorProgram.records (iads : Bool) :
    DescriptorProgram → DescriptorWriter → Option (List Record × DescriptorWriter)
  | .ret (.ok ()), w => some ([], w)
  | .ret (.error _), _ => none
  | .panic, _ => none
  | .call call next, w =>
    match call.perform w with
    | .done (.ok reply) w' =>
      if (call.result reply).toBool then do
        let (rest, w'') ← records iads (next reply) w'
        pure ((call.record iads w.slice).toList ++ rest, w'')
      else none
    | _ => none

/-- Code of a class that makes `calls` and returns the first error, as the `?` operator does. -/
def DescriptorProgram.sequence : List DescriptorCall → DescriptorProgram
  | [] => .ret (.ok ())
  | call :: rest => .call call fun reply =>
    match call.result reply with
    | .ok () => sequence rest
    | .error e => .ret (.error e)

theorem DescriptorProgram.calls_sequence {P : DescriptorCall → Prop} {calls : List DescriptorCall}
    (h : ∀ call ∈ calls, P call) : (sequence calls).Calls P := by
  induction calls with
  | nil => trivial
  | cons call rest ih =>
    refine ⟨h call List.mem_cons_self, fun reply => ?_⟩
    dsimp only
    cases call.result reply with
    | ok u => exact ih fun other hOther => h other (List.mem_cons_of_mem _ hOther)
    | error e => trivial

def classRecords {C : Type} [UsbClass C] (iads : Bool) :
    List C → DescriptorWriter → Option (List (List Record) × DescriptorWriter)
  | [], w => some ([], w)
  | cls :: rest, w => do
    let (records, w) ← DescriptorProgram.records iads (UsbClass.getConfigurationDescriptors cls) w
    match DescriptorWriter.endClass w with
    | .done (.ok ()) w =>
      let (later, w) ← classRecords iads rest w
      pure (records :: later, w)
    | _ => none

/-- The records of a configuration descriptor, when the header fits and every call succeeds. -/
def configurationRecords {C : Type} [UsbClass C] (config : Config) (classes : List C)
    (buf : List UInt8) : Option (List (List Record)) :=
  match DescriptorWriter.configuration config (.new buf) with
  | .done (.ok ()) w => (classRecords config.compositeWithIads classes w).map Prod.fst
  | _ => none

namespace DescriptorWriter

def wrote (w : DescriptorWriter) (descriptorType : UInt8) (count : Nat) (out : List UInt8) :
    DescriptorWriter :=
  { w with
    buf := ((overwrite w.buf (w.position + 2) out).set w.position (count + 2).toUInt8).set
      (w.position + 1) descriptorType
    position := w.position + (count + 2) }

theorem onSlice_apply {w : DescriptorWriter} (hRoom : w.position + 2 ≤ w.buf.length) (f : SliceFn) :
    onSlice (w.position + 2) (min w.buf.length (w.position + 256)) f w =
      match f.run w.slice with
      | .done r out => .done r { w with buf := overwrite w.buf (w.position + 2) out }
      | .panic reason => .panic reason := by
  have hSlice : slice? w.buf (w.position + 2) (min w.buf.length (w.position + 256)) =
      some w.slice := slice?_of_le (by omega) (by omega)
  rw [onSlice, bind_apply, get_apply]
  dsimp only
  rw [hSlice, ofOption_some, bind_apply, pure_apply]
  dsimp only
  rw [zoom_apply, slice]
  cases f.run _ <;> rfl

theorem setByte_apply {w : DescriptorWriter} {index : Nat} (h : index < w.buf.length)
    (value : UInt8) :
    setByte index value w = .done (.ok ()) { w with buf := w.buf.set index value } := by
  rw [setByte, bind_apply, get_apply]
  dsimp only
  rw [set?, if_pos h]
  rfl

theorem length_slice {w : DescriptorWriter} (hRoom : w.position + 2 ≤ w.buf.length) :
    w.position + 2 + w.slice.length ≤ w.buf.length := by
  rw [slice, List.length_take, List.length_drop]
  omega

/-- How `write_with` ends. -/
theorem writeWith_apply (descriptorType : UInt8) (f : SliceFn) (w : DescriptorWriter) :
    writeWith descriptorType f w =
      if w.buf.length < w.position + 2 then .done (.error .bufferOverflow) w
      else match f.run w.slice with
        | .panic reason => .panic reason
        | .done (.error e) out => .done (.error e) { w with buf := overwrite w.buf (w.position + 2) out }
        | .done (.ok count) out =>
          if w.buf.length < w.position + (count + 2) then
            if usizeMax < w.position + (count + 2) then .panic .overflow
            else .done (.error .bufferOverflow)
              { w with buf := overwrite w.buf (w.position + 2) out }
          else .done (.ok ()) (w.wrote descriptorType count out) := by
  rw [writeWith, bind_apply, get_apply]
  dsimp only
  split
  · rfl
  · rename_i hRoom
    rw [bind_apply, onSlice_apply (Nat.not_lt.mp hRoom)]
    cases hRun : f.run w.slice with
    | panic reason => rfl
    | done r out =>
      cases r with
      | error e => rfl
      | ok count =>
        have hOut : out.length = w.slice.length := f.length_eq.of_done hRun
        have hLength : (overwrite w.buf (w.position + 2) out).length = w.buf.length := by
          refine length_overwrite ?_
          rw [hOut]
          exact length_slice (Nat.not_lt.mp hRoom)
        dsimp only
        split
        · split <;> rfl
        · rw [bind_of_ok (setByte_apply (by dsimp only; omega) _),
            bind_of_ok (setByte_apply (by dsimp only; rw [List.length_set]; omega) _)]
          rfl

theorem wrote_of_writeWith {w w' : DescriptorWriter} {descriptorType : UInt8} {f : SliceFn}
    (h : writeWith descriptorType f w = .done (.ok ()) w') :
    ∃ count out, f.run w.slice = .done (.ok count) out ∧
      w.position + (count + 2) ≤ w.buf.length ∧ w' = w.wrote descriptorType count out := by
  rw [writeWith_apply] at h
  split at h
  · cases h
  · split at h
    · cases h
    · cases h
    · rename_i count out hRun
      split at h
      · split at h <;> cases h
      · cases h
        exact ⟨count, out, hRun, Nat.not_lt.mp ‹_›, rfl⟩

/-- The payload of a descriptor for which the callback left `out` in its slice and returned `count`. -/
def payload (w : DescriptorWriter) (count : Nat) (out : List UInt8) : List UInt8 :=
  (out ++ w.buf.drop (w.position + 2 + out.length)).take count

theorem payload_of_le (w : DescriptorWriter) {count : Nat} {out : List UInt8}
    (hCount : count ≤ out.length) : w.payload count out = out.take count :=
  List.take_append_of_le_length hCount

/-- A descriptor comes behind what was written. -/
theorem written_wrote {w : DescriptorWriter} (descriptorType : UInt8) {count : Nat}
    {out : List UInt8} (hCount : w.position + (count + 2) ≤ w.buf.length)
    (hRoom : w.position + 2 + out.length ≤ w.buf.length) :
    (w.wrote descriptorType count out).written =
      w.written ++ descriptorBytes descriptorType (w.payload count out) := by
  have hPart : (w.payload count out).length = count := by
    rw [payload, List.length_take, List.length_append, List.length_drop]
    omega
  have hBefore : (w.buf.take w.position).length = w.position := by
    rw [List.length_take]
    omega
  have hStart : w.position + 2 ≤ w.buf.length := by omega
  have hLength := length_overwrite hRoom
  apply List.ext_getElem?
  intro k
  simp only [written, wrote, descriptorBytes, hPart]
  simp only [payload, List.getElem?_take, List.getElem?_append, List.getElem?_drop,
    List.getElem?_set, getElem?_overwrite hStart, List.length_set, hLength, hBefore,
    List.getElem?_cons]
  grind

structure Appended (bytes : List UInt8) (w w' : DescriptorWriter) : Prop where
  written : w'.written = w.written ++ bytes
  room : w'.position ≤ w'.buf.length
  numInterfacesMark : w'.numInterfacesMark = w.numInterfacesMark
  numEndpointsMark : w'.numEndpointsMark = w.numEndpointsMark
  writeIads : w'.writeIads = w.writeIads

theorem Appended.drop_written {bytes : List UInt8} {w w' : DescriptorWriter}
    (h : Appended bytes w w') (hRoom : w.position ≤ w.buf.length) (n : Nat) :
    w'.written.drop (w.position + n) = bytes.drop n := by
  have hLength : w.written.length = w.position := by
    rw [DescriptorWriter.written, List.length_take, Nat.min_eq_left hRoom]
  rw [h.written, ← hLength, ← List.drop_drop, List.drop_left]

theorem appended_of_writeWith {w w' : DescriptorWriter} {descriptorType : UInt8} {f : SliceFn}
    (h : writeWith descriptorType f w = .done (.ok ()) w') :
    ∃ count out, f.run w.slice = .done (.ok count) out ∧ w.position ≤ w.buf.length ∧
      Appended (descriptorBytes descriptorType (w.payload count out)) w w' := by
  obtain ⟨count, out, hRun, hRoom, rfl⟩ := wrote_of_writeWith h
  have hOut : out.length = w.slice.length := f.length_eq.of_done hRun
  have hFits : w.position + 2 + out.length ≤ w.buf.length := by
    rw [hOut]
    exact length_slice (by omega)
  refine ⟨count, out, hRun, by omega, written_wrote descriptorType hRoom hFits, ?_, rfl, rfl, rfl⟩
  simp only [wrote, List.length_set, length_overwrite hFits]
  exact hRoom

theorem appended_of_inBounds {w w' : DescriptorWriter} {descriptorType : UInt8} {f : SliceFn}
    (hBounds : f.InBounds) (h : writeWith descriptorType f w = .done (.ok ()) w') :
    ∃ payload, f.output w.slice = some payload ∧
      Appended (descriptorBytes descriptorType payload) w w' := by
  obtain ⟨count, out, hRun, -, hAppended⟩ := appended_of_writeWith h
  have hOut : out.length = w.slice.length := f.length_eq.of_done hRun
  rw [payload_of_le w (hOut ▸ hBounds _ _ _ hRun)] at hAppended
  exact ⟨out.take count, by rw [SliceFn.output, hRun], hAppended⟩

theorem appended_of_write {w w' : DescriptorWriter} {descriptorType : UInt8}
    {descriptor : List UInt8} (h : write descriptorType descriptor w = .done (.ok ()) w') :
    Appended (descriptorBytes descriptorType descriptor) w w' := by
  obtain ⟨payload, hOutput, hAppended⟩ :=
    appended_of_inBounds (SliceFn.inBounds_copy descriptor) h
  have hPayload : payload = descriptor := by
    rw [SliceFn.output, SliceFn.copy_run_apply] at hOutput
    split at hOutput
    · rename_i hRun
      split at hRun
      · cases hRun
      · cases hRun
        cases hOutput
        have hTake := take_overwrite descriptor (Nat.zero_le w.slice.length)
        rwa [Nat.zero_add, List.take_zero, List.nil_append] at hTake
    · cases hOutput
  exact hPayload ▸ hAppended

theorem increment_done {w w' : DescriptorWriter} {mark : Nat}
    (h : increment mark w = .done (.ok ()) w') :
    ∃ count, w.buf[mark]? = some count ∧ count ≠ 255 ∧
      w' = { w with buf := w.buf.set mark (count + 1) } := by
  rw [increment, bind_apply, get_apply] at h
  dsimp only at h
  cases hCount : w.buf[mark]? with
  | none =>
    rw [hCount] at h
    cases h
  | some count =>
    rw [hCount] at h
    dsimp only at h
    split at h
    · cases h
    · cases h
      exact ⟨count, rfl, ‹_›, rfl⟩

theorem endpointFn_apply {slice : List UInt8} (hLength : 5 ≤ slice.length) (ep : Endpoint)
    (f : SliceFn) :
    (endpointFn ep f).run slice = match f.run (slice.drop 5) with
      | .done (.ok count) part =>
        if slice.length < count + 5 ∧ usizeMax < count + 5 then .panic .overflow
        else .done (.ok (count + 5)) (endpointPayload ep ++ part)
      | .done (.error e) part => .done (.error e) (endpointPayload ep ++ part)
      | .panic reason => .panic reason := by
  have hHeaded : overwrite slice 0 (ep.address.value :: ep.epType.toBmAttributes ::
      (toLeBytes ep.maxPacketSize ++ [ep.interval])) = endpointPayload ep ++ slice.drop 5 := rfl
  have hDrop : (endpointPayload ep ++ slice.drop 5).drop 5 = slice.drop 5 := List.drop_left' rfl
  have hPart (part : List UInt8) (hSame : part.length = (slice.drop 5).length) :
      overwrite (endpointPayload ep ++ slice.drop 5) 5 part = endpointPayload ep ++ part := by
    have hTake : (endpointPayload ep ++ slice.drop 5).take 5 = endpointPayload ep :=
      List.take_left' rfl
    have hEnd : (endpointPayload ep ++ slice.drop 5).drop (5 + part.length) = [] := by
      rw [← List.drop_drop, hDrop, hSame, List.drop_length]
    rw [overwrite, hTake, hEnd, List.append_nil]
  change endpointRun ep f slice = _
  rw [endpointRun, bind_apply, get_apply]
  dsimp only
  rw [if_neg (Nat.not_lt.mpr hLength), hHeaded, bind_apply, set_apply]
  dsimp only
  rw [bind_apply, zoom_apply, hDrop]
  cases hRun : f.run (slice.drop 5) with
  | panic reason => rfl
  | done r part =>
    have hSame : part.length = (slice.drop 5).length := f.length_eq.of_done hRun
    dsimp only
    rw [hPart part hSame]
    cases r with
    | error e => rfl
    | ok count =>
      dsimp only
      split <;> rfl

theorem endpointFn_run {ep : Endpoint} {f : SliceFn} {slice out : List UInt8} {count : Nat}
    (h : (endpointFn ep f).run slice = .done (.ok count) out) :
    ∃ c part, f.run (slice.drop 5) = .done (.ok c) part ∧ count = c + 5 ∧ 5 ≤ slice.length ∧
      out = endpointPayload ep ++ part := by
  rcases Nat.lt_or_ge slice.length 5 with hShort | hLength
  · change endpointRun ep f slice = _ at h
    rw [endpointRun, bind_apply, get_apply] at h
    dsimp only at h
    rw [if_pos hShort] at h
    cases h
  · rw [endpointFn_apply hLength] at h
    split at h
    · split at h
      · cases h
      · cases h
        exact ⟨_, _, ‹_›, rfl, hLength, rfl⟩
    · cases h
    · cases h

theorem getElem?_written {w : DescriptorWriter} {mark : Nat} (hMark : mark < w.position) :
    w.written[mark]? = w.buf[mark]? := List.getElem?_take_of_lt hMark

theorem written_set (w : DescriptorWriter) (mark : Nat) (value : UInt8) :
    ({ w with buf := w.buf.set mark value } : DescriptorWriter).written =
      w.written.set mark value := List.take_set

theorem copyTo_apply {w : DescriptorWriter} {start stop : Nat} {data : List UInt8}
    (hStart : start ≤ stop) (hStop : stop ≤ w.buf.length) :
    copyTo start stop data w = .done (.ok ()) { w with buf := overwrite w.buf start data } := by
  rw [copyTo, bind_apply, get_apply]
  dsimp only
  rw [slice?_of_le hStart hStop]
  rfl

/-- A copy over what has been written. -/
theorem copyTo_written {w : DescriptorWriter} {start : Nat} {data : List UInt8}
    (hWritten : start + data.length ≤ w.position) (hRoom : w.position ≤ w.buf.length) :
    ∃ w', copyTo start (start + data.length) data w = .done (.ok ()) w' ∧
      w'.position = w.position ∧ w'.written = overwrite w.written start data ∧
      w'.buf.length = w.buf.length := by
  have hStop : start + data.length ≤ w.buf.length := Nat.le_trans hWritten hRoom
  refine ⟨_, copyTo_apply (Nat.le_add_right _ _) hStop, rfl, ?_, length_overwrite hStop⟩
  exact take_overwrite_of_le _ hWritten (by omega)

end DescriptorWriter

/-- The descriptor after the classes that wrote `closed` and, so far, the class that wrote
`current`. -/
def progressBytes (config : Config) (closed : List (List Record)) (current : List Record) :
    List UInt8 :=
  headerBytes config 0 ((closed.flatten ++ current).countP Record.isDefaultInterface) ++
    (closed.flatMap Record.assemble ++ Record.assemble current)

structure Describing (config : Config) (closed : List (List Record)) (current : List Record)
    (w : DescriptorWriter) : Prop where
  written : w.written = progressBytes config closed current
  room : w.position ≤ w.buf.length
  numInterfacesMark : w.numInterfacesMark = some 4
  numEndpointsMark : w.numEndpointsMark =
    (Record.mark current).map (9 + (closed.flatMap Record.assemble).length + ·)
  writeIads : w.writeIads = config.compositeWithIads

section Describing

open DescriptorWriter Record

variable {config : Config} {closed : List (List Record)} {current : List Record}
  {w w' : DescriptorWriter}

theorem length_headerBytes (config : Config) (total interfaces : Nat) :
    (headerBytes config total interfaces).length = 9 := rfl

theorem Describing.position (h : Describing config closed current w) :
    w.position = 9 + (closed.flatMap assemble).length + (assemble current).length := by
  have hLength : w.written.length = w.position := by
    rw [DescriptorWriter.written, List.length_take, Nat.min_eq_left h.room]
  rw [← hLength, h.written, progressBytes, List.length_append, length_headerBytes,
    List.length_append, Nat.add_assoc]

theorem progressBytes_append (config : Config) (closed : List (List Record))
    (current : List Record) {record : Record} (hNone : endpoints [record] = 0) :
    progressBytes config closed (current ++ [record]) =
      headerBytes config 0 ((closed.flatten ++ current).countP isDefaultInterface +
        [record].countP isDefaultInterface) ++
      (closed.flatMap assemble ++ assemble current) ++ record.bytes 0 := by
  rw [progressBytes, assemble_append hNone, ← List.append_assoc closed.flatten,
    @List.countP_append _ _ _ [record]]
  simp only [List.append_assoc]

theorem Describing.other (h : Describing config closed current w) {descriptorType : UInt8}
    {payload : List UInt8} (hAppended : Appended (descriptorBytes descriptorType payload) w w') :
    Describing config closed (current ++ [.other descriptorType payload]) w' where
  written := by
    rw [hAppended.written, h.written, progressBytes_append config closed current rfl]
    rfl
  room := hAppended.room
  numInterfacesMark := hAppended.numInterfacesMark.trans h.numInterfacesMark
  numEndpointsMark := by
    rw [hAppended.numEndpointsMark, h.numEndpointsMark, mark_append]
    rfl
  writeIads := hAppended.writeIads.trans h.writeIads

theorem Describing.getElem?_interfaces (h : Describing config closed current w) :
    w.buf[4]? = some ((closed.flatten ++ current).countP isDefaultInterface).toUInt8 := by
  have hPosition : 4 < w.position := by
    rw [h.position]
    omega
  rw [← getElem?_written hPosition, h.written, progressBytes,
    List.getElem?_append_left (by rw [length_headerBytes]; omega)]
  rfl

theorem Describing.countInterface (h : Describing config closed current w)
    (hDone : incrementMark w.numInterfacesMark w = .done (.ok ()) w') :
    ∃ buf, w' = { w with buf := buf } ∧ w'.written =
      headerBytes config 0 ((closed.flatten ++ current).countP isDefaultInterface + 1) ++
        (closed.flatMap assemble ++ assemble current) := by
  rw [h.numInterfacesMark] at hDone
  obtain ⟨count, hCount, -, rfl⟩ := increment_done hDone
  have hValue : count = ((closed.flatten ++ current).countP isDefaultInterface).toUInt8 :=
    Option.some.inj (hCount.symm.trans h.getElem?_interfaces)
  refine ⟨_, rfl, ?_⟩
  rw [written_set, h.written, progressBytes,
    List.set_append_left _ _ (by rw [length_headerBytes]; omega), hValue, ← toUInt8_succ]
  rfl

/-- An interface descriptor adds its record, and its mark is the new last one. -/
theorem Describing.interfaceAlt (h : Describing config closed current w)
    {number : InterfaceNumber}
    {alternateSetting interfaceClass interfaceSubClass interfaceProtocol : UInt8}
    {string : Option StringIndex}
    (hDone : DescriptorWriter.interfaceAlt number alternateSetting interfaceClass
      interfaceSubClass interfaceProtocol string w = .done (.ok ()) w') :
    Describing config closed (current ++ [.interface number alternateSetting interfaceClass
      interfaceSubClass interfaceProtocol ((string.map StringIndex.value).getD 0)]) w' := by
  obtain ⟨_, _, ⟨⟩, hDone⟩ := of_bind_ok hDone
  obtain ⟨_, counted, hCount, hDone⟩ := of_bind_ok hDone
  obtain ⟨_, marked, ⟨⟩, hDone⟩ := of_bind_ok hDone
  obtain ⟨buf, rfl, hWritten⟩ : ∃ buf, counted = { w with buf := buf } ∧ counted.written =
      headerBytes config 0 ((closed.flatten ++ current).countP isDefaultInterface +
          [Record.interface number alternateSetting interfaceClass interfaceSubClass
            interfaceProtocol ((string.map StringIndex.value).getD 0)].countP isDefaultInterface) ++
        (closed.flatMap assemble ++ assemble current) := by
    rw [List.countP_singleton, isDefaultInterface]
    by_cases hDefault : alternateSetting = defaultAlternateSetting
    · rw [when_of_true hDefault] at hCount
      rw [if_pos (decide_eq_true hDefault)]
      exact h.countInterface hCount
    · rw [when_of_false hDefault] at hCount
      cases hCount
      rw [if_neg (fun hTrue => hDefault (of_decide_eq_true hTrue)), Nat.add_zero]
      exact ⟨w.buf, rfl, h.written⟩
  have hAppended := appended_of_write hDone
  refine ⟨?_, hAppended.room, hAppended.numInterfacesMark.trans h.numInterfacesMark, ?_,
    hAppended.writeIads.trans h.writeIads⟩
  · rw [progressBytes_append config closed current rfl, ← hWritten]
    exact hAppended.written
  · rw [hAppended.numEndpointsMark, mark_append, isInterface, if_pos rfl, Option.some_or,
      Option.map_some]
    exact congrArg some (by rw [h.position, Nat.add_assoc])

theorem Describing.getElem?_mark (h : Describing config closed current w) {k : Nat}
    (hMark : mark current = some k) :
    9 + (closed.flatMap assemble).length + k < w.position ∧
      w.buf[9 + (closed.flatMap assemble).length + k]? = (assemble current)[k]? := by
  have hIndex : k < (assemble current).length := mark_lt hMark
  have hPosition : 9 + (closed.flatMap assemble).length + k < w.position := by
    rw [h.position]
    omega
  refine ⟨hPosition, ?_⟩
  have hBefore : (headerBytes config 0 ((closed.flatten ++ current).countP isDefaultInterface) ++
      closed.flatMap assemble).length = 9 + (closed.flatMap assemble).length := by
    rw [List.length_append, length_headerBytes]
  rw [← getElem?_written hPosition, h.written, progressBytes, ← List.append_assoc,
    List.getElem?_append_right (by rw [hBefore]; omega), hBefore, Nat.add_sub_cancel_left]

theorem Describing.countEndpoint (h : Describing config closed current w)
    (hDone : incrementMark w.numEndpointsMark w = .done (.ok ()) w') (ep : Endpoint)
    (extra : List UInt8) :
    ∃ buf, w' = { w with buf := buf } ∧ w'.slice = w.slice ∧
      w'.written ++ (Record.endpoint ep extra).bytes 0 =
        progressBytes config closed (current ++ [.endpoint ep extra]) := by
  rw [h.numEndpointsMark] at hDone
  cases hMark : mark current with
  | none =>
    rw [hMark] at hDone
    cases hDone
  | some k =>
    rw [hMark, Option.map_some] at hDone
    obtain ⟨count, hCount, -, rfl⟩ := increment_done hDone
    obtain ⟨count', hCount', hAssemble⟩ := assemble_append_endpoint hMark ep extra
    obtain ⟨hPosition, hByte⟩ := h.getElem?_mark hMark
    have hWritten : w.written =
        (headerBytes config 0 ((closed.flatten ++ current).countP isDefaultInterface) ++
          closed.flatMap assemble) ++ assemble current := by
      rw [h.written, progressBytes, List.append_assoc]
    have hBefore : (headerBytes config 0 ((closed.flatten ++ current).countP isDefaultInterface) ++
        closed.flatMap assemble).length = 9 + (closed.flatMap assemble).length := by
      rw [List.length_append, length_headerBytes]
    rw [hByte, hCount'] at hCount
    cases hCount
    have hLater : 9 + (closed.flatMap assemble).length + k < w.position + 2 := by omega
    refine ⟨_, rfl, ?_, ?_⟩
    · simp only [slice, List.length_set, List.drop_set_of_lt hLater]
    · rw [written_set, hWritten, List.set_append_right _ _ (by rw [hBefore]; omega), hBefore,
        Nat.add_sub_cancel_left, List.append_assoc, ← hAssemble, progressBytes,
        ← List.append_assoc closed.flatten, @List.countP_append _ _ _ [_], List.append_assoc]
      rfl

/-- An endpoint descriptor adds its record and is counted. -/
theorem Describing.endpointEx (h : Describing config closed current w) {ep : Endpoint}
    {f : SliceFn} (hDone : DescriptorWriter.endpointEx ep f w = .done (.ok ()) w') :
    ∃ count part extra, f.run (w.slice.drop 5) = .done (.ok count) part ∧
      (count ≤ part.length → extra = part.take count) ∧
      extra = w'.written.drop (w.position + 7) ∧
      Describing config closed (current ++ [.endpoint ep extra]) w' := by
  obtain ⟨_, _, ⟨⟩, hDone⟩ := of_bind_ok hDone
  obtain ⟨_, counted, hCount, hDone⟩ := of_bind_ok hDone
  obtain ⟨total, out, hRun, hRoom, hAppended⟩ := appended_of_writeWith hDone
  obtain ⟨count, part, hInner, rfl, -, rfl⟩ := endpointFn_run hRun
  obtain ⟨extra, hExtra⟩ : ∃ extra, extra = (part ++ counted.buf.drop
      (counted.position + 2 + (endpointPayload ep ++ part).length)).take count := ⟨_, rfl⟩
  have hPayload : counted.payload (count + 5) (endpointPayload ep ++ part) =
      endpointPayload ep ++ extra := by
    rw [payload, List.append_assoc, Nat.add_comm, hExtra]
    exact @List.take_length_add_append _ (endpointPayload ep) _ count
  obtain ⟨buf, rfl, hSlice, hWritten⟩ := h.countEndpoint hCount ep extra
  rw [hSlice] at hInner
  rw [hPayload] at hAppended
  refine ⟨count, part, extra, hInner, ?_, ?_, hAppended.written.trans hWritten, hAppended.room,
    hAppended.numInterfacesMark.trans h.numInterfacesMark, ?_,
    hAppended.writeIads.trans h.writeIads⟩
  · intro hCount
    rw [hExtra, List.take_append_of_le_length hCount]
  · exact (hAppended.drop_written hRoom 7).symm
  · rw [hAppended.numEndpointsMark, mark_append]
    exact h.numEndpointsMark

theorem Describing.endpointEx_of_inBounds (h : Describing config closed current w) {ep : Endpoint}
    {f : SliceFn} (hBounds : f.InBounds)
    (hDone : DescriptorWriter.endpointEx ep f w = .done (.ok ()) w') :
    ∃ extra, f.output (w.slice.drop 5) = some extra ∧
      Describing config closed (current ++ [.endpoint ep extra]) w' := by
  obtain ⟨count, part, extra, hRun, hExtra, -, hNext⟩ := h.endpointEx hDone
  have hPart : part.length = (w.slice.drop 5).length := f.length_eq.of_done hRun
  rw [hExtra (hPart ▸ hBounds _ _ _ hRun)] at hNext
  exact ⟨part.take count, by rw [SliceFn.output, hRun], hNext⟩

/-- Every successful call adds its record. -/
theorem Describing.call (h : Describing config closed current w) {call : DescriptorCall}
    (hBounds : call.InBounds) {reply : call.Reply}
    (hDone : call.perform w = .done (.ok reply) w') (hOk : (call.result reply).toBool = true) :
    Describing config closed
      (current ++ (call.record config.compositeWithIads w.slice).toList) w' := by
  have hUnit {m : WriterM Unit} {r : Except UsbError Unit}
      (hAttempt : attempt m w = .done (.ok r) w') (hTrue : r.toBool = true) :
      m w = .done (.ok ()) w' := by
    have hDone := of_attempt_ok hAttempt
    cases r with
    | error e => cases hTrue
    | ok u => exact hDone
  cases call with
  | position =>
    cases hDone
    rw [DescriptorCall.record, Option.toList_none, List.append_nil]
    exact h
  | write descriptorType descriptor => exact h.other (appended_of_write (hUnit hDone hOk))
  | writeWith descriptorType f =>
    obtain ⟨payload, hOutput, hAppended⟩ := appended_of_inBounds hBounds (hUnit hDone hOk)
    rw [DescriptorCall.record, hOutput]
    exact h.other hAppended
  | iad firstInterface interfaceCount functionClass functionSubClass functionProtocol string =>
    obtain ⟨_, _, ⟨⟩, hWrite⟩ := of_bind_ok (hUnit hDone hOk)
    rw [DescriptorCall.record]
    cases hIads : config.compositeWithIads with
    | false =>
      rw [if_pos (h.writeIads.trans hIads)] at hWrite
      cases hWrite
      rw [if_neg Bool.false_ne_true, Option.toList_none, List.append_nil]
      exact h
    | true =>
      rw [if_neg (by rw [h.writeIads, hIads]; nofun)] at hWrite
      exact h.other (appended_of_write hWrite)
  | interface number interfaceClass interfaceSubClass interfaceProtocol =>
    exact h.interfaceAlt (hUnit hDone hOk)
  | interfaceAlt number alternateSetting interfaceClass interfaceSubClass interfaceProtocol string =>
    exact h.interfaceAlt (hUnit hDone hOk)
  | endpoint ep =>
    have hEmpty : SliceFn.InBounds ⟨pure 0, fun _ => rfl⟩ := by
      rintro slice _ _ ⟨⟩
      exact Nat.zero_le _
    obtain ⟨extra, hExtra, hNext⟩ := h.endpointEx_of_inBounds hEmpty (hUnit hDone hOk)
    cases hExtra
    exact hNext
  | endpointEx ep f =>
    obtain ⟨extra, hExtra, hNext⟩ := h.endpointEx_of_inBounds hBounds (hUnit hDone hOk)
    rw [DescriptorCall.record, hExtra]
    exact hNext

/-- The records of a class are those of its calls in order. -/
theorem Describing.program {program : DescriptorProgram} {records : List Record}
    (hBounds : program.Calls DescriptorCall.InBounds) (h : Describing config closed current w)
    (hRecords : program.records config.compositeWithIads w = some (records, w')) :
    program.run w = .done (.ok ()) w' ∧ Describing config closed (current ++ records) w' := by
  suffices program.interp DescriptorCall.perform .foreign w = .done (.ok (.ok ())) w' ∧
      Describing config closed (current ++ records) w' by
    refine ⟨?_, this.2⟩
    rw [DescriptorProgram.run, bind_of_ok this.1]
    rfl
  induction program generalizing current w records with
  | ret result =>
    cases result with
    | error e => cases hRecords
    | ok u =>
      cases hRecords
      rw [List.append_nil]
      exact ⟨rfl, h⟩
  | panic => cases hRecords
  | call call next ih =>
    rw [DescriptorProgram.records] at hRecords
    split at hRecords
    · rename_i reply mid hDone
      split at hRecords
      · rename_i hOk
        obtain ⟨⟨rest, last⟩, hRest, hEq⟩ := Option.bind_eq_some_iff.mp hRecords
        cases hEq
        obtain ⟨hInterp, hDescribing⟩ := ih reply (hBounds.2 reply) (h.call hBounds.1 hDone hOk) hRest
        rw [List.append_assoc] at hDescribing
        refine ⟨?_, hDescribing⟩
        rw [Program.interp, bind_of_ok hDone]
        exact hInterp
      · cases hRecords
    · cases hRecords

theorem Describing.endClass (h : Describing config closed current w) :
    Describing config (closed ++ [current]) [] { w with numEndpointsMark := none } where
  written := by
    refine h.written.trans ?_
    simp [progressBytes, assemble]
  room := h.room
  numInterfacesMark := h.numInterfacesMark
  numEndpointsMark := rfl
  writeIads := h.writeIads

/-- The records of all classes, each of which ends with its mark forgotten. -/
theorem Describing.classes {C : Type} [UsbClass C] {classes : List C}
    {records : List (List Record)}
    (hBounds : ∀ cls ∈ classes,
      (UsbClass.getConfigurationDescriptors cls).Calls DescriptorCall.InBounds)
    (h : Describing config closed [] w)
    (hRecords : classRecords config.compositeWithIads classes w = some (records, w')) :
    (classes.forM fun cls => do
      (UsbClass.getConfigurationDescriptors cls).run
      DescriptorWriter.endClass : WriterM Unit) w = .done (.ok ()) w' ∧
      Describing config (closed ++ records) [] w' := by
  induction classes generalizing closed w records with
  | nil =>
    cases hRecords
    rw [List.append_nil]
    exact ⟨rfl, h⟩
  | cons cls rest ih =>
    obtain ⟨⟨first, mid⟩, hFirst, hRest⟩ := Option.bind_eq_some_iff.mp hRecords
    obtain ⟨⟨later, last⟩, hLater, hEq⟩ := Option.bind_eq_some_iff.mp hRest
    cases hEq
    obtain ⟨hRun, hDescribing⟩ := h.program (hBounds cls List.mem_cons_self) hFirst
    obtain ⟨hForM, hAll⟩ := ih (fun other hOther => hBounds other (List.mem_cons_of_mem _ hOther))
      hDescribing.endClass hLater
    rw [List.nil_append, List.append_assoc] at hAll
    refine ⟨?_, hAll⟩
    have hClass : (do
        (UsbClass.getConfigurationDescriptors cls).run
        DescriptorWriter.endClass : WriterM Unit) w =
        .done (.ok ()) { mid with numEndpointsMark := none } := by
      rw [bind_of_ok hRun]
      rfl
    exact (bind_of_ok hClass).trans hForM

theorem describing_configuration {buf : List UInt8}
    (hDone : DescriptorWriter.configuration config (.new buf) = .done (.ok ()) w) :
    Describing config [] [] w := by
  obtain ⟨_, _, ⟨⟩, hWrite⟩ := of_bind_ok hDone
  have hAppended := appended_of_write hWrite
  exact ⟨hAppended.written, hAppended.room, hAppended.numInterfacesMark,
    hAppended.numEndpointsMark, hAppended.writeIads⟩

theorem Describing.endConfiguration (h : Describing config closed [] w) :
    ∃ w', DescriptorWriter.endConfiguration w = .done (.ok ()) w' ∧
      w'.position = (configurationBytes config closed).length ∧
      w'.written = configurationBytes config closed ∧ w'.position ≤ w'.buf.length := by
  have hPosition : w.position = 9 + (closed.flatMap assemble).length := h.position
  have hFits : 2 + (toLeBytes w.position.toUInt16).length ≤ w.position := by
    change 2 + 2 ≤ _
    omega
  obtain ⟨w', hCopy, hSame, hWritten, hLength⟩ := copyTo_written hFits h.room
  refine ⟨w', ?_, ?_, ?_, ?_⟩
  · rw [DescriptorWriter.endConfiguration, bind_apply, get_apply]
    exact hCopy
  · rw [hSame, configurationBytes, List.length_append, length_headerBytes]
    exact hPosition
  · rw [hWritten, h.written, hPosition, progressBytes, assemble, List.append_nil, List.append_nil]
    rfl
  · rw [hSame, hLength]
    exact h.room

/-- The answer to GET_DESCRIPTOR(CONFIGURATION), when the header fits and every call that the
classes make succeeds. -/
theorem configurationDescriptor_bytes {C : Type} [UsbClass C] {classes : List C} {req : Request}
    {buf : List UInt8} {records : List (List Record)}
    (hType : req.descriptorTypeIndex.1 = DescriptorType.configuration)
    (hBounds : ∀ cls ∈ classes,
      (UsbClass.getConfigurationDescriptors cls).Calls DescriptorCall.InBounds)
    (hRecords : configurationRecords config classes buf = some records) :
    ∃ f buf', descriptorWriter config classes req = some f ∧
      acceptWriter f buf = .done (.ok (configurationBytes config records).length) buf' ∧
      (configurationBytes config records).length ≤ buf'.length ∧
      buf'.take (configurationBytes config records).length = configurationBytes config records := by
  unfold configurationRecords at hRecords
  split at hRecords
  · rename_i header hHeader
    obtain ⟨⟨written, last⟩, hClasses, hEq⟩ := Option.map_eq_some_iff.mp hRecords
    obtain rfl : written = records := hEq
    obtain ⟨hForM, hDescribing⟩ :=
      (describing_configuration hHeader).classes hBounds hClasses
    rw [List.nil_append] at hDescribing
    obtain ⟨w', hEnd, hPosition, hWritten, hRoom⟩ := hDescribing.endConfiguration
    refine ⟨configurationDescriptors config classes, w'.buf, ?_, ?_, ?_, ?_⟩
    · have hHigh : (req.value >>> 8).toUInt8 = DescriptorType.configuration := hType
      rw [descriptorWriter, Request.descriptorTypeIndex]
      dsimp only
      rw [hHigh, if_neg fun hBos => absurd hBos.1 (by decide), if_neg (by decide), if_pos rfl]
    · have hDone : configurationDescriptors config classes (.new buf) = .done (.ok ()) w' := by
        rw [configurationDescriptors, bind_of_ok hHeader, bind_of_ok hForM]
        exact hEnd
      rw [acceptWriter, hDone, ← hPosition]
    · exact hPosition ▸ hRoom
    · exact hPosition ▸ hWritten
  · cases hRecords

end Describing

structure SettingsClass where

instance : UsbClass SettingsClass where
  getConfigurationDescriptors _ := .sequence [
    .interface ⟨0⟩ 0xff 0 0,
    .endpoint ⟨⟨0x81⟩, .bulk, 64, 0⟩,
    .endpoint ⟨⟨0x01⟩, .bulk, 64, 0⟩,
    .interfaceAlt ⟨0⟩ 1 0xff 1 0 none,
    .endpoint ⟨⟨0x82⟩, .interrupt, 8, 10⟩]

/-- A class with one interface and two settings of it. -/
theorem configurationDescriptor_bytes_settings :
    ∃ f buf', descriptorWriter (UsbDeviceBuilder.new ⟨0, 0⟩ []).config [SettingsClass.mk]
        ⟨.in_, .standard, .device, 6, 0x200, 0, 255⟩ = some f ∧
      acceptWriter f (List.replicate 64 0) = .done (.ok 48) buf' ∧
      buf'.take 48 = [9, 2, 48, 0, 1, 1, 0, 0x80, 50,
        9, 4, 0, 0, 2, 0xff, 0, 0, 0, 7, 5, 0x81, 2, 64, 0, 0, 7, 5, 0x01, 2, 64, 0, 0,
        9, 4, 0, 1, 1, 0xff, 1, 0, 0, 7, 5, 0x82, 3, 8, 0, 10] := by
  have hBounds : ∀ cls ∈ [SettingsClass.mk],
      (UsbClass.getConfigurationDescriptors cls).Calls DescriptorCall.InBounds := by
    intro cls _
    refine DescriptorProgram.calls_sequence fun call hCall => ?_
    simp only [List.mem_cons, List.not_mem_nil, or_false] at hCall
    rcases hCall with rfl | rfl | rfl | rfl | rfl <;> trivial
  have hRecords : configurationRecords (UsbDeviceBuilder.new ⟨0, 0⟩ []).config [SettingsClass.mk]
      (List.replicate 64 0) = some [[
        .interface ⟨0⟩ 0 0xff 0 0 0,
        .endpoint ⟨⟨0x81⟩, .bulk, 64, 0⟩ [],
        .endpoint ⟨⟨0x01⟩, .bulk, 64, 0⟩ [],
        .interface ⟨0⟩ 1 0xff 1 0 0,
        .endpoint ⟨⟨0x82⟩, .interrupt, 8, 10⟩ []]] := by decide +kernel
  have hType : (⟨.in_, .standard, .device, 6, 0x200, 0, 255⟩ : Request).descriptorTypeIndex.1 =
      DescriptorType.configuration := rfl
  obtain ⟨f, buf', hWriter, hDone, -, hBytes⟩ :=
    configurationDescriptor_bytes hType hBounds hRecords
  exact ⟨f, buf', hWriter, hDone, hBytes⟩

end UsbStack
