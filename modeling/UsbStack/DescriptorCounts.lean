import UsbStack.BosDescriptor

/-! # Counts and failed calls

`interface`, `endpoint` and `capability` count a descriptor before they check whether it fits, and
an interface moves the mark of its endpoint count as well. As long as the counted descriptors fit,
a failed call changes nothing and the counts are those of the descriptors that are there.
-/

namespace UsbStack

set_option autoImplicit false

open Foundation Exec

namespace DescriptorWriter

/-- What a call that fails leaves as it was. -/
structure Unchanged (w w' : DescriptorWriter) : Prop where
  position : w'.position = w.position
  written : w'.written = w.written
  numInterfacesMark : w'.numInterfacesMark = w.numInterfacesMark
  numEndpointsMark : w'.numEndpointsMark = w.numEndpointsMark
  writeIads : w'.writeIads = w.writeIads

theorem unchanged_refl (w : DescriptorWriter) : Unchanged w w := ⟨rfl, rfl, rfl, rfl, rfl⟩

end DescriptorWriter

namespace DescriptorCall

def added (iads : Bool) (w w' : DescriptorWriter) : DescriptorCall → Option Record
  | writeWith descriptorType _ => some (.other descriptorType (w'.written.drop (w.position + 2)))
  | endpointEx ep _ => some (.endpoint ep (w'.written.drop (w.position + 7)))
  | call => call.record iads w.slice

/-- A descriptor that is counted before its size is checked fits. Without an interface before it,
an endpoint is refused before it is counted. -/
def Fits (w : DescriptorWriter) : DescriptorCall → Prop
  | interface _ _ _ _ | interfaceAlt _ _ _ _ _ _ => w.position + 9 ≤ w.buf.length
  | endpoint _ => w.numEndpointsMark = none ∨ w.position + 7 ≤ w.buf.length
  | endpointEx _ f => w.numEndpointsMark = none ∨ w.position + 7 ≤ w.buf.length ∧
    ∀ r out, f.run (w.slice.drop 5) = .done r out →
      ∃ count, r = .ok count ∧ w.position + (7 + count) ≤ w.buf.length
  | _ => True

def callback : DescriptorCall → Option SliceFn
  | writeWith _ f | endpointEx _ f => some f
  | _ => none

end DescriptorCall

/-- The states of the writer while the classes describe themselves and every counted descriptor
fits, with the records that have been written. A class may go on after an error. -/
inductive Writing (config : Config) (buf : List UInt8) :
    List (List Record) → List Record → DescriptorWriter → Prop where
  | configuration {w : DescriptorWriter}
      (hDone : DescriptorWriter.configuration config (.new buf) = .done (.ok ()) w) :
      Writing config buf [] [] w
  | success {closed : List (List Record)} {current : List Record} {w w' : DescriptorWriter}
      {call : DescriptorCall} {reply : call.Reply} (h : Writing config buf closed current w)
      (hFits : call.Fits w) (hDone : call.perform w = .done (.ok reply) w')
      (hOk : call.result reply = .ok ()) :
      Writing config buf closed
        (current ++ (call.added config.compositeWithIads w w').toList) w'
  | failure {closed : List (List Record)} {current : List Record} {w w' : DescriptorWriter}
      {call : DescriptorCall} {reply : call.Reply} {e : UsbError}
      (h : Writing config buf closed current w) (hFits : call.Fits w)
      (hDone : call.perform w = .done (.ok reply) w') (hError : call.result reply = .error e) :
      Writing config buf closed current w'
  | endClass {closed : List (List Record)} {current : List Record} {w : DescriptorWriter}
      (h : Writing config buf closed current w) :
      Writing config buf (closed ++ [current]) [] { w with numEndpointsMark := none }

namespace Record

/-- The number of endpoints behind any record of a class fits in a byte. -/
def Bounded : List Record → Prop
  | [] => True
  | _ :: rest => endpoints rest ≤ 255 ∧ Bounded rest

theorem bounded_append {records : List Record} {record : Record} (h : Bounded records)
    (hNone : endpoints [record] = 0) : Bounded (records ++ [record]) := by
  induction records with
  | nil => exact ⟨Nat.zero_le _, trivial⟩
  | cons first rest ih =>
    rw [List.cons_append, Bounded]
    refine ⟨?_, ih h.2⟩
    rw [endpoints_append, hNone, ite_self, Nat.add_zero]
    exact h.1

theorem bounded_append_of_unmarked {records : List Record} {record : Record} (h : Bounded records)
    (hMark : mark records = none) (hCount : endpoints records < 255)
    (hOne : endpoints [record] ≤ 1) : Bounded (records ++ [record]) := by
  induction records with
  | nil => exact ⟨Nat.zero_le _, trivial⟩
  | cons first rest ih =>
    have hFirst : first.isInterface = false := by
      cases first with
      | interface number setting cls sub protocol string =>
        rw [mark, Option.or_eq_none_iff] at hMark
        cases hMark.2
      | _ => rfl
    have hLe : endpoints rest ≤ endpoints (first :: rest) := by
      cases first with
      | interface number setting cls sub protocol string => cases hFirst
      | endpoint ep extra => exact Nat.le_succ _
      | other descriptorType payload => exact Nat.le_refl _
    have hRest : mark rest = none := (mark_cons_eq_none hFirst rest).mp hMark
    rw [List.cons_append, Bounded]
    refine ⟨?_, ih h.2 hRest (by omega)⟩
    rw [endpoints_append, if_pos hRest]
    omega

theorem bounded_append_endpoint {records : List Record} {k : Nat} {count : UInt8}
    (h : Bounded records) (hMark : mark records = some k)
    (hCount : (assemble records)[k]? = some count) (hFull : count ≠ 255) (ep : Endpoint)
    (extra : List UInt8) : Bounded (records ++ [.endpoint ep extra]) := by
  induction records generalizing k with
  | nil => cases hMark
  | cons first rest ih =>
    rw [mark] at hMark
    rw [assemble] at hCount
    rw [List.cons_append, Bounded]
    cases hRest : mark rest with
    | some j =>
      rw [hRest, Option.map_some, Option.some_or] at hMark
      cases hMark
      rw [length_bytes first 0 (endpoints rest), List.getElem?_append_right (Nat.le_add_right _ _),
        Nat.add_sub_cancel_left] at hCount
      refine ⟨?_, ih h.2 hRest hCount⟩
      rw [endpoints_append, if_neg (by rw [hRest]; exact Option.some_ne_none j), Nat.add_zero]
      exact h.1
    | none =>
      rw [hRest, Option.map_none, Option.none_or] at hMark
      cases first with
      | interface number setting cls sub protocol string =>
        cases hMark
        have hByte : (endpoints rest).toUInt8 = count := Option.some.inj hCount
        have hLt : endpoints rest < 255 := by
          refine Nat.lt_of_le_of_ne h.1 fun hEq => hFull ?_
          rw [← hByte, hEq]
          rfl
        refine ⟨?_, bounded_append_of_unmarked h.2 hRest hLt (Nat.le_refl _)⟩
        rw [endpoints_append, if_pos hRest]
        exact hLt
      | _ => cases hMark

end Record

namespace DescriptorWriter

variable {w w' : DescriptorWriter} {e : UsbError}

theorem unchanged_of_writeWith {descriptorType : UInt8} {f : SliceFn}
    (h : writeWith descriptorType f w = .done (.error e) w') : Unchanged w w' := by
  rw [writeWith_apply] at h
  split at h
  · cases h
    exact unchanged_refl w
  · rename_i hRoom
    have hBehind (out : List UInt8) :
        Unchanged w { w with buf := overwrite w.buf (w.position + 2) out } :=
      ⟨rfl, take_overwrite_of_ge out (Nat.le_add_right _ _) (Nat.not_lt.mp hRoom), rfl, rfl, rfl⟩
    split at h
    · cases h
    · cases h
      exact hBehind _
    · split at h
      · split at h
        · cases h
        · cases h
          exact hBehind _
      · cases h

theorem unfailing_increment (mark : Nat) : Unfailing (increment mark) := by
  intro w
  rw [increment, post_bind, post_get]
  dsimp only
  cases w.buf[mark]? with
  | none => trivial
  | some count =>
    dsimp only
    by_cases hFull : count = 255
    · rw [if_pos hFull]
      trivial
    · rw [if_neg hFull]
      exact ⟨(), rfl⟩

theorem increment_done_buf {mark : Nat} (h : increment mark w = .done (.ok ()) w') :
    ∃ buf, buf.length = w.buf.length ∧ w' = { w with buf := buf } := by
  obtain ⟨count, -, -, rfl⟩ := increment_done h
  exact ⟨_, List.length_set, rfl⟩

theorem write_of_le {descriptorType : UInt8} {descriptor : List UInt8}
    (hRoom : w.position + (2 + descriptor.length) ≤ w.buf.length) (hByte : descriptor.length ≤ 254) :
    ∃ w', write descriptorType descriptor w = .done (.ok ()) w' := by
  have hWindow : descriptor.length ≤ w.slice.length := by
    rw [slice, List.length_take, List.length_drop]
    omega
  rw [write, writeWith_apply, if_neg (by omega), SliceFn.copy_run_apply,
    if_neg (Nat.not_lt.mpr hWindow)]
  dsimp only
  rw [if_neg (by omega)]
  exact ⟨_, rfl⟩

end DescriptorWriter

section Describing

open DescriptorWriter Record

variable {config : Config} {closed : List (List Record)} {current : List Record}
  {w w' : DescriptorWriter} {call : DescriptorCall} {reply : call.Reply} {e : UsbError}

theorem Describing.unchanged (h : Describing config closed current w) (hSame : Unchanged w w')
    (hLength : w'.buf.length = w.buf.length) : Describing config closed current w' where
  written := hSame.written.trans h.written
  room := by
    rw [hSame.position, hLength]
    exact h.room
  numInterfacesMark := hSame.numInterfacesMark.trans h.numInterfacesMark
  numEndpointsMark := hSame.numEndpointsMark.trans h.numEndpointsMark
  writeIads := hSame.writeIads.trans h.writeIads

theorem Describing.added (h : Describing config closed current w)
    (hDone : call.perform w = .done (.ok reply) w') (hOk : call.result reply = .ok ()) :
    Describing config closed
      (current ++ (call.added config.compositeWithIads w w').toList) w' := by
  have hTrue : (call.result reply).toBool = true := by
    rw [hOk]
    rfl
  cases call with
  | writeWith descriptorType f =>
    obtain rfl : reply = .ok () := hOk
    obtain ⟨count, out, -, hRoom, hAppended⟩ := appended_of_writeWith (of_attempt_ok hDone)
    have hPayload : w'.written.drop (w.position + 2) = w.payload count out :=
      hAppended.drop_written hRoom 2
    rw [DescriptorCall.added, hPayload]
    exact h.other hAppended
  | endpointEx ep f =>
    obtain rfl : reply = .ok () := hOk
    obtain ⟨count, part, extra, -, -, hExtra, hNext⟩ := h.endpointEx (of_attempt_ok hDone)
    rw [DescriptorCall.added, ← hExtra]
    exact hNext
  | _ =>
    refine h.call ?_ hDone hTrue
    trivial

theorem Describing.interfaceAlt_ok (h : Describing config closed current w)
    {number : InterfaceNumber}
    {alternateSetting interfaceClass interfaceSubClass interfaceProtocol : UInt8}
    {string : Option StringIndex} {r : Except UsbError Unit}
    (hRoom : w.position + 9 ≤ w.buf.length)
    (hDone : DescriptorWriter.interfaceAlt number alternateSetting interfaceClass
      interfaceSubClass interfaceProtocol string w = .done r w') : r = .ok () := by
  have hMark : Unfailing (when (alternateSetting = defaultAlternateSetting)
      (incrementMark w.numInterfacesMark)) := by
    rw [h.numInterfacesMark]
    intro v
    exact post_when (fun _ => unfailing_increment 4 v) fun _ => ⟨(), rfl⟩
  rw [DescriptorWriter.interfaceAlt, bind_apply, get_apply] at hDone
  obtain ⟨_, counted, hCount, hDone⟩ := hMark.of_bind hDone
  obtain ⟨buf, hLength, rfl⟩ : ∃ buf, buf.length = w.buf.length ∧
      counted = { w with buf := buf } := by
    rw [h.numInterfacesMark] at hCount
    unfold when at hCount
    split at hCount
    · exact increment_done_buf hCount
    · cases hCount
      exact ⟨w.buf, rfl, rfl⟩
  obtain ⟨_, marked, ⟨⟩, hDone⟩ := (unfailing_modify _).of_bind hDone
  have hLong : w.position + (2 + 7) ≤ buf.length := hLength ▸ hRoom
  have hWrite : ∃ w'', write DescriptorType.interface [number.value, alternateSetting, 0,
      interfaceClass, interfaceSubClass, interfaceProtocol, (string.map StringIndex.value).getD 0]
      { w with buf := buf, numEndpointsMark := some (w.position + 4) } = .done (.ok ()) w'' :=
    write_of_le hLong (Nat.le_of_ble_eq_true rfl)
  obtain ⟨w'', hWrite⟩ := hWrite
  cases hWrite.symm.trans hDone
  rfl

/-- An endpoint descriptor that fits is written, unless there are too many of them or the callback
panics; without an interface it is refused at once. -/
theorem Describing.endpointEx_done (h : Describing config closed current w) {ep : Endpoint}
    {f : SliceFn} {r : Except UsbError Unit}
    (hFits : w.numEndpointsMark = none ∨ w.position + 7 ≤ w.buf.length ∧
      ∀ r out, f.run (w.slice.drop 5) = .done r out →
        ∃ count, r = .ok count ∧ w.position + (7 + count) ≤ w.buf.length)
    (hDone : DescriptorWriter.endpointEx ep f w = .done r w') : r = .ok () ∨ w' = w := by
  rw [DescriptorWriter.endpointEx, bind_apply, get_apply] at hDone
  dsimp only at hDone
  cases hMark : w.numEndpointsMark with
  | none =>
    rw [hMark] at hDone
    cases hDone
    exact .inr rfl
  | some mark =>
    obtain ⟨hRoom, hCallback⟩ := hFits.resolve_left (by rw [hMark]; exact Option.some_ne_none mark)
    rw [hMark] at hDone
    obtain ⟨_, counted, hCount, hDone⟩ := (unfailing_increment mark).of_bind hDone
    obtain ⟨buf, hLength, hEq⟩ := increment_done_buf hCount
    obtain ⟨buf', hEq', hSlice, -⟩ := h.countEndpoint (by rw [hMark]; exact hCount) ep []
    have hWindow : 5 ≤ w.slice.length := by
      rw [slice, List.length_take, List.length_drop]
      omega
    have hCounted : counted.position = w.position ∧ counted.buf.length = w.buf.length := by
      rw [hEq]
      exact ⟨rfl, hLength⟩
    rw [writeWith_apply, if_neg (by omega), hSlice, endpointFn_apply hWindow] at hDone
    cases hRun : f.run (w.slice.drop 5) with
    | panic reason =>
      rw [hRun] at hDone
      cases hDone
    | done r' part =>
      obtain ⟨count, rfl, hFit⟩ := hCallback _ _ hRun
      rw [hRun] at hDone
      dsimp only at hDone
      by_cases hLarge : w.slice.length < count + 5 ∧ usizeMax < count + 5
      · rw [if_pos hLarge] at hDone
        cases hDone
      · rw [if_neg hLarge] at hDone
        dsimp only at hDone
        rw [if_neg (by omega)] at hDone
        cases hDone
        exact .inl rfl

/-- A call that fails leaves the writer as it was. -/
theorem Describing.failed (h : Describing config closed current w) (hFits : call.Fits w)
    (hDone : call.perform w = .done (.ok reply) w') (hError : call.result reply = .error e) :
    Unchanged w w' := by
  have hOkError {r : Except UsbError Unit} (hOk : r = .ok ()) (hError : r = .error e) : False := by
    rw [hOk] at hError
    cases hError
  cases call with
  | position => cases hError
  | write descriptorType descriptor =>
    obtain rfl : reply = .error e := hError
    exact unchanged_of_writeWith (of_attempt_ok hDone)
  | writeWith descriptorType f =>
    obtain rfl : reply = .error e := hError
    exact unchanged_of_writeWith (of_attempt_ok hDone)
  | iad firstInterface interfaceCount functionClass functionSubClass functionProtocol string =>
    obtain rfl : reply = .error e := hError
    have hIad := of_attempt_ok hDone
    rw [DescriptorWriter.iad, bind_apply, get_apply] at hIad
    dsimp only at hIad
    split at hIad
    · cases hIad
    · exact unchanged_of_writeWith hIad
  | interface number interfaceClass interfaceSubClass interfaceProtocol =>
    exact (hOkError (h.interfaceAlt_ok hFits (of_attempt_ok hDone)) hError).elim
  | interfaceAlt number alternateSetting interfaceClass interfaceSubClass interfaceProtocol string =>
    exact (hOkError (h.interfaceAlt_ok hFits (of_attempt_ok hDone)) hError).elim
  | endpoint ep =>
    have hEmpty (r : Except UsbError Nat) (out : List UInt8)
        (hRun : (pure 0 : Exec Panic UsbError (List UInt8) Nat) (w.slice.drop 5) = .done r out) :
        r = .ok 0 := by
      cases hRun
      rfl
    rcases h.endpointEx_done (hFits.imp_right fun hRoom =>
      ⟨hRoom, fun r out hRun => ⟨0, hEmpty r out hRun, hRoom⟩⟩) (of_attempt_ok hDone) with hOk | rfl
    · exact (hOkError hOk hError).elim
    · exact unchanged_refl w'
  | endpointEx ep f =>
    rcases h.endpointEx_done hFits (of_attempt_ok hDone) with hOk | rfl
    · exact (hOkError hOk hError).elim
    · exact unchanged_refl w'

structure Counts (config : Config) (closed : List (List Record)) (current : List Record)
    (w : DescriptorWriter) : Prop extends Describing config closed current w where
  interfaces_le : (closed.flatten ++ current).countP isDefaultInterface ≤ 255
  closed_bounded : ∀ records ∈ closed, Bounded records
  current_bounded : Bounded current

theorem counts_configuration {buf : List UInt8}
    (hDone : DescriptorWriter.configuration config (.new buf) = .done (.ok ()) w) :
    Counts config [] [] w where
  toDescribing := describing_configuration hDone
  interfaces_le := Nat.zero_le _
  closed_bounded := by simp
  current_bounded := trivial

theorem Counts.endClass (h : Counts config closed current w) :
    Counts config (closed ++ [current]) [] { w with numEndpointsMark := none } where
  toDescribing := h.toDescribing.endClass
  interfaces_le := by
    have hSame : (closed ++ [current]).flatten ++ [] = closed.flatten ++ current := by simp
    rw [hSame]
    exact h.interfaces_le
  closed_bounded := by
    intro records hRecords
    rcases List.mem_append.mp hRecords with hClosed | hCurrent
    · exact h.closed_bounded records hClosed
    · rw [List.mem_singleton.mp hCurrent]
      exact h.current_bounded
  current_bounded := trivial

theorem Counts.failed (h : Counts config closed current w) (hFits : call.Fits w)
    (hDone : call.perform w = .done (.ok reply) w') (hError : call.result reply = .error e) :
    Counts config closed current w' where
  toDescribing := h.toDescribing.unchanged (h.toDescribing.failed hFits hDone hError)
    ((keepsLength_perform call).of_done hDone)
  interfaces_le := h.interfaces_le
  closed_bounded := h.closed_bounded
  current_bounded := h.current_bounded

theorem Counts.uncounted (h : Counts config closed current w) {record : Record}
    (hNext : Describing config closed (current ++ [record]) w')
    (hInterface : record.isDefaultInterface = false) (hEndpoint : endpoints [record] = 0) :
    Counts config closed (current ++ [record]) w' where
  toDescribing := hNext
  interfaces_le := by
    rw [← List.append_assoc, List.countP_append, List.countP_singleton, hInterface]
    exact h.interfaces_le
  closed_bounded := h.closed_bounded
  current_bounded := bounded_append h.current_bounded hEndpoint

/-- The interface is counted when its record is added. -/
theorem Counts.interfaceAlt (h : Counts config closed current w) {number : InterfaceNumber}
    {alternateSetting interfaceClass interfaceSubClass interfaceProtocol : UInt8}
    {string : Option StringIndex}
    (hDone : DescriptorWriter.interfaceAlt number alternateSetting interfaceClass
      interfaceSubClass interfaceProtocol string w = .done (.ok ()) w') :
    Counts config closed (current ++ [.interface number alternateSetting interfaceClass
      interfaceSubClass interfaceProtocol ((string.map StringIndex.value).getD 0)]) w' where
  toDescribing := h.toDescribing.interfaceAlt hDone
  interfaces_le := by
    rw [← List.append_assoc, List.countP_append, List.countP_singleton, isDefaultInterface]
    by_cases hDefault : alternateSetting = defaultAlternateSetting
    · obtain ⟨_, _, ⟨⟩, hDone⟩ := of_bind_ok hDone
      obtain ⟨_, counted, hCount, -⟩ := of_bind_ok hDone
      rw [when_of_true hDefault, h.numInterfacesMark] at hCount
      obtain ⟨count, hByte, hFull, -⟩ := increment_done hCount
      rw [h.toDescribing.getElem?_interfaces] at hByte
      have hLe := h.interfaces_le
      have hNe : (closed.flatten ++ current).countP isDefaultInterface ≠ 255 := by
        intro hEq
        rw [hEq] at hByte
        exact hFull (Option.some.inj hByte).symm
      rw [if_pos (decide_eq_true hDefault)]
      omega
    · rw [if_neg (fun hTrue => hDefault (of_decide_eq_true hTrue))]
      exact h.interfaces_le
  closed_bounded := h.closed_bounded
  current_bounded := bounded_append h.current_bounded rfl

/-- The endpoint is counted when its record is added. -/
theorem Counts.endpointEx (h : Counts config closed current w) {ep : Endpoint} {f : SliceFn}
    {extra : List UInt8} (hDone : DescriptorWriter.endpointEx ep f w = .done (.ok ()) w')
    (hNext : Describing config closed (current ++ [.endpoint ep extra]) w') :
    Counts config closed (current ++ [.endpoint ep extra]) w' where
  toDescribing := hNext
  interfaces_le := by
    rw [← List.append_assoc, List.countP_append]
    exact h.interfaces_le
  closed_bounded := h.closed_bounded
  current_bounded := by
    obtain ⟨_, _, ⟨⟩, hDone⟩ := of_bind_ok hDone
    obtain ⟨_, counted, hCount, -⟩ := of_bind_ok hDone
    rw [h.numEndpointsMark] at hCount
    cases hMark : mark current with
    | none =>
      rw [hMark] at hCount
      cases hCount
    | some k =>
      rw [hMark, Option.map_some] at hCount
      obtain ⟨count, hByte, hFull, -⟩ := increment_done hCount
      rw [(h.toDescribing.getElem?_mark hMark).2] at hByte
      exact bounded_append_endpoint h.current_bounded hMark hByte hFull ep extra

/-- A call that succeeds keeps the counts in step with the records. -/
theorem Counts.success (h : Counts config closed current w)
    (hDone : call.perform w = .done (.ok reply) w') (hOk : call.result reply = .ok ()) :
    Counts config closed (current ++ (call.added config.compositeWithIads w w').toList) w' := by
  have hNext := h.toDescribing.added hDone hOk
  cases call with
  | position =>
    cases hDone
    change Counts config closed (current ++ []) w
    rw [List.append_nil]
    exact h
  | write descriptorType descriptor => exact h.uncounted hNext rfl rfl
  | writeWith descriptorType f => exact h.uncounted hNext rfl rfl
  | iad firstInterface interfaceCount functionClass functionSubClass functionProtocol string =>
    change Describing config closed (current ++ Option.toList (ite _ _ _)) w' at hNext
    change Counts config closed (current ++ Option.toList (ite _ _ _)) w'
    by_cases hIads : config.compositeWithIads = true
    · rw [if_pos hIads] at hNext ⊢
      exact h.uncounted hNext rfl rfl
    · rw [if_neg hIads, Option.toList_none, List.append_nil] at hNext ⊢
      exact ⟨hNext, h.interfaces_le, h.closed_bounded, h.current_bounded⟩
  | interface number interfaceClass interfaceSubClass interfaceProtocol =>
    obtain rfl : reply = .ok () := hOk
    exact h.interfaceAlt (of_attempt_ok hDone)
  | interfaceAlt number alternateSetting interfaceClass interfaceSubClass interfaceProtocol string =>
    obtain rfl : reply = .ok () := hOk
    exact h.interfaceAlt (of_attempt_ok hDone)
  | endpoint ep =>
    obtain rfl : reply = .ok () := hOk
    exact h.endpointEx (of_attempt_ok hDone) hNext
  | endpointEx ep f =>
    obtain rfl : reply = .ok () := hOk
    exact h.endpointEx (of_attempt_ok hDone) hNext

theorem counts_writing {buf : List UInt8} (h : Writing config buf closed current w) :
    Counts config closed current w := by
  induction h with
  | configuration hDone => exact counts_configuration hDone
  | success h hFits hDone hOk ih => exact ih.success hDone hOk
  | failure h hFits hDone hError ih => exact ih.failed hFits hDone hError
  | endClass h ih => exact ih.endClass

/-- Only a callback that returns more than its slice can make the sum overflow. -/
theorem writeWith_panic {descriptorType : UInt8} {f : SliceFn} {reason : Panic}
    (h : writeWith descriptorType f w = .panic reason) :
    f.run w.slice = .panic reason ∨ reason = .overflow ∧ ¬ f.InBounds := by
  rw [writeWith_apply] at h
  split at h
  · cases h
  · rename_i hHeader
    have hRoom := length_slice (Nat.not_lt.mp hHeader)
    split at h
    · cases h
      exact .inl ‹_›
    · cases h
    · rename_i count out hRun
      split at h
      · split at h
        · cases h
          refine .inr ⟨rfl, fun hBounds => ?_⟩
          have hCount := hBounds _ _ _ hRun
          omega
        · cases h
      · cases h

theorem write_ne_panic {descriptorType : UInt8} {descriptor : List UInt8} {reason : Panic} :
    write descriptorType descriptor w ≠ .panic reason := by
  intro h
  rcases writeWith_panic h with hCopy | ⟨-, hNot⟩
  · rw [SliceFn.copy_run_apply] at hCopy
    split at hCopy <;> cases hCopy
  · exact hNot (SliceFn.inBounds_copy descriptor)

theorem increment_panic {mark : Nat} {reason : Panic} (hMark : mark < w.buf.length)
    (h : increment mark w = .panic reason) : reason = .overflow := by
  rw [increment_apply (List.getElem?_eq_getElem hMark)] at h
  split at h
  · cases h
    rfl
  · cases h

theorem inBounds_endpointFn (ep : Endpoint) {f : SliceFn} (hBounds : f.InBounds) :
    (endpointFn ep f).InBounds := by
  intro slice count out h
  obtain ⟨c, part, hRun, rfl, hLength, -⟩ := endpointFn_run h
  have hCount := hBounds _ _ _ hRun
  rw [List.length_drop] at hCount
  omega

theorem endpointFn_panic {ep : Endpoint} {f : SliceFn} {slice : List UInt8} {reason : Panic}
    (h : (endpointFn ep f).run slice = .panic reason) :
    f.run (slice.drop 5) = .panic reason ∨ reason = .overflow ∧ ¬ f.InBounds := by
  rcases Nat.lt_or_ge slice.length 5 with hShort | hLength
  · change endpointRun ep f slice = _ at h
    rw [endpointRun, bind_apply, get_apply] at h
    dsimp only at h
    rw [if_pos hShort] at h
    cases h
  · rw [endpointFn_apply hLength] at h
    split at h
    · rename_i count part hRun
      split at h
      · rename_i hLarge
        cases h
        refine .inr ⟨rfl, fun hBounds => ?_⟩
        have hCount := hBounds _ _ _ hRun
        rw [List.length_drop] at hCount
        omega
      · cases h
    · cases h
    · cases h
      exact .inl ‹_›

theorem Describing.interfaceAlt_panic (h : Describing config closed current w)
    {number : InterfaceNumber}
    {alternateSetting interfaceClass interfaceSubClass interfaceProtocol : UInt8}
    {string : Option StringIndex} {reason : Panic}
    (hPanic : DescriptorWriter.interfaceAlt number alternateSetting interfaceClass
      interfaceSubClass interfaceProtocol string w = .panic reason) : reason = .overflow := by
  have hMark : 4 < w.buf.length := by
    have hPosition := h.position
    have hRoom := h.room
    omega
  rw [DescriptorWriter.interfaceAlt, bind_apply, get_apply] at hPanic
  rcases of_bind_panic hPanic with hCount | ⟨_, counted, -, hPanic⟩
  · rw [h.numInterfacesMark] at hCount
    unfold when at hCount
    split at hCount
    · exact increment_panic hMark hCount
    · cases hCount
  · rcases of_bind_panic hPanic with hModify | ⟨_, marked, -, hWrite⟩
    · cases hModify
    · exact (write_ne_panic hWrite).elim

theorem Describing.endpointEx_panic (h : Describing config closed current w) {ep : Endpoint}
    {f : SliceFn} {reason : Panic}
    (hPanic : DescriptorWriter.endpointEx ep f w = .panic reason) :
    reason = .overflow ∨ ∃ slice, f.run slice = .panic reason := by
  rw [DescriptorWriter.endpointEx, bind_apply, get_apply] at hPanic
  rcases of_bind_panic hPanic with hCount | ⟨_, counted, -, hPanic⟩
  · rw [h.numEndpointsMark] at hCount
    cases hMark : mark current with
    | none =>
      rw [hMark] at hCount
      cases hCount
    | some k =>
      rw [hMark, Option.map_some] at hCount
      have hPosition := (h.getElem?_mark hMark).1
      exact .inl (increment_panic (Nat.lt_of_lt_of_le hPosition h.room) hCount)
  · rcases writeWith_panic hPanic with hFn | ⟨rfl, -⟩
    · exact (endpointFn_panic hFn).symm.imp And.left fun hRun => ⟨_, hRun⟩
    · exact .inl rfl

/-- The writer never leaves its buffer: a call panics only when a count or a sum overflows or in a
callback. -/
theorem Describing.panic (h : Describing config closed current w) {reason : Panic}
    (hPanic : call.perform w = .panic reason) :
    reason = .overflow ∨ ∃ f slice, call.callback = some f ∧ f.run slice = .panic reason := by
  cases call with
  | position => cases hPanic
  | write descriptorType descriptor => exact (write_ne_panic (of_attempt_panic hPanic)).elim
  | writeWith descriptorType f =>
    exact (writeWith_panic (of_attempt_panic hPanic)).symm.imp And.left fun hRun =>
      ⟨f, w.slice, rfl, hRun⟩
  | iad firstInterface interfaceCount functionClass functionSubClass functionProtocol string =>
    have hIad := of_attempt_panic hPanic
    rw [DescriptorWriter.iad, bind_apply, get_apply] at hIad
    dsimp only at hIad
    split at hIad
    · cases hIad
    · exact (write_ne_panic hIad).elim
  | interface number interfaceClass interfaceSubClass interfaceProtocol =>
    exact .inl (h.interfaceAlt_panic (of_attempt_panic hPanic))
  | interfaceAlt number alternateSetting interfaceClass interfaceSubClass interfaceProtocol string =>
    exact .inl (h.interfaceAlt_panic (of_attempt_panic hPanic))
  | endpoint ep =>
    refine (h.endpointEx_panic (of_attempt_panic hPanic)).imp_right ?_
    rintro ⟨slice, hRun⟩
    cases hRun
  | endpointEx ep f =>
    refine (h.endpointEx_panic (of_attempt_panic hPanic)).imp_right ?_
    rintro ⟨slice, hRun⟩
    exact ⟨f, slice, rfl, hRun⟩

end Describing

/-- The capability fits in a byte and in the rest of the buffer. -/
def BosCall.Fits (b : BosWriter) (call : BosCall) : Prop :=
  b.numCapsMark = none ∨ 3 + call.data.length ≤ 255 ∧
    b.writer.position + (3 + call.data.length) ≤ b.writer.buf.length

inductive BosWriting (buf : List UInt8) : List BosCall → BosWriter → Prop where
  | bos {b : BosWriter} (hDone : BosWriter.bos (.new (.new buf)) = .done (.ok ()) b) :
      BosWriting buf [.usb20Extension] b
  | success {caps : List BosCall} {b b' : BosWriter} {call : BosCall} (h : BosWriting buf caps b)
      (hFits : call.Fits b)
      (hDone : BosWriter.capability call.capabilityType call.data b = .done (.ok ()) b') :
      BosWriting buf (caps ++ [call]) b'
  | failure {caps : List BosCall} {b b' : BosWriter} {call : BosCall} {e : UsbError}
      (h : BosWriting buf caps b) (hFits : call.Fits b)
      (hDone : BosWriter.capability call.capabilityType call.data b = .done (.error e) b') :
      BosWriting buf caps b'

theorem Capabilities.not_error {caps : List BosCall} {b b' : BosWriter} {cap : BosCall}
    {e : UsbError} (h : Capabilities caps b) (hFits : cap.Fits b) :
    BosWriter.capability cap.capabilityType cap.data b ≠ .done (.error e) b' := by
  intro hDone
  obtain ⟨hByte, hRoom⟩ := hFits.resolve_left (by rw [h.numCapsMark]; exact Option.some_ne_none 4)
  rw [h.capability_apply] at hDone
  split at hDone
  · cases hDone
  · rw [if_neg (by omega)] at hDone
    cases hDone

theorem Capabilities.panic {caps : List BosCall} {b : BosWriter} {cap : BosCall} {reason : Panic}
    (h : Capabilities caps b)
    (hPanic : BosWriter.capability cap.capabilityType cap.data b = .panic reason) :
    reason = .overflow := by
  rw [h.capability_apply] at hPanic
  split at hPanic
  · cases hPanic
    rfl
  · split at hPanic <;> cases hPanic

theorem capabilities_bosWriting {buf : List UInt8} {caps : List BosCall} {b : BosWriter}
    (h : BosWriting buf caps b) : Capabilities caps b := by
  induction h with
  | bos hDone => exact capabilities_bos hDone
  | success h hFits hDone ih => exact ih.call hDone
  | failure h hFits hDone ih => exact absurd hDone (ih.not_error hFits)

open DescriptorWriter

/-- In every run in which the counted descriptors fit, a failed call changes nothing, the counts are
those of the records that have been written, and no call leaves the buffer. -/
theorem failedCall_unchanged (config : Config) (buf : List UInt8) :
    (∀ (closed : List (List Record)) (current : List Record) (w : DescriptorWriter),
      Writing config buf closed current w →
      (∀ (call : DescriptorCall) (reply : call.Reply) (w' : DescriptorWriter) (e : UsbError),
        call.Fits w → call.perform w = .done (.ok reply) w' → call.result reply = .error e →
        Unchanged w w') ∧
      w.written = progressBytes config closed current ∧
      (closed.flatten ++ current).countP Record.isDefaultInterface ≤ 255 ∧
      (∀ records ∈ closed ++ [current], Record.Bounded records) ∧
      (∀ (call : DescriptorCall) (reason : Panic), call.perform w = .panic reason →
        reason = .overflow ∨
          ∃ f slice, call.callback = some f ∧ f.run slice = .panic reason)) ∧
    (∀ (caps : List BosCall) (b : BosWriter), BosWriting buf caps b →
      (∀ (call : BosCall) (b' : BosWriter) (e : UsbError), call.Fits b →
        BosWriter.capability call.capabilityType call.data b = .done (.error e) b' →
        Unchanged b.writer b'.writer ∧ b'.numCapsMark = b.numCapsMark) ∧
      b.writer.written = bosHeader 0 caps.length ++ caps.flatMap BosCall.bytes ∧
      caps.length ≤ 255 ∧
      (∀ (call : BosCall) (reason : Panic),
        BosWriter.capability call.capabilityType call.data b = .panic reason →
        reason = .overflow)) := by
  constructor
  · intro closed current w hRun
    have hCounts := counts_writing hRun
    refine ⟨?_, hCounts.written, hCounts.interfaces_le, ?_, ?_⟩
    · intro call reply w' e hFits hDone hError
      exact hCounts.toDescribing.failed hFits hDone hError
    · intro records hRecords
      rcases List.mem_append.mp hRecords with hClosed | hCurrent
      · exact hCounts.closed_bounded records hClosed
      · rw [List.mem_singleton.mp hCurrent]
        exact hCounts.current_bounded
    · intro call reason hPanic
      exact hCounts.toDescribing.panic hPanic
  · intro caps b hRun
    have hCaps := capabilities_bosWriting hRun
    refine ⟨?_, hCaps.written, hCaps.count_le, ?_⟩
    · intro call b' e hFits hDone
      exact absurd hDone (hCaps.not_error hFits)
    · intro call reason hPanic
      exact hCaps.panic hPanic

/-- A write that does not fit behind an interface descriptor, and one capability. -/
theorem failedCall_unchanged_write :
    (∃ w w', Writing (UsbDeviceBuilder.new ⟨0, 0⟩ []).config (List.replicate 24 0) []
        [.interface ⟨0⟩ 0 0xff 0 0 0] w ∧
      (DescriptorCall.write 0x24 [1, 2, 3, 4, 5]).perform w =
        .done (.ok (.error .bufferOverflow)) w' ∧ Unchanged w w') ∧
    ∃ b, BosWriting (List.replicate 16 0) [.usb20Extension] b ∧
      b.writer.written = [5, 15, 0, 0, 1, 7, 16, 2, 0, 0, 0, 0] := by
  constructor
  · have hDone : ∃ header w w', DescriptorWriter.configuration
        (UsbDeviceBuilder.new ⟨0, 0⟩ []).config (.new (List.replicate 24 0)) =
          .done (.ok ()) header ∧
        (DescriptorCall.interface ⟨0⟩ 0xff 0 0).perform header = .done (.ok (.ok ())) w ∧
        (DescriptorCall.interface ⟨0⟩ 0xff 0 0).Fits header ∧
        (DescriptorCall.write 0x24 [1, 2, 3, 4, 5]).perform w =
          .done (.ok (.error .bufferOverflow)) w' :=
      ⟨_, _, _, rfl, rfl, Nat.le_of_ble_eq_true rfl, rfl⟩
    obtain ⟨header, w, w', hHeader, hInterface, hFits, hWrite⟩ := hDone
    have hRun : Writing (UsbDeviceBuilder.new ⟨0, 0⟩ []).config (List.replicate 24 0) []
        [.interface ⟨0⟩ 0 0xff 0 0 0] w := (Writing.configuration hHeader).success hFits hInterface rfl
    exact ⟨w, w', hRun, hWrite, ((failedCall_unchanged _ _).1 _ _ _ hRun).1
      (.write 0x24 [1, 2, 3, 4, 5]) _ _ _ trivial hWrite rfl⟩
  · have hDone : ∃ b, BosWriter.bos (.new (.new (List.replicate 16 0))) = .done (.ok ()) b :=
      ⟨_, rfl⟩
    obtain ⟨b, hBos⟩ := hDone
    have hRun := BosWriting.bos hBos
    exact ⟨b, hRun, ((failedCall_unchanged (UsbDeviceBuilder.new ⟨0, 0⟩ []).config _).2 _ _ hRun).2.1⟩

theorem failedCall_counted :
    (∃ w w', DescriptorWriter.configuration (UsbDeviceBuilder.new ⟨0, 0⟩ []).config
        (.new (List.replicate 12 0)) = .done (.ok ()) w ∧
      (DescriptorCall.interface ⟨0⟩ 0xff 0 0).perform w =
        .done (.ok (.error .bufferOverflow)) w' ∧
      w.written[4]? = some 0 ∧ w'.written[4]? = some 1 ∧ w'.numEndpointsMark ≠ w.numEndpointsMark ∧
      (DescriptorCall.endpoint ⟨⟨0x81⟩, .bulk, 64, 0⟩).perform w' = .panic .sliceIndex) ∧
    ∃ b b', BosWriter.bos (.new (.new (List.replicate 16 0))) = .done (.ok ()) b ∧
      BosWriter.capability 5 [1, 2] b = .done (.error .bufferOverflow) b' ∧
      b.writer.written[4]? = some 1 ∧ b'.writer.written[4]? = some 2 := by
  constructor
  · refine ⟨_, _, rfl, rfl, rfl, rfl, ?_, rfl⟩
    intro h
    cases h
  · exact ⟨_, _, rfl, rfl, rfl, rfl⟩

end UsbStack
