import UsbStack.LeftRequests
import UsbStack.Visits

/-! # The requests for the buffer of the test class

The other classes leave the requests to the test class, which takes the data into its buffer, or
answers with what is there.
-/

namespace UsbStack

set_option autoImplicit false

open Foundation Exec

variable {B C : Type} {sizes : Sizes} {value index length : UInt16}

namespace TestClass

def writeRequest (value index length : UInt16) : Request :=
  ⟨.out, .vendor, .device, reqWriteBuffer, value, index, length⟩

def readRequest (value index length : UInt16) : Request :=
  ⟨.in_, .vendor, .device, reqReadBuffer, value, index, length⟩

variable (value index) in
theorem controlOut_writeRequest (cls : TestClass sizes) {data : List UInt8}
    (hLength : data.length = length.toNat) (hFits : data.length ≤ sizes.buffer) :
    ∃ buf, buf.val.take data.length = data ∧
      cls.controlOut (writeRequest value index length) data =
        .ret (.accept { cls with controlBuf := buf }.expect) := by
  have hStore : 0 + data.length ≤ sizes.buffer := by omega
  have hStored := take_overwrite data (Nat.zero_le cls.controlBuf.val.length)
  rw [Nat.zero_add, List.take_zero, List.nil_append] at hStored
  have hKeeps : (overwrite cls.controlBuf.val 0 data).length = sizes.buffer :=
    (length_overwrite (cls.controlBuf.property.symm ▸ hStore)).trans cls.controlBuf.property
  refine ⟨⟨overwrite cls.controlBuf.val 0 data, hKeeps⟩, hStored, ?_⟩
  have hOther : (writeRequest value index length).request ≠ reqStoreRequest := by
    change reqWriteBuffer ≠ reqStoreRequest
    decide
  have hData : data.length = (writeRequest value index length).length.toNat := hLength
  rw [controlOut, if_neg (not_not.mpr ⟨rfl, rfl⟩), if_neg hOther, if_pos ⟨rfl, hFits⟩, if_pos hData,
    storeControl, Buffer.store?, dif_pos hStore]
  rfl

theorem controlIn_readRequest (cls : TestClass sizes) (hFits : length.toNat ≤ sizes.buffer) :
    cls.controlIn (readRequest value index length) =
      .acceptWith (cls.controlBuf.val.take length.toNat) cls.expect := by
  rw [controlIn, if_neg (not_not.mpr ⟨rfl, rfl⟩), if_pos ⟨rfl, hFits⟩]
  rfl

end TestClass

section Search

variable [UsbBus B] [UsbClass C] {P Q : TestClass sizes → Prop} {R : ControlPipe B → Prop}
  {req : Request}

omit [UsbBus B] in
theorem Bystander.leaves (h : Bystander C) (hOwns : TestClass.Owns req) (c : C) :
    LeavesRequest Beside req (.inr c : TestClass sizes ⊕ C) := by
  unfold LeavesRequest
  cases req.direction with
  | in_ =>
    refine Program.yields_map.mpr ((h.controlIn c req hOwns).mono ?_)
    rintro _ ⟨cls', rfl⟩
    exact ⟨.inr cls', rfl, trivial⟩
  | out =>
    refine fun data => Program.yields_map.mpr ((h.controlOut c req data hOwns).mono ?_)
    rintro _ ⟨cls', rfl⟩
    exact ⟨.inr cls', rfl, trivial⟩

theorem findClass_roster (hOthers : Bystander C) (hOwns : TestClass.Owns req) {d : UsbDevice B}
    (hAnswers : ∀ index a e, Foreign d e → P a → ∃ b q,
      callControl req index (.inl a : TestClass sizes ⊕ C) e.control = .done (.ok (.inl b)) q ∧
        q.waitingForResponse = false ∧ Q b ∧ R q)
    {classes : List (TestClass sizes ⊕ C)} (hRoster : Roster P classes) (index : Nat)
    {e : UsbDevice B} (he : Foreign d e) (hPresents : e.Presents req) :
    ∃ classes' e', findClass (offer (callControl req)) index classes e =
      .done (.ok (some (), classes')) e' ∧ Roster Q classes' ∧ R e'.control := by
  induction hRoster generalizing index e with
  | @here a hP rest =>
    obtain ⟨b, q, hCall, hAnswered, hQ, hR⟩ := hAnswers index a e he hP
    have hOnPipe : UsbDevice.onPipe (callControl req index (.inl a : TestClass sizes ⊕ C)) e =
        .done (.ok (.inl b)) (e.withPipe q) := by
      rw [UsbDevice.onPipe, zoom_apply, hCall]
      rfl
    have hOffer : offer (callControl req) index (.inl a : TestClass sizes ⊕ C) e =
        .done (.ok (some (), .inl b)) (e.withPipe q) := by
      rw [offer, bind_of_ok hOnPipe, bind_apply, get_apply]
      dsimp only
      rw [pure_apply, if_neg]
      change ¬ q.waitingForResponse = true
      rw [hAnswered]
      exact Bool.false_ne_true
    exact ⟨_, _, by rw [findClass, bind_of_ok hOffer]; rfl, .here hQ rest, hR⟩
  | @behind other rest _ ih =>
    obtain ⟨r, e', hOffer, ⟨found, cls'⟩, rfl, ⟨rfl, hBeside⟩, hForeign⟩ :=
      post_false_iff.mp (post_offer (hOthers.leaves hOwns other) index hPresents)
    obtain ⟨rest', e'', hRest, hRoster', hR⟩ := ih (index + 1) (foreign_trans _ _ _ he hForeign)
      (stable_presents req _ _ hPresents hForeign)
    cases cls' with
    | inl a => exact hBeside.elim
    | inr c =>
      refine ⟨_, _, ?_, .behind c hRoster', hR⟩
      rw [findClass, bind_of_ok hOffer]
      dsimp only
      rw [bind_of_ok hRest]
      rfl

theorem dispatch_roster (hOthers : Bystander C) (hOwns : TestClass.Owns req)
    {s : Session B (TestClass sizes ⊕ C)} (hPresents : s.device.Presents req)
    (hRoster : Roster P s.classes)
    (hAnswers : ∀ index a e, Foreign s.device e → P a → ∃ b q,
      callControl req index (.inl a : TestClass sizes ⊕ C) e.control = .done (.ok (.inl b)) q ∧
        q.waitingForResponse = false ∧ Q b ∧ R q) :
    ∃ t, Session.dispatch req s = .done (.ok ()) t ∧ Roster Q t.classes ∧ R t.device.control := by
  obtain ⟨classes', e, hFind, hRoster', hR⟩ :=
    findClass_roster hOthers hOwns hAnswers hRoster 0 (foreign_refl _) hPresents
  have hFirst : Session.firstClass (offer (callControl req)) s =
      .done (.ok (some ())) ⟨e, classes'⟩ := by
    rw [Session.firstClass, bind_apply, get_apply]
    dsimp only
    rw [bind_apply, Session.onDevice, zoom_apply, hFind]
    rfl
  refine ⟨⟨e, classes'⟩, ?_, hRoster', hR⟩
  rw [dispatch_eq, bind_of_ok hFirst]
  rfl

end Search

section Answers

variable [UsbBus B] [UsbClass C] {p : ControlPipe B} {data : List UInt8}

omit [UsbClass C] in
theorem onBus_of_ret {α : Type} {m : ClassM α} {a : α} (h : m = .ret a) (p : ControlPipe B) :
    (ControlPipe.onBus m.run : PipeM B α) p = .done (.ok a) p := by
  subst h
  rfl

variable (value index) in
theorem callControl_write (call : Nat) (cls : TestClass sizes) (hState : p.state = .completeOut)
    (hIn : p.epIn.address = .control .in_) (hWritable : Writable p.bus.bus)
    (hLen : p.len = data.length) (hRoom : data.length ≤ p.buf.length)
    (hData : p.buf.take data.length = data) (hLength : data.length = length.toNat)
    (hFits : data.length ≤ sizes.buffer) :
    ∃ buf event, buf.val.take data.length = data ∧
      callControl (TestClass.writeRequest value index length) call (.inl cls : TestClass sizes ⊕ C) p =
        .done (.ok (.inl { cls with controlBuf := buf }))
          { ({ p with bus := p.bus.noting (.class_ call event) } : ControlPipe B).offered [] with
            state := .statusIn } := by
  obtain ⟨buf, hBuf, hAnswer⟩ :=
    cls.controlOut_writeRequest value index hLength hFits
  have hSlice : (ControlPipe.data : PipeM B (List UInt8)) p = .done (.ok data) p := by
    rw [ControlPipe.data_apply, slice?_of_le (Nat.zero_le _) (hLen.symm ▸ hRoom), Nat.sub_zero,
      List.drop_zero, hLen, hData]
  let event := ClassCall.controlOut (TestClass.writeRequest value index length) data
  let q : ControlPipe B := { p with bus := p.bus.noting (.class_ call event) }
  have hNoted : (ControlPipe.onBus (Traced.note (.class_ call event)) : PipeM B Unit) p =
      .done (.ok ()) q := rfl
  have hResponse : UsbClass.controlOut (.inl cls : TestClass sizes ⊕ C)
      (TestClass.writeRequest value index length) data = .ret (.accept fun result =>
        ({ cls with controlBuf := buf }.expect result).map .inl) := by
    change Program.map _ (cls.controlOut _ data) = _
    rw [hAnswer]
    rfl
  refine ⟨buf, event, hBuf, ?_⟩
  change callControlOut _ call _ p = _
  rw [callControlOut, bind_of_ok hSlice, bind_of_ok hNoted,
    bind_of_ok (onBus_of_ret hResponse q), OutResponse.perform,
    bind_of_ok (attempt_of_done (ControlPipe.acceptOut_sent (p := q) hState hIn hWritable))]
  rfl

theorem callControl_read (call : Nat) (cls : TestClass sizes)
    (hState : p.state = .completeIn (TestClass.readRequest value index length))
    (hIn : p.epIn.address = .control .in_) (hSize : 0 < p.epIn.maxPacketSize.toNat)
    (hBare : p.staticInBuf = none) (hWritable : Writable p.bus.bus)
    (hFits : length.toNat ≤ sizes.buffer) (hRoom : length.toNat ≤ p.buf.length) :
    ∃ event q packet rest,
      callControl (TestClass.readRequest value index length) call (.inl cls : TestClass sizes ⊕ C) p =
        .done (.ok (.inl cls)) q ∧
      packets p.epIn.maxPacketSize.toNat (cls.controlBuf.val.take length.toNat) = packet :: rest ∧
      p.SameFrame q ∧ q.bus = (p.bus.noting (.class_ call event)).writing (.control .in_) packet ∧
      q.Sending ∧ q.pending = rest := by
  let event := ClassCall.controlIn (TestClass.readRequest value index length)
  let noted : ControlPipe B := { p with bus := p.bus.noting (.class_ call event) }
  have hNoted : (ControlPipe.onBus (Traced.note (.class_ call event)) : PipeM B Unit) p =
      .done (.ok ()) noted := rfl
  have hResponse : UsbClass.controlIn (.inl cls : TestClass sizes ⊕ C)
      (TestClass.readRequest value index length) =
      .ret (.acceptWith (cls.controlBuf.val.take length.toNat) fun result =>
        (cls.expect result).map .inl) := by
    change Program.map _ (.ret (cls.controlIn _)) = _
    rw [cls.controlIn_readRequest hFits]
    rfl
  have hTaken : (cls.controlBuf.val.take length.toNat).length = length.toNat := by
    rw [List.length_take, cls.controlBuf.property, Nat.min_eq_left hFits]
  obtain ⟨q, packet, rest, hAccept, hPackets, hFrame, hBus, hSending, hPending⟩ :=
    ControlPipe.acceptWith_sent (p := noted) hState hIn hSize hBare (hTaken.symm ▸ hRoom) hWritable
  have hWhole : (cls.controlBuf.val.take length.toNat).take
      (TestClass.readRequest value index length).length.toNat =
      cls.controlBuf.val.take length.toNat := by
    rw [List.take_take]
    exact congrArg (cls.controlBuf.val.take ·) (Nat.min_self _)
  rw [hWhole] at hPackets
  refine ⟨event, q, packet, rest, ?_, hPackets, ⟨hFrame.epOut, hFrame.epIn, hFrame.length⟩, hBus,
    hSending, hPending⟩
  change callControlIn _ call _ p = _
  rw [callControlIn, bind_of_ok hNoted, bind_of_ok (onBus_of_ret hResponse noted), InResponse.perform,
    bind_of_ok (attempt_of_done hAccept)]
  rfl

end Answers

end UsbStack
