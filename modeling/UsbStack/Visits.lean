import UsbStack.Foundation.Labelled
import UsbStack.HostAgreement
import UsbStack.Roster

/-! # Polls that bring the traffic of a host

The host acts on endpoint 0, and each of its acts is brought to the device by one poll. Between two
polls the hardware puts the bus into any state, and the application may use the classes. The test
class is one of them.
-/

namespace UsbStack

set_option autoImplicit false

open Foundation Exec Relation

/-- What the host does on endpoint 0: it sends a SETUP packet or an OUT packet, or takes a packet. -/
inductive Traffic where
  | setup (packet : List UInt8)
  | out (packet : List UInt8)
  | inComplete

/-- The hardware puts the bus into the state `bus` and the application changes the classes by `work`;
then a poll brings `traffic` or nothing on endpoint 0. -/
structure Visit (B D : Type) where
  bus : B
  work : List D → List D
  traffic : Option Traffic

variable {B C : Type} [UsbBus B]

/-- The bus hands out a packet to every slice that it fits. -/
def HandsOut (bus : B) (packet : List UInt8) : Prop :=
  ∀ len, packet.length ≤ len → (UsbBus.read bus (.control .out) len).1 = .ok packet

inductive SideCall (bus : B) : B → Prop
  | poll : SideCall bus (UsbBus.poll bus).2
  | resume : SideCall bus (UsbBus.resume bus)
  | read (addr : EndpointAddress) (len : Nat) : SideCall bus (UsbBus.read bus addr len).2
  | setStalled (addr : EndpointAddress) (stalled : Bool) :
      SideCall bus (UsbBus.setStalled bus addr stalled)
  | write {addr : EndpointAddress} (data : List UInt8) (hOther : addr ≠ .control .in_) :
      SideCall bus (UsbBus.write bus addr data).2

/-- A write on EP0-IN succeeds, whatever else the device does before it. -/
def Writable (bus : B) : Prop :=
  ∀ bus', ReflTransGen SideCall bus bus' → ∀ data,
    (UsbBus.write bus' (.control .in_) data).1 = .ok data.length

theorem Writable.side {bus bus' : B} (h : Writable bus) (hCall : SideCall bus bus') :
    Writable bus' := fun bus'' hCalls => h bus'' (hCalls.head hCall)

/-- What classes do to their endpoints does not keep EP0-IN from taking a packet. -/
theorem Writable.classUse {t u : Traced B} (h : Writable t.bus) (hUse : ClassUse t u) :
    Writable u.bus := by
  have hOther (ep : ClassEndpoint) : ep.address ≠ .control .in_ := by
    intro hControl
    exact ep.notControl (hControl ▸ EndpointAddress.index_control .in_)
  induction hUse with
  | refl => exact h
  | tail _ hAct ih =>
    cases hAct with
    | called index call => exact ih
    | used call hDone =>
      cases call with
      | read ep len =>
        cases hDone
        exact ih.side (.read _ _)
      | write ep data =>
        cases hDone
        exact ih.side (.write data (hOther ep))
      | stall ep =>
        cases hDone
        exact ih.side (.setStalled _ _)
      | unstall ep =>
        cases hDone
        exact ih.side (.setStalled _ _)

theorem Writable.write {bus : B} (h : Writable bus) (data : List UInt8) :
    (UsbBus.write bus (.control .in_) data).1 = .ok data.length := h bus .refl data

theorem Writable.accepted {t : Traced B} (h : Writable t.bus) (packet : List UInt8) :
    UsbStack.accepted (.control .in_) (t.writing (.control .in_) packet).trace =
      UsbStack.accepted (.control .in_) t.trace ++ [packet] := by
  rw [Traced.trace_writing, accepted_append, h.write]
  rfl

namespace ControlPipe

variable {p : ControlPipe B}

theorem acceptOut_sent (hState : p.state = .completeOut) (hIn : p.epIn.address = .control .in_)
    (hWritable : Writable p.bus.bus) :
    acceptOut p = .done (.ok ()) { p.offered [] with state := .statusIn } := by
  rw [acceptOut_completeOut p hState, hIn, hWritable.write]

theorem acceptWith_sent {req : Request} {data : List UInt8} (hState : p.state = .completeIn req)
    (hIn : p.epIn.address = .control .in_) (hSize : 0 < p.epIn.maxPacketSize.toNat)
    (hBare : p.staticInBuf = none) (hRoom : data.length ≤ p.buf.length)
    (hWritable : Writable p.bus.bus) :
    ∃ q packet rest, acceptWith data p = .done (.ok ()) q ∧
      packets p.epIn.maxPacketSize.toNat (data.take req.length.toNat) = packet :: rest ∧
      p.SameFrame q ∧ q.bus = p.bus.writing (.control .in_) packet ∧ q.Sending ∧
      q.pending = rest := by
  have hWhole : ∀ data count, (UsbBus.write p.bus.bus p.epIn.address data).1 = .ok count →
      count = data.length := by
    intro data count hCount
    rw [hIn, hWritable.write] at hCount
    exact (Except.ok.inj hCount).symm
  obtain ⟨r, q, packet, rest, hPerform, hPackets, hSent⟩ :=
    Answer.perform_sent hSize hState (Answer.gives_copy hBare hRoom).sends hWhole
  have hAccept : acceptIn (SliceFn.copy data).run p = .done r q := hPerform
  have hTake : data.take (min data.length req.length.toNat) = data.take req.length.toNat := by
    rw [Nat.min_comm, ← List.take_take, List.take_length]
  have hPending := hSent.pending
  rw [hIn, hWritable.write] at hPending
  refine ⟨q, packet, rest, ?_, hTake ▸ hPackets, (answersIn_of_acceptIn _ hAccept).frame.toSameFrame,
    hIn ▸ hSent.bus, hSent.sending, hPending⟩
  cases r with
  | ok done => exact hAccept
  | error e =>
    rw [acceptIn_completeIn p hState, SliceFn.copy_run_apply, if_neg (Nat.not_lt.mpr hRoom)] at hAccept
    dsimp only at hAccept
    rw [if_neg (by rw [length_overwrite (by omega)]; omega)] at hAccept
    obtain ⟨chunk, hWrite⟩ := writeInChunk_error hAccept
    change (UsbBus.write p.bus.bus p.epIn.address chunk).1 = _ at hWrite
    rw [hIn, hWritable.write] at hWrite
    cases hWrite

end ControlPipe

theorem Mailbox.writable_of_free {bus : Mailbox} (h : bus.outgoing = none) : Writable bus := by
  intro bus' hCalls data
  have hFree : bus'.outgoing = none := by
    induction hCalls with
    | refl => exact h
    | tail _ hCall ih =>
      cases hCall with
      | write data hOther =>
        change (Mailbox.write _ _ data).2.outgoing = none
        rw [Mailbox.write, if_neg hOther]
        exact ih
      | read addr len =>
        change (Mailbox.read _ addr len).2.outgoing = none
        unfold Mailbox.read
        split
        · split <;> exact ih
        · exact ih
      | _ => exact ih
  rw [Mailbox.write_control hFree]

theorem bit_of_or {a b : UInt16} (h : (a ||| b) &&& 1 = 0) : a &&& 1 = 0 ∧ b &&& 1 = 0 := by
  have hBits : (a ||| b) &&& 1 = (a &&& 1) ||| (b &&& 1) := by
    apply UInt16.toBitVec_inj.mp
    simp only [UInt16.toBitVec_and, UInt16.toBitVec_or]
    exact BitVec.and_or_distrib_right
  exact UInt16.or_eq_zero_iff.mp (hBits ▸ h)

/-- The events of a poll announce the traffic, and the bus hands out its packet. -/
def Traffic.Brought (bus : B) (epOut epIn epSetup : UInt16) : Traffic → Prop
  | setup packet => epSetup &&& 1 ≠ 0 ∧ HandsOut bus packet
  | out packet => epSetup &&& 1 = 0 ∧ epOut &&& 1 ≠ 0 ∧ HandsOut bus packet
  | inComplete => epSetup &&& 1 = 0 ∧ epOut &&& 1 = 0 ∧ epIn &&& 1 ≠ 0

theorem Traffic.Brought.bit {bus : B} {epOut epIn epSetup : UInt16} {traffic : Traffic}
    (h : traffic.Brought bus epOut epIn epSetup) : (epOut ||| epIn ||| epSetup) &&& 1 ≠ 0 := by
  intro hZero
  obtain ⟨hFirst, hSetup⟩ := bit_of_or hZero
  obtain ⟨hOut, hIn⟩ := bit_of_or hFirst
  cases traffic with
  | setup packet => exact h.1 hSetup
  | out packet => exact h.2.1 hOut
  | inComplete => exact h.2.2 hIn

def PollResult.Elsewhere : PollResult → Prop
  | .reset => False
  | .data epOut epIn epSetup => (epOut ||| epIn ||| epSetup) &&& 1 = 0
  | _ => True

namespace UsbDevice

def onHardware (bus : B) (d : UsbDevice B) : UsbDevice B := d.withBus ⟨bus, d.control.bus.trace⟩

def Sees (d : UsbDevice B) : Option Traffic → Prop
  | some traffic => ∃ epOut epIn epSetup e, d.event? = some (.data epOut epIn epSetup, e) ∧
      traffic.Brought e.control.bus.bus epOut epIn epSetup
  | none =>
    (d.deviceState = .suspend ∧
      ((UsbBus.poll d.control.bus.bus).1 = .suspend ∨ (UsbBus.poll d.control.bus.bus).1 = .none)) ∨
      ∃ pr e, d.event? = some (pr, e) ∧ pr.Elsewhere

end UsbDevice

namespace Visit

def prepare {D : Type} (v : Visit B D) (s : Session B D) : Session B D :=
  ⟨s.device.onHardware v.bus, v.work s.classes⟩

def perform {D : Type} [UsbClass D] (v : Visit B D) : SessionM B D Bool := do
  modify v.prepare
  Session.poll

theorem perform_apply {D : Type} [UsbClass D] (v : Visit B D) (s : Session B D) :
    v.perform s = Session.poll (v.prepare s) := rfl

/-- A visit may take place: it brings what it says, writes on EP0-IN succeed in it, and no packet on
an IN endpoint of the test class `cls` is reported as sent. The application leaves the control
buffer of the test class alone. -/
structure Due {sizes : Sizes} (cls : TestClass sizes) (v : Visit B (TestClass sizes ⊕ C))
    (s : Session B (TestClass sizes ⊕ C)) : Prop where
  sees : (v.prepare s).device.Sees v.traffic
  writable : Writable v.bus
  spared : ∀ epOut epIn epSetup e,
    (v.prepare s).device.event? = some (.data epOut epIn epSetup, e) → cls.Spared epIn
  work : List.Forall₂ Beside s.classes (v.work s.classes)

end Visit

section Stage

variable {sizes : Sizes}

/-- The test class has the IN endpoints of `cls`, and its buffer begins with `data`. -/
structure TestClass.Holds (cls : TestClass sizes) (data : List UInt8) (a : TestClass sizes) : Prop where
  epBulkIn : a.epBulkIn = cls.epBulkIn
  epInterruptIn : a.epInterruptIn = cls.epInterruptIn
  data : a.controlBuf.val.take data.length = data

theorem TestClass.Holds.same {cls a b : TestClass sizes} {data : List UInt8} (h : cls.Holds data a)
    (hSame : a.Same b) : cls.Holds data b :=
  ⟨hSame.epBulkIn.trans h.epBulkIn, hSame.epInterruptIn.trans h.epInterruptIn,
    hSame.controlBuf.symm ▸ h.data⟩

theorem TestClass.Holds.spared {cls a : TestClass sizes} {data : List UInt8} {epIn : UInt16}
    (h : cls.Holds data a) (hSpared : cls.Spared epIn) : a.Spared epIn := by
  intro n hBit
  rw [h.epBulkIn, h.epInterruptIn]
  exact hSpared n hBit

/-- The pipe keeps the frame of `base` and satisfies `A`, `sent` has been accepted on EP0-IN, and
the test class holds `data`. -/
structure Stage (base : ControlPipe B) (cls : TestClass sizes) (sent : List (List UInt8))
    (A : ControlPipe B → Prop) (data : List UInt8) (s : Session B (TestClass sizes ⊕ C)) : Prop where
  frame : base.SameFrame s.device.control
  accepted : accepted (.control .in_) s.device.control.bus.trace = sent
  pipe : A s.device.control
  roster : Roster (cls.Holds data) s.classes

def Busless (A : ControlPipe B → Prop) : Prop := ∀ p t, A p → A { p with bus := t }

variable {base : ControlPipe B} {cls : TestClass sizes} {sent : List (List UInt8)}
  {A A' : ControlPipe B → Prop} {data data' : List UInt8} {s t : Session B (TestClass sizes ⊕ C)}

theorem Stage.kept (hA : Busless A) (h : Stage base cls sent A data s) (hKept : s.Kept Beside t) :
    Stage base cls sent A data t := by
  obtain ⟨bus, hUse, hDevice⟩ := hKept.device
  refine ⟨?_, ?_, ?_, h.roster.beside hKept.classes fun _ _ hHolds => hHolds.same⟩ <;> rw [hDevice]
  · exact ⟨h.frame.epOut, h.frame.epIn, h.frame.length⟩
  · exact (accepted_classUse hUse .in_).trans h.accepted
  · exact hA _ bus h.pipe

omit [UsbBus B] in
theorem Stage.withBus (hA : Busless A) (h : Stage base cls sent A data s) {d : UsbDevice B}
    {u : Traced B} (hControl : d.control = { s.device.control with bus := u })
    (hAccepted : UsbStack.accepted (.control .in_) u.trace =
      UsbStack.accepted (.control .in_) s.device.control.bus.trace) :
    Stage base cls sent A data { s with device := d } := by
  refine ⟨?_, ?_, ?_, h.roster⟩ <;> dsimp only <;> rw [hControl]
  · exact ⟨h.frame.epOut, h.frame.epIn, h.frame.length⟩
  · exact hAccepted.trans h.accepted
  · exact hA _ u h.pipe

omit [UsbBus B] in
theorem Stage.spared {epIn : UInt16} (h : Stage base cls sent A data s) (hSpared : cls.Spared epIn) :
    ∀ member ∈ s.classes, ∀ a, member = .inl a → a.Spared epIn := by
  rintro _ hMem a rfl
  exact (h.roster.forall_mem a hMem).spared hSpared

theorem accepted_snoc {trace : List Event} {event : Event}
    (h : ∀ packet n, event ≠ .write (.control .in_) packet (.ok n)) :
    accepted (.control .in_) (trace ++ [event]) = accepted (.control .in_) trace := by
  have hNone : accepted (.control .in_) [event] = [] := by
    refine List.filterMap_eq_nil_iff.mpr fun e he => ?_
    obtain rfl := List.mem_singleton.mp he
    cases e with
    | write addr packet result =>
      cases result with
      | error e => rfl
      | ok n =>
        refine if_neg fun hAddr => h packet n ?_
        rw [hAddr]
    | _ => rfl
  rw [accepted_append, hNone, List.append_nil]

theorem UsbDevice.bus_of_event {d e : UsbDevice B} {pr : PollResult} (h : d.event? = some (pr, e)) :
    ∃ t, e.control = { d.control with bus := t } ∧
      UsbStack.accepted (.control .in_) t.trace =
        UsbStack.accepted (.control .in_) d.control.bus.trace ∧
      ReflTransGen SideCall d.control.bus.bus t.bus := by
  have hPolled : UsbStack.accepted (.control .in_) d.polled.control.bus.trace =
      UsbStack.accepted (.control .in_) d.control.bus.trace := accepted_snoc (by simp)
  obtain ⟨-, ⟨-, rfl⟩ | ⟨-, -, state, -, rfl⟩⟩ := UsbDevice.event?_cases h
  · exact ⟨_, rfl, hPolled, .single .poll⟩
  · refine ⟨_, rfl, (accepted_snoc (by simp)).trans hPolled, ?_⟩
    exact .tail (.single .poll) .resume

variable {v : Visit B (TestClass sizes ⊕ C)}

theorem Stage.prepare (hA : Busless A) (h : Stage base cls sent A data s) (hDue : v.Due cls s) :
    Stage base cls sent A data (v.prepare s) := by
  have hHardware : Stage base cls sent A data { s with device := s.device.onHardware v.bus } :=
    h.withBus hA rfl rfl
  exact hHardware.kept hA ⟨foreign_refl _, hDue.work⟩

variable [UsbClass C]

/-- A visit without traffic keeps the stage. -/
theorem Stage.unmoved (hOthers : Bystander C) (hA : Busless A) :
    Unmoved (Visit.perform : Visit B (TestClass sizes ⊕ C) → SessionM B _ Bool) (Visit.Due cls)
      Visit.traffic (Stage base cls sent A data) := by
  intro v s hLabel hDue hs
  have hSees := hDue.sees
  rw [hLabel] at hSees
  have hStart := hs.prepare hA hDue
  rw [Post, Visit.perform_apply]
  rcases hSees with ⟨hState, hQuiet⟩ | ⟨pr, e, hEvent, hElsewhere⟩
  · rw [poll_of_quiet hState hQuiet]
    exact hStart.withBus hA rfl (accepted_snoc (by simp))
  · obtain ⟨t, hControl, hAccepted, -⟩ := UsbDevice.bus_of_event hEvent
    have he : Stage base cls sent A data { v.prepare s with device := e } :=
      hStart.withBus hA hControl hAccepted
    rw [poll_of_event hEvent]
    cases pr with
    | none => exact he
    | resume => exact he
    | reset => exact hElsewhere.elim
    | suspend => exact he.withBus hA rfl (accepted_snoc (by simp))
    | data epOut epIn epSetup =>
      have hData : Post False (Session.pollData epOut epIn epSetup)
          (fun r t => r = .ok () ∧ Stage base cls sent A data t) { v.prepare s with device := e } := by
        refine (hOthers.tame epIn).pollData (fun t u ht hKept => ht.kept hA hKept)
          (fun hBit => absurd hElsewhere hBit) fun _ => ⟨he, ?_⟩
        exact he.spared (hDue.spared _ _ _ _ hEvent)
      refine (post_bind (Session.pollData epOut epIn epSetup) (fun _ => pure true) _).mpr
        (hData.mono ?_)
      rintro r t ⟨rfl, ht⟩
      exact ht

/-- A visit with traffic leads on if the handling of endpoint 0 does. -/
theorem Stage.leads (hOthers : Bystander C) (hA : Busless A) (hA' : Busless A')
    {sent' : List (List UInt8)} {traffic : Traffic}
    (hControl : ∀ (s : Session B (TestClass sizes ⊕ C)) (epOut epIn epSetup : UInt16),
      Stage base cls sent A data s → Writable s.device.control.bus.bus →
      traffic.Brought s.device.control.bus.bus epOut epIn epSetup →
      Post False (Session.pollControl epOut epIn epSetup)
        (fun r t => r = .ok () ∧ Stage base cls sent' A' data' t) s) :
    Leads (Visit.perform : Visit B (TestClass sizes ⊕ C) → SessionM B _ Bool) (Visit.Due cls)
      Visit.traffic (Stage base cls sent A data) [traffic] (Stage base cls sent' A' data') := by
  refine leads_single (Stage.unmoved hOthers hA) (Stage.unmoved hOthers hA') ?_
  intro v s hLabel hDue hs
  have hSees := hDue.sees
  rw [hLabel] at hSees
  obtain ⟨epOut, epIn, epSetup, e, hEvent, hBrought⟩ := hSees
  obtain ⟨t, hPipe, hAccepted, hCalls⟩ := UsbDevice.bus_of_event hEvent
  have he : Stage base cls sent A data { v.prepare s with device := e } :=
    (hs.prepare hA hDue).withBus hA hPipe hAccepted
  have hWritable : Writable e.control.bus.bus := by
    rw [hPipe]
    exact fun bus hMore => hDue.writable bus (hCalls.trans hMore)
  have hData : Post False (Session.pollData epOut epIn epSetup)
      (fun r t => r = .ok () ∧ Stage base cls sent' A' data' t) { v.prepare s with device := e } := by
    refine (hOthers.tame epIn).pollData (fun t u ht hKept => ht.kept hA' hKept) (fun _ => ?_)
      fun hZero => absurd hZero hBrought.bit
    apply (hControl _ epOut epIn epSetup he hWritable hBrought).mono
    rintro r t ⟨rfl, ht⟩
    exact ⟨rfl, ht, ht.spared (hDue.spared _ _ _ _ hEvent)⟩
  rw [Post, Visit.perform_apply, poll_of_event hEvent]
  refine (post_bind (Session.pollData epOut epIn epSetup) (fun _ => pure true) _).mpr
    (hData.mono ?_)
  rintro r t ⟨rfl, ht⟩
  exact ht

end Stage

end UsbStack
