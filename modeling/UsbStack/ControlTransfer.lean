import UsbStack.Suspension
import UsbStack.TestRequests

/-! # Control transfers with the test class

The host writes data to the buffer of the test class in one control transfer and reads them back in
another. Each packet of a transfer is brought by one poll.
-/

namespace UsbStack

set_option autoImplicit false

open Foundation Exec

variable {B C : Type} {sizes : Sizes} [UsbBus B]

namespace ControlPipe

variable {p q : ControlPipe B} {req : Request} {packet : List UInt8}

section Arrival

variable {epOut epSetup : UInt16} {found : Option Request}

/-- What arrives on EP0-OUT adds nothing to the packets on EP0-IN. -/
theorem Receives.accepted (h : Receives epSetup p found q) :
    UsbStack.accepted (.control .in_) q.bus.trace = UsbStack.accepted (.control .in_) p.bus.trace := by
  have hRead (len : Nat) : UsbStack.accepted (.control .in_) (p.asked len).bus.trace =
      UsbStack.accepted (.control .in_) p.bus.trace := accepted_snoc (by simp)
  have hErrored (len : Nat) : UsbStack.accepted (.control .in_) (p.asked len).errored.bus.trace =
      UsbStack.accepted (.control .in_) p.bus.trace :=
    ((accepted_snoc (by simp)).trans (accepted_snoc (by simp))).trans (hRead len)
  cases h with
  | nothing => rfl
  | unread len => exact hRead len
  | unparsed packet _ => exact hRead _
  | setup packet req _ _ _ _ =>
    have hUnstalled : UsbStack.accepted (.control .in_)
        ((p.loaded 0 packet).bus.stalling p.epOut.address false).trace =
        UsbStack.accepted (.control .in_) p.bus.trace := (accepted_snoc (by simp)).trans (hRead _)
    rcases (p.loaded 0 packet).begun_cases req with
      ⟨-, hBegun⟩ | ⟨-, hBegun⟩ | ⟨-, hBegun⟩ | ⟨-, hBegun⟩ <;> rw [hBegun]
    · exact hUnstalled
    all_goals exact (accepted_snoc (by simp)).trans hUnstalled
  | failed req len _ => exact hErrored len
  | more req packet _ _ => exact hRead _
  | complete req packet _ _ => exact hRead _
  | status _ => exact hRead 0
  | unexpected _ => exact hErrored 0

theorem Receives.writable (h : Receives epSetup p found q) (hp : Writable p.bus.bus) :
    Writable q.bus.bus := by
  have hRead (len : Nat) : Writable (p.asked len).bus.bus := hp.side (.read _ _)
  cases h with
  | nothing => exact hp
  | unread len => exact hRead len
  | unparsed packet _ => exact hRead _
  | setup packet req _ _ _ _ =>
    rcases (p.loaded 0 packet).begun_cases req with
      ⟨-, hBegun⟩ | ⟨-, hBegun⟩ | ⟨-, hBegun⟩ | ⟨-, hBegun⟩ <;> rw [hBegun] <;>
      exact (hRead _).side (.setStalled _ _)
  | failed req len _ => exact ((hRead len).side (.setStalled _ _)).side (.setStalled _ _)
  | more req packet _ _ => exact hRead _
  | complete req packet _ _ => exact hRead _
  | status _ => exact hRead 0
  | unexpected _ => exact ((hRead 0).side (.setStalled _ _)).side (.setStalled _ _)

theorem receive_setup (hBit : epSetup &&& 1 ≠ 0) (hOut : p.epOut.address = .control .out)
    (hRoom : 8 ≤ p.buf.length) (hHands : HandsOut p.bus.bus packet)
    (hParse : Request.parse packet = .ok req) :
    Session.receive epOut epSetup p =
      .done (.ok ((p.loaded 0 packet).begun req).1) ((p.loaded 0 packet).begun req).2 := by
  have hFits : packet.length ≤ p.buf.length := (Request.length_of_parse hParse).symm ▸ hRoom
  rw [Session.receive, if_pos hBit, handleSetup_apply, hOut, hHands _ hFits]
  dsimp only
  rw [if_neg (Nat.not_lt.mpr hFits), hParse]

theorem receive_out (hSetup : epSetup &&& 1 = 0) (hOut : epOut &&& 1 ≠ 0)
    (hHandle : handleOut p = .done (.ok found) q) :
    Session.receive epOut epSetup p = .done (.ok found) q := by
  rw [Session.receive, if_neg (not_not.mpr hSetup), if_pos hOut, bind_of_ok (attempt_of_done hHandle)]
  rfl

theorem receive_nothing (hSetup : epSetup &&& 1 = 0) (hOut : epOut &&& 1 = 0) :
    Session.receive epOut epSetup p = .done (.ok none) p := by
  rw [Session.receive, if_neg (not_not.mpr hSetup), if_neg (not_not.mpr hOut)]
  rfl

theorem begun_of_in (h : req.direction = .in_) :
    p.begun req = (some req, { p with bus := p.noted req, state := .completeIn req }) := by
  rw [begun, h]
  rfl

theorem begun_of_data (h : req.direction = .out) (hData : 0 < req.length)
    (hRoom : req.length.toNat ≤ p.buf.length) :
    p.begun req =
      (none, { p with bus := p.noted req, i := 0, len := req.length.toNat, state := .dataOut req }) := by
  rw [begun]
  dsimp only
  rw [if_pos h, if_pos hData, if_neg (Nat.not_lt.mpr hRoom)]
  rfl

theorem begun_of_empty (h : req.direction = .out) (hEmpty : req.length = 0) :
    p.begun req = (some req, { p with bus := p.noted req, len := 0, state := .completeOut }) := by
  rw [begun]
  dsimp only
  rw [if_pos h, if_neg (by rw [hEmpty]; decide)]
  rfl

end Arrival

section Stages

structure Equipped (p : ControlPipe B) : Prop where
  epOut : p.epOut.address = .control .out
  epIn : p.epIn.address = .control .in_
  size : 0 < p.epIn.maxPacketSize.toNat
  room : 8 ≤ p.buf.length

omit [UsbBus B] in
theorem Equipped.frame (h : p.Equipped) (hFrame : p.SameFrame q) : q.Equipped :=
  ⟨hFrame.epOut.symm ▸ h.epOut, hFrame.epIn.symm ▸ h.epIn, hFrame.epIn.symm ▸ h.size,
    hFrame.length.symm ▸ h.room⟩

/-- The OUT data that have arrived are at the front of the buffer, and no response is left over. -/
structure Stores (got : List UInt8) (p : ControlPipe B) : Prop where
  data : p.buf.take got.length = got
  room : got.length ≤ p.buf.length
  bare : p.staticInBuf = none

structure Collecting (req : Request) (got : List UInt8) (p : ControlPipe B) : Prop
    extends Stores got p where
  state : p.state = .dataOut req
  len : p.len = req.length.toNat
  index : p.i = got.length

structure Collected (got : List UInt8) (p : ControlPipe B) : Prop extends Stores got p where
  state : p.state = .completeOut
  len : p.len = got.length

def Bare (p : ControlPipe B) : Prop := p.staticInBuf = none

def Acknowledged (p : ControlPipe B) : Prop := p.state = .statusIn ∧ p.Bare

def Finished (p : ControlPipe B) : Prop := p.state = .idle ∧ p.Bare

def Requested (req : Request) (p : ControlPipe B) : Prop := p.state = .completeIn req ∧ p.Bare

/-- A response is being sent, and the bus has not taken `left`. -/
def Owes (left : List (List UInt8)) (p : ControlPipe B) : Prop := p.Sending ∧ p.pending = left

variable {got chunk : List UInt8}

omit [UsbBus B] in
theorem busless_collecting (req : Request) (got : List UInt8) :
    Busless (Collecting req got : ControlPipe B → Prop) :=
  fun _ _ h => ⟨⟨h.data, h.room, h.bare⟩, h.state, h.len, h.index⟩

omit [UsbBus B] in
theorem busless_bare : Busless (Bare : ControlPipe B → Prop) := fun _ _ h => h

omit [UsbBus B] in
theorem busless_acknowledged : Busless (Acknowledged : ControlPipe B → Prop) := fun _ _ h => h

omit [UsbBus B] in
theorem busless_finished : Busless (Finished : ControlPipe B → Prop) := fun _ _ h => h

omit [UsbBus B] in
theorem busless_owes (left : List (List UInt8)) : Busless (Owes left : ControlPipe B → Prop) :=
  fun _ _ h => h

theorem stores_loaded (h : p.Stores got) (hIndex : p.i = got.length) (chunk : List UInt8)
    (hRoom : got.length + chunk.length ≤ p.buf.length) :
    (p.loaded p.i chunk).Stores (got ++ chunk) := by
  have hLength : (overwrite p.buf p.i chunk).length = p.buf.length := length_overwrite (by omega)
  refine ⟨?_, ?_, h.bare⟩
  · change (overwrite p.buf p.i chunk).take (got ++ chunk).length = _
    rw [List.length_append, hIndex, take_overwrite chunk h.room, h.data]
  · change _ ≤ (overwrite p.buf p.i chunk).length
    rw [hLength, List.length_append]
    exact hRoom

theorem Collecting.handleOut (h : p.Collecting req got) (hOut : p.epOut.address = .control .out)
    (hRoom : got.length + chunk.length ≤ p.buf.length) (hHands : HandsOut p.bus.bus chunk) :
    ControlPipe.handleOut p =
      if req.length.toNat ≤ got.length + chunk.length then
        .done (.ok (some req))
          { p.loaded p.i chunk with i := p.i + chunk.length, state := .completeOut }
      else .done (.ok none) { p.loaded p.i chunk with i := p.i + chunk.length } := by
  have hIndex := h.index
  rw [handleOut_dataOut p h.state (h.index ▸ h.room), hOut, hHands _ (by omega)]
  dsimp only
  rw [if_neg (by omega), h.len, h.index]

theorem Collecting.more (h : p.Collecting req got) (hOut : p.epOut.address = .control .out)
    (hRoom : req.length.toNat ≤ p.buf.length) (hHands : HandsOut p.bus.bus chunk)
    (hShort : got.length + chunk.length < req.length.toNat) :
    ∃ q, ControlPipe.handleOut p = .done (.ok none) q ∧ q.Collecting req (got ++ chunk) := by
  rw [h.handleOut hOut (by omega) hHands, if_neg (Nat.not_le.mpr hShort)]
  have hStores := stores_loaded h.toStores h.index chunk (by omega)
  refine ⟨_, rfl, ⟨hStores.data, hStores.room, hStores.bare⟩, h.state, h.len, ?_⟩
  rw [List.length_append, ← h.index]

theorem Collecting.last (h : p.Collecting req got) (hOut : p.epOut.address = .control .out)
    (hRoom : req.length.toNat ≤ p.buf.length) (hHands : HandsOut p.bus.bus chunk)
    (hTotal : got.length + chunk.length = req.length.toNat) :
    ∃ q, ControlPipe.handleOut p = .done (.ok (some req)) q ∧ q.Collected (got ++ chunk) := by
  rw [h.handleOut hOut (by omega) hHands, if_pos (Nat.le_of_eq hTotal.symm)]
  have hStores := stores_loaded h.toStores h.index chunk (by omega)
  refine ⟨_, rfl, ⟨hStores.data, hStores.room, hStores.bare⟩, rfl, ?_⟩
  rw [List.length_append]
  exact h.len.trans hTotal.symm

end Stages

end ControlPipe

section Polls

variable [UsbClass C] {base : ControlPipe B} {cls : TestClass sizes} {sent sent' : List (List UInt8)}
  {A A' : ControlPipe B → Prop} {data data' : List UInt8} {s t : Session B (TestClass sizes ⊕ C)}
  {p : ControlPipe B} {epOut epIn epSetup : UInt16}

omit [UsbClass C] in
theorem Stage.received (h : Stage base cls sent A data s) {found : Option Request}
    (hReceive : Session.receive epOut epSetup s.device.control = .done (.ok found) p) (hp : A' p) :
    Stage base cls sent A' data { s with device := s.device.withPipe p } := by
  have hReceives := ControlPipe.Receives.of_receive hReceive
  exact ⟨h.frame.trans hReceives.frame.toSameFrame, hReceives.accepted.trans h.accepted, hp, h.roster⟩

/-- The packet completes no request. -/
theorem Stage.pollControl_waits (h : Stage base cls sent A data s)
    (hReceive : Session.receive epOut epSetup s.device.control = .done (.ok none) p)
    (hIgnores : ControlPipe.Unsending p.state) (hp : A' p) :
    Post False (Session.pollControl epOut epIn epSetup)
      (fun r t => r = .ok () ∧ Stage base cls sent A' data t) s := by
  have hDone : Session.pollControl epOut epIn epSetup s =
      .done (.ok ()) { s with device := s.device.withPipe p } := by
    by_cases hBit : epIn &&& 1 ≠ 0
    · refine pollControl_of_completed hReceive hBit (ControlPipe.handleInComplete_unsending _ hIgnores)
        fun hTrue => ?_
      cases hTrue
    · exact pollControl_of_received hReceive hBit
  rw [Post, hDone]
  exact ⟨rfl, h.received hReceive hp⟩

theorem Stage.pollControl_answers {req : Request} {r : Except UsbError Unit}
    (hReceive : Session.receive epOut epSetup s.device.control = .done (.ok (some req)) p)
    (hDispatch : Session.dispatch req { s with device := s.device.withPipe p } = .done r t)
    (ht : Stage base cls sent' A' data' t) :
    Post False (Session.pollControl epOut epIn epSetup)
      (fun r t => r = .ok () ∧ Stage base cls sent' A' data' t) s := by
  have hOnPipe : (Session.onPipe (Session.receive epOut epSetup) : SessionM B _ _) s =
      .done (.ok (some req)) { s with device := s.device.withPipe p } := Session.onPipe_of_done hReceive
  rw [Session.pollControl, post_bind, Post, hOnPipe]
  dsimp only
  rw [post_bind, post_attempt, Post, hDispatch]
  exact ⟨rfl, ht⟩

end Polls

theorem post_completeIn_statusIn {d : UsbDevice B} {Q : UsbDevice B → Prop}
    (hState : d.control.state = .statusIn)
    (hDone : Q (d.withPipe { d.control with state := .idle }))
    (hAddress : Q (d.withPipe { d.control with state := .idle }).addressSet) :
    Post False (Session.completeIn : DeviceM B Unit) (fun r e => r = .ok () ∧ Q e) d := by
  rw [Session.completeIn, post_bind, post_attempt, UsbDevice.onPipe, post_zoom, Post,
    ControlPipe.handleInComplete_statusIn _ hState]
  dsimp only
  rw [post_bind, post_get]
  exact post_when (fun _ => ⟨rfl, hAddress⟩) fun _ => ⟨rfl, hDone⟩

section Write

variable [UsbClass C] {base : ControlPipe B} {cls : TestClass sizes} {sent : List (List UInt8)}
  {held data : List UInt8} {s : Session B (TestClass sizes ⊕ C)} {value index length : UInt16}

variable (C cls) in
/-- Visits that bring the traffic lead from states with `Q` to states with `Q'`. -/
abbrev Transfer (Q : Session B (TestClass sizes ⊕ C) → Prop) (traffic : List Traffic)
    (Q' : Session B (TestClass sizes ⊕ C) → Prop) : Prop :=
  Leads (Visit.perform : Visit B (TestClass sizes ⊕ C) → SessionM B (TestClass sizes ⊕ C) Bool)
    (Visit.Due cls) Visit.traffic Q traffic Q'

variable (value index length) in
/-- The test class stores the data of a write request. -/
theorem Stage.dispatch_write (hOthers : Bystander C) (hBase : base.Equipped)
    (hs : Stage base cls sent (ControlPipe.Collected data) held s)
    (hWritable : Writable s.device.control.bus.bus) (hLength : data.length = length.toNat)
    (hFits : data.length ≤ sizes.buffer) :
    ∃ t, Session.dispatch (TestClass.writeRequest value index length) s = .done (.ok ()) t ∧
      Stage base cls (sent ++ [[]]) ControlPipe.Acknowledged data t := by
  have hPipe := hs.pipe
  have hAnswers (i : Nat) (a : TestClass sizes) (e : UsbDevice B) (hForeign : Foreign s.device e)
      (hHolds : cls.Holds held a) : ∃ b q,
      callControl (TestClass.writeRequest value index length) i (.inl a : TestClass sizes ⊕ C)
        e.control = .done (.ok (.inl b)) q ∧ q.waitingForResponse = false ∧ cls.Holds data b ∧
        (base.SameFrame q ∧ UsbStack.accepted (.control .in_) q.bus.trace = sent ++ [[]] ∧
          q.Acknowledged) := by
    obtain ⟨u, hUse, rfl⟩ := hForeign
    have hIn := (hBase.frame hs.frame).epIn
    have hFree : Writable u.bus := hWritable.classUse hUse
    obtain ⟨buf, event, hBuf, hCall⟩ := callControl_write (C := C) value index i a
      (p := { s.device.control with bus := u }) hPipe.state hIn hFree hPipe.len hPipe.room
      hPipe.data hLength hFits
    refine ⟨_, _, hCall, rfl, ⟨hHolds.epBulkIn, hHolds.epInterruptIn, hBuf⟩,
      ⟨hs.frame.epOut, hs.frame.epIn, hs.frame.length⟩, ?_, rfl, hPipe.bare⟩
    change UsbStack.accepted _
      ((u.noting (.class_ i event)).writing s.device.control.epIn.address []).trace = _
    have hNoted : Writable (u.noting (.class_ i event)).bus := hFree
    rw [hIn, hNoted.accepted, ← hs.accepted, ← accepted_classUse hUse]
    exact congrArg (· ++ [[]]) (accepted_snoc (by simp))
  have hPresents : s.device.Presents (TestClass.writeRequest value index length) :=
    ⟨hPipe.state, fun _ => hPipe.len.symm ▸ hPipe.room⟩
  obtain ⟨t, hDispatch, hRoster, hFrame, hAccepted, hDone⟩ :=
    dispatch_roster hOthers ⟨rfl, rfl⟩ hPresents hs.roster hAnswers
  exact ⟨t, hDispatch, hFrame, hAccepted, hDone, hRoster⟩

omit [UsbClass C] in
theorem Stage.receive_setup {A : ControlPipe B → Prop} (hs : Stage base cls sent A held s)
    (hBase : base.Equipped) {req : Request} {packet : List UInt8}
    (hParse : Request.parse packet = .ok req) {epOut epIn epSetup : UInt16}
    (hBrought : (Traffic.setup packet).Brought s.device.control.bus.bus epOut epIn epSetup) :
    (s.device.control.loaded 0 packet).buf.length = base.buf.length ∧
      Session.receive epOut epSetup s.device.control =
        .done (.ok ((s.device.control.loaded 0 packet).begun req).1)
          ((s.device.control.loaded 0 packet).begun req).2 := by
  have hNow := hBase.frame hs.frame
  refine ⟨(length_overwrite ?_).trans hs.frame.length,
    ControlPipe.receive_setup hBrought.1 hNow.epOut hNow.room hBrought.2 hParse⟩
  rw [Nat.zero_add, Request.length_of_parse hParse]
  exact hNow.room

theorem leads_dataOut (hOthers : Bystander C) (hBase : base.Equipped) {req : Request}
    {packet : List UInt8} (hParse : Request.parse packet = .ok req) (hOut : req.direction = .out)
    (hData : 0 < req.length) (hRoom : req.length.toNat ≤ base.buf.length) :
    Transfer C cls (Stage base cls sent ControlPipe.Bare held) [.setup packet]
      (Stage base cls sent (ControlPipe.Collecting req []) held) := by
  refine Stage.leads hOthers ControlPipe.busless_bare (ControlPipe.busless_collecting req []) ?_
  intro s epOut epIn epSetup hs _ hBrought
  obtain ⟨hLength, hReceive⟩ := hs.receive_setup hBase hParse hBrought
  rw [ControlPipe.begun_of_data hOut hData (hLength.symm ▸ hRoom)] at hReceive
  exact hs.pollControl_waits hReceive trivial ⟨⟨rfl, Nat.zero_le _, hs.pipe⟩, rfl, rfl, rfl⟩

theorem leads_writeNothing (hOthers : Bystander C) (hBase : base.Equipped) {packet : List UInt8}
    (hParse : Request.parse packet = .ok (TestClass.writeRequest value index 0)) :
    Transfer C cls (Stage base cls sent ControlPipe.Bare held) [.setup packet]
      (Stage base cls (sent ++ [[]]) ControlPipe.Acknowledged []) := by
  refine Stage.leads hOthers ControlPipe.busless_bare ControlPipe.busless_acknowledged ?_
  intro s epOut epIn epSetup hs hWritable hBrought
  obtain ⟨-, hReceive⟩ := hs.receive_setup hBase hParse hBrought
  have hReceived := (ControlPipe.Receives.of_receive hReceive).writable hWritable
  rw [ControlPipe.begun_of_empty rfl rfl] at hReceive hReceived
  have hCollected : ControlPipe.Collected []
      { s.device.control.loaded 0 packet with
        bus := (s.device.control.loaded 0 packet).noted (TestClass.writeRequest value index 0)
        len := 0
        state := .completeOut } := ⟨⟨rfl, Nat.zero_le _, hs.pipe⟩, rfl, rfl⟩
  obtain ⟨t, hDispatch, ht⟩ := (hs.received hReceive hCollected).dispatch_write value index 0 hOthers
    hBase hReceived rfl (Nat.zero_le _)
  exact Stage.pollControl_answers hReceive hDispatch ht

theorem leads_more (hOthers : Bystander C) (hBase : base.Equipped) {req : Request}
    {got chunk : List UInt8} (hRoom : req.length.toNat ≤ base.buf.length)
    (hShort : got.length + chunk.length < req.length.toNat) :
    Transfer C cls (Stage base cls sent (ControlPipe.Collecting req got) held) [.out chunk]
      (Stage base cls sent (ControlPipe.Collecting req (got ++ chunk)) held) := by
  refine Stage.leads hOthers (ControlPipe.busless_collecting req got)
    (ControlPipe.busless_collecting req _) ?_
  rintro s epOut epIn epSetup hs - ⟨hSetup, hOut, hHands⟩
  obtain ⟨q, hHandle, hq⟩ := hs.pipe.more (hBase.frame hs.frame).epOut
    (hs.frame.length.symm ▸ hRoom) hHands hShort
  refine hs.pollControl_waits (ControlPipe.receive_out hSetup hOut hHandle) ?_ hq
  rw [hq.state]
  trivial

theorem leads_last (hOthers : Bystander C) (hBase : base.Equipped) {got chunk : List UInt8}
    (hRoom : length.toNat ≤ base.buf.length) (hTotal : (got ++ chunk).length = length.toNat)
    (hFits : (got ++ chunk).length ≤ sizes.buffer) :
    Transfer C cls
      (Stage base cls sent (ControlPipe.Collecting (TestClass.writeRequest value index length) got) held)
      [.out chunk] (Stage base cls (sent ++ [[]]) ControlPipe.Acknowledged (got ++ chunk)) := by
  refine Stage.leads hOthers (ControlPipe.busless_collecting _ got)
    ControlPipe.busless_acknowledged ?_
  rintro s epOut epIn epSetup hs hWritable ⟨hSetup, hOut, hHands⟩
  obtain ⟨q, hHandle, hq⟩ := hs.pipe.last (hBase.frame hs.frame).epOut
    (hs.frame.length.symm ▸ hRoom) hHands (List.length_append ▸ hTotal)
  have hReceive := ControlPipe.receive_out hSetup hOut hHandle
  have hReceived := (ControlPipe.Receives.of_receive hReceive).writable hWritable
  obtain ⟨t, hDispatch, ht⟩ :=
    (hs.received hReceive hq).dispatch_write value index length hOthers hBase hReceived hTotal hFits
  exact Stage.pollControl_answers hReceive hDispatch ht

variable (value index) in
/-- The packets of the data stage, however the host cuts them. -/
theorem leads_chunks (hOthers : Bystander C) (hBase : base.Equipped)
    (hRoom : length.toNat ≤ base.buf.length) (hLength : data.length = length.toNat)
    (hFits : data.length ≤ sizes.buffer) {chunks : List (List UInt8)} (hChunks : chunks ≠ [])
    (hFull : ∀ chunk ∈ chunks, chunk ≠ []) {got : List UInt8} (hData : got ++ chunks.flatten = data) :
    Transfer C cls
      (Stage base cls sent (ControlPipe.Collecting (TestClass.writeRequest value index length) got) held)
      (chunks.map .out) (Stage base cls (sent ++ [[]]) ControlPipe.Acknowledged data) := by
  induction chunks generalizing got with
  | nil => exact absurd rfl hChunks
  | cons chunk rest ih =>
    have hRest : got ++ chunk ++ rest.flatten = data := (List.append_assoc _ _ _).trans hData
    cases rest with
    | nil =>
      rw [List.flatten_nil, List.append_nil] at hRest
      subst hRest
      exact leads_last hOthers hBase hRoom hLength hFits
    | cons next others =>
      have hMore : 0 < next.length := List.length_pos_iff.mpr (hFull next (by simp))
      have hShort : got.length + chunk.length < length.toNat := by
        rw [← hLength, ← hRest, List.length_append, List.length_append, List.flatten_cons,
          List.length_append]
        omega
      exact (leads_more hOthers hBase hRoom hShort).append
        (ih (List.cons_ne_nil _ _) (fun c hMem => hFull c (List.mem_cons_of_mem _ hMem)) hRest)

theorem leads_acknowledged (hOthers : Bystander C) :
    Transfer C cls (Stage base cls sent ControlPipe.Acknowledged data) [.inComplete]
      (Stage base cls sent ControlPipe.Finished data) := by
  refine Stage.leads hOthers ControlPipe.busless_acknowledged ControlPipe.busless_finished ?_
  rintro s epOut epIn epSetup hs - ⟨hSetup, hOut, hIn⟩
  have hFinished : Stage base cls sent ControlPipe.Finished data
      { s with device := s.device.withPipe { s.device.control with state := .idle } } :=
    ⟨⟨hs.frame.epOut, hs.frame.epIn, hs.frame.length⟩, hs.accepted, ⟨rfl, hs.pipe.2⟩, hs.roster⟩
  rw [Post, pollControl_of_none (ControlPipe.receive_nothing hSetup hOut), when_of_true hIn]
  refine (post_zoom ..).mpr (post_completeIn_statusIn hs.pipe.1 hFinished ?_)
  exact hFinished.withBus ControlPipe.busless_finished rfl (accepted_snoc (by simp))

/-- A whole write, with its status stage. -/
theorem leads_write (hOthers : Bystander C) (hBase : base.Equipped) {packet : List UInt8}
    (hParse : Request.parse packet = .ok (TestClass.writeRequest value index length))
    (hRoom : length.toNat ≤ base.buf.length) (hLength : data.length = length.toNat)
    (hFits : data.length ≤ sizes.buffer) {chunks : List (List UInt8)}
    (hFull : ∀ chunk ∈ chunks, chunk ≠ []) (hData : chunks.flatten = data) :
    Transfer C cls (Stage base cls sent ControlPipe.Bare held)
      (.setup packet :: (chunks.map .out ++ [.inComplete]))
      (Stage base cls (sent ++ [[]]) ControlPipe.Finished data) := by
  have hSent : Transfer C cls (Stage base cls sent ControlPipe.Bare held)
      (.setup packet :: chunks.map .out)
      (Stage base cls (sent ++ [[]]) ControlPipe.Acknowledged data) := by
    cases chunks with
    | nil =>
      obtain rfl : data = [] := hData.symm
      obtain rfl : length = 0 := UInt16.toNat_inj.mp hLength.symm
      exact leads_writeNothing hOthers hBase hParse
    | cons chunk rest =>
      have hMore : 0 < chunk.length := List.length_pos_iff.mpr (hFull chunk (by simp))
      have hLong : 0 < length := by
        rw [UInt16.lt_iff_toNat_lt, ← hLength, ← hData, List.flatten_cons, List.length_append]
        exact Nat.lt_add_right _ hMore
      exact (leads_dataOut hOthers hBase hParse rfl hLong hRoom).cons
        (leads_chunks value index hOthers hBase hRoom hLength hFits (List.cons_ne_nil _ _) hFull hData)
  exact hSent.append (leads_acknowledged hOthers)

end Write

section Read

variable [UsbClass C] {base : ControlPipe B} {cls : TestClass sizes} {sent : List (List UInt8)}
  {data first : List UInt8} {left : List (List UInt8)} {s : Session B (TestClass sizes ⊕ C)}
  {value index length : UInt16}

/-- The test class answers a read request with what it holds. -/
theorem Stage.dispatch_read (hOthers : Bystander C) (hBase : base.Equipped)
    (hs : Stage base cls sent
      (ControlPipe.Requested (TestClass.readRequest value index length)) data s)
    (hWritable : Writable s.device.control.bus.bus) (hLength : data.length = length.toNat)
    (hFits : data.length ≤ sizes.buffer) (hRoom : data.length ≤ base.buf.length)
    (hPackets : packets base.epIn.maxPacketSize.toNat data = first :: left) :
    ∃ t, Session.dispatch (TestClass.readRequest value index length) s = .done (.ok ()) t ∧
      Stage base cls (sent ++ [first]) (ControlPipe.Owes left) data t := by
  obtain ⟨hState, hBare⟩ := hs.pipe
  have hAnswers (i : Nat) (a : TestClass sizes) (e : UsbDevice B) (hForeign : Foreign s.device e)
      (hHolds : cls.Holds data a) : ∃ b q,
      callControl (TestClass.readRequest value index length) i (.inl a : TestClass sizes ⊕ C)
        e.control = .done (.ok (.inl b)) q ∧ q.waitingForResponse = false ∧ cls.Holds data b ∧
        (base.SameFrame q ∧ UsbStack.accepted (.control .in_) q.bus.trace = sent ++ [first] ∧
          q.Owes left) := by
    obtain ⟨u, hUse, rfl⟩ := hForeign
    have hNow := hBase.frame hs.frame
    have hFree : Writable u.bus := hWritable.classUse hUse
    obtain ⟨event, q, packet, rest, hCall, hCut, hFrame, hBus, hSending, hPending⟩ :=
      callControl_read (C := C) (p := { s.device.control with bus := u }) i a hState hNow.epIn
        hNow.size hBare hFree (hLength ▸ hFits) (hLength ▸ hs.frame.length.symm ▸ hRoom)
    have hCut' : packets base.epIn.maxPacketSize.toNat data = packet :: rest := by
      rw [← hs.frame.epIn]
      refine Eq.trans (congrArg _ ?_) hCut
      rw [← hLength, hHolds.data]
    obtain ⟨rfl, rfl⟩ := List.cons.inj (hPackets.symm.trans hCut')
    refine ⟨a, q, hCall, hSending.answered, hHolds,
      hs.frame.trans ⟨hFrame.epOut, hFrame.epIn, hFrame.length⟩, ?_, hSending, hPending⟩
    have hNoted : Writable (u.noting (.class_ i event)).bus := hFree
    rw [hBus, hNoted.accepted, ← hs.accepted, ← accepted_classUse hUse]
    exact congrArg (· ++ [first]) (accepted_snoc (by simp))
  have hPresents : s.device.Presents (TestClass.readRequest value index length) :=
    ⟨hState, fun hOut => by cases hOut⟩
  obtain ⟨t, hDispatch, hRoster, hFrame, hAccepted, hDone⟩ :=
    dispatch_roster hOthers ⟨rfl, rfl⟩ hPresents hs.roster hAnswers
  exact ⟨t, hDispatch, hFrame, hAccepted, hDone, hRoster⟩

/-- The request is answered with the first packet of the data. -/
theorem leads_readSetup (hOthers : Bystander C) (hBase : base.Equipped) {packet : List UInt8}
    (hParse : Request.parse packet = .ok (TestClass.readRequest value index length))
    (hLength : data.length = length.toNat) (hFits : data.length ≤ sizes.buffer)
    (hRoom : data.length ≤ base.buf.length)
    (hPackets : packets base.epIn.maxPacketSize.toNat data = first :: left) :
    Transfer C cls (Stage base cls sent ControlPipe.Bare data) [.setup packet]
      (Stage base cls (sent ++ [first]) (ControlPipe.Owes left) data) := by
  refine Stage.leads hOthers ControlPipe.busless_bare (ControlPipe.busless_owes left) ?_
  intro s epOut epIn epSetup hs hWritable hBrought
  obtain ⟨-, hReceive⟩ := hs.receive_setup hBase hParse hBrought
  have hReceived := (ControlPipe.Receives.of_receive hReceive).writable hWritable
  rw [ControlPipe.begun_of_in rfl] at hReceive hReceived
  have hRequested : ControlPipe.Requested (TestClass.readRequest value index length)
      { s.device.control.loaded 0 packet with
        bus := (s.device.control.loaded 0 packet).noted (TestClass.readRequest value index length)
        state := .completeIn (TestClass.readRequest value index length) } := ⟨rfl, hs.pipe⟩
  obtain ⟨t, hDispatch, ht⟩ := (hs.received hReceive hRequested).dispatch_read hOthers hBase hReceived
    hLength hFits hRoom hPackets
  exact Stage.pollControl_answers hReceive hDispatch ht

variable (sent) in
/-- The host has taken a packet, and the next one is handed to the bus. -/
theorem leads_taken (hOthers : Bystander C) (hBase : base.Equipped) (left : List (List UInt8)) :
    Transfer C cls (Stage base cls sent (ControlPipe.Owes left) data) [.inComplete]
      (Stage base cls (sent ++ left.take 1) (ControlPipe.Owes (left.drop 1)) data) := by
  refine Stage.leads hOthers (ControlPipe.busless_owes left) (ControlPipe.busless_owes _) ?_
  rintro s epOut epIn epSetup hs hWritable ⟨hSetup, hOut, hIn⟩
  obtain ⟨hSending, hPending⟩ := hs.pipe
  have hNow := hBase.frame hs.frame
  suffices hHandled : ∃ r q, ControlPipe.handleInComplete s.device.control = .done r q ∧
      UsbStack.accepted (.control .in_) q.bus.trace = sent ++ left.take 1 ∧
      q.Owes (left.drop 1) by
    obtain ⟨r, q, hHandle, hAccepted, hOwes⟩ := hHandled
    have hCompletes := ControlPipe.completes_of_handleInComplete hHandle
    rw [Post, pollControl_of_completed (ControlPipe.receive_nothing hSetup hOut) hIn hHandle
      (hCompletes.ne_true hSending)]
    exact ⟨rfl, hs.frame.trans hCompletes.frame.toSameFrame, hAccepted, hOwes, hs.roster⟩
  cases left with
  | nil =>
    obtain ⟨q, hHandle, hState, -, hBus⟩ := ControlPipe.handleInComplete_sentAll hSending hPending
    refine ⟨_, q, hHandle, ?_, ?_, ?_⟩
    · rw [List.take_nil, List.append_nil, ← hs.accepted]
      rcases hBus with rfl | rfl
      · rfl
      · exact accepted_snoc (by simp)
    · unfold ControlPipe.Sending
      rw [hState]
      trivial
    · unfold ControlPipe.pending
      rw [hState]
      rfl
  | cons packet rest =>
    obtain ⟨r, q, hHandle, hSent⟩ := ControlPipe.handleInComplete_sent hNow.size hSending hPending
      fun count hCount => by
        rw [hNow.epIn, hWritable.write] at hCount
        exact (Except.ok.inj hCount).symm
    have hLeft := hSent.pending
    rw [hNow.epIn, hWritable.write] at hLeft
    refine ⟨r, q, hHandle, ?_, hSent.sending, hLeft⟩
    rw [hSent.bus, hNow.epIn, hWritable.accepted, hs.accepted]
    rfl

variable (sent) in
theorem leads_takenAll (hOthers : Bystander C) (hBase : base.Equipped) (count : Nat)
    (left : List (List UInt8)) :
    Transfer C cls (Stage base cls sent (ControlPipe.Owes left) data)
      (List.replicate count .inComplete)
      (Stage base cls (sent ++ left.take count) (ControlPipe.Owes (left.drop count)) data) := by
  induction count generalizing sent left with
  | zero =>
    rw [List.take_zero, List.append_nil]
    exact leads_nil (Stage.unmoved hOthers (ControlPipe.busless_owes left))
  | succ count ih =>
    have hRest := (leads_taken sent hOthers hBase left).cons (ih _ (left.drop 1))
    have hTaken : left.take 1 ++ (left.drop 1).take count = left.take (count + 1) := by
      rw [Nat.add_comm, List.take_add]
    rw [List.append_assoc, hTaken, List.drop_drop, Nat.add_comm 1] at hRest
    exact hRest

theorem leads_statusOut (hOthers : Bystander C) (hBase : base.Equipped) :
    Transfer C cls (Stage base cls sent (ControlPipe.Owes left) data) [.out []]
      (Stage base cls sent (fun p => p.state = .idle) data) := by
  refine Stage.leads hOthers (ControlPipe.busless_owes left) (fun _ _ h => h) ?_
  rintro s epOut epIn epSetup hs - ⟨hSetup, hOut, hHands⟩
  have hHandle : ControlPipe.handleOut s.device.control =
      .done (.ok none) { s.device.control.asked 0 with state := .idle } := by
    rw [ControlPipe.handleOut_inStage _ hs.pipe.1.inStage, (hBase.frame hs.frame).epOut,
      hHands 0 (Nat.le_refl _)]
  exact hs.pollControl_waits (ControlPipe.receive_out hSetup hOut hHandle) trivial rfl

theorem leads_read (hOthers : Bystander C) (hBase : base.Equipped) {packet : List UInt8}
    (hParse : Request.parse packet = .ok (TestClass.readRequest value index length))
    (hLength : data.length = length.toNat) (hFits : data.length ≤ sizes.buffer)
    (hRoom : data.length ≤ base.buf.length) (count : Nat) :
    Transfer C cls (Stage base cls sent ControlPipe.Bare data)
      (.setup packet :: (List.replicate count .inComplete ++ [.out []]))
      (Stage base cls (sent ++ (packets base.epIn.maxPacketSize.toNat data).take (count + 1))
        (fun p => p.state = .idle) data) := by
  obtain ⟨first, left, hPackets⟩ := List.exists_cons_of_ne_nil
    (packets_ne_nil base.epIn.maxPacketSize.toNat data)
  rw [hPackets, List.take_succ_cons, List.append_cons sent]
  exact (leads_readSetup hOthers hBase hParse hLength hFits hRoom hPackets).cons
    ((leads_takenAll _ hOthers hBase count left).append (leads_statusOut hOthers hBase))

end Read

section Between

variable [UsbClass C] {start s : Session B (TestClass sizes ⊕ C)}

/-- The host asks nothing of the test class and ends no response early, and the application leaves
the control buffer of the test class alone. -/
def SparesBuffer (input : DeviceInput B (TestClass sizes ⊕ C)) (s : Session B (TestClass sizes ⊕ C)) :
    Prop :=
  match input with
  | .poll => s.device.LetsFinish ∧ s.device.Brings fun req => ¬ TestClass.Owns req
  | .setClasses classes => List.Forall₂ Beside s.classes classes
  | _ => True

theorem tended_perform (hs : start.Tended Beside (fun req => ¬ TestClass.Owns req) s)
    {input : DeviceInput B (TestClass sizes ⊕ C)} (hSpares : SparesBuffer input s) :
    Post True input.perform
      (fun _ t => start.Tended Beside (fun req => ¬ TestClass.Owns req) t) s := by
  cases input with
  | poll => exact post_then (respects_beside.post_poll hs hSpares.1 hSpares.2) fun _ _ ht => ht
  | hardware bus => exact hs.withBus rfl
  | setClasses classes =>
    exact ⟨hs.frame, hs.clear, hs.awaiting, forall₂_trans beside_trans hs.classes hSpares⟩
  | useEndpoints m =>
    refine post_then ?_ fun _ _ ht => ht
    rw [Session.onDevice, post_zoom]
    apply (foreign_onBus (within_run m) s.device).mono
    rintro r e ⟨t, -, rfl⟩
    exact hs.withBus rfl
  | setSelfPowered b => exact hs.withBus rfl

end Between

/-- What the host writes to the test class in one control transfer it reads back in another,
whatever else it does in between. -/
theorem write_then_read [UsbBus.Contract B] [UsbClass C] (hOthers : Bystander C)
    {s : Session B (TestClass sizes ⊕ C)} (hUnaborted : s.Unaborted) {before after : List C}
    {cls : TestClass sizes} (hClasses : s.classes = before.map .inr ++ .inl cls :: after.map .inr)
    {data : List UInt8} (hFits : data.length ≤ sizes.buffer)
    (hRoom : data.length ≤ s.device.control.buf.length) {chunks : List (List UInt8)}
    (hData : chunks.flatten = data) (hFull : ∀ chunk ∈ chunks, chunk ≠ []) {length : UInt16}
    (hLength : data.length = length.toNat) {write read : List UInt8} {value index value' index' : UInt16}
    (hWrite : Request.parse write = .ok (TestClass.writeRequest value index length))
    (hRead : Request.parse read = .ok (TestClass.readRequest value' index' length))
    {writing : List (Visit B (TestClass sizes ⊕ C))}
    (hWriting : writing.filterMap Visit.traffic = .setup write :: (chunks.map .out ++ [.inComplete]))
    (hDue : Along Visit.perform (Visit.Due cls) writing s) :
    ∃ t, finalState Visit.perform writing s = some t ∧
      accepted (.control .in_) t.device.control.bus.trace =
        accepted (.control .in_) s.device.control.bus.trace ++ [[]] ∧
      t.device.control.state = .idle ∧
      ∀ (between : List (DeviceInput B (TestClass sizes ⊕ C))) (u : Session B (TestClass sizes ⊕ C)),
        Along DeviceInput.perform SparesBuffer between t →
        finalState DeviceInput.perform between t = some u → u.device.control.state ≠ .dataIn →
        ∀ (reading : List (Visit B (TestClass sizes ⊕ C))) (count : Nat),
          reading.filterMap Visit.traffic =
            .setup read :: (List.replicate count .inComplete ++ [.out []]) →
          data.length ≤ (count + 1) * s.device.control.epIn.maxPacketSize.toNat →
          Along Visit.perform (Visit.Due cls) reading u →
          ∃ v packets, finalState Visit.perform reading u = some v ∧
            accepted (.control .in_) v.device.control.bus.trace =
              accepted (.control .in_) u.device.control.bus.trace ++ packets ∧
            packets.flatten = data ∧ v.device.control.state = .idle := by
  obtain ⟨hSendable, hBare⟩ := hUnaborted.sendable
  have hBase : s.device.control.Equipped := ⟨hSendable.wellFormed.epOut, hSendable.wellFormed.epIn,
    hSendable.size, hSendable.wellFormed.room⟩
  have hRoster : Roster (cls.Holds []) s.classes := by
    rw [hClasses]
    exact roster_append before after ⟨rfl, rfl, rfl⟩
  obtain ⟨t, hFinal, ht⟩ := leads_write hOthers hBase hWrite (hLength ▸ hRoom) hLength hFits hFull
    hData writing s ⟨⟨rfl, rfl, rfl⟩, rfl, hBare, hRoster⟩ hDue hWriting
  refine ⟨t, hFinal, ht.accepted, ht.pipe.1, ?_⟩
  intro between u hBetween hThen hState reading count hReading hCount hDue'
  have hTended : t.Tended Beside (fun req => ¬ TestClass.Owns req) u := by
    refine (throughout_of_along (fun _ _ hs hSpares => tended_perform hs hSpares) ?_
      hBetween).finalState hThen
    exact ⟨⟨rfl, rfl, rfl⟩, .inl ht.pipe.2, fun req hData => by simp [ht.pipe.1] at hData,
      List.forall₂_same.mpr fun cls _ => beside_refl cls⟩
  obtain ⟨v, hEnd, hv⟩ := leads_read hOthers hBase hRead hLength hFits hRoom count reading u
    ⟨ht.frame.trans hTended.frame, rfl, hTended.clear.none hState,
      ht.roster.beside hTended.classes fun _ _ hHolds => hHolds.same⟩ hDue' hReading
  exact ⟨v, _, hEnd, hv.accepted, flatten_take_packets hSendable.size hCount, hv.pipe⟩

section Mailbox

def Traffic.visit {D : Type} : Traffic → Visit Mailbox D
  | setup packet => ⟨⟨none, some packet, .data 0 0 1⟩, id, some (.setup packet)⟩
  | out packet => ⟨⟨none, some packet, .data 1 0 0⟩, id, some (.out packet)⟩
  | inComplete => ⟨⟨none, none, .data 0 1 0⟩, id, some .inComplete⟩

theorem Mailbox.handsOut {bus : Mailbox} {packet : List UInt8} (h : bus.incoming = some packet) :
    HandsOut bus packet := by
  intro len hFits
  rw [Mailbox.read_control h, if_pos hFits]

theorem one_and_endpointBit (n : Nat) : 1 &&& endpointBit (n + 1) = 0 := by
  rw [endpointBit, ← UInt16.toNat_inj, UInt16.toNat_and, UInt16.toNat_shiftLeft]
  change 1 &&& (endpointBit n).toNat <<< 1 % 2 ^ 16 = 0
  rw [Nat.one_and_eq_mod_two, Nat.shiftLeft_eq]
  omega

theorem TestClass.spared_of_le {cls : TestClass sizes} {epIn : UInt16} (h : epIn = 0 ∨ epIn = 1) :
    cls.Spared epIn := by
  have hOther (ep : ClassEndpoint) : EndpointAddress.fromParts 0 .in_ ≠ ep.address :=
    fun hSame => ep.notControl (hSame ▸ EndpointAddress.index_control .in_)
  intro n hBit
  rcases h with rfl | rfl
  · exact absurd UInt16.zero_and hBit
  · cases n with
    | zero => exact ⟨hOther _, hOther _⟩
    | succ n => exact absurd (one_and_endpointBit n) hBit

variable {D : Type} [UsbClass D] {cls : TestClass sizes} {n : Nat}
  {s : Session Mailbox (TestClass sizes ⊕ D)}

omit [UsbBus B] [UsbClass D] in
/-- Every visit of the example may take place. -/
theorem due_visit (hAwake : s.device.deviceState ≠ .suspend) (traffic : Traffic) :
    traffic.visit.Due cls s := by
  have hEvent : (traffic.visit.prepare s).device.event? =
      some (traffic.visit.bus.event, (traffic.visit.prepare s).device.polled) :=
    UsbDevice.event?_of_awake hAwake
  have hClasses : List.Forall₂ Beside s.classes s.classes :=
    List.forall₂_same.mpr fun cls _ => beside_refl cls
  have hSpared (epIn : UInt16) (h : epIn = 0 ∨ epIn = 1) : cls.Spared epIn := TestClass.spared_of_le h
  cases traffic with
  | setup packet =>
    refine ⟨⟨0, 0, 1, _, hEvent, by decide, Mailbox.handsOut rfl⟩, Mailbox.writable_of_free rfl, ?_,
      hClasses⟩
    intro epOut epIn epSetup e hOther
    cases Option.some.inj (hEvent.symm.trans hOther)
    exact hSpared 0 (.inl rfl)
  | out packet =>
    refine ⟨⟨1, 0, 0, _, hEvent, by decide, by decide, Mailbox.handsOut rfl⟩,
      Mailbox.writable_of_free rfl, ?_, hClasses⟩
    intro epOut epIn epSetup e hOther
    cases Option.some.inj (hEvent.symm.trans hOther)
    exact hSpared 0 (.inl rfl)
  | inComplete =>
    refine ⟨⟨0, 1, 0, _, hEvent, by decide, by decide, by decide⟩, Mailbox.writable_of_free rfl, ?_,
      hClasses⟩
    intro epOut epIn epSetup e hOther
    cases Option.some.inj (hEvent.symm.trans hOther)
    exact hSpared 1 (.inr rfl)

omit [UsbBus B] in
theorem awake_visit (h : s.device.Awake n) (traffic : Traffic) :
    Post True (traffic.visit.perform : SessionM Mailbox _ Bool) (fun _ t => t.device.Awake n) s := by
  have hPrepared : (traffic.visit.prepare s).device.Awake n :=
    h.withPipe ⟨[], (List.append_nil _).symm, by simp⟩
  have hNot : (UsbBus.poll (traffic.visit.prepare s).device.control.bus.bus).1 ≠ .suspend := by
    cases traffic <;> exact PollResult.noConfusion
  rw [Post, Visit.perform_apply, poll_awake hPrepared]
  exact (post_handleEvent hPrepared.polled hNot).mono fun _ _ ht => ht.1

omit [UsbBus B] in
variable (cls) in
theorem along_visits (h : s.device.Awake n) (traffic : List Traffic) :
    Along Visit.perform (Visit.Due cls) (traffic.map Traffic.visit) s ∧
      ∀ t, finalState Visit.perform (traffic.map Traffic.visit) s = some t → t.device.Awake n := by
  induction traffic generalizing s with
  | nil => exact ⟨trivial, fun t ht => Option.some.inj ht ▸ h⟩
  | cons first rest ih =>
    have hNext {r : Except UsbError Bool} {mid : Session Mailbox (TestClass sizes ⊕ D)}
        (hStep : first.visit.perform s = .done r mid) : mid.device.Awake n :=
      post_of_done (awake_visit h first) hStep
    refine ⟨⟨due_visit h.deviceState first, fun r mid hStep => (ih (hNext hStep)).1⟩, fun t ht => ?_⟩
    rw [List.map_cons, finalState] at ht
    split at ht
    · rename_i r mid hStep
      exact (ih (hNext hStep)).2 t ht
    · cases ht

def roundTripClass : TestClass .fullSpeed :=
  .new ⟨4⟩ ⟨5⟩ ⟨0⟩ ⟨⟨⟨0x81⟩, .bulk, 64, 0⟩, by decide⟩ ⟨⟨⟨0x01⟩, .bulk, 64, 0⟩, by decide⟩
    ⟨⟨⟨0x82⟩, .interrupt, 31, 1⟩, by decide⟩ ⟨⟨⟨0x02⟩, .interrupt, 31, 1⟩, by decide⟩
    ⟨⟨⟨0x83⟩, .bulk, 64, 0⟩, by decide⟩

def roundTripSession : Session Mailbox (TestClass .fullSpeed ⊕ DefaultClass) :=
  ⟨{ config := (UsbDeviceBuilder.new ⟨0, 0⟩ []).config
     control := .new ⟨Mailbox.empty, [.enable]⟩ (List.replicate 256 0) (.control .out 8)
       (.control .in_ 8)
     deviceState := .default
     remoteWakeupEnabled := false
     selfPowered := false
     suspendedDeviceState := none
     pendingAddress := 0 },
    [.inr ⟨⟩, .inl roundTripClass]⟩

def tenWritten : List Traffic :=
  [.setup [0x40, 3, 0, 0, 0, 0, 10, 0], .out [1, 2, 3, 4, 5, 6, 7, 8], .out [9, 10], .inComplete]

def tenRead : List Traffic := [.setup [0xc0, 2, 0, 0, 0, 0, 10, 0], .inComplete, .out []]

end Mailbox

/-- Ten bytes in packets of eight, with a bulk packet in between. -/
theorem write_then_read_ten : ∃ t v packets,
    finalState Visit.perform (tenWritten.map Traffic.visit) roundTripSession = some t ∧
    finalState Visit.perform (tenRead.map Traffic.visit) t = some v ∧
    accepted (.control .in_) v.device.control.bus.trace =
      accepted (.control .in_) t.device.control.bus.trace ++ packets ∧
    packets.flatten = [1, 2, 3, 4, 5, 6, 7, 8, 9, 10] := by
  have hOthers : Bystander DefaultClass :=
    ⟨fun _ => trivial, fun _ _ => trivial, fun _ _ => trivial, fun _ _ => trivial,
      fun cls _ _ => ⟨cls, rfl⟩, fun cls _ _ _ => ⟨cls, rfl⟩⟩
  have hBuffer : ¬ (List.replicate 256 (0 : UInt8)).length < 8 := by decide +kernel
  have hFresh : roundTripSession.device.Fresh :=
    ⟨.new ⟨0, 0⟩ (List.replicate 256 0), .empty, ⟨.empty, [.enable]⟩, .new _ _, if_neg hBuffer⟩
  have hUnaborted : roundTripSession.Unaborted :=
    ⟨_, _, [], hFresh, trivial, rfl, ControlState.noConfusion⟩
  have hAwake : roundTripSession.device.Awake 0 := ⟨UsbDeviceState.noConfusion, rfl, rfl⟩
  have hFull : ∀ chunk ∈ [[1, 2, 3, 4, 5, 6, 7, 8], [9, 10]], chunk ≠ ([] : List UInt8) := by simp
  have hWrite : Request.parse [0x40, 3, 0, 0, 0, 0, 10, 0] = .ok (TestClass.writeRequest 0 0 10) := rfl
  have hRead : Request.parse [0xc0, 2, 0, 0, 0, 0, 10, 0] = .ok (TestClass.readRequest 0 0 10) := rfl
  have hClasses : roundTripSession.classes =
      [⟨⟩].map .inr ++ .inl roundTripClass :: ([] : List DefaultClass).map .inr := rfl
  obtain ⟨hDue, hAwake'⟩ := along_visits roundTripClass hAwake tenWritten
  obtain ⟨t, hFinal, -, hIdle, hThen⟩ := write_then_read hOthers hUnaborted hClasses (by decide)
    (by decide +kernel) rfl hFull rfl hWrite hRead rfl hDue
  have hResting : t.device.control.state ≠ .dataIn := by
    rw [hIdle]
    exact ControlState.noConfusion
  obtain ⟨v, packets, hEnd, hAccepted, hData, -⟩ := hThen [] t trivial rfl hResting
    (tenRead.map Traffic.visit) 1 rfl (by decide +kernel) (along_visits _ (hAwake' t hFinal) tenRead).1
  exact ⟨t, v, packets, hFinal, hEnd, hAccepted, hData⟩

end UsbStack
