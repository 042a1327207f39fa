import UsbStack.PipeRun

/-! # The OUT data stage

The pipe collects the bytes of the host behind each other until it has as many as the SETUP packet
announced, and hands the request out with the packet that completes them.
-/

namespace UsbStack

set_option autoImplicit false

open Foundation Exec

/-- What can happen on endpoint 0 during the stage. -/
inductive OutEvent where
  | packet (bytes : List UInt8)
  | wouldBlock
  | inComplete

namespace OutEvent

def perform : OutEvent → PipeM ScriptBus (Option Request)
  | packet bytes => onHardware (.ofReads [.ok bytes]) ControlPipe.handleOut
  | wouldBlock => onHardware (.ofReads [.error .wouldBlock]) ControlPipe.handleOut
  | inComplete => do
    let _ ← ControlPipe.handleInComplete
    pure none

def bytes : OutEvent → List UInt8
  | packet bytes => bytes
  | wouldBlock | inComplete => []

end OutEvent

def received (events : List OutEvent) : List UInt8 := events.flatMap OutEvent.bytes

namespace ControlPipe

structure Receiving (req : Request) (got : List UInt8) (p : ControlPipe ScriptBus) : Prop where
  state : p.state = .dataOut req
  len : p.len = req.length.toNat
  index : p.i = got.length
  fits : got.length ≤ p.buf.length
  bytes : p.buf.take got.length = got

def stored (p : ControlPipe ScriptBus) (bytes : List UInt8) : ControlPipe ScriptBus :=
  { p.loaded p.i bytes with i := p.i + bytes.length }

def overrun (p : ControlPipe ScriptBus) : ControlPipe ScriptBus :=
  (p.asked (p.buf.length - p.i)).errored

section Receive

variable {p : ControlPipe ScriptBus} {req : Request} {got : List UInt8}

theorem handleOut_of_reads {bytes : List UInt8} {rest : List (Except UsbError (List UInt8))}
    (hReads : p.bus.bus.reads = .ok bytes :: rest) (hState : p.state = .dataOut req)
    (hIndex : p.i ≤ p.buf.length) :
    handleOut p =
      if p.buf.length - p.i < bytes.length then .done (.ok none) p.overrun
      else if p.len ≤ p.i + bytes.length then
        .done (.ok (some req)) { p.stored bytes with state := .completeOut }
      else .done (.ok none) (p.stored bytes) := by
  rw [handleOut_dataOut p hState hIndex, ScriptBus.read_cons hReads]
  by_cases hLong : p.buf.length - p.i < bytes.length
  · rw [if_pos hLong, if_neg (Nat.not_le.mpr hLong)]
    rfl
  · rw [if_neg hLong, if_pos (Nat.not_lt.mp hLong)]
    dsimp only
    rw [if_neg hLong]
    rfl

theorem handleOut_of_wouldBlock {rest : List (Except UsbError (List UInt8))}
    (hReads : p.bus.bus.reads = .error .wouldBlock :: rest) (hState : p.state = .dataOut req)
    (hIndex : p.i ≤ p.buf.length) :
    handleOut p = .done (.ok none) (p.asked (p.buf.length - p.i)) := by
  rw [handleOut_dataOut p hState hIndex, ScriptBus.read_error hReads]

def offering (p : ControlPipe ScriptBus) (bytes : List UInt8) : ControlPipe ScriptBus :=
  p.withBus (.ofReads [.ok bytes])

theorem packet_apply (hState : p.state = .dataOut req) (hIndex : p.i ≤ p.buf.length)
    (bytes : List UInt8) :
    (OutEvent.packet bytes).perform p =
      if p.buf.length - p.i < bytes.length then .done (.ok none) (p.offering bytes).overrun
      else if p.len ≤ p.i + bytes.length then
        .done (.ok (some req)) { (p.offering bytes).stored bytes with state := .completeOut }
      else .done (.ok none) ((p.offering bytes).stored bytes) :=
  handleOut_of_reads (p := p.offering bytes) rfl hState hIndex

theorem wouldBlock_apply (hState : p.state = .dataOut req) (hIndex : p.i ≤ p.buf.length) :
    OutEvent.wouldBlock.perform p = .done (.ok none)
      ((p.withBus (.ofReads [.error .wouldBlock])).asked (p.buf.length - p.i)) :=
  handleOut_of_wouldBlock (p := p.withBus (.ofReads [.error .wouldBlock])) rfl hState hIndex

theorem inComplete_apply (hState : p.state = .dataOut req) :
    OutEvent.inComplete.perform p = .done (.ok none) p := by
  rw [OutEvent.perform, bind_apply, handleInComplete_unsending p (by rw [hState]; trivial)]
  rfl

theorem Receiving.index_le (h : p.Receiving req got) : p.i ≤ p.buf.length := h.index ▸ h.fits

theorem Receiving.take_stored (h : p.Receiving req got) (bytes : List UInt8) :
    ((p.offering bytes).stored bytes).buf.take (got ++ bytes).length = got ++ bytes := by
  change (overwrite p.buf p.i bytes).take _ = _
  rw [List.length_append, ← h.index, take_overwrite bytes h.index_le, h.index, h.bytes]

theorem Receiving.length_stored (h : p.Receiving req got) (bytes : List UInt8)
    (hRoom : got.length + bytes.length ≤ p.buf.length) :
    ((p.offering bytes).stored bytes).buf.length = p.buf.length := by
  have hIndex := h.index
  have hFits : p.i + bytes.length ≤ p.buf.length := by omega
  exact length_overwrite hFits

/-- An event adds its packet to the data while they are short of the announced length. -/
theorem Receiving.step (h : p.Receiving req got) (hFits : req.length.toNat ≤ p.buf.length)
    (event : OutEvent) (hShort : (got ++ event.bytes).length < req.length.toNat) :
    ∃ q, event.perform p = .done (.ok none) q ∧ q.Receiving req (got ++ event.bytes) ∧
      q.buf.length = p.buf.length ∧ q.epOut = p.epOut ∧ q.epIn = p.epIn := by
  cases event with
  | packet bytes =>
    change (got ++ bytes).length < req.length.toNat at hShort
    have hRoom : got.length + bytes.length ≤ p.buf.length := by
      rw [← List.length_append]
      omega
    have hIndex := h.index
    have hLen := h.len
    rw [List.length_append] at hShort
    rw [packet_apply h.state h.index_le, if_neg (by omega), if_neg (by omega)]
    refine ⟨_, rfl, ⟨h.state, h.len, ?_, ?_, h.take_stored bytes⟩,
      h.length_stored _ hRoom, rfl, rfl⟩
    · change p.i + bytes.length = (got ++ bytes).length
      rw [List.length_append, h.index]
    · change (got ++ bytes).length ≤ _
      rw [h.length_stored _ hRoom, List.length_append]
      exact hRoom
  | wouldBlock =>
    rw [wouldBlock_apply h.state h.index_le]
    rw [OutEvent.bytes, List.append_nil]
    exact ⟨_, rfl, ⟨h.state, h.len, h.index, h.fits, h.bytes⟩, rfl, rfl, rfl⟩
  | inComplete =>
    rw [inComplete_apply h.state]
    rw [OutEvent.bytes, List.append_nil]
    exact ⟨p, rfl, h, rfl, rfl, rfl⟩

/-- A run of the stage collects its packets. -/
theorem Receiving.run (h : p.Receiving req got) (hFits : req.length.toNat ≤ p.buf.length)
    (events : List OutEvent) (hShort : (got ++ received events).length < req.length.toNat) :
    ∃ q, finalState OutEvent.perform events p = some q ∧
      outputs OutEvent.perform events p = events.map (fun _ => .ok (.ok none)) ∧
      q.Receiving req (got ++ received events) ∧
      q.buf.length = p.buf.length ∧ q.epOut = p.epOut ∧ q.epIn = p.epIn := by
  induction events generalizing p got with
  | nil =>
    refine ⟨p, rfl, rfl, ?_, rfl, rfl, rfl⟩
    simpa [received] using h
  | cons event rest ih =>
    have hCons : got ++ received (event :: rest) = got ++ event.bytes ++ received rest := by
      simp [received]
    rw [hCons] at hShort ⊢
    have hFirst : (got ++ event.bytes).length < req.length.toNat := by
      rw [List.length_append] at hShort
      omega
    obtain ⟨mid, hStep, hMid, hBuf, hOut, hIn⟩ := h.step hFits event hFirst
    obtain ⟨q, hFinal, hOutputs, hq, hBuf', hOut', hIn'⟩ := ih hMid (hBuf ▸ hFits) hShort
    refine ⟨q, by rw [finalState_cons hStep, hFinal], ?_, hq, hBuf'.trans hBuf,
      hOut'.trans hOut, hIn'.trans hIn⟩
    rw [outputs_cons hStep, hOutputs, List.map_cons]

end Receive

section Quiet

variable {B : Type} [UsbBus B] {p : ControlPipe B}

def NotReceiving (p : ControlPipe B) : Prop :=
  match p.state with
  | .dataOut _ => False
  | _ => True

theorem notReceiving_errored (p : ControlPipe B) : p.errored.NotReceiving := trivial

theorem post_writeInChunk_notReceiving (h : p.NotReceiving) :
    Post True writeInChunk (fun _ q => q.NotReceiving) p := by
  rw [post_true_iff]
  intro r q hDone
  rw [writeInChunk_apply] at hDone
  split at hDone
  · cases hDone
  · split at hDone
    · cases hDone
    · rename_i chunk _
      split at hDone
      · cases hDone
        exact h
      · rename_i written _
        split at hDone
        · cases hDone
        · cases hDone
          rcases Nat.lt_or_ge (p.i + written) p.len with hLt | hLe
          · rw [advanced_of_lt p hLt]
            exact h
          · rw [advanced_of_le p hLe]
            unfold NotReceiving
            dsimp only
            split <;> first | trivial | (split at * <;> contradiction)

theorem post_handleOut_notReceiving (h : p.NotReceiving) :
    Post True handleOut (fun r q => q.NotReceiving ∧ r.toOption.join = none) p := by
  unfold Post
  cases hState : p.state with
  | dataOut req => simp only [NotReceiving, hState] at h
  | dataIn | dataInZlp | dataInLast | statusOut =>
    rw [handleOut_inStage p (by rw [hState]; trivial)]
    cases (UsbBus.read p.bus.bus p.epOut.address 0).1 with
    | error e => exact ⟨h, rfl⟩
    | ok packet => exact ⟨trivial, rfl⟩
  | idle | completeIn req | completeOut | statusIn | error =>
    rw [handleOut_unexpecting p (by rw [hState]; trivial)]
    cases (UsbBus.read p.bus.bus p.epOut.address 0).1 with
    | error e => exact ⟨h, rfl⟩
    | ok packet => exact ⟨notReceiving_errored _, rfl⟩

theorem post_handleInComplete_notReceiving (h : p.NotReceiving) :
    Post True handleInComplete (fun _ q => q.NotReceiving) p := by
  unfold Post
  cases hState : p.state with
  | dataIn =>
    rw [handleInComplete_dataIn p hState]
    cases hWrite : writeInChunk p with
    | panic reason => trivial
    | done r q =>
      have hq := post_of_done (post_writeInChunk_notReceiving h) hWrite
      cases r <;> exact hq
  | dataInZlp =>
    rw [handleInComplete_dataInZlp p hState]
    cases (UsbBus.write p.bus.bus p.epIn.address []).1 with
    | error e => exact h
    | ok written => trivial
  | dataInLast =>
    rw [handleInComplete_dataInLast p hState]
    trivial
  | statusIn =>
    rw [handleInComplete_statusIn p hState]
    trivial
  | idle | completeIn req | statusOut | completeOut | dataOut req | error =>
    rw [handleInComplete_unsending p (by rw [hState]; trivial)]
    exact h

theorem post_acceptIn_notReceiving (f : SliceFn) (h : p.NotReceiving) :
    Post True (acceptIn f.run) (fun _ q => q.NotReceiving) p := by
  by_cases hState : ∃ req, p.state = .completeIn req
  · obtain ⟨req, hState⟩ := hState
    unfold Post
    rw [acceptIn_completeIn p hState]
    cases f.run p.buf with
    | panic reason => trivial
    | done r buf =>
      cases r with
      | error e => exact h
      | ok len =>
        dsimp only
        by_cases hLen : buf.length < len
        · rw [if_pos hLen]
          exact notReceiving_errored _
        · rw [if_neg hLen]
          exact post_writeInChunk_notReceiving (p := ControlPipe.started _ req len) trivial
  · unfold Post
    rw [acceptIn_of_ne p (fun req hEq => hState ⟨req, hEq⟩)]
    exact h

theorem post_acceptInStatic_notReceiving (data : List UInt8) (h : p.NotReceiving) :
    Post True (acceptInStatic data) (fun _ q => q.NotReceiving) p := by
  by_cases hState : ∃ req, p.state = .completeIn req
  · obtain ⟨req, hState⟩ := hState
    unfold Post
    rw [acceptInStatic_completeIn p hState]
    exact post_writeInChunk_notReceiving (p := ControlPipe.started _ req data.length) trivial
  · unfold Post
    rw [acceptInStatic_of_ne p (fun req hEq => hState ⟨req, hEq⟩)]
    exact h

theorem post_acceptOut_notReceiving (h : p.NotReceiving) :
    Post True acceptOut (fun _ q => q.NotReceiving) p := by
  unfold Post
  by_cases hState : p.state = .completeOut
  · rw [acceptOut_completeOut p hState]
    cases (UsbBus.write p.bus.bus p.epIn.address []).1 with
    | error e => exact h
    | ok written => trivial
  · rw [acceptOut_of_ne p hState]
    exact h

theorem post_reject_notReceiving (h : p.NotReceiving) :
    Post True reject (fun _ q => q.NotReceiving) p := by
  unfold Post
  rw [reject_apply]
  by_cases hWaiting : p.waitingForResponse
  · rw [if_pos hWaiting]
    exact notReceiving_errored _
  · rw [if_neg hWaiting]
    exact h

/-- A pipe that awaits no data stays so until a SETUP packet. -/
theorem post_perform_notReceiving {op : PipeOp} (hOp : op ≠ .handleSetup) (h : p.NotReceiving) :
    Post True op.perform (fun r q => q.NotReceiving ∧ PipeOp.dispatched r = none) p := by
  have hReply {α : Type} {m : PipeM B α} (hm : Post True m (fun _ q => q.NotReceiving) p)
      {reply : α → PipeOp.Reply} (hr : ∀ a, PipeOp.dispatched (.ok (reply a)) = none) :
      Post True (do let a ← m; pure (reply a))
        (fun r q => q.NotReceiving ∧ PipeOp.dispatched r = none) p := by
    rw [post_bind]
    apply hm.mono
    intro r q hq
    cases r with
    | error e => exact ⟨hq, rfl⟩
    | ok a => exact ⟨hq, hr a⟩
  cases op with
  | handleSetup => exact absurd rfl hOp
  | handleOut =>
    rw [PipeOp.perform, post_bind]
    apply (post_handleOut_notReceiving h).mono
    rintro r q ⟨hq, hNone⟩
    cases r with
    | error e => exact ⟨hq, rfl⟩
    | ok req => exact ⟨hq, hNone⟩
  | handleInComplete => exact hReply (post_handleInComplete_notReceiving h) fun _ => rfl
  | acceptIn f => exact hReply (post_acceptIn_notReceiving f.toSliceFn h) fun _ => rfl
  | acceptInStatic data => exact hReply (post_acceptInStatic_notReceiving data h) fun _ => rfl
  | acceptOut => exact hReply (post_acceptOut_notReceiving h) fun _ => rfl
  | reject => exact hReply (post_reject_notReceiving h) fun _ => rfl
  | reset => exact ⟨trivial, rfl⟩
  | readData =>
    simp only [PipeOp.perform, post_bind, post_get]
    cases hState : p.state with
    | completeOut =>
      simp only [data, post_bind, post_get]
      cases slice? p.buf 0 p.len with
      | none => trivial
      | some part => exact ⟨h, rfl⟩
    | _ => exact ⟨h, rfl⟩

/-- No further operation hands out a request until the next SETUP packet. -/
def NeverDispatches (p : ControlPipe B) : Prop :=
  ∀ ops : List (B × PipeOp), (∀ op ∈ ops, op.2 ≠ .handleSetup) →
    ∀ r, .ok r ∈ outputs (fun op : B × PipeOp => onHardware op.1 op.2.perform) ops p →
      PipeOp.dispatched r = none

theorem neverDispatches_of_notReceiving (h : p.NotReceiving) : p.NeverDispatches :=
  fun _ hOps _ => forall_mem_outputs (C := fun op : B × PipeOp => op.2 ≠ .handleSetup)
    (fun op q hOp hq => post_perform_notReceiving (p := q.withBus op.1) hOp hq) hOps h

end Quiet

theorem begun_receiving {p : ControlPipe ScriptBus} {req : Request}
    (hOut : req.direction = .out) (hPos : 0 < req.length)
    (hFits : req.length.toNat ≤ p.buf.length) :
    (p.begun req).1 = none ∧ (p.begun req).2.Receiving req [] ∧
      (p.begun req).2.buf.length = p.buf.length ∧ (p.begun req).2.epOut = p.epOut ∧
      (p.begun req).2.epIn = p.epIn := by
  unfold begun
  dsimp only
  rw [if_pos hOut, if_pos hPos, if_neg (Nat.not_lt.mpr hFits)]
  exact ⟨rfl, ⟨rfl, rfl, rfl, Nat.zero_le _, rfl⟩, rfl, rfl, rfl⟩

theorem handleSetup_receiving {p : ControlPipe ScriptBus} {packet : List UInt8} {req : Request}
    (hParse : Request.parse packet = .ok req) (hOut : req.direction = .out)
    (hPos : 0 < req.length) (hFits : req.length.toNat ≤ p.buf.length) (hBuf : 8 ≤ p.buf.length) :
    ∃ q, onHardware (.ofReads [.ok packet]) handleSetup p = .done (.ok none) q ∧
      q.Receiving req [] ∧ q.buf.length = p.buf.length ∧ q.epOut = p.epOut ∧ q.epIn = p.epIn := by
  have hSetup := ScriptBus.handleSetup_of_reads (p := p.offering packet) rfl hParse hBuf
  have hStored : ((p.offering packet).loaded 0 packet).buf.length = p.buf.length := by
    have hLength := Request.length_of_parse hParse
    have hPacket : 0 + packet.length ≤ p.buf.length := by omega
    exact length_overwrite hPacket
  obtain ⟨hNone, hReceiving, hBufLength, hEpOut, hEpIn⟩ :=
    begun_receiving (p := (p.offering packet).loaded 0 packet) hOut hPos (hStored ▸ hFits)
  refine ⟨_, ?_, hReceiving, hBufLength.trans hStored, hEpOut, hEpIn⟩
  rw [onHardware_apply, ← hNone]
  exact hSetup

/-- Before the announced length is reached nothing is handed out; the packet that reaches it hands
the request out once, with the first bytes of all packets; a packet without room stalls. -/
theorem outStage_delivers {p : ControlPipe ScriptBus} {packet : List UInt8} {req : Request}
    (hParse : Request.parse packet = .ok req) (hOut : req.direction = .out)
    (hPos : 0 < req.length) (hFits : req.length.toNat ≤ p.buf.length) (hBuf : 8 ≤ p.buf.length) :
    ∃ start, onHardware (.ofReads [.ok packet]) handleSetup p = .done (.ok none) start ∧
      ∀ events, (received events).length < req.length.toNat →
        outputs OutEvent.perform events start = events.map (fun _ => .ok (.ok none)) ∧
        ∃ mid, finalState OutEvent.perform events start = some mid ∧
          ∀ bytes,
            (req.length.toNat ≤ (received events ++ bytes).length →
              (received events ++ bytes).length ≤ p.buf.length →
              ∃ q, (OutEvent.packet bytes).perform mid = .done (.ok (some req)) q ∧
                data q = .done (.ok ((received events ++ bytes).take req.length.toNat)) q ∧
                q.NeverDispatches) ∧
            (p.buf.length < (received events ++ bytes).length →
              ∃ q, (OutEvent.packet bytes).perform mid = .done (.ok none) q ∧
                q.state = .error ∧ stalled p.epOut.address q.bus.trace = true ∧
                stalled p.epIn.address q.bus.trace = true ∧ q.NeverDispatches) := by
  obtain ⟨start, hStart, hReceiving, hLength, hEpOut, hEpIn⟩ :=
    handleSetup_receiving hParse hOut hPos hFits hBuf
  refine ⟨start, hStart, fun events hShort => ?_⟩
  obtain ⟨mid, hFinal, hOutputs, hMid, hLength', hEpOut', hEpIn'⟩ :=
    hReceiving.run (hLength ▸ hFits) events hShort
  rw [List.nil_append] at hMid
  refine ⟨hOutputs, mid, hFinal, fun bytes => ⟨fun hReached hRoom => ?_, fun hOver => ?_⟩⟩
  · have hIndex := hMid.index
    have hLen := hMid.len
    have hTake := hMid.take_stored bytes
    have hStored := hMid.length_stored bytes
      (by rw [← List.length_append]; omega)
    rw [List.length_append] at hReached hRoom
    rw [packet_apply hMid.state hMid.index_le, if_neg (by omega), if_pos (by omega)]
    refine ⟨_, rfl, ?_, neverDispatches_of_notReceiving trivial⟩
    have hSlice : slice? ((mid.offering bytes).stored bytes).buf 0 mid.len =
        some ((received events ++ bytes).take req.length.toNat) := by
      rw [slice?_of_le (Nat.zero_le _) (by omega), hLen, List.drop_zero, Nat.sub_zero,
        ← hTake, List.take_take, Nat.min_eq_left (by rw [List.length_append]; omega)]
    rw [data, bind_apply, get_apply]
    change ofOption _ (slice? ((mid.offering bytes).stored bytes).buf 0 mid.len) _ = _
    rw [hSlice]
    rfl
  · have hIndex := hMid.index
    rw [List.length_append] at hOver
    rw [packet_apply hMid.state hMid.index_le, if_pos (by omega)]
    have hStalled := stalled_errored ((mid.offering bytes).asked (mid.buf.length - mid.i))
    refine ⟨_, rfl, rfl, ?_, ?_, neverDispatches_of_notReceiving trivial⟩
    · rw [← hEpOut, ← hEpOut']
      exact hStalled.1
    · rw [← hEpIn, ← hEpIn']
      exact hStalled.2

/-- A request with three bytes of data. -/
theorem outStage_delivers_three : ∃ start,
    onHardware (.ofReads [.ok [0x40, 1, 0, 0, 0, 0, 3, 0]]) handleSetup
      (new ⟨.ofReads [], []⟩ (List.replicate 8 0) (.control .out 8) (.control .in_ 8)) =
        .done (.ok none) start ∧
      outputs OutEvent.perform [.packet [1], .wouldBlock, .packet []] start =
        [.ok (.ok none), .ok (.ok none), .ok (.ok none)] := by
  have hParse : Request.parse [0x40, 1, 0, 0, 0, 0, 3, 0] =
      .ok ⟨.out, .vendor, .device, 1, 0, 0, 3⟩ := rfl
  obtain ⟨start, hStart, hRun⟩ := outStage_delivers
    (p := new ⟨.ofReads [], []⟩ (List.replicate 8 0) (.control .out 8) (.control .in_ 8))
    hParse rfl (by decide) (by decide) (by decide)
  exact ⟨start, hStart, (hRun [.packet [1], .wouldBlock, .packet []] (by decide)).1⟩

end ControlPipe

end UsbStack
