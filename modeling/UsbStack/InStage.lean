import UsbStack.Mailbox
import UsbStack.PipeRun

/-! # The IN data stage

What is still to be sent of a response is a list of packets. Every IN-complete event hands the
first of them to the bus, and drops it from the list when the bus takes it.
-/

namespace UsbStack

set_option autoImplicit false

open Foundation Exec

namespace ControlPipe

variable {B : Type} [UsbBus B]

/-- The packets of the data stage that the bus has not taken yet. -/
def pending (p : ControlPipe B) : List (List UInt8) :=
  match p.state with
  | .dataIn => packets p.epIn.maxPacketSize.toNat ((p.inBuffer.take p.len).drop p.i)
  | .dataInZlp => [[]]
  | _ => []

def Sending (p : ControlPipe B) : Prop :=
  match p.state with
  | .dataIn => p.i ≤ p.len ∧ p.len ≤ p.inBuffer.length
  | .dataInZlp | .dataInLast | .statusOut => True
  | _ => False

omit [UsbBus B] in
theorem Sending.inStage {p : ControlPipe B} (h : p.Sending) : InStage p.state := by
  unfold Sending at h
  cases hState : p.state <;> rw [hState] at h <;> trivial

omit [UsbBus B] in
theorem Sending.answered {p : ControlPipe B} (h : p.Sending) : p.waitingForResponse = false := by
  unfold Sending at h
  unfold waitingForResponse
  cases hState : p.state <;> rw [hState] at h <;> first | rfl | exact h.elim

structure Sent (p q : ControlPipe B) (packet : List UInt8) (rest : List (List UInt8)) : Prop where
  sending : q.Sending
  epOut : q.epOut = p.epOut
  epIn : q.epIn = p.epIn
  bus : q.bus = p.bus.writing p.epIn.address packet
  pending : q.pending = match (UsbBus.write p.bus.bus p.epIn.address packet).1 with
    | .ok _ => rest
    | .error _ => packet :: rest

section Chunk

variable {p : ControlPipe B}

omit [UsbBus B] in
theorem pending_dataIn (hSize : 0 < p.epIn.maxPacketSize.toNat) (hState : p.state = .dataIn)
    (hLen : p.len ≤ p.inBuffer.length) :
    p.pending = (p.inBuffer.drop p.i).take p.chunkLength ::
      if p.i + p.epIn.maxPacketSize.toNat ≤ p.len then
        packets p.epIn.maxPacketSize.toNat
          ((p.inBuffer.take p.len).drop (p.i + p.epIn.maxPacketSize.toNat))
      else [] := by
  have hRest : (p.inBuffer.take p.len).drop p.i = (p.inBuffer.drop p.i).take (p.len - p.i) :=
    List.drop_take ..
  have hLength : ((p.inBuffer.take p.len).drop p.i).length = p.len - p.i := by
    rw [List.length_drop, List.length_take, Nat.min_eq_left hLen]
  simp only [pending, hState]
  by_cases hFull : p.i + p.epIn.maxPacketSize.toNat ≤ p.len
  · rw [if_pos hFull, packets_of_le hSize (by omega), List.drop_drop, chunkLength,
      Nat.min_eq_right (by omega), hRest, List.take_take, Nat.min_eq_left (by omega)]
  · rw [if_neg hFull, chunkLength, packets_of_lt (by omega), Nat.min_eq_left (by omega), hRest]

/-- A chunk that is offered is the first packet that is pending. -/
theorem writeInChunk_sent (hSize : 0 < p.epIn.maxPacketSize.toNat)
    (hState : p.state = .dataIn) (hSending : p.Sending) {packet : List UInt8}
    {rest : List (List UInt8)} (hPending : p.pending = packet :: rest)
    (hWhole : ∀ count, (UsbBus.write p.bus.bus p.epIn.address packet).1 = .ok count →
      count = packet.length) :
    ∃ r q, writeInChunk p = .done r q ∧ p.Sent q packet rest := by
  have hIndex : p.i ≤ p.len ∧ p.len ≤ p.inBuffer.length := by
    simpa only [Sending, hState] using hSending
  rw [pending_dataIn hSize hState hIndex.2] at hPending
  obtain ⟨hPacket, hRest⟩ := List.cons.inj hPending
  have hCount : p.i + p.chunkLength ≤ p.len := by
    unfold chunkLength
    omega
  have hLength : packet.length = p.chunkLength := by
    rw [← hPacket, List.length_take, List.length_drop]
    omega
  have hChunk : slice? p.inBuffer p.i (p.i + p.chunkLength) = some packet := by
    rw [slice?_of_le (Nat.le_add_right _ _) (by omega), Nat.add_sub_cancel_left, hPacket]
  rw [writeInChunk_apply, if_neg (Nat.not_lt.mpr hIndex.1), hChunk]
  dsimp only
  cases hWrite : (UsbBus.write p.bus.bus p.epIn.address packet).1 with
  | error e =>
    refine ⟨_, _, rfl, hSending, rfl, rfl, rfl, ?_⟩
    rw [hWrite, ← hPacket, ← hRest]
    exact pending_dataIn (p := p.offered packet) hSize hState hIndex.2
  | ok written =>
    have hWritten : written = p.chunkLength := by
      rw [← hLength, hWhole _ hWrite]
    dsimp only
    rw [hWritten, hChunk]
    refine ⟨_, _, rfl, ?_⟩
    rcases Nat.lt_or_ge (p.i + p.chunkLength) p.len with hLt | hLe
    · have hFull : p.chunkLength = p.epIn.maxPacketSize.toNat := by
        unfold chunkLength at hLt ⊢
        omega
      have hFits : p.i + p.epIn.maxPacketSize.toNat ≤ p.len := by omega
      rw [advanced_of_lt p hLt]
      refine ⟨?_, rfl, rfl, rfl, ?_⟩
      · simp only [Sending, offered, hState]
        exact ⟨hCount, hIndex.2⟩
      · rw [hWrite, ← hRest, if_pos hFits]
        simp only [ControlPipe.pending, offered, hState, hFull]
        rfl
    · rw [advanced_of_le p hLe]
      by_cases hFull : p.chunkLength = p.epIn.maxPacketSize.toNat
      · refine ⟨?_, rfl, rfl, rfl, ?_⟩
        · simp only [Sending, if_pos hFull]
        · have hFits : p.i + p.epIn.maxPacketSize.toNat ≤ p.len := by omega
          have hNil : (p.inBuffer.take p.len).drop (p.i + p.epIn.maxPacketSize.toNat) = [] := by
            rw [List.drop_eq_nil_iff, List.length_take]
            omega
          rw [hWrite, ← hRest, if_pos hFits, hNil, packets_of_lt hSize]
          simp only [ControlPipe.pending, if_pos hFull]
      · refine ⟨?_, rfl, rfl, rfl, ?_⟩
        · simp only [Sending, if_neg hFull]
        · have hShort : ¬ p.i + p.epIn.maxPacketSize.toNat ≤ p.len := by
            unfold chunkLength at hFull hLe
            omega
          rw [hWrite, ← hRest, if_neg hShort]
          simp only [ControlPipe.pending, if_neg hFull]

theorem writeInChunk_first (hSize : 0 < p.epIn.maxPacketSize.toNat) (hState : p.state = .dataIn)
    (hIndex : p.i = 0) (hLen : p.len ≤ p.inBuffer.length)
    (hWhole : ∀ data count, (UsbBus.write p.bus.bus p.epIn.address data).1 = .ok count →
      count = data.length) :
    ∃ r q packet rest, writeInChunk p = .done r q ∧
      packets p.epIn.maxPacketSize.toNat (p.inBuffer.take p.len) = packet :: rest ∧
      p.pending = packet :: rest ∧ p.Sent q packet rest := by
  have hSending : p.Sending := by
    simp only [Sending, hState, hIndex]
    exact ⟨Nat.zero_le _, hLen⟩
  have hPending : p.pending = packets p.epIn.maxPacketSize.toNat (p.inBuffer.take p.len) := by
    simp only [pending, hState, hIndex, List.drop_zero]
  have hCons := pending_dataIn hSize hState hLen
  obtain ⟨r, q, hDone, hSent⟩ := writeInChunk_sent hSize hState hSending hCons (hWhole _)
  exact ⟨r, q, _, _, hDone, hPending.symm.trans hCons, hCons, hSent⟩

/-- A completion offers the packet that is pending next. -/
theorem handleInComplete_sent (hSize : 0 < p.epIn.maxPacketSize.toNat)
    (hSending : p.Sending) {packet : List UInt8} {rest : List (List UInt8)}
    (hPending : p.pending = packet :: rest)
    (hWhole : ∀ count, (UsbBus.write p.bus.bus p.epIn.address packet).1 = .ok count →
      count = packet.length) :
    ∃ r q, handleInComplete p = .done r q ∧ p.Sent q packet rest := by
  cases hState : p.state with
  | dataIn =>
    obtain ⟨r, q, hWrite, hSent⟩ := writeInChunk_sent hSize hState hSending hPending hWhole
    rw [handleInComplete_dataIn p hState, hWrite]
    cases r with
    | ok u => exact ⟨_, _, rfl, hSent⟩
    | error e => exact ⟨_, _, rfl, hSent⟩
  | dataInZlp =>
    rw [handleInComplete_dataInZlp p hState]
    simp only [pending, hState, List.cons.injEq] at hPending
    obtain ⟨rfl, rfl⟩ := hPending
    cases hWrite : (UsbBus.write p.bus.bus p.epIn.address []).1 with
    | error e =>
      refine ⟨_, _, rfl, hSending, rfl, rfl, rfl, ?_⟩
      rw [hWrite]
      simp only [ControlPipe.pending, offered, hState]
    | ok written =>
      refine ⟨_, _, rfl, trivial, rfl, rfl, rfl, ?_⟩
      rw [hWrite]
      rfl
  | _ => simp only [pending, hState, reduceCtorEq] at hPending

theorem handleInComplete_sentAll (hSending : p.Sending) (hPending : p.pending = []) :
    ∃ q, handleInComplete p = .done (.ok false) q ∧ q.state = .statusOut ∧ q.epIn = p.epIn ∧
      (q = p ∨ q = { p with bus := p.bus.stalling p.epOut.address false, state := .statusOut }) := by
  cases hState : p.state with
  | dataIn => simp [pending, hState, packets] at hPending
  | dataInZlp => simp [pending, hState] at hPending
  | dataInLast => exact ⟨_, handleInComplete_dataInLast p hState, rfl, rfl, .inr rfl⟩
  | statusOut =>
    exact ⟨_, handleInComplete_unsending p (by rw [hState]; trivial), hState, rfl, .inl rfl⟩
  | _ => simp only [Sending, hState] at hSending

end Chunk

inductive Answer where
  | fromBuffer (f : SliceFn)
  | static (data : List UInt8)

def Answer.perform : Answer → PipeM B Unit
  | fromBuffer f => acceptIn f.run
  | static data => acceptInStatic data

/-- The response that an answer gives from the state of `p`. -/
def Answer.Gives (p : ControlPipe B) (response : List UInt8) : Answer → Prop
  | fromBuffer f => p.staticInBuf = none ∧ ∃ len buf, f.run p.buf = .done (.ok len) buf ∧
      len ≤ buf.length ∧ response = buf.take len
  | static data => response = data

/-- The answer announces `len` bytes, and the buffer that is sent from holds as many of them as the
host asked for. -/
def Answer.Announces (p : ControlPipe B) (req : Request) (len : Nat) : Answer → Prop
  | fromBuffer f => ∃ buf, f.run p.buf = .done (.ok len) buf ∧ len ≤ buf.length ∧
      min len req.length.toNat ≤ (p.staticInBuf.getD buf).length
  | static data => len = data.length

def Answer.Sends (p : ControlPipe B) (req : Request) (message : List UInt8) : Answer → Prop
  | fromBuffer f => ∃ len buf, f.run p.buf = .done (.ok len) buf ∧ len ≤ buf.length ∧
      min len req.length.toNat ≤ (p.staticInBuf.getD buf).length ∧
      message = (p.staticInBuf.getD buf).take (min len req.length.toNat)
  | static data => message = data.take (min data.length req.length.toNat)

section Answer

variable {p : ControlPipe B} {req : Request} {answer : Answer}

omit [UsbBus B] in
theorem Answer.Gives.sends {response : List UInt8} (h : answer.Gives p response) :
    answer.Sends p req (response.take (min response.length req.length.toNat)) := by
  cases answer with
  | fromBuffer f =>
    obtain ⟨hStatic, len, buf, hRun, hLen, rfl⟩ := h
    refine ⟨len, buf, hRun, hLen, ?_, ?_⟩
    · rw [hStatic, Option.getD_none]
      omega
    · rw [hStatic, Option.getD_none, List.length_take, Nat.min_eq_left hLen, List.take_take]
      congr 1
      omega
  | static data =>
    obtain rfl : response = data := h
    rfl

omit [UsbBus B] in
theorem Answer.gives_copy {data : List UInt8} (hStatic : p.staticInBuf = none)
    (hRoom : data.length ≤ p.buf.length) : (fromBuffer (.copy data)).Gives p data := by
  have hLength : (overwrite p.buf 0 data).length = p.buf.length := length_overwrite (by omega)
  refine ⟨hStatic, data.length, overwrite p.buf 0 data, ?_, by omega, ?_⟩
  · rw [SliceFn.copy_run_apply, if_neg (Nat.not_lt.mpr hRoom)]
  · have hTake := take_overwrite data (Nat.zero_le p.buf.length)
    rw [Nat.zero_add, List.take_zero, List.nil_append] at hTake
    exact hTake.symm

omit [UsbBus B] in
theorem Answer.Announces.sends {len : Nat} (h : answer.Announces p req len) :
    ∃ message, answer.Sends p req message ∧ message.length = min len req.length.toNat := by
  cases answer with
  | fromBuffer f =>
    obtain ⟨buf, hRun, hLen, hFits⟩ := h
    refine ⟨_, ⟨len, buf, hRun, hLen, hFits, rfl⟩, ?_⟩
    rw [List.length_take, Nat.min_eq_left hFits]
  | static data =>
    obtain rfl : len = data.length := h
    refine ⟨_, rfl, ?_⟩
    rw [List.length_take, Nat.min_eq_left (Nat.min_le_left _ _)]

theorem Answer.perform_sent {message : List UInt8} (hSize : 0 < p.epIn.maxPacketSize.toNat)
    (hState : p.state = .completeIn req) (hSends : answer.Sends p req message)
    (hWhole : ∀ data count, (UsbBus.write p.bus.bus p.epIn.address data).1 = .ok count →
      count = data.length) :
    ∃ r q packet rest, answer.perform p = .done r q ∧
      packets p.epIn.maxPacketSize.toNat message = packet :: rest ∧ p.Sent q packet rest := by
  cases answer with
  | fromBuffer f =>
    obtain ⟨len, buf, hRun, hBuf, hFits, rfl⟩ := hSends
    simp only [Answer.perform]
    rw [acceptIn_completeIn p hState, hRun]
    dsimp only
    rw [if_neg (Nat.not_lt.mpr hBuf)]
    obtain ⟨r, q, packet, rest, hDone, hPackets, -, hSent⟩ :=
      writeInChunk_first (p := ({ p with buf := buf } : ControlPipe B).started req len)
        hSize rfl rfl hFits hWhole
    exact ⟨r, q, packet, rest, hDone, hPackets, hSent.sending, hSent.epOut, hSent.epIn,
      hSent.bus, hSent.pending⟩
  | static data =>
    obtain rfl : message = data.take (min data.length req.length.toNat) := hSends
    simp only [Answer.perform]
    rw [acceptInStatic_completeIn p hState]
    obtain ⟨r, q, packet, rest, hDone, hPackets, -, hSent⟩ :=
      writeInChunk_first
        (p := ({ p with staticInBuf := some data } : ControlPipe B).started req data.length)
        hSize rfl rfl (Nat.min_le_left _ _) hWhole
    exact ⟨r, q, packet, rest, hDone, hPackets, hSent.sending, hSent.epOut, hSent.epIn,
      hSent.bus, hSent.pending⟩

end Answer

def completion (bus : B) : PipeM B Bool := onHardware bus handleInComplete

section Stage

variable [UsbBus.WholeWrites B] {p : ControlPipe B}

/-- The bus takes packets off the list in order, and is offered the first one. -/
structure Progress (p q : ControlPipe B) : Prop where
  sending : q.Sending
  epIn : q.epIn = p.epIn
  accepted : ∃ taken, accepted p.epIn.address q.bus.trace =
    accepted p.epIn.address p.bus.trace ++ taken ∧ taken ++ q.pending = p.pending

omit [UsbBus B] [UsbBus.WholeWrites B] in
theorem Progress.trans {q s : ControlPipe B} (h : p.Progress q) (h' : q.Progress s) :
    p.Progress s := by
  obtain ⟨first, hFirst, hPending⟩ := h.accepted
  obtain ⟨second, hSecond, hPending'⟩ := h'.accepted
  refine ⟨h'.sending, h'.epIn.trans h.epIn, first ++ second, ?_, ?_⟩
  · rw [← h.epIn, hSecond, h.epIn, hFirst, List.append_assoc]
  · rw [List.append_assoc, hPending', hPending]

omit [UsbBus.WholeWrites B] in
theorem Sent.accepted {q : ControlPipe B} {packet : List UInt8} {rest : List (List UInt8)}
    (h : p.Sent q packet rest) :
    ∃ taken, UsbStack.accepted p.epIn.address q.bus.trace =
      UsbStack.accepted p.epIn.address p.bus.trace ++ taken ∧ taken ++ q.pending = packet :: rest := by
  rw [h.bus, Traced.trace_writing, accepted_append, h.pending]
  cases (UsbBus.write p.bus.bus p.epIn.address packet).1 with
  | ok written => exact ⟨[packet], by simp [UsbStack.accepted], rfl⟩
  | error e => exact ⟨[], by simp [UsbStack.accepted], rfl⟩

omit [UsbBus.WholeWrites B] in
theorem Sent.progress {q : ControlPipe B} {packet : List UInt8} {rest : List (List UInt8)}
    (hPending : p.pending = packet :: rest) (h : p.Sent q packet rest) : p.Progress q :=
  ⟨h.sending, h.epIn, hPending ▸ h.accepted⟩

/-- Completions take the pending packets off in order. -/
theorem completion_progress (bus : B) (hSize : 0 < p.epIn.maxPacketSize.toNat)
    (hSending : p.Sending) :
    ∃ r q, completion bus p = .done r q ∧ p.Progress q ∧
      attempted p.epIn.address q.bus.trace =
        attempted p.epIn.address p.bus.trace ++ p.pending.take 1 ∧
      (p.pending = [] → q.state = .statusOut) := by
  let ready : ControlPipe B := { p with bus := ⟨bus, p.bus.trace⟩ }
  change ∃ r q, handleInComplete ready = .done r q ∧ _
  have hPending : ready.pending = p.pending := rfl
  cases h : p.pending with
  | nil =>
    obtain ⟨q, hDone, hState, hEp, hBus⟩ :=
      handleInComplete_sentAll (p := ready) hSending (hPending.trans h)
    have hNil : q.pending = [] := by simp only [pending, hState]
    refine ⟨_, q, hDone, ⟨by simp only [Sending, hState], hEp, [], ?_, by rw [hNil, h]; rfl⟩, ?_,
      fun _ => hState⟩
    · rcases hBus with rfl | rfl <;> simp [ready, accepted]
    · rcases hBus with rfl | rfl <;> simp [ready, attempted]
  | cons packet rest =>
    obtain ⟨r, q, hDone, hSent⟩ :=
      handleInComplete_sent (p := ready) hSize hSending (hPending.trans h)
        (UsbBus.WholeWrites.write_eq _ _ _)
    have hProgress := Sent.progress (p := ready) (hPending.trans h) hSent
    refine ⟨r, q, hDone, ⟨hProgress.sending, hProgress.epIn, hProgress.accepted⟩, ?_, nofun⟩
    rw [hSent.bus, Traced.trace_writing, attempted_append]
    simp [ready, attempted]

theorem finalState_completion (hSize : 0 < p.epIn.maxPacketSize.toNat) (hSending : p.Sending)
    (buses : List B) : ∃ q, finalState completion buses p = some q ∧ p.Progress q := by
  induction buses generalizing p with
  | nil => exact ⟨p, rfl, hSending, rfl, [], by simp, rfl⟩
  | cons bus rest ih =>
    obtain ⟨r, mid, hDone, hProgress, -⟩ := completion_progress bus hSize hSending
    obtain ⟨q, hFinal, hRest⟩ := ih (hProgress.epIn ▸ hSize) hProgress.sending
    exact ⟨q, by rw [finalState_cons hDone, hFinal], hProgress.trans hRest⟩

/-- Both ways to answer start the stage with the packets of the response, truncated to what the
host asked for. -/
theorem perform_progress {req : Request} {answer : Answer} {response : List UInt8}
    (hSize : 0 < p.epIn.maxPacketSize.toNat) (hState : p.state = .completeIn req)
    (hGives : answer.Gives p response) :
    ∃ r q, answer.perform p = .done r q ∧ q.Sending ∧ q.epIn = p.epIn ∧
      ∃ taken, accepted p.epIn.address q.bus.trace =
        accepted p.epIn.address p.bus.trace ++ taken ∧
        taken ++ q.pending = packets p.epIn.maxPacketSize.toNat
          (response.take (min response.length req.length.toNat)) := by
  obtain ⟨r, q, packet, rest, hDone, hPackets, hSent⟩ :=
    answer.perform_sent hSize hState hGives.sends (UsbBus.WholeWrites.write_eq p.bus.bus _)
  exact ⟨r, q, hDone, hSent.sending, hSent.epIn, hPackets ▸ hSent.accepted⟩

/-- The bus takes exactly the packets of the truncated response, in order, whatever it refuses in
between; each event offers it the first one that is left, and none when all are taken. -/
theorem dataStage_packets {req : Request} {answer : Answer} {response : List UInt8}
    (hSize : 0 < p.epIn.maxPacketSize.toNat) (hState : p.state = .completeIn req)
    (hGives : answer.Gives p response) :
    ∃ r start, answer.perform p = .done r start ∧
      ∀ buses : List B, ∃ q, finalState completion buses start = some q ∧
        ∃ sent rest,
          accepted p.epIn.address q.bus.trace = accepted p.epIn.address p.bus.trace ++ sent ∧
          sent ++ rest = packets p.epIn.maxPacketSize.toNat
            (response.take (min response.length req.length.toNat)) ∧
          ∀ bus, ∃ r' q', completion bus q = .done r' q' ∧
            attempted p.epIn.address q'.bus.trace =
              attempted p.epIn.address q.bus.trace ++ rest.take 1 ∧
            (rest = [] → q'.state = .statusOut) := by
  obtain ⟨r, start, hStart, hSending, hEp, first, hFirst, hPackets⟩ :=
    perform_progress hSize hState hGives
  refine ⟨r, start, hStart, fun buses => ?_⟩
  obtain ⟨q, hFinal, hProgress⟩ := finalState_completion (hEp ▸ hSize) hSending buses
  obtain ⟨taken, hTaken, hRest⟩ := hProgress.accepted
  have hEpIn := hProgress.epIn.trans hEp
  refine ⟨q, hFinal, first ++ taken, q.pending, ?_, ?_, fun bus => ?_⟩
  · rw [← List.append_assoc, ← hFirst, ← hEp, hTaken]
  · rw [List.append_assoc, hRest, hPackets]
  · obtain ⟨r', q', hDone, -, hAttempted, hLast⟩ :=
      completion_progress bus (hEpIn ▸ hSize) hProgress.sending
    exact ⟨r', q', hDone, hEpIn ▸ hAttempted, hLast⟩

/-- Ten bytes in packets of eight. -/
theorem dataStage_packets_ten : ∃ r start,
    (Answer.static [1, 2, 3, 4, 5, 6, 7, 8, 9, 10]).perform
      ({ ControlPipe.new ⟨Mailbox.empty, []⟩ (List.replicate 8 0) (.control .out 8)
          (.control .in_ 8) with
        state := .completeIn ⟨.in_, .standard, .device, 6, 0x100, 0, 64⟩ }) = .done r start ∧
      ∀ buses : List Mailbox, ∃ q, finalState completion buses start = some q ∧
        ∃ sent rest, accepted (.control .in_) q.bus.trace = sent ∧
          sent ++ rest = [[1, 2, 3, 4, 5, 6, 7, 8], [9, 10]] := by
  have hGives : (Answer.static [1, 2, 3, 4, 5, 6, 7, 8, 9, 10]).Gives
      ({ ControlPipe.new ⟨Mailbox.empty, []⟩ (List.replicate 8 0) (.control .out 8)
          (.control .in_ 8) with
        state := .completeIn ⟨.in_, .standard, .device, 6, 0x100, 0, 64⟩ })
      [1, 2, 3, 4, 5, 6, 7, 8, 9, 10] := rfl
  obtain ⟨r, start, hStart, hRun⟩ := dataStage_packets (by decide) rfl hGives
  refine ⟨r, start, hStart, fun buses => ?_⟩
  obtain ⟨q, hFinal, sent, rest, hSent, hPackets, -⟩ := hRun buses
  exact ⟨q, hFinal, sent, rest, hSent, hPackets⟩

end Stage

end ControlPipe

end UsbStack
