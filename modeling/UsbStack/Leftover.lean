import UsbStack.PipeFreshness

/-! # What a leftover gives away

A response from the buffer is sent from a leftover static response instead, if there is one. So two
pipes with different leftovers can be told apart by a single request, and the relation under which
two pipes answer alike is exact.
-/

namespace UsbStack

set_option autoImplicit false

open Foundation Exec

namespace ControlPipe

section Exchange

def taking (reads : List (Except UsbError (List UInt8))) (k : Nat) : ScriptBus :=
  ⟨reads, List.replicate k (.ok 65535), []⟩

variable {p : ControlPipe ScriptBus}

theorem write_of_replicate {k : Nat} (h : p.bus.bus.writes = List.replicate (k + 1) (.ok 65535))
    (data : List UInt8) (hData : data.length ≤ 65535) :
    UsbBus.write p.bus.bus p.epIn.address data =
      (.ok data.length, { p.bus.bus with writes := List.replicate k (.ok 65535) }) := by
  change p.bus.bus.write data = _
  rw [List.replicate_succ] at h
  rw [ScriptBus.write, h]
  dsimp only
  rw [Nat.min_eq_right hData]

omit p in
theorem length_le_of_pending {B : Type} {p : ControlPipe B} (hSize : 0 < p.epIn.maxPacketSize.toNat)
    (hSending : p.Sending) {packet : List UInt8} {rest : List (List UInt8)}
    (hPending : p.pending = packet :: rest) : packet.length ≤ 65535 := by
  cases hState : p.state with
  | dataIn =>
    simp only [Sending, hState] at hSending
    rw [pending_dataIn hSize hState hSending.2] at hPending
    obtain ⟨rfl, -⟩ := List.cons.inj hPending
    have hMax := p.epIn.maxPacketSize.toNat_lt
    have hTake := List.length_take_le p.chunkLength (p.inBuffer.drop p.i)
    have hChunk : p.chunkLength ≤ p.epIn.maxPacketSize.toNat := Nat.min_le_right _ _
    omega
  | dataInZlp =>
    simp only [pending, hState, List.cons.injEq] at hPending
    obtain ⟨rfl, -⟩ := hPending
    exact Nat.zero_le _
  | _ => simp only [pending, hState, reduceCtorEq] at hPending

theorem perform_handleInComplete {B : Type} [UsbBus B] {p q : ControlPipe B}
    {r : Except UsbError Bool} (h : handleInComplete p = .done r q) :
    ∃ r', Stimulus.inComplete.perform p = .done r' q := by
  rw [Stimulus.perform, Stimulus.op, PipeOp.perform, bind_apply, h]
  cases r <;> exact ⟨_, rfl⟩

/-- On a bus that takes packets whole the bytes of the answer come out in packets. -/
theorem accepted_of_taking (hSize : 0 < p.epIn.maxPacketSize.toNat) (hSending : p.Sending)
    {events k : Nat} (hTaking : p.bus.bus.writes = List.replicate k (.ok 65535))
    (hEvents : p.pending.length ≤ events) (hEnough : events ≤ k) :
    ∃ q, finalState Stimulus.perform (List.replicate events .inComplete) p = some q ∧
      accepted p.epIn.address q.bus.trace = accepted p.epIn.address p.bus.trace ++ p.pending := by
  induction events generalizing p k with
  | zero =>
    rw [List.length_eq_zero_iff.mp (Nat.le_zero.mp hEvents), List.append_nil]
    exact ⟨p, rfl, rfl⟩
  | succ events ih =>
    rw [List.replicate_succ]
    cases hPending : p.pending with
    | nil =>
      obtain ⟨mid, hDone, hState, hEp, hBus⟩ := handleInComplete_sentAll hSending hPending
      obtain ⟨r', hPerform⟩ := perform_handleInComplete hDone
      have hMid : mid.pending = [] := by simp only [pending, hState]
      have hWrites : mid.bus.bus.writes = p.bus.bus.writes := by
        rcases hBus with rfl | rfl <;> rfl
      have hTrace : accepted p.epIn.address mid.bus.trace =
          accepted p.epIn.address p.bus.trace := by
        rcases hBus with rfl | rfl <;> simp [accepted]
      obtain ⟨q, hFinal, hAccepted⟩ := ih (p := mid) (hEp ▸ hSize) (by simp only [Sending, hState])
        (hWrites.trans hTaking) (by rw [hMid]; exact Nat.zero_le _) (by omega)
      refine ⟨q, by rw [finalState_cons hPerform, hFinal], ?_⟩
      rw [← hEp, hAccepted, hMid, hEp, hTrace]
    | cons packet rest =>
      obtain ⟨k, rfl⟩ : ∃ k', k = k' + 1 := ⟨k - 1, by omega⟩
      have hWrite := write_of_replicate hTaking _ (length_le_of_pending hSize hSending hPending)
      obtain ⟨r, mid, hDone, hSent⟩ := handleInComplete_sent hSize hSending hPending (by
        rw [hWrite]
        rintro count ⟨⟩
        rfl)
      obtain ⟨r', hPerform⟩ := perform_handleInComplete hDone
      have hMid : mid.pending = rest := by
        rw [hSent.pending, hWrite]
      have hWrites : mid.bus.bus.writes = List.replicate k (.ok 65535) := by
        rw [hSent.bus]
        exact congrArg (fun w => w.2.writes) hWrite
      rw [hPending, List.length_cons] at hEvents
      obtain ⟨q, hFinal, hAccepted⟩ := ih (p := mid) (hSent.epIn ▸ hSize) hSent.sending hWrites
        (by rw [hMid]; omega) (by omega)
      refine ⟨q, by rw [finalState_cons hPerform, hFinal], ?_⟩
      rw [← hSent.epIn, hAccepted, hMid, hSent.bus, hSent.epIn, Traced.trace_writing,
        accepted_append, hWrite]
      simp [accepted]

/-- A leftover that is too short makes the pipe panic in the end. -/
theorem finalState_of_short (hSize : 0 < p.epIn.maxPacketSize.toNat) (hState : p.state = .dataIn)
    (hIndex : p.i ≤ p.inBuffer.length) (hShort : p.inBuffer.length < p.len) {events k : Nat}
    (hTaking : p.bus.bus.writes = List.replicate k (.ok 65535)) (hEvents : p.len - p.i ≤ events)
    (hEnough : events ≤ k) :
    finalState Stimulus.perform (List.replicate events .inComplete) p = none := by
  induction events generalizing p k with
  | zero => omega
  | succ events ih =>
    rw [List.replicate_succ]
    have hPos : 0 < p.chunkLength := by
      unfold chunkLength
      omega
    have hApply := handleInComplete_dataIn p hState
    rw [writeInChunk_apply, if_neg (by omega)] at hApply
    by_cases hRoom : p.i + p.chunkLength ≤ p.inBuffer.length
    · obtain ⟨k, rfl⟩ : ∃ k', k = k' + 1 := ⟨k - 1, by omega⟩
      have hMax := p.epIn.maxPacketSize.toNat_lt
      have hChunkLe : p.chunkLength ≤ p.epIn.maxPacketSize.toNat := Nat.min_le_right _ _
      rw [slice?_of_le (Nat.le_add_right _ _) hRoom] at hApply
      generalize hChunk : (p.inBuffer.drop p.i).take (p.i + p.chunkLength - p.i) = chunk at hApply
      have hLength : chunk.length = p.chunkLength := by
        rw [← hChunk, List.length_take, List.length_drop]
        omega
      have hWrite := write_of_replicate hTaking chunk (by omega)
      dsimp only at hApply
      rw [hWrite, hLength] at hApply
      dsimp only at hApply
      rw [slice?_of_le (Nat.le_add_right _ _) hRoom, advanced_of_lt p (by omega)] at hApply
      obtain ⟨r', hPerform⟩ := perform_handleInComplete hApply
      rw [finalState_cons hPerform]
      refine ih (k := k) hSize hState hRoom hShort ?_ ?_ (by omega)
      · exact congrArg (fun w => w.2.writes) hWrite
      · change p.len - (p.i + p.chunkLength) ≤ events
        omega
    · rw [slice?_eq_none (by omega)] at hApply
      rw [finalState, Stimulus.perform, Stimulus.op, PipeOp.perform, bind_apply, hApply]

def getDescriptorPacket (length : UInt16) : List UInt8 :=
  [0x80, 6, 0, 1, 0, 0, length.toUInt8, (length >>> 8).toUInt8]

theorem parse_getDescriptorPacket (length : UInt16) :
    Request.parse (getDescriptorPacket length) =
      .ok ⟨.in_, .standard, .device, 6, 0x100, 0, length⟩ := by
  rw [getDescriptorPacket, Request.parse, Request.ofLeBytes_toLeBytes]
  rfl

def facing {B : Type} (bus : B) (p : ControlPipe B) : ControlPipe B := { p with bus := ⟨bus, []⟩ }

/-- The request, its answer and the events that let the host fetch all of it. -/
def exchange (data : List UInt8) : List Stimulus :=
  .setup :: .accept data :: List.replicate (data.length + 1) .inComplete

def exchangeBus (data : List UInt8) : ScriptBus :=
  taking [.ok (getDescriptorPacket data.length.toUInt16)] (data.length + 2)

def sentBytes {B : Type} (addr : EndpointAddress) (p : ControlPipe B) : List UInt8 :=
  (accepted addr p.bus.trace).flatten

theorem finalState_accept {p s : ControlPipe ScriptBus} {data : List UInt8}
    (h : acceptIn (SliceFn.copy data).run p = writeInChunk s) (hState : s.state = .dataIn)
    (rest : List Stimulus) :
    finalState Stimulus.perform (.accept data :: rest) p =
      finalState Stimulus.perform (.inComplete :: rest) s := by
  have hAccept : (Stimulus.accept data).perform p =
      (do acceptIn (SliceFn.copy data).run; pure PipeOp.Reply.done : PipeM ScriptBus _) p := rfl
  have hComplete : Stimulus.inComplete.perform s =
      (do let c ← handleInComplete; pure (.completed c) : PipeM ScriptBus _) s := rfl
  rw [finalState, finalState, hAccept, hComplete, bind_apply, bind_apply, h,
    handleInComplete_dataIn s hState]
  cases writeInChunk s with
  | panic reason => rfl
  | done r q => cases r <;> rfl

theorem perform_setup {p q : ControlPipe ScriptBus} {req : Option Request}
    (h : handleSetup p = .done (.ok req) q) :
    Stimulus.setup.perform p = .done (.ok (.request req)) q := by
  change (do let req ← handleSetup; pure (PipeOp.Reply.request req) : PipeM ScriptBus _) p = _
  rw [bind_apply, h]
  rfl

theorem setup_exchange {p : ControlPipe ScriptBus} (hBuf : 8 ≤ p.buf.length) (data : List UInt8) :
    ∃ q r, Stimulus.setup.perform (p.facing (exchangeBus data)) = .done r q ∧
      q.state = .completeIn ⟨.in_, .standard, .device, 6, 0x100, 0, data.length.toUInt16⟩ ∧
      q.buf.length = p.buf.length ∧ q.staticInBuf = p.staticInBuf ∧ q.epIn = p.epIn ∧
      q.bus.bus.writes = List.replicate (data.length + 2) (.ok 65535) ∧
      accepted p.epIn.address q.bus.trace = [] := by
  have hRead : (UsbBus.read (exchangeBus data) p.epOut.address p.buf.length).2.writes =
      List.replicate (data.length + 2) (.ok 65535) := by
    rw [ScriptBus.read_cons rfl]
    rfl
  have hSetup := ScriptBus.handleSetup_of_reads (p := p.facing (exchangeBus data)) rfl
    (parse_getDescriptorPacket data.length.toUInt16) hBuf
  have hLoaded : (overwrite p.buf 0 (getDescriptorPacket data.length.toUInt16)).length =
      p.buf.length := length_overwrite hBuf
  refine ⟨_, _, perform_setup hSetup, rfl, hLoaded, rfl, rfl, hRead, ?_⟩
  simp [begun, loaded, asked, facing, accepted]

/-- What the host receives as the answer of `data`: bytes of the leftover if there is one, and
nothing to the end if the leftover is too short. -/
theorem exchange_sentBytes {p : ControlPipe ScriptBus} (hBuf : 8 ≤ p.buf.length)
    (hSize : 0 < p.epIn.maxPacketSize.toNat) {data : List UInt8}
    (hLimit : data.length ≤ p.answerLimit) :
    (finalState Stimulus.perform (exchange data) (p.facing (exchangeBus data))).map
        (sentBytes p.epIn.address) =
      if data.length ≤ (p.staticInBuf.getD data).length then
        some ((p.staticInBuf.getD data).take data.length)
      else none := by
  have hFits : data.length ≤ p.buf.length := Nat.le_trans hLimit (Nat.min_le_left _ _)
  have hMax : data.length ≤ 65535 := Nat.le_trans hLimit (Nat.min_le_right _ _)
  have hLength : data.length.toUInt16.toNat = data.length := Nat.mod_eq_of_lt (by omega)
  obtain ⟨q, r, hSetup, hState, hBufEq, hStatic, hEp, hWrites, hNone⟩ := setup_exchange hBuf data
  have hCopied : (overwrite q.buf 0 data).length = q.buf.length := length_overwrite (by omega)
  let s : ControlPipe ScriptBus := ({ q with buf := overwrite q.buf 0 data } : ControlPipe _).started
    ⟨.in_, .standard, .device, 6, 0x100, 0, data.length.toUInt16⟩ data.length
  have hAccept : acceptIn (SliceFn.copy data).run q = writeInChunk s := by
    rw [acceptIn_completeIn q hState, SliceFn.copy_run_apply, if_neg (by omega)]
    dsimp only
    rw [if_neg (by omega)]
  have hLen : s.len = data.length := by
    change min data.length data.length.toUInt16.toNat = _
    rw [hLength, Nat.min_self]
  have hInBuffer : s.inBuffer = p.staticInBuf.getD (overwrite q.buf 0 data) := by
    change q.staticInBuf.getD _ = _
    rw [hStatic]
    rfl
  have hSource : data.length ≤ s.inBuffer.length ↔
      data.length ≤ (p.staticInBuf.getD data).length := by
    rw [hInBuffer]
    cases p.staticInBuf with
    | none =>
      change data.length ≤ (overwrite q.buf 0 data).length ↔ data.length ≤ data.length
      omega
    | some left => rfl
  have hBytes : s.inBuffer.take data.length = (p.staticInBuf.getD data).take data.length := by
    rw [hInBuffer]
    cases p.staticInBuf with
    | none => simpa using take_overwrite data (Nat.zero_le q.buf.length)
    | some left => rfl
  rw [exchange, finalState_cons hSetup, finalState_accept hAccept rfl, ← List.replicate_succ]
  by_cases hEnough : data.length ≤ (p.staticInBuf.getD data).length
  · have hSending : s.Sending := ⟨Nat.zero_le _, hLen ▸ hSource.mpr hEnough⟩
    have hPending : s.pending =
        packets p.epIn.maxPacketSize.toNat ((p.staticInBuf.getD data).take data.length) := by
      change packets q.epIn.maxPacketSize.toNat ((s.inBuffer.take s.len).drop 0) = _
      rw [hEp, hLen, hBytes, List.drop_zero]
    have hCount : s.pending.length ≤ data.length + 1 + 1 := by
      rw [hPending, length_packets, List.length_take]
      have := Nat.div_le_self (min data.length (p.staticInBuf.getD data).length)
        p.epIn.maxPacketSize.toNat
      omega
    obtain ⟨t, hFinal, hSent⟩ :=
      accepted_of_taking (p := s) (hEp ▸ hSize) hSending hWrites hCount (Nat.le_refl _)
    have hStart : accepted s.epIn.address s.bus.trace = [] := by
      change accepted q.epIn.address q.bus.trace = []
      rw [hEp, hNone]
    have hEpS : s.epIn = p.epIn := hEp
    rw [if_pos hEnough, hFinal, Option.map_some, sentBytes, ← hEpS, hSent, hStart, List.nil_append,
      hPending, flatten_packets hSize]
  · have hShort : s.inBuffer.length < s.len := by
      rw [hLen]
      exact Nat.not_le.mp fun h => hEnough (hSource.mp h)
    rw [if_neg hEnough, finalState_of_short (p := s) (hEp ▸ hSize) rfl (Nat.zero_le _) hShort
      hWrites (by rw [hLen]; change data.length - 0 ≤ _; omega) (Nat.le_refl _)]
    rfl

end Exchange

/-- Nothing that follows the same SETUP packet tells the two pipes apart. -/
def AnswersAlike (p q : ControlPipe ScriptBus) : Prop :=
  ∀ (packet : List UInt8) (req : Request) (bus : ScriptBus) (stimuli : List Stimulus),
    Request.parse packet = .ok req →
    (req.direction = .in_ ∨ req.length.toNat ≤ p.buf.length) →
    bus.reads.head? = some (.ok packet) →
    outputs Stimulus.perform (.setup :: stimuli) (p.facing bus) =
        outputs Stimulus.perform (.setup :: stimuli) (q.facing bus) ∧
      (finalState Stimulus.perform (.setup :: stimuli) (p.facing bus)).map (·.bus.trace) =
        (finalState Stimulus.perform (.setup :: stimuli) (q.facing bus)).map (·.bus.trace)

section Criterion

variable {p q : ControlPipe ScriptBus}

/-- Pipes with one leftover answer alike. -/
theorem answersAlike_of_level (hBuf : 8 ≤ p.buf.length) (hLength : p.buf.length = q.buf.length)
    (hOut : p.epOut = q.epOut) (hIn : p.epIn = q.epIn)
    (hLeftover : SameLeftover p.answerLimit p.staticInBuf q.staticInBuf) : AnswersAlike p q := by
  intro packet req bus stimuli hParse hTaken hHead
  obtain ⟨rest, hReads⟩ : ∃ rest, bus.reads = .ok packet :: rest := by
    cases h : bus.reads with
    | nil => rw [h] at hHead; cases hHead
    | cons first rest =>
      rw [h] at hHead
      cases hHead
      exact ⟨rest, rfl⟩
  have hPacket : 0 + packet.length ≤ p.buf.length := by
    rw [Request.length_of_parse hParse]
    omega
  have hLevel : Level (p.facing bus) (q.facing bus) := ⟨rfl, hOut, hIn, hLength, hLeftover⟩
  have hLoadedLength : ((p.facing bus).loaded 0 packet).buf.length = p.buf.length :=
    length_overwrite hPacket
  have hLoaded : Level ((p.facing bus).loaded 0 packet) ((q.facing bus).loaded 0 packet) :=
    hLevel.loaded hPacket
  obtain ⟨hRequest, hAlike⟩ := hLoaded.begun (hLoadedLength.symm ▸ hTaken)
  have hp := ScriptBus.handleSetup_of_reads (p := p.facing bus) hReads hParse hBuf
  have hq := ScriptBus.handleSetup_of_reads (p := q.facing bus) hReads hParse (hLength ▸ hBuf)
  rw [← hRequest] at hq
  have hAgree (stimulus : Stimulus) (s t : ControlPipe ScriptBus) (h : Alike s t) :=
    agree_perform h stimulus
  constructor
  · rw [outputs_cons (perform_setup hp), outputs_cons (perform_setup hq),
      outputs_eq_of_agree hAgree hAlike]
  · rw [finalState_cons (perform_setup hp), finalState_cons (perform_setup hq)]
    exact finalState_map_eq_of_agree hAgree (fun s t h => by rw [h.bus]) hAlike stimuli

/-- Pipes that answer alike send the same bytes for every length. -/
theorem AnswersAlike.sameBytes (h : AnswersAlike p q) (hBuf : 8 ≤ p.buf.length)
    (hLength : p.buf.length = q.buf.length) (hIn : p.epIn = q.epIn)
    (hSize : 0 < p.epIn.maxPacketSize.toNat) {data : List UInt8}
    (hLimit : data.length ≤ p.answerLimit) :
    (if data.length ≤ (p.staticInBuf.getD data).length then
      some ((p.staticInBuf.getD data).take data.length) else none) =
    (if data.length ≤ (q.staticInBuf.getD data).length then
      some ((q.staticInBuf.getD data).take data.length) else none) := by
  have hLimit' : data.length ≤ q.answerLimit := by
    rw [answerLimit, ← hLength]
    exact hLimit
  have hTrace := (h _ _ (exchangeBus data)
    (.accept data :: List.replicate (data.length + 1) .inComplete)
    (parse_getDescriptorPacket data.length.toUInt16) (.inl rfl) rfl).2
  have hSent := congrArg (Option.map fun trace => (accepted p.epIn.address trace).flatten) hTrace
  rw [Option.map_map, Option.map_map] at hSent
  rw [← exchange_sentBytes hBuf hSize hLimit,
    ← exchange_sentBytes (hLength ▸ hBuf) (hIn ▸ hSize) hLimit', ← hIn]
  exact hSent

omit p q in
theorem take_eq_take_of_answers {limit : Nat} {left left' : List UInt8}
    (h : ∀ n ≤ limit, (n ≤ left.length ↔ n ≤ left'.length) ∧
      (n ≤ left.length → left.take n = left'.take n)) : left.take limit = left'.take limit := by
  rcases Nat.lt_or_ge left.length limit with hShort | hLong
  · have hUp := (h (left.length + 1) hShort).1
    have hEq := h left.length (by omega)
    have hLe := hEq.1.mp (Nat.le_refl _)
    have hTake := hEq.2 (Nat.le_refl _)
    rw [List.take_of_length_le (by omega), List.take_of_length_le (by omega)] at hTake
    rw [hTake]
  · exact (h limit (Nat.le_refl _)).2 hLong

/-- Two pipes answer the next SETUP packet and all that follows alike if and only if they hold the
same leftover of a static response. -/
theorem answersAlike_iff_sameLeftover (hBuf : 8 ≤ p.buf.length)
    (hSize : 0 < p.epIn.maxPacketSize.toNat) (hLength : p.buf.length = q.buf.length)
    (hOut : p.epOut = q.epOut) (hIn : p.epIn = q.epIn) :
    AnswersAlike p q ↔ SameLeftover p.answerLimit p.staticInBuf q.staticInBuf := by
  constructor
  · intro h
    have hBytes (data : List UInt8) (hLimit : data.length ≤ p.answerLimit) :=
      h.sameBytes hBuf hLength hIn hSize hLimit
    have hOne : 1 ≤ p.answerLimit := by
      unfold answerLimit
      omega
    have hDiffer (left : List UInt8)
        (hSame : ∀ a : UInt8, (if 1 ≤ left.length then some (left.take 1) else none) = some [a]) :
        False := by
      have hZero := hSame 0
      rw [hSame 1] at hZero
      cases hZero
    cases hp : p.staticInBuf with
    | none =>
      cases hq : q.staticInBuf with
      | none => trivial
      | some left =>
        refine hDiffer left fun a => ?_
        have hSame := hBytes [a] hOne
        rw [hp, hq] at hSame
        exact hSame.symm
    | some left =>
      cases hq : q.staticInBuf with
      | none =>
        refine hDiffer left fun a => ?_
        have hSame := hBytes [a] hOne
        rw [hp, hq] at hSame
        exact hSame
      | some left' =>
        refine take_eq_take_of_answers fun n hn => ?_
        have hSame := hBytes (List.replicate n 0) (by rw [List.length_replicate]; exact hn)
        rw [hp, hq, Option.getD_some, Option.getD_some, List.length_replicate] at hSame
        by_cases hLeft : n ≤ left.length
        · by_cases hLeft' : n ≤ left'.length
          · rw [if_pos hLeft, if_pos hLeft'] at hSame
            exact ⟨⟨fun _ => hLeft', fun _ => hLeft⟩, fun _ => Option.some.inj hSame⟩
          · rw [if_pos hLeft, if_neg hLeft'] at hSame
            cases hSame
        · by_cases hLeft' : n ≤ left'.length
          · rw [if_neg hLeft, if_pos hLeft'] at hSame
            cases hSame
          · exact ⟨⟨fun hn => absurd hn hLeft, fun hn => absurd hn hLeft'⟩,
              fun hn => absurd hn hLeft⟩
  · exact answersAlike_of_level hBuf hLength hOut hIn

def freshPipe : ControlPipe ScriptBus :=
  .new ⟨.ofReads [], []⟩ (List.replicate 8 0) (.control .out 8) (.control .in_ 8)

def abortedOps : List (ScriptBus × PipeOp) :=
  [(.ofReads [.ok (getDescriptorPacket 8)], .handleSetup), (.ofReads [], .acceptInStatic [1, 2]),
    (.ofReads [], .reset)]

def abortedPipe : ControlPipe ScriptBus :=
  (finalState (fun op : ScriptBus × PipeOp => onHardware op.1 op.2.perform) abortedOps
    freshPipe).get (by decide)

theorem answersAlike_freshPipe : AnswersAlike freshPipe { freshPipe with i := 3, len := 5 } :=
  (answersAlike_iff_sameLeftover (p := freshPipe) (q := { freshPipe with i := 3, len := 5 })
    (by decide) (by decide) rfl rfl rfl).mpr trivial

theorem not_forall_answersAlike :
    ¬ ∀ p q : ControlPipe ScriptBus, p.Reachable → q.Reachable → p.buf.length = q.buf.length →
      p.epOut = q.epOut → p.epIn = q.epIn → AnswersAlike p q := by
  intro h
  have hAborted : abortedPipe.Reachable :=
    ⟨_, _, _, _, reaches_of_finalState (Option.some_get _).symm⟩
  have hTrace := (h abortedPipe freshPipe hAborted ⟨_, _, _, _, .refl⟩ rfl rfl rfl
    (getDescriptorPacket 2) ⟨.in_, .standard, .device, 6, 0x100, 0, 2⟩
    (taking [.ok (getDescriptorPacket 2)] 1) [.accept [9, 9]] rfl (.inl rfl) rfl).2
  have hSent := congrArg (Option.map (accepted (.control .in_))) hTrace
  exact absurd hSent (by decide)

end Criterion

end ControlPipe

end UsbStack
