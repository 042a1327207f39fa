import UsbStack.Bus

/-! # The control pipe

The state machine behind endpoint 0, method by method. The buffer is a list whose length never
changes; a range or a subtraction that would panic in the source panics here.
-/

namespace UsbStack

set_option autoImplicit false

open Foundation Exec

inductive ControlState where
  | idle
  | dataIn
  | dataInZlp
  | dataInLast
  | completeIn (req : Request)
  | statusOut
  | completeOut
  | dataOut (req : Request)
  | statusIn
  | error
  deriving DecidableEq, Repr

/-- `bus` is the bus behind both endpoint handles, which the device and its classes share. -/
structure ControlPipe (B : Type) where
  bus : Traced B
  epOut : Endpoint
  epIn : Endpoint
  state : ControlState
  buf : List UInt8
  staticInBuf : Option (List UInt8)
  i : Nat
  len : Nat

abbrev PipeM (B : Type) := Exec Panic UsbError (ControlPipe B)

namespace ControlPipe

variable {B : Type} [UsbBus B]

def new (bus : Traced B) (buf : List UInt8) (epOut epIn : Endpoint) : ControlPipe B where
  bus := bus
  epOut := epOut
  epIn := epIn
  state := .idle
  buf := buf
  staticInBuf := none
  i := 0
  len := 0

def onBus {α : Type} (m : BusM B α) : PipeM B α := zoom bus (fun t p => { p with bus := t }) m

def setState (state : ControlState) : PipeM B Unit := modify fun p => { p with state := state }

def waitingForResponse (p : ControlPipe B) : Bool :=
  match p.state with
  | .completeOut | .completeIn _ => true
  | _ => false

/-- `&self.buf[0..self.len]` -/
def data : PipeM B (List UInt8) := do
  let p ← get
  ofOption .sliceIndex (slice? p.buf 0 p.len)

def reset : PipeM B Unit := setState .idle

def setError : PipeM B Unit := do
  setState .error
  let p ← get
  onBus p.epOut.stall
  onBus p.epIn.stall

/-- `self.ep_out.read(&mut self.buf[start..])`. A count beyond the slice, which the contract of the
bus excludes, is an index panic at the next use of `buf[..count]`. -/
def readOut (start : Nat) : PipeM B Nat := do
  let p ← get
  if p.buf.length < start then abort .sliceIndex
  else do
    let packet ← onBus (p.epOut.read (p.buf.length - start))
    if p.buf.length - start < packet.length then abort .sliceIndex
    else do
      modify fun p => { p with buf := overwrite p.buf start packet }
      pure packet.length

/-- `self.ep_out.read(&mut [])` -/
def readEmpty : PipeM B Unit := do
  let p ← get
  let _ ← onBus (p.epOut.read 0)
  pure ()

def handleSetup : PipeM B (Option Request) := do
  match ← attempt (readOut 0) with
  | .error _ => pure none
  | .ok count =>
    let p ← get
    match Request.parse (p.buf.take count) with
    | .error _ => pure none
    | .ok req =>
      onBus p.epOut.unstall
      if req.direction = .out then
        if 0 < req.length then
          if p.buf.length < req.length.toNat then pure none
          else do
            onBus (Traced.note (.setup req))
            modify fun p => { p with i := 0, len := req.length.toNat, state := .dataOut req }
            pure none
        else do
          onBus (Traced.note (.setup req))
          modify fun p => { p with len := 0, state := .completeOut }
          pure (some req)
      else do
        onBus (Traced.note (.setup req))
        setState (.completeIn req)
        pure (some req)

def handleOut : PipeM B (Option Request) := do
  let p ← get
  match p.state with
  | .dataOut req =>
    match ← attempt (readOut p.i) with
    | .error .wouldBlock => pure none
    | .error _ => do
      setError
      pure none
    | .ok count => do
      modify fun p => { p with i := p.i + count }
      if p.len ≤ p.i + count then do
        setState .completeOut
        pure (some req)
      else pure none
  | .dataIn | .dataInLast | .dataInZlp | .statusOut => do
    readEmpty
    setState .idle
    pure none
  | _ => do
    readEmpty
    setError
    pure none

def inBuffer (p : ControlPipe B) : List UInt8 := p.staticInBuf.getD p.buf

def writeInChunk : PipeM B Unit := do
  let p ← get
  if p.len < p.i then abort .overflow
  else do
    let count := min (p.len - p.i) p.epIn.maxPacketSize.toNat
    let chunk ← ofOption .sliceIndex (slice? p.inBuffer p.i (p.i + count))
    let written ← onBus (p.epIn.write chunk)
    -- the trace of what was written takes `buffer[i..i + written]`
    let _ ← ofOption .sliceIndex (slice? p.inBuffer p.i (p.i + written))
    modify fun p => { p with i := p.i + written }
    if p.len ≤ p.i + written then
      modify fun q => { q with
        staticInBuf := none
        state := if written = p.epIn.maxPacketSize.toNat then .dataInZlp else .dataInLast }
    else pure ()

def handleInComplete : PipeM B Bool := do
  let p ← get
  match p.state with
  | .dataIn => do
    writeInChunk
    pure false
  | .dataInZlp => do
    let _ ← onBus (p.epIn.write [])
    setState .dataInLast
    pure false
  | .dataInLast => do
    onBus p.epOut.unstall
    setState .statusOut
    pure false
  | .statusIn => do
    setState .idle
    pure true
  | _ => pure false

def acceptOut : PipeM B Unit := do
  let p ← get
  match p.state with
  | .completeOut => do
    let _ ← onBus (p.epIn.write [])
    setState .statusIn
  | _ => fail .invalidState

def startInTransfer (req : Request) (dataLen : Nat) : PipeM B Unit := do
  modify fun p => { p with len := min dataLen req.length.toNat, i := 0, state := .dataIn }
  writeInChunk

/-- `f` works on `&mut self.buf[..]` and returns the number of bytes to send. -/
def acceptIn (f : Exec Panic UsbError (List UInt8) Nat) : PipeM B Unit := do
  let p ← get
  match p.state with
  | .completeIn req => do
    let len ← zoom buf (fun b p => { p with buf := b }) f
    let p ← get
    if p.buf.length < len then do
      setError
      fail .bufferOverflow
    else startInTransfer req len
  | _ => fail .invalidState

def acceptInStatic (data : List UInt8) : PipeM B Unit := do
  let p ← get
  match p.state with
  | .completeIn req => do
    modify fun p => { p with staticInBuf := some data }
    startInTransfer req data.length
  | _ => fail .invalidState

def reject : PipeM B Unit := do
  let p ← get
  if p.waitingForResponse then setError else fail .invalidState

section Apply

variable (p : ControlPipe B)

def errored (p : ControlPipe B) : ControlPipe B :=
  { p with
    state := .error
    bus := (p.bus.stalling p.epOut.address true).stalling p.epIn.address true }

def asked (p : ControlPipe B) (len : Nat) : ControlPipe B :=
  { p with bus := p.bus.reading p.epOut.address len }

def offered (p : ControlPipe B) (data : List UInt8) : ControlPipe B :=
  { p with bus := p.bus.writing p.epIn.address data }

omit [UsbBus B] in
theorem onBus_apply {α : Type} (m : BusM B α) :
    onBus m p = match m p.bus with
      | .done r t => .done r { p with bus := t }
      | .panic reason => .panic reason := by
  rw [onBus, zoom_apply]
  cases m p.bus <;> rfl

theorem stalled_errored :
    stalled p.epOut.address p.errored.bus.trace = true ∧
      stalled p.epIn.address p.errored.bus.trace = true := by
  rw [errored, Traced.trace_stalling, Traced.trace_stalling, stalled_append_setStalled,
    stalled_append_setStalled, stalled_append_setStalled, if_pos rfl, if_pos rfl]
  exact ⟨ite_self _, rfl⟩

theorem readEmpty_apply :
    readEmpty p = match (UsbBus.read p.bus.bus p.epOut.address 0).1 with
      | .ok _ => .done (.ok ()) (p.asked 0)
      | .error e => .done (.error e) (p.asked 0) := by
  simp only [readEmpty, bind_apply, get_apply, onBus_apply, Endpoint.read, Traced.read_apply]
  cases (UsbBus.read p.bus.bus p.epOut.address 0).1 <;> rfl

theorem readOut_apply {start : Nat} (h : start ≤ p.buf.length) :
    readOut start p = match (UsbBus.read p.bus.bus p.epOut.address (p.buf.length - start)).1 with
      | .ok packet =>
        if p.buf.length - start < packet.length then .panic .sliceIndex
        else .done (.ok packet.length)
          { p.asked (p.buf.length - start) with buf := overwrite p.buf start packet }
      | .error e => .done (.error e) (p.asked (p.buf.length - start)) := by
  simp only [readOut, bind_apply, get_apply, if_neg (Nat.not_lt.mpr h), onBus_apply,
    Endpoint.read, Traced.read_apply]
  cases (UsbBus.read p.bus.bus p.epOut.address (p.buf.length - start)).1 with
  | error e => rfl
  | ok packet =>
    dsimp only
    split <;> rfl

def loaded (p : ControlPipe B) (start : Nat) (packet : List UInt8) : ControlPipe B :=
  { p.asked (p.buf.length - start) with buf := overwrite p.buf start packet }

/-- The pipe after a parsed SETUP packet, and the request it hands out at once. -/
def begun (p : ControlPipe B) (req : Request) : Option Request × ControlPipe B :=
  let p := { p with bus := p.bus.stalling p.epOut.address false }
  let q := { p with bus := p.bus.noting (.setup req) }
  if req.direction = .out then
    if 0 < req.length then
      if p.buf.length < req.length.toNat then (none, p)
      else (none, { q with i := 0, len := req.length.toNat, state := .dataOut req })
    else (some req, { q with len := 0, state := .completeOut })
  else (some req, { q with state := .completeIn req })

/-- The four ways in which `handle_setup` ends. -/
theorem handleSetup_apply :
    handleSetup p = match (UsbBus.read p.bus.bus p.epOut.address p.buf.length).1 with
      | .error _ => .done (.ok none) (p.asked p.buf.length)
      | .ok packet =>
        if p.buf.length < packet.length then .panic .sliceIndex
        else match Request.parse packet with
          | .error _ => .done (.ok none) (p.loaded 0 packet)
          | .ok req =>
            .done (.ok ((p.loaded 0 packet).begun req).1) ((p.loaded 0 packet).begun req).2 := by
  rw [handleSetup, bind_apply, attempt_apply, readOut_apply p (Nat.zero_le _), Nat.sub_zero]
  cases hRead : (UsbBus.read p.bus.bus p.epOut.address p.buf.length).1 with
  | error e => rfl
  | ok packet =>
    dsimp only
    by_cases hLong : p.buf.length < packet.length
    · rw [if_pos hLong, if_pos hLong]
    · rw [if_neg hLong, if_neg hLong]
      have hTake : (overwrite p.buf 0 packet).take packet.length = packet := by
        simpa using take_overwrite packet (Nat.zero_le p.buf.length)
      simp only [bind_apply, get_apply, hTake]
      cases hParse : Request.parse packet with
      | error e => rfl
      | ok req =>
        simp only [onBus_apply, Endpoint.unstall, Traced.setStalled_apply, bind_apply]
        unfold begun
        dsimp only [loaded]
        rw [Nat.sub_zero]
        split
        · split
          · split <;> rfl
          · rfl
        · rfl

/-- A packet of the data stage fills up the request, or awaits another. -/
theorem handleOut_dataOut {req : Request} (hState : p.state = .dataOut req)
    (hIndex : p.i ≤ p.buf.length) :
    handleOut p = match (UsbBus.read p.bus.bus p.epOut.address (p.buf.length - p.i)).1 with
      | .error .wouldBlock => .done (.ok none) (p.asked (p.buf.length - p.i))
      | .error _ => .done (.ok none) (p.asked (p.buf.length - p.i)).errored
      | .ok packet =>
        if p.buf.length - p.i < packet.length then .panic .sliceIndex
        else if p.len ≤ p.i + packet.length then
          .done (.ok (some req))
            { p.loaded p.i packet with i := p.i + packet.length, state := .completeOut }
        else .done (.ok none) { p.loaded p.i packet with i := p.i + packet.length } := by
  simp only [handleOut, bind_apply, get_apply, hState, attempt_apply, readOut_apply p hIndex]
  cases (UsbBus.read p.bus.bus p.epOut.address (p.buf.length - p.i)).1 with
  | error e => cases e <;> rfl
  | ok packet =>
    dsimp only
    by_cases hLong : p.buf.length - p.i < packet.length
    · rw [if_pos hLong, if_pos hLong]
    · rw [if_neg hLong, if_neg hLong]
      dsimp only
      rw [bind_apply, modify_apply]
      dsimp only
      split <;> rfl

theorem handleOut_outside {req : Request} (hState : p.state = .dataOut req)
    (hIndex : p.buf.length < p.i) : handleOut p = .panic .sliceIndex := by
  simp only [handleOut, bind_apply, get_apply, hState, attempt_apply, readOut, if_pos hIndex,
    abort_apply]

def InStage : ControlState → Prop
  | .dataIn | .dataInLast | .dataInZlp | .statusOut => True
  | _ => False

theorem handleOut_inStage (hState : InStage p.state) :
    handleOut p = match (UsbBus.read p.bus.bus p.epOut.address 0).1 with
      | .ok _ => .done (.ok none) { p.asked 0 with state := .idle }
      | .error e => .done (.error e) (p.asked 0) := by
  have hBody : handleOut p = (do readEmpty; setState .idle; pure none : PipeM B _) p := by
    obtain ⟨_, _, _, state, _, _, _, _⟩ := p
    cases state <;> first | rfl | exact False.elim hState
  rw [hBody, bind_apply, readEmpty_apply]
  cases (UsbBus.read p.bus.bus p.epOut.address 0).1 <;> rfl

def Unexpecting : ControlState → Prop
  | .idle | .completeIn _ | .completeOut | .statusIn | .error => True
  | _ => False

theorem handleOut_unexpecting (hState : Unexpecting p.state) :
    handleOut p = match (UsbBus.read p.bus.bus p.epOut.address 0).1 with
      | .ok _ => .done (.ok none) (p.asked 0).errored
      | .error e => .done (.error e) (p.asked 0) := by
  have hBody : handleOut p = (do readEmpty; setError; pure none : PipeM B _) p := by
    obtain ⟨_, _, _, state, _, _, _, _⟩ := p
    cases state <;> first | rfl | exact False.elim hState
  rw [hBody, bind_apply, readEmpty_apply]
  cases (UsbBus.read p.bus.bus p.epOut.address 0).1 <;> rfl

omit [UsbBus B] in
theorem state_cases (p : ControlPipe B) :
    InStage p.state ∨ Unexpecting p.state ∨ ∃ req, p.state = .dataOut req := by
  cases p.state with
  | dataOut req => exact .inr (.inr ⟨req, rfl⟩)
  | dataIn | dataInZlp | dataInLast | statusOut => exact .inl trivial
  | idle | completeIn | completeOut | statusIn | error => exact .inr (.inl trivial)

/-! The next chunk of an IN transfer. -/

def chunkLength (p : ControlPipe B) : Nat := min (p.len - p.i) p.epIn.maxPacketSize.toNat

def advanced (p : ControlPipe B) (chunk : List UInt8) (written : Nat) : ControlPipe B :=
  let p := { p.offered chunk with i := p.i + written }
  if p.len ≤ p.i then
    { p with
      staticInBuf := none
      state := if written = p.epIn.maxPacketSize.toNat then .dataInZlp else .dataInLast }
  else p

theorem advanced_of_le {chunk : List UInt8} {written : Nat} (h : p.len ≤ p.i + written) :
    p.advanced chunk written =
      { p.offered chunk with
        i := p.i + written
        staticInBuf := none
        state := if written = p.epIn.maxPacketSize.toNat then .dataInZlp else .dataInLast } :=
  if_pos h

theorem advanced_of_lt {chunk : List UInt8} {written : Nat} (h : p.i + written < p.len) :
    p.advanced chunk written = { p.offered chunk with i := p.i + written } :=
  if_neg (Nat.not_le.mpr h)

/-- The next chunk is offered to the bus, and the pipe goes on if the bus takes it. -/
theorem writeInChunk_apply :
    writeInChunk p =
      if p.len < p.i then .panic .overflow
      else match slice? p.inBuffer p.i (p.i + p.chunkLength) with
        | none => .panic .sliceIndex
        | some chunk => match (UsbBus.write p.bus.bus p.epIn.address chunk).1 with
          | .error e => .done (.error e) (p.offered chunk)
          | .ok written => match slice? p.inBuffer p.i (p.i + written) with
            | none => .panic .sliceIndex
            | some _ => .done (.ok ()) (p.advanced chunk written) := by
  rw [writeInChunk, bind_apply, get_apply]
  dsimp only
  split
  · rfl
  · rw [← chunkLength, bind_apply]
    cases hChunk : slice? p.inBuffer p.i (p.i + p.chunkLength) with
    | none => rfl
    | some chunk =>
      simp only [ofOption_some, pure_apply, bind_apply, onBus_apply, Endpoint.write,
        Traced.write_apply]
      cases hWrite : (UsbBus.write p.bus.bus p.epIn.address chunk).1 with
      | error e => rfl
      | ok written =>
        dsimp only
        cases hSlice : slice? p.inBuffer p.i (p.i + written) with
        | none => rfl
        | some part =>
          simp only [ofOption_some, pure_apply, modify_apply]
          by_cases hLast : p.len ≤ p.i + written
          · rw [if_pos hLast, advanced_of_le p hLast]
            rfl
          · rw [if_neg hLast, advanced_of_lt p (Nat.not_le.mp hLast)]
            rfl

theorem handleInComplete_dataIn (hState : p.state = .dataIn) :
    handleInComplete p = match writeInChunk p with
      | .done (.ok ()) q => .done (.ok false) q
      | .done (.error e) q => .done (.error e) q
      | .panic reason => .panic reason := by
  simp only [handleInComplete, bind_apply, get_apply, hState]
  cases writeInChunk p with
  | done r q => cases r <;> rfl
  | panic reason => rfl

theorem handleInComplete_dataInZlp (hState : p.state = .dataInZlp) :
    handleInComplete p = match (UsbBus.write p.bus.bus p.epIn.address []).1 with
      | .ok _ => .done (.ok false) { p.offered [] with state := .dataInLast }
      | .error e => .done (.error e) (p.offered []) := by
  obtain ⟨bus, _, epIn, state, _, _, _, _⟩ := p
  cases hState
  simp only [handleInComplete, bind_apply, get_apply, onBus_apply, Endpoint.write, Traced.write_apply]
  cases (UsbBus.write bus.bus epIn.address []).1 <;> rfl

theorem handleInComplete_dataInLast (hState : p.state = .dataInLast) :
    handleInComplete p = .done (.ok false)
      { p with bus := p.bus.stalling p.epOut.address false, state := .statusOut } := by
  simp only [handleInComplete, bind_apply, get_apply, hState]
  rfl

theorem handleInComplete_statusIn (hState : p.state = .statusIn) :
    handleInComplete p = .done (.ok true) { p with state := .idle } := by
  simp only [handleInComplete, bind_apply, get_apply, hState]
  rfl

def Unsending : ControlState → Prop
  | .idle | .completeIn _ | .statusOut | .completeOut | .dataOut _ | .error => True
  | _ => False

theorem handleInComplete_unsending (hState : Unsending p.state) :
    handleInComplete p = .done (.ok false) p := by
  obtain ⟨_, _, _, state, _, _, _, _⟩ := p
  cases state <;> first | rfl | exact False.elim hState

theorem acceptOut_completeOut (hState : p.state = .completeOut) :
    acceptOut p = match (UsbBus.write p.bus.bus p.epIn.address []).1 with
      | .ok _ => .done (.ok ()) { p.offered [] with state := .statusIn }
      | .error e => .done (.error e) (p.offered []) := by
  obtain ⟨bus, _, epIn, state, _, _, _, _⟩ := p
  cases hState
  simp only [acceptOut, bind_apply, get_apply, onBus_apply, Endpoint.write, Traced.write_apply]
  cases (UsbBus.write bus.bus epIn.address []).1 <;> rfl

theorem acceptOut_of_ne (hState : p.state ≠ .completeOut) :
    acceptOut p = .done (.error .invalidState) p := by
  obtain ⟨_, _, _, state, _, _, _, _⟩ := p
  cases state <;> first | rfl | exact absurd rfl hState

def started (p : ControlPipe B) (req : Request) (dataLen : Nat) : ControlPipe B :=
  { p with len := min dataLen req.length.toNat, i := 0, state := .dataIn }

theorem acceptInStatic_completeIn {req : Request} (hState : p.state = .completeIn req)
    (data : List UInt8) :
    acceptInStatic data p =
      writeInChunk (({ p with staticInBuf := some data } : ControlPipe B).started req data.length) := by
  simp only [acceptInStatic, bind_apply, get_apply, hState]
  rfl

theorem acceptInStatic_of_ne (hState : ∀ req, p.state ≠ .completeIn req) (data : List UInt8) :
    acceptInStatic data p = .done (.error .invalidState) p := by
  obtain ⟨_, _, _, state, _, _, _, _⟩ := p
  cases state <;> first | rfl | exact absurd rfl (hState _)

theorem acceptIn_completeIn {req : Request} (hState : p.state = .completeIn req)
    (f : Exec Panic UsbError (List UInt8) Nat) :
    acceptIn f p = match f p.buf with
      | .panic reason => .panic reason
      | .done (.error e) buf => .done (.error e) { p with buf := buf }
      | .done (.ok len) buf =>
        if buf.length < len then
          .done (.error .bufferOverflow) ({ p with buf := buf } : ControlPipe B).errored
        else writeInChunk (({ p with buf := buf } : ControlPipe B).started req len) := by
  simp only [acceptIn, bind_apply, get_apply, hState, zoom_apply]
  cases f p.buf with
  | panic reason => rfl
  | done r buf =>
    cases r with
    | error e => rfl
    | ok len =>
      dsimp only
      split <;> rfl

theorem acceptIn_of_ne (hState : ∀ req, p.state ≠ .completeIn req)
    (f : Exec Panic UsbError (List UInt8) Nat) :
    acceptIn f p = .done (.error .invalidState) p := by
  obtain ⟨_, _, _, state, _, _, _, _⟩ := p
  cases state <;> first | rfl | exact absurd rfl (hState _)

theorem reject_apply :
    reject p = if p.waitingForResponse then .done (.ok ()) p.errored
      else .done (.error .invalidState) p := by
  rw [reject, bind_apply, get_apply]
  dsimp only
  split <;> rfl

omit [UsbBus B] in
theorem waitingForResponse_iff :
    p.waitingForResponse = true ↔ p.state = .completeOut ∨ ∃ req, p.state = .completeIn req := by
  unfold waitingForResponse
  cases p.state <;> simp

end Apply

end ControlPipe

/-- A callback on a slice: it may change the bytes but not the length. -/
structure SliceFn where
  run : Exec Panic UsbError (List UInt8) Nat
  length_eq : Within (fun before after => after.length = before.length) run

/-- `buf[..data.len()].copy_from_slice(data)`, refused when `data` is longer than the slice. -/
def SliceFn.copy (data : List UInt8) : SliceFn where
  run := do
    let buf ← get
    if buf.length < data.length then fail .bufferOverflow
    else do
      set (overwrite buf 0 data)
      pure data.length
  length_eq := by
    intro buf
    simp only [post_bind, post_get]
    split
    · rfl
    · rename_i h
      exact length_overwrite (by omega)

theorem SliceFn.copy_run_apply (data buf : List UInt8) :
    (SliceFn.copy data).run buf = if buf.length < data.length then .done (.error .bufferOverflow) buf
      else .done (.ok data.length) (overwrite buf 0 data) := by
  simp only [SliceFn.copy, bind_apply, get_apply]
  split <;> rfl

end UsbStack
