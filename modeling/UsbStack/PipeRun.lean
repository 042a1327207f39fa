import UsbStack.ScriptBus

/-! # Runs of the control pipe

The calls that the device and its classes make on the pipe, in any order, and what keeps the
indices of the pipe inside its buffers.
-/

namespace UsbStack

set_option autoImplicit false

open Foundation Exec

structure Callback extends SliceFn where
  returns : ∀ buf, Post False run (fun _ _ => True) buf

def Callback.copy (data : List UInt8) : Callback where
  toSliceFn := .copy data
  returns := by
    intro buf
    simp only [SliceFn.copy, post_bind, post_get]
    split <;> trivial

/-- `readData` is what an OUT handle does while its request is delivered. -/
inductive PipeOp where
  | handleSetup
  | handleOut
  | handleInComplete
  | acceptIn (f : Callback)
  | acceptInStatic (data : List UInt8)
  | acceptOut
  | reject
  | reset
  | readData

variable {B : Type} [UsbBus B]

/-- Between two calls the hardware may have brought the bus into any state. -/
def ControlPipe.withBus {B : Type} (bus : B) (p : ControlPipe B) : ControlPipe B :=
  { p with bus := ⟨bus, p.bus.trace⟩ }

def onHardware {α : Type} (bus : B) (m : PipeM B α) : PipeM B α := do
  modify (ControlPipe.withBus bus)
  m

omit [UsbBus B] in
theorem onHardware_apply {α : Type} (bus : B) (m : PipeM B α) (p : ControlPipe B) :
    onHardware bus m p = m (p.withBus bus) := rfl

namespace PipeOp

/-- The result says whether an operation handed out a request or bytes. -/
inductive Reply where
  | done
  | request (req : Option Request)
  | completed (completed : Bool)
  | bytes (data : List UInt8)
  deriving DecidableEq

def dispatched : Except UsbError Reply → Option Request
  | .ok (.request req) => req
  | _ => none

def perform : PipeOp → PipeM B Reply
  | handleSetup => do
    let req ← ControlPipe.handleSetup
    pure (.request req)
  | handleOut => do
    let req ← ControlPipe.handleOut
    pure (.request req)
  | handleInComplete => do
    let completed ← ControlPipe.handleInComplete
    pure (.completed completed)
  | acceptIn f => do
    ControlPipe.acceptIn f.run
    pure .done
  | acceptInStatic data => do
    ControlPipe.acceptInStatic data
    pure .done
  | acceptOut => do
    ControlPipe.acceptOut
    pure .done
  | reject => do
    ControlPipe.reject
    pure .done
  | reset => do
    ControlPipe.reset
    pure .done
  | readData => do
    let p ← get
    match p.state with
    | .completeOut => do
      let data ← ControlPipe.data
      pure (.bytes data)
    | _ => pure .done

end PipeOp

namespace ControlPipe

/-- A state that the calls of the device and its classes can lead to. -/
def Reachable (p : ControlPipe B) : Prop :=
  ∃ (bus : Traced B) (buf : List UInt8) (epOut epIn : Endpoint),
    Reaches (fun op : B × PipeOp => onHardware op.1 op.2.perform) (new bus buf epOut epIn) p

/-- What ties the indices to the buffer that the state will use them on. -/
def Sound (p : ControlPipe B) : Prop :=
  match p.state with
  | .dataIn => p.i ≤ p.len ∧ p.len ≤ p.inBuffer.length
  | .dataOut _ => p.i ≤ p.buf.length ∧ p.len ≤ p.buf.length
  | .completeOut => p.len ≤ p.buf.length
  | _ => True

omit [UsbBus B] in
theorem sound_new (bus : Traced B) (buf : List UInt8) (epOut epIn : Endpoint) :
    (new bus buf epOut epIn).Sound := trivial

section Keeps

variable [UsbBus.Contract B] {p : ControlPipe B}

theorem post_handleSetup (hSound : p.Sound) :
    Post False handleSetup (fun _ q => q.Sound) p := by
  unfold Post
  rw [handleSetup_apply]
  cases hRead : (UsbBus.read p.bus.bus p.epOut.address p.buf.length).1 with
  | error e => exact hSound
  | ok packet =>
    have hFits := UsbBus.Contract.read_le _ _ _ _ hRead
    have hLength : (overwrite p.buf 0 packet).length = p.buf.length :=
      length_overwrite (by omega)
    dsimp only
    rw [if_neg (Nat.not_lt.mpr hFits)]
    have hLoaded : (p.loaded 0 packet).Sound := by
      unfold Sound at hSound ⊢
      obtain ⟨bus, epOut, epIn, state, buf, staticInBuf, i, len⟩ := p
      cases state with
      | dataIn =>
        cases staticInBuf with
        | none => exact ⟨hSound.1, hLength ▸ hSound.2⟩
        | some data => exact hSound
      | dataOut req => exact ⟨hLength ▸ hSound.1, hLength ▸ hSound.2⟩
      | completeOut => exact hLength ▸ hSound
      | _ => trivial
    cases Request.parse packet with
    | error e => exact hLoaded
    | ok req =>
      dsimp only
      unfold begun
      dsimp only
      split
      · split
        · split
          · exact hLoaded
          · rename_i hSize
            exact ⟨Nat.zero_le _, Nat.not_lt.mp hSize⟩
        · exact Nat.zero_le _
      · trivial

theorem post_handleOut (hSound : p.Sound) : Post False handleOut (fun _ q => q.Sound) p := by
  unfold Post
  cases hState : p.state with
  | dataOut req =>
    have hIndex : p.i ≤ p.buf.length ∧ p.len ≤ p.buf.length := by
      simpa only [Sound, hState] using hSound
    rw [handleOut_dataOut p hState hIndex.1]
    cases hRead : (UsbBus.read p.bus.bus p.epOut.address (p.buf.length - p.i)).1 with
    | error e =>
      cases e with
      | wouldBlock => exact hSound
      | _ => exact trivial
    | ok packet =>
      have hFits := UsbBus.Contract.read_le _ _ _ _ hRead
      have hLength : (overwrite p.buf p.i packet).length = p.buf.length :=
        length_overwrite (by omega)
      dsimp only
      rw [if_neg (Nat.not_lt.mpr hFits)]
      by_cases hLast : p.len ≤ p.i + packet.length
      · rw [if_pos hLast]
        exact Nat.le_trans hIndex.2 (Nat.le_of_eq hLength.symm)
      · rw [if_neg hLast]
        simp only [Sound, loaded, asked, hState, hLength]
        omega
  | dataIn | dataInZlp | dataInLast | statusOut =>
    rw [handleOut_inStage p (by rw [hState]; trivial)]
    cases (UsbBus.read p.bus.bus p.epOut.address 0).1 with
    | error e => exact hSound
    | ok packet => trivial
  | idle | completeIn req | completeOut | statusIn | error =>
    rw [handleOut_unexpecting p (by rw [hState]; trivial)]
    cases (UsbBus.read p.bus.bus p.epOut.address 0).1 with
    | error e => exact hSound
    | ok packet => trivial

/-- A chunk lies inside its buffer, unless a leftover is too short. -/
theorem post_writeInChunk (hState : p.state = .dataIn) (hSound : p.Sound) :
    Post False writeInChunk (fun _ q => q.Sound) p := by
  unfold Post
  have hIndex : p.i ≤ p.len ∧ p.len ≤ p.inBuffer.length := by
    simpa only [Sound, hState] using hSound
  have hCount : p.i + p.chunkLength ≤ p.len := by
    unfold chunkLength
    omega
  rw [writeInChunk_apply, if_neg (Nat.not_lt.mpr hIndex.1),
    slice?_of_le (Nat.le_add_right _ _) (Nat.le_trans hCount hIndex.2)]
  dsimp only
  generalize hChunk : (p.inBuffer.drop p.i).take (p.i + p.chunkLength - p.i) = chunk
  cases hWrite : (UsbBus.write p.bus.bus p.epIn.address chunk).1 with
  | error e => exact hSound
  | ok written =>
    have hWritten : p.i + written ≤ p.len := by
      have hLe := UsbBus.Contract.write_le _ _ _ _ hWrite
      have hTake := List.length_take_le (p.i + p.chunkLength - p.i) (p.inBuffer.drop p.i)
      rw [hChunk] at hTake
      omega
    dsimp only
    rw [slice?_of_le (Nat.le_add_right _ _) (Nat.le_trans hWritten hIndex.2)]
    rcases Nat.lt_or_ge (p.i + written) p.len with hLt | hLe
    · rw [advanced_of_lt p hLt]
      simp only [Sound, offered, hState]
      exact ⟨hWritten, hIndex.2⟩
    · rw [advanced_of_le p hLe]
      unfold Sound
      dsimp only
      split <;> rename_i h <;> first | trivial | (split at h <;> cases h)

theorem post_handleInComplete (hSound : p.Sound) :
    Post False handleInComplete (fun _ q => q.Sound) p := by
  cases hState : p.state with
  | dataIn =>
    have hWrite := post_false_iff.mp (post_writeInChunk hState hSound)
    obtain ⟨r, q, hDone, hq⟩ := hWrite
    unfold Post
    rw [handleInComplete_dataIn p hState, hDone]
    cases r <;> exact hq
  | dataInZlp =>
    unfold Post
    rw [handleInComplete_dataInZlp p hState]
    cases (UsbBus.write p.bus.bus p.epIn.address []).1 with
    | error e => exact hSound
    | ok written => trivial
  | dataInLast =>
    unfold Post
    rw [handleInComplete_dataInLast p hState]
    trivial
  | statusIn =>
    unfold Post
    rw [handleInComplete_statusIn p hState]
    trivial
  | idle | completeIn req | statusOut | completeOut | dataOut req | error =>
    unfold Post
    rw [handleInComplete_unsending p (by rw [hState]; trivial)]
    exact hSound

omit [UsbBus.Contract B] in
theorem post_acceptOut (hSound : p.Sound) : Post False acceptOut (fun _ q => q.Sound) p := by
  unfold Post
  by_cases hState : p.state = .completeOut
  · rw [acceptOut_completeOut p hState]
    cases (UsbBus.write p.bus.bus p.epIn.address []).1 with
    | error e => exact hSound
    | ok written => trivial
  · rw [acceptOut_of_ne p hState]
    exact hSound

theorem post_acceptInStatic (data : List UInt8) (hSound : p.Sound) :
    Post False (acceptInStatic data) (fun _ q => q.Sound) p := by
  by_cases hState : ∃ req, p.state = .completeIn req
  · obtain ⟨req, hState⟩ := hState
    unfold Post
    rw [acceptInStatic_completeIn p hState]
    exact post_writeInChunk rfl ⟨Nat.zero_le _, Nat.min_le_left _ _⟩
  · unfold Post
    rw [acceptInStatic_of_ne p (fun req h => hState ⟨req, h⟩)]
    exact hSound

/-- A leftover of an aborted static response is long enough for the answer that `f` gives. -/
def LeftoverFits (f : SliceFn) (p : ControlPipe B) : Prop :=
  ∀ req len buf data, p.state = .completeIn req → f.run p.buf = .done (.ok len) buf →
    len ≤ buf.length → p.staticInBuf = some data → min len req.length.toNat ≤ data.length

theorem post_acceptIn_of_returns (f : SliceFn) (hReturns : Post False f.run (fun _ _ => True) p.buf)
    (hSound : p.Sound) (hFits : LeftoverFits f p) :
    Post False (acceptIn f.run) (fun _ q => q.Sound) p := by
  by_cases hState : ∃ req, p.state = .completeIn req
  · obtain ⟨req, hState⟩ := hState
    unfold Post
    rw [acceptIn_completeIn p hState]
    obtain ⟨r, buf, hRun, -⟩ := post_false_iff.mp hReturns
    rw [hRun]
    cases r with
    | error e =>
      simp only [Sound, hState]
    | ok len =>
      dsimp only
      by_cases hLen : buf.length < len
      · rw [if_pos hLen]
        trivial
      · rw [if_neg hLen]
        refine post_writeInChunk (p := ControlPipe.started _ req len) rfl ⟨Nat.zero_le _, ?_⟩
        change min len req.length.toNat ≤ (p.staticInBuf.getD buf).length
        cases hStatic : p.staticInBuf with
        | none => exact Nat.le_trans (Nat.min_le_left _ _) (Nat.not_lt.mp hLen)
        | some data => exact hFits req len buf data hState hRun (Nat.not_lt.mp hLen) hStatic
  · unfold Post
    rw [acceptIn_of_ne p (fun req h => hState ⟨req, h⟩)]
    exact hSound

theorem post_acceptIn (f : Callback) (hSound : p.Sound) (hFits : LeftoverFits f.toSliceFn p) :
    Post False (acceptIn f.run) (fun _ q => q.Sound) p :=
  post_acceptIn_of_returns f.toSliceFn (f.returns p.buf) hSound hFits

omit [UsbBus.Contract B] in
theorem post_reject (hSound : p.Sound) : Post False reject (fun _ q => q.Sound) p := by
  unfold Post
  rw [reject_apply]
  by_cases hWaiting : p.waitingForResponse
  · rw [if_pos hWaiting]
    trivial
  · rw [if_neg hWaiting]
    exact hSound

end Keeps

end ControlPipe

namespace PipeOp

/-- An answer from the buffer is not given while a shorter leftover stands in its place. -/
def StaticFits (op : PipeOp) (p : ControlPipe B) : Prop :=
  match op with
  | acceptIn f => p.LeftoverFits f.toSliceFn
  | _ => True

/-- Every operation keeps the indices sound, under the condition. -/
theorem post_perform [UsbBus.Contract B] (op : PipeOp) {p : ControlPipe B} (hSound : p.Sound)
    (hFits : op.StaticFits p) : Post False op.perform (fun _ q => q.Sound) p := by
  have hReply {α : Type} {m : PipeM B α} (h : Post False m (fun _ q => q.Sound) p)
      (reply : α → Reply) : Post False (do let a ← m; pure (reply a)) (fun _ q => q.Sound) p := by
    rw [post_bind]
    apply h.mono
    intro r q hq
    cases r <;> exact hq
  cases op with
  | handleSetup => exact hReply (ControlPipe.post_handleSetup hSound) .request
  | handleOut => exact hReply (ControlPipe.post_handleOut hSound) .request
  | handleInComplete => exact hReply (ControlPipe.post_handleInComplete hSound) .completed
  | acceptIn f => exact hReply (ControlPipe.post_acceptIn f hSound hFits) fun _ => .done
  | acceptInStatic data =>
    exact hReply (ControlPipe.post_acceptInStatic data hSound) fun _ => .done
  | acceptOut => exact hReply (ControlPipe.post_acceptOut hSound) fun _ => .done
  | reject => exact hReply (ControlPipe.post_reject hSound) fun _ => .done
  | reset => trivial
  | readData =>
    simp only [perform, post_bind, post_get]
    cases hState : p.state with
    | completeOut =>
      have hLen : p.len ≤ p.buf.length := by simpa only [ControlPipe.Sound, hState] using hSound
      simp only [ControlPipe.data, post_bind, post_get, slice?_of_le (Nat.zero_le _) hLen,
        ofOption_some, post_pure]
      exact hSound
    | _ => exact hSound

/-- Neither a slice out of range nor an underflow: no operation of the run panics. -/
theorem finalState_isSome_of_staticFits [UsbBus.Contract B] (bus : Traced B) (buf : List UInt8)
    (epOut epIn : Endpoint) (ops : List PipeOp)
    (hFits : Along perform StaticFits ops (ControlPipe.new bus buf epOut epIn)) :
    (finalState perform ops (ControlPipe.new bus buf epOut epIn)).isSome := by
  have hSound := ControlPipe.sound_new bus buf epOut epIn
  revert hFits hSound
  generalize ControlPipe.new bus buf epOut epIn = p
  intro hFits hSound
  induction ops generalizing p with
  | nil => rfl
  | cons op rest ih =>
    obtain ⟨r, q, hDone, hq⟩ := post_false_iff.mp (post_perform op hSound hFits.1)
    rw [finalState, hDone]
    exact ih q (hFits.2 r q hDone) hq

def getEight : List UInt8 := [0x80, 6, 0, 1, 0, 0, 8, 0]

/-- The first answer, static and of two bytes, is not accepted by the bus and stays in the pipe;
the second is sent from it. -/
def staleOps : List PipeOp :=
  [.handleSetup, .acceptInStatic [1, 2], .handleSetup, .acceptIn (.copy (List.replicate 8 0))]

def stalePipe : ControlPipe ScriptBus :=
  .new ⟨.ofReads [.ok getEight, .ok getEight], []⟩ (List.replicate 8 0) (.control .out 8)
    (.control .in_ 8)

theorem finalState_isSome_getEight :
    (finalState perform [.handleSetup, .acceptIn (.copy [1, 2, 3]), .handleInComplete]
      stalePipe).isSome := by
  refine finalState_isSome_of_staticFits _ _ _ _ _ ⟨trivial, fun r s h => ⟨?_, fun _ _ _ => ?_⟩⟩
  · intro req len buf data _ _ _ hStatic
    cases h
    cases hStatic
  · exact ⟨trivial, fun _ _ _ => trivial⟩

theorem not_forall_finalState_isSome :
    ¬ ∀ (B : Type) [UsbBus B] [UsbBus.Contract B] (bus : Traced B) (buf : List UInt8)
      (epOut epIn : Endpoint) (ops : List PipeOp),
      (finalState perform ops (ControlPipe.new bus buf epOut epIn)).isSome := by
  intro h
  have hStale : (finalState perform staleOps stalePipe).isSome = true := h _ _ _ _ _ _
  exact absurd hStale (by decide)

end PipeOp

end UsbStack
