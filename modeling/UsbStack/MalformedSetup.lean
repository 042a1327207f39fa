import UsbStack.OversizedRequest
import UsbStack.PipeTandem

/-! # SETUP packets of a wrong length

A SETUP packet that cannot be parsed is dropped, but it has been read to the front of the buffer
by then. It is without consequence as long as it changes none of the bytes that the transfer in
progress still needs.
-/

namespace UsbStack

set_option autoImplicit false

open Foundation Exec

/-- What a trace says besides the packets that were read. -/
def unread (trace : List Event) : List Event :=
  trace.filter fun event =>
    match event with
    | .read _ _ _ => false
    | _ => true

theorem unread_append (trace more : List Event) :
    unread (trace ++ more) = unread trace ++ unread more := List.filter_append ..

theorem attempted_unread (addr : EndpointAddress) (trace : List Event) :
    attempted addr (unread trace) = attempted addr trace := by
  rw [attempted, unread, List.filterMap_filter, attempted]
  congr 1
  funext event
  cases event <;> rfl

theorem accepted_unread (addr : EndpointAddress) (trace : List Event) :
    accepted addr (unread trace) = accepted addr trace := by
  rw [accepted, unread, List.filterMap_filter, accepted]
  congr 1
  funext event
  cases event <;> rfl

/-- The answer does not depend on what the buffer held before. -/
def Callback.Oblivious (f : Callback) : Prop :=
  ∀ buf buf' : List UInt8, buf.length = buf'.length →
    ∃ r after after', f.run buf = .done r after ∧ f.run buf' = .done r after' ∧
      ∀ len, r = .ok len → after.take len = after'.take len

theorem Callback.oblivious_copy (data : List UInt8) : (Callback.copy data).Oblivious := by
  intro buf buf' hLength
  change ∃ r after after', (SliceFn.copy data).run buf = _ ∧ (SliceFn.copy data).run buf' = _ ∧ _
  rw [SliceFn.copy_run_apply, SliceFn.copy_run_apply, ← hLength]
  by_cases hLong : buf.length < data.length
  · rw [if_pos hLong, if_pos hLong]
    refine ⟨_, _, _, rfl, rfl, ?_⟩
    intro len hLen
    cases hLen
  · rw [if_neg hLong, if_neg hLong]
    refine ⟨_, _, _, rfl, rfl, ?_⟩
    intro len hLen
    cases hLen
    have hCopy (buf : List UInt8) : (overwrite buf 0 data).take data.length = data := by
      simpa using take_overwrite data (Nat.zero_le buf.length)
    rw [hCopy, hCopy]

variable {B : Type} [UsbBus B]

namespace ControlPipe

/-- Byte `k` of the buffer is still to be sent, or was received and is still to be handed out. -/
def Needed (p : ControlPipe B) (k : Nat) : Prop :=
  match p.state with
  | .dataIn => p.staticInBuf = none ∧ p.i ≤ k ∧ k < p.len
  | .dataOut _ => k < p.i
  | .completeOut => k < p.len
  | _ => False

structure Kin (p q : ControlPipe B) : Prop where
  epOut : p.epOut = q.epOut
  epIn : p.epIn = q.epIn
  leftover : p.staticInBuf = q.staticInBuf
  index : p.i = q.i
  len : p.len = q.len
  length : p.buf.length = q.buf.length
  effects : unread p.bus.trace = unread q.bus.trace

structure Twin (p q : ControlPipe B) : Prop extends Kin p q where
  state : p.state = q.state
  bytes : ∀ k, p.Needed k → p.buf[k]? = q.buf[k]?

section Relation

variable {p q : ControlPipe B}

omit [UsbBus B] in
theorem Twin.refl (p : ControlPipe B) : Twin p p :=
  ⟨⟨rfl, rfl, rfl, rfl, rfl, rfl, rfl⟩, rfl, fun _ _ => rfl⟩

omit [UsbBus B] in
theorem Kin.withTrace (h : Kin p q) {t t' : Traced B} (hTrace : unread t.trace = unread t'.trace) :
    Kin { p with bus := t } { q with bus := t' } :=
  ⟨h.epOut, h.epIn, h.leftover, h.index, h.len, h.length, hTrace⟩

omit [UsbBus B] in
theorem Twin.withTrace (h : Twin p q) {t t' : Traced B}
    (hTrace : unread t.trace = unread t'.trace) :
    Twin { p with bus := t } { q with bus := t' } :=
  ⟨h.toKin.withTrace hTrace, h.state, h.bytes⟩

omit [UsbBus B] in
/-- A change to a state that needs no byte of the buffer. -/
theorem Kin.twin_of_free (h : Kin p q) (hState : p.state = q.state) (hFree : ∀ k, ¬ p.Needed k) :
    Twin p q :=
  ⟨h, hState, fun k hNeeded => (hFree k hNeeded).elim⟩

theorem unread_reading (t : Traced B) (addr : EndpointAddress) (len : Nat) :
    unread (t.reading addr len).trace = unread t.trace := by
  rw [Traced.trace_reading, unread_append]
  exact List.append_nil _

theorem unread_writing {t t' : Traced B} (hBus : t.bus = t'.bus)
    (hTrace : unread t.trace = unread t'.trace) (addr : EndpointAddress) (data : List UInt8) :
    unread (t.writing addr data).trace = unread (t'.writing addr data).trace := by
  rw [Traced.trace_writing, Traced.trace_writing, unread_append, unread_append, hTrace, hBus]

theorem unread_stalling {t t' : Traced B} (hTrace : unread t.trace = unread t'.trace)
    (addr : EndpointAddress) (b : Bool) :
    unread (t.stalling addr b).trace = unread (t'.stalling addr b).trace := by
  rw [Traced.trace_stalling, Traced.trace_stalling, unread_append, unread_append, hTrace]

omit [UsbBus B] in
theorem unread_noting {t t' : Traced B} (hTrace : unread t.trace = unread t'.trace)
    (event : Event) : unread (t.noting event).trace = unread (t'.noting event).trace := by
  rw [Traced.trace_noting, Traced.trace_noting, unread_append, unread_append, hTrace]

theorem Twin.asked (h : Twin p q) (len len' : Nat) : Twin (p.asked len) (q.asked len') :=
  h.withTrace (by rw [unread_reading, unread_reading, h.effects])

theorem Kin.asked (h : Kin p q) (len len' : Nat) : Kin (p.asked len) (q.asked len') :=
  h.withTrace (by rw [unread_reading, unread_reading, h.effects])

theorem Twin.offered (h : Twin p q) (hBus : p.bus.bus = q.bus.bus) (data : List UInt8) :
    Twin (p.offered data) (q.offered data) :=
  h.withTrace (by rw [← h.epIn]; exact unread_writing hBus h.effects _ _)

theorem Kin.errored (h : Kin p q) : Twin p.errored q.errored := by
  refine ⟨⟨h.epOut, h.epIn, h.leftover, h.index, h.len, h.length, ?_⟩, rfl, fun _ h => h.elim⟩
  rw [ControlPipe.errored, ControlPipe.errored, ← h.epOut, ← h.epIn]
  exact unread_stalling (unread_stalling h.effects _ _) _ _

theorem Kin.loaded (h : Kin p q) {start : Nat} {packet : List UInt8}
    (hFits : start + packet.length ≤ p.buf.length) :
    Kin (p.loaded start packet) (q.loaded start packet) := by
  have hp : (p.loaded start packet).buf.length = p.buf.length := length_overwrite hFits
  have hq : (q.loaded start packet).buf.length = q.buf.length :=
    length_overwrite (h.length ▸ hFits)
  have hAsked := h.asked (p.buf.length - start) (q.buf.length - start)
  exact ⟨h.epOut, h.epIn, h.leftover, h.index, h.len, hp.trans (h.length.trans hq.symm),
    hAsked.effects⟩

theorem Twin.loaded (h : Twin p q) {packet : List UInt8} (hFits : packet.length ≤ p.buf.length) :
    Twin (p.loaded 0 packet) (q.loaded 0 packet) := by
  refine ⟨h.toKin.loaded (by omega), h.state, ?_⟩
  intro k hNeeded
  have hBytes : p.buf[k]? = q.buf[k]? := h.bytes k hNeeded
  simp only [ControlPipe.loaded, getElem?_overwrite (Nat.zero_le _), hBytes]

theorem Twin.loaded_left (h : Twin p q) {packet : List UInt8}
    (hFits : packet.length ≤ p.buf.length)
    (hKept : ∀ k, p.Needed k → (overwrite p.buf 0 packet)[k]? = p.buf[k]?) :
    Twin (p.loaded 0 packet) q := by
  refine ⟨⟨h.epOut, h.epIn, h.leftover, h.index, h.len,
    (length_loaded_zero hFits).trans h.length, ?_⟩, h.state, ?_⟩
  · exact (unread_reading _ _ _).trans h.effects
  · intro k hNeeded
    exact (hKept k hNeeded).trans (h.bytes k hNeeded)

theorem Twin.begun (h : Twin p q) (req : Request) :
    (p.begun req).1 = (q.begun req).1 ∧ Twin (p.begun req).2 (q.begun req).2 := by
  have hStall : unread (p.bus.stalling p.epOut.address false).trace =
      unread (q.bus.stalling q.epOut.address false).trace := by
    rw [← h.epOut]
    exact unread_stalling h.effects _ _
  have hNoted := unread_noting hStall (.setup req)
  unfold ControlPipe.begun
  dsimp only
  rw [← h.length]
  split
  · split
    · split
      · exact ⟨rfl, h.withTrace hStall⟩
      · exact ⟨rfl, ⟨h.epOut, h.epIn, h.leftover, rfl, rfl, h.length, hNoted⟩, rfl,
          fun k hk => absurd hk (Nat.not_lt_zero k)⟩
    · exact ⟨rfl, ⟨h.epOut, h.epIn, h.leftover, h.index, rfl, h.length, hNoted⟩, rfl,
        fun k hk => absurd hk (Nat.not_lt_zero k)⟩
  · exact ⟨rfl, ⟨h.epOut, h.epIn, h.leftover, h.index, h.len, h.length, hNoted⟩, rfl,
      fun _ hk => hk.elim⟩

theorem agree_handleSetup_twin (h : Twin p q) (hBus : p.bus.bus = q.bus.bus) :
    Agree (fun _ => Twin) (handleSetup p) (handleSetup q) := by
  rw [handleSetup_apply, handleSetup_apply, ← hBus, ← h.epOut, ← h.length]
  cases (UsbBus.read p.bus.bus p.epOut.address p.buf.length).1 with
  | error e => exact ⟨rfl, h.asked _ _⟩
  | ok packet =>
    dsimp only
    by_cases hLong : p.buf.length < packet.length
    · rw [if_pos hLong, if_pos hLong]
      rfl
    · rw [if_neg hLong, if_neg hLong]
      have hLoaded := h.loaded (Nat.not_lt.mp hLong)
      cases Request.parse packet with
      | error e => exact ⟨rfl, hLoaded⟩
      | ok req =>
        obtain ⟨hRequest, hTwin⟩ := hLoaded.begun req
        exact ⟨congrArg _ hRequest, hTwin⟩

omit [UsbBus B] in
theorem Kin.free (h : Kin p q) {state : ControlState} (hSpare : Spare state) :
    Twin { p with state := state } { q with state := state } := by
  refine Kin.twin_of_free ⟨h.epOut, h.epIn, h.leftover, h.index, h.len, h.length, h.effects⟩ rfl ?_
  intro k hNeeded
  cases state <;> first | exact hSpare | exact hNeeded

/-- Both pipes send the same chunk: its bytes are needed. -/
theorem agree_writeInChunk_twin (h : Twin p q) (hBus : p.bus.bus = q.bus.bus)
    (hState : p.state = .dataIn) : Agree (fun _ => Twin) (writeInChunk p) (writeInChunk q) := by
  have hCount : p.chunkLength = q.chunkLength := by
    simp only [chunkLength, h.index, h.len, h.epIn]
  have hLength : p.inBuffer.length = q.inBuffer.length := by
    simp only [inBuffer, ← h.leftover]
    cases p.staticInBuf with
    | none => exact h.length
    | some data => rfl
  have hBytes (k : Nat) (hFrom : p.i ≤ k) (hTo : k < p.len) :
      p.inBuffer[k]? = q.inBuffer[k]? := by
    simp only [inBuffer, ← h.leftover]
    cases hStatic : p.staticInBuf with
    | none =>
      refine h.bytes k ?_
      simp only [Needed, hState]
      exact ⟨hStatic, hFrom, hTo⟩
    | some data => rfl
  rw [writeInChunk_apply, writeInChunk_apply, ← hBus, ← h.epIn, ← h.index, ← h.len, ← hCount]
  by_cases hOver : p.len < p.i
  · rw [if_pos hOver, if_pos hOver]
    rfl
  · rw [if_neg hOver, if_neg hOver]
    have hStop : p.i + p.chunkLength ≤ p.len := by
      unfold chunkLength
      omega
    rw [← slice?_congr_range hLength fun k hFrom hTo => hBytes k hFrom (by omega)]
    cases slice? p.inBuffer p.i (p.i + p.chunkLength) with
    | none => rfl
    | some chunk =>
      have hOffered := h.offered hBus chunk
      dsimp only
      cases (UsbBus.write p.bus.bus p.epIn.address chunk).1 with
      | error e => exact ⟨rfl, hOffered⟩
      | ok written =>
        have hSome := slice?_isSome_congr hLength p.i (p.i + written)
        dsimp only
        cases hp : slice? p.inBuffer p.i (p.i + written) <;>
          cases hq : slice? q.inBuffer p.i (p.i + written) <;> rw [hp, hq] at hSome
        · rfl
        · cases hSome
        · cases hSome
        · dsimp only
          rcases Nat.lt_or_ge (p.i + written) p.len with hLt | hGe
          · rw [advanced_of_lt p hLt, advanced_of_lt q (by rw [← h.index, ← h.len]; exact hLt)]
            refine ⟨rfl, ⟨h.epOut, h.epIn, h.leftover, by rw [h.index], h.len, h.length,
              hOffered.effects⟩, h.state, ?_⟩
            intro k hNeeded
            simp only [Needed, ControlPipe.offered, hState] at hNeeded
            refine h.bytes k ?_
            simp only [Needed, hState]
            exact ⟨hNeeded.1, by omega, hNeeded.2.2⟩
          · rw [advanced_of_le p hGe, advanced_of_le q (by rw [← h.index, ← h.len]; exact hGe),
              h.epIn]
            refine ⟨rfl, Kin.twin_of_free ⟨h.epOut, h.epIn, rfl, by rw [h.index], h.len, h.length,
              hOffered.effects⟩ rfl ?_⟩
            intro k hNeeded
            unfold Needed at hNeeded
            dsimp only at hNeeded
            split at hNeeded <;> first | exact hNeeded | (split at * <;> contradiction)

theorem tandem_twin : Tandem (Twin : ControlPipe B → ControlPipe B → Prop) where
  state h := h.state
  epOut h := h.epOut
  epIn h := h.epIn
  asked h := h.asked 0 0
  offered h hBus := h.offered hBus []
  unstalled h := h.withTrace (by rw [← h.epOut]; exact unread_stalling h.effects _ _)
  errored h := h.toKin.errored
  spare hSpare h := h.toKin.free hSpare
  chunk h hBus hState := agree_writeInChunk_twin h hBus hState

/-- Both pipes store the same packet, or refuse it. -/
theorem agree_handleOut_twin (h : Twin p q) (hBus : p.bus.bus = q.bus.bus) :
    Agree (fun _ => Twin) (handleOut p) (handleOut q) := by
  by_cases hData : ∃ req, p.state = .dataOut req
  · obtain ⟨req, hState⟩ := hData
    have hState' : q.state = .dataOut req := h.state ▸ hState
    by_cases hIndex : p.i ≤ p.buf.length
    · rw [handleOut_dataOut p hState hIndex,
        handleOut_dataOut q hState' (h.index ▸ h.length ▸ hIndex), ← hBus, ← h.epOut, ← h.length,
        ← h.index, ← h.len]
      cases (UsbBus.read p.bus.bus p.epOut.address (p.buf.length - p.i)).1 with
      | error e =>
        cases e with
        | wouldBlock => exact ⟨rfl, h.asked _ _⟩
        | _ => exact ⟨rfl, (h.toKin.asked _ _).errored⟩
      | ok packet =>
        dsimp only
        by_cases hLong : p.buf.length - p.i < packet.length
        · rw [if_pos hLong, if_pos hLong]
          rfl
        · rw [if_neg hLong, if_neg hLong]
          have hLoaded : Kin (p.loaded p.i packet) (q.loaded p.i packet) :=
            h.toKin.loaded (by omega)
          have hBytes (k : Nat) (hk : k < p.i + packet.length) :
              (overwrite p.buf p.i packet)[k]? = (overwrite q.buf p.i packet)[k]? := by
            rw [getElem?_overwrite hIndex, getElem?_overwrite (h.length ▸ hIndex)]
            by_cases hOld : k < p.i
            · have hNeeded : p.Needed k := by simpa only [Needed, hState] using hOld
              rw [if_pos hOld, if_pos hOld, h.bytes k hNeeded]
            · rw [if_neg hOld, if_neg hOld, if_pos hk, if_pos hk]
          by_cases hLast : p.len ≤ p.i + packet.length
          · rw [if_pos hLast, if_pos hLast]
            refine ⟨rfl, ⟨h.epOut, h.epIn, h.leftover, rfl, h.len, hLoaded.length,
              hLoaded.effects⟩, rfl, ?_⟩
            intro k hk
            exact hBytes k (Nat.lt_of_lt_of_le hk hLast)
          · rw [if_neg hLast, if_neg hLast]
            refine ⟨rfl, ⟨h.epOut, h.epIn, h.leftover, rfl, h.len, hLoaded.length,
              hLoaded.effects⟩, h.state, ?_⟩
            intro k hNeeded
            refine hBytes k ?_
            simpa only [Needed, ControlPipe.loaded, ControlPipe.asked, hState] using hNeeded
    · rw [handleOut_outside p hState (Nat.not_le.mp hIndex),
        handleOut_outside q hState' (by rw [← h.index, ← h.length]; exact Nat.not_le.mp hIndex)]
      rfl
  · exact tandem_twin.agree_handleOut h hBus (not_exists.mp hData)

theorem agree_acceptInStatic_twin (h : Twin p q) (hBus : p.bus.bus = q.bus.bus)
    (data : List UInt8) :
    Agree (fun _ => Twin) (acceptInStatic data p) (acceptInStatic data q) := by
  by_cases hState : ∃ req, p.state = .completeIn req
  · obtain ⟨req, hState⟩ := hState
    rw [acceptInStatic_completeIn p hState, acceptInStatic_completeIn q (h.state ▸ hState)]
    refine agree_writeInChunk_twin ⟨⟨h.epOut, h.epIn, rfl, rfl, rfl, h.length, h.effects⟩, rfl, ?_⟩
      hBus rfl
    intro k hNeeded
    cases hNeeded.1
  · have hNe (req : Request) : p.state ≠ .completeIn req := fun hEq => hState ⟨req, hEq⟩
    rw [acceptInStatic_of_ne p hNe, acceptInStatic_of_ne q (h.state ▸ hNe)]
    exact ⟨rfl, h⟩

theorem agree_acceptIn_twin (h : Twin p q) (hBus : p.bus.bus = q.bus.bus) {f : Callback}
    (hOblivious : f.Oblivious) :
    Agree (fun _ => Twin) (acceptIn f.run p) (acceptIn f.run q) := by
  by_cases hState : ∃ req, p.state = .completeIn req
  · obtain ⟨req, hState⟩ := hState
    obtain ⟨r, after, after', hRun, hRun', hBytes⟩ := hOblivious p.buf q.buf h.length
    have hAfter : after.length = p.buf.length := f.length_eq.of_done hRun
    have hAfter' : after'.length = q.buf.length := f.length_eq.of_done hRun'
    have hLength : after.length = after'.length := by rw [hAfter, hAfter', h.length]
    have hKin : Kin { p with buf := after } { q with buf := after' } :=
      ⟨h.epOut, h.epIn, h.leftover, h.index, h.len, hLength, h.effects⟩
    rw [acceptIn_completeIn p hState, acceptIn_completeIn q (h.state ▸ hState), hRun, hRun']
    cases r with
    | error e =>
      refine ⟨rfl, Kin.twin_of_free hKin h.state ?_⟩
      intro k hNeeded
      simp only [Needed, hState] at hNeeded
    | ok len =>
      dsimp only
      rw [← hLength]
      by_cases hLong : after.length < len
      · rw [if_pos hLong, if_pos hLong]
        exact ⟨rfl, hKin.errored⟩
      · rw [if_neg hLong, if_neg hLong]
        refine agree_writeInChunk_twin
          ⟨⟨h.epOut, h.epIn, h.leftover, rfl, rfl, hLength, h.effects⟩, rfl, ?_⟩ hBus rfl
        intro k hNeeded
        have hk : k < min len req.length.toNat := hNeeded.2.2
        exact take_eq_take_iff_getElem?.mp (hBytes len rfl) k (by omega)
  · have hNe (req : Request) : p.state ≠ .completeIn req := fun hEq => hState ⟨req, hEq⟩
    rw [acceptIn_of_ne p hNe, acceptIn_of_ne q (h.state ▸ hNe)]
    exact ⟨rfl, h⟩

end Relation

end ControlPipe

def PipeOp.Oblivious : PipeOp → Prop
  | acceptIn f => f.Oblivious
  | _ => True

/-- Every operation gives the same on both pipes. -/
theorem PipeOp.agree_perform_twin {p q : ControlPipe B} (h : p.Twin q) (hBus : p.bus.bus = q.bus.bus)
    {op : PipeOp} (hOblivious : op.Oblivious) :
    Agree (fun _ => ControlPipe.Twin) (op.perform p) (op.perform q) := by
  have hReply {α : Type} {m : PipeM B α} (hm : Agree (fun _ => ControlPipe.Twin) (m p) (m q))
      (reply : α → Reply) : Agree (fun _ => ControlPipe.Twin)
        ((do let a ← m; pure (reply a) : PipeM B _) p)
        ((do let a ← m; pure (reply a) : PipeM B _) q) :=
    agree_bind hm (fun _ _ _ hTwin => ⟨rfl, hTwin⟩) fun _ _ _ hTwin => hTwin
  cases op with
  | handleSetup => exact hReply (ControlPipe.agree_handleSetup_twin h hBus) .request
  | handleOut => exact hReply (ControlPipe.agree_handleOut_twin h hBus) .request
  | handleInComplete => exact hReply (ControlPipe.tandem_twin.agree_handleInComplete h hBus) .completed
  | acceptIn f => exact hReply (ControlPipe.agree_acceptIn_twin h hBus hOblivious) fun _ => .done
  | acceptInStatic data =>
    exact hReply (ControlPipe.agree_acceptInStatic_twin h hBus data) fun _ => .done
  | acceptOut => exact hReply (ControlPipe.tandem_twin.agree_acceptOut h hBus) fun _ => .done
  | reject => exact hReply (ControlPipe.tandem_twin.agree_reject h) fun _ => .done
  | reset =>
    exact ⟨rfl, h.toKin.free trivial⟩
  | readData =>
    simp only [perform, bind_apply, get_apply, ← h.state]
    cases hState : p.state with
    | completeOut =>
      have hSlice : slice? p.buf 0 p.len = slice? q.buf 0 p.len := by
        apply slice?_congr_range h.length
        intro k _ hk
        refine h.bytes k ?_
        simpa only [ControlPipe.Needed, hState] using hk
      simp only [ControlPipe.data, bind_apply, get_apply, ← h.len, hSlice]
      cases slice? q.buf 0 p.len with
      | none => rfl
      | some part => exact ⟨rfl, h⟩
    | _ => exact ⟨rfl, h⟩

def PipeOp.performOn (op : B × PipeOp) : PipeM B PipeOp.Reply := onHardware op.1 op.2.perform

/-- A step of a run with insertions. -/
inductive Insertion (B : Type) where
  | kept (bus : B) (op : PipeOp)
  | malformed (bus : B) (packet : List UInt8)

namespace Insertion

def perform : Insertion B → PipeM B PipeOp.Reply
  | kept bus op => onHardware bus op.perform
  | malformed bus _ => onHardware bus PipeOp.handleSetup.perform

def erase : Insertion B → Option (B × PipeOp)
  | kept bus op => some (bus, op)
  | malformed _ _ => none

def WellFormed : Insertion B → ControlPipe B → Prop
  | kept _ _, _ => True
  | malformed bus packet, p => packet.length ≠ 8 ∧
    packet.length ≤ p.epOut.maxPacketSize.toNat ∧ Offers bus p.epOut.address packet

/-- A packet that the buffer takes changes no byte that is needed. -/
def Harmless : Insertion B → ControlPipe B → Prop
  | kept _ _, _ => True
  | malformed _ packet, p => packet.length ≤ p.buf.length →
    ∀ k, p.Needed k → (overwrite p.buf 0 packet)[k]? = p.buf[k]?

def Oblivious : Insertion B → Prop
  | kept _ op => op.Oblivious
  | malformed _ _ => True

/-- From the first malformed packet on no answer depends on what it finds in the buffer. -/
def ObliviousAfter : List (Insertion B) → Prop
  | [] => True
  | kept _ _ :: rest => ObliviousAfter rest
  | malformed _ _ :: rest => ∀ event ∈ rest, event.Oblivious

end Insertion

def handedOut : Except Panic (Except UsbError PipeOp.Reply) → Option (Request ⊕ List UInt8)
  | .ok (.ok (.request (some req))) => some (.inl req)
  | .ok (.ok (.bytes data)) => some (.inr data)
  | _ => none

namespace ControlPipe

structure SameEnd (p q : ControlPipe B) : Prop where
  state : p.state = q.state
  index : p.i = q.i
  len : p.len = q.len
  leftover : p.staticInBuf = q.staticInBuf
  attempted : attempted p.epIn.address p.bus.trace = attempted q.epIn.address q.bus.trace
  accepted : accepted p.epIn.address p.bus.trace = accepted q.epIn.address q.bus.trace

omit [UsbBus B] in
theorem Twin.sameEnd {p q : ControlPipe B} (h : Twin p q) : SameEnd p q := by
  refine ⟨h.state, h.index, h.len, h.leftover, ?_, ?_⟩
  · rw [← attempted_unread, ← attempted_unread _ q.bus.trace, h.epIn, h.effects]
  · rw [← accepted_unread, ← accepted_unread _ q.bus.trace, h.epIn, h.effects]

/-- A run and the same run without its malformed SETUP packets. -/
structure Invisible (events : List (Insertion B)) (p : ControlPipe B) : Prop where
  handedOut : (outputs Insertion.perform events p).filterMap handedOut =
    (outputs PipeOp.performOn (events.filterMap Insertion.erase) p).filterMap handedOut
  sameEnd : Option.Rel SameEnd (finalState Insertion.perform events p)
    (finalState PipeOp.performOn (events.filterMap Insertion.erase) p)

theorem Twin.kept {p q : ControlPipe B} (h : Twin p q) (bus : B) {op : PipeOp}
    (hOblivious : op.Oblivious) :
    Agree (fun _ => Twin) (onHardware bus op.perform p) (onHardware bus op.perform q) :=
  PipeOp.agree_perform_twin (p := p.withBus bus) (q := q.withBus bus)
    (h.withTrace h.effects) rfl hOblivious

/-- A harmless packet changes the one pipe only where nothing is needed. -/
theorem Twin.malformed {p q : ControlPipe B} (h : Twin p q) {bus : B} {packet : List UInt8}
    (hWell : (Insertion.malformed bus packet).WellFormed p)
    (hHarmless : (Insertion.malformed bus packet).Harmless p) :
    ∃ t, (Insertion.malformed bus packet).perform p = .done (.ok (.request none)) t ∧
      Twin t q := by
  obtain ⟨hLength, -, hOffers⟩ := hWell
  have hTwin : Twin (p.withBus bus) q := h.withTrace h.effects
  have hRead : (UsbBus.read (p.withBus bus).bus.bus (p.withBus bus).epOut.address
      (p.withBus bus).buf.length).1 =
        if packet.length ≤ p.buf.length then .ok packet else .error .bufferOverflow :=
    hOffers p.buf.length
  rw [Insertion.perform, onHardware_apply, PipeOp.perform, bind_apply, handleSetup_apply, hRead]
  by_cases hFits : packet.length ≤ p.buf.length
  · rw [if_pos hFits]
    dsimp only
    rw [if_neg (show ¬ (p.withBus bus).buf.length < packet.length from Nat.not_lt.mpr hFits)]
    cases hParse : Request.parse packet with
    | error e => exact ⟨_, rfl, hTwin.loaded_left hFits (hHarmless hFits)⟩
    | ok req => exact absurd (Request.length_of_parse hParse) hLength
  · rw [if_neg hFits]
    exact ⟨_, rfl, hTwin.withTrace ((unread_reading _ _ _).trans h.effects)⟩

/-- When no answer of the run depends on what it finds in the buffer. -/
theorem invisible_of_oblivious {p : ControlPipe B} {events : List (Insertion B)}
    (hWell : Along Insertion.perform Insertion.WellFormed events p)
    (hHarmless : Along Insertion.perform Insertion.Harmless events p)
    (hOblivious : ∀ event ∈ events, event.Oblivious) : Invisible events p := by
  have hAlong := (hWell.and hHarmless).and (along_of_forall hOblivious p)
  have hStep : ∀ (event : Insertion B) (op : B × PipeOp) (s t : ControlPipe B),
      event.erase = some op → (event.WellFormed s ∧ event.Harmless s) ∧ event.Oblivious →
      Twin s t → Agree (fun _ => Twin) (event.perform s) (PipeOp.performOn op t) := by
    intro event op s t hErase hC hTwin
    cases event with
    | kept bus op' =>
      cases hErase
      exact hTwin.kept bus hC.2
    | malformed bus packet => cases hErase
  have hSkip : ∀ (event : Insertion B) (s t : ControlPipe B),
      event.erase = none → (event.WellFormed s ∧ event.Harmless s) ∧ event.Oblivious →
      Twin s t → ∃ s', event.perform s = .done (.ok (.request none)) s' ∧ Twin s' t := by
    intro event s t hErase hC hTwin
    cases event with
    | kept bus op => cases hErase
    | malformed bus packet => exact hTwin.malformed hC.1.1 hC.1.2
  constructor
  · refine filterMap_outputs_of_skips hStep ?_ hAlong (Twin.refl p)
    intro event s t hErase hC hTwin
    obtain ⟨s', hDone, hTwin'⟩ := hSkip event s t hErase hC hTwin
    exact ⟨_, s', hDone, rfl, hTwin'⟩
  · refine rel_mono (fun _ _ => Twin.sameEnd) (rel_finalState_of_skips hStep ?_ hAlong (Twin.refl p))
    intro event s t hErase hC hTwin
    obtain ⟨s', hDone, hTwin'⟩ := hSkip event s t hErase hC hTwin
    exact ⟨_, s', hDone, hTwin'⟩

/-- Insertions that change no byte which is needed at their time cannot be told from the outside. -/
theorem invisible_of_harmless {p : ControlPipe B} {events : List (Insertion B)}
    (hWell : Along Insertion.perform Insertion.WellFormed events p)
    (hHarmless : Along Insertion.perform Insertion.Harmless events p)
    (hOblivious : Insertion.ObliviousAfter events) : Invisible events p := by
  -- up to the first insertion both runs are in the same state
  induction events generalizing p with
  | nil => exact ⟨rfl, .some (Twin.refl p).sameEnd⟩
  | cons event rest ih =>
    cases event with
    | malformed bus packet =>
      apply invisible_of_oblivious hWell hHarmless
      intro event hEvent
      rcases List.mem_cons.mp hEvent with rfl | hEvent
      · trivial
      · exact hOblivious event hEvent
    | kept bus op =>
      have hErase : (Insertion.kept bus op :: rest).filterMap Insertion.erase =
          (bus, op) :: rest.filterMap Insertion.erase := List.filterMap_cons_some rfl
      have hSame : (Insertion.kept bus op).perform p =
          PipeOp.performOn (bus, op) p := rfl
      cases hStep : (Insertion.kept bus op).perform p with
      | done r q =>
        have hRest := ih (hWell.2 r q hStep) (hHarmless.2 r q hStep) hOblivious
        constructor
        · rw [hErase, outputs_cons hStep, outputs_cons (hSame.symm.trans hStep),
            List.filterMap_cons, List.filterMap_cons, hRest.handedOut]
        · rw [hErase, finalState_cons hStep, finalState_cons (hSame.symm.trans hStep)]
          exact hRest.sameEnd
      | panic reason =>
        constructor
        · rw [hErase, outputs, outputs, ← hSame, hStep]
        · rw [hErase, finalState, finalState, ← hSame, hStep]
          exact .none

/-- A packet that arrives while the pipe is idle. -/
theorem invisible_of_harmless_idle :
    Invisible [.malformed (.ofReads [.ok [9]]) [9],
      .kept (.ofReads [.ok [0x40, 1, 0, 0, 0, 0, 1, 0]]) .handleSetup,
      .kept (.ofReads [.ok [1]]) .handleOut, .kept (.ofReads []) .readData,
      .kept (.ofReads [.ok [0xC0, 1, 0, 0, 0, 0, 2, 0]]) .handleSetup,
      .kept ⟨[], [.ok 2], []⟩ (.acceptIn (.copy [7, 8]))] smallPipe := by
  apply invisible_of_harmless
  · exact along_cons ⟨by decide, by decide, offers_ofReads _ _⟩ rfl
      (along_cons trivial rfl (along_cons trivial rfl (along_cons trivial rfl
        (along_cons trivial rfl (along_cons trivial rfl trivial)))))
  · exact along_cons (fun _ _ h => h.elim) rfl
      (along_cons trivial rfl (along_cons trivial rfl (along_cons trivial rfl
        (along_cons trivial rfl (along_cons trivial rfl trivial)))))
  · intro event hEvent
    simp only [List.mem_cons, List.not_mem_nil, or_false] at hEvent
    rcases hEvent with rfl | rfl | rfl | rfl | rfl
    · trivial
    · trivial
    · trivial
    · trivial
    · exact Callback.oblivious_copy _

/-- The first byte of the data is replaced while the second is awaited. -/
theorem not_forall_invisible :
    ¬ ∀ (p : ControlPipe ScriptBus) (events : List (Insertion ScriptBus)), p.Reachable →
      Along Insertion.perform Insertion.WellFormed events p → Invisible events p := by
  intro h
  have hInvisible := h smallPipe
    [.kept (.ofReads [.ok [0x40, 1, 0, 0, 0, 0, 2, 0]]) .handleSetup,
      .kept (.ofReads [.ok [1]]) .handleOut, .malformed (.ofReads [.ok [9]]) [9],
      .kept (.ofReads [.ok [2]]) .handleOut, .kept (.ofReads []) .readData] reachable_smallPipe
    (along_cons trivial rfl (along_cons trivial rfl
      (along_cons ⟨by decide, by decide, offers_ofReads _ _⟩ rfl
        (along_cons trivial rfl (along_cons trivial rfl trivial)))))
  exact absurd hInvisible.handedOut (by decide)

end ControlPipe

end UsbStack
