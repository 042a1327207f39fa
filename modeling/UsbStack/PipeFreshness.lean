import UsbStack.InStage
import UsbStack.PipeTandem

/-! # A SETUP packet starts the pipe afresh

Two pipes that hold the same leftover of a static response answer alike from the next SETUP packet
on, whatever happened to each of them before.
-/

namespace UsbStack

set_option autoImplicit false

open Foundation Exec

/-- What a pipe is subjected to, with the responses given as data. -/
inductive Stimulus where
  | setup
  | out
  | inComplete
  | reset
  | accept (data : List UInt8)
  | acceptStatic (data : List UInt8)
  | acceptOut
  | reject
  | readData

def Stimulus.op : Stimulus → PipeOp
  | setup => .handleSetup
  | out => .handleOut
  | inComplete => .handleInComplete
  | reset => .reset
  | accept data => .acceptIn (.copy data)
  | acceptStatic data => .acceptInStatic data
  | acceptOut => .acceptOut
  | reject => .reject
  | readData => .readData

def Stimulus.perform {B : Type} [UsbBus B] (stimulus : Stimulus) : PipeM B PipeOp.Reply :=
  stimulus.op.perform

namespace ControlPipe

/-- Leftover static responses that no answer of up to `limit` bytes tells apart. -/
def SameLeftover (limit : Nat) : Option (List UInt8) → Option (List UInt8) → Prop
  | none, none => True
  | some data, some data' => data.take limit = data'.take limit
  | _, _ => False

section Relation

variable {B : Type} [UsbBus B]

/-- An answer from the buffer is limited by the buffer and by the length field of a request. -/
def answerLimit (p : ControlPipe B) : Nat := min p.buf.length 65535

/-- What has to agree before a SETUP packet. -/
structure Level (p q : ControlPipe B) : Prop where
  bus : p.bus = q.bus
  epOut : p.epOut = q.epOut
  epIn : p.epIn = q.epIn
  length : p.buf.length = q.buf.length
  leftover : SameLeftover p.answerLimit p.staticInBuf q.staticInBuf

/-- What has to agree of the parts that a state uses. -/
def SameStage (p q : ControlPipe B) : Prop :=
  match p.state with
  | .dataIn => p.i = q.i ∧ p.len = q.len ∧ p.inBuffer.take p.len = q.inBuffer.take p.len
  | .dataOut _ => p.i = q.i ∧ p.len = q.len ∧ p.i ≤ p.buf.length ∧ p.buf.take p.i = q.buf.take p.i
  | .completeOut => p.len = q.len ∧ p.buf.take p.len = q.buf.take p.len
  | _ => True

structure Alike (p q : ControlPipe B) : Prop extends Level p q where
  state : p.state = q.state
  stage : SameStage p q

variable {p q : ControlPipe B}

omit [UsbBus B] in
theorem Level.withBus (h : Level p q) {t t' : Traced B} (hBus : t = t') :
    Level { p with bus := t } { q with bus := t' } :=
  ⟨hBus, h.epOut, h.epIn, h.length, h.leftover⟩

omit [UsbBus B] in
theorem Alike.withBus (h : Alike p q) {t t' : Traced B} (hBus : t = t') :
    Alike { p with bus := t } { q with bus := t' } :=
  ⟨h.toLevel.withBus hBus, h.state, h.stage⟩

omit [UsbBus B] in
theorem Level.alike_of_spare (h : Level p q) {state : ControlState} (hSpare : Spare state) :
    Alike { p with state := state } { q with state := state } := by
  refine ⟨⟨h.bus, h.epOut, h.epIn, h.length, h.leftover⟩, rfl, ?_⟩
  cases state <;> trivial

omit [UsbBus B] in
/-- A leftover takes the place of both buffers or of none. -/
theorem Level.inBuffer_cases (h : Level p q) :
    (p.staticInBuf = none ∧ q.staticInBuf = none) ∨
      ∃ data data', p.staticInBuf = some data ∧ q.staticInBuf = some data' ∧
        data.take p.answerLimit = data'.take p.answerLimit := by
  have hLeftover := h.leftover
  cases hp : p.staticInBuf <;> cases hq : q.staticInBuf <;> rw [hp, hq] at hLeftover
  · exact .inl ⟨rfl, rfl⟩
  · exact hLeftover.elim
  · exact hLeftover.elim
  · exact .inr ⟨_, _, rfl, rfl, hLeftover⟩

theorem Level.asked (h : Level p q) (len : Nat) : Level (p.asked len) (q.asked len) :=
  h.withBus (by rw [h.bus, h.epOut])

theorem Alike.asked (h : Alike p q) (len : Nat) : Alike (p.asked len) (q.asked len) :=
  h.withBus (by rw [h.bus, h.epOut])

theorem Alike.offered (h : Alike p q) (data : List UInt8) :
    Alike (p.offered data) (q.offered data) :=
  h.withBus (by rw [h.bus, h.epIn])

theorem Level.errored (h : Level p q) : Alike p.errored q.errored :=
  ⟨⟨by simp only [ControlPipe.errored, h.bus, h.epOut, h.epIn], h.epOut, h.epIn, h.length,
    h.leftover⟩, rfl, trivial⟩

theorem Level.loaded (h : Level p q) {start : Nat} {packet : List UInt8}
    (hFits : start + packet.length ≤ p.buf.length) :
    Level (p.loaded start packet) (q.loaded start packet) := by
  have hp : (p.loaded start packet).buf.length = p.buf.length := length_overwrite hFits
  have hq : (q.loaded start packet).buf.length = q.buf.length :=
    length_overwrite (h.length ▸ hFits)
  have hLimit : (p.loaded start packet).answerLimit = p.answerLimit :=
    congrArg (min · 65535) hp
  refine ⟨?_, h.epOut, h.epIn, hp.trans (h.length.trans hq.symm), ?_⟩
  · simp only [ControlPipe.loaded, ControlPipe.asked, h.bus, h.epOut, h.length]
  · rw [hLimit]
    exact h.leftover

theorem Alike.loaded (h : Alike p q) {packet : List UInt8} (hFits : packet.length ≤ p.buf.length) :
    Alike (p.loaded 0 packet) (q.loaded 0 packet) := by
  refine ⟨h.toLevel.loaded (by omega), h.state, ?_⟩
  have hOverwrite {n : Nat} (hTake : p.buf.take n = q.buf.take n) :
      (overwrite p.buf 0 packet).take n = (overwrite q.buf 0 packet).take n :=
    take_overwrite_congr packet hTake (Nat.zero_le _) (Nat.zero_le _)
  have hLength : (overwrite p.buf 0 packet).length = p.buf.length := length_overwrite (by omega)
  have hStage := h.stage
  unfold SameStage at hStage ⊢
  change match p.state with | .dataIn => _ | .dataOut _ => _ | .completeOut => _ | _ => _
  cases hState : p.state <;> rw [hState] at hStage
  case dataIn =>
    refine ⟨hStage.1, hStage.2.1, ?_⟩
    have hBytes := hStage.2.2
    rcases h.inBuffer_cases with ⟨hp, hq⟩ | ⟨data, data', hp, hq, -⟩
    · simp only [inBuffer, ControlPipe.loaded, ControlPipe.asked, hp, hq, Option.getD_none]
        at hBytes ⊢
      exact hOverwrite hBytes
    · simpa only [inBuffer, ControlPipe.loaded, ControlPipe.asked, hp, hq, Option.getD_some]
        using hBytes
  case dataOut req =>
    exact ⟨hStage.1, hStage.2.1, hLength ▸ hStage.2.2.1, hOverwrite hStage.2.2.2⟩
  case completeOut => exact ⟨hStage.1, hOverwrite hStage.2⟩
  all_goals trivial

/-- A SETUP packet that the pipe takes wipes out every difference but the leftover. -/
theorem Level.begun (h : Level p q) {req : Request}
    (hTaken : req.direction = .in_ ∨ req.length.toNat ≤ p.buf.length) :
    (p.begun req).1 = (q.begun req).1 ∧ Alike (p.begun req).2 (q.begun req).2 := by
  have hBus : (p.bus.stalling p.epOut.address false).noting (.setup req) =
      (q.bus.stalling q.epOut.address false).noting (.setup req) := by
    rw [h.bus, h.epOut]
  unfold ControlPipe.begun
  dsimp only
  by_cases hOut : req.direction = .out
  · have hFits : req.length.toNat ≤ p.buf.length :=
      hTaken.resolve_left (by rw [hOut]; exact UsbDirection.noConfusion)
    rw [if_pos hOut, if_pos hOut, if_neg (Nat.not_lt.mpr hFits),
      if_neg (Nat.not_lt.mpr (h.length ▸ hFits))]
    split
    · exact ⟨rfl, ⟨hBus, h.epOut, h.epIn, h.length, h.leftover⟩, rfl, rfl, rfl, Nat.zero_le _, rfl⟩
    · exact ⟨rfl, ⟨hBus, h.epOut, h.epIn, h.length, h.leftover⟩, rfl, rfl, rfl⟩
  · rw [if_neg hOut, if_neg hOut]
    exact ⟨rfl, ⟨hBus, h.epOut, h.epIn, h.length, h.leftover⟩, rfl, trivial⟩

theorem Alike.begun (h : Alike p q) (req : Request) :
    (p.begun req).1 = (q.begun req).1 ∧ Alike (p.begun req).2 (q.begun req).2 := by
  by_cases hTaken : req.direction = .in_ ∨ req.length.toNat ≤ p.buf.length
  · exact h.toLevel.begun hTaken
  · obtain ⟨hOut, hLong⟩ := not_or.mp hTaken
    have hDirection : req.direction = .out := by
      cases hEq : req.direction with
      | out => rfl
      | in_ => exact absurd hEq hOut
    have hPos : 0 < req.length := by
      rw [UInt16.lt_iff_toNat_lt]
      exact Nat.lt_of_le_of_lt (Nat.zero_le _) (Nat.not_le.mp hLong)
    unfold ControlPipe.begun
    dsimp only
    have hLong' : q.buf.length < req.length.toNat := h.length ▸ Nat.not_le.mp hLong
    rw [if_pos hDirection, if_pos hDirection, if_pos hPos, if_pos hPos,
      if_pos (Nat.not_le.mp hLong), if_pos hLong']
    exact ⟨rfl, h.withBus (by rw [h.bus, h.epOut])⟩

variable [UsbBus.Contract B]

theorem agree_handleSetup (h : Alike p q) :
    Agree (fun _ => Alike) (handleSetup p) (handleSetup q) := by
  rw [handleSetup_apply, handleSetup_apply, ← h.bus, ← h.epOut, ← h.length]
  cases hRead : (UsbBus.read p.bus.bus p.epOut.address p.buf.length).1 with
  | error e => exact ⟨rfl, h.asked _⟩
  | ok packet =>
    have hFits := UsbBus.Contract.read_le _ _ _ _ hRead
    dsimp only
    rw [if_neg (Nat.not_lt.mpr hFits), if_neg (Nat.not_lt.mpr hFits)]
    cases Request.parse packet with
    | error e => exact ⟨rfl, h.loaded hFits⟩
    | ok req =>
      obtain ⟨hRequest, hAlike⟩ := (h.loaded hFits).begun req
      exact ⟨congrArg _ hRequest, hAlike⟩

/-- Level pipes send the same chunk. -/
theorem agree_writeInChunk (h : Alike p q) (hState : p.state = .dataIn) :
    Agree (fun _ => Alike) (writeInChunk p) (writeInChunk q) := by
  have hStage := h.stage
  unfold SameStage at hStage
  rw [hState] at hStage
  obtain ⟨hIndex, hLen, hBytes⟩ := hStage
  have hCount : p.chunkLength = q.chunkLength := by
    simp only [chunkLength, hIndex, hLen, h.epIn]
  rw [writeInChunk_apply, writeInChunk_apply, ← h.bus, ← h.epIn, ← hIndex, ← hLen, ← hCount]
  by_cases hOver : p.len < p.i
  · rw [if_pos hOver, if_pos hOver]
    rfl
  · rw [if_neg hOver, if_neg hOver]
    have hStop : p.i + p.chunkLength ≤ p.len := by
      unfold chunkLength
      omega
    rw [← slice?_congr hBytes hStop]
    cases hChunk : slice? p.inBuffer p.i (p.i + p.chunkLength) with
    | none => rfl
    | some chunk =>
      have hOffered := h.offered chunk
      dsimp only
      cases hWrite : (UsbBus.write p.bus.bus p.epIn.address chunk).1 with
      | error e => exact ⟨rfl, hOffered⟩
      | ok written =>
        have hWritten : p.i + written ≤ p.len := by
          have hLe := UsbBus.Contract.write_le _ _ _ _ hWrite
          obtain ⟨-, -, rfl⟩ := slice?_eq_some hChunk
          rw [List.length_take] at hLe
          omega
        dsimp only
        rw [← slice?_congr hBytes hWritten]
        cases slice? p.inBuffer p.i (p.i + written) with
        | none => rfl
        | some part =>
          dsimp only
          rcases Nat.lt_or_ge (p.i + written) p.len with hLt | hGe
          · rw [advanced_of_lt p hLt, advanced_of_lt q (by omega)]
            refine ⟨rfl, ⟨hOffered.bus, h.epOut, h.epIn, h.length, h.leftover⟩, h.state, ?_⟩
            unfold SameStage
            simp only [ControlPipe.offered, hState]
            exact ⟨by rw [hIndex], hLen, hBytes⟩
          · rw [advanced_of_le p hGe, advanced_of_le q (by omega), h.epIn]
            refine ⟨rfl, ⟨hOffered.bus, h.epOut, h.epIn, h.length, trivial⟩, rfl, ?_⟩
            unfold SameStage
            dsimp only
            split <;> first | trivial | (split at * <;> contradiction)

theorem tandem_alike : Tandem (Alike : ControlPipe B → ControlPipe B → Prop) where
  state h := h.state
  epOut h := h.epOut
  epIn h := h.epIn
  asked h := h.asked 0
  offered h _ := h.offered []
  unstalled h := h.withBus (by rw [h.bus, h.epOut])
  errored h := h.toLevel.errored
  spare hSpare h := h.toLevel.alike_of_spare hSpare
  chunk h _ hState := agree_writeInChunk h hState

theorem agree_handleOut (h : Alike p q) :
    Agree (fun _ => Alike) (handleOut p) (handleOut q) := by
  by_cases hData : ∃ req, p.state = .dataOut req
  · obtain ⟨req, hState⟩ := hData
    have hStage := h.stage
    unfold SameStage at hStage
    rw [hState] at hStage
    obtain ⟨hIndex, hLen, hLe, hTake⟩ := hStage
    rw [handleOut_dataOut p hState hLe,
      handleOut_dataOut q (h.state ▸ hState) (hIndex ▸ h.length ▸ hLe), ← h.bus, ← h.epOut,
      ← h.length, ← hIndex, ← hLen]
    cases hRead : (UsbBus.read p.bus.bus p.epOut.address (p.buf.length - p.i)).1 with
    | error e =>
      cases e with
      | wouldBlock => exact ⟨rfl, h.asked _⟩
      | _ => exact ⟨rfl, (h.toLevel.asked _).errored⟩
    | ok packet =>
      have hFits := UsbBus.Contract.read_le _ _ _ _ hRead
      have hRoom : p.i + packet.length ≤ p.buf.length := by omega
      have hLoaded : Level (p.loaded p.i packet) (q.loaded p.i packet) := h.toLevel.loaded hRoom
      have hBytes : (overwrite p.buf p.i packet).take (p.i + packet.length) =
          (overwrite q.buf p.i packet).take (p.i + packet.length) := by
        rw [take_overwrite packet hLe, take_overwrite packet (h.length ▸ hLe), hTake]
      dsimp only
      rw [if_neg (Nat.not_lt.mpr hFits), if_neg (Nat.not_lt.mpr hFits)]
      by_cases hLast : p.len ≤ p.i + packet.length
      · rw [if_pos hLast, if_pos hLast]
        refine ⟨rfl, ⟨hLoaded.bus, h.epOut, h.epIn, hLoaded.length, hLoaded.leftover⟩, rfl, hLen, ?_⟩
        have h := congrArg (List.take p.len) hBytes
        rwa [List.take_take, List.take_take, Nat.min_eq_left hLast] at h
      · rw [if_neg hLast, if_neg hLast]
        refine ⟨rfl, ⟨hLoaded.bus, h.epOut, h.epIn, hLoaded.length, hLoaded.leftover⟩, h.state, ?_⟩
        have hLength : (overwrite p.buf p.i packet).length = p.buf.length := length_overwrite hRoom
        unfold SameStage
        simp only [ControlPipe.loaded, ControlPipe.asked, hState]
        exact ⟨trivial, hLen, hLength ▸ hRoom, hBytes⟩
  · exact tandem_alike.agree_handleOut h (congrArg _ h.bus) (not_exists.mp hData)

theorem agree_acceptInStatic (h : Alike p q) (data : List UInt8) :
    Agree (fun _ => Alike) (acceptInStatic data p) (acceptInStatic data q) := by
  by_cases hState : ∃ req, p.state = .completeIn req
  · obtain ⟨req, hState⟩ := hState
    rw [acceptInStatic_completeIn p hState, acceptInStatic_completeIn q (h.state ▸ hState)]
    exact agree_writeInChunk
      ⟨⟨h.bus, h.epOut, h.epIn, h.length, rfl⟩, rfl, rfl, rfl, rfl⟩ rfl
  · have hNe (req : Request) : p.state ≠ .completeIn req := fun hEq => hState ⟨req, hEq⟩
    rw [acceptInStatic_of_ne p hNe, acceptInStatic_of_ne q (h.state ▸ hNe)]
    exact ⟨rfl, h⟩

omit [UsbBus B] [UsbBus.Contract B] in
theorem Level.started_copy (h : Level p q) {data : List UInt8} (hFits : data.length ≤ p.buf.length)
    (req : Request) :
    Alike (({ p with buf := overwrite p.buf 0 data } : ControlPipe B).started req data.length)
      (({ q with buf := overwrite q.buf 0 data } : ControlPipe B).started req data.length) := by
  have hp : (overwrite p.buf 0 data).length = p.buf.length := length_overwrite (by omega)
  have hq : (overwrite q.buf 0 data).length = q.buf.length :=
    length_overwrite (by rw [← h.length]; omega)
  have hLimit : min data.length req.length.toNat ≤ p.answerLimit := by
    have := req.length.toNat_lt
    unfold answerLimit
    omega
  refine ⟨⟨h.bus, h.epOut, h.epIn, hp.trans (h.length.trans hq.symm), ?_⟩, rfl, rfl, rfl, ?_⟩
  · rw [answerLimit]
    change SameLeftover (min (overwrite p.buf 0 data).length 65535) _ _
    rw [hp]
    exact h.leftover
  · simp only [started, inBuffer]
    rcases h.inBuffer_cases with ⟨hp, hq⟩ | ⟨left, left', hp, hq, hTake⟩
    · rw [hp, hq, Option.getD_none, Option.getD_none]
      have hCopy (buf : List UInt8) : (overwrite buf 0 data).take data.length = data := by
        simpa using take_overwrite data (Nat.zero_le buf.length)
      have hBoth := congrArg (List.take (min data.length req.length.toNat))
        ((hCopy p.buf).trans (hCopy q.buf).symm)
      rwa [List.take_take, List.take_take, Nat.min_eq_left (Nat.min_le_left _ _)] at hBoth
    · rw [hp, hq, Option.getD_some, Option.getD_some]
      have hBoth := congrArg (List.take (min data.length req.length.toNat)) hTake
      rwa [List.take_take, List.take_take, Nat.min_eq_left hLimit] at hBoth

theorem agree_acceptIn_copy (h : Alike p q) (data : List UInt8) :
    Agree (fun _ => Alike) (acceptIn (SliceFn.copy data).run p)
      (acceptIn (SliceFn.copy data).run q) := by
  by_cases hState : ∃ req, p.state = .completeIn req
  · obtain ⟨req, hState⟩ := hState
    rw [acceptIn_completeIn p hState, acceptIn_completeIn q (h.state ▸ hState), SliceFn.copy_run_apply,
      SliceFn.copy_run_apply, ← h.length]
    by_cases hLong : p.buf.length < data.length
    · rw [if_pos hLong, if_pos hLong]
      exact ⟨rfl, h⟩
    · have hFits := Nat.not_lt.mp hLong
      have hp : (overwrite p.buf 0 data).length = p.buf.length := length_overwrite (by omega)
      have hq : (overwrite q.buf 0 data).length = q.buf.length :=
        length_overwrite (by rw [← h.length]; omega)
      rw [if_neg hLong, if_neg hLong]
      dsimp only
      rw [if_neg (by omega), if_neg (by rw [hq, ← h.length]; omega)]
      exact agree_writeInChunk (h.toLevel.started_copy hFits req) rfl
  · have hNe (req : Request) : p.state ≠ .completeIn req := fun hEq => hState ⟨req, hEq⟩
    rw [acceptIn_of_ne p hNe, acceptIn_of_ne q (h.state ▸ hNe)]
    exact ⟨rfl, h⟩

/-- Every stimulus gets the same reply from level pipes, and leaves them level. -/
theorem agree_perform (h : Alike p q) (stimulus : Stimulus) :
    Agree (fun _ => Alike) (stimulus.perform p) (stimulus.perform q) := by
  have hReply {α : Type} {m : PipeM B α} (hm : Agree (fun _ => Alike) (m p) (m q))
      (reply : α → PipeOp.Reply) : Agree (fun _ => Alike)
        ((do let a ← m; pure (reply a) : PipeM B _) p)
        ((do let a ← m; pure (reply a) : PipeM B _) q) :=
    agree_bind hm (fun _ _ _ hAlike => ⟨rfl, hAlike⟩) fun _ _ _ hAlike => hAlike
  cases stimulus with
  | setup => exact hReply (agree_handleSetup h) .request
  | out => exact hReply (agree_handleOut h) .request
  | inComplete => exact hReply (tandem_alike.agree_handleInComplete h (congrArg _ h.bus)) .completed
  | reset => exact ⟨rfl, h.toLevel.alike_of_spare trivial⟩
  | accept data => exact hReply (agree_acceptIn_copy h data) fun _ => .done
  | acceptStatic data => exact hReply (agree_acceptInStatic h data) fun _ => .done
  | acceptOut => exact hReply (tandem_alike.agree_acceptOut h (congrArg _ h.bus)) fun _ => .done
  | reject => exact hReply (tandem_alike.agree_reject h) fun _ => .done
  | readData =>
    simp only [Stimulus.perform, Stimulus.op, PipeOp.perform, bind_apply, get_apply, ← h.state]
    cases hState : p.state with
    | completeOut =>
      have hStage := h.stage
      unfold SameStage at hStage
      rw [hState] at hStage
      simp only [data, bind_apply, get_apply, ← hStage.1, slice?_congr hStage.2 (Nat.le_refl _)]
      cases slice? q.buf 0 p.len with
      | none => rfl
      | some part => exact ⟨rfl, h⟩
    | _ => exact ⟨rfl, h⟩

end Relation

end ControlPipe

end UsbStack
