import UsbStack.DescriptorTandem
import UsbStack.PipeFreshness

/-! # Couplings of two pipes

What a relation between two pipes has to keep, for two devices that differ in nothing else to give the
same results. Pipes that are alike keep it, and so does one pipe on two buses.
-/

namespace UsbStack

set_option autoImplicit false

open Foundation Exec

variable {B α : Type}

namespace Traced

/-- The drivers are the same, and what happens is recorded on both sides. -/
structure Coupled (T : Traced B → Traced B → Prop) : Prop where
  sameBus {t u : Traced B} : T t u → t.bus = u.bus
  next {t u : Traced B} (b : B) (events : List Event) : T t u →
    T ⟨b, t.trace ++ events⟩ ⟨b, u.trace ++ events⟩

def recalling (past : List Event) (t : Traced B) : Traced B := ⟨t.bus, past ++ t.trace⟩

def Recalls (past : List Event) (t u : Traced B) : Prop := u = t.recalling past

theorem coupled_eq : Coupled (Eq : Traced B → Traced B → Prop) where
  sameBus h := congrArg _ h
  next b events h := by rw [h]

theorem coupled_recalls (past : List Event) : Coupled (Recalls (B := B) past) where
  sameBus := by
    rintro t _ rfl
    rfl
  next := by
    rintro t _ b events rfl
    exact congrArg _ (List.append_assoc past t.trace events)

namespace Coupled

variable {T : Traced B → Traced B → Prop}

theorem lockstep_command (h : Coupled T) (f : B → B) (event : Event) :
    Lockstep T (command f event) := by
  intro t u hT
  refine ⟨rfl, ?_⟩
  change T ⟨f t.bus, _⟩ ⟨f u.bus, _⟩
  rw [h.sameBus hT]
  exact h.next _ [event] hT

variable [UsbBus B]

theorem lockstep_setStalled (h : Coupled T) (addr : EndpointAddress) (stalled : Bool) :
    Lockstep T (setStalled addr stalled) := h.lockstep_command _ _

theorem lockstep_isStalled (h : Coupled T) (addr : EndpointAddress) :
    Lockstep T (isStalled addr) :=
  fun _ _ hT => ⟨congrArg (fun b => Except.ok (UsbBus.isStalled b addr)) (h.sameBus hT), hT⟩

theorem lockstep_read (h : Coupled T) (addr : EndpointAddress) (len : Nat) :
    Lockstep T (read addr len) := by
  intro t u hT
  rw [read_apply, read_apply, reading, reading, h.sameBus hT]
  exact ⟨rfl, h.next _ _ hT⟩

theorem lockstep_write (h : Coupled T) (addr : EndpointAddress) (data : List UInt8) :
    Lockstep T (write addr data) := by
  intro t u hT
  rw [write_apply, write_apply, writing, writing, h.sameBus hT]
  exact ⟨rfl, h.next _ _ hT⟩

theorem lockstep_poll (h : Coupled T) : Lockstep T (poll : BusM B PollResult) := by
  intro t u hT
  have hApply (t : Traced B) : (poll t : Outcome Panic UsbError _ _) =
      .done (.ok (UsbBus.poll t.bus).1)
        ⟨(UsbBus.poll t.bus).2, t.trace ++ [.poll (UsbBus.poll t.bus).1]⟩ := rfl
  rw [hApply, hApply, h.sameBus hT]
  exact ⟨rfl, h.next _ _ hT⟩

/-- A class has no other access to the bus than its endpoints. -/
theorem lockstep_run (h : Coupled T) (m : ClassM α) : Lockstep T m.run := by
  refine Program.lockstep_interp (fun call => ?_) Panic.foreign m
  cases call with
  | read ep len => exact lockstep_attempt (h.lockstep_read _ len)
  | write ep data => exact lockstep_attempt (h.lockstep_write _ data)
  | stall ep => exact h.lockstep_setStalled _ true
  | unstall ep => exact h.lockstep_setStalled _ false

end Coupled

end Traced

namespace ControlPipe

section Coupled

variable [UsbBus B]

/-- `T` relates the buses of the pipes that `R` relates. The callbacks that satisfy `P` may be used on
both pipes. -/
structure Coupled (T : Traced B → Traced B → Prop) (R : ControlPipe B → ControlPipe B → Prop)
    (P : SliceFn → Prop) : Prop extends toBus : Traced.Coupled T where
  bus {p q : ControlPipe B} : R p q → T p.bus q.bus
  withBus {p q : ControlPipe B} {t u : Traced B} : R p q → T t u →
    R { p with bus := t } { q with bus := u }
  state {p q : ControlPipe B} : R p q → p.state = q.state
  idle {p q : ControlPipe B} : R p q → R { p with state := .idle } { q with state := .idle }
  data {p q : ControlPipe B} : R p q → p.state = .completeOut →
    Agree (fun _ p' q' => R p' q' ∧ p'.state = .completeOut) (data p) (data q)
  handleSetup : Lockstep R handleSetup
  handleOut : Lockstep R handleOut
  handleInComplete : Lockstep R handleInComplete
  copy (data : List UInt8) : P (.copy data)
  acceptIn {f : SliceFn} : P f → Lockstep R (acceptIn f.run)
  acceptInStatic (data : List UInt8) : Lockstep R (acceptInStatic data)
  acceptOut : Lockstep R acceptOut
  reject : Lockstep R reject

variable {T : Traced B → Traced B → Prop} {R : ControlPipe B → ControlPipe B → Prop}
  {P : SliceFn → Prop}

theorem Coupled.lockstep_onBus (h : Coupled T R P) {m : BusM B α} (hm : Lockstep T m) :
    Lockstep R (onBus m) :=
  lockstep_zoom hm (fun _ _ hR => h.bus hR) fun _ _ _ _ hR hT => h.withBus hR hT

theorem Coupled.waiting (h : Coupled T R P) {p q : ControlPipe B} (hR : R p q) :
    p.waitingForResponse = q.waitingForResponse := by
  unfold waitingForResponse
  rw [h.state hR]

end Coupled

section Alike

variable {p q : ControlPipe B}

/-- What is sent from a buffer that both pipes have filled alike. -/
theorem Level.started_of_take (h : Level p q) {out out' : List UInt8} {count : Nat}
    (hOut : out.length = p.buf.length) (hOut' : out'.length = q.buf.length)
    (hCount : count ≤ out.length) (hTake : out'.take count = out.take count) (req : Request) :
    Alike (({ p with buf := out } : ControlPipe B).started req count)
      (({ q with buf := out' } : ControlPipe B).started req count) := by
  have hLimit : min count req.length.toNat ≤ p.answerLimit := by
    have := req.length.toNat_lt
    unfold answerLimit
    omega
  refine ⟨⟨h.bus, h.epOut, h.epIn, hOut.trans (h.length.trans hOut'.symm), ?_⟩, rfl, rfl, rfl, ?_⟩
  · rw [answerLimit]
    change SameLeftover (min out.length 65535) _ _
    rw [hOut]
    exact h.leftover
  · simp only [started, inBuffer]
    rcases h.inBuffer_cases with ⟨hp, hq⟩ | ⟨left, left', hp, hq, hLeft⟩
    · rw [hp, hq, Option.getD_none, Option.getD_none]
      have hBoth := congrArg (List.take (min count req.length.toNat)) hTake.symm
      rwa [List.take_take, List.take_take, Nat.min_eq_left (Nat.min_le_left _ _)] at hBoth
    · rw [hp, hq, Option.getD_some, Option.getD_some]
      have hBoth := congrArg (List.take (min count req.length.toNat)) hLeft
      rwa [List.take_take, List.take_take, Nat.min_eq_left hLimit] at hBoth

theorem Alike.agree_data (h : Alike p q) (hState : p.state = .completeOut) :
    Agree (fun _ p' q' => Alike p' q' ∧ p'.state = .completeOut) (data p) (data q) := by
  have hStage := h.stage
  unfold SameStage at hStage
  rw [hState] at hStage
  rw [data, bind_apply, get_apply, bind_apply, get_apply]
  dsimp only
  rw [← hStage.1, ← slice?_congr hStage.2 (Nat.le_refl _)]
  cases slice? p.buf 0 p.len with
  | none => exact rfl
  | some part => exact ⟨rfl, h, hState⟩

variable [UsbBus B] [UsbBus.Contract B]

theorem Alike.agree_acceptIn (h : Alike p q) {f : SliceFn} (hf : f.Blind) :
    Agree (fun _ => Alike) (acceptIn f.run p) (acceptIn f.run q) := by
  by_cases hState : ∃ req, p.state = .completeIn req
  · obtain ⟨req, hState⟩ := hState
    rw [acceptIn_completeIn p hState, acceptIn_completeIn q (h.state ▸ hState)]
    have hAgree := hf p.buf q.buf h.length.symm
    cases hp : f.run p.buf <;> cases hq : f.run q.buf <;> rw [hp, hq] at hAgree
    · rename_i r out r' out'
      obtain ⟨rfl, hSame⟩ := hAgree
      have hOut : out.length = p.buf.length := f.length_eq.of_done hp
      have hOut' : out'.length = q.buf.length := f.length_eq.of_done hq
      cases r with
      | error e =>
        refine ⟨rfl, ⟨h.bus, h.epOut, h.epIn, hOut.trans (h.length.trans hOut'.symm), ?_⟩, h.state, ?_⟩
        · change SameLeftover (min out.length 65535) _ _
          rw [hOut]
          exact h.leftover
        · unfold SameStage
          dsimp only
          rw [hState]
          trivial
      | ok count =>
        obtain ⟨hCount, hTake⟩ := hSame count rfl
        dsimp only
        rw [if_neg (Nat.not_lt.mpr hCount),
          if_neg (Nat.not_lt.mpr (by rw [hOut', ← h.length, ← hOut]; exact hCount))]
        exact agree_writeInChunk (h.toLevel.started_of_take hOut hOut' hCount hTake req) rfl
    · exact hAgree.elim
    · exact hAgree.elim
    · exact hAgree
  · have hNe (req : Request) : p.state ≠ .completeIn req := fun hEq => hState ⟨req, hEq⟩
    rw [acceptIn_of_ne p hNe, acceptIn_of_ne q (h.state ▸ hNe)]
    exact ⟨rfl, h⟩

theorem coupled_alike : Coupled Eq (Alike : ControlPipe B → ControlPipe B → Prop) SliceFn.Blind where
  toBus := Traced.coupled_eq
  bus h := h.bus
  withBus h hBus := h.withBus hBus
  state h := h.state
  idle h := h.toLevel.alike_of_spare trivial
  data h hState := h.agree_data hState
  handleSetup _ _ h := agree_handleSetup h
  handleOut _ _ h := agree_handleOut h
  handleInComplete _ _ h := tandem_alike.agree_handleInComplete h (congrArg _ h.bus)
  copy := SliceFn.blind_copy
  acceptIn hf _ _ h := h.agree_acceptIn hf
  acceptInStatic data _ _ h := agree_acceptInStatic h data
  acceptOut _ _ h := tandem_alike.agree_acceptOut h (congrArg _ h.bus)
  reject _ _ h := tandem_alike.agree_reject h

end Alike

/-- `q` is `p` on a bus that `T` relates to the bus of `p`. -/
def Rebased (T : Traced B → Traced B → Prop) (p q : ControlPipe B) : Prop :=
  ∃ u, T p.bus u ∧ q = { p with bus := u }

section Rebased

variable {T : Traced B → Traced B → Prop}

theorem lockstep_modify_rebased {f : ControlPipe B → ControlPipe B} (hBus : ∀ p, (f p).bus = p.bus)
    (hf : ∀ p u, f { p with bus := u } = { f p with bus := u }) :
    Lockstep (Rebased T) (modify f : PipeM B Unit) := by
  refine lockstep_modify ?_
  rintro p _ ⟨u, hu, rfl⟩
  exact ⟨u, (hBus p).symm ▸ hu, hf p u⟩

theorem lockstep_get_rebased {k : ControlPipe B → PipeM B α}
    (hSame : ∀ p u, k { p with bus := u } = k p) (hk : ∀ p, Lockstep (Rebased T) (k p)) :
    Lockstep (Rebased T) (get >>= k) := by
  refine lockstep_get_bind ?_ hk
  rintro p _ ⟨u, -, rfl⟩
  exact (hSame p u).symm

theorem lockstep_onBus_rebased {m : BusM B α} (hm : Lockstep T m) :
    Lockstep (Rebased T) (onBus m) := by
  refine lockstep_zoom hm ?_ ?_
  · rintro p _ ⟨u, hu, rfl⟩
    exact hu
  · rintro p _ t t' ⟨u, -, rfl⟩ ht
    exact ⟨t', ht, rfl⟩

theorem lockstep_setState_rebased (state : ControlState) :
    Lockstep (Rebased T) (setState state : PipeM B Unit) :=
  lockstep_modify_rebased (fun _ => rfl) fun _ _ => rfl

theorem lockstep_note_rebased (hT : Traced.Coupled T) (event : Event) :
    Lockstep (Rebased T) (onBus (Traced.note event) : PipeM B Unit) :=
  lockstep_onBus_rebased (hT.lockstep_command _ _)

variable [UsbBus B]

theorem lockstep_setStalled_rebased (hT : Traced.Coupled T) (addr : EndpointAddress)
    (stalled : Bool) :
    Lockstep (Rebased T) (onBus (Traced.setStalled addr stalled) : PipeM B Unit) :=
  lockstep_onBus_rebased (hT.lockstep_setStalled _ _)

theorem lockstep_read_rebased (hT : Traced.Coupled T) (addr : EndpointAddress) (len : Nat) :
    Lockstep (Rebased T) (onBus (Traced.read addr len) : PipeM B _) :=
  lockstep_onBus_rebased (hT.lockstep_read _ _)

theorem lockstep_write_rebased (hT : Traced.Coupled T) (addr : EndpointAddress)
    (data : List UInt8) :
    Lockstep (Rebased T) (onBus (Traced.write addr data) : PipeM B _) :=
  lockstep_onBus_rebased (hT.lockstep_write _ _)

theorem lockstep_setError_rebased (hT : Traced.Coupled T) :
    Lockstep (Rebased T) (setError : PipeM B Unit) :=
  lockstep_bind (lockstep_setState_rebased _) fun _ => lockstep_get_rebased (fun _ _ => rfl) fun _ =>
    lockstep_bind (lockstep_setStalled_rebased hT _ _) fun _ => lockstep_setStalled_rebased hT _ _

theorem lockstep_readOut_rebased (hT : Traced.Coupled T) (start : Nat) :
    Lockstep (Rebased T) (readOut start : PipeM B Nat) := by
  refine lockstep_get_rebased (fun _ _ => rfl) fun p => lockstep_ite (lockstep_abort _) ?_
  refine lockstep_bind (lockstep_read_rebased hT _ _) fun packet => ?_
  refine lockstep_ite (lockstep_abort _) ?_
  exact lockstep_bind (lockstep_modify_rebased (fun _ => rfl) fun _ _ => rfl) fun _ => lockstep_pure _

theorem lockstep_readEmpty_rebased (hT : Traced.Coupled T) :
    Lockstep (Rebased T) (readEmpty : PipeM B Unit) :=
  lockstep_get_rebased (fun _ _ => rfl) fun _ =>
    lockstep_bind (lockstep_read_rebased hT _ _) fun _ => lockstep_pure ()

theorem lockstep_handleSetup_rebased (hT : Traced.Coupled T) :
    Lockstep (Rebased T) (handleSetup : PipeM B _) := by
  have hTaken (req : Request) {f : ControlPipe B → ControlPipe B} (found : Option Request)
      (hBus : ∀ p, (f p).bus = p.bus) (hf : ∀ p u, f { p with bus := u } = { f p with bus := u }) :
      Lockstep (Rebased T) (do
        onBus (Traced.note (.setup req))
        modify f
        pure found : PipeM B (Option Request)) :=
    lockstep_bind (lockstep_note_rebased hT _) fun _ =>
      lockstep_bind (lockstep_modify_rebased hBus hf) fun _ => lockstep_pure _
  refine lockstep_bind (lockstep_attempt (lockstep_readOut_rebased hT 0)) fun r => ?_
  cases r with
  | error e => exact lockstep_pure none
  | ok count =>
    refine lockstep_get_rebased (fun _ _ => rfl) fun p => ?_
    cases Request.parse (p.buf.take count) with
    | error e => exact lockstep_pure none
    | ok req =>
      refine lockstep_bind (lockstep_setStalled_rebased hT _ _) fun _ => lockstep_ite ?_ ?_
      · refine lockstep_ite (lockstep_ite (lockstep_pure none) ?_) ?_
        · exact hTaken req none (fun _ => rfl) fun _ _ => rfl
        · exact hTaken req (some req) (fun _ => rfl) fun _ _ => rfl
      · exact hTaken req (some req) (fun _ => rfl) fun _ _ => rfl

theorem lockstep_handleOut_rebased (hT : Traced.Coupled T) :
    Lockstep (Rebased T) (handleOut : PipeM B _) := by
  have hEmpty {m : PipeM B Unit} (hm : Lockstep (Rebased T) m) :
      Lockstep (Rebased T) (do
        readEmpty
        m
        pure none : PipeM B (Option Request)) :=
    lockstep_bind (lockstep_readEmpty_rebased hT) fun _ =>
      lockstep_bind hm fun _ => lockstep_pure none
  refine lockstep_get_rebased (fun _ _ => rfl) fun p => ?_
  cases p.state with
  | dataOut req =>
    refine lockstep_bind (lockstep_attempt (lockstep_readOut_rebased hT _)) fun r => ?_
    cases r with
    | ok count =>
      refine lockstep_bind (lockstep_modify_rebased (fun _ => rfl) fun _ _ => rfl) fun _ =>
        lockstep_ite ?_ ?_
      · exact lockstep_bind (lockstep_setState_rebased _) fun _ => lockstep_pure _
      · exact lockstep_pure none
    | error e =>
      cases e with
      | wouldBlock => exact lockstep_pure none
      | _ => exact lockstep_bind (lockstep_setError_rebased hT) fun _ => lockstep_pure none
  | dataIn | dataInLast | dataInZlp | statusOut => exact hEmpty (lockstep_setState_rebased _)
  | idle | completeIn req | completeOut | statusIn | error =>
    exact hEmpty (lockstep_setError_rebased hT)

theorem lockstep_writeInChunk_rebased (hT : Traced.Coupled T) :
    Lockstep (Rebased T) (writeInChunk : PipeM B Unit) := by
  refine lockstep_get_rebased (fun _ _ => rfl) fun p => lockstep_ite (lockstep_abort _) ?_
  refine lockstep_bind (lockstep_ofOption _ _) fun chunk => ?_
  refine lockstep_bind (lockstep_write_rebased hT _ _) fun written => ?_
  refine lockstep_bind (lockstep_ofOption _ _) fun _ => ?_
  refine lockstep_bind (lockstep_modify_rebased (fun _ => rfl) fun _ _ => rfl) fun _ => ?_
  exact lockstep_ite (lockstep_modify_rebased (fun _ => rfl) fun _ _ => rfl) (lockstep_pure ())

theorem lockstep_handleInComplete_rebased (hT : Traced.Coupled T) :
    Lockstep (Rebased T) (handleInComplete : PipeM B Bool) := by
  refine lockstep_get_rebased (fun _ _ => rfl) fun p => ?_
  cases p.state with
  | dataIn => exact lockstep_bind (lockstep_writeInChunk_rebased hT) fun _ => lockstep_pure _
  | dataInZlp =>
    exact lockstep_bind (lockstep_write_rebased hT _ _) fun _ =>
      lockstep_bind (lockstep_setState_rebased _) fun _ => lockstep_pure _
  | dataInLast =>
    exact lockstep_bind (lockstep_setStalled_rebased hT _ _) fun _ =>
      lockstep_bind (lockstep_setState_rebased _) fun _ => lockstep_pure _
  | statusIn => exact lockstep_bind (lockstep_setState_rebased _) fun _ => lockstep_pure _
  | idle | completeIn req | statusOut | completeOut | dataOut req | error => exact lockstep_pure false

theorem lockstep_startInTransfer_rebased (hT : Traced.Coupled T) (req : Request) (dataLen : Nat) :
    Lockstep (Rebased T) (startInTransfer req dataLen : PipeM B Unit) :=
  lockstep_bind (lockstep_modify_rebased (fun _ => rfl) fun _ _ => rfl)
    fun _ => lockstep_writeInChunk_rebased hT

theorem lockstep_acceptIn_rebased (hT : Traced.Coupled T)
    (f : Exec Panic UsbError (List UInt8) Nat) :
    Lockstep (Rebased T) (acceptIn f : PipeM B Unit) := by
  refine lockstep_get_rebased (fun _ _ => rfl) fun p => ?_
  cases p.state with
  | completeIn req =>
    have hFilled : Lockstep (Rebased T)
        (zoom buf (fun b p => { p with buf := b }) f : PipeM B Nat) := by
      refine lockstep_zoom_eq f ?_ ?_
      · rintro p _ ⟨u, -, rfl⟩
        rfl
      · rintro p _ b ⟨u, hu, rfl⟩
        exact ⟨u, hu, rfl⟩
    refine lockstep_bind hFilled fun len => lockstep_get_rebased (fun _ _ => rfl) fun p' => ?_
    exact lockstep_ite (lockstep_bind (lockstep_setError_rebased hT) fun _ => lockstep_fail _)
      (lockstep_startInTransfer_rebased hT req len)
  | _ => exact lockstep_fail _

theorem lockstep_acceptInStatic_rebased (hT : Traced.Coupled T) (data : List UInt8) :
    Lockstep (Rebased T) (acceptInStatic data : PipeM B Unit) := by
  refine lockstep_get_rebased (fun _ _ => rfl) fun p => ?_
  cases p.state with
  | completeIn req =>
    exact lockstep_bind (lockstep_modify_rebased (fun _ => rfl) fun _ _ => rfl)
      fun _ => lockstep_startInTransfer_rebased hT req data.length
  | _ => exact lockstep_fail _

theorem lockstep_acceptOut_rebased (hT : Traced.Coupled T) :
    Lockstep (Rebased T) (acceptOut : PipeM B Unit) := by
  refine lockstep_get_rebased (fun _ _ => rfl) fun p => ?_
  cases p.state with
  | completeOut =>
    exact lockstep_bind (lockstep_write_rebased hT _ _) fun _ => lockstep_setState_rebased _
  | _ => exact lockstep_fail _

/-- No operation of the pipe depends on what the bus has recorded. -/
theorem coupled_rebased (hT : Traced.Coupled T) : Coupled T (Rebased T) fun _ => True where
  toBus := hT
  bus := by
    rintro p _ ⟨u, hu, rfl⟩
    exact hu
  withBus := by
    rintro p _ t t' ⟨u, -, rfl⟩ ht
    exact ⟨t', ht, rfl⟩
  state := by
    rintro p _ ⟨u, -, rfl⟩
    rfl
  idle := by
    rintro p _ ⟨u, hu, rfl⟩
    exact ⟨u, hu, rfl⟩
  data := by
    rintro p _ ⟨u, hu, rfl⟩ hState
    rw [data_apply, data_apply]
    dsimp only
    cases slice? p.buf 0 p.len with
    | none => exact rfl
    | some part => exact ⟨rfl, ⟨u, hu, rfl⟩, hState⟩
  handleSetup := lockstep_handleSetup_rebased hT
  handleOut := lockstep_handleOut_rebased hT
  handleInComplete := lockstep_handleInComplete_rebased hT
  copy _ := trivial
  acceptIn _ := lockstep_acceptIn_rebased hT _
  acceptInStatic := lockstep_acceptInStatic_rebased hT
  acceptOut := lockstep_acceptOut_rebased hT
  reject := lockstep_get_rebased (fun _ _ => rfl) fun _ =>
    lockstep_ite (lockstep_setError_rebased hT) (lockstep_fail _)

end Rebased

end ControlPipe

end UsbStack
