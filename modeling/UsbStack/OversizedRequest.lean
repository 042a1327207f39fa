import UsbStack.OutStage
import UsbStack.PipeSteps

/-! # An OUT request that does not fit the buffer

The pipe drops such a request without a change of state, so that the packets behind it are met in
the state that the transfer before it left. Which states refuse the first of them, and what the
pipe does with all that follow, is the subject here.
-/

namespace UsbStack

set_option autoImplicit false

open Foundation Exec

variable {B : Type} [UsbBus B]

namespace ControlPipe

variable {p q : ControlPipe B}

def IndexInside (p : ControlPipe B) : Prop := ∀ req, p.state = .dataOut req → p.i ≤ p.buf.length

omit [UsbBus B] in
theorem NotReceiving.indexInside (h : p.NotReceiving) : p.IndexInside := by
  intro req hState
  unfold NotReceiving at h
  rw [hState] at h
  exact h.elim

omit [UsbBus B] in
theorem notReceiving_or_dataOut (p : ControlPipe B) :
    p.NotReceiving ∨ ∃ req, p.state = .dataOut req := by
  unfold NotReceiving
  cases p.state with
  | dataOut req => exact .inr ⟨req, rfl⟩
  | _ => exact .inl trivial

theorem length_loaded_zero {packet : List UInt8} (hFits : packet.length ≤ p.buf.length) :
    (p.loaded 0 packet).buf.length = p.buf.length := by
  have hPacket : 0 + packet.length ≤ p.buf.length := by omega
  exact length_overwrite hPacket

theorem Receives.indexInside {epSetup : UInt16} {found : Option Request}
    (h : Receives epSetup p found q) (hp : p.IndexInside) : q.IndexInside := by
  cases h with
  | nothing => exact hp
  | unread len => exact hp
  | unparsed packet hFits =>
    intro req hState
    rw [length_loaded_zero hFits]
    exact hp req hState
  | setup packet req _ _ hFits _ =>
    intro req' hState
    rcases (p.loaded 0 packet).begun_cases req with
      ⟨-, hBegun⟩ | ⟨-, hBegun⟩ | ⟨-, hBegun⟩ | ⟨-, hBegun⟩ <;> rw [hBegun] at hState ⊢
    · rw [length_loaded_zero hFits]
      exact hp req' hState
    · exact Nat.zero_le _
    · cases hState
    · cases hState
  | more req packet _ hFits =>
    intro _ _
    change p.i + packet.length ≤ (p.loaded p.i packet).buf.length
    rw [(frame_loaded hFits).length]
    exact hFits
  | failed req len _ => exact NotReceiving.indexInside trivial
  | complete req packet _ _ => exact NotReceiving.indexInside trivial
  | status _ => exact NotReceiving.indexInside trivial
  | unexpected _ => exact NotReceiving.indexInside trivial

/-- Every operation keeps the index inside the buffer. -/
theorem post_perform_indexInside (op : PipeOp) (h : p.IndexInside) :
    Post True op.perform (fun _ q => q.IndexInside) p := by
  rcases p.notReceiving_or_dataOut with hNot | ⟨req, hState⟩
  · by_cases hOp : op = .handleSetup
    · rw [hOp, PipeOp.perform, post_bind, post_true_iff]
      intro r q hDone
      have hBit : (1 : UInt16) &&& 1 ≠ 0 := by decide
      obtain ⟨found, rfl, hReceives⟩ := receives_of_handleSetup hBit hDone
      exact hReceives.indexInside h
    · exact (post_perform_notReceiving hOp hNot).mono fun _ _ hq => hq.1.indexInside
  · have hReceive {m : PipeM B (Option Request)} (hm : ∀ r q, m p = .done r q → q.IndexInside) :
        Post True (do let req ← m; pure (PipeOp.Reply.request req)) (fun _ q => q.IndexInside) p := by
      rw [post_bind, post_true_iff]
      intro r q hDone
      cases r <;> exact hm _ q hDone
    cases op with
    | handleSetup =>
      apply hReceive
      intro r q hDone
      have hBit : (1 : UInt16) &&& 1 ≠ 0 := by decide
      obtain ⟨found, -, hReceives⟩ := receives_of_handleSetup hBit hDone
      exact hReceives.indexInside h
    | handleOut =>
      apply hReceive
      intro r q hDone
      rcases receives_of_handleOut 1 hDone with ⟨found, -, hReceives⟩ | ⟨-, hReceives⟩
      · exact hReceives.indexInside h
      · exact hReceives.indexInside h
    | handleInComplete =>
      rw [PipeOp.perform, post_bind]
      unfold Post
      rw [handleInComplete_unsending p (by rw [hState]; trivial)]
      exact h
    | acceptIn f =>
      rw [PipeOp.perform, post_bind]
      unfold Post
      rw [acceptIn_of_ne p (by simp [hState])]
      exact h
    | acceptInStatic data =>
      rw [PipeOp.perform, post_bind]
      unfold Post
      rw [acceptInStatic_of_ne p (by simp [hState])]
      exact h
    | acceptOut =>
      rw [PipeOp.perform, post_bind]
      unfold Post
      rw [acceptOut_of_ne p (by simp [hState])]
      exact h
    | reject =>
      rw [PipeOp.perform, post_bind]
      unfold Post
      rw [reject_apply, if_neg (by simp [waitingForResponse, hState])]
      exact h
    | reset => exact NotReceiving.indexInside trivial
    | readData =>
      simp only [PipeOp.perform, post_bind, post_get, hState]
      exact h

theorem Reachable.indexInside (h : p.Reachable) : p.IndexInside := by
  obtain ⟨bus, buf, epOut, epIn, hReaches⟩ := h
  refine hReaches.invariant (NotReceiving.indexInside trivial) ?_
  rintro ⟨bus', op⟩ s hs
  exact post_perform_indexInside (p := s.withBus bus') op hs

end ControlPipe

/-- `bytes` wait on an endpoint, and a read that has no room for them fails. -/
def Offers (bus : B) (addr : EndpointAddress) (bytes : List UInt8) : Prop :=
  ∀ len, (UsbBus.read bus addr len).1 =
    if bytes.length ≤ len then .ok bytes else .error .bufferOverflow

/-- An event on endpoint 0 and the bus as the hardware left it. -/
inductive Ep0Event (B : Type) where
  | packet (bus : B) (bytes : List UInt8)
  | inComplete (bus : B)

namespace Ep0Event

def perform : Ep0Event B → PipeM B (Option Request)
  | packet bus _ => onHardware bus ControlPipe.handleOut
  | inComplete bus => onHardware bus do
    let _ ← ControlPipe.handleInComplete
    pure none

def Honest (addr : EndpointAddress) : Ep0Event B → Prop
  | packet bus bytes => Offers bus addr bytes
  | inComplete _ => True

def firstPacket : List (Ep0Event B) → Option (List UInt8)
  | [] => none
  | packet _ bytes :: _ => some bytes
  | inComplete _ :: rest => firstPacket rest

omit [UsbBus B] in
theorem firstPacket_of_prefix {before events : List (Ep0Event B)} {bytes : List UInt8}
    (hBefore : before <+: events) (h : firstPacket before = some bytes) :
    firstPacket events = some bytes := by
  obtain ⟨after, rfl⟩ := hBefore
  induction before with
  | nil => cases h
  | cons event rest ih =>
    cases event with
    | packet bus bytes' => exact h
    | inComplete bus => exact ih h

end Ep0Event

namespace ControlPipe

variable {p q : ControlPipe B}

structure Shut (p : ControlPipe B) : Prop where
  state : p.state = .error
  epOut : stalled p.epOut.address p.bus.trace = true
  epIn : stalled p.epIn.address p.bus.trace = true

/-- No event hands out a request, and with the first packet the pipe shuts for good. -/
structure RefusedCleanly (events : List (Ep0Event B)) (p : ControlPipe B) : Prop where
  silent : ∀ r, .ok r ∈ outputs Ep0Event.perform events p → r.toOption.join = none
  shut : ∀ before, before <+: events → Ep0Event.firstPacket before ≠ none →
    ∃ q, finalState Ep0Event.perform before p = some q ∧ q.Shut

/-- An earlier request has no room for the packet, or no packet is due and this one is empty. -/
def Rejects (p : ControlPipe B) (bytes : List UInt8) : Prop :=
  match p.state with
  | .dataOut _ => p.buf.length - p.i < bytes.length
  | .dataIn | .dataInZlp | .dataInLast | .statusOut => False
  | .idle | .completeIn _ | .completeOut | .statusIn | .error => bytes = []

omit [UsbBus B] in
theorem not_rejects_of_inStage (hState : InStage p.state) (bytes : List UInt8) :
    ¬ p.Rejects bytes := by
  unfold Rejects
  cases h : p.state <;> rw [h] at hState <;> first | exact id | exact hState.elim

omit [UsbBus B] in
theorem rejects_of_unexpecting (hState : Unexpecting p.state) (bytes : List UInt8) :
    p.Rejects bytes ↔ bytes = [] := by
  unfold Rejects
  cases h : p.state <;> rw [h] at hState <;> first | exact Iff.rfl | exact hState.elim

omit [UsbBus B] in
theorem inStage_of_transmits {state : ControlState} (h : Transmits state) : InStage state := by
  cases state <;> trivial

theorem shut_errored (p : ControlPipe B) : p.errored.Shut :=
  ⟨rfl, p.stalled_errored.1, p.stalled_errored.2⟩

section Step

variable {bytes : List UInt8}

theorem read_zero (hOffers : Offers p.bus.bus p.epOut.address bytes) :
    (UsbBus.read p.bus.bus p.epOut.address 0).1 =
      if bytes = [] then .ok bytes else .error .bufferOverflow := by
  rw [hOffers 0]
  simp only [Nat.le_zero, List.length_eq_zero_iff]

theorem handleOut_rejected (hInside : p.IndexInside)
    (hOffers : Offers p.bus.bus p.epOut.address bytes) (h : p.Rejects bytes) :
    ∃ q, handleOut p = .done (.ok none) q ∧ q.Shut ∧ q.epOut = p.epOut := by
  rcases p.state_cases with hState | hState | ⟨req, hState⟩
  · exact absurd h (not_rejects_of_inStage hState bytes)
  · rw [handleOut_unexpecting p hState, read_zero hOffers,
      if_pos ((rejects_of_unexpecting hState bytes).mp h)]
    exact ⟨_, rfl, shut_errored _, rfl⟩
  · have hLong : p.buf.length - p.i < bytes.length := by simpa only [Rejects, hState] using h
    rw [handleOut_dataOut p hState (hInside req hState), hOffers, if_neg (Nat.not_le.mpr hLong)]
    exact ⟨_, rfl, shut_errored _, rfl⟩

/-- A packet that is not rejected leaves the pipe open, or EP0-OUT without its stall. -/
theorem handleOut_not_shut (hInside : p.IndexInside)
    (hOpen : stalled p.epOut.address p.bus.trace = false)
    (hOffers : Offers p.bus.bus p.epOut.address bytes) (h : ¬ p.Rejects bytes)
    {r : Except UsbError (Option Request)} (hDone : handleOut p = .done r q) : ¬ q.Shut := by
  intro hShut
  rcases p.state_cases with hState | hState | ⟨req, hState⟩
  · rw [handleOut_inStage p hState] at hDone
    split at hDone
    · cases hDone
      exact ControlState.noConfusion hShut.state
    · cases hDone
      have hError : p.state = .error := hShut.state
      rw [hError] at hState
      exact hState
  · rw [handleOut_unexpecting p hState, read_zero hOffers,
      if_neg (mt (rejects_of_unexpecting hState bytes).mpr h)] at hDone
    cases hDone
    have hStalled : stalled p.epOut.address (p.bus.trace ++ _) = true := hShut.epOut
    rw [stalled, List.foldl_append] at hStalled
    exact absurd (hOpen.symm.trans hStalled) (by decide)
  · have hRoom : ¬ p.buf.length - p.i < bytes.length := by simpa only [Rejects, hState] using h
    rw [handleOut_dataOut p hState (hInside req hState), hOffers,
      if_pos (Nat.not_lt.mp hRoom)] at hDone
    dsimp only at hDone
    rw [if_neg hRoom] at hDone
    split at hDone
    · cases hDone
      exact ControlState.noConfusion hShut.state
    · cases hDone
      have hError : p.state = .error := hShut.state
      rw [hError] at hState
      cases hState

theorem Shut.handleOut (h : p.Shut) (hOffers : Offers p.bus.bus p.epOut.address bytes) :
    ∃ r q, ControlPipe.handleOut p = .done r q ∧ r.toOption.join = none ∧ q.Shut ∧
      q.epOut = p.epOut := by
  have hState : Unexpecting p.state := by
    rw [h.state]
    trivial
  rw [handleOut_unexpecting p hState, read_zero hOffers]
  by_cases hEmpty : bytes = []
  · rw [if_pos hEmpty]
    exact ⟨_, _, rfl, rfl, shut_errored _, rfl⟩
  · rw [if_neg hEmpty]
    refine ⟨_, _, rfl, rfl, ⟨h.state, ?_, ?_⟩, rfl⟩
    · change stalled p.epOut.address (p.bus.trace ++ _) = true
      rw [stalled, List.foldl_append]
      exact h.epOut
    · change stalled p.epIn.address (p.bus.trace ++ _) = true
      rw [stalled, List.foldl_append]
      exact h.epIn

theorem Completes.rejects {r : Except UsbError Bool} (h : Completes p r q) (bytes : List UInt8) :
    q.Rejects bytes ↔ p.Rejects bytes := by
  cases h with
  | ignored _ => exact Iff.rfl
  | transmitted hState hSent _ =>
    have hp := not_rejects_of_inStage (inStage_of_transmits hState) bytes
    have hq := not_rejects_of_inStage (inStage_of_transmits hSent.state) bytes
    exact ⟨fun hRejects => (hq hRejects).elim, fun hRejects => (hp hRejects).elim⟩
  | last hState =>
    rw [Rejects, Rejects, hState]
  | status hState =>
    rw [Rejects, Rejects, hState]

theorem Completes.indexInside {r : Except UsbError Bool} (h : Completes p r q)
    (hp : p.IndexInside) : q.IndexInside := by
  cases h with
  | ignored _ => exact hp
  | transmitted _ hSent _ =>
    apply NotReceiving.indexInside
    have hState := inStage_of_transmits hSent.state
    unfold NotReceiving
    cases hq : q.state with
    | dataOut req =>
      rw [hq] at hState
      exact hState
    | _ => trivial
  | last _ => exact NotReceiving.indexInside trivial
  | status _ => exact NotReceiving.indexInside trivial

theorem Completes.open_ {r : Except UsbError Bool} (h : Completes p r q)
    (hOpen : stalled p.epOut.address p.bus.trace = false) :
    stalled q.epOut.address q.bus.trace = false := by
  cases h with
  | ignored _ => exact hOpen
  | transmitted _ hSent _ =>
    obtain ⟨chunk, hBus⟩ := hSent.bus
    rw [hSent.epOut, hBus, Traced.trace_writing, stalled, List.foldl_append]
    exact hOpen
  | last _ =>
    change stalled p.epOut.address (p.bus.trace ++ [.setStalled p.epOut.address false]) = false
    rw [stalled_append_setStalled, if_pos rfl]
  | status _ => exact hOpen

theorem handleInComplete_panic {reason : Panic} (h : handleInComplete p = .panic reason)
    (bytes : List UInt8) : ¬ p.Rejects bytes := by
  cases hState : p.state with
  | dataIn | dataInZlp | dataInLast | statusOut =>
    apply not_rejects_of_inStage
    rw [hState]
    trivial
  | statusIn =>
    rw [handleInComplete_statusIn p hState] at h
    cases h
  | idle | completeIn req | completeOut | dataOut req | error =>
    rw [handleInComplete_unsending p (by rw [hState]; trivial)] at h
    cases h

theorem Shut.handleInComplete (h : p.Shut) :
    ControlPipe.handleInComplete p = .done (.ok false) p := by
  apply handleInComplete_unsending
  rw [h.state]
  trivial

end Step

section Run

variable {event : Ep0Event B} {events rest : List (Ep0Event B)}

theorem inComplete_done {bus : B} {r : Except UsbError (Option Request)}
    (h : (Ep0Event.inComplete bus).perform p = .done r q) :
    r.toOption.join = none ∧ ∃ r', Completes (p.withBus bus) r' q := by
  rw [Ep0Event.perform, onHardware_apply, bind_apply] at h
  split at h
  · cases h
    exact ⟨rfl, _, completes_of_handleInComplete ‹_›⟩
  · cases h
    exact ⟨rfl, _, completes_of_handleInComplete ‹_›⟩
  · cases h

theorem Shut.perform (h : p.Shut) (hHonest : event.Honest p.epOut.address) :
    ∃ r q, event.perform p = .done r q ∧ r.toOption.join = none ∧ q.Shut ∧ q.epOut = p.epOut := by
  have hBus (bus : B) : (p.withBus bus).Shut := ⟨h.state, h.epOut, h.epIn⟩
  cases event with
  | packet bus bytes => exact (hBus bus).handleOut hHonest
  | inComplete bus =>
    refine ⟨.ok none, _, ?_, rfl, hBus bus, rfl⟩
    rw [Ep0Event.perform, onHardware_apply, bind_of_ok (hBus bus).handleInComplete]
    rfl

/-- A pipe that is shut stays shut, whatever else comes. -/
theorem Shut.run (h : p.Shut) (hEvents : ∀ event ∈ events, event.Honest p.epOut.address) :
    (∀ r, .ok r ∈ outputs Ep0Event.perform events p → r.toOption.join = none) ∧
      ∀ before, before <+: events →
        ∃ q, finalState Ep0Event.perform before p = some q ∧ q.Shut := by
  induction events generalizing p with
  | nil =>
    constructor
    · intro r hr
      cases hr
    · intro before hBefore
      rw [List.prefix_nil.mp hBefore]
      exact ⟨p, rfl, h⟩
  | cons event rest ih =>
    obtain ⟨r, q, hDone, hNone, hShut, hAddr⟩ := h.perform (hEvents event List.mem_cons_self)
    obtain ⟨hSilent, hStays⟩ := ih hShut fun later hLater => by
      rw [hAddr]
      exact hEvents later (List.mem_cons_of_mem _ hLater)
    constructor
    · intro r' hr
      rw [outputs_cons hDone] at hr
      rcases List.mem_cons.mp hr with hr | hr
      · cases hr
        exact hNone
      · exact hSilent r' hr
    · intro before hBefore
      rcases List.prefix_cons_iff.mp hBefore with rfl | ⟨later, rfl, hLater⟩
      · exact ⟨p, rfl, h⟩
      · obtain ⟨t, hFinal, ht⟩ := hStays later hLater
        exact ⟨t, (finalState_cons hDone later).trans hFinal, ht⟩

theorem refusedCleanly_nil (p : ControlPipe B) : p.RefusedCleanly [] := by
  constructor
  · intro r hr
    cases hr
  · intro before hBefore hPacket
    rw [List.prefix_nil.mp hBefore] at hPacket
    exact absurd rfl hPacket

/-- Where the first event behind the request is a packet. -/
theorem refusedCleanly_packet_iff {bus : B} {bytes : List UInt8} (hInside : p.IndexInside)
    (hOpen : stalled p.epOut.address p.bus.trace = false)
    (hEvents : ∀ event ∈ .packet bus bytes :: rest, event.Honest p.epOut.address) :
    p.RefusedCleanly (.packet bus bytes :: rest) ↔ p.Rejects bytes := by
  have hOffers : Offers bus p.epOut.address bytes := hEvents _ List.mem_cons_self
  constructor
  · intro h
    by_contra hRejects
    obtain ⟨q, hFinal, hShut⟩ := h.shut [.packet bus bytes] (by simp)
      (Option.some_ne_none bytes)
    rw [finalState] at hFinal
    split at hFinal
    · rename_i hDone
      cases hFinal
      exact handleOut_not_shut (p := p.withBus bus) hInside hOpen hOffers hRejects hDone hShut
    · cases hFinal
  · intro h
    obtain ⟨q, hDone, hShut, hAddr⟩ :=
      handleOut_rejected (p := p.withBus bus) hInside hOffers h
    have hStep : (Ep0Event.packet bus bytes).perform p = .done (.ok none) q := hDone
    have hRest : ∀ event ∈ rest, event.Honest q.epOut.address := by
      intro later hLater
      rw [hAddr]
      exact hEvents later (List.mem_cons_of_mem _ hLater)
    obtain ⟨hSilent, hStays⟩ := hShut.run hRest
    constructor
    · intro r hr
      rw [outputs_cons hStep] at hr
      rcases List.mem_cons.mp hr with hr | hr
      · cases hr
        rfl
      · exact hSilent r hr
    · intro before hBefore hPacket
      rcases List.prefix_cons_iff.mp hBefore with rfl | ⟨later, rfl, hLater⟩
      · exact absurd rfl hPacket
      · obtain ⟨t, hFinal, ht⟩ := hStays later hLater
        exact ⟨t, (finalState_cons hStep later).trans hFinal, ht⟩

theorem refusedCleanly_inComplete_iff {bus : B} {r : Except UsbError (Option Request)}
    (hDone : (Ep0Event.inComplete bus).perform p = .done r q) :
    p.RefusedCleanly (.inComplete bus :: rest) ↔ q.RefusedCleanly rest := by
  constructor
  · intro h
    constructor
    · intro r' hr
      exact h.silent r' (by rw [outputs_cons hDone]; exact List.mem_cons_of_mem _ hr)
    · intro before hBefore hPacket
      obtain ⟨t, hFinal, ht⟩ := h.shut (.inComplete bus :: before)
        (List.prefix_cons_iff.mpr (.inr ⟨before, rfl, hBefore⟩)) hPacket
      exact ⟨t, (finalState_cons hDone before).symm.trans hFinal, ht⟩
  · intro h
    constructor
    · intro r' hr
      rw [outputs_cons hDone] at hr
      rcases List.mem_cons.mp hr with hr | hr
      · cases hr
        exact (inComplete_done hDone).1
      · exact h.silent r' hr
    · intro before hBefore hPacket
      rcases List.prefix_cons_iff.mp hBefore with rfl | ⟨later, rfl, hLater⟩
      · exact absurd rfl hPacket
      · obtain ⟨t, hFinal, ht⟩ := h.shut later hLater hPacket
        exact ⟨t, (finalState_cons hDone later).trans hFinal, ht⟩

/-- The first packet decides, whatever comes before it. -/
theorem refusedCleanly_iff (hInside : p.IndexInside)
    (hOpen : stalled p.epOut.address p.bus.trace = false)
    (hEvents : ∀ event ∈ events, event.Honest p.epOut.address) :
    p.RefusedCleanly events ↔
      ∀ bytes, Ep0Event.firstPacket events = some bytes → p.Rejects bytes := by
  induction events generalizing p with
  | nil =>
    constructor
    · intro _ bytes hFirst
      cases hFirst
    · intro _
      exact refusedCleanly_nil p
  | cons event rest ih =>
    cases event with
    | packet bus bytes =>
      rw [refusedCleanly_packet_iff hInside hOpen hEvents]
      constructor
      · intro h bytes' hFirst
        cases hFirst
        exact h
      · intro h
        exact h bytes rfl
    | inComplete bus =>
      rw [Ep0Event.firstPacket]
      cases hStep : (Ep0Event.inComplete bus).perform p with
      | panic reason =>
        have hNot (bytes : List UInt8) : ¬ p.Rejects bytes := by
          rw [Ep0Event.perform, onHardware_apply] at hStep
          rcases of_bind_panic hStep with hPanic | ⟨a, t, -, hPure⟩
          · exact handleInComplete_panic (p := p.withBus bus) hPanic bytes
          · cases hPure
        constructor
        · intro h bytes hFirst
          obtain ⟨q, hFinal, -⟩ := h.shut (.inComplete bus :: rest) List.prefix_rfl
            (by rw [Ep0Event.firstPacket, hFirst]; exact Option.some_ne_none bytes)
          rw [finalState, hStep] at hFinal
          cases hFinal
        · intro h
          constructor
          · intro r hr
            rw [outputs, hStep] at hr
            rcases List.mem_singleton.mp hr with ⟨⟩
          · intro before hBefore hPacket
            rcases List.prefix_cons_iff.mp hBefore with rfl | ⟨later, rfl, hLater⟩
            · exact absurd rfl hPacket
            · obtain ⟨bytes, hFirst⟩ := Option.ne_none_iff_exists'.mp hPacket
              exact (hNot bytes (h bytes (Ep0Event.firstPacket_of_prefix hLater hFirst))).elim
      | done r q =>
        obtain ⟨-, r', hCompletes⟩ := inComplete_done hStep
        have hAddr : q.epOut = p.epOut := hCompletes.frame.epOut
        rw [refusedCleanly_inComplete_iff hStep,
          ih (hCompletes.indexInside hInside) (hCompletes.open_ hOpen) fun later hLater => by
            rw [hAddr]
            exact hEvents later (List.mem_cons_of_mem _ hLater)]
        exact forall₂_congr fun bytes _ => hCompletes.rejects bytes

end Run

section Request

variable {bus : B} {packet : List UInt8} {req : Request}

/-- An oversized request leaves the pipe in its state and lifts the stall of EP0-OUT. -/
theorem handleSetup_oversized (hOffers : Offers bus p.epOut.address packet)
    (hParse : Request.parse packet = .ok req) (hOut : req.direction = .out)
    (hOver : p.buf.length < req.length.toNat) (hBuf : 8 ≤ p.buf.length) :
    ∃ q, onHardware bus handleSetup p = .done (.ok none) q ∧ q.state = p.state ∧ q.i = p.i ∧
      q.buf.length = p.buf.length ∧ q.epOut = p.epOut ∧
      stalled q.epOut.address q.bus.trace = false := by
  have hFits : packet.length ≤ p.buf.length := by
    rw [Request.length_of_parse hParse]
    exact hBuf
  have hLength : ((p.withBus bus).loaded 0 packet).buf.length = p.buf.length :=
    length_loaded_zero (p := p.withBus bus) hFits
  have hPos : 0 < req.length := by
    have hNat : 0 < req.length.toNat := by omega
    exact UInt16.lt_iff_toNat_lt.mpr hNat
  have hRead : (UsbBus.read (p.withBus bus).bus.bus (p.withBus bus).epOut.address
      (p.withBus bus).buf.length).1 = .ok packet := (hOffers p.buf.length).trans (if_pos hFits)
  rw [onHardware_apply, handleSetup_apply, hRead]
  dsimp only
  rw [if_neg (show ¬ (p.withBus bus).buf.length < packet.length from Nat.not_lt.mpr hFits), hParse]
  dsimp only
  unfold begun
  dsimp only
  rw [if_pos hOut, if_pos hPos, hLength, if_pos hOver]
  refine ⟨_, rfl, rfl, rfl, hLength, rfl, ?_⟩
  change stalled p.epOut.address (_ ++ [.setStalled p.epOut.address false]) = false
  rw [stalled_append_setStalled, if_pos rfl]

/-- The first packet on EP0-OUT behind the request is refused with everything that follows, exactly
when the state before the request rejects it. -/
theorem oversizedRequest_refused_iff (hReachable : p.Reachable)
    (hOffers : Offers bus p.epOut.address packet) (hParse : Request.parse packet = .ok req)
    (hOut : req.direction = .out) (hOver : p.buf.length < req.length.toNat)
    (hBuf : 8 ≤ p.buf.length) :
    ∃ q, onHardware bus handleSetup p = .done (.ok none) q ∧
      ∀ events : List (Ep0Event B), (∀ event ∈ events, event.Honest p.epOut.address) →
        (q.RefusedCleanly events ↔
          ∀ bytes, Ep0Event.firstPacket events = some bytes → p.Rejects bytes) := by
  obtain ⟨q, hSetup, hState, hIndex, hLength, hAddr, hOpen⟩ :=
    handleSetup_oversized hOffers hParse hOut hOver hBuf
  refine ⟨q, hSetup, ?_⟩
  intro events hEvents
  have hInside : q.IndexInside := by
    intro req' hData
    rw [hIndex, hLength]
    exact hReachable.indexInside req' (hState.symm.trans hData)
  have hRejects (bytes : List UInt8) : q.Rejects bytes ↔ p.Rejects bytes := by
    unfold Rejects
    rw [hState, hIndex, hLength]
  rw [refusedCleanly_iff hInside hOpen (hAddr ▸ hEvents)]
  exact forall₂_congr fun bytes _ => hRejects bytes

end Request

end ControlPipe

theorem offers_ofReads (packet : List UInt8) (addr : EndpointAddress) :
    Offers (ScriptBus.ofReads [.ok packet]) addr packet := by
  intro len
  rw [ScriptBus.read_cons rfl]

namespace ControlPipe

def smallPipe : ControlPipe ScriptBus :=
  new ⟨.ofReads [], []⟩ (List.replicate 8 0) (.control .out 8) (.control .in_ 8)

theorem reachable_smallPipe : smallPipe.Reachable := ⟨_, _, _, _, .refl⟩

def nineBytes : Request := ⟨.out, .vendor, .device, 1, 0, 0, 9⟩

/-- An empty packet is refused. -/
theorem oversizedRequest_refused_empty : ∃ q,
    onHardware (.ofReads [.ok [0x40, 1, 0, 0, 0, 0, 9, 0]]) handleSetup smallPipe =
      .done (.ok none) q ∧ q.RefusedCleanly [.packet (.ofReads [.ok []]) []] := by
  have hParse : Request.parse [0x40, 1, 0, 0, 0, 0, 9, 0] = .ok nineBytes := rfl
  obtain ⟨q, hSetup, hIff⟩ := oversizedRequest_refused_iff reachable_smallPipe
    (offers_ofReads [0x40, 1, 0, 0, 0, 0, 9, 0] _) hParse rfl (by decide) (by decide)
  refine ⟨q, hSetup, (hIff [.packet (.ofReads [.ok []]) []] ?_).mpr ?_⟩
  · intro event hEvent
    rw [List.mem_singleton.mp hEvent]
    exact offers_ofReads [] _
  · intro bytes hFirst
    cases hFirst
    rfl

/-- The read that should discard a packet of one byte fails, and the pipe is not stalled. -/
theorem not_forall_refusedCleanly :
    ¬ ∀ (p : ControlPipe ScriptBus) (bus : ScriptBus) (packet : List UInt8) (req : Request)
      (events : List (Ep0Event ScriptBus)), p.Reachable → Offers bus p.epOut.address packet →
      Request.parse packet = .ok req → req.direction = .out → p.buf.length < req.length.toNat →
      8 ≤ p.buf.length → (∀ event ∈ events, event.Honest p.epOut.address) →
      ∃ q, onHardware bus handleSetup p = .done (.ok none) q ∧ q.RefusedCleanly events := by
  intro h
  obtain ⟨q, hSetup, hRefused⟩ := h smallPipe (.ofReads [.ok [0x40, 1, 0, 0, 0, 0, 9, 0]])
    [0x40, 1, 0, 0, 0, 0, 9, 0] nineBytes [.packet (.ofReads [.ok [1]]) [1]] reachable_smallPipe
    (offers_ofReads _ _) rfl rfl (by decide) (by decide) (by
      intro event hEvent
      rw [List.mem_singleton.mp hEvent]
      exact offers_ofReads [1] _)
  obtain ⟨t, hFinal, hShut⟩ := hRefused.shut _ List.prefix_rfl (Option.some_ne_none [1])
  cases hSetup
  cases hFinal
  exact ControlState.noConfusion hShut.state

end ControlPipe

end UsbStack
