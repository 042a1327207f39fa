import UsbStack.ControlPipe
import UsbStack.Foundation.Run

/-! # Two pipes in tandem

What a relation between two pipes has to keep, for the operations that move no byte of the buffer to
agree on both.
-/

namespace UsbStack

set_option autoImplicit false

open Foundation Exec

namespace ControlPipe

/-- The states in which no byte of the buffer waits to be sent, filled in or handed out. -/
def Spare : ControlState → Prop
  | .dataIn | .dataOut _ | .completeOut => False
  | _ => True

section Tandem

variable {B : Type} [UsbBus B] {R : ControlPipe B → ControlPipe B → Prop} {p q : ControlPipe B}

structure Tandem (R : ControlPipe B → ControlPipe B → Prop) : Prop where
  state {p q : ControlPipe B} : R p q → p.state = q.state
  epOut {p q : ControlPipe B} : R p q → p.epOut = q.epOut
  epIn {p q : ControlPipe B} : R p q → p.epIn = q.epIn
  asked {p q : ControlPipe B} : R p q → R (p.asked 0) (q.asked 0)
  offered {p q : ControlPipe B} : R p q → p.bus.bus = q.bus.bus → R (p.offered []) (q.offered [])
  unstalled {p q : ControlPipe B} : R p q →
    R { p with bus := p.bus.stalling p.epOut.address false }
      { q with bus := q.bus.stalling q.epOut.address false }
  errored {p q : ControlPipe B} : R p q → R p.errored q.errored
  spare {p q : ControlPipe B} {state : ControlState} : Spare state → R p q →
    R { p with state := state } { q with state := state }
  chunk {p q : ControlPipe B} : R p q → p.bus.bus = q.bus.bus → p.state = .dataIn →
    Agree (fun _ => R) (writeInChunk p) (writeInChunk q)

namespace Tandem

theorem agree_handleOut (hR : Tandem R) (h : R p q) (hBus : p.bus.bus = q.bus.bus)
    (hNot : ∀ req, p.state ≠ .dataOut req) : Agree (fun _ => R) (handleOut p) (handleOut q) := by
  rcases p.state_cases with hState | hState | ⟨req, hState⟩
  · rw [handleOut_inStage p hState, handleOut_inStage q (hR.state h ▸ hState), ← hBus,
      ← hR.epOut h]
    cases (UsbBus.read p.bus.bus p.epOut.address 0).1 with
    | error e => exact ⟨rfl, hR.asked h⟩
    | ok packet => exact ⟨rfl, hR.spare trivial (hR.asked h)⟩
  · rw [handleOut_unexpecting p hState, handleOut_unexpecting q (hR.state h ▸ hState), ← hBus,
      ← hR.epOut h]
    cases (UsbBus.read p.bus.bus p.epOut.address 0).1 with
    | error e => exact ⟨rfl, hR.asked h⟩
    | ok packet => exact ⟨rfl, hR.errored (hR.asked h)⟩
  · exact absurd hState (hNot req)

theorem agree_handleInComplete (hR : Tandem R) (h : R p q) (hBus : p.bus.bus = q.bus.bus) :
    Agree (fun _ => R) (handleInComplete p) (handleInComplete q) := by
  cases hState : p.state with
  | dataIn =>
    rw [handleInComplete_dataIn p hState, handleInComplete_dataIn q (hR.state h ▸ hState)]
    have hWrite := hR.chunk h hBus hState
    cases hp : writeInChunk p <;> cases hq : writeInChunk q <;> rw [hp, hq] at hWrite
    · rename_i r p' r' q'
      obtain ⟨rfl, hRelated⟩ := hWrite
      cases r <;> exact ⟨rfl, hRelated⟩
    · exact hWrite.elim
    · exact hWrite.elim
    · exact hWrite
  | dataInZlp =>
    rw [handleInComplete_dataInZlp p hState, handleInComplete_dataInZlp q (hR.state h ▸ hState),
      ← hBus, ← hR.epIn h]
    have hOffered := hR.offered h hBus
    cases (UsbBus.write p.bus.bus p.epIn.address []).1 with
    | error e => exact ⟨rfl, hOffered⟩
    | ok written => exact ⟨rfl, hR.spare trivial hOffered⟩
  | dataInLast =>
    rw [handleInComplete_dataInLast p hState, handleInComplete_dataInLast q (hR.state h ▸ hState)]
    exact ⟨rfl, hR.spare (show Spare .statusOut from trivial) (hR.unstalled h)⟩
  | statusIn =>
    rw [handleInComplete_statusIn p hState, handleInComplete_statusIn q (hR.state h ▸ hState)]
    exact ⟨rfl, hR.spare trivial h⟩
  | idle | completeIn req | statusOut | completeOut | dataOut req | error =>
    have hStage : Unsending p.state := by
      rw [hState]
      trivial
    rw [handleInComplete_unsending p hStage, handleInComplete_unsending q (hR.state h ▸ hStage)]
    exact ⟨rfl, h⟩

theorem agree_acceptOut (hR : Tandem R) (h : R p q) (hBus : p.bus.bus = q.bus.bus) :
    Agree (fun _ => R) (acceptOut p) (acceptOut q) := by
  by_cases hState : p.state = .completeOut
  · rw [acceptOut_completeOut p hState, acceptOut_completeOut q (hR.state h ▸ hState), ← hBus,
      ← hR.epIn h]
    have hOffered := hR.offered h hBus
    cases (UsbBus.write p.bus.bus p.epIn.address []).1 with
    | error e => exact ⟨rfl, hOffered⟩
    | ok written => exact ⟨rfl, hR.spare trivial hOffered⟩
  · rw [acceptOut_of_ne p hState, acceptOut_of_ne q (hR.state h ▸ hState)]
    exact ⟨rfl, h⟩

theorem agree_reject (hR : Tandem R) (h : R p q) : Agree (fun _ => R) (reject p) (reject q) := by
  have hWaiting : p.waitingForResponse = q.waitingForResponse := by
    unfold waitingForResponse
    rw [hR.state h]
  rw [reject_apply, reject_apply, ← hWaiting]
  by_cases hWait : p.waitingForResponse = true
  · rw [if_pos hWait, if_pos hWait]
    exact ⟨rfl, hR.errored h⟩
  · rw [if_neg hWait, if_neg hWait]
    exact ⟨rfl, h⟩

end Tandem

end Tandem

end ControlPipe

end UsbStack
