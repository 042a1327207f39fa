import UsbStack.Device

/-! # What a call on the pipe can do

One relation for each group of calls: the answers to an IN request, the acceptance of an OUT
request, the packets that arrive on EP0-OUT and the completion of a packet on EP0-IN. A relation
names every course that a call takes, so that a property of the pipe is checked course by course.
-/

namespace UsbStack

set_option autoImplicit false

open Foundation Exec

variable {B : Type} [UsbBus B]

namespace ControlPipe

def Transmits : ControlState → Prop
  | .dataIn | .dataInZlp | .dataInLast => True
  | _ => False

structure SameFrame (p q : ControlPipe B) : Prop where
  epOut : q.epOut = p.epOut
  epIn : q.epIn = p.epIn
  length : q.buf.length = p.buf.length

/-- `p` handed a packet to EP0-IN and is in an IN data stage. -/
structure Transmitted (p q : ControlPipe B) : Prop extends SameFrame p q where
  state : Transmits q.state
  bus : ∃ chunk, q.bus = p.bus.writing p.epIn.address chunk

/-- `accept_in`, `accept_in_static` and `reject` -/
inductive AnswersIn (p : ControlPipe B) : ControlPipe B → Prop
  | kept (buf : List UInt8) (hLength : buf.length = p.buf.length) : AnswersIn p { p with buf := buf }
  | errored (buf : List UInt8) (hLength : buf.length = p.buf.length)
      (hWaiting : p.waitingForResponse = true) :
      AnswersIn p ({ p with buf := buf } : ControlPipe B).errored
  | transmitted {q : ControlPipe B} {req : Request} (hState : p.state = .completeIn req)
      (h : Transmitted p q) : AnswersIn p q

/-- `accept_out` -/
inductive AcceptsOut (p : ControlPipe B) : Except UsbError Unit → ControlPipe B → Prop
  | unexpected (hState : p.state ≠ .completeOut) : AcceptsOut p (.error .invalidState) p
  | refused {e : UsbError} (hState : p.state = .completeOut)
      (hWrite : (UsbBus.write p.bus.bus p.epIn.address []).1 = .error e) :
      AcceptsOut p (.error e) (p.offered [])
  | accepted (hState : p.state = .completeOut) :
      AcceptsOut p (.ok ()) { p.offered [] with state := .statusIn }

/-- `handle_setup`, and `handle_out` when the SETUP bit is not set -/
inductive Receives (epSetup : UInt16) (p : ControlPipe B) : Option Request → ControlPipe B → Prop
  | nothing : Receives epSetup p none p
  | unread (len : Nat) : Receives epSetup p none (p.asked len)
  | unparsed (packet : List UInt8) (hFits : packet.length ≤ p.buf.length) :
      Receives epSetup p none (p.loaded 0 packet)
  | setup (packet : List UInt8) (req : Request) (hBit : epSetup &&& 1 ≠ 0)
      (hRead : (UsbBus.read p.bus.bus p.epOut.address p.buf.length).1 = .ok packet)
      (hFits : packet.length ≤ p.buf.length) (hParse : Request.parse packet = .ok req) :
      Receives epSetup p ((p.loaded 0 packet).begun req).1 ((p.loaded 0 packet).begun req).2
  | failed (req : Request) (len : Nat) (hState : p.state = .dataOut req) :
      Receives epSetup p none (p.asked len).errored
  | more (req : Request) (packet : List UInt8) (hState : p.state = .dataOut req)
      (hFits : p.i + packet.length ≤ p.buf.length) :
      Receives epSetup p none { p.loaded p.i packet with i := p.i + packet.length }
  | complete (req : Request) (packet : List UInt8) (hState : p.state = .dataOut req)
      (hFits : p.i + packet.length ≤ p.buf.length) :
      Receives epSetup p (some req)
        { p.loaded p.i packet with i := p.i + packet.length, state := .completeOut }
  | status (hState : InStage p.state) : Receives epSetup p none { p.asked 0 with state := .idle }
  | unexpected (hState : Unexpecting p.state) : Receives epSetup p none (p.asked 0).errored

/-- `handle_in_complete` -/
inductive Completes (p : ControlPipe B) : Except UsbError Bool → ControlPipe B → Prop
  | ignored (hState : Unsending p.state) : Completes p (.ok false) p
  | transmitted {r : Except UsbError Bool} {q : ControlPipe B} (hState : Transmits p.state)
      (h : Transmitted p q) (hr : r ≠ .ok true) : Completes p r q
  | last (hState : p.state = .dataInLast) :
      Completes p (.ok false)
        { p with bus := p.bus.stalling p.epOut.address false, state := .statusOut }
  | status (hState : p.state = .statusIn) : Completes p (.ok true) { p with state := .idle }

variable {p q : ControlPipe B}

omit [UsbBus B] in
theorem SameFrame.trans {s : ControlPipe B} (h : SameFrame p q) (h' : SameFrame q s) :
    SameFrame p s :=
  ⟨h'.epOut.trans h.epOut, h'.epIn.trans h.epIn, h'.length.trans h.length⟩

theorem transmitted_of_writeInChunk {r : Except UsbError Unit} (hState : p.state = .dataIn)
    (h : writeInChunk p = .done r q) : Transmitted p q := by
  rw [writeInChunk_apply] at h
  split at h
  · cases h
  · split at h
    · cases h
    · rename_i chunk _
      split at h
      · cases h
        exact ⟨⟨rfl, rfl, rfl⟩, by rw [offered, hState]; trivial, ⟨chunk, rfl⟩⟩
      · rename_i written _
        split at h
        · cases h
        · cases h
          rcases Nat.lt_or_ge (p.i + written) p.len with hLt | hLe
          · rw [advanced_of_lt p hLt]
            exact ⟨⟨rfl, rfl, rfl⟩, by rw [offered, hState]; trivial, ⟨chunk, rfl⟩⟩
          · rw [advanced_of_le p hLe]
            refine ⟨⟨rfl, rfl, rfl⟩, ?_, ⟨chunk, rfl⟩⟩
            dsimp only
            split <;> trivial

theorem writeInChunk_error {e : UsbError} (h : writeInChunk p = .done (.error e) q) :
    ∃ data, (UsbBus.write p.bus.bus p.epIn.address data).1 = .error e := by
  rw [writeInChunk_apply] at h
  split at h
  · cases h
  · split at h
    · cases h
    · rename_i chunk _
      split at h
      · cases h
        exact ⟨chunk, ‹_›⟩
      · split at h
        · cases h
        · cases h

omit [UsbBus B] in
theorem waiting_of_completeIn {req : Request} (hState : p.state = .completeIn req) :
    p.waitingForResponse = true := p.waitingForResponse_iff.mpr (.inr ⟨req, hState⟩)

theorem answersIn_of_acceptIn {r : Except UsbError Unit} (f : SliceFn)
    (h : acceptIn f.run p = .done r q) : AnswersIn p q := by
  by_cases hState : ∃ req, p.state = .completeIn req
  · obtain ⟨req, hState⟩ := hState
    rw [acceptIn_completeIn p hState] at h
    cases hRun : f.run p.buf with
    | panic reason =>
      rw [hRun] at h
      cases h
    | done r' buf =>
      have hLength : buf.length = p.buf.length := f.length_eq.of_done hRun
      rw [hRun] at h
      cases r' with
      | error e =>
        cases h
        exact .kept buf hLength
      | ok len =>
        dsimp only at h
        split at h
        · cases h
          exact .errored buf hLength (waiting_of_completeIn hState)
        · have hSent := transmitted_of_writeInChunk rfl h
          exact .transmitted hState
            ⟨⟨hSent.epOut, hSent.epIn, hSent.length.trans hLength⟩, hSent.state, hSent.bus⟩
  · rw [acceptIn_of_ne p fun req hReq => hState ⟨req, hReq⟩] at h
    cases h
    exact .kept p.buf rfl

theorem answersIn_of_acceptInStatic {r : Except UsbError Unit} {data : List UInt8}
    (h : acceptInStatic data p = .done r q) : AnswersIn p q := by
  by_cases hState : ∃ req, p.state = .completeIn req
  · obtain ⟨req, hState⟩ := hState
    rw [acceptInStatic_completeIn p hState] at h
    have hSent := transmitted_of_writeInChunk rfl h
    exact .transmitted hState
      ⟨⟨hSent.epOut, hSent.epIn, hSent.length⟩, hSent.state, hSent.bus⟩
  · rw [acceptInStatic_of_ne p fun req hReq => hState ⟨req, hReq⟩] at h
    cases h
    exact .kept p.buf rfl

theorem answersIn_of_reject {r : Except UsbError Unit} (h : reject p = .done r q) :
    AnswersIn p q := by
  rw [reject_apply] at h
  split at h
  · cases h
    exact .errored p.buf rfl ‹_›
  · cases h
    exact .kept p.buf rfl

theorem acceptsOut_of_acceptOut {r : Except UsbError Unit} (h : acceptOut p = .done r q) :
    AcceptsOut p r q := by
  by_cases hState : p.state = .completeOut
  · rw [acceptOut_completeOut p hState] at h
    split at h
    · cases h
      exact .accepted hState
    · cases h
      exact .refused hState ‹_›
  · rw [acceptOut_of_ne p hState] at h
    cases h
    exact .unexpected hState

theorem receives_of_handleSetup {epSetup : UInt16} (hBit : epSetup &&& 1 ≠ 0)
    {r : Except UsbError (Option Request)} (h : handleSetup p = .done r q) :
    ∃ found, r = .ok found ∧ Receives epSetup p found q := by
  rw [handleSetup_apply] at h
  split at h
  · cases h
    exact ⟨none, rfl, .unread _⟩
  · rename_i packet hRead
    split at h
    · cases h
    · rename_i hFits
      split at h
      · cases h
        exact ⟨none, rfl, .unparsed packet (Nat.not_lt.mp hFits)⟩
      · rename_i req hParse
        cases h
        exact ⟨_, rfl, .setup packet req hBit hRead (Nat.not_lt.mp hFits) hParse⟩

theorem receives_of_handleOut (epSetup : UInt16) {r : Except UsbError (Option Request)}
    (h : handleOut p = .done r q) :
    (∃ found, r = .ok found ∧ Receives epSetup p found q) ∨
      ((∃ e, r = .error e) ∧ Receives epSetup p none q) := by
  cases hState : p.state with
  | dataOut req =>
    by_cases hIndex : p.i ≤ p.buf.length
    · rw [handleOut_dataOut p hState hIndex] at h
      split at h
      · cases h
        exact .inl ⟨none, rfl, .unread _⟩
      · cases h
        exact .inl ⟨none, rfl, .failed req _ hState⟩
      · rename_i packet _
        split at h
        · cases h
        · have hFits : p.i + packet.length ≤ p.buf.length := by omega
          split at h
          · cases h
            exact .inl ⟨some req, rfl, .complete req packet hState hFits⟩
          · cases h
            exact .inl ⟨none, rfl, .more req packet hState hFits⟩
    · rw [handleOut_outside p hState (Nat.not_le.mp hIndex)] at h
      cases h
  | dataIn | dataInZlp | dataInLast | statusOut =>
    have hIn : InStage p.state := by
      rw [hState]
      trivial
    rw [handleOut_inStage p hIn] at h
    split at h
    · cases h
      exact .inl ⟨none, rfl, .status hIn⟩
    · cases h
      exact .inr ⟨⟨_, rfl⟩, .unread 0⟩
  | idle | completeIn req | completeOut | statusIn | error =>
    have hOut : Unexpecting p.state := by
      rw [hState]
      trivial
    rw [handleOut_unexpecting p hOut] at h
    split at h
    · cases h
      exact .inl ⟨none, rfl, .unexpected hOut⟩
    · cases h
      exact .inr ⟨⟨_, rfl⟩, .unread 0⟩

/-- All that a packet on EP0-OUT can do to the pipe. -/
theorem receives_of_receive {epOut epSetup : UInt16} {r : Except UsbError (Option Request)}
    (h : Session.receive epOut epSetup p = .done r q) :
    ∃ found, r = .ok found ∧ Receives epSetup p found q := by
  unfold Session.receive at h
  by_cases hBit : epSetup &&& 1 ≠ 0
  · rw [if_pos hBit] at h
    exact receives_of_handleSetup hBit h
  · rw [if_neg hBit] at h
    by_cases hOut : epOut &&& 1 ≠ 0
    · rw [if_pos hOut, bind_apply, attempt_apply] at h
      cases hHandle : handleOut p with
      | panic reason =>
        rw [hHandle] at h
        cases h
      | done r' q' =>
        rw [hHandle] at h
        rcases receives_of_handleOut epSetup hHandle with
          ⟨found, rfl, hReceives⟩ | ⟨⟨e, rfl⟩, hReceives⟩
        · cases h
          exact ⟨found, rfl, hReceives⟩
        · cases h
          exact ⟨none, rfl, hReceives⟩
    · rw [if_neg hOut] at h
      cases h
      exact ⟨none, rfl, .nothing⟩

theorem Receives.of_receive {epOut epSetup : UInt16} {found : Option Request}
    (h : Session.receive epOut epSetup p = .done (.ok found) q) : Receives epSetup p found q := by
  obtain ⟨found', hFound, hReceives⟩ := receives_of_receive h
  cases hFound
  exact hReceives

/-- All that a completion can do to the pipe. -/
theorem completes_of_handleInComplete {r : Except UsbError Bool}
    (h : handleInComplete p = .done r q) : Completes p r q := by
  cases hState : p.state with
  | dataIn =>
    rw [handleInComplete_dataIn p hState] at h
    have hSends : Transmits p.state := by
      rw [hState]
      trivial
    split at h
    · cases h
      exact .transmitted hSends (transmitted_of_writeInChunk hState ‹_›) (by simp)
    · cases h
      exact .transmitted hSends (transmitted_of_writeInChunk hState ‹_›) (by simp)
    · cases h
  | dataInZlp =>
    rw [handleInComplete_dataInZlp p hState] at h
    have hSends : Transmits p.state := by
      rw [hState]
      trivial
    split at h
    · cases h
      exact .transmitted hSends ⟨⟨rfl, rfl, rfl⟩, trivial, [], rfl⟩ (by simp)
    · cases h
      exact .transmitted hSends ⟨⟨rfl, rfl, rfl⟩, hSends, [], rfl⟩ (by simp)
  | dataInLast =>
    rw [handleInComplete_dataInLast p hState] at h
    cases h
    exact .last hState
  | statusIn =>
    rw [handleInComplete_statusIn p hState] at h
    cases h
    exact .status hState
  | idle | completeIn req | statusOut | completeOut | dataOut req | error =>
    have hIgnored : Unsending p.state := by
      rw [hState]
      trivial
    rw [handleInComplete_unsending p hIgnored] at h
    cases h
    exact .ignored hIgnored

def noted (p : ControlPipe B) (req : Request) : Traced B :=
  (p.bus.stalling p.epOut.address false).noting (.setup req)

theorem begun_cases (p : ControlPipe B) (req : Request) :
    (req.direction = .out ∧ p.begun req =
      (none, { p with bus := p.bus.stalling p.epOut.address false })) ∨
    (req.direction = .out ∧ p.begun req =
      (none, { p with bus := p.noted req, i := 0, len := req.length.toNat, state := .dataOut req })) ∨
    (req.direction = .out ∧ p.begun req =
      (some req, { p with bus := p.noted req, len := 0, state := .completeOut })) ∨
    (req.direction = .in_ ∧ p.begun req =
      (some req, { p with bus := p.noted req, state := .completeIn req })) := by
  unfold begun
  cases hDirection : req.direction with
  | in_ => exact .inr (.inr (.inr ⟨rfl, rfl⟩))
  | out =>
    dsimp only
    rw [if_pos rfl]
    split
    · split
      · exact .inl ⟨rfl, rfl⟩
      · exact .inr (.inl ⟨rfl, rfl⟩)
    · exact .inr (.inr (.inl ⟨rfl, rfl⟩))

section Frame

/-- OUT data are awaited only for OUT requests. -/
structure Frame (p q : ControlPipe B) : Prop extends SameFrame p q where
  data : ∀ req, q.state = .dataOut req → p.state = .dataOut req ∨ req.direction = .out

def NoData : ControlState → Prop
  | .dataOut _ => False
  | _ => True

omit [UsbBus B] in
theorem Frame.of_eq (h : SameFrame p q) (hState : q.state = p.state) : Frame p q :=
  ⟨h, fun _ hData => .inl (hState.symm.trans hData)⟩

omit [UsbBus B] in
theorem Frame.of_noData (h : SameFrame p q) (hState : NoData q.state) : Frame p q := by
  refine ⟨h, fun req hData => ?_⟩
  rw [hData] at hState
  exact hState.elim

omit [UsbBus B] in
theorem frame_trans (p q s : ControlPipe B) (h : Frame p q) (h' : Frame q s) : Frame p s := by
  refine ⟨h.toSameFrame.trans h'.toSameFrame, fun req hData => ?_⟩
  rcases h'.data req hData with hBefore | hOut
  · exact h.data req hBefore
  · exact .inr hOut

theorem Transmitted.frame (h : Transmitted p q) : Frame p q := by
  refine .of_noData h.toSameFrame ?_
  have hState := h.state
  cases hSends : q.state with
  | dataOut req =>
    rw [hSends] at hState
    exact hState
  | _ => trivial

theorem AnswersIn.frame (h : AnswersIn p q) : Frame p q := by
  cases h with
  | kept buf hLength => exact .of_eq ⟨rfl, rfl, hLength⟩ rfl
  | errored buf hLength _ => exact .of_noData ⟨rfl, rfl, hLength⟩ trivial
  | transmitted _ h => exact h.frame

theorem AcceptsOut.frame {r : Except UsbError Unit} (h : AcceptsOut p r q) : Frame p q := by
  cases h with
  | unexpected _ => exact .of_eq ⟨rfl, rfl, rfl⟩ rfl
  | refused _ _ => exact .of_eq ⟨rfl, rfl, rfl⟩ rfl
  | accepted _ => exact .of_noData ⟨rfl, rfl, rfl⟩ trivial

theorem Completes.frame {r : Except UsbError Bool} (h : Completes p r q) : Frame p q := by
  cases h with
  | ignored _ => exact .of_eq ⟨rfl, rfl, rfl⟩ rfl
  | transmitted _ h _ => exact h.frame
  | last _ => exact .of_noData ⟨rfl, rfl, rfl⟩ trivial
  | status _ => exact .of_noData ⟨rfl, rfl, rfl⟩ trivial

theorem frame_loaded {start : Nat} {packet : List UInt8}
    (hFits : start + packet.length ≤ p.buf.length) : Frame p (p.loaded start packet) :=
  .of_eq ⟨rfl, rfl, length_overwrite hFits⟩ rfl

theorem frame_begun (p : ControlPipe B) (req : Request) : Frame p (p.begun req).2 := by
  rcases p.begun_cases req with ⟨-, hBegun⟩ | ⟨hOut, hBegun⟩ | ⟨-, hBegun⟩ | ⟨-, hBegun⟩ <;>
    rw [hBegun]
  · exact .of_eq ⟨rfl, rfl, rfl⟩ rfl
  · refine ⟨⟨rfl, rfl, rfl⟩, fun req' hData => .inr ?_⟩
    cases hData
    exact hOut
  · exact .of_noData ⟨rfl, rfl, rfl⟩ trivial
  · exact .of_noData ⟨rfl, rfl, rfl⟩ trivial

theorem Receives.frame {epSetup : UInt16} {found : Option Request}
    (h : Receives epSetup p found q) : Frame p q := by
  cases h with
  | nothing => exact .of_eq ⟨rfl, rfl, rfl⟩ rfl
  | unread len => exact .of_eq ⟨rfl, rfl, rfl⟩ rfl
  | unparsed packet hFits => exact frame_loaded (by omega)
  | setup packet req _ _ hFits _ =>
    exact frame_trans _ _ _ (frame_loaded (by omega)) (frame_begun _ req)
  | failed req len _ => exact .of_noData ⟨rfl, rfl, rfl⟩ trivial
  | more req packet _ hFits => exact .of_eq ⟨rfl, rfl, (frame_loaded hFits).length⟩ rfl
  | complete req packet _ hFits =>
    exact .of_noData ⟨rfl, rfl, (frame_loaded hFits).length⟩ trivial
  | status _ => exact .of_noData ⟨rfl, rfl, rfl⟩ trivial
  | unexpected _ => exact .of_noData ⟨rfl, rfl, rfl⟩ trivial

/-- The pipe waits for the answer to a request that was handed out. -/
theorem Receives.waiting {epSetup : UInt16} {req : Request}
    (hData : ∀ req, p.state = .dataOut req → req.direction = .out)
    (h : Receives epSetup p (some req) q) :
    q.state = .completeOut ∧ req.direction = .out ∨
      q.state = .completeIn req ∧ req.direction = .in_ := by
  generalize hFound : some req = found at h
  cases h with
  | setup packet req' _ _ _ _ =>
    rcases (p.loaded 0 packet).begun_cases req' with
      ⟨-, hBegun⟩ | ⟨-, hBegun⟩ | ⟨hOut, hBegun⟩ | ⟨hIn, hBegun⟩ <;> rw [hBegun] at hFound ⊢
    · cases hFound
    · cases hFound
    · cases hFound
      exact .inl ⟨rfl, hOut⟩
    · cases hFound
      exact .inr ⟨rfl, hIn⟩
  | complete req' packet hState _ =>
    cases hFound
    exact .inl ⟨rfl, hData req hState⟩
  | _ => cases hFound

def TransferEvent : Event → Prop
  | .read _ _ _ | .write _ _ _ | .setStalled _ _ => True
  | _ => False

theorem grows_stalling (t : Traced B) (addr : EndpointAddress) (b : Bool) :
    Traced.Grows TransferEvent t (t.stalling addr b) := Traced.Grows.single rfl trivial

theorem grows_asked (p : ControlPipe B) (len : Nat) :
    Traced.Grows TransferEvent p.bus (p.asked len).bus := Traced.Grows.single rfl trivial

theorem grows_errored (p : ControlPipe B) : Traced.Grows TransferEvent p.bus p.errored.bus :=
  Traced.Grows.trans _ _ _ (grows_stalling _ _ _) (grows_stalling _ _ _)

theorem Transmitted.grows (h : Transmitted p q) : Traced.Grows TransferEvent p.bus q.bus := by
  obtain ⟨chunk, hBus⟩ := h.bus
  rw [hBus]
  exact Traced.Grows.single rfl trivial

theorem AnswersIn.grows (h : AnswersIn p q) : Traced.Grows TransferEvent p.bus q.bus := by
  cases h with
  | kept buf _ => exact .refl _
  | errored buf _ _ => exact grows_errored { p with buf := buf }
  | transmitted _ h => exact h.grows

theorem AcceptsOut.grows {r : Except UsbError Unit} (h : AcceptsOut p r q) :
    Traced.Grows TransferEvent p.bus q.bus := by
  cases h with
  | unexpected _ => exact .refl _
  | refused _ _ => exact Traced.Grows.single rfl trivial
  | accepted _ => exact Traced.Grows.single rfl trivial

theorem Completes.grows {r : Except UsbError Bool} (h : Completes p r q) :
    Traced.Grows TransferEvent p.bus q.bus := by
  cases h with
  | ignored _ => exact .refl _
  | transmitted _ h _ => exact h.grows
  | last _ => exact grows_stalling _ _ _
  | status _ => exact .refl _

def ReceiveEvent : Event → Prop
  | .setup _ => True
  | event => TransferEvent event

theorem receiveEvent_of_transfer {event : Event} (h : TransferEvent event) : ReceiveEvent event := by
  cases event <;> first | exact h | trivial

theorem grows_begun (p : ControlPipe B) (req : Request) :
    Traced.Grows ReceiveEvent p.bus (p.begun req).2.bus := by
  have hUnstalled : Traced.Grows ReceiveEvent p.bus (p.bus.stalling p.epOut.address false) :=
    (grows_stalling _ _ _).mono fun _ => receiveEvent_of_transfer
  have hNoted : Traced.Grows ReceiveEvent p.bus (p.noted req) :=
    Traced.Grows.trans _ _ _ hUnstalled (Traced.Grows.single rfl trivial)
  rcases p.begun_cases req with ⟨-, hBegun⟩ | ⟨-, hBegun⟩ | ⟨-, hBegun⟩ | ⟨-, hBegun⟩ <;>
    rw [hBegun]
  · exact hUnstalled
  · exact hNoted
  · exact hNoted
  · exact hNoted

theorem Receives.grows {epSetup : UInt16} {found : Option Request}
    (h : Receives epSetup p found q) : Traced.Grows ReceiveEvent p.bus q.bus := by
  have hAsked (len : Nat) : Traced.Grows ReceiveEvent p.bus (p.asked len).bus :=
    (grows_asked p len).mono fun _ => receiveEvent_of_transfer
  have hErrored (len : Nat) : Traced.Grows ReceiveEvent p.bus (p.asked len).errored.bus :=
    Traced.Grows.trans _ _ _ (hAsked len)
      ((grows_errored _).mono fun _ => receiveEvent_of_transfer)
  cases h with
  | nothing => exact .refl _
  | unread len => exact hAsked len
  | unparsed packet _ => exact hAsked _
  | setup packet req _ _ _ _ => exact Traced.Grows.trans _ _ _ (hAsked _) (grows_begun _ req)
  | failed req len _ => exact hErrored len
  | more req packet _ _ => exact hAsked _
  | complete req packet _ _ => exact hAsked _
  | status _ => exact hAsked 0
  | unexpected _ => exact hErrored 0

end Frame

end ControlPipe

end UsbStack
