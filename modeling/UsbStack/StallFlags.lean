import UsbStack.DeviceRun

/-! # The STALL condition of endpoint 0

Both directions of endpoint 0 are stalled while the control pipe is in its error state and neither
is in any other state, in every run in which no SETUP packet arrives in the error state.
-/

namespace UsbStack

set_option autoImplicit false

open Foundation Exec

variable {B C : Type}

def ControlState.isError : ControlState → Bool
  | .error => true
  | _ => false

theorem isError_of_ne {state : ControlState} (h : state ≠ .error) : state.isError = false := by
  cases state <;> first | rfl | exact absurd rfl h

theorem isError_of_transmits {state : ControlState} (h : ControlPipe.Transmits state) :
    state.isError = false := by
  cases state <;> first | rfl | exact h.elim

theorem isError_of_inStage {state : ControlState} (h : ControlPipe.InStage state) :
    state.isError = false := by
  cases state <;> first | rfl | exact h.elim

/-- Every packet on EP0-IN was written while that endpoint was not stalled. -/
def WritesUnstalled (trace : List Event) : Prop :=
  ∀ before data result after, trace = before ++ .write (.control .in_) data result :: after →
    stalled (.control .in_) before = false

/-- Both directions of endpoint 0 are stalled if `failed`, and neither is otherwise. -/
structure Flags (trace : List Event) (failed : Bool) : Prop where
  out : stalled (.control .out) trace = failed
  in_ : stalled (.control .in_) trace = failed
  writes : WritesUnstalled trace

def UsbDevice.FlagsFollow (d : UsbDevice B) : Prop :=
  Flags d.control.bus.trace d.control.state.isError

def KeepsFlags : Event → Prop
  | .reset => False
  | .setStalled addr _ | .write addr _ _ => addr.index ≠ 0
  | _ => True

theorem keepsFlags_of_background {event : Event} (h : BackgroundEvent event) : KeepsFlags event := by
  cases event <;> first | exact h | trivial

theorem ne_control_of_index {addr : EndpointAddress} (h : addr.index ≠ 0) (dir : UsbDirection) :
    addr ≠ .control dir := by
  rintro rfl
  exact h (EndpointAddress.index_control dir)

theorem stalled_append (addr : EndpointAddress) (trace : List Event) (event : Event) :
    stalled addr (trace ++ [event]) = match event with
      | .reset => false
      | .setStalled addr' b => if addr' = addr then b else stalled addr trace
      | _ => stalled addr trace := by
  rw [stalled, List.foldl_append]
  rfl

theorem stalled_append_keeps (dir : UsbDirection) (trace : List Event) {event : Event}
    (h : KeepsFlags event) :
    stalled (.control dir) (trace ++ [event]) = stalled (.control dir) trace := by
  rw [stalled_append]
  cases event with
  | reset => exact h.elim
  | setStalled addr b => exact if_neg (ne_control_of_index h dir)
  | _ => rfl

theorem writesUnstalled_append {trace : List Event} {event : Event} (h : WritesUnstalled trace)
    (hEvent : ∀ data result, event = .write (.control .in_) data result →
      stalled (.control .in_) trace = false) : WritesUnstalled (trace ++ [event]) := by
  intro before data result after hSplit
  rcases List.eq_nil_or_concat after with rfl | ⟨rest, last, rfl⟩
  · obtain ⟨rfl, hLast⟩ := List.append_inj' hSplit rfl
    exact hEvent data result (List.singleton_inj.mp hLast)
  · have hInit : trace ++ [event] =
        (before ++ .write (.control .in_) data result :: rest) ++ [last] := by
      rw [hSplit, List.concat_eq_append, List.append_assoc, List.cons_append]
    exact h before data result rest (List.append_inj' hInit rfl).1

namespace Flags

variable {trace : List Event} {failed : Bool}

theorem keeps (h : Flags trace failed) {event : Event} (hEvent : KeepsFlags event) :
    Flags (trace ++ [event]) failed := by
  refine ⟨(stalled_append_keeps _ _ hEvent).trans h.out, (stalled_append_keeps _ _ hEvent).trans h.in_,
    writesUnstalled_append h.writes fun data result hWrite => ?_⟩
  rw [hWrite] at hEvent
  exact absurd (EndpointAddress.index_control .in_) hEvent

theorem grows (h : Flags trace failed) {events : List Event}
    (hEvents : ∀ event ∈ events, KeepsFlags event) : Flags (trace ++ events) failed := by
  induction events generalizing trace with
  | nil =>
    rw [List.append_nil]
    exact h
  | cons event rest ih =>
    rw [List.append_cons]
    exact ih (h.keeps (hEvents event List.mem_cons_self)) fun e he =>
      hEvents e (List.mem_cons_of_mem _ he)

theorem write (h : Flags trace false) (data : List UInt8) (result : Except UsbError Nat) :
    Flags (trace ++ [.write (.control .in_) data result]) false :=
  ⟨(stalled_append _ _ _).trans h.out, (stalled_append _ _ _).trans h.in_,
    writesUnstalled_append h.writes fun _ _ _ => h.in_⟩

theorem unstall (h : Flags trace false) :
    Flags (trace ++ [.setStalled (.control .out) false]) false := by
  refine ⟨?_, ?_, writesUnstalled_append h.writes nofun⟩
  · exact (stalled_append _ _ _).trans (if_pos rfl)
  · exact (stalled_append _ _ _).trans ((if_neg (by decide)).trans h.in_)

theorem stall (h : Flags trace failed) :
    Flags ((trace ++ [.setStalled (.control .out) true]) ++ [.setStalled (.control .in_) true]) true := by
  refine ⟨?_, ?_, writesUnstalled_append (writesUnstalled_append h.writes nofun) nofun⟩
  · refine (stalled_append _ _ _).trans ((if_neg (by decide)).trans ?_)
    exact (stalled_append _ _ _).trans (if_pos rfl)
  · exact (stalled_append _ _ _).trans (if_pos rfl)

theorem reset (h : Flags trace failed) : Flags (trace ++ [.reset]) false :=
  ⟨stalled_append _ _ _, stalled_append _ _ _, writesUnstalled_append h.writes nofun⟩

end Flags

variable [UsbBus B]

/-- A pipe on endpoint 0 with the flags that its state asks for. -/
structure ControlPipe.Flagged (p : ControlPipe B) : Prop where
  epOut : p.epOut.address = .control .out
  epIn : p.epIn.address = .control .in_
  flags : Flags p.bus.trace p.state.isError

namespace ControlPipe.Flagged

variable {p q : ControlPipe B}

theorem errored (h : p.Flagged) : p.errored.Flagged := by
  have hFlags := h.flags.stall
  rw [← h.epOut, ← h.epIn] at hFlags
  exact ⟨h.epOut, h.epIn, hFlags⟩

theorem asked (h : p.Flagged) (len : Nat) : (p.asked len).Flagged :=
  ⟨h.epOut, h.epIn, h.flags.keeps trivial⟩

theorem transmitted (h : p.Flagged) (hState : p.state.isError = false) (hSent : Transmitted p q) :
    q.Flagged := by
  obtain ⟨chunk, hBus⟩ := hSent.bus
  refine ⟨(congrArg _ hSent.epOut).trans h.epOut, (congrArg _ hSent.epIn).trans h.epIn, ?_⟩
  rw [isError_of_transmits hSent.state, hBus, Traced.trace_writing, h.epIn]
  exact (hState ▸ h.flags).write _ _

theorem answersIn (h : p.Flagged) (hAnswers : p.AnswersIn q) : q.Flagged := by
  cases hAnswers with
  | kept buf _ => exact ⟨h.epOut, h.epIn, h.flags⟩
  | errored buf _ _ =>
    exact errored (p := { p with buf := buf }) ⟨h.epOut, h.epIn, h.flags⟩
  | transmitted hState hSent => exact h.transmitted (by rw [hState]; rfl) hSent

theorem offered (h : p.Flagged) (hState : p.state.isError = false) (data : List UInt8)
    {state : ControlState} (hAfter : state.isError = false) :
    ({ p.offered data with state := state } : ControlPipe B).Flagged := by
  refine ⟨h.epOut, h.epIn, ?_⟩
  change Flags (p.bus.writing p.epIn.address data).trace state.isError
  rw [hAfter, Traced.trace_writing, h.epIn]
  exact (hState ▸ h.flags).write _ _

theorem acceptsOut (h : p.Flagged) {r : Except UsbError Unit} (hAccepts : p.AcceptsOut r q) :
    q.Flagged := by
  cases hAccepts with
  | unexpected _ => exact h
  | refused hState _ =>
    have hNot : p.state.isError = false := by rw [hState]; rfl
    exact h.offered hNot [] hNot
  | accepted hState => exact h.offered (by rw [hState]; rfl) [] rfl

theorem unstalled (h : p.Flagged) (hState : p.state.isError = false) {state : ControlState}
    (hAfter : state.isError = false) :
    ({ p with bus := p.bus.stalling p.epOut.address false, state := state } :
      ControlPipe B).Flagged := by
  refine ⟨h.epOut, h.epIn, ?_⟩
  change Flags (p.bus.stalling p.epOut.address false).trace state.isError
  rw [hAfter, Traced.trace_stalling, h.epOut]
  exact (hState ▸ h.flags).unstall

theorem completes (h : p.Flagged) {r : Except UsbError Bool} (hCompletes : p.Completes r q) :
    q.Flagged := by
  cases hCompletes with
  | ignored _ => exact h
  | transmitted hState hSent _ => exact h.transmitted (isError_of_transmits hState) hSent
  | last hState => exact h.unstalled (by rw [hState]; rfl) rfl
  | status hState =>
    refine ⟨h.epOut, h.epIn, ?_⟩
    have hFlags := h.flags
    rw [hState] at hFlags
    exact hFlags

theorem begun (h : p.Flagged) (hState : p.state.isError = false) (req : Request) :
    (p.begun req).2.Flagged := by
  have hNoted (state : ControlState) (hAfter : state.isError = false) :
      ({ p with bus := p.noted req, state := state } : ControlPipe B).Flagged :=
    ⟨h.epOut, h.epIn, (h.unstalled hState hAfter).flags.keeps trivial⟩
  rcases p.begun_cases req with ⟨-, hBegun⟩ | ⟨-, hBegun⟩ | ⟨-, hBegun⟩ | ⟨-, hBegun⟩ <;>
    rw [hBegun]
  · exact h.unstalled hState hState
  · have hData := hNoted (.dataOut req) rfl
    exact ⟨hData.epOut, hData.epIn, hData.flags⟩
  · have hOut := hNoted .completeOut rfl
    exact ⟨hOut.epOut, hOut.epIn, hOut.flags⟩
  · exact hNoted (.completeIn req) rfl

/-- A SETUP packet lifts the stall of EP0-OUT only, so the pipe must not have been in its error state.
-/
theorem receives (h : p.Flagged) {epSetup : UInt16} {found : Option Request}
    (hCondition : ∀ packet req, epSetup &&& 1 ≠ 0 →
      (UsbBus.read p.bus.bus p.epOut.address p.buf.length).1 = .ok packet →
      Request.parse packet = .ok req → p.state ≠ .error)
    (hReceives : p.Receives epSetup found q) : q.Flagged := by
  cases hReceives with
  | nothing => exact h
  | unread len => exact h.asked len
  | unparsed packet _ => exact ⟨h.epOut, h.epIn, (h.asked p.buf.length).flags⟩
  | setup packet req hBit hRead _ hParse =>
    have hNot := isError_of_ne (hCondition packet req hBit hRead hParse)
    exact begun (p := p.loaded 0 packet) ⟨h.epOut, h.epIn, (h.asked _).flags⟩ hNot req
  | failed req len _ => exact (h.asked len).errored
  | more req packet _ _ => exact ⟨h.epOut, h.epIn, (h.asked _).flags⟩
  | complete req packet hState _ =>
    have hFlags := (h.asked (p.buf.length - p.i)).flags
    exact ⟨h.epOut, h.epIn, by rwa [ControlPipe.asked, hState] at hFlags⟩
  | status hState =>
    have hFlags := (h.asked 0).flags
    exact ⟨h.epOut, h.epIn, by rwa [ControlPipe.asked, isError_of_inStage hState] at hFlags⟩
  | unexpected _ => exact (h.asked 0).errored

end ControlPipe.Flagged

def UsbDevice.Flagged (d : UsbDevice B) : Prop := d.control.Flagged

namespace UsbDevice.Flagged

variable [UsbClass C] {d e e' : UsbDevice B}

omit [UsbBus B] [UsbClass C] in
theorem withBus (h : d.Flagged) {t : Traced B} (hGrows : Traced.Grows KeepsFlags d.control.bus t) :
    (d.withBus t).Flagged := by
  obtain ⟨events, hTrace, hEvents⟩ := hGrows
  refine ⟨h.epOut, h.epIn, ?_⟩
  change Flags t.trace d.control.state.isError
  rw [hTrace]
  exact h.flags.grows hEvents

omit [UsbBus B] [UsbClass C] in
theorem of_initial (h : d.Initial) : d.Flagged := by
  refine ⟨h.wellFormed.epOut, h.wellFormed.epIn, ?_⟩
  rw [h.trace, h.idle]
  refine ⟨rfl, rfl, fun before data result after hSplit => ?_⟩
  cases before with
  | nil => cases hSplit
  | cons event rest => cases rest <;> cases hSplit

omit [UsbClass C] in
theorem background : Background (UsbDevice.Flagged : UsbDevice B → Prop) where
  events _ _ h hGrows := h.withBus (hGrows.mono fun _ => keepsFlags_of_background)
  resume _ _ h _ := h
  suspend _ h _ := h
  reset _ h := ⟨h.epOut, h.epIn, h.flags.reset⟩
  selfPowered _ _ h := h

theorem controlStep {req : Request} {allowed : UsbDevice B → Prop}
    (hHalt : req.IsHalt → req.endpointAddress.index ≠ 0)
    (hStep : ControlStep B C req allowed e e') (h : e.Flagged) : e'.Flagged := by
  cases hStep with
  | foreign hGrows =>
    exact h.withBus (hGrows.mono fun _ hEvent =>
      keepsFlags_of_background (backgroundEvent_of_foreign hEvent))
  | answer hAnswers => exact ControlPipe.Flagged.answersIn h hAnswers
  | acceptOut _ hAccepts => exact ControlPipe.Flagged.acceptsOut h hAccepts
  | setHalt stalled hReq => exact h.withBus (Traced.Grows.single rfl (hHalt hReq))
  | setAddress _ _ hTrace => exact h.withBus (Traced.Grows.single hTrace trivial)
  | _ => exact h

end UsbDevice.Flagged

/-- The host asks for no change of the halt of endpoint 0. -/
def SparesControl (input : DeviceInput B C) (s : Session B C) : Prop :=
  input = .poll → ∀ epOut epIn epSetup d req p,
    s.device.event? = some (.data epOut epIn epSetup, d) →
    Session.receive epOut epSetup d.control = .done (.ok (some req)) p →
    req.IsHalt → req.endpointAddress.index ≠ 0

/-- No poll reads a SETUP packet while the pipe is in its error state. -/
def NoSetupInError (input : DeviceInput B C) (s : Session B C) : Prop :=
  input = .poll → ∀ epOut epIn epSetup d packet req,
    s.device.event? = some (.data epOut epIn epSetup, d) → epSetup &&& 1 ≠ 0 →
    (UsbBus.read d.control.bus.bus d.control.epOut.address d.control.buf.length).1 = .ok packet →
    Request.parse packet = .ok req → d.control.state ≠ .error

variable [UsbClass C]

theorem flagged_pollControl {s : Session B C} {epOut epIn epSetup : UInt16} {d : UsbDevice B}
    (hSpares : SparesControl .poll s) (hSetup : NoSetupInError .poll s)
    (hEvent : s.device.event? = some (.data epOut epIn epSetup, d)) (hd : d.Flagged) :
    Post True (Session.pollControl epOut epIn epSetup) (fun _ t => t.device.Flagged)
      { s with device := d } := by
  apply post_pollControl_of_steps
  case hReceives =>
    intro found p hReceive
    exact ControlPipe.Flagged.receives hd
      (fun packet req hBit => hSetup rfl _ _ _ d packet req hEvent hBit) (.of_receive hReceive)
  case hStep =>
    intro req p hReceive e e' hStep he
    exact UsbDevice.Flagged.controlStep (hSpares rfl _ _ _ d req p hEvent hReceive) hStep he
  case hCompletes => exact fun e r q hCompletes he => ControlPipe.Flagged.completes he hCompletes
  case hAddress => exact fun e he => he.withBus (Traced.Grows.single rfl trivial)

/-- In every run whose polls meet the condition, the flags of endpoint 0 follow the pipe. -/
theorem flagsFollow_of_noSetupInError [UsbBus.Contract B] {d : UsbDevice B} (hFresh : d.Fresh)
    {classes : List C} {inputs : List (DeviceInput B C)}
    (hHost : Along DeviceInput.perform SparesControl inputs ⟨d, classes⟩)
    (hRun : Along DeviceInput.perform NoSetupInError inputs ⟨d, classes⟩) :
    Throughout DeviceInput.perform (fun s => s.device.FlagsFollow) inputs ⟨d, classes⟩ := by
  have hInitial := hFresh.initial
  have hFlagged := throughout_of_background UsbDevice.Flagged.background
    (fun s _ _ _ _ _ hBoth hEvent hd => flagged_pollControl hBoth.1 hBoth.2 hEvent hd)
    hInitial.wellFormed (.of_initial hInitial) (hHost.and hRun)
  exact hFlagged.mono fun s h => h.flags

def rejectedBus : ScriptBus := ⟨[.ok [0x40, 1, 0, 0, 0, 0, 0, 0]], [], [.data 0 0 1, .reset]⟩

theorem flagsFollow_of_rejected :
    Throughout DeviceInput.perform (fun s => s.device.FlagsFollow) [.poll, .poll]
      (rejectedBus.session []) := by
  have hReset {r : Except UsbError (Option Bool)} {s' : Session ScriptBus DefaultClass}
      (hPoll : DeviceInput.poll.perform (rejectedBus.session []) = .done r s') :
      s'.device.event?.map Prod.fst = some .reset := by
    have hData : ((DeviceInput.poll.perform (rejectedBus.session [])).state?.bind fun t =>
        t.device.event?.map Prod.fst) = some .reset := by decide
    rw [hPoll] at hData
    exact hData
  refine flagsFollow_of_noSetupInError (ScriptBus.fresh_device _)
    ⟨?_, fun r s' hPoll => ⟨?_, fun _ _ _ => trivial⟩⟩
    ⟨?_, fun r s' hPoll => ⟨?_, fun _ _ _ => trivial⟩⟩
  · rintro - epOut epIn epSetup d req p hEvent hReceive hHalt
    have hRequest := congrArg Outcome.value? hReceive
    cases hEvent
    cases (show _ = some (some req) from hRequest)
    rcases hHalt with hHalt | hHalt <;> cases hHalt.1
  · rintro - epOut epIn epSetup d req p hEvent - -
    have hData := hReset hPoll
    rw [hEvent] at hData
    cases hData
  · rintro - epOut epIn epSetup d packet req hEvent - - -
    cases hEvent
    decide
  · rintro - epOut epIn epSetup d packet req hEvent - - -
    have hData := hReset hPoll
    rw [hEvent] at hData
    cases hData

def statusBus : ScriptBus :=
  ⟨[.ok [0x40, 1, 0, 0, 0, 0, 0, 0], .ok [0x80, 0, 0, 0, 0, 0, 2, 0]], [.ok 2],
    [.data 0 0 1, .data 0 0 1]⟩

def statusSession : Session ScriptBus DefaultClass :=
  (finalState DeviceInput.perform [.poll, .poll] (statusBus.session [])).get (by decide +kernel)

/-- The answer to the request behind a rejected one is written into a stalled endpoint. -/
theorem not_forall_flagsFollow :
    ¬ ∀ (B C : Type) [UsbBus B] [UsbClass C] [UsbBus.Contract B] (d : UsbDevice B), d.Fresh →
      ∀ (classes : List C) (inputs : List (DeviceInput B C)),
        Along DeviceInput.perform SparesControl inputs ⟨d, classes⟩ →
        Throughout DeviceInput.perform (fun s => s.device.FlagsFollow) inputs ⟨d, classes⟩ := by
  intro h
  have hHost : Along DeviceInput.perform SparesControl [.poll, .poll] (statusBus.session []) := by
    refine ⟨?_, fun r s' hPoll => ⟨?_, fun _ _ _ => trivial⟩⟩
    · rintro - epOut epIn epSetup d req p hEvent hReceive hHalt
      have hRequest := congrArg Outcome.value? hReceive
      cases hEvent
      cases (show _ = some (some req) from hRequest)
      rcases hHalt with hHalt | hHalt <;> cases hHalt.1
    · rintro - epOut epIn epSetup d req p hEvent hReceive hHalt
      have hData : ((DeviceInput.poll.perform (statusBus.session [])).state?.bind fun t =>
          t.device.event?.map fun event =>
            (event.1, (Session.receive 0 1 event.2.control).value?)) =
          some (.data 0 0 1, some (some ⟨.in_, .standard, .device, 0, 0, 0, 2⟩)) := by
        decide +kernel
      rw [hPoll, Outcome.state?, Option.bind_some, hEvent, Option.map_some] at hData
      obtain ⟨hBits, hValue⟩ := Prod.mk.inj (Option.some.inj hData)
      cases hBits
      rw [hReceive] at hValue
      cases hValue
      rcases hHalt with hHalt | hHalt <;> cases hHalt.2
  have hRun := h ScriptBus DefaultClass _ (ScriptBus.fresh_device statusBus) [] _ hHost
  have hFinal : finalState DeviceInput.perform [.poll, .poll] (statusBus.session []) =
      some statusSession := (Option.some_get _).symm
  have hFlags : statusSession.device.FlagsFollow := hRun.finalState hFinal
  exact absurd hFlags.in_ (by decide +kernel)

end UsbStack
