import UsbStack.DeviceRun
import UsbStack.InStage

/-! # The host and the device in an IN data stage

The host takes the packets off EP0-IN one at a time until it is satisfied, and then sends its status
packet. The device hears of both through its polls, in any order and grouping. The two agree on
where the stage ends unless it fills what the host asked for with full packets.
-/

namespace UsbStack

set_option autoImplicit false

open Foundation Exec

/-- A host in an IN transfer of `requested` bytes in packets of `packetSize`. -/
structure Host where
  requested : Nat
  packetSize : Nat
  received : List (List UInt8)
  statusSent : Bool
  deriving DecidableEq

def Host.asking (requested packetSize : Nat) : Host := ⟨requested, packetSize, [], false⟩

def Host.Satisfied (host : Host) : Prop :=
  host.requested ≤ host.received.flatten.length ∨
    ∃ packet ∈ host.received, packet.length < host.packetSize

instance (host : Host) : Decidable host.Satisfied := inferInstanceAs (Decidable (_ ∨ _))

/-- A host at one end of a bus and a device at the other. `completed` is an IN-complete event that
no poll has delivered yet. -/
structure Link (C : Type) where
  host : Host
  session : Session Mailbox C
  completed : Bool

/-- What can happen next. A poll delivers some of the events that are due on endpoint 0, together
with any events of other endpoints. -/
inductive LinkAction where
  | collect
  | sendStatus
  | poll (epOut epIn epSetup : UInt16)

namespace Link

variable {C : Type}

def pipe (l : Link C) : ControlPipe Mailbox := l.session.device.control

def mailbox (l : Link C) : Mailbox := l.pipe.bus.bus

def withMailbox (l : Link C) (mailbox : Mailbox) : Link C :=
  { l with session := { l.session with
      device := l.session.device.withBus ⟨mailbox, l.pipe.bus.trace⟩ } }

def collected (l : Link C) (packet : List UInt8) : Link C :=
  { l.withMailbox { l.mailbox with outgoing := none } with
    host := { l.host with received := l.host.received ++ [packet] }
    completed := true }

def acknowledged (l : Link C) : Link C :=
  { l.withMailbox { l.mailbox with incoming := some [] } with
    host := { l.host with statusSent := true } }

def Due (l : Link C) (epOut epIn epSetup : UInt16) : Prop :=
  epSetup &&& 1 = 0 ∧ (epOut &&& 1 ≠ 0 → l.mailbox.incoming ≠ none) ∧
    (epIn &&& 1 ≠ 0 → l.completed = true)

instance (l : Link C) (epOut epIn epSetup : UInt16) : Decidable (l.Due epOut epIn epSetup) :=
  inferInstanceAs (Decidable (_ ∧ _ ∧ _))

def delivering (l : Link C) (epOut epIn epSetup : UInt16) : Link C :=
  { l.withMailbox { l.mailbox with event := .data epOut epIn epSetup } with
    completed := l.completed && epIn &&& 1 = 0 }

/-- An action that is not possible does nothing. -/
def perform [UsbClass C] : LinkAction → Exec Panic UsbError (Link C) Unit
  | .collect => do
    let l ← get
    match l.mailbox.outgoing with
    | some packet => when (¬ l.host.Satisfied) (set (l.collected packet))
    | none => pure ()
  | .sendStatus => do
    let l ← get
    when (l.host.Satisfied ∧ l.host.statusSent = false) (set l.acknowledged)
  | .poll epOut epIn epSetup => do
    let l ← get
    when (l.Due epOut epIn epSetup) do
      set (l.delivering epOut epIn epSetup)
      let _ ← zoom session (fun s l => { l with session := s }) Session.poll
      pure ()

/-- Every packet that the bus accepted after `base` has been collected, in order. -/
def AllCollected (base : List (List UInt8)) (l : Link C) : Prop :=
  accepted (.control .in_) l.pipe.bus.trace = base ++ l.host.received

end Link

section Host

variable {host : Host} {message packet : List UInt8} {rest : List (List UInt8)}

theorem Host.not_satisfied_of_lt
    (hPackets : packets host.packetSize message = host.received ++ packet :: rest)
    (hMore : host.received.flatten.length < host.requested) : ¬ host.Satisfied := by
  rintro (hEnough | ⟨piece, hPiece, hShort⟩)
  · omega
  · exact Nat.ne_of_lt hShort (length_of_mem_packets hPackets hPiece)

theorem Host.not_satisfied (hSize : 0 < host.packetSize)
    (hPackets : packets host.packetSize message = host.received ++ packet :: rest)
    (hShort : message.length < host.requested ∨
      message.length = host.requested ∧ ¬ host.packetSize ∣ host.requested) :
    ¬ host.Satisfied := by
  refine Host.not_satisfied_of_lt hPackets ?_
  have hLength : message.length =
      host.received.flatten.length + (packet ++ rest.flatten).length := by
    rw [← flatten_packets hSize message, hPackets, List.flatten_append, List.flatten_cons,
      List.length_append]
  rcases hShort with hLess | ⟨hEq, hNot⟩
  · omega
  · have hDvd : host.packetSize ∣ host.received.flatten.length :=
      dvd_length_flatten fun _ => length_of_mem_packets hPackets
    have hNe : host.received.flatten.length ≠ host.requested := fun hAll => hNot (hAll ▸ hDvd)
    omega

end Host

theorem Mailbox.bus_classUse {t u : Traced Mailbox} (h : ClassUse t u) : u.bus = t.bus := by
  have hOther (ep : ClassEndpoint) (dir : UsbDirection) : ep.address ≠ .control dir := by
    intro hControl
    exact ep.notControl (hControl ▸ EndpointAddress.index_control dir)
  induction h with
  | refl => rfl
  | tail _ hAct ih =>
    rw [← ih]
    cases hAct with
    | called index call => rfl
    | used call hDone =>
      cases call with
      | read ep len =>
        cases hDone
        exact congrArg Prod.snd (if_neg (hOther ep .out))
      | write ep data =>
        cases hDone
        exact congrArg Prod.snd (if_neg (hOther ep .in_))
      | stall ep =>
        cases hDone
        rfl
      | unstall ep =>
        cases hDone
        rfl

theorem accepted_classUse {B : Type} [UsbBus B] {t u : Traced B} (h : ClassUse t u)
    (dir : UsbDirection) : accepted (.control dir) u.trace = accepted (.control dir) t.trace := by
  refine h.grows.filterMap_eq fun event hEvent => ?_
  cases event with
  | write addr data result =>
    cases result with
    | error e => rfl
    | ok count =>
      refine if_neg fun hControl => hEvent ?_
      rw [hControl, EndpointAddress.index_control]
  | _ => rfl

def ControlPipe.queue (p : ControlPipe Mailbox) : List (List UInt8) :=
  p.bus.bus.outgoing.toList ++ p.pending

structure Attached (base : List (List UInt8)) (host : Host) (d : UsbDevice Mailbox) : Prop where
  awake : d.deviceState ≠ .suspend
  epOut : d.control.epOut.address = .control .out
  epIn : d.control.epIn.address = .control .in_
  size : d.control.epIn.maxPacketSize.toNat = host.packetSize
  accepted : accepted (.control .in_) d.control.bus.trace =
    base ++ host.received ++ d.control.bus.bus.outgoing.toList
  status : ∀ packet, d.control.bus.bus.incoming = some packet →
    packet = [] ∧ host.statusSent = true

/-- The device has the packets `all` to send, or has been told that the host needs no more. -/
structure Serving (base all : List (List UInt8)) (host : Host) (d : UsbDevice Mailbox) : Prop
    extends Attached base host d where
  stage : (d.control.Sending ∧ host.received ++ d.control.queue = all) ∨
    (d.control.state = .idle ∧ d.control.bus.bus.outgoing = none ∧
      d.control.bus.bus.incoming = none ∧ host.statusSent = true)

section Serving

variable {base all : List (List UInt8)} {host : Host} {d : UsbDevice Mailbox}
  {epOut epIn epSetup : UInt16}

theorem Serving.withBus (h : Serving base all host d) {t : Traced Mailbox}
    (hOutgoing : t.bus.outgoing = d.control.bus.bus.outgoing)
    (hIncoming : t.bus.incoming = d.control.bus.bus.incoming)
    (hAccepted : UsbStack.accepted (.control .in_) t.trace =
      UsbStack.accepted (.control .in_) d.control.bus.trace) :
    Serving base all host (d.withBus t) where
  awake := h.awake
  epOut := h.epOut
  epIn := h.epIn
  size := h.size
  accepted := hAccepted.trans (hOutgoing.symm ▸ h.accepted)
  status := fun packet hPacket => h.status packet (hIncoming ▸ hPacket)
  stage := by
    refine h.stage.imp (fun hSending => ⟨hSending.1, ?_⟩) fun hOver =>
      ⟨hOver.1, hOutgoing.trans hOver.2.1, hIncoming.trans hOver.2.2.1, hOver.2.2.2⟩
    have hQueue : (d.withBus t).control.queue = d.control.queue :=
      congrArg (·.toList ++ d.control.pending) hOutgoing
    rw [hQueue]
    exact hSending.2

theorem Serving.queue_of_sending (h : Serving base all host d) (hSending : d.control.Sending) :
    host.received ++ d.control.queue = all := by
  rcases h.stage with ⟨-, hQueue⟩ | ⟨hIdle, -⟩
  · exact hQueue
  · unfold ControlPipe.Sending at hSending
    rw [hIdle] at hSending
    exact hSending.elim

theorem stable_serving (base all : List (List UInt8)) (host : Host) :
    Stable (Serving base all host) := by
  rintro d _ h ⟨t, hUse, rfl⟩
  have hBus := Mailbox.bus_classUse hUse
  exact h.withBus (congrArg _ hBus) (congrArg _ hBus) (accepted_classUse hUse .in_)

def ControlPipe.finished (p : ControlPipe Mailbox) : ControlPipe Mailbox :=
  { p with
    bus := ⟨{ p.bus.bus with incoming := none }, p.bus.trace ++ [.read (.control .out) 0 (.ok [])]⟩
    state := .idle }

theorem receive_status {p : ControlPipe Mailbox} (hSetup : epSetup &&& 1 = 0)
    (hOut : epOut &&& 1 ≠ 0) (hAddress : p.epOut.address = .control .out)
    (hSending : p.Sending) (hIncoming : p.bus.bus.incoming = some []) :
    Session.receive epOut epSetup p = .done (.ok none) p.finished := by
  have hAsked : { p.asked 0 with state := .idle } = p.finished := by
    rw [ControlPipe.finished, ControlPipe.asked, Traced.reading, hAddress,
      Mailbox.read_control hIncoming]
    rfl
  have hHandle : ControlPipe.handleOut p = .done (.ok none) p.finished := by
    rw [ControlPipe.handleOut_inStage p hSending.inStage, hAsked, hAddress,
      Mailbox.read_control hIncoming]
    rfl
  rw [Session.receive, if_neg (not_not.mpr hSetup), if_pos hOut, bind_apply,
    attempt_of_done hHandle]
  rfl

/-- The status packet of the host ends the transfer. -/
theorem Serving.receive (h : Serving base all host d)
    (hBefore : ∀ packet rest, host.received ++ packet :: rest = all → ¬ host.Satisfied)
    (hStatus : host.statusSent = true → host.Satisfied) (hSetup : epSetup &&& 1 = 0)
    (hDue : epOut &&& 1 ≠ 0 → d.control.bus.bus.incoming ≠ none) :
    ∃ p, Session.receive epOut epSetup d.control = .done (.ok none) p ∧
      Serving base all host (d.withPipe p) ∧
      p.bus.bus.outgoing = d.control.bus.bus.outgoing := by
  by_cases hOut : epOut &&& 1 ≠ 0
  · obtain ⟨packet, hIncoming⟩ := Option.ne_none_iff_exists'.mp (hDue hOut)
    obtain ⟨rfl, hSent⟩ := h.status packet hIncoming
    rcases h.stage with ⟨hSending, hQueue⟩ | ⟨-, -, hNone, -⟩
    · have hOutgoing : d.control.bus.bus.outgoing = none := by
        cases hPacket : d.control.bus.bus.outgoing with
        | none => rfl
        | some packet =>
          rw [ControlPipe.queue, hPacket] at hQueue
          exact absurd (hStatus hSent) (hBefore packet d.control.pending hQueue)
      refine ⟨_, receive_status hSetup hOut h.epOut hSending hIncoming, ?_, rfl⟩
      refine ⟨⟨h.awake, h.epOut, h.epIn, h.size, ?_, nofun⟩, .inr ⟨rfl, hOutgoing, rfl, hSent⟩⟩
      have hRead : UsbStack.accepted (.control .in_) d.control.finished.bus.trace =
          UsbStack.accepted (.control .in_) d.control.bus.trace :=
        (accepted_append _ _ _).trans (List.append_nil _)
      exact hRead.trans h.accepted
    · rw [hIncoming] at hNone
      cases hNone
  · refine ⟨d.control, ?_, h, rfl⟩
    rw [Session.receive, if_neg (not_not.mpr hSetup), if_neg hOut]
    rfl

theorem Mailbox.writing_control {t : Traced Mailbox} (h : t.bus.outgoing = none)
    (packet : List UInt8) :
    t.writing (.control .in_) packet = ⟨{ t.bus with outgoing := some packet },
      t.trace ++ [.write (.control .in_) packet (.ok packet.length)]⟩ := by
  rw [Traced.writing, Mailbox.write_control h]

section Sent

variable {p : ControlPipe Mailbox} {packet : List UInt8} {rest : List (List UInt8)}

theorem Attached.bus_of_sent (h : Attached base host d)
    (hFree : d.control.bus.bus.outgoing = none) (hSent : d.control.Sent p packet rest) :
    p.bus = ⟨{ d.control.bus.bus with outgoing := some packet },
      d.control.bus.trace ++ [.write (.control .in_) packet (.ok packet.length)]⟩ := by
  rw [hSent.bus, h.epIn, Mailbox.writing_control hFree]

theorem Attached.pending_of_sent (h : Attached base host d)
    (hFree : d.control.bus.bus.outgoing = none) (hSent : d.control.Sent p packet rest) :
    p.pending = rest := by
  rw [hSent.pending, h.epIn, Mailbox.write_control hFree]

theorem Attached.sent (h : Attached base host d) (hFree : d.control.bus.bus.outgoing = none)
    (hSent : d.control.Sent p packet rest) (hAll : host.received ++ packet :: rest = all) :
    Serving base all host (d.withPipe p) := by
  have hBus := h.bus_of_sent hFree hSent
  have hPending := h.pending_of_sent hFree hSent
  refine ⟨⟨h.awake, hSent.epOut.symm ▸ h.epOut, hSent.epIn.symm ▸ h.epIn,
    hSent.epIn.symm ▸ h.size, ?_, ?_⟩, .inl ⟨hSent.sending, ?_⟩⟩
  · change UsbStack.accepted _ p.bus.trace = _ ++ p.bus.bus.outgoing.toList
    rw [hBus, accepted_append, h.accepted, hFree, Option.toList_none, List.append_nil]
    rfl
  · change ∀ _, p.bus.bus.incoming = _ → _
    rw [hBus]
    exact h.status
  · change host.received ++ (p.bus.bus.outgoing.toList ++ p.pending) = all
    rw [hBus, hPending]
    exact hAll

end Sent

omit epOut epIn in
theorem ControlPipe.Completes.ne_true {B : Type} [UsbBus B] {p q : ControlPipe B}
    {r : Except UsbError Bool}
    (h : p.Completes r q) (hSending : p.Sending) : r ≠ .ok true := by
  cases h with
  | transmitted _ _ hr => exact hr
  | status hState =>
    unfold ControlPipe.Sending at hSending
    rw [hState] at hSending
    exact hSending.elim
  | _ => nofun

/-- A completion makes the device offer the next packet. -/
theorem Serving.complete (h : Serving base all host d) (hSize : 0 < host.packetSize)
    (hFree : d.control.bus.bus.outgoing = none) :
    ∃ r p, ControlPipe.handleInComplete d.control = .done r p ∧ r ≠ .ok true ∧
      Serving base all host (d.withPipe p) := by
  rcases h.stage with ⟨hSending, hQueue⟩ | ⟨hIdle, hOver⟩
  · rw [ControlPipe.queue, hFree] at hQueue
    cases hPending : d.control.pending with
    | nil =>
      obtain ⟨p, hDone, hState, -, hSame⟩ := ControlPipe.handleInComplete_sentAll hSending hPending
      refine ⟨_, p, hDone, nofun, ?_⟩
      rcases hSame with rfl | rfl
      · exact h
      · refine ⟨⟨h.awake, h.epOut, h.epIn, h.size, ?_, h.status⟩, .inl ⟨trivial, ?_⟩⟩
        · exact ((accepted_append _ _ _).trans (List.append_nil _)).trans h.accepted
        · change host.received ++ (d.control.bus.bus.outgoing.toList ++ []) = all
          rw [hFree, ← hPending]
          exact hQueue
    | cons packet rest =>
      have hWhole := UsbBus.WholeWrites.write_eq d.control.bus.bus d.control.epIn.address packet
      obtain ⟨r, p, hDone, hSent⟩ :=
        ControlPipe.handleInComplete_sent (h.size ▸ hSize) hSending hPending hWhole
      have hCompletes := ControlPipe.completes_of_handleInComplete hDone
      exact ⟨r, p, hDone, hCompletes.ne_true hSending,
        h.toAttached.sent hFree hSent (hPending ▸ hQueue)⟩
  · refine ⟨_, d.control, ControlPipe.handleInComplete_unsending _ ?_, nofun, h⟩
    rw [hIdle]
    trivial

end Serving

section Polls

variable {B C : Type} [UsbBus B] [UsbClass C] {epOut epIn epSetup : UInt16}

omit [UsbClass C] in
theorem completeIn_of_handled {d : UsbDevice B} {r : Except UsbError Bool} {p : ControlPipe B}
    (hHandle : ControlPipe.handleInComplete d.control = .done r p) (hr : r ≠ .ok true) :
    (Session.completeIn : DeviceM B Unit) d = .done (.ok ()) (d.withPipe p) := by
  have hAttempt : attempt (UsbDevice.onPipe ControlPipe.handleInComplete) d =
      .done (.ok r) (d.withPipe p) := by
    apply attempt_of_done
    rw [UsbDevice.onPipe, zoom_apply, hHandle]
    rfl
  have hNot : r.toOption ≠ some true := by
    intro hTrue
    cases r with
    | error e => cases hTrue
    | ok completed => exact hr (congrArg _ (Option.some.inj hTrue))
  rw [Session.completeIn, bind_of_ok hAttempt, bind_apply, get_apply]
  dsimp only
  rw [when_of_false fun h => hNot h.2.1]
  rfl

theorem pollControl_of_none {s : Session B C} {p : ControlPipe B}
    (hReceive : Session.receive epOut epSetup s.device.control = .done (.ok none) p) :
    Session.pollControl epOut epIn epSetup s =
      (when (epIn &&& 1 ≠ 0) (Session.onDevice Session.completeIn) : SessionM B C Unit)
        { s with device := s.device.withPipe p } := by
  have hOnPipe : (Session.onPipe (Session.receive epOut epSetup) : SessionM B C _) s =
      .done (.ok none) { s with device := s.device.withPipe p } := Session.onPipe_of_done hReceive
  rw [Session.pollControl, bind_of_ok hOnPipe]

theorem pollControl_of_completed {s : Session B C} {p q : ControlPipe B} {r : Except UsbError Bool}
    (hReceive : Session.receive epOut epSetup s.device.control = .done (.ok none) p)
    (hBit : epIn &&& 1 ≠ 0) (hHandle : ControlPipe.handleInComplete p = .done r q)
    (hr : r ≠ .ok true) :
    Session.pollControl epOut epIn epSetup s =
      .done (.ok ()) { s with device := s.device.withPipe q } := by
  have hComplete : Session.completeIn (s.device.withPipe p) =
      .done (.ok ()) (s.device.withPipe q) := completeIn_of_handled hHandle hr
  rw [pollControl_of_none hReceive, when_of_true hBit, Session.onDevice, zoom_apply, hComplete]

theorem pollControl_of_received {s : Session B C} {p : ControlPipe B}
    (hReceive : Session.receive epOut epSetup s.device.control = .done (.ok none) p)
    (hBit : ¬ epIn &&& 1 ≠ 0) :
    Session.pollControl epOut epIn epSetup s =
      .done (.ok ()) { s with device := s.device.withPipe p } := by
  rw [pollControl_of_none hReceive, when_of_false hBit]
  rfl

variable {base all : List (List UInt8)} {host : Host} {s : Session Mailbox C}

theorem Serving.pollControl (h : Serving base all host s.device) (hSize : 0 < host.packetSize)
    (hBefore : ∀ packet rest, host.received ++ packet :: rest = all → ¬ host.Satisfied)
    (hStatus : host.statusSent = true → host.Satisfied) (hSetup : epSetup &&& 1 = 0)
    (hOut : epOut &&& 1 ≠ 0 → s.device.control.bus.bus.incoming ≠ none)
    (hIn : epIn &&& 1 ≠ 0 → s.device.control.bus.bus.outgoing = none) :
    ∃ d, Session.pollControl epOut epIn epSetup s = .done (.ok ()) { s with device := d } ∧
      Serving base all host d ∧
      (epIn &&& 1 = 0 → d.control.bus.bus.outgoing = s.device.control.bus.bus.outgoing) := by
  obtain ⟨p, hReceive, hServing, hSame⟩ := h.receive hBefore hStatus hSetup hOut
  by_cases hBit : epIn &&& 1 ≠ 0
  · obtain ⟨r, q, hHandle, hr, hServing'⟩ := hServing.complete hSize (hSame.trans (hIn hBit))
    exact ⟨s.device.withPipe q, pollControl_of_completed hReceive hBit hHandle hr, hServing',
      fun hZero => absurd hZero hBit⟩
  · exact ⟨s.device.withPipe p, pollControl_of_received hReceive hBit, hServing, fun _ => hSame⟩

end Polls

namespace Link

variable {C : Type} {base all : List (List UInt8)} {requested packetSize : Nat} {l : Link C}

structure Consistent (base all : List (List UInt8)) (requested packetSize : Nat) (l : Link C) :
    Prop where
  requested : l.host.requested = requested
  packetSize : l.host.packetSize = packetSize
  serving : Serving base all l.host l.session.device
  completed : l.completed = true → l.mailbox.outgoing = none
  status : l.host.statusSent = true → l.host.Satisfied

theorem Consistent.collected (h : l.Consistent base all requested packetSize)
    {packet : List UInt8} (hPacket : l.mailbox.outgoing = some packet)
    (hNot : ¬ l.host.Satisfied) : (l.collected packet).Consistent base all requested packetSize where
  requested := h.requested
  packetSize := h.packetSize
  serving := by
    have hAttached := h.serving.toAttached
    have hOutgoing : l.session.device.control.bus.bus.outgoing = some packet := hPacket
    refine ⟨⟨hAttached.awake, hAttached.epOut, hAttached.epIn, hAttached.size, ?_,
      hAttached.status⟩, ?_⟩
    · have hAccepted := hAttached.accepted
      rw [hOutgoing] at hAccepted
      refine hAccepted.trans ?_
      change base ++ l.host.received ++ [packet] = base ++ (l.host.received ++ [packet]) ++ []
      rw [List.append_nil, List.append_assoc]
    · rcases h.serving.stage with ⟨hSending, hQueue⟩ | ⟨-, hNone, -⟩
      · rw [ControlPipe.queue, hOutgoing] at hQueue
        refine .inl ⟨hSending, ?_⟩
        change (l.host.received ++ [packet]) ++ l.session.device.control.pending = all
        rw [← hQueue, List.append_assoc]
        rfl
      · rw [hOutgoing] at hNone
        cases hNone
  completed := fun _ => rfl
  status := fun hSent => absurd (h.status hSent) hNot

theorem Consistent.acknowledged (h : l.Consistent base all requested packetSize)
    (hSatisfied : l.host.Satisfied) (hUnsent : l.host.statusSent = false) :
    l.acknowledged.Consistent base all requested packetSize where
  requested := h.requested
  packetSize := h.packetSize
  serving := by
    have hAttached := h.serving.toAttached
    refine ⟨⟨hAttached.awake, hAttached.epOut, hAttached.epIn, hAttached.size, hAttached.accepted,
      ?_⟩, ?_⟩
    · rintro packet ⟨⟩
      exact ⟨rfl, rfl⟩
    · rcases h.serving.stage with hSending | ⟨-, -, -, hSent⟩
      · exact .inl hSending
      · rw [hUnsent] at hSent
        cases hSent
  completed := h.completed
  status := fun _ => hSatisfied

variable [UsbClass C] {epOut epIn epSetup : UInt16}

/-- A poll keeps host and device consistent. -/
theorem Consistent.polled (h : l.Consistent base all requested packetSize)
    (hSize : 0 < packetSize)
    (hBefore : ∀ packet rest, l.host.received ++ packet :: rest = all → ¬ l.host.Satisfied)
    (hDue : l.Due epOut epIn epSetup) :
    Post True (perform (.poll epOut epIn epSetup))
      (fun _ l' => l'.Consistent base all requested packetSize) l := by
  let Q (d : UsbDevice Mailbox) : Prop := Serving base all l.host d ∧
    ((l.completed && epIn &&& 1 = 0) = true → d.control.bus.bus.outgoing = none)
  have hStable : Stable Q := by
    rintro d _ ⟨hServing, hFree⟩ ⟨t, hUse, rfl⟩
    refine ⟨stable_serving _ _ _ d _ hServing ⟨t, hUse, rfl⟩, fun hCompleted => ?_⟩
    exact (congrArg Mailbox.outgoing (Mailbox.bus_classUse hUse)).trans (hFree hCompleted)
  have hStart : Serving base all l.host (l.delivering epOut epIn epSetup).session.device :=
    h.serving.withBus rfl rfl rfl
  have hPolled : Serving base all l.host
      (l.delivering epOut epIn epSetup).session.device.polled :=
    hStart.withBus rfl rfl ((accepted_append _ _ _).trans (List.append_nil _))
  have hCompleted (hIn : epIn &&& 1 ≠ 0) : l.mailbox.outgoing = none :=
    h.completed (hDue.2.2 hIn)
  have hPoll : Post True (Session.poll : SessionM Mailbox C Bool) (fun _ t => Q t.device)
      (l.delivering epOut epIn epSetup).session := by
    refine post_poll (fun hSuspended _ => absurd hSuspended hStart.awake) fun pr d hEvent => ?_
    rw [UsbDevice.event?, if_neg hStart.awake] at hEvent
    obtain ⟨rfl, rfl⟩ := Prod.mk.inj (Option.some.inj hEvent)
    have hFree (hKept : (l.completed && epIn &&& 1 = 0) = true) : l.mailbox.outgoing = none :=
      h.completed (Bool.and_eq_true_iff.mp hKept).1
    refine post_then (post_pollData hStable (fun _ => ⟨hPolled, hFree⟩) fun _ => ?_) fun _ _ hQ => hQ
    obtain ⟨d, hDone, hServing, hSame⟩ := Serving.pollControl
      (s := { (l.delivering epOut epIn epSetup).session with
        device := (l.delivering epOut epIn epSetup).session.device.polled })
      hPolled (h.packetSize ▸ hSize) hBefore h.status hDue.1 hDue.2.1 hCompleted
    rw [Post, hDone]
    refine ⟨hServing, fun hKept => ?_⟩
    have hBit : epIn &&& 1 = 0 := of_decide_eq_true (Bool.and_eq_true_iff.mp hKept).2
    exact (hSame hBit).trans (hFree hKept)
  rw [perform, post_bind, post_get]
  dsimp only
  rw [when_of_true hDue, post_bind, post_set]
  dsimp only
  rw [post_bind, post_zoom]
  apply hPoll.mono
  rintro r t ⟨hServing, hFree⟩
  have hConsistent : Consistent base all requested packetSize
      { l.delivering epOut epIn epSetup with session := t } :=
    ⟨h.requested, h.packetSize, hServing, hFree, h.status⟩
  cases r with
  | ok handled => exact hConsistent
  | error e => exact hConsistent

/-- Every action of the link keeps host and device consistent. -/
theorem consistent_perform (hSize : 0 < packetSize)
    (hBefore : ∀ host : Host, host.requested = requested → host.packetSize = packetSize →
      ∀ packet rest, host.received ++ packet :: rest = all → ¬ host.Satisfied)
    (h : l.Consistent base all requested packetSize) (action : LinkAction) :
    Post True (perform action) (fun _ l' => l'.Consistent base all requested packetSize) l := by
  cases action with
  | collect =>
    rw [perform, post_bind, post_get]
    dsimp only
    cases hPacket : l.mailbox.outgoing with
    | none => exact h
    | some packet => exact post_when (fun hNot => h.collected hPacket hNot) fun _ => h
  | sendStatus =>
    rw [perform, post_bind, post_get]
    exact post_when (fun hReady => h.acknowledged hReady.1 hReady.2) fun _ => h
  | poll epOut epIn epSetup =>
    by_cases hDue : l.Due epOut epIn epSetup
    · exact h.polled hSize (hBefore l.host h.requested h.packetSize) hDue
    · rw [perform, post_bind, post_get]
      dsimp only
      rw [when_of_false hDue]
      exact h

end Link

section Leftover

variable {B C : Type} [UsbBus B] [UsbClass C] {epOut epIn : UInt16}

theorem poll_of_no_classes {s : Session B C} (hClasses : s.classes = [])
    (hAwake : s.device.deviceState ≠ .suspend)
    (hEvent : (UsbBus.poll s.device.control.bus.bus).1 = .data epOut epIn 0)
    (hBits : epOut ||| epIn = 1) {d : UsbDevice B}
    (hControl : Session.pollControl epOut epIn 0 { s with device := s.device.polled } =
      .done (.ok ()) { s with device := d }) :
    Session.poll s = .done (.ok true) { s with device := d } := by
  obtain ⟨device, classes⟩ := s
  obtain rfl : classes = [] := hClasses
  have hPolled : (Session.onDevice (UsbDevice.onBus Traced.poll) : SessionM B C PollResult)
      ⟨device, []⟩ = .done (.ok (.data epOut epIn 0)) ⟨device.polled, []⟩ := by
    rw [← hEvent]
    rfl
  have hEps : epOut ||| epIn ||| 0 = 1 := by
    rw [UInt16.or_zero, hBits]
  have hData : (Session.pollData epOut epIn 0 : SessionM B C Unit) ⟨device.polled, []⟩ =
      .done (.ok ()) ⟨d, []⟩ := by
    rw [Session.pollData, hEps, when_of_true (by decide), bind_of_ok hControl,
      when_of_false (by decide)]
    rfl
  rw [Session.poll, bind_of_ok hPolled, bind_apply, get_apply]
  dsimp only
  rw [if_neg (show device.polled.deviceState ≠ .suspend from hAwake)]
  exact bind_of_ok hData

namespace Link

variable {l : Link C} {base all : List (List UInt8)} {requested packetSize : Nat}
  {message packet : List UInt8} {rest : List (List UInt8)}

theorem poll_done (hClasses : l.session.classes = [])
    (hAwake : l.session.device.deviceState ≠ .suspend) (hDue : l.Due epOut epIn 0)
    (hBits : epOut ||| epIn = 1) {d : UsbDevice Mailbox}
    (hControl : Session.pollControl epOut epIn 0
      ⟨(l.delivering epOut epIn 0).session.device.polled, l.session.classes⟩ =
      .done (.ok ()) ⟨d, l.session.classes⟩) :
    perform (.poll epOut epIn 0) l = .done (.ok ())
      { l.delivering epOut epIn 0 with session := ⟨d, l.session.classes⟩ } := by
  have hPoll : Session.poll (l.delivering epOut epIn 0).session =
      .done (.ok true) ⟨d, l.session.classes⟩ :=
    poll_of_no_classes (s := (l.delivering epOut epIn 0).session) hClasses hAwake rfl hBits hControl
  rw [perform, bind_apply, get_apply]
  dsimp only
  rw [when_of_true hDue, bind_apply, set_apply]
  dsimp only
  rw [bind_apply, zoom_apply, hPoll]
  rfl

omit [UsbClass C] in
theorem Consistent.queue (h : l.Consistent base all requested packetSize)
    (hSending : l.pipe.Sending) (hOutgoing : l.mailbox.outgoing = some packet) :
    l.host.received ++ packet :: l.pipe.pending = all := by
  have hQueue : l.host.received ++ (l.mailbox.outgoing.toList ++ l.pipe.pending) = all :=
    h.serving.queue_of_sending hSending
  rwa [hOutgoing] at hQueue

theorem reaches_leftover_of_satisfied (h : l.Consistent base all requested packetSize)
    (hClasses : l.session.classes = []) (hSending : l.pipe.Sending)
    (hOutgoing : l.mailbox.outgoing = some packet) (hUnsent : l.host.statusSent = false)
    (hSatisfied : l.host.Satisfied) :
    ∃ l', Reaches perform l l' ∧ l'.pipe.state = .idle ∧ ¬ l'.AllCollected base := by
  have hStatus : perform .sendStatus l = .done (.ok ()) l.acknowledged := by
    rw [perform, bind_apply, get_apply]
    dsimp only
    rw [when_of_true ⟨hSatisfied, hUnsent⟩]
    rfl
  have hDue : l.acknowledged.Due 1 0 0 := ⟨by decide, fun _ => nofun, fun hIn => absurd hIn (by decide)⟩
  have hReceive : Session.receive 1 0 (l.acknowledged.delivering 1 0 0).session.device.polled.control =
      .done (.ok none) (l.acknowledged.delivering 1 0 0).session.device.polled.control.finished :=
    receive_status (by decide) (by decide) h.serving.epOut hSending rfl
  have hPoll := poll_done (l := l.acknowledged) hClasses h.serving.awake hDue (by decide)
    (pollControl_of_received hReceive (by decide))
  refine ⟨_, .step _ (.step _ .refl hStatus) hPoll, rfl, fun hAll => ?_⟩
  have hTrace (pr : PollResult) (len : Nat) (result : Except UsbError (List UInt8)) :
      accepted (.control .in_) ((l.pipe.bus.trace ++ [.poll pr]) ++ [.read (.control .out) len result])
        = accepted (.control .in_) l.pipe.bus.trace := by
    rw [accepted_append, accepted_append]
    exact (List.append_nil _).trans (List.append_nil _)
  have hAccepted : base ++ l.host.received ++ [packet] = base ++ l.host.received := by
    have hBefore := h.serving.accepted
    rw [show l.session.device.control.bus.bus.outgoing = some packet from hOutgoing] at hBefore
    exact hBefore.symm.trans ((hTrace _ _ _).symm.trans hAll)
  have hLength := congrArg List.length hAccepted
  rw [List.length_append, List.length_singleton] at hLength
  omega

/-- The host collects a packet and the device sends the next one. -/
theorem reaches_next (h : l.Consistent base all requested packetSize) (hSize : 0 < packetSize)
    (hClasses : l.session.classes = []) (hSending : l.pipe.Sending)
    (hOutgoing : l.mailbox.outgoing = some packet) {next : List UInt8}
    (hPending : l.pipe.pending = next :: rest) (hUnsent : l.host.statusSent = false)
    (hNot : ¬ l.host.Satisfied) :
    ∃ l', Reaches perform l l' ∧ l'.Consistent base all requested packetSize ∧
      l'.session.classes = [] ∧ l'.pipe.Sending ∧ l'.mailbox.outgoing = some next ∧
      l'.pipe.pending = rest ∧ l'.host.statusSent = false ∧
      l'.host.received = l.host.received ++ [packet] := by
  have hCollect : perform .collect l = .done (.ok ()) (l.collected packet) := by
    rw [perform, bind_apply, get_apply]
    dsimp only
    rw [hOutgoing]
    dsimp only
    rw [when_of_true hNot]
    rfl
  have hCollected := h.collected hOutgoing hNot
  have hDue : (l.collected packet).Due 0 1 0 :=
    ⟨by decide, fun hOut => absurd hOut (by decide), fun _ => rfl⟩
  let d := ((l.collected packet).delivering 0 1 0).session.device.polled
  have hPolled : Serving base all (l.collected packet).host d :=
    hCollected.serving.withBus rfl rfl ((accepted_append _ _ _).trans (List.append_nil _))
  have hWhole := UsbBus.WholeWrites.write_eq d.control.bus.bus d.control.epIn.address next
  obtain ⟨r, p, hHandle, hSent⟩ := ControlPipe.handleInComplete_sent (p := d.control)
    (hPolled.size ▸ hCollected.packetSize ▸ hSize) hSending hPending hWhole
  have hr := (ControlPipe.completes_of_handleInComplete hHandle).ne_true hSending
  have hPoll := poll_done (l := l.collected packet) hClasses h.serving.awake hDue (by decide)
    (pollControl_of_completed rfl (by decide) hHandle hr)
  have hFree : d.control.bus.bus.outgoing = none := rfl
  have hAll : (l.collected packet).host.received ++ next :: rest = all := by
    rw [← hPending]
    exact hPolled.queue_of_sending hSending
  have hBus := hPolled.toAttached.bus_of_sent hFree hSent
  refine ⟨_, .step _ (.step _ .refl hCollect) hPoll,
    ⟨h.requested, h.packetSize, hPolled.toAttached.sent hFree hSent hAll, ?_, ?_⟩,
    hClasses, hSent.sending, congrArg (fun t : Traced Mailbox => t.bus.outgoing) hBus,
    hPolled.toAttached.pending_of_sent hFree hSent, hUnsent, rfl⟩
  · exact fun hTrue => absurd (show false = true from hTrue) Bool.false_ne_true
  · intro hTrue
    cases hUnsent.symm.trans hTrue

/-- When full packets make up all that the host asked for, the last and empty one can be left. -/
theorem reaches_leftover (h : l.Consistent base (packets packetSize message) requested packetSize)
    (hSize : 0 < packetSize) (hLength : message.length = requested)
    (hDvd : packetSize ∣ requested) (hClasses : l.session.classes = [])
    (hSending : l.pipe.Sending) (hOutgoing : l.mailbox.outgoing = some packet)
    (hPending : l.pipe.pending = rest) (hUnsent : l.host.statusSent = false) :
    ∃ l', Reaches perform l l' ∧ l'.pipe.state = .idle ∧ ¬ l'.AllCollected base := by
  induction rest generalizing l packet with
  | nil =>
    have hQueue := h.queue hSending hOutgoing
    rw [hPending] at hQueue
    refine reaches_leftover_of_satisfied h hClasses hSending hOutgoing hUnsent (.inl ?_)
    have hEnd : (packets packetSize message).dropLast ++ [[]] = l.host.received ++ [packet] :=
      (packets_of_dvd (hLength ▸ hDvd)).symm.trans hQueue.symm
    obtain ⟨-, hEmpty⟩ := List.append_inj' hEnd rfl
    obtain rfl : [] = packet := (List.cons.inj hEmpty).1
    have hFlatten : (l.host.received ++ [[]]).flatten = message :=
      (congrArg List.flatten hQueue).trans (flatten_packets hSize message)
    rw [List.flatten_append, List.flatten_singleton, List.append_nil] at hFlatten
    exact Nat.le_of_eq (h.requested.trans (hLength.symm.trans (congrArg List.length hFlatten.symm)))
  | cons next rest ih =>
    have hQueue := h.queue hSending hOutgoing
    rw [hPending] at hQueue
    have hPacket : packet.length = packetSize := by
      have hSplit : packets packetSize message = (l.host.received ++ [packet]) ++ next :: rest := by
        rw [← hQueue, List.append_assoc]
        rfl
      exact length_of_mem_packets hSplit (List.mem_append_right _ List.mem_cons_self)
    have hMore : l.host.received.flatten.length < l.host.requested := by
      have hFlatten : (l.host.received ++ packet :: next :: rest).flatten.length = requested := by
        rw [hQueue, flatten_packets hSize, hLength]
      rw [List.flatten_append, List.flatten_cons, List.length_append, List.length_append,
        hPacket] at hFlatten
      rw [h.requested]
      omega
    have hNot := Host.not_satisfied_of_lt (h.packetSize.symm ▸ hQueue.symm) hMore
    obtain ⟨mid, hReaches, hMid, hNone, hSends, hNext, hRest, hStill, -⟩ :=
      reaches_next h hSize hClasses hSending hOutgoing hPending hUnsent hNot
    obtain ⟨l', hReaches', hLeft⟩ := ih hMid hNone hSends hNext hRest hStill
    exact ⟨l', hReaches.trans hReaches', hLeft⟩

end Link

end Leftover

section Agreement

variable {d : UsbDevice Mailbox} {req : Request} {answer : ControlPipe.Answer} {len : Nat}

def Link.start {C : Type} (requested packetSize : Nat) (d : UsbDevice Mailbox) (classes : List C) :
    Link C where
  host := .asking requested packetSize
  session := ⟨d, classes⟩
  completed := false

theorem Link.Consistent.allCollected {C : Type} {base all : List (List UInt8)}
    {requested packetSize : Nat} {l : Link C} (h : l.Consistent base all requested packetSize)
    (hIdle : l.pipe.state = .idle) : l.AllCollected base := by
  rcases h.serving.stage with ⟨hSending, -⟩ | ⟨-, hOutgoing, -⟩
  · unfold ControlPipe.Sending at hSending
    rw [show l.session.device.control.state = .idle from hIdle] at hSending
    exact hSending.elim
  · have hAccepted := h.serving.accepted
    rw [hOutgoing, Option.toList_none, List.append_nil] at hAccepted
    exact hAccepted

/-- The host and the device agree on the end of the stage, in every interleaving, unless the
response fills what the host asked for with full packets. -/
theorem allCollected_iff_not_filled (hSize : 0 < d.control.epIn.maxPacketSize.toNat)
    (hAwake : d.deviceState ≠ .suspend) (hOut : d.control.epOut.address = .control .out)
    (hIn : d.control.epIn.address = .control .in_)
    (hOutgoing : d.control.bus.bus.outgoing = none)
    (hIncoming : d.control.bus.bus.incoming = none)
    (hState : d.control.state = .completeIn req) (hLen : answer.Announces d.control req len) :
    ∃ r p, answer.perform d.control = .done r p ∧
      ((∀ (C : Type) [UsbClass C] (classes : List C) (l : Link C),
          Reaches Link.perform (Link.start req.length.toNat d.control.epIn.maxPacketSize.toNat
            (d.withPipe p) classes) l →
          l.pipe.state = .idle →
          l.AllCollected (accepted (.control .in_) d.control.bus.trace)) ↔
        ¬ (req.length.toNat ≤ len ∧ d.control.epIn.maxPacketSize.toNat ∣ req.length.toNat)) := by
  obtain ⟨message, hSends, hLength⟩ := hLen.sends
  obtain ⟨r, p, packet, rest, hDone, hPackets, hSent⟩ :=
    answer.perform_sent hSize hState hSends (UsbBus.WholeWrites.write_eq d.control.bus.bus _)
  have hAttached : Attached (accepted (.control .in_) d.control.bus.trace)
      (.asking req.length.toNat d.control.epIn.maxPacketSize.toNat) d := by
    refine ⟨hAwake, hOut, hIn, rfl, ?_, ?_⟩
    · rw [hOutgoing]
      exact ((List.append_nil _).trans (List.append_nil _)).symm
    · rw [hIncoming]
      nofun
  have hStart (C : Type) [UsbClass C] (classes : List C) :
      (Link.start req.length.toNat d.control.epIn.maxPacketSize.toNat (d.withPipe p)
        classes).Consistent (accepted (.control .in_) d.control.bus.trace)
        (packets d.control.epIn.maxPacketSize.toNat message) req.length.toNat
        d.control.epIn.maxPacketSize.toNat :=
    ⟨rfl, rfl, hAttached.sent hOutgoing hSent hPackets.symm, nofun, nofun⟩
  refine ⟨r, p, hDone, fun hAgree => ?_, fun hNot C _ classes l hReaches hIdle => ?_⟩
  · rintro ⟨hFilled, hDvd⟩
    have hFull : message.length = req.length.toNat := hLength.trans (Nat.min_eq_right hFilled)
    have hWaiting := congrArg (fun t : Traced Mailbox => t.bus.outgoing)
      (hAttached.bus_of_sent hOutgoing hSent)
    obtain ⟨l, hReaches, hIdle, hLeft⟩ := Link.reaches_leftover (hStart DefaultClass []) hSize
      hFull hDvd rfl hSent.sending hWaiting rfl rfl
    exact hLeft (hAgree DefaultClass [] l hReaches hIdle)
  · refine (hReaches.invariant (hStart C classes) fun action l h => ?_).allCollected hIdle
    refine Link.consistent_perform hSize (fun host hRequested hPacketSize next rest hAll => ?_)
      h action
    refine Host.not_satisfied (hPacketSize.symm ▸ hSize) (hPacketSize.symm ▸ hAll.symm) ?_
    rw [hRequested, hPacketSize, hLength]
    by_cases hFilled : req.length.toNat ≤ len
    · exact .inr ⟨Nat.min_eq_right hFilled, fun hDvd => hNot ⟨hFilled, hDvd⟩⟩
    · exact .inl (by omega)

def askedDevice (length : UInt16) : UsbDevice Mailbox where
  config := (UsbDeviceBuilder.new ⟨0, 0⟩ []).config
  control := { ControlPipe.new ⟨Mailbox.empty, []⟩ (List.replicate 8 0) (.control .out 8)
      (.control .in_ 8) with
    state := .completeIn ⟨.in_, .standard, .device, 6, 0x100, 0, length⟩ }
  deviceState := .default
  remoteWakeupEnabled := false
  selfPowered := false
  suspendedDeviceState := none
  pendingAddress := 0

/-- Two bytes of sixty-four. -/
theorem allCollected_iff_not_filled_two :
    ∃ r p, (ControlPipe.Answer.static [1, 2]).perform (askedDevice 64).control = .done r p ∧
      ∀ (C : Type) [UsbClass C] (classes : List C) (l : Link C),
        Reaches Link.perform (Link.start 64 8 ((askedDevice 64).withPipe p) classes) l →
        l.pipe.state = .idle → l.AllCollected [] := by
  have hLen : (ControlPipe.Answer.static [1, 2]).Announces (askedDevice 64).control
      ⟨.in_, .standard, .device, 6, 0x100, 0, 64⟩ 2 := rfl
  obtain ⟨r, p, hDone, hAgree⟩ := allCollected_iff_not_filled (by decide) (by decide) rfl rfl rfl
    rfl rfl hLen
  exact ⟨r, p, hDone, hAgree.mpr (by decide)⟩

def filledPipe : ControlPipe Mailbox :=
  ((ControlPipe.Answer.static [1, 2, 3, 4, 5, 6, 7, 8]).perform (askedDevice 8).control).state?.get
    (by decide +kernel)

def filledLink : Link DefaultClass :=
  (finalState Link.perform [.collect, .poll 0 1 0, .sendStatus, .poll 1 0 0]
    (Link.start 8 8 ((askedDevice 8).withPipe filledPipe) [])).get (by decide +kernel)

/-- Eight bytes of eight: the host is satisfied, and an empty packet is left. -/
theorem not_forall_allCollected :
    ¬ ∀ (d : UsbDevice Mailbox) (req : Request) (answer : ControlPipe.Answer) (len : Nat),
      0 < d.control.epIn.maxPacketSize.toNat → d.deviceState ≠ .suspend →
      d.control.epOut.address = .control .out → d.control.epIn.address = .control .in_ →
      d.control.bus.bus.outgoing = none → d.control.bus.bus.incoming = none →
      d.control.state = .completeIn req → answer.Announces d.control req len →
      ∀ r p, answer.perform d.control = .done r p →
      ∀ (C : Type) [UsbClass C] (classes : List C) (l : Link C),
        Reaches Link.perform (Link.start req.length.toNat d.control.epIn.maxPacketSize.toNat
          (d.withPipe p) classes) l →
        l.pipe.state = .idle →
        l.AllCollected (accepted (.control .in_) d.control.bus.trace) := by
  intro h
  obtain ⟨r, hDone⟩ : ∃ r, (ControlPipe.Answer.static [1, 2, 3, 4, 5, 6, 7, 8]).perform
      (askedDevice 8).control = .done r filledPipe :=
    Outcome.exists_done (Option.some_get _).symm
  have hReaches : Reaches Link.perform
      (Link.start 8 8 ((askedDevice 8).withPipe filledPipe) []) filledLink :=
    reaches_of_finalState (Option.some_get _).symm
  have hAll := h (askedDevice 8) _ (.static [1, 2, 3, 4, 5, 6, 7, 8]) 8 (by decide) (by decide)
    rfl rfl rfl rfl rfl rfl r filledPipe hDone DefaultClass [] filledLink hReaches (by decide +kernel)
  unfold Link.AllCollected at hAll
  exact absurd hAll (by decide +kernel)

end Agreement

end UsbStack
