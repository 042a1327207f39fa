import UsbStack.Foundation.History
import UsbStack.Mailbox
import UsbStack.PipeInvariant

/-! # The packets on EP0-IN

In every run a packet on EP0-IN answers the SETUP packet that was taken up last, and it takes its
turn in the answer: data packets are full but for the last, they hold no more than the host asked
for, and a request that sends data is answered with one empty packet.
-/

namespace UsbStack

set_option autoImplicit false

open Foundation Exec

/-- The request that EP0-IN answers, and the packets of the answer that the bus has taken. -/
structure Answering where
  request : Request
  sent : List (List UInt8)
  deriving DecidableEq

namespace Answering

def step (now : Option Answering) : Event → Option Answering
  | .reset => none
  | .setup req => some ⟨req, []⟩
  | .write addr data (.ok _) =>
    if addr = .control .in_ then now.map fun a => { a with sent := a.sent ++ [data] } else now
  | _ => now

def Full (size : Nat) (a : Answering) : Prop := ∀ packet ∈ a.sent, packet.length = size

def Admits (size : Nat) (a : Answering) (packet : List UInt8) : Prop :=
  match a.request.direction with
  | .in_ => a.Full size ∧ packet.length ≤ size ∧
      a.sent.flatten.length + packet.length ≤ a.request.length.toNat
  | .out => a.sent = [] ∧ packet = []

variable {size : Nat} {a : Answering} {packet : List UInt8}

theorem Full.snoc (h : a.Full size) (hPacket : packet.length = size) :
    Full size { a with sent := a.sent ++ [packet] } := by
  intro other hOther
  rcases List.mem_append.mp hOther with hMem | hMem
  · exact h other hMem
  · rw [List.mem_singleton.mp hMem]
    exact hPacket

theorem length_flatten_snoc (sent : List (List UInt8)) (packet : List UInt8) :
    (sent ++ [packet]).flatten.length = sent.flatten.length + packet.length := by
  rw [List.flatten_append, List.length_append, List.flatten_singleton]

end Answering

def answering (trace : List Event) : Option Answering := trace.foldl Answering.step none

theorem answering_snoc (trace : List Event) (event : Event) :
    answering (trace ++ [event]) = Answering.step (answering trace) event := by
  rw [answering, List.foldl_append]
  rfl

/-- If the event is a packet on EP0-IN, it takes its turn. -/
def InTurn (size : Nat) (before : List Event) : Event → Prop
  | .write addr packet _ =>
    addr = .control .in_ → ∃ a, answering before = some a ∧ a.Admits size packet
  | _ => True

def QuietEvent : Event → Prop
  | .reset | .setup _ => False
  | .write addr _ _ => addr ≠ .control .in_
  | _ => True

theorem quietEvent_of_aside {event : Event} (h : AsideEvent event) : QuietEvent event := by
  cases event with
  | write addr packet result => exact fun hControl => h (hControl ▸ EndpointAddress.index_control .in_)
  | reset => exact h
  | setup req => exact h
  | _ => trivial

theorem inTurn_of_quiet {size : Nat} {before : List Event} {event : Event} (h : QuietEvent event) :
    InTurn size before event := by
  cases event with
  | write addr packet result => exact fun hControl => absurd hControl h
  | _ => trivial

theorem step_of_quiet {now : Option Answering} {event : Event} (h : QuietEvent event) :
    Answering.step now event = now := by
  cases event with
  | reset => exact h.elim
  | setup req => exact h.elim
  | write addr packet result =>
    cases result with
    | error e => rfl
    | ok count => exact if_neg h
  | _ => rfl

variable {B C : Type} [UsbBus B]

namespace ControlPipe

variable {p q : ControlPipe B}

/-- What the state of the pipe says about the answer on EP0-IN. -/
def Accounts (p : ControlPipe B) (now : Option Answering) : Prop :=
  match p.state with
  | .completeIn req => now = some ⟨req, []⟩ ∧ req.direction = .in_
  | .dataOut req => now = some ⟨req, []⟩ ∧ req.direction = .out
  | .completeOut => ∃ req, now = some ⟨req, []⟩ ∧ req.direction = .out
  | .dataIn => ∃ a, now = some a ∧ a.request.direction = .in_ ∧
      a.Full p.epIn.maxPacketSize.toNat ∧ a.sent.flatten.length = p.i ∧
      p.len ≤ a.request.length.toNat
  | .dataInZlp => ∃ a, now = some a ∧ a.request.direction = .in_ ∧
      a.Full p.epIn.maxPacketSize.toNat ∧ a.sent.flatten.length ≤ a.request.length.toNat
  | _ => True

structure Orderly (p : ControlPipe B) : Prop where
  epIn : p.epIn.address = .control .in_
  turns : Causal (InTurn p.epIn.maxPacketSize.toNat) p.bus.trace
  accounts : p.Accounts (answering p.bus.trace)

namespace Orderly

omit [UsbBus B] in
theorem quiet (h : p.Orderly) (hEpIn : q.epIn = p.epIn) (hGrows : Traced.Grows QuietEvent p.bus q.bus)
    (hAccounts : ∀ now, p.Accounts now → q.Accounts now) : q.Orderly := by
  have hSame : answering q.bus.trace = answering p.bus.trace :=
    Traced.Grows.foldl_eq (P := QuietEvent) (fun _ _ hEvent => step_of_quiet hEvent) hGrows none
  obtain ⟨events, hTrace, hEvents⟩ := hGrows
  refine ⟨hEpIn ▸ h.epIn, ?_, hSame ▸ hAccounts _ h.accounts⟩
  rw [hEpIn, hTrace]
  exact h.turns.append fun event hEvent _ => inTurn_of_quiet (hEvents event hEvent)

theorem noted (h : p.Orderly) (req : Request) (hEpIn : q.epIn = p.epIn)
    (hBus : q.bus = p.noted req) (hAccounts : q.Accounts (some ⟨req, []⟩)) : q.Orderly := by
  have hTrace : q.bus.trace =
      (p.bus.trace ++ [.setStalled p.epOut.address false]) ++ [.setup req] := by
    rw [hBus]
    rfl
  refine ⟨hEpIn ▸ h.epIn, ?_, ?_⟩
  · rw [hEpIn, hTrace]
    have hUnstalled : Causal (InTurn p.epIn.maxPacketSize.toNat)
        (p.bus.trace ++ [.setStalled p.epOut.address false]) := h.turns.snoc trivial
    exact hUnstalled.snoc trivial
  · rw [hTrace, answering_snoc]
    exact hAccounts

theorem wrote (h : p.Orderly) {a : Answering} (hNow : answering p.bus.trace = some a)
    {packet : List UInt8} (hAdmits : a.Admits p.epIn.maxPacketSize.toNat packet)
    (hEpIn : q.epIn = p.epIn) (hBus : q.bus = p.bus.writing p.epIn.address packet)
    (hRefused : ∀ e, (UsbBus.write p.bus.bus p.epIn.address packet).1 = .error e →
      q.Accounts (some a))
    (hTaken : ∀ count, (UsbBus.write p.bus.bus p.epIn.address packet).1 = .ok count →
      q.Accounts (some { a with sent := a.sent ++ [packet] })) : q.Orderly := by
  have hTrace : q.bus.trace = p.bus.trace ++
      [.write (.control .in_) packet (UsbBus.write p.bus.bus p.epIn.address packet).1] := by
    rw [hBus, Traced.trace_writing, h.epIn]
  refine ⟨hEpIn ▸ h.epIn, ?_, ?_⟩
  · rw [hEpIn, hTrace]
    exact h.turns.snoc fun _ => ⟨a, hNow, hAdmits⟩
  · rw [hTrace, answering_snoc, hNow]
    cases hWrite : (UsbBus.write p.bus.bus p.epIn.address packet).1 with
    | error e => exact hRefused e hWrite
    | ok count =>
      have hStep : Answering.step (some a) (.write (.control .in_) packet (.ok count)) =
          some { a with sent := a.sent ++ [packet] } := rfl
      rw [hStep]
      exact hTaken count hWrite

theorem errored (h : p.Orderly) (buf : List UInt8) :
    ({ p with buf := buf } : ControlPipe B).errored.Orderly := by
  refine h.quiet rfl ?_ fun _ _ => trivial
  exact ⟨[.setStalled p.epOut.address true, .setStalled p.epIn.address true],
    List.append_assoc _ [_] [_], by simp [QuietEvent]⟩

theorem acceptOut (h : p.Orderly) {r : Except UsbError Unit} (hAccepts : p.AcceptsOut r q) :
    q.Orderly := by
  have hOffered (hState : p.state = .completeOut) : ∃ a, answering p.bus.trace = some a ∧
      a.Admits p.epIn.maxPacketSize.toNat [] := by
    have hAccounts := h.accounts
    unfold Accounts at hAccounts
    rw [hState] at hAccounts
    obtain ⟨req, hNow, hOut⟩ := hAccounts
    refine ⟨_, hNow, ?_⟩
    unfold Answering.Admits
    rw [hOut]
    exact ⟨rfl, rfl⟩
  cases hAccepts with
  | unexpected _ => exact h
  | refused hState hWrite =>
    obtain ⟨a, hNow, hAdmits⟩ := hOffered hState
    refine h.wrote hNow hAdmits rfl rfl (fun _ _ => ?_) fun count hOk => ?_
    · exact hNow ▸ h.accounts
    · rw [hWrite] at hOk
      cases hOk
  | accepted hState =>
    obtain ⟨a, hNow, hAdmits⟩ := hOffered hState
    exact h.wrote hNow hAdmits rfl rfl (fun _ _ => trivial) fun _ _ => trivial

theorem reject (h : p.Orderly) {r : Except UsbError Unit} (hDone : reject p = .done r q) :
    q.Orderly := by
  rw [reject_apply] at hDone
  split at hDone
  · cases hDone
    exact h.errored p.buf
  · cases hDone
    exact h

/-- The chunk that comes next, and the pipe after it. -/
theorem writeInChunk [UsbBus.WholeWrites B] (h : p.Orderly) (hState : p.state = .dataIn)
    {r : Except UsbError Unit} (hDone : writeInChunk p = .done r q) : q.Orderly := by
  have hAccounts := h.accounts
  unfold Accounts at hAccounts
  rw [hState] at hAccounts
  obtain ⟨a, hNow, hIn, hFull, hSent, hLen⟩ := hAccounts
  rw [writeInChunk_apply] at hDone
  split at hDone
  · cases hDone
  rename_i hIndex
  split at hDone
  · cases hDone
  rename_i chunk hChunk
  have hLength : chunk.length = p.chunkLength := by
    obtain ⟨-, hStop, rfl⟩ := slice?_eq_some hChunk
    rw [List.length_take, List.length_drop]
    omega
  have hMost : p.chunkLength ≤ p.epIn.maxPacketSize.toNat ∧ p.i + p.chunkLength ≤ p.len := by
    unfold chunkLength
    omega
  have hAdmits : a.Admits p.epIn.maxPacketSize.toNat chunk := by
    unfold Answering.Admits
    rw [hIn]
    exact ⟨hFull, by omega, by omega⟩
  split at hDone
  · rename_i e hWrite
    cases hDone
    refine h.wrote hNow hAdmits rfl rfl (fun _ _ => ?_) fun count hOk => ?_
    · exact hNow ▸ h.accounts
    · rw [hWrite] at hOk
      cases hOk
  · rename_i written hWrite
    have hWritten : written = p.chunkLength := by
      rw [← hLength]
      exact UsbBus.WholeWrites.write_eq _ _ _ _ hWrite
    split at hDone
    · cases hDone
    cases hDone
    have hTotal : (a.sent ++ [chunk]).flatten.length = p.i + written := by
      rw [Answering.length_flatten_snoc, hSent, hLength, hWritten]
    have hNot {Q : Prop} (e : UsbError)
        (hError : (UsbBus.write p.bus.bus p.epIn.address chunk).1 = .error e) : Q := by
      rw [hWrite] at hError
      cases hError
    rcases Nat.lt_or_ge (p.i + written) p.len with hLt | hLe
    · have hWhole : chunk.length = p.epIn.maxPacketSize.toNat := by
        unfold chunkLength at hLength hWritten
        omega
      rw [advanced_of_lt p hLt]
      refine h.wrote hNow hAdmits rfl rfl (fun e => hNot e) fun _ _ => ?_
      unfold Accounts
      dsimp only [ControlPipe.offered]
      rw [hState]
      exact ⟨_, rfl, hIn, hFull.snoc hWhole, hTotal, hLen⟩
    · rw [advanced_of_le p hLe]
      refine h.wrote hNow hAdmits rfl rfl (fun e => hNot e) fun _ _ => ?_
      by_cases hLast : written = p.epIn.maxPacketSize.toNat
      · rw [if_pos hLast]
        refine ⟨_, rfl, hIn, hFull.snoc (by rw [hLength, ← hWritten, hLast]), ?_⟩
        change (a.sent ++ [chunk]).flatten.length ≤ a.request.length.toNat
        omega
      · rw [if_neg hLast]
        trivial

omit [UsbBus B] in
/-- The answer starts with nothing sent. -/
theorem started (h : p.Orderly) {req : Request} (hState : p.state = .completeIn req)
    (buf : List UInt8) (source : Option (List UInt8)) (dataLen : Nat) :
    (({ p with buf := buf, staticInBuf := source } : ControlPipe B).started req dataLen).Orderly := by
  have hAccounts := h.accounts
  unfold Accounts at hAccounts
  rw [hState] at hAccounts
  obtain ⟨hNow, hIn⟩ := hAccounts
  refine ⟨h.epIn, h.turns, ⟨req, []⟩, hNow, hIn, ?_, rfl, Nat.min_le_right _ _⟩
  exact fun packet hPacket => absurd hPacket List.not_mem_nil

theorem acceptIn [UsbBus.WholeWrites B] (h : p.Orderly) (f : SliceFn) {r : Except UsbError Unit}
    (hDone : acceptIn f.run p = .done r q) : q.Orderly := by
  by_cases hState : ∃ req, p.state = .completeIn req
  · obtain ⟨req, hState⟩ := hState
    rw [acceptIn_completeIn p hState] at hDone
    cases hRun : f.run p.buf with
    | panic reason =>
      rw [hRun] at hDone
      cases hDone
    | done r' buf =>
      rw [hRun] at hDone
      cases r' with
      | error e =>
        cases hDone
        exact h.quiet rfl (.refl _) fun _ => id
      | ok len =>
        dsimp only at hDone
        split at hDone
        · cases hDone
          exact h.errored buf
        · exact (h.started hState buf p.staticInBuf len).writeInChunk rfl hDone
  · rw [acceptIn_of_ne p fun req hReq => hState ⟨req, hReq⟩] at hDone
    cases hDone
    exact h

theorem acceptInStatic [UsbBus.WholeWrites B] (h : p.Orderly) {data : List UInt8}
    {r : Except UsbError Unit} (hDone : acceptInStatic data p = .done r q) : q.Orderly := by
  by_cases hState : ∃ req, p.state = .completeIn req
  · obtain ⟨req, hState⟩ := hState
    rw [acceptInStatic_completeIn p hState] at hDone
    exact (h.started hState p.buf (some data) data.length).writeInChunk rfl hDone
  · rw [acceptInStatic_of_ne p fun req hReq => hState ⟨req, hReq⟩] at hDone
    cases hDone
    exact h

/-- A completion writes the packet whose turn it is. -/
theorem handleInComplete [UsbBus.WholeWrites B] (h : p.Orderly) {r : Except UsbError Bool}
    (hDone : handleInComplete p = .done r q) : q.Orderly := by
  have hAccounts := h.accounts
  unfold Accounts at hAccounts
  cases hState : p.state with
  | dataIn =>
    rw [handleInComplete_dataIn p hState] at hDone
    split at hDone
    · cases hDone
      exact h.writeInChunk hState ‹_›
    · cases hDone
      exact h.writeInChunk hState ‹_›
    · cases hDone
  | dataInZlp =>
    rw [hState] at hAccounts
    obtain ⟨a, hNow, hIn, hFull, hTotal⟩ := hAccounts
    have hAdmits : a.Admits p.epIn.maxPacketSize.toNat [] := by
      unfold Answering.Admits
      rw [hIn]
      exact ⟨hFull, Nat.zero_le _, hTotal⟩
    rw [handleInComplete_dataInZlp p hState] at hDone
    split at hDone
    · rename_i count hWrite
      cases hDone
      refine h.wrote hNow hAdmits rfl rfl (fun e hError => ?_) fun _ _ => trivial
      rw [hWrite] at hError
      cases hError
    · rename_i e hWrite
      cases hDone
      refine h.wrote hNow hAdmits rfl rfl (fun _ _ => hNow ▸ h.accounts) fun count hOk => ?_
      rw [hWrite] at hOk
      cases hOk
  | dataInLast =>
    rw [handleInComplete_dataInLast p hState] at hDone
    cases hDone
    exact h.quiet rfl (.single rfl trivial) fun _ _ => trivial
  | statusIn =>
    rw [handleInComplete_statusIn p hState] at hDone
    cases hDone
    exact h.quiet rfl (.refl _) fun _ _ => trivial
  | idle | completeIn req | statusOut | completeOut | dataOut req | error =>
    rw [handleInComplete_unsending p (by rw [hState]; trivial)] at hDone
    cases hDone
    exact h

theorem asked (h : p.Orderly) (len : Nat) : (p.asked len).Orderly :=
  h.quiet rfl (.single rfl trivial) fun _ => id

theorem loaded (h : p.Orderly) (start : Nat) (packet : List UInt8) :
    (p.loaded start packet).Orderly := h.quiet rfl (.single rfl trivial) fun _ => id

theorem begun (h : p.Orderly) (req : Request) : (p.begun req).2.Orderly := by
  rcases p.begun_cases req with ⟨-, hBegun⟩ | ⟨hOut, hBegun⟩ | ⟨hOut, hBegun⟩ | ⟨hIn, hBegun⟩ <;>
    rw [hBegun]
  · exact h.quiet rfl (.single rfl trivial) fun _ => id
  · exact h.noted req rfl rfl ⟨rfl, hOut⟩
  · exact h.noted req rfl rfl ⟨req, rfl, hOut⟩
  · exact h.noted req rfl rfl ⟨rfl, hIn⟩

/-- What arrives on EP0-OUT writes no packet, and a SETUP packet starts a new answer. -/
theorem receives (h : p.Orderly) {epSetup : UInt16} {found : Option Request}
    (hReceives : p.Receives epSetup found q) : q.Orderly := by
  cases hReceives with
  | nothing => exact h
  | unread len => exact h.asked len
  | unparsed packet _ => exact h.loaded 0 packet
  | setup packet req _ _ _ _ => exact (h.loaded 0 packet).begun req
  | failed req len _ => exact (h.asked len).errored p.buf
  | more req packet hState _ =>
    refine (h.loaded p.i packet).quiet rfl (.refl _) fun now hNow => ?_
    unfold Accounts at hNow ⊢
    dsimp only [ControlPipe.loaded, ControlPipe.asked] at hNow ⊢
    rw [hState] at hNow ⊢
    exact hNow
  | complete req packet hState _ =>
    refine (h.loaded p.i packet).quiet rfl (.refl _) fun now hNow => ?_
    unfold Accounts at hNow
    dsimp only [ControlPipe.loaded, ControlPipe.asked] at hNow
    rw [hState] at hNow
    exact ⟨req, hNow⟩
  | status _ => exact (h.asked 0).quiet rfl (.refl _) fun _ _ => trivial
  | unexpected _ => exact (h.asked 0).errored p.buf

theorem wasReset (h : p.Orderly) : p.wasReset.Orderly where
  epIn := h.epIn
  turns := h.turns.snoc trivial
  accounts := trivial

omit [UsbBus B] in
theorem of_initial {d : UsbDevice B} (h : d.Initial) : d.control.Orderly where
  epIn := h.wellFormed.epIn
  turns := by
    rw [h.trace]
    exact causal_nil.snoc trivial
  accounts := by
    unfold Accounts
    rw [h.idle]
    trivial

theorem invariant [UsbBus.WholeWrites B] : ControlPipe.Invariant (Orderly (B := B)) where
  aside p t h hGrows := h.quiet rfl (hGrows.mono fun _ => quietEvent_of_aside) fun _ => id
  reset p h := h.wasReset
  receive epOut epSetup := within_carries fun p r q hDone h => by
    obtain ⟨found, -, hReceives⟩ := receives_of_receive hDone
    exact h.receives hReceives
  handleInComplete := within_carries fun _ _ _ hDone h => h.handleInComplete hDone
  acceptIn f := within_carries fun _ _ _ hDone h => h.acceptIn f hDone
  acceptInStatic _ := within_carries fun _ _ _ hDone h => h.acceptInStatic hDone
  acceptOut := within_carries fun _ _ _ hDone h => h.acceptOut (acceptsOut_of_acceptOut hDone)
  reject := within_carries fun _ _ _ hDone h => h.reject hDone

end Orderly

end ControlPipe

/-- In every run each packet on EP0-IN takes its turn in the answer to the SETUP packet that was
taken up last. -/
theorem packets_in_turn [UsbBus.Contract B] [UsbBus.WholeWrites B] [UsbClass C] {s : Session B C}
    (h : s.Reachable) :
    Causal (InTurn s.device.control.epIn.maxPacketSize.toNat) s.device.control.bus.trace := by
  have hOrderly : s.device.control.Orderly :=
    ControlPipe.Orderly.invariant.reachable (fun d hFresh => .of_initial hFresh.initial) h
  exact hOrderly.turns

/-- The device of an untouched builder with a buffer of 64 bytes, which the host asks for the device
descriptor. -/
def describingDevice : UsbDevice Mailbox where
  config := (UsbDeviceBuilder.new ⟨0, 0⟩ []).config
  control := .new ⟨⟨none, some [0x80, 6, 0, 1, 0, 0, 18, 0], .data 0 0 1⟩, [.enable]⟩
    (List.replicate 64 0) (.control .out 8) (.control .in_ 8)
  deviceState := .default
  remoteWakeupEnabled := false
  selfPowered := false
  suspendedDeviceState := none
  pendingAddress := 0

theorem fresh_describingDevice : describingDevice.Fresh :=
  ⟨.new ⟨0, 0⟩ (List.replicate 64 0), ⟨none, some [0x80, 6, 0, 1, 0, 0, 18, 0], .data 0 0 1⟩,
    ⟨_, [.enable]⟩, .new _ _, rfl⟩

def describingStart : Session Mailbox DefaultClass := ⟨describingDevice, []⟩

def describingInputs : List (DeviceInput Mailbox DefaultClass) :=
  [.poll, .hardware ⟨none, none, .data 0 1 0⟩, .poll, .hardware ⟨none, none, .data 0 1 0⟩, .poll]

def describingSession : Session Mailbox DefaultClass :=
  (finalState DeviceInput.perform describingInputs describingStart).get (by decide +kernel)

/-- The device descriptor takes three packets. -/
theorem packets_in_turn_descriptor :
    answering describingSession.device.control.bus.trace =
      some ⟨⟨.in_, .standard, .device, Request.getDescriptor, 0x100, 0, 18⟩,
        [[18, 1, 0x10, 2, 0, 0, 0, 8], [0, 0, 0, 0, 0x10, 0, 0, 0], [0, 1]]⟩ ∧
    Causal (InTurn 8) describingSession.device.control.bus.trace := by
  have hFinal : finalState DeviceInput.perform describingInputs describingStart =
      some describingSession := (Option.some_get _).symm
  have hReachable : describingSession.Reachable :=
    ⟨_, _, fresh_describingDevice, reaches_of_finalState hFinal⟩
  have hSize : describingSession.device.control.epIn.maxPacketSize.toNat = 8 := by decide +kernel
  exact ⟨by decide +kernel, hSize ▸ packets_in_turn hReachable⟩

end UsbStack
