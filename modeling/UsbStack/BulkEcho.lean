import UsbStack.TestClass
import UsbStack.Foundation.Labelled
import Mathlib.Data.List.Forall2

/-! # The echo of the test class

A message that the test class receives on its bulk OUT endpoint comes back on its bulk IN endpoint.
-/

namespace UsbStack

set_option autoImplicit false

open Foundation Exec

variable {B : Type} {sizes : Sizes}

namespace TestClass

section Methods

variable [UsbBus B] {α : Type} {cls : TestClass sizes} {t : Traced B}

theorem run_readFrom (ep : ClassEndpoint) (len : Nat)
    (next : Except UsbError (List UInt8) → ClassM α) :
    ((readFrom ep len >>= next).run : BusM B α) t =
      (next (UsbBus.read t.bus ep.address len).1).run (t.reading ep.address len) := rfl

theorem run_writeTo (ep : ClassEndpoint) (data : List UInt8)
    (next : Except UsbError Nat → ClassM α) :
    ((writeTo ep data >>= next).run : BusM B α) t =
      (next (UsbBus.write t.bus ep.address data).1).run (t.writing ep.address data) := rfl

def chunk (cls : TestClass sizes) : List UInt8 :=
  ((cls.bulkBuf.val.take cls.len).drop cls.i).take cls.epBulkIn.maxPacketSize.toNat

def echoed (cls : TestClass sizes) : TestClass sizes :=
  { cls with expectBulkInComplete := true, i := cls.i + cls.chunk.length }

theorem run_writeBulkIn {writeEmpty : Bool} (hIndex : cls.i ≤ cls.len) (hLen : cls.len ≤ sizes.buffer)
    (hSome : cls.chunk ≠ [] ∨ writeEmpty = true)
    (hWrite : (UsbBus.write t.bus cls.epBulkIn.address cls.chunk).1 = .ok cls.chunk.length) :
    ((cls.writeBulkIn writeEmpty).run : BusM B _) t =
      .done (.ok cls.echoed) (t.writing cls.epBulkIn.address cls.chunk) := by
  have hBuf := cls.bulkBuf.property
  have hLength : cls.chunk.length = min (cls.len - cls.i) cls.epBulkIn.maxPacketSize.toNat := by
    rw [chunk, List.length_take, List.length_drop, List.length_take]
    omega
  have hSlice : slice? cls.bulkBuf.val cls.i
      (cls.i + min (cls.len - cls.i) cls.epBulkIn.maxPacketSize.toNat) = some cls.chunk := by
    rw [slice?_of_le (by omega) (by omega), Nat.add_sub_cancel_left, chunk, List.drop_take,
      List.take_take, Nat.min_comm]
  have hNot : ¬ (min (cls.len - cls.i) cls.epBulkIn.maxPacketSize.toNat = 0 ∧ writeEmpty = false) := by
    rintro ⟨hZero, rfl⟩
    rw [← hLength] at hZero
    exact hSome.elim (fun hNe => hNe (List.eq_nil_of_length_eq_zero hZero)) Bool.false_ne_true
  rw [writeBulkIn, if_neg (Nat.not_lt.mpr hIndex)]
  dsimp only
  rw [if_neg hNot, hSlice]
  dsimp only
  rw [run_writeTo, hWrite, orBlock, if_pos hLength]
  rfl

theorem run_writeBulkIn_end (hIndex : cls.i = cls.len) :
    ((cls.writeBulkIn false).run : BusM B _) t = .done (.ok { cls with len := 0, i := 0 }) t := by
  rw [writeBulkIn, if_neg (by omega)]
  dsimp only
  rw [if_pos ⟨by omega, rfl⟩]
  rfl

def stored (cls : TestClass sizes) (packet : List UInt8) (h : cls.i + packet.length ≤ sizes.buffer) :
    TestClass sizes :=
  { cls with
    bulkBuf := ⟨overwrite cls.bulkBuf.val cls.i packet,
      (length_overwrite (cls.bulkBuf.property.symm ▸ h)).trans cls.bulkBuf.property⟩
    expectBulkOut := false
    i := cls.i + packet.length }

theorem run_pollBulk_blocked (hIndex : cls.i ≤ sizes.buffer)
    (hRead : (UsbBus.read t.bus cls.epBulkOut.address (sizes.buffer - cls.i)).1 =
      .error .wouldBlock) :
    (cls.pollBulk.run : BusM B _) t =
      .done (.ok cls) (t.reading cls.epBulkOut.address (sizes.buffer - cls.i)) := by
  rw [pollBulk, if_neg (Nat.not_lt.mpr hIndex), run_readFrom, hRead]
  rfl

def started (cls : TestClass sizes) (packet : List UInt8) (h : cls.i + packet.length ≤ sizes.buffer) :
    TestClass sizes :=
  { cls.stored packet h with len := (cls.stored packet h).i, i := 0 }

section Packet

variable {packet : List UInt8} (hRoom : cls.i + packet.length ≤ sizes.buffer)
  (hExpect : cls.expectBulkOut = true)
  (hRead : (UsbBus.read t.bus cls.epBulkOut.address (sizes.buffer - cls.i)).1 = .ok packet)
include hExpect hRead

theorem run_pollBulk_packet :
    (cls.pollBulk.run : BusM B _) t =
      ClassM.run (if packet.length < cls.epBulkOut.maxPacketSize.toNat then
        (cls.started packet hRoom).writeBulkIn (packet.length = 0)
      else .ret (cls.stored packet hRoom))
        (t.reading cls.epBulkOut.address (sizes.buffer - cls.i)) := by
  rw [pollBulk, if_neg (by omega), run_readFrom, hRead, orBlock, Buffer.store?, dif_pos hRoom]
  dsimp only
  rw [if_neg (by rw [hExpect]; exact Bool.noConfusion)]
  rfl

theorem run_pollBulk_full (hFull : ¬ packet.length < cls.epBulkOut.maxPacketSize.toNat) :
    (cls.pollBulk.run : BusM B _) t = .done (.ok (cls.stored packet hRoom))
      (t.reading cls.epBulkOut.address (sizes.buffer - cls.i)) := by
  rw [run_pollBulk_packet hRoom hExpect hRead, if_neg hFull]
  rfl

theorem run_pollBulk_short (hShort : packet.length < cls.epBulkOut.maxPacketSize.toNat)
    (hSize : 0 < cls.epBulkIn.maxPacketSize.toNat)
    (hWrite : (UsbBus.write (UsbBus.read t.bus cls.epBulkOut.address (sizes.buffer - cls.i)).2
      cls.epBulkIn.address (cls.started packet hRoom).chunk).1 =
        .ok (cls.started packet hRoom).chunk.length) :
    (cls.pollBulk.run : BusM B _) t = .done (.ok (cls.started packet hRoom).echoed)
      ((t.reading cls.epBulkOut.address (sizes.buffer - cls.i)).writing cls.epBulkIn.address
        (cls.started packet hRoom).chunk) := by
  rw [run_pollBulk_packet hRoom hExpect hRead, if_pos hShort]
  refine run_writeBulkIn (Nat.zero_le _) hRoom ?_ hWrite
  by_cases hEmpty : packet.length = 0
  · exact .inr (decide_eq_true hEmpty)
  · have hLength : (overwrite cls.bulkBuf.val cls.i packet).length = sizes.buffer := by
      rw [length_overwrite (by rw [cls.bulkBuf.property]; exact hRoom), cls.bulkBuf.property]
    refine .inl (List.ne_nil_of_length_pos ?_)
    change 0 < ((((overwrite cls.bulkBuf.val cls.i packet).take (cls.i + packet.length)).drop 0).take
      cls.epBulkIn.maxPacketSize.toNat).length
    rw [List.length_take, List.drop_zero, List.length_take]
    omega

end Packet

theorem run_pollInterrupt_blocked
    (hRead : (UsbBus.read t.bus cls.epInterruptOut.address sizes.buffer).1 = .error .wouldBlock) :
    (cls.pollInterrupt.run : BusM B _) t =
      .done (.ok cls) (t.reading cls.epInterruptOut.address sizes.buffer) := by
  rw [pollInterrupt, run_readFrom, hRead]
  rfl

theorem run_poll (hBench : cls.bench = false) :
    (cls.poll.run : BusM B _) t =
      ((cls.pollBulk.run : BusM B _) >>= fun cls => cls.pollInterrupt.run) t := by
  rw [poll, if_neg (by rw [hBench]; exact Bool.false_ne_true)]
  exact Program.interp_bind _ _ t

end Methods

end TestClass

/-- The class with the bus of its endpoints. -/
structure Loopback (B : Type) (sizes : Sizes) where
  bus : Traced B
  cls : TestClass sizes

/-- The hardware changes the bus, the device calls back, and the application polls the class. -/
inductive LoopbackStep (B : Type) where
  | hardware (bus : B)
  | endpointOut (addr : EndpointAddress)
  | endpointInComplete (addr : EndpointAddress)
  | poll

def Loopback.onClass (m : TestClass sizes → BusM B (TestClass sizes)) :
    Exec Panic UsbError (Loopback B sizes) Unit := do
  let s ← get
  let cls ← zoom Loopback.bus (fun bus s => { s with bus := bus }) (m s.cls)
  modify fun s => { s with cls := cls }

def LoopbackStep.perform [UsbBus B] : LoopbackStep B → Exec Panic UsbError (Loopback B sizes) Unit
  | hardware bus => modify fun s => { s with bus := ⟨bus, s.bus.trace⟩ }
  | endpointOut addr =>
    Loopback.onClass (callClass (.endpointOut addr) (UsbClass.endpointOut · addr) 0)
  | endpointInComplete addr =>
    Loopback.onClass (callClass (.endpointInComplete addr) (UsbClass.endpointInComplete · addr) 0)
  | poll => Loopback.onClass fun cls => cls.poll.run

def delivered (addr : EndpointAddress) (trace : List Event) : List (List UInt8) :=
  trace.filterMap fun event =>
    match event with
    | .read addr' _ (.ok packet) => if addr' = addr then some packet else none
    | _ => none

def completions (addr : EndpointAddress) (trace : List Event) : Nat :=
  trace.countP fun event =>
    match event with
    | .class_ _ (.endpointInComplete addr') => addr' = addr
    | _ => false

def announce (addr : EndpointAddress) (now : Bool) : Event → Bool
  | .class_ _ (.endpointOut addr') => if addr' = addr then true else now
  | .read addr' _ (.ok _) => if addr' = addr then false else now
  | _ => now

def announced (addr : EndpointAddress) (trace : List Event) : Bool :=
  trace.foldl (announce addr) false

namespace Loopback

section Host

variable (s : Loopback B sizes)

def start (bus : B) (cls : TestClass sizes) : Loopback B sizes := ⟨⟨bus, []⟩, cls⟩

def outSize : Nat := s.cls.epBulkOut.maxPacketSize.toNat

def delivered : List (List UInt8) := UsbStack.delivered s.cls.epBulkOut.address s.bus.trace

def written : List (List UInt8) := accepted s.cls.epBulkIn.address s.bus.trace

def completed : Nat := completions s.cls.epBulkIn.address s.bus.trace

def announced : Bool := UsbStack.announced s.cls.epBulkOut.address s.bus.trace

/-- The host sends `packet` next: it is announced, and it starts a message only when no packet of an
echo is outstanding. -/
structure Sends (messages : List (List UInt8)) (packet : List UInt8) : Prop where
  next : (messages.flatMap (packets s.outSize))[s.delivered.length]? = some packet
  announced : s.announced = true
  turn : (∀ last ∈ s.delivered.getLast?, last.length < s.outSize) → s.completed = s.written.length

end Host

end Loopback

def Takes [UsbBus B] (ep : ClassEndpoint) (bus : B) : Prop :=
  ∀ data, data.length ≤ ep.maxPacketSize.toNat →
    (UsbBus.write bus ep.address data).1 = .ok data.length

def Blocks [UsbBus B] (ep : ClassEndpoint) (bus : B) : Prop :=
  ∀ len, (UsbBus.read bus ep.address len).1 = .error .wouldBlock

/-- A poll finds nothing, or it finds the next packet and may write one. -/
def Loopback.Serves [UsbBus B] (messages : List (List UInt8)) (s : Loopback B sizes) : Prop :=
  ∀ len, let (result, after) := UsbBus.read s.bus.bus s.cls.epBulkOut.address len
    result = .error .wouldBlock ∧ Blocks s.cls.epInterruptOut after ∨
    ∃ packet, s.Sends messages packet ∧ (packet.length ≤ len →
      result = .ok packet ∧ Blocks s.cls.epInterruptOut after ∧ Takes s.cls.epBulkIn after ∧
      ∀ data, Blocks s.cls.epInterruptOut (UsbBus.write after s.cls.epBulkIn.address data).2)

/-- What the host and the hardware keep to when the host sends `messages` and there is no interrupt
traffic. -/
def LoopbackStep.Due [UsbBus B] (messages : List (List UInt8)) :
    LoopbackStep B → Loopback B sizes → Prop
  | hardware _, _ => True
  | endpointOut _, _ => True
  | endpointInComplete addr, s =>
    (addr = s.cls.epBulkIn.address →
      s.completed < s.written.length ∧ Takes s.cls.epBulkIn s.bus.bus) ∧
    (addr ≠ s.cls.epBulkIn.address → addr ≠ s.cls.epInterruptIn.address)
  | poll, s => s.Serves messages

section Stream

variable {size : Nat} {message packet : List UInt8} {past rest messages got : List (List UInt8)}

def Underway (size : Nat) (rest got : List (List UInt8)) : Prop :=
  got = [] ∨ ∃ message later more, rest = message :: later ∧
    packets size message = got ++ more ∧ more ≠ []

/-- The next packet of the stream belongs to that message, or starts the next one. -/
theorem Underway.next (h : Underway size rest got)
    (hNext : ((past ++ rest).flatMap (packets size))[(past.flatMap (packets size) ++ got).length]? =
      some packet) :
    ∃ message later more, rest = message :: later ∧ packets size message = got ++ packet :: more := by
  rw [List.flatMap_append, List.length_append, List.getElem?_append_right (Nat.le_add_right _ _),
    Nat.add_sub_cancel_left] at hNext
  have hHead {message : List UInt8} {later more : List (List UInt8)} (hRest : rest = message :: later)
      (hPackets : packets size message = got ++ more) (hMore : more ≠ []) :
      ∃ tail, packets size message = got ++ packet :: tail := by
    obtain ⟨head, tail, rfl⟩ := List.exists_cons_of_ne_nil hMore
    rw [hRest, List.flatMap_cons, hPackets, List.append_assoc,
      List.getElem?_append_right (Nat.le_refl _), Nat.sub_self] at hNext
    cases Option.some.inj hNext
    exact ⟨tail, hPackets⟩
  rcases h with rfl | ⟨message, later, more, hRest, hPackets, hMore⟩
  · cases rest with
    | nil => cases hNext
    | cons message later =>
      obtain ⟨tail, hTail⟩ := hHead rfl (List.nil_append _).symm (packets_ne_nil size message)
      exact ⟨message, later, tail, rfl, hTail⟩
  · obtain ⟨tail, hTail⟩ := hHead hRest hPackets hMore
    exact ⟨message, later, tail, hRest, hTail⟩

end Stream

/-- The packets of an echo. The empty message has an empty packet. -/
structure EchoOf (size : Nat) (message : List UInt8) (pieces : List (List UInt8)) : Prop where
  flatten : pieces.flatten = message
  short : ∀ piece ∈ pieces, piece.length ≤ size
  empty : message = [] → pieces = [[]]

namespace Loopback

variable {messages past rest got sent : List (List UInt8)} {echoes : List (List (List UInt8))}
  {message : List UInt8} {epIn epOut : ClassEndpoint} {s s' : Loopback B sizes}

def inSize (s : Loopback B sizes) : Nat := s.cls.epBulkIn.maxPacketSize.toNat

structure Ready (epIn epOut : ClassEndpoint) (s : Loopback B sizes) : Prop where
  epIn : s.cls.epBulkIn = epIn
  epOut : s.cls.epBulkOut = epOut
  bench : s.cls.bench = false
  outSize : 0 < s.outSize
  inSize : 0 < s.inSize
  expected : s.announced = true → s.cls.expectBulkOut = true

/-- The echoes of `past` are over, and `got` has arrived of the next message. -/
structure Receiving (messages past rest got : List (List UInt8))
    (echoes : List (List (List UInt8))) (s : Loopback B sizes) : Prop where
  split : messages = past ++ rest
  underway : Underway s.outSize rest got
  delivered : s.delivered = past.flatMap (packets s.outSize) ++ got
  written : s.written = echoes.flatten
  echoed : List.Forall₂ (EchoOf s.inSize) past echoes
  completed : s.completed = s.written.length
  buffer : s.cls.bulkBuf.val.take s.cls.i = got.flatten
  index : s.cls.i = got.flatten.length
  len : s.cls.len = 0
  expect : s.cls.expectBulkInComplete = false

/-- After the echoes of `past`, `sent` has been written of that of `message`. -/
structure Echoing (messages past rest : List (List UInt8)) (message : List UInt8)
    (echoes : List (List (List UInt8))) (sent : List (List UInt8)) (s : Loopback B sizes) : Prop where
  split : messages = past ++ message :: rest
  delivered : s.delivered = (past ++ [message]).flatMap (packets s.outSize)
  written : s.written = echoes.flatten ++ sent
  echoed : List.Forall₂ (EchoOf s.inSize) past echoes
  completed : s.completed + 1 = s.written.length
  buffer : s.cls.bulkBuf.val.take s.cls.len = message
  len : s.cls.len = message.length
  index : s.cls.i ≤ s.cls.len
  current : sent.flatten = message.take s.cls.i
  short : ∀ piece ∈ sent, piece.length ≤ s.inSize
  some : sent ≠ []
  empty : message = [] → sent = [[]]
  expect : s.cls.expectBulkInComplete = true

def Loops (epIn epOut : ClassEndpoint) (messages : List (List UInt8)) (s : Loopback B sizes) : Prop :=
  s.Ready epIn epOut ∧ ((∃ past rest got echoes, s.Receiving messages past rest got echoes) ∨
    ∃ past rest message echoes sent, s.Echoing messages past rest message echoes sent)

structure Same (s s' : Loopback B sizes) : Prop where
  epBulkIn : s'.cls.epBulkIn = s.cls.epBulkIn
  epBulkOut : s'.cls.epBulkOut = s.cls.epBulkOut
  buffer : s'.cls.bulkBuf = s.cls.bulkBuf
  index : s'.cls.i = s.cls.i
  len : s'.cls.len = s.cls.len
  expect : s'.cls.expectBulkInComplete = s.cls.expectBulkInComplete
  bench : s'.cls.bench = s.cls.bench
  delivered : s'.delivered = s.delivered
  written : s'.written = s.written
  completed : s'.completed = s.completed
  expected : (s.announced = true → s.cls.expectBulkOut = true) →
    s'.announced = true → s'.cls.expectBulkOut = true

theorem Loops.same (h : s.Loops epIn epOut messages) (hSame : s.Same s') :
    s'.Loops epIn epOut messages := by
  have hOut : s'.outSize = s.outSize := congrArg (·.maxPacketSize.toNat) hSame.epBulkOut
  have hIn : s'.inSize = s.inSize := congrArg (·.maxPacketSize.toNat) hSame.epBulkIn
  obtain ⟨hReady, hPhase⟩ := h
  refine ⟨⟨hSame.epBulkIn.trans hReady.epIn, hSame.epBulkOut.trans hReady.epOut,
    hSame.bench.trans hReady.bench, hOut ▸ hReady.outSize, hIn ▸ hReady.inSize,
    hSame.expected hReady.expected⟩, ?_⟩
  rcases hPhase with ⟨past, rest, got, echoes, hPhase⟩ | ⟨past, rest, message, echoes, sent, hPhase⟩
  · refine .inl ⟨past, rest, got, echoes, ?_⟩
    constructor
    · exact hPhase.split
    · exact hOut ▸ hPhase.underway
    · rw [hOut, hSame.delivered, hPhase.delivered]
    · rw [hSame.written, hPhase.written]
    · exact hIn ▸ hPhase.echoed
    · rw [hSame.completed, hSame.written, hPhase.completed]
    · rw [hSame.buffer, hSame.index, hPhase.buffer]
    · rw [hSame.index, hPhase.index]
    · rw [hSame.len, hPhase.len]
    · rw [hSame.expect, hPhase.expect]
  · refine .inr ⟨past, rest, message, echoes, sent, ?_⟩
    constructor
    · exact hPhase.split
    · rw [hOut, hSame.delivered, hPhase.delivered]
    · rw [hSame.written, hPhase.written]
    · exact hIn ▸ hPhase.echoed
    · rw [hSame.completed, hSame.written, hPhase.completed]
    · rw [hSame.buffer, hSame.len, hPhase.buffer]
    · rw [hSame.len, hPhase.len]
    · rw [hSame.index, hSame.len]
      exact hPhase.index
    · rw [hSame.index, hPhase.current]
    · exact hIn ▸ hPhase.short
    · exact hPhase.some
    · exact hPhase.empty
    · rw [hSame.expect, hPhase.expect]

section Trace

variable (addr : EndpointAddress) (trace : List Event)

theorem delivered_append (more : List Event) : UsbStack.delivered addr (trace ++ more) =
    UsbStack.delivered addr trace ++ UsbStack.delivered addr more := List.filterMap_append

theorem completions_append (more : List Event) :
    completions addr (trace ++ more) = completions addr trace + completions addr more :=
  List.countP_append

theorem announced_append (more : List Event) : UsbStack.announced addr (trace ++ more) =
    more.foldl (announce addr) (UsbStack.announced addr trace) := List.foldl_append

end Trace

structure Adds (s : Loopback B sizes) (bus : Traced B) (packets chunks : List (List UInt8))
    (count : Nat) : Prop where
  delivered : UsbStack.delivered s.cls.epBulkOut.address bus.trace = s.delivered ++ packets
  written : accepted s.cls.epBulkIn.address bus.trace = s.written ++ chunks
  completed : completions s.cls.epBulkIn.address bus.trace = s.completed + count

theorem adds_of_events {bus : Traced B} {events : List Event}
    {packets chunks : List (List UInt8)} {count : Nat} (hTrace : bus.trace = s.bus.trace ++ events)
    (hPackets : UsbStack.delivered s.cls.epBulkOut.address events = packets)
    (hChunks : accepted s.cls.epBulkIn.address events = chunks)
    (hCount : completions s.cls.epBulkIn.address events = count) : s.Adds bus packets chunks count where
  delivered := by rw [hTrace, delivered_append, hPackets]; rfl
  written := by rw [hTrace, accepted_append, hChunks]; rfl
  completed := by rw [hTrace, completions_append, hCount]; rfl

theorem Adds.same {bus : Traced B} {expectOut expectInterrupt : Bool} (h : s.Adds bus [] [] 0)
    (hExpected : (s.announced = true → s.cls.expectBulkOut = true) →
      UsbStack.announced s.cls.epBulkOut.address bus.trace = true →
      expectOut = true) :
    s.Same ⟨bus, { s.cls with
      expectBulkOut := expectOut, expectInterruptOut := expectInterrupt }⟩ := by
  constructor
  case delivered => exact h.delivered.trans (List.append_nil _)
  case written => exact h.written.trans (List.append_nil _)
  case completed => exact h.completed
  case expected => exact hExpected
  all_goals rfl

theorem Adds.unchanged {bus : Traced B} (h : s.Adds bus [] [] 0)
    (hExpected : (s.announced = true → s.cls.expectBulkOut = true) →
      UsbStack.announced s.cls.epBulkOut.address bus.trace = true →
      s.cls.expectBulkOut = true) : s.Same ⟨bus, s.cls⟩ :=
  (h.same hExpected : s.Same ⟨bus, { s.cls with
    expectBulkOut := s.cls.expectBulkOut, expectInterruptOut := s.cls.expectInterruptOut }⟩)

theorem same_endpointOut (addr : EndpointAddress) :
    s.Same ⟨s.bus.noting (.class_ 0 (.endpointOut addr)), s.cls.endpointOut addr⟩ := by
  have hAdds : s.Adds (s.bus.noting (.class_ 0 (.endpointOut addr))) [] [] 0 :=
    adds_of_events (Traced.trace_noting _ _) rfl rfl rfl
  have hAnnounced := announced_append s.cls.epBulkOut.address s.bus.trace
    [.class_ 0 (.endpointOut addr)]
  unfold TestClass.endpointOut
  split
  · exact hAdds.same fun _ _ => rfl
  · rename_i hNot
    have hKept (hExpected : s.announced = true → s.cls.expectBulkOut = true)
        (h : UsbStack.announced s.cls.epBulkOut.address
          (s.bus.trace ++ [.class_ 0 (.endpointOut addr)]) = true) :
        s.cls.expectBulkOut = true := by
      rw [hAnnounced, List.foldl_cons, List.foldl_nil, announce, if_neg hNot] at h
      exact hExpected h
    split
    · exact hAdds.same hKept
    · exact hAdds.same hKept

theorem take_append_chunk (message : List UInt8) (i size : Nat) :
    message.take i ++ (message.drop i).take size =
      message.take (i + ((message.drop i).take size).length) := by
  rw [List.take_add, List.length_take, ← List.take_eq_take_min]

theorem post_onClass {m : TestClass sizes → BusM B (TestClass sizes)} {cls : TestClass sizes}
    {bus : Traced B} (hDone : m s.cls s.bus = .done (.ok cls) bus)
    (h : (⟨bus, cls⟩ : Loopback B sizes).Loops epIn epOut messages) :
    Post False (onClass m) (fun _ s' => s'.Loops epIn epOut messages) s := by
  have hRun : onClass m s = .done (.ok ()) ⟨bus, cls⟩ := by
    rw [onClass, bind_apply, get_apply]
    dsimp only
    rw [bind_apply, zoom_apply, hDone]
    rfl
  exact post_false_iff.mpr ⟨_, _, hRun, h⟩

variable {bus : Traced B} {packet : List UInt8} {more : List (List UInt8)}

/-- After the last packet of an echo the class is idle again. -/
theorem Echoing.ends (h : s.Echoing messages past rest message echoes sent)
    (hAll : s.cls.i = s.cls.len) (hAdds : s.Adds bus [] [] 1) :
    (⟨bus, { s.cls with expectBulkInComplete := false, len := 0, i := 0 }⟩ :
      Loopback B sizes).Receiving messages (past ++ [message]) rest [] (echoes ++ [sent]) := by
  have hSent : sent.flatten = message := by rw [h.current, hAll, h.len, List.take_length]
  have hWritten := hAdds.written.trans (List.append_nil _)
  constructor
  case split => rw [h.split, List.append_assoc]; rfl
  case underway => exact .inl rfl
  case delivered => exact hAdds.delivered.trans (congrArg (· ++ []) h.delivered)
  case written =>
    rw [List.flatten_append, List.flatten_singleton, ← h.written]
    exact hWritten
  case echoed => exact List.rel_append h.echoed (.cons ⟨hSent, h.short, h.empty⟩ .nil)
  case completed => exact hAdds.completed.trans (h.completed.trans (congrArg _ hWritten.symm))
  case buffer => rfl
  case index => rfl
  case len => rfl
  case expect => rfl

/-- The next packet of the echo is written. -/
theorem Echoing.writes (h : s.Echoing messages past rest message echoes sent)
    (hMore : s.cls.i < s.cls.len) (hAdds : s.Adds bus [] [s.cls.chunk] 1) :
    (⟨bus, s.cls.echoed⟩ : Loopback B sizes).Echoing messages past rest message echoes
      (sent ++ [s.cls.chunk]) := by
  have hChunk : s.cls.chunk = (message.drop s.cls.i).take s.inSize := by
    rw [TestClass.chunk, h.buffer]
    rfl
  have hLength : s.cls.chunk.length = min s.inSize (message.length - s.cls.i) := by
    rw [hChunk, List.length_take, List.length_drop]
  have hLen := h.len
  constructor
  case split => exact h.split
  case delivered => exact hAdds.delivered.trans ((List.append_nil _).trans h.delivered)
  case written =>
    rw [← List.append_assoc, ← h.written]
    exact hAdds.written
  case echoed => exact h.echoed
  case completed =>
    have hWritten := congrArg List.length hAdds.written
    rw [List.length_append, ← h.completed, ← hAdds.completed] at hWritten
    exact hWritten.symm
  case buffer => exact h.buffer
  case len => exact h.len
  case index =>
    change s.cls.i + s.cls.chunk.length ≤ s.cls.len
    omega
  case current =>
    change (sent ++ [s.cls.chunk]).flatten = message.take (s.cls.i + s.cls.chunk.length)
    rw [List.flatten_append, List.flatten_singleton, h.current, hChunk, take_append_chunk]
  case short =>
    intro piece hPiece
    rcases List.mem_append.mp hPiece with hPiece | hPiece
    · exact h.short piece hPiece
    · rw [List.mem_singleton.mp hPiece, hLength]
      exact Nat.min_le_left _ _
  case some => exact List.append_ne_nil_of_left_ne_nil h.some _
  case empty =>
    rintro rfl
    rw [List.length_nil] at hLen
    omega
  case expect => rfl

/-- A full packet leaves the class in the middle of a message. -/
theorem Receiving.continues (h : s.Receiving messages past (message :: rest) got echoes)
    (hPackets : packets s.outSize message = got ++ packet :: more) (hMore : more ≠ [])
    (hRoom : s.cls.i + packet.length ≤ sizes.buffer) (hAdds : s.Adds bus [packet] [] 0) :
    (⟨bus, s.cls.stored packet hRoom⟩ : Loopback B sizes).Receiving messages past (message :: rest)
      (got ++ [packet]) echoes := by
  have hIndex := h.index
  have hWritten := hAdds.written.trans (List.append_nil _)
  constructor
  case split => exact h.split
  case underway =>
    refine .inr ⟨message, rest, more, rfl, ?_, hMore⟩
    rw [List.append_assoc]
    exact hPackets
  case delivered =>
    rw [← List.append_assoc]
    exact hAdds.delivered.trans (congrArg (· ++ [packet]) h.delivered)
  case written => exact hWritten.trans h.written
  case echoed => exact h.echoed
  case completed => exact hAdds.completed.trans (h.completed.trans (congrArg _ hWritten.symm))
  case buffer =>
    change (overwrite s.cls.bulkBuf.val s.cls.i packet).take (s.cls.i + packet.length) = _
    rw [take_overwrite packet (by rw [s.cls.bulkBuf.property]; omega), h.buffer, List.flatten_append,
      List.flatten_singleton]
  case index =>
    change s.cls.i + packet.length = _
    rw [List.flatten_append, List.flatten_singleton, List.length_append, hIndex]
  case len => exact h.len
  case expect => exact h.expect

/-- A short packet ends the message, and the echo starts. -/
theorem Receiving.last (h : s.Receiving messages past (message :: rest) got echoes)
    (hPackets : packets s.outSize message = got ++ [packet]) (hSize : 0 < s.outSize)
    (hRoom : s.cls.i + packet.length ≤ sizes.buffer)
    (hAdds : s.Adds bus [packet] [(s.cls.started packet hRoom).chunk] 0) :
    (⟨bus, (s.cls.started packet hRoom).echoed⟩ : Loopback B sizes).Echoing messages past rest message
      echoes [(s.cls.started packet hRoom).chunk] := by
  have hMessage : got.flatten ++ packet = message := by
    have hFlatten := flatten_packets hSize message
    rwa [hPackets, List.flatten_append, List.flatten_singleton] at hFlatten
  have hBuffer : (overwrite s.cls.bulkBuf.val s.cls.i packet).take (s.cls.i + packet.length) =
      message := by
    rw [take_overwrite packet (by rw [s.cls.bulkBuf.property]; omega), h.buffer, hMessage]
  have hChunk : (s.cls.started packet hRoom).chunk = message.take s.inSize := by
    change (((overwrite s.cls.bulkBuf.val s.cls.i packet).take (s.cls.i + packet.length)).drop 0).take
      s.inSize = _
    rw [hBuffer, List.drop_zero]
  have hLen : s.cls.i + packet.length = message.length := by
    rw [← hMessage, List.length_append, ← h.index]
  constructor
  case split => exact h.split
  case delivered =>
    rw [List.flatMap_append, List.flatMap_singleton]
    refine hAdds.delivered.trans ?_
    rw [h.delivered, List.append_assoc, ← hPackets]
    rfl
  case written => exact hAdds.written.trans (congrArg (· ++ _) h.written)
  case echoed => exact h.echoed
  case completed =>
    have hWritten := congrArg List.length hAdds.written
    rw [List.length_append, ← h.completed] at hWritten
    exact (congrArg (· + 1) hAdds.completed).trans hWritten.symm
  case buffer => exact hBuffer
  case len => exact hLen
  case index =>
    change 0 + (s.cls.started packet hRoom).chunk.length ≤ s.cls.i + packet.length
    rw [hChunk, hLen, List.length_take]
    omega
  case current =>
    change [(s.cls.started packet hRoom).chunk].flatten =
      message.take (0 + (s.cls.started packet hRoom).chunk.length)
    rw [List.flatten_singleton, hChunk]
    exact take_append_chunk message 0 s.inSize
  case short =>
    intro piece hPiece
    rw [List.mem_singleton.mp hPiece, hChunk, List.length_take]
    exact Nat.min_le_left _ _
  case some => exact List.cons_ne_nil _ _
  case empty =>
    rintro rfl
    rw [hChunk, List.take_nil]
  case expect => rfl

theorem Receiving.room (h : s.Receiving messages past (message :: rest) got echoes)
    (hPackets : packets s.outSize message = got ++ packet :: more) (hSize : 0 < s.outSize)
    (hLength : ∀ m ∈ messages, m.length ≤ sizes.buffer) :
    s.cls.i + packet.length ≤ sizes.buffer := by
  have hFlatten := congrArg List.length (flatten_packets hSize message)
  rw [hPackets, List.flatten_append, List.flatten_cons, List.length_append, List.length_append,
    ← h.index] at hFlatten
  have hMessage := hLength message (h.split ▸ List.mem_append_right past List.mem_cons_self)
  omega

theorem Loops.index_le (h : s.Loops epIn epOut messages)
    (hLength : ∀ m ∈ messages, m.length ≤ sizes.buffer) :
    s.cls.i ≤ sizes.buffer := by
  obtain ⟨hReady, ⟨past, rest, got, echoes, hPhase⟩ | ⟨past, rest, message, echoes, sent, hPhase⟩⟩ := h
  · rcases hPhase.underway with rfl | ⟨message, later, more, rfl, hPackets, hMore⟩
    · rw [hPhase.index]
      exact Nat.zero_le _
    · obtain ⟨packet, tail, rfl⟩ := List.exists_cons_of_ne_nil hMore
      exact Nat.le_of_add_right_le (hPhase.room hPackets hReady.outSize hLength)
  · have hTake := congrArg List.length hPhase.buffer
    rw [List.length_take, ← hPhase.len, s.cls.bulkBuf.property] at hTake
    exact Nat.le_trans hPhase.index (by omega)

theorem Echoing.not_sends (hSize : 0 < s.outSize)
    (h : s.Echoing messages past rest message echoes sent) : ¬ s.Sends messages packet := by
  intro hSends
  have hTurn := hSends.turn fun last hLast =>
    getLast?_flatMap_packets hSize (h.delivered ▸ hLast)
  have hCompleted := h.completed
  omega

section Steps

variable [UsbBus B]

/-- The callback writes what is left of the echo, or finds that it is over. -/
theorem Echoing.completes (hReady : s.Ready epIn epOut)
    (h : s.Echoing messages past rest message echoes sent) (hTakes : Takes s.cls.epBulkIn s.bus.bus) :
    Post False (LoopbackStep.perform (.endpointInComplete s.cls.epBulkIn.address))
      (fun _ s' => s'.Loops epIn epOut messages) s := by
  have hRun : callClass (.endpointInComplete s.cls.epBulkIn.address)
      (UsbClass.endpointInComplete · s.cls.epBulkIn.address) 0 s.cls s.bus =
      ((TestClass.writeBulkIn false { s.cls with expectBulkInComplete := false }).run : BusM B _)
        (s.bus.noting (.class_ 0 (.endpointInComplete s.cls.epBulkIn.address))) := by
    have hCallback : s.cls.endpointInComplete s.cls.epBulkIn.address =
        TestClass.writeBulkIn false { s.cls with expectBulkInComplete := false } := by
      rw [TestClass.endpointInComplete, if_neg (by rw [hReady.bench]; exact Bool.false_ne_true),
        if_pos rfl, if_pos h.expect]
    exact congrArg (fun m => (m.run : BusM B _) _) hCallback
  rcases Nat.eq_or_lt_of_le h.index with hAll | hMore
  · have hEnd := hRun.trans (TestClass.run_writeBulkIn_end hAll)
    have hAdds : s.Adds (s.bus.noting (.class_ 0 (.endpointInComplete s.cls.epBulkIn.address)))
        [] [] 1 := adds_of_events (Traced.trace_noting _ _) rfl rfl (by simp [completions])
    refine post_onClass hEnd ⟨⟨hReady.epIn, hReady.epOut, hReady.bench, hReady.outSize,
      hReady.inSize, fun hTold => ?_⟩, .inl ⟨_, _, _, _, h.ends hAll hAdds⟩⟩
    exact hReady.expected ((announced_append _ s.bus.trace _).symm.trans hTold)
  · have hTake := congrArg List.length h.buffer
    rw [List.length_take, ← h.len, s.cls.bulkBuf.property] at hTake
    have hLength : s.cls.chunk.length = min s.inSize (s.cls.len - s.cls.i) := by
      rw [TestClass.chunk, h.buffer, List.length_take, List.length_drop, h.len]
      rfl
    have hSome : s.cls.chunk ≠ [] := by
      have hSize := hReady.inSize
      exact List.ne_nil_of_length_pos (by omega)
    have hWrite := hTakes s.cls.chunk (hLength ▸ Nat.min_le_left _ _)
    have hNext := hRun.trans (TestClass.run_writeBulkIn h.index (by change s.cls.len ≤ _; omega)
      (.inl hSome) hWrite)
    have hTrace : ((s.bus.noting (.class_ 0 (.endpointInComplete s.cls.epBulkIn.address))).writing
        s.cls.epBulkIn.address s.cls.chunk).trace = s.bus.trace ++
          [.class_ 0 (.endpointInComplete s.cls.epBulkIn.address),
            .write s.cls.epBulkIn.address s.cls.chunk (.ok s.cls.chunk.length)] := by
      rw [Traced.trace_writing, Traced.trace_noting, List.append_assoc, ← hWrite]
      rfl
    have hAdds : s.Adds _ [] [s.cls.chunk] 1 :=
      adds_of_events hTrace rfl (by simp [accepted]) (by simp [completions])
    refine post_onClass hNext ⟨⟨hReady.epIn, hReady.epOut, hReady.bench, hReady.outSize,
      hReady.inSize, fun hTold => ?_⟩, .inr ⟨_, _, _, _, _, h.writes hMore hAdds⟩⟩
    refine hReady.expected (Eq.trans ?_ hTold)
    exact ((congrArg (UsbStack.announced _) hTrace).trans (announced_append _ s.bus.trace _)).symm

theorem post_endpointInComplete {addr : EndpointAddress} (h : s.Loops epIn epOut messages)
    (hDue : LoopbackStep.Due messages (.endpointInComplete addr) s) :
    Post False (LoopbackStep.perform (.endpointInComplete addr))
      (fun _ s' => s'.Loops epIn epOut messages) s := by
  obtain ⟨hReady, hPhase⟩ := h
  obtain ⟨hBulk, hOther⟩ := hDue
  by_cases hAddr : addr = s.cls.epBulkIn.address
  · subst hAddr
    obtain ⟨hSome, hTakes⟩ := hBulk rfl
    rcases hPhase with ⟨past, rest, got, echoes, hPhase⟩ | ⟨past, rest, message, echoes, sent, hPhase⟩
    · rw [hPhase.completed] at hSome
      exact absurd hSome (Nat.lt_irrefl _)
    · exact hPhase.completes hReady hTakes
  · have hCallback : s.cls.endpointInComplete addr = .ret s.cls := by
      rw [TestClass.endpointInComplete, if_neg (by rw [hReady.bench]; exact Bool.false_ne_true),
        if_neg hAddr, if_neg (hOther hAddr)]
    have hRun : callClass (.endpointInComplete addr) (UsbClass.endpointInComplete · addr) 0 s.cls s.bus =
        .done (.ok s.cls) (s.bus.noting (.class_ 0 (.endpointInComplete addr))) :=
      congrArg (fun m => (m.run : BusM B _) (s.bus.noting (.class_ 0 (.endpointInComplete addr))))
        hCallback
    have hAdds : s.Adds (s.bus.noting (.class_ 0 (.endpointInComplete addr))) [] [] 0 :=
      adds_of_events (Traced.trace_noting _ _) rfl rfl (by simp [completions, hAddr])
    refine post_onClass hRun (Loops.same ⟨hReady, hPhase⟩ (hAdds.unchanged fun _ hTold => ?_))
    exact hReady.expected ((announced_append _ s.bus.trace _).symm.trans hTold)

theorem trace_reading_of {t : Traced B} {addr : EndpointAddress} {len : Nat}
    {result : Except UsbError (List UInt8)} (h : (UsbBus.read t.bus addr len).1 = result) :
    (t.reading addr len).trace = t.trace ++ [.read addr len result] := by
  rw [Traced.trace_reading, h]

theorem trace_writing_of {t : Traced B} {addr : EndpointAddress} {data : List UInt8}
    {result : Except UsbError Nat} (h : (UsbBus.write t.bus addr data).1 = result) :
    (t.writing addr data).trace = t.trace ++ [.write addr data result] := by
  rw [Traced.trace_writing, h]

theorem post_poll_quiet {cls : TestClass sizes} (hBench : s.cls.bench = false)
    (hBulk : (s.cls.pollBulk.run : BusM B _) s.bus = .done (.ok cls) bus)
    (hBlocks : Blocks cls.epInterruptOut bus.bus)
    (h : (⟨bus.reading cls.epInterruptOut.address sizes.buffer, cls⟩ : Loopback B sizes).Loops
      epIn epOut messages) :
    Post False (LoopbackStep.perform .poll) (fun _ s' => s'.Loops epIn epOut messages) s := by
  have hRun : (s.cls.poll.run : BusM B _) s.bus =
      .done (.ok cls) (bus.reading cls.epInterruptOut.address sizes.buffer) := by
    rw [TestClass.run_poll hBench, bind_of_ok hBulk,
      TestClass.run_pollInterrupt_blocked (hBlocks _)]
  exact post_onClass (s := s) (m := fun cls => cls.poll.run) hRun h

theorem Loops.blocked (h : s.Loops epIn epOut messages)
    (hLength : ∀ m ∈ messages, m.length ≤ sizes.buffer)
    (hRead : (UsbBus.read s.bus.bus s.cls.epBulkOut.address (sizes.buffer - s.cls.i)).1 =
      .error .wouldBlock)
    (hBlocks : Blocks s.cls.epInterruptOut
      (UsbBus.read s.bus.bus s.cls.epBulkOut.address (sizes.buffer - s.cls.i)).2) :
    Post False (LoopbackStep.perform .poll) (fun _ s' => s'.Loops epIn epOut messages) s := by
  have hBulk := TestClass.run_pollBulk_blocked (h.index_le hLength) hRead
  have hTrace : ((s.bus.reading s.cls.epBulkOut.address (sizes.buffer - s.cls.i)).reading
      s.cls.epInterruptOut.address sizes.buffer).trace = s.bus.trace ++
        [.read s.cls.epBulkOut.address (sizes.buffer - s.cls.i) (.error .wouldBlock),
          .read s.cls.epInterruptOut.address sizes.buffer (.error .wouldBlock)] := by
    rw [trace_reading_of (hBlocks sizes.buffer), trace_reading_of hRead, List.append_assoc]
    rfl
  have hAdds : s.Adds _ [] [] 0 := adds_of_events hTrace rfl rfl rfl
  refine post_poll_quiet h.1.bench hBulk hBlocks
    (h.same (hAdds.unchanged fun hExpected hTold => ?_))
  refine hExpected (Eq.trans ?_ hTold)
  exact ((congrArg (UsbStack.announced _) hTrace).trans (announced_append _ s.bus.trace _)).symm

/-- A poll of the class that finds the next packet of a message. -/
theorem Receiving.polled (hReady : s.Ready epIn epOut)
    (h : s.Receiving messages past (message :: rest) got echoes)
    (hPackets : packets s.outSize message = got ++ packet :: more)
    (hRoom : s.cls.i + packet.length ≤ sizes.buffer) (hTold : s.announced = true)
    (hRead : (UsbBus.read s.bus.bus s.cls.epBulkOut.address (sizes.buffer - s.cls.i)).1 = .ok packet)
    (hTakes : Takes s.cls.epBulkIn
      (UsbBus.read s.bus.bus s.cls.epBulkOut.address (sizes.buffer - s.cls.i)).2)
    (hBlocks : Blocks s.cls.epInterruptOut
      (UsbBus.read s.bus.bus s.cls.epBulkOut.address (sizes.buffer - s.cls.i)).2)
    (hBlocks' : ∀ data, Blocks s.cls.epInterruptOut (UsbBus.write
      (UsbBus.read s.bus.bus s.cls.epBulkOut.address (sizes.buffer - s.cls.i)).2
      s.cls.epBulkIn.address data).2) :
    Post False (LoopbackStep.perform .poll) (fun _ s' => s'.Loops epIn epOut messages) s := by
  have hExpect := hReady.expected hTold
  have hUnannounced (events : List Event) (hQuiet : ∀ now,
      events.foldl (announce s.cls.epBulkOut.address) now = now) :
      UsbStack.announced s.cls.epBulkOut.address (s.bus.trace ++
        .read s.cls.epBulkOut.address (sizes.buffer - s.cls.i) (.ok packet) :: events) = false := by
    rw [announced_append, List.foldl_cons, hQuiet]
    exact if_pos rfl
  by_cases hShort : packet.length < s.outSize
  · obtain rfl : more = [] := (short_iff_of_packets hReady.outSize hPackets).mp hShort
    have hChunk : (s.cls.started packet hRoom).chunk.length ≤ s.inSize := by
      rw [TestClass.chunk, List.length_take]
      exact Nat.min_le_left _ _
    have hWrite := hTakes _ hChunk
    have hBulk := TestClass.run_pollBulk_short hRoom hExpect hRead hShort hReady.inSize hWrite
    have hTrace : (((s.bus.reading s.cls.epBulkOut.address (sizes.buffer - s.cls.i)).writing
        s.cls.epBulkIn.address (s.cls.started packet hRoom).chunk).reading
          s.cls.epInterruptOut.address sizes.buffer).trace = s.bus.trace ++
          [.read s.cls.epBulkOut.address (sizes.buffer - s.cls.i) (.ok packet),
            .write s.cls.epBulkIn.address (s.cls.started packet hRoom).chunk
              (.ok (s.cls.started packet hRoom).chunk.length),
            .read s.cls.epInterruptOut.address sizes.buffer (.error .wouldBlock)] := by
      rw [trace_reading_of (hBlocks' _ sizes.buffer), trace_writing_of hWrite, trace_reading_of hRead,
        List.append_assoc, List.append_assoc]
      rfl
    have hAdds : s.Adds _ [packet] [(s.cls.started packet hRoom).chunk] 0 :=
      adds_of_events hTrace (by simp [UsbStack.delivered]) (by simp [accepted]) rfl
    refine post_poll_quiet hReady.bench hBulk (hBlocks' _)
      ⟨⟨hReady.epIn, hReady.epOut, hReady.bench, hReady.outSize, hReady.inSize, fun hAgain => ?_⟩,
        .inr ⟨_, _, _, _, _, h.last hPackets hReady.outSize hRoom hAdds⟩⟩
    have hNot := (congrArg (UsbStack.announced _) hTrace).trans (hUnannounced _ fun _ => rfl)
    exact absurd (hNot.symm.trans hAgain) Bool.false_ne_true
  · have hMore : more ≠ [] := fun hNil =>
      hShort ((short_iff_of_packets hReady.outSize hPackets).mpr hNil)
    have hBulk := TestClass.run_pollBulk_full hRoom hExpect hRead hShort
    have hTrace : ((s.bus.reading s.cls.epBulkOut.address (sizes.buffer - s.cls.i)).reading
        s.cls.epInterruptOut.address sizes.buffer).trace = s.bus.trace ++
          [.read s.cls.epBulkOut.address (sizes.buffer - s.cls.i) (.ok packet),
            .read s.cls.epInterruptOut.address sizes.buffer (.error .wouldBlock)] := by
      rw [trace_reading_of (hBlocks sizes.buffer), trace_reading_of hRead, List.append_assoc]
      rfl
    have hAdds : s.Adds _ [packet] [] 0 :=
      adds_of_events hTrace (by simp [UsbStack.delivered]) rfl rfl
    refine post_poll_quiet hReady.bench hBulk hBlocks
      ⟨⟨hReady.epIn, hReady.epOut, hReady.bench, hReady.outSize, hReady.inSize, fun hAgain => ?_⟩,
        .inl ⟨_, _, _, _, h.continues hPackets hMore hRoom hAdds⟩⟩
    have hNot := (congrArg (UsbStack.announced _) hTrace).trans (hUnannounced _ fun _ => rfl)
    exact absurd (hNot.symm.trans hAgain) Bool.false_ne_true

theorem post_poll (h : s.Loops epIn epOut messages) (hLength : ∀ m ∈ messages, m.length ≤ sizes.buffer)
    (hServes : s.Serves messages) :
    Post False (LoopbackStep.perform .poll) (fun _ s' => s'.Loops epIn epOut messages) s := by
  rcases hServes (sizes.buffer - s.cls.i) with ⟨hRead, hBlocks⟩ | ⟨packet, hSends, hPacket⟩
  · exact h.blocked hLength hRead hBlocks
  obtain ⟨hReady, ⟨past, rest, got, echoes, hPhase⟩ | ⟨past, rest, message, echoes, sent, hPhase⟩⟩ := h
  · have hNext := hSends.next
    rw [hPhase.delivered, hPhase.split] at hNext
    obtain ⟨message, later, more, rfl, hPackets⟩ := hPhase.underway.next hNext
    have hRoom := hPhase.room hPackets hReady.outSize hLength
    obtain ⟨hRead, hBlocks, hTakes, hBlocks'⟩ := hPacket (by omega)
    exact hPhase.polled hReady hPackets hRoom hSends.announced hRead hTakes hBlocks hBlocks'
  · exact absurd hSends (hPhase.not_sends hReady.outSize)

end Steps

end Loopback

theorem LoopbackStep.post_loops [UsbBus B] {messages : List (List UInt8)}
    {epIn epOut : ClassEndpoint} {s : Loopback B sizes}
    (hLength : ∀ m ∈ messages, m.length ≤ sizes.buffer) (step : LoopbackStep B)
    (hDue : step.Due messages s) (h : s.Loops epIn epOut messages) :
    Post False step.perform (fun _ s' => s'.Loops epIn epOut messages) s := by
  cases step with
  | hardware bus => exact h.same ⟨rfl, rfl, rfl, rfl, rfl, rfl, rfl, rfl, rfl, rfl, id⟩
  | endpointOut addr => exact h.same (Loopback.same_endpointOut addr)
  | endpointInComplete addr => exact Loopback.post_endpointInComplete h hDue
  | poll => exact Loopback.post_poll h hLength hDue

structure TestClass.Idle (cls : TestClass sizes) : Prop where
  bench : cls.bench = false
  index : cls.i = 0
  len : cls.len = 0
  expect : cls.expectBulkInComplete = false

theorem Loopback.loops_start {cls : TestClass sizes} (hIdle : cls.Idle)
    (hOut : 0 < cls.epBulkOut.maxPacketSize.toNat) (hIn : 0 < cls.epBulkIn.maxPacketSize.toNat)
    (messages : List (List UInt8)) (bus : B) :
    (start bus cls).Loops cls.epBulkIn cls.epBulkOut messages := by
  refine ⟨⟨rfl, rfl, hIdle.bench, hOut, hIn, fun hTold => absurd hTold Bool.false_ne_true⟩,
    .inl ⟨[], messages, [], [], ?_⟩⟩
  constructor
  case buffer => exact congrArg (List.take · cls.bulkBuf.val) hIdle.index
  case index => exact hIdle.index
  case len => exact hIdle.len
  case expect => exact hIdle.expect
  case underway => exact .inl rfl
  case echoed => exact .nil
  all_goals rfl

theorem short_of_echoed {size : Nat} {messages : List (List UInt8)} {echoes : List (List (List UInt8))}
    (h : List.Forall₂ (EchoOf size) messages echoes) :
    ∀ piece ∈ echoes.flatten, piece.length ≤ size := by
  induction h with
  | nil =>
    intro piece hPiece
    cases hPiece
  | cons hHead _ ih =>
    intro piece hPiece
    rw [List.flatten_cons] at hPiece
    exact (List.mem_append.mp hPiece).elim (hHead.short piece) (ih piece)

theorem Loopback.Loops.short {messages : List (List UInt8)} {epIn epOut : ClassEndpoint}
    {s : Loopback B sizes} (h : s.Loops epIn epOut messages) :
    ∀ piece ∈ s.written, piece.length ≤ s.inSize := by
  obtain ⟨-, ⟨past, rest, got, echoes, hPhase⟩ | ⟨past, rest, message, echoes, sent, hPhase⟩⟩ := h
  · rw [hPhase.written]
    exact short_of_echoed hPhase.echoed
  · rw [hPhase.written]
    intro piece hPiece
    exact (List.mem_append.mp hPiece).elim (short_of_echoed hPhase.echoed piece) (hPhase.short piece)

theorem Loopback.Receiving.got_eq_nil {messages past rest got sent : List (List UInt8)}
    {echoes : List (List (List UInt8))} {s : Loopback B sizes} (hSize : 0 < s.outSize)
    (h : s.Receiving messages past rest got echoes)
    (hSent : s.delivered = sent.flatMap (packets s.outSize)) : got = [] := by
  rcases h.underway with hNil | ⟨message, later, more, -, hPackets, hMore⟩
  · exact hNil
  by_contra hSome
  obtain ⟨next, tail, rfl⟩ := List.exists_cons_of_ne_nil hMore
  have hFull := length_of_mem_packets hPackets (List.getLast_mem hSome)
  have hLast : got.getLast hSome ∈ (sent.flatMap (packets s.outSize)).getLast? := by
    rw [← hSent, h.delivered, List.getLast?_append_of_ne_nil _ hSome,
      List.getLast?_eq_some_getLast hSome]
    rfl
  have hShort := getLast?_flatMap_packets hSize hLast
  omega

/-- The test class never panics, and when the host has sent some messages and all packets are
complete, it has written the echo of each message and waits for the next one. -/
theorem echoes_messages [UsbBus B] {cls : TestClass sizes} {bus : B} {messages : List (List UInt8)}
    {steps : List (LoopbackStep B)} (hIdle : cls.Idle)
    (hOut : 0 < cls.epBulkOut.maxPacketSize) (hIn : 0 < cls.epBulkIn.maxPacketSize)
    (hLength : ∀ m ∈ messages, m.length ≤ sizes.buffer)
    (hDue : Along LoopbackStep.perform (LoopbackStep.Due messages) steps (.start bus cls)) :
    ∃ s, finalState LoopbackStep.perform steps (.start bus cls) = some s ∧
      (∀ piece ∈ s.written, piece.length ≤ cls.epBulkIn.maxPacketSize.toNat) ∧
      ∀ sent, sent <+: messages →
        s.delivered = sent.flatMap (packets cls.epBulkOut.maxPacketSize.toNat) →
        s.completed = s.written.length →
        (∃ echoes, s.written = echoes.flatten ∧
          List.Forall₂ (EchoOf cls.epBulkIn.maxPacketSize.toNat) sent echoes) ∧
        s.cls.i = 0 ∧ s.cls.len = 0 ∧ s.cls.expectBulkInComplete = false := by
  have hUnmoved : Unmoved LoopbackStep.perform (LoopbackStep.Due messages)
      (fun _ => (none : Option Unit)) fun s : Loopback B sizes =>
        s.Loops cls.epBulkIn cls.epBulkOut messages :=
    fun step s _ hStep h => step.post_loops hLength hStep h
  obtain ⟨s, hFinal, hLoops⟩ := leads_nil hUnmoved steps _
    (Loopback.loops_start hIdle hOut hIn messages bus) hDue
    (List.filterMap_eq_nil_iff.mpr fun _ _ => rfl)
  have hShort := hLoops.short
  obtain ⟨hReady, hPhase⟩ := hLoops
  have hInSize : s.inSize = cls.epBulkIn.maxPacketSize.toNat :=
    congrArg (·.maxPacketSize.toNat) hReady.epIn
  have hOutSize : s.outSize = cls.epBulkOut.maxPacketSize.toNat :=
    congrArg (·.maxPacketSize.toNat) hReady.epOut
  refine ⟨s, hFinal, hInSize ▸ hShort, fun sent hSent hDelivered hCompleted => ?_⟩
  rw [← hOutSize] at hDelivered
  rcases hPhase with ⟨past, rest, got, echoes, hPhase⟩ | ⟨past, rest, message, echoes, pieces, hPhase⟩
  · obtain rfl := hPhase.got_eq_nil hReady.outSize hDelivered
    have hPast : past <+: messages := ⟨rest, hPhase.split.symm⟩
    have hAll := hPhase.delivered
    rw [List.append_nil, hDelivered] at hAll
    obtain rfl := eq_of_flatMap_packets hSent hPast hAll
    exact ⟨⟨echoes, hPhase.written, hInSize ▸ hPhase.echoed⟩, hPhase.index, hPhase.len, hPhase.expect⟩
  · have hOutstanding := hPhase.completed
    omega

structure BulkBus where
  incoming : Option (List UInt8)

namespace BulkBus

def read (bus : BulkBus) (addr : EndpointAddress) (len : Nat) :
    Except UsbError (List UInt8) × BulkBus :=
  if addr = ⟨0x01⟩ then
    match bus.incoming with
    | some packet => (if packet.length ≤ len then .ok packet else .error .bufferOverflow, ⟨none⟩)
    | none => (.error .wouldBlock, bus)
  else (.error .wouldBlock, bus)

instance : UsbBus BulkBus where
  allocEp bus dir addr _ _ _ := (.ok (addr.getD (.fromParts 1 dir)), bus)
  enable := id
  reset := id
  setDeviceAddress bus _ := bus
  write bus _ data := (.ok data.length, bus)
  read := read
  setStalled bus _ _ := bus
  isStalled _ _ := false
  suspend := id
  resume := id
  poll bus := (.none, bus)
  quirkSetAddressBeforeStatus := false

def endpoint (addr : UInt8) (h : (EndpointAddress.mk addr).index ≠ 0) : ClassEndpoint :=
  ⟨⟨⟨addr⟩, .bulk, 64, 0⟩, h⟩

def testClass : TestClass .fullSpeed :=
  .new ⟨4⟩ ⟨5⟩ ⟨0⟩ (endpoint 0x81 (by decide)) (endpoint 0x01 (by decide)) (endpoint 0x82 (by decide))
    (endpoint 0x02 (by decide)) (endpoint 0x83 (by decide))

def messages : List (List UInt8) := [List.replicate 70 1, [7, 8]]

def arrival (packet : List UInt8) : List (LoopbackStep BulkBus) :=
  [.hardware ⟨some packet⟩, .endpointOut ⟨0x01⟩, .poll]

def exchange : List (LoopbackStep BulkBus) :=
  .poll :: arrival (List.replicate 64 1) ++ arrival (List.replicate 6 1) ++
    [.endpointInComplete ⟨0x81⟩, .poll, .endpointInComplete ⟨0x81⟩] ++ arrival [7, 8] ++
    [.endpointInComplete ⟨0x81⟩]

def Checked : LoopbackStep BulkBus → Loopback BulkBus .fullSpeed → Prop
  | .hardware _, _ | .endpointOut _, _ => True
  | .endpointInComplete addr, s =>
    addr = s.cls.epBulkIn.address ∧ s.completed < s.written.length
  | .poll, s =>
    s.cls.epBulkOut.address = ⟨0x01⟩ ∧ s.cls.epInterruptOut.address ≠ ⟨0x01⟩ ∧
      ∀ packet ∈ s.bus.bus.incoming,
        (messages.flatMap (packets s.outSize))[s.delivered.length]? = some packet ∧
        s.announced = true ∧
        ((∀ last ∈ s.delivered.getLast?, last.length < s.outSize) → s.completed = s.written.length)

instance : (step : LoopbackStep BulkBus) → (s : Loopback BulkBus .fullSpeed) →
    Decidable (Checked step s)
  | .hardware _, _ | .endpointOut _, _ => inferInstanceAs (Decidable True)
  | .endpointInComplete _, _ => inferInstanceAs (Decidable (_ ∧ _))
  | .poll, _ => inferInstanceAs (Decidable (_ ∧ _ ∧ _))

theorem takes (ep : ClassEndpoint) (bus : BulkBus) : Takes ep bus := fun _ _ => rfl

theorem blocks {ep : ClassEndpoint} (hAddr : ep.address ≠ ⟨0x01⟩) (bus : BulkBus) : Blocks ep bus := by
  intro len
  change (read bus ep.address len).1 = _
  rw [read, if_neg hAddr]

theorem due_of_checked (step : LoopbackStep BulkBus) (s : Loopback BulkBus .fullSpeed)
    (h : Checked step s) : LoopbackStep.Due messages step s := by
  cases step with
  | hardware bus => trivial
  | endpointOut addr => trivial
  | endpointInComplete addr =>
    exact ⟨fun _ => ⟨h.2, takes _ _⟩, fun hNot => absurd h.1 hNot⟩
  | poll =>
    obtain ⟨hOut, hInterrupt, hIncoming⟩ := h
    intro len
    have hRead : UsbBus.read s.bus.bus s.cls.epBulkOut.address len =
        read s.bus.bus ⟨0x01⟩ len := by
      rw [hOut]
      rfl
    rw [hRead, read, if_pos rfl]
    cases hSlot : s.bus.bus.incoming with
    | none => exact .inl ⟨rfl, blocks hInterrupt _⟩
    | some packet =>
      obtain ⟨hNext, hAnnounced, hTurn⟩ := hIncoming packet hSlot
      refine .inr ⟨packet, ⟨hNext, hAnnounced, hTurn⟩, fun hFits => ?_⟩
      exact ⟨if_pos hFits, blocks hInterrupt _, takes _ _, fun _ => blocks hInterrupt _⟩

def echoed : Loopback BulkBus .fullSpeed :=
  (finalState LoopbackStep.perform exchange (.start ⟨none⟩ testClass)).get (by decide +kernel)

end BulkBus

open BulkBus in
/-- A message of 70 bytes comes in two packets and goes back in two, before one of two bytes. -/
theorem echoes_messages_two :
    finalState LoopbackStep.perform exchange (.start ⟨none⟩ testClass) = some echoed ∧
    (∀ piece ∈ echoed.written, piece.length ≤ 64) ∧
    (∃ echoes, echoed.written = echoes.flatten ∧ List.Forall₂ (EchoOf 64) messages echoes) ∧
    echoed.cls.i = 0 ∧ echoed.cls.len = 0 ∧ echoed.cls.expectBulkInComplete = false := by
  have hChecked : Along LoopbackStep.perform Checked exchange (.start ⟨none⟩ testClass) := by
    decide +kernel
  have hFinal : finalState LoopbackStep.perform exchange (.start ⟨none⟩ testClass) = some echoed :=
    (Option.some_get _).symm
  obtain ⟨s, hEchoed, hShort, hRest⟩ := echoes_messages ⟨rfl, rfl, rfl, rfl⟩ (by decide) (by decide)
    (by decide) (hChecked.mono due_of_checked)
  obtain rfl : echoed = s := Option.some.inj (hFinal.symm.trans hEchoed)
  exact ⟨hFinal, hShort,
    hRest messages (List.prefix_refl _) (by decide +kernel) (by decide +kernel)⟩

end UsbStack
