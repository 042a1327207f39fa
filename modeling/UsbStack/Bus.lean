import UsbStack.Endpoint
import UsbStack.Foundation.Program
import UsbStack.Foundation.Run
import UsbStack.Foundation.Bytes

/-! # The USB bus

`UsbBus` is the driver interface as the crate sees it, with the driver's own state passed along.
Every call that can change the bus, and every call to a class, is recorded in a trace, so that
statements can speak about what the device did and in which order.
-/

namespace UsbStack

set_option autoImplicit false

open Foundation

/-- Events returned by the bus. Bit `n` of a field is endpoint number `n`. -/
inductive PollResult where
  | none
  | reset
  | data (epOut epInComplete epSetup : UInt16)
  | suspend
  | resume
  deriving DecidableEq, Repr

/-- A driver. `read` is told the length of the slice it may fill and answers with the packet that
it copied to the front of the slice; `Ok(count)` is the length of that packet. -/
class UsbBus (B : Type) where
  allocEp : B → UsbDirection → Option EndpointAddress → EndpointType → UInt16 → UInt8 →
    Except UsbError EndpointAddress × B
  enable : B → B
  reset : B → B
  setDeviceAddress : B → UInt8 → B
  write : B → EndpointAddress → List UInt8 → Except UsbError Nat × B
  read : B → EndpointAddress → Nat → Except UsbError (List UInt8) × B
  setStalled : B → EndpointAddress → Bool → B
  isStalled : B → EndpointAddress → Bool
  suspend : B → B
  resume : B → B
  poll : B → PollResult × B
  quirkSetAddressBeforeStatus : Bool

/-- What the documentation of `alloc_ep`, `read` and `write` promises of every driver. -/
class UsbBus.Contract (B : Type) [UsbBus B] : Prop where
  alloc_eq : ∀ (bus : B) dir addr epType size interval addr',
    (allocEp bus dir (some addr) epType size interval).1 = .ok addr' → addr' = addr
  read_le : ∀ (bus : B) addr len packet, (read bus addr len).1 = .ok packet → packet.length ≤ len
  write_le : ∀ (bus : B) addr data count, (write bus addr data).1 = .ok count → count ≤ data.length

/-- A driver that takes a packet whole or refuses it. -/
class UsbBus.WholeWrites (B : Type) [UsbBus B] : Prop where
  write_eq : ∀ (bus : B) addr data count, (write bus addr data).1 = .ok count → count = data.length

structure InterfaceNumber where
  value : UInt8
  deriving DecidableEq, Repr

structure StringIndex where
  value : UInt8
  deriving DecidableEq, Repr

/-- The `&mut self` methods of a class that the device calls. -/
inductive ClassCall where
  | reset
  | poll
  | controlOut (req : Request) (data : List UInt8)
  | controlIn (req : Request)
  | endpointSetup (addr : EndpointAddress)
  | endpointOut (addr : EndpointAddress)
  | endpointInComplete (addr : EndpointAddress)
  | getAltSetting (interface : InterfaceNumber)
  | setAltSetting (interface : InterfaceNumber) (alternative : UInt8)
  deriving DecidableEq

/-- `setup` is noted when the control pipe takes up the request of a SETUP packet. -/
inductive Event where
  | enable
  | reset
  | setDeviceAddress (addr : UInt8)
  | write (addr : EndpointAddress) (data : List UInt8) (result : Except UsbError Nat)
  | read (addr : EndpointAddress) (len : Nat) (result : Except UsbError (List UInt8))
  | setStalled (addr : EndpointAddress) (stalled : Bool)
  | suspend
  | resume
  | poll (result : PollResult)
  | setup (req : Request)
  | class_ (index : Nat) (call : ClassCall)

structure Traced (B : Type) where
  bus : B
  trace : List Event

abbrev BusM (B : Type) := Exec Panic UsbError (Traced B)

namespace Traced

variable {B : Type} [UsbBus B]

def command (f : B → B) (event : Event) : BusM B Unit := fun t =>
  .done (.ok ()) ⟨f t.bus, t.trace ++ [event]⟩

def note (event : Event) : BusM B Unit := command id event

def reset : BusM B Unit := command UsbBus.reset .reset

def enable : BusM B Unit := command UsbBus.enable .enable

def setDeviceAddress (addr : UInt8) : BusM B Unit :=
  command (UsbBus.setDeviceAddress · addr) (.setDeviceAddress addr)

def setStalled (addr : EndpointAddress) (stalled : Bool) : BusM B Unit :=
  command (UsbBus.setStalled · addr stalled) (.setStalled addr stalled)

def suspend : BusM B Unit := command UsbBus.suspend .suspend

def resume : BusM B Unit := command UsbBus.resume .resume

def isStalled (addr : EndpointAddress) : BusM B Bool := fun t =>
  .done (.ok (UsbBus.isStalled t.bus addr)) t

def write (addr : EndpointAddress) (data : List UInt8) : BusM B Nat := fun t =>
  let (result, bus) := UsbBus.write t.bus addr data
  .done result ⟨bus, t.trace ++ [.write addr data result]⟩

def read (addr : EndpointAddress) (len : Nat) : BusM B (List UInt8) := fun t =>
  let (result, bus) := UsbBus.read t.bus addr len
  .done result ⟨bus, t.trace ++ [.read addr len result]⟩

def poll : BusM B PollResult := fun t =>
  let (result, bus) := UsbBus.poll t.bus
  .done (.ok result) ⟨bus, t.trace ++ [.poll result]⟩

def allocEp (dir : UsbDirection) (addr : Option EndpointAddress) (epType : EndpointType)
    (maxPacketSize : UInt16) (interval : UInt8) : BusM B EndpointAddress := fun t =>
  let (result, bus) := UsbBus.allocEp t.bus dir addr epType maxPacketSize interval
  .done result ⟨bus, t.trace⟩

/-! The bus after a call, as a value. -/

def reading (t : Traced B) (addr : EndpointAddress) (len : Nat) : Traced B :=
  ⟨(UsbBus.read t.bus addr len).2, t.trace ++ [.read addr len (UsbBus.read t.bus addr len).1]⟩

def writing (t : Traced B) (addr : EndpointAddress) (data : List UInt8) : Traced B :=
  ⟨(UsbBus.write t.bus addr data).2, t.trace ++ [.write addr data (UsbBus.write t.bus addr data).1]⟩

def stalling (t : Traced B) (addr : EndpointAddress) (b : Bool) : Traced B :=
  ⟨UsbBus.setStalled t.bus addr b, t.trace ++ [.setStalled addr b]⟩

def noting (t : Traced B) (event : Event) : Traced B := ⟨t.bus, t.trace ++ [event]⟩

omit [UsbBus B] in
@[simp] theorem trace_noting (t : Traced B) (event : Event) :
    (t.noting event).trace = t.trace ++ [event] := rfl

theorem read_apply (t : Traced B) (addr : EndpointAddress) (len : Nat) :
    read addr len t = .done (UsbBus.read t.bus addr len).1 (t.reading addr len) := rfl

theorem write_apply (t : Traced B) (addr : EndpointAddress) (data : List UInt8) :
    write addr data t = .done (UsbBus.write t.bus addr data).1 (t.writing addr data) := rfl

theorem setStalled_apply (t : Traced B) (addr : EndpointAddress) (b : Bool) :
    setStalled addr b t = .done (.ok ()) (t.stalling addr b) := rfl

@[simp] theorem trace_reading (t : Traced B) (addr : EndpointAddress) (len : Nat) :
    (t.reading addr len).trace =
      t.trace ++ [.read addr len (UsbBus.read t.bus addr len).1] := rfl

@[simp] theorem trace_writing (t : Traced B) (addr : EndpointAddress) (data : List UInt8) :
    (t.writing addr data).trace =
      t.trace ++ [.write addr data (UsbBus.write t.bus addr data).1] := rfl

@[simp] theorem trace_stalling (t : Traced B) (addr : EndpointAddress) (b : Bool) :
    (t.stalling addr b).trace = t.trace ++ [.setStalled addr b] := rfl

end Traced

namespace Endpoint

variable {B : Type} [UsbBus B]

def stall (ep : Endpoint) : BusM B Unit := Traced.setStalled ep.address true

def unstall (ep : Endpoint) : BusM B Unit := Traced.setStalled ep.address false

def write (ep : Endpoint) (data : List UInt8) : BusM B Nat := Traced.write ep.address data

def read (ep : Endpoint) (len : Nat) : BusM B (List UInt8) := Traced.read ep.address len

end Endpoint

/-- The STALL condition of an endpoint, when only `set_stalled` and a bus reset change it. -/
def stalled (addr : EndpointAddress) (trace : List Event) : Bool :=
  trace.foldl (fun now event =>
    match event with
    | .reset => false
    | .setStalled addr' b => if addr' = addr then b else now
    | _ => now) false

theorem stalled_append_setStalled (addr addr' : EndpointAddress) (b : Bool) (trace : List Event) :
    stalled addr (trace ++ [.setStalled addr' b]) =
      if addr' = addr then b else stalled addr trace := by
  rw [stalled, List.foldl_append]
  rfl

/-- Whether `set_device_address` was called with a value in 1..=127 since the last bus reset. -/
def addressed (trace : List Event) : Bool :=
  trace.foldl (fun now event =>
    match event with
    | .reset => false
    | .setDeviceAddress addr => now || (1 ≤ addr && addr ≤ 127)
    | _ => now) false

/-- The request of the latest SETUP packet that the control pipe took up. -/
def lastSetup (trace : List Event) : Option Request :=
  trace.foldl (fun now event =>
    match event with
    | .setup req => some req
    | _ => now) none

def accepted (addr : EndpointAddress) (trace : List Event) : List (List UInt8) :=
  trace.filterMap fun event =>
    match event with
    | .write addr' data (.ok _) => if addr' = addr then some data else none
    | _ => none

def attempted (addr : EndpointAddress) (trace : List Event) : List (List UInt8) :=
  trace.filterMap fun event =>
    match event with
    | .write addr' data _ => if addr' = addr then some data else none
    | _ => none

def refused (addr : EndpointAddress) (trace : List Event) : List (List UInt8) :=
  trace.filterMap fun event =>
    match event with
    | .write addr' data (.error _) => if addr' = addr then some data else none
    | _ => none

@[simp] theorem refused_append (addr : EndpointAddress) (trace more : List Event) :
    refused addr (trace ++ more) = refused addr trace ++ refused addr more :=
  List.filterMap_append

@[simp] theorem attempted_append (addr : EndpointAddress) (trace more : List Event) :
    attempted addr (trace ++ more) = attempted addr trace ++ attempted addr more :=
  List.filterMap_append

@[simp] theorem accepted_append (addr : EndpointAddress) (trace more : List Event) :
    accepted addr (trace ++ more) = accepted addr trace ++ accepted addr more :=
  List.filterMap_append

/-- The trace of `t'` is that of `t` with further events, all of them satisfying `P`. -/
def Traced.Grows {B : Type} (P : Event → Prop) (t t' : Traced B) : Prop :=
  ∃ events, t'.trace = t.trace ++ events ∧ ∀ event ∈ events, P event

namespace Traced.Grows

variable {B : Type} {P Q : Event → Prop}

theorem refl (t : Traced B) : Grows P t t := ⟨[], by simp, by simp⟩

theorem trans (t u v : Traced B) (h : Grows P t u) (h' : Grows P u v) : Grows P t v := by
  obtain ⟨first, hFirst, hP⟩ := h
  obtain ⟨second, hSecond, hP'⟩ := h'
  refine ⟨first ++ second, by rw [hSecond, hFirst, List.append_assoc], ?_⟩
  intro event hEvent
  rcases List.mem_append.mp hEvent with hEvent | hEvent
  · exact hP event hEvent
  · exact hP' event hEvent

theorem mono (hPQ : ∀ event, P event → Q event) {t t' : Traced B} (h : Grows P t t') :
    Grows Q t t' := by
  obtain ⟨events, hTrace, hP⟩ := h
  exact ⟨events, hTrace, fun event hEvent => hPQ event (hP event hEvent)⟩

theorem single {t t' : Traced B} {event : Event} (h : t'.trace = t.trace ++ [event])
    (hP : P event) : Grows P t t' :=
  ⟨[event], h, by simpa using hP⟩

theorem foldl_eq {β : Type} {f : β → Event → β} (hf : ∀ b event, P event → f b event = b)
    {t t' : Traced B} (h : Grows P t t') (start : β) :
    t'.trace.foldl f start = t.trace.foldl f start := by
  obtain ⟨events, hTrace, hP⟩ := h
  rw [hTrace, List.foldl_append]
  generalize t.trace.foldl f start = b
  clear hTrace
  induction events with
  | nil => rfl
  | cons event rest ih =>
    rw [List.foldl_cons, hf b event (hP event List.mem_cons_self)]
    exact ih fun e he => hP e (List.mem_cons_of_mem _ he)

theorem filterMap_eq {β : Type} {f : Event → Option β} (hf : ∀ event, P event → f event = none)
    {t t' : Traced B} (h : Grows P t t') : t'.trace.filterMap f = t.trace.filterMap f := by
  obtain ⟨events, hTrace, hP⟩ := h
  have hNone : events.filterMap f = [] :=
    List.filterMap_eq_nil_iff.mpr fun event hEvent => hf event (hP event hEvent)
  rw [hTrace, List.filterMap_append, hNone, List.append_nil]

end Traced.Grows

end UsbStack
