import UsbStack.Foundation.Script
import UsbStack.Visits

/-! # The device that a host sees

What the standard requests make of a device: it has a state, an address and the remote
wakeup feature, and it answers requests. Nothing is said of packets in flight, of buffers or of
polls.
-/

namespace UsbStack

set_option autoImplicit false

open Foundation Exec

/-- A packet that waits for the host on EP0-IN, a STALL of EP0-IN, or a new address. -/
inductive Sight where
  | packet (data : List UInt8)
  | stall
  | address (addr : UInt8)
  deriving DecidableEq

/-- What the host has seen of endpoint 0, and whether EP0-IN is stalled. -/
structure View where
  seen : List Sight
  stalled : Bool
  deriving DecidableEq

namespace View

def see (view : View) (sights : List Sight) : View := { view with seen := view.seen ++ sights }

/-- A packet in a stalled endpoint does not reach the host. -/
def sent (view : View) (data : List UInt8) : View :=
  view.see (if view.stalled then [] else [.packet data])

/-- A SETUP packet has arrived, which `lifts` a STALL on some hardware. -/
def heard (lifts : Bool) (view : View) : View :=
  { view with stalled := view.stalled && !lifts }

def note (lifts : Bool) (view : View) : Event → View
  | .write addr data (.ok _) => if addr = .control .in_ then view.sent data else view
  | .setStalled addr stalled =>
    if addr = .control .in_ then ⟨view.seen ++ if stalled then [.stall] else [], stalled⟩ else view
  | .setDeviceAddress addr => view.see [.address addr]
  | .setup _ => view.heard lifts
  | .reset => { view with stalled := false }
  | _ => view

end View

def view (lifts : Bool) (trace : List Event) : View := trace.foldl (View.note lifts) ⟨[], false⟩

/-- What the device is for its host. A pending address waits for the next status stage of an OUT
request that the host completes. -/
structure Standing where
  state : UsbDeviceState
  remoteWakeup : Bool
  pendingAddress : UInt8
  stalled : Bool
  deriving DecidableEq

inductive Command where
  | remoteWakeup (enabled : Bool)
  | address (addr : UInt8)
  | configuration (configured : Bool)
  deriving DecidableEq

def Request.command? (req : Request) : Option Command :=
  if req.request = setFeature ∧ req.value = featureDeviceRemoteWakeup then some (.remoteWakeup true)
  else if req.request = clearFeature ∧ req.value = featureDeviceRemoteWakeup then
    some (.remoteWakeup false)
  else if req.request = Request.setAddress ∧ 1 ≤ req.value ∧ req.value ≤ 127 then
    some (.address req.value.toUInt8)
  else if req.request = setConfiguration ∧ req.value = 1 then some (.configuration true)
  else if req.request = setConfiguration ∧ req.value = 0 then some (.configuration false)
  else none

namespace Command

/-- What the command makes of the device before the status stage. An `early` device takes an address
at once. -/
def apply (early : Bool) (a : Standing) : Command → Standing
  | remoteWakeup enabled => { a with remoteWakeup := enabled }
  | address addr =>
    if early then { a with state := .addressed } else { a with pendingAddress := addr }
  | configuration true => { a with state := .configured }
  | configuration false => { a with state := if a.state = .default then .default else .addressed }

def announces (early : Bool) : Command → List Sight
  | address addr => if early then [.address addr] else []
  | _ => []

theorem stalled_apply (early : Bool) (a : Standing) (command : Command) :
    (command.apply early a).stalled = a.stalled := by
  cases command with
  | remoteWakeup enabled => rfl
  | address addr => cases early <;> rfl
  | configuration configured => cases configured <;> rfl

end Command

/-- `silence` is what a host gets that asks for a descriptor for which the device has no room. -/
inductive Response where
  | data (bytes : List UInt8)
  | done (command : Command)
  | stall
  | silence
  deriving DecidableEq

/-- What a device answers from. Its hardware `lifts` a STALL of EP0-IN on a SETUP packet, or keeps it
until a bus reset. -/
structure Profile where
  packetSize : Nat
  selfPowered : Bool
  early : Bool
  lifts : Bool
  describe : Request → Response

namespace Profile

def status (profile : Profile) (a : Standing) : UInt16 :=
  (if profile.selfPowered then 0x0001 else 0x0000) ||| (if a.remoteWakeup then 0x0002 else 0x0000)

def reply (profile : Profile) (a : Standing) (req : Request) : Response :=
  if req.requestType ≠ .standard then .stall
  else match req.direction with
    | .in_ =>
      if req.request = Request.getStatus then .data (toLeBytes (profile.status a))
      else if req.request = Request.getDescriptor then profile.describe req
      else if req.request = Request.getConfiguration then
        .data [if a.state = .configured then 1 else 0]
      else .stall
    | .out => (req.command?.map Response.done).getD .stall

end Profile

namespace Standing

def initial : Standing := ⟨.default, false, 0, false⟩

def heard (lifts : Bool) (a : Standing) : Standing := { a with stalled := a.stalled && !lifts }

/-- The host has completed the status stage of an OUT request. -/
def acknowledged (early : Bool) (a : Standing) : Standing :=
  if early = false ∧ a.pendingAddress ≠ 0 then { a with state := .addressed, pendingAddress := 0 }
  else a

def announces (early : Bool) (a : Standing) : List Sight :=
  if early = false ∧ a.pendingAddress ≠ 0 then [.address a.pendingAddress] else []

def passes (a : Standing) (packets : List (List UInt8)) : List Sight :=
  if a.stalled then [] else packets.map .packet

end Standing

/-- What a host does to a device: traffic on endpoint 0, or a bus reset. -/
inductive HostAct where
  | traffic (traffic : Traffic)
  | reset

namespace Response

variable (profile : Profile) (a : Standing) (length taken : Nat) (patient : Bool)

/-- What the host does after the SETUP packet: it takes `taken` packets of the data and ends the
transfer with the status stage if it is patient. It gives up when it meets a STALL or is not heard. -/
def asks : Response → List HostAct
  | data _ =>
    if a.stalled then []
    else List.replicate taken (.traffic .inComplete) ++
      if patient then [.traffic (.out [])] else []
  | done _ => if patient = true ∧ a.stalled = false then [.traffic .inComplete] else []
  | stall | silence => []

def shows : Response → List Sight
  | data bytes => a.passes ((packets profile.packetSize (bytes.take length)).take (taken + 1))
  | done command =>
    let b := command.apply profile.early a
    command.announces profile.early ++ a.passes [[]] ++
      if patient = true ∧ a.stalled = false then b.announces profile.early else []
  | stall => [.stall]
  | silence => []

def next : Response → Standing
  | done command =>
    let b := command.apply profile.early a
    if patient = true ∧ a.stalled = false then b.acknowledged profile.early else b
  | stall => { a with stalled := true }
  | data _ | silence => a

end Response

/-- A bus reset, or a control transfer without OUT data. -/
inductive Exchange where
  | reset
  | request (packet : List UInt8) (req : Request) (taken : Nat) (patient : Bool)

namespace Exchange

variable (profile : Profile) (a : Standing)

def asks : Exchange → List HostAct
  | reset => [.reset]
  | request packet req taken patient =>
    .traffic (.setup packet) ::
      (profile.reply a req).asks (a.heard profile.lifts) taken patient

def shows : Exchange → List Sight
  | reset => []
  | request _ req taken patient =>
    (profile.reply a req).shows profile (a.heard profile.lifts) req.length.toNat taken patient

def next : Exchange → Standing
  | reset => .initial
  | request _ req _ patient => (profile.reply a req).next profile (a.heard profile.lifts) patient

end Exchange

namespace Profile

variable (profile : Profile) (script : List Exchange)

/-- What the host does in the script, when it meets a device with the profile after a reset. -/
def acts : List HostAct := collect (Exchange.asks profile) (Exchange.next profile) .initial script

def sights : List Sight := collect (Exchange.shows profile) (Exchange.next profile) .initial script

def outcome : Standing := script.foldl (Exchange.next profile) .initial

end Profile

end UsbStack
