import UsbStack.DeviceBuilder
import UsbStack.Foundation.Cell

/-! # Allocating resources

Classes take interface numbers, string indices and endpoints from the allocator. Building the device
freezes it: from then on nothing can be allocated, and the endpoints that were handed out can be used.
The counters overflow as in a build with overflow checks; without them 255 is followed by 0.
-/

namespace UsbStack

set_option autoImplicit false

open Foundation Exec

/-- A panic of the stack, a second borrow of a cell of the allocator, or the use of an endpoint whose
pointer to the bus is null. -/
inductive AllocPanic where
  | stack (reason : Panic)
  | alreadyBorrowed
  | notInitialized
  deriving DecidableEq, Repr

structure AllocatorState where
  nextInterfaceNumber : UInt8
  nextStringIndex : UInt8
  deriving DecidableEq, Repr

/-- `busPtr` says whether the pointer of the endpoints to the bus has been set. -/
structure UsbBusAllocator (B : Type) where
  bus : Cell (Traced B)
  busPtr : Bool
  state : Cell AllocatorState

abbrev AllocM (B : Type) := Exec AllocPanic UsbError (UsbBusAllocator B)

variable {B α : Type}

namespace UsbBusAllocator

def new (bus : B) : UsbBusAllocator B := ⟨.new ⟨bus, []⟩, false, .new ⟨0, 4⟩⟩

def onState (m : Exec AllocPanic UsbError (Cell AllocatorState) α) : AllocM B α :=
  zoom state (fun state a => { a with state := state }) m

def onBusCell (m : Exec AllocPanic UsbError (Cell (Traced B)) α) : AllocM B α :=
  zoom bus (fun bus a => { a with bus := bus }) m

def onBus (m : BusM B α) : AllocM B α :=
  onBusCell (Cell.borrow .alreadyBorrowed (mapPanic .stack m))

/-- `next += 1`, with the number before it -/
def takeNext (next : UInt8) : Exec AllocPanic UsbError AllocatorState (UInt8 × UInt8) :=
  if next = 255 then abort (.stack .overflow) else pure (next, next + 1)

def interface : AllocM B InterfaceNumber :=
  onState (Cell.borrow .alreadyBorrowed do
    let state ← get
    let (number, next) ← takeNext state.nextInterfaceNumber
    set { state with nextInterfaceNumber := next }
    pure ⟨number⟩)

def string : AllocM B StringIndex :=
  onState (Cell.borrow .alreadyBorrowed do
    let state ← get
    let (index, next) ← takeNext state.nextStringIndex
    set { state with nextStringIndex := next }
    pure ⟨index⟩)

variable [UsbBus B]

def alloc (dir : UsbDirection) (addr : Option EndpointAddress) (epType : EndpointType)
    (maxPacketSize : UInt16) (interval : UInt8) : AllocM B Endpoint := do
  let address ← onBus (Traced.allocEp dir addr epType maxPacketSize interval)
  pure ⟨address, epType, maxPacketSize, interval⟩

/-- `.expect("alloc_ep failed")` -/
def expectEndpoint (m : AllocM B Endpoint) : AllocM B Endpoint := do
  match ← attempt m with
  | .ok ep => pure ep
  | .error _ => abort (.stack .expectFailed)

def control (dir : UsbDirection) (maxPacketSize : UInt16) : AllocM B Endpoint :=
  expectEndpoint (alloc dir none .control maxPacketSize 0)

def isochronous (dir : UsbDirection) (synchronization : IsochronousSynchronizationType)
    (usage : IsochronousUsageType) (payloadSize : UInt16) (interval : UInt8) : AllocM B Endpoint :=
  expectEndpoint (alloc dir none (.isochronous synchronization usage) payloadSize interval)

def bulk (dir : UsbDirection) (maxPacketSize : UInt16) : AllocM B Endpoint :=
  expectEndpoint (alloc dir none .bulk maxPacketSize 0)

def interrupt (dir : UsbDirection) (maxPacketSize : UInt16) (interval : UInt8) : AllocM B Endpoint :=
  expectEndpoint (alloc dir none .interrupt maxPacketSize interval)

def freeze : AllocM B (Traced B) := do
  let _ ← onState (Cell.keep .alreadyBorrowed)
  onBus Traced.enable
  let bus ← onBusCell (Cell.keep .alreadyBorrowed)
  modify fun a => { a with busPtr := true }
  pure bus

omit [UsbBus B] in
/-- `Endpoint::bus()` and what is done with it. -/
def throughPointer (m : BusM B α) : AllocM B α := do
  let a ← get
  if a.busPtr = false then abort .notInitialized
  else
    zoom (fun a : UsbBusAllocator B => a.bus.value)
      (fun t (a : UsbBusAllocator B) => { a with bus := ⟨t, a.bus.lent⟩ }) (mapPanic .stack m)

end UsbBusAllocator

variable [UsbBus B]

open UsbBusAllocator in
/-- `UsbDevice::build`, which takes both directions of endpoint 0 from the allocator. -/
def UsbDevice.allocate (config : Config) (controlBuffer : List UInt8) : AllocM B (UsbDevice B) := do
  let maxPacketSize := config.maxPacketSize0.toUInt16
  let controlOut ← expectEndpoint (alloc .out (some ⟨0x00⟩) .control maxPacketSize 0)
  let controlIn ← expectEndpoint (alloc .in_ (some ⟨0x80⟩) .control maxPacketSize 0)
  let bus ← freeze
  pure {
    config := config
    control := ControlPipe.new bus controlBuffer controlOut controlIn
    deviceState := .default
    remoteWakeupEnabled := false
    selfPowered := false
    suspendedDeviceState := none
    pendingAddress := 0 }

/-- `UsbDeviceBuilder::build` -/
def UsbDeviceBuilder.allocate (builder : UsbDeviceBuilder) :
    AllocM B (Except BuilderError (UsbDevice B)) :=
  if builder.controlBuffer.length < builder.config.maxPacketSize0.toNat then
    pure (.error .controlBufferTooSmall)
  else do
    let d ← UsbDevice.allocate builder.config builder.controlBuffer
    pure (.ok d)

/-- The calls on the allocator that are open to code outside the crate. -/
inductive AllocCall where
  | interface
  | string
  | alloc (dir : UsbDirection) (addr : Option EndpointAddress) (epType : EndpointType)
      (maxPacketSize : UInt16) (interval : UInt8)
  | control (dir : UsbDirection) (maxPacketSize : UInt16)
  | isochronous (dir : UsbDirection) (synchronization : IsochronousSynchronizationType)
      (usage : IsochronousUsageType) (payloadSize : UInt16) (interval : UInt8)
  | bulk (dir : UsbDirection) (maxPacketSize : UInt16)
  | interrupt (dir : UsbDirection) (maxPacketSize : UInt16) (interval : UInt8)

namespace AllocCall

def Reply : AllocCall → Type
  | interface => InterfaceNumber
  | string => StringIndex
  | alloc .. => Except UsbError Endpoint
  | control .. | isochronous .. | bulk .. | interrupt .. => Endpoint

def perform : (call : AllocCall) → AllocM B call.Reply
  | interface => UsbBusAllocator.interface
  | string => UsbBusAllocator.string
  | alloc dir addr epType maxPacketSize interval =>
    attempt (UsbBusAllocator.alloc dir addr epType maxPacketSize interval)
  | control dir maxPacketSize => UsbBusAllocator.control dir maxPacketSize
  | isochronous dir synchronization usage payloadSize interval =>
    UsbBusAllocator.isochronous dir synchronization usage payloadSize interval
  | bulk dir maxPacketSize => UsbBusAllocator.bulk dir maxPacketSize
  | interrupt dir maxPacketSize interval => UsbBusAllocator.interrupt dir maxPacketSize interval

/-! The handles in a reply. -/

def interfaces : (call : AllocCall) → call.Reply → List InterfaceNumber
  | interface, number => [number]
  | _, _ => []

def strings : (call : AllocCall) → call.Reply → List StringIndex
  | string, index => [index]
  | _, _ => []

def endpoints : (call : AllocCall) → call.Reply → List Endpoint
  | interface, _ => []
  | string, _ => []
  | alloc .., result => result.toOption.toList
  | control .., ep | isochronous .., ep | bulk .., ep | interrupt .., ep => [ep]

end AllocCall

/-- What the application does with an allocator. The endpoint methods are uses of the bus through the
pointer. -/
inductive AllocInput (B : Type) where
  | call (c : AllocCall)
  | build (builder : UsbDeviceBuilder)
  | useEndpoint (m : BusM B Unit)

inductive AllocReply (B : Type) where
  | handle (c : AllocCall) (reply : c.Reply)
  | built (result : Except BuilderError (UsbDevice B))
  | used

def AllocInput.perform : AllocInput B → AllocM B (AllocReply B)
  | call c => do
    let reply ← c.perform
    pure (.handle c reply)
  | build builder => do
    let result ← builder.allocate
    pure (.built result)
  | useEndpoint m => do
    let _ ← attempt (UsbBusAllocator.throughPointer m)
    pure .used

namespace UsbBusAllocator

variable {a b : UsbBusAllocator B} {pan : Prop}

structure Open (a : UsbBusAllocator B) : Prop where
  bus : a.bus.lent = false
  busPtr : a.busPtr = false
  state : a.state.lent = false

structure Frozen (a : UsbBusAllocator B) : Prop where
  bus : a.bus.lent = true
  busPtr : a.busPtr = true
  state : a.state.lent = true

def frozen (a : UsbBusAllocator B) (t : Traced B) : UsbBusAllocator B :=
  ⟨⟨t, true⟩, true, ⟨a.state.value, true⟩⟩

def driven (a : UsbBusAllocator B) (t : Traced B) : UsbBusAllocator B :=
  { a with bus := ⟨t, a.bus.lent⟩ }

omit [UsbBus B] in
theorem open_new (bus : B) : (new bus).Open := ⟨rfl, rfl, rfl⟩

omit [UsbBus B] in
theorem Open.not_frozen (h : a.Open) : ¬ a.Frozen := fun hFrozen => by
  have hLent := h.bus.symm.trans hFrozen.bus
  cases hLent

omit [UsbBus B] in
theorem Open.of_busLent (h : a.Open) (hLent : a.bus.lent = true) : pan := by
  rw [h.bus] at hLent
  cases hLent

omit [UsbBus B] in
theorem Open.of_stateLent (h : a.Open) (hLent : a.state.lent = true) : pan := by
  rw [h.state] at hLent
  cases hLent

omit [UsbBus B] in
theorem Open.driven (h : a.Open) (t : Traced B) : (a.driven t).Open := ⟨h.bus, h.busPtr, h.state⟩

omit [UsbBus B] in
theorem Frozen.driven (h : a.Frozen) (t : Traced B) : (a.driven t).Frozen := ⟨h.bus, h.busPtr, h.state⟩

omit [UsbBus B] in
theorem frozen_frozen (a : UsbBusAllocator B) (t : Traced B) : (a.frozen t).Frozen := ⟨rfl, rfl, rfl⟩

omit [UsbBus B] in
theorem post_onBus {m : BusM B α} {Q : Except UsbError α → UsbBusAllocator B → Prop}
    (hLent : a.bus.lent = true → pan)
    (hFree : a.bus.lent = false → Post pan m (fun r t => Q r (a.driven t)) a.bus.value) :
    Post pan (onBus m) Q a := by
  rw [onBus, onBusCell, post_zoom]
  refine Cell.post_borrow hLent fun hBus => ?_
  have hDriven := hFree hBus
  unfold UsbBusAllocator.driven at hDriven
  rw [post_mapPanic]
  rwa [hBus] at hDriven

omit [UsbBus B] in
theorem post_interface {Q : Except UsbError InterfaceNumber → UsbBusAllocator B → Prop}
    (hLent : a.state.lent = true → pan) (hFull : a.state.value.nextInterfaceNumber = 255 → pan)
    (hNext : a.state.lent = false → a.state.value.nextInterfaceNumber ≠ 255 →
      Q (.ok ⟨a.state.value.nextInterfaceNumber⟩) { a with
        state := ⟨{ a.state.value with
          nextInterfaceNumber := a.state.value.nextInterfaceNumber + 1 }, false⟩ }) :
    Post pan (interface : AllocM B InterfaceNumber) Q a := by
  rw [interface, onState, post_zoom]
  refine Cell.post_borrow hLent fun hFree => ?_
  rw [post_bind, post_get]
  dsimp only
  rw [takeNext]
  split
  · exact hFull ‹_›
  · exact hNext hFree ‹_›

omit [UsbBus B] in
theorem post_string {Q : Except UsbError StringIndex → UsbBusAllocator B → Prop}
    (hLent : a.state.lent = true → pan) (hFull : a.state.value.nextStringIndex = 255 → pan)
    (hNext : a.state.lent = false → a.state.value.nextStringIndex ≠ 255 →
      Q (.ok ⟨a.state.value.nextStringIndex⟩) { a with
        state := ⟨{ a.state.value with
          nextStringIndex := a.state.value.nextStringIndex + 1 }, false⟩ }) :
    Post pan (string : AllocM B StringIndex) Q a := by
  rw [string, onState, post_zoom]
  refine Cell.post_borrow hLent fun hFree => ?_
  rw [post_bind, post_get]
  dsimp only
  rw [takeNext]
  split
  · exact hFull ‹_›
  · exact hNext hFree ‹_›

section Alloc

structure Wanted where
  dir : UsbDirection
  addr : Option EndpointAddress
  epType : EndpointType
  maxPacketSize : UInt16
  interval : UInt8

def given (a : UsbBusAllocator B) (w : Wanted) : Except UsbError EndpointAddress :=
  (UsbBus.allocEp a.bus.value.bus w.dir w.addr w.epType w.maxPacketSize w.interval).1

def asked (a : UsbBusAllocator B) (w : Wanted) : UsbBusAllocator B :=
  a.driven ⟨(UsbBus.allocEp a.bus.value.bus w.dir w.addr w.epType w.maxPacketSize w.interval).2,
    a.bus.value.trace⟩

def Wanted.endpoint (w : Wanted) (address : EndpointAddress) : Endpoint :=
  ⟨address, w.epType, w.maxPacketSize, w.interval⟩

def Wanted.alloc (w : Wanted) : AllocM B Endpoint :=
  UsbBusAllocator.alloc w.dir w.addr w.epType w.maxPacketSize w.interval

variable {w : Wanted} {Q : Except UsbError Endpoint → UsbBusAllocator B → Prop}

theorem post_alloc (hLent : a.bus.lent = true → pan)
    (hAsked : a.bus.lent = false → Q ((a.given w).map w.endpoint) (a.asked w)) :
    Post pan w.alloc Q a := by
  rw [Wanted.alloc, alloc, post_bind]
  refine post_onBus hLent fun hFree => ?_
  have hDone := hAsked hFree
  unfold asked given at hDone
  rw [Post, Traced.allocEp]
  dsimp only
  cases hResult : (UsbBus.allocEp a.bus.value.bus w.dir w.addr w.epType w.maxPacketSize w.interval).1 <;>
    rw [hResult] at hDone <;> exact hDone

theorem post_expectEndpoint (hLent : a.bus.lent = true → pan) (hRefused : ∀ e, a.given w = .error e → pan)
    (hGiven : a.bus.lent = false → ∀ address, a.given w = .ok address →
      Q (.ok (w.endpoint address)) (a.asked w)) : Post pan (expectEndpoint w.alloc) Q a := by
  rw [expectEndpoint, post_bind, post_attempt]
  refine post_alloc hLent fun hFree => ?_
  cases hResult : a.given w with
  | ok address => exact hGiven hFree address hResult
  | error e => exact hRefused e hResult

theorem alloc_of_frozen (h : a.Frozen) (w : Wanted) : w.alloc a = .panic .alreadyBorrowed := by
  refine bind_of_panic ?_
  rw [onBus, onBusCell, zoom_apply, Cell.borrow_of_lent h.bus]

theorem expectEndpoint_of_frozen (h : a.Frozen) (w : Wanted) :
    expectEndpoint w.alloc a = .panic .alreadyBorrowed :=
  bind_of_panic (attempt_of_panic (alloc_of_frozen h w))

end Alloc

theorem post_freeze {Q : Except UsbError (Traced B) → UsbBusAllocator B → Prop} (h : a.Open)
    (hFrozen : ∀ t : Traced B, t = ⟨UsbBus.enable a.bus.value.bus, a.bus.value.trace ++ [.enable]⟩ →
      Q (.ok t) (a.frozen t)) : Post pan (freeze : AllocM B (Traced B)) Q a := by
  rw [freeze, post_bind, onState, post_zoom]
  refine Cell.post_keep h.of_stateLent fun _ => ?_
  dsimp only
  rw [post_bind]
  refine post_onBus h.of_busLent fun _ => ?_
  rw [Post, Traced.enable, Traced.command]
  dsimp only
  rw [post_bind, onBusCell, post_zoom]
  exact Cell.post_keep h.of_busLent fun _ => hFrozen _ rfl

end UsbBusAllocator

namespace AllocReply

def interfaces : AllocReply B → List InterfaceNumber
  | handle c reply => c.interfaces reply
  | _ => []

def strings : AllocReply B → List StringIndex
  | handle c reply => c.strings reply
  | _ => []

def endpoints : AllocReply B → List Endpoint
  | handle c reply => c.endpoints reply
  | built (.ok d) => [d.control.epOut, d.control.epIn]
  | _ => []

end AllocReply

namespace AllocInput

open UsbBusAllocator

variable {a b : UsbBusAllocator B} {pan : Prop}

def wantedControl (dir : UsbDirection) (config : Config) : Wanted :=
  ⟨dir, some ⟨dir.toU8⟩, .control, config.maxPacketSize0.toUInt16, 0⟩

def start (config : Config) (controlBuffer : List UInt8) (t : Traced B) (out in_ : EndpointAddress) :
    UsbDevice B where
  config := config
  control := .new t controlBuffer ((wantedControl .out config).endpoint out)
    ((wantedControl .in_ config).endpoint in_)
  deviceState := .default
  remoteWakeupEnabled := false
  selfPowered := false
  suspendedDeviceState := none
  pendingAddress := 0

def counted (a : UsbBusAllocator B) (state : AllocatorState) : UsbBusAllocator B :=
  { a with state := ⟨state, false⟩ }

/-- From an open allocator, the reply and the allocator afterwards. -/
inductive Step (a : UsbBusAllocator B) : AllocReply B → UsbBusAllocator B → Prop
  | interface (hRoom : a.state.value.nextInterfaceNumber ≠ 255) :
      Step a (.handle .interface ⟨a.state.value.nextInterfaceNumber⟩) (counted a { a.state.value with
        nextInterfaceNumber := a.state.value.nextInterfaceNumber + 1 })
  | string (hRoom : a.state.value.nextStringIndex ≠ 255) :
      Step a (.handle .string ⟨a.state.value.nextStringIndex⟩) (counted a { a.state.value with
        nextStringIndex := a.state.value.nextStringIndex + 1 })
  | endpoint {c : AllocCall} {reply : c.Reply} (w : Wanted)
      (hInterfaces : c.interfaces reply = []) (hStrings : c.strings reply = [])
      (hEndpoints : c.endpoints reply = ((a.given w).map w.endpoint).toOption.toList) :
      Step a (.handle c reply) (a.asked w)
  | refused (e : BuilderError) : Step a (.built (.error e)) a
  | built (builder : UsbDeviceBuilder) {out in_ : EndpointAddress} {t : Traced B}
      (hOut : a.given (wantedControl .out builder.config) = .ok out)
      (hIn : (a.asked (wantedControl .out builder.config)).given
        (wantedControl .in_ builder.config) = .ok in_) :
      Step a (.built (.ok (start builder.config builder.controlBuffer t out in_)))
        (((a.asked (wantedControl .out builder.config)).asked
          (wantedControl .in_ builder.config)).frozen t)

/-- A call on an open allocator is a step, and leaves it open. -/
theorem post_perform_call (h : a.Open) (c : AllocCall) :
    Post True c.perform (fun r t => ∃ reply, r = .ok reply ∧ t.Open ∧ Step a (.handle c reply) t) a := by
  have hEndpoint (w : Wanted) : Post True (expectEndpoint w.alloc)
      (fun r t => ∃ address, r = .ok (w.endpoint address) ∧ a.given w = .ok address ∧
        t = a.asked w) a :=
    post_expectEndpoint (fun _ => trivial) (fun _ _ => trivial) fun _ address hGiven =>
      ⟨address, rfl, hGiven, rfl⟩
  cases c with
  | interface =>
    exact post_interface (fun _ => trivial) (fun _ => trivial) fun _ hRoom =>
      ⟨_, rfl, ⟨h.bus, h.busPtr, rfl⟩, .interface hRoom⟩
  | string =>
    exact post_string (fun _ => trivial) (fun _ => trivial) fun _ hRoom =>
      ⟨_, rfl, ⟨h.bus, h.busPtr, rfl⟩, .string hRoom⟩
  | alloc dir addr epType maxPacketSize interval =>
    let w : Wanted := ⟨dir, addr, epType, maxPacketSize, interval⟩
    refine (post_attempt w.alloc _).mpr (post_alloc (fun _ => trivial) fun _ => ?_)
    exact ⟨(a.given w).map w.endpoint, rfl, h.driven _, .endpoint w rfl rfl rfl⟩
  | control dir maxPacketSize =>
    apply (hEndpoint ⟨dir, none, .control, maxPacketSize, 0⟩).mono
    rintro _ _ ⟨address, rfl, hGiven, rfl⟩
    exact ⟨_, rfl, h.driven _, .endpoint _ rfl rfl (by rw [hGiven]; rfl)⟩
  | isochronous dir synchronization usage payloadSize interval =>
    apply (hEndpoint ⟨dir, none, .isochronous synchronization usage, payloadSize, interval⟩).mono
    rintro _ _ ⟨address, rfl, hGiven, rfl⟩
    exact ⟨_, rfl, h.driven _, .endpoint _ rfl rfl (by rw [hGiven]; rfl)⟩
  | bulk dir maxPacketSize =>
    apply (hEndpoint ⟨dir, none, .bulk, maxPacketSize, 0⟩).mono
    rintro _ _ ⟨address, rfl, hGiven, rfl⟩
    exact ⟨_, rfl, h.driven _, .endpoint _ rfl rfl (by rw [hGiven]; rfl)⟩
  | interrupt dir maxPacketSize interval =>
    apply (hEndpoint ⟨dir, none, .interrupt, maxPacketSize, interval⟩).mono
    rintro _ _ ⟨address, rfl, hGiven, rfl⟩
    exact ⟨_, rfl, h.driven _, .endpoint _ rfl rfl (by rw [hGiven]; rfl)⟩

/-- Both directions of endpoint 0, one after the other, and then the allocator is frozen. -/
theorem post_allocate (h : a.Open) (config : Config) (controlBuffer : List UInt8)
    {Q : Except UsbError (UsbDevice B) → UsbBusAllocator B → Prop}
    (hRefused : ∀ e, a.given (wantedControl .out config) = .error e → pan)
    (hRefused' : ∀ e, (a.asked (wantedControl .out config)).given (wantedControl .in_ config) =
      .error e → pan)
    (hBuilt : ∀ out in_ t, a.given (wantedControl .out config) = .ok out →
      (a.asked (wantedControl .out config)).given (wantedControl .in_ config) = .ok in_ →
      t = ⟨UsbBus.enable ((a.asked (wantedControl .out config)).asked
        (wantedControl .in_ config)).bus.value.bus, a.bus.value.trace ++ [.enable]⟩ →
      Q (.ok (start config controlBuffer t out in_))
        (((a.asked (wantedControl .out config)).asked (wantedControl .in_ config)).frozen t)) :
    Post pan (UsbDevice.allocate config controlBuffer) Q a := by
  have hOutOpen : (a.asked (wantedControl .out config)).Open := h.driven _
  rw [UsbDevice.allocate, post_bind]
  refine post_expectEndpoint (w := wantedControl .out config) h.of_busLent hRefused
    fun _ out hOut => ?_
  dsimp only
  rw [post_bind]
  refine post_expectEndpoint (w := wantedControl .in_ config) hOutOpen.of_busLent hRefused'
    fun _ in_ hIn => ?_
  dsimp only
  rw [post_bind]
  exact post_freeze (hOutOpen.driven _) fun t ht => hBuilt out in_ t hOut hIn ht

/-- Whatever the application does to an open allocator is a step. -/
theorem post_perform_open (h : a.Open) (input : AllocInput B) :
    Post True input.perform
      (fun r t => ∃ reply, r = .ok reply ∧ (t.Open ∨ t.Frozen) ∧ Step a reply t) a := by
  cases input with
  | call c =>
    rw [perform, post_bind]
    apply (post_perform_call h c).mono
    rintro _ t ⟨reply, rfl, hOpen, hStep⟩
    exact ⟨_, rfl, .inl hOpen, hStep⟩
  | build builder =>
    rw [perform, post_bind, UsbDeviceBuilder.allocate]
    split
    · exact ⟨_, rfl, .inl h, .refused _⟩
    · rw [post_bind]
      refine post_allocate h _ _ (fun _ _ => trivial) (fun _ _ => trivial) fun out in_ t hOut hIn _ => ?_
      exact ⟨_, rfl, .inr (frozen_frozen _ _), .built builder hOut hIn⟩
  | useEndpoint m =>
    have hPanic : throughPointer m a = .panic .notInitialized := by
      rw [throughPointer, bind_apply, get_apply]
      dsimp only
      rw [if_pos h.busPtr]
      rfl
    rw [perform, post_bind, post_attempt, Post, hPanic]
    trivial

theorem call_of_frozen (h : a.Frozen) (c : AllocCall) : c.perform a = .panic .alreadyBorrowed := by
  have hState {γ : Type} (m : Exec AllocPanic UsbError AllocatorState γ) :
      (onState (Cell.borrow .alreadyBorrowed m) : AllocM B γ) a = .panic .alreadyBorrowed := by
    rw [onState, zoom_apply, Cell.borrow_of_lent h.state]
  cases c with
  | interface => exact hState _
  | string => exact hState _
  | alloc dir addr epType maxPacketSize interval =>
    exact attempt_of_panic (alloc_of_frozen h ⟨dir, addr, epType, maxPacketSize, interval⟩)
  | control dir maxPacketSize =>
    exact expectEndpoint_of_frozen h ⟨dir, none, .control, maxPacketSize, 0⟩
  | isochronous dir synchronization usage payloadSize interval =>
    exact expectEndpoint_of_frozen h
      ⟨dir, none, .isochronous synchronization usage, payloadSize, interval⟩
  | bulk dir maxPacketSize => exact expectEndpoint_of_frozen h ⟨dir, none, .bulk, maxPacketSize, 0⟩
  | interrupt dir maxPacketSize interval =>
    exact expectEndpoint_of_frozen h ⟨dir, none, .interrupt, maxPacketSize, interval⟩

/-- A frozen allocator gives out nothing. -/
theorem post_perform_frozen (h : a.Frozen) (input : AllocInput B) :
    Post True input.perform (fun r t => t.Frozen ∧
      (r = .ok .used ∨ ∃ e, r = .ok (.built (.error e)))) a := by
  cases input with
  | call c =>
    rw [perform, post_bind, Post, call_of_frozen h]
    trivial
  | build builder =>
    rw [perform, post_bind, UsbDeviceBuilder.allocate]
    split
    · exact ⟨h, .inr ⟨_, rfl⟩⟩
    · have hPanic : UsbDevice.allocate builder.config builder.controlBuffer a =
          .panic .alreadyBorrowed :=
        bind_of_panic (expectEndpoint_of_frozen h (wantedControl .out builder.config))
      rw [post_bind, Post, hPanic]
      trivial
  | useEndpoint m =>
    rw [perform, post_bind, post_attempt, throughPointer, post_bind, post_get]
    dsimp only
    rw [if_neg (by rw [h.busPtr]; decide), post_zoom, post_mapPanic, post_true_iff]
    exact fun r t _ => ⟨h.driven t, .inl rfl⟩

/-- What the calls return, up to one that panics. -/
def replies (inputs : List (AllocInput B)) (a : UsbBusAllocator B) : List (AllocReply B) :=
  (results perform inputs a).filterMap Except.toOption

/-- What every step keeps and what holds of the replies of a frozen allocator holds of a run. -/
theorem relates_replies {J : UsbBusAllocator B → List (AllocReply B) → Prop}
    (hNil : ∀ a, a.Open → J a [])
    (hStep : ∀ a reply t rest, a.Open → Step a reply t → J t rest → J a (reply :: rest))
    (hFrozen : ∀ a replies, a.Frozen →
      (∀ reply ∈ replies, reply = .used ∨ ∃ e, reply = .built (.error e)) → J a replies)
    (inputs : List (AllocInput B)) (h : a.Open) : J a (replies inputs a) := by
  have hRun : (a.Open → J a (replies inputs a)) ∧ (a.Frozen → ∀ reply ∈ replies inputs a,
      reply = .used ∨ ∃ e, reply = .built (.error e)) := by
    refine relates_results perform (I := fun a => a.Open ∨ a.Frozen) (J := fun a rs =>
      (a.Open → J a (rs.filterMap Except.toOption)) ∧ (a.Frozen →
        ∀ reply ∈ rs.filterMap Except.toOption, reply = .used ∨ ∃ e, reply = .built (.error e)))
      (fun a _ => ⟨hNil a, fun _ => by simp⟩) (fun input a ha => ?_) inputs (.inl h)
    rcases ha with hOpen | hAll
    · apply (post_perform_open hOpen input).mono
      rintro _ t ⟨reply, rfl, ht, hTaken⟩
      refine ⟨ht, fun rs hRest => ⟨fun _ => ?_, fun hNot => absurd hNot hOpen.not_frozen⟩⟩
      refine hStep a reply t _ hOpen hTaken ?_
      rcases ht with ht | ht
      · exact hRest.1 ht
      · exact hFrozen t _ ht (hRest.2 ht)
    · apply (post_perform_frozen hAll input).mono
      rintro r t ⟨ht, hReply⟩
      refine ⟨.inr ht, fun rs hRest => ⟨fun hNot => absurd hAll hNot.not_frozen, fun _ => ?_⟩⟩
      rcases hReply with rfl | ⟨e, rfl⟩
      · rintro reply (_ | ⟨_, hMem⟩)
        · exact .inl rfl
        · exact hRest.2 ht reply hMem
      · rintro reply (_ | ⟨_, hMem⟩)
        · exact .inr ⟨e, rfl⟩
        · exact hRest.2 ht reply hMem
  exact hRun.1 h

/-- A counter that a step leaves alone, or gives out and moves on. -/
theorem counted_replies (next : AllocatorState → UInt8) {numbers : AllocReply B → List UInt8}
    (hStep : ∀ (a : UsbBusAllocator B) reply t, Step a reply t →
      (numbers reply = [] ∧ next t.state.value = next a.state.value) ∨
        (next a.state.value ≠ 255 ∧ numbers reply = [next a.state.value] ∧
          next t.state.value = next a.state.value + 1))
    (hUsed : numbers .used = []) (hRefused : ∀ e, numbers (.built (.error e)) = [])
    (inputs : List (AllocInput B)) (h : a.Open) :
    ∃ count, (next a.state.value).toNat + count ≤ 255 ∧
      ((replies inputs a).flatMap numbers).map UInt8.toNat =
        List.range' (next a.state.value).toNat count := by
  have hByte (n : UInt8) : n.toNat + 0 ≤ 255 := Nat.le_of_lt_succ n.toNat_lt
  refine relates_replies (J := fun a replies => ∃ count,
    (next a.state.value).toNat + count ≤ 255 ∧ (replies.flatMap numbers).map UInt8.toNat =
      List.range' (next a.state.value).toNat count) (fun a _ => ⟨0, hByte _, rfl⟩) ?_ ?_ inputs h
  · rintro a reply t rest - hTaken ⟨count, hCount, hRest⟩
    rcases hStep a reply t hTaken with ⟨hNone, hSame⟩ | ⟨hRoom, hOne, hNext⟩
    · rw [hSame] at hCount hRest
      refine ⟨count, hCount, ?_⟩
      rw [List.flatMap_cons, hNone, List.nil_append, hRest]
    · have hSucc : (next t.state.value).toNat = (next a.state.value).toNat + 1 := by
        have hLt := (next a.state.value).toNat_lt
        have hNe : (next a.state.value).toNat ≠ 255 := fun hEq => hRoom (UInt8.toNat_inj.mp hEq)
        rw [hNext, UInt8.toNat_add, UInt8.toNat_one]
        omega
      rw [hSucc] at hCount hRest
      refine ⟨count + 1, by omega, ?_⟩
      rw [List.flatMap_cons, hOne, List.map_append, hRest, List.range'_succ]
      rfl
  · intro a replies _ hQuiet
    refine ⟨0, hByte _, ?_⟩
    have hNone : replies.flatMap numbers = [] := by
      refine List.flatMap_eq_nil_iff.mpr fun reply hMem => ?_
      rcases hQuiet reply hMem with rfl | ⟨e, rfl⟩
      · exact hUsed
      · exact hRefused e
    rw [hNone]
    rfl

theorem interfaces_counted (inputs : List (AllocInput B)) (h : a.Open) :
    ∃ count, a.state.value.nextInterfaceNumber.toNat + count ≤ 255 ∧
      ((replies inputs a).flatMap AllocReply.interfaces).map (·.value.toNat) =
        List.range' a.state.value.nextInterfaceNumber.toNat count := by
  have hStep (a : UsbBusAllocator B) (reply : AllocReply B) (t : UsbBusAllocator B)
      (hTaken : Step a reply t) : (reply.interfaces.map InterfaceNumber.value = [] ∧
        t.state.value.nextInterfaceNumber = a.state.value.nextInterfaceNumber) ∨
      (a.state.value.nextInterfaceNumber ≠ 255 ∧
        reply.interfaces.map InterfaceNumber.value = [a.state.value.nextInterfaceNumber] ∧
        t.state.value.nextInterfaceNumber = a.state.value.nextInterfaceNumber + 1) := by
    cases hTaken with
    | interface hRoom => exact .inr ⟨hRoom, rfl, rfl⟩
    | endpoint w hInterfaces _ _ => exact .inl ⟨by rw [AllocReply.interfaces, hInterfaces]; rfl, rfl⟩
    | _ => exact .inl ⟨rfl, rfl⟩
  obtain ⟨count, hCount, hNumbers⟩ :=
    counted_replies AllocatorState.nextInterfaceNumber hStep rfl (fun _ => rfl) inputs h
  refine ⟨count, hCount, ?_⟩
  rw [← hNumbers, List.map_flatMap, List.map_flatMap]
  simp only [List.map_map, Function.comp_def]

theorem strings_counted (inputs : List (AllocInput B)) (h : a.Open) :
    ∃ count, a.state.value.nextStringIndex.toNat + count ≤ 255 ∧
      ((replies inputs a).flatMap AllocReply.strings).map (·.value.toNat) =
        List.range' a.state.value.nextStringIndex.toNat count := by
  have hStep (a : UsbBusAllocator B) (reply : AllocReply B) (t : UsbBusAllocator B)
      (hTaken : Step a reply t) : (reply.strings.map StringIndex.value = [] ∧
        t.state.value.nextStringIndex = a.state.value.nextStringIndex) ∨
      (a.state.value.nextStringIndex ≠ 255 ∧
        reply.strings.map StringIndex.value = [a.state.value.nextStringIndex] ∧
        t.state.value.nextStringIndex = a.state.value.nextStringIndex + 1) := by
    cases hTaken with
    | string hRoom => exact .inr ⟨hRoom, rfl, rfl⟩
    | endpoint w _ hStrings _ => exact .inl ⟨by rw [AllocReply.strings, hStrings]; rfl, rfl⟩
    | _ => exact .inl ⟨rfl, rfl⟩
  obtain ⟨count, hCount, hNumbers⟩ :=
    counted_replies AllocatorState.nextStringIndex hStep rfl (fun _ => rfl) inputs h
  refine ⟨count, hCount, ?_⟩
  rw [← hNumbers, List.map_flatMap, List.map_flatMap]
  simp only [List.map_map, Function.comp_def]

def Allocating : AllocReply B → Prop
  | .handle _ _ => True
  | .built (.error _) => True
  | _ => False

/-- First handles are given out, then at most one device is built, and then endpoints are used. -/
def Phased (replies : List (AllocReply B)) : Prop :=
  ∃ before after, replies = before ++ after ∧ (∀ reply ∈ before, Allocating reply) ∧
    (after = [] ∨ ∃ d rest, after = .built (.ok d) :: rest ∧
      ∀ reply ∈ rest, reply = .used ∨ ∃ e, reply = .built (.error e))

/-- The phases of a run follow from those of its steps. -/
theorem phased_replies (inputs : List (AllocInput B)) (h : a.Open) : Phased (replies inputs a) := by
  have hMore {replies : List (AllocReply B)} (reply : AllocReply B) (hFirst : Allocating reply)
      (hRest : Phased replies) : Phased (reply :: replies) := by
    obtain ⟨before, after, rfl, hBefore, hAfter⟩ := hRest
    refine ⟨reply :: before, after, rfl, ?_, hAfter⟩
    rintro _ (_ | ⟨_, hMem⟩)
    · exact hFirst
    · exact hBefore _ hMem
  refine relates_replies (J := fun a replies => (a.Open → Phased replies) ∧ (a.Frozen →
    ∀ reply ∈ replies, reply = .used ∨ ∃ e, reply = .built (.error e)))
    (fun a ha => ⟨fun _ => ⟨[], [], rfl, by simp, .inl rfl⟩, fun _ => by simp⟩) ?_
    (fun a replies ha hQuiet => ⟨fun hNot => absurd ha hNot.not_frozen, fun _ => hQuiet⟩) inputs h |>.1 h
  intro a reply t rest ha hTaken hRest
  refine ⟨fun _ => ?_, fun hNot => absurd hNot ha.not_frozen⟩
  cases hTaken with
  | interface hRoom => exact hMore _ trivial (hRest.1 ⟨ha.bus, ha.busPtr, rfl⟩)
  | string hRoom => exact hMore _ trivial (hRest.1 ⟨ha.bus, ha.busPtr, rfl⟩)
  | endpoint w _ _ _ => exact hMore _ trivial (hRest.1 (ha.driven _))
  | refused e => exact hMore _ trivial (hRest.1 ha)
  | built builder hOut hIn =>
    exact ⟨[], _, rfl, by simp, .inr ⟨_, rest, rfl, hRest.2 (frozen_frozen _ _)⟩⟩

/-- An allocator gives out interface numbers from 0 and string indices from 4 on, in order and none
of them twice, and it gives out nothing after the device is built, nor is an endpoint used before. -/
theorem handles_in_order (bus : B) (inputs : List (AllocInput B)) :
    (∃ count ≤ 255, ((replies inputs (new bus)).flatMap AllocReply.interfaces).map (·.value.toNat) =
      List.range count) ∧
    (∃ count ≤ 251, ((replies inputs (new bus)).flatMap AllocReply.strings).map (·.value.toNat) =
      List.range' 4 count) ∧
    Phased (replies inputs (new bus)) := by
  obtain ⟨interfaces, hInterfaces, hNumbers⟩ := interfaces_counted inputs (open_new bus)
  obtain ⟨strings, hStrings, hIndices⟩ := strings_counted inputs (open_new bus)
  have hFirst : (new bus).state.value.nextStringIndex.toNat = 4 := rfl
  rw [hFirst] at hStrings hIndices
  refine ⟨⟨interfaces, ?_, hNumbers.trans List.range_eq_range'.symm⟩,
    ⟨strings, by omega, hIndices⟩, phased_replies inputs (open_new bus)⟩
  exact Nat.le_trans (Nat.le_add_left _ _) hInterfaces

end AllocInput

end UsbStack
