import UsbStack.Addressing
import UsbStack.OneAnswer
import UsbStack.StallFlags

/-! # The acts of a run

A run is boiled down to the acts of the host and of the application that the status of the device
depends on. Outside the handling of requests the device keeps to what the acts amount to.
-/

namespace UsbStack

set_option autoImplicit false

open Foundation Exec

/-- `halt` is a call of `stall` or `unstall` on the handle of an endpoint, `address` the moment in
which an address takes effect. -/
inductive Act where
  | selfPowered (isSelfPowered : Bool)
  | reset
  | address
  | halt (addr : EndpointAddress) (stalled : Bool)
  | accepted (req : Request)
  deriving DecidableEq

namespace Request

def feature? (req : Request) (recipient : Recipient) (feature : UInt16) : Option Bool :=
  if req.requestType = .standard ∧ req.recipient = recipient ∧ req.value = feature then
    if req.request = setFeature then some true
    else if req.request = clearFeature then some false
    else none
  else none

def configuration? (req : Request) : Option UInt16 :=
  if req.requestType = .standard ∧ req.recipient = .device ∧ req.request = setConfiguration then
    some req.value
  else none

end Request

/-! What the acts so far amount to. -/

def poweredBy (acts : List Act) : Bool :=
  acts.foldl (fun now act =>
    match act with
    | .selfPowered isSelfPowered => isSelfPowered
    | _ => now) false

def wakeup (acts : List Act) : Bool :=
  acts.foldl (fun now act =>
    match act with
    | .reset => false
    | .accepted req => (req.feature? .device Request.featureDeviceRemoteWakeup).getD now
    | _ => now) false

def halted (addr : EndpointAddress) (acts : List Act) : Bool :=
  acts.foldl (fun now act =>
    match act with
    | .reset => false
    | .halt addr' stalled => if addr' = addr then stalled else now
    | .accepted req =>
      if req.endpointAddress = addr then
        (req.feature? .endpoint Request.featureEndpointHalt).getD now
      else now
    | _ => now) false

def configured (acts : List Act) : Bool :=
  acts.foldl (fun now act =>
    match act with
    | .reset => false
    | .address => false
    | .accepted req => (req.configuration?.map fun value => decide (value = 1)).getD now
    | _ => now) false

/-- The act that a call on the bus stands for where only classes use their endpoints. -/
def Event.act? : Event → Option Act
  | .reset => some .reset
  | .setDeviceAddress _ => some .address
  | .setStalled addr stalled => if addr.index = 0 then none else some (.halt addr stalled)
  | _ => none

variable {B C : Type}

/-- The acts in what `t` has recorded since `s`. -/
def actsBetween (s t : Session B C) : List Act :=
  (t.device.control.bus.trace.drop s.device.control.bus.trace.length).filterMap Event.act?

def Act.isHalt : Act → Bool
  | .halt _ _ => true
  | _ => false

/-- After the classes have been offered the request it is the device itself that stalls and unstalls
endpoints, except that a request for an interface is put before the classes once more. -/
def Act.counts (req : Request) (act : Act) : Bool := req.recipient = .interface ∨ ¬ act.isHalt

def dispatchActs (req : Request) (u v : Session B C) : List Act :=
  (actsBetween u v).filter (Act.counts req) ++
    if v.device.control.state = .statusIn then [.accepted req] else []

variable [UsbBus B] [UsbClass C]

/-- The request that a poll hands out, with the session after it was offered to the classes and the
session after it was dispatched. -/
def dispatched (s : Session B C) : Option (Request × Session B C × Session B C) :=
  match s.device.event? with
  | some (.data epOut epIn epSetup, d) =>
    if (epOut ||| epIn ||| epSetup) &&& 1 = 0 then none
    else match Session.receive epOut epSetup d.control with
      | .done (.ok (some req)) p =>
        match (Session.firstClass (offer (callControl req))
            { s with device := d.withPipe p }).state?,
          (Session.dispatch req { s with device := d.withPipe p }).state? with
        | some u, some v => some (req, u, v)
        | _, _ => none
      | _ => none
  | _ => none

theorem dispatched_eq {s u v : Session B C} {d : UsbDevice B} {p : ControlPipe B} {req : Request}
    {epOut epIn epSetup : UInt16} {r : Except UsbError (Option Unit)} {r' : Except UsbError Unit}
    (hEvent : s.device.event? = some (.data epOut epIn epSetup, d))
    (hBit : (epOut ||| epIn ||| epSetup) &&& 1 ≠ 0)
    (hReceive : Session.receive epOut epSetup d.control = .done (.ok (some req)) p)
    (hFirst : Session.firstClass (offer (callControl req)) { s with device := d.withPipe p } = .done r u)
    (hDispatch : Session.dispatch req { s with device := d.withPipe p } = .done r' v) :
    dispatched s = some (req, u, v) := by
  rw [dispatched, hEvent]
  dsimp only
  rw [if_neg hBit, hReceive]
  dsimp only
  rw [hFirst, hDispatch]
  rfl

theorem dispatched_of_nothing {s : Session B C} {d : UsbDevice B} {p : ControlPipe B}
    {epOut epIn epSetup : UInt16} (hEvent : s.device.event? = some (.data epOut epIn epSetup, d))
    (hReceive : Session.receive epOut epSetup d.control = .done (.ok none) p) :
    dispatched s = none := by
  rw [dispatched, hEvent]
  dsimp only
  rw [hReceive]
  exact ite_self _

def pollActs (s t : Session B C) : List Act :=
  match dispatched s with
  | some (req, u, v) => actsBetween s u ++ dispatchActs req u v ++ actsBetween v t
  | none => actsBetween s t

def DeviceInput.acts (s t : Session B C) : DeviceInput B C → List Act
  | poll => pollActs s t
  | setSelfPowered isSelfPowered => [.selfPowered isSelfPowered]
  | _ => actsBetween s t

def history : List (DeviceInput B C) → Session B C → List Act
  | [], _ => []
  | input :: rest, s =>
    match input.perform s with
    | .done _ t => input.acts s t ++ history rest t
    | .panic _ => []

/-- The state of the device, as if it were not suspended. -/
def UsbDevice.underlying (d : UsbDevice B) : UsbDeviceState :=
  d.suspendedDeviceState.getD d.deviceState

structure UsbDevice.Tracks (acts : List Act) (d : UsbDevice B) : Prop where
  wakeup : d.remoteWakeupEnabled = wakeup acts
  halted : ∀ addr, addr.index ≠ 0 → stalled addr d.control.bus.trace = halted addr acts
  configured : (decide (d.underlying = .configured)) = configured acts
  remembered : d.deviceState ≠ .suspend → d.suspendedDeviceState = none

section Folds

variable {addr : EndpointAddress} {trace events : List Event} {acts more : List Act}

theorem foldl_of_halts {α : Type} {f : α → Act → α} (hf : ∀ now addr b, f now (.halt addr b) = now)
    (hMore : ∀ act ∈ more, act.isHalt = true) (now : α) : more.foldl f now = now := by
  induction more generalizing now with
  | nil => rfl
  | cons act rest ih =>
    have hHalt := hMore act List.mem_cons_self
    cases act with
    | halt addr b =>
      rw [List.foldl_cons, hf]
      exact ih (fun act hAct => hMore act (List.mem_cons_of_mem _ hAct)) now
    | _ => cases hHalt

theorem isHalt_of_act? {event : Event} {act : Act} (hEvent : KeepsAddress event)
    (h : event.act? = some act) : act.isHalt = true := by
  cases event with
  | setStalled addr b =>
    rw [Event.act?] at h
    split at h
    · cases h
    · cases h
      rfl
  | reset => exact hEvent.elim
  | setDeviceAddress addr => exact hEvent.elim
  | _ => cases h

theorem isHalt_of_mem (hEvents : ∀ event ∈ events, KeepsAddress event) :
    ∀ act ∈ events.filterMap Event.act?, act.isHalt = true := by
  intro act hAct
  obtain ⟨event, hEvent, hSome⟩ := List.mem_filterMap.mp hAct
  exact isHalt_of_act? (hEvents event hEvent) hSome

theorem wakeup_append_halts (hMore : ∀ act ∈ more, act.isHalt = true) :
    wakeup (acts ++ more) = wakeup acts := by
  rw [wakeup, List.foldl_append]
  exact foldl_of_halts (fun _ _ _ => rfl) hMore _

theorem configured_append_halts (hMore : ∀ act ∈ more, act.isHalt = true) :
    configured (acts ++ more) = configured acts := by
  rw [configured, List.foldl_append]
  exact foldl_of_halts (fun _ _ _ => rfl) hMore _

theorem halted_append_events (hAddr : addr.index ≠ 0)
    (hEvents : ∀ event ∈ events, KeepsAddress event) (h : stalled addr trace = halted addr acts) :
    stalled addr (trace ++ events) = halted addr (acts ++ events.filterMap Event.act?) := by
  induction events generalizing trace acts with
  | nil =>
    rw [List.append_nil, List.filterMap_nil, List.append_nil]
    exact h
  | cons event rest ih =>
    have hRest : ∀ event ∈ rest, KeepsAddress event := fun e he =>
      hEvents e (List.mem_cons_of_mem _ he)
    rw [List.append_cons trace]
    cases hAct : event.act? with
    | none =>
      rw [List.filterMap_cons_none hAct]
      apply ih hRest
      rw [stalled_append]
      cases event with
      | reset => cases hAct
      | setStalled addr' b =>
        have hControl : addr'.index = 0 := by
          rw [Event.act?] at hAct
          split at hAct
          · assumption
          · cases hAct
        have hNe : addr' ≠ addr := by
          rintro rfl
          exact hAddr hControl
        exact (if_neg hNe).trans h
      | _ => exact h
    | some act =>
      rw [List.filterMap_cons_some hAct, List.append_cons acts]
      apply ih hRest
      rw [stalled_append, UsbStack.halted, List.foldl_append]
      cases event with
      | reset => exact (hEvents _ List.mem_cons_self).elim
      | setDeviceAddress addr' => exact (hEvents _ List.mem_cons_self).elim
      | setStalled addr' b =>
        rw [Event.act?] at hAct
        split at hAct
        · cases hAct
        · cases hAct
          dsimp only [List.foldl_cons, List.foldl_nil]
          rw [h]
          rfl
      | _ => cases hAct

end Folds

/-- `acts`, and what has been recorded since the record had the length `start`. -/
def UsbDevice.TracksFrom (acts : List Act) (start : Nat) (d : UsbDevice B) : Prop :=
  start ≤ d.control.bus.trace.length ∧
    d.Tracks (acts ++ (d.control.bus.trace.drop start).filterMap Event.act?)

namespace UsbDevice

variable {acts : List Act} {start : Nat} {d : UsbDevice B}

theorem Tracks.of_fresh [UsbBus.Contract B] (h : d.Fresh) : d.Tracks [] := by
  obtain ⟨builder, t, -, -, hTrace, rfl⟩ := h.built
  refine ⟨rfl, fun addr _ => ?_, rfl, fun _ => rfl⟩
  change stalled addr t.trace = _
  rw [hTrace]
  rfl

omit [UsbBus B] in
theorem Tracks.withPipe (h : d.Tracks acts) {p : ControlPipe B} {events : List Event}
    (hTrace : p.bus.trace = d.control.bus.trace ++ events)
    (hEvents : ∀ event ∈ events, KeepsAddress event) :
    (d.withPipe p).Tracks (acts ++ events.filterMap Event.act?) where
  wakeup := h.wakeup.trans (wakeup_append_halts (isHalt_of_mem hEvents)).symm
  halted addr hAddr := by
    have hHalted := halted_append_events hAddr hEvents (h.halted addr hAddr)
    rw [← hTrace] at hHalted
    exact hHalted
  configured := h.configured.trans (configured_append_halts (isHalt_of_mem hEvents)).symm
  remembered := h.remembered

omit [UsbBus B] in
theorem Tracks.now (h : d.Tracks acts) : d.TracksFrom acts d.control.bus.trace.length := by
  refine ⟨Nat.le_refl _, ?_⟩
  rw [List.drop_length, List.filterMap_nil, List.append_nil]
  exact h

omit [UsbBus B] in
theorem TracksFrom.withPipe (h : d.TracksFrom acts start) {p : ControlPipe B}
    (hGrows : Traced.Grows KeepsAddress d.control.bus p.bus) :
    (d.withPipe p).TracksFrom acts start := by
  obtain ⟨hStart, hTracks⟩ := h
  obtain ⟨events, hTrace, hEvents⟩ := hGrows
  have hDrop : p.bus.trace.drop start = d.control.bus.trace.drop start ++ events := by
    rw [hTrace, List.drop_append_of_le_length hStart]
  constructor
  · change start ≤ p.bus.trace.length
    rw [hTrace, List.length_append]
    omega
  · change (d.withPipe p).Tracks (acts ++ (p.bus.trace.drop start).filterMap Event.act?)
    rw [hDrop, List.filterMap_append, ← List.append_assoc]
    exact hTracks.withPipe hTrace hEvents

omit [UsbBus B] in
theorem TracksFrom.record (h : d.TracksFrom acts start) {e : UsbDevice B} {event : Event} {act : Act}
    (hTrace : e.control.bus.trace = d.control.bus.trace ++ [event]) (hAct : event.act? = some act)
    (hStep : ∀ acts, d.Tracks acts → e.Tracks (acts ++ [act])) : e.TracksFrom acts start := by
  obtain ⟨hStart, hTracks⟩ := h
  have hDrop : e.control.bus.trace.drop start = d.control.bus.trace.drop start ++ [event] := by
    rw [hTrace, List.drop_append_of_le_length hStart]
  constructor
  · rw [hTrace, List.length_append]
    omega
  · have hOne : [event].filterMap Event.act? = [act] := List.filterMap_cons_some hAct
    rw [hDrop, List.filterMap_append, hOne, ← List.append_assoc]
    exact hStep _ hTracks

theorem tracks_afterReset (acts : List Act) (d : UsbDevice B) :
    d.afterReset.Tracks (acts ++ [.reset]) where
  wakeup := by
    rw [UsbStack.wakeup, List.foldl_append]
    rfl
  halted addr _ := by
    rw [UsbStack.halted, List.foldl_append]
    exact stalled_append addr d.control.bus.trace .reset
  configured := by
    rw [UsbStack.configured, List.foldl_append]
    rfl
  remembered _ := rfl

theorem Tracks.addressSet (h : d.Tracks acts) (hAwake : d.deviceState ≠ .suspend) :
    d.addressSet.Tracks (acts ++ [.address]) where
  wakeup := by
    rw [UsbStack.wakeup, List.foldl_append]
    exact h.wakeup
  halted addr hAddr := by
    rw [UsbStack.halted, List.foldl_append]
    exact (stalled_append addr d.control.bus.trace _).trans (h.halted addr hAddr)
  configured := by
    have hUnderlying : d.addressSet.underlying = .addressed := by
      change d.suspendedDeviceState.getD .addressed = _
      rw [h.remembered hAwake]
      rfl
    rw [UsbStack.configured, List.foldl_append, hUnderlying]
    rfl
  remembered _ := h.remembered hAwake

theorem background_tracksFrom (acts : List Act) (start : Nat) :
    Background (TracksFrom acts start : UsbDevice B → Prop) where
  events _ _ h hGrows := h.withPipe (hGrows.mono fun _ => keepsAddress_of_background)
  resume d state h hRemembered := by
    refine ⟨h.1, h.2.wakeup, h.2.halted, ?_, fun _ => rfl⟩
    have hSame : (some state).getD d.deviceState = state := rfl
    have hConfigured := h.2.configured
    rw [underlying, hRemembered, hSame] at hConfigured
    exact hConfigured
  suspend d h hAwake := by
    refine ⟨h.1, h.2.wakeup, h.2.halted, ?_, fun hAwake' => (hAwake' rfl).elim⟩
    have hConfigured := h.2.configured
    rw [underlying, h.2.remembered hAwake] at hConfigured
    exact hConfigured
  reset d h := h.record rfl rfl fun acts' _ => tracks_afterReset acts' d
  selfPowered _ _ h := ⟨h.1, h.2.wakeup, h.2.halted, h.2.configured, h.2.remembered⟩

end UsbDevice

end UsbStack
