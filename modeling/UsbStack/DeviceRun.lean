import UsbStack.Dispatch
import UsbStack.DeviceBuilder
import UsbStack.ScriptBus

/-! # Runs of the device

A run is any sequence of polls, changes of the bus by the hardware, and uses of the endpoints and
of the device by the application. The rules below reduce an invariant of the device to what the
handling of endpoint 0 does.
-/

namespace UsbStack

set_option autoImplicit false

open Foundation Exec

variable {B C α : Type}

/-- What a class can cause, or a poll outside the handling of endpoint 0 and of a bus reset. -/
def BackgroundEvent : Event → Prop
  | .poll _ | .suspend | .resume => True
  | event => ForeignEvent event

theorem backgroundEvent_of_foreign {event : Event} (h : ForeignEvent event) :
    BackgroundEvent event := by
  cases event <;> first | exact h | trivial

variable [UsbBus B]

/-- What classes do to the device between two of its steps. -/
def Foreign (d d' : UsbDevice B) : Prop := ∃ t, ClassUse d.control.bus t ∧ d' = d.withBus t

theorem foreign_refl (d : UsbDevice B) : Foreign d d := ⟨d.control.bus, .refl, rfl⟩

theorem foreign_trans (d e f : UsbDevice B) (h : Foreign d e) (h' : Foreign e f) : Foreign d f := by
  obtain ⟨t, hUse, rfl⟩ := h
  obtain ⟨u, hUse', rfl⟩ := h'
  exact ⟨u, hUse.trans hUse', rfl⟩

namespace UsbDevice

def polled (d : UsbDevice B) : UsbDevice B :=
  d.withBus ⟨(UsbBus.poll d.control.bus.bus).2,
    d.control.bus.trace ++ [.poll (UsbBus.poll d.control.bus.bus).1]⟩

def resumed (d : UsbDevice B) (state : UsbDeviceState) : UsbDevice B :=
  { d.withBus ⟨UsbBus.resume d.control.bus.bus, d.control.bus.trace ++ [.resume]⟩ with
    deviceState := state
    suspendedDeviceState := none }

/-- The event that a poll handles, and the device at that moment. -/
def event? (d : UsbDevice B) : Option (PollResult × UsbDevice B) :=
  let pr := (UsbBus.poll d.control.bus.bus).1
  if d.deviceState = .suspend then
    if pr = .suspend ∨ pr = .none then none
    else d.suspendedDeviceState.map fun state => (pr, d.polled.resumed state)
  else some (pr, d.polled)

def afterReset (d : UsbDevice B) : UsbDevice B :=
  { d with
    control := { d.control with
      bus := ⟨UsbBus.reset d.control.bus.bus, d.control.bus.trace ++ [.reset]⟩
      state := .idle }
    deviceState := .default
    suspendedDeviceState := none
    remoteWakeupEnabled := false
    pendingAddress := 0 }

def afterSuspend (d : UsbDevice B) : UsbDevice B :=
  { d.withBus ⟨UsbBus.suspend d.control.bus.bus, d.control.bus.trace ++ [.suspend]⟩ with
    suspendedDeviceState := some d.deviceState
    deviceState := .suspend }

theorem event?_of_awake {d : UsbDevice B} (h : d.deviceState ≠ .suspend) :
    d.event? = some ((UsbBus.poll d.control.bus.bus).1, d.polled) := if_neg h

theorem event?_of_asleep {d : UsbDevice B} {state : UsbDeviceState} (h : d.deviceState = .suspend)
    (hNot : ¬ ((UsbBus.poll d.control.bus.bus).1 = .suspend ∨
      (UsbBus.poll d.control.bus.bus).1 = .none))
    (hRemembered : d.suspendedDeviceState = some state) :
    d.event? = some ((UsbBus.poll d.control.bus.bus).1, d.polled.resumed state) := by
  rw [event?, if_pos h, if_neg hNot, hRemembered]
  rfl

theorem event?_cases {d e : UsbDevice B} {pr : PollResult} (h : d.event? = some (pr, e)) :
    pr = (UsbBus.poll d.control.bus.bus).1 ∧ ((d.deviceState ≠ .suspend ∧ e = d.polled) ∨
      d.deviceState = .suspend ∧ ¬ (pr = .suspend ∨ pr = .none) ∧
        ∃ state, d.suspendedDeviceState = some state ∧ e = d.polled.resumed state) := by
  by_cases hState : d.deviceState = .suspend
  · rw [event?, if_pos hState] at h
    split at h
    · cases h
    · rename_i hNot
      obtain ⟨state, hRemembered, hEq⟩ := Option.map_eq_some_iff.mp h
      cases hEq
      exact ⟨rfl, .inr ⟨hState, hNot, state, hRemembered, rfl⟩⟩
  · cases Option.some.inj ((event?_of_awake hState).symm.trans h)
    exact ⟨rfl, .inl ⟨hState, rfl⟩⟩

def addressSet (d : UsbDevice B) : UsbDevice B :=
  { d.withBus ⟨UsbBus.setDeviceAddress d.control.bus.bus d.pendingAddress,
      d.control.bus.trace ++ [.setDeviceAddress d.pendingAddress]⟩ with
    pendingAddress := 0
    deviceState := .addressed }

end UsbDevice

/-- The calls that code outside the crate makes, and the changes that the hardware makes. -/
inductive DeviceInput (B C : Type) where
  | poll
  | hardware (bus : B)
  | setClasses (classes : List C)
  | useEndpoints (m : ClassM Unit)
  | setSelfPowered (isSelfPowered : Bool)

variable [UsbClass C]

/-- What the input does, and the value that a poll returns; the others return none. -/
def DeviceInput.perform : DeviceInput B C → SessionM B C (Option Bool)
  | poll => do
    let found ← Session.poll
    pure (some found)
  | hardware bus => do
    Session.modifyDevice fun d => d.withBus ⟨bus, d.control.bus.trace⟩
    pure none
  | setClasses classes => do
    modify fun s => { s with classes := classes }
    pure none
  | useEndpoints m => do
    Session.onDevice (UsbDevice.onBus m.run)
    pure none
  | setSelfPowered isSelfPowered => do
    Session.modifyDevice (UsbDevice.setSelfPowered isSelfPowered)
    pure none

/-- A device and its classes after some run. -/
def Session.Reachable (s : Session B C) : Prop :=
  ∃ (d : UsbDevice B) (classes : List C), d.Fresh ∧ Reaches DeviceInput.perform ⟨d, classes⟩ s

section Notify

omit [UsbClass C] in
theorem foreign_onBus {m : BusM B α} (hm : Within ClassUse m) :
    Within Foreign (UsbDevice.onBus m) := by
  intro d
  rw [UsbDevice.onBus, UsbDevice.onPipe, ControlPipe.onBus, post_zoom, post_zoom]
  exact (hm _).mono fun _ t h => ⟨t, h, rfl⟩

omit [UsbClass C] in
theorem foreign_notify (call : ClassCall) (f : C → ClassM C) :
    Within (OnDevices Foreign) (Session.notify call f : SessionM B C Unit) :=
  within_eachClass foreign_refl foreign_trans fun index cls =>
    foreign_onBus (within_callClass call f index cls)

omit [UsbClass C] in
theorem onForeign_refl (s : Session B C) : OnDevices Foreign s s := foreign_refl s.device

omit [UsbClass C] in
theorem onForeign_trans (s t u : Session B C) (h : OnDevices Foreign s t)
    (h' : OnDevices Foreign t u) : OnDevices Foreign s u := foreign_trans _ _ _ h h'

theorem foreign_useEndpoints (m : ClassM Unit) :
    Within (OnDevices Foreign) ((DeviceInput.useEndpoints m).perform : SessionM B C (Option Bool)) :=
  within_bind onForeign_trans (within_onDevice (foreign_onBus (within_run m))) fun _ =>
    within_pure onForeign_refl _

theorem foreign_pollEndpoints (epOut epIn epSetup : UInt16) (rounds i : Nat) (bit eps : UInt16) :
    Within (OnDevices Foreign)
      (Session.pollEndpoints epOut epIn epSetup rounds i bit eps : SessionM B C Unit) := by
  induction rounds generalizing i bit eps with
  | zero => exact within_pure onForeign_refl _
  | succ rounds ih =>
    have hNotify (c : Prop) [Decidable c] (call : ClassCall) (f : C → ClassM C) :
        Within (OnDevices Foreign) (when c (Session.notify call f) : SessionM B C Unit) :=
      within_when onForeign_refl (foreign_notify call f)
    refine within_bind onForeign_trans (hNotify _ _ _) fun _ => ?_
    refine within_bind onForeign_trans (hNotify _ _ _) fun _ => ?_
    refine within_bind onForeign_trans (hNotify _ _ _) fun _ => ?_
    exact within_when onForeign_refl (ih _ _ _)

end Notify

section Rules

variable {Q : UsbDevice B → Prop} {s : Session B C}

def Stable (Q : UsbDevice B → Prop) : Prop := ∀ d d', Q d → Foreign d d' → Q d'

omit [UsbClass C] in
theorem post_stable (hQ : Stable Q) {m : SessionM B C α} (hm : Within (OnDevices Foreign) m)
    (hs : Q s.device) : Post True m (fun _ t => Q t.device) s :=
  (hm s).mono fun _ _ h => hQ _ _ hs h

theorem post_pollData {epOut epIn epSetup : UInt16} (hQ : Stable Q)
    (hs : (epOut ||| epIn ||| epSetup) &&& 1 = 0 → Q s.device)
    (hControl : (epOut ||| epIn ||| epSetup) &&& 1 ≠ 0 →
      Post True (Session.pollControl epOut epIn epSetup) (fun _ t => Q t.device) s) :
    Post True (Session.pollData epOut epIn epSetup) (fun _ t => Q t.device) s := by
  refine post_then (post_when hControl fun hNot => hs (not_not.mp hNot)) fun _ t ht => ?_
  refine post_then (post_stable hQ (within_when onForeign_refl ?_) ht) fun _ u hu => ?_
  · exact foreign_pollEndpoints _ _ _ _ _ _ _
  · exact post_stable hQ (foreign_notify _ _) hu

/-- A poll of endpoint 0 receives, dispatches and completes, in this order. -/
theorem post_pollControl_stages {epOut epIn epSetup : UInt16}
    {Q : Except UsbError Unit → Session B C → Prop}
    (hRequest : ∀ req p, Session.receive epOut epSetup s.device.control = .done (.ok (some req)) p →
      Post True (Session.dispatch req) (fun _ t => Q (.ok ()) t)
        { s with device := s.device.withPipe p })
    (hNone : ∀ p, Session.receive epOut epSetup s.device.control = .done (.ok none) p →
      Q (.ok ()) { s with device := s.device.withPipe p })
    (hComplete : ∀ p, Session.receive epOut epSetup s.device.control = .done (.ok none) p →
      epIn &&& 1 ≠ 0 → Post True (Session.completeIn : DeviceM B Unit)
        (fun r d => Q r { s with device := d }) (s.device.withPipe p)) :
    Post True (Session.pollControl epOut epIn epSetup) Q s := by
  rw [Session.pollControl, post_bind, Session.onPipe, Session.onDevice, post_zoom,
    UsbDevice.onPipe, post_zoom, post_true_iff]
  intro r p hReceive
  obtain ⟨found, rfl, -⟩ := ControlPipe.receives_of_receive hReceive
  cases found with
  | some req =>
    dsimp only
    rw [post_bind, post_attempt]
    exact hRequest req p hReceive
  | none =>
    refine post_when (fun hBit => ?_) fun _ => hNone p hReceive
    rw [Session.onDevice, post_zoom]
    exact hComplete p hReceive hBit

theorem post_pollControl {epOut epIn epSetup : UInt16}
    (hRequest : ∀ req p, Session.receive epOut epSetup s.device.control = .done (.ok (some req)) p →
      Post True (Session.dispatch req) (fun _ t => Q t.device) { s with device := s.device.withPipe p })
    (hNone : ∀ p, Session.receive epOut epSetup s.device.control = .done (.ok none) p →
      Q (s.device.withPipe p))
    (hComplete : ∀ p, Session.receive epOut epSetup s.device.control = .done (.ok none) p →
      epIn &&& 1 ≠ 0 →
      Post True (Session.completeIn : DeviceM B Unit) (fun _ d => Q d) (s.device.withPipe p)) :
    Post True (Session.pollControl epOut epIn epSetup) (fun _ t => Q t.device) s :=
  post_pollControl_stages hRequest hNone hComplete

omit [UsbClass C] in
theorem post_completeIn {d : UsbDevice B}
    (hDone : ∀ r p, d.control.Completes r p → Q (d.withPipe p))
    (hAddress : ∀ p, d.control.Completes (.ok true) p →
      UsbBus.quirkSetAddressBeforeStatus B = false → d.pendingAddress ≠ 0 →
        Q (d.withPipe p).addressSet) :
    Post True (Session.completeIn : DeviceM B Unit) (fun _ d' => Q d') d := by
  rw [Session.completeIn, post_bind, post_attempt, UsbDevice.onPipe, post_zoom, post_true_iff]
  intro r p hHandle
  have hCompletes := ControlPipe.completes_of_handleInComplete hHandle
  dsimp only
  rw [post_bind, post_get]
  refine post_when (fun h => ?_) fun _ => hDone r p hCompletes
  obtain ⟨hQuirk, hTrue, hPending⟩ := h
  cases r with
  | error e => cases hTrue
  | ok completed =>
    cases hTrue
    exact hAddress p hCompletes hQuirk hPending

omit [UsbClass C] in
theorem poll_polled (s : Session B C) :
    (Session.onDevice (UsbDevice.onBus Traced.poll) : SessionM B C PollResult) s =
      .done (.ok (UsbBus.poll s.device.control.bus.bus).1) { s with device := s.device.polled } :=
  rfl

theorem poll_of_event {pr : PollResult} {d : UsbDevice B} (h : s.device.event? = some (pr, d)) :
    Session.poll s = Session.handleEvent pr { s with device := d } := by
  rw [Session.poll, bind_of_ok (poll_polled s), bind_apply, get_apply]
  dsimp only
  have hSame : s.device.polled.deviceState = s.device.deviceState := rfl
  obtain ⟨rfl, ⟨hState, rfl⟩ | ⟨hState, hNot, state, hRemembered, rfl⟩⟩ := UsbDevice.event?_cases h
  · rw [if_neg (hSame ▸ hState)]
  · have hLeave : (Session.leaveSuspend : SessionM B C Unit) { s with device := s.device.polled } =
        .done (.ok ()) { s with device := s.device.polled.resumed state } := by
      change (ofOption Panic.expectFailed s.device.suspendedDeviceState >>= _) _ = _
      rw [hRemembered]
      rfl
    rw [if_pos (hSame.trans hState), if_neg hNot, bind_of_ok hLeave]

theorem poll_of_quiet (hState : s.device.deviceState = .suspend)
    (hQuiet : (UsbBus.poll s.device.control.bus.bus).1 = .suspend ∨
      (UsbBus.poll s.device.control.bus.bus).1 = .none) :
    Session.poll s = .done (.ok false) { s with device := s.device.polled } := by
  have hSame : s.device.polled.deviceState = .suspend := hState
  rw [Session.poll, bind_of_ok (poll_polled s), bind_apply, get_apply]
  dsimp only
  rw [if_pos hSame, if_pos hQuiet]
  rfl

theorem poll_of_forgotten (hState : s.device.deviceState = .suspend)
    (hNot : ¬ ((UsbBus.poll s.device.control.bus.bus).1 = .suspend ∨
      (UsbBus.poll s.device.control.bus.bus).1 = .none))
    (hForgotten : s.device.suspendedDeviceState = none) :
    Session.poll s = .panic .expectFailed := by
  have hSame : s.device.polled.deviceState = .suspend := hState
  have hPanic : (Session.leaveSuspend : SessionM B C Unit) { s with device := s.device.polled } =
      .panic .expectFailed := by
    change (ofOption Panic.expectFailed s.device.suspendedDeviceState >>= _) _ = _
    rw [hForgotten]
    rfl
  rw [Session.poll, bind_of_ok (poll_polled s), bind_apply, get_apply]
  dsimp only
  rw [if_pos hSame, if_neg hNot, bind_of_panic hPanic]

/-- A poll by its event. -/
theorem post_poll {P : Session B C → Prop}
    (hSuspended : s.device.deviceState = .suspend → s.device.event? = none →
      P { s with device := s.device.polled })
    (hEvent : ∀ pr d, s.device.event? = some (pr, d) →
      Post True (Session.handleEvent pr) (fun _ t => P t) { s with device := d }) :
    Post True Session.poll (fun _ t => P t) s := by
  cases h : s.device.event? with
  | some event =>
    obtain ⟨pr, d⟩ := event
    unfold Post
    rw [poll_of_event h]
    exact hEvent pr d h
  | none =>
    have hNone := h
    unfold UsbDevice.event? at hNone
    dsimp only at hNone
    by_cases hState : s.device.deviceState = .suspend
    · rw [if_pos hState] at hNone
      by_cases hQuiet : (UsbBus.poll s.device.control.bus.bus).1 = .suspend ∨
          (UsbBus.poll s.device.control.bus.bus).1 = .none
      · rw [Post, poll_of_quiet hState hQuiet]
        exact hSuspended hState h
      · rw [if_neg hQuiet] at hNone
        rw [Post, poll_of_forgotten hState hQuiet (Option.map_eq_none_iff.mp hNone)]
        trivial
    · rw [if_neg hState] at hNone
      cases hNone

end Rules

/-- What happens outside the handling of endpoint 0 keeps `I`. -/
structure Background (I : UsbDevice B → Prop) : Prop where
  events : ∀ d t, I d → Traced.Grows BackgroundEvent d.control.bus t → I (d.withBus t)
  resume : ∀ d state, I d → d.suspendedDeviceState = some state →
    I { d with deviceState := state, suspendedDeviceState := none }
  suspend : ∀ d, I d → d.deviceState ≠ .suspend →
    I { d with suspendedDeviceState := some d.deviceState, deviceState := .suspend }
  reset : ∀ d, I d → I d.afterReset
  selfPowered : ∀ d b, I d → I (d.setSelfPowered b)

section Background

variable {I Q : UsbDevice B → Prop} {s : Session B C}

omit [UsbClass C] in
theorem Background.stable (hI : Background I) : Stable I := by
  rintro d _ hd ⟨t, hUse, rfl⟩
  exact hI.events d t hd (hUse.grows.mono fun _ => backgroundEvent_of_foreign)

omit [UsbClass C] in
theorem Background.polled (hI : Background I) {d : UsbDevice B} (hd : I d) : I d.polled :=
  hI.events d _ hd (Traced.Grows.single rfl trivial)

omit [UsbClass C] in
theorem Background.event (hI : Background I) {d d' : UsbDevice B} {pr : PollResult} (hd : I d)
    (h : d.event? = some (pr, d')) : I d' := by
  obtain ⟨-, ⟨-, rfl⟩ | ⟨-, -, state, hRemembered, rfl⟩⟩ := UsbDevice.event?_cases h
  · exact hI.polled hd
  · have hResumed : Traced.Grows BackgroundEvent d.polled.control.bus
        ⟨UsbBus.resume d.polled.control.bus.bus, d.polled.control.bus.trace ++ [.resume]⟩ :=
      Traced.Grows.single rfl trivial
    exact hI.resume _ state (hI.events _ _ (hI.polled hd) hResumed) hRemembered

omit [UsbClass C] in
theorem UsbDevice.WellFormed.awake {d d' : UsbDevice B} {pr : PollResult} (hd : d.WellFormed)
    (h : d.event? = some (pr, d')) : d'.deviceState ≠ .suspend := by
  obtain ⟨-, ⟨hState, rfl⟩ | ⟨-, -, state, hRemembered, rfl⟩⟩ := UsbDevice.event?_cases h
  · exact hState
  · rintro rfl
    exact hd.remembered hRemembered

theorem post_reset (hQ : Stable Q) (hs : Q s.device.afterReset) :
    Post True Session.reset (fun _ t => Q t.device) s := by
  change Post True (Session.eachClass _) (fun _ t => Q t.device)
    { s with device := s.device.afterReset }
  exact post_stable hQ (foreign_notify .reset UsbClass.reset) hs

/-- A poll, from an invariant `I` to a property `Q` of the state it ends in. -/
theorem post_poll_of_background (hI : Background I) (hQ : Stable Q) (hIQ : ∀ d, I d → Q d)
    (hWell : s.device.WellFormed) (hs : I s.device)
    (hControl : ∀ epOut epIn epSetup d, s.device.event? = some (.data epOut epIn epSetup, d) →
      I d → Post True (Session.pollControl epOut epIn epSetup) (fun _ t => Q t.device)
        { s with device := d }) :
    Post True Session.poll (fun _ t => Q t.device) s := by
  refine post_poll (fun _ _ => hIQ _ (hI.polled hs)) fun pr d hEvent => ?_
  have hd := hI.event hs hEvent
  cases pr with
  | none => exact hIQ d hd
  | resume => exact hIQ d hd
  | reset =>
    exact post_then (post_reset hQ (hIQ _ (hI.reset d hd))) fun _ _ ht => ht
  | suspend =>
    have hSuspended : I d.afterSuspend :=
      hI.events _ _ (hI.suspend d hd (hWell.awake hEvent)) (Traced.Grows.single rfl trivial)
    exact hIQ _ hSuspended
  | data epOut epIn epSetup =>
    refine post_then (post_pollData hQ (fun _ => hIQ d hd) fun _ => ?_) fun _ _ ht => ht
    exact hControl _ _ _ d hEvent hd

theorem post_perform_of_background (hI : Background I) (hs : I s.device) {input : DeviceInput B C}
    (hInput : input ≠ .poll) : Post True input.perform (fun _ t => I t.device) s := by
  cases input with
  | poll => exact absurd rfl hInput
  | hardware bus => exact hI.events _ _ hs ⟨[], (List.append_nil _).symm, by simp⟩
  | setClasses classes => exact hs
  | useEndpoints m => exact post_stable hI.stable (foreign_useEndpoints m) hs
  | setSelfPowered b => exact hI.selfPowered _ b hs

end Background

section WellFormed

variable {d d' : UsbDevice B} {s : Session B C}

omit [UsbBus B] [UsbClass C] in
theorem UsbDevice.WellFormed.withPipe (h : d.WellFormed) {p : ControlPipe B}
    (hFrame : d.control.Frame p) : (d.withPipe p).WellFormed :=
  ⟨hFrame.length ▸ h.room, (congrArg _ hFrame.epOut).trans h.epOut,
    (congrArg _ hFrame.epIn).trans h.epIn,
    fun req hState => (hFrame.data req hState).elim (h.data req) id, h.remembered⟩

omit [UsbBus B] [UsbClass C] in
theorem UsbDevice.WellFormed.withBus (h : d.WellFormed) (t : Traced B) : (d.withBus t).WellFormed :=
  ⟨h.room, h.epOut, h.epIn, h.data, h.remembered⟩

theorem UsbDevice.WellFormed.controlStep {req : Request} {allowed : UsbDevice B → Prop}
    (hStep : ControlStep B C req allowed d d') (h : d.WellFormed) : d'.WellFormed := by
  cases hStep with
  | foreign hGrows => exact h.withBus _
  | answer hAnswers => exact h.withPipe hAnswers.frame
  | acceptOut hAddress hAccepts => exact h.withPipe hAccepts.frame
  | setHalt stalled hReq => exact h.withBus _
  | _ => exact ⟨h.room, h.epOut, h.epIn, h.data, h.remembered⟩

omit [UsbClass C] in
theorem background_wellFormed : Background (UsbDevice.WellFormed : UsbDevice B → Prop) where
  events _ t h _ := h.withBus t
  resume _ _ h _ := ⟨h.room, h.epOut, h.epIn, h.data, nofun⟩
  suspend _ h hAwake :=
    ⟨h.room, h.epOut, h.epIn, h.data, fun hSome => hAwake (Option.some.inj hSome)⟩
  reset _ h := ⟨h.room, h.epOut, h.epIn, nofun, nofun⟩
  selfPowered _ _ h := ⟨h.room, h.epOut, h.epIn, h.data, h.remembered⟩

/-- What holds of the device once its packet is received, and is kept by every step for the request
and by the end of a transmission, holds after endpoint 0 has been handled. -/
theorem post_pollControl_of_steps {I : UsbDevice B → Prop} {epOut epIn epSetup : UInt16}
    (hReceives : ∀ found p,
      Session.receive epOut epSetup s.device.control = .done (.ok found) p → I (s.device.withPipe p))
    (hStep : ∀ req p, Session.receive epOut epSetup s.device.control = .done (.ok (some req)) p →
      ∀ d e, ControlStep B C req (fun _ => True) d e → I d → I e)
    (hCompletes : ∀ d r q, d.control.Completes r q → I d → I (d.withPipe q))
    (hAddress : ∀ d, I d → I d.addressSet) :
    Post True (Session.pollControl epOut epIn epSetup) (fun _ t => I t.device) s := by
  refine post_pollControl (fun req p hReceive => ?_) (fun p hReceive => hReceives _ p hReceive)
    fun p hReceive _ => ?_
  · apply (sessionSteps_dispatch _).mono
    exact fun _ t ht => ControlSteps.invariant ht (hStep req p hReceive) (hReceives _ p hReceive)
  · have hReceived : I (s.device.withPipe p) := hReceives _ p hReceive
    refine post_completeIn (fun r q hDone => hCompletes _ r q hDone hReceived) fun q hDone _ _ => ?_
    exact hAddress _ (hCompletes _ _ q hDone hReceived)

theorem wellFormed_pollControl {epOut epIn epSetup : UInt16} (h : s.device.WellFormed) :
    Post True (Session.pollControl epOut epIn epSetup) (fun _ t => t.device.WellFormed) s := by
  apply post_pollControl_of_steps
  case hReceives =>
    exact fun found p hReceive => h.withPipe (ControlPipe.Receives.of_receive hReceive).frame
  case hStep => exact fun req p _ d e hStep hd => hd.controlStep hStep
  case hCompletes => exact fun d r q hCompletes hd => hd.withPipe hCompletes.frame
  case hAddress => exact fun d hd => ⟨hd.room, hd.epOut, hd.epIn, hd.data, hd.remembered⟩

theorem wellFormed_perform (h : s.device.WellFormed) (input : DeviceInput B C) :
    Post True input.perform (fun _ t => t.device.WellFormed) s := by
  cases input with
  | poll =>
    exact post_then (post_poll_of_background background_wellFormed background_wellFormed.stable
      (fun _ => id) h h fun _ _ _ _ _ hd => wellFormed_pollControl hd) fun _ _ ht => ht
  | _ => exact post_perform_of_background background_wellFormed h nofun

theorem Session.Reachable.wellFormed [UsbBus.Contract B] (h : s.Reachable) : s.device.WellFormed := by
  obtain ⟨d, classes, hFresh, hReaches⟩ := h
  exact hReaches.invariant (I := fun s => s.device.WellFormed) hFresh.initial.wellFormed
    fun input _ ht => wellFormed_perform ht input

/-- An invariant that the handling of endpoint 0 keeps in every poll that meets a condition holds
throughout every run whose polls meet it. -/
theorem throughout_of_background {I : UsbDevice B → Prop}
    {P : DeviceInput B C → Session B C → Prop} (hI : Background I)
    (hControl : ∀ (s : Session B C) epOut epIn epSetup d, s.device.WellFormed → P .poll s →
      s.device.event? = some (.data epOut epIn epSetup, d) → I d →
      Post True (Session.pollControl epOut epIn epSetup) (fun _ t => I t.device)
        { s with device := d })
    {inputs : List (DeviceInput B C)} (hWell : s.device.WellFormed) (hs : I s.device)
    (hRun : Along DeviceInput.perform P inputs s) :
    Throughout DeviceInput.perform (fun t => I t.device) inputs s := by
  have hBoth : Throughout DeviceInput.perform (fun t => t.device.WellFormed ∧ I t.device) inputs s := by
    refine throughout_of_along (fun input t ht hP => ?_) ⟨hWell, hs⟩ hRun
    apply (wellFormed_perform ht.1 input).and
    cases input with
    | poll =>
      refine post_then (post_poll_of_background hI hI.stable (fun _ => id) ht.1 ht.2 ?_)
        fun _ _ hu => hu
      exact fun epOut epIn epSetup d hEvent hd => hControl t _ _ _ d ht.1 hP hEvent hd
    | _ => exact post_perform_of_background hI ht.2 nofun
  exact hBoth.mono fun _ h => h.2

end WellFormed

/-- A class that keeps the default of every callback. -/
structure DefaultClass where

instance : UsbClass DefaultClass where

theorem leavesStandard_defaultClass : LeavesStandard DefaultClass := fun cls _ _ _ => ⟨cls, rfl⟩

namespace ScriptBus

def device (bus : ScriptBus) : UsbDevice ScriptBus where
  config := (UsbDeviceBuilder.new ⟨0, 0⟩ []).config
  control := .new ⟨bus, [.enable]⟩ (List.replicate 8 0) (.control .out 8) (.control .in_ 8)
  deviceState := .default
  remoteWakeupEnabled := false
  selfPowered := false
  suspendedDeviceState := none
  pendingAddress := 0

theorem fresh_device (bus : ScriptBus) : bus.device.Fresh :=
  ⟨.new ⟨0, 0⟩ (List.replicate 8 0), bus, ⟨bus, [.enable]⟩, .new _ _, rfl⟩

abbrev session (bus : ScriptBus) (classes : List DefaultClass) : Session ScriptBus DefaultClass :=
  ⟨bus.device, classes⟩

end ScriptBus

def addressingBus : ScriptBus :=
  ⟨[.ok [0x00, 5, 5, 0, 0, 0, 0, 0]], [.ok 0], [.data 0 0 1, .data 0 1 0]⟩

end UsbStack
