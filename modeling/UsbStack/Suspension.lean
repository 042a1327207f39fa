import UsbStack.DeviceRun

/-! # Suspend and resume

In every run the device is either awake with nothing remembered, or asleep and remembers the state
that it returns to; the calls of `suspend` and `resume` alternate.
-/

namespace UsbStack

set_option autoImplicit false

open Foundation Exec

variable {B C : Type}

def Event.suspension? : Event → Option Bool
  | suspend => some true
  | resume => some false
  | _ => none

/-- The calls of `suspend` (true) and of `resume` (false), in order. -/
def suspensions (trace : List Event) : List Bool := trace.filterMap Event.suspension?

/-- `n` calls that alternate, the first of them `suspend`. -/
def alternation (n : Nat) : List Bool := (List.range n).map fun k => decide (k % 2 = 0)

theorem suspensions_append (trace more : List Event) :
    suspensions (trace ++ more) = suspensions trace ++ suspensions more := List.filterMap_append

theorem alternation_succ (n : Nat) :
    alternation (n + 1) = alternation n ++ [decide (n % 2 = 0)] := by
  rw [alternation, alternation, List.range_succ, List.map_append, List.map_singleton]

theorem alternation_suspend (n : Nat) : alternation (2 * n) ++ [true] = alternation (2 * n + 1) := by
  rw [alternation_succ, Nat.mul_mod_right]
  rfl

theorem alternation_resume (n : Nat) :
    alternation (2 * n + 1) ++ [false] = alternation (2 * (n + 1)) := by
  have hOdd : (2 * n + 1) % 2 = 1 := by omega
  rw [Nat.mul_succ, alternation_succ (2 * n + 1), hOdd]
  rfl

theorem suspensions_single {event : Event} (h : event.suspension? = none) (trace : List Event) :
    suspensions (trace ++ [event]) = suspensions trace := by
  have hNone : suspensions [event] = [] := List.filterMap_cons_none h
  rw [suspensions_append, hNone, List.append_nil]

def KeepsSuspension (event : Event) : Prop := event.suspension? = none

theorem suspensions_eq {t t' : Traced B} (h : Traced.Grows KeepsSuspension t t') :
    suspensions t'.trace = suspensions t.trace := h.filterMap_eq fun _ hKeeps => hKeeps

theorem keepsSuspension_of_foreign {event : Event} (h : ForeignEvent event) :
    KeepsSuspension event := by
  cases event <;> first | rfl | exact h.elim

theorem keepsSuspension_of_receive {event : Event} (h : ControlPipe.ReceiveEvent event) :
    KeepsSuspension event := by
  cases event <;> first | rfl | exact h.elim

theorem keepsSuspension_of_transfer {event : Event} (h : ControlPipe.TransferEvent event) :
    KeepsSuspension event := keepsSuspension_of_receive (ControlPipe.receiveEvent_of_transfer h)

/-- Not suspended, after `n` suspensions. -/
structure UsbDevice.Awake (n : Nat) (d : UsbDevice B) : Prop where
  deviceState : d.deviceState ≠ .suspend
  remembered : d.suspendedDeviceState = none
  calls : suspensions d.control.bus.trace = alternation (2 * n)

/-- In the suspension after `n` others, from `state`. -/
structure UsbDevice.Asleep (n : Nat) (state : UsbDeviceState) (d : UsbDevice B) : Prop where
  deviceState : d.deviceState = .suspend
  remembered : d.suspendedDeviceState = some state
  awake : state ≠ .suspend
  calls : suspensions d.control.bus.trace = alternation (2 * n + 1)

namespace UsbDevice

variable {d e : UsbDevice B} {n : Nat} {state : UsbDeviceState}

theorem Awake.withPipe (h : d.Awake n) {p : ControlPipe B}
    (hGrows : Traced.Grows KeepsSuspension d.control.bus p.bus) : (d.withPipe p).Awake n :=
  ⟨h.deviceState, h.remembered, (suspensions_eq hGrows).trans h.calls⟩

theorem Asleep.withBus (h : d.Asleep n state) {t : Traced B}
    (hGrows : Traced.Grows KeepsSuspension d.control.bus t) : (d.withBus t).Asleep n state :=
  ⟨h.deviceState, h.remembered, h.awake, (suspensions_eq hGrows).trans h.calls⟩

variable [UsbBus B]

theorem Awake.polled (h : d.Awake n) : d.polled.Awake n :=
  h.withPipe (Traced.Grows.single rfl rfl)

theorem Asleep.polled (h : d.Asleep n state) : d.polled.Asleep n state :=
  h.withBus (Traced.Grows.single rfl rfl)

theorem Asleep.resumed (h : d.Asleep n state) : (d.polled.resumed state).Awake (n + 1) where
  deviceState := h.awake
  remembered := rfl
  calls := by
    have hCalls : suspensions (d.polled.control.bus.trace ++ [.resume]) =
        suspensions d.polled.control.bus.trace ++ [false] := suspensions_append _ _
    rw [← alternation_resume, ← h.polled.calls]
    exact hCalls

theorem Awake.afterSuspend (h : d.Awake n) : d.afterSuspend.Asleep n d.deviceState where
  deviceState := rfl
  remembered := rfl
  awake := h.deviceState
  calls := by
    have hCalls : suspensions (d.control.bus.trace ++ [.suspend]) =
        suspensions d.control.bus.trace ++ [true] := suspensions_append _ _
    rw [← alternation_suspend, ← h.calls]
    exact hCalls

theorem Awake.afterReset (h : d.Awake n) : d.afterReset.Awake n where
  deviceState := UsbDeviceState.noConfusion
  remembered := rfl
  calls := (suspensions_single rfl _).trans h.calls

theorem Awake.addressSet (h : d.Awake n) : d.addressSet.Awake n where
  deviceState := UsbDeviceState.noConfusion
  remembered := h.remembered
  calls := (suspensions_single rfl _).trans h.calls

theorem Awake.stable : Stable (Awake n : UsbDevice B → Prop) := by
  rintro d _ h ⟨t, hUse, rfl⟩
  exact h.withPipe (hUse.grows.mono fun _ => keepsSuspension_of_foreign)

theorem Asleep.stable : Stable (Asleep n state : UsbDevice B → Prop) := by
  rintro d _ h ⟨t, hUse, rfl⟩
  exact h.withBus (hUse.grows.mono fun _ => keepsSuspension_of_foreign)

end UsbDevice

variable [UsbBus B] [UsbClass C] {n : Nat} {state : UsbDeviceState}

theorem awake_controlStep {req : Request} {d e : UsbDevice B}
    (hStep : ControlStep B C req (fun _ => True) d e) (h : d.Awake n) : e.Awake n := by
  cases hStep with
  | foreign hGrows => exact h.withPipe (hGrows.mono fun _ => keepsSuspension_of_foreign)
  | answer hAnswers => exact h.withPipe (hAnswers.grows.mono fun _ => keepsSuspension_of_transfer)
  | acceptOut _ hAccepts => exact h.withPipe (hAccepts.grows.mono fun _ => keepsSuspension_of_transfer)
  | setHalt stalled _ => exact h.withPipe (Traced.Grows.single rfl rfl)
  | setRemoteWakeup enabled => exact ⟨h.deviceState, h.remembered, h.calls⟩
  | setPendingAddress _ _ => exact ⟨h.deviceState, h.remembered, h.calls⟩
  | @setAddress t _ _ hTrace =>
    have hCalls : suspensions t.trace = suspensions d.control.bus.trace := by
      rw [hTrace, suspensions_single rfl]
    exact ⟨UsbDeviceState.noConfusion, h.remembered, hCalls.trans h.calls⟩
  | configure _ _ => exact ⟨UsbDeviceState.noConfusion, h.remembered, h.calls⟩
  | deconfigure _ _ => exact ⟨UsbDeviceState.noConfusion, h.remembered, h.calls⟩

theorem awake_pollControl {epOut epIn epSetup : UInt16} {s : Session B C} (h : s.device.Awake n) :
    Post True (Session.pollControl epOut epIn epSetup) (fun _ t => t.device.Awake n) s := by
  apply post_pollControl_of_steps
  case hReceives =>
    intro found p hReceive
    have hGrows := (ControlPipe.Receives.of_receive hReceive).grows
    exact h.withPipe (hGrows.mono fun _ => keepsSuspension_of_receive)
  case hStep => exact fun req p _ d e => awake_controlStep
  case hCompletes =>
    intro d r q hCompletes hd
    exact hd.withPipe (hCompletes.grows.mono fun _ => keepsSuspension_of_transfer)
  case hAddress => exact fun d hd => hd.addressSet

theorem post_handleEvent {s : Session B C} (h : s.device.Awake n) {pr : PollResult}
    (hNot : pr ≠ .suspend) :
    Post True (Session.handleEvent pr) (fun _ t =>
      t.device.Awake n ∧ (pr = .reset → t.device.deviceState = .default)) s := by
  have hOther (t : Session B C) (ht : t.device.Awake n) (hNot : pr ≠ .reset) :
      t.device.Awake n ∧ (pr = .reset → t.device.deviceState = .default) :=
    ⟨ht, fun hReset => absurd hReset hNot⟩
  cases pr with
  | none => exact hOther s h PollResult.noConfusion
  | resume => exact hOther s h PollResult.noConfusion
  | suspend => exact absurd rfl hNot
  | reset =>
    have hStable : Stable fun d : UsbDevice B => d.Awake n ∧ d.deviceState = .default := by
      rintro d e ⟨hAwake, hState⟩ hForeign
      refine ⟨UsbDevice.Awake.stable d e hAwake hForeign, ?_⟩
      obtain ⟨t, -, rfl⟩ := hForeign
      exact hState
    have hReset : Post True (Session.handleEvent .reset)
        (fun _ t => t.device.Awake n ∧ t.device.deviceState = .default) s :=
      post_then (post_reset hStable ⟨h.afterReset, rfl⟩) fun _ _ ht => ht
    exact hReset.mono fun _ t ht => ⟨ht.1, fun _ => ht.2⟩
  | data epOut epIn epSetup =>
    have hData : Post True (Session.handleEvent (.data epOut epIn epSetup))
        (fun _ t => t.device.Awake n) s :=
      post_then (post_pollData UsbDevice.Awake.stable (fun _ => h) fun _ => awake_pollControl h)
        fun _ _ ht => ht
    exact hData.mono fun _ t ht => hOther t ht PollResult.noConfusion

def PollResult.Quiet (pr : PollResult) : Prop := pr = .none ∨ pr = .suspend

/-- A poll, if it is one, leaves a suspended device asleep. -/
def QuietPoll (input : DeviceInput B C) (s : Session B C) : Prop :=
  input = .poll → (UsbBus.poll s.device.control.bus.bus).1.Quiet

theorem poll_awake {s : Session B C} (h : s.device.Awake n) :
    Session.poll s = Session.handleEvent (UsbBus.poll s.device.control.bus.bus).1
      { s with device := s.device.polled } :=
  poll_of_event (UsbDevice.event?_of_awake h.deviceState)

theorem poll_asleep_quiet {s : Session B C} (h : s.device.Asleep n state)
    (hQuiet : (UsbBus.poll s.device.control.bus.bus).1.Quiet) :
    Session.poll s = .done (.ok false) { s with device := s.device.polled } :=
  poll_of_quiet h.deviceState hQuiet.symm

omit [UsbClass C] in
theorem leaveSuspend_asleep {s : Session B C} (h : s.device.Asleep n state) :
    (Session.leaveSuspend : SessionM B C Unit) { s with device := s.device.polled } =
      .done (.ok ()) { s with device := s.device.polled.resumed state } := by
  change (ofOption Panic.expectFailed s.device.suspendedDeviceState >>= _) _ = _
  rw [h.remembered]
  rfl

theorem poll_asleep {s : Session B C} (h : s.device.Asleep n state)
    (hNot : ¬ (UsbBus.poll s.device.control.bus.bus).1.Quiet) :
    Session.poll s = Session.handleEvent (UsbBus.poll s.device.control.bus.bus).1
      { s with device := s.device.polled.resumed state } :=
  poll_of_event (UsbDevice.event?_of_asleep h.deviceState (fun hQuiet => hNot hQuiet.symm) h.remembered)

theorem asleep_perform {s : Session B C} (h : s.device.Asleep n state) {input : DeviceInput B C}
    (hQuiet : QuietPoll input s) :
    Post True input.perform (fun _ t => t.device.Asleep n state) s := by
  cases input with
  | poll =>
    have hPoll : Post True Session.poll (fun _ t => t.device.Asleep n state) s := by
      rw [Post, poll_asleep_quiet h (hQuiet rfl)]
      exact h.polled
    exact post_then hPoll fun _ _ ht => ht
  | hardware bus => exact h.withBus ⟨[], (List.append_nil _).symm, by simp⟩
  | setClasses classes => exact h
  | useEndpoints m =>
    exact post_stable UsbDevice.Asleep.stable (foreign_useEndpoints m) h
  | setSelfPowered b => exact ⟨h.deviceState, h.remembered, h.awake, h.calls⟩

/-- The device is awake or asleep, with alternating calls behind it. -/
def UsbDevice.Bracketed (d : UsbDevice B) : Prop :=
  ∃ n, d.Awake n ∨ ∃ state, d.Asleep n state

namespace UsbDevice.Bracketed

variable {d : UsbDevice B}

omit [UsbBus B] [UsbClass C] in
theorem awake (h : d.Bracketed) (hState : d.deviceState ≠ .suspend) : ∃ n, d.Awake n := by
  obtain ⟨n, hAwake | ⟨state, hAsleep⟩⟩ := h
  · exact ⟨n, hAwake⟩
  · exact absurd hAsleep.deviceState hState

omit [UsbBus B] [UsbClass C] in
theorem asleep (h : d.Bracketed) (hState : d.deviceState = .suspend) :
    ∃ n state, d.Asleep n state := by
  obtain ⟨n, hAwake | ⟨state, hAsleep⟩⟩ := h
  · exact absurd hState hAwake.deviceState
  · exact ⟨n, state, hAsleep⟩

omit [UsbBus B] [UsbClass C] in
theorem suspend_iff (h : d.Bracketed) :
    d.deviceState = .suspend ↔ d.suspendedDeviceState.isSome = true := by
  obtain ⟨n, hAwake | ⟨state, hAsleep⟩⟩ := h
  · rw [hAwake.remembered]
    exact iff_of_false hAwake.deviceState Bool.false_ne_true
  · rw [hAsleep.remembered]
    exact iff_of_true hAsleep.deviceState rfl

omit [UsbBus B] [UsbClass C] in
theorem remembered_ne (h : d.Bracketed) : d.suspendedDeviceState ≠ some .suspend := by
  obtain ⟨n, hAwake | ⟨state, hAsleep⟩⟩ := h
  · rw [hAwake.remembered]
    intro hSome
    cases hSome
  · rw [hAsleep.remembered]
    exact fun hSome => hAsleep.awake (Option.some.inj hSome)

omit [UsbBus B] [UsbClass C] in
theorem alternates (h : d.Bracketed) : ∃ n, suspensions d.control.bus.trace = alternation n := by
  obtain ⟨n, hAwake | ⟨state, hAsleep⟩⟩ := h
  · exact ⟨_, hAwake.calls⟩
  · exact ⟨_, hAsleep.calls⟩

end UsbDevice.Bracketed

/-- Each poll keeps the calls alternating. -/
theorem bracketed_poll {s : Session B C} (h : s.device.Bracketed) :
    Post True Session.poll (fun _ t => t.device.Bracketed ∧
      ((UsbBus.poll s.device.control.bus.bus).1 = .reset →
        t.device.deviceState = .default ∧ t.device.suspendedDeviceState = none)) s := by
  have hHandled {u : Session B C} {n : Nat} (hAwake : u.device.Awake n)
      (hNot : (UsbBus.poll s.device.control.bus.bus).1 ≠ .suspend) :
      Post True (Session.handleEvent (UsbBus.poll s.device.control.bus.bus).1)
        (fun _ t => t.device.Bracketed ∧ ((UsbBus.poll s.device.control.bus.bus).1 = .reset →
          t.device.deviceState = .default ∧ t.device.suspendedDeviceState = none)) u :=
    (post_handleEvent hAwake hNot).mono fun _ t ht =>
      ⟨⟨n, .inl ht.1⟩, fun hReset => ⟨ht.2 hReset, ht.1.remembered⟩⟩
  obtain ⟨n, hAwake | ⟨state, hAsleep⟩⟩ := h
  · rw [Post, poll_awake hAwake]
    by_cases hSuspend : (UsbBus.poll s.device.control.bus.bus).1 = .suspend
    · rw [hSuspend]
      exact ⟨⟨n, .inr ⟨_, hAwake.polled.afterSuspend⟩⟩, PollResult.noConfusion⟩
    · exact hHandled hAwake.polled hSuspend
  · by_cases hQuiet : (UsbBus.poll s.device.control.bus.bus).1.Quiet
    · rw [Post, poll_asleep_quiet hAsleep hQuiet]
      refine ⟨⟨n, .inr ⟨state, hAsleep.polled⟩⟩, fun hReset => ?_⟩
      rw [hReset] at hQuiet
      rcases hQuiet with hNone | hSuspend
      · cases hNone
      · cases hSuspend
    · rw [Post, poll_asleep hAsleep hQuiet]
      exact hHandled hAsleep.resumed fun hSuspend => hQuiet (.inr hSuspend)

theorem awake_perform {s : Session B C} (h : s.device.Awake n) {input : DeviceInput B C}
    (hNot : input ≠ .poll) : Post True input.perform (fun _ t => t.device.Awake n) s := by
  cases input with
  | poll => exact absurd rfl hNot
  | hardware bus => exact h.withPipe ⟨[], (List.append_nil _).symm, by simp⟩
  | setClasses classes => exact h
  | useEndpoints m =>
    exact post_stable UsbDevice.Awake.stable (foreign_useEndpoints m) h
  | setSelfPowered b => exact ⟨h.deviceState, h.remembered, h.calls⟩

theorem bracketed_perform {s : Session B C} (h : s.device.Bracketed) (input : DeviceInput B C) :
    Post True input.perform (fun _ t => t.device.Bracketed) s := by
  by_cases hPoll : input = .poll
  · subst hPoll
    exact post_then ((bracketed_poll h).mono fun _ _ ht => ht.1) fun _ _ ht => ht
  · obtain ⟨n, hAwake | ⟨state, hAsleep⟩⟩ := h
    · exact (awake_perform hAwake hPoll).mono fun _ _ ht => ⟨n, .inl ht⟩
    · exact (asleep_perform hAsleep fun h => absurd h hPoll).mono fun _ _ ht =>
        ⟨n, .inr ⟨state, ht⟩⟩

omit [UsbClass C] in
theorem UsbDevice.Fresh.awake {d : UsbDevice B} (h : d.Fresh) : d.Awake 0 := by
  have hAlloc (dir : UsbDirection) (config : Config) (t : Traced B) :
      Post True (allocControl dir config) (fun _ t' => t'.trace = t.trace) t := by
    rw [allocControl, post_bind, post_attempt, post_true_iff]
    intro r t' hAlloc
    cases hAlloc
    dsimp only
    split
    · rfl
    · trivial
  obtain ⟨builder, bus, t, -, hBuild⟩ := h
  unfold UsbDeviceBuilder.build at hBuild
  split at hBuild
  · cases hBuild
  · have hPost : Post True (UsbDevice.build builder.config builder.controlBuffer) (fun r _ =>
        ∀ d, r = .ok d → d.Awake 0) (⟨bus, []⟩ : Traced B) := by
      rw [UsbDevice.build, post_bind]
      apply (hAlloc .out builder.config _).mono
      intro r t hTrace
      cases r with
      | error e =>
        intro d hd
        cases hd
      | ok epOut =>
        dsimp only
        rw [post_bind]
        apply (hAlloc .in_ builder.config t).mono
        intro r u hTrace'
        cases r with
        | error e =>
          intro d hd
          cases hd
        | ok epIn =>
          intro d hd
          cases hd
          refine ⟨UsbDeviceState.noConfusion, rfl, ?_⟩
          change suspensions (u.trace ++ [.enable]) = []
          rw [hTrace', hTrace]
          rfl
    exact post_of_done hPost (Except.ok.inj hBuild) d rfl

theorem Session.Reachable.bracketed {s : Session B C} (h : s.Reachable) : s.device.Bracketed := by
  obtain ⟨d, classes, hFresh, hReaches⟩ := h
  exact hReaches.invariant (I := fun s => s.device.Bracketed) ⟨0, .inl hFresh.awake⟩
    fun input _ ht => bracketed_perform ht input

/-- Suspend and resume bracket correctly, at every state of every run. -/
theorem suspend_brackets {s : Session B C} (h : s.Reachable) :
    (s.device.deviceState = .suspend ↔ s.device.suspendedDeviceState.isSome = true) ∧
    s.device.suspendedDeviceState ≠ some .suspend ∧
    (s.device.deviceState = .suspend → ∃ t, (Session.leaveSuspend : SessionM B C Unit)
      { s with device := s.device.polled } = .done (.ok ()) t) ∧
    (∃ n, suspensions s.device.control.bus.trace = alternation n) ∧
    (s.device.deviceState = .suspend → (UsbBus.poll s.device.control.bus.bus).1.Quiet →
      Session.poll s = .done (.ok false) { s with device := s.device.polled }) ∧
    (s.device.deviceState ≠ .suspend → (UsbBus.poll s.device.control.bus.bus).1 = .suspend →
      ∃ s', Session.poll s = .done (.ok false) s' ∧ s'.device.deviceState = .suspend ∧
        ∀ (inputs : List (DeviceInput B C)) (t : Session B C),
          Along DeviceInput.perform QuietPoll inputs s' →
          finalState DeviceInput.perform inputs s' = some t →
          ¬ (UsbBus.poll t.device.control.bus.bus).1.Quiet →
          Session.poll t = Session.handleEvent (UsbBus.poll t.device.control.bus.bus).1
            { t with device := t.device.polled.resumed s.device.deviceState }) ∧
    ((UsbBus.poll s.device.control.bus.bus).1 = .reset → ∀ r t, Session.poll s = .done r t →
      t.device.deviceState = .default ∧ t.device.suspendedDeviceState = none) := by
  have hBracketed := h.bracketed
  refine ⟨hBracketed.suspend_iff, hBracketed.remembered_ne, fun hState => ?_, hBracketed.alternates,
    fun hState hQuiet => ?_, fun hState hSuspend => ?_, fun hReset r t hPoll => ?_⟩
  · obtain ⟨n, state, hAsleep⟩ := hBracketed.asleep hState
    exact ⟨_, leaveSuspend_asleep hAsleep⟩
  · obtain ⟨n, state, hAsleep⟩ := hBracketed.asleep hState
    exact poll_asleep_quiet hAsleep hQuiet
  · obtain ⟨n, hAwake⟩ := hBracketed.awake hState
    have hAsleep : s.device.polled.afterSuspend.Asleep n s.device.deviceState :=
      hAwake.polled.afterSuspend
    refine ⟨{ s with device := s.device.polled.afterSuspend }, ?_, rfl,
      fun inputs t hQuiet hRun hNot => ?_⟩
    · rw [poll_awake hAwake, hSuspend]
      rfl
    · have hThroughout := throughout_of_along
        (I := fun u : Session B C => u.device.Asleep n s.device.deviceState)
        (fun input u hu hQuiet => asleep_perform hu hQuiet) hAsleep hQuiet
      exact poll_asleep (hThroughout.finalState hRun) hNot
  · exact (post_of_done (bracketed_poll hBracketed) hPoll).2 hReset

/-- A suspension that the bus ends. -/
theorem suspend_brackets_script :
    ∃ s t, Session.poll ((⟨[], [], [.suspend, .none, .resume]⟩ : ScriptBus).session []) =
        .done (.ok false) s ∧ s.device.deviceState = .suspend ∧
      finalState DeviceInput.perform [.poll] s = some t ∧
      Session.poll t = Session.handleEvent .resume
        { t with device := t.device.polled.resumed .default } := by
  have hReachable : ((⟨[], [], [.suspend, .none, .resume]⟩ : ScriptBus).session []).Reachable :=
    ⟨_, [], ScriptBus.fresh_device _, .refl⟩
  obtain ⟨s, hPoll, hState, hRun⟩ :=
    (suspend_brackets hReachable).2.2.2.2.2.1 UsbDeviceState.noConfusion rfl
  obtain ⟨t, hFinal, hQuiet, hResume⟩ : ∃ t, finalState DeviceInput.perform [.poll] s = some t ∧
      Along DeviceInput.perform QuietPoll [.poll] s ∧
      (UsbBus.poll t.device.control.bus.bus).1 = .resume := by
    cases hPoll
    exact ⟨_, rfl, ⟨fun _ => .inl rfl, fun _ _ _ => trivial⟩, rfl⟩
  have hLoud : ¬ (UsbBus.poll t.device.control.bus.bus).1.Quiet := by
    rw [hResume]
    rintro (hNone | hSuspend)
    · cases hNone
    · cases hSuspend
  have hLast := hRun [.poll] t hQuiet hFinal hLoud
  rw [hResume] at hLast
  exact ⟨s, t, hPoll, hState, hFinal, hLast⟩

end UsbStack
