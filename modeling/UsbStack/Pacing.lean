import UsbStack.InTurn

/-! # One packet at a time on EP0-IN

An IN endpoint has room for one packet. Once the bus has taken a packet, the device offers the next one
only after a poll that reports EP0-IN complete, or that brings a new SETUP packet. A packet that the
host has not fetched when the SETUP packet comes is not waited for.
-/

namespace UsbStack

set_option autoImplicit false

open Foundation Exec ControlPipe

/-- Whether the bus has taken a packet on EP0-IN since the last report of EP0-IN complete or of a SETUP
packet, before the event and after it. -/
def unreportedAfter (now : Bool) : Event → Bool
  | .write addr _ (.ok _) => now || addr = .control .in_
  | .poll (.data _ epIn epSetup) => now && epIn &&& 1 = 0 && epSetup &&& 1 = 0
  | _ => now

def unreported (trace : List Event) : Bool := trace.foldl unreportedAfter false

theorem unreported_snoc (trace : List Event) (event : Event) :
    unreported (trace ++ [event]) = unreportedAfter (unreported trace) event := by
  rw [unreported, List.foldl_append]
  rfl

/-- If the event offers a packet to EP0-IN then none was taken there since the last report. -/
def Paced (before : List Event) : Event → Prop
  | .write addr _ _ => addr = .control .in_ → unreported before = false
  | _ => True

def ApartEvent : Event → Prop
  | .write addr _ _ => addr ≠ .control .in_
  | _ => True

theorem apartEvent_of_background {event : Event} (h : BackgroundEvent event) : ApartEvent event := by
  cases event with
  | write addr packet result => exact fun hControl => h (hControl ▸ EndpointAddress.index_control .in_)
  | _ => trivial

theorem apartEvent_of_foreign {event : Event} (h : ForeignEvent event) : ApartEvent event :=
  apartEvent_of_background (backgroundEvent_of_foreign h)

theorem paced_of_apart {before : List Event} {event : Event} (h : ApartEvent event) :
    Paced before event := by
  cases event with
  | write addr packet result => exact fun hControl => absurd hControl h
  | _ => trivial

theorem unreportedAfter_of_apart {event : Event} (h : ApartEvent event) : unreportedAfter false event = false := by
  cases event with
  | write addr packet result =>
    cases result with
    | error e => rfl
    | ok count => exact decide_eq_false h
  | poll pr => cases pr <;> rfl
  | _ => rfl

variable {B C : Type}

theorem Traced.Grows.vacant {t u : Traced B} (h : t.Grows ApartEvent u)
    (hVacant : unreported t.trace = false) : unreported u.trace = false := by
  obtain ⟨events, hTrace, hApart⟩ := h
  rw [hTrace, unreported, List.foldl_append]
  change events.foldl unreportedAfter (unreported t.trace) = false
  rw [hVacant]
  clear hTrace
  induction events with
  | nil => rfl
  | cons event rest ih =>
    rw [List.foldl_cons, unreportedAfter_of_apart (hApart event List.mem_cons_self)]
    exact ih fun other hOther => hApart other (List.mem_cons_of_mem _ hOther)

variable [UsbBus B]

namespace ControlPipe

variable {p q : ControlPipe B}

def Engaged : ControlState → Prop
  | .completeIn _ | .dataOut _ | .completeOut => True
  | _ => False

/-- Every packet on EP0-IN waited for a report, and while the pipe has a request to answer none has
been taken since the last report. -/
structure Patient (p : ControlPipe B) : Prop where
  epIn : p.epIn.address = .control .in_
  paced : Causal Paced p.bus.trace
  vacant : Engaged p.state → unreported p.bus.trace = false

theorem apart_errored (p : ControlPipe B) : p.bus.Grows ApartEvent p.errored.bus :=
  ⟨[.setStalled p.epOut.address true, .setStalled p.epIn.address true],
    List.append_assoc _ [_] [_], by simp [ApartEvent]⟩

namespace Patient

omit [UsbBus B] in
theorem apart (h : p.Patient) (hEpIn : q.epIn = p.epIn) (hGrows : p.bus.Grows ApartEvent q.bus)
    (hVacant : Engaged q.state → unreported p.bus.trace = false) : q.Patient := by
  refine ⟨hEpIn ▸ h.epIn, ?_, fun hEngaged => hGrows.vacant (hVacant hEngaged)⟩
  obtain ⟨events, hTrace, hEvents⟩ := hGrows
  rw [hTrace]
  exact h.paced.append fun event hEvent _ => paced_of_apart (hEvents event hEvent)

theorem wrote (h : p.Patient) (hVacant : unreported p.bus.trace = false) {packet : List UInt8}
    (hEpIn : q.epIn = p.epIn) (hBus : q.bus = p.bus.writing p.epIn.address packet)
    (hRefused : Engaged q.state →
      ∃ e, (UsbBus.write p.bus.bus p.epIn.address packet).1 = .error e) : q.Patient := by
  have hTrace : q.bus.trace = p.bus.trace ++
      [.write (.control .in_) packet (UsbBus.write p.bus.bus p.epIn.address packet).1] := by
    rw [hBus, Traced.trace_writing, h.epIn]
  refine ⟨hEpIn ▸ h.epIn, ?_, fun hEngaged => ?_⟩
  · rw [hTrace]
    exact h.paced.snoc fun _ => hVacant
  · obtain ⟨e, hWrite⟩ := hRefused hEngaged
    rw [hTrace, unreported_snoc, hWrite]
    exact hVacant

theorem transmitted (h : p.Patient) (hVacant : unreported p.bus.trace = false)
    (hSent : p.Transmitted q) : q.Patient := by
  obtain ⟨chunk, hBus⟩ := hSent.bus
  refine h.wrote hVacant hSent.epIn hBus fun hEngaged => ?_
  have hState := hSent.state
  generalize q.state = state at hState hEngaged
  cases state <;> first | exact hState.elim | exact hEngaged.elim

theorem answersIn (h : p.Patient) (hAnswers : p.AnswersIn q) : q.Patient := by
  cases hAnswers with
  | kept buf _ => exact ⟨h.epIn, h.paced, h.vacant⟩
  | errored buf _ _ =>
    exact h.apart rfl (apart_errored { p with buf := buf }) fun hEngaged => hEngaged.elim
  | transmitted hState hSent => exact h.transmitted (h.vacant (hState ▸ trivial)) hSent

theorem acceptsOut (h : p.Patient) {r : Except UsbError Unit} (hAccepts : p.AcceptsOut r q) :
    q.Patient := by
  cases hAccepts with
  | unexpected _ => exact h
  | refused hState hWrite => exact h.wrote (h.vacant (hState ▸ trivial)) rfl rfl fun _ => ⟨_, hWrite⟩
  | accepted hState =>
    exact h.wrote (h.vacant (hState ▸ trivial)) rfl rfl fun hEngaged => hEngaged.elim

theorem completes (h : p.Patient) (hVacant : unreported p.bus.trace = false) {r : Except UsbError Bool}
    (hCompletes : p.Completes r q) : q.Patient := by
  cases hCompletes with
  | ignored _ => exact h
  | transmitted _ hSent _ => exact h.transmitted hVacant hSent
  | last _ => exact h.apart rfl (.single rfl trivial) fun hEngaged => hEngaged.elim
  | status _ => exact h.apart rfl (.refl _) fun hEngaged => hEngaged.elim

end Patient

theorem apart_begun (p : ControlPipe B) (req : Request) :
    p.bus.Grows ApartEvent (p.begun req).2.bus := by
  have hUnstalled : p.bus.Grows ApartEvent (p.bus.stalling p.epOut.address false) :=
    .single rfl trivial
  have hNoted : p.bus.Grows ApartEvent (p.noted req) :=
    Traced.Grows.trans _ _ _ hUnstalled (.single rfl trivial)
  rcases p.begun_cases req with ⟨-, hBegun⟩ | ⟨-, hBegun⟩ | ⟨-, hBegun⟩ | ⟨-, hBegun⟩ <;> rw [hBegun]
  · exact hUnstalled
  · exact hNoted
  · exact hNoted
  · exact hNoted

/-- What arrives on EP0-OUT offers nothing to EP0-IN. -/
theorem Receives.apart {epSetup : UInt16} {found : Option Request} (h : Receives epSetup p found q) :
    p.bus.Grows ApartEvent q.bus := by
  have hAsked (len : Nat) : p.bus.Grows ApartEvent (p.asked len).bus := .single rfl trivial
  have hLoaded (start : Nat) (packet : List UInt8) :
      p.bus.Grows ApartEvent (p.loaded start packet).bus := .single rfl trivial
  cases h with
  | nothing => exact .refl _
  | unread len => exact hAsked len
  | unparsed packet _ => exact hLoaded 0 packet
  | setup packet req _ _ _ _ => exact Traced.Grows.trans _ _ _ (hLoaded 0 packet) (apart_begun _ req)
  | failed req len _ => exact Traced.Grows.trans _ _ _ (hAsked len) (apart_errored _)
  | more req packet _ _ => exact hLoaded p.i packet
  | complete req packet _ _ => exact hLoaded p.i packet
  | status _ => exact hAsked 0
  | unexpected _ => exact Traced.Grows.trans _ _ _ (hAsked 0) (apart_errored _)

/-- A request is taken up with a SETUP packet, or has been there before. -/
theorem Receives.engaged {epSetup : UInt16} {found : Option Request} (h : Receives epSetup p found q)
    (hEngaged : Engaged q.state) : epSetup &&& 1 ≠ 0 ∨ Engaged p.state := by
  cases h with
  | nothing | unread _ | unparsed _ _ => exact .inr hEngaged
  | setup packet req hBit _ _ _ => exact .inl hBit
  | more req packet hState _ | complete req packet hState _ => exact .inr (hState ▸ trivial)
  | failed _ _ _ | status _ | unexpected _ => exact hEngaged.elim

theorem Patient.receives (h : p.Patient) {epSetup : UInt16}
    (hVacant : epSetup &&& 1 ≠ 0 → unreported p.bus.trace = false) {found : Option Request}
    (hReceives : p.Receives epSetup found q) : q.Patient :=
  h.apart hReceives.frame.epIn hReceives.apart fun hEngaged =>
    (hReceives.engaged hEngaged).elim hVacant h.vacant

end ControlPipe

def UsbDevice.Patient (d : UsbDevice B) : Prop := d.control.Patient

section Device

variable {d e : UsbDevice B} {s : Session B C}

omit [UsbBus B] in
theorem UsbDevice.Patient.apart (h : d.Patient) {t : Traced B}
    (hGrows : d.control.bus.Grows ApartEvent t) : (d.withBus t).Patient :=
  ControlPipe.Patient.apart h rfl hGrows h.vacant

theorem background_patient : Background (UsbDevice.Patient : UsbDevice B → Prop) where
  events _ _ h hGrows := h.apart (hGrows.mono fun _ => apartEvent_of_background)
  resume _ _ h _ := h
  suspend _ h _ := h
  reset _ h := ControlPipe.Patient.apart h rfl (.single rfl trivial) fun hEngaged => hEngaged.elim
  selfPowered _ _ h := h

/-- A report of EP0-IN, or of a SETUP packet, leaves no packet unreported. -/
theorem vacant_of_event {epOut epIn epSetup : UInt16}
    (hEvent : d.event? = some (.data epOut epIn epSetup, e))
    (hBit : epIn &&& 1 ≠ 0 ∨ epSetup &&& 1 ≠ 0) : unreported e.control.bus.trace = false := by
  have hPolled : unreported (d.control.bus.trace ++ [.poll (.data epOut epIn epSetup)]) = false := by
    rw [unreported_snoc]
    rcases hBit with hIn | hSetup
    · simp [unreportedAfter, hIn]
    · simp [unreportedAfter, hSetup]
  obtain ⟨hResult, ⟨-, rfl⟩ | ⟨-, -, state, -, rfl⟩⟩ := UsbDevice.event?_cases hEvent
  · rw [hResult] at hPolled
    exact hPolled
  · rw [hResult] at hPolled
    change unreported ((d.control.bus.trace ++ [_]) ++ [.resume]) = false
    rw [unreported_snoc]
    exact hPolled

variable [UsbClass C]

theorem UsbDevice.Patient.controlStep {req : Request} {allowed : UsbDevice B → Prop}
    (hStep : ControlStep B C req allowed d e) (h : d.Patient) : e.Patient := by
  cases hStep with
  | foreign hGrows => exact h.apart (hGrows.mono fun _ => apartEvent_of_foreign)
  | answer hAnswers => exact ControlPipe.Patient.answersIn h hAnswers
  | acceptOut _ hAccepts => exact ControlPipe.Patient.acceptsOut h hAccepts
  | setHalt stalled _ => exact h.apart (.single rfl trivial)
  | setAddress _ _ hTrace => exact h.apart (.single hTrace trivial)
  | _ => exact h

theorem patient_pollControl {epOut epIn epSetup : UInt16} (h : s.device.Patient)
    (hVacant : epIn &&& 1 ≠ 0 ∨ epSetup &&& 1 ≠ 0 → unreported s.device.control.bus.trace = false) :
    Post True (Session.pollControl epOut epIn epSetup) (fun _ t => t.device.Patient) s := by
  have hReceived {found : Option Request} {p : ControlPipe B}
      (hReceive : Session.receive epOut epSetup s.device.control = .done (.ok found) p) : p.Patient :=
    ControlPipe.Patient.receives h (fun hSetup => hVacant (.inr hSetup)) (.of_receive hReceive)
  refine post_pollControl (fun req p hReceive => ?_) (fun p hReceive => hReceived hReceive)
    fun p hReceive hIn => ?_
  · apply (sessionSteps_dispatch _).mono
    exact fun _ t hSteps => ControlSteps.invariant (I := UsbDevice.Patient) hSteps
      (fun _ _ hStep hd => hd.controlStep hStep) (hReceived hReceive)
  · have hNone : unreported p.bus.trace = false :=
      (Receives.of_receive hReceive).apart.vacant (hVacant (.inl hIn))
    refine post_completeIn (fun r q hDone => (hReceived hReceive).completes hNone hDone)
      fun q hDone _ _ => ?_
    have hCompleted : (s.device.withPipe q).Patient := (hReceived hReceive).completes hNone hDone
    exact hCompleted.apart (.single rfl trivial)

theorem patient_perform (hWell : s.device.WellFormed) (h : s.device.Patient)
    (input : DeviceInput B C) : Post True input.perform (fun _ t => t.device.Patient) s := by
  cases input with
  | poll =>
    refine post_then (post_poll_of_background background_patient background_patient.stable
      (fun _ => id) hWell h fun epOut epIn epSetup d hEvent hd => ?_) fun _ _ ht => ht
    exact patient_pollControl hd (vacant_of_event hEvent)
  | _ => exact post_perform_of_background background_patient h nofun

/-- In every run the device offers a packet to EP0-IN only if none was taken there since the last
report of EP0-IN complete or of a SETUP packet. -/
theorem one_packet_at_a_time [UsbBus.Contract B] (h : s.Reachable) :
    Causal Paced s.device.control.bus.trace := by
  obtain ⟨d, classes, hFresh, hReaches⟩ := h
  have hFirst : d.control.Patient := by
    refine ⟨hFresh.initial.wellFormed.epIn, ?_, ?_⟩
    · rw [hFresh.initial.trace]
      exact causal_nil.snoc trivial
    · rw [hFresh.initial.idle]
      exact False.elim
  have hBoth := hReaches.invariant (I := fun t => t.device.WellFormed ∧ t.device.Patient)
    ⟨hFresh.initial.wellFormed, hFirst⟩
    fun input t ht => (wellFormed_perform ht.1 input).and (patient_perform ht.1 ht.2 input)
  exact hBoth.2.paced

end Device

/-- The last of the three packets of the device descriptor has not been reported. -/
theorem one_packet_at_a_time_descriptor :
    (accepted (.control .in_) describingSession.device.control.bus.trace).length = 3 ∧
    unreported describingSession.device.control.bus.trace = true ∧
    Causal Paced describingSession.device.control.bus.trace := by
  have hFinal : finalState DeviceInput.perform describingInputs describingStart =
      some describingSession := (Option.some_get _).symm
  have hReachable : describingSession.Reachable :=
    ⟨_, _, fresh_describingDevice, reaches_of_finalState hFinal⟩
  exact ⟨by decide +kernel, by decide +kernel, one_packet_at_a_time hReachable⟩

end UsbStack
