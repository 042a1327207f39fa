import UsbStack.ControlTransfer
import UsbStack.SettingsHistory
import UsbStack.StandardDevice
import UsbStack.StringRequests

/-! # A device that embodies what the host sees

The relation between a device with its classes and what the host knows of it, and what keeps it:
polls that bring nothing to endpoint 0, suspensions, and whatever the classes do in between.
-/

namespace UsbStack

set_option autoImplicit false

open Foundation Exec Relation

variable {B C : Type}

/-- The host notices nothing of the event. -/
def Event.Unseen (event : Event) : Prop := ∀ lifts v, View.note lifts v event = v

theorem view_append (lifts : Bool) (trace more : List Event) :
    view lifts (trace ++ more) = more.foldl (View.note lifts) (view lifts trace) :=
  List.foldl_append

theorem view_snoc (lifts : Bool) (trace : List Event) (event : Event) :
    view lifts (trace ++ [event]) = View.note lifts (view lifts trace) event :=
  view_append lifts trace [event]

theorem view_unseen {event : Event} (h : event.Unseen) (lifts : Bool) (trace : List Event) :
    view lifts (trace ++ [event]) = view lifts trace := (view_snoc lifts trace event).trans (h _ _)

theorem view_eq {t u : Traced B} (h : Traced.Grows Event.Unseen t u) (lifts : Bool) :
    view lifts u.trace = view lifts t.trace :=
  h.foldl_eq (fun v _ hEvent => hEvent lifts v) _

theorem unseen_of_foreign {event : Event} (h : ForeignEvent event) : event.Unseen := by
  have hNot {addr : EndpointAddress} (hIndex : addr.index ≠ 0) : addr ≠ .control .in_ :=
    fun hControl => hIndex (hControl ▸ EndpointAddress.index_control .in_)
  intro lifts v
  cases event with
  | write addr data result =>
    cases result with
    | ok count => exact if_neg (hNot h)
    | error e => rfl
  | setStalled addr stalled => exact if_neg (hNot h)
  | setDeviceAddress addr => exact h.elim
  | setup req => exact h.elim
  | reset => exact h.elim
  | _ => rfl

section Calls

variable [UsbBus B] {bus bus' : B}

structure Willing (bus : B) : Prop where
  writable : Writable bus
  early : UsbBus.quirkSetAddressBeforeStatus B = true → ∀ bus', ReflTransGen SideCall bus bus' →
    ∀ addr, Writable (UsbBus.setDeviceAddress bus' addr)

theorem Willing.calls (h : Willing bus) (hCalls : ReflTransGen SideCall bus bus') :
    Willing bus' :=
  ⟨fun last hMore => h.writable last (hCalls.trans hMore),
    fun hEarly last hMore => h.early hEarly last (hCalls.trans hMore)⟩

theorem sideCalls_of_classUse {t u : Traced B} (h : ClassUse t u) :
    ReflTransGen SideCall t.bus u.bus := by
  have hOther (ep : ClassEndpoint) : ep.address ≠ .control .in_ := by
    intro hControl
    exact ep.notControl (hControl ▸ EndpointAddress.index_control .in_)
  induction h with
  | refl => exact .refl
  | tail _ hAct ih =>
    cases hAct with
    | called index call => exact ih
    | used call hDone =>
      cases call with
      | read ep len =>
        cases hDone
        exact ih.tail (.read _ _)
      | write ep data =>
        cases hDone
        exact ih.tail (.write data (hOther ep))
      | stall ep =>
        cases hDone
        exact ih.tail (.setStalled _ _)
      | unstall ep =>
        cases hDone
        exact ih.tail (.setStalled _ _)

theorem sideCalls_of_begun (p : ControlPipe B) (req : Request) :
    ReflTransGen SideCall p.bus.bus (p.begun req).2.bus.bus := by
  rcases p.begun_cases req with ⟨-, hBegun⟩ | ⟨-, hBegun⟩ | ⟨-, hBegun⟩ | ⟨-, hBegun⟩ <;>
    rw [hBegun] <;> exact .single (.setStalled _ _)

end Calls

/-- The hardware puts the bus into the state `bus` and the application changes the classes by `work`;
then a poll brings what the host does, or nothing that concerns endpoint 0. -/
structure Moment (B D : Type) where
  bus : B
  work : List D → List D
  act : Option HostAct

variable [UsbBus B]

def UsbDevice.Notices (d : UsbDevice B) : Option HostAct → Prop
  | some (.traffic traffic) => d.Sees (some traffic)
  | some .reset => ∃ e, d.event? = some (.reset, e)
  | none => d.Sees none

/-- Classes whose callbacks return and keep what the classes are described by. `S epIn` is what the
callbacks of a poll with the completions `epIn` rely on. -/
structure Backdrop [UsbClass C] (K : C → C → Prop) (S : UInt16 → C → Prop) : Prop where
  tame : ∀ epIn, Tame False K epIn (S epIn)
  reset : ∀ cls, (UsbClass.reset cls).Yields False (K cls)
  configuration : ∀ a b, K a b →
    UsbClass.getConfigurationDescriptors b = UsbClass.getConfigurationDescriptors a
  bos : ∀ a b, K a b → UsbClass.getBosDescriptors b = UsbClass.getBosDescriptors a
  string : ∀ a b, K a b → UsbClass.getString b = UsbClass.getString a

namespace Moment

def prepare (m : Moment B C) (s : Session B C) : Session B C :=
  ⟨s.device.onHardware m.bus, m.work s.classes⟩

def perform [UsbClass C] (m : Moment B C) : SessionM B C Bool := do
  modify m.prepare
  Session.poll

theorem perform_apply [UsbClass C] (m : Moment B C) (s : Session B C) :
    m.perform s = Session.poll (m.prepare s) := rfl

/-- The moment may come: the poll brings what it says, and writes on EP0-IN succeed in it. -/
structure Due (K : C → C → Prop) (S : UInt16 → C → Prop) (m : Moment B C) (s : Session B C) : Prop where
  notices : (m.prepare s).device.Notices m.act
  willing : Willing m.bus
  spared : ∀ epOut epIn epSetup e,
    (m.prepare s).device.event? = some (.data epOut epIn epSetup, e) → ∀ cls ∈ m.work s.classes, S epIn cls
  work : List.Forall₂ K s.classes (m.work s.classes)

end Moment

/-- The device is in the state, or will be when it wakes up. -/
inductive UsbDevice.Rests (state : UsbDeviceState) (d : UsbDevice B) : Prop
  | awake (hState : d.deviceState = state) (hRemembered : d.suspendedDeviceState = none)
  | asleep (hState : d.deviceState = .suspend) (hRemembered : d.suspendedDeviceState = some state)

/-- The device, which started as `start`, embodies `a`: the host has seen `seen`, and the pipe
satisfies `A`. -/
structure Embodies (lifts : Bool) (K : C → C → Prop) (start : Session B C) (a : Standing)
    (seen : List Sight) (A : ControlPipe B → Prop) (s : Session B C) : Prop where
  frame : start.device.control.SameFrame s.device.control
  config : s.device.config = start.device.config
  selfPowered : s.device.selfPowered = start.device.selfPowered
  rests : s.device.Rests a.state
  awake : a.state ≠ .suspend
  remoteWakeup : s.device.remoteWakeupEnabled = a.remoteWakeup
  pending : s.device.pendingAddress = a.pendingAddress
  view : view lifts s.device.control.bus.trace = ⟨seen, a.stalled⟩
  pipe : A s.device.control
  classes : List.Forall₂ K start.classes s.classes

namespace Embodies

variable {lifts : Bool} {K : C → C → Prop} {S : UInt16 → C → Prop} {start s t : Session B C}
  {a a' : Standing} {seen seen' : List Sight} {A A' : ControlPipe B → Prop}

omit [UsbBus B] in
/-- The pipe goes on, and the host has seen `seen'`. -/
theorem withPipe (h : Embodies lifts K start a seen A s) {q : ControlPipe B} {stalled : Bool}
    (hFrame : s.device.control.SameFrame q)
    (hView : UsbStack.view lifts q.bus.trace = ⟨seen', stalled⟩) (hq : A' q) :
    Embodies lifts K start { a with stalled := stalled } seen' A'
      { s with device := s.device.withPipe q } where
  frame := h.frame.trans hFrame
  config := h.config
  selfPowered := h.selfPowered
  rests := by
    cases h.rests with
    | awake hState hRemembered => exact .awake hState hRemembered
    | asleep hState hRemembered => exact .asleep hState hRemembered
  awake := h.awake
  remoteWakeup := h.remoteWakeup
  pending := h.pending
  view := hView
  pipe := hq
  classes := h.classes

omit [UsbBus B] in
/-- The pipe goes on, and the host sees nothing of it. -/
theorem withQuietPipe (h : Embodies lifts K start a seen A s) {q : ControlPipe B}
    (hFrame : s.device.control.SameFrame q)
    (hView : UsbStack.view lifts q.bus.trace = UsbStack.view lifts s.device.control.bus.trace)
    (hq : A' q) :
    Embodies lifts K start a seen A' { s with device := s.device.withPipe q } :=
  h.withPipe hFrame (hView.trans h.view) hq

omit [UsbBus B] in
theorem withBus (hA : Busless A) (h : Embodies lifts K start a seen A s) {u : Traced B}
    (hView : UsbStack.view lifts u.trace = UsbStack.view lifts s.device.control.bus.trace) :
    Embodies lifts K start a seen A { s with device := s.device.withBus u } :=
  h.withQuietPipe ⟨rfl, rfl, rfl⟩ hView (hA _ u h.pipe)

theorem kept (hK : ∀ a b c, K a b → K b c → K a c) (hA : Busless A)
    (h : Embodies lifts K start a seen A s) (hKept : s.Kept K t) :
    Embodies lifts K start a seen A t := by
  obtain ⟨u, hUse, hDevice⟩ := hKept.device
  have hView : UsbStack.view lifts u.trace = UsbStack.view lifts s.device.control.bus.trace :=
    view_eq (hUse.grows.mono fun _ => unseen_of_foreign) lifts
  have hNow := h.withBus hA hView
  rw [← hDevice] at hNow
  exact ⟨hNow.frame, hNow.config, hNow.selfPowered, hNow.rests, hNow.awake, hNow.remoteWakeup,
    hNow.pending, hNow.view, hNow.pipe, forall₂_trans hK h.classes hKept.classes⟩

omit [UsbBus B] in
theorem deviceState (h : Embodies lifts K start a seen A s)
    (hAwake : s.device.deviceState ≠ .suspend) :
    s.device.deviceState = a.state ∧ s.device.suspendedDeviceState = none := by
  cases h.rests with
  | awake hState hRemembered => exact ⟨hState, hRemembered⟩
  | asleep hState _ => exact absurd hState hAwake

/-- When an event is handled the device is awake. -/
theorem event (hA : Busless A) (h : Embodies lifts K start a seen A s) {pr : PollResult}
    {e : UsbDevice B} (hEvent : s.device.event? = some (pr, e)) :
    Embodies lifts K start a seen A { s with device := e } ∧ e.deviceState ≠ .suspend := by
  have hPolled : Embodies lifts K start a seen A { s with device := s.device.polled } :=
    h.withBus hA (view_unseen (fun _ _ => rfl) lifts _)
  obtain ⟨-, ⟨hState, rfl⟩ | ⟨hState, -, state, hRemembered, rfl⟩⟩ := UsbDevice.event?_cases hEvent
  · exact ⟨hPolled, hState⟩
  · have hSame : state = a.state := by
      cases h.rests with
      | awake hAwake _ => exact absurd (hAwake.symm.trans hState) h.awake
      | asleep _ hSome => exact Option.some.inj (hRemembered.symm.trans hSome)
    subst hSame
    let woken : Traced B := ⟨UsbBus.resume s.device.polled.control.bus.bus,
      s.device.polled.control.bus.trace ++ [.resume]⟩
    have hResumed := hPolled.withBus hA (u := woken) (view_unseen (fun _ _ => rfl) lifts _)
    exact ⟨⟨hResumed.frame, h.config, h.selfPowered, .awake rfl rfl, h.awake, h.remoteWakeup,
      h.pending, hResumed.view, hResumed.pipe, h.classes⟩, h.awake⟩

theorem afterSuspend (hA : Busless A) (h : Embodies lifts K start a seen A s)
    (hAwake : s.device.deviceState ≠ .suspend) :
    Embodies lifts K start a seen A { s with device := s.device.afterSuspend } := by
  let asleep : Traced B :=
    ⟨UsbBus.suspend s.device.control.bus.bus, s.device.control.bus.trace ++ [.suspend]⟩
  have hSuspended := h.withBus hA (u := asleep) (view_unseen (fun _ _ => rfl) lifts _)
  have hState := (h.deviceState hAwake).1
  exact ⟨hSuspended.frame, h.config, h.selfPowered, .asleep rfl (congrArg some hState), h.awake,
    h.remoteWakeup, h.pending, hSuspended.view, hSuspended.pipe, h.classes⟩

variable {m : Moment B C}

theorem prepare (hK : ∀ a b c, K a b → K b c → K a c) (hA : Busless A)
    (h : Embodies lifts K start a seen A s) (hDue : m.Due K S s) :
    Embodies lifts K start a seen A (m.prepare s) := by
  have hHardware : Embodies lifts K start a seen A
      { s with device := s.device.onHardware m.bus } := h.withBus hA rfl
  exact hHardware.kept hK hA ⟨foreign_refl _, hDue.work⟩

variable [UsbClass C]

/-- A poll that brings nothing for endpoint 0 keeps what the device embodies. -/
theorem unmoved (hBackdrop : Backdrop K S) (hA : Busless A) :
    Unmoved (Moment.perform : Moment B C → SessionM B C Bool) (Moment.Due K S) Moment.act
      (Embodies lifts K start a seen A) := by
  intro m s hLabel hDue hs
  have hTrans := (hBackdrop.tame 0).trans
  have hNotices := hDue.notices
  rw [hLabel] at hNotices
  have hStart := hs.prepare hTrans hA hDue
  rw [Post, Moment.perform_apply]
  rcases hNotices with ⟨hState, hQuiet⟩ | ⟨pr, e, hEvent, hElsewhere⟩
  · rw [poll_of_quiet hState hQuiet]
    exact hStart.withBus hA (view_unseen (fun _ _ => rfl) lifts _)
  · obtain ⟨he, hAwake⟩ := hStart.event hA hEvent
    rw [poll_of_event hEvent]
    cases pr with
    | none => exact he
    | resume => exact he
    | reset => exact hElsewhere.elim
    | suspend => exact he.afterSuspend hA hAwake
    | data epOut epIn epSetup =>
      have hData : Post False (Session.pollData epOut epIn epSetup)
          (fun r t => r = .ok () ∧ Embodies lifts K start a seen A t)
          { m.prepare s with device := e } := by
        refine (hBackdrop.tame epIn).pollData (fun t u ht hKept => ht.kept hTrans hA hKept)
          (fun hBit => absurd hElsewhere hBit) fun _ => ⟨he, ?_⟩
        exact hDue.spared _ _ _ _ hEvent
      refine (post_bind (Session.pollData epOut epIn epSetup) (fun _ => pure true) _).mpr
        (hData.mono ?_)
      rintro r t ⟨rfl, ht⟩
      exact ht

/-- A poll that brings traffic leads on if the handling of endpoint 0 does. -/
theorem leads (hBackdrop : Backdrop K S) (hA : Busless A) (hA' : Busless A') {traffic : Traffic}
    (hControl : ∀ (s : Session B C) (epOut epIn epSetup : UInt16),
      Embodies lifts K start a seen A s → s.device.deviceState ≠ .suspend →
      Willing s.device.control.bus.bus →
      traffic.Brought s.device.control.bus.bus epOut epIn epSetup →
      Post False (Session.pollControl epOut epIn epSetup) (fun r t => r = .ok () ∧
        Embodies lifts K start a' seen' A' t ∧ List.Forall₂ K s.classes t.classes) s) :
    Leads (Moment.perform : Moment B C → SessionM B C Bool) (Moment.Due K S) Moment.act
      (Embodies lifts K start a seen A) [.traffic traffic]
      (Embodies lifts K start a' seen' A') := by
  refine leads_single (unmoved hBackdrop hA) (unmoved hBackdrop hA') ?_
  intro m s hLabel hDue hs
  have hTrans := (hBackdrop.tame 0).trans
  have hNotices := hDue.notices
  rw [hLabel] at hNotices
  obtain ⟨epOut, epIn, epSetup, e, hEvent, hBrought⟩ := hNotices
  obtain ⟨t, hPipe, -, hCalls⟩ := UsbDevice.bus_of_event hEvent
  obtain ⟨he, hAwake⟩ := (hs.prepare hTrans hA hDue).event hA hEvent
  have hWilling : Willing e.control.bus.bus := by
    rw [hPipe]
    exact hDue.willing.calls hCalls
  have hTame := hBackdrop.tame epIn
  have hData : Post False (Session.pollData epOut epIn epSetup)
      (fun r t => r = .ok () ∧ Embodies lifts K start a' seen' A' t)
      { m.prepare s with device := e } := by
    refine hTame.pollData (fun t u ht hKept => ht.kept hTrans hA' hKept) (fun _ => ?_)
      fun hZero => absurd hZero hBrought.bit
    apply (hControl _ epOut epIn epSetup he hAwake hWilling hBrought).mono
    rintro r t ⟨rfl, ht, hClasses⟩
    refine ⟨rfl, ht, fun cls hCls => ?_⟩
    obtain ⟨before, hBefore, hKept⟩ := exists_kept hClasses hCls
    exact hTame.keeps _ _ (hDue.spared _ _ _ _ hEvent before hBefore) hKept
  rw [Post, Moment.perform_apply, poll_of_event hEvent]
  refine (post_bind (Session.pollData epOut epIn epSetup) (fun _ => pure true) _).mpr
    (hData.mono ?_)
  rintro r t ⟨rfl, ht⟩
  exact ht

end Embodies

end UsbStack
