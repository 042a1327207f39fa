import UsbStack.DeviceAnswers
import UsbStack.TestCallbacks

/-! # The host and the device it sees

A host that makes control transfers without OUT data and resets the bus sees the device that the
profile describes, whatever the classes do meanwhile and however often the device is suspended.
-/

namespace UsbStack

set_option autoImplicit false

open Foundation Exec Relation

variable {B C : Type} [UsbBus B] [UsbClass C]

theorem unseen_unstall : (Event.setStalled (.control .out) false).Unseen := fun _ _ => rfl

namespace ControlPipe

variable {p : ControlPipe B} {req : Request} {packet : List UInt8} {epOut epSetup : UInt16}

/-- A SETUP packet for a request without OUT data hands the request out at once. -/
theorem receive_plain (lifts : Bool) (hEquipped : p.Equipped) (hBare : p.Bare) (hBit : epSetup &&& 1 ≠ 0)
    (hHands : HandsOut p.bus.bus packet) (hParse : Request.parse packet = .ok req)
    (hEmpty : req.direction = .out → req.length = 0) :
    ∃ q, Session.receive epOut epSetup p = .done (.ok (some req)) q ∧ p.SameFrame q ∧
      view lifts q.bus.trace = (view lifts p.bus.trace).heard lifts ∧ q.Received req ∧
      ReflTransGen SideCall p.bus.bus q.bus.bus := by
  have hReceive : Session.receive epOut epSetup p = _ :=
    receive_setup hBit hEquipped.epOut hEquipped.room hHands hParse
  have hRead : SideCall p.bus.bus (p.loaded 0 packet).bus.bus := .read _ _
  have hCalls := (ReflTransGen.single hRead).trans (sideCalls_of_begun (p.loaded 0 packet) req)
  have hNoted : view lifts ((p.loaded 0 packet).noted req).trace =
      (view lifts p.bus.trace).heard lifts := by
    change view lifts (((p.bus.trace ++ [.read _ _ _]) ++ [.setStalled p.epOut.address false]) ++
      [.setup req]) = _
    rw [view_snoc, hEquipped.epOut, view_unseen unseen_unstall, view_unseen fun _ _ => rfl]
    rfl
  have hFrame := (Receives.of_receive hReceive).frame.toSameFrame
  cases hDirection : req.direction with
  | in_ =>
    rw [begun_of_in hDirection] at hReceive hCalls hFrame
    refine ⟨_, hReceive, hFrame, hNoted, ⟨?_, hBare, fun hOut => ?_⟩, hCalls⟩
    · unfold Awaits
      rw [hDirection]
    · rw [hDirection] at hOut
      cases hOut
  | out =>
    rw [begun_of_empty hDirection (hEmpty hDirection)] at hReceive hCalls hFrame
    refine ⟨_, hReceive, hFrame, hNoted, ⟨?_, hBare, fun _ => Nat.zero_le _⟩, hCalls⟩
    unfold Awaits
    rw [hDirection]

end ControlPipe

namespace Embodies

variable {lifts : Bool} {K : C → C → Prop} {S : UInt16 → C → Prop} {start : Session B C}
  {a a' : Standing} {seen seen' : List Sight} {A' : ControlPipe B → Prop} {req : Request}
  {packet : List UInt8}

/-- A request that the classes leave to a device which can describe itself. -/
structure Plain (K : C → C → Prop) (start : Session B C) (req : Request) : Prop where
  device : req.recipient = .device
  empty : req.direction = .out → req.length = 0
  left : ∀ cls : C, LeavesRequest K req cls
  legible : req.request = Request.getDescriptor →
    ∀ f, descriptorWriter start.device.config start.classes req = some f →
      Legible start.device.control.buf.length f

variable (K S) in
/-- Moments that bring what the host does lead from states with `Q` to states with `Q'`. -/
abbrev Brings (Q : Session B C → Prop) (acts : List HostAct) (Q' : Session B C → Prop) : Prop :=
  Leads (Moment.perform : Moment B C → SessionM B C Bool) (Moment.Due K S) Moment.act Q acts Q'

/-- A SETUP packet is taken up and answered as the standard device answers it. -/
theorem leads_setup (hBackdrop : Backdrop K S) (hBase : start.device.control.Equipped)
    (hPlain : Plain K start req) (hParse : Request.parse packet = .ok req) (hA' : Busless A')
    (hResponse : ∀ t,
      Responded lifts K start (a.heard lifts) seen req t ((start.profile lifts).reply a req) →
        Embodies lifts K start a' seen' A' t) :
    Brings K S (Embodies lifts K start a seen ControlPipe.Bare) [.traffic (.setup packet)]
      (Embodies lifts K start a' seen' A') := by
  refine leads hBackdrop ControlPipe.busless_bare hA' ?_
  intro s epOut epIn epSetup hs hAwake hWilling ⟨hBit, hHands⟩
  have hTame := hBackdrop.tame 0
  obtain ⟨p, hReceive, hFrame, hView, hReceived, hCalls⟩ :=
    @ControlPipe.receive_plain B _ _ req packet epOut _ lifts (hBase.frame hs.frame) hs.pipe hBit
      hHands hParse hPlain.empty
  rw [hs.view] at hView
  have hTaken : Embodies lifts K start (a.heard lifts) seen (ControlPipe.Received req)
      { s with device := s.device.withPipe p } := hs.withPipe hFrame hView hReceived
  obtain ⟨u, hKept, -, hDispatch⟩ := dispatch_of_left hPlain.left
    (s := { s with device := s.device.withPipe p }) ⟨hReceived.awaits, hReceived.data⟩
  have hu := hTaken.kept hTame.trans (ControlPipe.busless_received req) hKept
  obtain ⟨bus, hUse, hForeign⟩ := hKept.device
  have hStill : u.device.deviceState ≠ .suspend := by
    rw [hForeign]
    exact hAwake
  have hStillWilling : Willing u.device.control.bus.bus := by
    rw [hForeign]
    exact hWilling.calls (hCalls.trans (sideCalls_of_classUse hUse))
  have hAnswer := hu.answers hBackdrop hBase hStill hStillWilling hPlain.device hPlain.legible
  obtain ⟨r, t, hDone, hResponded, hClasses⟩ := post_false_iff.mp hAnswer
  have hOnPipe : (Session.onPipe (Session.receive epOut epSetup) : SessionM B C _) s =
      .done (.ok (some req)) { s with device := s.device.withPipe p } := Session.onPipe_of_done hReceive
  have hPoll : Session.pollControl epOut epIn epSetup s = .done (.ok ()) t := by
    rw [Session.pollControl, bind_of_ok hOnPipe]
    dsimp only
    rw [bind_of_ok (attempt_of_done (hDispatch.trans hDone))]
    rfl
  rw [Post, hPoll]
  exact ⟨rfl, hResponse t hResponded, hClasses.symm ▸ hKept.classes⟩

/-- The host has taken a packet, and the next one is handed to the bus. -/
theorem leads_taken (hBackdrop : Backdrop K S) (hBase : start.device.control.Equipped)
    (hClear : a.stalled = false) (seen : List Sight) (left : List (List UInt8)) :
    Brings K S (Embodies lifts K start a seen (ControlPipe.Owing left)) [.traffic .inComplete]
      (Embodies lifts K start a (seen ++ (left.take 1).map .packet)
        (ControlPipe.Owing (left.drop 1))) := by
  refine leads hBackdrop (ControlPipe.busless_owing left) (ControlPipe.busless_owing _) ?_
  rintro s epOut epIn epSetup hs - hWilling ⟨hSetup, hOut, hIn⟩
  have hNow := hBase.frame hs.frame
  have hSending := hs.pipe.sending
  suffices hHandled : ∃ r q, ControlPipe.handleInComplete s.device.control = .done r q ∧
      UsbStack.view lifts q.bus.trace = ⟨seen ++ (left.take 1).map .packet, a.stalled⟩ ∧
      q.Sending ∧ q.pending = left.drop 1 by
    obtain ⟨r, q, hHandle, hView, hStill, hLeft⟩ := hHandled
    have hCompletes := ControlPipe.completes_of_handleInComplete hHandle
    rw [Post, pollControl_of_completed (ControlPipe.receive_nothing hSetup hOut) hIn hHandle
      (hCompletes.ne_true hSending)]
    have hOwing : q.Owing (left.drop 1) :=
      ⟨hStill, hLeft, ControlPipe.bare_handleInComplete.of_done hHandle hs.pipe.bare⟩
    exact ⟨rfl, hs.withPipe hCompletes.frame.toSameFrame hView hOwing,
      List.forall₂_same.mpr fun cls _ => (hBackdrop.tame 0).refl cls⟩
  cases left with
  | nil =>
    obtain ⟨q, hHandle, hState, -, hBus⟩ :=
      ControlPipe.handleInComplete_sentAll hSending hs.pipe.pending
    refine ⟨_, q, hHandle, ?_, ?_, ?_⟩
    · rw [List.take_nil, List.map_nil, List.append_nil, ← hs.view]
      rcases hBus with hSame | hUnstalled
      · rw [hSame]
      · rw [hUnstalled, hNow.epOut]
        exact view_unseen unseen_unstall lifts _
    · unfold ControlPipe.Sending
      rw [hState]
      trivial
    · unfold ControlPipe.pending
      rw [hState]
      rfl
  | cons packet rest =>
    have hWritable := hWilling.writable
    obtain ⟨r, q, hHandle, hSent⟩ := ControlPipe.handleInComplete_sent hNow.size hSending
      hs.pipe.pending fun count hCount => by
        rw [hNow.epIn, hWritable.write] at hCount
        exact (Except.ok.inj hCount).symm
    have hLeft := hSent.pending
    rw [hNow.epIn, hWritable.write] at hLeft
    refine ⟨r, q, hHandle, ?_, hSent.sending, hLeft⟩
    rw [hSent.bus, hNow.epIn, ControlPipe.view_writing lifts hWritable, hs.view, View.sent, hClear]
    rfl

theorem leads_takenAll (hBackdrop : Backdrop K S) (hBase : start.device.control.Equipped)
    (hClear : a.stalled = false) (seen : List Sight) (count : Nat) (left : List (List UInt8)) :
    Brings K S (Embodies lifts K start a seen (ControlPipe.Owing left))
      (List.replicate count (.traffic .inComplete))
      (Embodies lifts K start a (seen ++ (left.take count).map .packet)
        (ControlPipe.Owing (left.drop count))) := by
  induction count generalizing seen left with
  | zero =>
    rw [List.take_zero, List.map_nil, List.append_nil]
    exact leads_nil (unmoved hBackdrop (ControlPipe.busless_owing left))
  | succ count ih =>
    have hRest := (leads_taken hBackdrop hBase hClear seen left).cons (ih _ (left.drop 1))
    have hTaken : left.take 1 ++ (left.drop 1).take count = left.take (count + 1) := by
      rw [Nat.add_comm, List.take_add]
    rw [List.append_assoc, ← List.map_append, hTaken, List.drop_drop, Nat.add_comm 1] at hRest
    exact hRest

/-- The host ends the response with its empty packet. -/
theorem leads_statusOut (hBackdrop : Backdrop K S) (hBase : start.device.control.Equipped)
    (a : Standing) (seen : List Sight) (left : List (List UInt8)) :
    Brings K S (Embodies lifts K start a seen (ControlPipe.Owing left)) [.traffic (.out [])]
      (Embodies lifts K start a seen ControlPipe.Bare) := by
  refine leads hBackdrop (ControlPipe.busless_owing left) ControlPipe.busless_bare ?_
  rintro s epOut epIn epSetup hs - - ⟨hSetup, hOut, hHands⟩
  have hHandle : ControlPipe.handleOut s.device.control =
      .done (.ok none) { s.device.control.asked 0 with state := .idle } := by
    rw [ControlPipe.handleOut_inStage _ hs.pipe.sending.inStage, (hBase.frame hs.frame).epOut,
      hHands 0 (Nat.le_refl _)]
  have hReceive := ControlPipe.receive_out hSetup hOut hHandle
  have hPoll : Session.pollControl epOut epIn epSetup s = .done (.ok ())
      { s with device := s.device.withPipe { s.device.control.asked 0 with state := .idle } } := by
    by_cases hBit : epIn &&& 1 ≠ 0
    · refine pollControl_of_completed hReceive hBit
        (ControlPipe.handleInComplete_unsending _ trivial) fun hTrue => ?_
      cases hTrue
    · exact pollControl_of_received hReceive hBit
  rw [Post, hPoll]
  exact ⟨rfl, hs.withQuietPipe ⟨rfl, rfl, rfl⟩ (view_unseen (fun _ _ => rfl) lifts _) hs.pipe.bare,
    List.forall₂_same.mpr fun cls _ => (hBackdrop.tame 0).refl cls⟩

def settled (d : UsbDevice B) : UsbDevice B :=
  if UsbBus.quirkSetAddressBeforeStatus B = false ∧ d.pendingAddress ≠ 0 then
    (d.withPipe { d.control with state := .idle }).addressSet
  else d.withPipe { d.control with state := .idle }

omit [UsbClass C] in
theorem completeIn_statusIn {d : UsbDevice B} (hState : d.control.state = .statusIn) :
    (Session.completeIn : DeviceM B Unit) d = .done (.ok ()) (settled d) := by
  have hAttempt : attempt (UsbDevice.onPipe ControlPipe.handleInComplete) d =
      .done (.ok (.ok true)) (d.withPipe { d.control with state := .idle }) := by
    apply attempt_of_done
    rw [UsbDevice.onPipe, zoom_apply, ControlPipe.handleInComplete_statusIn _ hState]
    rfl
  rw [Session.completeIn, bind_of_ok hAttempt, bind_apply, get_apply]
  dsimp only
  unfold settled
  by_cases hSets : UsbBus.quirkSetAddressBeforeStatus B = false ∧ d.pendingAddress ≠ 0
  · rw [when_of_true ⟨hSets.1, rfl, hSets.2⟩, if_pos hSets]
    rfl
  · rw [when_of_false fun hAll => hSets ⟨hAll.1, hAll.2.2⟩, if_neg hSets]
    rfl

theorem pollControl_of_statusIn {s : Session B C} {epOut epIn epSetup : UInt16}
    (hState : s.device.control.state = .statusIn) (hSetup : epSetup &&& 1 = 0)
    (hOut : epOut &&& 1 = 0) (hIn : epIn &&& 1 ≠ 0) :
    Session.pollControl epOut epIn epSetup s =
      .done (.ok ()) { s with device := settled s.device } := by
  have hComplete : (Session.onDevice Session.completeIn : SessionM B C Unit) s =
      .done (.ok ()) { s with device := settled s.device } := by
    rw [Session.onDevice, zoom_apply, completeIn_statusIn hState]
  rw [pollControl_of_none (ControlPipe.receive_nothing hSetup hOut), when_of_true hIn]
  exact hComplete

omit [UsbClass C] in
theorem addressSet {s : Session B C} {A : ControlPipe B → Prop}
    (h : Embodies lifts K start a seen A s) (hAwake : s.device.deviceState ≠ .suspend)
    (hA : Busless A) :
    Embodies lifts K start { a with state := .addressed, pendingAddress := 0 }
      (seen ++ [.address a.pendingAddress]) A { s with device := s.device.addressSet } where
  frame := ⟨h.frame.epOut, h.frame.epIn, h.frame.length⟩
  config := h.config
  selfPowered := h.selfPowered
  rests := .awake rfl (h.deviceState hAwake).2
  awake := UsbDeviceState.noConfusion
  remoteWakeup := h.remoteWakeup
  pending := rfl
  view := by
    change UsbStack.view lifts
      (s.device.control.bus.trace ++ [.setDeviceAddress s.device.pendingAddress]) = _
    rw [view_snoc, h.view, h.pending]
    rfl
  pipe := hA _ _ h.pipe
  classes := h.classes

/-- The host has taken the empty packet, and a pending address takes effect. -/
theorem leads_statusIn (hBackdrop : Backdrop K S) (a : Standing) (seen : List Sight) :
    Brings K S (Embodies lifts K start a seen ControlPipe.Acknowledged) [.traffic .inComplete]
      (Embodies lifts K start (a.acknowledged (start.profile lifts).early)
        (seen ++ a.announces (start.profile lifts).early) ControlPipe.Bare) := by
  refine leads hBackdrop ControlPipe.busless_acknowledged ControlPipe.busless_bare ?_
  rintro s epOut epIn epSetup hs hAwake - ⟨hSetup, hOut, hIn⟩
  obtain ⟨hState, hBare⟩ := hs.pipe
  have hClasses : List.Forall₂ K s.classes s.classes :=
    List.forall₂_same.mpr fun cls _ => (hBackdrop.tame 0).refl cls
  have hIdle : Embodies lifts K start a seen ControlPipe.Bare
      { s with device := s.device.withPipe { s.device.control with state := .idle } } :=
    hs.withQuietPipe ⟨rfl, rfl, rfl⟩ rfl hBare
  rw [Post, pollControl_of_statusIn hState hSetup hOut hIn]
  refine ⟨rfl, ?_, hClasses⟩
  rw [settled, hs.pending, Standing.acknowledged, Standing.announces]
  by_cases hLate : UsbBus.quirkSetAddressBeforeStatus B = false ∧ a.pendingAddress ≠ 0
  · have hProfile : (start.profile lifts).early = false ∧ a.pendingAddress ≠ 0 := hLate
    rw [if_pos hLate, if_pos hProfile, if_pos hProfile]
    exact hIdle.addressSet hAwake ControlPipe.busless_bare
  · have hProfile : ¬ ((start.profile lifts).early = false ∧ a.pendingAddress ≠ 0) := hLate
    rw [if_neg hLate, if_neg hProfile, if_neg hProfile, List.append_nil]
    exact hIdle

/-- The classes are told of a reset, and keep what they are described by. -/
theorem post_reset (hBackdrop : Backdrop K S) {m : Moment B C} {s : Session B C} {e : UsbDevice B}
    (hEvent : (m.prepare s).device.event? = some (.reset, e))
    (hAfter : Embodies lifts K start .initial seen ControlPipe.Bare
      { m.prepare s with device := e.afterReset }) :
    Post False m.perform
      (fun _ t => Embodies lifts K start .initial seen ControlPipe.Bare t) s := by
  have hReset : Post False Session.reset (fun r t => r = .ok () ∧
      Embodies lifts K start .initial seen ControlPipe.Bare t)
      { m.prepare s with device := e } := by
    change Post False (Session.notify .reset UsbClass.reset) _
      { m.prepare s with device := e.afterReset }
    apply (post_notify fun cls _ => hBackdrop.reset cls).mono
    rintro r t ⟨rfl, hKept⟩
    exact ⟨rfl, hAfter.kept (hBackdrop.tame 0).trans ControlPipe.busless_bare hKept⟩
  rw [Post, Moment.perform_apply, poll_of_event hEvent]
  refine (post_bind Session.reset (fun _ => pure false) _).mpr (hReset.mono ?_)
  rintro r t ⟨rfl, ht⟩
  exact ht

theorem leads_reset (hBackdrop : Backdrop K S) (a : Standing) (seen : List Sight) :
    Brings K S (Embodies lifts K start a seen ControlPipe.Bare) [.reset]
      (Embodies lifts K start .initial seen ControlPipe.Bare) := by
  have hA : Busless (ControlPipe.Bare : ControlPipe B → Prop) := ControlPipe.busless_bare
  refine leads_single (unmoved hBackdrop hA) (unmoved hBackdrop hA) ?_
  intro m s hLabel hDue hs
  have hNotices := hDue.notices
  rw [hLabel] at hNotices
  obtain ⟨e, hEvent⟩ := hNotices
  obtain ⟨he, -⟩ := (hs.prepare (hBackdrop.tame 0).trans hA hDue).event hA hEvent
  have hView : UsbStack.view lifts (e.control.bus.trace ++ [.reset]) = ⟨seen, false⟩ := by
    rw [view_snoc, he.view]
    rfl
  exact post_reset hBackdrop hEvent
    ⟨⟨he.frame.epOut, he.frame.epIn, he.frame.length⟩, he.config, he.selfPowered, .awake rfl rfl,
      UsbDeviceState.noConfusion, rfl, rfl, hView, he.pipe, he.classes⟩

/-- After a reset the device embodies the standard device anew, whatever it was doing. -/
theorem of_reset (hBackdrop : Backdrop K S) {m : Moment B C} {s : Session B C} {e : UsbDevice B}
    (hBare : s.device.control.Bare) (hWork : List.Forall₂ K s.classes (m.work s.classes))
    (hEvent : (m.prepare s).device.event? = some (.reset, e)) :
    Post False m.perform (fun _ t => Embodies lifts K s .initial
      (UsbStack.view lifts s.device.control.bus.trace).seen ControlPipe.Bare t) s := by
  apply post_reset hBackdrop hEvent
  let forgive (v : View) : View := { v with stalled := false }
  have hReset (trace : List Event) : UsbStack.view lifts (trace ++ [.reset]) =
      forgive (UsbStack.view lifts trace) := view_snoc lifts trace .reset
  have hPolled (pr : PollResult) : UsbStack.view lifts (s.device.control.bus.trace ++ [.poll pr]) =
      UsbStack.view lifts s.device.control.bus.trace := view_unseen (fun _ _ => rfl) lifts _
  obtain ⟨-, ⟨-, rfl⟩ | ⟨-, -, state, -, rfl⟩⟩ := UsbDevice.event?_cases hEvent
  · exact ⟨⟨rfl, rfl, rfl⟩, rfl, rfl, .awake rfl rfl, UsbDeviceState.noConfusion, rfl, rfl,
      (hReset _).trans (congrArg forgive (hPolled _)), hBare, hWork⟩
  · exact ⟨⟨rfl, rfl, rfl⟩, rfl, rfl, .awake rfl rfl, UsbDeviceState.noConfusion, rfl, rfl,
      (hReset _).trans (congrArg forgive ((view_unseen (fun _ _ => rfl) lifts _).trans (hPolled _))),
      hBare, hWork⟩

end Embodies

namespace Exchange

variable {lifts : Bool} {K : C → C → Prop} {S : UInt16 → C → Prop} {start : Session B C}

/-- The SETUP packet is that of a request that the classes leave. -/
def Plain (K : C → C → Prop) (start : Session B C) : Exchange → Prop
  | reset => True
  | request packet req _ _ => Request.parse packet = .ok req ∧ Embodies.Plain K start req

/-- Every exchange of the script leads on as the standard device does. -/
theorem leads (hBackdrop : Backdrop K S) (hBase : start.device.control.Equipped) {x : Exchange}
    (hPlain : x.Plain K start) (a : Standing) (seen : List Sight) :
    Embodies.Brings K S (Embodies lifts K start a seen ControlPipe.Bare)
      (x.asks (start.profile lifts) a)
      (Embodies lifts K start (x.next (start.profile lifts) a)
        (seen ++ x.shows (start.profile lifts) a) ControlPipe.Bare) := by
  cases x with
  | reset =>
    rw [shows, List.append_nil]
    exact Embodies.leads_reset hBackdrop a seen
  | request packet req taken patient =>
    obtain ⟨hParse, hPlain⟩ := hPlain
    rw [asks, shows, next]
    have hSetup {a' : Standing} {seen' : List Sight} {A' : ControlPipe B → Prop} (hA' : Busless A')
        (hResponse : ∀ t, Embodies.Responded lifts K start (a.heard lifts) seen req t
          ((start.profile lifts).reply a req) → Embodies lifts K start a' seen' A' t) :=
      Embodies.leads_setup hBackdrop hBase hPlain hParse hA' hResponse
    change Embodies.Brings K S _ (_ :: Response.asks (a.heard lifts) taken patient _)
      (Embodies lifts K start (Response.next _ (a.heard lifts) patient _)
        (seen ++ Response.shows _ (a.heard lifts) _ taken patient _) _)
    generalize a.heard lifts = b at hSetup ⊢
    cases hReply : (start.profile lifts).reply a req with
    | stall => exact hSetup ControlPipe.busless_bare fun t ht => by rwa [hReply] at ht
    | silence =>
      rw [Response.shows, List.append_nil]
      exact hSetup ControlPipe.busless_bare fun t ht => by rwa [hReply] at ht
    | done command =>
      rw [Response.asks, Response.shows, Response.next]
      by_cases hCompletes : patient = true ∧ b.stalled = false
      · rw [if_pos hCompletes, if_pos hCompletes, if_pos hCompletes, ← List.append_assoc]
        refine (hSetup ControlPipe.busless_acknowledged fun t ht => ?_).cons
          (Embodies.leads_statusIn hBackdrop _ _)
        rwa [hReply] at ht
      · rw [if_neg hCompletes, if_neg hCompletes, if_neg hCompletes, List.append_nil]
        refine hSetup ControlPipe.busless_bare fun t ht => ?_
        rw [hReply] at ht
        exact ht.withQuietPipe ⟨rfl, rfl, rfl⟩ rfl ht.pipe.2
    | data bytes =>
      obtain ⟨first, left, hPackets⟩ := List.exists_cons_of_ne_nil
        (packets_ne_nil (start.profile lifts).packetSize (bytes.take req.length.toNat))
      have hFirst := hSetup (ControlPipe.busless_owing left) fun t ht => by
        rw [hReply] at ht
        exact ht first left hPackets
      rw [Response.asks, Response.shows, Response.next, hPackets, List.take_succ_cons]
      unfold Standing.passes at hFirst ⊢
      cases hStalled : b.stalled with
      | true =>
        rw [hStalled] at hFirst
        exact hFirst.weaken fun t ht => ht.withQuietPipe ⟨rfl, rfl, rfl⟩ rfl ht.pipe.bare
      | false =>
        rw [hStalled, if_neg Bool.false_ne_true] at hFirst
        have hTaken := @Embodies.leads_takenAll B C _ _ lifts K S start b hBackdrop hBase hStalled
          (seen ++ [.packet first]) taken left
        rw [if_neg Bool.false_ne_true, if_neg Bool.false_ne_true, List.map_cons,
          List.append_cons seen]
        refine hFirst.cons ?_
        cases patient with
        | true => exact hTaken.append (Embodies.leads_statusOut hBackdrop hBase b _ _)
        | false =>
          rw [if_neg Bool.false_ne_true, List.append_nil]
          exact hTaken.weaken fun t ht => ht.withQuietPipe ⟨rfl, rfl, rfl⟩ rfl ht.pipe.bare

end Exchange

/-- From a device that is at rest the host sees what its script makes the standard device show. -/
theorem Embodies.follows {lifts : Bool} {K : C → C → Prop} {S : UInt16 → C → Prop}
    (hBackdrop : Backdrop K S) {start s : Session B C} (hBase : start.device.control.Equipped)
    {seen : List Sight} (h : Embodies lifts K start .initial seen ControlPipe.Bare s)
    {script : List Exchange} (hScript : ∀ x ∈ script, x.Plain K start) {moments : List (Moment B C)}
    (hDue : Along Moment.perform (Moment.Due K S) moments s)
    (hActs : moments.filterMap Moment.act = (start.profile lifts).acts script) :
    ∃ t, finalState Moment.perform moments s = some t ∧
      Embodies lifts K start ((start.profile lifts).outcome script)
        (seen ++ (start.profile lifts).sights script) ControlPipe.Bare t := by
  have hLeads := leads_script
    (R := fun a seen => Embodies lifts K start a seen ControlPipe.Bare)
    (fun a seen => unmoved hBackdrop ControlPipe.busless_bare)
    (fun x hx a seen => Exchange.leads hBackdrop hBase (hScript x hx) a seen) .initial seen
  exact hLeads moments s h hDue hActs

theorem Session.Reachable.equipped [UsbBus.Contract B] {s : Session B C} (h : s.Reachable) :
    s.device.control.Equipped :=
  ⟨h.wellFormed.epOut, h.wellFormed.epIn, Nat.lt_of_lt_of_le (by decide) h.ample.size,
    h.wellFormed.room⟩

section Mailbox

variable {D : Type}

def HostAct.moment : HostAct → Moment Mailbox D
  | .traffic host => ⟨(host.visit : Visit Mailbox D).bus, id, some (.traffic host)⟩
  | .reset => ⟨⟨none, none, .reset⟩, id, some .reset⟩

theorem acts_moments (acts : List HostAct) :
    ((acts.map HostAct.moment : List (Moment Mailbox D)).filterMap Moment.act) = acts := by
  induction acts with
  | nil => rfl
  | cons act rest ih =>
    rw [List.map_cons, List.filterMap_cons_some (b := act) (by cases act <;> rfl), ih]

variable [UsbClass D] {K : D → D → Prop} {S : UInt16 → D → Prop} {n : Nat} {s : Session Mailbox D}

omit [UsbBus B] [UsbClass D] in
/-- Every moment of the example may come. -/
theorem due_moment (hRefl : ∀ cls, K cls cls) (hS : ∀ epIn cls, epIn = 0 ∨ epIn = 1 → S epIn cls)
    (hAwake : s.device.deviceState ≠ .suspend) (act : HostAct) : act.moment.Due K S s := by
  have hEvent : (act.moment.prepare s).device.event? =
      some (act.moment.bus.event, (act.moment.prepare s).device.polled) :=
    UsbDevice.event?_of_awake hAwake
  have hWilling {bus : Mailbox} (hFree : bus.outgoing = none) : Willing bus :=
    ⟨Mailbox.writable_of_free hFree, fun hEarly => absurd hEarly Bool.false_ne_true⟩
  have hWork : List.Forall₂ K s.classes s.classes := List.forall₂_same.mpr fun cls _ => hRefl cls
  cases act with
  | reset =>
    refine ⟨⟨_, hEvent⟩, hWilling rfl, ?_, hWork⟩
    intro epOut epIn epSetup e hOther
    cases Option.some.inj (hEvent.symm.trans hOther)
  | traffic traffic =>
    cases traffic with
    | setup packet =>
      refine ⟨⟨0, 0, 1, _, hEvent, by decide, Mailbox.handsOut rfl⟩, hWilling rfl, ?_, hWork⟩
      intro epOut epIn epSetup e hOther cls _
      cases Option.some.inj (hEvent.symm.trans hOther)
      exact hS 0 cls (.inl rfl)
    | out packet =>
      refine ⟨⟨1, 0, 0, _, hEvent, by decide, by decide, Mailbox.handsOut rfl⟩, hWilling rfl, ?_, hWork⟩
      intro epOut epIn epSetup e hOther cls _
      cases Option.some.inj (hEvent.symm.trans hOther)
      exact hS 0 cls (.inl rfl)
    | inComplete =>
      refine ⟨⟨0, 1, 0, _, hEvent, by decide, by decide, by decide⟩, hWilling rfl, ?_, hWork⟩
      intro epOut epIn epSetup e hOther cls _
      cases Option.some.inj (hEvent.symm.trans hOther)
      exact hS 1 cls (.inr rfl)

omit [UsbBus B] in
theorem awake_moment (h : s.device.Awake n) (act : HostAct) :
    Post True (act.moment.perform : SessionM Mailbox D Bool) (fun _ t => t.device.Awake n) s := by
  have hPrepared : (act.moment.prepare s).device.Awake n :=
    h.withPipe ⟨[], (List.append_nil _).symm, by simp⟩
  have hNot : (UsbBus.poll (act.moment.prepare s).device.control.bus.bus).1 ≠ .suspend := by
    cases act with
    | traffic traffic => cases traffic <;> exact PollResult.noConfusion
    | reset => exact PollResult.noConfusion
  rw [Post, Moment.perform_apply, poll_awake hPrepared]
  exact (post_handleEvent hPrepared.polled hNot).mono fun _ _ ht => ht.1

omit [UsbBus B] in
theorem along_moments (hRefl : ∀ cls, K cls cls)
    (hS : ∀ epIn cls, epIn = 0 ∨ epIn = 1 → S epIn cls) (h : s.device.Awake n)
    (acts : List HostAct) : Along Moment.perform (Moment.Due K S) (acts.map HostAct.moment) s := by
  induction acts generalizing s with
  | nil => trivial
  | cons act rest ih =>
    exact ⟨due_moment hRefl hS h.deviceState act,
      fun r mid hStep => ih (post_of_done (awake_moment h act) hStep)⟩

def enumeratedStart : Session Mailbox (TestClass .fullSpeed) :=
  ⟨roundTripSession.device, [roundTripClass]⟩

theorem fresh_enumeratedStart : enumeratedStart.device.Fresh := by
  have hBuffer : ¬ (List.replicate 256 (0 : UInt8)).length < 8 := by decide +kernel
  exact ⟨.new ⟨0, 0⟩ (List.replicate 256 0), .empty, ⟨.empty, [.enable]⟩, .new _ _, if_neg hBuffer⟩

/-- GET_DESCRIPTOR for the device descriptor, SET_ADDRESS, GET_DESCRIPTOR for the first nine bytes of the
configuration descriptor, SET_CONFIGURATION, for which the host skips the status stage, and
GET_CONFIGURATION. -/
def enumeration : List Exchange :=
  [.reset,
    .request [0x80, 6, 0, 1, 0, 0, 18, 0] ⟨.in_, .standard, .device, 6, 0x100, 0, 18⟩ 2 true,
    .request [0, 5, 5, 0, 0, 0, 0, 0] ⟨.out, .standard, .device, 5, 5, 0, 0⟩ 0 true,
    .request [0x80, 6, 0, 2, 0, 0, 9, 0] ⟨.in_, .standard, .device, 6, 0x200, 0, 9⟩ 1 true,
    .request [0, 9, 1, 0, 0, 0, 0, 0] ⟨.out, .standard, .device, 9, 1, 0, 0⟩ 0 false,
    .request [0x80, 8, 0, 0, 0, 0, 1, 0] ⟨.in_, .standard, .device, 8, 0, 0, 1⟩ 0 true]

/-- Then GET_DESCRIPTOR for a device qualifier, which there is not, and GET_STATUS. -/
def questions : List Exchange :=
  enumeration ++ [
    .request [0x80, 6, 0, 6, 0, 0, 10, 0] ⟨.in_, .standard, .device, 6, 0x600, 0, 10⟩ 0 true,
    .request [0x80, 0, 0, 0, 0, 0, 2, 0] ⟨.in_, .standard, .device, 0, 0, 0, 2⟩ 0 true]

theorem plain_questions {s : Session Mailbox (TestClass .fullSpeed)} (hFew : s.classes.length ≤ 42)
    (hEven : s.device.control.buf.length % 2 = 0) :
    ∀ x ∈ questions, x.Plain TestClass.SameIdentity s := by
  have hPlain {req : Request} (hDevice : req.recipient = .device)
      (hEmpty : req.direction = .out → req.length = 0) (hStandard : req.requestType = .standard) :
      Embodies.Plain TestClass.SameIdentity s req := by
    refine ⟨hDevice, hEmpty, TestClass.leaves fun hOwns => ?_, fun _ f hWriter => ?_⟩
    · cases hStandard.symm.trans hOwns.1
    · exact legible_descriptorWriter hWriter (fun cls _ => TestClass.describes cls) (by omega)
        (fun cls _ => TestClass.blind_configurationDescriptors cls) hEven
  intro x hx
  simp only [questions, enumeration, List.cons_append, List.nil_append, List.mem_cons,
    List.not_mem_nil, or_false] at hx
  rcases hx with rfl | rfl | rfl | rfl | rfl | rfl | rfl | rfl
  · trivial
  all_goals exact ⟨rfl, hPlain rfl (by decide) rfl⟩

end Mailbox

/-- A host that makes control transfers without OUT data, and resets the bus, sees just what the
standard device with the profile of this device shows, and it leaves the device as that one. -/
theorem host_sees_device [UsbBus.Contract B] {lifts : Bool} {K : C → C → Prop}
    {S : UInt16 → C → Prop} (hBackdrop : Backdrop K S) {start : Session B C}
    (hFresh : start.device.Fresh) {script : List Exchange} (hScript : ∀ x ∈ script, x.Plain K start)
    {moments : List (Moment B C)} (hDue : Along Moment.perform (Moment.Due K S) moments start)
    (hActs : moments.filterMap Moment.act = (start.profile lifts).acts script) :
    ∃ t, finalState Moment.perform moments start = some t ∧
      view lifts t.device.control.bus.trace = ⟨(start.profile lifts).sights script,
        ((start.profile lifts).outcome script).stalled⟩ ∧
      t.device.Rests ((start.profile lifts).outcome script).state ∧
      t.device.remoteWakeupEnabled = ((start.profile lifts).outcome script).remoteWakeup ∧
      t.device.pendingAddress = ((start.profile lifts).outcome script).pendingAddress := by
  have hInitial := hFresh.initial
  have hReachable : start.Reachable := ⟨start.device, start.classes, hFresh, .refl⟩
  obtain ⟨builder, bus, -, -, -, hBuilt⟩ := hFresh.built
  have hStart : Embodies lifts K start .initial [] ControlPipe.Bare start := by
    refine ⟨⟨rfl, rfl, rfl⟩, rfl, rfl, .awake hInitial.deviceState hInitial.suspendedDeviceState,
      UsbDeviceState.noConfusion, by rw [hBuilt]; rfl, hInitial.pendingAddress,
      by rw [hInitial.trace]; rfl, by rw [hBuilt]; rfl,
      List.forall₂_same.mpr fun cls _ => (hBackdrop.tame 0).refl cls⟩
  obtain ⟨t, hFinal, ht⟩ := hStart.follows hBackdrop hReachable.equipped hScript hDue hActs
  exact ⟨t, hFinal, ht.view, ht.rests, ht.remoteWakeup, ht.pending⟩

/-- The test class is enumerated, and a STALL does not last. -/
theorem host_sees_device_enumeration : ∃ t,
    finalState Moment.perform
      (((enumeratedStart.profile true).acts questions).map HostAct.moment) enumeratedStart = some t ∧
    view true t.device.control.bus.trace =
      ⟨[.packet [18, 1, 0x10, 2, 0, 0, 0, 8], .packet [0, 0, 0, 0, 0x10, 0, 0, 0], .packet [0, 1],
        .packet [], .address 5, .packet [9, 2, 62, 0, 1, 1, 0, 0x80], .packet [50], .packet [],
        .packet [1], .stall, .packet [0, 0]], false⟩ ∧
    t.device.Rests .configured := by
  have hAwake : enumeratedStart.device.Awake 0 := ⟨UsbDeviceState.noConfusion, rfl, rfl⟩
  have hDue := along_moments (S := fun epIn cls => cls.Spared epIn) TestClass.sameIdentity_refl
    (fun epIn cls h => TestClass.spared_of_le h) hAwake
    ((enumeratedStart.profile true).acts questions)
  obtain ⟨t, hFinal, hView, hRests, -⟩ := host_sees_device TestClass.backdrop fresh_enumeratedStart
    (plain_questions (by decide) (by decide +kernel)) hDue (acts_moments _)
  refine ⟨t, hFinal, hView.trans ?_, ?_⟩
  · decide +kernel
  · have hState : ((enumeratedStart.profile true).outcome questions).state = .configured := by
      decide +kernel
    rw [hState] at hRests
    exact hRests

/-- A bus reset makes the standard device of any device that has no static response left over, whatever
state it has come into. -/
theorem reset_recovers [UsbBus.Contract B] {lifts : Bool} {K : C → C → Prop} {S : UInt16 → C → Prop}
    (hBackdrop : Backdrop K S) {s : Session B C} (hReachable : s.Reachable)
    (hBare : s.device.control.Bare) {script : List Exchange} (hScript : ∀ x ∈ script, x.Plain K s)
    {m : Moment B C} {moments : List (Moment B C)} (hReset : m.act = some .reset)
    (hDue : Along Moment.perform (Moment.Due K S) (m :: moments) s)
    (hActs : moments.filterMap Moment.act = (s.profile lifts).acts script) :
    ∃ t, finalState Moment.perform (m :: moments) s = some t ∧
      view lifts t.device.control.bus.trace =
        ⟨(view lifts s.device.control.bus.trace).seen ++ (s.profile lifts).sights script,
          ((s.profile lifts).outcome script).stalled⟩ ∧
      t.device.Rests ((s.profile lifts).outcome script).state ∧
      t.device.remoteWakeupEnabled = ((s.profile lifts).outcome script).remoteWakeup ∧
      t.device.pendingAddress = ((s.profile lifts).outcome script).pendingAddress := by
  have hNotices := hDue.1.notices
  rw [hReset] at hNotices
  obtain ⟨e, hEvent⟩ := hNotices
  obtain ⟨r, mid, hStep, hMid⟩ := post_false_iff.mp
    (Embodies.of_reset (K := K) hBackdrop hBare hDue.1.work hEvent : Post False m.perform _ s)
  rw [finalState_cons hStep]
  obtain ⟨t, hFinal, ht⟩ :=
    hMid.follows hBackdrop hReachable.equipped hScript (hDue.2 r mid hStep) hActs
  exact ⟨t, hFinal, ht.view, ht.rests, ht.remoteWakeup, ht.pending⟩

/-- SET_CONFIGURATION, SET_FEATURE for remote wakeup, and a request for a descriptor that there is not. -/
def strandingInputs : List (DeviceInput Mailbox (TestClass .fullSpeed)) :=
  [.hardware ⟨none, some [0, 9, 1, 0, 0, 0, 0, 0], .data 0 0 1⟩, .poll,
    .hardware ⟨none, none, .data 0 1 0⟩, .poll,
    .hardware ⟨none, some [0, 3, 1, 0, 0, 0, 0, 0], .data 0 0 1⟩, .poll,
    .hardware ⟨none, none, .data 0 1 0⟩, .poll,
    .hardware ⟨none, some [0x80, 6, 0, 9, 0, 0, 18, 0], .data 0 0 1⟩, .poll]

def strandedSession : Session Mailbox (TestClass .fullSpeed) :=
  (finalState DeviceInput.perform strandingInputs enumeratedStart).get (by decide +kernel)

/-- The test class is enumerated again, on hardware that kept the STALL up to the reset. -/
theorem reset_recovers_stranded :
    strandedSession.device.control.state = .error ∧
    strandedSession.device.deviceState = .configured ∧
    strandedSession.device.remoteWakeupEnabled = true ∧
    (view false strandedSession.device.control.bus.trace).stalled = true ∧ ∃ t,
      finalState Moment.perform ((.reset :: (strandedSession.profile false).acts enumeration).map
        HostAct.moment) strandedSession = some t ∧
      view false t.device.control.bus.trace = ⟨[.packet [], .packet [], .stall] ++
        [.packet [18, 1, 0x10, 2, 0, 0, 0, 8], .packet [0, 0, 0, 0, 0x10, 0, 0, 0], .packet [0, 1],
          .packet [], .address 5, .packet [9, 2, 62, 0, 1, 1, 0, 0x80], .packet [50], .packet [],
          .packet [1]], false⟩ ∧
      t.device.remoteWakeupEnabled = false := by
  refine ⟨by decide +kernel, by decide +kernel, by decide +kernel, by decide +kernel, ?_⟩
  have hFinal : finalState DeviceInput.perform strandingInputs enumeratedStart =
      some strandedSession := (Option.some_get _).symm
  have hReachable : strandedSession.Reachable :=
    ⟨_, _, fresh_enumeratedStart, reaches_of_finalState hFinal⟩
  have hBare : strandedSession.device.control.staticInBuf = none := by decide +kernel
  have hAwake : strandedSession.device.Awake 0 :=
    ⟨by decide +kernel, by decide +kernel, by decide +kernel⟩
  have hDue := along_moments (S := fun epIn cls => cls.Spared epIn)
    TestClass.sameIdentity_refl (fun epIn cls h => TestClass.spared_of_le h) hAwake
    (.reset :: (strandedSession.profile false).acts enumeration)
  have hScript : ∀ x ∈ enumeration, x.Plain TestClass.SameIdentity strandedSession :=
    fun x hx => plain_questions (by decide +kernel) (by decide +kernel) x (List.mem_append_left _ hx)
  obtain ⟨t, hEnd, hView, -, hWakeup, -⟩ := reset_recovers TestClass.backdrop hReachable hBare
    hScript rfl hDue (acts_moments _)
  refine ⟨t, hEnd, hView.trans ?_, hWakeup.trans ?_⟩
  · decide +kernel
  · decide +kernel

end UsbStack
