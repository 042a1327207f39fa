import UsbStack.Acknowledgement

/-! # What the host reads back

The answers to GET_STATUS and GET_CONFIGURATION are a function of the acts of the run alone.
-/

namespace UsbStack

set_option autoImplicit false

open Foundation Exec

variable {B C : Type} [UsbBus B] [UsbClass C]

/-- What a poll from `s` owes to the acts, in a device `d` that it has come to. -/
def UsbDevice.TracksPoll (acts : List Act) (s : Session B C) (d : UsbDevice B) : Prop :=
  refused (.control .in_) d.control.bus.trace = [] →
    match dispatched s with
    | some (req, u, v) => d.TracksFrom (acts ++ actsBetween s u ++ dispatchActs req u v)
        v.device.control.bus.trace.length
    | none => d.TracksFrom acts s.device.control.bus.trace.length

def LeftToDevice (input : DeviceInput B C) (s : Session B C) : Prop :=
  input = .poll → ∀ epOut epIn epSetup d req p r t,
    s.device.event? = some (.data epOut epIn epSetup, d) →
    Session.receive epOut epSetup d.control = .done (.ok (some req)) p →
    req.requestType = .standard →
    Session.firstClass (offer (callControl req)) { s with device := d.withPipe p } = .done r t →
    r = .ok none

section Poll

variable {acts : List Act} {s t : Session B C} {d : UsbDevice B}

theorem leftToDevice_of_nil {input : DeviceInput B C} (hNil : s.classes = []) :
    LeftToDevice input s := by
  rintro - epOut epIn epSetup d req p r t - - - hFirst
  obtain ⟨device, classes⟩ := s
  obtain rfl : classes = [] := hNil
  cases hFirst
  rfl

theorem tracksPoll_of_none (hNone : dispatched s = none)
    (h : d.TracksFrom acts s.device.control.bus.trace.length) : d.TracksPoll acts s := by
  unfold UsbDevice.TracksPoll
  rw [hNone]
  exact fun _ => h

theorem stable_tracksPoll (acts : List Act) (s : Session B C) :
    Stable (UsbDevice.TracksPoll acts s) := by
  intro d e hd hForeign
  obtain ⟨t, hUse, rfl⟩ := hForeign
  have hGrows : Traced.Grows KeepsAddress d.control.bus t := hUse.grows.mono fun _ hEvent =>
    keepsAddress_of_background (backgroundEvent_of_foreign hEvent)
  intro hWritten
  have hTracks := hd (refused_of_grows hGrows hWritten)
  cases hDispatched : dispatched s with
  | none =>
    rw [hDispatched] at hTracks
    exact hTracks.withPipe hGrows
  | some found =>
    rw [hDispatched] at hTracks
    exact hTracks.withPipe hGrows

theorem UsbDevice.TracksPoll.tracks (h : t.device.TracksPoll acts s)
    (hWritten : refused (.control .in_) t.device.control.bus.trace = []) :
    t.device.Tracks (acts ++ pollActs s t) := by
  have hTracks := h hWritten
  unfold pollActs
  cases hDispatched : dispatched s with
  | none =>
    rw [hDispatched] at hTracks
    exact hTracks.2
  | some found =>
    obtain ⟨req, u, v⟩ := found
    rw [hDispatched] at hTracks
    dsimp only
    rw [← List.append_assoc, ← List.append_assoc]
    exact hTracks.2

theorem keepsAddress_of_offer {event : Event} (h : OfferEvent event) : KeepsAddress event := by
  cases event with
  | reset => exact h.elim (fun hSome => by cases hSome) fun hSide => hSide.elim
  | setDeviceAddress addr => exact h.elim (fun hSome => by cases hSome) fun hSide => hSide.elim
  | _ => trivial

omit [UsbBus B] in
theorem UsbDevice.Tracks.passed (h : d.Tracks acts) {req : Request}
    (hReq : req.requestType ≠ .standard) : d.Tracks (acts ++ [.accepted req]) := by
  have hFeature (recipient : Recipient) (feature : UInt16) : req.feature? recipient feature = none :=
    if_neg fun hAll => hReq hAll.1
  have hConfiguration : req.configuration? = none := if_neg fun hAll => hReq hAll.1
  refine ⟨?_, fun addr hAddr => ?_, ?_, h.remembered⟩
  · rw [UsbStack.wakeup, List.foldl_append, List.foldl_cons]
    dsimp only
    rw [hFeature]
    exact h.wakeup
  · rw [UsbStack.halted, List.foldl_append, List.foldl_cons]
    dsimp only
    rw [hFeature]
    exact (h.halted addr hAddr).trans (ite_self _).symm
  · rw [UsbStack.configured, List.foldl_append, List.foldl_cons]
    dsimp only
    rw [hConfiguration]
    exact h.configured

theorem tracks_offered {p : ControlPipe B} {req : Request} {r : Except UsbError (Option Unit)}
    {u : Session B C} (hWell : (d.withPipe p).WellFormed) (hAwaits : p.Awaits req)
    (hTracks : (d.withPipe p).TracksFrom acts s.device.control.bus.trace.length)
    (hFirst : Session.firstClass (offer (callControl req)) { s with device := d.withPipe p } =
      .done r u) : u.device.Tracks (acts ++ actsBetween s u) := by
  obtain ⟨call, found, count, q, -, hDevice, hOffered⟩ := offered_of_firstClass hAwaits hFirst
  have hOffers := (hOffered.record hWell.epIn).2.mono fun _ => keepsAddress_of_offer
  have hFrom := hTracks.withPipe hOffers
  have hSame : (d.withPipe p).withPipe q = u.device := hDevice.symm
  rw [hSame] at hFrom
  exact hFrom.2

/-- The dispatch of a request adds the acts that it stands for. -/
theorem post_dispatch_tracks {epOut epIn epSetup : UInt16} {req : Request} {p : ControlPipe B}
    (hLeft : LeftToDevice .poll s) (hWell : (d.withPipe p).WellFormed)
    (hAwake : d.deviceState ≠ .suspend) (hAwaits : p.Awaits req)
    (hEvent : s.device.event? = some (.data epOut epIn epSetup, d))
    (hBit : (epOut ||| epIn ||| epSetup) &&& 1 ≠ 0)
    (hReceive : Session.receive epOut epSetup d.control = .done (.ok (some req)) p)
    (hTracks : (d.withPipe p).TracksFrom acts s.device.control.bus.trace.length) :
    Post True (Session.dispatch req) (fun _ v => v.device.TracksPoll acts s)
      { s with device := d.withPipe p } := by
  rw [post_true_iff]
  intro r v hDispatch hWritten
  cases hFirst : Session.firstClass (offer (callControl req)) { s with device := d.withPipe p } with
  | panic reason =>
    rw [dispatch_eq, bind_of_panic hFirst] at hDispatch
    cases hDispatch
  | done r' u =>
    rw [dispatched_eq hEvent hBit hReceive hFirst hDispatch]
    obtain ⟨call, found, count, q, rfl, hDevice, hOffered⟩ := offered_of_firstClass hAwaits hFirst
    have hBefore := tracks_offered hWell hAwaits hTracks hFirst
    rw [dispatch_eq, bind_of_ok hFirst] at hDispatch
    apply UsbDevice.Tracks.now
    cases found with
    | some answer =>
      have hVendor : req.requestType ≠ .standard := by
        intro hStandard
        cases hLeft rfl _ _ _ d req p _ _ hEvent hReceive hStandard hFirst
      have hNone : actsBetween u u = [] := by
        rw [actsBetween, List.drop_length, List.filterMap_nil]
      cases hDispatch
      rw [dispatchActs, hNone, List.filter_nil, List.nil_append]
      split
      · exact hBefore.passed hVendor
      · rw [List.append_nil]
        exact hBefore
    | none =>
      have hAwaits' := (hOffered.of_none hAwaits).2
      have hAnswer : Post True (answerSelf req) (fun _ v =>
          refused (.control .in_) v.device.control.bus.trace = [] →
          v.device.Tracks (acts ++ actsBetween s u ++ dispatchActs req u v)) u := by
        apply post_answerSelf_tracks hBefore
        · rw [hDevice]
          exact hAwake
        · rw [hDevice]
          exact hAwaits'
        · rw [hDevice]
          exact (congrArg _ hOffered.frame.epOut).trans hWell.epOut
        · rw [hDevice]
          exact (congrArg _ hOffered.frame.epIn).trans hWell.epIn
      exact post_of_done hAnswer hDispatch hWritten

/-- A poll adds the acts that it stands for. -/
theorem post_poll_tracks (hWell : s.device.WellFormed) (hTracks : s.device.Tracks acts)
    (hLeft : LeftToDevice .poll s) :
    Post True Session.poll (fun _ t => t.device.TracksPoll acts s) s := by
  have hBackground := UsbDevice.background_tracksFrom (B := B) acts s.device.control.bus.trace.length
  refine post_poll (fun _ hNone => ?_) fun pr d hEvent => ?_
  · refine tracksPoll_of_none ?_ (hBackground.polled hTracks.now)
    rw [dispatched, hNone]
  have hd := hBackground.event hTracks.now hEvent
  have hAwake := hWell.awake hEvent
  cases pr with
  | none => exact tracksPoll_of_none (by rw [dispatched, hEvent]) hd
  | resume => exact tracksPoll_of_none (by rw [dispatched, hEvent]) hd
  | reset =>
    have hReset := tracksPoll_of_none (by rw [dispatched, hEvent]) (hBackground.reset d hd)
    exact post_then (post_reset (stable_tracksPoll acts s) hReset) fun _ _ ht => ht
  | suspend =>
    have hSuspended := hBackground.suspend d hd hAwake
    have hNoted : d.afterSuspend.TracksFrom acts s.device.control.bus.trace.length :=
      hBackground.events _ _ hSuspended (Traced.Grows.single rfl trivial)
    exact tracksPoll_of_none (by rw [dispatched, hEvent]) hNoted
  | data epOut epIn epSetup =>
    have hControl (hBit : (epOut ||| epIn ||| epSetup) &&& 1 ≠ 0) :
        Post True (Session.pollControl epOut epIn epSetup) (fun _ t => t.device.TracksPoll acts s)
          { s with device := d } := by
      have hReceived {found : Option Request} {p : ControlPipe B}
          (hReceive : Session.receive epOut epSetup d.control = .done (.ok found) p) :
          (d.withPipe p).TracksFrom acts s.device.control.bus.trace.length :=
        hd.withPipe ((ControlPipe.Receives.of_receive hReceive).grows.mono fun _ =>
          keepsAddress_of_receive)
      have hNone {p : ControlPipe B}
          (hReceive : Session.receive epOut epSetup d.control = .done (.ok none) p) :
          dispatched s = none := dispatched_of_nothing hEvent hReceive
      refine post_pollControl (fun req p hReceive => ?_) (fun p hReceive => ?_) fun p hReceive _ => ?_
      · have hWell' := background_wellFormed.event hWell hEvent
        have hReceives := ControlPipe.Receives.of_receive hReceive
        exact post_dispatch_tracks hLeft (hWell'.withPipe hReceives.frame) hAwake
          (hReceives.awaits hWell'.data) hEvent hBit hReceive (hReceived hReceive)
      · exact tracksPoll_of_none (hNone hReceive) (hReceived hReceive)
      · have hDone {r : Except UsbError Bool} {q : ControlPipe B} (hCompletes : p.Completes r q) :
            ((d.withPipe p).withPipe q).TracksFrom acts s.device.control.bus.trace.length :=
          (hReceived hReceive).withPipe (hCompletes.grows.mono fun _ => keepsAddress_of_transfer)
        refine post_completeIn (fun r q hCompletes => ?_) fun q hCompletes _ _ => ?_
        · exact tracksPoll_of_none (hNone hReceive) (hDone hCompletes)
        · refine tracksPoll_of_none (hNone hReceive) ((hDone hCompletes).record rfl rfl ?_)
          exact fun _ hTracks => hTracks.addressSet hAwake
    refine post_then (post_pollData (stable_tracksPoll acts s) (fun hBit => ?_) hControl)
      fun _ _ ht => ht
    refine tracksPoll_of_none ?_ hd
    rw [dispatched, hEvent]
    exact if_pos hBit

end Poll

def UsbDevice.SamePower (d e : UsbDevice B) : Prop := e.selfPowered = d.selfPowered

section Power

variable {α : Type}

omit [UsbBus B] in
theorem samePower_refl (d : UsbDevice B) : d.SamePower d := rfl

omit [UsbBus B] in
theorem samePower_trans (d e f : UsbDevice B) (h : d.SamePower e) (h' : e.SamePower f) :
    d.SamePower f := h'.trans h

omit [UsbBus B] [UsbClass C] in
theorem onSamePower_refl (s : Session B C) : OnDevices UsbDevice.SamePower s s := rfl

omit [UsbBus B] [UsbClass C] in
theorem onSamePower_trans (s t u : Session B C) (h : OnDevices UsbDevice.SamePower s t)
    (h' : OnDevices UsbDevice.SamePower t u) : OnDevices UsbDevice.SamePower s u := Eq.trans h' h

omit [UsbBus B] in
theorem samePower_onPipe (m : PipeM B α) : Within UsbDevice.SamePower (UsbDevice.onPipe m) := by
  refine within_zoom (T := fun _ _ => True) (fun _ => ?_) fun _ _ _ => rfl
  exact post_true_iff.mpr fun _ _ _ => trivial

omit [UsbBus B] [UsbClass C] in
theorem onSamePower_onBus (m : BusM B α) :
    Within (OnDevices UsbDevice.SamePower) (Session.onDevice (UsbDevice.onBus m) : SessionM B C α) :=
  within_onDevice (samePower_onPipe _)

theorem samePower_of_foreign {d e : UsbDevice B} (h : Foreign d e) : d.SamePower e := by
  obtain ⟨t, -, rfl⟩ := h
  rfl

omit [UsbClass C] in
theorem onSamePower_notify (call : ClassCall) (f : C → ClassM C) :
    Within (OnDevices UsbDevice.SamePower) (Session.notify call f : SessionM B C Unit) :=
  (foreign_notify call f).mono fun _ _ => samePower_of_foreign

theorem onSamePower_dispatch (req : Request) :
    Within (OnDevices UsbDevice.SamePower) (Session.dispatch req : SessionM B C Unit) := by
  apply sessionSteps_dispatch.mono
  intro s t hSteps
  refine ControlSteps.invariant (I := s.device.SamePower) hSteps (fun e e' hStep he => ?_) rfl
  cases hStep <;> exact he

omit [UsbClass C] in
theorem samePower_event {d e : UsbDevice B} {pr : PollResult} (h : d.event? = some (pr, e)) :
    d.SamePower e := by
  obtain ⟨-, ⟨-, rfl⟩ | ⟨-, -, state, -, rfl⟩⟩ := UsbDevice.event?_cases h
  · rfl
  · rfl

omit [UsbClass C] in
theorem samePower_completeIn : Within UsbDevice.SamePower (Session.completeIn : DeviceM B Unit) := by
  refine within_bind samePower_trans (within_attempt (samePower_onPipe _)) fun _ => ?_
  refine within_bind samePower_trans (within_get samePower_refl) fun _ => ?_
  refine within_when samePower_refl ?_
  exact within_bind samePower_trans (samePower_onPipe _) fun _ => within_modify fun _ => rfl

theorem onSamePower_handleEvent (pr : PollResult) :
    Within (OnDevices UsbDevice.SamePower) (Session.handleEvent pr : SessionM B C Bool) := by
  cases pr with
  | none => exact within_pure onSamePower_refl _
  | resume => exact within_pure onSamePower_refl _
  | reset =>
    refine within_bind onSamePower_trans ?_ fun _ => within_pure onSamePower_refl _
    refine within_bind onSamePower_trans (onSamePower_onBus _) fun _ => ?_
    refine within_bind onSamePower_trans (within_onDevice (within_modify fun _ => rfl)) fun _ => ?_
    refine within_bind onSamePower_trans (within_onDevice (samePower_onPipe _)) fun _ => ?_
    exact onSamePower_notify .reset UsbClass.reset
  | suspend =>
    refine within_bind onSamePower_trans ?_ fun _ => within_pure onSamePower_refl _
    refine within_bind onSamePower_trans (onSamePower_onBus _) fun _ => ?_
    exact within_onDevice (within_modify fun _ => rfl)
  | data epOut epIn epSetup =>
    refine within_bind onSamePower_trans ?_ fun _ => within_pure onSamePower_refl _
    refine within_bind onSamePower_trans (within_when onSamePower_refl ?_) fun _ => ?_
    · refine within_bind onSamePower_trans (within_onDevice (samePower_onPipe _)) fun found => ?_
      cases found with
      | some req =>
        exact within_bind onSamePower_trans (within_attempt (onSamePower_dispatch req)) fun _ =>
          within_pure onSamePower_refl _
      | none => exact within_when onSamePower_refl (within_onDevice samePower_completeIn)
    · have hEndpoints : Within (OnDevices UsbDevice.SamePower) (Session.pollEndpoints epOut epIn epSetup
          (Session.maxEndpoints - 1) 1 2 ((epOut ||| epIn ||| epSetup) &&& ~~~1) : SessionM B C Unit) :=
        (foreign_pollEndpoints _ _ _ _ _ _ _).mono fun _ _ => samePower_of_foreign
      exact within_bind onSamePower_trans (within_when onSamePower_refl hEndpoints) fun _ =>
        onSamePower_notify .poll UsbClass.poll

theorem onSamePower_poll :
    Within (OnDevices UsbDevice.SamePower) (Session.poll : SessionM B C Bool) := by
  refine within_bind onSamePower_trans (onSamePower_onBus _) fun pr => ?_
  refine within_bind onSamePower_trans (within_get onSamePower_refl) fun s => ?_
  refine within_ite ?_ (onSamePower_handleEvent pr)
  refine within_ite (within_pure onSamePower_refl _) ?_
  refine within_bind onSamePower_trans ?_ fun _ => onSamePower_handleEvent pr
  refine within_bind onSamePower_trans (onSamePower_onBus _) fun _ => ?_
  refine within_bind onSamePower_trans (within_get onSamePower_refl) fun _ => ?_
  refine within_bind onSamePower_trans (within_ofOption onSamePower_refl _ _) fun _ => ?_
  exact within_onDevice (within_modify fun _ => rfl)

end Power

/-- No packet on EP0-IN has been refused after the input. -/
def WritesSucceed (input : DeviceInput B C) (s : Session B C) : Prop :=
  ∀ r t, input.perform s = .done r t → refused (.control .in_) t.device.control.bus.trace = []

theorem writesSucceed_of_done {input : DeviceInput B C} {s t : Session B C}
    {r : Except UsbError (Option Bool)} (hStep : input.perform s = .done r t)
    (hNone : (refused (.control .in_) t.device.control.bus.trace).length = 0) :
    WritesSucceed input s := by
  intro r' t' hDone
  rw [hStep] at hDone
  cases hDone
  exact List.eq_nil_of_length_eq_zero hNone

section Run

variable {acts more : List Act} {s t : Session B C} {input : DeviceInput B C}
  {inputs : List (DeviceInput B C)}

def Act.setsPower : Act → Bool
  | .selfPowered _ => true
  | _ => false

theorem poweredBy_append (hMore : ∀ act ∈ more, act.setsPower = false) :
    poweredBy (acts ++ more) = poweredBy acts := by
  induction more generalizing acts with
  | nil => rw [List.append_nil]
  | cons act rest ih =>
    rw [List.append_cons]
    apply (ih fun act hAct => hMore act (List.mem_cons_of_mem _ hAct)).trans
    have hKeeps := hMore act List.mem_cons_self
    rw [poweredBy, List.foldl_append]
    cases act with
    | selfPowered b => cases hKeeps
    | _ => rfl

omit [UsbBus B] [UsbClass C] in
theorem setsPower_of_between : ∀ act ∈ actsBetween s t, act.setsPower = false := by
  intro act hAct
  obtain ⟨event, -, hSome⟩ := List.mem_filterMap.mp hAct
  cases event with
  | setStalled addr b =>
    rw [Event.act?] at hSome
    split at hSome
    · cases hSome
    · cases hSome
      rfl
  | reset =>
    cases hSome
    rfl
  | setDeviceAddress addr =>
    cases hSome
    rfl
  | _ => cases hSome

theorem setsPower_of_poll : ∀ act ∈ pollActs s t, act.setsPower = false := by
  intro act hAct
  unfold pollActs at hAct
  split at hAct
  · rename_i req u v _
    rcases List.mem_append.mp hAct with hFirst | hAfter
    · rcases List.mem_append.mp hFirst with hBefore | hAnswer
      · exact setsPower_of_between act hBefore
      · rcases List.mem_append.mp hAnswer with hOwn | hAccepted
        · exact setsPower_of_between act (List.mem_filter.mp hOwn).1
        · split at hAccepted
          · rw [List.mem_singleton.mp hAccepted]
            rfl
          · cases hAccepted
    · exact setsPower_of_between act hAfter
  · exact setsPower_of_between act hAct

/-- Every input adds the acts that it stands for. -/
theorem tracks_perform (hWell : s.device.WellFormed) (hTracks : s.device.Tracks acts)
    (hPower : s.device.selfPowered = poweredBy acts) (hLeft : LeftToDevice input s)
    {r : Except UsbError (Option Bool)} (h : input.perform s = .done r t)
    (hWritten : refused (.control .in_) t.device.control.bus.trace = []) :
    t.device.Tracks (acts ++ input.acts s t) ∧
      t.device.selfPowered = poweredBy (acts ++ input.acts s t) := by
  have hBetween (hFrom : t.device.TracksFrom acts s.device.control.bus.trace.length)
      (hSame : s.device.SamePower t.device) : t.device.Tracks (acts ++ actsBetween s t) ∧
        t.device.selfPowered = poweredBy (acts ++ actsBetween s t) := by
    refine ⟨hFrom.2, ?_⟩
    rw [poweredBy_append setsPower_of_between]
    exact hSame.trans hPower
  cases input with
  | poll =>
    have hPoll : Post True (DeviceInput.poll.perform : SessionM B C (Option Bool)) (fun _ t =>
        t.device.TracksPoll acts s) s :=
      post_then (P := fun t : Session B C => t.device.TracksPoll acts s)
        (post_poll_tracks hWell hTracks hLeft) fun _ _ ht => ht
    have hSame : Within (OnDevices UsbDevice.SamePower)
        (DeviceInput.poll.perform : SessionM B C (Option Bool)) :=
      within_bind onSamePower_trans onSamePower_poll fun _ => within_pure onSamePower_refl _
    refine ⟨(post_of_done hPoll h).tracks hWritten, ?_⟩
    change _ = poweredBy (acts ++ pollActs s t)
    rw [poweredBy_append setsPower_of_poll]
    exact (hSame.of_done h).trans hPower
  | hardware bus =>
    cases h
    exact hBetween (hTracks.now.withPipe ⟨[], (List.append_nil _).symm, by simp⟩) rfl
  | setClasses classes =>
    cases h
    exact hBetween hTracks.now rfl
  | useEndpoints m =>
    have hForeign : Foreign s.device t.device := (foreign_useEndpoints m).of_done h
    have hBackground :=
      UsbDevice.background_tracksFrom (B := B) acts s.device.control.bus.trace.length
    exact hBetween (hBackground.stable _ _ hTracks.now hForeign) (samePower_of_foreign hForeign)
  | setSelfPowered b =>
    cases h
    refine ⟨⟨?_, fun addr hAddr => ?_, ?_, hTracks.remembered⟩, ?_⟩
    · change _ = wakeup (acts ++ [.selfPowered b])
      rw [wakeup, List.foldl_append]
      exact hTracks.wakeup
    · change _ = halted addr (acts ++ [.selfPowered b])
      rw [halted, List.foldl_append]
      exact hTracks.halted addr hAddr
    · change _ = configured (acts ++ [.selfPowered b])
      rw [configured, List.foldl_append]
      exact hTracks.configured
    · change _ = poweredBy (acts ++ [.selfPowered b])
      rw [poweredBy, List.foldl_append]
      rfl

/-- After a run the device agrees with the acts of the run. -/
theorem tracks_run (hWell : s.device.WellFormed) (hTracks : s.device.Tracks acts)
    (hPower : s.device.selfPowered = poweredBy acts)
    (hLeft : Along DeviceInput.perform LeftToDevice inputs s)
    (hWrites : Along DeviceInput.perform WritesSucceed inputs s)
    (hFinal : finalState DeviceInput.perform inputs s = some t) :
    t.device.WellFormed ∧ t.device.Tracks (acts ++ history inputs s) ∧
      t.device.selfPowered = poweredBy (acts ++ history inputs s) := by
  induction inputs generalizing s acts with
  | nil =>
    cases hFinal
    rw [history, List.append_nil]
    exact ⟨hWell, hTracks, hPower⟩
  | cons input rest ih =>
    rw [finalState] at hFinal
    split at hFinal
    · rename_i r u hStep
      obtain ⟨hTracks', hPower'⟩ :=
        tracks_perform hWell hTracks hPower hLeft.1 hStep (hWrites.1 r u hStep)
      have hWell' := post_of_done (wellFormed_perform hWell input) hStep
      rw [history, hStep, ← List.append_assoc]
      exact ih hWell' hTracks' hPower' (hLeft.2 r u hStep) (hWrites.2 r u hStep) hFinal
    · cases hFinal

end Run

/-- What the host reads back, as a function of the acts alone. -/
def report (acts : List Act) (req : Request) : Option (List UInt8) :=
  if req.recipient = .device ∧ req.request = Request.getStatus then
    some (toLeBytes ((if poweredBy acts then 0x0001 else 0x0000) |||
      (if wakeup acts then 0x0002 else 0x0000)))
  else if req.recipient = .endpoint ∧ req.request = Request.getStatus ∧
      req.endpointAddress.index ≠ 0 then
    some (toLeBytes (if halted req.endpointAddress acts then 0x0001 else 0x0000))
  else if req.recipient = .device ∧ req.request = Request.getConfiguration then
    some [if configured acts then 1 else 0]
  else none

section Report

variable {s t : Session B C} {d : UsbDevice B} {req : Request} {acts : List Act}
  {bytes : List UInt8}

/-- The answers that report the state are those of the acts. -/
theorem standardControlIn_of_tracks (hTracks : t.device.Tracks acts)
    (hPower : t.device.selfPowered = poweredBy acts) (hAwake : t.device.deviceState ≠ .suspend)
    (hStalled : UsbBus.isStalled t.device.control.bus.bus req.endpointAddress =
      stalled req.endpointAddress t.device.control.bus.trace)
    (hReport : report acts req = some bytes) :
    Session.standardControlIn req t = Session.acceptWith bytes t := by
  have hUnderlying : t.device.underlying = t.device.deviceState := by
    rw [UsbDevice.underlying, hTracks.remembered hAwake]
    rfl
  have hConfigured := hTracks.configured
  rw [hUnderlying] at hConfigured
  rw [Session.standardControlIn, bind_apply, get_apply]
  dsimp only
  unfold report at hReport
  split at hReport
  · rename_i hDevice
    have hArm : req.standardIn = .deviceStatus := if_pos hDevice
    cases hReport
    rw [hArm, ← hPower, ← hTracks.wakeup]
  · rename_i hNotDevice
    split at hReport
    · rename_i hEndpoint
      have hArm : req.standardIn = .endpointStatus := by
        have hNotInterface : ¬ (req.recipient = .interface ∧ req.request = Request.getStatus) := by
          rintro ⟨hInterface, -⟩
          rw [hEndpoint.1] at hInterface
          cases hInterface
        rw [Request.standardIn, if_neg hNotDevice, if_neg hNotInterface,
          if_pos ⟨hEndpoint.1, hEndpoint.2.1⟩]
      cases hReport
      rw [hArm, ← hTracks.halted _ hEndpoint.2.2, ← hStalled]
      rfl
    · split at hReport
      · rename_i hConfiguration
        have hArm : req.standardIn = .configuration := by
          obtain ⟨hDevice, hRequest⟩ := hConfiguration
          rw [Request.standardIn, hDevice, hRequest]
          rfl
        cases hReport
        rw [hArm, ← hConfigured]
        dsimp only
        by_cases hState : t.device.deviceState = .configured
        · rw [if_pos hState, if_pos (decide_eq_true hState)]
          rfl
        · rw [if_neg hState, if_neg (by rw [decide_eq_false hState]; exact Bool.noConfusion)]
          rfl
      · cases hReport

/-- In every run in which the classes leave the standard requests to the device and the bus takes the
packets of endpoint 0, the next request is answered with what the acts of the run amount to. -/
theorem reports_history [UsbBus.Contract B] (hFresh : d.Fresh) {classes : List C}
    {inputs : List (DeviceInput B C)}
    (hLeft : Along DeviceInput.perform LeftToDevice inputs ⟨d, classes⟩)
    (hWrites : Along DeviceInput.perform WritesSucceed inputs ⟨d, classes⟩)
    (hFinal : finalState DeviceInput.perform inputs ⟨d, classes⟩ = some s)
    {epOut epIn epSetup : UInt16} {e : UsbDevice B} {p : ControlPipe B}
    (hEvent : s.device.event? = some (.data epOut epIn epSetup, e))
    (hReceive : Session.receive epOut epSetup e.control = .done (.ok (some req)) p)
    (hOffer : Session.firstClass (offer (callControl req)) { s with device := e.withPipe p } =
      .done (.ok none) t)
    (hStalled : UsbBus.isStalled t.device.control.bus.bus req.endpointAddress =
      stalled req.endpointAddress t.device.control.bus.trace)
    (hReport : report (history inputs ⟨d, classes⟩ ++ actsBetween s t) req = some bytes) :
    Session.standardControlIn req t = Session.acceptWith bytes t := by
  have hPowered : d.selfPowered = poweredBy [] := by
    obtain ⟨builder, u, -, -, -, rfl⟩ := hFresh.built
    rfl
  obtain ⟨hWell, hTracks, hPower⟩ :=
    tracks_run hFresh.initial.wellFormed (.of_fresh hFresh) hPowered hLeft hWrites hFinal
  rw [List.nil_append] at hTracks hPower
  have hBackground := UsbDevice.background_tracksFrom (B := B)
    (history inputs ⟨d, classes⟩) s.device.control.bus.trace.length
  have hReceives := ControlPipe.Receives.of_receive hReceive
  have hWell' := background_wellFormed.event hWell hEvent
  have hAwaits := hReceives.awaits hWell'.data
  have hReceived := (hBackground.event hTracks.now hEvent).withPipe
    (hReceives.grows.mono fun _ => keepsAddress_of_receive)
  obtain ⟨-, -, -, q, -, hDevice, -⟩ := offered_of_firstClass hAwaits hOffer
  apply standardControlIn_of_tracks
    (tracks_offered (hWell'.withPipe hReceives.frame) hAwaits hReceived hOffer) ?_ ?_ hStalled hReport
  · rw [poweredBy_append setsPower_of_between, hDevice]
    exact (samePower_event hEvent).trans hPower
  · have hAwake : e.deviceState ≠ .suspend := hWell.awake hEvent
    rw [hDevice]
    exact hAwake

/-- SET_FEATURE(DEVICE_REMOTE_WAKEUP) with its status stage, then GET_STATUS. -/
def wakeupBus : ScriptBus :=
  ⟨[.ok [0x00, 3, 1, 0, 0, 0, 0, 0], .ok [0x80, 0, 0, 0, 0, 0, 2, 0]], [.ok 0, .ok 2],
    [.data 0 0 1, .data 0 1 0, .data 0 0 1]⟩

def wakefulSession : Session ScriptBus DefaultClass :=
  (DeviceInput.poll.perform
    ⟨wakeupBus.device.setSelfPowered true, ([] : List DefaultClass)⟩).state?.get (by decide +kernel)

def awaitingSession : Session ScriptBus DefaultClass :=
  (DeviceInput.poll.perform wakefulSession).state?.get (by decide +kernel)

def wakefulRequest : Request := ⟨.in_, .standard, .device, 0, 0, 0, 2⟩

def wakefulPipe : ControlPipe ScriptBus :=
  (Session.receive 0 1 awaitingSession.device.polled.control).state?.get (by decide +kernel)

/-- The host reads both flags of the device. -/
theorem reports_history_wakeup :
    Session.standardControlIn wakefulRequest
        (⟨awaitingSession.device.polled.withPipe wakefulPipe, []⟩ : Session ScriptBus DefaultClass) =
      Session.acceptWith [3, 0] ⟨awaitingSession.device.polled.withPipe wakefulPipe, []⟩ := by
  have hPower : (DeviceInput.setSelfPowered true).perform (wakeupBus.session []) =
      .done (.ok none) ⟨wakeupBus.device.setSelfPowered true, []⟩ := rfl
  have hFirst : DeviceInput.poll.perform
      (⟨wakeupBus.device.setSelfPowered true, []⟩ : Session ScriptBus DefaultClass) =
      .done (.ok (some true)) wakefulSession :=
    Outcome.eq_done (by decide +kernel) (Option.some_get _).symm
  have hSecond : DeviceInput.poll.perform wakefulSession = .done (.ok (some true)) awaitingSession :=
    Outcome.eq_done (by decide +kernel) (Option.some_get _).symm
  have hNil {s : Session ScriptBus DefaultClass} (h : s.classes.length = 0) : s.classes = [] :=
    List.eq_nil_of_length_eq_zero h
  have hLeft : Along DeviceInput.perform LeftToDevice [.setSelfPowered true, .poll, .poll]
      (wakeupBus.session []) :=
    along_cons (leftToDevice_of_nil rfl) hPower (along_cons (leftToDevice_of_nil rfl) hFirst
      (along_cons (leftToDevice_of_nil (hNil (by decide +kernel))) hSecond trivial))
  have hWrites : Along DeviceInput.perform WritesSucceed [.setSelfPowered true, .poll, .poll]
      (wakeupBus.session []) :=
    along_cons (writesSucceed_of_done hPower rfl) hPower
      (along_cons (writesSucceed_of_done hFirst (by decide +kernel)) hFirst
        (along_cons (writesSucceed_of_done hSecond (by decide +kernel)) hSecond trivial))
  have hFinal : finalState DeviceInput.perform [.setSelfPowered true, .poll, .poll]
      (wakeupBus.session []) = some awaitingSession := by
    rw [finalState_cons hPower, finalState_cons hFirst, finalState_cons hSecond]
    rfl
  have hReceive : Session.receive 0 1 awaitingSession.device.polled.control =
      .done (.ok (some wakefulRequest)) wakefulPipe :=
    Outcome.eq_done (by decide +kernel) (Option.some_get _).symm
  have hEvent : awaitingSession.device.event? =
      some (.data 0 0 1, awaitingSession.device.polled) := by
    have hAwake : awaitingSession.device.deviceState ≠ .suspend := by decide +kernel
    have hPoll : (UsbBus.poll awaitingSession.device.control.bus.bus).1 = .data 0 0 1 := by
      decide +kernel
    rw [UsbDevice.event?_of_awake hAwake, hPoll]
  have hClasses : awaitingSession.classes = [] := hNil (by decide +kernel)
  exact reports_history (ScriptBus.fresh_device _) hLeft hWrites hFinal hEvent hReceive
    (by rw [hClasses]; rfl) (by decide +kernel) (by decide +kernel)

end Report

end UsbStack
