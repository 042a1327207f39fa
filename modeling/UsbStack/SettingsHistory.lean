import UsbStack.Acts
import UsbStack.AlternateSettings
import UsbStack.ReadBack
import UsbStack.Visits

/-! # The settings that the host reads back

In a run of GET_INTERFACE and SET_INTERFACE requests the settings of the classes follow from the
requests that were accepted.
-/

namespace UsbStack

set_option autoImplicit false

open Foundation Exec Registry

variable {B C : Type} [UsbBus B]

namespace ControlPipe

def Fits (p : ControlPipe B) : Prop :=
  match p.state with
  | .dataOut _ | .completeOut => p.len ≤ p.buf.length
  | _ => True

variable {p q : ControlPipe B}

omit [UsbBus B] in
theorem Fits.congr (h : p.Fits) (hState : q.state = p.state) (hLen : q.len = p.len)
    (hLength : q.buf.length = p.buf.length) : q.Fits := by
  unfold Fits at h ⊢
  rw [hState, hLen, hLength]
  exact h

omit [UsbBus B] in
theorem fits_of_transmits (h : Transmits p.state) : p.Fits := by
  unfold Fits
  cases hState : p.state with
  | dataOut req | completeOut =>
    rw [hState] at h
    exact h.elim
  | _ => trivial

theorem AnswersIn.fits (h : AnswersIn p q) (hp : p.Fits) : q.Fits := by
  cases h with
  | kept buf hLength => exact hp.congr rfl rfl hLength
  | errored buf _ _ => trivial
  | transmitted _ hSent => exact fits_of_transmits hSent.state

theorem AcceptsOut.fits {r : Except UsbError Unit} (h : AcceptsOut p r q) (hp : p.Fits) : q.Fits := by
  cases h with
  | unexpected _ => exact hp
  | refused _ _ => exact hp.congr rfl rfl rfl
  | accepted _ => trivial

theorem Completes.fits {r : Except UsbError Bool} (h : Completes p r q) (hp : p.Fits) : q.Fits := by
  cases h with
  | ignored _ => exact hp
  | transmitted _ hSent _ => exact fits_of_transmits hSent.state
  | last _ => trivial
  | status _ => trivial

theorem fits_begun (req : Request) (hp : p.Fits) : (p.begun req).2.Fits := by
  unfold begun
  dsimp only
  split
  · split
    · split
      · exact hp.congr rfl rfl rfl
      · exact Nat.not_lt.mp ‹_›
    · exact Nat.zero_le _
  · trivial

theorem Receives.fits {epSetup : UInt16} {found : Option Request} (h : Receives epSetup p found q)
    (hp : p.Fits) : q.Fits := by
  have hLoaded {start : Nat} {packet : List UInt8} (hRoom : start + packet.length ≤ p.buf.length) :
      (p.loaded start packet).Fits := hp.congr rfl rfl (length_overwrite hRoom)
  cases h with
  | nothing => exact hp
  | unread len => exact hp.congr rfl rfl rfl
  | unparsed packet hFits => exact hLoaded (by omega)
  | setup packet req _ _ hFits _ => exact fits_begun req (hLoaded (by omega))
  | failed req len _ => trivial
  | more req packet _ hFits => exact (hLoaded hFits).congr rfl rfl rfl
  | complete req packet hState hFits =>
    unfold Fits at hp
    rw [hState] at hp
    change p.len ≤ (overwrite p.buf p.i packet).length
    rw [length_overwrite hFits]
    exact hp
  | status _ => trivial
  | unexpected _ => trivial

end ControlPipe

structure UsbDevice.Ample (d : UsbDevice B) : Prop where
  size : 8 ≤ d.control.epIn.maxPacketSize.toNat
  fits : d.control.Fits

section Ample

variable {d d' : UsbDevice B}

omit [UsbBus B] in
theorem UsbDevice.Ample.withPipe (h : d.Ample) {p : ControlPipe B}
    (hFrame : ControlPipe.SameFrame d.control p) (hFits : p.Fits) : (d.withPipe p).Ample := by
  refine ⟨?_, hFits⟩
  change 8 ≤ p.epIn.maxPacketSize.toNat
  rw [hFrame.epIn]
  exact h.size

omit [UsbBus B] in
theorem UsbDevice.Ample.withBus (h : d.Ample) (t : Traced B) : (d.withBus t).Ample := ⟨h.size, h.fits⟩

theorem background_ample : Background (UsbDevice.Ample : UsbDevice B → Prop) where
  events _ t h _ := h.withBus t
  resume _ _ h _ := ⟨h.size, h.fits⟩
  suspend _ h _ := ⟨h.size, h.fits⟩
  reset _ h := ⟨h.size, trivial⟩
  selfPowered _ _ h := ⟨h.size, h.fits⟩

variable [UsbClass C]

theorem UsbDevice.Ample.controlStep {req : Request} {allowed : UsbDevice B → Prop}
    (hStep : ControlStep B C req allowed d d') (h : d.Ample) : d'.Ample := by
  cases hStep with
  | foreign hGrows => exact h.withBus _
  | answer hAnswers => exact h.withPipe hAnswers.frame.toSameFrame (hAnswers.fits h.fits)
  | acceptOut _ hAccepts => exact h.withPipe hAccepts.frame.toSameFrame (hAccepts.fits h.fits)
  | setHalt stalled hReq => exact h.withBus _
  | _ => exact ⟨h.size, h.fits⟩

theorem ample_pollControl {s : Session B C} {epOut epIn epSetup : UInt16} (h : s.device.Ample) :
    Post True (Session.pollControl epOut epIn epSetup) (fun _ t => t.device.Ample) s := by
  apply post_pollControl_of_steps
  case hReceives =>
    intro found p hReceive
    have hReceives := ControlPipe.Receives.of_receive hReceive
    exact h.withPipe hReceives.frame.toSameFrame (hReceives.fits h.fits)
  case hStep => exact fun req p _ d e hStep hd => hd.controlStep hStep
  case hCompletes =>
    intro d r q hCompletes hd
    exact hd.withPipe hCompletes.frame.toSameFrame (hCompletes.fits hd.fits)
  case hAddress => exact fun d hd => ⟨hd.size, hd.fits⟩

theorem Session.Reachable.ample [UsbBus.Contract B] {s : Session B C} (h : s.Reachable) :
    s.device.Ample := by
  obtain ⟨d, classes, hFresh, hReaches⟩ := h
  have hFirst : d.Ample := by
    obtain ⟨builder, t, hMade, -, -, rfl⟩ := hFresh.built
    refine ⟨?_, trivial⟩
    change 8 ≤ builder.config.maxPacketSize0.toUInt16.toNat
    rw [UInt8.toNat_toUInt16]
    exact hMade.eight_le
  refine (hReaches.invariant (I := fun s => s.device.WellFormed ∧ s.device.Ample)
    ⟨hFresh.initial.wellFormed, hFirst⟩ fun input t ht => ?_).2
  apply (wellFormed_perform ht.1 input).and
  cases input with
  | poll =>
    exact post_then (post_poll_of_background background_ample background_ample.stable (fun _ => id)
      ht.1 ht.2 fun _ _ _ _ _ hd => ample_pollControl hd) fun _ _ hu => hu
  | _ =>
    refine post_perform_of_background background_ample ht.2 fun hPoll => ?_
    cases hPoll

end Ample

namespace ControlPipe

def StaysBare (p q : ControlPipe B) : Prop := p.staticInBuf = none → q.staticInBuf = none

variable {p q : ControlPipe B}

theorem bare_of_writeInChunk {r : Except UsbError Unit} (h : writeInChunk p = .done r q) :
    StaysBare p q := by
  intro hp
  rw [writeInChunk_apply] at h
  split at h
  · cases h
  · split at h
    · cases h
    · split at h
      · cases h
        exact hp
      · rename_i written _
        split at h
        · cases h
        · cases h
          rcases Nat.lt_or_ge (p.i + written) p.len with hLt | hLe
          · rw [advanced_of_lt p hLt]
            exact hp
          · rw [advanced_of_le p hLe]

theorem bare_acceptIn (f : SliceFn) : Within StaysBare (acceptIn f.run : PipeM B Unit) := by
  intro p
  rw [post_true_iff]
  intro r q hDone hp
  by_cases hIn : ∃ req, p.state = .completeIn req
  · obtain ⟨req, hState⟩ := hIn
    rw [acceptIn_completeIn p hState] at hDone
    split at hDone
    · cases hDone
    · cases hDone
      exact hp
    · split at hDone
      · cases hDone
        exact hp
      · exact bare_of_writeInChunk hDone hp
  · rw [acceptIn_of_ne p fun req hReq => hIn ⟨req, hReq⟩] at hDone
    cases hDone
    exact hp

theorem bare_handleInComplete : Within StaysBare (handleInComplete : PipeM B Bool) := by
  intro p
  rw [post_true_iff]
  intro r q hDone hp
  cases hState : p.state with
  | dataIn =>
    rw [handleInComplete_dataIn p hState] at hDone
    cases hWrite : writeInChunk p with
    | panic reason =>
      rw [hWrite] at hDone
      cases hDone
    | done result s =>
      rw [hWrite] at hDone
      cases result <;> cases hDone <;> exact bare_of_writeInChunk hWrite hp
  | dataInZlp =>
    rw [handleInComplete_dataInZlp p hState] at hDone
    split at hDone <;> cases hDone <;> exact hp
  | dataInLast =>
    rw [handleInComplete_dataInLast p hState] at hDone
    cases hDone
    exact hp
  | statusIn =>
    rw [handleInComplete_statusIn p hState] at hDone
    cases hDone
    exact hp
  | idle | completeIn req | statusOut | completeOut | dataOut req | error =>
    rw [handleInComplete_unsending p (by rw [hState]; trivial)] at hDone
    cases hDone
    exact hp

theorem Receives.bare {epSetup : UInt16} {found : Option Request} (h : Receives epSetup p found q) :
    StaysBare p q := by
  intro hp
  cases h with
  | setup packet req _ _ _ _ =>
    rcases (p.loaded 0 packet).begun_cases req with
      ⟨-, hBegun⟩ | ⟨-, hBegun⟩ | ⟨-, hBegun⟩ | ⟨-, hBegun⟩ <;> rw [hBegun] <;> exact hp
  | _ => exact hp

end ControlPipe

/-- The setting of interface `i` after a request that was accepted. -/
def Request.choose (i : InterfaceNumber) (now : UInt8) (req : Request) : UInt8 :=
  if req.SetsInterface ∧ req.index = i.value.toUInt16 then req.value.toUInt8 else now

/-- The setting that the last of the accepted requests for interface `i` chose. -/
def lastSetting (i : InterfaceNumber) (initial : UInt8) (reqs : List Request) : UInt8 :=
  reqs.foldl (Request.choose i) initial

theorem lastSetting_concat (i : InterfaceNumber) (initial : UInt8) (reqs : List Request)
    (req : Request) :
    lastSetting i initial (reqs ++ [req]) = req.choose i (lastSetting i initial reqs) :=
  List.foldl_concat _ _ _ _

variable [UsbClass C]

/-- The request that an input hands out and the device accepts. -/
def DeviceInput.accepted? (s : Session B C) : DeviceInput B C → Option Request
  | poll => (dispatched s).bind fun found =>
      if found.2.2.device.control.state = .statusIn then some found.1 else none
  | _ => none

def acceptedRequests : List (DeviceInput B C) → Session B C → List Request
  | [], _ => []
  | input :: rest, s =>
    match input.perform s with
    | .done _ t => (input.accepted? s).toList ++ acceptedRequests rest t
    | .panic _ => []

section Choice

variable {maps : Registry InterfaceNumber UInt8} {i j : InterfaceNumber} {alternative : UInt8}

omit [UsbBus B] [UsbClass C] in
theorem shown_assign (h : (lookup maps i).isSome ∨ alternative = 0) :
    shown (assign i alternative maps) j = if j = i then alternative else shown maps j := by
  rw [shown, lookup_assign]
  by_cases hSame : j = i
  · subst hSame
    rw [set_same, if_pos rfl]
    cases hFound : lookup maps j with
    | some now => rfl
    | none =>
      rw [hFound] at h
      exact (h.resolve_left Bool.false_ne_true).symm
  · rw [set_of_ne hSame, if_neg hSame]
    rfl

omit [UsbBus B] [UsbClass C] in
theorem index_eq_iff {req : Request} (hNarrow : ¬ 255 < req.index) :
    req.index = i.value.toUInt16 ↔ i = req.interface := by
  have hIndex : req.index.toNat ≤ 255 := UInt16.le_iff_toNat_le.mp (UInt16.not_lt.mp hNarrow)
  have hValue := i.value.toNat_lt
  constructor
  · intro hSame
    rw [Request.interface, hSame, UInt8.toUInt8_toUInt16]
  · intro hSame
    rw [hSame]
    apply UInt16.toNat_inj.mp
    change _ = req.index.toUInt8.toUInt16.toNat
    rw [UInt8.toNat_toUInt16, UInt16.toNat_toUInt8]
    omega

omit [UsbBus B] [UsbClass C] in
theorem choose_of_narrow {req : Request} {now : UInt8} (hSets : req.SetsInterface)
    (hNarrow : ¬ 255 < req.index) :
    req.choose i now = if i = req.interface then req.value.toUInt8 else now :=
  if_congr ((and_iff_right hSets).trans (index_eq_iff hNarrow)) rfl rfl

end Choice

section Poll

variable {setting : C → InterfaceNumber → Option UInt8} {initial : InterfaceNumber → UInt8}
  {reqs : List Request} {s t u : Session B C} {d : UsbDevice B} {req : Request} {α : Type}

variable (setting initial reqs) in
/-- An interface has one owner at most, and its setting is what `reqs` have made of the initial one. -/
structure Session.Carries (t : Session B C) : Prop where
  bare : t.device.control.staticInBuf = none
  apart : Apart (t.settings setting)
  chosen : ∀ i, shown (t.settings setting) i = lastSetting i (initial i) reqs

variable (setting initial reqs) in
def Session.Arrives (t : Session B C) : Prop :=
  refused (.control .in_) t.device.control.bus.trace = [] → t.Carries setting initial reqs

omit [UsbBus B] [UsbClass C] in
theorem Session.Carries.same (h : s.Carries setting initial reqs)
    (hBare : t.device.control.staticInBuf = none) (hSettings : t.settings setting = s.settings setting) :
    t.Carries setting initial reqs := by
  refine ⟨hBare, ?_, ?_⟩ <;> rw [hSettings]
  · exact h.apart
  · exact h.chosen

omit [UsbClass C] in
theorem Session.Arrives.kept (h : t.Arrives setting initial reqs)
    (hKept : t.Kept (KeepsSettings setting) u) : u.Arrives setting initial reqs := by
  intro hWritten
  have hSettings := hKept.settings
  obtain ⟨bus, hUse, hDevice⟩ := hKept.device
  rw [hDevice] at hWritten
  have hCarries := h (refused_of_grows hUse.grows hWritten)
  refine hCarries.same ?_ hSettings
  rw [hDevice]
  exact hCarries.bare

omit [UsbClass C] in
theorem bare_of_foreign {d e : UsbDevice B} (h : Foreign d e) (hd : d.control.staticInBuf = none) :
    e.control.staticInBuf = none := by
  obtain ⟨t, -, rfl⟩ := h
  exact hd

omit [UsbClass C] in
theorem bare_of_event {d e : UsbDevice B} {pr : PollResult} (h : d.event? = some (pr, e))
    (hd : d.control.staticInBuf = none) : e.control.staticInBuf = none := by
  obtain ⟨bus, hControl⟩ := UsbDevice.control_of_event h
  rw [hControl]
  exact hd

omit [UsbBus B] [UsbClass C] in
theorem Session.Carries.unaccepted (h : s.Carries setting initial reqs) {more : Option Request}
    (hMore : more = if t.device.control.state = .statusIn then some req else none)
    (hBare : t.device.control.staticInBuf = none) (hState : t.device.control.state ≠ .statusIn)
    (hSettings : t.settings setting = s.settings setting) :
    t.Carries setting initial (reqs ++ more.toList) := by
  rw [hMore, if_neg hState, Option.toList_none, List.append_nil]
  exact h.same hBare hSettings

section Dispatch

variable {r : Except UsbError Unit} {more : Option Request} (hs : s.Carries setting initial reqs)
  (hPresents : s.device.Presents req)
  (hMore : more = if t.device.control.state = .statusIn then some req else none)
include hs hPresents hMore

omit [UsbClass C] in
theorem Session.Carries.rejected (hForeign : Foreign s.device u.device)
    (hSame : u.settings setting = s.settings setting) (hAnswer : Session.reject u = .done r t) :
    t.Carries setting initial (reqs ++ more.toList) := by
  have hBare : u.device.control.staticInBuf = none := bare_of_foreign hForeign hs.bare
  rw [reject_of_waiting (presents_of_foreign hPresents hForeign).awaits.waiting] at hAnswer
  cases hAnswer
  refine hs.unaccepted hMore hBare (fun hState => ?_) hSame
  cases hState

omit [UsbClass C] in
theorem Session.Carries.answered (hGets : req.GetsInterface)
    (hRoom : 1 ≤ s.device.control.buf.length) (hKept : s.Kept (KeepsSettings setting) u)
    {now : UInt8} (hAnswer : Session.acceptWith [now] u = .done r t) :
    t.Carries setting initial (reqs ++ more.toList) := by
  have hState := (presents_of_foreign hPresents hKept.device).completeIn hGets.2.1
  have hBare : u.device.control.staticInBuf = none := bare_of_foreign hKept.device hs.bare
  have hRoom' : [now].length ≤ u.device.control.buf.length := by
    obtain ⟨bus, -, hDevice⟩ := hKept.device
    rw [hDevice]
    exact hRoom
  have hTransmits := post_of_done (post_acceptWith_transmits hState hRoom') hAnswer
  obtain ⟨q, hAccept, rfl⟩ := Session.of_onPipe hAnswer
  refine hs.unaccepted hMore ((ControlPipe.bare_acceptIn (.copy _)).of_done hAccept hBare)
    (fun hStatus => ?_) hKept.settings
  rw [hStatus] at hTransmits
  exact hTransmits.elim

omit [UsbClass C] in
/-- An accepted SET_INTERFACE is the last one for its interface. -/
theorem Session.Carries.switched (hSets : req.SetsInterface) (hNarrow : ¬ req.Wide)
    (hIn : s.device.control.epIn.address = .control .in_) (hForeign : Foreign s.device u.device)
    (hAssigned : u.settings setting =
      assign req.interface req.value.toUInt8 (s.settings setting))
    (hOwner : (lookup (s.settings setting) req.interface).isSome ∨ req.value = 0)
    (hAnswer : Session.accept u = .done r t) :
    t.Arrives setting initial (reqs ++ more.toList) := by
  intro hWritten
  have hState := (presents_of_foreign hPresents hForeign).completeOut hSets.2.1
  have hBare : u.device.control.staticInBuf = none := bare_of_foreign hForeign hs.bare
  have hAddr : u.device.control.epIn.address = .control .in_ := by
    obtain ⟨bus, -, hDevice⟩ := hForeign
    rw [hDevice]
    exact hIn
  obtain ⟨q, hAccept, rfl⟩ := Session.of_onPipe hAnswer
  cases ControlPipe.acceptsOut_of_acceptOut hAccept with
  | unexpected hNot => exact absurd hState hNot
  | refused _ hWrite =>
    change refused (.control .in_) (u.device.control.offered []).bus.trace = [] at hWritten
    rw [ControlPipe.offered, Traced.trace_writing, refused_append, hWrite, hAddr] at hWritten
    cases (List.append_eq_nil_iff.mp hWritten).2
  | accepted _ =>
    rw [hMore]
    have hZero : (lookup (s.settings setting) req.interface).isSome ∨ req.value.toUInt8 = 0 := by
      refine hOwner.imp_right fun hValue => ?_
      rw [hValue]
      rfl
    refine ⟨hBare, ?_, fun i => ?_⟩
    · change Apart (u.settings setting)
      rw [hAssigned]
      exact hs.apart.assign _ _
    · change shown (u.settings setting) i = lastSetting i (initial i) (reqs ++ [req])
      rw [hAssigned, shown_assign hZero, lastSetting_concat,
        choose_of_narrow hSets fun hIndex => hNarrow (.inl hIndex), hs.chosen]

theorem arrives_dispatch (hSettings : HasAltSettings setting)
    (hReq : req.GetsInterface ∨ req.SetsInterface)
    (hIn : s.device.control.epIn.address = .control .in_) (hRoom : 1 ≤ s.device.control.buf.length)
    (hDispatch : Session.dispatch req s = .done r t) :
    t.Arrives setting initial (reqs ++ more.toList) := by
  by_cases hWide : req.Wide
  · obtain ⟨u, hKept, -, hAnswer⟩ := dispatch_wide hSettings hReq hWide hPresents hIn
    exact fun _ => hs.rejected hPresents hMore hKept.device hKept.settings (hAnswer ▸ hDispatch)
  rcases hReq with hGets | hSets
  · obtain ⟨u, hKept, hAnswer⟩ := dispatch_gets hSettings hGets hWide hPresents hRoom
    exact fun _ => hs.answered hPresents hMore hGets hRoom hKept (hAnswer ▸ hDispatch)
  · obtain ⟨u, hForeign, ⟨hAssigned, hOwner, hAnswer⟩ | ⟨hSame, -, hAnswer⟩⟩ :=
      dispatch_sets hSettings hSets hWide hPresents hs.apart
    · exact hs.switched hPresents hMore hSets hWide hIn hForeign hAssigned hOwner
        (hAnswer ▸ hDispatch)
    · exact fun _ => hs.rejected hPresents hMore hForeign hSame (hAnswer ▸ hDispatch)

end Dispatch

omit [UsbClass C] in
theorem ControlPipe.Receives.presents {p : ControlPipe B} {epSetup : UInt16} (hWell : d.WellFormed)
    (hAmple : d.Ample) (h : d.control.Receives epSetup (some req) p) :
    (d.withPipe p).Presents req := by
  have hAwaits := h.awaits hWell.data
  refine ⟨hAwaits, fun hOut => ?_⟩
  have hFits : p.Fits := h.fits hAmple.fits
  unfold ControlPipe.Awaits at hAwaits
  rw [hOut] at hAwaits
  unfold ControlPipe.Fits at hFits
  rw [hAwaits] at hFits
  exact hFits

variable {epOut epIn epSetup : UInt16}

theorem accepted?_of_none (h : dispatched s = none) :
    (DeviceInput.poll : DeviceInput B C).accepted? s = none :=
  congrArg (Option.bind · _) h

/-- A request of the host leaves the settings as the accepted requests make them. -/
theorem arrives_pollControl (hSettings : HasAltSettings setting) (hWell : d.WellFormed)
    (hAmple : d.Ample) (hs : s.Carries setting initial reqs)
    (hEvent : s.device.event? = some (.data epOut epIn epSetup, d))
    (hBit : (epOut ||| epIn ||| epSetup) &&& 1 ≠ 0)
    (hTraffic : ∀ req p, Session.receive epOut epSetup d.control = .done (.ok (some req)) p →
      req.GetsInterface ∨ req.SetsInterface) :
    Post True (Session.pollControl epOut epIn epSetup) (fun r t => r = .ok () ∧
      t.Arrives setting initial (reqs ++ ((DeviceInput.poll : DeviceInput B C).accepted? s).toList))
      { s with device := d } := by
  have hBare := bare_of_event hEvent hs.bare
  rw [Session.pollControl, post_bind, Session.onPipe, Session.onDevice, post_zoom,
    UsbDevice.onPipe, post_zoom, post_true_iff]
  intro r p hReceive
  obtain ⟨found, rfl, hReceives⟩ := ControlPipe.receives_of_receive hReceive
  have hp : ({ s with device := d.withPipe p } : Session B C).Carries setting initial reqs :=
    hs.same (hReceives.bare hBare) rfl
  cases found with
  | some req =>
    dsimp only
    rw [post_bind, post_attempt, post_true_iff]
    intro r v hDispatch
    have hReq := hTraffic req p hReceive
    have hPresents := hReceives.presents hWell hAmple
    have hWell' := hWell.withPipe hReceives.frame
    obtain ⟨u, -, hFirst, -⟩ := dispatch_of_left (s := { s with device := d.withPipe p })
      (fun cls => hSettings.leaves cls req hReq) hPresents
    refine ⟨rfl, arrives_dispatch hp hPresents ?_ hSettings hReq hWell'.epIn ?_ hDispatch⟩
    · rw [DeviceInput.accepted?, dispatched_eq hEvent hBit hReceive hFirst hDispatch]
      rfl
    · exact Nat.le_trans (by decide) hWell'.room
  | none =>
    rw [accepted?_of_none (dispatched_of_nothing hEvent hReceive), Option.toList_none, List.append_nil]
    refine post_when (fun _ => ?_) fun _ => ⟨rfl, fun _ => hp⟩
    rw [Session.onDevice, post_zoom]
    refine ((unfailing_completeIn _).and (within_completeIn (fun _ => id)
      (fun _ _ _ h h' hq => h' (h hq)) ControlPipe.bare_handleInComplete (fun m q => ?_) _)).mono ?_
    · rw [ControlPipe.onBus, post_zoom, post_true_iff]
      exact fun _ _ _ hq => hq
    · rintro r e ⟨⟨_, rfl⟩, hStays⟩
      exact ⟨rfl, fun _ => hp.same (hStays hp.bare) rfl⟩

/-- The host gets and sets alternate settings only, and causes no bus reset. A class that the
application puts in the place of another has its settings. -/
def SettingTraffic (setting : C → InterfaceNumber → Option UInt8) (input : DeviceInput B C)
    (s : Session B C) : Prop :=
  match input with
  | .poll => ∀ pr d, s.device.event? = some (pr, d) →
      match pr with
      | .reset => False
      | .data epOut _ epSetup => ∀ req p,
          Session.receive epOut epSetup d.control = .done (.ok (some req)) p →
          req.GetsInterface ∨ req.SetsInterface
      | _ => True
  | .setClasses classes => List.Forall₂ (KeepsSettings setting) s.classes classes
  | _ => True

omit [UsbClass C] in
theorem settingTraffic_of_receive {found : Option Request} {p : ControlPipe B}
    (hEvent : s.device.event? = some (.data epOut epIn epSetup, d))
    (hReceive : Session.receive epOut epSetup d.control = .done (.ok found) p)
    (hFound : ∀ req ∈ found, req.GetsInterface ∨ req.SetsInterface) :
    SettingTraffic setting .poll s := by
  intro pr e hEvent'
  cases Option.some.inj (hEvent.symm.trans hEvent')
  intro req q hReceive'
  rw [hReceive] at hReceive'
  cases hReceive'
  exact hFound req rfl

theorem arrives_poll (hSettings : HasAltSettings setting) (hWell : s.device.WellFormed)
    (hAmple : s.device.Ample) (hs : s.Carries setting initial reqs)
    (hTraffic : SettingTraffic setting .poll s) :
    Post True Session.poll (fun _ t => t.Arrives setting initial
      (reqs ++ ((DeviceInput.poll : DeviceInput B C).accepted? s).toList)) s := by
  have hQuiet {t : Session B C} (hNone : dispatched s = none)
      (hBare : t.device.control.staticInBuf = none) (hClasses : t.classes = s.classes) :
      t.Arrives setting initial
        (reqs ++ ((DeviceInput.poll : DeviceInput B C).accepted? s).toList) := by
    intro _
    rw [accepted?_of_none hNone, Option.toList_none, List.append_nil]
    exact hs.same hBare (congrArg (List.map setting) hClasses)
  refine post_poll (fun _ hNone => ?_) fun pr d hEvent => ?_
  · exact hQuiet (by rw [dispatched, hNone]) hs.bare rfl
  have hBare := bare_of_event hEvent hs.bare
  have hHost := hTraffic pr d hEvent
  cases pr with
  | none | resume | suspend => exact hQuiet (by rw [dispatched, hEvent]) hBare rfl
  | reset => exact hHost.elim
  | data epOut epIn epSetup =>
    have hWell' := background_wellFormed.event hWell hEvent
    have hAmple' := background_ample.event hAmple hEvent
    refine post_then (((hSettings.tame epIn).pollData (fun _ _ ht hKept => Session.Arrives.kept ht hKept)
      (fun hBit => ?_) fun hBit => ?_).mono fun _ _ ht => ht.2) fun _ _ ht => ht
    · exact (arrives_pollControl hSettings hWell' hAmple' hs hEvent hBit hHost).mono
        fun _ _ ht => ⟨ht.1, ht.2, fun _ _ => trivial⟩
    · refine ⟨hQuiet ?_ hBare rfl, fun _ _ => trivial⟩
      rw [dispatched, hEvent]
      exact if_pos hBit

end Poll

section Run

variable {setting : C → InterfaceNumber → Option UInt8} {initial : InterfaceNumber → UInt8}
  {reqs : List Request} {s t : Session B C} {input : DeviceInput B C}
  {inputs : List (DeviceInput B C)}

/-- Every input keeps the settings in step with the accepted requests. -/
theorem arrives_perform (hSettings : HasAltSettings setting) (hWell : s.device.WellFormed)
    (hAmple : s.device.Ample) (hs : s.Carries setting initial reqs)
    (hTraffic : SettingTraffic setting input s) :
    Post True input.perform
      (fun _ t => t.Arrives setting initial (reqs ++ (input.accepted? s).toList)) s := by
  have hSame {t : Session B C} (hBare : t.device.control.staticInBuf = none)
      (h : t.settings setting = s.settings setting) : t.Arrives setting initial (reqs ++ []) := by
    intro _
    rw [List.append_nil]
    exact hs.same hBare h
  cases input with
  | poll => exact post_then (arrives_poll hSettings hWell hAmple hs hTraffic) fun _ _ ht => ht
  | hardware bus => exact hSame hs.bare rfl
  | setClasses classes => exact hSame hs.bare (Session.settings_of_forall₂ hTraffic)
  | useEndpoints m =>
    refine post_then ?_ fun _ _ ht => ht
    rw [Session.onDevice, post_zoom]
    apply (foreign_onBus (within_run m) s.device).mono
    exact fun _ e hForeign => hSame (bare_of_foreign hForeign hs.bare) rfl
  | setSelfPowered b => exact hSame hs.bare rfl

/-- After a run the settings are those of the accepted requests. -/
theorem carries_run [UsbBus.Contract B] (hSettings : HasAltSettings setting) (hReachable : s.Reachable)
    (hs : s.Carries setting initial reqs)
    (hTraffic : Along DeviceInput.perform (SettingTraffic setting) inputs s)
    (hWrites : Along DeviceInput.perform WritesSucceed inputs s)
    (hFinal : finalState DeviceInput.perform inputs s = some t) :
    t.Reachable ∧ t.Carries setting initial (reqs ++ acceptedRequests inputs s) := by
  induction inputs generalizing s reqs with
  | nil =>
    cases hFinal
    rw [acceptedRequests, List.append_nil]
    exact ⟨hReachable, hs⟩
  | cons input rest ih =>
    rw [finalState] at hFinal
    split at hFinal
    · rename_i r u hStep
      have hArrives := post_of_done
        (arrives_perform hSettings hReachable.wellFormed hReachable.ample hs hTraffic.1) hStep
      obtain ⟨d, classes, hFresh, hReaches⟩ := hReachable
      rw [acceptedRequests, hStep, ← List.append_assoc]
      exact ih ⟨d, classes, hFresh, hReaches.step input hStep⟩ (hArrives (hWrites.1 r u hStep))
        (hTraffic.2 r u hStep) (hWrites.2 r u hStep) hFinal
    · cases hFinal

end Run

def ControlPipe.Rejected (p : ControlPipe B) : Prop :=
  p.state = .error ∧ ∀ dir, stalled (.control dir) p.bus.trace = true

section Answers

variable {setting : C → InterfaceNumber → Option UInt8} {s u : Session B C} {req : Request}

omit [UsbClass C] in
theorem accepted_of_foreign {d e : UsbDevice B} (h : Foreign d e) :
    accepted (.control .in_) e.control.bus.trace = accepted (.control .in_) d.control.bus.trace := by
  obtain ⟨t, hUse, rfl⟩ := h
  exact accepted_classUse hUse .in_

omit [UsbClass C] in
theorem rejected_of_reject (hWell : u.device.WellFormed) (hPresents : u.device.Presents req) :
    ∃ v, Session.reject u = .done (.ok ()) v ∧ v.device.control.Rejected ∧ v.classes = u.classes ∧
      altSettingCalls v.device.control.bus.trace = altSettingCalls u.device.control.bus.trace := by
  refine ⟨_, reject_of_waiting hPresents.awaits.waiting, ⟨rfl, fun dir => ?_⟩, rfl, ?_⟩
  · change stalled (.control dir) ((u.device.control.bus.stalling u.device.control.epOut.address
      true).stalling u.device.control.epIn.address true).trace = true
    rw [Traced.trace_stalling, stalled_append_setStalled, Traced.trace_stalling,
      stalled_append_setStalled, hWell.epOut, hWell.epIn]
    cases dir <;> rfl
  · change (u.device.control.bus.trace ++ _ ++ _).filterMap Event.altSetting? = _
    rw [List.filterMap_append, List.filterMap_append]
    exact (List.append_nil _).trans (List.append_nil _)

omit [UsbClass C] in
theorem accepted_of_acceptWith (hWell : u.device.WellFormed)
    (hSize : 8 ≤ u.device.control.epIn.maxPacketSize.toNat)
    (hState : u.device.control.state = .completeIn req) (hBare : u.device.control.staticInBuf = none)
    (hWritable : Writable u.device.control.bus.bus) (now : UInt8) :
    ∃ r v, Session.acceptWith [now] u = .done r v ∧ v.classes = u.classes ∧
      accepted (.control .in_) v.device.control.bus.trace =
        accepted (.control .in_) u.device.control.bus.trace ++ [[now].take req.length.toNat] := by
  have hRoom : [now].length ≤ u.device.control.buf.length :=
    Nat.le_trans (Nat.le_add_left 1 7) hWell.room
  obtain ⟨q, packet, rest, hAccept, hPackets, -, hBus, -, -⟩ :=
    ControlPipe.acceptWith_sent hState hWell.epIn (by omega) hBare hRoom hWritable
  have hShort : ([now].take req.length.toNat).length < u.device.control.epIn.maxPacketSize.toNat := by
    rw [List.length_take]
    exact Nat.lt_of_le_of_lt (Nat.min_le_right _ _)
      (Nat.lt_of_lt_of_le (Nat.lt_add_left 6 Nat.one_lt_two) hSize)
  rw [packets_of_lt hShort] at hPackets
  obtain ⟨rfl, -⟩ := List.cons.inj hPackets
  refine ⟨_, _, Session.onPipe_of_done hAccept, rfl, ?_⟩
  change accepted _ q.bus.trace = _
  rw [hBus, hWritable.accepted]

omit [UsbClass C] in
theorem accepted_of_accept (hIn : u.device.control.epIn.address = .control .in_)
    (hState : u.device.control.state = .completeOut)
    (hWritable : Writable u.device.control.bus.bus) :
    ∃ v, Session.accept u = .done (.ok ()) v ∧ v.device.control.state = .statusIn ∧
      v.classes = u.classes ∧ accepted (.control .in_) v.device.control.bus.trace =
        accepted (.control .in_) u.device.control.bus.trace ++ [[]] := by
  refine ⟨_, Session.onPipe_of_done (ControlPipe.acceptOut_sent hState hIn hWritable), rfl, rfl, ?_⟩
  change accepted _ (u.device.control.bus.writing u.device.control.epIn.address []).trace = _
  rw [hIn, hWritable.accepted]

/-- How a request is answered to a host for which `now` are the settings. -/
structure ReadsBack (setting : C → InterfaceNumber → Option UInt8) (now : InterfaceNumber → UInt8)
    (req : Request) (s v : Session B C) : Prop where
  got (hGets : req.GetsInterface) (hNarrow : ¬ req.Wide) :
    accepted (.control .in_) v.device.control.bus.trace =
      accepted (.control .in_) s.device.control.bus.trace ++
        [[now req.interface].take req.length.toNat]
  switched (hSets : req.SetsInterface) (hNarrow : ¬ req.Wide) :
    (v.device.control.state = .statusIn ∧
        accepted (.control .in_) v.device.control.bus.trace =
          accepted (.control .in_) s.device.control.bus.trace ++ [[]] ∧
        v.settings setting = assign req.interface req.value.toUInt8 (s.settings setting)) ∨
      (v.device.control.Rejected ∧ v.settings setting = s.settings setting)
  wide (hWide : req.Wide) : v.device.control.Rejected ∧ v.settings setting = s.settings setting ∧
    altSettingCalls v.device.control.bus.trace = altSettingCalls s.device.control.bus.trace
  others (i : InterfaceNumber) (hOther : ¬ (req.SetsInterface ∧ i = req.interface)) :
    (v.settings setting).map (· i) = (s.settings setting).map (· i)

omit [UsbBus B] [UsbClass C] in
theorem Session.settings_congr {v : Session B C} (h : v.classes = u.classes) :
    v.settings setting = u.settings setting := congrArg (List.map setting) h

/-- How the device answers when its settings are `now`. -/
theorem readsBack_dispatch (hSettings : HasAltSettings setting)
    (hReq : req.GetsInterface ∨ req.SetsInterface) (hWell : s.device.WellFormed)
    (hSize : 8 ≤ s.device.control.epIn.maxPacketSize.toNat) (hPresents : s.device.Presents req)
    (hBare : s.device.control.staticInBuf = none) (hApart : Apart (s.settings setting))
    (hWritable : Writable s.device.control.bus.bus) :
    ∃ r v, Session.dispatch req s = .done r v ∧
      ReadsBack setting (shown (s.settings setting)) req s v := by
  have hLater {u : Session B C} (hForeign : Foreign s.device u.device) :
      u.device.WellFormed ∧ 8 ≤ u.device.control.epIn.maxPacketSize.toNat ∧
        u.device.control.staticInBuf = none ∧ Writable u.device.control.bus.bus := by
    refine ⟨background_wellFormed.stable _ _ hWell hForeign, ?_, bare_of_foreign hForeign hBare, ?_⟩ <;>
      obtain ⟨t, hUse, hDevice⟩ := hForeign <;> rw [hDevice]
    · exact hSize
    · exact hWritable.classUse hUse
  have hOut (hGets : req.GetsInterface) (hSets : req.SetsInterface) : False := by
    have hDirection := hGets.2.1.symm.trans hSets.2.1
    cases hDirection
  by_cases hWide : req.Wide
  · obtain ⟨u, hKept, hCalls, hAnswer⟩ := dispatch_wide hSettings hReq hWide hPresents hWell.epIn
    obtain ⟨v, hReject, hRejected, hClasses, hSame⟩ :=
      rejected_of_reject (hLater hKept.device).1 (presents_of_foreign hPresents hKept.device)
    have hSettings' := (Session.settings_congr hClasses).trans hKept.settings
    exact ⟨_, v, hAnswer.trans hReject, fun _ hNarrow => absurd hWide hNarrow,
      fun _ hNarrow => absurd hWide hNarrow, fun _ => ⟨hRejected, hSettings', hSame.trans hCalls⟩,
      fun i _ => by rw [hSettings']⟩
  rcases hReq with hGets | hSets
  · obtain ⟨u, hKept, hAnswer⟩ :=
      dispatch_gets hSettings hGets hWide hPresents (Nat.le_trans (by decide) hWell.room)
    obtain ⟨hWell', hSize', hBare', hWritable'⟩ := hLater hKept.device
    obtain ⟨r, v, hAccept, hClasses, hSent⟩ := accepted_of_acceptWith hWell' hSize'
      ((presents_of_foreign hPresents hKept.device).completeIn hGets.2.1) hBare' hWritable'
      (shown (s.settings setting) req.interface)
    rw [accepted_of_foreign hKept.device] at hSent
    have hSettings' := (Session.settings_congr hClasses).trans hKept.settings
    exact ⟨r, v, hAnswer.trans hAccept, fun _ _ => hSent, fun hSets _ => (hOut hGets hSets).elim,
      fun hNarrow => absurd hNarrow hWide, fun i _ => by rw [hSettings']⟩
  · obtain ⟨u, hForeign, ⟨hAssigned, -, hAnswer⟩ | ⟨hSame, -, hAnswer⟩⟩ :=
      dispatch_sets hSettings hSets hWide hPresents hApart
    · obtain ⟨hWell', -, -, hWritable'⟩ := hLater hForeign
      obtain ⟨v, hAccept, hState, hClasses, hSent⟩ := accepted_of_accept hWell'.epIn
        ((presents_of_foreign hPresents hForeign).completeOut hSets.2.1) hWritable'
      rw [accepted_of_foreign hForeign] at hSent
      have hSettings' := (Session.settings_congr hClasses).trans hAssigned
      refine ⟨_, v, hAnswer.trans hAccept, fun hGets _ => (hOut hGets hSets).elim,
        fun _ _ => .inl ⟨hState, hSent, hSettings'⟩, fun hNarrow => absurd hNarrow hWide,
        fun i hOther => ?_⟩
      rw [hSettings']
      exact map_assign_of_ne (fun hSame => hOther ⟨hSets, hSame⟩) _ _
    · obtain ⟨v, hReject, hRejected, hClasses, -⟩ :=
        rejected_of_reject (hLater hForeign).1 (presents_of_foreign hPresents hForeign)
      have hSettings' := (Session.settings_congr hClasses).trans hSame
      exact ⟨_, v, hAnswer.trans hReject, fun hGets _ => (hOut hGets hSets).elim,
        fun _ _ => .inr ⟨hRejected, hSettings'⟩, fun hNarrow => absurd hNarrow hWide,
        fun i _ => by rw [hSettings']⟩

end Answers

/-- After every run of GET_INTERFACE and SET_INTERFACE requests, the next one of them is answered as
the requests that have been accepted demand. -/
theorem settings_read_back [UsbBus.Contract B] {setting : C → InterfaceNumber → Option UInt8}
    (hSettings : HasAltSettings setting) {s t : Session B C} (hReachable : s.Reachable)
    (hBare : s.device.control.staticInBuf = none) (hApart : Apart (s.settings setting))
    {inputs : List (DeviceInput B C)}
    (hTraffic : Along DeviceInput.perform (SettingTraffic setting) inputs s)
    (hWrites : Along DeviceInput.perform WritesSucceed inputs s)
    (hFinal : finalState DeviceInput.perform inputs s = some t)
    {epOut epIn epSetup : UInt16} {d : UsbDevice B} {p : ControlPipe B} {req : Request}
    (hEvent : t.device.event? = some (.data epOut epIn epSetup, d))
    (hReceive : Session.receive epOut epSetup d.control = .done (.ok (some req)) p)
    (hReq : req.GetsInterface ∨ req.SetsInterface) (hWritable : Writable p.bus.bus) :
    ∃ r v, Session.dispatch req { t with device := d.withPipe p } = .done r v ∧
      ReadsBack setting
        (fun i => lastSetting i (shown (s.settings setting) i) (acceptedRequests inputs s)) req
        { t with device := d.withPipe p } v := by
  have hStart : s.Carries setting (shown (s.settings setting)) [] := ⟨hBare, hApart, fun _ => rfl⟩
  obtain ⟨hReachable', hCarries⟩ := carries_run hSettings hReachable hStart hTraffic hWrites hFinal
  rw [List.nil_append] at hCarries
  have hReceives := ControlPipe.Receives.of_receive hReceive
  have hWell := background_wellFormed.event hReachable'.wellFormed hEvent
  have hAmple := background_ample.event hReachable'.ample hEvent
  have hFrame := hReceives.frame
  obtain ⟨r, v, hDispatch, hReads⟩ := readsBack_dispatch (s := { t with device := d.withPipe p })
    hSettings hReq (hWell.withPipe hFrame)
    (hAmple.withPipe hFrame.toSameFrame (hReceives.fits hAmple.fits)).size
    (hReceives.presents hWell hAmple) (hReceives.bare (bare_of_event hEvent hCarries.bare))
    hCarries.apart hWritable
  have hNow : shown (t.settings setting) =
      fun i => lastSetting i (shown (s.settings setting) i) (acceptedRequests inputs s) :=
    funext hCarries.chosen
  refine ⟨r, v, hDispatch, ?_⟩
  rw [← hNow]
  exact hReads

/-- A class that owns one interface, whose settings are 0 to 3. -/
structure PanelClass where
  interface : InterfaceNumber
  setting : UInt8

namespace PanelClass

instance : UsbClass PanelClass where
  getAltSetting cls i := .ret (if i = cls.interface then some cls.setting else none, cls)
  setAltSetting cls i alternative :=
    .ret (if i = cls.interface ∧ alternative ≤ 3 then (true, { cls with setting := alternative })
      else (false, cls))

def current (cls : PanelClass) (i : InterfaceNumber) : Option UInt8 :=
  if i = cls.interface then some cls.setting else none

theorem hasAltSettings : HasAltSettings current where
  getAltSetting _ _ := ⟨rfl, rfl⟩
  setAltSetting cls i alternative := by
    change Switches i alternative (current cls)
      (if i = cls.interface ∧ alternative ≤ 3 then (true, { cls with setting := alternative })
        else (false, cls)).1
      (current (if i = cls.interface ∧ alternative ≤ 3 then (true, { cls with setting := alternative })
        else (false, cls)).2)
    by_cases hOwner : i = cls.interface
    · by_cases hFits : alternative ≤ 3
      · rw [if_pos ⟨hOwner, hFits⟩]
        refine .inl ⟨rfl, by rw [current, if_pos hOwner]; rfl, funext fun j => ?_⟩
        by_cases hSame : j = i
        · rw [hSame, set_same, current, current, if_pos hOwner, if_pos hOwner]
          rfl
        · rw [set_of_ne hSame, current, current, if_neg (hOwner ▸ hSame), if_neg (hOwner ▸ hSame)]
      · rw [if_neg fun hBoth => hFits hBoth.2]
        refine .inr ⟨rfl, .inr ?_, rfl⟩
        rintro rfl
        exact hFits (by decide)
    · rw [if_neg fun hBoth => hOwner hBoth.1]
      exact .inr ⟨rfl, .inl (if_neg hOwner), rfl⟩
  leaves cls req _ := by
    unfold LeavesRequest
    cases req.direction with
    | in_ => exact ⟨cls, rfl, rfl⟩
    | out => exact fun _ => ⟨cls, rfl, rfl⟩
  tame _ :=
    { refl := fun _ => rfl
      trans := fun _ _ _ h h' => h'.trans h
      keeps := fun _ _ _ _ => trivial
      poll := fun _ _ => rfl
      endpointSetup := fun _ _ _ => rfl
      endpointOut := fun _ _ _ => rfl
      endpointInComplete := fun _ _ _ _ => rfl }

end PanelClass

def panelBus (packet : List UInt8) : Mailbox := ⟨none, some packet, .data 0 0 1⟩

def panelSession : Session Mailbox PanelClass :=
  ⟨{ config := (UsbDeviceBuilder.new ⟨0, 0⟩ []).config
     control := .new ⟨panelBus [0x01, 11, 2, 0, 1, 0, 0, 0], [.enable]⟩ (List.replicate 8 0)
       (.control .out 8) (.control .in_ 8)
     deviceState := .default
     remoteWakeupEnabled := false
     selfPowered := false
     suspendedDeviceState := none
     pendingAddress := 0 },
    [⟨⟨0⟩, 3⟩, ⟨⟨1⟩, 0⟩]⟩

def switchedSession : Session Mailbox PanelClass :=
  (DeviceInput.poll.perform panelSession).state?.get (by decide +kernel)

def sentSession : Session Mailbox PanelClass :=
  { switchedSession with
    device := switchedSession.device.onHardware ⟨none, none, .data 0 1 0⟩ }

def settledSession : Session Mailbox PanelClass :=
  (DeviceInput.poll.perform sentSession).state?.get (by decide +kernel)

def askingSession : Session Mailbox PanelClass :=
  { settledSession with
    device := settledSession.device.onHardware (panelBus [0x81, 10, 0, 0, 1, 0, 1, 0]) }

def panelRequest : Request := ⟨.in_, .standard, .interface, 10, 0, 1, 1⟩

def panelPipe : ControlPipe Mailbox :=
  (Session.receive 0 1 askingSession.device.polled.control).state?.get (by decide +kernel)

def panelInputs : List (DeviceInput Mailbox PanelClass) :=
  [.poll, .hardware ⟨none, none, .data 0 1 0⟩, .poll, .hardware (panelBus [0x81, 10, 0, 0, 1, 0, 1, 0])]

/-- The host reads setting 2. -/
theorem settings_read_back_panel :
    ∃ r v, Session.dispatch panelRequest
        { askingSession with device := askingSession.device.polled.withPipe panelPipe } = .done r v ∧
      accepted (.control .in_) v.device.control.bus.trace = [[], [2]] := by
  have hFresh : panelSession.device.Fresh :=
    ⟨.new ⟨0, 0⟩ (List.replicate 8 0), _, ⟨_, [.enable]⟩, .new _ _, rfl⟩
  have hApart : Apart (panelSession.settings PanelClass.current) := by
    refine .cons (fun f hf i => ?_) (List.pairwise_singleton _ _)
    rw [List.mem_singleton.mp hf]
    by_cases hZero : i = ⟨0⟩
    · refine .inr (if_neg ?_)
      rw [hZero]
      decide
    · exact .inl (if_neg hZero)
  have hFirst : DeviceInput.poll.perform panelSession = .done (.ok (some true)) switchedSession :=
    Outcome.eq_done (by decide +kernel) (Option.some_get _).symm
  have hSecond : DeviceInput.poll.perform sentSession = .done (.ok (some true)) settledSession :=
    Outcome.eq_done (by decide +kernel) (Option.some_get _).symm
  have hSent : (DeviceInput.hardware ⟨none, none, .data 0 1 0⟩).perform switchedSession =
      .done (.ok none) sentSession := rfl
  have hAsking : (DeviceInput.hardware (panelBus [0x81, 10, 0, 0, 1, 0, 1, 0])).perform settledSession =
      .done (.ok none) askingSession := rfl
  have hEvent (pr : PollResult) {s : Session Mailbox PanelClass}
      (hAwake : s.device.deviceState ≠ .suspend)
      (hPoll : (UsbBus.poll s.device.control.bus.bus).1 = pr) :
      s.device.event? = some (pr, s.device.polled) := by
    rw [UsbDevice.event?_of_awake hAwake, hPoll]
  have hSet : SettingTraffic PanelClass.current .poll panelSession := by
    have hReceive : Session.receive 0 1 panelSession.device.polled.control =
        .done (.ok (some ⟨.out, .standard, .interface, 11, 2, 1, 0⟩)) _ :=
      Outcome.eq_done (by decide +kernel) (Option.some_get (by decide +kernel)).symm
    refine settingTraffic_of_receive (hEvent (.data 0 0 1) (by decide) rfl) hReceive fun req hReq => ?_
    cases hReq
    exact .inr ⟨rfl, rfl, rfl, rfl⟩
  have hDone : SettingTraffic PanelClass.current .poll sentSession := by
    have hReceive : Session.receive 0 0 sentSession.device.polled.control = .done (.ok none) _ :=
      Outcome.eq_done (by decide +kernel) (Option.some_get (by decide +kernel)).symm
    refine settingTraffic_of_receive (hEvent (.data 0 1 0) (by decide +kernel) (by decide +kernel))
      hReceive fun req hReq => ?_
    cases hReq
  have hReceive : Session.receive 0 1 askingSession.device.polled.control =
      .done (.ok (some panelRequest)) panelPipe :=
    Outcome.eq_done (by decide +kernel) (Option.some_get _).symm
  have hFree : panelPipe.bus.bus.outgoing = none := by decide +kernel
  have hTraffic :
      Along DeviceInput.perform (SettingTraffic PanelClass.current) panelInputs panelSession :=
    along_cons hSet hFirst (along_cons trivial hSent (along_cons hDone hSecond
      (along_cons trivial hAsking trivial)))
  have hWrites : Along DeviceInput.perform WritesSucceed panelInputs panelSession :=
    along_cons (writesSucceed_of_done hFirst (by decide +kernel)) hFirst
      (along_cons (writesSucceed_of_done hSent (by decide +kernel)) hSent
        (along_cons (writesSucceed_of_done hSecond (by decide +kernel)) hSecond
          (along_cons (writesSucceed_of_done hAsking (by decide +kernel)) hAsking trivial)))
  have hFinal : finalState DeviceInput.perform panelInputs panelSession = some askingSession := by
    rw [panelInputs, finalState_cons hFirst, finalState_cons hSent, finalState_cons hSecond,
      finalState_cons hAsking]
    rfl
  obtain ⟨r, v, hDispatch, hReads⟩ := settings_read_back PanelClass.hasAltSettings
    ⟨_, _, hFresh, .refl⟩ rfl hApart hTraffic hWrites
    hFinal (hEvent (.data 0 0 1) (by decide +kernel) (by decide +kernel)) hReceive
    (.inl ⟨rfl, rfl, rfl, rfl⟩) (Mailbox.writable_of_free hFree)
  refine ⟨r, v, hDispatch, (hReads.got ⟨rfl, rfl, rfl, rfl⟩ ?_).trans ?_⟩
  · rintro (hIndex | ⟨-, hValue⟩)
    · exact absurd hIndex (by decide)
    · exact absurd hValue (by decide)
  · decide +kernel

end UsbStack
