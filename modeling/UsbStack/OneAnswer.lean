import UsbStack.Answering

/-! # One party answers a request

The classes are offered a request one after the other, and the first of them that answers it ends
the dispatch. If none does, the device gives one answer, and the pipe is in the state in which it
can be given.
-/

namespace UsbStack

set_option autoImplicit false

open Foundation Exec

def Event.offer? : Event → Option (Nat × ClassCall)
  | .class_ index (.controlIn req) => some (index, .controlIn req)
  | .class_ index (.controlOut req data) => some (index, .controlOut req data)
  | _ => none

def offers (trace : List Event) : List (Nat × ClassCall) := trace.filterMap Event.offer?

theorem offers_append (trace more : List Event) :
    offers (trace ++ more) = offers trace ++ offers more := List.filterMap_append

/-- What comes of a control callback: on EP0 a packet to the host or a stall. -/
def SideEvent : Event → Prop
  | .read addr _ _ => addr.index ≠ 0
  | .write addr _ _ => addr.index ≠ 0 ∨ addr = .control .in_
  | .setStalled addr stalled => addr.index ≠ 0 ∨ stalled = true
  | _ => False

theorem sideEvent_of_endpoint {event : Event} (h : EndpointEvent event) : SideEvent event := by
  cases event with
  | read addr len result => exact h
  | write addr data result => exact .inl h
  | setStalled addr stalled => exact .inl h
  | _ => exact h.elim

theorem offer?_of_side {event : Event} (h : SideEvent event) : event.offer? = none := by
  cases event with
  | class_ index call => exact h.elim
  | _ => rfl

def OfferEvent (event : Event) : Prop := event.offer?.isSome ∨ SideEvent event

variable {B C α : Type} [UsbBus B]

omit [UsbBus B] in
theorem offers_of_grows {P : Event → Prop} (hP : ∀ event, P event → event.offer? = none)
    {t u : Traced B} (h : Traced.Grows P t u) : offers u.trace = offers t.trace := h.filterMap_eq hP

namespace ControlPipe

/-- `q` is `p` after code of a class: still waiting with the same request and the same data, or
answered. -/
structure Aside (p q : ControlPipe B) : Prop extends SameFrame p q where
  grows : p.epIn.address = .control .in_ → Traced.Grows SideEvent p.bus q.bus
  state : q.state = p.state ∨ q.waitingForResponse = false
  data : p.state = .completeOut → q.state = .completeOut → q.buf = p.buf ∧ q.len = p.len

variable {p q : ControlPipe B}

omit [UsbBus B] in
theorem aside_refl (p : ControlPipe B) : Aside p p :=
  ⟨⟨rfl, rfl, rfl⟩, fun _ => .refl _, .inl rfl, fun _ _ => ⟨rfl, rfl⟩⟩

omit [UsbBus B] in
theorem waiting_completeOut (h : q.state = .completeOut) : q.waitingForResponse = true :=
  q.waitingForResponse_iff.mpr (.inl h)

omit [UsbBus B] in
theorem aside_trans (p q s : ControlPipe B) (h : Aside p q) (h' : Aside q s) : Aside p s := by
  refine ⟨h.toSameFrame.trans h'.toSameFrame, ?_, ?_, ?_⟩
  · intro hIn
    have hIn' : q.epIn.address = .control .in_ := by
      rw [h.epIn]
      exact hIn
    exact .trans _ _ _ (h.grows hIn) (h'.grows hIn')
  · rcases h'.state with hSame | hAnswered
    · rcases h.state with hSame' | hAnswered
      · exact .inl (hSame.trans hSame')
      · exact .inr ((waiting_congr hSame).trans hAnswered)
    · exact .inr hAnswered
  · intro hp hs
    have hSame : s.state = q.state := by
      rcases h'.state with hSame | hAnswered
      · exact hSame
      · rw [waiting_completeOut hs] at hAnswered
        cases hAnswered
    have hq : q.state = .completeOut := hSame.symm.trans hs
    obtain ⟨hBuf, hLen⟩ := h.data hp hq
    obtain ⟨hBuf', hLen'⟩ := h'.data hq hs
    exact ⟨hBuf'.trans hBuf, hLen'.trans hLen⟩

omit [UsbBus B] in
theorem aside_onBus {m : BusM B α} (hm : Within (Traced.Grows EndpointEvent) m) :
    Within Aside (onBus m) := by
  refine within_zoom hm ?_
  intro p t hGrows
  exact ⟨⟨rfl, rfl, rfl⟩, fun _ => hGrows.mono fun _ => sideEvent_of_endpoint, .inl rfl,
    fun _ _ => ⟨rfl, rfl⟩⟩

theorem side_errored (p : ControlPipe B) : Traced.Grows SideEvent p.bus p.errored.bus := by
  have hStall (t : Traced B) (addr : EndpointAddress) :
      Traced.Grows SideEvent t (t.stalling addr true) := .single rfl (Or.inr rfl)
  exact .trans _ _ _ (hStall _ _) (hStall _ _)

theorem AnswersIn.aside (hIn : ∃ req, p.state = .completeIn req) (h : AnswersIn p q) :
    Aside p q := by
  obtain ⟨req, hState⟩ := hIn
  have hData (hOut : p.state = .completeOut) : False := by
    rw [hState] at hOut
    cases hOut
  cases h with
  | kept buf hLength =>
    exact ⟨⟨rfl, rfl, hLength⟩, fun _ => .refl _, .inl rfl, fun hOut _ => (hData hOut).elim⟩
  | errored buf hLength _ =>
    exact ⟨⟨rfl, rfl, hLength⟩, fun _ => side_errored { p with buf := buf }, .inr rfl,
      fun hOut _ => (hData hOut).elim⟩
  | transmitted _ hSent =>
    refine ⟨hSent.toSameFrame, ?_, .inr (not_waiting_of_transmits hSent.state),
      fun hOut _ => (hData hOut).elim⟩
    intro hAddr
    obtain ⟨chunk, hBus⟩ := hSent.bus
    rw [hBus]
    exact .single rfl (.inr hAddr)

theorem aside_acceptIn (f : SliceFn) : Within Aside (acceptIn f.run : PipeM B Unit) := by
  intro p
  rw [post_true_iff]
  intro r q hDone
  by_cases hIn : ∃ req, p.state = .completeIn req
  · exact (answersIn_of_acceptIn f hDone).aside hIn
  · rw [acceptIn_of_ne p fun req hReq => hIn ⟨req, hReq⟩] at hDone
    cases hDone
    exact aside_refl p

theorem aside_acceptInStatic (data : List UInt8) :
    Within Aside (acceptInStatic data : PipeM B Unit) := by
  intro p
  rw [post_true_iff]
  intro r q hDone
  by_cases hIn : ∃ req, p.state = .completeIn req
  · exact (answersIn_of_acceptInStatic hDone).aside hIn
  · rw [acceptInStatic_of_ne p fun req hReq => hIn ⟨req, hReq⟩] at hDone
    cases hDone
    exact aside_refl p

theorem aside_reject : Within Aside (reject : PipeM B Unit) := by
  intro p
  rw [post_true_iff]
  intro r q hDone
  rw [reject_apply] at hDone
  split at hDone
  · cases hDone
    refine ⟨⟨rfl, rfl, rfl⟩, fun _ => side_errored p, .inr rfl, fun _ hOut => ?_⟩
    cases hOut
  · cases hDone
    exact aside_refl p

theorem aside_acceptOut : Within Aside (acceptOut : PipeM B Unit) := by
  intro p
  rw [post_true_iff]
  intro r q hDone
  cases acceptsOut_of_acceptOut hDone with
  | unexpected _ => exact aside_refl p
  | refused _ _ =>
    exact ⟨⟨rfl, rfl, rfl⟩, fun hAddr => .single rfl (.inr hAddr), .inl rfl, fun _ _ => ⟨rfl, rfl⟩⟩
  | accepted _ =>
    refine ⟨⟨rfl, rfl, rfl⟩, fun hAddr => .single rfl (.inr hAddr), .inr rfl, fun _ hOut => ?_⟩
    cases hOut

theorem aside_next {m : PipeM B Unit} (hm : Within Aside m)
    (next : Except UsbError Unit → ClassM C) :
    Within Aside (do
      let result ← attempt m
      onBus (next result).run : PipeM B C) :=
  within_bind aside_trans (within_attempt hm) fun _ => aside_onBus (within_run_endpoint _)

theorem aside_inResponse (response : InResponse C) :
    Within Aside (response.perform : PipeM B C) := by
  cases response with
  | ignore cls => exact within_pure aside_refl cls
  | acceptWith data next => exact aside_next (aside_acceptIn (.copy data)) next
  | acceptWithStatic data next => exact aside_next (aside_acceptInStatic data) next
  | accept f next => exact aside_next (aside_acceptIn f) next
  | reject next => exact aside_next aside_reject next

theorem aside_outResponse (response : OutResponse C) :
    Within Aside (response.perform : PipeM B C) := by
  cases response with
  | ignore cls => exact within_pure aside_refl cls
  | accept next => exact aside_next aside_acceptOut next
  | reject next => exact aside_next aside_reject next

end ControlPipe

variable [UsbClass C]

def callControl (req : Request) : Nat → C → PipeM B C :=
  match req.direction with
  | .in_ => callControlIn req
  | .out => callControlOut req

namespace ControlPipe

def Awaits (p : ControlPipe B) (req : Request) : Prop :=
  match req.direction with
  | .in_ => p.state = .completeIn req
  | .out => p.state = .completeOut

/-- What a class sees of the request. -/
def Shows (p : ControlPipe B) (req : Request) (call : ClassCall) : Prop :=
  match req.direction with
  | .in_ => call = .controlIn req
  | .out => ∃ bytes, data p = .done (.ok bytes) p ∧ call = .controlOut req bytes

/-- From `index` on, `count` classes are offered the request, each with the pipe still awaiting the
answer and each with the same `call`; all but the last leave it so, and the last does if there is no
class behind it. -/
inductive Offered (req : Request) (call : ClassCall) : Nat → List C → ControlPipe B → Nat →
    Option Unit → ControlPipe B → Prop
  | exhausted (index : Nat) (p : ControlPipe B) : Offered req call index [] p 0 none p
  | answered {index : Nat} {cls cls' : C} {rest : List C} {p q : ControlPipe B}
      (hAwaits : p.Awaits req) (hShows : p.Shows req call)
      (hCall : callControl req index cls p = .done (.ok cls') q)
      (hAnswered : q.waitingForResponse = false) :
      Offered req call index (cls :: rest) p 1 (some ()) q
  | passed {index count : Nat} {found : Option Unit} {cls cls' : C} {rest : List C}
      {p q s : ControlPipe B} (hAwaits : p.Awaits req) (hShows : p.Shows req call)
      (hCall : callControl req index cls p = .done (.ok cls') q)
      (hWaiting : q.waitingForResponse = true)
      (hRest : Offered req call (index + 1) rest q count found s) :
      Offered req call index (cls :: rest) p (count + 1) found s

variable {p q : ControlPipe B} {req : Request} {call : ClassCall} {index : Nat}

omit [UsbBus B] in
theorem Awaits.waiting (h : p.Awaits req) : p.waitingForResponse = true := by
  unfold Awaits at h
  apply p.waitingForResponse_iff.mpr
  cases hDirection : req.direction <;> rw [hDirection] at h
  · exact .inl h
  · exact .inr ⟨req, h⟩

omit [UsbBus B] in
theorem Aside.state_of_waiting (h : Aside p q) (hWaiting : q.waitingForResponse = true) :
    q.state = p.state := by
  rcases h.state with hSame | hAnswered
  · exact hSame
  · rw [hWaiting] at hAnswered
    cases hAnswered

omit [UsbBus B] in
theorem Awaits.aside (hAwaits : p.Awaits req) (h : Aside p q)
    (hWaiting : q.waitingForResponse = true) : q.Awaits req := by
  unfold Awaits at hAwaits ⊢
  rw [h.state_of_waiting hWaiting]
  exact hAwaits

omit [UsbBus B] in
theorem data_apply (p : ControlPipe B) : data p = match slice? p.buf 0 p.len with
    | some bytes => .done (.ok bytes) p
    | none => .panic .sliceIndex := by
  rw [data, bind_apply, get_apply]
  dsimp only
  cases slice? p.buf 0 p.len <;> rfl

omit [UsbBus B] in
theorem Shows.aside (hShows : p.Shows req call) (hAwaits : p.Awaits req) (h : Aside p q)
    (hWaiting : q.waitingForResponse = true) : q.Shows req call := by
  have hAwaits' := hAwaits.aside h hWaiting
  unfold Shows at hShows ⊢
  unfold Awaits at hAwaits hAwaits'
  cases hDirection : req.direction <;> rw [hDirection] at hShows hAwaits hAwaits'
  · obtain ⟨bytes, hData, hCall⟩ := hShows
    obtain ⟨hBuf, hLen⟩ := h.data hAwaits hAwaits'
    refine ⟨bytes, ?_, hCall⟩
    rw [data_apply] at hData ⊢
    rw [hBuf, hLen]
    cases hSlice : slice? p.buf 0 p.len with
    | none =>
      rw [hSlice] at hData
      cases hData
    | some part =>
      rw [hSlice] at hData
      cases hData
      rfl
  · exact hShows

theorem aside_of_callControl {cls : C} {r : Except UsbError C} (hShows : p.Shows req call)
    (h : callControl req index cls p = .done r q) :
    Aside { p with bus := p.bus.noting (.class_ index call) } q := by
  have hRest {α : Type} {m : ClassM α} {k : α → PipeM B C} (hk : ∀ a, Within Aside (k a)) :
      Within Aside (onBus m.run >>= k) :=
    within_bind aside_trans (aside_onBus (within_run_endpoint m)) hk
  unfold Shows at hShows
  unfold callControl at h
  cases hDirection : req.direction <;> rw [hDirection] at hShows h
  · obtain ⟨bytes, hData, rfl⟩ := hShows
    dsimp only at h
    rw [callControlOut, bind_of_ok hData] at h
    exact (hRest aside_outResponse).of_done h
  · rw [hShows]
    exact (hRest aside_inResponse).of_done h

omit [UsbBus B] in
theorem Shows.onBus (h : p.Shows req call) (t : Traced B) : Shows { p with bus := t } req call := by
  unfold Shows at h ⊢
  cases hDirection : req.direction <;> rw [hDirection] at h
  · obtain ⟨bytes, hData, hCall⟩ := h
    refine ⟨bytes, ?_, hCall⟩
    rw [data_apply] at hData ⊢
    cases hSlice : slice? p.buf 0 p.len with
    | none =>
      rw [hSlice] at hData
      cases hData
    | some part =>
      rw [hSlice] at hData
      cases hData
      rfl
  · exact h

theorem awaits_of_callControl {cls : C} {r : Except UsbError C} (hAwaits : p.Awaits req)
    (hShows : p.Shows req call) (h : callControl req index cls p = .done r q)
    (hWaiting : q.waitingForResponse = true) : q.Awaits req ∧ q.Shows req call := by
  have hAside := aside_of_callControl hShows h
  have hNoted : Awaits { p with bus := p.bus.noting (.class_ index call) } req := hAwaits
  exact ⟨hNoted.aside hAside hWaiting, (hShows.onBus _).aside hNoted hAside hWaiting⟩

omit [UsbBus B] in
theorem Shows.offer? (h : p.Shows req call) (index : Nat) :
    (Event.class_ index call).offer? = some (index, call) := by
  unfold Shows at h
  cases hDirection : req.direction <;> rw [hDirection] at h
  · obtain ⟨bytes, -, rfl⟩ := h
    rfl
  · rw [h]
    rfl

theorem offers_of_callControl {cls : C} {r : Except UsbError C} (hShows : p.Shows req call)
    (hIn : p.epIn.address = .control .in_) (h : callControl req index cls p = .done r q) :
    offers q.bus.trace = offers p.bus.trace ++ [(index, call)] ∧
      Traced.Grows OfferEvent p.bus q.bus := by
  have hAside := aside_of_callControl hShows h
  have hSide := hAside.grows hIn
  have hNoted : offers (p.bus.noting (.class_ index call)).trace =
      offers p.bus.trace ++ [(index, call)] := by
    rw [Traced.trace_noting, offers_append]
    congr 1
    exact List.filterMap_cons_some (hShows.offer? index)
  constructor
  · exact (offers_of_grows (fun _ => offer?_of_side) hSide).trans hNoted
  · have hCall : OfferEvent (.class_ index call) := .inl (by rw [hShows.offer?]; rfl)
    exact .trans _ _ _ (.single rfl hCall) (hSide.mono fun _ => Or.inr)

section Offered

variable {classes : List C} {count : Nat} {found : Option Unit}

theorem Offered.record (h : Offered req call index classes p count found q)
    (hIn : p.epIn.address = .control .in_) :
    offers q.bus.trace =
        offers p.bus.trace ++ (List.range' index count).map (fun k => (k, call)) ∧
      Traced.Grows OfferEvent p.bus q.bus := by
  induction h with
  | exhausted index p =>
    rw [List.range'_zero, List.map_nil, List.append_nil]
    exact ⟨rfl, .refl _⟩
  | answered hAwaits hShows hCall hAnswered => exact offers_of_callControl hShows hIn hCall
  | passed hAwaits hShows hCall hWaiting hRest ih =>
    obtain ⟨hFirst, hGrows⟩ := offers_of_callControl hShows hIn hCall
    have hAside := aside_of_callControl hShows hCall
    obtain ⟨hLater, hGrows'⟩ := ih (by rw [hAside.epIn]; exact hIn)
    refine ⟨?_, .trans _ _ _ hGrows hGrows'⟩
    rw [hLater, hFirst, List.append_assoc, List.range'_succ, List.map_cons]
    rfl

theorem Offered.frame (h : Offered req call index classes p count found q) : SameFrame p q := by
  induction h with
  | exhausted index p => exact ⟨rfl, rfl, rfl⟩
  | answered hAwaits hShows hCall hAnswered =>
    have hAside := aside_of_callControl hShows hCall
    exact ⟨hAside.epOut, hAside.epIn, hAside.length⟩
  | passed hAwaits hShows hCall hWaiting hRest ih =>
    have hAside := aside_of_callControl hShows hCall
    exact SameFrame.trans ⟨hAside.epOut, hAside.epIn, hAside.length⟩ ih

theorem Offered.of_none (h : Offered req call index classes p count none q)
    (hAwaits : p.Awaits req) : count = classes.length ∧ q.Awaits req := by
  generalize hFound : none = found at h
  induction h with
  | exhausted index p => exact ⟨rfl, hAwaits⟩
  | answered hAwaits' hShows hCall hAnswered => cases hFound
  | passed hAwaits' hShows hCall hWaiting hRest ih =>
    obtain ⟨hCount, hq⟩ := ih (awaits_of_callControl hAwaits hShows hCall hWaiting).1 hFound
    exact ⟨congrArg Nat.succ hCount, hq⟩

end Offered

end ControlPipe

section FirstClass

variable {req : Request} {call : ClassCall} {index : Nat}

theorem unfailing_callControl (req : Request) (index : Nat) (cls : C) :
    Unfailing (callControl req index cls : PipeM B C) := by
  unfold callControl
  cases req.direction with
  | in_ => exact unfailing_callControlIn req index cls
  | out => exact unfailing_callControlOut req index cls

/-- The loop over the classes offers the request to them in order. -/
theorem offered_of_findClass {classes : List C} {d e : UsbDevice B}
    {r : Except UsbError (Option Unit × List C)} (hAwaits : d.control.Awaits req)
    (hShows : d.control.Shows req call)
    (h : findClass (offer (callControl req)) index classes d = .done r e) :
    ∃ found rest count q, r = .ok (found, rest) ∧ e = d.withPipe q ∧
      ControlPipe.Offered req call index classes d.control count found q := by
  induction classes generalizing index d e r with
  | nil =>
    cases h
    exact ⟨none, [], 0, d.control, rfl, rfl, .exhausted _ _⟩
  | cons cls rest ih =>
    cases hCall : callControl req index cls d.control with
    | panic reason =>
      have hPanic : offer (callControl req) index cls d = .panic reason := by
        rw [offer, bind_apply, UsbDevice.onPipe, zoom_apply, hCall]
      rw [findClass, bind_of_panic hPanic] at h
      cases h
    | done r' q =>
      obtain ⟨cls', rfl⟩ := post_of_done (unfailing_callControl req index cls _) hCall
      have hOffer : offer (callControl req) index cls d =
          .done (.ok (if q.waitingForResponse then none else some (), cls')) (d.withPipe q) := by
        rw [offer, bind_apply, UsbDevice.onPipe, zoom_apply, hCall]
        rfl
      rw [findClass, bind_of_ok hOffer] at h
      by_cases hWaiting : q.waitingForResponse = true
      · rw [if_pos hWaiting] at h
        dsimp only at h
        obtain ⟨hAwaits', hShows'⟩ :=
          ControlPipe.awaits_of_callControl hAwaits hShows hCall hWaiting
        cases hRest : findClass (offer (callControl req)) (index + 1) rest (d.withPipe q) with
        | panic reason =>
          rw [bind_of_panic hRest] at h
          cases h
        | done r'' e' =>
          obtain ⟨found, rest', count, s, rfl, rfl, hOffered⟩ := ih hAwaits' hShows' hRest
          rw [bind_of_ok hRest] at h
          cases h
          exact ⟨found, cls' :: rest', count + 1, s, rfl, rfl,
            .passed hAwaits hShows hCall hWaiting hOffered⟩
      · rw [if_neg hWaiting] at h
        cases h
        exact ⟨some (), cls' :: rest, 1, q, rfl, rfl,
          .answered hAwaits hShows hCall (Bool.eq_false_iff.mpr hWaiting)⟩

theorem shows_of_firstClass {s t : Session B C} {r : Except UsbError (Option Unit)}
    (hSome : s.classes ≠ []) (h : Session.firstClass (offer (callControl req)) s = .done r t) :
    ∃ call, s.device.control.Shows req call := by
  unfold ControlPipe.Shows
  cases hDirection : req.direction with
  | in_ => exact ⟨.controlIn req, rfl⟩
  | out =>
    cases hSlice : slice? s.device.control.buf 0 s.device.control.len with
    | some bytes =>
      refine ⟨.controlOut req bytes, bytes, ?_, rfl⟩
      rw [ControlPipe.data_apply, hSlice]
    | none =>
      obtain ⟨cls, rest, hClasses⟩ := List.exists_cons_of_ne_nil hSome
      have hData : ControlPipe.data s.device.control = .panic .sliceIndex := by
        rw [ControlPipe.data_apply, hSlice]
      have hCall : callControl req 0 cls s.device.control = .panic .sliceIndex := by
        unfold callControl
        rw [hDirection]
        exact bind_of_panic hData
      have hOffer : offer (callControl req) 0 cls s.device = .panic .sliceIndex := by
        rw [offer, bind_apply, UsbDevice.onPipe, zoom_apply, hCall]
      rw [Session.firstClass, bind_apply, get_apply] at h
      dsimp only at h
      rw [bind_apply, Session.onDevice, zoom_apply, hClasses, findClass, bind_of_panic hOffer] at h
      cases h

theorem offered_of_firstClass {s t : Session B C} {r : Except UsbError (Option Unit)}
    (hAwaits : s.device.control.Awaits req)
    (h : Session.firstClass (offer (callControl req)) s = .done r t) :
    ∃ call found count q, r = .ok found ∧ t.device = s.device.withPipe q ∧
      ControlPipe.Offered req call 0 s.classes s.device.control count found q := by
  by_cases hNone : s.classes = []
  · rw [Session.firstClass, bind_apply, get_apply] at h
    dsimp only at h
    rw [hNone] at h ⊢
    cases h
    exact ⟨.poll, none, 0, s.device.control, rfl, rfl, .exhausted 0 _⟩
  obtain ⟨call, hShows⟩ := shows_of_firstClass hNone h
  rw [Session.firstClass, bind_apply, get_apply] at h
  dsimp only at h
  cases hFind : findClass (offer (callControl req)) 0 s.classes s.device with
  | panic reason =>
    rw [bind_apply, Session.onDevice, zoom_apply, hFind] at h
    cases h
  | done r' e =>
    obtain ⟨found, rest, count, q, rfl, rfl, hOffered⟩ := offered_of_findClass hAwaits hShows hFind
    rw [bind_apply, Session.onDevice, zoom_apply, hFind] at h
    cases h
    exact ⟨call, found, count, q, rfl, rfl, hOffered⟩

end FirstClass

inductive Answer where
  | acceptIn (f : SliceFn)
  | acceptOut
  | reject

namespace Answer

def perform : Answer → PipeM B Unit
  | acceptIn f => ControlPipe.acceptIn f.run
  | acceptOut => ControlPipe.acceptOut
  | reject => ControlPipe.reject

def Suits (req : Request) (p : ControlPipe B) : Answer → Prop
  | acceptIn _ => p.state = .completeIn req
  | acceptOut => p.state = .completeOut
  | reject => p.waitingForResponse = true

/-- The error comes from the callback that the device handed over, or from the bus. -/
def PassesOn (p : ControlPipe B) (e : UsbError) (answer : Answer) : Prop :=
  (∃ f buf, answer = acceptIn f ∧ f.run p.buf = .done (.error e) buf) ∨
    ∃ data, (UsbBus.write p.bus.bus p.epIn.address data).1 = .error e

variable {req : Request} {p q : ControlPipe B} {answer : Answer} {r : Except UsbError Unit}

theorem Suits.passesOn (hSuits : answer.Suits req p)
    (h : answer.perform p = .done (.error .invalidState) q) : answer.PassesOn p .invalidState := by
  cases answer with
  | acceptIn f =>
    rw [perform, ControlPipe.acceptIn_completeIn p hSuits] at h
    split at h
    · cases h
    · rename_i hRun
      cases h
      exact .inl ⟨f, _, rfl, hRun⟩
    · split at h
      · cases h
      · obtain ⟨data, hWrite⟩ := ControlPipe.writeInChunk_error h
        exact .inr ⟨data, hWrite⟩
  | acceptOut =>
    rw [perform, ControlPipe.acceptOut_completeOut p hSuits] at h
    split at h
    · cases h
    · cases h
      exact .inr ⟨[], ‹_›⟩
  | reject =>
    have hWaiting : p.waitingForResponse = true := hSuits
    rw [perform, ControlPipe.reject_apply, if_pos hWaiting] at h
    cases h

theorem Suits.answered (hSuits : answer.Suits req p) (h : answer.perform p = .done (.ok ()) q) :
    q.waitingForResponse = false := by
  cases answer with
  | acceptIn f =>
    rw [perform, ControlPipe.acceptIn_completeIn p hSuits] at h
    split at h
    · cases h
    · cases h
    · split at h
      · cases h
      · exact not_waiting_of_transmits (ControlPipe.transmitted_of_writeInChunk rfl h).state
  | acceptOut =>
    rw [perform, ControlPipe.acceptOut_completeOut p hSuits] at h
    split at h
    · cases h
      rfl
    · cases h
  | reject =>
    have hWaiting : p.waitingForResponse = true := hSuits
    rw [perform, ControlPipe.reject_apply, if_pos hWaiting] at h
    cases h
    rfl

theorem grows (h : answer.perform p = .done r q) :
    Traced.Grows ControlPipe.TransferEvent p.bus q.bus := by
  cases answer with
  | acceptIn f => exact (ControlPipe.answersIn_of_acceptIn f h).grows
  | acceptOut => exact (ControlPipe.acceptsOut_of_acceptOut h).grows
  | reject => exact (ControlPipe.answersIn_of_reject h).grows

end Answer

/-- What the device does for a request short of answering it: it writes no packet to EP0. -/
def HandlerEvent : Event → Prop
  | .read addr _ _ | .write addr _ _ => addr.index ≠ 0
  | .setStalled _ _ | .setDeviceAddress _ => True
  | .class_ index call => (Event.class_ index call).offer? = none
  | _ => False

theorem handlerEvent_of_endpoint {event : Event} (h : EndpointEvent event) : HandlerEvent event := by
  cases event with
  | read addr len result => exact h
  | write addr data result => exact h
  | setStalled addr stalled => trivial
  | _ => exact h.elim

theorem HandlerEvent.offer? {event : Event} (h : HandlerEvent event) : event.offer? = none := by
  cases event with
  | class_ index call => exact h
  | _ => rfl

/-- The pipe stays as it is between `d` and `e`, and no class is offered the request. -/
structure Untouched (d e : UsbDevice B) : Prop where
  pipe : ∃ t, e.control = { d.control with bus := t }
  grows : Traced.Grows HandlerEvent d.control.bus e.control.bus

/-- From `d` to `t` one answer is given, with the pipe in the state for it: before it no packet is
written to EP0, and after it nothing is done. -/
def AnsweredOnce (req : Request) (d : UsbDevice B) (r : Except UsbError Unit) (t : UsbDevice B) :
    Prop :=
  ∃ (answer : Answer) (e : UsbDevice B) (q : ControlPipe B), Untouched d e ∧
    answer.Suits req e.control ∧ answer.perform e.control = .done r q ∧ t = e.withPipe q

section Answers

variable {req : Request} {d e : UsbDevice B} {s t : Session B C} {r : Except UsbError Unit}

omit [UsbBus B] in
theorem untouched_refl (d : UsbDevice B) : Untouched d d := ⟨⟨d.control.bus, rfl⟩, .refl _⟩

omit [UsbBus B] in
theorem untouched_trans (d e f : UsbDevice B) (h : Untouched d e) (h' : Untouched e f) :
    Untouched d f := by
  obtain ⟨t, hPipe⟩ := h.pipe
  obtain ⟨u, hPipe'⟩ := h'.pipe
  refine ⟨⟨u, ?_⟩, .trans _ _ _ h.grows h'.grows⟩
  rw [hPipe', hPipe]

omit [UsbBus B] in
theorem untouched_of_control (h : e.control = d.control) : Untouched d e := by
  refine ⟨⟨d.control.bus, h⟩, ?_⟩
  rw [h]
  exact .refl _

omit [UsbBus B] in
theorem Untouched.offers (h : Untouched d e) :
    offers e.control.bus.trace = offers d.control.bus.trace :=
  offers_of_grows (fun _ => HandlerEvent.offer?) h.grows

omit [UsbBus B] in
theorem Untouched.suits {answer : Answer} (h : Untouched d e) (hSuits : answer.Suits req d.control) :
    answer.Suits req e.control := by
  obtain ⟨t, hPipe⟩ := h.pipe
  rw [hPipe]
  cases answer <;> exact hSuits

omit [UsbClass C] in
theorem untouched_callClass {call : ClassCall} (hCall : ∀ index, (Event.class_ index call).offer? = none)
    (m : C → ClassM α) (index : Nat) (cls : C) :
    Within Untouched (UsbDevice.onBus (callClass call m index cls) : DeviceM B α) := by
  have hQuiet : Within (Traced.Grows HandlerEvent) (callClass call m index cls : BusM B α) := by
    refine within_bind Traced.Grows.trans (fun _ => .single rfl (hCall index)) fun _ => ?_
    apply (within_run_endpoint (m cls)).mono
    intro t u hGrows
    exact hGrows.mono fun _ => handlerEvent_of_endpoint
  intro d
  rw [UsbDevice.onBus, UsbDevice.onPipe, ControlPipe.onBus, post_zoom, post_zoom]
  apply (hQuiet d.control.bus).mono
  intro r t hGrows
  exact ⟨⟨t, rfl⟩, hGrows⟩

omit [UsbClass C] in
theorem post_answer {answer : Answer} (h : Untouched d s.device)
    (hSuits : answer.Suits req d.control) :
    Post True (Session.onPipe answer.perform) (fun r t => AnsweredOnce req d r t.device) s := by
  rw [Session.onPipe, Session.onDevice, post_zoom, UsbDevice.onPipe, post_zoom, post_true_iff]
  intro r q hDone
  exact ⟨answer, s.device, q, h, h.suits hSuits, hDone, rfl⟩

omit [UsbClass C] in
theorem post_reject_once (h : Untouched d s.device) (hSuits : Answer.reject.Suits req d.control) :
    Post True Session.reject (fun r t => AnsweredOnce req d r t.device) s := post_answer h hSuits

variable (req d) in
def Handled (r : Except UsbError Unit) (t : Session B C) : Prop :=
  r = .ok () ∧ Untouched d t.device ∨ AnsweredOnce req d r t.device

omit [UsbClass C] in
theorem post_rejectUnanswered_once {m : SessionM B C Unit}
    (hSuits : Answer.reject.Suits req d.control) (hm : Post True m (Handled req d) s) :
    Post True (do
      m
      let s ← get
      when (s.device.control.waitingForResponse = true) Session.reject)
      (fun r t => AnsweredOnce req d r t.device) s := by
  rw [post_bind]
  apply hm.mono
  rintro r t (⟨rfl, hUntouched⟩ | hOnce)
  · dsimp only
    rw [post_bind, post_get]
    have hWaiting : t.device.control.waitingForResponse = true := hUntouched.suits hSuits
    dsimp only
    rw [when_of_true hWaiting]
    exact post_reject_once hUntouched hSuits
  · cases r with
    | error e => exact hOnce
    | ok v =>
      have hAnswered : t.device.control.waitingForResponse = false := by
        obtain ⟨answer, e, q, -, hSuits', hDone, hDevice⟩ := hOnce
        rw [hDevice]
        exact hSuits'.answered hDone
      dsimp only
      rw [post_bind, post_get]
      dsimp only
      rw [when_of_false (by rw [hAnswered]; exact Bool.noConfusion)]
      exact hOnce

omit [UsbClass C] in
theorem post_firstClass_once {f : Nat → C → DeviceM B (Option α × C)} {k : Option α → SessionM B C Unit}
    (hUnfailing : ∀ index cls, Unfailing (f index cls))
    (hf : ∀ index cls, Within Untouched (f index cls))
    (hk : ∀ found t, Untouched s.device t.device →
      Post True (k found) (fun r u => AnsweredOnce req s.device r u.device) t) :
    Post True (Session.firstClass f >>= k) (fun r t => AnsweredOnce req s.device r t.device) s := by
  rw [post_bind]
  have hFirst : Within (OnDevices Untouched) (Session.firstClass f) :=
    within_firstClass untouched_refl untouched_trans hf
  apply ((hFirst s).and (unfailing_firstClass hUnfailing s)).mono
  rintro _ t ⟨ht, found, rfl⟩
  exact hk found t ht

/-- Each arm of the handler of IN requests answers once or not at all. -/
theorem post_standardControlIn_once (hState : s.device.control.state = .completeIn req) :
    Post True (Session.standardControlIn req) (Handled req s.device) s := by
  have hRefl := untouched_refl s.device
  have hReject : Answer.reject.Suits req s.device.control := ControlPipe.waiting_of_completeIn hState
  have hAccept (data : List UInt8) (t : Session B C) (ht : Untouched s.device t.device) :
      Post True (Session.acceptWith data) (fun r u => AnsweredOnce req s.device r u.device) t := by
    have hSuits : (Answer.acceptIn (.copy data)).Suits req s.device.control := hState
    exact post_answer ht hSuits
  rw [Session.standardControlIn, post_bind, post_get]
  dsimp only
  cases req.standardIn with
  | deviceStatus => exact (hAccept _ s hRefl).mono fun _ _ => Or.inr
  | interfaceStatus => exact (hAccept _ s hRefl).mono fun _ _ => Or.inr
  | endpointStatus =>
    dsimp only
    rw [post_bind, Post, isStalled_apply]
    exact (hAccept _ s hRefl).mono fun _ _ => Or.inr
  | configuration => exact (hAccept _ s hRefl).mono fun _ _ => Or.inr
  | descriptor =>
    dsimp only
    rw [getDescriptor]
    cases hWriter : descriptorWriter s.device.config s.classes req with
    | none => exact (post_reject_once hRefl hReject).mono fun _ _ => Or.inr
    | some f =>
      have hAnswer : Post True (Session.onPipe (Answer.perform
          (.acceptIn (acceptWriterFn f (keepsLength_descriptorWriter hWriter)))))
          (fun r u => AnsweredOnce req s.device r u.device) s := post_answer hRefl hState
      exact hAnswer.mono fun _ _ => Or.inr
  | interface =>
    dsimp only
    split
    · exact (post_reject_once hRefl hReject).mono fun _ _ => Or.inr
    · refine Post.mono (post_firstClass_once ?_ ?_ fun setting t ht => hAccept _ t ht)
        fun _ _ => Or.inr
      · exact fun index cls => unfailing_deviceBus (unfailing_callClass _ _ index cls)
      · exact untouched_callClass (fun _ => rfl) _
  | other => exact .inl ⟨rfl, hRefl⟩

omit [UsbClass C] in
theorem post_accept_once (h : Untouched d s.device) (hState : d.control.state = .completeOut) :
    Post True Session.accept (fun r t => AnsweredOnce req d r t.device) s := by
  have hSuits : Answer.acceptOut.Suits req d.control := hState
  exact post_answer h hSuits

theorem post_setInterface_once (hState : s.device.control.state = .completeOut) :
    Post True (Session.setInterface req) (fun r t => AnsweredOnce req s.device r t.device) s := by
  have hReject : Answer.reject.Suits req s.device.control := ControlPipe.waiting_completeOut hState
  unfold Session.setInterface
  split
  · exact post_reject_once (untouched_refl _) hReject
  · refine post_firstClass_once ?_ ?_ ?_
    · intro index cls
      exact unfailing_bind (unfailing_deviceBus (unfailing_callClass _ _ index cls)) fun _ =>
        unfailing_pure _
    · intro index cls
      exact within_bind untouched_trans (untouched_callClass (fun _ => rfl) _ index cls) fun _ =>
        within_pure untouched_refl _
    · intro found t ht
      cases found with
      | some v => exact post_accept_once ht hState
      | none =>
        dsimp only
        split
        · exact post_accept_once ht hState
        · exact post_reject_once ht hReject

/-- Each arm of the handler of OUT requests answers once. -/
theorem post_standardControlOut_once (hState : s.device.control.state = .completeOut) :
    Post True (Session.standardControlOut req) (fun r t => AnsweredOnce req s.device r t.device) s := by
  have hReject : Answer.reject.Suits req s.device.control := ControlPipe.waiting_completeOut hState
  have hAccept (e : UsbDevice B) (he : Untouched s.device e) :
      Post True Session.accept (fun r u => AnsweredOnce req s.device r u.device)
        { s with device := e } := post_accept_once he hState
  have hSame (e : UsbDevice B) (he : e.control = s.device.control) :
      Post True Session.accept (fun r u => AnsweredOnce req s.device r u.device)
        { s with device := e } := hAccept e (untouched_of_control he)
  have hEvent (t : Traced B) (event : Event) (hHandler : HandlerEvent event)
      (hTrace : t.trace = s.device.control.bus.trace ++ [event]) (e : UsbDevice B)
      (he : e.control = { s.device.control with bus := t }) : Untouched s.device e := by
    refine ⟨⟨t, he⟩, ?_⟩
    rw [he]
    exact .single hTrace hHandler
  rw [Session.standardControlOut, post_bind, post_get]
  dsimp only
  cases req.standardOut with
  | clearRemoteWakeup => exact hSame { s.device with remoteWakeupEnabled := false } rfl
  | setRemoteWakeup => exact hSame { s.device with remoteWakeupEnabled := true } rfl
  | clearHalt => exact hAccept _ (hEvent _ (.setStalled req.endpointAddress false) trivial rfl _ rfl)
  | setHalt => exact hAccept _ (hEvent _ (.setStalled req.endpointAddress true) trivial rfl _ rfl)
  | setAddress =>
    dsimp only
    rw [post_bind, Session.setAddress]
    split
    · exact hAccept _ (hEvent _ (.setDeviceAddress req.value.toUInt8) trivial rfl
        { s.device.withBus _ with deviceState := .addressed } rfl)
    · exact hSame { s.device with pendingAddress := req.value.toUInt8 } rfl
  | configure => exact hSame { s.device with deviceState := .configured } rfl
  | deconfigure =>
    dsimp only
    rw [post_bind]
    refine post_when (fun _ => ?_) fun _ => hSame s.device rfl
    exact hSame { s.device with deviceState := .addressed } rfl
  | setInterface => exact post_setInterface_once hState
  | other => exact post_reject_once (untouched_refl _) hReject

end Answers

section Dispatch

variable {req : Request} {d : UsbDevice B} {s t : Session B C} {r : Except UsbError Unit}

def standardControl (req : Request) : SessionM B C Unit :=
  match req.direction with
  | .in_ => Session.standardControlIn req
  | .out => Session.standardControlOut req

def answerSelf (req : Request) : SessionM B C Unit := do
  when (req.requestType = .standard) (standardControl req)
  let s ← get
  when (s.device.control.waitingForResponse = true) Session.reject

theorem dispatch_eq (req : Request) :
    (Session.dispatch req : SessionM B C Unit) =
      (Session.firstClass (offer (callControl req)) >>= fun found =>
        match found with
        | some () => pure ()
        | none => answerSelf req) := by
  unfold Session.dispatch answerSelf callControl standardControl
  cases req.direction <;> rfl

theorem post_answerSelf (hAwaits : s.device.control.Awaits req) :
    Post True (answerSelf req) (fun r t => AnsweredOnce req s.device r t.device) s := by
  have hHandled : Post True (standardControl req) (Handled req s.device) s := by
    unfold standardControl
    unfold ControlPipe.Awaits at hAwaits
    cases hDirection : req.direction <;> rw [hDirection] at hAwaits
    · exact (post_standardControlOut_once hAwaits).mono fun _ _ => Or.inr
    · exact post_standardControlIn_once hAwaits
  apply post_rejectUnanswered_once hAwaits.waiting
  exact post_when (fun _ => hHandled) fun _ => .inl ⟨rfl, untouched_refl _⟩

theorem AnsweredOnce.offers {t : UsbDevice B} (h : AnsweredOnce req d r t) :
    offers t.control.bus.trace = offers d.control.bus.trace := by
  obtain ⟨answer, e, q, hUntouched, -, hDone, rfl⟩ := h
  refine (offers_of_grows ?_ (Answer.grows hDone)).trans hUntouched.offers
  intro event hEvent
  cases event with
  | class_ index call => exact hEvent.elim
  | _ => rfl

/-- Who answers a request: a class, which is then the last to be offered it and after which the device
does nothing, or the device, after all classes have left the request to it. -/
inductive OneParty (req : Request) (classes : List C) (d : UsbDevice B) (r : Except UsbError Unit)
    (t : UsbDevice B) : Prop
  | byClass (call : ClassCall) (count : Nat) (q : ControlPipe B)
      (hOffered : d.control.Offered req call 0 classes count (some ()) q)
      (hResult : r = .ok ()) (hDevice : t = d.withPipe q)
      (hRecord : offers t.control.bus.trace =
        offers d.control.bus.trace ++ (List.range count).map fun k => (k, call))
      (hEvents : Traced.Grows OfferEvent d.control.bus t.control.bus)
  | byDevice (call : ClassCall) (q : ControlPipe B)
      (hOffered : d.control.Offered req call 0 classes classes.length none q)
      (hRecord : offers t.control.bus.trace =
        offers d.control.bus.trace ++ (List.range classes.length).map fun k => (k, call))
      (answer : Answer) (e : UsbDevice B) (q' : ControlPipe B)
      (hUntouched : Untouched (d.withPipe q) e) (hSuits : answer.Suits req e.control)
      (hAnswer : answer.perform e.control = .done r q') (hDevice : t = e.withPipe q')
      (hError : r = .error .invalidState → answer.PassesOn e.control .invalidState)

/-- One party answers a request that awaits its answer. -/
theorem oneParty_dispatch (hAwaits : s.device.control.Awaits req)
    (hIn : s.device.control.epIn.address = .control .in_)
    (h : Session.dispatch req s = .done r t) : OneParty req s.classes s.device r t.device := by
  rw [dispatch_eq] at h
  cases hFirst : Session.firstClass (offer (callControl req)) s with
  | panic reason =>
    rw [bind_of_panic hFirst] at h
    cases h
  | done r' u =>
    obtain ⟨call, found, count, q, rfl, hDevice, hOffered⟩ := offered_of_firstClass hAwaits hFirst
    obtain ⟨hRecord, hEvents⟩ := hOffered.record hIn
    rw [← List.range_eq_range'] at hRecord
    rw [bind_of_ok hFirst] at h
    cases found with
    | some v =>
      cases h
      rw [hDevice]
      exact .byClass call count q hOffered rfl rfl hRecord hEvents
    | none =>
      obtain ⟨hCount, hAwaits'⟩ := hOffered.of_none hAwaits
      have hOnce : AnsweredOnce req u.device r t.device := by
        apply post_of_done (post_answerSelf ?_) h
        rw [hDevice]
        exact hAwaits'
      rw [hDevice] at hOnce
      have hOffers := hOnce.offers
      obtain ⟨answer, e, q', hUntouched, hSuits, hAnswer, hAfter⟩ := hOnce
      subst hCount
      refine .byDevice call q hOffered (hOffers.trans hRecord) answer e q' hUntouched hSuits hAnswer
        hAfter ?_
      rintro rfl
      exact hSuits.passesOn hAnswer

theorem ControlPipe.Receives.awaits {p q : ControlPipe B} {epSetup : UInt16}
    (h : p.Receives epSetup (some req) q)
    (hData : ∀ req, p.state = .dataOut req → req.direction = .out) : q.Awaits req := by
  unfold ControlPipe.Awaits
  rcases h.waiting hData with ⟨hState, hOut⟩ | ⟨hState, hIn⟩
  · rw [hOut]
    exact hState
  · rw [hIn]
    exact hState

/-- Every request that a poll hands out meets a pipe that awaits the answer, and gets it from one
party. -/
theorem oneParty_answers [UsbBus.Contract B] (hReachable : s.Reachable)
    {epOut epIn epSetup : UInt16} (hEvent : s.device.event? = some (.data epOut epIn epSetup, d))
    {p : ControlPipe B}
    (hReceive : Session.receive epOut epSetup d.control = .done (.ok (some req)) p)
    (hDispatch : Session.dispatch req { s with device := d.withPipe p } = .done r t) :
    p.Awaits req ∧ OneParty req s.classes (d.withPipe p) r t.device := by
  have hWell := background_wellFormed.event hReachable.wellFormed hEvent
  have hReceives := ControlPipe.Receives.of_receive hReceive
  have hAwaits := hReceives.awaits hWell.data
  have hWell' : (d.withPipe p).WellFormed := hWell.withPipe hReceives.frame
  exact ⟨hAwaits, oneParty_dispatch hAwaits hWell'.epIn hDispatch⟩

structure MeterClass where
  reading : Option (List UInt8)

instance : UsbClass MeterClass where
  controlIn cls req := match req.requestType, cls.reading with
    | .vendor, some bytes => return .acceptWith bytes fun _ => pure cls
    | _, _ => return .ignore cls

def meters : List MeterClass := [⟨none⟩, ⟨some [7, 8]⟩, ⟨some [9]⟩]

def meterRequest : Request := ⟨.in_, .vendor, .device, 1, 0, 0, 2⟩

def meterBus : ScriptBus := setupBus [0xC0, 1, 0, 0, 0, 0, 2, 0]

def meterPipe : ControlPipe ScriptBus :=
  (Session.receive 0 1 meterBus.device.polled.control).state?.get (by decide +kernel)

/-- The first class leaves the request, the second answers it, and the third does not see it. -/
theorem oneParty_answers_meters : ∃ t : Session ScriptBus MeterClass,
    Session.dispatch meterRequest ⟨meterBus.device.polled.withPipe meterPipe, meters⟩ =
      .done (.ok ()) t ∧
    meterPipe.Awaits meterRequest ∧
    OneParty meterRequest meters (meterBus.device.polled.withPipe meterPipe) (.ok ()) t.device := by
  have hReachable : (⟨meterBus.device, meters⟩ : Session ScriptBus MeterClass).Reachable :=
    ⟨_, _, ScriptBus.fresh_device _, .refl⟩
  have hReceive : Session.receive 0 1 meterBus.device.polled.control =
      .done (.ok (some meterRequest)) meterPipe :=
    Outcome.eq_done (by decide +kernel) (Option.some_get _).symm
  have hEvent : meterBus.device.event? = some (.data 0 0 1, meterBus.device.polled) := rfl
  obtain ⟨t, hDispatch⟩ : ∃ t, Session.dispatch meterRequest
      (⟨meterBus.device.polled.withPipe meterPipe, meters⟩ : Session ScriptBus MeterClass) =
      .done (.ok ()) t := Outcome.exists_ok (by decide +kernel)
  exact ⟨t, hDispatch, oneParty_answers hReachable hEvent hReceive hDispatch⟩

end Dispatch

/-- A class that describes an endpoint before any interface. -/
structure OrphanClass where

instance : UsbClass OrphanClass where
  getConfigurationDescriptors _ := .call (.endpoint ⟨⟨0x81⟩, .bulk, 64, 0⟩) fun result => .ret result

def orphanBus : ScriptBus := setupBus [0x80, 6, 0, 2, 0, 0, 64, 0]

def orphanDevice : UsbDevice ScriptBus :=
  { orphanBus.device with
    control := .new ⟨orphanBus, [.enable]⟩ (List.replicate 64 0) (.control .out 8) (.control .in_ 8) }

theorem fresh_orphanDevice : orphanDevice.Fresh :=
  ⟨.new ⟨0, 0⟩ (List.replicate 64 0), orphanBus, ⟨orphanBus, [.enable]⟩, .new _ _, rfl⟩

def orphanRequest : Request := ⟨.in_, .standard, .device, 6, 0x200, 0, 64⟩

def orphanPipe : ControlPipe ScriptBus :=
  (Session.receive 0 1 orphanDevice.polled.control).state?.get (by decide +kernel)

/-- The device's own acceptance of the request, whose result the dispatch returns, is InvalidState. -/
theorem not_forall_not_invalidState :
    ¬ ∀ (B C : Type) [UsbBus B] [UsbClass C] [UsbBus.Contract B] (s t : Session B C),
      s.Reachable → ∀ (epOut epIn epSetup : UInt16) (d : UsbDevice B),
      s.device.event? = some (.data epOut epIn epSetup, d) →
      ∀ (req : Request) (p : ControlPipe B),
      Session.receive epOut epSetup d.control = .done (.ok (some req)) p →
      ∀ r, Session.dispatch req { s with device := d.withPipe p } = .done r t →
      r ≠ .error .invalidState := by
  intro h
  have hReachable : (⟨orphanDevice, [OrphanClass.mk]⟩ : Session ScriptBus OrphanClass).Reachable :=
    ⟨_, _, fresh_orphanDevice, .refl⟩
  have hReceive : Session.receive 0 1 orphanDevice.polled.control =
      .done (.ok (some orphanRequest)) orphanPipe :=
    Outcome.eq_done (by decide +kernel) (Option.some_get _).symm
  obtain ⟨t, hDispatch⟩ : ∃ t, Session.dispatch orphanRequest
      (⟨orphanDevice.polled.withPipe orphanPipe, [OrphanClass.mk]⟩ : Session ScriptBus OrphanClass) =
      .done (.error .invalidState) t := Outcome.exists_error (by decide +kernel)
  have hEvent : orphanDevice.event? = some (.data 0 0 1, orphanDevice.polled) :=
    UsbDevice.event?_of_awake UsbDeviceState.noConfusion
  exact h ScriptBus OrphanClass _ t hReachable 0 0 1 _ hEvent _ _ hReceive _ hDispatch rfl

end UsbStack
