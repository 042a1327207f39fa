import UsbStack.SessionTandem
import UsbStack.SettingsHistory
import UsbStack.DescriptorRoom
import UsbStack.ControlTransfer

/-! # Classes that only observe

A class that is notified of everything but takes no request, writes no descriptor and uses no endpoint
may stand anywhere among the others. The host, the driver and the other classes do not see it.
-/

namespace UsbStack

set_option autoImplicit false

open Foundation Exec ControlPipe

variable {B C α : Type}

def Aligned (Pad : C → Prop) (i j : Nat) : Prop := (∀ cls, ¬ Pad cls) → i = j

theorem Aligned.next {Pad : C → Prop} {i j : Nat} (h : Aligned Pad i j) :
    Aligned Pad (i + 1) (j + 1) := fun hNone => congrArg _ (h hNone)

section Loops

variable {Pad : C → Prop} {D E : UsbDevice B → UsbDevice B → Prop} {l l' : List C} {i j : Nat}
  {d e : UsbDevice B}

theorem matches_forEachClass {f : Nat → C → DeviceM B C}
    (hKeep : ∀ i j cls d e, Aligned Pad i j → D d e → Agree (fun _ => D) (f i cls d) (f j cls e))
    (hPad : ∀ j cls d e, Pad cls → D d e →
      ∃ cls' e', f j cls e = .done (.ok cls') e' ∧ Pad cls' ∧ D d e')
    (h : Woven Pad l l') (hAligned : Aligned Pad i j) (hD : D d e) :
    Matches (fun l l' d e => Woven Pad l l' ∧ D d e) D (forEachClass f i l d)
      (forEachClass f j l' e) := by
  induction h generalizing i j d e with
  | nil => exact .ok ⟨.nil, hD⟩
  | keep cls _ ih =>
    refine matches_bind ((hKeep i j cls d e hAligned hD).matches fun _ _ _ h => h) ?_
    rintro cls' _ d e ⟨rfl, hD⟩
    refine matches_bind (ih hAligned.next hD) ?_
    rintro l l' d e ⟨hRest, hD⟩
    exact .ok ⟨hRest.keep cls', hD⟩
  | pad hCls _ ih =>
    obtain ⟨cls', e', hDone, hCls', hD'⟩ := hPad j _ d e hCls hD
    rw [forEachClass, bind_of_ok hDone]
    exact (ih (fun hNone => absurd hCls (hNone _)) hD').andThen
      fun _ _ _ _ hNext => ⟨hNext.1.pad hCls', hNext.2⟩

/-- `E` holds as long as no class has given a value. -/
theorem matches_findClass (hWeak : ∀ d e, E d e → D d e) {f : Nat → C → DeviceM B (Option α × C)}
    (hKeep : ∀ i j cls d e, Aligned Pad i j → E d e →
      Agree (fun r d' e' => D d' e' ∧ ∀ cls', r = .ok (none, cls') → E d' e') (f i cls d) (f j cls e))
    (hPad : ∀ j cls d e, Pad cls → E d e →
      ∃ cls' e', f j cls e = .done (.ok (none, cls')) e' ∧ Pad cls' ∧ E d e')
    (h : Woven Pad l l') (hAligned : Aligned Pad i j) (hE : E d e) :
    Matches (fun r r' d e => (r.1 = r'.1 ∧ Woven Pad r.2 r'.2) ∧ D d e) D (findClass f i l d)
      (findClass f j l' e) := by
  induction h generalizing i j d e with
  | nil => exact .ok ⟨⟨rfl, .nil⟩, hWeak d e hE⟩
  | keep cls h ih =>
    refine matches_bind ((hKeep i j cls d e hAligned hE).matches fun _ _ _ h => h.1) ?_
    rintro ⟨found, cls'⟩ _ d e ⟨rfl, hD, hNone⟩
    cases found with
    | some a => exact .ok ⟨⟨rfl, h.keep cls'⟩, hD⟩
    | none =>
      refine matches_bind (ih hAligned.next (hNone cls' rfl)) ?_
      rintro ⟨found, l⟩ ⟨_, l'⟩ d e ⟨⟨rfl, hRest⟩, hD⟩
      exact .ok ⟨⟨rfl, hRest.keep cls'⟩, hD⟩
  | pad hCls _ ih =>
    obtain ⟨cls', e', hDone, hCls', hE'⟩ := hPad j _ d e hCls hE
    rw [findClass, bind_of_ok hDone]
    exact (ih (fun hNone => absurd hCls (hNone _)) hE').andThen
      fun _ _ _ _ hNext => ⟨⟨hNext.1.1, hNext.1.2.pad hCls'⟩, hNext.2⟩

end Loops

section Sessions

variable {R : ControlPipe B → ControlPipe B → Prop} {Pad : C → Prop} {s t : Session B C}

theorem matches_onDevice {β : Type} {Q : α → β → Prop} {m : DeviceM B α} {m' : DeviceM B β}
    (h : s.Twin R (Woven Pad) t)
    (hm : Matches (fun a b d e => Q a b ∧ UsbDevice.Twin R d e) (UsbDevice.Twin R) (m s.device)
      (m' t.device)) :
    Matches (fun a b s t => Q a b ∧ Session.Twin R (Woven Pad) s t) (Session.Twin R (Woven Pad))
      (Session.onDevice m s) (Session.onDevice m' t) := by
  refine (matches_zoom hm).mono ?_ ?_
  · rintro a b _ _ ⟨d, e, rfl, rfl, hQ, hTwin⟩
    exact ⟨hQ, hTwin, h.2⟩
  · rintro _ _ ⟨d, e, rfl, rfl, hTwin⟩
    exact ⟨hTwin, h.2⟩

theorem agree_eachClass {f : Nat → C → DeviceM B C}
    (hKeep : ∀ i j cls d e, Aligned Pad i j → UsbDevice.Twin R d e →
      Agree (fun _ => UsbDevice.Twin R) (f i cls d) (f j cls e))
    (hPad : ∀ j cls d e, Pad cls → UsbDevice.Twin R d e →
      ∃ cls' e', f j cls e = .done (.ok cls') e' ∧ Pad cls' ∧ UsbDevice.Twin R d e')
    (h : s.Twin R (Woven Pad) t) :
    Agree (fun _ => Session.Twin R (Woven Pad)) (Session.eachClass f s) (Session.eachClass f t) := by
  have hLoop := matches_forEachClass hKeep hPad h.2 (fun _ => rfl : Aligned Pad 0 0) h.1
  rw [Session.eachClass, bind_apply, get_apply, bind_apply, get_apply]
  refine Matches.agree (matches_bind (matches_onDevice h hLoop) ?_)
  rintro classes classes' s t ⟨hWoven, hTwin⟩
  exact .ok ⟨rfl, hTwin.1, hWoven⟩

theorem agree_firstClass {E : UsbDevice B → UsbDevice B → Prop}
    (hWeak : ∀ d e, E d e → UsbDevice.Twin R d e) {f : Nat → C → DeviceM B (Option α × C)}
    (hKeep : ∀ i j cls d e, Aligned Pad i j → E d e →
      Agree (fun r d' e' => UsbDevice.Twin R d' e' ∧ ∀ cls', r = .ok (none, cls') → E d' e')
        (f i cls d) (f j cls e))
    (hPad : ∀ j cls d e, Pad cls → E d e →
      ∃ cls' e', f j cls e = .done (.ok (none, cls')) e' ∧ Pad cls' ∧ E d e')
    (h : s.Twin R (Woven Pad) t) (hE : E s.device t.device) :
    Agree (fun _ => Session.Twin R (Woven Pad)) (Session.firstClass f s) (Session.firstClass f t) := by
  have hLoop := matches_findClass hWeak hKeep hPad h.2 (fun _ => rfl : Aligned Pad 0 0) hE
  rw [Session.firstClass, bind_apply, get_apply, bind_apply, get_apply]
  refine Matches.agree (matches_bind (matches_onDevice h hLoop) ?_)
  rintro ⟨found, classes⟩ ⟨_, classes'⟩ s t ⟨⟨rfl, hWoven⟩, hTwin⟩
  exact .ok ⟨rfl, hTwin.1, hWoven⟩

end Sessions

/-- A class with `Pad` takes no request, writes no descriptor, uses no endpoint, and keeps `Pad`. -/
structure Observes [UsbClass C] (Pad : C → Prop) : Prop where
  notice {call : ClassCall} {f : C → ClassM C} {cls : C} : Pad cls → Notice call f →
    ∃ cls', f cls = .ret cls' ∧ Pad cls'
  controlIn {cls : C} (req : Request) : Pad cls →
    ∃ cls', UsbClass.controlIn cls req = .ret (.ignore cls') ∧ Pad cls'
  controlOut {cls : C} (req : Request) (data : List UInt8) : Pad cls →
    ∃ cls', UsbClass.controlOut cls req data = .ret (.ignore cls') ∧ Pad cls'
  getAltSetting {cls : C} (interface : InterfaceNumber) : Pad cls →
    ∃ cls', UsbClass.getAltSetting cls interface = .ret (none, cls') ∧ Pad cls'
  setAltSetting {cls : C} (interface : InterfaceNumber) (alternative : UInt8) : Pad cls →
    ∃ cls', UsbClass.setAltSetting cls interface alternative = .ret (false, cls') ∧ Pad cls'
  configuration {cls : C} : Pad cls → UsbClass.getConfigurationDescriptors cls = .ret (.ok ())
  bos {cls : C} : Pad cls → UsbClass.getBosDescriptors cls = .ret (.ok ())
  string {cls : C} (index : StringIndex) (langId : LangID) : Pad cls →
    UsbClass.getString cls index langId = none

theorem observes_none [UsbClass C] : Observes fun _ : C => False where
  notice h _ := h.elim
  controlIn _ h := h.elim
  controlOut _ _ h := h.elim
  getAltSetting _ h := h.elim
  setAltSetting _ _ h := h.elim
  configuration h := h.elim
  bos h := h.elim
  string _ _ h := h.elim

/-- The calls that classes with `Pad` add to the record do not separate what `T` relates, and they find
the data of a request in the buffer. -/
structure Hides (Pad : C → Prop) (T : Traced B → Traced B → Prop)
    (R : ControlPipe B → ControlPipe B → Prop) : Prop where
  called {i j : Nat} {t u : Traced B} (call : ClassCall) : Aligned Pad i j → T t u →
    T (t.noting (.class_ i call)) (u.noting (.class_ j call))
  extra {cls : C} {t u : Traced B} (j : Nat) (call : ClassCall) : Pad cls → T t u →
    T t (u.noting (.class_ j call))
  fits {cls : C} {p q : ControlPipe B} : Pad cls → R p q → q.Fits

section Steps

variable [UsbBus B] {T : Traced B → Traced B → Prop} {R : ControlPipe B → ControlPipe B → Prop}
  {P : SliceFn → Prop} {Pad : C → Prop} {p q : ControlPipe B} {d e : UsbDevice B} {i j : Nat} {cls : C}

omit [UsbBus B] in
theorem hides_none (hC : Traced.Coupled T) : Hides (fun _ : C => False) T R where
  called {i j t u} call hAligned hT := by
    cases hAligned fun _ => id
    unfold Traced.noting
    rw [hC.sameBus hT]
    exact hC.next _ _ hT
  extra _ _ h := h.elim
  fits h := h.elim

theorem Hides.agree_note (hHides : Hides Pad T R) (hC : ControlPipe.Coupled T R P)
    (hAligned : Aligned Pad i j) (call : ClassCall) (hR : R p q) :
    Agree (fun _ => R) ((onBus (Traced.note (.class_ i call)) : PipeM B Unit) p)
      ((onBus (Traced.note (.class_ j call)) : PipeM B Unit) q) :=
  ⟨rfl, hC.withBus hR (hHides.called call hAligned (hC.bus hR))⟩

theorem Hides.agree_callClass (hHides : Hides Pad T R) (hC : ControlPipe.Coupled T R P)
    (hAligned : Aligned Pad i j) (call : ClassCall) (m : C → ClassM α) (cls : C)
    (h : UsbDevice.Twin R d e) :
    Agree (fun _ => UsbDevice.Twin R) (UsbDevice.onBus (callClass call m i cls) d)
      (UsbDevice.onBus (callClass call m j cls) e) := by
  obtain ⟨q, hR, rfl⟩ := h
  have hNoted : Agree (fun _ => T) ((Traced.note (.class_ i call) : BusM B Unit) d.control.bus)
      ((Traced.note (.class_ j call) : BusM B Unit) q.bus) :=
    ⟨rfl, hHides.called call hAligned (hC.bus hR)⟩
  have hCalled : Agree (fun _ => T) (callClass call m i cls d.control.bus)
      (callClass call m j cls q.bus) :=
    agree_bind hNoted (fun _ t u hT => hC.lockstep_run (m cls) t u hT) fun _ _ _ hT => hT
  apply UsbDevice.agree_onPipe q ((agree_zoom hCalled).mono _)
  rintro _ _ _ ⟨t, u, rfl, rfl, hT⟩
  exact hC.withBus hR hT

theorem Hides.pad_callClass (hHides : Hides Pad T R) (hC : ControlPipe.Coupled T R P) (hPad : Pad cls)
    (call : ClassCall) {m : C → ClassM α} {a : α} (hReturns : m cls = .ret a) (j : Nat)
    (h : UsbDevice.Twin R d e) :
    ∃ e', UsbDevice.onBus (callClass call m j cls) e = .done (.ok a) e' ∧ UsbDevice.Twin R d e' := by
  obtain ⟨q, hR, rfl⟩ := h
  refine ⟨d.withPipe { q with bus := q.bus.noting (.class_ j call) }, ?_, ?_⟩
  · rw [callClass, hReturns]
    rfl
  · exact ⟨_, hC.withBus hR (hHides.extra j call hPad (hC.bus hR)), rfl⟩

variable [UsbClass C] {req : Request}

/-- A class that ignores the request leaves the pipe as it is, but for the call on record. -/
theorem Hides.pad_callControl (hHides : Hides Pad T R) (hC : ControlPipe.Coupled T R P)
    (hObserves : Observes Pad) (hPad : Pad cls) (j : Nat) (hR : R p q) (hExpects : p.Expects req) :
    ∃ cls' t, callControl req j cls q = .done (.ok cls') { q with bus := t } ∧ Pad cls' ∧
      R p { q with bus := t } := by
  unfold callControl
  cases hDirection : req.direction with
  | in_ =>
    obtain ⟨cls', hIgnored, hPad'⟩ := hObserves.controlIn req hPad
    refine ⟨cls', q.bus.noting (.class_ j (.controlIn req)), ?_, hPad', ?_⟩
    · dsimp only
      rw [callControlIn, hIgnored]
      rfl
    · exact hC.withBus hR (hHides.extra j _ hPad (hC.bus hR))
  | out =>
    have hState : q.state = .completeOut := (hC.state hR).symm.trans (hExpects.data hDirection)
    have hFits := hHides.fits hPad hR
    unfold Fits at hFits
    rw [hState] at hFits
    obtain ⟨data, hData⟩ : ∃ data, ControlPipe.data q = .done (.ok data) q := by
      rw [data_apply, slice?_of_le (Nat.zero_le _) hFits]
      exact ⟨_, rfl⟩
    obtain ⟨cls', hIgnored, hPad'⟩ := hObserves.controlOut req data hPad
    refine ⟨cls', q.bus.noting (.class_ j (.controlOut req data)), ?_, hPad', ?_⟩
    · dsimp only
      rw [callControlOut, bind_of_ok hData, hIgnored]
      rfl
    · exact hC.withBus hR (hHides.extra j _ hPad (hC.bus hR))

end Steps

section Descriptors

variable [UsbClass C] {Pad : C → Prop} {l l' : List C}

def classDescriptors (cls : C) : WriterM Unit := do
  (UsbClass.getConfigurationDescriptors cls).run
  DescriptorWriter.endClass

theorem Observes.adds_nothing (hObserves : Observes Pad) {cls : C} (hPad : Pad cls)
    {w : DescriptorWriter} (hMark : w.numEndpointsMark = none) :
    classDescriptors cls w = .done (.ok ()) w := by
  have hSame : { w with numEndpointsMark := none } = w := by
    cases w
    cases hMark
    rfl
  rw [classDescriptors, hObserves.configuration hPad]
  exact congrArg (Outcome.done (.ok ())) hSame

theorem mark_classDescriptors (cls : C) (w : DescriptorWriter) :
    Post True (classDescriptors cls) (fun r w' => r = .ok () → w'.numEndpointsMark = none) w := by
  rw [classDescriptors, post_bind, post_true_iff]
  rintro (e | ⟨⟩) w' -
  · exact nofun
  · exact fun _ => rfl

theorem Observes.forM_classDescriptors (hObserves : Observes Pad) (h : Woven Pad l l')
    {w : DescriptorWriter} (hMark : w.numEndpointsMark = none) :
    l'.forM classDescriptors w = l.forM classDescriptors w := by
  induction h generalizing w with
  | nil => rfl
  | keep cls _ ih =>
    have hNext := mark_classDescriptors cls w
    change (classDescriptors cls >>= fun _ => _) w = (classDescriptors cls >>= fun _ => _) w
    rw [bind_apply, bind_apply]
    unfold Post at hNext
    cases hDone : classDescriptors cls w with
    | panic reason => rfl
    | done r w' =>
      rw [hDone] at hNext
      cases r with
      | error e => rfl
      | ok u => exact ih (hNext rfl)
  | pad hPad _ ih =>
    change (classDescriptors _ >>= fun _ => _) w = _
    rw [bind_of_ok (hObserves.adds_nothing hPad hMark)]
    exact ih hMark

theorem Observes.configurationDescriptors (hObserves : Observes Pad) (h : Woven Pad l l')
    (config : Config) (buf : List UInt8) :
    configurationDescriptors config l' (.new buf) = configurationDescriptors config l (.new buf) := by
  have hMark := DescriptorWriter.post_configuration config buf
  change (DescriptorWriter.configuration config >>= fun _ => l'.forM classDescriptors >>= fun _ => _) _ =
    (DescriptorWriter.configuration config >>= fun _ => l.forM classDescriptors >>= fun _ => _) _
  rw [bind_apply, bind_apply]
  unfold Post at hMark
  cases hDone : DescriptorWriter.configuration config (.new buf) with
  | panic reason => rfl
  | done r w =>
    rw [hDone] at hMark
    cases r with
    | error e => rfl
    | ok u =>
      dsimp only
      rw [bind_apply, bind_apply, hObserves.forM_classDescriptors h (hMark rfl).2]

theorem Observes.bosDescriptors (hObserves : Observes Pad) (h : Woven Pad l l') :
    bosDescriptors l' = bosDescriptors l := by
  have hLoop : (l'.forM fun cls => (UsbClass.getBosDescriptors cls).run) =
      l.forM fun cls => (UsbClass.getBosDescriptors cls).run := by
    induction h with
    | nil => rfl
    | keep cls _ ih =>
      change (_ >>= fun _ => _) = (_ >>= fun _ => _)
      rw [ih]
    | pad hPad _ ih =>
      rw [← ih]
      change ((UsbClass.getBosDescriptors _).run >>= fun _ => _) = _
      rw [hObserves.bos hPad]
      rfl
  rw [UsbStack.bosDescriptors, UsbStack.bosDescriptors, hLoop]

theorem Observes.findString (hObserves : Observes Pad) (h : Woven Pad l l') (config : Config)
    (index : UInt8) (langId : LangID) :
    findString config l' index langId = findString config l index langId := by
  have hLoop : (l'.findSome? fun cls => UsbClass.getString cls ⟨index⟩ langId) =
      l.findSome? fun cls => UsbClass.getString cls ⟨index⟩ langId := by
    induction h with
    | nil => rfl
    | keep cls _ ih => rw [List.findSome?_cons, List.findSome?_cons, ih]
    | pad hPad _ ih => rw [List.findSome?_cons, hObserves.string _ _ hPad, ih]
  rw [UsbStack.findString, UsbStack.findString, hLoop]

theorem Observes.getDescriptor [UsbBus B] (hObserves : Observes Pad) (h : Woven Pad l l')
    (config : Config) (req : Request) :
    (getDescriptor config l' req : PipeM B Unit) = getDescriptor config l req := by
  unfold UsbStack.getDescriptor
  by_cases hType : req.descriptorTypeIndex.1 = DescriptorType.configuration
  · have hWriter (classes : List C) : descriptorWriter config classes req =
        some (UsbStack.configurationDescriptors config classes) := by
      simp [descriptorWriter, hType, DescriptorType.configuration, DescriptorType.bos,
        DescriptorType.device]
    have hSame : acceptWriter (UsbStack.configurationDescriptors config l') =
        acceptWriter (UsbStack.configurationDescriptors config l) := by
      funext buf
      rw [acceptWriter, acceptWriter, hObserves.configurationDescriptors h]
    rw [hWriter, hWriter]
    exact congrArg acceptIn hSame
  · have hWriter : descriptorWriter config l' req = descriptorWriter config l req := by
      simp only [descriptorWriter, if_neg hType, hObserves.bosDescriptors h, hObserves.findString h]
    rw [hWriter]

end Descriptors

section Coupled

variable [UsbBus B] [UsbClass C] {T : Traced B → Traced B → Prop}
  {R : ControlPipe B → ControlPipe B → Prop} {P : SliceFn → Prop} {Pad : C → Prop} {s t : Session B C}

theorem Hides.lockstep_notify (hHides : Hides Pad T R) (hC : ControlPipe.Coupled T R P)
    (hObserves : Observes Pad) {call : ClassCall} {f : C → ClassM C} (hNotice : Notice call f) :
    Lockstep (Session.Twin R (Woven Pad)) (Session.notify call f) := by
  intro s t h
  refine agree_eachClass (fun i j cls d e hAligned hTwin => ?_) (fun j cls d e hPad hTwin => ?_) h
  · exact hHides.agree_callClass hC hAligned call f cls hTwin
  · obtain ⟨cls', hReturns, hPad'⟩ := hObserves.notice hPad hNotice
    obtain ⟨e', hDone, hTwin'⟩ := hHides.pad_callClass hC hPad call hReturns j hTwin
    exact ⟨cls', e', hDone, hPad', hTwin'⟩

omit [UsbClass C] in
/-- Classes that are asked one after the other and only use their endpoints. -/
theorem Hides.lockstep_ask (hHides : Hides Pad T R) (hC : ControlPipe.Coupled T R P)
    (call : ClassCall) {β : Type} (m : C → ClassM (β × C)) (found : β → Option α)
    {f : Nat → C → DeviceM B (Option α × C)}
    (hf : ∀ index cls d, f index cls d =
      (UsbDevice.onBus (callClass call m index cls) >>= fun reply => pure (found reply.1, reply.2)) d)
    (hPad : ∀ cls, Pad cls → ∃ b cls', m cls = .ret (b, cls') ∧ found b = none ∧ Pad cls') :
    Lockstep (Session.Twin R (Woven Pad)) (Session.firstClass f) := by
  intro s t h
  refine agree_firstClass (fun _ _ hTwin => hTwin) ?_ ?_ h h.1
  · intro i j cls d e hAligned hTwin
    rw [hf, hf]
    refine agree_bind (hHides.agree_callClass hC hAligned call m cls hTwin) ?_ ?_
    · exact fun _ _ _ hNext => ⟨rfl, hNext, fun _ _ => hNext⟩
    · exact fun _ _ _ hNext => ⟨hNext, fun _ _ => hNext⟩
  · intro j cls d e hCls hTwin
    obtain ⟨b, cls', hReturns, hNone, hCls'⟩ := hPad cls hCls
    obtain ⟨e', hDone, hTwin'⟩ := hHides.pad_callClass hC hCls call hReturns j hTwin
    refine ⟨cls', e', ?_, hCls', hTwin'⟩
    rw [hf, bind_of_ok hDone, ← hNone]
    rfl

/-- A request is offered to the same classes, with observers passed over. -/
theorem Hides.agree_offers (hHides : Hides Pad T R) (hC : ControlPipe.Coupled T R P)
    (hObserves : Observes Pad) (hSupplies : Supplies P C) {req : Request}
    (h : s.Twin R (Woven Pad) t) (hExpects : s.device.control.Expects req) :
    Agree (fun _ => Session.Twin R (Woven Pad)) (Session.firstClass (offer (callControl req)) s)
      (Session.firstClass (offer (callControl req)) t) := by
  let Presenting (d e : UsbDevice B) : Prop := UsbDevice.Twin R d e ∧ d.control.Expects req
  refine agree_firstClass (E := Presenting) (fun _ _ hBoth => hBoth.1) ?_ ?_ h ⟨h.1, hExpects⟩
  · rintro i j cls d _ hAligned ⟨⟨q, hR, rfl⟩, hExpects⟩
    have hCall := hC.agree_callControl hSupplies cls
      (fun call p q hR => hHides.agree_note hC hAligned call hR) hR hExpects
    have hZoomed := @agree_zoom _ _ _ _ _ _ UsbDevice.control (fun p d => { d with control := p })
      (callControl req i cls) (callControl req j cls) d (d.withPipe q) hCall
    refine agree_bind hZoomed ?_ ?_
    · rintro cls' _ _ ⟨p', q', rfl, rfl, hNext, hStays⟩
      have hTwin : UsbDevice.Twin R { d with control := p' } { d.withPipe q with control := q' } :=
        ⟨q', hNext, rfl⟩
      rw [bind_apply, get_apply, bind_apply, get_apply]
      dsimp only [pure_apply]
      rw [← hC.waiting hNext]
      refine ⟨rfl, hTwin, fun cls'' hNone => ⟨hTwin, hStays ?_⟩⟩
      by_contra hAnswered
      rw [if_neg hAnswered] at hNone
      cases hNone
    · rintro e' _ _ ⟨p', q', rfl, rfl, hNext, -⟩
      exact ⟨⟨q', hNext, rfl⟩, nofun⟩
  · rintro j cls d _ hPad ⟨⟨q, hR, rfl⟩, hExpects⟩
    obtain ⟨cls', t, hDone, hPad', hNext⟩ := hHides.pad_callControl hC hObserves hPad j hR hExpects
    refine ⟨cls', d.withPipe { q with bus := t }, ?_, hPad', ⟨_, hNext, rfl⟩, hExpects⟩
    have hAsked : UsbDevice.onPipe (callControl req j cls) (d.withPipe q) =
        .done (.ok cls') (d.withPipe { q with bus := t }) := by
      have hPipe : (d.withPipe q).control = q := rfl
      rw [UsbDevice.onPipe, zoom_apply, hPipe, hDone]
      rfl
    rw [offer, bind_of_ok hAsked]
    have hWaiting : ({ q with bus := t } : ControlPipe B).waitingForResponse = true :=
      (hC.waiting hNext).symm.trans hExpects.waiting
    rw [bind_apply, get_apply]
    change Outcome.done (.ok (if ({ q with bus := t } : ControlPipe B).waitingForResponse = true
      then none else some (), cls')) _ = _
    rw [if_pos hWaiting]

/-- Observers make no difference. -/
theorem coupled_woven (hC : ControlPipe.Coupled T R P) (hSupplies : Supplies P C)
    (hObserves : Observes Pad) (hHides : Hides Pad T R) : Session.Coupled T R P (Woven Pad) where
  toPipe := hC
  notify hNotice := hHides.lockstep_notify hC hObserves hNotice
  getAltSetting interface := by
    refine hHides.lockstep_ask hC (.getAltSetting interface) (UsbClass.getAltSetting · interface) id
      (fun index cls d => ?_) fun cls hPad => ?_
    · rw [bind_apply]
      split <;> rename_i hDone <;> exact hDone
    · obtain ⟨cls', hReturns, hPad'⟩ := hObserves.getAltSetting interface hPad
      exact ⟨none, cls', hReturns, rfl, hPad'⟩
  setAltSetting interface alternative := by
    refine hHides.lockstep_ask hC (.setAltSetting interface alternative)
      (UsbClass.setAltSetting · interface alternative) (fun taken => if taken then some () else none)
      (fun index cls d => rfl) fun cls hPad => ?_
    obtain ⟨cls', hReturns, hPad'⟩ := hObserves.setAltSetting interface alternative hPad
    exact ⟨false, cls', hReturns, rfl, hPad'⟩
  offers h hExpects := hHides.agree_offers hC hObserves hSupplies h hExpects
  descriptor config req classes classes' p q hWoven hR := by
    rw [hObserves.getDescriptor hWoven]
    exact hC.lockstep_getDescriptor hSupplies config classes req p q hR

/-- The same classes answer coupled pipes alike. -/
theorem coupled_same (hC : ControlPipe.Coupled T R P) (hSupplies : Supplies P C) :
    Session.Coupled T R P (Eq : List C → List C → Prop) :=
  @woven_none C ▸ coupled_woven hC hSupplies observes_none (hides_none hC.toBus)

theorem lockstep_perform (hC : ControlPipe.Coupled T R P) (hSupplies : Supplies P C)
    (input : DeviceInput B C) : Lockstep (Session.Twin R Eq) input.perform :=
  fun _ _ h => agree_perform (coupled_same hC hSupplies) (corresponds_refl (fun _ => rfl) input) h

end Coupled

def Event.IsClassCall : Event → Prop
  | .class_ _ _ => True
  | _ => False

def Event.unplaced : Event → Event
  | .class_ _ call => .class_ 0 call
  | event => event

/-- The same driver, and the same record but for further calls of classes. -/
structure Traced.Overheard (t u : Traced B) : Prop where
  bus : t.bus = u.bus
  trace : Woven Event.IsClassCall (t.trace.map Event.unplaced) (u.trace.map Event.unplaced)

def ControlPipe.Overheard (p q : ControlPipe B) : Prop := Rebased Traced.Overheard p q ∧ p.Fits

theorem Traced.Overheard.record {t u : Traced B} (h : t.Overheard u) (b : B)
    (events events' : List Event)
    (hEvents : Woven Event.IsClassCall (events.map Event.unplaced) (events'.map Event.unplaced)) :
    Traced.Overheard (⟨b, t.trace ++ events⟩ : Traced B) ⟨b, u.trace ++ events'⟩ := by
  refine ⟨rfl, ?_⟩
  change Woven _ ((t.trace ++ events).map _) ((u.trace ++ events').map _)
  rw [List.map_append, List.map_append]
  exact h.trace.append hEvents

theorem coupled_overheard : Traced.Coupled (Traced.Overheard (B := B)) where
  sameBus h := h.bus
  next b _ h := h.record b _ _ (woven_refl _ _)

theorem hides_overheard (Pad : C → Prop) :
    Hides Pad (Traced.Overheard (B := B)) ControlPipe.Overheard where
  called {i j t u} call _ h := by
    unfold Traced.noting
    rw [← h.bus]
    exact h.record t.bus [.class_ i call] [.class_ j call] (woven_refl _ [Event.class_ 0 call])
  extra {cls t u} j call _ h := by
    have hNoted := h.record t.bus [] [.class_ j call] (.pad trivial .nil)
    rw [List.append_nil] at hNoted
    unfold Traced.noting
    rw [← h.bus]
    exact hNoted
  fits _ h := by
    obtain ⟨⟨_, -, rfl⟩, hFits⟩ := h
    exact hFits

section Runs

variable [UsbBus B] {T : Traced B → Traced B → Prop} {R : ControlPipe B → ControlPipe B → Prop}
  {P : SliceFn → Prop} {Pad : C → Prop} {s t : Session B C}

omit [UsbBus B] in
theorem lockstep_fits {m : PipeM B α} (hm : Lockstep R m)
    (hFits : ∀ p r p', p.Fits → m p = .done r p' → p'.Fits) :
    Lockstep (fun p q => R p q ∧ p.Fits) m := by
  rintro p q ⟨hR, hp⟩
  have hStays : Post True m (fun _ p' => p'.Fits) p :=
    post_true_iff.mpr fun r p' hDone => hFits p r p' hp hDone
  exact (hm p q hR).and_post hStays

/-- Every operation of the pipe lets the data fit that are awaited. -/
theorem ControlPipe.Coupled.fits (hC : ControlPipe.Coupled T R P) :
    ControlPipe.Coupled T (fun p q => R p q ∧ p.Fits) P where
  toBus := hC.toBus
  bus h := hC.bus h.1
  withBus h hT := ⟨hC.withBus h.1 hT, h.2⟩
  state h := hC.state h.1
  idle h := ⟨hC.idle h.1, trivial⟩
  data {p q} h hState := by
    have hStays : Post True ControlPipe.data (fun _ p' => p'.Fits) p := by
      rw [post_true_iff, data_apply]
      intro r p' hDone
      split at hDone <;> cases hDone
      exact h.2
    exact ((hC.data h.1 hState).and_post hStays).mono
      fun _ _ _ hNext => ⟨⟨hNext.1.1, hNext.2⟩, hNext.1.2⟩
  handleSetup := lockstep_fits hC.handleSetup fun p r p' hp hDone => by
    obtain ⟨_, -, hReceives⟩ := receives_of_handleSetup (show (1 : UInt16) &&& 1 ≠ 0 by decide) hDone
    exact hReceives.fits hp
  handleOut := lockstep_fits hC.handleOut fun p r p' hp hDone => by
    rcases receives_of_handleOut 0 hDone with ⟨_, -, hReceives⟩ | ⟨-, hReceives⟩ <;>
      exact hReceives.fits hp
  handleInComplete := lockstep_fits hC.handleInComplete fun _ _ _ hp hDone =>
    (completes_of_handleInComplete hDone).fits hp
  copy := hC.copy
  acceptIn {f} hf := lockstep_fits (hC.acceptIn hf) fun _ _ _ hp hDone =>
    (answersIn_of_acceptIn f hDone).fits hp
  acceptInStatic data := lockstep_fits (hC.acceptInStatic data) fun _ _ _ hp hDone =>
    (answersIn_of_acceptInStatic hDone).fits hp
  acceptOut := lockstep_fits hC.acceptOut fun _ _ _ hp hDone =>
    (acceptsOut_of_acceptOut hDone).fits hp
  reject := lockstep_fits hC.reject fun _ _ _ hp hDone => (answersIn_of_reject hDone).fits hp

theorem coupled_watched : ControlPipe.Coupled (Traced.Overheard (B := B)) ControlPipe.Overheard
    fun _ => True := (coupled_rebased coupled_overheard).fits

/-- The second session is the first with classes that satisfy `Pad` among the others. -/
structure Session.Watched (Pad : C → Prop) (s t : Session B C) : Prop where
  device : t.device = s.device.withBus t.device.control.bus
  bus : s.device.control.bus.Overheard t.device.control.bus
  classes : Woven Pad s.classes t.classes

omit [UsbBus B] in
theorem Session.Watched.twin (h : s.Watched Pad t) (hFits : s.device.control.Fits) :
    s.Twin ControlPipe.Overheard (Woven Pad) t :=
  ⟨⟨_, ⟨⟨_, h.bus, rfl⟩, hFits⟩, h.device⟩, h.classes⟩

omit [UsbBus B] in
theorem Session.Twin.watched (h : s.Twin ControlPipe.Overheard (Woven Pad) t) : s.Watched Pad t := by
  obtain ⟨⟨_, ⟨⟨u, hBus, rfl⟩, -⟩, hDevice⟩, hClasses⟩ := h
  rw [UsbDevice.withPipe] at hDevice
  exact ⟨by rw [hDevice]; rfl, by rw [hDevice]; exact hBus, hClasses⟩

/-- Classes that only observe may be put anywhere among the others: the device answers alike, makes the
same calls to the driver, and does the same to the other classes. -/
theorem observers_make_no_difference [UsbClass C] [UsbBus.Contract B] (hObserves : Observes Pad)
    (hReachable : s.Reachable) (h : s.Watched Pad t) {inputs inputs' : List (DeviceInput B C)}
    (hInputs : List.Forall₂ (DeviceInput.Corresponds (Woven Pad)) inputs inputs') :
    outputs DeviceInput.perform inputs s = outputs DeviceInput.perform inputs' t ∧
      Option.Rel (Session.Watched Pad) (finalState DeviceInput.perform inputs s)
        (finalState DeviceInput.perform inputs' t) := by
  have hStep (input input' : DeviceInput B C) (s t : Session B C)
      (hInput : input.Corresponds (Woven Pad) input')
      (hTwin : s.Twin ControlPipe.Overheard (Woven Pad) t) :
      Agree (fun _ => Session.Twin ControlPipe.Overheard (Woven Pad)) (input.perform s)
        (input'.perform t) :=
    agree_perform (coupled_woven coupled_watched supplies_true hObserves (hides_overheard Pad)) hInput
      hTwin
  obtain ⟨hOutputs, hFinal⟩ := runs_rel hStep hInputs (h.twin hReachable.ample.fits)
  refine ⟨hOutputs, ?_⟩
  generalize finalState DeviceInput.perform inputs s = last at hFinal ⊢
  generalize finalState DeviceInput.perform inputs' t = last' at hFinal ⊢
  cases hFinal with
  | none => exact .none
  | some hTwin => exact .some hTwin.watched

end Runs

structure CallCounter where
  count : Nat

def CallCounter.next (cls : CallCounter) : CallCounter := ⟨cls.count + 1⟩

instance : UsbClass CallCounter where
  reset cls := .ret cls.next
  poll cls := .ret cls.next
  controlOut cls _ _ := .ret (.ignore cls.next)
  controlIn cls _ := .ret (.ignore cls.next)
  endpointSetup cls _ := .ret cls.next
  endpointOut cls _ := .ret cls.next
  endpointInComplete cls _ := .ret cls.next

/-- A counter is an observer. -/
theorem observes_callCounter (A : Type) [UsbClass A] :
    Observes fun cls : A ⊕ CallCounter => ∃ c, cls = .inr c where
  notice := by
    rintro call f _ ⟨c, rfl⟩ hNotice
    cases hNotice <;> exact ⟨_, rfl, _, rfl⟩
  controlIn := by
    rintro _ req ⟨c, rfl⟩
    exact ⟨_, rfl, _, rfl⟩
  controlOut := by
    rintro _ req data ⟨c, rfl⟩
    exact ⟨_, rfl, _, rfl⟩
  getAltSetting := by
    rintro _ interface ⟨c, rfl⟩
    exact ⟨_, rfl, _, rfl⟩
  setAltSetting := by
    rintro _ interface alternative ⟨c, rfl⟩
    exact ⟨_, rfl, _, rfl⟩
  configuration := by
    rintro _ ⟨c, rfl⟩
    rfl
  bos := by
    rintro _ ⟨c, rfl⟩
    rfl
  string := by
    rintro _ index langId ⟨c, rfl⟩
    rfl

namespace Mailbox

def countedSession (before after : List Nat) : Session Mailbox (TestClass .fullSpeed ⊕ CallCounter) :=
  ⟨roundTripSession.device,
    before.map (fun n => .inr ⟨n⟩) ++ .inl roundTripClass :: after.map fun n => .inr ⟨n⟩⟩

def countedInputs : List (DeviceInput Mailbox (TestClass .fullSpeed ⊕ CallCounter)) :=
  [.hardware ⟨none, some [0x40, 3, 0, 0, 0, 0, 10, 0], .data 0 0 1⟩, .poll,
    .hardware ⟨none, some [1, 2, 3, 4, 5, 6, 7, 8], .data 1 0 0⟩, .poll,
    .hardware ⟨none, some [9, 10], .data 1 0 0⟩, .poll, .hardware ⟨none, none, .data 0 1 0⟩, .poll]

def counts (s : Session Mailbox (TestClass .fullSpeed ⊕ CallCounter)) : List (Option Nat) :=
  s.classes.map fun cls => cls.getRight?.map CallCounter.count

end Mailbox

open Mailbox in
/-- Three counters around the test class. -/
theorem observers_make_no_difference_counters : ∃ t t',
    finalState DeviceInput.perform countedInputs (countedSession [] []) = some t ∧
    finalState DeviceInput.perform countedInputs (countedSession [0] [5, 7]) = some t' ∧
    t.Watched (fun cls => ∃ c, cls = .inr c) t' ∧ counts t' = [some 5, none, some 9, some 11] ∧
    accepted (.control .in_) t.device.control.bus.trace = [[]] := by
  have hBuffer : ¬ (List.replicate 256 (0 : UInt8)).length < 8 := by decide +kernel
  have hFresh : (countedSession [] []).device.Fresh :=
    ⟨.new ⟨0, 0⟩ (List.replicate 256 0), .empty, ⟨.empty, [.enable]⟩, .new _ _, if_neg hBuffer⟩
  have hReachable : (countedSession [] []).Reachable := ⟨_, _, hFresh, .refl⟩
  have hWatched : (countedSession [] []).Watched (fun cls => ∃ c, cls = .inr c)
      (countedSession [0] [5, 7]) :=
    ⟨rfl, ⟨rfl, woven_refl _ _⟩, .pad ⟨_, rfl⟩ (.keep _ (.pad ⟨_, rfl⟩ (.pad ⟨_, rfl⟩ .nil)))⟩
  have hInputs : List.Forall₂ (DeviceInput.Corresponds (Woven fun cls => ∃ c, cls = .inr c))
      countedInputs countedInputs :=
    List.forall₂_same.mpr fun input _ => corresponds_refl (woven_refl _) input
  obtain ⟨-, hFinal⟩ := observers_make_no_difference (observes_callCounter _) hReachable hWatched hInputs
  have hCounts : (finalState DeviceInput.perform countedInputs (countedSession [0] [5, 7])).map counts =
      some [some 5, none, some 9, some 11] := by decide +kernel
  have hPackets : (finalState DeviceInput.perform countedInputs (countedSession [] [])).map
      (fun t => accepted (.control .in_) t.device.control.bus.trace) = some [[]] := by decide +kernel
  obtain ⟨t, hPlain, hPackets⟩ := Option.map_eq_some_iff.mp hPackets
  obtain ⟨t', hCounted, hCounts⟩ := Option.map_eq_some_iff.mp hCounts
  rw [hPlain, hCounted] at hFinal
  cases hFinal with
  | some hLast => exact ⟨t, t', hPlain, hCounted, hLast, hCounts, hPackets⟩

end UsbStack
