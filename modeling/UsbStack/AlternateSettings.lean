import UsbStack.Foundation.Registry
import UsbStack.LeftRequests

/-! # Alternate settings

GET_INTERFACE and SET_INTERFACE requests look for the class that owns the interface, each in a loop
of its own over the classes.
-/

namespace UsbStack

set_option autoImplicit false

open Foundation Exec Registry

namespace Request

def GetsInterface (req : Request) : Prop :=
  req.requestType = .standard ∧ req.direction = .in_ ∧ req.recipient = .interface ∧
    req.request = getInterface

def SetsInterface (req : Request) : Prop :=
  req.requestType = .standard ∧ req.direction = .out ∧ req.recipient = .interface ∧
    req.request = setInterface

instance (req : Request) : Decidable req.SetsInterface := inferInstanceAs (Decidable (_ ∧ _))

def interface (req : Request) : InterfaceNumber := ⟨req.index.toUInt8⟩

theorem GetsInterface.standardIn {req : Request} (h : req.GetsInterface) :
    req.standardIn = .interface := by
  obtain ⟨-, -, hRecipient, hRequest⟩ := h
  rw [Request.standardIn, hRecipient, hRequest]
  rfl

theorem SetsInterface.standardOut {req : Request} (h : req.SetsInterface) :
    req.standardOut = .setInterface := by
  obtain ⟨-, -, hRecipient, hRequest⟩ := h
  simp [Request.standardOut, hRecipient, hRequest]

end Request

/-- The owner of the interface switches, or leaves its setting, which it does not do when asked for
setting 0; other classes do nothing. -/
def Switches (i : InterfaceNumber) (alternative : UInt8) (before : InterfaceNumber → Option UInt8)
    (taken : Bool) (after : InterfaceNumber → Option UInt8) : Prop :=
  (taken = true ∧ (before i).isSome ∧ after = set i alternative before) ∨
    (taken = false ∧ (before i = none ∨ alternative ≠ 0) ∧ after = before)

variable {B C α : Type}

def shown (maps : Registry InterfaceNumber UInt8) (i : InterfaceNumber) : UInt8 :=
  (lookup maps i).getD defaultAlternateSetting

section Classes

variable (setting : C → InterfaceNumber → Option UInt8)

def KeepsSettings (a b : C) : Prop := setting b = setting a

/-- `setting` is the setting of each interface that a class owns. Only `set_alt_setting` changes it,
and the classes leave the two requests to the device. -/
structure HasAltSettings [UsbClass C] : Prop where
  getAltSetting : ∀ (cls : C) i, (UsbClass.getAltSetting cls i).Yields False fun reply =>
    reply.1 = setting cls i ∧ KeepsSettings setting cls reply.2
  setAltSetting : ∀ (cls : C) i alternative,
    (UsbClass.setAltSetting cls i alternative).Yields False fun reply =>
      Switches i alternative (setting cls) reply.1 (setting reply.2)
  leaves : ∀ (cls : C) req, req.GetsInterface ∨ req.SetsInterface →
    LeavesRequest (KeepsSettings setting) req cls
  tame : ∀ epIn, Tame True (KeepsSettings setting) epIn fun _ => True

def Session.settings (s : Session B C) : Registry InterfaceNumber UInt8 := s.classes.map setting

variable {setting}

theorem Session.settings_of_forall₂ {s t : Session B C}
    (h : List.Forall₂ (KeepsSettings setting) s.classes t.classes) :
    t.settings setting = s.settings setting := by
  have hMaps : List.Forall₂ Eq (s.classes.map setting) (t.classes.map setting) :=
    List.forall₂_map_left_iff.mpr (List.forall₂_map_right_iff.mpr (h.imp fun _ _ => Eq.symm))
  rw [List.forall₂_eq_eq_eq] at hMaps
  exact hMaps.symm

end Classes

section Outcomes

variable {setting : C → InterfaceNumber → Option UInt8} {i : InterfaceNumber} {alternative : UInt8}
  {classes classes' : List C}

/-- The loop of GET_INTERFACE finds the setting of the owner. -/
theorem Asked.got {found : Option UInt8}
    (h : Asked (fun cls found cls' => found = setting cls i ∧ KeepsSettings setting cls cls') classes
      found classes') :
    found = lookup (classes.map setting) i ∧ List.Forall₂ (KeepsSettings setting) classes classes' := by
  induction h with
  | exhausted => exact ⟨rfl, .nil⟩
  | found h rest =>
    rw [List.map_cons, lookup_cons, ← h.1]
    exact ⟨rfl, .cons h.2 (List.forall₂_same.mpr fun _ _ => rfl)⟩
  | passed h hRest ih =>
    rw [List.map_cons, lookup_cons, ← h.1, Option.none_or]
    exact ⟨ih.1, .cons h.2 ih.2⟩

/-- The loop of SET_INTERFACE switches the owner and leaves the other classes alone. -/
theorem Asked.switched {found : Option Unit}
    (h : Asked (fun cls found cls' => Switches i alternative (setting cls) found.isSome (setting cls'))
      classes found classes') (hApart : Apart (classes.map setting)) :
    (found = some () ∧ (lookup (classes.map setting) i).isSome ∧
        classes'.map setting = assign i alternative (classes.map setting)) ∨
      (found = none ∧ (lookup (classes.map setting) i = none ∨ alternative ≠ 0) ∧
        classes'.map setting = classes.map setting) := by
  induction h with
  | exhausted => exact .inr ⟨rfl, .inl rfl, rfl⟩
  | @found cls cls' a h rest =>
    obtain ⟨-, hOwner, hAfter⟩ := h.resolve_right fun hNone => Bool.noConfusion hNone.1
    refine .inl ⟨rfl, ?_, ?_⟩
    · rw [List.map_cons, lookup_cons, Option.isSome_or, hOwner, Bool.true_or]
    · rw [List.map_cons, List.map_cons, assign, List.map_cons, ← assign, hAfter,
        assign_of_none (Apart.lookup_tail hApart hOwner)]
  | @passed cls cls' rest rest' found h hRest ih =>
    obtain ⟨-, hDeclines, hAfter⟩ := h.resolve_left fun hSome => Bool.noConfusion hSome.1
    rw [List.map_cons, List.map_cons, hAfter, lookup_cons]
    rcases ih (List.Pairwise.of_cons hApart) with ⟨hFound, hOwner, hRest'⟩ | ⟨hFound, hOther, hRest'⟩
    · have hNone : setting cls i = none := by
        cases hSetting : setting cls i with
        | none => rfl
        | some now =>
          rw [Apart.lookup_tail hApart (by rw [hSetting]; rfl)] at hOwner
          cases hOwner
      refine .inl ⟨hFound, ?_, ?_⟩
      · rw [hNone, Option.none_or]
        exact hOwner
      · rw [assign, List.map_cons, ← assign, set_of_none hNone, hRest']
    · refine .inr ⟨hFound, ?_, congrArg _ hRest'⟩
      rcases hDeclines with hNone | hNe
      · rw [hNone, Option.none_or]
        exact hOther
      · exact .inr hNe

end Outcomes

section Handlers

variable [UsbBus B] [UsbClass C] {setting : C → InterfaceNumber → Option UInt8} {req : Request}
  {s u : Session B C}

/-- A number that does not fit in the byte of an interface or of a setting. -/
def Request.Wide (req : Request) : Prop := 255 < req.index ∨ (req.SetsInterface ∧ 255 < req.value)

theorem stable_true : Stable (fun _ : UsbDevice B => True) := fun _ _ _ _ => trivial

omit [UsbClass C] in
theorem Session.Kept.settings (h : s.Kept (KeepsSettings setting) u) :
    u.settings setting = s.settings setting := settings_of_forall₂ h.classes

omit [UsbClass C] in
theorem post_accept_answered :
    Post True Session.accept
      (fun r t => r = .ok () → t.device.control.waitingForResponse = false) s := by
  rw [Session.accept, Session.onPipe, Session.onDevice, post_zoom, UsbDevice.onPipe, post_zoom,
    post_true_iff]
  rintro r q hAccept rfl
  cases ControlPipe.acceptsOut_of_acceptOut hAccept with
  | accepted _ => rfl

/-- What the device does with a request whose answer is complete when its handler returns. -/
theorem answerSelf_of_answered (hStandard : req.requestType = .standard)
    (h : Post True (standardControl req)
      (fun r t => r = .ok () → t.device.control.waitingForResponse = false) s) :
    answerSelf req s = standardControl req s := by
  rw [answerSelf, when_of_true hStandard]
  exact unwaiting_bind h

theorem standardControl_gets (h : req.GetsInterface) (s : Session B C) :
    standardControl req s = (if 255 < req.index then Session.reject
      else Session.firstClass (fun index cls => UsbDevice.onBus
          (callClass (.getAltSetting req.interface) (UsbClass.getAltSetting · req.interface) index cls)) >>=
        fun setting => Session.acceptWith [setting.getD defaultAlternateSetting]) s := by
  rw [standardControl, h.2.1]
  dsimp only
  rw [Session.standardControlIn, bind_apply, get_apply]
  dsimp only
  rw [h.standardIn]
  rfl

theorem standardControl_sets (h : req.SetsInterface) (s : Session B C) :
    standardControl req s = Session.setInterface req s := by
  rw [standardControl, h.2.1]
  dsimp only
  rw [Session.standardControlOut, bind_apply, get_apply]
  dsimp only
  rw [h.standardOut]

theorem answerSelf_wide (hReq : req.GetsInterface ∨ req.SetsInterface) (hWide : req.Wide)
    (s : Session B C) : answerSelf req s = Session.reject s := by
  have hStandard : req.requestType = .standard := hReq.elim (·.1) (·.1)
  have hRejects : standardControl req s = Session.reject s := by
    rcases hReq with hGets | hSets
    · have hIndex : 255 < req.index := by
        refine hWide.resolve_right fun hBoth => ?_
        have hOut := hBoth.1.2.1
        rw [hGets.2.1] at hOut
        cases hOut
      rw [standardControl_gets hGets, if_pos hIndex]
    · rw [standardControl_sets hSets, Session.setInterface, if_pos (hWide.imp_right (·.2))]
  rw [answerSelf_of_answered hStandard, hRejects]
  rw [Post, hRejects]
  exact post_reject_answered.mono fun _ _ hAnswered _ => hAnswered

theorem post_getAltSetting (hSettings : HasAltSettings setting) (i : InterfaceNumber) (s : Session B C) :
    Post False (Session.firstClass fun index cls => UsbDevice.onBus
        (callClass (.getAltSetting i) (UsbClass.getAltSetting · i) index cls))
      (fun r u => r = .ok (lookup (s.settings setting) i) ∧ s.Kept (KeepsSettings setting) u) s := by
  refine Post.mono (post_firstClass
    (P := fun cls found cls' => found = setting cls i ∧ KeepsSettings setting cls cls') stable_true
    (fun index cls d _ => post_deviceBus (post_callClass (hSettings.getAltSetting cls i) _)) trivial) ?_
  rintro r u ⟨found, rfl, hAsked, hForeign⟩
  obtain ⟨rfl, hKeeps⟩ := hAsked.got
  exact ⟨rfl, hForeign, hKeeps⟩

/-- One turn of the loop of SET_INTERFACE. -/
def switchSetting (i : InterfaceNumber) (alternative : UInt8) (index : Nat) (cls : C) :
    DeviceM B (Option Unit × C) := do
  let reply ← UsbDevice.onBus (callClass (.setAltSetting i alternative)
    (UsbClass.setAltSetting · i alternative) index cls)
  pure (if reply.1 then some () else none, reply.2)

theorem post_switchSetting (hSettings : HasAltSettings setting) (i : InterfaceNumber)
    (alternative : UInt8) (hApart : Apart (s.settings setting)) :
    Post False (Session.firstClass (switchSetting i alternative)) (fun r u => ∃ found, r = .ok found ∧
      Foreign s.device u.device ∧
      (found = some () ∧ (lookup (s.settings setting) i).isSome ∧
          u.settings setting = assign i alternative (s.settings setting) ∨
        found = none ∧ (lookup (s.settings setting) i = none ∨ alternative ≠ 0) ∧
          u.settings setting = s.settings setting)) s := by
  refine Post.mono (post_firstClass
    (P := fun cls found cls' => Switches i alternative (setting cls) found.isSome (setting cls'))
    stable_true (fun index cls d _ => ?_) trivial) ?_
  · rw [switchSetting, post_bind]
    apply (post_deviceBus (post_callClass (hSettings.setAltSetting cls i alternative) _)).mono
    rintro r e ⟨⟨taken, cls'⟩, rfl, hSwitches, hForeign⟩
    refine ⟨_, rfl, ?_, hForeign⟩
    cases taken <;> exact hSwitches
  · rintro r u ⟨found, rfl, hAsked, hForeign⟩
    exact ⟨found, rfl, hForeign, hAsked.switched hApart⟩

theorem setInterface_narrow (hNarrow : ¬ (255 < req.index ∨ 255 < req.value)) :
    (Session.setInterface req : SessionM B C Unit) =
      (Session.firstClass (switchSetting req.interface req.value.toUInt8) >>= fun found =>
        if found.isSome ∨ req.value = 0 then Session.accept else Session.reject) := by
  rw [Session.setInterface, if_neg hNarrow]
  change (Session.firstClass (switchSetting req.interface req.value.toUInt8) >>= _) = _
  congr 1
  funext found
  rcases found with _ | ⟨⟨⟩⟩
  · exact if_congr (or_iff_right Bool.false_ne_true).symm rfl rfl
  · exact (if_pos (.inl rfl)).symm

/-- GET_INTERFACE is answered with the setting of the owner, or with the default. -/
theorem answerSelf_gets (hSettings : HasAltSettings setting) (hGets : req.GetsInterface)
    (hNarrow : ¬ req.Wide) (hPresents : s.device.Presents req)
    (hRoom : 1 ≤ s.device.control.buf.length) :
    ∃ u, s.Kept (KeepsSettings setting) u ∧
      answerSelf req s = Session.acceptWith [shown (s.settings setting) req.interface] u := by
  obtain ⟨r, u, hDone, rfl, hKept⟩ :=
    post_false_iff.mp (post_getAltSetting hSettings req.interface s)
  have hAnswers : standardControl req s =
      Session.acceptWith [shown (s.settings setting) req.interface] u := by
    rw [standardControl_gets hGets, if_neg fun hIndex => hNarrow (.inl hIndex), bind_of_ok hDone]
    rfl
  refine ⟨u, hKept, ?_⟩
  rw [answerSelf_of_answered hGets.1, hAnswers]
  rw [Post, hAnswers]
  have hState := (presents_of_foreign hPresents hKept.device).completeIn hGets.2.1
  obtain ⟨t, -, hDevice⟩ := hKept.device
  refine Post.mono (post_acceptWith_answered (.inl ⟨req, hState⟩) ?_) fun _ _ h _ => h
  rw [hDevice]
  exact hRoom

/-- SET_INTERFACE is accepted where the owner switches or setting 0 is asked for, and else rejected. -/
theorem answerSelf_sets (hSettings : HasAltSettings setting) (hSets : req.SetsInterface)
    (hNarrow : ¬ req.Wide) (hApart : Apart (s.settings setting)) :
    ∃ u, Foreign s.device u.device ∧
      (u.settings setting = assign req.interface req.value.toUInt8 (s.settings setting) ∧
          ((lookup (s.settings setting) req.interface).isSome ∨ req.value = 0) ∧
          answerSelf req s = Session.accept u ∨
        u.settings setting = s.settings setting ∧ req.value ≠ 0 ∧
          answerSelf req s = Session.reject u) := by
  obtain ⟨r, u, hDone, found, rfl, hForeign, hFound⟩ :=
    post_false_iff.mp (post_switchSetting hSettings req.interface req.value.toUInt8 hApart)
  have hAnswers : standardControl req s =
      (if found.isSome ∨ req.value = 0 then Session.accept else Session.reject) u := by
    rw [standardControl_sets hSets,
      setInterface_narrow fun hWide => hNarrow (hWide.imp_right (⟨hSets, ·⟩)), bind_of_ok hDone]
  have hAnswered : answerSelf req s = standardControl req s := by
    have hPost : Post True (if found.isSome ∨ req.value = 0 then Session.accept else Session.reject)
        (fun r t => r = .ok () → t.device.control.waitingForResponse = false) u := by
      split
      · exact post_accept_answered
      · exact post_reject_answered.mono fun _ _ h _ => h
    apply answerSelf_of_answered hSets.1
    rw [Post, hAnswers]
    exact hPost
  refine ⟨u, hForeign, ?_⟩
  rw [hAnswered, hAnswers]
  rcases hFound with ⟨rfl, hOwner, hAfter⟩ | ⟨rfl, hOther, hAfter⟩
  · exact .inl ⟨hAfter, .inl hOwner, by rw [if_pos (.inl rfl)]⟩
  · by_cases hZero : req.value = 0
    · have hNone : lookup (s.settings setting) req.interface = none :=
        hOther.resolve_right fun hNe => hNe (by rw [hZero]; rfl)
      refine .inl ⟨?_, .inr hZero, by rw [if_pos (.inr hZero)]⟩
      rw [hAfter, assign_of_none hNone]
    · refine .inr ⟨hAfter, hZero, ?_⟩
      rw [if_neg (by simp [hZero])]

end Handlers

section Dispatch

variable [UsbBus B] [UsbClass C] {setting : C → InterfaceNumber → Option UInt8} {req : Request}
  {s : Session B C}

theorem dispatch_gets (hSettings : HasAltSettings setting) (hGets : req.GetsInterface)
    (hNarrow : ¬ req.Wide) (hPresents : s.device.Presents req)
    (hRoom : 1 ≤ s.device.control.buf.length) :
    ∃ u, s.Kept (KeepsSettings setting) u ∧
      Session.dispatch req s = Session.acceptWith [shown (s.settings setting) req.interface] u := by
  obtain ⟨u, hLeft, -, hDispatch⟩ :=
    dispatch_of_left (fun cls => hSettings.leaves cls req (.inl hGets)) hPresents
  have hPresents' := presents_of_foreign hPresents hLeft.device
  have hRoom' : 1 ≤ u.device.control.buf.length := by
    obtain ⟨t, -, hDevice⟩ := hLeft.device
    rw [hDevice]
    exact hRoom
  obtain ⟨v, hKept, hAnswer⟩ := answerSelf_gets hSettings hGets hNarrow hPresents' hRoom'
  refine ⟨v, hLeft.trans (hSettings.tame 0).trans hKept, ?_⟩
  rw [hDispatch, hAnswer, hLeft.settings]

theorem dispatch_sets (hSettings : HasAltSettings setting) (hSets : req.SetsInterface)
    (hNarrow : ¬ req.Wide) (hPresents : s.device.Presents req) (hApart : Apart (s.settings setting)) :
    ∃ u, Foreign s.device u.device ∧
      (u.settings setting = assign req.interface req.value.toUInt8 (s.settings setting) ∧
          ((lookup (s.settings setting) req.interface).isSome ∨ req.value = 0) ∧
          Session.dispatch req s = Session.accept u ∨
        u.settings setting = s.settings setting ∧ req.value ≠ 0 ∧
          Session.dispatch req s = Session.reject u) := by
  obtain ⟨u, hLeft, -, hDispatch⟩ :=
    dispatch_of_left (fun cls => hSettings.leaves cls req (.inr hSets)) hPresents
  have hSame := hLeft.settings
  obtain ⟨v, hForeign, hAnswer⟩ := answerSelf_sets hSettings hSets hNarrow (hSame ▸ hApart)
  rw [hSame] at hAnswer
  rw [hDispatch]
  exact ⟨v, foreign_trans _ _ _ hLeft.device hForeign, hAnswer⟩

def Event.altSetting? : Event → Option (Nat × ClassCall)
  | .class_ index (.getAltSetting i) => some (index, .getAltSetting i)
  | .class_ index (.setAltSetting i alternative) => some (index, .setAltSetting i alternative)
  | _ => none

def altSettingCalls (trace : List Event) : List (Nat × ClassCall) := trace.filterMap Event.altSetting?

theorem altSetting?_of_offer {event : Event} (h : OfferEvent event) : event.altSetting? = none := by
  cases event with
  | class_ index call =>
    rcases h with hSome | hSide
    · cases call <;> first | rfl | cases hSome
    · exact hSide.elim
  | _ => rfl

theorem dispatch_wide (hSettings : HasAltSettings setting)
    (hReq : req.GetsInterface ∨ req.SetsInterface) (hWide : req.Wide)
    (hPresents : s.device.Presents req) (hIn : s.device.control.epIn.address = .control .in_) :
    ∃ u, s.Kept (KeepsSettings setting) u ∧
      altSettingCalls u.device.control.bus.trace = altSettingCalls s.device.control.bus.trace ∧
      Session.dispatch req s = Session.reject u := by
  obtain ⟨u, hLeft, hFirst, hDispatch⟩ :=
    dispatch_of_left (fun cls => hSettings.leaves cls req hReq) hPresents
  obtain ⟨call, found, count, q, -, hDevice, hOffered⟩ := offered_of_firstClass hPresents.awaits hFirst
  refine ⟨u, hLeft, ?_, hDispatch.trans (answerSelf_wide hReq hWide u)⟩
  rw [hDevice]
  exact (hOffered.record hIn).2.filterMap_eq fun _ => altSetting?_of_offer

end Dispatch

end UsbStack
