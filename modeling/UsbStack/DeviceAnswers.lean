import UsbStack.DescriptorTandem
import UsbStack.Embodiment

/-! # How the device answers for itself

A request that the classes leave and that carries no data is answered as the profile of the device
says: by the first packet of the data, by an empty packet, by a STALL, or not at all.
-/

namespace UsbStack

set_option autoImplicit false

open Foundation Exec

variable {B C : Type}

/-- The writer returns, and what it writes does not depend on what the buffer held before. -/
def Legible (room : Nat) (f : WriterM Unit) : Prop :=
  ∀ buf : List UInt8, buf.length = room →
    Post False (acceptWriter f) (fun _ _ => True) buf ∧
      Agree SameOutput (acceptWriter f buf) (acceptWriter f (List.replicate room 0))

/-- Classes with few descriptors, whose callbacks do not look at their slices, leave every descriptor
legible. -/
theorem legible_descriptorWriter {C : Type} [UsbClass C] {config : Config} {classes : List C}
    {req : Request} {f : WriterM Unit} (h : descriptorWriter config classes req = some f) {limit : Nat}
    (hClasses : ∀ cls ∈ classes, Describes limit cls) (hLimit : classes.length * limit < 255)
    (hBlind : ∀ cls ∈ classes, (UsbClass.getConfigurationDescriptors cls).Blind) {room : Nat}
    (hEven : room % 2 = 0) : Legible room f := by
  intro buf hBuf
  refine ⟨post_descriptorWriter h hClasses hLimit (hBuf ▸ hEven), ?_⟩
  exact agree_descriptorWriter h hBlind (List.length_replicate.trans hBuf.symm)

theorem forM_congr {M : Type → Type} [Monad M] {K : C → C → Prop} {f : C → M Unit}
    (hf : ∀ a b, K a b → f b = f a) {classes classes' : List C} (h : List.Forall₂ K classes classes') :
    classes'.forM f = classes.forM f := by
  induction h with
  | nil => rfl
  | cons hHead _ ih => rw [List.forM, List.forM, hf _ _ hHead, ih]

variable [UsbClass C]

/-- What a device with these classes says of itself when it has `room` bytes to write in. -/
def describe (config : Config) (classes : List C) (room : Nat) (req : Request) : Response :=
  match descriptorWriter config classes req with
  | none => .stall
  | some f =>
    match acceptWriter f (List.replicate room 0) with
    | .done (.ok len) buf => .data (buf.take len)
    | _ => .silence

/-- What the device answers from, on hardware that `lifts` a STALL or keeps it. -/
def Session.profile [UsbBus B] (s : Session B C) (lifts : Bool) : Profile where
  packetSize := s.device.control.epIn.maxPacketSize.toNat
  selfPowered := s.device.selfPowered
  early := UsbBus.quirkSetAddressBeforeStatus B
  lifts := lifts
  describe := describe s.device.config s.classes s.device.control.buf.length

/-- A device says of itself what it said at the start. -/
theorem Legible.describe_eq {config : Config} {classes : List C} {req : Request} {f : WriterM Unit}
    {buf : List UInt8} (h : Legible buf.length f) (hWriter : descriptorWriter config classes req = some f) :
    (∃ len after, acceptWriter f buf = .done (.ok len) after ∧ len ≤ after.length ∧
      describe config classes buf.length req = .data (after.take len)) ∨
    ∃ e after, acceptWriter f buf = .done (.error e) after ∧
      describe config classes buf.length req = .silence := by
  obtain ⟨hReturns, hAgree⟩ := h buf rfl
  obtain ⟨r, after, hRun, -⟩ := post_false_iff.mp hReturns
  rw [hRun] at hAgree
  cases hZero : acceptWriter f (List.replicate buf.length 0) with
  | panic reason =>
    rw [hZero] at hAgree
    exact hAgree.elim
  | done r' after' =>
    rw [hZero] at hAgree
    obtain ⟨rfl, hSame⟩ := hAgree
    cases r with
    | ok len =>
      obtain ⟨hLen, hTake⟩ := hSame len rfl
      exact .inl ⟨len, after, hRun, hLen, by simp only [describe, hWriter, hZero, hTake]⟩
    | error e => exact .inr ⟨e, after, hRun, by simp only [describe, hWriter, hZero]⟩

theorem findString_congr {K : C → C → Prop}
    (hK : ∀ a b, K a b → UsbClass.getString b = UsbClass.getString a) {classes classes' : List C}
    (h : List.Forall₂ K classes classes') (config : Config) (index : UInt8) (langId : LangID) :
    findString config classes' index langId = findString config classes index langId := by
  have hSome : (classes'.findSome? fun cls => UsbClass.getString cls ⟨index⟩ langId) =
      classes.findSome? fun cls => UsbClass.getString cls ⟨index⟩ langId := by
    induction h with
    | nil => rfl
    | cons hHead _ ih => rw [List.findSome?_cons, List.findSome?_cons, hK _ _ hHead, ih]
  rw [findString, findString, hSome]

section Descriptors

variable [UsbBus B] {K : C → C → Prop} {S : UInt16 → C → Prop}

theorem Backdrop.descriptorWriter_eq (h : Backdrop K S) {classes classes' : List C}
    (hClasses : List.Forall₂ K classes classes') (config : Config) (req : Request) :
    descriptorWriter config classes' req = descriptorWriter config classes req := by
  have hBos : bosDescriptors classes' = bosDescriptors classes := by
    rw [bosDescriptors, bosDescriptors, forM_congr (fun a b hKab => by rw [h.bos a b hKab]) hClasses]
  have hConfiguration : configurationDescriptors config classes' =
      configurationDescriptors config classes := by
    rw [configurationDescriptors, configurationDescriptors,
      forM_congr (fun a b hKab => by rw [h.configuration a b hKab]) hClasses]
  unfold descriptorWriter
  dsimp only
  rw [hBos, hConfiguration, findString_congr h.string hClasses]

end Descriptors

def Command.arm : Command → StandardOut
  | remoteWakeup true => .setRemoteWakeup
  | remoteWakeup false => .clearRemoteWakeup
  | address _ => .setAddress
  | configuration true => .configure
  | configuration false => .deconfigure

theorem Request.standardOut_of_device {req : Request} (h : req.recipient = .device) :
    req.standardOut = (req.command?.map Command.arm).getD .other := by
  have hOne : configurationValue.toUInt16 = 1 := rfl
  have hZero : configurationNone.toUInt16 = 0 := rfl
  have hApart : Request.clearFeature ≠ Request.setFeature := by decide
  simp only [standardOut, command?, h, hOne, hZero, true_and, reduceCtorEq, false_and, if_false]
  by_cases hClear : req.request = clearFeature ∧ req.value = featureDeviceRemoteWakeup
  · have hNotSet : ¬ (req.request = setFeature ∧ req.value = featureDeviceRemoteWakeup) :=
      fun hSet => hApart (hClear.1.symm.trans hSet.1)
    rw [if_pos hClear, if_neg hNotSet, if_pos hClear]
    rfl
  · rw [if_neg hClear, if_neg hClear]
    split
    · rfl
    · split
      · rfl
      · split
        · rfl
        · split <;> rfl

theorem Request.standardIn_of_device {req : Request} (h : req.recipient = .device) :
    req.standardIn = if req.request = getStatus then .deviceStatus
      else if req.request = getDescriptor then .descriptor
      else if req.request = getConfiguration then .configuration
      else .other := by
  simp only [standardIn, h, true_and, reduceCtorEq, false_and, if_false]

namespace ControlPipe

/-- The pipe has handed out the request, and nothing is left over from another. -/
structure Received (req : Request) (p : ControlPipe B) : Prop where
  awaits : p.Awaits req
  bare : p.Bare
  data : req.direction = .out → p.len ≤ p.buf.length

/-- A response is being sent from the buffer, and the bus has not taken `left`. -/
structure Owing (left : List (List UInt8)) (p : ControlPipe B) : Prop where
  sending : p.Sending
  pending : p.pending = left
  bare : p.Bare

theorem busless_received (req : Request) : Busless (Received req : ControlPipe B → Prop) :=
  fun _ _ h => ⟨h.awaits, h.bare, h.data⟩

theorem busless_owing (left : List (List UInt8)) : Busless (Owing left : ControlPipe B → Prop) :=
  fun _ _ h => ⟨h.sending, h.pending, h.bare⟩

variable [UsbBus B] {p : ControlPipe B} {req : Request}

theorem view_writing (lifts : Bool) {t : Traced B} (h : Writable t.bus) (packet : List UInt8) :
    view lifts (t.writing (.control .in_) packet).trace = (view lifts t.trace).sent packet := by
  rw [Traced.trace_writing, view_snoc, h.write]
  rfl

omit [UsbBus B] in
theorem Received.completeIn (h : p.Received req) (hIn : req.direction = .in_) :
    p.state = .completeIn req := by
  have hAwaits := h.awaits
  unfold Awaits at hAwaits
  rw [hIn] at hAwaits
  exact hAwaits

omit [UsbBus B] in
theorem Received.completeOut (h : p.Received req) (hOut : req.direction = .out) :
    p.state = .completeOut := by
  have hAwaits := h.awaits
  unfold Awaits at hAwaits
  rw [hOut] at hAwaits
  exact hAwaits

/-- The answer from the buffer starts with its first packet. -/
theorem Received.acceptIn (h : p.Received req) (lifts : Bool) (hIn : req.direction = .in_) (hEquipped : p.Equipped)
    (hWritable : Writable p.bus.bus) {f : SliceFn} {len : Nat} {buf : List UInt8}
    (hRun : f.run p.buf = .done (.ok len) buf) (hLen : len ≤ buf.length) {first : List UInt8}
    {left : List (List UInt8)}
    (hPackets : packets p.epIn.maxPacketSize.toNat ((buf.take len).take req.length.toNat) =
      first :: left) :
    ∃ q, ControlPipe.acceptIn f.run p = .done (.ok ()) q ∧ p.SameFrame q ∧
      view lifts q.bus.trace = (view lifts p.bus.trace).sent first ∧ q.Owing left := by
  have hState := h.completeIn hIn
  have hWhole : ∀ data count, (UsbBus.write p.bus.bus p.epIn.address data).1 = .ok count →
      count = data.length := by
    intro data count hCount
    rw [hEquipped.epIn, hWritable.write] at hCount
    exact (Except.ok.inj hCount).symm
  have hGives : (Answer.fromBuffer f).Gives p (buf.take len) := ⟨h.bare, len, buf, hRun, hLen, rfl⟩
  obtain ⟨r, q, packet, rest, hPerform, hCut, hSent⟩ :=
    Answer.perform_sent hEquipped.size hState hGives.sends hWhole
  have hAccept : ControlPipe.acceptIn f.run p = .done r q := hPerform
  have hTake : (buf.take len).take (min (buf.take len).length req.length.toNat) =
      (buf.take len).take req.length.toNat := by
    rw [Nat.min_comm, ← List.take_take, List.take_length]
  rw [hTake, hPackets] at hCut
  obtain ⟨rfl, rfl⟩ := List.cons.inj hCut
  have hBus := hSent.bus
  have hPending := hSent.pending
  rw [hEquipped.epIn] at hBus hPending
  rw [hWritable.write] at hPending
  have hResult : r = .ok () := by
    cases r with
    | ok done => rfl
    | error e =>
      rw [acceptIn_completeIn p hState, hRun] at hAccept
      dsimp only at hAccept
      rw [if_neg (Nat.not_lt.mpr hLen)] at hAccept
      obtain ⟨chunk, hWrite⟩ := writeInChunk_error hAccept
      change (UsbBus.write p.bus.bus p.epIn.address chunk).1 = _ at hWrite
      rw [hEquipped.epIn, hWritable.write] at hWrite
      cases hWrite
  subst hResult
  refine ⟨q, hAccept, (answersIn_of_acceptIn _ hAccept).frame.toSameFrame, ?_, hSent.sending,
    hPending, (bare_acceptIn f).of_done hAccept h.bare⟩
  rw [hBus]
  exact view_writing lifts hWritable first

end ControlPipe

section Answers

variable [UsbBus B] {lifts : Bool} {K : C → C → Prop} {S : UInt16 → C → Prop}
  {start u t : Session B C} {a : Standing} {seen : List Sight} {req : Request}

theorem answerSelf_of_done (hStandard : req.requestType = .standard)
    (h : standardControl req u = .done (.ok ()) t)
    (hAnswered : t.device.control.waitingForResponse = false) :
    answerSelf req u = .done (.ok ()) t := by
  rw [answerSelf_of_answered hStandard, h]
  rw [Post, h]
  exact fun _ => hAnswered

/-- A request that no handler answers is rejected. -/
theorem answerSelf_of_ignored (hWaiting : u.device.control.waitingForResponse = true)
    (h : req.requestType = .standard → standardControl req u = .done (.ok ()) u) :
    answerSelf req u =
      .done (.ok ()) { u with device := u.device.withPipe u.device.control.errored } := by
  have hHandled : (when (req.requestType = .standard) (standardControl req) : SessionM B C Unit) u =
      .done (.ok ()) u := by
    by_cases hStandard : req.requestType = .standard
    · rw [when_of_true hStandard, h hStandard]
    · rw [when_of_false hStandard]
      rfl
  rw [answerSelf, bind_of_ok hHandled, bind_apply, get_apply]
  dsimp only
  rw [when_of_true hWaiting, reject_of_waiting hWaiting]

theorem answerSelf_of_rejected (hStandard : req.requestType = .standard)
    (hWaiting : u.device.control.waitingForResponse = true)
    (h : standardControl req u = Session.reject u) :
    answerSelf req u =
      .done (.ok ()) { u with device := u.device.withPipe u.device.control.errored } := by
  rw [reject_of_waiting hWaiting] at h
  exact answerSelf_of_done hStandard h rfl

theorem standardControl_in (hIn : req.direction = .in_) :
    (standardControl req : SessionM B C Unit) = Session.standardControlIn req := by
  unfold standardControl
  rw [hIn]

theorem standardControl_out (hOut : req.direction = .out) :
    (standardControl req : SessionM B C Unit) = Session.standardControlOut req := by
  unfold standardControl
  rw [hOut]

/-- Each arm for the device gives the response of the profile. -/
theorem standardControlIn_of_device (hDevice : req.recipient = .device) (u : Session B C) :
    Session.standardControlIn req u =
      if req.request = Request.getStatus then
        Session.acceptWith (toLeBytes ((if u.device.selfPowered then 0x0001 else 0x0000) |||
          (if u.device.remoteWakeupEnabled then 0x0002 else 0x0000))) u
      else if req.request = Request.getDescriptor then
        Session.onPipe (getDescriptor u.device.config u.classes req) u
      else if req.request = Request.getConfiguration then
        Session.acceptWith
          [if u.device.deviceState = .configured then configurationValue else configurationNone] u
      else .done (.ok ()) u := by
  rw [Session.standardControlIn, bind_apply, get_apply]
  dsimp only
  rw [Request.standardIn_of_device hDevice]
  by_cases hStatus : req.request = Request.getStatus
  · rw [if_pos hStatus, if_pos hStatus]
  · rw [if_neg hStatus, if_neg hStatus]
    by_cases hDescriptor : req.request = Request.getDescriptor
    · rw [if_pos hDescriptor, if_pos hDescriptor]
    · rw [if_neg hDescriptor, if_neg hDescriptor]
      by_cases hConfiguration : req.request = Request.getConfiguration
      · rw [if_pos hConfiguration, if_pos hConfiguration]
      · rw [if_neg hConfiguration, if_neg hConfiguration]
        rfl

def Command.carryOut : Command → SessionM B C Unit
  | remoteWakeup enabled => Session.modifyDevice fun d => { d with remoteWakeupEnabled := enabled }
  | address addr => Session.setAddress addr
  | configuration true => Session.modifyDevice fun d => { d with deviceState := .configured }
  | configuration false => do
    let s ← get
    when (s.device.deviceState ≠ .default)
      (Session.modifyDevice fun d => { d with deviceState := .addressed })

/-- Each arm that carries out a command does what the command says. -/
theorem standardControlOut_of_command (hDevice : req.recipient = .device) {command : Command}
    (h : req.command? = some command) (u : Session B C) :
    Session.standardControlOut req u = (do
      command.carryOut
      Session.accept : SessionM B C Unit) u := by
  have hArm := Request.standardOut_of_device hDevice
  rw [h] at hArm
  rw [Session.standardControlOut, bind_apply, get_apply]
  dsimp only
  cases command with
  | remoteWakeup enabled => cases enabled <;> rw [hArm] <;> rfl
  | address addr =>
    have hAddr : addr = req.value.toUInt8 := by
      unfold Request.command? at h
      split at h
      · cases h
      · split at h
        · cases h
        · split at h
          · cases h
            rfl
          · split at h
            · cases h
            · split at h <;> cases h
    rw [hArm, hAddr]
    rfl
  | configuration configured => cases configured <;> rw [hArm] <;> rfl

theorem standardControlOut_of_none (hDevice : req.recipient = .device) (h : req.command? = none)
    (u : Session B C) : Session.standardControlOut req u = Session.reject u := by
  have hArm := Request.standardOut_of_device hDevice
  rw [h] at hArm
  rw [Session.standardControlOut, bind_apply, get_apply]
  dsimp only
  rw [hArm]
  rfl

theorem view_errored (lifts : Bool) {p : ControlPipe B} (h : p.Equipped) :
    view lifts p.errored.bus.trace = ⟨(view lifts p.bus.trace).seen ++ [.stall], true⟩ := by
  change view lifts ((p.bus.trace ++ [.setStalled p.epOut.address true]) ++
    [.setStalled p.epIn.address true]) = _
  rw [view_snoc, view_snoc, h.epOut, h.epIn]
  rfl

namespace Embodies

/-- What the device is after a response to `req`. -/
def Responded (lifts : Bool) (K : C → C → Prop) (start : Session B C) (a : Standing)
    (seen : List Sight) (req : Request) (t : Session B C) : Response → Prop
  | .data bytes => ∀ first left,
      packets (start.profile lifts).packetSize (bytes.take req.length.toNat) = first :: left →
        Embodies lifts K start a (seen ++ a.passes [first]) (ControlPipe.Owing left) t
  | .done command =>
      Embodies lifts K start (command.apply (start.profile lifts).early a)
        (seen ++ (command.announces (start.profile lifts).early ++ a.passes [[]]))
        ControlPipe.Acknowledged t
  | .stall => Embodies lifts K start { a with stalled := true } (seen ++ [.stall]) ControlPipe.Bare t
  | .silence => Embodies lifts K start a seen ControlPipe.Bare t

theorem errored (h : Embodies lifts K start a seen (ControlPipe.Received req) u)
    (hBase : start.device.control.Equipped)
    (hDone : answerSelf req u =
      .done (.ok ()) { u with device := u.device.withPipe u.device.control.errored }) :
    Post False (answerSelf req)
      (fun _ t => Responded lifts K start a seen req t .stall ∧ t.classes = u.classes) u := by
  rw [Post, hDone]
  have hView := view_errored lifts (hBase.frame h.frame)
  rw [h.view] at hView
  exact ⟨h.withPipe ⟨rfl, rfl, rfl⟩ hView h.pipe.bare, rfl⟩

/-- The data come from the buffer. -/
theorem fromBuffer (h : Embodies lifts K start a seen (ControlPipe.Received req) u)
    (hBase : start.device.control.Equipped) (hWritable : Writable u.device.control.bus.bus)
    (hStandard : req.requestType = .standard) (hIn : req.direction = .in_) {f : SliceFn}
    (hHandler : standardControl req u = Session.onPipe (ControlPipe.acceptIn f.run) u) {len : Nat}
    {buf : List UInt8} (hRun : f.run u.device.control.buf = .done (.ok len) buf)
    (hLen : len ≤ buf.length) :
    Post False (answerSelf req) (fun _ t =>
      Responded lifts K start a seen req t (.data (buf.take len)) ∧ t.classes = u.classes) u := by
  obtain ⟨first, left, hPackets⟩ := List.exists_cons_of_ne_nil
    (packets_ne_nil (start.profile lifts).packetSize ((buf.take len).take req.length.toNat))
  have hSize : packets u.device.control.epIn.maxPacketSize.toNat
      ((buf.take len).take req.length.toNat) = first :: left := by
    rw [h.frame.epIn]
    exact hPackets
  obtain ⟨q, hAccept, hFrame, hView, hOwing⟩ :=
    h.pipe.acceptIn lifts hIn (hBase.frame h.frame) hWritable hRun hLen hSize
  rw [h.view] at hView
  have hDone : answerSelf req u = .done (.ok ()) { u with device := u.device.withPipe q } :=
    answerSelf_of_done hStandard (hHandler.trans (Session.onPipe_of_done hAccept))
      hOwing.sending.answered
  rw [Post, hDone]
  refine ⟨fun first' left' hOther => ?_, rfl⟩
  obtain ⟨rfl, rfl⟩ := List.cons.inj (hPackets.symm.trans hOther)
  exact h.withPipe hFrame hView hOwing

/-- An answer from the buffer is the response with the data. -/
theorem copied (h : Embodies lifts K start a seen (ControlPipe.Received req) u)
    (hBase : start.device.control.Equipped) (hWritable : Writable u.device.control.bus.bus)
    (hStandard : req.requestType = .standard) (hIn : req.direction = .in_) {data : List UInt8}
    (hHandler : standardControl req u = Session.acceptWith data u) (hShort : data.length ≤ 8) :
    Post False (answerSelf req) (fun _ t =>
      Responded lifts K start a seen req t (.data data) ∧ t.classes = u.classes) u := by
  have hRoom := (hBase.frame h.frame).room
  have hTake : (overwrite u.device.control.buf 0 data).take data.length = data := by
    simpa using take_overwrite data (Nat.zero_le u.device.control.buf.length)
  have hRun : (SliceFn.copy data).run u.device.control.buf =
      .done (.ok data.length) (overwrite u.device.control.buf 0 data) := by
    rw [SliceFn.copy_run_apply, if_neg (by omega)]
  have hLen : data.length ≤ (overwrite u.device.control.buf 0 data).length := by
    rw [length_overwrite (by omega)]
    omega
  have hBuffer := h.fromBuffer hBase hWritable hStandard hIn hHandler hRun hLen
  rw [hTake] at hBuffer
  exact hBuffer

/-- GET_DESCRIPTOR -/
theorem described (h : Embodies lifts K start a seen (ControlPipe.Received req) u)
    (hBackdrop : Backdrop K S) (hBase : start.device.control.Equipped)
    (hWritable : Writable u.device.control.bus.bus) (hStandard : req.requestType = .standard)
    (hIn : req.direction = .in_)
    (hHandler : standardControl req u =
      Session.onPipe (getDescriptor u.device.config u.classes req) u)
    (hLegible : ∀ f, descriptorWriter start.device.config start.classes req = some f →
      Legible start.device.control.buf.length f) :
    Post False (answerSelf req) (fun _ t =>
      Responded lifts K start a seen req t ((start.profile lifts).describe req) ∧ t.classes = u.classes) u := by
  have hSame : descriptorWriter u.device.config u.classes req =
      descriptorWriter start.device.config start.classes req := by
    rw [h.config, hBackdrop.descriptorWriter_eq h.classes]
  rw [getDescriptor, hSame] at hHandler
  cases hWriter : descriptorWriter start.device.config start.classes req with
  | none =>
    have hStall : (start.profile lifts).describe req = .stall := by
      change describe _ _ _ _ = _
      unfold describe
      rw [hWriter]
    rw [hWriter] at hHandler
    rw [hStall]
    exact h.errored hBase (answerSelf_of_rejected hStandard h.pipe.awaits.waiting hHandler)
  | some f =>
    rw [hWriter] at hHandler
    have hText := hLegible f hWriter
    have hRoom : describe start.device.config start.classes u.device.control.buf.length req =
        (start.profile lifts).describe req := by
      rw [h.frame.length]
      rfl
    rw [← h.frame.length] at hText
    rcases hText.describe_eq hWriter with ⟨len, after, hRun, hLen, hData⟩ | ⟨e, after, hRun, hSilent⟩
    · rw [← hRoom, hData]
      exact h.fromBuffer hBase hWritable hStandard hIn
        (f := acceptWriterFn f (keepsLength_descriptorWriter hWriter)) hHandler hRun hLen
    · have hFails : ControlPipe.acceptIn (acceptWriter f) u.device.control =
          .done (.error e) { u.device.control with buf := after } := by
        rw [ControlPipe.acceptIn_completeIn _ (h.pipe.completeIn hIn), hRun]
      have hLength : after.length = u.device.control.buf.length :=
        (acceptWriterFn f (keepsLength_descriptorWriter hWriter)).length_eq.of_done hRun
      have hDone : standardControl req u = .done (.error e) { u with
          device := u.device.withPipe { u.device.control with buf := after } } :=
        hHandler.trans (Session.onPipe_of_done hFails)
      rw [← hRoom, hSilent, answerSelf, when_of_true hStandard, Post, bind_of_error hDone]
      exact ⟨h.withQuietPipe ⟨rfl, rfl, hLength⟩ rfl h.pipe.bare, rfl⟩

/-- A command is carried out, and the request is accepted. -/
theorem commanded (h : Embodies lifts K start a seen (ControlPipe.Received req) u)
    (hBase : start.device.control.Equipped) (hAwake : u.device.deviceState ≠ .suspend)
    (hWilling : Willing u.device.control.bus.bus) (hStandard : req.requestType = .standard)
    (hOut : req.direction = .out) (hDevice : req.recipient = .device) {command : Command}
    (hCommand : req.command? = some command) :
    Post False (answerSelf req) (fun _ t =>
      Responded lifts K start a seen req t (.done command) ∧ t.classes = u.classes) u := by
  suffices hCarried : ∃ d : UsbDevice B,
      (command.carryOut : SessionM B C Unit) u = .done (.ok ()) { u with device := d } ∧
      Writable d.control.bus.bus ∧
      Embodies lifts K start (command.apply (start.profile lifts).early a)
        (seen ++ command.announces (start.profile lifts).early) (ControlPipe.Received req)
        { u with device := d } by
    obtain ⟨d, hCarry, hFree, hd⟩ := hCarried
    have hEquipped := hBase.frame hd.frame
    have hAccept : ControlPipe.acceptOut d.control =
        .done (.ok ()) { d.control.offered [] with state := .statusIn } :=
      ControlPipe.acceptOut_sent (hd.pipe.completeOut hOut) hEquipped.epIn hFree
    have hHandler : standardControl req u = .done (.ok ()) { u with
        device := d.withPipe { d.control.offered [] with state := .statusIn } } := by
      rw [standardControl_out hOut, standardControlOut_of_command hDevice hCommand, bind_of_ok hCarry]
      exact Session.onPipe_of_done hAccept
    have hStalled := Command.stalled_apply (start.profile lifts).early a command
    have hView : UsbStack.view lifts (d.control.offered []).bus.trace =
        (⟨seen ++ command.announces (start.profile lifts).early, a.stalled⟩ : View).sent [] := by
      rw [← hStalled, ← hd.view]
      change UsbStack.view lifts (d.control.bus.writing d.control.epIn.address []).trace = _
      rw [hEquipped.epIn]
      exact ControlPipe.view_writing lifts hFree []
    rw [Post, answerSelf_of_done hStandard hHandler rfl]
    refine ⟨?_, rfl⟩
    have hAcknowledged : ControlPipe.Acknowledged { d.control.offered [] with state := .statusIn } :=
      ⟨rfl, hd.pipe.bare⟩
    have hFrame : d.control.SameFrame { d.control.offered [] with state := .statusIn } :=
      ⟨rfl, rfl, rfl⟩
    have hAccepted := hd.withPipe hFrame hView hAcknowledged
    have hSame : { command.apply (start.profile lifts).early a with stalled := a.stalled } =
        command.apply (start.profile lifts).early a := by
      rw [← hStalled]
    rw [Responded, ← List.append_assoc, ← hSame]
    exact hAccepted
  have hWritable := hWilling.writable
  have hNow := h.deviceState hAwake
  have hView : UsbStack.view lifts u.device.control.bus.trace = ⟨seen ++ [], a.stalled⟩ := by
    rw [List.append_nil]
    exact h.view
  cases command with
  | remoteWakeup enabled =>
    refine ⟨_, rfl, hWritable, ⟨h.frame, h.config, h.selfPowered, .awake hNow.1 hNow.2, h.awake, rfl,
      h.pending, hView, h.pipe, h.classes⟩⟩
  | configuration configured =>
    cases configured with
    | true =>
      exact ⟨_, rfl, hWritable, ⟨h.frame, h.config, h.selfPowered, .awake rfl hNow.2,
        UsbDeviceState.noConfusion, h.remoteWakeup, h.pending, hView, h.pipe, h.classes⟩⟩
    | false =>
      have hRun : (Command.carryOut (.configuration false) : SessionM B C Unit) u =
          (when (u.device.deviceState ≠ .default)
            (Session.modifyDevice fun d => { d with deviceState := .addressed })) u := rfl
      rw [hRun]
      by_cases hDefault : u.device.deviceState = .default
      · rw [when_of_false (not_not.mpr hDefault)]
        have hState : u.device.deviceState = if a.state = .default then .default else .addressed := by
          rw [if_pos (hNow.1.symm.trans hDefault), hDefault]
        exact ⟨_, rfl, hWritable, ⟨h.frame, h.config, h.selfPowered, .awake hState hNow.2,
          fun hSuspend => hAwake (hState.trans hSuspend), h.remoteWakeup, h.pending, hView, h.pipe,
          h.classes⟩⟩
      · rw [when_of_true hDefault]
        have hState : UsbDeviceState.addressed = if a.state = .default then .default else .addressed := by
          rw [if_neg fun hSame => hDefault (hNow.1.trans hSame)]
        exact ⟨_, rfl, hWritable, ⟨h.frame, h.config, h.selfPowered, .awake hState hNow.2,
          fun hSuspend => UsbDeviceState.noConfusion (hState.trans hSuspend), h.remoteWakeup, h.pending,
          hView, h.pipe, h.classes⟩⟩
  | address addr =>
    simp only [Command.carryOut, Session.setAddress, Command.apply, Command.announces]
    by_cases hEarly : UsbBus.quirkSetAddressBeforeStatus B = true
    · have hProfile : (start.profile lifts).early = true := hEarly
      rw [if_pos hEarly, hProfile]
      have hSet : UsbStack.view lifts (u.device.control.bus.trace ++ [.setDeviceAddress addr]) =
          ⟨seen ++ [.address addr], a.stalled⟩ := by
        rw [view_snoc, h.view]
        rfl
      exact ⟨_, rfl, hWilling.early hEarly _ .refl addr, ⟨⟨h.frame.epOut, h.frame.epIn,
        h.frame.length⟩, h.config, h.selfPowered, .awake rfl hNow.2, UsbDeviceState.noConfusion,
        h.remoteWakeup, h.pending, hSet, ⟨h.pipe.awaits, h.pipe.bare, h.pipe.data⟩, h.classes⟩⟩
    · have hProfile : (start.profile lifts).early = false := Bool.eq_false_iff.mpr hEarly
      rw [if_neg hEarly, hProfile]
      exact ⟨_, rfl, hWritable, ⟨h.frame, h.config, h.selfPowered, .awake hNow.1 hNow.2, h.awake,
        h.remoteWakeup, rfl, hView, h.pipe, h.classes⟩⟩

/-- A request that the classes leave is answered as the profile has it. -/
theorem answers (h : Embodies lifts K start a seen (ControlPipe.Received req) u)
    (hBackdrop : Backdrop K S) (hBase : start.device.control.Equipped)
    (hAwake : u.device.deviceState ≠ .suspend) (hWilling : Willing u.device.control.bus.bus)
    (hDevice : req.recipient = .device)
    (hLegible : req.request = Request.getDescriptor →
      ∀ f, descriptorWriter start.device.config start.classes req = some f →
        Legible start.device.control.buf.length f) :
    Post False (answerSelf req) (fun _ t =>
      Responded lifts K start a seen req t ((start.profile lifts).reply a req) ∧ t.classes = u.classes) u := by
  have hWaiting := h.pipe.awaits.waiting
  rw [Profile.reply]
  by_cases hStandard : req.requestType = .standard
  · rw [if_neg (not_not.mpr hStandard)]
    cases hDirection : req.direction with
    | in_ =>
      have hHandler := standardControlIn_of_device hDevice u
      rw [← standardControl_in hDirection] at hHandler
      dsimp only
      by_cases hStatus : req.request = Request.getStatus
      · rw [if_pos hStatus, h.selfPowered, h.remoteWakeup] at hHandler
        rw [if_pos hStatus]
        exact h.copied hBase hWilling.writable hStandard hDirection hHandler (by change 2 ≤ 8; decide)
      rw [if_neg hStatus] at hHandler ⊢
      by_cases hDescriptor : req.request = Request.getDescriptor
      · rw [if_pos hDescriptor] at hHandler ⊢
        exact h.described hBackdrop hBase hWilling.writable hStandard hDirection hHandler (hLegible hDescriptor)
      rw [if_neg hDescriptor] at hHandler ⊢
      by_cases hConfiguration : req.request = Request.getConfiguration
      · rw [if_pos hConfiguration, (h.deviceState hAwake).1] at hHandler
        rw [if_pos hConfiguration]
        exact h.copied hBase hWilling.writable hStandard hDirection hHandler (by change 1 ≤ 8; decide)
      rw [if_neg hConfiguration] at hHandler ⊢
      exact h.errored hBase (answerSelf_of_ignored hWaiting fun _ => hHandler)
    | out =>
      dsimp only
      cases hCommand : req.command? with
      | some command =>
        exact h.commanded hBase hAwake hWilling hStandard hDirection hDevice hCommand
      | none =>
        refine h.errored hBase (answerSelf_of_rejected hStandard hWaiting ?_)
        rw [standardControl_out hDirection, standardControlOut_of_none hDevice hCommand]
  · rw [if_pos hStandard]
    exact h.errored hBase (answerSelf_of_ignored hWaiting fun hNot => absurd hNot hStandard)

end Embodies

end Answers

end UsbStack
