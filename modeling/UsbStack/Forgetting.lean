import UsbStack.Observers
import UsbStack.TestCallbacks

/-! # What a device forgets

Bytes of the control buffer that no transfer uses never come to light, and after a bus reset a device
does not show what it was doing before.
-/

namespace UsbStack

set_option autoImplicit false

open Foundation Exec ControlPipe

variable {B C : Type} {s t : Session B C} {d e : UsbDevice B}

namespace Mailbox

def newSession (bus : Traced Mailbox) (fill : UInt8) : Session Mailbox (TestClass .fullSpeed) :=
  ⟨{ roundTripSession.device with
     control := .new bus (List.replicate 256 fill) (.control .out 8) (.control .in_ 8) },
    [roundTripClass]⟩

def describedInputs : List (DeviceInput Mailbox (TestClass .fullSpeed)) :=
  [.hardware ⟨none, some [0x80, 6, 0, 1, 0, 0, 64, 0], .data 0 0 1⟩, .poll,
    .hardware ⟨none, none, .data 0 1 0⟩, .poll, .hardware ⟨none, none, .data 0 1 0⟩, .poll]

/-- A configured device that waits for the status stage of a SET_ADDRESS request. -/
def busySession : Session Mailbox (TestClass .fullSpeed) :=
  ⟨{ roundTripSession.device with
     control :=
       { ControlPipe.new ⟨⟨none, none, .reset⟩, [.enable, .reset, .setDeviceAddress 9]⟩
           (List.replicate 256 0xaa) (.control .out 8) (.control .in_ 8) with
         state := .statusIn }
     deviceState := .configured
     remoteWakeupEnabled := true
     pendingAddress := 12 },
    [roundTripClass]⟩

def statusInputs : List (DeviceInput Mailbox (TestClass .fullSpeed)) :=
  [.hardware ⟨none, some [0x80, 0, 0, 0, 0, 0, 2, 0], .data 0 0 1⟩, .poll]

end Mailbox

/-- What the host, the hardware and the classes can know of a session since its first `n` events. -/
def Session.seenSince (n : Nat) (s : Session B C) : B × List Event × List C × UsbDeviceState :=
  (s.device.control.bus.bus, s.device.control.bus.trace.drop n, s.classes, s.device.deviceState)

theorem seenSince_alike [UsbBus B] (h : s.Twin Alike Eq t) : s.seenSince 0 = t.seenSince 0 := by
  obtain ⟨⟨q, hAlike, hDevice⟩, hClasses⟩ := h
  rw [Session.seenSince, Session.seenSince, hDevice, hClasses, hAlike.bus]
  rfl

theorem seenSince_recalls {past : List Event} (h : s.Twin (Rebased (Traced.Recalls past)) Eq t) :
    s.seenSince 0 = t.seenSince past.length := by
  obtain ⟨⟨_, ⟨_, rfl, rfl⟩, hDevice⟩, hClasses⟩ := h
  rw [Session.seenSince, Session.seenSince, hDevice, hClasses]
  change (_, s.device.control.bus.trace, _, _) =
    (_, (past ++ s.device.control.bus.trace).drop past.length, _, _)
  rw [List.drop_left]
  rfl

/-- What two sessions have to have in common for a bus reset to make them the same. -/
structure Session.Level (s t : Session B C) : Prop where
  driver : s.device.control.bus.bus = t.device.control.bus.bus
  epOut : s.device.control.epOut = t.device.control.epOut
  epIn : s.device.control.epIn = t.device.control.epIn
  length : s.device.control.buf.length = t.device.control.buf.length
  leftover : SameLeftover s.device.control.answerLimit s.device.control.staticInBuf
    t.device.control.staticInBuf
  config : s.device.config = t.device.config
  selfPowered : s.device.selfPowered = t.device.selfPowered
  asleep : s.device.deviceState = .suspend ↔ t.device.deviceState = .suspend
  classes : s.classes = t.classes

def Session.forgetful (s : Session B C) : Session B C :=
  { s with device := s.device.withBus ⟨s.device.control.bus.bus, []⟩ }

theorem twin_forgetful (s : Session B C) :
    s.forgetful.Twin (Rebased (Traced.Recalls s.device.control.bus.trace)) Eq s := by
  have hBus : s.device.control.bus =
      (⟨s.device.control.bus.bus, []⟩ : Traced B).recalling s.device.control.bus.trace := by
    rw [Traced.recalling, List.append_nil]
  exact ⟨⟨s.device.control, ⟨s.device.control.bus, hBus, rfl⟩, rfl⟩, rfl⟩

variable [UsbBus B]

theorem event?_forgetful {pr : PollResult} (h : s.device.event? = some (pr, d)) :
    ∃ e, s.forgetful.device.event? = some (pr, e) := by
  obtain ⟨rfl, ⟨hAwake, -⟩ | ⟨hAsleep, hNot, state, hRemembered, -⟩⟩ := UsbDevice.event?_cases h
  · exact ⟨_, UsbDevice.event?_of_awake hAwake⟩
  · exact ⟨_, UsbDevice.event?_of_asleep hAsleep hNot hRemembered⟩

theorem Session.Level.event (h : s.Level t) (hBus : s.device.control.bus = t.device.control.bus)
    {pr : PollResult} (hs : s.device.event? = some (pr, d)) (ht : t.device.event? = some (pr, e)) :
    d.control.Level e.control ∧ d.config = e.config ∧ d.selfPowered = e.selfPowered := by
  have hPipe : s.device.control.Level t.device.control :=
    ⟨hBus, h.epOut, h.epIn, h.length, h.leftover⟩
  have hPolled : s.device.polled.control.Level t.device.polled.control :=
    hPipe.withBus (by rw [hBus])
  obtain ⟨-, ⟨hAwake, rfl⟩ | ⟨hAsleep, -, state, -, rfl⟩⟩ := UsbDevice.event?_cases hs <;>
    obtain ⟨-, ⟨hAwake', rfl⟩ | ⟨hAsleep', -, state', -, rfl⟩⟩ := UsbDevice.event?_cases ht
  · exact ⟨hPolled, h.config, h.selfPowered⟩
  · exact absurd (h.asleep.mpr hAsleep') hAwake
  · exact absurd (h.asleep.mp hAsleep) hAwake'
  · exact ⟨hPolled.withBus (by rw [hPolled.bus]), h.config, h.selfPowered⟩

variable [UsbBus.Contract B] [UsbClass C]

theorem agree_reset (hClasses : Oblivious C) (hPipe : d.control.Level e.control)
    (hConfig : d.config = e.config) (hPowered : d.selfPowered = e.selfPowered) (classes : List C) :
    Agree (fun _ => Session.Twin Alike Eq) (Session.reset ⟨d, classes⟩)
      (Session.reset ⟨e, classes⟩) := by
  have hBus : (⟨UsbBus.reset d.control.bus.bus, d.control.bus.trace ++ [.reset]⟩ : Traced B) =
      ⟨UsbBus.reset e.control.bus.bus, e.control.bus.trace ++ [.reset]⟩ := by
    rw [hPipe.bus]
  have hDevice : e.afterReset = d.afterReset.withPipe e.afterReset.control := by
    cases e
    cases hConfig
    cases hPowered
    rfl
  have hAlike : d.afterReset.control.Alike e.afterReset.control :=
    (hPipe.withBus hBus).alike_of_spare (show Spare .idle from trivial)
  have hTwin : Session.Twin Alike Eq (⟨d.afterReset, classes⟩ : Session B C)
      ⟨e.afterReset, classes⟩ := ⟨⟨_, hAlike, hDevice⟩, rfl⟩
  exact (coupled_same coupled_alike hClasses.supplies).notify .reset _ _ hTwin

omit [UsbBus.Contract B] in
/-- Nothing that a device does depends on what is on record. -/
theorem runs_recall {past : List Event} (h : s.Twin (Rebased (Traced.Recalls past)) Eq t)
    (inputs : List (DeviceInput B C)) :
    outputs DeviceInput.perform inputs s = outputs DeviceInput.perform inputs t ∧
      (finalState DeviceInput.perform inputs s).map (Session.seenSince 0) =
        (finalState DeviceInput.perform inputs t).map (Session.seenSince past.length) :=
  runs_eq (lockstep_perform (coupled_rebased (Traced.coupled_recalls past)) supplies_true)
    (fun _ _ hTwin => seenSince_recalls hTwin) h inputs

/-- Bytes of the control buffer that no transfer uses never show: neither in a result, nor in a call to
the driver or to a class. -/
theorem unused_bytes_never_show (hClasses : Oblivious C) (h : s.Twin Alike Eq t)
    (inputs : List (DeviceInput B C)) :
    outputs DeviceInput.perform inputs s = outputs DeviceInput.perform inputs t ∧
      (finalState DeviceInput.perform inputs s).map (Session.seenSince 0) =
        (finalState DeviceInput.perform inputs t).map (Session.seenSince 0) :=
  runs_eq (lockstep_perform coupled_alike hClasses.supplies) (fun _ _ hTwin => seenSince_alike hTwin) h
    inputs

/-- What a new device tells of itself, whatever its buffer held. -/
theorem unused_bytes_never_show_descriptor : ∃ t,
    finalState DeviceInput.perform Mailbox.describedInputs
      (Mailbox.newSession ⟨.empty, [.enable]⟩ 0xaa) = some t ∧
    accepted (.control .in_) (t.seenSince 0).2.1 =
      [[18, 1, 0x10, 2, 0, 0, 0, 8], [0, 0, 0, 0, 0x10, 0, 0, 0], [0, 1]] := by
  have hTwin : (Mailbox.newSession ⟨.empty, [.enable]⟩ 0).Twin Alike Eq
      (Mailbox.newSession ⟨.empty, [.enable]⟩ 0xaa) :=
    ⟨⟨(Mailbox.newSession ⟨.empty, [.enable]⟩ 0xaa).device.control,
      ⟨⟨rfl, rfl, rfl, by decide +kernel, trivial⟩, rfl, trivial⟩, rfl⟩, rfl⟩
  obtain ⟨-, hSeen⟩ := unused_bytes_never_show TestClass.oblivious hTwin Mailbox.describedInputs
  have hShown := congrArg (Option.map fun seen => accepted (.control .in_) seen.2.1) hSeen
  rw [Option.map_map, Option.map_map] at hShown
  refine Option.map_eq_some_iff.mp (hShown.symm.trans ?_)
  decide +kernel

theorem runs_after_reset (hClasses : Oblivious C) (h : s.Level t)
    (hBus : s.device.control.bus = t.device.control.bus)
    (hs : s.device.event? = some (.reset, d)) (ht : t.device.event? = some (.reset, e))
    (inputs : List (DeviceInput B C)) :
    outputs DeviceInput.perform (.poll :: inputs) s = outputs DeviceInput.perform (.poll :: inputs) t ∧
      (finalState DeviceInput.perform (.poll :: inputs) s).map (Session.seenSince 0) =
        (finalState DeviceInput.perform (.poll :: inputs) t).map (Session.seenSince 0) := by
  obtain ⟨hPipe, hConfig, hPowered⟩ := h.event hBus hs ht
  have hPoll : Agree (fun _ => Session.Twin Alike Eq) (Session.poll s) (Session.poll t) := by
    rw [poll_of_event hs, poll_of_event ht, ← h.classes]
    exact agree_bind (agree_reset hClasses hPipe hConfig hPowered s.classes)
      (fun _ _ _ hNext => ⟨rfl, hNext⟩) fun _ _ _ hNext => hNext
  refine runs_eq_of_first (lockstep_perform coupled_alike hClasses.supplies)
    (fun _ _ hTwin => seenSince_alike hTwin) ?_ inputs
  exact agree_bind hPoll (fun _ _ _ hNext => ⟨rfl, hNext⟩) fun _ _ _ hNext => hNext

/-- From a bus reset on nothing shows of what the device was doing before, except the leftover of a
static response. -/
theorem reset_forgets (hClasses : Oblivious C) (h : s.Level t)
    (hs : s.device.event? = some (.reset, d)) (ht : t.device.event? = some (.reset, e))
    (inputs : List (DeviceInput B C)) :
    outputs DeviceInput.perform (.poll :: inputs) s = outputs DeviceInput.perform (.poll :: inputs) t ∧
      (finalState DeviceInput.perform (.poll :: inputs) s).map
          (Session.seenSince s.device.control.bus.trace.length) =
        (finalState DeviceInput.perform (.poll :: inputs) t).map
          (Session.seenSince t.device.control.bus.trace.length) := by
  obtain ⟨d', hs'⟩ := event?_forgetful hs
  obtain ⟨e', ht'⟩ := event?_forgetful ht
  have hLevel : s.forgetful.Level t.forgetful :=
    ⟨h.driver, h.epOut, h.epIn, h.length, h.leftover, h.config, h.selfPowered, h.asleep, h.classes⟩
  have hBus : s.forgetful.device.control.bus = t.forgetful.device.control.bus :=
    congrArg (Traced.mk · []) h.driver
  obtain ⟨hOutputs, hFinal⟩ := runs_after_reset hClasses hLevel hBus hs' ht' inputs
  obtain ⟨hOutputs_s, hFinal_s⟩ := runs_recall (twin_forgetful s) (.poll :: inputs)
  obtain ⟨hOutputs_t, hFinal_t⟩ := runs_recall (twin_forgetful t) (.poll :: inputs)
  constructor
  · rw [← hOutputs_s, hOutputs, hOutputs_t]
  · rw [← hFinal_s, hFinal, hFinal_t]

/-- The first answer after a bus reset in the middle of everything. -/
theorem reset_forgets_status : ∃ t,
    finalState DeviceInput.perform (.poll :: Mailbox.statusInputs) Mailbox.busySession = some t ∧
    accepted (.control .in_) (t.seenSince 3).2.1 = [[0, 0]] ∧ t.device.deviceState = .default := by
  have hLevel : Mailbox.busySession.Level
      (Mailbox.newSession ⟨⟨none, none, .reset⟩, [.enable]⟩ 0) :=
    ⟨rfl, rfl, rfl, by decide +kernel, trivial, rfl, rfl, by decide, rfl⟩
  obtain ⟨-, hSeen⟩ := reset_forgets TestClass.oblivious hLevel (UsbDevice.event?_of_awake (by decide))
    (UsbDevice.event?_of_awake (by decide)) Mailbox.statusInputs
  have hShown := congrArg (Option.map fun seen => (accepted (.control .in_) seen.2.1, seen.2.2.2)) hSeen
  rw [Option.map_map, Option.map_map] at hShown
  have hPlain : (finalState DeviceInput.perform (.poll :: Mailbox.statusInputs)
      (Mailbox.newSession ⟨⟨none, none, .reset⟩, [.enable]⟩ 0)).map
        ((fun seen => (accepted (.control .in_) seen.2.1, seen.2.2.2)) ∘ Session.seenSince 1) =
      some ([[0, 0]], .default) := by
    decide +kernel
  obtain ⟨t, hFinal, hBoth⟩ := Option.map_eq_some_iff.mp (hShown.trans hPlain)
  exact ⟨t, hFinal, congrArg Prod.fst hBoth, congrArg Prod.snd hBoth⟩

end UsbStack
