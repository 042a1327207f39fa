import UsbStack.Recording
import UsbStack.Unaborted
import Mathlib.Data.Nat.Bitwise

/-! # The events of the other endpoints

A poll that brings data calls every class for every endpoint event, in the order of the endpoints,
and then lets every class poll.
-/

namespace UsbStack

set_option autoImplicit false

open Foundation Exec

/-- A callback that does not belong to a control request. -/
def Event.notice? : Event → Option (Nat × ClassCall)
  | .class_ _ (.controlOut _ _) | .class_ _ (.controlIn _) => none
  | .class_ _ (.getAltSetting _) | .class_ _ (.setAltSetting _ _) => none
  | .class_ index call => some (index, call)
  | _ => none

def notices (trace : List Event) : List (Nat × ClassCall) := trace.filterMap Event.notice?

theorem notices_append (trace more : List Event) :
    notices (trace ++ more) = notices trace ++ notices more := List.filterMap_append

def toEach (n : Nat) (call : ClassCall) : List (Nat × ClassCall) :=
  (List.range n).map fun index => (index, call)

def endpointCalls (epOut epIn epSetup : UInt16) (n : Nat) : List ClassCall :=
  (if epSetup.toNat.testBit n then [.endpointSetup (.fromParts n .out)]
    else if epOut.toNat.testBit n then [.endpointOut (.fromParts n .out)] else []) ++
  if epIn.toNat.testBit n then [.endpointInComplete (.fromParts n .in_)] else []

def dataCalls (epOut epIn epSetup : UInt16) : List ClassCall :=
  (List.range' 1 15).flatMap (endpointCalls epOut epIn epSetup) ++ [.poll]

theorem quiet_records : Records fun event => event.notice? = none where
  endpoint event hEvent := by
    cases event with
    | class_ index call => exact hEvent.elim
    | _ => rfl
  receive event hEvent := by
    cases event with
    | class_ index call => exact hEvent.elim
    | _ => rfl
  address addr := rfl
  control index call hCall := by
    cases call with
    | controlOut | controlIn | getAltSetting | setAltSetting => rfl
    | _ => exact hCall.elim

theorem notices_of_grows {B : Type} {t u : Traced B}
    (h : Traced.Grows (fun event => event.notice? = none) t u) :
    notices u.trace = notices t.trace := h.filterMap_eq fun _ => id

variable {B C : Type} [UsbBus B] {pan : Prop}

/-- `t` comes after `s` with the callbacks `more` made in between. -/
structure Session.Noticed (more : List (Nat × ClassCall)) (s t : Session B C) : Prop where
  notices : notices t.device.control.bus.trace = notices s.device.control.bus.trace ++ more
  length : t.classes.length = s.classes.length

section Notify

variable {s t u : Session B C} {call : ClassCall}

omit [UsbBus B] in
theorem Session.noticed_refl (s : Session B C) : s.Noticed [] s := ⟨(List.append_nil _).symm, rfl⟩

omit [UsbBus B] in
theorem Session.Noticed.trans {first second : List (Nat × ClassCall)} (h : s.Noticed first t)
    (h' : t.Noticed second u) : s.Noticed (first ++ second) u :=
  ⟨by rw [h'.notices, h.notices, List.append_assoc], h'.length.trans h.length⟩

theorem post_callClass_noticed (hCall : ∀ index, (Event.class_ index call).notice? = some (index, call))
    {m : C → ClassM C} {cls : C} (hm : (m cls).Yields pan fun _ => True) (index : Nat)
    (d : UsbDevice B) :
    Post pan (UsbDevice.onBus (callClass call m index cls) : DeviceM B C)
      (fun r e => (∃ cls', r = .ok cls') ∧ notices e.control.bus.trace =
        notices d.control.bus.trace ++ [(index, call)]) d := by
  rw [UsbDevice.onBus, UsbDevice.onPipe, ControlPipe.onBus, post_zoom, post_zoom]
  have hNoted : (Traced.note (.class_ index call) : BusM B Unit) d.control.bus =
      .done (.ok ()) (d.control.bus.noting (.class_ index call)) := rfl
  have hQuiet := quiet_records.within_run (m cls) (d.control.bus.noting (.class_ index call))
  rw [callClass, Post, bind_of_ok hNoted]
  apply ((post_run hm (d.control.bus.noting (.class_ index call))).and_true hQuiet).mono
  rintro r t ⟨⟨cls', rfl, -, -⟩, hGrows⟩
  refine ⟨⟨cls', rfl⟩, (notices_of_grows hGrows).trans ?_⟩
  have hOne : notices [.class_ index call] = [(index, call)] := by
    rw [notices, List.filterMap_cons_some (hCall index), List.filterMap_nil]
  exact (notices_append _ _).trans (congrArg _ hOne)

theorem post_forEachClass_noticed
    (hCall : ∀ index, (Event.class_ index call).notice? = some (index, call)) {m : C → ClassM C}
    (hm : ∀ cls, (m cls).Yields pan fun _ => True) (index : Nat) (classes : List C)
    (d : UsbDevice B) :
    Post pan (forEachClass (fun index cls => UsbDevice.onBus (callClass call m index cls)) index
      classes) (fun r e => (∃ classes', r = .ok classes' ∧ classes'.length = classes.length) ∧
        notices e.control.bus.trace = notices d.control.bus.trace ++
          (List.range' index classes.length).map fun k => (k, call)) d := by
  induction classes generalizing index d with
  | nil => exact ⟨⟨[], rfl, rfl⟩, (List.append_nil _).symm⟩
  | cons cls rest ih =>
    rw [forEachClass, post_bind]
    apply (post_callClass_noticed hCall (hm cls) index d).mono
    rintro r e ⟨⟨cls', rfl⟩, hFirst⟩
    dsimp only
    rw [post_bind]
    apply (ih (index + 1) e).mono
    rintro r e' ⟨⟨rest', rfl, hLength⟩, hRest⟩
    refine ⟨⟨cls' :: rest', rfl, congrArg (· + 1) hLength⟩, ?_⟩
    rw [hRest, hFirst, List.append_assoc, List.length_cons, List.range'_succ, List.map_cons]
    rfl

theorem post_notify_noticed
    (hCall : ∀ index, (Event.class_ index call).notice? = some (index, call)) {m : C → ClassM C}
    (hm : ∀ cls, (m cls).Yields pan fun _ => True) (s : Session B C) :
    Post pan (Session.notify call m)
      (fun r t => r = .ok () ∧ s.Noticed (toEach s.classes.length call) t) s := by
  rw [Session.notify, Session.eachClass, post_bind, post_get]
  dsimp only
  rw [post_bind, Session.onDevice, post_zoom]
  apply (post_forEachClass_noticed hCall hm 0 s.classes s.device).mono
  rintro r e ⟨⟨classes', rfl, hLength⟩, hNotices⟩
  refine ⟨rfl, ?_, hLength⟩
  rw [toEach, List.range_eq_range']
  exact hNotices

omit [UsbBus B] in
theorem post_noticed_bind {first second : List (Nat × ClassCall)} {m : SessionM B C Unit}
    {k : Unit → SessionM B C Unit} (hm : Post pan m (fun r t => r = .ok () ∧ s.Noticed first t) s)
    (hk : ∀ t, s.Noticed first t → Post pan (k ()) (fun r u => r = .ok () ∧ t.Noticed second u) t) :
    Post pan (m >>= k) (fun r u => r = .ok () ∧ s.Noticed (first ++ second) u) s := by
  rw [post_bind]
  apply hm.mono
  rintro r t ⟨rfl, ht⟩
  apply (hk t ht).mono
  rintro r u ⟨rfl, hu⟩
  exact ⟨rfl, ht.trans hu⟩

end Notify

section Bits

variable {n k : Nat} (mask : UInt16)

theorem toNat_endpointBit (h : n < 16) : (endpointBit n).toNat = 2 ^ n := by
  induction n with
  | zero => rfl
  | succ n ih =>
    have hBound : 2 ^ (n + 1) < 2 ^ 16 := Nat.pow_lt_pow_right (by decide) h
    rw [endpointBit, UInt16.toNat_shiftLeft, ih (by omega)]
    change 2 ^ n <<< 1 % 2 ^ 16 = _
    rw [Nat.shiftLeft_eq, ← Nat.pow_succ, Nat.mod_eq_of_lt hBound]

theorem and_endpointBit_ne (h : n < 16) :
    mask &&& endpointBit n ≠ 0 ↔ mask.toNat.testBit n = true := by
  have hZero : mask &&& endpointBit n = 0 ↔ (mask.toNat.testBit n).toNat * 2 ^ n = 0 := by
    rw [← UInt16.toNat_inj, UInt16.toNat_and, toNat_endpointBit h, Nat.and_two_pow]
    rfl
  rw [ne_eq, hZero]
  cases mask.toNat.testBit n with
  | true => simp
  | false => simp

theorem testBit_clear (hn : n < 16) (hk : k < 16) (hNe : k ≠ n) :
    (mask &&& ~~~endpointBit n).toNat.testBit k = mask.toNat.testBit k := by
  have hBit : (~~~endpointBit n).toNat.testBit k = true := by
    have hBits : (~~~(endpointBit n).toBitVec).getLsbD k = true := by
      rw [BitVec.getLsbD_not, decide_eq_true hk, Bool.true_and, Bool.not_eq_true']
      change (endpointBit n).toNat.testBit k = false
      rw [toNat_endpointBit hn, Nat.testBit_two_pow]
      exact decide_eq_false fun h => hNe h.symm
    exact hBits
  rw [UInt16.toNat_and, Nat.testBit_and, hBit, Bool.and_true]

end Bits

section Loop

variable {epOut epIn epSetup : UInt16} {n k : Nat}

theorem endpointCalls_nil (hOut : epOut.toNat.testBit k = false) (hIn : epIn.toNat.testBit k = false)
    (hSetup : epSetup.toNat.testBit k = false) : endpointCalls epOut epIn epSetup k = [] := by
  rw [endpointCalls, hOut, hIn, hSetup]
  rfl

theorem flatMap_endpointCalls (hk : k < 16) :
    (endpointCalls epOut epIn epSetup k).flatMap (toEach n) =
      (if epSetup &&& endpointBit k ≠ 0 then toEach n (.endpointSetup (.fromParts k .out)) else []) ++
      ((if epSetup &&& endpointBit k = 0 ∧ epOut &&& endpointBit k ≠ 0 then
        toEach n (.endpointOut (.fromParts k .out)) else []) ++
      if epIn &&& endpointBit k ≠ 0 then toEach n (.endpointInComplete (.fromParts k .in_)) else []) := by
  have hSetup : epSetup &&& endpointBit k = 0 ↔ ¬ epSetup.toNat.testBit k = true :=
    (not_iff_comm.mp (and_endpointBit_ne epSetup hk)).symm
  simp only [and_endpointBit_ne _ hk, hSetup, endpointCalls, List.flatMap_append]
  cases epSetup.toNat.testBit k <;> cases epOut.toNat.testBit k <;> cases epIn.toNat.testBit k <;>
    simp

theorem flatMap_endpointCalls_nil {rounds i : Nat} (hRounds : i + rounds = 16)
    (h : ∀ k, i ≤ k → k < 16 →
      (epOut.toNat.testBit k || epIn.toNat.testBit k || epSetup.toNat.testBit k) = false) :
    (List.range' i rounds).flatMap (endpointCalls epOut epIn epSetup) = [] := by
  rw [List.flatMap_eq_nil_iff]
  intro k hk
  rw [List.mem_range'_1] at hk
  obtain ⟨hFirst, hSetup⟩ := Bool.or_eq_false_iff.mp (h k hk.1 (by omega))
  obtain ⟨hOut, hIn⟩ := Bool.or_eq_false_iff.mp hFirst
  exact endpointCalls_nil hOut hIn hSetup

/-- The callbacks for events return, or may panic where `pan` allows it. -/
structure Responsive (pan : Prop) (C : Type) [UsbClass C] : Prop where
  poll : ∀ cls : C, (UsbClass.poll cls).Yields pan fun _ => True
  endpointSetup : ∀ (cls : C) addr, (UsbClass.endpointSetup cls addr).Yields pan fun _ => True
  endpointOut : ∀ (cls : C) addr, (UsbClass.endpointOut cls addr).Yields pan fun _ => True
  endpointInComplete : ∀ (cls : C) addr,
    (UsbClass.endpointInComplete cls addr).Yields pan fun _ => True

variable [UsbClass C] {s : Session B C}

omit [UsbClass C] in
theorem post_when_noticed {c : Prop} [Decidable c] {call : ClassCall}
    (hCall : ∀ index, (Event.class_ index call).notice? = some (index, call)) {m : C → ClassM C}
    (hm : ∀ cls, (m cls).Yields pan fun _ => True) (hLength : s.classes.length = n) :
    Post pan (when c (Session.notify call m))
      (fun r t => r = .ok () ∧ s.Noticed (if c then toEach n call else []) t) s := by
  refine post_when (fun hc => ?_) fun hc => ?_
  · rw [if_pos hc, ← hLength]
    exact post_notify_noticed hCall hm s
  · rw [if_neg hc]
    exact ⟨rfl, s.noticed_refl⟩

/-- The turns of the loop from endpoint `i` on, when `eps` has the events that are left. -/
theorem post_pollEndpoints_noticed (h : Responsive pan C) {rounds i : Nat} (hRounds : i + rounds = 16)
    {eps : UInt16}
    (hEps : ∀ k, i ≤ k → k < 16 → eps.toNat.testBit k =
      (epOut.toNat.testBit k || epIn.toNat.testBit k || epSetup.toNat.testBit k))
    (hLength : s.classes.length = n) :
    Post pan (Session.pollEndpoints epOut epIn epSetup rounds i (endpointBit i) eps)
      (fun r t => r = .ok () ∧ s.Noticed
        (((List.range' i rounds).flatMap (endpointCalls epOut epIn epSetup)).flatMap (toEach n)) t) s := by
  induction rounds generalizing i eps s with
  | zero => exact ⟨rfl, s.noticed_refl⟩
  | succ rounds ih =>
    have hi : i < 16 := by omega
    rw [List.range'_succ, List.flatMap_cons, List.flatMap_append, flatMap_endpointCalls hi,
      List.append_assoc, List.append_assoc, Session.pollEndpoints]
    refine post_noticed_bind (post_when_noticed (fun _ => rfl) (h.endpointSetup · _) hLength)
      fun t ht => ?_
    have hLength' := ht.length.trans hLength
    refine post_noticed_bind (post_when_noticed (fun _ => rfl) (h.endpointOut · _) hLength')
      fun u hu => ?_
    have hLength'' := hu.length.trans hLength'
    refine post_noticed_bind (post_when_noticed (fun _ => rfl) (h.endpointInComplete · _) hLength'')
      fun v hv => ?_
    -- what is left of `eps` are the events of the endpoints behind `i`
    have hLeft (k : Nat) (hLower : i + 1 ≤ k) (hUpper : k < 16) :
        (eps &&& ~~~endpointBit i).toNat.testBit k =
          (epOut.toNat.testBit k || epIn.toNat.testBit k || epSetup.toNat.testBit k) := by
      rw [testBit_clear eps hi hUpper (by omega)]
      exact hEps k (by omega) hUpper
    refine post_when (fun _ => ih (by omega) hLeft (hv.length.trans hLength'')) fun hDone => ?_
    have hNone : (List.range' (i + 1) rounds).flatMap (endpointCalls epOut epIn epSetup) = [] := by
      refine flatMap_endpointCalls_nil (by omega) fun k hLower hUpper => ?_
      rw [← hLeft k hLower hUpper, not_not.mp hDone]
      exact Nat.zero_testBit k
    rw [hNone]
    exact ⟨rfl, v.noticed_refl⟩

end Loop

section Poll

variable [UsbClass C] {epOut epIn epSetup : UInt16} {s : Session B C} {d : UsbDevice B}

/-- Endpoint 0 makes no callback of this kind. -/
theorem post_pollControl_noticed
    (hControl : Post pan (Session.pollControl epOut epIn epSetup) (fun _ _ => True) s) :
    Post pan (Session.pollControl epOut epIn epSetup)
      (fun r t => r = .ok () ∧ s.Noticed [] t) s := by
  have hLength (t : Session B C) (h : s.Tends (fun _ _ => True) t) :
      t.classes.length = s.classes.length := h.classes.length_eq.symm
  have hReturns : Post True (Session.pollControl epOut epIn epSetup)
      (fun r t => r = .ok () ∧ t.classes.length = s.classes.length) s := by
    refine post_pollControl_stages (fun req p _ => ?_) (fun p _ => ⟨rfl, rfl⟩) fun p _ _ => ?_
    · apply (respects_true.within_dispatch trivial _).mono
      exact fun r t hTends => ⟨rfl, hTends.classes.length_eq.symm⟩
    · apply (unfailing_completeIn _).mono
      rintro r e ⟨u, rfl⟩
      exact ⟨rfl, rfl⟩
  have hQuiet := quiet_records.within_pollControl epOut epIn epSetup s
  apply ((hControl.and_true hReturns).and_true hQuiet).mono
  rintro r t ⟨⟨-, hr, hLength⟩, hGrows⟩
  exact ⟨hr, by rw [notices_of_grows hGrows, List.append_nil], hLength⟩

/-- The classes are told of the events in the order of the endpoints, and then polled. -/
theorem post_pollData_noticed (h : Responsive pan C)
    (hControl : (epOut ||| epIn ||| epSetup) &&& 1 ≠ 0 →
      Post pan (Session.pollControl epOut epIn epSetup) (fun _ _ => True) s) :
    Post pan (Session.pollData epOut epIn epSetup)
      (fun r t => r = .ok () ∧ s.Noticed
        ((dataCalls epOut epIn epSetup).flatMap (toEach s.classes.length)) t) s := by
  have hFirst : Post pan (when ((epOut ||| epIn ||| epSetup) &&& 1 ≠ 0)
      (Session.pollControl epOut epIn epSetup)) (fun r t => r = .ok () ∧ s.Noticed [] t) s :=
    post_when (fun hBit => post_pollControl_noticed (hControl hBit)) fun _ => ⟨rfl, s.noticed_refl⟩
  have hEps (k : Nat) (hLower : 1 ≤ k) (hUpper : k < 16) :
      ((epOut ||| epIn ||| epSetup) &&& ~~~1).toNat.testBit k =
        (epOut.toNat.testBit k || epIn.toNat.testBit k || epSetup.toNat.testBit k) := by
    have hClear := testBit_clear (epOut ||| epIn ||| epSetup) (by omega : 0 < 16) hUpper (by omega)
    rw [endpointBit] at hClear
    rw [hClear, UInt16.toNat_or, UInt16.toNat_or, Nat.testBit_or, Nat.testBit_or]
  rw [dataCalls, List.flatMap_append, ← List.nil_append (_ ++ _), Session.pollData]
  refine post_noticed_bind hFirst fun t ht => ?_
  refine post_noticed_bind (post_when (fun _ => ?_) fun hDone => ?_) fun u hu => ?_
  · exact post_pollEndpoints_noticed h rfl hEps ht.length
  · have hNone : (List.range' 1 15).flatMap (endpointCalls epOut epIn epSetup) = [] := by
      refine flatMap_endpointCalls_nil rfl fun k hLower hUpper => ?_
      rw [← hEps k hLower hUpper, not_not.mp hDone]
      exact Nat.zero_testBit k
    rw [hNone]
    exact ⟨rfl, t.noticed_refl⟩
  · rw [List.flatMap_singleton, ← ht.length, ← hu.length]
    exact post_notify_noticed (fun _ => rfl) h.poll u

omit [UsbClass C] in
theorem notices_of_event {pr : PollResult} (hEvent : s.device.event? = some (pr, d)) :
    notices d.control.bus.trace = notices s.device.control.bus.trace := by
  have hNone {trace : List Event} {event : Event} (hEvent : event.notice? = none) :
      notices (trace ++ [event]) = notices trace := by
    rw [notices_append, notices, notices, List.filterMap_cons_none hEvent, List.filterMap_nil,
      List.append_nil]
  obtain ⟨-, ⟨-, rfl⟩ | ⟨-, -, state, -, rfl⟩⟩ := UsbDevice.event?_cases hEvent
  · exact hNone rfl
  · exact (hNone rfl).trans (hNone rfl)

theorem post_poll_noticed (h : Responsive pan C)
    (hEvent : s.device.event? = some (.data epOut epIn epSetup, d))
    (hControl : (epOut ||| epIn ||| epSetup) &&& 1 ≠ 0 →
      Post pan (Session.pollControl epOut epIn epSetup) (fun _ _ => True) { s with device := d }) :
    Post pan Session.poll (fun r t => r = .ok true ∧ s.Noticed
      ((dataCalls epOut epIn epSetup).flatMap (toEach s.classes.length)) t) s := by
  have hSame := notices_of_event hEvent
  rw [Post, poll_of_event hEvent]
  refine (post_bind (Session.pollData epOut epIn epSetup) (fun _ => pure true) _).mpr
    ((post_pollData_noticed h hControl).mono ?_)
  rintro r t ⟨rfl, ht⟩
  exact ⟨rfl, ht.notices.trans (congrArg (· ++ _) hSame), ht.length⟩

theorem responsive_true : Responsive True C where
  poll _ := Program.yields_true _
  endpointSetup _ _ := Program.yields_true _
  endpointOut _ _ := Program.yields_true _
  endpointInComplete _ _ := Program.yields_true _

/-- Every poll that brings data makes exactly the callbacks for its events and returns true. It
panics only where a callback for an event or the handling of endpoint 0 does. -/
theorem events_noticed (hEvent : s.device.event? = some (.data epOut epIn epSetup, d)) :
    (∀ r t, Session.poll s = .done r t → r = .ok true ∧ notices t.device.control.bus.trace =
      notices s.device.control.bus.trace ++
        (dataCalls epOut epIn epSetup).flatMap (toEach s.classes.length)) ∧
    (Responsive False C →
      ((epOut ||| epIn ||| epSetup) &&& 1 ≠ 0 → ∀ reason,
        Session.pollControl epOut epIn epSetup { s with device := d } ≠ .panic reason) →
      ∃ r t, Session.poll s = .done r t) := by
  refine ⟨fun r t hPoll => ?_, fun hReturns hControl => ?_⟩
  · have hAll := post_poll_noticed responsive_true hEvent fun _ =>
      post_true_iff.mpr fun _ _ _ => trivial
    obtain ⟨hr, hNoticed⟩ := post_of_done hAll hPoll
    exact ⟨hr, hNoticed.notices⟩
  · have hAll := post_poll_noticed hReturns hEvent fun hBit => by
      unfold Post
      split
      · trivial
      · exact hControl hBit _ ‹_›
    obtain ⟨r, t, hDone, -⟩ := post_false_iff.mp hAll
    exact ⟨r, t, hDone⟩

end Poll

/-- Two classes; endpoint 2 has a SETUP event and a completion. -/
theorem events_noticed_two :
    ∃ t, Session.poll (ScriptBus.session ⟨[], [], [.data 8 6 4]⟩ [⟨⟩, ⟨⟩]) = .done (.ok true) t ∧
      notices t.device.control.bus.trace = [
        (0, .endpointInComplete ⟨0x81⟩), (1, .endpointInComplete ⟨0x81⟩),
        (0, .endpointSetup ⟨0x02⟩), (1, .endpointSetup ⟨0x02⟩),
        (0, .endpointInComplete ⟨0x82⟩), (1, .endpointInComplete ⟨0x82⟩),
        (0, .endpointOut ⟨0x03⟩), (1, .endpointOut ⟨0x03⟩),
        (0, .poll), (1, .poll)] := by
  have hReturns : Responsive False DefaultClass :=
    ⟨fun _ => trivial, fun _ _ => trivial, fun _ _ => trivial, fun _ _ => trivial⟩
  obtain ⟨hNotices, hDone⟩ :=
    events_noticed (s := ScriptBus.session ⟨[], [], [.data 8 6 4]⟩ [⟨⟩, ⟨⟩]) rfl
  obtain ⟨r, t, hPoll⟩ := hDone hReturns fun hBit => absurd (by decide) hBit
  obtain ⟨rfl, hTrace⟩ := hNotices r t hPoll
  exact ⟨t, hPoll, hTrace⟩

end UsbStack
