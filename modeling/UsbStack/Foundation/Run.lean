import UsbStack.Foundation.Exec

/-! # Runs

A run feeds a list of inputs to a step, one after the other. A step that ends in an error is
followed by the next one, as the caller of a fallible method goes on; a panic ends the run.
-/

namespace UsbStack.Foundation

set_option autoImplicit false

open Exec

variable {φ ε σ τ ι α : Type}

inductive Reaches (step : ι → Exec φ ε σ α) (start : σ) : σ → Prop
  | refl : Reaches step start start
  | step {s s' : σ} {r : Except ε α} (i : ι) (h : Reaches step start s)
      (hStep : step i s = .done r s') : Reaches step start s'

/-- What the caller sees of a run: the result of every step, up to a panic. -/
def outputs (step : ι → Exec φ ε σ α) : List ι → σ → List (Except φ (Except ε α))
  | [], _ => []
  | i :: rest, s =>
    match step i s with
    | .done r s' => .ok r :: outputs step rest s'
    | .panic f => [.error f]

def results (step : ι → Exec φ ε σ α) : List ι → σ → List (Except ε α)
  | [], _ => []
  | i :: rest, s =>
    match step i s with
    | .done r s' => r :: results step rest s'
    | .panic _ => []

def finalState (step : ι → Exec φ ε σ α) : List ι → σ → Option σ
  | [], s => some s
  | i :: rest, s =>
    match step i s with
    | .done _ s' => finalState step rest s'
    | .panic _ => none

/-- `C` holds at each step of the run, of the input and the state it is fed to. -/
def Along (step : ι → Exec φ ε σ α) (C : ι → σ → Prop) : List ι → σ → Prop
  | [], _ => True
  | i :: rest, s => C i s ∧ ∀ r s', step i s = .done r s' → Along step C rest s'

/-- `P` holds at the start and in each state that the run passes. -/
def Throughout (step : ι → Exec φ ε σ α) (P : σ → Prop) : List ι → σ → Prop
  | [], s => P s
  | i :: rest, s => P s ∧ ∀ r s', step i s = .done r s' → Throughout step P rest s'

/-- `P` holds of each step of the run: of the input and the states before and after it. -/
def Stepwise (step : ι → Exec φ ε σ α) (P : ι → σ → σ → Prop) : List ι → σ → Prop
  | [], _ => True
  | i :: rest, s => ∀ r s', step i s = .done r s' → P i s s' ∧ Stepwise step P rest s'

section Cons

variable {step : ι → Exec φ ε σ α} {i : ι} {s s' : σ} {r : Except ε α}

theorem outputs_cons (h : step i s = .done r s') (rest : List ι) :
    outputs step (i :: rest) s = .ok r :: outputs step rest s' := by
  rw [outputs, h]

theorem finalState_cons (h : step i s = .done r s') (rest : List ι) :
    finalState step (i :: rest) s = finalState step rest s' := by
  rw [finalState, h]

theorem along_cons {C : ι → σ → Prop} {rest : List ι} (hC : C i s) (h : step i s = .done r s')
    (hRest : Along step C rest s') : Along step C (i :: rest) s := by
  refine ⟨hC, fun r' t hDone => ?_⟩
  rw [h] at hDone
  cases hDone
  exact hRest

theorem along_iff_of_done {C : ι → σ → Prop} {rest : List ι} (h : step i s = .done r s') :
    C i s ∧ Along step C rest s' ↔ Along step C (i :: rest) s :=
  ⟨fun hBoth => along_cons hBoth.1 h hBoth.2, fun hAlong => ⟨hAlong.1, hAlong.2 r s' h⟩⟩

theorem along_iff_of_panic {C : ι → σ → Prop} {rest : List ι} {f : φ} (h : step i s = .panic f) :
    C i s ↔ Along step C (i :: rest) s := by
  refine ⟨fun hC => ⟨hC, fun r t hDone => ?_⟩, fun hAlong => hAlong.1⟩
  rw [h] at hDone
  cases hDone

end Cons

instance decidableAlong (step : ι → Exec φ ε σ α) (C : ι → σ → Prop) [∀ i s, Decidable (C i s)] :
    (inputs : List ι) → (s : σ) → Decidable (Along step C inputs s)
  | [], _ => isTrue trivial
  | i :: rest, s =>
    match h : step i s with
    | .done _ s' =>
      have := decidableAlong step C rest s'
      decidable_of_iff _ (along_iff_of_done h)
    | .panic _ => decidable_of_iff _ (along_iff_of_panic h)

theorem Along.mono {step : ι → Exec φ ε σ α} {C C' : ι → σ → Prop} (hC : ∀ i s, C i s → C' i s)
    {inputs : List ι} {s : σ} (h : Along step C inputs s) : Along step C' inputs s := by
  induction inputs generalizing s with
  | nil => trivial
  | cons i rest ih => exact ⟨hC i s h.1, fun r s' hStep => ih (h.2 r s' hStep)⟩

theorem Throughout.mono {step : ι → Exec φ ε σ α} {P Q : σ → Prop} (hPQ : ∀ s, P s → Q s)
    {inputs : List ι} {s : σ} (h : Throughout step P inputs s) : Throughout step Q inputs s := by
  induction inputs generalizing s with
  | nil => exact hPQ s h
  | cons i rest ih => exact ⟨hPQ s h.1, fun r s' hStep => ih (h.2 r s' hStep)⟩

theorem along_of_forall {step : ι → Exec φ ε σ α} {C : ι → Prop} {inputs : List ι}
    (h : ∀ i ∈ inputs, C i) (s : σ) : Along step (fun i _ => C i) inputs s := by
  induction inputs generalizing s with
  | nil => trivial
  | cons i rest ih =>
    constructor
    · exact h i List.mem_cons_self
    · intro r t hStep
      exact ih (fun j hj => h j (List.mem_cons_of_mem _ hj)) t

theorem Along.and {step : ι → Exec φ ε σ α} {C C' : ι → σ → Prop} {inputs : List ι} {s : σ}
    (h : Along step C inputs s) (h' : Along step C' inputs s) :
    Along step (fun i t => C i t ∧ C' i t) inputs s := by
  induction inputs generalizing s with
  | nil => trivial
  | cons i rest ih => exact ⟨⟨h.1, h'.1⟩, fun r t hStep => ih (h.2 r t hStep) (h'.2 r t hStep)⟩

/-- An invariant that every step keeps under a condition holds throughout every run whose steps
all meet the condition. -/
theorem throughout_of_along {step : ι → Exec φ ε σ α} {C : ι → σ → Prop} {I : σ → Prop}
    (hStep : ∀ i s, I s → C i s → Post True (step i) (fun _ s' => I s') s)
    {inputs : List ι} {s : σ} (hI : I s) (hC : Along step C inputs s) :
    Throughout step I inputs s := by
  induction inputs generalizing s with
  | nil => exact hI
  | cons i rest ih =>
    refine ⟨hI, fun r s' h => ih ?_ (hC.2 r s' h)⟩
    exact post_of_done (hStep i s hI hC.1) h

/-- No step of a run panics whose inputs all sustain the invariant. -/
theorem finalState_of_sustains {step : ι → Exec φ ε σ α} {C : ι → Prop} {I : σ → Prop}
    (hStep : ∀ i, C i → Sustains I (step i)) {inputs : List ι} (hInputs : ∀ i ∈ inputs, C i)
    {s : σ} (hI : I s) : ∃ t, finalState step inputs s = some t ∧ I t := by
  induction inputs generalizing s with
  | nil => exact ⟨s, rfl, hI⟩
  | cons i rest ih =>
    obtain ⟨r, s', hDone, hI'⟩ := post_false_iff.mp (hStep i (hInputs i List.mem_cons_self) s hI)
    rw [finalState_cons hDone]
    exact ih (fun j hj => hInputs j (List.mem_cons_of_mem _ hj)) hI'

theorem stepwise_of_along {step : ι → Exec φ ε σ α} {C : ι → σ → Prop} {I : σ → Prop}
    {P : ι → σ → σ → Prop}
    (hStep : ∀ i s, I s → C i s → Post True (step i) (fun _ s' => I s' ∧ P i s s') s)
    {inputs : List ι} {s : σ} (hI : I s) (hC : Along step C inputs s) :
    Stepwise step P inputs s := by
  induction inputs generalizing s with
  | nil => trivial
  | cons i rest ih =>
    intro r s' h
    obtain ⟨hI', hP⟩ := post_of_done (hStep i s hI hC.1) h
    exact ⟨hP, ih hI' (hC.2 r s' h)⟩

theorem Stepwise.last {step : ι → Exec φ ε σ α} {P : ι → σ → σ → Prop} {before : List ι} {i : ι}
    {s mid t : σ} (h : Stepwise step P (before ++ [i]) s)
    (hMid : finalState step before s = some mid) (ht : (step i mid).state? = some t) :
    P i mid t := by
  induction before generalizing s with
  | nil =>
    cases hMid
    cases hStep : step i mid with
    | done r t' =>
      rw [hStep] at ht
      cases ht
      exact (h _ _ hStep).1
    | panic f =>
      rw [hStep] at ht
      cases ht
  | cons j rest ih =>
    rw [finalState] at hMid
    split at hMid
    · exact ih (h _ _ ‹_›).2 hMid
    · cases hMid

theorem Throughout.finalState {step : ι → Exec φ ε σ α} {P : σ → Prop} {inputs : List ι} {s t : σ}
    (h : Throughout step P inputs s) (ht : finalState step inputs s = some t) : P t := by
  induction inputs generalizing s with
  | nil =>
    cases ht
    exact h
  | cons i rest ih =>
    rw [Foundation.finalState] at ht
    split at ht
    · exact ih (h.2 _ _ ‹_›) ht
    · cases ht

theorem forall_mem_outputs {step : ι → Exec φ ε σ α} {C : ι → Prop} {I : σ → Prop}
    {P : Except ε α → Prop}
    (hStep : ∀ i s, C i → I s → Post True (step i) (fun r s' => I s' ∧ P r) s)
    {inputs : List ι} (hInputs : ∀ i ∈ inputs, C i) {s : σ} (hI : I s) {r : Except ε α}
    (hr : .ok r ∈ outputs step inputs s) : P r := by
  induction inputs generalizing s with
  | nil => cases hr
  | cons i rest ih =>
    rw [outputs] at hr
    split at hr
    · rename_i r' s' hDone
      obtain ⟨hI', hP⟩ := post_of_done (hStep i s (hInputs i List.mem_cons_self) hI) hDone
      rcases List.mem_cons.mp hr with hr | hr
      · cases hr
        exact hP
      · exact ih (fun j hj => hInputs j (List.mem_cons_of_mem _ hj)) hI' hr
    · rcases List.mem_singleton.mp hr with ⟨⟩

/-- What each step keeps between the state before, its result and the state after, a run keeps up to
its last return. -/
theorem relates_results (step : ι → Exec φ ε σ α) {I : σ → Prop} {J : σ → List (Except ε α) → Prop}
    (hNil : ∀ s, I s → J s [])
    (hStep : ∀ i s, I s → Post True (step i) (fun r s' => I s' ∧ ∀ rs, J s' rs → J s (r :: rs)) s)
    (inputs : List ι) {s : σ} (hI : I s) : J s (results step inputs s) := by
  induction inputs generalizing s with
  | nil => exact hNil s hI
  | cons i rest ih =>
    rw [results]
    split
    · rename_i r s' hDone
      obtain ⟨hI', hJ⟩ := post_of_done (hStep i s hI) hDone
      exact hJ _ (ih hI')
    · exact hNil s hI

theorem Reaches.invariant {step : ι → Exec φ ε σ α} {I : σ → Prop} {start s : σ}
    (h : Reaches step start s) (hStart : I start)
    (hStep : ∀ i s, I s → Post True (step i) (fun _ s' => I s') s) : I s := by
  induction h with
  | refl => exact hStart
  | step i _ hDone ih => exact post_of_done (hStep i _ ih) hDone

theorem Reaches.trans {step : ι → Exec φ ε σ α} {s t u : σ} (h : Reaches step s t)
    (h' : Reaches step t u) : Reaches step s u := by
  induction h' with
  | refl => exact h
  | step i _ hNext ih => exact .step i ih hNext

theorem Reaches.head {step : ι → Exec φ ε σ α} {i : ι} {r : Except ε α} {s mid t : σ}
    (hStep : step i s = .done r mid) (h : Reaches step mid t) : Reaches step s t :=
  Reaches.trans (.step i .refl hStep) h

theorem reaches_of_finalState {step : ι → Exec φ ε σ α} {inputs : List ι} {start s : σ}
    (h : finalState step inputs start = some s) : Reaches step start s := by
  induction inputs generalizing start with
  | nil =>
    cases h
    exact .refl
  | cons i rest ih =>
    rw [finalState] at h
    split at h
    · rename_i r mid hStep
      exact .head hStep (ih h)
    · cases h

/-- If related states answer every input alike and stay related, the two runs look the same. -/
theorem outputs_eq_of_agree {step : ι → Exec φ ε σ α} {step' : ι → Exec φ ε τ α}
    {R : σ → τ → Prop}
    (hStep : ∀ i s s', R s s' → Agree (fun _ => R) (step i s) (step' i s'))
    {s : σ} {s' : τ} (hR : R s s') (inputs : List ι) :
    outputs step inputs s = outputs step' inputs s' := by
  induction inputs generalizing s s' with
  | nil => rfl
  | cons i rest ih =>
    have h := hStep i s s' hR
    rw [outputs, outputs]
    cases hs : step i s <;> cases hs' : step' i s' <;> rw [hs, hs'] at h
    · obtain ⟨rfl, hR'⟩ := h
      exact congrArg _ (ih hR')
    · exact h.elim
    · exact h.elim
    · cases h
      rfl

theorem finalState_map_eq_of_agree {β : Type} {step : ι → Exec φ ε σ α} {step' : ι → Exec φ ε τ α}
    {R : σ → τ → Prop} {view : σ → β} {view' : τ → β}
    (hStep : ∀ i s s', R s s' → Agree (fun _ => R) (step i s) (step' i s'))
    (hView : ∀ s s', R s s' → view s = view' s')
    {s : σ} {s' : τ} (hR : R s s') (inputs : List ι) :
    (finalState step inputs s).map view = (finalState step' inputs s').map view' := by
  induction inputs generalizing s s' with
  | nil => exact congrArg some (hView s s' hR)
  | cons i rest ih =>
    have h := hStep i s s' hR
    rw [finalState, finalState]
    cases hs : step i s <;> cases hs' : step' i s' <;> rw [hs, hs'] at h
    · exact ih h.2
    · exact h.elim
    · exact h.elim
    · rfl

section Skips

variable {κ : Type} {step : ι → Exec φ ε σ α} {step' : κ → Exec φ ε τ α} {erase : ι → Option κ}
  {C : ι → σ → Prop} {R : σ → τ → Prop}

/-- A skipped input adds nothing to what is seen of a run, so that both runs look the same. -/
theorem filterMap_outputs_of_skips {β : Type} {see : Except φ (Except ε α) → Option β}
    (hStep : ∀ i k s s', erase i = some k → C i s → R s s' →
      Agree (fun _ => R) (step i s) (step' k s'))
    (hSkip : ∀ i s s', erase i = none → C i s → R s s' →
      ∃ r t, step i s = .done r t ∧ see (.ok r) = none ∧ R t s')
    {inputs : List ι} {s : σ} {s' : τ} (hC : Along step C inputs s) (hR : R s s') :
    (outputs step inputs s).filterMap see =
      (outputs step' (inputs.filterMap erase) s').filterMap see := by
  induction inputs generalizing s s' with
  | nil => rfl
  | cons i rest ih =>
    cases hErase : erase i with
    | none =>
      obtain ⟨r, t, hDone, hSee, hRt⟩ := hSkip i s s' hErase hC.1 hR
      rw [outputs_cons hDone, List.filterMap_cons_none hSee, List.filterMap_cons_none hErase]
      exact ih (hC.2 r t hDone) hRt
    | some k =>
      rw [List.filterMap_cons_some hErase, outputs, outputs]
      have h := hStep i k s s' hErase hC.1 hR
      cases hs : step i s <;> cases hs' : step' k s' <;> rw [hs, hs'] at h
      · obtain ⟨rfl, hRt⟩ := h
        rw [List.filterMap_cons, List.filterMap_cons, ih (hC.2 _ _ hs) hRt]
      · exact h.elim
      · exact h.elim
      · cases h
        rfl

theorem rel_mono {R' : σ → τ → Prop} (hR : ∀ s s', R s s' → R' s s') {o : Option σ} {o' : Option τ}
    (h : Option.Rel R o o') : Option.Rel R' o o' := by
  cases h with
  | some h => exact .some (hR _ _ h)
  | none => exact .none

theorem rel_finalState_of_skips
    (hStep : ∀ i k s s', erase i = some k → C i s → R s s' →
      Agree (fun _ => R) (step i s) (step' k s'))
    (hSkip : ∀ i s s', erase i = none → C i s → R s s' →
      ∃ r t, step i s = .done r t ∧ R t s')
    {inputs : List ι} {s : σ} {s' : τ} (hC : Along step C inputs s) (hR : R s s') :
    Option.Rel R (finalState step inputs s) (finalState step' (inputs.filterMap erase) s') := by
  induction inputs generalizing s s' with
  | nil => exact .some hR
  | cons i rest ih =>
    cases hErase : erase i with
    | none =>
      obtain ⟨r, t, hDone, hRt⟩ := hSkip i s s' hErase hC.1 hR
      rw [finalState_cons hDone, List.filterMap_cons_none hErase]
      exact ih (hC.2 r t hDone) hRt
    | some k =>
      rw [List.filterMap_cons_some hErase, finalState, finalState]
      have h := hStep i k s s' hErase hC.1 hR
      cases hs : step i s <;> cases hs' : step' k s' <;> rw [hs, hs'] at h
      · exact ih (hC.2 _ _ hs) h.2
      · exact h.elim
      · exact h.elim
      · exact .none

end Skips

end UsbStack.Foundation
