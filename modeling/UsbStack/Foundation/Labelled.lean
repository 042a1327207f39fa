import UsbStack.Foundation.Run

/-! # Runs whose inputs carry labels

An input that carries no label leaves the state as the statement sees it. A run is described by the
labels that its inputs carry in order, and descriptions are put together one behind the other.
-/

namespace UsbStack.Foundation

set_option autoImplicit false

open Exec

variable {φ ε σ ι α τ : Type} {step : ι → Exec φ ε σ α} {Due : ι → σ → Prop} {label : ι → Option τ}

theorem finalState_append {first second : List ι} {s mid : σ}
    (h : finalState step first s = some mid) :
    finalState step (first ++ second) s = finalState step second mid := by
  induction first generalizing s with
  | nil =>
    cases h
    rfl
  | cons i rest ih =>
    rw [finalState] at h
    split at h
    · rename_i r s' hStep
      rw [List.cons_append, finalState_cons hStep, ih h]
    · cases h

theorem Along.left {first second : List ι} {s : σ} (h : Along step Due (first ++ second) s) :
    Along step Due first s := by
  induction first generalizing s with
  | nil => trivial
  | cons i rest ih => exact ⟨h.1, fun r s' hStep => ih (h.2 r s' hStep)⟩

theorem Along.right {first second : List ι} {s mid : σ} (h : Along step Due (first ++ second) s)
    (hMid : finalState step first s = some mid) : Along step Due second mid := by
  induction first generalizing s with
  | nil =>
    cases hMid
    exact h
  | cons i rest ih =>
    rw [finalState] at hMid
    split at hMid
    · rename_i r s' hStep
      exact ih (h.2 r s' hStep) hMid
    · cases hMid

variable (step Due label) in
/-- From every state with `Q`, a run of due inputs that carry `labels` does not panic, and it ends in
a state with `Q'`. -/
def Leads (Q : σ → Prop) (labels : List τ) (Q' : σ → Prop) : Prop :=
  ∀ inputs s, Q s → Along step Due inputs s → inputs.filterMap label = labels →
    ∃ s', finalState step inputs s = some s' ∧ Q' s'

variable (step Due label) in
def Unmoved (Q : σ → Prop) : Prop :=
  ∀ i s, label i = none → Due i s → Q s → Post False (step i) (fun _ s' => Q s') s

variable {Q Q' Q'' : σ → Prop} {labels more : List τ}

theorem leads_nil (hQ : Unmoved step Due label Q) : Leads step Due label Q [] Q := by
  intro inputs s hs hDue hLabels
  induction inputs generalizing s with
  | nil => exact ⟨s, rfl, hs⟩
  | cons i rest ih =>
    obtain ⟨hLabel, hRest⟩ : label i = none ∧ rest.filterMap label = [] := by
      cases h : label i with
      | none =>
        rw [List.filterMap_cons_none h] at hLabels
        exact ⟨rfl, hLabels⟩
      | some l =>
        rw [List.filterMap_cons_some h] at hLabels
        cases hLabels
    obtain ⟨r, mid, hStep, hMid⟩ := post_false_iff.mp (hQ i s hLabel hDue.1 hs)
    rw [finalState_cons hStep]
    exact ih mid hMid (hDue.2 r mid hStep) hRest

theorem Leads.append (h : Leads step Due label Q labels Q') (h' : Leads step Due label Q' more Q'') :
    Leads step Due label Q (labels ++ more) Q'' := by
  intro inputs s hs hDue hLabels
  obtain ⟨first, second, rfl, hFirst, hSecond⟩ := List.filterMap_eq_append_iff.mp hLabels
  obtain ⟨mid, hMid, hQ'⟩ := h first s hs hDue.left hFirst
  obtain ⟨s', hEnd, hQ''⟩ := h' second mid hQ' (hDue.right hMid) hSecond
  exact ⟨s', (finalState_append hMid).trans hEnd, hQ''⟩

theorem leads_single {l : τ} (hQ : Unmoved step Due label Q) (hQ' : Unmoved step Due label Q')
    (hStep : ∀ i s, label i = some l → Due i s → Q s → Post False (step i) (fun _ s' => Q' s') s) :
    Leads step Due label Q [l] Q' := by
  intro inputs s hs hDue hLabels
  obtain ⟨before, i, after, rfl, hBefore, hLabel, hAfter⟩ := List.filterMap_eq_cons_iff.mp hLabels
  have hSilent : before.filterMap label = [] := List.filterMap_eq_nil_iff.mpr hBefore
  obtain ⟨mid, hMid, hs'⟩ := leads_nil hQ before s hs hDue.left hSilent
  have hRest := hDue.right hMid
  obtain ⟨r, next, hNext, hq⟩ := post_false_iff.mp (hStep i mid hLabel hRest.1 hs')
  obtain ⟨s', hEnd, hQ''⟩ := leads_nil hQ' after next hq (hRest.2 r next hNext) hAfter
  refine ⟨s', ?_, hQ''⟩
  rw [finalState_append hMid, finalState_cons hNext, hEnd]

theorem Leads.cons {l : τ} (h : Leads step Due label Q [l] Q')
    (h' : Leads step Due label Q' labels Q'') : Leads step Due label Q (l :: labels) Q'' :=
  h.append h'

end UsbStack.Foundation
