import UsbStack.Foundation.Labelled

/-! # Scripts

An abstract machine follows a script. What it asks for on the way are the labels of a run of the
program, and what it puts out is what the run adds to its record.
-/

namespace UsbStack.Foundation

set_option autoImplicit false

variable {κ ξ τ ω : Type}

/-- What a machine that moves by `next` gives while it follows the script from `a`. -/
def collect (give : κ → ξ → List τ) (next : κ → ξ → κ) : κ → List ξ → List τ
  | _, [] => []
  | a, x :: rest => give a x ++ collect give next (next a x) rest

variable {φ ε σ ι α : Type} {step : ι → Exec φ ε σ α} {Due : ι → σ → Prop} {label : ι → Option τ}
  {R : κ → List ω → σ → Prop} {asks : κ → ξ → List τ} {shows : κ → ξ → List ω} {next : κ → ξ → κ}
  {script : List ξ}

theorem Leads.weaken {Q Q' Q'' : σ → Prop} {labels : List τ} (h : Leads step Due label Q labels Q')
    (hQ : ∀ s, Q' s → Q'' s) : Leads step Due label Q labels Q'' := by
  intro inputs s hs hDue hLabels
  obtain ⟨s', hEnd, hQ'⟩ := h inputs s hs hDue hLabels
  exact ⟨s', hEnd, hQ s' hQ'⟩

/-- When each entry of a script is followed then so is the script. -/
theorem leads_script (hUnmoved : ∀ a record, Unmoved step Due label (R a record))
    (h : ∀ x ∈ script, ∀ a record, Leads step Due label (R a record) (asks a x)
      (R (next a x) (record ++ shows a x))) (a : κ) (record : List ω) :
    Leads step Due label (R a record) (collect asks next a script)
      (R (script.foldl next a) (record ++ collect shows next a script)) := by
  induction script generalizing a record with
  | nil =>
    rw [collect, collect, List.append_nil]
    exact leads_nil (hUnmoved a record)
  | cons x rest ih =>
    have hRest := ih (fun y hy => h y (List.mem_cons_of_mem _ hy)) (next a x) (record ++ shows a x)
    rw [List.append_assoc] at hRest
    exact (h x List.mem_cons_self a record).append hRest

end UsbStack.Foundation
