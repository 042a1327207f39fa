import Mathlib.Tactic.Common

/-! # Histories

A rule about a history says what each of its entries may be, given the entries before it.
-/

namespace UsbStack.Foundation

set_option autoImplicit false

variable {τ : Type} {P : List τ → τ → Prop} {history more : List τ} {entry : τ}

/-- Every entry satisfies `P` with the entries before it. -/
def Causal (P : List τ → τ → Prop) (history : List τ) : Prop :=
  ∀ before entry after, history = before ++ entry :: after → P before entry

theorem causal_nil : Causal P [] := fun before _ _ hSplit =>
  absurd (congrArg List.length hSplit) (by simp)

theorem Causal.snoc (h : Causal P history) (hEntry : P history entry) :
    Causal P (history ++ [entry]) := by
  intro before other after hSplit
  rcases List.eq_nil_or_concat after with rfl | ⟨rest, last, rfl⟩
  · obtain ⟨rfl, hLast⟩ := List.append_inj' hSplit rfl
    obtain rfl := List.singleton_inj.mp hLast
    exact hEntry
  · have hInit : history ++ [entry] = (before ++ other :: rest) ++ [last] := by
      rw [hSplit, List.concat_eq_append, List.append_assoc, List.cons_append]
    exact h before other rest (List.append_inj' hInit rfl).1

/-- Entries that satisfy `P` after any others may follow. -/
theorem Causal.append (h : Causal P history) (hMore : ∀ entry ∈ more, ∀ before, P before entry) :
    Causal P (history ++ more) := by
  induction more generalizing history with
  | nil =>
    rw [List.append_nil]
    exact h
  | cons entry rest ih =>
    rw [List.append_cons]
    refine ih (h.snoc (hMore entry List.mem_cons_self history)) fun other hOther => ?_
    exact hMore other (List.mem_cons_of_mem _ hOther)

end UsbStack.Foundation
