import UsbStack.Foundation.Program
import UsbStack.Foundation.Run

/-! # One program, two runs

A program that runs in lockstep from related states gives the same results and keeps the relation.
What a relation hides then never shows in the results of a run.
-/

namespace UsbStack.Foundation

set_option autoImplicit false

/-- The second list is the first with elements that satisfy `Pad` anywhere in between. -/
inductive Woven {α : Type} (Pad : α → Prop) : List α → List α → Prop
  | nil : Woven Pad [] []
  | keep {l l' : List α} (a : α) (h : Woven Pad l l') : Woven Pad (a :: l) (a :: l')
  | pad {l l' : List α} {a : α} (hPad : Pad a) (h : Woven Pad l l') : Woven Pad l (a :: l')

theorem woven_refl {α : Type} (Pad : α → Prop) (l : List α) : Woven Pad l l := by
  induction l with
  | nil => exact .nil
  | cons a rest ih => exact ih.keep a

theorem Woven.append {α : Type} {Pad : α → Prop} {l l' m m' : List α} (h : Woven Pad l l')
    (h' : Woven Pad m m') : Woven Pad (l ++ m) (l' ++ m') := by
  induction h with
  | nil => exact h'
  | keep a _ ih => exact ih.keep a
  | pad hPad _ ih => exact ih.pad hPad

theorem woven_none {α : Type} : Woven (fun _ : α => False) = Eq := by
  funext l l'
  refine propext ⟨fun h => ?_, fun h => h ▸ woven_refl _ l⟩
  induction h with
  | nil => rfl
  | keep a _ ih => rw [ih]
  | pad hPad _ => exact hPad.elim

namespace Exec

variable {φ ε σ τ α β : Type}

theorem Agree.and_post {R : Except ε α → σ → σ → Prop} {Q : Except ε α → σ → Prop}
    {m : Exec φ ε σ α} {s : σ} {o : Outcome φ ε σ α} (h : Agree R (m s) o) (hPost : Post True m Q s) :
    Agree (fun r t t' => R r t t' ∧ Q r t) (m s) o := by
  rw [Post] at hPost
  cases hm : m s <;> cases o <;> rw [hm] at h hPost
  · exact ⟨h.1, h.2, hPost⟩
  · exact h
  · exact h
  · exact h

theorem agree_attempt {R : Except ε α → σ → σ → Prop} {m : Exec φ ε σ α} {s s' : σ}
    (h : Agree R (m s) (m s')) :
    Agree (fun r t t' => ∃ result, r = .ok result ∧ R result t t') (attempt m s) (attempt m s') := by
  rw [attempt_apply, attempt_apply]
  cases hs : m s <;> cases hs' : m s' <;> rw [hs, hs'] at h
  · obtain ⟨rfl, hR⟩ := h
    exact ⟨rfl, _, rfl, hR⟩
  · exact h
  · exact h
  · exact h

theorem agree_zoom {T : Except ε α → τ → τ → Prop} {view : σ → τ} {put : τ → σ → σ}
    {m m' : Exec φ ε τ α} {s s' : σ} (h : Agree T (m (view s)) (m' (view s'))) :
    Agree (fun r u u' => ∃ t t', u = put t s ∧ u' = put t' s' ∧ T r t t')
      (zoom view put m s) (zoom view put m' s') := by
  rw [zoom_apply, zoom_apply]
  cases hs : m (view s) <;> cases hs' : m' (view s') <;> rw [hs, hs'] at h
  · exact ⟨h.1, _, _, rfl, rfl, h.2⟩
  · exact h
  · exact h
  · exact h

/-- The same outcome up to `Q`, which relates the values and the states, and up to `R` after an error. -/
inductive Matches (Q : α → β → σ → τ → Prop) (R : σ → τ → Prop) :
    Outcome φ ε σ α → Outcome φ ε τ β → Prop
  | ok {a : α} {b : β} {s : σ} {t : τ} (h : Q a b s t) : Matches Q R (.done (.ok a) s) (.done (.ok b) t)
  | error {e : ε} {s : σ} {t : τ} (h : R s t) : Matches Q R (.done (.error e) s) (.done (.error e) t)
  | panic {reason : φ} : Matches Q R (.panic reason) (.panic reason)

section Matches

variable {γ δ : Type} {Q : α → β → σ → τ → Prop} {R : σ → τ → Prop}

theorem Agree.matches {S : Except ε α → σ → τ → Prop} {o : Outcome φ ε σ α} {o' : Outcome φ ε τ α}
    (h : Agree S o o') (hError : ∀ e s t, S (.error e) s t → R s t) :
    Matches (fun a b s t => a = b ∧ S (.ok a) s t) R o o' := by
  cases o <;> cases o'
  · obtain ⟨rfl, hS⟩ := h
    rename_i r s t
    cases r with
    | error e => exact .error (hError e s t hS)
    | ok a => exact .ok ⟨rfl, hS⟩
  · exact h.elim
  · exact h.elim
  · cases h
    exact .panic

theorem Matches.agree {o : Outcome φ ε σ α} {o' : Outcome φ ε τ α}
    (h : Matches (fun a b s t => a = b ∧ R s t) R o o') : Agree (fun _ => R) o o' := by
  cases h with
  | ok h => exact ⟨congrArg _ h.1, h.2⟩
  | error h => exact ⟨rfl, h⟩
  | panic => rfl

theorem Matches.mono {Q' : α → β → σ → τ → Prop} {S : σ → τ → Prop} {o : Outcome φ ε σ α}
    {o' : Outcome φ ε τ β} (h : Matches Q R o o') (hQ : ∀ a b s t, Q a b s t → Q' a b s t)
    (hS : ∀ s t, R s t → S s t) : Matches Q' S o o' := by
  cases h with
  | ok h => exact .ok (hQ _ _ _ _ h)
  | error h => exact .error (hS _ _ h)
  | panic => exact .panic

theorem matches_bind {m : Exec φ ε σ α} {m' : Exec φ ε τ β} {k : α → Exec φ ε σ γ}
    {k' : β → Exec φ ε τ δ} {Q' : γ → δ → σ → τ → Prop} {s : σ} {t : τ} (h : Matches Q R (m s) (m' t))
    (hk : ∀ a b s t, Q a b s t → Matches Q' R (k a s) (k' b t)) :
    Matches Q' R ((m >>= k) s) ((m' >>= k') t) := by
  rw [bind_apply, bind_apply]
  generalize m s = o at h ⊢
  generalize m' t = o' at h ⊢
  cases h with
  | ok h => exact hk _ _ _ _ h
  | error h => exact .error h
  | panic => exact .panic

/-- One side goes on alone. -/
theorem Matches.andThen {m : Exec φ ε σ α} {m' : Exec φ ε τ β} {f : β → δ}
    {Q' : α → δ → σ → τ → Prop} {s : σ} {t : τ} (h : Matches Q R (m s) (m' t))
    (hQ : ∀ a b s t, Q a b s t → Q' a (f b) s t) :
    Matches Q' R (m s) ((m' >>= fun b => pure (f b)) t) := by
  rw [bind_apply]
  generalize m s = o at h ⊢
  generalize m' t = o' at h ⊢
  cases h with
  | ok h => exact .ok (hQ _ _ _ _ h)
  | error h => exact .error h
  | panic => exact .panic

theorem matches_zoom {σ' τ' : Type} {view : σ' → σ} {put : σ → σ' → σ'} {view' : τ' → τ}
    {put' : τ → τ' → τ'} {m : Exec φ ε σ α} {m' : Exec φ ε τ β} {s : σ'} {t : τ'}
    (h : Matches Q R (m (view s)) (m' (view' t))) :
    Matches (fun a b s' t' => ∃ u v, s' = put u s ∧ t' = put' v t ∧ Q a b u v)
      (fun s' t' => ∃ u v, s' = put u s ∧ t' = put' v t ∧ R u v)
      (zoom view put m s) (zoom view' put' m' t) := by
  rw [zoom_apply, zoom_apply]
  generalize m (view s) = o at h ⊢
  generalize m' (view' t) = o' at h ⊢
  cases h with
  | ok h => exact .ok ⟨_, _, rfl, rfl, h⟩
  | error h => exact .error ⟨_, _, rfl, rfl, h⟩
  | panic => exact .panic

end Matches

/-- From related states the program gives the same result, and related states. -/
def Lockstep (R : σ → σ → Prop) (m : Exec φ ε σ α) : Prop :=
  ∀ s s', R s s' → Agree (fun _ => R) (m s) (m s')

section Lockstep

variable {R : σ → σ → Prop}

theorem lockstep_pure (a : α) : Lockstep R (pure a : Exec φ ε σ α) := fun _ _ h => ⟨rfl, h⟩

theorem lockstep_fail (e : ε) : Lockstep R (fail e : Exec φ ε σ α) := fun _ _ h => ⟨rfl, h⟩

theorem lockstep_abort (reason : φ) : Lockstep R (abort reason : Exec φ ε σ α) := fun _ _ _ => rfl

theorem lockstep_ofOption (reason : φ) (a : Option α) :
    Lockstep R (ofOption reason a : Exec φ ε σ α) := by
  cases a with
  | none => exact lockstep_abort reason
  | some a => exact lockstep_pure a

theorem lockstep_modify {f : σ → σ} (h : ∀ s s', R s s' → R (f s) (f s')) :
    Lockstep R (modify f : Exec φ ε σ Unit) := fun s s' hR => ⟨rfl, h s s' hR⟩

theorem lockstep_bind {m : Exec φ ε σ α} {k : α → Exec φ ε σ β} (hm : Lockstep R m)
    (hk : ∀ a, Lockstep R (k a)) : Lockstep R (m >>= k) :=
  fun s s' h => agree_bind (hm s s' h) (fun a t t' ht => hk a t t' ht) fun _ _ _ ht => ht

/-- What is read of the state goes on alike on both sides. -/
theorem lockstep_get_bind {k : σ → Exec φ ε σ α} (hSame : ∀ s s', R s s' → k s = k s')
    (hk : ∀ s, Lockstep R (k s)) : Lockstep R (get >>= k) := by
  intro s s' h
  change Agree _ (k s s) (k s' s')
  rw [← hSame s s' h]
  exact hk s s s' h

theorem lockstep_ite {c : Prop} [Decidable c] {m k : Exec φ ε σ α} (hm : Lockstep R m)
    (hk : Lockstep R k) : Lockstep R (if c then m else k) := by
  split
  · exact hm
  · exact hk

theorem lockstep_when {c : Prop} [Decidable c] {m : Exec φ ε σ Unit} (hm : Lockstep R m) :
    Lockstep R (when c m) := lockstep_ite hm (lockstep_pure ())

theorem lockstep_attempt {m : Exec φ ε σ α} (hm : Lockstep R m) : Lockstep R (attempt m) := by
  intro s s' h
  apply (agree_attempt (hm s s' h)).mono
  rintro _ t t' ⟨_, -, ht⟩
  exact ht

theorem lockstep_zoom {T : τ → τ → Prop} {view : σ → τ} {put : τ → σ → σ} {m : Exec φ ε τ α}
    (hm : Lockstep T m) (hView : ∀ s s', R s s' → T (view s) (view s'))
    (hPut : ∀ s s' t t', R s s' → T t t' → R (put t s) (put t' s')) :
    Lockstep R (zoom view put m) := by
  intro s s' h
  apply (agree_zoom (hm _ _ (hView s s' h))).mono
  rintro _ _ _ ⟨t, t', rfl, rfl, ht⟩
  exact hPut s s' t t' h ht

theorem lockstep_eq (m : Exec φ ε σ α) : Lockstep Eq m := by
  rintro s _ rfl
  cases m s with
  | done r t => exact ⟨rfl, rfl⟩
  | panic reason => rfl

/-- A part of the state that is the same on both sides. -/
theorem lockstep_zoom_eq {view : σ → τ} {put : τ → σ → σ} (m : Exec φ ε τ α)
    (hView : ∀ s s', R s s' → view s = view s') (hPut : ∀ s s' t, R s s' → R (put t s) (put t s')) :
    Lockstep R (zoom view put m) := by
  refine lockstep_zoom (lockstep_eq m) hView ?_
  rintro s s' t _ h rfl
  exact hPut s s' t h

theorem lockstep_forM {γ : Type} {f : γ → Exec φ ε σ Unit} {items : List γ}
    (h : ∀ item ∈ items, Lockstep R (f item)) : Lockstep R (items.forM f) := by
  induction items with
  | nil => exact lockstep_pure ()
  | cons item rest ih =>
    exact lockstep_bind (h item List.mem_cons_self)
      fun _ => ih fun other hOther => h other (List.mem_cons_of_mem _ hOther)

end Lockstep

section Runs

variable {ι : Type} {step : ι → Exec φ ε σ α} {R : σ → σ → Prop} {view view' : σ → β} {s s' : σ}

/-- Steps in lockstep make runs that look the same. -/
theorem runs_eq (hStep : ∀ i, Lockstep R (step i)) (hView : ∀ s s', R s s' → view s = view' s')
    (h : R s s') (inputs : List ι) :
    outputs step inputs s = outputs step inputs s' ∧
      (finalState step inputs s).map view = (finalState step inputs s').map view' :=
  ⟨outputs_eq_of_agree (fun i => hStep i) h inputs,
    finalState_map_eq_of_agree (fun i => hStep i) hView h inputs⟩

/-- It is enough that the first step brings the runs together. -/
theorem runs_eq_of_first (hStep : ∀ i, Lockstep R (step i))
    (hView : ∀ s s', R s s' → view s = view' s') {i : ι}
    (h : Agree (fun _ => R) (step i s) (step i s')) (rest : List ι) :
    outputs step (i :: rest) s = outputs step (i :: rest) s' ∧
      (finalState step (i :: rest) s).map view = (finalState step (i :: rest) s').map view' := by
  rw [outputs, outputs, finalState, finalState]
  cases hs : step i s <;> cases hs' : step i s' <;> rw [hs, hs'] at h
  · obtain ⟨rfl, hR⟩ := h
    obtain ⟨hOutputs, hFinal⟩ := runs_eq hStep hView hR rest
    exact ⟨congrArg _ hOutputs, hFinal⟩
  · exact h.elim
  · exact h.elim
  · cases h
    exact ⟨rfl, rfl⟩

/-- The inputs may differ too. -/
theorem runs_rel {κ : Type} {step' : κ → Exec φ ε τ α} {S : σ → τ → Prop} {I : ι → κ → Prop}
    (hStep : ∀ i k s t, I i k → S s t → Agree (fun _ => S) (step i s) (step' k t))
    {inputs : List ι} {inputs' : List κ} (hInputs : List.Forall₂ I inputs inputs') {s : σ} {t : τ}
    (h : S s t) : outputs step inputs s = outputs step' inputs' t ∧
      Option.Rel S (finalState step inputs s) (finalState step' inputs' t) := by
  induction hInputs generalizing s t with
  | nil => exact ⟨rfl, .some h⟩
  | cons hHead hTail ih =>
    rename_i i k rest rest'
    have hFirst := hStep i k s t hHead h
    rw [outputs, outputs, finalState, finalState]
    cases hs : step i s <;> cases ht : step' k t <;> rw [hs, ht] at hFirst
    · obtain ⟨rfl, hNext⟩ := hFirst
      obtain ⟨hOutputs, hFinal⟩ := ih hNext
      exact ⟨congrArg _ hOutputs, hFinal⟩
    · exact hFirst.elim
    · exact hFirst.elim
    · cases hFirst
      exact ⟨rfl, .none⟩

end Runs

end Exec

namespace Program

variable {κ : Type} {ρ : κ → Type} {φ ε σ α : Type}

/-- Every call satisfies `P`, and after one that has failed the program returns at once. -/
def Stops (failed : (c : κ) → ρ c → Prop) (P : κ → Prop) : Program κ ρ α → Prop
  | ret _ => True
  | call c next => P c ∧ ∀ reply,
    (failed c reply → ∃ a, next reply = ret a) ∧ (¬ failed c reply → Stops failed P (next reply))
  | panic => True

/-- `R` holds while the calls succeed, and `R'` after a call that has failed. -/
theorem agree_interp_stops {failed : (c : κ) → ρ c → Prop} {P : κ → Prop} {R R' : σ → σ → Prop}
    (hWeak : ∀ s s', R s s' → R' s s') {handler : (c : κ) → Exec φ ε σ (ρ c)}
    (hCall : ∀ c s s', P c → R s s' →
      Exec.Agree (fun r t t' => ∃ reply, r = .ok reply ∧ (failed c reply → R' t t') ∧
        (¬ failed c reply → R t t')) (handler c s) (handler c s'))
    (reason : φ) {program : Program κ ρ α} (h : program.Stops failed P) {s s' : σ} (hs : R s s') :
    Exec.Agree (fun _ => R') (program.interp handler reason s) (program.interp handler reason s') := by
  induction program generalizing s s' with
  | ret a => exact ⟨rfl, hWeak _ _ hs⟩
  | call c next ih =>
    obtain ⟨hP, hNext⟩ := h
    refine Exec.agree_bind (hCall c s s' hP hs) ?_ ?_
    · rintro reply t t' ⟨_, ⟨⟩, hFailed, hDone⟩
      by_cases hReply : failed c reply
      · obtain ⟨a, ha⟩ := (hNext reply).1 hReply
        rw [ha]
        exact ⟨rfl, hFailed hReply⟩
      · exact ih reply ((hNext reply).2 hReply) (hDone hReply)
    · rintro e t t' ⟨_, ⟨⟩, -⟩
  | panic => rfl

theorem lockstep_interp {R : σ → σ → Prop} {handler : (c : κ) → Exec φ ε σ (ρ c)}
    (h : ∀ c, Exec.Lockstep R (handler c)) (reason : φ) (program : Program κ ρ α) :
    Exec.Lockstep R (program.interp handler reason) := by
  induction program with
  | ret a => exact Exec.lockstep_pure a
  | call c next ih => exact Exec.lockstep_bind (h c) ih
  | panic => exact Exec.lockstep_abort reason

end Program

end UsbStack.Foundation
