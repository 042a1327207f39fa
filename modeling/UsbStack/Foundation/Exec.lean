import Mathlib.Tactic.Common

/-! # Stateful code that returns, fails or panics

A piece of code reads and changes a state and ends in one of three ways: it returns a value,
it returns an error, or it panics. An error keeps the state reached so far, as a Rust method on
`&mut self` does; a panic leaves no state. `do` blocks propagate errors as the `?` operator does.
The rules below compute a postcondition through such a block, relate two runs of one block, and
bound what a block may change.
-/

namespace UsbStack.Foundation

set_option autoImplicit false

inductive Outcome (φ ε σ α : Type) where
  | done (result : Except ε α) (state : σ)
  | panic (reason : φ)

def Outcome.value? {φ ε σ α : Type} : Outcome φ ε σ α → Option α
  | .done (.ok a) _ => some a
  | _ => none

def Outcome.state? {φ ε σ α : Type} : Outcome φ ε σ α → Option σ
  | .done _ s => some s
  | .panic _ => none

def Outcome.error? {φ ε σ α : Type} : Outcome φ ε σ α → Option ε
  | .done (.error e) _ => some e
  | _ => none

theorem Outcome.eq_done {φ ε σ α : Type} {o : Outcome φ ε σ α} {a : α} {s : σ}
    (hValue : o.value? = some a) (hState : o.state? = some s) : o = .done (.ok a) s := by
  cases o with
  | panic reason => cases hState
  | done r s' =>
    cases hState
    cases r with
    | error e => cases hValue
    | ok a' =>
      cases hValue
      rfl

theorem Outcome.exists_done {φ ε σ α : Type} {o : Outcome φ ε σ α} {s : σ}
    (hState : o.state? = some s) : ∃ r, o = .done r s := by
  cases o with
  | panic reason => cases hState
  | done r s' =>
    cases hState
    exact ⟨r, rfl⟩

theorem Outcome.exists_ok {φ ε σ α : Type} {o : Outcome φ ε σ α} {a : α}
    (hValue : o.value? = some a) : ∃ s, o = .done (.ok a) s := by
  cases o with
  | panic reason => cases hValue
  | done r s =>
    cases r with
    | error e => cases hValue
    | ok a' =>
      cases hValue
      exact ⟨s, rfl⟩

theorem Outcome.exists_error {φ ε σ α : Type} {o : Outcome φ ε σ α} {e : ε}
    (hError : o.error? = some e) : ∃ s, o = .done (.error e) s := by
  cases o with
  | panic reason => cases hError
  | done r s =>
    cases r with
    | ok a => cases hError
    | error e' =>
      cases hError
      exact ⟨s, rfl⟩

def Exec (φ ε σ α : Type) : Type := σ → Outcome φ ε σ α

namespace Exec

variable {φ ε σ τ α β : Type}

def bind (m : Exec φ ε σ α) (k : α → Exec φ ε σ β) : Exec φ ε σ β := fun s =>
  match m s with
  | .done (.ok a) s' => k a s'
  | .done (.error e) s' => .done (.error e) s'
  | .panic f => .panic f

instance : Monad (Exec φ ε σ) where
  pure a := fun s => .done (.ok a) s
  bind := bind

def get : Exec φ ε σ σ := fun s => .done (.ok s) s

def set (s : σ) : Exec φ ε σ Unit := fun _ => .done (.ok ()) s

def modify (f : σ → σ) : Exec φ ε σ Unit := fun s => .done (.ok ()) (f s)

def fail (e : ε) : Exec φ ε σ α := fun s => .done (.error e) s

def abort (f : φ) : Exec φ ε σ α := fun _ => .panic f

/-- Runs `m` and hands its result over as a value: a `match` on a `Result` instead of `?`. -/
def attempt (m : Exec φ ε σ α) : Exec φ ε σ (Except ε α) := fun s =>
  match m s with
  | .done r s' => .done (.ok r) s'
  | .panic f => .panic f

def ofExcept (r : Except ε α) : Exec φ ε σ α := fun s => .done r s

/-- The value of an `Option`, or a panic. -/
def ofOption (reason : φ) : Option α → Exec φ ε σ α
  | some a => pure a
  | none => abort reason

def when (c : Prop) [Decidable c] (m : Exec φ ε σ Unit) : Exec φ ε σ Unit :=
  if c then m else pure ()

def zoom (view : σ → τ) (put : τ → σ → σ) (m : Exec φ ε τ α) : Exec φ ε σ α := fun s =>
  match m (view s) with
  | .done r t => .done r (put t s)
  | .panic f => .panic f

def mapPanic {φ' : Type} (f : φ → φ') (m : Exec φ ε σ α) : Exec φ' ε σ α := fun s =>
  match m s with
  | .done r s' => .done r s'
  | .panic reason => .panic (f reason)

section Apply

variable (s : σ)

@[simp] theorem pure_apply (a : α) : (pure a : Exec φ ε σ α) s = .done (.ok a) s := rfl

theorem bind_apply (m : Exec φ ε σ α) (k : α → Exec φ ε σ β) :
    (m >>= k) s = match m s with
      | .done (.ok a) s' => k a s'
      | .done (.error e) s' => .done (.error e) s'
      | .panic f => .panic f := rfl

@[simp] theorem get_apply : (get : Exec φ ε σ σ) s = .done (.ok s) s := rfl

@[simp] theorem set_apply (s' : σ) : (set s' : Exec φ ε σ Unit) s = .done (.ok ()) s' := rfl

@[simp] theorem modify_apply (f : σ → σ) : (modify f : Exec φ ε σ Unit) s = .done (.ok ()) (f s) := rfl

@[simp] theorem fail_apply (e : ε) : (fail e : Exec φ ε σ α) s = .done (.error e) s := rfl

@[simp] theorem abort_apply (f : φ) : (abort f : Exec φ ε σ α) s = .panic f := rfl

@[simp] theorem ofExcept_apply (r : Except ε α) : (ofExcept r : Exec φ ε σ α) s = .done r s := rfl

@[simp] theorem ofOption_some (f : φ) (a : α) :
    (ofOption f (some a) : Exec φ ε σ α) = pure a := rfl

@[simp] theorem ofOption_none (f : φ) : (ofOption f none : Exec φ ε σ α) = abort f := rfl

theorem attempt_apply (m : Exec φ ε σ α) :
    attempt m s = match m s with
      | .done r s' => .done (.ok r) s'
      | .panic f => .panic f := rfl

theorem zoom_apply (view : σ → τ) (put : τ → σ → σ) (m : Exec φ ε τ α) :
    zoom view put m s = match m (view s) with
      | .done r t => .done r (put t s)
      | .panic f => .panic f := rfl

theorem mapPanic_apply {φ' : Type} (f : φ → φ') (m : Exec φ ε σ α) :
    mapPanic f m s = match m s with
      | .done r s' => .done r s'
      | .panic reason => .panic (f reason) := rfl

theorem when_of_true {c : Prop} [Decidable c] (h : c) (m : Exec φ ε σ Unit) : when c m = m :=
  if_pos h

theorem when_of_false {c : Prop} [Decidable c] (h : ¬ c) (m : Exec φ ε σ Unit) :
    when c m = pure () := if_neg h

theorem bind_of_ok {m : Exec φ ε σ α} {k : α → Exec φ ε σ β} {s s' : σ} {a : α}
    (h : m s = .done (.ok a) s') : (m >>= k) s = k a s' := by
  rw [bind_apply, h]

theorem bind_of_error {m : Exec φ ε σ α} {k : α → Exec φ ε σ β} {s s' : σ} {e : ε}
    (h : m s = .done (.error e) s') : (m >>= k) s = .done (.error e) s' := by
  rw [bind_apply, h]

theorem bind_of_panic {m : Exec φ ε σ α} {k : α → Exec φ ε σ β} {s : σ} {f : φ}
    (h : m s = .panic f) : (m >>= k) s = .panic f := by
  rw [bind_apply, h]

theorem of_bind_ok {m : Exec φ ε σ α} {k : α → Exec φ ε σ β} {s s' : σ} {b : β}
    (h : (m >>= k) s = .done (.ok b) s') :
    ∃ a t, m s = .done (.ok a) t ∧ k a t = .done (.ok b) s' := by
  rw [bind_apply] at h
  cases hm : m s with
  | panic f =>
    rw [hm] at h
    cases h
  | done r t =>
    rw [hm] at h
    cases r with
    | error e => cases h
    | ok a => exact ⟨a, t, rfl, h⟩

theorem of_bind_panic {m : Exec φ ε σ α} {k : α → Exec φ ε σ β} {s : σ} {f : φ}
    (h : (m >>= k) s = .panic f) :
    m s = .panic f ∨ ∃ a t, m s = .done (.ok a) t ∧ k a t = .panic f := by
  rw [bind_apply] at h
  cases hm : m s with
  | panic f' =>
    rw [hm] at h
    cases h
    exact .inl rfl
  | done r t =>
    rw [hm] at h
    cases r with
    | error e => cases h
    | ok a => exact .inr ⟨a, t, rfl, h⟩

theorem of_attempt_panic {m : Exec φ ε σ α} {s : σ} {f : φ} (h : attempt m s = .panic f) :
    m s = .panic f := by
  rw [attempt_apply] at h
  cases hm : m s with
  | panic f' =>
    rw [hm] at h
    cases h
    rfl
  | done r t =>
    rw [hm] at h
    cases h

theorem of_attempt_ok {m : Exec φ ε σ α} {s s' : σ} {r : Except ε α}
    (h : attempt m s = .done (.ok r) s') : m s = .done r s' := by
  rw [attempt_apply] at h
  cases hm : m s with
  | panic f =>
    rw [hm] at h
    cases h
  | done r' t =>
    rw [hm] at h
    cases h
    rfl

theorem attempt_of_panic {m : Exec φ ε σ α} {s : σ} {f : φ} (h : m s = .panic f) :
    attempt m s = .panic f := by
  rw [attempt_apply, h]

theorem attempt_of_done {m : Exec φ ε σ α} {s s' : σ} {r : Except ε α}
    (h : m s = .done r s') : attempt m s = .done (.ok r) s' := by
  rw [attempt_apply, h]

end Apply

/-- From `s`, `m` ends in a result and a state that satisfy `Q`; if it may panic then `pan` holds.
`pan := False` is total correctness, `pan := True` speaks only of the runs that return. -/
def Post (pan : Prop) (m : Exec φ ε σ α) (Q : Except ε α → σ → Prop) (s : σ) : Prop :=
  match m s with
  | .done r s' => Q r s'
  | .panic _ => pan

section Post

variable {pan : Prop} {s : σ}

theorem post_of_done {m : Exec φ ε σ α} {Q : Except ε α → σ → Prop} {r : Except ε α} {s' : σ}
    (h : Post pan m Q s) (hm : m s = .done r s') : Q r s' := by
  simpa only [Post, hm] using h

theorem post_true_iff {m : Exec φ ε σ α} {Q : Except ε α → σ → Prop} :
    Post True m Q s ↔ ∀ r s', m s = .done r s' → Q r s' := by
  constructor
  · intro h r s' hm
    exact post_of_done h hm
  · intro h
    unfold Post
    split
    · exact h _ _ ‹_›
    · trivial

theorem post_false_iff {m : Exec φ ε σ α} {Q : Except ε α → σ → Prop} :
    Post False m Q s ↔ ∃ r s', m s = .done r s' ∧ Q r s' := by
  unfold Post
  cases h : m s with
  | done r s' => simp
  | panic f => simp

theorem Post.mono {m : Exec φ ε σ α} {P Q : Except ε α → σ → Prop} (h : Post pan m P s)
    (hPQ : ∀ r s', P r s' → Q r s') : Post pan m Q s := by
  unfold Post at h ⊢
  split
  · rename_i r s' hm
    rw [hm] at h
    exact hPQ _ _ h
  · rename_i f hm
    rwa [hm] at h

theorem Post.and {m : Exec φ ε σ α} {P Q : Except ε α → σ → Prop} (hP : Post pan m P s)
    (hQ : Post pan m Q s) : Post pan m (fun r s' => P r s' ∧ Q r s') s := by
  unfold Post at hP hQ ⊢
  split
  · rename_i r s' hm
    rw [hm] at hP hQ
    exact ⟨hP, hQ⟩
  · rename_i f hm
    rwa [hm] at hP

theorem Post.and_true {m : Exec φ ε σ α} {P Q : Except ε α → σ → Prop} (hP : Post pan m P s)
    (hQ : Post True m Q s) : Post pan m (fun r s' => P r s' ∧ Q r s') s := by
  unfold Post at hP hQ ⊢
  split
  · rename_i r s' hm
    rw [hm] at hP hQ
    exact ⟨hP, hQ⟩
  · rename_i f hm
    rwa [hm] at hP

@[simp] theorem post_pure (a : α) (Q : Except ε α → σ → Prop) :
    Post pan (pure a : Exec φ ε σ α) Q s ↔ Q (.ok a) s := Iff.rfl

@[simp] theorem post_bind (m : Exec φ ε σ α) (k : α → Exec φ ε σ β) (Q : Except ε β → σ → Prop) :
    Post pan (m >>= k) Q s ↔
      Post pan m (fun r s' => match r with
        | .ok a => Post pan (k a) Q s'
        | .error e => Q (.error e) s') s := by
  unfold Post
  rw [bind_apply]
  cases m s with
  | done r s' => cases r <;> rfl
  | panic f => rfl

/-- An error that ends a block keeps what the block has reached. -/
theorem post_then {m : Exec φ ε σ α} {k : α → Exec φ ε σ β} {P : σ → Prop}
    (hm : Post pan m (fun _ t => P t) s) (hk : ∀ a t, P t → Post pan (k a) (fun _ u => P u) t) :
    Post pan (m >>= k) (fun _ t => P t) s := by
  rw [post_bind]
  apply hm.mono
  intro r t ht
  cases r with
  | ok a => exact hk a t ht
  | error e => exact ht

@[simp] theorem post_get (Q : Except ε σ → σ → Prop) :
    Post pan (get : Exec φ ε σ σ) Q s ↔ Q (.ok s) s := Iff.rfl

@[simp] theorem post_set (s' : σ) (Q : Except ε Unit → σ → Prop) :
    Post pan (set s' : Exec φ ε σ Unit) Q s ↔ Q (.ok ()) s' := Iff.rfl

@[simp] theorem post_modify (f : σ → σ) (Q : Except ε Unit → σ → Prop) :
    Post pan (modify f : Exec φ ε σ Unit) Q s ↔ Q (.ok ()) (f s) := Iff.rfl

@[simp] theorem post_fail (e : ε) (Q : Except ε α → σ → Prop) :
    Post pan (fail e : Exec φ ε σ α) Q s ↔ Q (.error e) s := Iff.rfl

@[simp] theorem post_abort (f : φ) (Q : Except ε α → σ → Prop) :
    Post pan (abort f : Exec φ ε σ α) Q s ↔ pan := Iff.rfl

@[simp] theorem post_ofExcept (r : Except ε α) (Q : Except ε α → σ → Prop) :
    Post pan (ofExcept r : Exec φ ε σ α) Q s ↔ Q r s := Iff.rfl

@[simp] theorem post_attempt (m : Exec φ ε σ α) (Q : Except ε (Except ε α) → σ → Prop) :
    Post pan (attempt m) Q s ↔ Post pan m (fun r s' => Q (.ok r) s') s := by
  unfold Post
  rw [attempt_apply]
  cases m s <;> rfl

theorem post_when {c : Prop} [Decidable c] {m : Exec φ ε σ Unit}
    {Q : Except ε Unit → σ → Prop} (hTrue : c → Post pan m Q s) (hFalse : ¬ c → Q (.ok ()) s) :
    Post pan (when c m) Q s := by
  by_cases h : c
  · rw [when_of_true h]
    exact hTrue h
  · rw [when_of_false h]
    exact hFalse h

@[simp] theorem post_zoom (view : σ → τ) (put : τ → σ → σ) (m : Exec φ ε τ α)
    (Q : Except ε α → σ → Prop) :
    Post pan (zoom view put m) Q s ↔ Post pan m (fun r t => Q r (put t s)) (view s) := by
  unfold Post
  rw [zoom_apply]
  cases m (view s) <;> rfl

@[simp] theorem post_mapPanic {φ' : Type} (f : φ → φ') (m : Exec φ ε σ α)
    (Q : Except ε α → σ → Prop) : Post pan (mapPanic f m) Q s ↔ Post pan m Q s := by
  unfold Post
  rw [mapPanic_apply]
  cases m s <;> rfl

end Post

def OnOk {ε α : Type} (P : α → Prop) : Except ε α → Prop
  | .ok a => P a
  | .error _ => True

/-- Every run of `m` that returns relates the state before to the state after by `R`. -/
def Within (R : σ → σ → Prop) (m : Exec φ ε σ α) : Prop :=
  ∀ s, Post True m (fun _ s' => R s s') s

section Within

variable {R : σ → σ → Prop}

theorem Within.of_done {m : Exec φ ε σ α} (h : Within R m) {s s' : σ} {r : Except ε α}
    (hm : m s = .done r s') : R s s' := post_of_done (h s) hm

theorem Within.mono {R' : σ → σ → Prop} {m : Exec φ ε σ α} (h : Within R m)
    (hR : ∀ s s', R s s' → R' s s') : Within R' m :=
  fun s => (h s).mono fun _ s' => hR s s'

theorem within_pure (hRefl : ∀ s, R s s) (a : α) : Within R (pure a : Exec φ ε σ α) := hRefl

theorem within_bind (hTrans : ∀ s t u, R s t → R t u → R s u) {m : Exec φ ε σ α}
    {k : α → Exec φ ε σ β} (hm : Within R m) (hk : ∀ a, Within R (k a)) : Within R (m >>= k) := by
  intro s
  rw [post_bind]
  apply (hm s).mono
  intro r s' h
  cases r with
  | ok a => exact (hk a s').mono fun _ s'' h' => hTrans _ _ _ h h'
  | error e => exact h

theorem within_get (hRefl : ∀ s, R s s) : Within R (get : Exec φ ε σ σ) := hRefl

theorem within_modify {f : σ → σ} (h : ∀ s, R s (f s)) : Within R (modify f : Exec φ ε σ Unit) := h

theorem within_fail (hRefl : ∀ s, R s s) (e : ε) : Within R (fail e : Exec φ ε σ α) := hRefl

theorem within_abort (reason : φ) : Within R (abort reason : Exec φ ε σ α) := fun _ => trivial

theorem within_ofExcept (hRefl : ∀ s, R s s) (r : Except ε α) :
    Within R (ofExcept r : Exec φ ε σ α) := hRefl

theorem within_ofOption (hRefl : ∀ s, R s s) (reason : φ) (a : Option α) :
    Within R (ofOption reason a : Exec φ ε σ α) := by
  cases a with
  | none => exact within_abort reason
  | some a => exact within_pure hRefl a

theorem within_ite {c : Prop} [Decidable c] {m k : Exec φ ε σ α} (hm : Within R m)
    (hk : Within R k) : Within R (if c then m else k) := by
  split
  · exact hm
  · exact hk

theorem within_when (hRefl : ∀ s, R s s) {c : Prop} [Decidable c] {m : Exec φ ε σ Unit}
    (hm : Within R m) : Within R (when c m) := within_ite hm (within_pure hRefl _)

theorem within_attempt {m : Exec φ ε σ α} (hm : Within R m) : Within R (attempt m) := by
  intro s
  rw [post_attempt]
  exact hm s

theorem within_zoom {view : σ → τ} {put : τ → σ → σ} {T : τ → τ → Prop} {m : Exec φ ε τ α}
    (hm : Within T m) (h : ∀ s t, T (view s) t → R s (put t s)) : Within R (zoom view put m) := by
  intro s
  rw [post_zoom]
  exact (hm (view s)).mono fun _ t => h s t

end Within

def Carries (I : σ → Prop) (s s' : σ) : Prop := I s → I s'

theorem carries_refl {I : σ → Prop} (s : σ) : Carries I s s := id

theorem carries_trans {I : σ → Prop} (s t u : σ) (h : Carries I s t) (h' : Carries I t u) :
    Carries I s u := fun hs => h' (h hs)

theorem within_carries {I : σ → Prop} {m : Exec φ ε σ α}
    (h : ∀ s r s', m s = .done r s' → I s → I s') : Within (Carries I) m :=
  fun s => post_true_iff.mpr fun r s' hDone => h s r s' hDone

def Sustains (I : σ → Prop) (m : Exec φ ε σ α) : Prop := ∀ s, I s → Post False m (fun _ s' => I s') s

section Sustains

variable {I : σ → Prop}

theorem sustains_pure (a : α) : Sustains I (pure a : Exec φ ε σ α) := fun _ h => h

theorem sustains_modify {f : σ → σ} (h : ∀ s, I s → I (f s)) :
    Sustains I (modify f : Exec φ ε σ Unit) := h

theorem sustains_bind {m : Exec φ ε σ α} {k : α → Exec φ ε σ β} (hm : Sustains I m)
    (hk : ∀ a, Sustains I (k a)) : Sustains I (m >>= k) :=
  fun s hs => post_then (hm s hs) fun a t ht => hk a t ht

/-- The state that is read satisfies the invariant as well. -/
theorem sustains_get_bind {k : σ → Exec φ ε σ α} (hk : ∀ s, I s → Sustains I (k s)) :
    Sustains I (get >>= k) := by
  intro s hs
  rw [post_bind, post_get]
  exact hk s hs s hs

theorem sustains_ite {c : Prop} [Decidable c] {m k : Exec φ ε σ α} (hm : Sustains I m)
    (hk : Sustains I k) : Sustains I (if c then m else k) := by
  split
  · exact hm
  · exact hk

theorem sustains_when {c : Prop} [Decidable c] {m : Exec φ ε σ Unit} (hm : Sustains I m) :
    Sustains I (when c m) := sustains_ite hm (sustains_pure ())

theorem sustains_attempt {m : Exec φ ε σ α} (hm : Sustains I m) : Sustains I (attempt m) := by
  intro s hs
  rw [post_attempt]
  exact hm s hs

theorem sustains_zoom {J : τ → Prop} {view : σ → τ} {put : τ → σ → σ} {m : Exec φ ε τ α}
    (hm : Sustains J m) (hView : ∀ s, I s → J (view s)) (hPut : ∀ s t, I s → J t → I (put t s)) :
    Sustains I (zoom view put m) := by
  intro s hs
  rw [post_zoom]
  exact (hm (view s) (hView s hs)).mono fun _ t ht => hPut s t hs ht

end Sustains

def Unfailing (m : Exec φ ε σ α) : Prop := ∀ s, Post True m (fun r _ => ∃ a, r = .ok a) s

section Unfailing

theorem unfailing_pure (a : α) : Unfailing (pure a : Exec φ ε σ α) := fun _ => ⟨a, rfl⟩

theorem unfailing_get : Unfailing (get : Exec φ ε σ σ) := fun s => ⟨s, rfl⟩

theorem unfailing_modify (f : σ → σ) : Unfailing (modify f : Exec φ ε σ Unit) := fun _ => ⟨(), rfl⟩

theorem unfailing_attempt (m : Exec φ ε σ α) : Unfailing (attempt m) := by
  intro s
  rw [post_attempt, post_true_iff]
  exact fun r _ _ => ⟨r, rfl⟩

theorem unfailing_ofOption (reason : φ) (a : Option α) :
    Unfailing (ofOption reason a : Exec φ ε σ α) := by
  cases a with
  | none => exact fun _ => trivial
  | some a => exact unfailing_pure a

theorem unfailing_zoom {view : σ → τ} {put : τ → σ → σ} {m : Exec φ ε τ α} (hm : Unfailing m) :
    Unfailing (zoom view put m) := by
  intro s
  rw [post_zoom]
  exact hm (view s)

theorem unfailing_bind {m : Exec φ ε σ α} {k : α → Exec φ ε σ β} (hm : Unfailing m)
    (hk : ∀ a, Unfailing (k a)) : Unfailing (m >>= k) := by
  intro s
  rw [post_bind]
  apply (hm s).mono
  rintro _ s' ⟨a, rfl⟩
  exact hk a s'

theorem Unfailing.of_bind {m : Exec φ ε σ α} {k : α → Exec φ ε σ β} (hm : Unfailing m) {s s' : σ}
    {r : Except ε β} (h : (m >>= k) s = .done r s') :
    ∃ a t, m s = .done (.ok a) t ∧ k a t = .done r s' := by
  rw [bind_apply] at h
  cases hRun : m s with
  | panic f =>
    rw [hRun] at h
    cases h
  | done r' t =>
    obtain ⟨a, rfl⟩ := post_of_done (hm s) hRun
    rw [hRun] at h
    exact ⟨a, t, rfl, h⟩

end Unfailing

/-- Both runs panic for the same reason, or both return the same result in states related by `R`. -/
def Agree {υ : Type} (R : Except ε α → σ → υ → Prop) : Outcome φ ε σ α → Outcome φ ε υ α → Prop
  | .done r s, .done r' s' => r = r' ∧ R r s s'
  | .panic f, .panic f' => f = f'
  | _, _ => False

section Agree

variable {υ : Type}

theorem Agree.mono {R R' : Except ε α → σ → υ → Prop} {o : Outcome φ ε σ α} {o' : Outcome φ ε υ α}
    (h : Agree R o o') (hR : ∀ r s s', R r s s' → R' r s s') : Agree R' o o' := by
  cases o <;> cases o'
  · exact ⟨h.1, hR _ _ _ h.2⟩
  · exact h
  · exact h
  · exact h

theorem agree_bind {R : Except ε α → σ → υ → Prop} {R' : Except ε β → σ → υ → Prop}
    {m : Exec φ ε σ α} {m' : Exec φ ε υ α} {k : α → Exec φ ε σ β} {k' : α → Exec φ ε υ β}
    {s : σ} {s' : υ} (h : Agree R (m s) (m' s'))
    (hOk : ∀ a t t', R (.ok a) t t' → Agree R' (k a t) (k' a t'))
    (hError : ∀ e t t', R (.error e) t t' → R' (.error e) t t') :
    Agree R' ((m >>= k) s) ((m' >>= k') s') := by
  rw [bind_apply, bind_apply]
  cases hm : m s <;> cases hm' : m' s' <;> rw [hm, hm'] at h
  · rename_i r t r' t'
    obtain ⟨rfl, hR⟩ := h
    cases r with
    | ok a => exact hOk a _ _ hR
    | error e => exact ⟨rfl, hError e _ _ hR⟩
  · exact h.elim
  · exact h.elim
  · exact h

end Agree

end Exec

end UsbStack.Foundation
