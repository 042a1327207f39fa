import UsbStack.Foundation.Exec

/-! # Programs over an interface

Code that is not part of the verified program reaches it only through an interface: it makes
calls, sees the replies and finally returns. Such code is a tree of calls, and whatever every
single call keeps, the whole tree keeps.
-/

namespace UsbStack.Foundation

set_option autoImplicit false

/-- A terminating program that makes calls `c : κ`, continues with the reply of type `ρ c`, and
returns a value or panics. -/
inductive Program (κ : Type) (ρ : κ → Type) (α : Type) : Type where
  | ret (a : α)
  | call (c : κ) (next : ρ c → Program κ ρ α)
  | panic

namespace Program

variable {κ : Type} {ρ : κ → Type} {φ ε σ α : Type}

def interp (handler : (c : κ) → Exec φ ε σ (ρ c)) (reason : φ) : Program κ ρ α → Exec φ ε σ α
  | ret a => pure a
  | call c next => handler c >>= fun reply => interp handler reason (next reply)
  | panic => Exec.abort reason

def map {β : Type} (f : α → β) : Program κ ρ α → Program κ ρ β
  | ret a => ret (f a)
  | call c next => call c fun reply => map f (next reply)
  | panic => panic

def bind {β : Type} (program : Program κ ρ α) (k : α → Program κ ρ β) : Program κ ρ β :=
  match program with
  | ret a => k a
  | call c next => call c fun reply => (next reply).bind k
  | panic => panic

instance : Monad (Program κ ρ) where
  pure := ret
  bind := bind

def perform (c : κ) : Program κ ρ (ρ c) := call c ret

theorem interp_bind {β : Type} {handler : (c : κ) → Exec φ ε σ (ρ c)} {reason : φ}
    (program : Program κ ρ α) (k : α → Program κ ρ β) (s : σ) :
    (program >>= k).interp handler reason s =
      (program.interp handler reason >>= fun a => (k a).interp handler reason) s := by
  induction program generalizing s with
  | ret a => rfl
  | call c next ih =>
    change (handler c >>= fun reply => interp handler reason (next reply >>= k)) s =
      ((handler c >>= fun reply => interp handler reason (next reply)) >>= _) s
    rw [Exec.bind_apply, Exec.bind_apply, Exec.bind_apply]
    cases handler c s with
    | panic f => rfl
    | done r t =>
      cases r with
      | error e => rfl
      | ok reply => exact (ih reply t).trans (Exec.bind_apply _ _ _)
  | panic => rfl

def Always (P : α → Prop) : Program κ ρ α → Prop
  | ret a => P a
  | call _ next => ∀ reply, Always P (next reply)
  | panic => True

/-- Whatever the replies are, the program returns a value that satisfies `P`, or panics, which it does
only if `pan` holds. -/
def Yields (pan : Prop) (P : α → Prop) : Program κ ρ α → Prop
  | ret a => P a
  | call _ next => ∀ reply, Yields pan P (next reply)
  | panic => pan

def Calls (P : κ → Prop) : Program κ ρ α → Prop
  | ret _ => True
  | call c next => P c ∧ ∀ reply, Calls P (next reply)
  | panic => True

/-- Whatever the replies are, a value that the program returns and its conversation, from which it
came, satisfy `P`. -/
def Relates (P : List ((c : κ) × ρ c) → α → Prop) : Program κ ρ α → Prop
  | ret a => P [] a
  | call c next => ∀ reply, Relates (fun heard a => P (⟨c, reply⟩ :: heard) a) (next reply)
  | panic => True

/-- The program does not panic, every call that it may make satisfies `P`, and what they cost adds up to
at most the given amount. After a call that has failed it returns at once. -/
def Spends (cost : κ → Nat) (failed : (c : κ) → ρ c → Prop) (P : κ → Prop) :
    Program κ ρ α → Nat → Prop
  | ret _, _ => True
  | call c next, n => P c ∧ cost c ≤ n ∧ ∀ reply,
    (failed c reply → ∃ a, next reply = ret a) ∧
      (¬ failed c reply → Spends cost failed P (next reply) (n - cost c))
  | panic, _ => False

theorem post_interp_always {P : α → Prop} {handler : (c : κ) → Exec φ ε σ (ρ c)} {reason : φ}
    {program : Program κ ρ α} (h : program.Always P) (s : σ) :
    Exec.Post True (program.interp handler reason) (fun r _ => ∀ a, r = .ok a → P a) s := by
  induction program generalizing s with
  | ret a =>
    rintro b ⟨⟩
    exact h
  | call c next ih =>
    rw [interp, Exec.post_bind]
    unfold Exec.Post
    cases handler c s with
    | panic reason => trivial
    | done r s' =>
      cases r with
      | ok reply => exact ih reply (h reply) s'
      | error e => rintro b ⟨⟩
  | panic => trivial

/-- What every call keeps between the state before, the conversation and the state after, a program
keeps, and its value is related to that conversation. -/
theorem post_interp_relates {J : σ → List ((c : κ) × ρ c) → σ → Prop} (hRefl : ∀ s, J s [] s)
    {handler : (c : κ) → Exec φ ε σ (ρ c)}
    (hCall : ∀ c s, Exec.Post True (handler c)
      (fun r t => ∀ reply, r = .ok reply → ∀ heard u, J t heard u → J s (⟨c, reply⟩ :: heard) u) s)
    {reason : φ} {P : List ((c : κ) × ρ c) → α → Prop} {program : Program κ ρ α}
    (h : program.Relates P) (s : σ) :
    Exec.Post True (program.interp handler reason)
      (fun r t => ∀ a, r = .ok a → ∃ heard, J s heard t ∧ P heard a) s := by
  induction program generalizing s P with
  | ret a =>
    rintro b ⟨⟩
    exact ⟨[], hRefl s, h⟩
  | call c next ih =>
    rw [interp, Exec.post_bind]
    apply (hCall c s).mono
    intro r t hHeard
    cases r with
    | error e => rintro b ⟨⟩
    | ok reply =>
      apply (ih reply (h reply) t).mono
      intro r u hNext a hValue
      obtain ⟨heard, hRest, hP⟩ := hNext a hValue
      exact ⟨⟨c, reply⟩ :: heard, hHeard reply rfl heard u hRest, hP⟩
  | panic => trivial

section Yields

variable {β : Type} {pan : Prop} {P Q : α → Prop}

theorem Yields.mono {program : Program κ ρ α} (h : program.Yields pan P) (hPQ : ∀ a, P a → Q a) :
    program.Yields pan Q := by
  induction program with
  | ret a => exact hPQ a h
  | call c next ih => exact fun reply => ih reply (h reply)
  | panic => exact h

theorem yields_true (program : Program κ ρ α) : program.Yields True fun _ => True := by
  induction program with
  | ret a => trivial
  | call c next ih => exact ih
  | panic => trivial

theorem yields_map {f : α → β} {P : β → Prop} {program : Program κ ρ α} :
    (program.map f).Yields pan P ↔ program.Yields pan fun a => P (f a) := by
  induction program with
  | ret a => exact Iff.rfl
  | call c next ih => exact forall_congr' ih
  | panic => exact Iff.rfl

theorem post_interp_yields {handler : (c : κ) → Exec φ ε σ (ρ c)}
    (hHandler : ∀ c s, Exec.Post False (handler c) (fun r _ => ∃ reply, r = .ok reply) s) {reason : φ}
    {program : Program κ ρ α} (h : program.Yields pan P) (s : σ) :
    Exec.Post pan (program.interp handler reason) (fun r _ => ∃ a, r = .ok a ∧ P a) s := by
  induction program generalizing s with
  | ret a => exact ⟨a, rfl, h⟩
  | call c next ih =>
    obtain ⟨_, t, hDone, reply, rfl⟩ := Exec.post_false_iff.mp (hHandler c s)
    rw [interp, Exec.post_bind, Exec.Post, hDone]
    exact ih reply (h reply) t
  | panic => exact h

end Yields

/-- `I used` holds while the calls succeed, and `J used` after a call that has failed. -/
theorem post_interp_spends {cost : κ → Nat} {failed : (c : κ) → ρ c → Prop} {P : κ → Prop}
    {limit : Nat} {I J : Nat → σ → Prop} (hIJ : ∀ used s, I used s → J used s)
    (hMono : ∀ used more s, J used s → J (used + more) s) {handler : (c : κ) → Exec φ ε σ (ρ c)}
    (hCall : ∀ c used s, P c → I used s → used + cost c ≤ limit →
      Exec.Post False (handler c) (fun r t => ∃ reply, r = .ok reply ∧
        (failed c reply → J (used + cost c) t) ∧ (¬ failed c reply → I (used + cost c) t)) s)
    (reason : φ) {program : Program κ ρ α} {n used : Nat} (h : program.Spends cost failed P n)
    (hRoom : used + n ≤ limit) {s : σ} (hs : I used s) :
    Exec.Post False (program.interp handler reason)
      (fun r t => (∃ a, r = .ok a) ∧ J (used + n) t) s := by
  induction program generalizing n used s with
  | ret a => exact ⟨⟨a, rfl⟩, hMono _ _ _ (hIJ _ _ hs)⟩
  | call c next ih =>
    obtain ⟨hP, hCost, hNext⟩ := h
    have hLeft : used + cost c + (n - cost c) = used + n := by omega
    rw [interp, Exec.post_bind]
    apply (hCall c used s hP hs (by omega)).mono
    rintro _ t ⟨reply, rfl, hFailed, hDone⟩
    dsimp only
    by_cases hReply : failed c reply
    · obtain ⟨a, ha⟩ := (hNext reply).1 hReply
      rw [ha, ← hLeft]
      exact ⟨⟨a, rfl⟩, hMono _ _ _ (hFailed hReply)⟩
    · rw [← hLeft]
      exact ih reply ((hNext reply).2 hReply) (by omega) (hDone hReply)
  | panic => exact h.elim

theorem within_interp {R : σ → σ → Prop} (hRefl : ∀ s, R s s)
    (hTrans : ∀ s t u, R s t → R t u → R s u) {handler : (c : κ) → Exec φ ε σ (ρ c)}
    (hHandler : ∀ c, Exec.Within R (handler c)) (reason : φ) (program : Program κ ρ α) :
    Exec.Within R (program.interp handler reason) := by
  induction program with
  | ret a => exact Exec.within_pure hRefl a
  | call c next ih => exact Exec.within_bind hTrans (hHandler c) ih
  | panic => exact fun _ => trivial

theorem unfailing_interp {handler : (c : κ) → Exec φ ε σ (ρ c)}
    (hHandler : ∀ c, Exec.Unfailing (handler c)) (reason : φ) (program : Program κ ρ α) :
    Exec.Unfailing (program.interp handler reason) := by
  induction program with
  | ret a => exact Exec.unfailing_pure a
  | call c next ih => exact Exec.unfailing_bind (hHandler c) ih
  | panic => exact fun _ => trivial

end Program

end UsbStack.Foundation
