import UsbStack.Foundation.Exec

/-! # Cells that are borrowed at run time

A cell holds a value and knows whether a borrow of it was never given back. Code that works on the
value borrows the cell for as long as it runs; a borrow of a cell that is lent panics.
-/

namespace UsbStack.Foundation

set_option autoImplicit false

open Exec

structure Cell (τ : Type) where
  value : τ
  lent : Bool

namespace Cell

variable {φ ε τ α : Type} {pan : Prop} {reason : φ} {c : Cell τ}

def new (value : τ) : Cell τ := ⟨value, false⟩

/-- Runs `m` on the value under a borrow that ends with it. -/
def borrow (reason : φ) (m : Exec φ ε τ α) : Exec φ ε (Cell τ) α := fun c =>
  if c.lent then .panic reason
  else zoom Cell.value (fun value c => { c with value := value }) m c

/-- A borrow that never ends. -/
def keep (reason : φ) : Exec φ ε (Cell τ) τ := fun c =>
  if c.lent then .panic reason else .done (.ok c.value) { c with lent := true }

theorem borrow_of_lent (h : c.lent = true) (m : Exec φ ε τ α) : borrow reason m c = .panic reason :=
  if_pos h

theorem borrow_of_free (h : c.lent = false) (m : Exec φ ε τ α) :
    borrow reason m c = zoom Cell.value (fun value c => { c with value := value }) m c :=
  if_neg (by rw [h]; decide)

theorem keep_of_lent (h : c.lent = true) : (keep reason : Exec φ ε (Cell τ) τ) c = .panic reason :=
  if_pos h

theorem keep_of_free (h : c.lent = false) :
    (keep reason : Exec φ ε (Cell τ) τ) c = .done (.ok c.value) { c with lent := true } :=
  if_neg (by rw [h]; decide)

theorem post_borrow {m : Exec φ ε τ α} {Q : Except ε α → Cell τ → Prop} (hLent : c.lent = true → pan)
    (hFree : c.lent = false → Post pan m (fun r value => Q r ⟨value, false⟩) c.value) :
    Post pan (borrow reason m) Q c := by
  cases h : c.lent with
  | true =>
    rw [Post, borrow_of_lent h]
    exact hLent h
  | false =>
    rw [Post, borrow_of_free h]
    have hZoom : Post pan m (fun r value => Q r { c with value := value }) c.value →
        Post pan (zoom Cell.value (fun value c => { c with value := value }) m) Q c :=
      (post_zoom Cell.value (fun value c => { c with value := value }) m Q).mpr
    rw [h] at hZoom
    exact hZoom (hFree h)

theorem post_keep {Q : Except ε τ → Cell τ → Prop} (hLent : c.lent = true → pan)
    (hFree : c.lent = false → Q (.ok c.value) ⟨c.value, true⟩) :
    Post pan (keep reason : Exec φ ε (Cell τ) τ) Q c := by
  cases h : c.lent with
  | true =>
    rw [Post, keep_of_lent h]
    exact hLent h
  | false =>
    rw [Post, keep_of_free h]
    exact hFree h

end Cell

end UsbStack.Foundation
