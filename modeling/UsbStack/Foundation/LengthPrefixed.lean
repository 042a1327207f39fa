import Mathlib.Data.List.Basic
import Mathlib.Tactic.Common

/-! # Records that begin with their length

A sequence of records is read back by going from each record to the next by the size that its
first element gives. The reader and the concatenation of records are inverse to each other.
-/

namespace UsbStack.Foundation

set_option autoImplicit false

variable {α : Type}

/-- The reader, for at most `fuel` records. It stops at the end, and fails at a record that it
cannot leave or that the input does not hold. -/
def walkFrom (size : α → Nat) : Nat → List α → Option (List (List α))
  | _, [] => some []
  | 0, _ :: _ => none
  | fuel + 1, a :: rest =>
    if 0 < size a ∧ size a ≤ (a :: rest).length then
      (walkFrom size fuel ((a :: rest).drop (size a))).map ((a :: rest).take (size a) :: ·)
    else none

def walk (size : α → Nat) (input : List α) : Option (List (List α)) :=
  walkFrom size input.length input

def Sized (size : α → Nat) (record : List α) : Prop :=
  ∃ a rest, record = a :: rest ∧ size a = record.length

variable {size : α → Nat}

theorem Sized.length_pos {record : List α} (h : Sized size record) : 0 < record.length := by
  obtain ⟨a, rest, rfl, -⟩ := h
  exact Nat.zero_lt_succ _

theorem walkFrom_append {record : List α} (h : Sized size record) (fuel : Nat) (rest : List α) :
    walkFrom size (fuel + 1) (record ++ rest) = (walkFrom size fuel rest).map (record :: ·) := by
  obtain ⟨a, tail, rfl, hSize⟩ := h
  have hBounds : 0 < size a ∧ size a ≤ (a :: (tail ++ rest)).length := by
    rw [hSize, List.length_cons, List.length_cons, List.length_append]
    omega
  rw [List.cons_append, walkFrom, if_pos hBounds, hSize, ← List.cons_append, List.take_left,
    List.drop_left]

theorem walkFrom_flatten {records : List (List α)} (h : ∀ record ∈ records, Sized size record)
    {fuel : Nat} (hFuel : records.flatten.length ≤ fuel) :
    walkFrom size fuel records.flatten = some records := by
  induction records generalizing fuel with
  | nil =>
    rw [List.flatten_nil]
    cases fuel <;> rfl
  | cons record rest ih =>
    have hRecord : Sized size record := h record List.mem_cons_self
    have hPos := hRecord.length_pos
    rw [List.flatten_cons, List.length_append] at hFuel
    obtain ⟨fuel, rfl⟩ : ∃ k, fuel = k + 1 := ⟨fuel - 1, by omega⟩
    rw [List.flatten_cons, walkFrom_append hRecord,
      ih (fun other hOther => h other (List.mem_cons_of_mem _ hOther)) (by omega), Option.map_some]

theorem walk_flatten {records : List (List α)} (h : ∀ record ∈ records, Sized size record) :
    walk size records.flatten = some records := walkFrom_flatten h (Nat.le_refl _)

theorem of_walkFrom_eq_some {fuel : Nat} {input : List α} {records : List (List α)}
    (h : walkFrom size fuel input = some records) :
    input = records.flatten ∧ ∀ record ∈ records, Sized size record := by
  induction fuel generalizing input records with
  | zero =>
    cases input with
    | nil =>
      cases h
      exact ⟨rfl, by simp⟩
    | cons a rest => cases h
  | succ fuel ih =>
    cases input with
    | nil =>
      cases h
      exact ⟨rfl, by simp⟩
    | cons a rest =>
      rw [walkFrom] at h
      split at h
      · rename_i hBounds
        obtain ⟨later, hLater, rfl⟩ := Option.map_eq_some_iff.mp h
        obtain ⟨hFlatten, hSized⟩ := ih hLater
        have hLength : ((a :: rest).take (size a)).length = size a := by
          rw [List.length_take, Nat.min_eq_left hBounds.2]
        constructor
        · rw [List.flatten_cons, ← hFlatten, List.take_append_drop]
        · intro record hRecord
          rcases List.mem_cons.mp hRecord with rfl | hOther
          · refine ⟨a, rest.take (size a - 1), ?_, hLength.symm⟩
            rw [List.take_cons hBounds.1]
          · exact hSized record hOther
      · cases h

variable {β : Type} {decode : List α → Option β}

def readRecords (size : α → Nat) (decode : List α → Option β) (input : List α) :
    Option (List β) := (walk size input).bind fun records => records.mapM decode

theorem readRecords_flatMap {γ : Type} {encode : γ → List α} {expected : γ → β} {items : List γ}
    (hSized : ∀ item ∈ items, Sized size (encode item))
    (hDecode : ∀ item ∈ items, decode (encode item) = some (expected item)) :
    readRecords size decode (items.flatMap encode) = some (items.map expected) := by
  have hWalk : walk size (items.flatMap encode) = some (items.map encode) := by
    rw [List.flatMap_def]
    apply walk_flatten
    intro record hRecord
    obtain ⟨item, hItem, rfl⟩ := List.mem_map.mp hRecord
    exact hSized item hItem
  rw [readRecords, hWalk, Option.bind_some]
  clear hSized hWalk
  induction items with
  | nil => rfl
  | cons item rest ih =>
    have hRest := ih fun other hOther => hDecode other (List.mem_cons_of_mem _ hOther)
    rw [List.map_cons, List.mapM_cons, hDecode item List.mem_cons_self, hRest]
    rfl

theorem exists_of_mem_readRecords {input : List α} {found : List β} {b : β}
    (h : readRecords size decode input = some found) (hMem : b ∈ found) :
    ∃ record, Sized size record ∧ decode record = some b := by
  obtain ⟨records, hWalk, hDecoded⟩ := Option.bind_eq_some_iff.mp h
  obtain ⟨-, hSized⟩ := of_walkFrom_eq_some hWalk
  clear h hWalk
  induction records generalizing found with
  | nil =>
    cases hDecoded
    cases hMem
  | cons record rest ih =>
    rw [List.mapM_cons] at hDecoded
    obtain ⟨first, hFirst, hDecoded⟩ := Option.bind_eq_some_iff.mp hDecoded
    obtain ⟨later, hLater, hEq⟩ := Option.bind_eq_some_iff.mp hDecoded
    cases hEq
    rcases List.mem_cons.mp hMem with rfl | hRest
    · exact ⟨record, hSized record List.mem_cons_self, hFirst⟩
    · exact ih hRest hLater fun other hOther => hSized other (List.mem_cons_of_mem _ hOther)

end UsbStack.Foundation
