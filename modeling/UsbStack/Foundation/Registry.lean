import Mathlib.Data.List.Basic
import Mathlib.Logic.Function.Basic

/-! # Registries

A registry is a list of partial maps, each of which is defined at the keys that it owns. A key is
looked up in the first map that owns it.
-/

namespace UsbStack.Foundation

set_option autoImplicit false

abbrev Registry (K V : Type) := List (K → Option V)

namespace Registry

variable {K V : Type} {maps : Registry K V} {f : K → Option V} {k k' : K} {v : V}

def lookup (maps : Registry K V) (k : K) : Option V := maps.findSome? fun f => f k

def Apart (maps : Registry K V) : Prop := maps.Pairwise fun f g => ∀ k, f k = none ∨ g k = none

theorem lookup_cons (f : K → Option V) (maps : Registry K V) (k : K) :
    lookup (f :: maps) k = (f k).or (lookup maps k) := by
  rw [lookup, List.findSome?_cons]
  cases f k <;> rfl

theorem lookup_eq_none_iff : lookup maps k = none ↔ ∀ f ∈ maps, f k = none :=
  List.findSome?_eq_none_iff

theorem Apart.lookup_tail (h : Apart (f :: maps)) (hOwner : (f k).isSome) : lookup maps k = none := by
  refine lookup_eq_none_iff.mpr fun g hg => ?_
  rcases List.rel_of_pairwise_cons h hg k with hNone | hNone
  · rw [hNone] at hOwner
    cases hOwner
  · exact hNone

/-- What one map says is what the registry says, wherever the map stands. -/
theorem Apart.lookup_of_mem (h : Apart maps) (hf : f ∈ maps) (hOwner : f k = some v) :
    lookup maps k = some v := by
  induction maps with
  | nil => cases hf
  | cons g rest ih =>
    rw [lookup_cons]
    rcases List.mem_cons.mp hf with rfl | hRest
    · rw [hOwner, Option.some_or]
    · rcases List.rel_of_pairwise_cons h hRest k with hNone | hNone
      · rw [hNone, Option.none_or]
        exact ih (List.Pairwise.of_cons h) hRest
      · rw [hNone] at hOwner
        cases hOwner

variable [DecidableEq K]

def set (k : K) (v : V) (f : K → Option V) : K → Option V :=
  Function.update f k ((f k).map fun _ => v)

theorem set_same (k : K) (v : V) (f : K → Option V) : set k v f k = (f k).map fun _ => v :=
  Function.update_self _ _ _

theorem set_of_ne (h : k' ≠ k) (v : V) (f : K → Option V) : set k v f k' = f k' :=
  Function.update_of_ne h _ _

theorem set_of_none (h : f k = none) (v : V) : set k v f = f := by
  rw [set, h, Option.map_none, ← h]
  exact Function.update_eq_self k f

theorem set_eq_none_iff : set k v f k' = none ↔ f k' = none := by
  by_cases hSame : k' = k
  · subst hSame
    rw [set_same, Option.map_eq_none_iff]
  · rw [set_of_ne hSame]

def assign (k : K) (v : V) (maps : Registry K V) : Registry K V := maps.map (set k v)

theorem assign_of_none (h : lookup maps k = none) (v : V) : assign k v maps = maps := by
  have hSame : ∀ f ∈ maps, set k v f = f := fun f hf => set_of_none (lookup_eq_none_iff.mp h f hf) v
  exact (List.map_congr_left hSame).trans (List.map_id' maps)

theorem lookup_assign (k : K) (v : V) (maps : Registry K V) :
    lookup (assign k v maps) = set k v (lookup maps) := by
  induction maps with
  | nil => exact (set_of_none rfl v).symm
  | cons f rest ih =>
    funext k'
    rw [assign, List.map_cons, lookup_cons, ← assign, ih]
    by_cases hSame : k' = k
    · subst hSame
      rw [set_same, set_same, set_same, lookup_cons]
      cases f k' <;> rfl
    · rw [set_of_ne hSame, set_of_ne hSame, set_of_ne hSame, lookup_cons]

theorem Apart.assign (h : Apart maps) (k : K) (v : V) : Apart (assign k v maps) := by
  refine List.pairwise_map.mpr (h.imp fun hApart k' => ?_)
  exact (hApart k').imp set_eq_none_iff.mpr set_eq_none_iff.mpr

theorem map_assign_of_ne (h : k' ≠ k) (v : V) (maps : Registry K V) :
    (assign k v maps).map (· k') = maps.map (· k') := by
  rw [assign, List.map_map]
  exact List.map_congr_left fun f _ => set_of_ne h v f

end Registry

end UsbStack.Foundation
