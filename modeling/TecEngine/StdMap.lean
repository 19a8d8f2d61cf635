import Mathlib.Data.List.Basic
import Mathlib.Order.Lattice

/-!
# `std::map` and the engine's multitons

The engine keeps its per-entity state in ordered maps: the physics system's `bodies`
(`std::map<eid, btRigidBody*>`) and the component stores `Multiton<eid, T*>` of
`multiton.hpp`, which wrap a `std::map` and which `Update` and `UpdateRenderList` iterate in
key order. A map is modelled by the list of its entries in key order; `set` keeps that order
(`pairwise_set`), so a loop over the list is the loop over the map. The keys are entity ids or
addresses, natural numbers, unless a map says otherwise.

## Main definitions

* `StdMap.find`, `StdMap.set`, `StdMap.erase`: `find`, the assignment `m[k] = v`, `erase`
* `StdMap.subscript`: the read `m[k]`, which inserts a default value at an absent key

## Main results

* `find_set_self`, `find_set_of_ne`, `find_erase_self`, `find_erase_of_ne`: lookups after an
  update
* `mem_set`, `mem_erase`: the entries after an update
-/

namespace TecEngine

/-- An entity id (`eid`). -/
abbrev Eid := Nat

/-- A `std::map` from keys `κ` (entity ids unless given) to `α`, as the list of its entries in
key order. -/
abbrev StdMap (α : Type) (κ : Type := Nat) := List (κ × α)

namespace StdMap

variable {α κ : Type} [LinearOrder κ]

/-- `m.find(k)`: the value stored at `k`. -/
def find (k : κ) : StdMap α κ → Option α
  | [] => none
  | (k', v) :: m => if k' = k then some v else find k m

/-- `m[k] = v`: overwrite the entry at `k`, or insert one in key order. -/
def set (k : κ) (v : α) : StdMap α κ → StdMap α κ
  | [] => [(k, v)]
  | (k', v') :: m =>
    if k < k' then (k, v) :: (k', v') :: m
    else if k = k' then (k, v) :: m
    else (k', v') :: set k v m

/-- `m.erase(k)`. -/
def erase (k : κ) (m : StdMap α κ) : StdMap α κ :=
  m.filter fun p => p.1 != k

/-- The read `m[k]` of `operator[]`: the value at `k`, after inserting `d` there when `k` is
absent. -/
def subscript (k : κ) (d : α) (m : StdMap α κ) : α × StdMap α κ :=
  match find k m with
  | some v => (v, m)
  | none => (d, set k d m)

@[simp] theorem find_nil (k : κ) : find k ([] : StdMap α κ) = none := rfl

theorem find_set_self (k : κ) (v : α) (m : StdMap α κ) : find k (set k v m) = some v := by
  induction m with
  | nil => simp [set, find]
  | cons p m ih =>
    obtain ⟨k', v'⟩ := p
    by_cases hlt : k < k'
    · simp [set, find, hlt]
    · by_cases heq : k = k' <;> simp [set, find, hlt, heq, ih, Ne.symm]

theorem find_set_of_ne {k k' : κ} (h : k' ≠ k) (v : α) (m : StdMap α κ) :
    find k' (set k v m) = find k' m := by
  induction m with
  | nil => simp [set, find, Ne.symm h]
  | cons p m ih =>
    obtain ⟨k'', v'⟩ := p
    by_cases hlt : k < k''
    · simp [set, find, hlt, Ne.symm h]
    · by_cases heq : k = k''
      · subst heq; simp [set, find, Ne.symm h]
      · simp [set, find, hlt, heq, ih]

theorem find_erase_self (k : κ) (m : StdMap α κ) : find k (erase k m) = none := by
  induction m with
  | nil => rfl
  | cons p m ih =>
    by_cases hp : p.1 = k <;> simp_all [erase, List.filter_cons, find]

theorem find_erase_of_ne {k k' : κ} (h : k' ≠ k) (m : StdMap α κ) :
    find k' (erase k m) = find k' m := by
  induction m with
  | nil => rfl
  | cons p m ih =>
    obtain ⟨k'', v⟩ := p
    by_cases hp : k'' = k
    · subst hp; simp_all [erase, List.filter_cons, find, Ne.symm h]
    · simp_all [erase, List.filter_cons, find]

theorem mem_set {k : κ} {v : α} {m : StdMap α κ} {p : κ × α} (h : p ∈ set k v m) :
    p = (k, v) ∨ p ∈ m := by
  induction m with
  | nil => simpa [set] using h
  | cons q m ih =>
    obtain ⟨k', v'⟩ := q
    simp only [set] at h
    split_ifs at h <;> simp only [List.mem_cons] at h ⊢ <;> tauto

/-- `m[k] = v` keeps the entries in increasing key order. -/
theorem pairwise_set {k : κ} {v : α} {m : StdMap α κ} (h : m.Pairwise (·.1 < ·.1)) :
    (set k v m).Pairwise (·.1 < ·.1) := by
  induction m with
  | nil => exact List.pairwise_singleton _ _
  | cons q m ih =>
    obtain ⟨k', v'⟩ := q
    have hq : ∀ {p}, p ∈ m → k' < p.1 := List.rel_of_pairwise_cons h
    simp only [set]
    split_ifs with hlt heq
    · exact h.cons fun p hp => (List.mem_cons.mp hp).elim (· ▸ hlt) (hlt.trans <| hq ·)
    · exact heq ▸ h.of_cons.cons fun _ => hq
    · refine (ih h.of_cons).cons fun p hp => ?_
      rcases mem_set hp with rfl | hp
      exacts [lt_of_le_of_ne (not_lt.mp hlt) (Ne.symm heq), hq hp]

@[simp] theorem mem_erase {k : κ} {m : StdMap α κ} {p : κ × α} :
    p ∈ erase k m ↔ p ∈ m ∧ p.1 ≠ k := by
  simp [erase]

theorem mem_of_find_eq_some {k : κ} {v : α} {m : StdMap α κ} (h : find k m = some v) :
    (k, v) ∈ m := by
  induction m with
  | nil => cases h
  | cons p m ih =>
    obtain ⟨k', v'⟩ := p
    by_cases hk : k' = k <;> simp_all [find]

theorem find_isSome_of_mem {k : κ} {v : α} {m : StdMap α κ} (h : (k, v) ∈ m) :
    (find k m).isSome := by
  induction m with
  | nil => cases h
  | cons p m ih =>
    obtain ⟨k', v'⟩ := p
    by_cases hk : k' = k
    · simp [find, hk]
    · simp only [find, hk, if_false]
      rcases List.mem_cons.mp h with h | h
      · exact absurd (Prod.mk.inj h).1.symm hk
      · exact ih h

@[simp] theorem find_set (k k' : κ) (v : α) (m : StdMap α κ) :
    find k' (set k v m) = if k' = k then some v else find k' m := by
  split_ifs with h
  · subst h; exact find_set_self k' v m
  · exact find_set_of_ne h v m

@[simp] theorem find_erase (k k' : κ) (m : StdMap α κ) :
    find k' (erase k m) = if k' = k then none else find k' m := by
  split_ifs with h
  · subst h; exact find_erase_self k' m
  · exact find_erase_of_ne h m

/-- In a map in key order, an entry is what `find` returns at its key. -/
theorem find_of_mem {k : κ} {v : α} {m : StdMap α κ} (h : m.Pairwise (·.1 < ·.1))
    (hm : (k, v) ∈ m) : find k m = some v := by
  induction m with
  | nil => cases hm
  | cons p m ih =>
    obtain ⟨k', v'⟩ := p
    rcases List.mem_cons.mp hm with hp | hp
    · cases hp; simp [find]
    · have hlt : k' < k := List.rel_of_pairwise_cons h hp
      simp [find, ne_of_lt hlt, ih h.of_cons hp]

/-- A value found after `erase` is at another key, and was there before. -/
theorem find_erase_eq_some {k k' : κ} {v : α} {m : StdMap α κ} (h : find k' (erase k m) = some v) :
    k' ≠ k ∧ find k' m = some v := by
  by_cases hk : k' = k
  · subst hk; rw [find_erase_self] at h; cases h
  · exact ⟨hk, by rwa [find_erase_of_ne hk] at h⟩

theorem subscript_of_find_eq_some {k : κ} {v : α} {m : StdMap α κ} (d : α)
    (h : find k m = some v) : subscript k d m = (v, m) := by
  simp [subscript, h]

theorem subscript_of_find_eq_none {k : κ} {m : StdMap α κ} (d : α) (h : find k m = none) :
    subscript k d m = (d, set k d m) := by
  simp [subscript, h]

end StdMap

end TecEngine
