import Mathlib.Tactic

/-!
# Maps updated key by key

A map whose values are made on first use and then changed in place, as `m[k]` does it,
by a list of updates that each concern one key or none.

* `getElem?_updateAll`: **a key sees exactly its own updates**, in order.
* `update_comm`: two updates pass each other if they do where they concern the same key.
* `foldl_overwrite`: a field that each update overwrites or keeps holds the latest value.
* `latest_eq_iff`: when that is the value of the latest update itself.
-/

set_option linter.unusedSectionVars false

namespace Upsert

open Std (ExtTreeMap TransOrd LawfulEqOrd)

/-! ## The latest value -/

section

variable {α β : Type}

/-- **The latest value wins.** -/
theorem foldl_overwrite (f : β → Option α) (a : Option α) (xs : List β) :
    xs.foldl (fun a x => (f x).or a) a = ((xs.filterMap f).getLast?).or a := by
  induction xs generalizing a with
  | nil => simp
  | cons x xs ih =>
    rw [List.foldl_cons, ih]
    cases hx : f x with
    | none => rw [List.filterMap_cons_none hx, Option.none_or]
    | some v =>
      rw [List.filterMap_cons_some hx, Option.some_or, List.getLast?_cons]
      cases (xs.filterMap f).getLast? <;> rfl

/-- A field of a state, where every update overwrites it or keeps it. -/
theorem foldl_field {σ : Type} (g : σ → Option α) (f : β → Option α) (step : σ → β → σ)
    (h : ∀ s x, g (step s x) = (f x).or (g s)) (s : σ) (xs : List β) :
    g (xs.foldl step s) = ((xs.filterMap f).getLast?).or (g s) := by
  rw [← foldl_overwrite]
  induction xs generalizing s with
  | nil => rfl
  | cons x xs ih => rw [List.foldl_cons, List.foldl_cons, ih, h]

/-- **When the latest value is that of the latest update**: if that one has no value,
nothing before it may have one. -/
theorem latest_eq_iff (f : β → Option α) (a : Option α) (xs : List β) :
    ((xs.filterMap f).getLast?).or a = xs.getLast?.bind f ↔
      (xs.getLast?.bind f = none → (∀ x ∈ xs, f x = none) ∧ a = none) := by
  induction xs using List.reverseRecOn with
  | nil => simp
  | append_singleton xs x _ =>
    rw [List.getLast?_concat, Option.bind_some, List.filterMap_append]
    cases hx : f x with
    | some v => simp [hx]
    | none =>
      simp only [List.filterMap_cons_none hx, List.filterMap_nil, List.append_nil, Option.or_eq_none_iff,
        List.getLast?_eq_none_iff, List.filterMap_eq_nil_iff, List.mem_append, List.mem_singleton,
        forall_const]
      constructor
      · rintro ⟨hxs, ha⟩
        refine ⟨?_, ha⟩
        rintro y (hy | rfl)
        · exact hxs y hy
        · exact hx
      · rintro ⟨hxs, ha⟩
        exact ⟨fun y hy => hxs y (Or.inl hy), ha⟩

end

/-! ## Updates -/

section

variable {κ α β : Type} [Ord κ] [TransOrd κ] [LawfulEqOrd κ] [DecidableEq κ] (fresh : α)

/-- `m[k]` changed by `f`, made as `fresh` if it is not there. -/
def upsert (m : ExtTreeMap κ α) (k : κ) (f : α → α) : ExtTreeMap κ α :=
  m.insert k (f ((m[k]?).getD fresh))

theorem getElem?_upsert (m : ExtTreeMap κ α) (k : κ) (f : α → α) (k' : κ) :
    (upsert fresh m k f)[k']? = if k' = k then some (f ((m[k']?).getD fresh)) else m[k']? := by
  rw [upsert, ExtTreeMap.getElem?_insert]
  by_cases h : k' = k
  · subst h
    simp
  · simp [h, Ne.symm h]

variable (key : β → Option κ) (change : β → α → α)

/-- One update: of the key it has, if it has one. -/
def update (m : ExtTreeMap κ α) (x : β) : ExtTreeMap κ α :=
  match key x with
  | some k => upsert fresh m k (change x)
  | none => m

theorem getElem?_update (m : ExtTreeMap κ α) (x : β) (k : κ) :
    (update fresh key change m x)[k]? =
      if key x = some k then some (change x ((m[k]?).getD fresh)) else m[k]? := by
  unfold update
  cases hx : key x with
  | none => simp
  | some k' =>
    simp only [getElem?_upsert, Option.some.injEq]
    by_cases h : k = k'
    · subst h
      simp
    · simp [h, Ne.symm h]

/-- **Two updates pass each other** if their changes do where the keys are the same. -/
theorem update_comm {γ : Type} (key' : γ → Option κ) (change' : γ → α → α) {x : β} {y : γ}
    (h : ∀ k, key x = some k → key' y = some k → ∀ a, change' y (change x a) = change x (change' y a))
    (m : ExtTreeMap κ α) :
    update fresh key' change' (update fresh key change m x) y =
      update fresh key change (update fresh key' change' m y) x := by
  apply ExtTreeMap.ext_getElem?
  intro k
  rw [getElem?_update, getElem?_update, getElem?_update, getElem?_update]
  by_cases hx : key x = some k
  · by_cases hy : key' y = some k
    · rw [if_pos hx, if_pos hy, if_pos hx, if_pos hy]
      exact congrArg some (h k hx hy _)
    · rw [if_pos hx, if_neg hy, if_pos hx, if_neg hy]
  · by_cases hy : key' y = some k
    · rw [if_neg hx, if_pos hy, if_neg hx]
    · rw [if_neg hx, if_neg hy, if_neg hx]

/-- **A key sees exactly its own updates**, in order. -/
theorem getElem?_updateAll (m : ExtTreeMap κ α) (xs : List β) (k : κ) :
    (xs.foldl (update fresh key change) m)[k]? =
      if xs.filter (key · = some k) = [] then m[k]?
      else some ((xs.filter (key · = some k)).foldl (fun a x => change x a) ((m[k]?).getD fresh)) := by
  induction xs generalizing m with
  | nil => simp
  | cons x xs ih =>
    rw [List.foldl_cons, ih, getElem?_update]
    -- the first update comes first in the fold, and in the filtered list
    by_cases hx : key x = some k
    · rw [List.filter_cons_of_pos (by simpa using hx), if_pos hx, if_neg (List.cons_ne_nil _ _)]
      split
      · rename_i hnil
        rw [hnil]
        rfl
      · rfl
    · rw [List.filter_cons_of_neg (by simpa using hx), if_neg hx]

/-- A key is there afterwards if it was before, or has an update. -/
theorem mem_updateAll (m : ExtTreeMap κ α) (xs : List β) (k : κ) :
    k ∈ xs.foldl (update fresh key change) m ↔ k ∈ m ∨ ∃ x ∈ xs, key x = some k := by
  rw [← ExtTreeMap.isSome_getElem?_iff_mem, ← ExtTreeMap.isSome_getElem?_iff_mem, getElem?_updateAll]
  split
  · rename_i hnil
    simp only [List.filter_eq_nil_iff, decide_eq_true_eq] at hnil
    constructor
    · exact Or.inl
    · rintro (h | ⟨x, hx, hkey⟩)
      · exact h
      · exact absurd hkey (hnil x hx)
  · rename_i hne
    obtain ⟨x, hx⟩ := List.exists_mem_of_ne_nil _ hne
    rw [List.mem_filter, decide_eq_true_eq] at hx
    exact ⟨fun _ => Or.inr ⟨x, hx⟩, fun _ => rfl⟩

/-- A field that is overwritten or kept: the latest value for the key, or what was there. -/
theorem field_updateAll {γ : Type} (g : α → Option γ) (f : β → Option γ) (hfresh : g fresh = none)
    (h : ∀ x a, g (change x a) = (f x).or (g a)) (m : ExtTreeMap κ α) (xs : List β) (k : κ) :
    (xs.foldl (update fresh key change) m)[k]?.bind g =
      (((xs.filter (key · = some k)).filterMap f).getLast?).or (m[k]?.bind g) := by
  have hold : g ((m[k]?).getD fresh) = m[k]?.bind g := by
    cases m[k]? with
    | none => exact hfresh
    | some a => rfl
  rw [getElem?_updateAll]
  split
  · rename_i hnil
    rw [hnil]
    rfl
  · rw [Option.bind_some, foldl_field g f (fun a x => change x a) (fun a x => h x a), hold]

end

end Upsert
