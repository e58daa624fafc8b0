import Mathlib.Algebra.BigOperators.Group.List.Basic
import Mathlib.Tactic

/-!
# Runs of a state machine

A state machine is a function `step`; a run folds it over a list of events.

* `run_inv`: an invariant of every step is an invariant of every run.
* `along_inv`: the same where the invariant needs a condition on each step (`Along`).
* `observe`: what the steps of a run show, in order, and `observe_inv` an invariant of both.
* `run_interleave`: steps of two kinds that pass each other, in any order.
* `run_turn`: where each step has a key and leaves the others alone, a key with one step.
* `run_budget`: **what a run spends is at most what it starts with and what it is
  given on the way**.
* `foldlM_outcome`: the same as `run_inv` for a loop that can fail; `foldlM_account`: what
  its rounds add up to.
* `run_deadline`: a run either spends something, or the time it takes comes off the
  deadline.
-/

namespace Run

variable {σ ε : Type*} (step : σ → ε → σ)

/-- The state after a list of events. -/
def run (s : σ) (es : List ε) : σ := es.foldl step s

@[simp] theorem run_nil (s : σ) : run step s [] = s := rfl

@[simp] theorem run_cons (s : σ) (e : ε) (es : List ε) :
    run step s (e :: es) = run step (step s e) es := rfl

theorem run_append (s : σ) (es fs : List ε) :
    run step s (es ++ fs) = run step (run step s es) fs := List.foldl_append

theorem run_concat (s : σ) (es : List ε) (e : ε) :
    run step s (es ++ [e]) = step (run step s es) e := by
  rw [run_append, run_cons, run_nil]

/-- Steps that are runs themselves. -/
theorem run_flatMap {β : Type*} (f : β → List ε) (s : σ) (bs : List β) :
    run step s (bs.flatMap f) = run (fun s b => run step s (f b)) s bs := by
  induction bs generalizing s with
  | nil => rfl
  | cons b bs ih => rw [List.flatMap_cons, run_append, ih, run_cons]

/-- Every step of the run from `s` satisfies `P`. -/
def Along (P : σ → ε → Prop) : σ → List ε → Prop
  | _, [] => True
  | s, e :: es => P s e ∧ Along P (step s e) es

instance Along.decidable (P : σ → ε → Prop) [∀ s e, Decidable (P s e)] :
    ∀ (s : σ) (es : List ε), Decidable (Along step P s es)
  | _, [] => inferInstanceAs (Decidable True)
  | s, e :: es =>
    have := Along.decidable P (step s e) es
    inferInstanceAs (Decidable (P s e ∧ Along step P (step s e) es))

variable {step}

theorem Along.mono {P Q : σ → ε → Prop} (h : ∀ s e, P s e → Q s e) {s : σ} {es : List ε}
    (hes : Along step P s es) : Along step Q s es := by
  induction es generalizing s with
  | nil => trivial
  | cons e es ih => exact ⟨h s e hes.1, ih hes.2⟩

theorem Along.and {P Q : σ → ε → Prop} {s : σ} {es : List ε} (h : Along step P s es)
    (h' : Along step Q s es) : Along step (fun s e => P s e ∧ Q s e) s es := by
  induction es generalizing s with
  | nil => trivial
  | cons e es ih => exact ⟨⟨h.1, h'.1⟩, ih h.2 h'.2⟩

/-- What each step shows where an invariant holds, and the invariant it needs. -/
theorem Along.imp {I : σ → Prop} {P Q : σ → ε → Prop}
    (h : ∀ s e, I s → P s e → I (step s e) ∧ Q s e) {s : σ} {es : List ε} (hs : I s)
    (hes : Along step P s es) : Along step Q s es := by
  induction es generalizing s with
  | nil => trivial
  | cons e es ih =>
    obtain ⟨hs', hq⟩ := h s e hs hes.1
    exact ⟨hq, ih hs' hes.2⟩

theorem along_append {P : σ → ε → Prop} {s : σ} {es fs : List ε} :
    Along step P s (es ++ fs) ↔ Along step P s es ∧ Along step P (run step s es) fs := by
  induction es generalizing s with
  | nil => exact (and_iff_right trivial).symm
  | cons e es ih =>
    rw [List.cons_append, run_cons, Along, Along, ih, and_assoc]

/-- A condition on the events alone. -/
theorem along_of_forall {P : ε → Prop} (s : σ) {es : List ε} (h : ∀ e ∈ es, P e) :
    Along step (fun _ => P) s es := by
  induction es generalizing s with
  | nil => trivial
  | cons e es ih =>
    exact ⟨h e List.mem_cons_self, ih (step s e) fun x hx => h x (List.mem_cons_of_mem e hx)⟩

/-! ## Invariants -/

/-- **An invariant that needs a condition on each step.** -/
theorem along_inv {I : σ → Prop} {P : σ → ε → Prop}
    (h : ∀ s e, I s → P s e → I (step s e)) {s : σ} {es : List ε}
    (hs : I s) (hes : Along step P s es) : I (run step s es) := by
  induction es generalizing s with
  | nil => exact hs
  | cons e es ih => exact ih (h s e hs hes.1) hes.2

/-- **An invariant of every step.** -/
theorem run_inv {I : σ → Prop} (h : ∀ s e, I s → I (step s e)) {s : σ}
    (hs : I s) (es : List ε) : I (run step s es) :=
  along_inv (P := fun _ _ => True) (fun s e hs _ => h s e hs) hs
    (along_of_forall s fun _ _ => trivial)

/-! ## Histories -/

/-- What is observed along the run, where each step shows `obs`. -/
def observe {ω : Type*} (step : σ → ε → σ) (obs : σ → ε → List ω) : σ → List ε → List ω
  | _, [] => []
  | s, e :: es => obs s e ++ observe step obs (step s e) es

theorem observe_append {ω : Type*} (obs : σ → ε → List ω) (s : σ) (es fs : List ε) :
    observe step obs s (es ++ fs) = observe step obs s es ++ observe step obs (run step s es) fs := by
  induction es generalizing s with
  | nil => rfl
  | cons e es ih =>
    rw [List.cons_append, observe, ih, observe, run_cons, List.append_assoc]

theorem observe_concat {ω : Type*} (obs : σ → ε → List ω) (s : σ) (es : List ε) (e : ε) :
    observe step obs s (es ++ [e]) = observe step obs s es ++ obs (run step s es) e := by
  rw [observe_append, observe, observe, List.append_nil]

/-- What was observed was shown by some step. -/
theorem mem_observe {ω : Type*} {obs : σ → ε → List ω} {s : σ} {es : List ε} {x : ω}
    (h : x ∈ observe step obs s es) :
    ∃ before e after, es = before ++ e :: after ∧ x ∈ obs (run step s before) e := by
  induction es generalizing s with
  | nil => cases h
  | cons e es ih =>
    rcases List.mem_append.1 h with hx | hx
    · exact ⟨[], e, es, rfl, hx⟩
    · obtain ⟨before, e', after, rfl, hobs⟩ := ih hx
      exact ⟨e :: before, e', after, rfl, hobs⟩

/-- What is true of all that a run shows is true along the run. -/
theorem along_observe {ω : Type*} {obs : σ → ε → List ω} {P : ω → Prop} {s : σ} {es : List ε}
    (h : ∀ x ∈ observe step obs s es, P x) : Along step (fun s e => ∀ x ∈ obs s e, P x) s es := by
  induction es generalizing s with
  | nil => trivial
  | cons e es ih =>
    exact ⟨fun x hx => h x (List.mem_append_left _ hx),
      ih fun x hx => h x (List.mem_append_right _ hx)⟩

/-- **An invariant of the state and what was observed.** -/
theorem observe_inv {ω : Type*} {obs : σ → ε → List ω} {I : σ → List ω → Prop}
    (h : ∀ s e past, I s past → I (step s e) (past ++ obs s e)) {s : σ} (hs : I s []) (es : List ε) :
    I (run step s es) (observe step obs s es) := by
  induction es using List.reverseRecOn with
  | nil => exact hs
  | append_singleton es e ih =>
    rw [run_concat, observe_concat]
    exact h _ e _ ih

/-! ## Turns

Each step has a key, and leaves the cells of all other keys alone. -/

section turns

variable {κ γ ω : Type*} [DecidableEq κ] (key : ε → κ) {cell : σ → κ → γ} (obs : σ → ε → List ω)

/-- What the steps of one key show. -/
def observeAt (step : σ → ε → σ) (k : κ) : σ → List ε → List ω :=
  observe step fun s e => if key e = k then obs s e else []

variable {key}

/-- A key without a step. -/
theorem run_untouched (hcell : ∀ s e k, key e ≠ k → cell (step s e) k = cell s k) {k : κ} (s : σ)
    {es : List ε} (h : ∀ e ∈ es, key e ≠ k) :
    cell (run step s es) k = cell s k ∧ observeAt key obs step k s es = [] := by
  induction es generalizing s with
  | nil => exact ⟨rfl, rfl⟩
  | cons e es ih =>
    have he := h e List.mem_cons_self
    obtain ⟨hrun, hobs⟩ := ih (step s e) fun x hx => h x (List.mem_cons_of_mem e hx)
    refine ⟨hrun.trans (hcell s e k he), ?_⟩
    rw [observeAt, observe, if_neg he]
    exact hobs

/-- **A key with one step**: it finds the cell as it was and leaves it as it will be, and
the key shows what it shows. -/
theorem run_turn (hcell : ∀ s e k, key e ≠ k → cell (step s e) k = cell s k) (s : σ) {es : List ε}
    (hnodup : (es.map key).Nodup) {e : ε} (he : e ∈ es) :
    ∃ s', cell s' (key e) = cell s (key e) ∧
      cell (run step s es) (key e) = cell (step s' e) (key e) ∧
      observeAt key obs step (key e) s es = obs s' e := by
  obtain ⟨before, after, rfl⟩ := List.append_of_mem he
  rw [List.map_append, List.map_cons, List.nodup_append] at hnodup
  obtain ⟨-, hafter, hapart⟩ := hnodup
  have hbefore : ∀ x ∈ before, key x ≠ key e := fun x hx =>
    hapart _ (List.mem_map_of_mem hx) _ List.mem_cons_self
  have hlater : ∀ x ∈ after, key x ≠ key e := fun x hx heq =>
    (List.nodup_cons.1 hafter).1 (heq ▸ List.mem_map_of_mem hx)
  obtain ⟨hrun, hobs⟩ := run_untouched obs hcell s hbefore
  obtain ⟨hrun', hobs'⟩ := run_untouched obs hcell (step (run step s before) e) hlater
  refine ⟨run step s before, hrun, ?_, ?_⟩
  · rw [run_append, run_cons]
    exact hrun'
  · unfold observeAt at hobs hobs' ⊢
    rw [observe_append, observe, if_pos rfl, hobs, hobs', List.nil_append, List.append_nil]

end turns

/-! ## Interleavings

Two kinds of step on one state, each of which passes the other. -/

section interleavings

variable {α β : Type*} {f : σ → α → σ} {g : σ → β → σ}

/-- A step of either kind. -/
def interleave (f : σ → α → σ) (g : σ → β → σ) (s : σ) : α ⊕ β → σ
  | .inl a => f s a
  | .inr b => g s b

/-- A step passes a whole run of the other kind. -/
theorem run_pass (h : ∀ s a b, g (f s a) b = f (g s b) a) (s : σ) (as : List α) (b : β) :
    run f (g s b) as = g (run f s as) b := by
  induction as generalizing s with
  | nil => rfl
  | cons a as ih => rw [run_cons, ← h, ih, run_cons]

/-- **An interleaving is worth its two parts**, one after the other. -/
theorem run_interleave (h : ∀ s a b, g (f s a) b = f (g s b) a) (s : σ) (es : List (α ⊕ β)) :
    run (interleave f g) s es =
      run g (run f s (es.filterMap Sum.getLeft?)) (es.filterMap Sum.getRight?) := by
  induction es generalizing s with
  | nil => rfl
  | cons e es ih =>
    rw [run_cons, ih]
    cases e with
    | inl a => rfl
    | inr b =>
      show run g (run f (g s b) _) _ = run g (run f s _) (b :: _)
      rw [run_pass h, run_cons]
      rfl

end interleavings

/-! ## Budgets and deadlines -/

/-- **A budget.** If no step spends more than it takes off the purse or is given, no
run does. -/
theorem run_budget {I : σ → Prop} (purse spent : σ → ℕ) (given : ε → ℕ)
    (hinv : ∀ s e, I s → I (step s e))
    (h : ∀ s e, I s → purse (step s e) + spent (step s e) ≤ purse s + spent s + given e)
    {s : σ} (hs : I s) (es : List ε) :
    purse (run step s es) + spent (run step s es) ≤ purse s + spent s + (es.map given).sum := by
  induction es generalizing s with
  | nil => simp
  | cons e es ih =>
    have h1 := h s e hs
    have h2 := ih (hinv s e hs)
    simp only [run_cons, List.map_cons, List.sum_cons]
    omega

/-- Along a run whose steps satisfy `P`, a quantity that no such step lowers. -/
theorem along_mono {I : σ → Prop} {P : σ → ε → Prop} (f : σ → ℕ)
    (hinv : ∀ s e, I s → P s e → I (step s e)) (h : ∀ s e, I s → P s e → f s ≤ f (step s e))
    {s : σ} {es : List ε} (hs : I s) (hes : Along step P s es) : f s ≤ f (run step s es) := by
  induction es generalizing s with
  | nil => exact le_rfl
  | cons e es ih => exact (h s e hs hes.1).trans (ih (hinv s e hs hes.1) hes.2)

/-- **A deadline.** If every step that spends nothing takes its time off the slack, a
run that spends nothing does too. -/
theorem run_deadline {I : σ → Prop} {P : σ → ε → Prop} (slack spent : σ → ℕ) (time : ε → ℕ)
    (hinv : ∀ s e, I s → P s e → I (step s e))
    (hmono : ∀ s e, I s → P s e → spent s ≤ spent (step s e))
    (h : ∀ s e, I s → P s e → spent (step s e) ≤ spent s → slack (step s e) + time e ≤ slack s)
    {s : σ} {es : List ε} (hs : I s) (hes : Along step P s es)
    (hno : spent (run step s es) ≤ spent s) :
    slack (run step s es) + (es.map time).sum ≤ slack s := by
  induction es generalizing s with
  | nil => simp
  | cons e es ih =>
    have hs' := hinv s e hs hes.1
    have hup := along_mono spent hinv hmono hs' hes.2
    have hse := hmono s e hs hes.1
    rw [run_cons] at hno
    have h1 := h s e hs hes.1 (by omega)
    have h2 := ih hs' hes.2 (by omega)
    simp only [run_cons, List.map_cons, List.sum_cons]
    omega

/-! ## Runs that can fail -/

section

variable {φ σ τ ε β : Type}

/-- A result that is good, or an error that is allowed. -/
def Outcome (I : σ → Prop) (Bad : φ → Prop) : Except φ σ → Prop
  | .ok s => I s
  | .error e => Bad e

theorem outcome_bind {I : σ → Prop} {J : τ → Prop} {Bad : φ → Prop} {x : Except φ σ}
    {f : σ → Except φ τ} (hx : Outcome I Bad x) (hf : ∀ s, I s → Outcome J Bad (f s)) :
    Outcome J Bad (x >>= f) := by
  cases x with
  | ok s => exact hf s hx
  | error e => exact hx

/-- **A loop that can fail**: what every round keeps, or fails with, so does the loop. -/
theorem foldlM_outcome {I : σ → Prop} {Bad : φ → Prop} {f : σ → ε → Except φ σ} {es : List ε}
    (h : ∀ s, ∀ e ∈ es, I s → Outcome I Bad (f s e)) {s : σ} (hs : I s) :
    Outcome I Bad (es.foldlM f s) := by
  induction es generalizing s with
  | nil => exact hs
  | cons e es ih =>
    rw [List.foldlM_cons]
    apply outcome_bind (h s e List.mem_cons_self hs)
    intro s' hs'
    exact ih (fun t x hx => h t x (List.mem_cons_of_mem e hx)) hs'

/-- A loop whose rounds fail on their own, whatever came before: it succeeds if they all do. -/
theorem foldlM_isOk_iff {f : σ → ε → Except φ σ} {Q : ε → Prop}
    (h : ∀ s e, (∃ s', f s e = .ok s') ↔ Q e) {s : σ} {es : List ε} :
    (∃ s', es.foldlM f s = .ok s') ↔ ∀ e ∈ es, Q e := by
  induction es generalizing s with
  | nil => exact iff_of_true ⟨s, rfl⟩ fun e he => by cases he
  | cons e es ih =>
    rw [List.foldlM_cons, List.forall_mem_cons, ← h s e]
    cases f s e with
    | error fault => exact iff_of_false (fun ⟨_, hs⟩ => by cases hs) fun ⟨⟨_, hs⟩, _⟩ => by cases hs
    | ok t => exact ih.trans (and_iff_right ⟨t, rfl⟩).symm

/-- **A loop that can fail, with what it has gone over.** Where each round adds its part
`out` to what the state accounts for, the loop adds all the parts, in order. -/
theorem foldlM_account {f : σ → ε → Except φ σ} {I : List β → σ → Prop} {out : ε → List β}
    (h : ∀ seen s e s', I seen s → f s e = .ok s' → I (seen ++ out e) s') {seen : List β} {s s' : σ}
    (hs : I seen s) {es : List ε} (hes : es.foldlM f s = .ok s') : I (seen ++ es.flatMap out) s' := by
  induction es generalizing seen s with
  | nil =>
    have hsame : s = s' := Except.ok.inj hes
    rw [List.flatMap_nil, List.append_nil, ← hsame]
    exact hs
  | cons e es ih =>
    rw [List.foldlM_cons] at hes
    cases hround : f s e with
    | error fault => rw [hround] at hes; cases hes
    | ok t =>
      rw [hround] at hes
      rw [List.flatMap_cons, ← List.append_assoc]
      exact ih (h seen s e t hs hround) hes

end

end Run
