import Ndisc.Lib.Run

/-!
# A journal of several writers

The newest entry comes first. A writer that only sees its own entries still gets the replies
that the whole journal gets, if each reply is found by how many own entries there were.

* `since`: what came to it lately.
* `upTo`, `alone_eq`, `aloneBefore_eq`: the reply to an own entry, or before it, as the writer
  alone finds it.
* `within`: an induction over a run that has the journal of its end at hand from the start.
* `flatMap_turn`: what a round over distinct keys does for one of them.
-/

namespace Journal

open Run

section

variable {α : Type*} {l old : List α}

/-- The entries that came after `old`. -/
def since (l old : List α) : List α := l.take (l.length - old.length)

theorem since_eq {new : List α} (h : l = new ++ old) : since l old = new := by
  rw [since, h, List.length_append, Nat.add_sub_cancel, List.take_left]

theorem since_eq_nil_iff (h : old.length ≤ l.length) : since l old = [] ↔ l.length ≤ old.length := by
  rw [since, List.take_eq_nil_iff, ← List.length_eq_zero_iff]
  omega

end

section

variable {α β : Type*} (own : α → Bool)

/-- The journal as it was with the `n`th own entry. -/
def upTo (n : ℕ) : List α → List α
  | [] => []
  | a :: l => if own a = true ∧ l.countP own + 1 = n then a :: l else upTo n l

/-- **Each own entry is found again** in all that the journal becomes. -/
theorem upTo_eq {a : α} {l L : List α} (h : a :: l <:+ L) (ha : own a = true) :
    upTo own (l.countP own + 1) L = a :: l := by
  induction L with
  | nil => cases List.suffix_nil.1 h
  | cons b L ih =>
    rcases List.suffix_cons_iff.1 h with heq | hlater
    · obtain ⟨rfl, rfl⟩ := List.cons.inj heq
      exact if_pos ⟨ha, rfl⟩
    · have hcount : (a :: l).countP own ≤ L.countP own := hlater.sublist.countP_le
      rw [List.countP_cons, if_pos ha] at hcount
      rw [upTo, if_neg fun h => by omega]
      exact ih hlater

/-- What a writer is replied that has only its own entries, where the journal becomes `L`. -/
def alone (reply : List α → β) (L : List α) (mine : List α) : β := reply (upTo own mine.length L)

theorem alone_eq (reply : List α → β) {a : α} {l L : List α} (h : a :: l <:+ L)
    (ha : own a = true) : alone own reply L (a :: l.filter own) = reply (a :: l) := by
  rw [alone, List.length_cons, ← List.countP_eq_length_filter, upTo_eq own h ha]

/-- The same for a reply that is given to a writer before its entry. -/
def aloneBefore (reply : List α → β) (L : List α) (mine : List α) : β :=
  reply (upTo own (mine.length + 1) L).tail

theorem aloneBefore_eq (reply : List α → β) {a : α} {l L : List α} (h : a :: l <:+ L)
    (ha : own a = true) : aloneBefore own reply L (l.filter own) = reply l := by
  rw [aloneBefore, ← List.countP_eq_length_filter, upTo_eq own h ha, List.tail_cons]

theorem filter_others {new : List α} (l : List α) (h : ∀ a ∈ new, own a = false) :
    (new ++ l).filter own = l.filter own := by
  have hnone : new.filter own = [] := List.filter_eq_nil_iff.2 fun a ha => by rw [h a ha]; decide
  rw [List.filter_append, hnone, List.nil_append]

end

/-! ## Runs -/

section

variable {α σ ε ω : Type*} {step : σ → ε → σ} (journal : σ → List α)

theorem run_grows (hgrow : ∀ s e, journal s <:+ journal (step s e)) (s : σ) (es : List ε) :
    journal s <:+ journal (run step s es) := by
  induction es generalizing s with
  | nil => exact List.suffix_rfl
  | cons e es ih => exact (hgrow s e).trans (ih (step s e))

/-- **An induction under the journal of the end**: every state on the way has a part of it. -/
theorem within (I : List ω → σ → Prop) (obs : σ → ε → List ω) {L : List α}
    (hgrow : ∀ s e, journal s <:+ journal (step s e)) {es : List ε}
    (hstep : ∀ seen s, ∀ e ∈ es, I seen s → journal (step s e) <:+ L → I (seen ++ obs s e) (step s e))
    {seen : List ω} {s : σ} (h : I seen s) (hL : journal (run step s es) <:+ L) :
    I (seen ++ observe step obs s es) (run step s es) := by
  induction es generalizing seen s with
  | nil => rw [observe, List.append_nil]; exact h
  | cons e es ih =>
    rw [observe, ← List.append_assoc]
    exact ih (fun seen s x hx => hstep seen s x (List.mem_cons_of_mem e hx))
      (hstep seen s e List.mem_cons_self h ((run_grows journal hgrow _ es).trans hL)) hL

end

/-! ## Rounds -/

section

variable {τ κ ω : Type*} [DecidableEq κ] (key : τ → κ) {f : τ → List ω} {l : List τ}

theorem observe_const {σ : Type*} (step : σ → τ → σ) (s : σ) :
    observe step (fun _ t => f t) s l = l.flatMap f := by
  induction l generalizing s with
  | nil => rfl
  | cons t l ih => rw [observe, List.flatMap_cons, ih]

theorem flatMap_none {k : κ} (h : ∀ t ∈ l, key t ≠ k) :
    (l.flatMap fun t => if key t = k then f t else []) = [] := by
  rw [List.flatMap_eq_nil_iff]
  intro t ht
  exact if_neg (h t ht)

/-- **A key has one turn in a round.** -/
theorem flatMap_turn (hnodup : (l.map key).Nodup) {t : τ} (ht : t ∈ l) :
    (l.flatMap fun x => if key x = key t then f x else []) = f t := by
  induction l with
  | nil => cases ht
  | cons x l ih =>
    rw [List.map_cons, List.nodup_cons] at hnodup
    rw [List.flatMap_cons]
    rcases List.mem_cons.1 ht with rfl | hlater
    · have hrest : ∀ y ∈ l, key y ≠ key t := fun y hy heq => hnodup.1 (heq ▸ List.mem_map_of_mem hy)
      rw [if_pos rfl, flatMap_none key hrest, List.append_nil]
    · have hne : key x ≠ key t := fun heq => hnodup.1 (heq ▸ List.mem_map_of_mem hlater)
      rw [if_neg hne, List.nil_append, ih hnodup.2 hlater]

end

end Journal
