import Mathlib.Data.List.Basic
import Mathlib.Logic.Function.Basic
import Mathlib.Tactic

/-!
# Leases

A table in which each key is written together with the time it stays valid, and in
which time passes for all keys at once. `history` keeps everything (the last grant
of each key and every tick since), `view` is what is still there.

* `history_eq_some_iff`: the history of a key is its last write and the ticks since.
* `view_write`, `view_tick`: the table a program keeps: a write replaces one row, a
  tick of `d` takes `d` off every row and drops those with `d` or less left.
-/

namespace Lease

variable {κ α : Type*}

/-- What happens to the table. -/
inductive Event (κ α : Type*)
  | write (key : κ) (ttl : ℕ) (value : α)
  | tick (d : ℕ)

/-- The time an event takes. -/
def Event.ticked : Event κ α → Option ℕ
  | .write .. => none
  | .tick d => some d

def Event.Writes (key : κ) : Event κ α → Prop
  | .write key' .. => key' = key
  | .tick _ => False

/-- A key's last write, and the ticks since. -/
structure Grant (α : Type*) where
  value : α
  ttl : ℕ
  ticks : List ℕ

/-- A grant is live until the first tick, and then as long as less than its time
has passed. -/
def Grant.Live (g : Grant α) : Prop := g.ticks = [] ∨ g.ticks.sum < g.ttl

instance (g : Grant α) : Decidable g.Live := inferInstanceAs (Decidable (_ ∨ _))

variable [DecidableEq κ]

def record (t : κ → Option (Grant α)) : Event κ α → κ → Option (Grant α)
  | .write key ttl value => Function.update t key (some ⟨value, ttl, []⟩)
  | .tick d => fun key => (t key).map fun g => { g with ticks := g.ticks ++ [d] }

/-- All grants after a list of events, expired ones too. -/
def history (es : List (Event κ α)) : κ → Option (Grant α) := es.foldl record fun _ => none

/-- What is still there: the value and the time left. -/
def view (t : κ → Option (Grant α)) (key : κ) : Option (α × ℕ) :=
  (t key).bind fun g => if g.Live then some (g.value, g.ttl - g.ticks.sum) else none

theorem history_concat (es : List (Event κ α)) (e : Event κ α) :
    history (es ++ [e]) = record (history es) e := by
  simp [history]

/-- `g` is the last write of `key` in `es`, with the ticks since. -/
def LastWrite (es : List (Event κ α)) (key : κ) (g : Grant α) : Prop :=
  ∃ pre post, es = pre ++ .write key g.ttl g.value :: post ∧
    (∀ e ∈ post, ¬ e.Writes key) ∧ g.ticks = post.filterMap Event.ticked

omit [DecidableEq κ] in
/-- One more event either is the last write, or comes after it. -/
theorem lastWrite_concat (es : List (Event κ α)) (e : Event κ α) (key : κ) (g : Grant α) :
    LastWrite (es ++ [e]) key g ↔ (e = .write key g.ttl g.value ∧ g.ticks = []) ∨
      (¬ e.Writes key ∧ ∃ ticks, LastWrite es key { g with ticks := ticks } ∧
        g.ticks = ticks ++ e.ticked.toList) := by
  constructor
  · rintro ⟨pre, post, heq, hno, hticks⟩
    -- the new event is the write itself, or the last of those after it
    rcases List.eq_nil_or_concat post with rfl | ⟨post, x, rfl⟩
    · obtain ⟨-, h⟩ := List.append_inj' heq rfl
      exact Or.inl ⟨by simpa using h, hticks⟩
    · rw [List.concat_eq_append] at heq hno hticks
      rw [← List.cons_append, ← List.append_assoc] at heq
      obtain ⟨hes, hx⟩ := List.append_inj' heq rfl
      simp only [List.cons.injEq, and_true] at hx
      subst hx
      refine Or.inr ⟨hno e (by simp), post.filterMap Event.ticked,
        ⟨pre, post, hes, fun x hx => hno x (by simp [hx]), rfl⟩, ?_⟩
      rw [hticks, List.filterMap_append]
      cases he : e.ticked <;> simp [he]
  · rintro (⟨rfl, hticks⟩ | ⟨hw, ticks, ⟨pre, post, rfl, hno, rfl⟩, hticks⟩)
    · exact ⟨es, [], rfl, by simp, by simpa using hticks⟩
    · refine ⟨pre, post ++ [e], by simp, ?_, ?_⟩
      · intro x hx
        rcases List.mem_append.1 hx with hx | hx
        · exact hno x hx
        · rw [List.mem_singleton] at hx; subst hx; exact hw
      · rw [hticks, List.filterMap_append]
        cases he : e.ticked <;> simp [he]

/-- **The history of a key is its last write and the ticks since.** -/
theorem history_eq_some_iff (es : List (Event κ α)) (key : κ) (g : Grant α) :
    history es key = some g ↔ LastWrite es key g := by
  induction es using List.reverseRecOn generalizing g with
  | nil => simp [history, LastWrite]
  | append_singleton es e ih =>
    rw [history_concat, lastWrite_concat]
    cases e with
    | write key' ttl value =>
      by_cases hk : key' = key
      · subst hk
        cases g
        simp [record, Event.Writes, eq_comm, and_left_comm, and_assoc]
      · simp only [record, Function.update_of_ne (Ne.symm hk), ih]
        cases g
        simp [Event.Writes, Event.ticked, hk]
    -- a tick writes nothing, and is one more tick since the last write
    | tick d =>
      simp only [record, Option.map_eq_some_iff, ih]
      constructor
      · rintro ⟨g', hg', rfl⟩
        exact Or.inr ⟨id, g'.ticks, hg', rfl⟩
      · rintro (⟨h, -⟩ | ⟨-, ticks, hg', hticks⟩)
        · simp at h
        · refine ⟨_, hg', ?_⟩
          cases g
          simpa [Event.ticked] using hticks.symm

/-- A write replaces the row of its key. -/
theorem view_write (t : κ → Option (Grant α)) (key : κ) (ttl : ℕ) (value : α) (k : κ) :
    view (record t (.write key ttl value)) k =
      if k = key then some (value, ttl) else view t k := by
  by_cases hk : k = key
  · subst hk; simp [view, record, Grant.Live]
  · simp [view, record, hk]

/-- **A tick of `d` takes `d` off every row, and drops those with `d` or less left.** -/
theorem view_tick (t : κ → Option (Grant α)) (d : ℕ) (k : κ) :
    view (record t (.tick d)) k =
      (view t k).bind fun r => if d < r.2 then some (r.1, r.2 - d) else none := by
  cases ht : t k with
  | none => simp [view, record, ht]
  | some g =>
    have hlive : (Grant.Live { g with ticks := g.ticks ++ [d] }) ↔ g.ticks.sum + d < g.ttl := by
      simp [Grant.Live]
    by_cases hg : g.Live
    · -- with no tick so far the sum is `0`, so both cases compare `d` with what is left
      have hd : g.ticks.sum + d < g.ttl ↔ d < g.ttl - g.ticks.sum := by omega
      simp [view, record, ht, hlive, hg, hd, Nat.sub_sub]
    · have hd : ¬ g.ticks.sum + d < g.ttl := by
        simp only [Grant.Live, not_or] at hg
        omega
      simp [view, record, ht, hlive, hg, hd]

end Lease
