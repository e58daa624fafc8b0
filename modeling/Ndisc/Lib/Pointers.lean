import Mathlib.Logic.Function.Basic
import Mathlib.Tactic

/-!
# Unique pointers

An owner holds at most one thing. Nothing has two owners, and what is held is alive.

* `Sole`: both, as an invariant.
* `Sole.handOver`: **a move keeps it**, which leaves its source with nothing, and ends what
  the target held.
* `Sole.drop`: so does an owner that lets go.
-/

namespace Pointers

variable {α β : Type*}

structure Sole (held : α → Option β) (live : β → Prop) : Prop where
  alive : ∀ a b, held a = some b → live b
  once : ∀ a a' b, held a = some b → held a' = some b → a = a'

/-- More may be alive. -/
theorem Sole.mono {held : α → Option β} {live live' : β → Prop} (h : Sole held live)
    (hlive : ∀ b, live b → live' b) : Sole held live' :=
  ⟨fun a b hb => hlive b (h.alive a b hb), h.once⟩

/-- One owner has nobody to share with. -/
theorem Sole.one {held : α → Option β} {live : β → Prop} (owner : α)
    (h : ∀ a b, held a = some b → a = owner ∧ live b) : Sole held live where
  alive a b hb := (h a b hb).2
  once a a' b hb hb' := (h a b hb).1.trans (h a' b hb').1.symm

section

variable [DecidableEq α] {held : α → Option β} {live live' : β → Prop} {a target source : α}

/-- What the owners hold after a move. -/
def handOver (held : α → Option β) (target source : α) : α → Option β :=
  Function.update (Function.update held target (held source)) source none

theorem handOver_target (hne : target ≠ source) : handOver held target source target = held source := by
  rw [handOver, Function.update_of_ne hne, Function.update_self]

theorem handOver_source : handOver held target source source = none := Function.update_self ..

theorem handOver_other (htarget : a ≠ target) (hsource : a ≠ source) :
    handOver held target source a = held a := by
  rw [handOver, Function.update_of_ne hsource, Function.update_of_ne htarget]

/-- Whatever is held after a move was held before it, though not by the target. -/
theorem handOver_cases (h : Sole held live) (hne : target ≠ source) {b : β}
    (hb : handOver held target source a = some b) :
    (a = target ∧ held source = some b ∨ a ≠ target ∧ a ≠ source ∧ held a = some b) ∧
      held target ≠ some b := by
  rcases eq_or_ne a source with rfl | hsource
  · rw [handOver_source] at hb
    cases hb
  · rcases eq_or_ne a target with rfl | htarget
    · rw [handOver_target hne] at hb
      exact ⟨Or.inl ⟨rfl, hb⟩, fun hown => hne (h.once _ _ b hown hb)⟩
    · rw [handOver_other htarget hsource] at hb
      exact ⟨Or.inr ⟨htarget, hsource, hb⟩, fun hown => htarget (h.once _ _ b hb hown)⟩

/-- **A move keeps pointers unique**, as long as only what the target held ends with it. -/
theorem Sole.handOver (h : Sole held live) (hne : target ≠ source)
    (hlive : ∀ b, live b → held target ≠ some b → live' b) :
    Sole (handOver held target source) live' where
  alive a b hb := by
    obtain ⟨hcases, hnot⟩ := handOver_cases h hne hb
    rcases hcases with ⟨-, hheld⟩ | ⟨-, -, hheld⟩
    · exact hlive b (h.alive _ b hheld) hnot
    · exact hlive b (h.alive _ b hheld) hnot
  once a a' b hb hb' := by
    rcases (handOver_cases h hne hb).1 with ⟨rfl, hheld⟩ | ⟨-, hsource, hheld⟩
    · rcases (handOver_cases h hne hb').1 with ⟨rfl, -⟩ | ⟨-, hsource', hheld'⟩
      · rfl
      · exact absurd (h.once _ _ b hheld' hheld) hsource'
    · rcases (handOver_cases h hne hb').1 with ⟨-, hheld'⟩ | ⟨-, -, hheld'⟩
      · exact absurd (h.once _ _ b hheld hheld') hsource
      · exact h.once _ _ b hheld hheld'

/-- **An owner lets go** of what it held, which may end. -/
theorem Sole.drop (h : Sole held live) (hlive : ∀ b, live b → held a ≠ some b → live' b) :
    Sole (Function.update held a none) live' where
  alive a' b hb := by
    rcases eq_or_ne a' a with rfl | hne
    · rw [Function.update_self] at hb
      cases hb
    · rw [Function.update_of_ne hne] at hb
      exact hlive b (h.alive a' b hb) fun hown => hne (h.once a' a b hb hown)
  once a' a'' b hb hb' := by
    have hheld : ∀ {o}, Function.update held a none o = some b → held o = some b := by
      intro o ho
      rcases eq_or_ne o a with rfl | hne
      · rw [Function.update_self] at ho
        cases ho
      · rwa [Function.update_of_ne hne] at ho
    exact h.once a' a'' b (hheld hb) (hheld hb')

end

end Pointers
