import Mathlib.Tactic

/-!
# Requests that are answered, superseded or given up

A client numbers its requests, sends some of them, and looks at the packets that come
back. A history lists what happened, the oldest entry first.

* `Outstanding h n`: request `n` was sent, and nothing since then ended it.
* `outstanding_concat`: what one more entry does to it.
* `not_outstanding_of_ended`: **a request that was ended is never outstanding again**,
  where no number is used twice.
-/

namespace Requests

/-- What can happen to a client. -/
inductive Entry (Packet : Type*)
  | request (number : ℕ) (sent : Bool)
  | timeout
  | packet (p : Packet)

variable {Packet : Type*} (closes : Packet → ℕ → Prop)

/-- A request ends with the next one that is sent, with a timeout, or with a packet that
closes it. -/
def Ends (n : ℕ) : Entry Packet → Prop
  | .request _ sent => sent = true
  | .timeout => True
  | .packet p => closes p n

def Outstanding (h : List (Entry Packet)) (n : ℕ) : Prop :=
  ∃ before after, h = before ++ .request n true :: after ∧ ∀ e ∈ after, ¬ Ends closes n e

/-- Request `n` was sent, and something ended it. -/
def Ended (h : List (Entry Packet)) (n : ℕ) : Prop :=
  ∃ before after, h = before ++ .request n true :: after ∧ ∃ e ∈ after, Ends closes n e

/-- The numbers of the requests, sent or not. -/
def numbers (h : List (Entry Packet)) : List ℕ :=
  h.filterMap fun
    | .request n _ => some n
    | _ => none

theorem numbers_append (h h' : List (Entry Packet)) : numbers (h ++ h') = numbers h ++ numbers h' :=
  List.filterMap_append

variable {closes} {h : List (Entry Packet)} {e : Entry Packet} {m n : ℕ}

theorem not_outstanding_nil : ¬ Outstanding closes [] n := by
  rintro ⟨before, after, hnil, -⟩
  exact List.append_ne_nil_of_right_ne_nil before (List.cons_ne_nil _ after) hnil.symm

/-- **One more entry**: it is the request itself, or does not end it. -/
theorem outstanding_concat :
    Outstanding closes (h ++ [e]) n ↔
      e = .request n true ∨ (Outstanding closes h n ∧ ¬ Ends closes n e) := by
  constructor
  · rintro ⟨before, after, heq, hafter⟩
    rcases List.eq_nil_or_concat after with rfl | ⟨after', e', rfl⟩
    · exact Or.inl (List.append_inj_right' heq rfl |> List.singleton_inj.1)
    · rw [List.concat_eq_append] at heq hafter
      rw [← List.cons_append, ← List.append_assoc] at heq
      obtain ⟨rfl, he⟩ := List.append_inj' heq rfl
      rw [List.singleton_inj] at he
      subst he
      exact Or.inr ⟨⟨before, after', rfl, fun x hx => hafter x (List.mem_append_left _ hx)⟩,
        hafter e (List.mem_append_right _ (List.mem_singleton_self e))⟩
  · rintro (rfl | ⟨⟨before, after, rfl, hafter⟩, he⟩)
    · exact ⟨h, [], rfl, fun x hx => by cases hx⟩
    · refine ⟨before, after ++ [e], by rw [List.append_assoc, List.cons_append], ?_⟩
      intro x hx
      rcases List.mem_append.1 hx with hx | hx
      · exact hafter x hx
      · rw [List.mem_singleton.1 hx]; exact he

theorem mem_numbers (before after : List (Entry Packet)) (n : ℕ) (sent : Bool) :
    n ∈ numbers (before ++ .request n sent :: after) := by
  rw [numbers_append]
  exact List.mem_append_right _ List.mem_cons_self

theorem Outstanding.mem_numbers (hn : Outstanding closes h n) : n ∈ numbers h := by
  obtain ⟨before, after, rfl, -⟩ := hn
  exact Requests.mem_numbers before after n true

theorem Ended.append (hn : Ended closes h n) (h' : List (Entry Packet)) : Ended closes (h ++ h') n := by
  obtain ⟨before, after, rfl, x, hx, hend⟩ := hn
  exact ⟨before, after ++ h', by rw [List.append_assoc, List.cons_append], x,
    List.mem_append_left _ hx, hend⟩

theorem Ended.concat (hn : Outstanding closes h n) (he : Ends closes n e) :
    Ended closes (h ++ [e]) n := by
  obtain ⟨before, after, rfl, -⟩ := hn
  exact ⟨before, after ++ [e], by rw [List.append_assoc, List.cons_append], e,
    List.mem_append_right _ (List.mem_singleton_self e), he⟩

/-- A number that was used once stands at one place. -/
theorem split_unique {before before' after after' : List (Entry Packet)}
    (hnum : (numbers (before ++ .request n true :: after)).Nodup)
    (heq : before ++ .request n true :: after = before' ++ .request n true :: after') :
    after = after' := by
  induction before generalizing before' with
  | nil =>
    cases before' with
    | nil => exact (List.cons.inj heq).2
    | cons b before' =>
      obtain ⟨rfl, rfl⟩ := List.cons.inj heq
      exact absurd (mem_numbers before' after' n true) (List.nodup_cons.1 hnum).1
  | cons b before ih =>
    cases before' with
    | nil =>
      obtain ⟨rfl, rfl⟩ := List.cons.inj heq
      exact absurd (mem_numbers before after n true) (List.nodup_cons.1 hnum).1
    | cons b' before' =>
      have htail := (List.cons.inj heq).2
      exact ih (hnum.sublist (List.Sublist.filterMap _ (List.sublist_cons_self _ _))) htail

/-- **A request that was ended is never outstanding again.** -/
theorem not_outstanding_of_ended (hnum : (numbers h).Nodup) (hended : Ended closes h n) :
    ¬ Outstanding closes h n := by
  rintro ⟨before', after', heq, hafter⟩
  obtain ⟨before, after, rfl, x, hx, hend⟩ := hended
  rw [split_unique hnum heq] at hx
  exact hafter x hx hend

end Requests
