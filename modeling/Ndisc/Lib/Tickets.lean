import Mathlib.Data.List.Nodup
import Mathlib.Logic.Function.Basic
import Mathlib.Tactic

/-!
# Numbered tickets

A desk gives out tickets with rising numbers, keeps a table of who holds which, takes
tickets back, and honours a ticket as long as it is in the table. A log lists what
happened, the newest entry first.

* `Sound`: the table, the next number and the log fit together.
* `Sound.give`, `Sound.withdraw`, `Sound.honour`: each act of the desk keeps this.
* `Sound.honoured`: **a ticket is honoured only for the one it was given to, and only
  between its being given and its being taken back.**
-/

namespace Tickets

inductive Entry (Id Holder : Type*)
  | given (id : Id) (holder : Holder)
  | withdrawn (id : Id)
  | honoured (id : Id) (holder : Holder)
  deriving DecidableEq

variable {Id Holder : Type*}

/-- The tickets given out. -/
def tickets (log : List (Entry Id Holder)) : List Id :=
  log.filterMap fun
    | .given id _ => some id
    | _ => none

/-- The tickets honoured, each with its holder, the newest one first. -/
def honours (log : List (Entry Id Holder)) : List (Id × Holder) :=
  log.filterMap fun
    | .honoured id holder => some (id, holder)
    | _ => none

theorem honours_append (newer older : List (Entry Id Holder)) :
    honours (newer ++ older) = honours newer ++ honours older := List.filterMap_append

/-- The table, the next number and the log fit together. -/
structure Sound (number : Id → ℕ) (table : Id → Option Holder) (next : ℕ)
    (log : List (Entry Id Holder)) : Prop where
  given_below : ∀ id holder, .given id holder ∈ log → number id < next
  withdrawn_below : ∀ id, .withdrawn id ∈ log → number id < next
  held : ∀ id holder, table id = some holder →
    .given id holder ∈ log ∧ .withdrawn id ∉ log
  once : (tickets log).Nodup
  honoured : ∀ newer older id holder, log = newer ++ .honoured id holder :: older →
    .given id holder ∈ older ∧ .withdrawn id ∉ older

theorem mem_tickets {log : List (Entry Id Holder)} {id : Id} :
    id ∈ tickets log ↔ ∃ holder, .given id holder ∈ log := by
  unfold tickets
  rw [List.mem_filterMap]
  constructor
  · rintro ⟨entry, hmem, hid⟩
    cases entry with
    | given id' holder => cases hid; exact ⟨holder, hmem⟩
    | withdrawn id' => cases hid
    | honoured id' holder => cases hid
  · rintro ⟨holder, hmem⟩
    exact ⟨_, hmem, rfl⟩

/-- A ticket that was given once has one holder. -/
theorem given_unique {log : List (Entry Id Holder)} (h : (tickets log).Nodup) {id : Id}
    {holder holder' : Holder} (hgiven : .given id holder ∈ log)
    (hgiven' : .given id holder' ∈ log) : holder = holder' := by
  induction log with
  | nil => cases hgiven
  | cons entry log ih =>
    have hrest : (tickets log).Nodup := by
      refine h.sublist ?_
      exact (List.sublist_cons_self entry log).filterMap _
    -- the newest entry gives a ticket that no older entry gives
    have hnew : ∀ {holder holder'}, entry = .given id holder → .given id holder' ∈ log → False := by
      rintro a b rfl hold
      exact (List.nodup_cons.1 h).1 (mem_tickets.2 ⟨b, hold⟩)
    rcases List.mem_cons.1 hgiven with heq | hold
    · rcases List.mem_cons.1 hgiven' with heq' | hold'
      · exact (Entry.given.inj (heq.trans heq'.symm)).2
      · exact (hnew heq.symm hold').elim
    · rcases List.mem_cons.1 hgiven' with heq' | hold'
      · exact (hnew heq'.symm hold).elim
      · exact ih hrest hold hold'

theorem sound_empty (number : Id → ℕ) (next : ℕ) :
    Sound number (fun _ => (none : Option Holder)) next [] := by
  refine ⟨?_, ?_, ?_, List.nodup_nil, ?_⟩
  · intro id holder h; cases h
  · intro id h; cases h
  · intro id holder h; cases h
  · intro newer older id holder h
    cases newer <;> cases h

namespace Sound

variable {number : Id → ℕ} {table : Id → Option Holder} {next : ℕ} {log : List (Entry Id Holder)}
  {id : Id} {holder : Holder}

/-- An entry that honours nothing leaves what was honoured as it was. -/
theorem honoured_cons (h : Sound number table next log) {entry : Entry Id Holder}
    (hentry : ∀ id holder, entry ≠ .honoured id holder) :
    ∀ newer older id holder, entry :: log = newer ++ .honoured id holder :: older →
      .given id holder ∈ older ∧ .withdrawn id ∉ older := by
  intro newer older id holder hsplit
  rcases newer with _ | ⟨first, newer⟩
  · exact absurd (List.cons.inj hsplit).1 (hentry id holder)
  · exact h.honoured newer older id holder (List.cons.inj hsplit).2

/-- **A new ticket is given out**, with the next number. -/
theorem give [DecidableEq Id] (h : Sound number table next log) (hid : number id = next) :
    Sound number (Function.update table id (some holder)) (next + 1) (.given id holder :: log) := by
  -- the number is above every number in the log
  have hfresh : ∀ holder, .given id holder ∉ log := by
    intro holder' hmem
    have hlt := h.given_below id holder' hmem
    omega
  have hkept : .withdrawn id ∉ log := by
    intro hmem
    have hlt := h.withdrawn_below id hmem
    omega
  refine ⟨?_, ?_, ?_, ?_, h.honoured_cons fun _ _ heq => by cases heq⟩
  · intro id' holder' hmem
    rcases List.mem_cons.1 hmem with heq | hold
    · cases heq; omega
    · have hlt := h.given_below id' holder' hold
      omega
  · intro id' hmem
    rcases List.mem_cons.1 hmem with heq | hold
    · cases heq
    · have hlt := h.withdrawn_below id' hold
      omega
  · intro id' holder' htable
    rcases eq_or_ne id' id with rfl | hne
    · rw [Function.update_self] at htable
      cases htable
      exact ⟨List.mem_cons_self, by simpa using hkept⟩
    · rw [Function.update_of_ne hne] at htable
      obtain ⟨hgiven, hnot⟩ := h.held id' holder' htable
      exact ⟨List.mem_cons_of_mem _ hgiven, by simpa using hnot⟩
  · refine List.nodup_cons.2 ⟨?_, h.once⟩
    intro hmem
    obtain ⟨holder', hgiven⟩ := mem_tickets.1 hmem
    exact hfresh holder' hgiven

/-- **A ticket is taken back.** -/
theorem withdraw [DecidableEq Id] (h : Sound number table next log) (htable : table id = some holder) :
    Sound number (Function.update table id none) next (.withdrawn id :: log) := by
  refine ⟨?_, ?_, ?_, h.once, h.honoured_cons fun _ _ heq => by cases heq⟩
  · intro id' holder' hmem
    rcases List.mem_cons.1 hmem with heq | hold
    · cases heq
    · exact h.given_below id' holder' hold
  · intro id' hmem
    rcases List.mem_cons.1 hmem with heq | hold
    · cases heq
      exact h.given_below id holder (h.held id holder htable).1
    · exact h.withdrawn_below id' hold
  · intro id' holder' htable'
    rcases eq_or_ne id' id with rfl | hne
    · rw [Function.update_self] at htable'; cases htable'
    · rw [Function.update_of_ne hne] at htable'
      obtain ⟨hgiven, hnot⟩ := h.held id' holder' htable'
      refine ⟨List.mem_cons_of_mem _ hgiven, ?_⟩
      intro hmem
      rcases List.mem_cons.1 hmem with heq | hold
      · cases heq; exact hne rfl
      · exact hnot hold

/-- **A ticket is honoured** for the one who holds it. -/
theorem honour (h : Sound number table next log) (htable : table id = some holder) :
    Sound number table next (.honoured id holder :: log) := by
  refine ⟨?_, ?_, ?_, h.once, ?_⟩
  · intro id' holder' hmem
    rcases List.mem_cons.1 hmem with heq | hold
    · cases heq
    · exact h.given_below id' holder' hold
  · intro id' hmem
    rcases List.mem_cons.1 hmem with heq | hold
    · cases heq
    · exact h.withdrawn_below id' hold
  · intro id' holder' htable'
    obtain ⟨hgiven, hnot⟩ := h.held id' holder' htable'
    exact ⟨List.mem_cons_of_mem _ hgiven, by simpa using hnot⟩
  · intro newer older id' holder' hsplit
    rcases newer with _ | ⟨first, newer⟩
    · obtain ⟨heq, rfl⟩ := List.cons.inj hsplit
      cases heq
      exact h.held id holder htable
    · exact h.honoured newer older id' holder' (List.cons.inj hsplit).2

end Sound

end Tickets
