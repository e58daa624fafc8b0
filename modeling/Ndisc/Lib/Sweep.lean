import Mathlib.Tactic

/-!
# Erasing by index

A loop over the indices of a list, from the last to the first, that erases the elements
it is to drop. Only elements that it has already looked at move.

* `sweepFrom_eq`: what the loop has done when `i` indices are left.
* `sweep_eq_filter`: **the loop drops exactly the elements it is to drop, and keeps the
  order of the others.**
-/

namespace Sweep

variable {α : Type*} (drop : α → Bool)

/-- The rounds with the indices below `i`. -/
def sweepFrom : (i : ℕ) → (l : List α) → i ≤ l.length → List α
  | 0, l, _ => l
  | i + 1, l, h =>
    if drop l[i] then
      sweepFrom i (l.eraseIdx i) (by rw [List.length_eraseIdx_of_lt (by omega)]; omega)
    else sweepFrom i l (by omega)

def sweep (l : List α) : List α := sweepFrom drop l.length l le_rfl

/-- **When `i` indices are left**, what is behind them stays as it is. -/
theorem sweepFrom_eq (i : ℕ) (l : List α) (h : i ≤ l.length) :
    sweepFrom drop i l h = (l.take i).filter (fun x => !drop x) ++ l.drop i := by
  induction i generalizing l with
  | zero => simp [sweepFrom]
  | succ i ih =>
    have hsplit : l.take (i + 1) = l.take i ++ [l[i]] := by
      rw [List.take_append_getElem h]
    rw [sweepFrom, hsplit, List.filter_append]
    cases hdrop : drop l[i] with
    | true =>
      have htake : (l.eraseIdx i).take i = l.take i := List.take_eraseIdx_eq_take_of_le l i i le_rfl
      have hrest : (l.eraseIdx i).drop i = l.drop (i + 1) := by
        rw [List.eraseIdx_eq_take_drop_succ, List.drop_append_of_le_length (by simp; omega)]
        simp
      simp [ih, htake, hrest, hdrop]
    | false =>
      rw [if_neg (by simp), ih, List.append_assoc]
      congr 1
      rw [List.drop_eq_getElem_cons h]
      simp [hdrop]

/-- **The loop is a filter.** -/
theorem sweep_eq_filter (l : List α) : sweep drop l = l.filter fun x => !drop x := by
  rw [sweep, sweepFrom_eq, List.take_length, List.drop_length, List.append_nil]

end Sweep
