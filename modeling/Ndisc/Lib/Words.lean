import Mathlib.Tactic

/-!
# 16-bit counters in 64-bit arithmetic

A `uint16_t` counter meets a `uint64_t` amount: both are widened, added, subtracted or
compared modulo `2^64`, and an assignment cuts the result to 16 bits again.

* `toNat_add_cut`, `toNat_sub_cut`: what comes back after the cut.
-/

namespace Words

theorem lt_widen_iff (c : UInt16) (d : UInt64) : d < c.toUInt64 ↔ d.toNat < c.toNat := by
  rw [UInt64.lt_iff_toNat_lt, UInt16.toNat_toUInt64]

theorem add_widen_le_iff (c m : UInt16) (d : UInt64) :
    c.toUInt64 + d ≤ m.toUInt64 ↔ (c.toNat + d.toNat) % 2 ^ 64 ≤ m.toNat := by
  rw [UInt64.le_iff_toNat_le, UInt64.toNat_add, UInt16.toNat_toUInt64, UInt16.toNat_toUInt64]

/-- A sum that is within 16 bits (after the wrap at `2^64`) survives the cut. -/
theorem toNat_add_cut {c m : UInt16} {d : UInt64} (h : c.toUInt64 + d ≤ m.toUInt64) :
    (c.toUInt64 + d).toUInt16.toNat = (c.toNat + d.toNat) % 2 ^ 64 := by
  have hm := m.toNat_lt
  have hle := (add_widen_le_iff c m d).1 h
  rw [UInt64.toNat_toUInt16, UInt64.toNat_add, UInt16.toNat_toUInt64]
  omega

/-- A difference that does not wrap survives the cut. -/
theorem toNat_sub_cut {c : UInt16} {d : UInt64} (h : d.toNat ≤ c.toNat) :
    (c.toUInt64 - d).toUInt16.toNat = c.toNat - d.toNat := by
  have hc := c.toNat_lt
  have hle : d ≤ c.toUInt64 := by
    rw [UInt64.le_iff_toNat_le, UInt16.toNat_toUInt64]; exact h
  rw [UInt64.toNat_toUInt16, UInt64.toNat_sub_of_le _ _ hle, UInt16.toNat_toUInt64]
  omega

/-- Counting down from a positive counter. -/
theorem toNat_pred {c : UInt16} (h : 0 < c) : (c - 1).toNat + 1 = c.toNat := by
  have hpos : 0 < c.toNat := by simpa [UInt16.lt_iff_toNat_lt] using h
  have hle : (1 : UInt16) ≤ c := by rw [UInt16.le_iff_toNat_le, UInt16.toNat_one]; exact hpos
  rw [UInt16.toNat_sub_of_le _ _ hle]
  rw [UInt16.toNat_one]
  omega

end Words
