import Ndisc.Lib.Wire

/-!
# Records in a byte stream

A host lays records one after another, each with its length in front and filled up to a
multiple of four bytes. A reader walks over them in a `for` loop.

* `toNat_roundUp`: rounding up by a mask, as long as nothing wraps.
* `u16Of_eq`, `u32Of_eq`: a field of a record, found between its neighbours.
* `collect_eq`: **a loop that gets every item at its turn collects them all, in order**.
-/

namespace Records

open Wire

/-! ## Rounding up to four -/

/-- The multiple of four that `len` fills, in 32 bits. -/
def roundUp (len : UInt32) : UInt32 := (len + 4 - 1) &&& ~~~(4 - 1)

/-- The same of a 64-bit length, by the same mask, which is 32 bits wide. -/
def roundUpWide (len : UInt64) : UInt64 := (len + 4 - 1) &&& (~~~(4 - 1) : UInt32).toUInt64

/-- A mask with its lowest bits clear. -/
theorem and_mask (n k w : ℕ) : n &&& ((2 ^ w - 1) <<< k) = n % 2 ^ (k + w) / 2 ^ k * 2 ^ k := by
  apply Nat.eq_of_testBit_eq
  intro i
  rw [Nat.testBit_and, Nat.testBit_shiftLeft, Nat.testBit_two_pow_sub_one, Nat.testBit_mul_two_pow,
    Nat.testBit_div_two_pow, Nat.testBit_mod_two_pow]
  rcases Nat.lt_or_ge i k with hlow | hhigh
  · simp [Nat.not_le.2 hlow]
  · have hsum : i - k + k = i := Nat.sub_add_cancel hhigh
    have hiff : i - k < w ↔ i < k + w := by omega
    simp [hhigh, hsum, hiff, Bool.and_comm]

theorem toNat_roundUp {len : UInt32} (h : len.toNat + 3 < 2 ^ 32) :
    (roundUp len).toNat = (len.toNat + 3) / 4 * 4 := by
  have hsum : (len + 4 - 1).toNat = len.toNat + 3 := by
    rw [UInt32.toNat_sub, UInt32.toNat_add, show (4 : UInt32).toNat = 4 from rfl, show (1 : UInt32).toNat = 1 from rfl]
    omega
  have hmask : (~~~(4 - 1) : UInt32).toNat = (2 ^ 30 - 1) <<< 2 := by decide
  rw [roundUp, UInt32.toNat_and, hsum, hmask, and_mask, Nat.mod_eq_of_lt h]
  rfl

/-- The mask of a 64-bit length drops its high half too. -/
theorem toNat_roundUpWide {len : UInt64} (h : len.toNat + 3 < 2 ^ 64) :
    (roundUpWide len).toNat = (len.toNat + 3) / 4 * 4 % 2 ^ 32 := by
  have hsum : (len + 4 - 1).toNat = len.toNat + 3 := by
    rw [UInt64.toNat_sub, UInt64.toNat_add, show (4 : UInt64).toNat = 4 from rfl, show (1 : UInt64).toNat = 1 from rfl]
    omega
  have hmask : (~~~(4 - 1) : UInt32).toUInt64.toNat = (2 ^ 30 - 1) <<< 2 := by decide
  rw [roundUpWide, UInt64.toNat_and, hsum, hmask, and_mask]
  omega

/-! ## Fields of a record -/

section

variable {m : ℕ} (d : Octets m)

def u8Of (off : ℕ) (h : off < m := by decide) : UInt8 := d.get ⟨off, h⟩

def u16Of (off : ℕ) (h : off + 2 ≤ m := by decide) : UInt16 :=
  UInt16.ofNat (leValue (slice d off 2 h).toList)

def u32Of (off : ℕ) (h : off + 4 ≤ m := by decide) : UInt32 :=
  UInt32.ofNat (leValue (slice d off 4 h).toList)

end

def u16Octets (n : UInt16) : Octets 2 := leOctets 2 n.toNat

def u32Octets (n : UInt32) : Octets 4 := leOctets 4 n.toNat

section

variable {m off : ℕ} {d : Octets m}

theorem u8Of_eq {h : off < m} {b : UInt8} (pre post : Bytes) (hd : d.toList = pre ++ b :: post)
    (hpre : pre.length = off) : u8Of d off h = b := by
  obtain ⟨bytes, hlen⟩ := d
  change bytes = pre ++ b :: post at hd
  subst hd hpre
  simp [u8Of, List.Vector.get]

theorem u16Of_eq {h : off + 2 ≤ m} {n : UInt16} (pre post : Bytes)
    (hd : d.toList = pre ++ (u16Octets n).toList ++ post) (hpre : pre.length = off) :
    u16Of d off h = n := by
  have hn : n.toNat < 256 ^ 2 := n.toNat_lt
  rw [u16Of, slice_eq pre post hd hpre, u16Octets, leValue_leOctets hn, UInt16.ofNat_toNat]

theorem u32Of_eq {h : off + 4 ≤ m} {n : UInt32} (pre post : Bytes)
    (hd : d.toList = pre ++ (u32Octets n).toList ++ post) (hpre : pre.length = off) :
    u32Of d off h = n := by
  have hn : n.toNat < 256 ^ 4 := n.toNat_lt
  rw [u32Of, slice_eq pre post hd hpre, u32Octets, leValue_leOctets hn, UInt32.ofNat_toNat]

end

/-! ## Walking over the records -/

section

variable {σ α β : Type}

/-- A `for` loop over positions, at most `fuel` rounds: `next` gives the item there and the
next position, or ends the loop. -/
def collect (next : σ → Except Fault (Option (α × σ))) : ℕ → σ → Except Fault (List α)
  | 0, _ => .error .outOfFuel
  | fuel + 1, s => do
    match ← next s with
    | none => .ok []
    | some (item, s') =>
      let items ← collect next fuel s'
      .ok (item :: items)

/-- **Every item is collected, once and in order**, if `next` gives each one at the position
after those before it, and ends the loop after the last. -/
theorem collect_eq {next : σ → Except Fault (Option (α × σ))} {view : β → α}
    (position : List β → List β → σ) {items : List β}
    (hnext : ∀ before item after, items = before ++ item :: after →
      next (position before (item :: after)) =
        .ok (some (view item, position (before ++ [item]) after)))
    (hend : next (position items []) = .ok none) {fuel : ℕ} (hfuel : items.length < fuel) :
    collect next fuel (position [] items) = .ok (items.map view) := by
  -- induction on the items that are left, at the position after those before them
  suffices hgen : ∀ after before fuel, items = before ++ after → after.length < fuel →
      collect next fuel (position before after) = .ok (after.map view) from
    hgen items [] fuel rfl hfuel
  intro after
  induction after with
  | nil =>
    intro before fuel hsplit hfuel
    obtain ⟨fuel, rfl⟩ : ∃ k, fuel = k + 1 := ⟨fuel - 1, by omega⟩
    rw [List.append_nil] at hsplit
    rw [collect, ← hsplit, hend]
    rfl
  | cons item after ih =>
    intro before fuel hsplit hfuel
    rw [List.length_cons] at hfuel
    obtain ⟨fuel, rfl⟩ : ∃ k, fuel = k + 1 := ⟨fuel - 1, by omega⟩
    have hrest := ih (before ++ [item]) fuel (by rw [hsplit, List.append_assoc]; rfl) (by omega)
    rw [collect, hnext before item after hsplit, ok_bind]
    simp only [hrest, ok_bind, List.map_cons]

end

end Records
