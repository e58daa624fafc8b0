import Ndisc.Lib.Records

/-!
# Where a walk over records gets to

The next record starts where the one before it ends, its padding included. `more p` says
that there is a record to take at position `p`, and `jump p` how far it is to the next.

* `Reaches`, `Visits`: the positions that a walk gets to, and the list of those it takes.
* `collect_visits`: a loop that is safe wherever it gets to takes every record on its way.
* `collect_ok_iff`: **a loop comes to an end exactly if no unsafe record is on its way**.
* `Visits.flatten`: the records that a walk takes lie one after another.
* `collect_extend`: what a loop finds, it finds in more data too.
-/

namespace Records

open Wire

/-! ## Numbers in a byte string -/

/-- The number that `k` bytes spell from `p` on, the least significant byte first. -/
def leAt (bs : Bytes) (p k : ℕ) : ℕ := leValue ((bs.drop p).take k)

/-- The multiple of four that `n` bytes fill. -/
def padded (n : ℕ) : ℕ := (n + 3) / 4 * 4

theorem le_padded (n : ℕ) : n ≤ padded n := by
  unfold padded; omega

theorem padded_lt (n : ℕ) : padded n < n + 4 := by
  unfold padded; omega

theorem leValue_lt (bs : Bytes) : leValue bs < 256 ^ bs.length := by
  induction bs with
  | nil => exact Nat.one_pos
  | cons b bs ih =>
    have hb := b.toNat_lt
    rw [leValue, List.length_cons, pow_succ]
    omega

theorem toNat_ofNat_small {n : ℕ} (h : n < 2 ^ 64) : (UInt64.ofNat n).toNat = n :=
  UInt64.toNat_ofNat_of_lt' h

theorem leAt_lt (bs : Bytes) (p k : ℕ) : leAt bs p k < 256 ^ k :=
  (leValue_lt _).trans_le (Nat.pow_le_pow_right (by decide) (List.length_take_le _ _))

/-- A number is in its own bytes. -/
theorem leAt_take {bs : Bytes} {p k n : ℕ} (h : p + k ≤ n) : leAt (bs.take n) p k = leAt bs p k := by
  rw [leAt, leAt, List.drop_take, List.take_take, Nat.min_eq_left (by omega)]

theorem leAt_drop (bs : Bytes) (n p k : ℕ) : leAt (bs.drop n) p k = leAt bs (n + p) k := by
  rw [leAt, leAt, List.drop_drop]

section

variable {m off : ℕ} {d : Octets m} {bs : Bytes} {p : ℕ}

theorem toNat_u16Of {h : off + 2 ≤ m} (hd : d.toList = (bs.drop p).take m) :
    (u16Of d off h).toNat = leAt bs (p + off) 2 := by
  have hslice : (slice d off 2 h).toList = (bs.drop (p + off)).take 2 := by
    show (d.toList.drop off).take 2 = _
    rw [hd, List.drop_take, List.take_take, List.drop_drop, Nat.min_eq_left (by omega)]
  have hlt := leAt_lt bs (p + off) 2
  rw [u16Of, hslice]
  exact UInt16.toNat_ofNat_of_lt' hlt

theorem u16Of_leAt {h : off + 2 ≤ m} (hd : d.toList = (bs.drop p).take m) :
    u16Of d off h = UInt16.ofNat (leAt bs (p + off) 2) := by
  apply UInt16.toNat_inj.1
  rw [UInt16.toNat_ofNat_of_lt' (leAt_lt bs (p + off) 2)]
  exact toNat_u16Of hd

theorem toNat_u32Of {h : off + 4 ≤ m} (hd : d.toList = (bs.drop p).take m) :
    (u32Of d off h).toNat = leAt bs (p + off) 4 := by
  have hslice : (slice d off 4 h).toList = (bs.drop (p + off)).take 4 := by
    show (d.toList.drop off).take 4 = _
    rw [hd, List.drop_take, List.take_take, List.drop_drop, Nat.min_eq_left (by omega)]
  have hlt := leAt_lt bs (p + off) 4
  rw [u32Of, hslice]
  exact UInt32.toNat_ofNat_of_lt' hlt

end

/-! ## Walks -/

section

variable (more : ℕ → Prop) (jump : ℕ → ℕ)

/-- The positions that a walk from `start` gets to. -/
inductive Reaches (start : ℕ) : ℕ → Prop
  | start : Reaches start start
  | jump {p : ℕ} : Reaches start p → more p → Reaches start (p + jump p)

/-- A walk takes the records at `ps`, and ends where there is none. -/
inductive Visits : ℕ → List ℕ → ℕ → Prop
  | stop {p : ℕ} : ¬ more p → Visits p [] p
  | jump {p q : ℕ} {ps : List ℕ} : more p → Visits (p + jump p) ps q → Visits p (p :: ps) q

end

section

variable {more : ℕ → Prop} {jump : ℕ → ℕ} {p q start : ℕ} {ps : List ℕ}

/-- Where a walk gets to after its first record. -/
theorem Reaches.later (hmore : more p) (h : Reaches more jump (p + jump p) q) :
    Reaches more jump p q := by
  induction h with
  | start => exact .jump .start hmore
  | jump _ hq ih => exact .jump ih hq

/-- A walk does not leave what every step keeps. -/
theorem Reaches.keeps {S : ℕ → Prop} (h : Reaches more jump start q) (hstart : S start)
    (hjump : ∀ p, S p → more p → S (p + jump p)) : S q := by
  induction h with
  | start => exact hstart
  | jump _ hmore ih => exact hjump _ ih hmore

theorem Visits.ends (h : Visits more jump p ps q) : ¬ more q := by
  induction h with
  | stop hend => exact hend
  | jump _ _ ih => exact ih

theorem Visits.more_of_mem (h : Visits more jump p ps q) : ∀ r ∈ ps, more r := by
  induction h with
  | stop _ =>
    intro r hr
    cases hr
  | jump hmore _ ih =>
    intro r hr
    rcases List.mem_cons.1 hr with rfl | hr
    · exact hmore
    · exact ih r hr

theorem Visits.reaches (h : Visits more jump p ps q) : ∀ r ∈ ps, Reaches more jump p r := by
  induction h with
  | stop _ =>
    intro r hr
    cases hr
  | jump hmore _ ih =>
    intro r hr
    rcases List.mem_cons.1 hr with rfl | hr
    · exact .start
    · exact (ih r hr).later hmore

/-- **The records lie one after another**, and the rest of the data after them. -/
theorem Visits.flatten (h : Visits more jump p ps q) (bs : Bytes) :
    bs.drop p = (ps.map fun r => (bs.drop r).take (jump r)).flatten ++ bs.drop q := by
  induction h with
  | stop _ => rfl
  | jump _ _ ih =>
    rw [List.map_cons, List.flatten_cons, List.append_assoc, ← ih, ← List.drop_drop,
      List.take_append_drop]

end

/-! ## Loops -/

section

variable {σ α : Type} {next : σ → Except Fault (Option (α × σ))} {more safe : ℕ → Prop}
  {jump : ℕ → ℕ} (state : ℕ → σ) {item : ℕ → α} {start stop : ℕ}

/-- **A loop that is safe wherever it gets to** takes every record on its way. -/
theorem collect_visits (hend : ∀ p ≤ stop, ¬ more p → next (state p) = .ok none)
    (hnext : ∀ p ≤ stop, more p → safe p → 0 < jump p ∧ p + jump p ≤ stop ∧
      next (state p) = .ok (some (item p, state (p + jump p))))
    (hsafe : ∀ p, Reaches more jump start p → more p → safe p) (hstart : start ≤ stop) {fuel : ℕ}
    (hfuel : stop - start < fuel) :
    ∃ ps q, Visits more jump start ps q ∧ collect next fuel (state start) = .ok (ps.map item) := by
  induction fuel generalizing start with
  | zero => omega
  | succ fuel ih =>
    by_cases hmore : more start
    · obtain ⟨hpos, hin, hround⟩ := hnext start hstart hmore (hsafe start .start hmore)
      obtain ⟨ps, q, hvisits, hrest⟩ := ih (fun p hp => hsafe p (hp.later hmore)) hin (by omega)
      refine ⟨start :: ps, q, .jump hmore hvisits, ?_⟩
      rw [collect, hround]
      simp only [ok_bind, hrest, List.map_cons]
    · refine ⟨[], start, .stop hmore, ?_⟩
      rw [collect, hend start hstart hmore]
      rfl

/-- A loop that comes to an end does so from everywhere it gets to. -/
theorem collect_of_reaches
    (hnext : ∀ p ≤ stop, more p → safe p → 0 < jump p ∧ p + jump p ≤ stop ∧
      next (state p) = .ok (some (item p, state (p + jump p))))
    (hstuck : ∀ p ≤ stop, more p → ¬ safe p → ∀ fuel items, collect next fuel (state p) ≠ .ok items)
    (hstart : start ≤ stop) {fuel : ℕ} {items : List α}
    (h : collect next fuel (state start) = .ok items) {p : ℕ} (hp : Reaches more jump start p) :
    p ≤ stop ∧ ∃ fuel items, collect next fuel (state p) = .ok items := by
  induction hp with
  | start => exact ⟨hstart, fuel, items, h⟩
  | @jump p _ hmore ih =>
    obtain ⟨hp, fuel, items, hcollect⟩ := ih
    have hsafe : safe p := by
      by_contra hnot
      exact hstuck p hp hmore hnot fuel items hcollect
    obtain ⟨-, hin, hround⟩ := hnext p hp hmore hsafe
    refine ⟨hin, ?_⟩
    cases fuel with
    | zero => cases hcollect
    | succ fuel =>
      rw [collect, hround, ok_bind, bind_eq_ok] at hcollect
      obtain ⟨rest, hrest, -⟩ := hcollect
      exact ⟨fuel, rest, hrest⟩

/-- **A loop comes to an end exactly if no unsafe record is on its way**, where one that is
keeps it from ending. -/
theorem collect_ok_iff (hend : ∀ p ≤ stop, ¬ more p → next (state p) = .ok none)
    (hnext : ∀ p ≤ stop, more p → safe p → 0 < jump p ∧ p + jump p ≤ stop ∧
      next (state p) = .ok (some (item p, state (p + jump p))))
    (hstuck : ∀ p ≤ stop, more p → ¬ safe p → ∀ fuel items, collect next fuel (state p) ≠ .ok items)
    (hstart : start ≤ stop) {fuel : ℕ} (hfuel : stop - start < fuel) :
    (∃ items, collect next fuel (state start) = .ok items) ↔
      ∀ p, Reaches more jump start p → more p → safe p := by
  constructor
  · rintro ⟨items, h⟩ p hreach hmore
    by_contra hnot
    obtain ⟨hp, fuel', items', hcollect⟩ := collect_of_reaches state hnext hstuck hstart h hreach
    exact hstuck p hp hmore hnot fuel' items' hcollect
  · intro hsafe
    obtain ⟨ps, q, -, hcollect⟩ := collect_visits state hend hnext hsafe hstart hfuel
    exact ⟨ps.map item, hcollect⟩

/-- **What a loop finds, it finds in more data too**, and with more fuel. -/
theorem collect_extend {next' : σ → Except Fault (Option (α × σ))}
    (hround : ∀ s r, next s = .ok r → next' s = .ok r) {fuel fuel' : ℕ} (hfuel : fuel ≤ fuel')
    {s : σ} {items : List α} (h : collect next fuel s = .ok items) :
    collect next' fuel' s = .ok items := by
  induction fuel generalizing fuel' s items with
  | zero => cases h
  | succ fuel ih =>
    obtain ⟨fuel', rfl⟩ : ∃ k, fuel' = k + 1 := ⟨fuel' - 1, by omega⟩
    rw [collect, bind_eq_ok] at h
    obtain ⟨r, hr, hrest⟩ := h
    rw [collect, hround s r hr, ok_bind]
    cases r with
    | none => exact hrest
    | some found =>
      obtain ⟨item, s'⟩ := found
      simp only [bind_eq_ok] at hrest ⊢
      obtain ⟨rest, hrec, hitems⟩ := hrest
      exact ⟨rest, ih (by omega) hrec, hitems⟩

end

end Records
