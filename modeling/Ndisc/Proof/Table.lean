import Ndisc.Lib.Lease
import Ndisc.Lib.Words
import Ndisc.Proof.Bounds

/-!
# The neighbour table refines a table of leases

Each accepted frame is the grant of a lease for its chassis and port, each tick lets
time pass (`TableOp.event`).

* `tick_lookup`: what `NeighbourList::Tick` does to every pair.
* `refines_store`, `refines_tick`: one step.
* `run_refines`: **after any calls, the two-level map holds exactly the live leases**,
  with the time left; no chassis has an empty port map.
-/

namespace Ndisc

open Wire Lease

/-! ## Calls as leases -/

/-- The entry an accepted frame carries. -/
def carried (address : SockaddrLl) (frame : Bytes) : Option NeighbourEntry :=
  if address.accepted then
    match LLDPDataUnit.fromSpan frame with
    | .ok (some u) => (lldpduToNeighbourEntry u (narrowIfindex address.sllIfindex)).toOption
    | _ => none
  else none

/-- A frame rejected by the checks on its address, or by the parser. -/
def Rejected (address : SockaddrLl) (frame : Bytes) : Prop :=
  address.accepted = false ∨ LLDPDataUnit.fromSpan frame = .ok none

/-- The key an entry is stored under. -/
def NeighbourEntry.key (entry : NeighbourEntry) : Bytes × Bytes := (entry.chassisId, entry.portId)

def TableOp.event : TableOp → Option (Event (Bytes × Bytes) NeighbourEntry)
  | .frame address bytes =>
    (carried address bytes).map fun entry => .write entry.key entry.timeToLive.toNat entry
  | .tick deltaSeconds => some (.tick deltaSeconds.toNat)

/-- The calls in question: a frame whose TTL TLV has two bytes or more, and any tick. -/
def TableOp.Admissible : TableOp → Prop
  | .frame _ bytes =>
    ∀ u, LLDPDataUnit.fromSpan bytes = .ok (some u) → 2 ≤ u.timeToLive.value.length
  | .tick _ => True

/-- The leases granted by a list of calls. -/
def granted (ops : List TableOp) : Bytes × Bytes → Option (Grant NeighbourEntry) :=
  history (ops.filterMap TableOp.event)

/-! ## The frame parser -/

theorem lldpFrameParser_rejected (nl : NeighbourList) {address : SockaddrLl} {frame : Bytes}
    (h : Rejected address frame) : lldpFrameParser nl address frame = .ok nl := by
  rw [lldpFrameParser]
  rcases h with h | h
  · simp [h]
  · cases address.accepted <;> simp [h]

/-- **A frame is stored or ignored.** -/
theorem lldpFrameParser_eq (nl : NeighbourList) {address : SockaddrLl} {frame : Bytes}
    (h : (TableOp.frame address frame).Admissible) :
    lldpFrameParser nl address frame = .ok (match carried address frame with
      | some entry => nl.store entry
      | none => nl) := by
  cases hacc : address.accepted with
  | false => rw [lldpFrameParser_rejected nl (Or.inl hacc)]; simp [carried, hacc]
  | true =>
    rcases dataUnit_fromSpan_cases frame with hnone | ⟨u, rest, hsome, -, -, -⟩
    · rw [lldpFrameParser_rejected nl (Or.inr hnone)]; simp [carried, hacc, hnone]
    · obtain ⟨entry, hentry⟩ :=
        lldpduToNeighbourEntry_ok (h u hsome) (narrowIfindex address.sllIfindex)
      simp [lldpFrameParser, carried, hacc, hsome, hentry, Except.toOption]

theorem lookup_store (nl : NeighbourList) (entry : NeighbourEntry) (chassis port : Bytes) :
    (nl.store entry).lookup chassis port =
      if (chassis, port) = entry.key then some entry else nl.lookup chassis port := by
  simp only [NeighbourList.lookup, NeighbourList.store, NestedMap.lookup_assign,
    NeighbourEntry.key, Prod.mk.injEq]

/-! ## The clock -/

theorem outlives_iff (entry : NeighbourEntry) (d : UInt64) :
    entry.outlives d = true ↔ d.toNat < entry.timeToLive.toNat := by
  simp only [NeighbourEntry.outlives, decide_eq_true_eq, gt_iff_lt, Words.lt_widen_iff]

/-- The subtraction of `Tick`, in natural numbers: no 16-bit wrap. -/
theorem age_eq {entry : NeighbourEntry} {d : UInt64} (h : d.toNat < entry.timeToLive.toNat) :
    entry.age d = { entry with
      timeToLive := UInt16.ofNat (entry.timeToLive.toNat - d.toNat) } := by
  have hsub : (entry.timeToLive.toUInt64 - d).toUInt16 =
      UInt16.ofNat (entry.timeToLive.toNat - d.toNat) := by
    rw [← Words.toNat_sub_cut (c := entry.timeToLive) (d := d) (by omega), UInt16.ofNat_toNat]
  rw [NeighbourEntry.age, if_pos ((outlives_iff entry d).2 h), hsub]

theorem mem_timedOutEntries (nl : NeighbourList) (d : UInt64) (chassis port : Bytes) :
    (chassis, port) ∈ nl.timedOutEntries d ↔
      ∃ entry, nl.lookup chassis port = some entry ∧ entry.timeToLive.toNat ≤ d.toNat := by
  -- the list is the walk over both levels, filtered
  have hwalk := NestedMap.mem_walk nl.chassisMap
    (fun c p (entry : NeighbourEntry) => if entry.outlives d then none else some (c, p)) (chassis, port)
  rw [NeighbourList.timedOutEntries, hwalk]
  constructor
  · rintro ⟨c, p, entry, hlook, h⟩
    have hout := outlives_iff entry d
    split at h
    · simp at h
    · rename_i hno
      simp only [Option.some.injEq, Prod.mk.injEq] at h
      obtain ⟨rfl, rfl⟩ := h
      exact ⟨entry, hlook, by rw [hout] at hno; omega⟩
  · rintro ⟨entry, hlook, hle⟩
    have hout := outlives_iff entry d
    refine ⟨chassis, port, entry, hlook, if_neg ?_⟩
    rw [hout]; omega

/-- **What `Tick` does to every pair.** -/
theorem tick_lookup (nl : NeighbourList) (d : UInt64) (chassis port : Bytes) :
    (nl.tick d).lookup chassis port = (nl.lookup chassis port).bind fun entry =>
      if d.toNat < entry.timeToLive.toNat then
        some { entry with timeToLive := UInt16.ofNat (entry.timeToLive.toNat - d.toNat) }
      else none := by
  rw [NeighbourList.lookup, NeighbourList.tick, NestedMap.lookup_pruneAll, NestedMap.lookup_mapValues]
  have hmem := mem_timedOutEntries nl d chassis port
  cases hlook : nl.lookup chassis port with
  | none =>
    rw [NeighbourList.lookup] at hlook
    simp [hlook]
  | some entry =>
    rw [hlook] at hmem
    rw [NeighbourList.lookup] at hlook
    by_cases hlt : d.toNat < entry.timeToLive.toNat
    · have hno : (chassis, port) ∉ nl.timedOutEntries d := by
        rw [hmem]; rintro ⟨entry', h, hle⟩; cases h; omega
      simp [hno, hlook, hlt, age_eq hlt]
    · have hyes : (chassis, port) ∈ nl.timedOutEntries d := hmem.2 ⟨entry, rfl, by omega⟩
      simp [hyes, hlt]

theorem tick_dense {nl : NeighbourList} (h : NestedMap.Dense nl.chassisMap) (d : UInt64) :
    NestedMap.Dense (nl.tick d).chassisMap :=
  NestedMap.dense_pruneAll _ (NestedMap.dense_mapValues _ h)

/-! ## The refinement -/

/-- The table holds the live leases, with the time left. -/
structure Refines (nl : NeighbourList) (t : Bytes × Bytes → Option (Grant NeighbourEntry)) : Prop where
  lookup : ∀ chassis port, nl.lookup chassis port =
    (view t (chassis, port)).map fun r => { r.1 with timeToLive := UInt16.ofNat r.2 }
  ttl : ∀ key r, view t key = some r → r.2 < 65536
  key : ∀ key r, view t key = some r → r.1.key = key
  dense : NestedMap.Dense nl.chassisMap

theorem refines_empty : Refines .empty (history []) where
  lookup := by intro chassis port; simp [NeighbourList.lookup, NeighbourList.empty, NestedMap.lookup,
    view, history]
  ttl := by intro key r h; simp [view, history] at h
  key := by intro key r h; simp [view, history] at h
  dense := NestedMap.dense_empty

/-- An accepted frame. -/
theorem refines_store {nl : NeighbourList} {t : Bytes × Bytes → Option (Grant NeighbourEntry)}
    (h : Refines nl t) (entry : NeighbourEntry) :
    Refines (nl.store entry) (record t (.write entry.key entry.timeToLive.toNat entry)) where
  lookup := by
    intro chassis port
    rw [lookup_store, view_write]
    split
    · simp
    · exact h.lookup chassis port
  ttl := by
    intro key r hr
    rw [view_write] at hr
    split at hr
    · cases hr; exact entry.timeToLive.toNat_lt
    · exact h.ttl key r hr
  key := by
    intro key r hr
    rw [view_write] at hr
    split at hr
    · rename_i hk; cases hr; exact hk.symm
    · exact h.key key r hr
  dense := NestedMap.dense_assign h.dense _ _ _

/-- A tick. -/
theorem refines_tick {nl : NeighbourList} {t : Bytes × Bytes → Option (Grant NeighbourEntry)}
    (h : Refines nl t) (d : UInt64) : Refines (nl.tick d) (record t (.tick d.toNat)) where
  lookup := by
    intro chassis port
    rw [tick_lookup, view_tick, h.lookup]
    cases hv : view t (chassis, port) with
    | none => rfl
    | some r =>
      have hr := h.ttl _ r hv
      -- the time left was stored in 16 bits, and comes back unchanged
      have hnat : (UInt16.ofNat r.2).toNat = r.2 := UInt16.toNat_ofNat_of_lt' hr
      simp only [Option.map_some, Option.bind_some, hnat]
      split <;> rfl
  ttl := by
    intro key r hr
    rw [view_tick, Option.bind_eq_some_iff] at hr
    obtain ⟨r', hr', hif⟩ := hr
    have hlt := h.ttl key r' hr'
    split at hif <;> cases hif
    simp only; omega
  key := by
    intro key r hr
    rw [view_tick, Option.bind_eq_some_iff] at hr
    obtain ⟨r', hr', hif⟩ := hr
    have hkey := h.key key r' hr'
    split at hif <;> cases hif
    exact hkey
  dense := tick_dense h.dense d

theorem granted_concat (ops : List TableOp) (op : TableOp) :
    granted (ops ++ [op]) = match op.event with
      | some e => record (granted ops) e
      | none => granted ops := by
  rw [granted, List.filterMap_append]
  cases h : op.event <;> simp [h, granted, history_concat]

/-- **After any calls, the table refines the leases they granted.** -/
theorem run_refines (ops : List TableOp) (hops : ∀ op ∈ ops, op.Admissible) :
    ∃ nl, NeighbourList.run ops = .ok nl ∧ Refines nl (granted ops) := by
  -- the last call comes last in the history, so the induction is from the right
  induction ops using List.reverseRecOn with
  | nil => exact ⟨.empty, rfl, refines_empty⟩
  | append_singleton ops op ih =>
    obtain ⟨nl, hrun, hnl⟩ := ih fun x hx => hops x (List.mem_append_left _ hx)
    have hop := hops op (by simp)
    have hstep : NeighbourList.run (ops ++ [op]) = nl.step op := by
      rw [NeighbourList.run, List.foldlM_append, ← NeighbourList.run, hrun, ok_bind,
        List.foldlM_cons]
      cases nl.step op <;> rfl
    rw [hstep, granted_concat]
    cases op with
    | frame address frame =>
      rw [NeighbourList.step, lldpFrameParser_eq nl hop]
      simp only [TableOp.event]
      cases carried address frame with
      | none => exact ⟨nl, rfl, hnl⟩
      | some entry => exact ⟨nl.store entry, rfl, refines_store hnl entry⟩
    | tick d => exact ⟨nl.tick d, rfl, refines_tick hnl d⟩

/-- A live lease is the last write of its key, with the time that the ticks since leave. -/
theorem view_granted_iff (ops : List TableOp) (key : Bytes × Bytes) (r : NeighbourEntry × ℕ) :
    view (granted ops) key = some r ↔
      ∃ g, LastWrite (ops.filterMap TableOp.event) key g ∧ g.Live ∧
        r = (g.value, g.ttl - g.ticks.sum) := by
  simp only [view, granted, Option.bind_eq_some_iff, history_eq_some_iff]
  apply exists_congr
  intro g
  by_cases hg : g.Live <;> simp [hg, eq_comm]

/-- **The neighbour table is the table of live leases.** After any frames and ticks, a
pair is present exactly when some accepted frame carried it and the last such frame is
live: no tick since, or fewer seconds ticked since than its TTL. The entry is that
frame's, with the time left (in natural numbers, so nothing wraps). No chassis maps to
an empty port map, every entry carries the keys it is stored under, and a rejected
frame changes nothing. -/
theorem neighbourList_refines (ops : List TableOp) (hops : ∀ op ∈ ops, op.Admissible) :
    ∃ nl : NeighbourList, NeighbourList.run ops = .ok nl ∧
      (∀ chassis port entry, nl.lookup chassis port = some entry ↔
        ∃ g : Grant NeighbourEntry, LastWrite (ops.filterMap TableOp.event) (chassis, port) g ∧
          g.Live ∧ entry.timeToLive.toNat = g.ttl - g.ticks.sum ∧
          entry = { g.value with timeToLive := entry.timeToLive }) ∧
      (∀ (chassis : Bytes) (portMap : Std.ExtTreeMap Bytes NeighbourEntry),
        nl.chassisMap[chassis]? = some portMap → portMap ≠ ∅) ∧
      (∀ chassis port entry, nl.lookup chassis port = some entry →
        entry.chassisId = chassis ∧ entry.portId = port) ∧
      ∀ (table : NeighbourList) (address : SockaddrLl) (frame : Bytes), Rejected address frame →
        lldpFrameParser table address frame = .ok table := by
  obtain ⟨nl, hrun, hnl⟩ := run_refines ops hops
  refine ⟨nl, hrun, ?_, hnl.dense, ?_, fun table _ _ h => lldpFrameParser_rejected table h⟩
  · intro chassis port entry
    rw [hnl.lookup, Option.map_eq_some_iff]
    constructor
    · rintro ⟨r, hr, rfl⟩
      have hlt := hnl.ttl _ r hr
      obtain ⟨g, hg, hlive, rfl⟩ := (view_granted_iff ops _ r).1 hr
      exact ⟨g, hg, hlive, UInt16.toNat_ofNat_of_lt' hlt, rfl⟩
    · rintro ⟨g, hg, hlive, hnat, hentry⟩
      refine ⟨_, (view_granted_iff ops _ _).2 ⟨g, hg, hlive, rfl⟩, ?_⟩
      rw [hentry]
      simp only [← hnat, UInt16.ofNat_toNat]
  · intro chassis port entry hlook
    rw [hnl.lookup, Option.map_eq_some_iff] at hlook
    obtain ⟨r, hr, rfl⟩ := hlook
    have hkey := hnl.key _ r hr
    simpa [NeighbourEntry.key] using hkey

/-- A neighbour heard once on interface 2, with a TTL of two seconds, and one second later. -/
theorem neighbourList_refines_heard_once :
    ∃ nl, NeighbourList.run [
        .frame ⟨17, (0x88, 0xCC), 2, 1, 6⟩
          [0x02, 0x02, 0x07, 0x61, 0x04, 0x02, 0x03, 0x62, 0x06, 0x02, 0x00, 0x02, 0x00, 0x00],
        .tick 1] = .ok nl ∧
      nl.lookup [0x07, 0x61] [0x03, 0x62] = some ⟨[0x07, 0x61], [0x03, 0x62], 2, 1, none, none⟩ := by
  have hparse : LLDPDataUnit.fromSpan
      [0x02, 0x02, 0x07, 0x61, 0x04, 0x02, 0x03, 0x62, 0x06, 0x02, 0x00, 0x02, 0x00, 0x00] =
        .ok (some ⟨⟨1, [0x07, 0x61]⟩, ⟨2, [0x03, 0x62]⟩, ⟨3, [0x00, 0x02]⟩, []⟩) := by decide
  obtain ⟨nl, hrun, hlook, -⟩ := neighbourList_refines [
      .frame ⟨17, (0x88, 0xCC), 2, 1, 6⟩
        [0x02, 0x02, 0x07, 0x61, 0x04, 0x02, 0x03, 0x62, 0x06, 0x02, 0x00, 0x02, 0x00, 0x00],
      .tick 1] (by
    intro op hop
    simp only [List.mem_cons, List.not_mem_nil, or_false] at hop
    rcases hop with rfl | rfl
    · intro u hu
      rw [hparse] at hu
      cases hu
      decide
    · trivial)
  refine ⟨nl, hrun, (hlook _ _ _).2 ⟨⟨⟨[0x07, 0x61], [0x03, 0x62], 2, 2, none, none⟩, 2, [1]⟩, ?_,
    Or.inr (by decide), rfl, rfl⟩⟩
  have hcarried : carried ⟨17, (0x88, 0xCC), 2, 1, 6⟩
      [0x02, 0x02, 0x07, 0x61, 0x04, 0x02, 0x03, 0x62, 0x06, 0x02, 0x00, 0x02, 0x00, 0x00] =
        some ⟨[0x07, 0x61], [0x03, 0x62], 2, 2, none, none⟩ := by
    unfold carried
    rw [hparse]
    rfl
  refine ⟨[], [.tick 1], ?_, fun e he => ?_, rfl⟩
  · simp only [List.filterMap_cons, List.filterMap_nil, TableOp.event, hcarried]
    rfl
  · rw [List.mem_singleton.1 he]
    exact id

end Ndisc
