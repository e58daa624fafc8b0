import Ndisc.Proof.Arrays
import Ndisc.Spec.Repository

/-!
# The local interface of a neighbour

The index of the interface that a frame came in on is an `int` in its address, 16 bits
in the table, and 32 bits in the packets of a dump.

* `run_attributed`: what the table keeps of the index, after any calls.
* `reported_dumpData`: what a dump reports for each neighbour.
* `localInterface_iff`: **a neighbour is reported with the interface it was received on
  exactly when the records have room and the 16 bits hold the index**, or there is nothing to
  report.
* `localInterface_confused`: two neighbours on two interfaces, reported on one.
-/

namespace Ndisc.Client

open Wire Run
open Std (ExtTreeMap)

/-! ## Where a neighbour was received -/

/-- The ids that an accepted frame carries, and the index it came in on. -/
def arrival : TableOp → Option ((Bytes × Bytes) × ℤ)
  | .frame address bytes =>
    if address.accepted then
      match LLDPDataUnit.fromSpan bytes with
      | .ok (some u) => some ((u.chassisId.value, u.portId.value), address.sllIfindex)
      | _ => none
    else none
  | .tick _ => none

/-- The index that the last accepted frame with these ids came in on. -/
def receivedOn (key : Bytes × Bytes) (ops : List TableOp) : Option ℤ :=
  ((ops.filterMap arrival).reverse.find? fun a => a.1 = key).map Prod.snd

theorem receivedOn_concat (key : Bytes × Bytes) (ops : List TableOp) (op : TableOp) :
    receivedOn key (ops ++ [op]) = match arrival op with
      | some a => if a.1 = key then some a.2 else receivedOn key ops
      | none => receivedOn key ops := by
  rw [receivedOn, List.filterMap_append, List.reverse_append]
  cases harr : arrival op with
  | none => simp [harr, receivedOn]
  | some a =>
    by_cases hkey : a.1 = key <;> simp [harr, hkey, receivedOn]

/-- The ids and the index of an entry, whatever else its data unit holds. -/
theorem lldpduToNeighbourEntry_ids {u : LLDPDataUnit} {ifIndex : UInt16}
    {entry : Ndisc.NeighbourEntry} (h : lldpduToNeighbourEntry u ifIndex = .ok entry) :
    entry.key = (u.chassisId.value, u.portId.value) ∧ entry.interfaceIndex = ifIndex := by
  rcases Nat.lt_or_ge u.timeToLive.value.length 2 with hshort | hlong
  · rw [lldpduToNeighbourEntry_error hshort] at h
    cases h
  · obtain ⟨a, ha⟩ := collectAll_ok u.optionalTlv ⟨none, none⟩
    rw [lldpduToNeighbourEntry_eq hlong ifIndex ha] at h
    cases h
    exact ⟨rfl, rfl⟩

/-- Every entry of the table holds the index of its last frame, in 16 bits. -/
def Attributed (ops : List TableOp) (nl : NeighbourList) : Prop :=
  ∀ chassis port entry, nl.lookup chassis port = some entry →
    ∃ i, receivedOn (chassis, port) ops = some i ∧ entry.interfaceIndex = narrowIfindex i

theorem attributed_empty : Attributed [] .empty := by
  intro chassis port entry h
  simp [NeighbourList.lookup, NeighbourList.empty, NestedMap.lookup] at h

/-- **One call.** -/
theorem attributed_step {ops : List TableOp} {nl : NeighbourList} (h : Attributed ops nl)
    (op : TableOp) {nl' : NeighbourList} (hstep : nl.step op = .ok nl') :
    Attributed (ops ++ [op]) nl' := by
  intro chassis port entry hentry
  rw [receivedOn_concat]
  cases op with
  | tick d =>
    cases hstep
    rw [tick_lookup, Option.bind_eq_some_iff] at hentry
    obtain ⟨entry', hentry', hif⟩ := hentry
    obtain ⟨i, hi, hindex⟩ := h chassis port entry' hentry'
    refine ⟨i, hi, ?_⟩
    split at hif <;> cases hif
    exact hindex
  | frame address bytes =>
    rw [NeighbourList.step, lldpFrameParser] at hstep
    cases hacc : address.accepted with
    | false =>
      rw [hacc] at hstep
      cases hstep
      simp only [arrival, hacc, Bool.false_eq_true, if_false]
      exact h chassis port entry hentry
    | true =>
      rcases dataUnit_fromSpan_cases bytes with hnone | ⟨u, rest, hsome, -, -, -⟩
      · rw [hacc, hnone] at hstep
        cases hstep
        simp only [arrival, hacc, hnone, if_true]
        exact h chassis port entry hentry
      · rw [hacc, hsome] at hstep
        simp only [Bool.not_true, Bool.false_eq_true, if_false, ok_bind] at hstep
        obtain ⟨stored, hstored, hnl⟩ := bind_eq_ok.1 hstep
        obtain ⟨hkey, hindex⟩ := lldpduToNeighbourEntry_ids hstored
        cases hnl
        rw [lookup_store, hkey] at hentry
        simp only [arrival, hacc, hsome, if_true]
        by_cases heq : (chassis, port) = (u.chassisId.value, u.portId.value)
        · rw [if_pos heq] at hentry
          cases hentry
          exact ⟨address.sllIfindex, by rw [if_pos heq.symm], hindex⟩
        · rw [if_neg heq] at hentry
          rw [if_neg (Ne.symm heq)]
          exact h chassis port entry hentry

/-- **After any calls.** -/
theorem run_attributed {ops : List TableOp} {nl : NeighbourList}
    (hrun : NeighbourList.run ops = .ok nl) : Attributed ops nl := by
  have hall : Attributed ([] ++ ops.flatMap fun op => [op]) nl := by
    rw [NeighbourList.run] at hrun
    exact foldlM_account (I := Attributed) (fun _ _ op _ h hop => attributed_step h op hop)
      attributed_empty hrun
  rwa [List.nil_append, List.flatMap_singleton'] at hall

/-! ## What a dump reports -/

/-- A packet, and what was reported so far: the id of each neighbour, the last one first,
with the local interfaces that refer to it. -/
def collect (groups : List (UInt16 × List LocalInterfaceEntry)) (p : ClientPacket) :
    List (UInt16 × List LocalInterfaceEntry) :=
  match readDataPacket (.packet p), groups with
  | .ok (.neighbourEntry e), _ => (e.neighbourId, []) :: groups
  | .ok (.localInterfaceEntry e), (id, group) :: groups =>
    if e.neighbourId = id then (id, group ++ [e]) :: groups else (id, group) :: groups
  | _, _ => groups

/-- The local interfaces that a dump reports for each neighbour, in order: those with its
id, from the entry of the neighbour on and before that of the next one. -/
def reported (packets : List ClientPacket) : List (List LocalInterfaceEntry) :=
  (packets.foldl collect []).reverse.map Prod.snd

section

variable (rid : UInt16) (groups : List (UInt16 × List LocalInterfaceEntry))

theorem collect_ofNeighbourEntry (e : NeighbourEntry) :
    collect groups (.ofNeighbourEntry rid e) = (e.neighbourId, []) :: groups := by
  simp only [collect, readDataPacket_ofNeighbourEntry]

theorem collect_ofLocalInterfaceEntry (group : List LocalInterfaceEntry) (e : LocalInterfaceEntry) :
    collect ((e.neighbourId, group) :: groups) (.ofLocalInterfaceEntry rid e) =
      (e.neighbourId, group ++ [e]) :: groups := by
  simp only [collect, readDataPacket_ofLocalInterfaceEntry, if_true]

/-- Only those two are looked at. -/
theorem collect_other {p : ClientPacket} {packet : DataPacket}
    (hread : readDataPacket (.packet p) = .ok packet) (hneighbour : ∀ e, packet ≠ .neighbourEntry e)
    (hlocal : ∀ e, packet ≠ .localInterfaceEntry e) : collect groups p = groups := by
  unfold collect
  rw [hread]
  split
  · exact absurd (Except.ok.inj ‹_›) (hneighbour _)
  · exact absurd (Except.ok.inj ‹_›) (hlocal _)
  · rfl

theorem collect_others {packets : List ClientPacket}
    (h : ∀ p ∈ packets, ∀ groups, collect groups p = groups) :
    packets.foldl collect groups = groups := by
  induction packets with
  | nil => rfl
  | cons p packets ih =>
    rw [List.foldl_cons, h p List.mem_cons_self]
    exact ih fun q hq => h q (List.mem_cons_of_mem p hq)

theorem collect_interfaces (id : UInt16) (interfaces group : List LocalInterfaceEntry)
    (hid : ∀ e ∈ interfaces, e.neighbourId = id) :
    (interfaces.map (ClientPacket.ofLocalInterfaceEntry rid)).foldl collect ((id, group) :: groups) =
      (id, group ++ interfaces) :: groups := by
  induction interfaces generalizing group with
  | nil => rw [List.append_nil]; rfl
  | cons e interfaces ih =>
    obtain rfl := hid e List.mem_cons_self
    rw [List.map_cons, List.foldl_cons, collect_ofLocalInterfaceEntry,
      ih _ fun x hx => hid x (List.mem_cons_of_mem e hx), List.append_assoc]
    rfl

end

/-- The local interface of a neighbour: the one with the index in the table. -/
def localInterface (deviceInfo : ExtTreeMap UInt32 LldpSender) (neighbourId : UInt16)
    (neighbour : Ndisc.NeighbourEntry) : List LocalInterfaceEntry :=
  ((nameAt deviceInfo neighbour.interfaceIndex).bind (copyFront 16)).toList.map fun name =>
    ⟨neighbourId, neighbour.interfaceIndex.toUInt32, name, List.Vector.replicate 490 0⟩

theorem localInterface_neighbourId (deviceInfo : ExtTreeMap UInt32 LldpSender)
    (neighbourId : UInt16) (neighbour : Ndisc.NeighbourEntry) :
    ∀ e ∈ localInterface deviceInfo neighbourId neighbour, e.neighbourId = neighbourId := by
  intro e he
  obtain ⟨name, -, rfl⟩ := List.mem_map.1 he
  rfl

section

variable {rid : UInt16} {deviceInfo : ExtTreeMap UInt32 LldpSender}

theorem sendLocalInterfaceEntry_inv {id : UInt16} {neighbour : Ndisc.NeighbourEntry}
    {packets : List ClientPacket}
    (h : sendLocalInterfaceEntry rid id deviceInfo neighbour = .ok packets) :
    packets = (localInterface deviceInfo id neighbour).map (.ofLocalInterfaceEntry rid) := by
  unfold sendLocalInterfaceEntry at h
  unfold localInterface nameAt
  cases hsender : deviceInfo[neighbour.interfaceIndex.toUInt32]? with
  | none =>
    rw [hsender] at h
    cases h
    rfl
  | some sender =>
    rw [hsender] at h
    simp only at h
    rw [Option.bind_some]
    cases hname : sender.deviceData.interfaceName with
    | none =>
      rw [hname] at h
      cases h
      rfl
    | some name =>
      rw [hname] at h
      rcases Nat.lt_or_ge 16 name.length with hlong | hfit
      · simp only [copyTo, copyFront_none hlong, error_bind, reduceCtorEq] at h
      · obtain ⟨array, hcopy, -⟩ := copyFront_some hfit
        simp only [copyTo, hcopy, ok_bind, Except.ok.injEq] at h
        rw [← h, Option.bind_some, hcopy]
        rfl

/-- A dump, and the neighbours it has gone over. -/
structure Reports (deviceInfo : ExtTreeMap UInt32 LldpSender)
    (seen : List (Bytes × Bytes × Ndisc.NeighbourEntry)) (dump : Dump) : Prop where
  groups : dump.packets.foldl collect [] = (seen.zipIdx.map fun n =>
    (UInt16.ofNat n.2, localInterface deviceInfo (UInt16.ofNat n.2) n.1.2.2)).reverse
  neighbourIdCounter : dump.neighbourIdCounter = UInt16.ofNat seen.length

theorem reports_empty : Reports deviceInfo [] ⟨[], 0, 0⟩ :=
  ⟨rfl, rfl⟩

/-- **One round of the inner loop.** -/
theorem reports_neighbour {seen : List (Bytes × Bytes × Ndisc.NeighbourEntry)} {dump dump' : Dump}
    (h : Reports deviceInfo seen dump) (chassis : Bytes) (row : Bytes × Ndisc.NeighbourEntry)
    (hround : dumpNeighbour rid deviceInfo dump row = .ok dump') :
    Reports deviceInfo (seen ++ [(chassis, row.1, row.2)]) dump' := by
  obtain ⟨port, neighbour⟩ := row
  obtain ⟨entry, hentry, hrest⟩ := bind_eq_ok.1 hround
  obtain ⟨interfaces, hinterfaces, hdump⟩ := bind_eq_ok.1 hrest
  obtain ⟨array, -, hsent⟩ := bind_eq_ok.1 hentry
  have hlocal := sendLocalInterfaceEntry_inv hinterfaces
  cases hdump
  cases hsent
  rw [h.neighbourIdCounter] at hlocal
  refine ⟨?_, ?_⟩
  · simp only [List.foldl_append, List.foldl_cons, List.foldl_nil, collect_ofNeighbourEntry, hlocal,
      h.neighbourIdCounter]
    rw [collect_interfaces _ _ _ _ _ (localInterface_neighbourId _ _ _), collect_others,
      collect_others, h.groups]
    · simp [List.zipIdx_append]
    · intro p hp groups
      obtain ⟨address, -, rfl⟩ := List.mem_map.1 hp
      exact collect_other groups (readDataPacket_ofIpEntry rid _) nofun nofun
    · intro p hp groups
      obtain ⟨address, -, rfl⟩ := List.mem_map.1 hp
      exact collect_other groups (readDataPacket_ofIpv6Entry rid _) nofun nofun
  · rw [h.neighbourIdCounter, List.length_append, List.length_singleton, UInt16.ofNat_add]
    rfl

/-- **One round of the outer loop.** -/
theorem reports_chassis {seen : List (Bytes × Bytes × Ndisc.NeighbourEntry)} {dump dump' : Dump}
    (h : Reports deviceInfo seen dump) (row : Bytes × ExtTreeMap Bytes Ndisc.NeighbourEntry)
    (hround : dumpChassis rid deviceInfo dump row = .ok dump') :
    Reports deviceInfo (seen ++ row.2.toList.map fun neighbour =>
      (row.1, neighbour.1, neighbour.2)) dump' := by
  obtain ⟨chassisId, portMap⟩ := row
  obtain ⟨chassis, hchassis, hrest⟩ := bind_eq_ok.1 hround
  obtain ⟨inner, hinner, hdump⟩ := bind_eq_ok.1 hrest
  cases hdump
  have hstart : Reports deviceInfo seen { dump with packets := dump.packets ++ chassis } := by
    refine ⟨?_, h.neighbourIdCounter⟩
    rw [List.foldl_append, h.groups, collect_others]
    intro p hp groups
    unfold sendChassisEntryPacket at hchassis
    split at hchassis
    · cases hchassis
      cases hp
    · obtain ⟨name, -, hsent⟩ := bind_eq_ok.1 hchassis
      cases hsent
      rw [List.mem_singleton.1 hp]
      exact collect_other groups (readDataPacket_ofChassisEntry rid _) nofun nofun
  have hall := foldlM_account (I := Reports deviceInfo)
    (fun _ _ neighbour _ hseen hnext => reports_neighbour hseen chassisId neighbour hnext)
    hstart hinner
  rw [← List.map_eq_flatMap] at hall
  exact ⟨hall.groups, hall.neighbourIdCounter⟩

/-- **What a dump reports for each neighbour**, if it stays within its arrays. -/
theorem reported_dumpData {nl : NeighbourList} {packets : List ClientPacket}
    (h : dumpData nl deviceInfo rid = .ok packets) :
    reported packets = (neighbours nl).zipIdx.map fun n =>
      localInterface deviceInfo (UInt16.ofNat n.2) n.1.2.2 := by
  obtain ⟨dump, hdump, hsent⟩ := bind_eq_ok.1 h
  cases hsent
  have hall := foldlM_account (I := Reports deviceInfo)
    (fun _ _ row _ hseen hnext => reports_chassis hseen row hnext) reports_empty hdump
  have hend : ∀ groups, collect groups .empty = groups := fun groups =>
    collect_other groups readDataPacket_empty nofun nofun
  rw [reported, List.foldl_append, List.foldl_cons, List.foldl_nil, hend, hall.groups,
    List.reverse_reverse, List.map_map]
  rfl

end

/-! ## The interface a neighbour was received on -/

/-- What there is to report about an interface: its index, and the name of the sender there. -/
def interfaceAt (r : LldpRepository) (i : ℤ) : Option (ℤ × Bytes) :=
  ((r.currentState[UInt32.ofNat i.toNat]?).bind fun sender => sender.deviceData.interfaceName).map
    fun name => (i, name)

/-- The local interfaces reported for a neighbour are this one, or none. -/
def Names (interfaces : List LocalInterfaceEntry) (interface : Option (ℤ × Bytes)) : Prop :=
  interfaces.map (fun e => ((e.ifIndex.toNat : ℤ), e.name.toList)) =
    interface.toList.map fun x => (x.1, x.2 ++ List.replicate (16 - x.2.length) 0)

/-- The neighbour that a dump comes to as the `k`th was received on the interface `i`. -/
def ReceivedOn (ops : List TableOp) (nl : NeighbourList) (k : ℕ) (i : ℤ) : Prop :=
  ∃ n, (neighbours nl)[k]? = some n ∧ receivedOn (n.1, n.2.1) ops = some i ∧ 0 < i ∧ i < 2 ^ 31

/-- 16 bits hold the index, or there is nothing to report about the interface, nor about
the one that the 16 bits name. -/
def IndexKept (r : LldpRepository) (i : ℤ) : Prop :=
  i ≤ 65535 ∨ interfaceAt r i = none ∧ interfaceAt r (i % 65536) = none

theorem narrowIfindex_toNat (i : ℤ) : ((narrowIfindex i).toUInt32.toNat : ℤ) = i % 65536 := by
  have hpos : 0 ≤ i % 65536 := Int.emod_nonneg i (by decide)
  have hlt : i % 65536 < 65536 := Int.emod_lt_of_pos i (by decide)
  rw [narrowIfindex, UInt16.toNat_toUInt32, UInt16.toNat_ofNat']
  omega

theorem narrowIfindex_toUInt32 (i : ℤ) :
    (narrowIfindex i).toUInt32 = UInt32.ofNat (i % 65536).toNat := by
  have hnat := narrowIfindex_toNat i
  rw [← hnat, Int.toNat_natCast, UInt32.ofNat_toNat]

/-- The index is the one in the packet, if there is one. -/
theorem Names.ifIndex {interfaces : List LocalInterfaceEntry} {interface : Option (ℤ × Bytes)}
    (h : Names interfaces interface) :
    interfaces.map (fun e => (e.ifIndex.toNat : ℤ)) = interface.toList.map Prod.fst := by
  have hfst := congrArg (List.map Prod.fst) h
  rw [List.map_map, List.map_map] at hfst
  exact hfst

theorem Names.ifIndex_eq {r : LldpRepository} {interfaces : List LocalInterfaceEntry} {i : ℤ}
    (h : Names interfaces (interfaceAt r i)) {e : LocalInterfaceEntry} (he : e ∈ interfaces) :
    (e.ifIndex.toNat : ℤ) = i := by
  have hmem : (e.ifIndex.toNat : ℤ) ∈ (interfaceAt r i).toList.map Prod.fst :=
    h.ifIndex ▸ List.mem_map_of_mem he
  obtain ⟨x, hx, hfst⟩ := List.mem_map.1 hmem
  obtain ⟨name, -, rfl⟩ := Option.map_eq_some_iff.1 (Option.mem_toList.1 hx)
  exact hfst.symm

/-- **A neighbour is reported with the interface that 16 bits of its index name.** -/
theorem localInterface_names {r : LldpRepository} {neighbour : Ndisc.NeighbourEntry} {i : ℤ}
    (hindex : neighbour.interfaceIndex = narrowIfindex i)
    (hfits : RowFits r.currentState neighbour) (id : UInt16) :
    Names (localInterface r.currentState id neighbour) (interfaceAt r (i % 65536)) := by
  unfold RowFits nameAt at hfits
  unfold Names localInterface interfaceAt nameAt
  rw [hindex, narrowIfindex_toUInt32] at hfits
  rw [hindex, narrowIfindex_toUInt32]
  have hnat := narrowIfindex_toNat i
  rw [narrowIfindex_toUInt32] at hnat
  cases hname : (r.currentState[UInt32.ofNat (i % 65536).toNat]?).bind
      fun sender => sender.deviceData.interfaceName with
  | none => rfl
  | some name =>
    obtain ⟨array, hcopy, harray⟩ := copyFront_some (hfits name hname)
    simp only [Option.bind_some, hcopy, Option.toList_some, List.map_cons, List.map_nil,
      Option.map_some, harray, hnat]

/-- That is the interface it was received on, or it is not. -/
theorem names_iff {r : LldpRepository} {interfaces : List LocalInterfaceEntry} {i : ℤ} (hpos : 0 < i)
    (h : Names interfaces (interfaceAt r (i % 65536))) :
    Names interfaces (interfaceAt r i) ↔ IndexKept r i := by
  constructor
  · intro hi
    rcases Int.lt_or_le 65535 i with hgt | hle
    · right
      -- two names for the same packets agree in the index, if there is one
      have heq := h.ifIndex.symm.trans hi.ifIndex
      have hlt : i % 65536 < 65536 := Int.emod_lt_of_pos i (by decide)
      unfold interfaceAt at heq ⊢
      cases hname : (r.currentState[UInt32.ofNat i.toNat]?).bind
          fun sender => sender.deviceData.interfaceName <;>
        cases hother : (r.currentState[UInt32.ofNat (i % 65536).toNat]?).bind
          fun sender => sender.deviceData.interfaceName <;>
        simp only [hname, hother, Option.map_none, Option.map_some, Option.toList_none,
          Option.toList_some, List.map_cons, List.map_nil, List.cons.injEq, reduceCtorEq, and_true,
          and_self] at heq ⊢
      omega
    · exact Or.inl hle
  · rintro (hle | ⟨hi, hother⟩)
    · rwa [Int.emod_eq_of_lt (by omega) (by omega)] at h
    · rw [hi, ← hother]
      exact h

/-- What a dump reports for a neighbour, as the index it was received on decides it. -/
theorem reported_names {ops : List TableOp} {r : LldpRepository} {requestId : UInt16}
    {nl : NeighbourList} {packets : List ClientPacket} (hrun : NeighbourList.run ops = .ok nl)
    (hdump : dumpData nl r.currentState requestId = .ok packets) {k : ℕ} {i : ℤ}
    (hk : ReceivedOn ops nl k i) : ∃ interfaces, (reported packets)[k]? = some interfaces ∧
      Names interfaces (interfaceAt r (i % 65536)) := by
  obtain ⟨n, hn, hi, -, -⟩ := hk
  have hmem : n ∈ neighbours nl := List.mem_of_getElem? hn
  obtain ⟨j, hj, hindex⟩ := run_attributed hrun n.1 n.2.1 n.2.2 (neighbours_lookup hmem)
  obtain rfl : j = i := Option.some.inj (hj.symm.trans hi)
  refine ⟨localInterface r.currentState (UInt16.ofNat k) n.2.2, ?_,
    localInterface_names hindex (dumpData_isOk.1 ⟨packets, hdump⟩ n hmem).2 _⟩
  rw [reported_dumpData hdump, List.getElem?_map, List.getElem?_zipIdx, hn]
  simp

/-- **The interface a neighbour was received on.** After any frames and ticks, and for
every state of the senders: a neighbour is reported with the interface it was received on
exactly when all names and port ids fit the records, so that there is a dump, and 16 bits hold
the index of that interface, or there is nothing to report. In any dump, two neighbours for
which the 16 bits do, received on different interfaces, are not reported under one index. -/
theorem localInterface_iff (ops : List TableOp) (r : LldpRepository) (requestId : UInt16)
    {nl : NeighbourList} (hrun : NeighbourList.run ops = .ok nl) {k : ℕ} {i : ℤ}
    (hk : ReceivedOn ops nl k i) :
    ((∃ packets, dumpData nl r.currentState requestId = .ok packets ∧ ∃ interfaces,
        (reported packets)[k]? = some interfaces ∧ Names interfaces (interfaceAt r i)) ↔
      AllFit r.currentState nl ∧ IndexKept r i) ∧
    ∀ packets, dumpData nl r.currentState requestId = .ok packets → ∃ interfaces,
      (reported packets)[k]? = some interfaces ∧
      (Names interfaces (interfaceAt r i) ↔ IndexKept r i) ∧
      (IndexKept r i → ∀ k' i', ReceivedOn ops nl k' i' → IndexKept r i' → i ≠ i' →
        ∀ interfaces', (reported packets)[k']? = some interfaces' →
          ∀ e ∈ interfaces, ∀ e' ∈ interfaces', e.ifIndex ≠ e'.ifIndex) := by
  have hpos : 0 < i := by
    obtain ⟨_, _, _, hpos, -⟩ := hk
    exact hpos
  constructor
  · constructor
    · rintro ⟨packets, hdump, interfaces, hinterfaces, hi⟩
      obtain ⟨_, hsome, hnames⟩ := reported_names hrun hdump hk
      obtain rfl := Option.some.inj (hsome.symm.trans hinterfaces)
      exact ⟨dumpData_isOk.1 ⟨packets, hdump⟩, (names_iff hpos hnames).1 hi⟩
    · rintro ⟨hfits, hkept⟩
      obtain ⟨packets, hdump⟩ := dumpData_isOk.2 hfits
      obtain ⟨interfaces, hinterfaces, hnames⟩ := reported_names hrun hdump hk
      exact ⟨packets, hdump, interfaces, hinterfaces, (names_iff hpos hnames).2 hkept⟩
  · intro packets hdump
    obtain ⟨interfaces, hinterfaces, hnames⟩ := reported_names hrun hdump hk
    refine ⟨interfaces, hinterfaces, names_iff hpos hnames, ?_⟩
    intro hkept k' i' hk' hkept' hne interfaces' hinterfaces' e he e' he' heq
    obtain ⟨_, hsome, hnames'⟩ := reported_names hrun hdump hk'
    obtain ⟨_, _, _, hpos', -⟩ := hk'
    obtain rfl := Option.some.inj (hsome.symm.trans hinterfaces')
    -- each of the two carries the index it was received on
    have hown := Names.ifIndex_eq ((names_iff hpos hnames).2 hkept) he
    have hown' := Names.ifIndex_eq ((names_iff hpos' hnames').2 hkept') he'
    exact hne (hown.symm.trans ((congrArg (fun n : UInt32 => (n.toNat : ℤ)) heq).trans hown'))

/-! ## Two hosts -/

/-- A frame of the host with the chassis id `c`. -/
def hello (i : ℤ) (c : UInt8) : TableOp :=
  .frame ⟨17, (0x88, 0xCC), i, 1, 6⟩
    [0x02, 0x02, 0x07, c, 0x04, 0x02, 0x03, 0x62, 0x06, 0x02, 0x00, 0x1E, 0x00, 0x00]

/-- What the table keeps of it. -/
def heard (i : ℤ) (c : UInt8) : Ndisc.NeighbourEntry :=
  ⟨[0x07, c], [0x03, 0x62], narrowIfindex i, 30, none, none⟩

/-- The only interface with a sender has the index 2. -/
def oneInterface : LldpRepository := { LldpRepository.create with currentState := oneSender }

/-- The packets of a dump that stays within its arrays. -/
def dumped (nl : NeighbourList) (r : LldpRepository) : List ClientPacket :=
  match dumpData nl r.currentState 1 with
  | .ok packets => packets
  | .error _ => []

theorem localInterface_iff_two : ∃ interfaces,
    (reported (dumped (NeighbourList.empty.store (heard 2 0x61)) oneInterface))[0]? =
      some interfaces ∧ Names interfaces (some (2, [0x65, 0x30])) := by
  have hat : interfaceAt oneInterface 2 = some (2, [0x65, 0x30]) := by decide +kernel
  have hrun : NeighbourList.run [hello 2 0x61] = .ok (NeighbourList.empty.store (heard 2 0x61)) := by
    rfl
  have hdump : dumpData (NeighbourList.empty.store (heard 2 0x61)) oneInterface.currentState 1 =
      .ok (dumped (NeighbourList.empty.store (heard 2 0x61)) oneInterface) := by
    decide +kernel
  obtain ⟨-, hpackets⟩ := localInterface_iff [hello 2 0x61] oneInterface 1 hrun (k := 0) (i := 2)
    ⟨([0x07, 0x61], [0x03, 0x62], heard 2 0x61), by decide +kernel⟩
  obtain ⟨interfaces, hsome, hiff, -⟩ := hpackets _ hdump
  exact ⟨interfaces, hsome, hat ▸ hiff.2 (Or.inl (by decide))⟩

/-- **Two interfaces under one index.** A neighbour received on interface 65538, where
there is no sender, is reported on interface 2, like the one received there. -/
theorem localInterface_confused : ∃ nl packets,
    NeighbourList.run [hello 2 0x61, hello 65538 0x62] = .ok nl ∧
      dumpData nl oneInterface.currentState 1 = .ok packets ∧
      ReceivedOn [hello 2 0x61, hello 65538 0x62] nl 0 2 ∧
      ReceivedOn [hello 2 0x61, hello 65538 0x62] nl 1 65538 ∧
      oneInterface.currentState[(65538 : UInt32)]? = none ∧
      (reported packets).map (List.map fun e => e.ifIndex) = [[2], [2]] ∧
      ∀ interfaces, (reported packets)[1]? = some interfaces →
        ¬ Names interfaces (interfaceAt oneInterface 65538) := by
  refine ⟨(NeighbourList.empty.store (heard 2 0x61)).store (heard 65538 0x62),
    dumped ((NeighbourList.empty.store (heard 2 0x61)).store (heard 65538 0x62)) oneInterface,
    by rfl, by decide +kernel, ⟨([0x07, 0x61], [0x03, 0x62], heard 2 0x61), by decide +kernel⟩,
    ⟨([0x07, 0x62], [0x03, 0x62], heard 65538 0x62), by decide +kernel⟩, by decide +kernel,
    by decide +kernel, ?_⟩
  intro interfaces hsome hnames
  have hnone : interfaceAt oneInterface 65538 = none := by decide +kernel
  have hlen : ((reported (dumped ((NeighbourList.empty.store (heard 2 0x61)).store
      (heard 65538 0x62)) oneInterface))[1]?).map List.length = some 1 := by decide +kernel
  rw [hsome, Option.map_some] at hlen
  have hnil : interfaces = [] := by simpa [Names, hnone] using hnames
  rw [hnil] at hlen
  cases hlen

end Ndisc.Client
