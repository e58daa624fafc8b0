import Ndisc.Proof.Dump
import Ndisc.Proof.Table

/-!
# The arrays of the client protocol

A TLV carries up to 511 bytes, a record of the client protocol 508 or 506.

* `DumpSafe`: what the daemon sends stays in its arrays, and no neighbour comes before
  its chassis.
* `dumpNeighbour_outcome`, `dumpChassis_outcome`: one round of each loop of `DumpData`.
* `dumpData_isOk`: what it takes to answer a request.
* `run_keysFit`: a table fed with ids that fit holds ids that fit.
* `run_dumpSafe`: **so its dump is safe**; `dump_overruns`: one longer id, and it is not.
-/

namespace Ndisc.Client

open Wire Run
open Std (ExtTreeMap)

/-! ## Safe dumps -/

/-- A `ChassisEntry` with this id is among the packets. -/
def Announced (packets : List ClientPacket) (chassisId : UInt16) : Prop :=
  ∃ p ∈ packets, ∃ e : ChassisEntry, readDataPacket (.packet p) = .ok (.chassisEntry e) ∧
    e.chassisId = chassisId

/-- A packet, sent after `before`, that the client can slice and attribute. -/
def PacketOk (before : List ClientPacket) (p : ClientPacket) : Prop :=
  match readDataPacket (.packet p) with
  | .ok (.chassisEntry e) => e.nameLength.toNat ≤ 508
  | .ok (.neighbourEntry e) => e.portSize.toNat ≤ 506 ∧ Announced before e.chassisId
  | _ => True

def PacketsOk (packets : List ClientPacket) : Prop :=
  ∀ pre p post, packets = pre ++ p :: post → PacketOk pre p

/-- Whoever asks, and whatever the device map is: no copy of a chassis id or a port id
leaves its array, nor does any copy if the interface names fit; and all packets are
such as the client can use. -/
def DumpSafe (neighbourList : NeighbourList) : Prop :=
  ∀ (deviceInfo : ExtTreeMap UInt32 LldpSender) (requestId : UInt16),
    match dumpData neighbourList deviceInfo requestId with
    | .ok packets => PacketsOk packets
    | .error fault => fault = .interfaceName ∧ ¬ NamesFit deviceInfo

theorem Announced.append {ps : List ClientPacket} {id : UInt16} (h : Announced ps id)
    (qs : List ClientPacket) : Announced (ps ++ qs) id := by
  obtain ⟨p, hp, hann⟩ := h
  exact ⟨p, List.mem_append_left qs hp, hann⟩

theorem PacketOk.append {ps : List ClientPacket} {p : ClientPacket} (h : PacketOk ps p)
    (qs : List ClientPacket) : PacketOk (ps ++ qs) p := by
  unfold PacketOk at h ⊢
  split at h
  · exact h
  · exact ⟨h.1, h.2.append qs⟩
  · trivial

/-- Only the two entries that carry an id are looked at. -/
theorem packetOk_other {p : ClientPacket} {packet : DataPacket}
    (hread : readDataPacket (.packet p) = .ok packet) (hchassis : ∀ e, packet ≠ .chassisEntry e)
    (hneighbour : ∀ e, packet ≠ .neighbourEntry e) (before : List ClientPacket) :
    PacketOk before p := by
  unfold PacketOk
  rw [hread]
  split
  · exact absurd (Except.ok.inj ‹_›) (hchassis _)
  · exact absurd (Except.ok.inj ‹_›) (hneighbour _)
  · trivial

theorem packetsOk_nil : PacketsOk [] := by
  intro pre p post h
  simp at h

/-- Packets that are in order after `ps` are so one after another. -/
theorem PacketsOk.append {ps qs : List ClientPacket} (h : PacketsOk ps)
    (hqs : ∀ q ∈ qs, PacketOk ps q) : PacketsOk (ps ++ qs) := by
  intro pre p post heq
  rcases List.append_eq_append_iff.1 heq with ⟨mid, hpre, hqs'⟩ | ⟨mid, hps, hmid⟩
  · have hp : p ∈ qs := by rw [hqs']; simp
    rw [hpre]
    exact (hqs p hp).append mid
  · cases mid with
    | nil =>
      have hp : p ∈ qs := by rw [← List.nil_append qs, ← hmid]; simp
      rw [List.append_nil] at hps
      exact hps ▸ hqs p hp
    | cons x mid =>
      rw [List.cons_append, List.cons.injEq] at hmid
      exact h pre p mid (by rw [hps, hmid.1])

/-! ## The loops of `DumpData` -/

section

variable {rid : UInt16} {deviceInfo : ExtTreeMap UInt32 LldpSender}

/-- The one fault that is not the neighbour table's. -/
def NameFault (deviceInfo : ExtTreeMap UInt32 LldpSender) (fault : CopyFault) : Prop :=
  fault = .interfaceName ∧ ¬ NamesFit deviceInfo

/-- The packets so far are in order, and the chassis that comes next in them is `id`. -/
structure InChassis (id : UInt16) (dump : Dump) : Prop where
  packets : PacketsOk dump.packets
  chassisIdCounter : dump.chassisIdCounter = id
  announced : Announced dump.packets id

theorem localInterfaceEntry_outcome (neighbourId : UInt16) (neighbour : Ndisc.NeighbourEntry)
    (before : List ClientPacket) :
    Outcome (fun packets => ∀ p ∈ packets, PacketOk before p) (NameFault deviceInfo)
      (sendLocalInterfaceEntry rid neighbourId deviceInfo neighbour) := by
  unfold sendLocalInterfaceEntry
  split
  · simp [Outcome]
  · rename_i sender hsender
    split
    · simp [Outcome]
    · rename_i ifName hname
      rcases Nat.lt_or_ge 16 ifName.length with hlong | hfit
      · rw [copyTo, copyFront_none hlong]
        refine ⟨rfl, fun hnames => ?_⟩
        have hshort := (hnames _ _ _ hsender hname).1
        omega
      · obtain ⟨array, hcopy, -⟩ := copyFront_some hfit
        simp only [copyTo, hcopy, ok_bind]
        intro p hp
        rw [List.mem_singleton.1 hp]
        exact packetOk_other (readDataPacket_ofLocalInterfaceEntry rid _) (fun _ => DataPacket.noConfusion)
          (fun _ => DataPacket.noConfusion) before

/-- **One round of the inner loop.** -/
theorem dumpNeighbour_outcome {id : UInt16} {dump : Dump} (h : InChassis id dump)
    (row : Bytes × Ndisc.NeighbourEntry) (hport : row.1.length ≤ 506) :
    Outcome (InChassis id) (NameFault deviceInfo) (dumpNeighbour rid deviceInfo dump row) := by
  obtain ⟨port, neighbour⟩ := row
  obtain ⟨array, hcopy, -⟩ := copyFront_some hport
  have hlen : (UInt16.ofNat port.length).toNat ≤ 506 := by
    rw [UInt16.toNat_ofNat']
    exact (Nat.mod_le _ _).trans hport
  simp only [dumpNeighbour, sendNeighbourEntry, copyTo, hcopy, ok_bind]
  apply outcome_bind (localInterfaceEntry_outcome _ _ dump.packets)
  intro localInterface hlocal
  refine ⟨?_, h.chassisIdCounter, ?_⟩
  · simp only [List.append_assoc]
    apply h.packets.append
    intro q hq
    simp only [List.mem_append, List.mem_singleton, List.mem_map] at hq
    -- the neighbour itself, its local interface, and its two addresses
    rcases hq with rfl | hq | ⟨address, -, rfl⟩ | ⟨address, -, rfl⟩
    · simp only [PacketOk, readDataPacket_ofNeighbourEntry]
      exact ⟨hlen, h.chassisIdCounter ▸ h.announced⟩
    · exact hlocal q hq
    · exact packetOk_other (readDataPacket_ofIpEntry rid _) (fun _ => DataPacket.noConfusion)
        (fun _ => DataPacket.noConfusion) _
    · exact packetOk_other (readDataPacket_ofIpv6Entry rid _) (fun _ => DataPacket.noConfusion)
        (fun _ => DataPacket.noConfusion) _
  · simp only [List.append_assoc]
    exact h.announced.append _

/-- **One round of the outer loop.** -/
theorem dumpChassis_outcome {dump : Dump} (h : PacketsOk dump.packets)
    (row : Bytes × ExtTreeMap Bytes Ndisc.NeighbourEntry) (hchassis : row.1.length ≤ 508)
    (hports : ∀ neighbour ∈ row.2.toList, neighbour.1.length ≤ 506) :
    Outcome (fun dump => PacketsOk dump.packets) (NameFault deviceInfo)
      (dumpChassis rid deviceInfo dump row) := by
  obtain ⟨chassisId, portMap⟩ := row
  obtain ⟨name, hcopy, -⟩ := copyFront_some hchassis
  have hlen : (UInt16.ofNat chassisId.length).toNat ≤ 508 := by
    rw [UInt16.toNat_ofNat']
    exact (Nat.mod_le _ _).trans hchassis
  have hlong : ¬ chassisId.length > 508 := Nat.not_lt.2 hchassis
  simp only [dumpChassis, sendChassisEntryPacket, if_neg hlong, copyTo, hcopy, ok_bind]
  -- the entry of the chassis comes first, so its neighbours refer to one that was sent
  have hstart : InChassis dump.chassisIdCounter { dump with packets := dump.packets ++
      [.ofChassisEntry rid ⟨dump.chassisIdCounter, UInt16.ofNat chassisId.length, name⟩] } := by
    refine ⟨h.append ?_, rfl, ?_⟩
    · intro q hq
      rw [List.mem_singleton] at hq
      subst hq
      simp only [PacketOk, readDataPacket_ofChassisEntry]
      exact hlen
    · exact ⟨_, List.mem_append_right _ List.mem_cons_self, _,
        readDataPacket_ofChassisEntry rid _, rfl⟩
  refine outcome_bind (foldlM_outcome (I := InChassis dump.chassisIdCounter) ?_ hstart) ?_
  · intro d row hrow hdump
    exact dumpNeighbour_outcome hdump row (hports row hrow)
  · intro d hdump
    exact hdump.packets

/-! ## What it takes to answer -/

/-- The name of a neighbour's local interface fits its array, if there is one. -/
def RowFits (deviceInfo : ExtTreeMap UInt32 LldpSender) (neighbour : Ndisc.NeighbourEntry) : Prop :=
  ∀ name, nameAt deviceInfo neighbour.interfaceIndex = some name → name.length ≤ 16

/-- The records have room for the port id of a neighbour, and for the name of the interface
that it was heard on. -/
def Fits (deviceInfo : ExtTreeMap UInt32 LldpSender) (row : Bytes × Ndisc.NeighbourEntry) : Prop :=
  row.1.length ≤ 506 ∧ RowFits deviceInfo row.2

/-- And so they have for all neighbours of a table. -/
def AllFit (deviceInfo : ExtTreeMap UInt32 LldpSender) (neighbourList : NeighbourList) : Prop :=
  ∀ n ∈ neighbours neighbourList, Fits deviceInfo n.2

theorem neighbours_lookup {nl : NeighbourList} {n : Bytes × Bytes × Ndisc.NeighbourEntry}
    (h : n ∈ neighbours nl) : nl.lookup n.1 n.2.1 = some n.2.2 := by
  obtain ⟨⟨chassis, portMap⟩, hrow, hn⟩ := List.mem_flatMap.1 h
  obtain ⟨⟨port, entry⟩, hentry, rfl⟩ := List.mem_map.1 hn
  rw [ExtTreeMap.mem_toList_iff_getElem?_eq_some] at hrow hentry
  rw [NeighbourList.lookup, NestedMap.lookup, hrow, Option.bind_some, hentry]

theorem copyTo_isOk {fault : CopyFault} {n : ℕ} {src : Bytes} :
    (∃ array, copyTo fault n src = .ok array) ↔ src.length ≤ n := by
  unfold copyTo
  rcases Nat.lt_or_ge n src.length with hlong | hfits
  · rw [copyFront_none hlong]
    exact iff_of_false (fun ⟨_, h⟩ => by cases h) (Nat.not_le.2 hlong)
  · obtain ⟨array, hcopy, -⟩ := copyFront_some hfits
    rw [hcopy]
    exact iff_of_true ⟨array, rfl⟩ hfits

theorem localInterfaceEntry_isOk (rid neighbourId : UInt16) (neighbour : Ndisc.NeighbourEntry) :
    (∃ packets, sendLocalInterfaceEntry rid neighbourId deviceInfo neighbour = .ok packets) ↔
      RowFits deviceInfo neighbour := by
  unfold sendLocalInterfaceEntry RowFits nameAt
  cases deviceInfo[neighbour.interfaceIndex.toUInt32]? with
  | none => exact iff_of_true ⟨[], rfl⟩ fun name hname => by cases hname
  | some sender =>
    simp only [Option.bind_some]
    cases sender.deviceData.interfaceName with
    | none => exact iff_of_true ⟨[], rfl⟩ fun name hname => by cases hname
    | some name =>
      simp only [bind_ok_isOk, copyTo_isOk, Option.some.injEq, forall_eq']

/-- One round of the inner loop. -/
theorem dumpNeighbour_isOk (dump : Dump) (row : Bytes × Ndisc.NeighbourEntry) :
    (∃ dump', dumpNeighbour rid deviceInfo dump row = .ok dump') ↔ Fits deviceInfo row := by
  obtain ⟨port, neighbour⟩ := row
  unfold dumpNeighbour Fits
  simp only [← localInterfaceEntry_isOk rid dump.neighbourIdCounter]
  constructor
  · intro h
    obtain ⟨entry, hentry, hrest⟩ := bind_isOk.1 h
    exact ⟨copyTo_isOk.1 ((bind_ok_isOk _).1 ⟨entry, hentry⟩), (bind_ok_isOk _).1 hrest⟩
  · rintro ⟨hport, hlocal⟩
    obtain ⟨entry, hentry⟩ := (bind_ok_isOk _).2 (copyTo_isOk.2 hport)
    exact bind_isOk.2 ⟨entry, hentry, (bind_ok_isOk _).2 hlocal⟩

/-- One round of the outer loop: a chassis id that does not fit is left out. -/
theorem dumpChassis_isOk (dump : Dump) (row : Bytes × ExtTreeMap Bytes Ndisc.NeighbourEntry) :
    (∃ dump', dumpChassis rid deviceInfo dump row = .ok dump') ↔
      ∀ neighbour ∈ row.2.toList, Fits deviceInfo neighbour := by
  obtain ⟨chassisId, portMap⟩ := row
  have hchassis : ∃ packets, sendChassisEntryPacket rid dump.chassisIdCounter chassisId =
      .ok packets := by
    unfold sendChassisEntryPacket
    split
    · exact ⟨[], rfl⟩
    · rename_i hshort
      exact (bind_ok_isOk _).2 (copyTo_isOk.2 (Nat.not_lt.1 hshort))
  obtain ⟨packets, hpackets⟩ := hchassis
  simp only [dumpChassis, hpackets, ok_bind, bind_ok_isOk]
  exact foldlM_isOk_iff dumpNeighbour_isOk

/-- **A request is answered exactly if every neighbour fits its records.** -/
theorem dumpData_isOk {neighbourList : NeighbourList} :
    (∃ packets, dumpData neighbourList deviceInfo rid = .ok packets) ↔
      AllFit deviceInfo neighbourList := by
  rw [dumpData, bind_ok_isOk, foldlM_isOk_iff dumpChassis_isOk, AllFit, neighbours]
  simp only [List.forall_mem_flatMap, List.forall_mem_map]

end

/-! ## Tables whose ids fit -/

/-- Every id that the table holds fits its record. -/
structure KeysFit (neighbourList : NeighbourList) : Prop where
  keys : ∀ chassis port entry, neighbourList.lookup chassis port = some entry →
    chassis.length ≤ 508 ∧ port.length ≤ 506
  dense : NestedMap.Dense neighbourList.chassisMap

theorem keysFit_empty : KeysFit .empty where
  keys := by intro chassis port entry h; simp [NeighbourList.lookup, NeighbourList.empty,
    NestedMap.lookup] at h
  dense := NestedMap.dense_empty

theorem keysFit_store {nl : NeighbourList} (h : KeysFit nl) {entry : Ndisc.NeighbourEntry}
    (hchassis : entry.chassisId.length ≤ 508) (hport : entry.portId.length ≤ 506) :
    KeysFit (nl.store entry) where
  keys := by
    intro chassis port e he
    rw [lookup_store] at he
    split at he
    · rename_i hkey
      obtain ⟨rfl, rfl⟩ := Prod.mk.inj hkey
      exact ⟨hchassis, hport⟩
    · exact h.keys chassis port e he
  dense := NestedMap.dense_assign h.dense _ _ _

theorem keysFit_tick {nl : NeighbourList} (h : KeysFit nl) (d : UInt64) : KeysFit (nl.tick d) where
  keys := by
    intro chassis port e he
    rw [tick_lookup, Option.bind_eq_some_iff] at he
    obtain ⟨e', he', -⟩ := he
    exact h.keys chassis port e' he'
  dense := tick_dense h.dense d

/-- A frame that is not accepted, or whose ids fit their records; any tick. -/
def IdsFit : TableOp → Prop
  | .frame address bytes => address.accepted = true →
    ∀ u, LLDPDataUnit.fromSpan bytes = .ok (some u) →
      u.chassisId.value.length ≤ 508 ∧ u.portId.value.length ≤ 506
  | .tick _ => True

/-- **One call keeps the ids fitting**, if it does not fail (`lldpFrameParser_in_bounds_iff`). -/
theorem step_keysFit {nl : NeighbourList} (h : KeysFit nl) {op : TableOp} (hop : IdsFit op) :
    Outcome KeysFit (fun _ => True) (nl.step op) := by
  cases op with
  | tick d => exact keysFit_tick h d
  | frame address bytes =>
    rw [NeighbourList.step, lldpFrameParser]
    cases hacc : address.accepted with
    | false => exact h
    | true =>
      rcases dataUnit_fromSpan_cases bytes with hnone | ⟨u, rest, hsome, -, -, -⟩
      · rw [hnone]
        exact h
      · rw [hsome]
        obtain ⟨hchassis, hport⟩ := hop hacc u hsome
        simp only [Bool.not_true, Bool.false_eq_true, if_false, ok_bind]
        rcases Nat.lt_or_ge u.timeToLive.value.length 2 with hshort | hlong
        · rw [lldpduToNeighbourEntry_error hshort]
          trivial
        · obtain ⟨a, ha⟩ := collectAll_ok u.optionalTlv ⟨none, none⟩
          rw [lldpduToNeighbourEntry_eq hlong _ ha, ok_bind]
          exact keysFit_store h hchassis hport

theorem run_keysFit {ops : List TableOp} (hops : ∀ op ∈ ops, IdsFit op) :
    Outcome KeysFit (fun _ => True) (NeighbourList.run ops) :=
  foldlM_outcome (fun _ op hop h => step_keysFit h (hops op hop)) keysFit_empty

/-! ## The dump of such a table -/

/-- **Ids that fit make the dump safe.** -/
theorem dumpSafe_of_keysFit {nl : NeighbourList} (h : KeysFit nl) : DumpSafe nl := by
  intro deviceInfo requestId
  have hloop : Outcome (fun dump => PacketsOk dump.packets) (NameFault deviceInfo)
      (nl.chassisMap.toList.foldlM (dumpChassis requestId deviceInfo) ⟨[], 0, 0⟩) := by
    refine foldlM_outcome (I := fun dump : Dump => PacketsOk dump.packets) ?_ packetsOk_nil
    rintro dump ⟨chassisId, portMap⟩ hrow hdump
    rw [ExtTreeMap.mem_toList_iff_getElem?_eq_some] at hrow
    have hports : ∀ row ∈ portMap.toList, chassisId.length ≤ 508 ∧ row.1.length ≤ 506 := by
      rintro ⟨port, entry⟩ hport
      rw [ExtTreeMap.mem_toList_iff_getElem?_eq_some] at hport
      exact h.keys chassisId port entry (by rw [NeighbourList.lookup, NestedMap.lookup, hrow]; exact hport)
    -- A chassis is only in the map with a port, so its own id fits too.
    obtain ⟨row, hmem⟩ := List.exists_mem_of_ne_nil portMap.toList
      (fun hnil => h.dense chassisId portMap hrow (by simpa using hnil))
    exact dumpChassis_outcome hdump _ (hports row hmem).1 fun row hrow => (hports row hrow).2
  have hall : Outcome PacketsOk (NameFault deviceInfo) (dumpData nl deviceInfo requestId) := by
    apply outcome_bind hloop
    intro dump hdump
    apply hdump.append
    intro q hq
    rw [List.mem_singleton.1 hq]
    exact packetOk_other readDataPacket_empty (fun _ => DataPacket.noConfusion)
      (fun _ => DataPacket.noConfusion) _
  revert hall
  cases dumpData nl deviceInfo requestId <;> exact id

/-- **A table fed with ids that fit is dumped inside the arrays.** After any frames and
ticks, if every accepted frame has a chassis id of at most 508 bytes and a port id of at
most 506, `DumpData` copies every id into its array, sends no length above the array that
the client slices with it, and no neighbour before the entry of its chassis. -/
theorem run_dumpSafe (ops : List TableOp) (hops : ∀ op ∈ ops, IdsFit op) {nl : NeighbourList}
    (hrun : NeighbourList.run ops = .ok nl) : DumpSafe nl := by
  have hfit := run_keysFit hops
  rw [hrun] at hfit
  exact dumpSafe_of_keysFit hfit

/-- A short chassis id and a port id of `1 + n` bytes, heard on interface 2. -/
def portOfLength (hi lo : UInt8) (n : ℕ) : TableOp :=
  .frame ⟨17, (0x88, 0xCC), 2, 1, 6⟩ ([0x02, 0x02, 0x07, 0x61, hi, lo, 0x03] ++
    List.replicate n 0x62 ++ [0x06, 0x02, 0x00, 0x1E, 0x00, 0x00])

/-- A chassis id of `1 + n` bytes and a short port id. -/
def chassisOfLength (hi lo : UInt8) (n : ℕ) : TableOp :=
  .frame ⟨17, (0x88, 0xCC), 2, 1, 6⟩ ([hi, lo, 0x07] ++ List.replicate n 0x61 ++
    [0x04, 0x02, 0x03, 0x62, 0x06, 0x02, 0x00, 0x1E, 0x00, 0x00])

/-- The dump of the table after some calls, with no devices. -/
def dumpAfter (ops : List TableOp) : Option (Except CopyFault (List ClientPacket)) :=
  (NeighbourList.run ops).toOption.map fun nl => dumpData nl ∅ 0

theorem dumpAfter_some {ops : List TableOp} {dump : Except CopyFault (List ClientPacket)}
    (h : dumpAfter ops = some dump) :
    ∃ nl, NeighbourList.run ops = .ok nl ∧ dumpData nl ∅ 0 = dump := by
  rw [dumpAfter, Option.map_eq_some_iff] at h
  obtain ⟨nl, hnl, hdump⟩ := h
  cases hrun : NeighbourList.run ops with
  | error fault => rw [hrun] at hnl; cases hnl
  | ok nl' =>
    rw [hrun] at hnl
    cases hnl
    exact ⟨nl, rfl, hdump⟩

/-- A port id of 506 bytes is the longest that fits. -/
theorem run_dumpSafe_longest : ∃ nl, NeighbourList.run [portOfLength 0x05 0xFA 505, .tick 1] = .ok nl ∧
    DumpSafe nl := by
  have hops : ∀ op ∈ [portOfLength 0x05 0xFA 505, .tick 1], IdsFit op := by
    intro op hop
    simp only [List.mem_cons, List.not_mem_nil, or_false] at hop
    rcases hop with rfl | rfl
    · intro _ u hu
      have hparse : (LLDPDataUnit.fromSpan ([0x02, 0x02, 0x07, 0x61, 0x05, 0xFA, 0x03] ++
          List.replicate 505 0x62 ++ [0x06, 0x02, 0x00, 0x1E, 0x00, 0x00])).map (Option.map fun u =>
            (u.chassisId.value.length, u.portId.value.length)) = .ok (some (2, 506)) := by
        decide +kernel
      rw [hu] at hparse
      simp only [Except.map, Option.map_some, Except.ok.injEq, Option.some.injEq, Prod.mk.injEq] at hparse
      omega
    · trivial
  cases hrun : NeighbourList.run [portOfLength 0x05 0xFA 505, .tick 1] with
  | ok nl => exact ⟨nl, rfl, run_dumpSafe _ hops hrun⟩
  | error fault =>
    have hok : (NeighbourList.run [portOfLength 0x05 0xFA 505, .tick 1]).isOk = true := by
      decide +kernel
    rw [hrun] at hok
    cases hok

/-- **One byte more, and the port id is copied past its array.** A chassis id too long is
left out, but its neighbour is sent: it refers to an entry that was not. -/
theorem dump_overruns :
    (∃ nl, NeighbourList.run [portOfLength 0x05 0xFB 506] = .ok nl ∧
      dumpData nl ∅ 0 = .error .neighbourPort ∧ ¬ DumpSafe nl) ∧
    ∃ nl, NeighbourList.run [chassisOfLength 0x03 0xFD 508] = .ok nl ∧ ¬ DumpSafe nl := by
  constructor
  · have hfault : dumpAfter [portOfLength 0x05 0xFB 506] = some (.error .neighbourPort) := by
      decide +kernel
    obtain ⟨nl, hrun, hdump⟩ := dumpAfter_some hfault
    refine ⟨nl, hrun, hdump, fun hsafe => ?_⟩
    have hname := hsafe ∅ 0
    rw [hdump] at hname
    exact absurd hname.1 (by decide)
  · have hsent : dumpAfter [chassisOfLength 0x03 0xFD 508] = some (.ok
        [.ofNeighbourEntry 0 ⟨0, 0, 2, ⟨0x03 :: 0x62 :: List.replicate 504 0, by
          rw [List.length_cons, List.length_cons, List.length_replicate]⟩⟩, .empty]) := by
      decide +kernel
    obtain ⟨nl, hrun, hdump⟩ := dumpAfter_some hsent
    refine ⟨nl, hrun, fun hsafe => ?_⟩
    have hpackets := hsafe ∅ 0
    rw [hdump] at hpackets
    have hfirst := hpackets [] _ _ rfl
    rw [PacketOk, readDataPacket_ofNeighbourEntry] at hfirst
    obtain ⟨p, hp, -⟩ := hfirst.2
    cases hp

end Ndisc.Client
