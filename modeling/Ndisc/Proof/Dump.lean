import Ndisc.Spec.Client

/-!
# What the daemon dumps, the client reads

* `ofData_data` (five of them), `readDataPacket_of` (five of them): a record survives
  its packet.
* `Absorbs`: the loop of the client takes in a list of packets; two lists in a row
  compose.
* `dumpNeighbour_absorbed`, `dumpChassis_absorbed`: one round of each loop of `DumpData`
  adds exactly the entries of that round to what the client shows.
* `getData_dumpData`: **the client ends up with every neighbour, in order.**
-/

namespace Ndisc.Client

open Wire Records
open Std (ExtTreeMap)

/-! ## Records in packets -/

theorem ChassisEntry.ofData_data (e : ChassisEntry) : ofData e.data = e := by
  have h0 : u16Of e.data 0 = e.chassisId :=
    u16Of_eq [] ((u16Octets e.nameLength).toList ++ e.name.toList) (by simp [data]) rfl
  have h2 : u16Of e.data 2 = e.nameLength :=
    u16Of_eq (u16Octets e.chassisId).toList e.name.toList (by simp [data]) (by simp)
  have h4 : slice e.data 4 508 = e.name :=
    slice_eq ((u16Octets e.chassisId).toList ++ (u16Octets e.nameLength).toList) [] (by simp [data])
      (by simp)
  simp only [ofData, h0, h2, h4]

theorem NeighbourEntry.ofData_data (e : NeighbourEntry) : ofData e.data = e := by
  have h0 : u16Of e.data 0 = e.chassisId :=
    u16Of_eq [] ((u16Octets e.neighbourId).toList ++ ((u16Octets e.portSize).toList ++
      e.neighbourPort.toList)) (by simp [data]) rfl
  have h2 : u16Of e.data 2 = e.neighbourId :=
    u16Of_eq (u16Octets e.chassisId).toList ((u16Octets e.portSize).toList ++ e.neighbourPort.toList)
      (by simp [data]) (by simp)
  have h4 : u16Of e.data 4 = e.portSize :=
    u16Of_eq ((u16Octets e.chassisId).toList ++ (u16Octets e.neighbourId).toList)
      e.neighbourPort.toList (by simp [data]) (by simp)
  have h6 : slice e.data 6 506 = e.neighbourPort :=
    slice_eq ((u16Octets e.chassisId).toList ++ (u16Octets e.neighbourId).toList ++
      (u16Octets e.portSize).toList) [] (by simp [data]) (by simp)
  simp only [ofData, h0, h2, h4, h6]

theorem IpEntry.ofData_data (e : IpEntry) : ofData e.data = e := by
  have h0 : u16Of e.data 0 = e.neighbourId :=
    u16Of_eq [] (e.address.toList ++ e.padding.toList) (by simp [data]) rfl
  have h2 : slice e.data 2 4 = e.address :=
    slice_eq (u16Octets e.neighbourId).toList e.padding.toList (by simp [data]) (by simp)
  have h6 : slice e.data 6 506 = e.padding :=
    slice_eq ((u16Octets e.neighbourId).toList ++ e.address.toList) [] (by simp [data]) (by simp)
  simp only [ofData, h0, h2, h6]

theorem Ipv6Entry.ofData_data (e : Ipv6Entry) : ofData e.data = e := by
  have h0 : u16Of e.data 0 = e.neighbourId :=
    u16Of_eq [] (e.address.toList ++ e.padding.toList) (by simp [data]) rfl
  have h2 : slice e.data 2 16 = e.address :=
    slice_eq (u16Octets e.neighbourId).toList e.padding.toList (by simp [data]) (by simp)
  have h18 : slice e.data 18 494 = e.padding :=
    slice_eq ((u16Octets e.neighbourId).toList ++ e.address.toList) [] (by simp [data]) (by simp)
  simp only [ofData, h0, h2, h18]

theorem LocalInterfaceEntry.ofData_data (e : LocalInterfaceEntry) : ofData e.data = e := by
  have h0 : u16Of e.data 0 = e.neighbourId :=
    u16Of_eq [] ((u32Octets e.ifIndex).toList ++ (e.name.toList ++ e.padding.toList))
      (by simp [data]) rfl
  have h2 : u32Of e.data 2 = e.ifIndex :=
    u32Of_eq (u16Octets e.neighbourId).toList (e.name.toList ++ e.padding.toList) (by simp [data])
      (by simp)
  have h6 : slice e.data 6 16 = e.name :=
    slice_eq ((u16Octets e.neighbourId).toList ++ (u32Octets e.ifIndex).toList) e.padding.toList
      (by simp [data]) (by simp)
  have h22 : slice e.data 22 490 = e.padding :=
    slice_eq ((u16Octets e.neighbourId).toList ++ (u32Octets e.ifIndex).toList ++ e.name.toList) []
      (by simp [data]) (by simp)
  simp only [ofData, h0, h2, h6, h22]

section

variable (rid : UInt16)

@[simp] theorem readDataPacket_ofChassisEntry (e : ChassisEntry) :
    readDataPacket (.packet (.ofChassisEntry rid e)) = .ok (.chassisEntry e) := by
  simp [readDataPacket, ClientPacket.ofChassisEntry, NeighbourDataType.endOfData,
    NeighbourDataType.chassisEntry, ChassisEntry.ofData_data]

@[simp] theorem readDataPacket_ofNeighbourEntry (e : NeighbourEntry) :
    readDataPacket (.packet (.ofNeighbourEntry rid e)) = .ok (.neighbourEntry e) := by
  simp [readDataPacket, ClientPacket.ofNeighbourEntry, NeighbourDataType.endOfData,
    NeighbourDataType.chassisEntry, NeighbourDataType.neighbourEntry, NeighbourEntry.ofData_data]

@[simp] theorem readDataPacket_ofIpEntry (e : IpEntry) :
    readDataPacket (.packet (.ofIpEntry rid e)) = .ok (.ipEntry e) := by
  simp [readDataPacket, ClientPacket.ofIpEntry, NeighbourDataType.endOfData,
    NeighbourDataType.chassisEntry, NeighbourDataType.neighbourEntry, NeighbourDataType.ipEntry,
    IpEntry.ofData_data]

@[simp] theorem readDataPacket_ofIpv6Entry (e : Ipv6Entry) :
    readDataPacket (.packet (.ofIpv6Entry rid e)) = .ok (.ipv6Entry e) := by
  simp [readDataPacket, ClientPacket.ofIpv6Entry, NeighbourDataType.endOfData,
    NeighbourDataType.chassisEntry, NeighbourDataType.neighbourEntry, NeighbourDataType.ipEntry,
    NeighbourDataType.ipv6Entry, Ipv6Entry.ofData_data]

@[simp] theorem readDataPacket_ofLocalInterfaceEntry (e : LocalInterfaceEntry) :
    readDataPacket (.packet (.ofLocalInterfaceEntry rid e)) = .ok (.localInterfaceEntry e) := by
  simp [readDataPacket, ClientPacket.ofLocalInterfaceEntry, NeighbourDataType.endOfData,
    NeighbourDataType.chassisEntry, NeighbourDataType.neighbourEntry, NeighbourDataType.ipEntry,
    NeighbourDataType.ipv6Entry, NeighbourDataType.localInterfaceEntry,
    LocalInterfaceEntry.ofData_data]

end

theorem readDataPacket_empty : readDataPacket (.packet .empty) = .ok .monostate := rfl

/-! ## The loop of the client -/

/-- The loop takes `packets` in: they turn its maps from `m` into `m'`. -/
def Absorbs (m : ClientMaps) (packets : List ClientPacket) (m' : ClientMaps) : Prop :=
  ∀ (i : ℕ) (rest : List Recv),
    getDataLoop (packets.length + i) m (packets.map .packet ++ rest) = getDataLoop i m' rest

theorem absorbs_nil (m : ClientMaps) : Absorbs m [] m := by
  intro i rest
  rw [List.length_nil, Nat.zero_add, List.map_nil, List.nil_append]

/-- **Two lists in a row.** -/
theorem Absorbs.append {m m' m'' : ClientMaps} {ps qs : List ClientPacket} (h : Absorbs m ps m')
    (h' : Absorbs m' qs m'') : Absorbs m (ps ++ qs) m'' := by
  intro i rest
  rw [List.length_append, Nat.add_assoc, List.map_append, List.append_assoc, h, h']

theorem absorbs_one {m m' : ClientMaps} {p : ClientPacket} {packet : DataPacket}
    (hread : readDataPacket (.packet p) = .ok packet)
    (h : processDataPacket m packet = .ok (m', true)) : Absorbs m [p] m' := by
  intro i rest
  have hlen : [p].length + i = i + 1 := Nat.add_comm 1 i
  rw [hlen, List.map_cons, List.map_nil, List.cons_append, List.nil_append, getDataLoop, hread]
  simp only [h, ok_bind, if_true]

/-! ## What the client shows -/

/-- The map holds exactly these entries, under the numbers from `0` on. -/
def Shows (m : ClientMaps) (entries : List NeighbourDeviceData) : Prop :=
  ∀ k : UInt16, m.neighbourDeviceMap[k]? = entries[k.toNat]?

theorem shows_empty : Shows .empty [] := by
  intro k
  simp [ClientMaps.empty]

/-- Writing under the next number, or again under the last one. -/
theorem shows_insert {m : ExtTreeMap UInt16 NeighbourDeviceData} {entries : List NeighbourDeviceData}
    {k : UInt16} (hk : k.toNat = entries.length) (x : NeighbourDeviceData)
    (h : ∀ k' : UInt16, k' ≠ k → m[k']? = entries[k'.toNat]?) (k' : UInt16) :
    (m.insert k x)[k']? = (entries ++ [x])[k'.toNat]? := by
  by_cases heq : k' = k
  · subst heq
    rw [hk, List.getElem?_concat_length]
    simp
  · have hne : k'.toNat ≠ entries.length := by
      intro hnat
      exact heq (UInt16.toNat_inj.1 (hnat.trans hk.symm))
    have hlist : (entries ++ [x])[k'.toNat]? = entries[k'.toNat]? := by
      rcases Nat.lt_or_gt_of_ne hne with hlt | hgt
      · exact List.getElem?_append_left hlt
      · rw [List.getElem?_eq_none (by rw [List.length_append, List.length_singleton]; omega),
          List.getElem?_eq_none (by omega)]
    rw [hlist, ← h k' heq]
    simp [ExtTreeMap.getElem?_insert, Ne.symm heq]

/-- A packet about the last entry changes that entry. -/
theorem shows_modify {m : ClientMaps} {entries : List NeighbourDeviceData} {x : NeighbourDeviceData}
    (h : Shows m (entries ++ [x])) {k : UInt16} (hk : k.toNat = entries.length)
    (f : NeighbourDeviceData → NeighbourDeviceData) : Shows (m.modify k f) (entries ++ [f x]) := by
  have hlast : (m.neighbourDeviceMap[k]?).getD .empty = x := by
    rw [h k, hk, List.getElem?_concat_length]; rfl
  intro k'
  rw [ClientMaps.modify, hlast]
  apply shows_insert hk
  intro j hj
  have hne : j.toNat ≠ entries.length := fun hnat => hj (UInt16.toNat_inj.1 (hnat.trans hk.symm))
  rw [h j]
  rcases Nat.lt_or_gt_of_ne hne with hlt | hgt
  · exact List.getElem?_append_left hlt
  · rw [List.getElem?_eq_none (by rw [List.length_append, List.length_singleton]; omega),
      List.getElem?_eq_none (by omega)]

/-! ## One neighbour -/

/-- The name the sender at an interface has, if there is one and it has one. -/
def nameAt (deviceInfo : ExtTreeMap UInt32 LldpSender) (ifIndex : UInt16) : Option Bytes :=
  (deviceInfo[ifIndex.toUInt32]?).bind fun sender => sender.deviceData.interfaceName

/-- What the client is to show of a neighbour. -/
def shown (deviceInfo : ExtTreeMap UInt32 LldpSender) (chassis port : Bytes)
    (neighbour : Ndisc.NeighbourEntry) : NeighbourDeviceData where
  chassis := chassis
  port := port
  localInterfaceName := nameAt deviceInfo neighbour.interfaceIndex
  ipv4Address := neighbour.ipv4Address
  ipv6Address := neighbour.ipv6Address

/-- Interface names as the kernel has them. -/
def NamesFit (deviceInfo : ExtTreeMap UInt32 LldpSender) : Prop :=
  ∀ (i : UInt32) (sender : LldpSender) (name : Bytes), deviceInfo[i]? = some sender →
    sender.deviceData.interfaceName = some name → name.length ≤ 15 ∧ 0 ∉ name

/-- A name of at most 15 characters ends before its array does. -/
theorem cString_padded {name : Bytes} (hlen : name.length ≤ 15) (hnul : 0 ∉ name) :
    cString (name ++ List.replicate (16 - name.length) 0) = .ok name := by
  obtain ⟨k, hk⟩ : ∃ k, 16 - name.length = k + 1 := ⟨15 - name.length, by omega⟩
  have htake : (name ++ List.replicate (16 - name.length) 0).takeWhile (· ≠ 0) = name := by
    rw [List.takeWhile_append_of_pos, hk, List.replicate_succ]
    · simp
    · intro b hb
      have hne : b ≠ 0 := fun h0 => hnul (h0 ▸ hb)
      simpa using hne
  rw [cString, htake, if_pos]
  rw [hk, List.replicate_succ]
  simp

section

variable {m : ClientMaps} {entries : List NeighbourDeviceData} (rid : UInt16) {id : UInt16}

theorem chassisEntry_absorbed (m : ClientMaps) (rid id : UInt16) {chassis : Bytes}
    (h : chassis.length ≤ 508) : ∃ packets, sendChassisEntryPacket rid id chassis = .ok packets ∧
      Absorbs m packets { m with chassisMap := m.chassisMap.insert id chassis } := by
  obtain ⟨name, hcopy, hname⟩ := copyFront_some h
  refine ⟨[.ofChassisEntry rid ⟨id, UInt16.ofNat chassis.length, name⟩], ?_, ?_⟩
  · rw [sendChassisEntryPacket, if_neg (by omega), copyTo, hcopy]; rfl
  · have hlen : (UInt16.ofNat chassis.length).toNat = chassis.length := by
      rw [UInt16.toNat_ofNat']; omega
    have hspan : subspan name.toList 0 chassis.length = .ok chassis := by
      rw [subspan_ok (by rw [name.toList_length]; omega), List.drop_zero, hname, List.take_left]
    apply absorbs_one (readDataPacket_ofChassisEntry rid _)
    simp only [processDataPacket, hlen, hspan, ok_bind]

theorem neighbourEntry_absorbed (h : Shows m entries) (hid : id.toNat = entries.length)
    {cid : UInt16} {chassis port : Bytes} (hchassis : m.chassisMap[cid]? = some chassis)
    (hport : port.length ≤ 506) : ∃ packets m', sendNeighbourEntry rid cid id port = .ok packets ∧
      Absorbs m packets m' ∧ Shows m' (entries ++ [⟨chassis, port, none, none, none⟩]) ∧
      m'.chassisMap[cid]? = some chassis := by
  obtain ⟨array, hcopy, harray⟩ := copyFront_some hport
  refine ⟨[.ofNeighbourEntry rid ⟨cid, id, UInt16.ofNat port.length, array⟩],
    ⟨m.chassisMap.insert cid chassis,
      m.neighbourDeviceMap.insert id ⟨chassis, port, none, none, none⟩⟩, ?_, ?_, ?_, ?_⟩
  · rw [sendNeighbourEntry, copyTo, hcopy]; rfl
  · have hlen : (UInt16.ofNat port.length).toNat = port.length := by
      rw [UInt16.toNat_ofNat']; omega
    have hspan : subspan array.toList 0 port.length = .ok port := by
      rw [subspan_ok (by rw [array.toList_length]; omega), List.drop_zero, harray, List.take_left]
    apply absorbs_one (readDataPacket_ofNeighbourEntry rid _)
    simp only [processDataPacket, hlen, hspan, ok_bind, hchassis, Option.getD_some]
  · intro k
    exact shows_insert hid _ (fun k' _ => h k') k
  · simp

theorem localInterfaceEntry_absorbed {x : NeighbourDeviceData} (h : Shows m (entries ++ [x]))
    (hid : id.toNat = entries.length) (hx : x.localInterfaceName = none)
    {deviceInfo : ExtTreeMap UInt32 LldpSender} (hnames : NamesFit deviceInfo)
    (neighbour : Ndisc.NeighbourEntry) :
    ∃ packets m', sendLocalInterfaceEntry rid id deviceInfo neighbour = .ok packets ∧
      Absorbs m packets m' ∧ Shows m' (entries ++
        [{ x with localInterfaceName := nameAt deviceInfo neighbour.interfaceIndex }]) ∧
      m'.chassisMap = m.chassisMap := by
  unfold sendLocalInterfaceEntry nameAt
  cases hsender : deviceInfo[neighbour.interfaceIndex.toUInt32]? with
  | none => exact ⟨[], m, rfl, absorbs_nil m, by rw [Option.bind_none, ← hx]; exact h, rfl⟩
  | some sender =>
    cases hname : sender.deviceData.interfaceName with
    | none =>
      refine ⟨[], m, by simp only [hname], absorbs_nil m, ?_, rfl⟩
      rw [Option.bind_some, hname, ← hx]; exact h
    | some name =>
      obtain ⟨hlen, hnul⟩ := hnames _ _ _ hsender hname
      -- the name has a NUL behind it in the array, so the client reads it as a C string
      obtain ⟨array, hcopy, harray⟩ := copyFront_some (show name.length ≤ 16 by omega)
      have hstring : cString array.toList = .ok name := by rw [harray]; exact cString_padded hlen hnul
      refine ⟨[.ofLocalInterfaceEntry rid ⟨id, neighbour.interfaceIndex.toUInt32, array,
        List.Vector.replicate 490 0⟩],
        m.modify id fun data => { data with localInterfaceName := some name }, ?_, ?_, ?_, rfl⟩
      · simp only [hname, copyTo, hcopy]; rfl
      · apply absorbs_one (readDataPacket_ofLocalInterfaceEntry rid _)
        simp only [processDataPacket, hstring, ok_bind]
      · rw [Option.bind_some, hname]
        exact shows_modify h hid _

theorem ipEntry_absorbed {x : NeighbourDeviceData} (h : Shows m (entries ++ [x]))
    (hid : id.toNat = entries.length) (hx : x.ipv4Address = none) (address : Option (Octets 4)) :
    ∃ m', Absorbs m (address.toList.map fun address =>
        .ofIpEntry rid ⟨id, address, List.Vector.replicate 506 0⟩) m' ∧
      Shows m' (entries ++ [{ x with ipv4Address := address }]) ∧ m'.chassisMap = m.chassisMap := by
  cases address with
  | none => exact ⟨m, absorbs_nil m, hx ▸ h, rfl⟩
  | some address =>
    exact ⟨m.modify id fun data => { data with ipv4Address := some address },
      absorbs_one (readDataPacket_ofIpEntry rid _) rfl, shows_modify h hid _, rfl⟩

theorem ipv6Entry_absorbed {x : NeighbourDeviceData} (h : Shows m (entries ++ [x]))
    (hid : id.toNat = entries.length) (hx : x.ipv6Address = none) (address : Option (Octets 16)) :
    ∃ m', Absorbs m (address.toList.map fun address =>
        .ofIpv6Entry rid ⟨id, address, List.Vector.replicate 494 0⟩) m' ∧
      Shows m' (entries ++ [{ x with ipv6Address := address }]) ∧ m'.chassisMap = m.chassisMap := by
  cases address with
  | none => exact ⟨m, absorbs_nil m, hx ▸ h, rfl⟩
  | some address =>
    exact ⟨m.modify id fun data => { data with ipv6Address := some address },
      absorbs_one (readDataPacket_ofIpv6Entry rid _) rfl, shows_modify h hid _, rfl⟩

/-! ## The loops of `DumpData` -/

variable {deviceInfo : ExtTreeMap UInt32 LldpSender}

/-- **One round of the inner loop.** -/
theorem dumpNeighbour_absorbed (hnames : NamesFit deviceInfo) (dump : Dump) (h : Shows m entries)
    (hid : dump.neighbourIdCounter.toNat = entries.length) {chassis port : Bytes}
    (hchassis : m.chassisMap[dump.chassisIdCounter]? = some chassis) (hport : port.length ≤ 506)
    (neighbour : Ndisc.NeighbourEntry) :
    ∃ packets m', dumpNeighbour rid deviceInfo dump (port, neighbour) = .ok { dump with
        packets := dump.packets ++ packets
        neighbourIdCounter := dump.neighbourIdCounter + 1 } ∧
      Absorbs m packets m' ∧ Shows m' (entries ++ [shown deviceInfo chassis port neighbour]) ∧
      m'.chassisMap[dump.chassisIdCounter]? = some chassis := by
  obtain ⟨entry, m₁, hentry, habs₁, hshow₁, hc₁⟩ :=
    neighbourEntry_absorbed rid h hid hchassis hport
  obtain ⟨local_, m₂, hlocal, habs₂, hshow₂, hc₂⟩ :=
    localInterfaceEntry_absorbed rid hshow₁ hid rfl hnames neighbour
  obtain ⟨m₃, habs₃, hshow₃, hc₃⟩ := ipEntry_absorbed rid hshow₂ hid rfl neighbour.ipv4Address
  obtain ⟨m₄, habs₄, hshow₄, hc₄⟩ := ipv6Entry_absorbed rid hshow₃ hid rfl neighbour.ipv6Address
  refine ⟨_, m₄, ?_, ((habs₁.append habs₂).append habs₃).append habs₄, hshow₄, ?_⟩
  · simp only [dumpNeighbour, hentry, hlocal, ok_bind, List.append_assoc]
  · rw [hc₄, hc₃, hc₂, hc₁]

/-- **The inner loop.** The counter may come back to `0` after the last neighbour. -/
theorem dumpNeighbours_absorbed (hnames : NamesFit deviceInfo) {chassis : Bytes}
    (rows : List (Bytes × Ndisc.NeighbourEntry)) (hports : ∀ row ∈ rows, row.1.length ≤ 506)
    (dump : Dump) (h : Shows m entries)
    (hid : dump.neighbourIdCounter = UInt16.ofNat entries.length)
    (hlen : entries.length + rows.length ≤ 65536)
    (hchassis : m.chassisMap[dump.chassisIdCounter]? = some chassis) :
    ∃ packets m', rows.foldlM (dumpNeighbour rid deviceInfo) dump = .ok { dump with
        packets := dump.packets ++ packets
        neighbourIdCounter := UInt16.ofNat (entries.length + rows.length) } ∧
      Absorbs m packets m' ∧
      Shows m' (entries ++ rows.map fun row => shown deviceInfo chassis row.1 row.2) := by
  induction rows generalizing dump m entries with
  | nil =>
    refine ⟨[], m, ?_, absorbs_nil m, by simpa using h⟩
    simp [← hid]
  | cons row rows ih =>
    -- the counter is the number of entries so far, as long as it has not wrapped
    have hpos : dump.neighbourIdCounter.toNat = entries.length := by
      rw [List.length_cons] at hlen
      rw [hid]
      exact UInt16.toNat_ofNat_of_lt' (show entries.length < 65536 by omega)
    obtain ⟨packets, m₁, hrow, habs, hshow, hc⟩ := dumpNeighbour_absorbed rid hnames dump h hpos
      hchassis (hports row List.mem_cons_self) row.2
    have hnext : dump.neighbourIdCounter + 1 =
        UInt16.ofNat (entries ++ [shown deviceInfo chassis row.1 row.2]).length := by
      rw [hid, List.length_append, List.length_singleton, UInt16.ofNat_add]; rfl
    have hcount : entries.length + (row :: rows).length =
        (entries ++ [shown deviceInfo chassis row.1 row.2]).length + rows.length := by
      rw [List.length_append, List.length_singleton, List.length_cons]; omega
    obtain ⟨packets', m₂, hrows, habs', hshow'⟩ :=
      ih (fun r hr => hports r (List.mem_cons_of_mem _ hr))
        ⟨dump.packets ++ packets, dump.chassisIdCounter, dump.neighbourIdCounter + 1⟩ hshow hnext
        (hcount ▸ hlen) hc
    refine ⟨packets ++ packets', m₂, ?_, habs.append habs', ?_⟩
    · rw [List.foldlM_cons, hrow, ok_bind, hrows, hcount, List.append_assoc]
    · rw [List.map_cons, List.append_cons]
      exact hshow'

/-- What the client is to show of a chassis. -/
def shownChassis (deviceInfo : ExtTreeMap UInt32 LldpSender)
    (row : Bytes × ExtTreeMap Bytes Ndisc.NeighbourEntry) : List NeighbourDeviceData :=
  row.2.toList.map fun neighbour => shown deviceInfo row.1 neighbour.1 neighbour.2

/-- **One round of the outer loop.** -/
theorem dumpChassis_absorbed (hnames : NamesFit deviceInfo)
    (row : Bytes × ExtTreeMap Bytes Ndisc.NeighbourEntry) (hname : row.1.length ≤ 508)
    (hports : ∀ neighbour ∈ row.2.toList, neighbour.1.length ≤ 506) (dump : Dump)
    (h : Shows m entries) (hid : dump.neighbourIdCounter = UInt16.ofNat entries.length)
    (hlen : (entries ++ shownChassis deviceInfo row).length ≤ 65536) :
    ∃ packets m', dumpChassis rid deviceInfo dump row = .ok {
        packets := dump.packets ++ packets
        chassisIdCounter := dump.chassisIdCounter + 1
        neighbourIdCounter := UInt16.ofNat (entries ++ shownChassis deviceInfo row).length } ∧
      Absorbs m packets m' ∧ Shows m' (entries ++ shownChassis deviceInfo row) := by
  obtain ⟨first, hfirst, habs⟩ := chassisEntry_absorbed m rid dump.chassisIdCounter hname
  have hcount : (entries ++ shownChassis deviceInfo row).length =
      entries.length + row.2.toList.length := by
    rw [List.length_append, shownChassis, List.length_map]
  have hchassis : (m.chassisMap.insert dump.chassisIdCounter row.1)[dump.chassisIdCounter]? =
      some row.1 := by simp
  obtain ⟨packets, m', hrows, habs', hshow⟩ := dumpNeighbours_absorbed rid hnames row.2.toList hports
    ⟨dump.packets ++ first, dump.chassisIdCounter, dump.neighbourIdCounter⟩
    (m := { m with chassisMap := m.chassisMap.insert dump.chassisIdCounter row.1 }) h hid
    (hcount ▸ hlen) hchassis
  refine ⟨first ++ packets, m', ?_, habs.append habs', hshow⟩
  rw [hcount]
  simp only [dumpChassis, hfirst, ok_bind, hrows, List.append_assoc]

/-- **The outer loop.** -/
theorem dumpAll_absorbed (hnames : NamesFit deviceInfo)
    (rows : List (Bytes × ExtTreeMap Bytes Ndisc.NeighbourEntry))
    (hfit : ∀ row ∈ rows, row.1.length ≤ 508 ∧
      ∀ neighbour ∈ row.2.toList, neighbour.1.length ≤ 506)
    (dump : Dump) (h : Shows m entries)
    (hid : dump.neighbourIdCounter = UInt16.ofNat entries.length)
    (hlen : (entries ++ rows.flatMap (shownChassis deviceInfo)).length ≤ 65536) :
    ∃ packets m' dump', rows.foldlM (dumpChassis rid deviceInfo) dump = .ok dump' ∧
      dump'.packets = dump.packets ++ packets ∧ Absorbs m packets m' ∧
      Shows m' (entries ++ rows.flatMap (shownChassis deviceInfo)) := by
  induction rows generalizing dump m entries with
  | nil => exact ⟨[], m, dump, rfl, by simp, absorbs_nil m, by simpa using h⟩
  | cons row rows ih =>
    rw [List.flatMap_cons, ← List.append_assoc] at hlen ⊢
    obtain ⟨hname, hports⟩ := hfit row List.mem_cons_self
    have hlen' : (entries ++ shownChassis deviceInfo row).length ≤ 65536 := by
      rw [List.length_append] at hlen; omega
    obtain ⟨packets, m₁, hrow, habs, hshow⟩ :=
      dumpChassis_absorbed rid hnames row hname hports dump h hid hlen'
    -- the chassis counter only has to name the chassis of this round, so it may wrap
    obtain ⟨packets', m₂, dump', hrows, hpackets, habs', hshow'⟩ :=
      ih (fun r hr => hfit r (List.mem_cons_of_mem _ hr))
        ⟨dump.packets ++ packets, dump.chassisIdCounter + 1,
          UInt16.ofNat (entries ++ shownChassis deviceInfo row).length⟩ hshow rfl hlen
    refine ⟨packets ++ packets', m₂, dump', ?_, ?_, habs.append habs', hshow'⟩
    · rw [List.foldlM_cons, hrow, ok_bind, hrows]
    · rw [hpackets, List.append_assoc]

end

/-! ## The whole dump -/

/-- The neighbours of a list, in the order of the nested map. -/
def neighbours (neighbourList : NeighbourList) : List (Bytes × Bytes × Ndisc.NeighbourEntry) :=
  neighbourList.chassisMap.toList.flatMap fun row =>
    row.2.toList.map fun neighbour => (row.1, neighbour.1, neighbour.2)

theorem shownAll_eq (neighbourList : NeighbourList) (deviceInfo : ExtTreeMap UInt32 LldpSender) :
    neighbourList.chassisMap.toList.flatMap (shownChassis deviceInfo) =
      (neighbours neighbourList).map fun n => shown deviceInfo n.1 n.2.1 n.2.2 := by
  rw [neighbours, List.map_flatMap]
  simp only [List.map_map]
  rfl

/-- A map that shows a list, in order. -/
theorem shows_toList {m : ClientMaps} {entries : List NeighbourDeviceData} (h : Shows m entries)
    (hlen : entries.length ≤ 65536) :
    m.neighbourDeviceMap.toList = entries.zipIdx.map fun x => (UInt16.ofNat x.2, x.1) := by
  -- the numbers of the entries do not wrap
  have hnat : ∀ n, n < entries.length → (UInt16.ofNat n).toNat = n := fun n hn =>
    UInt16.toNat_ofNat_of_lt' (show n < 65536 by omega)
  apply NestedMap.toList_eq
  · rw [List.pairwise_map, List.pairwise_iff_getElem]
    intro i j hi hj hij
    rw [List.length_zipIdx] at hi hj
    have hlt : UInt16.ofNat i < UInt16.ofNat j := by
      rw [UInt16.lt_iff_toNat_lt, hnat i hi, hnat j hj]; exact hij
    simp only [List.getElem_zipIdx, Nat.zero_add]
    exact compareOfLessAndEq_eq_lt.2 hlt
  · intro k v
    rw [h k]
    simp only [List.mem_map, List.mk_mem_zipIdx_iff_getElem?, Prod.exists, Prod.mk.injEq]
    constructor
    · rintro ⟨x, n, hx, rfl, rfl⟩
      have hn : n < entries.length := (List.getElem?_eq_some_iff.1 hx).1
      rw [hnat n hn, hx]
    · intro hv
      exact ⟨v, k.toNat, hv, UInt16.ofNat_toNat, rfl⟩

/-- **What the daemon dumps, the client reads.** For every neighbour list of at most 65536
neighbours whose chassis and port ids fit their records, and every device map with names as
the kernel has them, `DumpData` stays within its arrays; and if it sends no more packets
than `GetData` takes, and they are what the client receives next, `GetData` returns exactly
one entry per neighbour, numbered in the order of the nested map, with the neighbour's own
data and the name of its local interface. -/
theorem getData_dumpData (neighbourList : NeighbourList) (deviceInfo : ExtTreeMap UInt32 LldpSender)
    (requestId : UInt16) (hcount : (neighbours neighbourList).length ≤ 65536)
    (hchassis : ∀ row ∈ neighbourList.chassisMap.toList, row.1.length ≤ 508)
    (hports : ∀ n ∈ neighbours neighbourList, n.2.1.length ≤ 506) (hnames : NamesFit deviceInfo) :
    ∃ packets, dumpData neighbourList deviceInfo requestId = .ok packets ∧
      (packets.length ≤ maxDataTransportPacketAmount → ∀ rest : List Recv,
        ∃ map, getData (packets.map .packet ++ rest) = .ok (some (map, rest)) ∧
          map.toList = (neighbours neighbourList).zipIdx.map fun n => (UInt16.ofNat n.2, {
            chassis := n.1.1
            port := n.1.2.1
            localInterfaceName := (deviceInfo[n.1.2.2.interfaceIndex.toUInt32]?).bind
              fun (sender : LldpSender) => sender.deviceData.interfaceName
            ipv4Address := n.1.2.2.ipv4Address
            ipv6Address := n.1.2.2.ipv6Address })) := by
  have hfit : ∀ row ∈ neighbourList.chassisMap.toList, row.1.length ≤ 508 ∧
      ∀ neighbour ∈ row.2.toList, neighbour.1.length ≤ 506 := by
    intro row hrow
    refine ⟨hchassis row hrow, fun neighbour hneighbour => ?_⟩
    exact hports (row.1, neighbour.1, neighbour.2)
      (List.mem_flatMap.2 ⟨row, hrow, List.mem_map.2 ⟨neighbour, hneighbour, rfl⟩⟩)
  have hlen : (neighbourList.chassisMap.toList.flatMap (shownChassis deviceInfo)).length ≤ 65536 := by
    rw [shownAll_eq, List.length_map]; exact hcount
  obtain ⟨packets, m, dump, hdump, hpackets, habs, hshow⟩ := dumpAll_absorbed requestId hnames
    neighbourList.chassisMap.toList hfit ⟨[], 0, 0⟩ shows_empty rfl hlen
  rw [List.nil_append] at hpackets hshow
  refine ⟨packets ++ [.empty], by rw [dumpData, hdump, ok_bind, hpackets], ?_⟩
  intro hmax rest
  rw [List.length_append, List.length_singleton] at hmax
  -- the rounds that the packets take, one for the terminator, and any number of others
  obtain ⟨i, hi⟩ : ∃ i, maxDataTransportPacketAmount = packets.length + (i + 1) :=
    ⟨maxDataTransportPacketAmount - packets.length - 1, by omega⟩
  refine ⟨m.neighbourDeviceMap, ?_, ?_⟩
  · rw [getData, hi, List.map_append, List.append_assoc, habs, List.map_cons, List.map_nil,
      List.cons_append, List.nil_append, getDataLoop, readDataPacket_empty]
    rfl
  · rw [shows_toList hshow hlen, shownAll_eq, List.zipIdx_map, List.map_map]
    rfl

/-- One neighbour with an IPv4 address, heard on interface 2. -/
def oneNeighbour : NeighbourList :=
  NeighbourList.empty.store ⟨[0x07, 0x61], [0x03, 0x62], 2, 30, some ⟨[10, 0, 0, 1], rfl⟩, none⟩

/-- One sender, on interface 2, with a name. -/
def oneSender : ExtTreeMap UInt32 LldpSender :=
  (∅ : ExtTreeMap UInt32 LldpSender).insert 2
    ⟨⟨none, none, none, some [0x65, 0x30], true, 2⟩, 0, 0, 0, false⟩

theorem getData_dumpData_one :
    ∃ packets map, dumpData oneNeighbour oneSender 1 = .ok packets ∧
      getData (packets.map .packet ++ []) = .ok (some (map, [])) ∧
      map.toList = [(0, ⟨[0x07, 0x61], [0x03, 0x62], some [0x65, 0x30],
        some ⟨[10, 0, 0, 1], rfl⟩, none⟩)] := by
  have hnames : NamesFit oneSender := by
    intro i sender name hsender hname
    rw [oneSender, ExtTreeMap.getElem?_insert] at hsender
    split at hsender
    · cases hsender
      cases hname
      decide
    · simp at hsender
  obtain ⟨packets, hdump, hget⟩ := getData_dumpData oneNeighbour oneSender 1 (by decide +kernel)
    (by decide +kernel) (by decide +kernel) hnames
  have hlen : (dumpData oneNeighbour oneSender 1).map List.length = .ok 5 := by decide +kernel
  rw [hdump] at hlen
  obtain ⟨map, hmap, hlist⟩ := hget (by
    have hfive : packets.length = 5 := by simpa [Except.map] using hlen
    rw [hfive]; decide) []
  refine ⟨packets, map, hdump, hmap, hlist.trans ?_⟩
  decide +kernel

end Ndisc.Client
