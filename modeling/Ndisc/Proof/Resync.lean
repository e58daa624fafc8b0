import Ndisc.Spec.Device

/-!
# What a resync hands over

The two handlers only add to the map of devices, and nothing clears it between dumps.

* `Family`: the two kinds of address, and what each handler does to them.
* `dumps_mirrored_iff`: two dumps on top of a map give their own mirror image exactly if
  nothing in the map is stale (`NothingStale`).
* `Resync`: a whole resync, with whatever else goes on meanwhile that takes no part in a
  dump (`Quiet`).
* `resync_mirrors_iff`: **in every run, the map that a resync hands over mirrors its dumps
  exactly if nothing was stale before it**; `resync_keeps_stale`: a link that went away.
-/

namespace Ndisc

open Wire Netlink Upsert Run
open Std (ExtTreeMap)

/-! ## What a packet is about -/

/-- The index of an Ethernet link. -/
def ethernetIndex (link : LinkView) : Option UInt32 :=
  if link.header.nlmsgType = rtmNewlink ∧ link.content.interfaceInfo.ifiType = arphrdEther then
    some link.content.interfaceInfo.ifiIndex.toUInt32
  else none

/-- The index of an accepted address packet: IPv4 or IPv6, and not secondary. -/
def acceptedIndex (address : AddrView) : Option UInt32 :=
  if address.header.nlmsgType = rtmNewaddr ∧
    (address.content.addressInfo.ifaFamily = afInet ∨
      address.content.addressInfo.ifaFamily = afInet6) ∧
    address.content.addressInfo.ifaFlags &&& ifaFSecondary = 0 then
    some address.content.addressInfo.ifaIndex
  else none

theorem handleLinkPacket_eq : Devices.handleLinkPacket = update .empty ethernetIndex linkChange := by
  funext devices link
  unfold Devices.handleLinkPacket update ethernetIndex
  by_cases htype : link.header.nlmsgType = rtmNewlink
  · by_cases hether : link.content.interfaceInfo.ifiType = arphrdEther
    · simp [htype, hether]
    · simp [hether]
  · simp [htype]

theorem handleAddressPacket_eq :
    Devices.handleAddressPacket = update .empty acceptedIndex addressChange := by
  funext devices address
  unfold Devices.handleAddressPacket update acceptedIndex
  by_cases htype : address.header.nlmsgType = rtmNewaddr
  · by_cases hfamily : address.content.addressInfo.ifaFamily = afInet ∨
        address.content.addressInfo.ifaFamily = afInet6
    · by_cases hflags : address.content.addressInfo.ifaFlags &&& ifaFSecondary = 0
      · have hnot : ¬ (address.content.addressInfo.ifaFamily ≠ afInet ∧
            address.content.addressInfo.ifaFamily ≠ afInet6) := by tauto
        simp [htype, hfamily, hflags, hnot]
      · simp [htype, hflags]
    · have hnot : address.content.addressInfo.ifaFamily ≠ afInet ∧
          address.content.addressInfo.ifaFamily ≠ afInet6 := by tauto
      simp [htype, hnot]
  · simp [htype]

/-- A value of exactly `n` bytes. -/
def octetsOf (n : ℕ) (value : Bytes) : Option (Octets n) :=
  if h : value.length = n then some ⟨value, h⟩ else none

/-- The `IFA_ADDRESS` of a packet: the last one that has the size. -/
def ifaAddressOf (n : ℕ) (address : AddrView) : Option (Octets n) :=
  (address.content.attributes.filterMap fun tlv =>
    if tlv.attributeHeader.rtaType = ifaAddress then octetsOf n tlv.value else none).getLast?

/-! ## The two kinds of address -/

/-- A kind of address, and what the two handlers do to it. -/
structure Family where
  code : UInt8
  size : ℕ
  get : DeviceData → Option (Octets size)
  get_empty : get .empty = none
  get_link : ∀ link device, get (linkChange link device) = get device
  get_address : ∀ address device, get (addressChange address device) =
    (if address.content.addressInfo.ifaFamily = code then ifaAddressOf size address else none).or
      (get device)

theorem linkChange_addresses (link : LinkView) (device : DeviceData) :
    (linkChange link device).ipv4Address = device.ipv4Address ∧
      (linkChange link device).ipv6Address = device.ipv6Address := by
  have hstep : ∀ (tlvs : List TLVView) (d : DeviceData),
      (tlvs.foldl handleLinkAttribute d).ipv4Address = d.ipv4Address ∧
        (tlvs.foldl handleLinkAttribute d).ipv6Address = d.ipv6Address := by
    intro tlvs
    induction tlvs with
    | nil => exact fun d => ⟨rfl, rfl⟩
    | cons tlv tlvs ih =>
      intro d
      obtain ⟨h4, h6⟩ := ih (handleLinkAttribute d tlv)
      have hone : (handleLinkAttribute d tlv).ipv4Address = d.ipv4Address ∧
          (handleLinkAttribute d tlv).ipv6Address = d.ipv6Address := by
        unfold handleLinkAttribute
        split_ifs <;> exact ⟨rfl, rfl⟩
      exact ⟨h4.trans hone.1, h6.trans hone.2⟩
  exact hstep _ _

/-- A field of the device that the attributes of one family overwrite. -/
theorem get_addressChange {n : ℕ} (get : DeviceData → Option (Octets n)) (code : UInt8)
    (hget : ∀ d i, get { d with ifIndex := i } = get d)
    (h : ∀ family d tlv, get (handleAddressAttribute family d tlv) =
      (if tlv.attributeHeader.rtaType = ifaAddress ∧ family = code then octetsOf n tlv.value
        else none).or (get d))
    (address : AddrView) (device : DeviceData) : get (addressChange address device) =
      (if address.content.addressInfo.ifaFamily = code then ifaAddressOf n address else none).or
        (get device) := by
  unfold addressChange
  rw [foldl_field get _ _ (fun d tlv => h _ d tlv), hget]
  by_cases hcode : address.content.addressInfo.ifaFamily = code
  · simp only [hcode, and_true, if_true, ifaAddressOf]
  · simp only [hcode, and_false, if_false]
    have hnil : address.content.attributes.filterMap (fun _ => (none : Option (Octets n))) = [] := by
      simp
    rw [hnil]
    rfl

theorem octetsOf_or {n : ℕ} (value : Bytes) (a : Option (Octets n)) :
    (octetsOf n value).or a = if h : value.length = n then some ⟨value, h⟩ else a := by
  unfold octetsOf
  split <;> rfl

theorem handleAddressAttribute_ipv4 (family : UInt8) (device : DeviceData) (tlv : TLVView) :
    (handleAddressAttribute family device tlv).ipv4Address =
      (if tlv.attributeHeader.rtaType = ifaAddress ∧ family = afInet then octetsOf 4 tlv.value
        else none).or device.ipv4Address := by
  unfold handleAddressAttribute
  by_cases htype : tlv.attributeHeader.rtaType = ifaAddress
  · by_cases hfamily : family = afInet
    · have hother : ¬ (family = afInet6 ∧ tlv.value.length = 16) := by
        rintro ⟨h6, -⟩
        rw [hfamily] at h6
        exact absurd h6 (by decide)
      rw [if_pos htype, if_pos ⟨htype, hfamily⟩, octetsOf_or, dif_neg hother]
      by_cases hlen : tlv.value.length = 4
      · rw [dif_pos ⟨hfamily, hlen⟩, dif_pos hlen]
      · rw [dif_neg (fun h => hlen h.2), dif_neg hlen]
    · rw [if_pos htype, if_neg (fun h => hfamily h.2), dif_neg (fun h => hfamily h.1), Option.none_or]
      split <;> rfl
  · rw [if_neg htype, if_neg (fun h => htype h.1), Option.none_or]

theorem handleAddressAttribute_ipv6 (family : UInt8) (device : DeviceData) (tlv : TLVView) :
    (handleAddressAttribute family device tlv).ipv6Address =
      (if tlv.attributeHeader.rtaType = ifaAddress ∧ family = afInet6 then octetsOf 16 tlv.value
        else none).or device.ipv6Address := by
  unfold handleAddressAttribute
  by_cases htype : tlv.attributeHeader.rtaType = ifaAddress
  · by_cases hfamily : family = afInet6
    · have hother : ¬ (family = afInet ∧ tlv.value.length = 4) := by
        rintro ⟨h4, -⟩
        rw [hfamily] at h4
        exact absurd h4 (by decide)
      rw [if_pos htype, if_pos ⟨htype, hfamily⟩, octetsOf_or, dif_neg hother]
      by_cases hlen : tlv.value.length = 16
      · rw [dif_pos ⟨hfamily, hlen⟩, dif_pos hlen]
      · rw [dif_neg (fun h => hlen h.2), dif_neg hlen]
    · rw [if_pos htype, if_neg (fun h => hfamily h.2), Option.none_or]
      split
      · rfl
      · rw [dif_neg (fun h => hfamily h.1)]
  · rw [if_neg htype, if_neg (fun h => htype h.1), Option.none_or]

def ipv4 : Family where
  code := afInet
  size := 4
  get := DeviceData.ipv4Address
  get_empty := rfl
  get_link := fun link device => (linkChange_addresses link device).1
  get_address := get_addressChange _ _ (fun _ _ => rfl) handleAddressAttribute_ipv4

def ipv6 : Family where
  code := afInet6
  size := 16
  get := DeviceData.ipv6Address
  get_empty := rfl
  get_link := fun link device => (linkChange_addresses link device).2
  get_address := get_addressChange _ _ (fun _ _ => rfl) handleAddressAttribute_ipv6

/-! ## Mirrors -/

/-- The dumps have a packet about an index: an Ethernet link, or an accepted address. -/
def Listed (links : List LinkView) (addresses : List AddrView) (i : UInt32) : Prop :=
  (∃ link ∈ links, ethernetIndex link = some i) ∨ ∃ address ∈ addresses, acceptedIndex address = some i

/-- An accepted address packet of a family for an index. -/
def Family.Has (F : Family) (i : UInt32) (address : AddrView) : Prop :=
  acceptedIndex address = some i ∧ address.content.addressInfo.ifaFamily = F.code

instance (F : Family) (i : UInt32) : DecidablePred (F.Has i) := fun _ =>
  inferInstanceAs (Decidable (_ ∧ _))

/-- The `IFA_ADDRESS` of the last accepted packet of a family for an index. -/
def Family.dumped (F : Family) (addresses : List AddrView) (i : UInt32) : Option (Octets F.size) :=
  (addresses.filter (F.Has i)).getLast?.bind (ifaAddressOf F.size)

/-- A map that mirrors two dumps: no keys but those the dumps have a packet about, and
every address that of the last packet. -/
structure Mirrors (links : List LinkView) (addresses : List AddrView) (devices : Devices) : Prop where
  keys : ∀ i ∈ devices, Listed links addresses i
  ipv4 : ∀ (i : UInt32) (device : DeviceData), devices[i]? = some device →
    device.ipv4Address = ipv4.dumped addresses i
  ipv6 : ∀ (i : UInt32) (device : DeviceData), devices[i]? = some device →
    device.ipv6Address = ipv6.dumped addresses i

/-- Where the last packet of the family for an index gives no address, neither an earlier
packet nor the map before the dumps does. -/
def Family.Replaced (F : Family) (devices : Devices) (addresses : List AddrView) : Prop :=
  ∀ i : UInt32, F.dumped addresses i = none →
    (∀ address ∈ addresses, F.Has i address → ifaAddressOf F.size address = none) ∧
      devices[i]?.bind F.get = none

/-- **Nothing in the map before two dumps outlives them**: they have a packet about every
key, and replace every address. -/
structure NothingStale (devices : Devices) (links : List LinkView) (addresses : List AddrView) :
    Prop where
  keys : ∀ i ∈ devices, Listed links addresses i
  ipv4 : ipv4.Replaced devices addresses
  ipv6 : ipv6.Replaced devices addresses

/-- The map after a link dump and an address dump. -/
def afterDumps (devices : Devices) (links : List LinkView) (addresses : List AddrView) : Devices :=
  addresses.foldl Devices.handleAddressPacket (links.foldl Devices.handleLinkPacket devices)

theorem mem_afterDumps (devices : Devices) (links : List LinkView) (addresses : List AddrView)
    (i : UInt32) :
    i ∈ afterDumps devices links addresses ↔ i ∈ devices ∨ Listed links addresses i := by
  rw [afterDumps, handleAddressPacket_eq, handleLinkPacket_eq, mem_updateAll, mem_updateAll, Listed,
    or_assoc]

/-- **An address after the dumps**: the last one that a packet of the family gives, or the
one that was there. -/
theorem Family.get_afterDumps (F : Family) (devices : Devices) (links : List LinkView)
    (addresses : List AddrView) (i : UInt32) :
    (afterDumps devices links addresses)[i]?.bind F.get =
      (((addresses.filter (F.Has i)).filterMap (ifaAddressOf F.size)).getLast?).or
        (devices[i]?.bind F.get) := by
  have hlinks : (links.foldl (update .empty ethernetIndex linkChange) devices)[i]?.bind F.get =
      devices[i]?.bind F.get := by
    rw [field_updateAll _ _ _ F.get (fun _ => none) F.get_empty F.get_link]
    simp
  have hfilter : (addresses.filter (acceptedIndex · = some i)).filterMap (fun address =>
        if address.content.addressInfo.ifaFamily = F.code then ifaAddressOf F.size address else none) =
      (addresses.filter (F.Has i)).filterMap (ifaAddressOf F.size) := by
    rw [List.filterMap_filter, List.filterMap_filter]
    congr 1
    funext address
    by_cases hindex : acceptedIndex address = some i <;>
      by_cases hcode : address.content.addressInfo.ifaFamily = F.code <;>
      simp [Family.Has, hindex, hcode]
  rw [afterDumps, handleAddressPacket_eq, handleLinkPacket_eq,
    field_updateAll _ _ _ F.get _ F.get_empty F.get_address, hlinks, hfilter]

theorem Family.dumped_eq_none {F : Family} {addresses : List AddrView} {i : UInt32}
    (h : ∀ address ∈ addresses, acceptedIndex address ≠ some i) : F.dumped addresses i = none := by
  have hnil : addresses.filter (F.Has i) = [] := by
    rw [List.filter_eq_nil_iff]
    intro address haddress hhas
    exact h address haddress (of_decide_eq_true hhas).1
  rw [Family.dumped, hnil]
  rfl

/-- The addresses of a family mirror the dump exactly if it replaces them all. -/
theorem Family.mirrored_iff (F : Family) (devices : Devices) (links : List LinkView)
    (addresses : List AddrView) :
    (∀ (i : UInt32) (device : DeviceData), (afterDumps devices links addresses)[i]? = some device →
      F.get device = F.dumped addresses i) ↔ F.Replaced devices addresses := by
  have hpoint : ∀ i : UInt32, (∀ device, (afterDumps devices links addresses)[i]? = some device →
      F.get device = F.dumped addresses i) ↔
        (afterDumps devices links addresses)[i]?.bind F.get = F.dumped addresses i := by
    intro i
    cases hi : (afterDumps devices links addresses)[i]? with
    | some device => simp
    | none =>
      -- an index that is not in the map has no address in the dump either
      have hnot : i ∉ afterDumps devices links addresses := by
        rw [← ExtTreeMap.isSome_getElem?_iff_mem, hi]
        decide
      rw [mem_afterDumps, Listed] at hnot
      have hnone : F.dumped addresses i = none :=
        Family.dumped_eq_none fun address haddress hindex =>
          hnot (Or.inr (Or.inr ⟨address, haddress, hindex⟩))
      simp [hnone]
  apply forall_congr'
  intro i
  rw [hpoint, F.get_afterDumps, Family.dumped, latest_eq_iff]
  simp only [List.mem_filter, decide_eq_true_eq, and_imp]

/-- **Two dumps are mirrored exactly if nothing was stale.** -/
theorem dumps_mirrored_iff (devices : Devices) (links : List LinkView) (addresses : List AddrView) :
    Mirrors links addresses (afterDumps devices links addresses) ↔
      NothingStale devices links addresses := by
  have hkeys : (∀ i ∈ afterDumps devices links addresses, Listed links addresses i) ↔
      ∀ i ∈ devices, Listed links addresses i := by
    apply forall_congr'
    intro i
    rw [mem_afterDumps]
    exact ⟨fun h hi => h (Or.inl hi), fun h hi => hi.elim h id⟩
  have h4 := ipv4.mirrored_iff devices links addresses
  have h6 := ipv6.mirrored_iff devices links addresses
  constructor
  · rintro ⟨h, h', h''⟩
    exact ⟨hkeys.1 h, h4.1 h', h6.1 h''⟩
  · rintro ⟨h, h', h''⟩
    exact ⟨hkeys.2 h, h4.2 h', h6.2 h''⟩

/-! ## Resyncs -/

/-- A request that is outstanding, if one is, does not time out. -/
def DumpReader.Outlasts (r : DumpReader) (deltaSeconds : UInt64) : Prop :=
  r.dumpRequestSequenceNumber = none ∨ narrowInt deltaSeconds < r.dumpReadTimeout

/-- An event that takes no part in any dump: a tick that neither ends one nor requests
one, a monitor packet, or a packet with a number that is not outstanding. -/
def Quiet (w : World) : DeviceEvent → Prop
  | .tick deltaSeconds sent =>
    w.repository.deviceReader.Outlasts deltaSeconds ∧ w.repository.ipReader.Outlasts deltaSeconds ∧
      (sent = true → narrowInt deltaSeconds < w.repository.syncTimeout)
  | .linkPacket packet _ =>
    w.repository.deviceReader.dumpRequestSequenceNumber ≠ some packet.header.nlmsgSeq
  | .addrPacket packet =>
    w.repository.ipReader.dumpRequestSequenceNumber ≠ some packet.header.nlmsgSeq
  | .monitorPacket _ | .setSyncCallback | .clearSyncCallback => True

/-- The packets of a dump arrive in order, among quiet events. -/
inductive Dump {View : Type} (Carries : View → DeviceEvent → Prop) : World → List View → World → Prop
  | nil (w : World) : Dump Carries w [] w
  | packet {w w' : World} {view : View} {views : List View} {e : DeviceEvent}
      (hcarries : Carries view e) (h : Dump Carries (w.step e) views w') :
      Dump Carries w (view :: views) w'
  | quiet {w w' : World} {views : List View} {e : DeviceEvent} (hquiet : Quiet w e)
      (h : Dump Carries (w.step e) views w') : Dump Carries w views w'

/-- An `RTM_NEWLINK` packet with number `n`. -/
def LinkPacket (n : UInt32) (link : LinkView) (e : DeviceEvent) : Prop :=
  link.header.nlmsgType = rtmNewlink ∧ link.header.nlmsgSeq = n ∧
    ∃ sent, e = .linkPacket (.link link) sent

/-- An `RTM_NEWADDR` packet with number `n`. -/
def AddrPacket (n : UInt32) (address : AddrView) (e : DeviceEvent) : Prop :=
  address.header.nlmsgType = rtmNewaddr ∧ address.header.nlmsgSeq = n ∧
    e = .addrPacket (.addr address)

/-- **A complete resync**: a link dump with the number `n` that is outstanding, its end,
which requests an address dump, that dump with its number `m`, and its end, when the
callback is set. -/
inductive Resync (w : World) (links : List LinkView) (addresses : List AddrView) : World → Prop
  | intro {n m : UInt32} {d e : DoneView} {w₁ w₂ : World}
      (hn : w.repository.deviceReader.dumpRequestSequenceNumber = some n)
      (hlinks : Dump (LinkPacket n) w links w₁) (hd : d.header.nlmsgSeq = n)
      (hm : (w₁.step (.linkPacket (.done d) true)).repository.ipReader.dumpRequestSequenceNumber =
        some m)
      (haddresses : Dump (AddrPacket m) (w₁.step (.linkPacket (.done d) true)) addresses w₂)
      (he : e.header.nlmsgSeq = m)
      (hcallback : w₂.repository.synchronizationCallback = true) :
      Resync w links addresses (w₂.step (.addrPacket (.done e)))

/-- What a quiet event keeps. -/
structure Kept (w w' : World) : Prop where
  deviceReader : w'.repository.deviceReader.dumpRequestSequenceNumber =
    w.repository.deviceReader.dumpRequestSequenceNumber
  ipReader : w'.repository.ipReader.dumpRequestSequenceNumber =
    w.repository.ipReader.dumpRequestSequenceNumber
  devices : w'.repository.devices = w.repository.devices
  synchronized : w'.synchronized = w.synchronized

theorem tick_outlasts {r : DumpReader} {d : UInt64} (h : r.Outlasts d) :
    ∃ timeout, r.tick d = ({ r with dumpReadTimeout := timeout }, false) := by
  unfold DumpReader.tick
  cases hn : r.dumpRequestSequenceNumber with
  | none => exact ⟨r.dumpReadTimeout, by rw [Option.isSome_none, if_neg Bool.false_ne_true, ← hn]⟩
  | some n =>
    rcases h with hnone | hlt
    · rw [hn] at hnone
      cases hnone
    · exact ⟨r.dumpReadTimeout - narrowInt d, by rw [Option.isSome_some, if_pos rfl, if_pos hlt]⟩

theorem tick_kept {w : World} {d : UInt64} {sent : Bool} (h : Quiet w (.tick d sent)) :
    Kept w (w.step (.tick d sent)) := by
  obtain ⟨hdevice, hip, hsync⟩ := h
  obtain ⟨t, ht⟩ := tick_outlasts hdevice
  obtain ⟨t', ht'⟩ := tick_outlasts hip
  simp only [World.step, DeviceRepository.tick, DeviceReader.tick, IpReader.tick, ht, ht',
    Bool.false_eq_true, if_false]
  split
  · exact ⟨rfl, rfl, rfl, rfl⟩
  · rename_i hnot
    -- a request that is due was not sent
    have hfailed : sent = false := by
      cases sent with
      | false => rfl
      | true => exact absurd (hsync rfl) hnot
    rw [hfailed]
    exact ⟨rfl, rfl, rfl, rfl⟩

/-- **A quiet event keeps all that a resync is made of.** -/
theorem quiet_kept {w : World} {e : DeviceEvent} (h : Quiet w e) : Kept w (w.step e) := by
  cases e with
  | tick d sent => exact tick_kept h
  | linkPacket packet sent =>
    simp only [World.step, DeviceRepository.deviceReaderPacket, DeviceReader.handleNetlinkPacket,
      DumpReader.handleNetlinkPacket, if_neg h]
    exact ⟨rfl, rfl, rfl, rfl⟩
  | addrPacket packet =>
    simp only [World.step, DeviceRepository.ipReaderPacket, IpReader.handleNetlinkPacket,
      DumpReader.handleNetlinkPacket, if_neg h, Option.toList_none, List.append_nil]
    exact ⟨rfl, rfl, rfl, rfl⟩
  | monitorPacket packet => exact ⟨rfl, rfl, rfl, rfl⟩
  | setSyncCallback => exact ⟨rfl, rfl, rfl, rfl⟩
  | clearSyncCallback => exact ⟨rfl, rfl, rfl, rfl⟩

/-! ## The packets -/

theorem step_link {w : World} {link : LinkView} {e : DeviceEvent} {n : UInt32}
    (hn : w.repository.deviceReader.dumpRequestSequenceNumber = some n) (h : LinkPacket n link e) :
    w.step e = { w with repository := w.repository.handleLinkPacket link } := by
  obtain ⟨-, hseq, sent, rfl⟩ := h
  have hown : w.repository.deviceReader.dumpRequestSequenceNumber =
      some (NetlinkPacketView.link link).header.nlmsgSeq := by rw [hn, ← hseq]; rfl
  simp only [World.step, DeviceRepository.deviceReaderPacket, DeviceReader.handleNetlinkPacket,
    DumpReader.handleNetlinkPacket, if_pos hown, DeviceReader.linkView]

theorem step_linkDone {w : World} {done : DoneView} {sent : Bool}
    (hn : w.repository.deviceReader.dumpRequestSequenceNumber = some done.header.nlmsgSeq) :
    w.step (.linkPacket (.done done) sent) = { w with repository :=
      ({ w.repository with
        deviceReader := w.repository.deviceReader.resetDumpAttempt }).requestIpDump sent } := by
  have hown : w.repository.deviceReader.dumpRequestSequenceNumber =
      some (NetlinkPacketView.done done).header.nlmsgSeq := hn
  simp only [World.step, DeviceRepository.deviceReaderPacket, DeviceReader.handleNetlinkPacket,
    DumpReader.handleNetlinkPacket, if_pos hown, DeviceReader.linkView,
    DeviceRepository.deviceReaderFinished]

theorem step_addr {w : World} {address : AddrView} {e : DeviceEvent} {m : UInt32}
    (hm : w.repository.ipReader.dumpRequestSequenceNumber = some m) (h : AddrPacket m address e) :
    w.step e = { w with repository := w.repository.handleAddressPacket address } := by
  obtain ⟨-, hseq, rfl⟩ := h
  have hown : w.repository.ipReader.dumpRequestSequenceNumber =
      some (NetlinkPacketView.addr address).header.nlmsgSeq := by rw [hm, ← hseq]; rfl
  simp only [World.step, DeviceRepository.ipReaderPacket, IpReader.handleNetlinkPacket,
    DumpReader.handleNetlinkPacket, if_pos hown, IpReader.addrView, Option.toList_none, List.append_nil]

theorem step_addrDone {w : World} {done : DoneView}
    (hm : w.repository.ipReader.dumpRequestSequenceNumber = some done.header.nlmsgSeq)
    (hcallback : w.repository.synchronizationCallback = true) :
    (w.step (.addrPacket (.done done))).synchronized = w.synchronized ++ [w.repository.devices] := by
  have hown : w.repository.ipReader.dumpRequestSequenceNumber =
      some (NetlinkPacketView.done done).header.nlmsgSeq := hm
  simp only [World.step, DeviceRepository.ipReaderPacket, IpReader.handleNetlinkPacket,
    DumpReader.handleNetlinkPacket, if_pos hown, IpReader.addrView, DeviceRepository.ipReaderFinished,
    hcallback, if_true, Option.toList_some]

/-! ## The dumps -/

/-- **A link dump** is folded into the map. -/
theorem linkDump_devices {n : UInt32} {w w' : World} {links : List LinkView}
    (h : Dump (LinkPacket n) w links w')
    (hn : w.repository.deviceReader.dumpRequestSequenceNumber = some n) :
    w'.repository.deviceReader.dumpRequestSequenceNumber = some n ∧
      w'.repository.devices = links.foldl Devices.handleLinkPacket w.repository.devices ∧
      w'.synchronized = w.synchronized := by
  induction h with
  | nil w => exact ⟨hn, rfl, rfl⟩
  | packet hcarries _ ih =>
    rw [step_link hn hcarries] at ih
    exact ih hn
  | quiet hquiet _ ih =>
    have hkept := quiet_kept hquiet
    obtain ⟨hn', hdevices, hsync⟩ := ih (hkept.deviceReader.trans hn)
    exact ⟨hn', by rw [hdevices, hkept.devices], hsync.trans hkept.synchronized⟩

/-- **An address dump** is folded into the map. -/
theorem addrDump_devices {m : UInt32} {w w' : World} {addresses : List AddrView}
    (h : Dump (AddrPacket m) w addresses w')
    (hm : w.repository.ipReader.dumpRequestSequenceNumber = some m) :
    w'.repository.ipReader.dumpRequestSequenceNumber = some m ∧
      w'.repository.devices = addresses.foldl Devices.handleAddressPacket w.repository.devices ∧
      w'.synchronized = w.synchronized := by
  induction h with
  | nil w => exact ⟨hm, rfl, rfl⟩
  | packet hcarries _ ih =>
    rw [step_addr hm hcarries] at ih
    exact ih hm
  | quiet hquiet _ ih =>
    have hkept := quiet_kept hquiet
    obtain ⟨hm', hdevices, hsync⟩ := ih (hkept.ipReader.trans hm)
    exact ⟨hm', by rw [hdevices, hkept.devices], hsync.trans hkept.synchronized⟩

/-- **A resync hands over the map with both dumps folded in.** -/
theorem resync_synchronized {w w' : World} {links : List LinkView} {addresses : List AddrView}
    (h : Resync w links addresses w') :
    w'.synchronized = w.synchronized ++ [afterDumps w.repository.devices links addresses] := by
  obtain ⟨hn, hlinks, hlinkDone, hm, haddresses, haddrDone, hcallback⟩ := h
  obtain ⟨hn₁, hdevices₁, hsync₁⟩ := linkDump_devices hlinks hn
  obtain ⟨hm₂, hdevices₂, hsync₂⟩ := addrDump_devices haddresses hm
  -- each dump starts from the map that the one before it left
  rw [step_linkDone (hlinkDone ▸ hn₁)] at hdevices₂ hsync₂
  rw [step_addrDone (haddrDone ▸ hm₂) hcallback, hdevices₂, hsync₂, hsync₁]
  simp only [DeviceRepository.requestIpDump, hdevices₁, afterDumps]

/-- **A resync mirrors its dumps exactly if nothing was stale.** After any events, a
complete resync calls the synchronisation callback once. The map it is given has no key
but those of the two dumps, and every address as the last packet of the address dump has
it, if and only if the dumps have a packet about every key that was there before, and
replace every address: where the last accepted packet for an index has none, neither an
earlier one nor the map before has. -/
theorem resync_mirrors_iff (es : List DeviceEvent) {links : List LinkView} {addresses : List AddrView}
    {w' : World} (h : Resync (run World.step .init es) links addresses w') :
    ∃ devices, w'.synchronized = (run World.step .init es).synchronized ++ [devices] ∧
      (Mirrors links addresses devices ↔
        NothingStale (run World.step .init es).repository.devices links addresses) :=
  ⟨_, resync_synchronized h, dumps_mirrored_iff _ links addresses⟩

/-! ## Two resyncs -/

/-- An Ethernet link, in the dump with number `n`. -/
def linkUp (n : UInt32) (ifIndex : Int32) : LinkView :=
  ⟨⟨32, rtmNewlink, 2, n, 0⟩, ⟨0, arphrdEther, ifIndex, 0x10001, 0⟩, []⟩

/-- The address `10.0.0.1`. -/
def ipOf (n ifIndex : UInt32) : AddrView :=
  ⟨⟨32, rtmNewaddr, 2, n, 0⟩, ⟨afInet, 24, 0x80, 0, ifIndex⟩, [⟨⟨8, ifaAddress⟩, [10, 0, 0, 1]⟩]⟩

def doneOf (n : UInt32) : DoneView := ⟨⟨20, nlmsgDone, 2, n, 0⟩, 0⟩

/-- The start: the first tick requests a dump. -/
def firstRequest : List DeviceEvent := [.setSyncCallback, .tick 1 true]

/-- A first resync finds the links 2 and 3, and an address on link 2; two minutes later
another one is requested. -/
def secondRequest : List DeviceEvent := firstRequest ++
  [.linkPacket (.link (linkUp 2 2)) true, .linkPacket (.link (linkUp 2 3)) true,
    .linkPacket (.done (doneOf 2)) true, .addrPacket (.addr (ipOf 2 2)), .addrPacket (.done (doneOf 2)),
    .tick 120 true]

/-- The first resync, with a monitor packet in the middle of it. -/
theorem resync_mirrors_first : ∃ w' devices,
    Resync (run World.step .init firstRequest) [linkUp 2 2] [ipOf 2 2] w' ∧
      w'.synchronized = [devices] ∧ Mirrors [linkUp 2 2] [ipOf 2 2] devices := by
  have hresync : Resync (run World.step .init firstRequest) [linkUp 2 2] [ipOf 2 2] _ :=
    .intro (n := 2) (m := 2) (d := doneOf 2) (e := doneOf 2) rfl
      (.packet ⟨rfl, rfl, true, rfl⟩ (.quiet (e := .monitorPacket (.done (doneOf 7))) trivial (.nil _)))
      rfl rfl (.packet ⟨rfl, rfl, rfl⟩ (.nil _)) rfl rfl
  obtain ⟨devices, hsync, hiff⟩ := resync_mirrors_iff firstRequest hresync
  refine ⟨_, devices, hresync, hsync, hiff.2 ?_⟩
  have hreplaced : ∀ F : Family, F.Replaced ∅ [ipOf 2 2] := by
    intro F i hnone
    refine ⟨?_, by simp⟩
    intro address haddress hhas
    rw [List.mem_singleton] at haddress
    subst haddress
    simpa [Family.dumped, hhas] using hnone
  exact ⟨fun i hi => absurd hi ExtTreeMap.not_mem_empty, hreplaced ipv4, hreplaced ipv6⟩

/-- **What went away stays.** In the second resync link 3 is gone, and so is the address
of link 2; the map that is handed over has both. -/
theorem resync_keeps_stale : ∃ w' devices,
    Resync (run World.step .init secondRequest) [linkUp 3 2] [] w' ∧
      w'.synchronized = (run World.step .init secondRequest).synchronized ++ [devices] ∧
      3 ∈ devices ∧ devices[(2 : UInt32)]?.bind DeviceData.ipv4Address = some ⟨[10, 0, 0, 1], rfl⟩ ∧
      ¬ Mirrors [linkUp 3 2] [] devices := by
  have hresync : Resync (run World.step .init secondRequest) [linkUp 3 2] [] _ :=
    .intro (n := 3) (m := 3) (d := doneOf 3) (e := doneOf 3) (by decide +kernel)
      (.packet ⟨rfl, rfl, true, rfl⟩ (.nil _)) rfl (by decide +kernel) (.nil _) rfl (by decide +kernel)
  have hthree : 3 ∈ afterDumps (run World.step .init secondRequest).repository.devices [linkUp 3 2] [] := by
    decide +kernel
  refine ⟨_, _, hresync, resync_synchronized hresync, hthree, by decide +kernel, ?_⟩
  intro hmirrors
  rcases hmirrors.keys 3 hthree with ⟨link, hlink, hindex⟩ | ⟨address, haddress, -⟩
  · rw [List.mem_singleton.1 hlink] at hindex
    exact absurd hindex (by decide)
  · cases haddress

end Ndisc
