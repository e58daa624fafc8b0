import Ndisc.Proof.Resync

/-!
# Link packets and address packets pass each other

The two handlers make the same entries and write the same index into them; apart from that
a link packet writes the name, the MAC and the flag of a device, and an address packet its
addresses.

* `handleLinkAttribute_addressAttribute`: the attributes write different fields.
* `changes_commute`: two packets for one device pass each other.
* `packets_commute`: **any interleaving of two dumps leaves the same devices**.
-/

namespace Ndisc

open Wire Netlink Upsert Run

/-! ## The attributes -/

theorem handleLinkAttribute_addressAttribute (family : UInt8) (d : DeviceData) (tlv tlv' : TLVView) :
    handleAddressAttribute family (handleLinkAttribute d tlv) tlv' =
      handleLinkAttribute (handleAddressAttribute family d tlv') tlv := by
  unfold handleAddressAttribute handleLinkAttribute
  split_ifs <;> rfl

/-- What a link packet writes before its attributes. -/
def linkHead (link : LinkView) (d : DeviceData) : DeviceData :=
  { d with
    ifIndex := link.content.interfaceInfo.ifiIndex.toUInt32
    deviceOperational := link.content.interfaceInfo.ifiFlags &&& iffUp != 0 &&
      link.content.interfaceInfo.ifiFlags &&& iffLowerUp != 0 }

/-- What an address packet writes before its attributes. -/
def addressHead (address : AddrView) (d : DeviceData) : DeviceData :=
  { d with ifIndex := address.content.addressInfo.ifaIndex }

theorem linkHead_addressAttribute (link : LinkView) (family : UInt8) (d : DeviceData) (tlv : TLVView) :
    handleAddressAttribute family (linkHead link d) tlv =
      linkHead link (handleAddressAttribute family d tlv) := by
  unfold handleAddressAttribute
  split_ifs <;> rfl

theorem addressHead_linkAttribute (address : AddrView) (d : DeviceData) (tlv : TLVView) :
    addressHead address (handleLinkAttribute d tlv) =
      handleLinkAttribute (addressHead address d) tlv := by
  unfold handleLinkAttribute
  split_ifs <;> rfl

/-- Both write the index, and it is the same one. -/
theorem heads_commute {link : LinkView} {address : AddrView}
    (h : link.content.interfaceInfo.ifiIndex.toUInt32 = address.content.addressInfo.ifaIndex)
    (d : DeviceData) : addressHead address (linkHead link d) = linkHead link (addressHead address d) := by
  unfold addressHead linkHead
  rw [h]

/-! ## The packets -/

/-- **Two packets for one device pass each other.** -/
theorem changes_commute {link : LinkView} {address : AddrView}
    (h : link.content.interfaceInfo.ifiIndex.toUInt32 = address.content.addressInfo.ifaIndex)
    (d : DeviceData) :
    addressChange address (linkChange link d) = linkChange link (addressChange address d) := by
  have hlink : ∀ d, linkChange link d =
      run handleLinkAttribute (linkHead link d) link.content.attributes := fun _ => rfl
  have haddress : ∀ d, addressChange address d =
      run (handleAddressAttribute address.content.addressInfo.ifaFamily) (addressHead address d)
        address.content.attributes := fun _ => rfl
  have hhead : ∀ (tlvs : List TLVView) (d : DeviceData),
      addressHead address (run handleLinkAttribute d tlvs) =
        run handleLinkAttribute (addressHead address d) tlvs := by
    intro tlvs
    induction tlvs with
    | nil => exact fun _ => rfl
    | cons tlv tlvs ih =>
      intro d
      rw [run_cons, run_cons, ih, addressHead_linkAttribute]
  have hhead' : ∀ (tlvs : List TLVView) (d : DeviceData),
      run (handleAddressAttribute address.content.addressInfo.ifaFamily) (linkHead link d) tlvs =
        linkHead link (run (handleAddressAttribute address.content.addressInfo.ifaFamily) d tlvs) := by
    intro tlvs
    induction tlvs with
    | nil => exact fun _ => rfl
    | cons tlv tlvs ih =>
      intro d
      rw [run_cons, run_cons, linkHead_addressAttribute, ih]
  have hpass : ∀ (tlvs tlvs' : List TLVView) (d : DeviceData),
      run (handleAddressAttribute address.content.addressInfo.ifaFamily)
          (run handleLinkAttribute d tlvs) tlvs' =
        run handleLinkAttribute
          (run (handleAddressAttribute address.content.addressInfo.ifaFamily) d tlvs') tlvs := by
    intro tlvs tlvs'
    induction tlvs' with
    | nil => exact fun _ => rfl
    | cons tlv' tlvs' ih =>
      intro d
      rw [run_cons, run_cons, ← ih,
        run_pass fun d tlv tlv' => handleLinkAttribute_addressAttribute _ d tlv tlv']
  calc addressChange address (linkChange link d)
      = run (handleAddressAttribute _) (run handleLinkAttribute
          (addressHead address (linkHead link d)) link.content.attributes)
          address.content.attributes := by rw [haddress, hlink, hhead]
    _ = run handleLinkAttribute (run (handleAddressAttribute _)
          (linkHead link (addressHead address d)) address.content.attributes)
          link.content.attributes := by rw [hpass, heads_commute h]
    _ = linkChange link (addressChange address d) := by rw [hhead', ← haddress, ← hlink]

/-- **A link packet and an address packet pass each other.** -/
theorem link_address_commute (devices : Devices) (link : LinkView) (address : AddrView) :
    (devices.handleLinkPacket link).handleAddressPacket address =
      (devices.handleAddressPacket address).handleLinkPacket link := by
  rw [handleLinkPacket_eq, handleAddressPacket_eq]
  apply update_comm
  intro k hlink haddress d
  unfold ethernetIndex at hlink
  unfold acceptedIndex at haddress
  split at hlink
  · split at haddress
    · exact changes_commute ((Option.some.inj hlink).trans (Option.some.inj haddress).symm) d
    · cases haddress
  · cases hlink

/-- Two link packets for different interfaces. -/
theorem link_link_commute (devices : Devices) {link link' : LinkView}
    (h : link.content.interfaceInfo.ifiIndex ≠ link'.content.interfaceInfo.ifiIndex) :
    (devices.handleLinkPacket link).handleLinkPacket link' =
      (devices.handleLinkPacket link').handleLinkPacket link := by
  rw [handleLinkPacket_eq]
  apply update_comm
  intro k hlink hlink'
  unfold ethernetIndex at hlink hlink'
  split at hlink
  · split at hlink'
    · -- an `int` and its `unsigned int` tell the same interfaces apart
      have heq := (Option.some.inj hlink).trans (Option.some.inj hlink').symm
      exact absurd (congrArg UInt32.toInt32 heq) h
    · cases hlink'
  · cases hlink

/-- Two address packets for different interfaces. -/
theorem address_address_commute (devices : Devices) {address address' : AddrView}
    (h : address.content.addressInfo.ifaIndex ≠ address'.content.addressInfo.ifaIndex) :
    (devices.handleAddressPacket address).handleAddressPacket address' =
      (devices.handleAddressPacket address').handleAddressPacket address := by
  rw [handleAddressPacket_eq]
  apply update_comm
  intro k haddress haddress'
  unfold acceptedIndex at haddress haddress'
  split at haddress
  · split at haddress'
    · exact absurd ((Option.some.inj haddress).trans (Option.some.inj haddress').symm) h
    · cases haddress'
  · cases haddress

/-- **The packets of two dumps pass each other.** For every map of devices and any packets:
a link packet and an address packet commute, and so do two of one kind for different
interfaces; and any two interleavings with the same link packets and the same address
packets, each in the same order, leave the same map. -/
theorem packets_commute (devices : Devices) :
    (∀ link address, (devices.handleLinkPacket link).handleAddressPacket address =
      (devices.handleAddressPacket address).handleLinkPacket link) ∧
    (∀ link link' : LinkView,
      link.content.interfaceInfo.ifiIndex ≠ link'.content.interfaceInfo.ifiIndex →
      (devices.handleLinkPacket link).handleLinkPacket link' =
        (devices.handleLinkPacket link').handleLinkPacket link) ∧
    (∀ address address' : AddrView,
      address.content.addressInfo.ifaIndex ≠ address'.content.addressInfo.ifaIndex →
      (devices.handleAddressPacket address).handleAddressPacket address' =
        (devices.handleAddressPacket address').handleAddressPacket address) ∧
    ∀ packets packets' : List (LinkView ⊕ AddrView),
      packets.filterMap Sum.getLeft? = packets'.filterMap Sum.getLeft? →
      packets.filterMap Sum.getRight? = packets'.filterMap Sum.getRight? →
      run (interleave Devices.handleLinkPacket Devices.handleAddressPacket) devices packets =
        run (interleave Devices.handleLinkPacket Devices.handleAddressPacket) devices packets' := by
  refine ⟨link_address_commute devices, fun _ _ => link_link_commute devices,
    fun _ _ => address_address_commute devices, ?_⟩
  intro packets packets' hlinks haddresses
  rw [run_interleave link_address_commute, run_interleave link_address_commute, hlinks, haddresses]

end Ndisc
