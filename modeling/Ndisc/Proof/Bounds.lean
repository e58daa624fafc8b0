import Ndisc.Spec.Monitor
import Ndisc.Proof.Packet

/-!
# Accesses of the frame parser

* `managementString_ok`: the management-address reader checks the length of every
  slice it takes.
* `lldpduToNeighbourEntry_eq`, `lldpduToNeighbourEntry_error`: the reader of a data
  unit fails exactly on a TTL value of fewer than two bytes.
* `lldpFrameParser_in_bounds_iff`: **the frame parser reads out of bounds exactly on
  frames that start with complete chassis, port and TTL TLVs, the last one shorter
  than two bytes.**
-/

namespace Ndisc

open Wire

/-- The management-address reader slices at most `1 + length` bytes, after checking
that they are there. -/
theorem managementString_ok (v : Bytes) : ∃ r, managementTlvGetManagementString v = .ok r := by
  match v with
  | [] => exact ⟨none, rfl⟩
  | len :: rest =>
    simp only [managementTlvGetManagementString, List.isEmpty_cons, Bool.false_eq_true, if_false,
      byteAt_zero, ok_bind]
    by_cases hlen : len.toNat = 0 ∨ (len :: rest).length < 1 + len.toNat
    · exact ⟨none, if_pos hlen⟩
    have hsize : 1 + len.toNat ≤ (len :: rest).length ∧ 0 < len.toNat := by omega
    rw [if_neg hlen, byteAt_ok (show 1 < (len :: rest).length by omega)]
    simp only [ok_bind]
    -- each address kind: the length byte is one more than the size of the slice
    have hslice : ∀ n, len.toNat = 1 + n → ∃ o : Octets n, fixedSpan (len :: rest) 2 n = .ok o :=
      fun n hn => (fixedSpan_ok (by omega)).imp fun _ h => h.1
    split
    · split
      · exact ⟨none, rfl⟩
      · obtain ⟨o, ho⟩ := hslice 4 (by omega)
        exact ⟨some (.ipv4 o), by rw [ho]; rfl⟩
    split
    · split
      · exact ⟨none, rfl⟩
      · obtain ⟨o, ho⟩ := hslice 16 (by omega)
        exact ⟨some (.ipv6 o), by rw [ho]; rfl⟩
    split
    · split
      · exact ⟨none, rfl⟩
      · obtain ⟨o, ho⟩ := hslice 6 (by omega)
        exact ⟨some (.mac o), by rw [ho]; rfl⟩
    · exact ⟨none, rfl⟩

theorem collect_ok (a : Addresses) (tlv : LLDPDUTypeLengthValue) : ∃ a', a.collect tlv = .ok a' := by
  unfold Addresses.collect
  split
  · obtain ⟨r, hr⟩ := managementString_ok tlv.value
    rw [hr, ok_bind]
    split <;> exact ⟨_, rfl⟩
  · exact ⟨a, rfl⟩

/-- The loop over the optional TLVs never fails. -/
theorem collectAll_ok (tlvs : List LLDPDUTypeLengthValue) (a : Addresses) :
    ∃ a', tlvs.foldlM Addresses.collect a = .ok a' := by
  induction tlvs generalizing a with
  | nil => exact ⟨a, rfl⟩
  | cons tlv tlvs ih =>
    obtain ⟨a', ha'⟩ := collect_ok a tlv
    rw [List.foldlM_cons, ha', ok_bind]
    exact ih a'

/-- The entry of a data unit, once its TTL value has two bytes. -/
theorem lldpduToNeighbourEntry_eq {u : LLDPDataUnit} (h : 2 ≤ u.timeToLive.value.length)
    (ifIndex : UInt16) {a : Addresses}
    (ha : u.optionalTlv.foldlM Addresses.collect ⟨none, none⟩ = .ok a) :
    lldpduToNeighbourEntry u ifIndex = .ok {
      chassisId := u.chassisId.value
      portId := u.portId.value
      interfaceIndex := ifIndex
      timeToLive := UInt16.ofNat (beValue u.timeToLive.value[0] u.timeToLive.value[1])
      ipv4Address := a.ipv4Address
      ipv6Address := a.ipv6Address } := by
  rw [lldpduToNeighbourEntry, byteAt_ok (by omega), ok_bind, byteAt_ok (by omega), ok_bind, ha, ok_bind]

theorem lldpduToNeighbourEntry_ok {u : LLDPDataUnit} (h : 2 ≤ u.timeToLive.value.length)
    (ifIndex : UInt16) : ∃ entry, lldpduToNeighbourEntry u ifIndex = .ok entry :=
  have ⟨_, ha⟩ := collectAll_ok u.optionalTlv ⟨none, none⟩
  ⟨_, lldpduToNeighbourEntry_eq h ifIndex ha⟩

/-- A shorter TTL value is read past its end. -/
theorem lldpduToNeighbourEntry_error {u : LLDPDataUnit} (h : u.timeToLive.value.length < 2)
    (ifIndex : UInt16) : lldpduToNeighbourEntry u ifIndex = .error .outOfRange := by
  rw [lldpduToNeighbourEntry]
  rcases Nat.lt_or_ge 0 u.timeToLive.value.length with h0 | h0
  · rw [byteAt_ok h0, ok_bind, byteAt_error (by omega), error_bind]
  · rw [byteAt_error (by omega), error_bind]

/-- A frame that starts with complete chassis, port and TTL TLVs, the TTL value of
fewer than two bytes. -/
def ShortTimeToLive (frame : Bytes) : Prop :=
  ∃ chassis port ttl rest : Bytes, chassis.length < 512 ∧ port.length < 512 ∧ ttl.length < 2 ∧
    frame = LLDPDUTypeLengthValue.encode ⟨TLV.chassisId, chassis⟩ ++
      (LLDPDUTypeLengthValue.encode ⟨TLV.portId, port⟩ ++
        (LLDPDUTypeLengthValue.encode ⟨TLV.timeToLive, ttl⟩ ++ rest))

/-- The parser's own view of such a frame. -/
theorem shortTimeToLive_iff (frame : Bytes) :
    ShortTimeToLive frame ↔
      ∃ u, LLDPDataUnit.fromSpan frame = .ok (some u) ∧ u.timeToLive.value.length < 2 := by
  constructor
  · rintro ⟨chassis, port, ttl, rest, hc, hp, ht, rfl⟩
    -- whatever follows the TTL is read as optional TLVs, up to where that stops
    obtain ⟨others, rest', -, hstop, hrest, hall⟩ :=
      otherTlvs_cases (rest.length + 1) rest (Nat.lt_succ_self _)
    have hu : LLDPDataUnit.Fits ⟨⟨TLV.chassisId, chassis⟩, ⟨TLV.portId, port⟩,
        ⟨TLV.timeToLive, ttl⟩, others⟩ := by
      have hb : ∀ {n : ℕ} {t : UInt8}, t.toNat < 128 → n < 512 → ∀ v : Bytes, v.length = n →
          LLDPDUTypeLengthValue.Fits ⟨t, v⟩ := fun ht hn v hv => ⟨ht, hv ▸ hn⟩
      exact ⟨hb (by decide) hc _ rfl, rfl, hb (by decide) hp _ rfl, rfl,
        hb (by decide) (show ttl.length < 512 by omega) _ rfl, rfl, hall⟩
    refine ⟨⟨⟨TLV.chassisId, chassis⟩, ⟨TLV.portId, port⟩, ⟨TLV.timeToLive, ttl⟩, others⟩, ?_, ht⟩
    rw [hrest]
    simpa only [LLDPDataUnit.body, List.append_assoc] using dataUnit_fromSpan_of_body hu hstop
  · rintro ⟨u, hu, ht⟩
    obtain ⟨hf, rest, -, rfl⟩ := dataUnit_fromSpan_iff.1 hu
    refine ⟨u.chassisId.value, u.portId.value, u.timeToLive.value,
      u.optionalTlv.flatMap LLDPDUTypeLengthValue.encode ++ rest, hf.chassisId.value,
      hf.portId.value, ht, ?_⟩
    rw [← hf.chassisId_type, ← hf.portId_type, ← hf.timeToLive_type]
    simp only [LLDPDataUnit.body, List.append_assoc]

/-- **Where the frame parser reads out of bounds.** It makes no access outside the
frame, or outside the value of the TLV it looks at, unless the address passes the
four checks and the frame starts with chassis, port and TTL TLVs whose TTL value has
fewer than two bytes; there it does. -/
theorem lldpFrameParser_in_bounds_iff (neighbourList : NeighbourList) (address : SockaddrLl)
    (frame : Bytes) :
    (∃ neighbourList', lldpFrameParser neighbourList address frame = .ok neighbourList') ↔
      ¬ (address.accepted = true ∧ ShortTimeToLive frame) := by
  rw [shortTimeToLive_iff, lldpFrameParser]
  cases hacc : address.accepted with
  | false => simp
  | true =>
    simp only [Bool.not_true, Bool.false_eq_true, if_false, true_and, not_exists, not_and, not_lt]
    rcases dataUnit_fromSpan_cases frame with hnone | ⟨u, rest, hsome, -, -, -⟩
    · simp [hnone]
    · simp only [hsome, ok_bind, Except.ok.injEq, Option.some.injEq, forall_eq']
      constructor
      · rintro ⟨nl', h⟩
        by_contra hlt
        rw [lldpduToNeighbourEntry_error (by omega), error_bind] at h
        cases h
      · intro hlen
        obtain ⟨entry, hentry⟩ := lldpduToNeighbourEntry_ok hlen (narrowIfindex address.sllIfindex)
        exact ⟨_, by rw [hentry, ok_bind]⟩

/-- A TTL TLV with an empty value: `time_to_live.value[0]` does not exist. -/
theorem lldpFrameParser_out_of_bounds :
    ¬ ∀ (neighbourList : NeighbourList) (address : SockaddrLl) (frame : Bytes),
      ∃ neighbourList', lldpFrameParser neighbourList address frame = .ok neighbourList' := by
  intro h
  obtain ⟨nl', h⟩ := h .empty ⟨17, (0x88, 0xCC), 2, 1, 6⟩
    [0x02, 0x02, 0x07, 0x61, 0x04, 0x02, 0x03, 0x62, 0x06, 0x00, 0x00, 0x00]
  have hu : LLDPDataUnit.fromSpan
      [0x02, 0x02, 0x07, 0x61, 0x04, 0x02, 0x03, 0x62, 0x06, 0x00, 0x00, 0x00] =
        .ok (some ⟨⟨1, [0x07, 0x61]⟩, ⟨2, [0x03, 0x62]⟩, ⟨3, []⟩, []⟩) := by decide
  have he : ∀ i, lldpduToNeighbourEntry ⟨⟨1, [0x07, 0x61]⟩, ⟨2, [0x03, 0x62]⟩, ⟨3, []⟩, []⟩ i =
      .error .outOfRange := fun i => rfl
  simp [lldpFrameParser, hu, he, SockaddrLl.accepted, beValue, afPacket, ethPLldp, arphrdEther,
    ethAlen] at h

end Ndisc
