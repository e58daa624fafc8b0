import Ndisc.Spec.Packet

/-!
# The TLV parser against the wire format

`encode` is the wire format: 7 bits of type and 9 bits of length, then the value.

* `tlv_fromSpan_cases`: on any bytes the TLV parser either finds no complete TLV,
  or splits off exactly one encoded TLV. It never reads outside its span.
* `otherTlvs_eq`, `otherTlvs_cases`: the loop over the optional TLVs, both ways.
* `dataUnit_fromSpan_iff`: which bytes are accepted as which data unit.
* `dataUnit_toFrameBuffer_raw`, `dataUnit_toFrameBuffer_eq`: what the writer writes, and that it is
  the wire format where everything fits.
-/

namespace Ndisc

open Wire

/-! ## The wire format -/

/-- A TLV that fits its header: a 7-bit type and a 9-bit length. -/
structure LLDPDUTypeLengthValue.Fits (tlv : LLDPDUTypeLengthValue) : Prop where
  type : tlv.type.toNat < 128
  value : tlv.value.length < 512

def LLDPDUTypeLengthValue.encode (tlv : LLDPDUTypeLengthValue) : Bytes :=
  be16 (tlv.type.toNat * 512 + tlv.value.length) ++ tlv.value

theorem tlv_encode_length (tlv : LLDPDUTypeLengthValue) :
    tlv.encode.length = tlv.getFrameBufferSize := by
  simp [LLDPDUTypeLengthValue.encode, LLDPDUTypeLengthValue.getFrameBufferSize]

/-- The three mandatory TLVs in front of the optional ones. -/
def LLDPDataUnit.body (u : LLDPDataUnit) : Bytes :=
  u.chassisId.encode ++ (u.portId.encode ++ (u.timeToLive.encode ++
    u.optionalTlv.flatMap LLDPDUTypeLengthValue.encode))

def LLDPDataUnit.encode (u : LLDPDataUnit) : Bytes := u.body ++ endOfDataUnitTlv

/-- A data unit the parser can return: the mandatory types in their places, no
optional TLV that ends the unit, and every TLV fits its header. -/
structure LLDPDataUnit.Fits (u : LLDPDataUnit) : Prop where
  chassisId : u.chassisId.Fits
  chassisId_type : u.chassisId.type = TLV.chassisId
  portId : u.portId.Fits
  portId_type : u.portId.type = TLV.portId
  timeToLive : u.timeToLive.Fits
  timeToLive_type : u.timeToLive.type = TLV.timeToLive
  optionalTlv : ∀ tlv ∈ u.optionalTlv, tlv.Fits ∧ tlv.type ≠ TLV.endOfLldpdu

/-! ## One TLV -/

theorem header_eq {tlv : LLDPDUTypeLengthValue} (h : tlv.Fits) :
    tlv.header = tlv.type.toNat * 512 + tlv.value.length := by
  have ht := h.type
  have hv := h.value
  have hor := Nat.shiftLeft_add_eq_or_of_lt (i := typeBitOffset) (by simpa [typeBitOffset] using hv)
    tlv.type.toNat
  rw [LLDPDUTypeLengthValue.header, Nat.mod_eq_of_lt (show tlv.value.length < 65536 by omega), ← hor,
    Nat.shiftLeft_eq, typeBitOffset]
  omega

theorem header_length (n : ℕ) : n &&& typeMask = n % 512 := Nat.and_two_pow_sub_one_eq_mod n 9

theorem header_type (n : ℕ) : n >>> typeBitOffset = n / 512 := Nat.shiftRight_eq_div_pow n 9

/-- The parser on two header bytes, with the bit operations done. -/
theorem tlv_fromSpan_cons (hi lo : UInt8) (bs : Bytes) :
    LLDPDUTypeLengthValue.fromSpan (hi :: lo :: bs) =
      if beValue hi lo % 512 ≤ bs.length then
        .ok (some (⟨UInt8.ofNat (beValue hi lo / 512), bs.take (beValue hi lo % 512)⟩,
          bs.drop (beValue hi lo % 512)))
      else .ok none := by
  have hlen : ¬ (hi :: lo :: bs).length < 2 := by simp
  rw [LLDPDUTypeLengthValue.fromSpan, if_neg hlen]
  simp only [byteAt_zero, byteAt_succ, ok_bind, header_length, header_type]
  by_cases h : beValue hi lo % 512 ≤ bs.length
  · have h1 : 2 + beValue hi lo % 512 ≤ (hi :: lo :: bs).length := by simp; omega
    have h2 : beValue hi lo % 512 + 2 ≤ (hi :: lo :: bs).length := by simp; omega
    rw [if_pos h, if_neg (by omega), subspan_ok h1, subspanFrom_ok h2]
    simp only [ok_bind, List.drop_succ_cons, List.drop_zero]
  · rw [if_neg h, if_pos (by simp; omega)]

/-- **The parser gives an encoded TLV back**, whatever follows it. -/
theorem tlv_fromSpan_encode {tlv : LLDPDUTypeLengthValue} (h : tlv.Fits) (rest : Bytes) :
    LLDPDUTypeLengthValue.fromSpan (tlv.encode ++ rest) = .ok (some (tlv, rest)) := by
  have ht := h.type
  have hv := h.value
  have hhead := beValue_be16 (n := tlv.type.toNat * 512 + tlv.value.length) (by omega)
  have hl : (tlv.type.toNat * 512 + tlv.value.length) % 512 = tlv.value.length := by omega
  have hq : (tlv.type.toNat * 512 + tlv.value.length) / 512 = tlv.type.toNat := by omega
  rw [LLDPDUTypeLengthValue.encode, be16, List.append_assoc, List.cons_append, List.cons_append,
    List.nil_append, tlv_fromSpan_cons, hhead, hl, hq, if_pos (by simp), List.take_left,
    List.drop_left, UInt8.ofNat_toNat]

/-- **No complete TLV, or exactly one split off.** The parser never fails. -/
theorem tlv_fromSpan_cases (bs : Bytes) :
    LLDPDUTypeLengthValue.fromSpan bs = .ok none ∨
      ∃ tlv rest, LLDPDUTypeLengthValue.fromSpan bs = .ok (some (tlv, rest)) ∧ tlv.Fits ∧
        bs = tlv.encode ++ rest := by
  match bs with
  | [] => left; rfl
  | [_] => left; rfl
  | hi :: lo :: bs =>
    rw [tlv_fromSpan_cons]
    by_cases h : beValue hi lo % 512 ≤ bs.length
    · right
      have hb := beValue_lt hi lo
      refine ⟨_, _, if_pos h, ⟨?_, ?_⟩, ?_⟩
      · simp only [UInt8.toNat_ofNat']; omega
      · simp only [List.length_take]; omega
      -- the header is the type and the length of what was split off
      · have htype : (UInt8.ofNat (beValue hi lo / 512)).toNat = beValue hi lo / 512 := by
          simp only [UInt8.toNat_ofNat']; omega
        have hlen : (bs.take (beValue hi lo % 512)).length = beValue hi lo % 512 := by
          rw [List.length_take]; omega
        have hn : beValue hi lo / 512 * 512 + beValue hi lo % 512 = beValue hi lo := by omega
        simp only [LLDPDUTypeLengthValue.encode, htype, hlen, hn, be16_beValue,
          List.cons_append, List.nil_append, List.take_append_drop]
    · left; exact if_neg h

/-! ## The loop -/

/-- Bytes at which the loop over the optional TLVs ends: no complete TLV, or one
of type `END_OF_LLDPDU`. -/
def Stops (bs : Bytes) : Prop :=
  LLDPDUTypeLengthValue.fromSpan bs = .ok none ∨
    ∃ tlv rest, LLDPDUTypeLengthValue.fromSpan bs = .ok (some (tlv, rest)) ∧
      tlv.type = TLV.endOfLldpdu

theorem stops_end (rest : Bytes) : Stops (endOfDataUnitTlv ++ rest) := by
  right
  refine ⟨⟨TLV.endOfLldpdu, []⟩, rest, ?_, rfl⟩
  have hend : LLDPDUTypeLengthValue.Fits ⟨TLV.endOfLldpdu, []⟩ := ⟨by decide, by decide⟩
  exact tlv_fromSpan_encode hend rest

theorem otherTlvs_stop {bs : Bytes} (h : Stops bs) (fuel : ℕ) :
    LLDPDataUnit.otherTlvs (fuel + 1) bs = .ok [] := by
  rcases h with h | ⟨tlv, rest, h, ht⟩
  · simp only [LLDPDataUnit.otherTlvs, h, ok_bind]
  · simp only [LLDPDataUnit.otherTlvs, h, ok_bind, ht, if_pos]

/-- **The loop reads the TLVs back** up to where it stops. -/
theorem otherTlvs_eq {rest : Bytes} (hrest : Stops rest) :
    ∀ (tlvs : List LLDPDUTypeLengthValue) (fuel : ℕ), tlvs.length < fuel →
      (∀ tlv ∈ tlvs, tlv.Fits ∧ tlv.type ≠ TLV.endOfLldpdu) →
      LLDPDataUnit.otherTlvs fuel (tlvs.flatMap LLDPDUTypeLengthValue.encode ++ rest) = .ok tlvs := by
  intro tlvs
  induction tlvs with
  | nil =>
    intro fuel hfuel _
    obtain ⟨fuel, rfl⟩ : ∃ k, fuel = k + 1 := ⟨fuel - 1, by omega⟩
    exact otherTlvs_stop hrest fuel
  | cons tlv tlvs ih =>
    intro fuel hfuel h
    obtain ⟨fuel, rfl⟩ : ∃ k, fuel = k + 1 := ⟨fuel - 1, by omega⟩
    obtain ⟨hf, ht⟩ := h tlv List.mem_cons_self
    have hih := ih fuel (by simpa using hfuel) (fun x hx => h x (List.mem_cons_of_mem _ hx))
    rw [List.flatMap_cons, List.append_assoc, LLDPDataUnit.otherTlvs, tlv_fromSpan_encode hf]
    simp only [ok_bind, if_neg ht, hih]

/-- **The loop always ends**, on a prefix of whole TLVs. -/
theorem otherTlvs_cases : ∀ (fuel : ℕ) (bs : Bytes), bs.length < fuel →
    ∃ tlvs rest, LLDPDataUnit.otherTlvs fuel bs = .ok tlvs ∧ Stops rest ∧
      bs = tlvs.flatMap LLDPDUTypeLengthValue.encode ++ rest ∧
      ∀ tlv ∈ tlvs, tlv.Fits ∧ tlv.type ≠ TLV.endOfLldpdu := by
  intro fuel
  induction fuel with
  | zero => intro bs h; omega
  | succ fuel ih =>
    intro bs hlen
    rcases tlv_fromSpan_cases bs with hnone | ⟨tlv, rest, hsome, hf, hb⟩
    · exact ⟨[], bs, otherTlvs_stop (Or.inl hnone) fuel, Or.inl hnone, rfl, by simp⟩
    · by_cases ht : tlv.type = TLV.endOfLldpdu
      · have hstop : Stops bs := Or.inr ⟨tlv, rest, hsome, ht⟩
        exact ⟨[], bs, otherTlvs_stop hstop fuel, hstop, rfl, by simp⟩
      -- the fuel is the length, and a TLV takes two bytes at least
      · have hshort : rest.length < fuel := by
          rw [hb, List.length_append, tlv_encode_length, LLDPDUTypeLengthValue.getFrameBufferSize]
            at hlen
          omega
        obtain ⟨tlvs, rest', hrun, hstop, hrest, hall⟩ := ih rest hshort
        refine ⟨tlv :: tlvs, rest', ?_, hstop, ?_, ?_⟩
        · simp only [LLDPDataUnit.otherTlvs, hsome, ok_bind, if_neg ht, hrun]
        · rw [hb, hrest, List.flatMap_cons, List.append_assoc]
        · intro x hx
          rcases List.mem_cons.1 hx with rfl | hx
          · exact ⟨hf, ht⟩
          · exact hall x hx

theorem tlvs_length_le (tlvs : List LLDPDUTypeLengthValue) :
    tlvs.length ≤ (tlvs.flatMap LLDPDUTypeLengthValue.encode).length := by
  induction tlvs with
  | nil => simp
  | cons tlv tlvs ih =>
    rw [List.flatMap_cons, List.length_append, tlv_encode_length,
      LLDPDUTypeLengthValue.getFrameBufferSize, List.length_cons]
    omega

/-! ## The data unit -/

/-- **Which bytes are accepted, as what.** -/
theorem dataUnit_fromSpan_of_body {u : LLDPDataUnit} (hu : u.Fits) {rest : Bytes} (h : Stops rest) :
    LLDPDataUnit.fromSpan (u.body ++ rest) = .ok (some u) := by
  have hloop := otherTlvs_eq h u.optionalTlv
    ((u.optionalTlv.flatMap LLDPDUTypeLengthValue.encode ++ rest).length + 1)
    (by have := tlvs_length_le u.optionalTlv; rw [List.length_append]; omega) hu.optionalTlv
  rw [LLDPDataUnit.fromSpan, LLDPDataUnit.body]
  simp only [List.append_assoc]
  rw [tlv_fromSpan_encode hu.chassisId]
  simp only [ok_bind, hu.chassisId_type, ne_eq, not_true_eq_false, if_false]
  rw [tlv_fromSpan_encode hu.portId]
  simp only [ok_bind, hu.portId_type, not_true_eq_false, if_false]
  rw [tlv_fromSpan_encode hu.timeToLive]
  simp only [ok_bind, hu.timeToLive_type, not_true_eq_false, if_false]
  rw [hloop]
  simp only [ok_bind]

/-- **The parser never fails**: it rejects, or it accepts a prefix that encodes the result. -/
theorem dataUnit_fromSpan_cases (bs : Bytes) :
    LLDPDataUnit.fromSpan bs = .ok none ∨
      ∃ u rest, LLDPDataUnit.fromSpan bs = .ok (some u) ∧ u.Fits ∧ Stops rest ∧ bs = u.body ++ rest := by
  unfold LLDPDataUnit.fromSpan
  rcases tlv_fromSpan_cases bs with h1 | ⟨chassis, bs1, h1, hf1, hb1⟩
  · left; simp only [h1, ok_bind]
  by_cases ht1 : chassis.type = TLV.chassisId
  swap
  · left; simp only [h1, ok_bind, ne_eq, ht1, not_false_eq_true, if_true]
  rcases tlv_fromSpan_cases bs1 with h2 | ⟨port, bs2, h2, hf2, hb2⟩
  · left; simp only [h1, ok_bind, ne_eq, ht1, not_true_eq_false, if_false, h2]
  by_cases ht2 : port.type = TLV.portId
  swap
  · left; simp only [h1, ok_bind, ne_eq, ht1, not_true_eq_false, if_false, h2, ht2,
      not_false_eq_true, if_true]
  rcases tlv_fromSpan_cases bs2 with h3 | ⟨ttl, bs3, h3, hf3, hb3⟩
  · left; simp only [h1, ok_bind, ne_eq, ht1, not_true_eq_false, if_false, h2, ht2, h3]
  by_cases ht3 : ttl.type = TLV.timeToLive
  swap
  · left; simp only [h1, ok_bind, ne_eq, ht1, not_true_eq_false, if_false, h2, ht2, h3, ht3,
      not_false_eq_true, if_true]
  right
  obtain ⟨others, rest, hrun, hstop, hrest, hall⟩ :=
    otherTlvs_cases (bs3.length + 1) bs3 (Nat.lt_succ_self _)
  refine ⟨⟨chassis, port, ttl, others⟩, rest, ?_, ⟨hf1, ht1, hf2, ht2, hf3, ht3, hall⟩, hstop, ?_⟩
  · simp only [h1, ok_bind, ne_eq, ht1, not_true_eq_false, if_false, h2, ht2, h3, ht3, hrun]
  · rw [hb1, hb2, hb3, hrest, LLDPDataUnit.body]
    simp only [List.append_assoc]

theorem dataUnit_fromSpan_iff {bs : Bytes} {u : LLDPDataUnit} :
    LLDPDataUnit.fromSpan bs = .ok (some u) ↔ u.Fits ∧ ∃ rest, Stops rest ∧ bs = u.body ++ rest := by
  constructor
  · intro h
    rcases dataUnit_fromSpan_cases bs with h' | ⟨u', rest, h', hf, hs, hb⟩
    · rw [h'] at h; simp at h
    · rw [h'] at h
      simp only [Except.ok.injEq, Option.some.injEq] at h
      subst h
      exact ⟨hf, rest, hs, hb⟩
  · rintro ⟨hf, rest, hs, rfl⟩
    exact dataUnit_fromSpan_of_body hf hs

/-! ## The writer -/

/-- What the writer makes of a TLV, whether or not it fits its header. -/
def LLDPDUTypeLengthValue.raw (tlv : LLDPDUTypeLengthValue) : Bytes := be16 tlv.header ++ tlv.value

theorem tlv_raw_eq {tlv : LLDPDUTypeLengthValue} (h : tlv.Fits) : tlv.raw = tlv.encode := by
  rw [LLDPDUTypeLengthValue.raw, LLDPDUTypeLengthValue.encode, header_eq h]

theorem tlv_raw_length (tlv : LLDPDUTypeLengthValue) : tlv.raw.length = tlv.encode.length := by
  rw [tlv_encode_length, LLDPDUTypeLengthValue.raw, List.length_append, be16_length]
  rfl

theorem tlv_toFrameBuffer_raw (tlv : LLDPDUTypeLengthValue) (c : Cursor) :
    tlv.toFrameBuffer c = c.copyTo tlv.raw := Cursor.copyTo_copyTo c _ _

def LLDPDataUnit.raw (u : LLDPDataUnit) : Bytes :=
  u.chassisId.raw ++ (u.portId.raw ++ (u.timeToLive.raw ++
    (u.optionalTlv.flatMap LLDPDUTypeLengthValue.raw ++ endOfDataUnitTlv)))

theorem dataUnit_toFrameBuffer_raw (u : LLDPDataUnit) (c : Cursor) :
    u.toFrameBuffer c = c.copyTo u.raw := by
  simp only [LLDPDataUnit.toFrameBuffer, tlv_toFrameBuffer_raw, Cursor.foldl_copyTo,
    Cursor.copyTo_copyTo, LLDPDataUnit.raw, List.append_assoc]

theorem dataUnit_raw_eq {u : LLDPDataUnit} (hu : u.Fits) : u.raw = u.encode := by
  have hopt : u.optionalTlv.flatMap LLDPDUTypeLengthValue.raw =
      u.optionalTlv.flatMap LLDPDUTypeLengthValue.encode :=
    List.flatMap_congr fun tlv htlv => tlv_raw_eq (hu.optionalTlv tlv htlv).1
  rw [LLDPDataUnit.raw, LLDPDataUnit.encode, LLDPDataUnit.body, tlv_raw_eq hu.chassisId,
    tlv_raw_eq hu.portId, tlv_raw_eq hu.timeToLive, hopt]
  simp only [List.append_assoc]

/-- **The writer writes the wire format**, of a data unit that fits it. -/
theorem dataUnit_toFrameBuffer_eq {u : LLDPDataUnit} (hu : u.Fits) (c : Cursor) :
    u.toFrameBuffer c = c.copyTo u.encode := by
  rw [dataUnit_toFrameBuffer_raw, dataUnit_raw_eq hu]

theorem foldl_getFrameBufferSize (tlvs : List LLDPDUTypeLengthValue) (n : ℕ) :
    tlvs.foldl (fun size tlv => size + tlv.getFrameBufferSize) n =
      n + (tlvs.flatMap LLDPDUTypeLengthValue.encode).length := by
  induction tlvs generalizing n with
  | nil => simp
  | cons tlv tlvs ih =>
    rw [List.foldl_cons, ih, List.flatMap_cons, List.length_append, tlv_encode_length, Nat.add_assoc]

/-- The wire format is as long as `GetFrameBufferSize` says. -/
theorem dataUnit_encode_length (u : LLDPDataUnit) : u.encode.length = u.getFrameBufferSize := by
  rw [LLDPDataUnit.getFrameBufferSize, foldl_getFrameBufferSize, LLDPDataUnit.encode,
    LLDPDataUnit.body]
  simp only [List.length_append, tlv_encode_length]
  omega

theorem dataUnit_raw_length (u : LLDPDataUnit) : u.raw.length = u.getFrameBufferSize := by
  have hopt : (u.optionalTlv.flatMap LLDPDUTypeLengthValue.raw).length =
      (u.optionalTlv.flatMap LLDPDUTypeLengthValue.encode).length := by
    rw [List.length_flatMap, List.length_flatMap]
    simp only [tlv_raw_length]
  rw [← dataUnit_encode_length, LLDPDataUnit.raw, LLDPDataUnit.encode, LLDPDataUnit.body]
  simp only [List.length_append, tlv_raw_length, hopt]
  omega

/-! ## There and back -/

/-- The bytes that the writer puts into a buffer made for them. -/
def LLDPDataUnit.written (u : LLDPDataUnit) : Bytes :=
  (u.toFrameBuffer (Cursor.start (List.replicate u.getFrameBufferSize 0))).buf

theorem dataUnit_written_eq {u : LLDPDataUnit} (hu : u.Fits) : u.written = u.encode := by
  rw [LLDPDataUnit.written, dataUnit_toFrameBuffer_eq hu, Cursor.copyTo_full]
  rw [List.length_replicate, dataUnit_encode_length]

theorem dataUnit_fromSpan_written {u : LLDPDataUnit} (hu : u.Fits) (rest : Bytes) :
    LLDPDataUnit.fromSpan (u.written ++ rest) = .ok (some u) := by
  rw [dataUnit_written_eq hu, LLDPDataUnit.encode, List.append_assoc]
  exact dataUnit_fromSpan_of_body hu (stops_end rest)

/-- **A data unit survives the wire.** Written at any place of any buffer with room for it,
a data unit with the mandatory types in place, optional types from 1 to 127 and values of
at most 511 bytes takes exactly `GetFrameBufferSize()` bytes, the buffer keeps its size and
its other bytes, and those bytes with anything after them parse to the same data unit. -/
theorem dataUnit_roundtrip (u : LLDPDataUnit) (hchassis : u.chassisId.type = TLV.chassisId)
    (hport : u.portId.type = TLV.portId) (httl : u.timeToLive.type = TLV.timeToLive)
    (hopt : ∀ tlv ∈ u.optionalTlv, 1 ≤ tlv.type.toNat ∧ tlv.type.toNat ≤ 127)
    (hlen : ∀ tlv ∈ u.chassisId :: u.portId :: u.timeToLive :: u.optionalTlv, tlv.value.length ≤ 511)
    (iter : Cursor) (hroom : iter.pos + u.getFrameBufferSize ≤ iter.buf.length) :
    ∃ bytes : Bytes, bytes.length = u.getFrameBufferSize ∧
      (u.toFrameBuffer iter).pos = iter.pos + u.getFrameBufferSize ∧
      (u.toFrameBuffer iter).buf.length = iter.buf.length ∧
      (u.toFrameBuffer iter).buf =
        iter.buf.take iter.pos ++ bytes ++ iter.buf.drop (iter.pos + u.getFrameBufferSize) ∧
      ∀ rest : Bytes, LLDPDataUnit.fromSpan (bytes ++ rest) = .ok (some u) := by
  have hfits : ∀ {t : UInt8}, t.toNat < 128 →
      ∀ tlv ∈ u.chassisId :: u.portId :: u.timeToLive :: u.optionalTlv, tlv.type = t → tlv.Fits := by
    intro t ht tlv htlv htype
    exact ⟨htype ▸ ht, Nat.lt_succ_of_le (hlen tlv htlv)⟩
  have hu : u.Fits := by
    refine ⟨hfits (by decide) _ (by simp) hchassis, hchassis, hfits (by decide) _ (by simp) hport,
      hport, hfits (by decide) _ (by simp) httl, httl, ?_⟩
    intro tlv htlv
    obtain ⟨hpos, hle⟩ := hopt tlv htlv
    refine ⟨hfits (Nat.lt_succ_of_le hle) tlv (by simp [htlv]) rfl, ?_⟩
    -- a type from 1 on is not the one that ends the loop
    rintro hend
    rw [hend] at hpos
    exact absurd hpos (by decide)
  have hsize := dataUnit_encode_length u
  refine ⟨u.encode, hsize, ?_, ?_, ?_, ?_⟩
  · rw [dataUnit_toFrameBuffer_eq hu, Cursor.copyTo_pos, hsize]
  · rw [dataUnit_toFrameBuffer_eq hu]
    exact Cursor.copyTo_length iter (hsize.symm ▸ hroom)
  · rw [dataUnit_toFrameBuffer_eq hu, ← hsize]
    rfl
  · intro rest
    rw [← dataUnit_written_eq hu]
    exact dataUnit_fromSpan_written hu rest

/-- The longest values and types there can be. -/
theorem dataUnit_roundtrip_longest :
    ∃ bytes : Bytes, bytes.length = 2054 ∧ ∀ rest : Bytes, LLDPDataUnit.fromSpan (bytes ++ rest) =
      .ok (some ⟨⟨1, List.replicate 511 7⟩, ⟨2, List.replicate 511 3⟩, ⟨3, List.replicate 511 0⟩,
        [⟨127, List.replicate 511 255⟩]⟩) := by
  obtain ⟨bytes, hlen, -, -, -, hread⟩ := dataUnit_roundtrip
    ⟨⟨1, List.replicate 511 7⟩, ⟨2, List.replicate 511 3⟩, ⟨3, List.replicate 511 0⟩,
      [⟨127, List.replicate 511 255⟩]⟩ rfl rfl rfl (by decide +kernel) (by decide +kernel)
    (Cursor.start (List.replicate 2054 0)) (by decide +kernel)
  exact ⟨bytes, hlen.trans (by decide +kernel), hread⟩

/-! ## Back and there -/

/-- Where the loop ends, byte by byte: no header, a header of type 0, or a length that
runs past the end. -/
theorem stops_iff (bs : Bytes) :
    Stops bs ↔ bs.length < 2 ∨ ∃ hi lo rest, bs = hi :: lo :: rest ∧
      (beValue hi lo / 512 = 0 ∨ rest.length < beValue hi lo % 512) := by
  match bs with
  | [] => exact iff_of_true (Or.inl rfl) (Or.inl (by decide))
  | [b] => exact iff_of_true (Or.inl rfl) (Or.inl (by simp))
  | hi :: lo :: rest =>
    have hb := beValue_lt hi lo
    -- the type is the upper seven bits, so it survives the cast to a byte
    have htype : UInt8.ofNat (beValue hi lo / 512) = TLV.endOfLldpdu ↔ beValue hi lo / 512 = 0 := by
      rw [← UInt8.toNat_inj, UInt8.toNat_ofNat', TLV.endOfLldpdu, UInt8.toNat_zero]
      omega
    rw [Stops, tlv_fromSpan_cons]
    by_cases hlen : beValue hi lo % 512 ≤ rest.length
    · simp only [if_pos hlen, Except.ok.injEq, reduceCtorEq, false_or, Option.some.injEq,
        Prod.mk.injEq]
      constructor
      · rintro ⟨tlv, rest', ⟨rfl, rfl⟩, hend⟩
        exact Or.inr ⟨hi, lo, rest, rfl, Or.inl (htype.1 hend)⟩
      · rintro (hshort | ⟨_, _, _, heq, hor⟩)
        · simp at hshort
        · cases heq
          rcases hor with hzero | hlong
          · exact ⟨_, _, ⟨rfl, rfl⟩, htype.2 hzero⟩
          · omega
    · exact iff_of_true (Or.inl (if_neg hlen))
        (Or.inr ⟨hi, lo, rest, rfl, Or.inr (Nat.lt_of_not_le hlen)⟩)

/-- Bytes that begin with three complete TLVs of types 1, 2 and 3. -/
def BeginsWithMandatory (b : Bytes) : Prop :=
  ∃ chassis port ttl rest : Bytes, chassis.length ≤ 511 ∧ port.length ≤ 511 ∧ ttl.length ≤ 511 ∧
    b = LLDPDUTypeLengthValue.encode ⟨1, chassis⟩ ++ (LLDPDUTypeLengthValue.encode ⟨2, port⟩ ++
      (LLDPDUTypeLengthValue.encode ⟨3, ttl⟩ ++ rest))

theorem dataUnit_accepted_iff (b : Bytes) :
    (∃ u, LLDPDataUnit.fromSpan b = .ok (some u)) ↔ BeginsWithMandatory b := by
  constructor
  · rintro ⟨⟨⟨_, chassis⟩, ⟨_, port⟩, ⟨_, ttl⟩, others⟩, h⟩
    obtain ⟨⟨hc, rfl, hp, rfl, ht, rfl, -⟩, rest, -, rfl⟩ := dataUnit_fromSpan_iff.1 h
    refine ⟨chassis, port, ttl, others.flatMap LLDPDUTypeLengthValue.encode ++ rest,
      Nat.le_of_lt_succ hc.value, Nat.le_of_lt_succ hp.value, Nat.le_of_lt_succ ht.value, ?_⟩
    simp only [LLDPDataUnit.body, List.append_assoc, TLV.chassisId, TLV.portId, TLV.timeToLive]
  · rintro ⟨chassis, port, ttl, rest, hc, hp, ht, rfl⟩
    obtain ⟨others, rest', -, hstop, rfl, hall⟩ :=
      otherTlvs_cases (rest.length + 1) rest (Nat.lt_succ_self _)
    refine ⟨⟨⟨1, chassis⟩, ⟨2, port⟩, ⟨3, ttl⟩, others⟩, dataUnit_fromSpan_iff.2 ⟨?_, rest', hstop, ?_⟩⟩
    · have h1 : (1 : UInt8).toNat < 128 := by decide
      have h2 : (2 : UInt8).toNat < 128 := by decide
      have h3 : (3 : UInt8).toNat < 128 := by decide
      exact ⟨⟨h1, Nat.lt_succ_of_le hc⟩, rfl, ⟨h2, Nat.lt_succ_of_le hp⟩, rfl,
        ⟨h3, Nat.lt_succ_of_le ht⟩, rfl, hall⟩
    · simp only [LLDPDataUnit.body, List.append_assoc]

/-- **What the parser accepts, and as what.** It ends on every byte string, without a read
outside it, and accepts exactly those that begin with three complete TLVs of types 1, 2
and 3. The encoding of the result, without its terminator, is a prefix; no optional TLV
has type 0; what follows starts with a header of type 0 or with no complete TLV; and the
encoding parses to the result again. -/
theorem dataUnit_fromSpan_spec (b : Bytes) :
    (∃ r, LLDPDataUnit.fromSpan b = .ok r) ∧
    ((∃ u, LLDPDataUnit.fromSpan b = .ok (some u)) ↔ BeginsWithMandatory b) ∧
    ∀ u, LLDPDataUnit.fromSpan b = .ok (some u) →
      (∃ rest, b = u.written.take (u.written.length - 2) ++ rest ∧
        (rest.length < 2 ∨ ∃ hi lo rest', rest = hi :: lo :: rest' ∧
          (beValue hi lo / 512 = 0 ∨ rest'.length < beValue hi lo % 512))) ∧
      (∀ tlv ∈ u.optionalTlv, tlv.type ≠ TLV.endOfLldpdu) ∧
      LLDPDataUnit.fromSpan u.written = .ok (some u) := by
  refine ⟨?_, dataUnit_accepted_iff b, ?_⟩
  · rcases dataUnit_fromSpan_cases b with h | ⟨u, -, h, -⟩
    · exact ⟨none, h⟩
    · exact ⟨some u, h⟩
  · intro u h
    obtain ⟨hu, rest, hstop, rfl⟩ := dataUnit_fromSpan_iff.1 h
    -- what was consumed is the encoding but for its two bytes of terminator
    have hbody : u.written.take (u.written.length - 2) = u.body := by
      have hlen : u.encode.length - 2 = u.body.length := by
        rw [LLDPDataUnit.encode, List.length_append]
        exact Nat.add_sub_cancel ..
      rw [dataUnit_written_eq hu, hlen, LLDPDataUnit.encode, List.take_left]
    refine ⟨⟨rest, by rw [hbody], (stops_iff rest).1 hstop⟩, fun tlv htlv => (hu.optionalTlv tlv htlv).2, ?_⟩
    rw [← List.append_nil u.written]
    exact dataUnit_fromSpan_written hu []

end Ndisc
