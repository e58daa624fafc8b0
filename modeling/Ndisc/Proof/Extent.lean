import Ndisc.Proof.Datagram

/-!
# What the parser reads of a message

The parser takes no notice of where its span ends. It trusts `nlmsg_len`, and what the
attributes say of themselves.

* `collect_wraps`: an attribute without its padding makes the count of the bytes that remain
  wrap, and the loop reads on behind the message.
* `parseTlvs_ok_iff`: the loop stays inside exactly if there is no such attribute.
* `packetViewParser_ok_iff`, `packetViewParser_extend`: the same for all of a message, and
  for a span that is longer than the message.
* `parser_reads_inside`: **exactly then the parser reads only what is before `nlmsg_len`**.
-/

namespace Ndisc.Netlink

open Wire Records

/-! ## One attribute -/

/-- `rta_len` of the header at `p`. -/
def rtaLenAt (message : Bytes) (p : ℕ) : ℕ := leAt message p 2

/-- An attribute at `p` that `RTA_OK` lets pass: its value is in the message. -/
def AttributeAt (message : Bytes) (p : ℕ) : Prop :=
  p + 4 ≤ message.length ∧ 4 ≤ rtaLenAt message p ∧ p + rtaLenAt message p ≤ message.length

instance (message : Bytes) (p : ℕ) : Decidable (AttributeAt message p) :=
  inferInstanceAs (Decidable (_ ∧ _ ∧ _))

/-- How far it is from the attribute at `p` to the next one. -/
def attributeStep (message : Bytes) (p : ℕ) : ℕ := padded (rtaLenAt message p)

/-- The attributes from `start` on stay in the message, each with its padding. -/
def AttributesFit (message : Bytes) (start : ℕ) : Prop :=
  start ≤ message.length ∧
    ∀ p, Reaches (AttributeAt message) (attributeStep message) start p → AttributeAt message p →
      p + attributeStep message p ≤ message.length

/-- The attribute at `p`. -/
def attributeView (message : Bytes) (p : ℕ) : TLVView :=
  ⟨⟨UInt16.ofNat (rtaLenAt message p), UInt16.ofNat (leAt message (p + 2) 2)⟩,
    (message.drop (p + 4)).take (rtaLenAt message p - 4)⟩

/-- The loop at `p`, as long as it has counted right. -/
def roundAt (message : Bytes) (p : ℕ) : ℕ × UInt64 := (p, UInt64.ofNat (message.length - p))

section

variable {message : Bytes} {p : ℕ}

theorem rtaLenAt_lt (message : Bytes) (p : ℕ) : rtaLenAt message p < 2 ^ 16 := leAt_lt message p 2

theorem attributeStep_lt (message : Bytes) (p : ℕ) : attributeStep message p < 2 ^ 17 := by
  have hlt := rtaLenAt_lt message p
  have hpad := padded_lt (rtaLenAt message p)
  unfold attributeStep
  omega

/-- The step to the next attribute, as `RTA_NEXT` makes it. -/
theorem toNat_rtaAlignAt (message : Bytes) (p : ℕ) :
    (rtaAlign (UInt16.ofNat (rtaLenAt message p)).toUInt32).toNat = attributeStep message p := by
  have hlt := rtaLenAt_lt message p
  have hlen : (UInt16.ofNat (rtaLenAt message p)).toUInt32.toNat = rtaLenAt message p := by
    rw [UInt16.toNat_toUInt32]
    exact UInt16.toNat_ofNat_of_lt' hlt
  rw [rtaAlign, toNat_roundUp (by omega), hlen]
  rfl

theorem rtaOk_eq (hsmall : message.length < 2 ^ 32) (hp : p ≤ message.length) :
    rtaOk message p (UInt64.ofNat (message.length - p)) = .ok (decide (AttributeAt message p)) := by
  have hrest : (UInt64.ofNat (message.length - p)).toNat = message.length - p :=
    toNat_ofNat_small (by omega)
  have hfour : (4 : UInt64).toNat = 4 := rfl
  unfold rtaOk
  split
  · rename_i hshort
    rw [UInt64.lt_iff_toNat_lt, hrest, hfour] at hshort
    have hnot : ¬ AttributeAt message p := fun h => by have := h.1; omega
    rw [decide_eq_false hnot]
  · rename_i hlong
    rw [UInt64.lt_iff_toNat_lt, hrest, hfour] at hlong
    obtain ⟨o, ho, hbytes⟩ := fixedSpan_ok (show p + 2 ≤ message.length by omega)
    have hlen : (u16Of o 0).toNat = rtaLenAt message p := toNat_u16Of hbytes
    have hfits : (u16Of o 0).toUInt64 ≤ UInt64.ofNat (message.length - p) ↔
        p + rtaLenAt message p ≤ message.length := by
      rw [UInt64.le_iff_toNat_le, hrest, UInt16.toNat_toUInt64, hlen]
      omega
    have hhead : p + 4 ≤ message.length := by omega
    rw [ho, ok_bind, hlen]
    simp only [hfits, AttributeAt, hhead, true_and]
    congr 1
    simp

/-- Where the count is wrong, the header that is looked at may lie behind the message. -/
theorem parseTlv_beyond {remaining : UInt64} (hcount : 4 ≤ remaining.toNat)
    (hbeyond : message.length < p + 2) : parseTlv message (p, remaining) = .error .outOfRange := by
  have hlong : ¬ remaining < 4 := by
    rw [UInt64.lt_iff_toNat_lt, show (4 : UInt64).toNat = 4 from rfl]
    omega
  rw [parseTlv, rtaOk, if_neg hlong, fixedSpan_error hbeyond]
  rfl

theorem parseTlv_none (hsmall : message.length < 2 ^ 32) :
    ∀ p ≤ message.length, ¬ AttributeAt message p →
      parseTlv message (roundAt message p) = .ok none := by
  intro p hp hnot
  rw [roundAt, parseTlv, rtaOk_eq hsmall hp, ok_bind, decide_eq_false hnot]
  rfl

/-- One round of the loop: the attribute at `p`, and its padded length off what remains. -/
theorem parseTlv_some (hsmall : message.length < 2 ^ 32) (h : AttributeAt message p) :
    parseTlv message (roundAt message p) = .ok (some (attributeView message p,
      p + attributeStep message p,
      UInt64.ofNat (message.length - p) - UInt64.ofNat (attributeStep message p))) := by
  obtain ⟨hhead, hlow, hhigh⟩ := h
  have hlt := rtaLenAt_lt message p
  obtain ⟨o, ho, hbytes⟩ := fixedSpan_ok hhead
  have hheader : Rtattr.ofOctets o =
      ⟨UInt16.ofNat (rtaLenAt message p), UInt16.ofNat (leAt message (p + 2) 2)⟩ := by
    have hlen : u16Of o 0 = UInt16.ofNat (rtaLenAt message p) := u16Of_leAt hbytes
    have htype : u16Of o 2 = UInt16.ofNat (leAt message (p + 2) 2) := u16Of_leAt hbytes
    rw [Rtattr.ofOctets, hlen, htype]
  have hlen : (UInt16.ofNat (rtaLenAt message p)).toNat = rtaLenAt message p :=
    UInt16.toNat_ofNat_of_lt' hlt
  have hvalue := subspan_ok (show p + 4 + (rtaLenAt message p - 4) ≤ message.length by omega)
  have hstep := toNat_rtaAlignAt message p
  have hnext : (rtaAlign (UInt16.ofNat (rtaLenAt message p)).toUInt32).toUInt64 =
      UInt64.ofNat (attributeStep message p) := by
    apply UInt64.toNat_inj.1
    have hpad := attributeStep_lt message p
    rw [UInt32.toNat_toUInt64, hstep, toNat_ofNat_small (by omega)]
  rw [roundAt, parseTlv, rtaOk_eq hsmall (by omega), ok_bind,
    decide_eq_true (show AttributeAt message p from ⟨hhead, hlow, hhigh⟩), if_pos rfl, ho, ok_bind]
  simp only [hheader, hlen, hvalue, ok_bind, hstep, hnext, attributeView]

theorem attributeStep_pos (h : AttributeAt message p) : 0 < attributeStep message p := by
  have hlow := h.2.1
  have hle := le_padded (rtaLenAt message p)
  unfold attributeStep
  omega

/-- An attribute with its padding leaves the count right. -/
theorem parseTlv_next (hsmall : message.length < 2 ^ 32) :
    ∀ p ≤ message.length, AttributeAt message p → p + attributeStep message p ≤ message.length →
      0 < attributeStep message p ∧ p + attributeStep message p ≤ message.length ∧
        parseTlv message (roundAt message p) =
          .ok (some (attributeView message p, roundAt message (p + attributeStep message p))) := by
  intro p hp h hfits
  refine ⟨attributeStep_pos h, hfits, ?_⟩
  have hcount : UInt64.ofNat (message.length - p) - UInt64.ofNat (attributeStep message p) =
      UInt64.ofNat (message.length - (p + attributeStep message p)) := by
    apply UInt64.toNat_inj.1
    have hstep := toNat_ofNat_small (show attributeStep message p < 2 ^ 64 by omega)
    have hrest := toNat_ofNat_small (show message.length - p < 2 ^ 64 by omega)
    rw [UInt64.toNat_sub_of_le _ _ (by rw [UInt64.le_iff_toNat_le, hstep, hrest]; omega), hstep,
      hrest, toNat_ofNat_small (by omega), Nat.sub_sub]
  rw [parseTlv_some hsmall h, hcount, roundAt]

/-- **An attribute without its padding** makes the count wrap, and the next round reads
behind the message. -/
theorem collect_wraps (hsmall : message.length < 2 ^ 32) :
    ∀ p ≤ message.length, AttributeAt message p → ¬ p + attributeStep message p ≤ message.length →
      ∀ fuel tlvs, collect (parseTlv message) fuel (roundAt message p) ≠ .ok tlvs := by
  intro p hp h hcut fuel tlvs
  have hstep := attributeStep_lt message p
  obtain ⟨hhead, hlow, hhigh⟩ := h
  have hwrapped : 4 ≤ (UInt64.ofNat (message.length - p) -
      UInt64.ofNat (attributeStep message p)).toNat := by
    rw [UInt64.toNat_sub, toNat_ofNat_small (by omega), toNat_ofNat_small (by omega)]
    omega
  cases fuel with
  | zero => exact fun heq => by cases heq
  | succ fuel =>
    rw [collect, parseTlv_some hsmall ⟨hhead, hlow, hhigh⟩, ok_bind]
    intro heq
    simp only [bind_eq_ok] at heq
    obtain ⟨rest, hrest, -⟩ := heq
    cases fuel with
    | zero => cases hrest
    | succ fuel =>
      rw [collect, parseTlv_beyond hwrapped (by omega)] at hrest
      cases hrest

end

/-! ## All attributes -/

/-- Where the attributes start, after a fixed part of `size` bytes. -/
def attributesOffset (size : UInt64) : ℕ := (roundUpWide (nlmsgLength size)).toNat

section

variable {message : Bytes} {size : UInt64}

theorem attributesOffset_eq {n : ℕ} (hsize : size.toNat = n) (h : n < 2 ^ 33) :
    attributesOffset size = padded (16 + n) % 2 ^ 32 := by
  have hlen : (nlmsgLength size).toNat = 16 + n := by
    rw [nlmsgLength, UInt64.toNat_add, hsize, show (16 : UInt64).toNat = 16 from rfl]
    omega
  rw [attributesOffset, toNat_roundUpWide (by omega), hlen]
  rfl

theorem attributesOffset_lt (size : UInt64) : attributesOffset size < 2 ^ 32 := by
  have hmask : (~~~(4 - 1) : UInt32).toUInt64.toNat < 2 ^ 32 := by decide
  rw [attributesOffset, roundUpWide, UInt64.toNat_and]
  exact Nat.and_le_right.trans_lt hmask

/-- The header of a message, from its own bytes. -/
theorem nlmsgLen_ofOctets {o : Octets 16} (ho : fixedSpan message 0 16 = .ok o) :
    (Nlmsghdr.ofOctets o).nlmsgLen.toNat = nlmsgLenAt message 0 := by
  have hin : 0 + 16 ≤ message.length := by
    by_contra hout
    rw [fixedSpan_error (Nat.not_le.1 hout)] at ho
    cases ho
  obtain ⟨o', ho', hbytes⟩ := fixedSpan_ok hin
  rw [ho'] at ho
  cases ho
  exact toNat_u32Of hbytes

/-- The first round, where `nlmsg_len` reaches as far as the attributes start. -/
theorem firstRound_eq {header : Nlmsghdr} (hlen : header.nlmsgLen.toNat = message.length)
    (hstart : attributesOffset size ≤ message.length) :
    ((roundUpWide (nlmsgLength size)).toNat, nlmsgPayload header size) =
      roundAt message (attributesOffset size) := by
  have hspace : (nlmsgSpace size).toNat = attributesOffset size := rfl
  have hsmall := header.nlmsgLen.toNat_lt
  refine Prod.ext rfl (UInt64.toNat_inj.1 ?_)
  show (nlmsgPayload header size).toNat = (UInt64.ofNat (message.length - attributesOffset size)).toNat
  rw [nlmsgPayload, UInt64.toNat_sub_of_le, UInt32.toNat_toUInt64, hspace, hlen,
    toNat_ofNat_small (by omega)]
  rw [UInt64.le_iff_toNat_le, UInt32.toNat_toUInt64, hspace, hlen]
  exact hstart

/-- **The loop stays inside exactly if every attribute has its padding.** -/
theorem parseTlvs_ok_iff (hheader : 16 ≤ message.length)
    (hself : nlmsgLenAt message 0 = message.length) :
    (∃ tlvs, parseTlvs message size = .ok tlvs) ↔ AttributesFit message (attributesOffset size) := by
  obtain ⟨o, ho, -⟩ := fixedSpan_ok (show 0 + 16 ≤ message.length by omega)
  have hlen := (nlmsgLen_ofOctets ho).trans hself
  have hsmall : message.length < 2 ^ 32 := hself ▸ nlmsgLenAt_lt message 0
  have hloop : parseTlvs message size = collect (parseTlv message) (message.length + 1)
      ((roundUpWide (nlmsgLength size)).toNat, nlmsgPayload (.ofOctets o) size) := by
    rw [parseTlvs, ho]
    rfl
  rw [hloop]
  by_cases hstart : attributesOffset size ≤ message.length
  · rw [firstRound_eq hlen hstart, collect_ok_iff (roundAt message) (parseTlv_none hsmall)
      (parseTlv_next hsmall) (collect_wraps hsmall) hstart (by omega)]
    exact (and_iff_right hstart).symm
  · -- the count has wrapped before the first round
    refine iff_of_false ?_ fun h => hstart h.1
    have hspace : (nlmsgSpace size).toNat = attributesOffset size := rfl
    have hoffset := attributesOffset_lt size
    have hwrapped : 4 ≤ (nlmsgPayload (.ofOctets o) size).toNat := by
      rw [nlmsgPayload, UInt64.toNat_sub, UInt32.toNat_toUInt64, hspace, hlen]
      omega
    rintro ⟨tlvs, htlvs⟩
    have hbeyond := parseTlv_beyond hwrapped (show message.length < attributesOffset size + 2 by omega)
    rw [collect, show (roundUpWide (nlmsgLength size)).toNat = attributesOffset size from rfl,
      hbeyond] at htlvs
    cases htlvs

end

/-! ## Messages -/

def typeOf (message : Bytes) : UInt16 := UInt16.ofNat (leAt message 4 2)

def IsLink (message : Bytes) : Prop :=
  typeOf message = rtmGetlink ∨ typeOf message = rtmNewlink ∨ typeOf message = rtmDellink

def IsAddr (message : Bytes) : Prop :=
  typeOf message = rtmGetaddr ∨ typeOf message = rtmNewaddr ∨ typeOf message = rtmDeladdr

instance (message : Bytes) : Decidable (IsLink message) := inferInstanceAs (Decidable (_ ∨ _ ∨ _))

instance (message : Bytes) : Decidable (IsAddr message) := inferInstanceAs (Decidable (_ ∨ _ ∨ _))

/-- An error that brings the message it is about, and not only its header. -/
def Uncapped (message : Bytes) : Prop := UInt16.ofNat (leAt message 6 2) &&& nlmFCapped = 0

instance (message : Bytes) : Decidable (Uncapped message) := inferInstanceAs (Decidable (_ = _))

/-- `nlmsg_len` of the message that an error is about. -/
def originalLen (message : Bytes) : ℕ := leAt message 20 4

/-- Where the fixed part of a message ends. -/
def fixedEnd (message : Bytes) : ℕ :=
  if IsLink message then 32
  else if IsAddr message then 24
  else if typeOf message = nlmsgDone then 20
  else if typeOf message = nlmsgError then 36
  else 16

/-- The size that `parseTlvs` is given, if the message has attributes. -/
def payloadSize (message : Bytes) : Option UInt64 :=
  if IsLink message then some 16
  else if IsAddr message then some 8
  else if typeOf message = nlmsgDone then none
  else if typeOf message = nlmsgError then
    if Uncapped message then some (20 + (UInt32.ofNat (originalLen message) - 16).toUInt64)
    else some 20
  else none

/-- Where that puts the first attribute. -/
def attributesStart (message : Bytes) : Option ℕ :=
  if IsLink message then some 32
  else if IsAddr message then some 24
  else if typeOf message = nlmsgDone then none
  else if typeOf message = nlmsgError then
    if Uncapped message then some (padded (20 + originalLen message) % 2 ^ 32) else some 36
  else none

/-- The fixed part is in the message, and so are the attributes, each with its padding. -/
def WellFormed (message : Bytes) : Prop :=
  fixedEnd message ≤ message.length ∧
    ∀ start ∈ attributesStart message, AttributesFit message start

theorem originalSize_toNat (message : Bytes) :
    (20 + (UInt32.ofNat (originalLen message) - 16).toUInt64).toNat =
      20 + (2 ^ 32 - 16 + originalLen message) % 2 ^ 32 := by
  have hlen : (UInt32.ofNat (originalLen message)).toNat = originalLen message :=
    UInt32.toNat_ofNat_of_lt' (leAt_lt message 20 4)
  rw [UInt64.toNat_add, UInt32.toNat_toUInt64, UInt32.toNat_sub, hlen,
    show (16 : UInt32).toNat = 16 from rfl, show (20 : UInt64).toNat = 20 from rfl]
  omega

theorem attributesStart_eq (message : Bytes) :
    attributesStart message = (payloadSize message).map attributesOffset := by
  have hlink : attributesOffset 16 = 32 := by decide
  have haddr : attributesOffset 8 = 24 := by decide
  have hcapped : attributesOffset 20 = 36 := by decide
  have horiginal : attributesOffset (20 + (UInt32.ofNat (originalLen message) - 16).toUInt64) =
      padded (20 + originalLen message) % 2 ^ 32 := by
    -- the two sums differ by what wraps, which is a multiple of four
    rw [attributesOffset_eq (originalSize_toNat message) (by omega)]
    have hlt : originalLen message < 256 ^ 4 := leAt_lt message 20 4
    unfold padded
    omega
  unfold attributesStart payloadSize
  split_ifs
  · rw [Option.map_some, hlink]
  · rw [Option.map_some, haddr]
  · rfl
  · rw [Option.map_some, horiginal]
  · rw [Option.map_some, hcapped]
  · rfl

section

variable {message : Bytes}

/-- A fixed part of `n` bytes, and the attributes after it. -/
theorem fixedPart_isOk (hheader : 16 ≤ message.length)
    (hself : nlmsgLenAt message 0 = message.length) {n : ℕ} (size : Octets n → UInt64) {β : Type}
    (f : Octets n → List TLVView → β) {size' : UInt64}
    (hsize : ∀ o, o.toList = (message.drop 16).take n → size o = size') :
    (∃ b, (do
      let o ← fixedSpan message 16 n
      let attributes ← parseTlvs message (size o)
      .ok (f o attributes)) = .ok b) ↔
      16 + n ≤ message.length ∧ AttributesFit message (attributesOffset size') := by
  rw [bind_isOk, ← parseTlvs_ok_iff hheader hself]
  constructor
  · rintro ⟨o, ho, hrest⟩
    have hin := fixedSpan_isOk.1 ⟨o, ho⟩
    obtain ⟨o', ho', hbytes⟩ := fixedSpan_ok hin
    rw [ho] at ho'
    cases ho'
    obtain ⟨tlvs, htlvs⟩ := (bind_ok_isOk (f o)).1 hrest
    exact ⟨hin, tlvs, hsize o hbytes ▸ htlvs⟩
  · rintro ⟨hin, tlvs, htlvs⟩
    obtain ⟨o, ho, hbytes⟩ := fixedSpan_ok hin
    refine ⟨o, ho, (bind_ok_isOk (f o)).2 ⟨tlvs, ?_⟩⟩
    rw [hsize o hbytes]
    exact htlvs

/-- The size of the message that an error is about, without its header. -/
theorem nlmsgPayloadZero_ofOctets {o : Octets 20} (ho : o.toList = (message.drop 16).take 20) :
    nlmsgPayloadZero (Nlmsgerr.ofOctets o).msg = UInt32.ofNat (originalLen message) - 16 := by
  have hslice : (slice o 4 16).toList = (message.drop 20).take 16 := by
    show (o.toList.drop 4).take 16 = _
    rw [ho, List.drop_take, List.take_take, List.drop_drop]
    rfl
  have hlen : (Nlmsgerr.ofOctets o).msg.nlmsgLen = UInt32.ofNat (originalLen message) := by
    apply UInt32.toNat_inj.1
    rw [UInt32.toNat_ofNat_of_lt' (show originalLen message < UInt32.size from leAt_lt message 20 4)]
    exact toNat_u32Of hslice
  rw [nlmsgPayloadZero, hlen]

theorem parseErrorViewPacket_isOk (memory : ℕ → Bytes) {header : Nlmsghdr}
    (hflags : header.nlmsgFlags = UInt16.ofNat (leAt message 6 2)) (hheader : 16 ≤ message.length)
    (hself : nlmsgLenAt message 0 = message.length) :
    (∃ view, parseErrorViewPacket memory header message = .ok view) ↔
      36 ≤ message.length ∧ AttributesFit message (attributesOffset
        (if Uncapped message then 20 + (UInt32.ofNat (originalLen message) - 16).toUInt64 else 20)) := by
  have hcapped : (header.nlmsgFlags &&& nlmFCapped = 0) ↔ Uncapped message := by
    rw [hflags, Uncapped]
  unfold parseErrorViewPacket
  simp only [hcapped]
  by_cases huncapped : Uncapped message
  · simp only [if_pos huncapped]
    exact fixedPart_isOk hheader hself
      (fun o => 20 + (nlmsgPayloadZero (Nlmsgerr.ofOctets o).msg).toUInt64) _
      fun o ho => by rw [nlmsgPayloadZero_ofOctets ho]
  · simp only [if_neg huncapped]
    exact fixedPart_isOk hheader hself (fun _ => 20) _ fun _ _ => rfl

/-- **The parser gives a view exactly if the message is well formed**, where there are no
bytes but those of the message. -/
theorem packetViewParser_ok_iff (memory : ℕ → Bytes) (hheader : 16 ≤ message.length)
    (hself : nlmsgLenAt message 0 = message.length) :
    (∃ view, packetViewParser memory message = .ok view) ↔ WellFormed message := by
  obtain ⟨o, ho, hbytes⟩ := fixedSpan_ok (show 0 + 16 ≤ message.length by omega)
  have hlen := (nlmsgLen_ofOctets ho).trans hself
  have htype : (Nlmsghdr.ofOctets o).nlmsgType = typeOf message := u16Of_leAt hbytes
  have hflags : (Nlmsghdr.ofOctets o).nlmsgFlags = UInt16.ofNat (leAt message 6 2) :=
    u16Of_leAt hbytes
  have hlink : (typeOf message = rtmGetlink ∨ typeOf message = rtmNewlink ∨
    typeOf message = rtmDellink) ↔ IsLink message := Iff.rfl
  have haddr : (typeOf message = rtmGetaddr ∨ typeOf message = rtmNewaddr ∨
    typeOf message = rtmDeladdr) ↔ IsAddr message := Iff.rfl
  rw [packetViewParser, ho, ok_bind, WellFormed, attributesStart_eq, fixedEnd, payloadSize]
  simp only [htype, hlink, haddr]
  split_ifs with h1 h2 h3 h4 h5
  · -- a link message
    rw [bind_ok_isOk, parseLinkViewPacket, fixedPart_isOk hheader hself (fun _ => 16) _ fun _ _ => rfl]
    simp
  · rw [bind_ok_isOk, parseAddrViewPacket, fixedPart_isOk hheader hself (fun _ => 8) _ fun _ _ => rfl]
    simp
  · rw [bind_ok_isOk, fixedSpan_isOk]
    simp
  · rw [bind_ok_isOk, parseErrorViewPacket_isOk memory hflags hheader hself, if_pos h5]
    simp
  · rw [bind_ok_isOk, parseErrorViewPacket_isOk memory hflags hheader hself, if_neg h5]
    simp
  · -- the payload is what the length leaves after the header
    have hpayload : (nlmsgPayloadZero (Nlmsghdr.ofOctets o)).toNat = message.length - 16 := by
      have hsmall := (Nlmsghdr.ofOctets o).nlmsgLen.toNat_lt
      rw [nlmsgPayloadZero, UInt32.toNat_sub_of_le, hlen]
      · rfl
      · rw [UInt32.le_iff_toNat_le, hlen]
        exact hheader
    have hspan := subspan_ok (show 16 + (nlmsgPayloadZero (Nlmsghdr.ofOctets o)).toNat ≤
      message.length by omega)
    rw [bind_ok_isOk, hspan]
    simp [hheader]

end

/-! ## More bytes than those of the message -/

section

variable {message rest : Bytes}

theorem parseTlv_extend (rest : Bytes) (s : ℕ × UInt64) (r : Option (TLVView × (ℕ × UInt64)))
    (h : parseTlv message s = .ok r) : parseTlv (message ++ rest) s = .ok r := by
  obtain ⟨rta, remaining⟩ := s
  have hrta : ∀ ok, rtaOk message rta remaining = .ok ok →
      rtaOk (message ++ rest) rta remaining = .ok ok := by
    intro ok hok
    unfold rtaOk at hok ⊢
    split_ifs at hok ⊢
    · exact hok
    · exact bind_extend (fun o => fixedSpan_extend o) (fun _ _ hb => hb) ok hok
  unfold parseTlv at h ⊢
  refine bind_extend hrta ?_ r h
  intro ok r hr
  split_ifs at hr ⊢
  · exact bind_extend (fun o => fixedSpan_extend o)
      (fun o r hr => bind_extend (fun bytes => subspan_extend bytes) (fun _ _ hb => hb) r hr) r hr
  · exact hr

theorem parseTlvs_extend {size : UInt64} (tlvs : List TLVView)
    (h : parseTlvs message size = .ok tlvs) : parseTlvs (message ++ rest) size = .ok tlvs := by
  have hfuel : message.length + 1 ≤ (message ++ rest).length + 1 := by
    rw [List.length_append]
    omega
  unfold parseTlvs at h ⊢
  exact bind_extend (fun o => fixedSpan_extend o)
    (fun o tlvs htlvs => collect_extend (parseTlv_extend rest) hfuel htlvs) tlvs h

theorem parseErrorViewPacket_extend {memory : ℕ → Bytes} {header : Nlmsghdr} (view : ErrorView)
    (h : parseErrorViewPacket memory header message = .ok view) :
    parseErrorViewPacket memory header (message ++ rest) = .ok view := by
  unfold parseErrorViewPacket at h ⊢
  refine bind_extend (fun o => fixedSpan_extend o) ?_ view h
  intro o view hview
  simp only at hview ⊢
  split_ifs at hview ⊢
  · exact bind_extend (fun tlvs => parseTlvs_extend tlvs) (fun _ _ hb => hb) view hview
  · exact bind_extend (fun tlvs => parseTlvs_extend tlvs) (fun _ _ hb => hb) view hview

/-- A fixed part and attributes that are found in the message. -/
theorem fixedPart_extend {n : ℕ} {size : UInt64} {β : Type} (f : Octets n → List TLVView → β) (b : β)
    (h : (do
      let o ← fixedSpan message 16 n
      let attributes ← parseTlvs message size
      .ok (f o attributes) : Except Fault β) = .ok b) :
    (do
      let o ← fixedSpan (message ++ rest) 16 n
      let attributes ← parseTlvs (message ++ rest) size
      .ok (f o attributes) : Except Fault β) = .ok b :=
  bind_extend (fun o => fixedSpan_extend o)
    (fun _ b hb => bind_extend (fun tlvs => parseTlvs_extend tlvs) (fun _ _ hb => hb) b hb) b h

/-- **The bytes after a message do not matter** to a parser that stays inside it. -/
theorem packetViewParser_extend (rest : Bytes) {memory : ℕ → Bytes} {view : NetlinkPacketView}
    (h : packetViewParser memory message = .ok view) :
    packetViewParser memory (message ++ rest) = .ok view := by
  unfold packetViewParser at h ⊢
  refine bind_extend (fun o => fixedSpan_extend o) ?_ view h
  intro o view hview
  simp only at hview ⊢
  split_ifs at hview ⊢ with h1 h2 h3 h4
  · exact bind_extend (fun content => fixedPart_extend _ content) (fun _ _ hb => hb) view hview
  · exact bind_extend (fun content => fixedPart_extend _ content) (fun _ _ hb => hb) view hview
  · exact bind_extend (fun o => fixedSpan_extend o) (fun _ _ hb => hb) view hview
  · exact bind_extend (fun view => parseErrorViewPacket_extend view) (fun _ _ hb => hb) view hview
  · exact bind_extend (fun payload => subspan_extend payload) (fun _ _ hb => hb) view hview

end

/-! ## Spans -/

/-- The message in a span: the bytes from its header to `nlmsg_len`. -/
def messageOf (packet : Bytes) : Bytes := packet.take (nlmsgLenAt packet 0)

/-- Where the loop of `parseTlvs` is, and its `remaining_bytes`, in each of its rounds. -/
inductive Rounds (packet : Bytes) (size : UInt64) : ℕ × UInt64 → Prop
  | first {o : Octets 16} : fixedSpan packet 0 16 = .ok o →
      Rounds packet size ((roundUpWide (nlmsgLength size)).toNat, nlmsgPayload (.ofOctets o) size)
  | next {s s' : ℕ × UInt64} {tlv : TLVView} : Rounds packet size s →
      parseTlv packet s = .ok (some (tlv, s')) → Rounds packet size s'

/-- The parser ends with a view of the message and has read nothing but the message. -/
structure ReadsInside (memory : ℕ → Bytes) (packet : Bytes) : Prop where
  /-- The bytes before `nlmsg_len` are all it needs. -/
  parsed : ∃ view, packetViewParser memory (messageOf packet) = .ok view ∧
    packetViewParser memory packet = .ok view
  /-- `remaining_bytes` is what is left of the message, in every round. -/
  counted : ∀ size, payloadSize (messageOf packet) = some size → ∀ s, Rounds packet size s →
    s.1 + s.2.toNat = nlmsgLenAt packet 0

/-- A span that is cut off holds its message, unless its length could not be rounded up. -/
theorem extract_span {buffer packet rest : Bytes}
    (h : extractMessageFromBuffer buffer = .ok (some (packet, rest))) :
    packet = [] ∨ 16 ≤ nlmsgLenAt packet 0 ∧ nlmsgLenAt packet 0 ≤ packet.length := by
  by_cases hmessage : MessageAt buffer 0
  · rcases Nat.lt_or_ge (nlmsgLenAt buffer 0 + 3) (2 ^ 32) with hsmall | hlarge
    · by_cases hin : padded (nlmsgLenAt buffer 0) ≤ buffer.length
      · rw [extract_some hmessage ⟨hsmall, by omega⟩] at h
        cases h
        have hle := le_padded (nlmsgLenAt buffer 0)
        have hlow := hmessage.2.1
        have hsame : nlmsgLenAt (buffer.take (padded (nlmsgLenAt buffer 0))) 0 = nlmsgLenAt buffer 0 :=
          leAt_take (by omega)
        rw [hsame, List.length_take]
        omega
      · rw [extract_cut hmessage hsmall (by omega)] at h
        cases h
    · rw [extract_wrapped hmessage hlarge] at h
      cases h
      exact Or.inl rfl
  · rw [extract_none hmessage] at h
    cases h

section

variable {packet : Bytes}

/-- The loop is where the walk over the attributes is, and has counted right. -/
theorem rounds_at (hhigh : nlmsgLenAt packet 0 ≤ packet.length)
    (hwell : WellFormed (messageOf packet)) {size : UInt64}
    (hsize : payloadSize (messageOf packet) = some size) {s : ℕ × UInt64}
    (hs : Rounds packet size s) :
    ∃ p ≤ nlmsgLenAt packet 0, s = roundAt (messageOf packet) p ∧
      Reaches (AttributeAt (messageOf packet)) (attributeStep (messageOf packet))
        (attributesOffset size) p := by
  have hlen : (messageOf packet).length = nlmsgLenAt packet 0 := by
    rw [messageOf, List.length_take, Nat.min_eq_left hhigh]
  have hsmall : (messageOf packet).length < 2 ^ 32 := hlen ▸ nlmsgLenAt_lt packet 0
  have hstart : attributesStart (messageOf packet) = some (attributesOffset size) := by
    rw [attributesStart_eq, hsize, Option.map_some]
  obtain ⟨hin, hfits⟩ := hwell.2 _ hstart
  have hextend : ∀ s r, parseTlv (messageOf packet) s = .ok r → parseTlv packet s = .ok r := by
    intro s r hr
    have hall := parseTlv_extend (packet.drop (nlmsgLenAt packet 0)) s r hr
    rwa [messageOf, List.take_append_drop] at hall
  induction hs with
  | first ho =>
    have hself : (Nlmsghdr.ofOctets _).nlmsgLen.toNat = (messageOf packet).length :=
      (nlmsgLen_ofOctets ho).trans hlen.symm
    exact ⟨attributesOffset size, hlen ▸ hin, firstRound_eq hself hin, .start⟩
  | next _ hround ih =>
    obtain ⟨p, hp, rfl, hreach⟩ := ih
    by_cases hattribute : AttributeAt (messageOf packet) p
    · obtain ⟨-, hnext, hmessage⟩ :=
        parseTlv_next hsmall p (hlen ▸ hp) hattribute (hfits p hreach hattribute)
      rw [hextend _ _ hmessage] at hround
      cases hround
      exact ⟨_, hlen ▸ hnext, rfl, .jump hreach hattribute⟩
    · rw [hextend _ _ (parseTlv_none hsmall p (hlen ▸ hp) hattribute)] at hround
      cases hround

end

/-- **The parser stays inside a message exactly if the message is well formed**: its fixed
part is there, and no attribute that passes `RTA_OK` lacks its padding. -/
theorem parser_reads_inside (memory : ℕ → Bytes) {buffer packet rest : Bytes}
    (h : extractMessageFromBuffer buffer = .ok (some (packet, rest))) :
    ReadsInside memory packet ↔ WellFormed (messageOf packet) := by
  rcases extract_span h with rfl | ⟨hlow, hhigh⟩
  · -- there is not even a header in an empty span
    refine iff_of_false ?_ fun hwell => absurd hwell.1 (by decide)
    rintro ⟨⟨view, hview, -⟩, -⟩
    cases hview
  · have hlen : (messageOf packet).length = nlmsgLenAt packet 0 := by
      rw [messageOf, List.length_take, Nat.min_eq_left hhigh]
    have hself : nlmsgLenAt (messageOf packet) 0 = (messageOf packet).length := by
      rw [hlen]
      exact leAt_take (by omega)
    have hiff := packetViewParser_ok_iff memory (hlen ▸ hlow) hself
    constructor
    · rintro ⟨⟨view, hview, -⟩, -⟩
      exact hiff.1 ⟨view, hview⟩
    · intro hwell
      obtain ⟨view, hview⟩ := hiff.2 hwell
      refine ⟨⟨view, hview, ?_⟩, ?_⟩
      · have hextend := packetViewParser_extend (packet.drop (nlmsgLenAt packet 0)) hview
        rwa [messageOf, List.take_append_drop] at hextend
      · intro size hsize s hs
        obtain ⟨p, hp, rfl, -⟩ := rounds_at hhigh hwell hsize hs
        show p + (UInt64.ofNat ((messageOf packet).length - p)).toNat = nlmsgLenAt packet 0
        have hsmall := nlmsgLenAt_lt packet 0
        rw [toNat_ofNat_small (by omega), hlen]
        omega

/-- A link message whose last attribute has one byte of value, and three of padding. -/
def linkMessage (nlmsgLen : UInt8) : Bytes :=
  [nlmsgLen, 0, 0, 0, 16, 0, 0, 0, 1, 0, 0, 0, 0, 0, 0, 0,
    0, 0, 1, 0, 2, 0, 0, 0, 67, 16, 0, 0, 0, 0, 0, 0, 5, 0, 3, 0, 101, 0, 0, 0]

theorem parser_reads_inside_link : ReadsInside (fun _ => []) (linkMessage 40) := by
  have hextract : extractMessageFromBuffer (linkMessage 40) = .ok (some (linkMessage 40, [])) := by
    decide +kernel
  refine (parser_reads_inside _ hextract).2 ⟨by decide, ?_⟩
  intro start hstart
  obtain rfl : start = 32 := Option.some.inj (hstart.symm.trans (by decide))
  have hreach : ∀ p, Reaches (AttributeAt (messageOf (linkMessage 40)))
      (attributeStep (messageOf (linkMessage 40))) 32 p → p = 32 ∨ p = 40 := by
    intro p hp
    induction hp with
    | start => exact Or.inl rfl
    | jump _ hmore ih =>
      rcases ih with rfl | rfl
      · exact Or.inr (by decide)
      · exact absurd hmore (by decide)
  refine ⟨by decide, fun p hp hattribute => ?_⟩
  rcases hreach p hp with rfl | rfl
  · decide
  · exact absurd hattribute (by decide)

/-- The same message, where `nlmsg_len` does not count the padding: what remains is five
bytes less eight, so the loop reads behind the buffer. -/
theorem parser_reads_behind :
    extractMessageFromBuffer (linkMessage 37) = .ok (some (linkMessage 37, [])) ∧
      ¬ ReadsInside (fun _ => []) (linkMessage 37) := by
  have hfault : packetViewParser (fun _ => []) (linkMessage 37) = .error .outOfRange := by
    decide +kernel
  refine ⟨by decide +kernel, ?_⟩
  rintro ⟨⟨view, -, hview⟩, -⟩
  rw [hfault] at hview
  cases hview

end Ndisc.Netlink
