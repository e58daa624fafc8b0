import Ndisc.Spec.Message

/-!
# The kernel's messages, as the callback sees them

* `parseTlv_attribute`: one round of the attribute loop takes one attribute with its padding.
* `packetViewParser_message`: a message is parsed as what it was laid out from.
* `extractMessage_message`: a message is cut off at its padded length.
* `call_views`: **the callback gets the messages of a datagram, once each and in order.**
-/

namespace Ndisc.Netlink

open Wire Records

/-! ## The structures in memory -/

theorem Nlmsghdr.ofOctets_octets (header : Nlmsghdr) : .ofOctets header.octets = header := by
  have hlen : u32Of header.octets 0 = header.nlmsgLen := u32Of_eq [] _ rfl rfl
  have htype : u16Of header.octets 4 = header.nlmsgType :=
    u16Of_eq (u32Octets header.nlmsgLen).toList _ rfl rfl
  have hflags : u16Of header.octets 6 = header.nlmsgFlags :=
    u16Of_eq ((u32Octets header.nlmsgLen).toList ++ (u16Octets header.nlmsgType).toList) _ rfl rfl
  have hseq : u32Of header.octets 8 = header.nlmsgSeq :=
    u32Of_eq ((u32Octets header.nlmsgLen).toList ++ (u16Octets header.nlmsgType).toList ++
      (u16Octets header.nlmsgFlags).toList) _ rfl rfl
  have hpid : u32Of header.octets 12 = header.nlmsgPid :=
    u32Of_eq ((u32Octets header.nlmsgLen).toList ++ (u16Octets header.nlmsgType).toList ++
      (u16Octets header.nlmsgFlags).toList ++ (u32Octets header.nlmsgSeq).toList) [] rfl rfl
  rw [ofOctets, hlen, htype, hflags, hseq, hpid]

theorem Rtattr.ofOctets_octets (header : Rtattr) : .ofOctets header.octets = header := by
  have hlen : u16Of header.octets 0 = header.rtaLen := u16Of_eq [] _ rfl rfl
  have htype : u16Of header.octets 2 = header.rtaType :=
    u16Of_eq (u16Octets header.rtaLen).toList [] rfl rfl
  rw [ofOctets, hlen, htype]

theorem Ifinfomsg.ofOctets_octets (info : Ifinfomsg) (padding : UInt8) :
    .ofOctets (info.octets padding) = info := by
  have hfamily : u8Of (info.octets padding) 0 = info.ifiFamily := u8Of_eq [] _ rfl rfl
  have htype : u16Of (info.octets padding) 2 = info.ifiType :=
    u16Of_eq [info.ifiFamily, padding] _ rfl rfl
  have hindex : u32Of (info.octets padding) 4 = info.ifiIndex.toUInt32 :=
    u32Of_eq ([info.ifiFamily, padding] ++ (u16Octets info.ifiType).toList) _ rfl rfl
  have hflags : u32Of (info.octets padding) 8 = info.ifiFlags :=
    u32Of_eq ([info.ifiFamily, padding] ++ (u16Octets info.ifiType).toList ++
      (u32Octets info.ifiIndex.toUInt32).toList) _ rfl rfl
  have hchange : u32Of (info.octets padding) 12 = info.ifiChange :=
    u32Of_eq ([info.ifiFamily, padding] ++ (u16Octets info.ifiType).toList ++
      (u32Octets info.ifiIndex.toUInt32).toList ++ (u32Octets info.ifiFlags).toList) [] rfl rfl
  rw [ofOctets, hfamily, htype, hindex, hflags, hchange]
  rfl

theorem Ifaddrmsg.ofOctets_octets (info : Ifaddrmsg) : .ofOctets info.octets = info := by
  have hindex : u32Of info.octets 4 = info.ifaIndex :=
    u32Of_eq [info.ifaFamily, info.ifaPrefixlen, info.ifaFlags, info.ifaScope] [] rfl rfl
  rw [ofOctets, hindex]
  rfl

/-! ## Attributes -/

namespace Attribute

variable (a : Attribute)

theorem toNat_rtaLen : a.header.rtaLen.toNat = 4 + a.value.length := by
  have hfits := a.fits
  exact UInt16.toNat_ofNat_of_lt' (show 4 + a.value.length < 65536 by omega)

theorem encode_length : a.encode.length = 4 + a.value.length + a.padding.length := by
  rw [encode, List.length_append, List.length_append, a.header.octets.toList_length]

/-- **The loop steps over the padding.** -/
theorem toNat_rtaAlign : (rtaAlign a.header.rtaLen.toUInt32).toNat = a.encode.length := by
  have hfits := a.fits
  have hfilled := a.filled
  have hshort := a.short
  have hlen : a.header.rtaLen.toUInt32.toNat = 4 + a.value.length := by
    rw [UInt16.toNat_toUInt32, a.toNat_rtaLen]
  rw [rtaAlign, toNat_roundUp (by omega), hlen, a.encode_length]
  omega

end Attribute

/-- What remains holds a whole attribute. -/
theorem rtaOk_attribute (a : Attribute) (pre post : Bytes) {len : UInt64}
    (hlen : a.encode.length ≤ len.toNat) :
    rtaOk (pre ++ a.encode ++ post) pre.length len = .ok true := by
  have hsize := a.encode_length
  have hread : fixedSpan (pre ++ a.encode ++ post) pre.length 2 =
      .ok (u16Octets a.header.rtaLen) := by
    rw [show pre ++ a.encode ++ post = pre ++ (u16Octets a.header.rtaLen).toList ++
      ((u16Octets a.header.rtaType).toList ++ a.value ++ a.padding ++ post) by
        simp [Attribute.encode, Rtattr.octets], fixedSpan_append]
  have hvalue : u16Of (u16Octets a.header.rtaLen) 0 = a.header.rtaLen := u16Of_eq [] [] rfl rfl
  have hheader : ¬ len < 4 := by
    rw [UInt64.lt_iff_toNat_lt, show (4 : UInt64).toNat = 4 from rfl]
    omega
  have hfour : 4 ≤ a.header.rtaLen.toNat := by rw [a.toNat_rtaLen]; omega
  have hfits : a.header.rtaLen.toUInt64 ≤ len := by
    rw [UInt64.le_iff_toNat_le, UInt16.toNat_toUInt64, a.toNat_rtaLen]
    omega
  rw [rtaOk, if_neg hheader, hread, ok_bind, hvalue]
  simp [hfour, hfits]

/-- **One round of the loop takes one attribute**, and moves past its padding. -/
theorem parseTlv_attribute (a : Attribute) (pre post : Bytes) {len : UInt64}
    (hlen : a.encode.length ≤ len.toNat) :
    parseTlv (pre ++ a.encode ++ post) (pre.length, len) =
      .ok (some (a.view, (pre ++ a.encode).length,
        UInt64.ofNat (len.toNat - a.encode.length))) := by
  have hheader : fixedSpan (pre ++ a.encode ++ post) pre.length 4 = .ok a.header.octets := by
    rw [show pre ++ a.encode ++ post = pre ++ a.header.octets.toList ++
      (a.value ++ a.padding ++ post) by simp [Attribute.encode], fixedSpan_append]
  have hvalue : subspan (pre ++ a.encode ++ post) (pre.length + 4) a.value.length =
      .ok a.value := by
    rw [show pre ++ a.encode ++ post = (pre ++ a.header.octets.toList) ++ a.value ++
      (a.padding ++ post) by simp [Attribute.encode],
      show pre.length + 4 = (pre ++ a.header.octets.toList).length by simp, subspan_append]
  have hsize : a.header.rtaLen.toNat - 4 = a.value.length := by rw [a.toNat_rtaLen]; omega
  -- `rta_len` counts no padding, but the step to the next attribute does
  have hrest : len - (rtaAlign a.header.rtaLen.toUInt32).toUInt64 =
      UInt64.ofNat (len.toNat - a.encode.length) := by
    have halign : (rtaAlign a.header.rtaLen.toUInt32).toUInt64.toNat = a.encode.length := by
      rw [UInt32.toNat_toUInt64, a.toNat_rtaAlign]
    apply UInt64.toNat_inj.1
    rw [UInt64.toNat_sub_of_le _ _ (by rw [UInt64.le_iff_toNat_le, halign]; exact hlen), halign,
      UInt64.toNat_ofNat', Nat.mod_eq_of_lt (by have := len.toNat_lt; omega)]
  rw [parseTlv, rtaOk_attribute a pre post hlen]
  simp only [ok_bind, if_true, hheader, Rtattr.ofOctets_octets, hsize, hvalue, a.toNat_rtaAlign,
    hrest, List.length_append]
  rfl

theorem parseTlv_end (packet : Bytes) (rta : ℕ) : parseTlv packet (rta, 0) = .ok none := rfl

/-- The attributes are at least as many bytes as they are. -/
theorem length_le_encode (attributes : List Attribute) :
    attributes.length ≤ (attributes.flatMap Attribute.encode).length := by
  induction attributes with
  | nil => exact Nat.le_refl 0
  | cons a attributes ih =>
    have hsize := a.encode_length
    rw [List.flatMap_cons, List.length_append, List.length_cons]
    omega

theorem attributes_length_mod (attributes : List Attribute) :
    (attributes.flatMap Attribute.encode).length % 4 = 0 := by
  induction attributes with
  | nil => rfl
  | cons a attributes ih =>
    have hsize := a.encode_length
    have hfilled := a.filled
    rw [List.flatMap_cons, List.length_append]
    omega

/-- **The loop takes every attribute**, if it starts at the first one and the header counts
them all. -/
theorem parseTlvs_attributes (pre : Bytes) (attributes : List Attribute) (header : Nlmsghdr)
    {size : UInt64} (hheader : fixedSpan (pre ++ attributes.flatMap Attribute.encode) 0 16 =
      .ok header.octets)
    (hstart : (roundUpWide (nlmsgLength size)).toNat = pre.length)
    (hlen : header.nlmsgLen.toNat =
      pre.length + (attributes.flatMap Attribute.encode).length) :
    parseTlvs (pre ++ attributes.flatMap Attribute.encode) size =
      .ok (attributes.map Attribute.view) := by
  -- `NLMSG_PAYLOAD` counts from where the loop begins
  have hspace : (nlmsgSpace size).toNat = pre.length := hstart
  have htotal : (nlmsgPayload header size).toNat = (attributes.flatMap Attribute.encode).length := by
    have hle : nlmsgSpace size ≤ header.nlmsgLen.toUInt64 := by
      rw [UInt64.le_iff_toNat_le, hspace, UInt32.toNat_toUInt64, hlen]
      exact Nat.le_add_right _ _
    rw [nlmsgPayload, UInt64.toNat_sub_of_le _ _ hle, UInt32.toNat_toUInt64, hspace, hlen,
      Nat.add_sub_cancel_left]
  have hsmall : (attributes.flatMap Attribute.encode).length < 2 ^ 64 := by
    rw [← htotal]
    exact UInt64.toNat_lt _
  have hmany := length_le_encode attributes
  rw [parseTlvs, hheader]
  simp only [ok_bind, Nlmsghdr.ofOctets_octets]
  -- where the loop is, from the attributes before and after it
  let position := fun before after : List Attribute =>
    ((pre ++ before.flatMap Attribute.encode).length,
      UInt64.ofNat (after.flatMap Attribute.encode).length)
  have hfirst : ((roundUpWide (nlmsgLength size)).toNat, nlmsgPayload header size) =
      position [] attributes := by
    refine Prod.ext ?_ ?_
    · rw [hstart]; simp [position]
    · rw [← UInt64.ofNat_toNat (x := nlmsgPayload header size), htotal]
  rw [hfirst]
  refine collect_eq position ?_ ?_ ?_
  · intro before a after hsplit
    have hpacket : pre ++ attributes.flatMap Attribute.encode =
        (pre ++ before.flatMap Attribute.encode) ++ a.encode ++ after.flatMap Attribute.encode := by
      simp [hsplit]
    have hcount : (UInt64.ofNat ((a :: after).flatMap Attribute.encode).length).toNat =
        a.encode.length + (after.flatMap Attribute.encode).length := by
      have hparts := congrArg List.length (congrArg (List.flatMap Attribute.encode) hsplit)
      rw [List.flatMap_append, List.length_append] at hparts
      rw [UInt64.toNat_ofNat', Nat.mod_eq_of_lt (by omega), List.flatMap_cons, List.length_append]
    rw [hpacket, parseTlv_attribute a _ _ (by rw [hcount]; exact Nat.le_add_right _ _), hcount,
      Nat.add_sub_cancel_left]
    simp [position]
  · exact parseTlv_end _ _
  · rw [List.length_append]
    omega

/-! ## Messages -/

namespace Message

variable (m : Message)

theorem encode_length : m.encode.length = m.header.nlmsgLen.toNat := by
  rw [m.len, encode, List.length_append, List.length_append, m.header.octets.toList_length]

/-- Everything in a message is filled up to a multiple of four. -/
theorem encode_length_mod : m.encode.length % 4 = 0 := by
  have hfixed : m.fixedPart.encode.length % 4 = 0 := by
    cases m.fixedPart with
    | link info padding => rw [FixedPart.encode, List.Vector.toList_length]
    | addr info => rw [FixedPart.encode, List.Vector.toList_length]
  have hall := attributes_length_mod m.attributes
  rw [encode, List.length_append, List.length_append, m.header.octets.toList_length]
  omega

theorem fixedSpan_header (rest : Bytes) :
    fixedSpan (m.encode ++ rest) 0 16 = .ok m.header.octets := by
  rw [show m.encode ++ rest = [] ++ m.header.octets.toList ++
    (m.fixedPart.encode ++ m.attributes.flatMap Attribute.encode ++ rest) by simp [encode]]
  exact fixedSpan_append [] _ m.header.octets

theorem parseTlvs_message {size : UInt64}
    (hstart : (roundUpWide (nlmsgLength size)).toNat = 16 + m.fixedPart.encode.length) :
    parseTlvs m.encode size = .ok (m.attributes.map Attribute.view) := by
  have hpre : (m.header.octets.toList ++ m.fixedPart.encode).length =
      16 + m.fixedPart.encode.length := by
    rw [List.length_append, m.header.octets.toList_length]
  have hheader := m.fixedSpan_header []
  rw [List.append_nil] at hheader
  exact parseTlvs_attributes _ _ m.header hheader (by rw [hstart, hpre]) (by rw [m.len, hpre])

theorem parseLinkViewPacket_message {info : Ifinfomsg} {padding : UInt8}
    (h : m.fixedPart = .link info padding) :
    parseLinkViewPacket m.encode = .ok ⟨info, m.attributes.map Attribute.view⟩ := by
  have hfixed : fixedSpan m.encode 16 16 = .ok (info.octets padding) := by
    rw [encode, h]
    exact fixedSpan_append m.header.octets.toList _ (info.octets padding)
  have hstart : (roundUpWide (nlmsgLength 16)).toNat = 16 + m.fixedPart.encode.length := by
    rw [h, FixedPart.encode, List.Vector.toList_length]
    decide
  have hattributes := m.parseTlvs_message hstart
  rw [parseLinkViewPacket, hfixed, hattributes]
  simp only [ok_bind, Ifinfomsg.ofOctets_octets]

theorem parseAddrViewPacket_message {info : Ifaddrmsg} (h : m.fixedPart = .addr info) :
    parseAddrViewPacket m.encode = .ok ⟨info, m.attributes.map Attribute.view⟩ := by
  have hfixed : fixedSpan m.encode 16 8 = .ok info.octets := by
    rw [encode, h]
    exact fixedSpan_append m.header.octets.toList _ info.octets
  have hstart : (roundUpWide (nlmsgLength 8)).toNat = 16 + m.fixedPart.encode.length := by
    rw [h, FixedPart.encode, List.Vector.toList_length]
    decide
  have hattributes := m.parseTlvs_message hstart
  rw [parseAddrViewPacket, hfixed, hattributes]
  simp only [ok_bind, Ifaddrmsg.ofOctets_octets]

/-- **A message is parsed as what it was laid out from.** -/
theorem packetViewParser_message (memory : ℕ → Bytes) :
    packetViewParser memory m.encode = .ok m.view := by
  have hheader := m.fixedSpan_header []
  have htype := m.type
  rw [List.append_nil] at hheader
  rw [packetViewParser, hheader]
  simp only [ok_bind, Nlmsghdr.ofOctets_octets]
  cases hfixed : m.fixedPart with
  | link info padding =>
    rw [hfixed, FixedPart.type] at htype
    rw [if_pos (Or.inr (Or.inl htype)), m.parseLinkViewPacket_message hfixed, view, hfixed]
    rfl
  | addr info =>
    rw [hfixed, FixedPart.type] at htype
    -- an address packet passes the test for link packets first
    have hlink : ¬ (m.header.nlmsgType = rtmGetlink ∨ m.header.nlmsgType = rtmNewlink ∨
        m.header.nlmsgType = rtmDellink) := by
      rw [htype]
      decide
    rw [if_neg hlink, if_pos (Or.inr (Or.inl htype)), m.parseAddrViewPacket_message hfixed, view,
      hfixed]
    rfl

/-- **A message is cut off at its padded length**, and the next one follows. -/
theorem extractMessage_message (rest : Bytes) :
    extractMessageFromBuffer (m.encode ++ rest) = .ok (some (m.encode, rest)) := by
  have hlen := m.encode_length
  have hmod := m.encode_length_mod
  have hsmall := m.header.nlmsgLen.toNat_lt
  have hparts := m.len
  have hread : fixedSpan (m.encode ++ rest) 0 4 = .ok (u32Octets m.header.nlmsgLen) := by
    rw [show m.encode ++ rest = [] ++ (u32Octets m.header.nlmsgLen).toList ++
      ((m.encode ++ rest).drop 4) by rfl]
    exact fixedSpan_append [] _ (u32Octets m.header.nlmsgLen)
  have hvalue : u32Of (u32Octets m.header.nlmsgLen) 0 = m.header.nlmsgLen := u32Of_eq [] [] rfl rfl
  have hok : nlmsgOk (m.encode ++ rest) = .ok true := by
    rw [nlmsgOk, if_neg (by rw [List.length_append]; omega), hread, ok_bind, hvalue]
    have hheader : 16 ≤ m.header.nlmsgLen.toNat := by omega
    simp [hlen, hheader]
  -- nothing is rounded up, since the message is padded
  have halign : (nlmsgAlign m.header.nlmsgLen).toNat = m.encode.length := by
    rw [nlmsgAlign, toNat_roundUp (by omega)]
    omega
  have hspan : subspan (m.encode ++ rest) 0 m.encode.length = .ok m.encode :=
    subspan_append [] m.encode rest
  have hrest : subspanFrom (m.encode ++ rest) m.encode.length = .ok rest := by
    rw [subspanFrom_ok (by rw [List.length_append]; omega), List.drop_left]
  rw [extractMessageFromBuffer, hok]
  simp only [ok_bind, if_true, m.fixedSpan_header, Nlmsghdr.ofOctets_octets, halign, hspan, hrest]

end Message

/-! ## Datagrams -/

theorem length_le_datagram (messages : List Message) :
    messages.length ≤ (messages.flatMap Message.encode).length := by
  induction messages with
  | nil => exact Nat.le_refl 0
  | cons m messages ih =>
    have hlen := m.encode_length
    have hparts := m.len
    rw [List.flatMap_cons, List.length_append, List.length_cons]
    omega

theorem recv_ofKernel (fd : ℕ) (datagram : Bytes) :
    recvNetlinkMessageBatch fd (.ofKernel datagram) = datagram := by
  unfold recvNetlinkMessageBatch
  rw [if_neg (by omega)]
  split
  -- an empty datagram reads like a failed `recv`
  · rename_i hempty
    change (datagram.length : ℤ) ≤ 0 at hempty
    exact (List.eq_nil_of_length_eq_zero (by omega)).symm
  · simp [Received.ofKernel]

/-- **The callback gets exactly the messages of a datagram**, once each and in order, with
their headers, fixed parts and attributes. -/
theorem call_views (memory : ℕ → Bytes) (fd : ℕ) (messages : List Message) :
    NetlinkSocket.call memory true fd (.ofKernel (messages.flatMap Message.encode)) =
      .ok (messages.map Message.view) := by
  have hmany := length_le_datagram messages
  unfold NetlinkSocket.call
  rw [recv_ofKernel]
  -- the remaining bytes are those of the messages not yet handled
  refine collect_eq (fun _ after => after.flatMap Message.encode) ?_ ?_ (Nat.lt_succ_of_le hmany)
  · intro before m after _
    rw [NetlinkSocket.callback, List.flatMap_cons, m.extractMessage_message]
    simp only [ok_bind, m.packetViewParser_message]
  · rfl

/-- One link message with the name `eth0`: five bytes of value, three of padding. -/
example : NetlinkSocket.call (fun _ => []) true 3 (.ofKernel
    [44, 0, 0, 0, 16, 0, 0, 0, 1, 0, 0, 0, 0, 0, 0, 0,
     0, 0, 1, 0, 2, 0, 0, 0, 0x43, 0, 1, 0, 0, 0, 0, 0,
     9, 0, 3, 0, 0x65, 0x74, 0x68, 0x30, 0, 0, 0, 0]) =
    .ok [.link ⟨⟨44, 16, 0, 1, 0⟩, ⟨0, 1, 2, 0x10043, 0⟩,
      [⟨⟨9, 3⟩, [0x65, 0x74, 0x68, 0x30, 0]⟩]⟩] := by
  decide +kernel

end Ndisc.Netlink
