import Ndisc.Lib.Wire

/-!
# LLDP data units (`lldp.hh`, `lldp_packet.cc`)

The type-length-value encoder and parser, and the data unit made of three
mandatory TLVs, any number of optional ones and a terminator. Spans are byte
strings; a span that the source advances by reference is returned.
-/

namespace Ndisc

open Wire

/-! ## Constants -/

def typeBitOffset : ℕ := 9
def typeMask : ℕ := 2 ^ typeBitOffset - 1

namespace TLV

def endOfLldpdu : UInt8 := 0
def chassisId : UInt8 := 1
def portId : UInt8 := 2
def timeToLive : UInt8 := 3
def managementAddress : UInt8 := 8

end TLV

def managementTlvAddressSubtypeIpv4 : UInt8 := 1
def managementTlvAddressSubtypeIpv6 : UInt8 := 2
def managementTlvAddressSubtypeMac : UInt8 := 6
def managementTlvIfSubtypeIfindex : UInt8 := 2
def portTlvSubtypeMac : UInt8 := 0x03
def portTlvSubtypeLocal : UInt8 := 0x07

/-- `END_OF_DATA_UNIT_TLV`. -/
def endOfDataUnitTlv : Bytes := [0x00, 0x00]

/-! ## One TLV -/

/-- A TLV. `lldp::TLV` is an enumeration over `uint8_t` that also holds unnamed values. -/
structure LLDPDUTypeLengthValue where
  type : UInt8
  value : Bytes
  deriving DecidableEq, Repr

namespace LLDPDUTypeLengthValue

def getFrameBufferSize (tlv : LLDPDUTypeLengthValue) : ℕ := 2 + tlv.value.length

/-- The header as the source computes it: a 16-bit length, or-ed with the shifted
type, cut to 16 bits by `htons`. -/
def header (tlv : LLDPDUTypeLengthValue) : ℕ :=
  ((tlv.type.toNat <<< typeBitOffset) ||| (tlv.value.length % 65536)) % 65536

def toFrameBuffer (tlv : LLDPDUTypeLengthValue) (iter : Cursor) : Cursor :=
  (iter.copyTo (be16 tlv.header)).copyTo tlv.value

/-- The TLV at the front of `tlvBytes`, with the span after it. -/
def fromSpan (tlvBytes : Bytes) : Except Fault (Option (LLDPDUTypeLengthValue × Bytes)) :=
  if tlvBytes.length < 2 then .ok none
  else do
    let hi ← byteAt tlvBytes 0
    let lo ← byteAt tlvBytes 1
    let tlvHeader := beValue hi lo
    let length := tlvHeader &&& typeMask
    let type := UInt8.ofNat (tlvHeader >>> typeBitOffset)
    if length + 2 > tlvBytes.length then .ok none
    else do
      let value ← subspan tlvBytes 2 length
      let rest ← subspanFrom tlvBytes (length + 2)
      .ok (some (⟨type, value⟩, rest))

end LLDPDUTypeLengthValue

/-! ## The data unit -/

structure LLDPDataUnit where
  chassisId : LLDPDUTypeLengthValue
  portId : LLDPDUTypeLengthValue
  timeToLive : LLDPDUTypeLengthValue
  optionalTlv : List LLDPDUTypeLengthValue
  deriving DecidableEq, Repr

namespace LLDPDataUnit

def getFrameBufferSize (u : LLDPDataUnit) : ℕ :=
  u.optionalTlv.foldl (fun size tlv => size + tlv.getFrameBufferSize)
    (u.chassisId.getFrameBufferSize + u.portId.getFrameBufferSize + u.timeToLive.getFrameBufferSize) +
    endOfDataUnitTlv.length

def toFrameBuffer (u : LLDPDataUnit) (iter : Cursor) : Cursor :=
  let iter := u.chassisId.toFrameBuffer iter
  let iter := u.portId.toFrameBuffer iter
  let iter := u.timeToLive.toFrameBuffer iter
  let iter := u.optionalTlv.foldl (fun iter tlv => tlv.toFrameBuffer iter) iter
  iter.copyTo endOfDataUnitTlv

/-- The `while` loop over the optional TLVs, at most `fuel` rounds. -/
def otherTlvs : ℕ → Bytes → Except Fault (List LLDPDUTypeLengthValue)
  | 0, _ => .error .outOfFuel
  | fuel + 1, dataUnitBytes => do
    match ← LLDPDUTypeLengthValue.fromSpan dataUnitBytes with
    | none => .ok []
    | some (tlv, rest) =>
      if tlv.type = TLV.endOfLldpdu then .ok []
      else do
        let others ← otherTlvs fuel rest
        .ok (tlv :: others)

/-- Each round of the loop takes two bytes or more, so the length is enough fuel. -/
def fromSpan (dataUnitBytes : Bytes) : Except Fault (Option LLDPDataUnit) := do
  match ← LLDPDUTypeLengthValue.fromSpan dataUnitBytes with
  | none => .ok none
  | some (chassisIdTlv, dataUnitBytes) =>
    if chassisIdTlv.type ≠ TLV.chassisId then .ok none
    else match ← LLDPDUTypeLengthValue.fromSpan dataUnitBytes with
      | none => .ok none
      | some (portIdTlv, dataUnitBytes) =>
        if portIdTlv.type ≠ TLV.portId then .ok none
        else match ← LLDPDUTypeLengthValue.fromSpan dataUnitBytes with
          | none => .ok none
          | some (ttlTlv, dataUnitBytes) =>
            if ttlTlv.type ≠ TLV.timeToLive then .ok none
            else do
              let others ← otherTlvs (dataUnitBytes.length + 1) dataUnitBytes
              .ok (some ⟨chassisIdTlv, portIdTlv, ttlTlv, others⟩)

end LLDPDataUnit

/-! ## The Ethernet frame -/

def arphrdEther : UInt16 := 1

/-- `ether_header`; `etherType` is the 16-bit value in host order. -/
structure EtherHeader where
  etherDhost : Octets 6
  etherShost : Octets 6
  etherType : ℕ
  deriving DecidableEq

def EtherHeader.bytes (h : EtherHeader) : Bytes :=
  h.etherDhost.toList ++ h.etherShost.toList ++ be16 h.etherType

structure LLDPEthernetFrame where
  header : EtherHeader
  dataUnit : LLDPDataUnit
  deriving DecidableEq

namespace LLDPEthernetFrame

def getFrameBufferSize (f : LLDPEthernetFrame) : ℕ := 14 + f.dataUnit.getFrameBufferSize

def toFrameBuffer (f : LLDPEthernetFrame) (iter : Cursor) : Cursor :=
  f.dataUnit.toFrameBuffer (iter.copyTo f.header.bytes)

end LLDPEthernetFrame

end Ndisc
