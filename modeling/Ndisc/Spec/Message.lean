import Ndisc.Spec.Parser

/-!
# Well-formed rtnetlink messages

What the kernel lays out in a datagram: a header, the fixed part of its type, and
attributes that are filled up to a multiple of four bytes.
-/

namespace Ndisc.Netlink

open Wire Records

def Nlmsghdr.octets (header : Nlmsghdr) : Octets 16 :=
  join (u32Octets header.nlmsgLen) (join (u16Octets header.nlmsgType)
    (join (u16Octets header.nlmsgFlags) (join (u32Octets header.nlmsgSeq)
      (u32Octets header.nlmsgPid))))

def Rtattr.octets (header : Rtattr) : Octets 4 :=
  join (u16Octets header.rtaLen) (u16Octets header.rtaType)

def Ifinfomsg.octets (info : Ifinfomsg) (padding : UInt8) : Octets 16 :=
  join (⟨[info.ifiFamily, padding], rfl⟩ : Octets 2) (join (u16Octets info.ifiType)
    (join (u32Octets info.ifiIndex.toUInt32) (join (u32Octets info.ifiFlags)
      (u32Octets info.ifiChange))))

def Ifaddrmsg.octets (info : Ifaddrmsg) : Octets 8 :=
  join (⟨[info.ifaFamily, info.ifaPrefixlen, info.ifaFlags, info.ifaScope], rfl⟩ : Octets 4)
    (u32Octets info.ifaIndex)

/-- An attribute, and the bytes that fill it up. Its length does not count them. -/
structure Attribute where
  rtaType : UInt16
  value : Bytes
  padding : Bytes
  fits : 4 + value.length ≤ 65535
  filled : (value.length + padding.length) % 4 = 0
  short : padding.length < 4

namespace Attribute

def header (a : Attribute) : Rtattr := ⟨UInt16.ofNat (4 + a.value.length), a.rtaType⟩

def encode (a : Attribute) : Bytes := a.header.octets.toList ++ a.value ++ a.padding

def view (a : Attribute) : TLVView := ⟨a.header, a.value⟩

end Attribute

/-- The fixed part of a link or an address message, with the byte of padding that the
first one has. -/
inductive FixedPart
  | link (interfaceInfo : Ifinfomsg) (padding : UInt8)
  | addr (addressInfo : Ifaddrmsg)

namespace FixedPart

def type : FixedPart → UInt16
  | .link _ _ => rtmNewlink
  | .addr _ => rtmNewaddr

def encode : FixedPart → Bytes
  | .link interfaceInfo padding => (interfaceInfo.octets padding).toList
  | .addr addressInfo => addressInfo.octets.toList

end FixedPart

/-- A message, whose header tells its type and its length with all padding. -/
structure Message where
  header : Nlmsghdr
  fixedPart : FixedPart
  attributes : List Attribute
  type : header.nlmsgType = fixedPart.type
  len : header.nlmsgLen.toNat =
    16 + fixedPart.encode.length + (attributes.flatMap Attribute.encode).length

namespace Message

def encode (m : Message) : Bytes :=
  m.header.octets.toList ++ m.fixedPart.encode ++ m.attributes.flatMap Attribute.encode

def view (m : Message) : NetlinkPacketView :=
  match m.fixedPart with
  | .link interfaceInfo _ => .link ⟨m.header, interfaceInfo, m.attributes.map Attribute.view⟩
  | .addr addressInfo => .addr ⟨m.header, addressInfo, m.attributes.map Attribute.view⟩

end Message

/-- A datagram of the kernel, which both calls of `recvmsg` read. -/
def Received.ofKernel (datagram : Bytes) : Received := ⟨datagram.length, some datagram, kernelPid⟩

end Ndisc.Netlink
