import Ndisc.Lib.Records
import Ndisc.Spec.Netlink

/-!
# Parsing the kernel's messages (`netlink_monitor.cc`)

`NetlinkSocket::Call` reads a datagram, cuts it into messages and hands the view of each to
its callback. The macros are those of `linux/netlink.h` and `linux/rtnetlink.h`, each at
the width of its arguments. A read outside of a span is a `Fault`.
-/

namespace Ndisc.Netlink

open Wire Records

def kernelPid : UInt32 := 0
def nlmFCapped : UInt16 := 0x100

/-! ## The structures in memory -/

def Nlmsghdr.ofOctets (d : Octets 16) : Nlmsghdr :=
  ⟨u32Of d 0, u16Of d 4, u16Of d 6, u32Of d 8, u32Of d 12⟩

def Rtattr.ofOctets (d : Octets 4) : Rtattr := ⟨u16Of d 0, u16Of d 2⟩

/-- Byte 1 is padding. -/
def Ifinfomsg.ofOctets (d : Octets 16) : Ifinfomsg :=
  ⟨u8Of d 0, u16Of d 2, (u32Of d 4).toInt32, u32Of d 8, u32Of d 12⟩

def Ifaddrmsg.ofOctets (d : Octets 8) : Ifaddrmsg :=
  ⟨u8Of d 0, u8Of d 1, u8Of d 2, u8Of d 3, u32Of d 4⟩

def Nlmsgerr.ofOctets (d : Octets 20) : Nlmsgerr :=
  ⟨(u32Of d 0).toInt32, .ofOctets (slice d 4 16)⟩

/-! ## The macros -/

/-- `NLMSG_ALIGN` and `RTA_ALIGN` of a 32-bit length. -/
def nlmsgAlign (len : UInt32) : UInt32 := roundUp len

def rtaAlign (len : UInt32) : UInt32 := roundUp len

/-- `NLMSG_LENGTH` of a `size_t`. -/
def nlmsgLength (len : UInt64) : UInt64 := len + 16

def nlmsgSpace (len : UInt64) : UInt64 := roundUpWide (nlmsgLength len)

/-- `NLMSG_PAYLOAD(header, len)` for a `size_t`. -/
def nlmsgPayload (header : Nlmsghdr) (len : UInt64) : UInt64 :=
  header.nlmsgLen.toUInt64 - nlmsgSpace len

/-- `NLMSG_PAYLOAD(header, 0)`, which is an `unsigned int`. -/
def nlmsgPayloadZero (header : Nlmsghdr) : UInt32 := header.nlmsgLen - 16

/-- `RTA_OK`: the length of an attribute is read only where a header fits. -/
def rtaOk (packet : Bytes) (rta : ℕ) (len : UInt64) : Except Fault Bool :=
  if len < 4 then .ok false
  else do
    let rtaLen ← fixedSpan packet rta 2
    .ok (4 ≤ (u16Of rtaLen 0).toNat && (u16Of rtaLen 0).toUInt64 ≤ len)

/-- `NLMSG_OK`: the length of a message is read only where a header fits. -/
def nlmsgOk (data : Bytes) : Except Fault Bool :=
  if data.length < 16 then .ok false
  else do
    let nlmsgLen ← fixedSpan data 0 4
    .ok (16 ≤ (u32Of nlmsgLen 0).toNat && (u32Of nlmsgLen 0).toNat ≤ data.length)

/-! ## Attributes -/

/-- One round of the loop of `parseTlvs`, at the pointer `rta` with `remaining_bytes`. -/
def parseTlv (packet : Bytes) : ℕ × UInt64 → Except Fault (Option (TLVView × (ℕ × UInt64)))
  | (rta, remainingBytes) => do
    if ← rtaOk packet rta remainingBytes then
      let attributeHeader := Rtattr.ofOctets (← fixedSpan packet rta 4)
      let value ← subspan packet (rta + 4) (attributeHeader.rtaLen.toNat - 4)
      let next := rtaAlign attributeHeader.rtaLen.toUInt32
      .ok (some (⟨attributeHeader, value⟩, rta + next.toNat, remainingBytes - next.toUInt64))
    else .ok none

/-- A round of the loop takes at least a header, so the length is enough fuel. -/
def parseTlvs (packet : Bytes) (messagePayloadSize : UInt64) : Except Fault (List TLVView) := do
  let tlvOffset := roundUpWide (nlmsgLength messagePayloadSize)
  let header := Nlmsghdr.ofOctets (← fixedSpan packet 0 16)
  let remainingBytes := nlmsgPayload header messagePayloadSize
  collect (parseTlv packet) (packet.length + 1) (tlvOffset.toNat, remainingBytes)

/-! ## Messages -/

def parseLinkViewPacket (packet : Bytes) : Except Fault LinkContentView := do
  let interfaceData := Ifinfomsg.ofOctets (← fixedSpan packet 16 16)
  let attributes ← parseTlvs packet 16
  .ok ⟨interfaceData, attributes⟩

def parseAddrViewPacket (packet : Bytes) : Except Fault AddrContentView := do
  let addressInfo := Ifaddrmsg.ofOctets (← fixedSpan packet 16 8)
  let attributes ← parseTlvs packet 8
  .ok ⟨addressInfo, attributes⟩

/-- The span of the original message starts where the local copy `error_payload` ends, so
it shows what is in memory there. -/
def parseErrorViewPacket (memory : ℕ → Bytes) (header : Nlmsghdr) (packet : Bytes) :
    Except Fault ErrorView := do
  let errorPayload := Nlmsgerr.ofOctets (← fixedSpan packet 16 20)
  if header.nlmsgFlags &&& nlmFCapped = 0 then
    let originalMessagePayloadSize := (nlmsgPayloadZero errorPayload.msg).toUInt64
    let attributes ← parseTlvs packet (20 + originalMessagePayloadSize)
    .ok ⟨header, errorPayload, some (memory originalMessagePayloadSize.toNat), attributes⟩
  else
    let attributes ← parseTlvs packet 20
    .ok ⟨header, errorPayload, none, attributes⟩

def packetViewParser (memory : ℕ → Bytes) (packet : Bytes) : Except Fault NetlinkPacketView := do
  let header := Nlmsghdr.ofOctets (← fixedSpan packet 0 16)
  let type := header.nlmsgType
  if type = rtmGetlink ∨ type = rtmNewlink ∨ type = rtmDellink then
    let content ← parseLinkViewPacket packet
    .ok (.link ⟨header, content⟩)
  else if type = rtmGetaddr ∨ type = rtmNewaddr ∨ type = rtmDeladdr then
    let content ← parseAddrViewPacket packet
    .ok (.addr ⟨header, content⟩)
  else if type = nlmsgDone then
    let error ← fixedSpan packet 16 4
    .ok (.done ⟨header, (u32Of error 0).toInt32⟩)
  else if type = nlmsgError then
    let view ← parseErrorViewPacket memory header packet
    .ok (.error view)
  else
    let payload ← subspan packet 16 (nlmsgPayloadZero header).toNat
    .ok (.message ⟨header, payload⟩)

/-! ## Datagrams -/

/-- The next message, and the data after it. -/
def extractMessageFromBuffer (remainingData : Bytes) : Except Fault (Option (Bytes × Bytes)) := do
  if ← nlmsgOk remainingData then
    let header := Nlmsghdr.ofOctets (← fixedSpan remainingData 0 16)
    let nextMessageSize := (nlmsgAlign header.nlmsgLen).toNat
    let messageSpan ← subspan remainingData 0 nextMessageSize
    let remainingData ← subspanFrom remainingData nextMessageSize
    .ok (some (messageSpan, remainingData))
  else .ok none

/-- What the two calls of `recvmsg` give: the length of the datagram, its bytes (`none` if
the call fails) and the sender's `nl_pid`. -/
structure Received where
  peekDataLength : ℤ
  data : Option Bytes
  nlPid : UInt32

/-- The datagram that is read, or an empty buffer. -/
def recvNetlinkMessageBatch (socketFd : ℤ) (received : Received) : Bytes :=
  if socketFd < 0 then []
  else if received.peekDataLength ≤ 0 then []
  else
    match received.data with
    | none => []
    | some data =>
      if (data.length : ℤ) ≠ received.peekDataLength then []
      else if received.nlPid ≠ kernelPid then []
      else data

namespace NetlinkSocket

/-- One round of the loop of `Call`: the view for the callback, and the data that remain. -/
def callback (memory : ℕ → Bytes) (remainingData : Bytes) :
    Except Fault (Option (NetlinkPacketView × Bytes)) := do
  match ← extractMessageFromBuffer remainingData with
  | none => .ok none
  | some (packet, remainingData) =>
    let view ← packetViewParser memory packet
    .ok (some (view, remainingData))

/-- `NetlinkSocket::Call`, as the views that it hands to the callback. -/
def call (memory : ℕ → Bytes) (hasCallback : Bool) (socketFd : ℤ) (received : Received) :
    Except Fault (List NetlinkPacketView) :=
  if !hasCallback then .ok []
  else
    let dataBuffer := recvNetlinkMessageBatch socketFd received
    collect (callback memory) (dataBuffer.length + 1) dataBuffer

end NetlinkSocket

end Ndisc.Netlink
