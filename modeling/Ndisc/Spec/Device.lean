import Ndisc.Lib.Upsert
import Ndisc.Spec.Netlink
import Ndisc.Spec.Sender

/-!
# The devices (`device_repository.cc`, `device_reader.cc`, `ip_reader.cc`)

A resync is a dump of all links, read by `DeviceReader`, and then one of all
addresses, read by `IpReader`; after the second the map of devices goes to the
synchronisation callback. Ticks, packets and the outcomes of `send` are the
events; `World` adds what the callback was given.
-/

namespace Ndisc

open Wire Netlink Upsert
open Std (ExtTreeMap)

/-- `static_cast<int>` of a `uint64_t`. -/
def narrowInt (n : UInt64) : ℤ := Int.bmod n.toNat (2 ^ 32)

/-! ## The two readers -/

/-- What both readers hold. `sequenceNumber` is that of the socket, where it only ever
counts up. -/
structure DumpReader where
  sequenceNumber : ℕ
  dumpRequestSequenceNumber : Option UInt32
  dumpReadTimeout : ℤ
  deriving DecidableEq

/-- The callback that a reader calls, if it calls one. -/
inductive ReaderCallback (View : Type)
  | update (view : View)
  | endOfDump
  | dumpErrored

namespace DumpReader

def create : DumpReader := ⟨1, none, -1⟩

def resetDumpAttempt (r : DumpReader) : DumpReader :=
  { r with dumpReadTimeout := -1, dumpRequestSequenceNumber := none }

/-- Whether the dump timed out comes second. -/
def tick (r : DumpReader) (deltaSeconds : UInt64) : DumpReader × Bool :=
  if r.dumpRequestSequenceNumber.isSome then
    if r.dumpReadTimeout > narrowInt deltaSeconds then
      ({ r with dumpReadTimeout := r.dumpReadTimeout - narrowInt deltaSeconds }, false)
    else (r.resetDumpAttempt, true)
  else (r, false)

/-- A request that could not be sent has taken its sequence number, and leaves the one
that is outstanding. -/
def triggerDump (timeout : ℤ) (r : DumpReader) (sent : Bool) : DumpReader where
  sequenceNumber := r.sequenceNumber + 1
  dumpRequestSequenceNumber :=
    if sent then some (UInt32.ofNat (r.sequenceNumber + 1)) else r.dumpRequestSequenceNumber
  dumpReadTimeout := timeout

def handleNetlinkPacket {View : Type} (getIf : NetlinkPacketView → Option View) (r : DumpReader)
    (packet : NetlinkPacketView) : DumpReader × Option (ReaderCallback View) :=
  if r.dumpRequestSequenceNumber = some packet.header.nlmsgSeq then
    match getIf packet, packet with
    | some view, _ => (r, some (.update view))
    | none, .done _ => (r.resetDumpAttempt, some .endOfDump)
    | none, .error _ => (r.resetDumpAttempt, some .dumpErrored)
    | none, _ => (r, none)
  else (r, none)

end DumpReader

abbrev DeviceReader := DumpReader

namespace DeviceReader

def dumpReadTimeout : ℤ := 5

def tick (r : DeviceReader) (deltaSeconds : UInt64) : DeviceReader × Bool :=
  DumpReader.tick r deltaSeconds

def triggerDump (r : DeviceReader) (sent : Bool) : DeviceReader :=
  DumpReader.triggerDump dumpReadTimeout r sent

def linkView : NetlinkPacketView → Option LinkView
  | .link view => some view
  | _ => none

def handleNetlinkPacket (r : DeviceReader) (packet : NetlinkPacketView) :
    DeviceReader × Option (ReaderCallback LinkView) :=
  DumpReader.handleNetlinkPacket linkView r packet

end DeviceReader

abbrev IpReader := DumpReader

namespace IpReader

def dumpReadTimeout : ℤ := 5

def tick (r : IpReader) (deltaSeconds : UInt64) : IpReader × Bool :=
  DumpReader.tick r deltaSeconds

def triggerDump (r : IpReader) (sent : Bool) : IpReader :=
  DumpReader.triggerDump dumpReadTimeout r sent

def addrView : NetlinkPacketView → Option AddrView
  | .addr view => some view
  | _ => none

def handleNetlinkPacket (r : IpReader) (packet : NetlinkPacketView) :
    IpReader × Option (ReaderCallback AddrView) :=
  DumpReader.handleNetlinkPacket addrView r packet

end IpReader

/-! ## The map of devices -/

def iffUp : UInt32 := 0x1
def iffLowerUp : UInt32 := 0x10000
def iflaAddress : UInt16 := 1
def iflaIfname : UInt16 := 3
def ifaAddress : UInt16 := 1
def afInet : UInt8 := 2
def afInet6 : UInt8 := 10
def ifaFSecondary : UInt8 := 0x01

abbrev Devices := ExtTreeMap UInt32 DeviceData

/-- `DeviceData` as it is default-initialised. -/
def DeviceData.empty : DeviceData := ⟨none, none, none, none, false, 0⟩

/-- A name without the `NUL` at its end. -/
def dropNul (name : Bytes) : Bytes := if name.getLast? = some 0 then name.dropLast else name

/-- The body of the loop of `HandleLinkPacket`. -/
def handleLinkAttribute (device : DeviceData) (tlv : TLVView) : DeviceData :=
  if tlv.attributeHeader.rtaType = iflaIfname ∧ tlv.value.length > 1 then
    { device with interfaceName := some (dropNul tlv.value) }
  else if tlv.attributeHeader.rtaType = iflaAddress then
    if h : tlv.value.length = 6 then { device with macAddress := some ⟨tlv.value, h⟩ } else device
  else device

/-- What an Ethernet link does to its device. -/
def linkChange (link : LinkView) (device : DeviceData) : DeviceData :=
  link.content.attributes.foldl handleLinkAttribute { device with
    ifIndex := link.content.interfaceInfo.ifiIndex.toUInt32
    deviceOperational := link.content.interfaceInfo.ifiFlags &&& iffUp != 0 &&
      link.content.interfaceInfo.ifiFlags &&& iffLowerUp != 0 }

/-- The body of the loop of `HandleAddressPacket`. -/
def handleAddressAttribute (family : UInt8) (device : DeviceData) (tlv : TLVView) : DeviceData :=
  if tlv.attributeHeader.rtaType = ifaAddress then
    if h : family = afInet ∧ tlv.value.length = 4 then
      { device with ipv4Address := some ⟨tlv.value, h.2⟩ }
    else if h : family = afInet6 ∧ tlv.value.length = 16 then
      { device with ipv6Address := some ⟨tlv.value, h.2⟩ }
    else device
  else device

/-- What an address that is not ignored does to its device. -/
def addressChange (address : AddrView) (device : DeviceData) : DeviceData :=
  address.content.attributes.foldl (handleAddressAttribute address.content.addressInfo.ifaFamily)
    { device with ifIndex := address.content.addressInfo.ifaIndex }

namespace Devices

/-- `DeviceRepository::HandleLinkPacket`. The index is an `int`, the key an `unsigned int`. -/
def handleLinkPacket (devices : Devices) (link : LinkView) : Devices :=
  if link.header.nlmsgType ≠ rtmNewlink ∨ link.content.interfaceInfo.ifiType ≠ arphrdEther then devices
  else upsert .empty devices link.content.interfaceInfo.ifiIndex.toUInt32 (linkChange link)

/-- `DeviceRepository::HandleAddressPacket`. -/
def handleAddressPacket (devices : Devices) (address : AddrView) : Devices :=
  if address.header.nlmsgType = rtmNewaddr then
    if address.content.addressInfo.ifaFamily ≠ afInet ∧
      address.content.addressInfo.ifaFamily ≠ afInet6 then devices
    else if address.content.addressInfo.ifaFlags &&& ifaFSecondary ≠ 0 then devices
    else upsert .empty devices address.content.addressInfo.ifaIndex (addressChange address)
  else devices

end Devices

/-! ## The repository -/

structure DeviceRepository where
  syncTimeout : ℤ
  deviceReader : DeviceReader
  ipReader : IpReader
  devices : Devices
  /-- Whether `synchronization_callback_` is set. -/
  synchronizationCallback : Bool

namespace DeviceRepository

def syncPeriod : ℤ := 120
def expediteTimeout : ℤ := 2

def create : DeviceRepository := ⟨-1, .create, .create, ∅, false⟩

def scheduleResync (r : DeviceRepository) : DeviceRepository := { r with syncTimeout := syncPeriod }

def scheduleExpediteResync (r : DeviceRepository) : DeviceRepository :=
  { r with syncTimeout := expediteTimeout }

def requestDeviceDump (r : DeviceRepository) (sent : Bool) : DeviceRepository :=
  { r with deviceReader := r.deviceReader.triggerDump sent }

def requestIpDump (r : DeviceRepository) (sent : Bool) : DeviceRepository :=
  { r with ipReader := r.ipReader.triggerDump sent }

def deviceReaderFinished (r : DeviceRepository) (sent : Bool) : DeviceRepository := r.requestIpDump sent

def deviceReaderErrored (r : DeviceRepository) : DeviceRepository := r.scheduleExpediteResync

/-- The map that the synchronisation callback is given, if it is set. -/
def ipReaderFinished (r : DeviceRepository) : Option Devices :=
  if r.synchronizationCallback then some r.devices else none

def ipReaderErrored (r : DeviceRepository) : DeviceRepository := r.scheduleExpediteResync

/-- `sent` is the outcome of the request that the tick makes, if it makes one. -/
def tick (r : DeviceRepository) (deltaSeconds : UInt64) (sent : Bool) : DeviceRepository :=
  let (deviceReader, errored) := r.deviceReader.tick deltaSeconds
  let r := { r with deviceReader := deviceReader }
  let r := if errored then r.deviceReaderErrored else r
  let (ipReader, errored) := r.ipReader.tick deltaSeconds
  let r := { r with ipReader := ipReader }
  let r := if errored then r.ipReaderErrored else r
  if r.syncTimeout > narrowInt deltaSeconds then
    { r with syncTimeout := r.syncTimeout - narrowInt deltaSeconds }
  else (({ r with syncTimeout := 0 }).requestDeviceDump sent).scheduleResync

def handleMonitorPackets (r : DeviceRepository) : DeviceRepository := r.scheduleExpediteResync

def handleLinkPacket (r : DeviceRepository) (link : LinkView) : DeviceRepository :=
  { r with devices := r.devices.handleLinkPacket link }

def handleAddressPacket (r : DeviceRepository) (address : AddrView) : DeviceRepository :=
  { r with devices := r.devices.handleAddressPacket address }

/-- A packet for the device reader. `sent` is the outcome of the address request that the
end of a dump makes. -/
def deviceReaderPacket (r : DeviceRepository) (packet : NetlinkPacketView) (sent : Bool) :
    DeviceRepository :=
  let (deviceReader, callback) := DeviceReader.handleNetlinkPacket r.deviceReader packet
  let r := { r with deviceReader := deviceReader }
  match callback with
  | some (.update link) => r.handleLinkPacket link
  | some .endOfDump => r.deviceReaderFinished sent
  | some .dumpErrored => r.deviceReaderErrored
  | none => r

/-- A packet for the address reader, and what the synchronisation callback is given. -/
def ipReaderPacket (r : DeviceRepository) (packet : NetlinkPacketView) :
    DeviceRepository × Option Devices :=
  let (ipReader, callback) := IpReader.handleNetlinkPacket r.ipReader packet
  let r := { r with ipReader := ipReader }
  match callback with
  | some (.update address) => (r.handleAddressPacket address, none)
  | some .endOfDump => (r, r.ipReaderFinished)
  | some .dumpErrored => (r.ipReaderErrored, none)
  | none => (r, none)

end DeviceRepository

/-! ## Runs -/

inductive DeviceEvent
  | tick (deltaSeconds : UInt64) (sent : Bool)
  | monitorPacket (packet : NetlinkPacketView)
  | linkPacket (packet : NetlinkPacketView) (sent : Bool)
  | addrPacket (packet : NetlinkPacketView)
  | setSyncCallback
  | clearSyncCallback

/-- The repository, and what its callback has been given, in order. -/
structure World where
  repository : DeviceRepository
  synchronized : List Devices

namespace World

def init : World := ⟨.create, []⟩

def step (w : World) : DeviceEvent → World
  | .tick deltaSeconds sent => { w with repository := w.repository.tick deltaSeconds sent }
  | .monitorPacket _ => { w with repository := w.repository.handleMonitorPackets }
  | .linkPacket packet sent => { w with repository := w.repository.deviceReaderPacket packet sent }
  | .addrPacket packet =>
    let (repository, handed) := w.repository.ipReaderPacket packet
    ⟨repository, w.synchronized ++ handed.toList⟩
  | .setSyncCallback => { w with repository.synchronizationCallback := true }
  | .clearSyncCallback => { w with repository.synchronizationCallback := false }

end World

end Ndisc
