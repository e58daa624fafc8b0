import Ndisc.Lib.Records
import Ndisc.Spec.Monitor
import Ndisc.Spec.Sender

/-!
# The client protocol (`client.hh`, `client.cc`)

The daemon answers a request with one packet per fact (`dumpData`), and the client
folds the packets into a map (`getData`). Both run on one machine, so a packed record
travels as it lies in memory, little-endian. A copy past the end of a fixed array is a
`CopyFault` of the daemon, a slice past the end of one a `Fault` of the client.
-/

namespace Ndisc

open Wire Records
open Std (ExtTreeMap)

namespace Client

/-! ## Records -/

namespace NeighbourDataType

def endOfData : UInt8 := 0
def chassisEntry : UInt8 := 1
def neighbourEntry : UInt8 := 2
def ipEntry : UInt8 := 3
def ipv6Entry : UInt8 := 4
def localInterfaceEntry : UInt8 := 5

end NeighbourDataType

/-- `DATA_MAX_SIZE` is 512: a record fills it with its fields and one array. -/
abbrev Data := Octets 512

structure ChassisEntry where
  chassisId : UInt16
  nameLength : UInt16
  name : Octets 508
  deriving DecidableEq

structure NeighbourEntry where
  chassisId : UInt16
  neighbourId : UInt16
  portSize : UInt16
  neighbourPort : Octets 506
  deriving DecidableEq

structure IpEntry where
  neighbourId : UInt16
  address : Octets 4
  padding : Octets 506
  deriving DecidableEq

structure Ipv6Entry where
  neighbourId : UInt16
  address : Octets 16
  padding : Octets 494
  deriving DecidableEq

structure LocalInterfaceEntry where
  neighbourId : UInt16
  ifIndex : UInt32
  name : Octets 16
  padding : Octets 490
  deriving DecidableEq

def ChassisEntry.data (e : ChassisEntry) : Data :=
  join (u16Octets e.chassisId) (join (u16Octets e.nameLength) e.name)

def NeighbourEntry.data (e : NeighbourEntry) : Data :=
  join (u16Octets e.chassisId) (join (u16Octets e.neighbourId)
    (join (u16Octets e.portSize) e.neighbourPort))

def IpEntry.data (e : IpEntry) : Data :=
  join (u16Octets e.neighbourId) (join e.address e.padding)

def Ipv6Entry.data (e : Ipv6Entry) : Data :=
  join (u16Octets e.neighbourId) (join e.address e.padding)

def LocalInterfaceEntry.data (e : LocalInterfaceEntry) : Data :=
  join (u16Octets e.neighbourId) (join (u32Octets e.ifIndex) (join e.name e.padding))

/-! `std::bit_cast` from the data of a packet. -/

def ChassisEntry.ofData (d : Data) : ChassisEntry := ⟨u16Of d 0, u16Of d 2, slice d 4 508⟩

def NeighbourEntry.ofData (d : Data) : NeighbourEntry :=
  ⟨u16Of d 0, u16Of d 2, u16Of d 4, slice d 6 506⟩

def IpEntry.ofData (d : Data) : IpEntry := ⟨u16Of d 0, slice d 2 4, slice d 6 506⟩

def Ipv6Entry.ofData (d : Data) : Ipv6Entry := ⟨u16Of d 0, slice d 2 16, slice d 18 494⟩

def LocalInterfaceEntry.ofData (d : Data) : LocalInterfaceEntry :=
  ⟨u16Of d 0, u32Of d 2, slice d 6 16, slice d 22 490⟩

/-! ## Packets -/

structure ClientPacket where
  requestId : UInt16
  type : UInt8
  padding : UInt8
  data : Data
  deriving DecidableEq

namespace ClientPacket

def empty : ClientPacket := ⟨0, NeighbourDataType.endOfData, 0, List.Vector.replicate 512 0⟩

def ofChassisEntry (rid : UInt16) (entry : ChassisEntry) : ClientPacket :=
  { empty with requestId := rid, type := NeighbourDataType.chassisEntry, data := entry.data }

def ofNeighbourEntry (rid : UInt16) (entry : NeighbourEntry) : ClientPacket :=
  { empty with requestId := rid, type := NeighbourDataType.neighbourEntry, data := entry.data }

def ofIpEntry (rid : UInt16) (entry : IpEntry) : ClientPacket :=
  { empty with requestId := rid, type := NeighbourDataType.ipEntry, data := entry.data }

def ofIpv6Entry (rid : UInt16) (entry : Ipv6Entry) : ClientPacket :=
  { empty with requestId := rid, type := NeighbourDataType.ipv6Entry, data := entry.data }

def ofLocalInterfaceEntry (rid : UInt16) (entry : LocalInterfaceEntry) : ClientPacket :=
  { empty with requestId := rid, type := NeighbourDataType.localInterfaceEntry, data := entry.data }

end ClientPacket

/-! ## The daemon's side -/

/-- The array that a copy ran past the end of. -/
inductive CopyFault
  | chassisName
  | neighbourPort
  | interfaceName
  deriving DecidableEq

/-- `std::ranges::copy` to the front of an array of zeros. -/
def copyTo (fault : CopyFault) (n : ℕ) (src : Bytes) : Except CopyFault (Octets n) :=
  match copyFront n src with
  | some array => .ok array
  | none => .error fault

def sendChassisEntryPacket (requestId chassisIdCounter : UInt16) (chassisId : Bytes) :
    Except CopyFault (List ClientPacket) :=
  if chassisId.length > 508 then .ok []
  else do
    let name ← copyTo .chassisName 508 chassisId
    .ok [.ofChassisEntry requestId ⟨chassisIdCounter, UInt16.ofNat chassisId.length, name⟩]

/-- An oversized port is reported, and copied all the same. -/
def sendNeighbourEntry (requestId chassisIdCounter neighbourIdCounter : UInt16) (portId : Bytes) :
    Except CopyFault (List ClientPacket) := do
  let port ← copyTo .neighbourPort 506 portId
  .ok [.ofNeighbourEntry requestId
    ⟨chassisIdCounter, neighbourIdCounter, UInt16.ofNat portId.length, port⟩]

def sendLocalInterfaceEntry (requestId neighbourId : UInt16)
    (deviceInfo : ExtTreeMap UInt32 LldpSender) (neighbour : Ndisc.NeighbourEntry) :
    Except CopyFault (List ClientPacket) :=
  match deviceInfo[neighbour.interfaceIndex.toUInt32]? with
  | none => .ok []
  | some sender =>
    match sender.deviceData.interfaceName with
    | none => .ok []
    | some ifName => do
      let name ← copyTo .interfaceName 16 ifName
      .ok [.ofLocalInterfaceEntry requestId
        ⟨neighbourId, neighbour.interfaceIndex.toUInt32, name, List.Vector.replicate 490 0⟩]

/-- The packets sent so far and the two counters of `DumpData`. -/
structure Dump where
  packets : List ClientPacket
  chassisIdCounter : UInt16
  neighbourIdCounter : UInt16

/-- The body of the inner loop. -/
def dumpNeighbour (requestId : UInt16) (deviceInfo : ExtTreeMap UInt32 LldpSender) (dump : Dump)
    (row : Bytes × Ndisc.NeighbourEntry) : Except CopyFault Dump := do
  let (portId, neighbour) := row
  let entry ← sendNeighbourEntry requestId dump.chassisIdCounter dump.neighbourIdCounter portId
  let localInterface ←
    sendLocalInterfaceEntry requestId dump.neighbourIdCounter deviceInfo neighbour
  let ip := neighbour.ipv4Address.toList.map fun address =>
    .ofIpEntry requestId ⟨dump.neighbourIdCounter, address, List.Vector.replicate 506 0⟩
  let ipv6 := neighbour.ipv6Address.toList.map fun address =>
    .ofIpv6Entry requestId ⟨dump.neighbourIdCounter, address, List.Vector.replicate 494 0⟩
  .ok { dump with
    packets := dump.packets ++ entry ++ localInterface ++ ip ++ ipv6
    neighbourIdCounter := dump.neighbourIdCounter + 1 }

/-- The body of the outer loop. -/
def dumpChassis (requestId : UInt16) (deviceInfo : ExtTreeMap UInt32 LldpSender) (dump : Dump)
    (row : Bytes × ExtTreeMap Bytes Ndisc.NeighbourEntry) : Except CopyFault Dump := do
  let (chassisId, portMap) := row
  let chassis ← sendChassisEntryPacket requestId dump.chassisIdCounter chassisId
  let dump := { dump with packets := dump.packets ++ chassis }
  let dump ← portMap.toList.foldlM (dumpNeighbour requestId deviceInfo) dump
  .ok { dump with chassisIdCounter := dump.chassisIdCounter + 1 }

/-- The packets of `ClientSenderSocket::DumpData`, in the order they are sent. -/
def dumpData (neighbourList : NeighbourList) (deviceInfo : ExtTreeMap UInt32 LldpSender)
    (requestId : UInt16) : Except CopyFault (List ClientPacket) := do
  let dump ← neighbourList.chassisMap.toList.foldlM (dumpChassis requestId deviceInfo) ⟨[], 0, 0⟩
  .ok (dump.packets ++ [.empty])

/-! ## The client's side -/

/-- What a call of `recvmsg` gives: a whole packet, or none. In the second case the
source goes on with the value `errno` has then, also after a datagram that is too short. -/
inductive Recv
  | packet (p : ClientPacket)
  | failed (errno : ℤ)

inductive DataPacket
  | chassisEntry (e : ChassisEntry)
  | neighbourEntry (e : NeighbourEntry)
  | ipEntry (e : IpEntry)
  | ipv6Entry (e : Ipv6Entry)
  | localInterfaceEntry (e : LocalInterfaceEntry)
  | monostate

/-- The packet, or the error number. -/
def readDataPacket : Recv → Except ℤ DataPacket
  | .failed errno => .error errno
  | .packet p =>
    if p.type = NeighbourDataType.endOfData then .ok .monostate
    else if p.type = NeighbourDataType.chassisEntry then .ok (.chassisEntry (.ofData p.data))
    else if p.type = NeighbourDataType.neighbourEntry then .ok (.neighbourEntry (.ofData p.data))
    else if p.type = NeighbourDataType.ipEntry then .ok (.ipEntry (.ofData p.data))
    else if p.type = NeighbourDataType.ipv6Entry then .ok (.ipv6Entry (.ofData p.data))
    else if p.type = NeighbourDataType.localInterfaceEntry then
      .ok (.localInterfaceEntry (.ofData p.data))
    else .error 0

structure NeighbourDeviceData where
  chassis : Bytes
  port : Bytes
  localInterfaceName : Option Bytes
  ipv4Address : Option (Octets 4)
  ipv6Address : Option (Octets 16)
  deriving DecidableEq

def NeighbourDeviceData.empty : NeighbourDeviceData := ⟨[], [], none, none, none⟩

/-- The two maps of `GetData`. -/
structure ClientMaps where
  chassisMap : ExtTreeMap UInt16 Bytes
  neighbourDeviceMap : ExtTreeMap UInt16 NeighbourDeviceData

def ClientMaps.empty : ClientMaps := ⟨∅, ∅⟩

/-- A change of `neighbour_device_map[id]`, which `operator[]` first makes if it is not there. -/
def ClientMaps.modify (m : ClientMaps) (id : UInt16)
    (f : NeighbourDeviceData → NeighbourDeviceData) : ClientMaps :=
  { m with neighbourDeviceMap :=
      m.neighbourDeviceMap.insert id (f ((m.neighbourDeviceMap[id]?).getD .empty)) }

/-- The characters before the first `NUL`, as the constructor of `std::string` reads them. -/
def cString (name : Bytes) : Except Fault Bytes :=
  if 0 ∈ name then .ok (name.takeWhile (· ≠ 0)) else .error .outOfRange

/-- The maps after a packet, and whether to go on. -/
def processDataPacket (m : ClientMaps) : DataPacket → Except Fault (ClientMaps × Bool)
  | .chassisEntry e => do
    let name ← subspan e.name.toList 0 e.nameLength.toNat
    .ok ({ m with chassisMap := m.chassisMap.insert e.chassisId name }, true)
  | .neighbourEntry e => do
    let chassis := (m.chassisMap[e.chassisId]?).getD []
    let port ← subspan e.neighbourPort.toList 0 e.portSize.toNat
    .ok ({
      chassisMap := m.chassisMap.insert e.chassisId chassis
      neighbourDeviceMap :=
        m.neighbourDeviceMap.insert e.neighbourId ⟨chassis, port, none, none, none⟩ }, true)
  | .ipEntry e =>
    .ok (m.modify e.neighbourId fun data => { data with ipv4Address := some e.address }, true)
  | .ipv6Entry e =>
    .ok (m.modify e.neighbourId fun data => { data with ipv6Address := some e.address }, true)
  | .localInterfaceEntry e => do
    let name ← cString e.name.toList
    .ok (m.modify e.neighbourId fun data => { data with localInterfaceName := some name }, true)
  | .monostate => .ok (m, false)

def maxDataTransportPacketAmount : ℕ := 100000

def eagain : ℤ := 11

/-- The loop of `GetData` over what `recvmsg` gives, at most `i` rounds. The result is the
map and what is left to receive; `none` where it waits for more. -/
def getDataLoop : ℕ → ClientMaps → List Recv →
    Except Fault (Option (ExtTreeMap UInt16 NeighbourDeviceData × List Recv))
  | 0, m, rest => .ok (some (m.neighbourDeviceMap, rest))
  | _ + 1, _, [] => .ok none
  | i + 1, m, recv :: rest =>
    match readDataPacket recv with
    | .error errno =>
      if errno = eagain then getDataLoop i m rest else .ok (some (m.neighbourDeviceMap, rest))
    | .ok packet => do
      let (m, goOn) ← processDataPacket m packet
      if goOn then getDataLoop i m rest else .ok (some (m.neighbourDeviceMap, rest))

/-- `ClientReceiverSocket::GetData`. -/
def getData (recvs : List Recv) :
    Except Fault (Option (ExtTreeMap UInt16 NeighbourDeviceData × List Recv)) :=
  getDataLoop maxDataTransportPacketAmount .empty recvs

end Client

end Ndisc
