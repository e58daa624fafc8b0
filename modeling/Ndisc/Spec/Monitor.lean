import Ndisc.Lib.NestedMap
import Ndisc.Spec.Packet

/-!
# The neighbour table (`lldp_monitor.hh`, `lldp_monitor.cc`)

Received frames become entries of a two-level map, and `Tick` ages and removes
them. Every index and slice of a received frame is partial (`Wire.Fault`).
`std::map` is `Std.ExtTreeMap`; `std::vector<std::byte>` keys are compared
lexicographically in both.
-/

namespace Ndisc

open Wire

def afPacket : UInt16 := 17
def ethPLldp : ℕ := 0x88CC
def ethAlen : UInt8 := 6

/-- The link-layer address a frame came from (`sockaddr_ll`). `sllProtocol` is the
two bytes as they lie in memory, in network order. -/
structure SockaddrLl where
  sllFamily : UInt16
  sllProtocol : UInt8 × UInt8
  sllIfindex : ℤ
  sllHatype : UInt16
  sllHalen : UInt8
  deriving DecidableEq

/-- `ndisc::NeighbourEntry`. -/
structure NeighbourEntry where
  chassisId : Bytes
  portId : Bytes
  interfaceIndex : UInt16
  timeToLive : UInt16
  ipv4Address : Option (Octets 4)
  ipv6Address : Option (Octets 16)
  deriving DecidableEq

structure NeighbourList where
  chassisMap : NestedMap.Nested Bytes Bytes NeighbourEntry

namespace NeighbourList

def empty : NeighbourList := ⟨∅⟩

/-- The entry stored for a chassis and a port. -/
def lookup (nl : NeighbourList) (chassis port : Bytes) : Option NeighbourEntry :=
  NestedMap.lookup nl.chassisMap chassis port

end NeighbourList

/-! ## From a data unit to an entry -/

/-- The `std::variant` of the three kinds of address a management TLV can carry. -/
inductive ManagementString
  | ipv4 (addr : Octets 4)
  | ipv6 (addr : Octets 16)
  | mac (addr : Octets 6)
  deriving DecidableEq

def managementTlvGetManagementString (managementTlvValue : Bytes) :
    Except Fault (Option ManagementString) :=
  if managementTlvValue.isEmpty then .ok none
  else do
    let length := (← byteAt managementTlvValue 0).toNat
    if length = 0 ∨ managementTlvValue.length < 1 + length then .ok none
    else do
      let stringSubtype ← byteAt managementTlvValue 1
      if stringSubtype = managementTlvAddressSubtypeIpv4 then
        if length ≠ 1 + 4 then .ok none
        else do
          let addr ← fixedSpan managementTlvValue 2 4
          .ok (some (.ipv4 addr))
      else if stringSubtype = managementTlvAddressSubtypeIpv6 then
        if length ≠ 1 + 16 then .ok none
        else do
          let addr ← fixedSpan managementTlvValue 2 16
          .ok (some (.ipv6 addr))
      else if stringSubtype = managementTlvAddressSubtypeMac then
        if length ≠ 1 + 6 then .ok none
        else do
          let addr ← fixedSpan managementTlvValue 2 6
          .ok (some (.mac addr))
      else .ok none

/-- The addresses collected so far by the loop of `lldpduToNeighbourEntry`. -/
structure Addresses where
  ipv4Address : Option (Octets 4)
  ipv6Address : Option (Octets 16)
  deriving DecidableEq

/-- The body of that loop. -/
def Addresses.collect (a : Addresses) (tlv : LLDPDUTypeLengthValue) : Except Fault Addresses :=
  if tlv.type = TLV.managementAddress then do
    match ← managementTlvGetManagementString tlv.value with
    | some (.ipv4 addr) => .ok { a with ipv4Address := some addr }
    | some (.ipv6 addr) => .ok { a with ipv6Address := some addr }
    | _ => .ok a
  else .ok a

def lldpduToNeighbourEntry (lldpdu : LLDPDataUnit) (ifIndex : UInt16) :
    Except Fault NeighbourEntry := do
  let hi ← byteAt lldpdu.timeToLive.value 0
  let lo ← byteAt lldpdu.timeToLive.value 1
  let addresses ← lldpdu.optionalTlv.foldlM Addresses.collect ⟨none, none⟩
  .ok {
    chassisId := lldpdu.chassisId.value
    portId := lldpdu.portId.value
    interfaceIndex := ifIndex
    timeToLive := UInt16.ofNat (beValue hi lo)
    ipv4Address := addresses.ipv4Address
    ipv6Address := addresses.ipv6Address }

/-! ## Receiving a frame -/

/-- The four checks on the link-layer address. -/
def SockaddrLl.accepted (address : SockaddrLl) : Bool :=
  address.sllFamily == afPacket &&
    beValue address.sllProtocol.1 address.sllProtocol.2 == ethPLldp &&
    address.sllHatype == arphrdEther && address.sllHalen == ethAlen

/-- `int` to `uint16_t`, as the call of `lldpduToNeighbourEntry` converts the index. -/
def narrowIfindex (i : ℤ) : UInt16 := UInt16.ofNat (i % 65536).toNat

/-- `chassis_map[entry.chassis_id][entry.port_id] = entry`. -/
def NeighbourList.store (nl : NeighbourList) (entry : NeighbourEntry) : NeighbourList :=
  ⟨NestedMap.assign nl.chassisMap entry.chassisId entry.portId entry⟩

def lldpFrameParser (neighbourList : NeighbourList) (address : SockaddrLl) (frame : Bytes) :
    Except Fault NeighbourList :=
  if !address.accepted then .ok neighbourList
  else do
    match ← LLDPDataUnit.fromSpan frame with
    | none => .ok neighbourList
    | some dataUnit => do
      let entry ← lldpduToNeighbourEntry dataUnit (narrowIfindex address.sllIfindex)
      .ok (neighbourList.store entry)

/-! ## The clock -/

/-- The test of `NeighbourList::Tick`: a `uint16_t` against a `uint64_t`. -/
def NeighbourEntry.outlives (entry : NeighbourEntry) (deltaSeconds : UInt64) : Bool :=
  decide (entry.timeToLive.toUInt64 > deltaSeconds)

def NeighbourEntry.age (deltaSeconds : UInt64) (entry : NeighbourEntry) : NeighbourEntry :=
  if entry.outlives deltaSeconds then
    { entry with timeToLive := (entry.timeToLive.toUInt64 - deltaSeconds).toUInt16 }
  else { entry with timeToLive := 0 }

namespace NeighbourList

/-- What the first loop of `Tick` queues for removal. -/
def timedOutEntries (nl : NeighbourList) (deltaSeconds : UInt64) : List (Bytes × Bytes) :=
  nl.chassisMap.toList.flatMap fun (chassis, portMap) =>
    portMap.toList.filterMap fun (port, entry) =>
      if entry.outlives deltaSeconds then none else some (chassis, port)

/-- The second loop removes what the first one queued, a chassis with its last port. -/
def tick (nl : NeighbourList) (deltaSeconds : UInt64) : NeighbourList :=
  ⟨(nl.timedOutEntries deltaSeconds).foldl NestedMap.prune
    (NestedMap.mapValues (NeighbourEntry.age deltaSeconds) nl.chassisMap)⟩

end NeighbourList

/-! ## Runs -/

/-- The two calls the event loop makes on the table. -/
inductive TableOp
  | frame (address : SockaddrLl) (frame : Bytes)
  | tick (deltaSeconds : UInt64)

namespace NeighbourList

def step (nl : NeighbourList) : TableOp → Except Fault NeighbourList
  | .frame address frame => lldpFrameParser nl address frame
  | .tick deltaSeconds => .ok (nl.tick deltaSeconds)

/-- The table after a list of calls, from the empty one. -/
def run (ops : List TableOp) : Except Fault NeighbourList := ops.foldlM step empty

end NeighbourList

end Ndisc
