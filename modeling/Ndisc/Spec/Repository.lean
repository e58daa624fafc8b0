import Ndisc.Spec.Device

/-!
# The senders of all interfaces (`lldp_repository.cc`)

`LldpRepository` keeps one sender for each interface that the last synchronisation knew,
and drives the device repository. All senders share the socket and the statics.
-/

namespace Ndisc

open Wire Netlink
open Std (ExtTreeMap)

structure LldpRepository where
  currentState : ExtTreeMap UInt32 LldpSender
  deviceRepository : DeviceRepository
  io : Io

namespace LldpRepository

variable (env : Env)

/-- Its constructor sets the synchronisation callback. -/
def create : LldpRepository := ⟨∅, { DeviceRepository.create with synchronizationCallback := true }, .init⟩

/-- A call on `current_state_.at(idx)`, where there is one. -/
def atSender (idx : UInt32) (call : Endpoint → Endpoint) (r : LldpRepository) : LldpRepository :=
  match r.currentState[idx]? with
  | some sender =>
    let p := call ⟨sender, r.io⟩
    { r with currentState := r.currentState.insert idx p.sender, io := p.io }
  | none => r

def markChangedLldpStateMachine (idx : UInt32) (r : LldpRepository) : LldpRepository :=
  r.atSender idx (Endpoint.localChangeDetected env)

def deleteLldpStateMachine (idx : UInt32) (r : LldpRepository) : LldpRepository :=
  if r.currentState.contains idx then
    let r := r.atSender idx (Endpoint.endTransmission env)
    { r with currentState := r.currentState.erase idx }
  else r

def createLldpStateMachine (idx : UInt32) (r : LldpRepository) : LldpRepository :=
  r.atSender idx (Endpoint.newNeighbour env)

/-- `current_state_.emplace` of a new sender. -/
def emplaceSender (index : UInt32) (deviceData : DeviceData) (r : LldpRepository) : LldpRepository :=
  let p := Endpoint.create env deviceData r.io
  { r with currentState := r.currentState.insert index p.sender, io := p.io }

/-- The body of the first loop of `UpdateState`. -/
def updateDevice (r : LldpRepository) (device : UInt32 × DeviceData) : LldpRepository :=
  if r.currentState.contains device.1 then r.atSender device.1 (Endpoint.update env device.2)
  else (r.emplaceSender env device.1 device.2).createLldpStateMachine env device.1

def updateState (newState : Devices) (r : LldpRepository) : LldpRepository :=
  let r := newState.toList.foldl (updateDevice env) r
  let deletables := r.currentState.keys.filter fun index => !newState.contains index
  deletables.foldl (fun r idx => r.deleteLldpStateMachine env idx) r

/-- What the synchronisation callback does with what it is given. -/
def synchronize (handed : Option Devices) (r : LldpRepository) : LldpRepository :=
  match handed with
  | some newState => r.updateState env newState
  | none => r

/-- `sent` is the outcome of the link request that the tick makes, if it makes one. -/
def tick (deltaSeconds : UInt64) (sent : Bool) (r : LldpRepository) : LldpRepository :=
  let r := { r with deviceRepository := r.deviceRepository.tick deltaSeconds sent }
  r.currentState.keys.foldl (fun r idx => r.atSender idx (Endpoint.tick env deltaSeconds)) r

end LldpRepository

/-! ## Runs -/

/-- What can happen to the daemon: the events of the device repository, and calls of the
functions of both repositories. -/
inductive DaemonEvent
  | tick (deltaSeconds : UInt64) (sent : Bool)
  | monitorPacket (packet : NetlinkPacketView)
  | linkPacket (packet : NetlinkPacketView) (sent : Bool)
  | addrPacket (packet : NetlinkPacketView)
  | handleLinkPacket (link : LinkView)
  | handleAddressPacket (address : AddrView)
  | ipReaderFinished
  | markChanged (idx : UInt32)
  | newNeighbour (idx : UInt32)
  | delete (idx : UInt32)

namespace LldpRepository

def step (env : Env) (r : LldpRepository) : DaemonEvent → LldpRepository
  | .tick deltaSeconds sent => r.tick env deltaSeconds sent
  | .monitorPacket _ => { r with deviceRepository := r.deviceRepository.handleMonitorPackets }
  | .linkPacket packet sent =>
    { r with deviceRepository := r.deviceRepository.deviceReaderPacket packet sent }
  | .addrPacket packet =>
    let (deviceRepository, handed) := r.deviceRepository.ipReaderPacket packet
    { r with deviceRepository := deviceRepository }.synchronize env handed
  | .handleLinkPacket link =>
    { r with deviceRepository := r.deviceRepository.handleLinkPacket link }
  | .handleAddressPacket address =>
    { r with deviceRepository := r.deviceRepository.handleAddressPacket address }
  | .ipReaderFinished => r.synchronize env r.deviceRepository.ipReaderFinished
  | .markChanged idx => r.markChangedLldpStateMachine env idx
  | .newNeighbour idx => r.createLldpStateMachine env idx
  | .delete idx => r.deleteLldpStateMachine env idx

end LldpRepository

end Ndisc
