import Ndisc.Lib.Pointers
import Ndisc.Spec.Repository

/-!
# Moving readers and repositories (`device_reader.hh`, `ip_reader.hh`, `device_repository.hh`, `lldp_repository.hh`)

Objects are known by their numbers. A reader shares its socket, a repository owns its readers,
and an LLDP repository owns its device repository. Callbacks capture the object that
installed them.
-/

namespace Ndisc.Moves

open Std (ExtTreeMap)

abbrev Id := ℕ

/-! ## Callbacks -/

inductive ReaderClass
  | deviceReader
  | ipReader
  deriving DecidableEq

inductive Object
  | reader (readerClass : ReaderClass) (id : Id)
  | deviceRepository (id : Id)
  | lldpRepository (id : Id)
  deriving DecidableEq

/-- The member functions that lambdas call on their `this`. -/
inductive Member
  | handleNetlinkPacket
  | handleLinkPacket
  | deviceReaderFinished
  | deviceReaderErrored
  | handleAddressPacket
  | ipReaderFinished
  | ipReaderErrored
  | handleMonitorPackets
  | updateState
  deriving DecidableEq

/-- A lambda that captures `this`, or some function of the program. -/
inductive Callback
  | member (this : Object) (function : Member)
  | function (number : ℕ)
  deriving DecidableEq

def Callback.this : Callback → Option Object
  | .member this _ => some this
  | .function _ => none

/-! ## Objects -/

/-- `DeviceReader` or `IpReader`: the first callback is `device_update_callback_` or
`address_update_callback_`. -/
structure Reader where
  readerSocket : Option Id
  dumpRequestSequenceNumber : Option UInt32
  dumpReadTimeout : ℤ
  updateCallback : Option Callback
  endOfDumpCallback : Option Callback
  dumpErroredCallback : Option Callback
  deriving DecidableEq

structure DeviceRepository where
  syncTimeout : ℤ
  monitor : Option Id
  deviceReader : Option Id
  ipReader : Option Id
  devices : Devices
  synchronizationCallback : Option Callback
  verbose : Bool

structure LldpRepository where
  ethernetBroadcastSocket : ℤ
  currentState : ExtTreeMap UInt32 LldpSender
  deviceRepository : Option Id

/-- The objects that are alive, and the callback of each socket. -/
structure Heap where
  socketCallback : Id → Option Callback
  readers : ReaderClass → Id → Option Reader
  deviceRepositories : Id → Option DeviceRepository
  lldpRepositories : Id → Option LldpRepository

namespace Heap

/-- `SetCallback` and `ClearCallback` of a socket, if the pointer to it is not null. -/
def setCallback (h : Heap) (socket : Option Id) (callback : Option Callback) : Heap :=
  { h with socketCallback := fun k => if socket = some k then callback else h.socketCallback k }

def setReader (h : Heap) (c : ReaderClass) (id : Id) (reader : Option Reader) : Heap :=
  { h with readers := fun c' i => if c' = c ∧ i = id then reader else h.readers c' i }

/-- A call on a reader, if the pointer to it is not null. -/
def onReader (h : Heap) (c : ReaderClass) (id : Option Id) (call : Reader → Reader) : Heap :=
  { h with readers := fun c' i =>
      if c' = c ∧ id = some i then (h.readers c' i).map call else h.readers c' i }

def setDeviceRepository (h : Heap) (id : Id) (r : Option DeviceRepository) : Heap :=
  { h with deviceRepositories := Function.update h.deviceRepositories id r }

def setLldpRepository (h : Heap) (id : Id) (r : LldpRepository) : Heap :=
  { h with lldpRepositories := Function.update h.lldpRepositories id (some r) }

/-! ## Readers -/

/-- `BindReaderSocketCallback`, the same in both classes. -/
def bindReaderSocketCallback (h : Heap) (c : ReaderClass) (id : Id) : Heap :=
  match h.readers c id with
  | none => h
  | some reader =>
    h.setCallback reader.readerSocket (some (.member (.reader c id) .handleNetlinkPacket))

end Heap

/-- What is left of a reader that is moved from. -/
def Reader.movedFrom : Reader := ⟨none, none, -1, none, none, none⟩

namespace Heap

/-- All members go from one reader to another. -/
def moveReader (h : Heap) (c : ReaderClass) (target source : Id) : Option Heap := do
  let other ← h.readers c source
  some ((h.setReader c target (some other)).setReader c source (some .movedFrom))

/-- A `unique_ptr` to a reader lets go of it: `~DeviceReader` or `~IpReader`. -/
def destroyReader (h : Heap) (c : ReaderClass) (id : Option Id) : Heap :=
  match id with
  | none => h
  | some id =>
    match h.readers c id with
    | none => h
    | some reader => (h.setCallback reader.readerSocket none).setReader c id none

def deviceReaderMoveConstruct (h : Heap) (target source : Id) : Option Heap := do
  let h ← h.moveReader .deviceReader target source
  some (h.bindReaderSocketCallback .deviceReader target)

def deviceReaderMoveAssign (h : Heap) (target source : Id) : Option Heap := do
  let h ← h.moveReader .deviceReader target source
  some (h.bindReaderSocketCallback .deviceReader target)

def ipReaderMoveConstruct (h : Heap) (target source : Id) : Option Heap := do
  let h ← h.moveReader .ipReader target source
  some (h.bindReaderSocketCallback .ipReader target)

/-- Nothing binds the socket's callback here. -/
def ipReaderMoveAssign (h : Heap) (target source : Id) : Option Heap :=
  h.moveReader .ipReader target source

/-! ## Device repositories -/

/-- The three `Set..Callback` functions of a reader. -/
def setReaderCallbacks (h : Heap) (c : ReaderClass) (id : Option Id) (update endOfDump dumpErrored :
    Option Callback) : Heap :=
  h.onReader c id fun reader => { reader with
    updateCallback := update, endOfDumpCallback := endOfDump, dumpErroredCallback := dumpErrored }

def bindCallbacks (h : Heap) (id : Id) (r : DeviceRepository) : Heap :=
  let bound (function : Member) : Option Callback := some (.member (.deviceRepository id) function)
  ((h.setReaderCallbacks .deviceReader r.deviceReader (bound .handleLinkPacket)
    (bound .deviceReaderFinished) (bound .deviceReaderErrored)).setReaderCallbacks .ipReader r.ipReader
      (bound .handleAddressPacket) (bound .ipReaderFinished) (bound .ipReaderErrored)).setCallback
        r.monitor (bound .handleMonitorPackets)

def clearCallbacks (h : Heap) (r : DeviceRepository) : Heap :=
  ((h.setReaderCallbacks .deviceReader r.deviceReader none none none).setReaderCallbacks .ipReader
    r.ipReader none none none).setCallback r.monitor none

/-- `other` has given away its pointers before `ClearCallbacks` is called on it, and
`synchronization_callback_` stays with it. -/
def deviceRepositoryMoveConstruct (h : Heap) (target source : Id) : Option Heap := do
  let other ← h.deviceRepositories source
  let this : DeviceRepository := {
    syncTimeout := other.syncTimeout, monitor := other.monitor, deviceReader := other.deviceReader
    ipReader := other.ipReader, devices := other.devices, synchronizationCallback := none
    verbose := other.verbose }
  let other := { other with monitor := none, deviceReader := none, ipReader := none, devices := ∅ }
  let h := h.clearCallbacks other
  let other := { other with syncTimeout := -1, verbose := false }
  let h := (h.setDeviceRepository target (some this)).setDeviceRepository source (some other)
  some (h.bindCallbacks target this)

/-- Both objects keep the `synchronization_callback_` that they have. -/
def deviceRepositoryMoveAssign (h : Heap) (target source : Id) : Option Heap := do
  let this ← h.deviceRepositories target
  let other ← h.deviceRepositories source
  let h := (h.clearCallbacks this).clearCallbacks other
  let h := (h.destroyReader .deviceReader this.deviceReader).destroyReader .ipReader this.ipReader
  let this := { this with
    syncTimeout := other.syncTimeout, monitor := other.monitor, deviceReader := other.deviceReader
    ipReader := other.ipReader, devices := other.devices, verbose := other.verbose }
  let other := { other with
    syncTimeout := -1, monitor := none, deviceReader := none, ipReader := none, devices := ∅
    verbose := false }
  let h := (h.setDeviceRepository target (some this)).setDeviceRepository source (some other)
  some (h.bindCallbacks target this)

/-- A `unique_ptr` to a repository lets go of it: `~DeviceRepository`, then its members. -/
def destroyDeviceRepository (h : Heap) (id : Option Id) : Heap :=
  match id with
  | none => h
  | some id =>
    match h.deviceRepositories id with
    | none => h
    | some r =>
      (((h.clearCallbacks r).destroyReader .ipReader r.ipReader).destroyReader .deviceReader
        r.deviceReader).setDeviceRepository id none

/-! ## LLDP repositories -/

/-- `device_repository_->SetSyncCallback` with a lambda of this object. There is no behaviour
where the pointer is null. -/
def setSyncCallback (h : Heap) (id : Id) (r : LldpRepository) : Option Heap := do
  let deviceRepository ← r.deviceRepository
  let repository ← h.deviceRepositories deviceRepository
  some (h.setDeviceRepository deviceRepository (some { repository with
    synchronizationCallback := some (.member (.lldpRepository id) .updateState) }))

/-- `current_state_` of the new object is empty, and that of `other` stays with it. -/
def lldpRepositoryMoveConstruct (h : Heap) (target source : Id) : Option Heap := do
  let other ← h.lldpRepositories source
  let this : LldpRepository := ⟨other.ethernetBroadcastSocket, ∅, other.deviceRepository⟩
  let other := { other with ethernetBroadcastSocket := -1, deviceRepository := none }
  ((h.setLldpRepository target this).setLldpRepository source other).setSyncCallback target this

/-- Both objects keep the `current_state_` that they have. -/
def lldpRepositoryMoveAssign (h : Heap) (target source : Id) : Option Heap := do
  let this ← h.lldpRepositories target
  let other ← h.lldpRepositories source
  let h := h.destroyDeviceRepository this.deviceRepository
  let this := { this with
    ethernetBroadcastSocket := other.ethernetBroadcastSocket, deviceRepository := other.deviceRepository }
  let other := { other with ethernetBroadcastSocket := -1, deviceRepository := none }
  ((h.setLldpRepository target this).setLldpRepository source other).setSyncCallback target this

end Heap

/-! ## Runs -/

inductive Class
  | deviceReader
  | ipReader
  | deviceRepository
  | lldpRepository
  deriving DecidableEq

/-- A move of one object into another of its class, which is new or overwritten. -/
structure Move where
  objects : Class
  construct : Bool
  target : Id
  source : Id

/-- There is no result where the behaviour is undefined. -/
def Heap.move (h : Heap) (m : Move) : Option Heap :=
  match m.objects, m.construct with
  | .deviceReader, true => h.deviceReaderMoveConstruct m.target m.source
  | .deviceReader, false => h.deviceReaderMoveAssign m.target m.source
  | .ipReader, true => h.ipReaderMoveConstruct m.target m.source
  | .ipReader, false => h.ipReaderMoveAssign m.target m.source
  | .deviceRepository, true => h.deviceRepositoryMoveConstruct m.target m.source
  | .deviceRepository, false => h.deviceRepositoryMoveAssign m.target m.source
  | .lldpRepository, true => h.lldpRepositoryMoveConstruct m.target m.source
  | .lldpRepository, false => h.lldpRepositoryMoveAssign m.target m.source

/-- Nothing is said about what follows a move without a result. -/
def Heap.step (h : Heap) (m : Move) : Heap := (h.move m).getD h

end Ndisc.Moves
