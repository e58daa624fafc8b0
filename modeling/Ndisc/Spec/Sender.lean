import Ndisc.Lib.Run
import Ndisc.Spec.Packet

/-!
# The sender of an interface (`lldp_sender.hh`, `lldp_sender.cc`)

One `LldpSender` per interface decides when to send, and all of them share the
socket and the function-level statics that frames are built in (`Statics`). What
`sendto` answers is a function of the frames handed to it so far (`Env`), so any
sequence of answers is one of them.

The spans of the port id and of the time to live lead to locals of `constructFrame`
(`mac_address`, `ttl_network_bo`). `sendFrame` reads them when that function has
returned, so what it reads there is up to the stack (`Stack`), and no part of the program.
-/

namespace Ndisc

open Wire

def maxTransmitCredits : UInt16 := 5
def fastTransmitAmount : UInt16 := 4
def targetTtl : UInt16 := 30
def packetHoldAmount : UInt16 := 5
def messageTransmitInterval : UInt16 := targetTtl / packetHoldAmount
def messageFastInterval : UInt16 := 1

def intMax : ℕ := 2 ^ 31 - 1

/-- `netlink::DeviceData`. -/
structure DeviceData where
  macAddress : Option (Octets 6)
  ipv4Address : Option (Octets 4)
  ipv6Address : Option (Octets 16)
  interfaceName : Option Bytes
  deviceOperational : Bool
  ifIndex : UInt32
  deriving DecidableEq

/-! ## What all senders share -/

/-- The `static` variables of the functions that build and send a frame. -/
structure Statics where
  machineIdVector : Bytes
  ipv4Value : Bytes
  ipv6Value : Bytes
  macValue : Bytes
  frame : LLDPEthernetFrame
  frameBuffer : Bytes

/-- One call of `sendto`: its buffer and `sll_ifindex`, and what the frame was built from. -/
structure Sent where
  ttl : UInt16
  deviceData : DeviceData
  buffer : Bytes
  sllIfindex : ℕ
  deriving DecidableEq

inductive SendOutcome
  | sent
  | netDown
  | failed
  deriving DecidableEq

/-- The locals of `constructFrame` that spans of the frame lead to. -/
inductive FrameLocal
  | macAddress
  | ttlNetworkBo

/-- What a byte of such a local reads as once `constructFrame` has returned, given its offset
and what was stored there. -/
abbrev Stack := FrameLocal → ℕ → UInt8 → UInt8

/-- Nothing was put on the stack in the meantime. -/
def Stack.intact : Stack := fun _ _ byte => byte

/-- The bytes of a span over a local that held `stored`. -/
def Stack.read (stack : Stack) (frameLocal : FrameLocal) (stored : Bytes) : Bytes :=
  stored.mapIdx (stack frameLocal)

/-- The machine id, the outcome of `sendto` given all calls up to this one, and the stack that
`sendFrame` finds given all calls before. -/
structure Env where
  machineId : Bytes
  sendto : List Sent → SendOutcome
  stack : List Sent → Stack

/-- The statics, and the calls of `sendto` so far, the latest one first. -/
structure Io where
  statics : Statics
  log : List Sent

/-! ## Building a frame -/

def tlvValueManagementAddressTemplate (addressLength : ℕ) (addressSubtype : UInt8) : Bytes :=
  let tlvValue := List.replicate (1 + 1 + addressLength + 1 + 4 + 1) 0
  let tlvValue := tlvValue.set 0 (UInt8.ofNat (1 + addressLength))
  let tlvValue := tlvValue.set 1 addressSubtype
  tlvValue.set (1 + 1 + addressLength) managementTlvIfSubtypeIfindex

def Statics.init : Statics where
  machineIdVector := []
  ipv4Value := tlvValueManagementAddressTemplate 4 managementTlvAddressSubtypeIpv4
  ipv6Value := tlvValueManagementAddressTemplate 16 managementTlvAddressSubtypeIpv6
  macValue := tlvValueManagementAddressTemplate 6 managementTlvAddressSubtypeMac
  frame := {
    header := ⟨List.Vector.replicate 6 0, List.Vector.replicate 6 0, 0⟩
    dataUnit := ⟨⟨0, []⟩, ⟨0, []⟩, ⟨0, []⟩, []⟩ }
  frameBuffer := []

def Io.init : Io := ⟨Statics.init, []⟩

/-- The two copies into one of the static address values. -/
def fillAddressValue {n : ℕ} (value : Bytes) (address : Octets n) (ifIndex : UInt32) : Bytes :=
  overwrite (overwrite value 2 address.toList) (1 + 1 + n + 1) (be32 ifIndex)

/-- The source clears `tlvs` first, so the list it had plays no part. -/
def createLldpduOptionalTlvs (deviceData : DeviceData) (st : Statics) :
    List LLDPDUTypeLengthValue × Statics :=
  let tlvs : List LLDPDUTypeLengthValue := []
  let (tlvs, st) : List LLDPDUTypeLengthValue × Statics := match deviceData.ipv4Address with
    | some address =>
      let st := { st with ipv4Value := fillAddressValue st.ipv4Value address deviceData.ifIndex }
      (tlvs ++ [⟨TLV.managementAddress, st.ipv4Value⟩], st)
    | none => (tlvs, st)
  let (tlvs, st) : List LLDPDUTypeLengthValue × Statics := match deviceData.ipv6Address with
    | some address =>
      let st := { st with ipv6Value := fillAddressValue st.ipv6Value address deviceData.ifIndex }
      (tlvs ++ [⟨TLV.managementAddress, st.ipv6Value⟩], st)
    | none => (tlvs, st)
  match deviceData.ipv4Address, deviceData.ipv6Address, deviceData.macAddress with
  | none, none, some address =>
    let st := { st with macValue := fillAddressValue st.macValue address deviceData.ifIndex }
    (tlvs ++ [⟨TLV.managementAddress, st.macValue⟩], st)
  | _, _, _ => (tlvs, st)

def multicastAddress : Octets 6 := ⟨[0x01, 0x80, 0xC2, 0x00, 0x00, 0x00], rfl⟩

def ethPLldpType : ℕ := 0x88CC

/-- The span over the static vector, which the first call fills. -/
def getMachineIdTlvValue (machineId : Bytes) (st : Statics) : Bytes × Statics :=
  if st.machineIdVector.isEmpty then
    let machineIdVector := resize st.machineIdVector (machineId.length + 1)
    let machineIdVector := machineIdVector.set 0 portTlvSubtypeLocal
    let machineIdVector := overwrite machineIdVector 1 machineId
    (machineIdVector, { st with machineIdVector := machineIdVector })
  else (st.machineIdVector, st)

/-- The frame is `st.frame`, the static that `SendLldp` passes by reference. Its port id and its
time to live are spans over locals, here with what is stored in these. -/
def constructFrame (machineId : Bytes) (ttl : UInt16) (deviceData : DeviceData) (st : Statics) :
    Statics :=
  match deviceData.macAddress with
  | none => st
  | some mac =>
    let (machineIdValue, st) := getMachineIdTlvValue machineId st
    let (tlvs, st) := createLldpduOptionalTlvs deviceData st
    { st with frame := {
      header := ⟨multicastAddress, mac, ethPLldpType⟩
      dataUnit := {
        chassisId := ⟨TLV.chassisId, machineIdValue⟩
        portId := ⟨TLV.portId, portTlvSubtypeMac :: mac.toList⟩
        timeToLive := ⟨TLV.timeToLive, be16 ttl.toNat⟩
        optionalTlv := tlvs } } }

/-- What a reader finds behind the spans of a frame that `constructFrame` has filled. -/
def LLDPEthernetFrame.onStack (stack : Stack) (frame : LLDPEthernetFrame) : LLDPEthernetFrame :=
  { frame with
    dataUnit.portId.value := stack.read .macAddress frame.dataUnit.portId.value
    dataUnit.timeToLive.value := stack.read .ttlNetworkBo frame.dataUnit.timeToLive.value }

/-- The bytes that go to `sendto` are those of the static buffer. The lengths of the spans are
in the frame itself. -/
def sendFrame (stack : Stack) (st : Statics) : Statics :=
  let buffer := resize st.frameBuffer st.frame.getFrameBufferSize
  { st with frameBuffer := ((st.frame.onStack stack).toFrameBuffer (Cursor.start buffer)).buf }

/-! ## The sender -/

structure LldpSender where
  deviceData : DeviceData
  transmitTimer : UInt16
  transmitCredits : UInt16
  fastForwardCounter : UInt16
  triggerReady : Bool

/-- A sender, and what it shares with the others. -/
structure Endpoint where
  sender : LldpSender
  io : Io

namespace Endpoint

variable (env : Env)

def disableSender (p : Endpoint) : Endpoint := p

def sendLldp (ttl : UInt16) (p : Endpoint) : Endpoint :=
  if p.sender.deviceData.ifIndex.toNat > intMax ∨ p.sender.deviceData.macAddress = none then p
  else
    let st := sendFrame (env.stack p.io.log)
      (constructFrame env.machineId ttl p.sender.deviceData p.io.statics)
    let log := ⟨ttl, p.sender.deviceData, st.frameBuffer, p.sender.deviceData.ifIndex.toNat⟩ ::
      p.io.log
    let p := { p with io := ⟨st, log⟩ }
    if env.sendto log = .netDown then
      disableSender { p with sender.deviceData.deviceOperational := false }
    else p

def endTransmission (p : Endpoint) : Endpoint :=
  if p.sender.deviceData.macAddress.isSome then sendLldp env 0 p else p

def tryTransmit (p : Endpoint) : Endpoint :=
  if p.sender.triggerReady ∧ 0 < p.sender.transmitCredits ∧
      p.sender.deviceData.macAddress.isSome then
    sendLldp env targetTtl { p with
      sender.triggerReady := false
      sender.transmitCredits := p.sender.transmitCredits - 1 }
  else p

def triggerTransmission (p : Endpoint) : Endpoint :=
  let p := if 0 < p.sender.fastForwardCounter then
      { p with sender.transmitTimer := messageFastInterval }
    else { p with sender.transmitTimer := messageTransmitInterval }
  tryTransmit env { p with sender.triggerReady := true }

def timerExpired (p : Endpoint) : Endpoint :=
  triggerTransmission env (if 0 < p.sender.fastForwardCounter then
      { p with sender.fastForwardCounter := p.sender.fastForwardCounter - 1 }
    else p)

def newNeighbour (p : Endpoint) : Endpoint :=
  timerExpired env (if p.sender.fastForwardCounter = 0 then
      { p with sender.fastForwardCounter := fastTransmitAmount }
    else p)

def localChangeDetected (p : Endpoint) : Endpoint := triggerTransmission env p

def enableSender (p : Endpoint) : Endpoint := newNeighbour env p

/-- A `uint16_t` and a `uint64_t` add up and compare as `uint64_t`; the assignments
cut the result to 16 bits. -/
def tick (deltaSeconds : UInt64) (p : Endpoint) : Endpoint :=
  if p.sender.deviceData.deviceOperational then
    let p := if p.sender.transmitCredits.toUInt64 + deltaSeconds ≤ maxTransmitCredits.toUInt64 then
        { p with
          sender.transmitCredits := (p.sender.transmitCredits.toUInt64 + deltaSeconds).toUInt16 }
      else p
    let p := if p.sender.transmitTimer.toUInt64 > deltaSeconds then
        { p with
          sender.transmitTimer := (p.sender.transmitTimer.toUInt64 - deltaSeconds).toUInt16 }
      else timerExpired env { p with sender.transmitTimer := 0 }
    tryTransmit env p
  else p

/-- The source's calls stand the way round they stand here: a device that comes up is
disabled, one that goes down is enabled. `mac_address` and `if_index` are never copied. -/
def update (newDeviceData : DeviceData) (p : Endpoint) : Endpoint :=
  let (anyChanged, p) :=
    if p.sender.deviceData.interfaceName ≠ newDeviceData.interfaceName then
      (true, { p with sender.deviceData.interfaceName := newDeviceData.interfaceName })
    else (false, p)
  let (anyChanged, p) :=
    if p.sender.deviceData.ipv4Address ≠ newDeviceData.ipv4Address then
      (true, { p with sender.deviceData.ipv4Address := newDeviceData.ipv4Address })
    else (anyChanged, p)
  let (anyChanged, p) :=
    if p.sender.deviceData.ipv6Address ≠ newDeviceData.ipv6Address then
      (true, { p with sender.deviceData.ipv6Address := newDeviceData.ipv6Address })
    else (anyChanged, p)
  let (anyChanged, p) :=
    if p.sender.deviceData.deviceOperational ≠ newDeviceData.deviceOperational then
      let p := if newDeviceData.deviceOperational then disableSender p else enableSender env p
      (true, { p with sender.deviceData.deviceOperational := newDeviceData.deviceOperational })
    else (anyChanged, p)
  if anyChanged then localChangeDetected env p else p

/-- The constructor. -/
def create (deviceData : DeviceData) (io : Io) : Endpoint :=
  let p : Endpoint := ⟨⟨deviceData, 0, 0, 0, false⟩, io⟩
  if p.sender.deviceData.deviceOperational then enableSender env p else disableSender p

end Endpoint

/-! ## Runs -/

/-- The calls made on a sender. -/
inductive SenderOp
  | update (newDeviceData : DeviceData)
  | tick (deltaSeconds : UInt64)
  | newNeighbour
  | localChangeDetected
  | endTransmission

def Endpoint.step (env : Env) (p : Endpoint) : SenderOp → Endpoint
  | .update newDeviceData => p.update env newDeviceData
  | .tick deltaSeconds => p.tick env deltaSeconds
  | .newNeighbour => p.newNeighbour env
  | .localChangeDetected => p.localChangeDetected env
  | .endTransmission => p.endTransmission env

/-- A sender and what it shares, from its construction on. -/
def Endpoint.after (env : Env) (deviceData : DeviceData) (io : Io) (ops : List SenderOp) : Endpoint :=
  Run.run (Endpoint.step env) (Endpoint.create env deviceData io) ops

end Ndisc
