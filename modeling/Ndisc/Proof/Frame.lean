import Ndisc.Proof.Bounds
import Ndisc.Spec.Sender

/-!
# What a sender sends is what a receiver reads

* `Statics.Ok`: all that ever changes in the shared arrays is an address and an
  interface index; every call overwrites both.
* `constructFrame_spec`, `sendLldp_spec`: the frame sent is `DeviceData.frameRead`,
  whatever was sent before; it is `DeviceData.frameBytes` where the stack keeps the locals.
* `dataUnit_read`: a receiver reads the sender's addresses back.
* `sendLldp_roundtrip`: both together.
-/

namespace Ndisc

open Wire

/-! ## The frame of a device -/

/-- The value of a management-address TLV: length, kind, address, interface index, and
an empty object identifier. -/
def managementValue {n : ℕ} (subtype : UInt8) (address : Octets n) (ifIndex : UInt32) : Bytes :=
  [UInt8.ofNat (1 + n), subtype] ++ address.toList ++
    ([managementTlvIfSubtypeIfindex] ++ be32 ifIndex ++ [0])

namespace DeviceData

def managementTlv {n : ℕ} (subtype : UInt8) (ifIndex : UInt32) (address : Octets n) :
    LLDPDUTypeLengthValue :=
  ⟨TLV.managementAddress, managementValue subtype address ifIndex⟩

/-- The addresses of a device, or its MAC where it has none. -/
def optionalTlvs (d : DeviceData) (mac : Octets 6) : List LLDPDUTypeLengthValue :=
  let ipv4 := d.ipv4Address.map (managementTlv managementTlvAddressSubtypeIpv4 d.ifIndex)
  let ipv6 := d.ipv6Address.map (managementTlv managementTlvAddressSubtypeIpv6 d.ifIndex)
  if ipv4.isNone ∧ ipv6.isNone then [managementTlv managementTlvAddressSubtypeMac d.ifIndex mac]
  else ipv4.toList ++ ipv6.toList

def dataUnit (machineId : Bytes) (ttl : UInt16) (d : DeviceData) (mac : Octets 6) :
    LLDPDataUnit where
  chassisId := ⟨TLV.chassisId, portTlvSubtypeLocal :: machineId⟩
  portId := ⟨TLV.portId, portTlvSubtypeMac :: mac.toList⟩
  timeToLive := ⟨TLV.timeToLive, be16 ttl.toNat⟩
  optionalTlv := d.optionalTlvs mac

def header (mac : Octets 6) : EtherHeader := ⟨multicastAddress, mac, ethPLldpType⟩

def frameBytes (machineId : Bytes) (ttl : UInt16) (d : DeviceData) (mac : Octets 6) : Bytes :=
  (header mac).bytes ++ (d.dataUnit machineId ttl mac).encode

/-- The frame as `sendFrame` reads it. -/
def frameRead (stack : Stack) (machineId : Bytes) (ttl : UInt16) (d : DeviceData) (mac : Octets 6) :
    Bytes :=
  (header mac).bytes ++
    (LLDPEthernetFrame.onStack stack ⟨header mac, d.dataUnit machineId ttl mac⟩).dataUnit.raw

end DeviceData

/-! ## The stack -/

/-- The locals still hold what was stored there. -/
def Stack.Keeps (stack : Stack) : Prop :=
  ∀ frameLocal offset byte, stack frameLocal offset byte = byte

/-- Whenever a frame is sent, they do. -/
def Env.Intact (env : Env) : Prop := ∀ log, (env.stack log).Keeps

theorem Stack.intact_keeps : Stack.intact.Keeps := fun _ _ _ => rfl

namespace Stack

variable {stack : Stack}

@[simp]
theorem read_length (stack : Stack) (frameLocal : FrameLocal) (stored : Bytes) :
    (stack.read frameLocal stored).length = stored.length := List.length_mapIdx

theorem Keeps.read_eq (h : stack.Keeps) (frameLocal : FrameLocal) (stored : Bytes) :
    stack.read frameLocal stored = stored := by
  have hid : stack frameLocal = fun _ byte => byte := by
    funext offset byte
    exact h frameLocal offset byte
  rw [read, hid]
  apply List.ext_getElem
  · exact List.length_mapIdx
  · intro i hi hi'
    rw [List.getElem_mapIdx]

theorem Keeps.onStack_eq (h : stack.Keeps) (frame : LLDPEthernetFrame) :
    frame.onStack stack = frame := by
  rw [LLDPEthernetFrame.onStack, h.read_eq, h.read_eq]

end Stack

theorem managementValue_length {n : ℕ} (subtype : UInt8) (address : Octets n) (ifIndex : UInt32) :
    (managementValue subtype address ifIndex).length = n + 8 := by
  simp [managementValue]

theorem header_bytes_length (mac : Octets 6) : (DeviceData.header mac).bytes.length = 14 := by
  simp [EtherHeader.bytes]

theorem managementTlv_fits {n : ℕ} (h : n ≤ 16) (subtype : UInt8) (ifIndex : UInt32)
    (address : Octets n) :
    (DeviceData.managementTlv subtype ifIndex address).Fits ∧
      (DeviceData.managementTlv subtype ifIndex address).type ≠ TLV.endOfLldpdu := by
  refine ⟨⟨show TLV.managementAddress.toNat < 128 by decide, ?_⟩,
    show TLV.managementAddress ≠ TLV.endOfLldpdu by decide⟩
  simp only [DeviceData.managementTlv, managementValue_length]
  omega

theorem optionalTlvs_fits (d : DeviceData) (mac : Octets 6) :
    ∀ tlv ∈ d.optionalTlvs mac, tlv.Fits ∧ tlv.type ≠ TLV.endOfLldpdu := by
  intro tlv htlv
  simp only [DeviceData.optionalTlvs] at htlv
  split at htlv
  · rw [List.mem_singleton] at htlv
    subst htlv; exact managementTlv_fits (by omega) _ _ _
  · simp only [List.mem_append, Option.mem_toList, Option.map_eq_some_iff] at htlv
    rcases htlv with ⟨a, -, rfl⟩ | ⟨a, -, rfl⟩ <;> exact managementTlv_fits (by omega) _ _ _

theorem dataUnit_fits {machineId : Bytes} (h : machineId.length ≤ 510) (ttl : UInt16)
    (d : DeviceData) (mac : Octets 6) : (d.dataUnit machineId ttl mac).Fits where
  chassisId := ⟨show TLV.chassisId.toNat < 128 by decide,
    by simp only [DeviceData.dataUnit, List.length_cons]; omega⟩
  chassisId_type := rfl
  portId := ⟨show TLV.portId.toNat < 128 by decide, by simp [DeviceData.dataUnit]⟩
  portId_type := rfl
  timeToLive := ⟨show TLV.timeToLive.toNat < 128 by decide, by simp [DeviceData.dataUnit]⟩
  timeToLive_type := rfl
  optionalTlv := optionalTlvs_fits d mac

/-! ## The shared statics -/

/-- What the statics hold between two frames: the machine id once it was read, and in
each address value some earlier address and interface index. -/
structure Statics.Ok (machineId : Bytes) (st : Statics) : Prop where
  machineIdVector : st.machineIdVector = [] ∨ st.machineIdVector = portTlvSubtypeLocal :: machineId
  ipv4Value : ∃ (a : Octets 4) (i : UInt32),
    st.ipv4Value = managementValue managementTlvAddressSubtypeIpv4 a i
  ipv6Value : ∃ (a : Octets 16) (i : UInt32),
    st.ipv6Value = managementValue managementTlvAddressSubtypeIpv6 a i
  macValue : ∃ (a : Octets 6) (i : UInt32),
    st.macValue = managementValue managementTlvAddressSubtypeMac a i

theorem statics_init_ok (machineId : Bytes) : Statics.Ok machineId .init where
  machineIdVector := Or.inl rfl
  ipv4Value := ⟨List.Vector.replicate 4 0, 0, rfl⟩
  ipv6Value := ⟨List.Vector.replicate 16 0, 0, rfl⟩
  macValue := ⟨List.Vector.replicate 6 0, 0, rfl⟩

/-- **Filling an address value leaves nothing of the address it held.** -/
theorem fillAddressValue_eq {n : ℕ} (subtype : UInt8) (a b : Octets n) (i j : UInt32) :
    fillAddressValue (managementValue subtype a i) b j = managementValue subtype b j := by
  have hfirst : overwrite (managementValue subtype a i) 2 b.toList = managementValue subtype b i :=
    overwrite_middle [UInt8.ofNat (1 + n), subtype] a.toList
      ([managementTlvIfSubtypeIfindex] ++ be32 i ++ [0]) b.toList (by simp)
  -- the index goes behind the address just written
  have hpre : ([UInt8.ofNat (1 + n), subtype] ++ b.toList ++ [managementTlvIfSubtypeIfindex]).length =
      1 + 1 + n + 1 := by simp; omega
  have hsecond := overwrite_middle
    ([UInt8.ofNat (1 + n), subtype] ++ b.toList ++ [managementTlvIfSubtypeIfindex]) (be32 i) [0]
    (be32 j) rfl
  rw [fillAddressValue, hfirst, ← hpre]
  simpa only [managementValue, List.append_assoc] using hsecond

theorem getMachineIdTlvValue_eq {machineId : Bytes} {st : Statics} (h : st.Ok machineId) :
    (getMachineIdTlvValue machineId st).1 = portTlvSubtypeLocal :: machineId ∧
      (getMachineIdTlvValue machineId st).2.Ok machineId := by
  have hnew : overwrite ((resize [] (machineId.length + 1)).set 0 portTlvSubtypeLocal) 1 machineId =
      portTlvSubtypeLocal :: machineId := by
    have hset : (resize [] (machineId.length + 1)).set 0 portTlvSubtypeLocal =
        [portTlvSubtypeLocal] ++ List.replicate machineId.length 0 ++ [] := by
      simp [resize, List.replicate_succ]
    rw [hset]
    simpa using overwrite_middle [portTlvSubtypeLocal] (List.replicate machineId.length 0) []
      machineId (by simp)
  -- the first frame reads the id, every later one finds it there
  rcases h.machineIdVector with hv | hv
  · simp only [getMachineIdTlvValue, hv, List.isEmpty_nil, if_true, hnew, true_and]
    exact ⟨Or.inr rfl, h.ipv4Value, h.ipv6Value, h.macValue⟩
  · simp only [getMachineIdTlvValue, hv, List.isEmpty_cons, Bool.false_eq_true, if_false, true_and]
    exact h

theorem createLldpduOptionalTlvs_eq {machineId : Bytes} {st : Statics} (h : st.Ok machineId)
    {d : DeviceData} {mac : Octets 6} (hmac : d.macAddress = some mac) :
    (createLldpduOptionalTlvs d st).1 = d.optionalTlvs mac ∧
      (createLldpduOptionalTlvs d st).2.Ok machineId := by
  obtain ⟨a4, i4, h4⟩ := h.ipv4Value
  obtain ⟨a6, i6, h6⟩ := h.ipv6Value
  obtain ⟨am, im, hm⟩ := h.macValue
  have hv := h.machineIdVector
  -- a MAC value is added only where both addresses are missing
  cases hd4 : d.ipv4Address <;> cases hd6 : d.ipv6Address <;>
    simp only [createLldpduOptionalTlvs, DeviceData.optionalTlvs, DeviceData.managementTlv, hd4, hd6,
      hmac, h4, h6, hm, fillAddressValue_eq, Option.map_none, Option.map_some, Option.isNone_none,
      Option.isNone_some, Option.toList, and_self, and_false, and_true, if_true, if_false,
      Bool.false_eq_true, List.nil_append, List.append_nil, List.cons_append, true_and]
  all_goals exact ⟨hv, ⟨_, _, rfl⟩, ⟨_, _, rfl⟩, ⟨_, _, rfl⟩⟩

/-- **The frame built depends on the machine id, the device and the TTL only.** -/
theorem constructFrame_spec {machineId : Bytes} {st : Statics} (h : st.Ok machineId) (ttl : UInt16)
    {d : DeviceData} {mac : Octets 6} (hmac : d.macAddress = some mac) :
    (constructFrame machineId ttl d st).frame = ⟨DeviceData.header mac, d.dataUnit machineId ttl mac⟩ ∧
      (constructFrame machineId ttl d st).Ok machineId := by
  obtain ⟨hid, hst⟩ := getMachineIdTlvValue_eq h
  obtain ⟨htlvs, hst'⟩ := createLldpduOptionalTlvs_eq hst hmac
  simp only [constructFrame, hmac, hid, htlvs]
  exact ⟨rfl, hst'.machineIdVector, hst'.ipv4Value, hst'.ipv6Value, hst'.macValue⟩

/-- The spans have their lengths from the frame. -/
theorem onStack_getFrameBufferSize (stack : Stack) (frame : LLDPEthernetFrame) :
    (frame.onStack stack).getFrameBufferSize = frame.getFrameBufferSize := by
  simp [LLDPEthernetFrame.onStack, LLDPEthernetFrame.getFrameBufferSize,
    LLDPDataUnit.getFrameBufferSize, LLDPDUTypeLengthValue.getFrameBufferSize]

/-- The buffer holds the frame as it is read, and nothing of an earlier one, whatever its TLVs
are. -/
theorem sendFrame_raw (stack : Stack) (st : Statics) :
    (sendFrame stack st).frameBuffer =
      st.frame.header.bytes ++ (st.frame.onStack stack).dataUnit.raw := by
  -- the buffer is resized to the very length of the frame
  have hlen : (st.frame.header.bytes ++ (st.frame.onStack stack).dataUnit.raw).length =
      (resize st.frameBuffer st.frame.getFrameBufferSize).length := by
    rw [← onStack_getFrameBufferSize stack]
    simp [dataUnit_raw_length, LLDPEthernetFrame.getFrameBufferSize, EtherHeader.bytes]
    omega
  simp only [sendFrame, LLDPEthernetFrame.toFrameBuffer, dataUnit_toFrameBuffer_raw,
    Cursor.copyTo_copyTo]
  exact Cursor.copyTo_full _ _ hlen

/-- **Where the stack keeps the locals, the frame read is the frame built.** -/
theorem frameRead_eq {stack : Stack} (hstack : stack.Keeps) {machineId : Bytes}
    (hid : machineId.length ≤ 510) (ttl : UInt16) (d : DeviceData) (mac : Octets 6) :
    d.frameRead stack machineId ttl mac = d.frameBytes machineId ttl mac := by
  rw [DeviceData.frameRead, hstack.onStack_eq, DeviceData.frameBytes,
    dataUnit_raw_eq (dataUnit_fits hid ttl d mac)]

/-! ## One call of `SendLldp` -/

namespace Endpoint

variable (env : Env) (ttl : UInt16)

/-- The endpoint after `sendto` was handed `frame`. -/
def logged (p : Endpoint) (st : Statics) (frame : Sent) : Endpoint :=
  ⟨{ p.sender with
      deviceData.deviceOperational := p.sender.deviceData.deviceOperational &&
        decide (env.sendto (frame :: p.io.log) ≠ .netDown) },
    ⟨st, frame :: p.io.log⟩⟩

/-- A device without a MAC, or whose index is no `int`, sends nothing. -/
def Silent (p : Endpoint) : Prop :=
  p.sender.deviceData.ifIndex.toNat > intMax ∨ p.sender.deviceData.macAddress = none

instance (p : Endpoint) : Decidable p.Silent := inferInstanceAs (Decidable (_ ∨ _))

variable {env ttl}

theorem sendLldp_silent {p : Endpoint} (h : p.Silent) : p.sendLldp env ttl = p := if_pos h

theorem sendLldp_logged {p : Endpoint} (h : ¬ p.Silent) :
    p.sendLldp env ttl =
      p.logged env (sendFrame (env.stack p.io.log)
          (constructFrame env.machineId ttl p.sender.deviceData p.io.statics))
        ⟨ttl, p.sender.deviceData,
          (sendFrame (env.stack p.io.log)
            (constructFrame env.machineId ttl p.sender.deviceData p.io.statics)).frameBuffer,
          p.sender.deviceData.ifIndex.toNat⟩ := by
  have h' : ¬ (p.sender.deviceData.ifIndex.toNat > intMax ∨ p.sender.deviceData.macAddress = none) := h
  unfold sendLldp logged
  rw [if_neg h']
  simp only [disableSender]
  split
  · rename_i hdown; simp [hdown]
  · rename_i hup; simp [hup]

/-- The bytes of the frame that a call builds and reads. -/
theorem sendFrame_constructFrame {machineId : Bytes} {st : Statics} (hst : st.Ok machineId)
    (stack : Stack) (ttl : UInt16) {d : DeviceData} {mac : Octets 6} (hmac : d.macAddress = some mac) :
    (sendFrame stack (constructFrame machineId ttl d st)).frameBuffer =
      d.frameRead stack machineId ttl mac := by
  obtain ⟨hframe, -⟩ := constructFrame_spec hst ttl hmac
  rw [sendFrame_raw, hframe]
  rfl

/-- **What a call of `SendLldp` does**, whatever was sent before. -/
theorem sendLldp_spec (ttl : UInt16) (p : Endpoint) (hst : p.io.statics.Ok env.machineId)
    {mac : Octets 6} (hmac : p.sender.deviceData.macAddress = some mac) (h : ¬ p.Silent) :
    ∃ st : Statics, st.Ok env.machineId ∧ p.sendLldp env ttl =
      p.logged env st ⟨ttl, p.sender.deviceData,
        p.sender.deviceData.frameRead (env.stack p.io.log) env.machineId ttl mac,
        p.sender.deviceData.ifIndex.toNat⟩ := by
  obtain ⟨-, hok⟩ := constructFrame_spec hst ttl hmac
  refine ⟨sendFrame (env.stack p.io.log)
      (constructFrame env.machineId ttl p.sender.deviceData p.io.statics),
    ⟨hok.machineIdVector, hok.ipv4Value, hok.ipv6Value, hok.macValue⟩, ?_⟩
  rw [sendLldp_logged h, sendFrame_constructFrame hst _ ttl hmac]

/-- The statics stay in order. -/
theorem sendLldp_ok {p : Endpoint} (hst : p.io.statics.Ok env.machineId) :
    (p.sendLldp env ttl).io.statics.Ok env.machineId := by
  by_cases h : p.Silent
  · rw [sendLldp_silent h]; exact hst
  · cases hmac : p.sender.deviceData.macAddress with
    | none => exact absurd (Or.inr hmac) h
    | some mac =>
      have hok := (constructFrame_spec hst ttl hmac).2
      rw [sendLldp_logged h]
      exact ⟨hok.machineIdVector, hok.ipv4Value, hok.ipv6Value, hok.macValue⟩

end Endpoint

/-! ## Reading it back -/

/-- What the reader sees of a management value. -/
theorem managementValue_reads {n : ℕ} (subtype : UInt8) (a : Octets n) (i : UInt32) :
    (managementValue subtype a i).isEmpty = false ∧
      byteAt (managementValue subtype a i) 0 = .ok (UInt8.ofNat (1 + n)) ∧
      byteAt (managementValue subtype a i) 1 = .ok subtype ∧
      fixedSpan (managementValue subtype a i) 2 n = .ok a :=
  ⟨rfl, rfl, rfl, fixedSpan_append [UInt8.ofNat (1 + n), subtype]
    ([managementTlvIfSubtypeIfindex] ++ be32 i ++ [0]) a⟩

theorem managementString_ipv4 (a : Octets 4) (i : UInt32) :
    managementTlvGetManagementString (managementValue managementTlvAddressSubtypeIpv4 a i) =
      .ok (some (.ipv4 a)) := by
  obtain ⟨hne, h0, h1, hspan⟩ := managementValue_reads managementTlvAddressSubtypeIpv4 a i
  simp [managementTlvGetManagementString, managementValue_length, hne, h0, h1, hspan]

theorem managementString_ipv6 (a : Octets 16) (i : UInt32) :
    managementTlvGetManagementString (managementValue managementTlvAddressSubtypeIpv6 a i) =
      .ok (some (.ipv6 a)) := by
  obtain ⟨hne, h0, h1, hspan⟩ := managementValue_reads managementTlvAddressSubtypeIpv6 a i
  have hkind : managementTlvAddressSubtypeIpv6 ≠ managementTlvAddressSubtypeIpv4 := by decide
  simp [managementTlvGetManagementString, managementValue_length, hne, h0, h1, hspan, hkind]

theorem managementString_mac (a : Octets 6) (i : UInt32) :
    managementTlvGetManagementString (managementValue managementTlvAddressSubtypeMac a i) =
      .ok (some (.mac a)) := by
  obtain ⟨hne, h0, h1, hspan⟩ := managementValue_reads managementTlvAddressSubtypeMac a i
  have hkind4 : managementTlvAddressSubtypeMac ≠ managementTlvAddressSubtypeIpv4 := by decide
  have hkind6 : managementTlvAddressSubtypeMac ≠ managementTlvAddressSubtypeIpv6 := by decide
  simp [managementTlvGetManagementString, managementValue_length, hne, h0, h1, hspan, hkind4, hkind6]

/-- The loop over the optional TLVs collects the addresses of the device. -/
theorem collect_optionalTlvs (d : DeviceData) (mac : Octets 6) :
    (d.optionalTlvs mac).foldlM Addresses.collect ⟨none, none⟩ =
      .ok ⟨d.ipv4Address, d.ipv6Address⟩ := by
  cases hd4 : d.ipv4Address <;> cases hd6 : d.ipv6Address <;>
    simp [DeviceData.optionalTlvs, hd4, hd6, DeviceData.managementTlv, Addresses.collect,
      managementString_ipv4, managementString_ipv6, managementString_mac]

/-- The entry a receiver keeps of a device. -/
def DeviceData.entry (machineId : Bytes) (ttl : UInt16) (d : DeviceData) (mac : Octets 6)
    (ifIndex : UInt16) : NeighbourEntry where
  chassisId := portTlvSubtypeLocal :: machineId
  portId := portTlvSubtypeMac :: mac.toList
  interfaceIndex := ifIndex
  timeToLive := ttl
  ipv4Address := d.ipv4Address
  ipv6Address := d.ipv6Address

theorem dataUnit_entry (machineId : Bytes) (ttl : UInt16) (d : DeviceData) (mac : Octets 6)
    (ifIndex : UInt16) :
    lldpduToNeighbourEntry (d.dataUnit machineId ttl mac) ifIndex =
      .ok (d.entry machineId ttl mac ifIndex) := by
  have hval : beValue (UInt8.ofNat (ttl.toNat / 256)) (UInt8.ofNat ttl.toNat) = ttl.toNat :=
    beValue_be16 ttl.toNat_lt
  have hcollect : (d.dataUnit machineId ttl mac).optionalTlv.foldlM Addresses.collect ⟨none, none⟩ =
      .ok ⟨d.ipv4Address, d.ipv6Address⟩ := collect_optionalTlvs d mac
  rw [lldpduToNeighbourEntry_eq (by simp [DeviceData.dataUnit]) ifIndex hcollect]
  simp only [DeviceData.dataUnit, DeviceData.entry, be16, List.getElem_cons_zero,
    List.getElem_cons_succ, hval, UInt16.ofNat_toNat]

/-- **A receiver reads the sender's data back**, with any padding behind it. -/
theorem dataUnit_read {machineId : Bytes} (hid : machineId.length ≤ 510) (ttl : UInt16)
    (d : DeviceData) (mac : Octets 6) (padding : Bytes) :
    LLDPDataUnit.fromSpan ((d.dataUnit machineId ttl mac).encode ++ padding) =
      .ok (some (d.dataUnit machineId ttl mac)) := by
  rw [LLDPDataUnit.encode, List.append_assoc]
  exact dataUnit_fromSpan_of_body (dataUnit_fits hid ttl d mac) (stops_end padding)

/-- The socket of a receiver cuts off the header. -/
theorem frameBytes_drop (machineId : Bytes) (ttl : UInt16) (d : DeviceData) (mac : Octets 6) :
    (d.frameBytes machineId ttl mac).drop 14 = (d.dataUnit machineId ttl mac).encode :=
  List.drop_left' (header_bytes_length mac)

/-- **What a neighbour makes of a frame**: the entry of the device it was built from. There may
be padding behind the frame. -/
theorem lldpFrameParser_frameBytes {machineId : Bytes} (hid : machineId.length ≤ 510) (ttl : UInt16)
    (device : DeviceData) (mac : Octets 6) (padding : Bytes) (neighbourList : NeighbourList)
    {address : SockaddrLl} (haddress : address.accepted = true) :
    lldpFrameParser neighbourList address
        ((device.frameBytes machineId ttl mac).drop 14 ++ padding) =
      .ok (neighbourList.store
        (device.entry machineId ttl mac (narrowIfindex address.sllIfindex))) := by
  rw [frameBytes_drop, lldpFrameParser, haddress, dataUnit_read hid]
  simp only [Bool.not_true, Bool.false_eq_true, if_false, ok_bind, dataUnit_entry]

/-! ## Any history -/

/-- What the senders share after a list of calls of `SendLldp`. -/
def sentBefore (env : Env) (history : List (UInt16 × LldpSender)) : Io :=
  Run.run (fun io call => (Endpoint.sendLldp env call.1 ⟨call.2, io⟩).io) Io.init history

theorem sentBefore_ok (env : Env) (history : List (UInt16 × LldpSender)) :
    (sentBefore env history).statics.Ok env.machineId := by
  unfold sentBefore
  refine Run.run_inv (I := fun io : Io => io.statics.Ok env.machineId) ?_
    (statics_init_ok env.machineId) history
  intro io call h
  exact Endpoint.sendLldp_ok (p := ⟨call.2, io⟩) h

/-- **The frame of a device is read back by every receiver, and depends on nothing but
the machine id, the device and the TTL.** There are a header and a data unit such that,
after any calls of `SendLldp` for any senders, `SendLldp` for this device hands exactly
their bytes to `sendto` (and nothing if the interface index is no `int`), where it reads the
spans as `constructFrame` filled them; the data unit, with any padding, parses to an entry
with the sender's own data. -/
theorem sendLldp_roundtrip (machineId : Bytes) (hid : machineId.length ≤ 510) (device : DeviceData)
    (mac : Octets 6) (hmac : device.macAddress = some mac) (ttl : UInt16) :
    ∃ header dataUnit : Bytes, header.length = 14 ∧
      (∀ (env : Env) (history : List (UInt16 × LldpSender)) (sender : LldpSender),
        env.machineId = machineId → (env.stack (sentBefore env history).log).Keeps →
        sender.deviceData = device →
        (Endpoint.sendLldp env ttl ⟨sender, sentBefore env history⟩).io.log =
          if device.ifIndex.toNat ≤ intMax then
            ⟨ttl, device, header ++ dataUnit, device.ifIndex.toNat⟩ :: (sentBefore env history).log
          else (sentBefore env history).log) ∧
      ∀ (padding : Bytes) (ifIndex : UInt16), ∃ u : LLDPDataUnit,
        LLDPDataUnit.fromSpan (dataUnit ++ padding) = .ok (some u) ∧
        lldpduToNeighbourEntry u ifIndex = .ok {
          chassisId := 0x07 :: machineId
          portId := 0x03 :: mac.toList
          interfaceIndex := ifIndex
          timeToLive := ttl
          ipv4Address := device.ipv4Address
          ipv6Address := device.ipv6Address } := by
  refine ⟨(DeviceData.header mac).bytes, (device.dataUnit machineId ttl mac).encode,
    header_bytes_length mac, ?_, ?_⟩
  · rintro env history sender rfl hstack rfl
    by_cases hidx : sender.deviceData.ifIndex.toNat ≤ intMax
    -- the index is an `int` and there is a MAC, so the device is not silent
    · have hloud : ¬ Endpoint.Silent ⟨sender, sentBefore env history⟩ := by
        rintro (h | h)
        · exact absurd hidx (by simpa using h)
        · rw [hmac] at h; cases h
      obtain ⟨st, -, hsend⟩ := Endpoint.sendLldp_spec ttl
        ⟨sender, sentBefore env history⟩ (sentBefore_ok env history) hmac hloud
      rw [if_pos hidx, hsend, frameRead_eq hstack hid]
      rfl
    · rw [if_neg hidx, Endpoint.sendLldp_silent (Or.inl (by simpa using hidx))]
  · intro padding ifIndex
    exact ⟨_, dataUnit_read hid ttl device mac padding, dataUnit_entry machineId ttl device mac ifIndex⟩

/-- A short machine id. All sends succeed, and nothing disturbs the stack. -/
def quietEnv : Env := ⟨[0x61], fun _ => .sent, fun _ => .intact⟩

/-- A device with an IPv4 address. -/
theorem sendLldp_roundtrip_ipv4 :
    ∃ header dataUnit : Bytes, header.length = 14 ∧
      (Endpoint.sendLldp quietEnv 30 ⟨⟨⟨some ⟨[2, 0, 0, 0, 0, 1], rfl⟩,
          some ⟨[10, 0, 0, 1], rfl⟩, none, none, true, 2⟩, 0, 0, 0, false⟩,
          sentBefore quietEnv []⟩).io.log.map Sent.buffer = [header ++ dataUnit] ∧
      ∀ (padding : Bytes) (ifIndex : UInt16), ∃ u : LLDPDataUnit,
        LLDPDataUnit.fromSpan (dataUnit ++ padding) = .ok (some u) ∧
        lldpduToNeighbourEntry u ifIndex = .ok {
          chassisId := [0x07, 0x61]
          portId := [0x03, 2, 0, 0, 0, 0, 1]
          interfaceIndex := ifIndex
          timeToLive := 30
          ipv4Address := some ⟨[10, 0, 0, 1], rfl⟩
          ipv6Address := none } := by
  obtain ⟨header, dataUnit, hlen, hsend, hread⟩ := sendLldp_roundtrip [0x61] (by decide)
    ⟨some ⟨[2, 0, 0, 0, 0, 1], rfl⟩, some ⟨[10, 0, 0, 1], rfl⟩, none, none, true, 2⟩
    ⟨[2, 0, 0, 0, 0, 1], rfl⟩ rfl 30
  refine ⟨header, dataUnit, hlen, ?_, hread⟩
  rw [hsend quietEnv [] _ rfl Stack.intact_keeps rfl]
  rfl

end Ndisc
