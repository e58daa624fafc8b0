import Ndisc.Proof.Resync
import Ndisc.Proof.Transmit
import Ndisc.Spec.Repository

/-!
# Where frames come from

An address packet makes a device, and the next synchronisation a sender, for any
interface. Frames still only go out on interfaces that a link packet has shown to be
Ethernet, because only such a packet brings a MAC.

* `Reported`: a MAC that a handled link packet reported for an index.
* `frame_layout`: the bytes of a frame around its source and its port id.
* `Vouched`: what holds of the devices, of the senders and of the frames sent.
* `frames_vouched_iff`: **every frame goes out on a reported interface, with a MAC reported
  for it as its source**; its port id is this MAC if and only if the local of `constructFrame`
  that held it was left alone until the frame was read.
-/

namespace Ndisc

open Wire Netlink Upsert Run
open Std (ExtTreeMap)

/-! ## The bytes of a frame -/

/-- The header of a port id of seven bytes, and the port id. -/
theorem portId_raw {value : Bytes} (hlen : value.length = 7) :
    LLDPDUTypeLengthValue.raw ⟨TLV.portId, value⟩ = [0x04, 0x07] ++ value := by
  have hheader : be16 ((TLV.portId.toNat <<< typeBitOffset ||| 7 % 65536) % 65536) = [0x04, 0x07] := by
    decide
  rw [LLDPDUTypeLengthValue.raw, LLDPDUTypeLengthValue.header, hlen, hheader]

/-- What is stored in `mac_address`, a local of `constructFrame`. -/
def portIdOf (mac : Octets 6) : Bytes := portTlvSubtypeMac :: mac.toList

theorem portIdOf_length (mac : Octets 6) : (portIdOf mac).length = 7 := by
  rw [portIdOf, List.length_cons, List.Vector.toList_length]

/-- **A frame around its source and its port id**: the source is the MAC, behind the multicast
address. The port id, behind the chassis id, is what became of the MAC in its local. -/
theorem frame_layout (stack : Stack) (machineId : Bytes) (ttl : UInt16) (d : DeviceData)
    (mac : Octets 6) :
    ∃ chassis rest : Bytes, chassis.length = machineId.length + 3 ∧
      d.frameRead stack machineId ttl mac =
        multicastAddress.toList ++ mac.toList ++ [0x88, 0xCC] ++ chassis ++
          ([0x04, 0x07] ++ stack.read .macAddress (portIdOf mac)) ++ rest := by
  set u := (LLDPEthernetFrame.onStack stack
    ⟨DeviceData.header mac, d.dataUnit machineId ttl mac⟩).dataUnit with hu
  refine ⟨u.chassisId.raw, u.timeToLive.raw ++
    (u.optionalTlv.flatMap LLDPDUTypeLengthValue.raw ++ endOfDataUnitTlv), ?_, ?_⟩
  · rw [LLDPDUTypeLengthValue.raw, List.length_append, be16_length]
    exact Nat.add_comm 2 (machineId.length + 1)
  · have hlen : (stack.read .macAddress (portIdOf mac)).length = 7 :=
      (Stack.read_length ..).trans (portIdOf_length mac)
    have hport : u.portId.raw = [0x04, 0x07] ++ stack.read .macAddress (portIdOf mac) :=
      portId_raw hlen
    rw [DeviceData.frameRead, LLDPDataUnit.raw, ← hu, hport]
    simp only [DeviceData.header, EtherHeader.bytes, List.append_assoc]
    rfl

/-! ## What vouches for a frame -/

/-- A link packet for this index that was handled, and the MAC it brought. -/
def Reported (links : List LinkView) (index : UInt32) (mac : Octets 6) : Prop :=
  ∃ link ∈ links, link.header.nlmsgType = rtmNewlink ∧
    link.content.interfaceInfo.ifiType = arphrdEther ∧
    link.content.interfaceInfo.ifiIndex.toUInt32 = index ∧
    ∃ tlv ∈ link.content.attributes, tlv.attributeHeader.rtaType = iflaAddress ∧
      tlv.value = mac.toList

/-- The frame goes out on the interface of an RTM_NEWLINK for an Ethernet device with this
very `ifi_index`, and this holds of an IFLA_ADDRESS of that packet. -/
def Sent.Announced (links : List LinkView) (frame : Sent) (P : Bytes → Prop) : Prop :=
  ∃ link ∈ links, link.header.nlmsgType = rtmNewlink ∧
    link.content.interfaceInfo.ifiType = arphrdEther ∧
    link.content.interfaceInfo.ifiIndex.toInt = frame.sllIfindex ∧
    ∃ tlv ∈ link.content.attributes, tlv.attributeHeader.rtaType = iflaAddress ∧ P tlv.value

/-- The address has six bytes, and it is the source of the frame and its port id. -/
def Sent.Vouched (machineId : Bytes) (links : List LinkView) (frame : Sent) : Prop :=
  frame.Announced links fun address => address.length = 6 ∧
    ∃ chassis rest : Bytes, chassis.length = machineId.length + 3 ∧
      frame.buffer = multicastAddress.toList ++ address ++ [0x88, 0xCC] ++ chassis ++
        ([0x04, 0x07, 0x03] ++ address) ++ rest

/-- The same without the port id. -/
def Sent.VouchedSource (links : List LinkView) (frame : Sent) : Prop :=
  frame.Announced links fun address => address.length = 6 ∧
    ∃ rest : Bytes, frame.buffer = multicastAddress.toList ++ address ++ [0x88, 0xCC] ++ rest

/-- When the frame was read, the local with its port id still held it. -/
def Sent.PortIdKept (env : Env) (older : List Sent) (frame : Sent) : Prop :=
  ∀ mac, frame.deviceData.macAddress = some mac →
    (env.stack older).read .macAddress (portIdOf mac) = portIdOf mac

/-- A frame that was sent after the frames `older`, with the MAC of its device: a link packet
reported it for the interface, and it went where source and port id come from. -/
def Sent.Traced (env : Env) (links : List LinkView) (older : List Sent) (frame : Sent) : Prop :=
  ∃ mac, frame.deviceData.macAddress = some mac ∧ frame.Announced links (· = mac.toList) ∧
    ∃ chassis rest : Bytes, chassis.length = env.machineId.length + 3 ∧
      frame.buffer = multicastAddress.toList ++ mac.toList ++ [0x88, 0xCC] ++ chassis ++
        ([0x04, 0x07] ++ (env.stack older).read .macAddress (portIdOf mac)) ++ rest

namespace Sent

variable {env : Env} {links more : List LinkView} {older : List Sent} {frame : Sent}

theorem Announced.imp {P Q : Bytes → Prop} (h : frame.Announced links P)
    (hPQ : ∀ address, P address → Q address) : frame.Announced links Q := by
  obtain ⟨link, hmem, htype, hether, hindex, tlv, htlv, haddress, hP⟩ := h
  exact ⟨link, hmem, htype, hether, hindex, tlv, htlv, haddress, hPQ tlv.value hP⟩

namespace Traced

theorem mono (h : frame.Traced env links older) : frame.Traced env (links ++ more) older := by
  obtain ⟨mac, hmac, ⟨link, hmem, hlink⟩, hbuffer⟩ := h
  exact ⟨mac, hmac, ⟨link, List.mem_append_left _ hmem, hlink⟩, hbuffer⟩

theorem source (h : frame.Traced env links older) : frame.VouchedSource links := by
  obtain ⟨mac, -, hannounced, chassis, rest, -, hbuffer⟩ := h
  refine hannounced.imp fun address haddress => ?_
  subst haddress
  refine ⟨mac.toList_length,
    chassis ++ ([0x04, 0x07] ++ (env.stack older).read .macAddress (portIdOf mac)) ++ rest, ?_⟩
  rw [hbuffer]
  simp only [List.append_assoc]

/-- **All is vouched for exactly where the port id was kept.** -/
theorem vouched_iff (h : frame.Traced env links older) :
    frame.Vouched env.machineId links ↔ frame.PortIdKept env older := by
  obtain ⟨mac, hmac, hannounced, chassis, rest, hlen, hbuffer⟩ := h
  constructor
  · rintro ⟨link', -, -, -, -, tlv', -, -, hsix, chassis', rest', hlen', hbuffer'⟩ mac' hmac'
    cases hmac.symm.trans hmac'
    -- both say what the same bytes are, so the parts are the same one by one
    rw [hbuffer] at hbuffer'
    obtain ⟨hfront, -⟩ := List.append_inj hbuffer' (by simp [hlen, hlen', hsix, portIdOf_length])
    obtain ⟨hhead, hport⟩ := List.append_inj hfront (by simp [hlen, hlen', hsix])
    obtain ⟨htype, -⟩ := List.append_inj hhead (by simp [hsix])
    obtain ⟨haddresses, -⟩ := List.append_inj htype (by simp [hsix])
    obtain ⟨-, hsource⟩ := List.append_inj haddresses rfl
    rw [← hsource] at hport
    exact (List.append_right_inj [0x04, 0x07]).1 hport
  · intro hkept
    refine hannounced.imp fun address haddress => ?_
    subst haddress
    refine ⟨mac.toList_length, chassis, rest, hlen, ?_⟩
    rw [hbuffer, hkept mac hmac]
    rfl

end Traced

end Sent

/-- A device of this index, whose MAC was reported for it. -/
structure DeviceData.Vouched (links : List LinkView) (index : UInt32) (d : DeviceData) : Prop where
  ifIndex : d.ifIndex = index
  macAddress : ∀ mac, d.macAddress = some mac → Reported links index mac

structure Io.Vouched (env : Env) (links : List LinkView) (io : Io) : Prop where
  statics : io.statics.Ok env.machineId
  log : ∀ newer frame older, io.log = newer ++ frame :: older → frame.Traced env links older

/-- A device index that is an `int` is the index of the link packet. -/
theorem toInt_of_toUInt32 {i : Int32} {index : UInt32} (h : i.toUInt32 = index)
    (hle : index.toNat ≤ intMax) : i.toInt = index.toNat := by
  subst h
  have hlt : 2 * i.toBitVec.toNat < 2 ^ 32 := by
    have hnat : i.toBitVec.toNat ≤ intMax := hle
    unfold intMax at hnat
    omega
  exact BitVec.toInt_eq_toNat_of_lt hlt

section

variable {links more : List LinkView} {index : UInt32} {env : Env}

theorem Reported.mono {mac : Octets 6} (h : Reported links index mac) :
    Reported (links ++ more) index mac := by
  obtain ⟨link, hmem, hlink⟩ := h
  exact ⟨link, List.mem_append_left _ hmem, hlink⟩

theorem DeviceData.Vouched.mono {d : DeviceData} (h : d.Vouched links index) :
    d.Vouched (links ++ more) index :=
  ⟨h.ifIndex, fun mac hmac => (h.macAddress mac hmac).mono⟩

theorem Io.Vouched.mono {io : Io} (h : io.Vouched env links) : io.Vouched env (links ++ more) :=
  ⟨h.statics, fun newer frame older hlog => (h.log newer frame older hlog).mono⟩

end

/-! ## One sender -/

namespace Endpoint

structure Vouched (env : Env) (links : List LinkView) (index : UInt32) (p : Endpoint) : Prop where
  device : p.sender.deviceData.Vouched links index
  io : p.io.Vouched env links

variable {env : Env} {links : List LinkView} {index : UInt32} {p : Endpoint}

/-- **`SendLldp`, with either TTL.** -/
theorem sendLldp_vouched (h : Vouched env links index p) (ttl : UInt16) :
    Vouched env links index (p.sendLldp env ttl) := by
  by_cases hs : p.Silent
  · rw [sendLldp_silent hs]; exact h
  · have hidx : p.sender.deviceData.ifIndex.toNat ≤ intMax :=
      Nat.le_of_not_lt fun hbig => hs (Or.inl hbig)
    cases hmac : p.sender.deviceData.macAddress with
    | none => exact absurd (Or.inr hmac) hs
    | some mac =>
      obtain ⟨st, hok, hsent⟩ := sendLldp_spec ttl p h.io.statics hmac hs
      rw [hsent]
      refine ⟨⟨h.device.ifIndex, h.device.macAddress⟩, hok, fun newer frame older hlog => ?_⟩
      rcases newer with _ | ⟨latest, newer⟩
      · obtain ⟨rfl, rfl⟩ := List.cons.inj hlog
        obtain ⟨link, hmem, htype, hether, hindex, tlv, htlv, haddress, hvalue⟩ :=
          h.device.macAddress mac hmac
        refine ⟨mac, hmac, ⟨link, hmem, htype, hether, ?_, tlv, htlv, haddress, hvalue⟩,
          frame_layout _ _ ttl _ mac⟩
        rw [h.device.ifIndex] at hidx ⊢
        exact toInt_of_toUInt32 hindex hidx
      · exact h.io.log newer frame older (List.cons.inj hlog).2

/-- A call neither copies a MAC nor an index. -/
theorem kept_vouched (env : Env) (links : List LinkView) (index : UInt32) :
    Kept env (Vouched env links index) where
  arm _ h := ⟨h.device, h.io⟩
  countdown _ h := ⟨h.device, h.io⟩
  greet _ h := ⟨h.device, h.io⟩
  refill _ _ h := ⟨h.device, h.io⟩
  timer _ _ _ h := ⟨h.device, h.io⟩
  renew _ _ h := ⟨⟨h.device.ifIndex, h.device.macAddress⟩, h.io⟩
  setOperational _ _ h := ⟨⟨h.device.ifIndex, h.device.macAddress⟩, h.io⟩
  tryTransmit p h := by
    unfold tryTransmit
    split
    · exact sendLldp_vouched (p := p.spend) ⟨h.device, h.io⟩ targetTtl
    · exact h
  endTransmission p h := by
    unfold endTransmission
    split
    · exact sendLldp_vouched h 0
    · exact h

/-- **Every call keeps the MAC and the index**, and sends only what they vouch for. -/
theorem step_vouched (h : Vouched env links index p) (op : SenderOp) :
    Vouched env links index (p.step env op) := (kept_vouched env links index).step op h

theorem create_vouched {deviceData : DeviceData} {io : Io} (hdevice : deviceData.Vouched links index)
    (hio : io.Vouched env links) :
    Vouched env links index (create env deviceData io) :=
  (kept_vouched env links index).create ⟨hdevice, hio⟩

end Endpoint

/-! ## The device map -/

section

variable {links : List LinkView} {devices : Devices} {index : UInt32}

def Devices.Vouched (links : List LinkView) (devices : Devices) : Prop :=
  ∀ (index : UInt32) (d : DeviceData), devices[index]? = some d → d.Vouched links index

/-- A MAC that the attributes of a link packet leave was there before, or is one of them. -/
theorem linkChange_macAddress {link : LinkView} {d : DeviceData} {mac : Octets 6}
    (h : (linkChange link d).macAddress = some mac) :
    d.macAddress = some mac ∨ ∃ tlv ∈ link.content.attributes,
      tlv.attributeHeader.rtaType = iflaAddress ∧ tlv.value = mac.toList := by
  unfold linkChange at h
  revert h
  refine List.foldlRecOn (motive := fun e : DeviceData => e.macAddress = some mac → _)
    link.content.attributes handleLinkAttribute Or.inl ?_
  intro e ih tlv htlv h
  unfold handleLinkAttribute at h
  split_ifs at h with hname haddress hlen
  · exact ih h
  · right
    refine ⟨tlv, htlv, haddress, ?_⟩
    rw [← Option.some.inj h]
    rfl
  · exact ih h
  · exact ih h

theorem linkChange_ifIndex (link : LinkView) (d : DeviceData) :
    (linkChange link d).ifIndex = link.content.interfaceInfo.ifiIndex.toUInt32 := by
  unfold linkChange
  refine List.foldlRecOn (motive := fun e : DeviceData => e.ifIndex = _)
    link.content.attributes handleLinkAttribute rfl ?_
  intro e ih tlv _
  unfold handleLinkAttribute
  split_ifs <;> exact ih

/-- Addresses leave the MAC alone. -/
theorem addressChange_vouched (address : AddrView) (d : DeviceData) :
    (addressChange address d).macAddress = d.macAddress ∧
      (addressChange address d).ifIndex = address.content.addressInfo.ifaIndex := by
  unfold addressChange
  refine List.foldlRecOn (motive := fun e : DeviceData => e.macAddress = d.macAddress ∧
    e.ifIndex = address.content.addressInfo.ifaIndex) address.content.attributes
    (handleAddressAttribute address.content.addressInfo.ifaFamily) ⟨rfl, rfl⟩ ?_
  intro e ih tlv _
  unfold handleAddressAttribute
  split_ifs <;> exact ih

/-- A key that is changed, with a device that its new value vouches for. -/
theorem upsert_vouched {f : DeviceData → DeviceData} {key : UInt32} (h : devices.Vouched links)
    (hf : ∀ d : DeviceData, (∀ mac, d.macAddress = some mac → Reported links key mac) →
      (f d).Vouched links key) : Devices.Vouched links (upsert .empty devices key f) := by
  intro index d hd
  rw [getElem?_upsert] at hd
  split at hd
  · rename_i hkey
    subst hkey
    rw [← Option.some.inj hd]
    apply hf
    intro mac hmac
    cases hold : devices[index]? with
    | none => rw [hold] at hmac; cases hmac
    | some old =>
      rw [hold] at hmac
      exact (h index old hold).macAddress mac hmac
  · exact h index d hd

/-- **Only a link packet brings a MAC**, and it is one of those handled. -/
theorem handleLinkPacket_vouched (h : devices.Vouched links) (link : LinkView) :
    Devices.Vouched (links ++ [link]) (devices.handleLinkPacket link) := by
  have hmono : devices.Vouched (links ++ [link]) := fun index d hd => (h index d hd).mono
  unfold Devices.handleLinkPacket
  split
  · exact hmono
  · rename_i hether
    push Not at hether
    refine upsert_vouched hmono fun d hd => ⟨linkChange_ifIndex link d, fun mac hmac => ?_⟩
    rcases linkChange_macAddress hmac with hold | htlv
    · exact hd mac hold
    · exact ⟨link, List.mem_append_right _ (List.mem_singleton_self link), hether.1, hether.2, rfl,
        htlv⟩

theorem handleAddressPacket_vouched (h : devices.Vouched links) (address : AddrView) :
    Devices.Vouched links (devices.handleAddressPacket address) := by
  unfold Devices.handleAddressPacket
  split_ifs
  · exact h
  · exact h
  · refine upsert_vouched h fun d hd => ?_
    obtain ⟨hmac, hindex⟩ := addressChange_vouched address d
    exact ⟨hindex, fun mac h' => hd mac (hmac ▸ h')⟩
  · exact h

end

/-! ## The daemon -/

namespace LldpRepository

structure Vouched (env : Env) (links : List LinkView) (r : LldpRepository) : Prop where
  devices : r.deviceRepository.devices.Vouched links
  senders : ∀ (index : UInt32) (sender : LldpSender), r.currentState[index]? = some sender →
    sender.deviceData.Vouched links index
  io : r.io.Vouched env links

variable {env : Env} {links : List LinkView} {r : LldpRepository}

/-- What a sender leaves in the map. -/
theorem insert_vouched (h : Vouched env links r) {index : UInt32} {p : Endpoint}
    (hp : p.Vouched env links index) :
    Vouched env links { r with currentState := r.currentState.insert index p.sender, io := p.io } := by
  refine ⟨h.devices, fun index' sender hsender => ?_, hp.io⟩
  rw [ExtTreeMap.getElem?_insert] at hsender
  split at hsender
  · rename_i hkey
    rw [← Std.LawfulEqOrd.eq_of_compare hkey, ← Option.some.inj hsender]
    exact hp.device
  · exact h.senders index' sender hsender

theorem atSender_vouched (h : Vouched env links r) (idx : UInt32) {call : Endpoint → Endpoint}
    (hcall : ∀ p : Endpoint, p.Vouched env links idx → (call p).Vouched env links idx) :
    Vouched env links (r.atSender idx call) := by
  unfold atSender
  split
  · rename_i sender hsender
    exact insert_vouched h (hcall _ ⟨h.senders idx sender hsender, h.io⟩)
  · exact h

theorem deleteLldpStateMachine_vouched (h : Vouched env links r) (idx : UInt32) :
    Vouched env links (r.deleteLldpStateMachine env idx) := by
  unfold deleteLldpStateMachine
  split
  · have hend : Vouched env links (r.atSender idx (Endpoint.endTransmission env)) :=
      atSender_vouched h idx fun _ hp => Endpoint.step_vouched hp .endTransmission
    refine ⟨hend.devices, fun index sender hsender => ?_, hend.io⟩
    rw [ExtTreeMap.getElem?_erase] at hsender
    split at hsender
    · cases hsender
    · exact hend.senders index sender hsender
  · exact h

theorem createLldpStateMachine_vouched (h : Vouched env links r) (idx : UInt32) :
    Vouched env links (r.createLldpStateMachine env idx) :=
  atSender_vouched h idx fun _ hp => Endpoint.step_vouched hp .newNeighbour

/-- **One device of a synchronisation.** -/
theorem updateDevice_vouched (h : Vouched env links r) (device : UInt32 × DeviceData)
    (hdevice : device.2.Vouched links device.1) : Vouched env links (r.updateDevice env device) := by
  unfold updateDevice
  -- a sender that exists is updated, any other is made
  split
  · exact atSender_vouched h device.1 fun _ hp => Endpoint.step_vouched hp (.update device.2)
  · exact createLldpStateMachine_vouched
      (insert_vouched h (Endpoint.create_vouched hdevice h.io)) device.1

/-- **A synchronisation** with devices that are vouched for. -/
theorem updateState_vouched (h : Vouched env links r) {newState : Devices}
    (hnew : newState.Vouched links) : Vouched env links (r.updateState env newState) := by
  have hupdated : Vouched env links (newState.toList.foldl (updateDevice env) r) := by
    refine List.foldlRecOn (motive := Vouched env links) newState.toList (updateDevice env) h ?_
    rintro r' hr' ⟨index, d⟩ hmem
    exact updateDevice_vouched hr' (index, d)
      (hnew index d (ExtTreeMap.mem_toList_iff_getElem?_eq_some.1 hmem))
  -- the senders of the indices that are gone say goodbye
  exact List.foldlRecOn (motive := Vouched env links) _
    (fun r idx => r.deleteLldpStateMachine env idx) hupdated
    fun r' hr' idx _ => deleteLldpStateMachine_vouched hr' idx

/-- A tick of the device repository leaves its devices alone. -/
theorem tick_devices (r : DeviceRepository) (deltaSeconds : UInt64) (sent : Bool) :
    (r.tick deltaSeconds sent).devices = r.devices := by
  unfold DeviceRepository.tick DeviceRepository.deviceReaderErrored
    DeviceRepository.ipReaderErrored DeviceRepository.scheduleExpediteResync
  simp only
  split <;> split <;> split <;> rfl

theorem tick_vouched (h : Vouched env links r) (deltaSeconds : UInt64) (sent : Bool) :
    Vouched env links (r.tick env deltaSeconds sent) := by
  have hdevices : (r.deviceRepository.tick deltaSeconds sent).devices.Vouched links := by
    rw [tick_devices]
    exact h.devices
  refine List.foldlRecOn (motive := Vouched env links) r.currentState.keys
    (fun r idx => r.atSender idx (Endpoint.tick env deltaSeconds)) ⟨hdevices, h.senders, h.io⟩ ?_
  intro r' hr' idx _
  exact atSender_vouched hr' idx fun _ hp => Endpoint.step_vouched hp (.tick deltaSeconds)

/-! ## Runs -/

/-- The link that the device reader gives to `HandleLinkPacket`. -/
def updatedLinks : Option (ReaderCallback LinkView) → List LinkView
  | some (.update link) => [link]
  | _ => []

theorem deviceReaderPacket_vouched {r : DeviceRepository} (h : r.devices.Vouched links)
    (packet : NetlinkPacketView) (sent : Bool) :
    (r.deviceReaderPacket packet sent).devices.Vouched
      (links ++ updatedLinks (DeviceReader.handleNetlinkPacket r.deviceReader packet).2) := by
  have hkeep : r.devices.Vouched (links ++ []) := by rwa [List.append_nil]
  unfold DeviceRepository.deviceReaderPacket
  rcases DeviceReader.handleNetlinkPacket r.deviceReader packet with ⟨reader, _ | link | _ | _⟩
  · exact hkeep
  · exact handleLinkPacket_vouched h link
  · exact hkeep
  · exact hkeep

/-- The address reader changes the devices or hands them over. -/
theorem ipReaderPacket_devices (r : DeviceRepository) (packet : NetlinkPacketView) :
    (∃ address, (r.ipReaderPacket packet).1.devices = r.devices.handleAddressPacket address ∧
        (r.ipReaderPacket packet).2 = none) ∨
      ((r.ipReaderPacket packet).1.devices = r.devices ∧
        ((r.ipReaderPacket packet).2 = none ∨ (r.ipReaderPacket packet).2 = some r.devices)) := by
  unfold DeviceRepository.ipReaderPacket
  rcases IpReader.handleNetlinkPacket r.ipReader packet with ⟨reader, _ | address | _ | _⟩
  · exact Or.inr ⟨rfl, Or.inl rfl⟩
  · exact Or.inl ⟨address, rfl, rfl⟩
  · refine Or.inr ⟨rfl, ?_⟩
    cases hset : r.synchronizationCallback with
    | true => exact Or.inr (by simp [DeviceRepository.ipReaderFinished])
    | false => exact Or.inl (by simp [DeviceRepository.ipReaderFinished])
  · exact Or.inr ⟨rfl, Or.inl rfl⟩

theorem synchronize_vouched (h : Vouched env links r) {handed : Option Devices}
    (hhanded : ∀ devices, handed = some devices → devices.Vouched links) :
    Vouched env links (r.synchronize env handed) := by
  unfold synchronize
  split
  · rename_i newState
    exact updateState_vouched h (hhanded newState rfl)
  · exact h

/-- The link packets that an event gives to `HandleLinkPacket`. -/
def handledLinks (r : LldpRepository) : DaemonEvent → List LinkView
  | .handleLinkPacket link => [link]
  | .linkPacket packet _ =>
    updatedLinks (DeviceReader.handleNetlinkPacket r.deviceRepository.deviceReader packet).2
  | _ => []

/-- **Every event is vouched for** by the link packets handled so far, those of the event
itself included. -/
theorem step_vouched (r : LldpRepository) (event : DaemonEvent) (past : List LinkView)
    (h : Vouched env past r) : Vouched env (past ++ r.handledLinks event) (r.step env event) := by
  have hsame : ∀ {r' : LldpRepository}, Vouched env past r' → Vouched env (past ++ []) r' := by
    intro r' hr'
    rwa [List.append_nil]
  cases event with
  | tick deltaSeconds sent => exact hsame (tick_vouched h deltaSeconds sent)
  | monitorPacket packet => exact hsame ⟨h.devices, h.senders, h.io⟩
  | linkPacket packet sent =>
    exact ⟨deviceReaderPacket_vouched h.devices packet sent,
      fun i s hs => (h.senders i s hs).mono, h.io.mono⟩
  | addrPacket packet =>
    apply hsame
    unfold step
    simp only
    rcases ipReaderPacket_devices r.deviceRepository packet with
      ⟨address, hdevices, hnone⟩ | ⟨hdevices, hhanded⟩
    · rw [hnone]
      refine ⟨?_, h.senders, h.io⟩
      rw [synchronize, hdevices]
      exact handleAddressPacket_vouched h.devices address
    · have hread : Vouched env past
          { r with deviceRepository := (r.deviceRepository.ipReaderPacket packet).1 } :=
        ⟨hdevices.symm ▸ h.devices, h.senders, h.io⟩
      refine synchronize_vouched hread fun devices hsome => ?_
      rcases hhanded with hnone | hall
      · rw [hnone] at hsome; cases hsome
      · rw [hall] at hsome
        rw [← Option.some.inj hsome]
        exact h.devices
  | handleLinkPacket link =>
    exact ⟨handleLinkPacket_vouched h.devices link, fun i s hs => (h.senders i s hs).mono, h.io.mono⟩
  | handleAddressPacket address =>
    exact hsame ⟨handleAddressPacket_vouched h.devices address, h.senders, h.io⟩
  | ipReaderFinished =>
    refine hsame (synchronize_vouched h fun devices hsome => ?_)
    unfold DeviceRepository.ipReaderFinished at hsome
    split at hsome
    · rw [← Option.some.inj hsome]
      exact h.devices
    · cases hsome
  | markChanged idx =>
    exact hsame (atSender_vouched h idx fun _ hp => Endpoint.step_vouched hp .localChangeDetected)
  | newNeighbour idx => exact hsame (createLldpStateMachine_vouched h idx)
  | delete idx => exact hsame (deleteLldpStateMachine_vouched h idx)

/-- An event that sends handles no link, so the links handled before it are enough. -/
theorem step_io_vouched (r : LldpRepository) (event : DaemonEvent) (past : List LinkView)
    (h : Vouched env past r) : (r.step env event).io.Vouched env past := by
  have hstep := (step_vouched r event past h).io
  cases event with
  | linkPacket packet sent => exact h.io
  | handleLinkPacket link => exact h.io
  | _ => exact (List.append_nil past) ▸ hstep

end LldpRepository

open LldpRepository

/-- What a run has sent. -/
theorem run_traced (env : Env) (before : List DaemonEvent) (event : DaemonEvent) :
    ∀ newer frame older,
      (run (LldpRepository.step env) .create (before ++ [event])).io.log = newer ++ frame :: older →
        frame.Traced env (observe (LldpRepository.step env) handledLinks .create before) older := by
  have hcreate : Vouched env [] .create := by
    refine ⟨fun index d hd => ?_, fun index s hs => ?_, statics_init_ok env.machineId, ?_⟩
    · have hnone : (LldpRepository.create.deviceRepository.devices)[index]? = none :=
        ExtTreeMap.getElem?_empty
      rw [hnone] at hd; cases hd
    · have hnone : (LldpRepository.create.currentState)[index]? = none := ExtTreeMap.getElem?_empty
      rw [hnone] at hs; cases hs
    · intro newer frame older hlog
      cases newer <;> cases hlog
  have hbefore := observe_inv (I := fun r past => Vouched env past r)
    step_vouched hcreate before
  rw [run_concat]
  exact (step_io_vouched _ event _ hbefore).log

/-- **Every frame comes from a reported interface.** In every run of the daemon from its
construction, every frame that was handed to `sendto` up to the end of an event went out on
the index of an Ethernet RTM_NEWLINK that was handled before that event, and carries a
six-byte IFLA_ADDRESS of that packet as its source. That it carries this address as its port id
as well holds if and only if the local of `constructFrame` still held it when the frame was
read. -/
theorem frames_vouched_iff (env : Env) (before : List DaemonEvent) (event : DaemonEvent)
    (newer : List Sent) (frame : Sent) (older : List Sent)
    (h : (run (LldpRepository.step env) .create (before ++ [event])).io.log =
      newer ++ frame :: older) :
    frame.VouchedSource (observe (LldpRepository.step env) handledLinks .create before) ∧
      (frame.Vouched env.machineId
          (observe (LldpRepository.step env) handledLinks .create before) ↔
        frame.PortIdKept env older) :=
  have htraced := run_traced env before event newer frame older h
  ⟨htraced.source, htraced.vouched_iff⟩

/-- Interface 2 is an Ethernet device that is up. -/
def reportedLink : LinkView :=
  ⟨⟨44, rtmNewlink, 0, 1, 0⟩, ⟨0, arphrdEther, 2, iffUp ||| iffLowerUp, 0⟩,
    [⟨⟨10, iflaAddress⟩, [2, 0, 0, 0, 0, 1]⟩]⟩

/-- A synchronisation makes its sender, and the next tick brings the credit for a frame. -/
theorem frames_vouched_iff_first :
    ∃ frame, (run (LldpRepository.step quietEnv) .create
        ([.handleLinkPacket reportedLink, .ipReaderFinished] ++ [.tick 1 true])).io.log = [frame] ∧
      frame.Vouched [0x61] (observe (LldpRepository.step quietEnv) handledLinks
        .create [.handleLinkPacket reportedLink, .ipReaderFinished]) := by
  have hlog : ((run (LldpRepository.step quietEnv) .create
      ([.handleLinkPacket reportedLink, .ipReaderFinished] ++ [.tick 1 true])).io.log).length = 1 := by
    decide +kernel
  obtain ⟨frame, hframe⟩ := List.length_eq_one_iff.1 hlog
  obtain ⟨-, hvouched⟩ := frames_vouched_iff quietEnv _ _ [] frame [] hframe
  exact ⟨frame, hframe, hvouched.2 fun mac _ => Stack.intact_keeps.read_eq _ _⟩

/-- The machine id and the sends of `quietEnv`, but the stack is overwritten before the frame is
read. -/
def usedStackEnv : Env := { quietEnv with stack := fun _ _ _ _ => 0 }

/-- **What is read is not what was built**: the frame has a port id of zeros. -/
theorem frames_not_vouched :
    ¬ ∀ (env : Env) (before : List DaemonEvent) (event : DaemonEvent),
      ∀ frame ∈ (run (LldpRepository.step env) .create (before ++ [event])).io.log,
        frame.Vouched env.machineId
          (observe (LldpRepository.step env) handledLinks .create before) := by
  intro h
  have hlog : ((run (LldpRepository.step usedStackEnv) .create
      ([.handleLinkPacket reportedLink, .ipReaderFinished] ++ [.tick 1 true])).io.log).map
        (fun frame => frame.deviceData.macAddress) = [some ⟨[2, 0, 0, 0, 0, 1], rfl⟩] := by
    decide +kernel
  obtain ⟨frame, hframe, hmac⟩ := List.map_eq_singleton_iff.1 hlog
  have htraced := run_traced usedStackEnv _ _ [] frame [] hframe
  have hvouched := h usedStackEnv _ _ frame (hframe ▸ List.mem_singleton_self frame)
  have hkept := htraced.vouched_iff.1 hvouched _ hmac
  exact absurd hkept (by decide)

end Ndisc
