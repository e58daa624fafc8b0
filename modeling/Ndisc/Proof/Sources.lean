import Ndisc.Proof.Goodbye

/-!
# What a frame says, and who said it first

The device data of a sender are copied from the map of devices, field by field, and each
field of that map from one kind of message.

* `Rule`, `Endpoint.Carries`, `LldpRepository.Carries`: a property of device data that the
  copying keeps holds of all devices, of all senders and of all frames.
* `Sourced`: each field comes from a message about the interface that was handled.
* `frames_sourced`: **every frame is that of a device whose MAC, name and addresses the kernel
  reported for the interface it goes out on, and a neighbour reads just these from it**.
-/

namespace Ndisc

open Wire Netlink Run Upsert
open Std (ExtTreeMap)

/-! ## What copying keeps -/

/-- A property of the device data of an interface that `Update` and `SendLldp` keep. -/
structure Rule (P : UInt32 → DeviceData → Prop) : Prop where
  operational : ∀ i d b, P i d → P i { d with deviceOperational := b }
  renew : ∀ i d d', P i d → P i d' → P i { d with
    interfaceName := d'.interfaceName
    ipv4Address := d'.ipv4Address
    ipv6Address := d'.ipv6Address }

/-- The frame of a device: its bytes, and the interface it goes out on. -/
structure Sent.Made (env : Env) (P : UInt32 → DeviceData → Prop) (frame : Sent) : Prop where
  device : ∃ i, P i frame.deviceData
  buffer : ∃ mac older, frame.deviceData.macAddress = some mac ∧ frame.buffer =
    frame.deviceData.frameRead (env.stack older) env.machineId frame.ttl mac
  sllIfindex : frame.sllIfindex = frame.deviceData.ifIndex.toNat ∧ frame.sllIfindex ≤ intMax

structure Io.Carries (env : Env) (P : UInt32 → DeviceData → Prop) (io : Io) : Prop where
  statics : io.statics.Ok env.machineId
  log : ∀ frame ∈ io.log, frame.Made env P

namespace Endpoint

structure Carries (env : Env) (P : UInt32 → DeviceData → Prop) (i : UInt32) (p : Endpoint) : Prop where
  device : P i p.sender.deviceData
  io : p.io.Carries env P

variable {env : Env} {P : UInt32 → DeviceData → Prop} {i : UInt32} {p : Endpoint}

/-- **What `SendLldp` adds is the frame of the device.** -/
theorem sendLldp_carries (hP : Rule P) (h : p.Carries env P i)
    (ttl : UInt16) : (p.sendLldp env ttl).Carries env P i := by
  by_cases hs : p.Silent
  · rw [sendLldp_silent hs]
    exact h
  · have hindex : p.sender.deviceData.ifIndex.toNat ≤ intMax :=
      Nat.le_of_not_lt fun hbig => hs (Or.inl hbig)
    cases hmac : p.sender.deviceData.macAddress with
    | none => exact absurd (Or.inr hmac) hs
    | some mac =>
      obtain ⟨st, hst, heq⟩ := sendLldp_spec ttl p h.io.statics hmac hs
      rw [heq]
      refine ⟨hP.operational i _ _ h.device, hst, ?_⟩
      intro frame hframe
      rcases List.mem_cons.1 hframe with rfl | hold
      · exact ⟨⟨i, h.device⟩, ⟨mac, _, hmac, rfl⟩, rfl, hindex⟩
      · exact h.io.log frame hold

theorem tryTransmit_carries (hP : Rule P)
    (h : p.Carries env P i) : (p.tryTransmit env).Carries env P i := by
  unfold tryTransmit
  split
  · exact sendLldp_carries hP (p := p.spend) ⟨h.device, h.io⟩ targetTtl
  · exact h

theorem newNeighbour_carries (hP : Rule P)
    (h : p.Carries env P i) : (p.newNeighbour env).Carries env P i := by
  rw [newNeighbour_eq]
  exact tryTransmit_carries hP (p := p.greet.countdown.arm) ⟨h.device, h.io⟩

theorem tick_carries (hP : Rule P) (deltaSeconds : UInt64)
    (h : p.Carries env P i) : (p.tick env deltaSeconds).Carries env P i := by
  rw [tick_eq]
  split
  · apply tryTransmit_carries hP
    unfold elapse
    split
    · exact ⟨h.device, h.io⟩
    · rw [timerExpired_eq]
      exact tryTransmit_carries hP
        (p := (countdown { p.refill deltaSeconds with sender.transmitTimer := 0 }).arm)
        ⟨h.device, h.io⟩
  · exact h

/-- **An update with data of the same interface.** -/
theorem update_carries (hP : Rule P) {newDeviceData : DeviceData}
    (hnew : P i newDeviceData) (h : p.Carries env P i) :
    (p.update env newDeviceData).Carries env P i := by
  rcases update_eq env newDeviceData p with ⟨-, heq⟩ | ⟨-, heq⟩
  · rw [heq]
    exact h
  · have hrenewed : (p.renew newDeviceData).Carries env P i :=
      ⟨hP.renew i _ _ h.device hnew, h.io⟩
    have hgreeted : (if p.operational = true ∧ newDeviceData.deviceOperational = false then
        (p.renew newDeviceData).newNeighbour env else p.renew newDeviceData).Carries env P i := by
      split
      · exact newNeighbour_carries hP hrenewed
      · exact hrenewed
    rw [heq, localChangeDetected_eq]
    exact tryTransmit_carries hP ⟨hP.operational i _ _ hgreeted.device, hgreeted.io⟩

theorem create_carries (hP : Rule P) {deviceData : DeviceData}
    {io : Io} (hdevice : P i deviceData) (hio : io.Carries env P) :
    (create env deviceData io).Carries env P i := by
  unfold create
  simp only
  split
  · exact newNeighbour_carries hP ⟨hdevice, hio⟩
  · exact ⟨hdevice, hio⟩

end Endpoint

namespace LldpRepository

structure Carries (env : Env) (P : UInt32 → DeviceData → Prop) (r : LldpRepository) : Prop where
  devices : ∀ (i : UInt32) (d : DeviceData), r.deviceRepository.devices[i]? = some d → P i d
  senders : ∀ (i : UInt32) (sender : LldpSender), r.currentState[i]? = some sender →
    P i sender.deviceData
  io : r.io.Carries env P

variable {env : Env} {P : UInt32 → DeviceData → Prop} {r : LldpRepository}

theorem insert_carries (h : r.Carries env P) {i : UInt32} {p : Endpoint} (hp : p.Carries env P i) :
    Carries env P { r with currentState := r.currentState.insert i p.sender, io := p.io } := by
  refine ⟨h.devices, fun i' sender hsender => ?_, hp.io⟩
  rw [ExtTreeMap.getElem?_insert] at hsender
  split at hsender
  · rename_i hkey
    rw [← Std.LawfulEqOrd.eq_of_compare hkey, ← Option.some.inj hsender]
    exact hp.device
  · exact h.senders i' sender hsender

theorem atSender_carries (h : r.Carries env P) (idx : UInt32) {call : Endpoint → Endpoint}
    (hcall : ∀ p : Endpoint, p.Carries env P idx → (call p).Carries env P idx) :
    (r.atSender idx call).Carries env P := by
  unfold atSender
  split
  · rename_i sender hsender
    exact insert_carries h (hcall _ ⟨h.senders idx sender hsender, h.io⟩)
  · exact h

theorem tick_carries (hP : Rule P) (h : r.Carries env P)
    (deltaSeconds : UInt64) (sent : Bool) : (r.tick env deltaSeconds sent).Carries env P := by
  have hstart : Carries env P { r with
      deviceRepository := r.deviceRepository.tick deltaSeconds sent } :=
    ⟨by rw [tick_devices]; exact h.devices, h.senders, h.io⟩
  refine List.foldlRecOn (motive := Carries env P) r.currentState.keys
    (fun r idx => r.atSender idx (Endpoint.tick env deltaSeconds)) hstart ?_
  intro r' hr' idx _
  exact atSender_carries hr' idx fun _ hp => Endpoint.tick_carries hP deltaSeconds hp

/-- The turn of a device. -/
theorem device_turn_carries (hP : Rule P) (h : r.Carries env P)
    {index : UInt32} {deviceData : DeviceData} (hdevice : P index deviceData) :
    (r.updateDevice env (index, deviceData)).Carries env P := by
  unfold updateDevice
  -- a sender that exists is updated, any other is made
  split
  · exact atSender_carries h index fun _ hp => Endpoint.update_carries hP hdevice hp
  · exact atSender_carries (insert_carries h (Endpoint.create_carries hP hdevice h.io)) index
      fun _ hp => Endpoint.newNeighbour_carries hP hp

/-- **A synchronisation that leaves no sender out.** -/
theorem updateState_carries (hP : Rule P) (h : r.Carries env P)
    (hbacked : r.Backed) : (r.updateState env r.deviceRepository.devices).Carries env P := by
  rw [updateState_backed env hbacked]
  refine List.foldlRecOn (motive := Carries env P) r.deviceRepository.devices.toList _ h ?_
  rintro r' hr' ⟨index, deviceData⟩ hmem
  exact device_turn_carries hP hr'
    (h.devices index deviceData (ExtTreeMap.mem_toList_iff_getElem?_eq_some.1 hmem))

/-! ## Events -/

/-- The address that the address reader gives to `HandleAddressPacket`. -/
def updatedAddresses : Option (ReaderCallback AddrView) → List AddrView
  | some (.update address) => [address]
  | _ => []

/-- The address packets that an event of the loop gives to `HandleAddressPacket`. -/
def handledAddresses (r : LldpRepository) : DaemonEvent → List AddrView
  | .addrPacket packet =>
    updatedAddresses (IpReader.handleNetlinkPacket r.deviceRepository.ipReader packet).2
  | _ => []

/-- What a packet that is handled has to keep. -/
structure Keeps (P : UInt32 → DeviceData → Prop) (r : LldpRepository) (event : DaemonEvent) : Prop where
  links : ∀ link ∈ r.handledLinks event, ∀ i, ethernetIndex link = some i →
    ∀ d, d = .empty ∨ P i d → P i (linkChange link d)
  addresses : ∀ address ∈ r.handledAddresses event, ∀ i, acceptedIndex address = some i →
    ∀ d, d = .empty ∨ P i d → P i (addressChange address d)

/-- A device that is changed, or made. -/
theorem update_device {β : Type} {key : β → Option UInt32} {change : β → DeviceData → DeviceData}
    {devices : Devices} {x : β} (h : ∀ (i : UInt32) (d : DeviceData), devices[i]? = some d → P i d)
    (hchange : ∀ i, key x = some i → ∀ d, d = .empty ∨ P i d → P i (change x d)) (i : UInt32)
    (d : DeviceData) (hd : (update DeviceData.empty key change devices x)[i]? = some d) : P i d := by
  rw [getElem?_update] at hd
  split at hd
  · rename_i hkey
    rw [← Option.some.inj hd]
    apply hchange i hkey
    cases hold : devices[i]? with
    | none => exact Or.inl rfl
    | some old => exact Or.inr (h i old hold)
  · exact h i d hd

theorem deviceReaderPacket_carries {packet : NetlinkPacketView} {sent : Bool}
    (h : r.Carries env P) (hkeeps : Keeps P r (.linkPacket packet sent)) :
    (r.step env (.linkPacket packet sent)).Carries env P := by
  refine ⟨?_, h.senders, h.io⟩
  have hlinks : ∀ link ∈ updatedLinks
      (DeviceReader.handleNetlinkPacket r.deviceRepository.deviceReader packet).2, _ := hkeeps.links
  show ∀ i d, (r.deviceRepository.deviceReaderPacket packet sent).devices[i]? = some d → P i d
  unfold DeviceRepository.deviceReaderPacket
  rcases hcall : DeviceReader.handleNetlinkPacket r.deviceRepository.deviceReader packet with
    ⟨reader, _ | link | _ | _⟩
  · exact h.devices
  · rw [hcall] at hlinks
    show ∀ i d, (r.deviceRepository.devices.handleLinkPacket link)[i]? = some d → P i d
    rw [handleLinkPacket_eq]
    exact update_device h.devices (hlinks link (List.mem_singleton_self link))
  · exact h.devices
  · exact h.devices

theorem addrPacket_carries (hP : Rule P)
    {packet : NetlinkPacketView} (h : r.Carries env P) (hbacked : r.Backed)
    (hkeeps : Keeps P r (.addrPacket packet)) : (r.step env (.addrPacket packet)).Carries env P := by
  have haddresses : ∀ address ∈ updatedAddresses
      (IpReader.handleNetlinkPacket r.deviceRepository.ipReader packet).2, _ := hkeeps.addresses
  show Carries env P (synchronize env (r.deviceRepository.ipReaderPacket packet).2
    { r with deviceRepository := (r.deviceRepository.ipReaderPacket packet).1 })
  unfold DeviceRepository.ipReaderPacket
  rcases hcall : IpReader.handleNetlinkPacket r.deviceRepository.ipReader packet with
    ⟨reader, _ | address | _ | _⟩
  · exact ⟨h.devices, h.senders, h.io⟩
  · rw [hcall] at haddresses
    refine ⟨?_, h.senders, h.io⟩
    show ∀ i d, (r.deviceRepository.devices.handleAddressPacket address)[i]? = some d → P i d
    rw [handleAddressPacket_eq]
    exact update_device h.devices (haddresses address (List.mem_singleton_self address))
  · -- the dump is over, and the senders get the devices if the callback is set
    have hread : Carries env P { r with deviceRepository := { r.deviceRepository with
        ipReader := reader } } := ⟨h.devices, h.senders, h.io⟩
    show (synchronize env (DeviceRepository.ipReaderFinished _) _).Carries env P
    unfold DeviceRepository.ipReaderFinished
    split
    · exact updateState_carries hP hread hbacked
    · exact hread
  · exact ⟨h.devices, h.senders, h.io⟩

/-- **What an event of the loop keeps.** -/
theorem step_carries (hP : Rule P) {event : DaemonEvent}
    (hevent : event.Looped) (hbacked : r.Backed) (hkeeps : Keeps P r event)
    (h : r.Carries env P) : (r.step env event).Carries env P := by
  cases event with
  | tick deltaSeconds sent => exact tick_carries hP h deltaSeconds sent
  | monitorPacket packet => exact ⟨h.devices, h.senders, h.io⟩
  | linkPacket packet sent => exact deviceReaderPacket_carries h hkeeps
  | addrPacket packet => exact addrPacket_carries hP h hbacked hkeeps
  | _ => cases hevent

theorem create_carries (env : Env) (P : UInt32 → DeviceData → Prop) :
    LldpRepository.create.Carries env P := by
  refine ⟨fun i d hd => ?_, fun i s hs => ?_, statics_init_ok env.machineId, fun _ hf => by cases hf⟩
  · have hnone : (LldpRepository.create.deviceRepository.devices)[i]? = none :=
      ExtTreeMap.getElem?_empty
    rw [hnone] at hd
    cases hd
  · have hnone : (LldpRepository.create.currentState)[i]? = none := ExtTreeMap.getElem?_empty
    rw [hnone] at hs
    cases hs

/-- **A rule that every handled packet keeps holds of all devices, senders and frames.** -/
theorem run_carries (hP : Rule P) {events : List DaemonEvent}
    (hevents : ∀ event ∈ events, event.Looped) (hkeeps : Along (step env) (Keeps P) .create events) :
    (run (step env) .create events).Carries env P := by
  have hlooped : Along (step env) (fun _ event => event.Looped) create events :=
    along_of_forall create hevents
  refine (along_inv (I := fun r => r.Carries env P ∧ r.Backed) ?_
    ⟨create_carries env P, create_backed⟩ (hkeeps.and hlooped)).1
  intro r event hr hevent
  exact ⟨step_carries hP hevent.2 hr.2 hevent.1 hr.1, (step_onward env hr.2 hevent.2).2⟩

end LldpRepository

open LldpRepository

/-! ## Where each field comes from -/

/-- A name that a handled link packet gave to this index. -/
def Named (links : List LinkView) (i : UInt32) (name : Bytes) : Prop :=
  ∃ link ∈ links, ethernetIndex link = some i ∧ ∃ tlv ∈ link.content.attributes,
    tlv.attributeHeader.rtaType = iflaIfname ∧ name = dropNul tlv.value

/-- An address that an accepted packet of the family gave to this index. -/
def Family.Assigned (F : Family) (addresses : List AddrView) (i : UInt32) (a : Octets F.size) : Prop :=
  ∃ address ∈ addresses, F.Has i address ∧ ifaAddressOf F.size address = some a

namespace DeviceData

/-- Each field that there is comes from a packet about this index. -/
structure Fields (links : List LinkView) (addresses : List AddrView) (i : UInt32) (d : DeviceData) :
    Prop where
  macAddress : ∀ mac, d.macAddress = some mac → Reported links i mac
  interfaceName : ∀ name, d.interfaceName = some name → Named links i name
  ipv4Address : ∀ a, d.ipv4Address = some a → ipv4.Assigned addresses i a
  ipv6Address : ∀ a, d.ipv6Address = some a → ipv6.Assigned addresses i a

/-- A device of this index, with such fields. -/
structure Sourced (links : List LinkView) (addresses : List AddrView) (i : UInt32) (d : DeviceData) :
    Prop extends Fields links addresses i d where
  ifIndex : d.ifIndex = i

variable {links : List LinkView} {addresses : List AddrView} {i : UInt32} {d : DeviceData}

theorem fields_of (h : d = .empty ∨ d.Sourced links addresses i) : d.Fields links addresses i := by
  rcases h with rfl | h
  · exact ⟨fun _ h => (Option.some_ne_none _ h.symm).elim, fun _ h => (Option.some_ne_none _ h.symm).elim,
      fun _ h => (Option.some_ne_none _ h.symm).elim, fun _ h => (Option.some_ne_none _ h.symm).elim⟩
  · exact h.toFields

theorem sourced_rule (links : List LinkView) (addresses : List AddrView) :
    Rule (Sourced links addresses) where
  operational _ _ _ h :=
    ⟨⟨h.macAddress, h.interfaceName, h.ipv4Address, h.ipv6Address⟩, h.ifIndex⟩
  renew _ _ _ h h' :=
    ⟨⟨h.macAddress, h'.interfaceName, h'.ipv4Address, h'.ipv6Address⟩, h.ifIndex⟩

/-- A name that the attributes of a link packet leave was there before, or is one of them. -/
theorem linkChange_interfaceName {link : LinkView} {name : Bytes}
    (h : (linkChange link d).interfaceName = some name) :
    d.interfaceName = some name ∨ ∃ tlv ∈ link.content.attributes,
      tlv.attributeHeader.rtaType = iflaIfname ∧ name = dropNul tlv.value := by
  unfold linkChange at h
  revert h
  refine List.foldlRecOn (motive := fun e : DeviceData => e.interfaceName = some name → _)
    link.content.attributes handleLinkAttribute Or.inl ?_
  intro e ih tlv htlv h
  unfold handleLinkAttribute at h
  split_ifs at h with hname haddress hlen
  · exact Or.inr ⟨tlv, htlv, hname.1, (Option.some.inj h).symm⟩
  · exact ih h
  · exact ih h
  · exact ih h

theorem ethernetIndex_eq {link : LinkView} (h : ethernetIndex link = some i) :
    link.header.nlmsgType = rtmNewlink ∧ link.content.interfaceInfo.ifiType = arphrdEther ∧
      link.content.interfaceInfo.ifiIndex.toUInt32 = i := by
  unfold ethernetIndex at h
  split at h
  · rename_i hether
    exact ⟨hether.1, hether.2, Option.some.inj h⟩
  · cases h

/-- **A link packet** brings the MAC and the name. -/
theorem linkChange_sourced {link : LinkView} (hlink : link ∈ links)
    (hindex : ethernetIndex link = some i) (h : d.Fields links addresses i) :
    (linkChange link d).Sourced links addresses i := by
  obtain ⟨htype, hether, hi⟩ := ethernetIndex_eq hindex
  obtain ⟨h4, h6⟩ := linkChange_addresses link d
  refine ⟨⟨fun mac hmac => ?_, fun name hname => ?_, fun a ha => ?_, fun a ha => ?_⟩, ?_⟩
  · rcases linkChange_macAddress hmac with hold | htlv
    · exact h.macAddress mac hold
    · exact ⟨link, hlink, htype, hether, hi, htlv⟩
  · rcases linkChange_interfaceName hname with hold | htlv
    · exact h.interfaceName name hold
    · exact ⟨link, hlink, hindex, htlv⟩
  · exact h.ipv4Address a (h4 ▸ ha)
  · exact h.ipv6Address a (h6 ▸ ha)
  · rw [linkChange_ifIndex, hi]

/-- What an address packet leaves of an address: its own, or what was there. -/
theorem get_assigned {F : Family} {address : AddrView} (haddress : address ∈ addresses)
    (hindex : acceptedIndex address = some i) (h : ∀ a, F.get d = some a → F.Assigned addresses i a)
    (a : Octets F.size) (ha : F.get (addressChange address d) = some a) :
    F.Assigned addresses i a := by
  rw [F.get_address, Option.or_eq_some_iff] at ha
  rcases ha with hnew | ⟨-, hold⟩
  · split at hnew
    · rename_i hcode
      exact ⟨address, haddress, ⟨hindex, hcode⟩, hnew⟩
    · cases hnew
  · exact h a hold

theorem addressChange_interfaceName (address : AddrView) (d : DeviceData) :
    (addressChange address d).interfaceName = d.interfaceName := by
  unfold addressChange
  refine List.foldlRecOn (motive := fun e : DeviceData => e.interfaceName = d.interfaceName)
    address.content.attributes (handleAddressAttribute address.content.addressInfo.ifaFamily) rfl ?_
  intro e ih tlv _
  unfold handleAddressAttribute
  split_ifs <;> exact ih

theorem acceptedIndex_eq {address : AddrView} (h : acceptedIndex address = some i) :
    address.content.addressInfo.ifaIndex = i := by
  unfold acceptedIndex at h
  split at h
  · exact Option.some.inj h
  · cases h

/-- **An address packet** brings an address of its family. -/
theorem addressChange_sourced {address : AddrView} (haddress : address ∈ addresses)
    (hindex : acceptedIndex address = some i) (h : d.Fields links addresses i) :
    (addressChange address d).Sourced links addresses i := by
  obtain ⟨hmac, hi⟩ := addressChange_vouched address d
  refine ⟨⟨fun mac hmac' => h.macAddress mac (hmac ▸ hmac'), fun name hname => ?_,
    get_assigned (F := ipv4) haddress hindex h.ipv4Address,
    get_assigned (F := ipv6) haddress hindex h.ipv6Address⟩, ?_⟩
  · rw [addressChange_interfaceName] at hname
    exact h.interfaceName name hname
  · rw [hi, acceptedIndex_eq hindex]

end DeviceData

/-! ## Frames -/

namespace Daemon

variable {platform : Platform} {verbose : Bool} {calls : List HandlerCall} {d : Daemon}

/-- The link packets, and the address packets, that were handled in a run. -/
def links (platform : Platform) (calls : List HandlerCall) : List LinkView :=
  observe (LldpRepository.step platform.env) handledLinks .create (events platform calls)

def addresses (platform : Platform) (calls : List HandlerCall) : List AddrView :=
  observe (LldpRepository.step platform.env) handledAddresses .create (events platform calls)

/-- **Every device, every sender and every frame of a run is sourced.** -/
theorem run_sourced (h : Daemon.run platform verbose calls = .ok d) :
    d.lldpRepository.Carries platform.env
      (DeviceData.Sourced (links platform calls) (addresses platform calls)) := by
  obtain ⟨-, -, hd, -⟩ := run_parts h
  rw [hd]
  apply run_carries (DeviceData.sourced_rule _ _) (events_looped platform calls)
  have hlinks : Along (LldpRepository.step platform.env)
      (fun r event => ∀ link ∈ r.handledLinks event, link ∈ links platform calls) .create
      (events platform calls) := along_observe fun _ hmem => hmem
  have haddresses : Along (LldpRepository.step platform.env)
      (fun r event => ∀ address ∈ r.handledAddresses event, address ∈ addresses platform calls)
      .create (events platform calls) := along_observe fun _ hmem => hmem
  refine (hlinks.and haddresses).mono fun r event hmem => ⟨?_, ?_⟩
  · intro link hlink i hindex d hd
    exact DeviceData.linkChange_sourced (hmem.1 link hlink) hindex (DeviceData.fields_of hd)
  · intro address haddress i hindex d hd
    exact DeviceData.addressChange_sourced (hmem.2 address haddress) hindex (DeviceData.fields_of hd)

/-- Where the stack keeps the locals, a frame of a run is the frame of its device. -/
theorem run_frameBytes (hintact : platform.env.Intact) (hid : platform.env.machineId.length ≤ 510)
    (h : Daemon.run platform verbose calls = .ok d) {frame : Sent}
    (hframe : frame ∈ d.lldpRepository.io.log) :
    ∃ mac, frame.deviceData.macAddress = some mac ∧
      frame.buffer = frame.deviceData.frameBytes platform.env.machineId targetTtl mac := by
  obtain ⟨mac, older, hmac, hbuffer⟩ := ((run_sourced h).io.log frame hframe).buffer
  rw [frameRead_eq (hintact older) hid, run_ttl h frame hframe] at hbuffer
  exact ⟨mac, hmac, hbuffer⟩

end Daemon

/-- **Every frame tells what the kernel said of its interface.** In every run of the event loop,
from bytes to bytes: a frame that goes out on an interface is exactly that of a device with
this index, with the normal TTL, and its MAC, its name and both its addresses each come from
a message about this very index that was handled. And a neighbour that gets it, whatever it
knew before, stores just this device: the machine id, the MAC and the two addresses. The stack
has to keep the locals that the frame is read from. -/
theorem frames_sourced (platform : Platform) (hid : platform.env.machineId.length ≤ 510)
    (hintact : platform.env.Intact) (verbose : Bool) (calls : List HandlerCall) (d : Daemon)
    (h : Daemon.run platform verbose calls = .ok d) :
    ∀ frame ∈ d.lldpRepository.io.log, frame.ttl = targetTtl ∧
      frame.deviceData.Sourced (Daemon.links platform calls) (Daemon.addresses platform calls)
        frame.deviceData.ifIndex ∧
      frame.sllIfindex = frame.deviceData.ifIndex.toNat ∧
      ∃ mac, frame.deviceData.macAddress = some mac ∧
        frame.buffer = frame.deviceData.frameBytes platform.env.machineId targetTtl mac ∧
        ∀ (neighbourList : NeighbourList) (address : SockaddrLl) (padding : Bytes),
          address.accepted = true →
          lldpFrameParser neighbourList address (frame.buffer.drop 14 ++ padding) =
            .ok (neighbourList.store (frame.deviceData.entry platform.env.machineId targetTtl mac
              (narrowIfindex address.sllIfindex))) := by
  intro frame hframe
  have hmade := (Daemon.run_sourced h).io.log frame hframe
  obtain ⟨i, hsourced⟩ := hmade.device
  obtain ⟨mac, hmac, hbuffer⟩ := Daemon.run_frameBytes hintact hid h hframe
  refine ⟨Daemon.run_ttl h frame hframe, hsourced.ifIndex.symm ▸ hsourced, hmade.sllIfindex.1, mac,
    hmac, hbuffer, ?_⟩
  intro neighbourList address padding haddress
  rw [hbuffer]
  exact lldpFrameParser_frameBytes hid targetTtl frame.deviceData mac padding neighbourList haddress

theorem frames_sourced_first : ∃ d, Daemon.run quietPlatform false firstCalls = .ok d ∧
    ∃ frame ∈ d.lldpRepository.io.log, frame.ttl = targetTtl ∧
      frame.deviceData.Sourced (Daemon.links quietPlatform firstCalls)
        (Daemon.addresses quietPlatform firstCalls) frame.deviceData.ifIndex := by
  have hsent : ((Daemon.run quietPlatform false firstCalls).toOption.map
      fun d => d.lldpRepository.io.log.length) = some 1 := by decide +kernel
  cases hrun : Daemon.run quietPlatform false firstCalls with
  | error crash => rw [hrun] at hsent; cases hsent
  | ok d =>
    rw [hrun] at hsent
    have hlen : d.lldpRepository.io.log.length = 1 := Option.some.inj hsent
    obtain ⟨frame, hframe⟩ := List.exists_mem_of_length_pos (by rw [hlen]; exact Nat.one_pos)
    obtain ⟨httl, hsourced, -⟩ :=
      frames_sourced quietPlatform (by decide) (fun _ => Stack.intact_keeps) false firstCalls d hrun
        frame hframe
    exact ⟨d, rfl, frame, hframe, httl, hsourced⟩

end Ndisc
