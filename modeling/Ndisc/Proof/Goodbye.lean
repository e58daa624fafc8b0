import Ndisc.Proof.Daemon
import Ndisc.Proof.Provenance
import Ndisc.Proof.Synchronise

/-!
# No goodbye

`EndTransmission` sends a frame with TTL 0 when a synchronisation finds that the device of a
sender is gone. But nothing is ever taken out of the map of devices, which is what a
synchronisation is given.

* `Onward`: what no event of the loop undoes: the devices and the senders that there are. All
  that it sends has the normal TTL.
* `step_onward`: one event.
* `never_goodbye`: **the daemon never sends a goodbye, and never drops an interface**.
-/

namespace Ndisc

open Wire Netlink Run Upsert
open Std (ExtTreeMap)

namespace LldpRepository

variable {env : Env} {r r' r'' : LldpRepository}

/-- Devices and senders stay, and all that is sent has the normal TTL. -/
structure Onward (r r' : LldpRepository) : Prop where
  devices : ∀ i ∈ r.deviceRepository.devices, i ∈ r'.deviceRepository.devices
  senders : ∀ i ∈ r.currentState, i ∈ r'.currentState
  adds : ∃ frames, r'.io.log = frames ++ r.io.log ∧ ∀ frame ∈ frames, frame.ttl = targetTtl

theorem Onward.refl (r : LldpRepository) : Onward r r :=
  ⟨fun _ h => h, fun _ h => h, [], rfl, fun _ h => by cases h⟩

theorem Onward.trans (h : Onward r r') (h' : Onward r' r'') : Onward r r'' := by
  refine ⟨fun i hi => h'.devices i (h.devices i hi), fun i hi => h'.senders i (h.senders i hi), ?_⟩
  obtain ⟨frames, hlog, httl⟩ := h.adds
  obtain ⟨frames', hlog', httl'⟩ := h'.adds
  refine ⟨frames' ++ frames, by rw [hlog', hlog, List.append_assoc], ?_⟩
  intro frame hframe
  rcases List.mem_append.1 hframe with hnew | hold
  · exact httl' frame hnew
  · exact httl frame hold

/-- A new state of the device repository with no fewer devices. -/
theorem onward_devices {deviceRepository : DeviceRepository}
    (h : ∀ i ∈ r.deviceRepository.devices, i ∈ deviceRepository.devices) :
    Onward r { r with deviceRepository := deviceRepository } :=
  ⟨h, fun _ hi => hi, [], rfl, fun _ hf => by cases hf⟩

/-! ## The devices -/

theorem mem_upsert_of_mem {devices : Devices} {i : UInt32} (h : i ∈ devices) (key : UInt32)
    (f : DeviceData → DeviceData) : i ∈ upsert .empty devices key f := by
  rw [← ExtTreeMap.isSome_getElem?_iff_mem, getElem?_upsert]
  split
  · rfl
  · exact ExtTreeMap.isSome_getElem?_iff_mem.2 h

theorem handleLinkPacket_mem {devices : Devices} {i : UInt32} (h : i ∈ devices) (link : LinkView) :
    i ∈ devices.handleLinkPacket link := by
  unfold Devices.handleLinkPacket
  split
  · exact h
  · exact mem_upsert_of_mem h _ _

theorem handleAddressPacket_mem {devices : Devices} {i : UInt32} (h : i ∈ devices)
    (address : AddrView) : i ∈ devices.handleAddressPacket address := by
  unfold Devices.handleAddressPacket
  split_ifs
  · exact h
  · exact h
  · exact mem_upsert_of_mem h _ _
  · exact h

theorem deviceReaderPacket_mem {d : DeviceRepository} {i : UInt32} (h : i ∈ d.devices)
    (packet : NetlinkPacketView) (sent : Bool) : i ∈ (d.deviceReaderPacket packet sent).devices := by
  unfold DeviceRepository.deviceReaderPacket
  rcases DeviceReader.handleNetlinkPacket d.deviceReader packet with ⟨reader, _ | link | _ | _⟩
  · exact h
  · exact handleLinkPacket_mem h link
  · exact h
  · exact h

/-! ## The senders -/

theorem atSender_mem (r : LldpRepository) (idx : UInt32) (call : Endpoint → Endpoint) (i : UInt32) :
    i ∈ (r.atSender idx call).currentState ↔ i ∈ r.currentState := by
  rw [mem_iff_getElem?, mem_iff_getElem?, getElem?_atSender]
  split
  · simp [Option.map_eq_some_iff]
  · rfl

theorem atSender_onward (r : LldpRepository) (idx : UInt32) {call : Endpoint → Endpoint}
    (hcall : ∀ p, Endpoint.Adds p (call p)) : Onward r (r.atSender idx call) := by
  refine ⟨fun i hi => ?_, fun i hi => (atSender_mem r idx call i).2 hi, ?_⟩
  · unfold atSender
    split <;> exact hi
  · cases hidx : r.currentState[idx]? with
    | none =>
      unfold atSender
      rw [hidx]
      exact (Onward.refl r).adds
    | some sender =>
      rw [atSender_io r call hidx]
      exact hcall ⟨sender, r.io⟩

theorem tick_adds (env : Env) (deltaSeconds : UInt64) (p : Endpoint) :
    Endpoint.Adds p (p.tick env deltaSeconds) := by
  rw [Endpoint.tick_eq]
  split
  · refine Endpoint.Adds.trans ?_ (Endpoint.tryTransmit_adds env _)
    unfold Endpoint.elapse
    split
    · exact Endpoint.adds_of_log rfl
    · rw [Endpoint.timerExpired_eq]
      exact Endpoint.tryTransmit_adds env
        (Endpoint.countdown { p.refill deltaSeconds with sender.transmitTimer := 0 }).arm
  · exact Endpoint.adds_of_log rfl

theorem tick_onward (env : Env) (r : LldpRepository) (deltaSeconds : UInt64) (sent : Bool) :
    Onward r (r.tick env deltaSeconds sent) := by
  have hdevices : Onward r { r with
      deviceRepository := r.deviceRepository.tick deltaSeconds sent } :=
    onward_devices fun i hi => by rw [tick_devices]; exact hi
  refine List.foldlRecOn (motive := Onward r) r.currentState.keys
    (fun r idx => r.atSender idx (Endpoint.tick env deltaSeconds)) hdevices ?_
  intro r' hr' idx _
  exact hr'.trans (atSender_onward r' idx (tick_adds env deltaSeconds))

theorem tick_mem (env : Env) (r : LldpRepository) (deltaSeconds : UInt64) (sent : Bool)
    (i : UInt32) : i ∈ (r.tick env deltaSeconds sent).currentState ↔ i ∈ r.currentState := by
  refine List.foldlRecOn (motive := fun r' : LldpRepository =>
    i ∈ r'.currentState ↔ i ∈ r.currentState) r.currentState.keys
    (fun r idx => r.atSender idx (Endpoint.tick env deltaSeconds)) Iff.rfl ?_
  intro r' hr' idx _
  exact (atSender_mem r' idx _ i).trans hr'

/-- Every sender has a device. -/
def Backed (r : LldpRepository) : Prop := ∀ i ∈ r.currentState, i ∈ r.deviceRepository.devices

/-- **A synchronisation that leaves no sender out** is its first loop. -/
theorem updateState_backed (env : Env) {r : LldpRepository} (h : r.Backed) :
    r.updateState env r.deviceRepository.devices =
      r.deviceRepository.devices.toList.foldl (updateDevice env) r := by
  have hnone : (r.currentState.keys.filter
      fun index => !r.deviceRepository.devices.contains index) = [] := by
    rw [List.filter_eq_nil_iff]
    intro i hi
    rw [ExtTreeMap.contains_iff_mem.2 (h i (ExtTreeMap.mem_keys.1 hi))]
    exact Bool.false_ne_true
  rw [updateState_eq, turns, hnone, List.map_nil, List.append_nil, ← firstLoop_eq]

/-- It sends no goodbye. -/
theorem updateState_adds (env : Env) {r : LldpRepository} (h : r.Backed) :
    ∃ frames, (r.updateState env r.deviceRepository.devices).io.log = frames ++ r.io.log ∧
      ∀ frame ∈ frames, frame.ttl = targetTtl := by
  rw [updateState_backed env h]
  -- each turn is that of a device
  refine List.foldlRecOn (motive := fun r' : LldpRepository =>
    ∃ frames, r'.io.log = frames ++ r.io.log ∧ ∀ frame ∈ frames, frame.ttl = targetTtl)
    r.deviceRepository.devices.toList _ ⟨[], rfl, fun _ hf => by cases hf⟩ ?_
  rintro r' ⟨frames, hlog, httl⟩ ⟨index, deviceData⟩ -
  obtain ⟨frames', hlog', httl'⟩ := device_frames env r' index deviceData
  have hall : (r'.updateDevice env (index, deviceData)).io.log = frames' ++ r'.io.log := hlog'
  refine ⟨frames' ++ frames, by rw [hall, hlog, List.append_assoc], ?_⟩
  intro frame hframe
  rcases List.mem_append.1 hframe with hnew | hold
  · exact httl' frame hnew
  · exact httl frame hold

/-! ## One event -/

theorem deleteAll_devices (env : Env) (indices : List UInt32) (r : LldpRepository) :
    (indices.foldl (fun r idx => r.deleteLldpStateMachine env idx) r).deviceRepository =
      r.deviceRepository := by
  refine List.foldlRecOn (motive := fun r' : LldpRepository =>
    r'.deviceRepository = r.deviceRepository) indices _ rfl ?_
  intro r' hr' idx _
  rw [← hr']
  unfold deleteLldpStateMachine atSender
  split
  · split <;> rfl
  · rfl

theorem updateState_devices (env : Env) (r : LldpRepository) (newState : Devices) :
    (r.updateState env newState).deviceRepository = r.deviceRepository := by
  unfold updateState
  simp only
  rw [deleteAll_devices]
  refine List.foldlRecOn (motive := fun r' : LldpRepository =>
    r'.deviceRepository = r.deviceRepository) newState.toList _ rfl ?_
  intro r' hr' device _
  rw [← hr']
  unfold updateDevice createLldpStateMachine emplaceSender atSender
  split <;> split <;> rfl

/-- **A synchronisation with the devices that there are.** -/
theorem updateState_onward (env : Env) {r : LldpRepository} (h : r.Backed) :
    Onward r (r.updateState env r.deviceRepository.devices) ∧
      (r.updateState env r.deviceRepository.devices).Backed := by
  refine ⟨⟨fun i hi => ?_, fun i hi => ?_, updateState_adds env h⟩, fun i hi => ?_⟩
  · rw [updateState_devices]
    exact hi
  · exact (updateState_keys env r _ i).2 (h i hi)
  · rw [updateState_devices]
    exact (updateState_keys env r _ i).1 hi

/-- **What no event of the loop undoes.** -/
theorem step_onward (env : Env) {r : LldpRepository} {event : DaemonEvent} (h : r.Backed)
    (hevent : event.Looped) : Onward r (r.step env event) ∧ (r.step env event).Backed := by
  -- where the senders stay as they are, they still have their devices
  have hbacked : ∀ {deviceRepository : DeviceRepository},
      (∀ i ∈ r.deviceRepository.devices, i ∈ deviceRepository.devices) →
      Backed { r with deviceRepository := deviceRepository } := fun hd i hi => hd i (h i hi)
  cases event with
  | tick deltaSeconds sent =>
    have honward := tick_onward env r deltaSeconds sent
    exact ⟨honward, fun i hi => honward.devices i (h i ((tick_mem env r deltaSeconds sent i).1 hi))⟩
  | monitorPacket packet =>
    exact ⟨onward_devices fun i hi => hi, hbacked fun i hi => hi⟩
  | linkPacket packet sent =>
    have hdevices : ∀ i ∈ r.deviceRepository.devices,
        i ∈ (r.deviceRepository.deviceReaderPacket packet sent).devices :=
      fun i hi => deviceReaderPacket_mem hi packet sent
    exact ⟨onward_devices hdevices, hbacked hdevices⟩
  | addrPacket packet =>
    unfold step
    simp only
    rcases ipReaderPacket_devices r.deviceRepository packet with
      ⟨address, hdevices, hnone⟩ | ⟨hdevices, hhanded⟩
    · have hkept : ∀ i ∈ r.deviceRepository.devices,
          i ∈ (r.deviceRepository.ipReaderPacket packet).1.devices := fun i hi => by
        rw [hdevices]
        exact handleAddressPacket_mem hi address
      rw [hnone]
      exact ⟨onward_devices hkept, hbacked hkept⟩
    · have hkept : ∀ i ∈ r.deviceRepository.devices,
          i ∈ (r.deviceRepository.ipReaderPacket packet).1.devices := fun i hi => by
        rw [hdevices]
        exact hi
      rcases hhanded with hnone | hall
      · rw [hnone]
        exact ⟨onward_devices hkept, hbacked hkept⟩
      · rw [hall, ← hdevices]
        obtain ⟨honward, hafter⟩ := updateState_onward env (hbacked hkept)
        exact ⟨(onward_devices hkept).trans honward, hafter⟩
  | _ => cases hevent

/-! ## Runs -/

theorem run_onward (env : Env) {r : LldpRepository} (h : r.Backed) {events : List DaemonEvent}
    (hevents : ∀ event ∈ events, event.Looped) :
    Onward r (run (step env) r events) ∧ (run (step env) r events).Backed := by
  induction events generalizing r with
  | nil => exact ⟨Onward.refl r, h⟩
  | cons event events ih =>
    obtain ⟨honward, hbacked⟩ := step_onward env h (hevents event List.mem_cons_self)
    obtain ⟨hrest, hend⟩ := ih hbacked fun x hx => hevents x (List.mem_cons_of_mem event hx)
    exact ⟨honward.trans hrest, hend⟩

theorem create_backed : Backed .create := by
  intro i hi
  exact absurd hi ExtTreeMap.not_mem_empty

end LldpRepository

open LldpRepository

namespace Daemon

variable {platform : Platform} {verbose : Bool} {calls more : List HandlerCall} {d d' : Daemon}

/-- The daemon after some calls. -/
theorem run_start (h : Daemon.run platform verbose calls = .ok d) :
    Onward .create d.lldpRepository ∧ d.lldpRepository.Backed := by
  obtain ⟨-, -, hd, -⟩ := run_parts h
  rw [hd]
  exact run_onward platform.env create_backed (events_looped platform calls)

/-- All frames that were sent have the normal TTL. -/
theorem run_ttl (h : Daemon.run platform verbose calls = .ok d) :
    ∀ frame ∈ d.lldpRepository.io.log, frame.ttl = targetTtl := by
  obtain ⟨-, -, frames, hlog, httl⟩ := (run_start h).1
  have hall : d.lldpRepository.io.log = frames := hlog.trans (List.append_nil frames)
  rw [hall]
  exact httl

end Daemon

end Ndisc
