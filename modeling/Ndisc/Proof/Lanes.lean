import Ndisc.Lib.Journal
import Ndisc.Proof.Hold
import Ndisc.Proof.Identity
import Ndisc.Spec.Segment

/-!
# Each interface by itself

All senders share a socket, its log and the statics. Still an interface cannot tell that there
are others: with the replies that its own frames got, its sender would do the same alone.

* `Lane`: the daemon as one interface knows it. A synchronisation makes its sender or updates
  it, and the clock ticks.
* `update_mirrored`, `tick_mirrored`: a call does the same on the socket of one interface.
* `step_projects`: an event does to each interface what the lane does.
* `daemon_refines_lanes`: **for every run and every interface, the sender and the frames on
  the interface are those of a lane of its own**.
-/

namespace Ndisc

open Wire Netlink Run
open Std (ExtTreeMap)

/-! ## Lanes -/

/-- What an interface gets of an event: its device of a synchronisation, or a tick. -/
inductive LaneOp
  | device (deviceData : DeviceData)
  | tick (deltaSeconds : UInt64)
  deriving DecidableEq

/-- The sender of one interface, if it was made, with the log of its own frames. -/
abbrev Lane := Option Endpoint

namespace Lane

def step (env : Env) : Lane → LaneOp → Lane
  | none, .device deviceData => some ((Endpoint.create env deviceData .init).newNeighbour env)
  | none, .tick _ => none
  | some p, .device deviceData => some (p.update env deviceData)
  | some p, .tick deltaSeconds => some (p.tick env deltaSeconds)

def sender (s : Lane) : Option LldpSender := s.map Endpoint.sender

def log : Lane → List Sent
  | some p => p.io.log
  | none => []

end Lane

/-- The socket as one interface finds it, where all of them sent `L` in the end. -/
def Env.alone (env : Env) (i : UInt32) (L : List Sent) : Env where
  machineId := env.machineId
  sendto := Journal.alone (Sent.on i) env.sendto L
  stack := Journal.aloneBefore (Sent.on i) env.stack L

theorem Sent.on_of {i : UInt32} {frame : Sent} (h : frame.sllIfindex = i.toNat) :
    frame.on i = true := by
  rw [Sent.on, h]
  exact beq_self_eq_true _

theorem Sent.on_other {i k : UInt32} (hk : k ≠ i) {frame : Sent} (h : frame.sllIfindex = k.toNat) :
    frame.on i = false := by
  rw [Sent.on, h]
  exact beq_false_of_ne fun heq => hk (UInt32.toNat_inj.1 heq)

/-! ## One sender on two sockets -/

namespace Endpoint

variable {env : Env} {i : UInt32} {L : List Sent} {p q : Endpoint}

/-- The same sender, first with the socket to itself, and then with all the others. -/
structure Alike (env : Env) (i : UInt32) (p q : Endpoint) : Prop where
  sender : p.sender = q.sender
  index : q.sender.deviceData.ifIndex = i
  log : p.io.log = q.io.on i
  lone : p.io.statics.Ok env.machineId
  shared : q.io.statics.Ok env.machineId

/-- A call that does the same on both. -/
structure Mirrored (env : Env) (i : UInt32) (L : List Sent) (call : Env → Endpoint → Endpoint) :
    Prop where
  grows : ∀ q, q.io.log <:+ (call env q).io.log
  alike : ∀ p q, Alike env i p q → (call env q).io.log <:+ L →
    Alike env i (call (env.alone i L) p) (call env q)

theorem Mirrored.comp {call call' : Env → Endpoint → Endpoint} (h : Mirrored env i L call)
    (h' : Mirrored env i L call') : Mirrored env i L fun env p => call' env (call env p) where
  grows q := (h.grows q).trans (h'.grows _)
  alike p q hp hL := h'.alike _ _ (h.alike p q hp ((h'.grows _).trans hL)) hL

/-- A change of the sender that does not move it to another interface. -/
theorem mirrored_change {f : LldpSender → LldpSender}
    (hf : ∀ s, (f s).deviceData.ifIndex = s.deviceData.ifIndex) :
    Mirrored env i L fun _ p => { p with sender := f p.sender } where
  grows _ := List.suffix_rfl
  alike _ q h _ := ⟨congrArg f h.sender, (hf q.sender).trans h.index, h.log, h.lone, h.shared⟩

/-- **A frame**: the same bytes off the same stack, and the same reply. -/
theorem sendLldp_mirrored (ttl : UInt16) : Mirrored env i L fun env p => p.sendLldp env ttl where
  grows q := by
    by_cases hs : q.Silent
    · rw [sendLldp_silent hs]
    · rw [sendLldp_logged hs]
      exact List.suffix_cons _ _
  alike p q h hL := by
    obtain ⟨s, io⟩ := p
    obtain ⟨s', io'⟩ := q
    obtain rfl : s = s' := h.sender
    by_cases hs : Silent ⟨s, io'⟩
    · rw [sendLldp_silent hs, sendLldp_silent (p := ⟨s, io⟩) hs]
      exact h
    · obtain ⟨mac, hmac⟩ : ∃ mac, s.deviceData.macAddress = some mac :=
        Option.ne_none_iff_exists'.1 fun hnone => hs (Or.inr hnone)
      obtain ⟨st, hok, heq⟩ := sendLldp_spec ttl ⟨s, io'⟩ h.shared hmac hs
      have hlone : io.statics.Ok (env.alone i L).machineId := h.lone
      obtain ⟨st', hok', heq'⟩ := sendLldp_spec ttl ⟨s, io⟩ hlone hmac hs
      rw [heq] at hL ⊢
      rw [heq']
      have hon : Sent.on i ⟨ttl, s.deviceData,
          s.deviceData.frameRead (env.stack io'.log) env.machineId ttl mac,
          s.deviceData.ifIndex.toNat⟩ = true := Sent.on_of (congrArg UInt32.toNat h.index)
      have hreply := Journal.alone_eq (Sent.on i) env.sendto hL hon
      have hlog : io.log = io'.log.filter (Sent.on i) := h.log
      have hstack : (env.alone i L).stack io.log = env.stack io'.log := by
        rw [hlog]
        exact Journal.aloneBefore_eq (Sent.on i) env.stack hL hon
      rw [hstack]
      refine ⟨?_, h.index, ?_, hok', hok⟩
      · simp only [logged, Env.alone, hlog]
        rw [hreply]
      · show _ :: io.log = List.filter _ (_ :: io'.log)
        rw [List.filter_cons_of_pos hon, hlog]
        rfl

theorem tryTransmit_mirrored :
    Mirrored env i L fun env p => p.tryTransmit env where
  grows q := by
    obtain ⟨new, hlog, -⟩ := tryTransmit_adds env q
    exact ⟨new, hlog.symm⟩
  alike p q h hL := by
    obtain ⟨s, io⟩ := p
    obtain ⟨s', io'⟩ := q
    obtain rfl : s = s' := h.sender
    by_cases hcan : s.triggerReady ∧ 0 < s.transmitCredits ∧ s.deviceData.macAddress.isSome
    · have htry : ∀ (env : Env) (io : Io), tryTransmit env ⟨s, io⟩ =
          sendLldp env targetTtl (spend ⟨s, io⟩) := fun env io => if_pos hcan
      rw [htry] at hL ⊢
      rw [htry]
      exact (sendLldp_mirrored targetTtl).alike _ _ ⟨rfl, h.index, h.log, h.lone, h.shared⟩ hL
    · have hidle : ∀ (env : Env) (io : Io), tryTransmit env ⟨s, io⟩ = ⟨s, io⟩ :=
        fun env io => if_neg hcan
      rw [hidle, hidle]
      exact h

theorem trigger_mirrored :
    Mirrored env i L fun env p => p.arm.tryTransmit env :=
  (mirrored_change (f := fun s => { s with
    transmitTimer := if 0 < s.fastForwardCounter then messageFastInterval else messageTransmitInterval
    triggerReady := true }) fun _ => rfl).comp tryTransmit_mirrored

theorem expire_mirrored :
    Mirrored env i L fun env p => p.countdown.arm.tryTransmit env :=
  (mirrored_change (f := fun s => { s with
    fastForwardCounter := if 0 < s.fastForwardCounter then s.fastForwardCounter - 1
      else s.fastForwardCounter }) fun _ => rfl).comp trigger_mirrored

theorem newNeighbour_mirrored :
    Mirrored env i L fun env p => p.newNeighbour env := by
  have heq : (fun env p => newNeighbour env p) =
      fun env (p : Endpoint) => p.greet.countdown.arm.tryTransmit env := funext₂ newNeighbour_eq
  rw [heq]
  exact (mirrored_change (f := fun s => { s with
    fastForwardCounter := if s.fastForwardCounter = 0 then fastTransmitAmount
      else s.fastForwardCounter }) fun _ => rfl).comp expire_mirrored

theorem Alike.operational (h : Alike env i p q) : p.operational = q.operational :=
  congrArg (fun s : LldpSender => s.deviceData.deviceOperational) h.sender

theorem Alike.unchanged (h : Alike env i p q) (d : DeviceData) : p.Unchanged d ↔ q.Unchanged d := by
  unfold Unchanged Endpoint.operational
  rw [h.sender]

theorem update_mirrored (d : DeviceData) :
    Mirrored env i L fun env p => p.update env d where
  grows q := (step_own env q (.update d)).grows
  alike p q h hL := by
    rcases update_eq env d q with ⟨hsame, heq⟩ | ⟨hno, heq⟩
    · rcases update_eq (env.alone i L) d p with ⟨-, heq'⟩ | ⟨hno', -⟩
      · rw [heq, heq']
        exact h
      · exact absurd ((h.unchanged d).2 hsame) hno'
    · rcases update_eq (env.alone i L) d p with ⟨hsame', -⟩ | ⟨-, heq'⟩
      · exact absurd ((h.unchanged d).1 hsame') hno
      · rw [heq, localChangeDetected_eq] at hL ⊢
        rw [heq', localChangeDetected_eq, h.operational]
        -- the fields are copied first, and a device that goes down is greeted in between
        have hrenew : Mirrored env i L fun _ p => p.renew d :=
          mirrored_change (f := fun s => { s with deviceData := { s.deviceData with
            interfaceName := d.interfaceName
            ipv4Address := d.ipv4Address
            ipv6Address := d.ipv6Address } }) fun _ => rfl
        have hturn : Mirrored env i L fun _ p => p.setOperational d.deviceOperational :=
          mirrored_change (f := fun s =>
            { s with deviceData.deviceOperational := d.deviceOperational }) fun _ => rfl
        split at hL
        · rename_i hdown
          rw [if_pos hdown, if_pos hdown]
          exact (((hrenew.comp newNeighbour_mirrored).comp hturn).comp
            trigger_mirrored).alike p q h hL
        · rename_i hup
          rw [if_neg hup, if_neg hup]
          exact ((hrenew.comp hturn).comp trigger_mirrored).alike p q h hL

theorem elapse_mirrored (deltaSeconds : UInt64) :
    Mirrored env i L fun env p => p.elapse env deltaSeconds where
  grows q := by
    unfold elapse
    split
    · exact List.suffix_rfl
    · rw [timerExpired_eq]
      exact (expire_mirrored (i := i) (L := L)).grows _
  alike p q h hL := by
    obtain ⟨s, io⟩ := p
    obtain ⟨s', io'⟩ := q
    obtain rfl : s = s' := h.sender
    by_cases hearly : s.transmitTimer.toUInt64 > deltaSeconds
    · have hwait : ∀ (env : Env) (io : Io), elapse env deltaSeconds ⟨s, io⟩ =
          ⟨{ s with transmitTimer := (s.transmitTimer.toUInt64 - deltaSeconds).toUInt16 }, io⟩ :=
        fun env io => if_pos hearly
      rw [hwait, hwait]
      exact ⟨rfl, h.index, h.log, h.lone, h.shared⟩
    · have hexpire : ∀ (env : Env) (io : Io), elapse env deltaSeconds ⟨s, io⟩ =
          (countdown ⟨{ s with transmitTimer := 0 }, io⟩).arm.tryTransmit env :=
        fun env io => (if_neg hearly).trans (timerExpired_eq _ _)
      rw [hexpire] at hL ⊢
      rw [hexpire]
      exact expire_mirrored.alike _ _ ⟨rfl, h.index, h.log, h.lone, h.shared⟩ hL

theorem tick_mirrored (deltaSeconds : UInt64) :
    Mirrored env i L fun env p => p.tick env deltaSeconds where
  grows q := (step_own env q (.tick deltaSeconds)).grows
  alike p q h hL := by
    rw [tick_eq] at hL ⊢
    rw [tick_eq, h.operational]
    split at hL
    · rename_i hup
      rw [if_pos hup, if_pos hup]
      have hrefill : Mirrored env i L fun _ p => p.refill deltaSeconds :=
        mirrored_change (f := fun s => { s with
          transmitCredits :=
            if s.transmitCredits.toUInt64 + deltaSeconds ≤ maxTransmitCredits.toUInt64 then
              (s.transmitCredits.toUInt64 + deltaSeconds).toUInt16
            else s.transmitCredits }) fun _ => rfl
      exact ((hrefill.comp (elapse_mirrored deltaSeconds)).comp
        tryTransmit_mirrored).alike p q h hL
    · rename_i hdown
      rw [if_neg hdown, if_neg hdown]
      exact h

end Endpoint

/-! ## All senders -/

namespace LldpRepository

variable {env : Env} {i : UInt32} {L : List Sent} {s : Lane} {r : LldpRepository}

/-- The interface is in the state of the lane. -/
structure Projects (env : Env) (i : UInt32) (s : Lane) (r : LldpRepository) : Prop where
  sender : r.currentState[i]? = s.sender
  log : r.io.on i = s.log
  lone : ∀ p ∈ s, p.io.statics.Ok env.machineId
  shared : r.io.statics.Ok env.machineId
  index : ∀ (k : UInt32) (sender : LldpSender), r.currentState[k]? = some sender →
    sender.deviceData.ifIndex = k

theorem create_projects (env : Env) (i : UInt32) : Projects env i none .create where
  sender := ExtTreeMap.getElem?_empty
  log := rfl
  lone _ hp := by cases hp
  shared := statics_init_ok env.machineId
  index k sender hsender := by
    rw [show LldpRepository.create.currentState[k]? = none from ExtTreeMap.getElem?_empty] at hsender
    cases hsender

/-- A sender that stands under its index. -/
theorem insert_index (h : Projects env i s r) {k : UInt32} {sender : LldpSender}
    (hindex : sender.deviceData.ifIndex = k) (k' : UInt32) (sender' : LldpSender)
    (h' : (r.currentState.insert k sender)[k']? = some sender') : sender'.deviceData.ifIndex = k' := by
  by_cases hk : k = k'
  · subst hk
    rw [ExtTreeMap.getElem?_insert_self] at h'
    rw [← Option.some.inj h']
    exact hindex
  · rw [ExtTreeMap.getElem?_insert, if_neg (compare_ne hk)] at h'
    exact h.index k' sender' h'

/-- **The sender of another interface** leaves the lane alone. -/
theorem insert_other (h : Projects env i s r) {k : UInt32} (hk : k ≠ i) {q q' : Endpoint}
    (hio : q.io = r.io) (hindex : q.sender.deviceData.ifIndex = k) (hown : Endpoint.Own q q')
    (hok : q'.io.statics.Ok env.machineId) :
    Projects env i s { r with currentState := r.currentState.insert k q'.sender, io := q'.io } where
  sender := (ExtTreeMap.getElem?_insert.trans (if_neg (compare_ne hk))).trans h.sender
  log := by
    obtain ⟨new, hlog, hnew⟩ := hown.sent
    rw [Io.on, hlog, hio]
    refine (Journal.filter_others (Sent.on i) r.io.log fun frame hframe => ?_).trans h.log
    have hsll : frame.sllIfindex = q.sender.deviceData.ifIndex.toNat := (hnew frame hframe).2.2.1
    exact Sent.on_other hk (by rw [hsll, hindex])
  lone := h.lone
  shared := hok
  index := insert_index h ((congrArg Prod.snd hown.identity).trans hindex)

/-- **Its own sender**, as it is with the socket to itself. -/
theorem insert_self (h : Projects env i s r) {p q : Endpoint} (halike : Endpoint.Alike env i p q) :
    Projects env i (some p) { r with currentState := r.currentState.insert i q.sender, io := q.io } where
  sender := by
    rw [show Lane.sender (some p) = some p.sender from rfl, halike.sender]
    exact ExtTreeMap.getElem?_insert_self
  log := halike.log.symm
  lone p' hp' := by
    rw [← Option.some.inj hp']
    exact halike.lone
  shared := halike.shared
  index := insert_index h halike.index

theorem Projects.alike {p : Endpoint} (h : Projects env i (some p) r) :
    Endpoint.Alike env i p ⟨p.sender, r.io⟩ :=
  ⟨rfl, h.index i p.sender h.sender, h.log.symm, h.lone p rfl, h.shared⟩

theorem step_statics {q : Endpoint} (h : q.io.statics.Ok env.machineId) (op : SenderOp) :
    (q.step env op).io.statics.Ok env.machineId := (Endpoint.kept_statics env).step op h

/-! ## One turn -/

theorem atSender_grows (env : Env) (r : LldpRepository) (idx : UInt32) (op : SenderOp) :
    r.io.log <:+ (r.atSender idx (Endpoint.step env · op)).io.log := by
  unfold atSender
  split
  · rename_i sender hsender
    exact (Endpoint.step_own env ⟨sender, r.io⟩ op).grows
  · exact List.suffix_rfl

theorem atSender_other (h : Projects env i s r) {idx : UInt32} (hidx : idx ≠ i) (op : SenderOp) :
    Projects env i s (r.atSender idx (Endpoint.step env · op)) := by
  unfold atSender
  split
  · rename_i sender hsender
    exact insert_other h hidx (q := ⟨sender, r.io⟩) rfl (h.index idx sender hsender)
      (Endpoint.step_own env _ op) (step_statics h.shared op)
  · exact h

theorem atSender_self {p : Endpoint} (h : Projects env i (some p) r) {op : SenderOp}
    (hop : Endpoint.Mirrored env i L fun env p => p.step env op)
    (hL : (r.atSender i (Endpoint.step env · op)).io.log <:+ L) :
    Projects env i (some (p.step (env.alone i L) op)) (r.atSender i (Endpoint.step env · op)) := by
  have hsender : r.currentState[i]? = some p.sender := h.sender
  have hat : r.atSender i (Endpoint.step env · op) =
      { r with
        currentState := r.currentState.insert i (Endpoint.step env ⟨p.sender, r.io⟩ op).sender
        io := (Endpoint.step env ⟨p.sender, r.io⟩ op).io } := by
    unfold atSender
    rw [hsender]
  rw [hat] at hL ⊢
  exact insert_self h (hop.alike p _ h.alike hL)

theorem updateDevice_grows (env : Env) (r : LldpRepository) (device : UInt32 × DeviceData) :
    r.io.log <:+ (r.updateDevice env device).io.log := by
  obtain ⟨new, hlog, -⟩ := device_frames env r device.1 device.2
  exact ⟨new, hlog.symm⟩

/-- An interface without a sender gets one, which is greeted. -/
theorem updateDevice_makes (env : Env) {index : UInt32} (deviceData : DeviceData)
    (h : r.currentState[index]? = none) :
    r.updateDevice env (index, deviceData) =
      (r.emplaceSender env index deviceData).atSender index (Endpoint.step env · .newNeighbour) := by
  have hno : ¬ r.currentState.contains index = true := by
    rw [ExtTreeMap.contains_eq_isSome_getElem?, h]
    exact Bool.false_ne_true
  unfold updateDevice
  rw [if_neg hno]
  rfl

theorem updateDevice_updates (env : Env) {index : UInt32} (deviceData : DeviceData)
    {sender : LldpSender} (h : r.currentState[index]? = some sender) :
    r.updateDevice env (index, deviceData) =
      r.atSender index (Endpoint.step env · (.update deviceData)) := by
  unfold updateDevice
  rw [if_pos (contains_of_some h)]
  rfl

theorem updateDevice_other (h : Projects env i s r) {index : UInt32} (hindex : index ≠ i)
    {deviceData : DeviceData} (hdevice : deviceData.ifIndex = index) :
    Projects env i s (r.updateDevice env (index, deviceData)) := by
  cases hold : r.currentState[index]? with
  | some sender =>
    rw [updateDevice_updates env deviceData hold]
    exact atSender_other h hindex (.update deviceData)
  | none =>
    rw [updateDevice_makes env deviceData hold]
    refine atSender_other ?_ hindex .newNeighbour
    exact insert_other h hindex (q := ⟨⟨deviceData, 0, 0, 0, false⟩, r.io⟩) rfl hdevice
      ((Endpoint.kept_own env _).create (.refl _)) ((Endpoint.kept_statics env).create h.shared)

/-- The constructor does the same on both sockets. -/
theorem create_alike (h : Projects env i none r) {deviceData : DeviceData}
    (hdevice : deviceData.ifIndex = i)
    (hL : (Endpoint.create env deviceData r.io).io.log <:+ L) :
    Endpoint.Alike env i (Endpoint.create (env.alone i L) deviceData .init)
      (Endpoint.create env deviceData r.io) := by
  have hstart : Endpoint.Alike env i ⟨⟨deviceData, 0, 0, 0, false⟩, .init⟩
      ⟨⟨deviceData, 0, 0, 0, false⟩, r.io⟩ :=
    ⟨rfl, hdevice, h.log.symm, statics_init_ok env.machineId, h.shared⟩
  unfold Endpoint.create at hL ⊢
  simp only at hL ⊢
  split at hL
  · rename_i hup
    rw [if_pos hup, if_pos hup]
    exact Endpoint.newNeighbour_mirrored.alike _ _ hstart hL
  · rename_i hdown
    rw [if_neg hdown, if_neg hdown]
    exact hstart

/-- **The turn of a device** in the lane of its interface. -/
theorem updateDevice_self (h : Projects env i s r) {deviceData : DeviceData}
    (hdevice : deviceData.ifIndex = i)
    (hL : (r.updateDevice env (i, deviceData)).io.log <:+ L) :
    Projects env i (Lane.step (env.alone i L) s (.device deviceData))
      (r.updateDevice env (i, deviceData)) := by
  cases s with
  | some p =>
    have hsender : r.currentState[i]? = some p.sender := h.sender
    rw [updateDevice_updates env deviceData hsender] at hL ⊢
    exact atSender_self h (Endpoint.update_mirrored deviceData) hL
  | none =>
    have hnone : r.currentState[i]? = none := h.sender
    rw [updateDevice_makes env deviceData hnone] at hL ⊢
    have hmade := create_alike h hdevice ((atSender_grows env _ i .newNeighbour).trans hL)
    exact atSender_self (insert_self h hmade) Endpoint.newNeighbour_mirrored hL

/-! ## One event -/

/-- The devices that an event hands to the senders. -/
def handed (r : LldpRepository) : DaemonEvent → Option Devices
  | .addrPacket packet => (r.deviceRepository.ipReaderPacket packet).2
  | _ => none

/-- What an event is to an interface. -/
def laneOps (i : UInt32) (r : LldpRepository) : DaemonEvent → List LaneOp
  | .tick deltaSeconds _ => [.tick deltaSeconds]
  | event => ((r.handed event).bind fun devices => devices[i]?).toList.map .device

/-- **What an event of the loop can do to the senders**: a tick, a synchronisation with the
devices that there are, or nothing. -/
theorem step_looped (env : Env) (r : LldpRepository) {event : DaemonEvent} (hevent : event.Looped) :
    (∃ deltaSeconds sent, event = .tick deltaSeconds sent) ∨
      (∀ i, r.laneOps i event = []) ∧
        (∃ deviceRepository, r.step env event = { r with deviceRepository := deviceRepository }) ∨
      (∀ i, r.laneOps i event = (r.deviceRepository.devices[i]?).toList.map .device) ∧
        ∃ deviceRepository : DeviceRepository, deviceRepository.devices = r.deviceRepository.devices ∧
          r.step env event =
            updateState env deviceRepository.devices { r with deviceRepository := deviceRepository } := by
  cases event with
  | tick deltaSeconds sent => exact Or.inl ⟨deltaSeconds, sent, rfl⟩
  | monitorPacket packet => exact Or.inr (Or.inl ⟨fun i => rfl, _, rfl⟩)
  | linkPacket packet sent => exact Or.inr (Or.inl ⟨fun i => rfl, _, rfl⟩)
  | addrPacket packet =>
    have hnothing : (r.deviceRepository.ipReaderPacket packet).2 = none →
        (∀ i, r.laneOps i (.addrPacket packet) = []) ∧ ∃ deviceRepository,
          r.step env (.addrPacket packet) = { r with deviceRepository := deviceRepository } := by
      intro hnone
      refine ⟨fun i => ?_, (r.deviceRepository.ipReaderPacket packet).1, ?_⟩
      · simp only [laneOps, handed, hnone]
        rfl
      · rw [step]
        simp only [hnone]
        rfl
    rcases ipReaderPacket_devices r.deviceRepository packet with
      ⟨address, -, hnone⟩ | ⟨hdevices, hnone | hall⟩
    · exact Or.inr (Or.inl (hnothing hnone))
    · exact Or.inr (Or.inl (hnothing hnone))
    · refine Or.inr (Or.inr ⟨fun i => ?_, (r.deviceRepository.ipReaderPacket packet).1, hdevices, ?_⟩)
      · simp only [laneOps, handed, hall]
        rfl
      · rw [step]
        simp only [hall, hdevices]
        rfl
  | _ => cases hevent

/-- A round of turns, of which the lane has its part. -/
theorem round_projects {τ : Type} (f : LldpRepository → τ → LldpRepository) (ops : τ → List LaneOp)
    (ts : List τ) (hgrow : ∀ r t, r.io.log <:+ (f r t).io.log)
    (hstep : ∀ (s : Lane) (r : LldpRepository), ∀ t ∈ ts, Projects env i s r →
      (f r t).io.log <:+ L → Projects env i (run (Lane.step (env.alone i L)) s (ops t)) (f r t))
    (h : Projects env i s r) (hL : (run f r ts).io.log <:+ L) :
    Projects env i (run (Lane.step (env.alone i L)) s (ts.flatMap ops)) (run f r ts) := by
  have hround := Journal.within (fun r : LldpRepository => r.io.log)
    (fun seen r => Projects env i (run (Lane.step (env.alone i L)) s seen) r) (fun _ t => ops t)
    hgrow (fun seen r t ht hr hlog => ?_) (show Projects env i (run _ s []) r from h) hL
  · rw [List.nil_append, Journal.observe_const] at hround
    exact hround
  · rw [run_append]
    exact hstep _ r t ht hr hlog

/-- **All of them tick.** -/
theorem tick_projects (h : Projects env i s r) (deltaSeconds : UInt64) (sent : Bool)
    (hL : (r.tick env deltaSeconds sent).io.log <:+ L) :
    Projects env i (Lane.step (env.alone i L) s (.tick deltaSeconds)) (r.tick env deltaSeconds sent) := by
  have hround := round_projects
    (fun r idx => r.atSender idx (Endpoint.step env · (.tick deltaSeconds)))
    (fun idx => if idx = i then [.tick deltaSeconds] else []) r.currentState.keys
    (fun r idx => atSender_grows env r idx (.tick deltaSeconds)) (fun s r idx hidx hr hlog => ?_)
    (r := { r with deviceRepository := r.deviceRepository.tick deltaSeconds sent })
    ⟨h.sender, h.log, h.lone, h.shared, h.index⟩ hL
  · have hnodup : (r.currentState.keys.map id).Nodup := by
      rw [List.map_id]
      exact ExtTreeMap.nodup_keys
    cases s with
    | none =>
      have hno : ∀ idx ∈ r.currentState.keys, id idx ≠ i := by
        rintro idx hidx rfl
        obtain ⟨sender, hsender⟩ := (mem_iff_getElem? r idx).1 (ExtTreeMap.mem_keys.1 hidx)
        cases hsender.symm.trans h.sender
      have hops := Journal.flatMap_none id (f := fun _ => [LaneOp.tick deltaSeconds]) hno
      simp only [id_eq] at hops
      rw [hops] at hround
      exact hround
    | some p =>
      have hmem : i ∈ r.currentState.keys :=
        ExtTreeMap.mem_keys.2 ((mem_iff_getElem? r i).2 ⟨p.sender, h.sender⟩)
      have hops := Journal.flatMap_turn id (f := fun _ => [LaneOp.tick deltaSeconds]) hnodup hmem
      simp only [id_eq] at hops
      rw [hops] at hround
      exact hround
  · split
    · rename_i hi
      subst hi
      cases s with
      | none =>
        have hnone : r.currentState[idx]? = none := hr.sender
        unfold atSender
        rw [hnone]
        exact hr
      | some p => exact atSender_self hr (Endpoint.tick_mirrored deltaSeconds) hlog
    · rename_i hi
      exact atSender_other hr hi (.tick deltaSeconds)

theorem updateState_projects (h : Projects env i s r) (hbacked : r.Backed) (hindexed : r.Indexed)
    (hL : (r.updateState env r.deviceRepository.devices).io.log <:+ L) :
    Projects env i (run (Lane.step (env.alone i L)) s
        ((r.deviceRepository.devices[i]?).toList.map .device))
      (r.updateState env r.deviceRepository.devices) := by
  rw [updateState_backed env hbacked] at hL ⊢
  have hround := round_projects (updateDevice env)
    (fun device => if device.1 = i then [.device device.2] else [])
    r.deviceRepository.devices.toList (updateDevice_grows env) (fun s r' device hdevice hr hlog => ?_)
    h hL
  · have hnodup : (r.deviceRepository.devices.toList.map Prod.fst).Nodup := by
      rw [ExtTreeMap.map_fst_toList_eq_keys]
      exact ExtTreeMap.nodup_keys
    cases hi : r.deviceRepository.devices[i]? with
    | none =>
      have hno : ∀ device ∈ r.deviceRepository.devices.toList, device.1 ≠ i := by
        rintro ⟨index, deviceData⟩ hdevice rfl
        rw [ExtTreeMap.mem_toList_iff_getElem?_eq_some] at hdevice
        cases hdevice.symm.trans hi
      have hops := Journal.flatMap_none Prod.fst
        (f := fun device : UInt32 × DeviceData => [LaneOp.device device.2]) hno
      rw [hops] at hround
      exact hround
    | some deviceData =>
      have hops := Journal.flatMap_turn Prod.fst
        (f := fun device : UInt32 × DeviceData => [LaneOp.device device.2]) hnodup
        (ExtTreeMap.mem_toList_iff_getElem?_eq_some.2 hi)
      rw [hops] at hround
      exact hround
  · obtain ⟨index, deviceData⟩ := device
    have hdata : deviceData.ifIndex = index :=
      hindexed index deviceData (ExtTreeMap.mem_toList_iff_getElem?_eq_some.1 hdevice)
    split
    · rename_i hi
      cases (show index = i from hi)
      exact updateDevice_self hr hdata hlog
    · rename_i hi
      exact updateDevice_other hr hi hdata

/-- **An event of the loop** does to each interface what its lane does. -/
theorem step_projects (h : Projects env i s r) (hbacked : r.Backed) (hindexed : r.Indexed)
    {event : DaemonEvent} (hevent : event.Looped)
    (hL : (r.step env event).io.log <:+ L) :
    Projects env i (run (Lane.step (env.alone i L)) s (r.laneOps i event)) (r.step env event) := by
  rcases step_looped env r hevent with ⟨deltaSeconds, sent, rfl⟩ |
    ⟨hops, deviceRepository, hstep⟩ | ⟨hops, deviceRepository, hdevices, hstep⟩
  · exact tick_projects h deltaSeconds sent hL
  · rw [hops, hstep]
    exact ⟨h.sender, h.log, h.lone, h.shared, h.index⟩
  · rw [hstep] at hL ⊢
    rw [hops, ← hdevices]
    refine updateState_projects (r := { r with deviceRepository := deviceRepository })
      ⟨h.sender, h.log, h.lone, h.shared, h.index⟩ (fun k hk => ?_) (fun k d hd => ?_) hL
    · exact (show deviceRepository.devices = _ from hdevices) ▸ hbacked k hk
    · exact hindexed k d (hdevices ▸ hd)

/-! ## Runs -/

theorem updateState_grows (env : Env) (r : LldpRepository) (newState : Devices) :
    r.io.log <:+ (r.updateState env newState).io.log := by
  rw [← List.reverse_prefix, updateState_log]
  exact List.prefix_append _ _

theorem synchronize_grows (env : Env) (r : LldpRepository) (handed : Option Devices) :
    r.io.log <:+ (r.synchronize env handed).io.log := by
  cases handed with
  | none => exact List.suffix_rfl
  | some newState => exact updateState_grows env r newState

/-- No event takes a frame back. -/
theorem step_grows (env : Env) (r : LldpRepository) (event : DaemonEvent) :
    r.io.log <:+ (r.step env event).io.log := by
  cases event with
  | tick deltaSeconds sent =>
    exact Journal.run_grows (fun r : LldpRepository => r.io.log)
      (fun r idx => atSender_grows env r idx (.tick deltaSeconds))
      { r with deviceRepository := r.deviceRepository.tick deltaSeconds sent } r.currentState.keys
  | addrPacket packet =>
    exact synchronize_grows env
      { r with deviceRepository := (r.deviceRepository.ipReaderPacket packet).1 } _
  | ipReaderFinished => exact synchronize_grows env r _
  | markChanged idx => exact atSender_grows env r idx .localChangeDetected
  | newNeighbour idx => exact atSender_grows env r idx .newNeighbour
  | delete idx =>
    show r.io.log <:+ (r.deleteLldpStateMachine env idx).io.log
    unfold deleteLldpStateMachine
    split
    · exact atSender_grows env r idx .endTransmission
    · exact List.suffix_rfl
  | _ => exact List.suffix_rfl

/-- What a run is to an interface. -/
def laneRun (env : Env) (i : UInt32) (r : LldpRepository) (events : List DaemonEvent) : List LaneOp :=
  observe (step env) (laneOps i) r events

theorem run_projects (h : Projects env i s r) (hupheld : Upheld env r)
    {events : List DaemonEvent} (hevents : ∀ event ∈ events, event.Looped)
    (hL : (run (step env) r events).io.log <:+ L) :
    Projects env i (run (Lane.step (env.alone i L)) s (laneRun env i r events))
      (run (step env) r events) := by
  have hrun := Journal.within (fun r : LldpRepository => r.io.log)
    (fun seen r => Projects env i (run (Lane.step (env.alone i L)) s seen) r ∧ Upheld env r)
    (laneOps i) (step_grows env) (fun seen r event hevent hr hlog => ⟨?_, ?_⟩)
    (show Projects env i (run _ s []) r ∧ _ from ⟨h, hupheld⟩) hL
  · exact hrun.1
  · rw [run_append]
    exact step_projects hr.1 hr.2.backed hr.2.indexed (hevents event hevent) hlog
  · exact step_upheld env hr.2 (hevents event hevent)

end LldpRepository

/-! ## The daemon -/

namespace Daemon

open LldpRepository

/-- What a run of the daemon is to an interface: one tick for each call of the clock that finds
time passed, and for each synchronisation its device, if there is one. -/
def lane (platform : Platform) (i : UInt32) (calls : List HandlerCall) : List LaneOp :=
  laneRun platform.env i .create (events platform calls)

theorem run_projects {platform : Platform} {verbose : Bool} {calls : List HandlerCall}
    {d : Daemon} (h : Daemon.run platform verbose calls = .ok d) (i : UInt32) {L : List Sent}
    (hL : d.lldpRepository.io.log <:+ L) :
    Projects platform.env i
      (Run.run (Lane.step (platform.env.alone i L)) none (lane platform i calls)) d.lldpRepository := by
  obtain ⟨-, -, hd, -⟩ := run_parts h
  rw [hd] at hL ⊢
  exact LldpRepository.run_projects (create_projects platform.env i)
    (create_upheld platform.env) (events_looped platform calls) hL

theorem run_grows {platform : Platform} {verbose : Bool} {calls more : List HandlerCall}
    {d d' : Daemon} (h : Daemon.run platform verbose calls = .ok d)
    (h' : Daemon.run platform verbose (calls ++ more) = .ok d') :
    d.lldpRepository.io.log <:+ d'.lldpRepository.io.log := by
  rw [run_later h h']
  exact Journal.run_grows (fun r : LldpRepository => r.io.log) (step_grows platform.env) _ _

end Daemon

/-- **Each interface runs by itself.** Take any run of the daemon, with whatever `sendto`
replies, and give an interface a socket of its own that replies to its frames as the shared one
did, and a stack as it was then. Then the lane of the interface, which only knows its own devices
and the ticks, has at each point of the run the very sender that the daemon has for the interface,
and its log is the frames that went out on the interface. -/
theorem daemon_refines_lanes (platform : Platform) (verbose : Bool) (calls more : List HandlerCall)
    (d d' : Daemon) (h : Daemon.run platform verbose calls = .ok d)
    (h' : Daemon.run platform verbose (calls ++ more) = .ok d') (i : UInt32) :
    let s := Run.run (Lane.step (platform.env.alone i d'.lldpRepository.io.log)) none
      (Daemon.lane platform i calls)
    d.lldpRepository.currentState[i]? = s.sender ∧ d.lldpRepository.io.on i = s.log := by
  have hprojects := Daemon.run_projects h i (Daemon.run_grows h h')
  exact ⟨hprojects.sender, hprojects.log⟩

/-- In the first calls the lane of interface 2 sends one frame. -/
theorem daemon_refines_lanes_first : ∃ d, Daemon.run quietPlatform false firstCalls = .ok d ∧
    (Run.run (Lane.step (quietPlatform.env.alone 2 d.lldpRepository.io.log)) none
      (Daemon.lane quietPlatform 2 firstCalls)).log.length = 1 := by
  obtain ⟨d, hrun, hone⟩ := ok_of_shows (x := Daemon.run quietPlatform false firstCalls)
    (f := fun d => (d.lldpRepository.io.on 2).length) (b := 1) (by decide +kernel)
  have hlane := daemon_refines_lanes quietPlatform false firstCalls [] d d hrun
    (by rw [List.append_nil]; exact hrun) 2
  refine ⟨d, hrun, ?_⟩
  rw [← hlane.2]
  exact hone

end Ndisc
