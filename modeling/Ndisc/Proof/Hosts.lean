import Ndisc.Proof.Answers
import Ndisc.Proof.Hold
import Ndisc.Spec.Segment

/-!
# Two hosts

A frame that one daemon sent comes to another one, at any point of its run. From then on the
second one knows the first, until it has heard nothing more for as long as the TTL.

* `carried_frameBytes`: what a frame of a device grants.
* `leaseEvents_ticked`, `leaseEvents_writes`: the calls that follow only let time pass.
* `hosts_discover`: **what the kernel of the one host says of an interface, the other host
  has in its table, for exactly 30 seconds after the last frame**.
-/

namespace Ndisc

open Wire Netlink Run Lease

/-! ## The frame -/

/-- What a frame of a device grants. -/
theorem carried_frameBytes {machineId : Bytes} (hid : machineId.length ≤ 510) (ttl : UInt16)
    (device : DeviceData) (mac : Octets 6) (padding : Bytes) {address : SockaddrLl}
    (haddress : address.accepted = true) :
    carried address ((device.frameBytes machineId ttl mac).drop 14 ++ padding) =
      some (device.entry machineId ttl mac (narrowIfindex address.sllIfindex)) := by
  simp only [carried, haddress, if_true, frameBytes_drop, dataUnit_read hid, dataUnit_entry,
    Except.toOption]

theorem delivered_received (frame : Sent) (address : SockaddrLl) {padding : Bytes}
    (h : (frame.buffer.drop 14 ++ padding).length ≤ maxFrameBufferSize) :
    (frame.received address padding).delivered = some (address, frame.buffer.drop 14 ++ padding) :=
  if_pos h

theorem steady_received (frame : Sent) (address : SockaddrLl) (padding : Bytes) :
    (frame.received address padding).Steady := by
  intro peeked frame hpeeked hreceived
  exact Option.some.inj (hpeeked.symm.trans hreceived)

/-! ## The calls that follow -/

namespace HandlerCall

/-- The time that passes in a call. -/
def seconds : HandlerCall → ℕ
  | .clock (some timesTriggered) _ => timesTriggered.toNat
  | _ => 0

/-- No frame of this pair comes in the call. -/
def Spares (key : Bytes × Bytes) : HandlerCall → Prop
  | .ethernetMonitor r => ∀ bytes ∈ r.taken, ∀ entry, carried r.address bytes = some entry →
    entry.key ≠ key
  | _ => True

variable {key : Bytes × Bytes} {c : HandlerCall}

/-- The events of the table in a call. -/
def leaseEvents (m : EthernetLldpMonitor) (c : HandlerCall) :
    List (Event (Bytes × Bytes) NeighbourEntry) :=
  (c.tableOps m).filterMap TableOp.event

theorem leaseEvents_ticked (m : EthernetLldpMonitor) (c : HandlerCall) :
    ((c.leaseEvents m).filterMap Event.ticked).sum = c.seconds := by
  cases c with
  | clock timesTriggered sent =>
    cases timesTriggered with
    | none => rfl
    | some n =>
      by_cases hn : n = 0
      · subst hn
        rfl
      · simp [leaseEvents, tableOps, if_neg hn, TableOp.event, Event.ticked, seconds]
  | ethernetMonitor r =>
    have hnone : (leaseEvents m (.ethernetMonitor r)).filterMap Event.ticked = [] := by
      rw [List.filterMap_eq_nil_iff]
      intro event hevent
      obtain ⟨op, hop, hgrant⟩ := List.mem_filterMap.1 hevent
      obtain ⟨⟨address, bytes⟩, -, rfl⟩ := List.mem_map.1 hop
      obtain ⟨entry, -, rfl⟩ := Option.map_eq_some_iff.1 hgrant
      rfl
    rw [hnone]
    rfl
  | _ => rfl

theorem leaseEvents_writes (m : EthernetLldpMonitor) (h : c.Spares key) :
    ∀ event ∈ c.leaseEvents m, ¬ event.Writes key := by
  intro event hevent
  obtain ⟨op, hop, hgrant⟩ := List.mem_filterMap.1 hevent
  cases c with
  | clock timesTriggered sent =>
    cases timesTriggered with
    | none => cases hop
    | some n =>
      by_cases hn : n = 0
      · rw [tableOps, if_pos hn] at hop
        cases hop
      · rw [tableOps, if_neg hn] at hop
        rw [List.mem_singleton.1 hop] at hgrant
        cases hgrant
        exact id
  | ethernetMonitor r =>
    obtain ⟨⟨address, bytes⟩, hhanded, rfl⟩ := List.mem_map.1 hop
    obtain ⟨rfl, htaken⟩ := handed_taken hhanded
    obtain ⟨entry, hentry, rfl⟩ := Option.map_eq_some_iff.1 hgrant
    exact h bytes htaken entry hentry
  | _ => cases hop

end HandlerCall

/-! ## A host that heard the frame -/

namespace Daemon

variable {platform : Platform} {verbose : Bool} {d : Daemon} {key : Bytes × Bytes}

/-- The events of the table in a run that starts with this buffer. -/
def leaseEvents (m : EthernetLldpMonitor) (calls : List HandlerCall) :
    List (Event (Bytes × Bytes) NeighbourEntry) :=
  observe (fun m c => Run.run EthernetLldpMonitor.step m (HandlerCall.frames c))
    (fun m c => HandlerCall.leaseEvents m c) m calls

theorem leaseEvents_eq (m : EthernetLldpMonitor) (calls : List HandlerCall) :
    (observe (fun m c => Run.run EthernetLldpMonitor.step m (HandlerCall.frames c))
      (fun m c => HandlerCall.tableOps m c) m calls).filterMap TableOp.event = leaseEvents m calls := by
  induction calls generalizing m with
  | nil => rfl
  | cons c calls ih =>
    rw [observe, List.filterMap_append, ih]
    rfl

theorem leaseEvents_ticked (m : EthernetLldpMonitor) (calls : List HandlerCall) :
    ((leaseEvents m calls).filterMap Event.ticked).sum = (calls.map HandlerCall.seconds).sum := by
  induction calls generalizing m with
  | nil => rfl
  | cons c calls ih =>
    rw [leaseEvents, observe, List.filterMap_append, List.sum_append, c.leaseEvents_ticked,
      List.map_cons, List.sum_cons, ← ih]
    rfl

theorem leaseEvents_writes (m : EthernetLldpMonitor) {calls : List HandlerCall}
    (h : ∀ c ∈ calls, c.Spares key) : ∀ event ∈ leaseEvents m calls, ¬ event.Writes key := by
  intro event hevent
  obtain ⟨before, c, after, rfl, hobs⟩ := mem_observe hevent
  exact HandlerCall.leaseEvents_writes _ (h c (by simp)) event hobs

/-- **What a delivered frame leaves in the table**, until there is another of its pair. -/
theorem heard_lookup {before after : List HandlerCall} {r : FrameReceived} {address : SockaddrLl}
    {bytes : Bytes} {entry : NeighbourEntry}
    (h : Daemon.run platform verbose (before ++ .ethernetMonitor r :: after) = .ok d)
    (hsteady : r.Steady) (hdelivered : r.delivered = some (address, bytes))
    (hentry : carried address bytes = some entry) (hpos : 0 < entry.timeToLive.toNat)
    (hspares : ∀ c ∈ after, c.Spares entry.key) :
    d.neighbourList.lookup entry.chassisId entry.portId =
      if (after.map HandlerCall.seconds).sum < entry.timeToLive.toNat then
        some { entry with
          timeToLive := UInt16.ofNat (entry.timeToLive.toNat - (after.map HandlerCall.seconds).sum) }
      else none := by
  obtain ⟨-, htable, -, -⟩ := run_parts h
  have hleased := run_leased htable
  -- the frame is handed on as it is, whatever the buffer held
  let m := Run.run (fun m c => Run.run EthernetLldpMonitor.step m (HandlerCall.frames c)) .create before
  have hm : m.messageBuffer.length ≤ maxFrameBufferSize := by
    have hbuffer : m = Run.run EthernetLldpMonitor.step .create (before.flatMap HandlerCall.frames) :=
      (run_flatMap _ _ _ _).symm
    rw [hbuffer]
    exact (EthernetLldpMonitor.run_length _).2
  have hops : HandlerCall.leaseEvents m (.ethernetMonitor r) =
      [.write entry.key entry.timeToLive.toNat entry] := by
    rw [HandlerCall.leaseEvents, HandlerCall.tableOps, EthernetLldpMonitor.handed_eq hm hsteady,
      hdelivered]
    simp [TableOp.event, hentry]
  have hevents : (tableOps (before ++ .ethernetMonitor r :: after)).filterMap TableOp.event =
      leaseEvents .create before ++ .write entry.key entry.timeToLive.toNat entry ::
        leaseEvents (m.step r) after := by
    rw [tableOps, leaseEvents_eq, leaseEvents, observe_append, observe, hops]
    rfl
  have hgrant : granted (tableOps (before ++ .ethernetMonitor r :: after)) entry.key =
      some ⟨entry, entry.timeToLive.toNat, (leaseEvents (m.step r) after).filterMap Event.ticked⟩ := by
    rw [granted, history_eq_some_iff, hevents]
    exact ⟨_, _, rfl, leaseEvents_writes _ hspares, rfl⟩
  have hlive : (⟨entry, entry.timeToLive.toNat,
      (leaseEvents (m.step r) after).filterMap Event.ticked⟩ : Grant NeighbourEntry).Live ↔
        (after.map HandlerCall.seconds).sum < entry.timeToLive.toNat := by
    rw [← leaseEvents_ticked (m.step r) after]
    constructor
    · rintro (hnone | hlt)
      · rw [show (leaseEvents (m.step r) after).filterMap Event.ticked = [] from hnone]
        exact hpos
      · exact hlt
    · exact Or.inr
  rw [hleased.lookup, view, show (entry.chassisId, entry.portId) = entry.key from rfl, hgrant,
    Option.bind_some]
  simp only [hlive, leaseEvents_ticked]
  split <;> rfl

end Daemon

/-- **Two hosts.** Take any run of one daemon and a frame that it sent, and any run of another
one in which this frame is delivered at some point, and no other frame with the same machine
id and MAC afterwards. For 30 seconds the second daemon has the interface of the first in its
table, as the kernel of the first one described it, with the time that is left, and with the
index on which it came. Then the entry is gone. The stack of the first one has to keep the locals
that its frames are read from. -/
theorem hosts_discover (platform platform' : Platform)
    (hid : platform.env.machineId.length ≤ 510) (hintact : platform.env.Intact)
    (verbose verbose' : Bool) (calls before after : List HandlerCall) (d d' : Daemon)
    (frame : Sent) (address : SockaddrLl) (padding : Bytes)
    (h : Daemon.run platform verbose calls = .ok d)
    (hframe : frame ∈ d.lldpRepository.io.log) (haddress : address.accepted = true)
    (hlen : (frame.buffer.drop 14 ++ padding).length ≤ maxFrameBufferSize)
    (h' : Daemon.run platform' verbose'
      (before ++ .ethernetMonitor (frame.received address padding) :: after) = .ok d')
    (hspares : ∀ c ∈ after, ∀ mac, frame.deviceData.macAddress = some mac →
      c.Spares (portTlvSubtypeLocal :: platform.env.machineId, portTlvSubtypeMac :: mac.toList)) :
    frame.deviceData.Sourced (Daemon.links platform calls) (Daemon.addresses platform calls)
        frame.deviceData.ifIndex ∧
      ∃ mac, frame.deviceData.macAddress = some mac ∧
        d'.neighbourList.lookup (portTlvSubtypeLocal :: platform.env.machineId)
            (portTlvSubtypeMac :: mac.toList) =
          if (after.map HandlerCall.seconds).sum < 30 then
            some (frame.deviceData.entry platform.env.machineId
              (UInt16.ofNat (30 - (after.map HandlerCall.seconds).sum)) mac
              (narrowIfindex address.sllIfindex))
          else none := by
  obtain ⟨i, hsourced⟩ := ((Daemon.run_sourced h).io.log frame hframe).device
  obtain ⟨mac, hmac, hbuffer⟩ := Daemon.run_frameBytes hintact hid h hframe
  refine ⟨hsourced.ifIndex.symm ▸ hsourced, mac, hmac, ?_⟩
  have hcarried := carried_frameBytes hid targetTtl frame.deviceData mac padding haddress
  rw [← hbuffer] at hcarried
  exact Daemon.heard_lookup h' (steady_received frame address padding)
    (delivered_received frame address hlen) hcarried (show 0 < targetTtl.toNat by decide)
    fun c hc => hspares c hc mac hmac

/-- The frame of the first calls. -/
def firstFrame : Sent where
  ttl := 30
  deviceData := { plainDevice with
    ipv4Address := some (leOctets 4 0x0100000A), interfaceName := some [101, 116, 104, 48] }
  buffer := [1, 128, 194, 0, 0, 0, 2, 0, 0, 0, 0, 1, 136, 204, 2, 2, 7, 97, 4, 7, 3, 2, 0, 0, 0, 0,
    1, 6, 2, 0, 30, 16, 12, 5, 1, 10, 0, 0, 1, 2, 0, 0, 0, 2, 0, 0, 0]
  sllIfindex := 2

/-- A host that hears it on interface 3, and then nothing for five seconds. -/
theorem hosts_discover_first : ∃ d d', Daemon.run quietPlatform false firstCalls = .ok d ∧
    Daemon.run quietPlatform false ([.clock (some 7) true] ++
      .ethernetMonitor (firstFrame.received ⟨17, (0x88, 0xCC), 3, 1, 6⟩ [0, 0]) ::
        [.clock (some 5) true]) = .ok d' ∧
    d'.neighbourList.lookup [7, 0x61] [3, 2, 0, 0, 0, 0, 1] =
      some ⟨[7, 0x61], [3, 2, 0, 0, 0, 0, 1], 3, 25, some ⟨[10, 0, 0, 1], rfl⟩, none⟩ := by
  have hlog : (Daemon.run quietPlatform false firstCalls).toOption.map
      (fun d => d.lldpRepository.io.log) = some [firstFrame] := by decide +kernel
  have hok : (Daemon.run quietPlatform false ([.clock (some 7) true] ++
      .ethernetMonitor (firstFrame.received ⟨17, (0x88, 0xCC), 3, 1, 6⟩ [0, 0]) ::
        [.clock (some 5) true])).isOk = true := by decide +kernel
  cases hrun : Daemon.run quietPlatform false firstCalls with
  | error crash => rw [hrun] at hlog; cases hlog
  | ok d =>
    rw [hrun] at hlog
    have hframe : firstFrame ∈ d.lldpRepository.io.log := by
      rw [show d.lldpRepository.io.log = [firstFrame] from Option.some.inj hlog]
      exact List.mem_singleton_self firstFrame
    cases hrun' : Daemon.run quietPlatform false ([.clock (some 7) true] ++
        .ethernetMonitor (firstFrame.received ⟨17, (0x88, 0xCC), 3, 1, 6⟩ [0, 0]) ::
          [.clock (some 5) true]) with
    | error crash => rw [hrun'] at hok; cases hok
    | ok d' =>
      obtain ⟨-, mac, hmac, hlookup⟩ := hosts_discover quietPlatform quietPlatform (by decide)
        (fun _ => Stack.intact_keeps) false false firstCalls [.clock (some 7) true]
        [.clock (some 5) true] d d' firstFrame
        ⟨17, (0x88, 0xCC), 3, 1, 6⟩ [0, 0] hrun hframe (by decide) (by decide) hrun'
        fun c hc mac _ => by rw [List.mem_singleton.1 hc]; trivial
      cases hmac
      exact ⟨d, d', rfl, rfl, hlookup⟩

end Ndisc
