import Ndisc.Proof.Pace

/-!
# A host is not forgotten

What keeps an entry of the table alive is the next frame. An interface that stays up sends one
within six seconds, and an entry lives for thirty, so some frames can get lost on the way, and the
two clocks need not agree.

* `Heard`: the last frame that came over, and what happened since.
* `step_heard`: a call of either host keeps that up.
* `hosts_stay_neighbours`: **with at most `k` frames lost in a row, the entry stays as long as the
  second clock does not count thirty seconds while the first one counts less than `6 * (k + 1)`**.
-/

namespace Ndisc

open Wire Netlink Run Lease LldpRepository
open Std (ExtTreeMap)

/-! ## Lengths -/

/-- The frame of any device fits the buffer of the receiver. -/
theorem DeviceData.frameBytes_length_le {machineId : Bytes} (hid : machineId.length ≤ 510)
    (ttl : UInt16) (d : DeviceData) (mac : Octets 6) :
    ((d.frameBytes machineId ttl mac).drop 14).length ≤ 568 := by
  have hoptional : ((d.optionalTlvs mac).flatMap LLDPDUTypeLengthValue.encode).length ≤ 40 := by
    cases hd4 : d.ipv4Address <;> cases hd6 : d.ipv6Address <;>
      simp [optionalTlvs, hd4, hd6, managementTlv, LLDPDUTypeLengthValue.encode, managementValue_length]
  have hbody : (d.dataUnit machineId ttl mac).encode.length = machineId.length + 18 +
      ((d.optionalTlvs mac).flatMap LLDPDUTypeLengthValue.encode).length := by
    simp only [LLDPDataUnit.encode, LLDPDataUnit.body, List.length_append, tlv_encode_length,
      LLDPDUTypeLengthValue.getFrameBufferSize, dataUnit, List.length_cons, mac.toList_length]
    have hend : endOfDataUnitTlv.length = 2 := rfl
    have httl : (be16 ttl.toNat).length = 2 := rfl
    omega
  rw [frameBytes, List.length_drop, List.length_append, header_bytes_length, hbody]
  omega

/-! ## The frames of an interface -/

namespace Daemon

variable {platform : Platform} {verbose : Bool} {calls more : List HandlerCall} {d d' : Daemon}

theorem run_upheld (h : Daemon.run platform verbose calls = .ok d) :
    Upheld platform.env d.lldpRepository := by
  rw [(run_parts h).2.2.1]
  exact (run_fixed platform.env (create_upheld platform.env) (events_looped platform calls)).1

/-- The MAC of the sender of an interface. -/
def macOf (i : UInt32) (d : Daemon) : Option (Octets 6) :=
  d.lldpRepository.currentState[i]?.bind fun sender => sender.deviceData.macAddress

/-- A MAC that is known stays. -/
theorem run_macOf (h : Daemon.run platform verbose calls = .ok d)
    (h' : Daemon.run platform verbose (calls ++ more) = .ok d') {i : UInt32} {mac : Octets 6}
    (hmac : d.macOf i = some mac) : d'.macOf i = some mac := by
  obtain ⟨sender, hsender, hknown⟩ := Option.bind_eq_some_iff.1 hmac
  obtain ⟨-, hlasting⟩ := run_fixed platform.env (run_upheld h) (events_looped platform more)
  rw [← run_later h h'] at hlasting
  obtain ⟨sender', hsender', hsame⟩ := hlasting i sender hsender
  exact Option.bind_eq_some_iff.2 ⟨sender', hsender', hsame.trans hknown⟩

/-- Every frame on an interface has its MAC. -/
theorem mac_of_frame (h : Daemon.run platform verbose calls = .ok d) {i : UInt32} {mac : Octets 6}
    (hmac : d.macOf i = some mac) {frame : Sent} (hframe : frame ∈ d.lldpRepository.io.on i) :
    frame.deviceData.macAddress = some mac := by
  obtain ⟨hlog, hon⟩ := List.mem_filter.1 hframe
  obtain ⟨sender, hsender, hof, hindex, hsll, -⟩ := (run_upheld h).fixed.sent frame hlog
  have hi : frame.deviceData.ifIndex = i := by
    rw [hindex]
    exact UInt32.toNat_inj.1 (hsll.symm.trans (beq_iff_eq.1 hon))
  obtain ⟨sender', hsender', hknown⟩ := Option.bind_eq_some_iff.1 hmac
  rw [hi] at hsender
  rw [hof, ← hknown, Option.some.inj (hsender.symm.trans hsender')]

theorem on_grows (h : Daemon.run platform verbose calls = .ok d)
    (h' : Daemon.run platform verbose (calls ++ more) = .ok d') (i : UInt32) :
    d.lldpRepository.io.on i <:+ d'.lldpRepository.io.on i := (run_grows h h').filter _

theorem laneFrom_append (platform : Platform) (i : UInt32)
    (h : Daemon.run platform verbose calls = .ok d)
    (h' : Daemon.run platform verbose (calls ++ more) = .ok d') (rest : List HandlerCall) :
    laneFrom platform i d (more ++ rest) = laneFrom platform i d more ++ laneFrom platform i d' rest := by
  rw [laneFrom, laneRun, events, List.flatMap_append, observe_append, ← events, ← run_later h h']
  rfl

end Daemon

/-! ## What the events are to each host -/

namespace HostEvent

/-- The calls of the host that announces. -/
def senderCalls : HostEvent → List HandlerCall
  | .sender c _ => [c]
  | .receiver _ => []

def receiverCalls : HostEvent → List HandlerCall
  | .sender _ _ => []
  | .receiver c => [c]

/-- The time that its clock counts. -/
def senderSeconds (e : HostEvent) : ℕ := (e.senderCalls.map HandlerCall.seconds).sum

def receiverSeconds (e : HostEvent) : ℕ := (e.receiverCalls.map HandlerCall.seconds).sum

end HostEvent

namespace Segment

variable {g : Segment} {verbose verbose' : Bool} {s s' : Hosts} {e : HostEvent} {mac : Octets 6}

/-- The key of the interface in the table of the other host. -/
def key (g : Segment) (mac : Octets 6) : Bytes × Bytes :=
  (portTlvSubtypeLocal :: g.sender.env.machineId, portTlvSubtypeMac :: mac.toList)

/-- **What an event does**: a call of the one host, and the frames of it that come over to the
other one, or a call of the other one. -/
theorem step_cases (h : g.step s e = .ok s') :
    (∃ c delivered, e = .sender c delivered ∧ s.sender.step g.sender c = .ok s'.sender ∧
      ((delivered = false ∨ g.newFrames s.sender s'.sender = []) ∧ s'.receiver = s.receiver ∧
          s'.lost = s.lost + (g.newFrames s.sender s'.sender).length ∨
        g.newFrames s.sender s'.sender ≠ [] ∧ s'.lost = 0 ∧
          ((g.newFrames s.sender s'.sender).map g.deliver).foldlM (Daemon.step g.receiver) s.receiver =
            .ok s'.receiver)) ∨
    ∃ c, e = .receiver c ∧ s'.sender = s.sender ∧ s'.lost = s.lost ∧
      s.receiver.step g.receiver c = .ok s'.receiver := by
  cases e with
  | receiver c =>
    obtain ⟨receiver, hreceiver, heq⟩ := bind_eq_ok.1 h
    cases heq
    exact Or.inr ⟨c, rfl, rfl, rfl, hreceiver⟩
  | sender c delivered =>
    obtain ⟨sender, hsender, hrest⟩ := bind_eq_ok.1 h
    refine Or.inl ⟨c, delivered, rfl, ?_⟩
    cases delivered with
    | false =>
      cases hrest
      exact ⟨hsender, Or.inl ⟨Or.inl rfl, rfl, rfl⟩⟩
    | true =>
      obtain ⟨receiver, hreceiver, heq⟩ := bind_eq_ok.1 hrest
      cases heq
      refine ⟨hsender, ?_⟩
      by_cases hnone : g.newFrames s.sender sender = []
      · rw [hnone] at hreceiver
        cases hreceiver
        refine Or.inl ⟨Or.inr hnone, rfl, ?_⟩
        show (if _ then _ else _) = _
        rw [if_pos hnone, hnone]
        rfl
      · exact Or.inr ⟨hnone, if_neg hnone, hreceiver⟩

/-! ## The last frame that came over -/

/-- A frame of the interface came over, and since then only time passed for its entry. The frames
that are lost take six seconds each, and the next one is due when the slack is used up. -/
structure Heard (g : Segment) (verbose verbose' : Bool) (mac : Octets 6) (since : List HostEvent)
    (s : Hosts) : Prop where
  sender : ∃ calls, Daemon.run g.sender verbose calls = .ok s.sender
  known : s.sender.macOf g.interface = some mac
  announces : s.sender.Announces g.interface
  receiver : ∃ before frame after,
    Daemon.run g.receiver verbose' (before ++ g.deliver frame :: after) = .ok s.receiver ∧
      frame ∈ s.sender.lldpRepository.io.on g.interface ∧
      (∀ c ∈ after, c.Spares (g.key mac)) ∧
      (after.map HandlerCall.seconds).sum = (since.map HostEvent.receiverSeconds).sum
  due : (since.map HostEvent.senderSeconds).sum + s.sender.slack g.interface ≤ 6 * (s.lost + 1)

/-- What is asked of an event: the clock of the host that announces does not miss a second, all
reports say that the interface is up, and no other frame of the same pair comes in. -/
structure Fair (g : Segment) (mac : Octets 6) (s : Hosts) (e : HostEvent) : Prop where
  seconds : ∀ c ∈ e.senderCalls, c.seconds ≤ 1
  reports : ∀ deviceData,
    .device deviceData ∈ Daemon.laneFrom g.sender g.interface s.sender e.senderCalls →
      deviceData.deviceOperational = true
  spares : ∀ c ∈ e.receiverCalls, c.Spares (g.key mac)

theorem newFrames_eq_nil (h : s.sender.lldpRepository.io.on g.interface <:+
      s'.sender.lldpRepository.io.on g.interface) :
    g.newFrames s.sender s'.sender = [] ↔
      (s'.sender.lldpRepository.io.on g.interface).length ≤
        (s.sender.lldpRepository.io.on g.interface).length := by
  rw [newFrames, List.reverse_eq_nil_iff, Journal.since_eq_nil_iff h.length_le]

theorem mem_newFrames {frame : Sent} (h : frame ∈ g.newFrames s.sender s'.sender) :
    frame ∈ s'.sender.lldpRepository.io.on g.interface :=
  List.mem_of_mem_take (List.mem_reverse.1 h)

/-- The frames of a call come over, and the last one counts. -/
theorem heard_of_delivered (hsender : ∃ calls, Daemon.run g.sender verbose calls = .ok s'.sender)
    (hmac : s'.sender.macOf g.interface = some mac) (hup : s'.sender.Announces g.interface)
    (hslack : s'.sender.slack g.interface ≤ 6) {calls : List HandlerCall}
    (hreceiver : Daemon.run g.receiver verbose' calls = .ok s.receiver)
    (hnew : g.newFrames s.sender s'.sender ≠ []) (hlost : s'.lost = 0)
    (hdelivered : ((g.newFrames s.sender s'.sender).map g.deliver).foldlM (Daemon.step g.receiver)
      s.receiver = .ok s'.receiver) : Heard g verbose verbose' mac [] s' := by
  obtain ⟨first, last, hlast⟩ : ∃ first last, g.newFrames s.sender s'.sender = first ++ [last] :=
    ⟨_, _, (List.dropLast_concat_getLast hnew).symm⟩
  refine ⟨hsender, hmac, hup, ⟨calls ++ first.map g.deliver, last, [], ?_,
    mem_newFrames (by rw [hlast]; simp), fun c hc => (by cases hc), rfl⟩, ?_⟩
  · rw [hlast, List.map_append, List.map_singleton] at hdelivered
    rw [List.append_assoc]
    unfold Daemon.run at hreceiver ⊢
    rw [List.foldlM_append, hreceiver]
    exact hdelivered
  · rw [hlost]
    simp only [List.map_nil, List.sum_nil]
    omega

/-- **An event keeps the last frame alive, or brings a new one.** -/
theorem step_heard (hsend : g.sender.env.SendsSucceed) (hindex : g.interface.toNat ≤ intMax)
    {since : List HostEvent} (h : Heard g verbose verbose' mac since s) (hfair : Fair g mac s e)
    (hstep : g.step s e = .ok s') :
    Heard g verbose verbose' mac [] s' ∨ Heard g verbose verbose' mac (since ++ [e]) s' := by
  obtain ⟨calls, hsender⟩ := h.sender
  obtain ⟨before, frame, after, hreceiver, hframe, hspares, hafter⟩ := h.receiver
  have hdue := h.due
  rcases step_cases hstep with ⟨c, delivered, rfl, hcall, hfate⟩ | ⟨c, rfl, hsame, hlost, hcall⟩
  · have hsender' : Daemon.run g.sender verbose (calls ++ [c]) = .ok s'.sender := by
      rw [Daemon.run_concat_eq, hsender]
      exact hcall
    have hgrows := Daemon.on_grows hsender hsender' g.interface
    obtain ⟨hannounces, hslack⟩ := Daemon.run_slack hsend hsender hsender' hindex h.announces
      (Daemon.laneFrom_steady hfair.seconds hfair.reports)
    have hmac := Daemon.run_macOf hsender hsender' h.known
    have hbounds := Daemon.slack_bounds hsender hindex h.announces
    have hbounds' := Daemon.slack_bounds hsender' hindex hannounces
    have hsecond : c.seconds ≤ 1 := hfair.seconds c List.mem_cons_self
    have hsum : ((since ++ [HostEvent.sender c delivered]).map HostEvent.senderSeconds).sum =
        (since.map HostEvent.senderSeconds).sum + c.seconds := by
      rw [List.map_append, List.sum_append]
      rfl
    rcases hfate with ⟨hnot, hrest, hlost⟩ | ⟨hnew, hlost, hdelivered⟩
    · right
      refine ⟨⟨_, hsender'⟩, hmac, hannounces, ⟨before, frame, after, ?_, hgrows.subset hframe,
        hspares, ?_⟩, ?_⟩
      · rw [hrest]
        exact hreceiver
      · rw [List.map_append, List.sum_append]
        exact hafter
      · rw [hsum, hlost]
        by_cases hnone : g.newFrames s.sender s'.sender = []
        · -- nothing was sent, so the second comes off the slack
          have hoff := hslack ((newFrames_eq_nil hgrows).1 hnone)
          rw [hnone]
          simp only [List.map_cons, List.map_nil, List.sum_cons, List.sum_nil] at hoff
          exact (show _ ≤ 6 * (s.lost + 1) by omega)
        · -- a frame was lost, which was due by now, and the next one takes six seconds
          have hpos := List.length_pos_iff.2 hnone
          omega
    · exact Or.inl (heard_of_delivered ⟨_, hsender'⟩ hmac hannounces hbounds'.2 hreceiver hnew hlost
        hdelivered)
  · right
    refine ⟨⟨calls, by rw [hsame]; exact hsender⟩, hsame ▸ h.known, hsame ▸ h.announces,
      ⟨before, frame, after ++ [c], ?_, hsame ▸ hframe, ?_, ?_⟩, ?_⟩
    · rw [← List.cons_append, ← List.append_assoc, Daemon.run_concat_eq, hreceiver]
      exact hcall
    · intro c' hc'
      rcases List.mem_append.1 hc' with hold | hnew
      · exact hspares c' hold
      · rw [List.mem_singleton.1 hnew]
        exact hfair.spares c List.mem_cons_self
    · rw [List.map_append, List.sum_append, List.map_append, List.sum_append, hafter]
      rfl
    · rw [hsame, hlost, List.map_append, List.sum_append]
      exact hdue

theorem step_sender {calls : List HandlerCall}
    (h : Daemon.run g.sender verbose calls = .ok s.sender) (hstep : g.step s e = .ok s') :
    Daemon.run g.sender verbose (calls ++ e.senderCalls) = .ok s'.sender := by
  rcases step_cases hstep with ⟨c, delivered, rfl, hcall, -⟩ | ⟨c, rfl, hsame, -⟩
  · rw [HostEvent.senderCalls, Daemon.run_concat_eq, h]
    exact hcall
  · rw [HostEvent.senderCalls, List.append_nil, hsame]
    exact h

/-- **A run**, from the first frame that came over. -/
theorem run_heard (hsend : g.sender.env.SendsSucceed) (hindex : g.interface.toNat ≤ intMax)
    {events : List HostEvent}
    (hseconds : ∀ e ∈ events, ∀ c ∈ e.senderCalls, c.seconds ≤ 1)
    (hreports : ∀ deviceData, .device deviceData ∈ Daemon.laneFrom g.sender g.interface s.sender
      (events.flatMap HostEvent.senderCalls) → deviceData.deviceOperational = true)
    (hspares : ∀ e ∈ events, ∀ c ∈ e.receiverCalls, c.Spares (g.key mac))
    {since : List HostEvent} (h : Heard g verbose verbose' mac since s)
    (hrun : g.run s events = .ok s') :
    ∃ since', since' <:+ since ++ events ∧ Heard g verbose verbose' mac since' s' := by
  induction events generalizing s since with
  | nil =>
    cases hrun
    exact ⟨since, by rw [List.append_nil], h⟩
  | cons e events ih =>
    obtain ⟨s₁, hstep, hrest⟩ := bind_eq_ok.1 (show g.step s e >>= (g.run · events) = _ from hrun)
    obtain ⟨calls, hsender⟩ := h.sender
    rw [List.flatMap_cons, Daemon.laneFrom_append g.sender g.interface hsender
      (step_sender hsender hstep)] at hreports
    have hfair : Fair g mac s e := ⟨hseconds e List.mem_cons_self,
      fun deviceData hmem => hreports deviceData (List.mem_append_left _ hmem),
      hspares e List.mem_cons_self⟩
    have hlater : ∀ {since : List HostEvent}, Heard g verbose verbose' mac since s₁ →
        ∃ since', since' <:+ since ++ events ∧ Heard g verbose verbose' mac since' s' :=
      fun hheard => ih (fun x hx => hseconds x (List.mem_cons_of_mem e hx))
        (fun deviceData hmem => hreports deviceData (List.mem_append_right _ hmem))
        (fun x hx => hspares x (List.mem_cons_of_mem e hx)) hheard hrest
    rcases step_heard hsend hindex h hfair hstep with hnew | hold
    · obtain ⟨since', hsuffix, hheard⟩ := hlater hnew
      exact ⟨since', hsuffix.trans ((List.suffix_cons e events).trans (List.suffix_append _ _)), hheard⟩
    · obtain ⟨since', hsuffix, hheard⟩ := hlater hold
      refine ⟨since', ?_, hheard⟩
      rwa [List.append_assoc, List.singleton_append] at hsuffix

/-- **The entry is there** while less than thirty seconds passed since the last frame came over. -/
theorem Heard.lookup {since : List HostEvent} (h : Heard g verbose verbose' mac since s)
    (hid : g.sender.env.machineId.length ≤ 510) (hintact : g.sender.env.Intact)
    (hpadding : g.padding.length ≤ 1032) (htime : (since.map HostEvent.receiverSeconds).sum < 30) :
    ∃ frame ∈ s.sender.lldpRepository.io.on g.interface, ∃ ttl : UInt16,
      s.receiver.neighbourList.lookup (portTlvSubtypeLocal :: g.sender.env.machineId)
          (portTlvSubtypeMac :: mac.toList) =
        some (frame.deviceData.entry g.sender.env.machineId ttl mac
          (narrowIfindex g.address.sllIfindex)) := by
  obtain ⟨calls, hsender⟩ := h.sender
  obtain ⟨before, frame, after, hreceiver, hframe, hspares, hafter⟩ := h.receiver
  have hlog : frame ∈ s.sender.lldpRepository.io.log := (List.mem_filter.1 hframe).1
  have hmac := Daemon.mac_of_frame hsender h.known hframe
  obtain ⟨mac', hmac', hbuffer⟩ := Daemon.run_frameBytes hintact hid hsender hlog
  rw [Option.some.inj (hmac'.symm.trans hmac)] at hbuffer
  have hcarried := carried_frameBytes hid targetTtl frame.deviceData mac g.padding g.accepted
  rw [← hbuffer] at hcarried
  have hlen : (frame.buffer.drop 14 ++ g.padding).length ≤ maxFrameBufferSize := by
    have hshort := DeviceData.frameBytes_length_le hid targetTtl frame.deviceData mac
    have hmax : maxFrameBufferSize = 1600 := rfl
    rw [hbuffer, List.length_append]
    omega
  have hlookup := Daemon.heard_lookup hreceiver (steady_received frame g.address g.padding)
    (delivered_received frame g.address hlen) hcarried (show 0 < targetTtl.toNat by decide) hspares
  exact ⟨frame, hframe, _, hlookup.trans
    (if_pos (show (after.map HandlerCall.seconds).sum < 30 by omega))⟩

end Segment

open Segment

/-- **A host that stays up is not forgotten.** Two daemons run on a segment. Once a frame came over,
let their handlers be called in any order, while the interface is reported up, all sends succeed,
the frames are read as they were filled in, the clock of the announcing host misses no second and
nobody else sends a frame of this very pair to the other host. Then the other host has the
interface in its table at every moment at which at most `k` frames were lost in a row, if no run
of events in which the first clock counts less than `6 * (k + 1)` seconds takes thirty seconds on
the other one. The entry is that of a frame that was sent on the interface. -/
theorem hosts_stay_neighbours (g : Segment) (hid : g.sender.env.machineId.length ≤ 510)
    (hintact : g.sender.env.Intact) (hsend : g.sender.env.SendsSucceed)
    (hindex : g.interface.toNat ≤ intMax) (hpadding : g.padding.length ≤ 1032)
    (verbose verbose' : Bool) (calls calls' : List HandlerCall) (s : Hosts)
    (hsender : Daemon.run g.sender verbose calls = .ok s.sender)
    (hreceiver : Daemon.run g.receiver verbose' calls' = .ok s.receiver) (first : HandlerCall)
    (s₁ : Hosts) (hfirst : g.step s (.sender first true) = .ok s₁)
    (hnew : g.newFrames s.sender s₁.sender ≠ []) (mac : Octets 6)
    (hmac : s₁.sender.macOf g.interface = some mac) (hup : s₁.sender.Announces g.interface)
    (events : List HostEvent) (s₂ : Hosts) (hrun : g.run s₁ events = .ok s₂)
    (hseconds : ∀ e ∈ events, ∀ c ∈ e.senderCalls, c.seconds ≤ 1)
    (hreports : ∀ deviceData, .device deviceData ∈ Daemon.laneFrom g.sender g.interface s₁.sender
      (events.flatMap HostEvent.senderCalls) → deviceData.deviceOperational = true)
    (hspares : ∀ e ∈ events, ∀ c ∈ e.receiverCalls, c.Spares (g.key mac)) (k : ℕ)
    (hlost : s₂.lost ≤ k) (hdrift : ∀ w, w <:+ events →
      (w.map HostEvent.senderSeconds).sum < 6 * (k + 1) →
      (w.map HostEvent.receiverSeconds).sum < 30) :
    ∃ frame ∈ s₂.sender.lldpRepository.io.on g.interface, ∃ ttl : UInt16,
      s₂.receiver.neighbourList.lookup (portTlvSubtypeLocal :: g.sender.env.machineId)
          (portTlvSubtypeMac :: mac.toList) =
        some (frame.deviceData.entry g.sender.env.machineId ttl mac
          (narrowIfindex g.address.sllIfindex)) := by
  have hsender₁ := step_sender hsender hfirst
  have hbounds := Daemon.slack_bounds hsender₁ hindex hup
  have hheard : Heard g verbose verbose' mac [] s₁ := by
    rcases step_cases hfirst with ⟨c, delivered, heq, -, hfate⟩ | ⟨c, heq, -⟩
    · cases heq
      rcases hfate with ⟨hnot, -⟩ | ⟨-, hzero, hdelivered⟩
      · rcases hnot with hno | hno
        · cases hno
        · exact absurd hno hnew
      · exact heard_of_delivered ⟨_, hsender₁⟩ hmac hup hbounds.2 hreceiver hnew hzero hdelivered
    · cases heq
  obtain ⟨since, hsuffix, hlast⟩ := run_heard hsend hindex hseconds hreports hspares hheard hrun
  rw [List.nil_append] at hsuffix
  -- the next frame was not due yet, so few seconds passed on the one clock, and on the other one
  have hdue := hlast.due
  obtain ⟨calls₂, hsender₂⟩ := hlast.sender
  have hslack := Daemon.slack_bounds hsender₂ hindex hlast.announces
  exact hlast.lookup hid hintact hpadding (hdrift since hsuffix (by omega))

/-- Two hosts next to each other. -/
def quietSegment : Segment :=
  ⟨quietPlatform, quietPlatform, 2, ⟨17, (0x88, 0xCC), 3, 1, 6⟩, rfl, [0, 0]⟩

/-- Seven seconds on both of them, in which each frame comes over. -/
def quietSeconds : List HostEvent :=
  (List.replicate 7 [.sender (.clock (some 1) true) true, .receiver (.clock (some 1) true)]).flatten

theorem hosts_stay_neighbours_first : ∃ s₁ s₂ entry, quietSegment.run s₁ quietSeconds = .ok s₂ ∧
    s₂.receiver.neighbourList.lookup [7, 0x61] [3, 2, 0, 0, 0, 0, 1] = some entry := by
  obtain ⟨⟨d, d', s₁, s₂⟩, hrun, hshows⟩ := ok_of_shows
    (x := do
      let d ← Daemon.run quietPlatform false (firstCalls.take 4)
      let d' ← Daemon.run quietPlatform false [.clock (some 7) true]
      let s₁ ← quietSegment.step ⟨d, d', 0⟩ (.sender (.clock (some 1) true) true)
      let s₂ ← quietSegment.run s₁ quietSeconds
      Except.ok (d, d', s₁, s₂))
    (f := fun t => ((quietSegment.newFrames t.1 t.2.2.1.sender).isEmpty, t.2.2.1.sender.macOf 2,
      t.2.2.1.sender.lldpRepository.currentState[(2 : UInt32)]?.map fun sender =>
        (sender.deviceData.deviceOperational, sender.deviceData.macAddress.isSome), t.2.2.2.lost,
      decide (Daemon.laneFrom quietPlatform 2 t.2.2.1.sender
        (quietSeconds.flatMap HostEvent.senderCalls) = List.replicate 7 (.tick 1))))
    (b := (false, some ⟨[2, 0, 0, 0, 0, 1], by decide⟩, some (true, true), 0, true))
    (by decide +kernel)
  obtain ⟨d₀, hd, hrun⟩ := bind_eq_ok.1 hrun
  obtain ⟨d₀', hd', hrun⟩ := bind_eq_ok.1 hrun
  obtain ⟨t₁, hfirst, hrun⟩ := bind_eq_ok.1 hrun
  obtain ⟨t₂, hrun, heq⟩ := bind_eq_ok.1 hrun
  cases heq
  simp only [Prod.mk.injEq] at hshows
  obtain ⟨hnew, hmac, hstate, hlost, hlane⟩ := hshows
  obtain ⟨sender, hat, hflags⟩ := Option.map_eq_some_iff.1 hstate
  obtain ⟨hup, hknown⟩ := Prod.mk.inj hflags
  obtain ⟨frame, -, ttl, hentry⟩ := hosts_stay_neighbours quietSegment (by decide)
    (fun _ => Stack.intact_keeps) (fun _ => rfl) (by decide) (by decide) false false
    (firstCalls.take 4) [.clock (some 7) true] ⟨d, d', 0⟩ hd hd'
    (.clock (some 1) true) s₁ hfirst (fun hnone => by rw [hnone] at hnew; cases hnew)
    ⟨[2, 0, 0, 0, 0, 1], by decide⟩ hmac ⟨sender, hat, hup, hknown⟩ quietSeconds s₂ hrun
    (by decide) (by
      show ∀ deviceData, LaneOp.device deviceData ∈ Daemon.laneFrom quietPlatform 2 s₁.sender
        (quietSeconds.flatMap HostEvent.senderCalls) → _
      rw [of_decide_eq_true hlane]
      intro deviceData hmem
      cases List.eq_of_mem_replicate hmem)
    (by
      intro e he c hc
      have hclock : c = .clock (some 1) true := by
        simp only [quietSeconds, List.mem_flatten, List.mem_replicate] at he
        obtain ⟨pair, ⟨-, rfl⟩, he⟩ := he
        simp only [List.mem_cons, List.not_mem_nil, or_false] at he
        obtain rfl | rfl := he
        · cases hc
        · exact List.mem_singleton.1 hc
      rw [hclock]
      trivial)
    0 (by omega) (fun w hw _ => by
      have hall : ∀ w ∈ quietSeconds.tails, (w.map HostEvent.receiverSeconds).sum < 30 := by decide
      exact hall w ((List.mem_tails _ _).2 hw))
  exact ⟨s₁, s₂, _, hrun, hentry⟩

end Ndisc
