import Ndisc.Proof.Cadence
import Ndisc.Proof.Table
import Ndisc.Spec.Link

/-!
# How long a receiver holds a sender's entry

* `receive_eq`: a delivered frame is stored with the full TTL.
* `Held`: the entry is there, and lives longer than the sender can stay quiet.
* `step_held`: every call and tick keeps this, as long as no frame is lost whose
  successor is due too late (`LossInTime`).
* `entry_held`: **then the entry is never removed.**
-/

namespace Ndisc

open Wire Endpoint

namespace Endpoint

variable {env : Env} {p : Endpoint}

/-! ## The frame of a try -/

/-- A try with the frame it sends. -/
theorem tryTransmit_frame (hst : p.io.statics.Ok env.machineId) (hloud : ¬ p.Silent)
    {mac : Octets 6} (hmac : p.sender.deviceData.macAddress = some mac) :
    (¬ p.CanTransmit ∧ p.tryTransmit env = p) ∨
      ∃ st : Statics, st.Ok env.machineId ∧ p.tryTransmit env = p.spend.logged env st
        ⟨targetTtl, p.sender.deviceData,
          p.sender.deviceData.frameRead (env.stack p.io.log) env.machineId targetTtl mac,
          p.sender.deviceData.ifIndex.toNat⟩ := by
  rcases tryTransmit_cases env p with hno | ⟨-, hs, -⟩ | ⟨hcan, -, -⟩
  · exact Or.inl hno
  · exact absurd hs hloud
  · right
    have htest : p.sender.triggerReady = true ∧ 0 < p.sender.transmitCredits ∧
        p.sender.deviceData.macAddress.isSome = true := by
      refine ⟨hcan.1, ?_, hcan.2.2⟩
      rw [UInt16.lt_iff_toNat_lt, UInt16.toNat_zero]; exact hcan.2.1
    obtain ⟨st, hok, hsend⟩ := sendLldp_spec targetTtl p.spend hst hmac hloud
    refine ⟨st, hok, ?_⟩
    unfold tryTransmit
    rw [if_pos htest]
    exact hsend

/-- What a steady call sends: nothing, or one frame of the device with the full TTL. -/
theorem steady_frame (op : SenderOp) (h : p.Live) (hop : op.Steady)
    (hst : p.io.statics.Ok env.machineId) {mac : Octets 6}
    (hmac : p.sender.deviceData.macAddress = some mac) :
    ((p.step env op).io.log = p.io.log ∧ (p.step env op).slack + op.seconds ≤ p.slack) ∨
      ∃ d : DeviceData,
        (p.step env op).io.log =
          ⟨targetTtl, d, d.frameRead (env.stack p.io.log) env.machineId targetTtl mac,
            d.ifIndex.toNat⟩ :: p.io.log ∧
        (p.step env op).slack = (p.step env op).timer := by
  rcases steady_cases env op h hop with ⟨heq, hzero⟩ | ⟨q, hq, heq⟩
  · left
    rw [heq, hzero]
    exact ⟨rfl, le_rfl⟩
  · have hqmac : q.sender.deviceData.macAddress = some mac := (congrArg Prod.fst hq.identity).trans hmac
    rcases tryTransmit_frame (p := q) (hq.io ▸ hst) hq.live.loud hqmac with
      ⟨hcan, hquiet⟩ | ⟨st, -, hsend⟩
    · left
      rw [heq, hquiet, hq.io]
      exact ⟨rfl, hq.slack hcan⟩
    · right
      refine ⟨q.sender.deviceData, ?_, ?_⟩
      · rw [heq, hsend, logged_log, spend_log, hq.io]
      · rw [heq, hsend]
        exact slack_of_not_ready rfl hq.timer

end Endpoint

/-! ## The receiver -/

/-- A delivered frame is stored. -/
theorem receive_eq (ch : Channel) (hid : ch.env.machineId.length ≤ 510) (table : NeighbourList)
    (ttl : UInt16) (d : DeviceData) (mac : Octets 6) (sllIfindex : ℕ) :
    ch.receive table ⟨ttl, d, d.frameBytes ch.env.machineId ttl mac, sllIfindex⟩ =
      table.store (d.entry ch.env.machineId ttl mac (narrowIfindex ch.address.sllIfindex)) := by
  have hparse := lldpFrameParser_frameBytes hid ttl d mac ch.padding table ch.accepted
  simp only [Channel.receive, hparse]

/-- One second takes one off an entry with more than one left. -/
theorem tick_one_lookup (nl : NeighbourList) {chassis port : Bytes} {entry : NeighbourEntry}
    (h : nl.lookup chassis port = some entry) (httl : 1 < entry.timeToLive.toNat) :
    ∃ entry', (nl.tick 1).lookup chassis port = some entry' ∧
      entry'.timeToLive.toNat + 1 = entry.timeToLive.toNat := by
  have hlt := entry.timeToLive.toNat_lt
  have hone : (1 : UInt64).toNat = 1 := rfl
  refine ⟨_, by rw [tick_lookup, h, Option.bind_some, hone, if_pos httl], ?_⟩
  simp only [UInt16.toNat_ofNat']
  omega

/-! ## The invariant -/

namespace Link

variable {ch : Channel} {mac : Octets 6} {s : Link}

/-- A frame may only be lost while the next one is due before the receiver's entry times
out: the sender's timer is below the entry's time to live. -/
def LossInTime (ch : Channel) (mac : Octets 6) (s : Link) : LinkEvent → Prop
  | .call op delivered => delivered = false →
    s.endpoint.frames < (s.endpoint.step ch.env op).frames →
    ∀ entry, s.table.lookup (portTlvSubtypeLocal :: ch.env.machineId)
      (portTlvSubtypeMac :: mac.toList) = some entry →
    (s.endpoint.step ch.env op).timer < entry.timeToLive.toNat
  | .receiverTick => True

/-- A frame that arrives was read as it was built. -/
def Intact (ch : Channel) (s : Link) : LinkEvent → Prop
  | .call _ delivered => delivered = true → (ch.env.stack s.endpoint.io.log).Keeps
  | .receiverTick => True

/-- The sender stays operational. -/
def Steady : LinkEvent → Prop
  | .call op _ => op.Steady
  | .receiverTick => True

instance : DecidablePred Steady
  | .call op _ => inferInstanceAs (Decidable op.Steady)
  | .receiverTick => inferInstanceAs (Decidable True)

/-- The entry is there, and outlives the quiet time of the sender: the receiver ticks at
most `slack` times before the next frame, one less if it is the sender's turn. -/
structure Held (ch : Channel) (mac : Octets 6) (s : Link) : Prop where
  live : s.endpoint.Live
  device : s.endpoint.sender.deviceData.macAddress = some mac
  statics : s.endpoint.io.statics.Ok ch.env.machineId
  entry : ∃ entry, s.table.lookup (portTlvSubtypeLocal :: ch.env.machineId)
      (portTlvSubtypeMac :: mac.toList) = some entry ∧
    s.endpoint.slack + (!s.senderNext).toNat ≤ entry.timeToLive.toNat

theorem newFrames_nil {p q : Endpoint} (h : q.io.log = p.io.log) : newFrames p q = [] :=
  Journal.since_eq h

theorem newFrames_cons {p q : Endpoint} {frame : Sent} (h : q.io.log = frame :: p.io.log) :
    newFrames p q = [frame] :=
  Journal.since_eq h

/-- Whose turn it is after a call. -/
theorem turn_le (op : SenderOp) (h : op.isTick = true → s.senderNext = true) (hop : op.Steady) :
    (!(s.senderNext && !op.isTick)).toNat ≤ op.seconds + (!s.senderNext).toNat := by
  cases op with
  | tick deltaSeconds =>
    cases (show deltaSeconds = 1 from hop)
    simp [SenderOp.isTick, SenderOp.seconds, h rfl]
  | _ => simp [SenderOp.isTick, SenderOp.seconds]

/-- The full TTL outlives any quiet time. -/
theorem slack_lt_targetTtl {p : Endpoint} (h : p.Bounded) (b : Bool) :
    p.slack + (!b).toNat ≤ targetTtl.toNat := by
  have hslack := slack_le h
  have hsix : messageTransmitInterval.toNat = 6 := by decide
  have hthirty : targetTtl.toNat = 30 := rfl
  have hbit := Bool.toNat_le (!b)
  omega

/-- **A delivered frame makes the entry last.** -/
theorem held_of_delivered (hid : ch.env.machineId.length ≤ 510) (henv : ch.env.SendsSucceed)
    (hstack : (ch.env.stack s.endpoint.io.log).Keeps) {op : SenderOp} (hop : op.Steady)
    (hlive : s.endpoint.Live) (hmac : s.endpoint.sender.deviceData.macAddress = some mac)
    (hst : s.endpoint.io.statics.Ok ch.env.machineId)
    (hsent : s.endpoint.frames < (s.endpoint.step ch.env op).frames) :
    Held ch mac (s.step ch (.call op true)) := by
  have hlive' := step_live henv op hlive hop
  have hmac' : (s.endpoint.step ch.env op).sender.deviceData.macAddress = some mac :=
    (congrArg Prod.fst (step_identity ch.env s.endpoint op)).trans hmac
  refine ⟨hlive', hmac', (kept_statics ch.env).step op hst, ?_⟩
  rcases steady_frame op hlive hop hst hmac with ⟨hlog, -⟩ | ⟨d, hlog, -⟩
  · unfold frames at hsent
    rw [hlog] at hsent; omega
  · refine ⟨d.entry ch.env.machineId targetTtl mac (narrowIfindex ch.address.sllIfindex), ?_,
      slack_lt_targetTtl hlive'.bounded _⟩
    simp only [step, newFrames_cons hlog, if_true, List.foldr_cons, List.foldr_nil,
      frameRead_eq hstack hid, receive_eq ch hid]
    rw [lookup_store]
    exact if_pos rfl

/-- **Every step keeps the entry**, as long as frames are lost in time. -/
theorem step_held (hid : ch.env.machineId.length ≤ 510) (henv : ch.env.SendsSucceed)
    (s : Link) (e : LinkEvent) (h : Held ch mac s)
    (he : InTurn s e ∧ Steady e ∧ LossInTime ch mac s e ∧ Intact ch s e) :
    Held ch mac (s.step ch e) := by
  obtain ⟨hturn, hsteady, hloss, hintact⟩ := he
  obtain ⟨entry, hentry, hslack⟩ := h.entry
  cases e with
  | receiverTick =>
    -- the receiver's second comes off its entry, and it is the sender's turn
    have hpos := slack_pos s.endpoint
    rw [show s.senderNext = false from hturn] at hslack
    simp only [Bool.not_false, Bool.toNat_true] at hslack
    obtain ⟨entry', hentry', httl⟩ := tick_one_lookup s.table hentry (by omega)
    refine ⟨h.live, h.device, h.statics, entry', hentry', ?_⟩
    show s.endpoint.slack + 0 ≤ _
    omega
  | call op delivered =>
    by_cases hsent : s.endpoint.frames < (s.endpoint.step ch.env op).frames
    · cases delivered with
      | true => exact held_of_delivered hid henv (hintact rfl) hsteady h.live h.device h.statics hsent
      | false =>
        -- a lost frame leaves the timer as the slack, which the condition bounds
        have htimer := hloss rfl hsent entry hentry
        refine ⟨step_live henv op h.live hsteady,
          (congrArg Prod.fst (step_identity ch.env s.endpoint op)).trans h.device,
          (kept_statics ch.env).step op h.statics, entry, hentry, ?_⟩
        rcases steady_frame op h.live hsteady h.statics h.device with ⟨hlog, -⟩ | ⟨d, -, hquiet⟩
        · unfold frames at hsent
          rw [hlog] at hsent; omega
        · show (s.endpoint.step ch.env op).slack + _ ≤ _
          have hbit := Bool.toNat_le (!(s.step ch (.call op false)).senderNext)
          rw [hquiet]
          omega
    · have hle := step_frames_le ch.env op h.live hsteady
      rcases steady_frame op h.live hsteady h.statics h.device with ⟨hlog, hless⟩ | ⟨d, hlog, -⟩
      -- no frame, so the time of the call came off the slack
      · have hnone : (s.step ch (.call op delivered)).table = s.table := by
          simp only [step, newFrames_nil hlog, List.foldr_nil, ite_self]
        refine ⟨step_live henv op h.live hsteady,
          (congrArg Prod.fst (step_identity ch.env s.endpoint op)).trans h.device,
          (kept_statics ch.env).step op h.statics, entry, hnone ▸ hentry, ?_⟩
        have hturns := turn_le op hturn hsteady
        show (s.endpoint.step ch.env op).slack + _ ≤ _
        simp only [step]
        omega
      · unfold frames at hsent
        rw [hlog, List.countP_cons] at hsent
        simp at hsent

end Link

/-- **The entry of a sender is never removed** in a run that meets the condition. Take a
sender after any calls, operational, and any table; let one of its frames be delivered.
Then over any calls that keep it operational and any ticks in turns, the receiver has the
entry, provided that a frame is only lost while the next one is due before the entry
times out, and that those delivered were read as they were built. -/
theorem entry_held (ch : Channel) (hid : ch.env.machineId.length ≤ 510)
    (henv : ch.env.SendsSucceed) (history : List (UInt16 × LldpSender)) (deviceData : DeviceData)
    (mac : Octets 6) (hmac : deviceData.macAddress = some mac)
    (hidx : deviceData.ifIndex.toNat ≤ intMax) (before : List SenderOp) (s : Link)
    (hs : s.endpoint = after ch.env deviceData (sentBefore ch.env history) before)
    (hop : s.endpoint.operational = true) (op : SenderOp) (hsteady : op.Steady)
    (hsent : s.endpoint.frames < (s.endpoint.step ch.env op).frames)
    (hstack : (ch.env.stack s.endpoint.io.log).Keeps) (events : List LinkEvent)
    (hevents : Run.Along (Link.step ch) (fun s e => Link.InTurn s e ∧ Link.Steady e ∧
      Link.LossInTime ch mac s e ∧ Link.Intact ch s e) (s.step ch (.call op true)) events) :
    ∃ entry, (Run.run (Link.step ch) (s.step ch (.call op true)) events).table.lookup
      (portTlvSubtypeLocal :: ch.env.machineId) (portTlvSubtypeMac :: mac.toList) = some entry := by
  have hidentity := run_identity ch.env deviceData (sentBefore ch.env history) before
  have hbounded := run_bounded ch.env deviceData (sentBefore ch.env history) before
  have hstatics : (after ch.env deviceData (sentBefore ch.env history) before).io.statics.Ok
      ch.env.machineId :=
    (kept_statics ch.env).run (sentBefore_ok ch.env history) before
  rw [← hs] at hidentity hbounded hstatics
  rw [hmac] at hidentity
  obtain ⟨hloud, hm⟩ := not_silent hidentity hidx
  have hlive : s.endpoint.Live :=
    ⟨hop, hloud, Option.isSome_iff_exists.2 ⟨mac, hm⟩, hbounded⟩
  -- the first frame is delivered, and from there every step keeps the entry
  have hheld := Link.held_of_delivered hid henv hstack hsteady hlive hm hstatics hsent
  obtain ⟨entry, hentry, -⟩ := (Run.along_inv (Link.step_held hid henv) hheld hevents).entry
  exact ⟨entry, hentry⟩

/-- A channel for a short machine id, without padding. -/
def shortChannel : Channel :=
  ⟨quietEnv, ⟨17, (0x88, 0xCC), 2, 1, 6⟩, by decide, []⟩

/-- A device that is up, without addresses. -/
def plainDevice : DeviceData := ⟨some ⟨[2, 0, 0, 0, 0, 1], rfl⟩, none, none, none, true, 2⟩

/-- The sender's fast frames are over with the next tick; from there its timer is at
`MESSAGE_TRANSMIT_INTERVAL`. -/
def settledLink : Link :=
  ⟨after shortChannel.env plainDevice (sentBefore shortChannel.env []) [.tick 1, .tick 1], .empty,
    true, 0⟩

/-- One frame delivered, one second later. -/
theorem entry_held_one_second :
    ∃ entry, (Run.run (Link.step shortChannel)
      (settledLink.step shortChannel (.call (.tick 1) true)) [.receiverTick]).table.lookup
        (portTlvSubtypeLocal :: [0x61]) (portTlvSubtypeMac :: [2, 0, 0, 0, 0, 1]) = some entry :=
  entry_held shortChannel (by decide) (fun _ => rfl) [] plainDevice ⟨[2, 0, 0, 0, 0, 1], rfl⟩ rfl
    (by decide) [.tick 1, .tick 1] settledLink rfl (by decide +kernel) (.tick 1) rfl
    (by decide +kernel) Stack.intact_keeps [.receiverTick]
    ⟨⟨by decide +kernel, trivial, trivial, trivial⟩, trivial⟩

/-- **Four lost frames are enough**: the entry times out in the thirtieth second, when the
fifth frame would be due. -/
theorem entry_not_held :
    ¬ ∀ (ch : Channel) (_ : ch.env.machineId.length ≤ 510) (_ : ch.env.SendsSucceed)
      (_ : ch.env.Intact) (history : List (UInt16 × LldpSender)) (deviceData : DeviceData) (mac : Octets 6)
      (_ : deviceData.macAddress = some mac) (_ : deviceData.ifIndex.toNat ≤ intMax)
      (before : List SenderOp) (s : Link)
      (_ : s.endpoint = after ch.env deviceData (sentBefore ch.env history) before)
      (_ : s.endpoint.operational = true) (op : SenderOp) (_ : op.Steady)
      (_ : s.endpoint.frames < (s.endpoint.step ch.env op).frames) (events : List LinkEvent)
      (_ : Run.Along (Link.step ch)
        (fun s e => Link.InTurn s e ∧ Link.Steady e ∧ (s.step ch e).lost < packetHoldAmount.toNat)
        (s.step ch (.call op true)) events),
      ∃ entry, (Run.run (Link.step ch) (s.step ch (.call op true)) events).table.lookup
        (portTlvSubtypeLocal :: ch.env.machineId) (portTlvSubtypeMac :: mac.toList) = some entry := by
  intro h
  obtain ⟨entry, hentry⟩ := h shortChannel (by decide) (fun _ => rfl)
    (fun _ => Stack.intact_keeps) [] plainDevice ⟨[2, 0, 0, 0, 0, 1], rfl⟩ rfl (by decide)
    [.tick 1, .tick 1] settledLink rfl
    (by decide +kernel) (.tick 1) rfl (by decide +kernel)
    (.receiverTick :: (List.replicate 29 [LinkEvent.call (.tick 1) false, .receiverTick]).flatten)
    (by decide +kernel)
  have hgone : (Run.run (Link.step shortChannel) (settledLink.step shortChannel (.call (.tick 1) true))
      (.receiverTick :: (List.replicate 29 [LinkEvent.call (.tick 1) false, .receiverTick]).flatten)).table.lookup
        [0x07, 0x61] [0x03, 2, 0, 0, 0, 0, 1] = none := by decide +kernel
  cases hgone.symm.trans hentry

end Ndisc
