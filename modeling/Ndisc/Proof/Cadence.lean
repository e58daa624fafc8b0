import Ndisc.Proof.Credits

/-!
# How long a sender stays quiet

`slack` is how many one-second ticks an operational sender can still let pass: one with
a trigger pending, the timer otherwise.

* `steady_cases`: every call on a sender that stays operational ends in one try.
* `step_slack`: a call that sends no frame does not raise the slack, and a tick lowers it.
* `sender_cadence`: **an operational sender sends a frame at least every
  `MESSAGE_TRANSMIT_INTERVAL` ticks, and no trigger survives a tick.**
-/

namespace Ndisc

open Wire Endpoint

def Env.SendsSucceed (env : Env) : Prop := ∀ log, env.sendto log = .sent

/-- The calls on a sender that stays operational, its ticks of one second. -/
def SenderOp.Steady : SenderOp → Prop
  | .update newDeviceData => newDeviceData.deviceOperational = true
  | .tick deltaSeconds => deltaSeconds = 1
  | .newNeighbour => True
  | .localChangeDetected => True
  | .endTransmission => False

instance : DecidablePred SenderOp.Steady
  | .update newDeviceData => inferInstanceAs (Decidable (newDeviceData.deviceOperational = true))
  | .tick deltaSeconds => inferInstanceAs (Decidable (deltaSeconds = 1))
  | .newNeighbour => inferInstanceAs (Decidable True)
  | .localChangeDetected => inferInstanceAs (Decidable True)
  | .endTransmission => inferInstanceAs (Decidable False)

theorem Env.SendsSucceed.up {env : Env} (h : env.SendsSucceed) (log : List Sent) :
    env.sendto log ≠ .netDown := by
  rw [h log]; exact SendOutcome.noConfusion

namespace Endpoint

variable {env : Env} {p : Endpoint}

/-! ## What no call changes -/

/-- The MAC and the interface index. -/
def identity (p : Endpoint) : Option (Octets 6) × UInt32 :=
  (p.sender.deviceData.macAddress, p.sender.deviceData.ifIndex)

theorem tryTransmit_identity (env : Env) (p : Endpoint) :
    (p.tryTransmit env).identity = p.identity := by
  have hmac := congrArg DeviceData.macAddress (tryTransmit_deviceData env p)
  have hidx := congrArg DeviceData.ifIndex (tryTransmit_deviceData env p)
  exact Prod.ext hmac hidx

theorem endTransmission_identity (env : Env) (p : Endpoint) :
    (p.endTransmission env).identity = p.identity := by
  unfold endTransmission
  split
  · by_cases hs : p.Silent
    · rw [sendLldp_silent hs]
    · rw [sendLldp_logged hs]; rfl
  · rfl

theorem kept_identity (env : Env) (i : Option (Octets 6) × UInt32) :
    Kept env fun p => p.identity = i where
  arm _ h := h
  countdown _ h := h
  greet _ h := h
  refill _ _ h := h
  timer _ _ _ h := h
  renew _ _ h := h
  setOperational _ _ h := h
  tryTransmit p h := (tryTransmit_identity env p).trans h
  endTransmission p h := (endTransmission_identity env p).trans h

theorem step_identity (env : Env) (p : Endpoint) (op : SenderOp) :
    (p.step env op).identity = p.identity := (kept_identity env p.identity).step op rfl

/-- Neither changes over a run. -/
theorem run_identity (env : Env) (deviceData : DeviceData) (io : Io) (ops : List SenderOp) :
    (after env deviceData io ops).identity =
      (deviceData.macAddress, deviceData.ifIndex) :=
  (kept_identity env (deviceData.macAddress, deviceData.ifIndex)).run rfl ops

/-- A device with a MAC and an index that is an `int` can send. -/
theorem not_silent {q : Endpoint} {mac : Octets 6} {ifIndex : UInt32}
    (h : q.identity = (some mac, ifIndex)) (hidx : ifIndex.toNat ≤ intMax) :
    ¬ q.Silent ∧ q.sender.deviceData.macAddress = some mac := by
  simp only [identity, Prod.mk.injEq] at h
  refine ⟨?_, h.1⟩
  rintro (hs | hs)
  · rw [h.2] at hs; omega
  · rw [h.1] at hs; cases hs

/-! ## The slack -/

/-- How many ticks can still pass without a frame. -/
def slack (p : Endpoint) : ℕ := if p.ready then 1 else max 1 p.timer

/-- A sender at work: operational, not silent, its counters in order. -/
structure Live (p : Endpoint) : Prop where
  operational : p.operational = true
  loud : ¬ p.Silent
  mac : p.sender.deviceData.macAddress.isSome
  bounded : p.Bounded

theorem slack_pos (p : Endpoint) : 1 ≤ p.slack := by
  unfold slack
  split
  · exact le_rfl
  · exact le_max_left _ _

theorem slack_le (h : p.Bounded) : p.slack ≤ messageTransmitInterval.toNat := by
  have ht := h.timer
  have hone : 1 ≤ messageTransmitInterval.toNat := by decide
  unfold slack
  split
  · exact hone
  · exact max_le hone ht

theorem slack_of_ready (h : p.ready = true) : p.slack = 1 := if_pos h

theorem slack_of_not_ready (h : p.ready = false) (htimer : 1 ≤ p.timer) : p.slack = p.timer := by
  unfold slack
  rw [h]
  exact max_eq_right htimer

theorem arm_timer_pos (p : Endpoint) : 1 ≤ p.arm.timer := by
  have hone : 1 ≤ messageTransmitInterval.toNat := by decide
  rw [arm_timer]
  split
  · exact le_rfl
  · exact hone

/-- After a tick of one second there is a credit. -/
theorem refill_one (h : p.Bounded) : 0 < (p.refill 1).credits := by
  have hc := h.credits
  have hmax : maxTransmitCredits.toNat = 5 := rfl
  have hone : (1 : UInt64).toNat = 1 := rfl
  rw [refill_credits, hone, hmax]
  split <;> omega

/-! ## One call -/

/-- What a steady call leaves to a last try: the sender is at work, and unless the try
finds a trigger and a credit, the time of the call is off the slack. -/
structure Poised (p : Endpoint) (op : SenderOp) (q : Endpoint) : Prop where
  live : q.Live
  io : q.io = p.io
  identity : q.identity = p.identity
  timer : 1 ≤ q.timer
  slack : ¬ q.CanTransmit → q.slack + op.seconds ≤ p.slack
  credit : 0 < op.seconds → 0 < q.credits

/-- A trigger, whatever the counters are. -/
theorem poised_arm {q : Endpoint} {op : SenderOp} (hlive : q.Live) (hio : q.io = p.io)
    (hid : q.identity = p.identity) (h : op.seconds = 0) : Poised p op q.arm where
  live := ⟨hlive.operational, hlive.loud, hlive.mac, arm_bounded hlive.bounded⟩
  io := hio
  identity := hid
  timer := arm_timer_pos q
  slack := by
    intro _
    have hpos := slack_pos p
    rw [slack_of_ready rfl, h]
    omega
  credit := by intro hpos; omega

theorem poised_greet (h : p.Live) {op : SenderOp} (hop : op.seconds = 0) :
    Poised p op p.greet.countdown.arm :=
  poised_arm ⟨h.operational, h.loud, h.mac, countdown_bounded (greet_bounded h.bounded)⟩ rfl rfl hop

/-- A tick: the timer runs on, or it expires and there is a credit for its trigger. -/
theorem tick_poised (env : Env) (h : p.Live) :
    ∃ q, Poised p (.tick 1) q ∧ p.tick env 1 = q.tryTransmit env := by
  have hone : (1 : UInt64).toNat = 1 := rfl
  have hcredit := refill_one h.bounded
  have hb := refill_bounded h.bounded 1
  have htimer := h.bounded.timer
  rw [tick_eq, if_pos h.operational]
  -- the timer runs on, or it expires and leaves a trigger
  rcases Nat.lt_or_ge (1 : UInt64).toNat (p.refill 1).timer with hearly | hlate
  · obtain ⟨t, ht, heq⟩ := elapse_early env hearly
    rw [hone] at hearly ht
    have hpt : (p.refill 1).timer = p.timer := rfl
    rw [hpt] at hearly ht
    refine ⟨{ p.refill 1 with sender.transmitTimer := t },
      ⟨⟨h.operational, h.loud, h.mac, ⟨?_, hb.credits, hb.fast⟩⟩, rfl, rfl, ?_, ?_, fun _ => hcredit⟩,
      by rw [heq]⟩
    · show t.toNat ≤ _; omega
    · show 1 ≤ t.toNat; omega
    · intro hcan
      have hready : p.ready = false := by
        rw [← Bool.not_eq_true]
        exact fun hr => hcan ⟨hr, hcredit, h.mac⟩
      -- without a trigger the slack is the timer, and that has come down by one
      rw [slack_of_not_ready (p := p) hready (by omega),
        slack_of_not_ready (p := { p.refill 1 with sender.transmitTimer := t }) hready
          (show 1 ≤ t.toNat by omega)]
      show t.toNat + 1 ≤ p.timer; omega
  · refine ⟨(countdown { p.refill 1 with sender.transmitTimer := 0 }).arm,
      ⟨⟨h.operational, h.loud, h.mac, arm_bounded (countdown_bounded
        ⟨Nat.zero_le _, hb.credits, hb.fast⟩)⟩, rfl, rfl, arm_timer_pos _, ?_, fun _ => hcredit⟩, ?_⟩
    · intro hcan
      exact absurd ⟨rfl, hcredit, h.mac⟩ hcan
    · -- the first try uses the trigger, so the second one finds none
      rw [elapse_late hlate]
      exact tryTransmit_idle (tryTransmit_ready hcredit h.mac)

/-- **What a steady call does**: nothing, or a try. -/
theorem steady_cases (env : Env) (op : SenderOp) (h : p.Live) (hop : op.Steady) :
    (p.step env op = p ∧ op.seconds = 0) ∨
      ∃ q, Poised p op q ∧ p.step env op = q.tryTransmit env := by
  cases op with
  | update newDeviceData =>
    rw [Endpoint.step]
    rcases update_eq env newDeviceData p with ⟨-, heq⟩ | ⟨-, heq⟩
    · exact Or.inl ⟨heq, rfl⟩
    -- the new data say that the device is up, so the branch for going down is not taken
    · have hup : ¬ (p.operational = true ∧ newDeviceData.deviceOperational = false) := by
        rintro ⟨-, hdown⟩
        rw [show newDeviceData.deviceOperational = true from hop] at hdown
        cases hdown
      have hlive : ((p.renew newDeviceData).setOperational newDeviceData.deviceOperational).Live :=
        ⟨hop, h.loud, h.mac, h.bounded.timer, h.bounded.credits, h.bounded.fast⟩
      right
      rw [heq, if_neg hup, localChangeDetected_eq]
      exact ⟨_, poised_arm hlive rfl rfl rfl, rfl⟩
  | tick deltaSeconds =>
    cases (show deltaSeconds = 1 from hop)
    exact Or.inr (tick_poised env h)
  | newNeighbour => exact Or.inr ⟨_, poised_greet h rfl, newNeighbour_eq env p⟩
  | localChangeDetected =>
    exact Or.inr ⟨_, poised_arm h rfl rfl rfl, localChangeDetected_eq env p⟩
  | endTransmission => exact hop.elim

theorem tryTransmit_live (henv : env.SendsSucceed) (h : p.Live) : (p.tryTransmit env).Live := by
  have hid := tryTransmit_identity env p
  simp only [identity, Prod.mk.injEq] at hid
  refine ⟨(tryTransmit_operational henv.up p).trans h.operational, ?_, hid.1 ▸ h.mac,
    tryTransmit_bounded h.bounded⟩
  unfold Silent
  rw [hid.1, hid.2]
  exact h.loud

theorem step_live (henv : env.SendsSucceed) (op : SenderOp) (h : p.Live) (hop : op.Steady) :
    (p.step env op).Live := by
  rcases steady_cases env op h hop with ⟨heq, -⟩ | ⟨q, hq, heq⟩
  · rw [heq]; exact h
  · rw [heq]; exact tryTransmit_live henv hq.live

/-- No call takes a frame back. -/
theorem step_frames_le (env : Env) (op : SenderOp) (h : p.Live) (hop : op.Steady) :
    p.frames ≤ (p.step env op).frames := by
  rcases steady_cases env op h hop with ⟨heq, -⟩ | ⟨q, hq, heq⟩
  · rw [heq]
  · have hframes : q.frames = p.frames := by unfold frames; rw [hq.io]
    rw [heq, ← hframes]; exact tryTransmit_frames_le env q

/-- **A call that sends no frame takes its time off the slack.** -/
theorem step_slack (op : SenderOp) (h : p.Live) (hop : op.Steady)
    (hno : (p.step env op).frames ≤ p.frames) : (p.step env op).slack + op.seconds ≤ p.slack := by
  rcases steady_cases env op h hop with ⟨heq, hzero⟩ | ⟨q, hq, heq⟩
  · rw [heq, hzero]; exact le_rfl
  · have hframes : q.frames = p.frames := by unfold frames; rw [hq.io]
    rw [heq, ← hframes] at hno
    obtain ⟨hcan, hquiet⟩ := tryTransmit_quiet hq.live.loud hno
    rw [heq, hquiet]; exact hq.slack hcan

/-- **No trigger survives a tick.** -/
theorem tick_ready (h : p.Live) : (p.tick env 1).ready = false := by
  obtain ⟨q, hq, heq⟩ := tick_poised env h
  rw [heq]
  exact tryTransmit_ready (hq.credit (by decide)) hq.live.mac

/-- **The deadline of a run**: without a frame, the ticks come off the slack. -/
theorem run_slack (henv : env.SendsSucceed) (h : p.Live) {ops : List SenderOp}
    (hops : ∀ op ∈ ops, op.Steady) (hno : (Run.run (step env) p ops).frames ≤ p.frames) :
    (Run.run (step env) p ops).slack + (ops.map SenderOp.seconds).sum ≤ p.slack :=
  Run.run_deadline slack frames SenderOp.seconds (P := fun _ op => op.Steady)
    (fun _ op hp hop => step_live henv op hp hop) (fun _ op hp hop => step_frames_le env op hp hop)
    (fun _ op hp hop hno => step_slack op hp hop hno) h (Run.along_of_forall p hops) hno

end Endpoint

/-- **The cadence of a sender.** Take a sender whose device has a MAC and an interface
index that is an `int`, after any calls with any outcomes, at a moment when it is
operational. From there, over any calls that keep it operational, with one-second ticks
and successful sends: among the first `MESSAGE_TRANSMIT_INTERVAL` ticks it sends a frame
with the normal TTL, and no triggered transmission is pending after a tick. -/
theorem sender_cadence (env₀ env : Env) (henv : env.SendsSucceed) (deviceData : DeviceData)
    (mac : Octets 6) (hmac : deviceData.macAddress = some mac)
    (hidx : deviceData.ifIndex.toNat ≤ intMax) (io : Io) (before : List SenderOp)
    (hop : (after env₀ deviceData io before).sender.deviceData.deviceOperational = true)
    (part : List SenderOp) (hpart : ∀ op ∈ part, op.Steady) :
    (messageTransmitInterval.toNat ≤ (part.map SenderOp.seconds).sum →
      (after env₀ deviceData io before).frames <
        (Run.run (step env) (after env₀ deviceData io before) part).frames) ∧
    (Run.run (step env) (after env₀ deviceData io before) (part ++ [.tick 1])).sender.triggerReady =
      false := by
  have hid := run_identity env₀ deviceData io before
  rw [hmac] at hid
  obtain ⟨hloud, hm⟩ := not_silent hid hidx
  have hlive : (after env₀ deviceData io before).Live :=
    ⟨hop, hloud, Option.isSome_iff_exists.2 ⟨mac, hm⟩, run_bounded env₀ deviceData io before⟩
  refine ⟨?_, ?_⟩
  · intro hticks
    -- no frame means that all these seconds came off the slack, which is at most the interval
    by_contra hno
    have hslack := run_slack henv hlive hpart (by omega)
    have hstart := slack_le hlive.bounded
    have hend := slack_pos (Run.run (step env) (after env₀ deviceData io before) part)
    omega
  · rw [Run.run_concat]
    exact tick_ready (Run.along_inv (fun _ op hp hop => step_live henv op hp hop) hlive
      (Run.along_of_forall _ hpart))

/-- Six ticks right after construction. -/
theorem sender_cadence_from_construction :
    0 < (Run.run (step quietEnv)
      (create quietEnv
        ⟨some ⟨[2, 0, 0, 0, 0, 1], rfl⟩, none, none, none, true, 2⟩ Io.init)
      [.tick 1, .tick 1, .tick 1, .tick 1, .tick 1, .tick 1]).frames := by
  have h := (sender_cadence quietEnv quietEnv (fun _ => rfl)
    ⟨some ⟨[2, 0, 0, 0, 0, 1], rfl⟩, none, none, none, true, 2⟩ ⟨[2, 0, 0, 0, 0, 1], rfl⟩ rfl
    (by decide) Io.init [] rfl [.tick 1, .tick 1, .tick 1, .tick 1, .tick 1, .tick 1]
    (by simp [SenderOp.Steady])).1 (by decide)
  exact Nat.lt_of_le_of_lt (Nat.zero_le _) h

end Ndisc
