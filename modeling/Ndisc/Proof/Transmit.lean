import Ndisc.Lib.Words
import Ndisc.Proof.Frame

/-!
# What each call of a sender does

Every entry point sets some counters and then tries to transmit. `tryTransmit_cases`
says what a try does; the lemmas after it write each entry point as a change of the
counters (`arm`, `countdown`, `greet`, `refill`, `renew`) followed by a try. What these
changes keep, every call keeps (`Kept`).
-/

namespace Ndisc

open Wire

namespace Endpoint

variable {env : Env} {p : Endpoint}

/-! ## The counters, as natural numbers -/

def timer (p : Endpoint) : ℕ := p.sender.transmitTimer.toNat
def credits (p : Endpoint) : ℕ := p.sender.transmitCredits.toNat
def fast (p : Endpoint) : ℕ := p.sender.fastForwardCounter.toNat
def ready (p : Endpoint) : Bool := p.sender.triggerReady
def operational (p : Endpoint) : Bool := p.sender.deviceData.deviceOperational

/-- The frames with the normal TTL handed to `sendto`. -/
def frames (p : Endpoint) : ℕ := p.io.log.countP fun frame => frame.ttl = targetTtl

/-! ## One try -/

/-- The test of `TryTransmit`. -/
def CanTransmit (p : Endpoint) : Prop :=
  p.ready = true ∧ 0 < p.credits ∧ p.sender.deviceData.macAddress.isSome

/-- A trigger and a credit used up. -/
def spend (p : Endpoint) : Endpoint :=
  { p with
    sender.triggerReady := false
    sender.transmitCredits := p.sender.transmitCredits - 1 }

@[simp] theorem spend_timer : p.spend.timer = p.timer := rfl
@[simp] theorem spend_fast : p.spend.fast = p.fast := rfl
@[simp] theorem spend_ready : p.spend.ready = false := rfl
@[simp] theorem spend_frames : p.spend.frames = p.frames := rfl
@[simp] theorem spend_deviceData : p.spend.sender.deviceData = p.sender.deviceData := rfl
@[simp] theorem spend_log : p.spend.io.log = p.io.log := rfl

theorem spend_credits (h : 0 < p.credits) : p.spend.credits + 1 = p.credits := by
  apply Words.toNat_pred
  rw [UInt16.lt_iff_toNat_lt]
  exact h

section logged

variable {st : Statics} {frame : Sent}

@[simp] theorem logged_timer : (p.logged env st frame).timer = p.timer := rfl
@[simp] theorem logged_fast : (p.logged env st frame).fast = p.fast := rfl
@[simp] theorem logged_ready : (p.logged env st frame).ready = p.ready := rfl
@[simp] theorem logged_credits : (p.logged env st frame).credits = p.credits := rfl
@[simp] theorem logged_log : (p.logged env st frame).io.log = frame :: p.io.log := rfl

theorem logged_frames :
    (p.logged env st frame).frames = p.frames + if frame.ttl = targetTtl then 1 else 0 := by
  simp [frames, List.countP_cons]

theorem logged_operational (h : env.sendto (frame :: p.io.log) ≠ .netDown) :
    (p.logged env st frame).operational = p.operational := by
  simp [logged, operational, h]

end logged

/-- **What a try does**: nothing, or it uses the trigger and a credit, and hands one
frame built from the device to `sendto` unless the device is silent. -/
theorem tryTransmit_cases (env : Env) (p : Endpoint) :
    (¬ p.CanTransmit ∧ p.tryTransmit env = p) ∨
      (p.CanTransmit ∧ p.Silent ∧ p.tryTransmit env = p.spend) ∨
      (p.CanTransmit ∧ ¬ p.Silent ∧ ∃ (st : Statics) (frame : Sent), frame.ttl = targetTtl ∧
        frame.deviceData = p.sender.deviceData ∧
        frame.sllIfindex = p.sender.deviceData.ifIndex.toNat ∧
        p.tryTransmit env = p.spend.logged env st frame) := by
  have htest : p.CanTransmit ↔ (p.sender.triggerReady = true ∧ 0 < p.sender.transmitCredits ∧
      p.sender.deviceData.macAddress.isSome = true) := by
    simp only [CanTransmit, ready, credits, UInt16.lt_iff_toNat_lt, UInt16.toNat_zero]
  unfold tryTransmit
  by_cases hcan : p.CanTransmit
  · rw [if_pos (htest.1 hcan)]
    right
    by_cases hs : p.Silent
    · left
      exact ⟨hcan, hs, sendLldp_silent (p := p.spend) hs⟩
    · right
      exact ⟨hcan, hs, _, _, rfl, rfl, rfl, sendLldp_logged (p := p.spend) hs⟩
  · rw [if_neg fun h => hcan (htest.2 h)]
    exact Or.inl ⟨hcan, rfl⟩

theorem tryTransmit_timer (env : Env) (p : Endpoint) : (p.tryTransmit env).timer = p.timer := by
  rcases tryTransmit_cases env p with ⟨-, h⟩ | ⟨-, -, h⟩ | ⟨-, -, st, frame, -, -, -, h⟩ <;> simp [h]

theorem tryTransmit_fast (env : Env) (p : Endpoint) : (p.tryTransmit env).fast = p.fast := by
  rcases tryTransmit_cases env p with ⟨-, h⟩ | ⟨-, -, h⟩ | ⟨-, -, st, frame, -, -, -, h⟩ <;> simp [h]

/-- **A frame costs a credit.** -/
theorem tryTransmit_pays (env : Env) (p : Endpoint) :
    (p.tryTransmit env).credits + (p.tryTransmit env).frames ≤ p.credits + p.frames := by
  rcases tryTransmit_cases env p with ⟨-, h⟩ | ⟨hcan, -, h⟩ | ⟨hcan, -, st, frame, httl, -, -, h⟩
  · rw [h]
  · have hc := spend_credits hcan.2.1
    rw [h, spend_frames]; omega
  · have hc := spend_credits hcan.2.1
    rw [h, logged_credits, logged_frames, if_pos httl, spend_frames]; omega

theorem tryTransmit_credits_le (env : Env) (p : Endpoint) :
    (p.tryTransmit env).credits ≤ p.credits := by
  rcases tryTransmit_cases env p with ⟨-, h⟩ | ⟨hcan, -, h⟩ | ⟨hcan, -, st, frame, -, -, -, h⟩
  · rw [h]
  · have hc := spend_credits hcan.2.1
    rw [h]; omega
  · have hc := spend_credits hcan.2.1
    rw [h, logged_credits]; omega

theorem tryTransmit_frames_le (env : Env) (p : Endpoint) :
    p.frames ≤ (p.tryTransmit env).frames := by
  rcases tryTransmit_cases env p with ⟨-, h⟩ | ⟨-, -, h⟩ | ⟨-, -, st, frame, -, -, -, h⟩
  · rw [h]
  · rw [h, spend_frames]
  · rw [h, logged_frames, spend_frames]; omega

/-- A try changes nothing of the device but its operational flag. -/
theorem tryTransmit_deviceData (env : Env) (p : Endpoint) :
    { (p.tryTransmit env).sender.deviceData with deviceOperational := p.operational } =
      p.sender.deviceData := by
  rcases tryTransmit_cases env p with ⟨-, h⟩ | ⟨-, -, h⟩ | ⟨-, -, st, frame, -, -, -, h⟩ <;> rw [h] <;> rfl

/-- It changes that only when `sendto` fails with `ENETDOWN`. -/
theorem tryTransmit_operational (h : ∀ log, env.sendto log ≠ .netDown) (p : Endpoint) :
    (p.tryTransmit env).operational = p.operational := by
  rcases tryTransmit_cases env p with ⟨-, heq⟩ | ⟨-, -, heq⟩ | ⟨-, -, st, frame, -, -, -, heq⟩ <;>
    rw [heq]
  · rfl
  · rw [logged_operational (h _)]; rfl

/-- With a credit and a MAC, no trigger is left. -/
theorem tryTransmit_ready (hcredits : 0 < p.credits)
    (hmac : p.sender.deviceData.macAddress.isSome) : (p.tryTransmit env).ready = false := by
  rcases tryTransmit_cases env p with ⟨hno, h⟩ | ⟨-, -, h⟩ | ⟨-, -, st, frame, -, -, -, h⟩ <;> rw [h]
  · rw [← Bool.not_eq_true]
    exact fun hready => hno ⟨hready, hcredits, hmac⟩
  · rfl
  · rfl

/-- Without a trigger, nothing happens. -/
theorem tryTransmit_idle (h : p.ready = false) : p.tryTransmit env = p := by
  rcases tryTransmit_cases env p with ⟨-, heq⟩ | ⟨hcan, -⟩ | ⟨hcan, -⟩
  · exact heq
  all_goals exact absurd hcan.1 (by rw [h]; exact Bool.false_ne_true)

/-- A try that sends no frame changes nothing, unless the device is silent. -/
theorem tryTransmit_quiet (hloud : ¬ p.Silent) (h : (p.tryTransmit env).frames ≤ p.frames) :
    ¬ p.CanTransmit ∧ p.tryTransmit env = p := by
  rcases tryTransmit_cases env p with hno | ⟨-, hs, -⟩ | ⟨-, -, st, frame, httl, -, -, heq⟩
  · exact hno
  · exact absurd hs hloud
  · rw [heq, logged_frames, if_pos httl, spend_frames] at h; omega

/-! ## The entry points -/

/-- What `TriggerTransmission` does before its try. -/
def arm (p : Endpoint) : Endpoint :=
  { p with
    sender.transmitTimer :=
      if 0 < p.sender.fastForwardCounter then messageFastInterval else messageTransmitInterval
    sender.triggerReady := true }

/-- What `TimerExpired` does before its trigger. -/
def countdown (p : Endpoint) : Endpoint :=
  { p with
    sender.fastForwardCounter :=
      if 0 < p.sender.fastForwardCounter then p.sender.fastForwardCounter - 1
      else p.sender.fastForwardCounter }

/-- What `NewNeighbour` does before it lets the timer expire. -/
def greet (p : Endpoint) : Endpoint :=
  { p with
    sender.fastForwardCounter :=
      if p.sender.fastForwardCounter = 0 then fastTransmitAmount else p.sender.fastForwardCounter }

/-- What `Tick` does to the credits. -/
def refill (deltaSeconds : UInt64) (p : Endpoint) : Endpoint :=
  { p with
    sender.transmitCredits :=
      if p.sender.transmitCredits.toUInt64 + deltaSeconds ≤ maxTransmitCredits.toUInt64 then
        (p.sender.transmitCredits.toUInt64 + deltaSeconds).toUInt16
      else p.sender.transmitCredits }

theorem triggerTransmission_eq (env : Env) (p : Endpoint) :
    p.triggerTransmission env = p.arm.tryTransmit env := by
  unfold triggerTransmission arm
  split <;> rfl

theorem timerExpired_eq (env : Env) (p : Endpoint) :
    p.timerExpired env = p.countdown.arm.tryTransmit env := by
  rw [timerExpired, triggerTransmission_eq]
  unfold countdown
  split <;> rfl

theorem newNeighbour_eq (env : Env) (p : Endpoint) :
    p.newNeighbour env = p.greet.countdown.arm.tryTransmit env := by
  rw [newNeighbour, timerExpired_eq]
  unfold greet
  split <;> rfl

theorem localChangeDetected_eq (env : Env) (p : Endpoint) :
    p.localChangeDetected env = p.arm.tryTransmit env := triggerTransmission_eq env p

/-- What `Tick` does to the timer. -/
def elapse (env : Env) (deltaSeconds : UInt64) (p : Endpoint) : Endpoint :=
  if p.sender.transmitTimer.toUInt64 > deltaSeconds then
    { p with sender.transmitTimer := (p.sender.transmitTimer.toUInt64 - deltaSeconds).toUInt16 }
  else timerExpired env { p with sender.transmitTimer := 0 }

theorem tick_eq (env : Env) (deltaSeconds : UInt64) (p : Endpoint) :
    p.tick env deltaSeconds =
      if p.operational then ((p.refill deltaSeconds).elapse env deltaSeconds).tryTransmit env
      else p := by
  unfold tick operational
  split
  · unfold elapse refill
    split <;> rfl
  · rfl

theorem refill_credits (deltaSeconds : UInt64) (p : Endpoint) :
    (p.refill deltaSeconds).credits =
      if (p.credits + deltaSeconds.toNat) % 2 ^ 64 ≤ maxTransmitCredits.toNat then
        (p.credits + deltaSeconds.toNat) % 2 ^ 64
      else p.credits := by
  have hle := Words.add_widen_le_iff p.sender.transmitCredits maxTransmitCredits deltaSeconds
  unfold credits refill
  by_cases h : p.sender.transmitCredits.toUInt64 + deltaSeconds ≤ maxTransmitCredits.toUInt64
  · rw [if_pos (hle.1 h)]
    simp only [if_pos h]
    exact Words.toNat_add_cut h
  · rw [if_neg fun h' => h (hle.2 h')]
    simp only [if_neg h]

/-- The timer runs on. -/
theorem elapse_early (env : Env) {deltaSeconds : UInt64} (h : deltaSeconds.toNat < p.timer) :
    ∃ t : UInt16, t.toNat = p.timer - deltaSeconds.toNat ∧
      p.elapse env deltaSeconds = { p with sender.transmitTimer := t } := by
  refine ⟨_, Words.toNat_sub_cut (Nat.le_of_lt h), ?_⟩
  unfold elapse
  rw [if_pos ((Words.lt_widen_iff _ _).2 h)]

/-- The timer expires. -/
theorem elapse_late {deltaSeconds : UInt64} (h : p.timer ≤ deltaSeconds.toNat) :
    p.elapse env deltaSeconds =
      (countdown { p with sender.transmitTimer := 0 }).arm.tryTransmit env := by
  unfold elapse
  rw [if_neg fun h' => absurd ((Words.lt_widen_iff _ _).1 h') (Nat.not_lt.2 h), timerExpired_eq]

/-- The fields that `Update` copies, but for the operational flag. -/
def renew (newDeviceData : DeviceData) (p : Endpoint) : Endpoint :=
  { p with sender.deviceData := { p.sender.deviceData with
      interfaceName := newDeviceData.interfaceName
      ipv4Address := newDeviceData.ipv4Address
      ipv6Address := newDeviceData.ipv6Address } }

def setOperational (b : Bool) (p : Endpoint) : Endpoint :=
  { p with sender.deviceData.deviceOperational := b }

/-- `Update` compares equal. -/
def Unchanged (p : Endpoint) (newDeviceData : DeviceData) : Prop :=
  p.sender.deviceData.interfaceName = newDeviceData.interfaceName ∧
    p.sender.deviceData.ipv4Address = newDeviceData.ipv4Address ∧
    p.sender.deviceData.ipv6Address = newDeviceData.ipv6Address ∧
    p.operational = newDeviceData.deviceOperational

/-- **What `Update` does**: nothing if no compared field changed. Otherwise the fields are
copied, a device that goes down greets its neighbours first, and a change is announced. -/
theorem update_eq (env : Env) (newDeviceData : DeviceData) (p : Endpoint) :
    (p.Unchanged newDeviceData ∧ p.update env newDeviceData = p) ∨
      (¬ p.Unchanged newDeviceData ∧ p.update env newDeviceData =
        ((if p.operational = true ∧ newDeviceData.deviceOperational = false then
          (p.renew newDeviceData).newNeighbour env else p.renew newDeviceData).setOperational
            newDeviceData.deviceOperational).localChangeDetected env) := by
  obtain ⟨⟨⟨mac, ipv4, ipv6, name, op, ifIndex⟩, timer, credits, fast, ready⟩, io⟩ := p
  obtain ⟨mac', ipv4', ipv6', name', op', ifIndex'⟩ := newDeviceData
  rcases eq_or_ne name name' with rfl | hname <;> rcases eq_or_ne ipv4 ipv4' with rfl | hv4 <;>
    rcases eq_or_ne ipv6 ipv6' with rfl | hv6 <;> cases op <;> cases op' <;>
    simp [update, Unchanged, operational, renew, setOperational, disableSender, enableSender, *]

/-! ## What every call keeps -/

/-- A property kept by the changes of the counters, by the fields an update copies and by
the two ways to send. -/
structure Kept (env : Env) (I : Endpoint → Prop) : Prop where
  arm : ∀ p, I p → I p.arm
  countdown : ∀ p, I p → I p.countdown
  greet : ∀ p, I p → I p.greet
  refill : ∀ deltaSeconds p, I p → I (p.refill deltaSeconds)
  timer : ∀ (t : UInt16) p, t.toNat ≤ p.timer → I p → I { p with sender.transmitTimer := t }
  renew : ∀ newDeviceData p, I p → I (p.renew newDeviceData)
  setOperational : ∀ b p, I p → I (p.setOperational b)
  tryTransmit : ∀ p, I p → I (p.tryTransmit env)
  endTransmission : ∀ p, I p → I (p.endTransmission env)

namespace Kept

variable {I : Endpoint → Prop}

theorem trigger (hI : Kept env I) (h : I p) : I (p.arm.tryTransmit env) :=
  hI.tryTransmit _ (hI.arm p h)

theorem expire (hI : Kept env I) (h : I p) : I (p.countdown.arm.tryTransmit env) :=
  hI.trigger (hI.countdown p h)

theorem newNeighbour (hI : Kept env I) (h : I p) : I (p.newNeighbour env) := by
  rw [newNeighbour_eq]
  exact hI.expire (hI.greet p h)

theorem update (hI : Kept env I) (newDeviceData : DeviceData) (h : I p) :
    I (p.update env newDeviceData) := by
  rcases update_eq env newDeviceData p with ⟨-, heq⟩ | ⟨-, heq⟩
  · rw [heq]; exact h
  · have hrenew := hI.renew newDeviceData p h
    -- a device that goes down greets first, and only then announces the change
    rw [heq, localChangeDetected_eq]
    apply hI.trigger
    apply hI.setOperational
    split
    · exact hI.newNeighbour hrenew
    · exact hrenew

theorem elapse (hI : Kept env I) (deltaSeconds : UInt64) (h : I p) :
    I (p.elapse env deltaSeconds) := by
  rcases Nat.lt_or_ge deltaSeconds.toNat p.timer with hearly | hlate
  · obtain ⟨t, ht, heq⟩ := elapse_early env hearly
    rw [heq]
    exact hI.timer t p (by omega) h
  · rw [elapse_late hlate]
    exact hI.expire (hI.timer 0 p (Nat.zero_le _) h)

/-- **The rule of a call.** -/
theorem step (hI : Kept env I) (op : SenderOp) (h : I p) : I (p.step env op) := by
  cases op with
  | update newDeviceData => exact hI.update newDeviceData h
  | tick deltaSeconds =>
    rw [Endpoint.step, tick_eq]
    split
    · exact hI.tryTransmit _ (hI.elapse deltaSeconds (hI.refill deltaSeconds p h))
    · exact h
  | newNeighbour => exact hI.newNeighbour h
  | localChangeDetected =>
    rw [Endpoint.step, localChangeDetected_eq]
    exact hI.trigger h
  | endTransmission => exact hI.endTransmission p h

/-- The constructor only greets. -/
theorem create (hI : Kept env I) {deviceData : DeviceData} {io : Io}
    (h : I ⟨⟨deviceData, 0, 0, 0, false⟩, io⟩) : I (create env deviceData io) := by
  unfold Endpoint.create
  simp only
  split
  · exact hI.newNeighbour h
  · exact h

/-- **The rule of a run.** -/
theorem run (hI : Kept env I) {deviceData : DeviceData} {io : Io}
    (h : I ⟨⟨deviceData, 0, 0, 0, false⟩, io⟩) (ops : List SenderOp) :
    I (after env deviceData io ops) :=
  Run.run_inv (fun _ op hp => hI.step op hp) (hI.create h) ops

end Kept

/-- The statics stay in order over every call. -/
theorem kept_statics (env : Env) : Kept env fun p => p.io.statics.Ok env.machineId where
  arm _ h := h
  countdown _ h := h
  greet _ h := h
  refill _ _ h := h
  timer _ _ _ h := h
  renew _ _ h := h
  setOperational _ _ h := h
  tryTransmit p h := by
    unfold tryTransmit
    split
    · exact sendLldp_ok (p := p.spend) h
    · exact h
  endTransmission p h := by
    unfold endTransmission
    split
    · exact sendLldp_ok h
    · exact h

end Endpoint

end Ndisc
