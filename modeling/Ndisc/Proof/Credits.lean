import Ndisc.Proof.Transmit

/-!
# The transmit credits

A frame costs a credit, and only a tick gives credits back.

* `step_bounded`: the three counters stay within their constants.
* `step_pays`: no call spends more than it takes off the credits or is given.
* `credits_bound_frames`: **over any part of any run, at most `MAX_TRANSMIT_CREDITS`
  frames more than the seconds ticked.**
-/

namespace Ndisc

open Endpoint

/-- The seconds a call ticks. -/
def SenderOp.seconds : SenderOp → ℕ
  | .tick deltaSeconds => deltaSeconds.toNat
  | _ => 0

namespace Endpoint

variable {env : Env} {p : Endpoint}

/-! ## The counters stay within their constants -/

structure Bounded (p : Endpoint) : Prop where
  timer : p.timer ≤ messageTransmitInterval.toNat
  credits : p.credits ≤ maxTransmitCredits.toNat
  fast : p.fast ≤ fastTransmitAmount.toNat

theorem arm_timer (p : Endpoint) :
    p.arm.timer = if 0 < p.fast then 1 else messageTransmitInterval.toNat := by
  have hfast : 0 < p.sender.fastForwardCounter ↔ 0 < p.fast := by
    rw [UInt16.lt_iff_toNat_lt, UInt16.toNat_zero]; rfl
  unfold timer arm
  by_cases h : 0 < p.fast
  · rw [if_pos h]; simp only [if_pos (hfast.2 h)]; rfl
  · rw [if_neg h]; simp only [if_neg fun h' => h (hfast.1 h')]

theorem countdown_fast (p : Endpoint) : p.countdown.fast = p.fast - 1 := by
  unfold countdown fast
  by_cases h : 0 < p.sender.fastForwardCounter
  · have hpred := Words.toNat_pred h
    simp only [if_pos h]; omega
  · have hzero : ¬ 0 < p.sender.fastForwardCounter.toNat := by
      rwa [UInt16.lt_iff_toNat_lt, UInt16.toNat_zero] at h
    simp only [if_neg h]; omega

theorem greet_fast (p : Endpoint) :
    p.greet.fast = if p.fast = 0 then fastTransmitAmount.toNat else p.fast := by
  have hfast : p.sender.fastForwardCounter = 0 ↔ p.fast = 0 := by
    rw [← UInt16.toNat_inj, UInt16.toNat_zero]; rfl
  by_cases h : p.fast = 0
  · rw [if_pos h]
    unfold fast greet
    simp only [if_pos (hfast.2 h)]
  · rw [if_neg h]
    unfold fast greet
    simp only [if_neg fun h' => h (hfast.1 h')]

theorem arm_bounded (h : p.Bounded) : p.arm.Bounded where
  timer := by
    rw [arm_timer]
    split
    · decide
    · exact le_rfl
  credits := h.credits
  fast := h.fast

theorem countdown_bounded (h : p.Bounded) : p.countdown.Bounded where
  timer := h.timer
  credits := h.credits
  fast := by have hf := h.fast; rw [countdown_fast]; omega

theorem greet_bounded (h : p.Bounded) : p.greet.Bounded where
  timer := h.timer
  credits := h.credits
  fast := by
    rw [greet_fast]
    split
    · exact le_rfl
    · exact h.fast

theorem tryTransmit_bounded (h : p.Bounded) : (p.tryTransmit env).Bounded where
  timer := by rw [tryTransmit_timer]; exact h.timer
  credits := (tryTransmit_credits_le env p).trans h.credits
  fast := by rw [tryTransmit_fast]; exact h.fast

theorem refill_bounded (h : p.Bounded) (deltaSeconds : UInt64) : (p.refill deltaSeconds).Bounded where
  timer := h.timer
  credits := by
    rw [refill_credits]
    split
    · assumption
    · exact h.credits
  fast := h.fast

theorem endTransmission_bounded (h : p.Bounded) : (p.endTransmission env).Bounded := by
  unfold endTransmission
  split
  · by_cases hs : p.Silent
    · rw [sendLldp_silent hs]; exact h
    · rw [sendLldp_logged hs]; exact ⟨h.timer, h.credits, h.fast⟩
  · exact h

/-- What a call is made of keeps the bounds. -/
theorem kept_bounded (env : Env) : Kept env Bounded where
  arm _ h := arm_bounded h
  countdown _ h := countdown_bounded h
  greet _ h := greet_bounded h
  refill deltaSeconds _ h := refill_bounded h deltaSeconds
  timer _ _ ht h := ⟨ht.trans h.timer, h.credits, h.fast⟩
  renew _ _ h := ⟨h.timer, h.credits, h.fast⟩
  setOperational _ _ h := ⟨h.timer, h.credits, h.fast⟩
  tryTransmit _ h := tryTransmit_bounded h
  endTransmission _ h := endTransmission_bounded h

/-! ## What a call spends -/

/-- No more frames than credits taken, but for `given` credits. -/
def Pays (given : ℕ) (p q : Endpoint) : Prop := q.credits + q.frames ≤ p.credits + p.frames + given

theorem pays_refl (p : Endpoint) : Pays 0 p p := le_rfl

theorem Pays.trans {m n : ℕ} {q r : Endpoint} (h : Pays m p q) (h' : Pays n q r) :
    Pays (m + n) p r := by
  unfold Pays at *; omega

theorem pays_tryTransmit (env : Env) (p : Endpoint) : Pays 0 p (p.tryTransmit env) :=
  tryTransmit_pays env p

theorem refill_pays (p : Endpoint) (deltaSeconds : UInt64) :
    Pays deltaSeconds.toNat p (p.refill deltaSeconds) := by
  have hframes : (p.refill deltaSeconds).frames = p.frames := rfl
  have hmod := Nat.mod_le (p.credits + deltaSeconds.toNat) (2 ^ 64)
  unfold Pays
  rw [refill_credits, hframes]
  split <;> omega

theorem elapse_pays (env : Env) (p : Endpoint) (deltaSeconds : UInt64) :
    Pays 0 p (p.elapse env deltaSeconds) := by
  rcases Nat.lt_or_ge deltaSeconds.toNat p.timer with hearly | hlate
  · obtain ⟨t, -, heq⟩ := elapse_early env hearly
    rw [heq]; exact le_rfl
  · rw [elapse_late hlate]
    exact pays_tryTransmit env _

/-- The one frame sent with another TTL costs nothing. -/
theorem endTransmission_eq (env : Env) (p : Endpoint) :
    (p.endTransmission env).timer = p.timer ∧ (p.endTransmission env).fast = p.fast ∧
      (p.endTransmission env).credits = p.credits ∧ (p.endTransmission env).frames = p.frames := by
  unfold endTransmission
  split
  · by_cases hs : p.Silent
    · rw [sendLldp_silent hs]
      exact ⟨rfl, rfl, rfl, rfl⟩
    · rw [sendLldp_logged hs]
      exact ⟨rfl, rfl, rfl, by rw [logged_frames, if_neg (show (0 : UInt16) ≠ targetTtl by decide)]; rfl⟩
  · exact ⟨rfl, rfl, rfl, rfl⟩

/-! ## One call -/

/-- **The counters stay within their constants.** -/
theorem step_bounded (env : Env) (p : Endpoint) (op : SenderOp) (h : p.Bounded) :
    (p.step env op).Bounded := (kept_bounded env).step op h

/-- **No call spends more than it takes off the credits or is given.** -/
theorem step_pays (env : Env) (p : Endpoint) (op : SenderOp) : Pays op.seconds p (p.step env op) := by
  cases op with
  | update newDeviceData =>
    rw [Endpoint.step]
    rcases update_eq env newDeviceData p with ⟨-, heq⟩ | ⟨-, heq⟩
    · rw [heq]; exact pays_refl p
    · rw [heq, localChangeDetected_eq]
      split
      · rw [newNeighbour_eq]
        -- a device that goes down can send twice, and pays twice
        have hfirst : Pays 0 p ((p.renew newDeviceData).greet.countdown.arm.tryTransmit env) :=
          pays_tryTransmit env _
        have hsecond : ∀ q : Endpoint, Pays 0 q
            ((q.setOperational newDeviceData.deviceOperational).arm.tryTransmit env) :=
          fun q => pays_tryTransmit env _
        exact hfirst.trans (hsecond _)
      · exact pays_tryTransmit env _
  | tick deltaSeconds =>
    rw [Endpoint.step, tick_eq]
    split
    · have htry := pays_tryTransmit env ((p.refill deltaSeconds).elapse env deltaSeconds)
      exact ((refill_pays p deltaSeconds).trans (elapse_pays env _ deltaSeconds)).trans htry
    · exact Nat.le_add_right _ _
  | newNeighbour =>
    rw [Endpoint.step, newNeighbour_eq]
    exact pays_tryTransmit env _
  | localChangeDetected =>
    rw [Endpoint.step, localChangeDetected_eq]
    exact pays_tryTransmit env _
  | endTransmission =>
    obtain ⟨-, -, hcredits, hframes⟩ := endTransmission_eq env p
    rw [Endpoint.step, Pays, hcredits, hframes]
    exact Nat.le_add_right _ _

/-- The constructor sends nothing: there is no credit yet. -/
theorem create_io (env : Env) (deviceData : DeviceData) (io : Io) :
    (create env deviceData io).io = io := by
  unfold create
  simp only
  split
  · rw [enableSender, newNeighbour_eq]
    rcases tryTransmit_cases env (greet ⟨⟨deviceData, 0, 0, 0, false⟩, io⟩).countdown.arm with
      ⟨-, h⟩ | ⟨hcan, -, -⟩ | ⟨hcan, -, -⟩
    · rw [h]; rfl
    all_goals exact absurd hcan.2.1 (Nat.lt_irrefl 0)
  · rfl

/-- A sender at work, after any calls. -/
theorem run_bounded (env : Env) (deviceData : DeviceData) (io : Io) (ops : List SenderOp) :
    (after env deviceData io ops).Bounded :=
  (kept_bounded env).run ⟨Nat.zero_le _, Nat.zero_le _, Nat.zero_le _⟩ ops

end Endpoint

/-- **The credits bound the frames.** For every sender, created from any device, after any
calls with any outcomes of their sends: the counters are within their constants, and over
any further calls the frames with the normal TTL are at most `MAX_TRANSMIT_CREDITS` more
than the seconds ticked. The constructor sends nothing, and a try never raises the
credits, so taking one never wraps below zero. -/
theorem credits_bound_frames (env : Env) (deviceData : DeviceData) (io : Io) (ops : List SenderOp) :
    (after env deviceData io ops).sender.transmitCredits ≤ maxTransmitCredits ∧
    (after env deviceData io ops).sender.fastForwardCounter ≤ fastTransmitAmount ∧
    (after env deviceData io ops).sender.transmitTimer ≤ messageTransmitInterval ∧
    (∀ part : List SenderOp,
      (after env deviceData io (ops ++ part)).frames ≤
        (after env deviceData io ops).frames +
          (maxTransmitCredits.toNat + (part.map SenderOp.seconds).sum)) ∧
    (create env deviceData io).io = io ∧
    ∀ p : Endpoint, (p.tryTransmit env).sender.transmitCredits ≤ p.sender.transmitCredits := by
  have hb := run_bounded env deviceData io ops
  refine ⟨UInt16.le_iff_toNat_le.2 hb.credits, UInt16.le_iff_toNat_le.2 hb.fast,
    UInt16.le_iff_toNat_le.2 hb.timer, ?_, create_io env deviceData io,
    fun p => UInt16.le_iff_toNat_le.2 (tryTransmit_credits_le env p)⟩
  intro part
  -- the credits at the start are the budget, and each second is worth one more
  have hbudget := Run.run_budget credits frames SenderOp.seconds (step_bounded env)
    (fun p op _ => step_pays env p op) hb part
  have hcredits := hb.credits
  have hrun : after env deviceData io (ops ++ part) =
      Run.run (step env) (after env deviceData io ops) part := Run.run_append _ _ _ _
  rw [hrun]
  omega

end Ndisc
