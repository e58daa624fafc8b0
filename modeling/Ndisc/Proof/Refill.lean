import Ndisc.Proof.Operational

/-!
# The credits that a tick gives back

`Tick` adds the seconds to the credits where the sum is within `MAX_TRANSMIT_CREDITS`, and
otherwise adds nothing at all. A tick of one second fills up to the cap either way; a tick
of several seconds that would pass it leaves the credits where they were.

* `tick_tries`: a tick is a refill, a timer, and one try.
* `tryTransmit_balance`: what the try makes of the credits.
* `tick_refills_iff`: **the ticks that refill like a tick for each second**.
-/

namespace Ndisc

open Endpoint

namespace Endpoint

variable {env : Env} {p : Endpoint} {deltaSeconds : UInt64}

/-- The seconds of the tick are given back up to the cap, each frame sent costs one, and no
trigger is left for lack of a credit. -/
structure RefillsLike (env : Env) (p : Endpoint) (deltaSeconds : UInt64) : Prop where
  credits : (p.tick env deltaSeconds).credits + (p.tick env deltaSeconds).frames =
    p.frames + min maxTransmitCredits.toNat (p.credits + deltaSeconds.toNat)
  sent : ¬ ((p.tick env deltaSeconds).ready = true ∧ (p.tick env deltaSeconds).credits = 0)

/-- The refill that is skipped would have made no difference. -/
def Fits (p : Endpoint) (deltaSeconds : UInt64) : Prop :=
  p.credits + deltaSeconds.toNat ≤ maxTransmitCredits.toNat ∨ p.credits = maxTransmitCredits.toNat

/-- A try of this tick takes a credit for a frame that `SendLldp` refuses to send. -/
def Wastes (p : Endpoint) (deltaSeconds : UInt64) : Prop :=
  p.sender.deviceData.macAddress.isSome ∧ intMax < p.sender.deviceData.ifIndex.toNat ∧
    (p.ready = true ∨ p.timer ≤ deltaSeconds.toNat)

/-- **A tick ends in one try**: with the credits of the refill, and a trigger if there was
one or the timer has expired. -/
theorem tick_tries (env : Env) (hop : p.operational = true) (deltaSeconds : UInt64) :
    ∃ q : Endpoint, p.tick env deltaSeconds = q.tryTransmit env ∧
      q.credits = (p.refill deltaSeconds).credits ∧ q.frames = p.frames ∧
      q.sender.deviceData = p.sender.deviceData ∧
      (q.ready = true ↔ p.ready = true ∨ p.timer ≤ deltaSeconds.toNat) := by
  rw [tick_eq, if_pos hop]
  rcases Nat.lt_or_ge deltaSeconds.toNat (p.refill deltaSeconds).timer with hearly | hlate
  · have hno : ¬ p.timer ≤ deltaSeconds.toNat := Nat.not_le.2 hearly
    obtain ⟨t, -, heq⟩ := elapse_early env hearly
    rw [heq]
    exact ⟨_, rfl, rfl, rfl, rfl, (or_iff_left hno).symm⟩
  · rw [elapse_late hlate, tryTransmit_twice]
    exact ⟨_, rfl, rfl, rfl, rfl, iff_of_true rfl (Or.inr hlate)⟩

/-- **What a try makes of the credits**: one for a frame, or one for nothing. -/
theorem tryTransmit_balance (env : Env) (q : Endpoint) :
    (q.CanTransmit ∧ q.Silent ∧
      (q.tryTransmit env).credits + (q.tryTransmit env).frames + 1 = q.credits + q.frames) ∨
    (¬ (q.CanTransmit ∧ q.Silent) ∧
      (q.tryTransmit env).credits + (q.tryTransmit env).frames = q.credits + q.frames) := by
  rcases tryTransmit_cases env q with ⟨hno, heq⟩ | ⟨hcan, hs, heq⟩ | ⟨hcan, hs, st, frame, httl, -, -, heq⟩
  · right
    rw [heq]
    exact ⟨fun h => hno h.1, rfl⟩
  · have hcost := spend_credits hcan.2.1
    left
    rw [heq, spend_frames]
    exact ⟨hcan, hs, by omega⟩
  · have hcost := spend_credits hcan.2.1
    right
    rw [heq, logged_credits, logged_frames, if_pos httl, spend_frames]
    exact ⟨fun h => hs h.2, by omega⟩

/-- The credits of the refill, where nothing wraps. -/
theorem refill_credits_bounded (hb : p.Bounded) (hlt : deltaSeconds.toNat < 2 ^ 63) :
    (p.refill deltaSeconds).credits =
      if p.credits + deltaSeconds.toNat ≤ 5 then p.credits + deltaSeconds.toNat else p.credits := by
  have hcredits : p.credits ≤ 5 := hb.credits
  have hmax : maxTransmitCredits.toNat = 5 := rfl
  have hwrap : (p.credits + deltaSeconds.toNat) % 2 ^ 64 = p.credits + deltaSeconds.toNat :=
    Nat.mod_eq_of_lt (by omega)
  rw [refill_credits, hwrap, hmax]

/-- The try that takes a credit for nothing. -/
theorem wasted_iff {q : Endpoint} (hdata : q.sender.deviceData = p.sender.deviceData)
    (hready : q.ready = true ↔ p.ready = true ∨ p.timer ≤ deltaSeconds.toNat) :
    q.CanTransmit ∧ q.Silent ↔ 0 < q.credits ∧ p.Wastes deltaSeconds := by
  unfold CanTransmit Silent Wastes
  rw [hready, hdata]
  constructor
  · rintro ⟨⟨htrigger, hcredits, hmac⟩, hbig | hnone⟩
    · exact ⟨hcredits, hmac, hbig, htrigger⟩
    · rw [hnone] at hmac
      cases hmac
  · rintro ⟨hcredits, hmac, hbig, htrigger⟩
    exact ⟨⟨htrigger, hcredits, hmac⟩, Or.inl hbig⟩

/-- **One tick of a sender that is up.** -/
theorem refillsLike_iff (env : Env) (hb : p.Bounded) (hop : p.operational = true)
    (hpos : 1 ≤ deltaSeconds.toNat) (hlt : deltaSeconds.toNat < 2 ^ 63) :
    RefillsLike env p deltaSeconds ↔ p.Fits deltaSeconds ∧ ¬ p.Wastes deltaSeconds := by
  have hcredits : p.credits ≤ 5 := hb.credits
  have hmax : maxTransmitCredits.toNat = 5 := rfl
  obtain ⟨q, htick, hq, hframes, hdata, hready⟩ := tick_tries env hop deltaSeconds
  have hrefill := refill_credits_bounded hb hlt
  have hwaste := wasted_iff hdata hready
  unfold Fits
  rw [hmax]
  constructor
  · rintro ⟨hbalance, -⟩
    rw [htick, hmax] at hbalance
    -- a refill that was skipped, or a credit that was wasted, is missing on the left
    rcases tryTransmit_balance env q with ⟨hcan, hs, hsum⟩ | ⟨hno, hsum⟩
    · exfalso
      split_ifs at hrefill <;> omega
    · have hfits : p.credits + deltaSeconds.toNat ≤ 5 ∨ p.credits = 5 := by
        split_ifs at hrefill <;> omega
      have hsome : 0 < q.credits := by
        split_ifs at hrefill <;> omega
      exact ⟨hfits, fun hw => hno (hwaste.2 ⟨hsome, hw⟩)⟩
  · rintro ⟨hfits, hw⟩
    have hno : ¬ (q.CanTransmit ∧ q.Silent) := fun h => hw (hwaste.1 h).2
    have hsome : 0 < q.credits := by
      split_ifs at hrefill <;> omega
    obtain ⟨-, hsum⟩ := (tryTransmit_balance env q).resolve_left fun h => hno ⟨h.1, h.2.1⟩
    constructor
    · rw [htick, hmax, hsum]
      split_ifs at hrefill <;> omega
    · rw [htick]
      rintro ⟨htrigger, hzero⟩
      -- a trigger that is left was not tried, so the credits are those of the refill
      rcases tryTransmit_cases env q with ⟨-, heq⟩ | ⟨-, -, heq⟩ | ⟨-, -, st, frame, -, -, -, heq⟩
      · rw [heq] at hzero
        omega
      all_goals
        rw [heq] at htrigger
        cases htrigger

end Endpoint

/-- **The ticks that refill like seconds.** For every sender, after any calls with any
outcomes, at a moment when it is operational, and every tick of at least one second: what
is left of the credits and the frames it sends make up `MAX_TRANSMIT_CREDITS`, or the
credits before and the seconds if that is less, and no trigger is left for lack of a
credit, exactly if the sum is within the cap or the credits were at the cap before, and the
tick does not take a credit for a device whose index is no `int`. -/
theorem tick_refills_iff (env₀ env : Env) (deviceData : DeviceData) (io : Io)
    (before : List SenderOp) (hop : (after env₀ deviceData io before).operational = true)
    (deltaSeconds : UInt64) (hpos : 1 ≤ deltaSeconds.toNat) (hlt : deltaSeconds.toNat < 2 ^ 63) :
    RefillsLike env (after env₀ deviceData io before) deltaSeconds ↔
      (after env₀ deviceData io before).Fits deltaSeconds ∧
        ¬ (after env₀ deviceData io before).Wastes deltaSeconds :=
  refillsLike_iff env (run_bounded env₀ deviceData io before) hop hpos hlt

/-- The interface of the two runs below. -/
def stalled : DeviceData := ⟨some ⟨[2, 0, 0, 0, 0, 2], rfl⟩, none, none, none, true, 2⟩

/-- Five seconds at once fill a new sender up. -/
theorem tick_refills_five :
    RefillsLike quietEnv (after quietEnv stalled .init []) 5 := by
  refine (tick_refills_iff quietEnv quietEnv stalled .init []
    (by decide +kernel) 5 (by decide) (by decide)).2 ⟨Or.inl (by decide +kernel), ?_⟩
  rintro ⟨-, hbig, -⟩
  exact absurd hbig (by decide +kernel)

/-- Six seconds at once give a new sender nothing, and its first frame is not sent. -/
theorem tick_refills_nothing :
    ¬ RefillsLike quietEnv (after quietEnv stalled .init []) 6 := by
  rintro ⟨-, hsent⟩
  exact hsent (by decide +kernel)

end Ndisc
