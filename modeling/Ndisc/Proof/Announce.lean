import Ndisc.Proof.Cadence
import Ndisc.Proof.Update

/-!
# No local change is lost

A change that finds no credit only leaves a trigger behind, and several of them leave
one. The next tick of an operational sender brings the credit.

* `Told`: the latest frame with the normal TTL was built from the data held now.
* `step_informed`: an operational sender has told its data or has a trigger, whatever
  the calls and the outcomes of the sends.
* `Informed.tick_told`: a second's tick leaves no trigger behind.
* `tick_announces`: **after a second's tick the neighbours have the current data.**
-/

namespace Ndisc

open Wire Endpoint

/-- The bytes of a frame are those that `constructFrame` and `sendFrame` make of `d` after the
frames `older`; if the statics of `io` were in order, they still were. -/
structure Sent.BuiltFrom (env : Env) (io : Io) (older : List Sent) (frame : Sent)
    (d : DeviceData) : Prop where
  macAddress : frame.deviceData.macAddress = d.macAddress
  ipv4Address : frame.deviceData.ipv4Address = d.ipv4Address
  ipv6Address : frame.deviceData.ipv6Address = d.ipv6Address
  ifIndex : frame.deviceData.ifIndex = d.ifIndex
  buffer : ∃ st : Statics, (io.statics.Ok env.machineId → st.Ok env.machineId) ∧ frame.buffer =
    (sendFrame (env.stack older) (constructFrame env.machineId frame.ttl d st)).frameBuffer

namespace Endpoint

variable {env : Env} {io : Io} {p q : Endpoint}

/-! ## What was told -/

/-- Since `io`, a frame with the normal TTL was handed to `sendto`, and the latest one was
built from the device data held now. -/
def Told (env : Env) (io : Io) (p : Endpoint) : Prop :=
  ∃ (newer : List Sent) (frame : Sent) (older : List Sent),
    p.io.log = newer ++ frame :: older ∧ io.log <:+ older ∧
    (∀ f ∈ newer, f.ttl ≠ targetTtl) ∧ frame.ttl = targetTtl ∧
    frame.BuiltFrom env io older p.sender.deviceData

/-- The sender of an interface it can send on, since `io`. -/
structure Working (env : Env) (io : Io) (p : Endpoint) : Prop where
  since : io.log <:+ p.io.log
  loud : ¬ p.Silent
  statics : io.statics.Ok env.machineId → p.io.statics.Ok env.machineId

theorem tryTransmit_working (h : Working env io p) : Working env io (p.tryTransmit env) where
  since := by
    rcases tryTransmit_cases env p with ⟨-, heq⟩ | ⟨-, -, heq⟩ | ⟨-, -, st, frame, -, -, -, heq⟩ <;>
      rw [heq]
    · exact h.since
    · exact h.since
    · exact h.since.trans (List.suffix_cons frame p.io.log)
  loud := by
    unfold Silent
    rw [tryTransmit_macAddress, tryTransmit_ifIndex]
    exact h.loud
  statics hio := (kept_statics env).tryTransmit p (h.statics hio)

/-- **A try with a credit and a trigger tells the data held now.** -/
theorem tryTransmit_tells (env : Env) (h : Working env io p) (hcan : p.CanTransmit) :
    Told env io (p.tryTransmit env) := by
  have htest : p.sender.triggerReady = true ∧ 0 < p.sender.transmitCredits ∧
      p.sender.deviceData.macAddress.isSome = true := by
    obtain ⟨hready, hcredits, hmac⟩ := hcan
    exact ⟨hready, UInt16.lt_iff_toNat_lt.2 hcredits, hmac⟩
  have hsend : p.tryTransmit env = p.spend.sendLldp env targetTtl := if_pos htest
  rw [hsend, sendLldp_logged (p := p.spend) h.loud]
  refine ⟨[], _, p.io.log, rfl, h.since, ?_, rfl, rfl, rfl, rfl, rfl, p.io.statics, h.statics, rfl⟩
  intro f hf
  cases hf

/-- What a try keeps: a trigger is there, or the data were told. -/
theorem tryTransmit_informed (h : Working env io p) (htold : p.ready = true ∨ Told env io p) :
    (p.tryTransmit env).ready = true ∨ Told env io (p.tryTransmit env) := by
  rcases tryTransmit_cases env p with ⟨-, heq⟩ | ⟨-, hs, -⟩ | ⟨hcan, -⟩
  · rwa [heq]
  · exact absurd hs h.loud
  · exact Or.inr (tryTransmit_tells env h hcan)

/-! ## The invariant -/

/-- An operational sender told its data, or has a trigger. -/
structure Informed (env : Env) (io : Io) (p : Endpoint) : Prop extends Working env io p, Bounded p where
  told : p.operational = true → p.ready = true ∨ Told env io p

theorem informed_of_try (h : Working env io q) (hb : q.Bounded) (hready : q.ready = true) :
    Informed env io (q.tryTransmit env) where
  toWorking := tryTransmit_working h
  toBounded := tryTransmit_bounded hb
  told _ := tryTransmit_informed h (Or.inl hready)

theorem refill_working (h : Working env io p) (deltaSeconds : UInt64) :
    Working env io (p.refill deltaSeconds) := ⟨h.since, h.loud, h.statics⟩

/-- The timer runs on, or expires and leaves a trigger. -/
theorem elapse_informed (h : Working env io p) (htold : p.ready = true ∨ Told env io p)
    (deltaSeconds : UInt64) :
    Working env io (p.elapse env deltaSeconds) ∧
      ((p.elapse env deltaSeconds).ready = true ∨ Told env io (p.elapse env deltaSeconds)) := by
  rcases Nat.lt_or_ge deltaSeconds.toNat p.timer with hearly | hlate
  · obtain ⟨t, -, heq⟩ := elapse_early env hearly
    rw [heq]
    exact ⟨⟨h.since, h.loud, h.statics⟩, htold⟩
  · rw [elapse_late hlate]
    have hw : Working env io (countdown { p with sender.transmitTimer := 0 }).arm :=
      ⟨h.since, h.loud, h.statics⟩
    exact ⟨tryTransmit_working hw, tryTransmit_informed hw (Or.inl rfl)⟩

theorem create_informed (env : Env) {deviceData : DeviceData} {mac : Octets 6} (io : Io)
    (hmac : deviceData.macAddress = some mac) (hindex : deviceData.ifIndex.toNat ≤ intMax) :
    Informed env io (create env deviceData io) := by
  have hw : Working env io ⟨⟨deviceData, 0, 0, 0, false⟩, io⟩ := by
    refine ⟨List.suffix_refl _, ?_, id⟩
    rintro (hbig | hnone)
    · exact absurd hindex (Nat.not_le.2 hbig)
    · rw [hmac] at hnone
      cases hnone
  have hb : Bounded ⟨⟨deviceData, 0, 0, 0, false⟩, io⟩ :=
    ⟨Nat.zero_le _, Nat.zero_le _, Nat.zero_le _⟩
  unfold create
  by_cases hup : deviceData.deviceOperational = true
  · simp only [if_pos hup]
    rw [enableSender, newNeighbour_eq]
    exact informed_of_try ⟨hw.since, hw.loud, hw.statics⟩
      (arm_bounded (countdown_bounded (greet_bounded hb))) rfl
  · simp only [if_neg hup]
    exact ⟨hw, hb, fun h => absurd h hup⟩

/-- An `Update` that finds a change ends with a try, and a trigger before it. -/
theorem update_tries (env : Env) (h : Working env io p) (newDeviceData : DeviceData) :
    (p.Unchanged newDeviceData ∧ p.update env newDeviceData = p) ∨
      ∃ q : Endpoint, Working env io q ∧ q.ready = true ∧
        p.update env newDeviceData = q.tryTransmit env := by
  rcases update_eq env newDeviceData p with hsame | ⟨-, heq⟩
  · exact Or.inl hsame
  · right
    rw [localChangeDetected_eq, newNeighbour_eq] at heq
    have hgreet : Working env io ((p.renew newDeviceData).greet.countdown.arm.tryTransmit env) :=
      tryTransmit_working (p := (p.renew newDeviceData).greet.countdown.arm)
        ⟨h.since, h.loud, h.statics⟩
    refine ⟨_, ?_, rfl, heq⟩
    split
    · exact ⟨hgreet.since, hgreet.loud, hgreet.statics⟩
    · exact ⟨h.since, h.loud, h.statics⟩

/-- The same for a tick of an operational sender, which may find the device down. -/
theorem tick_informed (h : Informed env io p) (hup : p.operational = true) (deltaSeconds : UInt64) :
    Working env io (p.tick env deltaSeconds) ∧
      ((p.tick env deltaSeconds).ready = true ∨ Told env io (p.tick env deltaSeconds)) := by
  obtain ⟨hw, htold⟩ := elapse_informed (refill_working h.toWorking deltaSeconds)
    (h.told hup) deltaSeconds
  rw [tick_eq, if_pos hup]
  exact ⟨tryTransmit_working hw, tryTransmit_informed hw htold⟩

/-- The frame that takes a device back has another TTL. -/
theorem endTransmission_informed (h : Informed env io p) :
    Informed env io (p.endTransmission env) := by
  have hmac : p.sender.deviceData.macAddress.isSome = true :=
    Option.isSome_iff_ne_none.2 fun hnone => h.loud (Or.inr hnone)
  have hstatics : io.statics.Ok env.machineId → (p.endTransmission env).io.statics.Ok env.machineId :=
    fun hio => (kept_statics env).endTransmission p (h.statics hio)
  unfold endTransmission at hstatics ⊢
  rw [if_pos hmac, sendLldp_logged h.loud] at hstatics ⊢
  refine ⟨⟨h.since.trans (List.suffix_cons _ _), h.loud, hstatics⟩, ⟨h.timer, h.credits, h.fast⟩, ?_⟩
  intro hup
  rcases h.told (Bool.and_elim_left hup) with hready | ⟨newer, frame, older, hlog, hold, hother, htold⟩
  · exact Or.inl hready
  · obtain ⟨httl, hbuilt⟩ := htold
    refine Or.inr ⟨_ :: newer, frame, older, congrArg _ hlog, hold, ?_, httl,
      hbuilt.macAddress, hbuilt.ipv4Address, hbuilt.ipv6Address, hbuilt.ifIndex, hbuilt.buffer⟩
    intro f hf
    rcases List.mem_cons.1 hf with rfl | hf
    · exact show (0 : UInt16) ≠ targetTtl by decide
    · exact hother f hf

/-- **An operational sender has told its data or has a trigger**, after every call and
with every outcome of its sends. -/
theorem step_informed (env : Env) (io : Io) (p : Endpoint) (op : SenderOp)
    (h : Informed env io p) : Informed env io (p.step env op) := by
  have hb : (p.step env op).Bounded := step_bounded env p op h.toBounded
  cases op with
  | update newDeviceData =>
    rcases update_tries env h.toWorking newDeviceData with ⟨-, heq⟩ | ⟨q, hw, hready, heq⟩
    · rw [Endpoint.step, heq]
      exact h
    · rw [Endpoint.step, heq] at hb ⊢
      exact ⟨tryTransmit_working hw, hb, fun _ => tryTransmit_informed hw (Or.inl hready)⟩
  | tick deltaSeconds =>
    -- a tick of a device that is down does nothing, so what it was told stays true
    by_cases hup : p.operational = true
    · obtain ⟨hw, htold⟩ := tick_informed h hup deltaSeconds
      exact ⟨hw, hb, fun _ => htold⟩
    · rw [Endpoint.step, tick_eq, if_neg hup]
      exact h
  | newNeighbour =>
    rw [Endpoint.step, newNeighbour_eq]
    exact informed_of_try ⟨h.since, h.loud, h.statics⟩
      (arm_bounded (countdown_bounded (greet_bounded h.toBounded))) rfl
  | localChangeDetected =>
    rw [Endpoint.step, localChangeDetected_eq]
    exact informed_of_try ⟨h.since, h.loud, h.statics⟩ (arm_bounded h.toBounded) rfl
  | endTransmission => exact endTransmission_informed h

/-- At an operational moment the sender is at work. -/
theorem Informed.live (h : Informed env io p) (hup : p.operational = true) : p.Live :=
  ⟨hup, h.loud, Option.isSome_iff_ne_none.2 fun hnone => h.loud (Or.inr hnone), h.toBounded⟩

/-- A second brings a credit, so no trigger outlasts it. -/
theorem Informed.tick_told (h : Informed env io p) (hup : p.operational = true) :
    Told env io (p.tick env 1) := by
  have hready : (p.tick env 1).ready = false := tick_ready (h.live hup)
  rcases (tick_informed h hup 1).2 with htrigger | htold
  · rw [hready] at htrigger
    cases htrigger
  · exact htold

end Endpoint

/-- **No local change is lost.** For a sender on an interface with a MAC and an index that
is an `int`, and any calls with any outcomes of their sends: after a second's tick of the
operational sender, the latest frame with the normal TTL that it handed to `sendto` was
built from the device data it holds. -/
theorem tick_announces (env : Env) (io : Io) (deviceData : DeviceData) (mac : Octets 6)
    (hmac : deviceData.macAddress = some mac) (hindex : deviceData.ifIndex.toNat ≤ intMax)
    (ops : List SenderOp) (hup : (after env deviceData io ops).operational = true) :
    Told env io (after env deviceData io (ops ++ [.tick 1])) := by
  have hbefore : Informed env io (after env deviceData io ops) :=
    Run.run_inv (step_informed env io) (create_informed env io hmac hindex) ops
  have hrun : after env deviceData io (ops ++ [.tick 1]) =
      (after env deviceData io ops).tick env 1 := Run.run_concat _ _ _ _
  rw [hrun]
  exact hbefore.tick_told hup

/-- An interface that is down, comes up and gets an address, all before the first tick. -/
theorem tick_announces_pending :
    Told quietEnv .init
      (after quietEnv ⟨some ⟨[2, 0, 0, 0, 0, 1], rfl⟩, none, none, none, false, 2⟩ .init
        ([.update ⟨none, none, none, none, true, 2⟩, .newNeighbour,
          .update ⟨none, some ⟨[10, 0, 0, 1], rfl⟩, none, none, true, 2⟩] ++ [.tick 1])) :=
  tick_announces quietEnv .init _ ⟨[2, 0, 0, 0, 0, 1], rfl⟩ rfl (by decide) _
    (by decide +kernel)

end Ndisc
