import Ndisc.Lib.Journal
import Ndisc.Proof.Credits

/-!
# Frames of a device that is down

A sender whose device is down should be silent. Only `Tick` looks at the operational
flag, and `Update` enables the sender of a device that goes down.

* `Obeys`: what a call should do; `Calm`: the calls that do it.
* `obeys_iff_calm`: one call of either kind, from any state.
* `silent_while_down_iff`: **a run obeys exactly as long as its calls are calm.**
-/

namespace Ndisc

open Endpoint

namespace Endpoint

variable {env : Env} {p : Endpoint}

/-! ## The frames of one call -/

/-- The frames a call hands to `sendto`, the latest one first. -/
def sentBy (env : Env) (p : Endpoint) (op : SenderOp) : List Sent :=
  Journal.since (p.step env op).io.log p.io.log

theorem sentBy_ne_nil {op : SenderOp} (h : p.io.log.length < (p.step env op).io.log.length) :
    p.sentBy env op ≠ [] :=
  fun hnone => absurd ((Journal.since_eq_nil_iff h.le).1 hnone) (Nat.not_le.2 h)

/-- No trigger makes a frame. -/
def Exhausted (p : Endpoint) : Prop := p.credits = 0 ∨ p.Silent

theorem canTransmit_of_armed (hready : p.ready = true) (h : ¬ p.Exhausted) :
    p.CanTransmit ∧ ¬ p.Silent := by
  have hcredits : p.credits ≠ 0 := fun h0 => h (Or.inl h0)
  have hloud : ¬ p.Silent := fun hs => h (Or.inr hs)
  have hmac : p.sender.deviceData.macAddress ≠ none := fun hnone => hloud (Or.inr hnone)
  exact ⟨⟨hready, Nat.pos_of_ne_zero hcredits, Option.isSome_iff_ne_none.2 hmac⟩, hloud⟩

/-- An exhausted sender sends nothing, and a try leaves it exhausted. -/
theorem tryTransmit_exhausted (env : Env) (h : p.Exhausted) :
    (p.tryTransmit env).io.log = p.io.log ∧ (p.tryTransmit env).Exhausted := by
  rcases tryTransmit_cases env p with ⟨-, heq⟩ | ⟨-, hs, heq⟩ | ⟨hcan, hloud, -⟩
  · rw [heq]
    exact ⟨rfl, h⟩
  · rw [heq]
    exact ⟨rfl, Or.inr hs⟩
  · rcases h with h0 | hs
    · exact absurd hcan.2.1 (by omega)
    · exact absurd hs hloud

/-- Any other sender with a trigger sends a frame, built from its device data. -/
theorem tryTransmit_armed (env : Env) (hready : p.ready = true) (h : ¬ p.Exhausted) :
    ∃ frame : Sent, frame.ttl = targetTtl ∧ frame.deviceData = p.sender.deviceData ∧
      (p.tryTransmit env).io.log = frame :: p.io.log := by
  obtain ⟨hcan, hloud⟩ := canTransmit_of_armed hready h
  rcases tryTransmit_cases env p with ⟨hno, -⟩ | ⟨-, hs, -⟩ | ⟨-, -, st, frame, httl, hdata, -, heq⟩
  · exact absurd hcan hno
  · exact absurd hs hloud
  · rw [heq]
    exact ⟨frame, httl, hdata, rfl⟩

/-- A try adds at most one frame. -/
theorem tryTransmit_log (env : Env) (p : Endpoint) :
    (p.tryTransmit env).io.log = p.io.log ∨
      ∃ frame : Sent, frame.deviceData = p.sender.deviceData ∧
        (p.tryTransmit env).io.log = frame :: p.io.log := by
  rcases tryTransmit_cases env p with ⟨-, heq⟩ | ⟨-, -, heq⟩ | ⟨-, -, st, frame, -, hdata, -, heq⟩
  · left; rw [heq]
  · left; rw [heq]; rfl
  · right
    rw [heq]
    exact ⟨frame, hdata, rfl⟩

theorem tryTransmit_log_le (env : Env) (p : Endpoint) :
    p.io.log.length ≤ (p.tryTransmit env).io.log.length := by
  rcases tryTransmit_log env p with h | ⟨frame, -, h⟩
  · rw [h]
  · rw [h, List.length_cons]; omega

theorem tryTransmit_log_lt (env : Env) (hready : p.ready = true) (h : ¬ p.Exhausted) :
    p.io.log.length < (p.tryTransmit env).io.log.length := by
  obtain ⟨frame, -, -, hlog⟩ := tryTransmit_armed env hready h
  rw [hlog, List.length_cons]; omega

/-- The second of two tries does nothing. -/
theorem tryTransmit_twice (env : Env) (p : Endpoint) :
    (p.tryTransmit env).tryTransmit env = p.tryTransmit env := by
  rcases tryTransmit_cases env p with ⟨-, heq⟩ | ⟨-, -, heq⟩ | ⟨-, -, st, frame, -, -, -, heq⟩
  · rw [heq, heq]
  all_goals
    rw [heq]
    exact tryTransmit_idle rfl

/-! ## What a call should do -/

/-- No frame with the normal TTL while the device is down, and no frame at all from an
`Update` that reports it down. -/
structure Obeys (env : Env) (p : Endpoint) (op : SenderOp) : Prop where
  operational : ∀ frame ∈ p.sentBy env op, frame.ttl = targetTtl →
    frame.deviceData.deviceOperational = true
  quiet : ∀ newDeviceData, op = .update newDeviceData → newDeviceData.deviceOperational = false →
    p.sentBy env op = []

/-- The calls that cannot go wrong: a tick, a shutdown; a trigger of a device that is up;
an `Update` that says so or changes nothing; any call where no trigger makes a frame. -/
def Calm (p : Endpoint) : SenderOp → Prop
  | .update newDeviceData =>
    newDeviceData.deviceOperational = true ∨ p.Unchanged newDeviceData ∨ p.Exhausted
  | .newNeighbour | .localChangeDetected => p.operational = true ∨ p.Exhausted
  | .tick _ | .endTransmission => True

theorem obeys_of_silence {op : SenderOp} (h : (p.step env op).io.log = p.io.log) :
    p.Obeys env op := by
  have hnone : p.sentBy env op = [] := Journal.since_eq h
  refine ⟨?_, fun _ _ _ => hnone⟩
  rw [hnone]
  intro frame hframe
  cases hframe

theorem obeys_of_frame {op : SenderOp} {frame : Sent}
    (h : (p.step env op).io.log = frame :: p.io.log)
    (hup : frame.deviceData.deviceOperational = true)
    (hop : ∀ newDeviceData, op = .update newDeviceData → newDeviceData.deviceOperational = true) :
    p.Obeys env op := by
  have hone : p.sentBy env op = [frame] := Journal.since_eq h
  constructor
  · rw [hone]
    intro frame' hframe' _
    rw [List.mem_singleton.1 hframe', hup]
  · intro newDeviceData heq hdown
    rw [hop newDeviceData heq] at hdown
    cases hdown

/-- Both triggers from outside. -/
theorem trigger_obeys_iff {op : SenderOp} {q : Endpoint} (hstep : p.step env op = q.tryTransmit env)
    (hready : q.ready = true) (hlog : q.io.log = p.io.log) (hexhausted : q.Exhausted ↔ p.Exhausted)
    (hdata : q.sender.deviceData = p.sender.deviceData)
    (hop : ∀ newDeviceData, op ≠ .update newDeviceData) :
    p.Obeys env op ↔ p.operational = true ∨ p.Exhausted := by
  by_cases h : p.Exhausted
  · refine iff_of_true (obeys_of_silence ?_) (Or.inr h)
    rw [hstep, (tryTransmit_exhausted env (hexhausted.2 h)).1, hlog]
  · obtain ⟨frame, httl, hframe, hsent⟩ :=
      tryTransmit_armed env hready fun h' => h (hexhausted.1 h')
    rw [← hstep, hlog] at hsent
    constructor
    · intro hobeys
      -- the frame has the normal TTL, so its flag must be set
      have hone : p.sentBy env op = [frame] := Journal.since_eq hsent
      have hmem : frame ∈ p.sentBy env op := by
        rw [hone]
        exact List.mem_singleton_self frame
      have hup := hobeys.operational frame hmem httl
      rw [hframe, hdata] at hup
      exact Or.inl hup
    · rintro (hup | h')
      · apply obeys_of_frame hsent
        · rw [hframe, hdata]; exact hup
        · exact fun newDeviceData heq => absurd heq (hop newDeviceData)
      · exact absurd h' h

/-- Only `Tick` looks at the flag, so only `Tick` never goes wrong. -/
theorem tick_obeys (env : Env) (p : Endpoint) (deltaSeconds : UInt64) :
    p.Obeys env (.tick deltaSeconds) := by
  have hop : ∀ newDeviceData, SenderOp.tick deltaSeconds = .update newDeviceData →
      newDeviceData.deviceOperational = true := fun _ h => by cases h
  by_cases hup : p.operational = true
  · -- the timer either runs on or expires; in both cases one try decides
    have htry : ∃ q : Endpoint, p.step env (.tick deltaSeconds) = q.tryTransmit env ∧
        q.sender.deviceData = p.sender.deviceData ∧ q.io.log = p.io.log := by
      rw [Endpoint.step, tick_eq, if_pos hup]
      rcases Nat.lt_or_ge deltaSeconds.toNat (p.refill deltaSeconds).timer with hearly | hlate
      · obtain ⟨t, -, heq⟩ := elapse_early env hearly
        rw [heq]
        exact ⟨_, rfl, rfl, rfl⟩
      · rw [elapse_late hlate, tryTransmit_twice]
        exact ⟨_, rfl, rfl, rfl⟩
    obtain ⟨q, hstep, hdata, hlog⟩ := htry
    rcases tryTransmit_log env q with hnone | ⟨frame, hframe, hone⟩
    · apply obeys_of_silence
      rw [hstep, hnone, hlog]
    · rw [← hstep, hlog] at hone
      apply obeys_of_frame hone _ hop
      rw [hframe, hdata]; exact hup
  · apply obeys_of_silence
    rw [Endpoint.step, tick_eq, if_neg hup]

theorem endTransmission_obeys (env : Env) (p : Endpoint) : p.Obeys env .endTransmission := by
  refine ⟨?_, fun _ h => by cases h⟩
  by_cases hs : p.Silent
  · have hlog : (p.step env .endTransmission).io.log = p.io.log := by
      rw [Endpoint.step, endTransmission, sendLldp_silent hs, ite_self]
    exact (obeys_of_silence hlog).operational
  · have hmac : p.sender.deviceData.macAddress.isSome = true :=
      Option.isSome_iff_ne_none.2 fun hnone => hs (Or.inr hnone)
    -- the frame that takes the device back has TTL 0
    obtain ⟨last, hlast, hlog⟩ : ∃ last : Sent, last.ttl = 0 ∧
        (p.step env .endTransmission).io.log = last :: p.io.log := by
      rw [Endpoint.step, endTransmission, if_pos hmac, sendLldp_logged hs]
      exact ⟨_, rfl, rfl⟩
    have hone : p.sentBy env .endTransmission = [last] := Journal.since_eq hlog
    intro frame hframe httl
    rw [hone, List.mem_singleton] at hframe
    rw [hframe, hlast] at httl
    exact absurd httl (by decide)

/-- An `Update` that reports the device down is quiet only where it has nothing to say,
or no frame to say it with. -/
theorem update_down_obeys_iff {newDeviceData : DeviceData}
    (hdown : newDeviceData.deviceOperational = false) (hne : ¬ p.Unchanged newDeviceData) :
    p.Obeys env (.update newDeviceData) ↔ p.Exhausted := by
  have hstep : p.step env (.update newDeviceData) =
      ((if p.operational = true then (p.renew newDeviceData).greet.countdown.arm.tryTransmit env
        else p.renew newDeviceData).setOperational false).arm.tryTransmit env := by
    rcases update_eq env newDeviceData p with ⟨hsame, -⟩ | ⟨-, heq⟩
    · exact absurd hsame hne
    · rw [Endpoint.step, heq, localChangeDetected_eq, newNeighbour_eq, hdown]
      simp only [and_true]
  by_cases hup : p.operational = true
  · -- the greeting goes out before the flag is copied, the change after it
    rw [if_pos hup] at hstep
    constructor
    · intro hobeys
      by_contra h
      have hfirst := tryTransmit_log_lt env (p := (p.renew newDeviceData).greet.countdown.arm)
        rfl h
      have hsecond := tryTransmit_log_le env
        (((p.renew newDeviceData).greet.countdown.arm.tryTransmit env).setOperational false).arm
      rw [← hstep] at hsecond
      have hsent : p.io.log.length < (p.step env (.update newDeviceData)).io.log.length :=
        hfirst.trans_le hsecond
      exact sentBy_ne_nil hsent (hobeys.quiet _ rfl hdown)
    · intro h
      obtain ⟨hlog, hstill⟩ := tryTransmit_exhausted env
        (p := (p.renew newDeviceData).greet.countdown.arm) h
      have hsecond := (tryTransmit_exhausted env (p := (((p.renew
        newDeviceData).greet.countdown.arm.tryTransmit env).setOperational false).arm) hstill).1
      rw [← hstep] at hsecond
      exact obeys_of_silence (hsecond.trans hlog)
  · rw [if_neg hup] at hstep
    constructor
    · intro hobeys
      by_contra h
      have hsent := tryTransmit_log_lt env
        (p := ((p.renew newDeviceData).setOperational false).arm) rfl h
      rw [← hstep] at hsent
      exact sentBy_ne_nil hsent (hobeys.quiet _ rfl hdown)
    · intro h
      have hsent := (tryTransmit_exhausted env
        (p := ((p.renew newDeviceData).setOperational false).arm) h).1
      rw [← hstep] at hsent
      exact obeys_of_silence hsent

/-- An `Update` that reports the device up writes the flag before it sends. -/
theorem update_up_obeys {newDeviceData : DeviceData}
    (hup : newDeviceData.deviceOperational = true) : p.Obeys env (.update newDeviceData) := by
  have hop : ∀ d, SenderOp.update newDeviceData = .update d → d.deviceOperational = true := by
    rintro d ⟨⟩
    exact hup
  rcases update_eq env newDeviceData p with ⟨-, heq⟩ | ⟨-, heq⟩
  · exact obeys_of_silence (congrArg (fun q : Endpoint => q.io.log) heq)
  · have hcond : ¬ (p.operational = true ∧ newDeviceData.deviceOperational = false) := by
      rw [hup]
      exact fun h => Bool.noConfusion h.2
    rw [if_neg hcond, localChangeDetected_eq] at heq
    -- the frame is built after the flag was written
    rcases tryTransmit_log env
      ((p.renew newDeviceData).setOperational newDeviceData.deviceOperational).arm with
      hnone | ⟨frame, hframe, hone⟩
    · rw [← heq] at hnone
      exact obeys_of_silence hnone
    · have hsent : (p.step env (.update newDeviceData)).io.log = frame :: p.io.log := by
        rw [Endpoint.step, heq, hone]
        rfl
      apply obeys_of_frame hsent _ hop
      rw [hframe]
      exact hup

/-- **One call obeys exactly if it is calm.** -/
theorem obeys_iff_calm (env : Env) (p : Endpoint) (op : SenderOp) : p.Obeys env op ↔ p.Calm op := by
  cases op with
  | update newDeviceData =>
    cases hflag : newDeviceData.deviceOperational with
    | true => exact iff_of_true (update_up_obeys hflag) (Or.inl hflag)
    | false =>
      have hcalm : p.Calm (.update newDeviceData) ↔ p.Unchanged newDeviceData ∨ p.Exhausted := by
        simp only [Calm, hflag, Bool.false_eq_true, false_or]
      rw [hcalm]
      by_cases hsame : p.Unchanged newDeviceData
      · refine iff_of_true (obeys_of_silence ?_) (Or.inl hsame)
        rcases update_eq env newDeviceData p with ⟨-, heq⟩ | ⟨hne, -⟩
        · rw [Endpoint.step, heq]
        · exact absurd hsame hne
      · rw [update_down_obeys_iff hflag hsame]
        exact (or_iff_right hsame).symm
  | tick deltaSeconds => exact iff_of_true (tick_obeys env p deltaSeconds) trivial
  | newNeighbour =>
    exact trigger_obeys_iff (q := p.greet.countdown.arm) (newNeighbour_eq env p) rfl rfl Iff.rfl rfl
      fun _ h => by cases h
  | localChangeDetected =>
    exact trigger_obeys_iff (q := p.arm) (localChangeDetected_eq env p) rfl rfl Iff.rfl rfl
      fun _ h => by cases h
  | endTransmission => exact iff_of_true (endTransmission_obeys env p) trivial

end Endpoint

/-- **A device that is down is silent exactly as long as the calls are calm.** For every
sender, built from any device, and any calls with any outcomes of their sends: the
constructor sends nothing, and every call obeys if and only if every call is calm. -/
theorem silent_while_down_iff (env : Env) (deviceData : DeviceData) (io : Io) (ops : List SenderOp) :
    (create env deviceData io).io.log = io.log ∧
      (Run.Along (Endpoint.step env) (Obeys env) (create env deviceData io) ops ↔
        Run.Along (Endpoint.step env) Calm (create env deviceData io) ops) := by
  refine ⟨congrArg Io.log (create_io env deviceData io), ?_, ?_⟩
  · exact Run.Along.mono fun p op => (obeys_iff_calm env p op).1
  · exact Run.Along.mono fun p op => (obeys_iff_calm env p op).2

/-- An interface that goes down after five seconds of work: the `Update` that says so sends
two frames, the second of them with the flag already cleared. -/
theorem update_down_sends :
    ¬ Run.Along (Endpoint.step quietEnv) (Obeys quietEnv)
      (create quietEnv ⟨some ⟨[2, 0, 0, 0, 0, 1], rfl⟩, none, none, none, true, 2⟩ .init)
      [.tick 1, .tick 1, .tick 1, .tick 1, .tick 1,
        .update ⟨some ⟨[2, 0, 0, 0, 0, 1], rfl⟩, none, none, none, false, 2⟩] := by
  rintro ⟨-, -, -, -, -, hobeys, -⟩
  have hnone := hobeys.quiet _ rfl rfl
  exact absurd (congrArg List.length hnone) (by decide +kernel)

end Ndisc
