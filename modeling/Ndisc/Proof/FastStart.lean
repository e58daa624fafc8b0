import Ndisc.Proof.Cadence
import Ndisc.Proof.Synchronise

/-!
# The fast start of a device that comes up

A burst is as long as the fast-forward counter: while it counts down, every tick of one
second sends a frame, and then the timer is set to the whole interval.

* `tick_late`, `tick_early`: what a tick of one second does to a sender at work.
* `run_armed`: how many frames the ticks after a trigger send.
* `fast_start_iff`: **when a device that comes up gets its `FAST_TRANSMIT_AMOUNT` frames,
  and when one that goes down starts a burst**. A new sender has lost two of the four to
  ticks that never came; an `Update` starts no burst for a device that comes up, but for
  one that goes down.
-/

namespace Ndisc

open Wire Endpoint

namespace Endpoint

variable {env : Env} {p : Endpoint}

/-! ## A tick of one second -/

/-- The timer was set by the last trigger. -/
def Armed (p : Endpoint) : Prop :=
  p.timer = if 0 < p.fast then 1 else messageTransmitInterval.toNat

theorem arm_armed (p : Endpoint) : p.arm.Armed := arm_timer p

theorem tryTransmit_armed_iff (env : Env) (p : Endpoint) : (p.tryTransmit env).Armed ↔ p.Armed := by
  unfold Armed
  rw [tryTransmit_timer, tryTransmit_fast]

/-- A sender at work with a trigger and a credit sends one frame. -/
theorem tryTransmit_frame_succ (env : Env) (h : p.Live) (hready : p.ready = true)
    (hcredits : 0 < p.credits) :
    (p.tryTransmit env).frames = p.frames + 1 ∧ (p.tryTransmit env).ready = false := by
  rcases tryTransmit_cases env p with ⟨hno, -⟩ | ⟨-, hs, -⟩ | ⟨-, -, st, frame, httl, -, -, heq⟩
  · exact absurd ⟨hready, hcredits, h.mac⟩ hno
  · exact absurd hs h.loud
  · rw [heq, logged_frames, if_pos httl]
    exact ⟨rfl, rfl⟩

/-- **The timer expires**: one frame, and the counter goes down. -/
theorem tick_late (henv : env.SendsSucceed) (h : p.Live) (ht : p.timer ≤ 1) :
    (p.tick env 1).Live ∧ (p.tick env 1).Armed ∧ (p.tick env 1).ready = false ∧
      (p.tick env 1).fast = p.fast - 1 ∧ (p.tick env 1).frames = p.frames + 1 := by
  have hb := refill_bounded h.bounded 1
  have hcredit := refill_one h.bounded
  -- what the expired timer leaves to the one try that finds a trigger
  set q := (countdown { p.refill 1 with sender.transmitTimer := 0 }).arm with hq
  have hlive : q.Live := ⟨h.operational, h.loud, h.mac,
    arm_bounded (countdown_bounded ⟨Nat.zero_le _, hb.credits, hb.fast⟩)⟩
  have htick : p.tick env 1 = q.tryTransmit env := by
    rw [tick_eq, if_pos h.operational,
      elapse_late (p := p.refill 1) (show (p.refill 1).timer ≤ (1 : UInt64).toNat from ht)]
    exact tryTransmit_idle (tryTransmit_ready hcredit h.mac)
  obtain ⟨hframes, hready⟩ := tryTransmit_frame_succ env hlive rfl hcredit
  have hfast : q.fast = p.fast - 1 := countdown_fast { p.refill 1 with sender.transmitTimer := 0 }
  rw [htick]
  refine ⟨tryTransmit_live henv hlive, (tryTransmit_armed_iff env q).2 (arm_armed _), hready, ?_,
    hframes⟩
  rw [tryTransmit_fast]
  exact hfast

/-- **The timer runs on**: a frame only for a trigger that was left. -/
theorem tick_early (henv : env.SendsSucceed) (h : p.Live) (ht : 1 < p.timer) :
    (p.tick env 1).Live ∧ (p.tick env 1).timer + 1 = p.timer ∧ (p.tick env 1).ready = false ∧
      (p.tick env 1).fast = p.fast ∧
      (p.tick env 1).frames = p.frames + if p.ready then 1 else 0 := by
  have hb := refill_bounded h.bounded 1
  have hcredit := refill_one h.bounded
  have htimer := h.bounded.timer
  obtain ⟨t, htval, heq⟩ := elapse_early env (p := p.refill 1)
    (show (1 : UInt64).toNat < (p.refill 1).timer from ht)
  have htp : t.toNat + 1 = p.timer := by
    have hval : t.toNat = p.timer - 1 := htval
    omega
  set q : Endpoint := { p.refill 1 with sender.transmitTimer := t } with hq
  have hlive : q.Live := ⟨h.operational, h.loud, h.mac,
    ⟨show t.toNat ≤ messageTransmitInterval.toNat by omega, hb.credits, hb.fast⟩⟩
  have htick : p.tick env 1 = q.tryTransmit env := by
    rw [tick_eq, if_pos h.operational, heq]
  rw [htick]
  refine ⟨tryTransmit_live henv hlive, ?_, tryTransmit_ready hcredit h.mac, ?_, ?_⟩
  · rw [tryTransmit_timer]
    exact htp
  · rw [tryTransmit_fast]
    rfl
  · cases hready : p.ready with
    | true => exact (tryTransmit_frame_succ env hlive hready hcredit).1
    | false =>
      rw [tryTransmit_idle (p := q) hready]
      rfl

/-! ## Ticks after a trigger -/

/-- So many ticks of one second. -/
def ticks (n : ℕ) : List SenderOp := List.replicate n (.tick 1)

theorem run_ticks_add (env : Env) (p : Endpoint) (m n : ℕ) :
    Run.run (step env) p (ticks (m + n)) =
      Run.run (step env) (Run.run (step env) p (ticks m)) (ticks n) := by
  unfold ticks
  rw [List.replicate_add, Run.run_append]

theorem run_ticks_succ (env : Env) (p : Endpoint) (n : ℕ) :
    Run.run (step env) p (ticks (n + 1)) = (Run.run (step env) p (ticks n)).tick env 1 := by
  rw [run_ticks_add]
  rfl

/-- **The burst**: a frame a tick, as long as the counter goes down. -/
theorem run_burst (henv : env.SendsSucceed) (h : p.Live) (harmed : p.Armed) (n : ℕ)
    (hn : n + 1 ≤ p.fast) :
    let q := Run.run (step env) p (ticks (n + 1))
    q.Live ∧ q.Armed ∧ q.ready = false ∧ q.fast + (n + 1) = p.fast ∧
      q.frames = p.frames + (n + 1) := by
  induction n with
  | zero =>
    have ht : p.timer ≤ 1 := by
      rw [harmed, if_pos (by omega)]
    obtain ⟨hlive, harmed', hready, hfast, hframes⟩ := tick_late henv h ht
    refine ⟨hlive, harmed', hready, ?_, hframes⟩
    show (p.tick env 1).fast + (0 + 1) = p.fast
    omega
  | succ n ih =>
    obtain ⟨hlive, harmed', -, hfast, hframes⟩ := ih (by omega)
    have ht : (Run.run (step env) p (ticks (n + 1))).timer ≤ 1 := by
      rw [harmed', if_pos (by omega)]
    obtain ⟨hlive', harmed'', hready', hfast', hframes'⟩ := tick_late henv hlive ht
    rw [run_ticks_succ]
    exact ⟨hlive', harmed'', hready', by omega, by omega⟩

/-- **The pause**: no frame until the timer expires. -/
theorem run_quiet (henv : env.SendsSucceed) (h : p.Live) (hready : p.ready = false) (n : ℕ)
    (hn : n < p.timer) :
    let q := Run.run (step env) p (ticks n)
    q.Live ∧ q.timer + n = p.timer ∧ q.ready = false ∧ q.frames = p.frames := by
  induction n with
  | zero => exact ⟨h, rfl, hready, rfl⟩
  | succ n ih =>
    obtain ⟨hlive, htimer, hready', hframes⟩ := ih (by omega)
    obtain ⟨hlive', htimer', hready'', -, hframes'⟩ := tick_early henv hlive (by omega)
    rw [hready', if_neg Bool.false_ne_true] at hframes'
    rw [run_ticks_succ]
    exact ⟨hlive', by omega, hready'', by omega⟩

/-- The frames that the next `FAST_TRANSMIT_AMOUNT` ticks send: one for each step of the
counter, or else one for a trigger that was left. -/
theorem run_armed (henv : env.SendsSucceed) (h : p.Live) (harmed : p.Armed) :
    (Run.run (step env) p (ticks fastTransmitAmount.toNat)).frames =
      p.frames + if 0 < p.fast then p.fast else if p.ready then 1 else 0 := by
  have hfast : p.fast ≤ 4 := h.bounded.fast
  have hinterval : messageTransmitInterval.toNat = 6 := by decide
  by_cases hpos : 0 < p.fast
  · -- the burst, and what is left of the ticks
    obtain ⟨hlive, harmed', hready, hcount, hframes⟩ := run_burst henv h harmed (p.fast - 1) (by omega)
    rw [show p.fast - 1 + 1 = p.fast by omega] at hlive harmed' hready hcount hframes
    have htimer : (Run.run (step env) p (ticks p.fast)).timer = 6 := by
      rw [harmed', if_neg (by omega), hinterval]
    obtain ⟨-, -, -, hrest⟩ := run_quiet henv hlive hready (4 - p.fast) (by omega)
    rw [if_pos hpos, show fastTransmitAmount.toNat = p.fast + (4 - p.fast) by
      show 4 = _; omega, run_ticks_add, hrest, hframes]
  · -- one tick for a trigger that was left, and three more
    have htimer : p.timer = 6 := by
      rw [harmed, if_neg hpos, hinterval]
    obtain ⟨hlive, ht, hready, -, hframes⟩ := tick_early henv h (by omega)
    obtain ⟨-, -, -, hrest⟩ := run_quiet henv hlive hready 3 (by omega)
    rw [if_neg hpos, show fastTransmitAmount.toNat = 1 + 3 from rfl, run_ticks_add, ← hframes]
    exact hrest

/-! ## The counter -/

/-- What a greeting makes of the counter: its own trigger takes one off. -/
theorem newNeighbour_fast (env : Env) (p : Endpoint) :
    (p.newNeighbour env).fast = if p.fast = 0 then 3 else p.fast - 1 := by
  have hfour : fastTransmitAmount.toNat = 4 := rfl
  rw [newNeighbour_eq, tryTransmit_fast]
  show p.greet.countdown.fast = _
  rw [countdown_fast, greet_fast, hfour]
  split <;> omega

/-- Only a device that goes down changes the counter by an `Update`. -/
theorem update_fast (env : Env) (newDeviceData : DeviceData) (p : Endpoint) :
    (p.update env newDeviceData).fast =
      if p.operational = true ∧ newDeviceData.deviceOperational = false then
        if p.fast = 0 then 3 else p.fast - 1
      else p.fast := by
  rcases update_eq env newDeviceData p with ⟨hsame, heq⟩ | ⟨-, heq⟩
  · have hflag : ¬ (p.operational = true ∧ newDeviceData.deviceOperational = false) := by
      rintro ⟨hup, hdown⟩
      have hboth := hsame.2.2.2
      rw [hup, hdown] at hboth
      cases hboth
    rw [heq, if_neg hflag]
  · have hkeep : ∀ q : Endpoint,
        (q.setOperational newDeviceData.deviceOperational).arm.fast = q.fast := fun _ => rfl
    have hrenew : (p.renew newDeviceData).fast = p.fast := rfl
    rw [heq, localChangeDetected_eq, tryTransmit_fast, hkeep]
    split
    · rw [newNeighbour_fast, hrenew]
    · rw [hrenew]

theorem elapse_fast_le (env : Env) (deltaSeconds : UInt64) (p : Endpoint) :
    (p.elapse env deltaSeconds).fast ≤ p.fast := by
  rcases Nat.lt_or_ge deltaSeconds.toNat p.timer with hearly | hlate
  · obtain ⟨t, -, heq⟩ := elapse_early env hearly
    rw [heq]
    exact le_rfl
  · have hcount := countdown_fast { p with sender.transmitTimer := 0 }
    rw [elapse_late hlate, tryTransmit_fast]
    exact (Nat.le_of_eq hcount).trans (Nat.sub_le _ _)

/-- The counter never stands at its full value between two calls. -/
theorem step_fast_lt (env : Env) (p : Endpoint) (op : SenderOp)
    (h : p.fast < fastTransmitAmount.toNat) : (p.step env op).fast < fastTransmitAmount.toNat := by
  have hfour : fastTransmitAmount.toNat = 4 := rfl
  rw [hfour] at h ⊢
  cases op with
  | update newDeviceData =>
    rw [Endpoint.step, update_fast]
    split
    · split <;> omega
    · exact h
  | tick deltaSeconds =>
    rw [Endpoint.step, tick_eq]
    split
    · rw [tryTransmit_fast]
      have helapse := elapse_fast_le env deltaSeconds (p.refill deltaSeconds)
      exact Nat.lt_of_le_of_lt helapse h
    · exact h
  | newNeighbour =>
    rw [Endpoint.step, newNeighbour_fast]
    split <;> omega
  | localChangeDetected =>
    rw [Endpoint.step, localChangeDetected_eq, tryTransmit_fast]
    exact h
  | endTransmission =>
    rw [Endpoint.step, (endTransmission_eq env p).2.1]
    exact h

/-- A new sender of a device that is up: its trigger waits for a credit. -/
theorem create_eq (env : Env) {deviceData : DeviceData} (io : Io)
    (hup : deviceData.deviceOperational = true) :
    create env deviceData io = ⟨⟨deviceData, 1, 0, 3, true⟩, io⟩ := by
  unfold create
  simp only [if_pos hup]
  rw [enableSender, newNeighbour_eq]
  rcases tryTransmit_cases env (greet ⟨⟨deviceData, 0, 0, 0, false⟩, io⟩).countdown.arm with
    ⟨-, heq⟩ | ⟨hcan, -⟩ | ⟨hcan, -⟩
  · rw [heq]
    simp [greet, countdown, arm, fastTransmitAmount, messageFastInterval]
  all_goals exact absurd hcan.2.1 (Nat.lt_irrefl 0)

/-- `CreateLldpStateMachine` greets it once more. -/
theorem create_newNeighbour (env : Env) {deviceData : DeviceData} (io : Io)
    (hup : deviceData.deviceOperational = true) :
    (create env deviceData io).newNeighbour env = ⟨⟨deviceData, 1, 0, 2, true⟩, io⟩ := by
  rw [create_eq env io hup, newNeighbour_eq]
  rcases tryTransmit_cases env (greet ⟨⟨deviceData, 1, 0, 3, true⟩, io⟩).countdown.arm with
    ⟨-, heq⟩ | ⟨hcan, -⟩ | ⟨hcan, -⟩
  · rw [heq]
    simp [greet, countdown, arm, messageFastInterval]
  all_goals exact absurd hcan.2.1 (Nat.lt_irrefl 0)

theorem after_fast_lt (env : Env) (deviceData : DeviceData) (io : Io) (ops : List SenderOp) :
    (after env deviceData io ops).fast < fastTransmitAmount.toNat := by
  refine Run.run_inv (fun p op hp => step_fast_lt env p op hp) ?_ ops
  cases hup : deviceData.deviceOperational with
  | true =>
    rw [create_eq env io hup]
    show 3 < 4
    omega
  | false =>
    unfold create
    simp only [hup, Bool.false_eq_true, if_false]
    exact Nat.zero_lt_succ 3

/-! ## Coming up -/

/-- An `Update` that raises the flag: a trigger, and what the counter was. -/
theorem update_up (henv : env.SendsSucceed) {up : DeviceData} (hloud : ¬ p.Silent)
    (hmac : p.sender.deviceData.macAddress.isSome) (hb : p.Bounded) (hdown : p.operational = false)
    (hup : up.deviceOperational = true) :
    (p.update env up).Live ∧ (p.update env up).Armed ∧ (p.update env up).fast = p.fast ∧
      (p.update env up).ready = decide (p.credits = 0) ∧
      (p.update env up).frames = p.frames + if 0 < p.credits then 1 else 0 := by
  set q := ((p.renew up).setOperational up.deviceOperational).arm with hq
  have hlive : q.Live := ⟨hup, hloud, hmac, arm_bounded ⟨hb.timer, hb.credits, hb.fast⟩⟩
  have hupdate : p.update env up = q.tryTransmit env := by
    rcases update_eq env up p with ⟨hsame, -⟩ | ⟨-, heq⟩
    · have hflag := hsame.2.2.2
      rw [hdown, hup] at hflag
      cases hflag
    · have hno : ¬ (p.operational = true ∧ up.deviceOperational = false) := by
        rw [hdown]
        exact fun h => Bool.false_ne_true h.1
      rw [heq, if_neg hno, localChangeDetected_eq]
  rw [hupdate]
  refine ⟨tryTransmit_live henv hlive, (tryTransmit_armed_iff env q).2 (arm_armed _),
    tryTransmit_fast env q, ?_⟩
  by_cases hcredits : 0 < p.credits
  · obtain ⟨hframes, hready⟩ := tryTransmit_frame_succ env hlive rfl hcredits
    rw [hready, hframes, if_pos hcredits]
    exact ⟨(decide_eq_false (by omega)).symm, rfl⟩
  · rw [(tryTransmit_cases env q).resolve_right (by
      rintro (⟨hcan, -⟩ | ⟨hcan, -⟩) <;> exact hcredits hcan.2.1) |>.2, if_neg hcredits]
    exact ⟨(decide_eq_true (by omega)).symm, rfl⟩

/-- The frames of an `Update` that raises the flag, and of the ticks after it. -/
theorem update_up_frames (henv : env.SendsSucceed) {up : DeviceData} (hloud : ¬ p.Silent)
    (hmac : p.sender.deviceData.macAddress.isSome) (hb : p.Bounded) (hdown : p.operational = false)
    (hup : up.deviceOperational = true) :
    (Run.run (step env) (p.update env up) (ticks fastTransmitAmount.toNat)).frames =
      (p.update env up).frames +
        if 0 < p.fast then p.fast else if p.credits = 0 then 1 else 0 := by
  obtain ⟨hlive, harmed, hfast, hready, -⟩ := update_up henv hloud hmac hb hdown hup
  rw [run_armed henv hlive harmed, hfast, hready]
  simp only [decide_eq_true_eq]

/-- The same, against the four frames that the counter stands for. -/
theorem update_up_frames_iff (henv : env.SendsSucceed) {up : DeviceData} (hloud : ¬ p.Silent)
    (hmac : p.sender.deviceData.macAddress.isSome) (hb : p.Bounded)
    (hlt : p.fast < fastTransmitAmount.toNat) (hdown : p.operational = false)
    (hup : up.deviceOperational = true) :
    (p.frames + fastTransmitAmount.toNat ≤
        (Run.run (step env) (p.update env up) (ticks fastTransmitAmount.toNat)).frames ↔
      fastTransmitAmount.toNat ≤ p.fast + if 0 < p.credits then 1 else 0) ∧
    (Run.run (step env) (p.update env up) (ticks fastTransmitAmount.toNat)).frames <
      (p.update env up).frames + fastTransmitAmount.toNat := by
  have hfour : fastTransmitAmount.toNat = 4 := rfl
  obtain ⟨-, -, -, -, hframes⟩ := update_up henv hloud hmac hb hdown hup
  have htotal := update_up_frames henv hloud hmac hb hdown hup
  rw [hfour] at hlt htotal ⊢
  rw [htotal, hframes]
  constructor
  · split_ifs <;> omega
  · split_ifs <;> omega

/-- The two frames of a sender that `UpdateState` has made. -/
theorem updateState_new_frames (env₀ : Env) (henv : env.SendsSucceed) {deviceData : DeviceData}
    {mac : Octets 6} (hmac : deviceData.macAddress = some mac)
    (hidx : deviceData.ifIndex.toNat ≤ intMax) {r : LldpRepository} {newState : Devices} {index : UInt32}
    (hold : r.currentState[index]? = none) (hnew : newState[index]? = some deviceData)
    (hup : deviceData.deviceOperational = true) :
    ∃ sender, (r.updateState env₀ newState).currentState[index]? = some sender ∧
      ∀ io, (Run.run (step env) ⟨sender, io⟩ (ticks fastTransmitAmount.toNat)).frames =
        frames ⟨sender, io⟩ + 2 := by
  obtain ⟨r', hcell, hrun, -⟩ := LldpRepository.device_turn env₀ r hnew
  obtain ⟨hmade, -⟩ := LldpRepository.updateDevice_new env₀ r' deviceData (hcell.trans hold)
  rw [create_newNeighbour env₀ r'.io hup] at hmade
  refine ⟨_, hrun.trans hmade, fun io => ?_⟩
  obtain ⟨hloud, hm⟩ := not_silent (q := ⟨⟨deviceData, 1, 0, 2, true⟩, io⟩)
    (show (deviceData.macAddress, deviceData.ifIndex) = _ by rw [hmac]) hidx
  have hb : Bounded ⟨⟨deviceData, 1, 0, 2, true⟩, io⟩ :=
    ⟨show (1 : UInt16).toNat ≤ messageTransmitInterval.toNat by decide, Nat.zero_le _,
      show (2 : UInt16).toNat ≤ fastTransmitAmount.toNat by decide⟩
  have hlive : Live ⟨⟨deviceData, 1, 0, 2, true⟩, io⟩ :=
    ⟨hup, hloud, Option.isSome_iff_exists.2 ⟨mac, hm⟩, hb⟩
  exact run_armed henv hlive rfl

end Endpoint

/-- **When the fast start gives its frames.** Take an interface with a MAC and an index
that is an `int`, and sends that succeed from the moment it comes up.

* A sender that `UpdateState` makes for a device that is up sends two frames in the next
  `FAST_TRANSMIT_AMOUNT` ticks, never all four.
* After any calls with any outcomes, an `Update` that raises the flag sends
  `FAST_TRANSMIT_AMOUNT` frames, itself and in the ticks after it, exactly if the counter
  and one for a credit that is left add up to it; the ticks alone never send as many.
* An `Update` that clears the flag does not raise the counter exactly if it was not zero. -/
theorem fast_start_iff (env₀ env : Env) (henv : env.SendsSucceed) (deviceData : DeviceData)
    (mac : Octets 6) (hmac : deviceData.macAddress = some mac)
    (hidx : deviceData.ifIndex.toNat ≤ intMax) :
    (∀ (r : LldpRepository) (newState : Devices) (index : UInt32),
      r.currentState[index]? = none → newState[index]? = some deviceData →
      deviceData.deviceOperational = true →
      ∃ sender, (r.updateState env₀ newState).currentState[index]? = some sender ∧
        ∀ io, (Run.run (step env) ⟨sender, io⟩ (ticks fastTransmitAmount.toNat)).frames =
          frames ⟨sender, io⟩ + 2) ∧
    ∀ (io : Io) (before : List SenderOp),
      (∀ up : DeviceData, (after env₀ deviceData io before).operational = false →
        up.deviceOperational = true →
        ((after env₀ deviceData io before).frames + fastTransmitAmount.toNat ≤
            (Run.run (step env) ((after env₀ deviceData io before).update env up)
              (ticks fastTransmitAmount.toNat)).frames ↔
          fastTransmitAmount.toNat ≤ (after env₀ deviceData io before).fast +
            if 0 < (after env₀ deviceData io before).credits then 1 else 0) ∧
        (Run.run (step env) ((after env₀ deviceData io before).update env up)
            (ticks fastTransmitAmount.toNat)).frames <
          ((after env₀ deviceData io before).update env up).frames + fastTransmitAmount.toNat) ∧
      ∀ (env' : Env) (down : DeviceData), (after env₀ deviceData io before).operational = true →
        down.deviceOperational = false →
        (((after env₀ deviceData io before).update env' down).fast ≤
            (after env₀ deviceData io before).fast ↔
          0 < (after env₀ deviceData io before).fast) := by
  refine ⟨?_, fun io before => ⟨?_, ?_⟩⟩
  · intro r newState index hold hnew hup
    exact updateState_new_frames env₀ henv hmac hidx hold hnew hup
  · intro up hdown hup
    have hid := run_identity env₀ deviceData io before
    rw [hmac] at hid
    obtain ⟨hloud, hm⟩ := not_silent hid hidx
    exact update_up_frames_iff henv hloud (Option.isSome_iff_exists.2 ⟨mac, hm⟩)
      (run_bounded env₀ deviceData io before) (after_fast_lt env₀ deviceData io before) hdown hup
  · intro env' down hop hdown
    rw [update_fast, if_pos ⟨hop, hdown⟩]
    split <;> omega

/-- The interface of the two runs below. -/
def flapping (up : Bool) : DeviceData :=
  ⟨some ⟨[2, 0, 0, 0, 0, 3], rfl⟩, none, none, none, up, 2⟩

/-- Going down has started a burst, and coming up again profits from it. -/
theorem fast_start_after_flap :
    (after quietEnv (flapping true) .init
        (ticks 8 ++ [.update (flapping false)])).frames + fastTransmitAmount.toNat ≤
      (Run.run (step quietEnv)
        ((after quietEnv (flapping true) .init
          (ticks 8 ++ [.update (flapping false)])).update quietEnv (flapping true))
        (ticks fastTransmitAmount.toNat)).frames := by
  have h := (fast_start_iff quietEnv quietEnv (fun _ => rfl)
    (flapping true) ⟨[2, 0, 0, 0, 0, 3], rfl⟩ rfl (by decide)).2 .init
    (ticks 8 ++ [.update (flapping false)])
  exact ((h.1 (flapping true) (by decide +kernel) rfl).1).2 (by decide +kernel)

/-- An interface that was down from the start comes up: one frame in four ticks. One that
has been up for eight seconds goes down: the counter goes from 0 to 3. -/
theorem fast_start_missed :
    ¬ ((after quietEnv (flapping false) .init []).frames +
          fastTransmitAmount.toNat ≤
        (Run.run (step quietEnv)
          ((after quietEnv (flapping false) .init []).update
            quietEnv (flapping true)) (ticks fastTransmitAmount.toNat)).frames) ∧
      ¬ ((after quietEnv (flapping true) .init
            (ticks 8 ++ [.update (flapping false)])).fast ≤
          (after quietEnv (flapping true) .init (ticks 8)).fast) := by
  decide +kernel

end Ndisc
