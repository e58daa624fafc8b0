import Ndisc.Proof.Reader

/-!
# When the devices are dumped again

One countdown decides when the links are requested: a request sets it to the period, and a
monitor packet or a failed dump to two seconds, whatever it was.

* `tick_schedule`, `step_schedule`: what each event does to the countdown.
* `Clocked`: the countdown beside the seconds since the last request.
* `resync_in_period`: **the period is kept as long as nothing sets the countdown to two
  seconds in the last second of it**, and `put_off` for ever if something does every second.
* `failures_retried_iff`: **a failure is retried promptly, unless it is that of a request
  that could not be sent**.
-/

namespace Ndisc

open Wire Netlink Run

/-! ## Events -/

/-- The calls of a repository: its ticks and packets, and what its readers call back. -/
inductive ScheduleEvent
  | tick (deltaSeconds : UInt64) (sent : Bool)
  | monitorPackets
  | linkPacket (packet : NetlinkPacketView) (sent : Bool)
  | addrPacket (packet : NetlinkPacketView)
  | deviceReaderFinished (sent : Bool)
  | deviceReaderErrored
  | ipReaderFinished
  | ipReaderErrored

def ScheduleEvent.seconds : ScheduleEvent → ℕ
  | .tick deltaSeconds _ => deltaSeconds.toNat
  | _ => 0

/-- A tick of at least one second that fits an `int`. -/
def ScheduleEvent.Regular : ScheduleEvent → Prop
  | .tick deltaSeconds _ => 1 ≤ deltaSeconds.toNat ∧ deltaSeconds.toNat < 2 ^ 31
  | _ => True

instance : DecidablePred ScheduleEvent.Regular
  | .tick deltaSeconds _ =>
    inferInstanceAs (Decidable (1 ≤ deltaSeconds.toNat ∧ deltaSeconds.toNat < 2 ^ 31))
  | .monitorPackets => inferInstanceAs (Decidable True)
  | .linkPacket _ _ => inferInstanceAs (Decidable True)
  | .addrPacket _ => inferInstanceAs (Decidable True)
  | .deviceReaderFinished _ => inferInstanceAs (Decidable True)
  | .deviceReaderErrored => inferInstanceAs (Decidable True)
  | .ipReaderFinished => inferInstanceAs (Decidable True)
  | .ipReaderErrored => inferInstanceAs (Decidable True)

theorem ScheduleEvent.tick_or (e : ScheduleEvent) :
    (∃ d sent, e = .tick d sent) ∨ ((∀ d sent, e ≠ .tick d sent) ∧ e.seconds = 0) := by
  cases e with
  | tick d sent => exact Or.inl ⟨d, sent, rfl⟩
  | _ => exact Or.inr ⟨fun _ _ => ScheduleEvent.noConfusion, rfl⟩

namespace DumpReader

/-- The outstanding request has less than the seconds of the tick left. -/
def TimesOut (r : DumpReader) (deltaSeconds : UInt64) : Prop :=
  r.dumpRequestSequenceNumber.isSome = true ∧ r.dumpReadTimeout ≤ narrowInt deltaSeconds

/-- It has more. -/
def Survives (r : DumpReader) (deltaSeconds : UInt64) : Prop :=
  r.dumpRequestSequenceNumber.isSome = true ∧ narrowInt deltaSeconds < r.dumpReadTimeout

/-- The packet is an error for the outstanding request. -/
def FailedBy (r : DumpReader) : NetlinkPacketView → Prop
  | .error e => r.dumpRequestSequenceNumber = some e.header.nlmsgSeq
  | _ => False

/-- The packet is the end of the outstanding dump. -/
def EndedBy (r : DumpReader) : NetlinkPacketView → Prop
  | .done d => r.dumpRequestSequenceNumber = some d.header.nlmsgSeq
  | _ => False

instance (r : DumpReader) (deltaSeconds : UInt64) : Decidable (r.TimesOut deltaSeconds) :=
  inferInstanceAs (Decidable (_ ∧ _))

instance (r : DumpReader) : DecidablePred r.FailedBy
  | .error e => inferInstanceAs (Decidable (r.dumpRequestSequenceNumber = some e.header.nlmsgSeq))
  | .done _ => inferInstanceAs (Decidable False)
  | .message _ => inferInstanceAs (Decidable False)
  | .link _ => inferInstanceAs (Decidable False)
  | .addr _ => inferInstanceAs (Decidable False)

theorem tick_fst_isSome (r : DumpReader) (deltaSeconds : UInt64) :
    (r.tick deltaSeconds).1.dumpRequestSequenceNumber.isSome = true ↔ r.Survives deltaSeconds := by
  unfold Survives
  rcases r.tick_cases deltaSeconds with ⟨hnone, heq⟩ | ⟨hsome, hlater, heq⟩ | ⟨-, hdue, heq⟩ <;> rw [heq]
  · rw [hnone]
    exact iff_of_false Bool.false_ne_true fun h => Bool.false_ne_true h.1
  · exact iff_of_true hsome ⟨hsome, hlater⟩
  · exact iff_of_false Bool.false_ne_true fun h => absurd h.2 (Int.not_lt.2 hdue)

theorem tick_snd (r : DumpReader) (deltaSeconds : UInt64) :
    (r.tick deltaSeconds).2 = true ↔ r.TimesOut deltaSeconds := by
  unfold TimesOut
  rcases r.tick_cases deltaSeconds with ⟨hnone, heq⟩ | ⟨-, hlater, heq⟩ | ⟨hsome, hdue, heq⟩ <;> rw [heq]
  · rw [hnone]
    exact iff_of_false Bool.false_ne_true fun h => Bool.false_ne_true h.1
  · exact iff_of_false Bool.false_ne_true fun h => absurd hlater (Int.not_lt.2 h.2)
  · exact iff_of_true rfl ⟨hsome, hdue⟩

instance (r : DumpReader) : DecidablePred r.EndedBy
  | .done d => inferInstanceAs (Decidable (r.dumpRequestSequenceNumber = some d.header.nlmsgSeq))
  | .error _ => inferInstanceAs (Decidable False)
  | .message _ => inferInstanceAs (Decidable False)
  | .link _ => inferInstanceAs (Decidable False)
  | .addr _ => inferInstanceAs (Decidable False)

/-- A packet that ends the dump, or fails it, closes the outstanding request. -/
theorem closes_of_endedBy {r : DumpReader} {packet : NetlinkPacketView} (h : r.EndedBy packet) :
    ∃ k : UInt32, r.dumpRequestSequenceNumber = some k ∧ Closes packet k.toNat := by
  cases packet with
  | done d => exact ⟨d.header.nlmsgSeq, h, UInt32.ofNat_toNat.symm, Or.inl ⟨d, rfl⟩⟩
  | error _ => exact h.elim
  | message _ => exact h.elim
  | link _ => exact h.elim
  | addr _ => exact h.elim

theorem closes_of_failedBy {r : DumpReader} {packet : NetlinkPacketView} (h : r.FailedBy packet) :
    ∃ k : UInt32, r.dumpRequestSequenceNumber = some k ∧ Closes packet k.toNat := by
  cases packet with
  | error e => exact ⟨e.header.nlmsgSeq, h, UInt32.ofNat_toNat.symm, Or.inr ⟨e, rfl⟩⟩
  | done _ => exact h.elim
  | message _ => exact h.elim
  | link _ => exact h.elim
  | addr _ => exact h.elim

/-- **What a packet does to a reader.** -/
theorem packet_outcome {View : Type} {getIf : NetlinkPacketView → Option View}
    (hget : ∀ packet view, getIf packet = some view → ∀ n, ¬ Closes packet n) (r : DumpReader)
    (packet : NetlinkPacketView) :
    (r.EndedBy packet ∧ ¬ r.FailedBy packet ∧
      r.handleNetlinkPacket getIf packet = (r.resetDumpAttempt, some .endOfDump)) ∨
    (¬ r.EndedBy packet ∧ r.FailedBy packet ∧
      r.handleNetlinkPacket getIf packet = (r.resetDumpAttempt, some .dumpErrored)) ∨
    (¬ r.EndedBy packet ∧ ¬ r.FailedBy packet ∧
      (r.handleNetlinkPacket getIf packet = (r, none) ∨
        ∃ view, r.handleNetlinkPacket getIf packet = (r, some (.update view)))) := by
  rcases handleNetlinkPacket_cases hget r packet with
    ⟨d, rfl, hseq, heq⟩ | ⟨e, rfl, hseq, heq⟩ | ⟨hopen, heq⟩
  · exact Or.inl ⟨hseq, id, heq⟩
  · exact Or.inr (Or.inl ⟨id, hseq, heq⟩)
  · -- a packet with the number of the request does not close it
    have hnone : ∀ k : UInt32, r.dumpRequestSequenceNumber = some k → ¬ Closes packet k.toNat := by
      intro k hk
      apply hopen
      rw [UInt32.ofNat_toNat]
      exact hk
    refine Or.inr (Or.inr ⟨?_, ?_, heq⟩)
    · intro hended
      obtain ⟨k, hk, hcloses⟩ := closes_of_endedBy hended
      exact hnone k hk hcloses
    · intro hfailed
      obtain ⟨k, hk, hcloses⟩ := closes_of_failedBy hfailed
      exact hnone k hk hcloses

end DumpReader

namespace DeviceRepository

def step (r : DeviceRepository) : ScheduleEvent → DeviceRepository
  | .tick deltaSeconds sent => r.tick deltaSeconds sent
  | .monitorPackets => r.handleMonitorPackets
  | .linkPacket packet sent => r.deviceReaderPacket packet sent
  | .addrPacket packet => (r.ipReaderPacket packet).1
  | .deviceReaderFinished sent => r.deviceReaderFinished sent
  | .deviceReaderErrored => r.deviceReaderErrored
  | .ipReaderFinished => r
  | .ipReaderErrored => r.ipReaderErrored

/-- What the event makes of the countdown before a tick counts it down. -/
def Expedites (r : DeviceRepository) : ScheduleEvent → Prop
  | .tick deltaSeconds _ =>
    r.deviceReader.TimesOut deltaSeconds ∨ r.ipReader.TimesOut deltaSeconds
  | .linkPacket packet _ => r.deviceReader.FailedBy packet
  | .addrPacket packet => r.ipReader.FailedBy packet
  | .monitorPackets | .deviceReaderErrored | .ipReaderErrored => True
  | .deviceReaderFinished _ | .ipReaderFinished => False

instance (r : DeviceRepository) : DecidablePred r.Expedites
  | .tick deltaSeconds _ => inferInstanceAs (Decidable
    (DumpReader.TimesOut r.deviceReader deltaSeconds ∨ DumpReader.TimesOut r.ipReader deltaSeconds))
  | .linkPacket packet _ => inferInstanceAs (Decidable (DumpReader.FailedBy r.deviceReader packet))
  | .addrPacket packet => inferInstanceAs (Decidable (DumpReader.FailedBy r.ipReader packet))
  | .monitorPackets => inferInstanceAs (Decidable True)
  | .deviceReaderErrored => inferInstanceAs (Decidable True)
  | .ipReaderErrored => inferInstanceAs (Decidable True)
  | .deviceReaderFinished _ => inferInstanceAs (Decidable False)
  | .ipReaderFinished => inferInstanceAs (Decidable False)

/-- The countdown that the event finds, or the two seconds it sets. -/
def countdown (r : DeviceRepository) (e : ScheduleEvent) : ℤ :=
  if r.Expedites e then 2 else r.syncTimeout

/-! ## What an event does to the countdown -/

/-- **A tick**: it counts down, or requests the links and starts the period. -/
theorem tick_schedule (r : DeviceRepository) (deltaSeconds : UInt64) (sent : Bool) :
    (r.tick deltaSeconds sent).ipReader = (DumpReader.tick r.ipReader deltaSeconds).1 ∧
    ((narrowInt deltaSeconds < r.countdown (.tick deltaSeconds sent) ∧
        (r.tick deltaSeconds sent).syncTimeout =
          r.countdown (.tick deltaSeconds sent) - narrowInt deltaSeconds ∧
        (r.tick deltaSeconds sent).deviceReader = (DumpReader.tick r.deviceReader deltaSeconds).1) ∨
      (r.countdown (.tick deltaSeconds sent) ≤ narrowInt deltaSeconds ∧
        (r.tick deltaSeconds sent).syncTimeout = 120 ∧
        (r.tick deltaSeconds sent).deviceReader =
          DumpReader.triggerDump 5 (DumpReader.tick r.deviceReader deltaSeconds).1 sent)) := by
  have hcount : r.countdown (.tick deltaSeconds sent) =
      if (DumpReader.tick r.deviceReader deltaSeconds).2 = true ∨
        (DumpReader.tick r.ipReader deltaSeconds).2 = true then 2 else r.syncTimeout := by
    unfold countdown Expedites
    simp only [DumpReader.tick_snd]
    congr
  rw [hcount]
  -- each reader has timed out or not
  obtain ⟨⟨device, b⟩, hdevice⟩ : ∃ x, DumpReader.tick r.deviceReader deltaSeconds = x := ⟨_, rfl⟩
  obtain ⟨⟨ip, b'⟩, hip⟩ : ∃ x, DumpReader.tick r.ipReader deltaSeconds = x := ⟨_, rfl⟩
  cases b <;> cases b' <;>
    simp only [tick, deviceReaderErrored, ipReaderErrored, scheduleExpediteResync, DeviceReader.tick,
      IpReader.tick, hdevice, hip, Bool.false_eq_true, or_self, or_true, true_or, if_true, if_false]
  all_goals
    split
    · rename_i hlater
      exact ⟨rfl, Or.inl ⟨hlater, rfl, rfl⟩⟩
    · rename_i hdue
      exact ⟨rfl, Or.inr ⟨Int.not_lt.1 hdue, rfl, rfl⟩⟩

theorem countdown_of_expedites {r : DeviceRepository} {e : ScheduleEvent} (h : r.Expedites e) :
    r.countdown e = 2 := if_pos h

theorem countdown_of_not_expedites {r : DeviceRepository} {e : ScheduleEvent} (h : ¬ r.Expedites e) :
    r.countdown e = r.syncTimeout := if_neg h

/-- **What a packet does to the repository through the device reader.** -/
theorem linkPacket_schedule (r : DeviceRepository) (packet : NetlinkPacketView) (sent : Bool) :
    (r.deviceReaderPacket packet sent).syncTimeout = r.countdown (.linkPacket packet sent) ∧
    (r.deviceReaderPacket packet sent).deviceReader =
      (DeviceReader.handleNetlinkPacket r.deviceReader packet).1 ∧
    (r.deviceReaderPacket packet sent).ipReader =
      if DumpReader.EndedBy r.deviceReader packet then DumpReader.triggerDump 5 r.ipReader sent
      else r.ipReader := by
  unfold deviceReaderPacket DeviceReader.handleNetlinkPacket
  rcases DumpReader.packet_outcome linkView_not_closes r.deviceReader packet with
    ⟨hended, hnot, heq⟩ | ⟨hnot, hfailed, heq⟩ | ⟨hnot, hnot', heq | ⟨view, heq⟩⟩
  · have hcount := countdown_of_not_expedites (e := .linkPacket packet sent) hnot
    rw [heq, hcount, if_pos hended]
    exact ⟨rfl, rfl, rfl⟩
  · have hcount := countdown_of_expedites (e := .linkPacket packet sent) hfailed
    rw [heq, hcount, if_neg hnot]
    exact ⟨rfl, rfl, rfl⟩
  all_goals
    have hcount := countdown_of_not_expedites (e := .linkPacket packet sent) hnot'
    rw [heq, hcount, if_neg hnot]
    exact ⟨rfl, rfl, rfl⟩

/-- **What a packet does to the repository through the address reader.** -/
theorem addrPacket_schedule (r : DeviceRepository) (packet : NetlinkPacketView) :
    (r.ipReaderPacket packet).1.syncTimeout = r.countdown (.addrPacket packet) ∧
    (r.ipReaderPacket packet).1.deviceReader = r.deviceReader ∧
    (r.ipReaderPacket packet).1.ipReader = (IpReader.handleNetlinkPacket r.ipReader packet).1 := by
  unfold ipReaderPacket IpReader.handleNetlinkPacket
  rcases DumpReader.packet_outcome addrView_not_closes r.ipReader packet with
    ⟨hended, hnot, heq⟩ | ⟨hnot, hfailed, heq⟩ | ⟨hnot, hnot', heq | ⟨view, heq⟩⟩
  · have hcount := countdown_of_not_expedites (e := .addrPacket packet) hnot
    rw [heq, hcount]
    exact ⟨rfl, rfl, rfl⟩
  · have hcount := countdown_of_expedites (e := .addrPacket packet) hfailed
    rw [heq, hcount]
    exact ⟨rfl, rfl, rfl⟩
  all_goals
    have hcount := countdown_of_not_expedites (e := .addrPacket packet) hnot'
    rw [heq, hcount]
    exact ⟨rfl, rfl, rfl⟩

theorem handleNetlinkPacket_sequenceNumber {View : Type} {getIf : NetlinkPacketView → Option View}
    (hget : ∀ packet view, getIf packet = some view → ∀ n, ¬ Closes packet n) (r : DumpReader)
    (packet : NetlinkPacketView) :
    (r.handleNetlinkPacket getIf packet).1.sequenceNumber = r.sequenceNumber := by
  rcases DumpReader.packet_outcome hget r packet with
    ⟨-, -, heq⟩ | ⟨-, -, heq⟩ | ⟨-, -, heq | ⟨view, heq⟩⟩ <;> rw [heq] <;> rfl

/-- **Any event but a tick** leaves the countdown that it finds or sets, and requests no links. -/
theorem step_schedule (r : DeviceRepository) (e : ScheduleEvent)
    (htick : ∀ d sent, e ≠ .tick d sent) :
    (r.step e).syncTimeout = r.countdown e ∧
      (r.step e).deviceReader.sequenceNumber = r.deviceReader.sequenceNumber := by
  cases e with
  | tick d sent => exact absurd rfl (htick d sent)
  | monitorPackets => exact ⟨rfl, rfl⟩
  | linkPacket packet sent =>
    obtain ⟨hsync, hreader, -⟩ := linkPacket_schedule r packet sent
    have hseq := handleNetlinkPacket_sequenceNumber linkView_not_closes r.deviceReader packet
    rw [step, hreader]
    exact ⟨hsync, hseq⟩
  | addrPacket packet =>
    obtain ⟨hsync, hreader, -⟩ := addrPacket_schedule r packet
    rw [step, hreader]
    exact ⟨hsync, rfl⟩
  | deviceReaderFinished sent => exact ⟨rfl, rfl⟩
  | deviceReaderErrored => exact ⟨rfl, rfl⟩
  | ipReaderFinished => exact ⟨rfl, rfl⟩
  | ipReaderErrored => exact ⟨rfl, rfl⟩

end DeviceRepository

/-! ## The period -/

/-- The repository, and the seconds ticked since its last link request or since the start. -/
structure Clocked where
  repository : DeviceRepository
  clock : ℕ

namespace Clocked

def start : Clocked := ⟨.create, 0⟩

/-- A link request shows in the sequence number of the device reader. -/
def Requests (s : Clocked) (e : ScheduleEvent) : Prop :=
  (s.repository.step e).deviceReader.sequenceNumber ≠ s.repository.deviceReader.sequenceNumber

instance (s : Clocked) (e : ScheduleEvent) : Decidable (s.Requests e) :=
  inferInstanceAs (Decidable (_ ≠ _))

def step (s : Clocked) (e : ScheduleEvent) : Clocked where
  repository := s.repository.step e
  clock := if s.Requests e then 0 else s.clock + e.seconds

/-- A tick that requests nothing comes within the period. -/
def InPeriod (s : Clocked) : ScheduleEvent → Prop
  | .tick d sent => ¬ s.Requests (.tick d sent) → (s.step (.tick d sent)).clock < 120
  | _ => True

instance (s : Clocked) : DecidablePred s.InPeriod
  | .tick d sent => inferInstanceAs (Decidable
    (¬ s.Requests (.tick d sent) → (s.step (.tick d sent)).clock < 120))
  | .monitorPackets => inferInstanceAs (Decidable True)
  | .linkPacket _ _ => inferInstanceAs (Decidable True)
  | .addrPacket _ => inferInstanceAs (Decidable True)
  | .deviceReaderFinished _ => inferInstanceAs (Decidable True)
  | .deviceReaderErrored => inferInstanceAs (Decidable True)
  | .ipReaderFinished => inferInstanceAs (Decidable True)
  | .ipReaderErrored => inferInstanceAs (Decidable True)

/-- Nothing sets the countdown to two seconds where less than that is left of the period; a
tick of two seconds or more requests the links all the same. -/
def Early (s : Clocked) (e : ScheduleEvent) : Prop :=
  s.repository.Expedites e → e.seconds ≤ 1 → s.clock + 2 ≤ 120

instance (s : Clocked) (e : ScheduleEvent) : Decidable (s.Early e) :=
  inferInstanceAs (Decidable (_ → _ → _))

/-- The countdown ends within the period. -/
def OnSchedule (s : Clocked) : Prop :=
  (s.clock : ℤ) + s.repository.syncTimeout ≤ 120 ∧ s.clock < 120

theorem start_onSchedule : start.OnSchedule := by
  unfold OnSchedule start
  decide

/-- **A tick**: it counts both clocks, or requests the links. -/
theorem tick_clock (s : Clocked) {d : UInt64} (sent : Bool) (hd : d.toNat < 2 ^ 31) :
    ((d.toNat : ℤ) < s.repository.countdown (.tick d sent) ∧ ¬ s.Requests (.tick d sent) ∧
      (s.step (.tick d sent)).repository.syncTimeout =
        s.repository.countdown (.tick d sent) - d.toNat ∧
      (s.step (.tick d sent)).clock = s.clock + d.toNat) ∨
    (s.repository.countdown (.tick d sent) ≤ d.toNat ∧ s.Requests (.tick d sent) ∧
      (s.step (.tick d sent)).repository.syncTimeout = 120 ∧ (s.step (.tick d sent)).clock = 0) := by
  have hnarrow := narrowInt_eq hd
  have hticked := tick_sequenceNumber s.repository.deviceReader d
  rcases (DeviceRepository.tick_schedule s.repository d sent).2 with
    ⟨hlater, hsync, hreader⟩ | ⟨hdue, hsync, hreader⟩
  · have hno : ¬ s.Requests (.tick d sent) := by
      unfold Requests
      rw [DeviceRepository.step, hreader]
      exact not_not.2 hticked
    rw [hnarrow] at hlater hsync
    exact Or.inl ⟨hlater, hno, hsync, if_neg hno⟩
  · have hyes : s.Requests (.tick d sent) := by
      unfold Requests
      rw [DeviceRepository.step, hreader]
      show (DumpReader.tick s.repository.deviceReader d).1.sequenceNumber + 1 ≠ _
      omega
    rw [hnarrow] at hdue
    exact Or.inr ⟨hdue, hyes, hsync, if_pos hyes⟩

/-- Any other event leaves the clock alone. -/
theorem step_clock (s : Clocked) (e : ScheduleEvent) (htick : ∀ d sent, e ≠ .tick d sent)
    (hzero : e.seconds = 0) :
    (s.step e).repository.syncTimeout = s.repository.countdown e ∧ (s.step e).clock = s.clock ∧
      s.InPeriod e := by
  obtain ⟨hsync, hseq⟩ := DeviceRepository.step_schedule s.repository e htick
  have hno : ¬ s.Requests e := not_not.2 hseq
  refine ⟨hsync, ?_, ?_⟩
  · unfold step
    simp only
    rw [if_neg hno, hzero, Nat.add_zero]
  · cases e with
    | tick d sent => exact absurd rfl (htick d sent)
    | _ => trivial

/-- **One event** that is early enough keeps to the schedule. -/
theorem step_onSchedule {s : Clocked} {e : ScheduleEvent} (h : s.OnSchedule)
    (he : e.Regular ∧ s.Early e) : (s.step e).OnSchedule ∧ s.InPeriod e := by
  obtain ⟨hsum, hclock⟩ := h
  obtain ⟨hregular, hearly⟩ := he
  rcases e.tick_or with ⟨d, sent, rfl⟩ | ⟨htick, hzero⟩
  · obtain ⟨hpos, hlt⟩ := hregular
    rcases tick_clock s sent hlt with ⟨hlater, hno, hsync, hticked⟩ | ⟨-, hyes, hsync, hreset⟩
    · have hsched : (s.step (.tick d sent)).OnSchedule := by
        unfold OnSchedule
        rw [hsync, hticked]
        by_cases hex : s.repository.Expedites (.tick d sent)
        · -- a reader timed out, and the tick has one second
          rw [DeviceRepository.countdown_of_expedites hex] at hlater ⊢
          have hleft := hearly hex (show d.toNat ≤ 1 by omega)
          push_cast
          omega
        · rw [DeviceRepository.countdown_of_not_expedites hex] at hlater ⊢
          push_cast
          omega
      exact ⟨hsched, fun _ => hsched.2⟩
    · refine ⟨?_, fun hno => absurd hyes hno⟩
      unfold OnSchedule
      rw [hsync, hreset]
      decide
  · obtain ⟨hsync, hsame, hin⟩ := step_clock s e htick hzero
    refine ⟨?_, hin⟩
    unfold OnSchedule
    rw [hsync, hsame]
    by_cases hex : s.repository.Expedites e
    · have hleft := hearly hex (by omega)
      rw [DeviceRepository.countdown_of_expedites hex]
      omega
    · rw [DeviceRepository.countdown_of_not_expedites hex]
      exact ⟨hsum, hclock⟩

/-- **An event that is too late**: it, or one more second, is past the period. -/
theorem step_late {s : Clocked} {e : ScheduleEvent} (he : e.Regular) (hlate : ¬ s.Early e) :
    ¬ Along step InPeriod s [e, .tick 1 true] := by
  have hone : (1 : UInt64).toNat = 1 := rfl
  unfold Early at hlate
  push Not at hlate
  obtain ⟨hex, hseconds, hclock⟩ := hlate
  have hcount := DeviceRepository.countdown_of_expedites hex
  rintro ⟨hin, hlast, -⟩
  rcases e.tick_or with ⟨d, sent, rfl⟩ | ⟨htick, hzero⟩
  · -- a tick of one second, in which a reader timed out
    have hd : d.toNat ≤ 1 := hseconds
    obtain ⟨hpos, hlt⟩ := he
    rcases tick_clock s sent hlt with ⟨-, hno, -, hticked⟩ | ⟨hdue, -⟩
    · have hless := hin hno
      omega
    · omega
  · obtain ⟨hsync, hsame, -⟩ := step_clock s e htick hzero
    rw [hcount] at hsync
    rcases tick_clock (s.step e) (d := 1) true (by decide) with ⟨-, hno, -, hticked⟩ | ⟨hdue, -⟩
    · have hless := hlast hno
      omega
    · -- two seconds are left whether a reader times out or not
      have htwo : (s.step e).repository.countdown (.tick 1 true) = 2 := by
        unfold DeviceRepository.countdown
        split
        · rfl
        · exact hsync
      omega

/-! ### Monitor packets every second -/

/-- A monitor packet at the start and after each of `n` seconds. -/
def stream (n : ℕ) : List ScheduleEvent :=
  .monitorPackets :: (List.replicate n [.tick 1 true, .monitorPackets]).flatten

theorem stream_succ (n : ℕ) : stream (n + 1) = stream n ++ [.tick 1 true, .monitorPackets] := by
  unfold stream
  rw [List.replicate_succ', List.flatten_append]
  simp

/-- **Nothing is ever requested**: the countdown stands at two, and the clock runs on. -/
theorem put_off (n : ℕ) :
    (run step start (stream n)).clock = n ∧
      (run step start (stream n)).repository = { DeviceRepository.create with syncTimeout := 2 } := by
  induction n with
  | zero => exact ⟨rfl, rfl⟩
  | succ n ih =>
    obtain ⟨hclock, hrepository⟩ := ih
    obtain ⟨s, hs⟩ : ∃ s, run step start (stream n) = s := ⟨_, rfl⟩
    rw [stream_succ, run_append, hs]
    rw [hs] at hclock hrepository
    obtain ⟨repository, clock⟩ := s
    subst hclock hrepository
    exact ⟨rfl, rfl⟩

end Clocked

/-- **When the period is kept.** In every run from construction, with ticks of at least one
second that fit an `int` and all other events in any order: if nothing sets the countdown to
two seconds where less than that is left of the period, every tick that requests nothing
comes less than 120 seconds after the last link request or the start. And that is needed:
after any event that does, it or one more second is past the period. -/
theorem resync_in_period (es : List ScheduleEvent) (hes : ∀ e ∈ es, e.Regular) :
    (Along Clocked.step Clocked.Early Clocked.start es → Along Clocked.step Clocked.InPeriod Clocked.start es) ∧
      ∀ e : ScheduleEvent, e.Regular → Along Clocked.step Clocked.Early Clocked.start es →
        ¬ (run Clocked.step Clocked.start es).Early e →
        ¬ Along Clocked.step Clocked.InPeriod Clocked.start (es ++ [e, .tick 1 true]) := by
  have hregular : Along Clocked.step (fun _ e => e.Regular) Clocked.start es :=
    along_of_forall Clocked.start hes
  constructor
  · intro hearly
    exact (hregular.and hearly).imp (fun _ _ hs he => Clocked.step_onSchedule hs he)
      Clocked.start_onSchedule
  · intro e he hearly hlate halong
    rw [along_append] at halong
    exact Clocked.step_late he hlate halong.2

/-- A dump that was not requested, 118 seconds, and a monitor packet just in time. -/
theorem resync_in_period_expedited :
    Along Clocked.step Clocked.InPeriod Clocked.start
      [.tick 1 false, .tick 118 true, .monitorPackets, .tick 1 true, .tick 1 true] :=
  (resync_in_period [.tick 1 false, .tick 118 true, .monitorPackets, .tick 1 true, .tick 1 true]
    (by decide)).1 (by decide +kernel)

/-- A monitor packet in each second of the first two minutes. -/
theorem resync_put_off :
    ¬ Along Clocked.step Clocked.InPeriod Clocked.start (Clocked.stream 119 ++ [.tick 1 true]) := by
  obtain ⟨hclock, hrepository⟩ := Clocked.put_off 119
  rw [along_append]
  rintro ⟨-, hlast, -⟩
  obtain ⟨s, hs⟩ : ∃ s, run Clocked.step Clocked.start (Clocked.stream 119) = s := ⟨_, rfl⟩
  rw [hs] at hclock hrepository hlast
  obtain ⟨repository, clock⟩ := s
  subst hclock hrepository
  exact absurd (hlast (by decide)) (by decide)

/-! ## Failures -/

namespace DeviceRepository

/-- Both readers' outstanding requests have some of their seconds left. -/
def Waiting (r : DeviceRepository) : Prop :=
  DumpReader.Waits r.deviceReader ∧ DumpReader.Waits r.ipReader

/-- **The ways in which a resync fails**: a dump times out, is answered by an error, or
cannot be requested. -/
def Fails (r : DeviceRepository) : ScheduleEvent → Prop
  | .tick deltaSeconds sent =>
    DumpReader.TimesOut r.deviceReader deltaSeconds ∨ DumpReader.TimesOut r.ipReader deltaSeconds ∨
      (r.countdown (.tick deltaSeconds sent) ≤ narrowInt deltaSeconds ∧ sent = false)
  | .linkPacket packet sent =>
    DumpReader.FailedBy r.deviceReader packet ∨
      (DumpReader.EndedBy r.deviceReader packet ∧ sent = false)
  | .addrPacket packet => DumpReader.FailedBy r.ipReader packet
  | .deviceReaderFinished sent => sent = false
  | .deviceReaderErrored | .ipReaderErrored => True
  | .monitorPackets | .ipReaderFinished => False

/-- The countdown is at most two seconds, or a dump is outstanding. -/
def Retries (r : DeviceRepository) : Prop :=
  r.syncTimeout ≤ 2 ∨ r.deviceReader.dumpRequestSequenceNumber.isSome = true ∨
    r.ipReader.dumpRequestSequenceNumber.isSome = true

/-- A request that cannot be sent does no harm: there is none, or an earlier request stays
outstanding, or, for the addresses, the countdown was at most two seconds before. -/
def Covered (r : DeviceRepository) : ScheduleEvent → Prop
  | .tick deltaSeconds sent =>
    (r.countdown (.tick deltaSeconds sent) ≤ narrowInt deltaSeconds ∧ sent = false) →
      DumpReader.Survives r.deviceReader deltaSeconds ∨ DumpReader.Survives r.ipReader deltaSeconds
  | .linkPacket packet sent =>
    (DumpReader.EndedBy r.deviceReader packet ∧ sent = false) →
      r.syncTimeout ≤ 2 ∨ r.ipReader.dumpRequestSequenceNumber.isSome = true
  | .deviceReaderFinished sent => sent = false → r.Retries
  | _ => True

/-- The readers keep waiting, whatever happens. -/
theorem step_waiting (r : DeviceRepository) (e : ScheduleEvent) (h : r.Waiting) :
    (r.step e).Waiting := by
  obtain ⟨hdevice, hip⟩ := h
  cases e with
  | tick deltaSeconds sent =>
    obtain ⟨hreader, hcases⟩ := tick_schedule r deltaSeconds sent
    unfold Waiting
    rw [step, hreader]
    refine ⟨?_, tick_waits hip deltaSeconds⟩
    rcases hcases with ⟨-, -, heq⟩ | ⟨-, -, heq⟩ <;> rw [heq]
    · exact tick_waits hdevice deltaSeconds
    · exact triggerDump_waits _ sent
  | linkPacket packet sent =>
    obtain ⟨-, hreader, hreader'⟩ := linkPacket_schedule r packet sent
    unfold Waiting
    rw [step, hreader, hreader']
    refine ⟨handleNetlinkPacket_waits linkView_not_closes hdevice packet, ?_⟩
    split
    · exact triggerDump_waits _ sent
    · exact hip
  | addrPacket packet =>
    obtain ⟨-, hreader, hreader'⟩ := addrPacket_schedule r packet
    unfold Waiting
    rw [step, hreader, hreader']
    exact ⟨hdevice, handleNetlinkPacket_waits addrView_not_closes hip packet⟩
  | deviceReaderFinished sent => exact ⟨hdevice, triggerDump_waits _ sent⟩
  | monitorPackets => exact ⟨hdevice, hip⟩
  | deviceReaderErrored => exact ⟨hdevice, hip⟩
  | ipReaderFinished => exact ⟨hdevice, hip⟩
  | ipReaderErrored => exact ⟨hdevice, hip⟩

/-- **A tick in which something fails.** -/
theorem tick_retries_iff {r : DeviceRepository} (h : r.Waiting) {deltaSeconds : UInt64} {sent : Bool}
    (hfails : r.Fails (.tick deltaSeconds sent)) :
    (r.tick deltaSeconds sent).Retries ↔ r.Covered (.tick deltaSeconds sent) := by
  have hdevice := DumpReader.tick_fst_isSome r.deviceReader deltaSeconds
  have hip := DumpReader.tick_fst_isSome r.ipReader deltaSeconds
  obtain ⟨hreader, hcases⟩ := tick_schedule r deltaSeconds sent
  unfold Retries Covered
  rw [hreader, hip]
  rcases hcases with ⟨hlater, hsync, -⟩ | ⟨hdue, hsync, heq⟩
  · -- a reader timed out, and what the tick leaves of the two seconds is not more than two
    refine iff_of_true (Or.inl ?_) fun hno => absurd hno.1 (Int.not_le.2 hlater)
    have htimes : r.Expedites (.tick deltaSeconds sent) := by
      rcases hfails with hd | hi | ⟨hdue, -⟩
      · exact Or.inl hd
      · exact Or.inr hi
      · exact absurd hdue (Int.not_le.2 hlater)
    have hpos : 1 ≤ narrowInt deltaSeconds := by
      rcases htimes with ⟨hsome, hle⟩ | ⟨hsome, hle⟩
      · exact (h.1 hsome).trans hle
      · exact (h.2 hsome).trans hle
    rw [hsync, countdown_of_expedites htimes]
    omega
  · rw [hsync, heq]
    cases sent with
    | true =>
      -- the links have been requested
      exact iff_of_true (Or.inr (Or.inl rfl)) fun hno => Bool.noConfusion hno.2
    | false =>
      have hheld : (DumpReader.triggerDump 5 (DumpReader.tick r.deviceReader deltaSeconds).1
          false).dumpRequestSequenceNumber.isSome = true ↔
            DumpReader.Survives r.deviceReader deltaSeconds := hdevice
      rw [hheld]
      constructor
      · rintro (hsmall | hold) _
        · exact absurd hsmall (by decide)
        · exact hold
      · exact fun hcovered => Or.inr (hcovered ⟨hdue, rfl⟩)

/-- **A link packet in which something fails.** -/
theorem linkPacket_retries_iff {r : DeviceRepository} {packet : NetlinkPacketView} {sent : Bool}
    (hfails : r.Fails (.linkPacket packet sent)) :
    (r.deviceReaderPacket packet sent).Retries ↔ r.Covered (.linkPacket packet sent) := by
  obtain ⟨hsync, hreader, hreader'⟩ := linkPacket_schedule r packet sent
  unfold Retries Covered
  rw [hsync, hreader, hreader', DeviceReader.handleNetlinkPacket]
  rcases DumpReader.packet_outcome linkView_not_closes r.deviceReader packet with
    ⟨hended, hnot, heq⟩ | ⟨hnot, hfailed, -⟩ | ⟨hnot, hnot', -⟩
  · -- the dump ended well, so it was the request of the addresses that failed
    obtain ⟨-, hunsent⟩ := hfails.resolve_left hnot
    have hcount := countdown_of_not_expedites (e := .linkPacket packet sent) hnot
    have hreset : ¬ r.deviceReader.resetDumpAttempt.dumpRequestSequenceNumber.isSome = true :=
      Bool.false_ne_true
    rw [heq, hcount, if_pos hended, hunsent]
    constructor
    · rintro (hsmall | hdevice | hip) _
      · exact Or.inl hsmall
      · exact absurd hdevice hreset
      · exact Or.inr hip
    · intro hcovered
      exact (hcovered ⟨hended, rfl⟩).imp id Or.inr
  · have hcount := countdown_of_expedites (e := .linkPacket packet sent) hfailed
    rw [hcount]
    exact iff_of_true (Or.inl le_rfl) fun h => absurd h.1 hnot
  · rcases hfails with hfailed | ⟨hended, -⟩
    · exact absurd hfailed hnot'
    · exact absurd hended hnot

/-- **One event in which something fails.** -/
theorem step_retries_iff {r : DeviceRepository} (h : r.Waiting) {e : ScheduleEvent}
    (hfails : r.Fails e) : (r.step e).Retries ↔ r.Covered e := by
  cases e with
  | tick deltaSeconds sent => exact tick_retries_iff h hfails
  | linkPacket packet sent => exact linkPacket_retries_iff hfails
  | addrPacket packet =>
    refine iff_of_true (Or.inl ?_) trivial
    rw [step, (addrPacket_schedule r packet).1,
      countdown_of_expedites (e := .addrPacket packet) hfails]
  | deviceReaderFinished sent =>
    have hunsent : sent = false := hfails
    rw [hunsent]
    exact ⟨fun hretries _ => hretries, fun hcovered => hcovered rfl⟩
  | deviceReaderErrored => exact iff_of_true (Or.inl le_rfl) trivial
  | ipReaderErrored => exact iff_of_true (Or.inl le_rfl) trivial
  | monitorPackets => exact hfails.elim
  | ipReaderFinished => exact hfails.elim

/-- A failure is retried. -/
def RetriesAfter (r : DeviceRepository) (e : ScheduleEvent) : Prop := r.Fails e → (r.step e).Retries

def CoveredAt (r : DeviceRepository) (e : ScheduleEvent) : Prop := r.Fails e → r.Covered e

end DeviceRepository

/-- **When a failed resync is retried promptly.** In every run from construction, with any
events in any order: every operation in which a dump times out, is answered by an error or
cannot be requested leaves the countdown at two seconds or less, or a dump outstanding, if
and only if for every request that could not be sent an earlier request stays outstanding
or, for the addresses, the countdown was at two seconds or less. -/
theorem failures_retried_iff (es : List ScheduleEvent) :
    Along DeviceRepository.step DeviceRepository.RetriesAfter .create es ↔
      Along DeviceRepository.step DeviceRepository.CoveredAt .create es := by
  have hstart : DeviceRepository.create.Waiting :=
    ⟨fun h => absurd h Bool.false_ne_true, fun h => absurd h Bool.false_ne_true⟩
  constructor
  · intro halong
    refine halong.imp (I := DeviceRepository.Waiting) ?_ hstart
    intro r e hr hretries
    exact ⟨DeviceRepository.step_waiting r e hr,
      fun hfails => (DeviceRepository.step_retries_iff hr hfails).1 (hretries hfails)⟩
  · intro halong
    refine halong.imp (I := DeviceRepository.Waiting) ?_ hstart
    intro r e hr hcovered
    exact ⟨DeviceRepository.step_waiting r e hr,
      fun hfails => (DeviceRepository.step_retries_iff hr hfails).2 (hcovered hfails)⟩

/-- The very first link request cannot be sent, and is tried again after two minutes. -/
theorem failure_not_retried :
    ¬ Along DeviceRepository.step DeviceRepository.RetriesAfter .create [.tick 1 false] := by
  rintro ⟨hretries, -⟩
  have hfails : DeviceRepository.create.Fails (.tick 1 false) :=
    Or.inr (Or.inr ⟨by decide, rfl⟩)
  rcases hretries hfails with hsmall | hdevice | hip
  · exact absurd hsmall (by decide)
  · exact absurd hdevice (by decide)
  · exact absurd hip (by decide)

end Ndisc
