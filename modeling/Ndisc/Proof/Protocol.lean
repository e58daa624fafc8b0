import Ndisc.Lib.Requests
import Ndisc.Spec.Device

/-!
# Synchronisations follow completed dumps

Two readers, each with its own numbers and timeout, are chained: the end of a link dump
requests an address dump, and the end of that one synchronises. Packets of old dumps may
arrive at any time.

* `linkHistory`, `addrHistory`: the requests, timeouts and packets of each reader.
* `Tracks`: **the number a reader holds is that of its outstanding request.**
* `deviceReaderPacket_cases`, `ipReaderPacket_cases`: what the two ends of a dump do.
* `synchronisations_follow_dumps`: every synchronisation, and every address request, is
  caused by the end of the outstanding dump.
-/

namespace Ndisc

open Wire Netlink Requests Run

/-! ## Histories -/

/-- The end of a dump, or an error, with the number of the request. -/
def Closes (packet : NetlinkPacketView) (n : ℕ) : Prop :=
  packet.header.nlmsgSeq = UInt32.ofNat n ∧ ((∃ d, packet = .done d) ∨ ∃ e, packet = .error e)

/-- What an event is to the device reader: a tick may time its dump out, and then make a
request, which shows in the sequence number. -/
def linkEntries (w : World) : DeviceEvent → List (Entry NetlinkPacketView)
  | .tick deltaSeconds sent =>
    let number := (w.step (.tick deltaSeconds sent)).repository.deviceReader.sequenceNumber
    (if (DeviceReader.tick w.repository.deviceReader deltaSeconds).2 then [.timeout] else []) ++
      if number = w.repository.deviceReader.sequenceNumber then [] else [.request number sent]
  | .linkPacket packet _ => [.packet packet]
  | _ => []

/-- What an event is to the address reader. -/
def addrEntries (w : World) : DeviceEvent → List (Entry NetlinkPacketView)
  | .tick deltaSeconds _ =>
    if (IpReader.tick w.repository.ipReader deltaSeconds).2 then [.timeout] else []
  | .linkPacket packet sent =>
    let number := (w.step (.linkPacket packet sent)).repository.ipReader.sequenceNumber
    if number = w.repository.ipReader.sequenceNumber then [] else [.request number sent]
  | .addrPacket packet => [.packet packet]
  | _ => []

def linkHistory (events : List DeviceEvent) : List (Entry NetlinkPacketView) :=
  observe World.step linkEntries .init events

def addrHistory (events : List DeviceEvent) : List (Entry NetlinkPacketView) :=
  observe World.step addrEntries .init events

/-- All dump requests, sent or not. -/
def dumpRequests (events : List DeviceEvent) : ℕ :=
  (numbers (linkHistory events)).length + (numbers (addrHistory events)).length

/-! ## One reader -/

/-- The number a reader holds is that of its outstanding request, and its numbers count up. -/
structure Tracks (r : DumpReader) (h : List (Entry NetlinkPacketView)) : Prop where
  outstanding : ∀ k, r.dumpRequestSequenceNumber = some k ↔
    ∃ n, Outstanding Closes h n ∧ UInt32.ofNat n = k
  increasing : (numbers h).Pairwise (· < ·)
  below : ∀ n ∈ numbers h, n ≤ r.sequenceNumber
  count : r.sequenceNumber = 1 + (numbers h).length

section

variable {r : DumpReader} {h : List (Entry NetlinkPacketView)}

theorem create_tracks : Tracks .create [] where
  outstanding k := by
    refine iff_of_false (fun hk => by cases hk) ?_
    rintro ⟨n, hn, -⟩
    exact not_outstanding_nil hn
  increasing := List.Pairwise.nil
  below _ hn := by cases hn
  count := rfl

/-- Nothing is left when the entry ends the outstanding request. -/
theorem reset_tracks (ht : Tracks r h) {e : Entry NetlinkPacketView} (hnum : numbers [e] = [])
    (hend : ∀ n, Outstanding Closes h n → Ends Closes n e) :
    Tracks r.resetDumpAttempt (h ++ [e]) := by
  have hnumbers : numbers (h ++ [e]) = numbers h := by rw [numbers_append, hnum, List.append_nil]
  refine ⟨fun k => iff_of_false (fun hk => by cases hk) ?_, hnumbers ▸ ht.increasing,
    hnumbers ▸ ht.below, hnumbers ▸ ht.count⟩
  rintro ⟨n, hn, -⟩
  rcases outstanding_concat.1 hn with rfl | ⟨hold, hnot⟩
  · cases hnum
  · exact hnot (hend n hold)

/-- An entry that neither requests nor ends anything. -/
theorem keep_tracks (ht : Tracks r h) {e : Entry NetlinkPacketView} (hnum : numbers [e] = [])
    (hkeep : ∀ n, Outstanding Closes h n → ¬ Ends Closes n e) : Tracks r (h ++ [e]) := by
  have hnumbers : numbers (h ++ [e]) = numbers h := by rw [numbers_append, hnum, List.append_nil]
  refine ⟨fun k => ?_, hnumbers ▸ ht.increasing, hnumbers ▸ ht.below, hnumbers ▸ ht.count⟩
  rw [ht.outstanding]
  refine exists_congr fun n => and_congr_left fun _ => ?_
  rw [outstanding_concat]
  constructor
  · exact fun hn => Or.inr ⟨hn, hkeep n hn⟩
  · rintro (rfl | ⟨hn, -⟩)
    · cases hnum
    · exact hn

/-- **A request**: it takes the next number, and is outstanding if it was sent. -/
theorem triggerDump_tracks (ht : Tracks r h) (timeout : ℤ) (sent : Bool) :
    Tracks (r.triggerDump timeout sent) (h ++ [.request (r.sequenceNumber + 1) sent]) := by
  have hnumbers : numbers (h ++ [.request (r.sequenceNumber + 1) sent]) =
      numbers h ++ [r.sequenceNumber + 1] := numbers_append _ _
  constructor
  · intro k
    cases sent with
    | true =>
      have hheld : (r.triggerDump timeout true).dumpRequestSequenceNumber = some k ↔
          UInt32.ofNat (r.sequenceNumber + 1) = k := Option.some_inj
      rw [hheld]
      constructor
      · exact fun hk => ⟨_, outstanding_concat.2 (Or.inl rfl), hk⟩
      · rintro ⟨n, hn, hk⟩
        rcases outstanding_concat.1 hn with heq | ⟨-, hnot⟩
        · rwa [(Entry.request.inj heq).1]
        · exact absurd rfl hnot
    | false =>
      -- a request that was not sent takes a number and leaves the old one outstanding
      have hheld : (r.triggerDump timeout false).dumpRequestSequenceNumber =
          r.dumpRequestSequenceNumber := rfl
      rw [hheld, ht.outstanding]
      refine exists_congr fun n => and_congr_left fun _ => ?_
      rw [outstanding_concat]
      constructor
      · exact fun hn => Or.inr ⟨hn, Bool.noConfusion⟩
      · rintro (heq | ⟨hn, -⟩)
        · cases (Entry.request.inj heq).2
        · exact hn
  · rw [hnumbers, List.pairwise_append]
    refine ⟨ht.increasing, List.pairwise_singleton _ _, ?_⟩
    intro n hn m hm
    rw [List.mem_singleton.1 hm]
    exact Nat.lt_succ_of_le (ht.below n hn)
  · intro n hn
    rw [hnumbers] at hn
    rcases List.mem_append.1 hn with hn | hn
    · exact Nat.le_succ_of_le (ht.below n hn)
    · exact Nat.le_of_eq (List.mem_singleton.1 hn)
  · have hcount := ht.count
    rw [hnumbers, List.length_append, List.length_singleton]
    exact congrArg (· + 1) hcount

/-- A request shows in the sequence number. -/
theorem requested_tracks (ht : Tracks r h) {q : DumpReader} {timeout : ℤ} {sent : Bool}
    (hq : q = r ∨ q = r.triggerDump timeout sent) :
    Tracks q (h ++ if q.sequenceNumber = r.sequenceNumber then []
      else [.request q.sequenceNumber sent]) := by
  rcases hq with rfl | rfl
  · rw [if_pos rfl, List.append_nil]
    exact ht
  · have hnext : (r.triggerDump timeout sent).sequenceNumber = r.sequenceNumber + 1 := rfl
    rw [if_neg (by rw [hnext]; exact Nat.succ_ne_self _), hnext]
    exact triggerDump_tracks ht timeout sent

/-- **A tick** keeps the request or times it out. -/
theorem tick_tracks (ht : Tracks r h) (deltaSeconds : UInt64) :
    Tracks (r.tick deltaSeconds).1
      (h ++ if (r.tick deltaSeconds).2 then [Entry.timeout] else []) := by
  unfold DumpReader.tick
  by_cases hsome : r.dumpRequestSequenceNumber.isSome = true
  · rw [if_pos hsome]
    by_cases hlater : r.dumpReadTimeout > narrowInt deltaSeconds
    · simp only [if_pos hlater, Bool.false_eq_true, if_false, List.append_nil]
      exact ⟨ht.outstanding, ht.increasing, ht.below, ht.count⟩
    · simp only [if_neg hlater, if_true]
      exact reset_tracks ht rfl fun _ _ => trivial
  · rw [if_neg hsome]
    simpa using ht

/-- **What a reader does with a packet**: it ends its request, or keeps it, and then the
packet does not close it. -/
theorem handleNetlinkPacket_cases {View : Type} {getIf : NetlinkPacketView → Option View}
    (hget : ∀ packet view, getIf packet = some view → ∀ n, ¬ Closes packet n) (r : DumpReader)
    (packet : NetlinkPacketView) :
    (∃ d, packet = .done d ∧ r.dumpRequestSequenceNumber = some packet.header.nlmsgSeq ∧
      r.handleNetlinkPacket getIf packet = (r.resetDumpAttempt, some .endOfDump)) ∨
    (∃ e, packet = .error e ∧ r.dumpRequestSequenceNumber = some packet.header.nlmsgSeq ∧
      r.handleNetlinkPacket getIf packet = (r.resetDumpAttempt, some .dumpErrored)) ∨
    ((∀ n, r.dumpRequestSequenceNumber = some (UInt32.ofNat n) → ¬ Closes packet n) ∧
      (r.handleNetlinkPacket getIf packet = (r, none) ∨
        ∃ view, r.handleNetlinkPacket getIf packet = (r, some (.update view)))) := by
  unfold DumpReader.handleNetlinkPacket
  by_cases hseq : r.dumpRequestSequenceNumber = some packet.header.nlmsgSeq
  · rw [if_pos hseq]
    cases hview : getIf packet with
    | some view => exact Or.inr (Or.inr ⟨fun n _ => hget packet view hview n, Or.inr ⟨view, rfl⟩⟩)
    | none =>
      cases packet with
      | done d => exact Or.inl ⟨d, rfl, hseq, rfl⟩
      | error e => exact Or.inr (Or.inl ⟨e, rfl, hseq, rfl⟩)
      | message _ | link _ | addr _ =>
        refine Or.inr (Or.inr ⟨?_, Or.inl rfl⟩)
        rintro n - ⟨-, ⟨d, hd⟩ | ⟨e, he⟩⟩
        · cases hd
        · cases he
  · rw [if_neg hseq]
    refine Or.inr (Or.inr ⟨?_, Or.inl rfl⟩)
    rintro n hn ⟨hclose, -⟩
    rw [hn, hclose] at hseq
    exact hseq rfl

theorem handleNetlinkPacket_tracks {View : Type} {getIf : NetlinkPacketView → Option View}
    (hget : ∀ packet view, getIf packet = some view → ∀ n, ¬ Closes packet n) (ht : Tracks r h)
    (packet : NetlinkPacketView) :
    Tracks (r.handleNetlinkPacket getIf packet).1 (h ++ [.packet packet]) := by
  have hheld : ∀ n, Outstanding Closes h n →
      r.dumpRequestSequenceNumber = some (UInt32.ofNat n) :=
    fun n hn => (ht.outstanding _).2 ⟨n, hn, rfl⟩
  -- the only outstanding request is the one whose number is held
  have hend : r.dumpRequestSequenceNumber = some packet.header.nlmsgSeq →
      ((∃ d, packet = .done d) ∨ ∃ e, packet = .error e) →
      ∀ n, Outstanding Closes h n → Ends Closes n (.packet packet) := by
    intro hseq hkind n hn
    rw [hheld n hn] at hseq
    exact ⟨(Option.some.inj hseq).symm, hkind⟩
  rcases handleNetlinkPacket_cases hget r packet with
    ⟨d, hd, hseq, heq⟩ | ⟨e, he, hseq, heq⟩ | ⟨hnot, heq⟩
  · rw [heq]
    exact reset_tracks ht rfl (hend hseq (Or.inl ⟨d, hd⟩))
  · rw [heq]
    exact reset_tracks ht rfl (hend hseq (Or.inr ⟨e, he⟩))
  · have hsame : (r.handleNetlinkPacket getIf packet).1 = r := by
      rcases heq with heq | ⟨view, heq⟩ <;> rw [heq]
    rw [hsame]
    exact keep_tracks ht rfl fun n hn => hnot n (hheld n hn)

end

theorem linkView_not_closes (packet : NetlinkPacketView) (view : LinkView)
    (h : DeviceReader.linkView packet = some view) (n : ℕ) : ¬ Closes packet n := by
  rintro ⟨-, ⟨d, rfl⟩ | ⟨e, rfl⟩⟩ <;> cases h

theorem addrView_not_closes (packet : NetlinkPacketView) (view : AddrView)
    (h : IpReader.addrView packet = some view) (n : ℕ) : ¬ Closes packet n := by
  rintro ⟨-, ⟨d, rfl⟩ | ⟨e, rfl⟩⟩ <;> cases h

/-! ## The two readers in a run -/

/-- A tick ticks both readers, and may make a link request after that. -/
theorem step_tick_readers (w : World) (deltaSeconds : UInt64) (sent : Bool) :
    (w.step (.tick deltaSeconds sent)).repository.ipReader =
        (IpReader.tick w.repository.ipReader deltaSeconds).1 ∧
      ((w.step (.tick deltaSeconds sent)).repository.deviceReader =
          (DeviceReader.tick w.repository.deviceReader deltaSeconds).1 ∨
        (w.step (.tick deltaSeconds sent)).repository.deviceReader = DeviceReader.triggerDump
          (DeviceReader.tick w.repository.deviceReader deltaSeconds).1 sent) := by
  unfold World.step DeviceRepository.tick DeviceRepository.deviceReaderErrored
    DeviceRepository.ipReaderErrored DeviceRepository.scheduleExpediteResync
  simp only
  split <;> split <;> split <;>
    first | exact ⟨rfl, Or.inl rfl⟩ | exact ⟨rfl, Or.inr rfl⟩

theorem tick_sequenceNumber (r : DumpReader) (deltaSeconds : UInt64) :
    (r.tick deltaSeconds).1.sequenceNumber = r.sequenceNumber := by
  unfold DumpReader.tick
  split
  · split <;> rfl
  · rfl

/-- **What a packet does to the repository through the device reader**: the end of the
outstanding dump requests the addresses. -/
theorem deviceReaderPacket_cases (r : DeviceRepository) (packet : NetlinkPacketView) (sent : Bool) :
    (r.deviceReaderPacket packet sent).deviceReader =
        (DeviceReader.handleNetlinkPacket r.deviceReader packet).1 ∧
      ((∃ d, packet = .done d ∧
          r.deviceReader.dumpRequestSequenceNumber = some packet.header.nlmsgSeq ∧
          (r.deviceReaderPacket packet sent).ipReader = IpReader.triggerDump r.ipReader sent) ∨
        (r.deviceReaderPacket packet sent).ipReader = r.ipReader) := by
  unfold DeviceRepository.deviceReaderPacket DeviceReader.handleNetlinkPacket
  rcases handleNetlinkPacket_cases linkView_not_closes r.deviceReader packet with
    ⟨d, hd, hseq, heq⟩ | ⟨e, -, -, heq⟩ | ⟨-, heq | ⟨view, heq⟩⟩
  · rw [heq]
    exact ⟨rfl, Or.inl ⟨d, hd, hseq, rfl⟩⟩
  all_goals
    rw [heq]
    exact ⟨rfl, Or.inr rfl⟩

/-- **What a packet does through the address reader**: the end of the outstanding dump
hands the devices over. -/
theorem ipReaderPacket_cases (r : DeviceRepository) (packet : NetlinkPacketView) :
    (r.ipReaderPacket packet).1.ipReader = (IpReader.handleNetlinkPacket r.ipReader packet).1 ∧
      (r.ipReaderPacket packet).1.deviceReader = r.deviceReader ∧
      ((∃ d, packet = .done d ∧
          r.ipReader.dumpRequestSequenceNumber = some packet.header.nlmsgSeq ∧
          (r.ipReaderPacket packet).1.ipReader.dumpRequestSequenceNumber = none ∧
          (r.ipReaderPacket packet).2 = r.ipReaderFinished) ∨
        (r.ipReaderPacket packet).2 = none) := by
  unfold DeviceRepository.ipReaderPacket IpReader.handleNetlinkPacket
  rcases handleNetlinkPacket_cases addrView_not_closes r.ipReader packet with
    ⟨d, hd, hseq, heq⟩ | ⟨e, -, -, heq⟩ | ⟨-, heq | ⟨view, heq⟩⟩
  · rw [heq]
    exact ⟨rfl, rfl, Or.inl ⟨d, hd, hseq, rfl, rfl⟩⟩
  all_goals
    rw [heq]
    exact ⟨rfl, rfl, Or.inr rfl⟩

/-- **The device reader tracks its history.** -/
theorem step_linkTracks (w : World) (event : DeviceEvent) (past : List (Entry NetlinkPacketView))
    (h : Tracks w.repository.deviceReader past) :
    Tracks (w.step event).repository.deviceReader (past ++ linkEntries w event) := by
  cases event with
  | tick deltaSeconds sent =>
    -- the reader ticks first, and the request comes after it
    have ht := tick_tracks h deltaSeconds
    have hrequest := requested_tracks ht (step_tick_readers w deltaSeconds sent).2
    rw [tick_sequenceNumber, List.append_assoc] at hrequest
    exact hrequest
  | linkPacket packet sent =>
    have hreader := (deviceReaderPacket_cases w.repository packet sent).1
    rw [World.step, hreader]
    exact handleNetlinkPacket_tracks linkView_not_closes h packet
  | addrPacket packet =>
    have hreader := (ipReaderPacket_cases w.repository packet).2.1
    unfold World.step linkEntries
    rw [hreader, List.append_nil]
    exact h
  | monitorPacket packet => exact (List.append_nil past).symm ▸ h
  | setSyncCallback => exact (List.append_nil past).symm ▸ h
  | clearSyncCallback => exact (List.append_nil past).symm ▸ h

/-- **The address reader tracks its history.** -/
theorem step_addrTracks (w : World) (event : DeviceEvent) (past : List (Entry NetlinkPacketView))
    (h : Tracks w.repository.ipReader past) :
    Tracks (w.step event).repository.ipReader (past ++ addrEntries w event) := by
  cases event with
  | tick deltaSeconds sent =>
    rw [(step_tick_readers w deltaSeconds sent).1]
    exact tick_tracks h deltaSeconds
  | linkPacket packet sent =>
    have hreader : (w.step (.linkPacket packet sent)).repository.ipReader = w.repository.ipReader ∨
        (w.step (.linkPacket packet sent)).repository.ipReader =
          DumpReader.triggerDump IpReader.dumpReadTimeout w.repository.ipReader sent := by
      rcases (deviceReaderPacket_cases w.repository packet sent).2 with ⟨-, -, -, heq⟩ | heq
      · exact Or.inr heq
      · exact Or.inl heq
    exact requested_tracks h hreader
  | addrPacket packet =>
    have hreader := (ipReaderPacket_cases w.repository packet).1
    unfold World.step addrEntries
    rw [hreader]
    exact handleNetlinkPacket_tracks addrView_not_closes h packet
  | monitorPacket packet => exact (List.append_nil past).symm ▸ h
  | setSyncCallback => exact (List.append_nil past).symm ▸ h
  | clearSyncCallback => exact (List.append_nil past).symm ▸ h

theorem linkHistory_tracks (events : List DeviceEvent) :
    Tracks (run World.step .init events).repository.deviceReader (linkHistory events) :=
  observe_inv (I := fun (w : World) past => Tracks w.repository.deviceReader past) step_linkTracks
    create_tracks events

theorem addrHistory_tracks (events : List DeviceEvent) :
    Tracks (run World.step .init events).repository.ipReader (addrHistory events) :=
  observe_inv (I := fun (w : World) past => Tracks w.repository.ipReader past) step_addrTracks
    create_tracks events

/-! ## The numbers do not wrap -/

section

variable {before after events : List DeviceEvent} {n : ℕ}

theorem linkHistory_append (before after : List DeviceEvent) :
    ∃ more, linkHistory (before ++ after) = linkHistory before ++ more :=
  ⟨_, observe_append linkEntries .init before after⟩

theorem addrHistory_append (before after : List DeviceEvent) :
    ∃ more, addrHistory (before ++ after) = addrHistory before ++ more :=
  ⟨_, observe_append addrEntries .init before after⟩

theorem dumpRequests_append (before after : List DeviceEvent) :
    dumpRequests before ≤ dumpRequests (before ++ after) := by
  obtain ⟨linkMore, hlink⟩ := linkHistory_append before after
  obtain ⟨addrMore, haddr⟩ := addrHistory_append before after
  unfold dumpRequests
  rw [hlink, haddr, numbers_append, numbers_append, List.length_append, List.length_append]
  omega

/-- The number of a packet is that of the outstanding request, not one that it wrapped to. -/
theorem outstanding_toNat {r : DumpReader} {h : List (Entry NetlinkPacketView)} (ht : Tracks r h)
    (hfew : (numbers h).length < 2 ^ 31) {k : UInt32} (hk : r.dumpRequestSequenceNumber = some k) :
    Outstanding Closes h k.toNat := by
  obtain ⟨n, hn, rfl⟩ := (ht.outstanding k).1 hk
  have hbelow := ht.below n hn.mem_numbers
  have hcount := ht.count
  -- the numbers count up to the length of the history, which fits
  have hsmall : n < 2 ^ 32 := by omega
  rwa [UInt32.toNat_ofNat_of_lt' hsmall]

theorem linkHistory_outstanding (hfew : dumpRequests events < 2 ^ 31) {k : UInt32}
    (hk : (run World.step .init events).repository.deviceReader.dumpRequestSequenceNumber = some k) :
    Outstanding Closes (linkHistory events) k.toNat := by
  have hless : (numbers (linkHistory events)).length < 2 ^ 31 := by
    unfold dumpRequests at hfew
    omega
  exact outstanding_toNat (linkHistory_tracks events) hless hk

theorem addrHistory_outstanding (hfew : dumpRequests events < 2 ^ 31) {k : UInt32}
    (hk : (run World.step .init events).repository.ipReader.dumpRequestSequenceNumber = some k) :
    Outstanding Closes (addrHistory events) k.toNat := by
  have hless : (numbers (addrHistory events)).length < 2 ^ 31 := by
    unfold dumpRequests at hfew
    omega
  exact outstanding_toNat (addrHistory_tracks events) hless hk

/-! ## Causes -/

/-- The end of the outstanding link dump, with the outcome of the address request it makes. -/
structure EndsLinkDump (before : List DeviceEvent) (event : DeviceEvent) (number : ℕ)
    (sent : Bool) : Prop where
  packet : ∃ done : DoneView, event = .linkPacket (.done done) sent ∧
    done.header.nlmsgSeq.toNat = number
  outstanding : Outstanding Closes (linkHistory before) number

/-- The end of the outstanding address dump. -/
structure EndsAddrDump (before : List DeviceEvent) (event : DeviceEvent) (number : ℕ) : Prop where
  packet : ∃ done : DoneView, event = .addrPacket (.done done) ∧
    done.header.nlmsgSeq.toNat = number
  outstanding : Outstanding Closes (addrHistory before) number

/-- **An address request is made only at the end of the outstanding link dump.** -/
theorem addrRequest_cause (hfew : dumpRequests before < 2 ^ 31) {event : DeviceEvent} {sent : Bool}
    (h : .request n sent ∈ addrEntries (run World.step .init before) event) :
    ∃ number, EndsLinkDump before event number sent := by
  set w := run World.step .init before with hw
  cases event with
  | tick deltaSeconds sent' =>
    simp only [addrEntries] at h
    split at h
    · cases List.mem_singleton.1 h
    · cases h
  | linkPacket packet sent' =>
    rcases (deviceReaderPacket_cases w.repository packet sent').2 with ⟨d, rfl, hseq, -⟩ | hsame
    · have hsent : sent = sent' := by
        unfold addrEntries at h
        simp only at h
        split at h
        · cases h
        · rw [List.mem_singleton] at h
          exact (Entry.request.inj h).2
      rw [hsent]
      exact ⟨_, ⟨d, rfl, rfl⟩, linkHistory_outstanding hfew hseq⟩
    · unfold addrEntries World.step at h
      simp only [hsame, if_true] at h
      cases h
  | addrPacket packet => simp [addrEntries] at h
  | monitorPacket packet => cases h
  | setSyncCallback => cases h
  | clearSyncCallback => cases h

/-- **A synchronisation is caused only by the end of the outstanding address dump**, and
leaves none outstanding. -/
theorem synchronized_cause (hfew : dumpRequests before < 2 ^ 31) {event : DeviceEvent}
    (h : ((run World.step .init before).step event).synchronized ≠
      (run World.step .init before).synchronized) :
    (∃ number, EndsAddrDump before event number) ∧
      ((run World.step .init before).step event).synchronized =
        (run World.step .init before).synchronized ++
          [(run World.step .init before).repository.devices] := by
  set w := run World.step .init before with hw
  cases event with
  | addrPacket packet =>
    rcases (ipReaderPacket_cases w.repository packet).2.2 with ⟨d, rfl, hseq, -, hhanded⟩ | hnone
    · refine ⟨⟨_, ⟨d, rfl, rfl⟩, addrHistory_outstanding hfew hseq⟩, ?_⟩
      have hstep : (w.step (.addrPacket (.done d))).synchronized =
          w.synchronized ++ w.repository.ipReaderFinished.toList := by
        rw [← hhanded]; rfl
      rw [hstep] at h ⊢
      unfold DeviceRepository.ipReaderFinished at h ⊢
      split at h
      · rename_i hset; rw [if_pos hset]; rfl
      · exact absurd (List.append_nil _) h
    · have hstep : (w.step (.addrPacket packet)).synchronized = w.synchronized := by
        unfold World.step
        simp only [hnone, Option.toList_none, List.append_nil]
      exact absurd hstep h
  | _ => exact absurd rfl h

/-- The request of an outstanding address dump was made at the end of a link dump. -/
theorem addrDump_cause (hfew : dumpRequests before < 2 ^ 31)
    (h : Outstanding Closes (addrHistory before) n) :
    ∃ earlier event later number, before = earlier ++ event :: later ∧
      EndsLinkDump earlier event number true ∧
      .request n true ∈ addrEntries (run World.step .init earlier) event := by
  -- an outstanding request is one of the history
  have hmem : .request n true ∈ addrHistory before := by
    obtain ⟨past, later, heq, -⟩ := h
    rw [heq]
    exact List.mem_append_right _ List.mem_cons_self
  obtain ⟨earlier, event, later, rfl, hentry⟩ := mem_observe hmem
  have hless := (dumpRequests_append earlier (event :: later)).trans_lt hfew
  obtain ⟨number, hcause⟩ := addrRequest_cause hless hentry
  exact ⟨earlier, event, later, number, rfl, hcause, hentry⟩

/-! ## Counting -/

/-- Request `n` was answered by a link dump that came to its end. -/
def CompletedLink (events : List DeviceEvent) (n : ℕ) : Prop :=
  ∃ before event after sent, events = before ++ event :: after ∧ EndsLinkDump before event n sent

theorem CompletedLink.append (h : CompletedLink before n) (more : List DeviceEvent) :
    CompletedLink (before ++ more) n := by
  obtain ⟨earlier, event, later, sent, rfl, hends⟩ := h
  exact ⟨earlier, event, later ++ more, sent, by rw [List.append_assoc, List.cons_append], hends⟩

theorem CompletedLink.ended (h : CompletedLink events n) : Ended Closes (linkHistory events) n := by
  obtain ⟨earlier, event, later, sent, rfl, ⟨done, rfl, hnumber⟩, hout⟩ := h
  have hcloses : Ends Closes n (.packet (.done done)) := by
    refine ⟨?_, Or.inl ⟨done, rfl⟩⟩
    rw [← hnumber, UInt32.ofNat_toNat]
    rfl
  have hstep : linkHistory (earlier ++ [.linkPacket (.done done) sent]) =
      linkHistory earlier ++ [.packet (.done done)] := observe_concat _ _ _ _
  obtain ⟨more, hmore⟩ := linkHistory_append (earlier ++ [.linkPacket (.done done) sent]) later
  rw [List.append_cons, hmore, hstep]
  exact (Ended.concat hout hcloses).append more

/-- An address dump that can still synchronise. -/
def pending (w : World) : ℕ := if w.repository.ipReader.dumpRequestSequenceNumber.isSome then 1 else 0

theorem pending_le (w : World) : pending w ≤ 1 := by
  unfold pending
  split <;> omega

theorem pending_eq_zero {w : World} (h : w.repository.ipReader.dumpRequestSequenceNumber = none) :
    pending w = 0 := by
  unfold pending
  rw [h]
  rfl

theorem pending_eq_one {w : World} {k : UInt32}
    (h : w.repository.ipReader.dumpRequestSequenceNumber = some k) : pending w = 1 := by
  unfold pending
  rw [h]
  rfl

/-- A reader that keeps its request or gives it up. -/
theorem pending_mono {w w' : World} (h : w'.repository.ipReader.dumpRequestSequenceNumber =
    w.repository.ipReader.dumpRequestSequenceNumber ∨
      w'.repository.ipReader.dumpRequestSequenceNumber = none) : pending w' ≤ pending w := by
  rcases h with heq | hnone
  · unfold pending
    rw [heq]
  · rw [pending_eq_zero hnone]
    exact Nat.zero_le _

theorem tick_keeps_or_resets (r : DumpReader) (deltaSeconds : UInt64) :
    (r.tick deltaSeconds).1.dumpRequestSequenceNumber = r.dumpRequestSequenceNumber ∨
      (r.tick deltaSeconds).1.dumpRequestSequenceNumber = none := by
  unfold DumpReader.tick
  split
  · split
    · exact Or.inl rfl
    · exact Or.inr rfl
  · exact Or.inl rfl

/-- A packet of the address reader makes nothing pending. -/
theorem ipReaderPacket_pending (w : World) (packet : NetlinkPacketView) :
    pending (w.step (.addrPacket packet)) ≤ pending w := by
  have hstep : (w.step (.addrPacket packet)).repository.ipReader =
      (w.repository.ipReader.handleNetlinkPacket packet).1 :=
    (ipReaderPacket_cases w.repository packet).1
  apply pending_mono
  rw [hstep]
  unfold IpReader.handleNetlinkPacket
  rcases handleNetlinkPacket_cases addrView_not_closes w.repository.ipReader packet with
    ⟨d, -, -, heq⟩ | ⟨e, -, -, heq⟩ | ⟨-, heq | ⟨view, heq⟩⟩ <;> rw [heq]
  · exact Or.inr rfl
  · exact Or.inr rfl
  · exact Or.inl rfl
  · exact Or.inl rfl

/-- A synchronisation uses up the pending address dump. -/
theorem addrPacket_pending (w : World) (packet : NetlinkPacketView) :
    (w.step (.addrPacket packet)).synchronized.length + pending (w.step (.addrPacket packet)) ≤
      w.synchronized.length + pending w := by
  have hsync : (w.step (.addrPacket packet)).synchronized.length =
      w.synchronized.length + (w.repository.ipReaderPacket packet).2.toList.length :=
    List.length_append
  rcases (ipReaderPacket_cases w.repository packet).2.2 with ⟨d, -, hseq, hnone, -⟩ | hnone
  · have hbefore : pending w = 1 := pending_eq_one hseq
    have hafter : pending (w.step (.addrPacket packet)) = 0 := pending_eq_zero hnone
    have hle := Option.length_toList_le (o := (w.repository.ipReaderPacket packet).2)
    omega
  · have hpending := ipReaderPacket_pending w packet
    rw [hnone] at hsync
    simp only [Option.toList_none, List.length_nil] at hsync
    omega

/-- **One event**: a synchronisation uses up a pending address dump, and only the end of a
link dump makes one pending. -/
theorem step_pending (hfew : dumpRequests before < 2 ^ 31) (event : DeviceEvent) :
    (((run World.step .init before).step event).synchronized.length +
        pending ((run World.step .init before).step event) ≤
      (run World.step .init before).synchronized.length + pending (run World.step .init before)) ∨
    ((∃ number sent, EndsLinkDump before event number sent) ∧
      ((run World.step .init before).step event).synchronized.length +
          pending ((run World.step .init before).step event) ≤
        (run World.step .init before).synchronized.length +
          pending (run World.step .init before) + 1) := by
  set w := run World.step .init before with hw
  cases event with
  | tick deltaSeconds sent =>
    left
    have hsync : (w.step (.tick deltaSeconds sent)).synchronized = w.synchronized := rfl
    have hreader := (step_tick_readers w deltaSeconds sent).1
    have hpending : pending (w.step (.tick deltaSeconds sent)) ≤ pending w := by
      apply pending_mono
      rw [hreader]
      exact tick_keeps_or_resets w.repository.ipReader deltaSeconds
    rw [hsync]
    omega
  | linkPacket packet sent =>
    have hsync : (w.step (.linkPacket packet sent)).synchronized = w.synchronized := rfl
    rcases (deviceReaderPacket_cases w.repository packet sent).2 with ⟨d, rfl, hseq, -⟩ | hsame
    · right
      refine ⟨⟨_, sent, ⟨d, rfl, rfl⟩, linkHistory_outstanding hfew hseq⟩, ?_⟩
      -- at most one dump is pending, whatever was pending before
      have hone := pending_le (w.step (.linkPacket (.done d) sent))
      rw [hsync]
      omega
    · left
      have hpending : pending (w.step (.linkPacket packet sent)) ≤ pending w :=
        pending_mono (Or.inl (congrArg DumpReader.dumpRequestSequenceNumber hsame))
      rw [hsync]
      omega
  | addrPacket packet => exact Or.inl (addrPacket_pending w packet)
  | _ => exact Or.inl le_rfl

/-- **Never more synchronisations than completed link dumps**, a pending one included. -/
theorem synchronized_le_completed (hfew : dumpRequests events < 2 ^ 31) :
    ∃ dumps : List ℕ, dumps.Nodup ∧ (∀ number ∈ dumps, CompletedLink events number) ∧
      (run World.step .init events).synchronized.length + pending (run World.step .init events) ≤
        dumps.length := by
  induction events using List.reverseRecOn with
  | nil =>
    refine ⟨[], List.nodup_nil, ?_, le_rfl⟩
    intro number hmem
    cases hmem
  | append_singleton events event ih =>
    have hless := (dumpRequests_append events [event]).trans_lt hfew
    obtain ⟨dumps, hnodup, hall, hle⟩ := ih hless
    rw [run_concat]
    rcases step_pending hless event with hstep | ⟨⟨number, sent, hends⟩, hstep⟩
    · exact ⟨dumps, hnodup, fun m hm => (hall m hm).append [event], hstep.trans hle⟩
    · -- the dump that ends now was outstanding, so it is none of those that ended before
      have hnew : number ∉ dumps := fun hmem => not_outstanding_of_ended
        ((linkHistory_tracks events).increasing.imp Nat.ne_of_lt) (hall number hmem).ended
        hends.outstanding
      refine ⟨number :: dumps, List.nodup_cons.2 ⟨hnew, hnodup⟩, ?_, ?_⟩
      · intro m hm
        rcases List.mem_cons.1 hm with rfl | hm
        · exact ⟨events, event, [], sent, rfl, hends⟩
        · exact (hall m hm).append [event]
      · rw [List.length_cons]
        omega

end

/-- **Synchronisations follow completed dumps.** In every run with fewer than `2 ^ 31` dump
requests: a synchronisation is the end of the outstanding address dump, whose request was
made at the end of a link dump that was outstanding then; every address request is made
there; there are at most as many synchronisations as link dumps that came to their end; and
a dump that was superseded, timed out or answered is never outstanding again. -/
theorem synchronisations_follow_dumps (events : List DeviceEvent)
    (hfew : dumpRequests events < 2 ^ 31) :
    (∀ before event after, events = before ++ event :: after →
      ((run World.step .init before).step event).synchronized ≠
        (run World.step .init before).synchronized →
      ∃ number, EndsAddrDump before event number ∧
        ((run World.step .init before).step event).synchronized =
          (run World.step .init before).synchronized ++
            [(run World.step .init before).repository.devices] ∧
        ∃ earlier linkEvent later linkNumber, before = earlier ++ linkEvent :: later ∧
          EndsLinkDump earlier linkEvent linkNumber true ∧
          .request number true ∈ addrEntries (run World.step .init earlier) linkEvent) ∧
    (∀ before event after, events = before ++ event :: after →
      ∀ number sent, .request number sent ∈ addrEntries (run World.step .init before) event →
        ∃ linkNumber, EndsLinkDump before event linkNumber sent) ∧
    (∃ dumps : List ℕ, dumps.Nodup ∧ (∀ number ∈ dumps, CompletedLink events number) ∧
      (run World.step .init events).synchronized.length ≤ dumps.length) ∧
    ∀ before after, events = before ++ after → ∀ number,
      (Ended Closes (linkHistory before) number →
        ¬ Outstanding Closes (linkHistory events) number) ∧
      (Ended Closes (addrHistory before) number →
        ¬ Outstanding Closes (addrHistory events) number) := by
  refine ⟨?_, ?_, ?_, ?_⟩
  · rintro before event after rfl hsync
    have hless := (dumpRequests_append before (event :: after)).trans_lt hfew
    obtain ⟨⟨number, hends⟩, hhanded⟩ := synchronized_cause hless hsync
    exact ⟨number, hends, hhanded, addrDump_cause hless hends.outstanding⟩
  · rintro before event after rfl number sent hrequest
    exact addrRequest_cause ((dumpRequests_append before (event :: after)).trans_lt hfew) hrequest
  · obtain ⟨dumps, hnodup, hall, hle⟩ := synchronized_le_completed hfew
    exact ⟨dumps, hnodup, hall, (Nat.le_add_right _ _).trans hle⟩
  · rintro before after rfl number
    have hlink := linkHistory_tracks (before ++ after)
    have haddr := addrHistory_tracks (before ++ after)
    constructor
    · intro hended
      obtain ⟨more, hmore⟩ := linkHistory_append before after
      apply not_outstanding_of_ended (hlink.increasing.imp Nat.ne_of_lt)
      rw [hmore]
      exact hended.append more
    · intro hended
      obtain ⟨more, hmore⟩ := addrHistory_append before after
      apply not_outstanding_of_ended (haddr.increasing.imp Nat.ne_of_lt)
      rw [hmore]
      exact hended.append more

/-- A first resync of an empty network, up to the end of its address dump; a monitor packet
has requested the next one meanwhile. -/
def emptyResync : List DeviceEvent :=
  [.setSyncCallback, .tick 1 true, .linkPacket (.done ⟨⟨20, nlmsgDone, 0, 2, 0⟩, 0⟩) true,
    .monitorPacket (.done ⟨⟨20, nlmsgDone, 0, 0, 0⟩, 0⟩), .tick 2 true]

theorem synchronisations_follow_dumps_empty :
    ∃ number, EndsAddrDump emptyResync (.addrPacket (.done ⟨⟨20, nlmsgDone, 0, 2, 0⟩, 0⟩)) number := by
  obtain ⟨hsync, -⟩ := synchronisations_follow_dumps
    (emptyResync ++ [.addrPacket (.done ⟨⟨20, nlmsgDone, 0, 2, 0⟩, 0⟩)]) (by decide +kernel)
  have hnew : ((run World.step .init emptyResync).step
      (.addrPacket (.done ⟨⟨20, nlmsgDone, 0, 2, 0⟩, 0⟩))).synchronized ≠
        (run World.step .init emptyResync).synchronized :=
    fun h => absurd (congrArg List.length h) (by decide +kernel)
  obtain ⟨number, hends, -⟩ := hsync emptyResync _ [] rfl hnew
  exact ⟨number, hends⟩

end Ndisc
