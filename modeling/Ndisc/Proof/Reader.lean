import Ndisc.Proof.Protocol

/-!
# The two dump readers, one call at a time

`DeviceReader` and `IpReader` are two copies of one machine: a request, a countdown and
three callbacks. Requests, packets and ticks reach it in any order.

* `Reader`: what the two copies have in common.
* `run_onTime`: the countdown is what is left of the five seconds since the last request.
* `Ordered`: **a callback belongs to a request that was sent and has not ended**.
* `readers_keep_order`: both, for both copies.
-/

namespace Ndisc

open Wire Netlink Run

/-! ## The calls of a reader -/

/-- The functions of one of the two classes. -/
structure Reader (View : Type) where
  triggerDump : DumpReader → Bool → DumpReader
  handleNetlinkPacket : DumpReader → NetlinkPacketView → DumpReader × Option (ReaderCallback View)
  tick : DumpReader → UInt64 → DumpReader × Bool

def deviceReader : Reader LinkView where
  triggerDump := DeviceReader.triggerDump
  handleNetlinkPacket := DeviceReader.handleNetlinkPacket
  tick := DeviceReader.tick

def ipReader : Reader AddrView where
  triggerDump := IpReader.triggerDump
  handleNetlinkPacket := IpReader.handleNetlinkPacket
  tick := IpReader.tick

/-- A call of a reader; `sent` is the outcome of the request. -/
inductive ReaderEvent
  | triggerDump (sent : Bool)
  | packet (packet : NetlinkPacketView)
  | tick (deltaSeconds : UInt64)

/-- A tick of at least one second that fits an `int`. -/
def ReaderEvent.Regular : ReaderEvent → Prop
  | .tick deltaSeconds => 1 ≤ deltaSeconds.toNat ∧ deltaSeconds.toNat < 2 ^ 31
  | _ => True

instance : DecidablePred ReaderEvent.Regular
  | .tick deltaSeconds =>
    inferInstanceAs (Decidable (1 ≤ deltaSeconds.toNat ∧ deltaSeconds.toNat < 2 ^ 31))
  | .triggerDump _ => inferInstanceAs (Decidable True)
  | .packet _ => inferInstanceAs (Decidable True)

/-- A clock that the requests set to zero. -/
def stepClock (clock : ℕ) : ReaderEvent → ℕ
  | .triggerDump _ => 0
  | .packet _ => clock
  | .tick deltaSeconds => clock + deltaSeconds.toNat

/-- The seconds ticked since the last request, sent or not. -/
def sinceTrigger (es : List ReaderEvent) : ℕ := run stepClock 0 es

def triggers (es : List ReaderEvent) : ℕ :=
  es.countP fun
    | .triggerDump _ => true
    | _ => false

/-- What can be seen of a reader: a request that was sent, with its number, and the
callbacks, each with the number that the reader was waiting for. -/
inductive Mark
  | sent (number : Option UInt32)
  | update (number : Option UInt32)
  | ended (number : Option UInt32)
  deriving DecidableEq

namespace Reader

variable {View : Type} (R : Reader View)

def step (r : DumpReader) : ReaderEvent → DumpReader
  | .triggerDump sent => R.triggerDump r sent
  | .packet packet => (R.handleNetlinkPacket r packet).1
  | .tick deltaSeconds => (R.tick r deltaSeconds).1

def marks (r : DumpReader) : ReaderEvent → List Mark
  | .triggerDump sent => if sent then [.sent (R.triggerDump r sent).dumpRequestSequenceNumber] else []
  | .packet packet =>
    match (R.handleNetlinkPacket r packet).2 with
    | some (.update _) => [.update r.dumpRequestSequenceNumber]
    | some .endOfDump => [.ended r.dumpRequestSequenceNumber]
    | some .dumpErrored => [.ended r.dumpRequestSequenceNumber]
    | none => []
  | .tick deltaSeconds =>
    if (R.tick r deltaSeconds).2 then [.ended r.dumpRequestSequenceNumber] else []

/-- The reader after the calls. -/
def after (es : List ReaderEvent) : DumpReader := run R.step .create es

/-- What was seen of it. -/
def history (es : List ReaderEvent) : List Mark := observe R.step R.marks .create es

/-- The functions are those of `DumpReader`, with a view of packets that are neither the end
of a dump nor an error, and five seconds. -/
structure IsCopy (R : Reader View) (getIf : NetlinkPacketView → Option View) : Prop where
  eq : R = ⟨DumpReader.triggerDump 5, DumpReader.handleNetlinkPacket getIf, DumpReader.tick⟩
  getIf_open : ∀ packet view, getIf packet = some view → ∀ n, ¬ Closes packet n

end Reader

theorem deviceReader_isCopy : deviceReader.IsCopy DeviceReader.linkView := ⟨rfl, linkView_not_closes⟩

theorem ipReader_isCopy : ipReader.IsCopy IpReader.addrView := ⟨rfl, addrView_not_closes⟩

/-! ## The countdown -/

theorem narrowInt_eq {d : UInt64} (h : d.toNat < 2 ^ 31) : narrowInt d = d.toNat := by
  unfold narrowInt
  rw [Int.bmod_eq_of_le] <;> omega

/-- A request that is outstanding has some of its seconds left. -/
def DumpReader.Waits (r : DumpReader) : Prop :=
  r.dumpRequestSequenceNumber.isSome = true → 1 ≤ r.dumpReadTimeout

/-- **What a tick does**: nothing without a request, one step of the countdown, or the end. -/
theorem DumpReader.tick_cases (r : DumpReader) (deltaSeconds : UInt64) :
    (r.dumpRequestSequenceNumber = none ∧ r.tick deltaSeconds = (r, false)) ∨
    (r.dumpRequestSequenceNumber.isSome = true ∧ narrowInt deltaSeconds < r.dumpReadTimeout ∧
      r.tick deltaSeconds =
        ({ r with dumpReadTimeout := r.dumpReadTimeout - narrowInt deltaSeconds }, false)) ∨
    (r.dumpRequestSequenceNumber.isSome = true ∧ r.dumpReadTimeout ≤ narrowInt deltaSeconds ∧
      r.tick deltaSeconds = (r.resetDumpAttempt, true)) := by
  unfold DumpReader.tick
  by_cases hsome : r.dumpRequestSequenceNumber.isSome = true
  · rw [if_pos hsome]
    by_cases hlater : r.dumpReadTimeout > narrowInt deltaSeconds
    · rw [if_pos hlater]
      exact Or.inr (Or.inl ⟨hsome, hlater, rfl⟩)
    · rw [if_neg hlater]
      exact Or.inr (Or.inr ⟨hsome, Int.not_lt.1 hlater, rfl⟩)
  · rw [if_neg hsome]
    exact Or.inl ⟨Option.not_isSome_iff_eq_none.1 hsome, rfl⟩

section

variable {r : DumpReader}

theorem reset_waits (r : DumpReader) : r.resetDumpAttempt.Waits := by
  intro h
  cases h

theorem tick_waits (h : r.Waits) (deltaSeconds : UInt64) : (r.tick deltaSeconds).1.Waits := by
  rcases r.tick_cases deltaSeconds with ⟨-, heq⟩ | ⟨-, hlater, heq⟩ | ⟨-, -, heq⟩
  · rw [heq]
    exact h
  · rw [heq]
    intro _
    show 1 ≤ r.dumpReadTimeout - narrowInt deltaSeconds
    omega
  · rw [heq]
    exact reset_waits r

theorem triggerDump_waits (r : DumpReader) (sent : Bool) : (r.triggerDump 5 sent).Waits := by
  intro _
  show (1 : ℤ) ≤ 5
  omega

theorem handleNetlinkPacket_waits {View : Type} {getIf : NetlinkPacketView → Option View}
    (hget : ∀ packet view, getIf packet = some view → ∀ n, ¬ Closes packet n) (h : r.Waits)
    (packet : NetlinkPacketView) : (r.handleNetlinkPacket getIf packet).1.Waits := by
  rcases handleNetlinkPacket_cases hget r packet with
    ⟨d, -, -, heq⟩ | ⟨e, -, -, heq⟩ | ⟨-, heq | ⟨view, heq⟩⟩ <;> rw [heq]
  · exact reset_waits r
  · exact reset_waits r
  · exact h
  · exact h

end

namespace Reader

variable {View : Type} {R : Reader View} {getIf : NetlinkPacketView → Option View}

/-- The countdown is what is left of the five seconds. -/
def OnTime (r : DumpReader) (clock : ℕ) : Prop :=
  r.dumpRequestSequenceNumber.isSome = true →
    1 ≤ r.dumpReadTimeout ∧ r.dumpReadTimeout = 5 - (clock : ℤ)

theorem step_onTime (hR : R.IsCopy getIf) {r : DumpReader} {clock : ℕ} (h : OnTime r clock)
    {e : ReaderEvent} (he : e.Regular) : OnTime (R.step r e) (stepClock clock e) := by
  obtain ⟨rfl, hget⟩ := hR
  have hreset : ∀ c, OnTime r.resetDumpAttempt c := fun _ hnone => by cases hnone
  cases e with
  | triggerDump sent => exact fun _ => ⟨(by decide : (1 : ℤ) ≤ 5), rfl⟩
  | packet packet =>
    show OnTime (r.handleNetlinkPacket getIf packet).1 clock
    rcases handleNetlinkPacket_cases hget r packet with
      ⟨d, -, -, heq⟩ | ⟨e, -, -, heq⟩ | ⟨-, heq | ⟨view, heq⟩⟩ <;> rw [heq]
    · exact hreset clock
    · exact hreset clock
    · exact h
    · exact h
  | tick deltaSeconds =>
    obtain ⟨-, hlt⟩ := he
    have hnarrow := narrowInt_eq hlt
    show OnTime (r.tick deltaSeconds).1 (clock + deltaSeconds.toNat)
    rcases r.tick_cases deltaSeconds with ⟨hnone, heq⟩ | ⟨hsome, hlater, heq⟩ | ⟨-, -, heq⟩ <;>
      rw [heq]
    · intro hsome
      rw [hnone] at hsome
      cases hsome
    · intro _
      obtain ⟨-, htimeout⟩ := h hsome
      show 1 ≤ r.dumpReadTimeout - narrowInt deltaSeconds ∧
        r.dumpReadTimeout - narrowInt deltaSeconds = 5 - ((clock + deltaSeconds.toNat : ℕ) : ℤ)
      push_cast
      omega
    · exact hreset _

/-- **The countdown is what is left of the five seconds since the last request.** -/
theorem run_onTime (hR : R.IsCopy getIf) (es : List ReaderEvent) (hes : ∀ e ∈ es, e.Regular) :
    OnTime (R.after es) (sinceTrigger es) := by
  induction es using List.reverseRecOn with
  | nil =>
    intro h
    cases h
  | append_singleton es e ih =>
    have hpast := ih fun x hx => hes x (List.mem_append_left _ hx)
    have he := hes e (List.mem_append_right _ (List.mem_singleton_self e))
    unfold after sinceTrigger
    rw [run_concat, run_concat]
    exact step_onTime hR hpast he

/-! ## The callbacks -/

/-- **A packet that is not for the outstanding request is ignored.** -/
theorem packet_ignored (hR : R.IsCopy getIf) (r : DumpReader) (packet : NetlinkPacketView)
    (h : r.dumpRequestSequenceNumber ≠ some packet.header.nlmsgSeq) :
    R.handleNetlinkPacket r packet = (r, none) := by
  obtain ⟨rfl, -⟩ := hR
  exact if_neg h

/-- **What a packet or a tick can do**: nothing but run the countdown on, show an update, or
end the request; the last two only while one is outstanding. -/
theorem step_cases (hR : R.IsCopy getIf) (r : DumpReader) (e : ReaderEvent)
    (he : ∀ sent, e ≠ .triggerDump sent) :
    (∃ timeout, R.step r e = { r with dumpReadTimeout := timeout } ∧ R.marks r e = []) ∨
    (∃ k, r.dumpRequestSequenceNumber = some k ∧ R.step r e = r ∧
      R.marks r e = [.update (some k)]) ∨
    (∃ k, r.dumpRequestSequenceNumber = some k ∧ R.step r e = r.resetDumpAttempt ∧
      R.marks r e = [.ended (some k)]) := by
  cases e with
  | triggerDump sent => exact absurd rfl (he sent)
  | packet packet =>
    unfold Reader.step Reader.marks
    simp only
    by_cases hseq : r.dumpRequestSequenceNumber = some packet.header.nlmsgSeq
    · obtain ⟨rfl, hget⟩ := hR
      rcases handleNetlinkPacket_cases hget r packet with
        ⟨d, -, -, heq⟩ | ⟨e, -, -, heq⟩ | ⟨-, heq | ⟨view, heq⟩⟩ <;> simp only [heq]
      · exact Or.inr (Or.inr ⟨_, hseq, trivial, by rw [hseq]⟩)
      · exact Or.inr (Or.inr ⟨_, hseq, trivial, by rw [hseq]⟩)
      · exact Or.inl ⟨r.dumpReadTimeout, rfl, trivial⟩
      · exact Or.inr (Or.inl ⟨_, hseq, trivial, by rw [hseq]⟩)
    · rw [packet_ignored hR r packet hseq]
      exact Or.inl ⟨r.dumpReadTimeout, rfl, rfl⟩
  | tick deltaSeconds =>
    obtain ⟨rfl, -⟩ := hR
    unfold Reader.step Reader.marks
    simp only
    rcases r.tick_cases deltaSeconds with ⟨-, heq⟩ | ⟨-, -, heq⟩ | ⟨hsome, -, heq⟩ <;>
      simp only [heq, Bool.false_eq_true, if_false, if_true]
    · exact Or.inl ⟨r.dumpReadTimeout, rfl, trivial⟩
    · exact Or.inl ⟨_, rfl, trivial⟩
    · obtain ⟨k, hk⟩ := Option.isSome_iff_exists.1 hsome
      exact Or.inr (Or.inr ⟨k, hk, trivial, by rw [hk]⟩)

/-- What a history can go on with: a callback belongs to a request that was sent and has
not ended. -/
def Next (h : List Mark) : Mark → Prop
  | .sent number => number.isSome = true ∧ .sent number ∉ h
  | .update number => number.isSome = true ∧ .sent number ∈ h ∧ .ended number ∉ h
  | .ended number => number.isSome = true ∧ .sent number ∈ h ∧ .ended number ∉ h

/-- Every mark could be the next one at its place. -/
def Ordered (h : List Mark) : Prop := ∀ before m after, h = before ++ m :: after → Next before m

theorem ordered_concat {h : List Mark} {m : Mark} (hh : Ordered h) (hm : Next h m) :
    Ordered (h ++ [m]) := by
  intro before m' after heq
  rcases List.eq_nil_or_concat after with rfl | ⟨after', last, rfl⟩
  · obtain ⟨rfl, hlast⟩ := List.append_inj' heq rfl
    rw [← List.singleton_inj.1 hlast]
    exact hm
  · rw [List.concat_eq_append, ← List.cons_append, ← List.append_assoc] at heq
    obtain ⟨rfl, -⟩ := List.append_inj' heq rfl
    exact hh before m' after' rfl

/-- What is in a history, and is not its last mark, was seen before. -/
theorem mem_before {h : List Mark} {m last : Mark} (hmem : m ∈ h ++ [last]) (hne : m ≠ last) :
    m ∈ h := by
  rcases List.mem_append.1 hmem with hold | hlast
  · exact hold
  · exact absurd (List.mem_singleton.1 hlast) hne

/-- The request that a reader holds was sent and has not ended, and its numbers count up. -/
structure Holds (r : DumpReader) (h : List Mark) : Prop where
  held : ∀ k, r.dumpRequestSequenceNumber = some k → .sent (some k) ∈ h ∧ .ended (some k) ∉ h
  below : ∀ k : UInt32, .sent (some k) ∈ h → k.toNat ≤ r.sequenceNumber
  ended : ∀ number, .ended number ∈ h → .sent number ∈ h
  ordered : Ordered h

theorem create_holds : Holds .create [] where
  held _ hk := by cases hk
  below _ hk := by cases hk
  ended _ hk := by cases hk
  ordered := by
    intro before m after heq
    exact absurd heq.symm (List.append_ne_nil_of_right_ne_nil before (List.cons_ne_nil m after))

/-- A request: its number is a new one, as long as the numbers fit. -/
theorem triggerDump_holds {r : DumpReader} {h : List Mark} (hh : Holds r h)
    (hfit : r.sequenceNumber + 1 < 2 ^ 32) :
    Holds (r.triggerDump 5 true) (h ++ [.sent (some (UInt32.ofNat (r.sequenceNumber + 1)))]) := by
  have hnumber : (UInt32.ofNat (r.sequenceNumber + 1)).toNat = r.sequenceNumber + 1 :=
    UInt32.toNat_ofNat_of_lt' hfit
  have hnew : .sent (some (UInt32.ofNat (r.sequenceNumber + 1))) ∉ h := by
    intro hmem
    have hle := hh.below _ hmem
    omega
  constructor
  · intro k hk
    cases (Option.some.inj hk : UInt32.ofNat (r.sequenceNumber + 1) = k)
    refine ⟨List.mem_append_right _ (List.mem_singleton_self _), ?_⟩
    intro hended
    exact hnew (hh.ended _ (mem_before hended nofun))
  · intro k hk
    show k.toNat ≤ r.sequenceNumber + 1
    rcases List.mem_append.1 hk with hold | hlast
    · have hle := hh.below k hold
      omega
    · cases List.mem_singleton.1 hlast
      omega
  · intro number hended
    exact List.mem_append_left _ (hh.ended number (mem_before hended nofun))
  · exact ordered_concat hh.ordered ⟨rfl, hnew⟩

/-- A callback of the outstanding request, which stays or ends. -/
theorem callback_holds {r : DumpReader} {h : List Mark} (hh : Holds r h) {k : UInt32}
    (hk : r.dumpRequestSequenceNumber = some k) :
    Holds r (h ++ [.update (some k)]) ∧ Holds r.resetDumpAttempt (h ++ [.ended (some k)]) := by
  obtain ⟨hsent, hopen⟩ := hh.held k hk
  constructor
  · refine ⟨?_, ?_, ?_, ordered_concat hh.ordered ⟨rfl, hsent, hopen⟩⟩
    · intro k' hk'
      obtain ⟨hsent', hopen'⟩ := hh.held k' hk'
      exact ⟨List.mem_append_left _ hsent', fun hended => hopen' (mem_before hended nofun)⟩
    · intro k' hk'
      exact hh.below k' (mem_before hk' nofun)
    · intro number hended
      exact List.mem_append_left _ (hh.ended number (mem_before hended nofun))
  · refine ⟨fun k' hk' => by (cases hk'), ?_, ?_, ordered_concat hh.ordered ⟨rfl, hsent, hopen⟩⟩
    · intro k' hk'
      exact hh.below k' (mem_before hk' nofun)
    · intro number hended
      rcases List.mem_append.1 hended with hold | hlast
      · exact List.mem_append_left _ (hh.ended number hold)
      · cases List.mem_singleton.1 hlast
        exact List.mem_append_left _ hsent

/-- **One call.** -/
theorem step_holds (hR : R.IsCopy getIf) {r : DumpReader} {h : List Mark} (hh : Holds r h)
    (e : ReaderEvent) (hfit : (R.step r e).sequenceNumber < 2 ^ 32) :
    Holds (R.step r e) (h ++ R.marks r e) := by
  have hother : (∀ sent, e ≠ .triggerDump sent) → Holds (R.step r e) (h ++ R.marks r e) := by
    intro he
    rcases step_cases hR r e he with ⟨t, hstep, hmarks⟩ | ⟨k, hk, hstep, hmarks⟩ | ⟨k, hk, hstep, hmarks⟩
    · rw [hstep, hmarks, List.append_nil]
      exact ⟨hh.held, hh.below, hh.ended, hh.ordered⟩
    · rw [hstep, hmarks]
      exact (callback_holds hh hk).1
    · rw [hstep, hmarks]
      exact (callback_holds hh hk).2
  cases e with
  | triggerDump sent =>
    obtain ⟨rfl, -⟩ := hR
    cases sent with
    | true => exact triggerDump_holds hh hfit
    | false =>
      -- the request that was outstanding is still held
      show Holds (r.triggerDump 5 false) (h ++ [])
      rw [List.append_nil]
      exact ⟨hh.held, fun k hk => (hh.below k hk).trans (Nat.le_succ _), hh.ended, hh.ordered⟩
  | packet packet => exact hother fun _ => ReaderEvent.noConfusion
  | tick deltaSeconds => exact hother fun _ => ReaderEvent.noConfusion

/-! ## Runs -/

/-- The requests are counted by the sequence number. -/
theorem after_sequenceNumber (hR : R.IsCopy getIf) (es : List ReaderEvent) :
    (R.after es).sequenceNumber = 1 + triggers es := by
  induction es using List.reverseRecOn with
  | nil => rfl
  | append_singleton es e ih =>
    have hother : (∀ sent, e ≠ .triggerDump sent) →
        (R.step (R.after es) e).sequenceNumber = (R.after es).sequenceNumber := by
      intro he
      rcases step_cases hR (R.after es) e he with
        ⟨t, hstep, -⟩ | ⟨k, -, hstep, -⟩ | ⟨k, -, hstep, -⟩ <;> rw [hstep]
      rfl
    have hconcat : R.after (es ++ [e]) = R.step (R.after es) e := run_concat _ _ _ _
    unfold triggers at ih ⊢
    rw [hconcat, List.countP_append, List.countP_singleton]
    cases e with
    | triggerDump sent =>
      obtain ⟨rfl, -⟩ := hR
      exact congrArg (· + 1) ih
    | packet packet => rw [hother fun _ => ReaderEvent.noConfusion]; exact ih
    | tick deltaSeconds => rw [hother fun _ => ReaderEvent.noConfusion]; exact ih

theorem run_holds (hR : R.IsCopy getIf) (es : List ReaderEvent) (hfew : triggers es < 2 ^ 31) :
    Holds (R.after es) (R.history es) := by
  induction es using List.reverseRecOn with
  | nil => exact create_holds
  | append_singleton es e ih =>
    have hsum : triggers (es ++ [e]) = triggers es + triggers [e] := List.countP_append
    have hcount := after_sequenceNumber hR (es ++ [e])
    have hconcat : R.after (es ++ [e]) = R.step (R.after es) e := run_concat _ _ _ _
    have hhistory : R.history (es ++ [e]) = R.history es ++ R.marks (R.after es) e :=
      observe_concat _ _ _ _
    rw [hconcat] at hcount ⊢
    rw [hhistory]
    exact step_holds hR (ih (by omega)) e (by omega)

theorem ordered_ended_once {h : List Mark} (hh : Ordered h) (number : Option UInt32) :
    h.count (.ended number) ≤ 1 := by
  induction h using List.reverseRecOn with
  | nil => exact Nat.zero_le 1
  | append_singleton h m ih =>
    have hpast : Ordered h := fun before m' after heq =>
      hh before m' (after ++ [m]) (by rw [heq, List.append_assoc, List.cons_append])
    rw [List.count_append, List.count_singleton]
    split
    · rename_i heq
      -- the request that ends here has not ended before
      have hnext := hh h m [] rfl
      rw [eq_of_beq heq] at hnext
      rw [List.count_eq_zero_of_not_mem hnext.2.2]
    · exact ih hpast

/-- What is promised of a reader after some calls. -/
structure KeepsOrder (R : Reader View) (es : List ReaderEvent) : Prop where
  onTime : (R.after es).dumpRequestSequenceNumber.isSome = true →
    1 ≤ (R.after es).dumpReadTimeout ∧ (R.after es).dumpReadTimeout ≤ 5 ∧
      (R.after es).dumpReadTimeout = 5 - (sinceTrigger es : ℤ)
  ignores : ∀ packet : NetlinkPacketView,
    (R.after es).dumpRequestSequenceNumber ≠ some packet.header.nlmsgSeq →
    R.handleNetlinkPacket (R.after es) packet = (R.after es, none)
  endsOnce : ∀ number, (R.history es).count (.ended number) ≤ 1
  ordered : Ordered (R.history es)

theorem run_keepsOrder (hR : R.IsCopy getIf) (es : List ReaderEvent) (hes : ∀ e ∈ es, e.Regular)
    (hfew : triggers es < 2 ^ 31) : R.KeepsOrder es where
  onTime h := by
    obtain ⟨hpos, htimeout⟩ := run_onTime hR es hes h
    exact ⟨hpos, by omega, htimeout⟩
  ignores packet h := packet_ignored hR (R.after es) packet h
  endsOnce number := ordered_ended_once (run_holds hR es hfew).ordered number
  ordered := (run_holds hR es hfew).ordered

end Reader

/-- **Both readers keep their requests in order.** For any requests, sent or not (fewer than
`2 ^ 31`), any packets, and ticks of at least one second that fit an `int`: the countdown of
an outstanding request is between 1 and 5, and what is left of the five seconds since the
last request; a packet that is not for the outstanding request changes and calls nothing;
and a request that was sent has a number of its own, ends at most once, and has its updates
after it was sent and before it ends. -/
theorem readers_keep_order (es : List ReaderEvent) (hes : ∀ e ∈ es, e.Regular)
    (hfew : triggers es < 2 ^ 31) : deviceReader.KeepsOrder es ∧ ipReader.KeepsOrder es :=
  ⟨Reader.run_keepsOrder deviceReader_isCopy es hes hfew,
    Reader.run_keepsOrder ipReader_isCopy es hes hfew⟩

/-- A request that times out at its fifth second, and one that was not sent. -/
theorem readers_keep_order_timeout :
    deviceReader.KeepsOrder [.triggerDump true, .tick 4, .tick 1, .triggerDump false] ∧
      ipReader.KeepsOrder [.triggerDump true, .tick 4, .tick 1, .triggerDump false] :=
  readers_keep_order _ (by decide) (by decide)

end Ndisc
