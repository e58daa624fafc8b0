import Ndisc.Lib.Walk
import Ndisc.Spec.Parser

/-!
# How a datagram is cut into messages

`NLMSG_OK` looks at the length of a message, but the cut is made after its padding.

* `extract_some`, `extract_cut`, `extract_wrapped`: what is cut off, by what remains.
* `messages_ok_iff`: the loop comes to an end exactly if all padding is there.
* `call_sliced`: **exactly then the spans are the messages of the buffer, one after another**.
-/

namespace Ndisc.Netlink

open Wire Records

/-! ## One message -/

/-- `nlmsg_len` of the header at `p`. -/
def nlmsgLenAt (buffer : Bytes) (p : ℕ) : ℕ := leAt buffer p 4

/-- A complete header at `p`, and the body that it announces. -/
def MessageAt (buffer : Bytes) (p : ℕ) : Prop :=
  p + 16 ≤ buffer.length ∧ 16 ≤ nlmsgLenAt buffer p ∧ p + nlmsgLenAt buffer p ≤ buffer.length

instance (buffer : Bytes) (p : ℕ) : Decidable (MessageAt buffer p) :=
  inferInstanceAs (Decidable (_ ∧ _ ∧ _))

/-- The padding of the message at `p` is in the buffer too, and `NLMSG_ALIGN` does not wrap. -/
def PaddedAt (buffer : Bytes) (p : ℕ) : Prop :=
  nlmsgLenAt buffer p + 3 < 2 ^ 32 ∧ p + padded (nlmsgLenAt buffer p) ≤ buffer.length

section

variable {data : Bytes}

theorem nlmsgLenAt_lt (buffer : Bytes) (p : ℕ) : nlmsgLenAt buffer p < 2 ^ 32 := leAt_lt buffer p 4

theorem nlmsgLenAt_drop (buffer : Bytes) (p : ℕ) : nlmsgLenAt (buffer.drop p) 0 = nlmsgLenAt buffer p :=
  leAt_drop buffer p 0 4

/-- What remains from `p` on starts with a message if there is one at `p`. -/
theorem messageAt_drop {buffer : Bytes} {p : ℕ} (h : p ≤ buffer.length) :
    MessageAt (buffer.drop p) 0 ↔ MessageAt buffer p := by
  unfold MessageAt
  rw [nlmsgLenAt_drop, List.length_drop]
  omega

theorem nlmsgOk_eq (data : Bytes) : nlmsgOk data = .ok (16 ≤ data.length ∧
    16 ≤ nlmsgLenAt data 0 ∧ nlmsgLenAt data 0 ≤ data.length : Bool) := by
  unfold nlmsgOk
  split
  · rename_i hshort
    simp [show ¬ 16 ≤ data.length by omega]
  · obtain ⟨o, ho, hbytes⟩ := fixedSpan_ok (show 0 + 4 ≤ data.length by omega)
    have hlen : (u32Of o 0).toNat = nlmsgLenAt data 0 := toNat_u32Of hbytes
    rw [ho, ok_bind, hlen]
    simp [show 16 ≤ data.length by omega]

theorem extract_none (h : ¬ MessageAt data 0) : extractMessageFromBuffer data = .ok none := by
  have hnot : ¬ (16 ≤ data.length ∧ 16 ≤ nlmsgLenAt data 0 ∧ nlmsgLenAt data 0 ≤ data.length) := by
    unfold MessageAt at h
    omega
  rw [extractMessageFromBuffer, nlmsgOk_eq, ok_bind, decide_eq_false hnot]
  rfl

/-- The cut of a message that is there: at `NLMSG_ALIGN` of its length. -/
theorem extract_eq (h : MessageAt data 0) : extractMessageFromBuffer data = (do
    let nextMessageSize := (nlmsgAlign (UInt32.ofNat (nlmsgLenAt data 0))).toNat
    let messageSpan ← subspan data 0 nextMessageSize
    let remainingData ← subspanFrom data nextMessageSize
    .ok (some (messageSpan, remainingData))) := by
  obtain ⟨hheader, hlow, hhigh⟩ := h
  obtain ⟨o, ho, hbytes⟩ := fixedSpan_ok hheader
  have hlen : (Nlmsghdr.ofOctets o).nlmsgLen = UInt32.ofNat (nlmsgLenAt data 0) := by
    apply UInt32.toNat_inj.1
    rw [UInt32.toNat_ofNat_of_lt' (nlmsgLenAt_lt data 0)]
    exact toNat_u32Of hbytes
  have hok : 16 ≤ data.length ∧ 16 ≤ nlmsgLenAt data 0 ∧ nlmsgLenAt data 0 ≤ data.length := by omega
  rw [extractMessageFromBuffer, nlmsgOk_eq, ok_bind, decide_eq_true hok, if_pos rfl, ho, ok_bind]
  simp only [hlen]

theorem toNat_nlmsgAlign (h : nlmsgLenAt data 0 + 3 < 2 ^ 32) :
    (nlmsgAlign (UInt32.ofNat (nlmsgLenAt data 0))).toNat = padded (nlmsgLenAt data 0) := by
  have hlen := UInt32.toNat_ofNat_of_lt' (nlmsgLenAt_lt data 0)
  rw [nlmsgAlign, toNat_roundUp (by rw [hlen]; exact h), hlen]
  rfl

/-- The three lengths that are too long to be rounded up in 32 bits. -/
theorem nlmsgAlign_wrapped {len : ℕ} (hlow : 2 ^ 32 ≤ len + 3) (hhigh : len < 2 ^ 32) :
    nlmsgAlign (UInt32.ofNat len) = 0 := by
  obtain rfl | rfl | rfl : len = 2 ^ 32 - 3 ∨ len = 2 ^ 32 - 2 ∨ len = 2 ^ 32 - 1 := by omega
  · decide
  · decide
  · decide

/-- A message with its padding is cut off. -/
theorem extract_some (h : MessageAt data 0) (hpadded : PaddedAt data 0) :
    extractMessageFromBuffer data = .ok (some (data.take (padded (nlmsgLenAt data 0)),
      data.drop (padded (nlmsgLenAt data 0)))) := by
  obtain ⟨hsmall, hin⟩ := hpadded
  rw [extract_eq h, toNat_nlmsgAlign hsmall]
  simp only [subspan_ok (by omega : 0 + padded (nlmsgLenAt data 0) ≤ data.length),
    subspanFrom_ok (by omega : padded (nlmsgLenAt data 0) ≤ data.length), ok_bind, List.drop_zero]

/-- Without its padding, the cut is outside of the data. -/
theorem extract_cut (h : MessageAt data 0) (hsmall : nlmsgLenAt data 0 + 3 < 2 ^ 32)
    (hcut : data.length < padded (nlmsgLenAt data 0)) :
    extractMessageFromBuffer data = .error .outOfRange := by
  rw [extract_eq h, toNat_nlmsgAlign hsmall]
  simp only [subspan, if_neg (show ¬ 0 + padded (nlmsgLenAt data 0) ≤ data.length by omega), error_bind]

/-- Where rounding up wraps, nothing is cut off. -/
theorem extract_wrapped (h : MessageAt data 0) (hlarge : 2 ^ 32 ≤ nlmsgLenAt data 0 + 3) :
    extractMessageFromBuffer data = .ok (some ([], data)) := by
  rw [extract_eq h, nlmsgAlign_wrapped hlarge (nlmsgLenAt_lt data 0)]
  simp [subspan, subspanFrom]

/-- A message that cannot be cut off keeps the loop from ending, with however much fuel. -/
theorem messages_stuck (h : MessageAt data 0) (hnot : ¬ PaddedAt data 0) (fuel : ℕ)
    (spans : List Bytes) : collect extractMessageFromBuffer fuel data ≠ .ok spans := by
  rcases Nat.lt_or_ge (nlmsgLenAt data 0 + 3) (2 ^ 32) with hsmall | hlarge
  · have hcut : data.length < padded (nlmsgLenAt data 0) := by
      unfold PaddedAt at hnot
      omega
    cases fuel with
    | zero => exact fun heq => by cases heq
    | succ fuel =>
      rw [collect, extract_cut h hsmall hcut]
      exact fun heq => by cases heq
  · -- the next round starts from the same data
    induction fuel generalizing spans with
    | zero => exact fun heq => by cases heq
    | succ fuel ih =>
      rw [collect, extract_wrapped h hlarge, ok_bind]
      intro heq
      simp only [bind_eq_ok] at heq
      obtain ⟨rest, hrest, -⟩ := heq
      exact ih rest hrest

end

/-! ## The loop -/

section

variable (buffer : Bytes)

/-- How far it is from the message at `p` to the next one. -/
def messageStep (p : ℕ) : ℕ := padded (nlmsgLenAt buffer p)

/-- The message at `p`, with its padding. -/
def messageSlice (p : ℕ) : Bytes := (buffer.drop p).take (messageStep buffer p)

/-- Wherever a message is reached, from the start of the buffer, its padding is there. -/
def Padded : Prop :=
  ∀ p, Reaches (MessageAt buffer) (messageStep buffer) 0 p → MessageAt buffer p → PaddedAt buffer p

theorem extract_end : ∀ p ≤ buffer.length, ¬ MessageAt buffer p →
    extractMessageFromBuffer (buffer.drop p) = .ok none := by
  intro p hp hnot
  exact extract_none fun h => hnot ((messageAt_drop hp).1 h)

theorem paddedAt_drop {p : ℕ} (h : p ≤ buffer.length) :
    PaddedAt (buffer.drop p) 0 ↔ PaddedAt buffer p := by
  unfold PaddedAt
  rw [nlmsgLenAt_drop, List.length_drop]
  omega

theorem extract_next : ∀ p ≤ buffer.length, MessageAt buffer p → PaddedAt buffer p →
    0 < messageStep buffer p ∧ p + messageStep buffer p ≤ buffer.length ∧
      extractMessageFromBuffer (buffer.drop p) =
        .ok (some (messageSlice buffer p, buffer.drop (p + messageStep buffer p))) := by
  intro p hp hmessage hpadded
  have hcut := extract_some ((messageAt_drop hp).2 hmessage) ((paddedAt_drop buffer hp).2 hpadded)
  have hlen := le_padded (nlmsgLenAt buffer p)
  rw [nlmsgLenAt_drop, List.drop_drop] at hcut
  refine ⟨?_, hpadded.2, hcut⟩
  have hheader := hmessage.2.1
  unfold messageStep
  omega

/-- **The loop comes to an end exactly if all padding is there.** -/
theorem messages_ok_iff :
    (∃ spans, collect extractMessageFromBuffer (buffer.length + 1) buffer = .ok spans) ↔
      Padded buffer := by
  refine collect_ok_iff buffer.drop (extract_end buffer) (extract_next buffer) ?_
    (Nat.zero_le _) (by omega)
  intro p hp hmessage hnot
  exact messages_stuck ((messageAt_drop hp).2 hmessage) fun h => hnot ((paddedAt_drop buffer hp).1 h)

/-- The span of a message holds what its header announces. -/
theorem messageSlice_covers {buffer : Bytes} {p : ℕ} (hmessage : MessageAt buffer p)
    (hpadded : PaddedAt buffer p) :
    16 ≤ nlmsgLenAt (messageSlice buffer p) 0 ∧
      nlmsgLenAt (messageSlice buffer p) 0 ≤ (messageSlice buffer p).length := by
  have hin := hpadded.2
  have hlen := le_padded (nlmsgLenAt buffer p)
  obtain ⟨hheader, hlow, hhigh⟩ := hmessage
  have hsame : nlmsgLenAt (messageSlice buffer p) 0 = nlmsgLenAt buffer p := by
    rw [nlmsgLenAt, messageSlice, leAt_take (by unfold messageStep; omega)]
    exact nlmsgLenAt_drop buffer p
  rw [hsame, messageSlice, List.length_take, List.length_drop]
  unfold messageStep
  omega

/-- `Call` hands the view of every span to its callback, in order. -/
theorem callback_messages (memory : ℕ → Bytes) {fuel : ℕ} {data : Bytes} {spans : List Bytes}
    (h : collect extractMessageFromBuffer fuel data = .ok spans) :
    collect (NetlinkSocket.callback memory) fuel data = spans.mapM (packetViewParser memory) := by
  induction fuel generalizing data spans with
  | zero => cases h
  | succ fuel ih =>
    rw [collect, bind_eq_ok] at h
    obtain ⟨r, hr, hrest⟩ := h
    rw [collect, NetlinkSocket.callback, hr, ok_bind]
    cases r with
    | none =>
      cases hrest
      rfl
    | some found =>
      obtain ⟨span, data'⟩ := found
      simp only [bind_eq_ok] at hrest
      obtain ⟨spans', hspans, heq⟩ := hrest
      cases heq
      rw [List.mapM_cons]
      cases hview : packetViewParser memory span with
      | error fault => simp only [hview, error_bind]
      | ok view => simp only [hview, ok_bind, ih hspans, pure_eq_ok]

/-- The message loop ends, and its spans are the messages of the buffer: they lie one after
another from its start on, each one covers what its header announces, and no message is
left in what remains. The callback gets the views of these spans. -/
def Sliced (memory : ℕ → Bytes) : Prop :=
  ∃ (spans : List Bytes) (rest : Bytes),
    collect extractMessageFromBuffer (buffer.length + 1) buffer = .ok spans ∧
    collect (NetlinkSocket.callback memory) (buffer.length + 1) buffer =
      spans.mapM (packetViewParser memory) ∧
    buffer = spans.flatten ++ rest ∧
    (∀ span ∈ spans, 16 ≤ nlmsgLenAt span 0 ∧ nlmsgLenAt span 0 ≤ span.length) ∧
    ¬ MessageAt rest 0

end

/-- **The loop cuts a buffer into its messages exactly if the padding of every message that
it gets to is there**, and no length is too long to be rounded up. -/
theorem call_sliced (memory : ℕ → Bytes) (buffer : Bytes) : Sliced buffer memory ↔ Padded buffer := by
  constructor
  · rintro ⟨spans, rest, hcollect, -⟩
    exact (messages_ok_iff buffer).1 ⟨spans, hcollect⟩
  · intro hpadded
    obtain ⟨ps, q, hvisits, hcollect⟩ := collect_visits buffer.drop (extract_end buffer)
      (extract_next buffer) hpadded (Nat.zero_le _) (show buffer.length - 0 < buffer.length + 1 by omega)
    refine ⟨_, buffer.drop q, hcollect, callback_messages memory hcollect, ?_, ?_, ?_⟩
    · exact hvisits.flatten buffer
    · intro span hspan
      obtain ⟨p, hp, rfl⟩ := List.mem_map.1 hspan
      have hmessage := hvisits.more_of_mem p hp
      exact messageSlice_covers hmessage (hpadded p (hvisits.reaches p hp) hmessage)
    · intro hrest
      have hq : q ≤ buffer.length := by
        by_contra hout
        have hheader := hrest.1
        rw [List.length_drop] at hheader
        omega
      exact hvisits.ends ((messageAt_drop hq).1 hrest)

/-- A message with one byte of payload, whose padding would lie after the end of the buffer. -/
def unpaddedMessage : Bytes := [17, 0, 0, 0, 24, 0, 0, 0, 1, 0, 0, 0, 0, 0, 0, 0, 7]

theorem call_unpadded :
    MessageAt unpaddedMessage 0 ∧ ¬ Sliced unpaddedMessage fun _ => [] := by
  refine ⟨by decide, ?_⟩
  rintro ⟨spans, rest, hcollect, -⟩
  have hfault : collect extractMessageFromBuffer (unpaddedMessage.length + 1) unpaddedMessage =
      .error .outOfRange := by decide +kernel
  rw [hfault] at hcollect
  cases hcollect

end Ndisc.Netlink
