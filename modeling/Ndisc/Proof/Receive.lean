import Ndisc.Lib.Run
import Ndisc.Spec.Receive

/-!
# What the monitor hands on

The buffer of `EthernetLldpMonitor` grows with the frames that come, and still holds what
earlier ones left in it.

* `peek_length`: a peek makes room for the frame, up to `MAX_FRAME_BUFFER_SIZE`.
* `call_handed`: the callback gets the first bytes of the frame that was taken, as many as
  the peek announced, and nothing else.
* `frames_delivered`: **whatever came before, a frame is handed on as it is if it has at most
  1600 bytes, and dropped otherwise.**
-/

namespace Ndisc

open Wire Run

namespace EthernetLldpMonitor

/-! ## One call of `recvmsg` -/

theorem recvmsg_eq (buffer frame : Bytes) :
    recvmsg buffer frame = frame.take buffer.length ++ buffer.drop (min frame.length buffer.length) := by
  rw [recvmsg, overwrite, List.take_zero, List.nil_append, List.length_take, Nat.zero_add,
    Nat.min_comm]

theorem recvmsg_length (buffer frame : Bytes) : (recvmsg buffer frame).length = buffer.length := by
  rw [recvmsg_eq, List.length_append, List.length_take, List.length_drop]
  omega

/-- What was read lies at the front, and nothing older. -/
theorem recvmsg_take (buffer frame : Bytes) :
    (recvmsg buffer frame).take (min frame.length buffer.length) = frame.take buffer.length := by
  have hlen : (frame.take buffer.length).length = min frame.length buffer.length := by
    rw [List.length_take, Nat.min_comm]
  rw [recvmsg_eq, ← hlen, List.take_left]

/-- **A peek makes room for the frame**, up to `MAX_FRAME_BUFFER_SIZE`. -/
theorem peek_length {m : EthernetLldpMonitor} (h : m.messageBuffer.length ≤ maxFrameBufferSize)
    (frame : Bytes) :
    (m.peek frame).messageBuffer.length =
      max m.messageBuffer.length (min frame.length maxFrameBufferSize) := by
  unfold peek
  simp only [recvmsg_length]
  split
  · simp only [resize_length]
    split <;> omega
  · rw [recvmsg_length]
    omega

/-! ## One call of the monitor -/

/-- What the monitor hands on in a call. -/
def handed (m : EthernetLldpMonitor) (r : FrameReceived) : List (SockaddrLl × Bytes) :=
  (m.call r).2.toList

def step (m : EthernetLldpMonitor) (r : FrameReceived) : EthernetLldpMonitor := (m.call r).1

end EthernetLldpMonitor

namespace FrameReceived

/-- The room that a call needs. -/
def room (r : FrameReceived) : ℕ := min (r.peeked.elim 0 List.length) maxFrameBufferSize

/-- The second call takes the frame that the first one peeked at. -/
def Steady (r : FrameReceived) : Prop :=
  ∀ peeked frame, r.peeked = some peeked → r.received = some frame → peeked = frame

/-- The frame, if both calls of `recvmsg` succeed and it is not too long. -/
def delivered (r : FrameReceived) : Option (SockaddrLl × Bytes) :=
  match r.peeked, r.received with
  | some _, some frame =>
    if frame.length ≤ maxFrameBufferSize then some (r.address, frame) else none
  | _, _ => none

end FrameReceived

namespace EthernetLldpMonitor

variable {m : EthernetLldpMonitor} {r : FrameReceived}

theorem step_length (h : m.messageBuffer.length ≤ maxFrameBufferSize) :
    (m.step r).messageBuffer.length = max m.messageBuffer.length r.room := by
  unfold step call FrameReceived.room
  cases r.peeked with
  | none =>
    show m.messageBuffer.length = max m.messageBuffer.length (min 0 maxFrameBufferSize)
    omega
  | some peeked =>
    have hpeek := peek_length h peeked
    cases r.received with
    | none => exact hpeek
    | some frame =>
      simp only
      split <;> exact (recvmsg_length _ _).trans hpeek

/-- **Nothing but the frame that was taken** is handed on, cut to the length of the one that
was peeked at. -/
theorem call_handed {address : SockaddrLl} {bytes : Bytes} (h : (address, bytes) ∈ m.handed r) :
    address = r.address ∧ ∃ peeked frame, r.peeked = some peeked ∧ r.received = some frame ∧
      bytes = frame.take peeked.length ∧ peeked.length ≤ frame.length := by
  unfold handed call at h
  cases hp : r.peeked with
  | none => rw [hp] at h; cases h
  | some peeked =>
    cases hr : r.received with
    | none => rw [hp, hr] at h; cases h
    | some frame =>
      rw [hp, hr] at h
      simp only at h
      split at h
      · rename_i hlen
        obtain ⟨rfl, rfl⟩ := Prod.mk.inj (List.mem_singleton.1 h)
        refine ⟨rfl, peeked, frame, rfl, rfl, ?_, by omega⟩
        rw [recvmsg_take, ← hlen, List.take_eq_take_iff]
        omega
      · cases h

/-- **A frame that fits is handed on as it is**, whatever the buffer held. -/
theorem handed_eq (h : m.messageBuffer.length ≤ maxFrameBufferSize) (hr : r.Steady) :
    m.handed r = r.delivered.toList := by
  unfold handed call FrameReceived.delivered
  cases hp : r.peeked with
  | none => rfl
  | some peeked =>
    cases hf : r.received with
    | none => rfl
    | some frame =>
      obtain rfl := hr peeked frame hp hf
      have hroom := peek_length h peeked
      by_cases hfits : peeked.length ≤ maxFrameBufferSize
      · have hlen : min peeked.length (m.peek peeked).messageBuffer.length = peeked.length := by
          omega
        have htake : (recvmsg (m.peek peeked).messageBuffer peeked).take peeked.length = peeked := by
          have hread := recvmsg_take (m.peek peeked).messageBuffer peeked
          rw [hlen] at hread
          rw [hread, List.take_of_length_le (by omega)]
        simp only [hlen, if_true, if_pos hfits, htake]
      · have hlen : min peeked.length (m.peek peeked).messageBuffer.length ≠ peeked.length := by
          omega
        simp only [if_neg hlen, if_neg hfits]

/-! ## Any calls -/

theorem run_length (calls : List FrameReceived) :
    (run step create calls).messageBuffer.length =
      (calls.map FrameReceived.room).foldl max 2 ∧
    (run step create calls).messageBuffer.length ≤ maxFrameBufferSize := by
  induction calls using List.reverseRecOn with
  | nil => decide
  | append_singleton calls r ih =>
    obtain ⟨heq, hle⟩ := ih
    have hroom : r.room ≤ maxFrameBufferSize := Nat.min_le_right _ _
    rw [run_concat, step_length hle, List.map_append, List.foldl_append, ← heq]
    exact ⟨rfl, max_le hle hroom⟩

end EthernetLldpMonitor

open EthernetLldpMonitor

/-- **What the monitor hands on.** After any calls the buffer has the size of the longest
frame that was peeked at, but at least 2 and at most 1600 bytes. What a call hands on are
the first bytes of the very frame it took, as many as it was told by the peek, and nothing
that an earlier frame left in the buffer. And where both calls of `recvmsg` see the same
frame, exactly the frames of at most 1600 bytes are handed on, unchanged and in order. -/
theorem frames_delivered (calls : List FrameReceived) :
    ((run EthernetLldpMonitor.step create calls).messageBuffer.length =
        (calls.map FrameReceived.room).foldl max 2 ∧
      (run EthernetLldpMonitor.step create calls).messageBuffer.length ≤ maxFrameBufferSize) ∧
    (∀ address bytes, (address, bytes) ∈ observe EthernetLldpMonitor.step handed create calls →
      ∃ r ∈ calls, address = r.address ∧ ∃ peeked frame, r.peeked = some peeked ∧
        r.received = some frame ∧ bytes = frame.take peeked.length ∧
        bytes.length = peeked.length) ∧
    ((∀ r ∈ calls, r.Steady) →
      observe EthernetLldpMonitor.step handed create calls = calls.filterMap FrameReceived.delivered) := by
  refine ⟨run_length calls, ?_, ?_⟩
  · intro address bytes hmem
    obtain ⟨before, r, after, rfl, hobs⟩ := mem_observe hmem
    obtain ⟨haddress, peeked, frame, hp, hf, hbytes, hle⟩ := call_handed hobs
    refine ⟨r, by simp, haddress, peeked, frame, hp, hf, hbytes, ?_⟩
    rw [hbytes, List.length_take]
    omega
  · intro hsteady
    induction calls using List.reverseRecOn with
    | nil => rfl
    | append_singleton calls r ih =>
      have hr := handed_eq (run_length calls).2 (hsteady r (by simp))
      rw [observe_concat, ih fun x hx => hsteady x (List.mem_append_left _ hx), hr,
        List.filterMap_append]
      cases hd : r.delivered <;> simp [hd]

end Ndisc
