import Ndisc.Spec.Clients

/-!
# Which clients are held

* `live`: the sockets that were accepted and added and have not ended, in order.
* `Kept`: the invariant. Without the sockets that have ended, the repository holds the
  live ones; and while it holds one that has ended, it is notified.
* `clients_kept`: **so after any calls; and a call of the repository leaves the live ones.**
-/

namespace Ndisc.Client

open Run

/-! ## The property -/

/-- What a call shows of the sockets. -/
inductive Sighting
  | added (number : ℕ)
  | ended (number : ℕ)
  deriving DecidableEq

def sightings (r : ClientRepository) : ClientEvent → List Sighting
  | .listenSocket accepted added => if accepted ∧ added then [.added r.accepted] else []
  | .senderSocket number msg _ =>
    if r.holds number ∧ msg.reaction = .notify then [.ended number] else []
  | .repository _ => []

/-- The sockets that were accepted and added, in order. -/
def addedIn (seen : List Sighting) : List ℕ :=
  seen.filterMap fun
    | .added number => some number
    | .ended _ => none

/-- Those of them that have not seen the end of their stream. -/
def live (seen : List Sighting) : List ℕ :=
  (addedIn seen).filter fun number => .ended number ∉ seen

/-- A `write` to the `eventfd` succeeds, if the call makes one. -/
def Writes : ClientEvent → Prop
  | .senderSocket _ msg written => msg.reaction = .notify → written = true
  | _ => True

instance : DecidablePred Writes
  | .senderSocket _ msg written => inferInstanceAs (Decidable (msg.reaction = .notify → written = true))
  | .listenSocket _ _ => inferInstanceAs (Decidable True)
  | .repository _ => inferInstanceAs (Decidable True)

/-! ## The invariant -/

/-- The numbers of the sockets that have not ended. -/
def unended (sockets : List ClientSenderSocket) : List ℕ :=
  (sockets.filter fun socket => !socket.eofReceived).map ClientSenderSocket.number

structure Kept (r : ClientRepository) (seen : List Sighting) : Prop where
  notified : ∀ socket ∈ r.transportSockets, socket.eofReceived = true → r.socket ≠ 0
  live : unended r.transportSockets = live seen
  known : ∀ number, Sighting.ended number ∈ seen → number < r.accepted
  numbered : ∀ socket ∈ r.transportSockets, socket.number < r.accepted

theorem kept_create : Kept .create [] where
  notified := by intro socket h; cases h
  live := rfl
  known := by intro number h; cases h
  numbered := by intro socket h; cases h

theorem live_added {seen : List Sighting} {number : ℕ} (hnew : Sighting.ended number ∉ seen) :
    live (seen ++ [.added number]) = live seen ++ [number] := by
  have hadded : addedIn (seen ++ [.added number]) = addedIn seen ++ [number] := by
    rw [addedIn, List.filterMap_append]; rfl
  have hended : ∀ n, Sighting.ended n ∈ seen ++ [.added number] ↔ Sighting.ended n ∈ seen := by
    intro n
    simp
  rw [live, hadded, List.filter_append]
  simp only [hended]
  rw [List.filter_cons_of_pos (by simpa using hnew)]
  rfl

theorem live_ended (seen : List Sighting) (number : ℕ) :
    live (seen ++ [.ended number]) = (live seen).filter fun n => n ≠ number := by
  have hadded : addedIn (seen ++ [.ended number]) = addedIn seen := by
    rw [addedIn, List.filterMap_append]
    exact List.append_nil _
  rw [live, live, hadded, List.filter_filter]
  apply List.filter_congr
  intro n _
  simp [and_comm]

/-- The end of one stream takes one number out. -/
theorem unended_mark (sockets : List ClientSenderSocket) (number : ℕ) :
    unended (sockets.map fun socket =>
      if socket.number = number then { socket with eofReceived := true } else socket) =
        (unended sockets).filter fun n => n ≠ number := by
  unfold unended
  induction sockets with
  | nil => rfl
  | cons socket sockets ih =>
    rw [List.map_cons]
    by_cases hnumber : socket.number = number
    · cases hended : socket.eofReceived <;> simpa [hnumber, hended] using ih
    · cases hended : socket.eofReceived <;> simpa [hnumber, hended] using ih

section

variable {r : ClientRepository} {seen : List Sighting}

/-- **A call of the listening socket.** -/
theorem accept_kept (h : Kept r seen) (accepted added : Bool) :
    Kept (r.accept accepted added) (seen ++ sightings r (.listenSocket accepted added)) := by
  cases accepted with
  | false =>
    rw [ClientRepository.accept, sightings, if_neg (by simp), if_neg (by simp), List.append_nil]
    exact h
  | true =>
    cases added with
    | false =>
      rw [sightings, if_neg (by simp), List.append_nil]
      refine ⟨h.notified, h.live, ?_, ?_⟩
      · intro number hn
        exact Nat.lt_succ_of_lt (h.known number hn)
      · intro socket hsocket
        exact Nat.lt_succ_of_lt (h.numbered socket hsocket)
    | true =>
      have hnew : Sighting.ended r.accepted ∉ seen := fun hn => Nat.lt_irrefl _ (h.known _ hn)
      rw [sightings, if_pos ⟨rfl, rfl⟩]
      refine ⟨?_, ?_, ?_, ?_⟩
      · intro socket hsocket hended
        rcases List.mem_append.1 hsocket with hold | hlast
        · exact h.notified socket hold hended
        · rw [List.mem_singleton.1 hlast] at hended
          cases hended
      · rw [live_added hnew, ← h.live]
        simp [ClientRepository.accept, ClientRepository.add, unended]
      · intro number hn
        have hold : Sighting.ended number ∈ seen := by simpa using hn
        exact Nat.lt_succ_of_lt (h.known number hold)
      · intro socket hsocket
        rcases List.mem_append.1 hsocket with hold | hlast
        · exact Nat.lt_succ_of_lt (h.numbered socket hold)
        · rw [List.mem_singleton.1 hlast]
          exact Nat.lt_succ_self _

/-- **A call of a client's socket.** Another end of the same stream changes nothing but the
counter. -/
theorem callSender_kept (h : Kept r seen) (number : ℕ) (msg : Datagram) {written : Bool}
    (hwritten : msg.reaction = .notify → written = true) :
    Kept (r.callSender number msg written)
      (seen ++ sightings r (.senderSocket number msg written)) := by
  by_cases hheld : r.holds number = true
  case neg =>
    rw [ClientRepository.callSender, if_neg hheld, sightings, if_neg (fun hc => hheld hc.1),
      List.append_nil]
    exact h
  by_cases hend : msg.reaction = .notify
  case neg =>
    -- what is held stays as it is
    have hsame : r.callSender number msg written = r := by
      rw [ClientRepository.callSender, if_pos hheld]
      simp [ClientSenderSocket.call, hend]
    rw [hsame, sightings, if_neg (fun hc => hend hc.2), List.append_nil]
    exact h
  have hcall : r.callSender number msg written = { r with
      transportSockets := r.transportSockets.map fun socket =>
        if socket.number = number then { socket with eofReceived := true } else socket
      socket := r.socket + 1 } := by
    rw [ClientRepository.callSender, if_pos hheld]
    simp [ClientSenderSocket.call, hend, hwritten hend]
  rw [hcall, sightings, if_pos ⟨hheld, hend⟩]
  refine ⟨fun _ _ _ => Nat.succ_ne_zero r.socket, ?_, ?_, ?_⟩
  · rw [live_ended, ← h.live]
    exact unended_mark r.transportSockets number
  · intro n hn
    rcases List.mem_append.1 hn with hold | hlast
    · exact h.known n hold
    · obtain rfl : n = number := by simpa using hlast
      obtain ⟨socket, hsocket, heq⟩ := List.any_eq_true.1 hheld
      rw [← beq_iff_eq.1 heq]
      exact h.numbered socket hsocket
  · intro socket hsocket
    obtain ⟨socket', hsocket', rfl⟩ := List.mem_map.1 hsocket
    have hlt := h.numbered socket' hsocket'
    split <;> exact hlt

/-- **A call of the repository.** -/
theorem call_kept (h : Kept r seen) (read : Bool) :
    Kept (r.call read) (seen ++ sightings r (.repository read)) := by
  rw [sightings, List.append_nil, ClientRepository.call, Sweep.sweep_eq_filter]
  refine ⟨?_, ?_, h.known, ?_⟩
  · intro socket hsocket hended
    have hnot := (List.mem_filter.1 hsocket).2
    rw [hended] at hnot
    cases hnot
  · rw [← h.live, unended, List.filter_filter]
    simp [unended]
  · intro socket hsocket
    exact h.numbered socket (List.mem_filter.1 hsocket).1

theorem step_kept (h : Kept r seen) {e : ClientEvent} (he : Writes e) :
    Kept (r.step e) (seen ++ sightings r e) := by
  cases e with
  | listenSocket accepted added => exact accept_kept h accepted added
  | senderSocket number msg written => exact callSender_kept h number msg he
  | repository read => exact call_kept h read

end

/-! ## Runs -/

/-- **The clients that are held.** After any calls of the handlers, in any order, with
any number of calls for one end of a stream, if the writes to the `eventfd` succeed: while
the repository holds a socket that has ended, the counter is not 0; and a call of the
repository leaves exactly the sockets that were accepted and added and have not ended, in
the order in which they were accepted. -/
theorem clients_kept (es : List ClientEvent) (hes : ∀ e ∈ es, Writes e) :
    (∀ socket ∈ (run ClientRepository.step .create es).transportSockets,
      socket.eofReceived = true → (run ClientRepository.step .create es).socket ≠ 0) ∧
    ∀ read, ((run ClientRepository.step .create es).call read).transportSockets =
      (live (observe ClientRepository.step sightings .create es)).map fun number => ⟨number, false⟩ := by
  have hkept : Kept (run ClientRepository.step .create es)
      (observe ClientRepository.step sightings .create es) := by
    induction es using List.reverseRecOn with
    | nil => exact kept_create
    | append_singleton es e ih =>
      rw [run_concat, observe_concat]
      exact step_kept (ih fun x hx => hes x (List.mem_append_left _ hx)) (hes e (by simp))
  refine ⟨hkept.notified, fun read => ?_⟩
  rw [ClientRepository.call, Sweep.sweep_eq_filter, ← hkept.live, unended, List.map_map]
  -- a socket that has not ended is told by its number
  rw [List.map_congr_left (g := id), List.map_id]
  rintro ⟨number, ended⟩ hsocket
  have hnot := (List.mem_filter.1 hsocket).2
  rw [Bool.not_eq_true'] at hnot
  exact congrArg (ClientSenderSocket.mk number) hnot.symm

/-- Four clients, the third one not added; two of the others go, one of them seen twice. -/
theorem clients_kept_two : ((run ClientRepository.step .create [.listenSocket true true,
    .listenSocket true true, .listenSocket true false, .listenSocket true true,
    .senderSocket 3 ⟨0, 0⟩ true, .senderSocket 0 ⟨0, 0⟩ true, .senderSocket 3 ⟨0, 0⟩ true,
    .senderSocket 1 ⟨2, 7⟩ true]).call true).transportSockets = [⟨1, false⟩] :=
  (clients_kept _ (by decide)).2 true

end Ndisc.Client
