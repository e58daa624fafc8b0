import Ndisc.Lib.Run
import Ndisc.Proof.Dump
import Ndisc.Spec.Connection

/-!
# Whose answer a call returns

`GetData` stops at the first terminator in the stream, whichever request it answers.

* `getDataLoop_deliver`: what the loop takes from the stream, and why it stops.
* `dumpData_form`: an answer has its terminator at its end and nowhere else.
* `after_invariant`: the stream is empty while every call drains its answer, and holds a
  terminator from the first call on that does not.
* `getData_own_iff`: **a call that completes returns its own answer exactly if every
  earlier call drained its own.**
-/

namespace Ndisc.Client

open Wire Run NeighbourDataType
open Std (ExtTreeMap)

/-! ## Reading from the stream -/

theorem packetsOf_deliver (script : List (Option ℤ)) (ps : List ClientPacket) :
    packetsOf (deliver script ps) = ps := by
  fun_induction deliver script ps with
  | case1 ps => simp [packetsOf, List.filterMap_map]
  | case2 errno script ps ih => exact ih
  | case3 script p ps ih => exact congrArg (p :: ·) ih
  | case4 script ih => exact ih

/-- In `rounds` calls of `recvmsg`, `n` packets are delivered and no call fails but with
`EAGAIN`. -/
def Delivers : ℕ → List (Option ℤ) → ℕ → Prop
  | _, _, 0 => True
  | 0, _, _ + 1 => False
  | rounds + 1, [], n + 1 => Delivers rounds [] n
  | rounds + 1, none :: script, n + 1 => Delivers rounds script n
  | rounds + 1, some errno :: script, n + 1 => errno = eagain ∧ Delivers rounds script (n + 1)

theorem Delivers.mono {rounds : ℕ} {script : List (Option ℤ)} {m n : ℕ}
    (h : Delivers rounds script n) (hle : m ≤ n) : Delivers rounds script m := by
  fun_induction Delivers rounds script n generalizing m with
  | case1 => rw [Nat.le_zero.1 hle]; unfold Delivers; trivial
  | case2 => exact h.elim
  | case3 rounds n ih =>
    cases m with
    | zero => unfold Delivers; trivial
    | succ m => exact ih h (Nat.le_of_succ_le_succ hle)
  | case4 rounds script n ih =>
    cases m with
    | zero => unfold Delivers; trivial
    | succ m => exact ih h (Nat.le_of_succ_le_succ hle)
  | case5 rounds errno script n ih =>
    cases m with
    | zero => unfold Delivers; trivial
    | succ m => exact ⟨h.1, ih h.2 hle⟩

theorem Delivers.le {rounds : ℕ} {script : List (Option ℤ)} {n : ℕ}
    (h : Delivers rounds script n) : n ≤ rounds := by
  fun_induction Delivers rounds script n with
  | case1 => exact Nat.zero_le _
  | case2 => exact h.elim
  | case3 rounds n ih => exact Nat.succ_le_succ (ih h)
  | case4 rounds script n ih => exact Nat.succ_le_succ (ih h)
  | case5 rounds errno script n ih => exact (ih h.2).trans (Nat.le_succ _)

/-- A packet of a type that the client knows. -/
def Known (p : ClientPacket) : Prop := p.type.toNat ≤ 5

/-- Only the terminator ends the loop. -/
theorem processDataPacket_goOn {packet : DataPacket} (h : packet ≠ .monostate) (m m' : ClientMaps)
    (goOn : Bool) (heq : processDataPacket m packet = .ok (m', goOn)) : goOn = true := by
  cases packet with
  | monostate => exact absurd rfl h
  | chassisEntry e =>
    rw [processDataPacket] at heq
    cases hname : subspan e.name.toList 0 e.nameLength.toNat with
    | error f => rw [hname] at heq; cases heq
    | ok name => rw [hname] at heq; cases heq; rfl
  | neighbourEntry e =>
    rw [processDataPacket] at heq
    cases hport : subspan e.neighbourPort.toList 0 e.portSize.toNat with
    | error f => rw [hport] at heq; cases heq
    | ok port => rw [hport] at heq; cases heq; rfl
  | localInterfaceEntry e =>
    rw [processDataPacket] at heq
    cases hname : cString e.name.toList with
    | error f => rw [hname] at heq; cases heq
    | ok name => rw [hname] at heq; cases heq; rfl
  | ipEntry e => cases heq; rfl
  | ipv6Entry e => cases heq; rfl

/-- A packet that is no terminator is some entry. -/
theorem readDataPacket_entry {p : ClientPacket} (hknown : Known p) (h : p.type ≠ endOfData) :
    ∃ packet, readDataPacket (.packet p) = .ok packet ∧ packet ≠ .monostate := by
  have hcases : p.type = endOfData ∨ p.type = chassisEntry ∨ p.type = neighbourEntry ∨
      p.type = ipEntry ∨ p.type = ipv6Entry ∨ p.type = localInterfaceEntry := by
    unfold Known at hknown
    simp only [← UInt8.toNat_inj]
    unfold endOfData chassisEntry neighbourEntry ipEntry ipv6Entry localInterfaceEntry
    simp only [UInt8.reduceToNat]
    omega
  simp only [readDataPacket, if_neg h]
  rcases hcases with htype | htype | htype | htype | htype | htype
  · exact absurd htype h
  all_goals
    rw [htype]
    exact ⟨_, rfl, by rintro ⟨⟩⟩

/-- Why a call of `GetData` stops, when it has read `read` from the stream. -/
inductive Stopped (rounds : ℕ) (script : List (Option ℤ)) (m : ClientMaps) (read : List ClientPacket)
    (map : ExtTreeMap UInt16 NeighbourDeviceData) : Prop
  /-- It has read a terminator, and its map is what these packets make on their own. -/
  | completed (body : List ClientPacket) (last : ClientPacket) (hread : read = body ++ [last])
      (hlast : last.type = endOfData) (hbody : ∀ p ∈ body, p.type ≠ endOfData)
      (hdelivers : Delivers rounds script read.length)
      (halone : ∀ j, read.length ≤ j → getDataLoop j m (read.map .packet) = .ok (some (map, [])))
  /-- The next packet could not be delivered. -/
  | early (hread : ∀ p ∈ read, p.type ≠ endOfData)
      (hdelivers : ¬ Delivers rounds script (read.length + 1))

/-- One more packet in front, that is no terminator. -/
theorem Stopped.cons {rounds : ℕ} {script script' : List (Option ℤ)} {m m' : ClientMaps}
    {read : List ClientPacket} {map : ExtTreeMap UInt16 NeighbourDeviceData} {p : ClientPacket}
    {packet : DataPacket} (h : Stopped rounds script m' read map) (hp : p.type ≠ endOfData)
    (hread : readDataPacket (.packet p) = .ok packet)
    (hprocess : processDataPacket m packet = .ok (m', true))
    (hscript : ∀ n, Delivers (rounds + 1) script' (n + 1) ↔ Delivers rounds script n) :
    Stopped (rounds + 1) script' m (p :: read) map := by
  have hbody : ∀ {ps : List ClientPacket}, (∀ q ∈ ps, q.type ≠ endOfData) →
      ∀ q ∈ p :: ps, q.type ≠ endOfData := by
    intro ps hps q hq
    rcases List.mem_cons.1 hq with rfl | hq
    · exact hp
    · exact hps q hq
  cases h with
  | completed body last hbodylast hlast hall hdelivers halone =>
    refine .completed (p :: body) last (by rw [hbodylast]; rfl) hlast (hbody hall)
      ((hscript _).2 hdelivers) ?_
    -- alone, the packet takes one round, and the rest go on from the map after it
    rintro (_ | j) hj
    · exact absurd hj (by simp)
    · rw [List.map_cons, getDataLoop, hread]
      simp only [hprocess, ok_bind, if_true]
      exact halone j (Nat.le_of_succ_le_succ hj)
  | early hall hdelivers => exact .early (hbody hall) fun h => hdelivers ((hscript _).1 h)

/-- A call of `recvmsg` that only costs a round. -/
theorem Stopped.eagain {rounds : ℕ} {script : List (Option ℤ)} {m : ClientMaps}
    {read : List ClientPacket} {map : ExtTreeMap UInt16 NeighbourDeviceData} {errno : ℤ}
    (h : Stopped rounds script m read map) (he : errno = Client.eagain) :
    Stopped (rounds + 1) (some errno :: script) m read map := by
  have hdelivers : ∀ n, Delivers (rounds + 1) (some errno :: script) (n + 1) ↔
      Delivers rounds script (n + 1) := fun n => and_iff_right he
  cases h with
  | completed body last hread hlast hbody hdel halone =>
    have hlen : read.length = body.length + 1 := by
      rw [hread, List.length_append, List.length_singleton]
    rw [hlen] at hdel
    exact .completed body last hread hlast hbody (hlen ▸ (hdelivers _).2 hdel) halone
  | early hread hdel => exact .early hread fun hno => hdel ((hdelivers _).1 hno)

/-- **One round on a packet**: a terminator ends the loop, and any other packet changes the
maps. -/
theorem getDataLoop_packet {rounds : ℕ} {m : ClientMaps} {p : ClientPacket} {queue rest : List Recv}
    {map : ExtTreeMap UInt16 NeighbourDeviceData} (hknown : Known p)
    (h : getDataLoop (rounds + 1) m (.packet p :: queue) = .ok (some (map, rest))) :
    (p.type = endOfData ∧ rest = queue ∧
      ∀ j, getDataLoop (j + 1) m [.packet p] = .ok (some (map, []))) ∨
    (p.type ≠ endOfData ∧ ∃ packet m', readDataPacket (.packet p) = .ok packet ∧
      processDataPacket m packet = .ok (m', true) ∧
      getDataLoop rounds m' queue = .ok (some (map, rest))) := by
  rw [getDataLoop] at h
  by_cases hp : p.type = endOfData
  · have hread : readDataPacket (.packet p) = .ok .monostate := by
      rw [readDataPacket, if_pos hp]
    rw [hread] at h
    cases h
    refine Or.inl ⟨hp, rfl, fun j => ?_⟩
    rw [getDataLoop, hread]
    rfl
  · obtain ⟨packet, hread, hentry⟩ := readDataPacket_entry hknown hp
    rw [hread] at h
    cases hprocess : processDataPacket m packet with
    | error f =>
      simp only [hprocess] at h
      cases h
    | ok result =>
      obtain ⟨m', goOn⟩ := result
      obtain rfl := processDataPacket_goOn hentry m m' goOn hprocess
      simp only [hprocess, ok_bind, if_true] at h
      exact Or.inr ⟨hp, packet, m', hread, hprocess, h⟩

/-- **What the loop takes from a stream with a terminator in it**, by induction on the
rounds: a first part, up to a terminator or to the packet that is not delivered. -/
theorem getDataLoop_deliver (rounds : ℕ) (m : ClientMaps) (script : List (Option ℤ))
    (queue : List ClientPacket) (hend : ∃ p ∈ queue, p.type = endOfData)
    (hknown : ∀ p ∈ queue, Known p) {map : ExtTreeMap UInt16 NeighbourDeviceData} {rest : List Recv}
    (h : getDataLoop rounds m (deliver script queue) = .ok (some (map, rest))) :
    ∃ read left, queue = read ++ left ∧ packetsOf rest = left ∧ Stopped rounds script m read map := by
  induction rounds generalizing m script queue with
  | zero =>
    cases h
    refine ⟨[], queue, rfl, packetsOf_deliver script queue, .early (fun p hp => by cases hp) ?_⟩
    exact fun hno => hno
  | succ rounds ih =>
    obtain ⟨p, ps, rfl⟩ : ∃ p ps, queue = p :: ps := by
      obtain ⟨q, hq, -⟩ := hend
      exact List.exists_cons_of_ne_nil (List.ne_nil_of_mem hq)
    -- a packet is delivered, whether the script says so or is over
    have hpacket : ∀ script' : List (Option ℤ),
        (∀ n, Delivers (rounds + 1) script (n + 1) ↔ Delivers rounds script' n) →
        getDataLoop (rounds + 1) m (.packet p :: deliver script' ps) = .ok (some (map, rest)) →
        ∃ read left, p :: ps = read ++ left ∧ packetsOf rest = left ∧
          Stopped (rounds + 1) script m read map := by
      intro script' hscript hloop
      rcases getDataLoop_packet (hknown p List.mem_cons_self) hloop with
        ⟨hp, rfl, halone⟩ | ⟨hp, packet, m', hread, hprocess, hrest⟩
      · refine ⟨[p], ps, rfl, packetsOf_deliver script' ps, .completed [] p rfl hp
          (fun q hq => by cases hq) ((hscript 0).2 (by unfold Delivers; trivial)) ?_⟩
        rintro (_ | j) hj
        · exact absurd hj (by simp)
        · exact halone j
      · -- the terminator of the stream is further behind
        have hend' : ∃ q ∈ ps, q.type = endOfData := by
          obtain ⟨q, hq, htype⟩ := hend
          rcases List.mem_cons.1 hq with rfl | hq
          · exact absurd htype hp
          · exact ⟨q, hq, htype⟩
        obtain ⟨read, left, rfl, hleft, hstopped⟩ := ih m' script' ps hend'
          (fun q hq => hknown q (List.mem_cons_of_mem p hq)) hrest
        exact ⟨p :: read, left, rfl, hleft, hstopped.cons hp hread hprocess hscript⟩
    rcases script with _ | ⟨_ | errno, script⟩
    · exact hpacket [] (fun n => Iff.rfl) h
    · exact hpacket script (fun n => Iff.rfl) h
    · rw [deliver, getDataLoop, readDataPacket] at h
      simp only at h
      split at h
      · rename_i heagain
        obtain ⟨read, left, hsplit, hleft, hstopped⟩ := ih m script (p :: ps) hend hknown h
        exact ⟨read, left, hsplit, hleft, hstopped.eagain heagain⟩
      · rename_i hother
        cases h
        exact ⟨[], p :: ps, rfl, packetsOf_deliver script (p :: ps),
          .early (fun q hq => by cases hq) fun hno => hother hno.1⟩

/-! ## An answer -/

/-- A packet of an answer, before its terminator. -/
structure IsEntry (p : ClientPacket) : Prop where
  known : Known p
  goesOn : p.type ≠ endOfData

section

variable (rid : UInt16)

theorem isEntry_chassis (e : ChassisEntry) : IsEntry (.ofChassisEntry rid e) :=
  ⟨show chassisEntry.toNat ≤ 5 by decide, show chassisEntry ≠ endOfData by decide⟩

theorem isEntry_neighbour (e : NeighbourEntry) : IsEntry (.ofNeighbourEntry rid e) :=
  ⟨show neighbourEntry.toNat ≤ 5 by decide, show neighbourEntry ≠ endOfData by decide⟩

theorem isEntry_ip (e : IpEntry) : IsEntry (.ofIpEntry rid e) :=
  ⟨show ipEntry.toNat ≤ 5 by decide, show ipEntry ≠ endOfData by decide⟩

theorem isEntry_ipv6 (e : Ipv6Entry) : IsEntry (.ofIpv6Entry rid e) :=
  ⟨show ipv6Entry.toNat ≤ 5 by decide, show ipv6Entry ≠ endOfData by decide⟩

theorem isEntry_localInterface (e : LocalInterfaceEntry) : IsEntry (.ofLocalInterfaceEntry rid e) :=
  ⟨show localInterfaceEntry.toNat ≤ 5 by decide, show localInterfaceEntry ≠ endOfData by decide⟩

end

/-- A function of the daemon that sends entries, if it stays in its arrays. -/
abbrev SendsEntries (sends : Except CopyFault (List ClientPacket)) : Prop :=
  Outcome (fun ps => ∀ p ∈ ps, IsEntry p) (fun _ => True) sends

/-- A loop of `DumpData` that has sent only entries. -/
abbrev Entries (dump : Dump) : Prop := ∀ p ∈ dump.packets, IsEntry p

theorem copyTo_any (fault : CopyFault) (n : ℕ) (src : Bytes) :
    Outcome (fun _ => True) (fun _ => True) (copyTo fault n src) := by
  cases copyTo fault n src <;> trivial

theorem entries_one {p : ClientPacket} (h : IsEntry p) : ∀ q ∈ [p], IsEntry q := by
  intro q hq
  rwa [List.mem_singleton.1 hq]

theorem entries_append {ps qs : List ClientPacket} (hps : ∀ p ∈ ps, IsEntry p)
    (hqs : ∀ q ∈ qs, IsEntry q) : ∀ p ∈ ps ++ qs, IsEntry p := by
  intro p hp
  rcases List.mem_append.1 hp with hp | hp
  · exact hps p hp
  · exact hqs p hp

section

variable (rid : UInt16) (deviceInfo : ExtTreeMap UInt32 LldpSender)

theorem sendChassisEntryPacket_entries (id : UInt16) (chassisId : Bytes) :
    SendsEntries (sendChassisEntryPacket rid id chassisId) := by
  unfold sendChassisEntryPacket
  split
  · exact fun p hp => by cases hp
  · exact outcome_bind (copyTo_any _ _ _) fun _ _ => entries_one (isEntry_chassis rid _)

theorem sendNeighbourEntry_entries (chassisId id : UInt16) (portId : Bytes) :
    SendsEntries (sendNeighbourEntry rid chassisId id portId) :=
  outcome_bind (copyTo_any _ _ _) fun _ _ => entries_one (isEntry_neighbour rid _)

theorem sendLocalInterfaceEntry_entries (id : UInt16) (neighbour : Ndisc.NeighbourEntry) :
    SendsEntries (sendLocalInterfaceEntry rid id deviceInfo neighbour) := by
  unfold sendLocalInterfaceEntry
  split
  · exact fun p hp => by cases hp
  · split
    · exact fun p hp => by cases hp
    · exact outcome_bind (copyTo_any _ _ _) fun _ _ => entries_one (isEntry_localInterface rid _)

theorem dumpNeighbour_entries {dump : Dump} (h : Entries dump)
    (row : Bytes × Ndisc.NeighbourEntry) :
    Outcome Entries (fun _ => True) (dumpNeighbour rid deviceInfo dump row) := by
  obtain ⟨port, neighbour⟩ := row
  apply outcome_bind (sendNeighbourEntry_entries rid dump.chassisIdCounter dump.neighbourIdCounter port)
  intro entry hentry
  apply outcome_bind (sendLocalInterfaceEntry_entries rid deviceInfo dump.neighbourIdCounter neighbour)
  intro localInterface hlocal
  have hip : ∀ p ∈ neighbour.ipv4Address.toList.map fun address => ClientPacket.ofIpEntry rid
      ⟨dump.neighbourIdCounter, address, List.Vector.replicate 506 0⟩, IsEntry p := by
    intro p hp
    obtain ⟨address, -, rfl⟩ := List.mem_map.1 hp
    exact isEntry_ip rid _
  have hipv6 : ∀ p ∈ neighbour.ipv6Address.toList.map fun address => ClientPacket.ofIpv6Entry rid
      ⟨dump.neighbourIdCounter, address, List.Vector.replicate 494 0⟩, IsEntry p := by
    intro p hp
    obtain ⟨address, -, rfl⟩ := List.mem_map.1 hp
    exact isEntry_ipv6 rid _
  exact entries_append (entries_append (entries_append (entries_append h hentry) hlocal) hip) hipv6

theorem dumpChassis_entries {dump : Dump} (h : Entries dump)
    (row : Bytes × ExtTreeMap Bytes Ndisc.NeighbourEntry) :
    Outcome Entries (fun _ => True) (dumpChassis rid deviceInfo dump row) := by
  obtain ⟨chassisId, portMap⟩ := row
  apply outcome_bind (sendChassisEntryPacket_entries rid dump.chassisIdCounter chassisId)
  intro chassis hchassis
  apply outcome_bind (foldlM_outcome (I := Entries) ?_ (entries_append h hchassis))
  · exact fun d hd => hd
  · exact fun d row _ hd => dumpNeighbour_entries rid deviceInfo hd row

end

/-- **An answer has its terminator at its end and nowhere else.** -/
theorem dumpData_form {neighbourList : NeighbourList} {deviceInfo : ExtTreeMap UInt32 LldpSender}
    {rid : UInt16} {answer : List ClientPacket}
    (h : dumpData neighbourList deviceInfo rid = .ok answer) :
    ∃ body, answer = body ++ [.empty] ∧ ∀ p ∈ body, IsEntry p := by
  have hloop : Outcome Entries (fun _ => True)
      (neighbourList.chassisMap.toList.foldlM (dumpChassis rid deviceInfo) ⟨[], 0, 0⟩) :=
    foldlM_outcome (fun dump row _ hdump => dumpChassis_entries rid deviceInfo hdump row)
      (fun p hp => by cases hp)
  rw [dumpData] at h
  cases hdump : neighbourList.chassisMap.toList.foldlM (dumpChassis rid deviceInfo) ⟨[], 0, 0⟩ with
  | error f => rw [hdump] at h; cases h
  | ok dump =>
    rw [hdump] at h hloop
    cases h
    exact ⟨dump.packets, rfl, hloop⟩

/-! ## One call -/

/-- The calls of `recvmsg` deliver the whole answer: until then they fail only with
`EAGAIN`, and the packet limit is not reached before. -/
def Exchange.Drains (x : Exchange) (requestId : UInt16) : Prop :=
  ∀ answer, dumpData x.neighbourList x.deviceInfo requestId = .ok answer →
    Delivers maxDataTransportPacketAmount x.recvmsg answer.length

/-- A call that read a terminator, and not only up to a failure or its limit. -/
def Reply.Completed (reply : Reply) : Prop :=
  ∃ last, reply.received.getLast? = some last ∧ last.2.type = endOfData

namespace Connection

/-- The call took the packets that answer its own request, all of them and no others, and
its map is what `GetData` makes of these packets alone. -/
def OwnAnswer (c : Connection) (x : Exchange) (reply : Reply) : Prop :=
  ∃ answer, dumpData x.neighbourList x.deviceInfo c.requestId = .ok answer ∧
    reply.received = answer.map (fun p => (c.calls, p)) ∧
    Client.getData (answer.map .packet) = .ok (some (reply.map, []))

/-- What is in the stream: packets the client knows, of earlier calls, and a terminator at
the end. -/
structure Orderly (c : Connection) : Prop where
  known : ∀ q ∈ c.pending, Known q.2
  earlier : ∀ q ∈ c.pending, q.1 < c.calls
  terminated : ∀ q ∈ c.pending.getLast?, q.2.type = endOfData

variable {c c' : Connection} {x : Exchange} {reply : Reply}

/-- The client knows the packets of the stream, those of a new answer behind it included. -/
theorem Orderly.queue_known (hc : c.Orderly) {body : List ClientPacket} (hbody : ∀ p ∈ body, IsEntry p) :
    ∀ q ∈ c.pending ++ (body ++ [ClientPacket.empty]).map fun p => (c.calls, p), Known q.2 := by
  intro q hq
  rcases List.mem_append.1 hq with hold | hnew
  · exact hc.known q hold
  · obtain ⟨p, hp, rfl⟩ := List.mem_map.1 hnew
    rcases List.mem_append.1 hp with hentry | hlast
    · exact (hbody p hentry).known
    · rw [List.mem_singleton.1 hlast]
      exact Nat.zero_le 5

/-- **What a call does**: it takes a first part of the stream, which ends with the answer
to its own request. -/
theorem getData_spec (hc : c.Orderly) (h : c.getData x = some (reply, c')) :
    ∃ body, dumpData x.neighbourList x.deviceInfo c.requestId = .ok (body ++ [ClientPacket.empty]) ∧
      (∀ p ∈ body, IsEntry p) ∧
      c.pending ++ (body ++ [ClientPacket.empty]).map (fun p => (c.calls, p)) = reply.received ++ c'.pending ∧
      c'.requestId = c.requestId + 1 ∧ c'.calls = c.calls + 1 ∧
      Stopped maxDataTransportPacketAmount x.recvmsg .empty (reply.received.map Prod.snd)
        reply.map := by
  unfold getData at h
  cases hdump : dumpData x.neighbourList x.deviceInfo c.requestId with
  | error f => rw [hdump] at h; cases h
  | ok answer =>
    obtain ⟨body, rfl, hbody⟩ := dumpData_form hdump
    simp only [hdump] at h
    set queue := c.pending ++ (body ++ [ClientPacket.empty]).map (fun p => (c.calls, p)) with hqueue
    split at h
    · rename_i map rest hloop
      have hmem : (c.calls, ClientPacket.empty) ∈ queue := by simp [hqueue]
      have hend : ∃ p ∈ queue.map Prod.snd, p.type = endOfData :=
        ⟨.empty, List.mem_map.2 ⟨_, hmem, rfl⟩, rfl⟩
      have hknown : ∀ p ∈ queue.map Prod.snd, Known p := by
        intro p hp
        obtain ⟨q, hq, rfl⟩ := List.mem_map.1 hp
        exact hc.queue_known hbody q hq
      obtain ⟨read, left, hsplit, hleft, hstopped⟩ := getDataLoop_deliver _ _ _ _ hend hknown hloop
      have hlen : queue.length = read.length + left.length := by
        rw [← List.length_append, ← hsplit, List.length_map]
      -- what the loop has not delivered is what stays in the stream
      have hcount : queue.length - (packetsOf rest).length = read.length := by
        rw [hleft, hlen, Nat.add_sub_cancel]
      have hread : (queue.take read.length).map Prod.snd = read := by
        rw [List.map_take, hsplit, List.take_left]
      simp only [hcount, Option.some.injEq, Prod.mk.injEq] at h
      obtain ⟨rfl, rfl⟩ := h
      refine ⟨body, rfl, hbody, (List.take_append_drop _ _).symm, rfl, rfl, ?_⟩
      rw [hread]
      exact hstopped
    · cases h

theorem getData_orderly (hc : c.Orderly) (h : c.getData x = some (reply, c')) : c'.Orderly := by
  obtain ⟨body, -, hbody, hsplit, -, hcalls, -⟩ := getData_spec hc h
  have hmem : ∀ q ∈ c'.pending, q ∈ c.pending ++ (body ++ [ClientPacket.empty]).map fun p => (c.calls, p) := by
    intro q hq
    rw [hsplit]
    exact List.mem_append_right _ hq
  refine ⟨fun q hq => ?_, fun q hq => ?_, fun q hq => ?_⟩
  · exact hc.queue_known hbody q (hmem q hq)
  · rw [hcalls]
    rcases List.mem_append.1 (hmem q hq) with hq | hq
    · exact Nat.lt_succ_of_lt (hc.earlier q hq)
    · obtain ⟨p, -, rfl⟩ := List.mem_map.1 hq
      exact Nat.lt_succ_self _
  · -- what is left ends as the answer ends
    have hlast : (c.pending ++ (body ++ [ClientPacket.empty]).map fun p => (c.calls, p)).getLast? =
        some (c.calls, ClientPacket.empty) := by simp
    rw [hsplit, List.getLast?_append, Option.mem_def.1 hq, Option.some_or] at hlast
    rw [Option.some.inj hlast]
    rfl

/-- Completed or not, and what the loop says then. -/
theorem stopped_cases (h : Stopped maxDataTransportPacketAmount x.recvmsg .empty
      (reply.received.map Prod.snd) reply.map) :
    (reply.Completed ∧
      (∃ b last, reply.received.map Prod.snd = b ++ [last] ∧ ∀ p ∈ b, p.type ≠ endOfData) ∧
      Delivers maxDataTransportPacketAmount x.recvmsg reply.received.length ∧
      ∀ j, reply.received.length ≤ j → getDataLoop j .empty
        ((reply.received.map Prod.snd).map .packet) = .ok (some (reply.map, []))) ∨
    (¬ reply.Completed ∧ (∀ q ∈ reply.received, q.2.type ≠ endOfData) ∧
      ¬ Delivers maxDataTransportPacketAmount x.recvmsg (reply.received.length + 1)) := by
  cases h with
  | completed b last hread hlast hbody hdelivers halone =>
    rw [List.length_map] at hdelivers halone
    left
    refine ⟨?_, ⟨b, last, hread, hbody⟩, hdelivers, halone⟩
    have hgetLast : (reply.received.map Prod.snd).getLast? = some last := by
      rw [hread, List.getLast?_concat]
    rw [List.getLast?_map, Option.map_eq_some_iff] at hgetLast
    obtain ⟨q, hq, rfl⟩ := hgetLast
    exact ⟨q, hq, hlast⟩
  | early hread hdelivers =>
    rw [List.length_map] at hdelivers
    have hno : ∀ q ∈ reply.received, q.2.type ≠ endOfData :=
      fun q hq => hread q.2 (List.mem_map_of_mem hq)
    right
    refine ⟨?_, hno, hdelivers⟩
    rintro ⟨last, hlast, htype⟩
    exact hno last (List.mem_of_getLast? hlast) htype

/-- **A call that leaves nothing found nothing**, and completed. -/
theorem pending_eq_nil_iff (hc : c.Orderly) (h : c.getData x = some (reply, c')) :
    c'.pending = [] ↔ c.pending = [] ∧ reply.Completed := by
  obtain ⟨body, -, hbody, hsplit, -, -, hstopped⟩ := getData_spec hc h
  rw [List.map_append, ← List.append_assoc, List.map_singleton] at hsplit
  constructor
  · intro hnil
    rw [hnil, List.append_nil] at hsplit
    have hlast : reply.received.getLast? = some (c.calls, ClientPacket.empty) := by
      rw [← hsplit, List.getLast?_concat]
    have hcompleted : reply.Completed := ⟨_, hlast, rfl⟩
    refine ⟨?_, hcompleted⟩
    rcases stopped_cases hstopped with ⟨-, ⟨b, last, hread, hb⟩, -⟩ | ⟨hno, -⟩
    · by_contra hne
      -- the terminator that was left is not the one that the call stopped at
      obtain ⟨q, hq⟩ : ∃ q, c.pending.getLast? = some q := ⟨_, List.getLast?_eq_some_getLast hne⟩
      rw [← hsplit, List.map_append, List.map_singleton] at hread
      have hsame := (List.append_inj' hread rfl).1
      refine hb q.2 ?_ (hc.terminated q hq)
      rw [← hsame]
      exact List.mem_map_of_mem (List.mem_append_left _ (List.mem_of_getLast? hq))
    · exact absurd hcompleted hno
  · rintro ⟨hnil, last, hlast, htype⟩
    rcases List.eq_nil_or_concat c'.pending with hdone | ⟨init, z, hmore⟩
    · exact hdone
    · rw [hnil, List.nil_append, hmore, List.concat_eq_append, ← List.append_assoc] at hsplit
      have hsame := (List.append_inj' hsplit rfl).1
      have hmem : last ∈ body.map fun p => (c.calls, p) := by
        rw [hsame]
        exact List.mem_append_left _ (List.mem_of_getLast? hlast)
      obtain ⟨p, hp, rfl⟩ := List.mem_map.1 hmem
      exact absurd htype (hbody p hp).goesOn

/-- On an empty stream, a call completes exactly if its answer is delivered. -/
theorem completed_iff_drains (hc : c.Orderly) (hnil : c.pending = [])
    (h : c.getData x = some (reply, c')) : reply.Completed ↔ x.Drains c.requestId := by
  have hleft := pending_eq_nil_iff hc h
  obtain ⟨body, hdump, -, hsplit, -, -, hstopped⟩ := getData_spec hc h
  rw [hnil, List.nil_append] at hsplit
  have hlen : (body ++ [ClientPacket.empty]).length = reply.received.length + c'.pending.length := by
    rw [← List.length_append, ← hsplit, List.length_map]
  have hdrains : x.Drains c.requestId ↔
      Delivers maxDataTransportPacketAmount x.recvmsg (body ++ [ClientPacket.empty]).length := by
    constructor
    · exact fun hall => hall _ hdump
    · intro hdel answer hanswer
      rw [hdump] at hanswer
      cases hanswer
      exact hdel
  rw [hdrains]
  -- nothing was left over before, so the call reads its own answer, all of it or a part
  rcases stopped_cases hstopped with ⟨hcompleted, -, hdel, -⟩ | ⟨hnot, hno, hdel⟩
  · have hdone : c'.pending = [] := hleft.2 ⟨hnil, hcompleted⟩
    rw [hdone, List.length_nil, Nat.add_zero] at hlen
    rw [hlen]
    exact iff_of_true hcompleted hdel
  · refine iff_of_false hnot fun hall => hdel (hall.mono ?_)
    have hmore : c'.pending ≠ [] := fun hdone => hnot (hleft.1 hdone).2
    have hpos := List.length_pos_of_ne_nil hmore
    omega

/-! ## Many calls -/

/-- Every one of the calls drains its answer. The n-th call has request id n. -/
def AllDrain (exchanges : List Exchange) : Prop :=
  ∀ before x later, exchanges = before ++ x :: later → x.Drains (UInt16.ofNat (before.length + 1))

theorem allDrain_concat (exchanges : List Exchange) (x : Exchange) :
    AllDrain (exchanges ++ [x]) ↔
      AllDrain exchanges ∧ x.Drains (UInt16.ofNat (exchanges.length + 1)) := by
  constructor
  · intro h
    refine ⟨?_, h exchanges x [] rfl⟩
    rintro before y later rfl
    exact h before y (later ++ [x]) (by rw [List.append_assoc, List.cons_append])
  · rintro ⟨hall, hlast⟩ before y later heq
    rcases List.eq_nil_or_concat later with rfl | ⟨later', z, rfl⟩
    · obtain ⟨rfl, hy⟩ := List.append_inj' heq rfl
      rw [← List.singleton_inj.1 hy]
      exact hlast
    · rw [List.concat_eq_append, ← List.cons_append, ← List.append_assoc] at heq
      exact hall before y later' (List.append_inj' heq rfl).1

/-- **The stream between two calls**: in order, and empty as long as every call drained its
answer. -/
theorem after_invariant {exchanges : List Exchange} (h : after exchanges = some c) :
    c.Orderly ∧ c.calls = exchanges.length ∧ c.requestId = UInt16.ofNat (exchanges.length + 1) ∧
      (c.pending = [] ↔ AllDrain exchanges) := by
  induction exchanges using List.reverseRecOn generalizing c with
  | nil =>
    cases h
    have horderly : create.Orderly := by
      refine ⟨?_, ?_, ?_⟩ <;> intro q hq <;> cases hq
    refine ⟨horderly, rfl, rfl, iff_of_true rfl ?_⟩
    rintro before x later heq
    cases before <;> cases heq
  -- the stream is empty after the last call exactly if it was before and that call drained it
  | append_singleton exchanges x ih =>
    rw [after, List.foldlM_append] at h
    obtain ⟨d, hd, hstep⟩ := Option.bind_eq_some_iff.1 h
    obtain ⟨d', hd', hc⟩ := Option.bind_eq_some_iff.1 hstep
    obtain ⟨⟨reply, d''⟩, hcall, rfl⟩ := Option.map_eq_some_iff.1 hd'
    cases hc
    obtain ⟨horderly, hcalls, hid, hdrained⟩ := ih hd
    obtain ⟨-, -, -, -, hid', hcalls', -⟩ := getData_spec horderly hcall
    refine ⟨getData_orderly horderly hcall, ?_, ?_, ?_⟩
    · rw [hcalls', hcalls, List.length_append, List.length_singleton]
    · rw [hid', hid, List.length_append, List.length_singleton]
      exact (UInt16.ofNat_add (exchanges.length + 1) 1).symm
    · rw [pending_eq_nil_iff horderly hcall, allDrain_concat, hdrained, ← hid]
      refine and_congr_right fun hall => ?_
      exact completed_iff_drains horderly (hdrained.2 hall) hcall

end Connection

open Connection

/-- **A call returns its own answer exactly if every earlier call drained its own.** For any
calls on one connection, with any lists, failures and limits, and any call after them that
completes: it read the answer to its own request and nothing else, and returns what this
answer says, if and only if no earlier call stopped before the end of its answer. -/
theorem getData_own_iff (earlier : List Exchange) (c : Connection) (hc : after earlier = some c)
    (x : Exchange) (reply : Reply) (c' : Connection) (hcall : c.getData x = some (reply, c'))
    (hcompleted : reply.Completed) : c.OwnAnswer x reply ↔ AllDrain earlier := by
  obtain ⟨horderly, -, -, hdrained⟩ := after_invariant hc
  obtain ⟨body, hdump, -, hsplit, -, -, hstopped⟩ := getData_spec horderly hcall
  rw [← hdrained]
  constructor
  · rintro ⟨answer, -, hreceived, -⟩
    by_contra hne
    -- a packet that was left over is the first one that the call takes
    obtain ⟨q, rest, hq⟩ := List.exists_cons_of_ne_nil hne
    obtain ⟨last, hlast, -⟩ := hcompleted
    obtain ⟨first, more, hfirst⟩ := List.exists_cons_of_ne_nil
      (List.ne_nil_of_mem (List.mem_of_getLast? hlast))
    rw [hq, hfirst, List.cons_append, List.cons_append] at hsplit
    have hsame := (List.cons.inj hsplit).1
    have hold := horderly.earlier q (hq ▸ List.mem_cons_self)
    have hmem : first ∈ answer.map fun p => (c.calls, p) := by
      rw [← hreceived, hfirst]
      exact List.mem_cons_self
    obtain ⟨p, -, rfl⟩ := List.mem_map.1 hmem
    rw [hsame] at hold
    exact absurd hold (Nat.lt_irrefl _)
  · intro hnil
    have hdone := (pending_eq_nil_iff horderly hcall).2 ⟨hnil, hcompleted⟩
    rw [hnil, hdone, List.nil_append, List.append_nil] at hsplit
    refine ⟨body ++ [.empty], hdump, hsplit.symm, ?_⟩
    rcases stopped_cases hstopped with ⟨-, -, hdel, halone⟩ | ⟨hnot, -⟩
    · have hmap : reply.received.map Prod.snd = body ++ [.empty] := by
        rw [← hsplit, List.map_map]
        exact List.map_id _
      rw [hmap] at halone
      exact halone _ hdel.le
    · exact absurd hcompleted hnot

/-- The number of the call that each packet answers, and the packet's type. -/
def Reply.tags (reply : Reply) : List (ℕ × UInt8) := reply.received.map fun q => (q.1, q.2.type)

theorem Reply.completed_of_tags {reply : Reply} {tag : ℕ × UInt8}
    (h : reply.tags.getLast? = some tag) (htag : tag.2 = endOfData) : reply.Completed := by
  unfold tags at h
  rw [List.getLast?_map] at h
  obtain ⟨last, hlast, rfl⟩ := Option.map_eq_some_iff.1 h
  exact ⟨last, hlast, htag⟩

/-- The neighbour is gone, and nothing disturbs the call. -/
def afterwards : Exchange := ⟨.empty, ∅, []⟩

theorem getData_own_iff_drained :
    ∃ c reply c', after [⟨oneNeighbour, oneSender, []⟩] = some c ∧
      c.getData afterwards = some (reply, c') ∧ reply.Completed ∧
      (c.OwnAnswer afterwards reply ↔ AllDrain [⟨oneNeighbour, oneSender, []⟩]) := by
  have hsome : (after [⟨oneNeighbour, oneSender, []⟩]).isSome := by decide +kernel
  have hrun : ((after [⟨oneNeighbour, oneSender, []⟩]).bind fun c => c.getData afterwards).map
      (fun r => r.1.tags) = some [(1, 0)] := by decide +kernel
  obtain ⟨c, hc⟩ := Option.isSome_iff_exists.1 hsome
  rw [hc, Option.bind_some] at hrun
  obtain ⟨⟨reply, c'⟩, hcall, htags⟩ := Option.map_eq_some_iff.1 hrun
  have hcompleted := reply.completed_of_tags (congrArg List.getLast? htags) rfl
  exact ⟨c, reply, c', hc, hcall, hcompleted, getData_own_iff _ c hc _ reply c' hcall hcompleted⟩

/-- The neighbour is listed, and a signal comes before the first packet is received. -/
def interrupted : Exchange := ⟨oneNeighbour, oneSender, [some 4]⟩

/-- The interrupted answer is still in the stream, and ends the next call. -/
theorem getData_keeps_answer :
    ∃ c reply c', after [interrupted] = some c ∧ c.getData afterwards = some (reply, c') ∧
      reply.Completed ∧ reply.map.toList = [(0, ⟨[0x07, 0x61], [0x03, 0x62], some [0x65, 0x30],
        some ⟨[10, 0, 0, 1], rfl⟩, none⟩)] ∧ ¬ c.OwnAnswer afterwards reply := by
  have hsome : (after [interrupted]).isSome := by decide +kernel
  have hrun : ((after [interrupted]).bind fun c => c.getData afterwards).map
      (fun r => (r.1.tags, r.1.map.toList)) =
      some ([(0, 1), (0, 2), (0, 5), (0, 3), (0, 0)], [(0, ⟨[0x07, 0x61], [0x03, 0x62],
        some [0x65, 0x30], some ⟨[10, 0, 0, 1], rfl⟩, none⟩)]) := by decide +kernel
  obtain ⟨c, hc⟩ := Option.isSome_iff_exists.1 hsome
  rw [hc, Option.bind_some] at hrun
  obtain ⟨⟨reply, c'⟩, hcall, hreply⟩ := Option.map_eq_some_iff.1 hrun
  obtain ⟨htags, hmap⟩ := Prod.mk.inj hreply
  refine ⟨c, reply, c', hc, hcall, ?_, hmap, ?_⟩
  · exact reply.completed_of_tags (congrArg List.getLast? htags) rfl
  · rintro ⟨answer, hdump, hown, -⟩
    -- the answer to the second request is one terminator
    have hlen : (dumpData .empty ∅ c.requestId).map List.length = .ok 1 := by rfl
    have hone : answer.length = 1 := by
      rw [show dumpData .empty ∅ c.requestId = .ok answer from hdump] at hlen
      exact Except.ok.inj hlen
    have hfive := congrArg List.length htags
    rw [Reply.tags, hown, List.length_map, List.length_map, hone] at hfive
    exact absurd hfive (by decide)

end Ndisc.Client
