import Ndisc.Lib.Purge
import Ndisc.Proof.Receive
import Ndisc.Spec.Daemon
import Ndisc.Spec.Message

/-!
# The parts of the daemon

All handlers work on the same objects. Still each table has its own events.

* `step_parts`: what one call does to the table of neighbours, to the senders and to the
  sockets of the clients, each in terms of its own events.
* `run_parts`: **any run of the daemon is a run of the table, of the senders and of the client
  sockets**, so what holds of their runs holds in the daemon.
* `daemon_noninterference`: **no received frame and no client has a say in what is sent, and
  no netlink message and no client in what is known of the neighbours**.
-/

namespace Ndisc

open Wire Netlink Run

/-! ## The events of each part -/

namespace HandlerCall

variable (platform : Platform)

/-- The calls of `recvmsg` on the socket for LLDP frames. -/
def frames : HandlerCall → List FrameReceived
  | .ethernetMonitor r => [r]
  | _ => []

/-- The calls on the table of neighbours, for a monitor with this buffer. -/
def tableOps (m : EthernetLldpMonitor) : HandlerCall → List TableOp
  | .clock (some timesTriggered) _ => if timesTriggered = 0 then [] else [.tick timesTriggered]
  | .ethernetMonitor r => (m.handed r).map fun handed => .frame handed.1 handed.2
  | _ => []

/-- The events of the senders and of the device repository. -/
def daemonEvents : HandlerCall → List DaemonEvent
  | .clock (some timesTriggered) sent =>
    if timesTriggered = 0 then [] else [.tick timesTriggered sent]
  | .netlink handler r sent => ((Daemon.netlinkEvents platform handler r sent).toOption).getD []
  | _ => []

/-- The events of the client sockets. -/
def clientEvents : HandlerCall → List Client.ClientEvent
  | .client event => [event]
  | _ => []

end HandlerCall

namespace Daemon

variable {platform : Platform} {d d' : Daemon}

/-! ## One call -/

/-- The state of one part after a call. -/
structure Parts (platform : Platform) (d : Daemon) (c : HandlerCall) (d' : Daemon) : Prop where
  monitor : d'.monitor = Run.run EthernetLldpMonitor.step d.monitor c.frames
  neighbourList : (c.tableOps d.monitor).foldlM NeighbourList.step d.neighbourList =
    .ok d'.neighbourList
  lldpRepository : d'.lldpRepository =
    Run.run (LldpRepository.step platform.env) d.lldpRepository (c.daemonEvents platform)
  clients : d'.clients = Run.run Client.ClientRepository.step d.clients c.clientEvents

theorem mapError_eq_ok {ε ε' α : Type} {f : ε → ε'} {x : Except ε α} {a : α} :
    x.mapError f = .ok a ↔ x = .ok a := by
  cases x <;> simp [Except.mapError]

theorem clockCall_parts (d : Daemon) (timesTriggered : Option UInt64) (sent : Bool) :
    Parts platform d (.clock timesTriggered sent) (d.clockCall platform timesTriggered sent) := by
  cases timesTriggered with
  | none => exact ⟨rfl, rfl, rfl, rfl⟩
  | some n =>
    by_cases hn : n = 0
    · simp only [clockCall, if_pos hn]
      exact ⟨rfl, by simp only [HandlerCall.tableOps, if_pos hn]; rfl,
        by simp only [HandlerCall.daemonEvents, if_pos hn]; rfl, rfl⟩
    · simp only [clockCall, if_neg hn]
      exact ⟨rfl, by simp only [HandlerCall.tableOps, if_neg hn]; rfl,
        by simp only [HandlerCall.daemonEvents, if_neg hn]; rfl, rfl⟩

theorem ethernetCall_parts {r : FrameReceived} (h : d.ethernetCall r = .ok d') :
    Parts platform d (.ethernetMonitor r) d' := by
  unfold ethernetCall at h
  have hmonitor : d.monitor.step r = (d.monitor.call r).1 := rfl
  have hhanded : d.monitor.handed r = (d.monitor.call r).2.toList := rfl
  cases hcall : (d.monitor.call r).2 with
  | none =>
    simp only [hcall] at h
    cases h
    refine ⟨hmonitor.symm, ?_, rfl, rfl⟩
    rw [HandlerCall.tableOps, hhanded, hcall]
    rfl
  | some handed =>
    obtain ⟨address, frame⟩ := handed
    simp only [hcall] at h
    obtain ⟨neighbourList, hparser, hd⟩ := bind_eq_ok.1 h
    cases hd
    refine ⟨hmonitor.symm, ?_, rfl, rfl⟩
    have hstep : d.neighbourList.step (.frame address frame) = .ok neighbourList :=
      mapError_eq_ok.1 hparser
    rw [HandlerCall.tableOps, hhanded, hcall]
    show [TableOp.frame address frame].foldlM NeighbourList.step d.neighbourList = _
    rw [List.foldlM_cons, hstep]
    rfl

/-- A frame that is handed on has to be parsed. -/
theorem ethernetCall_isOk {r : FrameReceived} : (∃ d', d.ethernetCall r = .ok d') ↔
    ∀ address frame, (address, frame) ∈ d.monitor.handed r →
      ∃ neighbourList, lldpFrameParser d.neighbourList address frame = .ok neighbourList := by
  unfold ethernetCall EthernetLldpMonitor.handed
  cases hcall : (d.monitor.call r).2 with
  | none => simp [hcall]
  | some handed =>
    obtain ⟨address, frame⟩ := handed
    simp only [hcall, bind_ok_isOk, mapError_eq_ok, Option.toList_some, List.mem_singleton,
      Prod.mk.injEq]
    constructor
    · rintro h _ _ ⟨rfl, rfl⟩
      exact h
    · intro h
      exact h address frame ⟨rfl, rfl⟩

theorem netlinkCall_parts {handler : NetlinkHandler} {r : Received} {sent : ℕ → Bool}
    (h : d.netlinkCall platform handler r sent = .ok d') :
    Parts platform d (.netlink handler r sent) d' := by
  obtain ⟨events, hevents, hd⟩ := bind_eq_ok.1 h
  cases hd
  refine ⟨rfl, rfl, ?_, rfl⟩
  rw [HandlerCall.daemonEvents, hevents]
  rfl

theorem clientCall_parts {event : Client.ClientEvent} (h : d.clientCall event = .ok d') :
    Parts platform d (.client event) d' := by
  unfold clientCall at h
  split at h
  · cases h
    exact ⟨rfl, rfl, rfl, rfl⟩
  · obtain ⟨packets, -, hd⟩ := bind_eq_ok.1 h
    cases hd
    exact ⟨rfl, rfl, rfl, rfl⟩

/-- **What one call does to each part.** -/
theorem step_parts {c : HandlerCall} (h : d.step platform c = .ok d') : Parts platform d c d' := by
  cases c with
  | clock timesTriggered sent =>
    cases h
    exact clockCall_parts d timesTriggered sent
  | ethernetMonitor r => exact ethernetCall_parts h
  | netlink handler r sent => exact netlinkCall_parts h
  | client event => exact clientCall_parts h
  | interrupt read =>
    cases h
    exact ⟨rfl, rfl, rfl, rfl⟩

/-! ## Runs -/

/-- The calls on the table of neighbours, from the first one on. -/
def tableOps (calls : List HandlerCall) : List TableOp :=
  observe (fun m c => Run.run EthernetLldpMonitor.step m (HandlerCall.frames c))
    (fun m c => HandlerCall.tableOps m c) .create calls

/-- The events of the repositories in a run. -/
def events (platform : Platform) (calls : List HandlerCall) : List DaemonEvent :=
  calls.flatMap (HandlerCall.daemonEvents platform)

theorem run_concat_eq (platform : Platform) (verbose : Bool) (calls : List HandlerCall)
    (c : HandlerCall) :
    Daemon.run platform verbose (calls ++ [c]) =
      Daemon.run platform verbose calls >>= fun d => d.step platform c := by
  unfold Daemon.run
  rw [List.foldlM_append]
  congr 1
  funext d
  rw [List.foldlM_cons]
  cases d.step platform c <;> rfl

/-- **A run of the daemon is a run of each of its parts.** -/
theorem run_parts {verbose : Bool} {calls : List HandlerCall}
    (h : Daemon.run platform verbose calls = .ok d) :
    d.monitor = Run.run EthernetLldpMonitor.step .create (calls.flatMap HandlerCall.frames) ∧
    NeighbourList.run (tableOps calls) = .ok d.neighbourList ∧
    d.lldpRepository = Run.run (LldpRepository.step platform.env) .create (events platform calls) ∧
    d.clients = Run.run Client.ClientRepository.step .create (calls.flatMap HandlerCall.clientEvents) := by
  -- the last call comes last in every part, so the induction is from the right
  induction calls using List.reverseRecOn generalizing d with
  | nil =>
    cases h
    exact ⟨rfl, rfl, rfl, rfl⟩
  | append_singleton calls c ih =>
    rw [run_concat_eq, bind_eq_ok] at h
    obtain ⟨d₁, hd₁, hstep⟩ := h
    obtain ⟨hmonitor, htable, hsenders, hclients⟩ := ih hd₁
    have hparts := step_parts hstep
    have hbuffer : Run.run (fun m c => Run.run EthernetLldpMonitor.step m (HandlerCall.frames c)) .create
        calls = d₁.monitor := by rw [hmonitor, run_flatMap]
    refine ⟨?_, ?_, ?_, ?_⟩
    · rw [List.flatMap_append, List.flatMap_singleton, run_append, ← hmonitor]
      exact hparts.monitor
    · rw [tableOps, observe_concat, hbuffer, NeighbourList.run, List.foldlM_append,
        ← NeighbourList.run, ← tableOps, htable, ok_bind]
      exact hparts.neighbourList
    · rw [events, List.flatMap_append, List.flatMap_singleton, run_append, ← events, ← hsenders]
      exact hparts.lldpRepository
    · rw [List.flatMap_append, List.flatMap_singleton, run_append, ← hclients]
      exact hparts.clients

/-- What more calls do to the senders. -/
theorem run_later {verbose : Bool} {calls more : List HandlerCall}
    (h : Daemon.run platform verbose calls = .ok d)
    (h' : Daemon.run platform verbose (calls ++ more) = .ok d') :
    d'.lldpRepository =
      Run.run (LldpRepository.step platform.env) d.lldpRepository (events platform more) := by
  rw [(run_parts h').2.2.1, (run_parts h).2.2.1, ← run_append, events, List.flatMap_append]
  rfl

/-- **The loop of `main` is a run** of the calls that it gets to. -/
theorem main_run {verbose : Bool} {rounds : List (List HandlerCall)}
    (h : Daemon.main platform verbose rounds = .ok d) :
    ∃ calls, calls <+: rounds.flatten ∧ Daemon.run platform verbose calls = .ok d := by
  unfold Daemon.main at h
  unfold Daemon.run
  generalize create verbose = start at h ⊢
  induction rounds generalizing start with
  | nil => exact ⟨[], List.nil_prefix, h⟩
  | cons round rounds ih =>
    rw [List.foldlM_cons] at h
    obtain ⟨d₁, hround, hrest⟩ := bind_eq_ok.1 h
    obtain ⟨calls, hprefix, hcalls⟩ := ih d₁ hrest
    split at hround
    · -- the flag stays set, so none of the other rounds is begun
      rename_i hflag
      cases hround
      refine ⟨[], List.nil_prefix, ?_⟩
      rw [← hrest, List.foldlM_nil]
      clear hrest hcalls hprefix ih h
      induction rounds with
      | nil => rfl
      | cons round rounds ih =>
        rw [List.foldlM_cons, if_pos hflag]
        exact ih
    · refine ⟨round ++ calls, ?_, ?_⟩
      · rw [List.flatten_cons]
        exact (List.prefix_append_right_inj round).2 hprefix
      · rw [List.foldlM_append, hround]
        exact hcalls

end Daemon

/-- The events of the repositories that the event loop causes. -/
def DaemonEvent.Looped : DaemonEvent → Prop
  | .tick _ _ | .monitorPacket _ | .linkPacket _ _ | .addrPacket _ => True
  | _ => False

theorem NetlinkHandler.event_looped (handler : NetlinkHandler) (sent : ℕ → Bool) (n : ℕ)
    (view : NetlinkPacketView) : (handler.event sent n view).Looped := by
  cases handler <;> trivial

/-- **What a call can cause**: a tick of the clock, or what a callback does with a packet. -/
theorem HandlerCall.daemonEvents_cases {platform : Platform} {c : HandlerCall} {event : DaemonEvent}
    (hevent : event ∈ c.daemonEvents platform) :
    (∃ n sent, c = .clock (some n) sent ∧ n ≠ 0 ∧ event = .tick n sent) ∨
    ∃ handler r sent views n view, c = .netlink handler r sent ∧
      NetlinkSocket.call platform.memory true platform.netlinkFd r = .ok views ∧ view ∈ views ∧
      event = handler.event sent n view := by
  cases c with
  | clock timesTriggered sent =>
    cases timesTriggered with
    | none => cases hevent
    | some n =>
      by_cases hn : n = 0
      · rw [daemonEvents, if_pos hn] at hevent
        cases hevent
      · rw [daemonEvents, if_neg hn] at hevent
        exact Or.inl ⟨n, sent, rfl, hn, List.mem_singleton.1 hevent⟩
  | netlink handler r sent =>
    rw [daemonEvents] at hevent
    cases hread : Daemon.netlinkEvents platform handler r sent with
    | error crash => rw [hread] at hevent; cases hevent
    | ok events =>
      rw [hread] at hevent
      obtain ⟨views, hviews, heq⟩ := bind_eq_ok.1 hread
      cases heq
      obtain ⟨n, hn, rfl⟩ := List.mem_mapIdx.1 hevent
      exact Or.inr ⟨handler, r, sent, views, n, views[n], rfl, Daemon.mapError_eq_ok.1 hviews,
        List.getElem_mem hn, rfl⟩
  | _ => cases hevent

theorem HandlerCall.daemonEvents_looped (platform : Platform) (c : HandlerCall) :
    ∀ event ∈ c.daemonEvents platform, event.Looped := by
  intro event hevent
  rcases daemonEvents_cases hevent with
    ⟨n, sent, -, -, rfl⟩ | ⟨handler, r, sent, views, n, view, -, -, -, rfl⟩
  · trivial
  · exact handler.event_looped sent n view

namespace Daemon

theorem events_looped (platform : Platform) (calls : List HandlerCall) :
    ∀ event ∈ events platform calls, event.Looped := by
  intro event hevent
  obtain ⟨c, -, hc⟩ := List.mem_flatMap.1 hevent
  exact c.daemonEvents_looped platform event hc

end Daemon

/-! ## Which handlers matter to which table -/

namespace HandlerCall

/-- The handlers that work on the senders: the clock and the netlink sockets. -/
def announces : HandlerCall → Bool
  | .clock _ _ | .netlink _ _ _ => true
  | _ => false

/-- The handlers that work on the table of neighbours: the clock and the socket for frames. -/
def listens : HandlerCall → Bool
  | .clock _ _ | .ethernetMonitor _ => true
  | _ => false

end HandlerCall

namespace Daemon

/-- What the daemon knows of its neighbours, with the buffer that frames come through. -/
def heard (d : Daemon) : EthernetLldpMonitor × NeighbourList := (d.monitor, d.neighbourList)

end Daemon

/-- A platform on which every frame can be sent. -/
def quietPlatform : Platform :=
  ⟨⟨[0x61], fun _ => .sent, fun _ => .intact⟩, fun _ => [], fun _ => [], 3⟩

/-- The end of the dump with number 2. -/
def endOfDump : Bytes := [20, 0, 0, 0, 3, 0, 2, 0, 2, 0, 0, 0, 0, 0, 0, 0] ++ [0, 0, 0, 0]

/-- Interface 2, which is up, with its MAC and its name. -/
def linkDump : Bytes :=
  [56, 0, 0, 0, 16, 0, 2, 0, 2, 0, 0, 0, 0, 0, 0, 0] ++
    [0, 0, 1, 0, 2, 0, 0, 0, 1, 0, 1, 0, 0, 0, 0, 0] ++
    [10, 0, 1, 0, 2, 0, 0, 0, 0, 1, 0, 0] ++ [9, 0, 3, 0, 101, 116, 104, 48, 0, 0, 0, 0] ++ endOfDump

/-- Its address. -/
def addrDump : Bytes :=
  [32, 0, 0, 0, 20, 0, 2, 0, 2, 0, 0, 0, 0, 0, 0, 0] ++ [2, 24, 0, 0, 2, 0, 0, 0] ++
    [8, 0, 1, 0, 10, 0, 0, 1] ++ endOfDump

/-- A frame of a neighbour, heard on interface 2. -/
def neighbourFrame : FrameReceived :=
  ⟨⟨17, (0x88, 0xCC), 2, 1, 6⟩,
    some [0x02, 0x02, 0x07, 0x62, 0x04, 0x02, 0x03, 0x63, 0x06, 0x02, 0x00, 0x1E, 0x00, 0x00],
    some [0x02, 0x02, 0x07, 0x62, 0x04, 0x02, 0x03, 0x63, 0x06, 0x02, 0x00, 0x1E, 0x00, 0x00]⟩

/-- The first tick asks for the links, the dumps come in, and the next tick sends a frame. A
neighbour is heard, and a client asks for it. -/
def firstCalls : List HandlerCall := [
  .clock (some 1) true,
  .netlink .deviceReader (.ofKernel linkDump) fun _ => true,
  .ethernetMonitor neighbourFrame,
  .netlink .ipReader (.ofKernel addrDump) fun _ => true,
  .clock (some 1) true,
  .client (.listenSocket true true),
  .client (.senderSocket 0 ⟨2, 7⟩ true)]

/-- A run that ends in a state which shows `b`. -/
theorem ok_of_shows {α β : Type} {x : Except Crash α} {f : α → β} {b : β}
    (h : x.toOption.map f = some b) : ∃ a, x = .ok a ∧ f a = b := by
  cases x with
  | error crash => cases h
  | ok a => exact ⟨a, rfl, Option.some.inj h⟩

end Ndisc
