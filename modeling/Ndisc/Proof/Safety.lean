import Ndisc.Proof.Arrays
import Ndisc.Proof.Extent
import Ndisc.Proof.Sources

/-!
# The handlers stay inside their inputs

A handler reads outside of its input, or copies past an array, only where the input makes
it: a TTL of fewer than two bytes, a port id or a name too long for its record, a netlink
message without its padding. But what it copies may have come long before, through another
handler.

* `call_isOk`: a datagram of well-formed messages is read to its end.
* `Sane`: what is asked of an input, whatever came before.
* `daemon_stays_inside`: **no order of sane inputs takes any handler outside of its input, or past
  an array of an answer.** The locals that `sendFrame` reads are no input.
-/

/-! ## Datagrams -/

namespace Ndisc.Netlink

open Wire Records

variable {buffer packet : Bytes}

/-- Wherever a message is reached, its padding is there, and it is well formed. -/
def Legible (buffer : Bytes) : Prop :=
  ∀ p, Reaches (MessageAt buffer) (messageStep buffer) 0 p → MessageAt buffer p →
    PaddedAt buffer p ∧ WellFormed (messageOf (messageSlice buffer p))

/-- A span with a well-formed message in it has a view. -/
theorem packetViewParser_isOk (memory : ℕ → Bytes) (hlow : 16 ≤ nlmsgLenAt packet 0)
    (hhigh : nlmsgLenAt packet 0 ≤ packet.length) (h : WellFormed (messageOf packet)) :
    ∃ view, packetViewParser memory packet = .ok view := by
  have hlen : (messageOf packet).length = nlmsgLenAt packet 0 := by
    rw [messageOf, List.length_take, Nat.min_eq_left hhigh]
  have hself : nlmsgLenAt (messageOf packet) 0 = (messageOf packet).length := by
    rw [hlen]
    exact leAt_take (by omega)
  obtain ⟨view, hview⟩ := (packetViewParser_ok_iff memory (hlen ▸ hlow) hself).2 h
  have hextend := packetViewParser_extend (packet.drop (nlmsgLenAt packet 0)) hview
  rw [messageOf, List.take_append_drop] at hextend
  exact ⟨view, hextend⟩

theorem mapM_isOk {ε α β : Type} {f : α → Except ε β} {xs : List α} (h : ∀ x ∈ xs, ∃ y, f x = .ok y) :
    ∃ ys, xs.mapM f = .ok ys := by
  induction xs with
  | nil => exact ⟨[], rfl⟩
  | cons x xs ih =>
    obtain ⟨y, hy⟩ := h x List.mem_cons_self
    obtain ⟨ys, hys⟩ := ih fun x' hx' => h x' (List.mem_cons_of_mem x hx')
    exact ⟨y :: ys, by rw [List.mapM_cons, hy, ok_bind, hys]; rfl⟩

/-- **A datagram of well-formed messages is read to its end.** -/
theorem call_isOk (memory : ℕ → Bytes) (h : Legible buffer) :
    ∃ views, collect (NetlinkSocket.callback memory) (buffer.length + 1) buffer = .ok views := by
  have hpadded : Padded buffer := fun p hp hmessage => (h p hp hmessage).1
  obtain ⟨ps, q, hvisits, hcollect⟩ := collect_visits buffer.drop (extract_end buffer)
    (extract_next buffer) hpadded (Nat.zero_le _) (show buffer.length - 0 < buffer.length + 1 by omega)
  have hspans : collect extractMessageFromBuffer (buffer.length + 1) buffer =
      .ok (ps.map (messageSlice buffer)) := hcollect
  rw [callback_messages memory hspans]
  apply mapM_isOk
  intro span hspan
  obtain ⟨p, hp, rfl⟩ := List.mem_map.1 hspan
  have hmessage := hvisits.more_of_mem p hp
  obtain ⟨hpadding, hwell⟩ := h p (hvisits.reaches p hp) hmessage
  obtain ⟨hlow, hhigh⟩ := messageSlice_covers hmessage hpadding
  exact packetViewParser_isOk memory hlow hhigh hwell

instance (buffer : Bytes) (p : ℕ) : Decidable (PaddedAt buffer p) :=
  inferInstanceAs (Decidable (_ ∧ _))

/-- A datagram whose messages are found at `ps`, and their attributes at `qs`. -/
theorem legible_of (ps qs : List ℕ) (hstart : 0 ∈ ps)
    (hmessages : ∀ p ∈ ps, MessageAt buffer p → p + messageStep buffer p ∈ ps ∧ PaddedAt buffer p)
    (hparts : ∀ p ∈ ps, MessageAt buffer p →
      fixedEnd (messageOf (messageSlice buffer p)) ≤ (messageOf (messageSlice buffer p)).length ∧
      ∀ start ∈ attributesStart (messageOf (messageSlice buffer p)),
        start ∈ qs ∧ start ≤ (messageOf (messageSlice buffer p)).length)
    (hattributes : ∀ p ∈ ps, MessageAt buffer p → ∀ q ∈ qs,
      AttributeAt (messageOf (messageSlice buffer p)) q →
      q + attributeStep (messageOf (messageSlice buffer p)) q ∈ qs ∧
        q + attributeStep (messageOf (messageSlice buffer p)) q ≤
          (messageOf (messageSlice buffer p)).length) : Legible buffer := by
  intro p hp hmessage
  have hmem : p ∈ ps := hp.keeps hstart fun p hp hmore => (hmessages p hp hmore).1
  obtain ⟨hend, hfirst⟩ := hparts p hmem hmessage
  refine ⟨(hmessages p hmem hmessage).2, hend, fun start hs => ⟨(hfirst start hs).2, ?_⟩⟩
  intro q hq hattribute
  have hmem' : q ∈ qs := hq.keeps (hfirst start hs).1
    fun q hq hmore => (hattributes p hmem hmessage q hq hmore).1
  exact (hattributes p hmem hmessage q hmem' hattribute).2

end Ndisc.Netlink

/-! ## Sane inputs -/

namespace Ndisc

open Wire Netlink Run
open Std (ExtTreeMap)

/-- The bytes that a call can hand on, if it hands on any. -/
def FrameReceived.taken (r : FrameReceived) : Option Bytes :=
  match r.peeked, r.received with
  | some peeked, some frame =>
    if peeked.length ≤ frame.length then some (frame.take peeked.length) else none
  | _, _ => none

/-- A frame that is not accepted, or with a whole TTL and a port id that fits its record;
any tick. -/
def TableOp.Sane : TableOp → Prop
  | .frame address bytes => address.accepted = true →
    ∀ u, LLDPDataUnit.fromSpan bytes = .ok (some u) →
      2 ≤ u.timeToLive.value.length ∧ u.portId.value.length ≤ 506
  | .tick _ => True

/-- The names that a link message brings all have this property. -/
def Netlink.NetlinkPacketView.Names (Q : Bytes → Prop) : NetlinkPacketView → Prop
  | .link view => ∀ tlv ∈ view.content.attributes, tlv.attributeHeader.rtaType = iflaIfname →
    Q (dropNul tlv.value)
  | _ => True

instance (Q : Bytes → Prop) [DecidablePred Q] : DecidablePred (NetlinkPacketView.Names Q)
  | .link view => inferInstanceAs (Decidable (∀ tlv ∈ view.content.attributes, _ → _))
  | .message _ | .addr _ | .error _ | .done _ => inferInstanceAs (Decidable True)

/-- And so do all of a call. -/
def HandlerCall.Names (platform : Platform) (Q : Bytes → Prop) : HandlerCall → Prop
  | .netlink _ r _ =>
    ∀ views, NetlinkSocket.call platform.memory true platform.netlinkFd r = .ok views →
      ∀ view ∈ views, view.Names Q
  | _ => True

/-- A name that fits its record. -/
def NameFits (name : Bytes) : Prop := name.length ≤ 16

/-- A name as the kernel has it: it fits `IFNAMSIZ` with its `NUL`. -/
def KernelName (name : Bytes) : Prop := name.length ≤ 15 ∧ 0 ∉ name

instance : DecidablePred KernelName := fun name =>
  inferInstanceAs (Decidable (name.length ≤ 15 ∧ 0 ∉ name))

theorem KernelName.fits {name : Bytes} (h : KernelName name) : NameFits name :=
  h.1.trans (Nat.le_succ 15)

theorem HandlerCall.Names.mono {platform : Platform} {Q Q' : Bytes → Prop} {c : HandlerCall}
    (h : c.Names platform Q) (hQ : ∀ name, Q name → Q' name) : c.Names platform Q' := by
  cases c with
  | netlink handler r sent =>
    intro views hviews view hview
    have hnames := h views hviews view hview
    cases view with
    | link link => exact fun tlv htlv htype => hQ _ (hnames tlv htlv htype)
    | _ => trivial
  | _ => trivial

/-- What is asked of the input of a call. It says nothing about the calls before. -/
def HandlerCall.Sane (platform : Platform) : HandlerCall → Prop
  | .ethernetMonitor r => ∀ bytes ∈ r.taken, TableOp.Sane (.frame r.address bytes)
  | .netlink handler r sent => Legible (recvNetlinkMessageBatch platform.netlinkFd r) ∧
    (HandlerCall.netlink handler r sent).Names platform NameFits
  | _ => True

/-! ## The table -/

/-- Every port id fits its record. -/
def PortsFit (neighbourList : NeighbourList) : Prop :=
  ∀ chassis port entry, neighbourList.lookup chassis port = some entry → port.length ≤ 506

theorem portsFit_empty : PortsFit .empty := by
  intro chassis port entry h
  simp [NeighbourList.lookup, NeighbourList.empty, NestedMap.lookup] at h

/-- **A sane call on the table succeeds**, and keeps the port ids fitting. -/
theorem step_sane {nl : NeighbourList} (h : PortsFit nl) {op : TableOp} (hop : op.Sane) :
    Outcome PortsFit (fun _ => False) (nl.step op) := by
  cases op with
  | tick d =>
    intro chassis port entry hentry
    rw [tick_lookup, Option.bind_eq_some_iff] at hentry
    obtain ⟨old, hold, -⟩ := hentry
    exact h chassis port old hold
  | frame address bytes =>
    rw [NeighbourList.step, lldpFrameParser]
    cases haccepted : address.accepted with
    | false => exact h
    | true =>
      rcases dataUnit_fromSpan_cases bytes with hnone | ⟨u, rest, hsome, -, -, -⟩
      · rw [hnone]
        exact h
      · obtain ⟨httl, hport⟩ := hop haccepted u hsome
        obtain ⟨a, ha⟩ := collectAll_ok u.optionalTlv ⟨none, none⟩
        simp only [hsome, Bool.not_true, Bool.false_eq_true, if_false, ok_bind,
          lldpduToNeighbourEntry_eq httl _ ha]
        intro chassis port entry hentry
        rw [lookup_store] at hentry
        split at hentry
        · rename_i hkey
          obtain ⟨-, rfl⟩ := Prod.mk.inj hkey
          exact hport
        · exact h chassis port entry hentry

theorem handed_taken {m : EthernetLldpMonitor} {r : FrameReceived} {address : SockaddrLl}
    {bytes : Bytes} (h : (address, bytes) ∈ m.handed r) : address = r.address ∧ bytes ∈ r.taken := by
  obtain ⟨rfl, peeked, frame, hpeeked, hreceived, rfl, hle⟩ := EthernetLldpMonitor.call_handed h
  refine ⟨rfl, ?_⟩
  rw [FrameReceived.taken, hpeeked, hreceived]
  simp [if_pos hle]

namespace HandlerCall

variable {platform : Platform} {c : HandlerCall}

theorem Sane.names (h : c.Sane platform) : c.Names platform NameFits := by
  cases c with
  | netlink handler r sent => exact h.2
  | _ => trivial

theorem tableOps_sane (h : c.Sane platform) (m : EthernetLldpMonitor) :
    ∀ op ∈ c.tableOps m, op.Sane := by
  intro op hop
  cases c with
  | clock timesTriggered sent =>
    cases timesTriggered with
    | none => cases hop
    | some n =>
      by_cases hn : n = 0
      · rw [tableOps, if_pos hn] at hop
        cases hop
      · rw [tableOps, if_neg hn] at hop
        rw [List.mem_singleton.1 hop]
        trivial
  | ethernetMonitor r =>
    obtain ⟨⟨address, bytes⟩, hhanded, rfl⟩ := List.mem_map.1 hop
    obtain ⟨rfl, htaken⟩ := handed_taken hhanded
    exact h bytes htaken
  | _ => cases hop

end HandlerCall

/-! ## The names -/

section

variable {Q : Bytes → Prop}

/-- A device without a name, or with such a one. -/
def DeviceData.Named (Q : Bytes → Prop) (_ : UInt32) (d : DeviceData) : Prop :=
  ∀ name ∈ d.interfaceName, Q name

theorem named_rule (Q : Bytes → Prop) : Rule (DeviceData.Named Q) where
  operational _ _ _ h := h
  renew _ _ _ _ h' := h'

/-- The names in the link packet of an event, if it has one. -/
def DaemonEvent.Names (Q : Bytes → Prop) : DaemonEvent → Prop
  | .linkPacket packet _ => packet.Names Q
  | _ => True

theorem updatedLinks_names (reader : DeviceReader) {packet : NetlinkPacketView} (h : packet.Names Q) :
    ∀ link ∈ LldpRepository.updatedLinks (DeviceReader.handleNetlinkPacket reader packet).2,
      (NetlinkPacketView.link link).Names Q := by
  intro link hlink
  unfold DeviceReader.handleNetlinkPacket DumpReader.handleNetlinkPacket at hlink
  -- only a link packet with the number of the dump is handed on as an update
  split at hlink
  · cases packet with
    | link view =>
      rw [List.mem_singleton.1 hlink]
      exact h
    | _ => cases hlink
  · cases hlink

theorem keeps_named (r : LldpRepository) {event : DaemonEvent} (hlooped : event.Looped)
    (h : event.Names Q) : LldpRepository.Keeps (DeviceData.Named Q) r event where
  links link hlink i hindex d hd name hname := by
    have hnames : (NetlinkPacketView.link link).Names Q := by
      cases event with
      | linkPacket packet sent => exact updatedLinks_names _ h link hlink
      | handleLinkPacket link => cases hlooped
      | _ => cases hlink
    rcases DeviceData.linkChange_interfaceName hname with hold | ⟨tlv, htlv, htype, rfl⟩
    · rcases hd with rfl | hnamed
      · cases hold
      · exact hnamed name hold
    · exact hnames tlv htlv htype
  addresses address haddress i hindex d hd name hname := by
    rw [DeviceData.addressChange_interfaceName] at hname
    rcases hd with rfl | hnamed
    · cases hname
    · exact hnamed name hname

theorem HandlerCall.daemonEvents_names {platform : Platform} {c : HandlerCall}
    (h : c.Names platform Q) : ∀ event ∈ c.daemonEvents platform, event.Names Q := by
  intro event hevent
  rcases daemonEvents_cases hevent with
    ⟨n, sent, -, -, rfl⟩ | ⟨handler, r, sent, views, n, view, rfl, hviews, hview, rfl⟩
  · trivial
  · have hnames := h views hviews view hview
    cases handler with
    | deviceReader => exact hnames
    | _ => trivial

end

/-! ## Runs -/

namespace Daemon

variable {platform : Platform} {verbose : Bool} {calls : List HandlerCall} {d : Daemon}

/-- All that sane calls put into the table fits. -/
theorem run_portsFit (hsane : ∀ c ∈ calls, c.Sane platform)
    (h : Daemon.run platform verbose calls = .ok d) : PortsFit d.neighbourList := by
  obtain ⟨-, htable, -, -⟩ := run_parts h
  have hops : ∀ op ∈ tableOps calls, op.Sane := by
    intro op hop
    obtain ⟨before, c, after, rfl, hobs⟩ := mem_observe hop
    exact HandlerCall.tableOps_sane (hsane c (by simp)) _ op hobs
  have hall : Outcome PortsFit (fun _ => False) (NeighbourList.run (tableOps calls)) :=
    foldlM_outcome (fun _ op hop hfit => step_sane hfit (hops op hop)) portsFit_empty
  rw [htable] at hall
  exact hall

/-- All devices and senders have names like those that the calls bring. -/
theorem run_named {Q : Bytes → Prop} (hnames : ∀ c ∈ calls, c.Names platform Q)
    (h : Daemon.run platform verbose calls = .ok d) :
    d.lldpRepository.Carries platform.env (DeviceData.Named Q) := by
  obtain ⟨-, -, hd, -⟩ := run_parts h
  rw [hd]
  have hlooped := events_looped platform calls
  apply LldpRepository.run_carries (named_rule Q) hlooped
  have hall : Along (LldpRepository.step platform.env)
      (fun _ event => event.Looped ∧ event.Names Q) .create (events platform calls) := by
    apply along_of_forall
    intro event hevent
    refine ⟨hlooped event hevent, ?_⟩
    obtain ⟨c, hc, hmem⟩ := List.mem_flatMap.1 hevent
    exact HandlerCall.daemonEvents_names (hnames c hc) event hmem
  exact hall.mono fun r event hevent => keeps_named r hevent.1 hevent.2

/-- **Every request is answered** from such tables. -/
theorem request_isOk (hports : PortsFit d.neighbourList)
    (hnames : ∀ (i : UInt32) (sender : LldpSender), d.lldpRepository.currentState[i]? = some sender →
      ∀ name ∈ sender.deviceData.interfaceName, NameFits name) (requestId : UInt16) :
    ∃ packets, Client.dumpData d.neighbourList d.lldpRepository.currentState requestId =
      .ok packets := by
  rw [Client.dumpData_isOk]
  intro n hn
  refine ⟨hports n.1 n.2.1 n.2.2 (Client.neighbours_lookup hn), fun name hname => ?_⟩
  obtain ⟨sender, hsender, hsome⟩ := Option.bind_eq_some_iff.1 hname
  exact hnames _ sender hsender name hsome

/-- **A sane call succeeds.** -/
theorem step_isOk {c : HandlerCall} (hc : c.Sane platform) (hports : PortsFit d.neighbourList)
    (hnames : d.lldpRepository.Carries platform.env (DeviceData.Named NameFits)) :
    ∃ d', d.step platform c = .ok d' := by
  cases c with
  | clock timesTriggered sent => exact ⟨_, rfl⟩
  | ethernetMonitor r =>
    refine ethernetCall_isOk.2 fun address bytes hhanded => ?_
    obtain ⟨rfl, htaken⟩ := handed_taken hhanded
    have hframe : (TableOp.frame r.address bytes).Sane := hc bytes htaken
    have hparsed := step_sane hports hframe
    rw [NeighbourList.step] at hparsed
    cases hresult : lldpFrameParser d.neighbourList r.address bytes with
    | error fault => rw [hresult] at hparsed; exact hparsed.elim
    | ok neighbourList => exact ⟨neighbourList, rfl⟩
  | netlink handler r sent =>
    obtain ⟨views, hviews⟩ := Netlink.call_isOk platform.memory hc.1
    exact (bind_ok_isOk _).2 ((bind_ok_isOk _).2 ⟨views, mapError_eq_ok.2 hviews⟩)
  | client event =>
    show ∃ d', d.clientCall event = .ok d'
    unfold clientCall
    split
    · exact ⟨_, rfl⟩
    · rename_i number requestId _
      obtain ⟨packets, hpackets⟩ := request_isOk hports hnames.senders requestId
      exact (bind_ok_isOk _).2 ⟨packets, mapError_eq_ok.2 hpackets⟩
  | interrupt read => exact ⟨_, rfl⟩

end Daemon

/-- **The handlers stay inside their inputs.** In any order of their calls, whatever the tables
hold by then: if every accepted frame has a TTL of two bytes and a port id of at most 506,
every datagram of the kernel is made of well-formed messages with their padding, and every
interface name has at most 16 bytes, then no handler reads outside of the frame or the datagram
that it was called with, and no answer to a client is copied past one of its arrays. -/
theorem daemon_stays_inside (platform : Platform) (verbose : Bool) (calls : List HandlerCall)
    (h : ∀ c ∈ calls, c.Sane platform) :
    ∃ d, Daemon.run platform verbose calls = .ok d := by
  -- what the last call copies was put into the tables by those before it
  induction calls using List.reverseRecOn with
  | nil => exact ⟨_, rfl⟩
  | append_singleton calls c ih =>
    have hbefore : ∀ c ∈ calls, c.Sane platform := fun c hc => h c (List.mem_append_left _ hc)
    obtain ⟨d, hd⟩ := ih hbefore
    rw [Daemon.run_concat_eq, hd]
    exact Daemon.step_isOk (h c (by simp)) (Daemon.run_portsFit hbefore hd)
      (Daemon.run_named (fun c hc => (hbefore c hc).names) hd)

/-- The two dumps have one name, that of the link. -/
theorem firstCalls_names : ∀ c ∈ firstCalls, c.Names quietPlatform KernelName := by
  have hall : ∀ datagram ∈ [linkDump, addrDump],
      (NetlinkSocket.call (fun _ => []) true 3 (.ofKernel datagram)).map
        (fun views => decide (∀ view ∈ views, view.Names KernelName)) = .ok true := by decide +kernel
  have hnames : ∀ datagram ∈ [linkDump, addrDump], ∀ views,
      NetlinkSocket.call (fun _ => []) true 3 (.ofKernel datagram) = .ok views →
        ∀ view ∈ views, view.Names KernelName := by
    intro datagram hdatagram views hviews
    have hkernel := hall datagram hdatagram
    rw [hviews] at hkernel
    exact of_decide_eq_true (Except.ok.inj hkernel)
  intro c hc
  simp only [firstCalls, List.mem_cons, List.not_mem_nil, or_false] at hc
  rcases hc with rfl | rfl | rfl | rfl | rfl | rfl | rfl
  · trivial
  · exact hnames linkDump (by simp)
  · trivial
  · exact hnames addrDump (by simp)
  · trivial
  · trivial
  · trivial

/-- What its frame says. -/
theorem neighbourFrame_read {bytes : Bytes} (h : bytes ∈ neighbourFrame.taken) :
    LLDPDataUnit.fromSpan bytes =
      .ok (some ⟨⟨1, [0x07, 0x62]⟩, ⟨2, [0x03, 0x63]⟩, ⟨3, [0x00, 0x1E]⟩, []⟩) := by
  have hparse : neighbourFrame.taken.map LLDPDataUnit.fromSpan =
      some (.ok (some ⟨⟨1, [0x07, 0x62]⟩, ⟨2, [0x03, 0x63]⟩, ⟨3, [0x00, 0x1E]⟩, []⟩)) := by decide
  rw [Option.mem_def.1 h] at hparse
  exact Option.some.inj hparse

theorem daemon_stays_inside_first : ∃ d, Daemon.run quietPlatform false firstCalls = .ok d := by
  have hlink : Legible linkDump := legible_of [0, 56, 76] [32, 44, 56] (by decide)
    (by decide +kernel) (by decide +kernel) (by decide +kernel)
  have haddr : Legible addrDump := legible_of [0, 32, 52] [24, 32] (by decide)
    (by decide +kernel) (by decide +kernel) (by decide +kernel)
  have hframe : ∀ bytes ∈ neighbourFrame.taken, TableOp.Sane (.frame neighbourFrame.address bytes) := by
    intro bytes hbytes _ u hu
    rw [neighbourFrame_read hbytes] at hu
    cases hu
    decide
  refine daemon_stays_inside quietPlatform false firstCalls fun c hc => ?_
  have hnames := (firstCalls_names c hc).mono fun _ => KernelName.fits
  simp only [firstCalls, List.mem_cons, List.not_mem_nil, or_false] at hc
  rcases hc with rfl | rfl | rfl | rfl | rfl | rfl | rfl
  · trivial
  · exact ⟨hlink, hnames⟩
  · exact hframe
  · exact ⟨haddr, hnames⟩
  · trivial
  · trivial
  · trivial

end Ndisc
