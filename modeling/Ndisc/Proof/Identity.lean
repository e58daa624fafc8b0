import Ndisc.Proof.Cadence
import Ndisc.Proof.Goodbye

/-!
# The MAC of an interface

A sender copies the MAC of its device when it is made. `Update` copies the name, both
addresses and whether the device is operational, and nothing else. And a sender is never made
again for an interface that has one.

* `Own`: all that a sender sends is of its own MAC and index.
* `Fixed`: every frame is that of the sender that its interface has.
* `one_mac`: **an interface uses one MAC as long as the daemon runs: the one that was known
  when its sender was made. Without one it never sends a frame**.
-/

namespace Ndisc

open Wire Netlink Run
open Std (ExtTreeMap)

/-- A frame of this MAC and this index. -/
def Sent.Of (identity : Option (Octets 6) × UInt32) (frame : Sent) : Prop :=
  frame.deviceData.macAddress = identity.1 ∧ frame.deviceData.ifIndex = identity.2 ∧
    frame.sllIfindex = identity.2.toNat ∧ identity.1.isSome = true

/-! ## One sender -/

namespace Endpoint

variable {env : Env} {p q : Endpoint}

/-- All that was sent on the way is of the MAC and the index of the sender, which stay. -/
structure Own (p q : Endpoint) : Prop where
  identity : q.identity = p.identity
  sent : ∃ new, q.io.log = new ++ p.io.log ∧ ∀ frame ∈ new, frame.Of p.identity

theorem Own.refl (p : Endpoint) : Own p p := ⟨rfl, [], rfl, fun _ hframe => by cases hframe⟩

theorem Own.grows (h : Own p q) : p.io.log <:+ q.io.log := by
  obtain ⟨new, hlog, -⟩ := h.sent
  exact ⟨new, hlog.symm⟩

theorem Own.mem (h : Own p q) {frame : Sent} (hframe : frame ∈ q.io.log) :
    frame ∈ p.io.log ∨ frame.Of p.identity := by
  obtain ⟨new, hlog, hnew⟩ := h.sent
  rw [hlog] at hframe
  exact (List.mem_append.1 hframe).symm.imp_right (hnew frame)

/-- A frame more, of the sender as it is. -/
theorem Own.logged (h : Own p q) {q' : Endpoint} (hidentity : q'.identity = q.identity)
    {frame : Sent} (hlog : q'.io.log = frame :: q.io.log)
    (hdata : frame.deviceData = q.sender.deviceData)
    (hindex : frame.sllIfindex = q.sender.deviceData.ifIndex.toNat) (hloud : ¬ q.Silent) :
    Own p q' := by
  obtain ⟨new, hold, hnew⟩ := h.sent
  have hof : frame.Of p.identity := by
    rw [← h.identity, Sent.Of, hdata]
    exact ⟨rfl, rfl, hindex, Option.isSome_iff_ne_none.2 fun hnone => hloud (Or.inr hnone)⟩
  refine ⟨hidentity.trans h.identity, frame :: new, by rw [hlog, hold, List.cons_append], ?_⟩
  intro frame' hframe
  rcases List.mem_cons.1 hframe with rfl | hbefore
  · exact hof
  · exact hnew frame' hbefore

theorem kept_own (env : Env) (p : Endpoint) : Kept env (Own p) where
  arm _ h := ⟨h.identity, h.sent⟩
  countdown _ h := ⟨h.identity, h.sent⟩
  greet _ h := ⟨h.identity, h.sent⟩
  refill _ _ h := ⟨h.identity, h.sent⟩
  timer _ _ _ h := ⟨h.identity, h.sent⟩
  renew _ _ h := ⟨h.identity, h.sent⟩
  setOperational _ _ h := ⟨h.identity, h.sent⟩
  tryTransmit q h := by
    rcases tryTransmit_cases env q with
      ⟨-, heq⟩ | ⟨-, -, heq⟩ | ⟨-, hloud, st, frame, -, hdata, hindex, heq⟩
    · rw [heq]
      exact h
    · rw [heq]
      exact ⟨h.identity, h.sent⟩
    · rw [heq]
      exact h.logged rfl rfl hdata hindex hloud
  endTransmission q h := by
    have hidentity := endTransmission_identity env q
    rcases endTransmission_log env q with ⟨-, hlog⟩ | ⟨hloud, frame, -, hdata, hindex, hlog⟩
    · exact ⟨hidentity.trans h.identity, hlog ▸ h.sent⟩
    · exact h.logged hidentity hlog hdata hindex hloud

theorem step_own (env : Env) (p : Endpoint) (op : SenderOp) : Own p (p.step env op) :=
  (kept_own env p).step op (.refl p)

end Endpoint

/-! ## All senders -/

namespace LldpRepository

variable {env : Env} {r r' r'' : LldpRepository}

/-- Every frame is of the sender that its interface has. -/
structure Fixed (r : LldpRepository) : Prop where
  index : ∀ (i : UInt32) (sender : LldpSender), r.currentState[i]? = some sender →
    sender.deviceData.ifIndex = i
  sent : ∀ frame ∈ r.io.log, ∃ sender : LldpSender,
    r.currentState[frame.deviceData.ifIndex]? = some sender ∧
      frame.Of (sender.deviceData.macAddress, sender.deviceData.ifIndex)

/-- Every sender is still there, with its MAC. -/
def Lasting (r r' : LldpRepository) : Prop :=
  ∀ (i : UInt32) (sender : LldpSender), r.currentState[i]? = some sender →
    ∃ sender' : LldpSender, r'.currentState[i]? = some sender' ∧
      sender'.deviceData.macAddress = sender.deviceData.macAddress

theorem Lasting.refl (r : LldpRepository) : Lasting r r := fun _ sender h => ⟨sender, h, rfl⟩

theorem Lasting.trans (h : Lasting r r') (h' : Lasting r' r'') : Lasting r r'' := by
  intro i sender hsender
  obtain ⟨sender', hsender', hmac⟩ := h i sender hsender
  obtain ⟨sender'', hsender'', hmac'⟩ := h' i sender' hsender'
  exact ⟨sender'', hsender'', hmac'.trans hmac⟩

/-- **A sender that sends its own frames** takes the place of one with its MAC, or of none. -/
theorem insert_fixed (h : r.Fixed) {i : UInt32} {p q : Endpoint} (hio : p.io = r.io)
    (hown : Endpoint.Own p q) (hindex : p.sender.deviceData.ifIndex = i)
    (hold : ∀ sender : LldpSender, r.currentState[i]? = some sender →
      p.sender.deviceData.macAddress = sender.deviceData.macAddress) :
    Fixed { r with currentState := r.currentState.insert i q.sender, io := q.io } ∧
      Lasting r { r with currentState := r.currentState.insert i q.sender, io := q.io } := by
  have hmac : q.sender.deviceData.macAddress = p.sender.deviceData.macAddress :=
    congrArg Prod.fst hown.identity
  have hidx : q.sender.deviceData.ifIndex = i := (congrArg Prod.snd hown.identity).trans hindex
  have hself : (r.currentState.insert i q.sender)[i]? = some q.sender :=
    ExtTreeMap.getElem?_insert_self
  have hlasting : Lasting r { r with currentState := r.currentState.insert i q.sender, io := q.io } := by
    intro k sender hsender
    by_cases hk : i = k
    · subst hk
      exact ⟨q.sender, hself, hmac.trans (hold sender hsender)⟩
    · exact ⟨sender, (ExtTreeMap.getElem?_insert.trans (if_neg (compare_ne hk))).trans hsender, rfl⟩
  have hindices : ∀ (k : UInt32) (sender : LldpSender),
      (r.currentState.insert i q.sender)[k]? = some sender → sender.deviceData.ifIndex = k := by
    intro k sender hsender
    by_cases hk : i = k
    · subst hk
      rw [← Option.some.inj (hself.symm.trans hsender)]
      exact hidx
    · have hkept : (r.currentState.insert i q.sender)[k]? = r.currentState[k]? :=
        ExtTreeMap.getElem?_insert.trans (if_neg (compare_ne hk))
      exact h.index k sender (hkept ▸ hsender)
  refine ⟨⟨hindices, fun frame hframe => ?_⟩, hlasting⟩
  rcases hown.mem hframe with hbefore | ⟨hframemac, hframeindex, hsll, hsome⟩
  · obtain ⟨sender, hsender, hof⟩ := h.sent frame (hio ▸ hbefore)
    obtain ⟨sender', hsender', hsame⟩ := hlasting _ sender hsender
    refine ⟨sender', hsender', ?_⟩
    rw [hsame, hindices _ sender' hsender', ← h.index _ sender hsender]
    exact hof
  · have hat : frame.deviceData.ifIndex = i := hframeindex.trans hindex
    refine ⟨q.sender, by rw [hat]; exact hself, ?_⟩
    rw [hmac, hidx, ← hindex]
    exact ⟨hframemac, hframeindex, hsll, hsome⟩

theorem atSender_fixed (env : Env) (h : r.Fixed) (idx : UInt32) (op : SenderOp) :
    (r.atSender idx (Endpoint.step env · op)).Fixed ∧
      Lasting r (r.atSender idx (Endpoint.step env · op)) := by
  unfold atSender
  split
  · rename_i sender hsender
    refine insert_fixed h (p := ⟨sender, r.io⟩) rfl (Endpoint.step_own env ⟨sender, r.io⟩ op)
      (h.index idx sender hsender) fun sender' hsender' => ?_
    rw [Option.some.inj (hsender.symm.trans hsender')]
  · exact ⟨h, .refl r⟩

/-- An interface without a sender gets one. -/
theorem emplaceSender_fixed (env : Env) (h : r.Fixed) {index : UInt32} {deviceData : DeviceData}
    (hindex : deviceData.ifIndex = index) (hnone : r.currentState[index]? = none) :
    (r.emplaceSender env index deviceData).Fixed ∧
      Lasting r (r.emplaceSender env index deviceData) := by
  refine insert_fixed h (p := ⟨⟨deviceData, 0, 0, 0, false⟩, r.io⟩) rfl
    ((Endpoint.kept_own env _).create (.refl _)) hindex ?_
  intro sender hsender
  rw [hnone] at hsender
  cases hsender

theorem device_turn_fixed (env : Env) (h : r.Fixed) {index : UInt32} {deviceData : DeviceData}
    (hindex : deviceData.ifIndex = index) :
    (r.updateDevice env (index, deviceData)).Fixed ∧
      Lasting r (r.updateDevice env (index, deviceData)) := by
  unfold updateDevice
  split
  · exact atSender_fixed env h index (.update deviceData)
  · rename_i hno
    have hnone : r.currentState[index]? = none := by
      rwa [ExtTreeMap.contains_eq_isSome_getElem?, Bool.not_eq_true, Option.isSome_eq_false_iff,
        Option.isNone_iff_eq_none] at hno
    obtain ⟨hmade, hlasting⟩ := emplaceSender_fixed env h hindex hnone
    obtain ⟨hgreeted, hlasting'⟩ := atSender_fixed env hmade index .newNeighbour
    exact ⟨hgreeted, hlasting.trans hlasting'⟩

/-- The devices are found under their indices. -/
def Indexed (r : LldpRepository) : Prop :=
  ∀ (i : UInt32) (d : DeviceData), r.deviceRepository.devices[i]? = some d → d.ifIndex = i

/-- **A synchronisation that leaves no sender out.** -/
theorem updateState_fixed (env : Env) (h : r.Fixed) (hbacked : r.Backed) (hindexed : r.Indexed) :
    (r.updateState env r.deviceRepository.devices).Fixed ∧
      Lasting r (r.updateState env r.deviceRepository.devices) := by
  rw [updateState_backed env hbacked]
  refine List.foldlRecOn (motive := fun r' => Fixed r' ∧ Lasting r r')
    r.deviceRepository.devices.toList _ ⟨h, .refl r⟩ ?_
  rintro r' ⟨hr', hlasting⟩ ⟨index, deviceData⟩ hmem
  obtain ⟨hturn, hlasting'⟩ := device_turn_fixed env hr'
    (hindexed index deviceData (ExtTreeMap.mem_toList_iff_getElem?_eq_some.1 hmem))
  exact ⟨hturn, hlasting.trans hlasting'⟩

theorem tick_fixed (env : Env) (h : r.Fixed) (deltaSeconds : UInt64) (sent : Bool) :
    (r.tick env deltaSeconds sent).Fixed ∧ Lasting r (r.tick env deltaSeconds sent) := by
  refine List.foldlRecOn (motive := fun r' => Fixed r' ∧ Lasting r r') r.currentState.keys
    (fun r idx => r.atSender idx (Endpoint.tick env deltaSeconds)) ⟨⟨h.index, h.sent⟩, .refl r⟩ ?_
  rintro r' ⟨hr', hlasting⟩ idx -
  obtain ⟨hturn, hlasting'⟩ := atSender_fixed env hr' idx (.tick deltaSeconds)
  exact ⟨hturn, hlasting.trans hlasting'⟩

/-- **An event of the loop.** -/
theorem step_fixed (env : Env) {event : DaemonEvent} (hevent : event.Looped) (hbacked : r.Backed)
    (hindexed : r.Indexed) (h : r.Fixed) : (r.step env event).Fixed ∧ Lasting r (r.step env event) := by
  -- only a tick and the end of an address dump get to the senders
  have hquiet : ∀ {deviceRepository : DeviceRepository},
      Fixed { r with deviceRepository := deviceRepository } ∧
        Lasting r { r with deviceRepository := deviceRepository } := ⟨⟨h.index, h.sent⟩, .refl r⟩
  cases event with
  | tick deltaSeconds sent => exact tick_fixed env h deltaSeconds sent
  | monitorPacket packet => exact hquiet
  | linkPacket packet sent => exact hquiet
  | addrPacket packet =>
    unfold step
    simp only
    rcases ipReaderPacket_devices r.deviceRepository packet with
      ⟨address, -, hnone⟩ | ⟨hdevices, hhanded⟩
    · rw [hnone]
      exact hquiet
    · rcases hhanded with hnone | hall
      · rw [hnone]
        exact hquiet
      · rw [hall, ← hdevices]
        refine updateState_fixed env (r := { r with
          deviceRepository := (r.deviceRepository.ipReaderPacket packet).1 }) ⟨h.index, h.sent⟩ ?_ ?_
        · intro i hi
          rw [hdevices]
          exact hbacked i hi
        · intro i d hd
          rw [hdevices] at hd
          exact hindexed i d hd
  | _ => cases hevent

/-! ## Runs -/

/-- What a run keeps, for the devices to be found under their indices. -/
structure Upheld (env : Env) (r : LldpRepository) : Prop where
  fixed : r.Fixed
  backed : r.Backed
  vouched : ∃ links, Vouched env links r

theorem Upheld.indexed (h : Upheld env r) : r.Indexed := by
  obtain ⟨links, hvouched⟩ := h.vouched
  exact fun i d hd => (hvouched.devices i d hd).ifIndex

/-- The bytes of a frame begin with the MAC of its device as their source. -/
theorem Upheld.source (h : Upheld env r) {frame : Sent} (hframe : frame ∈ r.io.log) :
    ∃ (mac : Octets 6) (rest : Bytes), frame.deviceData.macAddress = some mac ∧
      frame.buffer = multicastAddress.toList ++ mac.toList ++ [0x88, 0xCC] ++ rest := by
  obtain ⟨links, hvouched⟩ := h.vouched
  obtain ⟨newer, older, hlog⟩ := List.append_of_mem hframe
  obtain ⟨mac, hmac, -, chassis, rest, -, hbuffer⟩ := hvouched.io.log newer frame older hlog
  rw [List.append_assoc _ chassis, List.append_assoc _ (chassis ++ _)] at hbuffer
  exact ⟨mac, _, hmac, hbuffer⟩

theorem create_upheld (env : Env) : Upheld env .create := by
  have hnone : ∀ i : UInt32, LldpRepository.create.currentState[i]? = none :=
    fun _ => ExtTreeMap.getElem?_empty
  have hdevices : ∀ i : UInt32, LldpRepository.create.deviceRepository.devices[i]? = none :=
    fun _ => ExtTreeMap.getElem?_empty
  refine ⟨⟨fun i sender hs => ?_, fun frame hframe => by cases hframe⟩, create_backed, [],
    fun i d hd => ?_, fun i sender hs => ?_, statics_init_ok env.machineId,
    fun newer frame older hlog => by cases newer <;> cases hlog⟩
  · rw [hnone] at hs
    cases hs
  · rw [hdevices] at hd
    cases hd
  · rw [hnone] at hs
    cases hs

theorem step_upheld (env : Env) {r : LldpRepository} (h : Upheld env r) {event : DaemonEvent}
    (hevent : event.Looped) : Upheld env (r.step env event) := by
  obtain ⟨links, hvouched⟩ := h.vouched
  exact ⟨(step_fixed env hevent h.backed h.indexed h.fixed).1, (step_onward env h.backed hevent).2,
    _, step_vouched r event links hvouched⟩

theorem run_fixed (env : Env) {r : LldpRepository} (h : Upheld env r) {events : List DaemonEvent}
    (hevents : ∀ event ∈ events, event.Looped) :
    Upheld env (run (step env) r events) ∧ Lasting r (run (step env) r events) := by
  induction events generalizing r with
  | nil => exact ⟨h, .refl r⟩
  | cons event events ih =>
    have hevent := hevents event List.mem_cons_self
    obtain ⟨hend, hrest⟩ := ih (step_upheld env h hevent)
      fun x hx => hevents x (List.mem_cons_of_mem event hx)
    exact ⟨hend, (step_fixed env hevent h.backed h.indexed h.fixed).2.trans hrest⟩

end LldpRepository

open LldpRepository

/-- **An interface has one MAC.** In every run of the event loop, whatever the kernel reports:
a sender is there for good, with the MAC that its device had when it was made. Every frame
goes out on the interface of a sender, and its bytes have this MAC as their source. So an
interface whose MAC was not known then, because its address came first, never sends a frame, and
one that gets another MAC goes on with the old one. -/
theorem one_mac (platform : Platform) (verbose : Bool) (calls more : List HandlerCall)
    (d d' : Daemon) (h : Daemon.run platform verbose calls = .ok d)
    (h' : Daemon.run platform verbose (calls ++ more) = .ok d') :
    (∀ (i : UInt32) (sender : LldpSender), d.lldpRepository.currentState[i]? = some sender →
      ∃ sender' : LldpSender, d'.lldpRepository.currentState[i]? = some sender' ∧
        sender'.deviceData.macAddress = sender.deviceData.macAddress) ∧
    (∀ frame ∈ d'.lldpRepository.io.log, ∃ (i : UInt32) (sender : LldpSender) (mac : Octets 6)
        (rest : Bytes), frame.sllIfindex = i.toNat ∧
      d'.lldpRepository.currentState[i]? = some sender ∧
      sender.deviceData.macAddress = some mac ∧
      frame.buffer = multicastAddress.toList ++ mac.toList ++ [0x88, 0xCC] ++ rest) ∧
    ∀ (i : UInt32) (sender : LldpSender), d.lldpRepository.currentState[i]? = some sender →
      sender.deviceData.macAddress = none →
      ∀ frame ∈ d'.lldpRepository.io.log, frame.sllIfindex ≠ i.toNat := by
  obtain ⟨-, -, hd, -⟩ := Daemon.run_parts h
  have hkept : Upheld platform.env d.lldpRepository := by
    rw [hd]
    exact (run_fixed platform.env (create_upheld platform.env) (Daemon.events_looped platform calls)).1
  obtain ⟨hkept', hlasting⟩ :=
    run_fixed platform.env hkept (Daemon.events_looped platform more)
  rw [← Daemon.run_later h h'] at hkept' hlasting
  have hframes : ∀ frame ∈ d'.lldpRepository.io.log, ∃ (i : UInt32) (sender : LldpSender)
      (mac : Octets 6) (rest : Bytes), frame.sllIfindex = i.toNat ∧
        d'.lldpRepository.currentState[i]? = some sender ∧
        sender.deviceData.macAddress = some mac ∧
        frame.buffer = multicastAddress.toList ++ mac.toList ++ [0x88, 0xCC] ++ rest := by
    intro frame hframe
    obtain ⟨sender, hsender, hmac, hindex, hsll, -⟩ := hkept'.fixed.sent frame hframe
    obtain ⟨mac, rest, hframemac, hbuffer⟩ := hkept'.source hframe
    exact ⟨_, sender, mac, rest, hindex ▸ hsll, hsender, hmac.symm.trans hframemac, hbuffer⟩
  refine ⟨hlasting, hframes, fun i sender hsender hnone frame hframe hsame => ?_⟩
  obtain ⟨sender', hsender', hmac'⟩ := hlasting i sender hsender
  obtain ⟨k, other, mac, -, hsll, hother, hsome, -⟩ := hframes frame hframe
  have hi : k = i := UInt32.toNat_inj.1 (hsll.symm.trans hsame)
  rw [hi] at hother
  rw [Option.some.inj (hother.symm.trans hsender'), hmac', hnone] at hsome
  cases hsome

/-- The dump of the links ends without one, and an address makes a device. -/
def muteCalls : List HandlerCall := [
  .clock (some 1) true,
  .netlink .deviceReader (.ofKernel endOfDump) fun _ => true,
  .netlink .ipReader (.ofKernel addrDump) fun _ => true]

theorem one_mac_mute : ∃ d d', Daemon.run quietPlatform false muteCalls = .ok d ∧
    Daemon.run quietPlatform false (muteCalls ++ [.clock (some 1) true]) = .ok d' ∧
    ∀ frame ∈ d'.lldpRepository.io.log, frame.sllIfindex ≠ 2 := by
  have hmute : (Daemon.run quietPlatform false muteCalls).toOption.bind (fun d =>
      d.lldpRepository.currentState[(2 : UInt32)]?.map fun sender => sender.deviceData.macAddress) =
        some none := by decide +kernel
  have hok : (Daemon.run quietPlatform false (muteCalls ++ [.clock (some 1) true])).isOk = true := by
    decide +kernel
  cases hrun : Daemon.run quietPlatform false muteCalls with
  | error crash => rw [hrun] at hmute; cases hmute
  | ok d =>
    rw [hrun] at hmute
    cases hrun' : Daemon.run quietPlatform false (muteCalls ++ [.clock (some 1) true]) with
    | error crash => rw [hrun'] at hok; cases hok
    | ok d' =>
      obtain ⟨sender, hsender, hnone⟩ := Option.map_eq_some_iff.1 hmute
      exact ⟨d, d', rfl, rfl, (one_mac quietPlatform false muteCalls [.clock (some 1) true] d d' hrun
        hrun').2.2 2 sender hsender hnone⟩

end Ndisc
