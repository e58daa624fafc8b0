import Ndisc.Proof.Operational
import Ndisc.Spec.Repository

/-!
# One synchronisation of the senders

`UpdateState` gives every interface one turn: a device of the new state is updated or
made, and a sender whose device is gone says goodbye and is erased.

* `updateState_eq`: a synchronisation is the run of its turns.
* `turn_other`: a turn leaves all other senders alone.
* `device_frames`, `gone_frames`: what a turn sends.
* `updateState_synchronises`: **the senders are those of the new state; exactly the senders
  that are gone send a frame with TTL 0; a sender whose device did not change is left alone**.
-/

namespace Ndisc

open Wire Endpoint
open Std (ExtTreeMap)

/-! ## What a sender sends in its turn -/

namespace Endpoint

variable {env : Env} {p q : Endpoint}

/-- All that was sent on the way has the normal TTL. -/
def Adds (p q : Endpoint) : Prop :=
  ∃ frames, q.io.log = frames ++ p.io.log ∧ ∀ frame ∈ frames, frame.ttl = targetTtl

theorem Adds.trans {q' : Endpoint} (h : Adds p q) (h' : Adds q q') : Adds p q' := by
  obtain ⟨frames, hlog, httl⟩ := h
  obtain ⟨frames', hlog', httl'⟩ := h'
  refine ⟨frames' ++ frames, by rw [hlog', hlog, List.append_assoc], ?_⟩
  intro frame hframe
  rcases List.mem_append.1 hframe with h | h
  · exact httl' frame h
  · exact httl frame h

theorem adds_of_log (h : q.io.log = p.io.log) : Adds p q := by
  refine ⟨[], h, ?_⟩
  intro frame hframe
  cases hframe

theorem tryTransmit_adds (env : Env) (p : Endpoint) : Adds p (p.tryTransmit env) := by
  rcases tryTransmit_cases env p with ⟨-, heq⟩ | ⟨-, -, heq⟩ | ⟨-, -, st, frame, httl, -, -, heq⟩
  · rw [heq]
    exact adds_of_log rfl
  · rw [heq]
    exact adds_of_log rfl
  · rw [heq]
    refine ⟨[frame], rfl, ?_⟩
    intro frame' hframe'
    rw [List.mem_singleton.1 hframe', httl]

theorem update_adds (env : Env) (newDeviceData : DeviceData) (p : Endpoint) :
    Adds p (p.update env newDeviceData) := by
  rcases update_eq env newDeviceData p with ⟨-, heq⟩ | ⟨-, heq⟩
  · rw [heq]
    exact adds_of_log rfl
  · rw [heq, localChangeDetected_eq, newNeighbour_eq]
    -- a device that goes down sends twice
    refine Adds.trans ?_ (tryTransmit_adds env _)
    split
    · exact tryTransmit_adds env (p.renew newDeviceData).greet.countdown.arm
    · exact adds_of_log rfl

/-- Without a credit a greeting sends nothing. -/
theorem newNeighbour_exhausted (env : Env) (h : p.Exhausted) :
    (p.newNeighbour env).io.log = p.io.log ∧ (p.newNeighbour env).Exhausted := by
  rw [newNeighbour_eq]
  exact tryTransmit_exhausted env (p := p.greet.countdown.arm) h

theorem create_exhausted (env : Env) (deviceData : DeviceData) (io : Io) :
    (create env deviceData io).Exhausted := by
  have hzero : Exhausted ⟨⟨deviceData, 0, 0, 0, false⟩, io⟩ := Or.inl rfl
  unfold create
  simp only
  split
  · exact (newNeighbour_exhausted env hzero).2
  · exact hzero

/-- **The goodbye**: one frame with TTL 0, unless the device is silent. -/
theorem endTransmission_log (env : Env) (p : Endpoint) :
    (p.Silent ∧ (p.endTransmission env).io.log = p.io.log) ∨
      (¬ p.Silent ∧ ∃ frame : Sent, frame.ttl = 0 ∧ frame.deviceData = p.sender.deviceData ∧
        frame.sllIfindex = p.sender.deviceData.ifIndex.toNat ∧
        (p.endTransmission env).io.log = frame :: p.io.log) := by
  unfold endTransmission
  by_cases hs : p.Silent
  · left
    rw [sendLldp_silent hs, ite_self]
    exact ⟨hs, rfl⟩
  · have hmac : p.sender.deviceData.macAddress.isSome = true :=
      Option.isSome_iff_ne_none.2 fun hnone => hs (Or.inr hnone)
    right
    rw [if_pos hmac, sendLldp_logged hs]
    exact ⟨hs, _, rfl, rfl, rfl, rfl⟩

end Endpoint

/-! ## Turns -/

/-- What `UpdateState` does for one index. -/
inductive Turn
  | device (index : UInt32) (deviceData : DeviceData)
  | gone (index : UInt32)

def Turn.index : Turn → UInt32
  | .device index _ => index
  | .gone index => index

namespace LldpRepository

variable {env : Env} {r : LldpRepository} {newState : Devices} {i : UInt32}

def turn (env : Env) (r : LldpRepository) : Turn → LldpRepository
  | .device index deviceData => r.updateDevice env (index, deviceData)
  | .gone index => r.deleteLldpStateMachine env index

/-- The devices of the new state, and then the indices that are not in it. -/
def turns (r : LldpRepository) (newState : Devices) : List Turn :=
  newState.toList.map (fun device => .device device.1 device.2) ++
    (r.currentState.keys.filter fun index => !newState.contains index).map .gone

/-- The frames that a turn hands to `sendto`, in order. -/
def sentBy (env : Env) (r : LldpRepository) (t : Turn) : List Sent :=
  (Journal.since (r.turn env t).io.log r.io.log).reverse

/-- The frames that the turn of an index hands to `sendto`. -/
def framesOf (env : Env) (r : LldpRepository) (newState : Devices) (i : UInt32) : List Sent :=
  Run.observeAt Turn.index (sentBy env) (turn env) i r (r.turns newState)

/-! ## The senders after one turn -/

theorem compare_ne {index k : UInt32} (h : index ≠ k) : compare index k ≠ .eq := by
  intro heq
  exact h (Std.LawfulEqOrd.eq_of_compare heq)

theorem contains_of_some {r : LldpRepository} {index : UInt32} {sender : LldpSender}
    (h : r.currentState[index]? = some sender) : r.currentState.contains index = true := by
  rw [ExtTreeMap.contains_eq_isSome_getElem?, h]
  rfl

theorem getElem?_atSender (r : LldpRepository) (idx : UInt32) (call : Endpoint → Endpoint)
    (k : UInt32) :
    (r.atSender idx call).currentState[k]? =
      if idx = k then r.currentState[k]?.map fun sender => (call ⟨sender, r.io⟩).sender
      else r.currentState[k]? := by
  unfold atSender
  by_cases hk : idx = k
  · subst hk
    rw [if_pos rfl]
    cases hidx : r.currentState[idx]? with
    | none => exact hidx
    | some sender => exact ExtTreeMap.getElem?_insert_self
  · rw [if_neg hk]
    cases hidx : r.currentState[idx]? with
    | none => rfl
    | some sender => exact ExtTreeMap.getElem?_insert.trans (if_neg (compare_ne hk))

theorem atSender_io (r : LldpRepository) {idx : UInt32} (call : Endpoint → Endpoint)
    {sender : LldpSender} (h : r.currentState[idx]? = some sender) :
    (r.atSender idx call).io = (call ⟨sender, r.io⟩).io := by
  unfold atSender
  rw [h]

theorem mem_iff_getElem? (r : LldpRepository) (k : UInt32) :
    k ∈ r.currentState ↔ ∃ sender, r.currentState[k]? = some sender := by
  rw [← ExtTreeMap.isSome_getElem?_iff_mem, Option.isSome_iff_exists]

/-- An index without a sender gets a new one, which is greeted. -/
theorem updateDevice_new (env : Env) (r : LldpRepository) {index : UInt32}
    (deviceData : DeviceData) (h : r.currentState[index]? = none) :
    (r.updateDevice env (index, deviceData)).currentState[index]? =
        some ((Endpoint.create env deviceData r.io).newNeighbour env).sender ∧
      (r.updateDevice env (index, deviceData)).io.log = r.io.log := by
  have hno : r.currentState.contains index ≠ true := by
    rw [ExtTreeMap.contains_eq_isSome_getElem?, h]
    exact Bool.false_ne_true
  have hmade : (r.emplaceSender env index deviceData).currentState[index]? =
      some (Endpoint.create env deviceData r.io).sender := by
    unfold emplaceSender
    rw [ExtTreeMap.getElem?_insert_self]
  unfold updateDevice createLldpStateMachine
  rw [if_neg hno]
  constructor
  · rw [getElem?_atSender, if_pos rfl, hmade]
    rfl
  · have hpoint : (⟨(Endpoint.create env deviceData r.io).sender,
        (r.emplaceSender env index deviceData).io⟩ : Endpoint) =
          Endpoint.create env deviceData r.io := rfl
    have hsilent := (newNeighbour_exhausted env (create_exhausted env deviceData r.io)).1
    rw [atSender_io _ _ hmade, hpoint, hsilent, create_io]

/-- A sender that is there is updated. -/
theorem updateDevice_old (env : Env) (r : LldpRepository) {index : UInt32}
    (deviceData : DeviceData) {sender : LldpSender} (h : r.currentState[index]? = some sender) :
    (r.updateDevice env (index, deviceData)).currentState[index]? =
        some (update env deviceData ⟨sender, r.io⟩).sender ∧
      (r.updateDevice env (index, deviceData)).io = (update env deviceData ⟨sender, r.io⟩).io := by
  unfold updateDevice
  rw [if_pos (contains_of_some h)]
  constructor
  · rw [getElem?_atSender, if_pos rfl, h]
    rfl
  · exact atSender_io r _ h

/-- A sender that is gone says goodbye, and is erased. -/
theorem deleteLldpStateMachine_eq (env : Env) (r : LldpRepository) {index : UInt32}
    {sender : LldpSender} (h : r.currentState[index]? = some sender) :
    (r.deleteLldpStateMachine env index).currentState[index]? = none ∧
      (r.deleteLldpStateMachine env index).io = (endTransmission env ⟨sender, r.io⟩).io := by
  unfold deleteLldpStateMachine
  rw [if_pos (contains_of_some h)]
  exact ⟨ExtTreeMap.getElem?_erase_self, atSender_io r _ h⟩

def senderAt (r : LldpRepository) (k : UInt32) : Option LldpSender := r.currentState[k]?

/-- **A turn leaves all other senders alone.** -/
theorem turn_other (env : Env) (r : LldpRepository) (t : Turn) (k : UInt32) (h : t.index ≠ k) :
    (r.turn env t).senderAt k = r.senderAt k := by
  unfold senderAt
  cases t with
  | device index deviceData =>
    have hne : index ≠ k := h
    show (r.updateDevice env (index, deviceData)).currentState[k]? = _
    unfold updateDevice
    split
    · rw [getElem?_atSender, if_neg hne]
    · unfold createLldpStateMachine
      rw [getElem?_atSender, if_neg hne, emplaceSender, ExtTreeMap.getElem?_insert,
        if_neg (compare_ne hne)]
  | gone index =>
    have hne : index ≠ k := h
    show (r.deleteLldpStateMachine env index).currentState[k]? = _
    unfold deleteLldpStateMachine
    split
    · rw [ExtTreeMap.getElem?_erase, if_neg (compare_ne hne), getElem?_atSender, if_neg hne]
    · rfl

/-! ## The frames of one turn -/

theorem sentBy_eq {t : Turn} (frames : List Sent)
    (h : (r.turn env t).io.log = frames ++ r.io.log) : r.sentBy env t = frames.reverse :=
  congrArg List.reverse (Journal.since_eq h)

/-- What the turn of a device adds has the normal TTL. -/
theorem device_frames (env : Env) (r : LldpRepository) (index : UInt32) (deviceData : DeviceData) :
    ∃ frames, (r.turn env (.device index deviceData)).io.log = frames ++ r.io.log ∧
      ∀ frame ∈ frames, frame.ttl = targetTtl := by
  cases h : r.currentState[index]? with
  | none =>
    refine ⟨[], (updateDevice_new env r deviceData h).2, ?_⟩
    intro frame hframe
    cases hframe
  | some sender =>
    obtain ⟨-, hio⟩ := updateDevice_old env r deviceData h
    show ∃ frames, (r.updateDevice env (index, deviceData)).io.log = _ ∧ _
    rw [hio]
    exact update_adds env deviceData ⟨sender, r.io⟩

/-- The turn of a sender that is gone adds its goodbye. -/
theorem gone_frames (env : Env) (r : LldpRepository) {index : UInt32} {sender : LldpSender}
    (h : r.currentState[index]? = some sender) :
    (Silent ⟨sender, r.io⟩ ∧ (r.turn env (.gone index)).io.log = r.io.log) ∨
      (¬ Silent ⟨sender, r.io⟩ ∧ ∃ frame : Sent, frame.ttl = 0 ∧
        frame.deviceData = sender.deviceData ∧ frame.sllIfindex = sender.deviceData.ifIndex.toNat ∧
        (r.turn env (.gone index)).io.log = frame :: r.io.log) := by
  obtain ⟨-, hio⟩ := deleteLldpStateMachine_eq env r h
  show _ ∧ (r.deleteLldpStateMachine env index).io.log = _ ∨ _ ∧ ∃ frame : Sent, _ ∧ _ ∧ _ ∧
    (r.deleteLldpStateMachine env index).io.log = _
  rw [hio]
  exact endTransmission_log env ⟨sender, r.io⟩

/-- A turn only adds to the log. -/
theorem turn_log (env : Env) (r : LldpRepository) (t : Turn) :
    (r.turn env t).io.log.reverse = r.io.log.reverse ++ r.sentBy env t := by
  have hadds : ∃ frames, (r.turn env t).io.log = frames ++ r.io.log := by
    cases t with
    | device index deviceData =>
      obtain ⟨frames, hlog, -⟩ := device_frames env r index deviceData
      exact ⟨frames, hlog⟩
    | gone index =>
      cases h : r.currentState[index]? with
      | none =>
        refine ⟨[], ?_⟩
        show (r.deleteLldpStateMachine env index).io.log = _
        unfold deleteLldpStateMachine
        rw [ExtTreeMap.contains_eq_isSome_getElem?, h]
        rfl
      | some sender =>
        rcases gone_frames env r h with ⟨-, hlog⟩ | ⟨-, frame, -, -, -, hlog⟩
        · exact ⟨[], hlog⟩
        · exact ⟨[frame], hlog⟩
  obtain ⟨frames, hlog⟩ := hadds
  rw [sentBy_eq _ hlog, hlog, List.reverse_append]

/-! ## The turns of a synchronisation -/

theorem firstLoop_eq (env : Env) (r : LldpRepository) (newState : Devices) :
    newState.toList.foldl (updateDevice env) r =
      Run.run (turn env) r (newState.toList.map fun device => .device device.1 device.2) := by
  rw [Run.run, List.foldl_map]
  rfl

theorem mem_toList_fst {index : UInt32} {deviceData : DeviceData}
    (h : (index, deviceData) ∈ newState.toList) : index ∈ newState := by
  rw [ExtTreeMap.mem_toList_iff_getElem?_eq_some] at h
  rw [← ExtTreeMap.isSome_getElem?_iff_mem, h]
  rfl

/-- The first loop makes no sender for an index that is not in the new state. -/
theorem deletables_eq (env : Env) (r : LldpRepository) (newState : Devices) :
    (newState.toList.foldl (updateDevice env) r).currentState.keys.filter
        (fun index => !newState.contains index) =
      r.currentState.keys.filter fun index => !newState.contains index := by
  have hordered : ∀ m : ExtTreeMap UInt32 LldpSender,
      (m.keys.filter fun index => !newState.contains index).Pairwise fun a b => compare a b = .lt :=
    fun m => ExtTreeMap.ordered_keys.filter _
  have hnodup : ∀ m : ExtTreeMap UInt32 LldpSender,
      (m.keys.filter fun index => !newState.contains index).Nodup :=
    fun m => ExtTreeMap.nodup_keys.filter _
  -- both lists are in order, so it is enough that they have the same members
  apply List.Perm.eq_of_pairwise ?_ (hordered _) (hordered _)
  · rw [List.perm_ext_iff_of_nodup (hnodup _) (hnodup _)]
    intro k
    simp only [List.mem_filter, ExtTreeMap.mem_keys, mem_iff_getElem?, Bool.not_eq_true',
      and_congr_left_iff]
    intro hk
    have hindex : ∀ t ∈ newState.toList.map (fun device => Turn.device device.1 device.2),
        t.index ≠ k := by
      rintro t ht rfl
      obtain ⟨⟨index, deviceData⟩, hmem, rfl⟩ := List.mem_map.1 ht
      have hcontains := ExtTreeMap.contains_iff_mem.2 (mem_toList_fst hmem)
      exact Bool.false_ne_true (hk.symm.trans hcontains)
    have hkeep : senderAt _ k = r.senderAt k :=
      (Run.run_untouched (sentBy env) (turn_other env) r hindex).1
    rw [firstLoop_eq]
    unfold senderAt at hkeep
    rw [hkeep]
  · intro a b _ _ hab hba
    rw [Std.OrientedCmp.gt_of_lt hab] at hba
    cases hba

/-- **A synchronisation is the run of its turns.** -/
theorem updateState_eq (env : Env) (r : LldpRepository) (newState : Devices) :
    r.updateState env newState = Run.run (turn env) r (r.turns newState) := by
  unfold updateState
  simp only
  rw [deletables_eq, turns, Run.run_append, ← firstLoop_eq, Run.run, List.foldl_map]
  rfl

theorem index_device (newState : Devices) :
    (newState.toList.map fun device => Turn.device device.1 device.2).map Turn.index = newState.keys := by
  rw [List.map_map, ← ExtTreeMap.map_fst_toList_eq_keys]
  rfl

theorem index_gone (l : List UInt32) : (l.map Turn.gone).map Turn.index = l := by
  rw [List.map_map]
  exact List.map_id l

/-- No index has two turns. -/
theorem turns_nodup (r : LldpRepository) (newState : Devices) :
    ((r.turns newState).map Turn.index).Nodup := by
  unfold turns
  rw [List.map_append, index_device, index_gone]
  apply ExtTreeMap.nodup_keys.append (ExtTreeMap.nodup_keys.filter _)
  intro k hnew hgone
  rw [ExtTreeMap.mem_keys, ← ExtTreeMap.contains_iff_mem] at hnew
  rw [List.mem_filter, hnew] at hgone
  exact Bool.false_ne_true hgone.2

theorem device_mem_turns {deviceData : DeviceData} (h : newState[i]? = some deviceData) :
    .device i deviceData ∈ r.turns newState :=
  List.mem_append_left _ (List.mem_map.2
    ⟨(i, deviceData), ExtTreeMap.mem_toList_iff_getElem?_eq_some.2 h, rfl⟩)

theorem gone_mem_turns (hold : i ∈ r.currentState) (hnew : i ∉ newState) :
    .gone i ∈ r.turns newState := by
  refine List.mem_append_right _ (List.mem_map.2 ⟨i, ?_, rfl⟩)
  rw [List.mem_filter, ExtTreeMap.mem_keys]
  rw [← ExtTreeMap.contains_iff_mem, Bool.not_eq_true] at hnew
  rw [hnew]
  exact ⟨hold, rfl⟩

theorem turns_index_ne (hold : i ∉ r.currentState) (hnew : i ∉ newState) :
    ∀ t ∈ r.turns newState, t.index ≠ i := by
  rintro t ht rfl
  rcases List.mem_append.1 ht with hdevice | hgone
  · obtain ⟨⟨index, deviceData⟩, hmem, rfl⟩ := List.mem_map.1 hdevice
    exact hnew (mem_toList_fst hmem)
  · obtain ⟨index, hmem, rfl⟩ := List.mem_map.1 hgone
    exact hold (ExtTreeMap.mem_keys.1 (List.mem_filter.1 hmem).1)

/-- **A device of the new state**: its one turn finds the sender as it was. -/
theorem device_turn (env : Env) (r : LldpRepository) {deviceData : DeviceData}
    (h : newState[i]? = some deviceData) :
    ∃ r' : LldpRepository, r'.currentState[i]? = r.currentState[i]? ∧
      (r.updateState env newState).currentState[i]? =
        (r'.turn env (.device i deviceData)).currentState[i]? ∧
      r.framesOf env newState i = r'.sentBy env (.device i deviceData) := by
  obtain ⟨r', hcell, hrun, hframes⟩ := Run.run_turn (sentBy env) (turn_other env) r
    (turns_nodup r newState) (device_mem_turns h)
  rw [updateState_eq]
  exact ⟨r', hcell, hrun, hframes⟩

/-- **A sender whose device is gone**: its one turn finds it as it was. -/
theorem gone_turn (env : Env) (r : LldpRepository) {sender : LldpSender}
    (h : r.currentState[i]? = some sender) (hnew : i ∉ newState) :
    ∃ r' : LldpRepository, r'.currentState[i]? = some sender ∧
      (r.updateState env newState).currentState[i]? = none ∧
      r.framesOf env newState i = r'.sentBy env (.gone i) := by
  have hold : i ∈ r.currentState := (mem_iff_getElem? r i).2 ⟨sender, h⟩
  obtain ⟨r', hcell, hrun, hframes⟩ := Run.run_turn (sentBy env) (turn_other env) r
    (turns_nodup r newState) (gone_mem_turns hold hnew)
  have hsender : r'.currentState[i]? = some sender := hcell.trans h
  rw [updateState_eq]
  exact ⟨r', hsender, hrun.trans (deleteLldpStateMachine_eq env r' hsender).1, hframes⟩

/-- An index that neither has a sender nor a device. -/
theorem no_turn (env : Env) (r : LldpRepository) (hold : i ∉ r.currentState) (hnew : i ∉ newState) :
    (r.updateState env newState).currentState[i]? = none ∧ r.framesOf env newState i = [] := by
  obtain ⟨hrun, hframes⟩ := Run.run_untouched (sentBy env) (turn_other env) r
    (turns_index_ne hold hnew)
  rw [updateState_eq]
  refine ⟨hrun.trans ?_, hframes⟩
  rw [← ExtTreeMap.isSome_getElem?_iff_mem, Bool.not_eq_true, Option.isSome_eq_false_iff,
    Option.isNone_iff_eq_none] at hold
  exact hold

/-! ## The three parts -/

/-- A turn in the new state leaves a sender behind. -/
theorem device_senderAt (env : Env) (r : LldpRepository) (index : UInt32) (deviceData : DeviceData) :
    ∃ sender, (r.turn env (.device index deviceData)).currentState[index]? = some sender := by
  cases h : r.currentState[index]? with
  | none => exact ⟨_, (updateDevice_new env r deviceData h).1⟩
  | some sender => exact ⟨_, (updateDevice_old env r deviceData h).1⟩

theorem updateState_keys (env : Env) (r : LldpRepository) (newState : Devices) (i : UInt32) :
    i ∈ (r.updateState env newState).currentState ↔ i ∈ newState := by
  rw [mem_iff_getElem?]
  by_cases hnew : i ∈ newState
  · obtain ⟨deviceData, hdevice⟩ := Option.isSome_iff_exists.1
      ((ExtTreeMap.isSome_getElem?_iff_mem).2 hnew)
    obtain ⟨r', -, hrun, -⟩ := device_turn env r hdevice
    rw [hrun]
    exact iff_of_true (device_senderAt env r' i deviceData) hnew
  · have hnone : (r.updateState env newState).currentState[i]? = none := by
      by_cases hold : i ∈ r.currentState
      · obtain ⟨sender, hsender⟩ := (mem_iff_getElem? r i).1 hold
        obtain ⟨-, -, hrun, -⟩ := gone_turn env r hsender hnew
        exact hrun
      · exact (no_turn env r hold hnew).1
    rw [hnone]
    refine iff_of_false ?_ hnew
    rintro ⟨sender, hsender⟩
    cases hsender

/-- All frames are frames of some turn. -/
theorem updateState_log (env : Env) (r : LldpRepository) (newState : Devices) :
    (r.updateState env newState).io.log.reverse =
      r.io.log.reverse ++ Run.observe (turn env) (sentBy env) r (r.turns newState) := by
  rw [updateState_eq]
  generalize r.turns newState = ts
  induction ts using List.reverseRecOn with
  | nil => simp [Run.observe]
  | append_singleton ts t ih =>
    rw [Run.run_concat, Run.observe_concat, turn_log, ih, List.append_assoc]

/-- What an index sends that keeps, gets or never had a sender. -/
theorem framesOf_stays (env : Env) (r : LldpRepository) (h : i ∈ newState ∨ i ∉ r.currentState) :
    ∀ frame ∈ r.framesOf env newState i, frame.ttl = targetTtl := by
  intro frame hframe
  by_cases hnew : i ∈ newState
  · obtain ⟨deviceData, hdevice⟩ := Option.isSome_iff_exists.1
      ((ExtTreeMap.isSome_getElem?_iff_mem).2 hnew)
    obtain ⟨r', -, -, hframes⟩ := device_turn env r hdevice
    obtain ⟨frames, hlog, httl⟩ := device_frames env r' i deviceData
    rw [hframes, sentBy_eq _ hlog] at hframe
    exact httl frame (List.mem_reverse.1 hframe)
  · have hold : i ∉ r.currentState := h.resolve_left hnew
    rw [(no_turn env r hold hnew).2] at hframe
    cases hframe

/-- **What a removed index sends**: its goodbye, unless the device is silent. -/
theorem framesOf_gone (env : Env) (r : LldpRepository) {sender : LldpSender}
    (h : r.currentState[i]? = some sender) (hnew : i ∉ newState) :
    (Silent ⟨sender, r.io⟩ ∧ r.framesOf env newState i = []) ∨
      (¬ Silent ⟨sender, r.io⟩ ∧ ∃ frame : Sent, r.framesOf env newState i = [frame] ∧
        frame.ttl = 0 ∧ frame.deviceData = sender.deviceData ∧
        frame.sllIfindex = sender.deviceData.ifIndex.toNat) := by
  obtain ⟨r', hsender, -, hframes⟩ := gone_turn env r h hnew
  rw [hframes]
  rcases gone_frames env r' hsender with ⟨hs, hlog⟩ | ⟨hs, frame, httl, hdata, hidx, hlog⟩
  · exact Or.inl ⟨hs, sentBy_eq [] hlog⟩
  · exact Or.inr ⟨hs, frame, sentBy_eq [frame] hlog, httl, hdata, hidx⟩

/-- **A sender without a change is left alone.** -/
theorem framesOf_unchanged (env : Env) (r : LldpRepository) {sender : LldpSender}
    {deviceData : DeviceData} (h : r.currentState[i]? = some sender)
    (hnew : newState[i]? = some deviceData) (hsame : Unchanged ⟨sender, r.io⟩ deviceData) :
    (r.updateState env newState).currentState[i]? = some sender ∧
      r.framesOf env newState i = [] := by
  obtain ⟨r', hcell, hrun, hframes⟩ := device_turn env r hnew
  have hsender : r'.currentState[i]? = some sender := hcell.trans h
  obtain ⟨hafter, hio⟩ := updateDevice_old env r' deviceData hsender
  have hidle : update env deviceData ⟨sender, r'.io⟩ = ⟨sender, r'.io⟩ := by
    rcases update_eq env deviceData ⟨sender, r'.io⟩ with ⟨-, heq⟩ | ⟨hno, -⟩
    · exact heq
    · exact absurd hsame hno
  rw [hidle] at hafter hio
  refine ⟨hrun.trans hafter, ?_⟩
  rw [hframes]
  exact sentBy_eq [] (congrArg Io.log hio)

end LldpRepository

/-- **What a synchronisation does.** For every map of senders, every new state and whatever
the sends answer: the senders afterwards are those of the new state. Every frame belongs to
the turn of some index; an index that is gone sends one frame, with TTL 0 and its device,
if it has a MAC and an index that is an `int`, and nothing otherwise; no other index sends a
frame with TTL 0; and an index whose device did not change sends nothing and keeps its
sender as it was. -/
theorem updateState_synchronises (env : Env) (r : LldpRepository) (newState : Devices) :
    (∀ i, i ∈ (r.updateState env newState).currentState ↔ i ∈ newState) ∧
    (r.updateState env newState).io.log.reverse = r.io.log.reverse ++
      Run.observe (LldpRepository.turn env) (LldpRepository.sentBy env) r (r.turns newState) ∧
    (∀ i sender, r.currentState[i]? = some sender → i ∉ newState →
      if sender.deviceData.macAddress.isSome ∧ sender.deviceData.ifIndex.toNat ≤ intMax then
        ∃ frame : Sent, r.framesOf env newState i = [frame] ∧ frame.ttl = 0 ∧
          frame.deviceData = sender.deviceData ∧
          frame.sllIfindex = sender.deviceData.ifIndex.toNat
      else r.framesOf env newState i = []) ∧
    (∀ i, i ∈ newState ∨ i ∉ r.currentState →
      ∀ frame ∈ r.framesOf env newState i, frame.ttl ≠ 0) ∧
    (∀ i sender deviceData, r.currentState[i]? = some sender → newState[i]? = some deviceData →
      Unchanged ⟨sender, r.io⟩ deviceData →
      (r.updateState env newState).currentState[i]? = some sender ∧
        r.framesOf env newState i = []) := by
  refine ⟨LldpRepository.updateState_keys env r newState,
    LldpRepository.updateState_log env r newState, ?_, ?_, ?_⟩
  · intro i sender hsender hnew
    rcases LldpRepository.framesOf_gone env r hsender hnew with ⟨hs, hnone⟩ | ⟨hs, hone⟩
    · rw [if_neg]
      · exact hnone
      · rintro ⟨hmac, hidx⟩
        rcases hs with hbig | hno
        · exact absurd hbig (Nat.not_lt.2 hidx)
        · rw [show sender.deviceData.macAddress = none from hno] at hmac
          cases hmac
    · rw [if_pos]
      · exact hone
      · exact ⟨Option.isSome_iff_ne_none.2 fun hno => hs (Or.inr hno),
          Nat.not_lt.1 fun hbig => hs (Or.inl hbig)⟩
  · intro i hstays frame hframe
    rw [LldpRepository.framesOf_stays env r hstays frame hframe]
    decide
  · intro i sender deviceData hsender hdevice hsame
    exact LldpRepository.framesOf_unchanged env r hsender hdevice hsame

end Ndisc
