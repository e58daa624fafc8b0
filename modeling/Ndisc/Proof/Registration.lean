import Ndisc.Lib.Run
import Ndisc.Spec.Events

/-!
# Managers and handlers refer to each other

A handle is a ticket: a manager gives it to a handler once, takes it back once, and calls
the handler only in between.

* `Linked`: the invariant of the objects of a process.
* `Linked.unlink`, `Linked.link`, `Linked.destruct`: what removing, adding and destroying
  a handler do to it.
* `step_inv`: **every step keeps it**, as long as no counter has wrapped.
* `registrations_consistent`: what this means for handlers, handles and calls.
-/

namespace Ndisc.Events

open Tickets
open Std (ExtTreeMap)

/-- A handler without a manager, or without a handle. -/
def EventHandler.Unlinked (handler : EventHandler) : Prop :=
  handler.eventManager = none ∨ handler.handle = 0

namespace State

/-- The table of a manager. -/
def registered (s : State) (m : ManagerId) (id : UInt64) : Option HandlerId :=
  (s.managers m).registeredEvents[id]?

/-- The number of handles that a manager has given out. -/
def given (s : State) (m : ManagerId) : ℕ := (tickets (s.history m)).length

/-- The objects refer to each other. -/
structure Linked (s : State) : Prop where
  tickets : ∀ m, Sound UInt64.toNat (s.registered m) (s.managers m).eventIdCounter.toNat (s.history m)
  counter : ∀ m, (s.managers m).eventIdCounter.toNat = s.given m + 1
  registered : ∀ m id x, s.registered m id = some x ↔ ∃ handler, s.handlers x = some handler ∧
    handler.eventManager = some m ∧ handler.handle = id ∧ id ≠ 0
  watched : ∀ m id x handler, s.registered m id = some x → s.handlers x = some handler →
    ∃ interest event, (s.managers m).epfd = some interest ∧ interest handler.socket = some event
  descriptors : ∀ x handler, s.handlers x = some handler → s.descriptors handler.socket = some x
  fresh : ∀ x, s.created ≤ x → s.handlers x = none

variable {s : State} {m : ManagerId} {id : UInt64} {x y : HandlerId} {handler : EventHandler}
  {interest : InterestList}

theorem linked_init : Linked init where
  tickets m := by
    have hnone : init.registered m = fun _ => none := by
      funext id
      exact ExtTreeMap.getElem?_empty
    rw [hnone]
    exact sound_empty _ _
  counter m := rfl
  registered m id x := by
    constructor
    · intro h
      rw [registered, show (init.managers m).registeredEvents[id]? = none from
        ExtTreeMap.getElem?_empty] at h
      cases h
    · rintro ⟨handler, h, -⟩
      cases h
  watched m id x handler h hx := by cases hx
  descriptors x handler h := by cases h
  fresh x _ := rfl

/-- A handler that is linked is registered. -/
theorem Linked.registered_handle (h : Linked s) (hx : s.handlers x = some handler)
    (hm : handler.eventManager = some m) (hid : handler.handle ≠ 0) :
    s.registered m handler.handle = some x :=
  (h.registered m _ x).2 ⟨handler, hx, hm, rfl, hid⟩

theorem Linked.not_registered (h : Linked s) (hx : s.handlers x = some handler)
    (hun : handler.Unlinked) (m : ManagerId) (id : UInt64) : s.registered m id ≠ some x := by
  intro hreg
  obtain ⟨handler', hx', hm, hid, hne⟩ := (h.registered m id x).1 hreg
  rw [hx] at hx'
  cases hx'
  rcases hun with hnone | hzero
  · rw [hnone] at hm; cases hm
  · exact hne (hid.symm.trans hzero)

/-- Two handlers that are alive have two descriptors. -/
theorem Linked.socket_ne (h : Linked s) {handler' : EventHandler} (hx : s.handlers x = some handler)
    (hy : s.handlers y = some handler') (hne : y ≠ x) : handler'.socket ≠ handler.socket := by
  intro heq
  have hsame := h.descriptors y handler' hy
  rw [heq, h.descriptors x handler hx] at hsame
  exact hne (Option.some.inj hsame).symm

theorem Linked.lt_created (h : Linked s) (hx : s.handlers x = some handler) : x < s.created := by
  by_contra hge
  rw [h.fresh x (Nat.not_lt.1 hge)] at hx
  cases hx

/-- A handler that keeps its descriptor may change. -/
theorem Linked.update_descriptors (h : Linked s) {after : EventHandler}
    (hx : s.handlers x = some handler) (hsocket : after.socket = handler.socket) (y : HandlerId)
    (handler' : EventHandler) (hy : Function.update s.handlers x (some after) y = some handler') :
    s.descriptors handler'.socket = some y := by
  rcases eq_or_ne y x with rfl | hne
  · rw [Function.update_self] at hy
    cases hy
    rw [hsocket]
    exact h.descriptors y handler hx
  · rw [Function.update_of_ne hne] at hy
    exact h.descriptors y handler' hy

/-- A handler that is there was made before. -/
theorem Linked.update_fresh (h : Linked s) (hx : s.handlers x = some handler)
    (after : Option EventHandler) (y : HandlerId) (hy : s.created ≤ y) :
    Function.update s.handlers x after y = none := by
  have hne : y ≠ x := (Nat.lt_of_lt_of_le (h.lt_created hx) hy).ne'
  rw [Function.update_of_ne hne]
  exact h.fresh y hy

/-! ## The history -/

theorem record_history (s : State) (m : ManagerId) (entry : Entry UInt64 HandlerId) :
    (s.record m entry).history = Function.update s.history m (entry :: s.history m) := rfl

/-- An entry that gives nothing. -/
theorem given_record_of_nil (s : State) (m : ManagerId) {entry : Entry UInt64 HandlerId}
    (h : Tickets.tickets [entry] = []) : (s.record m entry).given = s.given := by
  funext m'
  rw [given, record_history]
  rcases eq_or_ne m' m with rfl | hm'
  · rw [Function.update_self, ← List.singleton_append, Tickets.tickets, List.filterMap_append]
    rw [Tickets.tickets] at h
    rw [h]
    rfl
  · rw [Function.update_of_ne hm']
    rfl

theorem given_erase (s : State) (m : ManagerId) (id : UInt64) : (s.erase m id).given = s.given :=
  given_record_of_nil _ m rfl

/-! ## Removing -/

/-- A handler and its manager no longer refer to each other. -/
def unlink (s : State) (m : ManagerId) (id : UInt64) (x : HandlerId) (handler : EventHandler)
    (interest : InterestList) : State :=
  ((s.setManager m { s.managers m with
    epfd := some (Function.update interest handler.socket none) }).setHandler x
      { handler with eventManager := none, handle := 0 }).erase m id

section

variable (s m id x handler interest)

theorem unlink_managers_self : (s.unlink m id x handler interest).managers m =
    ⟨(s.managers m).registeredEvents.erase id, (s.managers m).eventIdCounter,
      some (Function.update interest handler.socket none)⟩ := by
  simp [unlink, erase, record, setManager, setHandler]

theorem unlink_managers_ne {m' : ManagerId} (h : m' ≠ m) :
    (s.unlink m id x handler interest).managers m' = s.managers m' := by
  simp [unlink, erase, record, setManager, setHandler, h]

theorem unlink_handlers : (s.unlink m id x handler interest).handlers =
    Function.update s.handlers x (some { handler with eventManager := none, handle := 0 }) := rfl

theorem unlink_history : (s.unlink m id x handler interest).history =
    Function.update s.history m (.withdrawn id :: s.history m) := rfl

theorem unlink_given : (s.unlink m id x handler interest).given = s.given := given_erase _ m id

theorem unlink_registered : (s.unlink m id x handler interest).registered m =
    Function.update (s.registered m) id none := by
  funext id'
  rw [registered, unlink_managers_self]
  rcases eq_or_ne id' id with rfl | hne
  · rw [Function.update_self]
    exact ExtTreeMap.getElem?_erase_self
  · rw [Function.update_of_ne hne, ExtTreeMap.getElem?_erase, if_neg (by simpa using hne.symm)]
    rfl

theorem unlink_registered_ne {m' : ManagerId} (h : m' ≠ m) :
    (s.unlink m id x handler interest).registered m' = s.registered m' := by
  funext id'
  rw [registered, unlink_managers_ne _ _ _ _ _ _ h]
  rfl

end

/-- The other handlers stay registered as they were. -/
theorem unlink_registered_iff {m' : ManagerId} {id' : UInt64} (hreg : s.registered m id = some x)
    (hy : y ≠ x) : (s.unlink m id x handler interest).registered m' id' = some y ↔
      s.registered m' id' = some y := by
  rcases eq_or_ne m' m with rfl | hm'
  · rw [unlink_registered]
    rcases eq_or_ne id' id with rfl | hid'
    · rw [Function.update_self, hreg]
      refine ⟨fun hnone => ?_, fun hsome => absurd (Option.some.inj hsome).symm hy⟩
      cases hnone
    · rw [Function.update_of_ne hid']
  · rw [unlink_registered_ne _ _ _ _ _ _ hm']

/-- The handler itself is registered nowhere. -/
theorem Linked.unlink_not_registered (h : Linked s) (hreg : s.registered m id = some x)
    (m' : ManagerId) (id' : UInt64) :
    (s.unlink m id x handler interest).registered m' id' ≠ some x := by
  obtain ⟨handler₁, hx₁, hm₁, hid₁, -⟩ := (h.registered m id x).1 hreg
  intro hstill
  have hold : s.registered m' id' = some x := by
    rcases eq_or_ne m' m with rfl | hm'
    · rw [unlink_registered] at hstill
      rcases eq_or_ne id' id with rfl | hid'
      · rw [Function.update_self] at hstill; cases hstill
      · rwa [Function.update_of_ne hid'] at hstill
    · rwa [unlink_registered_ne _ _ _ _ _ _ hm'] at hstill
  -- a handler is registered under one handle, with one manager
  obtain ⟨handler₂, hx₂, hm₂, hid₂, -⟩ := (h.registered m' id' x).1 hold
  rw [hx₁] at hx₂
  cases hx₂
  rw [hm₁] at hm₂
  cases hm₂
  obtain rfl : id' = id := hid₂.symm.trans hid₁
  rw [unlink_registered, Function.update_self] at hstill
  cases hstill

/-- The others are watched as before: their descriptors are not the one that is dropped. -/
theorem Linked.unlink_watched (h : Linked s) (hx : s.handlers x = some handler)
    (hepfd : (s.managers m).epfd = some interest) {m' : ManagerId} {id' : UInt64}
    {handler' : EventHandler} (hy : y ≠ x) (hreg' : s.registered m' id' = some y)
    (hy' : s.handlers y = some handler') :
    ∃ interest' event, ((s.unlink m id x handler interest).managers m').epfd = some interest' ∧
      interest' handler'.socket = some event := by
  obtain ⟨interest', event, hepfd', hevent⟩ := h.watched m' id' y handler' hreg' hy'
  rcases eq_or_ne m' m with rfl | hm'
  · rw [hepfd] at hepfd'
    cases hepfd'
    rw [unlink_managers_self]
    refine ⟨_, event, rfl, ?_⟩
    rw [Function.update_of_ne (h.socket_ne hx hy' hy)]
    exact hevent
  · rw [unlink_managers_ne _ _ _ _ _ _ hm']
    exact ⟨interest', event, hepfd', hevent⟩

/-- **Removing a registered handler keeps the objects linked.** -/
theorem Linked.unlink (h : Linked s) (hreg : s.registered m id = some x)
    (hx : s.handlers x = some handler) (hepfd : (s.managers m).epfd = some interest) :
    Linked (s.unlink m id x handler interest) where
  tickets m' := by
    rcases eq_or_ne m' m with rfl | hm'
    · rw [unlink_registered, unlink_managers_self, unlink_history, Function.update_self]
      exact (h.tickets m').withdraw hreg
    · rw [unlink_registered_ne _ _ _ _ _ _ hm', unlink_managers_ne _ _ _ _ _ _ hm',
        unlink_history, Function.update_of_ne hm']
      exact h.tickets m'
  counter m' := by
    rw [unlink_given]
    rcases eq_or_ne m' m with rfl | hm'
    · rw [unlink_managers_self]; exact h.counter m'
    · rw [unlink_managers_ne _ _ _ _ _ _ hm']; exact h.counter m'
  registered m' id' y := by
    rcases eq_or_ne y x with rfl | hy
    · rw [unlink_handlers, Function.update_self]
      refine iff_of_false (h.unlink_not_registered hreg m' id') ?_
      rintro ⟨handler', heq, hm', -⟩
      cases heq
      cases hm'
    · rw [unlink_registered_iff hreg hy, unlink_handlers, Function.update_of_ne hy]
      exact h.registered m' id' y
  watched m' id' y handler' hreg' hy' := by
    rcases eq_or_ne y x with rfl | hy
    · exact absurd hreg' (h.unlink_not_registered hreg m' id')
    · rw [unlink_registered_iff hreg hy] at hreg'
      rw [unlink_handlers, Function.update_of_ne hy] at hy'
      exact h.unlink_watched hx hepfd hy hreg' hy'
  descriptors := h.update_descriptors hx rfl
  fresh := h.update_fresh hx _

/-- `Remove` of a handle in the table always succeeds. -/
theorem Linked.remove_eq (h : Linked s) (hreg : s.registered m id = some x) :
    ∃ handler interest, s.handlers x = some handler ∧ (s.managers m).epfd = some interest ∧
      s.remove m id = (.ok (), s.unlink m id x handler interest) := by
  obtain ⟨handler, hx, -⟩ := (h.registered m id x).1 hreg
  obtain ⟨interest, event, hepfd, hevent⟩ := h.watched m id x handler hreg hx
  refine ⟨handler, interest, hx, hepfd, ?_⟩
  have hdel : (s.managers m).epollCtlDel handler.socket =
      .ok { s.managers m with epfd := some (Function.update interest handler.socket none) } := by
    simp [EventManager.epollCtlDel, hepfd, hevent]
  rw [State.registered] at hreg
  simp only [State.remove, hreg, hx, hdel]
  rfl

theorem Linked.remove (h : Linked s) (m : ManagerId) (id : UInt64) : Linked (s.remove m id).2 := by
  cases hreg : s.registered m id with
  | none =>
    rw [State.registered] at hreg
    rw [State.remove, hreg]
    exact h
  | some x =>
    obtain ⟨handler, interest, hx, hepfd, heq⟩ := h.remove_eq hreg
    rw [heq]
    exact h.unlink hreg hx hepfd

theorem Linked.removeHandler (h : Linked s) (m : ManagerId) (x : HandlerId) :
    Linked (s.removeHandler m x).2 := by
  unfold State.removeHandler
  split
  · exact h
  · split
    · exact h
    · exact h.remove m _

/-- What is left of a handler that leaves its manager. -/
theorem Linked.leave (h : Linked s) (hx : s.handlers x = some handler) :
    Linked (s.leave handler) ∧ ∃ handler', (s.leave handler).handlers x = some handler' ∧
      handler'.Unlinked ∧ handler'.socket = handler.socket := by
  unfold State.leave
  cases hm : handler.eventManager with
  | none => exact ⟨h, handler, hx, Or.inl hm, rfl⟩
  | some m =>
    by_cases hid : handler.handle = 0
    · simp only [hid, ne_eq, not_true_eq_false, if_false]
      exact ⟨h, handler, hx, Or.inr hid, rfl⟩
    · have hreg := h.registered_handle hx hm hid
      obtain ⟨handler', interest, hx', hepfd, heq⟩ := h.remove_eq hreg
      rw [hx] at hx'
      cases hx'
      simp only [ne_eq, hid, not_false_eq_true, if_true, heq]
      refine ⟨h.unlink hreg hx hepfd, { handler with eventManager := none, handle := 0 }, ?_,
        Or.inl rfl, rfl⟩
      rw [unlink_handlers, Function.update_self]

/-! ## Adding -/

/-- The next handle of a manager is in use nowhere. -/
theorem Linked.counter_free (h : Linked s) (m : ManagerId) :
    s.registered m (s.managers m).eventIdCounter = none := by
  cases hreg : s.registered m (s.managers m).eventIdCounter with
  | none => rfl
  | some x =>
    have hlt := (h.tickets m).given_below _ x ((h.tickets m).held _ x hreg).1
    exact absurd hlt (Nat.lt_irrefl _)

theorem Linked.freeId_eq (h : Linked s) (m : ManagerId) (rounds : ℕ) :
    (s.managers m).freeId (rounds + 1) (s.managers m).eventIdCounter =
      (s.managers m).eventIdCounter := by
  have hfree := h.counter_free m
  have hnot : (s.managers m).eventIdCounter ∉ (s.managers m).registeredEvents := by
    intro hmem
    rw [ExtTreeMap.mem_iff_isSome_getElem?, show (s.managers m).registeredEvents[_]? = none from
      hfree] at hmem
    cases hmem
  rw [EventManager.freeId, if_neg hnot]

/-- A handler and its manager refer to each other by the next handle. -/
def link (s : State) (m : ManagerId) (x : HandlerId) (handler : EventHandler)
    (interest : InterestList) : State :=
  ((s.setManager m ⟨(s.managers m).registeredEvents.insert (s.managers m).eventIdCounter x,
    (s.managers m).eventIdCounter + 1, some (Function.update interest handler.socket
      (some ⟨handler.events, (s.managers m).eventIdCounter⟩))⟩).setHandler x
        { handler with eventManager := some m, handle := (s.managers m).eventIdCounter }).record m
          (.given (s.managers m).eventIdCounter x)

section

variable (s m x handler interest)

theorem link_managers : (s.link m x handler interest).managers = Function.update s.managers m
    ⟨(s.managers m).registeredEvents.insert (s.managers m).eventIdCounter x,
      (s.managers m).eventIdCounter + 1, some (Function.update interest handler.socket
        (some ⟨handler.events, (s.managers m).eventIdCounter⟩))⟩ := rfl

theorem link_handlers : (s.link m x handler interest).handlers =
    Function.update s.handlers x (some { handler with
      eventManager := some m, handle := (s.managers m).eventIdCounter }) := rfl

theorem link_history : (s.link m x handler interest).history = Function.update s.history m
    (.given (s.managers m).eventIdCounter x :: s.history m) := rfl

theorem link_registered : (s.link m x handler interest).registered m =
    Function.update (s.registered m) (s.managers m).eventIdCounter (some x) := by
  funext id
  rw [registered, link_managers, Function.update_self]
  rcases eq_or_ne id (s.managers m).eventIdCounter with rfl | hne
  · rw [Function.update_self]
    exact ExtTreeMap.getElem?_insert_self
  · rw [Function.update_of_ne hne, ExtTreeMap.getElem?_insert, if_neg (by simpa using hne.symm)]
    rfl

theorem link_registered_ne {m' : ManagerId} (h : m' ≠ m) :
    (s.link m x handler interest).registered m' = s.registered m' := by
  funext id
  rw [registered, link_managers, Function.update_of_ne h]
  rfl

end

/-- The other handlers stay registered as they were. -/
theorem Linked.link_registered_iff (h : Linked s) {m' : ManagerId} (hy : y ≠ x) :
    (s.link m x handler interest).registered m' id = some y ↔ s.registered m' id = some y := by
  rcases eq_or_ne m' m with rfl | hm'
  · rw [link_registered]
    rcases eq_or_ne id (s.managers m').eventIdCounter with rfl | hid
    · rw [Function.update_self, h.counter_free]
      refine ⟨fun hsome => absurd (Option.some.inj hsome).symm hy, fun hnone => ?_⟩
      cases hnone
    · rw [Function.update_of_ne hid]
  · rw [link_registered_ne _ _ _ _ _ hm']

/-- The handler itself is registered under its new handle only. -/
theorem Linked.link_registered_self (h : Linked s) {before : EventHandler}
    (hx : s.handlers x = some before) (hun : before.Unlinked) {m' : ManagerId} {id : UInt64} :
    (s.link m x handler interest).registered m' id = some x ↔
      m' = m ∧ id = (s.managers m).eventIdCounter := by
  constructor
  · intro hreg
    rcases eq_or_ne m' m with rfl | hm'
    · rw [link_registered] at hreg
      rcases eq_or_ne id (s.managers m').eventIdCounter with rfl | hid
      · exact ⟨rfl, rfl⟩
      · rw [Function.update_of_ne hid] at hreg
        exact absurd hreg (h.not_registered hx hun m' id)
    · rw [link_registered_ne _ _ _ _ _ hm'] at hreg
      exact absurd hreg (h.not_registered hx hun m' id)
  · rintro ⟨rfl, rfl⟩
    rw [link_registered, Function.update_self]

/-- The others are watched as before: their descriptors are not the one that is added. -/
theorem Linked.link_watched (h : Linked s) {before : EventHandler} (hx : s.handlers x = some before)
    (hsocket : before.socket = handler.socket) (hepfd : (s.managers m).epfd = some interest)
    {m' : ManagerId} {id : UInt64} {after : EventHandler} (hy : y ≠ x)
    (hreg : s.registered m' id = some y) (hy' : s.handlers y = some after) :
    ∃ interest' event, ((s.link m x handler interest).managers m').epfd = some interest' ∧
      interest' after.socket = some event := by
  obtain ⟨interest', event, hepfd', hevent⟩ := h.watched m' id y after hreg hy'
  rw [link_managers]
  rcases eq_or_ne m' m with rfl | hm'
  · rw [hepfd] at hepfd'
    cases hepfd'
    rw [Function.update_self]
    refine ⟨_, event, rfl, ?_⟩
    rw [Function.update_of_ne (hsocket ▸ h.socket_ne hx hy' hy)]
    exact hevent
  · rw [Function.update_of_ne hm']
    exact ⟨interest', event, hepfd', hevent⟩

/-- **Adding a handler that is linked to nothing keeps the objects linked.** -/
theorem Linked.link (h : Linked s) {before : EventHandler} (hx : s.handlers x = some before)
    (hun : before.Unlinked) (hsocket : before.socket = handler.socket)
    (hepfd : (s.managers m).epfd = some interest)
    (hwrap : (s.link m x handler interest).given m < 2 ^ 64 - 1) :
    Linked (s.link m x handler interest) := by
  have hgiven : (s.link m x handler interest).given m = s.given m + 1 := by
    rw [given, link_history, Function.update_self]
    rfl
  have hold := h.counter m
  have hcounter : ((s.managers m).eventIdCounter + 1).toNat =
      (s.managers m).eventIdCounter.toNat + 1 := by
    rw [UInt64.toNat_add]
    exact Nat.mod_eq_of_lt (by simp; omega)
  -- the counter starts at 1, so no handle is the 0 that means none
  have hpos : (s.managers m).eventIdCounter ≠ 0 := by
    intro hzero
    rw [hzero] at hold
    exact absurd hold (by simp)
  refine { tickets := ?_, counter := ?_, registered := ?_, watched := ?_,
           descriptors := h.update_descriptors hx hsocket.symm, fresh := h.update_fresh hx _ }
  · intro m'
    rcases eq_or_ne m' m with rfl | hm'
    · rw [link_registered, link_managers, link_history, Function.update_self, Function.update_self,
        hcounter]
      exact (h.tickets m').give rfl
    · rw [link_registered_ne _ _ _ _ _ hm', link_managers, link_history, Function.update_of_ne hm',
        Function.update_of_ne hm']
      exact h.tickets m'
  · intro m'
    rcases eq_or_ne m' m with rfl | hm'
    · rw [link_managers, Function.update_self, hcounter, hgiven, hold]
    · rw [link_managers, Function.update_of_ne hm', given, link_history, Function.update_of_ne hm']
      exact h.counter m'
  · intro m' id y
    rcases eq_or_ne y x with rfl | hy
    · rw [h.link_registered_self hx hun, link_handlers, Function.update_self]
      constructor
      · rintro ⟨rfl, rfl⟩
        exact ⟨_, rfl, rfl, rfl, hpos⟩
      · rintro ⟨after, heq, hm', hid, -⟩
        cases heq
        cases hm'
        exact ⟨rfl, hid.symm⟩
    · rw [h.link_registered_iff hy, link_handlers, Function.update_of_ne hy]
      exact h.registered m' id y
  · intro m' id y after hreg hy'
    rcases eq_or_ne y x with rfl | hy
    · obtain ⟨rfl, rfl⟩ := (h.link_registered_self hx hun).1 hreg
      rw [link_handlers, Function.update_self] at hy'
      cases hy'
      rw [link_managers, Function.update_self]
      exact ⟨_, _, rfl, Function.update_self ..⟩
    · rw [h.link_registered_iff hy] at hreg
      rw [link_handlers, Function.update_of_ne hy] at hy'
      exact h.link_watched hx hsocket hepfd hy hreg hy'

/-- What `Add` does: the handler leaves its manager, and is linked if the kernel agrees. -/
theorem Linked.add_cases (h : Linked s) (hx : s.handlers x = some handler) (m : ManagerId)
    (refused : Option ℤ) :
    (s.add m x refused).2 = s.leave handler ∨
      ∃ interest, ((s.leave handler).managers m).epfd = some interest ∧
        (s.add m x refused).2 = (s.leave handler).link m x handler interest := by
  obtain ⟨hleft, -⟩ := h.leave hx
  have hfree := hleft.freeId_eq m ((s.leave handler).managers m).registeredEvents.size
  have hsame : (s.leave handler).setManager m ((s.leave handler).managers m) = s.leave handler := by
    rw [setManager, Function.update_eq_self]
  rw [State.add, hx]
  simp only [hfree]
  -- the counter is stored even where the kernel refuses
  cases hadd : ((s.leave handler).managers m).epollCtlAdd handler.socket
      ⟨handler.events, ((s.leave handler).managers m).eventIdCounter⟩ refused with
  | error errno => exact Or.inl hsame
  | ok manager =>
    unfold EventManager.epollCtlAdd at hadd
    split at hadd
    · cases hadd
    · rename_i interest hepfd
      split at hadd
      · cases hadd
      · split at hadd
        · cases hadd
        · cases hadd
          exact Or.inr ⟨interest, hepfd, rfl⟩

/-! ## Handlers come and go -/

theorem setHandler_handlers (s : State) (x : HandlerId) (handler : EventHandler) :
    (s.setHandler x handler).handlers = Function.update s.handlers x (some handler) := rfl

theorem destruct_handlers (s : State) (x : HandlerId) (socket : Fd) :
    (s.destruct x socket).handlers = Function.update s.handlers x none := rfl

theorem destruct_managers (s : State) (x : HandlerId) (socket : Fd) (m : ManagerId) :
    (s.destruct x socket).managers m = (s.managers m).close socket := rfl

theorem destruct_epfd (s : State) (x : HandlerId) (socket : Fd) (m : ManagerId) :
    ((s.destruct x socket).managers m).epfd =
      (s.managers m).epfd.map fun interest => Function.update interest socket none := rfl

/-- The program's `shared_ptr`s to a handler are nothing that the invariant looks at. -/
theorem Linked.setHandler (h : Linked s) (hx : s.handlers x = some handler) (owned : Bool) :
    Linked (s.setHandler x { handler with owned := owned }) := by
  have hsame : ∀ {y : HandlerId} {after : EventHandler},
      (s.setHandler x { handler with owned := owned }).handlers y = some after →
      ∃ before, s.handlers y = some before ∧ before.socket = after.socket ∧
        before.eventManager = after.eventManager ∧ before.handle = after.handle := by
    intro y after hy
    rcases eq_or_ne y x with rfl | hne
    · rw [setHandler_handlers, Function.update_self] at hy
      cases hy
      exact ⟨handler, hx, rfl, rfl, rfl⟩
    · rw [setHandler_handlers, Function.update_of_ne hne] at hy
      exact ⟨after, hy, rfl, rfl, rfl⟩
  have hback : ∀ {y : HandlerId} {before : EventHandler}, s.handlers y = some before →
      ∃ after, (s.setHandler x { handler with owned := owned }).handlers y = some after ∧
        after.eventManager = before.eventManager ∧ after.handle = before.handle := by
    intro y before hy
    rcases eq_or_ne y x with rfl | hne
    · rw [hx] at hy
      cases hy
      exact ⟨_, Function.update_self .., rfl, rfl⟩
    · refine ⟨before, ?_, rfl, rfl⟩
      rw [setHandler_handlers, Function.update_of_ne hne]
      exact hy
  refine ⟨h.tickets, h.counter, ?_, ?_, h.update_descriptors hx rfl, h.update_fresh hx _⟩
  · intro m id y
    refine (h.registered m id y).trans ⟨?_, ?_⟩
    · rintro ⟨before, hy, hm, hid, hne⟩
      obtain ⟨after, hafter, hm', hid'⟩ := hback hy
      exact ⟨after, hafter, hm'.trans hm, hid'.trans hid, hne⟩
    · rintro ⟨after, hy, hm, hid, hne⟩
      obtain ⟨before, hbefore, -, hm', hid'⟩ := hsame hy
      exact ⟨before, hbefore, hm'.trans hm, hid'.trans hid, hne⟩
  · intro m id y after hreg hy
    obtain ⟨before, hbefore, hsocket, -⟩ := hsame hy
    rw [← hsocket]
    exact h.watched m id y before hreg hbefore

/-- A new handler is linked to nothing. -/
theorem Linked.create (h : Linked s) (socket : Fd) (events : UInt32) :
    Linked (s.create socket events) := by
  unfold State.create
  split
  · exact h
  · rename_i hclosed
    have hnew := h.fresh s.created (Nat.le_refl _)
    have hcases : ∀ {y : HandlerId} {after : EventHandler},
        Function.update s.handlers s.created (some ⟨socket, events, none, 0, true⟩) y = some after →
        (y = s.created ∧ after = ⟨socket, events, none, 0, true⟩) ∨
          (y ≠ s.created ∧ s.handlers y = some after) := by
      intro y after hy
      rcases eq_or_ne y s.created with rfl | hne
      · rw [Function.update_self] at hy
        exact Or.inl ⟨rfl, (Option.some.inj hy).symm⟩
      · rw [Function.update_of_ne hne] at hy
        exact Or.inr ⟨hne, hy⟩
    refine ⟨h.tickets, h.counter, ?_, ?_, ?_, ?_⟩
    · intro m id y
      refine (h.registered m id y).trans ⟨?_, ?_⟩
      · rintro ⟨handler, hy, hrest⟩
        have hne : y ≠ s.created := by rintro rfl; rw [hnew] at hy; cases hy
        exact ⟨handler, (Function.update_of_ne hne ..).trans hy, hrest⟩
      · rintro ⟨handler, hy, hm, hrest⟩
        rcases hcases hy with ⟨-, rfl⟩ | ⟨-, hy'⟩
        · cases hm
        · exact ⟨handler, hy', hm, hrest⟩
    · intro m id y handler hreg hy
      rcases hcases hy with ⟨rfl, -⟩ | ⟨-, hy'⟩
      · obtain ⟨handler', hy', -⟩ := (h.registered m id s.created).1 hreg
        rw [hnew] at hy'
        cases hy'
      · exact h.watched m id y handler hreg hy'
    · intro y handler hy
      rcases hcases hy with ⟨rfl, rfl⟩ | ⟨-, hy'⟩
      · exact Function.update_self ..
      · have hdesc := h.descriptors y handler hy'
        -- the new descriptor was closed, so no other handler owns it
        have hother : handler.socket ≠ socket := by
          rintro rfl
          rw [hclosed] at hdesc
          cases hdesc
        exact (Function.update_of_ne hother ..).trans hdesc
    · intro y hy
      have hlt : s.created < y := hy
      exact (Function.update_of_ne hlt.ne' ..).trans (h.fresh y hlt.le)

/-- **Destroying a handler that is linked to nothing keeps the objects linked.** -/
theorem Linked.destruct (h : Linked s) (hx : s.handlers x = some handler) (hun : handler.Unlinked) :
    Linked (s.destruct x handler.socket) := by
  have hold : ∀ {y : HandlerId} {after : EventHandler},
      (s.destruct x handler.socket).handlers y = some after → y ≠ x ∧ s.handlers y = some after := by
    intro y after hy
    rcases eq_or_ne y x with rfl | hne
    · rw [destruct_handlers, Function.update_self] at hy; cases hy
    · rw [destruct_handlers, Function.update_of_ne hne] at hy
      exact ⟨hne, hy⟩
  refine ⟨h.tickets, h.counter, ?_, ?_, ?_, h.update_fresh hx _⟩
  · intro m id y
    refine (h.registered m id y).trans ⟨?_, ?_⟩
    · rintro ⟨handler', hy, hm, hid, hnz⟩
      -- the handler that goes was registered nowhere
      have hne : y ≠ x := by
        rintro rfl
        exact h.not_registered hx hun m id ((h.registered m id y).2 ⟨handler', hy, hm, hid, hnz⟩)
      exact ⟨handler', (Function.update_of_ne hne ..).trans hy, hm, hid, hnz⟩
    · rintro ⟨handler', hy, hrest⟩
      exact ⟨handler', (hold hy).2, hrest⟩
  · intro m id y handler' hreg hy
    obtain ⟨hne, hy'⟩ := hold hy
    obtain ⟨interest, event, hepfd, hevent⟩ := h.watched m id y handler' hreg hy'
    refine ⟨Function.update interest handler.socket none, event, ?_, ?_⟩
    · rw [destruct_epfd, hepfd]
      rfl
    · rw [Function.update_of_ne (h.socket_ne hx hy' hne)]
      exact hevent
  · intro y handler' hy
    obtain ⟨hne, hy'⟩ := hold hy
    exact (Function.update_of_ne (h.socket_ne hx hy' hne) ..).trans (h.descriptors y handler' hy')

/-- The descriptor is closed either way. -/
theorem erase_destruct (hepfd : (s.managers m).epfd = some interest) :
    (s.destruct x handler.socket).erase m id =
      (s.unlink m id x handler interest).destruct x handler.socket := by
  have hmanagers : ((s.destruct x handler.socket).erase m id).managers =
      ((s.unlink m id x handler interest).destruct x handler.socket).managers := by
    funext m'
    rcases eq_or_ne m' m with rfl | hm'
    · have hleft : ((s.destruct x handler.socket).erase m' id).managers m' =
          { (s.managers m').close handler.socket with
            registeredEvents := (s.managers m').registeredEvents.erase id } := by
        simp [erase, record, setManager, State.destruct, EventManager.close]
      rw [hleft, destruct_managers, unlink_managers_self]
      simp [EventManager.close, hepfd]
    · have hleft : ((s.destruct x handler.socket).erase m id).managers m' =
          (s.managers m').close handler.socket := by
        simp [erase, record, setManager, State.destruct, hm']
      rw [hleft, destruct_managers, unlink_managers_ne _ _ _ _ _ _ hm']
  have hhandlers : ((s.destruct x handler.socket).erase m id).handlers =
      ((s.unlink m id x handler interest).destruct x handler.socket).handlers := by
    rw [destruct_handlers, unlink_handlers, Function.update_idem]
    rfl
  rw [State.mk.injEq]
  exact ⟨hmanagers, hhandlers, rfl, rfl, rfl, rfl, rfl⟩

/-- What the destructors leave is what is left if the handler is removed first. -/
theorem Linked.destroy_eq (h : Linked s) (hx : s.handlers x = some handler) :
    s.destroy x = (s.leave handler).destruct x handler.socket := by
  unfold State.destroy
  rw [hx]
  simp only
  unfold State.leave
  cases hm : handler.eventManager with
  | none => rfl
  | some m =>
    by_cases hid : handler.handle = 0
    · simp only [hid, ne_eq, not_true_eq_false, if_false]
    · have hreg := h.registered_handle hx hm hid
      obtain ⟨handler', interest, hx', hepfd, heq⟩ := h.remove_eq hreg
      rw [hx] at hx'
      cases hx'
      have hfound : ((s.destruct x handler.socket).managers m).registeredEvents[handler.handle]? =
          some x := hreg
      -- by now no `weak_ptr` to the handler can be locked, so only its entry goes
      have hgone : (s.destruct x handler.socket).handlers x = none := Function.update_self ..
      have hremove : (s.destruct x handler.socket).remove m handler.handle =
          (.ok (), (s.destruct x handler.socket).erase m handler.handle) := by
        rw [State.remove, hfound]
        simp only [hgone]
      simp only [ne_eq, hid, not_false_eq_true, if_true, heq, hremove]
      exact erase_destruct hepfd

theorem Linked.destroy (h : Linked s) (x : HandlerId) : Linked (s.destroy x) := by
  cases hx : s.handlers x with
  | none =>
    rw [State.destroy, hx]
    exact h
  | some handler =>
    obtain ⟨hleft, handler', hx', hun, hsocket⟩ := h.leave hx
    rw [h.destroy_eq hx, ← hsocket]
    exact hleft.destruct hx' hun

theorem Linked.release (h : Linked s) (x : HandlerId) : Linked (s.release x) := by
  unfold State.release
  split
  · exact h
  · rename_i handler hx
    simp only
    split
    · exact h.setHandler hx false
    · exact (h.setHandler hx false).destroy x

/-! ## `ProcessEvents` -/

/-- No handler in a table is gone. -/
theorem Linked.expiredHandlers_eq (h : Linked s) (m : ManagerId) : s.expiredHandlers m = [] := by
  unfold expiredHandlers
  rw [List.map_eq_nil_iff, List.filter_eq_nil_iff]
  rintro ⟨id, x⟩ hmem hgone
  -- whoever is in a table is alive
  have hreg : s.registered m id = some x := ExtTreeMap.mem_toList_iff_getElem?_eq_some.1 hmem
  obtain ⟨handler, hx, -⟩ := (h.registered m id x).1 hreg
  simp [hx] at hgone

theorem Linked.processEvents (h : Linked s) (m : ManagerId) (ready : List Fd) :
    Linked (s.processEvents m ready) := by
  unfold State.processEvents
  split
  · exact h
  · rw [h.expiredHandlers_eq m]
    exact ⟨h.tickets, h.counter, h.registered, h.watched, h.descriptors, h.fresh⟩

/-- Calling a handler that is in the table. -/
theorem Linked.honour (h : Linked s) (hreg : s.registered m id = some x) :
    Linked (s.record m (.honoured id x)) := by
  refine ⟨?_, ?_, h.registered, h.watched, h.descriptors, h.fresh⟩
  · intro m'
    rcases eq_or_ne m' m with rfl | hm'
    · rw [record_history, Function.update_self]
      exact (h.tickets m').honour hreg
    · rw [record_history, Function.update_of_ne hm']
      exact h.tickets m'
  · intro m'
    rw [given_record_of_nil s m rfl]
    exact h.counter m'

/-- The invariant does not look at how far `ProcessEvents` is. -/
theorem Linked.progress (h : Linked s) (processing : Option (ManagerId × List UInt64))
    (calling : Option HandlerId) :
    Linked { s with processing := processing, calling := calling } :=
  ⟨h.tickets, h.counter, h.registered, h.watched, h.descriptors, h.fresh⟩

theorem Linked.nextEvent (h : Linked s) : Linked s.nextEvent := by
  unfold State.nextEvent
  split
  · exact h.progress none s.calling
  · rename_i m handle handles _ _
    simp only
    split
    · exact h.progress _ s.calling
    · rename_i x hreg
      split
      · exact h.progress _ s.calling
      · exact (h.progress (some (m, handles)) (some x)).honour hreg
  · exact h

theorem Linked.returned (h : Linked s) : Linked s.returned := by
  unfold State.returned
  split
  · exact h
  · rename_i x _
    have hdone := h.progress s.processing none
    simp only
    split
    · exact hdone
    · split
      · exact hdone
      · exact hdone.destroy x

/-! ## Handles that are given out -/

theorem given_remove (s : State) (m : ManagerId) (id : UInt64) :
    (s.remove m id).2.given = s.given := by
  unfold State.remove
  split
  · rfl
  · split
    · exact given_erase s m id
    · split
      · rfl
      · rw [given_erase]; rfl

theorem given_leave (s : State) (handler : EventHandler) : (s.leave handler).given = s.given := by
  unfold State.leave
  split
  · rfl
  · split
    · exact given_remove s _ _
    · rfl

theorem given_destroy (s : State) (x : HandlerId) : (s.destroy x).given = s.given := by
  unfold State.destroy
  split
  · rfl
  · rw [given_leave]; rfl

theorem given_create (s : State) (socket : Fd) (events : UInt32) :
    (s.create socket events).given = s.given := by
  unfold State.create
  split <;> rfl

theorem given_removeHandler (s : State) (m : ManagerId) (x : HandlerId) :
    (s.removeHandler m x).2.given = s.given := by
  unfold State.removeHandler
  split
  · rfl
  · split
    · rfl
    · exact given_remove s _ _

theorem given_release (s : State) (x : HandlerId) : (s.release x).given = s.given := by
  unfold State.release
  split
  · rfl
  · simp only
    split
    · rfl
    · rw [given_destroy]; rfl

theorem given_processEvents (s : State) (m : ManagerId) (ready : List Fd) :
    (s.processEvents m ready).given = s.given := by
  have hloop : ∀ (ids : List UInt64) (s : State),
      (ids.foldl (fun s id => (s.remove m id).2) s).given = s.given := by
    intro ids
    induction ids with
    | nil => intro s; rfl
    | cons id ids ih => intro s; rw [List.foldl_cons, ih, given_remove]
  unfold State.processEvents
  split
  · rfl
  · exact hloop _ s

theorem given_nextEvent (s : State) : s.nextEvent.given = s.given := by
  unfold State.nextEvent
  split
  · rfl
  · rename_i m handle handles _ _
    simp only
    split
    · rfl
    · split
      · rfl
      · exact given_record_of_nil _ m rfl
  · rfl

theorem given_returned (s : State) : s.returned.given = s.given := by
  unfold State.returned
  split
  · rfl
  · simp only
    split
    · rfl
    · split
      · rfl
      · rw [given_destroy]; rfl

theorem given_record (s : State) (m : ManagerId) (id : UInt64) (x : HandlerId) (m' : ManagerId) :
    s.given m' ≤ (s.record m (.given id x)).given m' ∧
      (s.record m (.given id x)).given m' ≤ s.given m' + 1 := by
  unfold given
  rw [record_history]
  rcases eq_or_ne m' m with rfl | hm
  · rw [Function.update_self]
    exact ⟨Nat.le_succ _, Nat.le_refl _⟩
  · rw [Function.update_of_ne hm]
    exact ⟨Nat.le_refl _, Nat.le_succ _⟩

/-- Only `Add` gives out a handle, and one at most. -/
theorem given_add (s : State) (m : ManagerId) (x : HandlerId) (refused : Option ℤ)
    (m' : ManagerId) : s.given m' ≤ (s.add m x refused).2.given m' ∧
      (s.add m x refused).2.given m' ≤ s.given m' + 1 := by
  unfold State.add
  split
  · exact ⟨Nat.le_refl _, Nat.le_succ _⟩
  · rename_i handler hx
    have hleft := congrFun (given_leave s handler) m'
    simp only
    split
    · rw [← hleft]
      exact ⟨Nat.le_refl _, Nat.le_succ _⟩
    · rw [← hleft]
      exact given_record _ m _ x m'

theorem given_step (s : State) (e : Event) (m : ManagerId) :
    s.given m ≤ (s.step e).given m ∧ (s.step e).given m ≤ s.given m + 1 := by
  have hsame : ∀ {s' : State}, s'.given = s.given →
      s.given m ≤ s'.given m ∧ s'.given m ≤ s.given m + 1 := by
    intro s' heq
    rw [heq]
    exact ⟨Nat.le_refl _, Nat.le_succ _⟩
  cases e with
  | create socket events => exact hsame (given_create s socket events)
  | add m' x refused => exact given_add s m' x refused m
  | remove m' id => exact hsame (given_remove s m' id)
  | removeHandler m' x => exact hsame (given_removeHandler s m' x)
  | release x => exact hsame (given_release s x)
  | processEvents m' ready => exact hsame (given_processEvents s m' ready)
  | nextEvent => exact hsame (given_nextEvent s)
  | returned => exact hsame (given_returned s)

/-! ## Runs -/

/-- No counter has wrapped. -/
def Unwrapped (s : State) : Prop := ∀ m, s.given m < 2 ^ 64 - 1

theorem Linked.add (h : Linked s) (m : ManagerId) (x : HandlerId) (refused : Option ℤ)
    (hwrap : (s.add m x refused).2.Unwrapped) : Linked (s.add m x refused).2 := by
  cases hx : s.handlers x with
  | none =>
    rw [State.add, hx]
    exact h
  | some handler =>
    obtain ⟨hleft, before, hbefore, hun, hsocket⟩ := h.leave hx
    rcases h.add_cases hx m refused with heq | ⟨interest, hepfd, heq⟩
    · rw [heq]
      exact hleft
    · rw [heq] at hwrap ⊢
      exact hleft.link hbefore hun hsocket hepfd (hwrap m)

/-- **Every step keeps the objects linked**, as long as no counter has wrapped. -/
theorem step_inv (s : State) (e : Event) (h : s.Unwrapped → Linked s) :
    (s.step e).Unwrapped → Linked (s.step e) := by
  intro hwrap
  -- handles are never given back, so the counter had not wrapped before the step
  have hlinked := h fun m => (given_step s e m).1.trans_lt (hwrap m)
  cases e with
  | create socket events => exact hlinked.create socket events
  | add m x refused => exact hlinked.add m x refused hwrap
  | remove m id => exact hlinked.remove m id
  | removeHandler m x => exact hlinked.removeHandler m x
  | release x => exact hlinked.release x
  | processEvents m ready => exact hlinked.processEvents m ready
  | nextEvent => exact hlinked.nextEvent
  | returned => exact hlinked.returned

theorem run_linked (events : List Event) (hwrap : (Run.run State.step init events).Unwrapped) :
    Linked (Run.run State.step init events) :=
  Run.run_inv (I := fun s => s.Unwrapped → Linked s) step_inv (fun _ => linked_init) events hwrap

/-- A run gives out no more handles than it has steps. -/
theorem given_run_le (events : List Event) (m : ManagerId) :
    (Run.run State.step init events).given m ≤ events.length := by
  induction events using List.reverseRecOn with
  | nil => exact Nat.le_refl 0
  | append_singleton events e ih =>
    have hstep := (given_step (Run.run State.step init events) e m).2
    rw [Run.run_concat, List.length_append, List.length_singleton]
    omega

/-- What is promised of the managers and the handlers. -/
structure Consistent (s : State) : Prop where
  /-- A handler points at a manager and has a handle exactly if that is its entry there. -/
  backReference : ∀ (m : ManagerId) (h : UInt64) (x : HandlerId) (handler : EventHandler),
    s.handlers x = some handler →
    ((handler.eventManager = some m ∧ handler.handle = h ∧ h ≠ 0) ↔
      (s.managers m).registeredEvents[h]? = some x)
  registeredOnce : ∀ (m m' : ManagerId) (h h' : UInt64) (x : HandlerId),
    (s.managers m).registeredEvents[h]? = some x →
    (s.managers m').registeredEvents[h']? = some x → m = m' ∧ h = h'
  below : ∀ (m : ManagerId) (h : UInt64) (x : HandlerId),
    (s.managers m).registeredEvents[h]? = some x →
    h < (s.managers m).eventIdCounter
  givenOnce : ∀ m, (Tickets.tickets (s.history m)).Nodup
  /-- The handler that is called was given this handle, alone, and has it still. -/
  called : ∀ m newer older h x, s.history m = newer ++ .honoured h x :: older →
    .given h x ∈ older ∧ .withdrawn h ∉ older ∧ ∀ y, .given h y ∈ s.history m → y = x

end State

/-- **Handlers and managers refer to each other, and a handle belongs to one handler**: in
every state of every run, until a counter wraps. -/
theorem registrations_consistent (events : List Event)
    (hwrap : (Run.run State.step .init events).Unwrapped) :
    (Run.run State.step .init events).Consistent := by
  have hlinked := State.run_linked events hwrap
  set s := Run.run State.step .init events with hs
  refine ⟨?_, ?_, ?_, ?_, ?_⟩
  · intro m h x handler hx
    refine Iff.trans ?_ (hlinked.registered m h x).symm
    constructor
    · rintro ⟨hm, hh, hne⟩
      exact ⟨handler, hx, hm, hh, hne⟩
    · rintro ⟨handler', hx', hrest⟩
      rw [hx] at hx'
      cases hx'
      exact hrest
  · intro m m' h h' x hreg hreg'
    obtain ⟨handler, hx, hm, hh, -⟩ := (hlinked.registered m h x).1 hreg
    obtain ⟨handler', hx', hm', hh', -⟩ := (hlinked.registered m' h' x).1 hreg'
    rw [hx] at hx'
    cases hx'
    exact ⟨Option.some.inj (hm.symm.trans hm'), hh.symm.trans hh'⟩
  · intro m h x hreg
    have hgiven := ((hlinked.tickets m).held h x hreg).1
    exact UInt64.lt_iff_toNat_lt.2 ((hlinked.tickets m).given_below h x hgiven)
  · intro m
    exact (hlinked.tickets m).once
  · intro m newer older h x hsplit
    obtain ⟨hgiven, hnot⟩ := (hlinked.tickets m).honoured newer older h x hsplit
    refine ⟨hgiven, hnot, fun y hy => ?_⟩
    -- the handle was given once, so to nobody else
    have hmem : .given h x ∈ s.history m := by
      rw [hsplit]
      exact List.mem_append_right _ (List.mem_cons_of_mem _ hgiven)
    exact given_unique (hlinked.tickets m).once hy hmem

/-- Three descriptors are ready. The first handler destroys the second one, whose event is in
the batch already, and adds a new one with its descriptor; the third destroys itself. -/
def staleEvent : List Event :=
  [.create 3 1, .create 4 1, .create 5 1, .add 0 0 none, .add 0 1 none, .add 0 2 none,
    .add 0 2 none, .processEvents 0 [3, 4, 5],
    .nextEvent, .release 1, .create 4 1, .add 0 3 none, .returned,
    .nextEvent,
    .nextEvent, .release 2, .returned,
    .nextEvent]

theorem registrations_consistent_stale :
    (Run.run State.step .init staleEvent).history 0 =
      [.withdrawn 4, .honoured 4 2, .given 5 3, .withdrawn 2, .honoured 1 0, .given 4 2,
        .withdrawn 3, .given 3 2, .given 2 1, .given 1 0] ∧
      (Run.run State.step .init staleEvent).Consistent := by
  refine ⟨by decide +kernel, registrations_consistent staleEvent fun m => ?_⟩
  exact (State.given_run_le staleEvent m).trans_lt (by decide)

end Ndisc.Events
