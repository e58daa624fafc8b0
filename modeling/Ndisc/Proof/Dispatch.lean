import Mathlib.Logic.Relation
import Ndisc.Proof.Registration

/-!
# Ready descriptors and the handlers that are called

A round of `ProcessEvents` goes over a batch of handles while handlers come and go.

* `Change`: what any step but those of the loop itself is made of.
* `Watching`: an `epoll` instance watches exactly what is registered, under its handle.
* `Round`: how far a round is, and whom it has called.
* `ready_handlers_called`: **of the first ten descriptors that are ready, a round calls the
  handlers in order and once, apart from those that are withdrawn meanwhile**.
-/

namespace Ndisc.Events

open Tickets Relation
open Std (ExtTreeMap)

/-- The steps of the loop of `ProcessEvents` itself. -/
def Event.OfLoop : Event → Prop
  | .processEvents _ _ | .nextEvent => True
  | _ => False

/-- A step that begins no round. -/
def Event.Within : Event → Prop
  | .processEvents _ _ => False
  | _ => True

instance : DecidablePred Event.Within
  | .processEvents _ _ => .isFalse id
  | .create _ _ | .add _ _ _ | .remove _ _ | .removeHandler _ _ | .release _ | .nextEvent
  | .returned => .isTrue trivial

namespace State

variable {s s' s₁ : State} {m m' : ManagerId} {id : UInt64} {x y : HandlerId}
  {handler : EventHandler} {interest : InterestList} {e : Event}

/-! ## What a step is made of -/

/-- A change that the invariants have to keep. -/
inductive Change (s : State) : State → Prop
  | unlink {m : ManagerId} {id : UInt64} {x : HandlerId} {handler : EventHandler}
      {interest : InterestList} (hreg : s.registered m id = some x)
      (hx : s.handlers x = some handler) (hepfd : (s.managers m).epfd = some interest) :
      Change s (s.unlink m id x handler interest)
  | link {m : ManagerId} {x : HandlerId} {handler before : EventHandler} {interest : InterestList}
      (hx : s.handlers x = some before) (hun : before.Unlinked)
      (hsocket : before.socket = handler.socket) (hepfd : (s.managers m).epfd = some interest)
      (hwrap : (s.link m x handler interest).given m < 2 ^ 64 - 1) :
      Change s (s.link m x handler interest)
  | disown {x : HandlerId} {handler : EventHandler} (hx : s.handlers x = some handler) :
      Change s (s.setHandler x { handler with owned := false })
  | create {socket : Fd} {events : UInt32} (hclosed : s.descriptors socket = none) :
      Change s (s.create socket events)
  | destruct {x : HandlerId} {handler : EventHandler} (hx : s.handlers x = some handler)
      (hun : handler.Unlinked) : Change s (s.destruct x handler.socket)
  | finished : Change s { s with calling := none }

theorem Change.linked (h : Linked s) (hchange : Change s s') : Linked s' := by
  cases hchange with
  | unlink hreg hx hepfd => exact h.unlink hreg hx hepfd
  | link hx hun hsocket hepfd hwrap => exact h.link hx hun hsocket hepfd hwrap
  | disown hx => exact h.setHandler hx false
  | create _ => exact h.create _ _
  | destruct hx hun => exact h.destruct hx hun
  | finished => exact h.progress s.processing none

/-- **What each change keeps, a step keeps.** -/
theorem changes_inv {P : State → Prop} (hP : ∀ s s', Linked s → P s → Change s s' → P s')
    (h : Linked s) (hp : P s) (hchanges : ReflTransGen Change s s') : Linked s' ∧ P s' := by
  induction hchanges with
  | refl => exact ⟨h, hp⟩
  | tail _ hchange ih => exact ⟨hchange.linked ih.1, hP _ _ ih.1 ih.2 hchange⟩

theorem Linked.leave_changes (h : Linked s) (hx : s.handlers x = some handler) :
    ReflTransGen Change s (s.leave handler) := by
  unfold State.leave
  cases hm : handler.eventManager with
  | none => exact .refl
  | some m =>
    by_cases hid : handler.handle = 0
    · simp only [hid, ne_eq, not_true_eq_false, if_false]
      exact .refl
    · have hreg := h.registered_handle hx hm hid
      obtain ⟨handler', interest, hx', hepfd, heq⟩ := h.remove_eq hreg
      simp only [ne_eq, hid, not_false_eq_true, if_true, heq]
      exact .single (.unlink hreg hx' hepfd)

theorem Linked.remove_changes (h : Linked s) (m : ManagerId) (id : UInt64) :
    ReflTransGen Change s (s.remove m id).2 := by
  cases hreg : s.registered m id with
  | none =>
    rw [State.registered] at hreg
    rw [State.remove, hreg]
  | some x =>
    obtain ⟨handler, interest, hx, hepfd, heq⟩ := h.remove_eq hreg
    rw [heq]
    exact .single (.unlink hreg hx hepfd)

theorem Linked.removeHandler_changes (h : Linked s) (m : ManagerId) (x : HandlerId) :
    ReflTransGen Change s (s.removeHandler m x).2 := by
  unfold State.removeHandler
  split
  · exact .refl
  · split
    · exact .refl
    · exact h.remove_changes m _

theorem Linked.destroy_changes (h : Linked s) (x : HandlerId) :
    ReflTransGen Change s (s.destroy x) := by
  cases hx : s.handlers x with
  | none =>
    rw [State.destroy, hx]
  | some handler =>
    obtain ⟨-, handler', hx', hun, hsocket⟩ := h.leave hx
    rw [h.destroy_eq hx, ← hsocket]
    exact (h.leave_changes hx).tail (.destruct hx' hun)

theorem Linked.release_changes (h : Linked s) (x : HandlerId) :
    ReflTransGen Change s (s.release x) := by
  unfold State.release
  split
  · exact .refl
  · rename_i handler hx
    simp only
    split
    · exact .single (.disown hx)
    · exact .head (.disown hx) ((h.setHandler hx false).destroy_changes x)

theorem Linked.returned_changes (h : Linked s) : ReflTransGen Change s s.returned := by
  unfold State.returned
  split
  · exact .refl
  · rename_i x _
    simp only
    split
    · exact .single .finished
    · split
      · exact .single .finished
      · exact .head .finished ((h.progress s.processing none).destroy_changes x)

theorem Linked.add_changes (h : Linked s) (m : ManagerId) (x : HandlerId) (refused : Option ℤ)
    (hwrap : (s.add m x refused).2.Unwrapped) : ReflTransGen Change s (s.add m x refused).2 := by
  cases hx : s.handlers x with
  | none =>
    rw [State.add, hx]
  | some handler =>
    obtain ⟨-, before, hbefore, hun, hsocket⟩ := h.leave hx
    rcases h.add_cases hx m refused with heq | ⟨interest, hepfd, heq⟩
    · rw [heq]
      exact h.leave_changes hx
    · rw [heq] at hwrap ⊢
      exact (h.leave_changes hx).tail (.link hbefore hun hsocket hepfd (hwrap m))

/-- **Any other step is a sequence of changes.** -/
theorem step_changes (h : Linked s) (hwrap : (s.step e).Unwrapped) (he : ¬ e.OfLoop) :
    ReflTransGen Change s (s.step e) := by
  cases e with
  | create socket events =>
    cases hclosed : s.descriptors socket with
    | none => exact .single (.create hclosed)
    | some x =>
      have hsame : s.create socket events = s := by
        rw [State.create, hclosed]
      rw [State.step, hsame]
  | add m x refused => exact h.add_changes m x refused hwrap
  | remove m id => exact h.remove_changes m id
  | removeHandler m x => exact h.removeHandler_changes m x
  | release x => exact h.release_changes x
  | processEvents m ready => exact absurd trivial he
  | nextEvent => exact absurd trivial he
  | returned => exact h.returned_changes

/-! ## What is watched -/

/-- A manager watches what is registered with it, each descriptor under its handle, and a
descriptor that is open has its handler. -/
structure Watching (s : State) : Prop where
  epfd : ∀ m, ∃ interest, (s.managers m).epfd = some interest
  event : ∀ m interest fd event, (s.managers m).epfd = some interest → interest fd = some event →
    ∃ x handler, s.registered m event.data = some x ∧ s.handlers x = some handler ∧
      handler.socket = fd
  owner : ∀ fd x, s.descriptors fd = some x → ∃ handler, s.handlers x = some handler ∧
    handler.socket = fd

theorem watching_init : Watching init where
  epfd _ := ⟨_, rfl⟩
  event _ _ _ _ h h' := by cases h; cases h'
  owner _ _ h := by cases h

theorem Watching.unlink (h : Linked s) (hw : Watching s) (hreg : s.registered m id = some x)
    (hx : s.handlers x = some handler) (hepfd : (s.managers m).epfd = some interest) :
    Watching (s.unlink m id x handler interest) := by
  have hafter : ∀ {y after}, y ≠ x → s.handlers y = some after →
      (s.unlink m id x handler interest).handlers y = some after := by
    intro y after hy hafter
    rw [unlink_handlers, Function.update_of_ne hy]
    exact hafter
  -- a descriptor that is watched still is another one, so its handler is another one
  have hother : ∀ {m' fd event}, fd ≠ handler.socket → (∃ y after,
      s.registered m' event = some y ∧ s.handlers y = some after ∧ after.socket = fd) →
      ∃ y after, (s.unlink m id x handler interest).registered m' event = some y ∧
        (s.unlink m id x handler interest).handlers y = some after ∧ after.socket = fd := by
    rintro m' fd event hfd ⟨y, after, hreg', hy, hsocket⟩
    have hne : y ≠ x := by
      rintro rfl
      rw [hx] at hy
      cases hy
      exact hfd hsocket.symm
    exact ⟨y, after, (unlink_registered_iff hreg hne).2 hreg', hafter hne hy, hsocket⟩
  refine ⟨?_, ?_, ?_⟩
  · intro m'
    rcases eq_or_ne m' m with rfl | hm
    · rw [unlink_managers_self]
      exact ⟨_, rfl⟩
    · rw [unlink_managers_ne _ _ _ _ _ _ hm]
      exact hw.epfd m'
  · intro m' interest' fd event hepfd' hevent
    rcases eq_or_ne m' m with rfl | hm
    · rw [unlink_managers_self] at hepfd'
      cases hepfd'
      rcases eq_or_ne fd handler.socket with rfl | hfd
      · rw [Function.update_self] at hevent
        cases hevent
      · rw [Function.update_of_ne hfd] at hevent
        exact hother hfd (hw.event m' interest fd event hepfd hevent)
    · rw [unlink_managers_ne _ _ _ _ _ _ hm] at hepfd'
      obtain ⟨y, after, hreg', hy, hsocket⟩ := hw.event m' interest' fd event hepfd' hevent
      -- a handler is registered with one manager
      have hne : y ≠ x := by
        rintro rfl
        obtain ⟨handler₁, hx₁, hm₁, -⟩ := (h.registered m id y).1 hreg
        obtain ⟨handler₂, hx₂, hm₂, -⟩ := (h.registered m' _ y).1 hreg'
        rw [hx₁] at hx₂
        cases hx₂
        rw [hm₁] at hm₂
        exact hm (Option.some.inj hm₂).symm
      exact ⟨y, after, (unlink_registered_iff hreg hne).2 hreg', hafter hne hy, hsocket⟩
  · intro fd y hopen
    obtain ⟨after, hy, hsocket⟩ := hw.owner fd y hopen
    rcases eq_or_ne y x with rfl | hne
    · rw [hx] at hy
      cases hy
      exact ⟨_, Function.update_self .., hsocket⟩
    · exact ⟨after, hafter hne hy, hsocket⟩

theorem Watching.link (h : Linked s) (hw : Watching s) {before : EventHandler}
    (hx : s.handlers x = some before) (hun : before.Unlinked)
    (hsocket : before.socket = handler.socket) (hepfd : (s.managers m).epfd = some interest) :
    Watching (s.link m x handler interest) := by
  -- whoever is registered is not the handler that is added
  have hkept : ∀ {m' id' fd}, (∃ y after, s.registered m' id' = some y ∧
      s.handlers y = some after ∧ after.socket = fd) →
      ∃ y after, (s.link m x handler interest).registered m' id' = some y ∧
        (s.link m x handler interest).handlers y = some after ∧ after.socket = fd := by
    rintro m' id' fd ⟨y, after, hreg, hy, hfd⟩
    have hne : y ≠ x := by
      rintro rfl
      exact h.not_registered hx hun m' id' hreg
    refine ⟨y, after, (h.link_registered_iff hne).2 hreg, ?_, hfd⟩
    rw [link_handlers, Function.update_of_ne hne]
    exact hy
  refine ⟨?_, ?_, ?_⟩
  · intro m'
    rw [link_managers]
    rcases eq_or_ne m' m with rfl | hm
    · rw [Function.update_self]
      exact ⟨_, rfl⟩
    · rw [Function.update_of_ne hm]
      exact hw.epfd m'
  · intro m' interest' fd event hepfd' hevent
    rw [link_managers] at hepfd'
    rcases eq_or_ne m' m with rfl | hm
    · rw [Function.update_self] at hepfd'
      cases hepfd'
      rcases eq_or_ne fd handler.socket with rfl | hfd
      · rw [Function.update_self] at hevent
        cases hevent
        exact ⟨x, _, (h.link_registered_self hx hun).2 ⟨rfl, rfl⟩, Function.update_self .., rfl⟩
      · rw [Function.update_of_ne hfd] at hevent
        exact hkept (hw.event m' interest fd event hepfd hevent)
    · rw [Function.update_of_ne hm] at hepfd'
      exact hkept (hw.event m' interest' fd event hepfd' hevent)
  · intro fd y hopen
    obtain ⟨after, hy, hfd⟩ := hw.owner fd y hopen
    rw [link_handlers]
    rcases eq_or_ne y x with rfl | hne
    · rw [hx] at hy
      cases hy
      exact ⟨_, Function.update_self .., hsocket.symm.trans hfd⟩
    · exact ⟨after, (Function.update_of_ne hne ..).trans hy, hfd⟩

theorem Watching.disown (hw : Watching s) (hx : s.handlers x = some handler) :
    Watching (s.setHandler x { handler with owned := false }) := by
  have hafter : ∀ {y after}, s.handlers y = some after → ∃ after',
      (s.setHandler x { handler with owned := false }).handlers y = some after' ∧
        after'.socket = after.socket := by
    intro y after hy
    rw [setHandler_handlers]
    rcases eq_or_ne y x with rfl | hne
    · rw [hx] at hy
      cases hy
      exact ⟨_, Function.update_self .., rfl⟩
    · exact ⟨after, (Function.update_of_ne hne ..).trans hy, rfl⟩
  refine ⟨hw.epfd, ?_, ?_⟩
  · intro m interest fd event hepfd hevent
    obtain ⟨y, after, hreg, hy, hsocket⟩ := hw.event m interest fd event hepfd hevent
    obtain ⟨after', hy', hsocket'⟩ := hafter hy
    exact ⟨y, after', hreg, hy', hsocket'.trans hsocket⟩
  · intro fd y hopen
    obtain ⟨after, hy, hsocket⟩ := hw.owner fd y hopen
    obtain ⟨after', hy', hsocket'⟩ := hafter hy
    exact ⟨after', hy', hsocket'.trans hsocket⟩

theorem create_eq (hclosed : s.descriptors socket = none) (events : UInt32) :
    s.create socket events = { s.setHandler s.created ⟨socket, events, none, 0, true⟩ with
      created := s.created + 1
      descriptors := Function.update s.descriptors socket (some s.created) } := by
  rw [State.create, hclosed]

theorem Watching.create (h : Linked s) (hw : Watching s) (hclosed : s.descriptors socket = none)
    (events : UInt32) : Watching (s.create socket events) := by
  rw [create_eq hclosed]
  have hafter : ∀ {y after}, s.handlers y = some after →
      Function.update s.handlers s.created (some ⟨socket, events, none, 0, true⟩) y = some after := by
    intro y after hy
    rw [Function.update_of_ne (h.lt_created hy).ne]
    exact hy
  refine ⟨hw.epfd, ?_, ?_⟩
  · intro m interest fd event hepfd hevent
    obtain ⟨y, after, hreg, hy, hsocket⟩ := hw.event m interest fd event hepfd hevent
    exact ⟨y, after, hreg, hafter hy, hsocket⟩
  · intro fd y hopen
    change Function.update s.descriptors socket (some s.created) fd = some y at hopen
    rcases eq_or_ne fd socket with rfl | hne
    · rw [Function.update_self] at hopen
      cases hopen
      exact ⟨_, Function.update_self .., rfl⟩
    · rw [Function.update_of_ne hne] at hopen
      obtain ⟨after, hy, hsocket⟩ := hw.owner fd y hopen
      exact ⟨after, hafter hy, hsocket⟩

theorem Watching.destruct (hw : Watching s) (hx : s.handlers x = some handler) :
    Watching (s.destruct x handler.socket) := by
  have hafter : ∀ {y after}, y ≠ x → s.handlers y = some after →
      (s.destruct x handler.socket).handlers y = some after := by
    intro y after hne hy
    rw [destruct_handlers, Function.update_of_ne hne]
    exact hy
  -- the descriptor of another handler is another one
  have hother : ∀ {y after}, s.handlers y = some after → after.socket ≠ handler.socket → y ≠ x := by
    rintro y after hy hne rfl
    rw [hx] at hy
    cases hy
    exact hne rfl
  refine ⟨?_, ?_, ?_⟩
  · intro m
    obtain ⟨interest, hepfd⟩ := hw.epfd m
    rw [destruct_epfd, hepfd]
    exact ⟨_, rfl⟩
  · intro m interest' fd event hepfd' hevent
    obtain ⟨interest, hepfd⟩ := hw.epfd m
    rw [destruct_epfd, hepfd] at hepfd'
    cases hepfd'
    change Function.update interest handler.socket none fd = some event at hevent
    rcases eq_or_ne fd handler.socket with rfl | hfd
    · rw [Function.update_self] at hevent
      cases hevent
    · rw [Function.update_of_ne hfd] at hevent
      obtain ⟨y, after, hreg, hy, hsocket⟩ := hw.event m interest fd event hepfd hevent
      exact ⟨y, after, hreg, hafter (hother hy (hsocket ▸ hfd)) hy, hsocket⟩
  · intro fd y hopen
    change Function.update s.descriptors handler.socket none fd = some y at hopen
    rcases eq_or_ne fd handler.socket with rfl | hfd
    · rw [Function.update_self] at hopen
      cases hopen
    · rw [Function.update_of_ne hfd] at hopen
      obtain ⟨after, hy, hsocket⟩ := hw.owner fd y hopen
      exact ⟨after, hafter (hother hy (hsocket ▸ hfd)) hy, hsocket⟩

theorem Change.watching (s s' : State) (h : Linked s) (hw : Watching s) (hchange : Change s s') :
    Watching s' := by
  cases hchange with
  | unlink hreg hx hepfd => exact hw.unlink h hreg hx hepfd
  | link hx hun hsocket hepfd hwrap => exact hw.link h hx hun hsocket hepfd
  | disown hx => exact hw.disown hx
  | create hclosed => exact hw.create h hclosed _
  | destruct hx hun => exact hw.destruct hx
  | finished => exact ⟨hw.epfd, hw.event, hw.owner⟩

/-! ## The loop -/

/-- What the start of a round does. -/
theorem Linked.processEvents_eq (h : Linked s) (hidle : s.processing = none) (m : ManagerId)
    (ready : List Fd) :
    s.processEvents m ready = { s with processing := some (m, s.epollWait m ready) } := by
  rw [State.processEvents, hidle, h.expiredHandlers_eq m]
  rfl

/-- What the loop does next: it is over, or it calls the handler of the next handle, or it skips
one that is not in the table. -/
theorem Linked.nextEvent_cases (h : Linked s) :
    s.nextEvent = s ∨
    (∃ m, s.processing = some (m, []) ∧ s.nextEvent = { s with processing := none }) ∨
    (∃ m handle handles, s.processing = some (m, handle :: handles) ∧
      s.registered m handle = none ∧ s.nextEvent = { s with processing := some (m, handles) }) ∨
    ∃ m handle handles x handler, s.calling = none ∧ s.processing = some (m, handle :: handles) ∧
      s.registered m handle = some x ∧ s.handlers x = some handler ∧
      s.nextEvent = ({ s with processing := some (m, handles), calling := some x } : State).record m
        (.honoured handle x) := by
  rcases hcalling : s.calling with - | y
  · rcases hprocessing : s.processing with - | ⟨m, - | ⟨handle, handles⟩⟩
    · exact Or.inl (by rw [State.nextEvent, hcalling, hprocessing])
    · exact Or.inr (Or.inl ⟨m, rfl, by rw [State.nextEvent, hcalling, hprocessing]⟩)
    · cases hreg : s.registered m handle with
      | none =>
        refine Or.inr (Or.inr (Or.inl ⟨m, handle, handles, rfl, hreg, ?_⟩))
        rw [State.registered] at hreg
        rw [State.nextEvent, hcalling, hprocessing]
        simp only [hreg]
      | some x =>
        obtain ⟨handler, hx, -⟩ := (h.registered m handle x).1 hreg
        refine Or.inr (Or.inr (Or.inr ⟨m, handle, handles, x, handler, rfl, rfl, hreg, hx, ?_⟩))
        rw [State.registered] at hreg
        rw [State.nextEvent, hcalling, hprocessing]
        simp only [hreg, hx]
  · exact Or.inl (by rw [State.nextEvent, hcalling])

/-- The invariant does not look at how far `ProcessEvents` is, or at the history. -/
theorem Watching.progress (hw : Watching s) (processing : Option (ManagerId × List UInt64))
    (calling : Option HandlerId) (history : ManagerId → List (Entry UInt64 HandlerId)) :
    Watching { s with processing := processing, calling := calling, history := history } :=
  ⟨hw.epfd, hw.event, hw.owner⟩

theorem Watching.nextEvent (h : Linked s) (hw : Watching s) : Watching s.nextEvent := by
  rcases h.nextEvent_cases with heq | ⟨m, -, heq⟩ | ⟨m, handle, handles, -, -, heq⟩ |
    ⟨m, handle, handles, x, handler, -, -, -, -, heq⟩ <;> rw [heq]
  · exact hw
  · exact hw.progress _ _ _
  · exact hw.progress _ _ _
  · exact hw.progress _ _ _

theorem Watching.processEvents (h : Linked s) (hw : Watching s) (m : ManagerId) (ready : List Fd) :
    Watching (s.processEvents m ready) := by
  cases hprocessing : s.processing with
  | none =>
    rw [h.processEvents_eq hprocessing]
    exact hw.progress _ _ _
  | some batch =>
    have hsame : s.processEvents m ready = s := by
      rw [State.processEvents, hprocessing]
      rfl
    rw [hsame]
    exact hw

/-- **Every step keeps what is watched in line**, as long as no counter has wrapped. -/
theorem step_watching (s : State) (e : Event) (h : s.Unwrapped → Linked s ∧ Watching s)
    (hwrap : (s.step e).Unwrapped) : Linked (s.step e) ∧ Watching (s.step e) := by
  obtain ⟨hlinked, hw⟩ := h fun m => (given_step s e m).1.trans_lt (hwrap m)
  have hafter := step_inv s e (fun _ => hlinked) hwrap
  by_cases he : e.OfLoop
  · refine ⟨hafter, ?_⟩
    cases e with
    | processEvents m ready => exact hw.processEvents hlinked m ready
    | nextEvent => exact hw.nextEvent hlinked
    | _ => cases he
  · exact changes_inv (P := Watching) Change.watching hlinked hw (step_changes hlinked hwrap he)

theorem run_watching (events : List Event) (hwrap : (Run.run State.step init events).Unwrapped) :
    Linked (Run.run State.step init events) ∧ Watching (Run.run State.step init events) :=
  Run.run_inv (I := fun s => s.Unwrapped → Linked s ∧ Watching s) step_watching
    (fun _ => ⟨linked_init, watching_init⟩) events hwrap

/-- The handler that a manager has for a descriptor, with its handle. -/
def watcher (s : State) (m : ManagerId) (fd : Fd) : Option (UInt64 × HandlerId) :=
  (s.descriptors fd).bind fun x => (s.handlers x).bind fun handler =>
    if handler.eventManager = some m ∧ handler.handle ≠ 0 then some (handler.handle, x) else none

/-- What `watcher` says of a handler that is alive. -/
theorem Linked.watcher_eq_some (h : Linked s) {fd : Fd} (hw : Watching s) :
    s.watcher m fd = some (id, x) ↔ s.registered m id = some x ∧
      ∃ handler, s.handlers x = some handler ∧ handler.socket = fd := by
  unfold watcher
  simp only [Option.bind_eq_some_iff]
  constructor
  · rintro ⟨y, hopen, after, hy, hif⟩
    split at hif
    · rename_i hlink
      obtain ⟨hid, hyx⟩ := Prod.mk.inj (Option.some.inj hif)
      subst hid hyx
      obtain ⟨after', hy', hsocket⟩ := hw.owner fd y hopen
      exact ⟨h.registered_handle hy hlink.1 hlink.2, after', hy', hsocket⟩
    · cases hif
  · rintro ⟨hreg, handler, hx, rfl⟩
    obtain ⟨handler', hx', hm, hid, hne⟩ := (h.registered m id x).1 hreg
    rw [hx] at hx'
    cases hx'
    refine ⟨x, h.descriptors x handler hx, handler, hx, ?_⟩
    rw [if_pos ⟨hm, hid ▸ hne⟩, hid]

/-- **The interest list names the handlers of the descriptors.** -/
theorem Linked.epollWait_eq (h : Linked s) (hw : Watching s) (m : ManagerId) (ready : List Fd) :
    s.epollWait m ready =
      ((ready.take maxConcurrentEvents).filterMap (s.watcher m)).map Prod.fst := by
  obtain ⟨interest, hepfd⟩ := hw.epfd m
  rw [epollWait, hepfd, List.map_filterMap]
  simp only
  congr 1
  funext fd
  cases hevent : interest fd with
  | some event =>
    obtain ⟨x, handler, hreg, hx, hsocket⟩ := hw.event m interest fd event hepfd hevent
    rw [(h.watcher_eq_some hw).2 ⟨hreg, handler, hx, hsocket⟩]
    rfl
  | none =>
    -- a handler that is registered is watched
    have hnone : s.watcher m fd = none := by
      rcases hfd : s.watcher m fd with - | ⟨id, x⟩
      · rfl
      · obtain ⟨hreg, handler, hx, hsocket⟩ := (h.watcher_eq_some hw).1 hfd
        obtain ⟨interest', event, hepfd', hevent'⟩ := h.watched m id x handler hreg hx
        rw [hepfd] at hepfd'
        cases hepfd'
        rw [hsocket, hevent] at hevent'
        cases hevent'
    rw [hnone]
    rfl

/-! ## Around the loop -/

/-- What the steps around the loop do to a round: they call nobody, and a handle that is gone
afterwards was withdrawn. -/
structure Proceeds (s s' : State) : Prop where
  processing : s'.processing = s.processing
  log : ∀ m, ∃ new, s'.history m = new ++ s.history m ∧ honours new = [] ∧
    ∀ id x, s.registered m id = some x → s'.registered m id = some x ∨ .withdrawn id ∈ new

theorem Proceeds.refl (s : State) : Proceeds s s :=
  ⟨rfl, fun _ => ⟨[], rfl, rfl, fun _ _ h => Or.inl h⟩⟩

theorem Proceeds.trans (h : Proceeds s s₁) (h' : Proceeds s₁ s') : Proceeds s s' where
  processing := h'.processing.trans h.processing
  log m := by
    obtain ⟨new, hnew, hnone, hkept⟩ := h.log m
    obtain ⟨new', hnew', hnone', hkept'⟩ := h'.log m
    refine ⟨new' ++ new, by rw [hnew', hnew, List.append_assoc], ?_, ?_⟩
    · rw [honours_append, hnone, hnone']
      rfl
    · intro id x hreg
      rcases hkept id x hreg with hmid | hgone
      · rcases hkept' id x hmid with hstill | hgone
        · exact Or.inl hstill
        · exact Or.inr (List.mem_append_left _ hgone)
      · exact Or.inr (List.mem_append_right _ hgone)

/-- A change that leaves the tables and the history alone. -/
theorem Proceeds.of_tables (hprocessing : s'.processing = s.processing)
    (hhistory : s'.history = s.history) (hreg : s'.registered = s.registered) : Proceeds s s' :=
  ⟨hprocessing, fun m => ⟨[], by rw [hhistory]; rfl, rfl, fun id x h => Or.inl (by rwa [hreg])⟩⟩

theorem Change.proceeds (h : Linked s) (hchange : Change s s') : Proceeds s s' := by
  cases hchange with
  | @unlink m id x handler interest hreg hx hepfd =>
    refine ⟨rfl, fun m' => ?_⟩
    rw [unlink_history]
    rcases eq_or_ne m' m with rfl | hm
    · refine ⟨[.withdrawn id], by rw [Function.update_self]; rfl, rfl, fun id' y hreg' => ?_⟩
      rcases eq_or_ne id' id with rfl | hid
      · exact Or.inr List.mem_cons_self
      · left
        rw [unlink_registered, Function.update_of_ne hid]
        exact hreg'
    · refine ⟨[], by rw [Function.update_of_ne hm]; rfl, rfl, fun id' y hreg' => Or.inl ?_⟩
      rw [unlink_registered_ne _ _ _ _ _ _ hm]
      exact hreg'
  | @link m x handler before interest hx hun hsocket hepfd hwrap =>
    refine ⟨rfl, fun m' => ?_⟩
    rw [link_history]
    have hkept : ∀ id' y, s.registered m' id' = some y →
        (s.link m x handler interest).registered m' id' = some y := by
      intro id' y hreg'
      have hne : y ≠ x := by
        rintro rfl
        exact h.not_registered hx hun m' id' hreg'
      exact (h.link_registered_iff hne).2 hreg'
    rcases eq_or_ne m' m with rfl | hm
    · exact ⟨[.given _ x], by rw [Function.update_self]; rfl, rfl,
        fun id' y hreg' => Or.inl (hkept id' y hreg')⟩
    · exact ⟨[], by rw [Function.update_of_ne hm]; rfl, rfl,
        fun id' y hreg' => Or.inl (hkept id' y hreg')⟩
  | disown hx => exact .of_tables rfl rfl rfl
  | create hclosed =>
    rw [create_eq hclosed]
    exact .of_tables rfl rfl rfl
  | destruct hx hun => exact .of_tables rfl rfl rfl
  | finished => exact .of_tables rfl rfl rfl

theorem changes_proceed (h : Linked s) (hchanges : ReflTransGen Change s s') : Proceeds s s' :=
  (changes_inv (P := Proceeds s) (fun _ _ hlinked hp hchange => hp.trans (hchange.proceeds hlinked))
    h (.refl s) hchanges).2

/-! ## A round -/

/-- How far a round is that began in `s`. The handlers `due` were ready then; those of `done`
have been looked at. -/
structure Round (s : State) (m : ManagerId) (due : List (UInt64 × HandlerId)) (s' : State)
    (done rest : List (UInt64 × HandlerId)) (new : List (Entry UInt64 HandlerId)) : Prop where
  split : due = done ++ rest
  history : s'.history m = new ++ s.history m
  order : (honours new).reverse.Sublist done
  complete : ∀ e ∈ done, e ∈ honours new ∨ .withdrawn e.1 ∈ new
  kept : ∀ e ∈ due, s'.registered m e.1 = some e.2 ∨ .withdrawn e.1 ∈ new
  processing : s'.processing = some (m, rest.map Prod.fst) ∨ s'.processing = none ∧ rest = []

variable {due done rest : List (UInt64 × HandlerId)} {new : List (Entry UInt64 HandlerId)}

theorem Round.proceed (h : Round s m due s₁ done rest new) (hp : Proceeds s₁ s') :
    ∃ new', Round s m due s' done rest new' := by
  obtain ⟨more, hmore, hnone, hkept⟩ := hp.log m
  have hcalled : honours (more ++ new) = honours new := by
    rw [honours_append, hnone]
    rfl
  refine ⟨more ++ new, h.split, by rw [hmore, h.history, List.append_assoc], ?_, ?_, ?_, ?_⟩
  · rw [hcalled]
    exact h.order
  · intro e he
    rw [hcalled]
    exact (h.complete e he).imp_right fun hgone => List.mem_append_right _ hgone
  · intro e he
    rcases h.kept e he with hreg | hgone
    · rcases hkept e.1 e.2 hreg with hstill | hgone
      · exact Or.inl hstill
      · exact Or.inr (List.mem_append_left _ hgone)
    · exact Or.inr (List.mem_append_right _ hgone)
  · rw [hp.processing]
    exact h.processing

/-- **The next turn of the loop**: the handler is called, or its handle was withdrawn. -/
theorem Round.nextEvent (hlinked : Linked s₁) (h : Round s m due s₁ done rest new) :
    ∃ done' rest' new', Round s m due s₁.nextEvent done' rest' new' := by
  rcases hlinked.nextEvent_cases with heq | ⟨m', hprocessing, heq⟩ |
    ⟨m', handle, handles, hprocessing, hreg, heq⟩ |
    ⟨m', handle, handles, x, handler, -, hprocessing, hreg, -, heq⟩
  · rw [heq]
    exact ⟨done, rest, new, h⟩
  · -- the loop is over only if nothing is left
    have hrest : rest = [] := by
      rcases h.processing with hp | ⟨-, hrest⟩
      · rw [hprocessing] at hp
        cases hp' : rest with
        | nil => rfl
        | cons e rest => rw [hp'] at hp; cases hp
      · exact hrest
    rw [heq]
    exact ⟨done, rest, new, h.split, h.history, h.order, h.complete, h.kept, Or.inr ⟨rfl, hrest⟩⟩
  all_goals
    obtain ⟨rfl, e, later, hrest, rfl, rfl⟩ : m' = m ∧ ∃ e later, rest = e :: later ∧
        handle = e.1 ∧ handles = later.map Prod.fst := by
      rcases h.processing with hp | ⟨hp, -⟩
      · rw [hprocessing] at hp
        cases hp' : rest with
        | nil => rw [hp'] at hp; cases hp
        | cons e later => rw [hp'] at hp; cases hp; exact ⟨rfl, e, later, rfl, rfl, rfl⟩
      · rw [hprocessing] at hp
        cases hp
    have hsplit : due = (done ++ [e]) ++ later := by
      rw [h.split, hrest, List.append_assoc]
      rfl
    have hdue : e ∈ due := by
      rw [hsplit]
      simp
  · -- the handle is no longer in the table
    have hgone : .withdrawn e.1 ∈ new := by
      rcases h.kept e hdue with hstill | hgone
      · rw [hreg] at hstill
        cases hstill
      · exact hgone
    rw [heq]
    refine ⟨done ++ [e], later, new, hsplit, h.history, ?_, ?_, h.kept, Or.inl rfl⟩
    · exact h.order.trans (List.sublist_append_left _ _)
    · intro e' he'
      rcases List.mem_append.1 he' with hold | hlast
      · exact h.complete e' hold
      · rw [List.mem_singleton.1 hlast]
        exact Or.inr hgone
  · -- a handle in the table was not withdrawn, so it is that of the handler that was ready
    obtain rfl : x = e.2 := by
      rcases h.kept e hdue with hstill | hgone
      · rw [hreg] at hstill
        exact Option.some.inj hstill
      · refine absurd ?_ ((hlinked.tickets m').held e.1 x hreg).2
        rw [h.history]
        exact List.mem_append_left _ hgone
    rw [heq]
    refine ⟨done ++ [e], later, .honoured e.1 e.2 :: new, hsplit, ?_, ?_, ?_, ?_, Or.inl rfl⟩
    · rw [record_history, Function.update_self]
      change _ :: s₁.history m' = _
      rw [h.history]
      rfl
    · change ((e.1, e.2) :: honours new).reverse.Sublist _
      rw [List.reverse_cons]
      exact h.order.append (List.Sublist.refl _)
    · intro e' he'
      rcases List.mem_append.1 he' with hold | hlast
      · exact (h.complete e' hold).imp (List.mem_cons_of_mem _) (List.mem_cons_of_mem _)
      · rw [List.mem_singleton.1 hlast]
        exact Or.inl List.mem_cons_self
    · intro e' he'
      exact (h.kept e' he').imp id (List.mem_cons_of_mem _)

/-- Handles are never given back. -/
theorem given_mono (s : State) (events : List Event) (m : ManagerId) :
    s.given m ≤ (Run.run State.step s events).given m := by
  have hstep : ∀ s' e, s.given m ≤ s'.given m → s.given m ≤ (State.step s' e).given m :=
    fun s' e hle => hle.trans (given_step s' e m).1
  exact Run.run_inv hstep (Nat.le_refl _) events

theorem Unwrapped.of_run {events : List Event} (h : (Run.run State.step s events).Unwrapped) :
    s.Unwrapped := fun m => (given_mono s events m).trans_lt (h m)

theorem Round.run (events : List Event) (hevents : ∀ e ∈ events, e.Within) (hlinked : Linked s₁)
    (h : Round s m due s₁ done rest new)
    (hwrap : (Run.run State.step s₁ events).Unwrapped) :
    ∃ done' rest' new', Round s m due (Run.run State.step s₁ events) done' rest' new' := by
  induction events generalizing s₁ done rest new with
  | nil => exact ⟨done, rest, new, h⟩
  | cons e events ih =>
    have hwrap₁ : (s₁.step e).Unwrapped := Unwrapped.of_run hwrap
    have hlinked₁ : Linked (s₁.step e) := step_inv s₁ e (fun _ => hlinked) hwrap₁
    have hround : ∃ done' rest' new', Round s m due (s₁.step e) done' rest' new' := by
      by_cases he : e.OfLoop
      · cases e with
        | processEvents m ready => exact (hevents _ List.mem_cons_self).elim
        | nextEvent => exact h.nextEvent hlinked
        | _ => cases he
      · obtain ⟨new', h'⟩ := h.proceed (changes_proceed hlinked (step_changes hlinked hwrap₁ he))
        exact ⟨done, rest, new', h'⟩
    obtain ⟨done', rest', new', h'⟩ := hround
    exact ih (fun x hx => hevents x (List.mem_cons_of_mem e hx)) hlinked₁ h' hwrap

/-- A descriptor has one handler, and a handler one descriptor. -/
theorem Linked.watchers_nodup (h : Linked s) (hw : Watching s) (m : ManagerId) {fds : List Fd}
    (hfds : fds.Nodup) : ((fds.filterMap (s.watcher m)).map Prod.snd).Nodup := by
  rw [List.map_filterMap]
  refine hfds.filterMap fun fd fd' x hfd hfd' => ?_
  obtain ⟨⟨id, x₁⟩, hwatcher, rfl⟩ := Option.map_eq_some_iff.1 hfd
  obtain ⟨⟨id', x₂⟩, hwatcher', rfl⟩ := Option.map_eq_some_iff.1 hfd'
  obtain ⟨-, handler, hx, rfl⟩ := (h.watcher_eq_some hw).1 hwatcher
  obtain ⟨-, handler', hx', rfl⟩ := (h.watcher_eq_some hw).1 hwatcher'
  rw [hx] at hx'
  cases hx'
  rfl

/-- **A round begins** with the handlers of the descriptors that are ready. -/
theorem Linked.round (h : Linked s) (hw : Watching s) (hidle : s.processing = none)
    (m : ManagerId) (ready : List Fd) :
    Round s m ((ready.take maxConcurrentEvents).filterMap (s.watcher m)) (s.processEvents m ready)
      [] ((ready.take maxConcurrentEvents).filterMap (s.watcher m)) [] := by
  rw [h.processEvents_eq hidle]
  refine ⟨rfl, rfl, .slnil, fun e he => (by cases he), fun e he => Or.inl ?_, Or.inl ?_⟩
  · obtain ⟨fd, -, hwatcher⟩ := List.mem_filterMap.1 he
    exact ((h.watcher_eq_some hw).1 hwatcher).1
  · rw [h.epollWait_eq hw]

end State

open State

/-- **Every ready handler gets its turn.** A round of `ProcessEvents` begins, and handlers are
called, made, added, removed and destroyed in any order. Of the first ten descriptors that are
ready the handlers are called in this order, none of them twice and no other one; and when the
round is over, each of them was called or its handle was withdrawn meanwhile. -/
theorem ready_handlers_called (before : List Event) (m : ManagerId) (ready : List Fd)
    (hready : ready.Nodup) (round : List Event) (hround : ∀ e ∈ round, e.Within)
    (s s' : State) (hs : s = Run.run State.step .init before) (hidle : s.processing = none)
    (hs' : s' = Run.run State.step (s.processEvents m ready) round) (hwrap : s'.Unwrapped) :
    ∃ new, s'.history m = new ++ s.history m ∧
      (honours new).reverse.Sublist
        ((ready.take maxConcurrentEvents).filterMap (s.watcher m)) ∧
      ((honours new).map Prod.snd).Nodup ∧
      (s'.processing = none → ∀ e ∈ (ready.take maxConcurrentEvents).filterMap (s.watcher m),
        e ∈ honours new ∨ .withdrawn e.1 ∈ new) := by
  have hwrap' : (Run.run State.step s (.processEvents m ready :: round)).Unwrapped := by
    rw [Run.run_cons]
    exact hs' ▸ hwrap
  obtain ⟨hlinked, hw⟩ := run_watching before (hs ▸ Unwrapped.of_run hwrap')
  rw [← hs] at hlinked hw
  have hbegun := hlinked.round hw hidle m ready
  obtain ⟨done, rest, new, hround'⟩ :=
    hbegun.run round hround (hlinked.processEvents m ready) (hs' ▸ hwrap)
  rw [← hs'] at hround'
  have hdone : done.Sublist ((ready.take maxConcurrentEvents).filterMap (s.watcher m)) := by
    rw [hround'.split]
    exact List.sublist_append_left _ _
  refine ⟨new, hround'.history, hround'.order.trans hdone, ?_, ?_⟩
  · have hnodup := (hlinked.watchers_nodup hw m (hready.sublist (List.take_sublist _ _))).sublist
      ((hround'.order.trans hdone).map Prod.snd)
    rwa [List.map_reverse, List.nodup_reverse] at hnodup
  · intro hover e he
    have hrest : rest = [] := by
      rcases hround'.processing with hp | ⟨-, hrest⟩
      · rw [hover] at hp
        cases hp
      · exact hrest
    refine hround'.complete e ?_
    rwa [hround'.split, hrest, List.append_nil] at he

/-- In the round of `staleEvent` the first of three handlers destroys the second one. The other
two are called. -/
theorem ready_handlers_called_stale : ∃ new,
    (Run.run State.step .init staleEvent).history 0 =
      new ++ (Run.run State.step .init (staleEvent.take 7)).history 0 ∧
    (honours new).reverse.Sublist [(1, 0), (2, 1), (4, 2)] ∧
    ∀ e ∈ [((1 : UInt64), 0), (2, 1), (4, 2)], e ∈ honours new ∨ .withdrawn e.1 ∈ new := by
  have hdue : ([3, 4, 5].take maxConcurrentEvents).filterMap
      ((Run.run State.step .init (staleEvent.take 7)).watcher 0) = [(1, 0), (2, 1), (4, 2)] := by
    decide +kernel
  have hsplit : Run.run State.step .init staleEvent = Run.run State.step
      ((Run.run State.step .init (staleEvent.take 7)).processEvents 0 [3, 4, 5])
      (staleEvent.drop 8) := by
    conv_lhs => rw [show staleEvent = staleEvent.take 7 ++ .processEvents 0 [3, 4, 5] ::
      staleEvent.drop 8 from rfl, Run.run_append, Run.run_cons]
    rfl
  obtain ⟨new, hnew, horder, -, hcomplete⟩ := ready_handlers_called (staleEvent.take 7) 0 [3, 4, 5]
    (by decide) (staleEvent.drop 8) (by decide) _ _ rfl (by decide +kernel) hsplit
    fun m => (given_run_le staleEvent m).trans_lt (by decide)
  rw [hdue] at horder hcomplete
  exact ⟨new, hnew, horder, hcomplete (by decide +kernel)⟩

end Ndisc.Events
