import Ndisc.Proof.Registration
import Ndisc.Spec.Managers

/-!
# Handlers whose manager is moved

Handles are numbered anew by each manager. A handler that is left behind with the handle of
a map that is gone holds the handle of another handler in the map that takes its place.

* `moveAssign_handlers`: which handlers learn of a move, and what.
* `Kept`, `BackReferenced.kept`: a handler that goes disturbs no other handler, as long as
  handlers and maps refer to each other.
* `moveAssign_kept_iff`: **a move keeps this exactly if the target has no handler of its own**.
* `Linked.moveAssign`, `managers_moved`: the same in every run of the event loop.
-/

namespace Ndisc.Events

open Tickets
open Std (ExtTreeMap)

namespace State

variable {s : State} {m m' target source : ManagerId} {id id' : UInt64} {x y : HandlerId}
  {handler : EventHandler}

/-! ## What the loop does -/

/-- The loop changes the handlers only. -/
theorem foldl_adopt_frame (target : ManagerId) (entries : List (UInt64 × HandlerId)) (s : State) :
    ∃ handlers, entries.foldl (adopt target) s = { s with handlers := handlers } := by
  induction entries generalizing s with
  | nil => exact ⟨s.handlers, rfl⟩
  | cons entry entries ih =>
    obtain ⟨handlers, heq⟩ := ih (adopt target s entry)
    refine ⟨handlers, ?_⟩
    rw [List.foldl_cons, heq]
    unfold adopt
    split
    · rfl
    · rfl

theorem adopt_self (target : ManagerId) (hx : s.handlers x = some handler) (id : UInt64) :
    (adopt target s (id, x)).handlers x =
      some { handler with eventManager := some target, handle := id } := by
  rw [adopt, hx]
  exact Function.update_self ..

theorem adopt_other {entry : UInt64 × HandlerId} (h : entry.2 ≠ x) :
    (adopt target s entry).handlers x = s.handlers x := by
  unfold adopt
  split
  · rfl
  · exact Function.update_of_ne h.symm ..

/-- A handler that is in no entry does not learn of the move. -/
theorem foldl_adopt_other {entries : List (UInt64 × HandlerId)} (h : ∀ e ∈ entries, e.2 ≠ x)
    (s : State) : (entries.foldl (adopt target) s).handlers x = s.handlers x := by
  induction entries generalizing s with
  | nil => rfl
  | cons entry entries ih =>
    have hhead := h entry List.mem_cons_self
    rw [List.foldl_cons, ih (fun e he => h e (List.mem_cons_of_mem _ he)), adopt_other hhead]

/-- A handler in one entry learns of its new manager, and keeps its handle. -/
theorem foldl_adopt_self {entries : List (UInt64 × HandlerId)} (hmem : (id, x) ∈ entries)
    (honly : ∀ e ∈ entries, e.2 = x → e.1 = id) (hx : s.handlers x = some handler) :
    (entries.foldl (adopt target) s).handlers x =
      some { handler with eventManager := some target, handle := id } := by
  induction entries generalizing s handler with
  | nil => cases hmem
  | cons entry entries ih =>
    rw [List.foldl_cons]
    have hlater : ∀ e ∈ entries, e.2 = x → e.1 = id := fun e he =>
      honly e (List.mem_cons_of_mem _ he)
    by_cases hentry : entry.2 = x
    · have hid := honly entry List.mem_cons_self hentry
      obtain ⟨id', x'⟩ := entry
      subst hid hentry
      have hadopted := adopt_self target hx id'
      by_cases hagain : (id', x') ∈ entries
      · have hlast := ih hagain hlater hadopted
        exact hlast
      · have hnone : ∀ e ∈ entries, e.2 ≠ x' := by
          intro e he heq
          have hsame : e = (id', x') := Prod.ext (hlater e he heq) heq
          exact hagain (hsame ▸ he)
        rw [foldl_adopt_other hnone, hadopted]
    · have hrest : (id, x) ∈ entries := by
        rcases List.mem_cons.1 hmem with heq | hrest
        · exact absurd (heq ▸ rfl) hentry
        · exact hrest
      exact ih hrest hlater ((adopt_other hentry).trans hx)

/-! ## Handlers and maps -/

/-- A handler that is alive points at a manager exactly if it is in its map. -/
def BackReferenced (s : State) : Prop :=
  ∀ m id x handler, s.handlers x = some handler →
    ((handler.eventManager = some m ∧ handler.handle = id ∧ id ≠ 0) ↔ s.registered m id = some x)

/-- No handler that is alive is registered with this manager. -/
def Spared (s : State) (m : ManagerId) : Prop :=
  ∀ x handler, s.handlers x = some handler → handler.eventManager = some m → handler.handle = 0

theorem Linked.backReferenced (h : Linked s) : BackReferenced s := by
  intro m id x handler hx
  rw [h.registered m id x]
  constructor
  · rintro ⟨hm, hid, hne⟩
    exact ⟨handler, hx, hm, hid, hne⟩
  · rintro ⟨handler', hx', hrest⟩
    rw [hx] at hx'
    cases hx'
    exact hrest

/-- What a move tells a handler. -/
def repoint (target source : ManagerId) (handler : EventHandler) : EventHandler :=
  if handler.eventManager = some source ∧ handler.handle ≠ 0 then
    { handler with eventManager := some target }
  else handler

theorem takeOver_managers (s : State) (target source : ManagerId) :
    (s.takeOver target source).managers =
      Function.update (Function.update s.managers target (s.managers source)) source .movedFrom := rfl

theorem takeOver_target (s : State) (hne : target ≠ source) :
    (s.takeOver target source).managers target = s.managers source := by
  rw [takeOver_managers, Function.update_of_ne hne, Function.update_self]

/-- **The handlers of the source learn of the move**, and nobody else does. -/
theorem moveAssign_handlers (h : BackReferenced s) (hne : target ≠ source) (x : HandlerId) :
    (s.moveAssign target source).handlers x = (s.handlers x).map (repoint target source) := by
  rw [moveAssign, adoptAll, takeOver_target s hne]
  have hentry : ∀ e : UInt64 × HandlerId, e ∈ (s.managers source).registeredEvents.toList ↔
      s.registered source e.1 = some e.2 := by
    rintro ⟨id, y⟩
    exact ExtTreeMap.mem_toList_iff_getElem?_eq_some
  cases hx : s.handlers x with
  | none =>
    -- the loop cannot lock a handler that is gone
    have hgone : ∀ (entries : List (UInt64 × HandlerId)) (s : State), s.handlers x = none →
        (entries.foldl (adopt target) s).handlers x = none := by
      intro entries
      induction entries with
      | nil => exact fun s hs => hs
      | cons entry entries ih =>
        intro s hs
        apply ih
        by_cases hentry : entry.2 = x
        · rw [adopt, hentry, hs]
          exact hs
        · rw [adopt_other hentry]
          exact hs
    exact hgone _ _ hx
  | some handler =>
    have hback := h source handler.handle x handler hx
    rw [Option.map_some, repoint]
    split
    · rename_i hsource
      obtain ⟨hm, hid⟩ := hsource
      refine foldl_adopt_self ((hentry (handler.handle, x)).2 (hback.1 ⟨hm, rfl, hid⟩)) ?_ hx
      rintro ⟨id, y⟩ he rfl
      exact ((h source id y handler hx).2 ((hentry (id, y)).1 he)).2.1.symm
    · rename_i hother
      refine (foldl_adopt_other ?_ _).trans hx
      rintro ⟨id, y⟩ he rfl
      obtain ⟨hm, hid, hnz⟩ := (h source id y handler hx).2 ((hentry (id, y)).1 he)
      exact hother ⟨hm, hid ▸ hnz⟩

theorem moveAssign_frame (s : State) (target source : ManagerId) :
    ∃ handlers, s.moveAssign target source = { s.takeOver target source with handlers := handlers } :=
  foldl_adopt_frame _ _ _

theorem moveAssign_managers (s : State) (target source : ManagerId) :
    (s.moveAssign target source).managers = (s.takeOver target source).managers := by
  obtain ⟨handlers, heq⟩ := moveAssign_frame s target source
  rw [heq]

theorem moveAssign_target (s : State) (hne : target ≠ source) :
    (s.moveAssign target source).managers target = s.managers source := by
  rw [moveAssign_managers, takeOver_target s hne]

theorem moveAssign_source (s : State) (target source : ManagerId) :
    (s.moveAssign target source).managers source = .movedFrom := by
  rw [moveAssign_managers, takeOver_managers, Function.update_self]

theorem moveAssign_other (s : State) (htarget : m ≠ target) (hsource : m ≠ source) :
    (s.moveAssign target source).managers m = s.managers m := by
  rw [moveAssign_managers, takeOver_managers, Function.update_of_ne hsource,
    Function.update_of_ne htarget]

theorem registered_of_eq {s' : State} (h : s'.managers m' = s.managers m) :
    s'.registered m' = s.registered m := by
  funext id
  rw [registered, h]
  rfl

theorem moveAssign_registered_target (s : State) (hne : target ≠ source) :
    (s.moveAssign target source).registered target = s.registered source :=
  registered_of_eq (moveAssign_target s hne)

theorem moveAssign_registered_source (s : State) (target source : ManagerId) :
    (s.moveAssign target source).registered source = fun _ => none := by
  funext id
  rw [registered, moveAssign_source]
  exact ExtTreeMap.getElem?_empty

theorem moveAssign_registered_other (s : State) (htarget : m ≠ target) (hsource : m ≠ source) :
    (s.moveAssign target source).registered m = s.registered m :=
  registered_of_eq (moveAssign_other s htarget hsource)

/-- **A move keeps handlers and maps together**, if the target has no handler of its own. -/
theorem BackReferenced.moveAssign (h : BackReferenced s) (hne : target ≠ source)
    (hspared : s.Spared target) : BackReferenced (s.moveAssign target source) := by
  intro m id x handler' hx'
  rw [moveAssign_handlers h hne, Option.map_eq_some_iff] at hx'
  obtain ⟨handler, hx, rfl⟩ := hx'
  have hback := h m id x handler hx
  unfold repoint
  split
  · rename_i hsource
    obtain ⟨hm, hid⟩ := hsource
    rcases eq_or_ne m target with rfl | htarget
    · rw [moveAssign_registered_target s hne, ← h source id x handler hx, hm]
      exact ⟨fun hr => ⟨rfl, hr.2⟩, fun hr => ⟨rfl, hr.2⟩⟩
    · refine iff_of_false (fun hr => htarget (Option.some.inj hr.1).symm) ?_
      rcases eq_or_ne m source with rfl | hms
      · rw [moveAssign_registered_source]
        exact fun hr => by cases hr
      · rw [moveAssign_registered_other s htarget hms, ← hback, hm]
        exact fun hr => hms (Option.some.inj hr.1).symm
  · rename_i hother
    rcases eq_or_ne m target with rfl | htarget
    · refine iff_of_false ?_ ?_
      · rintro ⟨hm, hid, hnz⟩
        exact hnz (hid.symm.trans (hspared x handler hx hm))
      · rw [moveAssign_registered_target s hne, ← h source id x handler hx]
        rintro ⟨hm, hid, hnz⟩
        exact hother ⟨hm, hid ▸ hnz⟩
    · rcases eq_or_ne m source with rfl | hms
      · refine iff_of_false ?_ ?_
        · rintro ⟨hm, hid, hnz⟩
          exact hother ⟨hm, hid ▸ hnz⟩
        · rw [moveAssign_registered_source]
          exact fun hr => by cases hr
      · rw [moveAssign_registered_other s htarget hms]
        exact hback

/-! ## Handlers that go -/

/-- A handler and its entry are as they were. -/
def Undisturbed (y : HandlerId) (s s' : State) : Prop :=
  s'.handlers y = s.handlers y ∧ ∀ m id, s.registered m id = some y → s'.registered m id = some y

/-- Back references are sound, and a handler that is destroyed or removed leaves all others
alone. -/
structure Kept (s : State) : Prop where
  sound : ∀ x handler m, s.handlers x = some handler → handler.eventManager = some m →
    handler.handle ≠ 0 → s.registered m handler.handle = some x
  destroyed : ∀ x y, y ≠ x → (s.handlers y).isSome → Undisturbed y s (s.destroy x)
  removed : ∀ m x y, y ≠ x → (s.handlers y).isSome → Undisturbed y s (s.removeHandler m x).2

theorem undisturbed_refl (y : HandlerId) (s : State) : Undisturbed y s s := ⟨rfl, fun _ _ h => h⟩

theorem Undisturbed.trans {s₁ s₂ : State} (h : Undisturbed y s s₁) (h' : Undisturbed y s₁ s₂) :
    Undisturbed y s s₂ :=
  ⟨h'.1.trans h.1, fun m id hreg => h'.2 m id (h.2 m id hreg)⟩

theorem epollCtlDel_registeredEvents {manager manager' : EventManager} {fd : Fd}
    (h : manager.epollCtlDel fd = .ok manager') :
    manager'.registeredEvents = manager.registeredEvents := by
  unfold EventManager.epollCtlDel at h
  split at h
  · cases h
  · split at h
    · cases h
    · cases h
      rfl

theorem erase_undisturbed (h : s.registered m id ≠ some y) : Undisturbed y s (s.erase m id) := by
  refine ⟨rfl, fun m' id' hreg => ?_⟩
  have hmanagers : (s.erase m id).managers = Function.update s.managers m { s.managers m with
    registeredEvents := (s.managers m).registeredEvents.erase id } := rfl
  rcases eq_or_ne m' m with rfl | hm
  · have hid : id' ≠ id := by
      rintro rfl
      exact h hreg
    rw [registered, hmanagers, Function.update_self, ExtTreeMap.getElem?_erase,
      if_neg (by simpa using hid.symm)]
    exact hreg
  · rw [registered, hmanagers, Function.update_of_ne hm]
    exact hreg

/-- `Remove` of a handle disturbs the handler in its entry only. -/
theorem remove_undisturbed (h : s.registered m id ≠ some y) :
    Undisturbed y s (s.remove m id).2 := by
  unfold State.remove
  split
  · exact undisturbed_refl y s
  · rename_i x hreg
    split
    · exact erase_undisturbed h
    · split
      · exact undisturbed_refl y s
      · rename_i manager hdel
        have hyx : y ≠ x := by
          rintro rfl
          exact h hreg
        -- up to here the maps are as before
        have hsame : ∀ (after : EventHandler) (m' : ManagerId),
            ((s.setManager m manager).setHandler x after).registered m' = s.registered m' := by
          intro after m'
          funext id'
          rcases eq_or_ne m' m with rfl | hm
          · show (Function.update s.managers m' manager m').registeredEvents[id']? = _
            rw [Function.update_self, epollCtlDel_registeredEvents hdel]
            rfl
          · show (Function.update s.managers m manager m').registeredEvents[id']? = _
            rw [Function.update_of_ne hm]
            rfl
        refine Undisturbed.trans ⟨Function.update_of_ne hyx .., fun m' id' hreg' => ?_⟩
          (erase_undisturbed ?_)
        · rw [hsame]
          exact hreg'
        · rw [hsame]
          exact h

theorem BackReferenced.not_own (h : BackReferenced s) (hx : s.handlers x = some handler)
    (hm : handler.eventManager = some m) (hyx : y ≠ x) (hy : (s.handlers y).isSome) :
    s.registered m handler.handle ≠ some y := by
  intro hreg
  obtain ⟨handler', hy'⟩ := Option.isSome_iff_exists.1 hy
  have hnz := ((h m handler.handle y handler' hy').2 hreg).2.2
  have hown := (h m handler.handle x handler hx).1 ⟨hm, rfl, hnz⟩
  exact hyx (Option.some.inj (hreg.symm.trans hown))

/-- **A handler that goes takes its own entry along, and no other.** -/
theorem BackReferenced.kept (h : BackReferenced s) : Kept s := by
  refine ⟨?_, ?_, ?_⟩
  · intro x handler m hx hm hnz
    exact (h m handler.handle x handler hx).1 ⟨hm, rfl, hnz⟩
  · intro x y hyx hy
    unfold State.destroy
    split
    · exact undisturbed_refl y s
    · rename_i handler hx
      have hdestruct : Undisturbed y s (s.destruct x handler.socket) :=
        ⟨Function.update_of_ne hyx .., fun _ _ hreg => hreg⟩
      refine hdestruct.trans ?_
      unfold State.leave
      split
      · exact undisturbed_refl y _
      · rename_i m hm
        split
        · exact remove_undisturbed (h.not_own hx hm hyx hy)
        · exact undisturbed_refl y _
  · intro m x y hyx hy
    unfold State.removeHandler
    split
    · exact undisturbed_refl y s
    · rename_i handler hx
      split
      · exact undisturbed_refl y s
      · rename_i hm
        exact remove_undisturbed (h.not_own hx (not_not.1 hm) hyx hy)

/-- **A move keeps the back references sound exactly if the target has no handler of its
own.** -/
theorem moveAssign_kept_iff (h : BackReferenced s) (hne : target ≠ source) :
    Kept (s.moveAssign target source) ↔ s.Spared target := by
  constructor
  · intro hkept x handler hx hm
    by_contra hnz
    -- nobody tells this handler, so it keeps its handle
    have hsame : repoint target source handler = handler := by
      refine if_neg fun hsource => hne ?_
      exact Option.some.inj (hm.symm.trans hsource.1)
    have hx' : (s.moveAssign target source).handlers x = some handler := by
      rw [moveAssign_handlers h hne, hx, Option.map_some, hsame]
    have hreg := hkept.sound x handler target hx' hm hnz
    rw [moveAssign_registered_target s hne, ← h source _ x handler hx, hm] at hreg
    exact hne (Option.some.inj hreg.1)
  · intro hspared
    exact (h.moveAssign hne hspared).kept

/-! ## Runs -/

theorem moveAssign_history (s : State) (target source : ManagerId) :
    (s.moveAssign target source).history =
      Function.update (Function.update s.history target (s.history source)) source [] := by
  obtain ⟨handlers, heq⟩ := moveAssign_frame s target source
  rw [heq]
  rfl

theorem moveAssign_history_source (s : State) (target source : ManagerId) :
    (s.moveAssign target source).history source = [] := by
  rw [moveAssign_history, Function.update_self]

/-- The map, the counter and the history of a manager move together. -/
theorem moveAssign_manager_cases (s : State) (hne : target ≠ source) (m : ManagerId) :
    m = source ∨ ∃ m', (s.moveAssign target source).managers m = s.managers m' ∧
      (s.moveAssign target source).history m = s.history m' := by
  rcases eq_or_ne m source with rfl | hsource
  · exact Or.inl rfl
  · rcases eq_or_ne m target with rfl | htarget
    · refine Or.inr ⟨source, moveAssign_target s hne, ?_⟩
      rw [moveAssign_history, Function.update_of_ne hne, Function.update_self]
    · refine Or.inr ⟨m, moveAssign_other s htarget hsource, ?_⟩
      rw [moveAssign_history, Function.update_of_ne hsource, Function.update_of_ne htarget]

@[simp] theorem repoint_socket (target source : ManagerId) (handler : EventHandler) :
    (repoint target source handler).socket = handler.socket := by
  unfold repoint
  split
  · rfl
  · rfl

/-- A handler that is alive after a move was alive before it, with the same socket. -/
theorem moveAssign_before (h : BackReferenced s) (hne : target ≠ source) {x : HandlerId}
    {after : EventHandler} (hx : (s.moveAssign target source).handlers x = some after) :
    ∃ before, s.handlers x = some before ∧ after.socket = before.socket := by
  rw [moveAssign_handlers h hne, Option.map_eq_some_iff] at hx
  obtain ⟨before, hx, rfl⟩ := hx
  exact ⟨before, hx, repoint_socket target source before⟩

/-- An entry of a map was one before the move, of the same or another manager. -/
theorem moveAssign_registered_before (s : State) (hne : target ≠ source) {id : UInt64} {x : HandlerId}
    (hreg : (s.moveAssign target source).registered m id = some x) :
    ∃ m', (s.moveAssign target source).managers m = s.managers m' ∧ s.registered m' id = some x := by
  rcases moveAssign_manager_cases s hne m with rfl | ⟨m', hmanager, -⟩
  · rw [moveAssign_registered_source] at hreg
    cases hreg
  · rw [registered_of_eq hmanager] at hreg
    exact ⟨m', hmanager, hreg⟩

/-- A move gives out no handle. -/
theorem Unwrapped.moveAssign (h : s.Unwrapped) (hne : target ≠ source) :
    (s.moveAssign target source).Unwrapped := by
  intro m
  rcases moveAssign_manager_cases s hne m with rfl | ⟨m', -, hhistory⟩
  · rw [given, moveAssign_history_source]
    decide
  · rw [given, hhistory]
    exact h m'

/-- **A move keeps the objects of the process linked**, under the same condition. -/
theorem Linked.moveAssign (h : Linked s) (hne : target ≠ source) (hspared : s.Spared target) :
    Linked (s.moveAssign target source) := by
  have hback := h.backReferenced.moveAssign hne hspared
  have hhandlers := moveAssign_handlers h.backReferenced hne
  obtain ⟨handlers, hframe⟩ := moveAssign_frame s target source
  refine ⟨?_, ?_, ?_, ?_, ?_, ?_⟩
  · intro m
    rcases moveAssign_manager_cases s hne m with rfl | ⟨m', hmanager, hhistory⟩
    · rw [moveAssign_registered_source, moveAssign_history_source]
      exact sound_empty _ _
    · rw [registered_of_eq hmanager, hmanager, hhistory]
      exact h.tickets m'
  · intro m
    rcases moveAssign_manager_cases s hne m with rfl | ⟨m', hmanager, hhistory⟩
    · rw [moveAssign_source, given, moveAssign_history_source]
      rfl
    · rw [hmanager, given, hhistory]
      exact h.counter m'
  · intro m id x
    constructor
    · intro hreg
      obtain ⟨m', -, hreg'⟩ := moveAssign_registered_before s hne hreg
      obtain ⟨before, hx, -⟩ := (h.registered m' id x).1 hreg'
      have hx' : (s.moveAssign target source).handlers x = some (repoint target source before) := by
        rw [hhandlers, hx, Option.map_some]
      exact ⟨_, hx', (hback m id x _ hx').2 hreg⟩
    · rintro ⟨after, hx, hrest⟩
      exact (hback m id x after hx).1 hrest
  · intro m id x after hreg hx
    obtain ⟨before, hx', hsocket⟩ := moveAssign_before h.backReferenced hne hx
    obtain ⟨m', hmanager, hreg'⟩ := moveAssign_registered_before s hne hreg
    rw [hmanager, hsocket]
    exact h.watched m' id x before hreg' hx'
  · intro x after hx
    obtain ⟨before, hx', hsocket⟩ := moveAssign_before h.backReferenced hne hx
    rw [hframe, hsocket]
    exact h.descriptors x before hx'
  · intro x hx
    have hcreated : s.created ≤ x := by
      rw [hframe] at hx
      exact hx
    rw [hhandlers, h.fresh x hcreated]
    rfl

/-- No handler points at an object that is new. -/
def New (s : State) (m : ManagerId) : Prop :=
  ∀ x handler, s.handlers x = some handler → handler.eventManager ≠ some m

/-- A manager is made in an object that is new, or assigned to another one that has no
handler of its own. -/
def Allowed (s : State) : Action → Prop
  | .event _ => True
  | .moveConstruct target source => target ≠ source ∧ s.New target
  | .moveAssign target source => target ≠ source ∧ s.Spared target

theorem New.spared (h : s.New target) : s.Spared target :=
  fun x handler hx hm => absurd hm (h x handler hx)

/-- **Every step keeps the objects linked**, moves among them. -/
theorem Linked.act (h : Linked s) {a : Action} (hallowed : s.Allowed a)
    (hwrap : (s.act a).Unwrapped) : Linked (s.act a) := by
  cases a with
  | event e => exact step_inv s e (fun _ => h) hwrap
  | moveConstruct target source => exact h.moveAssign hallowed.1 hallowed.2.spared
  | moveAssign target source => exact h.moveAssign hallowed.1 hallowed.2

theorem run_act_linked {actions : List Action}
    (h : Run.Along State.act (fun s a => s.Allowed a ∧ (s.act a).Unwrapped) init actions) :
    Linked (Run.run State.act init actions) :=
  Run.along_inv (I := Linked) (fun _ _ hs hstep => hs.act hstep.1 hstep.2) linked_init h

end State

/-- **Moves of managers and the back references of their handlers.** A move into a new
object keeps them sound; a move over another object does so exactly if no handler that is
alive is registered with it. In a run where every move is of this kind they are sound in
every state, and a handler that goes disturbs no other. -/
theorem managers_moved {s : State} (h : s.BackReferenced) {target source : ManagerId}
    (hne : target ≠ source) (actions : List Action) :
    (s.New target → (s.moveConstruct target source).Kept) ∧
      ((s.moveAssign target source).Kept ↔ s.Spared target) ∧
      (Run.Along State.act (fun s a => s.Allowed a ∧ (s.act a).Unwrapped) .init actions →
        (Run.run State.act .init actions).Kept) := by
  refine ⟨?_, State.moveAssign_kept_iff h hne, ?_⟩
  · intro hnew
    exact (h.moveAssign hne hnew.spared).kept
  · intro hactions
    exact (State.run_act_linked hactions).backReferenced.kept

/-- Two managers, with one handler each. Both handlers have the handle 1. -/
def twoManagers : State :=
  Run.run State.step .init [.create 3 1, .create 4 1, .add 0 0 none, .add 1 1 none]

theorem twoManagers_linked : twoManagers.Linked :=
  State.run_linked _ fun m => (State.given_run_le _ m).trans_lt (by decide)

theorem twoManagers_new : twoManagers.New 2 := by
  intro x handler hx
  have hlt : x < 2 := twoManagers_linked.lt_created hx
  have hzero : ((twoManagers.handlers 0).bind (·.eventManager)) = some 0 := by decide +kernel
  have hone : ((twoManagers.handlers 1).bind (·.eventManager)) = some 1 := by decide +kernel
  obtain rfl | rfl := Nat.le_one_iff_eq_zero_or_eq_one.1 (Nat.le_of_lt_succ hlt)
  · rw [hx] at hzero
    intro h
    rw [Option.bind_some, h] at hzero
    cases hzero
  · rw [hx] at hone
    intro h
    rw [Option.bind_some, h] at hone
    cases hone

theorem managers_moved_apart :
    (twoManagers.moveConstruct 2 1).Kept ∧ (twoManagers.moveAssign 2 1).Kept ∧
      (Run.run State.act .init [.event (.create 3 1), .event (.create 4 1),
        .event (.add 0 0 none), .event (.add 1 1 none), .moveConstruct 2 1]).Kept := by
  obtain ⟨hconstruct, hassign, hrun⟩ := managers_moved twoManagers_linked.backReferenced
    (show 2 ≠ 1 by decide) [.event (.create 3 1), .event (.create 4 1), .event (.add 0 0 none),
      .event (.add 1 1 none), .moveConstruct 2 1]
  have hunwrapped : ∀ events : List Event, events.length < 2 ^ 64 - 1 →
      (Run.run State.step .init events).Unwrapped := fun events hlt m =>
    (State.given_run_le events m).trans_lt hlt
  refine ⟨hconstruct twoManagers_new, hassign.2 twoManagers_new.spared, hrun ?_⟩
  exact ⟨⟨trivial, hunwrapped [.create 3 1] (by decide)⟩,
    ⟨trivial, hunwrapped [.create 3 1, .create 4 1] (by decide)⟩,
    ⟨trivial, hunwrapped [.create 3 1, .create 4 1, .add 0 0 none] (by decide)⟩,
    ⟨trivial, hunwrapped [.create 3 1, .create 4 1, .add 0 0 none, .add 1 1 none] (by decide)⟩,
    ⟨⟨by decide, twoManagers_new⟩, State.Unwrapped.moveAssign (s := twoManagers)
      (hunwrapped [.create 3 1, .create 4 1, .add 0 0 none, .add 1 1 none] (by decide)) (by decide)⟩,
    trivial⟩

/-- The second manager is assigned to the first one. The first handler is left with handle
1, and with it, when it is destroyed, goes the second one. -/
theorem managers_moved_stale : twoManagers.BackReferenced ∧
    ¬ (twoManagers.moveAssign 0 1).Kept ∧
    (twoManagers.moveAssign 0 1).registered 0 1 = some 1 ∧
    ((twoManagers.moveAssign 0 1).destroy 0).registered 0 1 = none := by
  have hentry : (twoManagers.moveAssign 0 1).registered 0 1 = some 1 := by decide +kernel
  have hgone : ((twoManagers.moveAssign 0 1).destroy 0).registered 0 1 = none := by decide +kernel
  refine ⟨twoManagers_linked.backReferenced, fun hkept => ?_, hentry, hgone⟩
  have halive : ((twoManagers.moveAssign 0 1).handlers 1).isSome := by decide +kernel
  have hstill := (hkept.destroyed 0 1 (by decide) halive).2 0 1 hentry
  rw [hgone] at hstill
  cases hstill

end Ndisc.Events
