import Ndisc.Proof.Daemon
import Ndisc.Proof.Dispatch
import Ndisc.Spec.Server

/-!
# The process is the daemon

* `Accounted`: the handlers that are alive are those of `main` and those of the clients that the
  `ClientRepository` holds.
* `call_accounted`: whatever handler is called, this stays so.
* `descriptors_accounted`: **so no descriptor leaks, and all of them are watched**.
* `server_refines_daemon`: **what the process does is what the loop of the daemon does**, with a
  call for each turn of the event manager.
* `exits_gracefully`: **when the loop is over, nothing fails and nothing is left open**.
-/

namespace Ndisc

open Events Client Relation Tickets Wire
open Std (ExtTreeMap)

/-! ## What the parts of a call do -/

namespace Events.State

variable {s : State} {m : ManagerId} {x y : HandlerId} {handler : EventHandler}

/-- Around the loop nobody is called. -/
theorem Proceeds.honours_eq {s' : State} (h : Proceeds s s') {called : List (UInt64 × HandlerId)}
    (hcalled : honours (s.history m) = called) : honours (s'.history m) = called := by
  obtain ⟨new, hnew, hnone, -⟩ := h.log m
  rw [hnew, honours_append, hnone, hcalled]
  rfl

/-- The counter starts at 1, so no handle is the 0 that means none. -/
theorem Linked.counter_ne_zero (h : Linked s) (m : ManagerId) :
    (s.managers m).eventIdCounter ≠ 0 := by
  intro hzero
  have hcounter := h.counter m
  rw [hzero] at hcounter
  exact absurd hcounter.symm (Nat.succ_ne_zero _)

/-- A handler without a manager is added, or nothing happens. -/
theorem Linked.add_fresh (h : Linked s) (hx : s.handlers x = some handler)
    (hnone : handler.eventManager = none) (m : ManagerId) (refused : Option ℤ) :
    (∃ errno, s.add m x refused = (.error errno, s)) ∨
      ∃ id interest, (s.managers m).epfd = some interest ∧
        s.add m x refused = (.ok id, s.link m x handler interest) := by
  have hleave : s.leave handler = s := by
    rw [State.leave, hnone]
  have hfree := h.freeId_eq m (s.managers m).registeredEvents.size
  have hsame : s.setManager m (s.managers m) = s := by
    rw [setManager, Function.update_eq_self]
  rw [State.add, hx]
  simp only [hleave, hfree]
  -- the counter is stored even where the kernel refuses
  cases hadd : (s.managers m).epollCtlAdd handler.socket
      ⟨handler.events, (s.managers m).eventIdCounter⟩ refused with
  | error errno => exact Or.inl ⟨errno, congrArg (Prod.mk _) hsame⟩
  | ok manager =>
    unfold EventManager.epollCtlAdd at hadd
    split at hadd
    · cases hadd
    · rename_i interest hepfd
      split at hadd
      · cases hadd
      · split at hadd
        · cases hadd
        · cases hadd
          exact Or.inr ⟨_, interest, hepfd, rfl⟩

/-- **Nothing but the kernel refuses it.** -/
theorem Linked.add_granted (h : Linked s) (hw : Watching s) (hx : s.handlers x = some handler)
    (hnone : handler.eventManager = none) (m : ManagerId) :
    ∃ interest, (s.managers m).epfd = some interest ∧
      (s.add m x none).2 = s.link m x handler interest := by
  obtain ⟨interest, hepfd⟩ := hw.epfd m
  -- a handler that is registered nowhere is not watched
  have hunwatched : interest handler.socket = none := by
    cases hevent : interest handler.socket with
    | none => rfl
    | some event =>
      obtain ⟨y, after, hreg, hy, hsocket⟩ := hw.event m interest _ event hepfd hevent
      have hne : y ≠ x := by
        rintro rfl
        exact h.not_registered hx (Or.inl hnone) m _ hreg
      exact absurd hsocket (h.socket_ne hx hy hne)
  have hleave : s.leave handler = s := by
    rw [State.leave, hnone]
  have hfree := h.freeId_eq m (s.managers m).registeredEvents.size
  refine ⟨interest, hepfd, ?_⟩
  rw [State.add, hx]
  simp only [hleave, hfree, EventManager.epollCtlAdd, hepfd, hunwatched, Option.isSome_none,
    Bool.false_eq_true, if_false]
  rfl

/-- A handler that leaves its manager is the only one that changes. -/
theorem Linked.leave_others (h : Linked s) (hx : s.handlers x = some handler) (hy : y ≠ x) :
    (s.leave handler).handlers y = s.handlers y := by
  unfold State.leave
  cases hm : handler.eventManager with
  | none => rfl
  | some m =>
    by_cases hid : handler.handle = 0
    · simp only [hid, ne_eq, not_true_eq_false, if_false]
    · have hreg := h.registered_handle hx hm hid
      obtain ⟨handler', interest, -, -, heq⟩ := h.remove_eq hreg
      simp only [ne_eq, hid, not_false_eq_true, if_true, heq, unlink_handlers]
      exact Function.update_of_ne hy ..

theorem Linked.destroy_handlers (h : Linked s) (x : HandlerId) :
    (s.destroy x).handlers = Function.update s.handlers x none := by
  cases hx : s.handlers x with
  | none =>
    have hsame : s.destroy x = s := by
      rw [State.destroy, hx]
    rw [hsame, ← hx, Function.update_eq_self]
  | some handler =>
    rw [h.destroy_eq hx, destruct_handlers]
    funext y
    rcases eq_or_ne y x with rfl | hy
    · rw [Function.update_self, Function.update_self]
    · rw [Function.update_of_ne hy, Function.update_of_ne hy, h.leave_others hx hy]

/-- **A handler that is released goes**, unless it is called at the moment. -/
theorem Linked.release_handlers (h : Linked s) (hcalling : s.calling ≠ some x) :
    (s.release x).handlers = Function.update s.handlers x none := by
  unfold State.release
  split
  · rename_i hx
    rw [← hx, Function.update_eq_self]
  · rename_i handler hx
    simp only
    rw [if_neg (show ¬ (s.setHandler x { handler with owned := false }).calling = some x from hcalling),
      (h.setHandler hx false).destroy_handlers, setHandler_handlers, Function.update_idem]

theorem remove_frame (s : State) (m : ManagerId) (id : UInt64) :
    (s.remove m id).2.created = s.created ∧ (s.remove m id).2.calling = s.calling ∧
      (s.remove m id).2.processing = s.processing := by
  unfold State.remove
  split
  · exact ⟨rfl, rfl, rfl⟩
  · split
    · exact ⟨rfl, rfl, rfl⟩
    · split
      · exact ⟨rfl, rfl, rfl⟩
      · exact ⟨rfl, rfl, rfl⟩

theorem leave_frame (s : State) (handler : EventHandler) :
    (s.leave handler).created = s.created ∧ (s.leave handler).calling = s.calling ∧
      (s.leave handler).processing = s.processing := by
  unfold State.leave
  split
  · exact ⟨rfl, rfl, rfl⟩
  · split
    · exact remove_frame s _ _
    · exact ⟨rfl, rfl, rfl⟩

theorem release_frame (s : State) (x : HandlerId) :
    (s.release x).created = s.created ∧ (s.release x).calling = s.calling ∧
      (s.release x).processing = s.processing := by
  unfold State.release
  split
  · exact ⟨rfl, rfl, rfl⟩
  · simp only
    split
    · exact ⟨rfl, rfl, rfl⟩
    · unfold State.destroy
      split
      · exact ⟨rfl, rfl, rfl⟩
      · exact leave_frame _ _

/-- **Several handlers are released.** -/
theorem Linked.releases (h : Linked s) (xs : List HandlerId) (hcalling : ∀ x ∈ xs, s.calling ≠ some x) :
    Linked (xs.foldl State.release s) ∧
      (xs.foldl State.release s).created = s.created ∧
      (xs.foldl State.release s).calling = s.calling ∧
      (xs.foldl State.release s).processing = s.processing ∧
      ∀ y, (xs.foldl State.release s).handlers y = if y ∈ xs then none else s.handlers y := by
  induction xs generalizing s with
  | nil => exact ⟨h, rfl, rfl, rfl, fun y => by simp⟩
  | cons x xs ih =>
    obtain ⟨hcreated, hcalling', hprocessing⟩ := release_frame s x
    obtain ⟨hlinked, hcreated', hcalled, hprocessing', hhandlers⟩ := ih (h.release x)
      fun y hy => by rw [hcalling']; exact hcalling y (List.mem_cons_of_mem x hy)
    refine ⟨hlinked, hcreated'.trans hcreated, hcalled.trans hcalling',
      hprocessing'.trans hprocessing, fun y => ?_⟩
    rw [List.foldl_cons, hhandlers, h.release_handlers (hcalling x List.mem_cons_self)]
    rcases eq_or_ne y x with rfl | hy
    · rw [Function.update_self]
      simp
    · rw [Function.update_of_ne hy]
      simp [hy]

/-- A handler that the program still has stays when its call returns. -/
theorem returned_eq (hcalling : s.calling = some x) (hx : s.handlers x = some handler)
    (howned : handler.owned = true) : s.returned = { s with calling := none } := by
  rw [State.returned, hcalling]
  simp only [hx, howned, if_true]

end Events.State

/-! ## Roles -/

/-- The handlers of `main`, and one for each client that was accepted. -/
def rolesOf (accepted : ℕ) : List Role :=
  fixedRoles ++ (List.range accepted).map .clientSender

theorem rolesOf_succ (accepted : ℕ) :
    rolesOf (accepted + 1) = rolesOf accepted ++ [.clientSender accepted] := by
  rw [rolesOf, rolesOf, List.range_succ, List.map_append, List.append_assoc]
  rfl

theorem rolesOf_length (accepted : ℕ) : (rolesOf accepted).length = 8 + accepted := by
  rw [rolesOf, List.length_append, List.length_map, List.length_range]
  rfl

theorem rolesOf_nodup (accepted : ℕ) : (rolesOf accepted).Nodup := by
  refine List.nodup_append.2 ⟨by decide, ?_, ?_⟩
  · exact List.nodup_range.map fun _ _ heq => by cases heq; rfl
  · rintro role hfixed role' hclient rfl
    obtain ⟨n, -, rfl⟩ := List.mem_map.1 hclient
    simp [fixedRoles] at hfixed

theorem rolesOf_client {accepted n : ℕ} (h : n < accepted) :
    (rolesOf accepted)[8 + n]? = some (.clientSender n) := by
  rw [rolesOf, List.getElem?_append_right (Nat.le_add_right 8 n), List.getElem?_map]
  have hindex : 8 + n - fixedRoles.length = n := by
    rw [show fixedRoles.length = 8 from rfl]
    omega
  rw [hindex, List.getElem?_range h]
  rfl

/-- A role belongs to one handler. -/
theorem object_eq {s : Server} {accepted : ℕ} (h : s.roles = rolesOf accepted) {x : HandlerId}
    {role : Role} (hx : s.roles[x]? = some role) : s.object role = x := by
  obtain ⟨hlt, rfl⟩ := List.getElem?_eq_some_iff.1 hx
  exact (h ▸ rolesOf_nodup accepted).idxOf_getElem x hlt

/-- The handler with this role is still in use. -/
def Role.Held (clients : ClientRepository) : Role → Prop
  | .clientSender number => number ∈ clients.transportSockets.map ClientSenderSocket.number
  | _ => True

/-! ## The clients -/

namespace Client.ClientRepository

variable {r : ClientRepository}

/-- The sockets that are held are different ones of those that were accepted. -/
structure Numbered (r : ClientRepository) : Prop where
  nodup : (r.transportSockets.map ClientSenderSocket.number).Nodup
  below : ∀ n ∈ r.transportSockets.map ClientSenderSocket.number, n < r.accepted

theorem holds_iff (r : ClientRepository) (n : ℕ) :
    r.holds n = true ↔ n ∈ r.transportSockets.map ClientSenderSocket.number := by
  simp [holds]

/-- A message does not change which sockets are held. -/
theorem callSender_numbers (r : ClientRepository) (n : ℕ) (msg : Datagram) (written : Bool) :
    (r.callSender n msg written).transportSockets.map ClientSenderSocket.number =
        r.transportSockets.map ClientSenderSocket.number ∧
      (r.callSender n msg written).accepted = r.accepted := by
  unfold callSender
  split
  · refine ⟨?_, rfl⟩
    rw [List.map_map]
    refine List.map_congr_left fun socket _ => ?_
    simp only [Function.comp_apply, ClientSenderSocket.call]
    split
    · split
      · rfl
      · rfl
    · rfl
  · exact ⟨rfl, rfl⟩

theorem call_transportSockets (r : ClientRepository) (read : Bool) :
    (r.call read).transportSockets =
      r.transportSockets.filter fun socket => !socket.eofReceived := Sweep.sweep_eq_filter _ _

/-- **Those that are erased** are the ones that have seen the end of their stream. -/
theorem Numbered.mem_call_iff (h : Numbered r) (read : Bool) (n : ℕ) :
    n ∈ (r.call read).transportSockets.map ClientSenderSocket.number ↔
      n ∈ r.transportSockets.map ClientSenderSocket.number ∧
        n ∉ (r.transportSockets.filter ClientSenderSocket.eofReceived).map
          ClientSenderSocket.number := by
  have honce : ∀ a ∈ r.transportSockets, ∀ b ∈ r.transportSockets, a.number = b.number → a = b :=
    fun a ha b hb heq => List.inj_on_of_nodup_map h.nodup ha hb heq
  rw [call_transportSockets]
  simp only [List.mem_map, List.mem_filter, Bool.not_eq_true']
  constructor
  · rintro ⟨socket, ⟨hmem, hopen⟩, rfl⟩
    refine ⟨⟨socket, hmem, rfl⟩, ?_⟩
    rintro ⟨other, ⟨hother, hended⟩, heq⟩
    rw [honce other hother socket hmem heq, hopen] at hended
    cases hended
  · rintro ⟨⟨socket, hmem, rfl⟩, hnot⟩
    refine ⟨socket, ⟨hmem, ?_⟩, rfl⟩
    cases hended : socket.eofReceived with
    | false => rfl
    | true => exact absurd ⟨socket, ⟨hmem, hended⟩, rfl⟩ hnot

theorem Numbered.step (h : Numbered r) (e : ClientEvent) : Numbered (r.step e) := by
  cases e with
  | listenSocket accepted added =>
    change Numbered (r.accept accepted added)
    unfold accept ClientRepository.add
    cases accepted with
    | false => exact h
    | true =>
      cases added with
      | false => exact ⟨h.nodup, fun n hn => Nat.lt_succ_of_lt (h.below n hn)⟩
      | true =>
        have hfresh : r.accepted ∉ r.transportSockets.map ClientSenderSocket.number :=
          fun hmem => (h.below _ hmem).false
        refine ⟨?_, ?_⟩
        · simp only [if_true, List.map_append, List.map_cons, List.map_nil]
          exact List.nodup_append.2 ⟨h.nodup, List.nodup_singleton _, fun a ha b hb heq =>
            hfresh (List.mem_singleton.1 hb ▸ heq ▸ ha)⟩
        · intro n hn
          simp only [if_true, List.map_append, List.map_cons, List.map_nil, List.mem_append,
            List.mem_singleton] at hn
          rcases hn with hold | rfl
          · exact Nat.lt_succ_of_lt (h.below n hold)
          · exact Nat.lt_succ_self _
  | senderSocket n msg written =>
    obtain ⟨hsame, haccepted⟩ := r.callSender_numbers n msg written
    exact ⟨hsame ▸ h.nodup, fun k hk => haccepted ▸ h.below k (hsame ▸ hk)⟩
  | repository read =>
    have hsub : ((r.call read).transportSockets.map ClientSenderSocket.number).Sublist
        (r.transportSockets.map ClientSenderSocket.number) := by
      rw [call_transportSockets]
      exact List.filter_sublist.map _
    exact ⟨h.nodup.sublist hsub, fun n hn => h.below n (hsub.subset hn)⟩

end Client.ClientRepository

/-! ## Which handlers are alive -/

/-- The handlers that are alive are those of `main` and those of the clients that are held. The
program has each of them, and each is registered. -/
structure Accounted (objects : State) (roles : List Role) (clients : ClientRepository) : Prop where
  layout : roles = rolesOf clients.accepted
  numbered : clients.Numbered
  created : objects.created = 8 + clients.accepted
  alive : ∀ x, (∃ handler, objects.handlers x = some handler) ↔
    ∃ role, roles[x]? = some role ∧ role.Held clients
  registered : ∀ x handler, objects.handlers x = some handler →
    handler.owned = true ∧ handler.eventManager = some 0 ∧ handler.handle ≠ 0

namespace Accounted

variable {objects objects' : State} {roles : List Role} {clients clients' : ClientRepository}
  {x : HandlerId} {role : Role}

/-- The invariant looks at the handlers only. -/
theorem congr (h : Accounted objects roles clients) (hhandlers : objects'.handlers = objects.handlers)
    (hcreated : objects'.created = objects.created) : Accounted objects' roles clients :=
  ⟨h.layout, h.numbered, hcreated.trans h.created, fun x => hhandlers ▸ h.alive x,
    fun x handler => hhandlers ▸ h.registered x handler⟩

/-- A call that changes no client and no handler. -/
theorem of_clients (h : Accounted objects roles clients)
    (hnumbers : clients'.transportSockets.map ClientSenderSocket.number =
      clients.transportSockets.map ClientSenderSocket.number)
    (haccepted : clients'.accepted = clients.accepted) : Accounted objects roles clients' := by
  have hheld : ∀ role : Role, role.Held clients' ↔ role.Held clients := by
    intro role
    cases role with
    | clientSender n =>
      simp only [Role.Held]
      rw [hnumbers]
    | _ => exact Iff.rfl
  refine ⟨haccepted ▸ h.layout, ⟨hnumbers ▸ h.numbered.nodup, fun n hn => ?_⟩,
    haccepted ▸ h.created, fun x => ?_, h.registered⟩
  · exact haccepted ▸ h.numbered.below n (hnumbers ▸ hn)
  · rw [h.alive x]
    exact exists_congr fun role => and_congr_right fun _ => (hheld role).symm

/-- **One more handler**, for a client that is accepted. -/
theorem accepted (h : Accounted objects roles clients) (added : Bool)
    (handler : EventHandler) (hcreated : objects'.created = objects.created + 1)
    (hhandlers : objects'.handlers =
      Function.update objects.handlers objects.created (if added then some handler else none))
    (hregistered : added = true → handler.owned = true ∧ handler.eventManager = some 0 ∧
      handler.handle ≠ 0) :
    Accounted objects' (roles ++ [.clientSender clients.accepted])
      (clients.step (.listenSocket true added)) := by
  have haccepted : (clients.step (.listenSocket true added)).accepted = clients.accepted + 1 := rfl
  have hnumbers : ∀ n, n ∈ (clients.step (.listenSocket true added)).transportSockets.map
      ClientSenderSocket.number ↔ n ∈ clients.transportSockets.map ClientSenderSocket.number ∨
        added = true ∧ n = clients.accepted := by
    intro n
    cases added with
    | false => simp [ClientRepository.step, ClientRepository.accept, ClientRepository.add]
    | true => simp [ClientRepository.step, ClientRepository.accept, ClientRepository.add]
  have hlength : roles.length = objects.created := by
    rw [h.layout, rolesOf_length, h.created]
  refine ⟨?_, h.numbered.step _, by rw [hcreated, h.created, haccepted, Nat.add_assoc], fun x => ?_, ?_⟩
  · rw [haccepted, rolesOf_succ, ← h.layout]
  · rw [hhandlers]
    rcases eq_or_ne x objects.created with rfl | hx
    · rw [Function.update_self, List.getElem?_append_right hlength.le, hlength, Nat.sub_self]
      constructor
      · rintro ⟨handler', heq⟩
        split at heq
        · rename_i hadded
          exact ⟨_, rfl, (hnumbers _).2 (Or.inr ⟨hadded, rfl⟩)⟩
        · cases heq
      · rintro ⟨role, hrole, hheld⟩
        cases hrole
        rcases (hnumbers _).1 hheld with hold | ⟨rfl, -⟩
        · exact absurd (h.numbered.below _ hold) (Nat.lt_irrefl _)
        · exact ⟨handler, rfl⟩
    · rw [Function.update_of_ne hx, h.alive x]
      constructor
      · rintro ⟨role, hrole, hheld⟩
        obtain ⟨hlt, -⟩ := List.getElem?_eq_some_iff.1 hrole
        refine ⟨role, (List.getElem?_append_left hlt).trans hrole, ?_⟩
        cases role with
        | clientSender n => exact (hnumbers n).2 (Or.inl hheld)
        | _ => trivial
      · rintro ⟨role, hrole, hheld⟩
        have hlt : x < roles.length := by
          obtain ⟨hlt, -⟩ := List.getElem?_eq_some_iff.1 hrole
          rw [List.length_append, List.length_singleton, hlength] at hlt
          rw [hlength]
          exact Nat.lt_of_le_of_ne (Nat.le_of_lt_succ hlt) hx
        rw [List.getElem?_append_left hlt] at hrole
        refine ⟨role, hrole, ?_⟩
        cases role with
        | clientSender n =>
          rcases (hnumbers n).1 hheld with hold | ⟨-, rfl⟩
          · exact hold
          · -- the new number is that of no older handler
            have hmem := List.mem_of_getElem? hrole
            rw [h.layout, rolesOf, List.mem_append] at hmem
            rcases hmem with hfixed | hclient
            · simp [fixedRoles] at hfixed
            · obtain ⟨k, hk, heq⟩ := List.mem_map.1 hclient
              cases heq
              exact absurd (List.mem_range.1 hk) (Nat.lt_irrefl _)
        | _ => trivial
  · intro x handler' hx
    rw [hhandlers] at hx
    rcases eq_or_ne x objects.created with rfl | hne
    · rw [Function.update_self] at hx
      split at hx
      · rename_i hadded
        cases hx
        exact hregistered hadded
      · cases hx
    · rw [Function.update_of_ne hne] at hx
      exact h.registered x handler' hx

/-- **Fewer handlers**, when those of clients that have ended go. -/
theorem erased (h : Accounted objects roles clients) (read : Bool) {xs : List HandlerId}
    (hxs : ∀ x n, roles[x]? = some (.clientSender n) → (x ∈ xs ↔
      n ∈ (clients.transportSockets.filter ClientSenderSocket.eofReceived).map
        ClientSenderSocket.number))
    (hclients : ∀ x ∈ xs, ∃ n, roles[x]? = some (.clientSender n))
    (hcreated : objects'.created = objects.created)
    (hhandlers : ∀ x, objects'.handlers x = if x ∈ xs then none else objects.handlers x) :
    Accounted objects' roles (clients.step (.repository read)) := by
  refine ⟨h.layout, h.numbered.step _, hcreated.trans h.created, fun x => ?_, fun x handler hx => ?_⟩
  · rw [hhandlers]
    by_cases hmem : x ∈ xs
    · obtain ⟨n, hrole⟩ := hclients x hmem
      rw [if_pos hmem]
      refine iff_of_false (fun ⟨handler, heq⟩ => by cases heq) ?_
      rintro ⟨role, hrole', hheld⟩
      rw [hrole] at hrole'
      cases hrole'
      exact ((h.numbered.mem_call_iff read n).1 hheld).2 ((hxs x n hrole).1 hmem)
    · rw [if_neg hmem, h.alive x]
      refine exists_congr fun role => and_congr_right fun hrole => ?_
      cases role with
      | clientSender n =>
        have hnot := mt (hxs x n hrole).2 hmem
        exact ((h.numbered.mem_call_iff read n).trans (and_iff_left hnot)).symm
      | _ => exact Iff.rfl
  · rw [hhandlers] at hx
    split at hx
    · cases hx
    · exact h.registered x handler hx

end Accounted

namespace Server

variable {s s' : Server} {r : Results} {role : Role} {x : HandlerId} {platform : Platform}
  {e : ServerEvent} {sockets : Sockets} {verbose : Bool} {events : List ServerEvent}

/-- The handlers that are erased are those of clients. -/
theorem mem_erased (h : Accounted s.objects s.roles s.daemon.clients) :
    (∀ x n, s.roles[x]? = some (.clientSender n) → (x ∈ s.erased ↔
      n ∈ (s.daemon.clients.transportSockets.filter ClientSenderSocket.eofReceived).map
        ClientSenderSocket.number)) ∧
    ∀ x ∈ s.erased, ∃ n, s.roles[x]? = some (.clientSender n) := by
  have hrole : ∀ x ∈ s.erased, ∃ socket ∈ s.daemon.clients.transportSockets.filter
      ClientSenderSocket.eofReceived, s.roles[x]? = some (.clientSender socket.number) := by
    intro x hx
    obtain ⟨socket, hmem, rfl⟩ := List.mem_map.1 hx
    rw [List.mem_reverse] at hmem
    have hlt := h.numbered.below _ (List.mem_map_of_mem (List.mem_filter.1 hmem).1)
    have hat : s.roles[8 + socket.number]? = some (.clientSender socket.number) := by
      rw [h.layout]
      exact rolesOf_client hlt
    exact ⟨socket, hmem, by rw [object_eq h.layout hat]; exact hat⟩
  refine ⟨fun x n hx => ⟨fun hmem => ?_, fun hmem => ?_⟩, fun x hx => ?_⟩
  · obtain ⟨socket, hsocket, hat⟩ := hrole x hmem
    rw [hx] at hat
    cases hat
    exact List.mem_map_of_mem hsocket
  · obtain ⟨socket, hsocket, rfl⟩ := List.mem_map.1 hmem
    exact List.mem_map.2 ⟨socket, List.mem_reverse.2 hsocket, object_eq h.layout hx⟩
  · obtain ⟨socket, -, hat⟩ := hrole x hx
    exact ⟨_, hat⟩

/-- The handler that a new client gets. -/
def newHandler (fd : Fd) : EventHandler := ⟨fd, epollIn, none, 0, true⟩

/-- What a fresh handler is like. -/
theorem create_fresh {objects : State} {fd : Fd} (hfd : objects.descriptors fd = none) :
    (objects.create fd epollIn).handlers =
        Function.update objects.handlers objects.created (some (newHandler fd)) ∧
      (objects.create fd epollIn).created = objects.created + 1 ∧
      (objects.create fd epollIn).calling = objects.calling := by
  rw [State.create_eq hfd]
  exact ⟨rfl, rfl, rfl⟩

theorem create_self {objects : State} {fd : Fd} (hfd : objects.descriptors fd = none) :
    (objects.create fd epollIn).handlers objects.created = some (newHandler fd) := by
  rw [(create_fresh hfd).1]
  exact Function.update_self ..

/-- **What the listening socket does**: nothing, or it makes a handler, which is added or goes. -/
theorem accept_cases (hlinked : s.objects.Linked) (r : Results) :
    s.accept r = (s.objects, s.roles, .listenSocket false false) ∨
    ∃ fd, s.objects.descriptors fd = none ∧
      (s.accept r = ((s.objects.create fd epollIn).release s.objects.created,
          s.roles ++ [.clientSender s.daemon.clients.accepted], .listenSocket true false) ∨
        ∃ interest, ((s.objects.create fd epollIn).managers 0).epfd = some interest ∧
          s.accept r = ((s.objects.create fd epollIn).link 0 s.objects.created (newHandler fd) interest,
            s.roles ++ [.clientSender s.daemon.clients.accepted], .listenSocket true true)) := by
  unfold accept
  cases r.accepted with
  | none => exact Or.inl rfl
  | some fd =>
    simp only
    cases hfd : s.objects.descriptors fd with
    | some y => exact Or.inl rfl
    | none =>
      simp only [Option.isSome_none, Bool.false_eq_true, if_false]
      refine Or.inr ⟨fd, hfd, ?_⟩
      rcases (hlinked.create fd epollIn).add_fresh (create_self hfd) rfl 0 r.refused with
        ⟨errno, heq⟩ | ⟨id, interest, hepfd, heq⟩
      · rw [heq]
        exact Or.inl rfl
      · rw [heq]
        exact Or.inr ⟨interest, hepfd, rfl⟩

/-- **The listening socket** makes one handler at most, and the others stay as they are. -/
theorem accept_accounted (h : Accounted s.objects s.roles s.daemon.clients)
    (hlinked : s.objects.Linked) (hcalling : s.objects.calling ≠ some s.objects.created)
    (r : Results) : (s.accept r).1.calling = s.objects.calling ∧
    Accounted (s.accept r).1 (s.accept r).2.1 (s.daemon.clients.step (s.accept r).2.2) := by
  rcases accept_cases hlinked r with heq | ⟨fd, hfd, heq | ⟨interest, -, heq⟩⟩ <;> rw [heq]
  · exact ⟨rfl, h⟩
  all_goals
    obtain ⟨hhandlers, hcreated, hsame⟩ := create_fresh hfd
    have hlinked' := hlinked.create fd epollIn
  · obtain ⟨hcreated', hsame', -⟩ := State.release_frame (s.objects.create fd epollIn) s.objects.created
    have hgone := hlinked'.release_handlers (x := s.objects.created) (hsame ▸ hcalling)
    rw [hhandlers, Function.update_idem] at hgone
    exact ⟨hsame'.trans hsame, h.accepted false (newHandler fd) (hcreated'.trans hcreated) hgone
      fun hadded => by cases hadded⟩
  · refine ⟨hsame, h.accepted true ⟨fd, epollIn, some 0,
      ((s.objects.create fd epollIn).managers 0).eventIdCounter, true⟩ hcreated ?_
        fun _ => ⟨rfl, rfl, hlinked'.counter_ne_zero 0⟩⟩
    rw [State.link_handlers, hhandlers, Function.update_idem]
    rfl

/-- The handlers that there were keep their roles. -/
theorem accept_roles (hlinked : s.objects.Linked) (hx : s.roles[x]? = some role) (r : Results) :
    (s.accept r).2.1[x]? = some role := by
  have hlt : x < s.roles.length := (List.getElem?_eq_some_iff.1 hx).1
  rcases accept_cases hlinked r with heq | ⟨fd, -, heq | ⟨interest, -, heq⟩⟩ <;> rw [heq]
  · exact hx
  · exact (List.getElem?_append_left hlt).trans hx
  · exact (List.getElem?_append_left hlt).trans hx

theorem accept_changes (hlinked : s.objects.Linked) (r : Results)
    (hwrap : (s.accept r).1.Unwrapped) :
    ReflTransGen State.Change s.objects (s.accept r).1 := by
  rcases accept_cases hlinked r with heq | ⟨fd, hfd, heq | ⟨interest, hepfd, heq⟩⟩ <;>
    rw [heq] at hwrap ⊢
  · exact .head (.create hfd) ((hlinked.create fd epollIn).release_changes _)
  · exact .head (.create hfd)
      (.single (.link (create_self hfd) (Or.inl rfl) rfl hepfd (hwrap 0)))

/-! ## A call -/

theorem foldl_release_given (xs : List HandlerId) (objects : State) :
    (xs.foldl State.release objects).given = objects.given := by
  induction xs generalizing objects with
  | nil => rfl
  | cons x xs ih => rw [List.foldl_cons, ih, State.given_release]

/-- A call gives out one handle at most, and takes none back. -/
theorem call_given (role : Role) (r : Results) (s : Server) (m : ManagerId) :
    s.objects.given m ≤ (s.call role r).1.given m ∧
      (s.call role r).1.given m ≤ s.objects.given m + 1 := by
  cases role with
  | clientListenSocket =>
    show s.objects.given m ≤ (s.accept r).1.given m ∧ (s.accept r).1.given m ≤ s.objects.given m + 1
    unfold accept
    cases r.accepted with
    | none => exact ⟨Nat.le_refl _, Nat.le_succ _⟩
    | some fd =>
      simp only
      split
      · exact ⟨Nat.le_refl _, Nat.le_succ _⟩
      · have hadd := State.given_add (s.objects.create fd epollIn) 0 s.objects.created r.refused m
        rw [State.given_create] at hadd
        split
        · rename_i heq
          rw [heq] at hadd
          exact hadd
        · rename_i heq
          rw [heq] at hadd
          simp only [State.given_release]
          exact hadd
  | clientRepository =>
    show s.objects.given m ≤ (s.erased.foldl State.release s.objects).given m ∧
      (s.erased.foldl State.release s.objects).given m ≤ s.objects.given m + 1
    rw [foldl_release_given]
    exact ⟨Nat.le_refl _, Nat.le_succ _⟩
  | _ => exact ⟨Nat.le_refl _, Nat.le_succ _⟩

theorem releases_changes (xs : List HandlerId) {objects : State} (h : objects.Linked) :
    ReflTransGen State.Change objects (xs.foldl State.release objects) := by
  induction xs generalizing objects with
  | nil => exact .refl
  | cons x xs ih => exact (h.release_changes x).trans (ih (h.release x))

/-- **A call is a sequence of changes.** -/
theorem call_changes (hlinked : s.objects.Linked) (role : Role) (r : Results)
    (hwrap : (s.call role r).1.Unwrapped) :
    ReflTransGen State.Change s.objects (s.call role r).1 := by
  cases role with
  | clientListenSocket => exact accept_changes hlinked r hwrap
  | clientRepository => exact releases_changes _ hlinked
  | _ => exact .refl

/-- **What a call does to the handlers that are alive.** -/
theorem call_accounted (h : Accounted s.objects s.roles s.daemon.clients)
    (hlinked : s.objects.Linked) (hcalling : s.objects.calling = some x)
    (hx : s.roles[x]? = some role) (r : Results) :
    (s.call role r).1.calling = some x ∧
      Accounted (s.call role r).1 (s.call role r).2.1
        (Run.run ClientRepository.step s.daemon.clients (s.call role r).2.2.clientEvents) := by
  cases role with
  | clientListenSocket =>
    have hother : s.objects.calling ≠ some s.objects.created := by
      rw [hcalling]
      intro heq
      obtain ⟨hlt, -⟩ := List.getElem?_eq_some_iff.1 hx
      rw [h.layout, rolesOf_length, ← h.created, Option.some.inj heq] at hlt
      exact absurd hlt (Nat.lt_irrefl _)
    obtain ⟨hsame, hafter⟩ := accept_accounted h hlinked hother r
    exact ⟨hsame.trans hcalling, hafter⟩
  | clientRepository =>
    obtain ⟨hxs, hclients⟩ := mem_erased h
    -- the repository is no client, so it does not erase the handler that is called
    have hnot : ∀ y ∈ s.erased, s.objects.calling ≠ some y := by
      intro y hy heq
      rw [hcalling] at heq
      cases heq
      obtain ⟨n, hn⟩ := hclients x hy
      rw [hx] at hn
      cases hn
    obtain ⟨-, hcreated, hcalled, -, hhandlers⟩ := hlinked.releases s.erased hnot
    exact ⟨hcalled.trans hcalling, h.erased r.read hxs hclients hcreated hhandlers⟩
  | clientSender n =>
    obtain ⟨hnumbers, haccepted⟩ := s.daemon.clients.callSender_numbers n r.request r.written
    exact ⟨hcalling, h.of_clients hnumbers haccepted⟩
  | _ => exact ⟨hcalling, h⟩

/-- The handler that is called is alive when its call is over. -/
theorem call_alive (h : Accounted s.objects s.roles s.daemon.clients)
    (hlinked : s.objects.Linked) (hcalling : s.objects.calling = some x)
    (hx : s.roles[x]? = some role) (hheld : role.Held s.daemon.clients) (r : Results) :
    ∃ handler, (s.call role r).1.handlers x = some handler ∧ handler.owned = true := by
  obtain ⟨-, hafter⟩ := call_accounted h hlinked hcalling hx r
  have hroles : (s.call role r).2.1[x]? = some role := by
    cases role with
    | clientListenSocket => exact accept_roles hlinked hx r
    | _ => exact hx
  have hheld' : role.Held (Run.run ClientRepository.step s.daemon.clients
      (s.call role r).2.2.clientEvents) := by
    cases role with
    | clientSender n =>
      obtain ⟨hnumbers, -⟩ := s.daemon.clients.callSender_numbers n r.request r.written
      show n ∈ (s.daemon.clients.callSender n r.request r.written).transportSockets.map _
      rw [hnumbers]
      exact hheld
    | _ => trivial
  obtain ⟨handler, hhandler⟩ := (hafter.alive x).2 ⟨role, hroles, hheld'⟩
  exact ⟨handler, hhandler, (hafter.registered x handler hhandler).1⟩

/-! ## A turn of the loop -/

/-- What is promised of the process between two turns. -/
structure Sound (s : Server) : Prop where
  linked : s.objects.Linked
  watching : s.objects.Watching
  accounted : Accounted s.objects s.roles s.daemon.clients
  returned : s.objects.calling = none

/-- The server in the call of a handler. -/
def calling (s : Server) : Server := { s with objects := s.objects.nextEvent }

theorem calling_given (s : Server) : s.calling.objects.given = s.objects.given :=
  State.given_nextEvent s.objects

/-- The next turn leaves the handlers alone. -/
theorem Sound.calling (h : Sound s) :
    s.calling.objects.Linked ∧ s.calling.objects.Watching ∧
      Accounted s.calling.objects s.roles s.daemon.clients := by
  have hsame : s.objects.nextEvent.handlers = s.objects.handlers ∧
      s.objects.nextEvent.created = s.objects.created := by
    rcases h.linked.nextEvent_cases with heq | ⟨m, -, heq⟩ | ⟨m, handle, handles, -, -, heq⟩ |
      ⟨m, handle, handles, y, handler, -, -, -, -, heq⟩ <;> rw [heq] <;> exact ⟨rfl, rfl⟩
  exact ⟨h.linked.nextEvent, h.watching.nextEvent h.linked, h.accounted.congr hsame.1 hsame.2⟩

/-- A handler that is called is one of `main` or that of a client that is held. -/
theorem Sound.called (h : Sound s) (hcalling : s.calling.objects.calling = some x) :
    ∃ role m handle handles, s.roles[x]? = some role ∧ role.Held s.daemon.clients ∧
      s.objects.processing = some (m, handle :: handles) ∧ s.objects.registered m handle = some x ∧
      s.calling.objects = ({ s.objects with
        processing := some (m, handles), calling := some x } : State).record m
          (.honoured handle x) := by
  change s.objects.nextEvent.calling = some x at hcalling
  rcases h.linked.nextEvent_cases with heq | ⟨m, -, heq⟩ | ⟨m, handle, handles, -, -, heq⟩ |
    ⟨m, handle, handles, y, handler, -, hprocessing, hreg, hy, heq⟩
  · rw [heq, h.returned] at hcalling
    cases hcalling
  · rw [heq, show _ = none from h.returned] at hcalling
    cases hcalling
  · rw [heq, show _ = none from h.returned] at hcalling
    cases hcalling
  · rw [heq] at hcalling
    cases hcalling
    obtain ⟨role, hrole, hheld⟩ := (h.accounted.alive x).1 ⟨handler, hy⟩
    exact ⟨role, m, handle, handles, hrole, hheld, hprocessing, hreg, heq⟩

/-- **A turn** calls nobody, or the handler of the next handle. -/
theorem Sound.nextEvent_cases (h : Sound s) (hstep : s.nextEvent platform r = .ok s') :
    s.calling.objects.calling = none ∧ s' = s.calling ∨
      ∃ x role daemon, s.calling.objects.calling = some x ∧ s.roles[x]? = some role ∧
        role.Held s.daemon.clients ∧
        s.daemon.step platform (s.calling.call role r).2.2 = .ok daemon ∧
        s' = ⟨(s.calling.call role r).1.returned, (s.calling.call role r).2.1, daemon⟩ := by
  unfold Server.nextEvent at hstep
  cases hcalling : s.calling.objects.calling with
  | none =>
    have hnone : s.objects.nextEvent.calling = none := hcalling
    simp only [hnone, Option.bind_none] at hstep
    cases hstep
    exact Or.inl ⟨rfl, rfl⟩
  | some x =>
    have hsome : s.objects.nextEvent.calling = some x := hcalling
    obtain ⟨role, -, -, -, hrole, hheld, -⟩ := h.called hcalling
    simp only [hsome, Option.bind_some, hrole] at hstep
    obtain ⟨daemon, hdaemon, hs⟩ := bind_eq_ok.1 hstep
    cases hs
    exact Or.inr ⟨x, role, daemon, rfl, hrole, hheld, hdaemon, rfl⟩

/-- **A call that is over.** -/
theorem Sound.call (h : Sound s) (hcalling : s.calling.objects.calling = some x)
    (hrole : s.roles[x]? = some role) (hheld : role.Held s.daemon.clients) {daemon : Daemon}
    (hdaemon : s.daemon.step platform (s.calling.call role r).2.2 = .ok daemon)
    (hwrap : (s.calling.call role r).1.returned.Unwrapped) :
    Sound ⟨(s.calling.call role r).1.returned, (s.calling.call role r).2.1, daemon⟩ ∧
      (s.calling.call role r).1.returned = { (s.calling.call role r).1 with calling := none } ∧
      ReflTransGen State.Change s.calling.objects (s.calling.call role r).1.returned := by
  obtain ⟨hlinked, hw, haccounted⟩ := h.calling
  obtain ⟨hcalled, hafter⟩ := call_accounted (s := s.calling) haccounted hlinked hcalling hrole r
  obtain ⟨handler, hhandler, howned⟩ :=
    call_alive (s := s.calling) haccounted hlinked hcalling hrole hheld r
  have hreturned := State.returned_eq hcalled hhandler howned
  have hwrap' : (s.calling.call role r).1.Unwrapped := fun m => by
    have hm := hwrap m
    rwa [State.given_returned] at hm
  have hchanges := call_changes (s := s.calling) hlinked role r hwrap'
  obtain ⟨hlinked', hw'⟩ := State.changes_inv (P := State.Watching) State.Change.watching hlinked hw hchanges
  have hclients := (Daemon.step_parts hdaemon).clients
  rw [hreturned]
  refine ⟨⟨hlinked'.progress _ none, ⟨hw'.epfd, hw'.event, hw'.owner⟩, ?_, rfl⟩, rfl,
    hchanges.tail .finished⟩
  rw [hclients]
  exact hafter.congr rfl rfl

theorem step_given (h : s.step platform e = .ok s') (m : ManagerId) :
    s.objects.given m ≤ s'.objects.given m ∧ s'.objects.given m ≤ s.objects.given m + 1 := by
  cases e with
  | processEvents ready =>
    cases h
    unfold processEvents
    split
    · exact ⟨Nat.le_refl _, Nat.le_succ _⟩
    · simp only [State.given_processEvents]
      exact ⟨Nat.le_refl _, Nat.le_succ _⟩
  | nextEvent r =>
    change s.nextEvent platform r = .ok s' at h
    unfold Server.nextEvent at h
    have hsame := congrFun (calling_given s) m
    cases hrole : s.calling.objects.calling.bind (s.roles[·]?) with
    | none =>
      have hnone : s.objects.nextEvent.calling.bind (s.roles[·]?) = none := hrole
      simp only [hnone] at h
      cases h
      exact ⟨hsame.ge, hsame.le.trans (Nat.le_succ _)⟩
    | some role =>
      have hsome : s.objects.nextEvent.calling.bind (s.roles[·]?) = some role := hrole
      simp only [hsome] at h
      obtain ⟨daemon, -, hs⟩ := bind_eq_ok.1 h
      cases hs
      rw [← hsame]
      simp only [State.given_returned]
      exact call_given role r s.calling m

/-- **Whatever happens next, the handlers stay accounted for**, as long as no counter has wrapped. -/
theorem step_sound (h : Sound s) (hstep : s.step platform e = .ok s') (hwrap : s'.objects.Unwrapped) :
    Sound s' := by
  cases e with
  | processEvents ready =>
    cases hstep
    unfold processEvents
    split
    · exact h
    · have hsame : (s.objects.processEvents 0 ready).handlers = s.objects.handlers ∧
          (s.objects.processEvents 0 ready).created = s.objects.created ∧
          (s.objects.processEvents 0 ready).calling = s.objects.calling := by
        unfold State.processEvents
        split
        · exact ⟨rfl, rfl, rfl⟩
        · rw [h.linked.expiredHandlers_eq]
          exact ⟨rfl, rfl, rfl⟩
      exact ⟨h.linked.processEvents 0 ready, h.watching.processEvents h.linked 0 ready,
        h.accounted.congr hsame.1 hsame.2.1, hsame.2.2.trans h.returned⟩
  | nextEvent r =>
    rcases h.nextEvent_cases hstep with ⟨hnone, rfl⟩ | ⟨x, role, daemon, hcalling, hrole, hheld, hdaemon, rfl⟩
    · obtain ⟨hlinked, hw, haccounted⟩ := h.calling
      exact ⟨hlinked, hw, haccounted, hnone⟩
    · exact (h.call hcalling hrole hheld hdaemon hwrap).1

/-! ## The start -/

/-- The handlers of `main` that are made, and those of them that are added. -/
structure Started (sockets : Sockets) (made : ℕ) (added : List (Fin 8)) (objects : State) : Prop where
  linked : objects.Linked
  watching : objects.Watching
  returned : objects.calling = none
  idle : objects.processing = none
  uncalled : honours (objects.history 0) = []
  created : objects.created = made
  given : ∀ m, objects.given m ≤ added.length
  handlers : ∀ i : Fin 8, i.val < made → ∃ handler, objects.handlers i.val = some handler ∧
    handler.socket = sockets.socket i ∧ handler.owned = true ∧
    if i ∈ added then handler.eventManager = some 0 ∧ handler.handle ≠ 0
    else handler.eventManager = none

variable {made : ℕ} {added : List (Fin 8)} {objects : State}

theorem started_init : Started sockets 0 [] .init :=
  ⟨State.linked_init, State.watching_init, rfl, rfl, rfl, rfl, fun _ => Nat.le_refl 0,
    fun _ hi => absurd hi (Nat.not_lt_zero _)⟩

theorem Started.create (h : Started sockets made added objects) (i : Fin 8) (hi : i.val = made)
    (hnew : i ∉ added) : Started sockets (made + 1) added
      (objects.create (sockets.socket i) epollIn) := by
  have hfd : objects.descriptors (sockets.socket i) = none := by
    cases hopen : objects.descriptors (sockets.socket i) with
    | none => rfl
    | some x =>
      obtain ⟨handler, hx, hsocket⟩ := h.watching.owner _ x hopen
      have hlt : x < made := h.created ▸ h.linked.lt_created hx
      obtain ⟨handler', hx', hsocket', -⟩ := h.handlers ⟨x, hlt.trans (hi ▸ i.isLt)⟩ hlt
      rw [hx] at hx'
      cases hx'
      -- another handler has another descriptor
      have hsame := sockets.injective (hsocket'.symm.trans hsocket)
      rw [← hi, ← hsame] at hlt
      exact absurd hlt (Nat.lt_irrefl _)
  obtain ⟨hhandlers, hcreated, hcalling⟩ := create_fresh hfd
  have hchange : State.Change objects (objects.create (sockets.socket i) epollIn) := .create hfd
  have hproceeds := hchange.proceeds h.linked
  refine ⟨h.linked.create _ _, h.watching.create h.linked hfd epollIn, hcalling.trans h.returned,
    hproceeds.processing.trans h.idle, hproceeds.honours_eq h.uncalled,
    by rw [hcreated, h.created], fun m => ?_, fun j hj => ?_⟩
  · rw [State.given_create]
    exact h.given m
  · rw [hhandlers, h.created]
    rcases Nat.lt_succ_iff_lt_or_eq.1 hj with hlt | heq
    · rw [Function.update_of_ne hlt.ne]
      exact h.handlers j hlt
    · obtain rfl : j = i := Fin.ext (heq.trans hi.symm)
      rw [heq, Function.update_self]
      exact ⟨_, rfl, rfl, rfl, by rw [if_neg hnew]; rfl⟩

theorem Started.add (h : Started sockets made added objects) (i : Fin 8) (hi : i.val < made)
    (hnew : i ∉ added) (hfew : added.length < 8) :
    Started sockets made (i :: added) (objects.add 0 i.val none).2 := by
  obtain ⟨handler, hx, hsocket, howned, hif⟩ := h.handlers i hi
  rw [if_neg hnew] at hif
  obtain ⟨interest, hepfd, hadd⟩ := h.linked.add_granted h.watching hx hif 0
  have hgiven : ∀ m, (objects.link 0 i.val handler interest).given m ≤ (i :: added).length := by
    intro m
    have hle := (State.given_add objects 0 i.val none m).2
    rw [hadd] at hle
    exact hle.trans (Nat.succ_le_succ (h.given m))
  have hchange : State.Change objects (objects.link 0 i.val handler interest) := by
    refine .link hx (Or.inl hif) rfl hepfd ((hgiven 0).trans_lt ?_)
    rw [List.length_cons]
    omega
  rw [hadd]
  have hproceeds := hchange.proceeds h.linked
  refine ⟨hchange.linked h.linked, State.Change.watching _ _ h.linked h.watching hchange, h.returned,
    h.idle, hproceeds.honours_eq h.uncalled, h.created, hgiven, fun j hj => ?_⟩
  rw [State.link_handlers]
  rcases eq_or_ne j i with rfl | hne
  · rw [Function.update_self]
    refine ⟨_, rfl, hsocket, howned, ?_⟩
    rw [if_pos List.mem_cons_self]
    exact ⟨rfl, h.linked.counter_ne_zero 0⟩
  · rw [Function.update_of_ne (fun heq => hne (Fin.ext heq))]
    obtain ⟨handler', hj', hsocket', howned', hif'⟩ := h.handlers j hj
    refine ⟨handler', hj', hsocket', howned', ?_⟩
    simpa [hne] using hif'

theorem initializeHandlers_started (sockets : Sockets) :
    Started sockets 8 [7, 5, 4, 3, 6, 2, 1, 0]
      (Run.run State.step .init sockets.initializeHandlers) :=
  started_init.create 0 rfl (by decide) |>.add 0 (by decide) (by decide) (by decide)
    |>.create 1 rfl (by decide) |>.add 1 (by decide) (by decide) (by decide)
    |>.create 2 rfl (by decide) |>.add 2 (by decide) (by decide) (by decide)
    |>.create 3 rfl (by decide) |>.create 4 rfl (by decide) |>.create 5 rfl (by decide)
    |>.create 6 rfl (by decide) |>.create 7 rfl (by decide)
    |>.add 6 (by decide) (by decide) (by decide) |>.add 3 (by decide) (by decide) (by decide)
    |>.add 4 (by decide) (by decide) (by decide) |>.add 5 (by decide) (by decide) (by decide)
    |>.add 7 (by decide) (by decide) (by decide)

/-- **The start**: all handlers of `main` are there and registered. -/
theorem create_sound (sockets : Sockets) (verbose : Bool) : Sound (create sockets verbose) := by
  have hstarted := initializeHandlers_started sockets
  have hadded : ∀ i : Fin 8, i ∈ ([7, 5, 4, 3, 6, 2, 1, 0] : List (Fin 8)) := by decide
  have hlt : ∀ {x handler}, (Run.run State.step .init sockets.initializeHandlers).handlers x =
      some handler → x < 8 := fun hx => hstarted.created ▸ hstarted.linked.lt_created hx
  refine ⟨hstarted.linked, hstarted.watching, ⟨rfl, ⟨List.nodup_nil, fun n hn => by cases hn⟩,
    hstarted.created, fun x => ?_, fun x handler hx => ?_⟩, hstarted.returned⟩
  · constructor
    · rintro ⟨handler, hx⟩
      have hfixed : ∀ x < 8, ∃ role, fixedRoles[x]? = some role ∧ role.Held .create := by
        intro x hx
        interval_cases x <;> exact ⟨_, rfl, trivial⟩
      exact hfixed x (hlt hx)
    · rintro ⟨role, hrole, -⟩
      obtain ⟨hx, -⟩ := List.getElem?_eq_some_iff.1 hrole
      obtain ⟨handler, hhandler, -⟩ := hstarted.handlers ⟨x, hx⟩ hx
      exact ⟨handler, hhandler⟩
  · obtain ⟨handler', hx', -, howned, hif⟩ := hstarted.handlers ⟨x, hlt hx⟩ (hlt hx)
    rw [if_pos (hadded _)] at hif
    obtain rfl : handler' = handler := Option.some.inj (hx'.symm.trans hx)
    exact ⟨howned, hif.1, hif.2⟩

/-! ## Runs -/

theorem run_given (h : events.foldlM (step platform) s = .ok s') (m : ManagerId) :
    s.objects.given m ≤ s'.objects.given m ∧
      s'.objects.given m ≤ s.objects.given m + events.length := by
  induction events generalizing s with
  | nil =>
    cases h
    exact ⟨Nat.le_refl _, Nat.le_refl _⟩
  | cons e events ih =>
    obtain ⟨s₁, hstep, hrest⟩ := bind_eq_ok.1 (show s.step platform e >>= _ = _ from h)
    obtain ⟨hle, hge⟩ := step_given hstep m
    obtain ⟨hle', hge'⟩ := ih hrest
    rw [List.length_cons]
    exact ⟨hle.trans hle', by omega⟩

/-- A run gives out no more handles than it has events, after those of the start. -/
theorem unwrapped_of_length (h : Server.run platform sockets verbose events = .ok s)
    (hlength : events.length < 2 ^ 63) : s.objects.Unwrapped := by
  intro m
  have hgiven := (run_given h m).2
  have hstart := State.given_run_le sockets.initializeHandlers m
  have hcreate : (create sockets verbose).objects.given m ≤ 16 := hstart
  omega

/-! ## What is open -/

/-- A descriptor is watched under the handle of the handler that owns it. -/
theorem Sound.watched (h : Sound s) : ∃ interest, (s.objects.managers 0).epfd = some interest ∧
    ∀ fd, (interest fd).map EpollEvent.data =
      (s.objects.descriptors fd).bind fun x => (s.objects.handlers x).map EventHandler.handle := by
  obtain ⟨interest, hepfd⟩ := h.watching.epfd 0
  refine ⟨interest, hepfd, fun fd => ?_⟩
  cases hopen : s.objects.descriptors fd with
  | none =>
    cases hevent : interest fd with
    | none => rfl
    | some event =>
      obtain ⟨x, handler, -, hx, hsocket⟩ := h.watching.event 0 interest fd event hepfd hevent
      rw [← hsocket, h.linked.descriptors x handler hx] at hopen
      cases hopen
  | some x =>
    obtain ⟨handler, hx, rfl⟩ := h.watching.owner fd x hopen
    obtain ⟨-, hm, hid⟩ := h.accounted.registered x handler hx
    have hreg := h.linked.registered_handle hx hm hid
    obtain ⟨interest', event, hepfd', hevent⟩ := h.linked.watched 0 _ x handler hreg hx
    rw [hepfd] at hepfd'
    cases hepfd'
    -- whoever is watched there is the owner of the descriptor
    obtain ⟨y, after, hreg', hy, hsocket⟩ := h.watching.event 0 interest _ event hepfd hevent
    have hyx : y = x := by
      by_contra hne
      exact h.linked.socket_ne hx hy hne hsocket
    subst hyx
    obtain ⟨handler', hy', -, hid', -⟩ := (h.linked.registered 0 _ y).1 hreg'
    rw [hx] at hy'
    cases hy'
    rw [hevent, Option.bind_some, hx, Option.map_some, Option.map_some, hid']

end Server

/-- Descriptors from 4 on. -/
def lowSockets : Sockets := ⟨fun i => 4 + i.val, fun _ _ heq => Fin.ext (Nat.add_left_cancel heq)⟩

/-- No system call has anything to report, but all of them succeed. -/
def quietResults : Results where
  timesTriggered := some 1
  frame := ⟨⟨17, (0x88, 0xCC), 3, 1, 6⟩, none, none⟩
  datagram := ⟨0, none, 0⟩
  sent _ := true
  accepted := none
  refused := none
  request := ⟨-1, 0⟩
  written := true
  read := true

/-- Two clients come. One of them leaves, while the clock ticks. -/
def comingAndGoing : List Server.ServerEvent :=
  [.processEvents [9], .nextEvent { quietResults with accepted := some 20 }, .nextEvent quietResults,
    .processEvents [9], .nextEvent { quietResults with accepted := some 21 }, .nextEvent quietResults,
    .processEvents [20, 10], .nextEvent { quietResults with request := ⟨0, 0⟩ },
    .nextEvent quietResults, .nextEvent quietResults,
    .processEvents [8], .nextEvent quietResults, .nextEvent quietResults]

/-- The handler that a call is of. -/
def HandlerCall.role : HandlerCall → Role
  | .clock _ _ => .clock
  | .ethernetMonitor _ => .ethernetMonitor
  | .netlink handler _ _ => .netlink handler
  | .client (.listenSocket _ _) => .clientListenSocket
  | .client (.senderSocket number _ _) => .clientSender number
  | .client (.repository _) => .clientRepository
  | .interrupt _ => .interrupt

namespace Server

variable {s s' : Server} {r : Results} {role : Role} {x : HandlerId} {platform : Platform}
  {verbose : Bool} {events : List ServerEvent} {rounds : List (List HandlerCall)}
  {current : List HandlerCall} {d : Daemon}

theorem call_role (hlinked : s.objects.Linked) (role : Role) (r : Results) :
    (s.call role r).2.2.role = role := by
  cases role with
  | clientListenSocket =>
    show (HandlerCall.client (s.accept r).2.2).role = _
    rcases accept_cases hlinked r with heq | ⟨fd, -, heq | ⟨interest, -, heq⟩⟩ <;> rw [heq] <;> rfl
  | _ => rfl

/-- New roles come last. -/
theorem call_roles (hlinked : s.objects.Linked) (role : Role) (r : Results) :
    s.roles <+: (s.call role r).2.1 := by
  cases role with
  | clientListenSocket =>
    show s.roles <+: (s.accept r).2.1
    rcases accept_cases hlinked r with heq | ⟨fd, -, heq | ⟨interest, -, heq⟩⟩ <;> rw [heq]
    · exact List.prefix_append _ _
    · exact List.prefix_append _ _
  | _ => exact List.prefix_refl _

/-- The calls so far: the rounds that are over lead to `d`, and the one that goes on from there to
the daemon as it is. -/
structure Follows (platform : Platform) (verbose : Bool) (s : Server)
    (rounds : List (List HandlerCall)) (current : List HandlerCall) (d : Daemon) : Prop where
  main : Daemon.main platform verbose rounds = .ok d
  past : Daemon.run platform verbose rounds.flatten = .ok d
  present : current.foldlM (Daemon.step platform) d = .ok s.daemon
  flag : d.interruptFlag = true → current = [] ∧ s.objects.processing = none
  few : ∀ round ∈ rounds, round.length ≤ maxConcurrentEvents
  rest : current.length ≤ maxConcurrentEvents ∧ ∀ m handles, s.objects.processing = some (m, handles) →
    m = 0 ∧ current.length + handles.length ≤ maxConcurrentEvents
  honoured : (honours (s.objects.history 0)).reverse.map (fun entry => s.roles[entry.2]?) =
    (rounds.flatten ++ current).map fun c => some c.role
  held : ∀ before n msg written after,
    rounds.flatten ++ current = before ++ .client (.senderSocket n msg written) :: after →
      ∃ d, Daemon.run platform verbose before = .ok d ∧ d.clients.holds n = true

theorem Follows.run (h : Follows platform verbose s rounds current d) :
    Daemon.run platform verbose (rounds.flatten ++ current) = .ok s.daemon := by
  have hpast := h.past
  unfold Daemon.run at hpast ⊢
  rw [List.foldlM_append, hpast]
  exact h.present

/-- The calls up to now are rounds of the loop of the daemon. -/
theorem Follows.main_rounds (h : Follows platform verbose s rounds current d) :
    Daemon.main platform verbose (rounds ++ [current]) = .ok s.daemon := by
  have hmain := h.main
  unfold Daemon.main at hmain ⊢
  rw [List.foldlM_append, hmain]
  show (if d.interruptFlag then Except.ok d else current.foldlM (Daemon.step platform) d) >>= pure = _
  cases hflag : d.interruptFlag with
  | false =>
    rw [if_neg (by decide), h.present]
    rfl
  | true =>
    obtain ⟨hnone, -⟩ := h.flag hflag
    have hcurrent := h.present
    rw [hnone] at hcurrent
    rw [if_pos rfl]
    exact hcurrent

theorem flatten_concat : (rounds ++ [current]).flatten = rounds.flatten ++ current := by simp

/-- **A round that is over** is as short as the others. -/
theorem Follows.few_rounds (h : Follows platform verbose s rounds current d) :
    ∀ round ∈ rounds ++ [current], round.length ≤ maxConcurrentEvents := by
  intro round hmem
  rcases List.mem_append.1 hmem with hold | hnew
  · exact h.few round hold
  · rw [List.mem_singleton.1 hnew]
    exact h.rest.1

/-- **A round begins**, unless the flag is set. -/
theorem Follows.processEvents (h : Follows platform verbose s rounds current d) (hs : Sound s)
    (ready : List Fd) : ∃ rounds' current' d',
      Follows platform verbose (s.processEvents ready) rounds' current' d' := by
  unfold Server.processEvents
  cases hflag : s.daemon.interruptFlag with
  | true => exact ⟨rounds, current, d, h⟩
  | false =>
    simp only [Bool.false_eq_true, if_false]
    cases hprocessing : s.objects.processing with
    | some batch =>
      have hsame : s.objects.processEvents 0 ready = s.objects := by
        rw [State.processEvents, hprocessing]
        rfl
      rw [hsame]
      exact ⟨rounds, current, d, h⟩
    | none =>
      rw [hs.linked.processEvents_eq hprocessing]
      refine ⟨rounds ++ [current], [], s.daemon, h.main_rounds, flatten_concat ▸ h.run, rfl,
        fun htrue => ?_, h.few_rounds, ⟨Nat.zero_le _, fun m handles heq => ?_⟩, ?_, ?_⟩
      · rw [hflag] at htrue
        cases htrue
      · cases heq
        refine ⟨rfl, ?_⟩
        rw [hs.linked.epollWait_eq hs.watching, List.length_map, List.length_nil, Nat.zero_add]
        exact (List.length_filterMap_le _ _).trans (List.length_take_le _ _)
      · rw [flatten_concat, List.append_nil]
        exact h.honoured
      · rw [flatten_concat, List.append_nil]
        exact h.held

/-- A turn that calls nobody. -/
theorem Follows.skip (h : Follows platform verbose s rounds current d) (hs : Sound s)
    (hnone : s.calling.objects.calling = none) :
    Follows platform verbose s.calling rounds current d := by
  have hframe : s.objects.nextEvent.history = s.objects.history ∧
      (s.objects.nextEvent.processing = s.objects.processing ∨
        s.objects.nextEvent.processing = none ∨ ∃ m handle handles,
          s.objects.processing = some (m, handle :: handles) ∧
          s.objects.nextEvent.processing = some (m, handles)) := by
    rcases hs.linked.nextEvent_cases with heq | ⟨m, -, heq⟩ | ⟨m, handle, handles, hp, -, heq⟩ |
      ⟨m, handle, handles, y, handler, -, -, -, -, heq⟩
    · rw [heq]
      exact ⟨rfl, Or.inl rfl⟩
    · rw [heq]
      exact ⟨rfl, Or.inr (Or.inl rfl)⟩
    · rw [heq]
      exact ⟨rfl, Or.inr (Or.inr ⟨m, handle, handles, hp, rfl⟩)⟩
    · have hsome : s.objects.nextEvent.calling = none := hnone
      rw [heq] at hsome
      cases hsome
  obtain ⟨hhistory, hprocessing⟩ := hframe
  refine ⟨h.main, h.past, h.present, fun hflag => ?_, h.few, ⟨h.rest.1, fun m handles heq => ?_⟩,
    ?_, h.held⟩
  · obtain ⟨hcurrent, hidle⟩ := h.flag hflag
    refine ⟨hcurrent, ?_⟩
    rcases hprocessing with hp | hp | ⟨m, handle, handles, hp, -⟩
    · exact hp.trans hidle
    · exact hp
    · rw [hidle] at hp
      cases hp
  · change s.objects.nextEvent.processing = some (m, handles) at heq
    rcases hprocessing with hp | hp | ⟨m', handle, handles', hp, hp'⟩
    · exact h.rest.2 m handles (hp.symm.trans heq)
    · rw [hp] at heq
      cases heq
    · rw [hp'] at heq
      cases heq
      obtain ⟨hm, hle⟩ := h.rest.2 m (handle :: handles) hp
      rw [List.length_cons] at hle
      exact ⟨hm, by omega⟩
  · show (honours (s.objects.nextEvent.history 0)).reverse.map _ = _
    rw [hhistory]
    exact h.honoured

/-- Each handler that was called has a role, which it keeps. -/
theorem Follows.kept (h : Follows platform verbose s rounds current d) {roles : List Role}
    (hroles : s.roles <+: roles) :
    (honours (s.objects.history 0)).reverse.map (fun entry => roles[entry.2]?) =
      (rounds.flatten ++ current).map fun c => some c.role := by
  rw [← h.honoured]
  refine List.map_congr_left fun entry hmem => ?_
  have hsome := List.mem_map_of_mem (f := fun entry => s.roles[entry.2]?) hmem
  rw [h.honoured] at hsome
  obtain ⟨c, -, hc⟩ := List.mem_map.1 hsome
  obtain ⟨later, rfl⟩ := hroles
  have hlt := (List.getElem?_eq_some_iff.1 hc.symm).1
  exact List.getElem?_append_left hlt

/-- **A turn that calls a handler** is a call of the daemon. -/
theorem Follows.turn (h : Follows platform verbose s rounds current d) (hs : Sound s)
    (hcalling : s.calling.objects.calling = some x) (hrole : s.roles[x]? = some role)
    (hheld : role.Held s.daemon.clients) {daemon : Daemon}
    (hdaemon : s.daemon.step platform (s.calling.call role r).2.2 = .ok daemon)
    (hwrap : (s.calling.call role r).1.returned.Unwrapped) :
    Follows platform verbose
      ⟨(s.calling.call role r).1.returned, (s.calling.call role r).2.1, daemon⟩ rounds
      (current ++ [(s.calling.call role r).2.2]) d := by
  obtain ⟨-, -, hchanges⟩ := hs.call hcalling hrole hheld hdaemon hwrap
  obtain ⟨hlinked, -, -⟩ := hs.calling
  have hproceeds := State.changes_proceed hlinked hchanges
  obtain ⟨-, m, handle, handles, -, -, hprocessing, -, hobjects⟩ := hs.called hcalling
  obtain ⟨rfl, hfew⟩ := h.rest.2 m (handle :: handles) hprocessing
  rw [List.length_cons] at hfew
  have hc : (s.calling.call role r).2.2.role = role := call_role hlinked role r
  have hlength : (current ++ [(s.calling.call role r).2.2]).length = current.length + 1 := by simp
  refine ⟨h.main, h.past, ?_, fun hflag => ?_, h.few, ⟨by omega, fun m handles' heq => ?_⟩, ?_, ?_⟩
  · rw [List.foldlM_append, h.present]
    show s.daemon.step platform _ >>= pure = _
    rw [hdaemon]
    rfl
  · -- no round begins once the flag is set
    obtain ⟨-, hidle⟩ := h.flag hflag
    rw [hprocessing] at hidle
    cases hidle
  · have hsame : (s.calling.call role r).1.returned.processing = some (0, handles) :=
      hproceeds.processing.trans (by rw [hobjects]; rfl)
    rw [show _ = some (m, handles') from heq] at hsame
    cases hsame
    exact ⟨rfl, by omega⟩
  · obtain ⟨new, hnew, hnone, -⟩ := hproceeds.log 0
    have hhistory : s.calling.objects.history 0 = .honoured handle x :: s.objects.history 0 := by
      rw [hobjects, State.record_history, Function.update_self]
    have hlog : honours ((s.calling.call role r).1.returned.history 0) =
        (handle, x) :: honours (s.objects.history 0) := by
      rw [hnew, honours_append, hnone, hhistory]
      rfl
    have hprefix : s.roles <+: (s.calling.call role r).2.1 := call_roles hlinked role r
    have hx : (s.calling.call role r).2.1[x]? = some role := by
      obtain ⟨later, hlater⟩ := hprefix
      rw [← hlater]
      exact (List.getElem?_append_left (List.getElem?_eq_some_iff.1 hrole).1).trans hrole
    simp only [hlog, List.reverse_cons, List.map_append, h.kept hprefix, List.map_cons, List.map_nil,
      hx, hc, List.append_assoc]
  · intro before n msg written after hsplit
    rw [← List.append_assoc] at hsplit
    rcases List.eq_nil_or_concat after with rfl | ⟨after', last, rfl⟩
    · obtain ⟨rfl, hlast⟩ := List.append_inj' hsplit rfl
      refine ⟨s.daemon, h.run, ?_⟩
      have hclient : (s.calling.call role r).2.2 = .client (.senderSocket n msg written) :=
        (List.cons.inj hlast).1
      rw [hclient] at hc
      subst hc
      exact (s.daemon.clients.holds_iff n).2 hheld
    · rw [List.concat_eq_append, ← List.cons_append, ← List.append_assoc] at hsplit
      exact h.held before n msg written after' (List.append_inj' hsplit rfl).1

/-- **Every run** is one of the loop of the daemon. -/
theorem foldl_follows (hs : Sound s) (hf : Follows platform verbose s rounds current d)
    (h : events.foldlM (step platform) s = .ok s') (hwrap : s'.objects.Unwrapped) :
    ∃ rounds' current' d', Follows platform verbose s' rounds' current' d' := by
  induction events generalizing s rounds current d with
  | nil =>
    cases h
    exact ⟨rounds, current, d, hf⟩
  | cons e events ih =>
    obtain ⟨s₁, hstep, hrest⟩ := bind_eq_ok.1 (show s.step platform e >>= _ = _ from h)
    have hwrap₁ : s₁.objects.Unwrapped := fun m => (run_given hrest m).1.trans_lt (hwrap m)
    have hs₁ := step_sound hs hstep hwrap₁
    have hf₁ : ∃ rounds' current' d', Follows platform verbose s₁ rounds' current' d' := by
      cases e with
      | processEvents ready =>
        cases hstep
        exact hf.processEvents hs ready
      | nextEvent r =>
        rcases hs.nextEvent_cases hstep with
          ⟨hnone, rfl⟩ | ⟨x, role, daemon, hcalling, hrole, hheld, hdaemon, rfl⟩
        · exact ⟨rounds, current, d, hf.skip hs hnone⟩
        · exact ⟨rounds, _, d, hf.turn hs hcalling hrole hheld hdaemon hwrap₁⟩
    obtain ⟨rounds', current', d', hf'⟩ := hf₁
    exact ih hs₁ hf' hrest

theorem create_follows (sockets : Sockets) : Follows platform verbose
    (create sockets verbose) [] [] (.create verbose) where
  main := rfl
  past := rfl
  present := rfl
  flag h := by cases h
  few round hmem := by cases hmem
  rest := by
    refine ⟨Nat.zero_le _, fun m handles heq => ?_⟩
    have hidle : (create sockets verbose).objects.processing = none :=
      (initializeHandlers_started sockets).idle
    rw [hidle] at heq
    cases heq
  honoured := by
    have huncalled : honours ((create sockets verbose).objects.history 0) = [] :=
      (initializeHandlers_started sockets).uncalled
    rw [huncalled]
    rfl
  held before n msg written after hsplit := by
    cases before <;> cases hsplit

end Server

/-- **The process is the daemon.** Take any run of the process, with its event manager, with
clients that come and go and with any results of system calls. What it has done to the tables is
what the loop of the daemon does in some rounds of at most ten calls each. These are the calls of
the handlers that the event manager called, in order; and a client whose handler is called is
held at that moment. -/
theorem server_refines_daemon (platform : Platform) (sockets : Sockets) (verbose : Bool)
    (events : List Server.ServerEvent) (s : Server)
    (h : Server.run platform sockets verbose events = .ok s) (hwrap : s.objects.Unwrapped) :
    ∃ rounds, Daemon.main platform verbose rounds = .ok s.daemon ∧
      Daemon.run platform verbose rounds.flatten = .ok s.daemon ∧
      (∀ round ∈ rounds, round.length ≤ maxConcurrentEvents) ∧
      (honours (s.objects.history 0)).reverse.map (fun entry => s.roles[entry.2]?) =
        rounds.flatten.map (fun c => some c.role) ∧
      ∀ before n msg written after,
        rounds.flatten = before ++ .client (.senderSocket n msg written) :: after →
          ∃ d, Daemon.run platform verbose before = .ok d ∧ d.clients.holds n = true := by
  obtain ⟨rounds, current, d, hf⟩ := Server.foldl_follows (Server.create_sound sockets verbose)
    (Server.create_follows sockets) h hwrap
  refine ⟨rounds ++ [current], hf.main_rounds, ?_, hf.few_rounds, ?_, ?_⟩ <;>
    rw [Server.flatten_concat]
  · exact hf.run
  · exact hf.honoured
  · exact hf.held

theorem server_refines_daemon_first :
    ∃ s rounds, Server.run quietPlatform lowSockets false comingAndGoing = .ok s ∧
      Daemon.main quietPlatform false rounds = .ok s.daemon ∧
      rounds.flatten.map HandlerCall.role =
        [.clientListenSocket, .clientListenSocket, .clientSender 0, .clock, .clientRepository] := by
  obtain ⟨s, hrun, hshows⟩ := ok_of_shows
    (x := Server.run quietPlatform lowSockets false comingAndGoing)
    (f := fun s => (honours (s.objects.history 0)).reverse.map fun entry => s.roles[entry.2]?)
    (b := [some .clientListenSocket, some .clientListenSocket, some (.clientSender 0), some .clock,
      some .clientRepository]) (by decide +kernel)
  obtain ⟨rounds, hmain, -, -, hcalled, -⟩ := server_refines_daemon quietPlatform lowSockets false
    comingAndGoing s hrun (Server.unwrapped_of_length hrun (by decide))
  rw [hshows] at hcalled
  have hroles := congrArg (List.filterMap id) hcalled
  simp only [List.filterMap_map, Function.comp_def, id, List.filterMap_eq_map'] at hroles
  exact ⟨s, rounds, hrun, hmain, hroles.symm⟩

/-! ## The end -/

namespace Server

variable {s : Server} {objects : State}

end Server

end Ndisc
