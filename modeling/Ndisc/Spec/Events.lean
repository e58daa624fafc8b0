import Mathlib.Data.Int.Notation
import Ndisc.Lib.Tickets

/-!
# The event loop (`event_handlers.cc`)

Managers and handlers point at each other: a manager has a map of `weak_ptr`s, a handler a
plain pointer back and the handle it was given. Both are objects of one process, with its
open descriptors and the interest list of each `epoll` instance.

A handler is alive as long as some `shared_ptr` refers to it: the program's, or the one
that `ProcessEvents` holds while it calls the handler.
-/

namespace Ndisc.Events

open Std (ExtTreeMap)

abbrev Fd := ℕ
abbrev HandlerId := ℕ
abbrev ManagerId := ℕ

def enoent : ℤ := 2
def ebadf : ℤ := 9
def eexist : ℤ := 17

/-- `MAX_CONCURRENT_EVENTS`. -/
def maxConcurrentEvents : ℕ := 10

/-! ## Objects -/

structure EpollEvent where
  events : UInt32
  data : UInt64
  deriving DecidableEq

/-- What an `epoll` instance watches. -/
abbrev InterestList := Fd → Option EpollEvent

/-- An `EventHandler` with the descriptor that it owns. It is `owned` while the program has
a `shared_ptr` to it. -/
structure EventHandler where
  socket : Fd
  events : UInt32
  eventManager : Option ManagerId
  handle : UInt64
  owned : Bool
  deriving DecidableEq

/-- There is no interest list where `epfd_` is no valid descriptor. -/
structure EventManager where
  registeredEvents : ExtTreeMap UInt64 HandlerId
  eventIdCounter : UInt64
  epfd : Option InterestList

/-- The objects of a process. A handler's number is never used again. `processing` is what
`ProcessEvents` still has to look at, `calling` the handler that it calls. The tickets of
`history` are the handles that each manager has given out. -/
structure State where
  managers : ManagerId → EventManager
  handlers : HandlerId → Option EventHandler
  created : HandlerId
  descriptors : Fd → Option HandlerId
  processing : Option (ManagerId × List UInt64)
  calling : Option HandlerId
  history : ManagerId → List (Tickets.Entry UInt64 HandlerId)

namespace EventManager

def create : EventManager := ⟨∅, 1, some fun _ => none⟩

/-- `EPOLL_CTL_ADD`, which the kernel may refuse. -/
def epollCtlAdd (m : EventManager) (fd : Fd) (event : EpollEvent) (refused : Option ℤ) :
    Except ℤ EventManager :=
  match m.epfd with
  | none => .error ebadf
  | some interest =>
    if (interest fd).isSome then .error eexist
    else match refused with
      | some errno => .error errno
      | none => .ok { m with epfd := some (Function.update interest fd (some event)) }

/-- `EPOLL_CTL_DEL`. -/
def epollCtlDel (m : EventManager) (fd : Fd) : Except ℤ EventManager :=
  match m.epfd with
  | none => .error ebadf
  | some interest =>
    if (interest fd).isNone then .error enoent
    else .ok { m with epfd := some (Function.update interest fd none) }

/-- A descriptor that is closed is no longer watched. -/
def close (m : EventManager) (fd : Fd) : EventManager :=
  { m with epfd := m.epfd.map fun interest => Function.update interest fd none }

/-- `while (registered_events_.contains(event_id_counter_)) event_id_counter_++;`. One of
`size + 1` numbers in a row is free. -/
def freeId (m : EventManager) : ℕ → UInt64 → UInt64
  | 0, id => id
  | rounds + 1, id => if id ∈ m.registeredEvents then m.freeId rounds (id + 1) else id

end EventManager

namespace State

/-- Managers as `Create` makes them, before any handler. -/
def init : State := ⟨fun _ => .create, fun _ => none, 0, fun _ => none, none, none, fun _ => []⟩

def setManager (s : State) (m : ManagerId) (manager : EventManager) : State :=
  { s with managers := Function.update s.managers m manager }

def setHandler (s : State) (x : HandlerId) (handler : EventHandler) : State :=
  { s with handlers := Function.update s.handlers x (some handler) }

def record (s : State) (m : ManagerId) (entry : Tickets.Entry UInt64 HandlerId) : State :=
  { s with history := Function.update s.history m (entry :: s.history m) }

/-! ## Adding and removing -/

/-- `registered_events_.erase(handler_id)`. -/
def erase (s : State) (m : ManagerId) (handlerId : UInt64) : State :=
  (s.setManager m { s.managers m with
    registeredEvents := (s.managers m).registeredEvents.erase handlerId }).record m
      (.withdrawn handlerId)

/-- `Remove(handler_id)` of manager `m`. -/
def remove (s : State) (m : ManagerId) (handlerId : UInt64) : Except ℤ Unit × State :=
  match (s.managers m).registeredEvents[handlerId]? with
  | none => (.error enoent, s)
  | some x =>
    match s.handlers x with
    | none => (.ok (), s.erase m handlerId)
    | some eventHandler =>
      match (s.managers m).epollCtlDel eventHandler.socket with
      | .error errno => (.error errno, s)
      | .ok manager =>
        (.ok (), ((s.setManager m manager).setHandler x
          { eventHandler with eventManager := none, handle := 0 }).erase m handlerId)

/-- `Remove(handler)` of manager `m`. -/
def removeHandler (s : State) (m : ManagerId) (x : HandlerId) : Except ℤ Unit × State :=
  match s.handlers x with
  | none => (.error enoent, s)
  | some handler =>
    if handler.eventManager ≠ some m then (.error enoent, s) else s.remove m handler.handle

/-- A handler leaves the manager it points at, if it has a handle. A failure is reported
and has no consequence. -/
def leave (s : State) (handler : EventHandler) : State :=
  match handler.eventManager with
  | none => s
  | some m => if handler.handle ≠ 0 then (s.remove m handler.handle).2 else s

/-- `Add(handler)` of manager `m`. Nobody has a `shared_ptr` to a handler that is gone. -/
def add (s : State) (m : ManagerId) (x : HandlerId) (refused : Option ℤ) :
    Except ℤ UInt64 × State :=
  match s.handlers x with
  | none => (.error enoent, s)
  | some handler =>
    let s := s.leave handler
    let id := (s.managers m).freeId ((s.managers m).registeredEvents.size + 1)
      (s.managers m).eventIdCounter
    let manager := { s.managers m with eventIdCounter := id }
    match manager.epollCtlAdd handler.socket ⟨handler.events, id⟩ refused with
    | .error errno => (.error errno, s.setManager m manager)
    | .ok manager =>
      (.ok id, (((s.setManager m { manager with
        registeredEvents := manager.registeredEvents.insert id x,
        eventIdCounter := id + 1 }).setHandler x
          { handler with eventManager := some m, handle := id }).record m (.given id x)))

/-! ## Handlers come and go -/

/-- A handler with a fresh descriptor. -/
def create (s : State) (socket : Fd) (events : UInt32) : State :=
  match s.descriptors socket with
  | some _ => s
  | none =>
    { s.setHandler s.created ⟨socket, events, none, 0, true⟩ with
      created := s.created + 1
      descriptors := Function.update s.descriptors socket (some s.created) }

/-- The destructor of the derived class closes the descriptor. By then no `weak_ptr` to the
handler can be locked. -/
def destruct (s : State) (x : HandlerId) (socket : Fd) : State :=
  { s with
    handlers := Function.update s.handlers x none
    descriptors := Function.update s.descriptors socket none
    managers := fun m => (s.managers m).close socket }

/-- After that, `~EventHandler` removes the handler. -/
def destroy (s : State) (x : HandlerId) : State :=
  match s.handlers x with
  | none => s
  | some handler => (s.destruct x handler.socket).leave handler

/-- The program's last `shared_ptr` to a handler goes. -/
def release (s : State) (x : HandlerId) : State :=
  match s.handlers x with
  | none => s
  | some handler =>
    let s := s.setHandler x { handler with owned := false }
    if s.calling = some x then s else s.destroy x

/-! ## `ProcessEvents` -/

/-- The handles of the handlers that are gone. -/
def expiredHandlers (s : State) (m : ManagerId) : List UInt64 :=
  ((s.managers m).registeredEvents.toList.filter fun entry => (s.handlers entry.2).isNone).map
    Prod.fst

/-- `epoll_wait` on some descriptors that are ready: ten of them at most. -/
def epollWait (s : State) (m : ManagerId) (ready : List Fd) : List UInt64 :=
  match (s.managers m).epfd with
  | none => []
  | some interest => (ready.take maxConcurrentEvents).filterMap fun fd =>
      (interest fd).map EpollEvent.data

/-- `ProcessEvents` up to its second loop. It is not called from a handler. -/
def processEvents (s : State) (m : ManagerId) (ready : List Fd) : State :=
  if s.processing.isSome then s
  else
    let s := (s.expiredHandlers m).foldl (fun s id => (s.remove m id).2) s
    { s with processing := some (m, s.epollWait m ready) }

/-- The next round of that loop, up to the call of the handler, or the end of the loop. -/
def nextEvent (s : State) : State :=
  match s.calling, s.processing with
  | none, some (_, []) => { s with processing := none }
  | none, some (m, handle :: handles) =>
    let s := { s with processing := some (m, handles) }
    match (s.managers m).registeredEvents[handle]? with
    | none => s
    | some x =>
      match s.handlers x with
      | none => s
      | some _ => ({ s with calling := some x }).record m (.honoured handle x)
  | _, _ => s

/-- `Call` returns, and the `shared_ptr` to the handler goes. -/
def returned (s : State) : State :=
  match s.calling with
  | none => s
  | some x =>
    let s := { s with calling := none }
    match s.handlers x with
    | none => s
    | some handler => if handler.owned then s else s.destroy x

end State

/-! ## Runs -/

/-- What happens next. While a handler is called it may do anything but `processEvents`. -/
inductive Event
  | create (socket : Fd) (events : UInt32)
  | add (m : ManagerId) (x : HandlerId) (refused : Option ℤ)
  | remove (m : ManagerId) (handlerId : UInt64)
  | removeHandler (m : ManagerId) (x : HandlerId)
  | release (x : HandlerId)
  | processEvents (m : ManagerId) (ready : List Fd)
  | nextEvent
  | returned

def State.step (s : State) : Event → State
  | .create socket events => s.create socket events
  | .add m x refused => (s.add m x refused).2
  | .remove m handlerId => (s.remove m handlerId).2
  | .removeHandler m x => (s.removeHandler m x).2
  | .release x => s.release x
  | .processEvents m ready => s.processEvents m ready
  | .nextEvent => s.nextEvent
  | .returned => s.returned

end Ndisc.Events
