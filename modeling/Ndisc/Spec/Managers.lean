import Ndisc.Spec.Events

/-!
# Moving event managers (`event_handlers.cc`)

A manager is moved into an object that is made for it, or over one that is there. Either
way the handlers in its map learn of it; those of a map that is overwritten do not.
-/

namespace Ndisc.Events

/-- What is left of a manager that is moved from. -/
def EventManager.movedFrom : EventManager := ⟨∅, 1, none⟩

namespace State

/-- `registered_events_`, `event_id_counter_` and `epfd_` go from one object to another,
and the counter that stays behind starts anew. An `epfd_` that is overwritten is closed. -/
def takeOver (s : State) (target source : ManagerId) : State :=
  { s with
    managers := Function.update (Function.update s.managers target (s.managers source)) source .movedFrom
    history := Function.update (Function.update s.history target (s.history source)) source [] }

/-- A round of the loop after that, for one entry of the map. -/
def adopt (target : ManagerId) (s : State) (entry : UInt64 × HandlerId) : State :=
  match s.handlers entry.2 with
  | none => s
  | some handler =>
    s.setHandler entry.2 { handler with eventManager := some target, handle := entry.1 }

def adoptAll (s : State) (target : ManagerId) : State :=
  (s.managers target).registeredEvents.toList.foldl (adopt target) s

/-- The move constructor. No `epfd_` is closed, since the object is new. -/
def moveConstruct (s : State) (target source : ManagerId) : State :=
  (s.takeOver target source).adoptAll target

/-- The move assignment, of two different objects. -/
def moveAssign (s : State) (target source : ManagerId) : State :=
  (s.takeOver target source).adoptAll target

end State

/-- What happens next: something to the handlers, or a move of a manager. -/
inductive Action
  | event (e : Event)
  | moveConstruct (target source : ManagerId)
  | moveAssign (target source : ManagerId)

def State.act (s : State) : Action → State
  | .event e => s.step e
  | .moveConstruct target source => s.moveConstruct target source
  | .moveAssign target source => s.moveAssign target source

end Ndisc.Events
