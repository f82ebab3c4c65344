import SlotUpload.Roster
import SlotUpload.Transfer.Work

/-!
# SlotUpload.Transfer.System

A transfer with all that is going on around it: the runs of work, the listeners
and the delivery of events to them.  Everything that can happen next is a
`Step`; any sequence of steps is a possible history.  Events are delivered in
the order in which they were queued, each to the listeners that are there when
its delivery begins.
-/

namespace SlotUpload

/-- What a listener may do when it is told of an event. -/
inductive Reaction
  | act (action : Action)
  | add (listener : String)
  | remove (listener : String)
  deriving DecidableEq, Repr

/-- What each listener does, by how often it was told of an event before. -/
abbrev Reactions := String → Nat → List Reaction

structure System (α : Type) where
  transfer : Transfer
  roster : Roster String := []
  runs : List (Run α) := []
  /-- How many events have been delivered or are being delivered. -/
  begun : Nat := 0
  /-- The listeners still to be told of the event being delivered. -/
  waiting : List String := []
  /-- Who was told of what, in order. -/
  told : List (String × TransferEvent) := []
  log : List Log.Entry := []

/-- Something that happens to a transfer or around it. -/
inductive Step (α : Type)
  | act (action : Action)
  | add (listener : String)
  | remove (listener : String)
  | start (work : Work α)
  | poll (run : Nat)
  /-- The delivery of the next event begins. -/
  | deliver
  /-- The next listener is told of the event being delivered. -/
  | tell

namespace System

variable {α : Type}

/-- A new transfer with nothing going on around it. -/
def ofTransfer (t : Transfer) : System α := { transfer := t }

def act (s : System α) (action : Action) : System α :=
  let (t, log) := s.transfer.act action
  { s with transfer := t, log := s.log ++ log }

def react (s : System α) : Reaction → System α
  | .act action => s.act action
  | .add listener => { s with roster := (s.roster.add listener).2 }
  | .remove listener => { s with roster := (s.roster.remove listener).2 }

/-- The event being delivered. -/
def current? (s : System α) : Option TransferEvent :=
  if s.begun = 0 then none else s.transfer.events[s.begun - 1]?

/-- How often a listener was told of an event. -/
def timesTold (s : System α) (listener : String) : Nat :=
  (s.told.filter (·.1 == listener)).length

/-- Begins the delivery of the next event, once that of the one before is over. -/
def deliver (s : System α) : System α :=
  if s.waiting.isEmpty ∧ s.begun < s.transfer.events.length then
    { s with begun := s.begun + 1, waiting := s.roster }
  else s

/-- Tells the next listener, which reacts at once. -/
def tell (reactions : Reactions) (s : System α) : System α :=
  match s.waiting, s.current? with
  | listener :: waiting, some event =>
    let before := s.timesTold listener
    let s := { s with waiting, told := s.told ++ [(listener, event)] }
    (reactions listener before).foldl react s
  | _, _ => s

def poll (s : System α) (i : Nat) : System α :=
  match s.runs[i]? with
  | none => s
  | some run =>
    let (run, t, log) := run.poll s.transfer
    { s with transfer := t, runs := s.runs.set i run, log := s.log ++ log }

def step (reactions : Reactions) (s : System α) : Step α → System α
  | .act action => s.act action
  | .add listener => s.react (.add listener)
  | .remove listener => s.react (.remove listener)
  | .start work => { s with runs := s.runs ++ [.pending work] }
  | .poll i => s.poll i
  | .deliver => s.deliver
  | .tell => s.tell reactions

/-- What several steps lead to, one after another. -/
def run (reactions : Reactions) (s : System α) (steps : List (Step α)) : System α :=
  steps.foldl (step reactions) s

/-- The turn that the work of a run takes when the run is polled; none if no work
is gone on with. -/
def turn? (s : System α) (i : Nat) : Option (Work.Turn α) :=
  s.runs[i]?.bind (·.turn? s.transfer)

/-- Is there something left to deliver? -/
def isDelivering (s : System α) : Bool :=
  !s.waiting.isEmpty || s.begun < s.transfer.events.length

/-- One step of delivery. -/
def deliverStep (reactions : Reactions) (s : System α) : System α :=
  if s.waiting.isEmpty then s.deliver else s.tell reactions

/-- Delivers until nothing is left, in at most `limit` steps. -/
def deliverAll (reactions : Reactions) : Nat → System α → System α
  | 0, s => s
  | limit + 1, s =>
    if s.isDelivering then deliverAll reactions limit (s.deliverStep reactions) else s

end System

end SlotUpload
