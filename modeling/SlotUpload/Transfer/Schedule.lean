import SlotUpload.Transfer.System

/-!
# SlotUpload.Transfer.Schedule

One way to run the tasks around a transfer: a queue of tasks that can go on,
served first come, first served.  The tasks are the dispatcher, which delivers
all events there are, and the runs of work.  New events wake the dispatcher, the
order to stop wakes every run, and a run that gave way goes on in the next round.
-/

namespace SlotUpload

/-- A task that can go on. -/
inductive Ready
  | dispatcher
  | run (index : Nat)
  deriving DecidableEq, Repr

structure Schedule (α : Type) where
  system : System α
  /-- The tasks that can go on, the next one first. -/
  queue : List Ready := [.dispatcher]
  /-- The runs that gave way in this round. -/
  yielded : List Ready := []

namespace Schedule

variable {α : Type}

/-- Puts a task at the end of the queue unless it waits for its turn already. -/
def wake (task : Ready) (s : Schedule α) : Schedule α :=
  if task ∈ s.queue ∨ task ∈ s.yielded then s else { s with queue := s.queue ++ [task] }

/-- Runs that are not over. -/
def pendingRuns (s : System α) : List Ready :=
  (s.runs.zipIdx.filter (·.1.value?.isNone)).map fun (_, i) => .run i

/-- Takes over a later state of the system and wakes the tasks that the change
concerns: the dispatcher first, then the runs. -/
def advance (s : Schedule α) (system : System α) : Schedule α :=
  let events := s.system.transfer.events.length < system.transfer.events.length
  let stop := system.transfer.aborted && !s.system.transfer.aborted
  let s := { s with system }
  let s := if events then s.wake .dispatcher else s
  if stop then (pendingRuns system).foldl (fun s task => s.wake task) s else s

/-- Something happens from outside. -/
def step (reactions : Reactions) (s : Schedule α) (step : Step α) : Schedule α :=
  s.advance (s.system.step reactions step)

/-- Starts some work, which has its first turn in the next round. -/
def spawn (reactions : Reactions) (s : Schedule α) (work : Work α) : Schedule α :=
  (s.step reactions (.start work)).wake (.run s.system.runs.length)

/-- Takes a run out of the queue. -/
def unqueue (s : Schedule α) (index : Nat) : Schedule α :=
  { s with queue := s.queue.filter (· ≠ .run index) }

/-- Gives the first task in the queue its turn.  A run that told the transfer to
stop has woken itself and stays in the queue. -/
def turn (reactions : Reactions) (limit : Nat) (s : Schedule α) : Schedule α :=
  match s.queue with
  | [] => s
  | .dispatcher :: queue =>
    -- events that its own listeners cause belong to the same turn
    let s := { s with queue }
    let s := s.advance (s.system.deliverAll reactions limit)
    { s with queue := s.queue.filter (· ≠ .dispatcher) }
  | .run i :: queue =>
    let s := { s with queue }
    let system := s.system.step reactions (.poll i)
    let s := s.advance system
    match system.runs[i]? with
    | some (.finished _) | none => s.unqueue i
    | some (.pending .stuck) => s
    | some (.pending _) =>
      if .run i ∈ s.queue then s else { s with yielded := s.yielded ++ [.run i] }

/-- Gives tasks their turns until none can go on, in at most `limit` turns. -/
def settle (reactions : Reactions) : Nat → Schedule α → Schedule α
  | 0, s => s
  | limit + 1, s =>
    if s.queue.isEmpty then s else settle reactions limit (s.turn reactions (limit + 1))

/-- One round: every task that can go on goes on; then those that gave way
queue up again. -/
def round (reactions : Reactions) (limit : Nat) (s : Schedule α) : Schedule α :=
  let s := s.settle reactions limit
  { s with queue := s.queue ++ s.yielded, yielded := [] }

/-- Goes on with a run outside the queue, with a round for the other tasks
whenever it gives way, until it is over; nothing if it never is. -/
def complete (reactions : Reactions) (limit : Nat) (index : Nat) :
    Nat → Schedule α → Option (Option α × Schedule α)
  | 0, _ => none
  | fuel + 1, s =>
    let s := (s.advance (s.system.step reactions (.poll index))).unqueue index
    match s.system.runs[index]? with
    | some (.finished value) => some (value, s)
    | none => none
    | some (.pending _) =>
      complete reactions limit index fuel ((s.round reactions limit).unqueue index)

/-- Runs some work at once and waits for its end. -/
def await (reactions : Reactions) (limit : Nat) (s : Schedule α) (work : Work α) :
    Option (Option α × Schedule α) :=
  let index := s.system.runs.length
  complete reactions limit index limit (s.step reactions (.start work))

end Schedule

end SlotUpload
