import SlotUpload.Facade.Receiving
import SlotUpload.Facade.Sending
import SlotUpload.Transfer.Work

/-!
# SlotUpload.Facade.Task

Tasks: work that is done for a transfer in given surroundings.  The work's
progress moves the transfer; whoever else has the transfer may cancel it at any
time, and then the work is dropped when it next comes to a stop.
-/

namespace SlotUpload.Facade

/-- Work for a transfer, and what it does to the transfer on its way. -/
structure Task (α : Type) where
  work : Attempt α
  onStart : List Action := []
  onProgress : UInt64 → List Action

/-- Sends a file: the transfer is in progress as soon as no byte of the file has
been sent, which is reported when there is a slot for it. -/
def sending (server : String) (blockSize : Nat) (path : String) : Task Url :=
  { work := sendingWork server blockSize path
    onProgress := fun sent =>
      if sent = 0 then [.status .inProgress none, .progress sent] else [.progress sent] }

/-- Receives a file: the transfer is in progress from the start. -/
def receiving (request : IncomingRequest) (path : String) : Task UInt64 :=
  { work := receivingWork request path
    onStart := [.status .inProgress none]
    onProgress := fun received => [.progress received] }

/-- A transfer and all else. -/
structure Busy (σ : Type) where
  transfer : Transfer
  rest : σ

/-- What others do while a task runs. -/
structure Others (σ : Type) where
  /-- Do they cancel the transfer now? -/
  cancel : Busy σ → Bool
  /-- Does the task have to wait for the answer that has just come? -/
  wait : Busy σ → Bool

/-- Others that leave the transfer alone. -/
def nobody : Others σ := { cancel := fun _ => false, wait := fun _ => true }

namespace Busy

variable {σ : Type} (answer : Answerer σ)

/-- Writes entries to the log. -/
def log (b : Busy σ) (entries : List Log.Entry) : Busy σ :=
  { b with rest := entries.foldl (fun s e => (answer (.log e) s).2) b.rest }

/-- Something happens to the transfer. -/
def act (b : Busy σ) (action : Action) : Busy σ :=
  let (transfer, entries) := b.transfer.act action
  ({ b with transfer } : Busy σ).log answer entries

variable (others : Others σ)

/-- The others have their turn. -/
def interrupt (b : Busy σ) : Busy σ :=
  if others.cancel b then b.act answer .cancel else b

/-- Several things happen to the transfer; after each the others have their turn. -/
def actAll (b : Busy σ) (actions : List Action) : Busy σ :=
  actions.foldl (fun b action => (b.act answer action).interrupt answer others) b

/-- Answers what the work asks: progress goes to the transfer, everything else to
the surroundings. -/
def reply (onProgress : UInt64 → List Action) : Answerer (Busy σ)
  | .progress amount _, b => ((), b.actAll answer others (onProgress amount))
  | q, b =>
    let (a, rest) := answer q b.rest
    (a, ({ b with rest } : Busy σ).interrupt answer others)

/-- Runs the work of a task until it ends or is dropped; gives how it ended. -/
def attempt (task : Task α) (b : Busy σ) : Except UploadError α × Busy σ :=
  let b := b.interrupt answer others
  if b.transfer.aborted then (.error .canceled, b)
  else
    let stop (b : Busy σ) : Bool := b.transfer.aborted && others.wait b
    let b := b.actAll answer others task.onStart
    match task.work.run.runUntil (reply answer others task.onProgress) stop b with
    | (none, b) => (.error .canceled, b)
    | (some outcome, b) => (outcome, b)

/-- Records how the work ended. -/
def conclude (b : Busy σ) (outcome : Except UploadError α) : Option α × Busy σ :=
  let (value, transfer, entries) := b.transfer.conclude outcome
  (value, ({ b with transfer } : Busy σ).log answer entries)

/-- Runs a task to its end; gives the value of the work if the transfer could be
completed with it. -/
def run (task : Task α) (b : Busy σ) : Option α × Busy σ :=
  let (outcome, b) := b.attempt answer others task
  b.conclude answer outcome

/-- Delivers the URL of a file that was sent, if it was. -/
def publish (destination : Destination) (onProgress : UInt64 → List Action) :
    Option Url × Busy σ → Busy σ
  | (none, b) => b
  | (some url, b) =>
    ((share b.transfer.id destination url).run (reply answer others onProgress) b).2

/-- Runs the task of a file to be sent, and delivers its URL if it was. -/
def runSending (destination : Destination) (task : Task Url) (b : Busy σ) : Busy σ :=
  publish answer others destination task.onProgress (b.run answer others task)

/-- Runs the task of a file to be received. -/
def runReceiving (task : Task UInt64) (b : Busy σ) : Busy σ :=
  (b.run answer others task).2

end Busy

end SlotUpload.Facade
