import SlotUpload.Transfer.Basic

/-!
# SlotUpload.Transfer.Work

Work done for a transfer.  Work runs until it ends or gives way; whoever runs it
looks first whether the transfer has been told to stop, and then drops the work
without going on with it.
-/

namespace SlotUpload

/-- What work and listeners may do to a transfer. -/
inductive Action
  | status (new : TransferStatus) (reason : Option String)
  | progress (bytes : UInt64)
  | cancel
  deriving DecidableEq, Repr

namespace Transfer

/-- The transfer after an action, with what is logged. -/
def act (t : Transfer) : Action → Transfer × List Log.Entry
  | .status new reason => ((t.setStatus new reason).2, [])
  | .progress bytes => (t.setProgress bytes, [])
  | .cancel => t.cancel

end Transfer

/-- What is left of some work.  After an action it goes on by what the transfer
then looks like. -/
inductive Work (α : Type)
  | ended (outcome : Except UploadError α)
  /-- The work waits for something that never happens. -/
  | stuck
  /-- The work gives way to others. -/
  | yield (rest : Work α)
  | act (action : Action) (rest : Transfer → Work α)

namespace Work

/-- What one turn of some work comes to. -/
structure Turn (α : Type) where
  transfer : Transfer
  log : List Log.Entry
  /-- What is left of the work, or how it ended. -/
  state : Work α ⊕ Except UploadError α

/-- Runs work until it ends or gives way. -/
def turn (t : Transfer) : Work α → Turn α
  | ended outcome => { transfer := t, log := [], state := .inr outcome }
  | stuck => { transfer := t, log := [], state := .inl stuck }
  | yield rest => { transfer := t, log := [], state := .inl rest }
  | act action rest =>
    let (t, log) := t.act action
    let later := turn t (rest t)
    { later with log := log ++ later.log }

end Work

/-- Work that is run for a transfer: what is left of it, or, when it is over,
the value it gave. -/
inductive Run (α : Type)
  | pending (work : Work α)
  | finished (value : Option α)

namespace Run

/-- The turn that the work takes when the run is polled; none if the work is not
gone on with. -/
def turn? (t : Transfer) : Run α → Option (Work.Turn α)
  | finished _ => none
  | pending work => if t.aborted then none else some (work.turn t)

/-- The run after a turn of its work: the work's end is recorded at once. -/
def ofTurn (turn : Work.Turn α) : Run α × Transfer × List Log.Entry :=
  match turn.state with
  | .inl rest => (pending rest, turn.transfer, turn.log)
  | .inr outcome =>
    let (value, t, log) := turn.transfer.conclude outcome
    (finished value, t, turn.log ++ log)

/-- One turn of a run: the transfer's order to stop is looked at first. -/
def poll (t : Transfer) (run : Run α) : Run α × Transfer × List Log.Entry :=
  match run, run.turn? t with
  | finished value, _ => (finished value, t, [])
  | pending _, some turn => ofTurn turn
  | pending _, none =>
    let (value, t, log) := t.conclude (.error .canceled)
    (finished value, t, log)

/-- The value of a run that is over. -/
def value? : Run α → Option (Option α)
  | finished value => some value
  | pending _ => none

end Run

end SlotUpload
