import SlotUpload.Failure
import SlotUpload.Log.Entry
import SlotUpload.Session.Destination
import SlotUpload.Transfer.Status

/-!
# SlotUpload.Transfer.Basic

Transfers and what can happen to one.  Every change of state and every counted
progress queues an event for the listeners; a change that the state does not
allow changes nothing and queues nothing.
-/

namespace SlotUpload

inductive TransferEvent
  | status (old new : TransferStatus) (reason : Option String)
  | progress (bytes : UInt64)
  deriving DecidableEq, Repr

/-- One upload or download. -/
structure Transfer where
  id : String
  direction : Direction
  peer : Option Destination
  file : String
  status : TransferStatus := .created
  /-- The state that waiting tasks look at. -/
  watched : TransferStatus := .created
  /-- Bytes moved so far; -1 before any byte could move. -/
  bytes : Int64 := -1
  /-- Why the transfer failed. -/
  reason : Option String := none
  /-- Has the work been told to stop? -/
  aborted : Bool := false
  /-- All events queued so far, the first one in front. -/
  events : List TransferEvent := []
  deriving DecidableEq, Repr

namespace Transfer

/-- A count of bytes as far as the handle can show it. -/
def saturated (bytes : UInt64) : Int64 :=
  if bytes < 0x8000000000000000 then bytes.toInt64 else Int64.maxValue

/-- A transfer to which nothing has happened. -/
def new (id : String) (direction : Direction) (peer : Option Destination) (file : String) :
    Transfer :=
  { id, direction, peer, file }

/-- The transfer in another state. -/
def moveTo (t : Transfer) (new : TransferStatus) (reason : Option String) : Transfer :=
  { t with
    status := new
    watched := new
    bytes := if new = .inProgress ∧ t.bytes < 0 then 0 else t.bytes
    reason := if new = .failed then reason else t.reason
    events := t.events ++ [.status t.status new reason] }

/-- Moves the transfer to another state; false if that is not allowed. -/
def setStatus (t : Transfer) (new : TransferStatus) (reason : Option String) : Bool × Transfer :=
  if t.status.leadsTo new then (true, t.moveTo new reason) else (false, t)

/-- The transfer with another count of bytes. -/
def count (t : Transfer) (bytes : UInt64) : Transfer :=
  { t with bytes := saturated bytes, events := t.events ++ [.progress bytes] }

/-- Records how many bytes have moved, if the transfer is in progress and the
count does not go back. -/
def setProgress (t : Transfer) (bytes : UInt64) : Transfer :=
  if t.status = .inProgress ∧ t.bytes ≤ saturated bytes then t.count bytes else t

/-- What a task that waits for the end of the transfer is given when it looks:
nothing yet while the state it sees is not terminal. -/
def awaited? (t : Transfer) : Option TransferStatus :=
  if t.watched.isTerminal then some t.watched else none

/-- The transfer in one line, for those who look for a fault. -/
def summary (t : Transfer) : String :=
  "Transfer \x7b id: " ++ Text.quoted t.id ++ ", direction: " ++ t.direction.name ++
    ", status: " ++ t.status.name ++ " \x7d"

/-! ## what is logged -/

def canceledEntry (t : Transfer) : Log.Entry :=
  { level := .info, message := "transfer canceled", fields := [("transfer", t.id)] }

def completedEntry (t : Transfer) : Log.Entry :=
  { level := .info
    message := "transfer completed"
    fields := [("transfer", t.id), ("bytes", toString t.bytes.toInt)] }

def failedEntry (t : Transfer) (reason : String) : Log.Entry :=
  { level := .warn
    message := "transfer failed"
    fields := [("transfer", t.id), ("error", reason)] }

/-! ## cancelling and ending -/

/-- Cancels the transfer and tells its work to stop, unless it has ended. -/
def cancel (t : Transfer) : Transfer × List Log.Entry :=
  match t.setStatus .canceled none with
  | (true, t) => ({ t with aborted := true }, [t.canceledEntry])
  | (false, _) => (t, [])

/-- Records how the work ended.  The work's value counts only if the transfer
could be completed with it. -/
def conclude (t : Transfer) (outcome : Except UploadError α) :
    Option α × Transfer × List Log.Entry :=
  match outcome with
  | .ok value =>
    match t.setStatus .completed none with
    | (true, t) => (some value, t, [t.completedEntry])
    | (false, _) => (none, t, [])
  | .error .canceled => (none, (t.setStatus .canceled none).2, [])
  | .error e => (none, (t.setStatus .failed (some e.message)).2, [t.failedEntry e.message])

end Transfer

end SlotUpload
