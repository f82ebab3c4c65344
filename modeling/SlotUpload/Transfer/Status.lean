/-!
# SlotUpload.Transfer.Status

The states of a transfer.  A transfer starts as created; its last state is
completed, failed, canceled or refused, and it completes only from being in
progress.
-/

namespace SlotUpload

inductive TransferStatus
  | created | inProgress | completed | failed | canceled | refused
  deriving DecidableEq, Repr

namespace TransferStatus

def name : TransferStatus → String
  | created => "Created"
  | inProgress => "InProgress"
  | completed => "Completed"
  | failed => "Failed"
  | canceled => "Canceled"
  | refused => "Refused"

/-- Is it one of the states that are never left? -/
def isTerminal : TransferStatus → Bool
  | completed | failed | canceled | refused => true
  | created | inProgress => false

/-- Is the second state reached from the first in one step? -/
def leadsTo : TransferStatus → TransferStatus → Bool
  | created, inProgress | created, failed | created, canceled | created, refused => true
  | inProgress, completed | inProgress, failed | inProgress, canceled => true
  | _, _ => false

/-- A terminal state is never left. -/
theorem leadsTo_eq_false_of_isTerminal {s t : TransferStatus} (h : s.isTerminal) :
    s.leadsTo t = false := by
  cases s <;> first | rfl | cases h

end TransferStatus

/-- Which way the bytes go. -/
inductive Direction
  | incoming | outgoing
  deriving DecidableEq, Repr

def Direction.name : Direction → String
  | incoming => "In"
  | outgoing => "Out"

end SlotUpload
