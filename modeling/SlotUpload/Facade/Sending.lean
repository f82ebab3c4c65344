import SlotUpload.Discovery.Discover
import SlotUpload.Upload.File

/-!
# SlotUpload.Facade.Sending

Sending a file to a contact or a room.  A file that cannot be read is turned
down before anything happens; everything after that happens in a task of its own
and shows only in the transfer.
-/

namespace SlotUpload.Facade

/-- The size of a file that can be read and is not empty. -/
def readableSize (path : String) : Attempt UInt64 := do
  match ← Attempt.query (.examine path) with
  | .error e => throw (Upload.unusable path e)
  | .ok (.directory _) => throw (Upload.notFile path)
  | .ok (.file content) =>
    match ← Attempt.query (.openFile path) with
    | .error e => throw (Upload.unusable path e)
    | .ok _ =>
      if content.isEmpty then throw (.invalidArgument (path ++ " is empty"))
      return Upload.sizeOf (.file content)

/-- What is logged when a transfer is created. -/
def createdEntry (t : Transfer) (destination : Destination) (size : UInt64) : Log.Entry :=
  { level := .info
    message := "outgoing transfer created"
    fields :=
      [("transfer", t.id), ("to", destination.address), ("file", t.file),
       ("size", String.ofList (Text.digits size.toNat))] }

/-- Creates a transfer for a file and tells the listeners of it. -/
def send (destination : Destination) (path : String) : Attempt Transfer := do
  let size ← readableSize path
  let id ← Attempt.query .drawId
  let transfer := Transfer.new id .outgoing (some destination) path
  Attempt.query (.log (createdEntry transfer destination size))
  Attempt.query (.notify (.created transfer))
  return transfer

/-- The work of a task that sends a file. -/
def sendingWork (server : String) (blockSize : Nat) (path : String) : Attempt Url := do
  let _ ← ExceptT.lift (Discovery.ensure server)
  Upload.uploadFile blockSize path true

/-- What is logged when the URL of a file that was sent cannot be delivered. -/
def undeliveredEntry (id : String) (destination : Destination) (causes : Causes) : Log.Entry :=
  { level := .error
    message := "failed to deliver share url"
    fields := [("transfer", id), ("to", destination.address), ("error", causes.line)] }

/-- Delivers the URL of a file that was sent. -/
def share (id : String) (destination : Destination) (url : Url) : Job Unit := do
  match ← Job.query (.deliver destination url.toString) with
  | .ok () => return ()
  | .error causes => Job.query (.log (undeliveredEntry id destination causes))

/-- The largest file that the default service accepts, if it is known. -/
def maximumSize : Job (Option UInt64) := do
  return (← Job.query .cached).bind (·.maxFileSize)

end SlotUpload.Facade
