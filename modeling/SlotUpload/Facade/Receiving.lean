import SlotUpload.Download.File

/-!
# SlotUpload.Facade.Receiving

Share URLs from contacts.  A URL that comes in waits as a request; accepting the
request creates a transfer under the name of the request.
-/

namespace SlotUpload.Facade

/-- What is logged when a URL comes in. -/
def receivedEntry (r : IncomingRequest) : Log.Entry :=
  { level := .info
    message := "incoming transfer request"
    fields := [("request", r.id), ("from", r.sender), ("url", r.url.toString)] }

/-- Takes in a URL and tells the listeners of it. -/
def receive (sender : String) (url : Url) : Job IncomingRequest := do
  let id ← Job.query .drawId
  let request : IncomingRequest := { id, sender, url }
  Job.query (.log (receivedEntry request))
  Job.query (.notify (.received request))
  return request

/-- Creates the transfer of a request into a file and tells the listeners of it. -/
def accept (request : IncomingRequest) (path : String) : Job Transfer := do
  let transfer := Transfer.new request.id .incoming (some (.contact request.sender)) path
  Job.query (.notify (.created transfer))
  return transfer

/-- Turns a request down and tells the listeners of it. -/
def reject (request : IncomingRequest) : Job Unit := do
  Job.query (.log
    { level := .info
      message := "incoming transfer rejected"
      fields := [("request", request.id)] })
  Job.query (.notify (.rejected request))

/-- The work of a task that receives a file. -/
def receivingWork (request : IncomingRequest) (path : String) : Attempt UInt64 :=
  Download.getToFile request.url path

end SlotUpload.Facade
