import SlotUpload.Http.Client

/-!
# SlotUpload.Download.Probe

The size of a file before it is downloaded, as far as its server tells it.
-/

namespace SlotUpload.Download

/-- What is logged when the server cannot be asked. -/
def probeEntry (url : Url) (text : String) : Log.Entry :=
  { level := .warn
    message := "file size probe failed"
    fields := [("url", url.toString), ("error", text)] }

/-- Asks for the size of what is at a URL. -/
def probeSize (url : Url) : Job (Option UInt64) := do
  let exchange ← Http.perform { method := .head, url }
  match exchange.result with
  | .error text =>
    Job.query (.log (probeEntry url text))
    return none
  | .ok response =>
    if response.status.isSuccess then
      return (response.headers.get? "content-length").bind Text.count?
    else return none

end SlotUpload.Download
