import SlotUpload.Discovery.Discover
import SlotUpload.Payload.FileTooLarge
import SlotUpload.Payload.Slot
import SlotUpload.Payload.SlotRequest

/-!
# SlotUpload.Upload.Negotiation

Asking an upload service for a slot.  A file that is too large for the service,
or empty, is turned down without asking; the service is asked at most once.
-/

namespace SlotUpload.Upload

/-- What is logged when a service is asked. -/
def requestEntry (r : SlotRequest) : Log.Entry :=
  { level := .info
    message := "requesting upload slot"
    fields :=
      [("service", r.service), ("filename", r.fileName),
       ("size", String.ofList (Text.digits r.size.toNat))] }

/-- A result of reading a payload, with its fault as an error. -/
def liftPayload (r : Except PayloadError α) : Except UploadError α := r.mapError .ofPayload

/-- What an answer to a request for a slot means. -/
def judgeReply (service : UploadService) : SessionReply → Except UploadError Slot
  | .result payload => liftPayload (Slot.decode payload)
  | .error payload =>
    match FileTooLarge.decode payload with
    | .ok (some e) => .error (.fileTooLarge e.maxFileSize)
    | _ =>
      .error (.negotiationFailed
        ["upload service " ++ service.address ++ " returned error: " ++ payload])

/-- Asks for a slot for one file, at the given address or at the default service. -/
def requestSlot (fileName : String) (size : UInt64) (contentType address : Option String) :
    Attempt Slot := do
  let service ← Discovery.resolve address
  if !service.accepts size then
    throw (.fileTooLarge (service.maxFileSize.getD (UInt64.ofNat (UInt64.size - 1))))
  let request ← Attempt.ofExcept
    (liftPayload (SlotRequest.make service.address fileName size contentType))
  Attempt.query (.log (requestEntry request))
  match ← Attempt.query (.request service.address (request.encode service.version)) with
  | .error causes => throw (.negotiationFailed causes)
  | .ok reply => Attempt.ofExcept (judgeReply service reply)

end SlotUpload.Upload
