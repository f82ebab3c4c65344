import SlotUpload.Payload.Basic

/-!
# SlotUpload.Failure

What can go wrong with a slot or a transfer, and how it is reported.
-/

namespace SlotUpload

/-- An error with the errors that led to it, outermost first, each as its text. -/
abbrev Causes := List String

/-- The texts of a chain of errors in one line. -/
def Causes.line (causes : Causes) : String := ": ".intercalate causes

inductive UploadError
  | noService
  | fileTooLarge (limit : UInt64)
  | negotiationFailed (causes : Causes)
  | malformedReply (detail : String)
  | rejected (status : UInt16) (detail : String)
  | transferFailed (causes : Causes)
  | canceled
  | invalidArgument (detail : String)
  deriving DecidableEq, Repr

namespace UploadError

def message : UploadError → String
  | noService => "no upload service specified and none discovered"
  | fileTooLarge limit =>
    s!"file is larger than the maximum of {limit.toNat} bytes accepted by the upload service"
  | negotiationFailed causes => "slot negotiation failed: " ++ causes.line
  | malformedReply detail => "malformed slot response: " ++ detail
  | rejected status detail => s!"upload rejected with HTTP {status.toNat}: {detail}"
  | transferFailed causes => "transfer I/O failure: " ++ causes.line
  | canceled => "transfer canceled"
  | invalidArgument detail => "invalid argument: " ++ detail

/-- The error with the errors that led to it. -/
def chain (e : UploadError) : Causes :=
  e.message :: (match e with
    | negotiationFailed causes | transferFailed causes => causes
    | _ => [])

/-- The status of the reply that rejected an upload. -/
def status? : UploadError → Option UInt16
  | rejected status _ => some status
  | _ => none

/-- A faulty payload is a fault of the reply, except for a request that the
caller may not make. -/
def ofPayload (e : PayloadError) : UploadError :=
  match e with
  | .emptyFile => invalidArgument e.message
  | e => malformedReply e.message

end UploadError

end SlotUpload
