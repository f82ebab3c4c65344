import SlotUpload.Discovery.Info
import SlotUpload.Failure

/-!
# SlotUpload.Session.Reply

Answers to what is sent over a messaging session.
-/

namespace SlotUpload

/-- The answer to a request: a payload, or the `error` element of a refusal. -/
inductive SessionReply
  | result (payload : String)
  | error (payload : String)
  deriving DecidableEq, Repr

end SlotUpload
