import SlotUpload.Url.Parser

/-!
# SlotUpload.Facade.Incoming

Share URLs received from a contact, waiting to be accepted or rejected.
-/

namespace SlotUpload

structure IncomingRequest where
  id : String
  sender : String
  url : Url
  deriving DecidableEq, Repr

/-- The name under which the sender shares the file. -/
def IncomingRequest.fileName (r : IncomingRequest) : String := r.url.fileName

end SlotUpload
