/-!
# SlotUpload.Session.Destination

Where the URL of an uploaded file is published.
-/

namespace SlotUpload

inductive Destination
  | contact (address : String)
  | room (address : String)
  deriving DecidableEq, Repr

namespace Destination

def address : Destination → String
  | contact a | room a => a

protected def toString : Destination → String
  | contact a => "contact " ++ a
  | room a => "room " ++ a

end Destination

end SlotUpload
