import SlotUpload.Http.Header
import SlotUpload.Payload.Slot

/-!
# SlotUpload.Upload.Headers

The headers of an upload: type and length of the body, then the headers that the
slot asks for, of which each replaces an earlier one of its name.
-/

namespace SlotUpload.Upload

/-- The content type of a body of bytes. -/
def octetStream : String := "application/octet-stream"

inductive HeaderError
  | invalidName (name : String)
  | invalidValue (name : String)
  deriving DecidableEq, Repr

def HeaderError.message : HeaderError → String
  | invalidName name => "invalid slot header name " ++ Text.quoted name
  | invalidValue name => "invalid value for slot header " ++ name.toLower

/-- Adds one header of a slot. -/
def addHeader (hs : Http.Headers) (header : String × String) : Except HeaderError Http.Headers :=
  if !Http.isHeaderName header.1 then .error (.invalidName header.1)
  else if !Http.isHeaderValue header.2 then .error (.invalidValue header.1)
  else .ok (hs.set header.1.toLower header.2)

/-- The headers for putting `size` bytes to a slot. -/
def requestHeaders (slot : Slot) (size : UInt64) : Except HeaderError Http.Headers :=
  slot.headers.foldlM addHeader
    [("content-type", octetStream), ("content-length", String.ofList (Text.digits size.toNat))]

end SlotUpload.Upload
