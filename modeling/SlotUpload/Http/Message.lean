import SlotUpload.Http.Header
import SlotUpload.Http.Status
import SlotUpload.Url.Parser

/-!
# SlotUpload.Http.Message

Requests, replies, and what an exchange comes to.  The body of a request is cut
into blocks, that of a reply comes in chunks and may break off.
-/

namespace SlotUpload.Http

inductive Method
  | get | head | put
  deriving DecidableEq, Repr

structure Request where
  method : Method
  url : Url
  headers : Headers := []
  blocks : List (List UInt8) := []
  deriving DecidableEq, Repr

structure Response where
  status : Status
  headers : Headers := []
  chunks : List (List UInt8) := []
  /-- Why the body broke off, if it did. -/
  fault : Option String := none
  deriving DecidableEq, Repr

namespace Response

/-- The body as far as it came. -/
def body (r : Response) : List UInt8 := r.chunks.flatten

/-- The body as text; nothing if it broke off. -/
def text (r : Response) : String :=
  match r.fault with
  | none => String.ofList (Text.decodeLossy r.body)
  | some _ => ""

end Response

/-- What an exchange comes to: how many blocks of the body were taken for
sending, and the reply or the text of the error. -/
structure Exchange where
  taken : Nat := 0
  result : Except String Response

/-- The exchange that fails because the server cannot be reached. -/
def Request.unreached (r : Request) : Exchange :=
  { result := .error ("error sending request for url (" ++ r.url.toString ++ ")") }

end SlotUpload.Http
