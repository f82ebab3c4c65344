import SlotUpload.Http.Client
import SlotUpload.Upload.Headers
import SlotUpload.Upload.Negotiation

/-!
# SlotUpload.Upload.Stream

Putting a body to a slot.  The body is sent in blocks; progress is reported once
before the request, with no bytes, and then after every block that the connection
took.  What was sent is counted whether progress is reported or not.
-/

namespace SlotUpload.Upload

/-- The content in blocks of `size` bytes, of which the last may be shorter. -/
def blocksOf (size : Nat) (content : List UInt8) : List (List UInt8) :=
  match content with
  | [] => []
  | b :: bs =>
    if size = 0 then [b :: bs]
    else (b :: bs).take size :: blocksOf size ((b :: bs).drop size)
termination_by content.length
decreasing_by simp; omega

/-- Reports progress, if anyone wants to know. -/
def report (wanted : Bool) (done total : UInt64) : Job Unit :=
  if wanted then Job.query (.progress done total) else pure ()

/-- Accounts for blocks that the connection took; `done` bytes went before. -/
def account (wanted : Bool) (total done : UInt64) : List (List UInt8) → Job Unit
  | [] => pure ()
  | block :: blocks => do
    Job.query .wait
    let size := UInt64.ofNat block.length
    Job.query (.countSent size)
    report wanted (done + size) total
    account wanted total (done + size) blocks

/-- An error that the statistics keep as the last one. -/
def failWith (e : UploadError) (text : String) : Attempt α := do
  Attempt.query (.noteError text)
  throw e

/-- Puts content to a slot, declared as `size` bytes long.  The blocks that the connection took
are accounted for when the exchange is over, one after another, and not while the body goes out:
the order of reports and counts is the same, but what another job does meanwhile is seen before
all of them. -/
def putStream (blockSize : Nat) (slot : Slot) (content : List UInt8) (size : UInt64)
    (wanted : Bool) : Attempt Unit := do
  match requestHeaders slot size with
  | .error e => throw (.malformedReply e.message)
  | .ok headers =>
    let blocks := blocksOf blockSize content
    ExceptT.lift (report wanted 0 size)
    let request : Http.Request := { method := .put, url := slot.putUrl, headers, blocks }
    let exchange ← ExceptT.lift (Http.perform request)
    ExceptT.lift (account wanted size 0 (blocks.take exchange.taken))
    match exchange.result with
    | .error text => failWith (.transferFailed [text]) text
    | .ok response =>
      match Http.judgeUpload response.status response.text with
      | .ok () => return ()
      | .error e => failWith e e.message

/-- Asks for a slot at the default service, puts content there, and gives the
URL to share. -/
def uploadStream (blockSize : Nat) (content : List UInt8) (fileName : String) (size : UInt64)
    (wanted : Bool) : Attempt Url := do
  let slot ← requestSlot fileName size (some octetStream) none
  putStream blockSize slot content size wanted
  return slot.getUrl

end SlotUpload.Upload
