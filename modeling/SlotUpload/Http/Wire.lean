import SlotUpload.Http.Message

/-!
# SlotUpload.Http.Wire

Requests and replies as the bytes of a connection that serves one exchange.  A
request is of version 1.0, so that no reply comes in pieces with lengths of their
own: a reply ends where the length ends that it declares, or with the connection
if it declares none.
-/

namespace SlotUpload.Http.Wire

/-! ## requests -/

def methodName : Method → String
  | .get => "GET"
  | .head => "HEAD"
  | .put => "PUT"

/-- What is asked for: the path and the query of a URL. -/
def target (url : Url) : String :=
  url.path.toString ++ (match url.query with | some q => "?" ++ q | none => "")

/-- The server that a URL leads to, without user name and password. -/
def serverOf (url : Url) : String :=
  match url.authority with
  | some a => { a with user := "", password := none : Url.Authority }.toString
  | none => ""

/-- The headers of a request; its own come before the usual ones. -/
def headersOf (agent : String) (r : Request) : Headers :=
  let usual : Headers :=
    [("host", serverOf r.url), ("user-agent", agent), ("accept", "*/*"), ("connection", "close")]
  r.headers.foldl (fun hs (name, value) => hs.set name value) usual

/-- The lines before the body of a request. -/
def head (agent : String) (r : Request) : List UInt8 :=
  let lines := (headersOf agent r).map fun (name, value) => name ++ ": " ++ value ++ "\r\n"
  Text.encode
    (methodName r.method ++ " " ++ target r.url ++ " HTTP/1.0\r\n" ++ String.join lines ++
      "\r\n").toList

/-! ## replies -/

/-- The bytes before the first empty line, and those after it. -/
def splitHead? : List UInt8 → Option (List UInt8 × List UInt8)
  | 13 :: 10 :: 13 :: 10 :: body => some ([], body)
  | b :: rest => (splitHead? rest).map fun (head, body) => (b :: head, body)
  | [] => none

/-- The status that the first line of a reply tells. -/
def status? (line : List Char) : Option Status := do
  let (version, rest) ← Text.cut? ' ' line
  let code ← Text.natural? (rest.take 3)
  if "HTTP/1.".toList.isPrefixOf version ∧ 100 ≤ code then some ⟨UInt16.ofNat code⟩ else none

/-- The header in a line. -/
def header? (line : List Char) : Option (String × String) := do
  let (name, value) ← Text.cut? ':' line
  return (String.ofList (name.map Char.toLower), String.ofList (Text.trim value))

/-- The body that a reply declares, as far as it came, and whether all of it did. -/
def bodyOf (headers : Headers) (came : List UInt8) : List UInt8 × Bool :=
  match (headers.get? "content-length").bind fun value => Text.natural? value.toList with
  | some size => (came.take size, size ≤ came.length)
  | none => (came, true)

/-- The reply that a server sent before it closed the connection.  A reply to a
question about a file declares a body that does not follow. -/
def response? (method : Method) (sent : List UInt8) : Option Response := do
  let (head, came) ← splitHead? sent
  let lines := (Text.pieces (· == '\n') (head.map fun b => Char.ofNat b.toNat)).map Text.trim
  let status ← lines.head?.bind status?
  let headers ← (lines.drop 1).mapM header?
  let (body, whole) := if method = .head then ([], true) else bodyOf headers came
  return {
    status
    headers
    chunks := if body.isEmpty then [] else [body]
    fault := if whole then none else some "error decoding response body" }

end SlotUpload.Http.Wire
