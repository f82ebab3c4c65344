import SlotUpload.Payload.Basic

/-!
# SlotUpload.Payload.Slot

Slots.  A slot is a pair of URLs for one file: one to put the file to and one to
get it from, and headers to send with the former.  Header names are distinct: a
repeated name replaces the earlier value where that stands.
-/

namespace SlotUpload

structure Slot where
  putUrl : Url
  getUrl : Url
  headers : List (String × String) := []
  deriving DecidableEq, Repr

namespace Slot

/-- A header list with one more header. -/
def insertHeader (name value : String) : List (String × String) → List (String × String)
  | [] => [(name, value)]
  | h :: hs => if h.1 = name then (name, value) :: hs else h :: insertHeader name value hs

/-- The slot with one more header. -/
def withHeader (s : Slot) (name value : String) : Slot :=
  { s with headers := insertHeader name value s.headers }

/-! ## writing -/

def headerElement (header : String × String) : String :=
  "<header name='" ++ Xml.escaped header.1 ++ "'>" ++ Xml.escaped header.2 ++ "</header>"

/-- The slot as a payload; the legacy schema has no room for headers. -/
def encode (version : Version) (s : Slot) : String :=
  let opening := "<slot xmlns='" ++ version.namespaceName ++ "'>"
  match version with
  | .current =>
    opening ++ "<put url='" ++ Xml.escaped s.putUrl.toString ++ "'" ++
      (if s.headers.isEmpty then "/>"
        else ">" ++ String.join (s.headers.map headerElement) ++ "</put>") ++
      "<get url='" ++ Xml.escaped s.getUrl.toString ++ "'/>" ++ "</slot>"
  | .legacy =>
    opening ++ Payload.textElement "put" s.putUrl.toString ++
      Payload.textElement "get" s.getUrl.toString ++ "</slot>"

/-! ## reading -/

/-- The raw URL in a `put` or `get` element, by the schema. -/
def rawUrl? (version : Version) (e : Xml.Element) : Option String :=
  match version with
  | .current => e.attribute? "url"
  | .legacy => some e.text

/-- Name and value of a `header` element. -/
def readHeader (e : Xml.Element) : Except PayloadError (String × String) :=
  (Payload.required "header without name" (e.attribute? "name")).map fun name => (name, e.text)

/-- The headers in a `put` element, by the schema. -/
def readHeaders (version : Version) (put : Xml.Element) :
    Except PayloadError (List (String × String)) :=
  match version with
  | .current => (put.children.filter (·.name == "header")).mapM readHeader
  | .legacy => .ok []

/-- The slot that a payload denotes. -/
def decode (document : String) : Except PayloadError Slot := do
  let root ← Payload.root document
  let version ← Payload.versionOf root
  let put ← Payload.required "missing put element" (root.child? "put")
  let get ← Payload.required "missing get element" (root.child? "get")
  let putUrl ← Payload.readUrl "put" (rawUrl? version put)
  let getUrl ← Payload.readUrl "get" (rawUrl? version get)
  let headers ← readHeaders version put
  return headers.foldl (fun s (name, value) => s.withHeader name value) { putUrl, getUrl }

end Slot

end SlotUpload
