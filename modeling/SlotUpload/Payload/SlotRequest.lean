import SlotUpload.Payload.Basic

/-!
# SlotUpload.Payload.SlotRequest

Requests for an upload slot.  The current schema writes the fields of a request
as attributes, the legacy one as the text of child elements.
-/

namespace SlotUpload

/-- A request for a slot for one file, addressed to one service. -/
structure SlotRequest where
  service : String
  fileName : String
  size : UInt64
  contentType : Option String
  size_ne_zero : size ≠ 0
  deriving DecidableEq, Repr

namespace SlotRequest

/-- The request for a file; there is none for an empty file. -/
def make (service fileName : String) (size : UInt64) (contentType : Option String) :
    Except PayloadError SlotRequest :=
  if h : size = 0 then .error .emptyFile
  else .ok { service, fileName, size, contentType, size_ne_zero := h }

/-- An attribute with a space before it. -/
def attributeText (name value : String) : String := " " ++ name ++ "='" ++ Xml.escaped value ++ "'"

/-- The request as a payload; the service is the recipient and not part of it. -/
def encode (version : Version) (r : SlotRequest) : String :=
  let opening := "<request xmlns='" ++ version.namespaceName ++ "'"
  match version with
  | .current =>
    opening ++ attributeText "filename" r.fileName ++
      attributeText "size" (Payload.number r.size) ++
      (match r.contentType with | some t => attributeText "content-type" t | none => "") ++ "/>"
  | .legacy =>
    opening ++ ">" ++ Payload.textElement "filename" r.fileName ++
      Payload.textElement "size" (Payload.number r.size) ++
      (match r.contentType with | some t => Payload.textElement "content-type" t | none => "") ++
      "</request>"

/-- A field of a request, by the schema of the request. -/
def field? (version : Version) (e : Xml.Element) (name : String) : Option String :=
  match version with
  | .current => e.attribute? name
  | .legacy => (e.child? name).map (·.text)

/-- The request that a payload denotes, as the service it is sent to reads it. -/
def decode (service document : String) : Except PayloadError (Version × SlotRequest) := do
  let root ← Payload.root document
  let version ← Payload.versionOf root
  let fileName ← Payload.required "request without filename" (field? version root "filename")
  let size ← Payload.readNumber "size" (field? version root "size")
  let request ← make service fileName size (field? version root "content-type")
  return (version, request)

end SlotRequest

end SlotUpload
