import SlotUpload.Payload.Basic

/-!
# SlotUpload.Payload.FileTooLarge

The error by which a service says that a file is larger than it accepts.  It may
stand anywhere inside an error reply; the first one in document order counts.
-/

namespace SlotUpload

/-- The largest size that a service accepts, and the schema it said so in. -/
structure FileTooLarge where
  version : Version
  maxFileSize : UInt64
  deriving DecidableEq, Repr

namespace FileTooLarge

def encode (e : FileTooLarge) : String :=
  "<file-too-large xmlns='" ++ e.version.namespaceName ++ "'>" ++
    Payload.textElement "max-file-size" (Payload.number e.maxFileSize) ++ "</file-too-large>"

/-- Is the element such an error, by its name and namespace? -/
def isOne (e : Xml.Element) : Bool :=
  e.name == "file-too-large" && (e.xmlns.bind Version.ofNamespace?).isSome

/-- The limit that an error reply tells, or nothing if it is some other error. -/
def decode (document : String) : Except PayloadError (Option FileTooLarge) := do
  let root ← Payload.root document
  match root.find? isOne with
  | none => return none
  | some found =>
    let version ← Payload.versionOf found
    let raw := (found.child? "max-file-size").map (·.text)
    let maxFileSize ← Payload.readNumber "max-file-size" raw
    return some { version, maxFileSize }

end FileTooLarge

end SlotUpload
