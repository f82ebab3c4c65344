import SlotUpload.Payload.Version
import SlotUpload.Url.Parser
import SlotUpload.Xml.Element

/-!
# SlotUpload.Payload.Basic

What payloads have in common: their faults, the fields they carry and the
writing of text elements.
-/

namespace SlotUpload

/-- What can be wrong with a payload. -/
inductive PayloadError
  | badDocument (fault : Xml.Error)
  | unknownNamespace (name : String)
  /-- A part that has to be there is not; the words name it. -/
  | missing (words : String)
  | invalidNumber (field raw : String)
  | invalidUrl (field raw : String) (fault : Url.Error)
  /-- A request for a file of no bytes. -/
  | emptyFile
  deriving DecidableEq, Repr

def PayloadError.message : PayloadError → String
  | badDocument fault => fault.message
  | unknownNamespace name => "unknown namespace " ++ Text.quoted name
  | missing words => words
  | invalidNumber field raw => s!"invalid {field}: " ++ Text.quoted raw
  | invalidUrl field raw fault =>
    s!"invalid {field} url " ++ Text.quoted raw ++ ": " ++ fault.message
  | emptyFile => "file size must be greater than zero"

namespace Payload

/-! ## writing -/

/-- An element with nothing but text in it. -/
def textElement (name text : String) : String :=
  "<" ++ name ++ ">" ++ Xml.escaped text ++ "</" ++ name ++ ">"

/-- A number as a field. -/
def number (n : UInt64) : String := String.ofList (Text.digits n.toNat)

/-! ## reading -/

/-- The root element of a payload. -/
def root (document : String) : Except PayloadError Xml.Element :=
  (Xml.Element.parse document).mapError .badDocument

/-- The schema of an element. -/
def versionOf (e : Xml.Element) : Except PayloadError Version :=
  let name := e.xmlns.getD ""
  match Version.ofNamespace? name with
  | some v => .ok v
  | none => .error (.unknownNamespace name)

/-- A part that has to be there. -/
def required (words : String) : Option α → Except PayloadError α
  | some a => .ok a
  | none => .error (.missing words)

/-- A number that has to be there. -/
def readNumber (field : String) (raw : Option String) : Except PayloadError UInt64 :=
  match raw with
  | none => .error (.missing ("missing " ++ field))
  | some raw =>
    match Text.count? raw with
    | some n => .ok n
    | none => .error (.invalidNumber field raw)

/-- A URL that has to be there; blanks around it do not belong to it. -/
def readUrl (field : String) (raw : Option String) : Except PayloadError Url :=
  let raw := Text.trimmed (raw.getD "")
  if raw.isEmpty then .error (.missing s!"missing {field} url")
  else (Url.parse raw).mapError (.invalidUrl field raw)

end Payload

end SlotUpload
