import SlotUpload.Text.Quoted
import SlotUpload.Text.Utf8

/-!
# SlotUpload.Json.Fault

What is wrong with a document, and where.  While a document is read a place is
known by the number of bytes behind it; `Fault.message` turns it into a line and
a column, both counted in bytes.
-/

namespace SlotUpload.Json

/-- What can be wrong with a document. -/
inductive Flaw
  | endInList | endInObject | endInText | endInValue
  | expectedColon | expectedListEnd | expectedObjectEnd | expectedWord | expectedValue
  | invalidEscape | invalidNumber | numberOutOfRange | controlCharacter
  | keyNotText | loneSurrogate | endOfEscape
  | trailingComma | trailingCharacters
  /-- A value of another kind than the one expected. -/
  | wrongType (found expected : String)
  /-- A value of the right kind that is out of bounds. -/
  | wrongValue (found expected : String)
  | duplicateField (name : String)
  deriving DecidableEq, Repr

def Flaw.message : Flaw → String
  | endInList => "EOF while parsing a list"
  | endInObject => "EOF while parsing an object"
  | endInText => "EOF while parsing a string"
  | endInValue => "EOF while parsing a value"
  | expectedColon => "expected `:`"
  | expectedListEnd => "expected `,` or `]`"
  | expectedObjectEnd => "expected `,` or `\x7d`"
  | expectedWord => "expected ident"
  | expectedValue => "expected value"
  | invalidEscape => "invalid escape"
  | invalidNumber => "invalid number"
  | numberOutOfRange => "number out of range"
  | controlCharacter => "control character (\\u0000-\\u001F) found while parsing a string"
  | keyNotText => "key must be a string"
  | loneSurrogate => "lone leading surrogate in hex escape"
  | endOfEscape => "unexpected end of hex escape"
  | trailingComma => "trailing comma"
  | trailingCharacters => "trailing characters"
  | wrongType found expected => "invalid type: " ++ found ++ ", expected " ++ expected
  | wrongValue found expected => "invalid value: " ++ found ++ ", expected " ++ expected
  | duplicateField name => "duplicate field `" ++ name ++ "`"

structure Fault where
  flaw : Flaw
  /-- How many bytes follow the place. -/
  left : Nat
  deriving DecidableEq, Repr

namespace Fault

/-- A fault at the place where `rest` starts. -/
def before (flaw : Flaw) (rest : List Char) : Fault := ⟨flaw, Text.byteSize rest⟩

/-- A fault one byte further, or at the end if there is no byte. -/
def within (flaw : Flaw) (rest : List Char) : Fault := ⟨flaw, Text.byteSize rest - 1⟩

/-- The fault in one line; `document` is the text that was read. -/
def message (f : Fault) (document : List Char) : String :=
  let bytes := Text.encode document
  let read := bytes.take (bytes.length - f.left)
  let line := 1 + read.count 10
  let column := (read.reverse.takeWhile (· ≠ 10)).length
  f.flaw.message ++ s!" at line {line} column {column}"

end Fault

end SlotUpload.Json
