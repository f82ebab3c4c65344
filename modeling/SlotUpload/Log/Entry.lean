import SlotUpload.Log.Moment
import SlotUpload.Text.Blank

/-!
# SlotUpload.Log.Entry

Entries of the process log, one line each: the time, the level, the message
between quotes, and fields as `key=value`.  A value is quoted if it is empty or
holds a blank, a quote or an equals sign; inside quotes the characters that
could end the value or the line are escaped.
-/

namespace SlotUpload.Log

inductive Level
  | debug | info | warn | error
  deriving DecidableEq, Repr

def Level.name : Level → String
  | debug => "DEBUG"
  | info => "INFO"
  | warn => "WARN"
  | error => "ERROR"

/-- An entry; its time is that of writing it down. -/
structure Entry where
  level : Level
  message : String
  fields : List (String × String) := []
  deriving DecidableEq, Repr

/-- One character inside quotes. -/
def escapeChar : Char → List Char
  | '\\' => ['\\', '\\']
  | '"' => ['\\', '"']
  | '\n' => ['\\', 'n']
  | '\r' => ['\\', 'r']
  | '\t' => ['\\', 't']
  | c => [c]

/-- A text between quotes. -/
def quote (s : String) : String := "\"" ++ String.ofList (s.toList.flatMap escapeChar) ++ "\""

/-- Can a value stand without quotes? -/
def isBare (s : String) : Bool :=
  !s.isEmpty && s.toList.all fun c => !(Text.isBlank c || c == '"' || c == '=')

/-- A value as it stands in a line. -/
def value (s : String) : String := if isBare s then s else quote s

namespace Entry

/-- A field with the space before it. -/
def fieldText (field : String × String) : String := " " ++ field.1 ++ "=" ++ value field.2

/-- The entry without its time. -/
def text (e : Entry) : String :=
  "level=" ++ e.level.name ++ " msg=" ++ quote e.message ++ String.join (e.fields.map fieldText)

/-- The line that is written for an entry, with the end of line. -/
def line (e : Entry) (moment : Moment) : String := "time=" ++ moment.text ++ " " ++ e.text ++ "\n"

end Entry

end SlotUpload.Log
