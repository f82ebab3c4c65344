import SlotUpload.Text.Blank
import SlotUpload.Text.Quoted
import SlotUpload.Text.Split

/-!
# SlotUpload.Command.HeaderOption

Headers given on the command line as `name=value`.  The name ends at the first
equals sign and loses the blanks around it; the value is taken as it is.
-/

namespace SlotUpload.Command

inductive HeaderOptionError
  | noEquals (raw : String)
  | emptyName
  deriving DecidableEq, Repr

def HeaderOptionError.message : HeaderOptionError → String
  | noEquals raw => "expected name=value, got " ++ Text.quoted raw
  | emptyName => "header name is empty"

/-- Name and value of a header. -/
def readHeader (raw : String) : Except HeaderOptionError (String × String) :=
  match Text.cut? '=' raw.toList with
  | none => .error (.noEquals raw)
  | some (name, value) =>
    match Text.trim name with
    | [] => .error .emptyName
    | name => .ok (String.ofList name, String.ofList value)

end SlotUpload.Command
