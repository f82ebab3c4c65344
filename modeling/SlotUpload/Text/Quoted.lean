import SlotUpload.Text.Visible

/-!
# SlotUpload.Text.Quoted

Texts quoted for a message: between double quotes, with a backslash in front of
quotes and backslashes, short names for the usual control characters, and the
hexadecimal code point of every other character that cannot be seen.
-/

namespace SlotUpload.Text

/-- One character inside quotes. -/
def quoteChar (c : Char) : List Char :=
  match c with
  | '"' => ['\\', '"']
  | '\\' => ['\\', '\\']
  | '\n' => ['\\', 'n']
  | '\r' => ['\\', 'r']
  | '\t' => ['\\', 't']
  | '\x00' => ['\\', '0']
  | c => if isVisible c then [c] else ['\\', 'u', '\x7b'] ++ hexDigits c.toNat ++ ['\x7d']

/-- A text between double quotes, fit to be read in a message. -/
def quoted (s : String) : String :=
  "\"" ++ String.ofList (s.toList.flatMap quoteChar) ++ "\""

end SlotUpload.Text
