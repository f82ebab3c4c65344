import SlotUpload.Text.Numeral
import SlotUpload.Text.Utf8

/-!
# SlotUpload.Url.Percent

Percent encoding.  Every part of a URL has a set of printable ASCII characters
that must be encoded there; control characters and everything outside ASCII are
encoded everywhere.  Decoding replaces `%` with two hexadecimal digits by the
byte they name and leaves every other character alone.
-/

namespace SlotUpload.Url.Percent

/-! ## sets -/

/-- The printable ASCII characters to encode in a fragment. -/
def inFragment (c : Char) : Bool := " \"<>`".contains c

/-- The printable ASCII characters to encode in a path. -/
def inPath (c : Char) : Bool := inFragment c || "#?\x7b\x7d".contains c

/-- The printable ASCII characters to encode in a user name or password. -/
def inUserinfo (c : Char) : Bool := inPath c || "/:;=@[\\]^|".contains c

/-- The printable ASCII characters to encode in a query. -/
def inQuery (c : Char) : Bool := " \"#<>".contains c

/-- The printable ASCII characters to encode in a query of a special scheme. -/
def inSpecialQuery (c : Char) : Bool := inQuery c || c == '\''

/-- No printable ASCII character at all. -/
def controlsOnly (_ : Char) : Bool := false

/-! ## encoding -/

/-- The upper-case hexadecimal digit of a number below 16. -/
def upperHex (n : Nat) : Char := if n < 10 then Char.ofNat (48 + n) else Char.ofNat (55 + n)

/-- A byte as `%` and two digits. -/
def encodeByte (b : UInt8) : List Char := ['%', upperHex (b.toNat / 16), upperHex (b.toNat % 16)]

/-- Is the character encoded where the set is `set`? -/
def isEncoded (set : Char → Bool) (c : Char) : Bool := c.toNat < 0x20 || 0x7F ≤ c.toNat || set c

/-- One character, encoded if it has to be. -/
def encodeChar (set : Char → Bool) (c : Char) : List Char :=
  if isEncoded set c then (String.utf8EncodeChar c).flatMap encodeByte else [c]

/-- A text with every character encoded that has to be. -/
def encode (set : Char → Bool) (s : List Char) : List Char := s.flatMap (encodeChar set)

/-! ## decoding -/

/-- The bytes a text stands for. -/
def decode : List Char → List UInt8
  | '%' :: a :: b :: rest =>
    match Text.hexDigit? a, Text.hexDigit? b with
    | some x, some y => UInt8.ofNat (x * 16 + y) :: decode rest
    | _, _ => 0x25 :: decode (a :: b :: rest)
  | c :: rest => String.utf8EncodeChar c ++ decode rest
  | [] => []
termination_by s => s.length

end SlotUpload.Url.Percent
