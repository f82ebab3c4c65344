import SlotUpload.Text.Composition
import SlotUpload.Text.Direction
import SlotUpload.Text.Joining
import SlotUpload.Text.Split
import SlotUpload.Url.Domain.Mapping
import SlotUpload.Url.Error
import SlotUpload.Url.Punycode

/-!
# SlotUpload.Url.Domain

Names of hosts in their ASCII form.  A name is mapped and composed, cut into
labels at the full stops, and a label with other characters than ASCII ones is
written in Punycode after `xn--`.  A label that is already written so must be
the ASCII form of some label.
-/

namespace SlotUpload.Url.Domain

open SlotUpload.Text

/-- The characters that no host name may hold. -/
def isForbidden (c : Char) : Bool :=
  c.toNat ≤ 0x20 || c.toNat == 0x7F || "%#/:<>?@[\\]^|".contains c

def isAscii (s : List Char) : Bool := s.all (·.toNat < 128)

/-! ## labels -/

/-- What the label begins with that is written in Punycode. -/
def marker : List Char := "xn--".toList

/-- The longest texts that are brought into Punycode and back. -/
def longest : Nat := 1000

def longestWritten : Nat := 2000

/-- May the characters of a label that is not all ASCII stand together? -/
def isLabel (label : List Char) : Bool :=
  !isAscii label && label.all isPlain && compose label == label && !label.head?.any isMark
    && joinersFit [] label

/-- The label that a written one stands for, without its marker. -/
def unwrite? (digits : List Char) : Option (List Char) :=
  if isAscii digits ∧ digits.getLast? ≠ some '-' ∧ digits.length ≤ longestWritten then
    Punycode.decode? digits
  else none

/-- The label that part of a name stands for; it stands for itself unless it is
written in Punycode. -/
def label? (piece : List Char) : Option (List Char) :=
  if marker.isPrefixOf piece then (unwrite? (piece.drop marker.length)).filter isLabel
  else if isAscii piece ∨ isLabel piece then some piece
  else none

/-- A label in ASCII. -/
def write? (label : List Char) : Option (List Char) :=
  if isAscii label then some label
  else if label.length ≤ longest then some (marker ++ Punycode.encode label)
  else none

/-! ## names -/

/-- Does any part of a name run from right to left? -/
def runsRightToLeft (labels : List (List Char)) : Bool :=
  labels.any (·.any fun c => (Direction.of c).isRightToLeft)

/-- The labels of a name that has been mapped and composed. -/
def labels? (name : List Char) : Option (List (List Char)) :=
  if name.any isForbidden then none
  else
    match (pieces (· == '.') name).mapM label? with
    | none => none
    | some labels =>
      if runsRightToLeft labels ∧ !labels.all Direction.labelFits then none else some labels

/-- The ASCII form of a name. -/
def ascii? (name : List Char) : Option (List Char) := do
  let mapped ← mapName name
  let labels ← labels? (compose mapped)
  return join ['.'] (← labels.mapM write?)

/-- The ASCII form of a host name, or the error that it has none. -/
def toAscii (name : List Char) : Except Error (List Char) :=
  match ascii? name with
  | some name => .ok name
  | none => .error .invalidDomain

end SlotUpload.Url.Domain
