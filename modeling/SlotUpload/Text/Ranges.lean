import SlotUpload.Text.Numeral

/-!
# SlotUpload.Text.Ranges

Sets of code points written down as ranges.  A table is a text of hexadecimal
words with blanks between them: `a` stands for one code point and `a-b` for all
from `a` to `b`.
-/

namespace SlotUpload.Text

/-- Ranges of code points, both ends included. -/
abbrev Ranges := List (Nat × Nat)

namespace Ranges

/-- Is a code point in one of the ranges? -/
def has (n : Nat) (table : Ranges) : Bool := table.any fun r => r.1 ≤ n && n ≤ r.2

/-- How far the reading of a table has come: the ranges read, last first, the
lower end of the range being read, and the number being read. -/
structure Reading where
  ranges : Ranges := []
  lower : Option Nat := none
  number : Option Nat := none

/-- Ends the range being read, if there is one. -/
def Reading.close (r : Reading) : Reading :=
  match r.number with
  | none => r
  | some n => { ranges := (r.lower.getD n, n) :: r.ranges }

/-- Reads one character of a table. -/
def Reading.push (r : Reading) (c : Char) : Reading :=
  match hexDigit? c with
  | some d => { r with number := some (r.number.getD 0 * 16 + d) }
  | none => if c = '-' then { r with lower := r.number, number := none } else r.close

/-- The ranges of a table. -/
def ofTable (text : String) : Ranges :=
  (text.toList.foldl Reading.push {}).close.ranges.reverse

end Ranges

end SlotUpload.Text
