import SlotUpload.Text.Blank

/-!
# SlotUpload.Text.Numeral

Decimal numerals.  `digits` writes a number with no leading zero; `natural?`
reads any non-empty run of decimal digits; `bounded?` reads a count below a
limit, with at most one `+` in front, and refuses a number that is too large
instead of wrapping it.
-/

namespace SlotUpload.Text

/-- The decimal digits of a number. -/
def digits (n : Nat) : List Char := Nat.toDigits 10 n

/-- The decimal digits of a number, after its sign if it is negative. -/
def signedDigits (n : Int) : List Char :=
  if n < 0 then '-' :: digits n.natAbs else digits n.natAbs

/-- The value of a decimal digit. -/
def digit? (c : Char) : Option Nat :=
  if '0' ≤ c ∧ c ≤ '9' then some (c.toNat - '0'.toNat) else none

/-- Reads digits after a number already read. -/
def naturalFrom (n : Nat) : List Char → Option Nat
  | [] => some n
  | c :: cs =>
    match digit? c with
    | some d => naturalFrom (n * 10 + d) cs
    | none => none

/-- The number that a non-empty run of decimal digits denotes. -/
def natural? : List Char → Option Nat
  | [] => none
  | c :: cs => naturalFrom 0 (c :: cs)

/-- Drops one plus sign at the front. -/
def dropPlus : List Char → List Char
  | '+' :: cs => cs
  | cs => cs

/-- The number below `limit` that a text denotes, if it denotes one. -/
def bounded? (limit : Nat) (s : List Char) : Option Nat :=
  match natural? (dropPlus s) with
  | some n => if n < limit then some n else none
  | none => none

/-- The 64-bit count that a text denotes, blanks around it left out. -/
def count? (s : String) : Option UInt64 :=
  (bounded? UInt64.size (trim s.toList)).map UInt64.ofNat

/-- The value of a hexadecimal digit. -/
def hexDigit? (c : Char) : Option Nat :=
  if '0' ≤ c ∧ c ≤ '9' then some (c.toNat - '0'.toNat)
  else if 'a' ≤ c ∧ c ≤ 'f' then some (c.toNat - 'a'.toNat + 10)
  else if 'A' ≤ c ∧ c ≤ 'F' then some (c.toNat - 'A'.toNat + 10)
  else none

/-- The lower-case hexadecimal digits of a number. -/
def hexDigits (n : Nat) : List Char := Nat.toDigits 16 n

end SlotUpload.Text
