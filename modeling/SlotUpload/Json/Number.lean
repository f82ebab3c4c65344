import SlotUpload.Decimal.Shortest
import SlotUpload.Json.Fault

/-!
# SlotUpload.Json.Number

Numbers.  A number without fraction and exponent is whole as long as it fits
into 64 bits; every other number is a double.  Of a double the digits that fit
into 64 bits count, scaled by one power of ten.
-/

namespace SlotUpload.Json

inductive Number
  | whole (n : UInt64)
  /-- A whole number below zero, by its distance from zero. -/
  | negative (n : UInt64)
  | real (x : Float)

namespace Number

/-- The shortest text of a double: positional from 1e-5 up to 1e16, with a digit
after the point, and with a signed exponent beyond. -/
def realText (x : Float) : String :=
  let sign := if x.toBits < 0x8000000000000000 then "" else "-"
  let d := Decimal.ofFloat x
  let ds := Text.digits d.digits
  let size : Int := ds.length
  let point := size + d.exponent
  let zeros (n : Int) : List Char := List.replicate n.toNat '0'
  sign ++ String.ofList (
    if d.digits = 0 then ['0', '.', '0']
    else if 0 ≤ d.exponent ∧ point ≤ 16 then ds ++ zeros d.exponent ++ ['.', '0']
    else if 0 < point ∧ point ≤ 16 then ds.take point.toNat ++ '.' :: ds.drop point.toNat
    else if -5 < point ∧ point ≤ 0 then ['0', '.'] ++ zeros (-point) ++ ds
    else
      let power := point - 1
      let exponent := 'e' :: (if 0 ≤ power then '+' else '-') :: Text.digits power.natAbs
      if ds.length = 1 then ds ++ exponent else ds.take 1 ++ '.' :: ds.drop 1 ++ exponent)

/-- The number as a message names it. -/
def description : Number → String
  | whole n => s!"integer `{n.toNat}`"
  | negative n => s!"integer `-{n.toNat}`"
  | real x => "floating point `" ++ realText x ++ "`"

end Number

/-! ## doubles -/

/-- The double `n · 10 ^ exponent`, unless it is too large. -/
def scaled? (x : Float) (exponent : Int) : Option Float :=
  if exponent.natAbs ≤ 308 then
    let power := Float.ofScientific 1 false exponent.natAbs
    let y := if 0 ≤ exponent then x * power else x / power
    if y.isInf then none else some y
  else if x == 0 then some x
  else if 0 ≤ exponent then none
  else scaled? (x / Float.ofScientific 1 false 308) (exponent + 308)
termination_by exponent.natAbs
decreasing_by omega

/-- A double from its sign, digits and power of ten. -/
def double (positive : Bool) (digits : Nat) (exponent : Int) (rest : List Char) :
    Except Fault (Number × List Char) :=
  match scaled? (UInt64.ofNat digits).toFloat exponent with
  | some x => .ok (.real (if positive then x else -x), rest)
  | none => .error (.before .numberOutOfRange rest)

/-- Takes digits as long as the number fits into 64 bits; gives the number, how
many digits were taken, and the rest. -/
def takeDigits (n count : Nat) : List Char → Nat × Nat × List Char
  | [] => (n, count, [])
  | c :: cs =>
    match Text.digit? c with
    | some d =>
      if n * 10 + d < UInt64.size then takeDigits (n * 10 + d) (count + 1) cs
      else (n, count, c :: cs)
    | none => (n, count, c :: cs)

/-- The text without the digits it starts with. -/
def dropDigits (s : List Char) : List Char := s.dropWhile Char.isDigit

/-- Does the text start with a digit? -/
def startsWithDigit (s : List Char) : Bool := s.head?.any Char.isDigit

/-- The digits of an exponent that has started with `n`.  An exponent beyond 32
bits makes any number but zero too large, or zero. -/
def exponentDigits (positive rising : Bool) (digits : Nat) (start : Int) (n : Nat) :
    List Char → Except Fault (Number × List Char)
  | [] => double positive digits (if rising then start + n else start - n) []
  | c :: cs =>
    match Text.digit? c with
    | none => double positive digits (if rising then start + n else start - n) (c :: cs)
    | some d =>
      if n * 10 + d < 0x80000000 then exponentDigits positive rising digits start (n * 10 + d) cs
      else if digits ≠ 0 ∧ rising then .error (.before .numberOutOfRange cs)
      else double positive 0 0 (dropDigits cs)

/-- A double, from the text after the letter of its exponent. -/
def exponentPart (positive : Bool) (digits : Nat) (start : Int) (s : List Char) :
    Except Fault (Number × List Char) :=
  let (rising, s) := match s with
    | '+' :: s => (true, s)
    | '-' :: s => (false, s)
    | s => (true, s)
  match s with
  | [] => .error (.before .endInValue [])
  | c :: cs =>
    match Text.digit? c with
    | some d => exponentDigits positive rising digits start d cs
    | none => .error (.within .invalidNumber (c :: cs))

/-- A double, from the text after its last digit. -/
def afterDigits (positive : Bool) (digits : Nat) (start : Int) (s : List Char) :
    Except Fault (Number × List Char) :=
  match s with
  | 'e' :: s | 'E' :: s => exponentPart positive digits start s
  | s => double positive digits start s

/-- A double, from the text after its point. -/
def fractionPart (positive : Bool) (digits : Nat) (start : Int) (s : List Char) :
    Except Fault (Number × List Char) :=
  let (digits, count, rest) := takeDigits digits 0 s
  if startsWithDigit rest then afterDigits positive digits (start - count) (dropDigits rest)
  else if count = 0 then
    .error (.within (if rest.isEmpty then .endInValue else .invalidNumber) rest)
  else afterDigits positive digits (start - count) rest

/-- A number, from the text after its whole digits. -/
def afterWhole (positive : Bool) (n : Nat) (s : List Char) : Except Fault (Number × List Char) :=
  match s with
  | '.' :: s => fractionPart positive n 0 s
  | 'e' :: s | 'E' :: s => exponentPart positive n 0 s
  | s =>
    if positive then .ok (.whole (UInt64.ofNat n), s)
    else if n = 0 ∨ 0x8000000000000000 < n then .ok (.real (-(UInt64.ofNat n).toFloat), s)
    else .ok (.negative (UInt64.ofNat n), s)

/-- A number without its sign. -/
def readNumber (positive : Bool) (s : List Char) : Except Fault (Number × List Char) :=
  match s with
  | [] => .error (.before .endInValue [])
  | '0' :: s =>
    if startsWithDigit s then .error (.within .invalidNumber s) else afterWhole positive 0 s
  | c :: s =>
    if !c.isDigit then .error (.within .invalidNumber (c :: s))
    else
      let (n, _, rest) := takeDigits 0 0 (c :: s)
      if !startsWithDigit rest then afterWhole positive n rest
      else
        let after := dropDigits rest
        let start : Int := rest.length - after.length
        match after with
        | '.' :: s => fractionPart positive n start s
        | s => afterDigits positive n start s

/-! ## skipping -/

/-- What follows the exponent of a number, from the text after its letter. -/
def skipExponent (s : List Char) : Except Fault (List Char) :=
  let s := match s with
    | '+' :: s | '-' :: s => s
    | s => s
  match s with
  | [] => .error (.before .invalidNumber [])
  | c :: s =>
    if c.isDigit then .ok (dropDigits s) else .error (.within .invalidNumber (c :: s))

/-- What follows a number without its sign. -/
def skipNumber (s : List Char) : Except Fault (List Char) := do
  let s ← match s with
    | [] => throw (.before .invalidNumber [])
    | '0' :: s => if startsWithDigit s then throw (.within .invalidNumber s) else pure s
    | c :: s => if c.isDigit then pure (dropDigits s) else throw (.within .invalidNumber (c :: s))
  match s with
  | '.' :: s =>
    if !startsWithDigit s then throw (.within .invalidNumber s)
    match dropDigits s with
    | 'e' :: s | 'E' :: s => skipExponent s
    | s => return s
  | 'e' :: s | 'E' :: s => skipExponent s
  | s => return s

end SlotUpload.Json
