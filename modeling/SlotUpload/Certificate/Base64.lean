/-!
# SlotUpload.Certificate.Base64

Bytes written with 64 digits, four digits for three bytes.  The last group may
have two or three digits, and may then be filled up to four with equals signs;
bits that fill up no byte count for nothing.  Blanks may stand anywhere.
-/

namespace SlotUpload.Certificate.Base64

/-- Is the byte a blank? -/
def isBlank (b : UInt8) : Bool := (9 ≤ b && b ≤ 13) || b == 32

/-- The value of a digit. -/
def sextet? (b : UInt8) : Option Nat :=
  let n := b.toNat
  if 65 ≤ n ∧ n ≤ 90 then some (n - 65)
  else if 97 ≤ n ∧ n ≤ 122 then some (n - 71)
  else if 48 ≤ n ∧ n ≤ 57 then some (n + 4)
  else if n = 43 then some 62
  else if n = 47 then some 63
  else none

/-- The byte that fills up the last group. -/
def filler : UInt8 := 61

/-- The byte of two digits. -/
def one? (a b : UInt8) : Option (List UInt8) := do
  let a ← sextet? a
  let b ← sextet? b
  return [UInt8.ofNat (a * 4 + b / 16)]

/-- The bytes of three digits. -/
def two? (a b c : UInt8) : Option (List UInt8) := do
  let first ← one? a b
  let b ← sextet? b
  let c ← sextet? c
  return first ++ [UInt8.ofNat (b * 16 + c / 4)]

/-- The bytes of four digits. -/
def three? (a b c d : UInt8) : Option (List UInt8) := do
  let first ← two? a b c
  let c ← sextet? c
  let d ← sextet? d
  return first ++ [UInt8.ofNat (c * 64 + d)]

/-- The bytes of a text without blanks. -/
def groups? : List UInt8 → Option (List UInt8)
  | [] => some []
  | [_] => none
  | [a, b] => one? a b
  | [a, b, c] => two? a b c
  | [a, b, c, d] =>
    if d = filler then (if c = filler then one? a b else two? a b c) else three? a b c d
  | a :: b :: c :: d :: rest => do
    let bytes ← three? a b c d
    return bytes ++ (← groups? rest)

/-- The bytes that a text stands for. -/
def decode? (text : List UInt8) : Option (List UInt8) := groups? (text.filter (!isBlank ·))

end SlotUpload.Certificate.Base64
