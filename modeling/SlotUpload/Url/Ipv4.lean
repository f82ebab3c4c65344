import SlotUpload.Text.Numeral
import SlotUpload.Text.Split
import SlotUpload.Url.Error

/-!
# SlotUpload.Url.Ipv4

IPv4 addresses in host names.  A name whose last part is a number must be an
address: up to four parts, each decimal, octal (after `0`) or hexadecimal (after
`0x`), the last of which fills all bytes that the others leave.
-/

namespace SlotUpload.Url

/-- An IPv4 address. -/
structure Ipv4 where
  value : UInt32
  deriving DecidableEq, Repr

namespace Ipv4

/-- The number that digits of a base denote. -/
def digitsValue? (base : Nat) (s : List Char) : Option Nat :=
  s.foldl (fun n c =>
    match n, Text.hexDigit? c with
    | some n, some d => if d < base then some (n * base + d) else none
    | _, _ => none) (some 0)

/-- The number a part denotes; a prefix alone denotes zero. -/
def part? : List Char → Option Nat
  | [] => none
  | '0' :: 'x' :: s | '0' :: 'X' :: s => digitsValue? 16 s
  | '0' :: c :: s => digitsValue? 8 (c :: s)
  | s => digitsValue? 10 s

/-- The parts of a name, without the empty one after a final dot. -/
def parts (name : List Char) : List (List Char) :=
  let ps := Text.pieces (· == '.') name
  if 1 < ps.length ∧ ps.getLast? = some [] then ps.dropLast else ps

/-- Is the last part of a name a number? -/
def endsInNumber (name : List Char) : Bool :=
  match (parts name).getLast? with
  | none | some [] => false
  | some last => last.all Char.isDigit || (part? last).isSome

/-- The address made of the numbers before the last, and the last. -/
def ofNumbers (front : List Nat) (last : Nat) : Except Error Ipv4 :=
  let rest := Nat.pow 256 (4 - front.length)
  if front.any (255 < ·) ∨ rest ≤ last then .error .invalidIpv4
  else .ok ⟨UInt32.ofNat (front.foldl (fun n part => n * 256 + part) 0 * rest + last)⟩

/-- The address a name denotes. -/
def parse (name : List Char) : Except Error Ipv4 :=
  let ps := parts name
  if 4 < ps.length then .error .invalidIpv4
  else match ps.mapM part? with
    | none => .error .invalidIpv4
    | some numbers =>
      match numbers.getLast? with
      | none => .error .invalidIpv4
      | some last => ofNumbers numbers.dropLast last

/-- Four decimal numbers with dots between them. -/
protected def toString (a : Ipv4) : String :=
  let n := a.value.toNat
  s!"{n / 16777216}.{n / 65536 % 256}.{n / 256 % 256}.{n % 256}"

end Ipv4

end SlotUpload.Url
