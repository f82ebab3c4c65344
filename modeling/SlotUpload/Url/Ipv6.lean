import SlotUpload.Text.Numeral
import SlotUpload.Text.Split
import SlotUpload.Url.Error

/-!
# SlotUpload.Url.Ipv6

IPv6 addresses: eight pieces of 16 bits in hexadecimal, where `::` stands for as
many zero pieces as are missing and the last two pieces may be written as an
IPv4 address.  Addresses are written with the first of the longest runs of two
or more zero pieces shortened to `::`.
-/

namespace SlotUpload.Url

/-- An IPv6 address: its pieces, the first one first. -/
structure Ipv6 where
  pieces : List UInt16
  deriving DecidableEq, Repr

namespace Ipv6

/-! ## reading -/

/-- A number from 0 to 255 in decimal with no leading zero. -/
def byte? (s : List Char) : Option Nat :=
  match s with
  | '0' :: _ :: _ => none
  | s =>
    match Text.natural? s with
    | some n => if n < 256 then some n else none
    | none => none

/-- The two pieces that an IPv4 address stands for. -/
def embedded? (s : List Char) : Option (List Nat) :=
  match (Text.pieces (· == '.') s).mapM byte? with
  | some [a, b, c, d] => some [a * 256 + b, c * 256 + d]
  | _ => none

/-- One piece of one to four hexadecimal digits. -/
def piece? (s : List Char) : Option Nat :=
  if s.isEmpty ∨ 4 < s.length then none
  else (s.mapM Text.hexDigit?).map fun ds => ds.foldl (fun n d => n * 16 + d) 0

/-- Pieces separated by colons; the last may be an IPv4 address. -/
def run? : List (List Char) → Option (List Nat)
  | [] => some []
  | [s] => if s.contains '.' then embedded? s else (piece? s).map ([·])
  | s :: ss =>
    match piece? s, run? ss with
    | some n, some ns => some (n :: ns)
    | _, _ => none

/-- A run of pieces in a text; the empty text has none. -/
def runOf? (s : List Char) : Option (List Nat) :=
  if s.isEmpty then some [] else run? (Text.pieces (· == ':') s)

/-- The text before the first `::` and the text after it. -/
def cutGap? : List Char → Option (List Char × List Char)
  | ':' :: ':' :: rest => some ([], rest)
  | c :: rest => (cutGap? rest).map fun (a, b) => (c :: a, b)
  | [] => none

/-- The address a text denotes.  Before a gap no IPv4 address may stand. -/
def parse (s : List Char) : Except Error Ipv6 :=
  let found : Option (List Nat) :=
    match cutGap? s with
    | none => (runOf? s).bind fun ns => if ns.length = 8 then some ns else none
    | some (a, b) =>
      if a.contains '.' then none
      else match runOf? a, runOf? b with
        | some front, some back =>
          if front.length + back.length < 8 then
            some (front ++ List.replicate (8 - front.length - back.length) 0 ++ back)
          else none
        | _, _ => none
  match found with
  | some ns => .ok ⟨ns.map UInt16.ofNat⟩
  | none => .error .invalidIpv6

/-! ## writing -/

/-- How many pieces at the front are zero. -/
def zeros (ps : List UInt16) : Nat := (ps.takeWhile (· == 0)).length

/-- Start and length of the first of the longest runs of zeros, where the list
starts at `index` and `best` is the best run before it. -/
def longestZeros (index : Nat) (best : Nat × Nat) : List UInt16 → Nat × Nat
  | [] => best
  | p :: ps =>
    let n := zeros (p :: ps)
    longestZeros (index + 1) (if best.2 < n then (index, n) else best) ps

/-- Pieces in hexadecimal with colons between them. -/
def writeRun (ps : List UInt16) : List Char :=
  Text.join [':'] (ps.map fun p => Text.hexDigits p.toNat)

protected def toString (a : Ipv6) : String :=
  let (start, length) := longestZeros 0 (0, 1) a.pieces
  String.ofList <|
    if length < 2 then writeRun a.pieces
    else writeRun (a.pieces.take start) ++ [':', ':'] ++ writeRun (a.pieces.drop (start + length))

end Ipv6

end SlotUpload.Url
