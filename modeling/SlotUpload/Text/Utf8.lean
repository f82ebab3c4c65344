/-!
# SlotUpload.Text.Utf8

UTF-8 (RFC 3629): characters as bytes and bytes as characters.  A byte sequence
is cut into characters from the left.  Where no character starts, the longest
prefix that some character could still have had is one ill-formed piece:
`decodeLossy` puts U+FFFD for each such piece, `decode?` refuses the whole.
-/

namespace SlotUpload.Text

/-- The bytes of a text. -/
def encode (s : List Char) : List UInt8 := s.flatMap String.utf8EncodeChar

/-- How many bytes a text takes. -/
def byteSize (s : List Char) : Nat := s.foldr (fun c n => c.utf8Size + n) 0

namespace Utf8

/-- What the first byte of a character promises: how many bytes follow, the
least and the greatest value of the next one, and the bits it carries itself. -/
structure Lead where
  owed : Nat
  low : Nat := 0x80
  high : Nat := 0xBF
  bits : Nat

/-- The promise of a first byte; no character starts with the other bytes. -/
def lead? (b : UInt8) : Option Lead :=
  let n := b.toNat
  if n < 0x80 then some { owed := 0, bits := n }
  else if n < 0xC2 then none
  else if n < 0xE0 then some { owed := 1, bits := n - 0xC0 }
  else if n = 0xE0 then some { owed := 2, low := 0xA0, bits := 0 }
  else if n = 0xED then some { owed := 2, high := 0x9F, bits := 13 }
  else if n < 0xF0 then some { owed := 2, bits := n - 0xE0 }
  else if n = 0xF0 then some { owed := 3, low := 0x90, bits := 0 }
  else if n < 0xF4 then some { owed := 3, bits := n - 0xF0 }
  else if n = 0xF4 then some { owed := 3, high := 0x8F, bits := 4 }
  else none

/-- Reads the bytes still owed to a character; gives its number, or none when
one is missing or out of its bounds, and the bytes not used. -/
def follow (owed low high bits : Nat) : List UInt8 → Option Nat × List UInt8
  | [] => (if owed = 0 then some bits else none, [])
  | b :: bs =>
    match owed with
    | 0 => (some bits, b :: bs)
    | k + 1 =>
      if low ≤ b.toNat ∧ b.toNat ≤ high then
        follow k 0x80 0xBF (bits * 64 + b.toNat % 64) bs
      else (none, b :: bs)

/-- The first piece of a non-empty byte sequence: its character, or none for an
ill-formed piece, and the bytes after it. -/
def piece (b : UInt8) (bs : List UInt8) : Option Char × List UInt8 :=
  match lead? b with
  | none => (none, bs)
  | some l =>
    match follow l.owed l.low l.high l.bits bs with
    | (n, rest) => (n.map Char.ofNat, rest)

/-- What follows is not longer than what there was. -/
theorem length_follow_le (owed low high bits : Nat) (bs : List UInt8) :
    (follow owed low high bits bs).2.length ≤ bs.length := by
  induction bs generalizing owed low high bits with
  | nil => simp [follow]
  | cons b bs ih =>
    cases owed with
    | zero => simp [follow]
    | succ k =>
      unfold follow
      dsimp only
      split
      · exact Nat.le_succ_of_le (ih _ _ _ _)
      · simp

/-- A piece takes at least its first byte. -/
theorem length_piece_le (b : UInt8) (bs : List UInt8) : (piece b bs).2.length ≤ bs.length := by
  unfold piece
  split
  · simp
  · exact length_follow_le _ _ _ _ _

/-- The pieces of a byte sequence, from left to right. -/
def pieces : List UInt8 → List (Option Char)
  | [] => []
  | b :: bs => (piece b bs).1 :: pieces (piece b bs).2
termination_by bs => bs.length
decreasing_by exact Nat.lt_succ_of_le (length_piece_le b bs)

end Utf8

/-- The text of a byte sequence, with U+FFFD for every ill-formed piece. -/
def decodeLossy (bytes : List UInt8) : List Char :=
  (Utf8.pieces bytes).map (·.getD '\uFFFD')

/-- The text of a byte sequence, if all of it is well formed. -/
def decode? (bytes : List UInt8) : Option (List Char) :=
  (Utf8.pieces bytes).mapM id

end SlotUpload.Text
