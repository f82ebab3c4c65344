import SlotUpload.Text.Numeral
import SlotUpload.Text.Utf8
import SlotUpload.Xml.Error

/-!
# SlotUpload.Xml.Escape

Markup characters as references and back.  `escape` writes the five markup
characters as their predefined names; `unescape` reads those names and
character numbers, decimal or hexadecimal.  Main statement: `unescape` undoes
`escape` on every text (`unescape_escape`).
-/

namespace SlotUpload.Xml

/-! ## writing -/

def escapeChar : Char → List Char
  | '<' => ['&', 'l', 't', ';']
  | '>' => ['&', 'g', 't', ';']
  | '&' => ['&', 'a', 'm', 'p', ';']
  | '\'' => ['&', 'a', 'p', 'o', 's', ';']
  | '"' => ['&', 'q', 'u', 'o', 't', ';']
  | c => [c]

/-- The text with every markup character written as a reference. -/
def escape (s : List Char) : List Char := s.flatMap escapeChar

/-- `escape` on strings. -/
def escaped (s : String) : String := String.ofList (escape s.toList)

/-! ## reading -/

namespace Reference

/-- The first byte of a character, as a character of its own. -/
def firstByte (c : Char) : Char :=
  match String.utf8EncodeChar c with
  | b :: _ => Char.ofNat b.toNat
  | [] => c

/-- The number written in the digits that `digit?` knows, after `n`; else the
first other character. -/
def numberFrom (base : Nat) (digit? : Char → Option Nat) (n : Nat) : List Char → Except Char Nat
  | [] => .ok n
  | c :: cs =>
    match digit? c with
    | some d => numberFrom base digit? (n * base + d) cs
    | none => .error (firstByte c)

/-- The number of a character reference, given what stands after its `#`.
Hexadecimal digits follow an `x`; there is room for the largest code point. -/
def number (body : List Char) : Except ReferenceError Nat :=
  match body with
  | 'x' :: digits =>
    if Text.byteSize digits > 6 then .error .hexadecimalTooLong
    else (numberFrom 16 Text.hexDigit? 0 digits).mapError .notHexadecimal
  | digits =>
    if Text.byteSize digits > 7 then .error .decimalTooLong
    else (numberFrom 10 Text.digit? 0 digits).mapError .notDecimal

/-- The character a reference stands for: `body` is what it has between `&` and
`;`, which stand at the offsets `start` and `stop`. -/
def resolve (start stop : Nat) (body : List Char) : Except ReferenceError Char :=
  match body with
  | ['l', 't'] => .ok '<'
  | ['g', 't'] => .ok '>'
  | ['a', 'm', 'p'] => .ok '&'
  | ['a', 'p', 'o', 's'] => .ok '\''
  | ['q', 'u', 'o', 't'] => .ok '"'
  | '#' :: digits =>
    match number digits with
    | .error e => .error e
    | .ok n =>
      if n = 0 then .error (.zero start stop)
      else if n.isValidChar then .ok (Char.ofNat n)
      else .error (.notCharacter n)
  | name => .error (.unknown (start + 1) stop (String.ofList name))

/-- The characters that a reference's name ends before. -/
def stops (c : Char) : Bool := c == '&' || c == ';'

end Reference

/-- Reads a text of `size` bytes from the offset `pos` on. -/
def unescapeFrom (size : Nat) : Nat → List Char → Except ReferenceError (List Char)
  | _, [] => .ok []
  | pos, c :: cs =>
    if c = '&' then
      match _rest : cs.dropWhile (!Reference.stops ·) with
      | ';' :: rest =>
        let body := cs.takeWhile (!Reference.stops ·)
        let stop := pos + 1 + Text.byteSize body
        match Reference.resolve pos stop body with
        | .error e => .error e
        | .ok x => (unescapeFrom size (stop + 1) rest).map (x :: ·)
      | _ => .error (.unterminated pos size)
    else (unescapeFrom size (pos + c.utf8Size) cs).map (c :: ·)
termination_by _ s => s.length
decreasing_by
  · have := (List.dropWhile_sublist (!Reference.stops ·) (l := cs)).length_le
    rw [_rest] at this
    simp only [List.length_cons] at this ⊢
    omega
  · simp

/-- The text with every reference replaced by its character. -/
def unescape (s : List Char) : Except ReferenceError (List Char) :=
  unescapeFrom (Text.byteSize s) 0 s

/-! ## reading undoes writing -/

/-- An escaped character is read back. -/
theorem unescapeFrom_escapeChar (size pos : Nat) (c : Char) (rest : List Char) :
    ∃ pos', unescapeFrom size pos (escapeChar c ++ rest) =
      (unescapeFrom size pos' rest).map (c :: ·) := by
  unfold escapeChar
  split
  case h_6 =>
    refine ⟨pos + c.utf8Size, ?_⟩
    rw [List.singleton_append, unescapeFrom, if_neg (by simp_all)]
  case h_1 | h_2 => exact ⟨pos + 1 + 2 + 1, by rw [List.cons_append, unescapeFrom, if_pos rfl]; rfl⟩
  case h_3 => exact ⟨pos + 1 + 3 + 1, by rw [List.cons_append, unescapeFrom, if_pos rfl]; rfl⟩
  case h_4 | h_5 => exact ⟨pos + 1 + 4 + 1, by rw [List.cons_append, unescapeFrom, if_pos rfl]; rfl⟩

/-- An escaped text is read back. -/
theorem unescapeFrom_escape (size pos : Nat) (s : List Char) :
    unescapeFrom size pos (escape s) = .ok s := by
  induction s generalizing pos with
  | nil => simp [escape, unescapeFrom]
  | cons c s ih =>
    obtain ⟨pos', h⟩ := unescapeFrom_escapeChar size pos c (escape s)
    rw [escape, List.flatMap_cons, ← escape, h, ih]
    rfl

/-- Reading undoes writing on every text. -/
theorem unescape_escape (s : List Char) : unescape (escape s) = .ok s :=
  unescapeFrom_escape _ _ _

end SlotUpload.Xml
