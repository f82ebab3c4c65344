import SlotUpload.Json.Fault

/-!
# SlotUpload.Json.Literal

Texts between quotes.  Reading replaces the escapes; skipping only looks for the
closing quote and does not ask what an escaped number stands for.
-/

namespace SlotUpload.Json

/-- The number of four hexadecimal digits. -/
def hexNumber (s : List Char) : Except Fault Nat :=
  if Text.byteSize s < 4 then .error ⟨.endInText, 0⟩
  else
    match (s.take 4).mapM Text.hexDigit? with
    | some ds => .ok (ds.foldl (fun n d => n * 16 + d) 0)
    | none => .error ⟨.invalidEscape, Text.byteSize s - 4⟩

/-- Does the number start a pair of surrogates? -/
def isLeading (n : Nat) : Bool := 0xD800 ≤ n && n ≤ 0xDBFF

/-- Does the number end a pair of surrogates? -/
def isTrailing (n : Nat) : Bool := 0xDC00 ≤ n && n ≤ 0xDFFF

/-- Expects a character inside a pair of surrogates. -/
def expectInPair (c : Char) : List Char → Except Fault (List Char)
  | [] => .error (.before .endInText [])
  | d :: s => if d = c then .ok s else .error (.within .endOfEscape (d :: s))

/-- The character of a numeric escape, from the text after the `u`, and the
number of characters that the escape takes. -/
def numericEscape (s : List Char) : Except Fault (Char × Nat) := do
  let n ← hexNumber s
  if isTrailing n then throw (.before .loneSurrogate (s.drop 4))
  if !isLeading n then return (Char.ofNat n, 4)
  let rest ← expectInPair '\\' (s.drop 4)
  let rest ← expectInPair 'u' rest
  let m ← hexNumber rest
  if !isTrailing m then throw (.before .loneSurrogate (rest.drop 4))
  return (Char.ofNat ((n - 0xD800) * 0x400 + (m - 0xDC00) + 0x10000), 10)

/-- The character that stands for another one after a backslash. -/
def shortEscape? : Char → Option Char
  | '"' => some '"'
  | '\\' => some '\\'
  | '/' => some '/'
  | 'b' => some '\x08'
  | 'f' => some '\x0C'
  | 'n' => some '\n'
  | 'r' => some '\r'
  | 't' => some '\t'
  | _ => none

/-- What follows a backslash: its character, and the number of characters that
it takes. -/
def escape (s : List Char) : Except Fault (Char × Nat) :=
  match s with
  | [] => .error (.before .endInText [])
  | 'u' :: rest => (numericEscape rest).map fun (c, n) => (c, n + 1)
  | c :: rest =>
    match shortEscape? c with
    | some d => .ok (d, 1)
    | none => .error (.within .invalidEscape (c :: rest))

/-- The number of characters that an escape takes, whatever it stands for. -/
def escapeWidth (s : List Char) : Except Fault Nat :=
  match s with
  | 'u' :: rest => (hexNumber rest).map fun _ => 5
  | s => (escape s).map (·.2)

/-- The text up to the closing quote, and what follows the quote. -/
def readText (s : List Char) : Except Fault (List Char × List Char) :=
  match s with
  | [] => .error (.before .endInText [])
  | '"' :: rest => .ok ([], rest)
  | '\\' :: rest =>
    match escape rest with
    | .error e => .error e
    | .ok (c, n) => (readText (rest.drop n)).map fun (cs, rest) => (c :: cs, rest)
  | c :: rest =>
    if c < ' ' then .error (.before .controlCharacter rest)
    else (readText rest).map fun (cs, rest) => (c :: cs, rest)
termination_by s.length
decreasing_by
  · simp only [List.length_cons, List.length_drop]; omega
  · simp

/-- What follows the closing quote of a text. -/
def skipText (s : List Char) : Except Fault (List Char) :=
  match s with
  | [] => .error (.before .endInText [])
  | '"' :: rest => .ok rest
  | '\\' :: rest =>
    match escapeWidth rest with
    | .error e => .error e
    | .ok n => skipText (rest.drop n)
  | c :: rest => if c < ' ' then .error (.before .controlCharacter (c :: rest)) else skipText rest
termination_by s.length
decreasing_by
  · simp only [List.length_cons, List.length_drop]; omega
  · simp

end SlotUpload.Json
