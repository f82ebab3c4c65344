import SlotUpload.Json.Literal
import SlotUpload.Json.Number

/-!
# SlotUpload.Json.Reader

Reading a document straight into values of expected types.  A reader takes what
it needs from the front of the text; the first fault, of form or of type, in the
order of the text ends the reading.
-/

namespace SlotUpload.Json

/-- Reads a value from the front of a text. -/
abbrev Reader := StateT (List Char) (Except Fault)

def isSpace (c : Char) : Bool := c == ' ' || c == '\n' || c == '\t' || c == '\r'

/-- A fault at the place reached. -/
def failBefore (flaw : Flaw) : Reader α := fun s => .error (.before flaw s)

/-- A fault in what comes next. -/
def failWithin (flaw : Flaw) : Reader α := fun s => .error (.within flaw s)

/-- The first character after the spaces; it stays in place. -/
def next? : Reader (Option Char) := fun s =>
  let s := s.dropWhile isSpace
  .ok (s.head?, s)

/-- Drops one character. -/
def drop : Reader Unit := modify List.tail

/-- Takes the characters of a word. -/
def word (expected : List Char) : Reader Unit :=
  expected.forM fun c => do
    match ← get with
    | [] => failBefore .endInValue
    | d :: _ => if d = c then drop else failWithin .expectedWord

/-- Reads the number that starts at the place reached. -/
def number : Reader Number := fun s =>
  match s with
  | '-' :: s => readNumber false s
  | s => readNumber true s

/-- The first character of a value. -/
def valueStart : Reader Char := do
  match ← next? with
  | some c => return c
  | none => failWithin .endInValue

/-- Fails at a value that is not of the expected kind.  The value is read as far
as is needed to name it. -/
def mismatch (expected : String) : Reader α := do
  match ← valueStart with
  | 'n' =>
    word "null".toList
    failBefore (.wrongType "null" expected)
  | 't' =>
    word "true".toList
    failBefore (.wrongType "boolean `true`" expected)
  | 'f' =>
    word "false".toList
    failBefore (.wrongType "boolean `false`" expected)
  | '"' =>
    drop
    let text ← readText
    failBefore (.wrongType ("string " ++ Text.quoted (String.ofList text)) expected)
  | '[' => failBefore (.wrongType "sequence" expected)
  | '\x7b' => failBefore (.wrongType "map" expected)
  | c =>
    if c = '-' ∨ c.isDigit then
      let n ← number
      failBefore (.wrongType n.description expected)
    else failWithin .expectedValue

/-! ## skipping -/

/-- Skips a value of any kind; `depth` bounds the number of values in it. -/
def skipWithin : Nat → Reader Unit
  | 0 => failWithin .endInValue
  | depth + 1 => do
    match ← valueStart with
    | 'n' => word "null".toList
    | 't' => word "true".toList
    | 'f' => word "false".toList
    | '"' =>
      drop
      set (← liftM (skipText (← get)))
    | '[' =>
      drop
      match ← next? with
      | some ']' => drop
      | none => failWithin .endInList
      | some _ => skipElements depth
    | '\x7b' =>
      drop
      match ← next? with
      | some '\x7d' => drop
      | none => failWithin .endInObject
      | some _ => skipMembers depth
    | '-' =>
      drop
      set (← liftM (skipNumber (← get)))
    | c => if c.isDigit then set (← liftM (skipNumber (← get))) else failWithin .expectedValue
where
  /-- Skips elements up to the end of a list. -/
  skipElements : Nat → Reader Unit
    | 0 => failWithin .endInValue
    | depth + 1 => do
      skipWithin depth
      match ← next? with
      | some ',' =>
        drop
        skipElements depth
      | some ']' => drop
      | some _ => failWithin .expectedListEnd
      | none => failWithin .endInList
  /-- Skips members up to the end of an object. -/
  skipMembers : Nat → Reader Unit
    | 0 => failWithin .endInValue
    | depth + 1 => do
      match ← next? with
      | some '"' => drop
      | some _ => failWithin .keyNotText
      | none => failWithin .endInObject
      set (← liftM (skipText (← get)))
      match ← next? with
      | some ':' => drop
      | some _ => failWithin .expectedColon
      | none => failWithin .endInObject
      skipWithin depth
      match ← next? with
      | some ',' =>
        drop
        skipMembers depth
      | some '\x7d' => drop
      | some _ => failWithin .expectedObjectEnd
      | none => failWithin .endInObject

/-- Skips a value of any kind. -/
def skip : Reader Unit := do skipWithin (2 * (← get).length + 2)

/-! ## values of expected types -/

/-- A whole number of 64 bits. -/
def natural (expected : String) : Reader UInt64 := do
  let c ← valueStart
  if c = '-' ∨ c.isDigit then
    match ← number with
    | .whole n => return n
    | .negative n => failBefore (.wrongValue (Number.negative n).description expected)
    | .real x => failBefore (.wrongType (Number.real x).description expected)
  else mismatch expected

def boolean : Reader Bool := do
  match ← valueStart with
  | 't' =>
    word "true".toList
    return true
  | 'f' =>
    word "false".toList
    return false
  | _ => mismatch "a boolean"

def text (expected : String) : Reader String := do
  match ← valueStart with
  | '"' =>
    drop
    return String.ofList (← readText)
  | _ => mismatch expected

/-- A value that may be missing: the word `null` stands for none. -/
def nullable (read : Reader α) : Reader (Option α) := do
  match ← next? with
  | some 'n' =>
    word "null".toList
    return none
  | _ => return some (← read)

/-! ## lists -/

/-- Goes on to the next element, if there is one. -/
def element? (first : Bool) : Reader Bool := do
  match ← next? with
  | none => failWithin .endInList
  | some ']' => return false
  | some c =>
    if first then return true
    else if c = ',' then
      drop
      match ← next? with
      | some ']' => failWithin .trailingComma
      | some _ => return true
      | none => failWithin .endInValue
    else failWithin .expectedListEnd

/-- Ends a list after its last element. -/
def closeList : Reader Unit := do
  match ← next? with
  | some ']' => drop
  | some ',' =>
    drop
    match ← next? with
    | some ']' => failWithin .trailingComma
    | _ => failWithin .trailingCharacters
  | some _ => failWithin .trailingCharacters
  | none => failWithin .endInList

/-- Reads elements up to the end of a list, at most `count`. -/
def elements (read : Reader α) : Nat → Bool → Reader (List α)
  | 0, _ => return []
  | count + 1, first => do
    if ← element? first then
      let a ← read
      return a :: (← elements read count false)
    else return []

/-- A list of values of one type. -/
def list (read : Reader α) : Reader (List α) := do
  match ← valueStart with
  | '[' =>
    drop
    let values ← elements read (← get).length true
    closeList
    return values
  | _ => mismatch "a sequence"

/-! ## records -/

/-- Goes on to the next member, if there is one, and reads its name. -/
def member? (first : Bool) : Reader (Option String) := do
  let name : Reader (Option String) := do
    drop
    return some (String.ofList (← readText))
  match ← next? with
  | none => failWithin .endInObject
  | some '\x7d' => return none
  | some c =>
    if first then
      if c = '"' then name else failWithin .keyNotText
    else if c = ',' then
      drop
      match ← next? with
      | some '"' => name
      | some '\x7d' => failWithin .trailingComma
      | some _ => failWithin .keyNotText
      | none => failWithin .endInValue
    else failWithin .expectedObjectEnd

/-- The colon after the name of a member. -/
def colon : Reader Unit := do
  match ← next? with
  | some ':' => drop
  | some _ => failWithin .expectedColon
  | none => failWithin .endInObject

/-- Ends an object after its last member. -/
def closeObject : Reader Unit := do
  match ← next? with
  | some '\x7d' => drop
  | some ',' => failWithin .trailingComma
  | some _ => failWithin .trailingCharacters
  | none => failWithin .endInObject

/-- Fails because of a second member of one name.  The place is where the object
would go on, behind its end if it ends there. -/
def duplicate (name : String) : Reader α := do
  match ← next? with
  | some '\x7d' => drop
  | _ => pure ()
  failBefore (.duplicateField name)

/-- Readers for the fields of a record, which change what is known of it. -/
abbrev Fields (σ : Type) := List (String × (σ → Reader σ))

/-- Reads members, at most `count`; a member of no known name is skipped. -/
def members (fields : Fields σ) : Nat → Bool → List String → σ → Reader σ
  | 0, _, _, record => return record
  | count + 1, first, seen, record => do
    match ← member? first with
    | none => return record
    | some name =>
      match fields.lookup name with
      | none =>
        colon
        skip
        members fields count false seen record
      | some read =>
        if name ∈ seen then duplicate name
        colon
        members fields count false (name :: seen) (← read record)

/-- Reads the fields in their order, as far as a list goes. -/
def inOrder : Fields σ → Bool → σ → Reader σ
  | [], _, record => return record
  | (_, read) :: fields, first, record => do
    if ← element? first then inOrder fields false (← read record) else return record

/-- A record, as an object or as a list of its fields; fields that are missing
stay as they are. -/
def record (name : String) (fields : Fields σ) (start : σ) : Reader σ := do
  match ← valueStart with
  | '[' =>
    drop
    let value ← inOrder fields true start
    closeList
    return value
  | '\x7b' =>
    drop
    let value ← members fields (← get).length true [] start
    closeObject
    return value
  | _ => mismatch ("struct " ++ name)

/-- The value of a whole document. -/
def readDocument (read : Reader α) (document : List Char) : Except Fault α := do
  let (value, rest) ← read document
  match ← next? rest with
  | (none, _) => return value
  | (some _, rest) => throw (.within .trailingCharacters rest)

end SlotUpload.Json
