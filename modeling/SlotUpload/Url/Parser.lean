import SlotUpload.Url.Basic
import SlotUpload.Url.Trail

/-!
# SlotUpload.Url.Parser

Reading URLs.  The text is cut into scheme, authority, path, query and fragment
from the left; every part is brought into its normal form.  Where a text has
several faults the leftmost part decides: scheme, then user, host and port.
-/

namespace SlotUpload.Url

/-! ## the parts of an authority -/

/-- The text before the last `@`, if there is one, and the text after it. -/
def cutLastAt (s : List Char) : Option (List Char) × List Char :=
  let after := (s.reverse.takeWhile (· != '@')).reverse
  if s.contains '@' then (some (s.take (s.length - after.length - 1)), after) else (none, after)

/-- User name and password, given what stands before the `@`. -/
def userinfoOf (s : List Char) : String × Option String :=
  let write (s : List Char) := String.ofList (Percent.encode Percent.inUserinfo s)
  match Text.cut? ':' s with
  | none => (write s, none)
  | some (user, []) => (write user, none)
  | some (user, password) => (write user, some (write password))

/-- The text of the host and the text after it, which starts with a colon unless
it is empty.  A colon between square brackets belongs to the host. -/
def cutHost (inside : Bool) : List Char → List Char × List Char
  | [] => ([], [])
  | c :: cs =>
    if c = ':' ∧ inside = false then ([], c :: cs)
    else
      let (host, rest) := cutHost (c = '[' || (inside && c != ']')) cs
      (c :: host, rest)

/-- The port, given what stands after the colon; a scheme's own port is left out.
A backslash ends it, and the text from there on belongs to the path. -/
def portOf (scheme : String) (s : List Char) : Except Error (Option UInt16 × List Char) :=
  let digits := s.takeWhile (· != '\\')
  let rest := s.dropWhile (· != '\\')
  if digits.isEmpty then .ok (none, rest)
  else match Text.natural? digits with
    | some n =>
      if n < 65536 then
        let port := UInt16.ofNat n
        .ok (if defaultPort? scheme = some port then none else some port, rest)
      else .error .invalidPort
    | none => .error .invalidPort

/-- The host and port of an authority whose scheme is not `file`, and the text
after them. -/
def hostAndPort (scheme : String) (s : List Char) :
    Except Error (Host × Option UInt16 × List Char) :=
  let special := isSpecial scheme
  let (text, rest) := cutHost false s
  if special ∧ text.isEmpty then .error .emptyHost
  else do
    let host ← if special then Host.parseSpecial text else Host.parseGeneral text
    if host.isEmpty ∧ ¬ rest.isEmpty then .error .emptyHost
    else return (host, ← portOf scheme (rest.drop 1))

/-- The authority that a text denotes, where the scheme is not `file`, and the
text after its port; `last` says that the URL ends with it. -/
def authorityOf (scheme : String) (last : Bool) (s : List Char) :
    Except Error (Authority × List Char) :=
  match cutLastAt s with
  | (none, s) => do
    let (host, port, rest) ← hostAndPort scheme s
    return ({ host, port }, rest)
  | (some info, s) =>
    if info.isEmpty ∧ s.isEmpty ∧ ¬ last then .error .emptyHost
    else do
      let (user, password) := userinfoOf info
      let (host, port, rest) ← hostAndPort scheme s
      if host.isEmpty ∧ (user ≠ "" ∨ password.isSome) then .error .emptyHost
      else return ({ user, password, host, port }, rest)

/-! ## the whole -/

/-- Cuts a text after its scheme and colon; the scheme comes in lower case. -/
def cutScheme? (s : List Char) : Option (String × List Char) :=
  match Text.cut? ':' s with
  | none => none
  | some (name, rest) =>
    match joined name with
    | [] => none
    | c :: cs =>
      if c.isAlpha ∧ cs.all (fun c => c.isAlphanum || c == '+' || c == '-' || c == '.') then
        some (String.ofList ((c :: cs).map Char.toLower), rest)
      else none

/-- Query and fragment, given what stands after the path. -/
def tailOf (special : Bool) (s : List Char) : Option String × Option String :=
  let (query, s) :=
    match s with
    | '?' :: s =>
      let set := if special then Percent.inSpecialQuery else Percent.inQuery
      (some (String.ofList (Percent.encode set (s.takeWhile (· != '#')))), s.dropWhile (· != '#'))
    | s => (none, s)
  match s with
  | '#' :: s => (query, some (String.ofList (Percent.encode Percent.inFragment s)))
  | _ => (query, none)

/-- Is the character a slash, or a backslash that counts as one? -/
def isSlash (c : Char) : Bool := c == '/' || c == '\\'

/-- Authority and path of a special URL other than `file`. -/
def special (scheme : String) (s : List Char) : Except Error (Option Authority × Path) :=
  let s := s.dropWhile isSlash
  match authorityOf scheme false (s.takeWhile (!isSlash ·)) with
  | .error e => .error e
  | .ok (authority, _) =>
    .ok (some authority, .segments (segmentsOf true ((s.dropWhile (!isSlash ·)).drop 1)))

/-- The text after a leading slash. -/
def afterSlash? (s : List Char) : Option (List Char) :=
  match s.dropWhile isBreak with
  | [] => none
  | c :: s => if isSlash c then some s else none

/-- The host of a file URL; the local host has no name. -/
def fileHost (s : List Char) : Except Error Host :=
  if s.isEmpty then .ok (.name "")
  else match Host.parseSpecial s with
    | .error e => .error e
    | .ok host => .ok (if host = .name "localhost" then .name "" else host)

/-- Authority and path of a file URL with the given host, which gives way to a
drive; `s` is the text after the first slash of the path. -/
def onHost (host : Host) (s : List Char) : Option Authority × Path :=
  let (list, onDrive) := fileSegmentsOf s
  (some { host := if onDrive then .name "" else host }, .segments list)

/-- Authority and path of a file URL, whose text still holds its breaks.  Where
the host is written and has no name, the path begins with an empty segment. -/
def file (s : List Char) : Except Error (Option Authority × Path) :=
  let localHost : Host := .name ""
  match afterSlash? s with
  | none => .ok (onHost localHost s)
  | some s =>
    match afterSlash? s with
    | none => .ok (onHost localHost s)
    | some s =>
      let name := joined (s.takeWhile (!isSlash ·))
      if isDriveLetter name then .ok (onHost localHost s)
      else match fileHost name with
        | .error e => .error e
        | .ok host =>
          let path := s.dropWhile (!isSlash ·)
          .ok (onHost host (if host = localHost then path else path.drop 1))

/-- Authority and path of a URL with a general scheme; `last` says that there is
nothing after them. -/
def general (scheme : String) (last : Bool) (s : List Char) :
    Except Error (Option Authority × Path) :=
  match s with
  | '/' :: '/' :: s =>
    let rest := s.dropWhile (· != '/')
    match authorityOf scheme (last && rest.isEmpty) (s.takeWhile (· != '/')) with
    | .error e => .error e
    | .ok (authority, more) =>
      .ok (some authority,
        match more ++ rest with
        | [] => .segments []
        | '/' :: s => .segments (segmentsOf false s)
        | s => .segments (segmentsOf false s))
  | '/' :: s => .ok (none, .segments (segmentsOf false s))
  | s => .ok (none, .text (String.ofList (Percent.encode Percent.controlsOnly s)))

/-- Is the character dropped at the ends of a URL? -/
def isOuterBlank (c : Char) : Bool := c.toNat ≤ 0x20

/-- A text without the control characters and spaces around it. -/
def trimmed (s : List Char) : List Char :=
  ((s.dropWhile isOuterBlank).reverse.dropWhile isOuterBlank).reverse

/-- The URL that a text denotes. -/
def parse (s : String) : Except Error Url :=
  match cutScheme? (trimmed s.toList) with
  | none => .error .noScheme
  | some (scheme, s) =>
    let front := s.takeWhile fun c => c != '?' && c != '#'
    let back := joined (s.dropWhile fun c => c != '?' && c != '#')
    let main :=
      if scheme = "file" then file front
      else if isSpecial scheme then special scheme (joined front)
      else general scheme back.isEmpty (joined front)
    match main with
    | .error e => .error e
    | .ok (authority, path) =>
      let (query, fragment) := tailOf (isSpecial scheme) back
      .ok { scheme, authority, path, query, fragment }

end SlotUpload.Url
