import SlotUpload.Text.Split

/-!
# SlotUpload.Files.Path

Paths as texts.  Empty components and components of one dot count for nothing,
except for a dot at the very start of a relative path.
-/

namespace SlotUpload.Path

/-- Does the path start at the root? -/
def isAbsolute (path : String) : Bool := path.startsWith "/"

/-- The path `path` as seen from the directory `base`. -/
def join (base path : String) : String :=
  if isAbsolute path ∨ base.isEmpty then path
  else if base.endsWith "/" then base ++ path
  else base ++ "/" ++ path

/-- Cuts off the components at the end that count for nothing; the text is
reversed. -/
def dropIdle : List Char → List Char
  | '/' :: s => if s.isEmpty then ['/'] else dropIdle s
  | '.' :: '/' :: s => dropIdle ('/' :: s)
  | s => s

/-- Directory and last component of a reversed path with nothing idle at its end. -/
def cutLast (s : List Char) : List Char × List Char :=
  (s.dropWhile (· != '/'), s.takeWhile (· != '/'))

/-- The directory that the path's last component is in; the root and the empty
path have no last component. -/
def parent? (path : String) : Option String :=
  match dropIdle path.toList.reverse with
  | [] | ['/'] => none
  | s => some (String.ofList (dropIdle (cutLast s).1).reverse)

/-- The last component of a path, unless it is only a way to a directory. -/
def fileName? (path : String) : Option String :=
  match dropIdle path.toList.reverse with
  | [] | ['/'] => none
  | s =>
    let name := String.ofList (cutLast s).2.reverse
    if name = ".." ∨ name = "." then none else some name

end SlotUpload.Path
