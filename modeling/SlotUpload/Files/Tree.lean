import SlotUpload.Files.Path
import SlotUpload.Text.Utf8

/-!
# SlotUpload.Files.Tree

File systems as values: directories and files by their place below the root, and
a working directory.  Every operation walks along a path from one component to
the next and fails where a component is missing or is no directory.
-/

namespace SlotUpload

/-- Faults of file operations. -/
inductive FileError
  | notFound
  | exists
  | notDirectory
  | isDirectory
  | nameTooLong
  /-- A path with a zero character in it. -/
  | zeroInPath
  | notText
  /-- Any other fault, by its text. -/
  | other (text : String)
  deriving DecidableEq, Repr

/-- The text of a fault, with the number that the system gives it. -/
def FileError.message : FileError → String
  | notFound => "No such file or directory (os error 2)"
  | «exists» => "File exists (os error 17)"
  | notDirectory => "Not a directory (os error 20)"
  | isDirectory => "Is a directory (os error 21)"
  | nameTooLong => "File name too long (os error 36)"
  | zeroInPath => "file name contained an unexpected NUL byte"
  | notText => "stream did not contain valid UTF-8"
  | other text => text

/-- A place: the names on the way to it. -/
abbrev Place := List String

/-- What can be at a place: a file, or a directory with its entries. -/
inductive FileNode
  | file (content : List UInt8)
  | directory (entries : List (String × FileNode))

namespace FileNode

/-- The entry of a directory under a name. -/
def entry? (n : FileNode) (name : String) : Option FileNode :=
  match n with
  | file _ => none
  | directory entries => entries.lookup name

/-- What is at a place below a node. -/
def at? (n : FileNode) : Place → Option FileNode
  | [] => some n
  | name :: place => (n.entry? name).bind (at? · place)

/-- The node with another entry under a name; only directories have entries. -/
def withEntry (n : FileNode) (name : String) (entry : FileNode) : FileNode :=
  match n with
  | file content => file content
  | directory entries => directory ((name, entry) :: entries.filter (·.1 ≠ name))

/-- The node without its entry under a name. -/
def withoutEntry (n : FileNode) (name : String) : FileNode :=
  match n with
  | file content => file content
  | directory entries => directory (entries.filter (·.1 ≠ name))

/-- The node with another one at a place below it, if something is on the way
there. -/
def put (n : FileNode) (node : FileNode) : Place → FileNode
  | [] => node
  | [name] => n.withEntry name node
  | name :: place =>
    match n.entry? name with
    | some below => n.withEntry name (below.put node place)
    | none => n

end FileNode

/-- A file system: what is at its root, and where paths that do not begin there
start. -/
structure FileTree where
  root : FileNode := .directory []
  workingDirectory : Place := []

namespace FileTree

/-- What is at a place. -/
def at? (t : FileTree) (place : Place) : Option FileNode := t.root.at? place

/-- Puts a node at a place, whose directory is there. -/
def put (t : FileTree) (place : Place) (node : FileNode) : FileTree :=
  { t with root := t.root.put node place }

/-- Takes away what is at a place. -/
def erase (t : FileTree) (place : Place) : FileTree :=
  match t.at? place.dropLast, place.getLast? with
  | some directory, some name => t.put place.dropLast (directory.withoutEntry name)
  | _, _ => t

/-- The components of a path; empty ones count for nothing. -/
def components (path : String) : List String :=
  ((Text.pieces (· == '/') path.toList).filter (!·.isEmpty)).map String.ofList

/-- Does the path have to lead to a directory? -/
def wantsDirectory (path : String) : Bool := path.endsWith "/"

/-- Where the walk along a path starts. -/
def startOf (t : FileTree) (path : String) : Place :=
  if Path.isAbsolute path then [] else t.workingDirectory

/-- The fault of a path that no operation takes. -/
def refusal? (path : String) : Option FileError :=
  if path.contains '\x00' then some .zeroInPath
  else if path.isEmpty then some .notFound
  else if 4095 < path.utf8ByteSize then some .nameTooLong
  else none

/-- A place at which a directory is. -/
def enter (t : FileTree) (place : Place) : Except FileError Place :=
  match t.at? place with
  | none => .error .notFound
  | some (.file _) => .error .notDirectory
  | some (.directory _) => .ok place

/-- The place that one component leads to from another place. -/
def walkOne (t : FileTree) (place : Place) (name : String) : Except FileError Place := do
  let place ← t.enter place
  if name = "." then return place
  else if name = ".." then return place.dropLast
  else if 255 < name.utf8ByteSize then throw .nameTooLong
  else return place ++ [name]

/-- The place that components lead to; nothing need be there, but everything on
the way has to be. -/
def walk (t : FileTree) (start : Place) (names : List String) : Except FileError Place :=
  names.foldlM (t.walkOne ·) start

/-- The place that a path leads to. -/
def resolve (t : FileTree) (path : String) : Except FileError Place :=
  match refusal? path with
  | some e => .error e
  | none => t.walk (t.startOf path) (components path)

/-- What a path leads to, with its place. -/
def find (t : FileTree) (path : String) : Except FileError (Place × FileNode) := do
  let place ← t.resolve path
  match t.at? place with
  | none => .error .notFound
  | some (.file content) =>
    if wantsDirectory path then .error .notDirectory else .ok (place, .file content)
  | some (.directory entries) => .ok (place, .directory entries)

/-- The node that a path leads to. -/
def examine (t : FileTree) (path : String) : Except FileError FileNode :=
  (t.find path).map (·.2)

/-- The content of a file. -/
def read (t : FileTree) (path : String) : Except FileError (List UInt8) := do
  match ← t.examine path with
  | .file content => .ok content
  | .directory _ => .error .isDirectory

/-- The content of a file that holds text. -/
def readText (t : FileTree) (path : String) : Except FileError String := do
  match Text.decode? (← t.read path) with
  | some text => .ok (String.ofList text)
  | none => .error .notText

/-- Creates a file, or empties the file that is there; gives its place.  A path
with a slash at its end fails as soon as the directory around it is found. -/
def create (t : FileTree) (path : String) : Except FileError (Place × FileTree) :=
  match refusal? path with
  | some e => .error e
  | none => do
    let names := components path
    if wantsDirectory path then
      let _ ← t.enter (← t.walk (t.startOf path) names.dropLast)
      throw .isDirectory
    let place ← t.walk (t.startOf path) names
    match t.at? place with
    | some (.directory _) => throw .isDirectory
    | _ => return (place, t.put place (.file []))

/-- Adds bytes to the end of the file at a place. -/
def append (t : FileTree) (place : Place) (bytes : List UInt8) : FileTree :=
  match t.at? place with
  | some (.file content) => t.put place (.file (content ++ bytes))
  | _ => t

/-- Makes directories of one name after the other, each in the one before; those
that are there already are passed, and those made stay when a later one fails.
A file on the way is no directory, and once something has been made, it is in
the way. -/
def makePath (t : FileTree) (made : Bool) (start : Place) :
    List String → Except FileError Unit × FileTree
  | [] => (.ok (), t)
  | name :: names =>
    match t.walkOne start name with
    | .error e => (.error e, t)
    | .ok place =>
      match t.at? place with
      | some (.directory _) => t.makePath made place names
      | some (.file _) => (.error (if made ∨ names.isEmpty then .exists else .notDirectory), t)
      | none => (t.put place (.directory [])).makePath true place names

/-- Makes a directory and all directories on the way to it; the empty path is
no directory that could be missing. -/
def createDirectories (t : FileTree) (path : String) : Except FileError Unit × FileTree :=
  if path.isEmpty then (.ok (), t)
  else match refusal? path with
    | some e => (.error e, t)
    | none => t.makePath false (t.startOf path) (components path)

/-- The absolute path of a place. -/
def pathOf (place : Place) : String :=
  if place.isEmpty then "/" else String.join (place.map ("/" ++ ·))

/-- The absolute path of what a path leads to. -/
def canonical (t : FileTree) (path : String) : Except FileError String :=
  (t.find path).map fun (place, _) => pathOf place

/-- Removes a file. -/
def remove (t : FileTree) (path : String) : Except FileError FileTree := do
  match ← t.find path with
  | (place, .file _) => .ok (t.erase place)
  | (_, .directory _) => .error .isDirectory

end FileTree

end SlotUpload
