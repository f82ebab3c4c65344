import SlotUpload.Command.HeaderOption
import SlotUpload.Command.Word
import SlotUpload.Url.Parser

/-!
# SlotUpload.Command.Line

What the user can ask for: putting a file to a slot, getting a shared file, and
showing what a reply says.  Settings are named before the command, everything
else after it.
-/

namespace SlotUpload.Command

inductive Order
  | put (file : String) (putUrl getUrl : Url) (headers : List (String × String))
  | get (url : Url) (destination : Option String)
  | decode (reply : String)
  deriving DecidableEq, Repr

/-- A command line that can be carried out. -/
structure Invocation where
  config : Option String
  order : Order
  deriving DecidableEq, Repr

/-- Keeps the first value of an option that may be given once. -/
def once (value : α) : Option α → Option (Option α)
  | none => some (some value)
  | some _ => none

/-- A path that is not empty. -/
def path? (s : String) : Option String := if s.isEmpty then none else some s

/-- A URL. -/
def url? (s : String) : Option Url := (Url.parse s).toOption

/-! ## orders -/

/-- An order as far as it has been read. -/
structure Draft where
  first : Option String := none
  second : Option String := none
  putUrl : Option Url := none
  getUrl : Option Url := none
  headers : List (String × String) := []

namespace Draft

def takePutUrl : Take Draft := fun v d => do
  return { d with putUrl := ← once (← url? v) d.putUrl }

def takeGetUrl : Take Draft := fun v d => do
  return { d with getUrl := ← once (← url? v) d.getUrl }

def takeHeader : Take Draft := fun v d => do
  return { d with headers := d.headers ++ [← (readHeader v).toOption] }

/-- Takes the only plain word. -/
def takeFirst (isFit : String → Bool) : Take Draft := fun v d =>
  if d.first.isNone ∧ isFit v then some { d with first := some v } else none

/-- Takes the first plain word or the second one, which is a path. -/
def takeBoth (isFit : String → Bool) : Take Draft := fun v d =>
  if d.first.isNone then takeFirst isFit v d
  else if d.second.isNone ∧ (path? v).isSome then some { d with second := some v }
  else none

end Draft

def putGrammar : Grammar Draft where
  long
    | "put-url" => some Draft.takePutUrl
    | "get-url" => some Draft.takeGetUrl
    | "header" => some Draft.takeHeader
    | _ => none
  short
    | 'H' => some Draft.takeHeader
    | _ => none
  plain := Draft.takeFirst fun v => (path? v).isSome

/-- The grammar of a command without options. -/
def bareGrammar (plain : Take Draft) : Grammar Draft :=
  { long := fun _ => none, short := fun _ => none, plain }

namespace Order

/-- A file to put and the two URLs of its slot. -/
def ofPut (d : Draft) : Option Order := do
  return .put (← d.first) (← d.putUrl) (← d.getUrl) d.headers

/-- A URL to get, and where to. -/
def ofGet (d : Draft) : Option Order := do
  return .get (← url? (← d.first)) d.second

/-- A reply to show. -/
def ofDecode (d : Draft) : Option Order := d.first.map decode

/-- Reads the words of an order; there has to be an order in what was read. -/
def readWith (g : Grammar Draft) (finish : Draft → Option Order) (words : List String) :
    Reading Order :=
  match g.read words {} with
  | .done draft =>
    match finish draft with
    | some order => .done order
    | none => .refused
  | .help => .help
  | .version => .version
  | .refused => .refused

/-- The names of the commands. -/
def names : List String := ["put", "get", "decode", "help"]

/-- Reads a command with its words. -/
def read (name : String) (words : List String) : Reading Order :=
  match name with
  | "put" => readWith putGrammar ofPut words
  | "get" => readWith (bareGrammar (Draft.takeBoth fun v => (url? v).isSome)) ofGet words
  | "decode" => readWith (bareGrammar (Draft.takeFirst fun v => (path? v).isSome)) ofDecode words
  | "help" =>
    match words with
    | [] => .help
    | [name] => if names.contains name then .help else .refused
    | _ => .refused
  | _ => .refused

end Order

/-! ## the whole line -/

/-- Takes the path of the settings. -/
def takeConfig : Take (Option String) := fun v config => do once (← path? v) config

/-- Reads a command line; `config` is the path of the settings read so far. -/
def readLine (words : List String) (config : Option String) : Reading Invocation :=
  match words with
  | [] => .refused
  | w :: words =>
    let takeValue (value : Option String) : Reading Invocation :=
      match h : takeOption takeConfig value words config with
      | some (config, rest) =>
        have := length_of_takeOption h
        readLine rest config
      | none => .refused
    match Word.ofString w with
    | .plain name =>
      match Order.read name words with
      | .done order => .done { config, order }
      | .help => .help
      | .version => .version
      | .refused => .refused
    | .long "help" none | .short 'h' _ => .help
    | .long "version" none | .short 'V' _ => .version
    | .long "config" value | .short 'c' value => takeValue value
    | _ => .refused
termination_by words.length

end SlotUpload.Command
