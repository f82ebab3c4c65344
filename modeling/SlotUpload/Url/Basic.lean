import SlotUpload.Url.Host

/-!
# SlotUpload.Url.Basic

URLs in their normal form: scheme, authority, path, query and fragment, all of
them already encoded, and how they are written down.
-/

namespace SlotUpload

namespace Url

/-- Who is addressed: user name and password, host and port. -/
structure Authority where
  user : String := ""
  password : Option String := none
  host : Host
  port : Option UInt16 := none
  deriving DecidableEq, Repr

/-- A path below a root, segment by segment, or a text with no structure. -/
inductive Path
  | segments (list : List String)
  | text (content : String)
  deriving DecidableEq, Repr

end Url

/-- A URL in normal form. -/
structure Url where
  scheme : String
  authority : Option Url.Authority := none
  path : Url.Path
  query : Option String := none
  fragment : Option String := none
  deriving DecidableEq, Repr

namespace Url

/-- The port that a scheme stands for when none is given. -/
def defaultPort? (scheme : String) : Option UInt16 :=
  match scheme with
  | "http" | "ws" => some 80
  | "https" | "wss" => some 443
  | "ftp" => some 21
  | _ => none

/-- The port that a URL means, if it means one. -/
def port? (u : Url) : Option UInt16 := (u.authority.bind (·.port)).or (defaultPort? u.scheme)

/-- Does the scheme always have a host and a rooted path? -/
def isSpecial (scheme : String) : Bool := scheme == "file" || (defaultPort? scheme).isSome

/-! ## writing -/

namespace Authority

/-- User name and password with the `@` after them; nothing if both are missing. -/
def userinfo (a : Authority) : String :=
  match a.password with
  | some p => a.user ++ ":" ++ p ++ "@"
  | none => if a.user.isEmpty then "" else a.user ++ "@"

protected def toString (a : Authority) : String :=
  a.userinfo ++ a.host.toString ++ (match a.port with | some p => s!":{p.toNat}" | none => "")

end Authority

namespace Path

/-- The path as written: a slash before every segment. -/
protected def toString : Path → String
  | segments list => String.join (list.map ("/" ++ ·))
  | text content => content

end Path

/-- The part between the scheme and the path.  A path that starts with an empty
segment must not be taken for an authority. -/
def beforePath (u : Url) : String :=
  match u.authority with
  | some a => "//" ++ a.toString
  | none =>
    match u.path with
    | .segments ("" :: _ :: _) => "/."
    | _ => ""

protected def toString (u : Url) : String :=
  u.scheme ++ ":" ++ u.beforePath ++ u.path.toString ++
    (match u.query with | some q => "?" ++ q | none => "") ++
    (match u.fragment with | some f => "#" ++ f | none => "")

/-! ## file names -/

/-- The name of the file a URL leads to: the last segment of its path, decoded.
There is none, and the name is empty, where the path has no segments. -/
def fileName (u : Url) : String :=
  match u.path with
  | .segments list =>
    String.ofList (Text.decodeLossy (Percent.decode ((list.getLast?.getD "").toList)))
  | .text _ => ""

end Url

end SlotUpload
