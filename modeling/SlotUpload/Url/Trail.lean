import SlotUpload.Url.Percent
import SlotUpload.Text.Split

/-!
# SlotUpload.Url.Trail

Walking along the segments of a path.  `.` stays, `..` goes back, every other
segment goes on.  A drive letter is never left again; in a file URL the first
one is written with a colon and takes the place of the host.
-/

namespace SlotUpload.Url

/-- Is a segment `..`, a dot written as `%2e` or not? -/
def isDoubleDot (segment : String) : Bool :=
  ["..", ".%2e", "%2e.", "%2e%2e"].contains segment.toLower

/-- Is a segment `.`? -/
def isSingleDot (segment : String) : Bool := [".", "%2e"].contains segment.toLower

/-- Is a segment a drive letter with its colon or bar? -/
def isDriveLetter (segment : List Char) : Bool :=
  match segment with
  | [c, d] => c.isAlpha && (d == ':' || d == '|')
  | _ => false

/-- Is the character a tab or the end of a line?  They may stand anywhere in a
URL and are not part of it. -/
def isBreak (c : Char) : Bool := c == '\t' || c == '\n' || c == '\r'

/-- A text without tabs and line ends. -/
def joined (s : List Char) : List Char := s.filter (!isBreak ·)

/-- The text of a segment, encoded. -/
def segmentText (s : List Char) : String := String.ofList (Percent.encode Percent.inPath s)

/-- How far a walk along a path has come: the segments that count, last first,
and whether a drive letter has taken the place of the host. -/
structure Trail where
  back : List String := []
  onDrive : Bool := false

namespace Trail

/-- On to a segment with a name. -/
def enter (t : Trail) (name : String) : Trail := { t with back := name :: t.back }

/-- Back by one segment; a drive letter stays. -/
def leave (t : Trail) : Trail :=
  match t.back with
  | [] => t
  | s :: ss => if isDriveLetter s.toList then t else { t with back := ss }

/-- On to the next segment.  The last one leaves an empty name behind where it
is `.` or `..`. -/
def step (t : Trail) (last : Bool) (segment : List Char) : Trail :=
  let name := segmentText segment
  let close (t : Trail) : Trail := if last then t.enter "" else t
  if isDoubleDot name then close t.leave
  else if isSingleDot name then close t
  else t.enter name

/-- The drive that a first segment of a file URL names, with its colon. -/
def drive? (t : Trail) (segment : List Char) : Option String :=
  match t.back, segment with
  | [], [c, d] => if isDriveLetter [c, d] then some (String.ofList [c, ':']) else none
  | _, _ => none

/-- A first segment of a file URL such as `C:x` that is broken after its colon
counts as two: the drive, and a plain name after it. -/
def broken? (t : Trail) (segment : List Char) : Option (String × List Char) :=
  match t.back, joined segment with
  | [], c :: ':' :: d :: name =>
    if c.isAlpha ∧ ((segment.dropWhile (· != ':')).drop 1).head?.any isBreak then
      some (String.ofList [c, ':'], d :: name)
    else none
  | _, _ => none

/-- On to the next segment of a file URL, which still holds its breaks. -/
def stepFile (t : Trail) (last : Bool) (segment : List Char) : Trail :=
  match t.broken? segment with
  | some (drive, name) => (t.enter drive).enter (segmentText name)
  | none =>
    match t.drive? (joined segment) with
    | some drive => { back := [drive], onDrive := true }
    | none => t.step last (joined segment)

/-- Walks along all segments. -/
def walk (step : Trail → Bool → List Char → Trail) (t : Trail) : List (List Char) → Trail
  | [] => t
  | [s] => step t true s
  | s :: ss => walk step (step t false s) ss

end Trail

/-- The segments of a path, given what stands after its first slash; a special
URL may have backslashes for slashes. -/
def segmentsOf (special : Bool) (s : List Char) : List String :=
  let raw := Text.pieces (fun c => c == '/' || (special && c == '\\')) s
  (Trail.walk Trail.step {} raw).back.reverse

/-- A path in a file URL starts with no empty segment but the last. -/
def dropEmptyStart : List String → List String
  | "" :: s :: ss => dropEmptyStart (s :: ss)
  | ss => ss

/-- The segments of the path of a file URL, given what stands after its first
slash, and whether they name a drive that takes the place of the host. -/
def fileSegmentsOf (s : List Char) : List String × Bool :=
  let raw := Text.pieces (fun c => c == '/' || c == '\\') s
  let trail := Trail.walk Trail.stepFile {} raw
  (dropEmptyStart trail.back.reverse, trail.onDrive)

end SlotUpload.Url
