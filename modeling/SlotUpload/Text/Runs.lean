import SlotUpload.Text.Numeral

/-!
# SlotUpload.Text.Runs

Values of code points, written down run by run.  A table is a text of
hexadecimal words with blanks between them: `a=x` gives the value `x` to one
code point and `a-b=x` to all from `a` to `b`; `x+y` is a value of two code
points.  With `a-b~n=x` only every `n`-th code point has a value, and the value
moves along with the code point.
-/

namespace SlotUpload.Text

/-- Some code points and their values. -/
structure Run where
  first : Nat
  last : Nat
  /-- The distance between two code points of a run whose values move along, and
  zero where all have one value. -/
  stride : Nat
  value : List Nat
  deriving DecidableEq, Repr

namespace Run

/-- Is a code point in the run? -/
def has (n : Nat) (r : Run) : Bool :=
  r.first ≤ n && n ≤ r.last && (r.stride == 0 || (n - r.first) % r.stride == 0)

/-- The value of a code point that is in the run. -/
def valueAt (n : Nat) (r : Run) : List Nat :=
  if r.stride = 0 then r.value else r.value.map (· + (n - r.first))

end Run

abbrev Runs := List Run

namespace Runs

/-- The value of a code point, if a run has it. -/
def find? (n : Nat) (table : Runs) : Option (List Nat) :=
  (List.find? (Run.has n) table).map (Run.valueAt n)

/-- How far the reading of a table has come: the runs read, last first, the
numbers of the run being read, each where a mark says that it belongs, and the
number being read. -/
structure Reading where
  runs : Runs := []
  first : Option Nat := none
  last : Option Nat := none
  stride : Nat := 0
  value : List Nat := []
  number : Nat := 0

/-- Ends the run being read, if there is one. -/
def Reading.close (r : Reading) : Reading :=
  match r.first with
  | none => r
  | some first =>
    { runs := ⟨first, r.last.getD first, r.stride, r.value ++ [r.number]⟩ :: r.runs }

/-- Reads one character of a table. -/
def Reading.push (r : Reading) (c : Char) : Reading :=
  match hexDigit? c with
  | some d => { r with number := r.number * 16 + d }
  | none =>
    let ended := { r with number := 0 }
    match c with
    | '-' => { ended with first := some r.number }
    | '~' => { ended with last := some r.number }
    | '=' =>
      match r.first, r.last with
      | none, _ => { ended with first := some r.number }
      | some _, none => { ended with last := some r.number }
      | some _, some _ => { ended with stride := r.number }
    | '+' => { ended with value := r.value ++ [r.number] }
    | _ => r.close

/-- The runs of a table. -/
def ofTable (text : String) : Runs :=
  (text.toList.foldl Reading.push {}).close.runs.reverse

end Runs

end SlotUpload.Text
