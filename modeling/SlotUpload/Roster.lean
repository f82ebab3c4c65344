/-!
# SlotUpload.Roster

Who is to be told of what happens: listeners in the order in which they were
added, each once.
-/

namespace SlotUpload

/-- Listeners, the one added first in front. -/
abbrev Roster (α : Type) := List α

namespace Roster

variable {α : Type} [DecidableEq α]

/-- Adds a listener; false if it is there already. -/
def add (a : α) (r : Roster α) : Bool × Roster α :=
  if a ∈ r then (false, r) else (true, r ++ [a])

/-- Removes a listener; false if it is not there. -/
def remove (a : α) (r : Roster α) : Bool × Roster α :=
  if a ∈ r then (true, r.filter (· ≠ a)) else (false, r)

end Roster

end SlotUpload
