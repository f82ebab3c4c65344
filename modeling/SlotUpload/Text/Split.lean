/-!
# SlotUpload.Text.Split

Cutting a text at separators.  `pieces` keeps every piece, the empty ones too;
`cut?` cuts once, at the first separator.
-/

namespace SlotUpload.Text

/-- Puts a character in front of the first piece. -/
def consFirst (c : Char) : List (List Char) → List (List Char)
  | [] => [[c]]
  | w :: ws => (c :: w) :: ws

/-- The pieces between the characters that satisfy `sep`; one more than there
are separators. -/
def pieces (sep : Char → Bool) : List Char → List (List Char)
  | [] => [[]]
  | c :: cs => if sep c then [] :: pieces sep cs else consFirst c (pieces sep cs)

/-- The text before the first `sep` and the text after it. -/
def cut? (sep : Char) : List Char → Option (List Char × List Char)
  | [] => none
  | c :: cs =>
    if c = sep then some ([], cs)
    else (cut? sep cs).map fun (a, b) => (c :: a, b)

/-- Pieces joined by a separator. -/
def join (sep : List Char) : List (List Char) → List Char
  | [] => []
  | [w] => w
  | w :: ws => w ++ sep ++ join sep ws

theorem pieces_ne_nil (sep : Char → Bool) (s : List Char) : pieces sep s ≠ [] := by
  cases s with
  | nil => simp [pieces]
  | cons c s =>
    unfold pieces
    split
    · simp
    · cases pieces sep s <;> simp [consFirst]

end SlotUpload.Text
