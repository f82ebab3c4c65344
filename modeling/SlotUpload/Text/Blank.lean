/-!
# SlotUpload.Text.Blank

Blank characters and trimming.  A character is blank when Unicode gives it the
property White_Space; trimming drops blanks from one or both ends of a text and
nothing else:

* `trim_eq_self` — a text with no blank at either end is left alone;
* `trim_eq_nil_iff` — what trims to nothing is exactly a text of blanks.
-/

namespace SlotUpload.Text

/-- The property White_Space, range by range. -/
def isBlank (c : Char) : Bool :=
  let n := c.toNat
  (9 ≤ n && n ≤ 13) || n == 0x20 || n == 0x85 || n == 0xA0 || n == 0x1680 ||
    (0x2000 ≤ n && n ≤ 0x200A) || n == 0x2028 || n == 0x2029 || n == 0x202F ||
    n == 0x205F || n == 0x3000

/-- The text without the blanks it starts with. -/
def trimStart (s : List Char) : List Char := s.dropWhile isBlank

/-- The text without the blanks it ends with. -/
def trimEnd (s : List Char) : List Char := (s.reverse.dropWhile isBlank).reverse

/-- The text without the blanks at its ends. -/
def trim (s : List Char) : List Char := trimEnd (trimStart s)

/-- A text with nothing in it but blanks; the empty text counts. -/
def allBlank (s : List Char) : Bool := s.all isBlank

/-- `trim` on strings. -/
def trimmed (s : String) : String := String.ofList (trim s.toList)

/-- No visible ASCII character is blank. -/
theorem isBlank_eq_false_of_visible {c : Char} (h : 0x20 < c.toNat ∧ c.toNat < 0x7F) :
    isBlank c = false := by
  simp [isBlank]
  omega

/-! ## laws of trimming -/

theorem dropWhile_eq_nil_iff {p : Char → Bool} {s : List Char} :
    s.dropWhile p = [] ↔ ∀ c ∈ s, p c := by
  induction s with
  | nil => simp
  | cons c s ih => by_cases h : p c <;> simp [List.dropWhile, h, ih]

theorem dropWhile_idem {p : Char → Bool} {s : List Char} :
    (s.dropWhile p).dropWhile p = s.dropWhile p := by
  induction s with
  | nil => rfl
  | cons c s ih => by_cases h : p c <;> simp [List.dropWhile, h, ih]

/-- What trims to nothing is exactly a text of blanks. -/
theorem trim_eq_nil_iff {s : List Char} : trim s = [] ↔ ∀ c ∈ s, isBlank c := by
  have h1 : trim s = [] ↔ ∀ c ∈ s.dropWhile isBlank, isBlank c := by
    simp only [trim, trimEnd, trimStart, List.reverse_eq_nil_iff, dropWhile_eq_nil_iff,
      List.mem_reverse]
  rw [h1, ← dropWhile_eq_nil_iff, dropWhile_idem, dropWhile_eq_nil_iff]

/-- A text with no blank at either end is left alone. -/
theorem trim_eq_self {s : List Char} (first : ∀ c ∈ s.head?, isBlank c = false)
    (last : ∀ c ∈ s.getLast?, isBlank c = false) : trim s = s := by
  have h1 : trimStart s = s := by
    cases s with
    | nil => rfl
    | cons c s => simp [trimStart, List.dropWhile, first c (by simp)]
  have h2 : trimEnd s = s := by
    unfold trimEnd
    cases hs : s.reverse with
    | nil => simpa using (List.reverse_eq_nil_iff.1 hs).symm
    | cons c r =>
      have hc : isBlank c = false := last c (by rw [← List.head?_reverse, hs]; simp)
      simp only [List.dropWhile, hc]
      rw [← hs, List.reverse_reverse]
  rw [trim, h1, h2]

end SlotUpload.Text
