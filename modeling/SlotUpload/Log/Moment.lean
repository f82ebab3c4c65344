import SlotUpload.Text.Numeral

/-!
# SlotUpload.Log.Moment

Points in time, and their calendar form in UTC with milliseconds.
-/

namespace SlotUpload

/-- A point in time: milliseconds since the start of 1970, negative before that. -/
structure Moment where
  millis : Int
  deriving DecidableEq, Repr

namespace Moment

/-- A number with zeros in front of it up to a width. -/
def padded (width n : Nat) : List Char :=
  let ds := Text.digits n
  List.replicate (width - ds.length) '0' ++ ds

/-- Year, month and day of a count of days since the start of 1970.  Years are
counted from March, in cycles of 400 years. -/
def civil (days : Int) : Int × Nat × Nat :=
  let z := days + 719468
  let cycle := z / 146097
  let day := (z % 146097).toNat
  let year := (day - day / 1460 + day / 36524 - day / 146096) / 365
  let dayOfYear := day - (365 * year + year / 4 - year / 100)
  let month := (5 * dayOfYear + 2) / 153
  let dayOfMonth := dayOfYear - (153 * month + 2) / 5 + 1
  let (month, later) := if month < 10 then (month + 3, 0) else (month - 9, 1)
  (year + cycle * 400 + later, month, dayOfMonth)

/-- A year of four digits.  Only one that has more of them, or is before the year 0, has
a sign. -/
def yearText (year : Int) : List Char :=
  let digits := padded 4 year.natAbs
  if year < 0 then '-' :: digits else if 9999 < year then '+' :: digits else digits

/-- The calendar form of a moment, such as `2026-03-01T12:30:05.000Z`. -/
def text (t : Moment) : String :=
  let (year, month, day) := civil (t.millis / 86400000)
  let rest := (t.millis % 86400000).toNat
  String.ofList <|
    yearText year ++ ['-'] ++ padded 2 month ++ ['-'] ++ padded 2 day ++ ['T'] ++
      padded 2 (rest / 3600000) ++ [':'] ++ padded 2 (rest / 60000 % 60) ++ [':'] ++
      padded 2 (rest / 1000 % 60) ++ ['.'] ++ padded 3 (rest % 1000) ++ ['Z']

end Moment

end SlotUpload
