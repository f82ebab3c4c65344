/-!
# SlotUpload.Url.Punycode

Punycode (RFC 3492): code points written with letters, digits and hyphens.  The
ASCII characters come first, then, after a hyphen, one variable-length number
for each other character, in rising order of code points; a number says how many
positions of how many smaller code points to pass over.
-/

namespace SlotUpload.Url.Punycode

/-! ## digits and thresholds -/

/-- The digit for a number below 36: `a` to `z`, then `0` to `9`. -/
def digitChar (n : Nat) : Char := if n < 26 then Char.ofNat (97 + n) else Char.ofNat (22 + n)

/-- The value of a digit in either letter case. -/
def digit? (c : Char) : Option Nat :=
  if 'a' ≤ c ∧ c ≤ 'z' then some (c.toNat - 97)
  else if 'A' ≤ c ∧ c ≤ 'Z' then some (c.toNat - 65)
  else if '0' ≤ c ∧ c ≤ '9' then some (c.toNat - 22)
  else none

/-- The digit at the place `k` (36 times its index, counted from one) is the
last of its number when it is below this. -/
def threshold (bias k : Nat) : Nat :=
  if k ≤ bias then 1 else if bias + 26 ≤ k then 26 else k - bias

theorem threshold_pos (bias k : Nat) : 0 < threshold bias k := by
  unfold threshold
  split
  · omega
  · split <;> omega

theorem threshold_le (bias k : Nat) : threshold bias k ≤ 26 := by
  unfold threshold
  split
  · omega
  · split <;> omega

/-- Divides by 35 until at most 455 is left, counting 36 for each division. -/
def scale (k delta : Nat) : Nat × Nat :=
  if delta ≤ 455 then (k, delta) else scale (k + 36) (delta / 35)
termination_by delta
decreasing_by omega

/-- The bias after a number `delta`, with `count` characters placed so far. -/
def adapt (delta count : Nat) (first : Bool) : Nat :=
  let delta := if first then delta / 700 else delta / 2
  let (k, delta) := scale 0 (delta + delta / count)
  k + 36 * delta / (delta + 38)

/-! ## writing -/

/-- The digits of a number, from the place `k` on. -/
def writeNumber (bias k q : Nat) : List Char :=
  let t := threshold bias k
  if q < t then [digitChar q]
  else digitChar (t + (q - t) % (36 - t)) :: writeNumber bias (k + 36) ((q - t) / (36 - t))
termination_by q
decreasing_by
  have h1 := threshold_pos bias k
  have h2 := threshold_le bias k
  have h3 : (q - threshold bias k) / (36 - threshold bias k) ≤ q - threshold bias k :=
    Nat.div_le_self _ _
  omega

/-- How far the writing of a text has come: the code point reached, positions
passed since the last number, the bias, and how many characters are placed. -/
structure Writing where
  point : Nat
  delta : Nat
  bias : Nat
  placed : Nat
  first : Bool

/-- Passes over the whole text for one code point `m` that occurs in it. -/
def writePoint (text : List Nat) (m : Nat) (w : Writing) : List Char × Writing :=
  let start : List Char × Writing :=
    ([], { w with delta := w.delta + (m - w.point) * (w.placed + 1) })
  let (out, w) := text.foldl (fun (out, w) c =>
    if c < m then (out, { w with delta := w.delta + 1 })
    else if c = m then
      (out ++ writeNumber w.bias 36 w.delta,
        { w with
          delta := 0
          bias := adapt w.delta (w.placed + 1) w.first
          placed := w.placed + 1
          first := false })
    else (out, w)) start
  (out, { w with point := m + 1, delta := w.delta + 1 })

/-- The code points from 128 on that occur in a text, rising, each once. -/
def pointsOf (text : List Nat) : List Nat :=
  (text.filter (128 ≤ ·)).mergeSort.eraseDups

/-- A text in Punycode. -/
def encode (s : List Char) : List Char :=
  let text := s.map Char.toNat
  let basic := s.filter (·.toNat < 128)
  let start : Writing :=
    { point := 128, delta := 0, bias := 72, placed := basic.length, first := true }
  let numbers := ((pointsOf text).foldl (fun (out, w) m =>
    let (more, w) := writePoint text m w
    (out ++ more, w)) (([] : List Char), start)).1
  if basic.isEmpty then numbers else basic ++ '-' :: numbers

/-! ## reading -/

/-- How far the reading of numbers has come: the code points placed, the code
point and index reached, and of the number being read its value so far (the
index included), the weight of the next digit and its place. -/
structure Reading where
  text : List Nat
  point : Nat := 128
  index : Nat := 0
  bias : Nat := 72
  value : Nat := 0
  weight : Nat := 1
  place : Nat := 36

/-- Reads one digit; the last digit of a number places a character. -/
def Reading.push (r : Reading) (c : Char) : Option Reading :=
  match digit? c with
  | none => none
  | some d =>
    let value := r.value + d * r.weight
    let t := threshold r.bias r.place
    if d < t then
      let count := r.text.length + 1
      let point := r.point + value / count
      let index := value % count
      if point.isValidChar then
        some
          { text := r.text.take index ++ point :: r.text.drop index
            point
            index := index + 1
            bias := adapt (value - r.index) count (r.index = 0)
            value := index + 1 }
      else none
    else some { r with value, weight := r.weight * (36 - t), place := r.place + 36 }

/-- The text up to the last hyphen, and the text after it.  A hyphen that is the
first character ends no text. -/
def cutLast (s : List Char) : List Char × List Char :=
  let digits := (s.reverse.takeWhile (· != '-')).reverse
  match s.take (s.length - digits.length) with
  | [] | [_] => ([], s)
  | front => (front.dropLast, digits)

/-- The text that an ASCII text in Punycode stands for. -/
def decode? (s : List Char) : Option (List Char) :=
  let (basic, digits) := cutLast s
  match digits.foldlM Reading.push { text := basic.map Char.toNat } with
  | some r => if r.place = 36 then some (r.text.map Char.ofNat) else none
  | none => none

end SlotUpload.Url.Punycode
