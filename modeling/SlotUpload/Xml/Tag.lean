import SlotUpload.Text.Split
import SlotUpload.Xml.Escape

/-!
# SlotUpload.Xml.Tag

Tags and their attributes.  A tag is a name and the text after it; attributes
are read from that text one at a time, so that the first fault of a tag is the
one that is reported, be it in an attribute's shape or in its value.
-/

namespace SlotUpload.Xml

/-- The four characters that separate things inside markup. -/
def isSpace (c : Char) : Bool := c == ' ' || c == '\t' || c == '\r' || c == '\n'

/-- A tag: its name as written, and the text after the name. -/
structure Tag where
  name : List Char
  body : List Char
  deriving DecidableEq, Repr

namespace Tag

/-- The tag whose content, between `<` and `>`, is given. -/
def ofContent (content : List Char) : Tag :=
  { name := content.takeWhile (!isSpace ·), body := content.dropWhile (!isSpace ·) }

/-- The name without the part up to its first colon. -/
def localName (tag : Tag) : List Char :=
  match Text.cut? ':' tag.name with
  | some (_, name) => name
  | none => tag.name

end Tag

/-! ## scanning with offsets -/

/-- What is left of a text, and the offset in bytes of where it starts. -/
structure Cursor where
  offset : Nat
  rest : List Char
  deriving DecidableEq, Repr

namespace Cursor

/-- The characters up to the first that fails `p`, and the cursor there. -/
def span (p : Char → Bool) (c : Cursor) : List Char × Cursor :=
  let front := c.rest.takeWhile p
  (front, { offset := c.offset + Text.byteSize front, rest := c.rest.dropWhile p })

/-- The cursor at the first character that fails `p`. -/
def skip (p : Char → Bool) (c : Cursor) : Cursor := (c.span p).2

theorem length_span_le (p : Char → Bool) (c : Cursor) :
    (c.span p).2.rest.length ≤ c.rest.length :=
  (List.dropWhile_sublist p).length_le

theorem length_skip_le (p : Char → Bool) (c : Cursor) :
    (c.skip p).rest.length ≤ c.rest.length := length_span_le p c

end Cursor

/-! ## attributes -/

/-- An attribute as written, and the offset of its name. -/
structure Attribute where
  name : List Char
  value : List Char
  offset : Nat
  deriving DecidableEq, Repr

namespace Attribute

/-- May the character stand in an attribute's name? -/
def nameChar (c : Char) : Bool := c != '=' && !isSpace c

/-- Reads a quoted value. -/
def readValue (c : Cursor) : Except AttributeError (List Char × Cursor) :=
  let c := c.skip isSpace
  match c.rest with
  | [] => .error (.noValue c.offset)
  | q :: cs =>
    if q = '"' ∨ q = '\'' then
      let (value, d) := (Cursor.mk (c.offset + 1) cs).span (· != q)
      match d.rest with
      | [] => .error (.unclosed d.offset q)
      | _ :: rest => .ok (value, ⟨d.offset + 1, rest⟩)
    else .error (.notQuoted c.offset)

/-- Reads one attribute, if there is a further one; `seen` are those before it.
The first character of a name may be any but a space. -/
def read? (seen : List Attribute) (c : Cursor) :
    Except AttributeError (Option (Attribute × Cursor)) :=
  let c := c.skip isSpace
  match c.rest with
  | [] => .ok none
  | first :: cs =>
    let (more, d) := (Cursor.mk (c.offset + first.utf8Size) cs).span nameChar
    let d := d.skip isSpace
    match d.rest with
    | [] => .error (.noEquals d.offset)
    | x :: rest =>
      if x ≠ '=' then .error (.noEquals d.offset)
      else match seen.find? (·.name == first :: more) with
        | some earlier => .error (.duplicate c.offset earlier.offset)
        | none =>
          match readValue ⟨d.offset + 1, rest⟩ with
          | .error e => .error e
          | .ok (value, d) => .ok (some (⟨first :: more, value, c.offset⟩, d))

theorem readValue_length {c d : Cursor} {value : List Char} (h : readValue c = .ok (value, d)) :
    d.rest.length ≤ c.rest.length := by
  revert h
  unfold readValue
  have hc := c.length_skip_le isSpace
  dsimp only
  split
  · intro h; cases h
  · rename_i q cs hq
    split
    · have hs := Cursor.length_span_le (· != q) ⟨(c.skip isSpace).offset + 1, cs⟩
      split
      · intro h; cases h
      · rename_i rest hr
        intro h
        cases h
        rw [hq] at hc
        rw [hr] at hs
        simp only [List.length_cons] at hc hs ⊢
        omega
    · intro h; cases h

/-- Reading an attribute uses up text. -/
theorem read?_length {seen : List Attribute} {c d : Cursor} {a : Attribute}
    (h : read? seen c = .ok (some (a, d))) : d.rest.length < c.rest.length := by
  revert h
  unfold read?
  have hc := c.length_skip_le isSpace
  dsimp only
  split
  · intro h; cases h
  · rename_i first cs hq
    have hs := Cursor.length_span_le nameChar ⟨(c.skip isSpace).offset + first.utf8Size, cs⟩
    split
    · intro h; cases h
    · rename_i x rest hr
      split
      · intro h; cases h
      · split
        · intro h; cases h
        · split
          · intro h; cases h
          · rename_i value d' hv
            intro h
            cases h
            have h1 := readValue_length hv
            have h2 := Cursor.length_skip_le isSpace
              ((Cursor.mk ((c.skip isSpace).offset + first.utf8Size) cs).span nameChar).2
            rw [hr] at h2
            rw [hq] at hc
            simp only [List.length_cons] at hc hs h1 h2
            omega

/-- Reads all attributes from `c` on, with their values unescaped. -/
def readAll (seen : List Attribute) (c : Cursor) : Except Error (List (String × String)) :=
  match _read : read? seen c with
  | .error e => .error (.badAttribute e)
  | .ok none => .ok []
  | .ok (some (a, d)) =>
    match unescape a.value with
    | .error e => .error (.badReference e)
    | .ok value =>
      (readAll (a :: seen) d).map ((String.ofList a.name, String.ofList value) :: ·)
termination_by c.rest.length
decreasing_by exact read?_length _read

end Attribute

/-- The attributes of a tag, in the order they are written. -/
def Tag.attributes (tag : Tag) : Except Error (List (String × String)) :=
  Attribute.readAll [] ⟨Text.byteSize tag.name, tag.body⟩

end SlotUpload.Xml
