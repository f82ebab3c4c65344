/-!
# SlotUpload.Certificate.Der

Values in DER: each has a tag, a length and as many bytes of content, which may
be values again.
-/

namespace SlotUpload.Certificate

/-- A value with its tag. -/
structure Value where
  tag : UInt8
  content : List UInt8
  deriving DecidableEq, Repr

/-! ## tags -/

def integerTag : UInt8 := 0x02
def booleanTag : UInt8 := 0x01
def bitsTag : UInt8 := 0x03
def bytesTag : UInt8 := 0x04
def identifierTag : UInt8 := 0x06
def sequenceTag : UInt8 := 0x30

/-- The tag of the part of a structure with the given number. -/
def partTag (n : UInt8) : UInt8 := 0xA0 + n

/-! ## reading -/

/-- The length at the front of a text, in the shortest form, and what follows. -/
def length? : List UInt8 → Option (Nat × List UInt8)
  | [] => none
  | b :: rest =>
    if b < 0x80 then some (b.toNat, rest)
    else match b, rest with
      | 0x81, n :: rest => if 0x80 ≤ n then some (n.toNat, rest) else none
      | 0x82, m :: n :: rest => if 0 < m then some (m.toNat * 256 + n.toNat, rest) else none
      | _, _ => none

/-- No value is as long as this. -/
def lengthLimit : Nat := 0xFFFF

/-- The value at the front of a text, and what follows.  Tags of more than one
byte are not read. -/
def value? : List UInt8 → Option (Value × List UInt8)
  | [] => none
  | tag :: rest =>
    if tag &&& 0x1F = 0x1F then none
    else match length? rest with
      | none => none
      | some (n, rest) =>
        if n < lengthLimit ∧ n ≤ rest.length then some (⟨tag, rest.take n⟩, rest.drop n) else none

/-- The content of the value at the front of a text, if the value has the tag,
and what follows. -/
def take? (tag : UInt8) (s : List UInt8) : Option (List UInt8 × List UInt8) :=
  match value? s with
  | some (v, rest) => if v.tag = tag then some (v.content, rest) else none
  | none => none

/-- The content of the only value of a text, if it has the tag. -/
def whole? (tag : UInt8) (s : List UInt8) : Option (List UInt8) :=
  match take? tag s with
  | some (content, []) => some content
  | _ => none

/-- What follows values with the given tags. -/
def skip? (tags : List UInt8) (s : List UInt8) : Option (List UInt8) :=
  tags.foldlM (fun s tag => (take? tag s).map (·.2)) s

/-- The contents of the values that fill a text, at most `count`, if all have the
tag. -/
def all? (tag : UInt8) : Nat → List UInt8 → Option (List (List UInt8))
  | _, [] => some []
  | 0, _ => none
  | count + 1, s =>
    match take? tag s with
    | some (content, rest) => (all? tag count rest).map (content :: ·)
    | none => none

end SlotUpload.Certificate
