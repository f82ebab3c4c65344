import SlotUpload.Payload.Basic
import SlotUpload.Proofs.Text.Numeral
import SlotUpload.Proofs.Xml.Markup

/-!
# SlotUpload.Proofs.Payload.Markup

Payloads as trees.  Every payload that is written is the text of a tree whose root
declares the namespace of its schema; what is read from a payload is read from
the element of that tree (`root_write`).
-/

namespace SlotUpload.Payload

open Xml

/-! ## trees of payloads -/

/-- The attribute that declares a namespace. -/
def xmlns (version : Version) : Name × String := ({ text := "xmlns" }, version.namespaceName)

/-- An element that holds nothing but a text. -/
def textMarkup (name : Name) (text : String) : Markup := .opened name {} text []

theorem write_textMarkup (name : Name) (text : String) :
    (textMarkup name text).write = (textElement name.text text).toList := by
  simp [textMarkup, textElement, Markup.write, Markup.writeAll, Tag.write, Fields.write,
    Fields.writeList, escaped, Name.chars]

/-! ## reading -/

/-- The root is the element that the document is. -/
theorem root_eq_ok_iff {document : String} {e : Element} :
    root document = .ok e ↔ Element.parse document = .ok e := by
  unfold root
  cases Element.parse document with
  | error fault => exact ⟨nofun, nofun⟩
  | ok root =>
      constructor <;> intro h <;> cases h <;> rfl

/-- What is written as a tree is read as the element of that tree. -/
theorem root_write {document : String} {m : Markup} (h : document.toList = m.write) :
    root document = .ok (m.element none) := by
  have hdocument : document = String.ofList (m.write ++ []) := by
    rw [List.append_nil, ← h, String.ofList_toList]
  rw [root_eq_ok_iff, hdocument, Element.parse_write]

theorem versionOf_eq {e : Element} {version : Version}
    (h : e.xmlns = some version.namespaceName) : versionOf e = .ok version := by
  simp [versionOf, h]

/-- A written number is not made of blanks. -/
theorem kept_number (n : UInt64) : kept (number n) = number n := by
  rw [kept_eq_self_iff]
  intro h
  obtain ⟨c, s, hdigits⟩ : ∃ c s, Text.digits n.toNat = c :: s :=
    List.exists_cons_of_ne_nil Nat.toDigits_ne_nil
  have hc : c ∈ Text.digits n.toNat := hdigits ▸ List.mem_cons_self
  have hblank : Text.isBlank c := h.2 c (by rwa [number, String.toList_ofList])
  rw [Text.isBlank_of_isDigit (Text.isDigit_of_mem_digits hc)] at hblank
  contradiction

/-- A written number is read back. -/
theorem readNumber_number (field : String) (n : UInt64) :
    readNumber field (some (number n)) = .ok n := by
  simp [readNumber, number, Text.count?_digits]

end SlotUpload.Payload
