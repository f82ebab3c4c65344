import SlotUpload.Payload.FileTooLarge
import SlotUpload.Payload.SlotRequest
import SlotUpload.Proofs.Payload.Slot
import SlotUpload.Proofs.Xml.Continuation

/-!
# SlotUpload.Proofs.Payload.Continuation

Payloads with something after them.  What a payload denotes is decided by its root element
alone: whatever follows the `>` of the last tag of the root is not read (`decode_append`).
A document that ends inside of that tag is read, too; then what follows must not change the
name in the tag, else the document is refused (`not_forall_decode_append`).
-/

namespace SlotUpload.Payload

open Xml

variable {document : String} {root : Element}

/-- Documents that read alike have the same root. -/
theorem root_congr {document' : String} (h : Element.parse document' = Element.parse document) :
    Payload.root document' = Payload.root document := by
  rw [Payload.root, Payload.root, h]

/-- **A payload is decided by its first complete element.**  What follows is not read if the
last tag of that element has its `>`, as it has if the document ends in one; and also if it
only adds spaces to the tag.  Otherwise the tag names no open element any more. -/
theorem decode_append (h : Element.parse document = .ok root) (more : String) :
    (Element.KeepsLastTag document more →
      Element.parse (document ++ more) = .ok root ∧
        Slot.decode (document ++ more) = Slot.decode document ∧
        (∀ service, SlotRequest.decode service (document ++ more) =
          SlotRequest.decode service document) ∧
        FileTooLarge.decode (document ++ more) = FileTooLarge.decode document) ∧
      (¬ Element.KeepsLastTag document more → ∃ expected found,
        Element.parse (document ++ more) = .error (.mismatchedEnd expected found)) ∧
      (document.toList.getLast? = some '>' → Element.KeepsLastTag document more) := by
  refine ⟨fun hkeeps => ?_, fun hchanges => ?_, Element.Building.keepsLastTag_of_getLast? h more⟩
  · have hparse := ((Element.Building.parse_append h more).resolve_right fun h => h.1 hkeeps).2
    have hroot : Payload.root (document ++ more) = Payload.root document :=
      root_congr (hparse.trans h.symm)
    refine ⟨hparse, ?_, fun service => ?_, ?_⟩
    · rw [Slot.decode, Slot.decode, hroot]
    · rw [SlotRequest.decode, SlotRequest.decode, hroot]
    · rw [FileTooLarge.decode, FileTooLarge.decode, hroot]
  · exact ((Element.Building.parse_append h more).resolve_left fun h => hchanges h.1).2

/-- A written slot with markup after it. -/
theorem decode_append_markup :
    let slot : Slot := { putUrl := .loopback, getUrl := .loopback }
    let document := slot.encode .current
    (∃ root, Element.parse document = .ok root) ∧
      Element.KeepsLastTag document "<put url='" ∧ Slot.decode (document ++ "<put url='") = .ok slot := by
  intro slot document
  have hslot : Slot.decode document = .ok slot :=
    Slot.decode_encode Url.parse_loopback Url.parse_loopback (by decide)
  have hroot : Element.parse document = .ok ((slot.markup).element none) :=
    root_eq_ok_iff.1 (root_write (Slot.toList_encode slot))
  have hend : document.toList.getLast? = some '>' := by decide +kernel
  obtain ⟨hkeep, -, hlast⟩ := decode_append hroot "<put url='"
  exact ⟨⟨_, hroot⟩, hlast hend, (hkeep (hlast hend)).2.1.trans hslot⟩

/-- A document that ends inside of the last tag of its root is read, but not with more of
the tag after it. -/
theorem not_forall_decode_append :
    ¬ ∀ (document more : String) (root : Element), Element.parse document = .ok root →
      Element.parse (document ++ more) = .ok root ∧
        Slot.decode (document ++ more) = Slot.decode document := by
  intro hall
  let url : Url := { scheme := "a", authority := none, path := .text "" }
  let document := "<slot xmlns='urn:xmpp:http:upload:0'><put url='a:'/><get url='a:'/></slot"
  have hslot : Slot.decode document = .ok { putUrl := url, getUrl := url } := by decide +kernel
  have hfault : Slot.decode (document ++ "s>") =
      .error (.badDocument (.mismatchedEnd "slot" "slots")) := by decide +kernel
  obtain ⟨root, hroot⟩ : ∃ root, Element.parse document = .ok root := by
    have hok : (Element.parse document).isOk := by decide +kernel
    cases hparse : Element.parse document with
    | error e => rw [hparse] at hok; contradiction
    | ok root => exact ⟨root, rfl⟩
  have hsame := (hall document "s>" root hroot).2
  rw [hslot, hfault] at hsame
  contradiction

end SlotUpload.Payload
