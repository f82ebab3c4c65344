import SlotUpload.Proofs.Xml.Attribute
import SlotUpload.Proofs.Xml.Filler
import SlotUpload.Proofs.Xml.Likeness

/-!
# SlotUpload.Proofs.Xml.Insertion

Documents with more in them.  A document that is read goes on to be read when fillers are
put between the children of an open element (`exists_parse_fillers`) or an attribute of a
new name into a tag (`exists_parse_insert`), and its root is then like the root that it
had, for any likeness that does not show what was put in.
-/

namespace SlotUpload.Xml.Element.Likeness

open Building

variable {like : Likeness} {document : String} {root top : Element} {stack stack₁ : List Element}
  {x y rest : List Char} {opened : List (List Char)} {excluded : List String}

/-- No element was opened by a text. -/
theorem exists_of_takeText {text : List Char} (h : top :: stack = takeText text stack₁)
    (excluded : List String) : ∃ top₁, stack₁ = top₁ :: stack ∧ Grown excluded top₁ top := by
  cases stack₁ with
  | nil =>
      rw [takeText_of_nil] at h
      contradiction
  | cons top₁ stack₁ =>
      obtain ⟨top', hgrown, htake⟩ := grown_takeText excluded text top₁ stack₁
      rw [htake] at h
      cases h
      exact ⟨top₁, rfl, hgrown⟩

/-- **Fillers may be put between the children of an open element.** -/
theorem exists_parse_fillers (like : Likeness) {fillers : List Filler}
    (hroot : parse document = .ok root) (hdocument : document.toList = x ++ y)
    (hplace : Reaches (start document) ⟨⟨y, opened⟩, top :: stack⟩)
    (hfits : ∀ f ∈ fillers, f.Fits excluded)
    (hlike : ∀ e e₁ e₂, Grown excluded e e₁ → Grown excluded e e₂ →
      like.rel stack.length e₁ e₂) :
    ∃ root', parse (String.ofList (x ++ (fillers.flatMap Filler.text ++ y))) = .ok root' ∧
      like.rel 0 root root' := by
  obtain ⟨rest, hfinishes⟩ := exists_finishes (show (start document).run = .ok root from hroot)
  have hfinishes := hfinishes.of_reaches hplace
  obtain ⟨text, stack₁, htext, hstack, hparse⟩ :=
    exists_parse hdocument hplace hfinishes.rest_ne_nil
  obtain ⟨top₁, rfl, hgrown₁⟩ := exists_of_takeText hstack excluded
  obtain ⟨text', s, rfl, htext', hfinishes⟩ := hfinishes.exists_markup
  obtain ⟨top₂, hgrown₂, htake⟩ := grown_takeText excluded text' top stack
  obtain ⟨top', hgrown', hrun⟩ := run_fillers hfits htext htext' s opened top₁ stack
  have hrel : like.rel stack.length top₂ top' := hlike top₁ _ _ (hgrown₁.trans hgrown₂) hgrown'
  rw [htake] at hfinishes
  rw [hparse _ (.inl (List.cons_ne_nil _ _)), hrun]
  exact exists_run hfinishes ⟨hrel, stacks_refl stack⟩ (List.cons_ne_nil _ _)

variable {p : Tag.Place} {w : Attribute.Written} {closes : Bool}

/-- A tag with another attribute does the same to the open elements. -/
theorem exists_take_insert {result : Element ⊕ Building} {reader reader₂ : Reader}
    (h : take ⟨reader, stack⟩ (p.tag.event closes) reader₂ = .ok result)
    (hfits : p.Fits excluded w) (hxmlns : String.ofList w.name ≠ "xmlns")
    (hlike : ∀ n e e', SameBut (String.ofList w.name) e e' → like.rel n e e')
    (reader₁ : Reader) : ∃ result',
      take ⟨reader₁, stack⟩ ((p.insert w).event closes) reader₂ = .ok result' ∧
        like.Results result result' := by
  cases closes with
  | false =>
      obtain ⟨e, he, rfl⟩ := exists_of_map_eq_ok h
      obtain ⟨e', he', hsame⟩ := Tag.exists_ofTag_insert he hfits hxmlns
      have he' : ofTag (p.insert w) (inherited ⟨reader₁, stack⟩) = .ok e' := he'
      refine ⟨.inr ⟨reader₂, e' :: stack⟩, ?_, rfl, List.cons_ne_nil _ _, hlike _ e e' hsame,
        stacks_refl stack⟩
      simp [Tag.event, take, he', Except.map]
  | true =>
      obtain ⟨e, he, rfl⟩ := exists_of_map_eq_ok h
      obtain ⟨e', he', hsame⟩ := Tag.exists_ofTag_insert he hfits hxmlns
      have he' : ofTag (p.insert w) (inherited ⟨reader₁, stack⟩) = .ok e' := he'
      refine ⟨attach reader₂ e' stack, ?_,
        results_attach (stacks_refl stack) (hlike _ e e' hsame) reader₂⟩
      simp [Tag.event, take, he', Except.map]

/-- **An attribute of a new name may be put into a tag.** -/
theorem exists_parse_insert (like : Likeness) (hroot : parse document = .ok root)
    (hdocument : document.toList = x ++ (p.tag.text closes ++ rest))
    (hplace : Reaches (start document) ⟨⟨p.tag.text closes ++ rest, opened⟩, stack⟩)
    (hread : p.tag.IsRead closes rest) (hfits : p.Fits excluded w)
    (hxmlns : String.ofList w.name ≠ "xmlns")
    (hlike : ∀ n e e', SameBut (String.ofList w.name) e e' → like.rel n e e') :
    ∃ root', parse (String.ofList (x ++ ((p.insert w).text closes ++ rest))) = .ok root' ∧
      like.rel 0 root root' := by
  have hne : p.tag.text closes ++ rest ≠ [] := by simp [Tag.text]
  obtain ⟨text, stack₁, htext, rfl, hparse⟩ := exists_parse hdocument hplace hne
  -- the document as it was, from the tag on
  have hrun : run ⟨⟨p.tag.text closes ++ rest, opened⟩, takeText text stack₁⟩ = .ok root :=
    hplace.run_eq.symm.trans hroot
  have hstep := step_of_next (b := ⟨⟨p.tag.text closes ++ rest, opened⟩, takeText text stack₁⟩)
    (hread.next_eq opened)
  cases htake : take ⟨⟨p.tag.text closes ++ rest, opened⟩, takeText text stack₁⟩
      (p.tag.event closes) ⟨rest, if closes then opened else p.tag.name :: opened⟩ with
  | error e =>
      rw [htake] at hstep
      rw [run] at hrun
      split at hrun <;> simp_all
  | ok result =>
      rw [run_of_step (hstep.trans htake)] at hrun
      obtain ⟨result', htake', hresults⟩ := exists_take_insert htake hfits hxmlns hlike
        ⟨(p.insert w).text closes ++ rest, opened⟩
      obtain ⟨root', hproceed, hrel⟩ := exists_proceed hrun hresults
      refine ⟨root', ?_, hrel⟩
      have hnew := step_of_next
        (b := ⟨⟨(p.insert w).text closes ++ rest, opened⟩, takeText text stack₁⟩)
        ((hread.insert hfits).next_eq opened)
      rw [hparse _ (.inr (by simp [Tag.text])), Tag.text_append, run_isText htext,
        ← Tag.text_append, run_of_step (hnew.trans htake'), hproceed]

end SlotUpload.Xml.Element.Likeness
