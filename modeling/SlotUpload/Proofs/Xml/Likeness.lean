import SlotUpload.Proofs.Xml.Reading

/-!
# SlotUpload.Proofs.Xml.Likeness

Elements that are alike in what matters.  What matters of an element depends on how deep
it stands; a `Likeness` is a family of relations, one for each depth, that text and
further children keep.  If the open elements of two readers of one text are alike, then
so are the roots they come to (`Likeness.exists_run`).  That there is a root at all asks for
no likeness (`Likeness.exists_run_of_length`).
-/

namespace SlotUpload.Xml.Element

/-- What it means for elements to be alike at a depth; the root has depth zero. -/
structure Likeness where
  rel : Nat → Element → Element → Prop
  rel_refl (n : Nat) (e : Element) : rel n e e
  rel_addText {n : Nat} {e e' : Element} (h : rel n e e') (text : List Char) :
    rel n (e.addText text) (e'.addText text)
  rel_addChild {n : Nat} {e e' c c' : Element} (h : rel n e e') (hchild : rel (n + 1) c c') :
    rel n (e.addChild c) (e'.addChild c')
  /-- Below the root the namespace does not matter. -/
  rel_ofTag {n : Nat} {tag : Tag} {inherited inherited' : Option String} {e e' : Element}
    (h : ofTag tag inherited = .ok e) (h' : ofTag tag inherited' = .ok e') : rel (n + 1) e e'

namespace Likeness

open Building

variable (like : Likeness)

/-- Open elements that are alike, each at its depth. -/
def Stacks : List Element → List Element → Prop
  | [], [] => True
  | e :: es, e' :: es' => like.rel es.length e e' ∧ Stacks es es'
  | _, _ => False

/-- Results of steps that are alike. -/
def Results : Element ⊕ Building → Element ⊕ Building → Prop
  | .inl e, .inl e' => like.rel 0 e e'
  | .inr b, .inr b' => b'.reader = b.reader ∧ b.stack ≠ [] ∧ like.Stacks b.stack b'.stack
  | _, _ => False

variable {like} {stack stack' : List Element} {e e' : Element} {event : Event}
  {reader reader₁ : Reader}

theorem stacks_refl (stack : List Element) : like.Stacks stack stack := by
  induction stack with
  | nil => trivial
  | cons e es ih => exact ⟨like.rel_refl es.length e, ih⟩

/-- Text on top leaves stacks alike. -/
theorem stacks_onTop (h : like.Stacks stack stack') (text : List Char) :
    like.Stacks (onTop (·.addText text) stack) (onTop (·.addText text) stack') := by
  cases stack with
  | nil => cases stack' with
    | nil => exact h
    | cons e' es' => exact h
  | cons e es => cases stack' with
    | nil => exact h
    | cons e' es' => exact ⟨like.rel_addText h.1 text, h.2⟩

theorem onTop_ne_nil {f : Element → Element} (h : stack ≠ []) : onTop f stack ≠ [] := by
  cases stack with
  | nil => contradiction
  | cons e es => exact List.cons_ne_nil _ _

/-- Alike elements are attached alike. -/
theorem results_attach (h : like.Stacks stack stack') (he : like.rel stack.length e e')
    (reader : Reader) : like.Results (attach reader e stack) (attach reader e' stack') := by
  cases stack with
  | nil =>
      cases stack' with
      | nil => exact he
      | cons e' es' => exact h.elim
  | cons parent es =>
      cases stack' with
      | nil => exact h.elim
      | cons parent' es' =>
          exact ⟨rfl, List.cons_ne_nil _ _, like.rel_addChild h.1 he, h.2⟩

/-- An event does the same to elements that are alike. -/
theorem exists_take {result : Element ⊕ Building} (h : like.Stacks stack stack')
    (hne : stack ≠ []) (htake : take ⟨reader, stack⟩ event reader₁ = .ok result) :
    ∃ result', take ⟨reader, stack'⟩ event reader₁ = .ok result' ∧
      like.Results result result' := by
  obtain ⟨depth, hdepth⟩ : ∃ depth, stack.length = depth + 1 :=
    Nat.exists_eq_succ_of_ne_zero (by simpa using hne)
  cases event with
  | start tag =>
      obtain ⟨e, he, rfl⟩ := exists_of_map_eq_ok htake
      obtain ⟨e', he', -⟩ := exists_of_ofTag he (inherited ⟨reader, stack'⟩)
      have hrel : like.rel stack.length e e' := hdepth ▸ like.rel_ofTag he he'
      refine ⟨.inr ⟨reader₁, e' :: stack'⟩, ?_, rfl, List.cons_ne_nil _ _, hrel, h⟩
      rw [take, he']
      rfl
  | empty tag =>
      obtain ⟨e, he, rfl⟩ := exists_of_map_eq_ok htake
      obtain ⟨e', he', -⟩ := exists_of_ofTag he (inherited ⟨reader, stack'⟩)
      have hrel : like.rel stack.length e e' := hdepth ▸ like.rel_ofTag he he'
      refine ⟨attach reader₁ e' stack', ?_, results_attach h hrel reader₁⟩
      rw [take, he']
      rfl
  | text raw =>
      simp only [take] at htake ⊢
      split at htake
      · contradiction
      · next text _ =>
          split at htake
          · cases htake
            exact ⟨.inr ⟨reader₁, stack'⟩, by simp_all, rfl, hne, h⟩
          · cases htake
            exact ⟨.inr ⟨reader₁, onTop (·.addText text) stack'⟩, by simp_all, rfl,
              onTop_ne_nil hne, stacks_onTop h text⟩
  | cdata content =>
      cases htake
      exact ⟨_, rfl, rfl, onTop_ne_nil hne, stacks_onTop h content⟩
  | finish =>
      cases stack with
      | nil => contradiction
      | cons done es =>
          cases stack' with
          | nil => exact h.elim
          | cons done' es' =>
              cases htake
              exact ⟨_, rfl, results_attach h.2 h.1 reader₁⟩
  | remark =>
      cases htake
      exact ⟨_, rfl, rfl, hne, h⟩
  | endOfInput => contradiction

/-- **Readers whose open elements are alike come to roots that are alike.** -/
theorem exists_run {b : Building} {root : Element} {rest : List Char}
    (h : Finishes b root rest) (hstacks : like.Stacks b.stack stack') (hne : b.stack ≠ []) :
    ∃ root', run ⟨b.reader, stack'⟩ = .ok root' ∧ like.rel 0 root root' := by
  induction h generalizing stack' with
  | @done b event reader root hnext htake =>
      obtain ⟨result, htake', hresult⟩ := exists_take hstacks hne htake
      cases result with
      | inr b' => exact hresult.elim
      | inl root' =>
          refine ⟨root', ?_, hresult⟩
          exact run_of_step ((step_of_next (b := ⟨b.reader, stack'⟩) hnext).trans htake')
  | @move b b₁ root rest hmove h ih =>
      obtain ⟨event, reader, hnext, htake⟩ := exists_next_of_step hmove
      obtain ⟨result, htake', hresult⟩ := exists_take hstacks hne htake
      cases result with
      | inl root' => exact hresult.elim
      | inr b₁' =>
          obtain ⟨hreader, hne₁, hstacks₁⟩ := hresult
          obtain ⟨root', hrun, hrel⟩ := ih hstacks₁ hne₁
          refine ⟨root', ?_, hrel⟩
          rw [← hrun, ← hreader]
          exact run_of_step ((step_of_next (b := ⟨b.reader, stack'⟩) hnext).trans htake')

/-- So do results of a step. -/
theorem exists_proceed {result result' : Element ⊕ Building} {root : Element}
    (h : proceed result = .ok root) (hresults : like.Results result result') :
    ∃ root', proceed result' = .ok root' ∧ like.rel 0 root root' := by
  cases result with
  | inl done =>
      cases result' with
      | inr b' => exact hresults.elim
      | inl done' =>
          cases h
          exact ⟨done', rfl, hresults⟩
  | inr b =>
      cases result' with
      | inl done' => exact hresults.elim
      | inr b' =>
          obtain ⟨hreader, hne, hstacks⟩ := hresults
          obtain ⟨rest, hfinishes⟩ := exists_finishes (show b.run = .ok root from h)
          obtain ⟨root', hrun, hrel⟩ := exists_run hfinishes hstacks hne
          refine ⟨root', ?_, hrel⟩
          rw [← hrun, ← hreader]
          rfl

/-! ## elements that need not be alike -/

/-- Elements that are alike in nothing. -/
def anything : Likeness where
  rel _ _ _ := True
  rel_refl _ _ := trivial
  rel_addText _ _ := trivial
  rel_addChild _ _ := trivial
  rel_ofTag _ _ := trivial

/-- If anything will do, stacks of one height are alike. -/
theorem stacks_anything (h : stack'.length = stack.length) : anything.Stacks stack stack' := by
  induction stack generalizing stack' with
  | nil =>
      obtain rfl := List.length_eq_zero_iff.1 h
      trivial
  | cons e es ih =>
      cases stack' with
      | nil => contradiction
      | cons e' es' => exact ⟨trivial, ih (Nat.succ.inj h)⟩

/-- Whether a document is read to its end depends on how many elements are open, and not on
what they are. -/
theorem exists_run_of_length {b : Building} {root : Element} {rest : List Char}
    (h : Finishes b root rest) (hlength : stack'.length = b.stack.length) (hne : b.stack ≠ []) :
    ∃ root', run ⟨b.reader, stack'⟩ = .ok root' :=
  have ⟨root', hrun, _⟩ := exists_run h (stacks_anything hlength) hne
  ⟨root', hrun⟩

end Likeness

end SlotUpload.Xml.Element
