import SlotUpload.Proofs.Xml.Likeness
import SlotUpload.Proofs.Xml.Nesting

/-!
# SlotUpload.Proofs.Xml.Order

Elements in document order, and the first of them that is looked for.  A search goes
through an element and all elements in it as they start in the document (`inOrder`).  At a
place in a document, the elements that have started are the open ones and those that are
complete in them (`started`).

A written tree that is placed there is found first if nothing that has started is looked
for (`exists_parse_found`), whatever follows it: from then on the search ends at the tree
with every step of the reader (`Leads.take`).  No text and no value of a field in a written
tree becomes an element (`map_name_inOrder`).
-/

namespace SlotUpload.Xml.Element

/-! ## document order -/

mutual

/-- An element and all elements in it, in the order in which they start. -/
def inOrder : Element → List Element
  | ⟨name, ns, attributes, children, text⟩ =>
    ⟨name, ns, attributes, children, text⟩ :: inOrderAll children

/-- The elements of a list and all elements in them, in that order. -/
def inOrderAll : List Element → List Element
  | [] => []
  | e :: es => inOrder e ++ inOrderAll es

end

variable {p : Element → Bool} {e e' x : Element} {es : List Element}

mutual

/-- A search goes through an element in document order. -/
theorem find?_eq_find?_inOrder (p : Element → Bool) (e : Element) :
    e.find? p = e.inOrder.find? p := by
  obtain ⟨name, ns, attributes, children, text⟩ := e
  rw [Element.find?, inOrder, List.find?_cons, findAmong?_eq_find?_inOrderAll p children]
  cases p ⟨name, ns, attributes, children, text⟩ <;> rfl

/-- The search goes through the elements in their order. -/
theorem findAmong?_eq_find?_inOrderAll (p : Element → Bool) (es : List Element) :
    findAmong? p es = (inOrderAll es).find? p := by
  cases es with
  | nil => rfl
  | cons e es =>
      rw [findAmong?, inOrderAll, List.find?_append, find?_eq_find?_inOrder p e,
        findAmong?_eq_find?_inOrderAll p es]

end

/-- Nothing is found exactly if no element fits. -/
theorem find?_eq_none_iff : e.find? p = none ↔ ∀ x ∈ e.inOrder, p x = false := by
  rw [find?_eq_find?_inOrder, List.find?_eq_none]
  simp

theorem find?_of_pos (h : p e = true) : e.find? p = some e := by
  cases e
  rw [Element.find?, if_pos h]

theorem find?_of_neg (h : p e = false) : e.find? p = findAmong? p e.children := by
  cases e
  rw [Element.find?, if_neg (by simp [h])]

theorem eq_false_of_find?_eq_none (h : e.find? p = none) :
    p e = false ∧ findAmong? p e.children = none := by
  have hp : p e = false := by
    refine eq_false_of_ne_true fun hp => ?_
    rw [find?_of_pos hp] at h
    contradiction
  exact ⟨hp, (find?_of_neg hp).symm.trans h⟩

theorem findAmong?_append (es fs : List Element) :
    findAmong? p (es ++ fs) = (findAmong? p es).or (findAmong? p fs) := by
  induction es with
  | nil => rfl
  | cons e es ih => rw [List.cons_append, findAmong?, ih, findAmong?, Option.or_assoc]

/-- A last child is found if nothing before it is. -/
theorem findAmong?_concat (h : findAmong? p es = none) (e : Element) :
    findAmong? p (es ++ [e]) = e.find? p := by
  rw [findAmong?_append, h, Option.none_or, findAmong?, findAmong?, Option.or_none]

/-- Does a predicate look at nothing but the names and the namespaces of elements? -/
def OfHead (p : Element → Bool) : Prop :=
  ∀ ⦃e e' : Element⦄, e'.name = e.name → e'.xmlns = e.xmlns → p e' = p e

/-- An element that has grown fits as before. -/
theorem OfHead.grown {excluded : List String} (hp : OfHead p) (h : Grown excluded e e') :
    p e' = p e := hp h.name_eq h.xmlns_eq

namespace Building

variable {stack outer : List Element} {b : Building} {event : Event} {reader : Reader}

/-! ## what is found from a place on -/

/-- The elements that have started where these are open, in document order; those that are
open are as far as they have been read. -/
def started (stack : List Element) : List Element := stack.reverse.flatMap inOrder

/-- None of the elements that have started fits if nothing is found in them. -/
theorem forall_mem_started_iff :
    (∀ x ∈ started stack, p x = false) ↔ ∀ o ∈ stack, o.find? p = none := by
  simp only [started, List.mem_flatMap, List.mem_reverse, find?_eq_none_iff]
  constructor
  · intro h o ho x hx
    exact h x ⟨o, ho, hx⟩
  · rintro h x ⟨o, ho, hx⟩
    exact h o ho x hx

/-- The first element that is looked for is `x`: it is complete in one of the open
elements, and nothing that started before it is looked for. -/
inductive Leads (p : Element → Bool) (x : Element) : List Element → Prop
  | here {e : Element} {outer : List Element} (he : p e = false)
      (hx : findAmong? p e.children = some x) (houter : ∀ o ∈ outer, o.find? p = none) :
      Leads p x (e :: outer)
  | inside {e : Element} {outer : List Element} (h : Leads p x outer) : Leads p x (e :: outer)

/-- The same of what a step comes to. -/
def Leading (p : Element → Bool) (x : Element) : Element ⊕ Building → Prop
  | .inl root => root.find? p = some x
  | .inr b => Leads p x b.stack

namespace Leads

/-- More text and further children come after what is found. -/
theorem grown {excluded : List String} (hp : OfHead p) (h : Leads p x (e :: outer))
    (hgrown : Grown excluded e e') : Leads p x (e' :: outer) := by
  cases h with
  | here he hx houter =>
      obtain ⟨added, -, hadded⟩ := hgrown.children
      refine .here ((hp.grown hgrown).trans he) ?_ houter
      rw [hadded, findAmong?_append, hx, Option.some_or]
  | inside h => exact .inside h

/-- Text leaves the search alone. -/
theorem onTop (hp : OfHead p) (h : Leads p x stack) (text : List Char) :
    Leads p x (onTop (·.addText text) stack) := by
  cases stack with
  | nil => exact h
  | cons e outer =>
      have hgrown : Grown [] e (e.addText text) := .addText e text
      exact h.grown hp hgrown

/-- A further child of the innermost element comes after what is found. -/
theorem attach (hp : OfHead p) (h : Leads p x stack) (reader : Reader) (done : Element) :
    Leading p x (attach reader done stack) := by
  cases stack with
  | nil => cases h
  | cons parent outer =>
      have hgrown : Grown [] parent (parent.addChild done) := .addChild parent List.not_mem_nil
      exact h.grown hp hgrown

/-- The innermost element goes to where its parent is open, with what is found. -/
theorem finish (hp : OfHead p) (h : Leads p x (e :: stack)) (reader : Reader) :
    Leading p x (Building.attach reader e stack) := by
  cases h with
  | inside h => exact h.attach hp reader e
  | here he hx houter =>
      have hfind : e.find? p = some x := (find?_of_neg he).trans hx
      cases stack with
      | nil => exact hfind
      | cons parent outer =>
          obtain ⟨hparent, houter⟩ := List.forall_mem_cons.1 houter
          obtain ⟨hhead, hchildren⟩ := eq_false_of_find?_eq_none hparent
          have hgrown : Grown [] parent (parent.addChild e) := .addChild parent List.not_mem_nil
          refine .here ((hp.grown hgrown).trans hhead) ?_ houter
          rw [addChild, findAmong?_concat hchildren, hfind]

/-- Every step leaves what is found the first. -/
theorem take (hp : OfHead p) (h : Leads p x b.stack) {result : Element ⊕ Building}
    (htake : b.take event reader = .ok result) : Leading p x result := by
  cases event with
  | start tag =>
      obtain ⟨e, -, rfl⟩ := exists_of_map_eq_ok htake
      exact .inside h
  | empty tag =>
      obtain ⟨e, -, rfl⟩ := exists_of_map_eq_ok htake
      exact h.attach hp reader e
  | text raw =>
      simp only [Building.take] at htake
      split at htake
      · contradiction
      · split at htake
        · cases htake
          exact h
        · cases htake
          exact h.onTop hp _
  | cdata content =>
      cases htake
      exact h.onTop hp content
  | finish =>
      simp only [Building.take] at htake
      split at htake
      · contradiction
      · next done stack hstack =>
          cases htake
          exact finish hp (hstack ▸ h) reader
  | remark =>
      cases htake
      exact h
  | endOfInput => contradiction

/-- The root that the reader comes to holds what was found as the first. -/
theorem find?_eq (hp : OfHead p) {root : Element} {rest : List Char}
    (hfinishes : Finishes b root rest) (h : Leads p x b.stack) : root.find? p = some x := by
  induction hfinishes with
  | done _ htake => exact h.take hp htake
  | @move b b' _ _ hmove _ ih =>
      obtain ⟨event, reader, -, htake⟩ := exists_next_of_step hmove
      exact ih (h.take hp htake)

end Leads

/-! ## trees that are placed in a document -/

section Placed

variable {document : String} {root top : Element} {u v : List Char} {opened : List (List Char)}

/-- A written tree that is placed between the children of an open element is its next child. -/
theorem parse_placed (m : Markup) (hdocument : document.toList = u ++ v)
    (hplace : Reaches (start document) ⟨⟨v, opened⟩, top :: stack⟩) (hv : v ≠ []) :
    parse (String.ofList (u ++ (m.write ++ v))) =
      run ⟨⟨v, opened⟩, top.addChild (m.element top.xmlns) :: stack⟩ := by
  obtain ⟨text, stack₁, htext, hstack, hparse⟩ := exists_parse hdocument hplace hv
  obtain ⟨s, hs⟩ : ∃ s, m.write ++ v = '<' :: s := by cases m <;> exact ⟨_, rfl⟩
  rw [hparse _ (.inl (List.cons_ne_nil _ _)), hs, run_isText htext, ← hs, ← hstack, run_write]
  rfl

/-- **A written tree that is placed in a document is found there**, if it is looked for and
nothing that started before it is. -/
theorem exists_parse_found (hp : OfHead p) {m : Markup} (hroot : parse document = .ok root)
    (hdocument : document.toList = u ++ v)
    (hplace : Reaches (start document) ⟨⟨v, opened⟩, top :: stack⟩)
    (hm : p (m.element top.xmlns) = true) (hfirst : ∀ x ∈ started (top :: stack), p x = false) :
    ∃ root', parse (String.ofList (u ++ (m.write ++ v))) = .ok root' ∧
      root'.find? p = some (m.element top.xmlns) := by
  obtain ⟨rest, hfinishes⟩ := exists_finishes (show (start document).run = .ok root from hroot)
  have hfinishes := hfinishes.of_reaches hplace
  obtain ⟨root', hrun⟩ : ∃ root', run ⟨⟨v, opened⟩, top.addChild (m.element top.xmlns) :: stack⟩ =
      .ok root' := Likeness.exists_run_of_length hfinishes rfl (List.cons_ne_nil _ _)
  refine ⟨root', (parse_placed m hdocument hplace hfinishes.rest_ne_nil).trans hrun, ?_⟩
  obtain ⟨rest', hfinishes'⟩ := exists_finishes hrun
  obtain ⟨htop, houter⟩ := List.forall_mem_cons.1 (forall_mem_started_iff.1 hfirst)
  obtain ⟨hhead, hchildren⟩ := eq_false_of_find?_eq_none htop
  have hgrown : Grown [] top (top.addChild (m.element top.xmlns)) :=
    .addChild top List.not_mem_nil
  have hfound : findAmong? p (top.addChild (m.element top.xmlns)).children =
      some (m.element top.xmlns) := by
    rw [addChild, findAmong?_concat hchildren, find?_of_pos hm]
  exact Leads.find?_eq hp hfinishes' (.here ((hp.grown hgrown).trans hhead) hfound houter)

end Placed

end Building

end SlotUpload.Xml.Element

namespace SlotUpload.Xml

open Element

/-! ## written trees -/

namespace Markup

mutual

/-- The names in a tree, in document order. -/
def names : Markup → List String
  | closed name _ => [name.text]
  | opened name _ _ children => name.text :: namesAll children

/-- The names in trees, one after the other. -/
def namesAll : List Markup → List String
  | [] => []
  | m :: ms => names m ++ namesAll ms

end

mutual

/-- A tree is read back with the elements that it has and no others, whatever its texts and
the values of its fields are. -/
theorem map_name_inOrder (m : Markup) (inherited : Option String) :
    (m.element inherited).inOrder.map (·.name) = m.names := by
  cases m with
  | closed name fields => rfl
  | opened name fields text children =>
      exact congrArg (name.text :: ·) (map_name_inOrderAll children _)

/-- The names of written elements in their order. -/
theorem map_name_inOrderAll (ms : List Markup) (inherited : Option String) :
    (inOrderAll (elements inherited ms)).map (·.name) = namesAll ms := by
  cases ms with
  | nil => rfl
  | cons m ms =>
      rw [elements, inOrderAll, List.map_append, map_name_inOrder m, map_name_inOrderAll ms,
        namesAll]

end

end Markup

end SlotUpload.Xml
