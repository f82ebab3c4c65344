import SlotUpload.Proofs.Xml.Reading

/-!
# SlotUpload.Proofs.Xml.Nesting

Elements inside of other elements.  An element that can be read by itself can be read inside
of another one too (`run_inside`), and is then its child; only the namespace that it inherits
may differ, and its name does not depend on that.  The proof runs the reader in both places
at once: each event that can be taken in can be taken in inside of others (`take_nested`),
and a piece of markup is read in the same way there (`next_nested`).
-/

namespace SlotUpload.Xml

/-! ## open tags -/

namespace Reader

variable {opened opened' : List (List Char)} {s rest : List Char}

/-- A declaration, comment or section opens and closes nothing. -/
theorem Bang.event_eq_ok {kind : Bang} {content : List Char} {event : Event}
    (h : kind.event content = .ok event) : event = .remark ∨ ∃ content, event = .cdata content := by
  unfold Bang.event at h
  cases kind with
  | comment =>
      dsimp only at h
      split at h
      · cases h
        exact .inl rfl
      · contradiction
  | cdata =>
      dsimp only at h
      split at h
      · cases h
        exact .inr ⟨_, rfl⟩
      · contradiction
  | doctype =>
      dsimp only at h
      split at h
      · split at h
        · contradiction
        · cases h
          exact .inl rfl
      · contradiction

/-- No tag starts with `<!`. -/
theorem bang_eq_ok {event : Event} (h : bang opened s = .ok (event, ⟨rest, opened'⟩)) :
    opened' = opened ∧ (event = .remark ∨ ∃ content, event = .cdata content) := by
  unfold bang at h
  split at h
  · contradiction
  · split at h
    · contradiction
    · split at h
      · contradiction
      · obtain ⟨e, hevent, heq⟩ := exists_of_map_eq_ok h
        cases heq
        exact ⟨rfl, Bang.event_eq_ok hevent⟩

/-- An end tag names the innermost open tag. -/
theorem closing_eq_ok {event : Event} (h : closing opened s = .ok (event, ⟨rest, opened'⟩)) :
    event = .finish ∧ opened = endName (s.takeWhile (· != '>')) :: opened' := by
  unfold closing at h
  dsimp only at h
  split at h
  · contradiction
  · split at h
    · next hname =>
        cases h
        exact ⟨rfl, by rw [hname]⟩
    · contradiction

theorem instruction_eq_ok {event : Event}
    (h : instruction opened s = .ok (event, ⟨rest, opened'⟩)) :
    event = .remark ∧ opened' = opened := by
  unfold instruction at h
  dsimp only at h
  split at h
  · cases h
    exact ⟨rfl, rfl⟩
  · contradiction

/-- A tag goes up to a `>` of its own. -/
theorem element_eq_ok {event : Event} (h : element opened s = .ok (event, ⟨rest, opened'⟩)) :
    '>' ∈ s ∧ ((∃ tag, event = .empty tag ∧ opened' = opened) ∨
      ∃ tag, event = .start tag ∧ opened' = tag.name :: opened) := by
  unfold element at h
  split at h
  · contradiction
  · next content tail hcontent =>
      have hmem : '>' ∈ s := by
        rw [(of_tagContent? hcontent).1]
        exact List.mem_append_right _ List.mem_cons_self
      split at h
      · cases h
        exact ⟨hmem, .inl ⟨_, rfl, rfl⟩⟩
      · cases h
        exact ⟨hmem, .inr ⟨_, rfl, rfl⟩⟩

/-- What an event does to the names of the open tags. -/
def Opens (opened : List (List Char)) : Event → List (List Char) → Prop
  | .start tag, opened' => opened' = tag.name :: opened
  | .finish, opened' => ∃ name, opened = name :: opened'
  | _, opened' => opened' = opened

/-- What an event does to the open names. -/
theorem opens_of_next {event : Event} (h : next ⟨s, opened⟩ = .ok (event, ⟨rest, opened'⟩)) :
    Opens opened event opened' := by
  unfold next at h
  split at h
  · cases h; rfl
  · unfold markup at h
    split at h
    · cases h; rfl
    · obtain ⟨rfl, rfl | ⟨content, rfl⟩⟩ := bang_eq_ok h <;> rfl
    · obtain ⟨rfl, hopened⟩ := closing_eq_ok h
      exact ⟨_, hopened⟩
    · obtain ⟨rfl, rfl⟩ := instruction_eq_ok h
      rfl
    · obtain ⟨-, ⟨tag, rfl, rfl⟩ | ⟨tag, rfl, rfl⟩⟩ := element_eq_ok h <;> rfl
  · cases h; rfl

/-- An end tag starts with `</`. -/
theorem of_next_finish (h : next ⟨s, opened⟩ = .ok (.finish, ⟨rest, opened'⟩)) :
    ∃ raw, s = '<' :: '/' :: raw ∧ closing opened raw = .ok (.finish, ⟨rest, opened'⟩) := by
  unfold next at h
  split at h
  · cases h
  · next cs hs =>
      obtain rfl : s = '<' :: cs := hs
      unfold markup at h
      split at h
      · cases h
      · rcases (bang_eq_ok h).2 with he | ⟨_, he⟩ <;> cases he
      · next raw => exact ⟨raw, rfl, h⟩
      · cases (instruction_eq_ok h).1
      · rcases (element_eq_ok h).2 with ⟨_, he, -⟩ | ⟨_, he, -⟩ <;> cases he
  · cases h

/-- A tag that closes itself has a `>`. -/
theorem of_next_empty {tag : Tag} (h : next ⟨s, opened⟩ = .ok (.empty tag, ⟨rest, opened'⟩)) :
    ∃ cs, s = '<' :: cs ∧ '>' ∈ cs := by
  unfold next at h
  split at h
  · cases h
  · next cs hs =>
      obtain rfl : s = '<' :: cs := hs
      unfold markup at h
      split at h
      · cases h
      · rcases (bang_eq_ok h).2 with he | ⟨_, he⟩ <;> cases he
      · cases (closing_eq_ok h).1
      · cases (instruction_eq_ok h).1
      · exact ⟨_, rfl, (element_eq_ok h).1⟩
  · cases h

end Reader

namespace Element

/-! ## growing elements -/

/-- An element with more text, and with further children of none of the names. -/
structure Grown (excluded : List String) (e e' : Element) : Prop where
  name_eq : e'.name = e.name
  xmlns_eq : e'.xmlns = e.xmlns
  attributes_eq : e'.attributes = e.attributes
  children : ∃ added, (∀ c ∈ added, c.name ∉ excluded) ∧ e'.children = e.children ++ added

namespace Grown

variable {excluded : List String} {e e' e'' child : Element}

theorem refl (e : Element) : Grown excluded e e := ⟨rfl, rfl, rfl, [], by simp, by simp⟩

theorem trans (h : Grown excluded e e') (h' : Grown excluded e' e'') : Grown excluded e e'' := by
  obtain ⟨added, hnames, hadded⟩ := h.children
  obtain ⟨added', hnames', hadded'⟩ := h'.children
  refine ⟨h'.name_eq.trans h.name_eq, h'.xmlns_eq.trans h.xmlns_eq,
    h'.attributes_eq.trans h.attributes_eq, added ++ added', ?_, ?_⟩
  · intro c hc
    exact (List.mem_append.1 hc).elim (hnames c) (hnames' c)
  · rw [hadded', hadded, List.append_assoc]

theorem addText (e : Element) (text : List Char) : Grown excluded e (e.addText text) :=
  ⟨rfl, rfl, rfl, [], by simp, by simp [Element.addText]⟩

theorem addChild (e : Element) (h : child.name ∉ excluded) :
    Grown excluded e (e.addChild child) :=
  ⟨rfl, rfl, rfl, [child], by simpa using h, rfl⟩

end Grown

/-! ## elements inside of others -/

/-- The names of elements. -/
abbrev names (es : List Element) : List String := es.map (·.name)

namespace Building

variable {excluded : List String} {own own' stack : List Element} {top e : Element}
  {event : Event} {reader reader₁ reader₂ : Reader}

/-- What becomes of the open elements inside of others, of which `top` is the innermost,
if by themselves they become this. -/
def Nested (excluded : List String) (top : Element) (stack : List Element) :
    Element ⊕ Building → List Element → Prop
  | .inl e, stack' => ∃ e', e'.name = e.name ∧ stack' = top.addChild e' :: stack
  | .inr b, stack' => ∃ own top', names own = names b.stack ∧ Grown excluded top top' ∧
    stack' = own ++ top' :: stack

/-- Text inside stays inside. -/
theorem nested_onTop (hnames : names own' = names own) (text : List Char) :
    Nested excluded top stack (.inr ⟨reader, onTop (·.addText text) own⟩)
      (onTop (·.addText text) (own' ++ top :: stack)) := by
  cases own' with
  | nil =>
      cases own with
      | nil => exact ⟨[], _, rfl, .addText top text, rfl⟩
      | cons e own => contradiction
  | cons e' own' =>
      cases own with
      | nil => contradiction
      | cons e own => exact ⟨e'.addText text :: own', top, hnames, .refl top, rfl⟩

/-- An element that is attached inside stays inside. -/
theorem nested_attach (hnames : names own' = names own) {e' : Element} (he : e'.name = e.name)
    (reader₁ reader₂ : Reader) : ∃ stack',
      attach reader₂ e' (own' ++ top :: stack) = .inr ⟨reader₂, stack'⟩ ∧
        Nested excluded top stack (attach reader₁ e own) stack' := by
  cases own' with
  | nil =>
      cases own with
      | nil => exact ⟨_, rfl, e', he, rfl⟩
      | cons parent own => contradiction
  | cons parent' own' =>
      cases own with
      | nil => contradiction
      | cons parent own =>
          exact ⟨_, rfl, parent'.addChild e' :: own', top, hnames, .refl top, rfl⟩

/-- An event that can be taken in can be taken in inside of other elements. -/
theorem take_nested (excluded : List String) {result : Element ⊕ Building}
    (hnames : names own' = names own) (h : take ⟨reader, own⟩ event reader₁ = .ok result)
    (top : Element) (stack : List Element) (r reader₂ : Reader) :
    ∃ stack', take ⟨r, own' ++ top :: stack⟩ event reader₂ = .ok (.inr ⟨reader₂, stack'⟩) ∧
      Nested excluded top stack result stack' := by
  have hsame : Nested excluded top stack (.inr ⟨reader₁, own⟩) (own' ++ top :: stack) :=
    ⟨own', top, hnames, .refl top, rfl⟩
  cases event with
  | start tag =>
      obtain ⟨e, he, heq⟩ := exists_of_map_eq_ok h
      cases heq
      obtain ⟨e', he', hname⟩ := exists_of_ofTag he (inherited ⟨r, own' ++ top :: stack⟩)
      refine ⟨e' :: (own' ++ top :: stack), ?_, e' :: own', top, ?_, .refl top, rfl⟩
      · rw [take, he']
        rfl
      · simp [hname, hnames]
  | empty tag =>
      obtain ⟨e, he, heq⟩ := exists_of_map_eq_ok h
      subst heq
      obtain ⟨e', he', hname⟩ := exists_of_ofTag he (inherited ⟨r, own' ++ top :: stack⟩)
      obtain ⟨stack', hattach, hnested⟩ := nested_attach hnames hname reader₁ reader₂
      refine ⟨stack', ?_, hnested⟩
      rw [take, he', Except.map, hattach]
  | text raw =>
      simp only [take] at h ⊢
      split at h
      · contradiction
      · split at h
        · cases h
          simp_all
        · cases h
          exact ⟨_, by simp_all, nested_onTop hnames _⟩
  | cdata content =>
      cases h
      exact ⟨_, rfl, nested_onTop hnames content⟩
  | finish =>
      cases own with
      | nil => contradiction
      | cons done own =>
          cases own' with
          | nil => contradiction
          | cons done' own' =>
              cases h
              obtain ⟨hname, hnames⟩ := List.cons.inj hnames
              obtain ⟨stack', hattach, hnested⟩ := nested_attach hnames hname reader₁ reader₂
              refine ⟨stack', ?_, hnested⟩
              simp [take, hattach]
  | remark =>
      cases h
      exact ⟨_, rfl, hsame⟩
  | endOfInput => contradiction

/-- As many tags as elements are open after an event; none when the root is complete. -/
def Balanced (opened : List (List Char)) : Element ⊕ Building → Prop
  | .inl _ => opened = []
  | .inr b => opened.length = b.stack.length

/-- Attaching an element keeps the count of open ones. -/
theorem balanced_attach {opened : List (List Char)} (h : opened.length = own.length)
    (reader : Reader) (e : Element) : Balanced opened (attach reader e own) := by
  cases own with
  | nil => exact List.length_eq_zero_iff.1 h
  | cons parent own => exact h

theorem balanced_take {opened opened' : List (List Char)} {result : Element ⊕ Building}
    (hopens : Reader.Opens opened event opened')
    (htake : take ⟨reader, own⟩ event reader₁ = .ok result) (hlength : opened.length = own.length) :
    Balanced opened' result := by
  have honTop : ∀ f, (onTop f own).length = own.length := fun f => by cases own <;> rfl
  cases event with
  | start tag =>
      obtain ⟨e, -, rfl⟩ := exists_of_map_eq_ok htake
      cases hopens
      simp [Balanced, hlength]
  | empty tag =>
      obtain ⟨e, -, rfl⟩ := exists_of_map_eq_ok htake
      exact balanced_attach ((congrArg List.length hopens).trans hlength) _ e
  | text raw =>
      cases hopens
      simp only [take] at htake
      split at htake
      · contradiction
      · split at htake <;> cases htake <;> simp [Balanced, hlength, honTop]
  | cdata content =>
      cases hopens
      cases htake
      simp [Balanced, hlength, honTop]
  | finish =>
      obtain ⟨name, rfl⟩ := hopens
      cases own with
      | nil => contradiction
      | cons done own =>
          cases htake
          exact balanced_attach (by simpa using hlength) _ done
  | remark =>
      cases hopens
      cases htake
      simp [Balanced, hlength]
  | endOfInput => contradiction

/-- What is read by itself is read with more around it and after it. -/
theorem next_nested {opened opened' : List (List Char)} {w rest : List Char}
    (h : Reader.next ⟨w, opened⟩ = .ok (event, ⟨rest, opened'⟩))
    (hend : rest ≠ [] ∨ w.getLast? = some '>' ∧ ∀ s, event ≠ .text s)
    (z : List Char) (outer : List (List Char)) :
    Reader.next ⟨w ++ z, opened ++ outer⟩ = .ok (event, ⟨rest ++ z, opened' ++ outer⟩) := by
  obtain ⟨p, rfl, hp | ⟨rfl, rfl, hne, hno, hhead⟩⟩ := Reader.next_cases h (hend.imp_right (·.1))
  · rw [List.append_assoc]
    exact hp (rest ++ z) outer
  · have hrest : rest ≠ [] := hend.elim id fun h => absurd rfl (h.2 p)
    rw [List.append_assoc]
    refine next_isText hno hne fun c hc => hhead c ?_
    rwa [List.head?_append_of_ne_nil _ hrest] at hc

/-- A step that can be taken by itself can be taken inside of others. -/
theorem run_step_nested (excluded : List String) {opened opened' : List (List Char)}
    {w rest : List Char} {result : Element ⊕ Building}
    (hnext : Reader.next ⟨w, opened⟩ = .ok (event, ⟨rest, opened'⟩))
    (htake : take ⟨reader, own⟩ event reader₁ = .ok result)
    (hend : rest ≠ [] ∨ w.getLast? = some '>' ∧ ∀ s, event ≠ .text s)
    (hnames : names own' = names own) (z : List Char) (outer : List (List Char)) (top : Element)
    (stack : List Element) : ∃ stack', Nested excluded top stack result stack' ∧
      run ⟨⟨w ++ z, opened ++ outer⟩, own' ++ top :: stack⟩ =
        run ⟨⟨rest ++ z, opened' ++ outer⟩, stack'⟩ := by
  obtain ⟨stack', htake', hnested⟩ := take_nested excluded hnames htake top stack
    ⟨w ++ z, opened ++ outer⟩ ⟨rest ++ z, opened' ++ outer⟩
  have hstep := step_of_next (b := ⟨⟨w ++ z, opened ++ outer⟩, own' ++ top :: stack⟩)
    (next_nested hnext hend z outer)
  exact ⟨stack', hnested, run_of_step (hstep.trans htake')⟩

/-- **An element that is read by itself is read inside of others too**, if its last tag
is complete. -/
theorem run_inside (excluded : List String) {b : Building} {rest : List Char}
    (h : Finishes b e rest) (hrest : rest = []) (hend : b.reader.rest.getLast? = some '>')
    (hlength : b.reader.opened.length = b.stack.length) (z : List Char)
    (outer : List (List Char)) (hnames : names own' = names b.stack) (top : Element)
    (stack : List Element) : ∃ top' e', Grown excluded top top' ∧ e'.name = e.name ∧
      run ⟨⟨b.reader.rest ++ z, b.reader.opened ++ outer⟩, own' ++ top :: stack⟩ =
        run ⟨⟨z, outer⟩, top'.addChild e' :: stack⟩ := by
  induction h generalizing own' top with
  | @done b event reader root hnext htake =>
      obtain ⟨rest, opened'⟩ := reader
      obtain rfl : rest = [] := hrest
      have hopened : opened' = [] := balanced_take (Reader.opens_of_next hnext) htake hlength
      have htext : ∀ s, event ≠ .text s := by
        rintro s rfl
        rcases take_eq_inl_iff.1 htake with ⟨he, -⟩ | ⟨_, he, -⟩ <;> cases he
      obtain ⟨stack', ⟨e', hname, rfl⟩, hrun⟩ := run_step_nested excluded hnext htake
        (.inr ⟨hend, htext⟩) hnames z outer top stack
      rw [hopened] at hrun
      exact ⟨top, e', .refl top, hname, hrun⟩
  | @move b b' root rest hmove h ih =>
      have hne := h.rest_ne_nil
      obtain ⟨event, reader, hnext, htake⟩ := exists_next_of_step hmove
      obtain ⟨front, hfront⟩ := Moves.suffix hmove
      obtain ⟨rfl, -⟩ := take_reader htake
      have hlength' := balanced_take (Reader.opens_of_next hnext) htake hlength
      have hlast : b'.reader.rest.getLast? = some '>' := by
        rwa [← hfront, List.getLast?_append_of_ne_nil _ hne] at hend
      obtain ⟨stack', ⟨own₁, top₁, hnames₁, hgrown₁, rfl⟩, hrun⟩ :=
        run_step_nested excluded hnext htake (.inl hne) hnames z outer top stack
      obtain ⟨top', e', hgrown, hname, hrun'⟩ := ih hrest hlast hlength' hnames₁ top₁
      exact ⟨top', e', hgrown₁.trans hgrown, hname, hrun.trans hrun'⟩

end Building

end Element

end SlotUpload.Xml
