import SlotUpload.Proofs.Xml.Nesting

/-!
# SlotUpload.Proofs.Xml.Matching

Start tags and their end tags.  What is read of a document is a list of marks: start tags,
end tags with the names in them, and everything else.  Marks are `Matched` if every start
tag among them has its end tag, with its name; start tags that have none yet are
`Unclosed`.

While a tree is built, its open elements are those of the unclosed tags, from the outermost
to the innermost (`Seen.inStep`).  So an end tag closes the element that it names, there is
always one to be closed, and a tree is complete only where nothing is left open
(`parse_disciplined`).
-/

namespace SlotUpload.Xml

/-! ## marks -/

/-- What a piece of a document does to the tags that are open. -/
inductive Mark
  | opens (tag : Tag)
  /-- An end tag, by the name in it. -/
  | closes (name : List Char)
  | passes
  deriving DecidableEq, Repr

/-- The name in an end tag that a text starts with. -/
def endTagName (s : List Char) : List Char := Reader.endName ((s.drop 2).takeWhile (· != '>'))

/-- The mark of an event that is read where a text starts. -/
def Mark.ofEvent (s : List Char) : Event → Mark
  | .start tag => .opens tag
  | .finish => .closes (endTagName s)
  | _ => .passes

/-- Marks of which every start tag has its end tag.  What is between the two is matched
too. -/
inductive Matched : List Mark → Prop
  | nil : Matched []
  | passes {marks : List Mark} : Matched marks → Matched (.passes :: marks)
  | nested {inner marks : List Mark} (tag : Tag) : Matched inner → Matched marks →
    Matched (.opens tag :: (inner ++ .closes tag.name :: marks))

/-- The start tags that have no end tag, from the outermost to the innermost. -/
inductive Unclosed : List Mark → List Tag → Prop
  | none {marks : List Mark} : Matched marks → Unclosed marks []
  | more {before marks : List Mark} {tags : List Tag} (tag : Tag) : Matched before →
    Unclosed marks tags → Unclosed (before ++ .opens tag :: marks) (tag :: tags)

variable {marks marks' : List Mark} {tag : Tag} {tags tags' : List Tag}

/-- Matched marks after matched marks are matched. -/
theorem Matched.append (h : Matched marks) (h' : Matched marks') : Matched (marks ++ marks') := by
  induction h with
  | nil => exact h'
  | passes _ ih => exact .passes ih
  | nested tag hinner _ _ ih =>
      rw [List.cons_append, List.append_assoc, List.cons_append]
      exact .nested tag hinner ih

namespace Unclosed

/-- What passes leaves the tags open that are. -/
theorem passes (h : Unclosed marks tags) : Unclosed (marks ++ [.passes]) tags := by
  induction h with
  | none h => exact .none (h.append (.passes .nil))
  | more tag hbefore _ ih =>
      rw [List.append_assoc, List.cons_append]
      exact .more tag hbefore ih

/-- A tag that opens is the innermost. -/
theorem opens (h : Unclosed marks tags) (tag : Tag) :
    Unclosed (marks ++ [.opens tag]) (tags ++ [tag]) := by
  induction h with
  | none h => exact .more tag h (.none .nil)
  | more other hbefore _ ih =>
      rw [List.append_assoc, List.cons_append]
      exact .more other hbefore ih

/-- The innermost tag is closed by an end tag with its name. -/
theorem closes (h : Unclosed marks (tags ++ [tag])) :
    Unclosed (marks ++ [.closes tag.name]) tags := by
  induction tags generalizing marks with
  | nil =>
      rw [List.nil_append] at h
      cases h with
      | @more before inner _ _ hbefore h =>
          cases h with
          | none hinner =>
              have hclosed : Matched (.opens tag :: (inner ++ [.closes tag.name])) :=
                .nested tag hinner .nil
              rw [List.append_assoc, List.cons_append]
              exact .none (hbefore.append hclosed)
  | cons other tags ih =>
      cases h with
      | more _ hbefore h =>
          rw [List.append_assoc, List.cons_append]
          exact .more other hbefore (ih h)

/-- The tags that are open after further marks, the innermost first. -/
def openAfter (opened : List Tag) : List Mark → List Tag
  | [] => opened
  | .opens tag :: marks => openAfter (tag :: opened) marks
  | .closes _ :: marks => openAfter opened.tail marks
  | .passes :: marks => openAfter opened marks

/-- Matched marks leave open what was. -/
theorem openAfter_append (h : Matched marks) (opened : List Tag) (more : List Mark) :
    openAfter opened (marks ++ more) = openAfter opened more := by
  induction h generalizing opened more with
  | nil => rfl
  | passes _ ih => exact ih opened more
  | nested tag _ _ ihinner ih =>
      rw [List.cons_append, List.append_assoc, List.cons_append, openAfter, ihinner, openAfter,
        List.tail_cons, ih]

/-- The open tags are those that were never closed. -/
theorem openAfter_eq (h : Unclosed marks tags) (opened : List Tag) :
    openAfter opened marks = tags.reverse ++ opened := by
  induction h generalizing opened with
  | @none marks h =>
      have happend := openAfter_append h opened []
      rwa [List.append_nil] at happend
  | more tag hbefore _ ih =>
      rw [openAfter_append hbefore, openAfter, ih, List.reverse_cons, List.append_assoc]
      rfl

/-- There is one way only to tell which tags have no end tag. -/
theorem unique (h : Unclosed marks tags) (h' : Unclosed marks tags') : tags = tags' := by
  have heq : tags.reverse ++ [] = tags'.reverse ++ [] :=
    (h.openAfter_eq []).symm.trans (h'.openAfter_eq [])
  simpa using heq

end Unclosed

/-! ## faults -/

theorem map_ne_error {ε α β : Type} {x : Except ε α} {f : α → β} {e : ε} (h : x ≠ .error e) :
    x.map f ≠ .error e := by
  cases x with
  | error e' => exact fun heq => h (by cases heq; rfl)
  | ok a => nofun

/-- Reading attributes never finds an unbalanced end. -/
theorem Attribute.readAll_ne_unbalancedEnd (seen : List Attribute) (c : Cursor) :
    readAll seen c ≠ .error .unbalancedEnd := by
  fun_induction readAll seen c with
  | case1 => nofun
  | case2 => nofun
  | case3 => nofun
  | case4 => exact map_ne_error ‹_›

namespace Reader

variable (opened : List (List Char)) (cs : List Char)

theorem bang_ne_unbalancedEnd : bang opened cs ≠ .error .unbalancedEnd := by
  unfold bang
  split
  · nofun
  · split
    · nofun
    · split
      · nofun
      · refine map_ne_error ?_
        unfold Bang.event
        split
        · split <;> nofun
        · split <;> nofun
        · split
          · split <;> nofun
          · nofun

theorem closing_ne_unbalancedEnd : closing opened cs ≠ .error .unbalancedEnd := by
  unfold closing
  dsimp only
  split
  · nofun
  · split <;> nofun

theorem instruction_ne_unbalancedEnd : instruction opened cs ≠ .error .unbalancedEnd := by
  unfold instruction
  dsimp only
  split <;> nofun

theorem element_ne_unbalancedEnd : element opened cs ≠ .error .unbalancedEnd := by
  unfold element
  split
  · nofun
  · split <;> nofun

/-- The reader itself has another fault for an end tag where nothing is open. -/
theorem next_ne_unbalancedEnd (r : Reader) : r.next ≠ .error .unbalancedEnd := by
  unfold next
  split
  · nofun
  · unfold markup
    split
    · nofun
    · exact bang_ne_unbalancedEnd _ _
    · exact closing_ne_unbalancedEnd _ _
    · exact instruction_ne_unbalancedEnd _ _
    · exact element_ne_unbalancedEnd _ _
  · nofun

end Reader

/-! ## reading documents -/

namespace Element

/-- An element has the local name of the tag that opens it. -/
theorem name_of_ofTag {inherited : Option String} {e : Element} (h : ofTag tag inherited = .ok e) :
    e.name = String.ofList tag.localName := by
  obtain ⟨attributes, -, rfl⟩ := exists_of_map_eq_ok h
  rfl

theorem ofTag_ne_unbalancedEnd (tag : Tag) (inherited : Option String) :
    ofTag tag inherited ≠ .error .unbalancedEnd :=
  map_ne_error (Attribute.readAll_ne_unbalancedEnd _ _)

namespace Building

variable {document : String} {b b' : Building} {event : Event} {reader : Reader}

/-- Reading a document comes to a place, with these marks before it. -/
inductive Seen (document : String) : List Mark → Building → Prop
  | start : Seen document [] (start document)
  | step {marks : List Mark} {b b' : Building} {event : Event} {reader : Reader} :
    Seen document marks b → b.reader.next = .ok (event, reader) →
    b.take event reader = .ok (.inr b') →
    Seen document (marks ++ [.ofEvent b.reader.rest event]) b'

/-- The open elements are those of some tags, and the reader has the names of these. -/
structure InStep (tags : List Tag) (b : Building) : Prop where
  names_eq : (names b.stack).reverse = tags.map fun tag => String.ofList tag.localName
  opened_eq : b.reader.opened.reverse = tags.map (·.name)

theorem names_onTop_addText (text : List Char) (stack : List Element) :
    names (onTop (·.addText text) stack) = names stack := by
  cases stack <;> rfl

/-- What is attached inside leaves the open elements and what is still to be read. -/
theorem of_attach_eq_inr {done : Element} {stack : List Element}
    (h : attach reader done stack = .inr b) : b.reader = reader ∧ names b.stack = names stack := by
  cases stack with
  | nil => cases h
  | cons parent stack =>
      cases h
      exact ⟨rfl, rfl⟩

namespace InStep

/-- At the start nothing is open. -/
theorem start (document : String) : InStep [] (start document) := by
  refine ⟨rfl, ?_⟩
  rw [Building.start, Reader.ofString]
  split <;> rfl

/-- What leaves the names of the open elements and tags leaves them in step. -/
theorem of_eq (h : InStep tags b) (hnames : names b'.stack = names b.stack)
    (hopened : b'.reader.opened = b.reader.opened) : InStep tags b' :=
  ⟨by rw [hnames, h.names_eq], by rw [hopened, h.opened_eq]⟩

/-- An end tag has the name of the innermost open tag, whose element is then closed. -/
theorem finish (h : InStep tags b) (hnext : b.reader.next = .ok (.finish, reader)) :
    ∃ outer tag done stack, tags = outer ++ [tag] ∧ tag.name = endTagName b.reader.rest ∧
      b.stack = done :: stack ∧ done.name = String.ofList tag.localName ∧
      InStep outer ⟨reader, stack⟩ := by
  -- The reader has compared the name with the innermost that it has, and so with the last tag.
  obtain ⟨raw, hrest, hclosing⟩ := Reader.of_next_finish hnext
  have hopened : b.reader.opened = endTagName b.reader.rest :: reader.opened := by
    rw [(Reader.closing_eq_ok hclosing).2, hrest]
    rfl
  have htags := h.opened_eq
  rw [hopened, List.reverse_cons] at htags
  obtain ⟨outer, last, rfl, houter, hlast⟩ := List.map_eq_append_iff.1 htags.symm
  obtain ⟨tag, rfl, hname⟩ := List.map_eq_singleton_iff.1 hlast
  have hnames := h.names_eq
  rw [List.map_append, List.map_singleton] at hnames
  cases hstack : b.stack with
  | nil =>
      rw [hstack] at hnames
      have hlength := congrArg List.length hnames
      simp at hlength
  | cons done stack =>
      rw [hstack, names, List.map_cons, List.reverse_cons] at hnames
      obtain ⟨hstackNames, hdone⟩ := List.append_inj' hnames rfl
      exact ⟨outer, tag, done, stack, rfl, hname, rfl, List.singleton_inj.1 hdone,
        ⟨hstackNames, houter.symm⟩⟩

/-- Every event that is taken in leaves the open elements in step with the open tags. -/
theorem take (h : InStep tags b) (hmarks : Unclosed marks tags)
    (hnext : b.reader.next = .ok (event, reader)) (htake : b.take event reader = .ok (.inr b')) :
    ∃ tags', Unclosed (marks ++ [.ofEvent b.reader.rest event]) tags' ∧ InStep tags' b' := by
  have hopens := Reader.opens_of_next hnext
  cases event with
  | start tag =>
      obtain ⟨e, he, heq⟩ := exists_of_map_eq_ok htake
      cases heq
      have hopened : reader.opened = tag.name :: b.reader.opened := hopens
      refine ⟨tags ++ [tag], hmarks.opens tag, ?_, ?_⟩
      · rw [names, List.map_cons, List.reverse_cons, h.names_eq, name_of_ofTag he,
          List.map_append, List.map_singleton]
      · rw [hopened, List.reverse_cons, h.opened_eq, List.map_append, List.map_singleton]
  | empty tag =>
      obtain ⟨e, -, heq⟩ := exists_of_map_eq_ok htake
      obtain ⟨hreader, hnames⟩ := of_attach_eq_inr heq.symm
      exact ⟨tags, hmarks.passes, h.of_eq hnames (hreader ▸ hopens)⟩
  | text raw =>
      refine ⟨tags, hmarks.passes, ?_⟩
      simp only [Building.take] at htake
      split at htake
      · contradiction
      · split at htake
        · cases htake
          exact h.of_eq rfl hopens
        · cases htake
          exact h.of_eq (names_onTop_addText _ _) hopens
  | cdata content =>
      cases htake
      exact ⟨tags, hmarks.passes, h.of_eq (names_onTop_addText _ _) hopens⟩
  | finish =>
      obtain ⟨outer, tag, done, stack, rfl, hname, hstack, -, houter⟩ := h.finish hnext
      rw [Building.take, hstack] at htake
      obtain ⟨hreader, hnames⟩ := of_attach_eq_inr (Except.ok.inj htake)
      refine ⟨outer, ?_, houter.of_eq hnames (congrArg Reader.opened hreader)⟩
      rw [Mark.ofEvent, ← hname]
      exact hmarks.closes
  | remark =>
      cases htake
      exact ⟨tags, hmarks.passes, h.of_eq rfl hopens⟩
  | endOfInput => contradiction

end InStep

/-- **The open elements are those of the start tags without an end tag**, all the way
through a document. -/
theorem Seen.inStep (h : Seen document marks b) : ∃ tags, Unclosed marks tags ∧ InStep tags b := by
  induction h with
  | start => exact ⟨[], .none .nil, .start document⟩
  | step _ hnext htake ih =>
      obtain ⟨tags, hmarks, htags⟩ := ih
      exact htags.take hmarks hnext htake

/-! ## the end of a document -/

/-- Only an end tag where nothing is open is unbalanced. -/
theorem take_ne_unbalancedEnd (h : event = .finish → b.stack ≠ []) (reader : Reader) :
    b.take event reader ≠ .error .unbalancedEnd := by
  cases event with
  | start tag => exact map_ne_error (ofTag_ne_unbalancedEnd _ _)
  | empty tag => exact map_ne_error (ofTag_ne_unbalancedEnd _ _)
  | text raw =>
      rw [take]
      split
      · simp
      · split <;> simp
  | cdata content => simp [take]
  | finish =>
      obtain ⟨done, stack, hstack⟩ := List.exists_cons_of_ne_nil (h rfl)
      simp [take, hstack]
  | remark => simp [take]
  | endOfInput => simp [take]

theorem step_of_next_error {e : Error} (h : b.reader.next = .error e) : b.step = .error e := by
  rw [step, h]

theorem run_of_error {e : Error} (h : b.step = .error e) : b.run = .error e := by
  rw [run]
  split <;> simp_all

/-- A mark is made of one character at least. -/
theorem Seen.length_le (h : Seen document marks b) :
    marks.length + b.reader.rest.length ≤ document.toList.length := by
  induction h with
  | start =>
      rw [List.length_nil, Nat.zero_add]
      exact (rest_ofString_suffix document).length_le
  | @step marks b b' _ _ _ hnext htake ih =>
      have hlt : b'.reader.rest.length < b.reader.rest.length :=
        step_length ((step_of_next hnext).trans htake)
      rw [List.length_append, List.length_singleton]
      omega

/-- Reading ends, with a step that gives the tree or a fault. -/
theorem Seen.exists_last (h : Seen document marks b) :
    ∃ marks' b', Seen document marks' b' ∧ b'.step = b.run.map .inl := by
  induction hn : b.reader.rest.length using Nat.strongRecOn generalizing marks b with
  | _ n ih =>
    subst hn
    cases hstep : b.step with
    | error e => exact ⟨marks, b, h, by rw [run_of_error hstep, hstep]; rfl⟩
    | ok result =>
        have hrun := run_of_step hstep
        cases result with
        | inl root => exact ⟨marks, b, h, by rw [hrun, hstep]; rfl⟩
        | inr b' =>
            obtain ⟨event, reader, hnext, htake⟩ := exists_next_of_step hstep
            rw [hrun]
            exact ih _ (step_length hstep) (h.step hnext htake) rfl

/-- An element is complete with its own end tag or with a tag that closes itself, and no
other tag is open. -/
inductive Completed (marks : List Mark) (b : Building) (root : Element) : Prop
  | finish {tag : Tag} {reader : Reader} : b.reader.next = .ok (.finish, reader) →
    tag.name = endTagName b.reader.rest → Unclosed marks [tag] → b.stack = [root] →
    root.name = String.ofList tag.localName → reader.opened = [] → Completed marks b root
  | empty {tag : Tag} {reader : Reader} : b.reader.next = .ok (.empty tag, reader) →
    Matched marks → b.stack = [] → ofTag tag none = .ok root → reader.opened = [] →
    Completed marks b root

/-- What holds at a place that reading a document comes to. -/
structure Disciplined (document : String) (marks : List Mark) (b : Building) : Prop where
  exists_unclosed : ∃ tags, Unclosed marks tags
  /-- From the outermost to the innermost, the open elements have the local names of the
  tags that have no end tag. -/
  names_eq : ∀ tags, Unclosed marks tags →
    (names b.stack).reverse = tags.map fun tag => String.ofList tag.localName
  /-- The reader has the names of these tags. -/
  opened_eq : ∀ tags, Unclosed marks tags → b.reader.opened.reverse = tags.map (·.name)
  /-- An end tag closes the innermost open element, which has its name and is then the last
  child of the one around it; or it is the root. -/
  attaches : ∀ reader, b.reader.next = .ok (.finish, reader) → ∃ outer tag done stack,
    Unclosed marks (outer ++ [tag]) ∧ tag.name = endTagName b.reader.rest ∧
      b.stack = done :: stack ∧ done.name = String.ofList tag.localName ∧
      match stack with
      | [] => b.step = .ok (.inl done)
      | parent :: around =>
        b.step = .ok (.inr
          ⟨reader, { parent with children := parent.children ++ [done] } :: around⟩)
  balanced : b.step ≠ .error .unbalancedEnd
  completed : ∀ root, b.step = .ok (.inl root) → Completed marks b root
  length_le : marks.length + b.reader.rest.length ≤ document.toList.length

/-- A root that is given was the last that was open. -/
theorem Seen.completed {root : Element} (h : Seen document marks b)
    (hstep : b.step = .ok (.inl root)) : Completed marks b root := by
  obtain ⟨tags, hmarks, htags⟩ := h.inStep
  obtain ⟨event, reader, hnext, htake⟩ := exists_next_of_step hstep
  rcases take_eq_inl_iff.1 htake with ⟨rfl, hstack⟩ | ⟨tag, rfl, hstack, hroot⟩
  · obtain ⟨outer, tag, done, stack, rfl, hname, hstack', hdone, houter⟩ := htags.finish hnext
    rw [hstack] at hstack'
    cases hstack'
    -- The root is alone on the stack, so the tag has none around it.
    obtain rfl : outer = [] := List.map_eq_nil_iff.1 houter.names_eq.symm
    exact .finish hnext hname hmarks hstack hdone (List.reverse_eq_nil_iff.1 houter.opened_eq)
  · have hnames := htags.names_eq
    rw [hstack] at hnames
    obtain rfl : tags = [] := List.map_eq_nil_iff.1 hnames.symm
    have hopened : reader.opened = b.reader.opened := Reader.opens_of_next hnext
    cases hmarks with
    | none hmatched =>
        exact .empty hnext hmatched hstack hroot
          (hopened.trans (List.reverse_eq_nil_iff.1 htags.opened_eq))

/-- An end that closes nothing is never seen. -/
theorem Seen.ne_unbalancedEnd (h : Seen document marks b) : b.step ≠ .error .unbalancedEnd := by
  obtain ⟨tags, -, htags⟩ := h.inStep
  cases hnext : b.reader.next with
  | error e =>
      have hne := Reader.next_ne_unbalancedEnd b.reader
      rw [hnext] at hne
      rw [step_of_next_error hnext]
      exact fun heq => hne (by cases heq; rfl)
  | ok found =>
      rw [step_of_next hnext]
      refine take_ne_unbalancedEnd ?_ _
      intro hevent
      obtain ⟨event, reader⟩ := found
      obtain rfl : event = .finish := hevent
      obtain ⟨_, _, done, stack, -, -, hstack, -⟩ := htags.finish hnext
      rw [hstack]
      exact List.cons_ne_nil done stack

/-- What has been seen is disciplined. -/
theorem Seen.disciplined (h : Seen document marks b) : Disciplined document marks b := by
  obtain ⟨tags, hmarks, htags⟩ := h.inStep
  refine ⟨⟨tags, hmarks⟩, ?_, ?_, ?_, h.ne_unbalancedEnd, fun _ => h.completed, h.length_le⟩
  · intro tags' hmarks'
    rw [hmarks'.unique hmarks]
    exact htags.names_eq
  · intro tags' hmarks'
    rw [hmarks'.unique hmarks]
    exact htags.opened_eq
  · intro reader hnext
    obtain ⟨outer, tag, done, stack, rfl, hname, hstack, hdone, -⟩ := htags.finish hnext
    refine ⟨outer, tag, done, stack, hmarks, hname, hstack, hdone, ?_⟩
    rw [step_of_next hnext, take, hstack]
    cases stack <;> rfl

/-- **Open elements and open tags go together**, at every place of every document, be it
well-formed or not; and reading a document ends after fewer marks than it has characters, or
as many, with the step that gives the tree or the fault. -/
theorem parse_disciplined (document : String) :
    (∀ marks b, Seen document marks b → Disciplined document marks b) ∧
      parse document ≠ .error .unbalancedEnd ∧
      ∃ marks b, Seen document marks b ∧ b.step = (parse document).map .inl := by
  have hstart : Seen document [] (start document) := .start
  obtain ⟨marks, b, hb, hstep⟩ := hstart.exists_last
  refine ⟨fun _ _ h => h.disciplined, fun herror => ?_, marks, b, hb, hstep⟩
  apply hb.ne_unbalancedEnd
  rw [hstep]
  exact congrArg (Except.map Sum.inl) herror

/-- Inside of two elements, one of which has a name with a colon. -/
theorem parse_disciplined_inside :
    let document := "<a><x:b></x:b></a>"
    let outer : Tag := { name := ['a'], body := [] }
    let inner : Tag := { name := ['x', ':', 'b'], body := [] }
    let place : Building := ⟨⟨"</x:b></a>".toList, [inner.name, outer.name]⟩,
      [{ name := "b", xmlns := none }, { name := "a", xmlns := none }]⟩
    Seen document [.opens outer, .opens inner] place ∧
      Unclosed [.opens outer, .opens inner] [outer, inner] ∧
      (names place.stack).reverse = ["a", "b"] ∧
      Disciplined document [.opens outer, .opens inner] place := by
  intro document outer inner place
  have houter : outer.attributes = .ok [] := by decide +kernel
  have hinner : inner.attributes = .ok [] := by decide +kernel
  have hfirst : Seen document [.opens outer] ⟨⟨"<x:b></x:b></a>".toList, [outer.name]⟩,
      [{ name := "a", xmlns := none }]⟩ := by
    have hnext : (start document).reader.next =
        .ok (.start outer, ⟨"<x:b></x:b></a>".toList, [outer.name]⟩) := by decide +kernel
    refine Seen.start.step hnext ?_
    rw [take, ofTag, houter]
    rfl
  have hseen : Seen document [.opens outer, .opens inner] place := by
    have hnext : Reader.next ⟨"<x:b></x:b></a>".toList, [outer.name]⟩ =
        .ok (.start inner, place.reader) := by decide +kernel
    refine hfirst.step hnext ?_
    rw [take, ofTag, hinner]
    rfl
  have hunclosed : Unclosed [.opens outer, .opens inner] [outer, inner] :=
    .more outer .nil (.more inner .nil (.none .nil))
  have hplace : Disciplined document [.opens outer, .opens inner] place :=
    (parse_disciplined document).1 _ _ hseen
  exact ⟨hseen, hunclosed, hplace.names_eq _ hunclosed, hplace⟩

end Building

end Element

end SlotUpload.Xml
