import SlotUpload.Proofs.Xml.Tag
import SlotUpload.Xml.Element

/-!
# SlotUpload.Proofs.Xml.Markup

Element trees as they are written, and what they are read back as.  A tree of
`Markup` is what a payload is before it becomes text: every element has a name
and fields, and either closes itself or holds a text and then further elements.

Reading a written tree gives the element that the tree stands for, whatever
follows the tree (`parse_write`).  The proof runs the reader over the text: with
a stack of open elements, a written tree is read to its end and attached to the
innermost of them (`run_write`).  Names, fields and the order of children come
back as they were.  One thing does not: a text made of blanks alone counts as
indentation and comes back empty (`kept`).
-/

namespace SlotUpload.Xml

/-! ## texts that are dropped -/

/-- What a text in an element is read back as: one of blanks alone is dropped. -/
def kept (text : String) : String := if Text.allBlank text.toList then "" else text

/-- Does a text consist of blanks, of at least one? -/
def Vanishes (text : String) : Prop := text ≠ "" ∧ ∀ c ∈ text.toList, Text.isBlank c

instance : DecidablePred Vanishes := fun text =>
  decidable_of_iff (text ≠ "" ∧ Text.allBlank text.toList) (by simp [Vanishes, Text.allBlank])

/-- The texts that are read back as they were are those that do not vanish. -/
theorem kept_eq_self_iff {text : String} : kept text = text ↔ ¬ Vanishes text := by
  unfold kept Vanishes
  split
  · next h =>
      have hblank : ∀ c ∈ text.toList, Text.isBlank c := List.all_eq_true.1 h
      constructor
      · intro he hv
        exact hv.1 he.symm
      · intro hv
        by_cases ht : text = ""
        · exact ht.symm
        · exact absurd ⟨ht, hblank⟩ hv
  · next h =>
      have hblank : ¬ ∀ c ∈ text.toList, Text.isBlank c := fun hb => h (List.all_eq_true.2 hb)
      exact ⟨fun _ hv => hblank hv.2, fun _ => rfl⟩

/-! ## trees -/

/-- An element to be written: one that closes itself, or one that holds a text
and, after it, further elements. -/
inductive Markup
  | closed (name : Name) (fields : Fields)
  | opened (name : Name) (fields : Fields) (text : String) (children : List Markup)

namespace Markup

mutual

/-- The text of an element. -/
def write : Markup → List Char
  | closed name fields => '<' :: (Tag.write name fields ++ ['/', '>'])
  | opened name fields text children =>
    '<' :: (Tag.write name fields ++ '>' :: (escape text.toList ++ (writeAll children ++
      '<' :: '/' :: (name.chars ++ ['>']))))

/-- The texts of elements, one after the other. -/
def writeAll : List Markup → List Char
  | [] => []
  | m :: ms => write m ++ writeAll ms

end

/-- Elements, with the end tag after them, start with markup. -/
theorem writeAll_append_eq_cons (ms : List Markup) (rest : List Char) :
    ∃ s, writeAll ms ++ '<' :: rest = '<' :: s := by
  cases ms with
  | nil => exact ⟨rest, rfl⟩
  | cons m ms => cases m <;> exact ⟨_, rfl⟩

/-- The element that a tag opens, below a parent in the namespace `inherited`. -/
def opening (name : Name) (fields : Fields) (inherited : Option String) : Element :=
  let attributes := Fields.toAttributes fields.list
  { name := name.text
    xmlns := (attributes.lookup "xmlns").or inherited
    attributes := attributes.filter (·.1 != "xmlns") }

mutual

/-- The element that a tree is read back as, below a parent in the namespace
`inherited`. -/
def element (inherited : Option String) : Markup → Element
  | closed name fields => opening name fields inherited
  | opened name fields text children =>
    { opening name fields inherited with
      children := elements (opening name fields inherited).xmlns children
      text := kept text }

/-- The elements that trees are read back as, in order. -/
def elements (inherited : Option String) : List Markup → List Element
  | [] => []
  | m :: ms => element inherited m :: elements inherited ms

end

end Markup

/-! ## reading tags -/

namespace Reader

variable {opened : List (List Char)} {rest : List Char}

theorem next_markup (cs : List Char) : next ⟨'<' :: cs, opened⟩ = markup opened cs := rfl

/-- What does not begin with markup is text up to the next markup. -/
theorem next_of_ne {c : Char} (hc : c ≠ '<') (cs : List Char) :
    next ⟨c :: cs, opened⟩ = .ok (.text ((c :: cs).takeWhile (· != '<')),
      ⟨(c :: cs).dropWhile (· != '<'), opened⟩) := by
  unfold next
  split
  · next h => cases h
  · next cs' h => cases h; exact absurd rfl hc
  · next cs' _ h => rfl

/-- A name is not taken for the start of markup other than an element. -/
theorem markup_name (name : Name) (s : List Char) :
    markup opened (name.chars ++ s) = element opened (name.chars ++ s) := by
  obtain ⟨c, cs, hname⟩ := name.exists_cons
  have hc : c ∈ name.chars := hname ▸ List.mem_cons_self
  have h1 : c ≠ '!' := Name.ne_of_mem hc (by decide)
  have h2 : c ≠ '/' := Name.ne_of_mem hc (by decide)
  have h3 : c ≠ '?' := Name.ne_of_mem hc (by decide)
  rw [hname]
  unfold markup
  split <;> simp_all

/-- The last character of a tag is one of its name, or a quote. -/
theorem getLast?_write_ne (name : Name) (fields : Fields) :
    (Tag.write name fields).getLast? ≠ some '/' := by
  intro h
  rcases List.eq_nil_or_concat fields.list with hnil | ⟨list, field, hlist⟩
  · rw [Tag.write, Fields.write, hnil] at h
    have hmem : '/' ∈ name.chars ++ Fields.writeList [] := List.mem_of_getLast? h
    simp only [Fields.writeList, List.flatMap_nil, List.append_nil] at hmem
    exact Name.ne_of_mem hmem (by decide) rfl
  · have hquote : (Tag.write name fields).getLast? = some '\'' := by
      simp [Tag.write, Fields.write, Fields.writeList, hlist, Fields.writeOne,
        List.getLast?_append, List.getLast?_cons]
    rw [hquote] at h
    contradiction

/-- A written start tag is the next event. -/
theorem next_opened (name : Name) (fields : Fields) :
    next ⟨'<' :: (Tag.write name fields ++ '>' :: rest), opened⟩ =
      .ok (.start { name := name.chars, body := fields.write },
        ⟨rest, name.chars :: opened⟩) := by
  rw [next_markup, Tag.write, List.append_assoc, markup_name, ← List.append_assoc, ← Tag.write]
  unfold element
  rw [(Inside.write name fields).tagContent? rest]
  dsimp only
  rw [if_neg (getLast?_write_ne name fields), Tag.ofContent_write]

/-- A written tag of an empty element is the next event. -/
theorem next_closed (name : Name) (fields : Fields) :
    next ⟨'<' :: (Tag.write name fields ++ '/' :: '>' :: rest), opened⟩ =
      .ok (.empty { name := name.chars, body := fields.write }, ⟨rest, opened⟩) := by
  have hslash : Inside (Tag.write name fields ++ ['/']) :=
    (Inside.write name fields).append (.cons (by decide) .nil)
  have hrest : Tag.write name fields ++ '/' :: '>' :: rest =
      Tag.write name fields ++ ['/'] ++ '>' :: rest := by simp
  rw [next_markup, Tag.write, List.append_assoc, markup_name, ← List.append_assoc, ← Tag.write]
  unfold element
  rw [hrest, hslash.tagContent? rest]
  dsimp only
  rw [if_pos List.getLast?_concat, List.dropLast_concat, Tag.ofContent_write]

theorem endName_chars (name : Name) : endName name.chars = name.chars := by
  have hspace : ∀ c ∈ name.chars.reverse, isSpace c = false := fun c hc =>
    Name.isSpace_eq_false_of_mem (List.mem_reverse.1 hc)
  have hreverse : name.chars.reverse.dropWhile isSpace = name.chars.reverse := by
    cases hr : name.chars.reverse with
    | nil => rfl
    | cons c cs =>
        rw [hr] at hspace
        rw [List.dropWhile_cons_of_neg]
        simp [hspace c List.mem_cons_self]
  obtain ⟨c, cs, hname⟩ := name.exists_cons
  unfold endName
  rw [hreverse, List.reverse_reverse, hname]

/-- A written end tag is the next event, if its element is the innermost. -/
theorem next_finish (name : Name) :
    next ⟨'<' :: '/' :: (name.chars ++ '>' :: rest), name.chars :: opened⟩ =
      .ok (.finish, ⟨rest, opened⟩) := by
  have hname : ∀ c ∈ name.chars, (c != '>') = true := fun c hc =>
    bne_iff_ne.2 (Name.ne_of_mem hc (by decide))
  have hmarkup : markup (name.chars :: opened) ('/' :: (name.chars ++ '>' :: rest)) =
      closing (name.chars :: opened) (name.chars ++ '>' :: rest) := rfl
  rw [next_markup, hmarkup]
  unfold closing
  rw [List.takeWhile_append_of_pos hname, List.dropWhile_append_of_pos hname]
  simp [endName_chars]

/-- An escaped text is one event, up to the markup after it. -/
theorem next_text {text : String} (h : text ≠ "") :
    next ⟨escape text.toList ++ '<' :: rest, opened⟩ =
      .ok (.text (escape text.toList), ⟨'<' :: rest, opened⟩) := by
  have hmem : ∀ c ∈ escape text.toList, c ≠ '<' := fun c hc => (ne_of_mem_escape hc).1
  have hstop : ∀ c ∈ escape text.toList, (c != '<') = true := fun c hc =>
    bne_iff_ne.2 (hmem c hc)
  obtain ⟨c, cs, hescape⟩ : ∃ c cs, escape text.toList = c :: cs :=
    List.exists_cons_of_ne_nil (escape_ne_nil (mt String.toList_eq_nil_iff.1 h))
  have hc : c ≠ '<' := hmem c (hescape ▸ List.mem_cons_self)
  rw [hescape] at hstop ⊢
  rw [List.cons_append, next_of_ne hc, ← List.cons_append, List.takeWhile_append_of_pos hstop,
    List.dropWhile_append_of_pos hstop]
  simp

end Reader

/-! ## reading trees -/

namespace Element

@[simp] theorem addText_nil (e : Element) : e.addText [] = e := by
  cases e
  simp [addText]

/-- Adds last children to an element. -/
def addChildren (e : Element) (children : List Element) : Element :=
  { e with children := e.children ++ children }

@[simp] theorem addChildren_nil (e : Element) : e.addChildren [] = e := by
  cases e
  simp [addChildren]

theorem addChildren_cons (e child : Element) (children : List Element) :
    e.addChildren (child :: children) = (e.addChild child).addChildren children := by
  simp [addChildren, addChild]

/-- A written tag begins its element. -/
theorem ofTag_opening (name : Name) (fields : Fields) (inherited : Option String) :
    ofTag { name := name.chars, body := fields.write } inherited =
      .ok (Markup.opening name fields inherited) := by
  unfold ofTag
  rw [Tag.attributes_eq, Tag.localName_eq, Name.ofList_chars]
  rfl

namespace Building

variable {opened : List (List Char)} {rest : List Char} {stack : List Element}

/-- What is left to be done after a step. -/
def proceed : Element ⊕ Building → Except Error Element
  | .inl root => .ok root
  | .inr b => b.run

theorem run_of_step {b : Building} {r : Element ⊕ Building} (h : b.step = .ok r) :
    b.run = proceed r := by
  rw [run]
  split
  · next h' => rw [h] at h'; cases h'
  · next h' => rw [h] at h'; cases h'; rfl
  · next h' => rw [h] at h'; cases h'; rfl

theorem step_of_next {b : Building} {event : Event} {reader : Reader}
    (h : b.reader.next = .ok (event, reader)) : b.step = b.take event reader := by
  rw [step, h]

/-- A step without a fault has read an event and taken it in. -/
theorem exists_next_of_step {b : Building} {result : Element ⊕ Building} (h : b.step = .ok result) :
    ∃ event reader, b.reader.next = .ok (event, reader) ∧ b.take event reader = .ok result := by
  cases hnext : b.reader.next with
  | error e => simp [step, hnext] at h
  | ok found => exact ⟨found.1, found.2, rfl, (step_of_next hnext).symm.trans h⟩

/-- A written start tag opens its element. -/
theorem run_opened (name : Name) (fields : Fields) :
    run ⟨⟨'<' :: (Tag.write name fields ++ '>' :: rest), opened⟩, stack⟩ =
      run ⟨⟨rest, name.chars :: opened⟩,
        Markup.opening name fields (stack.head?.bind (·.xmlns)) :: stack⟩ := by
  rw [run_of_step (r := .inr _)]
  · rfl
  · rw [step_of_next (Reader.next_opened name fields), take, ofTag_opening]
    rfl

/-- A written tag of an empty element attaches it. -/
theorem run_closed (name : Name) (fields : Fields) :
    run ⟨⟨'<' :: (Tag.write name fields ++ '/' :: '>' :: rest), opened⟩, stack⟩ =
      proceed (attach ⟨rest, opened⟩
        (Markup.opening name fields (stack.head?.bind (·.xmlns))) stack) := by
  rw [run_of_step]
  rw [step_of_next (Reader.next_closed name fields), take, ofTag_opening]
  rfl

/-- A written end tag attaches the innermost element. -/
theorem run_finish (name : Name) (top : Element) :
    run ⟨⟨'<' :: '/' :: (name.chars ++ '>' :: rest), name.chars :: opened⟩, top :: stack⟩ =
      proceed (attach ⟨rest, opened⟩ top stack) := by
  rw [run_of_step]
  rw [step_of_next (Reader.next_finish name), take]

/-- A written text is added to the innermost element. -/
theorem run_text (text : String) (top : Element) :
    run ⟨⟨escape text.toList ++ '<' :: rest, opened⟩, top :: stack⟩ =
      run ⟨⟨'<' :: rest, opened⟩, top.addText (kept text).toList :: stack⟩ := by
  by_cases h : text = ""
  · subst h
    simp [escape, kept]
  · rw [run_of_step (r := .inr _)]
    · rfl
    · rw [step_of_next (Reader.next_text h), take, unescape_escape]
      dsimp only
      unfold kept
      split <;> simp [onTop]

mutual

/-- A written tree is read to its end and attached to the innermost open
element, or is the root. -/
theorem run_write (m : Markup) (rest : List Char) (opened : List (List Char))
    (stack : List Element) :
    run ⟨⟨m.write ++ rest, opened⟩, stack⟩ =
      proceed (attach ⟨rest, opened⟩ (m.element (stack.head?.bind (·.xmlns))) stack) := by
  cases m with
  | closed name fields =>
      simp only [Markup.write, List.cons_append, List.append_assoc, List.nil_append]
      exact run_closed name fields
  | opened name fields text children =>
      simp only [Markup.write, List.cons_append, List.append_assoc, List.nil_append]
      -- the text ends where the children or the end tag start, with markup in either case
      obtain ⟨s, hs⟩ := Markup.writeAll_append_eq_cons children ('/' :: (name.chars ++ '>' :: rest))
      rw [run_opened, hs, run_text, ← hs, run_writeAll, run_finish]
      simp [Markup.element, Markup.opening, addText, addChildren]

/-- Written trees become the last children of the innermost open element. -/
theorem run_writeAll (ms : List Markup) (rest : List Char) (opened : List (List Char))
    (top : Element) (stack : List Element) :
    run ⟨⟨Markup.writeAll ms ++ rest, opened⟩, top :: stack⟩ =
      run ⟨⟨rest, opened⟩, top.addChildren (Markup.elements top.xmlns ms) :: stack⟩ := by
  cases ms with
  | nil => simp [Markup.writeAll, Markup.elements]
  | cons m ms =>
      rw [Markup.writeAll, List.append_assoc, run_write]
      simp only [attach, proceed]
      rw [run_writeAll, Markup.elements, addChildren_cons]
      rfl

end

end Building

/-- **A written tree is read back**, whatever follows it: a document that starts
with it has the element of the tree for its root. -/
theorem parse_write (m : Markup) (rest : List Char) :
    parse (String.ofList (m.write ++ rest)) = .ok (m.element none) := by
  have hreader : Reader.ofString (String.ofList (m.write ++ rest)) = ⟨m.write ++ rest, []⟩ := by
    obtain ⟨s, hs⟩ : ∃ s, m.write ++ rest = '<' :: s := by cases m <;> exact ⟨_, rfl⟩
    rw [hs, Reader.ofString, String.toList_ofList]
    rfl
  rw [parse, hreader, Building.run_write]
  rfl

end Element

end SlotUpload.Xml
