import SlotUpload.Xml.Reader

/-!
# SlotUpload.Proofs.Xml.Tag

Tags as they are written, and that they are read back.  A written tag is a name
followed by fields: attributes with distinct names, each with a space before it
and its value escaped between single quotes.

* `Attribute.readAll_writeList` — the attributes of a written tag are its fields;
* `Inside.tagContent?` — a written tag ends at its own `>`, whatever its
  values hold: a value is escaped, so it can neither close its quotes nor hold a
  `>`.
-/

namespace SlotUpload.Xml

/-! ## names -/

/-- The characters of the names that tags are written with. -/
def isPlain (c : Char) : Bool := c.isAlpha || c == '-'

/-- A name of a written element or attribute: letters and hyphens. -/
structure Name where
  text : String
  ne_nil : text.toList ≠ [] := by decide
  plain : text.toList.all isPlain := by decide
  deriving DecidableEq

namespace Name

def chars (n : Name) : List Char := n.text.toList

@[simp] theorem ofList_chars (n : Name) : String.ofList n.chars = n.text := String.ofList_toList

@[simp] theorem chars_inj {m n : Name} : m.chars = n.chars ↔ m = n := by
  constructor
  · intro h
    cases m
    cases n
    simpa [chars, String.toList_inj] using h
  · rintro rfl
    rfl

/-- A name does not hold any character that means something in a tag. -/
theorem ne_of_mem {n : Name} {c d : Char} (hc : c ∈ n.chars) (hd : isPlain d = false) : c ≠ d := by
  rintro rfl
  have := List.all_eq_true.1 n.plain c hc
  rw [hd] at this
  contradiction

theorem isSpace_eq_false_of_mem {n : Name} {c : Char} (hc : c ∈ n.chars) : isSpace c = false := by
  have h1 : c ≠ ' ' := ne_of_mem hc (by decide)
  have h2 : c ≠ '\t' := ne_of_mem hc (by decide)
  have h3 : c ≠ '\r' := ne_of_mem hc (by decide)
  have h4 : c ≠ '\n' := ne_of_mem hc (by decide)
  simp [isSpace, h1, h2, h3, h4]

/-- A name and its first character. -/
theorem exists_cons (n : Name) : ∃ c cs, n.chars = c :: cs :=
  List.exists_cons_of_ne_nil n.ne_nil

end Name

/-! ## escaped texts -/

/-- Escaping leaves no markup but ampersands. -/
theorem ne_of_mem_escape {s : List Char} {c : Char} (hc : c ∈ escape s) :
    c ≠ '<' ∧ c ≠ '>' ∧ c ≠ '\'' ∧ c ≠ '"' := by
  obtain ⟨x, -, hx⟩ := List.mem_flatMap.1 hc
  unfold escapeChar at hx
  split at hx
  case h_6 h1 h2 _ h4 h5 =>
      rw [List.mem_singleton] at hx
      subst hx
      exact ⟨h1, h2, h4, h5⟩
  all_goals
    simp only [List.mem_cons, List.not_mem_nil, or_false] at hx
    rcases hx with rfl | rfl | rfl | rfl | rfl | rfl <;> decide

/-- Escaping leaves nothing out. -/
theorem escape_ne_nil {s : List Char} (h : s ≠ []) : escape s ≠ [] := by
  intro he
  have hread : unescape (escape s) = .ok s := unescape_escape s
  have hnil : unescape [] = .ok [] := by simp [unescape, unescapeFrom]
  rw [he, hnil] at hread
  cases hread
  exact h rfl

/-! ## fields -/

/-- Attributes of a written tag, of which no two have the same name. -/
structure Fields where
  list : List (Name × String) := []
  nodup : (list.map (·.1)).Nodup := by simp

namespace Fields

/-- An attribute with a space before it. -/
def writeOne (field : Name × String) : List Char :=
  ' ' :: (field.1.chars ++ '=' :: '\'' :: (escape field.2.toList ++ ['\'']))

/-- Attributes, each with a space before it. -/
def writeList (list : List (Name × String)) : List Char := list.flatMap writeOne

def write (fields : Fields) : List Char := writeList fields.list

/-- What a reader finds: names and values. -/
def toAttributes (list : List (Name × String)) : List (String × String) :=
  list.map fun (name, value) => (name.text, value)

end Fields

/-! ## cursors -/

namespace Cursor

variable {p : Char → Bool} {s rest : List Char} {x : Char}

theorem span_append_cons (offset : Nat) (hs : ∀ c ∈ s, p c) (hx : p x = false) :
    (Cursor.mk offset (s ++ x :: rest)).span p =
      (s, ⟨offset + Text.byteSize s, x :: rest⟩) := by
  simp only [span, List.takeWhile_append_of_pos hs, List.dropWhile_append_of_pos hs,
    List.takeWhile_cons_of_neg (Bool.not_eq_true _ ▸ hx), List.append_nil,
    List.dropWhile_cons_of_neg (Bool.not_eq_true _ ▸ hx)]

theorem skip_cons (offset : Nat) (hx : p x = false) :
    (Cursor.mk offset (x :: rest)).skip p = ⟨offset, x :: rest⟩ :=
  congrArg Prod.snd (span_append_cons (s := []) offset (by simp) hx)

theorem skip_space (offset : Nat) (hx : isSpace x = false) :
    (Cursor.mk offset (' ' :: x :: rest)).skip isSpace = ⟨offset + 1, x :: rest⟩ :=
  congrArg Prod.snd (span_append_cons (s := [' ']) offset (by simp [isSpace]) hx)

end Cursor

/-! ## reading fields -/

namespace Attribute

variable {seen : List Attribute} {field : Name × String} {list : List (Name × String)}

/-- A quoted value is read back. -/
theorem readValue_quoted (offset : Nat) (value : String) (rest : List Char) :
    ∃ offset', readValue ⟨offset, '\'' :: (escape value.toList ++ '\'' :: rest)⟩ =
      .ok (escape value.toList, ⟨offset', rest⟩) := by
  have hq : ∀ c ∈ escape value.toList, (c != '\'') = true := fun c hc =>
    bne_iff_ne.2 (ne_of_mem_escape hc).2.2.1
  refine ⟨offset + 1 + Text.byteSize (escape value.toList) + 1, ?_⟩
  unfold readValue
  rw [Cursor.skip_cons offset (by decide)]
  dsimp only
  rw [if_pos (.inr rfl), Cursor.span_append_cons _ hq (by decide)]

/-- A written field is read as its name and its escaped value. -/
theorem read?_writeOne (offset : Nat) (rest : List Char)
    (hseen : ∀ a ∈ seen, a.name ≠ field.1.chars) :
    ∃ a offset', a.name = field.1.chars ∧ a.value = escape field.2.toList ∧
      read? seen ⟨offset, Fields.writeOne field ++ rest⟩ = .ok (some (a, ⟨offset', rest⟩)) := by
  obtain ⟨c, cs, hname⟩ := field.1.exists_cons
  have hspace : isSpace c = false := Name.isSpace_eq_false_of_mem (hname ▸ List.mem_cons_self)
  have hcs : ∀ d ∈ cs, nameChar d := fun d hd => by
    have hd : d ∈ field.1.chars := hname ▸ List.mem_cons_of_mem c hd
    simp [nameChar, Name.isSpace_eq_false_of_mem hd,
      Name.ne_of_mem hd (d := '=') (by decide)]
  have hnew : seen.find? (·.name == c :: cs) = none := by
    rw [List.find?_eq_none]
    intro a ha
    simpa [← hname] using hseen a ha
  obtain ⟨offset', hvalue⟩ := readValue_quoted
    (offset + 1 + c.utf8Size + Text.byteSize cs + 1) field.2 rest
  refine ⟨⟨c :: cs, escape field.2.toList, offset + 1⟩, offset', hname.symm, rfl, ?_⟩
  unfold read?
  simp only [Fields.writeOne, hname, List.cons_append, List.append_assoc, List.nil_append]
  rw [Cursor.skip_space offset hspace]
  dsimp only
  rw [Cursor.span_append_cons _ hcs (by decide), Cursor.skip_cons _ (by decide)]
  dsimp only
  rw [if_neg (by decide), hnew]
  dsimp only
  rw [hvalue]

/-- The attributes of a written tag are its fields, in order. -/
theorem readAll_writeList (offset : Nat) (hnodup : (list.map (·.1)).Nodup)
    (hseen : ∀ a ∈ seen, ∀ field ∈ list, a.name ≠ field.1.chars) :
    readAll seen ⟨offset, Fields.writeList list⟩ = .ok (Fields.toAttributes list) := by
  induction list generalizing seen offset with
  | nil =>
      unfold readAll
      rfl
  | cons field list ih =>
      rw [List.map_cons, List.nodup_cons] at hnodup
      obtain ⟨a, offset', hname, hvalue, hread⟩ := read?_writeOne offset (Fields.writeList list)
        fun a ha => hseen a ha field List.mem_cons_self
      have hrest : readAll (a :: seen) ⟨offset', Fields.writeList list⟩ =
          .ok (Fields.toAttributes list) := by
        refine ih offset' hnodup.2 fun b hb other hother => ?_
        rcases List.mem_cons.1 hb with rfl | hb
        · rw [hname, ne_eq, Name.chars_inj]
          rintro heq
          exact hnodup.1 (heq ▸ List.mem_map_of_mem hother)
        · exact hseen b hb other (List.mem_cons_of_mem field hother)
      have hwrite : Fields.writeList (field :: list) =
          Fields.writeOne field ++ Fields.writeList list := rfl
      rw [hwrite, readAll]
      split
      · next e h => rw [hread] at h; cases h
      · next h => rw [hread] at h; cases h
      · next b d h =>
          rw [hread] at h
          cases h
          rw [hvalue, unescape_escape]
          dsimp only
          rw [hrest, hname]
          simp [Except.map, Fields.toAttributes]

end Attribute

/-! ## written tags -/

namespace Tag

/-- The content of a written tag. -/
def write (name : Name) (fields : Fields) : List Char := name.chars ++ fields.write

/-- A tag with one field. -/
theorem write_single (name field : Name) (value : String) {nodup} :
    write name { list := [(field, value)], nodup } =
      name.chars ++ ' ' :: (field.chars ++ '=' :: '\'' :: (escape value.toList ++ ['\''])) := by
  simp only [write, Fields.write, Fields.writeList, List.flatMap_singleton, Fields.writeOne]

theorem write_eq_nil_or_space (list : List (Name × String)) :
    Fields.writeList list = [] ∨ ∃ s, Fields.writeList list = ' ' :: s := by
  cases list with
  | nil => exact .inl rfl
  | cons field list => exact .inr ⟨_, rfl⟩

/-- A written tag is taken apart again. -/
theorem ofContent_write (name : Name) (fields : Fields) :
    ofContent (write name fields) = { name := name.chars, body := fields.write } := by
  have hname : ∀ c ∈ name.chars, (!isSpace c) = true := fun c hc => by
    rw [Name.isSpace_eq_false_of_mem hc]
    rfl
  unfold ofContent write
  rw [List.takeWhile_append_of_pos hname, List.dropWhile_append_of_pos hname]
  unfold Fields.write
  rcases write_eq_nil_or_space fields.list with h | ⟨s, h⟩ <;> simp [h, isSpace]

/-- A name without a colon is a local name. -/
theorem cut?_eq_none {sep : Char} {s : List Char} (h : ∀ c ∈ s, c ≠ sep) :
    Text.cut? sep s = none := by
  induction s with
  | nil => rfl
  | cons c s ih =>
      rw [List.forall_mem_cons] at h
      rw [Text.cut?, if_neg h.1, ih h.2]
      rfl

/-- A name without a prefix is its own local name. -/
theorem localName_eq (name : Name) (body : List Char) :
    localName { name := name.chars, body } = name.chars := by
  unfold localName
  rw [cut?_eq_none fun c hc => Name.ne_of_mem hc (by decide)]

/-- The attributes of a written tag are read back. -/
theorem attributes_eq (name : Name) (fields : Fields) :
    attributes { name := name.chars, body := fields.write } =
      .ok (Fields.toAttributes fields.list) :=
  Attribute.readAll_writeList _ fields.nodup (by simp)

end Tag

/-! ## where a written tag ends -/

/-- A text that may stand inside a tag: it does not end the tag, and leaves no
quote open. -/
def Inside (s : List Char) : Prop :=
  ∀ cs, Reader.tagContent? none (s ++ cs) =
    (Reader.tagContent? none cs).map fun (a, b) => (s ++ a, b)

namespace Inside

variable {s t : List Char}

theorem nil : Inside [] := fun cs => by simp

theorem append (hs : Inside s) (ht : Inside t) : Inside (s ++ t) := fun cs => by
  rw [List.append_assoc, hs, ht, Option.map_map]
  refine congrFun (congrArg Option.map (funext fun p => ?_)) _
  simp

theorem cons {c : Char} (hc : c ≠ '>' ∧ c ≠ '"' ∧ c ≠ '\'') (hs : Inside s) :
    Inside (c :: s) := fun cs => by
  rw [List.cons_append, Reader.tagContent?]
  dsimp only
  rw [if_neg hc.1, if_neg (by simp [hc.2]), hs, Option.map_map]
  rfl

theorem of_forall (h : ∀ c ∈ s, c ≠ '>' ∧ c ≠ '"' ∧ c ≠ '\'') : Inside s := by
  induction s with
  | nil => exact nil
  | cons c s ih =>
      rw [List.forall_mem_cons] at h
      exact cons h.1 (ih h.2)

/-- Between quotes, a text goes on to the closing quote. -/
theorem tagContent?_quoted {q : Char} (h : ∀ c ∈ s, c ≠ q) (cs : List Char) :
    Reader.tagContent? (some q) (s ++ q :: cs) =
      (Reader.tagContent? none cs).map fun (a, b) => (s ++ q :: a, b) := by
  induction s with
  | nil =>
      rw [List.nil_append, Reader.tagContent?]
      dsimp only
      rw [if_pos rfl]
      rfl
  | cons c s ih =>
      rw [List.forall_mem_cons] at h
      rw [List.cons_append, Reader.tagContent?]
      dsimp only
      rw [if_neg h.1, ih h.2, Option.map_map]
      rfl

/-- A quoted text stays inside, whatever else it is made of. -/
theorem quoted {q : Char} (hq : q = '"' ∨ q = '\'') (h : ∀ c ∈ s, c ≠ q) :
    Inside (q :: (s ++ [q])) := fun cs => by
  have hend : q ≠ '>' := by rcases hq with rfl | rfl <;> decide
  rw [List.cons_append, List.append_assoc, List.singleton_append, Reader.tagContent?]
  dsimp only
  rw [if_neg hend, if_pos hq, tagContent?_quoted h, Option.map_map]
  refine congrFun (congrArg Option.map (funext fun p => ?_)) _
  simp

theorem name (n : Name) : Inside n.chars :=
  of_forall fun _ hc => ⟨Name.ne_of_mem hc (by decide), Name.ne_of_mem hc (by decide),
    Name.ne_of_mem hc (by decide)⟩

theorem writeOne (field : Name × String) : Inside (Fields.writeOne field) :=
  cons (by decide) <| (name field.1).append <| cons (by decide) <|
    quoted (.inr rfl) fun _ hc => (ne_of_mem_escape hc).2.2.1

theorem writeList (list : List (Name × String)) : Inside (Fields.writeList list) := by
  induction list with
  | nil => exact nil
  | cons field list ih => exact (writeOne field).append ih

/-- A written tag ends where it should. -/
theorem write (name : Name) (fields : Fields) : Inside (Tag.write name fields) :=
  (Inside.name name).append (writeList fields.list)

/-- A tag ends at the first `>` after what stands inside it. -/
theorem tagContent? (h : Inside s) (rest : List Char) :
    Reader.tagContent? none (s ++ '>' :: rest) = some (s, rest) := by
  rw [h, Reader.tagContent?]
  simp

end Inside

end SlotUpload.Xml
