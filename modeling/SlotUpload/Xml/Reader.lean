import SlotUpload.Xml.Tag

/-!
# SlotUpload.Xml.Reader

A document as a sequence of events.  The reader holds what is left of the
document and the names of the start tags that have no end tag yet; it checks
that every end tag names the innermost of them.  Main statement: every event but
the last uses up text (`next_length`).
-/

namespace SlotUpload.Xml

/-- What a document consists of, piece by piece. -/
inductive Event
  | start (tag : Tag)
  /-- A tag that closes itself. -/
  | empty (tag : Tag)
  /-- Text as written, with its references. -/
  | text (raw : List Char)
  | cdata (content : List Char)
  | finish
  /-- A comment, an instruction or a document type. -/
  | remark
  | endOfInput
  deriving DecidableEq, Repr

/-- The rest of a document, and the names of the open tags, innermost first. -/
structure Reader where
  rest : List Char
  opened : List (List Char)
  deriving DecidableEq, Repr

namespace Reader

/-- The reader at the start of a document; a byte order mark is not part of it. -/
def ofString (s : String) : Reader :=
  match s.toList with
  | '\uFEFF' :: cs => ⟨cs, []⟩
  | cs => ⟨cs, []⟩

/-- The content of a tag and what follows its `>`.  A `>` between quotes does
not end the tag; `quote` is the quote that is open. -/
def tagContent? (quote : Option Char) : List Char → Option (List Char × List Char)
  | [] => none
  | c :: cs =>
    let more (quote : Option Char) := (tagContent? quote cs).map fun (a, b) => (c :: a, b)
    match quote with
    | some q => if c = q then more none else more (some q)
    | none =>
      if c = '>' then some ([], cs)
      else if c = '"' ∨ c = '\'' then more (some c)
      else more none

/-- A start tag, or a tag that closes itself when its content ends in `/`. -/
def element (opened : List (List Char)) (cs : List Char) : Except Error (Event × Reader) :=
  match tagContent? none cs with
  | none => .error (.unfinished .element)
  | some (content, rest) =>
    if content.getLast? = some '/' then
      .ok (.empty (.ofContent content.dropLast), ⟨rest, opened⟩)
    else
      .ok (.start (.ofContent content), ⟨rest, (Tag.ofContent content).name :: opened⟩)

/-- The name in an end tag: spaces after it do not belong to it. -/
def endName (raw : List Char) : List Char :=
  match (raw.reverse.dropWhile isSpace).reverse with
  | [] => raw
  | name => name

/-- An end tag, from the text after `</` on. -/
def closing (opened : List (List Char)) (cs : List Char) : Except Error (Event × Reader) :=
  let raw := cs.takeWhile (· != '>')
  let rest := (cs.dropWhile (· != '>')).drop 1
  match opened with
  | [] => .error (.mismatchedEnd "" (String.ofList raw))
  | name :: opened =>
    if endName raw = name then .ok (.finish, ⟨rest, opened⟩)
    else .error (.mismatchedEnd (String.ofList name) (String.ofList (endName raw)))

/-- An instruction or declaration, from the text after `<?` on. -/
def instruction (opened : List (List Char)) (cs : List Char) : Except Error (Event × Reader) :=
  let body := cs.takeWhile (· != '>')
  let rest := (cs.dropWhile (· != '>')).drop 1
  if 2 ≤ body.length ∧ body.getLast? = some '?' then .ok (.remark, ⟨rest, opened⟩)
  else .error (.unfinished .declaration)

/-- The kinds of markup that start with `<!`. -/
inductive Bang
  | comment | cdata | doctype
  deriving DecidableEq, Repr

namespace Bang

def construct : Bang → Construct
  | comment => .comment
  | cdata => .cdata
  | doctype => .doctype

/-- The kind that a first character after `<!` announces. -/
def ofFirst? : Char → Option Bang
  | '-' => some comment
  | '[' => some cdata
  | 'D' | 'd' => some doctype
  | _ => none

/-- May a `>` end the markup when `before`, last character first, stands
between `<!` and it? -/
def endsAfter : Bang → List Char → Bool
  | comment, '-' :: '-' :: _ :: _ :: _ => true
  | cdata, ']' :: ']' :: _ => true
  | doctype, before => before.count '<' == before.count '>'
  | _, _ => false

/-- The content up to the `>` that ends the markup, and what follows;
`before` is the content passed already, last character first. -/
def content? (kind : Bang) (before : List Char) : List Char → Option (List Char × List Char)
  | [] => none
  | c :: cs =>
    if c = '>' ∧ kind.endsAfter before = true then some (before.reverse, cs)
    else content? kind (c :: before) cs

/-- Does a text start with a word, letter case aside? -/
def opens (word : String) (s : List Char) : Bool :=
  (s.take word.length).map Char.toLower == word.toList.map Char.toLower

/-- The event for the content of a whole piece of markup. -/
def event (kind : Bang) (content : List Char) : Except Error Event :=
  match kind with
  | comment => if opens "--" content then .ok .remark else .error (.unfinished .comment)
  | cdata =>
    if opens "[CDATA[" content then .ok (.cdata ((content.drop 7).dropLast.dropLast))
    else .error (.unfinished .cdata)
  | doctype =>
    if opens "DOCTYPE" content then
      if (content.drop 7).all isSpace then .error .emptyDoctype else .ok .remark
    else .error (.unfinished .doctype)

end Bang

/-- A comment, a CDATA section or a document type, from the text after `<!` on. -/
def bang (opened : List (List Char)) (cs : List Char) : Except Error (Event × Reader) :=
  match cs with
  | [] => .error (.unfinished .bang)
  | c :: _ =>
    match Bang.ofFirst? c with
    | none => .error (.strayBang (Reference.firstByte c))
    | some kind =>
      match kind.content? [] cs with
      | none => .error (.unfinished kind.construct)
      | some (content, rest) => (kind.event content).map fun e => (e, ⟨rest, opened⟩)

/-- The event that starts with `<`, from the text after it on. -/
def markup (opened : List (List Char)) : List Char → Except Error (Event × Reader)
  | [] => .ok (.endOfInput, ⟨[], opened⟩)
  | '!' :: cs => bang opened cs
  | '/' :: cs => closing opened cs
  | '?' :: cs => instruction opened cs
  | cs => element opened cs

/-- The next event and the reader after it. -/
def next (r : Reader) : Except Error (Event × Reader) :=
  match r.rest with
  | [] => .ok (.endOfInput, r)
  | '<' :: cs => markup r.opened cs
  | cs => .ok (.text (cs.takeWhile (· != '<')), ⟨cs.dropWhile (· != '<'), r.opened⟩)

/-! ## every event uses up text -/

/-- A tag takes something of what there is. -/
theorem tagContent?_length {quote : Option Char} {cs content rest : List Char}
    (h : tagContent? quote cs = some (content, rest)) : rest.length < cs.length := by
  induction cs generalizing quote content with
  | nil => simp [tagContent?] at h
  | cons c cs ih =>
    have step : ∀ q, ((tagContent? q cs).map fun (a, b) => (c :: a, b)) = some (content, rest) →
        rest.length < (c :: cs).length := by
      intro q hq
      obtain ⟨⟨a, b⟩, hab, he⟩ := Option.map_eq_some_iff.1 hq
      cases he
      exact Nat.lt_succ_of_lt (ih hab)
    unfold tagContent? at h
    dsimp only at h
    split at h
    · split at h <;> exact step _ h
    · split at h
      · cases h; simp
      · split at h <;> exact step _ h

theorem Bang.content?_length {kind : Bang} {before cs content rest : List Char}
    (h : kind.content? before cs = some (content, rest)) : rest.length < cs.length := by
  induction cs generalizing before with
  | nil => simp [content?] at h
  | cons c cs ih =>
    unfold content? at h
    split at h
    · cases h; simp
    · exact Nat.lt_succ_of_lt (ih h)

theorem length_drop_dropWhile_le (p : Char → Bool) (cs : List Char) :
    ((cs.dropWhile p).drop 1).length ≤ cs.length := by
  have := (List.dropWhile_sublist p (l := cs)).length_le
  rw [List.length_drop]
  omega

/-- Markup never gives back more than there was. -/
theorem markup_length {opened : List (List Char)} {cs : List Char} {e : Event} {r : Reader}
    (h : markup opened cs = .ok (e, r)) : r.rest.length ≤ cs.length := by
  unfold markup at h
  split at h
  · cases h; simp
  · unfold bang at h
    split at h
    · cases h
    · split at h
      · cases h
      · split at h
        · cases h
        · rename_i kind _ _ content rest hc
          have := Bang.content?_length hc
          revert h
          cases kind.event content with
          | error x => intro h; cases h
          | ok e' =>
            intro h
            cases h
            simp only [List.length_cons] at this ⊢
            omega
  · rename_i cs
    unfold closing at h
    have hl := length_drop_dropWhile_le (· != '>') cs
    dsimp only at h
    split at h
    · cases h
    · split at h
      · cases h; exact Nat.le_succ_of_le hl
      · cases h
  · rename_i cs
    unfold instruction at h
    have hl := length_drop_dropWhile_le (· != '>') cs
    dsimp only at h
    split at h
    · cases h; exact Nat.le_succ_of_le hl
    · cases h
  · unfold element at h
    split at h
    · cases h
    · rename_i hc
      have := tagContent?_length hc
      split at h <;> cases h <;> exact Nat.le_of_lt this

/-- Every event but the last uses up text. -/
theorem next_length {r r' : Reader} {e : Event} (h : r.next = .ok (e, r')) :
    e = .endOfInput ∨ r'.rest.length < r.rest.length := by
  unfold next at h
  split at h
  · cases h; exact .inl rfl
  · rename_i cs hr
    rw [hr]
    exact .inr (Nat.lt_succ_of_le (markup_length h))
  · rename_i hn hl
    cases h
    refine .inr ?_
    cases hr : r.rest with
    | nil => exact absurd hr hn
    | cons c cs =>
      have hc : (c != '<') = true := by
        simp only [bne_iff_ne, ne_eq]
        rintro rfl
        exact hl _ hr
      simp only [List.dropWhile_cons, hc, if_true]
      exact Nat.lt_succ_of_le (List.dropWhile_sublist _).length_le

end Reader

end SlotUpload.Xml
