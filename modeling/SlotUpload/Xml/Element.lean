import SlotUpload.Text.Blank
import SlotUpload.Xml.Reader

/-!
# SlotUpload.Xml.Element

Element trees.  A tree is built from a reader's events with a stack of the open
elements; it is complete when the root element ends, and nothing after that is
looked at.  An element is in the default namespace it declares itself, else in
that of its parent.  Text of blanks alone counts as indentation and is dropped.
-/

namespace SlotUpload.Xml

/-- An element: local name, default namespace, attributes as written, child
elements in document order, and its own text. -/
structure Element where
  name : String
  xmlns : Option String
  attributes : List (String × String) := []
  children : List Element := []
  text : String := ""
  deriving Repr

namespace Element

/-! ## looking into a tree -/

/-- The first attribute of a name. -/
def attribute? (e : Element) (name : String) : Option String :=
  (e.attributes.find? (·.1 == name)).map (·.2)

/-- The first child of a local name. -/
def child? (e : Element) (name : String) : Option Element :=
  e.children.find? (·.name == name)

mutual

/-- The first element in document order that satisfies `p`. -/
def find? (p : Element → Bool) : Element → Option Element
  | ⟨name, ns, attributes, children, text⟩ =>
    if p ⟨name, ns, attributes, children, text⟩ then
      some ⟨name, ns, attributes, children, text⟩
    else findAmong? p children

/-- The first such element of a list of trees. -/
def findAmong? (p : Element → Bool) : List Element → Option Element
  | [] => none
  | e :: es => (find? p e).or (findAmong? p es)

end

/-! ## building a tree -/

/-- The element that a tag opens, below a parent in the namespace `inherited`. -/
def ofTag (tag : Tag) (inherited : Option String) : Except Error Element :=
  tag.attributes.map fun attributes =>
    { name := String.ofList tag.localName
      xmlns := (attributes.lookup "xmlns").or inherited
      attributes := attributes.filter (·.1 != "xmlns") }

/-- Adds text to an element. -/
def addText (e : Element) (text : List Char) : Element :=
  { e with text := e.text ++ String.ofList text }

/-- Adds a last child to an element. -/
def addChild (e child : Element) : Element := { e with children := e.children ++ [child] }

/-- A tree being built: the reader and the open elements, innermost first. -/
structure Building where
  reader : Reader
  stack : List Element
  deriving Repr

namespace Building

/-- The namespace that a new element inherits. -/
def inherited (b : Building) : Option String := b.stack.head?.bind (·.xmlns)

/-- The open elements with `f` applied to the innermost. -/
def onTop (f : Element → Element) : List Element → List Element
  | [] => []
  | e :: es => f e :: es

/-- A finished element becomes a child of the innermost open one, or the root. -/
def attach (reader : Reader) (done : Element) : List Element → Element ⊕ Building
  | [] => .inl done
  | parent :: stack => .inr ⟨reader, parent.addChild done :: stack⟩

/-- Takes in one event, after which the reader is `reader`. -/
def take (b : Building) (event : Event) (reader : Reader) : Except Error (Element ⊕ Building) :=
  match event with
  | .start tag => (ofTag tag b.inherited).map fun e => .inr ⟨reader, e :: b.stack⟩
  | .empty tag => (ofTag tag b.inherited).map fun e => attach reader e b.stack
  | .text raw =>
    match unescape raw with
    | .error e => .error (.badReference e)
    | .ok text =>
      if Text.allBlank text then .ok (.inr ⟨reader, b.stack⟩)
      else .ok (.inr ⟨reader, onTop (·.addText text) b.stack⟩)
  | .cdata content => .ok (.inr ⟨reader, onTop (·.addText content) b.stack⟩)
  | .finish =>
    match b.stack with
    | [] => .error .unbalancedEnd
    | done :: stack => .ok (attach reader done stack)
  | .remark => .ok (.inr ⟨reader, b.stack⟩)
  | .endOfInput => .error .noRoot

/-- Reads one event and takes it in. -/
def step (b : Building) : Except Error (Element ⊕ Building) :=
  match b.reader.next with
  | .error e => .error e
  | .ok (event, reader) => b.take event reader

/-- An attached element changes nothing in what is still to be read. -/
theorem attach_reader {reader : Reader} {done : Element} {stack : List Element} {b : Building}
    (h : attach reader done stack = .inr b) : b.reader = reader := by
  cases stack <;> cases h
  rfl

/-- A step that leaves the tree unfinished goes on with the reader it was given
and was not the end of the document. -/
theorem take_reader {b b' : Building} {event : Event} {reader : Reader}
    (h : b.take event reader = .ok (.inr b')) : b'.reader = reader ∧ event ≠ .endOfInput := by
  unfold take at h
  split at h
  · revert h
    cases ofTag _ b.inherited with
    | error e => intro h; cases h
    | ok e => intro h; cases h; exact ⟨rfl, by simp⟩
  · revert h
    cases ofTag _ b.inherited with
    | error e => intro h; cases h
    | ok e =>
      intro h
      simp only [Except.map, Except.ok.injEq] at h
      exact ⟨attach_reader h, by simp⟩
  · split at h
    · cases h
    · split at h <;> cases h <;> exact ⟨rfl, by simp⟩
  · cases h; exact ⟨rfl, by simp⟩
  · split at h
    · cases h
    · simp only [Except.ok.injEq] at h
      exact ⟨attach_reader h, by simp⟩
  · cases h; exact ⟨rfl, by simp⟩
  · cases h

/-- Every step that leaves the tree unfinished uses up text. -/
theorem step_length {b b' : Building} (h : b.step = .ok (.inr b')) :
    b'.reader.rest.length < b.reader.rest.length := by
  unfold step at h
  split at h
  · cases h
  · rename_i event reader hn
    obtain ⟨hr, he⟩ := take_reader h
    rcases Reader.next_length hn with h' | h'
    · exact absurd h' he
    · rw [hr]; exact h'

/-- Goes on until the root element is complete. -/
def run (b : Building) : Except Error Element :=
  match _step : b.step with
  | .error e => .error e
  | .ok (.inl root) => .ok root
  | .ok (.inr b') => b'.run
termination_by b.reader.rest.length
decreasing_by exact step_length _step

end Building

/-- The root element of a document; what follows its end is not read. -/
def parse (document : String) : Except Error Element :=
  Building.run ⟨.ofString document, []⟩

end Element

end SlotUpload.Xml
