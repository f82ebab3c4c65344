import SlotUpload.Text.Quoted

/-!
# SlotUpload.Xml.Error

What can be wrong with a document, and the wording of each fault.  Positions in
a reference count bytes of the one text or attribute value it stands in;
positions in an attribute count bytes of the tag's content, after its `<`.
-/

namespace SlotUpload.Xml

/-- Faults of a reference such as `&amp;` or `&#x41;`. -/
inductive ReferenceError
  /-- An ampersand with no semicolon of its own. -/
  | unterminated (start stop : Nat)
  /-- A name that is none of the five predefined ones. -/
  | unknown (start stop : Nat) (name : String)
  /-- A reference to the character number zero. -/
  | zero (start stop : Nat)
  | notCharacter (number : Nat)
  | notDecimal (found : Char)
  | notHexadecimal (found : Char)
  | decimalTooLong
  | hexadecimalTooLong
  deriving DecidableEq, Repr

namespace ReferenceError

private def located (start stop : Nat) (text : String) : String :=
  s!"Error while escaping character at range {start}..{stop}: {text}"

def message : ReferenceError → String
  | unterminated start stop => located start stop "Cannot find ';' after '&'"
  | unknown start stop name =>
    located start stop ("Unrecognized escape symbol: " ++ Text.quoted name)
  | zero start stop => located start stop "Null character entity not allowed"
  | notCharacter number => s!"'{number}' is not a valid codepoint"
  | notDecimal found => s!"'{found}' is not a valid decimal character"
  | notHexadecimal found => s!"'{found}' is not a valid hexadecimal character"
  | decimalTooLong => "Cannot convert decimal to utf8"
  | hexadecimalTooLong => "Cannot convert hexadecimal to utf8"

end ReferenceError

/-- Faults of an attribute inside a tag. -/
inductive AttributeError
  | noEquals (offset : Nat)
  | noValue (offset : Nat)
  | notQuoted (offset : Nat)
  | unclosed (offset : Nat) (quote : Char)
  | duplicate (offset first : Nat)
  deriving DecidableEq, Repr

def AttributeError.message : AttributeError → String
  | noEquals offset =>
    s!"position {offset}: attribute key must be directly followed by `=` or space"
  | noValue offset => s!"position {offset}: `=` must be followed by an attribute value"
  | notQuoted offset =>
    s!"position {offset}: attribute value must be enclosed in `\"` or `'`"
  | unclosed offset quote =>
    s!"position {offset}: missing closing quote `{quote}` in attribute value"
  | duplicate offset first =>
    s!"position {offset}: duplicated attribute, previous declaration at position {first}"

/-- Kinds of markup that the document may end inside. -/
inductive Construct
  | element | declaration | bang | comment | cdata | doctype
  deriving DecidableEq, Repr

def Construct.name : Construct → String
  | element => "Element"
  | declaration => "XmlDecl"
  | bang => "Bang"
  | comment => "Comment"
  | cdata => "CData"
  | doctype => "DOCTYPE"

/-- Faults of a document. -/
inductive Error
  | badReference (fault : ReferenceError)
  | badAttribute (fault : AttributeError)
  | unfinished (construct : Construct)
  /-- A `<!` followed by none of `-`, `[` and `D`. -/
  | strayBang (symbol : Char)
  | emptyDoctype
  /-- An end tag that does not name the innermost open element. -/
  | mismatchedEnd (expected found : String)
  | unbalancedEnd
  /-- The document ended before its root element did. -/
  | noRoot
  deriving DecidableEq, Repr

def Error.message : Error → String
  | badReference fault => fault.message
  | badAttribute fault => fault.message
  | unfinished construct => "Unexpected EOF during reading " ++ construct.name
  | strayBang symbol =>
    "Only Comment (`--`), CDATA (`[CDATA[`) and DOCTYPE (`DOCTYPE`) nodes can start with a '!', " ++
      "but symbol `" ++ symbol.toString ++ "` found"
  | emptyDoctype => "DOCTYPE declaration must not be empty"
  | mismatchedEnd expected found => s!"Expecting </{expected}> found </{found}>"
  | unbalancedEnd => "unbalanced end tag"
  | noRoot => "unexpected end of document"

end SlotUpload.Xml
