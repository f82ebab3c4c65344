/-!
# SlotUpload.Http.Header

Header names and values.  Names are tokens, compared without regard to letter
case; values hold no control characters but tabs.  A set of headers has one
value for each name.
-/

namespace SlotUpload.Http

/-- The characters of a token. -/
def isTokenChar (c : Char) : Bool := c.isAlphanum || "!#$%&'*+-.^_`|~".contains c

def isHeaderName (s : String) : Bool := !s.isEmpty && s.toList.all isTokenChar

/-- May a text be the value of a header?  It may go beyond ASCII. -/
def isHeaderValue (s : String) : Bool :=
  s.toList.all fun c => c == '\t' || (0x20 ≤ c.toNat && c.toNat ≠ 0x7F)

/-- Headers by name, in lower case, in the order in which the names came up. -/
abbrev Headers := List (String × String)

namespace Headers

/-- Sets the value of a name, in place or at the end. -/
def set (name value : String) : Headers → Headers
  | [] => [(name, value)]
  | h :: hs => if h.1 = name then (name, value) :: hs else h :: set name value hs

def get? (name : String) (hs : Headers) : Option String := hs.lookup name

/-- The headers without those of some names. -/
def without (names : List String) (hs : Headers) : Headers :=
  hs.filter fun h => !names.contains h.1

end Headers

end SlotUpload.Http
