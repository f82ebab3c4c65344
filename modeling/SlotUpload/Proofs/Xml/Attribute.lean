import SlotUpload.Proofs.Xml.Reading

/-!
# SlotUpload.Proofs.Xml.Attribute

Attributes as they may be written, and a tag with one attribute more.  What is read as an
attribute is a name, an equals sign and a value between quotes, with spaces before each of
them (`Attribute.exists_written`), and whatever is so written is read
(`Attribute.read?_text`).  So another attribute may stand in a tag if its name is new there:
the other attributes are read as before (`Attribute.exists_readAll`).

* `Tag.exists_ofTag_insert` — the element that the tag opens is the same, up to that attribute;
* `Tag.IsRead.insert` — the tag is read as a tag, up to the same `>`.
-/

namespace SlotUpload.Xml

/-! ## cursors -/

namespace Cursor

variable {p : Char → Bool} {s t : List Char}

theorem span_append (offset : Nat) (hs : ∀ c ∈ s, p c) (ht : ∀ c ∈ t.head?, p c = false) :
    (Cursor.mk offset (s ++ t)).span p = (s, ⟨offset + Text.byteSize s, t⟩) := by
  cases t with
  | nil =>
      have htake : s.takeWhile p = s := List.takeWhile_eq_self_iff.2 hs
      have hdrop : s.dropWhile p = [] := List.dropWhile_eq_nil_iff.2 hs
      simp [span, htake, hdrop]
  | cons x t => exact span_append_cons offset hs (ht x rfl)

theorem skip_append (offset : Nat) (hs : ∀ c ∈ s, p c) (ht : ∀ c ∈ t.head?, p c = false) :
    (Cursor.mk offset (s ++ t)).skip p = ⟨offset + Text.byteSize s, t⟩ :=
  congrArg Prod.snd (span_append offset hs ht)

/-- What is skipped, and where the skipping stops. -/
theorem exists_of_skip (p : Char → Bool) (c : Cursor) : ∃ front, c.rest = front ++ (c.skip p).rest ∧
    (∀ x ∈ front, p x) ∧ ∀ x ∈ (c.skip p).rest.head?, p x = false := by
  refine ⟨c.rest.takeWhile p, List.takeWhile_append_dropWhile.symm,
    fun x hx => List.mem_takeWhile_imp hx, fun x hx => ?_⟩
  have hstop := List.head?_dropWhile_not p c.rest
  have hx : (c.rest.dropWhile p).head? = some x := hx
  rw [hx] at hstop
  simpa using hstop

end Cursor

/-! ## written attributes -/

namespace Attribute

/-- An attribute as it may be written: a name, an equals sign and a value between quotes,
with spaces before each of them. -/
structure Written where
  lead : List Char
  first : Char
  more : List Char
  before : List Char := []
  after : List Char := []
  quote : Char := '\''
  value : List Char
  all_lead : lead.all isSpace := by decide
  all_before : before.all isSpace := by decide
  all_after : after.all isSpace := by decide
  isSpace_first : isSpace first = false := by decide
  all_more : more.all nameChar := by decide
  quote_eq : quote = '"' ∨ quote = '\'' := by decide
  quote_not_mem : quote ∉ value := by decide

namespace Written

/-- The name of an attribute. -/
def name (w : Written) : List Char := w.first :: w.more

/-- The equals sign and the value, with the spaces before them. -/
def tail (w : Written) : List Char :=
  w.before ++ '=' :: (w.after ++ w.quote :: (w.value ++ [w.quote]))

/-- The text of an attribute. -/
def text (w : Written) : List Char := w.lead ++ (w.name ++ w.tail)

theorem isSpace_lead (w : Written) : ∀ c ∈ w.lead, isSpace c := List.all_eq_true.1 w.all_lead

theorem isSpace_before (w : Written) : ∀ c ∈ w.before, isSpace c :=
  List.all_eq_true.1 w.all_before

theorem isSpace_after (w : Written) : ∀ c ∈ w.after, isSpace c := List.all_eq_true.1 w.all_after

theorem nameChar_more (w : Written) : ∀ c ∈ w.more, nameChar c := List.all_eq_true.1 w.all_more

theorem isSpace_quote (w : Written) : isSpace w.quote = false := by
  rcases w.quote_eq with h | h <;> rw [h] <;> rfl

theorem getLast?_text (w : Written) : w.text.getLast? = some w.quote := by
  have htext : w.text = w.lead ++ w.name ++ w.before ++ ('=' :: w.after) ++
      (w.quote :: w.value) ++ [w.quote] := by simp [text, tail]
  rw [htext, List.getLast?_concat]

theorem nameChar_tail (w : Written) (rest : List Char) :
    ∀ c ∈ (w.tail ++ rest).head?, nameChar c = false := by
  intro c hc
  unfold tail at hc
  cases hbefore : w.before with
  | nil =>
      rw [hbefore] at hc
      cases hc
      rfl
  | cons d before =>
      rw [hbefore] at hc
      cases hc
      have hspace : isSpace c := w.isSpace_before c (hbefore ▸ List.mem_cons_self)
      simp [nameChar, hspace]

end Written

variable {seen seen' : List Attribute} {value s rest : List Char} {c d : Cursor} {a : Attribute}
  {list : List (String × String)}

/-- A written value is read back, whatever comes after it. -/
theorem readValue_written (w : Written) (offset : Nat) :
    ∃ offset', ∀ rest, readValue ⟨offset, w.after ++ w.quote :: (w.value ++ w.quote :: rest)⟩ =
      .ok (w.value, ⟨offset', rest⟩) := by
  have hvalue : ∀ c ∈ w.value, (c != w.quote) = true := fun c hc => by
    simpa using fun he : c = w.quote => w.quote_not_mem (he ▸ hc)
  refine ⟨offset + Text.byteSize w.after + 1 + Text.byteSize w.value + 1, fun rest => ?_⟩
  unfold readValue
  rw [Cursor.skip_append offset w.isSpace_after (by simp [w.isSpace_quote])]
  dsimp only
  rw [if_pos w.quote_eq, Cursor.span_append_cons _ hvalue (by simp)]

/-- A written attribute is read, unless its name was seen. -/
theorem read?_text (w : Written) (seen : List Attribute) (offset : Nat) :
    ∃ start offset', ∀ rest, read? seen ⟨offset, w.text ++ rest⟩ =
      match seen.find? (·.name == w.name) with
      | some earlier => .error (.duplicate start earlier.offset)
      | none => .ok (some (⟨w.name, w.value, start⟩, ⟨offset', rest⟩)) := by
  obtain ⟨offset', hvalue⟩ := readValue_written w (offset + Text.byteSize w.lead +
    w.first.utf8Size + Text.byteSize w.more + Text.byteSize w.before + 1)
  refine ⟨offset + Text.byteSize w.lead, offset', fun rest => ?_⟩
  have htext : w.text ++ rest = w.lead ++ w.first :: (w.more ++ (w.tail ++ rest)) := by
    simp [Written.text, Written.name]
  have htail : w.tail ++ rest =
      w.before ++ '=' :: (w.after ++ w.quote :: (w.value ++ w.quote :: rest)) := by
    simp [Written.tail]
  have hequals : ∀ c ∈ ('=' :: (w.after ++ w.quote :: (w.value ++ w.quote :: rest))).head?,
      isSpace c = false := by simp [isSpace]
  unfold read?
  rw [htext, Cursor.skip_append offset w.isSpace_lead (by simp [w.isSpace_first])]
  dsimp only
  rw [Cursor.span_append _ w.nameChar_more (w.nameChar_tail rest)]
  dsimp only
  rw [htail, Cursor.skip_append _ w.isSpace_before hequals]
  dsimp only
  rw [if_neg (by simp), hvalue]
  rfl

/-- A value that was read stood between quotes. -/
theorem exists_of_readValue (h : readValue c = .ok (value, d)) :
    ∃ after quote, c.rest = after ++ quote :: (value ++ quote :: d.rest) ∧
      (∀ x ∈ after, isSpace x) ∧ (quote = '"' ∨ quote = '\'') ∧ quote ∉ value := by
  obtain ⟨after, hafter, hspaces, -⟩ := Cursor.exists_of_skip isSpace c
  unfold readValue at h
  dsimp only at h
  split at h
  · contradiction
  · next quote cs hquote =>
      rw [hquote] at hafter
      split at h
      · next hq =>
          split at h
          · contradiction
          · next x rest hrest =>
              cases h
              have hcs : cs = cs.takeWhile (· != quote) ++ x :: rest := by
                rw [← hrest]
                exact List.takeWhile_append_dropWhile.symm
              have hx : x = quote := by
                have hstop := List.head?_dropWhile_not (· != quote) cs
                have hdrop : cs.dropWhile (· != quote) = x :: rest := hrest
                rw [hdrop] at hstop
                simpa using hstop
              subst hx
              refine ⟨after, x, hafter.trans (congrArg (after ++ x :: ·) hcs), hspaces, hq, ?_⟩
              exact fun hmem => by simpa using List.mem_takeWhile_imp hmem
      · contradiction

/-- What is read as an attribute is written as one, and its name is new. -/
theorem exists_written (h : read? seen c = .ok (some (a, d))) :
    ∃ w : Written, c.rest = w.text ++ d.rest ∧ w.name = a.name ∧ w.value = a.value ∧
      ∀ b ∈ seen, b.name ≠ a.name := by
  obtain ⟨lead, hlead, hleadSpaces, hstart⟩ := Cursor.exists_of_skip isSpace c
  unfold read? at h
  dsimp only at h
  split at h
  · cases h
  · next first cs hfirst =>
      rw [hfirst] at hlead hstart
      generalize hd₁ : Cursor.mk ((c.skip isSpace).offset + first.utf8Size) cs = d₁ at h
      obtain ⟨before, hbefore, hbeforeSpaces, -⟩ :=
        Cursor.exists_of_skip isSpace (d₁.span nameChar).2
      have hcs : cs = cs.takeWhile nameChar ++ (d₁.span nameChar).2.rest := by
        subst hd₁
        exact List.takeWhile_append_dropWhile.symm
      have hmore : (d₁.span nameChar).1 = cs.takeWhile nameChar := by
        subst hd₁
        rfl
      rw [hmore] at h
      split at h
      · contradiction
      · next x rest hx =>
          rw [hx] at hbefore
          split at h
          · contradiction
          · next hequals =>
              obtain rfl : x = '=' := by simpa using hequals
              split at h
              · contradiction
              · next hnew =>
                  split at h
                  · contradiction
                  · next value d' hvalue =>
                      cases h
                      obtain ⟨after, quote, hrest, hafter, hquote, hmem⟩ :=
                        exists_of_readValue hvalue
                      rw [List.find?_eq_none] at hnew
                      let w : Written :=
                        { lead, first, before, after, quote, value
                          more := cs.takeWhile nameChar
                          all_lead := List.all_eq_true.2 hleadSpaces
                          all_before := List.all_eq_true.2 hbeforeSpaces
                          all_after := List.all_eq_true.2 hafter
                          isSpace_first := hstart _ rfl
                          all_more := List.all_eq_true.2 fun y hy => List.mem_takeWhile_imp hy
                          quote_eq := hquote
                          quote_not_mem := hmem }
                      refine ⟨w, ?_, rfl, rfl, fun b hb => by simpa using hnew b hb⟩
                      have hrest : rest = after ++ quote :: (value ++ quote :: d.rest) := hrest
                      rw [hlead, hcs, hbefore, hrest]
                      simp [w, Written.text, Written.name, Written.tail]

/-- Where there is no attribute there are only spaces. -/
theorem read?_eq_none (h : read? seen c = .ok none) : ∀ x ∈ c.rest, isSpace x := by
  obtain ⟨lead, hlead, hspaces, -⟩ := Cursor.exists_of_skip isSpace c
  unfold read? at h
  dsimp only at h
  split at h
  · next hnil => simpa [hlead, hnil] using hspaces
  · split at h
    · contradiction
    · split at h
      · contradiction
      · split at h
        · contradiction
        · split at h
          · contradiction
          · cases h

theorem read?_spaces (hs : ∀ x ∈ s, isSpace x) (seen : List Attribute) (offset : Nat) :
    read? seen ⟨offset, s⟩ = .ok none := by
  have hskip : (Cursor.mk offset s).skip isSpace = ⟨offset + Text.byteSize s, []⟩ := by
    simpa using Cursor.skip_append (t := []) offset hs (by simp)
  unfold read?
  rw [hskip]

/-! ## all attributes of a tag -/

theorem readAll_of_none (h : read? seen c = .ok none) : readAll seen c = .ok [] := by
  rw [readAll]
  split <;> simp_all

/-- After one attribute the others are read. -/
theorem readAll_of_some (h : read? seen c = .ok (some (a, d))) : readAll seen c = .ok list ↔
    ∃ value list', Resolved a.value value ∧ readAll (a :: seen) d = .ok list' ∧
      list = (String.ofList a.name, String.ofList value) :: list' := by
  rw [readAll]
  split
  · next h' =>
      rw [h] at h'
      contradiction
  · next h' =>
      rw [h] at h'
      cases h'
  · next a' d' h' =>
      rw [h] at h'
      cases h'
      cases hvalue : unescape a.value with
      | error e =>
          constructor
          · intro h
            contradiction
          · rintro ⟨value, list', hresolved, -⟩
            rw [Resolved.unescape_eq_ok_iff.2 hresolved] at hvalue
            contradiction
      | ok value =>
          constructor
          · intro h
            obtain ⟨list', hlist', rfl⟩ := exists_of_map_eq_ok h
            exact ⟨value, list', Resolved.unescape_eq_ok_iff.1 hvalue, hlist', rfl⟩
          · rintro ⟨value', list', hresolved, hlist', rfl⟩
            rw [Resolved.unescape_eq_ok_iff.2 hresolved] at hvalue
            cases hvalue
            dsimp only
            rw [hlist']
            rfl

/-- A written attribute is read, if its name is new, and the others after it. -/
theorem readAll_text (w : Written) (seen : List Attribute) (offset : Nat) :
    ∃ a offset', a.name = w.name ∧ ∀ rest list,
      readAll seen ⟨offset, w.text ++ rest⟩ = .ok list ↔ (∀ b ∈ seen, b.name ≠ w.name) ∧
        ∃ value list', Resolved w.value value ∧ readAll (a :: seen) ⟨offset', rest⟩ = .ok list' ∧
          list = (String.ofList w.name, String.ofList value) :: list' := by
  obtain ⟨start, offset', hread⟩ := read?_text w seen offset
  refine ⟨⟨w.name, w.value, start⟩, offset', rfl, fun rest list => ?_⟩
  have hread := hread rest
  split at hread
  · next earlier hfound =>
      have hname : earlier.name = w.name := by simpa using List.find?_some hfound
      have hno : readAll seen ⟨offset, w.text ++ rest⟩ ≠ .ok list := by
        rw [readAll]
        split <;> simp_all
      constructor
      · exact fun h => absurd h hno
      · exact fun h => absurd hname (h.1 earlier (List.mem_of_find?_eq_some hfound))
  · next hfound =>
      rw [List.find?_eq_none] at hfound
      have hnew : ∀ b ∈ seen, b.name ≠ w.name := fun b hb => by simpa using hfound b hb
      rw [readAll_of_some hread]
      exact ⟨fun h => ⟨hnew, h⟩, And.right⟩

/-- Attributes are read in the same way anywhere, and after any others with names that are
none of theirs. -/
theorem readAll_of_new (h : readAll seen c = .ok list)
    (hseen : ∀ b ∈ seen', (∃ b' ∈ seen, b'.name = b.name) ∨
      String.ofList b.name ∉ list.map (·.1)) (offset : Nat) :
    readAll seen' ⟨offset, c.rest⟩ = .ok list := by
  induction hn : c.rest.length using Nat.strongRecOn generalizing seen seen' c list offset with
  | _ n ih =>
    subst hn
    cases hread : read? seen c with
    | error e =>
        rw [readAll] at h
        split at h <;> simp_all
    | ok found =>
        cases found with
        | none =>
            rw [readAll_of_none hread] at h
            cases h
            exact readAll_of_none (read?_spaces (read?_eq_none hread) seen' offset)
        | some found =>
            obtain ⟨a, d⟩ := found
            obtain ⟨w, hrest, hname, hvalue, hnew⟩ := exists_written hread
            obtain ⟨value, list', hresolved, hlist', rfl⟩ := (readAll_of_some hread).1 h
            obtain ⟨a', offset', hname', hread'⟩ := readAll_text w seen' offset
            rw [hrest, hread']
            refine ⟨fun b hb => ?_, value, list', hvalue ▸ hresolved, ?_, by rw [hname]⟩
            · rcases hseen b hb with ⟨b', hb', heq⟩ | hno
              · exact hname ▸ heq ▸ hnew b' hb'
              · intro heq
                simp [heq, hname] at hno
            · refine ih _ (read?_length hread) hlist' (fun b hb => ?_) offset' rfl
              rcases List.mem_cons.1 hb with rfl | hb
              · exact .inl ⟨a, List.mem_cons_self, by rw [hname', hname]⟩
              · rcases hseen b hb with ⟨b', hb', heq⟩ | hno
                · exact .inl ⟨b', List.mem_cons_of_mem a hb', heq⟩
                · exact .inr fun hmem => hno (List.mem_cons_of_mem _ hmem)

/-- **Another attribute may stand after any of the attributes of a tag** if its name is new
there. -/
theorem exists_readAll (w : Written) {front : List Written} {offset : Nat}
    (h : readAll seen ⟨offset, front.flatMap Written.text ++ s⟩ = .ok list)
    (hseen : ∀ b ∈ seen, b.name ≠ w.name) (hnew : String.ofList w.name ∉ list.map (·.1))
    (hvalue : Resolved w.value value) : ∃ list₁ list₂, list = list₁ ++ list₂ ∧
      readAll seen ⟨offset, front.flatMap Written.text ++ (w.text ++ s)⟩ =
        .ok (list₁ ++ (String.ofList w.name, String.ofList value) :: list₂) := by
  induction front generalizing seen offset list with
  | nil =>
      obtain ⟨a, offset', hname, hread⟩ := readAll_text w seen offset
      refine ⟨[], list, rfl, (hread s _).2 ⟨hseen, value, list, hvalue, ?_, rfl⟩⟩
      refine readAll_of_new h (fun b hb => ?_) offset'
      rcases List.mem_cons.1 hb with rfl | hb
      · exact .inr (hname ▸ hnew)
      · exact .inl ⟨b, hb, rfl⟩
  | cons f front ih =>
      obtain ⟨a, offset', hname, hread⟩ := readAll_text f seen offset
      rw [List.flatMap_cons, List.append_assoc] at h ⊢
      obtain ⟨hnewf, x, list', hx, hlist', rfl⟩ := (hread _ _).1 h
      rw [List.map_cons, List.mem_cons, not_or] at hnew
      have hseen' : ∀ b ∈ a :: seen, b.name ≠ w.name := by
        intro b hb heq
        rcases List.mem_cons.1 hb with rfl | hb
        · exact hnew.1 (by rw [← heq, hname])
        · exact hseen b hb heq
      obtain ⟨list₁, list₂, rfl, hinserted⟩ := ih hlist' hseen' hnew.2
      exact ⟨_ :: list₁, list₂, rfl, (hread _ _).2 ⟨hnewf, x, _, hx, hinserted, rfl⟩⟩

end Attribute

/-! ## a tag with one attribute more -/

namespace Element

/-- Elements that are the same up to the attributes of one name. -/
structure SameBut (name : String) (e e' : Element) : Prop where
  name_eq : e'.name = e.name
  xmlns_eq : e'.xmlns = e.xmlns
  attribute?_eq : ∀ other, other ≠ name → e'.attribute? other = e.attribute? other
  children_eq : e'.children = e.children
  text_eq : e'.text = e.text

end Element

namespace Tag

open Attribute

/-- The text of a tag between `<` and `>`; it may close itself. -/
def content (tag : Tag) (closes : Bool) : List Char :=
  tag.name ++ (tag.body ++ if closes then ['/'] else [])

/-- The text of a tag. -/
def text (tag : Tag) (closes : Bool) : List Char := '<' :: (tag.content closes ++ ['>'])

/-- What a tag is read as. -/
def event (tag : Tag) (closes : Bool) : Event := if closes then .empty tag else .start tag

/-- A text with no quote in it and no end of a tag. -/
abbrev NoQuotes (s : List Char) : Prop := ∀ c ∈ s, c ≠ '>' ∧ c ≠ '"' ∧ c ≠ '\''

theorem noQuotes_chars (name : Name) : NoQuotes name.chars := fun _ hc =>
  ⟨Name.ne_of_mem hc (by decide), Name.ne_of_mem hc (by decide), Name.ne_of_mem hc (by decide)⟩

/-- A place in a tag: after its name and some of its attributes. -/
structure Place where
  name : List Char
  front : List Written
  back : List Char

namespace Place

/-- The attributes before a place. -/
def before (p : Place) : List Char := p.front.flatMap Written.text

/-- The tag that a place is in. -/
def tag (p : Place) : Tag := ⟨p.name, p.before ++ p.back⟩

/-- The tag with another attribute at the place. -/
def insert (p : Place) (w : Written) : Tag := ⟨p.name, p.before ++ (w.text ++ p.back)⟩

/-- An attribute that may be put at a place: it has a space before it, a plain name that is
new to the tag and none of the names, and a value whose references stand for characters.  No
quote is open there. -/
structure Fits (excluded : List String) (p : Place) (w : Written) : Prop where
  lead_ne_nil : w.lead ≠ []
  name_plain : NoQuotes w.name
  name_not_mem : String.ofList w.name ∉ excluded
  name_new : ∀ list, p.tag.attributes = .ok list → String.ofList w.name ∉ list.map (·.1)
  resolved : ∃ value, Resolved w.value value
  inside : Inside (p.name ++ p.before)

end Place

variable {p : Place} {w : Written} {e : Element} {inherited : Option String}

/-- **Another attribute shows in the element by its own name alone.** -/
theorem exists_ofTag_insert {excluded : List String} (h : Element.ofTag p.tag inherited = .ok e)
    (hfits : p.Fits excluded w) (hxmlns : String.ofList w.name ≠ "xmlns") :
    ∃ e', Element.ofTag (p.insert w) inherited = .ok e' ∧
      Element.SameBut (String.ofList w.name) e e' := by
  obtain ⟨list, hlist, rfl⟩ := exists_of_map_eq_ok h
  obtain ⟨value, hvalue⟩ := hfits.resolved
  have hnew := hfits.name_new list hlist
  obtain ⟨list₁, list₂, rfl, hinserted⟩ := exists_readAll w hlist (by simp) hnew hvalue
  have hinserted : (p.insert w).attributes =
      .ok (list₁ ++ (String.ofList w.name, String.ofList value) :: list₂) := hinserted
  rw [Element.ofTag, hinserted]
  refine ⟨_, rfl, rfl, ?_, fun other hother => ?_, rfl, rfl⟩
  · have hne : ("xmlns" == String.ofList w.name) = false := by simpa using Ne.symm hxmlns
    simp [List.lookup_append, List.lookup_cons, hne]
  · have hne : (String.ofList w.name == other) = false := by simpa using Ne.symm hother
    simp [Element.attribute?, List.find?_append, hxmlns, hne]

variable {tag : Tag} {name s : List Char} {closes : Bool} {rest cs : List Char}
  {opened opened' : List (List Char)} {reader : Reader}

/-- The name of a tag ends at the first space. -/
theorem ofContent_eq_iff : ofContent (name ++ s) = ⟨name, s⟩ ↔
    (∀ c ∈ name, isSpace c = false) ∧ ∀ c ∈ s.head?, isSpace c := by
  constructor
  · intro h
    have hname : (name ++ s).takeWhile (!isSpace ·) = name := congrArg Tag.name h
    have hbody : (name ++ s).dropWhile (!isSpace ·) = s := congrArg Tag.body h
    constructor
    · intro c hc
      rw [← hname] at hc
      simpa using List.mem_takeWhile_imp hc
    · intro c hc
      have hstop := List.head?_dropWhile_not (!isSpace ·) (name ++ s)
      rw [hbody, Option.mem_def.1 hc] at hstop
      simpa using hstop
  · rintro ⟨hname, hbody⟩
    have hgo : ∀ c ∈ name, (!isSpace c) = true := by simpa using hname
    have hstop : s.takeWhile (!isSpace ·) = [] ∧ s.dropWhile (!isSpace ·) = s := by
      cases s with
      | nil => simp
      | cons c s => simp [hbody c rfl]
    rw [ofContent, List.takeWhile_append_of_pos hgo, List.dropWhile_append_of_pos hgo, hstop.1,
      hstop.2, List.append_nil]

/-- What makes a text a tag: it is not taken for other markup, it goes up to the `>`, it
closes itself if it ends in a slash, and a space ends its name. -/
structure IsRead (tag : Tag) (closes : Bool) (rest : List Char) : Prop where
  head : ∀ c ∈ (tag.content closes).head?, c ≠ '!' ∧ c ≠ '/' ∧ c ≠ '?'
  stops : Reader.tagContent? none (tag.content closes ++ '>' :: rest) =
    some (tag.content closes, rest)
  slash : (tag.content closes).getLast? = some '/' ↔ closes
  spaced : ofContent (tag.name ++ tag.body) = tag

theorem text_append (tag : Tag) (closes : Bool) (rest : List Char) :
    tag.text closes ++ rest = '<' :: (tag.content closes ++ '>' :: rest) := by simp [text]

/-- A tag that can be read is the next event. -/
theorem IsRead.next_eq (h : tag.IsRead closes rest) (opened : List (List Char)) :
    Reader.next ⟨tag.text closes ++ rest, opened⟩ = .ok (tag.event closes,
      ⟨rest, if closes then opened else tag.name :: opened⟩) := by
  rw [text_append, Reader.next_markup, Reader.markup_content h.head, Reader.element, h.stops]
  dsimp only
  cases closes with
  | false =>
      have hslash : (tag.content false).getLast? ≠ some '/' := fun he =>
        absurd (h.slash.1 he) (by simp)
      have hcontent : tag.content false = tag.name ++ tag.body := by simp [content]
      rw [if_neg hslash, hcontent, h.spaced]
      rfl
  | true =>
      have hcontent : (tag.content true).dropLast = tag.name ++ tag.body := by
        simp [content, ← List.append_assoc]
      rw [if_pos (h.slash.2 rfl), hcontent, h.spaced]
      rfl

/-- What starts with `<!` is not read as a tag. -/
theorem bang_event_ne (kind : Reader.Bang) (content : List Char) (tag : Tag) (closes : Bool) :
    kind.event content ≠ .ok (tag.event closes) := by
  cases kind with
  | comment => cases closes <;> simp only [Reader.Bang.event, event] <;> split <;> simp
  | cdata => cases closes <;> simp only [Reader.Bang.event, event] <;> split <;> simp
  | doctype =>
      cases closes <;> simp only [Reader.Bang.event, event] <;> split <;> try split
      all_goals simp

/-- A declaration or comment is no tag. -/
theorem bang_ne_event (tag : Tag) (closes : Bool) :
    Reader.bang opened cs ≠ .ok (tag.event closes, reader) := by
  intro h
  unfold Reader.bang at h
  split at h
  · contradiction
  · split at h
    · contradiction
    · split at h
      · contradiction
      · obtain ⟨e, hevent, heq⟩ := exists_of_map_eq_ok h
        cases heq
        exact bang_event_ne _ _ tag closes hevent

/-- What is read as a tag begins as one. -/
theorem element_of_markup (h : Reader.markup opened cs = .ok (tag.event closes, reader)) :
    (∀ c ∈ cs.head?, c ≠ '!' ∧ c ≠ '/' ∧ c ≠ '?') ∧
      Reader.element opened cs = .ok (tag.event closes, reader) := by
  unfold Reader.markup at h
  split at h
  · unfold event at h
    cases closes <;> cases h
  · exact absurd h (bang_ne_event tag closes)
  · unfold Reader.closing event at h
    dsimp only at h
    split at h
    · contradiction
    · split at h <;> cases closes <;> cases h
  · unfold Reader.instruction event at h
    dsimp only at h
    split at h <;> cases closes <;> cases h
  · next hbang hslash hquestion =>
      refine ⟨fun c hc => ?_, h⟩
      cases cs with
      | nil => contradiction
      | cons d cs =>
          cases hc
          exact ⟨fun he => hbang cs (he ▸ rfl), fun he => hslash cs (he ▸ rfl),
            fun he => hquestion cs (he ▸ rfl)⟩

/-- A text is read as the tag that it is the text of only if it is read up to its end. -/
theorem isRead_of_next (h : Reader.next ⟨tag.text closes ++ rest, opened⟩ =
    .ok (tag.event closes, ⟨rest, opened'⟩)) : tag.IsRead closes rest := by
  rw [text_append, Reader.next_markup] at h
  obtain ⟨hhead, h⟩ := element_of_markup h
  have hhead' : ∀ c ∈ (tag.content closes).head?, c ≠ '!' ∧ c ≠ '/' ∧ c ≠ '?' := fun c hc =>
    hhead c (by cases hcontent : tag.content closes <;> simp_all)
  unfold Reader.element at h
  cases hfound : Reader.tagContent? none (tag.content closes ++ '>' :: rest) with
  | none => simp [hfound] at h
  | some found =>
      obtain ⟨content', rest'⟩ := found
      obtain ⟨hsplit, -⟩ := Reader.of_tagContent? hfound
      rw [hfound] at h
      dsimp only at h
      split at h
      · next hslash =>
          cases closes with
          | false => simp [event] at h
          | true =>
              simp only [event, if_true, Except.ok.injEq, Prod.mk.injEq, Event.empty.injEq,
                Reader.mk.injEq] at h
              obtain ⟨htag, rfl, -⟩ := h
              obtain rfl : tag.content true = content' := List.append_cancel_right hsplit
              have hcontent : (tag.content true).dropLast = tag.name ++ tag.body := by
                simp [content, ← List.append_assoc]
              exact ⟨hhead', hfound, by simpa using hslash, by rw [← hcontent, htag]⟩
      · next hslash =>
          cases closes with
          | true => simp [event] at h
          | false =>
              simp only [event, Bool.false_eq_true, if_false, Except.ok.injEq, Prod.mk.injEq,
                Event.start.injEq, Reader.mk.injEq] at h
              obtain ⟨htag, rfl, -⟩ := h
              obtain rfl : tag.content false = content' := List.append_cancel_right hsplit
              have hcontent : tag.content false = tag.name ++ tag.body := by simp [content]
              exact ⟨hhead', hfound, by simpa using hslash, by rw [← hcontent, htag]⟩

/-- A written attribute may stand inside a tag if its name does not end the tag. -/
theorem inside_text (w : Written) (hname : NoQuotes w.name) : Inside w.text := by
  have hspaces : ∀ s : List Char, (∀ c ∈ s, isSpace c) → Inside s := fun s hs =>
    .of_forall fun c hc => by
      refine ⟨?_, ?_, ?_⟩ <;> rintro rfl <;> exact absurd (hs _ hc) (by decide)
  have hvalue : Inside (w.quote :: (w.value ++ [w.quote])) :=
    .quoted w.quote_eq fun c hc he => w.quote_not_mem (he ▸ hc)
  have htail : Inside w.tail := (hspaces _ w.isSpace_before).append <|
    .cons (by decide) <| (hspaces _ w.isSpace_after).append hvalue
  exact (hspaces _ w.isSpace_lead).append <| (Inside.of_forall hname).append htail

/-- No quote is open after names that hold none. -/
theorem Place.inside_before (hname : NoQuotes p.name) (hfront : ∀ w ∈ p.front, NoQuotes w.name) :
    Inside (p.name ++ p.before) := by
  have hbefore : ∀ front : List Written, (∀ w ∈ front, NoQuotes w.name) →
      Inside (front.flatMap Written.text) := by
    intro front hfront
    induction front with
    | nil => exact .nil
    | cons w front ih =>
        rw [List.forall_mem_cons] at hfront
        exact (inside_text w hfront.1).append (ih hfront.2)
  exact (Inside.of_forall hname).append (hbefore p.front hfront)

/-- **A tag with another attribute is read as a tag.** -/
theorem IsRead.insert {excluded : List String} (h : p.tag.IsRead closes rest)
    (hfits : p.Fits excluded w) : (p.insert w).IsRead closes rest := by
  obtain ⟨hnospace, hbody⟩ := ofContent_eq_iff.1 h.spaced
  obtain ⟨x, lead, hx⟩ := List.exists_cons_of_ne_nil hfits.lead_ne_nil
  have hspace : isSpace x := w.isSpace_lead x (hx ▸ List.mem_cons_self)
  have hbody' : ∀ c ∈ (p.before ++ (w.text ++ p.back)).head?, isSpace c := by
    intro c hc
    rw [Place.tag] at hbody
    cases hbefore : p.before with
    | nil =>
        rw [hbefore, Written.text, hx] at hc
        cases hc
        exact hspace
    | cons d before =>
        rw [hbefore] at hc hbody
        exact hbody c hc
  constructor
  case head =>
    intro c hc
    have hhead := h.head c
    unfold content Place.insert Place.tag at *
    cases hname : p.name with
    | nil =>
        have hc : isSpace c := by
          refine hbody' c ?_
          rw [hname, List.nil_append] at hc
          rwa [List.head?_append_of_ne_nil _ (by simp [Written.text, hx])] at hc
        refine ⟨?_, ?_, ?_⟩ <;> rintro rfl <;> contradiction
    | cons d name =>
        rw [hname] at hc hhead
        exact hhead hc
  case stops =>
    have hold := h.stops
    have hcontent : p.tag.content closes =
        p.name ++ p.before ++ (p.back ++ if closes then ['/'] else []) := by
      simp [Place.tag, content]
    rw [hcontent, List.append_assoc, hfits.inside] at hold
    obtain ⟨⟨a, b⟩, hab, heq⟩ := Option.map_eq_some_iff.1 hold
    obtain ⟨ha, rfl⟩ := Prod.mk.inj heq
    obtain rfl := List.append_cancel_left ha
    have hinsert : Inside (p.name ++ p.before ++ w.text) :=
      hfits.inside.append (inside_text w hfits.name_plain)
    have hnew : (p.insert w).content closes =
        p.name ++ p.before ++ w.text ++ (p.back ++ if closes then ['/'] else []) := by
      simp [Place.insert, content]
    rw [hnew, List.append_assoc, hinsert, hab]
    rfl
  case slash =>
    cases closes with
    | true => simp [content, ← List.append_assoc]
    | false =>
        have hold : (p.name ++ p.before ++ p.back).getLast? ≠ some '/' := by
          simpa [content, Place.tag] using h.slash
        have hnew : (p.insert w).content false = p.name ++ p.before ++ w.text ++ p.back := by
          simp [content, Place.insert]
        have hslash : w.quote ≠ '/' := by rcases w.quote_eq with he | he <;> rw [he] <;> decide
        rw [hnew]
        by_cases hback : p.back = []
        · simp [hback, List.getLast?_append, w.getLast?_text, hslash]
        · rw [List.getLast?_append_of_ne_nil _ hback] at hold ⊢
          simpa using hold
  case spaced => exact ofContent_eq_iff.2 ⟨hnospace, hbody'⟩

end Tag

end SlotUpload.Xml
