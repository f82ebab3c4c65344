import Mathlib.Data.List.Nodup
import SlotUpload.Proofs.Payload.Slot
import SlotUpload.Proofs.Xml.Insertion

/-!
# SlotUpload.Proofs.Payload.Compatibility

Slots with more in them than their schema knows.  A slot is read from a few parts of its
payload: the namespace of the root, the `put` and `get` elements in it, their URLs and the
headers in `put`.  What else stands in the payload does not show (`decode_eq`), so a payload
may be extended (`Extends`): by fillers between the children of the root and, in the current
schema, of `put`, and by attributes of any tag.  A slot that is read from a payload is read
from any extension of it.
-/

namespace SlotUpload.Slot

open Xml Xml.Element Payload

/-! ## what is read of a payload -/

/-- What is read of a header. -/
def headerView (e : Element) : Option String × String := (e.attribute? "name", e.text)

/-- What is read of the headers in a `put` element, by the schema. -/
def headerViews (version : Version) (put : Element) : List (Option String × String) :=
  match version with
  | .current => (put.children.filter (·.name == "header")).map headerView
  | .legacy => []

/-- What is read of a `put` or `get` element, by the schema. -/
def partView (version : Version) (e : Element) :
    String × Option String × List (Option String × String) :=
  (e.name, rawUrl? version e, headerViews version e)

def isPart (e : Element) : Bool := e.name == "put" || e.name == "get"

/-- What is read of the parts of a slot. -/
def partViews (version : Version) (root : Element) :
    List (String × Option String × List (Option String × String)) :=
  (root.children.filter isPart).map (partView version)

/-- A header, from what is read of it. -/
def readView (view : Option String × String) : Except PayloadError (String × String) :=
  (required "header without name" view.1).map fun name => (name, view.2)

/-- The headers are read from their views alone. -/
theorem readHeaders_eq (version : Version) (put : Element) :
    readHeaders version put = (headerViews version put).mapM readView := by
  cases version with
  | legacy => rfl
  | current =>
      unfold readHeaders headerViews
      induction put.children.filter (·.name == "header") with
      | nil => rfl
      | cons e es ih =>
          rw [List.mapM_cons, List.map_cons, List.mapM_cons, ← ih]
          rfl

variable {version : Version} {root root' : Element} {document document' : String}

/-- Equal views of the parts have equal first puts and first gets. -/
theorem child?_partView {name : String} (hname : name = "put" ∨ name = "get")
    (h : partViews version root' = partViews version root) :
    (root'.child? name).map (partView version) = (root.child? name).map (partView version) := by
  have hchild : ∀ e : Element, (e.child? name).map (partView version) =
      (partViews version e).find? (·.1 == name) := by
    intro e
    have hpart : ∀ c : Element, decide (isPart c = true ∧ (c.name == name) = true) =
        (c.name == name) := by
      intro c
      by_cases hc : c.name = name
      · rcases hname with rfl | rfl <;> simp [isPart, hc]
      · simp [hc]
    have hname : (fun view => view.1 == name) ∘ partView version = fun c => c.name == name := rfl
    rw [partViews, child?, List.find?_map, hname, List.find?_filter]
    simp only [hpart]
  rw [hchild, hchild, h]

/-- A slot, from what is read of its parts. -/
def ofViews (put get : Option (String × Option String × List (Option String × String))) :
    Except PayloadError Slot := do
  let put ← required "missing put element" put
  let get ← required "missing get element" get
  let putUrl ← readUrl "put" put.2.1
  let getUrl ← readUrl "get" get.2.1
  let headers ← put.2.2.mapM readView
  return headers.foldl (fun s (name, value) => s.withHeader name value) { putUrl, getUrl }

/-- A slot is read from the views of its two parts alone. -/
theorem decode_eq_ofViews (hroot : parse document = .ok root)
    (hversion : versionOf root = .ok version) :
    decode document = ofViews ((root.child? "put").map (partView version))
      ((root.child? "get").map (partView version)) := by
  have hpayload : Payload.root document = .ok root := root_eq_ok_iff.2 hroot
  unfold decode ofViews
  simp only [hpayload, bind, Except.bind, hversion, readHeaders_eq]
  cases root.child? "put" with
  | none => simp only [required, Option.map_none]
  | some put =>
      cases root.child? "get" <;>
        simp only [required, Option.map_some, Option.map_none, partView]

/-- A slot is read from the views of its parts alone. -/
theorem decode_eq (hroot : parse document = .ok root) (hroot' : parse document' = .ok root')
    (hversion : versionOf root = .ok version) (hxmlns : root'.xmlns = root.xmlns)
    (hparts : partViews version root' = partViews version root) :
    decode document' = decode document := by
  have hversion' : versionOf root' = .ok version := by
    rw [← hversion, versionOf, versionOf, hxmlns]
  rw [decode_eq_ofViews hroot hversion, decode_eq_ofViews hroot' hversion',
    child?_partView (.inl rfl) hparts, child?_partView (.inr rfl) hparts]

/-! ## what does not show -/

section Views

variable {e e' c c' : Element}

theorem partView_addText (h : partView version e' = partView version e) (text : List Char) :
    partView version (e'.addText text) = partView version (e.addText text) := by
  simp only [partView, Prod.mk.injEq] at h ⊢
  obtain ⟨hname, hurl, hheaders⟩ := h
  cases version with
  | current => exact ⟨hname, hurl, hheaders⟩
  | legacy =>
      have htext : e'.text = e.text := by simpa [rawUrl?] using hurl
      exact ⟨hname, by simp [rawUrl?, addText, htext], hheaders⟩

/-- A child is seen only if it is a header. -/
theorem headerViews_addChild (e : Element) : headerViews .current (e.addChild c) =
    headerViews .current e ++ if c.name == "header" then [headerView c] else [] := by
  simp only [headerViews, addChild, List.filter_append, List.map_append]
  by_cases h : c.name == "header" <;> simp [h]

/-- Children that look alike leave the parts looking alike. -/
theorem partView_addChild (h : partView version e' = partView version e)
    (hname : c'.name = c.name) (hchild : headerView c' = headerView c) :
    partView version (e'.addChild c') = partView version (e.addChild c) := by
  simp only [partView, Prod.mk.injEq] at h ⊢
  cases version with
  | legacy => exact h
  | current => exact ⟨h.1, h.2.1, by rw [headerViews_addChild, headerViews_addChild, h.2.2,
      hname, hchild]⟩

theorem partViews_addChild (h : partViews version e' = partViews version e)
    (hchild : partView version c' = partView version c) :
    partViews version (e'.addChild c') = partViews version (e.addChild c) := by
  have hname : c'.name = c.name := congrArg Prod.fst hchild
  have hparts : ∀ (e c : Element), partViews version (e.addChild c) =
      partViews version e ++ if isPart c then [partView version c] else [] := by
    intro e c
    simp only [partViews, addChild, List.filter_append, List.map_append]
    by_cases hc : isPart c <;> simp [hc]
  rw [hparts, hparts, h, hchild, isPart, isPart, hname]

end Views

/-- Payloads are alike when the same is read of them; below the headers nothing is. -/
def likeness (version : Version) : Likeness where
  rel
    | 0, e, e' => e'.xmlns = e.xmlns ∧ partViews version e' = partViews version e
    | 1, e, e' => partView version e' = partView version e
    | 2, e, e' => e'.name = e.name ∧ headerView e' = headerView e
    | _, _, _ => True
  rel_refl n e := by
    match n with
    | 0 | 2 => exact ⟨rfl, rfl⟩
    | 1 => rfl
    | _ + 3 => trivial
  rel_addText {n e e'} h text := by
    match n with
    | 0 => exact h
    | 1 => exact partView_addText h text
    | 2 =>
        refine ⟨h.1, ?_⟩
        have hview := h.2
        simp only [headerView, Prod.mk.injEq] at hview ⊢
        exact ⟨hview.1, by simp [addText, hview.2]⟩
    | _ + 3 => trivial
  rel_addChild {n e e' c c'} h hchild := by
    match n with
    | 0 => exact ⟨h.1, partViews_addChild h.2 hchild⟩
    | 1 => exact partView_addChild h hchild.1 hchild.2
    | 2 => exact h
    | _ + 3 => trivial
  rel_ofTag {n tag inherited inherited' e e'} h h' := by
    obtain ⟨attributes, hattributes, rfl⟩ := exists_of_map_eq_ok h
    obtain ⟨attributes', hattributes', rfl⟩ := exists_of_map_eq_ok h'
    rw [hattributes] at hattributes'
    cases hattributes'
    match n with
    | 0 => cases version <;> rfl
    | 1 => exact ⟨rfl, rfl⟩
    | _ + 2 => trivial

variable {e e₁ e₂ : Element}

/-- A root that has grown by other children looks as before. -/
theorem partViews_grown (h : Grown ["put", "get"] e e₁) :
    partViews version e₁ = partViews version e := by
  obtain ⟨added, hnames, hadded⟩ := h.children
  have hnone : added.filter isPart = [] := by
    rw [List.filter_eq_nil_iff]
    intro c hc
    simpa [isPart] using hnames c hc
  rw [partViews, partViews, hadded, List.filter_append, hnone, List.append_nil]

/-- A part that has grown by other children looks as before. -/
theorem partView_grown (h : Grown ["header"] e e₁) :
    partView .current e₁ = partView .current e := by
  obtain ⟨added, hnames, hadded⟩ := h.children
  have hnone : added.filter (·.name == "header") = [] := by
    rw [List.filter_eq_nil_iff]
    intro c hc
    simpa using hnames c hc
  simp only [partView, rawUrl?, attribute?, headerViews, h.name_eq, h.attributes_eq, hadded,
    List.filter_append, hnone, List.append_nil]

/-- Attributes that are not looked for do not show. -/
theorem rel_sameBut {name : String} (h : SameBut name e e₁)
    (hname : name ∉ ["xmlns", "url", "name"]) (n : Nat) : (likeness version).rel n e e₁ := by
  have hurl : e₁.attribute? "url" = e.attribute? "url" :=
    h.attribute?_eq _ fun he => hname (by simp [← he])
  have hnameAttribute : e₁.attribute? "name" = e.attribute? "name" :=
    h.attribute?_eq _ fun he => hname (by simp [← he])
  match n with
  | 0 => exact ⟨h.xmlns_eq, by simp only [partViews, h.children_eq]⟩
  | 1 =>
      cases version with
      | current =>
          have hheaders : headerViews .current e₁ = headerViews .current e := by
            simp only [headerViews, h.children_eq]
          exact Prod.ext h.name_eq (Prod.ext hurl hheaders)
      | legacy => exact Prod.ext h.name_eq (Prod.ext (congrArg some h.text_eq) rfl)
  | 2 => exact ⟨h.name_eq, Prod.ext hnameAttribute h.text_eq⟩
  | _ + 3 => trivial

/-! ## extensions -/

open Building

/-- A document with more in it: fillers between the children of the root, or in the current
schema of an element in the root such as `put`, or an attribute more in a tag.  A place
between children is one that the reader comes to with the elements around it open. -/
inductive Extends (document : String) : String → Prop
  | inRoot {x y : List Char} {opened : List (List Char)} {top : Element} {fillers : List Filler} :
    document.toList = x ++ y → Reaches (start document) ⟨⟨y, opened⟩, [top]⟩ →
    (∀ f ∈ fillers, f.Fits ["put", "get"]) →
    Extends document (String.ofList (x ++ (fillers.flatMap Filler.text ++ y)))
  | inPart {x y : List Char} {opened : List (List Char)} {part top root : Element}
    {fillers : List Filler} :
    parse document = .ok root → versionOf root = .ok .current →
    document.toList = x ++ y → Reaches (start document) ⟨⟨y, opened⟩, [part, top]⟩ →
    (∀ f ∈ fillers, f.Fits ["header"]) →
    Extends document (String.ofList (x ++ (fillers.flatMap Filler.text ++ y)))
  | inTag {x rest : List Char} {opened opened' : List (List Char)} {stack : List Element}
    {p : Tag.Place} {closes : Bool} {w : Attribute.Written} :
    document.toList = x ++ (p.tag.text closes ++ rest) →
    Reaches (start document) ⟨⟨p.tag.text closes ++ rest, opened⟩, stack⟩ →
    Reader.next ⟨p.tag.text closes ++ rest, opened⟩ =
      .ok (p.tag.event closes, ⟨rest, opened'⟩) →
    p.Fits ["xmlns", "url", "name"] w →
    Extends document (String.ofList (x ++ ((p.insert w).text closes ++ rest)))

/-- A slot was read from a document of a known version. -/
theorem exists_root_of_decode {slot : Slot} (h : decode document = .ok slot) :
    ∃ root version, parse document = .ok root ∧ versionOf root = .ok version := by
  unfold decode Payload.root at h
  cases hroot : parse document with
  | error e => simp [hroot, bind, Except.bind, Except.mapError] at h
  | ok root =>
      cases hversion : versionOf root with
      | error e => simp [hroot, hversion, bind, Except.bind, Except.mapError] at h
      | ok version => exact ⟨root, version, rfl, hversion⟩

/-- What a document is extended by does not show. -/
theorem Extends.decode_eq {slot : Slot} (h : Extends document document')
    (hslot : decode document = .ok slot) : decode document' = decode document := by
  obtain ⟨root, version, hroot, hversion⟩ := exists_root_of_decode hslot
  cases h with
  | inRoot hdocument hplace hfits =>
      obtain ⟨root', hroot', hxmlns, hparts⟩ := Likeness.exists_parse_fillers
        (likeness version) hroot hdocument hplace hfits fun e e₁ e₂ h₁ h₂ =>
          ⟨h₂.xmlns_eq.trans h₁.xmlns_eq.symm,
            (partViews_grown h₂).trans (partViews_grown h₁).symm⟩
      exact Slot.decode_eq hroot hroot' hversion hxmlns hparts
  | inPart hroot₁ hversion₁ hdocument hplace hfits =>
      rw [hroot] at hroot₁
      cases hroot₁
      obtain ⟨root', hroot', hxmlns, hparts⟩ := Likeness.exists_parse_fillers
        (likeness .current) hroot hdocument hplace hfits fun e e₁ e₂ h₁ h₂ =>
          (partView_grown h₂).trans (partView_grown h₁).symm
      exact Slot.decode_eq hroot hroot' hversion₁ hxmlns hparts
  | @inTag _ _ _ _ _ _ _ w hdocument hplace hnext hfits =>
      have hxmlns : String.ofList w.name ≠ "xmlns" := fun he => hfits.name_not_mem (by simp [he])
      obtain ⟨root', hroot', hns, hparts⟩ := Likeness.exists_parse_insert
        (likeness version) hroot hdocument hplace (Tag.isRead_of_next hnext) hfits hxmlns
          fun n e e' hsame => rel_sameBut hsame hfits.name_not_mem n
      exact Slot.decode_eq hroot hroot' hversion hns hparts

/-- **A slot that is read from a document is read from it with any extensions.** -/
theorem decode_extended {slot : Slot} (h : decode document = .ok slot)
    (hextends : Relation.ReflTransGen Extends document document') :
    decode document' = .ok slot := by
  induction hextends with
  | refl => exact h
  | tail _ hextends ih => exact (hextends.decode_eq ih).trans ih

/-- The fields of a slot in the current schema. -/
def slotFields : Fields := { list := [xmlns .current], nodup := List.nodup_singleton _ }

/-- The start tag of a slot in the current schema. -/
def opening : List Char := '<' :: (Tag.write slotName slotFields ++ ['>'])

/-- What follows the start tag of a slot in the current schema. -/
def parts (s : Slot) : List Char :=
  Markup.writeAll [s.putMarkup, s.getMarkup] ++ '<' :: '/' :: (slotName.chars ++ ['>'])

/-- A written slot may have fillers before its parts. -/
theorem extends_encode (s : Slot) {fillers : List Filler}
    (hfits : ∀ f ∈ fillers, f.Fits ["put", "get"]) :
    Extends (s.encode .current)
      (String.ofList (opening ++ (fillers.flatMap Filler.text ++ s.parts))) := by
  have hdocument : (s.encode .current).toList = opening ++ s.parts := by
    rw [toList_encode, markup, Markup.write]
    simp [opening, slotFields, parts, escape]
  have hstart : start (s.encode .current) =
      ⟨⟨'<' :: (Tag.write slotName slotFields ++ '>' :: s.parts), []⟩, []⟩ := by
    rw [start, Reader.ofString, hdocument]
    simp [opening]
  have hplace := moves_opened slotName slotFields s.parts [] []
  rw [← hstart] at hplace
  exact .inRoot hdocument (.single hplace) hfits

/-- The place after the name of a root tag in the current schema. -/
def openingPlace : Tag.Place :=
  { name := slotName.chars, front := [], back := slotFields.write }

/-- A document that starts with that tag may have another attribute in it. -/
theorem extends_opening {w : Attribute.Written} {rest : List Char}
    (hdocument : document.toList = opening ++ rest)
    (hfits : openingPlace.Fits ["xmlns", "url", "name"] w) :
    Extends document (String.ofList ((openingPlace.insert w).text false ++ rest)) := by
  have hopening : opening ++ rest = openingPlace.tag.text false ++ rest := by
    simp [opening, openingPlace, Tag.Place.tag, Tag.Place.before, Tag.text, Tag.content, Tag.write]
  have hstart : start document = ⟨⟨openingPlace.tag.text false ++ rest, []⟩, []⟩ := by
    rw [start, Reader.ofString, hdocument, hopening]
    rfl
  have hnext : Reader.next ⟨openingPlace.tag.text false ++ rest, []⟩ =
      .ok (openingPlace.tag.event false, ⟨rest, [slotName.chars]⟩) := by
    rw [← hopening, opening, List.cons_append, List.append_assoc]
    exact Reader.next_opened slotName _
  have hplace : Reaches (start document) ⟨⟨openingPlace.tag.text false ++ rest, []⟩, []⟩ :=
    hstart ▸ .refl
  exact .inTag (x := []) (hdocument.trans hopening) hplace hnext hfits

/-- A slot with another attribute in its root tag, and a filler of each kind after it. -/
theorem decode_extended_note :
    let slot : Slot := { putUrl := .loopback, getUrl := .loopback }
    let fillers : List Filler := [.blank [' '], .comment ['o', 'k'], .instruction ['x'],
      .element ['<', 'j', 'u', 'n', 'k', '/', '>']]
    let w : Attribute.Written := { lead := [' '], first := 'i', more := ['d'], value := ['1'] }
    let document := String.ofList ((openingPlace.insert w).text false ++
      (fillers.flatMap Filler.text ++ slot.parts))
    decode (slot.encode .current) = .ok slot ∧
      Relation.ReflTransGen Extends (slot.encode .current) document ∧
      decode document = .ok slot := by
  intro slot fillers w document
  have hslot : decode (slot.encode .current) = .ok slot :=
    decode_encode Url.parse_loopback Url.parse_loopback (by decide)
  have hfits : ∀ f ∈ fillers, f.Fits ["put", "get"] := by
    intro f hf
    simp only [fillers, List.mem_cons, List.not_mem_nil, or_false] at hf
    rcases hf with rfl | rfl | rfl | rfl
    · show ∀ c ∈ [' '], Text.isBlank c
      simp [Text.isBlank]
    · show ¬ ['-', '-', '>'] <:+: ['o', 'k']
      decide
    · show ['x'] ≠ [] ∧ '>' ∉ ['x']
      decide
    · have hnew : "junk" ∉ ["put", "get"] := by decide
      exact Filler.fits_closed { text := "junk" } hnew
  have hattribute : openingPlace.Fits ["xmlns", "url", "name"] w := by
    have hread : openingPlace.tag.attributes =
        .ok (Fields.toAttributes [xmlns .current]) := Tag.attributes_eq slotName _
    have hname : Tag.NoQuotes w.name := by
      simp [Tag.NoQuotes, w, Attribute.Written.name]
    have hvalue : Resolved w.value ['1'] := .of_forall (by simp [w])
    have hinside : Inside (openingPlace.name ++ openingPlace.before) :=
      Tag.Place.inside_before (Tag.noQuotes_chars slotName) (by simp [openingPlace])
    refine ⟨by decide, hname, by decide, fun list h => ?_, ⟨['1'], hvalue⟩, hinside⟩
    rw [hread] at h
    cases h
    decide
  have hextends : Relation.ReflTransGen Extends (slot.encode .current) document :=
    (Relation.ReflTransGen.single (extends_encode slot hfits)).tail
      (extends_opening (String.toList_ofList) hattribute)
  exact ⟨hslot, hextends, decode_extended hslot hextends⟩

/-- Not everything that a document might be extended by is read: not an instruction that
holds a `>`, not an element whose last tag is left open, not a reference with more than six
digits, and not an attribute after a name that opens a quote. -/
theorem decode_not_extended :
    let url : Url := { scheme := "a", authority := none, path := .text "" }
    let slot : Slot := { putUrl := url, getUrl := url }
    (decode "<slot xmlns='urn:xmpp:http:upload:0'><put url='a:'/><get url='a:'/></slot>" =
        .ok slot ∧
      decode "<slot xmlns='urn:xmpp:http:upload:0'><?x a>b?><put url='a:'/><get url='a:'/></slot>" ≠
        .ok slot ∧
      decode
          "<slot xmlns='urn:xmpp:http:upload:0'><junk></junk<put url='a:'/><get url='a:'/></slot>" ≠
        .ok slot ∧
      Finishes (start "<junk></junk") { name := "junk", xmlns := none } [] ∧
      decode ("<slot a='&#x0000041;' xmlns='urn:xmpp:http:upload:0'>" ++
          "<put url='a:'/><get url='a:'/></slot>") ≠ .ok slot) ∧
    decode "<slot' b'='v' xmlns='urn:xmpp:http:upload:0'><put url='a:'/><get url='a:'/></slot'>" =
        .ok slot ∧
      decode ("<slot' a='>' b'='v' xmlns='urn:xmpp:http:upload:0'>" ++
          "<put url='a:'/><get url='a:'/></slot'>") ≠ .ok slot := by
  have hstart : start "<junk></junk" = ⟨⟨'<' :: (Tag.write { text := "junk" } {} ++
      '>' :: "</junk".toList), []⟩, []⟩ := congrArg (Building.mk · []) (by decide +kernel)
  have hjunk : Finishes (start "<junk></junk") { name := "junk", xmlns := none } [] := by
    have hfinish : Reader.next ⟨"</junk".toList, [Name.chars { text := "junk" }]⟩ =
        .ok (.finish, ⟨[], []⟩) := by decide +kernel
    have hlast : Finishes ⟨⟨"</junk".toList, [Name.chars { text := "junk" }]⟩,
        [{ name := "junk", xmlns := none }]⟩ { name := "junk", xmlns := none }
          (Reader.rest ⟨[], []⟩) := .done hfinish rfl
    rw [hstart]
    exact .move (moves_opened _ _ _ _ _) hlast
  refine ⟨⟨?_, ?_, ?_, hjunk, ?_⟩, ?_, ?_⟩ <;> decide +kernel

end SlotUpload.Slot
