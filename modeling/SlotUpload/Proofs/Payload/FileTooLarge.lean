import SlotUpload.Payload.FileTooLarge
import SlotUpload.Proofs.Payload.Markup
import SlotUpload.Proofs.Xml.Order

/-!
# SlotUpload.Proofs.Payload.FileTooLarge

Errors that a file is too large, wherever they stand in an error reply.  The reply is
searched in document order, so that an error that is placed in it is read as it was
written, unless another one starts before it.  There is none exactly if no element at any
depth is one by its name and its namespace, be that declared or inherited
(`decode_placed_or_none`).
-/

namespace SlotUpload.FileTooLarge

open Xml Xml.Element Xml.Element.Building Payload

/-! ## what is looked for -/

/-- Is the element such an error, of one of the two schemata? -/
def IsOne (e : Element) : Prop :=
  e.name = "file-too-large" ∧ ∃ version : Version, e.xmlns = some version.namespaceName

/-- A namespace is known if a version has it. -/
theorem ofNamespace?_isSome_iff {name : String} :
    (Version.ofNamespace? name).isSome ↔ ∃ version : Version, name = version.namespaceName := by
  constructor
  · intro h
    unfold Version.ofNamespace? at h
    split at h
    · next hname => exact ⟨.current, hname⟩
    · split at h
      · next hname => exact ⟨.legacy, hname⟩
      · contradiction
  · rintro ⟨version, rfl⟩
    rw [Version.ofNamespace?_namespaceName]
    rfl

/-- What the search for an error looks for. -/
theorem isOne_iff {e : Element} : isOne e = true ↔ IsOne e := by
  unfold isOne IsOne
  rw [Bool.and_eq_true, beq_iff_eq]
  cases e.xmlns with
  | none => simp
  | some name => simp [ofNamespace?_isSome_iff]

theorem isOne_eq_false_iff {e : Element} : isOne e = false ↔ ¬ IsOne e := by
  rw [← isOne_iff, Bool.not_eq_true]

/-- An element is one by its name and its namespace alone. -/
theorem ofHead_isOne : OfHead isOne := by
  intro e e' hname hxmlns
  rw [isOne, isOne, hname, hxmlns]

/-! ## errors as trees -/

def errorName : Name := { text := "file-too-large" }

def limitName : Name := { text := "max-file-size" }

/-- The tree of an error. -/
def markup (limit : FileTooLarge) : Markup :=
  .opened errorName { list := [Payload.xmlns limit.version] } ""
    [textMarkup limitName (number limit.maxFileSize)]

/-- An error is written as its tree. -/
theorem toList_encode (limit : FileTooLarge) : limit.encode.toList = limit.markup.write := by
  have hlimit : (textElement "max-file-size" (number limit.maxFileSize)).toList =
      (textMarkup limitName (number limit.maxFileSize)).write :=
    (write_textMarkup limitName (number limit.maxFileSize)).symm
  have hnamespace : escape limit.version.namespaceName.toList =
      limit.version.namespaceName.toList := by
    cases limit.version <;> decide
  unfold encode
  simp only [String.toList_append, hlimit, markup, Markup.write, Markup.writeAll, Payload.xmlns,
    Tag.write_single, hnamespace, List.append_assoc, List.cons_append]
  rfl

/-- The tree of an error declares its namespace, so that it is one wherever it stands. -/
theorem isOne_markup (limit : FileTooLarge) (inherited : Option String) :
    isOne (limit.markup.element inherited) = true :=
  isOne_iff.2 ⟨rfl, limit.version, rfl⟩

theorem child?_markup (limit : FileTooLarge) (inherited : Option String) :
    ((limit.markup.element inherited).child? "max-file-size").map (·.text) =
      some (number limit.maxFileSize) :=
  congrArg some (kept_number limit.maxFileSize)

/-! ## reading -/

variable {document : String} {root : Element}

/-- The first error in a reply is read as it was written. -/
theorem decode_of_find? {limit : FileTooLarge} {inherited : Option String}
    (hroot : parse document = .ok root)
    (hfind : root.find? isOne = some (limit.markup.element inherited)) :
    decode document = .ok (some limit) := by
  have hpayload : Payload.root document = .ok root := root_eq_ok_iff.2 hroot
  have hversion : versionOf (limit.markup.element inherited) = .ok limit.version :=
    versionOf_eq rfl
  unfold decode
  simp only [hpayload, bind, Except.bind, hfind, hversion, child?_markup, readNumber_number]
  rfl

/-- Nothing is told exactly if nothing is found. -/
theorem decode_eq_none_iff (hroot : parse document = .ok root) :
    decode document = .ok none ↔ root.find? isOne = none := by
  have hpayload : Payload.root document = .ok root := root_eq_ok_iff.2 hroot
  unfold decode
  simp only [hpayload, bind, Except.bind]
  cases root.find? isOne with
  | none => simp [pure, Except.pure]
  | some found =>
      simp only [reduceCtorEq, iff_false]
      cases versionOf found with
      | error e => simp
      | ok version =>
          simp only
          cases readNumber "max-file-size" ((found.child? "max-file-size").map (·.text)) with
          | error e => simp
          | ok n => simp [pure, Except.pure]

/-- **Errors are found wherever they stand.**  In every document that can be read, an error
that is placed between child nodes, at any depth, is read as it was written, if no other
one starts before it; and no error is read from a document exactly if there is none in it
at any depth. -/
theorem decode_placed_or_none :
    (∀ (limit : FileTooLarge) (document : String) (root top : Element) (stack : List Element)
      (u v : List Char) (opened : List (List Char)),
      parse document = .ok root → document.toList = u ++ v →
      Reaches (start document) ⟨⟨v, opened⟩, top :: stack⟩ →
      (∀ e ∈ started (top :: stack), ¬ IsOne e) →
      decode (String.ofList (u ++ (limit.encode.toList ++ v))) = .ok (some limit)) ∧
    ∀ (document : String) (root : Element), parse document = .ok root →
      (decode document = .ok none ↔ ∀ e ∈ root.inOrder, ¬ IsOne e) := by
  constructor
  · intro limit document root top stack u v opened hroot hdocument hplace hfirst
    have hfirst : ∀ e ∈ started (top :: stack), isOne e = false := fun e he =>
      isOne_eq_false_iff.2 (hfirst e he)
    obtain ⟨root', hroot', hfind⟩ := exists_parse_found ofHead_isOne hroot hdocument hplace
      (isOne_markup limit top.xmlns) hfirst
    rw [toList_encode]
    exact decode_of_find? hroot' hfind
  · intro document root hroot
    rw [decode_eq_none_iff hroot, find?_eq_none_iff]
    exact forall₂_congr fun e _ => isOne_eq_false_iff

/-- An error after the child of an error reply, which tells of none without it. -/
theorem decode_placed_or_none_refusal :
    let limit : FileTooLarge := { version := .legacy, maxFileSize := 20000 }
    let u := ("<error type='modify'>" ++
      "<not-acceptable xmlns='urn:ietf:params:xml:ns:xmpp-stanzas'/>").toList
    let v := "</error>".toList
    decode (String.ofList (u ++ v)) = .ok none ∧
      decode (String.ofList (u ++ (limit.encode.toList ++ v))) = .ok (some limit) := by
  intro limit u v
  let reply : Name := { text := "error" }
  let replyFields : Fields := { list := [({ text := "type" }, "modify")] }
  let condition : Name := { text := "not-acceptable" }
  let conditionFields : Fields :=
    { list := [({ text := "xmlns" }, "urn:ietf:params:xml:ns:xmpp-stanzas")] }
  let root := (Markup.opened reply replyFields "" [.closed condition conditionFields]).element none
  have hstart : start (String.ofList (u ++ v)) = ⟨⟨'<' :: (Tag.write reply replyFields ++
      '>' :: '<' :: (Tag.write condition conditionFields ++ '/' :: '>' :: v)), []⟩, []⟩ :=
    congrArg (Building.mk · []) (by decide +kernel)
  have hroot : parse (String.ofList (u ++ v)) = .ok root := by
    rw [← parse_write _ []]
    exact congrArg parse (by decide +kernel)
  have hplace : Reaches (start (String.ofList (u ++ v))) ⟨⟨v, [reply.chars]⟩, [root]⟩ := by
    rw [hstart]
    exact .tail (.single (moves_opened reply replyFields _ [] []))
      (moves_closed condition conditionFields v _ _ _)
  have hnone : ∀ e ∈ root.inOrder, ¬ IsOne e := by
    intro e he
    have horder : root.inOrder = [root, Markup.opening condition conditionFields none] := rfl
    rw [horder, List.mem_pair] at he
    rcases he with rfl | rfl <;> exact isOne_eq_false_iff.1 (by decide)
  have hfirst : ∀ e ∈ started [root], ¬ IsOne e := by
    simpa [started] using hnone
  exact ⟨(decode_placed_or_none.2 _ root hroot).2 hnone,
    decode_placed_or_none.1 limit _ root root [] u v _ hroot (by simp) hplace hfirst⟩

end SlotUpload.FileTooLarge
