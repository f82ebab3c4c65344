import Mathlib.Logic.Relation
import SlotUpload.Proofs.Xml.Piece

/-!
# SlotUpload.Proofs.Xml.Reading

How a reader comes to a place in a document.  It takes steps, one for each piece
(`Moves`), until the root element is complete (`Finishes`).  What stands before a place
decides alone with which open elements the reader comes there, so any other text can be
put after it (`exists_before`); only a text right before the place may go on.
-/

namespace SlotUpload.Xml.Element

/-- A tag opens an element of the same name wherever it stands. -/
theorem exists_of_ofTag {tag : Tag} {inherited : Option String} {e : Element}
    (h : ofTag tag inherited = .ok e) (inherited' : Option String) :
    ∃ e', ofTag tag inherited' = .ok e' ∧ e'.name = e.name := by
  obtain ⟨attributes, hattributes, rfl⟩ := exists_of_map_eq_ok h
  rw [ofTag, hattributes]
  exact ⟨_, rfl, rfl⟩

namespace Building

variable {opened opened' : List (List Char)} {stack stack' : List Element}
  {s x y rest : List Char} {b b' : Building}

/-- The open elements after a text; a text of blanks changes nothing. -/
def takeText (s : List Char) (stack : List Element) : List Element :=
  match unescape s with
  | .error _ => stack
  | .ok text => if Text.allBlank text then stack else onTop (·.addText text) stack

@[simp] theorem takeText_nil (stack : List Element) : takeText [] stack = stack := by
  have hnil : unescape [] = .ok [] := by simp [unescape, unescapeFrom]
  simp [takeText, hnil, Text.allBlank]

/-- Where nothing is open, a text is dropped. -/
@[simp] theorem takeText_of_nil (s : List Char) : takeText s [] = [] := by
  unfold takeText
  split
  · rfl
  · split <;> rfl

/-- A text that can be read is taken. -/
theorem take_text (h : IsText s) (b : Building) (reader : Reader) :
    b.take (.text s) reader = .ok (.inr ⟨reader, takeText s b.stack⟩) := by
  obtain ⟨a, ha⟩ := h.resolved
  have hread : unescape s = .ok a := Resolved.unescape_eq_ok_iff.2 ha
  simp only [take, takeText, hread]
  split <;> rfl

/-- A text is taken in, or the document is at fault. -/
theorem isText_of_take {reader : Reader} {result : Element ⊕ Building} (hs : '<' ∉ s)
    (h : b.take (.text s) reader = .ok result) :
    IsText s ∧ result = .inr ⟨reader, takeText s b.stack⟩ := by
  have htext : IsText s := by
    refine ⟨hs, ?_⟩
    simp only [take] at h
    split at h
    · contradiction
    · next a ha => exact ⟨a, Resolved.unescape_eq_ok_iff.1 ha⟩
  rw [take_text htext] at h
  cases h
  exact ⟨htext, rfl⟩

/-- A text ends where markup begins. -/
theorem next_isText (h : '<' ∉ s) (hne : s ≠ []) (hrest : ∀ c ∈ rest.head?, c = '<') :
    Reader.next ⟨s ++ rest, opened⟩ = .ok (.text s, ⟨rest, opened⟩) := by
  obtain ⟨c, cs, rfl⟩ := List.exists_cons_of_ne_nil hne
  have hc : c ≠ '<' := fun he => h (he ▸ List.mem_cons_self)
  have hgo : ∀ d ∈ c :: cs, (d != '<') = true := fun d hd => by
    simpa using fun he : d = '<' => h (he ▸ hd)
  have hstop : rest.takeWhile (· != '<') = [] ∧ rest.dropWhile (· != '<') = rest := by
    cases rest with
    | nil => simp
    | cons d rest => simp [hrest d rfl]
  rw [List.cons_append, Reader.next_of_ne hc, ← List.cons_append,
    List.takeWhile_append_of_pos hgo, List.dropWhile_append_of_pos hgo, hstop.1, hstop.2,
    List.append_nil]

/-- A step that leaves the tree unfinished. -/
def Moves (b b' : Building) : Prop := b.step = .ok (.inr b')

/-- Any number of such steps. -/
abbrev Reaches : Building → Building → Prop := Relation.ReflTransGen Moves

theorem Moves.run_eq (h : b.Moves b') : b.run = b'.run := run_of_step h

/-- Where the reading has come to makes no difference to its end. -/
theorem Reaches.run_eq (h : b.Reaches b') : b.run = b'.run := by
  induction h with
  | refl => rfl
  | tail _ h ih => exact ih.trans h.run_eq

theorem moves_text (h : IsText s) (hne : s ≠ []) (hrest : ∀ c ∈ rest.head?, c = '<') :
    Moves ⟨⟨s ++ rest, opened⟩, stack⟩ ⟨⟨rest, opened⟩, takeText s stack⟩ := by
  rw [Moves, step_of_next (next_isText h.no_markup hne hrest), take_text h]

/-- A written start tag opens its element. -/
theorem moves_opened (name : Name) (fields : Fields) (rest : List Char)
    (opened : List (List Char)) (stack : List Element) :
    Moves ⟨⟨'<' :: (Tag.write name fields ++ '>' :: rest), opened⟩, stack⟩
      ⟨⟨rest, name.chars :: opened⟩,
        Markup.opening name fields (stack.head?.bind (·.xmlns)) :: stack⟩ := by
  rw [Moves, step_of_next (Reader.next_opened name fields), take, ofTag_opening]
  rfl

/-- A written tag that closes itself is a child of the element around it. -/
theorem moves_closed (name : Name) (fields : Fields) (rest : List Char)
    (opened : List (List Char)) (top : Element) (stack : List Element) :
    Moves ⟨⟨'<' :: (Tag.write name fields ++ '/' :: '>' :: rest), opened⟩, top :: stack⟩
      ⟨⟨rest, opened⟩, top.addChild (Markup.opening name fields top.xmlns) :: stack⟩ := by
  rw [Moves, step_of_next (Reader.next_closed name fields), take, inherited, ofTag_opening]
  rfl

/-- A text before markup is taken in; it may be empty. -/
theorem run_isText (h : IsText s) (rest : List Char) :
    run ⟨⟨s ++ '<' :: rest, opened⟩, stack⟩ =
      run ⟨⟨'<' :: rest, opened⟩, takeText s stack⟩ := by
  by_cases hs : s = []
  · simp [hs]
  · exact (moves_text h hs (by simp)).run_eq

theorem attach_eq_inr {reader : Reader} {done : Element}
    (h : attach reader done stack = .inr b) (reader' : Reader) :
    attach reader' done stack = .inr ⟨reader', b.stack⟩ := by
  cases stack with
  | nil => contradiction
  | cons parent stack => cases h; rfl

/-- What an event does to the open elements does not depend on the reader after it. -/
theorem take_eq_inr {event : Event} {reader : Reader} (h : b.take event reader = .ok (.inr b'))
    (reader₁ reader₂ : Reader) :
    take ⟨reader₁, b.stack⟩ event reader₂ = .ok (.inr ⟨reader₂, b'.stack⟩) := by
  cases event with
  | start tag =>
      obtain ⟨e, he, heq⟩ := exists_of_map_eq_ok h
      cases heq
      simp only [take, inherited] at he ⊢
      rw [he]
      rfl
  | empty tag =>
      obtain ⟨e, he, heq⟩ := exists_of_map_eq_ok h
      simp only [take, inherited] at he ⊢
      rw [he, Except.map, attach_eq_inr heq.symm]
  | text raw =>
      simp only [take] at h ⊢
      split at h
      · contradiction
      · split at h <;> cases h <;> simp_all
  | cdata content => cases h; rfl
  | finish =>
      simp only [take] at h ⊢
      cases hstack : b.stack with
      | nil => simp [hstack] at h
      | cons done stack =>
          simp only [hstack, Except.ok.injEq] at h ⊢
          exact attach_eq_inr h _
  | remark => cases h; rfl
  | endOfInput => contradiction

/-- Only the last open element is given as the root. -/
theorem attach_eq_inl_iff {reader : Reader} {done root : Element} :
    attach reader done stack = .inl root ↔ stack = [] ∧ done = root := by
  cases stack with
  | nil => simp [attach]
  | cons parent stack => simp [attach]

/-- The root is complete with the end tag of an element that is open alone, or with a tag
that closes itself where nothing is open. -/
theorem take_eq_inl_iff {event : Event} {reader : Reader} {root : Element} :
    b.take event reader = .ok (.inl root) ↔
      event = .finish ∧ b.stack = [root] ∨
        ∃ tag, event = .empty tag ∧ b.stack = [] ∧ ofTag tag none = .ok root := by
  constructor
  · intro h
    cases event with
    | start tag =>
        obtain ⟨e, -, heq⟩ := exists_of_map_eq_ok h
        cases heq
    | empty tag =>
        obtain ⟨e, he, heq⟩ := exists_of_map_eq_ok h
        obtain ⟨hstack, rfl⟩ := attach_eq_inl_iff.1 heq.symm
        rw [inherited, hstack] at he
        exact .inr ⟨tag, rfl, hstack, he⟩
    | text raw =>
        simp only [take] at h
        split at h
        · contradiction
        · split at h <;> cases h
    | finish =>
        simp only [take] at h
        split at h
        · contradiction
        · next done stack hstack =>
            obtain ⟨rfl, rfl⟩ := attach_eq_inl_iff.1 (Except.ok.inj h)
            exact .inl ⟨rfl, hstack⟩
    | cdata content | remark | endOfInput => cases h
  · rintro (⟨rfl, hstack⟩ | ⟨tag, rfl, hstack, htag⟩)
    · rw [take, hstack]
      rfl
    · rw [take, inherited, hstack, List.head?_nil, Option.bind_none, htag]
      rfl

/-- A step takes in a text, or else it is the same whatever follows. -/
theorem Moves.cases (h : Moves ⟨⟨s, opened⟩, stack⟩ ⟨⟨rest, opened'⟩, stack'⟩)
    (hrest : rest ≠ []) : ∃ p, s = p ++ rest ∧
      ((∀ rest, Moves ⟨⟨p ++ rest, opened⟩, stack⟩ ⟨⟨rest, opened'⟩, stack'⟩) ∨
        IsText p ∧ opened' = opened ∧ stack' = takeText p stack ∧ ∀ c ∈ rest.head?, c = '<') := by
  obtain ⟨event, reader, hnext, htake⟩ := exists_next_of_step h
  obtain ⟨hreader, -⟩ := take_reader htake
  subst hreader
  obtain ⟨p, rfl, hp | ⟨rfl, rfl, hne, hno, hhead⟩⟩ := Reader.next_cases hnext (.inl hrest)
  · refine ⟨p, rfl, .inl fun rest => ?_⟩
    have hpiece := hp rest []
    simp only [List.append_nil] at hpiece
    rw [Moves, step_of_next hpiece]
    exact take_eq_inr htake _ _
  · obtain ⟨htext, heq⟩ := isText_of_take hno htake
    cases heq
    exact ⟨p, rfl, .inr ⟨htext, rfl, rfl, hhead⟩⟩

theorem Moves.suffix (h : Moves b b') : b'.reader.rest <:+ b.reader.rest := by
  obtain ⟨⟨rest, opened'⟩, stack'⟩ := b'
  by_cases hrest : rest = []
  · simp [hrest]
  · obtain ⟨p, hp, -⟩ := Moves.cases h hrest
    exact ⟨p, hp.symm⟩

/-- What is left to read is the end of what there was. -/
theorem Reaches.suffix (h : Reaches b b') : b'.reader.rest <:+ b.reader.rest := by
  induction h with
  | refl => exact List.suffix_rfl
  | tail _ h ih => exact h.suffix.trans ih

/-- The reader does not stand still. -/
theorem Reaches.eq_of_rest_eq (h : Reaches b b') (hrest : b.reader.rest = b'.reader.rest) :
    b = b' := by
  rcases Relation.ReflTransGen.cases_head h with rfl | ⟨b₁, hmove, hreach⟩
  · rfl
  · have hlt := step_length hmove
    have hle := (Reaches.suffix hreach).length_le
    rw [hrest] at hlt
    omega

/-- **What is read before some place decides alone how the reader comes there**: up to
a text that may stand right before it, and of which more may be read. -/
theorem exists_before {b : Building} (h : Reaches b ⟨⟨y, opened'⟩, stack'⟩) (hy : y ≠ [])
    (hx : b.reader.rest = x ++ y) : ∃ before text stack₁, x = before ++ text ∧ IsText text ∧
      (text = [] ∨ ∀ c ∈ y.head?, c = '<') ∧ stack' = takeText text stack₁ ∧
      ∀ rest, run ⟨⟨before ++ rest, b.reader.opened⟩, b.stack⟩ =
        run ⟨⟨rest, opened'⟩, stack₁⟩ := by
  induction h using Relation.ReflTransGen.head_induction_on generalizing x with
  | refl =>
      have hnil : x = [] := by simpa using hx.symm
      exact ⟨[], [], stack', hnil, .nil, .inl rfl, by simp, fun rest => rfl⟩
  | @head b b₁ hmove hreach ih =>
      obtain ⟨x₁, hx₁⟩ := Reaches.suffix hreach
      have hne : b₁.reader.rest ≠ [] := by simp [← hx₁, hy]
      obtain ⟨p, hp, hcases⟩ := Moves.cases hmove hne
      obtain ⟨before, text, stack₁, rfl, htext, hstop, hstack, hrun⟩ := ih hx₁.symm
      have hsplit : x = p ++ (before ++ text) := by
        rw [hx, ← hx₁, ← List.append_assoc] at hp
        exact List.append_cancel_right hp
      rcases hcases with hpiece | ⟨hisText, hopened, hstack₁, hhead⟩
      · refine ⟨p ++ before, text, stack₁, by simp [hsplit], htext, hstop, hstack, ?_⟩
        intro rest
        rw [List.append_assoc, (hpiece (before ++ rest)).run_eq]
        exact hrun rest
      · -- markup follows the text: it is what comes next before the place, or at it
        cases before with
        | nil =>
            have hnil : text = [] := by
              cases text with
              | nil => rfl
              | cons c text =>
                  have hc : c = '<' := hhead c (by simp [← hx₁])
                  exact absurd (by simp [hc]) htext.no_markup
            subst hnil
            obtain rfl := Reaches.eq_of_rest_eq hreach hx₁.symm
            simp only [takeText_nil] at hstack
            refine ⟨[], p, b.stack, by simpa using hsplit, hisText, .inr ?_, hstack₁, ?_⟩
            · exact hhead
            · intro rest
              have hopened : opened' = b.reader.opened := hopened
              rw [hopened]
              rfl
        | cons c before =>
            have hc : c = '<' := hhead c (by simp [← hx₁])
            subst hc
            refine ⟨p ++ '<' :: before, text, stack₁, by simp [hsplit], htext, hstop, hstack, ?_⟩
            intro rest
            rw [List.append_assoc, List.cons_append, run_isText hisText, ← hopened, ← hstack₁,
              ← List.cons_append]
            exact hrun rest

/-! ## complete trees -/

/-- Reading goes on to a complete tree; `rest` is what follows it. -/
inductive Finishes : Building → Element → List Char → Prop
  | done {b : Building} {event : Event} {reader : Reader} {root : Element} :
    b.reader.next = .ok (event, reader) → b.take event reader = .ok (.inl root) →
    Finishes b root reader.rest
  | move {b b' : Building} {root : Element} {rest : List Char} :
    Moves b b' → Finishes b' root rest → Finishes b root rest

variable {root : Element}

/-- A reading that gives a root finishes somewhere. -/
theorem exists_finishes (h : b.run = .ok root) : ∃ rest, Finishes b root rest := by
  induction hn : b.reader.rest.length using Nat.strongRecOn generalizing b with
  | _ n ih =>
    subst hn
    cases hstep : b.step with
    | error e =>
        rw [run] at h
        split at h <;> simp_all
    | ok result =>
        rw [run_of_step hstep] at h
        cases result with
        | inl root' =>
            cases h
            obtain ⟨event, reader, hnext, htake⟩ := exists_next_of_step hstep
            exact ⟨_, .done hnext htake⟩
        | inr b' =>
            obtain ⟨rest, hrest⟩ := ih _ (step_length hstep) h rfl
            exact ⟨rest, .move hstep hrest⟩

theorem Finishes.exists_last (h : Finishes b root rest) :
    ∃ b', Reaches b b' ∧ b'.step = .ok (.inl root) := by
  induction h with
  | @done b _ _ _ hnext htake => exact ⟨b, .refl, (step_of_next hnext).trans htake⟩
  | move hmove _ ih =>
      obtain ⟨b', hreach, hstep⟩ := ih
      exact ⟨b', .head hmove hreach, hstep⟩

/-- There is one way only. -/
theorem Finishes.of_moves (h : Finishes b root rest) (hmove : Moves b b') :
    Finishes b' root rest := by
  cases h with
  | done hnext htake =>
      rw [Moves, step_of_next hnext, htake] at hmove
      cases hmove
  | move hmove' h =>
      rw [Moves, hmove'] at hmove
      cases hmove
      exact h

theorem Finishes.of_reaches (h : Finishes b root rest) (hreach : Reaches b b') :
    Finishes b' root rest := by
  induction hreach with
  | refl => exact h
  | tail _ hmove ih => exact ih.of_moves hmove

/-- There is something to read before the end. -/
theorem Finishes.rest_ne_nil (h : Finishes b root rest) : b.reader.rest ≠ [] := by
  intro hnil
  have hnext : b.reader.next = .ok (.endOfInput, b.reader) := by simp [Reader.next, hnil]
  cases h with
  | done hnext' htake =>
      rw [hnext] at hnext'
      cases hnext'
      contradiction
  | move hmove _ =>
      rw [Moves, step_of_next hnext] at hmove
      contradiction

/-- Markup follows, after a text that may be empty. -/
theorem Finishes.exists_markup (h : Finishes ⟨⟨s, opened⟩, stack⟩ root rest) :
    ∃ text s', s = text ++ '<' :: s' ∧ IsText text ∧
      Finishes ⟨⟨'<' :: s', opened⟩, takeText text stack⟩ root rest := by
  obtain ⟨c, cs, rfl⟩ := List.exists_cons_of_ne_nil h.rest_ne_nil
  by_cases hc : c = '<'
  · subst hc
    exact ⟨[], cs, rfl, .nil, by simpa using h⟩
  · have hnext : Reader.next ⟨c :: cs, opened⟩ = .ok (.text ((c :: cs).takeWhile (· != '<')),
        ⟨(c :: cs).dropWhile (· != '<'), opened⟩) := Reader.next_of_ne hc cs
    have hno : '<' ∉ (c :: cs).takeWhile (· != '<') := fun hmem =>
      absurd (List.mem_takeWhile_imp hmem) (by decide)
    cases h with
    | done hnext' htake =>
        rw [hnext] at hnext'
        cases hnext'
        cases (isText_of_take hno htake).2
    | @move _ b' _ _ hmove h =>
        rw [Moves, step_of_next hnext] at hmove
        obtain ⟨htext, heq⟩ := isText_of_take hno hmove
        cases heq
        obtain ⟨d, tail, htail⟩ : ∃ d tail, (c :: cs).dropWhile (· != '<') = d :: tail :=
          List.exists_cons_of_ne_nil h.rest_ne_nil
        have hd : d = '<' := by
          have hstop := List.head?_dropWhile_not (· != '<') (c :: cs)
          rw [htail] at hstop
          simpa using hstop
        subst hd
        refine ⟨_, tail, ?_, htext, by rwa [← htail]⟩
        rw [← htail, List.takeWhile_append_dropWhile]

/-! ## documents -/

theorem rest_ofString_suffix (document : String) :
    (Reader.ofString document).rest <:+ document.toList := by
  unfold Reader.ofString
  split
  · next cs hcs =>
      rw [hcs]
      exact List.suffix_cons _ cs
  · exact List.suffix_rfl

/-- A byte order mark is passed over at the start of a document, and is text elsewhere. -/
theorem exists_mark (s : List Char) : ∃ mark rest, s = mark ++ rest ∧ IsText mark ∧
    ∀ rest', rest'.head? = rest.head? ∨ rest'.head? = some '<' →
      Reader.ofString (String.ofList (mark ++ rest')) = ⟨rest', []⟩ := by
  by_cases hmark : s.head? = some '\uFEFF'
  · obtain ⟨rest, rfl⟩ := List.head?_eq_some_iff.1 hmark
    refine ⟨['\uFEFF'], rest, rfl, .of_forall (by simp), fun rest' _ => ?_⟩
    simp [Reader.ofString]
  · refine ⟨[], s, rfl, .nil, fun rest' hhead => ?_⟩
    rw [List.nil_append, Reader.ofString, String.toList_ofList]
    split
    · next cs =>
        rcases hhead with he | he
        · exact absurd he.symm hmark
        · exact absurd he (by simp)
    · rfl

/-- The reader of a document before anything was read. -/
def start (document : String) : Building := ⟨.ofString document, []⟩

/-- **A document with another text from some place on is read in the same way up to there**,
if the place is inside of the root, or if markup goes on there. -/
theorem exists_parse {document : String} (hdocument : document.toList = x ++ y)
    (h : Reaches (start document) ⟨⟨y, opened⟩, stack⟩) (hy : y ≠ []) :
    ∃ text stack₁, IsText text ∧ stack = takeText text stack₁ ∧
      ∀ y', stack ≠ [] ∨ y'.head? = some '<' →
        parse (String.ofList (x ++ y')) = run ⟨⟨text ++ y', opened⟩, stack₁⟩ := by
  obtain ⟨mark, s, hs, -, hread⟩ := exists_mark document.toList
  have hstart : Reader.ofString document = ⟨s, []⟩ := by
    rw [← hread s (.inl rfl), ← hs, String.ofList_toList]
  obtain ⟨x₁, hx₁⟩ := Reaches.suffix h
  have hx₁ : s = x₁ ++ y := by rw [hx₁, start, hstart]
  obtain rfl : x = mark ++ x₁ := by
    rw [hdocument, hx₁, ← List.append_assoc] at hs
    exact List.append_cancel_right hs
  obtain ⟨before, text, stack₁, hbefore, htext, -, hstack, hrun⟩ :=
    exists_before h hy (by rw [start, hstart, hx₁])
  refine ⟨text, stack₁, htext, hstack, fun y' hy' => ?_⟩
  have hhead : (x₁ ++ y').head? = s.head? ∨ (x₁ ++ y').head? = some '<' := by
    cases x₁ with
    | nil =>
        have hplace := Reaches.eq_of_rest_eq h (by rw [start, hstart, hx₁]; rfl)
        have hnil : stack = [] := by
          rw [start] at hplace
          exact (congrArg Building.stack hplace).symm
        exact .inr (hy'.resolve_left fun hne => hne hnil)
    | cons c x₁ => exact .inl (by simp [hx₁])
  rw [List.append_assoc, parse, hread _ hhead, hbefore, List.append_assoc, ← hrun, start, hstart]

end Building

end SlotUpload.Xml.Element
