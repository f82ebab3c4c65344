import SlotUpload.Proofs.Xml.Nesting

/-!
# SlotUpload.Proofs.Xml.Filler

What may stand between the children of an element without being one that is looked for:
blanks, comments, instructions and other elements (`Filler`).  Fillers leave an open element
as it was, up to its text and to children of other names (`run_fillers`).
-/

namespace SlotUpload.Xml

/-! ## comments and instructions -/

namespace Reader

/-- A comment or section goes on to its first end. -/
theorem Bang.content?_eq {kind : Bang} {before s : List Char}
    (hend : kind.endsAfter (s.reverse ++ before) = true)
    (hgo : ∀ front back, s = front ++ '>' :: back →
      kind.endsAfter (front.reverse ++ before) = false) (rest : List Char) :
    kind.content? before (s ++ '>' :: rest) = some (before.reverse ++ s, rest) := by
  induction s generalizing before with
  | nil =>
      have hend : kind.endsAfter before = true := hend
      simp [content?, hend]
  | cons c s ih =>
      have hstop : ¬ (c = '>' ∧ kind.endsAfter before = true) := by
        rintro ⟨rfl, h⟩
        have hno : kind.endsAfter before = false := hgo [] s rfl
        simp [hno] at h
      rw [List.cons_append, content?, if_neg hstop, ih (by simpa using hend)]
      · simp
      · intro front back hs
        simpa using hgo (c :: front) back (by simp [hs])

/-- A comment ends after two dashes that are not those it begins with. -/
theorem Bang.endsAfter_comment_iff {before : List Char} :
    comment.endsAfter before = true ↔ ∃ c d tail, before = '-' :: '-' :: c :: d :: tail := by
  constructor
  · intro h
    unfold endsAfter at h
    split at h
    · exact ⟨_, _, _, rfl⟩
    · contradiction
    · contradiction
    · contradiction
  · rintro ⟨c, d, tail, rfl⟩
    rfl

/-- An end of a comment is in a text if it is in the text with `--` after it. -/
theorem infix_of_append_eq {body front back : List Char}
    (h : body ++ ['-', '-'] = front ++ ['-', '-', '>'] ++ back) : ['-', '-', '>'] <:+: body := by
  rcases List.append_eq_append_iff.1 h with ⟨more, hfront, hmore⟩ | ⟨more, rfl, -⟩
  · have hnil : more = [] := by
      by_contra hne
      have hlast : more.getLast? = some '>' := by
        rw [← List.getLast?_append_of_ne_nil body hne, ← hfront]
        simp
      have hmem : '>' ∈ ['-', '-'] := by
        rw [hmore]
        exact List.mem_append_left back (List.mem_of_getLast? hlast)
      simp at hmem
    rw [hnil, List.append_nil] at hfront
    exact ⟨front, [], by simp [← hfront]⟩
  · exact ⟨front, more, rfl⟩

/-- A comment ends at its own end if it holds no other. -/
theorem Bang.content?_comment {body : List Char} (h : ¬ ['-', '-', '>'] <:+: body)
    (rest : List Char) :
    comment.content? [] ('-' :: '-' :: (body ++ ['-', '-']) ++ '>' :: rest) =
      some ('-' :: '-' :: (body ++ ['-', '-']), rest) := by
  refine content?_eq ?_ ?_ rest
  · rw [endsAfter_comment_iff]
    rcases List.eq_nil_or_concat body with rfl | ⟨body, c, rfl⟩
    · exact ⟨'-', '-', [], rfl⟩
    · rcases List.eq_nil_or_concat body with rfl | ⟨body, d, rfl⟩
      · exact ⟨c, '-', ['-'], by simp⟩
      · exact ⟨c, d, body.reverse ++ ['-', '-'], by simp⟩
  · intro front back hfront
    refine eq_false_of_ne_true fun hends => ?_
    obtain ⟨c, d, tail, htail⟩ := endsAfter_comment_iff.1 hends
    have hback : front = tail.reverse ++ [d, c] ++ ['-', '-'] := by
      rw [← List.reverse_inj, ← List.append_nil front.reverse, htail]
      simp
    -- the first two characters before the `--` are those of the start of the comment
    obtain ⟨x, y, more, hmore⟩ : ∃ x y more, tail.reverse ++ [d, c] = x :: y :: more := by
      cases tail.reverse with
      | nil => exact ⟨d, c, [], rfl⟩
      | cons x t => cases t <;> exact ⟨_, _, _, rfl⟩
    rw [hback, hmore] at hfront
    have hbody : body ++ ['-', '-'] = more ++ ['-', '-', '>'] ++ back := by
      simp only [List.cons_append, List.cons.injEq] at hfront
      simpa using hfront.2.2
    exact h (infix_of_append_eq hbody)

theorem piece_comment {body : List Char} (h : ¬ ['-', '-', '>'] <:+: body)
    (opened : List (List Char)) :
    Piece opened ('<' :: '!' :: '-' :: '-' :: (body ++ ['-', '-', '>'])) .remark opened := by
  intro rest outer
  have hcontent := Bang.content?_comment h rest
  have hpiece : '<' :: '!' :: '-' :: '-' :: (body ++ ['-', '-', '>']) ++ rest =
      '<' :: '!' :: ('-' :: '-' :: (body ++ ['-', '-']) ++ '>' :: rest) := by simp
  have hbang : next ⟨'<' :: '!' :: ('-' :: '-' :: (body ++ ['-', '-']) ++ '>' :: rest),
      opened ++ outer⟩ =
        bang (opened ++ outer) ('-' :: '-' :: (body ++ ['-', '-']) ++ '>' :: rest) := rfl
  have hevent : Bang.comment.event ('-' :: '-' :: (body ++ ['-', '-'])) = .ok .remark := rfl
  rw [hpiece, hbang]
  simp only [List.cons_append] at hcontent ⊢
  simp only [bang, Bang.ofFirst?, hcontent, hevent]
  rfl

/-- An instruction ends at its own end if it holds no `>`. -/
theorem piece_instruction {body : List Char} (hne : body ≠ []) (h : '>' ∉ body)
    (opened : List (List Char)) :
    Piece opened ('<' :: '?' :: (body ++ ['?', '>'])) .remark opened := by
  intro rest outer
  have hno : ∀ c ∈ body ++ ['?'], c ≠ '>' := by
    intro c hc he
    subst he
    simp [h] at hc
  obtain ⟨htake, hdrop⟩ := takeWhile_append_end hno rest
  have hpiece : '<' :: '?' :: (body ++ ['?', '>']) ++ rest =
      '<' :: '?' :: (body ++ ['?'] ++ '>' :: rest) := by simp
  have hinstruction : next ⟨'<' :: '?' :: (body ++ ['?'] ++ '>' :: rest), opened ++ outer⟩ =
      instruction (opened ++ outer) (body ++ ['?'] ++ '>' :: rest) := rfl
  have hlength : 2 ≤ (body ++ ['?']).length := by
    have := List.length_pos_of_ne_nil hne
    simp
    omega
  rw [hpiece, hinstruction]
  simp only [instruction, htake, hdrop]
  rw [if_pos ⟨hlength, by simp⟩]

end Reader

/-! ## fillers -/

/-- What may stand between the children of an element. -/
inductive Filler
  | blank (s : List Char)
  | comment (body : List Char)
  | instruction (body : List Char)
  | element (s : List Char)

namespace Filler

/-- The text of a filler. -/
def text : Filler → List Char
  | blank s => s
  | comment body => '<' :: '!' :: '-' :: '-' :: (body ++ ['-', '-', '>'])
  | instruction body => '<' :: '?' :: (body ++ ['?', '>'])
  | element s => s

/-- Blanks, a comment that holds no end of a comment, an instruction that holds no `>`, or
an element of none of the names, which can be read by itself and ends with its tag. -/
def Fits (excluded : List String) : Filler → Prop
  | blank s => ∀ c ∈ s, Text.isBlank c
  | comment body => ¬ ['-', '-', '>'] <:+: body
  | instruction body => body ≠ [] ∧ '>' ∉ body
  | element s => s.getLast? = some '>' ∧ ∃ e, e.name ∉ excluded ∧
    Element.Building.Finishes (.start (String.ofList s)) e []

end Filler

namespace Element.Building

variable {excluded : List String} {fillers : List Filler} {opened : List (List Char)}
  {u v : List Char}

/-- Text makes the innermost element grow. -/
theorem grown_takeText (excluded : List String) (s : List Char) (top : Element)
    (stack : List Element) :
    ∃ top', Grown excluded top top' ∧ takeText s (top :: stack) = top' :: stack := by
  unfold takeText
  split
  · exact ⟨top, .refl top, rfl⟩
  · next text _ =>
      split
      · exact ⟨top, .refl top, rfl⟩
      · exact ⟨top.addText text, .addText top text, rfl⟩

/-- A remark is passed over. -/
theorem run_remark {p : List Char} (hp : Reader.Piece opened p .remark opened)
    (rest : List Char) (stack : List Element) :
    run ⟨⟨p ++ rest, opened⟩, stack⟩ = run ⟨⟨rest, opened⟩, stack⟩ := by
  have hnext := hp rest []
  simp only [List.append_nil] at hnext
  have hmove : Moves ⟨⟨p ++ rest, opened⟩, stack⟩ ⟨⟨rest, opened⟩, stack⟩ := by
    rw [Moves, step_of_next hnext]
    rfl
  exact hmove.run_eq

/-- An element that is read by itself becomes a child of the element around it. -/
theorem run_element {s : List Char} {e : Element} (hu : IsText u)
    (hfinishes : Finishes (start (String.ofList s)) e []) (hend : s.getLast? = some '>')
    (hname : e.name ∉ excluded) (rest : List Char) (top : Element) (stack : List Element) :
    ∃ top', Grown excluded top top' ∧
      run ⟨⟨u ++ (s ++ rest), opened⟩, top :: stack⟩ = run ⟨⟨rest, opened⟩, top' :: stack⟩ := by
  obtain ⟨mark, s, rfl, hmark, hread⟩ := exists_mark s
  rw [start, hread s (.inl rfl)] at hfinishes
  obtain ⟨text, s, rfl, htext, hfinishes⟩ := hfinishes.exists_markup
  have hlast : ('<' :: s).getLast? = some '>' := by
    rwa [← List.append_assoc, List.getLast?_append_of_ne_nil _ (List.cons_ne_nil _ _)] at hend
  rw [takeText_of_nil] at hfinishes
  obtain ⟨top₁, hgrown₁, htake⟩ := grown_takeText excluded (u ++ (mark ++ text)) top stack
  have hnone : names [] = names [] := rfl
  obtain ⟨top₂, e', hgrown₂, hname', hrun⟩ :=
    run_inside excluded hfinishes rfl hlast rfl rest opened hnone top₁ stack
  refine ⟨top₂.addChild e', (hgrown₁.trans hgrown₂).trans (.addChild top₂ (hname' ▸ hname)), ?_⟩
  have hsplit : u ++ (mark ++ (text ++ '<' :: s) ++ rest) =
      u ++ (mark ++ text) ++ '<' :: (s ++ rest) := by simp
  rw [hsplit, run_isText (hu.append (hmark.append htext)), htake]
  exact hrun

/-- **Fillers leave the open elements as they were**, up to text and children that are not
looked for. -/
theorem run_fillers (h : ∀ f ∈ fillers, f.Fits excluded) (hu : IsText u) (hv : IsText v)
    (rest : List Char) (opened : List (List Char)) (top : Element) (stack : List Element) :
    ∃ top', Grown excluded top top' ∧
      run ⟨⟨u ++ (fillers.flatMap Filler.text ++ (v ++ '<' :: rest)), opened⟩, top :: stack⟩ =
        run ⟨⟨'<' :: rest, opened⟩, top' :: stack⟩ := by
  induction fillers generalizing u top with
  | nil =>
      obtain ⟨top', hgrown, htake⟩ := grown_takeText excluded (u ++ v) top stack
      refine ⟨top', hgrown, ?_⟩
      have hsplit : u ++ ([].flatMap Filler.text ++ (v ++ '<' :: rest)) =
          u ++ v ++ '<' :: rest := by simp
      rw [hsplit, run_isText (hu.append hv), htake]
  | cons f fillers ih =>
      obtain ⟨hf, hfillers⟩ := List.forall_mem_cons.1 h
      rw [List.flatMap_cons, List.append_assoc]
      -- a remark ends the text before it; a blank is more of that text
      have hremark : ∀ p, Reader.Piece opened ('<' :: p) .remark opened →
          ∃ top', Grown excluded top top' ∧
            run ⟨⟨u ++ ('<' :: p ++ (fillers.flatMap Filler.text ++ (v ++ '<' :: rest))),
              opened⟩, top :: stack⟩ = run ⟨⟨'<' :: rest, opened⟩, top' :: stack⟩ := by
        intro p hp
        obtain ⟨top₁, hgrown₁, htake⟩ := grown_takeText excluded u top stack
        obtain ⟨top', hgrown, hrun⟩ := ih hfillers .nil top₁
        refine ⟨top', hgrown₁.trans hgrown, ?_⟩
        rw [List.cons_append, run_isText hu, htake, ← List.cons_append, run_remark hp]
        exact hrun
      cases f with
      | blank s =>
          have hs : IsText s := .of_forall fun c hc =>
            ⟨fun he => absurd (hf c hc) (he ▸ by decide),
              fun he => absurd (hf c hc) (he ▸ by decide)⟩
          obtain ⟨top', hgrown, hrun⟩ := ih hfillers (hu.append hs) top
          refine ⟨top', hgrown, ?_⟩
          rw [← hrun, List.append_assoc]
          rfl
      | comment body => exact hremark _ (Reader.piece_comment hf opened)
      | instruction body => exact hremark _ (Reader.piece_instruction hf.1 hf.2 opened)
      | element s =>
          obtain ⟨hend, e, hname, hfinishes⟩ := hf
          obtain ⟨top₁, hgrown₁, hrun₁⟩ := run_element hu hfinishes hend hname
            (fillers.flatMap Filler.text ++ (v ++ '<' :: rest)) top stack
          obtain ⟨top', hgrown, hrun⟩ := ih hfillers .nil top₁
          exact ⟨top', hgrown₁.trans hgrown, hrun₁.trans hrun⟩

/-- An element that closes itself is read by itself. -/
theorem finishes_closed (name : Name) :
    Finishes (start (String.ofList ('<' :: (name.chars ++ ['/', '>']))))
      { name := name.text, xmlns := none } [] := by
  have hwrite : Tag.write name {} = name.chars := by
    simp [Tag.write, Fields.write, Fields.writeList]
  have hstart : start (String.ofList ('<' :: (name.chars ++ ['/', '>']))) =
      ⟨⟨'<' :: (Tag.write name {} ++ '/' :: '>' :: []), []⟩, []⟩ := by
    rw [start, Reader.ofString, String.toList_ofList, hwrite]
    rfl
  have hnext : Reader.next ⟨'<' :: (Tag.write name {} ++ '/' :: '>' :: []), []⟩ =
      .ok (.empty ⟨name.chars, Fields.write {}⟩, ⟨[], []⟩) := Reader.next_closed name {}
  have htake : take ⟨⟨'<' :: (Tag.write name {} ++ '/' :: '>' :: []), []⟩, []⟩
      (.empty ⟨name.chars, Fields.write {}⟩) ⟨[], []⟩ =
        .ok (.inl { name := name.text, xmlns := none }) := by
    rw [take, ofTag_opening]
    rfl
  rw [hstart]
  exact Finishes.done hnext htake

end Element.Building

/-- An empty element of another name can be filled in. -/
theorem Filler.fits_closed {excluded : List String} (name : Name) (h : name.text ∉ excluded) :
    (Filler.element ('<' :: (name.chars ++ ['/', '>']))).Fits excluded := by
  have hend : ('<' :: (name.chars ++ ['/', '>'])).getLast? = some '>' := by
    have hsplit : '<' :: (name.chars ++ ['/', '>']) = '<' :: (name.chars ++ ['/']) ++ ['>'] := by
      simp
    rw [hsplit, List.getLast?_concat]
  exact ⟨hend, _, h, Element.Building.finishes_closed name⟩

end SlotUpload.Xml
