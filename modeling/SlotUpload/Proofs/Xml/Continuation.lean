import SlotUpload.Proofs.Xml.Matching

/-!
# SlotUpload.Proofs.Xml.Continuation

Documents that go on.  A tree is complete with the last tag of its root, so what follows
that tag does not change the tree.  It may change the tag itself: an end tag goes up to the
first `>`, and a document may end inside of it.  Then what follows the document is part of
the tag, and changes the name in it unless it is made of spaces.  This is the only way in
which it matters what a document goes on with (`parse_append`).
-/

namespace SlotUpload.Xml

/-! ## names in end tags -/

namespace Reader

variable {raw more : List Char}

theorem length_endName_le (raw : List Char) : (endName raw).length ≤ raw.length := by
  unfold endName
  split
  · exact Nat.le_refl _
  · rw [List.length_reverse]
    exact (List.dropWhile_sublist _).length_le.trans_eq List.length_reverse

/-- Spaces after a name do not belong to it. -/
theorem endName_append_of_spaces (hmore : ∀ c ∈ more, isSpace c) {c : Char} (hc : c ∈ raw)
    (hname : isSpace c = false) : endName (raw ++ more) = endName raw := by
  have hdrop : (raw ++ more).reverse.dropWhile isSpace = raw.reverse.dropWhile isSpace := by
    rw [List.reverse_append, List.dropWhile_append_of_pos fun d hd => hmore d (List.mem_reverse.1 hd)]
  have hne : (raw.reverse.dropWhile isSpace).reverse ≠ [] := by
    intro hnil
    rw [List.reverse_eq_nil_iff, List.dropWhile_eq_nil_iff] at hnil
    have hspace := hnil c (List.mem_reverse.2 hc)
    rw [hname] at hspace
    contradiction
  unfold endName
  rw [hdrop]
  split
  · next hnil => exact absurd hnil hne
  · rfl

/-- Where there are only spaces they are the name. -/
theorem endName_of_spaces (h : ∀ c ∈ raw, isSpace c) : endName raw = raw := by
  have hnil : raw.reverse.dropWhile isSpace = [] :=
    List.dropWhile_eq_nil_iff.2 fun c hc => h c (List.mem_reverse.1 hc)
  unfold endName
  rw [hnil]
  rfl

/-- Anything else goes on with the name. -/
theorem length_lt_endName_append {c : Char} (hc : c ∈ more) (hname : isSpace c = false) :
    raw.length < (endName (raw ++ more)).length := by
  obtain ⟨d, tail, hdrop⟩ : ∃ d tail, more.reverse.dropWhile isSpace = d :: tail := by
    refine List.exists_cons_of_ne_nil fun hnil => ?_
    have hspace := List.dropWhile_eq_nil_iff.1 hnil c (List.mem_reverse.2 hc)
    rw [hname] at hspace
    contradiction
  have hname : endName (raw ++ more) = raw ++ (d :: tail).reverse := by
    unfold endName
    rw [List.reverse_append, List.dropWhile_append, hdrop]
    simp
  rw [hname]
  simp

/-- A name in an end tag stays the same if nothing is added to it, or spaces where there is
a name. -/
theorem endName_append_eq_iff : endName (raw ++ more) = endName raw ↔
    more = [] ∨ (∀ c ∈ more, isSpace c) ∧ ∃ c ∈ raw, isSpace c = false := by
  constructor
  · intro h
    by_cases hmore : ∀ c ∈ more, isSpace c
    · by_cases hraw : ∀ c ∈ raw, isSpace c
      · have hall : ∀ c ∈ raw ++ more, isSpace c := fun c hc =>
          (List.mem_append.1 hc).elim (hraw c) (hmore c)
        rw [endName_of_spaces hall, endName_of_spaces hraw] at h
        exact .inl (List.append_right_eq_self.1 h)
      · refine .inr ⟨hmore, ?_⟩
        simpa using hraw
    · obtain ⟨c, hc, hname⟩ : ∃ c ∈ more, isSpace c = false := by simpa using hmore
      have hlt : raw.length < (endName (raw ++ more)).length := length_lt_endName_append hc hname
      rw [h] at hlt
      exact absurd hlt (Nat.not_lt.2 (length_endName_le raw))
  · rintro (rfl | ⟨hmore, c, hc, hname⟩)
    · rw [List.append_nil]
    · exact endName_append_of_spaces hmore hc hname

end Reader

/-! ## last tags -/

namespace Element

open Building

/-- The reader comes to a text, and the root is complete with the tag that starts there. -/
def LastTag (document : String) (s : List Char) : Prop :=
  ∃ b root, Reaches (start document) b ∧ b.reader.rest = s ∧ b.step = .ok (.inl root)

/-- What follows the last tag of a document does not change it: the tag has its `>`, or what
comes before the first `>` is nothing or spaces after a name. -/
def Keeps (s more : List Char) : Prop :=
  let added := more.takeWhile (· != '>')
  '>' ∈ s ∨ added = [] ∨ (∀ c ∈ added, isSpace c) ∧ ∃ c ∈ s.drop 2, isSpace c = false

/-- A document may go on in this way without a change to its last tag. -/
def KeepsLastTag (document more : String) : Prop :=
  ∃ s, LastTag document s ∧ Keeps s more.toList

namespace Building

variable {document : String} {s cs raw : List Char} {opened : List (List Char)}
  {stack : List Element} {root : Element}

/-- What comes before a piece of markup is read in the same way however that goes on. -/
theorem parse_append_of_reaches (h : Reaches (start document) ⟨⟨'<' :: cs, opened⟩, stack⟩)
    (more : String) :
    parse (document ++ more) = run ⟨⟨'<' :: (cs ++ more.toList), opened⟩, stack⟩ := by
  obtain ⟨x, hx⟩ := (Reaches.suffix h).trans (rest_ofString_suffix document)
  obtain ⟨text, stack₁, htext, hstack, hparse⟩ := exists_parse hx.symm h (List.cons_ne_nil _ _)
  have hdocument : document ++ more = String.ofList (x ++ '<' :: (cs ++ more.toList)) := by
    rw [← String.toList_inj, String.toList_append, String.toList_ofList, ← hx, List.append_assoc]
    rfl
  rw [hdocument, hparse _ (.inr rfl), run_isText htext, ← hstack]

/-- A tag with its `>` completes the root whatever follows. -/
theorem step_of_closed (hstep : step ⟨⟨'<' :: cs, opened⟩, stack⟩ = .ok (.inl root))
    (hend : '>' ∈ cs) (more : List Char) :
    step ⟨⟨'<' :: (cs ++ more), opened⟩, stack⟩ = .ok (.inl root) := by
  obtain ⟨event, ⟨rest, opened'⟩, hnext, htake⟩ := exists_next_of_step hstep
  obtain ⟨p, rfl, hp⟩ := Reader.exists_piece hnext (.inr hend)
  have hpiece := hp (rest ++ more) []
  rw [List.append_nil, List.append_nil, List.cons_append] at hpiece
  rw [List.append_assoc, step_of_next hpiece]
  exact take_eq_inl_iff.2 (take_eq_inl_iff.1 htake)

/-- The tag that completes the root has its `>`, or it is an end tag without one. -/
theorem cases_of_step (hstep : step ⟨⟨s, opened⟩, stack⟩ = .ok (.inl root)) :
    (∃ cs, s = '<' :: cs ∧ '>' ∈ cs) ∨ ∃ raw reader, s = '<' :: '/' :: raw ∧ '>' ∉ raw ∧
      stack = [root] ∧ Reader.next ⟨s, opened⟩ = .ok (.finish, reader) := by
  obtain ⟨event, reader, hnext, htake⟩ := exists_next_of_step hstep
  rcases take_eq_inl_iff.1 htake with ⟨rfl, hstack⟩ | ⟨tag, rfl, -⟩
  · obtain ⟨raw, hs, -⟩ := Reader.of_next_finish hnext
    obtain rfl : s = '<' :: '/' :: raw := hs
    by_cases hend : '>' ∈ raw
    · exact .inl ⟨_, rfl, List.mem_cons_of_mem _ hend⟩
    · exact .inr ⟨raw, reader, rfl, hend, hstack, hnext⟩
  · exact .inl (Reader.of_next_empty hnext)

/-- What follows an end tag without a `>` is part of it. -/
theorem next_of_open {reader : Reader} (hend : '>' ∉ raw)
    (hnext : Reader.next ⟨'<' :: '/' :: raw, opened⟩ = .ok (.finish, reader)) (more : List Char) :
    let name := Reader.endName raw
    let name' := Reader.endName (raw ++ more.takeWhile (· != '>'))
    (name' = name → ∃ rest, Reader.next ⟨'<' :: '/' :: (raw ++ more), opened⟩ =
        .ok (.finish, ⟨rest, reader.opened⟩)) ∧
      (name' ≠ name → Reader.next ⟨'<' :: '/' :: (raw ++ more), opened⟩ =
        .error (.mismatchedEnd (String.ofList name) (String.ofList name'))) := by
  intro name name'
  have hgo : ∀ c ∈ raw, (c != '>') = true := fun c hc => by
    simpa using fun he : c = '>' => hend (he ▸ hc)
  have htake : raw.takeWhile (· != '>') = raw := List.takeWhile_eq_self_iff.2 hgo
  obtain ⟨-, hopened⟩ := Reader.closing_eq_ok (show Reader.closing opened raw = _ from hnext)
  have hclosing : Reader.next ⟨'<' :: '/' :: (raw ++ more), opened⟩ =
      Reader.closing opened (raw ++ more) := rfl
  have htaken : (raw ++ more).takeWhile (· != '>') = raw ++ more.takeWhile (· != '>') :=
    List.takeWhile_append_of_pos hgo
  rw [htake] at hopened
  rw [hclosing, hopened, Reader.closing, htaken]
  exact ⟨fun hname => ⟨_, if_pos hname⟩, fun hname => if_neg hname⟩

/-- A document that can be read has a last tag. -/
theorem exists_lastTag (h : parse document = .ok root) : ∃ s, LastTag document s := by
  obtain ⟨rest, hfinishes⟩ := exists_finishes (show (start document).run = .ok root from h)
  obtain ⟨b, hb, hstep⟩ := hfinishes.exists_last
  exact ⟨b.reader.rest, b, root, hb, rfl, hstep⟩

/-- The last tag decides whether the tree is the same or the document is at fault. -/
theorem parse_append_of_lastTag (h : LastTag document s) (more : String) :
    (Keeps s more.toList → parse (document ++ more) = parse document) ∧
      (¬ Keeps s more.toList → ∃ expected found,
        parse (document ++ more) = .error (.mismatchedEnd expected found)) := by
  obtain ⟨⟨⟨s, opened⟩, stack⟩, root, hreach, rfl, hstep⟩ := h
  have hparse : parse document = .ok root := hreach.run_eq.trans (run_of_step hstep)
  rw [hparse]
  -- Only an end tag that the document ends in can still change.
  rcases cases_of_step hstep with ⟨cs, rfl, hend⟩ | ⟨raw, reader, rfl, hend, rfl, hnext⟩
  · have hkeeps : Keeps ('<' :: cs) more.toList := .inl (List.mem_cons_of_mem _ hend)
    rw [parse_append_of_reaches hreach, run_of_step (step_of_closed hstep hend more.toList)]
    exact ⟨fun _ => rfl, fun hno => absurd hkeeps hno⟩
  · have hkeeps : Keeps ('<' :: '/' :: raw) more.toList ↔
        Reader.endName (raw ++ more.toList.takeWhile (· != '>')) = Reader.endName raw := by
      rw [Keeps, Reader.endName_append_eq_iff]
      simp [hend]
    obtain ⟨hsame, hother⟩ := next_of_open hend hnext more.toList
    rw [parse_append_of_reaches hreach, hkeeps]
    refine ⟨fun hname => ?_, fun hname => ?_⟩
    · obtain ⟨rest, hnext'⟩ := hsame hname
      exact run_of_step ((step_of_next hnext').trans (take_eq_inl_iff.2 (.inl ⟨rfl, rfl⟩)))
    · exact ⟨_, _, run_of_error (step_of_next_error (hother hname))⟩

/-- **What follows a document matters only where it changes its last tag.**  If it does so,
the tag names no open element any more. -/
theorem parse_append (h : parse document = .ok root) (more : String) :
    (KeepsLastTag document more ∧ parse (document ++ more) = .ok root) ∨
      (¬ KeepsLastTag document more ∧ ∃ expected found,
        parse (document ++ more) = .error (.mismatchedEnd expected found)) := by
  obtain ⟨s, hs⟩ := exists_lastTag h
  obtain ⟨hkeeps, hchanges⟩ := parse_append_of_lastTag hs more
  by_cases hs' : Keeps s more.toList
  · exact .inl ⟨⟨s, hs, hs'⟩, (hkeeps hs').trans h⟩
  · refine .inr ⟨?_, hchanges hs'⟩
    rintro ⟨s', hlast, hs'⟩
    obtain ⟨_, _, herror⟩ := hchanges ‹_›
    have hok := (parse_append_of_lastTag hlast more).1 hs'
    rw [herror, h] at hok
    contradiction

/-- A document that ends in a `>` may go on in any way. -/
theorem keepsLastTag_of_getLast? (h : parse document = .ok root) (more : String)
    (hend : document.toList.getLast? = some '>') : KeepsLastTag document more := by
  obtain ⟨s, hs⟩ := exists_lastTag h
  refine ⟨s, hs, .inl ?_⟩
  obtain ⟨b, root, hreach, rfl, hstep⟩ := hs
  obtain ⟨x, hx⟩ := (Reaches.suffix hreach).trans (rest_ofString_suffix document)
  have hne : b.reader.rest ≠ [] := by
    rcases cases_of_step hstep with ⟨cs, hcs, -⟩ | ⟨raw, _, hraw, -⟩ <;> simp_all
  rw [← hx, List.getLast?_append_of_ne_nil _ hne] at hend
  exact List.mem_of_getLast? hend

end Building

end Element

end SlotUpload.Xml
