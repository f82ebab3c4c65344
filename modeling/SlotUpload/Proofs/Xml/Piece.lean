import Mathlib.Data.List.Infix
import Mathlib.Data.List.TakeWhile
import SlotUpload.Proofs.Xml.Markup

/-!
# SlotUpload.Proofs.Xml.Piece

Documents are read piece by piece.  A text goes up to the markup after it, and what is
read of it does not depend on where it stands (`Resolved`).  Markup goes up to a `>`
of its own, and is read in the same way whatever follows it and whatever is open around
it (`Reader.exists_piece`).
-/

namespace SlotUpload.Xml

theorem exists_of_map_eq_ok {ε α β : Type} {x : Except ε α} {f : α → β} {b : β}
    (h : x.map f = .ok b) : ∃ a, x = .ok a ∧ b = f a := by
  cases x with
  | error e => contradiction
  | ok a => cases h; exact ⟨a, rfl, rfl⟩

/-! ## references -/

/-- The place of a reference shows in its faults alone. -/
theorem Reference.resolve_eq_ok {start stop : Nat} {body : List Char} {c : Char}
    (h : resolve start stop body = .ok c) (start' stop' : Nat) :
    resolve start' stop' body = .ok c := by
  unfold resolve at h ⊢
  split at h <;> try exact h
  · split at h
    · contradiction
    · split at h
      · contradiction
      · next hn => simp_all
  · contradiction

/-- What the characters and references of a text stand for. -/
inductive Resolved : List Char → List Char → Prop
  | nil : Resolved [] []
  | char {c : Char} {s a : List Char} : c ≠ '&' → Resolved s a → Resolved (c :: s) (c :: a)
  | reference {body s a : List Char} {c : Char} : (∀ d ∈ body, Reference.stops d = false) →
    Reference.resolve 0 0 body = .ok c → Resolved s a →
    Resolved ('&' :: (body ++ ';' :: s)) (c :: a)

namespace Resolved

variable {s t a b : List Char}

/-- Texts that are resolved can be put together. -/
theorem append (hs : Resolved s a) (ht : Resolved t b) : Resolved (s ++ t) (a ++ b) := by
  induction hs with
  | nil => exact ht
  | char hc _ ih => exact .char hc ih
  | reference hbody hc _ ih =>
      rw [List.cons_append, List.append_assoc]
      exact .reference hbody hc ih

theorem of_forall (h : ∀ c ∈ s, c ≠ '&') : Resolved s s := by
  induction s with
  | nil => exact .nil
  | cons c s ih =>
      rw [List.forall_mem_cons] at h
      exact .char h.1 (ih h.2)

/-- A text is read as what it is resolved to. -/
theorem unescapeFrom_eq (h : Resolved s a) (size pos : Nat) : unescapeFrom size pos s = .ok a := by
  induction h generalizing pos with
  | nil => rw [unescapeFrom]
  | char hc _ ih =>
      rw [unescapeFrom, if_neg hc, ih]
      rfl
  | @reference body s a c hbody hc _ ih =>
      have hgo : ∀ d ∈ body, (!Reference.stops d) = true := by simpa using hbody
      have hdrop : (body ++ ';' :: s).dropWhile (!Reference.stops ·) = ';' :: s := by
        rw [List.dropWhile_append_of_pos hgo]
        rfl
      have htake : (body ++ ';' :: s).takeWhile (!Reference.stops ·) = body := by
        rw [List.takeWhile_append_of_pos hgo]
        simp [Reference.stops]
      rw [unescapeFrom, if_pos rfl]
      split
      · next rest hrest =>
          cases hdrop.symm.trans hrest
          dsimp only
          rw [htake, Reference.resolve_eq_ok hc, ih]
          rfl
      · next hno => exact absurd hdrop (hno s)

/-- What was read is what the text is resolved to. -/
theorem of_unescapeFrom {size pos : Nat} (h : unescapeFrom size pos s = .ok a) : Resolved s a := by
  induction hn : s.length using Nat.strongRecOn generalizing s a pos with
  | _ n ih =>
    subst hn
    cases s with
    | nil =>
        rw [unescapeFrom] at h
        cases h
        exact .nil
    | cons c s =>
        rw [unescapeFrom] at h
        by_cases hc : c = '&'
        · subst hc
          rw [if_pos rfl] at h
          split at h
          · next rest hrest =>
              dsimp only at h
              split at h
              · contradiction
              · next x hx =>
                  obtain ⟨b, hread, rfl⟩ := exists_of_map_eq_ok h
                  have hs : s = s.takeWhile (!Reference.stops ·) ++ ';' :: rest := by
                    rw [← hrest, List.takeWhile_append_dropWhile]
                  have hlt : rest.length < ('&' :: s).length := by
                    rw [List.length_cons, hs, List.length_append, List.length_cons]
                    omega
                  have hbody : ∀ d ∈ s.takeWhile (!Reference.stops ·),
                      Reference.stops d = false := fun d hd => by
                    simpa using List.mem_takeWhile_imp hd
                  rw [hs]
                  exact .reference hbody (Reference.resolve_eq_ok hx 0 0) (ih _ hlt hread rfl)
          · contradiction
        · rw [if_neg hc] at h
          obtain ⟨b, hread, rfl⟩ := exists_of_map_eq_ok h
          exact .char hc (ih _ (Nat.lt_succ_self _) hread rfl)

/-- The references of a text are resolved, or it cannot be read. -/
theorem unescape_eq_ok_iff : unescape s = .ok a ↔ Resolved s a :=
  ⟨of_unescapeFrom, fun h => h.unescapeFrom_eq _ _⟩

end Resolved

/-- A text as it may stand between pieces of markup: no markup starts in it, and its
references stand for characters. -/
structure IsText (s : List Char) : Prop where
  no_markup : '<' ∉ s
  resolved : ∃ a, Resolved s a

namespace IsText

variable {s t : List Char}

theorem nil : IsText [] := ⟨List.not_mem_nil, [], .nil⟩

/-- What can be read as text in two parts can be read as text. -/
theorem append (hs : IsText s) (ht : IsText t) : IsText (s ++ t) := by
  obtain ⟨a, ha⟩ := hs.resolved
  obtain ⟨b, hb⟩ := ht.resolved
  exact ⟨by simp [hs.no_markup, ht.no_markup], a ++ b, ha.append hb⟩

theorem of_forall (h : ∀ c ∈ s, c ≠ '<' ∧ c ≠ '&') : IsText s :=
  ⟨fun hs => (h _ hs).1 rfl, s, .of_forall fun c hc => (h c hc).2⟩

end IsText

/-! ## pieces of markup -/

namespace Reader

variable {opened opened' : List (List Char)} {event : Event} {cs rest : List Char}

/-- A piece of markup: it is read as an event whatever follows it and whatever is open
around it. -/
def Piece (opened : List (List Char)) (p : List Char) (event : Event)
    (opened' : List (List Char)) : Prop :=
  ∀ rest outer, next ⟨p ++ rest, opened ++ outer⟩ = .ok (event, ⟨rest, opened' ++ outer⟩)

/-- The quote that is open after a character inside a tag. -/
def quoteAfter (quote : Option Char) (c : Char) : Option Char :=
  match quote with
  | some q => if c = q then none else some q
  | none => if c = '"' ∨ c = '\'' then some c else none

theorem tagContent?_cons (quote : Option Char) (c : Char) (cs : List Char) :
    tagContent? quote (c :: cs) =
      if quote = none ∧ c = '>' then some ([], cs)
      else (tagContent? (quoteAfter quote c) cs).map fun (a, b) => (c :: a, b) := by
  conv_lhs => unfold tagContent?
  unfold quoteAfter
  cases quote with
  | some q => by_cases h : c = q <;> simp [h]
  | none =>
      by_cases h : c = '>'
      · simp [h]
      · by_cases hquote : c = '"' ∨ c = '\'' <;> simp [h, hquote]

/-- A tag ends at a `>` of its own, whatever follows. -/
theorem of_tagContent? {quote : Option Char} {content : List Char}
    (h : tagContent? quote cs = some (content, rest)) :
    cs = content ++ '>' :: rest ∧
      ∀ rest, tagContent? quote (content ++ '>' :: rest) = some (content, rest) := by
  induction cs generalizing quote content with
  | nil => contradiction
  | cons c cs ih =>
      rw [tagContent?_cons] at h
      split at h
      · next hend =>
          cases h
          exact ⟨by rw [hend.2]; rfl, fun rest => by simp [tagContent?_cons, hend.1]⟩
      · next hgo =>
          obtain ⟨⟨a, b⟩, hab, heq⟩ := Option.map_eq_some_iff.1 h
          cases heq
          obtain ⟨hcs, hread⟩ := ih hab
          exact ⟨by rw [hcs]; rfl, fun rest => by
            rw [List.cons_append, tagContent?_cons, if_neg hgo, hread]
            rfl⟩

/-- So does markup that starts with `<!`. -/
theorem Bang.of_content? {kind : Bang} {before content : List Char}
    (h : kind.content? before cs = some (content, rest)) :
    ∃ s, cs = s ++ '>' :: rest ∧
      ∀ rest, kind.content? before (s ++ '>' :: rest) = some (content, rest) := by
  induction cs generalizing before with
  | nil => contradiction
  | cons c cs ih =>
      unfold content? at h
      split at h
      · next hend =>
          cases h
          exact ⟨[], by rw [hend.1]; rfl, fun rest => by
            rw [List.nil_append, content?, if_pos ⟨rfl, hend.2⟩]⟩
      · next hgo =>
          obtain ⟨s, rfl, hread⟩ := ih h
          exact ⟨c :: s, rfl, fun rest => by
            rw [List.cons_append, content?, if_neg hgo, hread]⟩

/-- End tags and instructions go up to the first `>`, if there is one. -/
theorem eq_append_of_mem (h : '>' ∈ cs) : cs = cs.takeWhile (· != '>') ++
    '>' :: (cs.dropWhile (· != '>')).drop 1 := by
  induction cs with
  | nil => contradiction
  | cons c cs ih =>
      by_cases hc : c = '>'
      · simp [hc]
      · have hmem : '>' ∈ cs := by simpa [Ne.symm hc] using h
        conv_lhs => rw [ih hmem]
        simp [hc]

theorem mem_of_drop_ne_nil (h : (cs.dropWhile (· != '>')).drop 1 ≠ []) : '>' ∈ cs := by
  by_contra hno
  have hnil : cs.dropWhile (· != '>') = [] := by
    rw [List.dropWhile_eq_nil_iff]
    intro c hc
    simpa using fun he : c = '>' => hno (he ▸ hc)
  simp [hnil] at h

theorem takeWhile_append_end {s : List Char} (h : ∀ c ∈ s, c ≠ '>') (rest : List Char) :
    (s ++ '>' :: rest).takeWhile (· != '>') = s ∧
      ((s ++ '>' :: rest).dropWhile (· != '>')).drop 1 = rest := by
  have hgo : ∀ c ∈ s, (c != '>') = true := by simpa using h
  rw [List.takeWhile_append_of_pos hgo, List.dropWhile_append_of_pos hgo]
  simp

/-- A tag is not taken for other markup. -/
theorem markup_content {content : List Char}
    (h : ∀ c ∈ content.head?, c ≠ '!' ∧ c ≠ '/' ∧ c ≠ '?') (opened : List (List Char))
    (rest : List Char) :
    markup opened (content ++ '>' :: rest) = element opened (content ++ '>' :: rest) := by
  cases content with
  | nil => rfl
  | cons c content =>
      have hc := h c rfl
      unfold markup
      split <;> simp_all

/-- A tag that was read is a piece of its own. -/
theorem piece_of_element (hhead : ∀ c ∈ cs.head?, c ≠ '!' ∧ c ≠ '/' ∧ c ≠ '?')
    (h : element opened cs = .ok (event, ⟨rest, opened'⟩)) :
    ∃ p, cs = p ++ rest ∧ Piece opened ('<' :: p) event opened' := by
  unfold element at h
  cases hcontent : tagContent? none cs with
  | none => simp [hcontent] at h
  | some found =>
      obtain ⟨content, rest'⟩ := found
      obtain ⟨rfl, hread⟩ := of_tagContent? hcontent
      have hstart : ∀ c ∈ content.head?, c ≠ '!' ∧ c ≠ '/' ∧ c ≠ '?' := fun c hc =>
        hhead c (by cases content <;> simp_all)
      rw [hcontent] at h
      dsimp only at h
      refine ⟨content ++ ['>'], ?_, fun rest outer => ?_⟩
      · split at h <;> cases h <;> simp
      · rw [List.cons_append, next_markup, List.append_assoc, List.singleton_append,
          markup_content hstart, element, hread]
        dsimp only
        split at h <;> cases h <;> simp_all

theorem piece_of_bang (h : bang opened cs = .ok (event, ⟨rest, opened'⟩)) :
    ∃ p, cs = p ++ rest ∧ Piece opened ('<' :: '!' :: p) event opened' := by
  cases cs with
  | nil => contradiction
  | cons c cs =>
      unfold bang at h
      cases hfirst : Bang.ofFirst? c with
      | none => simp [hfirst] at h
      | some kind =>
          cases hcontent : kind.content? [] (c :: cs) with
          | none => simp [hfirst, hcontent] at h
          | some found =>
              obtain ⟨content, rest'⟩ := found
              simp only [hfirst, hcontent] at h
              obtain ⟨e, hevent, heq⟩ := exists_of_map_eq_ok h
              cases heq
              obtain ⟨s, hs, hread⟩ := Bang.of_content? hcontent
              refine ⟨s ++ ['>'], by simp [hs], fun rest outer => ?_⟩
              obtain ⟨tail, htail⟩ : ∃ tail, s ++ '>' :: rest = c :: tail := by
                cases s with
                | nil => cases hs; exact ⟨rest, rfl⟩
                | cons d s => cases hs; exact ⟨_, rfl⟩
              have hbang : next ⟨'<' :: '!' :: (s ++ '>' :: rest), opened ++ outer⟩ =
                  bang (opened ++ outer) (s ++ '>' :: rest) := rfl
              have hpiece : '<' :: '!' :: (s ++ ['>']) ++ rest =
                  '<' :: '!' :: (s ++ '>' :: rest) := by simp
              have hnew := hread rest
              rw [hpiece, hbang]
              rw [htail] at hnew ⊢
              simp [bang, hfirst, hnew, hevent, Except.map]

theorem piece_of_closing (h : closing opened cs = .ok (event, ⟨rest, opened'⟩))
    (hend : rest ≠ [] ∨ '>' ∈ cs) :
    ∃ p, cs = p ++ rest ∧ Piece opened ('<' :: '/' :: p) event opened' := by
  have hraw : ∀ c ∈ cs.takeWhile (· != '>'), c ≠ '>' := fun c hc => by
    simpa using List.mem_takeWhile_imp hc
  unfold closing at h
  cases opened with
  | nil => contradiction
  | cons name names =>
      dsimp only at h
      split at h
      · next hname =>
          cases h
          have hcs := eq_append_of_mem (hend.elim mem_of_drop_ne_nil id)
          refine ⟨cs.takeWhile (· != '>') ++ ['>'], by simpa using hcs, fun rest outer => ?_⟩
          have hclosing : next ⟨'<' :: '/' :: (cs.takeWhile (· != '>') ++ '>' :: rest),
              name :: opened' ++ outer⟩ = closing (name :: opened' ++ outer)
                (cs.takeWhile (· != '>') ++ '>' :: rest) := rfl
          have hpiece : '<' :: '/' :: (cs.takeWhile (· != '>') ++ ['>']) ++ rest =
              '<' :: '/' :: (cs.takeWhile (· != '>') ++ '>' :: rest) := by simp
          obtain ⟨htake, hdrop⟩ := takeWhile_append_end hraw rest
          rw [hpiece, hclosing]
          simp only [closing, List.cons_append, htake, hdrop, if_pos hname]
      · contradiction

theorem piece_of_instruction (h : instruction opened cs = .ok (event, ⟨rest, opened'⟩))
    (hend : rest ≠ [] ∨ '>' ∈ cs) :
    ∃ p, cs = p ++ rest ∧ Piece opened ('<' :: '?' :: p) event opened' := by
  have hraw : ∀ c ∈ cs.takeWhile (· != '>'), c ≠ '>' := fun c hc => by
    simpa using List.mem_takeWhile_imp hc
  unfold instruction at h
  dsimp only at h
  split at h
  · next hbody =>
      cases h
      have hcs := eq_append_of_mem (hend.elim mem_of_drop_ne_nil id)
      refine ⟨cs.takeWhile (· != '>') ++ ['>'], by simpa using hcs, fun rest outer => ?_⟩
      have hinstruction : next ⟨'<' :: '?' :: (cs.takeWhile (· != '>') ++ '>' :: rest),
          opened ++ outer⟩ = instruction (opened ++ outer)
            (cs.takeWhile (· != '>') ++ '>' :: rest) := rfl
      have hpiece : '<' :: '?' :: (cs.takeWhile (· != '>') ++ ['>']) ++ rest =
          '<' :: '?' :: (cs.takeWhile (· != '>') ++ '>' :: rest) := by simp
      obtain ⟨htake, hdrop⟩ := takeWhile_append_end hraw rest
      rw [hpiece, hinstruction]
      simp only [instruction, htake, hdrop, if_pos hbody]
  · contradiction

/-- Markup is read up to a `>` of its own, if it has one; up to there it is a piece. -/
theorem exists_piece (h : next ⟨'<' :: cs, opened⟩ = .ok (event, ⟨rest, opened'⟩))
    (hend : rest ≠ [] ∨ '>' ∈ cs) :
    ∃ p, cs = p ++ rest ∧ Piece opened ('<' :: p) event opened' := by
  rw [next_markup] at h
  unfold markup at h
  split at h
  · cases h
    simp at hend
  · next cs =>
      obtain ⟨p, rfl, hp⟩ := piece_of_bang h
      exact ⟨'!' :: p, rfl, hp⟩
  · next cs =>
      obtain ⟨p, rfl, hp⟩ := piece_of_closing h (by simpa using hend)
      exact ⟨'/' :: p, rfl, hp⟩
  · next cs =>
      obtain ⟨p, rfl, hp⟩ := piece_of_instruction h (by simpa using hend)
      exact ⟨'?' :: p, rfl, hp⟩
  · next _ hbang hslash hquestion =>
      refine piece_of_element (fun c hc => ?_) h
      cases cs with
      | nil => contradiction
      | cons d cs =>
          cases hc
          exact ⟨fun he => hbang cs (he ▸ rfl), fun he => hslash cs (he ▸ rfl),
            fun he => hquestion cs (he ▸ rfl)⟩

/-- What is read next is a piece, or a text up to the markup after it. -/
theorem next_cases {s : List Char} (h : next ⟨s, opened⟩ = .ok (event, ⟨rest, opened'⟩))
    (hend : rest ≠ [] ∨ s.getLast? = some '>') :
    ∃ p, s = p ++ rest ∧ (Piece opened p event opened' ∨
      event = .text p ∧ opened' = opened ∧ p ≠ [] ∧ '<' ∉ p ∧ ∀ c ∈ rest.head?, c = '<') := by
  cases s with
  | nil =>
      cases h
      simp at hend
  | cons c cs =>
      by_cases hc : c = '<'
      · subst hc
        have hlast : rest ≠ [] ∨ cs.getLast? = some '>' := by
          cases cs with
          | nil => exact hend.imp_right fun he => absurd he (by decide)
          | cons d cs => exact hend
        obtain ⟨p, rfl, hp⟩ := exists_piece h (hlast.imp_right List.mem_of_getLast?)
        exact ⟨'<' :: p, rfl, .inl hp⟩
      · rw [next_of_ne hc] at h
        cases h
        refine ⟨_, List.takeWhile_append_dropWhile.symm, .inr ⟨rfl, rfl, ?_, ?_, ?_⟩⟩
        · simp [hc]
        · exact fun hmem => absurd (List.mem_takeWhile_imp hmem) (by decide)
        · intro d hd
          have hstop := List.head?_dropWhile_not (· != '<') (c :: cs)
          rw [Option.mem_def.1 hd] at hstop
          simpa using hstop

end Reader

end SlotUpload.Xml
