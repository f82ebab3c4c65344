import Mathlib.Data.List.TakeWhile
import SlotUpload.Log.Entry
import SlotUpload.Proofs.Text.Numeral

/-!
# SlotUpload.Proofs.Log.Entry

Lines of the log, read from their beginning.  Each part of a line says where it ends: a
quoted text at the first quote that is not escaped, a bare value at the first blank, a key
at the equals sign.  So each part can be taken off a line together with its end
(`escape_append_inj`, `value_append_inj`), and a line has its entry in it and no other.

A line ends at its only line break, whatever the message and the values hold
(`line_unforgeable`).
-/

namespace SlotUpload

/-! ## texts that end at their first separator -/

/-- Two texts go up to the first character that does not satisfy `p`. -/
theorem Text.append_inj_of_forall {p : Char → Bool} {s t rest rest' : List Char}
    (hs : ∀ c ∈ s, p c) (ht : ∀ c ∈ t, p c) (hrest : ∀ c ∈ rest.head?, p c = false)
    (hrest' : ∀ c ∈ rest'.head?, p c = false) (h : s ++ rest = t ++ rest') :
    s = t ∧ rest = rest' := by
  have hend : ∀ {u v : List Char}, (∀ c ∈ u, p c) → (∀ c ∈ v.head?, p c = false) →
      (u ++ v).takeWhile p = u := by
    intro u v hu hv
    rw [List.takeWhile_append_of_pos hu]
    cases v with
    | nil => simp
    | cons c v => simp [hv c rfl]
  have hst : s = t := by rw [← hend hs hrest, h, hend ht hrest']
  subst hst
  exact ⟨rfl, List.append_cancel_left h⟩

namespace Moment

variable {c : Char}

theorem isDigit_of_mem_padded {width n : Nat} (h : c ∈ padded width n) : c.isDigit := by
  simp only [padded, List.mem_append, List.mem_replicate] at h
  rcases h with ⟨-, rfl⟩ | h
  · decide
  · exact Text.isDigit_of_mem_digits h

/-- The calendar form of a moment is on one line. -/
theorem newline_not_mem_text (t : Moment) : '\n' ∉ t.text.toList := by
  have hpadded : ∀ width n, '\n' ∉ padded width n :=
    fun width n h => absurd (isDigit_of_mem_padded h) (by decide)
  have hyear : ∀ year, '\n' ∉ yearText year := by
    intro year
    unfold yearText
    dsimp only
    split
    · simp [hpadded]
    · split <;> simp [hpadded]
  unfold text
  obtain ⟨year, month, day⟩ := civil (t.millis / 86400000)
  simp [hpadded, hyear]

end Moment

namespace Log

/-! ## texts between quotes -/

/-- The characters that are escaped, each after the one that stands for it. -/
def escapes : List (Char × Char) :=
  [('\\', '\\'), ('"', '"'), ('n', '\n'), ('r', '\r'), ('t', '\t')]

/-- No two characters have the same escape. -/
theorem escapes_inj : ∀ x ∈ escapes, ∀ y ∈ escapes, x.1 = y.1 → x.2 = y.2 := by decide

/-- What one character becomes between quotes. -/
inductive Escaped : Char → List Char → Prop
  | special {c : Char} (letter : Char) : (letter, c) ∈ escapes → Escaped c ['\\', letter]
  | plain {c : Char} : c ≠ '\\' → c ≠ '"' → c ≠ '\n' → Escaped c [c]

/-- A character is escaped with a letter of its own or stands for itself. -/
theorem escaped_escapeChar (c : Char) : Escaped c (escapeChar c) := by
  unfold escapeChar
  split
  case h_6 hbackslash hquote hnewline _ _ => exact .plain hbackslash hquote hnewline
  all_goals exact .special _ (by decide)

section Escape

variable {c d : Char} {s t rest rest' : List Char}

/-- What was escaped is told by its beginning. -/
theorem escapeChar_append_inj (h : escapeChar c ++ rest = escapeChar d ++ rest') :
    c = d ∧ rest = rest' := by
  have hc := escaped_escapeChar c
  have hd := escaped_escapeChar d
  generalize escapeChar c = u at h hc
  generalize escapeChar d = v at h hd
  cases hc with
  | special letter hletter =>
      cases hd with
      | special letter' hletter' =>
          obtain ⟨hsame, hrest⟩ : letter = letter' ∧ rest = rest' := by simpa using h
          exact ⟨escapes_inj _ hletter _ hletter' hsame, hrest⟩
      | plain hbackslash => exact absurd (List.cons.inj h).1.symm hbackslash
  | plain hbackslash =>
      cases hd with
      | special => exact absurd (List.cons.inj h).1 hbackslash
      | plain => simpa using h

/-- No character begins like the end of a quoted text. -/
theorem escapeChar_append_ne : escapeChar c ++ rest ≠ '"' :: rest' := by
  have hc := escaped_escapeChar c
  generalize escapeChar c = u at hc
  cases hc with
  | special => simp
  | plain _ hquote => simp [hquote]

/-- A text between quotes ends at the first quote that is not escaped. -/
theorem escape_append_inj (h : s.flatMap escapeChar ++ '"' :: rest =
    t.flatMap escapeChar ++ '"' :: rest') : s = t ∧ rest = rest' := by
  induction s generalizing t with
  | nil =>
      cases t with
      | nil => simpa using h
      | cons d t =>
          simp only [List.flatMap_nil, List.flatMap_cons, List.nil_append, List.append_assoc] at h
          exact absurd h.symm escapeChar_append_ne
  | cons c s ih =>
      cases t with
      | nil =>
          simp only [List.flatMap_nil, List.flatMap_cons, List.nil_append, List.append_assoc] at h
          exact absurd h escapeChar_append_ne
      | cons d t =>
          simp only [List.flatMap_cons, List.append_assoc] at h
          obtain ⟨hcd, hrest⟩ := escapeChar_append_inj h
          obtain ⟨hst, hend⟩ := ih hrest
          exact ⟨by rw [hcd, hst], hend⟩

end Escape

/-- A quoted text stands between quotes, every character escaped. -/
theorem toList_quote (s : String) :
    (quote s).toList = '"' :: (s.toList.flatMap escapeChar ++ ['"']) := by
  simp [quote]

/-- A quoted text is told by its beginning, whatever comes after it. -/
theorem quote_append_inj {s t : String} {rest rest' : List Char}
    (h : (quote s).toList ++ rest = (quote t).toList ++ rest') : s = t ∧ rest = rest' := by
  simp only [toList_quote, List.cons_append, List.append_assoc, List.nil_append,
    List.cons.injEq, true_and] at h
  obtain ⟨hst, hrest⟩ := escape_append_inj h
  exact ⟨String.toList_inj.1 hst, hrest⟩

/-- A text between quotes is on one line. -/
theorem newline_not_mem_quote (s : String) : '\n' ∉ (quote s).toList := by
  have hchar : ∀ c, '\n' ∉ escapeChar c := by
    intro c
    have hc := escaped_escapeChar c
    generalize escapeChar c = u at hc
    cases hc with
    | special letter hletter =>
        rintro hmem
        simp only [List.mem_cons, List.not_mem_nil, or_false] at hmem
        rcases hmem with hmem | rfl
        · exact absurd hmem (by decide)
        · exact absurd hletter (by simp [escapes])
    | plain _ _ hnewline => simpa using hnewline.symm
  simp [toList_quote, hchar]

/-! ## values -/

/-- A bare text is not empty and has neither blanks nor quotes nor equals signs. -/
theorem isBare_iff {s : String} : isBare s ↔
    s ≠ "" ∧ ∀ c ∈ s.toList, Text.isBlank c = false ∧ c ≠ '"' ∧ c ≠ '=' := by
  simp [isBare, and_assoc]

/-- A value ends before the blank that follows it. -/
theorem value_append_inj {s t : String} {rest rest' : List Char}
    (hrest : ∀ c ∈ rest.head?, Text.isBlank c) (hrest' : ∀ c ∈ rest'.head?, Text.isBlank c)
    (h : (value s).toList ++ rest = (value t).toList ++ rest') : s = t ∧ rest = rest' := by
  -- a bare value is not empty and does not start with a quote
  have hne : ∀ {s t : String} {u v : List Char}, isBare s →
      s.toList ++ u ≠ (quote t).toList ++ v := by
    intro s t u v hs heq
    obtain ⟨hempty, hall⟩ := isBare_iff.1 hs
    cases hchars : s.toList with
    | nil => exact hempty (String.toList_eq_nil_iff.1 hchars)
    | cons c cs =>
        have hc := (hall c (by simp [hchars])).2.1
        simp [hchars, toList_quote, hc] at heq
  unfold value at h
  split at h
  · next hs =>
      split at h
      · next ht =>
          have hend := Text.append_inj_of_forall (p := fun c => !Text.isBlank c)
            (fun c hc => by simp [((isBare_iff.1 hs).2 c hc).1])
            (fun c hc => by simp [((isBare_iff.1 ht).2 c hc).1])
            (fun c hc => by simp [hrest c hc]) (fun c hc => by simp [hrest' c hc]) h
          exact ⟨String.toList_inj.1 hend.1, hend.2⟩
      · exact absurd h (hne hs)
  · split at h
    · next ht => exact absurd h.symm (hne ht)
    · exact quote_append_inj h

/-- A value is on one line. -/
theorem newline_not_mem_value (s : String) : '\n' ∉ (value s).toList := by
  unfold value
  split
  · next hs =>
      intro hmem
      have hblank := ((isBare_iff.1 hs).2 '\n' hmem).1
      exact absurd hblank (by decide)
  · exact newline_not_mem_quote s

/-! ## lines -/

/-- The level is told by the first word. -/
theorem Level.name_append_inj {l l' : Level} {rest rest' : List Char}
    (h : l.name.toList ++ ' ' :: rest = l'.name.toList ++ ' ' :: rest') :
    l = l' ∧ rest = rest' := by
  have hletters : ∀ l : Level, ∀ c ∈ l.name.toList, (c != ' ') = true := by
    intro l
    cases l <;> simp [Level.name]
  obtain ⟨hname, hend⟩ := Text.append_inj_of_forall (p := (· != ' ')) (hletters l) (hletters l')
    (by simp) (by simp) h
  refine ⟨?_, (List.cons.inj hend).2⟩
  revert hname
  cases l <;> cases l' <;> decide

namespace Entry

/-- Can a text be the key of a field?  It has no blank, no quote and no equals sign in it. -/
def IsKey (key : String) : Prop :=
  ∀ c ∈ key.toList, Text.isBlank c = false ∧ c ≠ '"' ∧ c ≠ '='

/-- The keys of an entry can be told from its values. -/
def WellKeyed (e : Entry) : Prop := ∀ field ∈ e.fields, IsKey field.1

section Fields

variable {fields fields' : List (String × String)}

/-- Fields as they stand in a line. -/
def fieldChars (fields : List (String × String)) : List Char :=
  fields.flatMap fun field => ' ' :: (field.1.toList ++ '=' :: (value field.2).toList)

/-- The fields are written one after the other. -/
theorem toList_join_fieldText (fields : List (String × String)) :
    (String.join (fields.map fieldText)).toList = fieldChars fields := by
  rw [String.toList_join, List.flatMap_map]
  simp [fieldChars, fieldText]

/-- Fields, with the end of the line after them, start with a blank. -/
theorem isBlank_head_fieldChars (fields : List (String × String)) :
    ∀ c ∈ (fieldChars fields ++ ['\n']).head?, Text.isBlank c := by
  cases fields <;> simp [fieldChars] <;> decide

/-- Fields can be told from a line. -/
theorem fieldChars_inj (hkeys : ∀ field ∈ fields, IsKey field.1)
    (hkeys' : ∀ field ∈ fields', IsKey field.1)
    (h : fieldChars fields ++ ['\n'] = fieldChars fields' ++ ['\n']) : fields = fields' := by
  induction fields generalizing fields' with
  | nil => cases fields' <;> simp [fieldChars] at h ⊢
  | cons field fields ih =>
      cases fields' with
      | nil => simp [fieldChars] at h
      | cons field' fields' =>
          obtain ⟨hkey, hkeys⟩ := List.forall_mem_cons.1 hkeys
          obtain ⟨hkey', hkeys'⟩ := List.forall_mem_cons.1 hkeys'
          simp only [fieldChars, List.flatMap_cons, List.cons_append, List.append_assoc,
            List.cons.injEq, true_and] at h
          obtain ⟨hname, hrest⟩ := Text.append_inj_of_forall (p := (· != '='))
            (fun c hc => by simp [(hkey c hc).2.2]) (fun c hc => by simp [(hkey' c hc).2.2])
            (by simp) (by simp) h
          obtain ⟨hvalue, hend⟩ := value_append_inj (isBlank_head_fieldChars fields)
            (isBlank_head_fieldChars fields') (List.cons.inj hrest).2
          rw [Prod.ext (String.toList_inj.1 hname) hvalue, ih hkeys hkeys' hend]

/-- There is no line break in the fields, whatever they say. -/
theorem newline_not_mem_fieldChars (hkeys : ∀ field ∈ fields, IsKey field.1) :
    '\n' ∉ fieldChars fields := by
  intro hmem
  obtain ⟨field, hfield, hmem⟩ := List.mem_flatMap.1 hmem
  simp only [List.mem_cons, List.mem_append] at hmem
  rcases hmem with hmem | hmem | hmem | hmem
  · exact absurd hmem (by decide)
  · exact absurd (hkeys field hfield '\n' hmem).1 (by decide)
  · exact absurd hmem (by decide)
  · exact newline_not_mem_value _ hmem

end Fields

/-- A line, part by part. -/
theorem toList_line (e : Entry) (moment : Moment) : (e.line moment).toList =
    "time=".toList ++ moment.text.toList ++ " level=".toList ++ (e.level.name.toList ++
      ' ' :: ("msg=".toList ++ ((quote e.message).toList ++ (fieldChars e.fields ++ ['\n'])))) := by
  simp only [line, text, String.toList_append, toList_join_fieldText]
  simp

/-- Entries of one moment that make the same line are the same. -/
theorem line_inj {moment : Moment} {e e' : Entry} (he : e.WellKeyed) (he' : e'.WellKeyed)
    (h : e.line moment = e'.line moment) : e = e' := by
  have hchars := congrArg String.toList h
  simp only [toList_line, List.append_assoc, List.append_cancel_left_eq] at hchars
  obtain ⟨hlevel, hrest⟩ := Level.name_append_inj hchars
  obtain ⟨hmessage, hrest⟩ := quote_append_inj (List.append_cancel_left hrest)
  have hfields := fieldChars_inj he he' hrest
  cases e
  cases e'
  simp_all

/-- A line ends at its only line break. -/
theorem exists_line {e : Entry} (he : e.WellKeyed) (moment : Moment) :
    ∃ s : List Char, (e.line moment).toList = s ++ ['\n'] ∧ '\n' ∉ s := by
  have hlevel : '\n' ∉ e.level.name.toList := by cases e.level <;> decide
  refine ⟨"time=".toList ++ moment.text.toList ++ " level=".toList ++ (e.level.name.toList ++
    ' ' :: ("msg=".toList ++ ((quote e.message).toList ++ fieldChars e.fields))), ?_, ?_⟩
  · simp [toList_line]
  · simp [hlevel, moment.newline_not_mem_text, newline_not_mem_quote,
      newline_not_mem_fieldChars he]

/-- **Lines cannot be forged**: whatever its message and values are, the line of an entry
ends at its only line break, and no other entry of the moment makes the same line. -/
theorem line_unforgeable (moment : Moment) (e : Entry) (he : e.WellKeyed) :
    (∃ s : List Char, (e.line moment).toList = s ++ ['\n'] ∧ '\n' ∉ s) ∧
      ∀ e' : Entry, e'.WellKeyed → e'.line moment = e.line moment → e' = e :=
  ⟨exists_line he moment, fun _ he' h => line_inj he' he h⟩

/-- A message that spells a field, and a value that spells another line, make neither. -/
theorem line_unforgeable_disguised :
    let e : Entry :=
      { level := .warn, message := "done\" peer=\"romeo"
        fields := [("error", "\\\"\nlevel=INFO msg=\"all is well")] }
    let e' : Entry :=
      { level := .warn, message := "done"
        fields := [("peer", "romeo"), ("error", "\\\"\nlevel=INFO msg=\"all is well")] }
    (e.WellKeyed ∧ e'.WellKeyed) ∧
      (∃ s : List Char, (e.line ⟨-1⟩).toList = s ++ ['\n'] ∧ '\n' ∉ s) ∧
        e'.line ⟨-1⟩ ≠ e.line ⟨-1⟩ := by
  intro e e'
  have he : e.WellKeyed := by simp [e, WellKeyed, IsKey, Text.isBlank]
  have he' : e'.WellKeyed := by simp [e', WellKeyed, IsKey, Text.isBlank]
  obtain ⟨hline, hunique⟩ := line_unforgeable ⟨-1⟩ e he
  exact ⟨⟨he, he'⟩, hline, fun h => absurd (hunique e' he' h) (by decide)⟩

end Entry

end Log

end SlotUpload
