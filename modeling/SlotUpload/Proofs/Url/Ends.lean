import SlotUpload.Url.Parser

/-!
# SlotUpload.Proofs.Url.Ends

A URL that was read is written with no blank at its ends, so trimming leaves the
text of a URL alone (`trimmed_toString_of_parse`).  It starts with the first
letter of its scheme.  What it ends with depends on its last part: queries,
fragments, segments and names of hosts hold graphic characters only, everything
else in them being percent-encoded; a path with no structure may hold spaces, but
not at the end of the text that it was read from.
-/

namespace SlotUpload.Url

/-! ## graphic characters -/

/-- The characters of ASCII that can be seen. -/
def isGraphic (c : Char) : Bool := 0x20 < c.toNat && c.toNat < 0x7F

theorem isBlank_eq_false_of_isGraphic {c : Char} (h : isGraphic c) : Text.isBlank c = false := by
  simp only [isGraphic, Bool.and_eq_true, decide_eq_true_eq] at h
  exact Text.isBlank_eq_false_of_visible h

theorem toNat_lt_of_isAlpha {c : Char} (h : c.isAlpha) : c.toNat < 123 := by
  have hletter : (decide ('A'.val ≤ c.val ∧ c.val ≤ 'Z'.val) ||
      (decide ('a'.val ≤ c.val) && decide (c.val ≤ 'z'.val))) = true := h
  simp only [Bool.or_eq_true, Bool.and_eq_true, decide_eq_true_eq, UInt32.le_iff_toNat_le]
    at hletter
  have hZ : 'Z'.val.toNat = 90 := rfl
  have hz : 'z'.val.toNat = 122 := rfl
  change c.val.toNat < 123
  omega

theorem isGraphic_toLower {c : Char} (h : c.isAlpha) : isGraphic c.toLower := by
  have hall : ∀ n : Fin 123, (Char.ofNat n).isAlpha → isGraphic (Char.ofNat n).toLower := by
    decide
  have hc := hall ⟨c.toNat, toNat_lt_of_isAlpha h⟩
  rw [Char.ofNat_toNat] at hc
  exact hc h

theorem isGraphic_of_isDigit {c : Char} (h : c.isDigit) : isGraphic c := by
  rw [Char.isDigit_iff_toNat] at h
  have h0 : '0'.toNat = 48 := rfl
  have h9 : '9'.toNat = 57 := rfl
  simp only [isGraphic, Bool.and_eq_true, decide_eq_true_eq]
  omega

namespace Percent

theorem isGraphic_upperHex {n : Nat} (h : n < 16) : isGraphic (upperHex n) := by
  have hall : ∀ k : Fin 16, isGraphic (upperHex k) := by decide
  exact hall ⟨n, h⟩

theorem isGraphic_of_mem_encodeByte {b : UInt8} {c : Char} (h : c ∈ encodeByte b) :
    isGraphic c := by
  have hb : b.toNat < 256 := b.toNat_lt
  simp only [encodeByte, List.mem_cons, List.not_mem_nil, or_false] at h
  rcases h with rfl | rfl | rfl
  · decide
  · exact isGraphic_upperHex (by omega)
  · exact isGraphic_upperHex (by omega)

/-- A character is written in graphic ones, unless it is a space that may stand
where it is. -/
theorem isGraphic_of_mem_encodeChar {set : Char → Bool} {c d : Char}
    (hspace : c = ' ' → set ' ') (h : d ∈ encodeChar set c) : isGraphic d := by
  unfold encodeChar at h
  split at h
  · obtain ⟨b, -, hd⟩ := List.mem_flatMap.1 h
    exact isGraphic_of_mem_encodeByte hd
  · next hc =>
      rw [List.mem_singleton] at h
      subst h
      have hne : d.toNat ≠ ' '.toNat := by
        intro he
        have hd : d = ' ' := Char.toNat_inj.1 he
        simp [isEncoded, hd, hspace hd] at hc
      simp only [isEncoded, Bool.or_eq_true, decide_eq_true_eq, not_or] at hc
      simp only [isGraphic, Bool.and_eq_true, decide_eq_true_eq]
      have : ' '.toNat = 32 := rfl
      omega

theorem encodeChar_ne_nil (set : Char → Bool) (c : Char) : encodeChar set c ≠ [] := by
  unfold encodeChar
  split
  · obtain ⟨b, bytes, hbytes⟩ :=
      List.exists_cons_of_ne_nil (String.utf8EncodeChar_ne_nil (c := c))
    rw [hbytes]
    exact List.cons_ne_nil _ _
  · exact List.cons_ne_nil _ _

/-- An encoded text is graphic where spaces are encoded. -/
theorem isGraphic_of_mem_encode {set : Char → Bool} (hset : set ' ') {s : List Char} {c : Char}
    (h : c ∈ encode set s) : isGraphic c := by
  obtain ⟨d, -, hd⟩ := List.mem_flatMap.1 h
  exact isGraphic_of_mem_encodeChar (fun _ => hset) hd

end Percent

/-! ## texts that do not end in a blank -/

/-- A text does not end in a blank; the empty text does not. -/
def Solid (s : List Char) : Prop := ∀ c ∈ s.getLast?, Text.isBlank c = false

namespace Solid

variable {s t : List Char}

theorem nil : Solid [] := by simp [Solid]

theorem append_of_ne_nil (ht : Solid t) (hne : t ≠ []) : Solid (s ++ t) := by
  intro c hc
  rw [List.getLast?_append, Option.or_of_isSome (by simpa using hne)] at hc
  exact ht c hc

theorem append (hs : Solid s) (ht : Solid t) : Solid (s ++ t) := by
  by_cases hne : t = []
  · rwa [hne, List.append_nil]
  · exact append_of_ne_nil ht hne

theorem of_isGraphic (h : ∀ c ∈ s, isGraphic c) : Solid s := fun c hc =>
  isBlank_eq_false_of_isGraphic (h c (List.mem_of_mem_getLast? hc))

/-- `of_isGraphic` for a text that is given. -/
theorem of_all (h : s.all isGraphic) : Solid s := of_isGraphic (List.all_eq_true.1 h)

/-- An encoded text is solid where spaces are encoded. -/
theorem encode {set : Char → Bool} (hset : set ' ') (s : List Char) :
    Solid (Percent.encode set s) :=
  of_isGraphic fun _ => Percent.isGraphic_of_mem_encode hset

/-- Where spaces stay, a text is solid if it does not end in one. -/
theorem encode_controlsOnly (h : ∀ c ∈ s.getLast?, 0x20 < c.toNat) :
    Solid (Percent.encode Percent.controlsOnly s) := by
  rcases List.eq_nil_or_concat s with rfl | ⟨s, c, rfl⟩
  · exact nil
  · have hc : 0x20 < c.toNat := h c (by rw [List.concat_eq_append, List.getLast?_concat]; rfl)
    have hne : c ≠ ' ' := by
      rintro rfl
      contradiction
    rw [Percent.encode, List.concat_eq_append, List.flatMap_append, List.flatMap_singleton]
    exact append_of_ne_nil
      (of_isGraphic fun _ => Percent.isGraphic_of_mem_encodeChar fun he => absurd he hne)
      (Percent.encodeChar_ne_nil _ c)

end Solid

/-! ## paths -/

/-- Segments of which none ends in a blank. -/
def SolidList (list : List String) : Prop := ∀ s ∈ list, Solid s.toList

namespace Trail

variable {t : Trail} {name : String}

theorem solid_segmentText (s : List Char) : Solid (segmentText s).toList := by
  rw [segmentText, String.toList_ofList]
  exact .encode (by simp [Percent.inPath, Percent.inFragment]) s

theorem solid_enter (ht : SolidList t.back) (hname : Solid name.toList) :
    SolidList (t.enter name).back :=
  List.forall_mem_cons.2 ⟨hname, ht⟩

theorem solid_leave (ht : SolidList t.back) : SolidList t.leave.back := by
  unfold leave
  split
  · exact ht
  · next hback =>
      split
      · exact ht
      · exact fun r hr => ht r (hback ▸ List.mem_cons_of_mem _ hr)

/-- A step along a path keeps its segments solid. -/
theorem solid_step (last : Bool) (segment : List Char) (ht : SolidList t.back) :
    SolidList (t.step last segment).back := by
  have hclose : ∀ t : Trail, SolidList t.back →
      SolidList (if last then t.enter "" else t).back := by
    intro t ht
    split
    · exact solid_enter ht .nil
    · exact ht
  unfold step
  dsimp only
  split
  · exact hclose _ (solid_leave ht)
  · split
    · exact hclose _ ht
    · exact solid_enter ht (solid_segmentText segment)

/-- The name of a drive ends in a colon. -/
theorem solid_drive (c : Char) : Solid (String.ofList [c, ':']).toList := by
  rw [String.toList_ofList]
  exact Solid.append_of_ne_nil (s := [c]) (Solid.of_all (s := [':']) (by decide)) (by simp)

theorem solid_stepFile (last : Bool) (segment : List Char) (ht : SolidList t.back) :
    SolidList (t.stepFile last segment).back := by
  unfold stepFile
  split
  · next drive name h =>
      have hdrive : Solid drive.toList := by
        unfold broken? at h
        split at h
        · split at h
          · cases h; exact solid_drive _
          · cases h
        · cases h
      exact solid_enter (solid_enter ht hdrive) (solid_segmentText name)
  · split
    · next drive h =>
        have hdrive : Solid drive.toList := by
          unfold drive? at h
          split at h
          · split at h
            · cases h; exact solid_drive _
            · cases h
          · cases h
        exact List.forall_mem_singleton.2 hdrive
    · exact solid_step last _ ht

theorem step_last_ne_nil (segment : List Char) : (t.step true segment).back ≠ [] := by
  unfold step
  dsimp only
  split
  · exact List.cons_ne_nil _ _
  · split <;> exact List.cons_ne_nil _ _

theorem stepFile_last_ne_nil (segment : List Char) : (t.stepFile true segment).back ≠ [] := by
  unfold stepFile
  split
  · exact List.cons_ne_nil _ _
  · split
    · exact List.cons_ne_nil _ _
    · exact step_last_ne_nil _

variable {step : Trail → Bool → List Char → Trail}

/-- A walk keeps what every step keeps. -/
theorem solid_walk (hstep : ∀ (t : Trail) last segment, SolidList t.back →
    SolidList (step t last segment).back) (segments : List (List Char))
    (ht : SolidList t.back) : SolidList (walk step t segments).back := by
  induction segments generalizing t with
  | nil => exact ht
  | cons segment segments ih =>
      cases segments with
      | nil => exact hstep t true segment ht
      | cons next segments => exact ih (hstep t false segment ht)

/-- A walk leaves a segment behind if its last step does. -/
theorem walk_ne_nil (hstep : ∀ (t : Trail) segment, (step t true segment).back ≠ [])
    {segments : List (List Char)} (h : segments ≠ []) : (walk step t segments).back ≠ [] := by
  induction segments generalizing t with
  | nil => contradiction
  | cons segment segments ih =>
      cases segments with
      | nil => exact hstep t segment
      | cons next segments => exact ih (List.cons_ne_nil _ _)

end Trail

theorem segmentsOf_ne_nil (special : Bool) (s : List Char) : segmentsOf special s ≠ [] := by
  rw [segmentsOf, ne_eq, List.reverse_eq_nil_iff]
  exact Trail.walk_ne_nil (fun _ => Trail.step_last_ne_nil) (Text.pieces_ne_nil _ _)

/-- The segments of a path are solid. -/
theorem solid_segmentsOf (special : Bool) (s : List Char) : SolidList (segmentsOf special s) := by
  intro segment h
  rw [segmentsOf, List.mem_reverse] at h
  exact Trail.solid_walk (fun _ => Trail.solid_step) _ (by simp [SolidList]) segment h

theorem dropEmptyStart_ne_nil {list : List String} (h : list ≠ []) : dropEmptyStart list ≠ [] := by
  induction list with
  | nil => contradiction
  | cons s list ih =>
      unfold dropEmptyStart
      split
      · next h' => cases h'; exact ih (List.cons_ne_nil _ _)
      · exact h

theorem solid_dropEmptyStart {list : List String} (h : SolidList list) :
    SolidList (dropEmptyStart list) := by
  induction list with
  | nil => exact h
  | cons s list ih =>
      unfold dropEmptyStart
      split
      · next h' => cases h'; exact ih (List.forall_mem_cons.1 h).2
      · exact h

theorem fileSegmentsOf_ne_nil (s : List Char) : (fileSegmentsOf s).1 ≠ [] := by
  refine dropEmptyStart_ne_nil ?_
  rw [ne_eq, List.reverse_eq_nil_iff]
  exact Trail.walk_ne_nil (fun _ => Trail.stepFile_last_ne_nil) (Text.pieces_ne_nil _ _)

theorem solid_fileSegmentsOf (s : List Char) : SolidList (fileSegmentsOf s).1 := by
  refine solid_dropEmptyStart fun segment h => ?_
  rw [List.mem_reverse] at h
  exact Trail.solid_walk (fun _ => Trail.solid_stepFile) _ (by simp [SolidList]) segment h

/-- A path of solid segments is solid. -/
theorem Path.solid_toString {list : List String} (h : SolidList list) :
    Solid (Path.segments list).toString.toList := by
  rw [Path.toString, String.toList_join]
  induction list with
  | nil => exact .nil
  | cons s list ih =>
      obtain ⟨hs, hlist⟩ := List.forall_mem_cons.1 h
      rw [List.map_cons, List.flatMap_cons, String.toList_append]
      exact .append (.append (.of_all (by decide)) hs) (ih hlist)

theorem Path.toString_ne_nil {list : List String} (h : list ≠ []) :
    (Path.segments list).toString.toList ≠ [] := by
  cases list with
  | nil => contradiction
  | cons s list => simp [Path.toString]

/-! ## authorities -/

theorem exists_of_bind_eq_ok {ε α β : Type} {x : Except ε α} {f : α → Except ε β} {b : β}
    (h : x >>= f = .ok b) : ∃ a, x = .ok a ∧ f a = .ok b := by
  cases x with
  | error e => cases h
  | ok a => exact ⟨a, rfl, h⟩

namespace Host

/-- A host in brackets is solid. -/
theorem solid_toString_of_bracketed {s : List Char} {host : Host} (h : bracketed s = .ok host) :
    Solid host.toString.toList := by
  unfold bracketed at h
  split at h
  · cases hparse : Ipv6.parse s.dropLast with
    | error e => rw [hparse] at h; cases h
    | ok address =>
        rw [hparse] at h
        cases h
        rw [Host.toString, String.toList_append]
        exact .append_of_ne_nil (.of_all (by decide)) (by decide)
  · cases h

/-- A host of a general scheme holds no space, which would be left as it is. -/
theorem solid_toString_of_parseGeneral {s : List Char} {host : Host}
    (h : parseGeneral s = .ok host) : Solid host.toString.toList := by
  unfold parseGeneral at h
  split at h
  · exact solid_toString_of_bracketed h
  · split at h
    · cases h
    · next hforbidden =>
        cases h
        rw [Host.toString, String.toList_ofList]
        refine .of_isGraphic fun d hd => ?_
        obtain ⟨c, hc, hd⟩ := List.mem_flatMap.1 hd
        refine Percent.isGraphic_of_mem_encodeChar ?_ hd
        rintro rfl
        refine absurd (List.any_eq_true.2 ⟨' ', hc, ?_⟩) hforbidden
        simp [isForbidden]

end Host

section General

variable {scheme : String} {last : Bool} {s rest : List Char}

/-- Where the scheme is not special, the host is solid. -/
theorem solid_of_hostAndPort {host : Host} {port : Option UInt16}
    (hscheme : isSpecial scheme = false) (h : hostAndPort scheme s = .ok (host, port, rest)) :
    Solid host.toString.toList := by
  unfold hostAndPort at h
  simp only [hscheme, Bool.false_eq_true, false_and, if_false] at h
  obtain ⟨host', hhost, h⟩ := exists_of_bind_eq_ok h
  split at h
  · cases h
  · obtain ⟨_, -, h⟩ := exists_of_bind_eq_ok h
    cases h
    exact Host.solid_toString_of_parseGeneral hhost

theorem solid_of_authorityOf {a : Authority} (hscheme : isSpecial scheme = false)
    (h : authorityOf scheme last s = .ok (a, rest)) : Solid a.host.toString.toList := by
  unfold authorityOf at h
  split at h
  · obtain ⟨⟨host, port, _⟩, hhost, h⟩ := exists_of_bind_eq_ok h
    cases h
    exact solid_of_hostAndPort hscheme hhost
  · next info s' _ =>
      split at h
      · cases h
      · generalize userinfoOf info = parts at h
        obtain ⟨⟨host, port, _⟩, hhost, h⟩ := exists_of_bind_eq_ok h
        dsimp only at h
        split at h
        · cases h
        · cases h
          exact solid_of_hostAndPort hscheme hhost

end General

/-- An authority ends as solidly as its host. -/
theorem Authority.solid_toString {a : Authority} (h : Solid a.host.toString.toList) :
    Solid a.toString.toList := by
  have huser : Solid a.userinfo.toList := by
    unfold userinfo
    split
    · rw [String.toList_append]
      exact .append_of_ne_nil (.of_all (by decide)) (by decide)
    · split
      · exact .nil
      · rw [String.toList_append]
        exact .append_of_ne_nil (.of_all (by decide)) (by decide)
  unfold Authority.toString
  rw [String.toList_append, String.toList_append]
  refine .append (.append huser h) ?_
  cases a.port with
  | none => exact .nil
  | some port =>
      have hdigits : port.toNat.repr.toList = Nat.toDigits 10 port.toNat := by
        rw [Nat.repr_eq_ofList_toDigits, String.toList_ofList]
      change Solid (":" ++ port.toNat.repr).toList
      rw [String.toList_append, hdigits]
      refine .append (.of_all (by decide)) (.of_isGraphic fun c hc => ?_)
      exact isGraphic_of_isDigit (Nat.isDigit_of_mem_toDigits (by decide) (by decide) hc)

/-! ## the whole -/

/-- Authority and path leave no blank at the end, whatever follows. -/
def SolidFront (authority : Option Authority) (path : Path) : Prop :=
  Solid path.toString.toList ∧
    (path.toString.toList ≠ [] ∨ ∀ a ∈ authority, Solid a.toString.toList)

theorem SolidFront.of_ne_nil {authority : Option Authority} {list : List String}
    (h : SolidList list) (hne : list ≠ []) : SolidFront authority (.segments list) :=
  ⟨Path.solid_toString h, .inl (Path.toString_ne_nil hne)⟩

/-- What stands before the query of a special URL is solid. -/
theorem solidFront_special {scheme : String} {s : List Char} {authority : Option Authority}
    {path : Path} (h : special scheme s = .ok (authority, path)) : SolidFront authority path := by
  unfold special at h
  dsimp only at h
  split at h
  · cases h
  · cases h
    exact .of_ne_nil (solid_segmentsOf true _) (segmentsOf_ne_nil true _)

theorem solidFront_onHost (host : Host) (s : List Char) :
    SolidFront (onHost host s).1 (onHost host s).2 :=
  .of_ne_nil (solid_fileSegmentsOf s) (fileSegmentsOf_ne_nil s)

theorem solidFront_file {s : List Char} {authority : Option Authority} {path : Path}
    (h : file s = .ok (authority, path)) : SolidFront authority path := by
  have honHost : ∀ host s, .ok (onHost host s) = (Except.ok (authority, path) : Except Error _) →
      SolidFront authority path := by
    intro host s h
    have := solidFront_onHost host s
    rwa [Except.ok.inj h] at this
  unfold file at h
  dsimp only at h
  split at h
  · exact honHost _ _ h
  · split at h
    · exact honHost _ _ h
    · split at h
      · exact honHost _ _ h
      · split at h
        · cases h
        · exact honHost _ _ h

/-- The path of a general scheme may be a text with no structure, which ends as
the text that was read does. -/
theorem solidFront_general {scheme : String} {last : Bool} {s : List Char}
    {authority : Option Authority} {path : Path} (hscheme : isSpecial scheme = false)
    (hs : ∀ c ∈ s.getLast?, 0x20 < c.toNat) (h : general scheme last s = .ok (authority, path)) :
    SolidFront authority path := by
  unfold general at h
  split at h
  · dsimp only at h
    split at h
    · cases h
    · next a more ha =>
        have hauthority : ∀ b ∈ some a, Solid b.toString.toList := by
          simpa using Authority.solid_toString (solid_of_authorityOf hscheme ha)
        split at h <;> cases h
        · exact ⟨.nil, .inr hauthority⟩
        · exact ⟨Path.solid_toString (solid_segmentsOf false _), .inr hauthority⟩
        · exact ⟨Path.solid_toString (solid_segmentsOf false _), .inr hauthority⟩
  · cases h
    exact .of_ne_nil (solid_segmentsOf false _) (segmentsOf_ne_nil false _)
  · cases h
    refine ⟨?_, .inr (by simp)⟩
    rw [Path.toString, String.toList_ofList]
    exact .encode_controlsOnly hs

/-- Query and fragment are solid. -/
theorem solid_tailOf (special : Bool) (s : List Char) :
    (∀ q ∈ (tailOf special s).1, Solid q.toList) ∧
      (∀ f ∈ (tailOf special s).2, Solid f.toList) := by
  have hquery : ∀ s, Solid (String.ofList (Percent.encode
      (if special then Percent.inSpecialQuery else Percent.inQuery) s)).toList := by
    intro s
    rw [String.toList_ofList]
    refine .encode ?_ s
    split <;> simp [Percent.inSpecialQuery, Percent.inQuery]
  have hfragment : ∀ s, Solid (String.ofList (Percent.encode Percent.inFragment s)).toList := by
    intro s
    rw [String.toList_ofList]
    exact .encode (by simp [Percent.inFragment]) s
  unfold tailOf
  split
  next query rest hsplit =>
  have hq : ∀ q ∈ query, Solid q.toList := by
    split at hsplit <;> cases hsplit
    · rintro q ⟨⟩
      exact hquery _
    · rintro q ⟨⟩
  split
  · refine ⟨hq, ?_⟩
    rintro f ⟨⟩
    exact hfragment _
  · exact ⟨hq, by rintro f ⟨⟩⟩

/-- What has no query and no fragment does not start with the sign of one. -/
theorem head?_of_tailOf_eq_none {special : Bool} {s : List Char}
    (h : tailOf special s = (none, none)) : ∀ c ∈ s.head?, c ≠ '?' ∧ c ≠ '#' := by
  rintro c hc
  obtain ⟨rest, rfl⟩ := List.head?_eq_some_iff.1 hc
  constructor
  · rintro rfl
    unfold tailOf at h
    dsimp only at h
    split at h <;> cases h
  · rintro rfl
    cases h

/-- Does a character stand before query and fragment? -/
def isFront (c : Char) : Bool := c != '?' && c != '#'

/-- Where neither query nor fragment is read, the text before them is all there is. -/
theorem takeWhile_isFront_of_tailOf {special : Bool} {s : List Char}
    (h : tailOf special (joined (s.dropWhile isFront)) = (none, none)) :
    s.takeWhile isFront = s := by
  cases hback : s.dropWhile isFront with
  | nil =>
      have hcut : s.takeWhile isFront ++ s.dropWhile isFront = s := List.takeWhile_append_dropWhile
      rwa [hback, List.append_nil] at hcut
  | cons c rest =>
      have hc : c = '?' ∨ c = '#' := by
        have hstop := List.head?_dropWhile_not isFront s
        simp only [hback, List.head?_cons, isFront, Bool.and_eq_false_iff, bne_eq_false_iff_eq]
          at hstop
        exact hstop
      have hbreak : isBreak c = false := by rcases hc with rfl | rfl <;> decide
      rw [hback, joined, List.filter_cons_of_pos (by simp [hbreak])] at h
      obtain ⟨h1, h2⟩ := head?_of_tailOf_eq_none h c rfl
      exact (hc.elim h1 h2).elim

/-- Taking breaks out leaves the end of a text as it is, if that is neither a
control character nor a space. -/
theorem getLast?_joined {s : List Char} (h : ∀ c ∈ s.getLast?, 0x20 < c.toNat) :
    ∀ c ∈ (joined s).getLast?, 0x20 < c.toNat := by
  rcases List.eq_nil_or_concat s with rfl | ⟨s, c, rfl⟩
  · simp [joined]
  · have hc : 0x20 < c.toNat := h c (by rw [List.concat_eq_append, List.getLast?_concat]; rfl)
    have hbreak : isBreak c = false := by
      simp only [isBreak, Bool.or_eq_false_iff, beq_eq_false_iff_ne]
      refine ⟨⟨?_, ?_⟩, ?_⟩ <;> rintro rfl <;> contradiction
    rw [joined, List.concat_eq_append, List.filter_append,
      List.filter_cons_of_pos (by simp [hbreak]), List.filter_nil, List.getLast?_concat]
    rintro d ⟨⟩
    exact hc

/-- The text of a URL ends in its last part. -/
theorem solid_toString {u : Url} (hquery : ∀ q ∈ u.query, Solid q.toList)
    (hfragment : ∀ f ∈ u.fragment, Solid f.toList)
    (hfront : u.query = none → u.fragment = none → SolidFront u.authority u.path) :
    Solid u.toString.toList := by
  obtain ⟨scheme, authority, path, query, fragment⟩ := u
  have hsign : ∀ sign text : String, sign.toList.all isGraphic → sign.toList ≠ [] →
      Solid text.toList → ∀ s : String, Solid (s ++ (sign ++ text)).toList := by
    intro sign text hsign hne htext s
    rw [String.toList_append, String.toList_append]
    exact .append_of_ne_nil (.append (.of_all hsign) htext) (by simp [hne])
  unfold Url.toString
  cases fragment with
  | some f => exact hsign "#" f (by decide) (by decide) (hfragment f rfl) _
  | none =>
      dsimp only
      rw [String.append_empty]
      cases query with
      | some q => exact hsign "?" q (by decide) (by decide) (hquery q rfl) _
      | none =>
          dsimp only
          rw [String.append_empty, String.toList_append]
          obtain ⟨hpath, hne | hauthority⟩ := hfront rfl rfl
          · exact .append_of_ne_nil hpath hne
          · refine .append ?_ hpath
            have hcolon : Solid (scheme ++ ":").toList := by
              rw [String.toList_append]
              exact .append_of_ne_nil (.of_all (by decide)) (by decide)
            rw [String.toList_append]
            refine hcolon.append ?_
            unfold beforePath
            cases authority with
            | some a =>
                dsimp only
                rw [String.toList_append]
                exact .append (.of_all (by decide)) (hauthority a rfl)
            | none =>
                dsimp only
                split
                · exact .of_all (by decide)
                · exact .nil

/-! ## reading the whole -/

theorem suffix_of_cut? {sep : Char} {s before after : List Char}
    (h : Text.cut? sep s = some (before, after)) : after <:+ s := by
  induction s generalizing before with
  | nil => cases h
  | cons c s ih =>
      unfold Text.cut? at h
      split at h
      · cases h
        exact List.suffix_cons _ _
      · obtain ⟨⟨a, b⟩, hcut, hab⟩ := Option.map_eq_some_iff.1 h
        cases hab
        exact (ih hcut).trans (List.suffix_cons c s)

/-- A scheme starts with a letter; what stands after it is the end of the text. -/
theorem of_cutScheme?_eq_some {s rest : List Char} {scheme : String}
    (h : cutScheme? s = some (scheme, rest)) :
    (∃ c cs, scheme.toList = c :: cs ∧ isGraphic c) ∧ rest <:+ s := by
  unfold cutScheme? at h
  split at h
  · cases h
  · next name rest' hcut =>
      split at h
      · cases h
      · next c cs _ =>
          split at h
          · next halpha =>
              cases h
              refine ⟨⟨c.toLower, cs.map Char.toLower, ?_, isGraphic_toLower halpha.1⟩,
                suffix_of_cut? hcut⟩
              rw [String.toList_ofList, List.map_cons]
          · cases h

theorem getLast?_trimmed (s : List Char) : ∀ c ∈ (trimmed s).getLast?, 0x20 < c.toNat := by
  intro c hc
  rw [trimmed, List.getLast?_reverse] at hc
  have hstop := List.head?_dropWhile_not isOuterBlank (s.dropWhile isOuterBlank).reverse
  rw [Option.mem_def.1 hc] at hstop
  simpa [isOuterBlank] using hstop

/-- The parts that a URL is read from. -/
theorem of_parse_eq_ok {s : String} {u : Url} (h : parse s = .ok u) :
    ∃ rest, cutScheme? (trimmed s.toList) = some (u.scheme, rest) ∧
      tailOf (isSpecial u.scheme) (joined (rest.dropWhile isFront)) = (u.query, u.fragment) ∧
      (if u.scheme = "file" then file (rest.takeWhile isFront)
        else if isSpecial u.scheme then special u.scheme (joined (rest.takeWhile isFront))
        else general u.scheme (joined (rest.dropWhile isFront)).isEmpty
          (joined (rest.takeWhile isFront))) = .ok (u.authority, u.path) := by
  unfold parse at h
  split at h
  · cases h
  · next scheme rest hcut =>
      dsimp only at h
      split at h
      · cases h
      · next authority path hmain =>
          cases h
          exact ⟨rest, hcut, rfl, hmain⟩

/-- The text of a URL that was read starts with a letter and does not end in a blank. -/
theorem ends_of_parse {s : String} {u : Url} (h : parse s = .ok u) :
    (∃ c ∈ u.toString.toList.head?, isGraphic c) ∧ Solid u.toString.toList := by
  obtain ⟨rest, hcut, htail, hmain⟩ := of_parse_eq_ok h
  obtain ⟨⟨c, cs, hscheme, hc⟩, hsuffix⟩ := of_cutScheme?_eq_some hcut
  obtain ⟨hquery, hfragment⟩ := solid_tailOf (isSpecial u.scheme) (joined (rest.dropWhile isFront))
  rw [htail] at hquery hfragment
  refine ⟨⟨c, by simp [Url.toString, hscheme], hc⟩, solid_toString hquery hfragment ?_⟩
  intro hq hf
  rw [hq, hf] at htail
  rw [takeWhile_isFront_of_tailOf htail] at hmain
  split at hmain
  · exact solidFront_file hmain
  · split at hmain
    · exact solidFront_special hmain
    · next hspecial =>
        refine solidFront_general (Bool.not_eq_true _ ▸ hspecial) (getLast?_joined ?_) hmain
        intro d hd
        obtain ⟨front, hfront⟩ := hsuffix
        refine getLast?_trimmed s.toList d ?_
        rw [← hfront, Option.mem_def, List.getLast?_append, Option.mem_def.1 hd]
        rfl

/-- **A URL is written with no blank at its ends.** -/
theorem trimmed_toString_of_parse {s : String} {u : Url} (h : parse s = .ok u) :
    Text.trimmed u.toString = u.toString := by
  obtain ⟨⟨c, hc, hgraphic⟩, hsolid⟩ := ends_of_parse h
  rw [Text.trimmed, Text.trim_eq_self ?_ hsolid, String.ofList_toList]
  intro d hd
  rw [Option.mem_unique hd hc]
  exact isBlank_eq_false_of_isGraphic hgraphic

/-- A URL is never empty. -/
theorem toString_ne_empty_of_parse {s : String} {u : Url} (h : parse s = .ok u) :
    u.toString ≠ "" := by
  obtain ⟨⟨c, hc, -⟩, -⟩ := ends_of_parse h
  intro he
  rw [he] at hc
  contradiction

/-! ## a URL on the host itself -/

/-- The root of the server on the host itself. -/
def loopback : Url :=
  { scheme := "https"
    authority := some { host := .ipv6 { pieces := [0, 0, 0, 0, 0, 0, 0, 1] } }
    path := .segments [""] }

/-- A path that ends with its first slash has one segment, without a name. -/
theorem segmentsOf_nil (special : Bool) : segmentsOf special [] = [""] := by
  have hlower : "".toLower = "" := by
    change String.map Char.toLower "" = ""
    rw [← String.toList_inj, String.toList_map]
    rfl
  have hdots : isDoubleDot "" = false ∧ isSingleDot "" = false := by
    rw [isDoubleDot, isSingleDot, hlower]
    decide
  change (if isDoubleDot "" then _ else if isSingleDot "" then _ else _ : Trail).back.reverse = _
  rw [hdots.1, hdots.2]
  rfl

theorem parse_loopback : parse loopback.toString = .ok loopback := by
  have htext : loopback.toString = "https://[::1]/" := rfl
  have hwhole : parse "https://[::1]/" = (special "https" "//[::1]/".toList).map
      fun (authority, path) => { scheme := "https", authority, path } := rfl
  have hspecial : special "https" "//[::1]/".toList =
      (authorityOf "https" false "[::1]".toList).map
        fun (authority, _) => (some authority, .segments (segmentsOf true [])) := rfl
  have hauthority : authorityOf "https" false "[::1]".toList =
      .ok ({ host := .ipv6 { pieces := [0, 0, 0, 0, 0, 0, 0, 1] } }, []) := rfl
  rw [htext, hwhole, hspecial, hauthority, segmentsOf_nil]
  rfl

end SlotUpload.Url
