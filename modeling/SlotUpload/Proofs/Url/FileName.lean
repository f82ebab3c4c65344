import Mathlib.Data.List.Infix
import SlotUpload.Proofs.Files.Tree
import SlotUpload.Proofs.Text.Split
import SlotUpload.Proofs.Text.Utf8
import SlotUpload.Proofs.Url.Ends

/-!
# SlotUpload.Proofs.Url.FileName

Names of files that come from URLs.  The last segment of a path is cut off first and
decoded then, so what a name holds depends on how the segment spells it (`Spelling`).
A segment holds no slash, but it may spell one; and the segments that spell `.` and
`..` are those that are taken for such when a URL is read, with one exception in URLs
of files.  So a name is one of an entry of a directory (`IsEntry`) exactly if its
segment spells no slash and is no dot segment (`isEntry_fileName_iff`).
-/

namespace SlotUpload.Url

open Text (IsAscii asciiByte)

/-! ## hexadecimal digits -/

section Digits

variable {a : Char} {x : Nat}

/-- Hexadecimal digits are characters of ASCII, of which there are few enough to be
looked at one by one. -/
theorem exists_of_hexDigit? (h : Text.hexDigit? a = some x) : ∃ n : Fin 128, a = Char.ofNat n := by
  have h9 : '9'.toNat = 57 := rfl
  have hf : 'f'.toNat = 102 := rfl
  have hF : 'F'.toNat = 70 := rfl
  have hlt : a.toNat < 128 := by
    simp only [Text.hexDigit?, Char.le_def, UInt32.le_iff_toNat_le, Char.toNat_val] at h
    split at h
    · omega
    · split at h
      · omega
      · split at h
        · omega
        · cases h
  exact ⟨⟨a.toNat, hlt⟩, (Char.ofNat_toNat a).symm⟩

theorem hexDigit?_lt (h : Text.hexDigit? a = some x) : x < 16 := by
  have hall : ∀ n : Fin 128, ∀ x ∈ Text.hexDigit? (Char.ofNat n), x < 16 := by decide
  obtain ⟨n, rfl⟩ := exists_of_hexDigit? h
  exact hall n x h

theorem hexDigit?_eq_two_iff : Text.hexDigit? a = some 2 ↔ a = '2' := by
  have hall : ∀ n : Fin 128, Text.hexDigit? (Char.ofNat n) = some 2 → Char.ofNat n = '2' := by
    decide
  constructor
  · intro h
    obtain ⟨n, rfl⟩ := exists_of_hexDigit? h
    exact hall n h
  · rintro rfl
    decide

theorem hexDigit?_eq_fourteen_iff : Text.hexDigit? a = some 14 ↔ a = 'e' ∨ a = 'E' := by
  have hall : ∀ n : Fin 128, Text.hexDigit? (Char.ofNat n) = some 14 →
      Char.ofNat n = 'e' ∨ Char.ofNat n = 'E' := by
    decide
  constructor
  · intro h
    obtain ⟨n, rfl⟩ := exists_of_hexDigit? h
    exact hall n h
  · rintro (rfl | rfl) <;> decide

theorem hexDigit?_eq_fifteen_iff : Text.hexDigit? a = some 15 ↔ a = 'f' ∨ a = 'F' := by
  have hall : ∀ n : Fin 128, Text.hexDigit? (Char.ofNat n) = some 15 →
      Char.ofNat n = 'f' ∨ Char.ofNat n = 'F' := by
    decide
  constructor
  · intro h
    obtain ⟨n, rfl⟩ := exists_of_hexDigit? h
    exact hall n h
  · rintro (rfl | rfl) <;> decide

end Digits

/-! ## spellings -/

/-- A way to write a character of ASCII in a URL: by itself, or by a percent sign and
two hexadecimal digits. -/
def Spelling (c : Char) (w : List Char) : Prop :=
  w = [c] ∨ ∃ a b x y, Text.hexDigit? a = some x ∧ Text.hexDigit? b = some y ∧
    x * 16 + y = c.toNat ∧ w = ['%', a, b]

/-- The characters whose spellings are looked at: they have no part in the spelling of
others. -/
structure IsPlain (c : Char) : Prop where
  isAscii : IsAscii c
  ne_percent : c ≠ '%'
  hexDigit?_eq : Text.hexDigit? c = none

theorem isPlain_slash : IsPlain '/' := ⟨by decide, by decide, by decide⟩

theorem isPlain_dot : IsPlain '.' := ⟨by decide, by decide, by decide⟩

/-- A slash is spelled as itself or encoded. -/
theorem spelling_slash_iff {w : List Char} :
    Spelling '/' w ↔ w = ['/'] ∨ w = ['%', '2', 'F'] ∨ w = ['%', '2', 'f'] := by
  have hslash : '/'.toNat = 47 := rfl
  constructor
  · rintro (rfl | ⟨a, b, x, y, ha, hb, hsum, rfl⟩)
    · exact .inl rfl
    · have hx := hexDigit?_lt ha
      have hy := hexDigit?_lt hb
      obtain ⟨rfl, rfl⟩ : x = 2 ∧ y = 15 := by omega
      obtain rfl := hexDigit?_eq_two_iff.1 ha
      rcases hexDigit?_eq_fifteen_iff.1 hb with rfl | rfl
      · exact .inr (.inr rfl)
      · exact .inr (.inl rfl)
  · rintro (rfl | rfl | rfl)
    · exact .inl rfl
    · exact .inr ⟨'2', 'F', 2, 15, by decide, by decide, rfl, rfl⟩
    · exact .inr ⟨'2', 'f', 2, 15, by decide, by decide, rfl, rfl⟩

/-- A dot is spelled as itself or encoded. -/
theorem spelling_dot_iff {w : List Char} :
    Spelling '.' w ↔ w = ['.'] ∨ w = ['%', '2', 'E'] ∨ w = ['%', '2', 'e'] := by
  have hdot : '.'.toNat = 46 := rfl
  constructor
  · rintro (rfl | ⟨a, b, x, y, ha, hb, hsum, rfl⟩)
    · exact .inl rfl
    · have hx := hexDigit?_lt ha
      have hy := hexDigit?_lt hb
      obtain ⟨rfl, rfl⟩ : x = 2 ∧ y = 14 := by omega
      obtain rfl := hexDigit?_eq_two_iff.1 ha
      rcases hexDigit?_eq_fourteen_iff.1 hb with rfl | rfl
      · exact .inr (.inr rfl)
      · exact .inr (.inl rfl)
  · rintro (rfl | rfl | rfl)
    · exact .inl rfl
    · exact .inr ⟨'2', 'E', 2, 14, by decide, by decide, rfl, rfl⟩
    · exact .inr ⟨'2', 'e', 2, 14, by decide, by decide, rfl, rfl⟩

namespace Percent

variable {c : Char} {s : List Char} {bs : List UInt8}

/-- Two digits after a percent sign are one byte. -/
theorem decode_percent {a b : Char} {x y : Nat} (ha : Text.hexDigit? a = some x)
    (hb : Text.hexDigit? b = some y) (rest : List Char) :
    decode ('%' :: a :: b :: rest) = UInt8.ofNat (x * 16 + y) :: decode rest := by
  simp [decode, ha, hb]

/-- Two digits stand for the character that they number. -/
theorem ofNat_eq_asciiByte_iff {x y : Nat} (hx : x < 16) (hy : y < 16) (hc : IsAscii c) :
    UInt8.ofNat (x * 16 + y) = asciiByte c ↔ x * 16 + y = c.toNat := by
  rw [← UInt8.toNat_inj, Text.toNat_asciiByte hc.2,
    UInt8.toNat_ofNat_of_lt' (by change _ < 256; omega)]

/-- A character's own bytes start with the byte of a character of ASCII only if it is
that character. -/
theorem utf8EncodeChar_append_eq_cons_iff (hc : IsAscii c) (d : Char) (tail : List UInt8) :
    String.utf8EncodeChar d ++ tail = asciiByte c :: bs ↔ d = c ∧ tail = bs := by
  by_cases hd : d.toNat < 0x80
  · rw [Text.utf8EncodeChar_of_ascii hd, List.singleton_append, List.cons.injEq]
    have hinj : asciiByte d = asciiByte c ↔ d = c := by
      rw [← UInt8.toNat_inj, Text.toNat_asciiByte hd, Text.toNat_asciiByte hc.2, Char.toNat_inj]
    rw [hinj]
  · have hhigh := Text.le_of_mem_utf8EncodeChar (Nat.not_lt.1 hd)
    constructor
    · intro h
      have hne : String.utf8EncodeChar d ≠ [] := String.utf8EncodeChar_ne_nil
      obtain ⟨b, bytes, hbytes⟩ := List.exists_cons_of_ne_nil hne
      rw [hbytes] at h hhigh
      exact absurd (List.cons.inj h).1.symm
        (Text.asciiByte_ne hc (hhigh b List.mem_cons_self))
    · rintro ⟨rfl, -⟩
      exact absurd hc.2 hd

/-- The byte of a character below 128 belongs to no other one. -/
theorem asciiByte_mem_utf8EncodeChar_iff (hc : IsAscii c) (d : Char) :
    asciiByte c ∈ String.utf8EncodeChar d ↔ d = c := by
  by_cases hd : d.toNat < 0x80
  · rw [Text.utf8EncodeChar_of_ascii hd, List.mem_singleton, ← UInt8.toNat_inj,
      Text.toNat_asciiByte hd, Text.toNat_asciiByte hc.2, Char.toNat_inj, eq_comm]
  · have hhigh := Text.le_of_mem_utf8EncodeChar (Nat.not_lt.1 hd)
    constructor
    · intro h
      exact absurd rfl (Text.asciiByte_ne hc (hhigh _ h))
    · rintro rfl
      exact absurd hc.2 hd

/-- Any other character stands for its own bytes. -/
theorem decode_cons (hc : c ≠ '%') (rest : List Char) :
    decode (c :: rest) = String.utf8EncodeChar c ++ decode rest := by
  rw [decode]
  rintro a b tail rfl -
  exact hc rfl

/-- A spelling stands for its character. -/
theorem decode_spelling (hc : IsPlain c) {w : List Char} (hw : Spelling c w) (rest : List Char) :
    decode (w ++ rest) = asciiByte c :: decode rest := by
  rcases hw with rfl | ⟨a, b, x, y, ha, hb, hsum, rfl⟩
  · rw [List.singleton_append, decode_cons hc.ne_percent,
      Text.utf8EncodeChar_of_ascii hc.isAscii.2, List.singleton_append]
  · have hbyte : UInt8.ofNat (x * 16 + y) = asciiByte c :=
      (ofNat_eq_asciiByte_iff (hexDigit?_lt ha) (hexDigit?_lt hb) hc.isAscii).2 hsum
    rw [← hbyte]
    exact decode_percent ha hb rest

/-- A percent sign is no spelling of a plain character. -/
theorem percent_ne_asciiByte (hc : IsPlain c) : (0x25 : UInt8) ≠ asciiByte c := by
  intro h
  have hpercent : asciiByte '%' = asciiByte c := h
  rw [← UInt8.toNat_inj, Text.toNat_asciiByte (by decide), Text.toNat_asciiByte hc.isAscii.2,
    Char.toNat_inj] at hpercent
  exact hc.ne_percent hpercent.symm

/-- A segment's bytes start with the byte of a plain character exactly if the segment
starts with a spelling of it. -/
theorem decode_eq_cons_iff (hc : IsPlain c) : decode s = asciiByte c :: bs ↔
    ∃ w rest, s = w ++ rest ∧ Spelling c w ∧ decode rest = bs := by
  constructor
  · intro h
    induction s using decode.induct with
    | case1 a b rest x y hb ha _ =>
        rw [decode_percent ha hb] at h
        obtain ⟨hbyte, hrest⟩ := List.cons.inj h
        have hsum := (ofNat_eq_asciiByte_iff (hexDigit?_lt ha) (hexDigit?_lt hb) hc.isAscii).1 hbyte
        exact ⟨['%', a, b], rest, rfl, .inr ⟨a, b, x, y, ha, hb, hsum, rfl⟩, hrest⟩
    | case2 a b rest hnot _ =>
        rw [decode] at h
        split at h
        · next x y ha hb => exact (hnot x y ha hb).elim
        · exact absurd (List.cons.inj h).1 (percent_ne_asciiByte hc)
    | case3 d rest hnot _ =>
        rw [decode] at h
        · obtain ⟨rfl, hrest⟩ := (utf8EncodeChar_append_eq_cons_iff hc.isAscii d _).1 h
          exact ⟨[d], rest, rfl, .inl rfl, hrest⟩
        · exact hnot
    | case4 =>
        rw [decode] at h
        contradiction
  · rintro ⟨w, rest, rfl, hw, rfl⟩
    exact decode_spelling hc hw rest

theorem decode_eq_nil_iff : decode s = [] ↔ s = [] := by
  constructor
  · intro h
    induction s using decode.induct with
    | case1 a b rest x y hb ha _ =>
        rw [decode_percent ha hb] at h
        contradiction
    | case2 a b rest hnot _ =>
        rw [decode] at h
        split at h <;> contradiction
    | case3 d rest hnot _ =>
        rw [decode] at h
        · exact absurd (List.append_eq_nil_iff.1 h).1 String.utf8EncodeChar_ne_nil
        · exact hnot
    | case4 => rfl
  · rintro rfl
    rw [decode]

/-- A spelling of a plain character starts with that character or a percent sign. -/
theorem head_of_spelling_prefix {w : List Char} (hw : Spelling c w) {d : Char} {rest : List Char}
    (h : w <+: d :: rest) : d = c ∨ d = '%' := by
  rcases hw with rfl | ⟨a, b, x, y, -, -, -, rfl⟩
  · exact .inl (List.cons_prefix_cons.1 h).1.symm
  · exact .inr (List.cons_prefix_cons.1 h).1.symm

/-- A digit of a spelling is not where another one starts. -/
theorem not_spelling_prefix_of_digit (hc : IsPlain c) {w : List Char} (hw : Spelling c w)
    {d : Char} {x : Nat} (hd : Text.hexDigit? d = some x) (rest : List Char) :
    ¬ w <+: d :: rest := by
  intro h
  rcases head_of_spelling_prefix hw h with rfl | rfl
  · rw [hc.hexDigit?_eq] at hd
    contradiction
  · contradiction

theorem spelling_ne_nil {w : List Char} (hw : Spelling c w) : w ≠ [] := by
  rcases hw with rfl | ⟨a, b, x, y, -, -, -, rfl⟩ <;> exact List.cons_ne_nil _ _

/-- A plain character's byte is among a segment's bytes exactly if the segment spells
it somewhere. -/
theorem asciiByte_mem_decode_iff (hc : IsPlain c) :
    asciiByte c ∈ decode s ↔ ∃ w, Spelling c w ∧ w <:+: s := by
  induction s using decode.induct with
  | case1 a b rest x y hb ha ih =>
      rw [decode_percent ha hb, List.mem_cons, ih, eq_comm,
        ofNat_eq_asciiByte_iff (hexDigit?_lt ha) (hexDigit?_lt hb) hc.isAscii]
      constructor
      · rintro (hsum | ⟨w, hw, hinfix⟩)
        · exact ⟨['%', a, b], .inr ⟨a, b, x, y, ha, hb, hsum, rfl⟩, [], rest, rfl⟩
        · exact ⟨w, hw, List.infix_cons (List.infix_cons (List.infix_cons hinfix))⟩
      · rintro ⟨w, hw, hinfix⟩
        rcases List.infix_cons_iff.1 hinfix with hstart | hinfix
        · left
          rcases hw with rfl | ⟨a', b', x', y', ha', hb', hsum, rfl⟩
          · exact absurd (List.cons_prefix_cons.1 hstart).1 hc.ne_percent
          · obtain ⟨tail, htail⟩ := hstart
            cases htail
            cases ha.symm.trans ha'
            cases hb.symm.trans hb'
            exact hsum
        · right
          have hinfix := (List.infix_cons_iff.1 hinfix).resolve_left
            (not_spelling_prefix_of_digit hc hw ha _)
          exact ⟨w, hw, (List.infix_cons_iff.1 hinfix).resolve_left
            (not_spelling_prefix_of_digit hc hw hb _)⟩
  | case2 a b rest hnot ih =>
      have hdecode : decode ('%' :: a :: b :: rest) = 0x25 :: decode (a :: b :: rest) := by
        rw [decode]
        split
        · next x y ha hb => exact (hnot x y ha hb).elim
        · rfl
      rw [hdecode, List.mem_cons, ih, or_iff_right (percent_ne_asciiByte hc).symm]
      constructor
      · rintro ⟨w, hw, hinfix⟩
        exact ⟨w, hw, List.infix_cons hinfix⟩
      · rintro ⟨w, hw, hinfix⟩
        refine ⟨w, hw, (List.infix_cons_iff.1 hinfix).resolve_left fun hstart => ?_⟩
        rcases hw with rfl | ⟨a', b', x, y, ha, hb, -, rfl⟩
        · exact hc.ne_percent (List.cons_prefix_cons.1 hstart).1
        · obtain ⟨tail, htail⟩ := hstart
          cases htail
          exact hnot x y ha hb
  | case3 d rest hnot ih =>
      have hdecode : decode (d :: rest) = String.utf8EncodeChar d ++ decode rest := by
        rw [decode]
        exact hnot
      rw [hdecode, List.mem_append, asciiByte_mem_utf8EncodeChar_iff hc.isAscii, ih]
      constructor
      · rintro (rfl | ⟨w, hw, hinfix⟩)
        · exact ⟨[d], .inl rfl, [], rest, rfl⟩
        · exact ⟨w, hw, List.infix_cons hinfix⟩
      · rintro ⟨w, hw, hinfix⟩
        rcases List.infix_cons_iff.1 hinfix with hstart | hinfix
        · left
          rcases hw with rfl | ⟨a, b, x, y, -, -, -, rfl⟩
          · exact (List.cons_prefix_cons.1 hstart).1.symm
          · obtain ⟨rfl, tail, rfl⟩ := List.cons_prefix_cons.1 hstart
            exact (hnot a b tail rfl rfl).elim
        · exact .inr ⟨w, hw, hinfix⟩
  | case4 =>
      rw [decode]
      refine iff_of_false List.not_mem_nil ?_
      rintro ⟨w, hw, hinfix⟩
      exact spelling_ne_nil hw (List.infix_nil.1 hinfix)

end Percent

/-! ## dot segments -/

section Dots

variable {segment : String}

/-- What has `c` for its lower case is `c` or one of the first characters of ASCII,
which can be looked at one by one. -/
theorem of_toLower_eq {c d : Char} {P : Char → Prop} (hself : P c)
    (hall : ∀ n : Fin 123, (Char.ofNat n).toLower = c → P (Char.ofNat n)) (h : d.toLower = c) :
    P d := by
  have hZ : 'Z'.val.toNat = 90 := rfl
  by_cases hd : d.toNat < 123
  · have hn := hall ⟨d.toNat, hd⟩
    rw [Char.ofNat_toNat] at hn
    exact hn h
  · have hlower : d.toLower = d := by
      unfold Char.toLower
      rw [dif_neg]
      rintro ⟨-, hle⟩
      rw [UInt32.le_iff_toNat_le, Char.toNat_val] at hle
      omega
    rw [← hlower, h]
    exact hself

theorem toLower_eq_dot {d : Char} : d.toLower = '.' → d = '.' :=
  of_toLower_eq (P := (· = '.')) rfl (by decide)

theorem toLower_eq_percent {d : Char} : d.toLower = '%' → d = '%' :=
  of_toLower_eq (P := (· = '%')) rfl (by decide)

theorem toLower_eq_two {d : Char} : d.toLower = '2' → d = '2' :=
  of_toLower_eq (P := (· = '2')) rfl (by decide)

theorem toLower_eq_e {d : Char} : d.toLower = 'e' → d = 'E' ∨ d = 'e' :=
  of_toLower_eq (P := fun d => d = 'E' ∨ d = 'e') (.inr rfl) (by decide)

theorem toLower_toList (s : String) : s.toLower.toList = s.toList.map Char.toLower :=
  String.toList_map

/-- A text is a spelling of a dot exactly if it is one in lower case. -/
theorem map_toLower_iff {w : List Char} :
    w.map Char.toLower = ['.'] ∨ w.map Char.toLower = ['%', '2', 'e'] ↔ Spelling '.' w := by
  rw [spelling_dot_iff]
  constructor
  · rintro (h | h)
    · obtain ⟨d, rest, rfl, hd, hrest⟩ := List.map_eq_cons_iff.1 h
      rw [List.map_eq_nil_iff.1 hrest, toLower_eq_dot hd]
      exact .inl rfl
    · obtain ⟨d, rest, rfl, hd, hrest⟩ := List.map_eq_cons_iff.1 h
      obtain ⟨d₂, rest, rfl, hd₂, hrest⟩ := List.map_eq_cons_iff.1 hrest
      obtain ⟨d₃, rest, rfl, hd₃, hrest⟩ := List.map_eq_cons_iff.1 hrest
      rw [List.map_eq_nil_iff.1 hrest, toLower_eq_percent hd, toLower_eq_two hd₂]
      rcases toLower_eq_e hd₃ with rfl | rfl
      · exact .inr (.inl rfl)
      · exact .inr (.inr rfl)
  · rintro (rfl | rfl | rfl) <;> decide

/-- A segment of one dot, however spelled. -/
theorem isSingleDot_iff : isSingleDot segment ↔ Spelling '.' segment.toList := by
  rw [← map_toLower_iff, ← toLower_toList]
  simp [isSingleDot, ← String.toList_inj]

/-- A segment of two dots, however spelled. -/
theorem isDoubleDot_iff : isDoubleDot segment ↔
    ∃ w w', Spelling '.' w ∧ Spelling '.' w' ∧ segment.toList = w ++ w' := by
  have hlower : isDoubleDot segment ↔ ∃ v v', (v = ['.'] ∨ v = ['%', '2', 'e']) ∧
      (v' = ['.'] ∨ v' = ['%', '2', 'e']) ∧ segment.toList.map Char.toLower = v ++ v' := by
    rw [← toLower_toList]
    simp only [isDoubleDot, List.contains_eq_mem, List.mem_cons, List.not_mem_nil, or_false,
      decide_eq_true_eq, ← String.toList_inj]
    constructor
    · rintro (h | h | h | h)
      · exact ⟨_, _, .inl rfl, .inl rfl, h⟩
      · exact ⟨_, _, .inl rfl, .inr rfl, h⟩
      · exact ⟨_, _, .inr rfl, .inl rfl, h⟩
      · exact ⟨_, _, .inr rfl, .inr rfl, h⟩
    · rintro ⟨v, v', rfl | rfl, rfl | rfl, h⟩
      · exact .inl h
      · exact .inr (.inl h)
      · exact .inr (.inr (.inl h))
      · exact .inr (.inr (.inr h))
  rw [hlower]
  constructor
  · rintro ⟨v, v', hv, hv', h⟩
    obtain ⟨w, w', hsegment, rfl, rfl⟩ := List.map_eq_append_iff.1 h
    exact ⟨w, w', map_toLower_iff.1 hv, map_toLower_iff.1 hv', hsegment⟩
  · rintro ⟨w, w', hw, hw', h⟩
    refine ⟨_, _, map_toLower_iff.2 hw, map_toLower_iff.2 hw', ?_⟩
    rw [h, List.map_append]

end Dots

/-! ## names of files -/

/-- The last segment of a URL's path; the empty text if there is none. -/
def lastSegment (u : Url) : String :=
  match u.path with
  | .segments list => list.getLast?.getD ""
  | .text _ => ""

/-- Does a segment spell a slash with a percent sign? -/
def EncodesSlash (segment : List Char) : Prop :=
  ['%', '2', 'F'] <:+: segment ∨ ['%', '2', 'f'] <:+: segment

section FileName

variable {u : Url}

/-- The name of a file is its last segment, decoded. -/
theorem toList_fileName (u : Url) :
    u.fileName.toList = Text.decodeLossy (Percent.decode u.lastSegment.toList) := by
  unfold fileName lastSegment
  cases u.path with
  | segments list => simp
  | text content => simp [Percent.decode, Text.decodeLossy, Text.Utf8.pieces]

/-- The name is empty if the segment is. -/
theorem fileName_eq_empty_iff : u.fileName = "" ↔ u.lastSegment = "" := by
  rw [← String.toList_inj, ← String.toList_inj, toList_fileName]
  exact Text.decodeLossy_eq_nil_iff.trans Percent.decode_eq_nil_iff

/-- The slashes of a name are those that its segment holds or spells. -/
theorem slash_mem_fileName_iff : '/' ∈ u.fileName.toList ↔
    '/' ∈ u.lastSegment.toList ∨ EncodesSlash u.lastSegment.toList := by
  rw [toList_fileName, Text.mem_decodeLossy_iff isPlain_slash.isAscii,
    Percent.asciiByte_mem_decode_iff isPlain_slash]
  simp only [spelling_slash_iff, or_and_right, exists_or, exists_eq_left, EncodesSlash]
  rw [List.singleton_infix_iff]

/-- A text starts with a dot exactly if its segment starts with a spelling of one. -/
theorem decodeLossy_decode_eq_dot_cons_iff {segment rest : List Char} :
    Text.decodeLossy (Percent.decode segment) = '.' :: rest ↔
      ∃ w tail, segment = w ++ tail ∧ Spelling '.' w ∧
        Text.decodeLossy (Percent.decode tail) = rest := by
  rw [Text.decodeLossy_eq_cons_iff isPlain_dot.isAscii]
  constructor
  · rintro ⟨bytes, hdecode, rfl⟩
    obtain ⟨w, tail, rfl, hw, rfl⟩ := (Percent.decode_eq_cons_iff isPlain_dot).1 hdecode
    exact ⟨w, tail, rfl, hw, rfl⟩
  · rintro ⟨w, tail, rfl, hw, rfl⟩
    exact ⟨_, Percent.decode_spelling isPlain_dot hw tail, rfl⟩

theorem decodeLossy_decode_eq_nil_iff {segment : List Char} :
    Text.decodeLossy (Percent.decode segment) = [] ↔ segment = [] :=
  Text.decodeLossy_eq_nil_iff.trans Percent.decode_eq_nil_iff

/-- The name is a dot if the segment spells one. -/
theorem fileName_eq_dot_iff : u.fileName = "." ↔ isSingleDot u.lastSegment := by
  rw [← String.toList_inj, toList_fileName, isSingleDot_iff]
  change Text.decodeLossy _ = ['.'] ↔ _
  simp only [decodeLossy_decode_eq_dot_cons_iff, decodeLossy_decode_eq_nil_iff]
  constructor
  · rintro ⟨w, tail, hsegment, hw, rfl⟩
    rw [hsegment, List.append_nil]
    exact hw
  · intro h
    exact ⟨_, [], (List.append_nil _).symm, h, rfl⟩

/-- The name is two dots if the segment spells them. -/
theorem fileName_eq_dots_iff : u.fileName = ".." ↔ isDoubleDot u.lastSegment := by
  rw [← String.toList_inj, toList_fileName, isDoubleDot_iff]
  change Text.decodeLossy _ = ['.', '.'] ↔ _
  simp only [decodeLossy_decode_eq_dot_cons_iff, decodeLossy_decode_eq_nil_iff]
  constructor
  · rintro ⟨w, _, hsegment, hw, w', tail, rfl, hw', rfl⟩
    rw [List.append_nil] at hsegment
    exact ⟨w, w', hw, hw', hsegment⟩
  · rintro ⟨w, w', hw, hw', hsegment⟩
    exact ⟨w, w', hsegment, hw, w', [], (List.append_nil _).symm, hw', rfl⟩

/-- **A name is one of an entry exactly if its segment spells no slash and is no dot
segment.** -/
theorem isEntry_fileName_iff (hslash : '/' ∉ u.lastSegment.toList) (hname : u.fileName ≠ "") :
    Path.IsEntry u.fileName ↔ ¬ EncodesSlash u.lastSegment.toList ∧
      ¬ isSingleDot u.lastSegment ∧ ¬ isDoubleDot u.lastSegment := by
  rw [← fileName_eq_dot_iff, ← fileName_eq_dots_iff]
  have hiff : '/' ∉ u.fileName.toList ↔ ¬ EncodesSlash u.lastSegment.toList := by
    rw [slash_mem_fileName_iff, or_iff_right hslash]
  rw [← hiff]
  constructor
  · intro h
    exact ⟨h.no_slash, h.ne_dot, h.ne_dots⟩
  · rintro ⟨hno, hdot, hdots⟩
    exact ⟨hname, hno, hdot, hdots⟩

end FileName

/-! ## segments that were read -/

/-- Segments of which none holds a slash. -/
def Slashless (list : List String) : Prop := ∀ s ∈ list, '/' ∉ s.toList

/-- Where there is no slash in a segment none comes into its text. -/
theorem slash_not_mem_segmentText {s : List Char} (h : '/' ∉ s) : '/' ∉ (segmentText s).toList := by
  rw [segmentText, String.toList_ofList, Percent.encode, List.mem_flatMap]
  rintro ⟨d, hd, hmem⟩
  unfold Percent.encodeChar at hmem
  split at hmem
  · obtain ⟨b, -, hb⟩ := List.mem_flatMap.1 hmem
    have hdigits : ∀ n : Fin 16, '/' ≠ Percent.upperHex n := by decide
    have hlt := b.toNat_lt
    simp only [Percent.encodeByte, List.mem_cons, List.not_mem_nil, or_false] at hb
    rcases hb with hb | hb | hb
    · contradiction
    · exact hdigits ⟨b.toNat / 16, by omega⟩ hb
    · exact hdigits ⟨b.toNat % 16, by omega⟩ hb
  · rw [List.mem_singleton] at hmem
    exact h (hmem ▸ hd)

namespace Trail

variable {t : Trail} {step : Trail → Bool → List Char → Trail}

/-- A walk over good segments keeps what a step over one keeps. -/
theorem walk_keeps {P : Trail → Prop} {Q : List Char → Prop}
    (hstep : ∀ t last segment, Q segment → P t → P (step t last segment))
    {segments : List (List Char)} (h : ∀ segment ∈ segments, Q segment) (ht : P t) :
    P (walk step t segments) := by
  induction segments generalizing t with
  | nil => exact ht
  | cons segment segments ih =>
      obtain ⟨hsegment, hrest⟩ := List.forall_mem_cons.1 h
      cases segments with
      | nil => exact hstep t true segment hsegment ht
      | cons next segments => exact ih hrest (hstep t false segment hsegment ht)

/-- Where a walk ends depends on its last step. -/
theorem walk_last {P : Trail → Prop} (hstep : ∀ t segment, P (step t true segment))
    {segments : List (List Char)} (h : segments ≠ []) : P (walk step t segments) := by
  induction segments generalizing t with
  | nil => contradiction
  | cons segment segments ih =>
      cases segments with
      | nil => exact hstep t segment
      | cons next segments => exact ih (List.cons_ne_nil _ _)

theorem slashless_leave (ht : Slashless t.back) : Slashless t.leave.back := by
  unfold leave
  split
  · exact ht
  · next hback =>
      split
      · exact ht
      · exact fun r hr => ht r (hback ▸ List.mem_cons_of_mem _ hr)

theorem slashless_enter {name : String} (ht : Slashless t.back) (hname : '/' ∉ name.toList) :
    Slashless (t.enter name).back :=
  List.forall_mem_cons.2 ⟨hname, ht⟩

/-- A step along a path brings no slash into its segments. -/
theorem slashless_step (last : Bool) {segment : List Char} (hsegment : '/' ∉ segment)
    (ht : Slashless t.back) : Slashless (t.step last segment).back := by
  have hclose : ∀ t : Trail, Slashless t.back →
      Slashless (if last then t.enter "" else t).back := by
    intro t ht
    split
    · exact slashless_enter ht (by decide)
    · exact ht
  unfold Trail.step
  dsimp only
  split
  · exact hclose _ (slashless_leave ht)
  · split
    · exact hclose _ ht
    · exact slashless_enter ht (slash_not_mem_segmentText hsegment)

theorem slash_not_mem_joined {s : List Char} (h : '/' ∉ s) : '/' ∉ joined s :=
  fun hmem => h (List.mem_of_mem_filter hmem)

theorem slash_not_mem_drive {c : Char} (h : c ≠ '/') : '/' ∉ (String.ofList [c, ':']).toList := by
  rw [String.toList_ofList]
  simp [h.symm]

theorem slashless_stepFile (last : Bool) {segment : List Char} (hsegment : '/' ∉ segment)
    (ht : Slashless t.back) : Slashless (t.stepFile last segment).back := by
  have hjoined := slash_not_mem_joined hsegment
  unfold stepFile
  split
  · next drive name h =>
      unfold broken? at h
      split at h
      · next c d rest hback hparts =>
          rw [hparts] at hjoined
          split at h
          · cases h
            have hc : c ≠ '/' := by
              rintro rfl
              exact hjoined List.mem_cons_self
            have hname : '/' ∉ d :: rest := fun hmem =>
              hjoined (List.mem_cons_of_mem _ (List.mem_cons_of_mem _ hmem))
            exact slashless_enter (slashless_enter ht (slash_not_mem_drive hc))
              (slash_not_mem_segmentText hname)
          · cases h
      · cases h
  · split
    · next drive h =>
        unfold drive? at h
        split at h
        · next c d hback hparts =>
            rw [hparts] at hjoined
            split at h
            · cases h
              have hc : c ≠ '/' := by
                rintro rfl
                exact hjoined List.mem_cons_self
              exact List.forall_mem_singleton.2 (slash_not_mem_drive hc)
            · cases h
        · cases h
    · exact slashless_step last hjoined ht

/-- The name that a trail ends with is no dot segment. -/
def EndsUndotted (t : Trail) : Prop :=
  ∀ name ∈ t.back.head?, isSingleDot name = false ∧ isDoubleDot name = false

theorem endsUndotted_enter_empty (t : Trail) : (t.enter "").EndsUndotted := by
  rintro name ⟨⟩
  constructor
  · refine eq_false_of_ne_true fun h => ?_
    exact Percent.spelling_ne_nil (isSingleDot_iff.1 h) rfl
  · refine eq_false_of_ne_true fun h => ?_
    obtain ⟨w, w', hw, -, hnil⟩ := isDoubleDot_iff.1 h
    exact Percent.spelling_ne_nil hw (List.append_eq_nil_iff.1 hnil.symm).1

/-- A last step never leaves dots behind. -/
theorem endsUndotted_step (t : Trail) (segment : List Char) :
    (t.step true segment).EndsUndotted := by
  unfold Trail.step
  dsimp only
  split
  · exact endsUndotted_enter_empty _
  · next hdouble =>
      split
      · exact endsUndotted_enter_empty _
      · next hsingle =>
          rintro name ⟨⟩
          exact ⟨eq_false_of_ne_true hsingle, eq_false_of_ne_true hdouble⟩

end Trail

/-- Slashes separate the segments. -/
theorem slash_not_mem_raw {sep : Char → Bool} (hsep : sep '/') (s : List Char) :
    ∀ segment ∈ Text.pieces sep s, '/' ∉ segment :=
  fun segment hsegment hmem => Text.not_sep_of_mem_pieces segment hsegment '/' hmem hsep

/-- A walk brings no slash into the segments. -/
theorem slashless_walk {step : Trail → Bool → List Char → Trail}
    (hstep : ∀ t last segment, '/' ∉ segment → Slashless (Trail.back t) →
      Slashless (step t last segment).back)
    {raw : List (List Char)} (hraw : ∀ segment ∈ raw, '/' ∉ segment) :
    Slashless (Trail.walk step {} raw).back.reverse := by
  intro segment h
  rw [List.mem_reverse] at h
  have hstart : Slashless (Trail.back {}) := by simp [Slashless]
  exact Trail.walk_keeps (P := fun t => Slashless t.back) hstep hraw hstart segment h

/-- No segment of a path has a slash. -/
theorem slashless_segmentsOf (special : Bool) (s : List Char) :
    Slashless (segmentsOf special s) :=
  slashless_walk (fun _ last _ => Trail.slashless_step last) (slash_not_mem_raw rfl s)

theorem slashless_dropEmptyStart {list : List String} (h : Slashless list) :
    Slashless (dropEmptyStart list) := by
  induction list with
  | nil => exact h
  | cons s list ih =>
      unfold dropEmptyStart
      split
      · next h' => cases h'; exact ih (List.forall_mem_cons.1 h).2
      · exact h

theorem slashless_fileSegmentsOf (s : List Char) : Slashless (fileSegmentsOf s).1 :=
  slashless_dropEmptyStart
    (slashless_walk (fun _ last _ => Trail.slashless_stepFile last) (slash_not_mem_raw rfl s))

/-- The segments of a path that was read. -/
structure ReadPath (isFile : Bool) (path : Path) : Prop where
  slashless : ∀ list, path = .segments list → Slashless list
  /-- Except in a URL of a file the last one is no dot segment. -/
  undotted : isFile = false → ∀ list, path = .segments list →
    ∀ name ∈ list.getLast?, isSingleDot name = false ∧ isDoubleDot name = false

theorem readPath_segmentsOf (isFile special : Bool) (s : List Char) :
    ReadPath isFile (.segments (segmentsOf special s)) where
  slashless list h := by
    cases h
    exact slashless_segmentsOf special s
  undotted _ list h := by
    cases h
    rw [segmentsOf, List.getLast?_reverse]
    exact Trail.walk_last (P := Trail.EndsUndotted) Trail.endsUndotted_step
      (Text.pieces_ne_nil _ _)

theorem readPath_text (isFile : Bool) (content : String) : ReadPath isFile (.text content) :=
  ⟨nofun, fun _ => nofun⟩

/-- The path of a special URL is as it is read. -/
theorem readPath_special {scheme : String} {s : List Char} {authority : Option Authority}
    {path : Path} (h : special scheme s = .ok (authority, path)) : ReadPath false path := by
  unfold special at h
  dsimp only at h
  split at h
  · cases h
  · cases h
    exact readPath_segmentsOf false true _

theorem readPath_file {s : List Char} {authority : Option Authority} {path : Path}
    (h : file s = .ok (authority, path)) : ReadPath true path := by
  have honHost : ∀ host s, .ok (onHost host s) = (Except.ok (authority, path) : Except Error _) →
      ReadPath true path := by
    intro host s h
    cases h
    refine ⟨fun list hlist => ?_, nofun⟩
    cases hlist
    exact slashless_fileSegmentsOf s
  unfold file at h
  dsimp only at h
  split at h
  · exact honHost _ _ h
  · split at h
    · exact honHost _ _ h
    · split at h
      · exact honHost _ _ h
      · split at h
        · cases h
        · exact honHost _ _ h

theorem readPath_general {scheme : String} {last : Bool} {s : List Char}
    {authority : Option Authority} {path : Path}
    (h : general scheme last s = .ok (authority, path)) : ReadPath false path := by
  unfold general at h
  split at h
  · dsimp only at h
    split at h
    · cases h
    · split at h <;> cases h
      · refine ⟨?_, fun _ => ?_⟩ <;> rintro list ⟨⟩
        · simp [Slashless]
        · simp
      · exact readPath_segmentsOf false false _
      · exact readPath_segmentsOf false false _
  · cases h
    exact readPath_segmentsOf false false _
  · cases h
    exact readPath_text false _

/-- The path of a parsed URL is as it is read. -/
theorem readPath_of_parse {text : String} {u : Url} (h : parse text = .ok u) :
    ReadPath (u.scheme == "file") u.path := by
  obtain ⟨rest, -, -, hmain⟩ := of_parse_eq_ok h
  split at hmain
  · next hscheme =>
      rw [hscheme]
      exact readPath_file hmain
  · next hscheme =>
      rw [beq_false_of_ne hscheme]
      split at hmain
      · exact readPath_special hmain
      · exact readPath_general hmain

/-- The last segment of a URL that was read holds no slash. -/
theorem slash_not_mem_lastSegment {text : String} {u : Url} (h : parse text = .ok u) :
    '/' ∉ u.lastSegment.toList := by
  have hread := readPath_of_parse h
  unfold lastSegment
  cases hpath : u.path with
  | text content => simp
  | segments list =>
      dsimp only
      cases hlast : list.getLast? with
      | none => simp
      | some name => exact hread.slashless list hpath name (List.mem_of_getLast? hlast)

/-- Nor is it a dot segment, except in a URL of a file. -/
theorem lastSegment_undotted {text : String} {u : Url} (h : parse text = .ok u)
    (hscheme : u.scheme ≠ "file") :
    isSingleDot u.lastSegment = false ∧ isDoubleDot u.lastSegment = false := by
  have hread := readPath_of_parse h
  have hempty : isSingleDot "" = false ∧ isDoubleDot "" = false :=
    Trail.endsUndotted_enter_empty {} "" rfl
  unfold lastSegment
  cases hpath : u.path with
  | text content => exact hempty
  | segments list =>
      dsimp only
      cases hlast : list.getLast? with
      | none => exact hempty
      | some name => exact hread.undotted (beq_false_of_ne hscheme) list hpath name hlast

/-! ## names on the host itself -/

/-- What is shared under a name on the host itself. -/
def onLoopback (name : String) : Url := { loopback with path := .segments [name] }

/-- A path of one segment that stays as it is and is no dot segment leads to it. -/
theorem segmentsOf_eq_singleton {name : String}
    (hencode : Percent.encode Percent.inPath name.toList = name.toList)
    (hslash : ∀ c ∈ name.toList, c ≠ '/' ∧ c ≠ '\\') (hsingle : isSingleDot name = false)
    (hdouble : isDoubleDot name = false) : segmentsOf true name.toList = [name] := by
  have hpieces : Text.pieces (fun c => c == '/' || (true && c == '\\')) name.toList =
      [name.toList] := by
    refine Text.pieces_eq_singleton fun c hc => ?_
    simp [(hslash c hc).1, (hslash c hc).2]
  have htext : segmentText name.toList = name := by
    rw [segmentText, hencode, String.ofList_toList]
  rw [segmentsOf, hpieces]
  simp [Trail.walk, Trail.step, htext, hsingle, hdouble, Trail.enter]

/-- The tests for dots, in a form that can be computed. -/
theorem dots_eq (segment : String) :
    isSingleDot segment =
      [".", "%2e"].contains (String.ofList (segment.toList.map Char.toLower)) ∧
    isDoubleDot segment = ["..", ".%2e", "%2e.", "%2e%2e"].contains
      (String.ofList (segment.toList.map Char.toLower)) := by
  rw [isSingleDot, isDoubleDot, ← toLower_toList, String.ofList_toList]
  exact ⟨rfl, rfl⟩

/-- A URL of the host itself is read if its name is. -/
theorem parse_onLoopback {text name : String} (hwhole : parse text =
      (authorityOf "https" false "[::1]".toList).map fun (authority, _) =>
        { scheme := "https", authority := some authority
          path := .segments (segmentsOf true name.toList) })
    (hname : segmentsOf true name.toList = [name]) : parse text = .ok (onLoopback name) := by
  have hauthority : authorityOf "https" false "[::1]".toList =
      .ok ({ host := .ipv6 { pieces := [0, 0, 0, 0, 0, 0, 0, 1] } }, []) := rfl
  rw [hwhole, hauthority, hname]
  rfl

theorem parse_plainName : parse "https://[::1]/a.txt" = .ok (onLoopback "a.txt") := by
  refine parse_onLoopback rfl (segmentsOf_eq_singleton ?_ (by simp) ?_ ?_)
  · simp [Percent.encode, Percent.encodeChar, Percent.isEncoded, Percent.inPath,
      Percent.inFragment]
  · rw [(dots_eq _).1]
    decide
  · rw [(dots_eq _).2]
    decide

theorem parse_spelledSlash : parse "https://[::1]/..%2Fa" = .ok (onLoopback "..%2Fa") := by
  refine parse_onLoopback rfl (segmentsOf_eq_singleton ?_ (by simp) ?_ ?_)
  · simp [Percent.encode, Percent.encodeChar, Percent.isEncoded, Percent.inPath,
      Percent.inFragment]
  · rw [(dots_eq _).1]
    decide
  · rw [(dots_eq _).2]
    decide

end SlotUpload.Url
