import SlotUpload.Proofs.Text.Utf8

/-!
# SlotUpload.Proofs.Text.Encode

The round trip of texts through UTF-8.  The bytes of a character, whatever comes after
them, are cut off as one piece that stands for it (`piece_utf8EncodeChar`, with one lemma
for each number of bytes), so a text is read back from its bytes (`decode?_encode`).
-/

namespace SlotUpload.Text

namespace Utf8

/-! ## reading a first byte and those that follow -/

section

variable {owed low high bits n : Nat} {b : UInt8} {bs rest : List UInt8}

theorem follow_zero : follow 0 low high bits rest = (some bits, rest) := by
  cases rest <;> rfl

/-- A byte that follows gives six more bits. -/
theorem follow_succ (h : low ≤ b.toNat ∧ b.toNat ≤ high) :
    follow (owed + 1) low high bits (b :: bs) =
      follow owed 0x80 0xBF (bits * 64 + b.toNat % 64) bs := if_pos h

/-- A lead and what follows it are one character. -/
theorem piece_of_lead {l : Lead} (hl : lead? b = some l)
    (hn : follow l.owed l.low l.high l.bits bs = (some n, rest)) :
    piece b bs = (some (Char.ofNat n), rest) := by
  unfold piece
  rw [hl]
  dsimp only
  rw [hn]
  rfl

theorem lead?_two (h : 0xC2 ≤ b.toNat ∧ b.toNat < 0xE0) :
    lead? b = some { owed := 1, bits := b.toNat - 0xC0 } := by
  unfold lead?
  dsimp only
  rw [if_neg (by omega), if_neg (by omega), if_pos h.2]

/-- Of three bytes the first one bounds the second: no number is written longer than it
needs, and none stands for half a character. -/
theorem lead?_three (h : 0xE0 ≤ b.toNat ∧ b.toNat < 0xF0) :
    ∃ low high, lead? b = some { owed := 2, low, high, bits := b.toNat - 0xE0 } ∧
      (low = 0x80 ∨ b.toNat = 0xE0 ∧ low = 0xA0) ∧
        (high = 0xBF ∨ b.toNat = 0xED ∧ high = 0x9F) := by
  unfold lead?
  dsimp only
  rw [if_neg (by omega), if_neg (by omega), if_neg (by omega)]
  split
  · next heq => exact ⟨_, _, by rw [heq], .inr ⟨heq, rfl⟩, .inl rfl⟩
  · split
    · next heq => exact ⟨_, _, by rw [heq], .inl rfl, .inr ⟨heq, rfl⟩⟩
    · exact ⟨_, _, if_pos h.2, .inl rfl, .inl rfl⟩

/-- Of four bytes the first one bounds the second: no number is written longer than it
needs, and none is past the last character. -/
theorem lead?_four (h : 0xF0 ≤ b.toNat ∧ b.toNat ≤ 0xF4) :
    ∃ low high, lead? b = some { owed := 3, low, high, bits := b.toNat - 0xF0 } ∧
      (low = 0x80 ∨ b.toNat = 0xF0 ∧ low = 0x90) ∧
        (high = 0xBF ∨ b.toNat = 0xF4 ∧ high = 0x8F) := by
  unfold lead?
  dsimp only
  rw [if_neg (by omega), if_neg (by omega), if_neg (by omega), if_neg (by omega),
    if_neg (by omega), if_neg (by omega)]
  split
  · next heq => exact ⟨_, _, by rw [heq], .inr ⟨heq, rfl⟩, .inl rfl⟩
  · split
    · exact ⟨_, _, rfl, .inl rfl, .inl rfl⟩
    · have heq : b.toNat = 0xF4 := by omega
      exact ⟨_, _, by rw [if_pos heq, heq], .inl rfl, .inr ⟨heq, rfl⟩⟩

end

/-! ## the piece of a character -/

section

variable {v : Nat} {rest : List UInt8}

theorem toNat_ofNat_of_lt {n : Nat} (h : n < 256) : (UInt8.ofNat n).toNat = n :=
  UInt8.toNat_ofNat_of_lt' h

/-- A byte that follows carries six bits. -/
theorem toNat_following (n : Nat) : (UInt8.ofNat (n % 64 + 128)).toNat = n % 64 + 128 :=
  toNat_ofNat_of_lt (by omega)

theorem piece_two (h : 0x80 ≤ v ∧ v < 0x800) :
    piece (UInt8.ofNat (v / 64 % 32 + 192)) (UInt8.ofNat (v % 64 + 128) :: rest) =
      (some (Char.ofNat v), rest) := by
  have hfirst : (UInt8.ofNat (v / 64 % 32 + 192)).toNat = v / 64 + 192 := by
    rw [toNat_ofNat_of_lt (by omega)]
    omega
  have hlast := toNat_following v
  refine piece_of_lead (lead?_two (by omega)) ?_
  dsimp only
  rw [follow_succ (by omega), follow_zero]
  congr 2
  omega

/-- A character of three bytes, surrogates aside. -/
theorem piece_three (h : 0x800 ≤ v ∧ v < 0x10000) (hvalid : v < 0xD800 ∨ 0xDFFF < v) :
    piece (UInt8.ofNat (v / 4096 % 16 + 224))
        (UInt8.ofNat (v / 64 % 64 + 128) :: UInt8.ofNat (v % 64 + 128) :: rest) =
      (some (Char.ofNat v), rest) := by
  have hfirst : (UInt8.ofNat (v / 4096 % 16 + 224)).toNat = v / 4096 + 224 := by
    rw [toNat_ofNat_of_lt (by omega)]
    omega
  have hnext := toNat_following (v / 64)
  have hlast := toNat_following v
  obtain ⟨low, high, hlead, hlow, hhigh⟩ :=
    lead?_three (b := UInt8.ofNat (v / 4096 % 16 + 224)) (by omega)
  refine piece_of_lead hlead ?_
  dsimp only
  rw [follow_succ (by omega), follow_succ (by omega), follow_zero]
  congr 2
  omega

theorem piece_four (h : 0x10000 ≤ v ∧ v < 0x110000) :
    piece (UInt8.ofNat (v / 262144 % 8 + 240)) (UInt8.ofNat (v / 4096 % 64 + 128) ::
        UInt8.ofNat (v / 64 % 64 + 128) :: UInt8.ofNat (v % 64 + 128) :: rest) =
      (some (Char.ofNat v), rest) := by
  have hfirst : (UInt8.ofNat (v / 262144 % 8 + 240)).toNat = v / 262144 + 240 := by
    rw [toNat_ofNat_of_lt (by omega)]
    omega
  have hsecond := toNat_following (v / 4096)
  have hnext := toNat_following (v / 64)
  have hlast := toNat_following v
  obtain ⟨low, high, hlead, hlow, hhigh⟩ :=
    lead?_four (b := UInt8.ofNat (v / 262144 % 8 + 240)) (by omega)
  refine piece_of_lead hlead ?_
  dsimp only
  rw [follow_succ (by omega), follow_succ (by omega), follow_succ (by omega), follow_zero]
  congr 2
  omega

end

/-- The bytes of a character are one piece, which is this character. -/
theorem piece_utf8EncodeChar (c : Char) (rest : List UInt8) :
    ∃ b bs, String.utf8EncodeChar c ++ rest = b :: bs ∧ piece b bs = (some c, rest) := by
  obtain ⟨v, hv⟩ : ∃ v, c.val.toNat = v := ⟨_, rfl⟩
  have hc : Char.ofNat v = c := hv ▸ Char.ofNat_toNat c
  have hvalid : v < 0xD800 ∨ 0xDFFF < v ∧ v < 0x110000 := hv ▸ c.valid
  unfold String.utf8EncodeChar
  rw [hv, ← hc]
  dsimp only
  split
  · have hb : (UInt8.ofNat v).toNat = v := toNat_ofNat_of_lt (by omega)
    refine ⟨_, rest, rfl, ?_⟩
    rw [piece_of_ascii (by omega), hb]
  · split
    · exact ⟨_, _, rfl, piece_two (v := v) (by omega)⟩
    · split
      · exact ⟨_, _, rfl, piece_three (v := v) (by omega) (by omega)⟩
      · exact ⟨_, _, rfl, piece_four (v := v) (by omega)⟩

/-- Encoded characters are read back one by one. -/
theorem pieces_encode (cs : List Char) : pieces (encode cs) = cs.map some := by
  induction cs with
  | nil => simp [encode, pieces]
  | cons c cs ih =>
      obtain ⟨b, bs, heq, hpiece⟩ := piece_utf8EncodeChar c (encode cs)
      have hcons : encode (c :: cs) = b :: bs := heq
      rw [hcons, pieces, hpiece, ih]
      rfl

end Utf8

/-- **A text is read back from its bytes.** -/
theorem decode?_encode (cs : List Char) : decode? (encode cs) = some cs := by
  rw [decode?, Utf8.pieces_encode]
  induction cs with
  | nil => rfl
  | cons c cs ih =>
      rw [List.map_cons, List.mapM_cons, ih]
      rfl

end SlotUpload.Text
