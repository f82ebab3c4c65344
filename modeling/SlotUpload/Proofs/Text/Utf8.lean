import Mathlib.Algebra.Group.Nat.Defs
import SlotUpload.Text.Utf8

/-!
# SlotUpload.Proofs.Text.Utf8

ASCII in UTF-8.  A character of ASCII is one byte, and whatever is wrong with the
bytes around it, that byte stands for it and nothing else does: an ASCII character is
in a text exactly if its byte is among the bytes (`mem_decodeLossy_iff`).
-/

namespace SlotUpload.Text

/-- The characters of ASCII but the zero character, which a number that is none of a
character stands for. -/
def IsAscii (c : Char) : Prop := 0 < c.toNat ∧ c.toNat < 0x80

instance (c : Char) : Decidable (IsAscii c) := inferInstanceAs (Decidable (_ ∧ _))

/-- The byte of a character of ASCII. -/
abbrev asciiByte (c : Char) : UInt8 := UInt8.ofNat c.toNat

variable {c : Char}

theorem toNat_asciiByte (h : c.toNat < 0x80) : (asciiByte c).toNat = c.toNat :=
  UInt8.toNat_ofNat_of_lt' (Nat.lt_trans h (by decide))

/-- A character below 128 is its own byte. -/
theorem utf8EncodeChar_of_ascii (h : c.toNat < 0x80) :
    String.utf8EncodeChar c = [asciiByte c] := by
  have hle : c.val.toNat ≤ 127 := Nat.le_of_lt_succ h
  rw [String.utf8EncodeChar, if_pos hle]
  rfl

/-- All bytes of the other characters have their highest bit set. -/
theorem le_of_mem_utf8EncodeChar (h : 0x80 ≤ c.toNat) :
    ∀ b ∈ String.utf8EncodeChar c, 0x80 ≤ b.toNat := by
  have hlt : ¬ c.val.toNat ≤ 127 := Nat.not_le_of_gt h
  have hhigh : ∀ n, n < 128 → 0x80 ≤ (UInt8.ofNat (n + 128)).toNat := by
    intro n hn
    rw [UInt8.toNat_ofNat_of_lt' (by change _ < 256; omega)]
    omega
  rw [String.utf8EncodeChar, if_neg hlt]
  intro b hb
  split at hb
  · simp only [List.mem_cons, List.not_mem_nil, or_false] at hb
    rcases hb with rfl | rfl
    · exact hhigh (_ % 32 + 64) (by omega)
    · exact hhigh _ (by omega)
  · split at hb
    · simp only [List.mem_cons, List.not_mem_nil, or_false] at hb
      rcases hb with rfl | rfl | rfl
      · exact hhigh (_ % 16 + 96) (by omega)
      · exact hhigh _ (by omega)
      · exact hhigh _ (by omega)
    · simp only [List.mem_cons, List.not_mem_nil, or_false] at hb
      rcases hb with rfl | rfl | rfl | rfl
      · exact hhigh (_ % 8 + 112) (by omega)
      · exact hhigh _ (by omega)
      · exact hhigh _ (by omega)
      · exact hhigh _ (by omega)

namespace Utf8

variable {owed low high bits n : Nat} {b : UInt8} {bs rest : List UInt8}

/-- Bytes that follow add to the number. -/
theorem le_of_follow (h : follow owed low high bits bs = (some n, rest)) :
    bits * 64 ^ owed ≤ n := by
  induction bs generalizing owed low high bits with
  | nil =>
      unfold follow at h
      split at h
      · next howed =>
          cases h
          simp [howed]
      · cases h
  | cons b bs ih =>
      unfold follow at h
      split at h
      · cases h
        simp
      · next k =>
          split at h
          · refine Nat.le_trans ?_ (ih h)
            rw [Nat.pow_succ, Nat.mul_comm (64 ^ k), ← Nat.mul_assoc]
            exact Nat.mul_le_mul_right _ (Nat.le_add_right _ _)
          · cases h

/-- A byte that is owed is within its bounds. -/
theorem exists_of_follow_succ (h : follow (owed + 1) low high bits bs = (some n, rest)) :
    ∃ b : UInt8, low ≤ b.toNat ∧ b.toNat ≤ high ∧ (bits * 64 + b.toNat % 64) * 64 ^ owed ≤ n := by
  cases bs with
  | nil => cases h
  | cons b bs =>
      rw [follow] at h
      split at h
      · next hb => exact ⟨b, hb.1, hb.2, le_of_follow h⟩
      · cases h

/-- Only bytes with their highest bit set are taken. -/
theorem exists_eaten (hlow : 0x80 ≤ low) (owed high bits : Nat) (bs : List UInt8) :
    ∃ eaten, bs = eaten ++ (follow owed low high bits bs).2 ∧ ∀ b ∈ eaten, 0x80 ≤ b.toNat := by
  induction bs generalizing owed low high bits with
  | nil => exact ⟨[], by simp [follow], by simp⟩
  | cons b bs ih =>
      cases owed with
      | zero => exact ⟨[], rfl, by simp⟩
      | succ k =>
          rw [follow]
          split
          · next hb =>
              obtain ⟨eaten, heq, heaten⟩ := ih (Nat.le_refl 0x80) k 0xBF (bits * 64 + b.toNat % 64)
              refine ⟨b :: eaten, congrArg (b :: ·) heq, ?_⟩
              exact List.forall_mem_cons.2 ⟨Nat.le_trans hlow hb.1, heaten⟩
          · exact ⟨[], rfl, by simp⟩

/-- After a first byte with its highest bit set there are bytes to follow, and the
number is at least 128 then. -/
theorem exists_owed_of_lead (hb : 0x80 ≤ b.toNat) {l : Lead} (hl : lead? b = some l) :
    ∃ k, l.owed = k + 1 ∧ 0x80 ≤ l.low ∧
      ∀ x, l.low ≤ x → x ≤ l.high → 0x80 ≤ (l.bits * 64 + x % 64) * 64 ^ k := by
  unfold lead? at hl
  dsimp only at hl
  rw [if_neg (Nat.not_lt.2 hb)] at hl
  repeat' split at hl
  all_goals cases hl
  all_goals
    refine ⟨_, rfl, by dsimp only; omega, fun x hlow hhigh => ?_⟩
    dsimp only at hlow hhigh ⊢
    omega

/-- A lead above 127 never gives a character below 128. -/
theorem le_of_follow_lead (hb : 0x80 ≤ b.toNat) {l : Lead} (hl : lead? b = some l)
    (h : follow l.owed l.low l.high l.bits bs = (some n, rest)) : 0x80 ≤ n := by
  obtain ⟨k, howed, -, hle⟩ := exists_owed_of_lead hb hl
  rw [howed] at h
  obtain ⟨x, hlow, hhigh, hn⟩ := exists_of_follow_succ h
  exact Nat.le_trans (hle x.toNat hlow hhigh) hn

/-- A piece that starts with a byte of ASCII is that byte. -/
theorem piece_of_ascii (hb : b.toNat < 0x80) (bs : List UInt8) :
    piece b bs = (some (Char.ofNat b.toNat), bs) := by
  have hlead : lead? b = some { owed := 0, bits := b.toNat } := by
    rw [lead?]
    exact if_pos hb
  rw [piece, hlead]
  cases bs <;> rfl

/-- A number from 128 on stands for no character of ASCII. -/
theorem not_isAscii_ofNat (hn : 0x80 ≤ n) : ¬ IsAscii (Char.ofNat n) := by
  rintro ⟨hpos, hlt⟩
  by_cases hvalid : n.isValidChar
  · have hval : (Char.ofNat n).toNat = n := by
      rw [Char.ofNat, dif_pos hvalid]
      rfl
    rw [hval] at hlt
    omega
  · rw [Char.ofNat, dif_neg hvalid] at hpos
    exact absurd hpos (by decide)

/-- A piece that starts otherwise is no character of ASCII, and takes no byte of one. -/
theorem piece_of_not_ascii (hb : 0x80 ≤ b.toNat) (bs : List UInt8) :
    ¬ IsAscii ((piece b bs).1.getD '\uFFFD') ∧
      ∃ eaten, bs = eaten ++ (piece b bs).2 ∧ ∀ x ∈ eaten, 0x80 ≤ x.toNat := by
  unfold piece
  cases hl : lead? b with
  | none => exact ⟨by dsimp only; decide, [], rfl, by simp⟩
  | some l =>
      obtain ⟨k, -, hlow, -⟩ := exists_owed_of_lead hb hl
      refine ⟨?_, exists_eaten hlow l.owed l.high l.bits bs⟩
      cases hn : (follow l.owed l.low l.high l.bits bs).1 with
      | none =>
          dsimp only
          rw [hn]
          decide
      | some n =>
          dsimp only
          rw [hn]
          exact not_isAscii_ofNat (le_of_follow_lead hb hl (Prod.ext hn rfl))

end Utf8

/-! ## texts -/

variable {bytes : List UInt8} {cs : List Char}

/-- Decoding takes one piece at a time. -/
theorem decodeLossy_cons (b : UInt8) (bs : List UInt8) : decodeLossy (b :: bs) =
    (Utf8.piece b bs).1.getD '\uFFFD' :: decodeLossy (Utf8.piece b bs).2 := by
  rw [decodeLossy, decodeLossy, Utf8.pieces, List.map_cons]

/-- Only nothing is decoded to nothing. -/
theorem decodeLossy_eq_nil_iff : decodeLossy bytes = [] ↔ bytes = [] := by
  cases bytes with
  | nil => simp [decodeLossy, Utf8.pieces]
  | cons b bs => simp [decodeLossy_cons]

theorem decodeLossy_cons_of_ascii {b : UInt8} (hb : b.toNat < 0x80) (bs : List UInt8) :
    decodeLossy (b :: bs) = Char.ofNat b.toNat :: decodeLossy bs := by
  rw [decodeLossy_cons, Utf8.piece_of_ascii hb]
  rfl

/-- A byte below 128 stands for one character. -/
theorem eq_asciiByte_iff {b : UInt8} (hb : b.toNat < 0x80) (hc : IsAscii c) :
    c = Char.ofNat b.toNat ↔ asciiByte c = b := by
  rw [← Char.toNat_inj, ← UInt8.toNat_inj, toNat_asciiByte hc.2]
  have hvalid : (Char.ofNat b.toNat).toNat = b.toNat := by
    rw [Char.ofNat, dif_pos (.inl (Nat.lt_trans hb (by decide)))]
    rfl
  rw [hvalid]

/-- The byte of a character of ASCII is not one with its highest bit set. -/
theorem asciiByte_ne (hc : IsAscii c) {b : UInt8} (hb : 0x80 ≤ b.toNat) : asciiByte c ≠ b := by
  rintro rfl
  rw [toNat_asciiByte hc.2] at hb
  exact absurd hc.2 (Nat.not_lt.2 hb)

/-- **A character of ASCII is in a text exactly if its byte is among the bytes.** -/
theorem mem_decodeLossy_iff (hc : IsAscii c) : c ∈ decodeLossy bytes ↔ asciiByte c ∈ bytes := by
  induction hlength : bytes.length using Nat.strongRecOn generalizing bytes with
  | ind length ih =>
      cases bytes with
      | nil => simp [decodeLossy, Utf8.pieces]
      | cons b bs =>
          have hsucc : bs.length < length := by
            rw [← hlength]
            exact Nat.lt_succ_self _
          by_cases hb : b.toNat < 0x80
          · rw [decodeLossy_cons_of_ascii hb, List.mem_cons, List.mem_cons, ih _ hsucc rfl,
              eq_asciiByte_iff hb hc]
          · have hhigh : 0x80 ≤ b.toNat := Nat.not_lt.1 hb
            obtain ⟨hpiece, eaten, heq, heaten⟩ := Utf8.piece_of_not_ascii hhigh bs
            have hlater := Nat.lt_of_le_of_lt (Utf8.length_piece_le b bs) hsucc
            have hne : c ≠ (Utf8.piece b bs).1.getD '\uFFFD' := by
              rintro rfl
              exact hpiece hc
            have heaten' : asciiByte c ∉ eaten := fun h => asciiByte_ne hc (heaten _ h) rfl
            rw [decodeLossy_cons, List.mem_cons, ih _ hlater rfl, List.mem_cons]
            generalize (Utf8.piece b bs).2 = rest at heq
            subst heq
            simp [hne, asciiByte_ne hc hhigh, heaten']

/-- A text starts with a character of ASCII exactly if its bytes start with the byte
of that character. -/
theorem decodeLossy_eq_cons_iff (hc : IsAscii c) : decodeLossy bytes = c :: cs ↔
    ∃ rest, bytes = asciiByte c :: rest ∧ decodeLossy rest = cs := by
  cases bytes with
  | nil => simp [decodeLossy, Utf8.pieces]
  | cons b bs =>
      by_cases hb : b.toNat < 0x80
      · rw [decodeLossy_cons_of_ascii hb, List.cons.injEq, eq_comm (b := c),
          eq_asciiByte_iff hb hc]
        constructor
        · rintro ⟨rfl, rfl⟩
          exact ⟨bs, rfl, rfl⟩
        · rintro ⟨rest, hcons, rfl⟩
          obtain ⟨rfl, rfl⟩ := List.cons.inj hcons
          exact ⟨rfl, rfl⟩
      · have hhigh : 0x80 ≤ b.toNat := Nat.not_lt.1 hb
        constructor
        · intro h
          rw [decodeLossy_cons, List.cons.injEq] at h
          exact absurd hc (h.1 ▸ (Utf8.piece_of_not_ascii hhigh bs).1)
        · rintro ⟨rest, hcons, -⟩
          exact absurd (List.cons.inj hcons).1.symm (asciiByte_ne hc hhigh)

end SlotUpload.Text
