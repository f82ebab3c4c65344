import SlotUpload.Text.Numeral

/-!
# SlotUpload.Proofs.Text.Numeral

Texts that denote numbers.  In a `Numeral` the digits may follow a plus sign and leading
zeros, and blanks may stand around all of it.  Digits are neither blank nor signs, so
trimming and the dropped plus leave the digits, which are read to the number that they
denote; a count is read exactly if that number has 64 bits (`Numeral.count?_text`).

So a number that is written in digits is read back (`count?_digits`).
-/

namespace SlotUpload.Text

variable {c : Char} {s : List Char}

/-! ## digits -/

theorem digit?_of_isDigit (h : c.isDigit) : digit? c = some (c.toNat - '0'.toNat) := by
  rw [Char.isDigit_iff_toNat] at h
  exact if_pos h

theorem isBlank_of_isDigit (h : c.isDigit) : isBlank c = false := by
  rw [Char.isDigit_iff_toNat] at h
  have h0 : '0'.toNat = 48 := rfl
  have h9 : '9'.toNat = 57 := rfl
  exact isBlank_eq_false_of_visible (by omega)

theorem isDigit_of_mem_digits {n : Nat} (h : c ∈ digits n) : c.isDigit :=
  Nat.isDigit_of_mem_toDigits (by decide) (by decide) h

/-! ## reading digits -/

/-- Reading digits gives the number that they denote. -/
theorem naturalFrom_eq_ofDigitChars (n : Nat) (h : ∀ c ∈ s, c.isDigit) :
    naturalFrom n s = some (Nat.ofDigitChars 10 s n) := by
  induction s generalizing n with
  | nil => rw [naturalFrom, Nat.ofDigitChars_nil]
  | cons c s ih =>
      rw [List.forall_mem_cons] at h
      rw [naturalFrom, digit?_of_isDigit h.1]
      dsimp only
      rw [ih _ h.2, Nat.ofDigitChars_cons, Nat.mul_comm]

/-! ## numerals -/

/-- Blanks before and after a text that is visible at both ends are trimmed. -/
theorem trim_surrounded {before core after : List Char} (hne : core ≠ [])
    (first : ∀ c ∈ core.head?, isBlank c = false) (last : ∀ c ∈ core.getLast?, isBlank c = false)
    (hbefore : ∀ c ∈ before, isBlank c) (hafter : ∀ c ∈ after, isBlank c) :
    trim (before ++ (core ++ after)) = core := by
  obtain ⟨c, cs, rfl⟩ := List.exists_cons_of_ne_nil hne
  have hc : ¬ isBlank c := by simp [first c rfl]
  have hstart : ∀ s, trimStart (c :: s) = c :: s := fun s => List.dropWhile_cons_of_neg hc
  have hcore : trimEnd (c :: cs) = c :: cs := by
    rw [← hstart cs]
    exact (trim_eq_self first last).trans (hstart cs).symm
  have hend : trimEnd (c :: cs ++ after) = trimEnd (c :: cs) := by
    have hreverse : ∀ c ∈ after.reverse, isBlank c := fun c h => hafter c (List.mem_reverse.1 h)
    rw [trimEnd, List.reverse_append, List.dropWhile_append_of_pos hreverse, trimEnd]
  rw [trim, trimStart, List.dropWhile_append_of_pos hbefore, ← trimStart, List.cons_append, hstart,
    ← List.cons_append, hend, hcore]

/-- A text that denotes a number: decimal digits, with one plus sign or none before them
and blanks around it. -/
structure Numeral where
  before : List Char := []
  plus : Bool := false
  digits : List Char
  after : List Char := []
  before_blank : ∀ c ∈ before, isBlank c := by exact List.all_eq_true.1 rfl
  digits_ne_nil : digits ≠ [] := by decide
  digits_isDigit : ∀ c ∈ digits, c.isDigit := by exact List.all_eq_true.1 rfl
  after_blank : ∀ c ∈ after, isBlank c := by exact List.all_eq_true.1 rfl

namespace Numeral

variable (m : Numeral)

/-- The sign with the digits. -/
def core : List Char := if m.plus then '+' :: m.digits else m.digits

def text : String := String.ofList (m.before ++ (m.core ++ m.after))

/-- The number that is denoted, however large it is. -/
def value : Nat := Nat.ofDigitChars 10 m.digits 0

theorem core_ne_nil : m.core ≠ [] := by
  unfold core
  split
  · exact List.cons_ne_nil _ _
  · exact m.digits_ne_nil

theorem isBlank_of_mem_core (h : c ∈ m.core) : isBlank c = false := by
  unfold core at h
  split at h
  · rcases List.mem_cons.1 h with rfl | h
    · decide
    · exact isBlank_of_isDigit (m.digits_isDigit c h)
  · exact isBlank_of_isDigit (m.digits_isDigit c h)

theorem trim_text : trim m.text.toList = m.core := by
  rw [text, String.toList_ofList]
  exact trim_surrounded m.core_ne_nil
    (fun _ h => m.isBlank_of_mem_core (List.mem_of_mem_head? h))
    (fun _ h => m.isBlank_of_mem_core (List.mem_of_mem_getLast? h)) m.before_blank m.after_blank

theorem dropPlus_core : dropPlus m.core = m.digits := by
  unfold core
  split
  · rfl
  · unfold dropPlus
    split
    · next cs h =>
        have hplus : '+'.isDigit := m.digits_isDigit '+' (h ▸ List.mem_cons_self)
        contradiction
    · rfl

theorem natural?_eq_value : natural? m.digits = some m.value := by
  obtain ⟨c, cs, h⟩ := List.exists_cons_of_ne_nil m.digits_ne_nil
  rw [h, natural?, ← h, naturalFrom_eq_ofDigitChars 0 m.digits_isDigit, value]

/-- A number is read if it has 64 bits, and no other one is read in its place. -/
theorem count?_text : count? m.text =
    if m.value < UInt64.size then some (UInt64.ofNat m.value) else none := by
  unfold count? bounded?
  rw [trim_text, dropPlus_core, natural?_eq_value]
  dsimp only
  split <;> rfl

/-- A number that is written in digits. -/
def written (n : Nat) : Numeral where
  digits := Text.digits n
  digits_ne_nil := Nat.toDigits_ne_nil
  digits_isDigit _ := isDigit_of_mem_digits

/-- A written number has its value. -/
theorem value_written (n : Nat) : (written n).value = n := Nat.ofDigitChars_ten_toDigits

theorem text_written (n : Nat) : (written n).text = String.ofList (Text.digits n) :=
  congrArg String.ofList (List.append_nil _)

end Numeral

theorem natural?_digits (n : Nat) : natural? (digits n) = some n :=
  (Numeral.written n).natural?_eq_value.trans (congrArg some (Numeral.value_written n))

/-- A written count is read back, however large it is. -/
theorem count?_digits (n : UInt64) : count? (String.ofList (digits n.toNat)) = some n := by
  rw [← Numeral.text_written, Numeral.count?_text, Numeral.value_written, if_pos n.toNat_lt_size,
    UInt64.ofNat_toNat]

end SlotUpload.Text
