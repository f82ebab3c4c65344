import Mathlib.Algebra.Group.Int.Defs
import Mathlib.Algebra.Group.Nat.Defs
import SlotUpload.Proofs.Text.Numeral
import SlotUpload.Transfer.Id

/-!
# SlotUpload.Proofs.Transfer.Id

Names that are drawn one after another.  A name is a time followed by a count, with nothing
between them, so it does not show where the count starts.  If two times have the same number
of digits it starts at the same place, and the names are equal only if the counts are
(`drawn_eq_of_draw_eq`).

All times from September 2001 to November 2286 have thirteen digits, and a count comes again
only after all others.  So the names that are drawn in that time are distinct, however the
clock goes (`nodup_drawAll`).
-/

namespace SlotUpload

/-- A number can be read off its digits. -/
theorem Text.digits_inj {m n : Nat} (h : digits m = digits n) : m = n := by
  calc m = (Numeral.written m).value := (Numeral.value_written m).symm
    _ = (Numeral.written n).value := congrArg (Nat.ofDigitChars 10 · 0) h
    _ = n := Numeral.value_written n

/-! ## times -/

namespace Moment

/-- A moment between September 2001 and November 2286. -/
structure IsRecent (t : Moment) : Prop where
  le_millis : 10 ^ 12 ≤ t.millis
  millis_le : t.millis ≤ 10 ^ 13 - 1

/-- The milliseconds of our time have thirteen digits. -/
theorem IsRecent.length_signedDigits {t : Moment} (h : t.IsRecent) :
    (Text.signedDigits t.millis).length = 13 := by
  obtain ⟨n, hn⟩ := Int.eq_ofNat_of_zero_le (Int.le_trans (by decide) h.le_millis)
  have hlower : 10 ^ 12 ≤ n := by
    have := h.le_millis
    omega
  have hupper : n < 10 ^ 13 := by
    have := h.millis_le
    omega
  have hmost : (Text.digits n).length ≤ 13 :=
    (Nat.length_toDigits_le_iff (by decide) (by decide)).2 hupper
  have hleast : ¬ (Text.digits n).length ≤ 12 := fun hle =>
    Nat.not_lt.2 hlower ((Nat.length_toDigits_le_iff (by decide) (by decide)).1 hle)
  have hdigits : Text.signedDigits t.millis = Text.digits n := by
    rw [hn, Text.signedDigits, if_neg (by omega), Int.natAbs_natCast]
  rw [hdigits]
  omega

end Moment

/-! ## names -/

namespace IdSource

variable {s s' : IdSource} {now now' : Moment}

/-- Where the times have the same number of digits, the name tells the count. -/
theorem drawn_eq_of_draw_eq (hlength : (Text.signedDigits now.millis).length =
    (Text.signedDigits now'.millis).length) (h : (s.draw now).1 = (s'.draw now').1) :
    s.drawn = s'.drawn := by
  have happend : Text.signedDigits now.millis ++ Text.digits s.drawn.toNat =
      Text.signedDigits now'.millis ++ Text.digits s'.drawn.toNat := String.ofList_injective h
  have hcount : Text.digits s.drawn.toNat = Text.digits s'.drawn.toNat :=
    (List.append_inj happend hlength).2
  exact UInt64.toNat_inj.1 (Text.digits_inj hcount)

/-- The names that are drawn at some moments, one after another. -/
def drawAll (s : IdSource) : List Moment → List String
  | [] => []
  | now :: later => (s.draw now).1 :: (s.draw now).2.drawAll later

theorem add_ofNat_succ (n : UInt64) (i : Nat) :
    n + UInt64.ofNat (i + 1) = n + 1 + UInt64.ofNat i := by
  rw [UInt64.ofNat_add, UInt64.add_comm (UInt64.ofNat i), UInt64.add_assoc]
  rfl

/-- A count comes again only after all other numbers of 64 bits. -/
theorem add_ofNat_succ_ne (n : UInt64) {i : Nat} (h : i + 1 < 2 ^ 64) :
    n + UInt64.ofNat (i + 1) ≠ n := by
  intro heq
  have hzero : UInt64.ofNat (i + 1) = 0 := by simpa using heq
  have hnat := congrArg UInt64.toNat hzero
  rw [UInt64.toNat_ofNat_of_lt' h] at hnat
  contradiction

/-- Each name is drawn at one of the moments, with a count of its own. -/
theorem exists_draw_of_mem_drawAll {nows : List Moment} {id : String} (h : id ∈ s.drawAll nows) :
    ∃ i, i < nows.length ∧ ∃ now ∈ nows,
      id = (draw ⟨s.drawn + UInt64.ofNat i⟩ now).1 := by
  induction nows generalizing s with
  | nil => contradiction
  | cons now later ih =>
      rcases List.mem_cons.1 h with rfl | h
      · exact ⟨0, Nat.succ_pos _, now, List.mem_cons_self, by simp⟩
      · obtain ⟨i, hi, now', hnow', rfl⟩ := ih h
        refine ⟨i + 1, Nat.succ_lt_succ hi, now', List.mem_cons_of_mem _ hnow', ?_⟩
        rw [add_ofNat_succ]
        rfl

/-- **Names that are drawn one after another are distinct**, if there are no more of them
than counts.  The clock may stand still or go back between any two of them. -/
theorem nodup_drawAll (s : IdSource) {nows : List Moment} (hlength : nows.length ≤ 2 ^ 64)
    (hnows : ∀ now ∈ nows, now.IsRecent) : (s.drawAll nows).Nodup := by
  induction nows generalizing s with
  | nil => exact List.nodup_nil
  | cons now later ih =>
      rw [List.length_cons] at hlength
      rw [List.forall_mem_cons] at hnows
      refine List.nodup_cons.2 ⟨fun hmem => ?_, ih _ (by omega) hnows.2⟩
      -- A later name that equals the first would have been drawn with the same count.
      obtain ⟨i, hi, now', hnow', heq⟩ := exists_draw_of_mem_drawAll hmem
      have hdigits : (Text.signedDigits now.millis).length =
          (Text.signedDigits now'.millis).length :=
        hnows.1.length_signedDigits.trans (hnows.2 now' hnow').length_signedDigits.symm
      have hdrawn : s.drawn = s.drawn + 1 + UInt64.ofNat i := drawn_eq_of_draw_eq hdigits heq
      rw [← add_ofNat_succ] at hdrawn
      exact add_ofNat_succ_ne s.drawn (by omega) hdrawn.symm

/-- The clock goes from the first of these moments to the last, back, and then stands still. -/
theorem nodup_drawAll_back :
    let nows : List Moment := [⟨10 ^ 12⟩, ⟨10 ^ 13 - 1⟩, ⟨10 ^ 12⟩, ⟨10 ^ 12⟩]
    nows.length ≤ 2 ^ 64 ∧ (∀ now ∈ nows, now.IsRecent) ∧
      drawAll {} nows = ["10000000000000", "99999999999991", "10000000000002", "10000000000003"] ∧
      (drawAll {} nows).Nodup := by
  intro nows
  have hlength : nows.length ≤ 2 ^ 64 := by decide
  have hnows : ∀ now ∈ nows, now.IsRecent := by
    intro now hnow
    simp only [nows, List.mem_cons, List.not_mem_nil, or_false] at hnow
    rcases hnow with rfl | rfl | rfl | rfl <;> exact ⟨by decide, by decide⟩
  exact ⟨hlength, hnows, by decide, nodup_drawAll {} hlength hnows⟩

/-- Times with different numbers of digits can make one name out of two counts. -/
example : (draw ⟨11⟩ ⟨1⟩).1 = (draw ⟨1⟩ ⟨11⟩).1 := by decide

end IdSource

end SlotUpload
