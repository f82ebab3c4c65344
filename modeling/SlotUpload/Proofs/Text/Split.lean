import SlotUpload.Text.Split

/-!
# SlotUpload.Proofs.Text.Split

The pieces of a text.  No piece has a separator in it, and a text is cut at each
separator on its own, so that a separator between two texts is one between their
pieces (`pieces_append`).
-/

namespace SlotUpload.Text

variable {sep : Char → Bool}

theorem consFirst_append {c : Char} {ws vs : List (List Char)} (h : ws ≠ []) :
    consFirst c (ws ++ vs) = consFirst c ws ++ vs := by
  cases ws with
  | nil => contradiction
  | cons w ws => rfl

/-- A separator ends a piece. -/
theorem pieces_append {x : Char} (hx : sep x) (s s' : List Char) :
    pieces sep (s ++ x :: s') = pieces sep s ++ pieces sep s' := by
  induction s with
  | nil => simp [pieces, hx]
  | cons c s ih =>
      rw [List.cons_append, pieces, pieces, ih]
      split
      · rfl
      · exact consFirst_append (pieces_ne_nil sep s)

/-- A text without a separator is one piece. -/
theorem pieces_eq_singleton {s : List Char} (h : ∀ c ∈ s, ¬ sep c) : pieces sep s = [s] := by
  induction s with
  | nil => rfl
  | cons c s ih =>
      obtain ⟨hc, hs⟩ := List.forall_mem_cons.1 h
      rw [pieces, if_neg hc, ih hs]
      rfl

/-- What holds of all pieces holds with a character before the first. -/
theorem forall_mem_consFirst {P : List Char → Prop} {c : Char} {ws : List (List Char)}
    (hne : ws ≠ []) (h : ∀ w ∈ ws, P w) (hfirst : ∀ w, P w → P (c :: w)) :
    ∀ w ∈ consFirst c ws, P w := by
  cases ws with
  | nil => contradiction
  | cons w ws =>
      obtain ⟨hw, hws⟩ := List.forall_mem_cons.1 h
      exact List.forall_mem_cons.2 ⟨hfirst w hw, hws⟩

/-- The characters of a piece are no separators. -/
theorem not_sep_of_mem_pieces {s : List Char} : ∀ w ∈ pieces sep s, ∀ c ∈ w, ¬ sep c := by
  induction s with
  | nil => simp [pieces]
  | cons c s ih =>
      rw [pieces]
      split
      · exact List.forall_mem_cons.2 ⟨by simp, ih⟩
      · next hc =>
          refine forall_mem_consFirst (pieces_ne_nil sep s) ih fun w hw => ?_
          exact List.forall_mem_cons.2 ⟨hc, hw⟩

/-- Only a text of nothing but separators has nothing but empty pieces. -/
theorem sep_of_pieces_eq_nil {s : List Char} (h : ∀ w ∈ pieces sep s, w = []) :
    ∀ c ∈ s, sep c := by
  induction s with
  | nil => simp
  | cons c s ih =>
      rw [pieces] at h
      split at h
      · next hc => exact List.forall_mem_cons.2 ⟨hc, ih (List.forall_mem_cons.1 h).2⟩
      · cases hp : pieces sep s with
        | nil => exact absurd hp (pieces_ne_nil sep s)
        | cons w ws =>
            rw [hp] at h
            exact absurd (h (c :: w) List.mem_cons_self) (List.cons_ne_nil c w)

end SlotUpload.Text
