import Mathlib.Data.List.Induction
import Mathlib.Data.List.Nodup
import SlotUpload.Roster

/-!
# SlotUpload.Proofs.Roster

Who is on a roster, and in which order, told from all that was ever done to it.
Someone is there who was added and has not been removed since (`Registered`); of
two who are there the one stands first who has been there for longer (`Senior`).
A roster is just that after any changes (`faithful_ofChanges`).
-/

namespace SlotUpload.Roster

/-- Something that is done to a roster. -/
inductive Change (α : Type)
  | add (a : α)
  | remove (a : α)
  deriving DecidableEq, Repr

variable {α : Type}

/-- Added, and not removed since. -/
def Registered (changes : List (Change α)) (a : α) : Prop :=
  ∃ before after, changes = before ++ .add a :: after ∧ .remove a ∉ after

/-- At some moment `a` was there and `b` was not, and `a` has not been removed since. -/
def Senior (changes : List (Change α)) (a b : α) : Prop :=
  ∃ before after, changes = before ++ after ∧ Registered before a ∧ ¬ Registered before b ∧
    .remove a ∉ after

/-- The roster is that of all who are registered, each once, in order of seniority. -/
structure Faithful (changes : List (Change α)) (r : Roster α) : Prop where
  mem_iff : ∀ a, a ∈ r ↔ Registered changes a
  nodup : r.Nodup
  seniority : r.Pairwise (Senior changes)

/-! ## one more change -/

section Changes

variable {changes : List (Change α)} {change : Change α} {a b : α}

theorem not_registered_nil : ¬ Registered ([] : List (Change α)) a := by
  rintro ⟨before, after, h, -⟩
  cases before <;> cases h

theorem registered_add : Registered (changes ++ [.add a]) a :=
  ⟨changes, [], rfl, List.not_mem_nil⟩

theorem not_registered_remove : ¬ Registered (changes ++ [.remove a]) a := by
  rintro ⟨before, after, h, hafter⟩
  rcases List.eq_nil_or_concat after with rfl | ⟨after, last, rfl⟩
  · have hlast := (List.append_inj' h rfl).2
    cases hlast
  · rw [List.concat_eq_append, ← List.cons_append, ← List.append_assoc] at h
    obtain ⟨-, hlast⟩ := List.append_inj' h rfl
    cases hlast
    exact hafter (by simp)

/-- A change that neither adds nor removes someone leaves them as they were. -/
theorem registered_concat_iff (hadd : change ≠ .add a) (hremove : change ≠ .remove a) :
    Registered (changes ++ [change]) a ↔ Registered changes a := by
  constructor
  · rintro ⟨before, after, h, hafter⟩
    rcases List.eq_nil_or_concat after with rfl | ⟨after, last, rfl⟩
    · obtain ⟨-, hlast⟩ := List.append_inj' h rfl
      cases hlast
      exact absurd rfl hadd
    · rw [List.concat_eq_append, ← List.cons_append, ← List.append_assoc] at h
      obtain ⟨rfl, -⟩ := List.append_inj' h rfl
      exact ⟨before, after, rfl, fun hmem => hafter (by simp [hmem])⟩
  · rintro ⟨before, after, rfl, hafter⟩
    exact ⟨before, after ++ [change], by simp, by simp [hafter, hremove.symm]⟩

/-- One who is senior stays so as long as he is not removed. -/
theorem Senior.concat (h : Senior changes a b) (hremove : change ≠ .remove a) :
    Senior (changes ++ [change]) a b := by
  obtain ⟨before, after, rfl, ha, hb, hafter⟩ := h
  exact ⟨before, after ++ [change], by simp, ha, hb, by simp [hafter, hremove.symm]⟩

end Changes

/-- Where nothing has been changed nobody is registered. -/
theorem faithful_nil : Faithful ([] : List (Change α)) [] where
  mem_iff _ := iff_of_false List.not_mem_nil not_registered_nil
  nodup := List.nodup_nil
  seniority := .nil

/-! ## rosters -/

variable [DecidableEq α]

/-- The roster after a change. -/
def apply (r : Roster α) : Change α → Roster α
  | .add a => (r.add a).2
  | .remove a => (r.remove a).2

/-- The roster that changes lead to, the first of them in front. -/
def ofChanges (changes : List (Change α)) : Roster α := changes.foldl apply []

theorem apply_add_of_mem {r : Roster α} {a : α} (h : a ∈ r) : apply r (.add a) = r := by
  rw [apply, add, if_pos h]

theorem apply_add_of_not_mem {r : Roster α} {a : α} (h : a ∉ r) :
    apply r (.add a) = r ++ [a] := by
  rw [apply, add, if_neg h]

theorem apply_remove (r : Roster α) (a : α) : apply r (.remove a) = r.filter (· ≠ a) := by
  change (r.remove a).2 = _
  unfold remove
  split
  · rfl
  · next h =>
      refine (List.filter_eq_self.2 fun b hb => ?_).symm
      rw [decide_eq_true_eq]
      rintro rfl
      exact h hb

/-- Whoever is on a roster stays there until removed. -/
theorem mem_foldl_apply {changes : List (Change α)} {r : Roster α} {a : α} (h : a ∈ r)
    (hremove : .remove a ∉ changes) : a ∈ changes.foldl apply r := by
  induction changes generalizing r with
  | nil => exact h
  | cons change changes ih =>
      refine ih ?_ fun hmem => hremove (List.mem_cons_of_mem _ hmem)
      cases change with
      | add b =>
          by_cases hb : b ∈ r
          · rwa [apply_add_of_mem hb]
          · rw [apply_add_of_not_mem hb]
            exact List.mem_append_left _ h
      | remove b =>
          have hne : a ≠ b := by
            rintro rfl
            exact hremove List.mem_cons_self
          rw [apply_remove]
          exact List.mem_filter.2 ⟨h, by simpa using hne⟩

section Step

variable {changes : List (Change α)} {r : Roster α}

/-- Someone who is there already is not added again. -/
theorem Faithful.add_of_mem (h : Faithful changes r) {a : α} (ha : a ∈ r) :
    Faithful (changes ++ [.add a]) r where
  mem_iff b := by
    by_cases hb : b = a
    · subst hb
      exact iff_of_true ha registered_add
    · rw [h.mem_iff, registered_concat_iff (by simp [Ne.symm hb]) (by simp)]
  nodup := h.nodup
  seniority := h.seniority.imp fun hab => hab.concat (by simp)

/-- Someone new goes to the end. -/
theorem Faithful.add_of_not_mem (h : Faithful changes r) {a : α} (ha : a ∉ r) :
    Faithful (changes ++ [.add a]) (r ++ [a]) where
  mem_iff b := by
    by_cases hb : b = a
    · subst hb
      exact iff_of_true (by simp) registered_add
    · rw [registered_concat_iff (by simp [Ne.symm hb]) (by simp), ← h.mem_iff]
      simp [hb]
  nodup := by
    refine List.nodup_append.2 ⟨h.nodup, List.nodup_singleton a, ?_⟩
    rintro b hb c hc rfl
    exact ha (List.mem_singleton.1 hc ▸ hb)
  seniority := by
    refine List.pairwise_append.2 ⟨?_, List.pairwise_singleton _ a, ?_⟩
    · exact h.seniority.imp fun hbc => hbc.concat (by simp)
    · intro b hb c hc
      rw [List.mem_singleton] at hc
      subst hc
      exact ⟨changes, [.add c], rfl, (h.mem_iff b).1 hb, mt (h.mem_iff c).2 ha, by simp⟩

/-- Removing someone leaves the others in their order. -/
theorem Faithful.remove (h : Faithful changes r) (a : α) :
    Faithful (changes ++ [.remove a]) (r.filter (· ≠ a)) where
  mem_iff b := by
    by_cases hb : b = a
    · subst hb
      exact iff_of_false (by simp) not_registered_remove
    · rw [registered_concat_iff (by simp) (by simp [Ne.symm hb]), ← h.mem_iff]
      simp [hb]
  nodup := h.nodup.filter _
  seniority := by
    have hkept := h.seniority.filter (p := (· ≠ a))
    refine List.Pairwise.imp_of_mem ?_ hkept
    intro b c hb _ hbc
    have hne : b ≠ a := by simpa using (List.mem_filter.1 hb).2
    exact hbc.concat (by simp [Ne.symm hne])

theorem Faithful.apply (h : Faithful changes r) (change : Change α) :
    Faithful (changes ++ [change]) (r.apply change) := by
  cases change with
  | add a =>
      by_cases ha : a ∈ r
      · rw [apply_add_of_mem ha]
        exact h.add_of_mem ha
      · rw [apply_add_of_not_mem ha]
        exact h.add_of_not_mem ha
  | remove a =>
      rw [apply_remove]
      exact h.remove a

/-- **After any changes a roster is that of all who are registered**, in order of
seniority. -/
theorem faithful_ofChanges (changes : List (Change α)) : Faithful changes (ofChanges changes) := by
  induction changes using List.reverseRecOn with
  | nil => exact faithful_nil
  | append_singleton changes change ih =>
      rw [ofChanges, List.foldl_append]
      exact ih.apply change

end Step

end SlotUpload.Roster
