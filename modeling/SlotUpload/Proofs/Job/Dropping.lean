import SlotUpload.Proofs.Job.Turns

/-!
# SlotUpload.Proofs.Job.Dropping

Jobs that may be dropped on their way.  A job that is not dropped ends as it would
without that (`run_of_runUntil`).  What every answer keeps is kept until the job ends
or is dropped (`Asks.runUntil`), and what one turn brings about is so at the end if
every later answer keeps it (`Asks.run_of_mem_turns`).

An answerer can be made to note the turns that it takes part in (`Answerer.noted`).
-/

namespace SlotUpload

namespace Job

variable {α σ : Type} {answer : Answerer σ} {stop : σ → Bool} {Q : Query → Prop}
  {P : σ → Prop} {j : Job α} {s s' : σ} {a : α}

/-- A job that is not dropped ends as it would without that. -/
theorem run_of_runUntil (h : j.runUntil answer stop s = (some a, s')) :
    j.run answer s = (a, s') := by
  induction j generalizing s with
  | done b =>
      cases h
      rfl
  | ask q next ih =>
      rw [runUntil] at h
      dsimp only at h
      split at h
      · cases h
      · exact ih _ h

/-- A job is dropped only when it is to stop. -/
theorem stop_of_runUntil (h : j.runUntil answer stop s = (none, s')) : stop s' = true := by
  induction j generalizing s with
  | done b => cases h
  | ask q next ih =>
      rw [runUntil] at h
      dsimp only at h
      split at h
      · next hstop =>
          cases h
          exact (Bool.and_eq_true _ _ ▸ hstop).2
      · exact ih _ h

/-- What every answer keeps is kept until the job ends or is dropped. -/
theorem Asks.runUntil (hj : j.Asks Q) (hkeep : ∀ q s, Q q → P s → P (answer q s).2) (hs : P s)
    {r : Option α} (h : j.runUntil answer stop s = (r, s')) : P s' := by
  induction j generalizing s with
  | done a =>
      cases h
      exact hs
  | ask q next ih =>
      have hanswer := hkeep q s hj.1 hs
      rw [Job.runUntil] at h
      dsimp only at h
      split at h
      · cases h
        exact hanswer
      · exact ih _ (hj.2 _) hanswer h

/-- What every answer keeps is kept by the whole job. -/
theorem Asks.run (hj : j.Asks Q) (hkeep : ∀ q s, Q q → P s → P (answer q s).2) (hs : P s) :
    P (j.run answer s).2 := by
  induction j generalizing s with
  | done a => exact hs
  | ask q next ih => exact ih _ (hj.2 _) (hkeep q s hj.1 hs)

/-- What one turn brings about is so at the end if every later answer keeps it. -/
theorem Asks.run_of_mem_turns (hj : j.Asks Q) (hkeep : ∀ q s, Q q → P s → P (answer q s).2)
    {t : Turn} (ht : t ∈ j.turns answer s)
    (hturn : ∀ s, (answer t.query s).1 = t.answer → P (answer t.query s).2) :
    P (j.run answer s).2 := by
  induction j generalizing s with
  | done a => cases ht
  | ask q next ih =>
      rcases List.mem_cons.1 ht with rfl | ht
      · exact (hj.2 _).run hkeep (hturn s rfl)
      · exact ih _ (hj.2 _) ht

end Job

/-! ## noting the turns -/

/-- The answerer, noting its turns. -/
def Answerer.noted {σ : Type} (answer : Answerer σ) : Answerer (List Turn × σ) := fun q s =>
  ((answer q s.2).1, (s.1 ++ [⟨q, (answer q s.2).1⟩], (answer q s.2).2))

end SlotUpload
