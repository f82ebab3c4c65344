import SlotUpload.Proofs.Job.Turns

/-!
# SlotUpload.Proofs.Job.Rest

What is left of a job on its way.  A job that waits goes on when what it asked is answered
(`answered`), and `Leads` says that it can take some turns and then has something left to
do.  If nothing is left, it took them to its end (`Leads.takes`).
-/

namespace SlotUpload

namespace Job

variable {α : Type} {j j' : Job α} {ts us : List Turn} {a : α}

def isDone : Job α → Bool
  | .done _ => true
  | .ask _ _ => false

/-- What is left of a job when what it waits for is answered. -/
def answered (t : Turn) : Job α → Option (Job α)
  | .done _ => none
  | .ask q next => if h : t.query = q then some (next (h ▸ t.answer)) else none

/-- A job that asks goes on with an answer to its own question. -/
theorem answered_ask_eq_some_iff {t : Turn} {q : Query} {next : q.Answer → Job α} :
    (ask q next).answered t = some j ↔ ∃ answer, t = ⟨q, answer⟩ ∧ j = next answer := by
  obtain ⟨q', answer'⟩ := t
  by_cases h : q' = q
  · subst h
    rw [answered, dif_pos rfl, Option.some.injEq]
    constructor
    · rintro rfl
      exact ⟨answer', rfl, rfl⟩
    · rintro ⟨answer, heq, rfl⟩
      cases heq
      rfl
  · rw [answered, dif_neg h]
    refine iff_of_false nofun ?_
    rintro ⟨answer, heq, -⟩
    exact h (congrArg Turn.query heq)

/-- The job can take these turns, and then this is left of it. -/
inductive Leads : Job α → List Turn → Job α → Prop
  | refl (j : Job α) : Leads j [] j
  | ask {q : Query} {next : q.Answer → Job α} {ts : List Turn} {j : Job α} (answer : q.Answer)
      (h : Leads (next answer) ts j) : Leads (.ask q next) (⟨q, answer⟩ :: ts) j

theorem Leads.trans {j'' : Job α} (h : Leads j ts j') (h' : Leads j' us j'') :
    Leads j (ts ++ us) j'' := by
  induction h with
  | refl j => exact h'
  | ask answer _ ih => exact .ask answer (ih h')

/-- A job that has led to its end has taken the turns on the way. -/
theorem Leads.takes (h : Leads j ts (.done a)) : j.Takes ts a := by
  generalize hj : Job.done a = j' at h
  induction h with
  | refl j =>
      subst hj
      exact .done a
  | ask answer _ ih => exact .ask answer (ih hj)

/-- One answer leads to what is left of the job. -/
theorem leads_answered {t : Turn} (h : j.answered t = some j') : Leads j [t] j' := by
  cases j with
  | done a => cases h
  | ask q next =>
      obtain ⟨answer, rfl, rfl⟩ := answered_ask_eq_some_iff.1 h
      exact .ask answer (.refl _)

/-- What is left of a job asks for no more than the whole. -/
theorem Asks.leads {P : Query → Prop} (h : j.Asks P) (hj : Leads j ts j') : j'.Asks P := by
  induction hj with
  | refl j => exact h
  | ask answer _ ih => exact ih (h.2 answer)

/-- What was asked on the way is what the job asks for. -/
theorem Asks.of_mem_leads {P : Query → Prop} (h : j.Asks P) (hj : Leads j ts j') :
    ∀ t ∈ ts, P t.query := by
  induction hj with
  | refl j => exact List.forall_mem_nil _
  | ask answer _ ih => exact List.forall_mem_cons.2 ⟨h.1, ih (h.2 answer)⟩

end Job

end SlotUpload
