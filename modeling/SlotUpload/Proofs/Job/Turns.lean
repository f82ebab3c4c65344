import SlotUpload.Job.Basic

/-!
# SlotUpload.Proofs.Job.Turns

What a job asks on its way.  A run of a job is a list of turns, each a query with
the answer it got; one job after another takes the turns of the first and then
those of the second (`turns_bind`).  Of some jobs it is known which queries they
can ask at all, whatever the answers are (`Asks`).

What holds for every answerer holds for every session, server and file system.
`Takes` says the same without an answerer: a job can take some turns and then give
a value.  Every run takes its turns (`takes_run`), so that what follows from the
turns alone is proved of `Takes`.
-/

namespace SlotUpload

/-- A query with its answer. -/
structure Turn where
  query : Query
  answer : query.Answer

namespace Job

variable {α β σ : Type}

/-! ## laws of jobs -/

theorem bind_done (j : Job α) : j.bind done = j := by
  induction j with
  | done a => rfl
  | ask q next ih => exact congrArg (ask q) (funext ih)

theorem bind_assoc {γ : Type} (j : Job α) (f : α → Job β) (g : β → Job γ) :
    (j.bind f).bind g = j.bind fun a => (f a).bind g := by
  induction j with
  | done a => rfl
  | ask q next ih => exact congrArg (ask q) (funext ih)

instance : LawfulMonad Job := LawfulMonad.mk' _ bind_done (fun _ _ => rfl) bind_assoc

/-! ## turns -/

/-- The turns of a run. -/
def turns (answer : Answerer σ) : Job α → σ → List Turn
  | done _, _ => []
  | ask q next, s =>
    ⟨q, (answer q s).1⟩ :: turns answer (next (answer q s).1) (answer q s).2

variable (answer : Answerer σ) (s : σ)

@[simp] theorem run_pure (a : α) : run answer (pure a) s = (a, s) := rfl

@[simp] theorem turns_pure (a : α) : turns answer (pure a) s = [] := rfl

@[simp] theorem run_query (q : Query) : run answer (query q) s = answer q s := rfl

@[simp] theorem turns_query (q : Query) :
    turns answer (query q) s = [⟨q, (answer q s).1⟩] := rfl

@[simp] theorem run_bind (j : Job α) (f : α → Job β) : run answer (j >>= f) s =
    run answer (f (run answer j s).1) (run answer j s).2 := by
  change run answer (j.bind f) s = _
  induction j generalizing s with
  | done a => rfl
  | ask q next ih => exact ih _ _

@[simp] theorem turns_bind (j : Job α) (f : α → Job β) : turns answer (j >>= f) s =
    turns answer j s ++ turns answer (f (run answer j s).1) (run answer j s).2 := by
  change turns answer (j.bind f) s = _
  induction j generalizing s with
  | done a => rfl
  | ask q next ih => exact congrArg (_ :: ·) (ih _ _)

/-! ## what a job can ask -/

/-- Every query of the job, whatever the answers are, satisfies `P`. -/
def Asks (P : Query → Prop) : Job α → Prop
  | done _ => True
  | ask q next => P q ∧ ∀ a, (next a).Asks P

namespace Asks

variable {P : Query → Prop}

theorem pure (a : α) : Asks P (Pure.pure a : Job α) := trivial

theorem query {q : Query} (h : P q) : Asks P (Job.query q) := ⟨h, fun _ => trivial⟩

/-- A job asks for what both its parts ask for. -/
theorem bind {j : Job α} {f : α → Job β} (hj : j.Asks P) (hf : ∀ a, (f a).Asks P) :
    (j >>= f).Asks P := by
  change (j.bind f).Asks P
  induction j with
  | done a => exact hf a
  | ask q next ih => exact ⟨hj.1, fun a => ih a (hj.2 a)⟩

theorem imp {Q : Query → Prop} {j : Job α} (h : j.Asks P) (hPQ : ∀ q, P q → Q q) : j.Asks Q := by
  induction j with
  | done a => trivial
  | ask q next ih => exact ⟨hPQ q h.1, fun a => ih a (h.2 a)⟩

end Asks

/-! ## turns without an answerer -/

/-- The job can take these turns, and then gives this value. -/
inductive Takes : Job α → List Turn → α → Prop
  | done (a : α) : Takes (.done a) [] a
  | ask {q : Query} {next : q.Answer → Job α} {ts : List Turn} {a : α} (answer : q.Answer)
      (h : Takes (next answer) ts a) : Takes (.ask q next) (⟨q, answer⟩ :: ts) a

section Takes

variable {ts : List Turn}

/-- A job that runs takes the turns of its run. -/
theorem takes_run (j : Job α) : j.Takes (j.turns answer s) (j.run answer s).1 := by
  induction j generalizing s with
  | done a => exact .done a
  | ask q next ih => exact .ask _ (ih _ _)

theorem takes_pure_iff {a b : α} : (pure a : Job α).Takes ts b ↔ ts = [] ∧ b = a := by
  constructor
  · intro h
    cases h
    exact ⟨rfl, rfl⟩
  · rintro ⟨rfl, rfl⟩
    exact .done b

/-- A job that begins with a question takes one turn and then goes on with the answer. -/
theorem takes_query_bind_iff {q : Query} {f : q.Answer → Job β} {b : β} :
    (query q >>= f).Takes ts b ↔
      ∃ answer rest, ts = ⟨q, answer⟩ :: rest ∧ (f answer).Takes rest b := by
  constructor
  · intro h
    cases h with
    | ask answer h => exact ⟨answer, _, rfl, h⟩
  · rintro ⟨answer, rest, rfl, h⟩
    exact .ask answer h

/-- The turns of two jobs are those of the first and then those of the second. -/
theorem takes_bind_iff {j : Job α} {f : α → Job β} {b : β} : (j >>= f).Takes ts b ↔
    ∃ first last a, ts = first ++ last ∧ j.Takes first a ∧ (f a).Takes last b := by
  change (j.bind f).Takes ts b ↔ _
  induction j generalizing ts with
  | done a =>
      constructor
      · intro h
        exact ⟨[], ts, a, rfl, .done a, h⟩
      · rintro ⟨first, last, a', rfl, ⟨⟩, h⟩
        exact h
  | ask q next ih =>
      constructor
      · intro h
        cases h with
        | ask answer h =>
            obtain ⟨first, last, a, rfl, hfirst, hlast⟩ := (ih answer).1 h
            exact ⟨_, last, a, rfl, .ask answer hfirst, hlast⟩
      · rintro ⟨first, last, a, rfl, hfirst, hlast⟩
        cases hfirst with
        | ask answer hfirst =>
            exact .ask answer ((ih answer).2 ⟨_, last, a, rfl, hfirst, hlast⟩)

/-- Every turn that a job takes is one of those that it may ask for. -/
theorem Asks.of_mem_takes {P : Query → Prop} {j : Job α} {a : α} (h : j.Asks P)
    (hj : j.Takes ts a) : ∀ t ∈ ts, P t.query := by
  induction hj with
  | done a => exact List.forall_mem_nil _
  | ask answer _ ih => exact List.forall_mem_cons.2 ⟨h.1, ih (h.2 answer)⟩

theorem Asks.of_mem_turns {P : Query → Prop} {j : Job α} (h : j.Asks P) {t : Turn}
    (ht : t ∈ j.turns answer s) : P t.query :=
  h.of_mem_takes (takes_run answer s j) t ht

/-- Every query is answered by whoever runs the job. -/
theorem exists_answer_of_mem_turns {j : Job α} {t : Turn} (ht : t ∈ j.turns answer s) :
    ∃ s', t.answer = (answer t.query s').1 := by
  induction j generalizing s with
  | done a => cases ht
  | ask q next ih =>
      rcases List.mem_cons.1 ht with rfl | ht
      · exact ⟨s, rfl⟩
      · exact ih _ _ ht

/-- The first query is answered by whoever runs the job. -/
theorem answer_eq_of_turns_eq_cons {j : Job α} {q : Query} {a : q.Answer}
    (h : j.turns answer s = ⟨q, a⟩ :: ts) : a = (answer q s).1 := by
  cases j with
  | done b => contradiction
  | ask q' next =>
      cases h
      rfl

end Takes

end Job

/-! ## jobs that may fail -/

namespace Attempt

variable {α β : Type}

/-- A step that cannot fail, before others, whatever errors they have. -/
@[simp] theorem run_lift_bind {ε : Type} (j : Job α) (f : α → ExceptT ε Job β) :
    (ExceptT.lift j >>= f : ExceptT ε Job β).run = j >>= fun a => (f a).run := by
  simp [ExceptT.run_bind]

/-- A query, before other steps. -/
@[simp] theorem run_query_bind (q : Query) (f : q.Answer → Attempt β) :
    (query q >>= f : Attempt β).run = Job.query q >>= fun a => (f a).run :=
  run_lift_bind _ f

/-- A step that fails is the last one. -/
theorem takes_bind_iff {ts : List Turn} {x : Attempt α} {f : α → Attempt β}
    {r : Except UploadError β} : (x >>= f : Attempt β).run.Takes ts r ↔
      (∃ e, x.run.Takes ts (.error e) ∧ r = .error e) ∨
        ∃ first last a, ts = first ++ last ∧ x.run.Takes first (.ok a) ∧
          (f a).run.Takes last r := by
  rw [ExceptT.run_bind, Job.takes_bind_iff]
  constructor
  · rintro ⟨first, last, e | a, rfl, hfirst, hlast⟩
    · obtain ⟨rfl, rfl⟩ := Job.takes_pure_iff.1 hlast
      rw [List.append_nil]
      exact .inl ⟨e, hfirst, rfl⟩
    · exact .inr ⟨first, last, a, rfl, hfirst, hlast⟩
  · rintro (⟨e, h, rfl⟩ | ⟨first, last, a, rfl, hfirst, hlast⟩)
    · exact ⟨ts, [], .error e, (List.append_nil ts).symm, h, .done _⟩
    · exact ⟨first, last, .ok a, rfl, hfirst, hlast⟩

theorem asks_query {P : Query → Prop} {q : Query} (h : P q) : (query q).run.Asks P :=
  ⟨h, fun _ => trivial⟩

/-- An attempt asks for what both its parts ask for. -/
theorem asks_bind {P : Query → Prop} {x : Attempt α} {f : α → Attempt β} (hx : x.run.Asks P)
    (hf : ∀ a, (f a).run.Asks P) : (x >>= f : Attempt β).run.Asks P := by
  rw [ExceptT.run_bind]
  refine hx.bind ?_
  rintro (e | a)
  · exact .pure _
  · exact hf a

end Attempt

end SlotUpload
