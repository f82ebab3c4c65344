import SlotUpload.Facade.Task
import SlotUpload.Proofs.Job.Dropping
import SlotUpload.Proofs.Transfer.Change

/-!
# SlotUpload.Proofs.Facade.Task

The transfer of a task.  The task moves its transfer to being in progress and counts
bytes; others may cancel it after everything that happens.  So until the end of the
work is recorded, the transfer is canceled if it was told to stop, and has not ended
if it was not (`Underway`).  What becomes of it then follows from how the work ended
(`Underway.conclude_of_aborted`, `Underway.conclude_ok`, `Underway.conclude_error`).

`Attempted` lists the ways in which the work of a task ends.  What every action and
every answer keeps (`Kept`) is kept until then (`Kept.attempted`).
-/

namespace SlotUpload

/-- May a task do this to its transfer before its work is over, or others? -/
def Action.IsMild : Action → Prop
  | .status new _ => new = .inProgress
  | .progress _ | .cancel => True

namespace Transfer

variable {α : Type} {t : Transfer}

/-- The transfer has not ended, unless it was told to stop. -/
def Underway (t : Transfer) : Prop :=
  (t.aborted = true ∧ t.status = .canceled) ∨
    (t.aborted = false ∧ (t.status = .created ∨ t.status = .inProgress))

/-- The transfer is no longer as it was created. -/
def Started (t : Transfer) : Prop := t.status ≠ .created

/-- A new transfer is under way. -/
theorem underway_new (id : String) (direction : Direction) (peer : Option Destination)
    (file : String) : (new id direction peer file).Underway := .inr ⟨rfl, .inl rfl⟩

/-- As long as it is under way, a transfer has ended only if it was aborted. -/
theorem Underway.isTerminal_eq (h : t.Underway) : t.status.isTerminal = t.aborted := by
  rcases h with ⟨ha, hs⟩ | ⟨ha, hs | hs⟩ <;> rw [ha, hs] <;> rfl

/-- A mild action leaves it under way. -/
theorem Underway.act (h : t.Underway) {action : Action} (haction : action.IsMild) :
    (t.act action).1.Underway := by
  cases action with
  | status new reason =>
      cases haction
      change (t.setStatus .inProgress reason).2.Underway
      by_cases hleads : t.status.leadsTo .inProgress
      · rw [setStatus_of_leadsTo hleads]
        have hcreated := TransferStatus.eq_created_of_leadsTo_inProgress hleads
        rcases h with ⟨ha, hs⟩ | ⟨ha, -⟩
        · cases hs.symm.trans hcreated
        · exact .inr ⟨ha, .inr rfl⟩
      · rw [setStatus_of_not_leadsTo hleads]
        exact h
  | progress bytes =>
      change (t.setProgress bytes).Underway
      unfold setProgress
      split
      · exact h
      · exact h
  | cancel =>
      change t.cancel.1.Underway
      cases hterminal : t.status.isTerminal with
      | true =>
          rw [cancel_of_isTerminal hterminal]
          exact h
      | false =>
          rw [cancel_of_not_isTerminal hterminal]
          exact .inl ⟨rfl, rfl⟩

/-- No change takes a transfer back to how it was created. -/
theorem Evolves.started {t' : Transfer} (h : t.Evolves t') (ht : t.Started) : t'.Started := by
  induction h with
  | refl => exact ht
  | @tail b c _ hc ih =>
      cases hc with
      | move new reason h =>
          rintro ⟨⟩
          cases hs : b.status <;> rw [hs] at h <;> cases h
      | count bytes hs hb => exact ih
      | abort h => exact ih

/-- A transfer that is moved to being in progress is started, whether it was so before
or not. -/
theorem started_act_inProgress (t : Transfer) (reason : Option String) :
    (t.act (.status .inProgress reason)).1.Started := by
  change (t.setStatus .inProgress reason).2.Started
  by_cases hleads : t.status.leadsTo .inProgress
  · rw [setStatus_of_leadsTo hleads]
    exact nofun
  · rw [setStatus_of_not_leadsTo hleads]
    intro hcreated
    rw [hcreated] at hleads
    exact hleads rfl

/-! ## recording how the work ended -/

/-- What comes of the work of a transfer that was told to stop is dropped. -/
theorem Underway.conclude_of_aborted (h : t.Underway) (ha : t.aborted = true)
    (outcome : Except UploadError α) :
    (t.conclude outcome).1 = none ∧ (t.conclude outcome).2.1 = t := by
  have hterminal : t.status.isTerminal := h.isTerminal_eq.trans ha
  have hleads : ∀ new, ¬ t.status.leadsTo new := fun new => by
    rw [TransferStatus.leadsTo_eq_false_of_isTerminal hterminal]
    exact nofun
  cases outcome with
  | ok value =>
      rw [conclude, setStatus_of_not_leadsTo (hleads _)]
      exact ⟨rfl, rfl⟩
  | error e =>
      refine ⟨fst_conclude_error t e, ?_⟩
      cases e <;> exact congrArg Prod.snd (setStatus_of_not_leadsTo (hleads _) _)

/-- Work that ended well completes the transfer, if it was started. -/
theorem Underway.conclude_ok (h : t.Underway) (ha : t.aborted = false) (hstarted : t.Started)
    (value : α) : (t.conclude (.ok value)).1 = some value ∧
      (t.conclude (.ok value)).2.1 = t.moveTo .completed none := by
  have hs : t.status = .inProgress := by
    rcases h with ⟨ha', -⟩ | ⟨-, hs | hs⟩
    · cases ha.symm.trans ha'
    · exact absurd hs hstarted
    · exact hs
  rw [conclude_ok_of_inProgress hs]
  exact ⟨rfl, rfl⟩

/-- The transfer fails with the error of its work. -/
theorem Underway.conclude_error (h : t.Underway) (ha : t.aborted = false) {e : UploadError}
    (he : e ≠ .canceled) : (t.conclude (α := α) (.error e)).2.1 =
      t.moveTo .failed (some e.message) := by
  have hleads : t.status.leadsTo .failed := by
    rcases h with ⟨ha', -⟩ | ⟨-, hs | hs⟩
    · cases ha.symm.trans ha'
    · rw [hs]
      rfl
    · rw [hs]
      rfl
  cases e with
  | canceled => exact absurd rfl he
  | _ => exact congrArg Prod.snd (setStatus_of_leadsTo hleads _)

end Transfer

namespace Facade

/-- Does a task do nothing to its transfer but what it may before its work is over? -/
structure Task.IsMild {α : Type} (task : Task α) : Prop where
  onStart : ∀ action ∈ task.onStart, action.IsMild
  onProgress : ∀ amount, ∀ action ∈ task.onProgress amount, action.IsMild

namespace Busy

variable {α σ : Type} {answer : Answerer σ} {others : Others σ} {b : Busy σ} {task : Task α}

/-- Others can do nothing to a transfer that has ended. -/
theorem interrupt_of_isTerminal (h : b.transfer.status.isTerminal) :
    b.interrupt answer others = b := by
  have hact : b.act answer .cancel = b := by
    rw [act, Transfer.act, Transfer.cancel_of_isTerminal h]
    rfl
  rw [interrupt, hact, ite_self]

/-! ## what is kept while the work goes on -/

/-- What is kept by all that can happen while work goes on that asks only some queries. -/
structure Kept (answer : Answerer σ) (Q : Query → Prop) (P : Busy σ → Prop) : Prop where
  act : ∀ b action, action.IsMild → P b → P (b.act answer action)
  rest : ∀ q b, Q q → P b → P { b with rest := (answer q b.rest).2 }

section Kept

variable {Q : Query → Prop} {P : Busy σ → Prop} (h : Kept answer Q P)
include h

/-- What is kept by every step is kept by an interruption. -/
theorem Kept.interrupt (hb : P b) : P (b.interrupt answer others) := by
  unfold Busy.interrupt
  split
  · exact h.act b .cancel trivial hb
  · exact hb

theorem Kept.actAll {actions : List Action} (hactions : ∀ action ∈ actions, action.IsMild)
    (hb : P b) : P (b.actAll answer others actions) := by
  unfold Busy.actAll
  induction actions generalizing b with
  | nil => exact hb
  | cons action actions ih =>
      obtain ⟨haction, hactions⟩ := List.forall_mem_cons.1 hactions
      exact ih hactions (h.interrupt (h.act b action haction hb))

/-- Every answer that the work gets keeps it. -/
theorem Kept.reply (htask : task.IsMild) {q : Query} (hq : Q q) (hb : P b) :
    P (reply answer others task.onProgress q b).2 := by
  cases q with
  | progress amount total => exact h.actAll (htask.onProgress amount) hb
  | _ => exact h.interrupt (h.rest _ b hq hb)

end Kept

/-! ## how the work ends -/

variable (answer others task b) in
/-- The ways in which the work of a task ends, and what there is then. -/
inductive Attempted : Except UploadError α → Busy σ → Prop
  /-- The transfer was told to stop before the work began. -/
  | refused (h : (b.interrupt answer others).transfer.aborted) :
      Attempted (.error .canceled) (b.interrupt answer others)
  | dropped {ended : Busy σ}
      (h : task.work.run.runUntil (reply answer others task.onProgress)
        (fun b => b.transfer.aborted && others.wait b)
        ((b.interrupt answer others).actAll answer others task.onStart) = (none, ended)) :
      Attempted (.error .canceled) ended
  | done {outcome : Except UploadError α} {ended : Busy σ}
      (h : task.work.run.runUntil (reply answer others task.onProgress)
        (fun b => b.transfer.aborted && others.wait b)
        ((b.interrupt answer others).actAll answer others task.onStart) = (some outcome, ended)) :
      Attempted outcome ended

theorem attempted : Attempted answer others b task (b.attempt answer others task).1
    (b.attempt answer others task).2 := by
  unfold attempt
  dsimp only
  split
  · next h => exact .refused h
  · split
    · next h => exact .dropped h
    · next h => exact .done h

section Attempted

variable {outcome : Except UploadError α} {ended : Busy σ}

/-- What is kept by every step is kept by an attempt as a whole. -/
theorem Kept.attempted {Q : Query → Prop} {P : Busy σ → Prop} (h : Kept answer Q P)
    (htask : task.IsMild) (hwork : task.work.run.Asks Q) (hb : P b)
    (hended : Attempted answer others b task outcome ended) : P ended := by
  have hbegun : P (b.interrupt answer others) := h.interrupt hb
  have hkeep : ∀ q b, Q q → P b → P (Busy.reply answer others task.onProgress q b).2 :=
    fun _ _ hq => h.reply htask hq
  cases hended with
  | refused _ => exact hbegun
  | dropped hended | done hended =>
      exact hwork.runUntil hkeep (h.actAll htask.onStart hbegun) hended

/-- Work that ended well was not dropped. -/
theorem Attempted.exists_run {value : α}
    (h : Attempted answer others b task (.ok value) ended) :
    ∃ b', task.work.run.run (reply answer others task.onProgress) b' = (.ok value, ended) := by
  cases h with
  | done hdone => exact ⟨_, Job.run_of_runUntil hdone⟩

/-- Work is canceled only for a transfer that was told to stop. -/
theorem Attempted.aborted (h : Attempted answer others b task (.error .canceled) ended)
    (hwork : ∀ ts, ¬ task.work.run.Takes ts (.error .canceled)) : ended.transfer.aborted := by
  generalize houtcome : Except.error UploadError.canceled = outcome at h
  cases h with
  | refused h => exact h
  | dropped h => exact (Bool.and_eq_true _ _ ▸ Job.stop_of_runUntil h).1
  | done h =>
      subst houtcome
      have hrun := Job.run_of_runUntil h
      exact absurd (congrArg Prod.fst hrun ▸ Job.takes_run _ _ _) (hwork _)

end Attempted

end Busy

end Facade

end SlotUpload
