import Mathlib.Logic.Relation
import SlotUpload.Transfer.System

/-!
# SlotUpload.Proofs.Transfer.Change

What can happen to a transfer.  Whoever acts on a transfer and however the tasks
around it take turns, each thing that happens is one of three changes:

1. it moves to a state that its own state leads to;
2. it counts bytes while it is in progress, and its count does not go back;
3. it is told to stop, once it is canceled.

`Evolves` is any number of such changes, one after another.  Each operation has
its lemma here (`evolves_setStatus`, `evolves_conclude`, …), and from them a
whole run of work (`Run.evolves_poll`) and a whole history of a system
(`System.evolves_run`).  A property of transfers that the three changes keep
therefore holds after every history; the modules beside this one need no other
case analysis.
-/

namespace SlotUpload

/-- Something that one task does to a transfer while no other task can: an
action, or recording how its work ended. -/
inductive Operation (α : Type)
  | act (action : Action)
  | conclude (outcome : Except UploadError α)

namespace TransferStatus

/-- A transfer can be canceled as long as it has not ended. -/
theorem leadsTo_canceled (s : TransferStatus) : s.leadsTo .canceled = !s.isTerminal := by
  cases s <;> rfl

/-- A transfer completes only from being in progress. -/
theorem leadsTo_completed_iff {s : TransferStatus} : s.leadsTo .completed ↔ s = .inProgress := by
  cases s <;> decide

/-- A transfer gets in progress only from the state it is created in. -/
theorem eq_created_of_leadsTo_inProgress {s : TransferStatus} (h : s.leadsTo .inProgress) :
    s = .created := by
  cases s <;> first | rfl | cases h

/-- A new transfer gets in progress or ends without ever being so. -/
theorem of_created_leadsTo {new : TransferStatus} (h : created.leadsTo new) :
    new = .inProgress ∨ new = .failed ∨ new = .canceled ∨ new = .refused := by
  cases new <;> revert h <;> decide

/-- A transfer in progress ends next, but is not refused. -/
theorem of_inProgress_leadsTo {new : TransferStatus} (h : inProgress.leadsTo new) :
    new = .completed ∨ new = .failed ∨ new = .canceled := by
  cases new <;> revert h <;> decide

end TransferStatus

namespace Transfer

variable {α : Type} {t t' : Transfer}

def operate (t : Transfer) : Operation α → Transfer
  | .act action => (t.act action).1
  | .conclude outcome => (t.conclude outcome).2.1

/-- What several operations lead to, by whatever tasks they are done. -/
def operateAll (t : Transfer) (operations : List (Operation α)) : Transfer :=
  operations.foldl operate t

/-- A single change of a transfer. -/
inductive Change (t : Transfer) : Transfer → Prop
  | move (new : TransferStatus) (reason : Option String) (h : t.status.leadsTo new) :
      Change t (t.moveTo new reason)
  | count (bytes : UInt64) (hs : t.status = .inProgress) (hb : t.bytes ≤ saturated bytes) :
      Change t (t.count bytes)
  | abort (h : t.status = .canceled) : Change t { t with aborted := true }

/-- The second transfer is the first one later on. -/
abbrev Evolves : Transfer → Transfer → Prop := Relation.ReflTransGen Change

/-! ## single operations -/

/-- A status that may come next is taken. -/
theorem setStatus_of_leadsTo {new : TransferStatus} (h : t.status.leadsTo new)
    (reason : Option String) : t.setStatus new reason = (true, t.moveTo new reason) := by
  rw [setStatus, if_pos h]

theorem setStatus_of_not_leadsTo {new : TransferStatus} (h : ¬ t.status.leadsTo new)
    (reason : Option String) : t.setStatus new reason = (false, t) := by
  rw [setStatus, if_neg h]

/-- Setting a status is a course of the transfer. -/
theorem evolves_setStatus (t : Transfer) (new : TransferStatus) (reason : Option String) :
    t.Evolves (t.setStatus new reason).2 := by
  by_cases h : t.status.leadsTo new
  · rw [setStatus_of_leadsTo h]
    exact .single (.move new reason h)
  · rw [setStatus_of_not_leadsTo h]

theorem evolves_setProgress (t : Transfer) (bytes : UInt64) : t.Evolves (t.setProgress bytes) := by
  unfold setProgress
  split
  · next h => exact .single (.count bytes h.1 h.2)
  · exact .refl

/-- A transfer that has ended is not canceled. -/
theorem cancel_of_isTerminal (h : t.status.isTerminal) : t.cancel = (t, []) := by
  have hl : ¬ t.status.leadsTo .canceled := by rw [TransferStatus.leadsTo_canceled, h]; decide
  rw [cancel, setStatus_of_not_leadsTo hl]

/-- A transfer that has not ended is canceled and told to stop. -/
theorem cancel_of_not_isTerminal (h : t.status.isTerminal = false) :
    t.cancel = ({ t.moveTo .canceled none with aborted := true },
      [(t.moveTo .canceled none).canceledEntry]) := by
  have hl : t.status.leadsTo .canceled := by rw [TransferStatus.leadsTo_canceled, h]; rfl
  rw [cancel, setStatus_of_leadsTo hl]

theorem evolves_cancel (t : Transfer) : t.Evolves t.cancel.1 := by
  cases h : t.status.isTerminal with
  | true => rw [cancel_of_isTerminal h]
  | false =>
      rw [cancel_of_not_isTerminal h]
      have hl : t.status.leadsTo .canceled := by rw [TransferStatus.leadsTo_canceled, h]; rfl
      exact .tail (.single (.move .canceled none hl)) (.abort rfl)

theorem evolves_act (t : Transfer) (action : Action) : t.Evolves (t.act action).1 := by
  cases action with
  | status new reason => exact evolves_setStatus t new reason
  | progress bytes => exact evolves_setProgress t bytes
  | cancel => exact evolves_cancel t

/-- Work that ended well completes a transfer in progress and gives its value. -/
theorem conclude_ok_of_inProgress (h : t.status = .inProgress) (value : α) :
    t.conclude (.ok value) =
      (some value, t.moveTo .completed none, [(t.moveTo .completed none).completedEntry]) := by
  have hl : t.status.leadsTo .completed := TransferStatus.leadsTo_completed_iff.mpr h
  rw [conclude, setStatus_of_leadsTo hl]

/-- Work that ended well does nothing to a transfer that is not in progress, and
its value is dropped. -/
theorem conclude_ok_of_not_inProgress (h : t.status ≠ .inProgress) (value : α) :
    t.conclude (.ok value) = (none, t, []) := by
  have hl : ¬ t.status.leadsTo .completed :=
    fun hl => h (TransferStatus.leadsTo_completed_iff.mp hl)
  rw [conclude, setStatus_of_not_leadsTo hl]

theorem fst_conclude_error (t : Transfer) (e : UploadError) :
    (t.conclude (α := α) (.error e)).1 = none := by
  cases e <;> rfl

/-- Recording that work was canceled does nothing to a transfer that has ended. -/
theorem conclude_canceled_of_isTerminal (h : t.status.isTerminal) :
    t.conclude (α := α) (.error .canceled) = (none, t, []) := by
  have hl : ¬ t.status.leadsTo .canceled := by rw [TransferStatus.leadsTo_canceled, h]; decide
  rw [conclude, setStatus_of_not_leadsTo hl]

/-- The end of a transfer is a course of it. -/
theorem evolves_conclude (t : Transfer) (outcome : Except UploadError α) :
    t.Evolves (t.conclude outcome).2.1 := by
  cases outcome with
  | ok value =>
      by_cases h : t.status = .inProgress
      · rw [conclude_ok_of_inProgress h]
        exact .single (.move .completed none (TransferStatus.leadsTo_completed_iff.mpr h))
      · rw [conclude_ok_of_not_inProgress h]
  | error e =>
      cases e with
      | canceled => exact evolves_setStatus t .canceled none
      | _ => exact evolves_setStatus t .failed _

theorem evolves_operate (t : Transfer) (operation : Operation α) :
    t.Evolves (t.operate operation) := by
  cases operation with
  | act action => exact evolves_act t action
  | conclude outcome => exact evolves_conclude t outcome

/-! ## many operations, work and systems -/

/-- Steps of anything that holds a transfer let it evolve if each of them does. -/
theorem evolves_foldl {σ β : Type} (f : σ → β → σ) (transfer : σ → Transfer)
    (h : ∀ s b, (transfer s).Evolves (transfer (f s b))) (bs : List β) (s : σ) :
    (transfer s).Evolves (transfer (bs.foldl f s)) := by
  induction bs generalizing s with
  | nil => exact .refl
  | cons b bs ih => exact (h s b).trans (ih (f s b))

theorem evolves_operateAll (t : Transfer) (operations : List (Operation α)) :
    t.Evolves (t.operateAll operations) :=
  evolves_foldl operate (fun t => t) evolves_operate operations t

end Transfer

variable {α : Type}

/-- Whatever the work does in a turn, it does through the transfer's operations. -/
theorem Work.evolves_turn (t : Transfer) (work : Work α) : t.Evolves (work.turn t).transfer := by
  induction work generalizing t with
  | ended outcome => exact .refl
  | stuck => exact .refl
  | yield rest => exact .refl
  | act action rest ih => exact (t.evolves_act action).trans (ih _ _)

/-- What becomes of a turn is a course of the transfer. -/
theorem Run.evolves_ofTurn (turn : Work.Turn α) :
    turn.transfer.Evolves (Run.ofTurn turn).2.1 := by
  unfold Run.ofTurn
  cases turn.state with
  | inl rest => exact .refl
  | inr outcome => exact turn.transfer.evolves_conclude outcome

/-- A poll is a course of the transfer. -/
theorem Run.evolves_poll (t : Transfer) (run : Run α) : t.Evolves (run.poll t).2.1 := by
  cases run with
  | finished value => exact .refl
  | pending work =>
      cases h : t.aborted with
      | true =>
          simp only [Run.poll, Run.turn?, h]
          exact t.evolves_conclude _
      | false =>
          simp only [Run.poll, Run.turn?, h]
          exact (work.evolves_turn t).trans (Run.evolves_ofTurn _)

namespace System

variable (reactions : Reactions)

/-- A reaction of a listener is a course of the transfer. -/
theorem evolves_react (s : System α) (reaction : Reaction) :
    s.transfer.Evolves (s.react reaction).transfer := by
  cases reaction with
  | act action => exact s.transfer.evolves_act action
  | add listener => exact .refl
  | remove listener => exact .refl

/-- A poll of the system is a course of its transfer. -/
theorem evolves_poll (s : System α) (i : Nat) : s.transfer.Evolves (s.poll i).transfer := by
  unfold System.poll
  split
  · exact .refl
  · next run _ => exact run.evolves_poll s.transfer

/-- Beginning a delivery leaves the transfer alone. -/
theorem evolves_deliver (s : System α) : s.transfer.Evolves s.deliver.transfer := by
  unfold deliver
  split <;> exact .refl

/-- Telling a listener is a course of the transfer, through its reactions. -/
theorem evolves_tell (s : System α) : s.transfer.Evolves (s.tell reactions).transfer := by
  unfold tell
  split
  · next listener waiting event _ _ =>
      exact Transfer.evolves_foldl react System.transfer evolves_react
        (reactions listener (s.timesTold listener))
        { s with waiting, told := s.told ++ [(listener, event)] }
  · exact .refl

theorem evolves_step (s : System α) (step : Step α) :
    s.transfer.Evolves (s.step reactions step).transfer := by
  cases step with
  | act action => exact s.transfer.evolves_act action
  | add listener => exact .refl
  | remove listener => exact .refl
  | start work => exact .refl
  | poll i => exact s.evolves_poll i
  | deliver => exact s.evolves_deliver
  | tell => exact s.evolves_tell reactions

theorem evolves_run (s : System α) (steps : List (Step α)) :
    s.transfer.Evolves (s.run reactions steps).transfer :=
  Transfer.evolves_foldl (step reactions) System.transfer (evolves_step reactions) steps s

end System

/-! ## what every change keeps -/

namespace Transfer

variable {t t' : Transfer}

/-- A terminal state is kept forever. -/
theorem Evolves.status_eq_of_isTerminal (h : t.Evolves t') (ht : t.status.isTerminal) :
    t'.status = t.status := by
  induction h with
  | refl => rfl
  | @tail b c _ hc ih =>
      cases hc with
      | move new reason h =>
          rw [ih, TransferStatus.leadsTo_eq_false_of_isTerminal ht] at h
          contradiction
      | count bytes hs hb => exact ih
      | abort h => exact ih

/-- Once told to stop, a transfer stays so. -/
theorem Evolves.aborted (h : t.Evolves t') (ht : t.aborted) : t'.aborted := by
  induction h with
  | refl => exact ht
  | tail _ hc ih =>
      cases hc with
      | move new reason h => exact ih
      | count bytes hs hb => exact ih
      | abort h => rfl

/-- Waiting tasks see the state that the transfer is in. -/
theorem Evolves.watched_eq (h : t.Evolves t') (ht : t.watched = t.status) :
    t'.watched = t'.status := by
  induction h with
  | refl => exact ht
  | tail _ hc ih =>
      cases hc with
      | move new reason h => rfl
      | count bytes hs hb => exact ih
      | abort h => exact ih

/-- Only a canceled transfer has been told to stop. -/
theorem Evolves.status_eq_canceled_of_aborted (h : t.Evolves t')
    (ht : t.aborted → t.status = .canceled) : t'.aborted → t'.status = .canceled := by
  induction h with
  | refl => exact ht
  | tail _ hc ih =>
      cases hc with
      | move new reason h =>
          intro ha
          rw [ih ha, TransferStatus.leadsTo_eq_false_of_isTerminal rfl] at h
          contradiction
      | count bytes hs hb => exact ih
      | abort h => exact fun _ => h

end Transfer

end SlotUpload
