import SlotUpload.Transfer.Schedule

/-!
# SlotUpload.Proofs.Transfer.Schedule

Schedules are histories.  A schedule settles in which order the tasks around a
transfer take their turns, but a turn is made of steps of the system and of nothing
else.  So whatever is done with a schedule, its system is at the end of some history
(`Scheduled.follows`), and what holds at the end of every history holds of it.  A
schedule that waits for a run gives the value that the run returned
(`await_eq_some`).
-/

namespace SlotUpload

variable {α : Type} {reactions : Reactions}

namespace System

/-- The second system is at the end of some history of the first one. -/
def Follows (reactions : Reactions) (s s' : System α) : Prop :=
  ∃ steps, s.run reactions steps = s'

variable {s s' s'' : System α}

theorem Follows.refl (s : System α) : s.Follows reactions s := ⟨[], rfl⟩

theorem Follows.trans (h : s.Follows reactions s') (h' : s'.Follows reactions s'') :
    s.Follows reactions s'' := by
  obtain ⟨steps, rfl⟩ := h
  obtain ⟨steps', rfl⟩ := h'
  exact ⟨steps ++ steps', List.foldl_append⟩

/-- A step is one of the things that can follow. -/
theorem follows_step (reactions : Reactions) (s : System α) (x : Step α) :
    s.Follows reactions (s.step reactions x) := ⟨[x], rfl⟩

theorem follows_deliverStep (s : System α) : s.Follows reactions (s.deliverStep reactions) := by
  unfold deliverStep
  split
  · exact s.follows_step reactions .deliver
  · exact s.follows_step reactions .tell

theorem follows_deliverAll (limit : Nat) (s : System α) :
    s.Follows reactions (s.deliverAll reactions limit) := by
  induction limit generalizing s with
  | zero => exact .refl s
  | succ limit ih =>
      rw [deliverAll]
      split
      · exact s.follows_deliverStep.trans (ih _)
      · exact .refl s

end System

namespace Schedule

variable {s s' : Schedule α}

/-! ## what the queue does not touch -/

@[simp] theorem system_wake (task : Ready) (s : Schedule α) : (s.wake task).system = s.system := by
  unfold wake
  split <;> rfl

@[simp] theorem system_unqueue (s : Schedule α) (i : Nat) : (s.unqueue i).system = s.system := rfl

theorem system_foldl_wake (tasks : List Ready) (s : Schedule α) :
    (tasks.foldl (fun s task => s.wake task) s).system = s.system := by
  induction tasks generalizing s with
  | nil => rfl
  | cons task tasks ih => rw [List.foldl_cons, ih, system_wake]

@[simp] theorem system_advance (s : Schedule α) (system : System α) :
    (s.advance system).system = system := by
  unfold advance
  dsimp only
  split
  · rw [system_foldl_wake]
    split <;> simp
  · split <;> simp

/-! ## turns and rounds -/

/-- A turn of the schedule is some steps of the system. -/
theorem follows_turn (limit : Nat) (s : Schedule α) :
    s.system.Follows reactions (s.turn reactions limit).system := by
  unfold turn
  split
  · exact .refl _
  · simpa using s.system.follows_deliverAll limit
  · next i queue _ =>
      have hpoll := s.system.follows_step reactions (.poll i)
      dsimp only
      split
      · simpa using hpoll
      · simpa using hpoll
      · simpa using hpoll
      · split <;> simpa using hpoll

theorem follows_settle (limit : Nat) (s : Schedule α) :
    s.system.Follows reactions (s.settle reactions limit).system := by
  induction limit generalizing s with
  | zero => exact .refl _
  | succ limit ih =>
      rw [settle]
      split
      · exact .refl _
      · exact (s.follows_turn (limit + 1)).trans (ih _)

theorem follows_round (reactions : Reactions) (limit : Nat) (s : Schedule α) :
    s.system.Follows reactions (s.round reactions limit).system :=
  s.follows_settle limit

/-! ## waiting for a run -/

/-- A run that is gone on with until it is over gives what it returned. -/
theorem complete_eq_some {limit index fuel : Nat} {value : Option α}
    (h : complete reactions limit index fuel s = some (value, s')) :
    s.system.Follows reactions s'.system ∧ s'.system.runs[index]? = some (.finished value) := by
  induction fuel generalizing s with
  | zero => contradiction
  | succ fuel ih =>
      have hpoll := s.system.follows_step reactions (.poll index)
      rw [complete] at h
      split at h
      · next v hrun =>
          obtain ⟨rfl, rfl⟩ := Prod.mk.inj (Option.some.inj h)
          exact ⟨by simpa using hpoll, hrun⟩
      · contradiction
      · obtain ⟨hfollows, hrun⟩ := ih h
        refine ⟨?_, hrun⟩
        have hround := ((s.advance (s.system.step reactions (.poll index))).unqueue
          index).follows_round reactions limit
        simp only [system_unqueue, system_advance] at hround hfollows
        exact hpoll.trans (hround.trans hfollows)

/-- What was awaited has finished, after some steps of the system. -/
theorem await_eq_some {limit : Nat} {work : Work α} {value : Option α}
    (h : s.await reactions limit work = some (value, s')) :
    s.system.Follows reactions s'.system ∧
      s'.system.runs[s.system.runs.length]? = some (.finished value) := by
  obtain ⟨hfollows, hrun⟩ := complete_eq_some h
  refine ⟨?_, hrun⟩
  have hstart := s.system.follows_step reactions (.start work)
  rw [step, system_advance] at hfollows
  exact hstart.trans hfollows

/-! ## whatever is done with a schedule -/

/-- The schedules that a transfer can get into, by anything that is done with them. -/
inductive Scheduled (reactions : Reactions) (t : Transfer) : Schedule α → Prop
  | new : Scheduled reactions t { system := .ofTransfer t }
  | step {s : Schedule α} (x : Step α) (h : Scheduled reactions t s) :
      Scheduled reactions t (s.step reactions x)
  | spawn {s : Schedule α} (work : Work α) (h : Scheduled reactions t s) :
      Scheduled reactions t (s.spawn reactions work)
  | round {s : Schedule α} (limit : Nat) (h : Scheduled reactions t s) :
      Scheduled reactions t (s.round reactions limit)
  | await {s s' : Schedule α} {limit : Nat} {work : Work α} {value : Option α}
      (h : Scheduled reactions t s) (hs' : s.await reactions limit work = some (value, s')) :
      Scheduled reactions t s'

/-- **Schedules are histories**: the system of a schedule is at the end of a history
of the transfer. -/
theorem Scheduled.follows {t : Transfer} (h : Scheduled reactions t s) :
    (System.ofTransfer t).Follows reactions s.system := by
  induction h with
  | new => exact .refl _
  | @step s x _ ih =>
      rw [Schedule.step, system_advance]
      exact ih.trans (s.system.follows_step reactions x)
  | @spawn s work _ ih =>
      rw [Schedule.spawn, system_wake, Schedule.step, system_advance]
      exact ih.trans (s.system.follows_step reactions (.start work))
  | round limit _ ih => exact ih.trans (follows_round reactions limit _)
  | await _ hs' ih => exact ih.trans (await_eq_some hs').1

end Schedule

end SlotUpload
