import SlotUpload.Proofs.Transfer.Change

/-!
# SlotUpload.Proofs.Transfer.Cancellation

Runs of work against cancellation.  A history is any list of steps: any number of
runs are started, each with any work, and polled in any order, between operations
of others and the reactions of listeners.  `SafeHistory` says what holds at the end
of each:

* a run returns a value exactly if its work ended with that value at a moment when
  the transfer was in progress, and at most one run ever does;
* a transfer that was told to stop is canceled, and from then on no work is gone on
  with and every run that is polled is over, without a value and without a trace;
* canceling does nothing to a transfer that has ended.

The race between work that ends and cancellation is decided in one place: a run
returns a value only together with the move to `completed`, which starts from
`inProgress` alone (`Run.poll_eq_finished_some_iff`).
-/

namespace SlotUpload

variable {α : Type}

/-! ## single runs -/

namespace Run

variable {t : Transfer}

/-- Work is not gone on with for a transfer that was told to stop. -/
theorem turn?_of_aborted (h : t.aborted) (run : Run α) : run.turn? t = none := by
  cases run with
  | finished value => rfl
  | pending work => rw [turn?, if_pos h]

/-- The turn of a run is one that the transfer goes through. -/
theorem evolves_turn? {run : Run α} {turn : Work.Turn α} (h : run.turn? t = some turn) :
    t.Evolves turn.transfer := by
  cases run with
  | finished value => contradiction
  | pending work =>
      rw [turn?] at h
      split at h
      · contradiction
      · rw [← Option.some.inj h]
        exact work.evolves_turn t

/-- A run that has a turn is polled to its outcome. -/
theorem poll_of_turn? {run : Run α} {turn : Work.Turn α} (h : run.turn? t = some turn) :
    run.poll t = ofTurn turn := by
  cases run with
  | finished value => contradiction
  | pending work => simp only [poll, h]

/-- A pending run whose work is not gone on with is over without a value. -/
theorem fst_poll_of_turn?_eq_none {work : Work α} (h : (pending work).turn? t = none) :
    ((pending work).poll t).1 = finished none := by
  simp only [poll, h]
  rw [t.fst_conclude_error]

/-- Once the transfer was told to stop, a pending run is over when it is polled,
and nothing else happens. -/
theorem poll_of_aborted (h : t.aborted) (hc : t.status = .canceled) (work : Work α) :
    (pending work).poll t = (finished none, t, []) := by
  have hterminal : t.status.isTerminal := by rw [hc]; rfl
  simp only [poll, turn?_of_aborted h]
  rw [Transfer.conclude_canceled_of_isTerminal hterminal]

/-- A turn in which the work ends with a value makes the run return it exactly if
the turn leaves the transfer in progress. -/
theorem ofTurn_eq_finished_some_iff (turn : Work.Turn α) (value : α) :
    (ofTurn turn).1 = finished (some value) ↔
      turn.state = .inr (.ok value) ∧ turn.transfer.status = .inProgress := by
  unfold ofTurn
  cases turn.state with
  | inl rest => simp
  | inr outcome =>
      cases outcome with
      | error e => simp [turn.transfer.fst_conclude_error]
      | ok v =>
          by_cases hs : turn.transfer.status = .inProgress
          · simp [Transfer.conclude_ok_of_inProgress hs, hs]
          · simp [Transfer.conclude_ok_of_not_inProgress hs, hs]

/-- A poll makes a run return a value only if the work ends with it, in progress. -/
theorem poll_eq_finished_some_iff (run : Run α) (value : α) :
    (run.poll t).1 = finished (some value) ↔ run = finished (some value) ∨
      ∃ turn, run.turn? t = some turn ∧ turn.state = .inr (.ok value) ∧
        turn.transfer.status = .inProgress := by
  cases run with
  | finished v => simp [poll, turn?]
  | pending work =>
      cases h : (pending work).turn? t with
      | none => simp [fst_poll_of_turn?_eq_none h]
      | some turn => simp [poll_of_turn? h, ofTurn_eq_finished_some_iff]

end Run

/-! ## systems -/

namespace System

/-- The run has returned a value. -/
def Returned (s : System α) (i : Nat) (value : α) : Prop :=
  s.runs[i]? = some (.finished (some value))

/-- If the run is polled now, its work ends with a value in this turn, and leaves
the transfer `t`, which is in progress. -/
def Completes (s : System α) (i : Nat) (value : α) (t : Transfer) : Prop :=
  ∃ turn, s.turn? i = some turn ∧ turn.state = .inr (.ok value) ∧ turn.transfer = t ∧
    t.status = .inProgress

/-- Nothing goes on any more: the transfer is canceled, no work is gone on with,
and a pending run that is polled is over without a value, while all else stays as
it is. -/
structure Stopped (reactions : Reactions) (s : System α) : Prop where
  status_eq : s.transfer.status = .canceled
  turn?_eq : ∀ i, s.turn? i = none
  poll_eq : ∀ i work, s.runs[i]? = some (.pending work) →
    s.step reactions (.poll i) = { s with runs := s.runs.set i (.finished none) }

/-- What holds at the end of a history. -/
structure SafeHistory (reactions : Reactions) (start : System α) (steps : List (Step α)) :
    Prop where
  /-- A run returned a value exactly if at some moment its work ended with that value
  while the transfer was in progress. -/
  returned_iff : ∀ i value, (start.run reactions steps).Returned i value ↔
    ∃ before after t, steps = before ++ .poll i :: after ∧
      (start.run reactions before).Completes i value t
  /-- At such a moment the run moves the transfer to completed. -/
  transfer_eq : ∀ i value t, (start.run reactions steps).Completes i value t →
    ((start.run reactions steps).step reactions (.poll i)).transfer = t.moveTo .completed none
  /-- At most one run ever returns a value. -/
  returned_unique : ∀ i j v w, (start.run reactions steps).Returned i v →
    (start.run reactions steps).Returned j w → i = j
  /-- A transfer that was told to stop is canceled. -/
  status_eq : (start.run reactions steps).transfer.aborted →
    (start.run reactions steps).transfer.status = .canceled
  /-- Whatever happens after it was told to stop, nothing goes on. -/
  stopped : (start.run reactions steps).transfer.aborted →
    ∀ later, ((start.run reactions steps).run reactions later).Stopped reactions
  /-- Canceling a transfer that has ended changes nothing. -/
  cancel_eq : (start.run reactions steps).transfer.status.isTerminal →
    (start.run reactions steps).step reactions (.act .cancel) = start.run reactions steps
  /-- Canceling any other one cancels it and tells it to stop. -/
  cancel_aborts : (start.run reactions steps).transfer.status.isTerminal = false →
    ((start.run reactions steps).step reactions (.act .cancel)).transfer.status = .canceled ∧
      ((start.run reactions steps).step reactions (.act .cancel)).transfer.aborted

variable {reactions : Reactions} {s : System α}

@[simp] theorem run_nil : s.run reactions [] = s := rfl

@[simp] theorem run_cons (x : Step α) (steps : List (Step α)) :
    s.run reactions (x :: steps) = (s.step reactions x).run reactions steps := rfl

/-! ### what a step does to the runs -/

@[simp] theorem runs_react (s : System α) (reaction : Reaction) :
    (s.react reaction).runs = s.runs := by
  cases reaction <;> rfl

theorem runs_foldl_react (reactions : List Reaction) (s : System α) :
    (reactions.foldl react s).runs = s.runs := by
  induction reactions generalizing s with
  | nil => rfl
  | cons reaction reactions ih => rw [List.foldl_cons, ih, runs_react]

@[simp] theorem runs_deliver (s : System α) : s.deliver.runs = s.runs := by
  unfold deliver
  split <;> rfl

@[simp] theorem runs_tell (s : System α) : (s.tell reactions).runs = s.runs := by
  unfold tell
  split
  · exact runs_foldl_react _ _
  · rfl

/-- A poll advances the run at its place. -/
theorem poll_of_getElem? {i : Nat} {run : Run α} (h : s.runs[i]? = some run) :
    s.poll i = { s with
      transfer := (run.poll s.transfer).2.1
      runs := s.runs.set i (run.poll s.transfer).1
      log := s.log ++ (run.poll s.transfer).2.2 } := by
  unfold poll
  rw [h]

/-- The turn of a place is that of its run. -/
theorem turn?_of_getElem? {i : Nat} {run : Run α} (h : s.runs[i]? = some run) :
    s.turn? i = run.turn? s.transfer := by
  rw [turn?, h, Option.bind_some]

/-- A run completes when its turn ends in a value while the transfer goes on. -/
theorem exists_completes_iff {i : Nat} {value : α} :
    (∃ t, s.Completes i value t) ↔ ∃ turn, s.turn? i = some turn ∧
      turn.state = .inr (.ok value) ∧ turn.transfer.status = .inProgress := by
  constructor
  · rintro ⟨_, turn, hturn, hstate, rfl, hs⟩
    exact ⟨turn, hturn, hstate, hs⟩
  · rintro ⟨turn, hturn, hstate, hs⟩
    exact ⟨_, turn, hturn, hstate, rfl, hs⟩

/-- A run has returned before the poll or completes with it. -/
theorem returned_poll_iff (i j : Nat) (value : α) :
    (s.poll j).Returned i value ↔ s.Returned i value ∨ j = i ∧ ∃ t, s.Completes i value t := by
  cases h : s.runs[j]? with
  | none =>
      have hturn : s.turn? j = none := by rw [turn?, h, Option.bind_none]
      rw [poll, h]
      constructor
      · exact .inl
      · rintro (hr | ⟨rfl, t, turn, hturn', -⟩)
        · exact hr
        · rw [hturn] at hturn'
          contradiction
  | some run =>
      rw [poll_of_getElem? h]
      by_cases hij : j = i
      · subst hij
        obtain ⟨hj, -⟩ := List.getElem?_eq_some_iff.mp h
        rw [exists_completes_iff, turn?_of_getElem? h, Returned, Returned, h,
          List.getElem?_set_self hj, Option.some.injEq, Option.some.injEq,
          Run.poll_eq_finished_some_iff]
        simp
      · simp [Returned, List.getElem?_set_ne hij, hij]

/-- A run returns a value in a step only if it is polled and completes. -/
theorem returned_step_iff (x : Step α) (i : Nat) (value : α) :
    (s.step reactions x).Returned i value ↔
      s.Returned i value ∨ ∃ t, x = .poll i ∧ s.Completes i value t := by
  cases x with
  | act action => simp [step, Returned, act]
  | add listener => simp [step, Returned]
  | remove listener => simp [step, Returned]
  | start work =>
      have hnew : (s.runs ++ [.pending work])[i]? = some (.finished (some value)) ↔
          s.runs[i]? = some (.finished (some value)) := by
        rcases Nat.lt_trichotomy i s.runs.length with hi | rfl | hi
        · rw [List.getElem?_append_left hi]
        · simp
        · simp [List.getElem?_append_right (Nat.le_of_lt hi), Nat.sub_ne_zero_of_lt hi,
            List.getElem?_eq_none (Nat.le_of_lt hi)]
      simp [step, Returned, hnew]
  | poll j =>
      rw [step, returned_poll_iff]
      simp
  | deliver => simp [step, Returned]
  | tell => simp [step, Returned]

/-- A run has returned a value exactly if it had before, or completed on the way. -/
theorem returned_run_iff (steps : List (Step α)) (i : Nat) (value : α) :
    (s.run reactions steps).Returned i value ↔ s.Returned i value ∨
      ∃ before after t, steps = before ++ .poll i :: after ∧
        (s.run reactions before).Completes i value t := by
  induction steps generalizing s with
  | nil => simp
  | cons x steps ih =>
      rw [run_cons, ih, returned_step_iff]
      constructor
      · rintro ((hr | ⟨t, rfl, hc⟩) | ⟨before, after, t, rfl, hc⟩)
        · exact .inl hr
        · exact .inr ⟨[], steps, t, rfl, hc⟩
        · exact .inr ⟨x :: before, after, t, rfl, hc⟩
      · rintro (hr | ⟨before, after, t, heq, hc⟩)
        · exact .inl (.inl hr)
        · cases before with
          | nil =>
              obtain ⟨rfl, rfl⟩ := List.cons.inj heq
              exact .inl (.inr ⟨t, rfl, hc⟩)
          | cons y before =>
              obtain ⟨rfl, rfl⟩ := List.cons.inj heq
              exact .inr ⟨before, after, t, rfl, hc⟩

/-! ### who returns a value -/

/-- To complete is one of the ways in which a transfer goes on. -/
theorem Completes.evolves {i : Nat} {value : α} {t : Transfer} (h : s.Completes i value t) :
    s.transfer.Evolves t := by
  obtain ⟨turn, hturn, -, rfl, -⟩ := h
  obtain ⟨run, -, hrun⟩ := Option.bind_eq_some_iff.mp hturn
  exact Run.evolves_turn? hrun

/-- A run that completes moves the transfer to completed. -/
theorem Completes.transfer_eq {i : Nat} {value : α} {t : Transfer} (h : s.Completes i value t) :
    (s.step reactions (.poll i)).transfer = t.moveTo .completed none := by
  obtain ⟨turn, hturn, hstate, rfl, hs⟩ := h
  obtain ⟨run, hrun, hturn⟩ := Option.bind_eq_some_iff.mp hturn
  rw [step, poll_of_getElem? hrun]
  dsimp only
  rw [Run.poll_of_turn? hturn, Run.ofTurn, hstate]
  simp only [Transfer.conclude_ok_of_inProgress hs]

/-- Whoever has returned a value completed the transfer, and nobody else has. -/
structure OneWinner (s : System α) : Prop where
  completed : ∀ i value, s.Returned i value → s.transfer.status = .completed
  unique : ∀ i j v w, s.Returned i v → s.Returned j w → i = j

/-- Nobody completes a transfer after somebody else has. -/
theorem OneWinner.not_completes (h : s.OneWinner) {i j : Nat} {v w : α} {t : Transfer}
    (hr : s.Returned i v) : ¬ s.Completes j w t := by
  intro hc
  have hs := h.completed i v hr
  have hkept := hc.evolves.status_eq_of_isTerminal (by rw [hs]; rfl)
  obtain ⟨turn, -, -, -, ht⟩ := hc
  rw [ht, hs] at hkept
  contradiction

/-- No step gives a second winner. -/
theorem OneWinner.step (h : s.OneWinner) (x : Step α) : (s.step reactions x).OneWinner where
  completed := by
    intro i value hr
    rcases (returned_step_iff x i value).mp hr with hr | ⟨t, rfl, hc⟩
    · have hs := h.completed i value hr
      rw [(evolves_step reactions s x).status_eq_of_isTerminal (by rw [hs]; rfl), hs]
    · rw [hc.transfer_eq]
      rfl
  unique := by
    intro i j v w hi hj
    rcases (returned_step_iff x i v).mp hi with hri | ⟨t, rfl, hci⟩
    · rcases (returned_step_iff x j w).mp hj with hrj | ⟨t, rfl, hcj⟩
      · exact h.unique i j v w hri hrj
      · exact (h.not_completes hri hcj).elim
    · rcases (returned_step_iff _ j w).mp hj with hrj | ⟨t', heq, -⟩
      · exact (h.not_completes hrj hci).elim
      · exact Step.poll.inj heq

theorem OneWinner.run (h : s.OneWinner) (steps : List (Step α)) :
    (s.run reactions steps).OneWinner := by
  induction steps generalizing s with
  | nil => exact h
  | cons x steps ih => exact ih (h.step x)

/-- At the start nothing has returned. -/
theorem oneWinner_ofTransfer (t : Transfer) : (ofTransfer t : System α).OneWinner where
  completed := by simp [Returned, ofTransfer]
  unique := by simp [Returned, ofTransfer]

/-! ### after cancellation -/

/-- A transfer that was aborted and canceled is stopped. -/
theorem stopped_of_aborted (h : s.transfer.aborted) (hc : s.transfer.status = .canceled) :
    s.Stopped reactions where
  status_eq := hc
  turn?_eq := by
    intro i
    cases hi : s.runs[i]? with
    | none => rw [turn?, hi, Option.bind_none]
    | some run => rw [turn?_of_getElem? hi, Run.turn?_of_aborted h]
  poll_eq := by
    intro i work hi
    rw [step, poll_of_getElem? hi, Run.poll_of_aborted h hc]
    simp

/-- **Cancellation**: every history of a system around a new transfer is safe,
whatever work is run, in whatever order, and whatever others do meanwhile. -/
theorem safeHistory (id : String) (direction : Direction) (peer : Option Destination)
    (file : String) (reactions : Reactions) (steps : List (Step α)) :
    SafeHistory reactions (ofTransfer (.new id direction peer file)) steps := by
  let start : System α := ofTransfer (.new id direction peer file)
  have hevolves := evolves_run reactions start steps
  have hcanceled := hevolves.status_eq_canceled_of_aborted (fun h => nomatch h)
  constructor
  case returned_iff =>
    intro i value
    have hstart : ¬ start.Returned i value := by simp [start, Returned, ofTransfer]
    rw [returned_run_iff, or_iff_right hstart]
  case transfer_eq => exact fun i value t hc => hc.transfer_eq
  case returned_unique => exact ((oneWinner_ofTransfer _).run steps).unique
  case status_eq => exact hcanceled
  case stopped =>
    intro ha later
    have hlater := evolves_run reactions (start.run reactions steps) later
    have halater := hlater.aborted ha
    exact stopped_of_aborted halater (hlater.status_eq_canceled_of_aborted hcanceled halater)
  case cancel_eq =>
    intro h
    simp [step, act, Transfer.act, Transfer.cancel_of_isTerminal h]
  case cancel_aborts =>
    intro h
    simp [step, act, Transfer.act, Transfer.cancel_of_not_isTerminal h, Transfer.moveTo]

/-- Work that cancels its own transfer ends without a value, even if it goes on to
end well in the same turn. -/
example :
    ((ofTransfer (.new "" .outgoing none "") : System Nat).run (fun _ _ => [])
      [.act (.status .inProgress none), .start (.act .cancel fun _ => .ended (.ok 1)),
        .poll 0]).runs.map Run.value? = [some none] := rfl

end System

end SlotUpload
