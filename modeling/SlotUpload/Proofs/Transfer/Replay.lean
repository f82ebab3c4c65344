import SlotUpload.Proofs.Transfer.Count
import SlotUpload.Proofs.Transfer.Course

/-!
# SlotUpload.Proofs.Transfer.Replay

A handle is the replay of its events.  The state of a transfer, its count of
bytes and its reason for failing can all be read off the events queued so far, and
the state that waiting tasks look at is the state that the handle shows
(`Replays`).  What a handle shows lasts (`Reliable`): the count never goes back,
and a task that waits is given the state that the transfer keeps forever.

The state needs `Course` alone.  The count and the reason also need what courses
exclude: that bytes are counted before the transfer is in progress, and that it
fails more than once.
-/

namespace SlotUpload

namespace TransferEvent

/-- The count of bytes that events lead to: unknown (-1) before the transfer is in
progress, then nothing, then the last count told, as far as a handle can show it. -/
def shownCount (es : List TransferEvent) : Int :=
  if .inProgress ∈ reached es then
    ((counts es).getLast?.map fun bytes => min (bytes.toNat : Int) (2 ^ 63 - 1)).getD 0
  else -1

/-- A move to a state other than in progress leaves the count. -/
theorem shownCount_append_status {new : TransferStatus} (h : new ≠ .inProgress)
    (es : List TransferEvent) (old : TransferStatus) (reason : Option String) :
    shownCount (es ++ [.status old new reason]) = shownCount es := by
  simp [shownCount, Ne.symm h]

/-- The last progress is the count that is shown. -/
theorem shownCount_append_progress {es : List TransferEvent} (h : .inProgress ∈ reached es)
    (bytes : UInt64) :
    shownCount (es ++ [.progress bytes]) = min (bytes.toNat : Int) (2 ^ 63 - 1) := by
  simp [shownCount, h]

end TransferEvent

open TransferEvent

namespace Course

variable {s u : TransferStatus} {es : List TransferEvent}

/-- No events lead to the first state. -/
theorem eq_nil_of_created (h : Course s es .created) : es = [] := by
  suffices hs : es = [] ∧ s = .created from hs.1
  generalize hu : TransferStatus.created = u at h
  induction h with
  | nil s => exact ⟨rfl, rfl⟩
  | @move old new _ _ reason hl _ ih =>
      rw [(ih hu).2, ← hu] at hl
      cases old <;> contradiction
  | count bytes _ ih =>
      have hs := (ih hu).2
      rw [← hu] at hs
      contradiction

/-- Events that tell of a terminal state lead to it. -/
theorem last_eq_of_mem (h : Course s es u) {old new : TransferStatus} {reason : Option String}
    (hmem : .status old new reason ∈ es) (hnew : new.isTerminal) : u = new := by
  obtain ⟨before, after, rfl⟩ := List.append_of_mem hmem
  obtain ⟨_, -, ha⟩ := h.split
  cases ha with
  | move _ _ rest => exact (rest.of_isTerminal hnew).2

end Course

namespace Transfer

variable {α : Type} {t t' : Transfer}

/-- What a handle shows is what its events tell. -/
structure Replays (t : Transfer) : Prop where
  status_eq : t.status = lastReached t.events
  bytes_eq : t.bytes.toInt = shownCount t.events
  /-- It shows a reason exactly if it was told to fail for that reason. -/
  reason_iff : ∀ reason, t.reason = some reason ↔
    ∃ old, .status old .failed (some reason) ∈ t.events
  watched_eq : t.watched = t.status

/-- What a handle shows is what its events tell, and goes on to hold later. -/
structure Reliable (t later : Transfer) : Prop where
  replays : t.Replays
  bytes_le : t.bytes ≤ later.bytes
  /-- A waiting task is given the state of the transfer, as soon as it is terminal. -/
  awaited?_eq_some_iff : ∀ s, t.awaited? = some s ↔ t.status = s ∧ s.isTerminal
  /-- The transfer keeps the state that a waiting task was given. -/
  lasts : ∀ s, t.awaited? = some s → later.status = s ∧ later.awaited? = some s

/-- Waiting ends with the status of the transfer, once it is terminal. -/
theorem awaited?_eq_some_iff (h : t.watched = t.status) (s : TransferStatus) :
    t.awaited? = some s ↔ t.status = s ∧ s.isTerminal := by
  rw [awaited?, h]
  cases ht : t.status.isTerminal with
  | true =>
      rw [if_pos rfl, Option.some.injEq]
      exact ⟨fun hs => ⟨hs, hs ▸ ht⟩, And.left⟩
  | false =>
      rw [if_neg Bool.false_ne_true]
      constructor
      · intro hs
        contradiction
      · rintro ⟨rfl, hs⟩
        rw [ht] at hs
        contradiction

/-! ## replay, change by change -/

/-- What is read off the events for the count and the reason. -/
structure Told (t : Transfer) : Prop where
  course : Course .created t.events t.status
  bytes_eq : t.bytes.toInt = shownCount t.events
  reason_iff : ∀ reason, t.reason = some reason ↔
    ∃ old, .status old .failed (some reason) ∈ t.events

/-- Nothing has moved before the transfer is in progress. -/
theorem Told.bytes_of_created (h : t.Told) (hs : t.status = .created) : t.bytes < 0 := by
  have hnil : t.events = [] := (hs ▸ h.course).eq_nil_of_created
  rw [Int64.lt_iff_toInt_lt, h.bytes_eq, hnil]
  decide

/-- A change of status is told. -/
theorem Told.moveTo {new : TransferStatus} (h : t.Told) (hl : t.status.leadsTo new)
    (reason : Option String) : (t.moveTo new reason).Told where
  course := h.course.append (.move reason hl (.nil new))
  bytes_eq := by
    by_cases hnew : new = .inProgress
    · -- the only way there is from the first state, before any event
      subst hnew
      have hs := TransferStatus.eq_created_of_leadsTo_inProgress hl
      have hnil : t.events = [] := (hs ▸ h.course).eq_nil_of_created
      simp only [Transfer.moveTo, h.bytes_of_created hs, hnil]
      simp [shownCount, reached, reached?, counts, counted?]
    · simp only [Transfer.moveTo, hnew, false_and, if_false]
      rw [shownCount_append_status hnew]
      exact h.bytes_eq
  reason_iff := by
    intro r
    by_cases hnew : new = .failed
    · -- it has not failed before, so no earlier event tells of a failure
      subst hnew
      have hfirst : ∀ old r, .status old .failed r ∉ t.events := by
        intro old r hmem
        rw [h.course.last_eq_of_mem hmem rfl] at hl
        contradiction
      simp [Transfer.moveTo, hfirst, eq_comm]
    · simp only [Transfer.moveTo, hnew, if_false]
      rw [h.reason_iff]
      simp [Ne.symm hnew]

theorem Told.count {bytes : UInt64} (h : t.Told) (hs : t.status = .inProgress) :
    (t.count bytes).Told where
  course := by
    have hcount : Course t.status [.progress bytes] t.status := by
      rw [hs]
      exact .count bytes (.nil _)
    exact h.course.append hcount
  bytes_eq := by
    have hlast : lastReached t.events = .inProgress := h.course.eq_lastReached ▸ hs
    have hmem : .inProgress ∈ reached t.events := by
      rw [← hlast]
      exact lastReached_mem (by rw [hlast]; decide)
    rw [Transfer.count, shownCount_append_progress hmem]
    exact toInt_saturated bytes
  reason_iff := by
    intro r
    simp only [Transfer.count]
    rw [h.reason_iff]
    simp

/-- A course tells all that it changes. -/
theorem Evolves.told (h : t.Evolves t') (ht : t.Told) : t'.Told := by
  induction h with
  | refl => exact ht
  | tail _ hc ih =>
      cases hc with
      | move new reason hl => exact ih.moveTo hl reason
      | count bytes hs hb => exact ih.count hs
      | abort h => exact ⟨ih.course, ih.bytes_eq, ih.reason_iff⟩

variable (id : String) (direction : Direction) (peer : Option Destination) (file : String)

/-- A new transfer has nothing to tell yet. -/
theorem told_new : (new id direction peer file).Told where
  course := course_new id direction peer file
  bytes_eq := rfl
  reason_iff := by simp [new]

/-- A new transfer is reliable at any time later, compared with any time after that. -/
theorem Evolves.reliable (h : (new id direction peer file).Evolves t) (hlater : t.Evolves t') :
    t.Reliable t' := by
  have htold := h.told (told_new id direction peer file)
  have hwatched : t.watched = t.status := h.watched_eq rfl
  have hawaited := awaited?_eq_some_iff hwatched
  refine ⟨⟨htold.course.eq_lastReached, htold.bytes_eq, htold.reason_iff, hwatched⟩,
    hlater.bytes_le, hawaited, ?_⟩
  intro s hs
  obtain ⟨rfl, hterminal⟩ := (hawaited s).mp hs
  have hkept := hlater.status_eq_of_isTerminal hterminal
  exact ⟨hkept, (awaited?_eq_some_iff (hlater.watched_eq hwatched) _).mpr ⟨hkept, hterminal⟩⟩

/-- **Replay**: at any time, what the handle of a new transfer shows is what the
events queued so far tell, whatever operations tasks do on it and in whatever
order, and in any history of a system; and it goes on to hold. -/
theorem reliable_handle :
    (∀ operations later : List (Operation α),
      let t := (new id direction peer file).operateAll operations
      t.Reliable (t.operateAll later)) ∧
    ∀ (reactions : Reactions) (steps later : List (Step α)),
      let s := (System.ofTransfer (new id direction peer file)).run reactions steps
      s.transfer.Reliable (s.run reactions later).transfer := by
  constructor
  · intro operations later
    exact (evolves_operateAll _ operations).reliable _ _ _ _ (evolves_operateAll _ later)
  · intro reactions steps later
    exact (System.evolves_run reactions (.ofTransfer (new id direction peer file)) steps).reliable
      _ _ _ _ (System.evolves_run reactions _ later)

end Transfer

end SlotUpload
