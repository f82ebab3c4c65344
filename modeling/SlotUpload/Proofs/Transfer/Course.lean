import SlotUpload.Proofs.Transfer.Change

/-!
# SlotUpload.Proofs.Transfer.Course

The grammar of a transfer's events.  `Story` lists the two ways in which the
events of a transfer go from its creation to its end:

```
created → s                                  s failed, canceled or refused
created → inProgress, bytes*, inProgress → s   s completed, failed or canceled
```

The events queued so far are always the beginning of a story
(`orderly_operateAll_events`).  The proof carries more than that: `Course s es u`
says that the events `es` lead from the state `s` to the state `u`, and the
invariant is that a transfer's events lead from `created` to the state it is in.
-/

namespace SlotUpload

namespace TransferEvent

/-- The state that an event tells of. -/
def reached? : TransferEvent → Option TransferStatus
  | status _ new _ => some new
  | progress _ => none

/-- Does an event tell of a state that is never left? -/
def isFinal (e : TransferEvent) : Bool := e.reached?.any (·.isTerminal)

/-- The states that events tell of, in order. -/
def reached (es : List TransferEvent) : List TransferStatus := es.filterMap reached?

/-- The state that the last event to tell of a state tells of. -/
def lastReached (es : List TransferEvent) : TransferStatus := (reached es).getLast?.getD .created

@[simp] theorem reached_append_status (es : List TransferEvent) (old new : TransferStatus)
    (reason : Option String) : reached (es ++ [.status old new reason]) = reached es ++ [new] := by
  simp [reached, reached?]

@[simp] theorem reached_append_progress (es : List TransferEvent) (bytes : UInt64) :
    reached (es ++ [.progress bytes]) = reached es := by
  simp [reached, reached?]

/-- Events that reach a state beyond the first one tell of it. -/
theorem lastReached_mem {es : List TransferEvent} (h : lastReached es ≠ .created) :
    lastReached es ∈ reached es := by
  unfold lastReached at h ⊢
  cases hl : (reached es).getLast? with
  | none => rw [hl] at h; contradiction
  | some s => exact List.mem_of_getLast? hl

end TransferEvent

open TransferEvent

/-! ## stories -/

/-- All events of a transfer that has ended: it ends before it is in progress, or
it is in progress, counts bytes, and ends. -/
inductive Story : List TransferEvent → Prop
  | unbegun {last : TransferStatus} (reason : Option String)
      (h : last = .failed ∨ last = .canceled ∨ last = .refused) :
      Story [.status .created last reason]
  | begun {last : TransferStatus} (reason reason' : Option String) (counts : List UInt64)
      (h : last = .completed ∨ last = .failed ∨ last = .canceled) :
      Story (.status .created .inProgress reason ::
        (counts.map .progress ++ [.status .inProgress last reason']))

/-- Events in an order that a listener can rely on. -/
structure Orderly (es : List TransferEvent) : Prop where
  /-- They are the beginning of a story. -/
  story : ∃ story, Story story ∧ es <+: story
  /-- A change of state starts from the state that the one before it led to. -/
  old_eq : ∀ before old new reason after, es = before ++ .status old new reason :: after →
    old = lastReached before
  /-- At most one of them is final. -/
  final_le_one : (es.filter isFinal).length ≤ 1
  /-- Nothing comes after a final one. -/
  after_final : ∀ before e after, es = before ++ e :: after → e.isFinal → after = []
  /-- Bytes are counted only in progress. -/
  inProgress : ∀ before bytes after, es = before ++ .progress bytes :: after →
    lastReached before = .inProgress

/-! ## courses -/

/-- Events that lead from one state to another, each from where the one before it
led. -/
inductive Course : TransferStatus → List TransferEvent → TransferStatus → Prop
  | nil (s : TransferStatus) : Course s [] s
  | move {old new last : TransferStatus} {es : List TransferEvent} (reason : Option String)
      (h : old.leadsTo new) (rest : Course new es last) :
      Course old (.status old new reason :: es) last
  | count {last : TransferStatus} {es : List TransferEvent} (bytes : UInt64)
      (rest : Course .inProgress es last) : Course .inProgress (.progress bytes :: es) last

namespace Course

variable {s u v : TransferStatus} {es fs : List TransferEvent}

/-- A course goes on where another one ended. -/
theorem append (h : Course s es u) (h' : Course u fs v) : Course s (es ++ fs) v := by
  induction h with
  | nil s => exact h'
  | move reason h _ ih => exact .move reason h (ih h')
  | count bytes _ ih => exact .count bytes (ih h')

/-- A course can be cut between any two events. -/
theorem split (h : Course s (es ++ fs) v) : ∃ u, Course s es u ∧ Course u fs v := by
  induction es generalizing s with
  | nil => exact ⟨s, .nil s, h⟩
  | cons e es ih =>
      cases h with
      | move reason hl rest =>
          obtain ⟨u, hes, hfs⟩ := ih rest
          exact ⟨u, .move reason hl hes, hfs⟩
      | count bytes rest =>
          obtain ⟨u, hes, hfs⟩ := ih rest
          exact ⟨u, .count bytes hes, hfs⟩

/-- Nothing leads on from a terminal state. -/
theorem of_isTerminal (h : Course s es u) (hs : s.isTerminal) : es = [] ∧ u = s := by
  cases h with
  | nil => exact ⟨rfl, rfl⟩
  | move reason hl _ =>
      rw [TransferStatus.leadsTo_eq_false_of_isTerminal hs] at hl
      contradiction
  | count bytes _ => contradiction

/-- The events alone tell where they lead. -/
theorem last_eq (h : Course s es u) : u = (reached es).getLast?.getD s := by
  induction h with
  | nil s => rfl
  | move reason _ _ ih => simpa [reached, reached?, List.getLast?_cons] using ih
  | count bytes _ ih => simpa [reached, reached?] using ih

/-- The status is the last one that was reached. -/
theorem eq_lastReached (h : Course .created es u) : u = lastReached es := h.last_eq

/-- Of the events of a course at most the last one is final. -/
theorem length_filter_isFinal_le (h : Course s es u) : (es.filter isFinal).length ≤ 1 := by
  induction h with
  | nil s => exact Nat.zero_le 1
  | @move old new last es reason _ rest ih =>
      cases hn : new.isTerminal with
      | true => simp [(rest.of_isTerminal hn).1, isFinal, reached?, hn]
      | false => simpa [isFinal, reached?, hn] using ih
  | count bytes _ ih => simpa [isFinal, reached?] using ih

/-- In progress, a course counts bytes until the transfer ends, if it does. -/
theorem exists_counts (h : Course .inProgress es u) :
    ∃ counts : List UInt64, es = counts.map .progress ∨
      ∃ last reason, (last = .completed ∨ last = .failed ∨ last = .canceled) ∧
        es = counts.map .progress ++ [.status .inProgress last reason] := by
  generalize hs : TransferStatus.inProgress = s at h
  induction h with
  | nil => exact ⟨[], .inl rfl⟩
  | @move old new last es reason hl rest ih =>
      subst hs
      have hlast := TransferStatus.of_inProgress_leadsTo hl
      have hn : new.isTerminal := by rcases hlast with rfl | rfl | rfl <;> rfl
      rw [(rest.of_isTerminal hn).1]
      exact ⟨[], .inr ⟨new, reason, hlast, rfl⟩⟩
  | count bytes rest ih =>
      obtain ⟨counts, h | ⟨last, reason, hlast, h⟩⟩ := ih rfl
      · exact ⟨bytes :: counts, .inl (by rw [h]; rfl)⟩
      · exact ⟨bytes :: counts, .inr ⟨last, reason, hlast, by rw [h]; rfl⟩⟩

/-- What leads on from the creation of a transfer is the beginning of a story. -/
theorem exists_story (h : Course .created es u) : ∃ story, Story story ∧ es <+: story := by
  cases h with
  | nil => exact ⟨_, .unbegun none (.inl rfl), List.nil_prefix⟩
  | @move _ new _ es reason hl rest =>
      rcases TransferStatus.of_created_leadsTo hl with rfl | hlast
      · obtain ⟨counts, rfl | ⟨last, reason', hlast, rfl⟩⟩ := rest.exists_counts
        · refine ⟨_, .begun reason none counts (.inl rfl), ?_⟩
          rw [List.prefix_cons_inj]
          exact List.prefix_append _ _
        · exact ⟨_, .begun reason reason' counts hlast, List.prefix_rfl⟩
      · have hn : new.isTerminal := by rcases hlast with rfl | rfl | rfl <;> rfl
        rw [(rest.of_isTerminal hn).1]
        exact ⟨_, .unbegun reason hlast, List.prefix_rfl⟩

/-- The events of a course are orderly. -/
theorem orderly (h : Course .created es u) : Orderly es where
  story := h.exists_story
  old_eq := by
    rintro before old new reason after rfl
    obtain ⟨s, hb, ha⟩ := h.split
    cases ha with
    | move => exact hb.eq_lastReached
  final_le_one := h.length_filter_isFinal_le
  after_final := by
    rintro before e after rfl he
    obtain ⟨s, -, ha⟩ := h.split
    cases ha with
    | move reason _ rest => exact (rest.of_isTerminal he).1
    | count bytes _ => contradiction
  inProgress := by
    rintro before bytes after rfl
    obtain ⟨s, hb, ha⟩ := h.split
    cases ha with
    | count => exact hb.eq_lastReached.symm

end Course

/-! ## the events of a transfer -/

namespace Transfer

variable {α : Type} {t t' : Transfer}

/-- Every change queues events that lead on from the state before it. -/
theorem Evolves.course {s : TransferStatus} (h : t.Evolves t')
    (hc : Course s t.events t.status) : Course s t'.events t'.status := by
  induction h with
  | refl => exact hc
  | tail _ hchange ih =>
      cases hchange with
      | move new reason h => exact ih.append (.move reason h (.nil new))
      | count bytes hs hb =>
          rw [hs] at ih
          have hcount : Course .inProgress [.progress bytes] .inProgress := .count bytes (.nil _)
          simpa only [Transfer.count, hs] using ih.append hcount
      | abort h => exact ih

variable (id : String) (direction : Direction) (peer : Option Destination) (file : String)

/-- A new transfer is at the start of its course. -/
theorem course_new :
    Course .created (new id direction peer file).events (new id direction peer file).status :=
  .nil .created

/-- **Grammar of events**: after any operations by any tasks, and at any point of
any history of a system, the events queued by a new transfer are the beginning of
a story, each one starts from where the one before it led, and none follows a
final one. -/
theorem orderly_events :
    (∀ operations : List (Operation α),
      Orderly ((new id direction peer file).operateAll operations).events) ∧
    ∀ (reactions : Reactions) (steps : List (Step α)),
      Orderly ((System.ofTransfer (new id direction peer file)).run reactions steps).transfer.events
    := by
  have horderly : ∀ t, (new id direction peer file).Evolves t → Orderly t.events :=
    fun t h => (h.course (course_new id direction peer file)).orderly
  constructor
  · intro operations
    exact horderly _ (evolves_operateAll _ operations)
  · intro reactions steps
    exact horderly _ (System.evolves_run reactions (.ofTransfer (new id direction peer file)) steps)

end Transfer

end SlotUpload
