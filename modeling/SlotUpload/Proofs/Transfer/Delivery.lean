import Mathlib.Data.Prod.Lex
import Mathlib.Order.WellFounded
import SlotUpload.Proofs.Roster
import SlotUpload.Proofs.Transfer.Cancellation

/-!
# SlotUpload.Proofs.Transfer.Delivery

Who is told of what.  Events are queued by anyone at any time, listeners come and
go, and what a listener does when it is told of an event can change both.  Three
lists that grow along a history are related here: the events that were queued, the
deliveries that began (`deliveries`), and what was done to the roster
(`registrations`).

`Delivered` says what holds at the end of each history: the deliveries are those of
the first events that were queued, one for each and in their order; each is to the
listeners who are on the roster when it begins; and the listeners are told of one
delivery after another.  So what a listener is told of while it stays on the roster
is a stretch of the queue, and whatever else goes on, all events that are queued
are delivered in the end.

`Served` is the invariant that carries this: all that was told or is yet to be told
is what the deliveries that began are to bring about.
-/

namespace SlotUpload

variable {α : Type}

/-- Whatever happens to a transfer, the events that it has queued stay in the queue,
in front. -/
theorem Transfer.Evolves.prefix_events {t t' : Transfer} (h : t.Evolves t') :
    t.events <+: t'.events := by
  induction h with
  | refl => exact List.prefix_rfl
  | tail _ hc ih =>
      refine ih.trans ?_
      cases hc with
      | move new reason h => exact List.prefix_append _ _
      | count bytes hs hb => exact List.prefix_append _ _
      | abort h => exact List.prefix_rfl

/-- What a listener does to the roster by reacting in a certain way. -/
def Reaction.change? : Reaction → Option (Roster.Change String)
  | .act _ => none
  | .add listener => some (.add listener)
  | .remove listener => some (.remove listener)

/-- A delivery that began: the event, and those who are to be told of it. -/
structure Delivery where
  event : TransferEvent
  listeners : Roster String

/-- Each listener told of the event, one after another. -/
def Delivery.notices (d : Delivery) : List (String × TransferEvent) :=
  d.listeners.map fun listener => (listener, d.event)

/-- The events that a listener is told of with some notices. -/
def eventsFor (listener : String) (notices : List (String × TransferEvent)) :
    List TransferEvent :=
  (notices.filter (·.1 = listener)).map (·.2)

/-- A listener is told of a delivery as often as it is on the roster. -/
theorem Delivery.eventsFor_notices (d : Delivery) (listener : String) :
    eventsFor listener d.notices = List.replicate (d.listeners.count listener) d.event := by
  rw [eventsFor, notices, List.filter_map, List.map_map]
  have hfilter : d.listeners.filter ((fun notice => decide (notice.1 = listener)) ∘
      fun l => (l, d.event)) = d.listeners.filter (· = listener) := rfl
  rw [hfilter, List.filter_eq, List.map_replicate]
  rfl

namespace System

/-! ## what there is to see -/

/-- What is yet to be told of the event being delivered. -/
def due (s : System α) : List (String × TransferEvent) :=
  match s.current? with
  | none => []
  | some event => s.waiting.map fun listener => (listener, event)

/-- What was told, and what is yet to be told of the event being delivered. -/
def notices (s : System α) : List (String × TransferEvent) := s.told ++ s.due

/-- The events that a listener was told of or is yet to be told of. -/
def record (s : System α) (listener : String) : List TransferEvent :=
  eventsFor listener s.notices

/-- The delivery that begins with a step. -/
def delivery? (s : System α) : Step α → Option Delivery
  | .deliver => if s.waiting.isEmpty then s.transfer.events[s.begun]?.map (⟨·, s.roster⟩) else none
  | _ => none

/-- What a step does to the roster, by itself or by what a listener that is told of
an event does then. -/
def rosterChanges (reactions : Reactions) (s : System α) : Step α → List (Roster.Change String)
  | .add listener => [.add listener]
  | .remove listener => [.remove listener]
  | .tell =>
    match s.waiting, s.current? with
    | listener :: _, some _ => (reactions listener (s.timesTold listener)).filterMap (·.change?)
    | _, _ => []
  | _ => []

/-- The deliveries that begin on the way, the first one in front. -/
def deliveries (reactions : Reactions) (s : System α) : List (Step α) → List Delivery
  | [] => []
  | x :: steps => (s.delivery? x).toList ++ deliveries reactions (s.step reactions x) steps

/-- All that is done to the roster on the way. -/
def registrations (reactions : Reactions) (s : System α) :
    List (Step α) → List (Roster.Change String)
  | [] => []
  | x :: steps => s.rosterChanges reactions x ++ registrations reactions (s.step reactions x) steps

/-- At every moment on the way, the one before the first step and the one after the
last step among them. -/
def Throughout (reactions : Reactions) (s : System α) (steps : List (Step α))
    (p : System α → Prop) : Prop :=
  ∀ before, before <+: steps → p (s.run reactions before)

/-- The step that takes delivery further. -/
def nextDelivery (s : System α) : Step α := if s.waiting.isEmpty then .deliver else .tell

/-- The first steps of an endless history. -/
def firstSteps (future : ℕ → Step α) (n : ℕ) : List (Step α) := (List.range n).map future

/-- However far an endless history has gone, delivery is taken further at some later
moment. -/
def FairToDelivery (reactions : Reactions) (s : System α) (future : ℕ → Step α) : Prop :=
  ∀ n, ∃ m, n ≤ m ∧ future m = (s.run reactions (firstSteps future m)).nextDelivery

variable {reactions : Reactions} {s s' : System α}

theorem run_append (steps later : List (Step α)) :
    s.run reactions (steps ++ later) = (s.run reactions steps).run reactions later :=
  List.foldl_append

theorem firstSteps_succ (future : ℕ → Step α) (n : ℕ) :
    firstSteps future (n + 1) = firstSteps future n ++ [future n] := by
  simp [firstSteps, List.range_succ]

theorem run_firstSteps_succ (future : ℕ → Step α) (n : ℕ) :
    s.run reactions (firstSteps future (n + 1)) =
      (s.run reactions (firstSteps future n)).step reactions (future n) := by
  rw [firstSteps_succ, run_append]
  rfl

theorem registrations_append (steps later : List (Step α)) :
    s.registrations reactions (steps ++ later) =
      s.registrations reactions steps ++ (s.run reactions steps).registrations reactions later := by
  induction steps generalizing s with
  | nil => rfl
  | cons x steps ih => simp [registrations, ih]

/-! ## single deliveries -/

/-- When nobody is waiting, a delivery begins with the next event, for those on the roster. -/
theorem delivery?_eq_some {x : Step α} {d : Delivery} (h : s.delivery? x = some d) :
    x = .deliver ∧ s.waiting = [] ∧ s.transfer.events[s.begun]? = some d.event ∧
      d.listeners = s.roster := by
  cases x with
  | deliver =>
      rw [delivery?] at h
      split at h
      · next hw =>
          obtain ⟨event, hevent, rfl⟩ := Option.map_eq_some_iff.1 h
          exact ⟨rfl, List.isEmpty_iff.1 hw, hevent, rfl⟩
      · contradiction
  | _ => contradiction

/-- A delivery that began did so with a step, at a moment when the one before was
over, and to those on the roster then. -/
theorem exists_of_deliveries_eq {steps : List (Step α)} {past later : List Delivery}
    {d : Delivery} (h : s.deliveries reactions steps = past ++ d :: later) :
    ∃ before after, steps = before ++ .deliver :: after ∧
      s.deliveries reactions before = past ∧
      (s.run reactions before).waiting = [] ∧
      d.listeners = (s.run reactions before).roster := by
  induction steps generalizing s past with
  | nil => simp [deliveries] at h
  | cons x steps ih =>
      rw [deliveries] at h
      cases hd : s.delivery? x with
      | none =>
          rw [hd] at h
          obtain ⟨before, after, rfl, rfl, hw, hl⟩ := ih h
          exact ⟨x :: before, after, rfl, by simp [deliveries, hd], hw, hl⟩
      | some first =>
          rw [hd] at h
          cases past with
          | nil =>
              obtain ⟨rfl, -⟩ := List.cons.inj h
              obtain ⟨rfl, hw, -, hl⟩ := delivery?_eq_some hd
              exact ⟨[], steps, rfl, rfl, hw, hl⟩
          | cons d' past =>
              obtain ⟨rfl, hrest⟩ := List.cons.inj h
              obtain ⟨before, after, rfl, rfl, hw, hl⟩ := ih hrest
              exact ⟨x :: before, after, rfl, by simp [deliveries, hd], hw, hl⟩

/-! ## the roster -/

/-- A reaction changes the roster by what it registers. -/
theorem roster_react (s : System α) (reaction : Reaction) :
    (s.react reaction).roster = reaction.change?.toList.foldl Roster.apply s.roster := by
  cases reaction <;> rfl

theorem roster_foldl_react (rs : List Reaction) (s : System α) :
    (rs.foldl react s).roster = (rs.filterMap (·.change?)).foldl Roster.apply s.roster := by
  induction rs generalizing s with
  | nil => rfl
  | cons reaction rs ih =>
      rw [List.foldl_cons, ih, roster_react]
      cases h : reaction.change? with
      | none => simp [h]
      | some change => simp [h]

/-- A poll leaves the roster alone. -/
theorem roster_poll (s : System α) (i : Nat) : (s.poll i).roster = s.roster := by
  unfold System.poll
  split <;> rfl

theorem roster_deliver (s : System α) : s.deliver.roster = s.roster := by
  unfold deliver
  split <;> rfl

/-- A step changes the roster by its own registrations. -/
theorem roster_step (s : System α) (x : Step α) :
    (s.step reactions x).roster = (s.rosterChanges reactions x).foldl Roster.apply s.roster := by
  cases x with
  | act action => rfl
  | add listener => rfl
  | remove listener => rfl
  | start work => rfl
  | poll i => exact s.roster_poll i
  | deliver => exact s.roster_deliver
  | tell =>
      simp only [step, tell, rosterChanges]
      cases s.waiting with
      | nil => rfl
      | cons listener waiting =>
          cases s.current? with
          | none => rfl
          | some event => exact roster_foldl_react _ _

/-- The roster is what the registrations make of it. -/
theorem roster_run (s : System α) (steps : List (Step α)) :
    (s.run reactions steps).roster =
      (s.registrations reactions steps).foldl Roster.apply s.roster := by
  induction steps generalizing s with
  | nil => rfl
  | cons x steps ih => rw [run_cons, ih, roster_step, registrations, List.foldl_append]

/-! ## steps beside delivery -/

/-- The second system is the first one after something that delivery does not go by:
more events may be queued, and the roster may be another. -/
structure Beside (s s' : System α) : Prop where
  prefix_events : s.transfer.events <+: s'.transfer.events
  begun_eq : s'.begun = s.begun
  waiting_eq : s'.waiting = s.waiting
  told_eq : s'.told = s.told

theorem Beside.refl (s : System α) : s.Beside s := ⟨List.prefix_rfl, rfl, rfl, rfl⟩

theorem Beside.trans {s'' : System α} (h : s.Beside s') (h' : s'.Beside s'') : s.Beside s'' :=
  ⟨h.prefix_events.trans h'.prefix_events, h'.begun_eq.trans h.begun_eq,
    h'.waiting_eq.trans h.waiting_eq, h'.told_eq.trans h.told_eq⟩

/-- A reaction is beside the deliveries. -/
theorem beside_react (s : System α) (reaction : Reaction) : s.Beside (s.react reaction) := by
  have hevents := (s.evolves_react reaction).prefix_events
  cases reaction <;> exact ⟨hevents, rfl, rfl, rfl⟩

theorem beside_foldl_react (rs : List Reaction) (s : System α) :
    s.Beside (rs.foldl react s) := by
  induction rs generalizing s with
  | nil => exact .refl s
  | cons reaction rs ih => exact (s.beside_react reaction).trans (ih _)

theorem beside_poll (s : System α) (i : Nat) : s.Beside (s.poll i) := by
  have hevents := (s.evolves_poll i).prefix_events
  unfold System.poll at hevents ⊢
  split
  · exact .refl s
  · next hrun =>
      rw [hrun] at hevents
      exact ⟨hevents, rfl, rfl, rfl⟩

/-- All steps but those of delivery. -/
theorem beside_step {x : Step α} (hdeliver : x ≠ .deliver) (htell : x ≠ .tell) :
    s.Beside (s.step reactions x) := by
  cases x with
  | act action => exact s.beside_react (.act action)
  | add listener => exact s.beside_react (.add listener)
  | remove listener => exact s.beside_react (.remove listener)
  | start work => exact ⟨List.prefix_rfl, rfl, rfl, rfl⟩
  | poll i => exact s.beside_poll i
  | deliver => exact absurd rfl hdeliver
  | tell => exact absurd rfl htell

/-! ## the invariant -/

/-- The deliveries that began are those of the first events queued, and what was told
or is yet to be told is what they are to bring about. -/
structure Served (s : System α) (ds : List Delivery) : Prop where
  begun_eq : s.begun = ds.length
  prefix_events : ds.map (·.event) <+: s.transfer.events
  notices_eq : s.notices = ds.flatMap Delivery.notices
  /-- Nobody is to be told of anything before a delivery began. -/
  waiting_eq : s.begun = 0 → s.waiting = []

variable {ds : List Delivery}

/-- No more events are delivered than there are. -/
theorem Served.begun_le (h : s.Served ds) : s.begun ≤ s.transfer.events.length := by
  rw [h.begun_eq, ← List.length_map]
  exact h.prefix_events.length_le

/-- The events that were delivered are the first ones. -/
theorem Served.take_eq (h : s.Served ds) :
    s.transfer.events.take s.begun = ds.map (·.event) := by
  rw [List.prefix_iff_eq_take.1 h.prefix_events, List.length_map, h.begun_eq]

/-- There is an event for those who wait. -/
theorem Served.exists_current (h : s.Served ds) (hw : s.waiting ≠ []) :
    ∃ event, s.current? = some event := by
  have hbegun : s.begun ≠ 0 := fun h0 => hw (h.waiting_eq h0)
  have hlt : s.begun - 1 < s.transfer.events.length := by
    have := h.begun_le
    omega
  exact ⟨_, by rw [current?, if_neg hbegun, List.getElem?_eq_getElem hlt]⟩

/-- What happens beside delivery leaves the event being delivered as it is. -/
theorem Served.current?_eq (h : s.Served ds) (hb : s.Beside s') : s'.current? = s.current? := by
  rw [current?, current?, hb.begun_eq]
  split
  · rfl
  · next hbegun =>
      have hlt : s.begun - 1 < s.transfer.events.length := by
        have := h.begun_le
        omega
      obtain ⟨more, hmore⟩ := hb.prefix_events
      rw [← hmore, List.getElem?_append_left hlt]

/-- What happens beside the deliveries leaves them as they are. -/
theorem Served.of_beside (h : s.Served ds) (hb : s.Beside s') : s'.Served ds where
  begun_eq := hb.begun_eq.trans h.begun_eq
  prefix_events := h.prefix_events.trans hb.prefix_events
  notices_eq := by
    rw [← h.notices_eq, notices, notices, due, due, h.current?_eq hb, hb.told_eq, hb.waiting_eq]
  waiting_eq := by
    rw [hb.begun_eq, hb.waiting_eq]
    exact h.waiting_eq

/-- When nobody is waiting nothing is due. -/
theorem due_of_waiting_eq_nil (hw : s.waiting = []) : s.due = [] := by
  rw [due, hw]
  cases s.current? <;> rfl

/-- A delivery that begins is the next one. -/
theorem Served.deliver (h : s.Served ds) :
    (s.step reactions .deliver).Served (ds ++ (s.delivery? .deliver).toList) := by
  simp only [step, System.deliver, delivery?]
  by_cases hw : s.waiting.isEmpty
  · by_cases hlt : s.begun < s.transfer.events.length
    · rw [if_pos ⟨hw, hlt⟩, if_pos hw, List.getElem?_eq_getElem hlt]
      have htold : s.told = ds.flatMap Delivery.notices := by
        rw [← h.notices_eq, notices, due_of_waiting_eq_nil (List.isEmpty_iff.1 hw), List.append_nil]
      refine ⟨by simp [h.begun_eq], ?_, ?_, by simp⟩
      · have htake := h.take_eq
        have hnext := List.take_concat_get hlt
        simp only [Option.map_some, Option.toList_some, List.map_append, List.map_cons,
          List.map_nil]
        rw [← htake, ← List.concat_eq_append, hnext]
        exact List.take_prefix _ _
      · simp [notices, due, current?, htold, Delivery.notices, List.getElem?_eq_getElem hlt]
    · have hnone : s.transfer.events[s.begun]? = none := List.getElem?_eq_none (by omega)
      rw [if_neg (by simp [hlt]), if_pos hw, hnone]
      simpa using h
  · rw [if_neg (by simp [hw]), if_neg hw]
    simpa using h

/-- Telling a listener goes on with the delivery that has begun. -/
theorem Served.tell (h : s.Served ds) : (s.step reactions .tell).Served ds := by
  simp only [step, System.tell]
  split
  · next listener waiting event hw hc =>
      refine Served.of_beside ?_ (beside_foldl_react _ _)
      refine ⟨h.begun_eq, h.prefix_events, ?_, fun h0 => ?_⟩
      · have hcurrent : current? { s with
            waiting, told := s.told ++ [(listener, event)] } = some event := hc
        rw [← h.notices_eq, notices, notices, due, due, hcurrent, hc, hw]
        simp
      · rw [h.waiting_eq h0] at hw
        contradiction
  · exact h

/-- Every step keeps the account of the deliveries. -/
theorem Served.step (h : s.Served ds) (x : Step α) :
    (s.step reactions x).Served (ds ++ (s.delivery? x).toList) := by
  by_cases hdeliver : x = .deliver
  · subst hdeliver
    exact h.deliver
  · have hnone : s.delivery? x = none := by
      cases x <;> first | rfl | exact absurd rfl hdeliver
    rw [hnone, Option.toList_none, List.append_nil]
    by_cases htell : x = .tell
    · subst htell
      exact h.tell
    · exact h.of_beside (beside_step hdeliver htell)

theorem Served.run (h : s.Served ds) (steps : List (Step α)) :
    (s.run reactions steps).Served (ds ++ s.deliveries reactions steps) := by
  induction steps generalizing s ds with
  | nil => simpa [deliveries] using h
  | cons x steps ih =>
      rw [run_cons, deliveries, ← List.append_assoc]
      exact ih (h.step x)

/-- At the start nothing is delivered. -/
theorem served_ofTransfer (t : Transfer) : (ofTransfer t : System α).Served [] :=
  ⟨rfl, List.nil_prefix, rfl, fun _ => rfl⟩

/-- Once delivery has nothing left to do, all events have been delivered. -/
theorem Served.of_not_isDelivering (h : s.Served ds) (hidle : s.isDelivering = false) :
    s.begun = s.transfer.events.length ∧ s.notices = s.told := by
  simp only [isDelivering, Bool.or_eq_false_iff, Bool.not_eq_false', List.isEmpty_iff,
    decide_eq_false_iff_not, not_lt] at hidle
  refine ⟨le_antisymm h.begun_le hidle.2, ?_⟩
  rw [notices, due_of_waiting_eq_nil hidle.1, List.append_nil]

/-! ## what one listener is told -/

/-- A listener's record has each event as often as it is on the list of its delivery. -/
theorem Served.record_eq (h : s.Served ds) (listener : String) :
    s.record listener =
      ds.flatMap fun d => List.replicate (d.listeners.count listener) d.event := by
  rw [record, h.notices_eq, eventsFor, List.filter_flatMap, List.map_flatMap]
  exact congrArg (ds.flatMap ·) (funext fun d => d.eventsFor_notices listener)

/-- What happens on the way adds to a listener's record what the deliveries that
begin then bring. -/
theorem Served.record_run (h : s.Served ds) (steps : List (Step α)) (listener : String) :
    (s.run reactions steps).record listener = s.record listener ++
      (s.deliveries reactions steps).flatMap fun d =>
        List.replicate (d.listeners.count listener) d.event := by
  rw [(h.run steps).record_eq, h.record_eq, List.flatMap_append]

/-- The events of the deliveries that begin on the way are the next ones in the
queue. -/
theorem Served.map_event_deliveries (h : s.Served ds) (steps : List (Step α)) :
    (s.deliveries reactions steps).map (·.event) =
      ((s.run reactions steps).transfer.events.take (s.run reactions steps).begun).drop
        s.begun := by
  rw [(h.run steps).take_eq, List.map_append, h.begun_eq, ← List.length_map (·.event)]
  exact List.drop_left.symm

/-- Deliveries that are all to a listener, once each, add a stretch of the queue to its
record. -/
theorem Served.record_of_count_eq_one (h : s.Served ds) {steps : List (Step α)}
    {listener : String}
    (hone : ∀ d ∈ s.deliveries reactions steps, d.listeners.count listener = 1) :
    (s.run reactions steps).record listener = s.record listener ++
      ((s.run reactions steps).transfer.events.take (s.run reactions steps).begun).drop
        s.begun := by
  rw [h.record_run, ← h.map_event_deliveries, List.map_eq_flatMap]
  congr 1
  refine List.flatMap_congr fun d hd => ?_
  rw [hone d hd, List.replicate_one]

/-- One who is on no list hears nothing new. -/
theorem Served.record_of_count_eq_zero (h : s.Served ds) {steps : List (Step α)}
    {listener : String}
    (hzero : ∀ d ∈ s.deliveries reactions steps, d.listeners.count listener = 0) :
    (s.run reactions steps).record listener = s.record listener := by
  rw [h.record_run, List.append_right_eq_self, List.flatMap_eq_nil_iff]
  intro d hd
  rw [hzero d hd, List.replicate_zero]

/-- Each delivery that begins on the way is to the roster of some moment on the way. -/
theorem exists_roster_eq {steps : List (Step α)} {d : Delivery}
    (hd : d ∈ s.deliveries reactions steps) :
    ∃ before, before <+: steps ∧ d.listeners = (s.run reactions before).roster := by
  obtain ⟨past, later, hsplit⟩ := List.append_of_mem hd
  obtain ⟨before, after, rfl, -, -, hl⟩ := exists_of_deliveries_eq hsplit
  exact ⟨before, List.prefix_append _ _, hl⟩

/-! ## delivery goes on -/

/-- What is left to do until the first `k` events are delivered. -/
def remaining (k : ℕ) (s : System α) : ℕ ×ₗ ℕ := toLex (k - s.begun, s.waiting.length)

/-- A step that does not take delivery further does not touch it. -/
theorem beside_of_ne_nextDelivery {x : Step α} (h : x ≠ s.nextDelivery) :
    s.Beside (s.step reactions x) := by
  cases hw : s.waiting with
  | nil =>
      rw [nextDelivery, hw] at h
      by_cases htell : x = .tell
      · subst htell
        simp only [step, tell, hw]
        exact .refl s
      · exact beside_step h htell
  | cons listener waiting =>
      rw [nextDelivery, hw] at h
      by_cases hdeliver : x = .deliver
      · subst hdeliver
        simp only [step, deliver, hw]
        exact .refl s
      · exact beside_step hdeliver h

/-- What happens beside the deliveries leaves as much to be done. -/
theorem Beside.remaining_eq (h : s.Beside s') (k : ℕ) : s'.remaining k = s.remaining k := by
  rw [remaining, remaining, h.begun_eq, h.waiting_eq]

/-- Taking delivery further leaves less to do, unless it is done. -/
theorem Served.remaining_lt (h : s.Served ds) {k : ℕ} (hk : k ≤ s.transfer.events.length)
    (hleft : ¬ (k ≤ s.begun ∧ s.waiting = [])) :
    (s.step reactions s.nextDelivery).remaining k < s.remaining k := by
  cases hw : s.waiting with
  | nil =>
      have hlt : s.begun < k := by
        by_contra hge
        exact hleft ⟨not_lt.1 hge, hw⟩
      simp only [nextDelivery, System.step, System.deliver, hw, List.isEmpty_nil, if_true,
        true_and, if_pos (hlt.trans_le hk), remaining]
      refine Prod.Lex.toLex_lt_toLex.2 (.inl ?_)
      change k - (s.begun + 1) < k - s.begun
      omega
  | cons listener waiting =>
      obtain ⟨event, hevent⟩ := h.exists_current (by simp [hw])
      simp only [nextDelivery, System.step, System.tell, hw, hevent, List.isEmpty_cons, if_false,
        Bool.false_eq_true]
      rw [(beside_foldl_react _ _).remaining_eq, remaining, remaining, hw]
      exact Prod.Lex.toLex_lt_toLex.2 (.inr ⟨rfl, Nat.lt_succ_self _⟩)

/-- No step leaves more to be done. -/
theorem Served.remaining_le (h : s.Served ds) {k : ℕ} (hk : k ≤ s.transfer.events.length)
    (hleft : ¬ (k ≤ s.begun ∧ s.waiting = [])) (x : Step α) :
    (s.step reactions x).remaining k ≤ s.remaining k := by
  by_cases hx : x = s.nextDelivery
  · subst hx
    exact (h.remaining_lt hk hleft).le
  · exact ((beside_of_ne_nextDelivery hx).remaining_eq k).le

/-- If delivery is taken further again and again, the first `k` events are delivered. -/
theorem Served.eventually (h : s.Served ds) {future : ℕ → Step α}
    (hfair : s.FairToDelivery reactions future) {k : ℕ} (hk : k ≤ s.transfer.events.length) :
    ∃ n, k ≤ (s.run reactions (firstSteps future n)).begun ∧
      (s.run reactions (firstSteps future n)).waiting = [] := by
  let state (n : ℕ) := s.run reactions (firstSteps future n)
  have hserved (n : ℕ) : (state n).Served (ds ++ s.deliveries reactions (firstSteps future n)) :=
    h.run (firstSteps future n)
  have hqueued (n : ℕ) : k ≤ (state n).transfer.events.length :=
    hk.trans (s.evolves_run reactions (firstSteps future n)).prefix_events.length_le
  by_contra hnever
  have hleft (n : ℕ) : ¬ (k ≤ (state n).begun ∧ (state n).waiting = []) :=
    fun hdone => hnever ⟨n, hdone⟩
  have hsucc (n : ℕ) : state (n + 1) = (state n).step reactions (future n) :=
    run_firstSteps_succ future n
  have hanti : Antitone fun n => (state n).remaining k := by
    refine antitone_nat_of_succ_le fun n => ?_
    rw [hsucc]
    exact (hserved n).remaining_le (hqueued n) (hleft n) (future n)
  -- after the moment with the least left to do there is no turn for delivery any more
  let least := Function.argmin fun n => (state n).remaining k
  obtain ⟨m, hm, hnext⟩ := hfair least
  have hlt : (state (m + 1)).remaining k < (state m).remaining k := by
    rw [hsucc, hnext]
    exact (hserved m).remaining_lt (hqueued m) (hleft m)
  have hmin : (state least).remaining k ≤ (state (m + 1)).remaining k :=
    Function.argmin_le (fun n => (state n).remaining k) (m + 1)
  exact absurd (hlt.trans_le (hanti hm)) hmin.not_gt

/-- The steps of delivery alone. -/
def deliverySteps (reactions : Reactions) (s : System α) : ℕ → List (Step α)
  | 0 => []
  | n + 1 =>
    s.deliverySteps reactions n ++ [(s.run reactions (s.deliverySteps reactions n)).nextDelivery]

/-- Nothing but delivery is fair to delivery. -/
theorem fairToDelivery_alone (reactions : Reactions) (s : System α) :
    s.FairToDelivery reactions fun n =>
      (s.run reactions (s.deliverySteps reactions n)).nextDelivery := by
  refine fun n => ⟨n, le_rfl, ?_⟩
  have hsteps : ∀ m, firstSteps (fun n =>
      (s.run reactions (s.deliverySteps reactions n)).nextDelivery) m =
      s.deliverySteps reactions m := by
    intro m
    induction m with
    | zero => rfl
    | succ m ih => rw [firstSteps_succ, ih, deliverySteps]
  rw [hsteps]

/-! ## histories -/

/-- What holds at the end of a history. -/
structure Delivered (reactions : Reactions) (start : System α) (steps : List (Step α)) :
    Prop where
  /-- The deliveries that began are those of the first events queued, one for each and
  in their order. -/
  prefix_events : (start.deliveries reactions steps).map (·.event) <+:
    (start.run reactions steps).transfer.events
  /-- Each began once the one before was over, to those on the roster at that moment. -/
  listeners_eq : ∀ past d later, start.deliveries reactions steps = past ++ d :: later →
    ∃ before after, steps = before ++ .deliver :: after ∧
      start.deliveries reactions before = past ∧
      (start.run reactions before).waiting = [] ∧
      d.listeners = (start.run reactions before).roster ∧
      Roster.Faithful (start.registrations reactions before) d.listeners
  /-- What was told, and what is yet to be told of the last delivery, is each listener of
  each delivery told of its event, one after another. -/
  notices_eq : (start.run reactions steps).told ++ (start.run reactions steps).due =
    (start.deliveries reactions steps).flatMap Delivery.notices
  /-- When delivery has nothing left to do, all events have been delivered. -/
  complete : (start.run reactions steps).isDelivering = false →
    (start.deliveries reactions steps).map (·.event) =
      (start.run reactions steps).transfer.events ∧
    (start.run reactions steps).told =
      (start.deliveries reactions steps).flatMap Delivery.notices
  /-- Whatever else goes on later, the events that are queued now are delivered if
  delivery has its turn again and again. -/
  eventually : ∀ future, (start.run reactions steps).FairToDelivery reactions future → ∃ n,
    (start.run reactions steps).transfer.events.length ≤
      ((start.run reactions steps).run reactions (firstSteps future n)).begun ∧
    ((start.run reactions steps).run reactions (firstSteps future n)).waiting = []
  /-- While a listener stays on the roster, its record grows by a stretch of the queue. -/
  record_of_mem : ∀ before during listener, steps = before ++ during →
    (start.run reactions before).Throughout reactions during (listener ∈ ·.roster) →
    (start.run reactions steps).record listener =
      (start.run reactions before).record listener ++
        ((start.run reactions steps).transfer.events.take
          (start.run reactions steps).begun).drop (start.run reactions before).begun
  /-- While it is not there, nothing is added to its record. -/
  record_of_not_mem : ∀ before during listener, steps = before ++ during →
    (start.run reactions before).Throughout reactions during (listener ∉ ·.roster) →
    (start.run reactions steps).record listener = (start.run reactions before).record listener
  /-- A listener who is there before anything is delivered and is never removed is told of
  the whole queue. -/
  told_whole : ∀ before during listener, steps = before ++ during →
    (start.run reactions before).begun = 0 → listener ∈ (start.run reactions before).roster →
    .remove listener ∉ (start.run reactions before).registrations reactions during →
    (start.run reactions steps).record listener <+: (start.run reactions steps).transfer.events ∧
      ((start.run reactions steps).isDelivering = false →
        eventsFor listener (start.run reactions steps).told =
          (start.run reactions steps).transfer.events)

section History

variable (t : Transfer) (steps : List (Step α))

variable (reactions) in
/-- The roster is at every moment what was done to it up to then. -/
theorem faithful_roster : Roster.Faithful ((ofTransfer t).registrations reactions steps)
    ((ofTransfer t).run reactions steps).roster := by
  rw [roster_run]
  exact Roster.faithful_ofChanges _

variable (reactions) in
/-- Every run keeps the account of its deliveries. -/
theorem served_run : ((ofTransfer t).run reactions steps).Served
    ((ofTransfer t).deliveries reactions steps) :=
  (served_ofTransfer t).run steps

/-- A delivery to someone on the roster is to them once. -/
theorem count_listeners {during : List (Step α)} {listener : String}
    (hmem : ((ofTransfer t).run reactions steps).Throughout reactions during
      (listener ∈ ·.roster)) :
    ∀ d ∈ ((ofTransfer t).run reactions steps).deliveries reactions during,
      d.listeners.count listener = 1 := by
  intro d hd
  obtain ⟨before, hbefore, hl⟩ := exists_roster_eq hd
  have hnodup := (faithful_roster reactions t (steps ++ before)).nodup
  rw [run_append] at hnodup
  rw [hl]
  exact List.count_eq_one_of_mem hnodup (hmem before hbefore)

/-- One who is on the roster and not removed stays there all the time. -/
theorem throughout_mem {during : List (Step α)} {listener : String}
    (h : listener ∈ s.roster) (hremove : .remove listener ∉ s.registrations reactions during) :
    s.Throughout reactions during (listener ∈ ·.roster) := by
  rintro before ⟨after, rfl⟩
  rw [roster_run]
  refine Roster.mem_foldl_apply h fun hmem => hremove ?_
  rw [registrations_append]
  exact List.mem_append_left _ hmem

variable (reactions) in
/-- **Every event is delivered once, in order, to those on the roster at that
moment**, in every history of a transfer. -/
theorem delivered : (ofTransfer t).Delivered reactions steps where
  prefix_events := (served_run reactions t steps).prefix_events
  listeners_eq past d later hsplit := by
    obtain ⟨before, after, hsteps, hpast, hw, hl⟩ := exists_of_deliveries_eq hsplit
    refine ⟨before, after, hsteps, hpast, hw, hl, ?_⟩
    rw [hl]
    exact faithful_roster reactions t before
  notices_eq := (served_run reactions t steps).notices_eq
  complete hidle := by
    have hserved := served_run reactions t steps
    obtain ⟨hbegun, htold⟩ := hserved.of_not_isDelivering hidle
    rw [← hserved.take_eq, hbegun, List.take_length, ← htold]
    exact ⟨rfl, hserved.notices_eq⟩
  eventually future hfair := (served_run reactions t steps).eventually hfair le_rfl
  record_of_mem before during listener hsteps hmem := by
    subst hsteps
    rw [run_append]
    exact (served_run reactions t before).record_of_count_eq_one (count_listeners t before hmem)
  record_of_not_mem before during listener hsteps hnot := by
    subst hsteps
    rw [run_append]
    refine (served_run reactions t before).record_of_count_eq_zero fun d hd => ?_
    obtain ⟨moment, hmoment, hl⟩ := exists_roster_eq hd
    rw [hl]
    exact List.count_eq_zero.2 (hnot moment hmoment)
  told_whole before during listener hsteps hbegun hmem hremove := by
    subst hsteps
    have hbefore := served_run reactions t before
    have hserved := served_run reactions t (before ++ during)
    have hempty : ((ofTransfer t).run reactions before).record listener = [] := by
      rw [hbefore.record_eq, List.length_eq_zero_iff.1 (hbefore.begun_eq.symm.trans hbegun)]
      rfl
    have hone := count_listeners t before (throughout_mem hmem hremove)
    have hrecord := hbefore.record_of_count_eq_one hone
    rw [hempty, List.nil_append, hbegun, List.drop_zero, ← run_append] at hrecord
    refine ⟨hrecord ▸ List.take_prefix _ _, fun hidle => ?_⟩
    obtain ⟨hend, htold⟩ := hserved.of_not_isDelivering hidle
    rw [record, htold, hend, List.take_length] at hrecord
    exact hrecord

/-- The first listener removes the second one as soon as it is told of something; the
second one is still told of that event, but of no other. -/
example : ((ofTransfer (.new "1" .outgoing none "a") : System Unit).run
    (fun listener _ => if listener = "x" then [.remove "y"] else [])
    [.add "x", .add "y", .act (.status .inProgress none), .act .cancel, .deliver, .tell, .tell,
      .deliver, .tell]).told =
    [("x", .status .created .inProgress none), ("y", .status .created .inProgress none),
      ("x", .status .inProgress .canceled none)] := by
  decide

end History

end System

end SlotUpload
