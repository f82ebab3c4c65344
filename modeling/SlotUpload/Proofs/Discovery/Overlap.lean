import SlotUpload.Proofs.Discovery.DefaultService
import SlotUpload.Proofs.Job.Rest

/-!
# SlotUpload.Proofs.Discovery.Overlap

Operations that are under way at the same time and share the default service.  Each goes
on by itself while it asks for that service, sets it or writes to the log, and then waits:
what the session is asked is answered at any later time, with anything, and meanwhile the
others go on (`Shared`).

What a step does is said once (`step_cases`): one call goes on as far as it can.  So each
call has taken a part of its operation's turns, of which it has left what it waits for
(`Sound.stands`), the default service is the one that was set last (`Sound.service_eq`),
and what is over stays so (`Since`).
-/

namespace SlotUpload.Discovery

/-! ## going on -/

/-- How far a job gets by itself. -/
structure Advance where
  turns : List Turn
  /-- The default service then. -/
  service : Option UploadService
  /-- What is left of the job: it is done, or waits. -/
  rest : Job Unit

/-- Goes on with a job while it asks only for the default service, sets it or writes to
the log. -/
def advance (service : Option UploadService) : Job Unit → Advance
  | .ask .cached next =>
    let a := advance service (next service)
    { a with turns := ⟨.cached, service⟩ :: a.turns }
  | .ask (.cache known) next =>
    let a := advance known (next ())
    { a with turns := ⟨.cache known, ()⟩ :: a.turns }
  | .ask (.log entry) next =>
    let a := advance service (next ())
    { a with turns := ⟨.log entry, ()⟩ :: a.turns }
  | job => { turns := [], service, rest := job }

/-- Going on by itself is a course of the job. -/
theorem leads_advance (service : Option UploadService) (j : Job Unit) :
    j.Leads (advance service j).turns (advance service j).rest := by
  fun_induction advance service j with
  | case1 service next a ih => exact .ask _ ih
  | case2 service known next a ih => exact .ask _ ih
  | case3 service entry next a ih => exact .ask _ ih
  | case4 service j => exact .refl j

/-- The default service is the one that a job set last while it went on, if it did. -/
theorem service_advance (service : Option UploadService) (j : Job Unit) :
    (advance service j).service = (Turn.kept (advance service j).turns).getLast?.getD service := by
  fun_induction advance service j with
  | case1 service next a ih => exact ih
  | case2 service known next a ih =>
      change a.service = (known :: Turn.kept a.turns).getLast?.getD service
      rw [List.getLast?_cons, Option.getD_some]
      exact ih
  | case3 service entry next a ih => exact ih
  | case4 service j => rfl

/-- A job waits for nothing that sets the default service. -/
theorem ne_cache_of_rest_advance {service : Option UploadService} {j : Job Unit} {q : Query}
    {next : q.Answer → Job Unit} (h : (advance service j).rest = .ask q next)
    (known : Option UploadService) : q ≠ .cache known := by
  fun_induction advance service j with
  | case1 service next a ih => exact ih h
  | case2 service known next a ih => exact ih h
  | case3 service entry next a ih => exact ih h
  | case4 service j _ hcache =>
      rintro rfl
      exact hcache known next h

/-! ## calls that share the default service -/

/-- A call of an operation. -/
structure Call where
  operation : Operation
  /-- What is left of it. -/
  rest : Job Unit

/-- Something that a call does. -/
inductive Event
  /-- It begins to wait for the answer to a query. -/
  | asked (call : Nat) (query : Query)
  | took (call : Nat) (turn : Turn)

namespace Event

def call : Event → Nat
  | asked call _ | took call _ => call

def turn? : Event → Option Turn
  | asked _ _ => none
  | took _ turn => some turn

/-- The turns among some events. -/
def turns (events : List Event) : List Turn := events.filterMap turn?

/-- The turns of a call among some events. -/
def turnsOf (call : Nat) (events : List Event) : List Turn :=
  turns (events.filter (·.call == call))

/-- The call that sets the default service in an event, and to what. -/
def set? : Event → Option (Nat × Option UploadService)
  | .asked _ _ => none
  | .took call turn => turn.kept?.map (call, ·)

/-- The default service after some events: the one that was set last. -/
def service (events : List Event) : Option UploadService :=
  (Turn.kept (turns events)).getLast?.join

end Event

/-- What a call does that goes on. -/
def Advance.events (call : Nat) (a : Advance) : List Event :=
  a.turns.map (.took call) ++
    match a.rest with
    | .done _ => []
    | .ask q _ => [.asked call q]

/-- Calls and the default service that they share, none at first. -/
structure Shared where
  service : Option UploadService := none
  calls : List Call := []
  /-- What the calls did, in order. -/
  events : List Event := []

/-- What can happen next. -/
inductive Step
  | start (operation : Operation)
  /-- What a call waits for is answered. -/
  | answer (call : Nat) (turn : Turn)

namespace Shared

def start (s : Shared) (operation : Operation) : Shared :=
  let a := advance s.service operation.job
  { service := a.service
    calls := s.calls ++ [⟨operation, a.rest⟩]
    events := s.events ++ a.events s.calls.length }

/-- Answers what a call waits for; does nothing if it does not wait for that. -/
def answer (s : Shared) (i : Nat) (t : Turn) : Shared :=
  match s.calls[i]? with
  | none => s
  | some call =>
    match call.rest.answered t with
    | none => s
    | some job =>
      let a := advance s.service job
      { service := a.service
        calls := s.calls.set i { call with rest := a.rest }
        events := s.events ++ .took i t :: a.events i }

def step (s : Shared) : Step → Shared
  | .start operation => s.start operation
  | .answer i t => s.answer i t

/-- What several steps lead to, one after another. -/
def run (s : Shared) (steps : List Step) : Shared := steps.foldl step s

/-- Has a call returned? -/
def returned (s : Shared) (i : Nat) : Bool := s.calls[i]?.any (·.rest.isDone)

end Shared

/-! ## one step -/

namespace Event

variable {events later : List Event} {i : Nat}

@[simp] theorem turns_append : turns (events ++ later) = turns events ++ turns later :=
  List.filterMap_append ..

@[simp] theorem turnsOf_append :
    turnsOf i (events ++ later) = turnsOf i events ++ turnsOf i later := by
  rw [turnsOf, List.filter_append, turns_append]
  rfl

/-- Events of other calls have no turns of this one. -/
theorem turnsOf_eq_nil (h : ∀ e ∈ events, e.call ≠ i) : turnsOf i events = [] := by
  have hnone : events.filter (·.call == i) = [] :=
    List.filter_eq_nil_iff.2 fun e he => by simpa using h e he
  rw [turnsOf, hnone]
  rfl

/-- A turn of a call is one that the call took. -/
theorem mem_turnsOf_iff {t : Turn} : t ∈ turnsOf i events ↔ .took i t ∈ events := by
  simp only [turnsOf, turns, List.mem_filterMap, List.mem_filter, beq_iff_eq]
  constructor
  · rintro ⟨e, ⟨he, rfl⟩, ht⟩
    cases e with
    | asked call q => cases ht
    | took call turn =>
        cases ht
        exact he
  · intro h
    exact ⟨_, ⟨h, rfl⟩, rfl⟩

/-- Every turn was taken by some call. -/
theorem exists_took_of_mem_turns {t : Turn} (h : t ∈ turns events) :
    ∃ i, .took i t ∈ events := by
  obtain ⟨e, he, ht⟩ := List.mem_filterMap.1 h
  cases e with
  | asked call q => cases ht
  | took call turn =>
      cases ht
      exact ⟨call, he⟩

theorem mem_filterMap_set? {known : Option UploadService}
    (h : .took i ⟨.cache known, ()⟩ ∈ events) : (i, known) ∈ events.filterMap set? :=
  List.mem_filterMap.2 ⟨_, h, rfl⟩

end Event

namespace Advance

variable {a : Advance} {i k : Nat}

/-- The events of a call that goes on are its own. -/
theorem call_of_mem_events {e : Event} (h : e ∈ a.events i) : e.call = i := by
  rcases List.mem_append.1 h with he | he
  · obtain ⟨t, -, rfl⟩ := List.mem_map.1 he
    rfl
  · split at he
    · cases he
    · rw [List.mem_singleton.1 he]
      rfl

theorem turns_events : Event.turns (a.events i) = a.turns := by
  have hturns : Event.turns (a.turns.map (.took i)) = a.turns := by
    rw [Event.turns, List.filterMap_map]
    exact List.filterMap_some
  rw [events, Event.turns_append, hturns]
  split <;> exact List.append_nil _

/-- All turns that a call takes while it goes on are its own. -/
theorem turnsOf_events : Event.turnsOf i (a.events i) = a.turns := by
  have hself : (a.events i).filter (·.call == i) = a.events i :=
    List.filter_eq_self.2 fun e he => beq_iff_eq.2 (call_of_mem_events he)
  rw [Event.turnsOf, hself, turns_events]

theorem turnsOf_events_of_ne (h : k ≠ i) : Event.turnsOf k (a.events i) = [] :=
  Event.turnsOf_eq_nil fun _ he => (call_of_mem_events he).symm ▸ h.symm

/-- A call that waits is seen to ask. -/
theorem asked_mem_events {q : Query} {next : q.Answer → Job Unit} (h : a.rest = .ask q next) :
    .asked i q ∈ a.events i := by
  rw [events, h]
  exact List.mem_append_right _ (List.mem_singleton_self _)

end Advance

namespace Shared

variable {s s' : Shared} {i : Nat} {op : Operation} {a : Advance}

/-- How a call comes to get so far in one step. -/
inductive Gets (s : Shared) (i : Nat) (op : Operation) : Advance → Prop
  | begun (hi : s.calls.length = i) : Gets s i op (advance s.service op.job)
  | goesOn {rest job : Job Unit} {t : Turn} (hrest : s.calls[i]? = some ⟨op, rest⟩)
      (hjob : rest.answered t = some job) :
      Gets s i op
        { advance s.service job with turns := t :: (advance s.service job).turns }

/-- One call gets so far, and the others stay where they are. -/
structure Moves (s s' : Shared) (i : Nat) (op : Operation) (a : Advance) : Prop where
  gets : s.Gets i op a
  service : s'.service = a.service
  events : s'.events = s.events ++ a.events i
  call : s'.calls[i]? = some ⟨op, a.rest⟩
  others : ∀ k, k ≠ i → s'.calls[k]? = s.calls[k]?

/-- An operation that starts is a new call, which goes on as far as it can. -/
theorem start_moves (s : Shared) (op : Operation) :
    s.Moves (s.start op) s.calls.length op (advance s.service op.job) where
  gets := .begun rfl
  service := rfl
  events := rfl
  call := List.getElem?_concat_length
  others k hk := by
    rcases Nat.lt_or_gt_of_ne hk with hlt | hgt
    · exact List.getElem?_append_left hlt
    · rw [List.getElem?_eq_none (Nat.le_of_lt hgt)]
      exact List.getElem?_eq_none (Nat.le_trans (Nat.le_of_eq List.length_append) hgt)

/-- What becomes of everything when a call is given its answer. -/
theorem answer_eq {rest job : Job Unit} {t : Turn} (hrest : s.calls[i]? = some ⟨op, rest⟩)
    (hjob : rest.answered t = some job) :
    s.answer i t =
      { service := (advance s.service job).service
        calls := s.calls.set i ⟨op, (advance s.service job).rest⟩
        events := s.events ++ .took i t :: (advance s.service job).events i } := by
  unfold answer
  rw [hrest]
  dsimp only
  rw [hjob]

/-- A call that is answered goes on as far as it can. -/
theorem answer_moves {rest job : Job Unit} {t : Turn} (hrest : s.calls[i]? = some ⟨op, rest⟩)
    (hjob : rest.answered t = some job) :
    s.Moves (s.answer i t) i op
      { advance s.service job with turns := t :: (advance s.service job).turns } := by
  have hlt : i < s.calls.length := (List.getElem?_eq_some_iff.1 hrest).1
  rw [answer_eq hrest hjob]
  exact
    { gets := .goesOn hrest hjob
      service := rfl
      events := rfl
      call := List.getElem?_set_self hlt
      others := fun k hk => List.getElem?_set_ne hk.symm }

/-- A step moves one call, or nothing. -/
theorem step_cases (s : Shared) (st : Step) :
    s.step st = s ∨ ∃ i op a, s.Moves (s.step st) i op a := by
  cases st with
  | start op => exact .inr ⟨_, op, _, s.start_moves op⟩
  | answer i t =>
      change s.answer i t = s ∨ ∃ i' op a, s.Moves (s.answer i t) i' op a
      cases hcall : s.calls[i]? with
      | none =>
          refine .inl ?_
          unfold answer
          rw [hcall]
      | some call =>
          cases hjob : call.rest.answered t with
          | none =>
              refine .inl ?_
              unfold answer
              rw [hcall]
              dsimp only
              rw [hjob]
          | some job => exact .inr ⟨i, call.operation, _, answer_moves hcall hjob⟩

/-! ## any number of steps -/

/-- What every move keeps is so after any number of steps. -/
theorem run_induction {P : Shared → Prop}
    (hmoves : ∀ {s s' : Shared} {i : Nat} {op : Operation} {a : Advance},
      s.Moves s' i op a → P s → P s') (hs : P s) (steps : List Step) : P (s.run steps) := by
  induction steps generalizing s with
  | nil => exact hs
  | cons st steps ih =>
      rcases s.step_cases st with heq | ⟨i, op, a, h⟩
      · exact ih (heq.symm ▸ hs)
      · exact ih (hmoves h hs)

/-- The events of some calls tell where they stand. -/
structure Sound (s : Shared) : Prop where
  mentioned : ∀ e ∈ s.events, e.call < s.calls.length
  service_eq : s.service = Event.service s.events
  /-- Each call took the turns that lead to where it stands. -/
  stands : ∀ (i : Nat) (call : Call), s.calls[i]? = some call →
    call.operation.job.Leads (Event.turnsOf i s.events) call.rest
  /-- It asked what it waits for, and does not wait to set the default service. -/
  waits : ∀ i op q next, s.calls[i]? = some ⟨op, .ask q next⟩ →
    .asked i q ∈ s.events ∧ ∀ known, q ≠ .cache known

/-- Nothing is wrong where nothing has begun. -/
theorem sound_new : Sound {} where
  mentioned := List.forall_mem_nil _
  service_eq := rfl
  stands _ _ h := absurd (List.getElem?_nil.symm.trans h) nofun
  waits _ _ _ _ h := absurd (List.getElem?_nil.symm.trans h) nofun

/-- A call that gets so far has taken these turns too. -/
theorem Gets.leads (h : s.Gets i op a) (hs : s.Sound) :
    op.job.Leads (Event.turnsOf i s.events ++ a.turns) a.rest := by
  cases h with
  | begun hi =>
      have hnone : Event.turnsOf i s.events = [] :=
        Event.turnsOf_eq_nil fun e he => Nat.ne_of_lt (hi ▸ hs.mentioned e he)
      rw [hnone]
      exact leads_advance _ _
  | goesOn hrest hjob =>
      exact (hs.stands i _ hrest).trans ((Job.leads_answered hjob).trans (leads_advance _ _))

/-- The default service is then the one that the call set last, if it set one: the answer
that it waited for sets none. -/
theorem Gets.service_eq (h : s.Gets i op a) (hs : s.Sound) :
    a.service = (Turn.kept a.turns).getLast?.getD s.service := by
  cases h with
  | begun hi => exact service_advance _ _
  | @goesOn rest job t hrest hjob =>
      cases rest with
      | done _ => cases hjob
      | ask q next =>
          obtain ⟨answer, rfl, rfl⟩ := Job.answered_ask_eq_some_iff.1 hjob
          rw [Turn.kept_cons (hs.waits i op q next hrest).2]
          exact service_advance _ _

theorem Moves.lt_length (h : s.Moves s' i op a) : i < s'.calls.length :=
  (List.getElem?_eq_some_iff.1 h.call).1

/-- Calls are never dropped. -/
theorem Moves.length_le (h : s.Moves s' i op a) : s.calls.length ≤ s'.calls.length := by
  refine Nat.le_of_not_lt fun hlt => ?_
  have hne : s'.calls.length ≠ i := Nat.ne_of_gt h.lt_length
  have hsome := h.others _ hne
  rw [List.getElem?_eq_none (Nat.le_refl _), List.getElem?_eq_getElem hlt] at hsome
  cases hsome

/-- One step keeps the calls where their events say that they stand. -/
theorem Moves.sound (h : s.Moves s' i op a) (hs : s.Sound) : s'.Sound where
  mentioned e he := by
    rw [h.events] at he
    rcases List.mem_append.1 he with he | he
    · exact Nat.lt_of_lt_of_le (hs.mentioned e he) h.length_le
    · exact (Advance.call_of_mem_events he).symm ▸ h.lt_length
  service_eq := by
    rw [h.service, h.gets.service_eq hs, hs.service_eq, h.events, Event.service, Event.service,
      Event.turns_append, Advance.turns_events, Turn.kept_append, List.getLast?_append]
    cases (Turn.kept a.turns).getLast? <;> rfl
  stands k call hcall := by
    rw [h.events, Event.turnsOf_append]
    by_cases hk : k = i
    · subst hk
      rw [h.call] at hcall
      cases hcall
      rw [Advance.turnsOf_events]
      exact h.gets.leads hs
    · rw [Advance.turnsOf_events_of_ne hk, List.append_nil]
      exact hs.stands k call (h.others k hk ▸ hcall)
  waits k op' q next hcall := by
    rw [h.events]
    by_cases hk : k = i
    · subst hk
      rw [h.call] at hcall
      obtain ⟨rfl, hrest⟩ := Call.mk.inj (Option.some.inj hcall)
      refine ⟨List.mem_append_right _ (Advance.asked_mem_events hrest), ?_⟩
      cases h.gets with
      | begun hi => exact ne_cache_of_rest_advance hrest
      | goesOn _ _ => exact ne_cache_of_rest_advance hrest
    · obtain ⟨hasked, hne⟩ := hs.waits k op' q next (h.others k hk ▸ hcall)
      exact ⟨List.mem_append_left _ hasked, hne⟩

/-- What is over does not get any further. -/
theorem Gets.waited (h : s.Gets i op a) {call : Call} (hcall : s.calls[i]? = some call) :
    call.operation = op ∧ call.rest.isDone = false := by
  cases h with
  | begun hi =>
      rw [← hi, List.getElem?_eq_none (Nat.le_refl _)] at hcall
      cases hcall
  | @goesOn rest job t hrest hjob =>
      cases hrest.symm.trans hcall
      cases rest with
      | done _ => cases hjob
      | ask q next => exact ⟨rfl, rfl⟩

/-- These events were added, and what was over stayed so. -/
structure Since (s s' : Shared) (later : List Event) : Prop where
  events : s'.events = s.events ++ later
  calls : ∀ (i : Nat) (call : Call), s.calls[i]? = some call →
    ∃ rest, s'.calls[i]? = some ⟨call.operation, rest⟩ ∧
      (call.rest.isDone → rest = call.rest ∧ ∀ e ∈ later, e.call ≠ i)

theorem Since.refl (s : Shared) : Since s s [] where
  events := (List.append_nil _).symm
  calls _ call h := ⟨call.rest, h, fun _ => ⟨rfl, List.forall_mem_nil _⟩⟩

/-- What has come to pass since is added up. -/
theorem Since.trans {s'' : Shared} {later later' : List Event} (h : Since s s' later)
    (h' : Since s' s'' later') : Since s s'' (later ++ later') where
  events := by rw [h'.events, h.events, List.append_assoc]
  calls i call hcall := by
    obtain ⟨rest, hrest, hover⟩ := h.calls i call hcall
    obtain ⟨rest', hrest', hover'⟩ := h'.calls i _ hrest
    refine ⟨rest', hrest', fun hdone => ?_⟩
    obtain ⟨rfl, hlater⟩ := hover hdone
    obtain ⟨rfl, hlater'⟩ := hover' hdone
    exact ⟨rfl, List.forall_mem_append.2 ⟨hlater, hlater'⟩⟩

/-- A step adds the events of one call. -/
theorem Moves.since (h : s.Moves s' i op a) : Since s s' (a.events i) where
  events := h.events
  calls k call hcall := by
    by_cases hk : k = i
    · subst hk
      obtain ⟨rfl, hwaits⟩ := h.gets.waited hcall
      exact ⟨a.rest, h.call, fun hdone => by rw [hwaits] at hdone; cases hdone⟩
    · exact ⟨call.rest, (h.others k hk).trans hcall, fun _ =>
        ⟨rfl, fun e he => (Advance.call_of_mem_events he).symm ▸ Ne.symm hk⟩⟩

/-- Whatever the steps are, what was before is still so. -/
theorem exists_since_run (s : Shared) (steps : List Step) :
    ∃ later, Since s (s.run steps) later :=
  run_induction (P := fun s' => ∃ later, Since s s' later)
    (fun hmoves ⟨_, hlater⟩ => ⟨_, hlater.trans hmoves.since⟩) ⟨[], .refl s⟩ steps

end Shared

end SlotUpload.Discovery
