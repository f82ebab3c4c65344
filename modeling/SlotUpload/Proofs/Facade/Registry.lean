import SlotUpload.Proofs.Facade.Errand
import SlotUpload.Proofs.Roster

/-!
# SlotUpload.Proofs.Facade.Registry

What happens to a registry whose listeners add, remove and send while they are told.  The
sendings that have begun and not ended are a stack, each with the listeners that are still
to be told; all that can happen to a registry is a change of its roster or one of three steps
that act on the top of the stack (`Reached`).  Whatever the listeners do, a run takes such steps
only, and leaves the stack as it found it (`Runs.arrives`).

So each moment fits those before it (`Fits`): a sending tells the listener that is next on
its snapshot, ends when there is none, and does neither while another one is going on that
began later.  What this comes to over all moments is `Registry.Consistent`.
-/

namespace SlotUpload

/-! ## what is seen in moments -/

namespace RegistryEvent

/-- What is asked for of the roster, if anything is. -/
def change? : RegistryEvent → Option (Roster.Change String)
  | added _ target _ => some (.add target)
  | removed _ target _ => some (.remove target)
  | _ => none

/-- The sending that goes on or ends, if one does. -/
def sending? : RegistryEvent → Option Nat
  | told sending _ _ => some sending
  | ended sending => some sending
  | _ => none

/-- Who is told in the course of a sending, if someone is. -/
def toldBy? (sending : Nat) : RegistryEvent → Option String
  | told s listener _ => if s = sending then some listener else none
  | _ => none

/-- Only a sending that goes on tells someone. -/
theorem toldBy?_eq_none {event : RegistryEvent} {sending : Nat}
    (h : event.sending? ≠ some sending) : event.toldBy? sending = none := by
  cases event with
  | told s listener notice => exact if_neg fun hs => h (congrArg some hs)
  | _ => rfl

/-- Someone is told by a sending exactly if the event says so. -/
theorem toldBy?_eq_some {event : RegistryEvent} {sending : Nat} {listener : String} :
    event.toldBy? sending = some listener ↔ ∃ notice, event = told sending listener notice := by
  cases event <;> simp [toldBy?]

end RegistryEvent

namespace Registry

def events (ms : List RegistryMoment) : List RegistryEvent := ms.map (·.event)

/-- What was asked for of the roster. -/
def changes (ms : List RegistryMoment) : List (Roster.Change String) :=
  (events ms).filterMap (·.change?)

/-- Who was told in the course of a sending, in order. -/
def told (sending : Nat) (ms : List RegistryMoment) : List String :=
  (events ms).filterMap (·.toldBy? sending)

/-- The sending of a notice begins at a moment, when `snapshot` is the roster. -/
def Begins (ms : List RegistryMoment) (sending : Nat) (notice : Notice)
    (snapshot : Roster String) : Prop :=
  ∃ actor, ms[sending]? = some ⟨.began actor notice, snapshot⟩

section Moments

variable {ms : List RegistryMoment} {m : RegistryMoment} {sending : Nat} {notice : Notice}
  {snapshot : Roster String}

@[simp] theorem events_concat : events (ms ++ [m]) = events ms ++ [m.event] := List.map_append

@[simp] theorem told_concat :
    told sending (ms ++ [m]) = told sending ms ++ (m.event.toldBy? sending).toList := by
  cases h : m.event.toldBy? sending <;> simp [told, h]

/-- A sending begins at one of the moments. -/
theorem Begins.lt (h : Begins ms sending notice snapshot) : sending < ms.length := by
  obtain ⟨actor, h⟩ := h
  exact (List.getElem?_eq_some_iff.1 h).1

/-- It has begun, also when more happens. -/
theorem Begins.concat (h : Begins ms sending notice snapshot) (m : RegistryMoment) :
    Begins (ms ++ [m]) sending notice snapshot := by
  have hlt := h.lt
  obtain ⟨actor, h⟩ := h
  exact ⟨actor, (List.getElem?_append_left hlt).trans h⟩

/-- A sending began before, or begins at the last moment. -/
theorem Begins.of_concat (h : Begins (ms ++ [m]) sending notice snapshot) :
    Begins ms sending notice snapshot ∨ (sending = ms.length ∧ ∃ actor,
      m = ⟨.began actor notice, snapshot⟩) := by
  have hlt := h.lt
  obtain ⟨actor, h⟩ := h
  rw [List.length_append, List.length_singleton] at hlt
  rcases Nat.lt_succ_iff_lt_or_eq.1 hlt with hlt | rfl
  · rw [List.getElem?_append_left hlt] at h
    exact .inl ⟨actor, h⟩
  · rw [List.getElem?_concat_length] at h
    exact .inr ⟨rfl, actor, Option.some.inj h⟩

/-- A sending has begun by a moment if it began before it. -/
theorem begins_take_iff {k : Nat} : Begins (ms.take k) sending notice snapshot ↔
    sending < k ∧ Begins ms sending notice snapshot := by
  simp only [Begins, List.getElem?_take]
  by_cases hlt : sending < k <;> simp [hlt]

theorem exists_of_mem_events {event : RegistryEvent} (h : event ∈ events ms) :
    ∃ (k : Nat) (m : RegistryMoment), ms[k]? = some m ∧ m.event = event := by
  obtain ⟨m, hm, rfl⟩ := List.mem_map.1 h
  obtain ⟨k, hk⟩ := List.mem_iff_getElem?.1 hm
  exact ⟨k, m, hk, rfl⟩

end Moments

/-! ## the steps of a registry -/

/-- A sending that has not ended, and who is still to be told. -/
structure Open where
  sending : Nat
  notice : Notice
  rest : List String

/-- Moments that can be reached from none, with the sendings that go on, the one that began
last in front. -/
inductive Reached : List RegistryMoment → List Open → Prop
  | new : Reached [] []
  | change {ms : List RegistryMoment} {stack : List Open} {event : RegistryEvent}
    {roster : Roster String} : Reached ms stack →
      RegistryMoment.Follows ⟨event, roster⟩ (rosterAfter ms) → event.sending? = none →
      (∀ actor notice, event ≠ .began actor notice) → Reached (ms ++ [⟨event, roster⟩]) stack
  | began {ms : List RegistryMoment} {stack : List Open} (actor : Option String)
    (notice : Notice) : Reached ms stack →
      Reached (note ms (.began actor notice)) (⟨ms.length, notice, rosterAfter ms⟩ :: stack)
  | told {ms : List RegistryMoment} {stack : List Open} {sending : Nat} {notice : Notice}
    {listener : String} {rest : List String} :
      Reached ms (⟨sending, notice, listener :: rest⟩ :: stack) →
      Reached (note ms (.told sending listener notice)) (⟨sending, notice, rest⟩ :: stack)
  | ended {ms : List RegistryMoment} {stack : List Open} {sending : Nat} {notice : Notice} :
    Reached ms (⟨sending, notice, []⟩ :: stack) → Reached (note ms (.ended sending)) stack

/-- What was done comes to an end with these sendings going on, or stops somewhere. -/
def Arrives (stack : List Open) : Except (List RegistryMoment) (List RegistryMoment) → Prop
  | .ok ms => Reached ms stack
  | .error ms => ∃ stack, Reached ms stack

/-- The sendings that go on when something is begun inside of others. -/
def Deed.before (stack : List Open) : Deed → List Open
  | .telling sending notice rest => ⟨sending, notice, rest⟩ :: stack
  | _ => stack

/-- The sendings that go on when it has been done. -/
def Deed.after (stack : List Open) : Deed → List Open
  | .telling sending notice _ => ⟨sending, notice, []⟩ :: stack
  | _ => stack

/-- The registry as a run leaves it, at its end or where it stops. -/
def leave : Except Registry Registry → Registry
  | .ok r => r
  | .error r => r

/-- However a run is left, it comes to moments that can be reached. -/
theorem Arrives.exists_reached_leave {stack : List Open}
    {out : Except (List RegistryMoment) (List RegistryMoment)} (h : Arrives stack out) :
    ∃ ms stack, leave (kept out) = ofMoments ms ∧ Reached ms stack := by
  cases out with
  | ok ms => exact ⟨ms, stack, rfl, h⟩
  | error ms =>
      obtain ⟨stack, h⟩ := h
      exact ⟨ms, stack, rfl, h⟩

/-- Whatever is done leaves the other sendings that go on as they were, however deep it goes;
and telling the listeners that are left leaves none. -/
theorem Runs.arrives {manners : Manners} {deed : Deed} {ms : List RegistryMoment}
    {out : Except (List RegistryMoment) (List RegistryMoment)} (h : Runs manners deed ms out)
    (stack : List Open) (hms : Reached ms (deed.before stack)) :
    Arrives (deed.after stack) out := by
  induction h generalizing stack with
  | add hfollows | remove hfollows => exact Reached.change hms hfollows rfl (by simp)
  | fire _ ih => exact Reached.ended (ih stack (.began _ _ hms))
  | fireStops _ ih => exact ih stack (.began _ _ hms)
  | tooDeep => exact ⟨stack, hms⟩
  | done | allTold => exact hms
  | step _ _ ihcommand ihrest => exact ihrest stack (ihcommand stack hms)
  | stepStops _ ih => exact ih stack hms
  | @tell _ _ _ sending notice _ rest _ _ ihtold ihrest =>
      exact ihrest stack (ihtold (⟨sending, notice, rest⟩ :: stack) (.told hms))
  | @tellStops _ _ sending notice _ rest _ ih =>
      exact ih (⟨sending, notice, rest⟩ :: stack) (.told hms)

/-! ## how moments fit -/

/-- What happens next in the course of a sending, if it is part of one: the sending has not
ended, but all have that began later; the listener who is told is the next on the snapshot,
and there is none when it ends. -/
def Continues (ms : List RegistryMoment) (event : RegistryEvent) : Prop :=
  ∀ sending, event.sending? = some sending → ∃ notice snapshot,
    Begins ms sending notice snapshot ∧ .ended sending ∉ events ms ∧
      (∀ other notice snapshot, sending < other → Begins ms other notice snapshot →
        .ended other ∈ events ms) ∧
      match event with
      | .told _ listener notice' => notice' = notice ∧ told sending ms ++ [listener] <+: snapshot
      | _ => told sending ms = snapshot

/-- A moment that may come after these. -/
structure Fits (ms : List RegistryMoment) (m : RegistryMoment) : Prop where
  follows : m.Follows (rosterAfter ms)
  continues : Continues ms m.event

/-- Moments of which each fits those before it. -/
def Orderly (ms : List RegistryMoment) : Prop :=
  ∀ k m, ms[k]? = some m → Fits (ms.take k) m

/-- A sending that goes on: these are still to be told. -/
structure Open.Fits (o : Open) (ms : List RegistryMoment) : Prop where
  begun : ∃ snapshot, Begins ms o.sending o.notice snapshot ∧ told o.sending ms ++ o.rest = snapshot
  not_ended : .ended o.sending ∉ events ms

/-- What can be said of what happened and the sendings that go on. -/
structure Standing (ms : List RegistryMoment) (stack : List Open) : Prop where
  orderly : Orderly ms
  /-- Sendings go on that began earlier the further down they are. -/
  pairwise : stack.Pairwise fun inner outer => outer.sending < inner.sending
  going : ∀ o ∈ stack, o.Fits ms
  /-- All others have ended. -/
  settled : ∀ sending notice snapshot, Begins ms sending notice snapshot →
    sending ∈ stack.map (·.sending) ∨ .ended sending ∈ events ms

section Standing

variable {ms : List RegistryMoment} {m : RegistryMoment} {stack : List Open}
  {o : Open} {sending : Nat} {notice : Notice} {snapshot : Roster String}

theorem orderly_nil : Orderly [] := by
  intro k m hk
  rw [List.getElem?_nil] at hk
  cases hk

theorem Orderly.concat (h : Orderly ms) (hm : Fits ms m) : Orderly (ms ++ [m]) := by
  intro k m' hk
  rcases Nat.lt_trichotomy k ms.length with hlt | rfl | hgt
  · rw [List.getElem?_append_left hlt] at hk
    rw [List.take_append_of_le_length (Nat.le_of_lt hlt)]
    exact h k m' hk
  · rw [List.getElem?_concat_length] at hk
    cases hk
    rwa [List.take_left]
  · rw [List.getElem?_eq_none (by simp; omega)] at hk
    cases hk

/-- What goes on or ends at a moment began before it. -/
theorem Orderly.begun (h : Orderly ms) {k : Nat} (hk : ms[k]? = some m)
    (hsending : m.event.sending? = some sending) :
    sending < k ∧ ∃ notice snapshot, Begins ms sending notice snapshot := by
  obtain ⟨notice, snapshot, hbegins, -⟩ := (h k m hk).continues sending hsending
  obtain ⟨hlt, hbegins⟩ := begins_take_iff.1 hbegins
  exact ⟨hlt, notice, snapshot, hbegins⟩

/-- No one is told in the course of what never began. -/
theorem Orderly.told_eq_nil (h : Orderly ms) (hlt : ms.length ≤ sending) :
    told sending ms = [] := by
  refine List.filterMap_eq_nil_iff.2 fun event hevent => ?_
  obtain ⟨k, m, hk, rfl⟩ := exists_of_mem_events hevent
  refine RegistryEvent.toldBy?_eq_none fun hsending => ?_
  have := (List.getElem?_eq_some_iff.1 hk).1
  have := (h.begun hk hsending).1
  omega

/-- What never began has not ended. -/
theorem Orderly.not_ended (h : Orderly ms) (hlt : ms.length ≤ sending) :
    .ended sending ∉ events ms := by
  intro hevent
  obtain ⟨k, m, hk, hm⟩ := exists_of_mem_events hevent
  have := (List.getElem?_eq_some_iff.1 hk).1
  have hsending : m.event.sending? = some sending := hm ▸ rfl
  have := (h.begun hk hsending).1
  omega

/-- Nothing changes for a sending that a moment is not about. -/
theorem Open.Fits.concat (h : o.Fits ms) (hm : m.event.sending? ≠ some o.sending) :
    o.Fits (ms ++ [m]) where
  begun := by
    obtain ⟨snapshot, hbegins, htold⟩ := h.begun
    refine ⟨snapshot, hbegins.concat m, ?_⟩
    rwa [told_concat, RegistryEvent.toldBy?_eq_none hm, Option.toList_none, List.append_nil]
  not_ended := by
    rw [events_concat, List.mem_append, List.mem_singleton]
    rintro (hmem | heq)
    · exact h.not_ended hmem
    · exact hm (heq ▸ rfl)

/-- A sending goes on or has ended, also after a moment at which none begins. -/
theorem Standing.settled_concat (h : Standing ms stack)
    (hm : ∀ actor notice, m.event ≠ .began actor notice)
    (hbegins : Begins (ms ++ [m]) sending notice snapshot) :
    sending ∈ stack.map (·.sending) ∨ .ended sending ∈ events (ms ++ [m]) := by
  rcases hbegins.of_concat with hbegins | ⟨-, actor, rfl⟩
  · exact (h.settled _ _ _ hbegins).imp_right fun hended => by simp [hended]
  · exact absurd rfl (hm _ _)

/-- The roster may change while sendings go on. -/
theorem Standing.change (h : Standing ms stack) {event : RegistryEvent} {roster : Roster String}
    (hfollows : RegistryMoment.Follows ⟨event, roster⟩ (rosterAfter ms))
    (hsending : event.sending? = none) (hbegan : ∀ actor notice, event ≠ .began actor notice) :
    Standing (ms ++ [⟨event, roster⟩]) stack where
  orderly := h.orderly.concat
    { follows := hfollows
      continues := by
        intro sending hs
        cases hsending.symm.trans hs }
  pairwise := h.pairwise
  going o ho := (h.going o ho).concat (by simp [hsending])
  settled _ _ _ := h.settled_concat hbegan

/-- A sending that begins is the last one that has begun. -/
theorem Standing.began (h : Standing ms stack) (actor : Option String) (notice : Notice) :
    Standing (note ms (.began actor notice)) (⟨ms.length, notice, rosterAfter ms⟩ :: stack) where
  orderly := h.orderly.concat { follows := rfl, continues := nofun }
  pairwise := by
    refine List.pairwise_cons.2 ⟨fun o ho => ?_, h.pairwise⟩
    obtain ⟨snapshot, hbegins, -⟩ := (h.going o ho).begun
    exact hbegins.lt
  going := by
    refine List.forall_mem_cons.2 ⟨?_, fun o ho => (h.going o ho).concat nofun⟩
    constructor
    · refine ⟨rosterAfter ms, ⟨actor, List.getElem?_concat_length⟩, ?_⟩
      simp [note, h.orderly.told_eq_nil (Nat.le_refl _), RegistryEvent.toldBy?]
    · simp [note, h.orderly.not_ended (Nat.le_refl _)]
  settled := by
    intro sending notice' snapshot hbegins
    rcases Begins.of_concat hbegins with hbegins | ⟨rfl, -⟩
    · exact (h.settled _ _ _ hbegins).imp (List.mem_cons_of_mem _) fun hended => by
        simp [note, hended]
    · exact .inl List.mem_cons_self

section Top

variable {rest : List String}

/-- Only the sending goes on that began last. -/
theorem Standing.ended_of_lt (h : Standing ms (⟨sending, notice, rest⟩ :: stack)) {other : Nat}
    {notice' : Notice} (hlt : sending < other)
    (hbegins : Begins ms other notice' snapshot) : .ended other ∈ events ms := by
  rcases h.settled _ _ _ hbegins with hopen | hended
  · rcases List.mem_cons.1 hopen with rfl | hopen
    · exact absurd hlt (Nat.lt_irrefl _)
    · obtain ⟨o, ho, rfl⟩ := List.mem_map.1 hopen
      exact absurd hlt (Nat.lt_asymm ((List.pairwise_cons.1 h.pairwise).1 o ho))
  · exact hended

/-- Nothing changes for the others while it goes on or ends. -/
theorem Standing.going_below (h : Standing ms (⟨sending, notice, rest⟩ :: stack))
    (hm : m.event.sending? = some sending) : ∀ o ∈ stack, o.Fits (ms ++ [m]) := by
  intro o ho
  have hlt : o.sending < sending := (List.pairwise_cons.1 h.pairwise).1 o ho
  refine (h.going o (List.mem_cons_of_mem _ ho)).concat fun hsending => ?_
  exact Nat.ne_of_gt hlt (Option.some.inj (hm.symm.trans hsending))

/-- Whoever is told is the next one of those who are left. -/
theorem Standing.told {listener : String}
    (h : Standing ms (⟨sending, notice, listener :: rest⟩ :: stack)) :
    Standing (note ms (.told sending listener notice)) (⟨sending, notice, rest⟩ :: stack) := by
  obtain ⟨⟨snapshot, hbegins, htold⟩, hended⟩ := h.going _ List.mem_cons_self
  constructor
  · refine h.orderly.concat { follows := rfl, continues := ?_ }
    rintro _ ⟨⟩
    refine ⟨notice, snapshot, hbegins, hended, fun _ _ _ => h.ended_of_lt, rfl, rest, ?_⟩
    rw [← htold, List.append_assoc, List.singleton_append]
  · exact List.pairwise_cons.2 (List.pairwise_cons.1 h.pairwise)
  · refine List.forall_mem_cons.2 ⟨?_, h.going_below rfl⟩
    constructor
    · refine ⟨snapshot, hbegins.concat _, ?_⟩
      rw [← htold]
      simp [note, RegistryEvent.toldBy?]
    · simp [note, hended]
  · exact fun _ _ _ => h.settled_concat (by simp)

/-- The sending that began last ends first, when none of its snapshot is left. -/
theorem Standing.ended (h : Standing ms (⟨sending, notice, []⟩ :: stack)) :
    Standing (note ms (.ended sending)) stack := by
  obtain ⟨⟨snapshot, hbegins, htold⟩, hended⟩ := h.going _ List.mem_cons_self
  constructor
  · refine h.orderly.concat { follows := rfl, continues := ?_ }
    rintro _ ⟨⟩
    rw [List.append_nil] at htold
    exact ⟨notice, snapshot, hbegins, hended, fun _ _ _ => h.ended_of_lt, htold⟩
  · exact (List.pairwise_cons.1 h.pairwise).2
  · exact h.going_below rfl
  · intro other notice' snapshot' hother
    rcases h.settled_concat (by simp) hother with hopen | hended
    · rcases List.mem_cons.1 hopen with rfl | hopen
      · exact .inr (by simp [note])
      · exact .inl hopen
    · exact .inr hended

end Top

/-- By induction on the steps: all moments that can be reached stand so. -/
theorem Reached.standing (h : Reached ms stack) : Standing ms stack := by
  induction h with
  | new =>
      exact {
        orderly := orderly_nil
        pairwise := .nil
        going := by simp
        settled := fun _ _ _ hbegins => absurd hbegins.lt (Nat.not_lt_zero _) }
  | change _ hfollows hsending hbegan ih => exact ih.change hfollows hsending hbegan
  | began actor notice _ ih => exact ih.began actor notice
  | told _ ih => exact ih.told
  | ended _ ih => exact ih.ended

end Standing

/-! ## a whole course -/

/-- This is what happens at a moment. -/
def Happens (ms : List RegistryMoment) (k : Nat) (event : RegistryEvent) : Prop :=
  ∃ roster, ms[k]? = some ⟨event, roster⟩

/-- What becomes of a sending that began at a moment, when `snapshot` was the roster. -/
structure Sent (ms : List RegistryMoment) (sending : Nat) (notice : Notice)
    (snapshot : Roster String) : Prop where
  snapshot_eq : snapshot = rosterAfter (ms.take sending)
  notice_eq : ∀ k listener notice', Happens ms k (.told sending listener notice') →
    notice' = notice
  /-- Nobody else is told, in no other order and not twice. -/
  told_prefix : told sending ms <+: snapshot
  told_nodup : (told sending ms).Nodup
  /-- When it has ended, all were told, and no one is told after that. -/
  told_eq : .ended sending ∈ events ms → told sending ms = snapshot
  silent : ∀ i k event, Happens ms i (.ended sending) → i < k → Happens ms k event →
    event.sending? ≠ some sending
  /-- A sending that began later ends before this one goes on. -/
  nested : ∀ other k event notice' snapshot', sending < other → other < k →
    Begins ms other notice' snapshot' → Happens ms k event → event.sending? = some sending →
      ∃ i, other < i ∧ i < k ∧ Happens ms i (.ended other)

/-- What holds of a registry whatever its listeners do.  The roster after some of its moments
is the roster as it was then. -/
structure Consistent (r : Registry) : Prop where
  roster_eq : r.roster = rosterAfter r.moments
  /-- At every moment the roster is that of all who are registered, each once, in the order of
  their registration. -/
  faithful : ∀ k, Roster.Faithful (changes (r.moments.take k)) (rosterAfter (r.moments.take k))
  follows : ∀ (k : Nat) (m : RegistryMoment), r.moments[k]? = some m →
    m.Follows (rosterAfter (r.moments.take k))
  begun : ∀ k event sending, Happens r.moments k event → event.sending? = some sending →
    sending < k ∧ ∃ notice snapshot, Begins r.moments sending notice snapshot
  sent : ∀ sending notice snapshot, Begins r.moments sending notice snapshot →
    Sent r.moments sending notice snapshot

section Orderly

variable {ms : List RegistryMoment} {m : RegistryMoment} {k sending : Nat} {event : RegistryEvent}
  {notice notice' : Notice} {snapshot snapshot' : Roster String}

/-- A sending has one notice and one snapshot. -/
theorem Begins.unique (h : Begins ms sending notice snapshot)
    (h' : Begins ms sending notice' snapshot') : notice' = notice ∧ snapshot' = snapshot := by
  obtain ⟨actor, h⟩ := h
  obtain ⟨actor', h'⟩ := h'
  cases h.symm.trans h'
  exact ⟨rfl, rfl⟩

/-- What happens before a moment is among the events up to it. -/
theorem Happens.mem_events_take {i : Nat} (h : Happens ms k event) (hlt : k < i) :
    event ∈ events (ms.take i) := by
  obtain ⟨roster, h⟩ := h
  have hmem : ⟨event, roster⟩ ∈ ms.take i :=
    List.mem_iff_getElem?.2 ⟨k, (List.getElem?_take_of_lt hlt).trans h⟩
  exact List.mem_map_of_mem hmem

theorem exists_of_mem_events_take {i : Nat} (h : event ∈ events (ms.take i)) :
    ∃ k < i, Happens ms k event := by
  obtain ⟨k, m, hk, rfl⟩ := exists_of_mem_events h
  rw [List.getElem?_take] at hk
  split at hk
  · next hlt => exact ⟨k, hlt, m.roster, hk⟩
  · cases hk

/-- What is asked for of the roster at a moment is what becomes of it. -/
theorem faithful_of_follows (h : Roster.Faithful (changes ms) (rosterAfter ms))
    (hm : m.Follows (rosterAfter ms)) : Roster.Faithful (changes (ms ++ [m])) m.roster := by
  obtain ⟨event, roster⟩ := m
  have hchanges : changes (ms ++ [⟨event, roster⟩]) = changes ms ++ event.change?.toList := by
    cases hchange : event.change? <;> simp [changes, hchange]
  rw [hchanges]
  cases event with
  | added actor target changed =>
      have hroster : roster = (rosterAfter ms).apply (.add target) :=
        congrArg Prod.snd (follows_added_iff.1 hm)
      rw [hroster]
      exact h.apply _
  | removed actor target changed =>
      have hroster : roster = (rosterAfter ms).apply (.remove target) :=
        congrArg Prod.snd (follows_removed_iff.1 hm)
      rw [hroster]
      exact h.apply _
  | _ =>
      have hroster : roster = rosterAfter ms := hm
      rw [hroster]
      exact (List.append_nil (changes ms)).symm ▸ h

/-- The beginning of orderly moments is orderly. -/
theorem Orderly.take (h : Orderly ms) (k : Nat) : Orderly (ms.take k) := by
  intro j m hj
  rw [List.getElem?_take] at hj
  split at hj
  · next hlt =>
      rw [List.take_take, Nat.min_eq_left (Nat.le_of_lt hlt)]
      exact h j m hj
  · cases hj

theorem Orderly.of_concat (h : Orderly (ms ++ [m])) : Orderly ms ∧ Fits ms m := by
  have hms := h.take ms.length
  have hm := h ms.length m List.getElem?_concat_length
  rw [List.take_left] at hms hm
  exact ⟨hms, hm⟩

/-- The roster is faithful to what was asked of it. -/
theorem Orderly.faithful (h : Orderly ms) : Roster.Faithful (changes ms) (rosterAfter ms) := by
  induction ms using List.reverseRecOn with
  | nil => exact Roster.faithful_nil
  | append_singleton ms m ih =>
      obtain ⟨hms, hm⟩ := h.of_concat
      rw [rosterAfter_concat]
      exact faithful_of_follows (ih hms) hm.follows

/-- The listeners that are told are those of the snapshot, one after another. -/
theorem Orderly.told_prefix (h : Orderly ms) (hbegins : Begins ms sending notice snapshot) :
    told sending ms <+: snapshot := by
  induction ms using List.reverseRecOn with
  | nil => exact absurd hbegins.lt (Nat.not_lt_zero _)
  | append_singleton ms m ih =>
      obtain ⟨hms, hm⟩ := h.of_concat
      rw [told_concat]
      rcases hbegins.of_concat with hbegins | ⟨rfl, actor, rfl⟩
      · cases htold : m.event.toldBy? sending with
        | none => simpa using ih hms hbegins
        | some listener =>
            obtain ⟨notice', hevent⟩ := RegistryEvent.toldBy?_eq_some.1 htold
            have hcontinues := hm.continues
            rw [hevent] at hcontinues
            obtain ⟨_, _, hbegins', -, -, -, hnext⟩ := hcontinues sending rfl
            exact (hbegins.unique hbegins').2 ▸ hnext
      · rw [hms.told_eq_nil (Nat.le_refl _)]
        exact List.nil_prefix

/-- A sending goes as it should. -/
theorem Orderly.sent (h : Orderly ms) (hbegins : Begins ms sending notice snapshot) :
    Sent ms sending notice snapshot := by
  have hsnapshot : snapshot = rosterAfter (ms.take sending) := by
    obtain ⟨actor, hbegins⟩ := hbegins
    exact (h sending _ hbegins).follows
  have hprefix := h.told_prefix hbegins
  constructor
  · exact hsnapshot
  · rintro k listener notice' ⟨roster, hk⟩
    obtain ⟨_, _, hbegins', -, -, rfl, -⟩ := (h k _ hk).continues sending rfl
    exact (hbegins.unique (begins_take_iff.1 hbegins').2).1
  · exact hprefix
  · exact (hsnapshot ▸ (h.take sending).faithful.nodup).sublist hprefix.sublist
  · intro hended
    obtain ⟨k, m, hk, hm⟩ := exists_of_mem_events hended
    have hcontinues := (h k m hk).continues
    rw [hm] at hcontinues
    obtain ⟨_, _, hbegins', -, -, htold⟩ := hcontinues sending rfl
    have htold : told sending (ms.take k) = snapshot :=
      (hbegins.unique (begins_take_iff.1 hbegins').2).2 ▸ htold
    have hall : told sending (ms.take k) <+: told sending ms :=
      ((List.take_prefix k ms).map _).filterMap _
    exact hprefix.eq_of_length_le (htold ▸ hall.length_le)
  · rintro i k event hended hlt ⟨roster, hk⟩ hsending
    obtain ⟨_, _, -, hnot, -⟩ := (h k _ hk).continues sending hsending
    exact hnot (hended.mem_events_take hlt)
  · rintro other k event notice' snapshot' hlt hltk hother ⟨roster, hk⟩ hsending
    obtain ⟨_, _, -, -, hlater, -⟩ := (h k _ hk).continues sending hsending
    obtain ⟨i, hi, roster', hended⟩ :=
      exists_of_mem_events_take (hlater other _ _ hlt (begins_take_iff.2 ⟨hltk, hother⟩))
    exact ⟨i, (h.begun hended rfl).1, hi, roster', hended⟩

/-- What stands in order is consistent. -/
theorem Standing.consistent {stack : List Open} (h : Standing ms stack) :
    Consistent (ofMoments ms) where
  roster_eq := rfl
  faithful k := (h.orderly.take k).faithful
  follows k m hk := (h.orderly k m hk).follows
  begun := by
    rintro k event sending ⟨roster, hk⟩ hsending
    exact h.orderly.begun hk hsending
  sent _ _ _ := h.orderly.sent

end Orderly

/-- **Consistency**: whatever the listeners do, however deep they send notices inside notices,
each thing that is done makes the moments that it should, and nothing else does, all the way to
the end of the errand or to a notice that would go too deep.  The registry is consistent all
the time; and when a run has come to its end, every notice has been sent to all who were
registered when its sending began. -/
theorem run_consistent (manners : Manners) (errand : Errand) :
    (∀ depth, ∃ out, run manners depth errand = kept out ∧
      Runs manners (.errand none errand) [] out) ∧
    (∀ ms, (∃ depth, run manners depth errand = .ok (ofMoments ms)) ↔
      Runs manners (.errand none errand) [] (.ok ms)) ∧
    (∀ depth, (leave (run manners depth errand)).Consistent) ∧
    (∀ depth r, run manners depth errand = .ok r →
      (∀ deeper, depth ≤ deeper → run manners deeper errand = .ok r) ∧
      ∀ sending notice snapshot, Begins r.moments sending notice snapshot →
        .ended sending ∈ events r.moments ∧ told sending r.moments = snapshot) ∧
    ∀ r actor target, Answered r (.added actor target) (add r actor target) ∧
      Answered r (.removed actor target) (remove r actor target) := by
  have hrealizes : ∀ depth, Realizes manners (.errand none errand) [] (run manners depth errand) :=
    fun depth => realizes_perform (realizes_fire manners depth) none errand []
  have harrives : ∀ {out}, Runs manners (.errand none errand) [] out → Arrives [] out :=
    fun hruns => hruns.arrives [] .new
  refine ⟨hrealizes, fun ms => ⟨?_, Runs.exists_depth⟩, fun depth => ?_, fun depth r hrun => ⟨?_, ?_⟩,
    fun r actor target => ⟨answered_add r actor target, answered_remove r actor target⟩⟩
  · rintro ⟨depth, hrun⟩
    obtain ⟨ms', hms', hruns⟩ := (hrun ▸ hrealizes depth).exists_runs
    obtain rfl : ms = ms' := congrArg moments hms'
    exact hruns
  · obtain ⟨out, hout, hruns⟩ := hrealizes depth
    obtain ⟨ms, stack, hleave, hreached⟩ := (harrives hruns).exists_reached_leave
    rw [hout, hleave]
    exact hreached.standing.consistent
  · intro deeper h
    exact matches_perform (matches_fire h) none errand {} r hrun
  · intro sending notice snapshot hbegins
    obtain ⟨ms, rfl, hruns⟩ := (hrun ▸ hrealizes depth).exists_runs
    have hstanding := Reached.standing (harrives hruns)
    have hended := (hstanding.settled _ _ _ hbegins).resolve_left List.not_mem_nil
    exact ⟨hended, (hstanding.orderly.sent hbegins).told_eq hended⟩

/-- While a listener is told of a request, it removes another one, adds a third and sends a
notice of its own.  That notice goes to the new one and not to the one that was removed; the
outer one then goes on to the latter. -/
theorem run_consistent_nested :
    let request : IncomingRequest :=
      ⟨"r0", "romeo@montague.lit", { scheme := "a", authority := none, path := .text "" }⟩
    let outer : Notice := .received request
    let inner : Notice := .rejected request
    let manners : Manners := fun _ listener notice =>
      if listener = "first" ∧ notice = outer then
        .step (.remove "second") fun _ => .step (.add "late") fun _ =>
          .step (.fire inner) fun _ => .done
      else .done
    let errand : Errand := .step (.add "first") fun _ => .step (.add "second") fun _ =>
      .step (.fire outer) fun _ => .done
    let moments : List RegistryMoment := [
      ⟨.added none "first" true, ["first"]⟩,
      ⟨.added none "second" true, ["first", "second"]⟩,
      ⟨.began none outer, ["first", "second"]⟩,
      ⟨.told 2 "first" outer, ["first", "second"]⟩,
      ⟨.removed (some "first") "second" true, ["first"]⟩,
      ⟨.added (some "first") "late" true, ["first", "late"]⟩,
      ⟨.began (some "first") inner, ["first", "late"]⟩,
      ⟨.told 6 "first" inner, ["first", "late"]⟩,
      ⟨.told 6 "late" inner, ["first", "late"]⟩,
      ⟨.ended 6, ["first", "late"]⟩,
      ⟨.told 2 "second" outer, ["first", "late"]⟩,
      ⟨.ended 2, ["first", "late"]⟩]
    run manners 2 errand = .ok (ofMoments moments) ∧
      Runs manners (.errand none errand) [] (.ok moments) ∧ (ofMoments moments).Consistent ∧
      told 2 moments = ["first", "second"] ∧ told 6 moments = ["first", "late"] := by
  intro request outer inner manners errand moments
  have hrun : run manners 2 errand = .ok (ofMoments moments) := rfl
  obtain ⟨-, hruns, hconsistent, hended, -⟩ := run_consistent manners errand
  obtain ⟨-, hall⟩ := hended 2 _ hrun
  have hleft : (leave (run manners 2 errand)).Consistent := hconsistent 2
  rw [hrun] at hleft
  exact ⟨hrun, (hruns moments).1 ⟨2, hrun⟩, hleft, (hall 2 outer _ ⟨none, rfl⟩).2,
    (hall 6 inner _ ⟨some "first", rfl⟩).2⟩

end Registry

end SlotUpload
