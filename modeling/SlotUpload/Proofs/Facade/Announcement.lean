import SlotUpload.Facade.Audience
import SlotUpload.Proofs.Facade.Sending
import SlotUpload.Proofs.Roster
import SlotUpload.Proofs.Transfer.Delivery

/-!
# SlotUpload.Proofs.Facade.Announcement

What comes of a call to send a file, and when.  A file that is not fit to be sent is turned
down with nothing done but to look at it (`Refused`).  Else the listeners are told of a new
transfer, each once, and nothing but a cancellation by one of them can happen to it before
all of them have been told; the session, the messenger and the servers are asked only then
(`Announced`).

The telling is followed listener by listener (`Fanned`); what the task does after that is
one more thing that is kept by every answer (`Continues`).
-/

namespace SlotUpload

/-- Does a query go to the session, to a contact or room, or to a server? -/
def Query.IsOutward : Query → Prop
  | .items _ | .info _ | .request _ _ | .deliver _ _ | .exchange _ => True
  | _ => False

namespace Facade

/-! ## what is seen -/

namespace Happening

/-- Who is told of what, if someone is. -/
def telling? : Happening → Option (String × Notice)
  | told listener notice => some (listener, notice)
  | asked _ => none

/-- Who is told of what, one after another. -/
def tellings (course : List Happening) : List (String × Notice) := course.filterMap telling?

variable {course later : List Happening}

@[simp] theorem tellings_nil : tellings [] = [] := rfl

@[simp] theorem tellings_append :
    tellings (course ++ later) = tellings course ++ tellings later := List.filterMap_append ..

@[simp] theorem tellings_asked (q : Query) : tellings (asked q :: course) = tellings course := rfl

@[simp] theorem tellings_told (listener : String) (notice : Notice) :
    tellings (told listener notice :: course) = (listener, notice) :: tellings course := rfl

/-- Is this seen while listeners are told of a transfer?  They are told, or the transfer is
canceled. -/
def IsFanout (t : Transfer) (x : Happening) : Prop :=
  (∃ listener, x = told listener (.created t)) ∨ x = asked (.log t.canceledEntry)

/-- Telling listeners and canceling a transfer asks nothing of the outside. -/
theorem IsFanout.not_outward {t : Transfer} {q : Query} (h : (asked q).IsFanout t) :
    ¬ q.IsOutward := by
  rcases h with ⟨listener, h⟩ | h
  · cases h
  · cases h
    exact id

end Happening

open Happening

/-! ## telling the listeners -/

section Fanout

variable {σ : Type} {answer : Answerer σ} {audience : Audience σ} {t : Transfer}
  {listeners : List String} {canceled : Prop} {before h : Attended σ}

/-- What a listener does who is told of the transfer after these others, going by how things
stand then. -/
def responses (answer : Answerer σ) (audience : Audience σ) (t : Transfer) (before : Attended σ)
    (earlier : List String) (listener : String) : List (Response σ) :=
  let h := earlier.foldl (Attended.tell answer audience (.created t)) before
  audience listener (.created t) { h with course := h.course ++ [.told listener (.created t)] }

/-- Does one of these listeners cancel the transfer when it is told? -/
def Cancels (answer : Answerer σ) (audience : Audience σ) (t : Transfer) (before : Attended σ)
    (listeners : List String) : Prop :=
  ∃ earlier listener later, listeners = earlier ++ listener :: later ∧
    .cancel ∈ responses answer audience t before earlier listener

/-- One more listener may be the one who cancels. -/
theorem cancels_concat_iff {listener : String} :
    Cancels answer audience t before (listeners ++ [listener]) ↔
      Cancels answer audience t before listeners ∨
        .cancel ∈ responses answer audience t before listeners listener := by
  constructor
  · rintro ⟨earlier, other, later, hsplit, hcancel⟩
    rcases List.eq_nil_or_concat later with rfl | ⟨later, last, rfl⟩
    · obtain ⟨rfl, hlast⟩ := List.append_inj' hsplit rfl
      cases hlast
      exact .inr hcancel
    · rw [List.concat_eq_append, ← List.cons_append, ← List.append_assoc] at hsplit
      exact .inl ⟨earlier, other, later, (List.append_inj' hsplit rfl).1, hcancel⟩
  · rintro (⟨earlier, other, later, rfl, hcancel⟩ | hcancel)
    · exact ⟨earlier, other, later ++ [listener], by simp, hcancel⟩
    · exact ⟨listeners, listener, [], rfl, hcancel⟩

variable (t listeners canceled before h) in
/-- How things stand when these listeners have been told of the transfer, and one of them has
canceled it or none has. -/
structure Fanned : Prop where
  course : ∃ fan, h.course = before.course ++ fan ∧
    tellings fan = listeners.map (·, .created t) ∧ ∀ x ∈ fan, x.IsFanout t
  newest : (h.newest = some t ∧ ¬ canceled) ∨ (h.newest = some t.cancel.1 ∧ canceled)

/-- Whatever a listener does, the transfer is canceled at most. -/
theorem Fanned.respond (hfanned : Fanned t listeners canceled before h)
    (ht : t.status.isTerminal = false) (response : Response σ) :
    Fanned t listeners (canceled ∨ response = .cancel) before (h.respond answer response) := by
  cases response with
  | add _ | remove _ | other _ =>
      exact ⟨hfanned.course, by simpa [Attended.respond] using hfanned.newest⟩
  | cancel =>
      have hcanceled := Transfer.cancel_of_not_isTerminal ht
      rcases hfanned.newest with ⟨hnewest, -⟩ | ⟨hnewest, -⟩
      · obtain ⟨fan, hcourse, htellings, hfan⟩ := hfanned.course
        have hact : h.respond answer .cancel =
            { (Attended.noting answer (.log t.canceledEntry) h).2 with
              newest := some t.cancel.1 } := by
          simp only [Attended.respond, hnewest, Busy.act, Transfer.act, hcanceled]
          rfl
        rw [hact]
        refine ⟨⟨fan ++ [.asked (.log t.canceledEntry)], ?_, ?_, ?_⟩, .inr ⟨rfl, .inr rfl⟩⟩
        · simp [Attended.noting, hcourse]
        · simpa using htellings
        · simpa [or_imp, forall_and] using ⟨hfan, .inr rfl⟩
      · have hterminal : t.cancel.1.status.isTerminal := by
          rw [hcanceled]
          rfl
        have hact : h.respond answer .cancel = { h with newest := some t.cancel.1 } := by
          simp only [Attended.respond, hnewest, Busy.act, Transfer.act,
            Transfer.cancel_of_isTerminal hterminal]
          rfl
        rw [hact]
        exact ⟨hfanned.course, .inr ⟨rfl, .inr rfl⟩⟩

/-- The transfer is canceled by what a listener does exactly if that is among it. -/
theorem Fanned.foldl_respond (hfanned : Fanned t listeners canceled before h)
    (ht : t.status.isTerminal = false) (responses : List (Response σ)) :
    Fanned t listeners (canceled ∨ .cancel ∈ responses) before
      (responses.foldl (Attended.respond answer) h) := by
  induction responses generalizing canceled h with
  | nil => simpa using hfanned
  | cons response responses ih =>
      have hmore : Fanned t listeners ((canceled ∨ response = .cancel) ∨ .cancel ∈ responses)
          before (responses.foldl (Attended.respond answer) (h.respond answer response)) :=
        ih (hfanned.respond ht response)
      rw [or_assoc, eq_comm, ← List.mem_cons] at hmore
      exact hmore

/-- One more listener is told, and does what it does. -/
theorem Fanned.tell (hfanned : Fanned t listeners canceled before h)
    (ht : t.status.isTerminal = false) (listener : String) :
    Fanned t (listeners ++ [listener])
      (canceled ∨ .cancel ∈ audience listener (.created t)
        { h with course := h.course ++ [.told listener (.created t)] }) before
      (h.tell answer audience (.created t) listener) := by
  obtain ⟨fan, hcourse, htellings, hfan⟩ := hfanned.course
  have htold : Fanned t (listeners ++ [listener]) canceled before
      { h with course := h.course ++ [.told listener (.created t)] } := by
    refine ⟨⟨fan ++ [.told listener (.created t)], ?_, ?_, ?_⟩, hfanned.newest⟩
    · simp [hcourse]
    · simp [htellings]
    · simpa [or_imp, forall_and] using ⟨hfan, .inl ⟨listener, rfl⟩⟩
  exact htold.foldl_respond ht _

/-- The listeners who are told are those who were there when the telling began, and the
transfer is canceled exactly if one of them does so then. -/
theorem fanned_announce (ht : t.status.isTerminal = false) (h : Attended σ) :
    Fanned t h.roster (Cancels answer audience t { h with newest := some t } h.roster) h
      (h.announce answer audience (.created t)) := by
  have hfoldl : ∀ listeners : List String,
      Fanned t listeners (Cancels answer audience t { h with newest := some t } listeners) h
        (listeners.foldl (Attended.tell answer audience (.created t))
          { h with newest := some t }) := by
    intro listeners
    induction listeners using List.reverseRecOn with
    | nil =>
        have hnone : ¬ Cancels answer audience t { h with newest := some t } [] := by
          rintro ⟨earlier, listener, later, hsplit, -⟩
          simp at hsplit
        exact ⟨⟨[], by simp, rfl, by simp⟩, .inl ⟨rfl, hnone⟩⟩
    | append_singleton listeners listener ih =>
        rw [List.foldl_append, cancels_concat_iff]
        exact ih.tell ht listener
  exact hfoldl h.roster

end Fanout

/-! ## the task -/

section Task

variable {σ : Type} {answer : Answerer σ} {audience : Audience σ}
  {others : Others (Attended σ)} {t : Transfer} {course : List Happening} {b : Busy (Attended σ)}

variable (t course b) in
/-- How a transfer goes on once its listeners have been told: no one is told of anything. -/
structure Continues : Prop where
  evolves : t.Evolves b.transfer
  course : ∃ later, b.rest.course = course ++ later ∧ tellings later = []

/-- A query that is no notice is answered, and it is seen that it was asked. -/
theorem answering_of_ne_notify {q : Query} (hq : ∀ notice, q ≠ .notify notice)
    (h : Attended σ) : Attended.answering answer audience q h = Attended.noting answer q h := by
  cases q with
  | notify notice => exact absurd rfl (hq notice)
  | _ => rfl

variable (answer audience) in
/-- A query that is no notice tells no one. -/
theorem Continues.ask (hb : Continues t course b) {q : Query} (hq : ∀ notice, q ≠ .notify notice) :
    Continues t course { b with rest := (Attended.answering answer audience q b.rest).2 } := by
  obtain ⟨later, hcourse, hlater⟩ := hb.course
  refine ⟨hb.evolves, later ++ [.asked q], ?_, by simpa using hlater⟩
  rw [answering_of_ne_notify hq]
  simp [Attended.noting, hcourse]

variable (answer audience) in
/-- Entries of the log tell no one. -/
theorem Continues.log (hb : Continues t course b) (entries : List Log.Entry) :
    Continues t course (b.log (Attended.answering answer audience) entries) := by
  induction entries generalizing b with
  | nil => exact hb
  | cons entry entries ih =>
      have hasked : Continues t course
          { b with rest := (Attended.answering answer audience (.log entry) b.rest).2 } :=
        hb.ask answer audience fun _ => nofun
      exact ih hasked

variable (answer audience t course) in
/-- No step of a task tells anyone. -/
theorem kept_continues : Busy.Kept (Attended.answering answer audience)
    (fun q => ∀ notice, q ≠ .notify notice) (Continues t course) where
  act b action _ hb := by
    have hacted : Continues t course { b with transfer := (b.transfer.act action).1 } :=
      ⟨hb.evolves.trans (b.transfer.evolves_act action), hb.course⟩
    exact hacted.log answer audience _
  rest _ _ hq hb := hb.ask answer audience hq

/-- The task of a file tells no one of anything, and its transfer goes on from what it was. -/
theorem Continues.runSending (hb : Continues t course b) (server : String) (blockSize : Nat)
    (path : String) (destination : Destination) :
    Continues t course (b.runSending (Attended.answering answer audience) others destination
      (sending server blockSize path)) := by
  have htask := sending_isMild server blockSize path
  have hkept := kept_continues answer audience t course
  let attempt := b.attempt (Attended.answering answer audience) others
    (sending server blockSize path)
  have hended : Continues t course attempt.2 :=
    hkept.attempted htask (sendingWork_ne_notify server blockSize path) hb Busy.attempted
  have hconcluded : Continues t course
      { attempt.2 with transfer := (attempt.2.transfer.conclude attempt.1).2.1 } :=
    ⟨hended.evolves.trans (Transfer.evolves_conclude _ _), hended.course⟩
  have hrun : Continues t course (b.run (Attended.answering answer audience) others
      (sending server blockSize path)).2 :=
    hconcluded.log answer audience _
  unfold Busy.runSending
  generalize b.run (Attended.answering answer audience) others _ = run at hrun
  obtain ⟨url?, b⟩ := run
  cases url? with
  | none => exact hrun
  | some url =>
      have hshare : (share b.transfer.id destination url).Asks fun q =>
          ∀ notice, q ≠ .notify notice :=
        Busy.share_asks (fun _ _ _ => nofun) (fun _ _ => nofun) _ destination url
      exact hshare.run (fun q b hq hb => hkept.reply htask hq hb) hrun

end Task

/-! ## the call -/

/-- Is a file not fit to be sent, going by how it was to examine and to open it?  It is not
there, no file, cannot be opened, or is empty. -/
def Unfit (examined opened : Except FileError FileNode) : Prop :=
  (∃ e, examined = .error e) ∨ (∃ entries, examined = .ok (.directory entries)) ∨
    (∃ e, opened = .error e) ∨ examined = .ok (.file [])

section Call

variable {σ : Type} (answer : Answerer σ) (s : σ) (path : String)

/-- A file is looked at, and turned down exactly if it is not fit. -/
theorem readableSize_run :
    let examined := answer (.examine path) s
    let opened := answer (.openFile path) examined.2
    let run := (readableSize path).run.run answer s
    (Unfit examined.1 opened.1 ∧ ∃ words s', run = (.error (.invalidArgument words), s') ∧
      (s' = examined.2 ∨ s' = opened.2)) ∨
    (¬ Unfit examined.1 opened.1 ∧ ∃ size, run = (.ok size, opened.2)) := by
  intro examined opened run
  have hrun : run = (readableSize path).run.run answer s := rfl
  simp only [readableSize, Attempt.run_query_bind, Job.run_bind, Job.run_query] at hrun
  -- what was found at the path, and then whether it could be opened
  rcases hexamined : (answer (.examine path) s).1 with e | content | entries
  · rw [hexamined] at hrun
    exact .inl ⟨.inl ⟨e, rfl⟩, _, _, hrun, .inl rfl⟩
  · rw [hexamined] at hrun
    dsimp only at hrun
    rw [Attempt.run_query_bind, Job.run_bind, Job.run_query] at hrun
    rcases hopened : (answer (.openFile path) (answer (.examine path) s).2).1 with e | node
    · rw [hopened] at hrun
      exact .inl ⟨.inr (.inr (.inl ⟨e, rfl⟩)), _, _, hrun, .inr rfl⟩
    · rw [hopened] at hrun
      cases content with
      | nil => exact .inl ⟨.inr (.inr (.inr rfl)), _, _, hrun, .inr rfl⟩
      | cons byte content => exact .inr ⟨by simp [Unfit], _, hrun⟩
  · rw [hexamined] at hrun
    exact .inl ⟨.inr (.inl ⟨entries, rfl⟩), _, _, hrun, .inl rfl⟩

/-- A file that is turned down is the end of the call. -/
theorem send_run_of_error (destination : Destination) {e : UploadError} {s' : σ}
    (h : (readableSize path).run.run answer s = (.error e, s')) :
    (send destination path).run.run answer s = (.error e, s') := by
  rw [send, ExceptT.run_bind, Job.run_bind, h]
  rfl

/-- For a file that is fit, a transfer is made, logged and told. -/
theorem send_run_of_ok (destination : Destination) {size : UInt64} {s' : σ}
    (h : (readableSize path).run.run answer s = (.ok size, s')) :
    let drawn := answer .drawId s'
    let t := Transfer.new drawn.1 .outgoing (some destination) path
    let logged := answer (.log (createdEntry t destination size)) drawn.2
    (send destination path).run.run answer s =
      (.ok t, (answer (.notify (.created t)) logged.2).2) := by
  rw [send, ExceptT.run_bind, Job.run_bind, h]
  rfl

end Call

section Sent

variable {σ : Type}

/-- A call that turns its file down leaves no trace but that it looked at the file. -/
structure Refused (path : String) (start : Attended σ) (examined opened : σ) (e : UploadError)
    (sent : Sent σ) : Prop where
  invalid : ∃ words, e = .invalidArgument words
  course : sent.called.course <+: [.asked (.examine path), .asked (.openFile path)]
  rest : sent.called.rest = examined ∨ sent.called.rest = opened
  roster : sent.called.roster = start.roster
  newest : sent.called.newest = none
  settled : sent.settled = none

/-- How things stand when listeners are about to be told of a transfer: its file has been looked
at, a name drawn for it, and this entry logged. -/
def prepared (answer : Answerer σ) (path : String) (entry : Log.Entry) (start : Attended σ) :
    Attended σ :=
  let examined := answer (.examine path) start.rest
  let opened := answer (.openFile path) examined.2
  let drawn := answer .drawId opened.2
  { start with
    course := [.asked (.examine path), .asked (.openFile path), .asked .drawId,
      .asked (.log entry)]
    rest := (answer (.log entry) drawn.2).2 }

/-- A call that makes a transfer tells every listener of it before anything comes of it. -/
structure Announced (answer : Answerer σ) (audience : Audience σ)
    (changes : List (Roster.Change String)) (t transfer : Transfer) (before : Attended σ)
    (sent : Sent σ) : Prop where
  /-- The call ends with the telling, which begins when things stand like this. -/
  called : sent.called = before.announce answer audience (.created t)
  /-- The listeners are told of a transfer to which nothing has happened. -/
  new : t.status = .created ∧ t.bytes = -1 ∧ t.events = []
  told : tellings sent.called.course = (Roster.ofChanges changes).map (·, .created t)
  /-- Who is registered is told once, and no one else is. -/
  once : ∀ listener, (Roster.Registered changes listener →
      (tellings sent.called.course).count (listener, .created t) = 1) ∧
    (¬ Roster.Registered changes listener →
      (tellings sent.called.course).count (listener, .created t) = 0)
  /-- When the call is over, the transfer has been canceled if one of the listeners has done so
  when it was told, and nothing else has happened to it. -/
  returned :
    let canceled :=
      Cancels answer audience t { before with newest := some t } (Roster.ofChanges changes)
    (transfer = t ∧ ¬ canceled) ∨ (transfer = t.cancel.1 ∧ canceled)
  /-- The task comes after that, and tells no one. -/
  settled : ∃ final later, sent.settled = some final ∧
    final.rest.course = sent.called.course ++ later ∧ tellings later = [] ∧
    transfer.events <+: final.transfer.events
  /-- All have been told before the session, the messenger or a server is asked. -/
  ordered : ∀ final, sent.settled = some final → ∀ before q after,
    final.rest.course = before ++ .asked q :: after → q.IsOutward →
      tellings before = (Roster.ofChanges changes).map (·, .created t)

/-- What is not in a list that another one begins with comes after it. -/
theorem prefix_of_append_eq {α : Type} {xs ys before after : List α} {x : α}
    (h : xs ++ ys = before ++ x :: after) (hx : x ∉ xs) : xs <+: before := by
  rcases List.append_eq_append_iff.1 h with ⟨between, rfl, -⟩ | ⟨between, rfl, hys⟩
  · exact List.prefix_append _ _
  · cases between with
    | nil => simp
    | cons y between =>
        cases hys
        exact absurd (by simp) hx

/-- Listeners who have all been told, after a call that asked nothing outward, and a task that
goes on from there. -/
theorem announced_of_called {answer : Answerer σ} {audience : Audience σ}
    {changes : List (Roster.Change String)} {t transfer : Transfer} {before : Attended σ}
    {sent : Sent σ} {final : Busy (Attended σ)}
    (hnew : t.status = .created ∧ t.bytes = -1 ∧ t.events = [])
    (hroster : before.roster = .ofChanges changes) (hbefore : tellings before.course = [])
    (hquiet : ∀ q, .asked q ∈ before.course → ¬ q.IsOutward)
    (hannounce : sent.called = before.announce answer audience (.created t))
    (hnewest : sent.called.newest = some transfer) (hsettled : sent.settled = some final)
    (hcontinues : Continues transfer sent.called.course final) :
    Announced answer audience changes t transfer before sent := by
  have hfanned : Fanned t (Roster.ofChanges changes)
      (Cancels answer audience t { before with newest := some t } (Roster.ofChanges changes))
      before sent.called := by
    rw [hannounce, ← hroster]
    exact fanned_announce (hnew.1 ▸ rfl) before
  obtain ⟨fan, hcourse, htellings, hfan⟩ := hfanned.course
  obtain ⟨later, hfinal, hlater⟩ := hcontinues.course
  have htold : tellings sent.called.course =
      (Roster.ofChanges changes).map (·, .created t) := by
    rw [hcourse, tellings_append, hbefore, htellings, List.nil_append]
  have hfaithful := Roster.faithful_ofChanges changes
  have hinjective : Function.Injective fun listener : String => (listener, Notice.created t) :=
    fun _ _ heq => congrArg Prod.fst heq
  have hnodup : (tellings sent.called.course).Nodup := by
    rw [htold]
    exact hfaithful.nodup.map hinjective
  have hmem : ∀ listener, (listener, .created t) ∈ tellings sent.called.course ↔
      Roster.Registered changes listener := by
    intro listener
    rw [htold, List.mem_map_of_injective hinjective, hfaithful.mem_iff]
  have hcalled : ∀ q, .asked q ∈ sent.called.course → ¬ q.IsOutward := by
    intro q hmem
    rw [hcourse] at hmem
    exact (List.mem_append.1 hmem).elim (hquiet q) fun hmem => (hfan _ hmem).not_outward
  constructor
  · exact hannounce
  · exact hnew
  · exact htold
  · intro listener
    rw [← hmem]
    exact ⟨List.count_eq_one_of_mem hnodup, List.count_eq_zero_of_not_mem⟩
  · simpa [hnewest] using hfanned.newest
  · exact ⟨final, later, hsettled, hfinal, hlater, hcontinues.evolves.prefix_events⟩
  · intro final' hfinal' before' q after hsplit houtward
    cases hsettled.symm.trans hfinal'
    have hprefix : sent.called.course <+: before' :=
      prefix_of_append_eq (hfinal.symm.trans hsplit) fun hmem => hcalled q hmem houtward
    -- the rest of what came before was done by the task, which tells no one
    obtain ⟨between, rfl⟩ := hprefix
    have hbetween : between <+: later := by
      rw [hfinal, List.append_assoc] at hsplit
      exact ⟨_, (List.append_cancel_left hsplit).symm⟩
    have hnone : tellings between = [] :=
      List.prefix_nil.1 (hlater ▸ hbetween.filterMap telling?)
    rw [tellings_append, htold, hnone, List.append_nil]

section Ways

variable {answer : Answerer σ} {audience : Audience σ} (others : Others (Attended σ))
  (server : String) (blockSize : Nat) {destination : Destination} {path : String}
  {start called : Attended σ}

/-- A call that fails has no task. -/
theorem sendFile_of_error {e : UploadError}
    (h : (send destination path).run.run (Attended.answering answer audience) start =
      (.error e, called)) :
    sendFile answer audience others server blockSize destination path start =
      { result := .error e, called, settled := none } := by
  rw [sendFile, h]

/-- A call that gives a transfer is followed by its task. -/
theorem sendFile_of_ok {created transfer : Transfer}
    (h : (send destination path).run.run (Attended.answering answer audience) start =
      (.ok created, called)) (hnewest : called.newest = some transfer) :
    sendFile answer audience others server blockSize destination path start =
      { result := .ok transfer
        called
        settled := some (({ transfer, rest := called } : Busy (Attended σ)).runSending
          (Attended.answering answer audience) others destination
          (sending server blockSize path)) } := by
  simp only [sendFile, h, hnewest, Option.getD_some]

end Ways

variable (answer : Answerer σ) (audience : Audience σ) (others : Others (Attended σ))
  (server : String) (blockSize : Nat) (destination : Destination) (path : String)
  (changes : List (Roster.Change String)) (s : σ)

/-- A file that is not fit to be sent is turned down. -/
theorem refused_of_looked {words : String} {looked : Attended σ} :
    let start : Attended σ := { roster := .ofChanges changes, rest := s }
    let sent := sendFile answer audience others server blockSize destination path start
    let examined := Attended.answering answer audience (.examine path) start
    let opened := Attended.answering answer audience (.openFile path) examined.2
    (readableSize path).run.run (Attended.answering answer audience) start =
      (.error (.invalidArgument words), looked) → (looked = examined.2 ∨ looked = opened.2) →
    sent.result = .error (.invalidArgument words) ∧
      Refused path start examined.2.rest opened.2.rest (.invalidArgument words) sent := by
  intro start sent examined opened hsize hlooked
  have hsent : sent = _ :=
    sendFile_of_error others server blockSize (send_run_of_error _ start path destination hsize)
  rw [hsent]
  rcases hlooked with rfl | rfl
  · exact ⟨rfl, ⟨words, rfl⟩, ⟨_, rfl⟩, .inl rfl, rfl, rfl, rfl⟩
  · exact ⟨rfl, ⟨words, rfl⟩, ⟨_, rfl⟩, .inr rfl, rfl, rfl, rfl⟩

/-- Of a file that is fit to be sent, a transfer is made and announced. -/
theorem announced_of_looked {size : UInt64} :
    let start : Attended σ := { roster := .ofChanges changes, rest := s }
    let sent := sendFile answer audience others server blockSize destination path start
    let examined := answer (.examine path) s
    let opened := answer (.openFile path) examined.2
    let looked : Attended σ :=
      { start with
        course := [.asked (.examine path), .asked (.openFile path)]
        rest := opened.2 }
    (readableSize path).run.run (Attended.answering answer audience) start = (.ok size, looked) →
    ∃ transfer, sent.result = .ok transfer ∧
      let t := Transfer.new (answer .drawId opened.2).1 .outgoing (some destination) path
      Announced answer audience changes t transfer
        (prepared answer path (createdEntry t destination size) start) sent := by
  intro start sent examined opened looked hsize
  let t := Transfer.new (answer .drawId opened.2).1 .outgoing (some destination) path
  let before := prepared answer path (createdEntry t destination size) start
  have hquiet : ∀ q, .asked q ∈ before.course → ¬ q.IsOutward := by
    intro q hq
    simp only [before, prepared, List.mem_cons, Happening.asked.injEq, List.not_mem_nil,
      or_false] at hq
    rcases hq with rfl | rfl | rfl | rfl <;> exact id
  let called := before.announce answer audience (.created t)
  have hsend : (send destination path).run.run (Attended.answering answer audience) start =
      (.ok t, called) :=
    send_run_of_ok _ start path destination hsize
  obtain ⟨transfer, hnewest⟩ : ∃ transfer, called.newest = some transfer := by
    have ht : t.status.isTerminal = false := rfl
    rcases (fanned_announce ht before).newest with ⟨hnewest, -⟩ | ⟨hnewest, -⟩
    · exact ⟨_, hnewest⟩
    · exact ⟨_, hnewest⟩
  have hcontinues : Continues transfer called.course { transfer, rest := called } :=
    ⟨.refl, [], by simp, rfl⟩
  have hsent : sent = _ := sendFile_of_ok others server blockSize hsend hnewest
  rw [hsent]
  exact ⟨transfer, rfl, announced_of_called ⟨rfl, rfl, rfl⟩ rfl rfl hquiet rfl hnewest rfl
    (hcontinues.runSending server blockSize path destination)⟩

/-- **Announcement**: whatever the file system answers, a call to send a file gives back an
error exactly if the file is not fit to be sent, and then nothing was done but to look at
it.  Else it gives back a new transfer, of which every listener was told, once, before the
session, the messenger or a server was asked and before anything happened to it, but that it
is canceled if one of them has canceled it when it was told. -/
theorem sendFile_announced :
    let start : Attended σ := { roster := .ofChanges changes, rest := s }
    let sent := sendFile answer audience others server blockSize destination path start
    let examined := answer (.examine path) s
    let opened := answer (.openFile path) examined.2
    ((∃ e, sent.result = .error e) ↔ Unfit examined.1 opened.1) ∧
    (∀ e, sent.result = .error e → Refused path start examined.2 opened.2 e sent) ∧
    (∀ transfer, sent.result = .ok transfer → ∃ entry,
      Announced answer audience changes
        (.new (answer .drawId opened.2).1 .outgoing (some destination) path) transfer
        (prepared answer path entry start) sent) := by
  intro start sent examined opened
  rcases readableSize_run (Attended.answering answer audience) start path with
    ⟨hunfit, words, looked, hsize, hlooked⟩ | ⟨hfit, size, hsize⟩
  · obtain ⟨hresult, hrefused⟩ := refused_of_looked answer audience others server blockSize
      destination path changes s hsize hlooked
    refine ⟨iff_of_true ⟨_, hresult⟩ hunfit, fun e he => ?_, fun transfer hok => ?_⟩
    · cases hresult.symm.trans he
      exact hrefused
    · cases hresult.symm.trans hok
  · obtain ⟨made, hresult, hannounced⟩ := announced_of_looked answer audience others server
      blockSize destination path changes s hsize
    have hnone : ¬ ∃ e, sent.result = .error e := by
      rintro ⟨e, he⟩
      cases hresult.symm.trans he
    refine ⟨iff_of_false hnone hfit, fun e he => absurd ⟨e, he⟩ hnone, fun transfer hok => ?_⟩
    cases hresult.symm.trans hok
    exact ⟨_, hannounced⟩

end Sent

end Facade

end SlotUpload
