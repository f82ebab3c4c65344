import SlotUpload.Proofs.Facade.Task
import SlotUpload.Proofs.Upload.File

/-!
# SlotUpload.Proofs.Facade.Sending

What becomes of a file that is sent.  The task's turns with everything but its own
transfer are noted, so that what was delivered is known at any moment.  While the work
goes on nothing is delivered; what is then recorded is what becomes of the transfer,
and only a transfer that is completed has its URL delivered, once (`runSending_settled`).

That work which ends well completes the transfer rests on what it reported on its way:
no byte had been sent yet, which moves the transfer to being in progress.
-/

namespace SlotUpload

/-! ## messages -/

namespace Turn

/-- The message that a turn delivers, if it does. -/
def delivered? : Turn → Option (Destination × String)
  | ⟨.deliver destination text, _⟩ => some (destination, text)
  | _ => none

/-- The messages that some turns deliver, one after another. -/
def delivered (ts : List Turn) : List (Destination × String) := ts.filterMap delivered?

@[simp] theorem delivered_append (ts us : List Turn) :
    delivered (ts ++ us) = delivered ts ++ delivered us := List.filterMap_append ..

end Turn

/-- Is a query no message? -/
def Query.IsMute : Query → Prop
  | .deliver _ _ => False
  | _ => True

/-- A mute query delivers nothing. -/
theorem Query.IsMute.delivered_eq_nil {q : Query} (h : q.IsMute) (a : q.Answer) :
    Turn.delivered [⟨q, a⟩] = [] := by
  cases q with
  | deliver destination text => exact h.elim
  | _ => rfl

/-- Is a query asked to find an upload service? -/
def Query.IsLookup : Query → Prop
  | .items _ | .info _ | .cached | .cache _ | .log _ => True
  | _ => False

namespace Discovery

/-- A search only looks things up. -/
theorem search_asks (items : List String) : (search items).Asks Query.IsLookup := by
  induction items with
  | nil => exact .pure _
  | cons item items ih =>
      refine .bind (.query trivial) fun answer => ?_
      cases answer with
      | error causes => exact .bind (.query trivial) fun _ => ih
      | ok info =>
          dsimp only
          split
          · exact ih
          · exact .bind (.query trivial) fun _ => .bind (.query trivial) fun _ => .pure _

/-- Making sure of a service only looks things up. -/
theorem ensure_asks (server : String) : (ensure server).Asks Query.IsLookup := by
  refine .bind (.query trivial) fun known => ?_
  cases known with
  | some service => exact .pure _
  | none =>
      refine .bind (.query trivial) fun answer => ?_
      cases answer with
      | error causes => exact .bind (.query trivial) fun _ => .pure _
      | ok items => exact search_asks items

end Discovery

namespace Facade

open Upload

/-! ## the work -/

section Work

variable (server : String) (blockSize : Nat) (path : String)

/-- The task of a transfer that is sent counts progress, and does nothing else to it. -/
theorem sending_isMild : (sending server blockSize path).IsMild where
  onStart := List.forall_mem_nil _
  onProgress amount := by
    unfold sending
    dsimp only
    split
    · exact List.forall_mem_cons.2 ⟨rfl, List.forall_mem_singleton.2 trivial⟩
    · exact List.forall_mem_singleton.2 trivial

/-- The work looks for a service and uploads. -/
theorem sendingWork_asks :
    (sendingWork server blockSize path).run.Asks fun q => q.IsLookup ∨ q.IsUpload := by
  unfold sendingWork
  rw [Attempt.run_lift_bind]
  exact ((Discovery.ensure_asks server).imp fun _ => .inl).bind fun _ =>
    (uploadFile_asks _ _ _).imp fun _ => .inr

/-- The work sends no messages. -/
theorem sendingWork_isMute : (sendingWork server blockSize path).run.Asks Query.IsMute := by
  refine (sendingWork_asks server blockSize path).imp fun q hq => ?_
  cases q with
  | deliver destination text => exact hq.elim id id
  | _ => trivial

/-- The work tells the listeners of the facade nothing. -/
theorem sendingWork_ne_notify :
    (sendingWork server blockSize path).run.Asks fun q => ∀ notice, q ≠ .notify notice := by
  refine (sendingWork_asks server blockSize path).imp fun q hq => ?_
  rintro notice rfl
  exact hq.elim id id

/-- The work does not end as canceled. -/
theorem neverCanceled_sendingWork : NeverCanceled (sendingWork server blockSize path) :=
  (neverCanceled_lift _).bind fun _ => neverCanceled_uploadFile _ _ _

/-- Work that gives a URL has uploaded the file. -/
theorem sendingWork_takes_ok {ts : List Turn} {url : Url}
    (h : (sendingWork server blockSize path).run.Takes ts (.ok url)) : Uploaded ts url := by
  rcases Attempt.takes_bind_iff.1 h with ⟨e, -, heq⟩ | ⟨first, last, b, rfl, -, hlast⟩
  · cases heq
  · exact (uploadFile_takes_ok _ hlast).append first

end Work

/-! ## what the task notes -/

namespace Busy

variable {σ : Type} {answer : Answerer σ} {others : Others (List Turn × σ)}

/-- What is logged is noted. -/
theorem notes_log (b : Busy (List Turn × σ)) (entries : List Log.Entry) :
    (b.log answer.noted entries).rest.1 = b.rest.1 ++ entries.map fun e => ⟨.log e, ()⟩ := by
  induction entries generalizing b with
  | nil => exact (List.append_nil _).symm
  | cons e entries ih =>
      have hlog : (b.log answer.noted (e :: entries)).rest.1 = _ :=
        ih { b with rest := (answer.noted (.log e) b.rest).2 }
      rw [hlog, List.map_cons, List.append_cons]
      rfl

/-- To write to the log delivers nothing. -/
theorem delivered_log (b : Busy (List Turn × σ)) (entries : List Log.Entry) :
    Turn.delivered (b.log answer.noted entries).rest.1 = Turn.delivered b.rest.1 := by
  have hlogs : Turn.delivered (entries.map fun e => ⟨.log e, ()⟩) = [] := by
    induction entries with
    | nil => rfl
    | cons e entries ih => exact ih
  rw [notes_log, Turn.delivered_append, hlogs, List.append_nil]

/-- The transfer has not ended, unless it was told to stop, and nothing was delivered. -/
def Quiet (b : Busy (List Turn × σ)) : Prop :=
  b.transfer.Underway ∧ Turn.delivered b.rest.1 = []

/-- Nothing is delivered while the work goes on. -/
theorem kept_quiet : Kept answer.noted Query.IsMute Quiet where
  act b action haction h := ⟨h.1.act haction, (delivered_log _ _).trans h.2⟩
  rest q b hq h := ⟨h.1, by
    change Turn.delivered (b.rest.1 ++ [⟨q, _⟩]) = []
    rw [Turn.delivered_append, h.2, hq.delivered_eq_nil]
    rfl⟩

/-- A transfer that has started stays so while the work goes on. -/
theorem kept_started : Kept answer.noted Query.IsMute fun b => b.transfer.Started where
  act b action _ h := (b.transfer.evolves_act action).started h
  rest _ _ _ h := h

/-- What was noted stays so. -/
theorem kept_noted (t : Turn) : Kept answer.noted Query.IsMute fun b => t ∈ b.rest.1 where
  act b action _ h := by
    change t ∈ (Busy.log answer.noted _ _).rest.1
    rw [notes_log]
    exact List.mem_append_left _ h
  rest q b _ h := List.mem_append_left _ h

variable (answer others) in
/-- Once the transfer has ended, a job does nothing to it, and its turns are noted. -/
theorem run_of_isTerminal {α : Type} (onProgress : UInt64 → List Action) {j : Job α}
    {b : Busy (List Turn × σ)} (hj : j.Asks fun q => ∀ done total, q ≠ .progress done total)
    (h : b.transfer.status.isTerminal) :
    let final := (j.run (reply answer.noted others onProgress) b).2
    final.transfer = b.transfer ∧
      final.rest.1 = b.rest.1 ++ j.turns (reply answer.noted others onProgress) b := by
  induction j generalizing b with
  | done a => exact ⟨rfl, (List.append_nil _).symm⟩
  | ask q next ih =>
      have hreply : reply answer.noted others onProgress q b =
          ((answer q b.rest.2).1, { b with rest := (answer.noted q b.rest).2 }) := by
        have hinterrupt : ∀ rest, interrupt answer.noted others { b with rest } = { b with rest } :=
          fun rest => interrupt_of_isTerminal h
        cases q with
        | progress done total => exact absurd rfl (hj.1 done total)
        | _ => exact congrArg (Prod.mk _) (hinterrupt _)
      simp only [Job.run, Job.turns, hreply]
      obtain ⟨htransfer, hnotes⟩ := ih (answer q b.rest.2).1
        (b := { b with rest := (answer.noted q b.rest).2 }) (hj.2 _) h
      refine ⟨htransfer, hnotes.trans ?_⟩
      rw [List.append_cons]
      rfl

/-- To share a URL asks for deliveries and entries of the log only. -/
theorem share_asks {P : Query → Prop} (hdeliver : ∀ destination text, P (.deliver destination text))
    (hlog : ∀ entry, P (.log entry)) (id : String) (destination : Destination) (url : Url) :
    (share id destination url).Asks P := by
  refine .bind (.query (hdeliver _ _)) fun answer => ?_
  cases answer with
  | ok _ => exact .pure _
  | error causes => exact .query (hlog _)

/-- A URL is delivered once. -/
theorem share_takes {id : String} {destination : Destination} {url : Url} {ts : List Turn}
    (h : (share id destination url).Takes ts ()) :
    Turn.delivered ts = [(destination, url.toString)] := by
  obtain ⟨answer, rest, rfl, hrest⟩ := Job.takes_query_bind_iff.1 h
  cases answer with
  | ok _ =>
      obtain ⟨rfl, -⟩ := Job.takes_pure_iff.1 hrest
      rfl
  | error causes =>
      cases hrest with
      | ask _ hdone =>
          cases hdone
          rfl

/-- The report that no byte has been sent yet starts the transfer. -/
theorem started_reply_progress (server path : String) (blockSize : Nat) (total : UInt64)
    (b : Busy (List Turn × σ)) :
    (reply answer.noted others (sending server blockSize path).onProgress (.progress 0 total)
      b).2.transfer.Started := by
  have hstarted : (b.act answer.noted (.status .inProgress none)).transfer.Started :=
    b.transfer.started_act_inProgress none
  -- what is left to be done is the count of no bytes
  change (actAll answer.noted others _ [.progress 0]).transfer.Started
  exact kept_started.actAll (List.forall_mem_singleton.2 trivial) (kept_started.interrupt hstarted)

/-- The answer to a request is noted. -/
theorem mem_notes_reply_request {onProgress : UInt64 → List Action} {recipient payload : String}
    {a : Except Causes SessionReply} (b : Busy (List Turn × σ))
    (h : (reply answer.noted others onProgress (.request recipient payload) b).1 = a) :
    ⟨.request recipient payload, a⟩ ∈
      (reply answer.noted others onProgress (.request recipient payload) b).2.rest.1 := by
  subst h
  exact (kept_noted _).interrupt (List.mem_append_right _ (List.mem_singleton_self _))

/-- Work that ended well has started its transfer, and was granted the slot whose URL it
gives. -/
theorem granted_of_attempted {server path : String} {blockSize : Nat} {url : Url}
    {b ended : Busy (List Turn × σ)}
    (h : Attempted answer.noted others b (sending server blockSize path) (.ok url) ended) :
    ended.transfer.Started ∧ ∃ recipient payload reply slot,
      ⟨.request recipient payload, .ok (.result reply)⟩ ∈ ended.rest.1 ∧
        Slot.decode reply = .ok slot ∧ url = slot.getUrl := by
  obtain ⟨b', hrun⟩ := h.exists_run
  have hasks : (sending server blockSize path).work.run.Asks Query.IsMute :=
    sendingWork_isMute server blockSize path
  have htask := sending_isMild server blockSize path
  have huploaded : Uploaded _ url :=
    sendingWork_takes_ok server blockSize path (congrArg Prod.fst hrun ▸ Job.takes_run _ _ _)
  constructor
  · obtain ⟨total, hbegun⟩ := huploaded.begun
    have hstarted := hasks.run_of_mem_turns (P := fun b => b.transfer.Started)
      (fun q b hq => kept_started.reply htask hq) hbegun
      fun b _ => started_reply_progress server path blockSize total b
    rw [hrun] at hstarted
    exact hstarted
  · obtain ⟨recipient, payload, reply, slot, hgranted, hslot⟩ := huploaded.granted
    have hnoted := hasks.run_of_mem_turns
      (P := fun b => ⟨.request recipient payload, .ok (.result reply)⟩ ∈ b.rest.1)
      (fun q b hq => (kept_noted _).reply htask hq) hgranted
      fun b hanswer => mem_notes_reply_request b hanswer
    rw [hrun] at hnoted
    exact ⟨recipient, payload, reply, slot, hnoted, hslot⟩

/-! ## what becomes of the transfer -/

section Settled

variable (destination : Destination) (outcome : Except UploadError Url)
  (ended recorded final : Busy (List Turn × σ))

/-- What becomes of a file that is sent, whose work came to `outcome`: there are the
moments when the work has `ended`, when that was `recorded`, and when the task is over. -/
structure Settled : Prop where
  terminal : recorded.transfer.status.isTerminal
  /-- Nothing is delivered before it is recorded how the work ended. -/
  undelivered : Turn.delivered recorded.rest.1 = []
  /-- What is recorded stays, whatever comes of the delivery. -/
  transfer_eq : final.transfer = recorded.transfer
  completed_iff : recorded.transfer.status = .completed ↔
    (∃ url, outcome = .ok url) ∧ ended.transfer.aborted = false
  /-- The URL of the slot that was granted is delivered, once. -/
  shared : ∀ url, outcome = .ok url → ended.transfer.aborted = false →
    Turn.delivered final.rest.1 = [(destination, url.toString)] ∧
      ∃ recipient payload reply slot,
        ⟨.request recipient payload, .ok (.result reply)⟩ ∈ recorded.rest.1 ∧
          Slot.decode reply = .ok slot ∧ url = slot.getUrl
  failed : ∀ e, outcome = .error e → ended.transfer.aborted = false →
    recorded.transfer.status = .failed ∧ recorded.transfer.reason = some e.message ∧
      Turn.delivered final.rest.1 = []
  canceled : ended.transfer.aborted →
    recorded.transfer.status = .canceled ∧ Turn.delivered final.rest.1 = []

end Settled

section Endings

variable {destination : Destination} {outcome : Except UploadError Url}
  {ended : Busy (List Turn × σ)}

/-- A conclusion delivers nothing. -/
theorem Quiet.delivered_conclude (h : ended.Quiet) :
    Turn.delivered (ended.conclude answer.noted outcome).2.rest.1 = [] :=
  (delivered_log _ _).trans h.2

/-- Without a URL nothing is published. -/
theorem publish_of_eq_none {σ : Type} {answer : Answerer σ} {others : Others σ}
    {onProgress : UInt64 → List Action} {result : Option Url × Busy σ} (h : result.1 = none) :
    publish answer others destination onProgress result = result.2 := by
  obtain ⟨value, b⟩ := result
  cases h
  rfl

/-- A transfer that was told to stop is canceled, whatever the work came to. -/
theorem Quiet.settled_of_aborted (h : ended.Quiet) (ha : ended.transfer.aborted = true)
    (onProgress : UInt64 → List Action) :
    let result := ended.conclude answer.noted outcome
    Settled destination outcome ended result.2
      (publish answer.noted others destination onProgress result) := by
  intro result
  obtain ⟨hvalue, htransfer⟩ := h.1.conclude_of_aborted ha outcome
  have hstatus : ended.transfer.status = .canceled := by
    rcases h.1 with ⟨-, hs⟩ | ⟨ha', -⟩
    · exact hs
    · cases ha.symm.trans ha'
  have hrecorded : result.2.transfer.status = .canceled :=
    (congrArg Transfer.status htransfer).trans hstatus
  rw [publish_of_eq_none hvalue]
  constructor
  · rw [hrecorded]
    rfl
  · exact h.delivered_conclude
  · rfl
  · rw [hrecorded, ha]
    simp
  · intro url _ ha'
    cases ha.symm.trans ha'
  · intro e _ ha'
    cases ha.symm.trans ha'
  · exact fun _ => ⟨hrecorded, h.delivered_conclude⟩

/-- The transfer fails with the error of its work. -/
theorem Quiet.settled_of_error (h : ended.Quiet) (ha : ended.transfer.aborted = false)
    {e : UploadError} (he : e ≠ .canceled) (onProgress : UInt64 → List Action) :
    let result := ended.conclude (α := Url) answer.noted (.error e)
    Settled destination (.error e) ended result.2
      (publish answer.noted others destination onProgress result) := by
  intro result
  have htransfer : result.2.transfer = ended.transfer.moveTo .failed (some e.message) :=
    h.1.conclude_error ha he
  rw [publish_of_eq_none (ended.transfer.fst_conclude_error e)]
  constructor
  · rw [htransfer]
    rfl
  · exact h.delivered_conclude
  · rfl
  · rw [htransfer]
    simp [Transfer.moveTo]
  · exact nofun
  · rintro e' ⟨⟩ -
    rw [htransfer]
    exact ⟨rfl, rfl, h.delivered_conclude⟩
  · intro ha'
    cases ha.symm.trans ha'

/-- The transfer is completed, and then the URL is delivered. -/
theorem Quiet.settled_of_ok (h : ended.Quiet) (ha : ended.transfer.aborted = false) {url : Url}
    (hstarted : ended.transfer.Started) (hgranted : ∃ recipient payload reply slot,
      ⟨.request recipient payload, .ok (.result reply)⟩ ∈ ended.rest.1 ∧
        Slot.decode reply = .ok slot ∧ url = slot.getUrl)
    (onProgress : UInt64 → List Action) :
    let result := ended.conclude answer.noted (.ok url)
    Settled destination (.ok url) ended result.2
      (publish answer.noted others destination onProgress result) := by
  intro result
  obtain ⟨hvalue, htransfer⟩ := h.1.conclude_ok ha hstarted url
  have hrecorded : result.2.transfer = ended.transfer.moveTo .completed none := htransfer
  have hterminal : result.2.transfer.status.isTerminal := by
    rw [hrecorded]
    rfl
  have hpublish : publish answer.noted others destination onProgress result =
      ((share result.2.transfer.id destination url).run
        (reply answer.noted others onProgress) result.2).2 := by
    rw [show result = (some url, result.2) from Prod.ext hvalue rfl]
    rfl
  obtain ⟨hfinal, hnotes⟩ := run_of_isTerminal answer others onProgress
    (share_asks (fun _ _ _ _ => nofun) (fun _ _ _ => nofun) result.2.transfer.id destination url)
    hterminal
  rw [hpublish]
  constructor
  · exact hterminal
  · exact h.delivered_conclude
  · exact hfinal
  · rw [hrecorded]
    simp [Transfer.moveTo, ha]
  · rintro url' ⟨⟩ -
    constructor
    · rw [hnotes, Turn.delivered_append, h.delivered_conclude, share_takes (Job.takes_run _ _ _)]
      rfl
    · obtain ⟨recipient, payload, reply, slot, hmem, hslot⟩ := hgranted
      refine ⟨recipient, payload, reply, slot, ?_, hslot⟩
      change _ ∈ (Busy.log answer.noted _ _).rest.1
      rw [notes_log]
      exact List.mem_append_left _ hmem
  · exact nofun
  · intro ha'
    cases ha.symm.trans ha'

end Endings

/-- What becomes of a file that is sent, from a transfer to which nothing has happened
but that it may be canceled. -/
theorem Quiet.settled {destination : Destination} {server path : String} {blockSize : Nat}
    {outcome : Except UploadError Url} {b ended : Busy (List Turn × σ)} (h : b.Quiet)
    (hattempted : Attempted answer.noted others b (sending server blockSize path) outcome ended) :
    let result := ended.conclude answer.noted outcome
    Settled destination outcome ended result.2 (publish answer.noted others destination
      (sending server blockSize path).onProgress result) := by
  have hquiet : ended.Quiet := kept_quiet.attempted (sending_isMild server blockSize path)
    (sendingWork_isMute server blockSize path) h hattempted
  cases ha : ended.transfer.aborted with
  | true => exact hquiet.settled_of_aborted ha _
  | false =>
      cases outcome with
      | error e =>
          have he : e ≠ .canceled := by
            rintro rfl
            cases ha.symm.trans
              (hattempted.aborted (neverCanceled_sendingWork server blockSize path))
          exact hquiet.settled_of_error ha he _
      | ok url =>
          obtain ⟨hstarted, hgranted⟩ := granted_of_attempted hattempted
          exact hquiet.settled_of_ok ha hstarted hgranted _

end Busy

open Busy

/-- A transfer that is given back for a file that is sent is a new one, to its
destination. -/
theorem send_takes_ok {destination : Destination} {path : String} {ts : List Turn}
    {transfer : Transfer} (h : (send destination path).run.Takes ts (.ok transfer)) :
    ∃ id, transfer = .new id .outgoing (some destination) path := by
  rcases Attempt.takes_bind_iff.1 h with ⟨e, -, heq⟩ | ⟨first, last, size, rfl, -, hlast⟩
  · cases heq
  · obtain ⟨id, _, rfl, hid⟩ := Job.takes_query_bind_iff.1 hlast
    obtain ⟨_, _, rfl, hlog⟩ := Job.takes_query_bind_iff.1 hid
    obtain ⟨_, _, rfl, hnotify⟩ := Job.takes_query_bind_iff.1 hlog
    obtain ⟨-, heq⟩ := Job.takes_pure_iff.1 hnotify
    exact ⟨id, Except.ok.inj heq⟩

/-- **Sending**: whatever session, server, messenger and file system answer, and whenever
others cancel the transfer, a file that is sent goes with its transfer as `Settled` says:
the transfer ends, and the URL is delivered once, to the destination, exactly if it is
completed. -/
theorem runSending_settled {σ : Type} (answer : Answerer σ) (others : Others (List Turn × σ))
    (destination : Destination) (server : String) (blockSize : Nat) (path : String) :
    (∀ ts transfer, (send destination path).run.Takes ts (.ok transfer) →
      ∃ id, transfer = .new id .outgoing (some destination) path) ∧
    ∀ (id : String) (s : σ),
      let task := sending server blockSize path
      let start : Busy (List Turn × σ) :=
        { transfer := .new id .outgoing (some destination) path, rest := ([], s) }
      let attempted := start.attempt answer.noted others task
      Settled destination attempted.1 attempted.2 (start.run answer.noted others task).2
        (start.runSending answer.noted others destination task) := by
  constructor
  · exact fun ts transfer => send_takes_ok
  · intro id s task start attempted
    have hquiet : start.Quiet := ⟨Transfer.underway_new _ _ _ _, rfl⟩
    exact hquiet.settled Busy.attempted

end Facade

end SlotUpload
