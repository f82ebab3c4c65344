import SlotUpload.Proofs.Upload.Stream
import SlotUpload.Proofs.Url.Ends
import SlotUpload.Rehearsal.Basic

/-!
# SlotUpload.Proofs.Upload.Acceptance

When an upload is taken for stored.  It should be if the reply to the PUT says so,
and rejected with the status of that reply if it does not (`JudgedByPut`).  But
the client follows redirections, and it is the reply that it comes to rest at that
is looked at.  An upload is judged by its PUT exactly if, where the PUT got a reply,
the client came to rest at a reply of that status (`judgedByPut_iff`).  This fails
where a server redirects a PUT, which takes the body nowhere, to something that can
be read (`not_forall_judgedByPut`).
-/

namespace SlotUpload.Upload

open Http

/-! ## judging an upload -/

/-- The codes that say that an upload is stored. -/
def storedCodes : List UInt16 := [200, 201, 204]

/-- A status says that the file is stored if its code is one of those that do. -/
theorem isStored_iff {status : Status} : status.isStored ↔ status.code ∈ storedCodes := by
  simp [Status.isStored, storedCodes, or_assoc]

/-- An upload comes off if the last reply says that the file is stored. -/
theorem outcome_eq_ok_iff {exchange : Exchange} : outcome exchange = .ok () ↔
    ∃ reply, exchange.result = .ok reply ∧ reply.status.code ∈ storedCodes := by
  unfold outcome judgeUpload
  cases exchange.result with
  | error text => simp
  | ok reply =>
      by_cases h : reply.status.isStored
      · simp [h, isStored_iff.1 h]
      · simp [h, mt isStored_iff.2 h]

theorem outcome_eq_rejected_iff {exchange : Exchange} {code : UInt16} :
    (∃ detail, outcome exchange = .error (.rejected code detail)) ↔
      ∃ reply, exchange.result = .ok reply ∧ reply.status.code ∉ storedCodes ∧
        reply.status.code = code := by
  unfold outcome judgeUpload
  cases exchange.result with
  | error text => simp
  | ok reply =>
      by_cases h : reply.status.isStored
      · simp [h, isStored_iff.1 h]
      · simp [h, mt isStored_iff.2 h]

/-- Did a PUT to the slot get this reply? -/
def PutReply (slot : Slot) (talks : List Talk) (reply : Response) : Prop :=
  ∃ put exchange, (put, exchange) ∈ talks ∧ put.method = .put ∧ put.url = slot.putUrl ∧
    exchange.result = .ok reply

/-- An upload comes to what the reply to its PUT says: it is taken for stored only
if that reply says so, and rejected with the status of the reply if it does not. -/
structure JudgedByPut (slot : Slot) (talks : List Talk) (result : Except UploadError Unit) :
    Prop where
  stored : result = .ok () → ∃ reply, PutReply slot talks reply ∧ reply.status.code ∈ storedCodes
  rejected : ∀ reply, PutReply slot talks reply → reply.status.code ∉ storedCodes →
    ∃ detail, result = .error (.rejected reply.status.code detail)

section Judged

variable {slot : Slot} {put : Request} {talks later : List Talk} {first final : Exchange}
  {reply : Response}

/-- The reply to the PUT is that of the first exchange. -/
theorem putReply_iff (hmethod : put.method = .put) (hurl : put.url = slot.putUrl)
    (hlater : ∀ talk ∈ later, talk.1.method ≠ .put) :
    PutReply slot ((put, first) :: later) reply ↔ first.result = .ok reply := by
  constructor
  · rintro ⟨other, exchange, hmem, hput, -, hreply⟩
    rcases List.mem_cons.1 hmem with heq | hmem
    · cases heq
      exact hreply
    · exact absurd hput (hlater _ hmem)
  · intro hreply
    exact ⟨put, first, List.mem_cons_self, hmethod, hurl, hreply⟩

/-- A PUT is not redirected by a reply that says that the upload is stored. -/
theorem redirected?_eq_none_of_stored (hmethod : put.method = .put)
    (hcode : reply.status.code ∈ storedCodes) : redirected? put reply = none := by
  cases hnext : redirected? put reply with
  | none => rfl
  | some next =>
      obtain ⟨-, -, hredirects⟩ := (redirected?_eq_some hnext).2 hmethod
      rcases hredirects with h | h | h <;> rw [h] at hcode <;> contradiction

/-- A client that follows a PUT is judged by it exactly if it came to rest at a
reply of the same status. -/
theorem judgedByPut_outcome_iff (h : Followed hops put talks final) (hmethod : put.method = .put)
    (hurl : put.url = slot.putUrl) :
    JudgedByPut slot talks (outcome final) ↔
      ∀ reply, PutReply slot talks reply →
        ∃ last, SettledAt talks last ∧ last.status = reply.status := by
  obtain ⟨first, later, rfl, hlater⟩ := h.exists_cons
  have hput : ∀ {reply}, PutReply slot ((put, first) :: later) reply ↔ first.result = .ok reply :=
    putReply_iff hmethod hurl hlater
  simp only [← h.result_eq_ok_iff]
  constructor
  · intro hjudged reply hreply
    by_cases hcode : reply.status.code ∈ storedCodes
    · have hnone : redirected? put reply = none := redirected?_eq_none_of_stored hmethod hcode
      have hlater : later = [] := h.eq_singleton rfl (hput.1 hreply) hnone
      subst hlater
      exact ⟨reply, h.result_eq_ok_iff.2 ⟨(put, first), rfl, hput.1 hreply, hnone⟩, rfl⟩
    · obtain ⟨last, hlast, -, heq⟩ :=
        outcome_eq_rejected_iff.1 (hjudged.rejected reply hreply hcode)
      exact ⟨last, hlast, congrArg Status.mk heq⟩
  · intro hsettled
    constructor
    · intro hok
      obtain ⟨last, hlast, hcode⟩ := outcome_eq_ok_iff.1 hok
      obtain ⟨reply, hreply⟩ := h.exists_first rfl hlast
      obtain ⟨last', hlast', hstatus⟩ := hsettled reply (hput.2 hreply)
      cases hlast.symm.trans hlast'
      exact ⟨reply, hput.2 hreply, hstatus ▸ hcode⟩
    · intro reply hreply hcode
      obtain ⟨last, hlast, hstatus⟩ := hsettled reply hreply
      exact outcome_eq_rejected_iff.2 ⟨last, hlast, hstatus ▸ hcode, congrArg Status.code hstatus⟩

end Judged

/-- **Uploads and redirections**: for every server and every slot, an upload comes
to what the reply to its PUT says exactly if, where the PUT got a reply, the client
came to rest at a reply of the same status. -/
theorem judgedByPut_iff {σ : Type} (answer : Answerer σ) (s : σ) (blockSize : Nat) (slot : Slot)
    (content : List UInt8) (size : UInt64) (wanted : Bool) :
    let job := (putStream blockSize slot content size wanted).run
    let talks := job.talks answer s
    JudgedByPut slot talks (job.run answer s).1 ↔
      ∀ reply, PutReply slot talks reply →
        ∃ last, SettledAt talks last ∧ last.status = reply.status := by
  intro job talks
  cases hheaders : requestHeaders slot size with
  | error e =>
      have hjob : job = pure (.error (.malformedReply e.message)) :=
        putStream_of_invalid blockSize slot content size wanted hheaders
      have htalks : talks = [] := congrArg (·.talks answer s) hjob
      have hreply : ∀ reply, ¬ PutReply slot talks reply := by
        rintro reply ⟨_, _, hmem, -⟩
        rw [htalks] at hmem
        cases hmem
      have hresult : (job.run answer s).1 ≠ .ok () := by
        rw [hjob]
        rintro ⟨⟩
      constructor
      · intro _ reply h
        exact absurd h (hreply reply)
      · intro _
        exact ⟨fun h => absurd h hresult, fun reply h => absurd h (hreply reply)⟩
  | ok headers =>
      obtain ⟨final, hresult, hfollowed⟩ :=
        followed_of_valid answer s blockSize slot content size wanted hheaders
      rw [hresult]
      exact judgedByPut_outcome_iff hfollowed rfl rfl

/-! ## an upload that was redirected -/

/-- Answers queries, with a server that can be reached. -/
def served (server : Request → Exchange) : Answerer Rehearsal
  | .exchange request, r => (server request, r)
  | q, r => Rehearsal.answer q r

/-- What is talked is what the server answers. -/
theorem eq_of_mem_talks {α : Type} {server : Request → Exchange} {job : Job α} {r : Rehearsal}
    {talk : Talk} (h : talk ∈ job.talks (served server) r) : talk.2 = server talk.1 := by
  induction job generalizing r with
  | done a => cases h
  | ask q next ih =>
      obtain ⟨turn, hturn, htalk⟩ := List.mem_filterMap.1 h
      rcases List.mem_cons.1 hturn with rfl | hturn
      · unfold Turn.talk? at htalk
        split at htalk
        · next heq =>
            cases heq
            cases htalk
            rfl
        · cases htalk
      · exact ih _ (List.mem_filterMap.2 ⟨turn, hturn, htalk⟩)

/-- A reply that redirects to the host itself. -/
def seeLoopback : Response :=
  { status := ⟨303⟩, headers := [("location", Url.loopback.toString)] }

/-- A server that redirects what is put to it, and answers everything else. -/
def evasive (request : Request) : Exchange :=
  { result := .ok (if request.method = .put then seeLoopback else { status := ⟨200⟩ }) }

/-- A put that is told to see elsewhere becomes a get there. -/
theorem redirected?_seeLoopback {put : Request} (hmethod : put.method = .put) :
    redirected? put seeLoopback = some
      { method := .get, url := .loopback
        headers := (forwarded put .loopback).without bodyHeaders } := by
  have hurl : resolve put.url Url.loopback.toString = .ok .loopback := by
    unfold resolve
    rw [Url.parse_loopback]
  have hlocation : seeLoopback.headers.get? "location" = some Url.loopback.toString := rfl
  unfold redirected?
  simp only [hlocation, Option.bind_eq_bind, Option.bind_some, hurl, Except.toOption, hmethod]
  rfl

/-- This server stores nothing, and every upload to it is taken for stored. -/
theorem putStream_evasive {slot : Slot} {size : UInt64} {headers : Headers}
    (h : requestHeaders slot size = .ok headers) (r : Rehearsal) (blockSize : Nat)
    (content : List UInt8) (wanted : Bool) :
    ((putStream blockSize slot content size wanted).run.run (served evasive) r).1 = .ok () := by
  obtain ⟨final, hresult, hfollowed⟩ :=
    followed_of_valid (served evasive) r blockSize slot content size wanted h
  have hserved : ∀ talk ∈ (putStream blockSize slot content size wanted).run.talks
      (served evasive) r, talk.2 = evasive talk.1 := fun _ => eq_of_mem_talks
  rw [hresult]
  generalize (putStream blockSize slot content size wanted).run.talks
    (served evasive) r = talks at hfollowed hserved
  -- the PUT is redirected to a GET, which is answered
  obtain ⟨first, later, rfl, -⟩ := hfollowed.exists_cons
  obtain ⟨hfirst, hserved⟩ := List.forall_mem_cons.1 hserved
  have hreply : first.result = .ok seeLoopback := congrArg Exchange.result hfirst
  have hnext : redirected? (putRequest blockSize slot content headers) seeLoopback = some _ :=
    redirected?_seeLoopback rfl
  have hfollowed : Followed (9 + 1) _ _ final := hfollowed
  obtain ⟨last, hlater⟩ := hfollowed.of_redirected rfl hreply hnext
  obtain ⟨second, rest, rfl, -⟩ := hlater.exists_cons
  obtain ⟨hsecond, -⟩ := List.forall_mem_cons.1 hserved
  have hanswer : second.result = .ok { status := ⟨200⟩ } := congrArg Exchange.result hsecond
  have hrest : rest = [] := hlater.eq_singleton rfl hanswer rfl
  subst hrest
  exact outcome_eq_ok_iff.2
    ⟨_, hfollowed.result_eq_ok_iff.2 ⟨_, rfl, hanswer, rfl⟩, List.mem_cons_self⟩

/-- An upload is taken for stored although its PUT was only redirected. -/
theorem not_forall_judgedByPut :
    ¬ ∀ (σ : Type) (answer : Answerer σ) (s : σ) (blockSize : Nat) (slot : Slot)
      (content : List UInt8) (size : UInt64) (wanted : Bool),
      let job := (putStream blockSize slot content size wanted).run
      JudgedByPut slot (job.talks answer s) (job.run answer s).1 := by
  intro hall
  let slot : Slot := { putUrl := .loopback, getUrl := .loopback }
  let r : Rehearsal := { script := { server := "montague.lit" }, now := ⟨0⟩ }
  have hheaders : requestHeaders slot 3 = .ok
      [("content-type", octetStream), ("content-length", String.ofList (Text.digits 3))] := rfl
  obtain ⟨reply, ⟨put, exchange, hmem, hput, -, hreply⟩, hcode⟩ :=
    (hall Rehearsal (served evasive) r 4096 slot [1, 2, 3] 3 false).stored
      (putStream_evasive hheaders r 4096 [1, 2, 3] false)
  have hexchange : exchange = evasive put := eq_of_mem_talks hmem
  rw [hexchange, evasive, if_pos hput] at hreply
  cases hreply
  exact absurd hcode (by decide)

end SlotUpload.Upload
