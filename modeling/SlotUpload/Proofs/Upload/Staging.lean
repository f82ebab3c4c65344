import SlotUpload.Proofs.Upload.File
import SlotUpload.Proofs.Upload.Headers

/-!
# SlotUpload.Proofs.Upload.Staging

The stages of an upload: a file is examined and opened, a slot is asked for, and the body is
sent.  Every stage begins only after the one before it went well, so that a file that cannot
be read costs no slot, and a slot that cannot be used costs no exchange with a server
(`Staged`).  One request for a slot at most is sent, and one PUT.  The URL that an upload
gives is that of the slot which its body was put to.

What follows what in a run is told of its turns (`Turn.Follows`), first of those of a body
for which there is a slot to be found (`StagedStream`), and then of those of a file
(`uploadFile_staged`).
-/

namespace SlotUpload

open Http

/-! ## what follows what -/

namespace Turn

/-- Every turn of one kind comes after one of another kind. -/
def Follows (ts : List Turn) (effect cause : Turn → Prop) : Prop :=
  ∀ before t after, ts = before ++ t :: after → effect t → ∃ earlier ∈ before, cause earlier

variable {ts us : List Turn} {effect cause : Turn → Prop}

/-- Where there is no effect none comes before its cause. -/
theorem follows_of_forall_not (h : ∀ t ∈ ts, ¬ effect t) : Follows ts effect cause := by
  rintro before t after rfl ht
  exact absurd ht (h t (by simp))

/-- A turn that is no effect can come first. -/
theorem Follows.cons {t : Turn} (ht : ¬ effect t) (h : Follows ts effect cause) :
    Follows (t :: ts) effect cause := by
  intro before t' after hsplit ht'
  cases before with
  | nil =>
      cases hsplit
      exact absurd ht' ht
  | cons first before =>
      cases hsplit
      obtain ⟨earlier, hmem, hcause⟩ := h before t' after rfl ht'
      exact ⟨earlier, List.mem_cons_of_mem _ hmem, hcause⟩

/-- After the cause every effect is in order. -/
theorem follows_cons_of_cause {t : Turn} (ht : ¬ effect t) (hcause : cause t) :
    Follows (t :: ts) effect cause := by
  intro before t' after hsplit ht'
  cases before with
  | nil =>
      cases hsplit
      exact absurd ht' ht
  | cons first before =>
      cases hsplit
      exact ⟨t, List.mem_cons_self, hcause⟩

/-- After turns without effects, of which one is a cause, there may be anything. -/
theorem follows_append (h : ∀ t ∈ ts, ¬ effect t) (hcause : ∃ t ∈ ts, cause t) :
    Follows (ts ++ us) effect cause := by
  induction ts with
  | nil => simp at hcause
  | cons t ts ih =>
      obtain ⟨ht, hts⟩ := List.forall_mem_cons.1 h
      obtain ⟨earlier, hmem, hearlier⟩ := hcause
      rcases List.mem_cons.1 hmem with rfl | hmem
      · exact follows_cons_of_cause ht hearlier
      · exact (ih hts ⟨earlier, hmem, hearlier⟩).cons ht

/-- Where there is no cause, there is no effect. -/
theorem Follows.forall_not (h : Follows ts effect cause) (hnone : ∀ t ∈ ts, ¬ cause t) :
    ∀ t ∈ ts, ¬ effect t := by
  intro t ht heffect
  obtain ⟨before, after, rfl⟩ := List.append_of_mem ht
  obtain ⟨earlier, hmem, hcause⟩ := h before t after rfl heffect
  exact hnone earlier (List.mem_append_left _ hmem) hcause

/-- The PUTs among some turns, with what came of them. -/
def puts (ts : List Turn) : List Talk := (ts.filterMap talk?).filter (·.1.method = .put)

end Turn

/-! ## the stages apart -/

namespace Query

variable {q : Query}

theorem IsNegotiation.not_isTransfer (h : q.IsNegotiation) : ¬ q.IsTransfer := by
  cases q <;> first | exact h.elim | exact id

theorem IsNegotiation.isLocal (h : q.IsNegotiation) : q.IsLocal := by
  cases q <;> first | exact h.elim | trivial

theorem IsTransfer.not_isSession (h : q.IsTransfer) : ¬ q.isSession := by
  cases q <;> first | exact h.elim | exact nofun

end Query

/-- Turns of which none goes to the session. -/
theorem Turn.calls_eq_nil {ts : List Turn} (h : ∀ t ∈ ts, ¬ t.query.isSession) : calls ts = [] :=
  List.filter_eq_nil_iff.2 h

/-! ## slots that can be used -/

/-- Can a slot be used?  All its headers can be sent. -/
def Slot.Usable (slot : Slot) : Prop :=
  ∀ header ∈ slot.headers, isHeaderName header.1 ∧ isHeaderValue header.2

/-- A slot can be used exactly if there are headers to put something to it. -/
theorem Upload.exists_requestHeaders_iff {slot : Slot} {size : UInt64} :
    (∃ headers, requestHeaders slot size = .ok headers) ↔ slot.Usable := by
  simp only [requestHeaders_eq_ok_iff, exists_and_left, exists_eq, and_true]
  rfl

/-! ## stages -/

namespace Turn

/-- Was a path found to be that of a file? -/
def FindsFile (path : String) (t : Turn) : Prop :=
  ∃ content, t = ⟨.examine path, .ok (.file content)⟩

/-- Was what is at a path opened? -/
def Opens (path : String) (t : Turn) : Prop := ∃ node, t = ⟨.openFile path, .ok node⟩

/-- Is a path not that of a file, or of one that cannot be opened? -/
def FailsFile (path : String) (t : Turn) : Prop :=
  (t.query = .examine path ∧ ¬ t.FindsFile path) ∨ (t.query = .openFile path ∧ ¬ t.Opens path)

/-- Was a slot granted? -/
def Grants (slot : Slot) (t : Turn) : Prop :=
  ∃ recipient payload reply,
    t = ⟨.request recipient payload, .ok (.result reply)⟩ ∧ Slot.decode reply = .ok slot

/-- Was a slot granted that can be used? -/
def GrantsUsable (t : Turn) : Prop := ∃ slot, t.Grants slot ∧ slot.Usable

end Turn

namespace Upload

/-- A body was put to a slot, which was answered, and it went nowhere else. -/
def PutTo (slot : Slot) (content : List UInt8) (talks : List Talk) : Prop :=
  ∃ put first reply later, talks = (put, first) :: later ∧ put.method = .put ∧
    put.url = slot.putUrl ∧ put.blocks.flatten = content ∧ first.result = .ok reply ∧
    ∀ talk ∈ later, talk.1.method ≠ .put ∧ talk.1.blocks = []

/-- The stages of an upload of a body, for which a slot is asked for first.  It goes no
further without a slot that can be used. -/
structure StagedStream (fileName : String) (size : UInt64) (content : List UInt8)
    (ts : List Turn) (result : Except UploadError Url) : Prop where
  asks : ∀ t ∈ ts, t.query.IsNegotiation ∨ t.query.IsTransfer
  negotiated : ∃ known answered,
    Negotiated known none fileName size (some octetStream) (Turn.calls ts) answered
  granted : Turn.Follows ts (·.query.IsTransfer) Turn.GrantsUsable
  length_puts_le : (Turn.puts ts).length ≤ 1
  returned : ∀ url, result = .ok url → ∃ slot, (∃ t ∈ ts, t.Grants slot) ∧
    PutTo slot content (ts.filterMap Turn.talk?) ∧ url = slot.getUrl

section Stream

variable {blockSize : Nat} {slot : Slot} {content : List UInt8} {size : UInt64} {wanted : Bool}
  {fileName : String} {ts : List Turn} {known : Option UploadService}
  {contentType address : Option String} {answered : Except UploadError Slot}

/-- A slot that is given was granted. -/
theorem Negotiated.exists_grants
    (h : Negotiated known address fileName size contentType (Turn.calls ts) (.ok slot)) :
    ∃ t ∈ ts, t.Grants slot := by
  obtain ⟨recipient, payload, reply, hmem, hdecode⟩ := h.exists_mem
  exact ⟨_, hmem, recipient, payload, reply, rfl, hdecode⟩

/-- Nothing is asked for a slot that cannot be used; else there is one PUT, with the body,
which was answered if all went well. -/
theorem putStream_stage {result : Except UploadError Unit}
    (h : (putStream blockSize slot content size wanted).run.Takes ts result) :
    (ts = [] ∧ result ≠ .ok ()) ∨
      (slot.Usable ∧ (Turn.puts ts).length ≤ 1 ∧
        (result = .ok () → PutTo slot content (ts.filterMap Turn.talk?))) := by
  cases hheaders : requestHeaders slot size with
  | error e =>
      rw [putStream_of_invalid blockSize slot content size wanted hheaders] at h
      obtain ⟨rfl, rfl⟩ := Job.takes_pure_iff.1 h
      exact .inl ⟨rfl, nofun⟩
  | ok headers =>
      obtain ⟨final, rfl, hfollowed, -⟩ := putStream_takes hheaders h
      obtain ⟨first, later, htalks, hlater⟩ := hfollowed.exists_cons_of_put rfl
      refine .inr ⟨exists_requestHeaders_iff.1 ⟨headers, hheaders⟩, ?_, fun hok => ?_⟩
      · have hnone : later.filter (·.1.method = .put) = [] := by
          rw [List.filter_eq_nil_iff]
          intro talk htalk
          simpa using (hlater talk htalk).1
        have hmethod : (putRequest blockSize slot content headers).method = .put := rfl
        simp [Turn.puts, htalks, hnone, hmethod]
      · obtain ⟨last, hlast⟩ : ∃ last, final.result = .ok last := by
          unfold outcome at hok
          cases hfinal : final.result with
          | error text => simp [hfinal] at hok
          | ok last => exact ⟨last, rfl⟩
        obtain ⟨reply, hreply⟩ := hfollowed.exists_first htalks hlast
        exact ⟨_, first, reply, later, htalks, rfl, rfl, flatten_blocksOf _ _, hreply, hlater⟩

/-- An upload that comes no further than to ask for a slot. -/
theorem stagedStream_of_unsent (hasks : ∀ t ∈ ts, t.query.IsNegotiation)
    (hnegotiated : Negotiated known none fileName size (some octetStream) (Turn.calls ts) answered)
    (e : UploadError) : StagedStream fileName size content ts (.error e) where
  asks t ht := .inl (hasks t ht)
  negotiated := ⟨known, answered, hnegotiated⟩
  granted := Turn.follows_of_forall_not fun t ht => (hasks t ht).not_isTransfer
  length_puts_le := by
    rw [Turn.puts, Turn.talks_eq_nil fun t ht => (hasks t ht).isLocal]
    exact Nat.zero_le 1
  returned := nofun

/-- An upload that sends its body to a slot which it asked for. -/
theorem stagedStream_of_sent {asked sent : List Turn} {result : Except UploadError Url}
    (hasks : ∀ t ∈ asked, t.query.IsNegotiation)
    (hnegotiated : Negotiated known none fileName size (some octetStream) (Turn.calls asked)
      (.ok slot))
    (husable : slot.Usable) (hsent : ∀ t ∈ sent, t.query.IsTransfer)
    (hputs : (Turn.puts sent).length ≤ 1)
    (hresult : ∀ url, result = .ok url →
      PutTo slot content (sent.filterMap Turn.talk?) ∧ url = slot.getUrl) :
    StagedStream fileName size content (asked ++ sent) result := by
  have hcalls : Turn.calls sent = [] :=
    Turn.calls_eq_nil fun t ht => (hsent t ht).not_isSession
  have htalks : asked.filterMap Turn.talk? = [] :=
    Turn.talks_eq_nil fun t ht => (hasks t ht).isLocal
  obtain ⟨granting, hgranting, hslot⟩ := hnegotiated.exists_grants
  exact {
    asks := fun t ht => (List.mem_append.1 ht).imp (hasks t) (hsent t)
    negotiated := ⟨known, .ok slot, by rwa [Turn.calls_append, hcalls, List.append_nil]⟩
    granted := Turn.follows_append (fun t ht => (hasks t ht).not_isTransfer)
      ⟨granting, hgranting, slot, hslot, husable⟩
    length_puts_le := by rwa [Turn.puts, List.filterMap_append, htalks, List.nil_append]
    returned := fun url hurl => by
      rw [List.filterMap_append, htalks, List.nil_append]
      exact ⟨slot, ⟨granting, List.mem_append_left sent hgranting, hslot⟩, hresult url hurl⟩ }

/-- An upload goes through its stages. -/
theorem uploadStream_staged {result : Except UploadError Url}
    (h : (uploadStream blockSize content fileName size wanted).run.Takes ts result) :
    StagedStream fileName size content ts result := by
  -- there is no slot, or the slot cannot be used, or the body is sent there
  rcases Attempt.takes_bind_iff.1 h with ⟨e, hslot, rfl⟩ | ⟨asked, last, slot, rfl, hslot, hlast⟩
  · obtain ⟨known, rest, -, hnegotiated⟩ := requestSlot_takes hslot
    exact stagedStream_of_unsent ((requestSlot_negotiates _ _ _ _).of_mem_takes hslot) hnegotiated e
  obtain ⟨known, rest, -, hnegotiated⟩ := requestSlot_takes hslot
  have hasks : ∀ t ∈ asked, t.query.IsNegotiation :=
    (requestSlot_negotiates _ _ _ _).of_mem_takes hslot
  rcases Attempt.takes_bind_iff.1 hlast with ⟨e, hput, rfl⟩ | ⟨sent, last, _, rfl, hput, hurl⟩
  · rcases putStream_stage hput with ⟨rfl, -⟩ | ⟨husable, hputs, -⟩
    · rw [List.append_nil]
      exact stagedStream_of_unsent hasks hnegotiated e
    · exact stagedStream_of_sent hasks hnegotiated husable
        ((putStream_transfers _ _ _ _ _).of_mem_takes hput) hputs nofun
  · obtain ⟨rfl, rfl⟩ := Job.takes_pure_iff.1 hurl
    rw [List.append_nil]
    rcases putStream_stage hput with ⟨-, hne⟩ | ⟨husable, hputs, hstored⟩
    · exact absurd rfl hne
    · refine stagedStream_of_sent hasks hnegotiated husable
        ((putStream_transfers _ _ _ _ _).of_mem_takes hput) hputs ?_
      rintro url ⟨⟩
      exact ⟨hstored rfl, rfl⟩

end Stream

/-! ## files -/

/-- The stages of an upload of a file. -/
structure Staged (path : String) (ts : List Turn) (result : Except UploadError Url) : Prop where
  /-- The file is opened only after its path was found to be that of a file. -/
  examined : Turn.Follows ts (·.query = .openFile path) (·.FindsFile path)
  /-- The session is asked only after the path was found to be that of a file. -/
  found : Turn.Follows ts (·.query.isSession) (·.FindsFile path)
  /-- The session is asked only after the file was opened. -/
  opened : Turn.Follows ts (·.query.isSession) (·.Opens path)
  /-- All that the session is asked is one negotiation, for a file of that name and size. -/
  negotiated : (∃ t ∈ ts, t.query.isSession) → ∃ content known answered,
    ⟨.examine path, .ok (.file content)⟩ ∈ ts ∧
    Negotiated known none ((Path.fileName? path).getD "file") (sizeOf (.file content))
      (some octetStream) (Turn.calls ts) answered
  length_requests_le : (Turn.requests ts).length ≤ 1
  /-- Nothing is sent, counted or reported but after a slot was granted that can be used. -/
  granted : Turn.Follows ts (·.query.IsTransfer) Turn.GrantsUsable
  length_puts_le : (Turn.puts ts).length ≤ 1
  /-- A file that fails is the end. -/
  file_failed : (∃ t ∈ ts, t.FailsFile path) →
    ∀ t ∈ ts, ¬ t.query.isSession ∧ ¬ t.query.IsTransfer
  /-- Without a slot that can be used there is no trace of a transfer. -/
  slot_failed : (∀ t ∈ ts, ¬ t.GrantsUsable) → ∀ t ∈ ts, ¬ t.query.IsTransfer
  /-- What is given back is the URL of the slot that the content of the file was put to. -/
  returned : ∀ url, result = .ok url → ∃ slot node, (∃ t ∈ ts, t.Grants slot) ∧
    ⟨.openFile path, .ok node⟩ ∈ ts ∧
    PutTo slot (contentOf node) (ts.filterMap Turn.talk?) ∧ url = slot.getUrl

section File

variable {blockSize : Nat} {path : String} {wanted : Bool} {ts : List Turn} {e : UploadError}

/-- An upload that comes no further than to look at its file. -/
theorem staged_of_unusable (hlooks : ∀ t ∈ ts, t.query = .examine path ∨ t.query = .openFile path)
    (hexamined : Turn.Follows ts (·.query = .openFile path) (·.FindsFile path)) :
    Staged path ts (.error e) := by
  have hquiet : ∀ t ∈ ts, ¬ t.query.isSession ∧ ¬ t.query.IsTransfer ∧ t.query.IsLocal := by
    rintro ⟨q, a⟩ ht
    rcases hlooks _ ht with rfl | rfl <;> exact ⟨nofun, id, trivial⟩
  have hsession : ∀ t ∈ ts, ¬ t.query.isSession := fun t ht => (hquiet t ht).1
  have htransfer : ∀ t ∈ ts, ¬ t.query.IsTransfer := fun t ht => (hquiet t ht).2.1
  exact {
    examined := hexamined
    found := Turn.follows_of_forall_not hsession
    opened := Turn.follows_of_forall_not hsession
    negotiated := fun ⟨t, ht, h⟩ => absurd h (hsession t ht)
    length_requests_le := by
      rw [← Turn.requests_calls, Turn.calls_eq_nil hsession]
      exact Nat.zero_le 1
    granted := Turn.follows_of_forall_not htransfer
    length_puts_le := by
      rw [Turn.puts, Turn.talks_eq_nil fun t ht => (hquiet t ht).2.2]
      exact Nat.zero_le 1
    file_failed := fun _ t ht => ⟨hsession t ht, htransfer t ht⟩
    slot_failed := fun _ => htransfer
    returned := nofun }

/-- To send a body, no file is looked at. -/
theorem StagedStream.not_looks {fileName : String} {size : UInt64} {content : List UInt8}
    {result : Except UploadError Url} (h : StagedStream fileName size content ts result) :
    ∀ t ∈ ts, t.query ≠ .examine path ∧ t.query ≠ .openFile path := by
  intro t ht
  constructor <;> intro hquery <;> rcases h.asks t ht with hasks | hasks <;>
    rw [hquery] at hasks <;> exact hasks

/-- An upload of a file that was found and opened. -/
theorem staged_of_opened {content : List UInt8} {node : FileNode}
    {result : Except UploadError Url}
    (h : StagedStream ((Path.fileName? path).getD "file") (sizeOf (.file content))
      (contentOf node) ts result) :
    Staged path (⟨.examine path, .ok (.file content)⟩ :: ⟨.openFile path, .ok node⟩ :: ts)
      result := by
  let examine : Turn := ⟨.examine path, .ok (.file content)⟩
  let open' : Turn := ⟨.openFile path, .ok node⟩
  have hfinds : examine.FindsFile path := ⟨content, rfl⟩
  have hopens : open'.Opens path := ⟨node, rfl⟩
  have hgranted : Turn.Follows (examine :: open' :: ts) (·.query.IsTransfer) Turn.GrantsUsable :=
    (h.granted.cons id).cons id
  obtain ⟨known, answered, hnegotiated⟩ := h.negotiated
  exact {
    examined := Turn.follows_cons_of_cause nofun hfinds
    found := Turn.follows_cons_of_cause nofun hfinds
    opened := (Turn.follows_cons_of_cause nofun hopens).cons nofun
    negotiated := fun _ => ⟨content, known, answered, List.mem_cons_self, hnegotiated⟩
    length_requests_le := by
      rw [← Turn.requests_calls]
      exact hnegotiated.length_requests_le
    granted := hgranted
    length_puts_le := h.length_puts_le
    file_failed := by
      rintro ⟨t, ht, hfails⟩
      rcases List.mem_cons.1 ht with rfl | ht
      · rcases hfails with ⟨-, hnone⟩ | ⟨hquery, -⟩
        · exact absurd hfinds hnone
        · cases hquery
      rcases List.mem_cons.1 ht with rfl | ht
      · rcases hfails with ⟨hquery, -⟩ | ⟨-, hnone⟩
        · cases hquery
        · exact absurd hopens hnone
      · have hlooks : t.query ≠ .examine path ∧ t.query ≠ .openFile path := h.not_looks t ht
        rcases hfails with ⟨hquery, -⟩ | ⟨hquery, -⟩
        · exact absurd hquery hlooks.1
        · exact absurd hquery hlooks.2
    slot_failed := hgranted.forall_not
    returned := fun url hurl => by
      obtain ⟨slot, ⟨t, ht, hslot⟩, hput, heq⟩ := h.returned url hurl
      exact ⟨slot, node, ⟨t, List.mem_cons_of_mem _ (List.mem_cons_of_mem _ ht), hslot⟩,
        List.mem_cons_of_mem _ List.mem_cons_self, hput, heq⟩ }

theorem uploadFile_takes_staged {result : Except UploadError Url}
    (h : (uploadFile blockSize path wanted).run.Takes ts result) : Staged path ts result := by
  obtain ⟨examined, rest, rfl, hrest⟩ := Job.takes_query_bind_iff.1 h
  rcases examined with e | content | entries
  · obtain ⟨rfl, rfl⟩ := Job.takes_pure_iff.1 hrest
    exact staged_of_unusable (by simp) (Turn.follows_of_forall_not (by simp))
  · obtain ⟨opened, last, rfl, hlast⟩ := Job.takes_query_bind_iff.1 hrest
    cases opened with
    | error e =>
        obtain ⟨rfl, rfl⟩ := Job.takes_pure_iff.1 hlast
        exact staged_of_unusable (by simp) (Turn.follows_cons_of_cause nofun ⟨content, rfl⟩)
    | ok node => exact staged_of_opened (uploadStream_staged hlast)
  · obtain ⟨rfl, rfl⟩ := Job.takes_pure_iff.1 hrest
    exact staged_of_unusable (by simp) (Turn.follows_of_forall_not (by simp))

end File

/-- **Stages**: whatever the file system, the session and the servers answer, every upload of
a file goes by the stages of `Staged`. -/
theorem uploadFile_staged {σ : Type} (answer : Answerer σ) (s : σ) (blockSize : Nat)
    (path : String) (wanted : Bool) :
    let job := (uploadFile blockSize path wanted).run
    Staged path (job.turns answer s) (job.run answer s).1 :=
  uploadFile_takes_staged (Job.takes_run answer s _)

end Upload

end SlotUpload
