import SlotUpload.Proofs.Http.Redirection
import SlotUpload.Upload.Stream

/-!
# SlotUpload.Proofs.Upload.Stream

The run of an upload to a slot.  With headers that can be sent it is one request that
is followed, and comes to what the client hands over; on its way it reports as many
bytes as the blocks have that were taken (`putStream_takes`).
-/

namespace SlotUpload

open Http

/-! ## progress that is reported -/

namespace Turn

/-- The progress that a turn reports, if it does. -/
def reported? : Turn → Option (UInt64 × UInt64)
  | ⟨.progress done total, _⟩ => some (done, total)
  | _ => none

/-- The progress that some turns report, one after another. -/
def reported (ts : List Turn) : List (UInt64 × UInt64) := ts.filterMap reported?

@[simp] theorem reported_append (ts us : List Turn) :
    reported (ts ++ us) = reported ts ++ reported us := List.filterMap_append ..

/-- Turns that report nothing. -/
theorem reported_eq_nil {ts : List Turn}
    (h : ∀ t ∈ ts, ∀ done total, t.query ≠ .progress done total) : reported ts = [] := by
  rw [reported, List.filterMap_eq_nil_iff]
  rintro ⟨q, a⟩ ht
  have hq := h _ ht
  unfold reported?
  split
  · next heq =>
      cases heq
      exact absurd rfl (hq _ _)
  · rfl

end Turn

namespace Upload

/-! ## blocks -/

section Blocks

variable (size : Nat) (content : List UInt8)

theorem flatten_blocksOf : (blocksOf size content).flatten = content := by
  induction content using blocksOf.induct size with
  | case1 => rw [blocksOf, List.flatten_nil]
  | case2 b bs h => rw [blocksOf, if_pos h, List.flatten_singleton]
  | case3 b bs h ih => rw [blocksOf, if_neg h, List.flatten_cons, ih, List.take_append_drop]

/-- No block is larger than it should be. -/
theorem length_le_of_mem_blocksOf (hsize : 0 < size) :
    ∀ block ∈ blocksOf size content, block.length ≤ size := by
  induction content using blocksOf.induct size with
  | case1 => simp [blocksOf]
  | case2 b bs h => omega
  | case3 b bs h ih =>
      rw [blocksOf, if_neg h]
      exact List.forall_mem_cons.2 ⟨List.length_take_le _ _, ih⟩

end Blocks

/-! ## jobs on the side -/

/-- Does a query keep account of an upload? -/
def IsAccount : Query → Prop
  | .wait | .countSent _ | .noteError _ | .progress _ _ => True
  | _ => False

theorem IsAccount.isLocal {q : Query} (h : IsAccount q) : q.IsLocal := by
  cases q with
  | exchange => exact h
  | _ => trivial

theorem report_asks (wanted : Bool) (done total : UInt64) :
    (report wanted done total).Asks IsAccount := by
  cases wanted with
  | true => exact .query trivial
  | false => exact .pure ()

/-- Accounting for the blocks asks for reports and counts only. -/
theorem account_asks (wanted : Bool) (total done : UInt64) (blocks : List (List UInt8)) :
    (account wanted total done blocks).Asks IsAccount := by
  induction blocks generalizing done with
  | nil => exact .pure ()
  | cons block blocks ih =>
      exact .bind (.query trivial) fun _ => .bind (.query trivial) fun _ =>
        .bind (report_asks wanted _ total) fun _ => ih _

/-! ## the end of an upload -/

/-- What an upload comes to, given what the client hands over. -/
def outcome (exchange : Exchange) : Except UploadError Unit :=
  match exchange.result with
  | .error text => .error (.transferFailed [text])
  | .ok response => judgeUpload response.status response.text

/-- The last step of an upload: an error is kept as the last one. -/
def conclude (exchange : Exchange) : Attempt Unit :=
  match exchange.result with
  | .error text => failWith (.transferFailed [text]) text
  | .ok response =>
    match judgeUpload response.status response.text with
    | .ok () => return ()
    | .error e => failWith e e.message

theorem run_failWith (e : UploadError) (text : String) : (failWith e text : Attempt Unit).run =
    Job.query (.noteError text) >>= fun _ => pure (.error e) := rfl

/-- The end of an exchange only notes an error. -/
theorem conclude_asks {P : Query → Prop} (hP : ∀ text, P (.noteError text)) (exchange : Exchange) :
    (conclude exchange).run.Asks P := by
  have hfail : ∀ e text, (failWith e text : Attempt Unit).run.Asks P := by
    intro e text
    rw [run_failWith]
    exact .bind (.query (hP text)) fun _ => .pure _
  unfold conclude
  split
  · exact hfail _ _
  · split
    · exact .pure _
    · exact hfail _ _

theorem failWith_takes {α : Type} {e : UploadError} {text : String} {ts : List Turn}
    {r : Except UploadError α} (h : (failWith e text : Attempt α).run.Takes ts r) :
    r = .error e := by
  obtain ⟨_, rest, rfl, hrest⟩ := Job.takes_query_bind_iff.1 h
  exact (Job.takes_pure_iff.1 hrest).2

/-- The end of an exchange is its outcome. -/
theorem conclude_takes {exchange : Exchange} {ts : List Turn} {r : Except UploadError Unit}
    (h : (conclude exchange).run.Takes ts r) : r = outcome exchange := by
  unfold conclude at h
  unfold outcome
  split at h
  · exact failWith_takes h
  · split at h
    · next hjudged => rw [hjudged, (Job.takes_pure_iff.1 h).2]
    · next hjudged => rw [hjudged, failWith_takes h]

/-! ## the counts that are reported -/

section Counts

variable {wanted : Bool} {total done : UInt64} {ts : List Turn} {count : UInt64 × UInt64}

/-- What is reported is the count so far. -/
theorem report_takes_reported (h : (report wanted done total).Takes ts ())
    (hcount : count ∈ Turn.reported ts) : count = (done, total) := by
  cases wanted with
  | false =>
      obtain ⟨rfl, -⟩ := Job.takes_pure_iff.1 h
      cases hcount
  | true =>
      cases h with
      | ask answer hdone =>
          cases hdone
          exact List.mem_singleton.1 hcount

/-- After some blocks, as many bytes are reported as they have. -/
theorem account_takes_reported {blocks : List (List UInt8)}
    (h : (account wanted total done blocks).Takes ts ()) (hcount : count ∈ Turn.reported ts) :
    ∃ k ≤ blocks.length,
      count = (done + UInt64.ofNat (blocks.take k).flatten.length, total) := by
  induction blocks generalizing done ts with
  | nil =>
      obtain ⟨rfl, -⟩ := Job.takes_pure_iff.1 h
      cases hcount
  | cons block blocks ih =>
      obtain ⟨_, _, rfl, hwait⟩ := Job.takes_query_bind_iff.1 h
      obtain ⟨_, _, rfl, hsent⟩ := Job.takes_query_bind_iff.1 hwait
      obtain ⟨first, last, _, rfl, hfirst, hlast⟩ := Job.takes_bind_iff.1 hsent
      have hcount : count ∈ Turn.reported (first ++ last) := hcount
      rw [Turn.reported_append] at hcount
      rcases List.mem_append.1 hcount with hcount | hcount
      · exact ⟨1, Nat.succ_pos _, by simpa using report_takes_reported hfirst hcount⟩
      · obtain ⟨k, hk, rfl⟩ := ih hlast hcount
        refine ⟨k + 1, Nat.succ_le_succ hk, ?_⟩
        rw [List.take_succ_cons, List.flatten_cons, List.length_append, UInt64.ofNat_add,
          UInt64.add_assoc]

end Counts

/-! ## the run of an upload -/

section Run

variable {σ : Type} (answer : Answerer σ) (s : σ) (blockSize : Nat) (slot : Slot)
  (content : List UInt8) (size : UInt64) (wanted : Bool)

/-- The request of an upload. -/
def putRequest (headers : Headers) : Request :=
  { method := .put, url := slot.putUrl, headers, blocks := blocksOf blockSize content }

/-- Without headers that can be sent, no server is asked. -/
theorem putStream_of_invalid {e : HeaderError} (h : requestHeaders slot size = .error e) :
    (putStream blockSize slot content size wanted).run =
      pure (.error (.malformedReply e.message)) := by
  unfold putStream
  rw [h]
  rfl

/-- With headers that can be sent, an upload is one request that is followed. -/
theorem putStream_of_valid {headers : Headers} (h : requestHeaders slot size = .ok headers) :
    (putStream blockSize slot content size wanted).run = (do
      report wanted 0 size
      let exchange ← follow maxHops (putRequest blockSize slot content headers)
      account wanted size 0 ((blocksOf blockSize content).take exchange.taken)
      (conclude exchange).run) := by
  unfold putStream
  rw [h]
  simp only [Attempt.run_lift_bind]
  rfl

variable {blockSize slot content size wanted} in
/-- An upload is one request that is followed, and comes to what is handed over.  It
reports as many bytes as some first blocks have, of those that were taken. -/
theorem putStream_takes {headers : Headers} (hheaders : requestHeaders slot size = .ok headers)
    {ts : List Turn} {r : Except UploadError Unit}
    (h : (putStream blockSize slot content size wanted).run.Takes ts r) :
    let put := putRequest blockSize slot content headers
    ∃ final, r = outcome final ∧ Followed maxHops put (ts.filterMap Turn.talk?) final ∧
      ∀ count ∈ Turn.reported ts, ∃ k ≤ final.taken,
        count = (UInt64.ofNat (put.blocks.take k).flatten.length, size) := by
  intro put
  rw [putStream_of_valid blockSize slot content size wanted hheaders] at h
  have hlocal : ∀ {β : Type} {j : Job β} {us : List Turn} {b : β}, j.Asks IsAccount →
      j.Takes us b → us.filterMap Turn.talk? = [] :=
    fun hj hus => Turn.talks_eq_nil fun t ht => (hj.of_mem_takes hus t ht).isLocal
  have hsilent : ∀ {β : Type} {j : Job β} {us : List Turn} {b : β},
      j.Asks (fun q => ∀ done total, q ≠ .progress done total) → j.Takes us b →
        Turn.reported us = [] :=
    fun hj hus => Turn.reported_eq_nil (hj.of_mem_takes hus)
  obtain ⟨begun, _, _, rfl, hbegun, h⟩ := Job.takes_bind_iff.1 h
  obtain ⟨asked, _, final, rfl, hasked, h⟩ := Job.takes_bind_iff.1 h
  obtain ⟨accounted, concluded, _, rfl, haccounted, hconcluded⟩ := Job.takes_bind_iff.1 h
  refine ⟨final, conclude_takes hconcluded, ?_, fun count hcount => ?_⟩
  · rw [List.filterMap_append, List.filterMap_append, List.filterMap_append,
      hlocal (report_asks _ _ _) hbegun, hlocal (account_asks _ _ _ _) haccounted,
      hlocal (conclude_asks (fun _ => trivial) _) hconcluded, List.nil_append, List.append_nil,
      List.append_nil]
    exact follow_takes hasked
  · rw [Turn.reported_append, Turn.reported_append, Turn.reported_append,
      hsilent (follow_asks (fun _ => nofun) _ _) hasked,
      hsilent (conclude_asks (fun _ => nofun) _) hconcluded, List.nil_append,
      List.append_nil] at hcount
    rcases List.mem_append.1 hcount with hcount | hcount
    · exact ⟨0, Nat.zero_le _, report_takes_reported hbegun hcount⟩
    · obtain ⟨k, hk, rfl⟩ := account_takes_reported haccounted hcount
      rw [List.length_take] at hk
      have htaken := Nat.le_trans hk (Nat.min_le_left _ _)
      refine ⟨k, htaken, ?_⟩
      rw [List.take_take, Nat.min_eq_left htaken, UInt64.zero_add]
      rfl

/-- With good headers the put is sent, accounted for and judged. -/
theorem course_of_valid {headers : Headers} (h : requestHeaders slot size = .ok headers) :
    let put := putRequest blockSize slot content headers
    let job := (putStream blockSize slot content size wanted).run
    ∃ final, (job.run answer s).1 = outcome final ∧
      Followed maxHops put (job.talks answer s) final ∧
      ∀ count ∈ Turn.reported (job.turns answer s), ∃ k ≤ final.taken,
        count = (UInt64.ofNat (put.blocks.take k).flatten.length, size) :=
  putStream_takes h (Job.takes_run answer s _)

/-- With good headers the put is followed as any request is. -/
theorem followed_of_valid {headers : Headers} (h : requestHeaders slot size = .ok headers) :
    let job := (putStream blockSize slot content size wanted).run
    ∃ final, (job.run answer s).1 = outcome final ∧
      Followed maxHops (putRequest blockSize slot content headers) (job.talks answer s) final :=
  have ⟨final, hresult, hfollowed, _⟩ :=
    course_of_valid answer s blockSize slot content size wanted h
  ⟨final, hresult, hfollowed⟩

end Run

end Upload

end SlotUpload
