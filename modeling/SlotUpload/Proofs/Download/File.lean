import Mathlib.Data.List.Infix
import SlotUpload.Download.File
import SlotUpload.Proofs.Files.Tree
import SlotUpload.Proofs.Http.Redirection
import SlotUpload.Rehearsal.Basic

/-!
# SlotUpload.Proofs.Download.File

What a download leaves behind.  A download is one request that is followed; what it
does then depends on the reply that the client came to rest at alone (`finish`).
Without a success nothing is touched.  With one, the file holds the bytes that came,
the counter grew by as many, and as many were reported last, no matter in which
chunks they came and whether the body broke off (`fetched`).

The invariant of the loop over the chunks is a whole state: the file holds what came
so far, and everything else is as it was when the file was created (`run_write`).
-/

namespace SlotUpload.Download

open Http

/-! ## surroundings with servers -/

/-- Answers queries, with servers that can be reached and have a state of their own. -/
def reached {τ : Type} (server : Request → τ → Exchange × τ) : Answerer (Rehearsal × τ)
  | .exchange request, (r, s) => ((server request s).1, (r, (server request s).2))
  | q, (r, s) => ((Rehearsal.answer q r).1, ((Rehearsal.answer q r).2, s))

/-- Is a query about a server? -/
def IsExchange : Query → Prop
  | .exchange _ => True
  | _ => False

section Reached

variable {τ α : Type} {server : Request → τ → Exchange × τ}

/-- Requests leave the files, the counters and what was reported alone. -/
theorem fst_run_of_asks {job : Job α} (h : job.Asks IsExchange) (r : Rehearsal) (s : τ) :
    (job.run (reached server) (r, s)).2.1 = r := by
  induction job generalizing s with
  | done a => rfl
  | ask q next ih =>
      cases q with
      | exchange request => exact ih _ (h.2 _) _
      | _ => exact h.1.elim

end Reached

/-! ## what there is to expect -/

/-- The progress that is reported while chunks come, when `done` bytes were there
before: after each chunk, the bytes so far. -/
def reports (done : UInt64) (chunks : List (List UInt8)) : List (UInt64 × UInt64) :=
  (List.range chunks.length).map fun i =>
    (done + UInt64.ofNat (chunks.take (i + 1)).flatten.length, 0)

/-- The final reply is a success. -/
def Granted (exchange : Exchange) (reply : Response) : Prop :=
  exchange.result = .ok reply ∧ 200 ≤ reply.status.code ∧ reply.status.code < 300

/-- Files, counter and progress are as before. -/
structure Untouched (r r' : Rehearsal) : Prop where
  files_eq : r'.files = r.files
  received_eq : r'.stats.received = r.stats.received
  progress_eq : r'.progress = r.progress

/-- The body of a reply, as far as it came, is in the file, counted and reported. -/
structure Received (path : String) (place : Place) (reply : Response) (r r' : Rehearsal) :
    Prop where
  /-- Nothing but the file has changed. -/
  files_eq : r'.files = r.files.put place (.file reply.body)
  read_eq : r'.files.read path = .ok reply.body
  received_eq : r'.stats.received = r.stats.received + UInt64.ofNat reply.body.length
  progress_eq : r'.progress = r.progress ++ reports 0 reply.chunks
  /-- What was reported last, if anything was. -/
  last_eq : ((reports 0 reply.chunks).getLast?.map (·.1)).getD 0 =
    UInt64.ofNat reply.body.length
  monotone : reply.body.length < UInt64.size →
    (reports 0 reply.chunks).Pairwise fun a b => a.1 ≤ b.1

/-- What a download into a file comes to, given the final exchange. -/
structure Fetched (path : String) (exchange : Exchange) (r r' : Rehearsal)
    (result : Except UploadError UInt64) : Prop where
  /-- Without a success nothing is touched. -/
  refused : (∀ reply, ¬ Granted exchange reply) →
    Untouched r r' ∧ ∃ causes, result = .error (.transferFailed causes)
  /-- Nor is anything if the file cannot be created. -/
  not_created : ∀ reply e, Granted exchange reply → r.files.create path = .error e →
    Untouched r r' ∧ result = .error (.transferFailed ["create " ++ path, e.message])
  /-- A body that breaks off is an error; what came of it is kept. -/
  broken : ∀ reply place files text, Granted exchange reply →
    r.files.create path = .ok (place, files) → reply.fault = some text →
      Received path place reply r r' ∧ result = .error (.transferFailed [text])
  /-- A body that comes to its end is a download. -/
  complete : ∀ reply place files, Granted exchange reply →
    r.files.create path = .ok (place, files) → reply.fault = none → ∃ n, result = .ok n
  /-- Nothing else is one; it gives the length of the body, which is in the file. -/
  of_ok : ∀ n, result = .ok n → ∃ reply place files, Granted exchange reply ∧
    r.files.create path = .ok (place, files) ∧ reply.fault = none ∧
      Received path place reply r r' ∧ n = UInt64.ofNat reply.body.length

/-! ## reports -/

section Reports

variable (done : UInt64) (chunk : List UInt8) (chunks : List (List UInt8))

theorem reports_cons : reports done (chunk :: chunks) =
    (done + UInt64.ofNat chunk.length, 0) ::
      reports (done + UInt64.ofNat chunk.length) chunks := by
  rw [reports, reports, List.length_cons, List.range_succ_eq_map, List.map_cons, List.map_map]
  congr 1
  · simp
  · refine List.map_congr_left fun i _ => ?_
    simp [UInt64.ofNat_add, UInt64.add_assoc]

/-- The last report is of all that came. -/
theorem getLast?_reports : ((reports 0 chunks).getLast?.map (·.1)).getD 0 =
    UInt64.ofNat chunks.flatten.length := by
  rw [reports, List.getLast?_map, List.getLast?_range]
  cases chunks with
  | nil => rfl
  | cons chunk chunks => simp [List.take_of_length_le]

theorem length_flatten_take_le {i j : Nat} (h : i ≤ j) :
    (chunks.take i).flatten.length ≤ (chunks.take j).flatten.length := by
  rw [← List.take_append_drop i (chunks.take j), List.take_take, min_eq_left h,
    List.flatten_append, List.length_append]
  exact Nat.le_add_right _ _

/-- Reports do not go back as long as the count does not overflow. -/
theorem pairwise_reports (h : chunks.flatten.length < UInt64.size) :
    (reports 0 chunks).Pairwise fun a b => a.1 ≤ b.1 := by
  have hbound : ∀ i, (chunks.take i).flatten.length < UInt64.size := by
    intro i
    refine lt_of_le_of_lt ?_ h
    conv_rhs => rw [← List.take_append_drop i chunks, List.flatten_append, List.length_append]
    exact Nat.le_add_right _ _
  refine List.pairwise_map.2 (List.pairwise_lt_range.imp fun {i j} hij => ?_)
  rw [UInt64.zero_add, UInt64.zero_add, UInt64.le_iff_toNat_le]
  rw [UInt64.toNat_ofNat_of_lt' (hbound _), UInt64.toNat_ofNat_of_lt' (hbound _)]
  exact length_flatten_take_le chunks (Nat.succ_le_succ hij.le)

end Reports

/-! ## the loop over the chunks -/

section Run

variable {τ : Type} (server : Request → τ → Exchange × τ) {path : String} {place : Place}
  {t : FileTree}

/-- Writing to the file that was created adds to what it holds. -/
theorem reached_appendFile {content : List UInt8}
    (hholds : (t.put place (.file content)).Holds path place content) {r : Rehearsal}
    (hfiles : r.files = t.put place (.file content)) (s : τ) (chunk : List UInt8) :
    reached server (.appendFile path chunk) (r, s) =
      (.ok (), ({ r with files := t.put place (.file (content ++ chunk)) }, s)) := by
  simp only [reached, Rehearsal.answer, Rehearsal.change, hfiles, hholds.resolve_eq, Except.map,
    FileTree.append_put hholds.at?_eq]

/-- A query is answered, and the other steps follow. -/
theorem run_query_bind {σ β : Type} (answer : Answerer σ) (s : σ) (q : Query)
    (f : q.Answer → Attempt β) : (Attempt.query q >>= f : Attempt β).run.run answer s =
      (f (answer q s).1).run.run answer (answer q s).2 := by
  rw [Attempt.run_query_bind, Job.run_bind, Job.run_query]

/-- A chunk that can be written is counted and reported, and then the others follow. -/
theorem run_write_cons {σ : Type} (answer : Answerer σ) (s : σ) (done : UInt64)
    (chunk : List UInt8) (chunks : List (List UInt8)) {s' : σ}
    (happend : answer (.appendFile path chunk) (answer .wait s).2 = (.ok (), s')) :
    (write path done (chunk :: chunks)).run.run answer s =
      (write path (done + UInt64.ofNat chunk.length) chunks).run.run answer
        (answer (.progress (done + UInt64.ofNat chunk.length) 0)
          (answer (.countReceived (UInt64.ofNat chunk.length)) s').2).2 := by
  rw [write]
  refine (run_query_bind answer s .wait _).trans ?_
  refine (run_query_bind answer _ (.appendFile path chunk) _).trans ?_
  rw [happend]
  refine (run_query_bind answer s' (.countReceived _) _).trans ?_
  exact run_query_bind answer _ (.progress _ _) _

/-- After any chunks the file holds them after what it held before, and they are
counted and reported; all else is as it was. -/
theorem run_write (hholds : ∀ content, (t.put place (.file content)).Holds path place content)
    (chunks : List (List UInt8)) (content : List UInt8) (done : UInt64) (r : Rehearsal)
    (hfiles : r.files = t.put place (.file content)) (s : τ) :
    (write path done chunks).run.run (reached server) (r, s) =
      (.ok (done + UInt64.ofNat chunks.flatten.length),
        ({ r with
            files := t.put place (.file (content ++ chunks.flatten))
            stats := r.stats.addReceived (UInt64.ofNat chunks.flatten.length)
            progress := r.progress ++ reports done chunks }, s)) := by
  induction chunks generalizing content done r with
  | nil =>
      have hr : { r with
          files := t.put place (.file (content ++ [])), stats := r.stats.addReceived 0,
          progress := r.progress ++ [] } = r := by
        rw [List.append_nil, List.append_nil, ← hfiles, Http.Stats.addReceived, UInt64.add_zero]
      change (Except.ok done, (r, s)) = (Except.ok (done + 0), ({ r with
          files := t.put place (.file (content ++ [])), stats := r.stats.addReceived 0,
          progress := r.progress ++ [] }, s))
      rw [hr, UInt64.add_zero]
  | cons chunk chunks ih =>
      have happend := reached_appendFile server (hholds content) hfiles s chunk
      rw [run_write_cons (reached server) (r, s) done chunk chunks happend]
      simp only [reached, Rehearsal.answer]
      rw [ih (content ++ chunk) _ _ rfl]
      simp [reports_cons, Http.Stats.addReceived, UInt64.ofNat_add, UInt64.add_assoc]

/-! ## after the final exchange -/

/-- What a download does once the client hands over an exchange. -/
def finish (path : String) (exchange : Exchange) : Attempt UInt64 :=
  match exchange.result with
  | .error text => Upload.failWith (.transferFailed [text]) text
  | .ok response =>
    match judgeDownload response.status response.text with
    | .error e => Upload.failWith e e.message
    | .ok () => do
      match ← Attempt.query (.createFile path) with
      | .error e => throw (.transferFailed ["create " ++ path, e.message])
      | .ok () =>
        let size ← write path 0 response.chunks
        match response.fault with
        | none => return size
        | some text => Upload.failWith (.transferFailed [text]) text

/-- A download is one request and what is made of its reply. -/
theorem getToFile_eq (url : Url) (path : String) : (getToFile url path).run =
    follow maxHops { method := .get, url } >>= fun exchange => (finish path exchange).run := by
  unfold getToFile
  rw [Attempt.run_lift_bind]
  rfl

/-- A reply that grants the file is judged so. -/
theorem judgeDownload_of_granted {exchange : Exchange} {reply : Response}
    (h : Granted exchange reply) : judgeDownload reply.status reply.text = .ok () := by
  unfold judgeDownload Status.isSuccess
  simp [h.2.1, h.2.2]

/-- A reply that is no success is refused. -/
theorem judgeDownload_of_not_granted {exchange : Exchange} {reply : Response}
    (hresult : exchange.result = .ok reply) (h : ¬ Granted exchange reply) :
    ∃ text, judgeDownload reply.status reply.text = .error (.transferFailed [text]) := by
  unfold judgeDownload
  split
  · next hsuccess =>
      refine absurd ⟨hresult, ?_⟩ h
      simpa [Status.isSuccess] using hsuccess
  · exact ⟨_, rfl⟩

section Finish

variable {exchange : Exchange} {reply : Response} {r : Rehearsal} {s : τ}

theorem run_failWith (e : UploadError) (text : String) (r : Rehearsal) (s : τ) :
    (Upload.failWith e text : Attempt UInt64).run.run (reached server) (r, s) =
      (.error e, ({ r with stats := r.stats.noteError text }, s)) := rfl

/-- To note an error touches neither files nor reports. -/
theorem untouched_noteError (r : Rehearsal) (text : String) :
    Untouched r { r with stats := r.stats.noteError text } := ⟨rfl, rfl, rfl⟩

/-- Without a success the error is kept as the last one, and nothing else happens. -/
theorem run_finish_of_not_granted (h : ∀ reply, ¬ Granted exchange reply) :
    ∃ cause text, (finish path exchange).run.run (reached server) (r, s) =
      (.error (.transferFailed [cause]), ({ r with stats := r.stats.noteError text }, s)) := by
  unfold finish
  cases hresult : exchange.result with
  | error text => exact ⟨text, text, run_failWith server _ _ r s⟩
  | ok reply =>
      obtain ⟨text, htext⟩ := judgeDownload_of_not_granted hresult (h reply)
      simp only [htext]
      exact ⟨text, _, run_failWith server _ _ r s⟩

/-- After a success the file is created first. -/
theorem run_finish_of_granted (h : Granted exchange reply) :
    (finish path exchange).run.run (reached server) (r, s) =
      match r.files.create path with
      | .error e => (.error (.transferFailed ["create " ++ path, e.message]), (r, s))
      | .ok (_, files) =>
        (do
          let size ← write path 0 reply.chunks
          match reply.fault with
          | none => return size
          | some text => Upload.failWith (.transferFailed [text]) text :
            Attempt UInt64).run.run (reached server) ({ r with files }, s) := by
  unfold finish
  rw [h.1]
  simp only [judgeDownload_of_granted h]
  refine (run_query_bind (reached server) (r, s) (.createFile path) _).trans ?_
  simp only [reached, Rehearsal.answer, Rehearsal.change]
  cases r.files.create path with
  | error e => rfl
  | ok created => rfl

/-- With the body of a reply in the file, counted and reported. -/
def withBody (r : Rehearsal) (place : Place) (reply : Response) : Rehearsal :=
  { r with
    files := r.files.put place (.file reply.body)
    stats := r.stats.addReceived (UInt64.ofNat reply.body.length)
    progress := r.progress ++ reports 0 reply.chunks }

/-- Whatever error is noted then, the body was received. -/
theorem received_withBody {files : FileTree} (hcreate : r.files.create path = .ok (place, files))
    (reply : Response) (lastError : String) : Received path place reply r
      { withBody r place reply with
        stats := { (withBody r place reply).stats with lastError } } where
  files_eq := rfl
  read_eq := (FileTree.holds_put_of_create hcreate reply.body).read
  received_eq := rfl
  progress_eq := rfl
  last_eq := getLast?_reports reply.chunks
  monotone := pairwise_reports reply.chunks

/-- Once the file is created, the body goes there; a fault is noted after it. -/
theorem run_finish_of_created {files : FileTree} (h : Granted exchange reply)
    (hcreate : r.files.create path = .ok (place, files)) :
    (finish path exchange).run.run (reached server) (r, s) =
      match reply.fault with
      | none => (.ok (UInt64.ofNat reply.body.length), (withBody r place reply, s))
      | some text => (.error (.transferFailed [text]),
        ({ withBody r place reply with
          stats := (withBody r place reply).stats.noteError text }, s)) := by
  obtain ⟨-, -, -, rfl⟩ := FileTree.of_create_eq_ok hcreate
  have hwrite := run_write server (FileTree.holds_put_of_create hcreate) reply.chunks [] 0
    { r with files := r.files.put place (.file []) } rfl s
  rw [run_finish_of_granted server h, hcreate]
  dsimp only
  rw [ExceptT.run_bind, Job.run_bind, hwrite, UInt64.zero_add]
  cases reply.fault with
  | none => rfl
  | some text => rfl

/-- What is made of a reply is what should become of a download. -/
theorem fetched_finish (path : String) (exchange : Exchange) (r : Rehearsal) (s : τ) :
    Fetched path exchange r ((finish path exchange).run.run (reached server) (r, s)).2.1
      ((finish path exchange).run.run (reached server) (r, s)).1 where
  refused h := by
    obtain ⟨cause, text, hrun⟩ := run_finish_of_not_granted server (r := r) (s := s) h
    rw [hrun]
    exact ⟨untouched_noteError r text, [cause], rfl⟩
  not_created reply e h hcreate := by
    rw [run_finish_of_granted server h, hcreate]
    exact ⟨⟨rfl, rfl, rfl⟩, rfl⟩
  broken reply place files text h hcreate hfault := by
    rw [run_finish_of_created server h hcreate, hfault]
    exact ⟨received_withBody hcreate reply text, rfl⟩
  complete reply place files h hcreate hfault := by
    rw [run_finish_of_created server h hcreate, hfault]
    exact ⟨_, rfl⟩
  of_ok n hok := by
    by_cases h : ∃ reply, Granted exchange reply
    · obtain ⟨reply, hreply⟩ := h
      cases hcreate : r.files.create path with
      | error e =>
          rw [run_finish_of_granted server hreply, hcreate] at hok
          contradiction
      | ok created =>
          obtain ⟨place, files⟩ := created
          rw [run_finish_of_created server hreply hcreate] at hok ⊢
          cases hfault : reply.fault with
          | none =>
              rw [hfault] at hok
              cases hok
              exact ⟨reply, place, files, hreply, rfl, hfault,
                received_withBody hcreate reply _, rfl⟩
          | some text =>
              rw [hfault] at hok
              contradiction
    · obtain ⟨cause, text, hrun⟩ :=
        run_finish_of_not_granted server (r := r) (s := s) (not_exists.1 h)
      rw [hrun] at hok
      contradiction

/-- Writing chunks asks nothing of a session or server. -/
theorem write_asks (path : String) (done : UInt64) (chunks : List (List UInt8)) :
    (write path done chunks).run.Asks Query.IsLocal := by
  induction chunks generalizing done with
  | nil => exact .pure _
  | cons chunk chunks ih =>
      unfold write
      refine Attempt.asks_bind (Attempt.asks_query trivial) fun _ => ?_
      refine Attempt.asks_bind (Attempt.asks_query trivial) fun written => ?_
      cases written with
      | error e => exact .pure _
      | ok =>
          refine Attempt.asks_bind (Attempt.asks_query trivial) fun _ => ?_
          exact Attempt.asks_bind (Attempt.asks_query trivial) fun _ => ih _

theorem failWith_asks (e : UploadError) (text : String) :
    (Upload.failWith e text : Attempt UInt64).run.Asks Query.IsLocal :=
  ⟨trivial, fun _ => trivial⟩

/-- After the final exchange no server is asked. -/
theorem finish_asks (path : String) (exchange : Exchange) :
    (finish path exchange).run.Asks Query.IsLocal := by
  unfold finish
  split
  · exact failWith_asks _ _
  · split
    · exact failWith_asks _ _
    · refine Attempt.asks_bind (Attempt.asks_query trivial) fun created => ?_
      cases created with
      | error e => exact .pure _
      | ok =>
          refine Attempt.asks_bind (write_asks path 0 _) fun size => ?_
          split
          · exact .pure _
          · exact failWith_asks _ _

end Finish

end Run

/-- **What a download leaves behind**: for every server, file system and path, a
download is one request that is followed, and what it comes to is decided by the reply
that the client came to rest at. -/
theorem fetched {τ : Type} (server : Request → τ → Exchange × τ) (url : Url) (path : String)
    (r : Rehearsal) (s : τ) :
    let job := (getToFile url path).run
    let after := job.run (reached server) (r, s)
    ∃ final, Followed maxHops { method := .get, url } (job.talks (reached server) (r, s)) final ∧
      Fetched path final r after.2.1 after.1 := by
  intro job after
  let client := follow maxHops { method := .get, url }
  let exchange := (client.run (reached server) (r, s)).1
  have hjob : job = client >>= fun exchange => (finish path exchange).run := getToFile_eq url path
  have hclient : (client.run (reached server) (r, s)).2 =
      (r, (client.run (reached server) (r, s)).2.2) :=
    Prod.ext (fst_run_of_asks (follow_asks (fun _ => trivial) _ _) r s) rfl
  refine ⟨exchange, ?_, ?_⟩
  · rw [hjob, Job.talks_bind, Job.talks_eq_nil _ _ (finish_asks path exchange), List.append_nil]
    exact follow_followed _ _ _ _
  · have hafter : after = (finish path exchange).run.run (reached server)
        (r, (client.run (reached server) (r, s)).2.2) := by
      rw [← hclient]
      exact (congrArg (·.run (reached server) (r, s)) hjob).trans (Job.run_bind _ _ _ _)
    rw [hafter]
    exact fetched_finish server path exchange r _

end SlotUpload.Download
