import SlotUpload.Proofs.Download.File
import SlotUpload.Proofs.Upload.Integrity

/-!
# SlotUpload.Proofs.Upload.Progress

What is reported and counted while a body is sent.  The body is sent in blocks, so that
after some of them the bytes that were sent are a multiple of the size of a block, or all
there are (`milestones`).  The reports of an upload are zero and then the first of these
numbers, as many as blocks were taken; the counter of bytes that were sent grows by the last
of them, and does so too if nobody wants to know (`putStream_metered`).
-/

namespace SlotUpload.Upload

open Http Download

/-! ## the bytes of some first blocks -/

/-- How many bytes were sent after each block of a content of some length. -/
def milestones (blockSize length : Nat) : List Nat :=
  (List.range ((length + blockSize - 1) / blockSize)).map fun k => min ((k + 1) * blockSize) length

section Blocks

variable {blockSize : Nat} (content : List UInt8)

theorem length_blocksOf (hsize : 0 < blockSize) :
    (blocksOf blockSize content).length = (content.length + blockSize - 1) / blockSize := by
  induction content using blocksOf.induct blockSize with
  | case1 =>
      have hzero : (blockSize - 1) / blockSize = 0 := Nat.div_eq_of_lt (by omega)
      simp [blocksOf, hzero]
  | case2 b bs h => omega
  | case3 b bs h ih =>
      have hpos : 0 < (b :: bs).length := Nat.succ_pos _
      rw [blocksOf, if_neg h, List.length_cons, ih, List.length_drop]
      generalize (b :: bs).length = length at hpos
      have hlast : length + blockSize - 1 = length - 1 + blockSize := by omega
      rw [hlast, Nat.add_div_right _ hsize]
      congr 1
      by_cases hle : blockSize ≤ length
      · have hrest : length - blockSize + blockSize - 1 = length - 1 := by omega
        rw [hrest]
      · rw [Nat.div_eq_of_lt (by omega), Nat.div_eq_of_lt (by omega)]

/-- The first blocks are the beginning of the content. -/
theorem flatten_take_blocksOf (hsize : 0 < blockSize) (k : Nat) :
    ((blocksOf blockSize content).take k).flatten = content.take (k * blockSize) := by
  induction content using blocksOf.induct blockSize generalizing k with
  | case1 => simp [blocksOf]
  | case2 b bs h => omega
  | case3 b bs h ih =>
      cases k with
      | zero => simp
      | succ k =>
          have hsum : (k + 1) * blockSize = blockSize + k * blockSize := by
            rw [Nat.succ_mul, Nat.add_comm]
          rw [blocksOf, if_neg h, List.take_succ_cons, List.flatten_cons, ih, hsum, List.take_add]

/-- How many bytes the blocks have that were taken. -/
theorem length_flatten_take_blocksOf (hsize : 0 < blockSize) (k : Nat) :
    ((blocksOf blockSize content).take k).flatten.length =
      min (k * blockSize) content.length := by
  rw [flatten_take_blocksOf content hsize, List.length_take]

end Blocks

section Milestones

variable {blockSize length : Nat}

/-- After this many blocks there are more to come exactly if there are more bytes. -/
theorem lt_count_iff (hsize : 0 < blockSize) (k : Nat) :
    k < (length + blockSize - 1) / blockSize ↔ k * blockSize < length := by
  rw [← Nat.succ_le_iff, Nat.le_div_iff_mul_le hsize, Nat.succ_mul]
  omega

theorem take_milestones (n : Nat) : (milestones blockSize length).take n =
    (List.range (min n ((length + blockSize - 1) / blockSize))).map fun k =>
      min ((k + 1) * blockSize) length := by
  rw [milestones, ← List.map_take, List.take_range]

/-- No milestone is passed twice. -/
theorem pairwise_milestones (hsize : 0 < blockSize) :
    (0 :: milestones blockSize length).Pairwise (· < ·) := by
  rw [List.pairwise_cons]
  constructor
  · intro m hm
    obtain ⟨k, hk, rfl⟩ := List.mem_map.1 hm
    have hbefore := (lt_count_iff hsize k).1 (List.mem_range.1 hk)
    have hafter : 0 < (k + 1) * blockSize := Nat.mul_pos (Nat.succ_pos k) hsize
    omega
  · rw [milestones, List.pairwise_map]
    refine List.pairwise_lt_range.imp_of_mem ?_
    intro i j hi hj hij
    have hbefore := (lt_count_iff hsize j).1 (List.mem_range.1 hj)
    have hstep : (i + 1) * blockSize ≤ j * blockSize := Nat.mul_le_mul_right _ hij
    have hnext : j * blockSize < (j + 1) * blockSize := by
      rw [Nat.succ_mul]
      omega
    omega

example : milestones 2 5 = [2, 4, 5] := by decide

end Milestones

/-! ## the steps of an upload -/

section Steps

variable {τ : Type} (server : Request → τ → Exchange × τ) (s : τ)

/-- What is asked of servers does not depend on anything but them. -/
theorem exists_course_of_asks {α : Type} {job : Job α} (h : job.Asks IsExchange) :
    ∃ a s' talks, ∀ r, job.run (reached server) (r, s) = (a, (r, s')) ∧
      job.talks (reached server) (r, s) = talks := by
  induction job generalizing s with
  | done a => exact ⟨a, s, [], fun _ => ⟨rfl, rfl⟩⟩
  | ask q next ih =>
      cases q with
      | exchange request =>
          obtain ⟨a, s', talks, hcourse⟩ := ih (server request s).1 (server request s).2 (h.2 _)
          refine ⟨a, s', (request, (server request s).1) :: talks, fun r => ?_⟩
          obtain ⟨hrun, htalks⟩ := hcourse r
          exact ⟨hrun, congrArg (_ :: ·) htalks⟩
      | _ => exact h.1.elim

/-- The progress that is reported while blocks are sent, when `done` bytes were sent before. -/
def progressOf (total done : UInt64) (blocks : List (List UInt8)) : List (UInt64 × UInt64) :=
  (reports done blocks).map fun report => (report.1, total)

theorem run_report (wanted : Bool) (done total : UInt64) (r : Rehearsal) :
    (report wanted done total).run (reached server) (r, s) =
      ((), ({ r with progress := r.progress ++ if wanted then [(done, total)] else [] }, s)) := by
  cases wanted with
  | true => rfl
  | false => simp [report]

/-- A block is counted and reported, and then the others follow. -/
theorem run_account_cons {σ : Type} (answer : Answerer σ) (wanted : Bool) (total done : UInt64)
    (block : List UInt8) (blocks : List (List UInt8)) (s : σ) :
    let n := UInt64.ofNat block.length
    (account wanted total done (block :: blocks)).run answer s =
      (account wanted total (done + n) blocks).run answer
        ((report wanted (done + n) total).run answer
          (answer (.countSent n) (answer .wait s).2).2).2 :=
  Job.run_bind answer _ (report wanted _ total) _

/-- After any blocks they are counted, and reported if anyone wants to know; all else is as
it was. -/
theorem run_account (wanted : Bool) (total done : UInt64) (blocks : List (List UInt8))
    (r : Rehearsal) : (account wanted total done blocks).run (reached server) (r, s) =
      ((), ({ r with
              stats := r.stats.addSent (UInt64.ofNat blocks.flatten.length)
              progress := r.progress ++ if wanted then progressOf total done blocks else [] },
            s)) := by
  induction blocks generalizing done r with
  | nil =>
      have hprogress : (r.progress ++ if wanted then progressOf total done [] else []) =
          r.progress := by
        cases wanted <;> simp [progressOf, reports]
      rw [hprogress]
      simp [account, Stats.addSent]
  | cons block blocks ih =>
      have hcounted : (reached server (.countSent (UInt64.ofNat block.length))
          (reached server .wait (r, s)).2).2 =
            ({ r with stats := r.stats.addSent (UInt64.ofNat block.length) }, s) := rfl
      rw [run_account_cons, hcounted, run_report, ih]
      cases wanted <;>
        simp [Stats.addSent, progressOf, reports_cons, UInt64.ofNat_add, UInt64.add_assoc]

/-- The statistics when an upload is over: they keep its error, if there is one. -/
def concluded (exchange : Exchange) (stats : Stats) : Stats :=
  match exchange.result with
  | .error text => stats.noteError text
  | .ok response =>
    match judgeUpload response.status response.text with
    | .ok () => stats
    | .error e => stats.noteError e.message

/-- The end of an exchange leaves the count of sent bytes. -/
theorem sent_concluded (exchange : Exchange) (stats : Stats) :
    (concluded exchange stats).sent = stats.sent := by
  unfold concluded
  split
  · rfl
  · split <;> rfl

/-- The end of an exchange is its outcome, and is noted. -/
theorem run_conclude (exchange : Exchange) (r : Rehearsal) :
    (conclude exchange).run.run (reached server) (r, s) =
      (outcome exchange, ({ r with stats := concluded exchange r.stats }, s)) := by
  unfold conclude outcome concluded
  cases exchange.result with
  | error text => rfl
  | ok response =>
      dsimp only
      cases judgeUpload response.status response.text with
      | ok _ => rfl
      | error e => rfl

end Steps

/-! ## an upload -/

/-- How many bytes were sent at each report, when this many blocks were taken: none, and
then those of the blocks so far. -/
def countsOf (blockSize length taken : Nat) : List Nat :=
  0 :: (milestones blockSize length).take taken

section Counts

variable {blockSize : Nat} (hsize : 0 < blockSize)
include hsize

theorem pairwise_countsOf (length taken : Nat) :
    (countsOf blockSize length taken).Pairwise (· < ·) :=
  (pairwise_milestones hsize).sublist ((List.take_sublist taken _).cons_cons 0)

/-- The last count is what was taken, but no more than there is. -/
theorem getLastD_countsOf (length taken : Nat) :
    (countsOf blockSize length taken).getLastD 0 = min (taken * blockSize) length := by
  rw [countsOf, List.getLastD_cons, take_milestones, List.getLastD_eq_getLast?, List.getLast?_map,
    List.getLast?_range]
  have hcount : ∀ k, k < (length + blockSize - 1) / blockSize ↔ k * blockSize < length :=
    lt_count_iff hsize
  generalize (length + blockSize - 1) / blockSize = count at hcount
  by_cases hle : taken ≤ count
  · rw [min_eq_left hle]
    cases taken with
    | zero => simp
    | succ k => simp
  · -- all blocks were taken
    have hall : length ≤ count * blockSize := Nat.le_of_not_lt ((hcount count).not.1 (by omega))
    have hmore : count * blockSize ≤ taken * blockSize := Nat.mul_le_mul_right _ (by omega)
    rw [min_eq_right (by omega)]
    cases count with
    | zero =>
        rw [Nat.zero_mul] at hall
        simp [Nat.le_zero.1 hall]
    | succ k =>
        simp only [Nat.add_eq_zero_iff, Nat.one_ne_zero, and_false, if_false, Option.map_some,
          Option.getD_some, Nat.add_sub_cancel]
        omega

theorem getLast?_countsOf (length taken : Nat) :
    (countsOf blockSize length taken).getLast? = some (min (taken * blockSize) length) := by
  have hlast := getLastD_countsOf hsize length taken
  rw [countsOf, List.getLastD_cons, List.getLastD_eq_getLast?] at hlast
  rw [countsOf, List.getLast?_cons, hlast]

theorem le_getLastD_countsOf {length taken n : Nat} (hn : n ∈ countsOf blockSize length taken) :
    n ≤ (countsOf blockSize length taken).getLastD 0 := by
  rw [getLastD_countsOf hsize]
  rw [countsOf, take_milestones] at hn
  rcases List.mem_cons.1 hn with rfl | hn
  · exact Nat.zero_le _
  · obtain ⟨k, hk, rfl⟩ := List.mem_map.1 hn
    have hlt : k < taken := lt_of_lt_of_le (List.mem_range.1 hk) (Nat.min_le_left _ _)
    have hle : (k + 1) * blockSize ≤ taken * blockSize := Nat.mul_le_mul_right _ hlt
    omega

/-- Counts that do not overflow are different when they are reported. -/
theorem pairwise_reported {length taken : Nat}
    (hlast : (countsOf blockSize length taken).getLastD 0 < UInt64.size) :
    ((countsOf blockSize length taken).map UInt64.ofNat).Pairwise (· < ·) := by
  have hbound : ∀ n ∈ countsOf blockSize length taken, n < UInt64.size :=
    fun n hn => lt_of_le_of_lt (le_getLastD_countsOf hsize hn) hlast
  refine List.pairwise_map.2 ((pairwise_countsOf hsize length taken).imp_of_mem ?_)
  intro m n hm hn hmn
  rw [UInt64.lt_iff_toNat_lt, UInt64.toNat_ofNat_of_lt' (hbound m hm),
    UInt64.toNat_ofNat_of_lt' (hbound n hn)]
  exact hmn

theorem count_zero_reported {length taken : Nat}
    (hlast : (countsOf blockSize length taken).getLastD 0 < UInt64.size) :
    ((countsOf blockSize length taken).map UInt64.ofNat).count 0 = 1 := by
  have hcons : (countsOf blockSize length taken).map UInt64.ofNat =
      0 :: ((milestones blockSize length).take taken).map UInt64.ofNat := rfl
  have hpairwise := pairwise_reported hsize hlast
  rw [hcons, List.pairwise_cons] at hpairwise
  have hrest : 0 ∉ ((milestones blockSize length).take taken).map UInt64.ofNat :=
    fun hmem => lt_irrefl 0 (hpairwise.1 0 hmem)
  rw [hcons, List.count_cons_self, List.count_eq_zero.2 hrest]

/-- The progress of an upload is what was reported before the request, and then the counts
after each block. -/
theorem cons_progressOf (content : List UInt8) (size : UInt64) (taken : Nat) :
    (0, size) :: progressOf size 0 ((blocksOf blockSize content).take taken) =
      (countsOf blockSize content.length taken).map fun n => (UInt64.ofNat n, size) := by
  rw [countsOf, List.map_cons, take_milestones, List.map_map, progressOf, reports, List.map_map,
    List.length_take, length_blocksOf content hsize]
  congr 1
  refine List.map_congr_left fun k hk => ?_
  have hlt : k < taken := lt_of_lt_of_le (List.mem_range.1 hk) (Nat.min_le_left _ _)
  have htake : ((blocksOf blockSize content).take taken).take (k + 1) =
      (blocksOf blockSize content).take (k + 1) := by
    rw [List.take_take, min_eq_left hlt]
  simp only [Function.comp_apply, htake, length_flatten_take_blocksOf content hsize,
    UInt64.zero_add]

end Counts

section Run

variable {τ : Type} (server : Request → τ → Exchange × τ) {blockSize : Nat} {slot : Slot}
  {content : List UInt8} {size : UInt64}

/-- What an upload leaves behind that comes to this exchange, with so many bytes sent at each
report. -/
def afterUpload (wanted : Bool) (size : UInt64) (counts : List Nat) (final : Exchange)
    (r : Rehearsal) : Rehearsal :=
  { r with
    stats := concluded final (r.stats.addSent (UInt64.ofNat (counts.getLastD 0)))
    progress := r.progress ++
      if wanted then counts.map fun n => (UInt64.ofNat n, size) else [] }

/-- The first answer to a request is that of the server. -/
theorem exists_talks_follow (hops : Nat) (request : Request) (r : Rehearsal) (s : τ) :
    ∃ later, (follow hops request).talks (reached server) (r, s) =
      (request, (server request s).1) :: later := by
  unfold follow
  exact ⟨_, Job.talks_bind (reached server) (r, s) _ _⟩

/-- What an upload asks of servers is the same whether progress is wanted or not, and with it
what the upload comes to. -/
theorem putStream_course (hsize : 0 < blockSize) {headers : Headers}
    (h : requestHeaders slot size = .ok headers) (s : τ) :
    let put := putRequest blockSize slot content headers
    ∃ final s' talks, Followed maxHops put talks final ∧
      (∃ later, talks = (put, (server put s).1) :: later) ∧
      ∀ wanted r, let job := (putStream blockSize slot content size wanted).run
        job.talks (reached server) (r, s) = talks ∧ job.run (reached server) (r, s) =
          (outcome final, (afterUpload wanted size
            (countsOf blockSize content.length final.taken) final r, s')) := by
  intro put
  obtain ⟨final, s', talks, hcourse⟩ := exists_course_of_asks server s
    (follow_asks (fun _ => trivial) maxHops put)
  have hlocal : ∀ {β : Type} {j : Job β} (st : Rehearsal × τ), j.Asks IsAccount →
      j.talks (reached server) st = [] :=
    fun st hj => Job.talks_eq_nil _ st (hj.imp fun _ => IsAccount.isLocal)
  refine ⟨final, s', talks, ?_, ?_, fun wanted r => ?_⟩
  · have hfollowed := follow_followed (reached server) maxHops put (unscripted, s)
    obtain ⟨hrun, htalks⟩ := hcourse unscripted
    rwa [hrun, htalks] at hfollowed
  · exact (hcourse unscripted).2 ▸ exists_talks_follow server maxHops put unscripted s
  · have hput : putRequest blockSize slot content headers = put := rfl
    rw [putStream_of_valid blockSize slot content size wanted h, hput]
    constructor
    · simp only [Job.talks_bind, hlocal _ (report_asks _ _ _), hlocal _ (account_asks _ _ _ _),
        hlocal _ (conclude_asks (fun _ => trivial) _), run_report, (hcourse _).2, List.nil_append,
        List.append_nil]
    · have hbytes : ((blocksOf blockSize content).take final.taken).flatten.length =
          (countsOf blockSize content.length final.taken).getLastD 0 := by
        rw [getLastD_countsOf hsize, length_flatten_take_blocksOf content hsize]
      simp only [Job.run_bind, run_report, (hcourse _).1, run_account, run_conclude, afterUpload,
        hbytes, ← cons_progressOf hsize]
      cases wanted <;> simp

end Run

/-- What an upload reports and counts of a content of some length, when this many blocks were
taken. -/
structure Metered (blockSize length taken : Nat) (size : UInt64) (wanted : Bool)
    (before after : Rehearsal) : Prop where
  progress_eq : after.progress = before.progress ++
    if wanted then (countsOf blockSize length taken).map fun n => (UInt64.ofNat n, size) else []
  /-- The counter grows by the last count, which is that of all bytes that were taken. -/
  sent_eq : after.stats.sent =
    before.stats.sent + UInt64.ofNat ((countsOf blockSize length taken).getLastD 0)
  last_eq : (countsOf blockSize length taken).getLastD 0 = min (taken * blockSize) length
  increasing : (countsOf blockSize length taken).Pairwise (· < ·)
  /-- As long as the count does not overflow, what is reported grows with it, and is zero only
  before the request. -/
  reported : (countsOf blockSize length taken).getLastD 0 < UInt64.size →
    ((countsOf blockSize length taken).map UInt64.ofNat).Pairwise (· < ·) ∧
      ((countsOf blockSize length taken).map UInt64.ofNat).count 0 = 1

section Metered

variable {blockSize : Nat} {size : UInt64}

/-- An upload that has been answered is metered. -/
theorem metered_afterUpload (hsize : 0 < blockSize) (length : Nat) (wanted : Bool)
    (final : Exchange) (r : Rehearsal) : Metered blockSize length final.taken size wanted r
      (afterUpload wanted size (countsOf blockSize length final.taken) final r) where
  progress_eq := rfl
  sent_eq := sent_concluded final _
  last_eq := getLastD_countsOf hsize length final.taken
  increasing := pairwise_countsOf hsize length final.taken
  reported hlast := ⟨pairwise_reported hsize hlast, count_zero_reported hsize hlast⟩

/-- A client that minds the length of bodies has taken all of them if the upload ends well. -/
theorem length_le_of_outcome_eq_ok (hsize : 0 < blockSize) {slot : Slot} {content : List UInt8}
    {headers : Headers} {final first : Exchange} {talks later : List Talk}
    (hheaders : requestHeaders slot size = .ok headers) (hslot : IsPlain slot)
    (hlength : content.length = size.toNat)
    (hfollowed : Followed maxHops (putRequest blockSize slot content headers) talks final)
    (htalks : talks = (putRequest blockSize slot content headers, first) :: later)
    (hclient : MindsLength (putRequest blockSize slot content headers) first)
    (hok : outcome final = .ok ()) : content.length ≤ final.taken * blockSize := by
  obtain ⟨last, hlast, -⟩ := outcome_eq_ok_iff.1 hok
  obtain ⟨reply, hreply⟩ := hfollowed.exists_first htalks hlast
  have hwhole : size.toNat ≤ ((blocksOf blockSize content).take first.taken).flatten.length :=
    hclient.whole _ (declared?_putRequest hslot hheaders) reply hreply
  rw [length_flatten_take_blocksOf content hsize, ← hfollowed.taken_eq htalks] at hwhole
  omega

end Metered

/-- **Progress and accounting**: without headers that can be sent, an upload asks no server,
reports nothing and counts nothing.  With them its PUT is the first request, and it reports
and counts the blocks of it that were taken; it counts the same if nobody wants to know.  If
it ends well with a plain slot and a content of the size that was given, of a client that
minds the length of bodies, then the last report is of all bytes. -/
theorem putStream_metered {τ : Type} (server : Request → τ → Exchange × τ) (r : Rehearsal) (s : τ)
    (blockSize : Nat) (slot : Slot) (content : List UInt8) (size : UInt64) (wanted : Bool)
    (hsize : 0 < blockSize) :
    let job := fun wanted => (putStream blockSize slot content size wanted).run
    let ran := fun wanted => (job wanted).run (reached server) (r, s)
    (∀ e, requestHeaders slot size = .error e →
      (job wanted).talks (reached server) (r, s) = [] ∧
        ran wanted = (.error (.malformedReply e.message), (r, s))) ∧
    ∀ headers, requestHeaders slot size = .ok headers →
      let put := putRequest blockSize slot content headers
      let exchange := (server put s).1
      let after := (ran wanted).2.1
      (∃ later, ∀ wanted, (job wanted).talks (reached server) (r, s) = (put, exchange) :: later) ∧
        Metered blockSize content.length exchange.taken size wanted r after ∧
        after.stats = (ran (!wanted)).2.1.stats ∧
        (wanted → (ran wanted).1 = .ok () → content.length = size.toNat → IsPlain slot →
          MindsLength put exchange → after.progress.getLast? =
            some (UInt64.ofNat content.length, size)) := by
  intro job ran
  constructor
  · intro e he
    have hjob : job wanted = pure (.error (.malformedReply e.message)) :=
      putStream_of_invalid blockSize slot content size wanted he
    constructor
    · rw [hjob, Job.talks_pure]
    · exact congrArg (Job.run (reached server) · (r, s)) hjob
  · intro headers hheaders put exchange after
    obtain ⟨final, s', talks, hfollowed, ⟨later, htalks⟩, hcourse⟩ :=
      putStream_course server hsize hheaders s
    have htaken : final.taken = exchange.taken := hfollowed.taken_eq htalks
    have hran : ∀ wanted, ran wanted = _ := fun wanted => (hcourse wanted r).2
    have hafter : after = _ := congrArg (·.2.1) (hran wanted)
    rw [hafter, ← htaken]
    refine ⟨⟨later, fun wanted => (hcourse wanted r).1.trans htalks⟩,
      metered_afterUpload hsize content.length wanted final r, ?_, ?_⟩
    · exact (congrArg (·.2.1.stats) (hran (!wanted))).symm
    · intro hwanted hok hlength hslot hclient
      have hall := length_le_of_outcome_eq_ok hsize hheaders hslot hlength hfollowed htalks hclient
        ((congrArg Prod.fst (hran wanted)).symm.trans hok)
      simp [afterUpload, hwanted, getLast?_countsOf hsize, Nat.min_eq_right hall]

/-- An upload that breaks off after its first block reports and counts this block. -/
theorem putStream_metered_broken :
    let server : Request → Unit → Exchange × Unit :=
      fun _ s => ({ taken := 1, result := .error "connection reset" }, s)
    let after := ((putStream 2 loopbackSlot [1, 2, 3, 4, 5] 5 true).run.run (reached server)
      (unscripted, ())).2.1
    0 < 2 ∧ after.progress = [(0, 5), (2, 5)] ∧ after.stats.sent = 2 := by
  intro server after
  obtain ⟨-, hvalid⟩ := putStream_metered server unscripted () 2 loopbackSlot [1, 2, 3, 4, 5] 5
    true Nat.two_pos
  obtain ⟨-, hmetered, -⟩ := hvalid [("content-type", octetStream), ("content-length", "5")] rfl
  exact ⟨Nat.two_pos, hmetered.progress_eq, hmetered.sent_eq⟩

end SlotUpload.Upload
