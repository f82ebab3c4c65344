import SlotUpload.Command.Run
import SlotUpload.Proofs.Download.File
import SlotUpload.Proofs.Files.Tree
import SlotUpload.Proofs.Job.Turns
import SlotUpload.Proofs.Url.FileName

/-!
# SlotUpload.Proofs.Command.Destination

Where a download goes for which no destination was given.  All that is written goes
to one path, which is the name of the file as seen from the download directory.  If
that name is one of an entry, the file that is created is an entry of the directory;
and it is one exactly if the last segment of the URL spells no slash and is no dot
segment (`contained`).  A segment that spells a slash leads elsewhere
(`not_forall_entry`).
-/

namespace SlotUpload

/-! ## what is written -/

/-- The path at which a query writes to a file. -/
def Query.written? : Query → Option String
  | .createFile path => some path
  | .appendFile path _ => some path
  | .startLog path => some path
  | _ => none

/-- Does a query write to files at a path alone? -/
def Query.WritesTo (path : String) (q : Query) : Prop := ∀ p, q.written? = some p → p = path

/-- Does a query write to no file? -/
def Query.WritesNothing (q : Query) : Prop := q.written? = none

/-- What writes nothing writes to no other file. -/
theorem Query.WritesNothing.writesTo {q : Query} (h : q.WritesNothing) (path : String) :
    q.WritesTo path := by
  intro p hp
  rw [h] at hp
  contradiction

namespace Job

variable {α : Type} {P : Query → Prop}

/-- A job asks what it asked before when its reports are told in another way, and what
telling them asks. -/
theorem Asks.onProgress {f : UInt64 → UInt64 → Job Unit} (hf : ∀ done total, (f done total).Asks P)
    {j : Job α} (hj : j.Asks P) : (j.onProgress f).Asks P := by
  induction j with
  | done a => trivial
  | ask q next ih =>
      cases q with
      | progress done total => exact .bind (hf done total) fun answer => ih answer (hj.2 answer)
      | _ => exact ⟨hj.1, fun answer => ih answer (hj.2 answer)⟩

end Job

namespace Http

/-- Certificates are only read. -/
theorem readCertificates_asks (paths : List String) :
    (readCertificates paths).Asks Query.WritesNothing := by
  induction paths with
  | nil => exact .pure _
  | cons path paths ih =>
      unfold readCertificates
      refine .bind (.query rfl) fun file => ?_
      split
      · exact .pure _
      · split
        · exact .pure _
        · refine .bind ih fun files => ?_
          split <;> exact .pure _

/-- Setting up a client writes nothing. -/
theorem setUp_asks (s : Settings) : (setUp s).Asks Query.WritesNothing := by
  unfold setUp
  refine .bind (readCertificates_asks s.certificates) fun files => ?_
  split
  · exact .pure _
  · split
    · exact .pure _
    · split
      · exact .pure _
      · exact .bind (.query rfl) fun _ => .pure _

end Http

namespace Download

variable {path : String}

theorem writesTo_of_written?_eq {q : Query} (h : q.written? = some path) : q.WritesTo path := by
  intro p hp
  exact Option.some.inj (hp.symm.trans h)

/-- The chunks of a download are appended to its file and to no other. -/
theorem write_asks_writesTo (done : UInt64) (chunks : List (List UInt8)) :
    (write path done chunks).run.Asks (Query.WritesTo path) := by
  induction chunks generalizing done with
  | nil => exact .pure _
  | cons chunk chunks ih =>
      unfold write
      have hnone {q : Query} (h : q.WritesNothing) : q.WritesTo path := h.writesTo path
      refine Attempt.asks_bind (Attempt.asks_query (hnone rfl)) fun _ => ?_
      refine Attempt.asks_bind (Attempt.asks_query (writesTo_of_written?_eq rfl)) fun written => ?_
      cases written with
      | error e => exact .pure _
      | ok =>
          refine Attempt.asks_bind (Attempt.asks_query (hnone rfl)) fun _ => ?_
          exact Attempt.asks_bind (Attempt.asks_query (hnone rfl)) fun _ => ih _

theorem failWith_asks_writesTo {α : Type} (e : UploadError) (text : String) :
    (Upload.failWith e text : Attempt α).run.Asks (Query.WritesTo path) :=
  ⟨nofun, fun _ => trivial⟩

/-- After the final exchange a download writes to its own path alone. -/
theorem finish_asks_writesTo (exchange : Http.Exchange) :
    (finish path exchange).run.Asks (Query.WritesTo path) := by
  unfold finish
  split
  · exact failWith_asks_writesTo _ _
  · split
    · exact failWith_asks_writesTo _ _
    · refine Attempt.asks_bind (Attempt.asks_query (writesTo_of_written?_eq rfl)) fun created => ?_
      cases created with
      | error e => exact .pure _
      | ok =>
          refine Attempt.asks_bind (write_asks_writesTo 0 _) fun size => ?_
          split
          · exact .pure _
          · exact failWith_asks_writesTo _ _

/-- A download writes to its destination only. -/
theorem getToFile_asks_writesTo (url : Url) :
    (getToFile url path).run.Asks (Query.WritesTo path) := by
  rw [getToFile_eq]
  exact .bind (Http.follow_asks (fun _ => nofun) _ _) fun exchange => finish_asks_writesTo exchange

end Download

namespace Command

/-- A part of the program asks only for what its own parts ask for. -/
theorem asks_bind {α β : Type} {P : Query → Prop} {x : Part α} {f : α → Part β}
    (hx : x.run.Asks P) (hf : ∀ a, (f a).run.Asks P) : (x >>= f : Part β).run.Asks P := by
  rw [ExceptT.run_bind]
  refine hx.bind ?_
  rintro (e | a)
  · exact .pure _
  · exact hf a

theorem ask_asks {P : Query → Prop} {q : Query} (h : P q) : (ask q).run.Asks P :=
  ⟨h, fun _ => trivial⟩

/-- A transfer asks for no more than its work, its reports and the log. -/
theorem attempt_asks {α : Type} {P : Query → Prop} {text : String}
    {progress : UInt64 → UInt64 → Job Unit} {job : Attempt α}
    (hprogress : ∀ done total, (progress done total).Asks P) (hjob : job.run.Asks P) :
    (attempt text progress job).run.Asks P := by
  unfold attempt
  refine .bind (.onProgress hprogress hjob) fun result => ?_
  cases result with
  | error e => exact .pure _
  | ok a => exact .pure _

/-- What a download does when its path is known. -/
def fetchTo (u : Url) (path : String) : Part Unit := do
  let progress (received _ : UInt64) : Job Unit :=
    Job.query (.printError ("\r" ++ count received ++ " bytes"))
  let size ← attempt ("download " ++ u.toString) progress (Download.getToFile u path)
  ask (.printError "\n")
  ask (.log (finishedEntry "download finished" [("url", u.toString), ("bytes", count size)]))
  ask (.print (path ++ "\n"))

/-- Without a path of its own a file goes to the place that its URL gives. -/
theorem get_none (s : Settings) (u : Url) : get s u none =
    ExceptT.mk (Http.setUp s) >>= fun _ =>
      ExceptT.mk (.done (destinationOf s u)) >>= fetchTo u := rfl

/-- Fetching writes to the given path only. -/
theorem fetchTo_asks (u : Url) (path : String) :
    (fetchTo u path).run.Asks (Query.WritesTo path) := by
  unfold fetchTo
  refine asks_bind (attempt_asks (fun _ _ => .query nofun) ?_) fun size => ?_
  · exact Download.getToFile_asks_writesTo u
  · refine asks_bind (ask_asks nofun) fun _ => ?_
    refine asks_bind (ask_asks nofun) fun _ => ?_
    exact ask_asks nofun

/-- Whatever a download without a destination writes goes to the path that is made for
it; if none can be made, nothing is written. -/
theorem get_asks (s : Settings) (u : Url) : (get s u none).run.Asks fun q =>
    ∀ path, q.written? = some path → destinationOf s u = .ok path := by
  rw [get_none]
  refine asks_bind ((Http.setUp_asks s).imp fun q hq path hpath => ?_) fun _ => ?_
  · rw [hq] at hpath
    contradiction
  · cases destinationOf s u with
    | error causes => trivial
    | ok path =>
        refine (fetchTo_asks u path).imp fun q hq p hp => ?_
        rw [hq p hp]

/-! ## where it goes -/

/-- Where a download goes for which no destination was given. -/
structure Contained (s : Settings) (u : Url) : Prop where
  /-- All that is written goes to one path, whatever the answers are. -/
  written : ∀ {σ : Type} (answer : Answerer σ) (state : σ),
    ∀ turn ∈ (get s u none).run.turns answer state, ∀ path, turn.query.written? = some path →
      destinationOf s u = .ok path
  /-- There is such a path exactly if there is a name. -/
  destination_iff : (∃ path, destinationOf s u = .ok path) ↔ u.fileName ≠ ""
  /-- The name is one of an entry, unless a slash or dots are spelled. -/
  isEntry_iff : u.fileName ≠ "" → (Path.IsEntry u.fileName ↔
    ¬ Url.EncodesSlash u.lastSegment.toList ∧
      ¬ Url.isSingleDot u.lastSegment ∧ ¬ Url.isDoubleDot u.lastSegment)
  /-- Dots are spelled in URLs of files alone. -/
  undotted : u.scheme ≠ "file" →
    Url.isSingleDot u.lastSegment = false ∧ Url.isDoubleDot u.lastSegment = false
  /-- Under the name of an entry the file is an entry of the download directory. -/
  place : Path.IsEntry u.fileName → ∀ path (t : FileTree) place t',
    destinationOf s u = .ok path → t.create path = .ok (place, t') →
      ∃ dir, t.LeadsTo (s.downloadDirectory.getD "") dir ∧ place = dir ++ [u.fileName]

/-- A download goes below its directory, under the name that the URL gives. -/
theorem destinationOf_eq_ok_iff {s : Settings} {u : Url} {path : String} :
    destinationOf s u = .ok path ↔
      u.fileName ≠ "" ∧ path = Path.join (s.downloadDirectory.getD "") u.fileName := by
  unfold destinationOf
  split
  · next h =>
      rw [String.isEmpty_iff] at h
      simp [h]
  · next h =>
      rw [String.isEmpty_iff] at h
      simp [h, eq_comm]

/-- **A download stays in its directory** unless the last segment of the URL spells a
slash or is a dot segment; the latter is never so but in URLs of files. -/
theorem contained {text : String} {u : Url} (h : Url.parse text = .ok u) (s : Settings) :
    Contained s u where
  written answer state turn hturn path hpath :=
    (get_asks s u).of_mem_turns answer state hturn path hpath
  destination_iff := by
    constructor
    · rintro ⟨path, hpath⟩
      exact (destinationOf_eq_ok_iff.1 hpath).1
    · intro hname
      exact ⟨_, destinationOf_eq_ok_iff.2 ⟨hname, rfl⟩⟩
  isEntry_iff := Url.isEntry_fileName_iff (Url.slash_not_mem_lastSegment h)
  undotted := Url.lastSegment_undotted h
  place hentry path t place t' hpath hcreate := by
    obtain ⟨-, rfl⟩ := destinationOf_eq_ok_iff.1 hpath
    exact FileTree.place_of_create_join hentry hcreate

/-- A file that is shared under a plain name is downloaded into the directory. -/
theorem contained_plainName : Contained {} (Url.onLoopback "a.txt") ∧
    Path.IsEntry (Url.onLoopback "a.txt").fileName := by
  have hcontained : Contained {} (Url.onLoopback "a.txt") := contained Url.parse_plainName {}
  have hlast : (Url.onLoopback "a.txt").lastSegment = "a.txt" := rfl
  have hname : (Url.onLoopback "a.txt").fileName ≠ "" := by
    rw [Ne, Url.fileName_eq_empty_iff, hlast]
    decide
  have hslash : ¬ Url.EncodesSlash (Url.onLoopback "a.txt").lastSegment.toList := by
    rw [hlast, Url.EncodesSlash]
    decide
  obtain ⟨hsingle, hdouble⟩ := hcontained.undotted (by decide)
  refine ⟨hcontained, (hcontained.isEntry_iff hname).2 ⟨hslash, ?_, ?_⟩⟩
  · rw [hsingle]
    decide
  · rw [hdouble]
    decide

/-! ## a name that leads out of the directory -/

/-- A file system with an empty directory. -/
def oneDirectory : FileTree := { root := .directory [("dl", .directory [])] }

/-- A spelled slash is one in the name of the file. -/
theorem fileName_spelledSlash : (Url.onLoopback "..%2Fa").fileName = "../a" := by
  have hlast : (Url.onLoopback "..%2Fa").lastSegment.toList =
      ['.', '.', '%', '2', 'F', 'a'] := rfl
  have hdecode : Url.Percent.decode ['.', '.', '%', '2', 'F', 'a'] = [0x2E, 0x2E, 0x2F, 0x61] := by
    simp [Url.Percent.decode, Text.hexDigit?, String.utf8EncodeChar]
  have htext : Text.decodeLossy [0x2E, 0x2E, 0x2F, 0x61] = ['.', '.', '/', 'a'] := by
    simp only [Text.decodeLossy_cons_of_ascii (b := 0x2E) (by decide),
      Text.decodeLossy_cons_of_ascii (b := 0x2F) (by decide),
      Text.decodeLossy_cons_of_ascii (b := 0x61) (by decide), Text.decodeLossy_eq_nil_iff.2 rfl]
    decide
  rw [← String.toList_inj, Url.toList_fileName, hlast, hdecode, htext]
  rfl

theorem isAbsolute_eq_false (path : String) (h : ¬ ['/'] <+: path.toList) :
    Path.isAbsolute path = false :=
  eq_false_of_ne_true fun habsolute => h (Path.isAbsolute_iff.1 habsolute)

theorem endsWith_slash_eq_false (path : String) (h : ¬ ['/'] <:+ path.toList) :
    path.endsWith "/" = false :=
  eq_false_of_ne_true fun hends => h (Path.endsWith_slash_iff.1 hends)

/-- So the destination has one more level than was asked for. -/
theorem destinationOf_spelledSlash :
    destinationOf { downloadDirectory := some "dl" } (Url.onLoopback "..%2Fa") =
      .ok "dl/../a" := by
  rw [destinationOf_eq_ok_iff, fileName_spelledSlash]
  refine ⟨by decide, ?_⟩
  simp [Path.join, isAbsolute_eq_false "../a" (by decide),
    endsWith_slash_eq_false "dl" (by decide)]

/-- The way back leads to the place next to the directory. -/
theorem create_dots : ∃ t', oneDirectory.create "dl/../a" = .ok (["a"], t') := by
  have hrefusal : FileTree.refusal? "dl/../a" = none := by
    simp [FileTree.refusal?, String.contains_char_eq]
    decide
  have hwants : FileTree.wantsDirectory "dl/../a" = false := endsWith_slash_eq_false _ (by decide)
  have hstart : oneDirectory.startOf "dl/../a" = [] := by
    rw [FileTree.startOf, isAbsolute_eq_false _ (by decide)]
    rfl
  have hwalk : oneDirectory.walk [] (FileTree.components "dl/../a") = .ok ["a"] := rfl
  refine ⟨oneDirectory.put ["a"] (.file []), ?_⟩
  rw [FileTree.create, hrefusal, hwants, hstart]
  dsimp only
  rw [hwalk]
  rfl

/-- There is one place only that this path can lead to. -/
theorem eq_of_leadsTo_oneDirectory {dir : Place} (h : oneDirectory.LeadsTo "dl" dir) :
    dir = ["dl"] := by
  rw [FileTree.LeadsTo, if_neg (by decide)] at h
  obtain ⟨entries, hfind⟩ := h
  have hstart : oneDirectory.startOf "dl" = [] := by
    rw [FileTree.startOf, isAbsolute_eq_false _ (by decide)]
    rfl
  have hwalk : oneDirectory.walk [] (FileTree.components "dl") = .ok ["dl"] := rfl
  have hrefusal : FileTree.refusal? "dl" = none := by
    simp [FileTree.refusal?, String.contains_char_eq]
    decide
  have hresolve : oneDirectory.resolve "dl" = .ok ["dl"] := by
    rw [FileTree.resolve, hrefusal, hstart, hwalk]
  have hdl : oneDirectory.find "dl" = .ok (["dl"], .directory []) := by
    rw [FileTree.find, hresolve]
    rfl
  rw [hdl] at hfind
  cases hfind
  rfl

/-- Not every download stays in its directory: with a slash that is spelled in the
name, the file is created next to the directory. -/
theorem not_forall_entry : ¬ ∀ (text : String) (u : Url) (s : Settings) (path : String)
    (t t' : FileTree) (place : Place), Url.parse text = .ok u → u.fileName ≠ "" →
      destinationOf s u = .ok path → t.create path = .ok (place, t') →
        ∃ dir name, t.LeadsTo (s.downloadDirectory.getD "") dir ∧ place = dir ++ [name] := by
  intro h
  obtain ⟨t', hcreate⟩ := create_dots
  have hpath := destinationOf_spelledSlash
  obtain ⟨dir, name, hdir, hplace⟩ := h _ _ _ _ _ _ _ Url.parse_spelledSlash
    (destinationOf_eq_ok_iff.1 hpath).1 hpath hcreate
  rw [eq_of_leadsTo_oneDirectory hdir] at hplace
  exact absurd (List.cons.inj hplace).1 (by decide)

end Command

end SlotUpload
