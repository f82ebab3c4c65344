import SlotUpload.Proofs.Upload.File
import SlotUpload.Rehearsal.Basic

/-!
# SlotUpload.Proofs.Discovery.DefaultService

What the default service is after any number of operations.  Operations are done one
after another, in surroundings that keep the default service (`Keeps`) and answer
everything else as they like.  `history` gives each operation with its turns.

After every history the default service is the one that was found last, if it was
found since the last reconnect began (`defaultService_history`).  The step that
carries this tells the default service after one operation from the one before it
(`Keeps.step`).
-/

namespace SlotUpload.Discovery

/-! ## keeping the default service -/

/-- The surroundings keep the default service: it is the one that was set last, and
nothing else changes it. -/
structure Keeps {σ : Type} (answer : Answerer σ) (cell : σ → Option UploadService) : Prop where
  read : ∀ s, (answer .cached s).1 = cell s
  write : ∀ service s, cell (answer (.cache service) s).2 = service
  keep : ∀ q s, (∀ service, q ≠ .cache service) → cell (answer q s).2 = cell s

/-- The default service of a rehearsal is kept as it should be. -/
theorem keeps_rehearsal : Keeps Rehearsal.answer Rehearsal.service := by
  refine ⟨fun _ => rfl, fun _ _ => rfl, fun q r hq => ?_⟩
  cases q with
  | cache service => exact absurd rfl (hq service)
  | startLog path | createFile path | appendFile path bytes =>
      dsimp only [Rehearsal.answer, Rehearsal.startLog, Rehearsal.change]
      split <;> rfl
  | _ => rfl

/-! ## operations -/

/-- What can be asked of one who looks after the default service. -/
inductive Operation
  | discover (server : String)
  | ensure (server : String)
  | reconnect (server : String)
  | requestSlot (fileName : String) (size : UInt64) (contentType address : Option String)
  | uploadStream (blockSize : Nat) (content : List UInt8) (fileName : String) (size : UInt64)
      (wanted : Bool)
  | uploadFile (blockSize : Nat) (path : String) (wanted : Bool)

namespace Operation

/-- An operation as a job. -/
def job : Operation → Job Unit
  | discover server => discard (Discovery.discover server)
  | ensure server => discard (Discovery.ensure server)
  | reconnect server => Discovery.reconnect server
  | requestSlot fileName size contentType address =>
    discard (Upload.requestSlot fileName size contentType address).run
  | uploadStream blockSize content fileName size wanted =>
    discard (Upload.uploadStream blockSize content fileName size wanted).run
  | uploadFile blockSize path wanted => discard (Upload.uploadFile blockSize path wanted).run

/-- The server among whose items an operation may look for a service. -/
def server? : Operation → Option String
  | discover server | ensure server | reconnect server => some server
  | _ => none

/-- Does an operation begin by forgetting the default service? -/
def isReconnect : Operation → Bool
  | reconnect _ => true
  | _ => false

end Operation

/-- An operation that was done, with its turns. -/
structure Episode where
  operation : Operation
  turns : List Turn

/-- Does the operation look for a service and find this one? -/
def Episode.Finds (e : Episode) (service : UploadService) : Prop :=
  ∃ server, e.operation.server? = some server ∧
    Discovered server (Turn.calls e.turns) (some service)

/-- Does the operation leave the default service as it is? -/
def Episode.Leaves (e : Episode) : Prop :=
  e.operation.isReconnect = false ∧ ∀ service, ¬ e.Finds service

section History

variable {σ : Type} (answer : Answerer σ)

/-- Does an operation. -/
def Operation.episode (op : Operation) (s : σ) : Episode :=
  { operation := op, turns := op.job.turns answer s }

/-- Does operations one after another. -/
def history : List Operation → σ → List Episode × σ
  | [], s => ([], s)
  | op :: ops, s =>
    let (later, s') := history ops (op.job.run answer s).2
    (op.episode answer s :: later, s')

end History

/-! ## one operation -/

/-- Surroundings that keep the default service have the one that was set last. -/
theorem Keeps.default_run {σ α : Type} {answer : Answerer σ} {cell : σ → Option UploadService}
    (h : Keeps answer cell) (j : Job α) (s : σ) : cell (j.run answer s).2 =
      (Turn.kept (j.turns answer s)).getLast?.getD (cell s) := by
  induction j generalizing s with
  | done a => rfl
  | ask q next ih =>
      change cell ((next _).run answer _).2 = _
      rw [ih, Job.turns]
      by_cases hq : ∃ service, q = .cache service
      · obtain ⟨service, rfl⟩ := hq
        rw [h.write]
        change _ = (service :: Turn.kept _).getLast?.getD _
        rw [List.getLast?_cons, Option.getD_some]
      · have hne : ∀ service, q ≠ .cache service := fun service heq => hq ⟨service, heq⟩
        rw [h.keep q s hne, Turn.kept_cons hne]

section Writes

variable {α : Type} {j : Job α} {op : Operation} {server : String} {ts : List Turn}
  {found : Option UploadService} {service : UploadService}

/-- A job that gives nothing back takes the turns of the one whose result it drops. -/
theorem takes_discard (h : (discard j : Job Unit).Takes ts ()) : ∃ a, j.Takes ts a := by
  obtain ⟨first, last, a, rfl, hfirst, hlast⟩ := Job.takes_bind_iff.1 h
  obtain ⟨rfl, -⟩ := Job.takes_pure_iff.1 hlast
  rw [List.append_nil]
  exact ⟨a, hfirst⟩

/-- An operation that looked for a service found what the discovery found. -/
theorem finds_iff (hserver : op.server? = some server)
    (h : Discovered server (Turn.calls ts) found) :
    Episode.Finds ⟨op, ts⟩ service ↔ found = some service := by
  constructor
  · rintro ⟨server', hserver', hfound⟩
    cases hserver.symm.trans hserver'
    exact h.unique hfound
  · rintro rfl
    exact ⟨server, hserver, h⟩

/-- An operation that asked the session nothing found nothing. -/
theorem not_finds_of_calls_eq_nil (h : Turn.calls ts = []) : ¬ Episode.Finds ⟨op, ts⟩ service := by
  rintro ⟨server, -, hfound⟩
  exact hfound.ne_nil h

/-- What an operation makes the default service: the one that it finds, and before
that none, if it forgets. -/
structure Writes (e : Episode) (found : Option UploadService) : Prop where
  finds : ∀ service, e.Finds service ↔ found = some service
  kept : Turn.kept e.turns =
    (if e.operation.isReconnect then [none] else []) ++ found.toList.map some

/-- What is the default after an episode: what it found, or what it left alone. -/
theorem Writes.last_eq_some_iff {e : Episode} (h : Writes e found)
    (known : Option UploadService) :
    (Turn.kept e.turns).getLast?.getD known = some service ↔
      e.Finds service ∨ (known = some service ∧ e.Leaves) := by
  rw [h.kept, h.finds, Episode.Leaves]
  simp only [h.finds]
  cases found with
  | some other => simp
  | none => cases e.operation.isReconnect <;> simp

/-- An episode that leaves the default alone never sets it. -/
theorem Writes.kept_eq_nil {e : Episode} (h : Writes e found) (hleaves : e.Leaves) :
    Turn.kept e.turns = [] := by
  have hfound : found = none :=
    Option.eq_none_iff_forall_ne_some.2 fun service hservice =>
      hleaves.2 service ((h.finds service).2 hservice)
  rw [h.kept, hleaves.1, hfound]
  rfl

/-- Without a server there is no search for a service. -/
theorem leaves_of_server? {e : Episode} (h : e.operation.server? = none) : e.Leaves := by
  obtain ⟨op, ts⟩ := e
  constructor
  · cases op with
    | reconnect server => cases h
    | _ => rfl
  · rintro service ⟨server, hserver, -⟩
    cases h.symm.trans hserver

/-- An upload finds nothing and sets nothing, whatever service it asks about. -/
theorem writes_of_isUpload (hserver : op.server? = none) (hj : j.Asks Query.IsUpload)
    (h : (discard j : Job Unit).Takes ts ()) :
    Writes ⟨op, ts⟩ none := by
  obtain ⟨a, hts⟩ := takes_discard h
  have hleaves : Episode.Leaves ⟨op, ts⟩ := leaves_of_server? hserver
  constructor
  · exact fun service => iff_of_false (hleaves.2 service) nofun
  · rw [hleaves.1]
    exact Turn.kept_eq_nil (fun _ => id) (hj.of_mem_takes hts)

/-- Every operation sets the default at most as a search does. -/
theorem Operation.writes (h : op.job.Takes ts ()) : ∃ found, Writes ⟨op, ts⟩ found := by
  cases op with
  | discover server =>
      obtain ⟨b, hts⟩ := takes_discard h
      obtain ⟨found, hfound, -, hkept⟩ := discover_takes hts
      exact ⟨found, fun _ => finds_iff rfl hfound, hkept⟩
  | ensure server =>
      obtain ⟨b, hts⟩ := takes_discard h
      obtain ⟨known, rest, rfl, hrest⟩ := ensure_takes hts
      cases known with
      | some service =>
          obtain ⟨rfl, -⟩ := hrest
          exact ⟨none, fun _ => iff_of_false (not_finds_of_calls_eq_nil rfl) nofun, rfl⟩
      | none =>
          obtain ⟨found, hfound, -, hkept⟩ := discover_takes hrest
          exact ⟨found, fun _ => finds_iff rfl hfound, hkept⟩
  | reconnect server =>
      obtain ⟨found, hfound, hkept⟩ := reconnect_takes h
      exact ⟨found, fun _ => finds_iff rfl hfound, hkept⟩
  | requestSlot => exact ⟨none, writes_of_isUpload rfl (Upload.requestSlot_asks _ _ _ _) h⟩
  | uploadStream =>
      exact ⟨none, writes_of_isUpload rfl (Upload.uploadStream_asks _ _ _ _ _) h⟩
  | uploadFile => exact ⟨none, writes_of_isUpload rfl (Upload.uploadFile_asks _ _ _) h⟩

end Writes

/-- An operation does to the default service what it should. -/
structure Careful (e : Episode) (before after : Option UploadService) : Prop where
  found : ∀ service, e.Finds service → after = some service
  /-- Nothing is found, and nothing was forgotten. -/
  failed : e.Leaves → after = before
  /-- What was forgotten does not come back. -/
  reconnected : e.operation.isReconnect → (∀ service, ¬ e.Finds service) → after = none
  /-- An upload sets nothing, whatever service it asks about. -/
  uploaded : e.operation.server? = none → Turn.kept e.turns = [] ∧ after = before
  /-- The session is asked exactly if no service is known. -/
  ensured : ∀ server, e.operation = .ensure server → (Turn.calls e.turns ≠ [] ↔ before = none)

section Step

variable {σ : Type} {answer : Answerer σ} {cell : σ → Option UploadService}
  (h : Keeps answer cell) (op : Operation) (s : σ)
include h

/-- The default service is the one that the operation finds, or else the one from
before, unless that was forgotten. -/
theorem Keeps.step (service : UploadService) :
    cell (op.job.run answer s).2 = some service ↔ (op.episode answer s).Finds service ∨
      (cell s = some service ∧ (op.episode answer s).Leaves) := by
  obtain ⟨found, hwrites⟩ := op.writes (op.job.takes_run answer s)
  rw [h.default_run]
  exact hwrites.last_eq_some_iff (cell s)

omit op in
/-- The session is asked exactly if no service is known. -/
theorem Keeps.ensure_calls_iff (server : String) :
    Turn.calls ((Operation.ensure server).episode answer s).turns ≠ [] ↔ cell s = none := by
  obtain ⟨b, hts⟩ := takes_discard (Job.takes_run answer s (Operation.ensure server).job)
  obtain ⟨known, rest, hturns, hrest⟩ := ensure_takes hts
  have hknown : known = cell s :=
    (Job.answer_eq_of_turns_eq_cons answer s hturns).trans (h.read s)
  rw [← hknown]
  change Turn.calls ((Operation.ensure server).job.turns answer s) ≠ [] ↔ _
  rw [hturns]
  cases known with
  | some service =>
      obtain ⟨rfl, -⟩ := hrest
      exact iff_of_false (fun hne => hne rfl) nofun
  | none =>
      obtain ⟨found, hfound, -⟩ := discover_takes hrest
      exact iff_of_true hfound.ne_nil rfl

/-- One operation treats the default service with care. -/
theorem Keeps.careful :
    Careful (op.episode answer s) (cell s) (cell (op.job.run answer s).2) := by
  obtain ⟨found, hwrites⟩ := op.writes (op.job.takes_run answer s)
  have hstep := h.step op s
  have hleft : (op.episode answer s).Leaves →
      Turn.kept (op.episode answer s).turns = [] ∧ cell (op.job.run answer s).2 = cell s := by
    intro hleaves
    have hkept := hwrites.kept_eq_nil hleaves
    refine ⟨hkept, ?_⟩
    rw [h.default_run]
    exact congrArg (·.getLast?.getD (cell s)) hkept
  constructor
  · intro service hfinds
    exact (hstep service).2 (.inl hfinds)
  · intro hleaves
    exact (hleft hleaves).2
  · intro hreconnect hfinds
    refine Option.eq_none_iff_forall_ne_some.2 fun service hservice => ?_
    rcases (hstep service).1 hservice with hfound | ⟨-, hleaves⟩
    · exact hfinds service hfound
    · exact Bool.noConfusion (hreconnect.symm.trans hleaves.1)
  · intro hserver
    exact hleft (leaves_of_server? hserver)
  · rintro server rfl
    exact h.ensure_calls_iff s server

end Step

/-! ## any number of operations -/

/-- This service was found last, if it was not forgotten since. -/
def FoundLast (episodes : List Episode) (service : UploadService) : Prop :=
  ∃ before e after, episodes = before ++ e :: after ∧ e.Finds service ∧
    ∀ later ∈ after, later.Leaves

/-- A service was found last in an episode, or before one that left it alone. -/
theorem foundLast_cons {e : Episode} {episodes : List Episode} {service : UploadService} :
    FoundLast (e :: episodes) service ↔
      FoundLast episodes service ∨ (e.Finds service ∧ ∀ later ∈ episodes, later.Leaves) := by
  constructor
  · rintro ⟨before, e', after, heq, hfinds, hlater⟩
    cases before with
    | nil =>
        cases heq
        exact .inr ⟨hfinds, hlater⟩
    | cons _ before =>
        cases heq
        exact .inl ⟨before, e', after, rfl, hfinds, hlater⟩
  · rintro (⟨before, e', after, rfl, hfinds, hlater⟩ | ⟨hfinds, hlater⟩)
    · exact ⟨e :: before, e', after, rfl, hfinds, hlater⟩
    · exact ⟨[], e, episodes, rfl, hfinds, hlater⟩

section Run

variable {σ : Type} {answer : Answerer σ} {cell : σ → Option UploadService}

/-- After a history, the default service is the one found last, or else the one
from before the history, unless that was forgotten. -/
theorem Keeps.history_iff (h : Keeps answer cell) (ops : List Operation) (s : σ)
    (service : UploadService) : cell (history answer ops s).2 = some service ↔
      FoundLast (history answer ops s).1 service ∨
        (cell s = some service ∧ ∀ e ∈ (history answer ops s).1, e.Leaves) := by
  induction ops generalizing s with
  | nil =>
      have hnone : ¬ FoundLast [] service := by
        rintro ⟨before, e, after, heq, -⟩
        exact List.append_ne_nil_of_right_ne_nil before (List.cons_ne_nil e after) heq.symm
      simp [history, hnone]
  | cons op ops ih =>
      simp only [history, ih, h.step, foundLast_cons, List.forall_mem_cons, or_and_right, or_assoc,
        and_assoc]

end Run

/-- **The default service**: in surroundings that keep it and answer everything else
as they like, after every history that begins with none it is the one that was found
last, if it was found since the last reconnect began.  What is done next then does to
it what it should. -/
theorem defaultService_history {σ : Type} (answer : Answerer σ)
    (cell : σ → Option UploadService) (h : Keeps answer cell) (s : σ)
    (hs : cell s = none) (ops : List Operation) :
    let episodes := (history answer ops s).1
    let last := (history answer ops s).2
    (∀ service, cell last = some service ↔ FoundLast episodes service) ∧
      ∀ op : Operation, Careful (op.episode answer last) (cell last)
        (cell (op.job.run answer last).2) := by
  intro episodes last
  constructor
  · intro service
    have hnone : cell s ≠ some service := by
      rw [hs]
      exact nofun
    exact (h.history_iff ops s service).trans (or_iff_left fun hsome => hnone hsome.1)
  · exact fun op => h.careful op last

/-- A session whose server has an upload service, and no default yet. -/
def montague : Rehearsal :=
  { script :=
      { server := "montague.lit"
        items := .ok ["upload.montague.lit"]
        infos :=
          [("upload.montague.lit",
            .ok { address := "upload.montague.lit", features := ["urn:xmpp:http:upload:0"] })] }
    now := ⟨0⟩ }

/-- A reconnect finds a service, and the operation after it uses that one. -/
theorem foundLast_montague :
    Keeps Rehearsal.answer Rehearsal.service ∧ montague.service = none ∧
      FoundLast (history Rehearsal.answer [.reconnect "montague.lit", .ensure "montague.lit"]
        montague).1 { address := "upload.montague.lit", version := .current } :=
  ⟨keeps_rehearsal, rfl,
    ((defaultService_history Rehearsal.answer Rehearsal.service keeps_rehearsal montague rfl
      [.reconnect "montague.lit", .ensure "montague.lit"]).1 _).1 rfl⟩

end SlotUpload.Discovery
