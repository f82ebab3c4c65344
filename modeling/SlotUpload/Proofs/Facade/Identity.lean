import Mathlib.Data.List.Nodup
import SlotUpload.Facade.Receiving
import SlotUpload.Facade.Sending
import SlotUpload.Proofs.Job.Turns

/-!
# SlotUpload.Proofs.Facade.Identity

The names of transfers.  A transfer that sends a file draws a name of its own; one that
receives a file has the name of the request that was accepted, which drew it.  If no name
is drawn twice, then in every history of calls two transfers have one name exactly if they
come from accepting one request (`History.id_eq_iff`).

Nothing keeps a request from being accepted again, so two transfers may have one name
(`not_forall_id_ne`).
-/

namespace SlotUpload

/-! ## names that are drawn -/

namespace Turn

/-- The name that a turn draws, if it does. -/
def drawn? : Turn → Option String
  | ⟨.drawId, id⟩ => some id
  | _ => none

/-- The names that some turns draw, one after another. -/
def drawn (ts : List Turn) : List String := ts.filterMap drawn?

@[simp] theorem drawn_append (ts us : List Turn) : drawn (ts ++ us) = drawn ts ++ drawn us :=
  List.filterMap_append ..

/-- Turns that draw nothing. -/
theorem drawn_eq_nil {ts : List Turn} (h : ∀ t ∈ ts, t.query ≠ .drawId) : drawn ts = [] := by
  rw [drawn, List.filterMap_eq_nil_iff]
  rintro ⟨q, a⟩ ht
  unfold drawn?
  split
  · next heq =>
      cases heq
      exact absurd rfl (h _ ht)
  · rfl

end Turn

namespace Facade

/-! ## calls -/

/-- A call that makes, takes or turns down transfers. -/
inductive Call
  | send (destination : Destination) (path : String)
  | receive (sender : String) (url : Url)
  /-- A request that is made without the facade, so that no listener is told. -/
  | make (sender : String) (url : Url)
  | accept (request : IncomingRequest) (path : String)
  | reject (request : IncomingRequest)

/-- What a call gives back. -/
inductive Outcome
  | failed (e : UploadError)
  | transfer (t : Transfer)
  | request (r : IncomingRequest)
  | rejected

/-- Makes a request under a new name. -/
def make (sender : String) (url : Url) : Job IncomingRequest := do
  let id ← Job.query .drawId
  return { id, sender, url }

/-- To look at a file, no name is drawn. -/
theorem readableSize_asks (path : String) : (readableSize path).run.Asks (· ≠ .drawId) := by
  refine Attempt.asks_bind (Attempt.asks_query nofun) fun examined => ?_
  split
  · exact .pure _
  · exact .pure _
  · refine Attempt.asks_bind (Attempt.asks_query nofun) fun opened => ?_
    split
    · exact .pure _
    · dsimp only
      split <;> exact .pure _

namespace Call

/-- The request that a call is about. -/
def request? : Call → Option IncomingRequest
  | accept request _ | reject request => some request
  | _ => none

/-- What is done at a call before it gives something back. -/
def job : Call → Job Outcome
  | send destination path => do
    match ← (Facade.send destination path).run with
    | .ok transfer => return .transfer transfer
    | .error e => return .failed e
  | receive sender url => return .request (← Facade.receive sender url)
  | make sender url => return .request (← Facade.make sender url)
  | accept request path => return .transfer (← Facade.accept request path)
  | reject request => do
    Facade.reject request
    return .rejected

/-- What the names that are drawn at a call have to do with what it gives back. -/
inductive Names : Call → List String → Outcome → Prop
  | unsent {destination : Destination} {path : String} (e : UploadError) :
    Names (.send destination path) [] (.failed e)
  | sent {destination : Destination} {path : String} (id : String) :
    Names (.send destination path) [id]
      (.transfer (.new id .outgoing (some destination) path))
  | received {sender : String} {url : Url} (id : String) :
    Names (.receive sender url) [id] (.request { id, sender, url })
  | made {sender : String} {url : Url} (id : String) :
    Names (.make sender url) [id] (.request { id, sender, url })
  | accepted {request : IncomingRequest} {path : String} :
    Names (.accept request path) []
      (.transfer (.new request.id .incoming (some (.contact request.sender)) path))
  | rejected {request : IncomingRequest} : Names (.reject request) [] .rejected

variable {call : Call} {ts : List Turn} {outcome : Outcome}

/-- What a call to send draws and gives back. -/
theorem names_send {destination : Destination} {path : String}
    (h : (send destination path).job.Takes ts outcome) :
    Names (.send destination path) (Turn.drawn ts) outcome := by
  obtain ⟨first, last, result, rfl, hsend, hlast⟩ := Job.takes_bind_iff.1 h
  have hsilent : ∀ {us r}, (readableSize path).run.Takes us r → Turn.drawn us = [] :=
    fun h => Turn.drawn_eq_nil ((readableSize_asks path).of_mem_takes h)
  rcases Attempt.takes_bind_iff.1 hsend with ⟨e, hsize, rfl⟩ | ⟨us, vs, size, rfl, hsize, hrest⟩
  · obtain ⟨rfl, rfl⟩ := Job.takes_pure_iff.1 hlast
    rw [List.append_nil, hsilent hsize]
    exact .unsent e
  · obtain ⟨id, _, rfl, hid⟩ := Job.takes_query_bind_iff.1 hrest
    obtain ⟨_, _, rfl, hlog⟩ := Job.takes_query_bind_iff.1 hid
    obtain ⟨_, _, rfl, hnotify⟩ := Job.takes_query_bind_iff.1 hlog
    obtain ⟨rfl, rfl⟩ := Job.takes_pure_iff.1 hnotify
    obtain ⟨rfl, rfl⟩ := Job.takes_pure_iff.1 hlast
    rw [List.append_nil, Turn.drawn_append, hsilent hsize]
    exact .sent id

theorem names (h : call.job.Takes ts outcome) : Names call (Turn.drawn ts) outcome := by
  cases call with
  | send destination path => exact names_send h
  | receive sender url =>
      obtain ⟨id, _, rfl, hid⟩ := Job.takes_query_bind_iff.1 h
      obtain ⟨_, _, rfl, hlog⟩ := Job.takes_query_bind_iff.1 hid
      obtain ⟨_, _, rfl, hnotify⟩ := Job.takes_query_bind_iff.1 hlog
      obtain ⟨rfl, rfl⟩ := Job.takes_pure_iff.1 hnotify
      exact .received id
  | make sender url =>
      obtain ⟨id, _, rfl, hid⟩ := Job.takes_query_bind_iff.1 h
      obtain ⟨rfl, rfl⟩ := Job.takes_pure_iff.1 hid
      exact .made id
  | accept request path =>
      obtain ⟨_, _, rfl, hnotify⟩ := Job.takes_query_bind_iff.1 h
      obtain ⟨rfl, rfl⟩ := Job.takes_pure_iff.1 hnotify
      exact .accepted
  | reject request =>
      obtain ⟨_, _, rfl, hlog⟩ := Job.takes_query_bind_iff.1 h
      obtain ⟨_, _, rfl, hnotify⟩ := Job.takes_query_bind_iff.1 hlog
      obtain ⟨rfl, rfl⟩ := Job.takes_pure_iff.1 hnotify
      exact .rejected

/-- A request has a name that was drawn for it. -/
theorem Names.mem_of_request {ids : List String} {r : IncomingRequest}
    (h : Names call ids (.request r)) : r.id ∈ ids := by
  cases h with
  | received id | made id => exact List.mem_singleton_self id

/-- A transfer either draws its name or takes that of a request. -/
theorem Names.of_transfer {ids : List String} {t : Transfer} (h : Names call ids (.transfer t)) :
    (t.id ∈ ids ∧ ∃ destination path, call = .send destination path) ∨
      ∃ request path, call = .accept request path ∧ t.id = request.id := by
  cases h with
  | sent id => exact .inl ⟨List.mem_singleton_self id, _, _, rfl⟩
  | accepted => exact .inr ⟨_, _, rfl, rfl⟩

/-- A transfer that comes from accepting a request takes its name. -/
theorem Names.id_eq {ids : List String} {request : IncomingRequest} {path : String} {t : Transfer}
    (h : Names (.accept request path) ids (.transfer t)) : t.id = request.id := by
  cases h
  rfl

end Call

/-! ## histories -/

/-- A call that was made, with what was asked meanwhile and what it gave back. -/
structure Step where
  call : Call
  turns : List Turn
  outcome : Outcome
  takes : call.job.Takes turns outcome

/-- The names that are drawn at some calls. -/
def drawn (steps : List Step) : List String := steps.flatMap fun step => Turn.drawn step.turns

/-- The calls of a process, one after another.  A request that is accepted or rejected is
one that was given back before. -/
inductive History : List Step → Prop
  | nil : History []
  | concat {steps : List Step} (step : Step) (h : History steps)
      (hgiven : ∀ r ∈ step.call.request?, ∃ earlier ∈ steps, earlier.outcome = .request r) :
      History (steps ++ [step])

variable {steps : List Step}

/-- A name that is drawn at two calls is drawn twice. -/
theorem index_eq_of_mem_drawn (hdrawn : (drawn steps).Nodup) {i j : Nat} {hi : i < steps.length}
    {hj : j < steps.length} {id : String} (hmem : id ∈ Turn.drawn steps[i].turns)
    (hmem' : id ∈ Turn.drawn steps[j].turns) : i = j := by
  have hdisjoint := List.pairwise_iff_getElem.1 (List.nodup_flatMap.1 hdrawn).2
  rcases Nat.lt_trichotomy i j with hlt | heq | hgt
  · exact absurd hmem' (hdisjoint i j hi hj hlt hmem)
  · exact heq
  · exact absurd hmem (hdisjoint j i hj hi hgt hmem')

namespace History

/-- Every request that a call is about was given back by a call. -/
theorem exists_given (h : History steps) : ∀ step ∈ steps, ∀ r ∈ step.call.request?,
    ∃ earlier ∈ steps, earlier.outcome = .request r := by
  induction h with
  | nil => exact List.forall_mem_nil _
  | concat step _ hgiven ih =>
      intro other hother r hr
      rcases List.mem_append.1 hother with hother | hother
      · obtain ⟨earlier, hmem, hearlier⟩ := ih other hother r hr
        exact ⟨earlier, List.mem_append_left _ hmem, hearlier⟩
      · obtain rfl := List.mem_singleton.1 hother
        obtain ⟨earlier, hmem, hearlier⟩ := hgiven r hr
        exact ⟨earlier, List.mem_append_left _ hmem, hearlier⟩

/-- The call at which the name of a transfer was drawn: its own, or the one that gave back
the request that was accepted. -/
theorem exists_drawn (h : History steps) {i : Nat} {hi : i < steps.length} {t : Transfer}
    (ht : steps[i].outcome = .transfer t) :
    ∃ k, ∃ hk : k < steps.length, t.id ∈ Turn.drawn steps[k].turns ∧
      ((k = i ∧ ∃ destination path, steps[i].call = .send destination path) ∨
        ∃ r path, steps[i].call = .accept r path ∧ steps[k].outcome = .request r) := by
  have hnames := Call.names steps[i].takes
  rw [ht] at hnames
  rcases hnames.of_transfer with ⟨hmem, hsend⟩ | ⟨r, path, haccept, hid⟩
  · exact ⟨i, hi, hmem, .inl ⟨rfl, hsend⟩⟩
  · obtain ⟨earlier, hearlier, hgiven⟩ :=
      h.exists_given steps[i] (List.getElem_mem hi) r (by rw [haccept]; rfl)
    obtain ⟨k, hk, rfl⟩ := List.getElem_of_mem hearlier
    have hdrawn := Call.names steps[k].takes
    rw [hgiven] at hdrawn
    exact ⟨k, hk, hid ▸ hdrawn.mem_of_request, .inr ⟨r, path, haccept, hgiven⟩⟩

/-- **Two transfers have one name exactly if they come from accepting one request.**  This
holds in every history of calls, with any files, URLs and requests, if no name is drawn
twice. -/
theorem id_eq_iff (h : History steps) (hdrawn : (drawn steps).Nodup) {i j : Nat}
    {hi : i < steps.length} {hj : j < steps.length} (hne : i ≠ j) {t t' : Transfer}
    (ht : steps[i].outcome = .transfer t) (ht' : steps[j].outcome = .transfer t') :
    t.id = t'.id ↔ ∃ request path path',
      steps[i].call = .accept request path ∧ steps[j].call = .accept request path' := by
  constructor
  · intro hid
    obtain ⟨k, hk, hmem, horigin⟩ := h.exists_drawn ht
    obtain ⟨k', hk', hmem', horigin'⟩ := h.exists_drawn ht'
    -- the one name was drawn at one call, which gave back one thing
    obtain rfl : k = k' := index_eq_of_mem_drawn hdrawn hmem (hid ▸ hmem')
    rcases horigin with ⟨rfl, -⟩ | ⟨r, path, haccept, hgiven⟩
    · rcases horigin' with ⟨rfl, -⟩ | ⟨r', path', -, hgiven'⟩
      · exact absurd rfl hne
      · cases ht.symm.trans hgiven'
    · rcases horigin' with ⟨rfl, -⟩ | ⟨r', path', haccept', hgiven'⟩
      · cases ht'.symm.trans hgiven
      · obtain rfl : r = r' := Outcome.request.inj (hgiven.symm.trans hgiven')
        exact ⟨r, path, path', haccept, haccept'⟩
  · rintro ⟨request, path, path', haccept, haccept'⟩
    have hnames := Call.names steps[i].takes
    have hnames' := Call.names steps[j].takes
    rw [haccept, ht] at hnames
    rw [haccept', ht'] at hnames'
    rw [hnames.id_eq, hnames'.id_eq]

end History

/-! ## calls that are made -/

namespace Step

/-- A file of one byte is sent. -/
def sending (id : String) (destination : Destination) (path : String) : Step :=
  let t : Transfer := .new id .outgoing (some destination) path
  { call := .send destination path
    turns := [⟨.examine path, .ok (.file [0])⟩, ⟨.openFile path, .ok (.file [0])⟩, ⟨.drawId, id⟩,
      ⟨.log (createdEntry t destination 1), ()⟩, ⟨.notify (.created t), ()⟩]
    outcome := .transfer t
    takes := .ask _ (.ask _ (.ask _ (.ask _ (.ask _ (.done _))))) }

/-- A URL comes in. -/
def receiving (request : IncomingRequest) : Step where
  call := .receive request.sender request.url
  turns := [⟨.drawId, request.id⟩, ⟨.log (receivedEntry request), ()⟩,
    ⟨.notify (.received request), ()⟩]
  outcome := .request request
  takes := .ask _ (.ask _ (.ask _ (.done _)))

/-- A request is accepted. -/
def accepting (request : IncomingRequest) (path : String) : Step :=
  let t : Transfer := .new request.id .incoming (some (.contact request.sender)) path
  { call := .accept request path
    turns := [⟨.notify (.created t), ()⟩]
    outcome := .transfer t
    takes := .ask _ (.done _) }

end Step

/-- A request that came in may be accepted as often as one likes. -/
theorem History.accepting {request : IncomingRequest} (h : History steps)
    (hmem : Step.receiving request ∈ steps) (paths : List String) :
    History (steps ++ paths.map (.accepting request)) := by
  induction paths generalizing steps with
  | nil => rwa [List.map_nil, List.append_nil]
  | cons path paths ih =>
      have hgiven : ∀ r ∈ (Step.accepting request path).call.request?,
          ∃ earlier ∈ steps, earlier.outcome = .request r := by
        rintro r ⟨⟩
        exact ⟨_, hmem, rfl⟩
      rw [List.map_cons, List.append_cons]
      exact ih (h.concat _ hgiven) (List.mem_append_left _ hmem)

/-- An offer that is received is a history in which nothing was drawn. -/
theorem history_receiving (request : IncomingRequest) : History [.receiving request] :=
  .concat (.receiving request) .nil nofun

/-- A file that is received and one that is sent have different names. -/
theorem id_eq_iff_two :
    let url : Url := { scheme := "a", authority := none, path := .text "" }
    let request : IncomingRequest := { id := "1", sender := "romeo@montague.lit", url }
    let steps : List Step := [.receiving request, .accepting request "a",
      .sending "2" (.contact "juliet@capulet.lit") "b"]
    History steps ∧ (drawn steps).Nodup ∧
      ∀ t t', steps[1].outcome = .transfer t → steps[2].outcome = .transfer t' → t.id ≠ t'.id := by
  intro url request steps
  have hhistory : History steps :=
    ((history_receiving request).accepting List.mem_cons_self ["a"]).concat _ nofun
  have hdrawn : (drawn steps).Nodup := by decide
  refine ⟨hhistory, hdrawn, fun t t' ht ht' hid => ?_⟩
  obtain ⟨_, _, _, -, haccept⟩ := (hhistory.id_eq_iff hdrawn (by decide) ht ht').1 hid
  cases haccept

/-- Two transfers have one name where a request is accepted twice. -/
theorem not_forall_id_ne :
    ¬ ∀ steps, History steps → (drawn steps).Nodup →
      ∀ (i j : Nat) (hi : i < steps.length) (hj : j < steps.length), i ≠ j → ∀ t t' : Transfer,
        steps[i].outcome = .transfer t → steps[j].outcome = .transfer t' → t.id ≠ t'.id := by
  intro hall
  let url : Url := { scheme := "a", authority := none, path := .text "" }
  let request : IncomingRequest := { id := "1", sender := "romeo@montague.lit", url }
  let steps : List Step :=
    [.receiving request, .accepting request "a", .accepting request "b"]
  have hhistory : History steps :=
    (history_receiving request).accepting List.mem_cons_self ["a", "b"]
  have hdrawn : (drawn steps).Nodup := by decide
  exact hall steps hhistory hdrawn 1 2 (by decide) (by decide) (by decide) _ _ rfl rfl rfl

end Facade

end SlotUpload
