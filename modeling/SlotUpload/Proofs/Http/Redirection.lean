import SlotUpload.Http.Client
import SlotUpload.Proofs.Job.Turns

/-!
# SlotUpload.Proofs.Http.Redirection

What redirections do to a request.  A client that follows them makes exchanges of
which each but the last redirects to the next (`Followed`), and hands over the
reply that it came to rest at, if there is one (`Followed.result_eq_ok_iff`).  A
PUT is made once at most, as the first of them (`Followed.exists_cons`); what it is
redirected to is asked for with a GET, which has no body (`Followed.exists_cons_of_put`).
-/

namespace SlotUpload

/-! ## exchanges of a run -/

/-- A request to a server with what came of it. -/
abbrev Http.Talk := Http.Request × Http.Exchange

/-- The exchange with a server that a turn is, if it is one. -/
def Turn.talk? : Turn → Option Http.Talk
  | ⟨.exchange request, exchange⟩ => some (request, exchange)
  | _ => none

/-- Is a query about something else than a server? -/
def Query.IsLocal : Query → Prop
  | .exchange _ => False
  | _ => True

/-- Turns that are all about something else than a server. -/
theorem Turn.talks_eq_nil {ts : List Turn} (h : ∀ t ∈ ts, t.query.IsLocal) :
    ts.filterMap talk? = [] := by
  rw [List.filterMap_eq_nil_iff]
  rintro ⟨q, a⟩ ht
  have hlocal : q.IsLocal := h _ ht
  unfold talk?
  split
  · next heq => cases heq; exact hlocal.elim
  · rfl

namespace Job

variable {α β σ : Type}

/-- The exchanges with servers in a run, in order. -/
def talks (answer : Answerer σ) (j : Job α) (s : σ) : List Http.Talk :=
  (j.turns answer s).filterMap Turn.talk?

variable (answer : Answerer σ) (s : σ)

@[simp] theorem talks_pure (a : α) : talks answer (pure a) s = [] := rfl

@[simp] theorem talks_exchange (request : Http.Request) :
    talks answer (query (.exchange request)) s = [(request, (answer (.exchange request) s).1)] :=
  rfl

@[simp] theorem talks_bind (j : Job α) (f : α → Job β) : talks answer (j >>= f) s =
    talks answer j s ++ talks answer (f (run answer j s).1) (run answer j s).2 := by
  simp [talks]

/-- A job that asks no server has no exchanges. -/
theorem talks_eq_nil {j : Job α} (h : j.Asks Query.IsLocal) : j.talks answer s = [] :=
  Turn.talks_eq_nil fun _ => h.of_mem_turns answer s

end Job

namespace Http

/-! ## redirections -/

/-- A client is never redirected to a PUT; from a PUT, it is redirected to a GET
without a body. -/
theorem redirected?_eq_some {request next : Request} {response : Response}
    (h : redirected? request response = some next) :
    next.method ≠ .put ∧ (request.method = .put → next.method = .get ∧ next.blocks = [] ∧
      (response.status.code = 301 ∨ response.status.code = 302 ∨
        response.status.code = 303)) := by
  unfold redirected? at h
  obtain ⟨reference, -, h⟩ := Option.bind_eq_some_iff.1 h
  obtain ⟨url, -, h⟩ := Option.bind_eq_some_iff.1 h
  dsimp only at h
  split at h
  · next hcode =>
      split at h
      · cases h
        exact ⟨nofun, fun _ => ⟨rfl, rfl, hcode⟩⟩
      · next hput =>
          cases h
          exact ⟨hput, fun h => absurd h hput⟩
  · split at h
    · next hcode =>
        cases h
        exact ⟨hcode.2, fun h => absurd h hcode.2⟩
    · cases h

/-- The body of a request is not sent again. -/
theorem blocks_of_redirected? {request next : Request} {response : Response}
    (h : redirected? request response = some next)
    (hrequest : request.method = .put ∨ request.blocks = []) : next.blocks = [] := by
  have hblocks : request.method ≠ .put → request.blocks = [] := hrequest.resolve_left
  unfold redirected? at h
  obtain ⟨reference, -, h⟩ := Option.bind_eq_some_iff.1 h
  obtain ⟨url, -, h⟩ := Option.bind_eq_some_iff.1 h
  dsimp only at h
  split at h
  · split at h
    · cases h
      rfl
    · next hput =>
        cases h
        exact hblocks hput
  · split at h
    · next hcode =>
        cases h
        exact hblocks hcode.2
    · cases h

/-- Nothing is added to the headers that a request takes along. -/
theorem forwarded_subset (request : Request) (url : Url) :
    forwarded request url ⊆ request.headers := by
  unfold forwarded
  split
  · exact List.Subset.refl _
  · exact List.filter_sublist.subset

/-- A request has no headers but those of the request that it was redirected from. -/
theorem headers_subset_of_redirected? {request next : Request} {response : Response}
    (h : redirected? request response = some next) : next.headers ⊆ request.headers := by
  unfold redirected? at h
  obtain ⟨reference, -, h⟩ := Option.bind_eq_some_iff.1 h
  obtain ⟨url, -, h⟩ := Option.bind_eq_some_iff.1 h
  dsimp only at h
  split at h
  · split at h
    · cases h
      exact List.Subset.trans List.filter_sublist.subset (forwarded_subset request url)
    · cases h
      exact forwarded_subset request url
  · split at h
    · cases h
      exact forwarded_subset request url
    · cases h

/-- Exchanges that come of a request when at most `hops` redirections are followed,
and what the client hands over in the end. -/
inductive Followed : Nat → Request → List Talk → Exchange → Prop
  | failed {hops : Nat} {request : Request} {exchange : Exchange} {text : String} :
    exchange.result = .error text → Followed hops request [(request, exchange)] exchange
  | settled {hops : Nat} {request : Request} {exchange : Exchange} {response : Response} :
    exchange.result = .ok response → redirected? request response = none →
    Followed hops request [(request, exchange)] exchange
  /-- One redirection too many. -/
  | exhausted {request next : Request} {exchange : Exchange} {response : Response}
    (text : String) :
    exchange.result = .ok response → redirected? request response = some next →
    Followed 0 request [(request, exchange)] { exchange with result := .error text }
  | hop {hops : Nat} {request next : Request} {exchange last : Exchange} {response : Response}
    {talks : List Talk} :
    exchange.result = .ok response → redirected? request response = some next →
    Followed hops next talks last →
    Followed (hops + 1) request ((request, exchange) :: talks)
      { last with taken := exchange.taken }

/-- The reply that a client came to rest at: it redirects no further. -/
def SettledAt (talks : List Talk) (response : Response) : Prop :=
  ∃ last ∈ talks.getLast?, last.2.result = .ok response ∧ redirected? last.1 response = none

namespace Followed

variable {hops : Nat} {request : Request} {talks : List Talk} {final : Exchange}
  {response : Response}

/-- No PUT is made where the first request is none. -/
theorem forall_ne_put (h : Followed hops request talks final) (hrequest : request.method ≠ .put) :
    ∀ talk ∈ talks, talk.1.method ≠ .put := by
  induction h with
  | failed | settled | exhausted => simpa using hrequest
  | hop hok hsome later ih =>
      exact List.forall_mem_cons.2 ⟨hrequest, ih (redirected?_eq_some hsome).1⟩

/-- The first exchange is that of the request, and no PUT is made after it. -/
theorem exists_cons (h : Followed hops request talks final) :
    ∃ first later, talks = (request, first) :: later ∧ ∀ talk ∈ later, talk.1.method ≠ .put := by
  cases h with
  | failed | settled | exhausted => exact ⟨_, [], rfl, by simp⟩
  | hop hok hsome later => exact ⟨_, _, rfl, later.forall_ne_put (redirected?_eq_some hsome).1⟩

/-- No body is sent where the first request has none. -/
theorem forall_blocks_eq_nil (h : Followed hops request talks final)
    (hrequest : request.blocks = []) : ∀ talk ∈ talks, talk.1.blocks = [] := by
  induction h with
  | failed | settled | exhausted => simpa using hrequest
  | hop hok hsome later ih =>
      exact List.forall_mem_cons.2 ⟨hrequest, ih (blocks_of_redirected? hsome (.inr hrequest))⟩

/-- No header is sent but those of the first request. -/
theorem forall_headers_subset (h : Followed hops request talks final) :
    ∀ talk ∈ talks, talk.1.headers ⊆ request.headers := by
  induction h with
  | failed | settled | exhausted => simp
  | hop hok hsome later ih =>
      have hnext := headers_subset_of_redirected? hsome
      exact List.forall_mem_cons.2
        ⟨List.Subset.refl _, fun talk hmem => List.Subset.trans (ih talk hmem) hnext⟩

/-- The body of a PUT goes to the URL of that request and to no other. -/
theorem exists_cons_of_put (h : Followed hops request talks final)
    (hrequest : request.method = .put) :
    ∃ first later, talks = (request, first) :: later ∧
      ∀ talk ∈ later, talk.1.method ≠ .put ∧ talk.1.blocks = [] := by
  cases h with
  | failed | settled | exhausted => exact ⟨_, [], rfl, by simp⟩
  | hop hok hsome later =>
      have hbody := blocks_of_redirected? hsome (.inl hrequest)
      exact ⟨_, _, rfl, fun talk htalk => ⟨later.forall_ne_put (redirected?_eq_some hsome).1 talk
        htalk, later.forall_blocks_eq_nil hbody talk htalk⟩⟩

/-- The reply that is handed over is the one that the client came to rest at. -/
theorem result_eq_ok_iff (h : Followed hops request talks final) :
    final.result = .ok response ↔ SettledAt talks response := by
  induction h with
  | failed herror => simp [SettledAt, herror]
  | settled hok hnone =>
      simp only [SettledAt, List.getLast?_singleton, Option.mem_some_iff, exists_eq_left', hok,
        Except.ok.injEq]
      exact ⟨fun he => ⟨he, he ▸ hnone⟩, And.left⟩
  | exhausted text hok hsome =>
      simp only [SettledAt, List.getLast?_singleton, Option.mem_some_iff, exists_eq_left', hok,
        Except.ok.injEq, reduceCtorEq, false_iff, not_and]
      rintro rfl
      simp [hsome]
  | hop hok hsome later ih =>
      obtain ⟨first, rest, rfl, -⟩ := later.exists_cons
      rw [ih, SettledAt, SettledAt, List.getLast?_cons_cons]

/-- Where the first exchange is not redirected, it is the only one. -/
theorem eq_singleton (h : Followed hops request talks final) {first : Exchange}
    {later : List Talk} (htalks : talks = (request, first) :: later)
    (hok : first.result = .ok response) (hnone : redirected? request response = none) :
    later = [] := by
  cases h with
  | failed | settled | exhausted => cases htalks; rfl
  | hop hok' hsome =>
      cases htalks
      cases hok.symm.trans hok'
      rw [hnone] at hsome
      contradiction

/-- Where the first exchange is redirected, what comes after it is what comes of the
request to which it is. -/
theorem of_redirected (h : Followed (hops + 1) request talks final) {first : Exchange}
    {later : List Talk} {next : Request} (htalks : talks = (request, first) :: later)
    (hok : first.result = .ok response) (hsome : redirected? request response = some next) :
    ∃ last, Followed hops next later last := by
  cases h with
  | failed herror =>
      cases htalks
      rw [hok] at herror
      contradiction
  | settled hok' hnone =>
      cases htalks
      cases hok.symm.trans hok'
      rw [hnone] at hsome
      contradiction
  | hop hok' hsome' hlater =>
      cases htalks
      cases hok.symm.trans hok'
      cases hsome.symm.trans hsome'
      exact ⟨_, hlater⟩

/-- The blocks that were taken are those of the first exchange. -/
theorem taken_eq (h : Followed hops request talks final) {first : Exchange} {later : List Talk}
    (htalks : talks = (request, first) :: later) : final.taken = first.taken := by
  cases h with
  | failed | settled | exhausted | hop => cases htalks; rfl

/-- A client that hands over a reply got one to its first request. -/
theorem exists_first (h : Followed hops request talks final) {first : Exchange}
    {later : List Talk} (htalks : talks = (request, first) :: later)
    (hfinal : final.result = .ok response) : ∃ reply, first.result = .ok reply := by
  cases h with
  | failed herror => rw [herror] at hfinal; contradiction
  | settled hok | exhausted _ hok | hop hok => cases htalks; exact ⟨_, hok⟩

end Followed

/-! ## the client -/

section Client

variable {σ : Type} (answer : Answerer σ)

/-- A client that follows redirections asks nothing but servers. -/
theorem follow_asks {P : Query → Prop} (hP : ∀ request, P (.exchange request)) (hops : Nat)
    (request : Request) : (follow hops request).Asks P := by
  induction hops generalizing request with
  | zero =>
      unfold follow
      refine .bind (.query (hP request)) fun exchange => ?_
      split
      · trivial
      · split <;> trivial
  | succ hops ih =>
      unfold follow
      refine .bind (.query (hP request)) fun exchange => ?_
      split
      · trivial
      · split
        · trivial
        · exact .bind (ih _) fun _ => trivial

/-- A client follows redirections. -/
theorem follow_takes {hops : Nat} {request : Request} {ts : List Turn} {final : Exchange}
    (h : (follow hops request).Takes ts final) :
    Followed hops request (ts.filterMap Turn.talk?) final := by
  unfold follow at h
  obtain ⟨exchange, rest, rfl, hrest⟩ := Job.takes_query_bind_iff.1 h
  cases hexchange : exchange.result with
  | error text =>
      rw [hexchange] at hrest
      obtain ⟨rfl, rfl⟩ := Job.takes_pure_iff.1 hrest
      exact .failed hexchange
  | ok response =>
      simp only [hexchange] at hrest
      cases hnext : redirected? request response with
      | none =>
          rw [hnext] at hrest
          obtain ⟨rfl, rfl⟩ := Job.takes_pure_iff.1 hrest
          exact .settled hexchange hnext
      | some next =>
          rw [hnext] at hrest
          cases hops with
          | zero =>
              obtain ⟨rfl, rfl⟩ := Job.takes_pure_iff.1 hrest
              exact .exhausted _ hexchange hnext
          | succ hops =>
              obtain ⟨later, last, final, rfl, hlater, hlast⟩ := Job.takes_bind_iff.1 hrest
              obtain ⟨rfl, rfl⟩ := Job.takes_pure_iff.1 hlast
              rw [List.append_nil]
              exact .hop hexchange hnext (follow_takes hlater)

/-- Following a request sends it and then where each reply points to. -/
theorem follow_followed (hops : Nat) (request : Request) (s : σ) :
    Followed hops request ((follow hops request).talks answer s)
      ((follow hops request).run answer s).1 :=
  follow_takes (Job.takes_run answer s _)

end Client

end Http

end SlotUpload
