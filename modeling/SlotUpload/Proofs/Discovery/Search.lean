import SlotUpload.Discovery.Discover
import SlotUpload.Proofs.Job.Turns

/-!
# SlotUpload.Proofs.Discovery.Search

What a messaging session is asked when an upload service is looked for.  `Discovered`
lists the calls of a discovery with their answers, and the service that is found:
the first item that is an upload service, after all items before it were asked.
`Resolved` does so for the service that a request for a slot is meant for.

Each job of `Discovery` has its lemma here (`discover_takes`, `resolve_takes`, …),
which tells its calls, its value and what it makes the default service.
-/

namespace SlotUpload

/-! ## turns of a discovery -/

/-- Does a query go to the messaging session? -/
def Query.isSession : Query → Bool
  | .items _ | .info _ | .request _ _ => true
  | _ => false

namespace Turn

/-- The calls of the messaging session among some turns, with their answers. -/
def calls (ts : List Turn) : List Turn := ts.filter (·.query.isSession)

/-- The upload service that an entity tells it is. -/
def service? : Turn → Option UploadService
  | ⟨.info _, .ok info⟩ => info.uploadService?
  | _ => none

/-- What a turn makes the default service, if it does. -/
def kept? : Turn → Option (Option UploadService)
  | ⟨.cache service, _⟩ => some service
  | _ => none

/-- What some turns make the default service, one after another. -/
def kept (ts : List Turn) : List (Option UploadService) := ts.filterMap kept?

variable {ts us : List Turn}

@[simp] theorem calls_append : calls (ts ++ us) = calls ts ++ calls us := List.filter_append ..

@[simp] theorem kept_append : kept (ts ++ us) = kept ts ++ kept us := List.filterMap_append ..

/-- A turn that sets no default service. -/
theorem kept_cons {q : Query} {answer : q.Answer} (hq : ∀ service, q ≠ .cache service) :
    kept (⟨q, answer⟩ :: ts) = kept ts := by
  have hnone : kept? ⟨q, answer⟩ = none := by
    unfold kept?
    split
    · next heq =>
        cases heq
        exact absurd rfl (hq _)
    · rfl
  rw [kept, List.filterMap_cons_none hnone]
  rfl

/-- Turns that touch no default service. -/
theorem kept_eq_nil {P : Query → Prop} (hP : ∀ service, ¬ P (.cache service))
    (h : ∀ t ∈ ts, P t.query) : kept ts = [] := by
  induction ts with
  | nil => rfl
  | cons t ts ih =>
      obtain ⟨hq, hts⟩ := List.forall_mem_cons.1 h
      have hne : ∀ service, t.query ≠ .cache service := fun service heq => hP service (heq ▸ hq)
      exact (kept_cons hne).trans (ih hts)

end Turn

namespace Discovery

variable {server : String} {items : List String} {ts calls : List Turn}
  {known found : Option UploadService}

/-! ## looking for a service -/

/-- What a session is asked when items are asked in order, and the service found. -/
inductive Walk : List String → List Turn → Option UploadService → Prop
  | nil : Walk [] [] none
  | unreachable {item : String} {items : List String} {calls : List Turn}
      {found : Option UploadService} (causes : Causes) (rest : Walk items calls found) :
      Walk (item :: items) (⟨.info item, .error causes⟩ :: calls) found
  | passed {item : String} {items : List String} {calls : List Turn} {info : DiscoInfo}
      {found : Option UploadService} (h : info.uploadService? = none)
      (rest : Walk items calls found) :
      Walk (item :: items) (⟨.info item, .ok info⟩ :: calls) found
  | found {item : String} {items : List String} {info : DiscoInfo} {service : UploadService}
      (h : info.uploadService? = some service) :
      Walk (item :: items) [⟨.info item, .ok info⟩] (some service)

/-- What a session is asked in a discovery, and the service found. -/
inductive Discovered (server : String) : List Turn → Option UploadService → Prop
  | unlisted (causes : Causes) : Discovered server [⟨.items server, .error causes⟩] none
  | walked {items : List String} {calls : List Turn} {found : Option UploadService}
      (walk : Walk items calls found) :
      Discovered server (⟨.items server, .ok items⟩ :: calls) found

/-- The service found is the first one that an item tells it is. -/
theorem Walk.found_eq (h : Walk items calls found) : found = calls.findSome? Turn.service? := by
  induction h with
  | nil => rfl
  | unreachable causes _ ih => exact ih
  | passed h _ ih =>
      rw [List.findSome?_cons, Turn.service?, h]
      exact ih
  | found h => rw [List.findSome?_cons, Turn.service?, h]

/-- What a discovery finds is the first service that it was told of. -/
theorem Discovered.found_eq (h : Discovered server calls found) :
    found = calls.findSome? Turn.service? := by
  cases h with
  | unlisted => rfl
  | walked walk => exact walk.found_eq

/-- The calls of a discovery settle what it finds. -/
theorem Discovered.unique {other : Option UploadService} (h : Discovered server calls found)
    (h' : Discovered server calls other) : found = other := by
  rw [h.found_eq, h'.found_eq]

/-- A discovery asks the session. -/
theorem Discovered.ne_nil (h : Discovered server calls found) : calls ≠ [] := by
  cases h <;> exact List.cons_ne_nil _ _

/-- A search walks through the items, and sets the default service if it finds one. -/
theorem search_takes {b : Bool} (h : (search items).Takes ts b) :
    ∃ found, Walk items (Turn.calls ts) found ∧ b = found.isSome ∧
      Turn.kept ts = found.toList.map some := by
  induction items generalizing ts with
  | nil =>
      obtain ⟨rfl, rfl⟩ := Job.takes_pure_iff.1 h
      exact ⟨none, .nil, rfl, rfl⟩
  | cons item items ih =>
      unfold search at h
      obtain ⟨answer, rest, rfl, hrest⟩ := Job.takes_query_bind_iff.1 h
      cases answer with
      | error causes =>
          obtain ⟨_, later, rfl, hlater⟩ := Job.takes_query_bind_iff.1 hrest
          obtain ⟨found, hwalk, hb, hkept⟩ := ih hlater
          exact ⟨found, .unreachable causes hwalk, hb, hkept⟩
      | ok info =>
          dsimp only at hrest
          cases hinfo : info.uploadService? with
          | none =>
              rw [hinfo] at hrest
              obtain ⟨found, hwalk, hb, hkept⟩ := ih hrest
              exact ⟨found, .passed hinfo hwalk, hb, hkept⟩
          | some service =>
              rw [hinfo] at hrest
              obtain ⟨_, _, rfl, hlater⟩ := Job.takes_query_bind_iff.1 hrest
              obtain ⟨_, _, rfl, hlast⟩ := Job.takes_query_bind_iff.1 hlater
              obtain ⟨rfl, rfl⟩ := Job.takes_pure_iff.1 hlast
              exact ⟨some service, .found hinfo, rfl, rfl⟩

/-- A discovery tells whether it found a service, and makes it the default. -/
theorem discover_takes {b : Bool} (h : (discover server).Takes ts b) :
    ∃ found, Discovered server (Turn.calls ts) found ∧ b = found.isSome ∧
      Turn.kept ts = found.toList.map some := by
  unfold discover at h
  obtain ⟨answer, rest, rfl, hrest⟩ := Job.takes_query_bind_iff.1 h
  cases answer with
  | error causes =>
      obtain ⟨_, _, rfl, hlast⟩ := Job.takes_query_bind_iff.1 hrest
      obtain ⟨rfl, rfl⟩ := Job.takes_pure_iff.1 hlast
      exact ⟨none, .unlisted causes, rfl, rfl⟩
  | ok items =>
      obtain ⟨found, hwalk, hb, hkept⟩ := search_takes hrest
      exact ⟨found, .walked hwalk, hb, hkept⟩

/-- A service that is known is not looked for. -/
theorem ensure_takes {b : Bool} (h : (ensure server).Takes ts b) :
    ∃ known rest, ts = ⟨.cached, known⟩ :: rest ∧
      match known with
      | some _ => rest = [] ∧ b = true
      | none => (discover server).Takes rest b := by
  unfold ensure at h
  obtain ⟨known, rest, rfl, hrest⟩ := Job.takes_query_bind_iff.1 h
  refine ⟨known, rest, rfl, ?_⟩
  cases known with
  | some service => exact Job.takes_pure_iff.1 hrest
  | none => exact hrest

/-- The known service is forgotten before another one is looked for. -/
theorem reconnect_takes (h : (reconnect server).Takes ts ()) :
    ∃ found, Discovered server (Turn.calls ts) found ∧
      Turn.kept ts = none :: found.toList.map some := by
  unfold reconnect at h
  obtain ⟨_, rest, rfl, hrest⟩ := Job.takes_query_bind_iff.1 h
  obtain ⟨first, last, b, rfl, hfirst, hlast⟩ := Job.takes_bind_iff.1 hrest
  obtain ⟨found, hdiscovered, -, hkept⟩ := discover_takes hfirst
  have hend : Turn.calls last = [] ∧ Turn.kept last = [] := by
    cases b with
    | true =>
        obtain ⟨rfl, -⟩ := Job.takes_pure_iff.1 hlast
        exact ⟨rfl, rfl⟩
    | false =>
        cases hlast with
        | ask _ hdone =>
            cases hdone
            exact ⟨rfl, rfl⟩
  refine ⟨found, ?_, ?_⟩
  · change Discovered server (Turn.calls (first ++ last)) found
    rw [Turn.calls_append, hend.1, List.append_nil]
    exact hdiscovered
  · change none :: Turn.kept (first ++ last) = _
    rw [Turn.kept_append, hend.2, List.append_nil, hkept]

/-! ## the service that is asked for a slot -/

/-- An address has to be asked about: it is not that of the known service. -/
def Unknown (known : Option UploadService) (address : String) : Prop :=
  ∀ service, known = some service → service.address ≠ address

/-- What a session is asked to find the service that a request is meant for, and
the service, or why there is none. -/
inductive Resolved (known : Option UploadService) :
    Option String → List Turn → Except UploadError UploadService → Prop
  | default {service : UploadService} (h : known = some service) :
      Resolved known none [] (.ok service)
  | noService (h : known = none) : Resolved known none [] (.error .noService)
  | known {address : String} {service : UploadService} (h : known = some service)
      (haddress : service.address = address) : Resolved known (some address) [] (.ok service)
  | unreachable {address : String} (h : Unknown known address) (causes : Causes) :
      Resolved known (some address) [⟨.info address, .error causes⟩]
        (.error (.negotiationFailed causes))
  | notOffered {address : String} (h : Unknown known address) {info : DiscoInfo}
      (hinfo : info.uploadService? = none) :
      Resolved known (some address) [⟨.info address, .ok info⟩]
        (.error (.invalidArgument
          ("there is no HTTP upload service running at " ++ Text.quoted address)))
  | found {address : String} (h : Unknown known address) {info : DiscoInfo}
      {service : UploadService} (hinfo : info.uploadService? = some service) :
      Resolved known (some address) [⟨.info address, .ok info⟩] (.ok service)

/-- To find the service, one entity at most is asked, and what it tells. -/
theorem Resolved.calls_eq {address : Option String} {r : Except UploadError UploadService}
    (h : Resolved known address calls r) :
    calls = [] ∨ ∃ a info, address = some a ∧ calls = [⟨.info a, info⟩] := by
  cases h with
  | default | noService | known => exact .inl rfl
  | unreachable | notOffered | found => exact .inr ⟨_, _, rfl, rfl⟩

/-- The service for an address is the default one, or what the address tells of itself. -/
theorem resolve_takes {address : Option String} {r : Except UploadError UploadService}
    (h : (resolve address).run.Takes ts r) :
    ∃ known calls, ts = ⟨.cached, known⟩ :: calls ∧ Resolved known address calls r := by
  unfold resolve at h
  rw [Attempt.run_query_bind] at h
  obtain ⟨known, calls, hts, hcalls⟩ := Job.takes_query_bind_iff.1 h
  refine ⟨known, calls, hts, ?_⟩
  clear h hts
  cases address with
  | none =>
      cases known with
      | none =>
          obtain ⟨rfl, rfl⟩ := Job.takes_pure_iff.1 hcalls
          exact .noService rfl
      | some service =>
          obtain ⟨rfl, rfl⟩ := Job.takes_pure_iff.1 hcalls
          exact .default rfl
  | some address =>
      dsimp only at hcalls
      split at hcalls
      · next service hservice =>
          obtain ⟨hknown, haddress⟩ := Option.filter_eq_some_iff.1 hservice
          obtain ⟨rfl, rfl⟩ := Job.takes_pure_iff.1 hcalls
          exact .known hknown (of_decide_eq_true haddress)
      · next hnone =>
          have hunknown : Unknown known address := by
            rintro service rfl haddress
            simp [Option.filter, haddress] at hnone
          rw [Attempt.run_query_bind] at hcalls
          obtain ⟨answer, rest, rfl, hrest⟩ := Job.takes_query_bind_iff.1 hcalls
          clear hcalls
          cases answer with
          | error causes =>
              obtain ⟨rfl, rfl⟩ := Job.takes_pure_iff.1 hrest
              exact .unreachable hunknown causes
          | ok info =>
              dsimp only at hrest
              split at hrest
              · next service hservice =>
                  obtain ⟨rfl, rfl⟩ := Job.takes_pure_iff.1 hrest
                  exact .found hunknown hservice
              · next hservice =>
                  obtain ⟨rfl, rfl⟩ := Job.takes_pure_iff.1 hrest
                  exact .notOffered hunknown hservice

end Discovery

end SlotUpload
