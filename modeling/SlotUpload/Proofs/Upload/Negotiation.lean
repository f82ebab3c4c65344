import SlotUpload.Proofs.Discovery.Search
import SlotUpload.Proofs.Payload.Slot
import SlotUpload.Upload.Negotiation

/-!
# SlotUpload.Proofs.Upload.Negotiation

What comes of asking for a slot.  `Negotiated` lists the ways in which it can go:
all calls of the session with their answers, and the result.  A service that cannot
be found, a file that is larger than the service accepts and an empty file are
turned down before anything is requested; else there is one request, to the service
and in its schema, and its answer decides (`Answered`).

Every run goes one of these ways (`requestSlot_negotiated`).
-/

namespace SlotUpload

/-! ## requests -/

/-- Is a query a request to an entity? -/
def Query.isRequest : Query → Bool
  | .request _ _ => true
  | _ => false

namespace Turn

/-- The requests among some turns, with their answers. -/
def requests (ts : List Turn) : List Turn := ts.filter (·.query.isRequest)

@[simp] theorem requests_append (ts us : List Turn) :
    requests (ts ++ us) = requests ts ++ requests us := List.filter_append ..

/-- Requests are calls of the session. -/
theorem requests_calls (ts : List Turn) : requests (calls ts) = requests ts := by
  rw [requests, requests, calls, List.filter_filter]
  refine List.filter_congr fun t _ => ?_
  cases t.query <;> rfl

theorem mem_requests_iff {ts : List Turn} {recipient payload : String}
    {answer : (Query.request recipient payload).Answer} :
    ⟨.request recipient payload, answer⟩ ∈ requests ts ↔
      ⟨.request recipient payload, answer⟩ ∈ ts := by
  simp [requests, Query.isRequest]

end Turn

namespace Discovery.Resolved

variable {known : Option UploadService} {address : Option String} {calls : List Turn}
  {r : Except UploadError UploadService}

/-- To find a service, nothing but the session is asked, and nothing is requested. -/
theorem calls_calls (h : Resolved known address calls r) :
    Turn.calls calls = calls ∧ Turn.requests calls = [] := by
  rcases h.calls_eq with rfl | ⟨a, info, -, rfl⟩ <;> exact ⟨rfl, rfl⟩

end Discovery.Resolved

namespace Upload

open Discovery

/-! ## what the answer means -/

/-- What the answer to a request for a slot comes to. -/
inductive Answered (service : UploadService) :
    Except Causes SessionReply → Except UploadError Slot → Prop
  | granted {payload : String} {slot : Slot} (h : Slot.decode payload = .ok slot) :
      Answered service (.ok (.result payload)) (.ok slot)
  | malformed {payload : String} {fault : PayloadError}
      (h : Slot.decode payload = .error fault) :
      Answered service (.ok (.result payload)) (.error (.malformedReply fault.message))
  | tooLarge {payload : String} {limit : FileTooLarge}
      (h : FileTooLarge.decode payload = .ok (some limit)) :
      Answered service (.ok (.error payload)) (.error (.fileTooLarge limit.maxFileSize))
  | refused {payload : String} (h : ∀ limit, FileTooLarge.decode payload ≠ .ok (some limit)) :
      Answered service (.ok (.error payload))
        (.error (.negotiationFailed
          ["upload service " ++ service.address ++ " returned error: " ++ payload]))
  | unanswered (causes : Causes) :
      Answered service (.error causes) (.error (.negotiationFailed causes))

/-- A slot is given exactly if the answer is a result that is read as that slot. -/
theorem Answered.eq_ok_iff {service : UploadService} {answer : Except Causes SessionReply}
    {result : Except UploadError Slot} (h : Answered service answer result) {slot : Slot} :
    result = .ok slot ↔
      ∃ payload, answer = .ok (.result payload) ∧ Slot.decode payload = .ok slot := by
  cases h with
  | granted h | malformed h => simp [h]
  | tooLarge | refused | unanswered => simp

/-- A fault of a slot is a fault of the reply. -/
theorem liftPayload_decode_of_error {payload : String} {fault : PayloadError}
    (h : Slot.decode payload = .error fault) :
    liftPayload (Slot.decode payload) = .error (.malformedReply fault.message) := by
  rw [h]
  exact congrArg Except.error (Slot.ofPayload_of_decode h)

/-- A reply is judged as it should be answered. -/
theorem answered_judgeReply (service : UploadService) (reply : SessionReply) :
    Answered service (.ok reply) (judgeReply service reply) := by
  cases reply with
  | result payload =>
      change Answered service _ (liftPayload (Slot.decode payload))
      cases h : Slot.decode payload with
      | ok slot => exact .granted h
      | error fault =>
          rw [← h, liftPayload_decode_of_error h]
          exact .malformed h
  | error payload =>
      unfold judgeReply
      dsimp only
      split
      · next limit h => exact .tooLarge h
      · next h => exact .refused h

/-- The one request of a negotiation. -/
def ask (service : UploadService) (request : SlotRequest) : Attempt Slot := do
  Attempt.query (.log (requestEntry request))
  match ← Attempt.query (.request service.address (request.encode service.version)) with
  | .error causes => throw (.negotiationFailed causes)
  | .ok reply => Attempt.ofExcept (judgeReply service reply)

/-- Asking sends one request, to the service and in its version. -/
theorem ask_takes {service : UploadService} {request : SlotRequest} {ts : List Turn}
    {result : Except UploadError Slot} (h : (ask service request).run.Takes ts result) :
    ∃ answer, Turn.calls ts =
        [⟨.request service.address (request.encode service.version), answer⟩] ∧
      Answered service answer result := by
  unfold ask at h
  obtain ⟨_, rest, rfl, hrest⟩ := Job.takes_query_bind_iff.1 h
  obtain ⟨answer, last, rfl, hlast⟩ := Job.takes_query_bind_iff.1 hrest
  refine ⟨answer, ?_⟩
  cases answer with
  | error causes =>
      obtain ⟨rfl, rfl⟩ := Job.takes_pure_iff.1 hlast
      exact ⟨rfl, .unanswered causes⟩
  | ok reply =>
      obtain ⟨rfl, rfl⟩ := Job.takes_pure_iff.1 hlast
      exact ⟨rfl, answered_judgeReply service reply⟩

/-! ## the ways of a negotiation -/

/-- The request for a slot for a file that is not empty. -/
def requestTo (service : UploadService) (fileName : String) (size : UInt64)
    (contentType : Option String) (hsize : size ≠ 0) : SlotRequest :=
  { service := service.address, fileName, size, contentType, size_ne_zero := hsize }

/-- The ways in which a request for a slot can go: the calls of the session with
their answers, and the result. -/
inductive Negotiated (known : Option UploadService) (address : Option String)
    (fileName : String) (size : UInt64) (contentType : Option String) :
    List Turn → Except UploadError Slot → Prop
  | unresolved {calls : List Turn} {e : UploadError}
      (h : Resolved known address calls (.error e)) :
      Negotiated known address fileName size contentType calls (.error e)
  | tooLarge {calls : List Turn} {service : UploadService}
      (h : Resolved known address calls (.ok service)) {limit : UInt64}
      (hlimit : service.maxFileSize = some limit) (hsize : limit < size) :
      Negotiated known address fileName size contentType calls (.error (.fileTooLarge limit))
  | empty {calls : List Turn} {service : UploadService}
      (h : Resolved known address calls (.ok service)) (hsize : size = 0) :
      Negotiated known address fileName size contentType calls
        (.error (.invalidArgument "file size must be greater than zero"))
  | requested {calls : List Turn} {service : UploadService}
      (h : Resolved known address calls (.ok service))
      (haccepts : ∀ limit, service.maxFileSize = some limit → size ≤ limit) (hsize : size ≠ 0)
      {answer : Except Causes SessionReply} {result : Except UploadError Slot}
      (hanswer : Answered service answer result) :
      Negotiated known address fileName size contentType
        (calls ++ [⟨.request service.address
          ((requestTo service fileName size contentType hsize).encode service.version), answer⟩])
        result

section Ways

variable {known : Option UploadService} {address : Option String} {fileName : String}
  {size : UInt64} {contentType : Option String} {calls : List Turn}
  {result : Except UploadError Slot}

/-- A negotiation sends one request at most. -/
theorem Negotiated.length_requests_le
    (h : Negotiated known address fileName size contentType calls result) :
    (Turn.requests calls).length ≤ 1 := by
  cases h with
  | unresolved h | tooLarge h | empty h => simp [h.calls_calls.2]
  | requested h =>
      rw [Turn.requests_append, h.calls_calls.2]
      exact Nat.le_refl 1

/-- A slot is given exactly if a request was answered with a result that is read as
that slot. -/
theorem Negotiated.eq_ok_iff
    (h : Negotiated known address fileName size contentType calls result) {slot : Slot} :
    result = .ok slot ↔ ∃ recipient payload reply,
      ⟨.request recipient payload, .ok (.result reply)⟩ ∈ Turn.requests calls ∧
        Slot.decode reply = .ok slot := by
  cases h with
  | unresolved h | tooLarge h | empty h => simp [h.calls_calls.2]
  | requested h _ _ hanswer =>
      rw [hanswer.eq_ok_iff, Turn.requests_append, h.calls_calls.2]
      constructor
      · rintro ⟨reply, rfl, hslot⟩
        exact ⟨_, _, reply, List.mem_singleton_self _, hslot⟩
      · rintro ⟨recipient, payload, reply, hmem, hslot⟩
        cases List.mem_singleton.1 hmem
        exact ⟨reply, rfl, hslot⟩

/-- A slot that is given was granted, whatever else was asked meanwhile. -/
theorem Negotiated.exists_mem {ts : List Turn} {slot : Slot}
    (h : Negotiated known address fileName size contentType (Turn.calls ts) (.ok slot)) :
    ∃ recipient payload reply,
      ⟨.request recipient payload, .ok (.result reply)⟩ ∈ ts ∧ Slot.decode reply = .ok slot := by
  obtain ⟨recipient, payload, reply, hmem, hdecode⟩ := h.eq_ok_iff.1 rfl
  rw [Turn.requests_calls] at hmem
  exact ⟨recipient, payload, reply, Turn.mem_requests_iff.1 hmem, hdecode⟩

/-- A service accepts what is within its limit, if it has one. -/
theorem accepts_iff {service : UploadService} :
    service.accepts size ↔ ∀ limit, service.maxFileSize = some limit → size ≤ limit := by
  unfold UploadService.accepts
  cases service.maxFileSize <;> simp

/-- A file that a service does not accept is larger than the limit it tells. -/
theorem exists_limit_of_not_accepts {service : UploadService}
    (h : service.accepts size = false) :
    ∃ limit, service.maxFileSize = some limit ∧ limit < size := by
  unfold UploadService.accepts at h
  cases hlimit : service.maxFileSize with
  | none => simp [hlimit] at h
  | some limit => exact ⟨limit, rfl, by simpa [hlimit] using h⟩

/-- Getting a slot looks at the default first and then negotiates. -/
theorem requestSlot_takes {ts : List Turn}
    (h : (requestSlot fileName size contentType address).run.Takes ts result) :
    ∃ known rest, ts = ⟨.cached, known⟩ :: rest ∧
      Negotiated known address fileName size contentType (Turn.calls ts) result := by
  unfold requestSlot at h
  rcases Attempt.takes_bind_iff.1 h with
    ⟨e, hresolve, rfl⟩ | ⟨first, last, service, rfl, hresolve, hrest⟩
  · obtain ⟨known, calls, rfl, hresolved⟩ := resolve_takes hresolve
    refine ⟨known, calls, rfl, .unresolved ?_⟩
    change Resolved known address (Turn.calls calls) _
    rwa [hresolved.calls_calls.1]
  · obtain ⟨known, calls, rfl, hresolved⟩ := resolve_takes hresolve
    refine ⟨known, calls ++ last, rfl, ?_⟩
    change Negotiated known address fileName size contentType (Turn.calls (calls ++ last)) result
    rw [Turn.calls_append, hresolved.calls_calls.1]
    clear h hresolve
    dsimp only at hrest
    cases haccepts : service.accepts size with
    | false =>
        obtain ⟨limit, hlimit, hsize⟩ := exists_limit_of_not_accepts haccepts
        rw [haccepts] at hrest
        obtain ⟨rfl, rfl⟩ := Job.takes_pure_iff.1 hrest
        rw [hlimit]
        simpa [Turn.calls] using .tooLarge hresolved hlimit hsize
    | true =>
        rw [haccepts] at hrest
        by_cases hsize : size = 0
        · have hmake : SlotRequest.make service.address fileName size contentType =
              .error .emptyFile := dif_pos hsize
          rw [hmake] at hrest
          obtain ⟨rfl, rfl⟩ := Job.takes_pure_iff.1 hrest
          simpa [Turn.calls] using .empty hresolved hsize
        · have hmake : SlotRequest.make service.address fileName size contentType =
              .ok (requestTo service fileName size contentType hsize) := dif_neg hsize
          rw [hmake] at hrest
          obtain ⟨answer, hcalls, hanswer⟩ := ask_takes hrest
          rw [hcalls]
          exact .requested hresolved (accepts_iff.1 haccepts) hsize hanswer

end Ways

/-- **Negotiation**: whatever the session answers, a request for a slot goes one of
the ways of `Negotiated`, from the service that is known when it begins.  One
request at most is sent, and a slot is given exactly if a request was answered with
a result that is read as that slot. -/
theorem requestSlot_negotiated {σ : Type} (answer : Answerer σ) (s : σ) (fileName : String)
    (size : UInt64) (contentType address : Option String) :
    let job := (requestSlot fileName size contentType address).run
    let turns := job.turns answer s
    let result := (job.run answer s).1
    Negotiated (answer .cached s).1 address fileName size contentType (Turn.calls turns) result ∧
      (Turn.requests turns).length ≤ 1 ∧
      ∀ slot, result = .ok slot ↔ ∃ recipient payload reply,
        ⟨.request recipient payload, .ok (.result reply)⟩ ∈ turns ∧
          Slot.decode reply = .ok slot := by
  intro job turns result
  obtain ⟨known, rest, hturns, hnegotiated⟩ := requestSlot_takes (job.takes_run answer s)
  have hknown : known = (answer .cached s).1 := Job.answer_eq_of_turns_eq_cons answer s hturns
  subst hknown
  refine ⟨hnegotiated, ?_, fun slot => ?_⟩
  · rw [← Turn.requests_calls]
    exact hnegotiated.length_requests_le
  · rw [hnegotiated.eq_ok_iff, Turn.requests_calls]
    exact exists_congr fun recipient => exists_congr fun payload => exists_congr fun reply =>
      and_congr_left' Turn.mem_requests_iff

end Upload

end SlotUpload
