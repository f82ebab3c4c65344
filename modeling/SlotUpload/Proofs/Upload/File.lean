import SlotUpload.Proofs.Upload.Acceptance
import SlotUpload.Proofs.Upload.Negotiation
import SlotUpload.Upload.File

/-!
# SlotUpload.Proofs.Upload.File

What holds of every upload of a file, whatever is answered: which queries it may ask
(`uploadFile_asks`), that it does not end as canceled, which only its transfer can do
(`neverCanceled_uploadFile`), and what went before if it ends well.  Then it was
granted a slot, whose URL it gives, and it reported that no byte had been sent yet
(`uploadFile_takes_ok`).
-/

namespace SlotUpload

open Attempt

/-! ## what an upload asks -/

/-- May a negotiation ask this? -/
def Query.IsNegotiation : Query → Prop
  | .cached | .info _ | .request _ _ | .log _ => True
  | _ => False

/-- May it be asked for while a body is sent? -/
def Query.IsTransfer : Query → Prop
  | .exchange _ | .wait | .countSent _ | .noteError _ | .progress _ _ => True
  | _ => False

/-- May an upload ask this?  It looks at the default service but does not set it, and
it sends no messages. -/
def Query.IsUpload : Query → Prop
  | .cached | .info _ | .request _ _ | .log _ | .exchange _ | .wait | .countSent _ | .noteError _
  | .progress _ _ | .examine _ | .openFile _ => True
  | _ => False

theorem Query.IsNegotiation.isUpload {q : Query} (h : q.IsNegotiation) : q.IsUpload := by
  cases q <;> trivial

theorem Query.IsTransfer.isUpload {q : Query} (h : q.IsTransfer) : q.IsUpload := by
  cases q <;> trivial

theorem Discovery.resolve_asks (address : Option String) :
    (resolve address).run.Asks Query.IsNegotiation := by
  refine asks_bind (asks_query trivial) fun known => ?_
  split
  · split <;> trivial
  · split
    · trivial
    · refine asks_bind (asks_query trivial) fun info => ?_
      split
      · trivial
      · split <;> trivial

namespace Upload

open Discovery Http

theorem IsAccount.isTransfer {q : Query} (h : IsAccount q) : q.IsTransfer := by
  cases q <;> trivial

/-- Asking for a slot is part of the negotiation. -/
theorem ask_asks (service : UploadService) (request : SlotRequest) :
    (ask service request).run.Asks Query.IsNegotiation := by
  refine asks_bind (asks_query trivial) fun _ => asks_bind (asks_query trivial) fun reply => ?_
  cases reply <;> trivial

/-- Getting a slot is negotiation only. -/
theorem requestSlot_negotiates (fileName : String) (size : UInt64)
    (contentType address : Option String) :
    (requestSlot fileName size contentType address).run.Asks Query.IsNegotiation := by
  refine asks_bind (resolve_asks address) fun service => ?_
  have hask : ∀ r, (ofExcept r >>= ask service).run.Asks Query.IsNegotiation :=
    fun r => asks_bind trivial (ask_asks service)
  dsimp only
  split
  · exact asks_bind trivial fun _ => hask _
  · exact hask _

theorem requestSlot_asks (fileName : String) (size : UInt64)
    (contentType address : Option String) :
    (requestSlot fileName size contentType address).run.Asks Query.IsUpload :=
  (requestSlot_negotiates _ _ _ _).imp fun _ => Query.IsNegotiation.isUpload

variable (blockSize : Nat) (slot : Slot) (content : List UInt8) (size : UInt64) (wanted : Bool)

/-- Putting the file is transfer only. -/
theorem putStream_transfers :
    (putStream blockSize slot content size wanted).run.Asks Query.IsTransfer := by
  have haccount : ∀ {β : Type} {j : Job β}, j.Asks IsAccount → j.Asks Query.IsTransfer :=
    fun hj => hj.imp fun _ => IsAccount.isTransfer
  cases h : requestHeaders slot size with
  | error e =>
      rw [putStream_of_invalid blockSize slot content size wanted h]
      exact .pure _
  | ok headers =>
      rw [putStream_of_valid blockSize slot content size wanted h]
      exact .bind (haccount (report_asks _ _ _)) fun _ =>
        .bind (follow_asks (fun _ => trivial) _ _) fun exchange =>
        .bind (haccount (account_asks _ _ _ _)) fun _ => conclude_asks (fun _ => trivial) exchange

theorem putStream_asks :
    (putStream blockSize slot content size wanted).run.Asks Query.IsUpload :=
  (putStream_transfers _ _ _ _ _).imp fun _ => Query.IsTransfer.isUpload

/-- An upload asks for a slot and puts the file. -/
theorem uploadStream_asks (fileName : String) :
    (uploadStream blockSize content fileName size wanted).run.Asks Query.IsUpload :=
  asks_bind (requestSlot_asks _ _ _ _) fun slot =>
    asks_bind (putStream_asks blockSize slot content size wanted) fun _ => trivial

theorem uploadFile_asks (path : String) :
    (uploadFile blockSize path wanted).run.Asks Query.IsUpload := by
  refine asks_bind (asks_query trivial) fun examined => ?_
  split
  · trivial
  · trivial
  · refine asks_bind (asks_query trivial) fun opened => ?_
    split
    · trivial
    · exact uploadStream_asks _ _ _ _ _

/-! ## how an upload ends -/

/-- The attempt does not end as canceled, whatever is answered. -/
def NeverCanceled {α : Type} (x : Attempt α) : Prop :=
  ∀ ts, ¬ x.run.Takes ts (.error .canceled)

section NeverCanceled

variable {α β : Type}

/-- If neither part can be canceled the whole cannot. -/
theorem NeverCanceled.bind {x : Attempt α} {f : α → Attempt β} (hx : NeverCanceled x)
    (hf : ∀ a, NeverCanceled (f a)) : NeverCanceled (x >>= f) := by
  intro ts h
  rcases Attempt.takes_bind_iff.1 h with ⟨e, he, heq⟩ | ⟨first, last, a, rfl, -, hlast⟩
  · cases heq
    exact hx ts he
  · exact hf a last hlast

theorem neverCanceled_pure (a : α) : NeverCanceled (pure a : Attempt α) := by
  rintro ts ⟨⟩

theorem neverCanceled_throw {e : UploadError} (he : e ≠ .canceled) :
    NeverCanceled (throw e : Attempt α) := by
  rintro ts ⟨⟩
  exact he rfl

theorem neverCanceled_lift (j : Job α) : NeverCanceled (ExceptT.lift j : Attempt α) := by
  intro ts h
  obtain ⟨first, last, a, rfl, -, hlast⟩ := Job.takes_bind_iff.1 h
  cases hlast

end NeverCanceled

/-- Getting a slot is never canceled by itself. -/
theorem neverCanceled_requestSlot (fileName : String) (contentType address : Option String) :
    NeverCanceled (requestSlot fileName size contentType address) := by
  intro ts h
  obtain ⟨known, rest, -, hnegotiated⟩ := requestSlot_takes h
  generalize hresult : (Except.error .canceled : Except UploadError Slot) = result at hnegotiated
  generalize Turn.calls ts = calls at hnegotiated
  cases hnegotiated with
  | unresolved hresolved =>
      cases hresult
      cases hresolved
  | tooLarge | empty => cases hresult
  | requested _ _ _ hanswer => cases hanswer <;> cases hresult

/-- What an upload comes to at its end is no cancellation. -/
theorem neverCanceled_conclude (exchange : Exchange) : NeverCanceled (conclude exchange) := by
  have hfail : ∀ e text, e ≠ .canceled → NeverCanceled (failWith e text : Attempt Unit) :=
    fun e text he => (neverCanceled_lift _).bind fun _ => neverCanceled_throw he
  unfold conclude
  split
  · exact hfail _ _ nofun
  · next response hresponse =>
      split
      · exact neverCanceled_pure _
      · next e he =>
          refine hfail _ _ ?_
          rintro rfl
          unfold judgeUpload at he
          split at he <;> cases he

theorem neverCanceled_putStream :
    NeverCanceled (putStream blockSize slot content size wanted) := by
  intro ts h
  cases hheaders : requestHeaders slot size with
  | error e =>
      rw [putStream_of_invalid blockSize slot content size wanted hheaders] at h
      cases h
  | ok headers =>
      rw [putStream_of_valid blockSize slot content size wanted hheaders] at h
      obtain ⟨_, _, _, rfl, -, h⟩ := Job.takes_bind_iff.1 h
      obtain ⟨_, _, exchange, rfl, -, h⟩ := Job.takes_bind_iff.1 h
      obtain ⟨_, last, _, rfl, -, h⟩ := Job.takes_bind_iff.1 h
      exact neverCanceled_conclude exchange last h

theorem neverCanceled_uploadFile (path : String) :
    NeverCanceled (uploadFile blockSize path wanted) := by
  refine (neverCanceled_lift _).bind fun examined => ?_
  split
  · exact neverCanceled_throw nofun
  · exact neverCanceled_throw nofun
  · refine (neverCanceled_lift _).bind fun opened => ?_
    split
    · exact neverCanceled_throw nofun
    · exact (neverCanceled_requestSlot _ _ _ _).bind fun slot =>
        (neverCanceled_putStream _ _ _ _ _).bind fun _ => neverCanceled_pure _

/-- What goes before an upload ends well: it reports that no byte has been sent yet,
and a request was answered with the slot whose URL it gives. -/
structure Uploaded (ts : List Turn) (url : Url) : Prop where
  begun : ∃ total, ⟨.progress 0 total, ()⟩ ∈ ts
  granted : ∃ recipient payload reply slot,
    ⟨.request recipient payload, .ok (.result reply)⟩ ∈ ts ∧
      Slot.decode reply = .ok slot ∧ url = slot.getUrl

/-- What was done before does not matter. -/
theorem Uploaded.append {ts : List Turn} {url : Url} (h : Uploaded ts url) (us : List Turn) :
    Uploaded (us ++ ts) url where
  begun := h.begun.imp fun _ => List.mem_append_right us
  granted := by
    obtain ⟨recipient, payload, reply, slot, hmem, hslot⟩ := h.granted
    exact ⟨recipient, payload, reply, slot, List.mem_append_right us hmem, hslot⟩

/-- An upload that ends well reported first that no byte has been sent yet. -/
theorem putStream_takes_ok {ts : List Turn}
    (h : (putStream blockSize slot content size true).run.Takes ts (.ok ())) :
    ⟨.progress 0 size, ()⟩ ∈ ts := by
  cases hheaders : requestHeaders slot size with
  | error e =>
      rw [putStream_of_invalid blockSize slot content size true hheaders] at h
      cases h
  | ok headers =>
      rw [putStream_of_valid blockSize slot content size true hheaders] at h
      obtain ⟨_, _, rfl, -⟩ := Job.takes_query_bind_iff.1 h
      exact List.mem_cons_self

/-- An upload that gives a URL has put the file in the slot of that URL. -/
theorem uploadStream_takes_ok {fileName : String} {ts : List Turn} {url : Url}
    (h : (uploadStream blockSize content fileName size true).run.Takes ts (.ok url)) :
    Uploaded ts url := by
  rcases Attempt.takes_bind_iff.1 h with ⟨e, -, heq⟩ | ⟨first, last, slot, rfl, hslot, hlast⟩
  · cases heq
  rcases Attempt.takes_bind_iff.1 hlast with ⟨e, -, heq⟩ | ⟨mid, last, _, rfl, hput, hurl⟩
  · cases heq
  obtain ⟨rfl, heq⟩ := Job.takes_pure_iff.1 hurl
  obtain ⟨known, rest, -, hnegotiated⟩ := requestSlot_takes hslot
  obtain ⟨recipient, payload, reply, hgranted, hdecode⟩ := hnegotiated.exists_mem
  rw [List.append_nil]
  exact {
    begun := ⟨size, List.mem_append_right first (putStream_takes_ok _ _ _ _ hput)⟩
    granted := ⟨recipient, payload, reply, slot, List.mem_append_left mid hgranted, hdecode,
      Except.ok.inj heq⟩ }

theorem uploadFile_takes_ok {path : String} {ts : List Turn} {url : Url}
    (h : (uploadFile blockSize path true).run.Takes ts (.ok url)) : Uploaded ts url := by
  obtain ⟨examined, rest, rfl, hrest⟩ := Job.takes_query_bind_iff.1 h
  clear h
  rcases examined with e | node | node
  · cases hrest
  · obtain ⟨opened, last, rfl, hlast⟩ := Job.takes_query_bind_iff.1 hrest
    clear hrest
    cases opened with
    | error e => cases hlast
    | ok opened =>
        exact (uploadStream_takes_ok _ _ _ hlast).append [_, _]
  · cases hrest

end Upload

end SlotUpload
