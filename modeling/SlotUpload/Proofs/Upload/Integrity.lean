import SlotUpload.Proofs.Upload.Acceptance
import SlotUpload.Proofs.Upload.Headers

/-!
# SlotUpload.Proofs.Upload.Integrity

What a server has of the content when an upload ends well.  The content, the size that
was given, the length that the request declares and the counts that are reported are
four things: slot headers come after the length of the body, and the content is read
no further than that length.

The server has the beginning of the content of the length that was declared
(`putStream_intact`), which is all of it where the slot declares no length of its own
and the content is no longer than was given.  A longer content is cut off without a
word (`not_forall_faithful`).
-/

namespace SlotUpload.Upload

open Http

/-! ## the length that a request declares -/

/-- Does the slot leave the length of the body alone? -/
def IsPlain (slot : Slot) : Prop :=
  ∀ header ∈ slot.headers, header.1.toLower ≠ "content-length" ∧
    header.1.toLower ≠ "transfer-encoding"

/-- A plain slot leaves the length alone. -/
theorem IsPlain.keepsLength {slot : Slot} (hslot : IsPlain slot) (size : UInt64) :
    KeepsLength slot size := by
  constructor
  · rintro value ⟨before, after, hwanted, -⟩
    have hmem : "content-length" ∈ Headers.names slot.wanted := by
      rw [hwanted]
      simp [Headers.names]
    obtain ⟨header, hheader, hname⟩ := Slot.mem_names_wanted.1 hmem
    exact absurd hname (hslot header hheader).1
  · exact fun header hmem => (hslot header hmem).2

/-- Where the slot leaves it alone, the length that is declared is the size. -/
theorem declared?_putRequest {blockSize : Nat} {slot : Slot} {content : List UInt8}
    {size : UInt64} {headers : Headers} (hslot : IsPlain slot)
    (h : requestHeaders slot size = .ok headers) :
    (putRequest blockSize slot content headers).declared? = some size.toNat :=
  declared?_of_keepsLength h (hslot.keepsLength size)

/-! ## what the server has -/

section Received

variable (blockSize : Nat) (slot : Slot) (content : List UInt8) (size : UInt64) (put : Request)
  (exchange : Exchange) (ts : List Turn)

/-- All is as it should be: the content has the size that was given, the server has
all of it, and no more than that was ever reported. -/
structure Faithful : Prop where
  length : content.length = size.toNat
  received : put.sent exchange.taken = content
  reported : ∀ count ∈ Turn.reported ts, count.1 ≤ size

/-- What is left of the content of an upload that ended well. -/
structure Intact : Prop where
  beginning : put.sent exchange.taken <+: content
  /-- The server has as much of the content as was declared. -/
  declared : ∀ n, put.declared? = some n →
    n ≤ content.length ∧ put.sent exchange.taken = content.take n
  chunked : put.isChunked → put.sent exchange.taken = content
  /-- No more is reported than there is, and by less than a block more than was declared. -/
  reported : ∀ count ∈ Turn.reported ts, count.2 = size ∧ count.1.toNat ≤ content.length ∧
    ∀ n, put.declared? = some n → count.1.toNat < n + blockSize
  faithful_iff : ∀ n, put.declared? = some n →
    (Faithful content size put exchange ts ↔ n = size.toNat ∧ content.length ≤ n)
  plain : IsPlain slot → put.declared? = some size.toNat

end Received

section Intact

variable {blockSize : Nat} {slot : Slot} {content : List UInt8} {size : UInt64}
  {headers : Headers} {exchange : Exchange} {reply : Response} {ts : List Turn}

/-- A reply to a put whose client minds the length. -/
theorem intact_of_reply (hheaders : requestHeaders slot size = .ok headers)
    (hsize : 0 < blockSize)
    (hclient : MindsLength (putRequest blockSize slot content headers) exchange)
    (hreply : exchange.result = .ok reply)
    (hreported : ∀ count ∈ Turn.reported ts, ∃ k ≤ exchange.taken, count =
      (UInt64.ofNat ((blocksOf blockSize content).take k).flatten.length, size)) :
    Intact blockSize slot content size (putRequest blockSize slot content headers) exchange ts := by
  set put := putRequest blockSize slot content headers
  have hbody : put.body = content := flatten_blocksOf blockSize content
  have hdeclared : ∀ n, put.declared? = some n →
      n ≤ content.length ∧ put.sent exchange.taken = content.take n :=
    fun n hn => hbody ▸ hclient.sent_eq_take hn hreply
  have hcounts : ∀ count ∈ Turn.reported ts, count.2 = size ∧ count.1.toNat ≤ content.length ∧
      ∀ n, put.declared? = some n → count.1.toNat < n + blockSize := by
    intro count hcount
    obtain ⟨k, hk, rfl⟩ := hreported count hcount
    have hle : (UInt64.ofNat ((blocksOf blockSize content).take k).flatten.length).toNat ≤
        (put.blocks.take k).flatten.length := Nat.mod_le _ _
    refine ⟨rfl, hle.trans ?_, fun n hn => hle.trans_lt ?_⟩
    · exact hbody ▸ (put.flatten_take_prefix k).length_le
    · exact hclient.length_flatten_take_lt hn hsize (length_le_of_mem_blocksOf _ _ hsize) hk
  constructor
  · exact hbody ▸ put.sent_prefix exchange.taken
  · exact hdeclared
  · exact fun hchunked => hbody ▸ hclient.sent_eq_body hchunked hreply
  · exact hcounts
  · intro n hn
    obtain ⟨hle, hsent⟩ := hdeclared n hn
    constructor
    · intro hfaithful
      have htake : content.take n = content := hsent ▸ hfaithful.received
      have hlength : content.length ≤ n := (List.take_eq_self_iff _).1 htake
      have := hfaithful.length
      omega
    · rintro ⟨rfl, hlength⟩
      refine ⟨by omega, ?_, fun count hcount => ?_⟩
      · rw [hsent, List.take_of_length_le hlength]
      · exact UInt64.le_iff_toNat_le.2 ((hcounts count hcount).2.1.trans hlength)
  · exact fun hslot => declared?_putRequest hslot hheaders

end Intact

/-- **Integrity**: if an upload ends well, of a client that minds the length of bodies,
then its one PUT went to the slot, and the server has the beginning of the content, of
the length that was declared.  That is all of the content, with the size that was given
and no more bytes reported than that, exactly if the length that is declared is the
size, as it is with a plain slot, and the content is no longer. -/
theorem putStream_intact {σ : Type} (answer : Answerer σ) (s : σ) (blockSize : Nat) (slot : Slot)
    (content : List UInt8) (size : UInt64) (wanted : Bool) (hsize : 0 < blockSize)
    (hclient : ∀ talk ∈ (putStream blockSize slot content size wanted).run.talks answer s,
      MindsLength talk.1 talk.2)
    (hok : ((putStream blockSize slot content size wanted).run.run answer s).1 = .ok ()) :
    let job := (putStream blockSize slot content size wanted).run
    ∃ put exchange later, job.talks answer s = (put, exchange) :: later ∧
      put.method = .put ∧ put.url = slot.putUrl ∧ (∀ talk ∈ later, talk.1.method ≠ .put) ∧
      Intact blockSize slot content size put exchange (job.turns answer s) := by
  intro job
  cases hheaders : requestHeaders slot size with
  | error e =>
      rw [putStream_of_invalid blockSize slot content size wanted hheaders] at hok
      cases hok
  | ok headers =>
      obtain ⟨final, hresult, hfollowed, hreported⟩ :=
        course_of_valid answer s blockSize slot content size wanted hheaders
      obtain ⟨last, hlast, -⟩ := outcome_eq_ok_iff.1 (hresult.symm.trans hok)
      obtain ⟨first, later, htalks, hlater⟩ := hfollowed.exists_cons
      obtain ⟨reply, hreply⟩ := hfollowed.exists_first htalks hlast
      have hminds := hclient _ (htalks ▸ List.mem_cons_self)
      rw [hfollowed.taken_eq htalks] at hreported
      exact ⟨_, first, later, htalks, rfl, rfl, hlater,
        intact_of_reply hheaders hsize hminds hreply hreported⟩

/-! ## a content that is cut off -/

/-- A slot at the host itself, without headers. -/
def loopbackSlot : Slot := { putUrl := .loopback, getUrl := .loopback }

theorem isPlain_loopbackSlot : IsPlain loopbackSlot := by
  intro header hmem
  cases hmem

/-- The headers of an upload of three bytes to it. -/
def loopbackHeaders : Headers := [("content-type", octetStream), ("content-length", "3")]

/-- A server that takes two blocks of what is put to it, and says that it is stored. -/
def brisk : Exchange := { taken := 2, result := .ok { status := ⟨201⟩ } }

/-- Surroundings of an upload that asks no session. -/
def unscripted : Rehearsal := { script := { server := "montague.lit" }, now := ⟨0⟩ }

/-- An upload to this server is one exchange, and ends well. -/
theorem course_brisk (content : List UInt8) (r : Rehearsal) :
    let job := (putStream 2 loopbackSlot content 3 true).run
    job.talks (served fun _ => brisk) r =
        [(putRequest 2 loopbackSlot content loopbackHeaders, brisk)] ∧
      (job.run (served fun _ => brisk) r).1 = .ok () := by
  intro job
  obtain ⟨final, hresult, hfollowed⟩ :=
    followed_of_valid (served fun _ => brisk) r 2 loopbackSlot content 3 true
      (show requestHeaders loopbackSlot 3 = .ok loopbackHeaders from rfl)
  obtain ⟨first, later, htalks, -⟩ := hfollowed.exists_cons
  have hfirst : first = brisk := eq_of_mem_talks (htalks ▸ List.mem_cons_self)
  subst hfirst
  have hlater : later = [] := hfollowed.eq_singleton htalks rfl rfl
  subst hlater
  have hsettled : SettledAt (job.talks (served fun _ => brisk) r) { status := ⟨201⟩ } := by
    rw [htalks]
    exact ⟨_, rfl, rfl, rfl⟩
  exact ⟨htalks, hresult.trans
    (outcome_eq_ok_iff.2 ⟨_, hfollowed.result_eq_ok_iff.2 hsettled, by decide⟩)⟩

/-- This server minds a length of three bytes where it takes two blocks for that. -/
theorem mindsLength_brisk (content : List UInt8)
    (hfirst : ((blocksOf 2 content).take 1).flatten.length = 2)
    (hboth : 3 ≤ ((blocksOf 2 content).take 2).flatten.length) (r : Rehearsal) :
    ∀ talk ∈ (putStream 2 loopbackSlot content 3 true).run.talks (served fun _ => brisk) r,
      MindsLength talk.1 talk.2 := by
  rw [(course_brisk content r).1, List.forall_mem_singleton]
  have hdeclared : (putRequest 2 loopbackSlot content loopbackHeaders).declared? = some 3 :=
    @declared?_putRequest 2 loopbackSlot content 3 loopbackHeaders isPlain_loopbackSlot rfl
  constructor
  · intro n hn k hk
    cases hdeclared.symm.trans hn
    match k, hk with
    | 0, _ => exact Nat.succ_pos 2
    | 1, _ => exact hfirst.trans_lt (Nat.lt_succ_self 2)
  · intro n hn reply hreply
    cases hdeclared.symm.trans hn
    exact hboth
  · intro hchunked
    cases hdeclared.symm.trans (if_pos hchunked)

/-- A content of the size that was given, and a server that has all of it. -/
theorem faithful_brisk :
    let job := (putStream 2 loopbackSlot [1, 2, 3] 3 true).run
    let r := unscripted
    (∀ talk ∈ job.talks (served fun _ => brisk) r, MindsLength talk.1 talk.2) ∧
      (job.run (served fun _ => brisk) r).1 = .ok () ∧
      ∃ put exchange later, job.talks (served fun _ => brisk) r = (put, exchange) :: later ∧
        Faithful [1, 2, 3] 3 put exchange (job.turns (served fun _ => brisk) r) := by
  intro job r
  have hminds := mindsLength_brisk [1, 2, 3] (by simp [blocksOf]) (by simp [blocksOf]) r
  have hok := (course_brisk [1, 2, 3] r).2
  obtain ⟨put, exchange, later, htalks, -, -, -, hintact⟩ :=
    putStream_intact (served fun _ => brisk) r 2 loopbackSlot [1, 2, 3] 3 true Nat.two_pos hminds
      hok
  exact ⟨hminds, hok, put, exchange, later, htalks,
    (hintact.faithful_iff 3 (hintact.plain isPlain_loopbackSlot)).2 ⟨rfl, Nat.le_refl 3⟩⟩

/-- An upload may end well although the server has only the beginning of the content. -/
theorem not_forall_faithful :
    ¬ ∀ (σ : Type) (answer : Answerer σ) (s : σ) (blockSize : Nat) (slot : Slot)
      (content : List UInt8) (size : UInt64) (wanted : Bool),
      let job := (putStream blockSize slot content size wanted).run
      0 < blockSize → (∀ talk ∈ job.talks answer s, MindsLength talk.1 talk.2) →
        (job.run answer s).1 = .ok () →
        ∀ put exchange, (put, exchange) ∈ job.talks answer s → put.method = .put →
          Faithful content size put exchange (job.turns answer s) := by
  intro hall
  obtain ⟨htalks, hok⟩ := course_brisk [1, 2, 3, 4, 5] unscripted
  have hminds := mindsLength_brisk [1, 2, 3, 4, 5] (by simp [blocksOf]) (by simp [blocksOf])
    unscripted
  have hfaithful := hall Rehearsal (served fun _ => brisk) unscripted 2 loopbackSlot
    [1, 2, 3, 4, 5] 3 true Nat.two_pos hminds hok _ _ (htalks ▸ List.mem_singleton_self _) rfl
  exact absurd hfaithful.length (by decide)

end SlotUpload.Upload
