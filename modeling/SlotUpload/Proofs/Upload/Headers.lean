import SlotUpload.Proofs.Http.Body
import SlotUpload.Proofs.Http.Header
import SlotUpload.Proofs.Payload.Slot
import SlotUpload.Proofs.Text.Numeral
import SlotUpload.Proofs.Upload.Stream

/-!
# SlotUpload.Proofs.Upload.Headers

The headers of an upload.  They are refused for the first header of the slot that cannot
be sent, and else they are the two of the body with those of the slot set over them
(`requestHeaders_eq_ok_iff`): names regardless of case, the last value of each
(`slotHeaders_applied`).

The slot may also replace the length of the body, or ask for the body in chunks.  The
length is the one that was given exactly if the slot does neither (`declaresSize_iff`),
which a reply need not keep to (`not_forall_declaresSize`).
-/

namespace SlotUpload

open Http

/-- The headers that a slot asks for, by their names in lower case. -/
def Slot.wanted (slot : Slot) : Headers :=
  slot.headers.map fun header => (header.1.toLower, header.2)

/-- The wanted headers are those of the slot, in small letters. -/
theorem Slot.mem_names_wanted {slot : Slot} {name : String} :
    name ∈ Headers.names slot.wanted ↔ ∃ header ∈ slot.headers, header.1.toLower = name := by
  simp [wanted, Headers.names]

namespace Upload

/-! ## headers that cannot be sent -/

/-- Why a header cannot be sent.  Its name is looked at first. -/
inductive Faulty (header : String × String) : HeaderError → Prop
  | name : ¬ IsToken header.1 → Faulty header (.invalidName header.1)
  | value : IsToken header.1 → (∃ c ∈ header.2.toList, IsControl c) →
    Faulty header (.invalidValue header.1)

/-- The first of some headers that cannot be sent has this fault. -/
def FirstFault (headers : List (String × String)) (e : HeaderError) : Prop :=
  ∃ before header after, headers = before ++ header :: after ∧
    (∀ earlier ∈ before, ∀ e, ¬ Faulty earlier e) ∧ Faulty header e

section Faults

variable {header : String × String} {headers : List (String × String)} {hs hs' : Headers}
  {e : HeaderError}

/-- Why a header cannot be sent, if it cannot. -/
def fault? (header : String × String) : Option HeaderError :=
  if isHeaderName header.1 then
    if isHeaderValue header.2 then none else some (.invalidValue header.1)
  else some (.invalidName header.1)

theorem fault?_eq_some_iff : fault? header = some e ↔ Faulty header e := by
  have hvalue : isHeaderValue header.2 = false ↔ ∃ c ∈ header.2.toList, IsControl c := by
    simpa using not_congr (isHeaderValue_iff (s := header.2))
  constructor
  · intro h
    unfold fault? at h
    split at h
    · next hname =>
        split at h
        · contradiction
        · next hbad =>
            cases h
            exact .value (isHeaderName_iff.1 hname) (hvalue.1 (Bool.eq_false_iff.2 hbad))
    · next hname =>
        cases h
        exact .name (mt isHeaderName_iff.2 hname)
  · rintro (hname | ⟨hname, hbad⟩)
    · rw [fault?, if_neg (mt isHeaderName_iff.1 hname)]
    · rw [fault?, if_pos (isHeaderName_iff.2 hname), hvalue.2 hbad]
      rfl

/-- A header without fault has a good name and a good value. -/
theorem fault?_eq_none_iff :
    fault? header = none ↔ isHeaderName header.1 ∧ isHeaderValue header.2 := by
  unfold fault?
  split
  · split <;> simp_all
  · simp_all

/-- A header can be sent, or there is a fault in its name or in its value. -/
theorem exists_faulty_iff : (∃ e, Faulty header e) ↔
    ¬ IsToken header.1 ∨ ∃ c ∈ header.2.toList, IsControl c := by
  constructor
  · rintro ⟨e, hname | ⟨-, hvalue⟩⟩
    · exact .inl hname
    · exact .inr hvalue
  · intro h
    by_cases hname : IsToken header.1
    · exact ⟨_, .value hname (h.resolve_left (not_not.2 hname))⟩
    · exact ⟨_, .name hname⟩

theorem firstFault_iff : FirstFault headers e ↔ headers.findSome? fault? = some e := by
  have hnone : ∀ header, fault? header = none ↔ ∀ e, ¬ Faulty header e := by
    intro header
    simp [← fault?_eq_some_iff, Option.eq_none_iff_forall_ne_some]
  simp only [List.findSome?_eq_some_iff, FirstFault, hnone, fault?_eq_some_iff]
  grind

/-- Some header cannot be sent exactly if there is a first one that cannot. -/
theorem exists_firstFault_iff :
    (∃ e, FirstFault headers e) ↔ ∃ header ∈ headers, ∃ e, Faulty header e := by
  simp only [firstFault_iff, ← fault?_eq_some_iff]
  simpa [Option.isSome_iff_exists] using List.findSome?_isSome_iff (l := headers) (f := fault?)

theorem addHeader_eq (hs : Headers) (header : String × String) : addHeader hs header =
    match fault? header with
    | some e => .error e
    | none => .ok (hs.set header.1.toLower header.2) := by
  unfold addHeader fault?
  cases isHeaderName header.1 <;> cases isHeaderValue header.2 <;> rfl

/-- Headers are added up to the first that cannot be sent. -/
theorem foldlM_addHeader_eq (headers : List (String × String)) (hs : Headers) :
    headers.foldlM addHeader hs =
      match headers.findSome? fault? with
      | some e => .error e
      | none =>
        .ok (Headers.setAll (headers.map fun header => (header.1.toLower, header.2)) hs) := by
  induction headers generalizing hs with
  | nil => rfl
  | cons header headers ih =>
      rw [List.foldlM_cons, addHeader_eq, List.findSome?_cons]
      cases fault? header with
      | some e => rfl
      | none => exact ih _

end Faults

/-! ## the headers of an upload -/

section Made

variable {slot : Slot} {size : UInt64} {headers : Headers} {e : HeaderError}

/-- The headers that an upload has of its own. -/
def bodyDescription (size : UInt64) : Headers :=
  [("content-type", octetStream), ("content-length", String.ofList (Text.digits size.toNat))]

theorem nodup_names_bodyDescription (size : UInt64) :
    (Headers.names (bodyDescription size)).Nodup := by
  simp [Headers.names, bodyDescription]

/-- The request fails with the first fault. -/
theorem requestHeaders_eq_error_iff :
    requestHeaders slot size = .error e ↔ FirstFault slot.headers e := by
  rw [firstFault_iff, requestHeaders, foldlM_addHeader_eq]
  cases slot.headers.findSome? fault? <;> simp

/-- Without a fault all headers of the slot are set over those of the body. -/
theorem requestHeaders_eq_ok_iff : requestHeaders slot size = .ok headers ↔
    (∀ header ∈ slot.headers, isHeaderName header.1 ∧ isHeaderValue header.2) ∧
      headers = Headers.setAll slot.wanted (bodyDescription size) := by
  have hnone : slot.headers.findSome? fault? = none ↔
      ∀ header ∈ slot.headers, isHeaderName header.1 ∧ isHeaderValue header.2 := by
    simp only [List.findSome?_eq_none_iff, fault?_eq_none_iff]
  rw [← hnone, requestHeaders, foldlM_addHeader_eq]
  cases slot.headers.findSome? fault? with
  | some e => simp
  | none => simp [eq_comm, Slot.wanted, bodyDescription]

/-- No header is sent twice. -/
theorem nodup_names_requestHeaders (h : requestHeaders slot size = .ok headers) :
    (Headers.names headers).Nodup := by
  rw [(requestHeaders_eq_ok_iff.1 h).2]
  exact Headers.nodup_names_setAll (nodup_names_bodyDescription size)

/-- A name that the slot does not ask for has the value that an upload gives it. -/
theorem get?_requestHeaders_of_not_mem {name : String} (h : requestHeaders slot size = .ok headers)
    (hname : name ∉ Headers.names slot.wanted) :
    headers.get? name = (bodyDescription size).get? name := by
  rw [(requestHeaders_eq_ok_iff.1 h).2, Headers.get?_setAll_of_not_mem hname]

/-- What is sent for a slot.  Every name has one value. -/
structure Composed (slot : Slot) (size : UInt64) (headers : Headers) : Prop where
  nodup : (Headers.names headers).Nodup
  /-- The names are those of an upload and those that the slot asks for. -/
  mem_names : ∀ name, name ∈ Headers.names headers ↔ name = "content-type" ∨
    name = "content-length" ∨ ∃ header ∈ slot.headers, header.1.toLower = name
  /-- A name that the slot asks for has the last value that the slot gives to it. -/
  given : ∀ name value, Headers.Last name value slot.wanted → (name, value) ∈ headers
  /-- A name that it does not ask for has the value of an upload. -/
  own : ∀ header ∈ bodyDescription size,
    (∀ other ∈ slot.headers, other.1.toLower ≠ header.1) → header ∈ headers

/-- The headers are composed as they should be. -/
theorem composed_of_ok (h : requestHeaders slot size = .ok headers) :
    Composed slot size headers := by
  have hnodup := nodup_names_requestHeaders h
  have heq := (requestHeaders_eq_ok_iff.1 h).2
  constructor
  · exact hnodup
  · intro name
    have hown : name ∈ Headers.names (bodyDescription size) ↔
        name = "content-type" ∨ name = "content-length" := by
      simp [Headers.names, bodyDescription]
    rw [heq, Headers.mem_names_setAll, hown, Slot.mem_names_wanted, or_comm, or_assoc]
  · intro name value hlast
    rw [heq]
    exact Headers.mem_setAll_of_last (nodup_names_bodyDescription size) hlast
  · intro header hmem hnone
    have hwanted : header.1 ∉ Headers.names slot.wanted := by
      rw [Slot.mem_names_wanted]
      simpa using hnone
    have hget := get?_requestHeaders_of_not_mem h hwanted
    rw [(Headers.mem_iff_get? (nodup_names_bodyDescription size)).1 hmem] at hget
    exact (Headers.mem_iff_get? hnodup).2 hget

/-! ## what is on the wire -/

theorem onOneLine_digits (n : Nat) : OnOneLine (String.ofList (Text.digits n)) := by
  have hdigit : ∀ c ∈ (String.ofList (Text.digits n)).toList, c.isDigit := by
    intro c hc
    rw [String.toList_ofList] at hc
    exact Text.isDigit_of_mem_digits hc
  constructor
  · exact fun hmem => absurd (hdigit _ hmem) (by decide)
  · exact fun hmem => absurd (hdigit _ hmem) (by decide)

theorem onOneLine_requestHeaders (h : requestHeaders slot size = .ok headers) :
    ∀ header ∈ headers, OnOneLine header.2 := by
  obtain ⟨hsendable, heq⟩ := requestHeaders_eq_ok_iff.1 h
  intro header hmem
  rw [heq] at hmem
  rcases Headers.mem_of_mem_setAll hmem with hwanted | hown
  · obtain ⟨asked, hasked, rfl⟩ := List.mem_map.1 hwanted
    exact onOneLine_of_isHeaderValue (hsendable asked hasked).2
  · simp only [bodyDescription, List.mem_cons, List.not_mem_nil, or_false] at hown
    rcases hown with rfl | rfl
    · exact ⟨by decide, by decide⟩
    · exact onOneLine_digits size.toNat

/-- An upload sends no header that reaches into the next line, wherever it is redirected. -/
theorem onOneLine_talks {σ : Type} (answer : Answerer σ) (s : σ) (blockSize : Nat) (slot : Slot)
    (content : List UInt8) (size : UInt64) (wanted : Bool) :
    ∀ talk ∈ (putStream blockSize slot content size wanted).run.talks answer s,
      ∀ header ∈ talk.1.headers, OnOneLine header.2 := by
  cases hheaders : requestHeaders slot size with
  | error e =>
      rw [putStream_of_invalid blockSize slot content size wanted hheaders]
      simp
  | ok headers =>
      obtain ⟨final, -, hfollowed⟩ :=
        followed_of_valid answer s blockSize slot content size wanted hheaders
      intro talk htalk header hmem
      exact onOneLine_requestHeaders hheaders header
        (hfollowed.forall_headers_subset talk htalk hmem)

end Made

/-- **Slot headers**: the headers of an upload are refused exactly if the slot has one whose
name is no token or whose value has a control character, and the first of these is named.
Else the slot's are set over those of an upload, and the request goes out with them.  No
header that is sent reaches into the next line. -/
theorem slotHeaders_applied (slot : Slot) (size : UInt64) :
    ((∃ e, requestHeaders slot size = .error e) ↔
      ∃ header ∈ slot.headers, ¬ IsToken header.1 ∨ ∃ c ∈ header.2.toList, IsControl c) ∧
    (∀ e, requestHeaders slot size = .error e → FirstFault slot.headers e ∧
      ∀ blockSize content wanted, (putStream blockSize slot content size wanted).run =
        pure (.error (.malformedReply e.message))) ∧
    (∀ headers, requestHeaders slot size = .ok headers → Composed slot size headers ∧
      ∀ (σ : Type) (answer : Answerer σ) (s : σ) blockSize content wanted, ∃ first later,
        (putStream blockSize slot content size wanted).run.talks answer s =
          (putRequest blockSize slot content headers, first) :: later) ∧
    ∀ (σ : Type) (answer : Answerer σ) (s : σ) blockSize content wanted,
      ∀ talk ∈ (putStream blockSize slot content size wanted).run.talks answer s,
        ∀ header ∈ talk.1.headers, OnOneLine header.2 := by
  refine ⟨?_, fun e he => ⟨?_, ?_⟩, fun headers hok => ⟨composed_of_ok hok, ?_⟩, ?_⟩
  · simp only [requestHeaders_eq_error_iff, exists_firstFault_iff, exists_faulty_iff]
  · exact requestHeaders_eq_error_iff.1 he
  · exact fun blockSize content wanted =>
      putStream_of_invalid blockSize slot content size wanted he
  · intro σ answer s blockSize content wanted
    obtain ⟨final, -, hfollowed⟩ :=
      followed_of_valid answer s blockSize slot content size wanted hok
    obtain ⟨first, later, htalks, -⟩ := hfollowed.exists_cons
    exact ⟨first, later, htalks⟩
  · exact fun σ answer s blockSize content wanted =>
      onOneLine_talks answer s blockSize slot content size wanted

/-- A slot that asks for one header. -/
def slotWith (name value : String) : Slot :=
  { putUrl := .loopback, getUrl := .loopback, headers := [(name, value)] }

/-- A slot that asks for one header has the headers of an upload with that one set. -/
theorem requestHeaders_slotWith {name value : String} (hname : isHeaderName name)
    (hvalue : isHeaderValue value) (size : UInt64) :
    requestHeaders (slotWith name value) size =
      .ok ((bodyDescription size).set name.toLower value) :=
  requestHeaders_eq_ok_iff.2 ⟨List.forall_mem_singleton.2 ⟨hname, hvalue⟩, rfl⟩

/-- A value beyond ASCII is not refused. -/
theorem not_forall_error_iff_printable :
    ¬ ∀ (slot : Slot) (size : UInt64), (∃ e, requestHeaders slot size = .error e) ↔
      ∃ header ∈ slot.headers, ¬ IsToken header.1 ∨
        ∃ c ∈ header.2.toList, ¬ (c = '\t' ∨ (0x20 ≤ c.toNat ∧ c.toNat ≤ 0x7E)) := by
  intro hall
  have hbeyond : ∃ c ∈ "é".toList, ¬ (c = '\t' ∨ (0x20 ≤ c.toNat ∧ c.toNat ≤ 0x7E)) :=
    ⟨'é', by simp, by decide⟩
  obtain ⟨e, he⟩ := (hall (slotWith "X" "é") 3).2
    ⟨("X", "é"), List.mem_singleton_self _, .inr hbeyond⟩
  have hok : requestHeaders (slotWith "X" "é") 3 =
      .ok ((bodyDescription 3).set "X".toLower "é") :=
    requestHeaders_slotWith (by decide) (by decide) 3
  cases hok.symm.trans he

/-! ## the length that is declared -/

/-- Do some headers declare a body of just this length, and no body in chunks? -/
structure DeclaresSize (size : UInt64) (headers : Headers) : Prop where
  length : headers.filter (·.1 = "content-length") =
    [("content-length", String.ofList (Text.digits size.toNat))]
  whole : "transfer-encoding" ∉ Headers.names headers

/-- Does a slot leave the length of the body as it is?  A length that it gives to the body
is the given one, and it does not ask for chunks. -/
def KeepsLength (slot : Slot) (size : UInt64) : Prop :=
  (∀ value, Headers.Last "content-length" value slot.wanted →
    value = String.ofList (Text.digits size.toNat)) ∧
  ∀ header ∈ slot.headers, header.1.toLower ≠ "transfer-encoding"

section Declared

variable {blockSize : Nat} {slot : Slot} {content : List UInt8} {size : UInt64}
  {headers : Headers}

theorem declaresSize_iff_get? (h : requestHeaders slot size = .ok headers) :
    DeclaresSize size headers ↔
      headers.get? "content-length" = some (String.ofList (Text.digits size.toNat)) ∧
        headers.get? "transfer-encoding" = none := by
  rw [← Headers.filter_eq_singleton_iff (nodup_names_requestHeaders h), Headers.get?_eq_none_iff]
  constructor
  · exact fun hdeclares => ⟨hdeclares.length, hdeclares.whole⟩
  · exact fun ⟨hlength, hwhole⟩ => ⟨hlength, hwhole⟩

/-- What it takes for the slot's headers to leave it declared. -/
theorem keepsLength_iff_get? (h : requestHeaders slot size = .ok headers) :
    KeepsLength slot size ↔
      headers.get? "content-length" = some (String.ofList (Text.digits size.toNat)) ∧
        headers.get? "transfer-encoding" = none := by
  have hlength : (bodyDescription size).get? "content-length" =
      some (String.ofList (Text.digits size.toNat)) := rfl
  have hchunks : (bodyDescription size).get? "transfer-encoding" = none := rfl
  have hwanted : (∀ header ∈ slot.headers, header.1.toLower ≠ "transfer-encoding") ↔
      Headers.get? "transfer-encoding" slot.wanted.reverse = none := by
    rw [Headers.get?_eq_none_iff]
    simp [Slot.wanted, Headers.names]
  rw [KeepsLength, hwanted, (requestHeaders_eq_ok_iff.1 h).2, Headers.get?_setAll,
    Headers.get?_setAll, hlength, hchunks, Option.or_none]
  simp only [Headers.last_iff]
  cases Headers.get? "content-length" slot.wanted.reverse <;> simp

/-- Of such a slot, the length that the request declares is the size. -/
theorem declared?_of_keepsLength (h : requestHeaders slot size = .ok headers)
    (hkeeps : KeepsLength slot size) :
    (putRequest blockSize slot content headers).declared? = some size.toNat := by
  obtain ⟨hlength, hwhole⟩ := (keepsLength_iff_get? h).1 hkeeps
  have hchunked : (putRequest blockSize slot content headers).isChunked = false := by
    rw [Request.isChunked, putRequest, hwhole]
    rfl
  rw [Request.declared?, hchunked, putRequest]
  simp [hlength, Text.natural?_digits, Option.filter, size.toNat_lt_size]

/-- **Declared length**: the length of the body is declared as it was given, and no other way,
exactly if the slot keeps to it; then this is the length that the request has. -/
theorem declaresSize_iff (h : requestHeaders slot size = .ok headers) :
    (DeclaresSize size headers ↔ KeepsLength slot size) ∧
      (KeepsLength slot size → ∀ blockSize content,
        (putRequest blockSize slot content headers).declared? = some size.toNat) := by
  constructor
  · rw [declaresSize_iff_get? h, keepsLength_iff_get? h]
  · exact fun hkeeps blockSize content => declared?_of_keepsLength h hkeeps

end Declared

theorem isHeaderName_contentLength : isHeaderName "Content-Length" := by
  simp [isHeaderName, isTokenChar]

/-- A slot may give the length that the body has. -/
theorem declaresSize_three :
    let headers := (bodyDescription 3).set "Content-Length".toLower "3"
    requestHeaders (slotWith "Content-Length" "3") 3 = .ok headers ∧ DeclaresSize 3 headers := by
  intro headers
  have hok : requestHeaders (slotWith "Content-Length" "3") 3 = .ok headers :=
    requestHeaders_slotWith isHeaderName_contentLength (by decide) 3
  have hkeeps : KeepsLength (slotWith "Content-Length" "3") 3 := by
    rw [keepsLength_iff_get? hok, Headers.get?_set, Headers.get?_set]
    decide +kernel
  exact ⟨hok, (declaresSize_iff hok).1.2 hkeeps⟩

/-- A reply may have a slot that gives the body another length. -/
theorem not_forall_declaresSize :
    ¬ ∀ (document : String) (slot : Slot) (size : UInt64) (headers : Headers),
      Slot.decode document = .ok slot → requestHeaders slot size = .ok headers →
        DeclaresSize size headers := by
  intro hall
  let slot := slotWith "Content-Length" "5"
  have hdecode : Slot.decode (slot.encode .current) = .ok slot :=
    Slot.decode_encode Url.parse_loopback Url.parse_loopback (by decide)
  have hok : requestHeaders slot 3 =
      .ok ((bodyDescription 3).set "Content-Length".toLower "5") :=
    requestHeaders_slotWith isHeaderName_contentLength (by decide) 3
  have hdeclares := hall _ slot 3 _ hdecode hok
  rw [declaresSize_iff_get? hok, Headers.get?_set, Headers.get?_set] at hdeclares
  revert hdeclares
  decide +kernel

end Upload

end SlotUpload
