import SlotUpload.Command.Run
import SlotUpload.Proofs.Payload.Namespace

/-!
# SlotUpload.Proofs.Payload.Headers

The headers of a slot.  However they are put in, each name stands once, where it came up
first and with the value that it had last (`Collected`).  A slot that is read from a reply
has the headers of the `put` element put in, one after another, and so the same headers as
a slot that is made of them; a header without a name makes the reply malformed wherever it
stands (`headers_collected`).
-/

namespace SlotUpload.Slot

open Xml Xml.Element Payload

/-! ## headers that are put in -/

/-- What headers come to that were put in one after another. -/
structure Collected (inserted headers : List (String × String)) : Prop where
  /-- The names are distinct. -/
  nodup : (names headers).Nodup
  /-- They stand in the order in which they came up first. -/
  order : (names headers).Pairwise fun a b => (names inserted).idxOf a < (names inserted).idxOf b
  /-- Each has the value that it had last. -/
  mem_iff : ∀ name value, (name, value) ∈ headers ↔ Http.Headers.Last name value inserted

/-- A slot made of headers has them set in their order. -/
theorem headers_ofHeaders (putUrl getUrl : Url) (inserted : List (String × String)) :
    (ofHeaders putUrl getUrl inserted).headers = Http.Headers.setAll inserted [] := by
  have hfold : ∀ s : Slot,
      (inserted.foldl (fun s header => s.withHeader header.1 header.2) s).headers =
        Http.Headers.setAll inserted s.headers := by
    induction inserted with
    | nil => exact fun _ => rfl
    | cons header inserted ih =>
        intro s
        rw [List.foldl_cons, ih]
        exact congrArg (Http.Headers.setAll inserted) (insertHeader_eq_set ..)
  exact hfold _

/-- Headers that are set in their order are collected. -/
theorem collected_ofHeaders (putUrl getUrl : Url) (inserted : List (String × String)) :
    Collected inserted (ofHeaders putUrl getUrl inserted).headers := by
  have hnodup : (names (Http.Headers.setAll inserted [])).Nodup :=
    Http.Headers.nodup_names_setAll List.nodup_nil
  rw [headers_ofHeaders]
  refine ⟨hnodup, Http.Headers.pairwise_names_setAll inserted, fun name value => ?_⟩
  have hlast := Http.Headers.get?_setAll name inserted []
  rw [Http.Headers.mem_iff_get? hnodup, hlast, Http.Headers.last_iff]
  exact Iff.of_eq (congrArg (· = some value) (Option.or_none ..))

/-! ## headers that are read -/

variable {document : String} {root put : Element} {inserted : List (String × String)}

/-- The `header` elements in a `put` element have these names and texts, in order. -/
def Carries (put : Element) (inserted : List (String × String)) : Prop :=
  headerViews .current put = inserted.map fun (name, value) => (some name, value)

instance : Decidable (Carries put inserted) := inferInstanceAs (Decidable (_ = _))

/-- Only a header with a name can be read. -/
theorem readView_eq_ok_iff {view : Option String × String} {header : String × String} :
    readView view = .ok header ↔ view = (some header.1, header.2) := by
  obtain ⟨_ | name, text⟩ := view
  · simp [readView, required, Except.map]
  · simp [readView, required, Except.map, Prod.ext_iff]

theorem mapM_readView_eq_ok_iff {views : List (Option String × String)} :
    views.mapM readView = .ok inserted ↔
      views = inserted.map fun (name, value) => (some name, value) := by
  induction views generalizing inserted with
  | nil => cases inserted <;> simp [pure, Except.pure]
  | cons view views ih =>
      rw [List.mapM_cons, bind_eq_ok_iff]
      simp only [bind_eq_ok_iff, readView_eq_ok_iff, ih]
      cases inserted with
      | nil => simp [pure, Except.pure]
      | cons header inserted => simp [pure, Except.pure]

/-- Headers are read exactly if all of them have names. -/
theorem readHeaders_eq_ok_iff : readHeaders .current put = .ok inserted ↔ Carries put inserted := by
  rw [readHeaders_eq, mapM_readView_eq_ok_iff, Carries]

/-- A required part is there or the reading ends. -/
theorem required_eq_ok_iff {α : Type} {words : String} {part : Option α} {a : α} :
    required words part = .ok a ↔ part = some a := by
  cases part <;> simp [required]

/-- A slot of the current schema is read exactly if its URLs and its headers are, and then
the headers are put in one after another. -/
theorem decode_eq_ok_iff (hroot : parse document = .ok root)
    (hversion : versionOf root = .ok .current) (hput : root.child? "put" = some put) (s : Slot) :
    decode document = .ok s ↔ ∃ get inserted, root.child? "get" = some get ∧
      readUrl "put" (put.attribute? "url") = .ok s.putUrl ∧
      readUrl "get" (get.attribute? "url") = .ok s.getUrl ∧ Carries put inserted ∧
      s = ofHeaders s.putUrl s.getUrl inserted := by
  have hread : decode document = readAs root .current := by
    rw [decode_eq_bind, root_eq_ok_iff.2 hroot]
    exact read_eq_readAs hversion
  simp only [hread, readAs, bind_eq_ok_iff, required_eq_ok_iff, readHeaders_eq_ok_iff, hput,
    Option.some.injEq, exists_eq_left', rawUrl?]
  constructor
  · rintro ⟨get, hget, putUrl, hputUrl, getUrl, hgetUrl, inserted, hcarries, hs⟩
    obtain rfl : ofHeaders putUrl getUrl inserted = s := Except.ok.inj hs
    exact ⟨get, inserted, hget, (putUrl_ofHeaders ..).symm ▸ hputUrl,
      (getUrl_ofHeaders ..).symm ▸ hgetUrl, hcarries,
      by rw [putUrl_ofHeaders, getUrl_ofHeaders]⟩
  · rintro ⟨get, inserted, hget, hputUrl, hgetUrl, hcarries, hs⟩
    exact ⟨get, hget, s.putUrl, hputUrl, s.getUrl, hgetUrl, inserted, hcarries,
      congrArg Except.ok hs.symm⟩

/-- A reply with a header that has no name denotes no slot. -/
theorem decode_of_nameless (hroot : parse document = .ok root)
    (hversion : versionOf root = .ok .current) (hput : root.child? "put" = some put)
    {e : Element} (he : e ∈ put.children) (hname : e.name = "header")
    (hnameless : e.attribute? "name" = none) :
    ∃ fault, decode document = .error fault ∧
      UploadError.ofPayload fault = .malformedReply fault.message := by
  cases h : decode document with
  | error fault => exact ⟨fault, rfl, ofPayload_of_decode h⟩
  | ok s =>
      obtain ⟨get, inserted, -, -, -, hcarries, -⟩ := (decode_eq_ok_iff hroot hversion hput s).1 h
      have hview : headerView e ∈ headerViews .current put :=
        List.mem_map_of_mem (List.mem_filter.2 ⟨he, beq_iff_eq.2 hname⟩)
      rw [hcarries] at hview
      obtain ⟨header, -, hheader⟩ := List.mem_map.1 hview
      have hsome : some header.1 = e.attribute? "name" := congrArg Prod.fst hheader
      rw [hnameless] at hsome
      contradiction

/-- **The headers of a slot**: of headers that are put in one after another, on the command
line too, each name stands once, where it came up first and with the value that it had
last.  A reply of the current schema denotes a slot exactly if its URLs can be read and
every header has a name, and this slot has the headers put in as they stand in the reply. -/
theorem headers_collected :
    (∀ (putUrl getUrl : Url) (inserted : List (String × String)),
      Collected inserted (ofHeaders putUrl getUrl inserted).headers) ∧
    (∀ (putUrl getUrl : Url) (inserted : List (String × String)),
      Command.slotOf putUrl getUrl inserted = ofHeaders putUrl getUrl inserted) ∧
    ∀ (document : String) (root put : Element), parse document = .ok root →
      versionOf root = .ok .current → root.child? "put" = some put →
        (∀ s : Slot, decode document = .ok s ↔ ∃ get inserted, root.child? "get" = some get ∧
          readUrl "put" (put.attribute? "url") = .ok s.putUrl ∧
          readUrl "get" (get.attribute? "url") = .ok s.getUrl ∧ Carries put inserted ∧
          s = ofHeaders s.putUrl s.getUrl inserted) ∧
        ∀ e ∈ put.children, e.name = "header" → e.attribute? "name" = none →
          ∃ fault, decode document = .error fault ∧
            UploadError.ofPayload fault = .malformedReply fault.message :=
  ⟨collected_ofHeaders, fun _ _ _ => rfl, fun _ _ _ hroot hversion hput =>
    ⟨decode_eq_ok_iff hroot hversion hput, fun _ he hname hnameless =>
      decode_of_nameless hroot hversion hput he hname hnameless⟩⟩

/-- A reply in which a header comes up twice, with something else between, and the same
reply with a header that has no name. -/
theorem headers_collected_cookie :
    let header (name value : String) : Markup := headerMarkup (name, value)
    let reply (more : List Markup) : Markup :=
      .opened slotName { list := [xmlns .current] } ""
        [.opened putName { list := [(urlName, Url.loopback.toString)] } ""
          (header "Cookie" "a" :: header "Expires" "never" :: more ++ [header "Cookie" "b"]),
        .closed getName { list := [(urlName, Url.loopback.toString)] }]
    (∃ s, decode (String.ofList (reply [textMarkup slotName "x"]).write) = .ok s ∧
      s = Command.slotOf .loopback .loopback
        [("Cookie", "a"), ("Expires", "never"), ("Cookie", "b")] ∧
      s.headers = [("Cookie", "b"), ("Expires", "never")]) ∧
    ∃ fault, decode (String.ofList (reply [textMarkup headerName "x"]).write) = .error fault ∧
      UploadError.ofPayload fault = .malformedReply fault.message := by
  intro header reply
  have hparse : ∀ m : Markup, parse (String.ofList m.write) = .ok (m.element none) := fun m =>
    root_eq_ok_iff.1 (root_write String.toList_ofList)
  have hurl : ∀ field, readUrl field (some Url.loopback.toString) = .ok .loopback := fun _ =>
    readUrl_toString Url.parse_loopback
  obtain ⟨-, hcommand, hreply⟩ := headers_collected
  constructor
  · let inserted := [("Cookie", "a"), ("Expires", "never"), ("Cookie", "b")]
    let s := ofHeaders .loopback .loopback inserted
    have hdecode := ((hreply _ _ _ (hparse (reply [textMarkup slotName "x"])) rfl rfl).1 s).2
      ⟨_, inserted, rfl, hurl "put", hurl "get", by decide +kernel, rfl⟩
    exact ⟨s, hdecode, (hcommand _ _ _).symm, by decide⟩
  · have hmem : (textMarkup headerName "x").element (some Version.current.namespaceName) ∈
        Markup.elements (some Version.current.namespaceName) (header "Cookie" "a" ::
          header "Expires" "never" :: textMarkup headerName "x" :: [header "Cookie" "b"]) :=
      .tail _ (.tail _ (.head _))
    exact (hreply _ _ _ (hparse (reply [textMarkup headerName "x"])) rfl rfl).2 _ hmem rfl rfl

end SlotUpload.Slot
