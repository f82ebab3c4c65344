import SlotUpload.Failure
import SlotUpload.Payload.Slot
import SlotUpload.Proofs.Http.Header
import SlotUpload.Proofs.Payload.Markup
import SlotUpload.Proofs.Url.Ends

/-!
# SlotUpload.Proofs.Payload.Slot

Slots, read back from the payloads of the current schema.  The names of the
headers are attributes and come back as they were; the values are texts of
elements, and one made of blanks alone comes back empty.  So a slot is read back
as it was exactly if no value of a header consists of blanks (`decode_ofHeaders`),
which fails for a value that is a space (`not_forall_decode_ofHeaders`).

The names of a slot's headers are distinct however it was put together
(`nodup_names`); this is why reading, which puts the headers in one by one, keeps
their number and their order (`foldl_withHeader`).
-/

namespace SlotUpload.Slot

open Xml Payload

/-! ## headers -/

/-- The names of headers. -/
def names (headers : List (String × String)) : List String := headers.map (·.1)

/-- The slot that has these headers put in, one after the other. -/
def ofHeaders (putUrl getUrl : Url) (headers : List (String × String)) : Slot :=
  headers.foldl (fun s (name, value) => s.withHeader name value) { putUrl, getUrl }

/-- Headers of a slot are put in as headers of a request are set. -/
theorem insertHeader_eq_set (name value : String) (headers : List (String × String)) :
    insertHeader name value headers = Http.Headers.set name value headers := by
  induction headers with
  | nil => rfl
  | cons h headers ih => rw [insertHeader, Http.Headers.set, ih]

/-- A header put in leaves the names distinct. -/
theorem nodup_insertHeader {name value : String} {headers : List (String × String)}
    (h : (names headers).Nodup) : (names (insertHeader name value headers)).Nodup := by
  rw [insertHeader_eq_set]
  exact Http.Headers.nodup_names_set h

/-- What holds of a slot without headers, and goes on to hold when a header is put
in, holds of every slot. -/
theorem ofHeaders_induction {P : Slot → Prop} {putUrl getUrl : Url}
    (hnew : P { putUrl, getUrl }) (hput : ∀ s name value, P s → P (s.withHeader name value))
    (headers : List (String × String)) : P (ofHeaders putUrl getUrl headers) := by
  have hfold : ∀ s, P s → P (headers.foldl (fun s (name, value) => s.withHeader name value) s) := by
    induction headers with
    | nil => exact fun s h => h
    | cons h headers ih => exact fun s hs => ih _ (hput s h.1 h.2 hs)
  exact hfold _ hnew

section Made

variable (putUrl getUrl : Url) (headers : List (String × String))

/-- The names of a slot's headers are distinct. -/
theorem nodup_names : (names (ofHeaders putUrl getUrl headers).headers).Nodup :=
  ofHeaders_induction (P := fun s => (names s.headers).Nodup) List.nodup_nil
    (fun _ _ _ => nodup_insertHeader) headers

theorem putUrl_ofHeaders : (ofHeaders putUrl getUrl headers).putUrl = putUrl :=
  ofHeaders_induction (P := fun s => s.putUrl = putUrl) rfl (fun _ _ _ h => h) headers

theorem getUrl_ofHeaders : (ofHeaders putUrl getUrl headers).getUrl = getUrl :=
  ofHeaders_induction (P := fun s => s.getUrl = getUrl) rfl (fun _ _ _ h => h) headers

end Made

/-- A header with a new name goes to the end. -/
theorem insertHeader_of_not_mem {name value : String} {headers : List (String × String)}
    (h : name ∉ names headers) : insertHeader name value headers = headers ++ [(name, value)] := by
  induction headers with
  | nil => rfl
  | cons first headers ih =>
      obtain ⟨hfirst, hrest⟩ := not_or.1 (mt List.mem_cons.2 h)
      rw [insertHeader, if_neg (Ne.symm hfirst), ih hrest]
      rfl

/-- Headers with distinct names are put in as they stand. -/
theorem foldl_withHeader {s : Slot} {headers : List (String × String)}
    (h : (names (s.headers ++ headers)).Nodup) :
    headers.foldl (fun s (name, value) => s.withHeader name value) s =
      { s with headers := s.headers ++ headers } := by
  induction headers generalizing s with
  | nil => simp
  | cons first headers ih =>
      have hnew : first.1 ∉ names s.headers := by
        intro hmem
        rw [names, List.map_append, List.nodup_append] at h
        exact h.2.2 _ hmem _ (by simp) rfl
      have hput : s.withHeader first.1 first.2 = { s with headers := s.headers ++ [first] } := by
        rw [withHeader, insertHeader_of_not_mem hnew]
      rw [List.foldl_cons]
      dsimp only
      rw [hput, ih (by simpa using h)]
      simp

/-! ## faults

Whatever is read as a slot, its faults are those of the payload: the fault of a
request for an empty file is not among them. -/

section Faults

variable {α β : Type}

/-- Neither part speaks of an empty file, so the whole does not. -/
theorem ne_emptyFile_bind {r : Except PayloadError α} {f : α → Except PayloadError β}
    (hr : r ≠ .error .emptyFile) (hf : ∀ a, f a ≠ .error .emptyFile) :
    (r >>= f) ≠ .error .emptyFile := by
  cases r with
  | error e => simpa [bind, Except.bind] using hr
  | ok a => exact hf a

theorem ne_emptyFile_mapM {f : α → Except PayloadError β} (hf : ∀ a, f a ≠ .error .emptyFile)
    (as : List α) : as.mapM f ≠ .error .emptyFile := by
  induction as with
  | nil => simp [pure, Except.pure]
  | cons a as ih =>
      rw [List.mapM_cons]
      exact ne_emptyFile_bind (hf a) fun b => ne_emptyFile_bind ih fun bs => nofun

theorem root_ne_emptyFile (document : String) : root document ≠ .error .emptyFile := by
  unfold root
  cases Element.parse document <;> rintro ⟨⟩

theorem versionOf_ne_emptyFile (e : Element) : versionOf e ≠ .error .emptyFile := by
  unfold versionOf
  dsimp only
  split <;> simp

theorem required_ne_emptyFile (words : String) (part : Option α) :
    required words part ≠ .error .emptyFile := by
  cases part <;> simp [required]

theorem readUrl_ne_emptyFile (field : String) (raw : Option String) :
    readUrl field raw ≠ .error .emptyFile := by
  unfold readUrl
  dsimp only
  split
  · simp
  · cases Url.parse _ <;> rintro ⟨⟩

theorem readHeaders_ne_emptyFile (version : Version) (put : Element) :
    readHeaders version put ≠ .error .emptyFile := by
  cases version with
  | legacy => simp [readHeaders]
  | current =>
      refine ne_emptyFile_mapM (fun e => ?_) _
      unfold readHeader
      cases e.attribute? "name" <;> simp [required, Except.map]

/-- Reading a slot never speaks of an empty file. -/
theorem decode_ne_emptyFile (document : String) : decode document ≠ .error .emptyFile := by
  unfold decode
  refine ne_emptyFile_bind (root_ne_emptyFile document) fun root => ?_
  refine ne_emptyFile_bind (versionOf_ne_emptyFile root) fun version => ?_
  refine ne_emptyFile_bind (required_ne_emptyFile _ _) fun put => ?_
  refine ne_emptyFile_bind (required_ne_emptyFile _ _) fun get => ?_
  refine ne_emptyFile_bind (readUrl_ne_emptyFile _ _) fun putUrl => ?_
  refine ne_emptyFile_bind (readUrl_ne_emptyFile _ _) fun getUrl => ?_
  refine ne_emptyFile_bind (readHeaders_ne_emptyFile version put) fun headers => ?_
  exact nofun

/-- A fault of a slot is a fault of the reply. -/
theorem ofPayload_of_decode {document : String} {fault : PayloadError}
    (h : decode document = .error fault) :
    UploadError.ofPayload fault = .malformedReply fault.message := by
  cases fault with
  | emptyFile => exact absurd h (decode_ne_emptyFile document)
  | _ => rfl

end Faults

/-! ## slots as trees -/

def slotName : Name := { text := "slot" }

def putName : Name := { text := "put" }

def getName : Name := { text := "get" }

def headerName : Name := { text := "header" }

def urlName : Name := { text := "url" }

def nameName : Name := { text := "name" }

/-- The tree of a header. -/
def headerMarkup (header : String × String) : Markup :=
  .opened headerName { list := [(nameName, header.1)] } header.2 []

/-- The tree of a `put` element, which closes itself if there are no headers. -/
def putMarkup (s : Slot) : Markup :=
  let fields : Fields := { list := [(urlName, s.putUrl.toString)] }
  if s.headers.isEmpty then .closed putName fields
  else .opened putName fields "" (s.headers.map headerMarkup)

def getMarkup (s : Slot) : Markup :=
  .closed getName { list := [(urlName, s.getUrl.toString)] }

/-- The tree of a slot in the current schema. -/
def markup (s : Slot) : Markup :=
  .opened slotName { list := [xmlns .current] } "" [s.putMarkup, s.getMarkup]

theorem write_headerMarkup (header : String × String) :
    (headerMarkup header).write = (headerElement header).toList := by
  unfold headerElement
  simp only [escaped, String.toList_append, String.toList_ofList, List.append_assoc]
  simp only [headerMarkup, Markup.write, Markup.writeAll, Tag.write_single, List.append_assoc,
    List.cons_append, List.nil_append]
  rfl

theorem toList_join_headerElement (headers : List (String × String)) :
    (String.join (headers.map headerElement)).toList =
      Markup.writeAll (headers.map headerMarkup) := by
  rw [String.toList_join]
  induction headers with
  | nil => rfl
  | cons h headers ih =>
      rw [List.map_cons, List.flatMap_cons, ih, List.map_cons, Markup.writeAll, write_headerMarkup]

/-- A slot is written as its tree. -/
theorem toList_encode (s : Slot) : (s.encode .current).toList = s.markup.write := by
  unfold encode
  dsimp only
  simp only [escaped, String.toList_append, String.toList_ofList, List.append_assoc]
  simp only [markup, getMarkup, Markup.write, Markup.writeAll, Tag.write_single, List.append_assoc,
    List.cons_append]
  unfold putMarkup
  dsimp only
  split
  · simp only [Markup.write, Tag.write_single, List.append_assoc, List.cons_append]
    rfl
  · simp only [Markup.write, Tag.write_single, List.append_assoc, List.cons_append,
      String.toList_append, toList_join_headerElement]
    rfl

/-! ## reading -/

/-- The element that a header is read back as. -/
def headerRead (inherited : Option String) (header : String × String) : Element :=
  { name := "header", xmlns := inherited, attributes := [("name", header.1)],
    text := kept header.2 }

/-- The headers as elements, after they are read. -/
theorem elements_headers (inherited : Option String) (headers : List (String × String)) :
    Markup.elements inherited (headers.map headerMarkup) =
      headers.map (headerRead inherited) := by
  induction headers with
  | nil => rfl
  | cons h headers ih =>
      rw [List.map_cons, Markup.elements, ih]
      rfl

/-- Headers with their values as they are read from elements: those of blanks
alone are empty. -/
def keptValues (headers : List (String × String)) : List (String × String) :=
  headers.map fun h => (h.1, kept h.2)

/-- Names are kept, whatever becomes of the values. -/
theorem names_keptValues (headers : List (String × String)) :
    names (keptValues headers) = names headers := by
  simp [names, keptValues]

/-- Values are kept as they are unless one of them vanishes. -/
theorem keptValues_eq_self_iff {headers : List (String × String)} :
    keptValues headers = headers ↔ ∀ h ∈ headers, ¬ Vanishes h.2 := by
  induction headers with
  | nil => simp [keptValues]
  | cons h headers ih =>
      have hone : (h.1, kept h.2) = h ↔ ¬ Vanishes h.2 := by
        rw [← kept_eq_self_iff, Prod.ext_iff]
        simp
      rw [List.forall_mem_cons, ← hone, ← ih]
      exact List.cons_eq_cons

/-- Headers are read back with the values that were kept. -/
theorem mapM_readHeader (inherited : Option String) (headers : List (String × String)) :
    (headers.map (headerRead inherited)).mapM readHeader = .ok (keptValues headers) := by
  induction headers with
  | nil => rfl
  | cons h headers ih =>
      rw [List.map_cons, List.mapM_cons, ih]
      rfl

/-- The headers of a written put are read back. -/
theorem readHeaders_putMarkup (s : Slot) (inherited : Option String) :
    readHeaders .current (s.putMarkup.element inherited) = .ok (keptValues s.headers) := by
  unfold putMarkup
  dsimp only
  split
  · next hempty =>
      rw [List.isEmpty_iff.1 hempty]
      rfl
  · have hall : ∀ e ∈ s.headers.map (headerRead inherited), (e.name == "header") = true := by
      rintro e he
      obtain ⟨h, -, rfl⟩ := List.mem_map.1 he
      rfl
    change (List.filter _ (Markup.elements inherited _)).mapM readHeader = _
    rw [elements_headers, List.filter_eq_self.2 hall, mapM_readHeader]

theorem name_putMarkup (s : Slot) (inherited : Option String) :
    (s.putMarkup.element inherited).name = "put" := by
  unfold putMarkup
  dsimp only
  split <;> rfl

theorem attribute?_putMarkup (s : Slot) (inherited : Option String) :
    (s.putMarkup.element inherited).attribute? "url" = some s.putUrl.toString := by
  unfold putMarkup
  dsimp only
  split <;> rfl

theorem child?_put (s : Slot) : (s.markup.element none).child? "put" =
    some (s.putMarkup.element (some Version.current.namespaceName)) :=
  List.find?_cons_of_pos (beq_iff_eq.2 (name_putMarkup s _))

theorem child?_get (s : Slot) : (s.markup.element none).child? "get" =
    some (s.getMarkup.element (some Version.current.namespaceName)) := by
  have hchildren : (s.markup.element none).children =
      [s.putMarkup.element (some Version.current.namespaceName),
        s.getMarkup.element (some Version.current.namespaceName)] := rfl
  rw [Element.child?, hchildren, List.find?_cons_of_neg (by simp [name_putMarkup])]
  rfl

theorem attribute?_getMarkup (s : Slot) (inherited : Option String) :
    (s.getMarkup.element inherited).attribute? "url" = some s.getUrl.toString := rfl

/-- A URL that is read back is what is read of its text. -/
theorem readUrl_toString {field : String} {u : Url} (h : Url.parse u.toString = .ok u) :
    readUrl field (some u.toString) = .ok u := by
  unfold readUrl
  dsimp only [Option.getD_some]
  rw [Url.trimmed_toString_of_parse h, if_neg, h]
  · rfl
  · simpa using Url.toString_ne_empty_of_parse h

/-- A slot whose headers have distinct names is read back with their values kept. -/
theorem decode_encode {s : Slot} (hput : Url.parse s.putUrl.toString = .ok s.putUrl)
    (hget : Url.parse s.getUrl.toString = .ok s.getUrl) (hnames : (names s.headers).Nodup) :
    decode (s.encode .current) = .ok { s with headers := keptValues s.headers } := by
  have hversion : versionOf (s.markup.element none) = .ok .current := versionOf_eq rfl
  have hkept : (names ([] ++ keptValues s.headers)).Nodup := by
    rwa [List.nil_append, names_keptValues]
  have hfold := foldl_withHeader (s := { putUrl := s.putUrl, getUrl := s.getUrl }) hkept
  unfold decode
  rw [root_write (toList_encode s)]
  simp only [bind, Except.bind, hversion, child?_put, child?_get, required, rawUrl?,
    attribute?_putMarkup, attribute?_getMarkup, readUrl_toString hput, readUrl_toString hget,
    readHeaders_putMarkup]
  rw [hfold]
  rfl

/-- **Current schema**: however a slot was made of two URLs and headers, it is read
back with the values of headers empty where they consisted of blanks.  It is read
back as it was exactly if none of them does. -/
theorem decode_ofHeaders (putUrl getUrl : Url) (headers : List (String × String))
    (hput : Url.parse putUrl.toString = .ok putUrl)
    (hget : Url.parse getUrl.toString = .ok getUrl) :
    let s := ofHeaders putUrl getUrl headers
    decode (s.encode .current) = .ok { s with headers := keptValues s.headers } ∧
      (decode (s.encode .current) = .ok s ↔ ∀ h ∈ s.headers, ¬ Vanishes h.2) := by
  intro s
  have hputUrl : s.putUrl = putUrl := putUrl_ofHeaders putUrl getUrl headers
  have hgetUrl : s.getUrl = getUrl := getUrl_ofHeaders putUrl getUrl headers
  have hdecode := decode_encode (s := s) (hputUrl.symm ▸ hput) (hgetUrl.symm ▸ hget)
    (nodup_names putUrl getUrl headers)
  refine ⟨hdecode, ?_⟩
  rw [hdecode, ← keptValues_eq_self_iff]
  constructor
  · intro h
    exact congrArg Slot.headers (Except.ok.inj h)
  · intro h
    rw [h]

/-- Two headers, of which the first is put in twice. -/
theorem decode_ofHeaders_cookie :
    let headers := [("Cookie", "a=<1>"), ("Expires", " never "), ("Cookie", "b=\"2\"")]
    let s := ofHeaders Url.loopback Url.loopback headers
    Url.parse Url.loopback.toString = .ok Url.loopback ∧
      decode (s.encode .current) = .ok s ∧
      s.headers = [("Cookie", "b=\"2\""), ("Expires", " never ")] := by
  intro headers s
  have hheaders : s.headers = [("Cookie", "b=\"2\""), ("Expires", " never ")] := by decide
  refine ⟨Url.parse_loopback, ?_, hheaders⟩
  refine (decode_ofHeaders _ _ headers Url.parse_loopback Url.parse_loopback).2.2 ?_
  change ∀ h ∈ s.headers, ¬ Vanishes h.2
  rw [hheaders]
  decide

/-- A header whose value is a space comes back without it. -/
theorem not_forall_decode_ofHeaders :
    ¬ ∀ (putUrl getUrl : Url) (headers : List (String × String)),
      Url.parse putUrl.toString = .ok putUrl → Url.parse getUrl.toString = .ok getUrl →
      decode ((ofHeaders putUrl getUrl headers).encode .current) =
        .ok (ofHeaders putUrl getUrl headers) := by
  intro hall
  let s := ofHeaders Url.loopback Url.loopback [("X", " ")]
  have hs : decode (s.encode .current) = .ok s := hall _ _ _ Url.parse_loopback Url.parse_loopback
  have hkept : decode (s.encode .current) = .ok { s with headers := [("X", "")] } :=
    decode_encode Url.parse_loopback Url.parse_loopback (by decide)
  rw [hs] at hkept
  have hvalue : [("X", " ")] = [("X", "")] := congrArg Slot.headers (Except.ok.inj hkept)
  contradiction

end SlotUpload.Slot
