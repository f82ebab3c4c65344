import SlotUpload.Proofs.Payload.Compatibility
import SlotUpload.Proofs.Payload.FileTooLarge
import SlotUpload.Proofs.Payload.SlotRequest
import SlotUpload.Proofs.Xml.Namespace

/-!
# SlotUpload.Proofs.Payload.Namespace

The namespaces of the elements that fields are read from.  A payload is told by its
namespace, but the elements in it are looked up by their names alone.  So all fields come
from elements in the namespace of the payload exactly if no name that is looked up is
shadowed by an element in another namespace; and then nothing changes if all that is in
other namespaces is left out (`fields_own_iff`).

An element in another namespace that comes first replaces the one that it shadows
(`not_forall_fields_own`).
-/

namespace SlotUpload

open Xml Xml.Element

/-- How a value is read from a payload, of which `sources` are the elements that its fields
come from: all of them are in the namespace of the payload exactly if the payload is clear
of others, and then what is in other namespaces does not show. -/
structure ReadFrom {α : Type} (read : Element → Except PayloadError α) (payload : Element)
    (sources : List Element) (clear : Prop) (value : α) : Prop where
  read_eq : read payload = .ok value
  own_iff : (∀ e ∈ sources, e.xmlns = payload.xmlns) ↔ clear
  genuine : (∀ e ∈ sources, e.xmlns = payload.xmlns) → read payload.genuine = .ok value

namespace Payload

@[simp] theorem versionOf_genuine (e : Element) : versionOf e.genuine = versionOf e := by
  rw [versionOf, xmlns_genuine, versionOf]

theorem bind_eq_ok_iff {α β : Type} {x : Except PayloadError α}
    {read : α → Except PayloadError β} {value : β} :
    x >>= read = .ok value ↔ ∃ a, x = .ok a ∧ read a = .ok value := by
  cases x <;> simp [bind, Except.bind]

/-- What is read from a document is read from its root. -/
theorem root_bind_eq_ok_iff {α : Type} {document : String}
    {read : Element → Except PayloadError α} {value : α} :
    root document >>= read = .ok value ↔
      ∃ e, parse document = .ok e ∧ read e = .ok value := by
  simp only [bind_eq_ok_iff, root_eq_ok_iff]

/-- What is read from a written tree is read from the element of that tree. -/
theorem root_bind_write {α : Type} {read : Element → Except PayloadError α} (m : Markup) :
    root (String.ofList m.write) >>= read = read (m.element none) := by
  rw [root_write String.toList_ofList]
  rfl

end Payload

open Payload

/-! ## slots -/

namespace Slot

variable {document : String} {version : Version} {root : Element}

/-- The slot that a tree denotes in a schema. -/
def readAs (root : Element) (version : Version) : Except PayloadError Slot := do
  let put ← required "missing put element" (root.child? "put")
  let get ← required "missing get element" (root.child? "get")
  let putUrl ← readUrl "put" (rawUrl? version put)
  let getUrl ← readUrl "get" (rawUrl? version get)
  let headers ← readHeaders version put
  return headers.foldl (fun s (name, value) => s.withHeader name value) { putUrl, getUrl }

/-- The slot that a tree denotes. -/
def read (root : Element) : Except PayloadError Slot := versionOf root >>= readAs root

theorem decode_eq_bind (document : String) : decode document = Payload.root document >>= read := rfl

theorem read_eq_readAs (h : versionOf root = .ok version) : read root = readAs root version := by
  rw [read, h]
  rfl

/-- The elements that the headers of a slot are read from. -/
def headerElements (version : Version) (root : Element) : List Element :=
  match version with
  | .current => (root.child? "put").toList.flatMap fun put =>
      put.children.filter (·.name == "header")
  | .legacy => []

/-- The elements that a slot is read from. -/
def sources (version : Version) (root : Element) : List Element :=
  lookedUp ["put", "get"] root ++ headerElements version root

/-- No part of a slot is shadowed, and no header is in another namespace than the slot. -/
def Clear (version : Version) (root : Element) : Prop :=
  (∀ name ∈ ["put", "get"], ¬ Shadowed root name) ∧
    ∀ e ∈ headerElements version root, e.xmlns = root.xmlns

/-- All that is read is the document's own exactly if nothing shadows it. -/
theorem own_iff : (∀ e ∈ sources version root, e.xmlns = root.xmlns) ↔ Clear version root := by
  rw [sources, List.forall_mem_append, forall_mem_lookedUp_iff, Clear]

@[simp] theorem rawUrl?_genuine (e : Element) : rawUrl? version e.genuine = rawUrl? version e := by
  cases version <;> simp [rawUrl?]

/-- Headers that are all in the namespace of their `put` element are read without the rest. -/
theorem readHeaders_genuine {put : Element}
    (h : version = .current → ∀ e ∈ put.children, e.name = "header" → e.xmlns = put.xmlns) :
    readHeaders version put.genuine = readHeaders version put := by
  have hviews : headerViews version put.genuine = headerViews version put := by
    cases version with
    | legacy => rfl
    | current =>
        have hview : headerView ∘ Element.genuine = headerView := by
          funext e
          simp [headerView]
        rw [headerViews, filter_children_genuine (h rfl), List.map_map, hview, headerViews]
  rw [readHeaders_eq, readHeaders_eq, hviews]

/-- Where nothing is shadowed, strangers can be left out. -/
theorem readAs_genuine (h : Clear version root) :
    readAs root.genuine version = readAs root version := by
  obtain ⟨hparts, hheaders⟩ := h
  unfold readAs
  rw [child?_genuine (hparts "put" (by simp)), child?_genuine (hparts "get" (by simp))]
  cases hput : root.child? "put" with
  | none => rfl
  | some put =>
      have hown : put.xmlns = root.xmlns :=
        not_shadowed_iff.1 (hparts "put" (by simp)) put hput
      have hread : readHeaders version put.genuine = readHeaders version put := by
        refine readHeaders_genuine fun hversion e he hname => ?_
        subst hversion
        rw [hown]
        exact hheaders e (by simp [headerElements, hput, he, hname])
      simp only [required, Option.map_some, bind, Except.bind, rawUrl?_genuine, hread]
      cases root.child? "get" with
      | none => simp only [Option.map_none]
      | some get => simp only [Option.map_some, rawUrl?_genuine]

/-- What was read comes from its sources. -/
theorem readFrom {slot : Slot} (hversion : versionOf root = .ok version)
    (h : read root = .ok slot) :
    ReadFrom read root (sources version root) (Clear version root) slot where
  read_eq := h
  own_iff := own_iff
  genuine hown := by
    have hgenuine : versionOf root.genuine = .ok version := by rwa [versionOf_genuine]
    rw [read_eq_readAs hgenuine, readAs_genuine (own_iff.1 hown), ← read_eq_readAs hversion, h]

/-- What was decoded comes from its sources. -/
theorem exists_readFrom {slot : Slot} (h : decode document = .ok slot) :
    ∃ root version, parse document = .ok root ∧ versionOf root = .ok version ∧
      ReadFrom read root (sources version root) (Clear version root) slot := by
  rw [decode_eq_bind, root_bind_eq_ok_iff] at h
  obtain ⟨root, hroot, hread⟩ := h
  obtain ⟨version, hversion, -⟩ := bind_eq_ok_iff.1 hread
  exact ⟨root, version, hroot, hversion, readFrom hversion hread⟩

end Slot

/-! ## requests -/

namespace SlotRequest

variable {service document : String} {version : Version} {root : Element}

/-- The request that a tree denotes in a schema. -/
def readAs (service : String) (root : Element) (version : Version) :
    Except PayloadError (Version × SlotRequest) := do
  let fileName ← required "request without filename" (field? version root "filename")
  let size ← readNumber "size" (field? version root "size")
  let request ← make service fileName size (field? version root "content-type")
  return (version, request)

/-- The request that a tree denotes. -/
def read (service : String) (root : Element) : Except PayloadError (Version × SlotRequest) :=
  versionOf root >>= readAs service root

theorem decode_eq_bind (service document : String) :
    decode service document = Payload.root document >>= read service := rfl

/-- The names under which a schema has elements for the fields of a request. -/
def fieldNames : Version → List String
  | .current => []
  | .legacy => ["filename", "size", "content-type"]

/-- The elements that a request is read from, besides the payload itself. -/
def sources (version : Version) (root : Element) : List Element :=
  lookedUp (fieldNames version) root

/-- No field is shadowed. -/
def Clear (version : Version) (root : Element) : Prop :=
  ∀ name ∈ fieldNames version, ¬ Shadowed root name

/-- A field is the same without strangers, unless it is shadowed. -/
theorem field?_genuine {name : String} (h : version = .legacy → ¬ Shadowed root name) :
    field? version root.genuine name = field? version root name := by
  cases version with
  | current => simp [field?]
  | legacy => rw [field?, childText_genuine (h rfl), field?]

theorem readAs_genuine (h : Clear version root) :
    readAs service root.genuine version = readAs service root version := by
  have hfield : ∀ name ∈ ["filename", "size", "content-type"],
      field? version root.genuine name = field? version root name := by
    intro name hname
    refine field?_genuine fun hversion => ?_
    subst hversion
    exact h name hname
  unfold readAs
  rw [hfield "filename" (by simp), hfield "size" (by simp), hfield "content-type" (by simp)]

theorem read_eq_readAs (h : versionOf root = .ok version) :
    read service root = readAs service root version := by
  rw [read, h]
  rfl

/-- A request is told with the schema that it was read in. -/
theorem versionOf_of_read {request : SlotRequest}
    (h : read service root = .ok (version, request)) : versionOf root = .ok version := by
  obtain ⟨version', hversion, hread⟩ := bind_eq_ok_iff.1 h
  obtain ⟨fileName, -, hread⟩ := bind_eq_ok_iff.1 hread
  obtain ⟨size, -, hread⟩ := bind_eq_ok_iff.1 hread
  obtain ⟨request', -, htold⟩ := bind_eq_ok_iff.1 hread
  obtain ⟨rfl, -⟩ := Prod.mk.inj (Except.ok.inj htold)
  exact hversion

/-- What was read as a request comes from its sources. -/
theorem readFrom {request : SlotRequest} (h : read service root = .ok (version, request)) :
    ReadFrom (read service) root (sources version root) (Clear version root)
      (version, request) where
  read_eq := h
  own_iff := forall_mem_lookedUp_iff
  genuine hown := by
    have hversion : versionOf root = .ok version := versionOf_of_read h
    have hgenuine : versionOf root.genuine = .ok version := by rwa [versionOf_genuine]
    rw [read_eq_readAs hgenuine, readAs_genuine (forall_mem_lookedUp_iff.1 hown),
      ← read_eq_readAs hversion, h]

/-- A request that was decoded comes from its sources. -/
theorem exists_readFrom {request : SlotRequest}
    (h : decode service document = .ok (version, request)) :
    ∃ root, parse document = .ok root ∧
      ReadFrom (read service) root (sources version root) (Clear version root)
        (version, request) := by
  rw [decode_eq_bind, root_bind_eq_ok_iff] at h
  obtain ⟨root, hroot, hread⟩ := h
  exact ⟨root, hroot, readFrom hread⟩

end SlotRequest

/-! ## errors that a file is too large -/

namespace FileTooLarge

variable {document : String} {root found : Element} {limit : FileTooLarge}

/-- The error that an element denotes. -/
def read (found : Element) : Except PayloadError FileTooLarge := do
  let version ← versionOf found
  let maxFileSize ← readNumber "max-file-size" ((found.child? "max-file-size").map (·.text))
  return { version, maxFileSize }

/-- The elements that an error is read from, besides the payload itself. -/
def sources (found : Element) : List Element := lookedUp ["max-file-size"] found

/-- The limit is not shadowed. -/
def Clear (found : Element) : Prop := ∀ name ∈ ["max-file-size"], ¬ Shadowed found name

/-- A limit was read from the first error of the document. -/
theorem exists_read_of_decode (h : decode document = .ok (some limit)) :
    ∃ root found, parse document = .ok root ∧ root.find? isOne = some found ∧
      read found = .ok limit := by
  obtain ⟨root, hroot, hread⟩ := root_bind_eq_ok_iff.1 h
  cases hfound : root.find? isOne with
  | none =>
      rw [hfound] at hread
      cases hread
  | some found =>
      simp only [hfound] at hread
      obtain ⟨version, hversion, hlimit⟩ := bind_eq_ok_iff.1 hread
      obtain ⟨maxFileSize, hsize, htold⟩ := bind_eq_ok_iff.1 hlimit
      obtain rfl := Option.some.inj (Except.ok.inj htold)
      exact ⟨root, found, hroot, hfound, bind_eq_ok_iff.2 ⟨version, hversion,
        bind_eq_ok_iff.2 ⟨maxFileSize, hsize, rfl⟩⟩⟩

/-- The error reads the same without strangers. -/
theorem read_genuine (h : Clear found) : read found.genuine = read found := by
  rw [read, versionOf_genuine, childText_genuine (h _ (by simp)), read]

/-- A limit that was read comes from its sources. -/
theorem readFrom (h : read found = .ok limit) :
    ReadFrom read found (sources found) (Clear found) limit where
  read_eq := h
  own_iff := forall_mem_lookedUp_iff
  genuine hown := (read_genuine (forall_mem_lookedUp_iff.1 hown)).trans h

/-- A limit that was decoded comes from its sources. -/
theorem exists_readFrom (h : decode document = .ok (some limit)) :
    ∃ root found, parse document = .ok root ∧ root.find? isOne = some found ∧
      ReadFrom read found (sources found) (Clear found) limit := by
  obtain ⟨root, found, hroot, hfound, hread⟩ := exists_read_of_decode h
  exact ⟨root, found, hroot, hfound, readFrom hread⟩

end FileTooLarge

/-! ## all three -/

namespace Payload

/-- **Where fields come from.**  Of every document that a slot, a request or an error is read
from, all elements that fields are taken from are in the namespace of the payload that they
belong to exactly if no name that is looked up is shadowed there, and no header is in
another namespace.  Then the same is read without all that is in other namespaces. -/
theorem fields_own_iff (service document : String) :
    (∀ slot, Slot.decode document = .ok slot →
      ∃ root version, parse document = .ok root ∧ versionOf root = .ok version ∧
        ReadFrom Slot.read root (Slot.sources version root) (Slot.Clear version root) slot) ∧
    (∀ version request, SlotRequest.decode service document = .ok (version, request) →
      ∃ root, parse document = .ok root ∧
        ReadFrom (SlotRequest.read service) root (SlotRequest.sources version root)
          (SlotRequest.Clear version root) (version, request)) ∧
    ∀ limit, FileTooLarge.decode document = .ok (some limit) →
      ∃ root found, parse document = .ok root ∧ root.find? FileTooLarge.isOne = some found ∧
        ReadFrom FileTooLarge.read found (FileTooLarge.sources found) (FileTooLarge.Clear found)
          limit :=
  ⟨fun _ => Slot.exists_readFrom, fun _ _ => SlotRequest.exists_readFrom,
    fun _ => FileTooLarge.exists_readFrom⟩

section Mixed

open Slot SlotRequest FileTooLarge

/-- The fields of an element that is in a namespace of its own. -/
def declaring (namespaceName : String) : Fields :=
  { list := [((xmlns .legacy).1, namespaceName)], nodup := List.nodup_singleton _ }

/-- An element with a text, in a namespace that is not one of uploads. -/
def foreign (name : Name) (text : String) : Markup := .opened name (declaring "y") text []

/-- An element in a namespace of uploads. -/
def own (version : Version) (name : Name) (children : List Markup) : Markup :=
  .opened name (declaring version.namespaceName) "" children

/-- A payload, with an error in it, that is both a slot and a request.  What is in another
namespace comes last. -/
def mixed : Markup :=
  own .legacy slotName
    [textMarkup putName "a:", textMarkup getName "a:", textMarkup fileNameName "f",
      textMarkup sizeName "1",
      own .legacy errorName [textMarkup limitName "2", foreign limitName "3"],
      foreign putName "b:", foreign sizeName "4"]

/-- The fields of that payload are its own, and they are read without the rest. -/
theorem fields_own_iff_mixed :
    let document := String.ofList mixed.write
    let root := mixed.element none
    let url : Url := { scheme := "a", authority := none, path := .text "" }
    let request : SlotRequest :=
      { service := "s", fileName := "f", size := 1, contentType := none, size_ne_zero := by decide }
    let limit : FileTooLarge := { version := .legacy, maxFileSize := 2 }
    (Slot.decode document = .ok { putUrl := url, getUrl := url } ∧
      Slot.read root.genuine = .ok { putUrl := url, getUrl := url }) ∧
    (SlotRequest.decode "s" document = .ok (.legacy, request) ∧
      SlotRequest.read "s" root.genuine = .ok (.legacy, request)) ∧
    FileTooLarge.decode document = .ok (some limit) ∧
      ∀ found, root.find? FileTooLarge.isOne = some found →
        FileTooLarge.read found.genuine = .ok limit := by
  intro document root url request limit
  have hroot : parse document = .ok root := root_eq_ok_iff.1 (root_write String.toList_ofList)
  have hslot : Slot.decode document = .ok { putUrl := url, getUrl := url } :=
    (root_bind_write mixed).trans (by decide +kernel)
  have hrequest : SlotRequest.decode "s" document = .ok (.legacy, request) :=
    (root_bind_write mixed).trans (by decide +kernel)
  have hlimit : FileTooLarge.decode document = .ok (some limit) :=
    (root_bind_write mixed).trans (by decide +kernel)
  obtain ⟨hslots, hrequests, hlimits⟩ := fields_own_iff "s" document
  refine ⟨⟨hslot, ?_⟩, ⟨hrequest, ?_⟩, hlimit, ?_⟩
  · obtain ⟨root', version, hroot', hversion, hread⟩ := hslots _ hslot
    obtain rfl : root = root' := Except.ok.inj (hroot.symm.trans hroot')
    obtain rfl : Version.legacy = version := Except.ok.inj hversion
    exact hread.genuine (by decide +kernel)
  · obtain ⟨root', hroot', hread⟩ := hrequests _ _ hrequest
    obtain rfl : root = root' := Except.ok.inj (hroot.symm.trans hroot')
    exact hread.genuine (by decide +kernel)
  · intro found hfound
    obtain ⟨root', found', hroot', hfound', hread⟩ := hlimits _ hlimit
    obtain rfl : root = root' := Except.ok.inj (hroot.symm.trans hroot')
    obtain rfl : found = found' := Option.some.inj (hfound.symm.trans hfound')
    obtain rfl : Option.get (root.find? FileTooLarge.isOne) (by decide +kernel) = found :=
      Option.get_of_eq_some _ hfound
    exact hread.genuine (by decide +kernel)

/-- An element in another namespace that comes first is read in place of the one that it
shadows, of a slot, of a request and of an error. -/
theorem not_forall_fields_own :
    (¬ ∀ document root version slot, Slot.decode document = .ok slot →
      parse document = .ok root → versionOf root = .ok version →
        ∀ e ∈ Slot.sources version root, e.xmlns = root.xmlns) ∧
    (¬ ∀ service document root version request,
      SlotRequest.decode service document = .ok (version, request) →
      parse document = .ok root →
        ∀ e ∈ SlotRequest.sources version root, e.xmlns = root.xmlns) ∧
    ¬ ∀ document root found limit, FileTooLarge.decode document = .ok (some limit) →
      parse document = .ok root → root.find? FileTooLarge.isOne = some found →
        ∀ e ∈ FileTooLarge.sources found, e.xmlns = found.xmlns := by
  have hroot : ∀ m : Markup, parse (String.ofList m.write) = .ok (m.element none) := fun m =>
    root_eq_ok_iff.1 (root_write String.toList_ofList)
  refine ⟨fun h => ?_, fun h => ?_, fun h => ?_⟩
  · let url (scheme : String) : Url := { scheme, authority := none, path := .text "" }
    let m : Markup := own .legacy slotName
      [foreign putName "b:", textMarkup putName "a:", textMarkup getName "a:"]
    have hslot : Slot.decode (String.ofList m.write) =
        .ok { putUrl := url "b", getUrl := url "a" } :=
      (root_bind_write m).trans (by decide +kernel)
    have hown := h _ _ .legacy _ hslot (hroot m) rfl
    revert hown
    decide +kernel
  · let request : SlotRequest :=
      { service := "s", fileName := "b", size := 1, contentType := none,
        size_ne_zero := by decide }
    let m : Markup := own .legacy requestName
      [foreign fileNameName "b", textMarkup fileNameName "a", textMarkup sizeName "1"]
    have hrequest : SlotRequest.decode "s" (String.ofList m.write) = .ok (.legacy, request) :=
      (root_bind_write m).trans (by decide +kernel)
    have hown := h "s" _ _ _ _ hrequest (hroot m)
    revert hown
    decide +kernel
  · let limit : FileTooLarge := { version := .current, maxFileSize := 1 }
    let m : Markup := own .current errorName [foreign limitName "1", textMarkup limitName "2"]
    have hlimit : FileTooLarge.decode (String.ofList m.write) = .ok (some limit) :=
      (root_bind_write m).trans (by decide +kernel)
    have hown := h _ _ (m.element none) _ hlimit (hroot m) rfl
    revert hown
    decide +kernel

end Mixed

end Payload

end SlotUpload
