import SlotUpload.Payload.SlotRequest
import SlotUpload.Proofs.Payload.Markup

/-!
# SlotUpload.Proofs.Payload.SlotRequest

Requests for a slot, read back from the payloads they are written as.

* In the current schema every request is read back as it was (`decode_encode_current`):
  its fields are attributes, and any text may be the value of an attribute.
* In the legacy schema the fields are texts of elements, and a text made of blanks
  alone is taken for indentation.  A request is read back with each such field
  empty, and so as it was exactly if no field consists of blanks
  (`decode_encode_legacy`).
-/

namespace SlotUpload.SlotRequest

open Xml Payload

/-! ## requests as trees -/

def requestName : Name := { text := "request" }

def fileNameName : Name := { text := "filename" }

def sizeName : Name := { text := "size" }

def contentTypeName : Name := { text := "content-type" }

/-- The fields of a request under their names; the content type may be missing. -/
def entries (r : SlotRequest) : List (Name × String) :=
  (fileNameName, r.fileName) :: (sizeName, number r.size) ::
    (r.contentType.map fun t => (contentTypeName, t)).toList

/-- No field of a request is written twice. -/
theorem nodup_xmlns_entries (version : Version) (r : SlotRequest) :
    ((xmlns version :: r.entries).map (·.1)).Nodup := by
  cases h : r.contentType with
  | none => simp [entries, xmlns, h, fileNameName, sizeName]
  | some t => simp [entries, xmlns, h, fileNameName, sizeName, contentTypeName]

/-- The tree of a request: one tag with the fields, or an element for each field. -/
def markup (version : Version) (r : SlotRequest) : Markup :=
  match version with
  | .current => .closed requestName
      { list := xmlns .current :: r.entries, nodup := nodup_xmlns_entries .current r }
  | .legacy => .opened requestName { list := [xmlns .legacy] } ""
      (r.entries.map fun (name, text) => textMarkup name text)

theorem toList_attributeText (name : Name) (value : String) :
    (attributeText name.text value).toList = Fields.writeOne (name, value) := by
  simp [attributeText, Fields.writeOne, escaped, Name.chars]

/-- A request is written as its tree. -/
theorem toList_encode (version : Version) (r : SlotRequest) :
    (r.encode version).toList = (r.markup version).write := by
  obtain ⟨service, fileName, size, contentType, hne⟩ := r
  unfold encode
  cases version with
  | current =>
      have hname : (attributeText "filename" fileName).toList = _ :=
        toList_attributeText fileNameName fileName
      have hsize : (attributeText "size" (number size)).toList = _ :=
        toList_attributeText sizeName (number size)
      have htype : ∀ t, (attributeText "content-type" t).toList = _ :=
        toList_attributeText contentTypeName
      simp only [markup, Markup.write, Tag.write, Fields.write, Fields.writeList, entries,
        List.flatMap_cons]
      cases contentType with
      | none =>
          simp only [String.toList_append, hname, hsize, List.append_assoc]
          rfl
      | some t =>
          simp only [String.toList_append, hname, hsize, htype, List.append_assoc, Option.map_some,
            Option.toList_some, List.flatMap_cons]
          rfl
  | legacy =>
      have hname : (textElement "filename" fileName).toList = _ :=
        (write_textMarkup fileNameName fileName).symm
      have hsize : (textElement "size" (number size)).toList = _ :=
        (write_textMarkup sizeName (number size)).symm
      have htype : ∀ t, (textElement "content-type" t).toList = _ := fun t =>
        (write_textMarkup contentTypeName t).symm
      simp only [markup, Markup.write, Tag.write, Fields.write, Fields.writeList, entries,
        List.flatMap_cons, List.map_cons, Markup.writeAll, List.append_assoc]
      cases contentType with
      | none =>
          simp only [String.toList_append, hname, hsize, List.append_assoc]
          rfl
      | some t =>
          simp only [String.toList_append, hname, hsize, htype, List.append_assoc, Option.map_some,
            Option.toList_some, List.map_cons, Markup.writeAll]
          rfl

/-! ## reading -/

/-- What is read from a payload, given the element at its root. -/
theorem decode_of_root {service document fileName : String} {root : Element} {version : Version}
    {size : UInt64} (hroot : Payload.root document = .ok root)
    (hversion : versionOf root = .ok version)
    (hname : field? version root "filename" = some fileName)
    (hsize : field? version root "size" = some (number size)) :
    decode service document =
      (make service fileName size (field? version root "content-type")).map (version, ·) := by
  unfold decode
  rw [hroot]
  simp only [bind, Except.bind, hversion, hname, hsize, required, readNumber_number]
  cases make service fileName size (field? version root "content-type") <;> rfl

/-- A request can be made again with another name and type. -/
theorem make_eq (r : SlotRequest) (fileName : String) (contentType : Option String) :
    make r.service fileName r.size contentType = .ok { r with fileName, contentType } :=
  dif_neg r.size_ne_zero

/-- The type is read back from its attribute. -/
theorem contentType_current (r : SlotRequest) :
    field? .current ((r.markup .current).element none) "content-type" = r.contentType := by
  obtain ⟨service, fileName, size, contentType, hne⟩ := r
  cases contentType <;> rfl

/-- In the older version it is read back as its text was kept. -/
theorem contentType_legacy (r : SlotRequest) :
    field? .legacy ((r.markup .legacy).element none) "content-type" = r.contentType.map kept := by
  obtain ⟨service, fileName, size, contentType, hne⟩ := r
  cases contentType <;> rfl

/-- The size is digits, which are always kept. -/
theorem size_legacy (r : SlotRequest) :
    field? .legacy ((r.markup .legacy).element none) "size" = some (number r.size) :=
  congrArg some (kept_number r.size)

/-- **Current schema**: every request is read back from its payload as it was. -/
theorem decode_encode_current (r : SlotRequest) :
    decode r.service (r.encode .current) = .ok (.current, r) := by
  have hroot := root_write (toList_encode .current r)
  rw [decode_of_root hroot (versionOf_eq rfl) rfl rfl, contentType_current, make_eq]
  rfl

/-- The request with its texts as they are read from elements: those of blanks
alone are empty. -/
def withKeptTexts (r : SlotRequest) : SlotRequest :=
  { r with fileName := kept r.fileName, contentType := r.contentType.map kept }

/-- Nothing is lost exactly if no text vanishes. -/
theorem withKeptTexts_eq_self_iff (r : SlotRequest) :
    r.withKeptTexts = r ↔ ¬ Vanishes r.fileName ∧ ∀ t ∈ r.contentType, ¬ Vanishes t := by
  obtain ⟨service, fileName, size, contentType, hne⟩ := r
  cases contentType <;> simp [withKeptTexts, kept_eq_self_iff]

/-- **Legacy schema**: every request is read back, with the file name and the
content type empty where they consisted of blanks.  It is read back as it was
exactly if neither does. -/
theorem decode_encode_legacy (r : SlotRequest) :
    decode r.service (r.encode .legacy) = .ok (.legacy, r.withKeptTexts) ∧
      (decode r.service (r.encode .legacy) = .ok (.legacy, r) ↔
        ¬ Vanishes r.fileName ∧ ∀ t ∈ r.contentType, ¬ Vanishes t) := by
  have hroot := root_write (toList_encode .legacy r)
  have hdecode : decode r.service (r.encode .legacy) = .ok (.legacy, r.withKeptTexts) := by
    rw [decode_of_root hroot (versionOf_eq rfl) rfl (size_legacy r), contentType_legacy, make_eq]
    rfl
  refine ⟨hdecode, ?_⟩
  rw [hdecode, ← withKeptTexts_eq_self_iff]
  simp

end SlotUpload.SlotRequest
