import SlotUpload.Command.Run
import SlotUpload.Proofs.Job.Turns
import SlotUpload.Proofs.Payload.FileTooLarge
import SlotUpload.Proofs.Payload.Transcoding
import SlotUpload.Proofs.Text.Encode

/-!
# SlotUpload.Proofs.Command.Decode

Replies are told apart by the elements in them.  A slot that is written has no element by
the name of an error, whatever stands in its URLs and headers, because no text becomes an
element; and an error that is written has no `put` element.  So neither is taken for the
other, and showing a reply, which looks for an error first, shows what was written
(`replies_told_apart`).
-/

namespace SlotUpload

open Xml Xml.Element Payload

/-! ## slots are not errors -/

namespace Slot

variable {putUrl getUrl : Url} {headers : List (String × String)}

/-- What is left of a slot that was written: values of blanks alone are empty, and the
legacy schema has no headers. -/
def asRead (s : Slot) : Version → Slot
  | .current => { s with headers := keptValues s.headers }
  | .legacy => s.bare

/-- A written slot is read back, in the older version without its headers. -/
theorem decode_encode_asRead (hput : Url.parse putUrl.toString = .ok putUrl)
    (hget : Url.parse getUrl.toString = .ok getUrl) (version : Version) :
    let s := ofHeaders putUrl getUrl headers
    decode (s.encode version) = .ok (s.asRead version) := by
  intro s
  have hputUrl : s.putUrl = putUrl := putUrl_ofHeaders putUrl getUrl headers
  have hgetUrl : s.getUrl = getUrl := getUrl_ofHeaders putUrl getUrl headers
  cases version with
  | current => exact (decode_ofHeaders putUrl getUrl headers hput hget).1
  | legacy => exact decode_encode_legacy_eq (hputUrl.symm ▸ hput) (hgetUrl.symm ▸ hget)

/-- The tree of a slot in a schema. -/
def markupIn (s : Slot) : Version → Markup
  | .current => s.markup
  | .legacy => s.legacyMarkup

/-- In both versions a slot is written as a tree of markup. -/
theorem toList_encode_eq (s : Slot) (version : Version) :
    (s.encode version).toList = (s.markupIn version).write := by
  cases version with
  | current => exact toList_encode s
  | legacy => exact toList_encode_legacy s

theorem namesAll_headers (headers : List (String × String)) :
    Markup.namesAll (headers.map headerMarkup) = headers.map fun _ => "header" := by
  induction headers with
  | nil => rfl
  | cons header headers ih => exact congrArg ("header" :: ·) ih

/-- The only elements of a slot are its parts, whatever stands in them. -/
theorem mem_names_markupIn {s : Slot} {version : Version} {name : String}
    (h : name ∈ (s.markupIn version).names) : name ∈ ["slot", "put", "header", "get"] := by
  cases version with
  | legacy =>
      change name ∈ ["slot", "put", "get"] at h
      revert h
      simp only [List.mem_cons]
      tauto
  | current =>
      have hput : ∀ n ∈ s.putMarkup.names, n = "put" ∨ n = "header" := by
        unfold putMarkup
        dsimp only
        split
        · simp [Markup.names, putName]
        · simp [Markup.names, namesAll_headers, putName]
      simp only [markupIn, markup, getMarkup, Markup.names, Markup.namesAll, List.mem_cons,
        List.mem_append] at h
      simp only [List.mem_cons]
      have := hput name
      tauto

/-- A slot is not taken for an error. -/
theorem decodeFileTooLarge_encode (s : Slot) (version : Version) :
    FileTooLarge.decode (s.encode version) = .ok none := by
  have hroot := root_eq_ok_iff.1 (root_write (s.toList_encode_eq version))
  refine (FileTooLarge.decode_placed_or_none.2 _ _ hroot).2 fun e he hone => ?_
  have hname : e.name ∈ (s.markupIn version).names := by
    rw [← Markup.map_name_inOrder _ none]
    exact List.mem_map_of_mem he
  have hnames := mem_names_markupIn hname
  rw [hone.1] at hnames
  revert hnames
  decide

end Slot

/-! ## errors are not slots -/

namespace FileTooLarge

/-- A written error is read back. -/
theorem decode_encode (limit : FileTooLarge) : decode limit.encode = .ok (some limit) :=
  decode_of_find? (root_eq_ok_iff.1 (root_write (toList_encode limit)))
    (find?_of_pos (isOne_markup limit none))

/-- An error is not taken for a slot. -/
theorem decodeSlot_encode (limit : FileTooLarge) :
    Slot.decode limit.encode = .error (.missing "missing put element") := by
  have hversion : versionOf (limit.markup.element none) = .ok limit.version := versionOf_eq rfl
  have hput : (limit.markup.element none).child? "put" = none := rfl
  unfold Slot.decode
  rw [root_write (toList_encode limit)]
  simp only [bind, Except.bind, hversion, hput, required]

end FileTooLarge

/-! ## replies that are shown -/

namespace Command

/-- What is shown of a slot. -/
def slotText (s : Slot) : String :=
  "put " ++ s.putUrl.toString ++ "\n" ++
    String.join (s.headers.map fun (name, value) => "header " ++ name ++ ": " ++ value ++ "\n") ++
    "get " ++ s.getUrl.toString ++ "\n"

/-- What is shown of an error. -/
def limitText (limit : FileTooLarge) : String :=
  "file too large: max " ++ count limit.maxFileSize ++ " bytes\n"

/-- A reply that is no error is described as a slot. -/
theorem describe_of_slot {reply : String} (h : FileTooLarge.decode reply = .ok none) :
    describe reply = (Slot.decode reply).map slotText := by
  unfold describe
  rw [h]
  cases Slot.decode reply <;> rfl

/-- A written error is described by its limit. -/
theorem describe_encode (limit : FileTooLarge) : describe limit.encode = .ok (limitText limit) := by
  unfold describe
  rw [FileTooLarge.decode_encode]
  rfl

/-- Wherever a file has this text, showing it reads the file, prints that and goes well. -/
def Shows (reply text : String) : Prop :=
  ∀ (σ : Type) (answer : Answerer σ) (s : σ) (path : String),
    (answer (.readFile path) s).1 = .ok (Text.encode reply.toList) →
      (decode path).run.turns answer s =
          [⟨.readFile path, .ok (Text.encode reply.toList)⟩, ⟨.print text, ()⟩] ∧
        ((decode path).run.run answer s).1 = .ok ()

/-- A file is read as its text. -/
theorem readText_of_encode {σ : Type} {answer : Answerer σ} {s : σ} {path text : String}
    (hfile : (answer (.readFile path) s).1 = .ok (Text.encode text.toList)) :
    (Settings.readText path).turns answer s =
        [⟨.readFile path, .ok (Text.encode text.toList)⟩] ∧
      (Settings.readText path).run answer s = (.ok text, (answer (.readFile path) s).2) := by
  unfold Settings.readText
  rw [Job.turns_bind, Job.run_bind, Job.turns_query, Job.run_query, hfile]
  dsimp only
  rw [Text.decode?_encode]
  dsimp only
  rw [String.ofList_toList]
  exact ⟨rfl, rfl⟩

/-- What is shown of a reply is its description. -/
theorem shows_of_describe {reply text : String} (h : describe reply = .ok text) :
    Shows reply text := by
  intro σ answer s path hfile
  obtain ⟨hturns, hrun⟩ := readText_of_encode hfile
  unfold decode
  rw [Attempt.run_lift_bind, Job.turns_bind, Job.run_bind, hturns, hrun]
  dsimp only
  rw [h]
  exact ⟨rfl, rfl⟩

/-- **Replies are told apart**: no slot, whatever its URLs and headers spell out, is taken
for an error, and no error is taken for a slot.  So a slot that was written is shown as the
slot that it is read back as, and an error as its limit. -/
theorem replies_told_apart :
    (∀ (s : Slot) (version : Version), FileTooLarge.decode (s.encode version) = .ok none ∧
      describe (s.encode version) = (Slot.decode (s.encode version)).map slotText) ∧
    (∀ limit : FileTooLarge, (∃ fault, Slot.decode limit.encode = .error fault ∧
        UploadError.ofPayload fault = .malformedReply "missing put element") ∧
      Shows limit.encode (limitText limit)) ∧
    ∀ (putUrl getUrl : Url) (headers : List (String × String)) (version : Version),
      Url.parse putUrl.toString = .ok putUrl → Url.parse getUrl.toString = .ok getUrl →
        let s := Slot.ofHeaders putUrl getUrl headers
        Shows (s.encode version) (slotText (s.asRead version)) := by
  refine ⟨fun s version => ?_, fun limit => ?_, fun putUrl getUrl headers version hput hget => ?_⟩
  · have hnone := s.decodeFileTooLarge_encode version
    exact ⟨hnone, describe_of_slot hnone⟩
  · exact ⟨⟨_, limit.decodeSlot_encode, rfl⟩, shows_of_describe (describe_encode limit)⟩
  · refine shows_of_describe ?_
    rw [describe_of_slot (Slot.decodeFileTooLarge_encode _ version),
      Slot.decode_encode_asRead hput hget]
    rfl

/-- A slot with a header that spells out an error is shown with it. -/
theorem replies_told_apart_spelled :
    let spelled := (⟨.current, 1⟩ : FileTooLarge).encode
    let s := Slot.ofHeaders .loopback .loopback [("Cookie", spelled)]
    Shows (s.encode .current) ("put https://[::1]/\nheader Cookie: " ++ spelled ++
      "\nget https://[::1]/\n") := by
  intro spelled s
  have hshows := replies_told_apart.2.2 .loopback .loopback [("Cookie", spelled)] .current
    Url.parse_loopback Url.parse_loopback
  have htext : slotText (s.asRead .current) = "put https://[::1]/\nheader Cookie: " ++ spelled ++
      "\nget https://[::1]/\n" := by decide +kernel
  exact htext ▸ hshows

end Command

end SlotUpload
