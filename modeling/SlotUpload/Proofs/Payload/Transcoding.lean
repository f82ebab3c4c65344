import SlotUpload.Proofs.Payload.Namespace

/-!
# SlotUpload.Proofs.Payload.Transcoding

Slots that go from one schema to the other.  The legacy schema has the URLs of a slot as the
texts of elements and nothing else.  The text of a URL is neither empty nor blank, nor are
there blanks at its ends, so it is read from an element as it was written
(`readUrl_kept_toString`).

So a slot of either schema keeps its URLs in the legacy one and loses its headers; what is
left of it after that is left unchanged by both schemata (`decode_transcoded`).
-/

namespace SlotUpload

open Xml Payload

/-- Is a URL that can be read from some text read from its own? -/
def Url.ReadBack (u : Url) : Prop := ∀ text, Url.parse text = .ok u → Url.parse u.toString = .ok u

/-- The text of a URL that was read does not vanish in an element. -/
theorem Url.not_vanishes_toString {text : String} {u : Url} (h : Url.parse text = .ok u) :
    ¬ Vanishes u.toString := by
  rintro ⟨hne, hblank⟩
  have htrim : Text.trim u.toString.toList = [] := Text.trim_eq_nil_iff.2 hblank
  have hself : Text.trimmed u.toString = u.toString := Url.trimmed_toString_of_parse h
  rw [Text.trimmed, htrim] at hself
  exact hne hself.symm

namespace Slot

variable {document : String} {s : Slot}

/-! ## URLs that are read -/

/-- A URL that was read is one that some text spells. -/
theorem exists_parse_of_readUrl {field : String} {raw : Option String} {u : Url}
    (h : readUrl field raw = .ok u) : ∃ text, Url.parse text = .ok u := by
  unfold readUrl at h
  dsimp only at h
  split at h
  · contradiction
  · cases hparse : Url.parse (Text.trimmed (raw.getD "")) with
    | error fault => simp [hparse, Except.mapError] at h
    | ok u' =>
        have hu : u' = u := by simpa [hparse, Except.mapError] using h
        exact ⟨_, hu ▸ hparse⟩

/-- The URLs of a slot that was read are URLs that were read. -/
theorem exists_parse_of_decode (h : decode document = .ok s) :
    (∃ text, Url.parse text = .ok s.putUrl) ∧ ∃ text, Url.parse text = .ok s.getUrl := by
  rw [decode_eq_bind, root_bind_eq_ok_iff] at h
  obtain ⟨root, -, hread⟩ := h
  obtain ⟨version, -, hread⟩ := bind_eq_ok_iff.1 hread
  obtain ⟨put, -, hread⟩ := bind_eq_ok_iff.1 hread
  obtain ⟨get, -, hread⟩ := bind_eq_ok_iff.1 hread
  obtain ⟨putUrl, hput, hread⟩ := bind_eq_ok_iff.1 hread
  obtain ⟨getUrl, hget, hread⟩ := bind_eq_ok_iff.1 hread
  obtain ⟨headers, -, hread⟩ := bind_eq_ok_iff.1 hread
  have hs : ofHeaders putUrl getUrl headers = s := Except.ok.inj hread
  have hputUrl : s.putUrl = putUrl := hs ▸ putUrl_ofHeaders putUrl getUrl headers
  have hgetUrl : s.getUrl = getUrl := hs ▸ getUrl_ofHeaders putUrl getUrl headers
  rw [hputUrl, hgetUrl]
  exact ⟨exists_parse_of_readUrl hput, exists_parse_of_readUrl hget⟩

/-! ## the legacy schema -/

/-- The slot as far as the legacy schema has room for it. -/
def bare (s : Slot) : Slot := { putUrl := s.putUrl, getUrl := s.getUrl }

/-- The tree of a slot in the legacy schema. -/
def legacyMarkup (s : Slot) : Markup :=
  .opened slotName { list := [xmlns .legacy], nodup := List.nodup_singleton _ } ""
    [textMarkup putName s.putUrl.toString, textMarkup getName s.getUrl.toString]

/-- A slot is written in the legacy schema as its tree. -/
theorem toList_encode_legacy (s : Slot) : (s.encode .legacy).toList = s.legacyMarkup.write := by
  have hput : (textElement "put" s.putUrl.toString).toList = _ :=
    (write_textMarkup putName s.putUrl.toString).symm
  have hget : (textElement "get" s.getUrl.toString).toList = _ :=
    (write_textMarkup getName s.getUrl.toString).symm
  unfold encode
  dsimp only
  simp only [String.toList_append, hput, hget, legacyMarkup, Markup.write, Markup.writeAll,
    Tag.write, Fields.write, Fields.writeList, List.append_assoc]
  rfl

/-- A URL is read from the text of an element as it was written. -/
theorem readUrl_kept_toString {field : String} {u : Url} (h : Url.parse u.toString = .ok u) :
    readUrl field (some (kept u.toString)) = .ok u := by
  rw [kept_eq_self_iff.2 (Url.not_vanishes_toString h)]
  exact readUrl_toString h

/-- A slot is read back from the legacy schema without its headers. -/
theorem decode_encode_legacy_eq (hput : Url.parse s.putUrl.toString = .ok s.putUrl)
    (hget : Url.parse s.getUrl.toString = .ok s.getUrl) :
    decode (s.encode .legacy) = .ok s.bare := by
  have hversion : versionOf (s.legacyMarkup.element none) = .ok .legacy := versionOf_eq rfl
  have hputText : (s.legacyMarkup.element none).child? "put" =
      some ((textMarkup putName s.putUrl.toString).element
        (some Version.legacy.namespaceName)) := rfl
  have hgetText : (s.legacyMarkup.element none).child? "get" =
      some ((textMarkup getName s.getUrl.toString).element
        (some Version.legacy.namespaceName)) := rfl
  have hkept : ∀ name text inherited,
      rawUrl? .legacy ((textMarkup name text).element inherited) = some (kept text) :=
    fun _ _ _ => rfl
  unfold decode
  rw [root_write (toList_encode_legacy s)]
  simp only [bind, Except.bind, hversion, hputText, hgetText, required, hkept,
    readUrl_kept_toString hput, readUrl_kept_toString hget, readHeaders]
  rfl

/-- A slot without headers is read back from either schema as it was. -/
theorem decode_encode_bare (hput : Url.parse s.putUrl.toString = .ok s.putUrl)
    (hget : Url.parse s.getUrl.toString = .ok s.getUrl) (version : Version) :
    decode (s.bare.encode version) = .ok s.bare := by
  cases version with
  | current => exact decode_encode (s := s.bare) hput hget List.nodup_nil
  | legacy => exact decode_encode_legacy_eq (s := s.bare) hput hget

/-- **Transcoding**: whatever document a slot was read from, in the legacy schema it keeps
its URLs and loses its headers, and neither schema changes what is left of it. -/
theorem decode_transcoded (h : decode document = .ok s) (hput : s.putUrl.ReadBack)
    (hget : s.getUrl.ReadBack) :
    ∃ s', decode (s.encode .legacy) = .ok s' ∧ s'.putUrl = s.putUrl ∧ s'.getUrl = s.getUrl ∧
      s'.headers = [] ∧ ∀ version, decode (s'.encode version) = .ok s' := by
  obtain ⟨⟨putText, hputText⟩, getText, hgetText⟩ := exists_parse_of_decode h
  have hputBack := hput putText hputText
  have hgetBack := hget getText hgetText
  exact ⟨s.bare, decode_encode_legacy_eq hputBack hgetBack, rfl, rfl, rfl,
    decode_encode_bare hputBack hgetBack⟩

/-- A slot of the current schema with a header. -/
theorem decode_transcoded_cookie :
    let s := ofHeaders Url.loopback Url.loopback [("Cookie", "a=<1> & \"b\"")]
    (decode (s.encode .current) = .ok s ∧ Url.loopback.ReadBack) ∧
      ∃ s', decode (s.encode .legacy) = .ok s' ∧ s'.putUrl = .loopback ∧
        s'.getUrl = .loopback ∧ s'.headers = [] ∧
          ∀ version, decode (s'.encode version) = .ok s' := by
  intro s
  have hback : Url.loopback.ReadBack := fun _ _ => Url.parse_loopback
  have hdecode : decode (s.encode .current) = .ok s :=
    decode_encode Url.parse_loopback Url.parse_loopback (by decide)
  exact ⟨⟨hdecode, hback⟩, decode_transcoded hdecode hback hback⟩

end Slot

end SlotUpload
