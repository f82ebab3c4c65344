import Mathlib.Algebra.Group.Nat.Defs
import SlotUpload.Failure
import SlotUpload.Proofs.Discovery.FirstOffer
import SlotUpload.Proofs.Payload.Namespace

/-!
# SlotUpload.Proofs.Discovery.Limit

The largest size that a service accepts, told before it is asked for a slot or in its
refusal.  Either way it is a text that may denote any number.  A number of more than 64
bits is larger than every file: where an entity tells about itself it therefore counts as
no limit, and in a refusal, which has to tell one, it is a fault.  In both cases what is
accepted or told is what the text denotes (`limit_exact`).
-/

namespace SlotUpload

open Xml Xml.Element Payload Text

/-! ## limits that are advertised -/

namespace DiscoInfo

/-- What entities tell about themselves comes to the same if they have the same features,
however often and in which order, and the limit in the form that counts. -/
theorem uploadService?_congr {info other : DiscoInfo} (haddress : other.address = info.address)
    (hfeatures : ∀ feature, feature ∈ other.features ↔ feature ∈ info.features)
    (hlimit : ∀ version, info.version? = some version →
      other.forms.get? version.namespaceName "max-file-size" =
        info.forms.get? version.namespaceName "max-file-size") :
    other.uploadService? = info.uploadService? := by
  have hhas : ∀ feature, other.hasFeature feature = info.hasFeature feature := by
    intro feature
    rw [hasFeature, hasFeature, Bool.eq_iff_iff, List.contains_iff_mem, List.contains_iff_mem,
      hfeatures]
  have hversion : other.version? = info.version? := by
    simp only [version?, hhas]
  unfold uploadService?
  rw [hversion]
  cases h : info.version? with
  | none => rfl
  | some version => rw [Option.map_some, Option.map_some, haddress, hlimit version h]

end DiscoInfo

/-- A service accepts files up to the number that its limit denotes, also if the limit is
left out because no file can be larger. -/
theorem UploadService.accepts_iff_le_value {service : UploadService} {m : Numeral}
    (h : service.maxFileSize = count? m.text) (size : UInt64) :
    service.accepts size = true ↔ size.toNat ≤ m.value := by
  have hsize : size.toNat < UInt64.size := size.toNat_lt_size
  rw [m.count?_text] at h
  unfold accepts
  rw [h]
  split
  · next limit hlimit =>
      obtain ⟨hvalue, hofNat⟩ := Option.ite_none_right_eq_some.1 hlimit
      have hlimit : limit.toNat = m.value := by
        rw [← Option.some.inj hofNat, UInt64.toNat_ofNat_of_lt' hvalue]
      rw [decide_eq_true_iff, UInt64.le_iff_toNat_le, hlimit]
  · next hnone =>
      have hvalue : ¬ m.value < UInt64.size := by simpa using hnone
      exact iff_of_true rfl (Nat.le_of_lt (Nat.lt_of_lt_of_le hsize (Nat.le_of_not_lt hvalue)))

/-- A service keeps the limit in the form of its schema. -/
theorem DiscoInfo.exists_of_supportsUpload {info : DiscoInfo} (h : info.supportsUpload = true) :
    ∃ service version, info.uploadService? = some service ∧ info.version? = some version ∧
      service.maxFileSize =
        (info.forms.get? version.namespaceName "max-file-size").bind count? := by
  rw [← info.isSome_uploadService?] at h
  obtain ⟨service, hservice⟩ := Option.isSome_iff_exists.1 h
  obtain ⟨version, hversion, hmade⟩ := Option.map_eq_some_iff.1 hservice
  exact ⟨service, version, hservice, hversion, hmade ▸ rfl⟩

/-! ## limits in refusals -/

namespace FileTooLarge

variable {document : String} {root error field : Element} {m : Numeral}

/-- What is found first is an error of the wanted kind. -/
theorem isOne_of_find? (h : root.find? isOne = some error) : IsOne error := by
  rw [find?_eq_find?_inOrder] at h
  exact isOne_iff.1 (List.find?_some h)

/-- What a refusal tells is what the first error in it denotes. -/
theorem decode_eq_read (hroot : parse document = .ok root)
    (herror : root.find? isOne = some error) : decode document = (read error).map some := by
  unfold decode read
  rw [root_eq_ok_iff.2 hroot]
  simp only [bind, Except.bind, herror]
  cases versionOf error with
  | error e => rfl
  | ok version =>
      dsimp only
      cases readNumber "max-file-size" ((error.child? "max-file-size").map (·.text)) <;> rfl

/-- An error with a number for its limit is read as this number, or not at all. -/
theorem read_numeral {version : Version} (hversion : error.xmlns = some version.namespaceName)
    (hfield : error.child? "max-file-size" = some field) (htext : field.text = m.text) :
    read error = if m.value < UInt64.size then
      .ok { version, maxFileSize := UInt64.ofNat m.value }
    else .error (.invalidNumber "max-file-size" m.text) := by
  unfold read
  simp only [bind, Except.bind, versionOf_eq hversion, hfield, Option.map_some, htext, readNumber,
    m.count?_text]
  by_cases hvalue : m.value < UInt64.size
  · rw [if_pos hvalue, if_pos hvalue]
    rfl
  · rw [if_neg hvalue, if_neg hvalue]

end FileTooLarge

namespace Discovery

/-- **Limits are exact.**  Whatever number a text denotes: a service that advertises it in
the form of its schema accepts the files up to this size and no others, however its
features are listed and whatever other forms there are; and a refusal that has it for its
limit tells this number if it has 64 bits, and is malformed otherwise. -/
theorem limit_exact (m : Numeral) :
    (∀ info : DiscoInfo, info.supportsUpload = true →
      ∃ service version, info.uploadService? = some service ∧ info.version? = some version ∧
        (info.forms.get? version.namespaceName "max-file-size" = some m.text →
          ∀ size : UInt64, service.accepts size = true ↔ size.toNat ≤ m.value)) ∧
    (∀ info other : DiscoInfo, other.address = info.address →
      (∀ feature, feature ∈ other.features ↔ feature ∈ info.features) →
      (∀ version, info.version? = some version →
        other.forms.get? version.namespaceName "max-file-size" =
          info.forms.get? version.namespaceName "max-file-size") →
      other.uploadService? = info.uploadService?) ∧
    ∀ (document : String) (root error field : Element), parse document = .ok root →
      root.find? FileTooLarge.isOne = some error →
      error.child? "max-file-size" = some field → field.text = m.text →
        (m.value < 2 ^ 64 → ∃ limit : FileTooLarge, limit.maxFileSize.toNat = m.value ∧
          error.xmlns = some limit.version.namespaceName ∧
          FileTooLarge.decode document = .ok (some limit)) ∧
        (2 ^ 64 ≤ m.value → ∃ fault, FileTooLarge.decode document = .error fault ∧
          UploadError.ofPayload fault = .malformedReply fault.message) := by
  refine ⟨?_, fun info other => DiscoInfo.uploadService?_congr, ?_⟩
  · intro info hsupports
    obtain ⟨service, version, hservice, hversion, hlimit⟩ :=
      DiscoInfo.exists_of_supportsUpload hsupports
    refine ⟨service, version, hservice, hversion, fun htext => ?_⟩
    rw [htext] at hlimit
    exact UploadService.accepts_iff_le_value hlimit
  · intro document root error field hroot herror hfield htext
    obtain ⟨-, version, hversion⟩ := FileTooLarge.isOne_of_find? herror
    rw [FileTooLarge.decode_eq_read hroot herror,
      FileTooLarge.read_numeral hversion hfield htext]
    constructor
    · intro hvalue
      have hlt : m.value < UInt64.size := hvalue
      rw [if_pos hlt]
      exact ⟨_, UInt64.toNat_ofNat_of_lt' hvalue, hversion, rfl⟩
    · intro hvalue
      have hle : UInt64.size ≤ m.value := hvalue
      rw [if_neg (Nat.not_lt.2 hle)]
      exact ⟨_, rfl, rfl⟩

/-- A number of 65 bits, advertised by an entity that offers both schemata and told in a
refusal; and a number with a leading zero in the same places. -/
theorem limit_exact_huge :
    let huge : Numeral :=
      { before := [' '], plus := true, digits := "18446744073709551616".toList, after := ['\n'] }
    let small : Numeral := { digits := ['0', '9'] }
    let entity (m : Numeral) : DiscoInfo :=
      { address := "upload.montague.lit"
        features := [Version.legacy.namespaceName, "x", Version.current.namespaceName]
        forms := [(Version.legacy.namespaceName, [("max-file-size", "1")]),
          (Version.current.namespaceName, [("max-file-size", m.text)])] }
    let refusal (m : Numeral) : Markup :=
      .opened FileTooLarge.errorName { list := [xmlns .legacy] } ""
        [textMarkup FileTooLarge.limitName m.text]
    (∃ service, (entity huge).uploadService? = some service ∧
      ∀ size, service.accepts size = true) ∧
    (∃ service, (entity small).uploadService? = some service ∧
      service.accepts 9 = true ∧ service.accepts 10 = false) ∧
    (∃ fault, FileTooLarge.decode (String.ofList (refusal huge).write) = .error fault ∧
      UploadError.ofPayload fault = .malformedReply fault.message) ∧
    ∃ limit, FileTooLarge.decode (String.ofList (refusal small).write) = .ok (some limit) ∧
      limit.maxFileSize = 9 := by
  intro huge small entity refusal
  have hparse : ∀ m, parse (String.ofList (refusal m).write) = .ok ((refusal m).element none) :=
    fun m => root_eq_ok_iff.1 (root_write String.toList_ofList)
  have hhuge : huge.value = 18446744073709551616 := by decide +kernel
  have hsmall : small.value = 9 := by decide +kernel
  refine ⟨?_, ?_, ?_, ?_⟩
  · obtain ⟨service, version, hservice, hversion, haccepts⟩ :=
      (limit_exact huge).1 (entity huge) (by decide +kernel)
    obtain rfl : Version.current = version := Option.some.inj hversion
    refine ⟨service, hservice, fun size => (haccepts rfl size).2 ?_⟩
    rw [hhuge]
    exact Nat.le_of_lt size.toNat_lt_size
  · obtain ⟨service, version, hservice, hversion, haccepts⟩ :=
      (limit_exact small).1 (entity small) (by decide +kernel)
    obtain rfl : Version.current = version := Option.some.inj hversion
    have hnine : service.accepts 9 = true := (haccepts rfl 9).2 (by rw [hsmall]; decide)
    have hten : ¬ service.accepts 10 = true := fun h => absurd ((haccepts rfl 10).1 h) (by
      rw [hsmall]
      decide)
    exact ⟨service, hservice, hnine, Bool.not_eq_true _ ▸ hten⟩
  · exact ((limit_exact huge).2.2 _ _ _ _ (hparse huge) rfl rfl (by decide +kernel)).2
      (Nat.le_of_eq hhuge.symm)
  · obtain ⟨limit, hvalue, -, hdecode⟩ :=
      ((limit_exact small).2.2 _ _ _ _ (hparse small) rfl rfl (by decide +kernel)).1
        (by rw [hsmall]; decide)
    exact ⟨limit, hdecode, UInt64.toNat_inj.1 (hvalue.trans hsmall)⟩

end Discovery

end SlotUpload
