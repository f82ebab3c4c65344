import SlotUpload.Certificate.Der
import SlotUpload.Certificate.Pem

/-!
# SlotUpload.Certificate.Root

Certificates that may be trusted.  A certificate is a sequence of its contents,
the kind of its signature, and the signature; the contents are those of version
3, which may end with extensions, or of version 1.
-/

namespace SlotUpload.Certificate

/-! ## extensions -/

/-- What a certificate says beyond its fixed contents. -/
structure Extension where
  identifier : List UInt8
  value : List UInt8
  deriving DecidableEq, Repr

/-- The text after the mark that says whether an extension is critical, which may
be missing. -/
def afterMark? (s : List UInt8) : Option (List UInt8) :=
  if s.head? = some booleanTag then
    match take? booleanTag s with
    | some ([0xFF], rest) | some ([0x00], rest) => some rest
    | _ => none
  else some s

/-- The extension that the content of a sequence holds. -/
def extension? (s : List UInt8) : Option Extension := do
  let (identifier, s) ← take? identifierTag s
  let value ← whole? bytesTag (← afterMark? s)
  return { identifier, value }

namespace Extension

/-- What all identifiers of standard extensions begin with. -/
def standard : List UInt8 := [0x55, 0x1D]

def keyUsage : UInt8 := 15

/-- The standard extensions that are understood: key usage, other names of the
subject, basic constraints, name constraints, where revocations are published,
and extended key usage. -/
def understood : List (List UInt8) :=
  [keyUsage, 17, 19, 30, 31, 37].map fun n => standard ++ [n]

/-- May a certificate have the extension after others with the given
identifiers?  One that is understood comes once and, unless it is the key usage,
holds a sequence; any other is passed over, as a root is trusted as it is. -/
def fits (seen : List (List UInt8)) (e : Extension) : Bool :=
  !understood.contains e.identifier ||
    (!seen.contains e.identifier &&
      (e.identifier == standard ++ [keyUsage] || (whole? sequenceTag e.value).isSome))

/-- May a certificate have these extensions? -/
def allFit (seen : List (List UInt8)) : List Extension → Bool
  | [] => true
  | e :: es => e.fits seen && allFit (e.identifier :: seen) es

end Extension

/-- Do the contents of a certificate end with proper extensions, or with none? -/
def isEnd (s : List UInt8) : Bool :=
  s.isEmpty ||
    (match (whole? (partTag 3) s).bind (whole? sequenceTag) with
      | none => false
      | some list =>
        match (all? sequenceTag list.length list).bind (·.mapM extension?) with
        | some extensions => Extension.allFit [] extensions
        | none => false)

/-! ## certificates -/

/-- The contents of a certificate and the kind of its signature, which must be a
whole number of bytes. -/
def signed? (bytes : List UInt8) : Option (List UInt8 × List UInt8) := do
  let (contents, s) ← take? sequenceTag (← whole? sequenceTag bytes)
  let (kind, s) ← take? sequenceTag s
  match ← whole? bitsTag s with
  | 0 :: _ => some (contents, kind)
  | _ => none

/-- The tags of issuer, validity, subject and public key. -/
def partyTags : List UInt8 := [sequenceTag, sequenceTag, sequenceTag, sequenceTag]

/-- Are these the contents of a certificate of version 3 with this kind of
signature? -/
def isVersion3 (kind contents : List UInt8) : Bool :=
  let afterParties? : Option (List UInt8) := do
    let (version, s) ← take? (partTag 0) contents
    let (_, s) ← take? integerTag s
    let (named, s) ← take? sequenceTag s
    if whole? integerTag version = some [2] ∧ named = kind then skip? partyTags s else none
  afterParties?.any isEnd

/-- Are these the contents of a certificate of version 1? -/
def isVersion1 (contents : List UInt8) : Bool :=
  skip? (integerTag :: sequenceTag :: partyTags) contents == some []

/-- Do bytes have the outline of a certificate? -/
def isCertificate (bytes : List UInt8) : Bool :=
  match signed? bytes with
  | some (contents, kind) => isVersion3 kind contents || isVersion1 contents
  | none => false

/-! ## files -/

/-- Can a PEM file be read, and are all its certificates proper ones? -/
def isCertificateFile (file : List UInt8) : Bool :=
  match sections file with
  | .error _ => false
  | .ok found => found.all fun s => s.label != certificateLabel || isCertificate s.content

/-- Does a text occur in another? -/
def occursIn (part : List UInt8) : List UInt8 → Bool
  | [] => part.isEmpty
  | b :: bs => part.isPrefixOf (b :: bs) || occursIn part bs

/-- Does a file claim to hold a certificate? -/
def hasMarker (file : List UInt8) : Bool := occursIn (ascii "-----BEGIN CERTIFICATE-----") file

end SlotUpload.Certificate
