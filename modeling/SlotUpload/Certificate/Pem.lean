import SlotUpload.Certificate.Base64

/-!
# SlotUpload.Certificate.Pem

Sections of a PEM file: bytes in Base64 between a line that begins a section and
a line that ends it.  What stands outside of sections is left out, and so are
sections that hold something unknown.
-/

namespace SlotUpload.Certificate

/-- The bytes of an ASCII text. -/
def ascii (s : String) : List UInt8 := s.toList.map fun c => UInt8.ofNat c.toNat

/-- One section: what it says it holds, and its bytes. -/
structure Section where
  label : List UInt8
  content : List UInt8
  deriving DecidableEq, Repr

/-- Why a file cannot be cut into sections. -/
inductive PemError
  | badBegin
  | badBase64
  | noEnd
  deriving DecidableEq, Repr

/-- The label of a section that holds a certificate. -/
def certificateLabel : List UInt8 := ascii "CERTIFICATE"

/-- The labels of the sections whose bytes are read. -/
def knownLabels : List (List UInt8) :=
  certificateLabel :: ["PUBLIC KEY", "PRIVATE KEY", "RSA PRIVATE KEY", "EC PRIVATE KEY",
    "X509 CRL", "CERTIFICATE REQUEST", "ECHCONFIG"].map ascii

/-! ## lines -/

def dash : UInt8 := 45

/-- Does the byte end a line? -/
def isLineEnd (b : UInt8) : Bool := b == 10 || b == 13

/-- The lines of a file, without the bytes that end them. -/
def lines (file : List UInt8) : List (List UInt8) :=
  let (last, done) := file.foldl
    (fun (line, done) b => if isLineEnd b then ([], line.reverse :: done) else (b :: line, done))
    ([], [])
  (last.reverse :: done).reverse

/-- What a line starts with that begins a section. -/
def opening : List UInt8 := ascii "-----BEGIN "

/-- The label of a line that begins a section.  Exactly five dashes end the line;
blanks may stand between and after them. -/
def label? (line : List UInt8) : Option (List UInt8) :=
  let tail := (line.reverse.takeWhile fun b => b == dash || b == 32).reverse
  if tail.count dash = 5 then
    some ((line.take (line.length - tail.length) ++ tail.takeWhile (· != dash)).drop opening.length)
  else none

/-- Does a line end the section with this label?  Anything may follow. -/
def ends (label line : List UInt8) : Bool :=
  (ascii "-----END " ++ label ++ ascii "-----").isPrefixOf line

/-! ## sections -/

/-- Reads the lines of a file; `current` is the label of the section that has
begun and `body` what stands in it so far, last line first.  Another beginning
changes the label alone. -/
def sectionsFrom (current : Option (List UInt8)) (body : List (List UInt8)) :
    List (List UInt8) → Except PemError (List Section)
  | [] => if current.isSome then .error .noEnd else .ok []
  | line :: rest =>
    if opening.isPrefixOf line then
      match label? line with
      | some label => sectionsFrom (some label) body rest
      | none => .error .badBegin
    else
      match current with
      | none => sectionsFrom none body rest
      | some label =>
        if !ends label line then sectionsFrom current (line :: body) rest
        else if !knownLabels.contains label then sectionsFrom none [] rest
        else match Base64.decode? body.reverse.flatten with
          | some content => (sectionsFrom none [] rest).map ({ label, content } :: ·)
          | none => .error .badBase64

/-- The sections of a PEM file. -/
def sections (file : List UInt8) : Except PemError (List Section) :=
  sectionsFrom none [] (lines file)

end SlotUpload.Certificate
