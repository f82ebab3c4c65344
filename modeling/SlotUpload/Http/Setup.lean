import SlotUpload.Certificate.Root
import SlotUpload.Job.Basic
import SlotUpload.Settings.Basic

/-!
# SlotUpload.Http.Setup

What has to be right before anything can be transferred: the files of
certificates are there and hold certificates, and the name of the program may
stand in a header.
-/

namespace SlotUpload.Http

/-- Reads the files of certificates in order. -/
def readCertificates : List String → Job (Except Causes (List (List UInt8)))
  | [] => return .ok []
  | path :: paths => do
    match ← Job.query (.readFile path) with
    | .error e => return .error ["read ca cert " ++ path, e.message]
    | .ok file =>
      if !Certificate.hasMarker file then return .error ["no PEM certificate in " ++ path]
      match ← readCertificates paths with
      | .error causes => return .error causes
      | .ok files => return .ok (file :: files)

/-- Checks that the settings can be used for transfers, and takes them over. -/
def setUp (s : Settings) : Job (Except Causes Unit) := do
  match ← readCertificates s.certificates with
  | .error causes => return .error causes
  | .ok files =>
    if !isHeaderValue s.agent then
      return .error ["builder error", "failed to parse header value"]
    if !files.all Certificate.isCertificateFile then
      return .error ["builder error", "invalid certificate encoding"]
    Job.query (.introduce s.agent)
    return .ok ()

end SlotUpload.Http
