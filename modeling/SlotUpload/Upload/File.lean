import SlotUpload.Upload.Stream

/-!
# SlotUpload.Upload.File

Uploading files.  A file is examined and opened before a service is asked, so
that one that cannot be read costs no slot.
-/

namespace SlotUpload.Upload

/-- The size that a directory shows. -/
def directorySize : Nat := 4096

/-- The size that a file shows. -/
def sizeOf : FileNode → UInt64
  | .file content => UInt64.ofNat content.length
  | .directory _ => UInt64.ofNat directorySize

/-- The bytes that reading gives. -/
def contentOf : FileNode → List UInt8
  | .file content => content
  | .directory _ => []

/-- A file that cannot be sent. -/
def unusable (path : String) (e : FileError) : UploadError :=
  .invalidArgument (path ++ ": " ++ e.message)

/-- A path that leads to no file. -/
def notFile (path : String) : UploadError :=
  .invalidArgument ("the path " ++ path ++ " is not a file")

/-- Asks for a slot for a file and uploads the file there; gives the URL to
share. -/
def uploadFile (blockSize : Nat) (path : String) (wanted : Bool) : Attempt Url := do
  match ← Attempt.query (.examine path) with
  | .error e => throw (unusable path e)
  | .ok (.directory _) => throw (notFile path)
  | .ok (.file content) =>
    match ← Attempt.query (.openFile path) with
    | .error e => throw (unusable path e)
    | .ok node =>
      uploadStream blockSize (contentOf node) ((Path.fileName? path).getD "file")
        (sizeOf (.file content)) wanted

/-- Uploads a file to a slot; gives the number of bytes. -/
def putFile (blockSize : Nat) (slot : Slot) (path : String) (wanted : Bool) : Attempt UInt64 := do
  match ← Attempt.query (.openFile path) with
  | .error e => throw (.transferFailed ["open " ++ path, e.message])
  | .ok node =>
    putStream blockSize slot (contentOf node) (sizeOf node) wanted
    return sizeOf node

end SlotUpload.Upload
