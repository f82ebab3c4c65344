import SlotUpload.Payload.Version

/-!
# SlotUpload.Discovery.Service

Upload services: where one is, which schema it speaks, and the largest file it
accepts.  A service that tells no limit accepts files of any size.
-/

namespace SlotUpload

structure UploadService where
  address : String
  version : Version
  maxFileSize : Option UInt64 := none
  deriving DecidableEq, Repr

namespace UploadService

/-- Does the service tell a limit? -/
def isLimited (s : UploadService) : Bool := s.maxFileSize.isSome

/-- Does the service accept a file of this size? -/
def accepts (s : UploadService) (size : UInt64) : Bool :=
  match s.maxFileSize with
  | some limit => size ≤ limit
  | none => true

end UploadService

end SlotUpload
