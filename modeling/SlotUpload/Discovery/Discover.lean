import SlotUpload.Job.Basic

/-!
# SlotUpload.Discovery.Discover

Finding an upload service.  The items of the session's server are asked in order
until one is an upload service, which becomes the default; items that cannot be
asked are passed over.
-/

namespace SlotUpload.Discovery

/-- What is logged when a service is found. -/
def foundEntry (s : UploadService) : Log.Entry :=
  { level := .info
    message := "upload service discovered"
    fields :=
      [("address", s.address), ("version", s.version.namespaceName),
       ("max_file_size",
         match s.maxFileSize with
         | some n => String.ofList (Text.digits n.toNat)
         | none => "unbounded")] }

/-- What is logged when an entity cannot be asked. -/
def failedEntry (level : Log.Level) (message entity : String) (causes : Causes) : Log.Entry :=
  { level, message, fields := [("entity", entity), ("error", causes.line)] }

/-- Asks items in order until one is an upload service. -/
def search : List String → Job Bool
  | [] => pure false
  | item :: items => do
    match ← Job.query (.info item) with
    | .error causes =>
      Job.query (.log (failedEntry .warn "failed to discover entity info" item causes))
      search items
    | .ok info =>
      match info.uploadService? with
      | none => search items
      | some service =>
        Job.query (.log (foundEntry service))
        Job.query (.cache (some service))
        return true

/-- Looks for an upload service among the items of a server; tells whether there
is one. -/
def discover (server : String) : Job Bool := do
  match ← Job.query (.items server) with
  | .error causes =>
    Job.query (.log (failedEntry .debug "failed to discover items" server causes))
    return false
  | .ok items => search items

/-- Looks for an upload service unless one is known. -/
def ensure (server : String) : Job Bool := do
  match ← Job.query .cached with
  | some _ => return true
  | none => discover server

/-- Forgets the known service, which another session found, and looks again. -/
def reconnect (server : String) : Job Unit := do
  Job.query (.cache none)
  if !(← discover server) then
    Job.query (.log
      { level := .warn
        message := "no upload service after reconnect"
        fields := [("server", server)] })

/-- The service at an address, or the default one if there is no address. -/
def resolve (address : Option String) : Attempt UploadService := do
  let known ← Attempt.query .cached
  match address with
  | none =>
    match known with
    | some service => return service
    | none => throw .noService
  | some address =>
    match known.filter (·.address = address) with
    | some service => return service
    | none =>
      match ← Attempt.query (.info address) with
      | .error causes => throw (.negotiationFailed causes)
      | .ok info =>
        match info.uploadService? with
        | some service => return service
        | none =>
          throw (.invalidArgument
            ("there is no HTTP upload service running at " ++ Text.quoted address))

end SlotUpload.Discovery
