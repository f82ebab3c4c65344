import SlotUpload.Http.Stats
import SlotUpload.Job.Basic
import SlotUpload.Rehearsal.Script
import SlotUpload.Transfer.Id

/-!
# SlotUpload.Rehearsal.Basic

Rehearsals: jobs run in surroundings that are a value.  The session answers by a
script, files live in a tree, time passes by one millisecond a name, and
everything that is asked for is written down.
-/

namespace SlotUpload

/-- What a session was asked. -/
inductive SessionCall
  | items (address : String)
  | info (address : String)
  | request (recipient payload : String)
  deriving DecidableEq, Repr

/-- Surroundings as a value. -/
structure Rehearsal where
  script : Rehearsal.Script
  /-- What comes of a message. -/
  messenger : Except Causes Unit := .ok ()
  files : FileTree := {}
  service : Option UploadService := none
  ids : IdSource := {}
  now : Moment
  stats : Http.Stats := {}
  /-- The name under which requests are made. -/
  agent : String := ""
  /-- The file that the log goes to. -/
  logFile : Option Place := none
  /-- The listeners of the facade. -/
  listeners : Roster String := []
  /-- What the session was asked; this and the following lists are in order of time. -/
  calls : List SessionCall := []
  messages : List (Destination × String) := []
  notices : List (String × Notice) := []
  log : List Log.Entry := []
  progress : List (UInt64 × UInt64) := []
  output : String := ""
  errors : String := ""

namespace Rehearsal

/-- Takes over a change of the files, if it worked. -/
def change (r : Rehearsal) (result : Except FileError FileTree) :
    Except FileError Unit × Rehearsal :=
  match result with
  | .ok files => (.ok (), { r with files })
  | .error e => (.error e, r)

/-- Writes an entry to the log. -/
def writeLog (r : Rehearsal) (entry : Log.Entry) : Rehearsal :=
  { r with
    log := r.log ++ [entry]
    files :=
      match r.logFile with
      | some place => r.files.append place (Text.encode (entry.line r.now).toList)
      | none => r.files }

/-- Starts the log in a file. -/
def startLog (r : Rehearsal) (path : String) : Except FileError Unit × Rehearsal :=
  match r.files.create path with
  | .ok (place, files) => (.ok (), { r with files, logFile := some place })
  | .error e => (.error e, r)

/-- Answers a query; nobody can be reached over the network. -/
def answer : Answerer Rehearsal
  | .items address, r => (r.script.items, { r with calls := r.calls ++ [.items address] })
  | .info address, r => (r.script.info address, { r with calls := r.calls ++ [.info address] })
  | .request recipient payload, r =>
    let (a, script) := r.script.request recipient payload
    (a, { r with script, calls := r.calls ++ [.request recipient payload] })
  | .deliver destination text, r =>
    (r.messenger, { r with messages := r.messages ++ [(destination, text)] })
  | .cached, r => (r.service, r)
  | .cache service, r => ((), { r with service })
  | .drawId, r =>
    let (id, ids) := r.ids.draw r.now
    (id, { r with ids, now := ⟨r.now.millis + 1⟩ })
  | .notify notice, r =>
    ((), { r with notices := r.notices ++ r.listeners.map (·, notice) })
  | .log entry, r => ((), r.writeLog entry)
  | .startLog path, r => r.startLog path
  | .examine path, r => (r.files.examine path, r)
  | .openFile path, r => (r.files.examine path, r)
  | .readFile path, r => (r.files.read path, r)
  | .createFile path, r => r.change ((r.files.create path).map (·.2))
  | .appendFile path bytes, r =>
    r.change ((r.files.resolve path).map fun place => r.files.append place bytes)
  | .canonical path, r => (r.files.canonical path, r)
  | .makeDirectories path, r =>
    let (result, files) := r.files.createDirectories path
    (result, { r with files })
  | .introduce agent, r => ((), { r with agent })
  | .exchange request, r => (request.unreached, r)
  | .wait, r => ((), r)
  | .countSent bytes, r => ((), { r with stats := r.stats.addSent bytes })
  | .countReceived bytes, r => ((), { r with stats := r.stats.addReceived bytes })
  | .noteError text, r => ((), { r with stats := r.stats.noteError text })
  | .progress done total, r => ((), { r with progress := r.progress ++ [(done, total)] })
  | .print text, r => ((), { r with output := r.output ++ text })
  | .printError text, r => ((), { r with errors := r.errors ++ text })

end Rehearsal

end SlotUpload
