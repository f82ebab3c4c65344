import SlotUpload.Job.Basic
import SlotUpload.Json.Reader
import SlotUpload.Settings.Basic

/-!
# SlotUpload.Settings.Load

Reading settings from a file.  The file holds one JSON record; what is missing
keeps its default, and what is unknown is passed over.
-/

namespace SlotUpload.Settings

open Json in
/-- The fields of the record, in the order that counts when it is a list. -/
def fields : Fields Settings :=
  [("log_file", fun s => return { s with logFile := ← nullable (text "path string") }),
   ("connect_timeout_secs", fun s => return { s with connectTimeout := ← natural "u64" }),
   ("timeout_secs", fun s => return { s with timeout := ← nullable (natural "u64") }),
   ("user_agent", fun s => return { s with agent := ← text "a string" }),
   ("block_size", fun s => return { s with blockSize := ← natural "usize" }),
   ("use_system_proxy", fun s => return { s with useSystemProxy := ← boolean }),
   ("ca_certs", fun s => return { s with certificates := ← list (text "path string") }),
   ("download_dir", fun s => return {
     s with downloadDirectory := ← nullable (text "path string") })]

/-- The settings that a document holds. -/
def ofDocument (document : String) : Except String Settings :=
  (Json.readDocument (Json.record "Config" fields {}) document.toList).mapError
    (·.message document.toList)

/-- The download directory as an absolute path, if it is there. -/
def findDirectory (s : Settings) : Job Settings := do
  match s.downloadDirectory with
  | none => return s
  | some dir =>
    if Path.isAbsolute dir then return s
    match ← Job.query (.canonical dir) with
    | .ok absolute => return { s with downloadDirectory := some absolute }
    | .error _ => return s

/-- The text of a file. -/
def readText (path : String) : Job (Except FileError String) := do
  match ← Job.query (.readFile path) with
  | .error e => return .error e
  | .ok bytes =>
    match Text.decode? bytes with
    | some text => return .ok (String.ofList text)
    | none => return .error .notText

/-- Reads settings from a file and checks them. -/
def load (path : String) : Job (Except Causes Settings) := do
  match ← readText path with
  | .error e => return .error ["read config " ++ path, e.message]
  | .ok document =>
    match ofDocument document with
    | .error text => return .error ["parse config json", text]
    | .ok settings =>
      let settings ← (settings.locate path).trimAgent.findDirectory
      match settings.violation? with
      | some v => return .error [v.message]
      | none => return .ok settings

end SlotUpload.Settings
