import SlotUpload.Command.Line
import SlotUpload.Download.File
import SlotUpload.Http.Setup
import SlotUpload.Settings.Load
import SlotUpload.Upload.File

/-!
# SlotUpload.Command.Run

Carrying out command lines.  A run reads the settings, starts the log, and does
what is ordered; it ends with an exit code, and an error is told with all the
errors that led to it.
-/

namespace SlotUpload.Command

/-! ## telling errors -/

/-- A text with further lines set in. -/
def indented (margin : String) (text : String) : String :=
  ("\n" ++ margin).intercalate
    ((Text.pieces (· == '\n') text.toList).map String.ofList)

/-- The causes of an error, numbered if there are several. -/
def causeLines : List String → String
  | [cause] => "\n    " ++ indented "    " cause
  | causes =>
    String.join (causes.zipIdx.map fun (cause, n) =>
      let number := toString n
      "\n" ++ String.ofList (List.replicate (5 - number.length) ' ') ++ number ++ ": " ++
        indented "       " cause)

/-- An error with all that led to it. -/
def report : Causes → String
  | [] => "Error: \n"
  | [text] => "Error: " ++ text ++ "\n"
  | text :: causes => "Error: " ++ text ++ "\n\nCaused by:" ++ causeLines causes ++ "\n"

/-! ## the commands -/

/-- A part of a run, which may fail. -/
abbrev Part (α : Type) := ExceptT Causes Job α

/-- Asks one query. -/
def ask (q : Query) : Part q.Answer := ExceptT.lift (Job.query q)

/-- Opens the log, in a directory that is made if it is missing. -/
def openLog (path : String) : Part Unit := do
  if let some directory := Path.parent? path then
    match ← ask (.makeDirectories directory) with
    | .error e => throw ["create " ++ directory, e.message]
    | .ok () => pure ()
  match ← ask (.startLog path) with
  | .error e => throw ["open " ++ path, e.message]
  | .ok () => return ()

/-- Does a job whose errors are told as `text`; `progress` tells how far it is. -/
def attempt (text : String) (progress : UInt64 → UInt64 → Job Unit) (job : Attempt α) : Part α :=
  ExceptT.mk do
    match ← job.run.onProgress progress with
    | .ok a => return .ok a
    | .error e => return .error (text :: e.chain)

/-- A count as text. -/
def count (n : UInt64) : String := String.ofList (Text.digits n.toNat)

/-- What is logged at the end of a transfer. -/
def finishedEntry (message : String) (fields : List (String × String)) : Log.Entry :=
  { level := .info, message, fields }

/-- Puts a file to a slot. -/
def put (s : Settings) (file : String) (slot : Slot) : Part Unit := do
  ExceptT.mk (Http.setUp s)
  let progress (sent total : UInt64) : Job Unit :=
    Job.query (.printError ("\r" ++ count sent ++ "/" ++ count total ++ " bytes"))
  let size ← attempt ("upload " ++ file) progress
    (Upload.putFile s.blockSize.toNat slot file true)
  ask (.printError "\n")
  ask (.log (finishedEntry "upload finished" [("file", file), ("size", count size)]))
  ask (.print (slot.getUrl.toString ++ "\n"))

/-- Where a file goes that is shared under a URL: into the download directory,
under its own name. -/
def destinationOf (s : Settings) (url : Url) : Except Causes String :=
  if url.fileName.isEmpty then
    .error ["cannot derive a file name from " ++ url.toString ++ "; pass a destination"]
  else .ok (Path.join (s.downloadDirectory.getD "") url.fileName)

/-- Gets a shared file. -/
def get (s : Settings) (url : Url) (destination : Option String) : Part Unit := do
  ExceptT.mk (Http.setUp s)
  let path ←
    match destination with
    | some path => pure path
    | none => ExceptT.mk (.done (destinationOf s url))
  let progress (received _ : UInt64) : Job Unit :=
    Job.query (.printError ("\r" ++ count received ++ " bytes"))
  let size ← attempt ("download " ++ url.toString) progress (Download.getToFile url path)
  ask (.printError "\n")
  ask (.log (finishedEntry "download finished" [("url", url.toString), ("bytes", count size)]))
  ask (.print (path ++ "\n"))

/-- What a reply says, as lines for the user. -/
def describe (reply : String) : Except PayloadError String := do
  match ← FileTooLarge.decode reply with
  | some e => return "file too large: max " ++ count e.maxFileSize ++ " bytes\n"
  | none =>
    let slot ← Slot.decode reply
    return "put " ++ slot.putUrl.toString ++ "\n" ++
      String.join (slot.headers.map fun (name, value) =>
        "header " ++ name ++ ": " ++ value ++ "\n") ++
      "get " ++ slot.getUrl.toString ++ "\n"

/-- Shows what a reply in a file says. -/
def decode (path : String) : Part Unit := do
  match ← ExceptT.lift (Settings.readText path) with
  | .error e => throw ["read " ++ path, e.message]
  | .ok reply =>
    match describe reply with
    | .error e => throw (UploadError.ofPayload e).chain
    | .ok text => ask (.print text)

/-! ## runs -/

/-- The slot that is given on the command line. -/
def slotOf (putUrl getUrl : Url) (headers : List (String × String)) : Slot :=
  headers.foldl (fun slot (name, value) => slot.withHeader name value) { putUrl, getUrl }

/-- Carries out an order. -/
def carryOut (s : Settings) : Order → Part Unit
  | .put file putUrl getUrl headers => put s file (slotOf putUrl getUrl headers)
  | .get url destination => get s url destination
  | .decode reply => decode reply

/-- Carries out a command line; `temporary` is the directory for temporary files. -/
def invoke (temporary : String) (i : Invocation) : Part Unit := do
  let settings ←
    match i.config with
    | some path => ExceptT.mk (Settings.load path)
    | none => pure {}
  openLog (settings.logPath temporary)
  carryOut settings i.order

/-- How the program is used. -/
def usage : String :=
  "Usage: http-upload [OPTIONS] <COMMAND>\n\n" ++
  "Commands:\n" ++
  "  put     Upload a file to an already issued slot\n" ++
  "  get     Download a shared file\n" ++
  "  decode  Decode a raw slot reply and print the slot\n" ++
  "  help    Print this message or the help of the given subcommand(s)\n\n" ++
  "Options:\n" ++
  "  -c, --config <CONFIG>  Path to config file\n" ++
  "  -h, --help             Print help\n" ++
  "  -V, --version          Print version\n"

/-- Name and version of the program. -/
def versionLine : String := "http-upload 0.1.0\n"

/-- Runs the program with the words of a command line; gives the exit code. -/
def program (temporary : String) (words : List String) : Job UInt32 := do
  match readLine words none with
  | .refused =>
    Job.query (.printError usage)
    return 2
  | .help =>
    Job.query (.print usage)
    return 0
  | .version =>
    Job.query (.print versionLine)
    return 0
  | .done invocation =>
    match ← (invoke temporary invocation).run with
    | .ok () => return 0
    | .error causes =>
      Job.query (.printError (report causes))
      return 1

end SlotUpload.Command
