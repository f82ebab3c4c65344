import SlotUpload.Files.Path
import SlotUpload.Text.Blank
import SlotUpload.Text.Numeral

/-!
# SlotUpload.Settings.Basic

Settings of the program, what they are when nothing is set, and the bounds they
have to keep.
-/

namespace SlotUpload

structure Settings where
  logFile : Option String := none
  /-- Seconds within which a connection has to be made. -/
  connectTimeout : UInt64 := 10
  /-- Seconds that a whole request may take, if there is a limit. -/
  timeout : Option UInt64 := none
  /-- The name under which the program introduces itself to servers. -/
  agent : String := "http-upload/0.1.0"
  /-- The number of bytes that are read and sent at a time. -/
  blockSize : UInt64 := 4096
  useSystemProxy : Bool := false
  /-- Files of certificates to be trusted beside the usual ones. -/
  certificates : List String := []
  downloadDirectory : Option String := none
  /-- The file that the settings were read from. -/
  source : Option String := none
  deriving DecidableEq, Repr

namespace Settings

/-- The largest block. -/
def maxBlockSize : UInt64 := 1048576

/-- A bound that settings do not keep. -/
inductive Violation
  | blockSize (n : UInt64)
  | connectTimeout
  | timeout
  deriving DecidableEq, Repr

def Violation.message : Violation → String
  | blockSize n =>
    s!"block_size must be between 1 and {maxBlockSize.toNat}, got {n.toNat}"
  | connectTimeout => "connect_timeout_secs must be positive"
  | timeout => "timeout_secs must be positive when set"

/-- The first bound that the settings do not keep. -/
def violation? (s : Settings) : Option Violation :=
  if s.blockSize = 0 ∨ maxBlockSize < s.blockSize then some (.blockSize s.blockSize)
  else if s.connectTimeout = 0 then some .connectTimeout
  else if s.timeout = some 0 then some .timeout
  else none

/-- The settings with the name of the program trimmed; a blank name is none. -/
def trimAgent (s : Settings) : Settings :=
  let agent := Text.trimmed s.agent
  { s with agent := if agent.isEmpty then ({} : Settings).agent else agent }

/-- The settings as read from a file: relative paths of certificates start at
its directory. -/
def locate (s : Settings) (path : String) : Settings :=
  { s with
    source := some path
    certificates :=
      match Path.parent? path with
      | some base => s.certificates.map (Path.join base)
      | none => s.certificates }

/-- Where the log goes; `temporary` is the directory for temporary files. -/
def logPath (s : Settings) (temporary : String) : String :=
  s.logFile.getD (Path.join (Path.join temporary "http-upload") "http-upload.log")

end Settings

end SlotUpload
