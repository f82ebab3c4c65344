/-!
# SlotUpload.Http.Stats

Totals over all transfers of a process.  The counters are 64 bits wide and start
again at zero when they overflow.
-/

namespace SlotUpload.Http

structure Stats where
  sent : UInt64 := 0
  received : UInt64 := 0
  /-- The text of the last error; empty if there was none. -/
  lastError : String := ""
  deriving DecidableEq, Repr

namespace Stats

def addSent (s : Stats) (bytes : UInt64) : Stats := { s with sent := s.sent + bytes }

def addReceived (s : Stats) (bytes : UInt64) : Stats := { s with received := s.received + bytes }

def noteError (s : Stats) (text : String) : Stats := { s with lastError := text }

end Stats

end SlotUpload.Http
