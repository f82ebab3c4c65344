import SlotUpload.Command.Run
import SlotUpload.Http.Stats
import SlotUpload.Http.Wire
import SlotUpload.Transfer.Id
import Std.Async.DNS
import Std.Async.TCP

/-!
# SlotUpload.Main

The command line: a run of the program in the world, whose queries are answered
by the files, the clock and the network of the machine it runs on.  Servers are
reached without encryption only, and there is no messaging session.
-/

namespace SlotUpload.Main

open Std.Async

/-- What a run keeps while it goes on. -/
structure Desk where
  ids : IdSource := {}
  stats : Http.Stats := {}
  service : Option UploadService := none
  agent : String := ""
  logFile : Option IO.FS.Handle := none

/-- The run of a program in the world. -/
abbrev World := StateT Desk IO

/-! ## files -/

/-- A fault as the system tells it. -/
def fault : IO.Error → FileError
  | .noFileOrDirectory .. => .notFound
  | .alreadyExists .. => .exists
  | .resourceExhausted _ code text | .inappropriateType _ code text
  | .permissionDenied _ code text | .invalidArgument _ code text =>
    .other s!"{text} (os error {code})"
  | e => .other (toString e)

/-- Does something with files. -/
def guarded (act : IO α) : World (Except FileError α) := do
  match ← act.toBaseIO with
  | .ok a => return .ok a
  | .error e => return .error (fault e)

/-- What is at a path. -/
def examine (path : String) : IO FileNode := do
  if ← (← IO.FS.realPath path).isDir then return .directory []
  return .file (← IO.FS.readBinFile path).toList

/-- Adds bytes to the end of a file. -/
def append (path : String) (bytes : List UInt8) : IO Unit := do
  (← IO.FS.Handle.mk path .append).write (ByteArray.mk bytes.toArray)

/-! ## the clock -/

/-- The present moment. -/
def present : IO Moment := do
  let t ← Std.Time.Timestamp.now
  return ⟨t.toMillisecondsSinceUnixEpoch.val⟩

/-! ## the network -/

/-- The addresses of a host. -/
def addressesOf (host : Url.Host) : Async (Array Std.Net.IPAddr) :=
  match host with
  | .ipv6 address => DNS.getAddrInfo address.toString ""
  | host => DNS.getAddrInfo host.toString ""

/-- All that the other side sends until it closes the connection. -/
def receiveAll (socket : TCP.Socket.Client) : Async ByteArray := do
  let mut all := ByteArray.empty
  repeat
    match ← socket.recv? 65536 with
    | some piece => all := all ++ piece
    | none => break
  return all

/-- An address with a port. -/
def socketAddress (address : Std.Net.IPAddr) (port : UInt16) : Std.Net.SocketAddress :=
  match address with
  | .v4 addr => .v4 { addr, port }
  | .v6 addr => .v6 { addr, port }

/-- A connection to the server of a URL. -/
def connect (url : Url) (server : Url.Authority) : Async TCP.Socket.Client := do
  let addresses ← addressesOf server.host
  let some address := addresses[0]? | throw (.userError "no address")
  let socket ← TCP.Socket.Client.mk
  socket.connect (socketAddress address (server.port.getD ((Url.defaultPort? url.scheme).getD 80)))
  return socket

/-- A request and its reply over a connection of their own. -/
def exchange (agent : String) (request : Http.Request) : Async Http.Exchange := do
  let some server := request.url.authority | return request.unreached
  if request.url.scheme ≠ "http" then return request.unreached
  let socket ← connect request.url server
  socket.send (ByteArray.mk (Http.Wire.head agent request).toArray)
  let mut taken := 0
  for block in request.blocks do
    socket.send (ByteArray.mk block.toArray)
    taken := taken + 1
  match Http.Wire.response? request.method (← receiveAll socket).toList with
  | some response => return { taken, result := .ok response }
  | none => return { request.unreached with taken }

/-! ## answers -/

/-- Answers a query. -/
def answer : (q : Query) → World q.Answer
  | .items _ | .info _ | .request _ _ | .deliver _ _ => return .error ["no session"]
  | .cached => return (← get).service
  | .cache service => modify fun desk => { desk with service }
  | .drawId => do
    let now ← present
    modifyGet fun desk =>
      let (id, ids) := desk.ids.draw now
      (id, { desk with ids })
  | .notify _ | .wait | .progress _ _ => return ()
  | .log entry => do
    let some file := (← get).logFile | return ()
    file.putStr (entry.line (← present))
    file.flush
  | .startLog path => do
    match ← guarded (IO.FS.Handle.mk path .write) with
    | .ok file =>
      modify fun desk => { desk with logFile := some file }
      return .ok ()
    | .error e => return .error e
  | .examine path | .openFile path => guarded (examine path)
  | .readFile path => guarded do return (← IO.FS.readBinFile path).toList
  | .createFile path => guarded (IO.FS.writeBinFile path ByteArray.empty)
  | .appendFile path bytes => guarded (append path bytes)
  | .canonical path => guarded do return (← IO.FS.realPath path).toString
  | .makeDirectories path => guarded (IO.FS.createDirAll path)
  | .introduce agent => modify fun desk => { desk with agent }
  | .exchange request => do
    match ← (exchange (← get).agent request).block.toBaseIO with
    | .ok result => return result
    | .error _ => return request.unreached
  | .countSent bytes => modify fun desk => { desk with stats := desk.stats.addSent bytes }
  | .countReceived bytes => modify fun desk => { desk with stats := desk.stats.addReceived bytes }
  | .noteError text => modify fun desk => { desk with stats := desk.stats.noteError text }
  | .print text => do
    let out ← IO.getStdout
    out.putStr text
    out.flush
  | .printError text => do (← IO.getStderr).putStr text

/-- Does a job in the world. -/
def perform : Job α → World α
  | .done a => return a
  | .ask q next => do perform (next (← answer q))

end SlotUpload.Main

/-- The program `http-upload`. -/
def main (words : List String) : IO UInt32 := do
  let temporary := (← IO.getEnv "TMPDIR").getD "/tmp"
  (SlotUpload.Main.perform (SlotUpload.Command.program temporary words)).run' {}
