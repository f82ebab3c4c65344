import SlotUpload.Facade.Registry
import SlotUpload.Files.Tree
import SlotUpload.Http.Message
import SlotUpload.Log.Entry
import SlotUpload.Session.Reply

/-!
# SlotUpload.Job.Basic

Jobs: what is to be done, apart from who does it.  A job asks its surroundings
one query after another and goes on by the answers.  Whoever runs a job decides
what the answers are; what holds for all answers holds for every session, server
and file system.
-/

namespace SlotUpload

/-- What a job may ask of its surroundings. -/
inductive Query
  /-- The items of an entity. -/
  | items (address : String)
  /-- What an entity tells about itself. -/
  | info (address : String)
  /-- A request to an entity, and its answer. -/
  | request (recipient payload : String)
  /-- A message to a contact or a room. -/
  | deliver (destination : Destination) (text : String)
  /-- The upload service to use by default. -/
  | cached
  | cache (service : Option UploadService)
  /-- A new name for a transfer or a request. -/
  | drawId
  /-- A notice to the listeners of the facade. -/
  | notify (notice : Notice)
  | log (entry : Log.Entry)
  /-- From now on log entries go to the file at a path, emptied before. -/
  | startLog (path : String)
  | examine (path : String)
  | openFile (path : String)
  /-- The whole content of a file. -/
  | readFile (path : String)
  | createFile (path : String)
  | appendFile (path : String) (bytes : List UInt8)
  /-- The absolute path of what is at a path. -/
  | canonical (path : String)
  /-- A directory at a path, and those on the way to it. -/
  | makeDirectories (path : String)
  /-- From now on requests are made under a name. -/
  | introduce (agent : String)
  /-- A single request to a server, redirections not followed. -/
  | exchange (request : Http.Request)
  /-- The next piece of a body. -/
  | wait
  | countSent (bytes : UInt64)
  | countReceived (bytes : UInt64)
  | noteError (text : String)
  | progress (done total : UInt64)
  /-- A text for the user. -/
  | print (text : String)
  /-- A text for the user that is not a result. -/
  | printError (text : String)
  deriving DecidableEq, Repr

/-- What a query is answered with. -/
def Query.Answer : Query → Type
  | items _ => Except Causes (List String)
  | info _ => Except Causes DiscoInfo
  | request _ _ => Except Causes SessionReply
  | deliver _ _ => Except Causes Unit
  | cached => Option UploadService
  | drawId => String
  | examine _ | openFile _ => Except FileError FileNode
  | readFile _ => Except FileError (List UInt8)
  | createFile _ | appendFile _ _ | makeDirectories _ | startLog _ => Except FileError Unit
  | canonical _ => Except FileError String
  | exchange _ => Http.Exchange
  | cache _ | notify _ | log _ | introduce _ | wait | countSent _ | countReceived _ | noteError _
  | progress _ _ | print _ | printError _ => Unit

/-- Does the answer take time, so that other things may happen before it? -/
def Query.takesTime : Query → Bool
  | items _ | info _ | request _ _ | deliver _ _ | examine _ | openFile _ | createFile _
  | appendFile _ _ | exchange _ | wait => true
  | _ => false

/-- What is left to be done. -/
inductive Job (α : Type) : Type
  | done (value : α)
  | ask (query : Query) (next : query.Answer → Job α)

/-- Answers queries; every answer may change the surroundings. -/
abbrev Answerer (σ : Type) := (q : Query) → σ → q.Answer × σ

namespace Job

protected def bind : Job α → (α → Job β) → Job β
  | done a, f => f a
  | ask q next, f => ask q fun answer => (next answer).bind f

instance : Monad Job where
  pure := done
  bind := Job.bind

/-- Asks one query. -/
def query (q : Query) : Job q.Answer := ask q done

/-- Runs a job to its end in surroundings with a state. -/
def run (answer : Answerer σ) : Job α → σ → α × σ
  | done a, s => (a, s)
  | ask q next, s => run answer (next (answer q s).1) (answer q s).2

/-- Runs a job until it ends or is dropped.  Whether it is dropped is asked
whenever the answer to a query that takes time has come. -/
def runUntil (answer : Answerer σ) (stop : σ → Bool) : Job α → σ → Option α × σ
  | done a, s => (some a, s)
  | ask q next, s =>
    let (a, s) := answer q s
    if q.takesTime && stop s then (none, s) else runUntil answer stop (next a) s

/-- Does something else wherever the job would report progress. -/
def onProgress (f : UInt64 → UInt64 → Job Unit) : Job α → Job α
  | done a => done a
  | ask (.progress amount total) next =>
    (f amount total).bind fun answer => onProgress f (next answer)
  | ask q next => ask q fun answer => onProgress f (next answer)

end Job

/-- A job that may fail. -/
abbrev Attempt (α : Type) := ExceptT UploadError Job α

namespace Attempt

/-- Asks one query. -/
def query (q : Query) : Attempt q.Answer := ExceptT.lift (Job.query q)

/-- Takes over a result that may be an error. -/
def ofExcept (r : Except UploadError α) : Attempt α := ExceptT.mk (.done r)

end Attempt

end SlotUpload
