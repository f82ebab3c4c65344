import SlotUpload.Facade.Incoming
import SlotUpload.Roster
import SlotUpload.Transfer.Basic

/-!
# SlotUpload.Facade.Registry

The listeners of a facade and what they are told.  A notice goes to the listeners
that are there when its sending begins, in order; a listener may itself add and
remove listeners and send notices, and such a notice is sent to its end before
the outer one goes on.

A registry keeps all that ever happened to it.  What a listener does may depend on
that, and so on what it was told before, on what its own steps came to and on what
other listeners did.
-/

namespace SlotUpload

/-- What the listeners of a facade are told. -/
inductive Notice
  | created (transfer : Transfer)
  | received (request : IncomingRequest)
  | rejected (request : IncomingRequest)
  deriving DecidableEq, Repr

/-- What can be done to a registry. -/
inductive RegistryCommand
  | add (listener : String)
  | remove (listener : String)
  | fire (notice : Notice)
  deriving DecidableEq, Repr

/-- Something that happens to a registry.  Whoever acts is a listener, or none of them.
The sending of a notice goes by the moment when it began. -/
inductive RegistryEvent
  | added (actor : Option String) (target : String) (changed : Bool)
  | removed (actor : Option String) (target : String) (changed : Bool)
  | began (actor : Option String) (notice : Notice)
  | told (sending : Nat) (listener : String) (notice : Notice)
  | ended (sending : Nat)
  deriving DecidableEq, Repr

/-- What happened, and who was registered then. -/
structure RegistryMoment where
  event : RegistryEvent
  roster : Roster String
  deriving DecidableEq, Repr

/-- What someone does, step by step, by all that happened until then. -/
inductive Errand
  | done
  | step (command : RegistryCommand) (next : List RegistryMoment → Errand)

/-- What each listener does when it is told of something. -/
abbrev Manners := List RegistryMoment → String → Notice → Errand

structure Registry where
  roster : Roster String := []
  moments : List RegistryMoment := []
  deriving DecidableEq, Repr

namespace Registry

def record (r : Registry) (event : RegistryEvent) : Registry :=
  { r with moments := r.moments ++ [⟨event, r.roster⟩] }

/-- Adds a listener; false if it is there already. -/
def add (r : Registry) (actor : Option String) (listener : String) : Bool × Registry :=
  let (changed, roster) := r.roster.add listener
  (changed, { r with roster }.record (.added actor listener changed))

/-- Removes a listener; false if it is not there. -/
def remove (r : Registry) (actor : Option String) (listener : String) : Bool × Registry :=
  let (changed, roster) := r.roster.remove listener
  (changed, { r with roster }.record (.removed actor listener changed))

section Errands

variable (send : Option String → Notice → Registry → Except Registry Registry)

/-- Does what is asked for. -/
def obey (actor : Option String) : RegistryCommand → Registry → Except Registry Registry
  | .add listener, r => .ok (r.add actor listener).2
  | .remove listener, r => .ok (r.remove actor listener).2
  | .fire notice, r => send actor notice r

/-- Runs an errand to its end. -/
def perform (actor : Option String) : Errand → Registry → Except Registry Registry
  | .done, r => .ok r
  | .step command next, r => do
    let r ← obey send actor command r
    perform actor (next r.moments) r

/-- Tells a listener of a notice, and runs what it does then. -/
def tell (manners : Manners) (sending : Nat) (notice : Notice) (r : Registry) (listener : String) :
    Except Registry Registry :=
  let r := r.record (.told sending listener notice)
  perform send (some listener) (manners r.moments listener notice) r

end Errands

/-- Sends a notice to all listeners.  Notices inside notices may go `depth` deep; if they go
deeper, all stops as it is then. -/
def fire (manners : Manners) : Nat → Option String → Notice → Registry → Except Registry Registry
  | 0, _, _, r => .error r
  | depth + 1, actor, notice, r => do
    let sending := r.moments.length
    let told ← r.roster.foldlM (tell (fire manners depth) manners sending notice)
      (r.record (.began actor notice))
    return told.record (.ended sending)

/-- What becomes of a new registry that someone uses who is no listener. -/
def run (manners : Manners) (depth : Nat) (errand : Errand) : Except Registry Registry :=
  perform (fire manners depth) none errand {}

end Registry

end SlotUpload
