import SlotUpload.Facade.Task

/-!
# SlotUpload.Facade.Audience

Sending a file as a whole, before an audience: the call, during which the listeners are
told of the new transfer one after another, and the task that begins once the call is over.
A listener may change who listens and cancel the transfer that it is told of before it
gives back control; the listeners who are told are those who were there when the telling
began.
-/

namespace SlotUpload.Facade

/-- Something that a listener does before it gives back control, itself or through others that
it calls on. -/
inductive Response (σ : Type)
  | add (listener : String)
  | remove (listener : String)
  /-- Cancels the transfer that was created last. -/
  | cancel
  /-- Does anything else, with the surroundings. -/
  | other (effect : σ → σ)

/-- Something that can be seen from outside. -/
inductive Happening
  | asked (query : Query)
  | told (listener : String) (notice : Notice)
  deriving DecidableEq, Repr

/-- Surroundings with an audience, and all that has happened in them. -/
structure Attended (σ : Type) where
  roster : Roster String := []
  /-- The transfer that was created last, as it is now. -/
  newest : Option Transfer := none
  /-- What happened, the first of it in front. -/
  course : List Happening := []
  rest : σ

/-- What each listener does when it is told of something. -/
abbrev Audience (σ : Type) := String → Notice → Attended σ → List (Response σ)

namespace Attended

variable {σ : Type} (answer : Answerer σ)

/-- The answerer, with a note of what it was asked. -/
def noting : Answerer (Attended σ) := fun q h =>
  let (a, rest) := answer q h.rest
  (a, { h with rest, course := h.course ++ [.asked q] })

/-- A listener does something. -/
def respond (h : Attended σ) : Response σ → Attended σ
  | .add listener => { h with roster := (h.roster.add listener).2 }
  | .remove listener => { h with roster := (h.roster.remove listener).2 }
  | .cancel =>
    match h.newest with
    | none => h
    | some transfer =>
      let b := ({ transfer, rest := h } : Busy (Attended σ)).act (noting answer) .cancel
      { b.rest with newest := some b.transfer }
  | .other effect => { h with rest := effect h.rest }

variable (audience : Audience σ)

/-- Tells a listener of something. -/
def tell (notice : Notice) (h : Attended σ) (listener : String) : Attended σ :=
  let h := { h with course := h.course ++ [.told listener notice] }
  (audience listener notice h).foldl (respond answer) h

/-- Tells everyone who listens now. -/
def announce (notice : Notice) (h : Attended σ) : Attended σ :=
  let h :=
    match notice with
    | .created transfer => { h with newest := some transfer }
    | _ => h
  h.roster.foldl (tell answer audience notice) h

/-- Answers queries before an audience. -/
def answering : Answerer (Attended σ)
  | .notify notice, h => ((), announce answer audience notice h)
  | q, h => noting answer q h

end Attended

/-- A call to send a file, and what comes after it. -/
structure Sent (σ : Type) where
  /-- The transfer as it is when the call is over. -/
  result : Except UploadError Transfer
  /-- How things stand when the call is over. -/
  called : Attended σ
  /-- How they stand when the task is over, if there is one. -/
  settled : Option (Busy (Attended σ))

/-- Sends a file: the call, and then its task to the end. -/
def sendFile {σ : Type} (answer : Answerer σ) (audience : Audience σ)
    (others : Others (Attended σ)) (server : String) (blockSize : Nat)
    (destination : Destination) (path : String) (h : Attended σ) : Sent σ :=
  match (send destination path).run.run (Attended.answering answer audience) h with
  | (.error e, called) => { result := .error e, called, settled := none }
  | (.ok created, called) =>
    let transfer := called.newest.getD created
    let b : Busy (Attended σ) := { transfer, rest := called }
    let settled := b.runSending (Attended.answering answer audience) others destination
      (sending server blockSize path)
    { result := .ok transfer, called, settled := some settled }

end SlotUpload.Facade
