import SlotUpload.Payload.Slot
import SlotUpload.Payload.SlotRequest
import SlotUpload.Session.Reply

/-!
# SlotUpload.Rehearsal.Script

A messaging session that answers by a script: what its server has, what each
entity tells about itself, and the answers to requests, each given once.
-/

namespace SlotUpload.Rehearsal

/-- An answer to a request. -/
inductive Cue
  | fixed (answer : Except Causes SessionReply)
  /-- A slot, written in the schema in which it is asked for. -/
  | slot (slot : Slot)

structure Script where
  /-- The address of the session's server. -/
  server : String
  items : Except Causes (List String) := .ok []
  infos : List (String × Except Causes DiscoInfo) := []
  cues : List Cue := []

namespace Script

/-- What an entity tells about itself; there are no others than the script has. -/
def info (s : Script) (address : String) : Except Causes DiscoInfo :=
  (s.infos.lookup address).getD (.error ["item-not-found: " ++ address])

/-- The schema in which a slot is asked for. -/
def versionOf (recipient payload : String) : Version :=
  match SlotRequest.decode recipient payload with
  | .ok (version, _) => version
  | .error _ => .current

/-- The answer to a request; when the script has none left, none comes. -/
def request (s : Script) (recipient payload : String) : Except Causes SessionReply × Script :=
  match s.cues with
  | [] => (.error ["remote-server-timeout"], s)
  | .fixed answer :: cues => (answer, { s with cues })
  | .slot slot :: cues =>
    (.ok (.result (slot.encode (versionOf recipient payload))), { s with cues })

end Script

end SlotUpload.Rehearsal
