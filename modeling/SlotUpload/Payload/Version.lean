/-!
# SlotUpload.Payload.Version

The two schemas of the protocol.  They are told apart by namespace alone: the
current one carries its fields as attributes, the legacy one as element text.
-/

namespace SlotUpload

inductive Version
  | legacy
  | current
  deriving DecidableEq, Repr

namespace Version

/-- The namespace of a schema's payloads, which is also the feature that an
entity offering it advertises. -/
def namespaceName : Version → String
  | legacy => "urn:xmpp:http:upload"
  | current => "urn:xmpp:http:upload:0"

/-- The schema with a given namespace. -/
def ofNamespace? (name : String) : Option Version :=
  if name = current.namespaceName then some current
  else if name = legacy.namespaceName then some legacy
  else none

/-- The revision of the protocol that last changed the schema. -/
def number : Version → String
  | legacy => "0.2"
  | current => "0.3"

/-- A version is told by its namespace. -/
@[simp] theorem ofNamespace?_namespaceName (v : Version) :
    ofNamespace? v.namespaceName = some v := by
  cases v <;> decide

end Version

end SlotUpload
