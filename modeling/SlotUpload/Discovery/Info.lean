import SlotUpload.Discovery.Service
import SlotUpload.Text.Numeral

/-!
# SlotUpload.Discovery.Info

What an entity tells about itself: the features it has, and forms of further
fields.  An entity with the namespace of a schema among its features is an upload
service; of two schemas the current one is preferred.  The limit is taken from
the form of that schema, if the field can be read as a 64-bit number.
-/

namespace SlotUpload

/-- Forms by name, each a set of fields by name. -/
abbrev Forms := List (String × List (String × String))

namespace Forms

/-- Sets the value of a key, in place or at the end. -/
def setKey (key : String) (value : α) : List (String × α) → List (String × α)
  | [] => [(key, value)]
  | e :: es => if e.1 = key then (key, value) :: es else e :: setKey key value es

/-- Sets a field of a form. -/
def set (forms : Forms) (form field value : String) : Forms :=
  setKey form (setKey field value ((forms.lookup form).getD [])) forms

/-- A field of a form. -/
def get? (forms : Forms) (form field : String) : Option String :=
  (forms.lookup form).bind (·.lookup field)

end Forms

structure DiscoInfo where
  address : String
  features : List String := []
  forms : Forms := []
  deriving DecidableEq, Repr

namespace DiscoInfo

def hasFeature (i : DiscoInfo) (feature : String) : Bool := i.features.contains feature

/-- The schema an entity is best spoken to in. -/
def version? (i : DiscoInfo) : Option Version :=
  if i.hasFeature Version.current.namespaceName then some .current
  else if i.hasFeature Version.legacy.namespaceName then some .legacy
  else none

def supportsUpload (i : DiscoInfo) : Bool :=
  i.hasFeature Version.current.namespaceName || i.hasFeature Version.legacy.namespaceName

/-- The upload service that an entity is, if it is one. -/
def uploadService? (i : DiscoInfo) : Option UploadService :=
  i.version?.map fun version =>
    let limit := (i.forms.get? version.namespaceName "max-file-size").bind Text.count?
    { address := i.address, version, maxFileSize := limit }

end DiscoInfo

end SlotUpload
