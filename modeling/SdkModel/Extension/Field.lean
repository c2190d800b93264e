import SdkModel.Coercion

/-!
# Extension fields

A record of extensions has one field per recognised key. Besides the value that a node gives it,
a field has a name, the key it is written under and a description.
-/

namespace SdkModel

/-- Where in a document an extension key is read. -/
inductive ExtensionScope where
  | operation
  | schema
  | info
deriving DecidableEq, Repr

namespace ExtensionScope

def word : ExtensionScope → String
  | .operation => "operation"
  | .schema => "schema"
  | .info => "info"

def ofWord? (s : String) : Option ExtensionScope :=
  [operation, schema, info].find? (·.word = s)

end ExtensionScope

/-- What all extension keys of this catalog begin with. -/
def vendorStart : String := "x-cb-"

/-- One recognised key of a record. -/
structure ExtensionField where
  key : String
  name : String
  description : String
deriving DecidableEq, Repr

def Value.optInt : Option Int → Value
  | some i => .int i
  | none => .null

/-- The names of the fields whose key a node carries, in declaration order. -/
def declaredFields (listing : List (ExtensionField × Value)) (es : Entries) : List String :=
  (listing.filter fun f => es.has f.1.key).map (·.1.name)

end SdkModel
