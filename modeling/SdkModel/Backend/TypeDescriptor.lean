import SdkModel.Value.Basic

/-!
# Type descriptors

What a backend answers on a schema: the type expression of the target language and the category
that it falls into. A schema that the language has no type for has a descriptor too, of the kind
`unknown`.
-/

namespace SdkModel

/-- The category of a target type. -/
inductive TypeKind where
  | primitive
  | list
  | map
  | reference
  | filter
  | unknown
deriving DecidableEq, Repr

def TypeKind.word : TypeKind → String
  | .primitive => "primitive"
  | .list => "list"
  | .map => "map"
  | .reference => "reference"
  | .filter => "filter"
  | .unknown => "unknown"

structure TypeDescriptor where
  kind : TypeKind
  /-- The expression as the target language writes it. -/
  name : String
deriving DecidableEq, Repr

namespace TypeDescriptor

def isUnknown (d : TypeDescriptor) : Bool := d.kind = .unknown

def toValue (d : TypeDescriptor) : Value :=
  .record [("kind", .text d.kind.word), ("name", .text d.name)]

end TypeDescriptor

end SdkModel
