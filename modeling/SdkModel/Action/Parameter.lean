import SdkModel.Attribute.Basic

/-!
# Parameters

A path, query or request body parameter of an action. Its flags read its own schema only; what an
array takes over from its items shows when the parameter is viewed as an attribute.
-/

namespace SdkModel

structure Parameter where
  name : String
  schema : Schema
  isRequired : Bool
  qa : Bool
  /-- The extensions of the declaration, beside those of the schema. -/
  extensions : SchemaExtensions := {}

namespace Parameter

def sortOrder (p : Parameter) : Int := p.schema.extensions.sortOrder

def isHidden (p : Parameter) : Bool := p.schema.isHidden p.qa

def isDeprecated (p : Parameter) : Bool := p.schema.deprecated.getD false

def isPagination (p : Parameter) : Bool := p.schema.extensions.isPaginationParameter

def isSubResource (p : Parameter) : Bool := p.schema.extensions.isSubResource

def isFilter (p : Parameter) : Bool := p.schema.extensions.isFilterParameter

def isComposite (p : Parameter) : Bool := p.schema.extensions.isCompositeArrayRequestBody

/-- A schema that requires a name. -/
def requiresSome (s : Schema) : Bool := !s.requiredNames.isEmpty

/-- The object of the parameter, or one of its properties, requires a field. -/
def hasRequiredField (p : Parameter) : Bool :=
  p.schema.properties.any fun ps => requiresSome p.schema || ps.any fun c => requiresSome c.2

/-- The parameter as an attribute of the same name. -/
def asAttribute (p : Parameter) : Attribute := ⟨p.name, p.schema, p.isRequired, p.qa⟩

/-- The declaration leaves the parameter in generated code. -/
def isDeclaredVisible (p : Parameter) : Bool := !(p.extensions.hiddenFromSdk && !p.qa)

def toValue (p : Parameter) : Value :=
  let described := (Attribute.mk (Naming.attributeName p.name) p.schema p.isRequired p.qa).toValue
  match described with
  | .object es => .object (Entries.put es (.text "is_deprecated") (.bool p.isDeprecated))
  | v => v

end Parameter

end SdkModel
