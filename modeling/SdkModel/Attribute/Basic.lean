import SdkModel.Attribute.Traits
import SdkModel.Naming.Convention
import SdkModel.Order

/-!
# Attributes

An attribute is a named schema: a property of a resource or an input of an action. The attributes
nested in it come from its properties, or from those of its items for an array; hidden ones are
left out unless hidden nodes are exposed.
-/

namespace SdkModel

structure Attribute where
  name : String
  schema : Schema
  isRequired : Bool
  qa : Bool

namespace Attribute

def kind (a : Attribute) : AttributeKind := a.schema.kindOf a.name a.qa

def traits (a : Attribute) : AttributeTraits := a.schema.classify a.name a.qa

def sortOrder (a : Attribute) : Int := a.schema.sortOrder

def isVisible (a : Attribute) : Bool := a.schema.isVisible a.qa

def isFilter (a : Attribute) : Bool := a.schema.isFilter a.qa

def isSort (a : Attribute) : Bool := a.name = sortAttribute

def isPagination (a : Attribute) : Bool := a.schema.extensions.isPaginationParameter

def isComposite (a : Attribute) : Bool := a.schema.extensions.isCompositeArrayRequestBody

def isSubResource (a : Attribute) : Bool := a.schema.hasFlag (·.isSubResource)

def isMultiValue (a : Attribute) : Bool := a.schema.extensions.isMultiValueAttribute

/-- A child of a schema as an attribute. -/
def ofChild (qa : Bool) (c : Schema.Child) : Attribute :=
  ⟨Naming.attributeName c.name, c.schema, c.isRequired, qa⟩

/-- The visible nested attributes, in declaration order. -/
def nested (a : Attribute) : List Attribute := (a.schema.visibleChildren a.qa).map (ofChild a.qa)

theorem sizeOf_nested_lt {a b : Attribute} (h : b ∈ a.nested) :
    sizeOf b.schema < sizeOf a.schema := by
  obtain ⟨c, hc, rfl⟩ := List.mem_map.1 h
  exact Schema.sizeOf_child_lt (List.mem_filter.1 hc).1

def sortedNested (a : Attribute) : List Attribute := sortByOrder sortOrder a.nested

def hasSubResourceField (a : Attribute) : Bool := a.nested.any isSubResource

def hasRequiredField (a : Attribute) : Bool := a.nested.any (·.isRequired)

/-- The enum of an attribute, by the name of the attribute. -/
def enum (a : Attribute) : Enum := ⟨a.name, a.schema⟩

/-- The enum of an attribute under another name. -/
def enumNamed (a : Attribute) (name : String) : Enum :=
  ⟨if name = "" then a.name else name, a.schema⟩

/-- The attribute with one nested attribute only. -/
def withField (a b : Attribute) : Attribute :=
  let properties := some [(b.name, b.schema)]
  let schema := match a.schema.properties, a.schema.items with
    | none, some items => { a.schema with items := some { items with properties } }
    | _, _ => { a.schema with properties }
  { a with schema }

/-- An attribute as it is described, with its enum and its nested attributes. -/
def toValue (a : Attribute) : Value :=
  let fields := a.nested.attach.map fun b => toValue b.1
  .record ([("name", .text a.name), ("kind", .text a.kind.word),
    ("type", .optText a.schema.type), ("format", .optText a.schema.format),
    ("is_required", .bool a.isRequired), ("sort_order", .int a.sortOrder),
    ("is_deprecated", .bool a.traits.isDeprecated)] ++
    (if a.schema.isEnum then [("enum", a.enum.toValue)] else []) ++
    (if fields.isEmpty then [] else [("attributes", .list fields)]))
termination_by sizeOf a.schema
decreasing_by exact sizeOf_nested_lt b.2

end Attribute

end SdkModel
