import SdkModel.Naming.Convention
import SdkModel.Schema.Basic
import SdkModel.Value.Display

/-!
# Responses

The success payload of an action. A list action wraps its items in an array property `list` next to
a cursor `next_offset`; a payload of that form is read as a list wherever it occurs. The type of a
field is the name of the schema that it refers to, and otherwise what the target language calls it.
-/

namespace SdkModel

/-- The type that the target language has for a schema held under a name. -/
abbrev TypeOf := Schema → String → Option String

def listProperty : String := "list"

def nextOffsetProperty : String := "next_offset"

/-- One field of a payload with the name of its type. -/
structure ResponseField where
  name : String
  type : Option String := none
  isList : Bool := false
  isRequired : Bool := false
  fields : List ResponseField := []

def ResponseField.toValue (f : ResponseField) : Value := .record [
  ("name", .text f.name), ("type", .optText f.type), ("is_list", .bool f.isList),
  ("is_required", .bool f.isRequired),
  ("fields", .list (f.fields.attach.map fun g => g.1.toValue))]
termination_by sizeOf f
decreasing_by
  have := List.sizeOf_lt_of_mem g.2
  cases f
  simp only [ResponseField.mk.sizeOf_spec] at *
  omega

/-- A property of a payload. -/
structure ResponseParameter where
  name : String
  schema : Schema
  isRequired : Bool

namespace ResponseParameter

def isList (p : ResponseParameter) : Bool := p.schema.isArray

/-- The type of the property, of its items for an array: the name that it refers to, or what the
target language calls it. -/
def typeName (p : ResponseParameter) (typeOf : TypeOf) : Option String :=
  let target := p.schema.itemsOrSelf
  match target.refName?.filter (· ≠ "") with
  | some name => some name
  | none => typeOf target p.name

def field (p : ResponseParameter) (typeOf : TypeOf) : ResponseField :=
  ⟨p.name, p.typeName typeOf, p.isList, p.isRequired, []⟩

end ResponseParameter

namespace Schema

/-- The item schema of a payload whose `list` property is an array. -/
def listItems? (s : Schema) : Option Schema :=
  (s.propertyList.lookup listProperty).bind (·.arrayItems?)

theorem sizeOf_listItems_lt {s i : Schema} (h : s.listItems? = some i) : sizeOf i < sizeOf s := by
  obtain ⟨p, hp, hi⟩ := Option.bind_eq_some_iff.1 h
  obtain ⟨before, after, heq, -⟩ := List.lookup_eq_some_iff.1 hp
  have hmem : (listProperty, p) ∈ s.propertyList := by
    rw [heq]
    exact List.mem_append_right _ List.mem_cons_self
  exact Nat.lt_trans (sizeOf_arrayItems_lt hi) (sizeOf_property_lt hmem)

/-- The properties of a payload. -/
def responseParameters (s : Schema) : List ResponseParameter :=
  s.propertyList.map fun p => ⟨p.1, p.2, p.1 ∈ s.requiredNames⟩

/-- The fields of a payload; one that lists items has the list as its only field. -/
def responseFields (s : Schema) (typeOf : TypeOf) : List ResponseField :=
  match _h : s.listItems? with
  | some items => [⟨listProperty, none, true, true, items.responseFields typeOf⟩]
  | none => s.responseParameters.map (·.field typeOf)
termination_by sizeOf s
decreasing_by exact sizeOf_listItems_lt _h

end Schema

/-- The success payload of an action. -/
structure Response where
  actionName : String
  schema : Option Schema
  /-- The action lists items. -/
  isList : Bool

namespace Response

def name (r : Response) : String := Naming.camel r.actionName ++ "Response"

def description (r : Response) : String := (r.schema.bind (·.description)).getD ""

def listItems? (r : Response) : Option Schema := r.schema.bind (·.listItems?)

/-- The schema whose properties are the parameters: the items for a list action that lists some. -/
def payload? (r : Response) : Option Schema :=
  if r.isList then r.listItems?.or r.schema else r.schema

def parameters (r : Response) : List ResponseParameter :=
  (r.payload?.map (·.responseParameters)).getD []

def nextOffsetSchema : Schema := { type := some "string" }

/-- The fields of a response; a list action without a list has none. -/
def fields (r : Response) (typeOf : TypeOf) : List ResponseField :=
  if r.isList then
    match r.listItems? with
    | some items => [⟨listProperty, none, true, true, items.responseFields typeOf⟩,
        ⟨nextOffsetProperty, typeOf nextOffsetSchema nextOffsetProperty, false, false, []⟩]
    | none => []
  else (r.schema.map (·.responseFields typeOf)).getD []

def toValue (r : Response) (typeOf : TypeOf) : Value := .record [
  ("name", .text r.name), ("description", .text r.description),
  ("fields", .list ((r.fields typeOf).map ResponseField.toValue))]

end Response

end SdkModel
