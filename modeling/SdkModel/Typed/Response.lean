import SdkModel.Typed.Parameter

/-!
# Responses of typed models

The response class of an action and the columns of a resource. A field that names another resource
has the response class of that resource as its type, which lives in the module of the resource.
-/

namespace SdkModel.Typed

/-- A field of a generated class. -/
structure Column where
  name : String
  type : String
  isRequired : Bool
deriving DecidableEq, Repr

def Column.toValue (c : Column) : Value :=
  .record [("name", .text c.name), ("type", .text c.type), ("is_required", .bool c.isRequired)]

def columnsValue (cs : List Column) : Value := .list (cs.map Column.toValue)

/-- The annotations that name no class. -/
def builtinTypes : List String :=
  [textType, intType, floatType, boolType, anyType, objectType, objectsType]

def lowered (s : String) : String := String.ofList (Text.lowerAll s.toList)

/-- The annotation of a response field by the name of its type. -/
def fieldType (context : ShapingContext) : Option String → Shaped String
  | none => pure anyType
  | some type =>
    if type = "unknown" then pure textType
    else if type ∈ builtinTypes then pure type
    else if lowered type = lowered context.resource.name then pure (responseName type)
    else do
      let module := Naming.snake type
      Shaped.refer (.model module)
      return quoted (module ++ "." ++ responseName type)

/-- A list of a type, unless nothing is known of the type. -/
def listOfKnown (type : String) : String := if type = anyType then anyType else listOf type

/-- The column of a field that holds no items of its own. -/
def fieldColumn (context : ShapingContext) (f : ResponseField) : Shaped Column := do
  let type ← fieldType context f.type
  return ⟨f.name, if f.isList then listOfKnown type else type, f.isRequired⟩

/-- The response class of an action, and the class of its items when it lists some. -/
structure ResponseClass where
  name : String
  fields : List Column
  itemName : Option String
  itemFields : List Column

def ResponseClass.toValue (c : ResponseClass) : Value := .record [
  ("class_name", .text c.name), ("fields", columnsValue c.fields),
  ("item_class_name", .optText c.itemName), ("item_fields", columnsValue c.itemFields)]

variable (classCase : String → String)

def itemClassName (context : ShapingContext) (actionName : String) : String :=
  responseName (classCase actionName ++ context.resource.name)

/-- A field whose items have fields of their own. -/
def holdsItems (f : ResponseField) : Bool := f.isList && !f.fields.isEmpty

/-- The fields of a response, required ones first. -/
def orderedFields (r : Response) : List ResponseField :=
  let fields := r.fields fun s hint => some (scalarType classCase s hint)
  fields.filter (·.isRequired) ++ fields.filter (!·.isRequired)

/-- One field of a response with the columns of its items. -/
def responseField (context : ShapingContext) (actionName : String) (f : ResponseField) :
    Shaped (Column × List Column) :=
  if holdsItems f then do
    let items ← Shaped.each f.fields (fieldColumn context)
    return (⟨f.name, listOf (itemClassName classCase context actionName), f.isRequired⟩, items)
  else do return (← fieldColumn context f, [])

/-- The response class of an action. -/
def responseClassOf (context : ShapingContext) (r : Response) : Shaped ResponseClass := do
  let ordered := orderedFields classCase r
  let fields ← Shaped.each ordered (responseField classCase context r.actionName)
  let items := (ordered.zip fields).filter fun p => holdsItems p.1
  return {
    name := r.name
    fields := fields.map (·.1)
    itemName := items.getLast?.map fun _ => itemClassName classCase context r.actionName
    itemFields := (items.getLast?.map (·.2.2)).getD [] }

/-! ## Columns -/

/-- The type of an attribute that is neither an enum nor a model. An object is a filter only where
it is used as one. -/
def columnType (context : ShapingContext) (a : Attribute) : Shaped String := do
  let d ← dataType classCase context.splitsModels a.schema a.name
  return if d.kind = .filter && !(a.isFilter || a.isSort) then objectType else d.name

/-- The name that the class of a model is made from. -/
def modelHint (a : Attribute) : String :=
  if a.schema.isListOfSubResources && !a.schema.extensions.isDependentAttribute then a.name
  else (a.traits.subResourceName.filter (· ≠ "")).getD a.name

/-- The type of an attribute that holds a model. -/
def modelType (context : ShapingContext) (a : Attribute) : Shaped String := do
  let d ← dataType classCase context.splitsModels a.schema (modelHint a)
  return if d.isUnknown then anyType else quoteForeign (responseClass d.name)

/-- The type of a column of a response. Enums are plain text there. -/
def responseType (context : ShapingContext) (a : Attribute) : Shaped String :=
  if a.kind = .listOfEnum then pure (listOf textType)
  else if a.kind.isEnumKind then pure textType
  else if a.kind.isModelKind then modelType classCase context a
  else columnType classCase context a

def responseColumn (context : ShapingContext) (a : Attribute) : Shaped Column := do
  return ⟨a.name, ← responseType classCase context a, a.isRequired⟩

/-- The fields of the response class of a resource. -/
def responseColumns (context : ShapingContext) (r : Resource) : Shaped (List Column) :=
  Shaped.each r.sortedAttributes (responseColumn classCase context)

end SdkModel.Typed
