import SdkModel.Typed.Response

/-!
# Resources of typed models

A shaped resource lists the classes of its module: its enums, its own response class, the classes
of its nested resources, and of each action the parameters and the response.
-/

namespace SdkModel.Typed

/-! ## Enums -/

structure EnumClass where
  name : String
  className : String
  /-- The members of the class with their values. -/
  members : List (String × String)
  deprecatedValues : List String
deriving DecidableEq, Repr

def EnumClass.toValue (c : EnumClass) : Value := .record [
  ("name", .text c.name), ("class_name", .text c.className),
  ("members", .list (c.members.map fun m =>
    .record [("name", .text m.1), ("value", .text m.2)])),
  ("deprecated_values", .texts c.deprecatedValues)]

variable (classCase : String → String)

def enumClassOf (e : Enum) : EnumClass :=
  { name := e.name
    className := classCase e.name
    members := e.validValues.map fun v => (Naming.enumMember v, v)
    deprecatedValues := e.deprecatedValues }

/-! ## Nested resources -/

/-- The model class and the response class of a nested resource. -/
structure ModelClass where
  id : Option String
  name : String
  sortOrder : Int
  fields : List Column
  responseFields : List Column

def ModelClass.toValue (c : ModelClass) : Value := .record [
  ("id", .optText c.id), ("class_name", .text c.name),
  ("response_class_name", .text (responseName c.name)), ("sort_order", .int c.sortOrder),
  ("fields", columnsValue c.fields), ("response_fields", columnsValue c.responseFields)]

/-- The name of the enum that a field of a nested resource declares. -/
def modelEnumName (sub : Resource) (a : Attribute) : String :=
  Naming.snake (singular sub.name) ++ "_" ++ a.name

/-- A field of a nested resource, in its model class and in its response class. -/
def modelField (context : ShapingContext) (sub : Resource) (a : Attribute) :
    Shaped (Column × Column) :=
  if a.schema.isEnum then do
    let type ← enumClass classCase context a (some (modelEnumName sub a))
    return (⟨a.name, type, a.isRequired⟩, ⟨a.name, textType, a.isRequired⟩)
  else do
    let type ← columnType classCase context a
    return (⟨a.name, type, a.isRequired⟩, ⟨a.name, type, a.isRequired⟩)

/-- The classes of a nested resource. -/
def modelClassOf (context : ShapingContext) (sub : Resource) : Shaped ModelClass := do
  let fields ← Shaped.each sub.sortedAttributes (modelField classCase context sub)
  return {
    id := sub.id
    name := singular sub.name
    sortOrder := sub.sortOrder
    fields := fields.map (·.1)
    responseFields := fields.map (·.2) }

/-! ## Actions -/

structure ActionShape where
  action : Action
  className : String
  parameters : List ShapedParameter
  response : ResponseClass

def actionShape (context : ShapingContext) (a : Action) : Shaped ActionShape := do
  let parameters ← shapeInputs classCase context a
  let response ← responseClassOf classCase context a.response
  return { action := a, className := classCase a.name, parameters, response }

/-- The class of the parameters of an action that has some. -/
def ActionShape.paramsName? (s : ActionShape) : Option String :=
  if s.parameters.isEmpty then none else some (s.className ++ "Params")

def ActionShape.toValue (s : ActionShape) : Value :=
  let a := s.action
  .record ([("id", a.id), ("name", .text a.name), ("class_name", .text s.className),
    ("http_method", .text a.method.word), ("url", .text a.url),
    ("url_prefix", .text a.urlParts.first), ("url_suffix", .text a.urlParts.last),
    ("sort_order", .int a.sortOrder), ("is_list", .bool a.isList),
    ("is_deprecated", .bool a.deprecated), ("is_idempotent", .bool a.extensions.isIdempotent),
    ("is_json_request", .bool a.extensions.needsJsonInput),
    ("json_keys", .list (a.jsonKeys.map JsonKey.toValue)),
    ("path_parameters", .texts (a.pathParameters.map (·.name))),
    ("params_class_name", .optText s.paramsName?),
    ("is_all_params_optional", .bool (a.allBodyOptional && a.allQueryOptional)),
    ("parameters", .list (s.parameters.map ShapedParameter.toValue)),
    ("response", s.response.toValue)] ++
    (match a.extensions.subDomain with
      | some d => [("sub_domain", .text d)]
      | none => []))

/-! ## Resources -/

/-- A resource generated elsewhere that an attribute refers to. -/
structure Dependent where
  name : String
  isList : Bool
deriving DecidableEq, Repr

def Dependent.toValue (d : Dependent) : Value := .record [
  ("name", .text d.name), ("module", .text (Naming.snake d.name)), ("is_list", .bool d.isList)]

structure ResourceShape where
  resource : Resource
  enums : List EnumClass
  columns : List Column
  models : List ModelClass
  dependents : List Dependent
  actions : List ActionShape

namespace ResourceShape

/-- The module that a resource is generated into. -/
def module (s : ResourceShape) : String := Naming.snake s.resource.name

def entries (s : ResourceShape) : Entries :=
  let r := s.resource
  [(.text "id", .optText r.id), (.text "name", .text r.name), (.text "module", .text s.module),
    (.text "path_name", .optText r.pathName?), (.text "sort_order", .int r.sortOrder),
    (.text "response_class_name", .text (responseName r.name)),
    (.text "enums", .list (s.enums.map EnumClass.toValue)),
    (.text "columns", columnsValue s.columns),
    (.text "sub_resources", .list (s.models.map ModelClass.toValue)),
    (.text "dependent_resources", .list (s.dependents.map Dependent.toValue)),
    (.text "actions", .list (s.actions.map ActionShape.toValue)),
    (.text "is_custom_field_supported", .bool r.supportsCustomFields),
    (.text "is_additional_properties_supported", .bool r.supportsAdditionalProperties),
    (.text "has_list_operations", .bool r.hasListOperations)]

end ResourceShape

/-- The resources generated elsewhere that a resource refers to, single ones first. -/
def dependentsOf (r : Resource) : List Dependent :=
  (r.singularDependents.map fun d => ⟨d.name, false⟩) ++
    (r.listDependents.map fun d => ⟨d.name, true⟩)

def resourceShape (context : ShapingContext) (r : Resource) : Shaped ResourceShape := do
  let columns ← responseColumns classCase context r
  let models ← Shaped.each r.sortedSubResources (modelClassOf classCase context)
  let actions ← Shaped.each r.sortedActions (actionShape classCase context)
  return {
    resource := r
    enums := context.enums.map (enumClassOf classCase)
    columns, models, actions
    dependents := dependentsOf r }

end SdkModel.Typed
