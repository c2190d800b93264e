import SdkModel.Action.Inputs
import SdkModel.Backend.Parameter
import SdkModel.Typed.Annotation

/-!
# Parameters of typed models

How the inputs of an action become one flat list of parameters. `Attribute.parameterKind` decides
how an input is passed. An input with fields is shaped once, however many entries the flat view of
the inputs has for it, and carries those of its fields that are inputs themselves.
-/

namespace SdkModel

namespace AttributeKind

/-- The attribute takes the values of an enum. -/
def isEnumKind : AttributeKind → Bool
  | enum | globalEnum | listOfEnum => true
  | _ => false

/-- The attribute holds a model. -/
def isModelKind : AttributeKind → Bool
  | subResource | listOfSubResource | dependentResource => true
  | _ => false

end AttributeKind

namespace Attribute

/-- A filter over the fields of an input: the input has several values or its first field is one of
a sub-resource. -/
def isNestedFilter (a : Attribute) : Bool :=
  match a.nested with
  | [] => false
  | first :: _ => a.isMultiValue || first.isSubResource

/-- An input with fields that is sent as a list of them. -/
def isIndexed (a : Attribute) : Bool :=
  !a.nested.isEmpty && (a.isComposite || a.kind = .listOfSubResource)

/-- An input with fields that is sent as an object. -/
def isNestedObject (a : Attribute) : Bool :=
  !a.nested.isEmpty && (a.isMultiValue || a.kind.isModelKind || a.kind = .object)

/-- How an input is passed. -/
def parameterKind (a : Attribute) : ParameterKind :=
  if a.kind = .sort then .sort
  else if a.kind = .filter then if a.isNestedFilter then .nestedObject else .filter
  else if a.isIndexed then .indexedList
  else if a.kind.isEnumKind then .enum
  else if a.isNestedObject then .nestedObject
  else .value

end Attribute

namespace Typed

def filtersModule : String := "filters"

def enumsModule : String := "enums"

/-- A class of the filters module. -/
def filterClass (name : String) : Shaped String := do
  Shaped.refer (.filters filtersModule)
  return "Filters." ++ name

variable (classCase : String → String)

/-- A class of the module of the resource. -/
def ownClass (context : ShapingContext) (name : String) : String :=
  quoted (context.resource.name ++ "." ++ name)

/-- The enum lives in the module that all resources share. -/
def isSharedEnum (a : Attribute) : Bool :=
  a.schema.isGlobalEnum || a.schema.itemsOrSelf.extensions.isGenSeparate

def apiName? (a : Attribute) : Option String := a.schema.extensions.sdkEnumApiName.filter (· ≠ "")

/-- The class of the enum of an attribute. A class of the resource is named by `localName` when the
resource has an enum of that name. -/
def enumClass (context : ShapingContext) (a : Attribute) (localName : Option String) :
    Shaped String :=
  if isSharedEnum a then do
    Shaped.refer (.enums enumsModule)
    let name := ((a.enum.globalReference?.filter (· ≠ "")).or (apiName? a)).getD a.name
    return "enums." ++ classCase name
  else
    let own := localName.filter (· ∈ context.enumNames)
    pure (ownClass context (classCase ((own.or (apiName? a)).getD a.name)))

/-- A parameter that is rendered from an attribute. -/
def parameterOf (a : Attribute) (kind : ParameterKind) (type : String)
    (fields : List ShapedParameter) : ShapedParameter :=
  { name := a.name, kind, type, isRequired := a.isRequired
    isDeprecated := a.traits.isDeprecated, sortOrder := a.sortOrder, fields }

/-! ## Fields of a parameter -/

/-- A field that is an input: any field of an input with several values, and elsewhere a field of a
sub-resource; the others belong to responses. -/
def isInputField (parent field : Attribute) : Bool :=
  (parent.isMultiValue || field.isSubResource) && !field.traits.isHiddenParameter

def fieldParameter (context : ShapingContext) (parent field : Attribute) :
    Shaped ShapedParameter :=
  if field.kind = .filter || field.kind = .sort then do
    let type ← filterClass (plainDataType classCase field.schema field.name).name
    return parameterOf field .filter type []
  else if field.kind.isEnumKind then do
    let localName := singular parent.name ++ "_" ++ field.name
    return parameterOf field .enum (← enumClass classCase context field (some localName)) []
  else
    let target := field.schema.items.getD field.schema
    pure (parameterOf field .value (valueType classCase target field.name) [])

/-- The fields of a parameter, in sort order. -/
def fieldParameters (context : ShapingContext) (parent : Attribute) :
    Shaped (List ShapedParameter) :=
  Shaped.each (parent.sortedNested.filter (isInputField parent))
    (fieldParameter classCase context parent)

/-! ## Parameters -/

/-- The class of the fields of a parameter. -/
def paramsClass (action : Action) (name : String) : String :=
  classCase action.name ++ classCase name ++ "Params"

/-- A parameter that carries fields. -/
def containerParameter (context : ShapingContext) (action : Action) (a : Attribute)
    (kind : ParameterKind) : Shaped ShapedParameter := do
  let reference := ownClass context (paramsClass classCase action (singular a.name))
  let fields ← fieldParameters classCase context a
  return parameterOf a kind (if kind = .indexedList then listOf reference else reference) fields

/-- A parameter without fields. -/
def plainParameter (context : ShapingContext) (a : Attribute) (kind : ParameterKind) :
    Shaped ShapedParameter := do
  let type ← (match kind with
    | .sort => filterClass (plainDataType classCase a.schema a.name).name
    | .enum => enumClass classCase context a none
    | .filter =>
      let d := plainDataType classCase a.schema a.name
      if d.kind = .filter then filterClass d.name else pure anyType
    | _ => pure (valueType classCase a.schema a.name))
  return parameterOf a kind type []

/-- The entries of the flat view, of each name that is passed as a container the first one only. -/
def firstEntries (seen : List String) : List Attribute → List Attribute
  | [] => []
  | a :: rest =>
    if !a.parameterKind.isContainer then a :: firstEntries seen rest
    else if a.name ∈ seen then firstEntries seen rest
    else a :: firstEntries (a.name :: seen) rest

/-- The input that an entry of the flat view was split from; the last of its name. -/
def wholeInput (action : Action) (entry : Attribute) : Attribute :=
  let inputs := (action.bodyParameters ++ action.queryParameters).map (·.asAttribute)
  ((inputs.filter (·.name = entry.name)).getLast?).getD entry

/-- The view of the inputs that the parameters are made of. -/
def flatView (action : Action) : Inputs :=
  { action, options := {
      flatOuter := true, pagination := true, onlyPagination := true, subResources := true } }

def entryParameter (context : ShapingContext) (action : Action) (entry : Attribute) :
    Shaped ShapedParameter :=
  let kind := entry.parameterKind
  if kind.isContainer then
    containerParameter classCase context action (wholeInput action entry) kind
  else plainParameter classCase context entry kind

/-- The parameters of an action. -/
def shapeInputs (context : ShapingContext) (action : Action) : Shaped (List ShapedParameter) :=
  Shaped.each (firstEntries [] (flatView action).all) (entryParameter classCase context action)

end Typed

end SdkModel
