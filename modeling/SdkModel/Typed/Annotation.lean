import SdkModel.Attribute.Basic
import SdkModel.Backend.Context
import SdkModel.Backend.TypeDescriptor

/-!
# Annotations

The types of the typed models that the reference backend shapes, as annotation text. Three maps
from schemas to annotations are told apart. `dataType` gives the type of an attribute with its
category; it is the one that may name a class of another module, and then refers to it.
`valueType` gives the type of a plain input, where an object is never a filter. `scalarType` gives
the type of a response value that names no resource.
-/

namespace SdkModel.Typed

/-! ## Texts -/

def textType : String := "str"

def intType : String := "int"

def floatType : String := "float"

def boolType : String := "bool"

def anyType : String := "Any"

def objectType : String := "Dict[Any, Any]"

def objectsType : String := "List[Dict[Any, Any]]"

def listOf (type : String) : String := "List[" ++ type ++ "]"

/-- A forward reference. -/
def quoted (type : String) : String := "\"" ++ type ++ "\""

def responseName (name : String) : String := name ++ "Response"

/-- The item of an annotation that is a list. -/
def listItem? (type : String) : Option String :=
  if Text.hasStart "List[" type && Text.hasEnd "]" type then
    some (String.ofList ((type.toList.drop 5).dropLast))
  else none

/-- The class of a response for a class, or a list of one for a list. -/
def responseClass (type : String) : String :=
  match listItem? type with
  | some item => listOf (responseName (singular item))
  | none => responseName (singular type)

/-- A type of another module as a forward reference. -/
def quoteForeign (type : String) : String :=
  if type.toList.contains '.' && !Text.hasStart "\"" type then
    match listItem? type with
    | some item => listOf (quoted item)
    | none => quoted type
  else type

/-- The casing of class names: camel case, with hyphens taken for underscores. -/
def camelCase (raw : String) : String := Naming.camel (Text.swapChar '-' '_' raw)

/-! ## Schemas -/

/-- Numbers of these formats have a fraction. -/
def fractionFormats : List String := ["decimal", "double"]

def timeFormats : List String := ["unix-time", "date-time", "date"]

def isMoney (s : Schema) : Bool := s.extensions.isMoneyColumn || s.extensions.isLongMoneyColumn

def numberType (s : Schema) : String :=
  if s.format.any (· ∈ fractionFormats) then floatType else intType

/-- The items are objects that nothing is known of. -/
def hasFreeItems (s : Schema) : Bool := s.items.any fun i => i.type.isNone && i.properties.isNone

/-- An array of nested models. -/
def isModelList (s : Schema) : Bool := s.isArray && s.items.any (·.isSubResource)

def isModel (s : Schema) : Bool := !s.isArray && s.isSubResource

/-- The filter that a property decides. -/
def filterOfProperty (p : Schema) : String :=
  if p.enum.isSome then if p.format = some "boolean" then "BooleanFilter" else "EnumFilter"
  else if p.format.any (· ∈ timeFormats) then "TimestampFilter"
  else match p.type with
    | some "string" => if p.format.any (· ≠ "") then "NumberFilter" else "StringFilter"
    | some "integer" | some "number" => "NumberFilter"
    | some "boolean" => "BooleanFilter"
    | _ => anyType

/-- The filter of an object: the one that it names, or the one that its first property decides. -/
def filterType (s : Schema) : Option String :=
  match s.extensions.sdkFilterName.filter (· ≠ "") with
  | some name => some name
  | none => s.propertyList.head?.map fun p => filterOfProperty p.2

def sortFilter : String := "SortFilter"

/-- The filter of an object that is held under a name. -/
def namedFilter? (s : Schema) (hint : String) : Option String :=
  if s.shape = .object || (s.shape = .untyped && s.properties.isSome) then
    if hint = sortAttribute then some sortFilter
    else (filterType s).filter (· ≠ anyType)
  else none

/-- The types that a schema has whatever it is held under, money columns among them. -/
def plainType? (s : Schema) : Option String :=
  if s.shape = .string then some textType
  else if isMoney s then some intType
  else match s.shape with
    | .integer => some intType
    | .number => some (numberType s)
    | .boolean => some boolType
    | .dateTime => some textType
    | _ => none

variable (classCase : String → String)

/-- The class of a nested model; where models are split into modules, a reference to its own. -/
def modelClass (split : Bool) (raw : String) : Shaped String :=
  let name := classCase raw
  if split then
    let module := Naming.snake name
    ⟨module ++ "." ++ name, [.model module]⟩
  else ⟨name, []⟩

/-- The type of an attribute `hint` with schema `s`. -/
def dataType (split : Bool) (s : Schema) (hint : String) : Shaped TypeDescriptor :=
  match plainType? s with
  | some type => pure ⟨.primitive, type⟩
  | none =>
    if s.shape = .object && s.isOpenMap && hint ≠ sortAttribute then pure ⟨.map, objectType⟩
    else if hasFreeItems s then pure ⟨.list, objectsType⟩
    else if isModelList s then do
      return ⟨.list, listOf (← modelClass classCase split (singular hint))⟩
    else if isModel s then do return ⟨.reference, ← modelClass classCase split hint⟩
    else if (match _h : s.items with
        | some i => (dataType false i hint).value.name == textType
        | none => false) then
      pure ⟨.list, listOf textType⟩
    else match namedFilter? s hint with
      | some name => pure ⟨.filter, name⟩
      | none => pure ⟨.unknown, anyType⟩
termination_by sizeOf s
decreasing_by exact Schema.sizeOf_items_lt _h

/-- The type of an attribute outside any resource. -/
def plainDataType (s : Schema) (hint : String) : TypeDescriptor :=
  (dataType classCase false s hint).value

/-- The type of a plain input. -/
def valueType (s : Schema) (hint : String) : String :=
  if isMoney s then intType
  else match s.shape with
    | .string | .dateTime => textType
    | .integer => intType
    | .number => numberType s
    | .boolean => boolType
    | _ =>
      if s.shape = .object && s.isOpenMap then objectType
      else if hasFreeItems s then objectsType
      else if isModelList s then listOf (classCase (singular hint))
      else if isModel s then classCase hint
      else if (match _h : s.items with
          | some i => valueType i hint == textType
          | none => false) then listOf textType
      else anyType
termination_by sizeOf s
decreasing_by exact Schema.sizeOf_items_lt _h

/-- The type of a response value that names no resource. -/
def scalarType (s : Schema) (hint : String) : String :=
  if s.extensions.isMoneyColumn then intType
  else match s.shape with
    | .string | .dateTime => textType
    | .integer | .number | .boolean => valueType classCase s hint
    | _ =>
      if s.shape = .object && s.isOpenMap then objectType
      else if s.items.any (·.type.isNone) then objectsType
      else anyType

end SdkModel.Typed
