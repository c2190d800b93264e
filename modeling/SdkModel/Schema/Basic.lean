import SdkModel.Extension.Decode
import SdkModel.Text.Split

/-!
# Schema nodes

One schema of a document with its extensions decoded. References are inlined before a node is
made; the reference itself stays in `ref`, since names are taken from it. A node that has only its
reference left marks a cycle.
-/

namespace SdkModel

/-- What a schema says on properties that it does not name. -/
inductive Additional (α : Type) where
  | allowed (b : Bool)
  | shaped (schema : α)

structure Schema where
  type : Option String := none
  format : Option String := none
  enum : Option (List Value) := none
  items : Option Schema := none
  properties : Option (List (String × Schema)) := none
  required : Option (List String) := none
  additional : Option (Additional Schema) := none
  description : Option String := none
  deprecated : Option Bool := none
  ref : Option String := none
  extensions : SchemaExtensions := {}

instance : Inhabited Schema := ⟨{}⟩

/-- The structural kind of a schema. -/
inductive Shape where
  | string
  | dateTime
  | integer
  | number
  | boolean
  | array
  | object
  | untyped
deriving DecidableEq, Repr

def Shape.word : Shape → String
  | .string => "string"
  | .dateTime => "date-time"
  | .integer => "integer"
  | .number => "number"
  | .boolean => "boolean"
  | .array => "array"
  | .object => "object"
  | .untyped => "untyped"

namespace Schema

def dateFormats : List String := ["date-time", "date"]

/-- The kind of a schema by its type; a schema without a type but with items is an array. -/
def shape (s : Schema) : Shape :=
  match s.type with
  | some "array" => .array
  | none => if s.items.isSome then .array else .untyped
  | some "string" => if s.format.any (· ∈ dateFormats) then .dateTime else .string
  | some "integer" => .integer
  | some "number" => .number
  | some "boolean" => .boolean
  | some "object" => .object
  | some _ => .untyped

def isArray (s : Schema) : Bool := s.shape = .array

def isObject (s : Schema) : Bool := s.shape = .object

/-- A list of values that is not empty. -/
def hasEnum (s : Schema) : Bool := s.enum.any (!·.isEmpty)

/-- Properties beyond the named ones are declared to be allowed. -/
def isOpenMap (s : Schema) : Bool :=
  match s.additional with
  | some (.allowed b) => b
  | _ => false

def requiredNames (s : Schema) : List String := s.required.getD []

/-- The properties by name, none for a schema that declares no property map. -/
def propertyList (s : Schema) : List (String × Schema) := s.properties.getD []

/-- The last segment of the reference. -/
def refName? (s : Schema) : Option String :=
  match s.ref with
  | some r => if r = "" then none else some (Text.afterLast '/' r)
  | none => none

/-- Only the reference is left: the node of a cycle. -/
def isUnresolvedRef (s : Schema) : Bool :=
  s.ref.isSome && s.type.isNone && s.items.isNone && s.properties.isNone

/-- The item schema of an array. -/
def arrayItems? (s : Schema) : Option Schema := if s.isArray then s.items else none

/-- The item schema of an array that has one, and the schema itself otherwise. -/
def itemsOrSelf (s : Schema) : Schema := s.arrayItems?.getD s

theorem sizeOf_items_lt {s i : Schema} (h : s.items = some i) : sizeOf i < sizeOf s := by
  cases s
  simp_all only [Schema.mk.sizeOf_spec, Option.some.sizeOf_spec]
  omega

theorem sizeOf_arrayItems_lt {s i : Schema} (h : s.arrayItems? = some i) :
    sizeOf i < sizeOf s := by
  unfold arrayItems? at h
  split at h
  · exact sizeOf_items_lt h
  · cases h

theorem sizeOf_property_lt {s c : Schema} {n : String} (h : (n, c) ∈ s.propertyList) :
    sizeOf c < sizeOf s := by
  cases s with
  | mk _ _ _ _ properties =>
    cases properties with
    | none => simp [propertyList] at h
    | some ps =>
      simp only [propertyList, Option.getD_some] at h
      have := List.sizeOf_lt_of_mem h
      simp only [Prod.mk.sizeOf_spec] at this
      simp only [Schema.mk.sizeOf_spec, Option.some.sizeOf_spec]
      omega

end Schema

end SdkModel
