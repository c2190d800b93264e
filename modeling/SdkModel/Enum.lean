import SdkModel.Schema.Nesting
import SdkModel.Value.Display

/-!
# Enums

An enum is a named list of values, declared by a string schema or by the items of an array. Values
that are marked deprecated stay declared: `validValues` and `deprecatedValues` part `values`.
-/

namespace SdkModel

/-- The parameter option that says that a blank is no value. -/
def blankNotAllowed : String := "not_allowed"

structure Enum where
  name : String
  schema : Schema

namespace Enum

/-- Every declared value, in declaration order. The values of a string schema are shown as text;
of the values of items only the texts count. -/
def values (e : Enum) : List String :=
  match e.schema.shape, e.schema.enum with
  | .string, some vs => vs.map Value.display
  | .array, _ => ((e.schema.items.bind (·.enum)).getD []).filterMap Value.text?
  | _, _ => []

/-- The marks of the schema, or of its items when the schema has none. -/
def marked (e : Enum) : List String :=
  match e.schema.extensions.deprecatedEnumValues with
  | [] => (e.schema.items.map (·.extensions.deprecatedEnumValues)).getD []
  | marks => marks

def deprecatedValues (e : Enum) : List String := e.values.filter (· ∈ e.marked)

def validValues (e : Enum) : List String := e.values.filter (· ∉ e.marked)

/-- The name of the global enum that the schema points at: the last segment of the reference up to
its first point. -/
def globalReference? (e : Enum) : Option String :=
  e.schema.extensions.globalEnumReference.map fun r =>
    Text.beforeFirst '.' (Text.afterLast '/' r)

def isParamBlankOption (e : Enum) : Bool :=
  e.schema.extensions.parameterBlankOption = some blankNotAllowed

/-- What two enums share when one of them is dropped as a duplicate. -/
def signature (e : Enum) : String × List String := (e.name, e.validValues)

def toValue (e : Enum) : Value := .record [
  ("name", .text e.name), ("values", .texts e.values), ("valid_values", .texts e.validValues),
  ("deprecated_values", .texts e.deprecatedValues),
  ("global_enum_reference", .optText e.globalReference?)]

end Enum

end SdkModel
