import SdkModel.Value.Basic

/-!
# Shaped parameters

A request parameter as a backend renders it. A nested object is addressed as `parent[child]` and an
indexed list as `parent[child][index]`; both carry their fields.
-/

namespace SdkModel

/-- How a request parameter is passed. -/
inductive ParameterKind where
  | value
  | enum
  | filter
  | sort
  | nestedObject
  | indexedList
deriving DecidableEq, Repr

namespace ParameterKind

def word : ParameterKind → String
  | value => "value"
  | enum => "enum"
  | filter => "filter"
  | sort => "sort"
  | nestedObject => "nested_object"
  | indexedList => "indexed_list"

/-- The parameter carries fields. -/
def isContainer : ParameterKind → Bool
  | nestedObject | indexedList => true
  | _ => false

end ParameterKind

structure ShapedParameter where
  name : String
  kind : ParameterKind
  type : String
  isRequired : Bool := false
  isDeprecated : Bool := false
  sortOrder : Int := -1
  fields : List ShapedParameter := []

namespace ShapedParameter

def toValue (p : ShapedParameter) : Value := .record [
  ("name", .text p.name), ("kind", .text p.kind.word), ("type", .text p.type),
  ("is_required", .bool p.isRequired), ("is_deprecated", .bool p.isDeprecated),
  ("sort_order", .int p.sortOrder),
  ("fields", .list (p.fields.attach.map fun f => f.1.toValue))]
termination_by sizeOf p
decreasing_by
  have := List.sizeOf_lt_of_mem f.2
  cases p
  simp only [ShapedParameter.mk.sizeOf_spec] at *
  omega

end ShapedParameter

end SdkModel
