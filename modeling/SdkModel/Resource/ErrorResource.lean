import SdkModel.Resource.Basic

/-!
# Error resources

A component schema that declares an error code and a message describes an error of the API. Every
error has some fields in common; an error resource lists the visible ones that it adds.
-/

namespace SdkModel

/-- The fields that every error has. -/
def commonErrorFields : List String :=
  ["message", "error_msg", "type", "error_code", "api_error_code"]

def Schema.isError (s : Schema) : Bool :=
  Assoc.has s.propertyList "api_error_code" && Assoc.has s.propertyList "message"

structure ErrorResource where
  name : String
  schema : Schema
  qa : Bool

namespace ErrorResource

/-- The visible fields that the error adds, in sort order. -/
def attributes (e : ErrorResource) : List Attribute :=
  let all : List Attribute := e.schema.propertyList.map fun p =>
    ⟨p.1, p.2, p.1 ∈ e.schema.requiredNames, e.qa⟩
  sortByOrder Attribute.sortOrder
    (all.filter fun a => a.name ∉ commonErrorFields && a.isVisible)

def toValue (e : ErrorResource) : Value := .record [
  ("name", .text e.name), ("attributes", .list (e.attributes.map Attribute.toValue))]

end ErrorResource

end SdkModel
