import SdkModel.Action.Basic

/-!
# Body keys sent as JSON

A form body sends some of its values as JSON text: those of free objects, which have no properties
map, and of arrays whose items have no type. `Action.jsonKeys` lists the keys of such values with
their nesting level. Arrays with typed items count as their items; hidden fields are passed over.
-/

namespace SdkModel

/-- A key of the body and how deep it is nested. -/
structure JsonKey where
  key : String
  level : Nat
deriving DecidableEq, Repr

namespace JsonKey

mutual

/-- The JSON keys of the field `key` with schema `s`. -/
def ofField (qa : Bool) (level : Nat) (key : String) (s : Schema) : List JsonKey :=
  if s.isHidden qa then []
  else if s.type = some "object" then
    match _h : s.properties with
    | none => [⟨key, level⟩]
    | some ps => ofFields qa (level + 1) ps
  else
    match _h : s.arrayItems? with
    | none => []
    | some items => if items.type.isNone then [⟨key, level⟩] else ofField qa level key items
termination_by sizeOf s
decreasing_by
  · cases s
    simp_all only [Schema.mk.sizeOf_spec, Option.some.sizeOf_spec]
    omega
  · exact Schema.sizeOf_arrayItems_lt _h

/-- The JSON keys of a properties map, in declaration order. -/
def ofFields (qa : Bool) (level : Nat) (fields : List (String × Schema)) : List JsonKey :=
  match fields with
  | [] => []
  | (key, s) :: rest => ofField qa level key s ++ ofFields qa level rest
termination_by sizeOf fields
decreasing_by
  all_goals
    simp only [List.cons.sizeOf_spec, Prod.mk.sizeOf_spec]
    omega

end

def toValue (k : JsonKey) : Value := .record [(k.key, .ofNat k.level)]

end JsonKey

namespace Action

/-- The body keys whose values are sent as JSON, each with its level once. -/
def jsonKeys (a : Action) : List JsonKey :=
  match a.objectBody? with
  | some s => (JsonKey.ofFields a.qa 0 s.propertyList).eraseDups
  | none => []

def toValue (a : Action) : Value :=
  let parameters (ps : List Parameter) : Value := .list (ps.map Parameter.toValue)
  .record ([("id", a.id), ("name", .text a.name), ("method", .text a.method.word),
    ("url", .text a.url), ("url_prefix", .text a.urlParts.first),
    ("url_suffix", .text a.urlParts.last), ("description", a.description),
    ("sort_order", .int a.sortOrder), ("is_list", .bool a.isList),
    ("is_deprecated", .bool a.deprecated),
    ("needs_json_input", .bool a.extensions.needsJsonInput),
    ("path_parameters", parameters a.pathParameters),
    ("query_parameters", parameters a.visibleQueryParameters),
    ("request_body_parameters", parameters a.visibleBodyParameters),
    ("is_all_request_body_params_optional", .bool a.allBodyOptional),
    ("is_all_query_params_optional", .bool a.allQueryOptional),
    ("json_keys", .list (a.jsonKeys.map JsonKey.toValue)),
    ("options", .record (a.options.map fun o => (o.1, .bool o.2)))] ++
    (match a.extensions.subDomain with
      | some d => [("sub_domain", .text d)]
      | none => []))

end Action

end SdkModel
