import SdkModel.Spec.Basic

/-!
# Enum sets

The enums generated for a document and for each of its resources. Global enums are component
schemas. The local enums of a resource are declared inline by its attributes or one level below
them. An enum without a schema of its own is declared only by the fields of an object input; it
belongs to the resource that the input's model names, unless that resource has an attribute of the
field's name.

A name is generated once: the first enum of a name is kept (`Enum.firstOfName`), in the order
schema-less enums, inline enums, nested fields.
-/

namespace SdkModel

namespace Enum

/-- The enums that are the first of their name. -/
def firstOfName (taken : List String) : List Enum → List Enum
  | [] => []
  | e :: rest =>
    if e.name ∈ taken then firstOfName taken rest
    else e :: firstOfName (e.name :: taken) rest

def dedupe (es : List Enum) : List Enum := firstOfName [] es

/-- The records on the enums that are dropped; `owner` is whose enums they are. -/
def duplicateLog (owner : String) (taken : List String) : List Enum → Log
  | [] => []
  | e :: rest =>
    if e.name ∈ taken then
      let of := if owner = "" then "" else " in " ++ owner
      ⟨.debug, "Duplicate enum " ++ e.name ++ of ++ " (ignored)"⟩ :: duplicateLog owner taken rest
    else duplicateLog owner (e.name :: taken) rest

def dedupeLog (owner : String) (es : List Enum) : Log := duplicateLog owner [] es

/-- The enums that are the first of their signature. -/
def firstOfSignature (seen : List (String × List String)) : List Enum → List Enum
  | [] => []
  | e :: rest =>
    if e.signature ∈ seen then firstOfSignature seen rest
    else e :: firstOfSignature (e.signature :: seen) rest

end Enum

namespace Attribute

/-- The name of an enum that a field of this attribute declares: by the type of the attribute where
that is not its singular name, and else by that name. -/
def nestedEnumName (parent field : Attribute) : String :=
  let own := singular parent.name
  let base := match parent.traits.subResourceName.filter (· ≠ "") with
    | some type => if type = Naming.camel own then own else Naming.snake type
    | none => own
  base ++ "_" ++ field.name

/-- The name of an enum that a field of an input declares. -/
def inputEnumName (holder field : Attribute) : String := singular holder.name ++ "_" ++ field.name

def isLocalEnum (a : Attribute) : Bool := a.schema.isEnum && !a.schema.isGlobalEnum

def isExternalEnum (a : Attribute) : Bool := a.schema.hasFlag (·.isExternalEnum)

/-- An input whose fields may declare enums: a visible plain object with properties. -/
def isEnumHolder (a : Attribute) : Bool :=
  a.schema.type = some "object" && a.schema.properties.isSome && a.schema.items.isNone &&
    a.isVisible && !a.isFilter

/-- The resource that owns the model of an input, by name. -/
def ownerName (holder field : Attribute) : String :=
  let model := (field.traits.metaModelName.filter (· ≠ "")).getD holder.name
  Naming.capitalize (Naming.title (singular model))

end Attribute

namespace Action

/-- The inputs of an action as attributes: body fields, then query parameters. -/
def inputs (a : Action) : List Attribute :=
  (a.bodyParameters ++ a.queryParameters).map (·.asAttribute)

end Action

namespace Resource

/-- The enums declared by the nested fields of visible attributes. -/
def nestedEnums (r : Resource) : List Enum :=
  r.visibleAttributes.flatMap fun a =>
    (a.nested.filter fun f => f.isLocalEnum && !f.isExternalEnum).map fun f =>
      f.enumNamed (a.nestedEnumName f)

/-- Every inline and nested enum of a resource. -/
def localCandidates (r : Resource) : List Enum := r.enums ++ r.nestedEnums

def localEnums (r : Resource) : List Enum := Enum.dedupe r.localCandidates

/-- The enum of a field of an input found in `scanned`, when it belongs to `r`. -/
def schemalessEnum? (r : Resource) (resources : List Resource) (scanned : Resource)
    (holder field : Attribute) : Option Enum :=
  if !field.isLocalEnum || field.traits.isDeprecated || scanned.hasAttribute holder.name then none
  else
    let named := resources.filter (·.name = holder.ownerName field)
    match named.getLast? with
    | none => none
    | some owner =>
      if owner.hasAttribute field.name || owner.name ≠ r.name then none
      else some (field.enumNamed (holder.inputEnumName field))

/-- The enums of action inputs that belong to `r`, in the order in which they are met. -/
def schemalessCandidates (r : Resource) (resources : List Resource) : List Enum :=
  resources.flatMap fun scanned =>
    scanned.sortedActions.flatMap fun action =>
      (action.inputs.filter (·.isEnumHolder)).flatMap fun holder =>
        holder.nested.filterMap (r.schemalessEnum? resources scanned holder)

/-- The schema-less enums of a resource before those of one name are dropped. -/
def schemalessFound (r : Resource) (resources : List Resource) : List Enum :=
  Enum.firstOfSignature [] (r.schemalessCandidates resources)

def schemalessEnums (r : Resource) (resources : List Resource) : List Enum :=
  Enum.dedupe (r.schemalessFound resources)

/-- The enums generated for a resource, one per name. -/
def generatedEnums (r : Resource) (resources : List Resource) : List Enum :=
  Enum.dedupe (r.schemalessEnums resources ++ r.localEnums)

/-- What is logged when the enums of a resource are collected. -/
def generatedEnumsLog (r : Resource) (resources : List Resource) : Log :=
  Enum.dedupeLog r.name (r.schemalessFound resources) ++ Enum.dedupeLog r.name r.localCandidates ++
    Enum.dedupeLog r.name (r.schemalessEnums resources ++ r.localEnums)

end Resource

end SdkModel
