import SdkModel.Action.JsonKeys
import SdkModel.Resource.Traits
import SdkModel.Version

/-!
# Resources

A generated type with its actions. The properties of its schema part by two traits: a sub-resource
that is no reference to a resource generated elsewhere is a nested type of this resource
(`subResources`), and one that is such a reference is a dependent resource. Nested resources are
made from the property schema, from the items for an array, and have no actions.
-/

namespace SdkModel

structure Resource where
  name : String
  schema : Schema
  id : Option String
  /-- The sort order that the holder of a nested resource gives it. -/
  givenOrder : Option Int
  qa : Bool
  actions : List Action

/-- The type of a nested resource held under `key`: the singular for an array, and else the name
that its schema gives. -/
def subResourceName (key : String) (s : Schema) : String :=
  if s.isArray then singular (Naming.title key)
  else (s.extensions.subResourceName.filter (· ≠ "")).getD (Naming.camel key)

/-- The type of a dependent resource held under `key`. -/
def dependentName (key : String) (s : Schema) : String :=
  (s.itemsOrSelf.extensions.subResourceName.filter (· ≠ "")).getD (Naming.camel (singular key))

namespace Resource

/-- A resource by its schema; hidden actions are dropped. -/
def make (name : String) (schema : Schema) (qa : Bool) (actions : List Action) : Resource :=
  { name, schema, qa
    id := schema.extensions.resourceId
    givenOrder := none
    actions := actions.filter (!·.isHidden) }

/-- A resource without actions that is nested in another one. -/
def makeNested (name : String) (schema : Schema) (qa : Bool) (id : String) (order : Option Int) :
    Resource :=
  { name, schema, qa, id := some id, givenOrder := order, actions := [] }

def traits (r : Resource) : ResourceTraits := r.schema.classifyResource r.qa

def sortOrder (r : Resource) : Int := r.givenOrder.getD r.schema.extensions.sortOrder

def isHidden (r : Resource) : Bool := r.schema.isHidden r.qa

def isThirdParty (r : Resource) : Bool := r.schema.isThirdParty r.qa

/-- The path segment: as given, or the plural of the id. -/
def pathName? (r : Resource) : Option String :=
  match r.schema.extensions.resourcePathName.filter (· ≠ "") with
  | some path => some path
  | none => (r.id.filter (· ≠ "")).map plural

def catalogVersion? (r : Resource) : Option CatalogVersion :=
  CatalogVersion.ofTag r.schema.extensions.productCatalogVersion

/-! ## Attributes and enums -/

/-- Every property, hidden ones included, in declaration order. -/
def attributes (r : Resource) : List Attribute :=
  r.schema.propertyList.map fun p => ⟨p.1, p.2, p.1 ∈ r.schema.requiredNames, r.qa⟩

def visibleAttributes (r : Resource) : List Attribute := r.attributes.filter (·.isVisible)

def sortedAttributes (r : Resource) : List Attribute :=
  sortByOrder Attribute.sortOrder r.visibleAttributes

def hasAttribute (r : Resource) (name : String) : Bool := r.attributes.any (·.name = name)

/-- The enums that visible attributes declare inline. -/
def enums (r : Resource) : List Enum :=
  (r.visibleAttributes.filter fun a => a.schema.isEnum && !a.schema.isGlobalEnum).map (·.enum)

def globalEnumAttributes (r : Resource) : List Attribute :=
  r.visibleAttributes.filter fun a => a.schema.isEnum && a.schema.isGlobalEnum

def hasDependentAttributes (r : Resource) : Bool :=
  r.attributes.any (·.schema.extensions.isDependentAttribute)

/-! ## Nested resources -/

/-- A property that holds a nested type of this resource. -/
def holdsSubResource (qa : Bool) (s : Schema) : Bool :=
  s.isSubResource && !s.isGlobalReference && !s.isHidden qa

/-- The nested resource that a property holds. -/
def subResourceOf (qa : Bool) (p : String × Schema) : Resource :=
  makeNested (subResourceName p.1 p.2) p.2.itemsOrSelf qa p.1 (some p.2.extensions.sortOrder)

/-- The nested resources of all properties, in declaration order. -/
def heldSubResources (r : Resource) : List Resource :=
  (r.schema.propertyList.filter fun p => holdsSubResource r.qa p.2).map (subResourceOf r.qa)

/-- The resources that are the first of their name, and those that are not. -/
def firstOfName (taken : List String) : List Resource → List Resource × List Resource
  | [] => ([], [])
  | s :: rest =>
    if s.name ∈ taken then
      let (kept, dropped) := firstOfName taken rest
      (kept, s :: dropped)
    else
      let (kept, dropped) := firstOfName (s.name :: taken) rest
      (s :: kept, dropped)

/-- The nested types of this resource, the first of each name. -/
def subResources (r : Resource) : List Resource := (firstOfName [] r.heldSubResources).1

def duplicateSubResources (r : Resource) : List Resource := (firstOfName [] r.heldSubResources).2

/-- What is logged when the nested types are listed. -/
def subResourceLog (r : Resource) : Log :=
  r.duplicateSubResources.map fun s =>
    ⟨.debug, "Duplicate sub-resource " ++ s.name ++ " on " ++ r.name ++ " (ignored)"⟩

def sortedSubResources (r : Resource) : List Resource := sortByOrder sortOrder r.subResources

/-- The properties that refer to resources generated elsewhere. -/
def dependentProperties (r : Resource) : List (String × Schema) :=
  r.schema.propertyList.filter fun p => p.2.isSubResource && p.2.isGlobalReference

def dependentOf (qa : Bool) (p : String × Schema) : Resource :=
  makeNested (dependentName p.1 p.2) p.2.itemsOrSelf qa p.1 none

def dependentResources (r : Resource) : List Resource :=
  r.dependentProperties.map (dependentOf r.qa)

def singularDependents (r : Resource) : List Resource :=
  (r.dependentProperties.filter (!·.2.isArray)).map (dependentOf r.qa)

def listDependents (r : Resource) : List Resource :=
  (r.dependentProperties.filter (·.2.isArray)).map (dependentOf r.qa)

/-! ## Actions -/

/-- The actions of generated code, in sort order. -/
def sortedActions (r : Resource) : List Action :=
  sortByOrder Action.sortOrder (r.actions.filter (!·.isExcluded))

def hasListOperations (r : Resource) : Bool := r.actions.any (·.isList)

/-- The payload parameters of every action, in sort order of the actions. -/
def responseList (r : Resource) : List ResponseParameter :=
  (sortByOrder Action.sortOrder r.actions).flatMap (·.response.parameters)

def supportsAdditionalProperties (r : Resource) : Bool := r.schema.isOpenMap

def supportsCustomFields (r : Resource) : Bool := r.schema.extensions.isCustomFieldsSupported

theorem sizeOf_itemsOrSelf_le (s : Schema) : sizeOf s.itemsOrSelf ≤ sizeOf s := by
  unfold Schema.itemsOrSelf
  cases h : s.arrayItems? with
  | none => exact Nat.le_refl _
  | some i => exact Nat.le_of_lt (Schema.sizeOf_arrayItems_lt h)

theorem mem_of_mem_firstOfName {taken : List String} {rs : List Resource} {s : Resource}
    (h : s ∈ (firstOfName taken rs).1) : s ∈ rs := by
  induction rs generalizing taken with
  | nil => exact h
  | cons r rest ih =>
    unfold firstOfName at h
    split at h
    · exact List.mem_cons_of_mem _ (ih h)
    · rcases List.mem_cons.1 h with rfl | h
      · exact List.mem_cons_self
      · exact List.mem_cons_of_mem _ (ih h)

theorem sizeOf_subResource_lt {r s : Resource} (h : s ∈ r.sortedSubResources) :
    sizeOf s.schema < sizeOf r.schema := by
  have h := mem_of_mem_firstOfName (mem_sortByOrder.1 h)
  obtain ⟨p, hp, rfl⟩ := List.mem_map.1 h
  exact Nat.lt_of_le_of_lt (sizeOf_itemsOrSelf_le p.2)
    (Schema.sizeOf_property_lt (n := p.1) (List.mem_filter.1 hp).1)

def toValue (r : Resource) : Value := .record [
  ("id", .optText r.id), ("name", .text r.name), ("path_name", .optText r.pathName?),
  ("sort_order", .int r.sortOrder),
  ("product_catalog_version", .optInt (r.catalogVersion?.map (·.number))),
  ("attributes", .list (r.sortedAttributes.map Attribute.toValue)),
  ("enums", .list (r.enums.map Enum.toValue)),
  ("actions", .list (r.sortedActions.map Action.toValue)),
  ("sub_resources", .list (r.sortedSubResources.attach.map fun s => s.1.toValue)),
  ("dependent_resources", .texts (r.dependentResources.map (·.name))),
  ("has_list_operations", .bool r.hasListOperations),
  ("is_custom_field_supported", .bool r.supportsCustomFields),
  ("is_additional_properties_supported", .bool r.supportsAdditionalProperties)]
termination_by sizeOf r.schema
decreasing_by exact sizeOf_subResource_lt s.2

end Resource

end SdkModel
