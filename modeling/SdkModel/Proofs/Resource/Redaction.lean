import SdkModel.Proofs.Order
import SdkModel.Proofs.Schema.Redaction
import SdkModel.Spec.EnumSets

/-!
# Redacted resources

What is generated from the visible attributes of a resource is generated from its redaction: the
attributes themselves, the nested resources and the enums, each redacted. The references to
resources generated elsewhere are not among them.
-/

namespace SdkModel

/-! ## Enums -/

namespace Enum

/-- What is generated from an enum. -/
def face (e : Enum) : String × List String × List String := (e.name, e.values, e.marked)

def redact (e : Enum) : Enum := { e with schema := e.schema.redact }

/-- The name and the values of an enum are not redacted. -/
@[simp] theorem face_redact (e : Enum) : e.redact.face = e.face := by
  have hvalues : e.redact.values = e.values := by
    simp only [redact, values, Schema.shape_redact, Schema.redact_enum, Schema.redact_items]
    cases e.schema.items with
    | none => rfl
    | some i => simp only [Option.map_some, Option.bind_some, Schema.redact_enum]
  have hmarked : e.redact.marked = e.marked := by
    simp only [redact, marked, Schema.redact_extensions, Schema.redact_items]
    cases e.schema.items with
    | none => rfl
    | some i => simp only [Option.map_some, Schema.redact_extensions]
  rw [face, face, hvalues, hmarked]
  rfl

theorem name_eq_of_face_eq {e f : Enum} (h : e.face = f.face) : e.name = f.name :=
  congrArg (·.1) h

/-- Which enums of a name are kept is seen on what is generated from them. -/
theorem map_face_firstOfName {taken : List String} {es fs : List Enum}
    (h : es.map face = fs.map face) :
    (firstOfName taken es).map face = (firstOfName taken fs).map face := by
  induction es generalizing taken fs with
  | nil =>
    cases fs with
    | nil => rfl
    | cons f fs => cases h
  | cons e es ih =>
    cases fs with
    | nil => cases h
    | cons f fs =>
      rw [List.map_cons, List.map_cons, List.cons.injEq] at h
      obtain ⟨hface, hrest⟩ := h
      rw [firstOfName, firstOfName, name_eq_of_face_eq hface]
      split
      · exact ih hrest
      · rw [List.map_cons, List.map_cons, hface, ih hrest]

/-- Which of the enums of a name is kept depends on their names only. -/
theorem map_face_dedupe {es fs : List Enum} (h : es.map face = fs.map face) :
    (dedupe es).map face = (dedupe fs).map face := map_face_firstOfName h

end Enum

/-! ## Attributes -/

namespace Attribute

def redact (a : Attribute) : Attribute := { a with schema := a.schema.redact }

variable {a : Attribute}

@[simp] theorem redact_name (a : Attribute) : a.redact.name = a.name := rfl
@[simp] theorem redact_schema (a : Attribute) : a.redact.schema = a.schema.redact := rfl
@[simp] theorem redact_qa (a : Attribute) : a.redact.qa = a.qa := rfl

theorem qa_of_redact_eq {b : Attribute} (h : a.redact = b.redact) (hqa : a.qa = false) :
    b.qa = false := (congrArg Attribute.qa h).symm.trans hqa

@[simp] theorem sortOrder_redact (a : Attribute) : a.redact.sortOrder = a.sortOrder :=
  Schema.sortOrder_redact a.schema

/-- Without QA mode an attribute keeps its kind, since that is read of what is visible. -/
theorem kind_redact (hqa : a.qa = false) : a.redact.kind = a.kind := by
  rw [kind, kind, redact_qa, hqa]
  exact Schema.kindOf_redact a.name a.schema

theorem isFilter_redact (hqa : a.qa = false) : a.redact.isFilter = a.isFilter := by
  rw [isFilter, isFilter, redact_qa, hqa]
  exact Schema.isFilter_redact a.schema

@[simp] theorem subResourceName_redact (a : Attribute) :
    a.redact.traits.subResourceName = a.traits.subResourceName :=
  Schema.ownOrItemName?_redact a.schema _

/-- The fields of a redacted attribute are the redacted fields. -/
theorem nested_redact (hqa : a.qa = false) : a.redact.nested = a.nested.map redact := by
  rw [nested, nested, redact_qa, hqa, redact_schema, Schema.visibleChildren_redact, List.map_map,
    List.map_map]
  rfl

@[simp] theorem isLocalEnum_redact (a : Attribute) : a.redact.isLocalEnum = a.isLocalEnum := by
  rw [isLocalEnum, isLocalEnum, redact_schema, Schema.isEnum_redact, Schema.isGlobalEnum_redact]

@[simp] theorem isExternalEnum_redact (a : Attribute) :
    a.redact.isExternalEnum = a.isExternalEnum := Schema.hasFlag_redact a.schema _

@[simp] theorem nestedEnumName_redact (a f : Attribute) :
    a.redact.nestedEnumName f.redact = a.nestedEnumName f := by
  rw [nestedEnumName, nestedEnumName, subResourceName_redact]
  rfl

end Attribute

/-! ## Resources -/

namespace Resource

def redact (r : Resource) : Resource := { r with schema := r.schema.redact }

variable {r : Resource}

@[simp] theorem redact_name (r : Resource) : r.redact.name = r.name := rfl
@[simp] theorem redact_id (r : Resource) : r.redact.id = r.id := rfl
@[simp] theorem redact_qa (r : Resource) : r.redact.qa = r.qa := rfl
@[simp] theorem redact_actions (r : Resource) : r.redact.actions = r.actions := rfl
@[simp] theorem redact_schema (r : Resource) : r.redact.schema = r.schema.redact := rfl

theorem qa_of_redact_eq {s : Resource} (h : r.redact = s.redact) (hqa : r.qa = false) :
    s.qa = false := (congrArg Resource.qa h).symm.trans hqa

@[simp] theorem sortOrder_redact (r : Resource) : r.redact.sortOrder = r.sortOrder := by
  rw [sortOrder, sortOrder, redact_schema, Schema.redact_extensions]
  rfl

/-- The attributes are those of the properties, in the same order. -/
theorem attributes_redact (r : Resource) : r.redact.attributes = r.attributes.map fun a =>
    { a with schema := (Schema.redactProperty (a.name, a.schema)).2 } := by
  rw [attributes, attributes, redact_schema, Schema.propertyList_redact,
    Schema.requiredNames_redact, List.map_map, List.map_map]
  rfl

/-- A hidden attribute is still there under its name. -/
@[simp] theorem hasAttribute_redact (r : Resource) (name : String) :
    r.redact.hasAttribute name = r.hasAttribute name := by
  rw [hasAttribute, hasAttribute, attributes_redact, List.any_map]
  rfl

/-- Hidden attributes are not listed before redaction nor after it. -/
theorem visibleAttributes_redact (hqa : r.qa = false) :
    r.redact.visibleAttributes = r.visibleAttributes.map Attribute.redact := by
  have hqas : ∀ a ∈ r.attributes, a.qa = false := by
    intro a ha
    obtain ⟨p, -, rfl⟩ := List.mem_map.1 ha
    exact hqa
  rw [visibleAttributes, visibleAttributes, attributes_redact, List.filter_map]
  have hfilter : r.attributes.filter ((·.isVisible) ∘ fun a : Attribute =>
      { a with schema := (Schema.redactProperty (a.name, a.schema)).2 }) =
      r.attributes.filter (·.isVisible) := by
    refine List.filter_congr fun a ha => ?_
    have hvisible := Schema.isVisible_redactProperty (a.name, a.schema)
    simp only [Function.comp_apply, Attribute.isVisible, hqas a ha, hvisible]
  rw [hfilter]
  refine List.map_congr_left fun a ha => ?_
  obtain ⟨hmem, hvisible⟩ := List.mem_filter.1 ha
  rw [Attribute.isVisible, hqas a hmem] at hvisible
  rw [Schema.redactProperty_of_not_hidden (Schema.not_isHidden_of_isVisible hvisible)]
  rfl

theorem qa_of_mem_visibleAttributes (hqa : r.qa = false) {a : Attribute}
    (h : a ∈ r.visibleAttributes) : a.qa = false := by
  obtain ⟨p, -, rfl⟩ := List.mem_map.1 (List.mem_filter.1 h).1
  exact hqa

theorem sortedAttributes_redact (hqa : r.qa = false) :
    r.redact.sortedAttributes = r.sortedAttributes.map Attribute.redact := by
  rw [sortedAttributes, sortedAttributes, visibleAttributes_redact hqa, sortByOrder_map]
  simp only [Attribute.sortOrder_redact]

/-! ## Enums of a resource -/

theorem enums_redact (hqa : r.qa = false) : r.redact.enums = r.enums.map Enum.redact := by
  rw [enums, enums, visibleAttributes_redact hqa, List.filter_map, List.map_map, List.map_map]
  simp only [Function.comp_def, Attribute.redact_schema, Schema.isEnum_redact,
    Schema.isGlobalEnum_redact]
  rfl

theorem nestedEnums_redact (hqa : r.qa = false) :
    r.redact.nestedEnums = r.nestedEnums.map Enum.redact := by
  rw [nestedEnums, nestedEnums, visibleAttributes_redact hqa, List.flatMap_map, List.map_flatMap]
  refine List.flatMap_congr fun a ha => ?_
  rw [Attribute.nested_redact (qa_of_mem_visibleAttributes hqa ha), List.filter_map, List.map_map,
    List.map_map]
  simp only [Function.comp_def, Attribute.isLocalEnum_redact, Attribute.isExternalEnum_redact,
    Attribute.nestedEnumName_redact]
  rfl

/-- The enums that a resource declares have the same names and values. -/
theorem map_face_localEnums_redact (hqa : r.qa = false) :
    r.redact.localEnums.map Enum.face = r.localEnums.map Enum.face := by
  refine Enum.map_face_dedupe ?_
  rw [localCandidates, localCandidates, enums_redact hqa, nestedEnums_redact hqa,
    ← List.map_append, List.map_map]
  simp only [Function.comp_def, Enum.face_redact]

/-- The owner of a model is found by its name, which is not redacted. -/
theorem lastNamed_redact (resources : List Resource) (name : String) :
    ((resources.map redact).filter (·.name = name)).getLast? =
      (resources.filter (·.name = name)).getLast?.map redact := by
  rw [List.filter_map, List.getLast?_map]
  rfl

/-- An enum of an input is looked up by names and by which attributes there are. -/
theorem schemalessEnum?_redact (r : Resource) (resources : List Resource) (scanned : Resource)
    (holder field : Attribute) :
    r.redact.schemalessEnum? (resources.map redact) scanned.redact holder field =
      r.schemalessEnum? resources scanned holder field := by
  rw [schemalessEnum?, schemalessEnum?, hasAttribute_redact]
  simp only [lastNamed_redact]
  generalize (resources.filter (·.name = holder.ownerName field)).getLast? = named
  cases named with
  | none => rfl
  | some owner =>
    simp only [Option.map_some, hasAttribute_redact]
    rfl

/-- Enums of action inputs are found in the actions; of the resources only names are read. -/
theorem schemalessEnums_redact (r : Resource) (resources : List Resource) :
    r.redact.schemalessEnums (resources.map redact) = r.schemalessEnums resources := by
  have hcandidates : r.redact.schemalessCandidates (resources.map redact) =
      r.schemalessCandidates resources := by
    rw [schemalessCandidates, schemalessCandidates, List.flatMap_map]
    have hactions (s : Resource) : s.redact.sortedActions = s.sortedActions := rfl
    have hfound (s : Resource) (holder : Attribute) :
        r.redact.schemalessEnum? (resources.map redact) s.redact holder =
          r.schemalessEnum? resources s holder :=
      funext (schemalessEnum?_redact r resources s holder)
    simp only [hactions, hfound]
  rw [schemalessEnums, schemalessEnums, schemalessFound, schemalessFound, hcandidates]

/-- The enums that are generated for a resource have the same names and values. -/
theorem map_face_generatedEnums_redact (hqa : r.qa = false) (resources : List Resource) :
    (r.redact.generatedEnums (resources.map redact)).map Enum.face =
      (r.generatedEnums resources).map Enum.face := by
  refine Enum.map_face_dedupe ?_
  rw [schemalessEnums_redact, List.map_append, List.map_append, map_face_localEnums_redact hqa]

/-! ## Nested resources -/

theorem subResourceName_redact (key : String) (s : Schema) :
    subResourceName key s.redact = subResourceName key s := by
  rw [subResourceName, subResourceName, Schema.isArray_redact, Schema.redact_extensions]

/-- No nested resource is taken out of a hidden property. -/
theorem holdsSubResource_redactProperty (p : String × Schema) :
    holdsSubResource false (Schema.redactProperty p).2 = holdsSubResource false p.2 := by
  rw [holdsSubResource, holdsSubResource, Schema.isHidden_redactProperty]
  cases h : p.2.isHidden false with
  | true => rw [Bool.not_true, Bool.and_false, Bool.and_false]
  | false =>
    rw [Schema.redactProperty_of_not_hidden h, Schema.isSubResource_redact,
      Schema.isGlobalReference_redact]

/-- The nested resources of a redacted resource are the redacted ones. -/
theorem heldSubResources_redact (hqa : r.qa = false) :
    r.redact.heldSubResources = r.heldSubResources.map redact := by
  rw [heldSubResources, heldSubResources, redact_qa, hqa, redact_schema,
    Schema.propertyList_redact, List.filter_map, List.map_map, List.map_map]
  simp only [Function.comp_def, holdsSubResource_redactProperty]
  refine List.map_congr_left fun p hp => ?_
  have hholds : holdsSubResource false p.2 = true := (List.mem_filter.1 hp).2
  rw [holdsSubResource, Bool.and_eq_true, Bool.not_eq_true'] at hholds
  rw [Schema.redactProperty_of_not_hidden hholds.2, subResourceOf, subResourceOf,
    subResourceName_redact, Schema.itemsOrSelf_redact, Schema.redact_extensions]
  rfl

theorem firstOfName_map_redact (taken : List String) (rs : List Resource) :
    (firstOfName taken (rs.map redact)).1 = (firstOfName taken rs).1.map redact := by
  induction rs generalizing taken with
  | nil => rfl
  | cons r rs ih =>
    rw [List.map_cons, firstOfName, firstOfName, redact_name]
    split
    · exact ih taken
    · exact congrArg (r.redact :: ·) (ih (r.name :: taken))

/-- Nested resources are sorted and cleared of repetitions by what redaction keeps. -/
theorem sortedSubResources_redact (hqa : r.qa = false) :
    r.redact.sortedSubResources = r.sortedSubResources.map redact := by
  rw [sortedSubResources, sortedSubResources, subResources, subResources,
    heldSubResources_redact hqa, firstOfName_map_redact, sortByOrder_map]
  simp only [sortOrder_redact]

theorem qa_of_mem_sortedSubResources (hqa : r.qa = false) {s : Resource}
    (h : s ∈ r.sortedSubResources) : s.qa = false := by
  obtain ⟨p, -, rfl⟩ := List.mem_map.1 (mem_of_mem_firstOfName (mem_sortByOrder.1 h))
  exact hqa

end Resource

end SdkModel
