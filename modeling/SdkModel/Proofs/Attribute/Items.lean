import SdkModel.Proofs.Attribute.WithField

/-!
# What an attribute takes over from its items

An array that says nothing itself reads like its items (`sameInherited_of_bareArray`). A schema of
another kind has no use for items: the traits are the same whatever stands there
(`classify_withItems`).
Two questions are asked of the items of any schema all the same, whether they are hidden and which
enum values they mark, and by these two alone a schema that is no array tells its items apart
(`sameViews_withItems_iff`).
-/

namespace SdkModel

namespace Schema

variable {s a : Schema} {items : Option Schema} {qa : Bool}

/-- Only an array consults its items. -/
theorem arrayItems?_of_not_isArray (h : s.isArray = false) : s.arrayItems? = none := by
  rw [arrayItems?, h]
  rfl

theorem itemsOrSelf_of_not_isArray (h : s.isArray = false) : s.itemsOrSelf = s := by
  rw [itemsOrSelf, arrayItems?_of_not_isArray h]
  rfl

/-- Any other schema has the flags and the names that it states itself. -/
theorem isSubResource_of_not_isArray (h : s.isArray = false) :
    s.isSubResource = s.extensions.isSubResource := by
  rw [isSubResource_eq, h]
  rfl

theorem isGlobalReference_of_not_isArray (h : s.isArray = false) :
    s.isGlobalReference = s.extensions.isGlobalResourceReference := by
  rw [isGlobalReference_eq, h]
  rfl

theorem hasFlag_of_not_isArray (h : s.isArray = false) (flag : SchemaExtensions → Bool) :
    s.hasFlag flag = flag s.extensions := by
  rw [hasFlag, itemExtensions?, arrayItems?_of_not_isArray h]
  exact Bool.or_false _

theorem ownOrItemName?_of_not_isArray (h : s.isArray = false)
    (name : SchemaExtensions → Option String) : s.ownOrItemName? name = name s.extensions := by
  rw [ownOrItemName?, itemExtensions?, arrayItems?_of_not_isArray h]
  exact Option.or_none

theorem sortOrder_of_not_isArray (h : s.isArray = false) :
    s.sortOrder = s.extensions.sortOrder := by
  rw [sortOrder, itemExtensions?, arrayItems?_of_not_isArray h]
  exact ite_self _

theorem isTypedList_of_not_isArray (h : s.isArray = false) : s.isTypedList = false := by
  rw [isTypedList, arrayItems?_of_not_isArray h]
  exact Bool.and_false _

/-- Only items make a list of sub-resources. -/
theorem isListOfSubResources_of_not_isArray (h : s.isArray = false) :
    s.isListOfSubResources = false := by
  rw [isListOfSubResources, arrayItems?_of_not_isArray h]
  rfl

theorem isListOfEnum_of_not_isArray (h : s.isArray = false) : s.isListOfEnum = false := by
  rw [isListOfEnum, isTypedList_of_not_isArray h]
  rfl

theorem isListOfSimpleType_of_not_isArray (h : s.isArray = false) :
    s.isListOfSimpleType = false := by
  rw [isListOfSimpleType, isTypedList_of_not_isArray h]
  rfl

/-! ## Other items -/

def withItems (s : Schema) (items : Option Schema) : Schema := { s with items }

/-- The enum values that items mark as deprecated. -/
def marks (items : Option Schema) : List String :=
  (items.map (·.extensions.deprecatedEnumValues)).getD []

/-- A schema is visible when it would be without items and these are not hidden. -/
theorem isVisible_eq (s : Schema) (qa : Bool) : s.isVisible qa =
    ((s.withItems none).isVisible qa && !s.items.any (·.isHidden qa)) := by
  unfold isVisible
  rw [show (s.withItems none).items = none from rfl, Option.any_none, Bool.not_false,
    Bool.and_true]
  rfl

section WithItems

variable (hs : s.isArray = false) (ht : (s.withItems items).isArray = false)

include hs ht

/-- Items make an array of a schema without a type, and of no other. -/
theorem shape_withItems : (s.withItems items).shape = s.shape := by
  rw [isArray, decide_eq_false_iff_not] at hs ht
  unfold shape withItems at *
  split <;> simp_all

/-- The children of a schema that is no array do not depend on its items. -/
theorem children_withItems : (s.withItems items).children = s.children := by
  cases hprops : s.properties with
  | some ps =>
    have hprops' : (s.withItems items).properties = some ps := hprops
    rw [children_of_properties hprops', children_of_properties hprops]
    rfl
  | none =>
    have hprops' : (s.withItems items).properties = none := hprops
    rw [children_of_neither hprops', children_of_neither hprops]
    · intro i hi
      rw [arrayItems?_of_not_isArray hs] at hi
      cases hi
    · intro i hi
      rw [arrayItems?_of_not_isArray ht] at hi
      cases hi

theorem visibleChildren_withItems :
    (s.withItems items).visibleChildren qa = s.visibleChildren qa := by
  rw [visibleChildren, visibleChildren, children_withItems hs ht]

/-- Nor does whether it is a filter. -/
theorem isFilter_withItems : (s.withItems items).isFilter qa = s.isFilter qa := by
  rw [Bool.eq_iff_iff, isFilter_iff, isFilter_iff, visibleChildren_withItems hs ht]
  rfl

theorem isStructuredSubResource_withItems :
    (s.withItems items).isStructuredSubResource = s.isStructuredSubResource := by
  unfold isStructuredSubResource isLeaf
  rw [hasFlag_of_not_isArray hs, hasFlag_of_not_isArray ht, itemsOrSelf_of_not_isArray hs,
    itemsOrSelf_of_not_isArray ht, shape_withItems hs ht]
  rfl

/-- The kind of a schema that is no array does not depend on its items. -/
theorem kindOf_withItems (name : String) :
    (s.withItems items).kindOf name qa = s.kindOf name qa := by
  unfold kindOf isEnum isGlobalEnum isObject
  simp only [isFilter_withItems hs ht, isStructuredSubResource_withItems hs ht,
    shape_withItems hs ht, isSubResource_of_not_isArray, isGlobalReference_of_not_isArray,
    isListOfSubResources_of_not_isArray, isListOfEnum_of_not_isArray,
    isListOfSimpleType_of_not_isArray, itemsOrSelf_of_not_isArray, hs, ht]
  rfl

/-- **Of all traits of a schema that is no array, its items show in visibility alone.** -/
theorem classify_withItems (name : String) : (s.withItems items).classify name qa =
    { s.classify name qa with isHidden := !(s.withItems items).isVisible qa } := by
  unfold classify isEnum isGlobalEnum isObject
  simp only [kindOf_withItems hs ht, isFilter_withItems hs ht, shape_withItems hs ht,
    hasFlag_of_not_isArray, ownOrItemName?_of_not_isArray, sortOrder_of_not_isArray,
    isSubResource_of_not_isArray, isGlobalReference_of_not_isArray,
    isListOfSubResources_of_not_isArray, isTypedList_of_not_isArray, isListOfEnum_of_not_isArray,
    isListOfSimpleType_of_not_isArray, itemsOrSelf_of_not_isArray, arrayItems?_of_not_isArray,
    hs, ht]
  rfl

end WithItems

end Schema

namespace Enum

/-- The same members are taken out of a list exactly when they are judged alike. -/
theorem filter_mem_eq_iff {vs marks others : List String} :
    vs.filter (· ∈ marks) = vs.filter (· ∈ others) ↔ ∀ v ∈ vs, (v ∈ marks ↔ v ∈ others) := by
  constructor
  · intro h v hv
    have hmem : v ∈ vs.filter (· ∈ marks) ↔ v ∈ vs.filter (· ∈ others) := by rw [h]
    simpa [hv] using hmem
  · intro h
    exact List.filter_congr fun v hv => decide_eq_decide.2 (h v hv)

variable {s : Schema} {items : Option Schema} {name : String}

/-- The deprecated values of an enum are those that it marks or, if it marks none, those that its
items mark. -/
theorem mem_marked_iff {e : Enum} {v : String} : v ∈ e.marked ↔
    v ∈ e.schema.extensions.deprecatedEnumValues ∨
      e.schema.extensions.deprecatedEnumValues = [] ∧ v ∈ Schema.marks e.schema.items := by
  unfold marked
  split
  · rename_i h
    simp [h, Schema.marks]
  · rename_i hne
    exact ⟨.inl, fun h => h.resolve_right fun hnone => hne hnone.1⟩

/-- The values of a schema that is no array are its own. -/
theorem values_withItems (hs : s.isArray = false) (ht : (s.withItems items).isArray = false) :
    (⟨name, s.withItems items⟩ : Enum).values = (⟨name, s⟩ : Enum).values := by
  have hne : s.shape ≠ .array := decide_eq_false_iff_not.1 hs
  have henum : (s.withItems items).enum = s.enum := rfl
  unfold values
  simp only [Schema.shape_withItems hs ht, henum]
  cases hshape : s.shape with
  | array => exact absurd hshape hne
  | _ => cases s.enum <;> rfl

end Enum

namespace Attribute

/-- Whatever is asked of the two attributes is answered alike. -/
structure SameViews (a b : Attribute) : Prop where
  traits : a.traits = b.traits
  nested : a.nested = b.nested
  isVisible : a.isVisible = b.isVisible
  values : a.enum.values = b.enum.values
  validValues : a.enum.validValues = b.enum.validValues
  deprecatedValues : a.enum.deprecatedValues = b.enum.deprecatedValues

def withItems (a : Attribute) (items : Option Schema) : Attribute :=
  { a with schema := a.schema.withItems items }

variable {a : Attribute} {items : Option Schema}

/-- Items change whether an attribute is visible when one of two sides hides them. -/
theorem isVisible_withItems_iff : (a.withItems items).isVisible = a.isVisible ↔
    ((a.schema.withItems none).isVisible a.qa = true →
      items.any (·.isHidden a.qa) = a.schema.items.any (·.isHidden a.qa)) := by
  unfold isVisible
  rw [Schema.isVisible_eq, Schema.isVisible_eq a.schema]
  change ((a.schema.withItems none).isVisible a.qa && !items.any (·.isHidden a.qa)) = _ ↔ _
  cases (a.schema.withItems none).isVisible a.qa <;> simp

/-- Items change which values are deprecated where the attribute marks none. -/
theorem mem_marked_withItems_iff {v : String} :
    (v ∈ (a.withItems items).enum.marked ↔ v ∈ a.enum.marked) ↔
      (a.schema.extensions.deprecatedEnumValues = [] →
        (v ∈ Schema.marks items ↔ v ∈ Schema.marks a.schema.items)) := by
  rw [Enum.mem_marked_iff, Enum.mem_marked_iff]
  change (v ∈ a.schema.extensions.deprecatedEnumValues ∨
    a.schema.extensions.deprecatedEnumValues = [] ∧ v ∈ Schema.marks items ↔
    v ∈ a.schema.extensions.deprecatedEnumValues ∨
    a.schema.extensions.deprecatedEnumValues = [] ∧ v ∈ Schema.marks a.schema.items) ↔ _
  by_cases hown : a.schema.extensions.deprecatedEnumValues = []
  · simp [hown]
  · simp [hown]

/-- **A schema that is no array tells its items apart by visibility and by marks alone**: with other
items all answers stay the same exactly when the items are hidden alike, unless the schema is hidden
anyway, and mark the same of the declared values, unless the schema marks some itself. -/
theorem sameViews_withItems_iff (hs : a.schema.isArray = false)
    (ht : (a.withItems items).schema.isArray = false) : SameViews (a.withItems items) a ↔
      ((a.schema.withItems none).isVisible a.qa = true →
        items.any (·.isHidden a.qa) = a.schema.items.any (·.isHidden a.qa)) ∧
      (a.schema.extensions.deprecatedEnumValues = [] → ∀ v ∈ a.enum.values,
        (v ∈ Schema.marks items ↔ v ∈ Schema.marks a.schema.items)) := by
  have hvalues : (a.withItems items).enum.values = a.enum.values := Enum.values_withItems hs ht
  have hnested : (a.withItems items).nested = a.nested :=
    congrArg (List.map (ofChild a.qa)) (Schema.visibleChildren_withItems hs ht)
  have hmarked : (a.schema.extensions.deprecatedEnumValues = [] → ∀ v ∈ a.enum.values,
      (v ∈ Schema.marks items ↔ v ∈ Schema.marks a.schema.items)) ↔
      ∀ v ∈ a.enum.values, (v ∈ (a.withItems items).enum.marked ↔ v ∈ a.enum.marked) := by
    simp only [mem_marked_withItems_iff]
    exact ⟨fun h v hv hown => h hown v hv, fun h hown v hv => h v hv hown⟩
  rw [← isVisible_withItems_iff, hmarked]
  constructor
  · intro h
    have hdeprecated := h.deprecatedValues
    rw [Enum.deprecatedValues, Enum.deprecatedValues, hvalues] at hdeprecated
    exact ⟨h.isVisible, Enum.filter_mem_eq_iff.1 hdeprecated⟩
  · rintro ⟨hvisible, hsame⟩
    refine ⟨?_, hnested, hvisible, hvalues, ?_, ?_⟩
    · have htraits : (a.withItems items).traits =
          { a.traits with isHidden := !(a.withItems items).isVisible } :=
        Schema.classify_withItems hs ht a.name
      rw [htraits, hvisible]
      rfl
    · rw [Enum.validValues, Enum.validValues, hvalues]
      refine List.filter_congr fun v hv => decide_eq_decide.2 ?_
      rw [hsame v hv]
    · rw [Enum.deprecatedValues, Enum.deprecatedValues, hvalues]
      exact Enum.filter_mem_eq_iff.2 hsame

/-- A plain string field, and items that flag and mark whatever can be flagged and marked. -/
def plainField : Attribute :=
  { name := "status"
    schema := { type := some "string", enum := some [.text "on", .text "off"] }
    isRequired := true
    qa := false }

def flaggedItems : Schema :=
  { type := some "object"
    enum := some [.text "ghost"]
    properties := some [("ghost", { type := some "string" })]
    deprecated := some true
    extensions :=
      { isSubResource := true, isGlobalEnum := true, sortOrder := 7,
        subResourceName := some "Ghost", deprecatedEnumValues := ["ghost"] } }

theorem sameViews_withItems_plainField :
    SameViews (plainField.withItems (some flaggedItems)) plainField :=
  (sameViews_withItems_iff (by decide) (by decide)).2 ⟨by decide, by decide⟩

/-- Hidden items hide a schema that is no array. -/
theorem not_forall_sameViews_withItems : ¬ ∀ (a : Attribute) (items : Option Schema),
    a.schema.isArray = false → (a.withItems items).schema.isArray = false →
    SameViews (a.withItems items) a := by
  intro h
  have hviews := h plainField (some { extensions := { hiddenFromSdk := true } })
    (by decide) (by decide)
  exact absurd hviews.isVisible (by decide)

end Attribute

/-! ## Arrays that say nothing themselves -/

namespace Schema

variable {a s : Schema}

/-- An array of `s` without extensions, deprecation or properties of its own. Properties that are
stated are its own even when there are none among them. -/
structure BareArray (a s : Schema) : Prop where
  isArray : a.isArray = true
  items : a.items = some s
  extensions : a.extensions = {}
  notDeprecated : a.isDeprecatedHere = false
  properties : a.properties = none

/-- The traits that an array takes over from its items. -/
structure SameInherited (t u : AttributeTraits) : Prop where
  isEnum : t.isEnum = u.isEnum
  isGlobalEnum : t.isGlobalEnum = u.isGlobalEnum
  isExternalEnum : t.isExternalEnum = u.isExternalEnum
  isGenSeparate : t.isGenSeparate = u.isGenSeparate
  isSubResource : t.isSubResource = u.isSubResource
  isSubResourceSchema : t.isSubResourceSchema = u.isSubResourceSchema
  isGlobalResourceReference : t.isGlobalResourceReference = u.isGlobalResourceReference
  isDeprecated : t.isDeprecated = u.isDeprecated
  sortOrder : t.sortOrder = u.sortOrder
  subResourceName : t.subResourceName = u.subResourceName
  metaModelName : t.metaModelName = u.metaModelName

/-- A bare array has the children, the names and the sort order of its items. -/
theorem BareArray.arrayItems? (h : BareArray a s) : a.arrayItems? = some s :=
  arrayItems?_eq_some_iff.2 ⟨h.isArray, h.items⟩

theorem BareArray.itemsOrSelf (h : BareArray a s) : a.itemsOrSelf = s :=
  itemsOrSelf_of_items h.isArray h.items

/-- A flag that is off by default is that of the items. -/
theorem BareArray.hasFlag (h : BareArray a s) {flag : SchemaExtensions → Bool}
    (hoff : flag {} = false) : a.hasFlag flag = flag s.extensions := by
  rw [Schema.hasFlag, itemExtensions?, h.arrayItems?, h.extensions, hoff]
  exact Bool.false_or _

theorem BareArray.ownOrItemName? (h : BareArray a s) {name : SchemaExtensions → Option String}
    (hnone : name {} = none) : a.ownOrItemName? name = name s.extensions := by
  rw [Schema.ownOrItemName?, itemExtensions?, h.arrayItems?, h.extensions, hnone]
  exact Option.none_or

theorem BareArray.sortOrder (h : BareArray a s) : a.sortOrder = s.extensions.sortOrder := by
  rw [Schema.sortOrder, itemExtensions?, h.arrayItems?, h.extensions]
  rfl

/-- The items that are no array themselves bring their own properties. -/
theorem BareArray.children (h : BareArray a s) (hs : s.isArray = false) :
    a.children = s.children := by
  cases hprops : s.properties with
  | some ps =>
    rw [children_of_items h.properties h.arrayItems? hprops, children_of_properties hprops]
  | none =>
    rw [children_of_neither h.properties, children_of_neither hprops]
    · intro i hi
      rw [arrayItems?_of_not_isArray hs] at hi
      cases hi
    · intro i hi
      rw [h.arrayItems?] at hi
      cases hi
      exact hprops

/-- **An array that says nothing itself is classified like its items**, and what is nested in them
is nested in it. -/
theorem sameInherited_of_bareArray (h : BareArray a s) (hs : s.isArray = false) (name : String)
    (qa : Bool) : SameInherited (a.classify name qa) (s.classify name qa) ∧
      ∀ isRequired, (⟨name, a, isRequired, qa⟩ : Attribute).nested =
        (⟨name, s, isRequired, qa⟩ : Attribute).nested := by
  refine ⟨?_, fun isRequired => ?_⟩
  · have hself := itemsOrSelf_of_not_isArray hs
    constructor
    case isEnum =>
      change a.itemsOrSelf.hasEnum = s.itemsOrSelf.hasEnum
      rw [h.itemsOrSelf, hself]
    case isGlobalEnum =>
      change a.itemsOrSelf.extensions.isGlobalEnum = s.itemsOrSelf.extensions.isGlobalEnum
      rw [h.itemsOrSelf, hself]
    case isGenSeparate =>
      change a.itemsOrSelf.extensions.isGenSeparate = s.itemsOrSelf.extensions.isGenSeparate
      rw [h.itemsOrSelf, hself]
    case isExternalEnum => exact (h.hasFlag rfl).trans (hasFlag_of_not_isArray hs _).symm
    case isSubResource => exact (h.hasFlag rfl).trans (hasFlag_of_not_isArray hs _).symm
    case isSubResourceSchema =>
      change a.isSubResource = s.isSubResource
      rw [isSubResource_eq, if_pos h.isArray, h.items]
      rfl
    case isGlobalResourceReference =>
      change a.isGlobalReference = s.isGlobalReference
      rw [isGlobalReference_eq, if_pos h.isArray, h.items]
      rfl
    case isDeprecated =>
      change (a.isDeprecatedHere || a.arrayItems?.any (·.isDeprecatedHere)) =
        (s.isDeprecatedHere || s.arrayItems?.any (·.isDeprecatedHere))
      rw [h.notDeprecated, h.arrayItems?, arrayItems?_of_not_isArray hs]
      simp
    case sortOrder => exact h.sortOrder.trans (sortOrder_of_not_isArray hs).symm
    case subResourceName =>
      exact (h.ownOrItemName? rfl).trans (ownOrItemName?_of_not_isArray hs _).symm
    case metaModelName =>
      exact (h.ownOrItemName? rfl).trans (ownOrItemName?_of_not_isArray hs _).symm
  · change List.map _ _ = List.map _ _
    rw [visibleChildren, h.children hs]
    rfl

/-- An array of sub-resources with a required field, a hidden one and an order of its own. -/
def lineItem : Schema :=
  { type := some "object"
    properties := some [("amount", { type := some "integer" }),
      ("note", { extensions := { hiddenFromSdk := true } })]
    required := some ["amount"]
    deprecated := some true
    extensions :=
      { isSubResource := true, sortOrder := 7, subResourceName := some "LineItem" } }

theorem sameInherited_of_bareArray_lineItem :
    let lineItems : Schema := { type := some "array", items := some lineItem }
    SameInherited (lineItems.classify "lines" false) (lineItem.classify "lines" false) ∧
      ∀ isRequired, (⟨"lines", lineItems, isRequired, false⟩ : Attribute).nested =
        (⟨"lines", lineItem, isRequired, false⟩ : Attribute).nested :=
  sameInherited_of_bareArray ⟨by decide, rfl, rfl, rfl, rfl⟩ (by decide) "lines" false

end Schema

end SdkModel
