import SdkModel.Typed.Parameter

/-!
# Attributes with one field

The kind of an attribute reads the outline of its schema: all of it but for which properties there
are. An attribute that is split into its fields keeps its outline, and with it the kind and the way
in which it is passed, unless a field makes it a filter. The field itself is all that it holds
then (`nested_withField_eq`).
-/

namespace SdkModel

namespace Schema

variable {s t i : Schema} {ps : List (String × Schema)} {qa : Bool}

/-! ## Outlines -/

/-- The schema with no properties in its property map. -/
def emptied (s : Schema) : Schema := { s with properties := s.properties.map fun _ => [] }

/-- The schema with no properties in its own property map and in that of its items. -/
def outline (s : Schema) : Schema := { s.emptied with items := s.items.map emptied }

/-- The outline of a schema is what is read of it without its properties. -/
theorem shape_outline (s : Schema) : s.outline.shape = s.shape := by
  have hitems : s.outline.items.isSome = s.items.isSome := Option.isSome_map
  rw [shape, shape, hitems]
  rfl

theorem arrayItems?_outline (s : Schema) :
    s.outline.arrayItems? = s.arrayItems?.map emptied := by
  rw [arrayItems?, arrayItems?, isArray, isArray, shape_outline]
  split <;> rfl

/-- What reads the same of a schema without its properties reads the same of the items of an
outline. -/
theorem itemsOrSelf_outline {β : Type} (read : Schema → β) (hself : read s.outline = read s)
    (hitems : ∀ i : Schema, read i.emptied = read i) :
    read s.outline.itemsOrSelf = read s.itemsOrSelf := by
  rw [itemsOrSelf, itemsOrSelf, arrayItems?_outline]
  cases s.arrayItems? with
  | none => exact hself
  | some i => exact hitems i

/-- What is read of items without their properties is read of the outline as well. -/
theorem any_arrayItems_outline {read : Schema → Bool}
    (hitems : ∀ i : Schema, read i.emptied = read i) :
    s.outline.arrayItems?.any read = s.arrayItems?.any read := by
  rw [arrayItems?_outline, Option.any_map]
  congr
  exact funext hitems

theorem itemExtensions?_outline (s : Schema) :
    s.outline.itemExtensions? = s.itemExtensions? := by
  rw [itemExtensions?, itemExtensions?, arrayItems?_outline, Option.map_map]
  rfl

theorem hasFlag_outline (s : Schema) (flag : SchemaExtensions → Bool) :
    s.outline.hasFlag flag = s.hasFlag flag := by
  rw [hasFlag, hasFlag, itemExtensions?_outline]
  rfl

/-- A list is a sub-resource when its items are one, and any other schema by its own flag. -/
theorem isSubResource_eq (s : Schema) : s.isSubResource =
    if s.isArray then s.items.any isSubResource else s.extensions.isSubResource := by
  rw [isSubResource]
  split
  · split <;> rename_i hi <;> rw [hi] <;> rfl
  · rfl

/-- The traits that decide the kind of an attribute are read of its outline. -/
theorem isSubResource_outline (s : Schema) : s.outline.isSubResource = s.isSubResource := by
  have hemptied (i : Schema) : i.emptied.isSubResource = i.isSubResource := by
    rw [isSubResource_eq, isSubResource_eq i]
    rfl
  rw [isSubResource_eq, isSubResource_eq s, isArray, isArray, shape_outline]
  simp only [outline, Option.any_map, hemptied]
  rfl

/-- A list refers to a resource when its items do, and any other schema by its own flag. -/
theorem isGlobalReference_eq (s : Schema) : s.isGlobalReference =
    if s.isArray then s.items.any isGlobalReference
    else s.extensions.isGlobalResourceReference := by
  rw [isGlobalReference]
  split
  · split <;> rename_i hi <;> rw [hi] <;> rfl
  · rfl

theorem isGlobalReference_outline (s : Schema) :
    s.outline.isGlobalReference = s.isGlobalReference := by
  have hemptied (i : Schema) : i.emptied.isGlobalReference = i.isGlobalReference := by
    rw [isGlobalReference_eq, isGlobalReference_eq i]
    rfl
  rw [isGlobalReference_eq, isGlobalReference_eq s, isArray, isArray, shape_outline]
  simp only [outline, Option.any_map, hemptied]
  rfl

theorem isListOfSubResources_outline (s : Schema) :
    s.outline.isListOfSubResources = s.isListOfSubResources :=
  any_arrayItems_outline fun i => by
    have hprops : i.emptied.properties.isSome = i.properties.isSome := Option.isSome_map
    rw [hprops]
    rfl

theorem isLeaf_outline (s : Schema) : s.outline.isLeaf = s.isLeaf :=
  itemsOrSelf_outline (fun i => decide (i.shape ∈ leafShapes)) (by rw [shape_outline]) fun _ => rfl

theorem isStructuredSubResource_outline (s : Schema) :
    s.outline.isStructuredSubResource = s.isStructuredSubResource := by
  rw [isStructuredSubResource, isStructuredSubResource, hasFlag_outline, isLeaf_outline]

theorem isEnum_outline (s : Schema) : s.outline.isEnum = s.isEnum :=
  itemsOrSelf_outline hasEnum rfl fun _ => rfl

theorem isGlobalEnum_outline (s : Schema) : s.outline.isGlobalEnum = s.isGlobalEnum :=
  itemsOrSelf_outline (·.extensions.isGlobalEnum) rfl fun _ => rfl

theorem isTypedList_outline (s : Schema) : s.outline.isTypedList = s.isTypedList := by
  rw [isTypedList, isTypedList, any_arrayItems_outline fun _ => rfl]
  rfl

theorem isListOfEnum_outline (s : Schema) : s.outline.isListOfEnum = s.isListOfEnum := by
  rw [isListOfEnum, isListOfEnum, isTypedList_outline, isStructuredSubResource_outline,
    any_arrayItems_outline fun _ => rfl]

theorem isListOfSimpleType_outline (s : Schema) :
    s.outline.isListOfSimpleType = s.isListOfSimpleType := by
  rw [isListOfSimpleType, isListOfSimpleType, isTypedList_outline, isStructuredSubResource_outline,
    isListOfEnum_outline]
  rfl

theorem sortOrder_outline (s : Schema) : s.outline.sortOrder = s.sortOrder := by
  rw [sortOrder, sortOrder, itemExtensions?_outline]
  rfl

/-- What reads the outline only is the same for schemas of one outline. -/
theorem eq_of_outline_eq {β : Type} (read : Schema → β) (hread : ∀ s, read s.outline = read s)
    (h : s.outline = t.outline) : read s = read t := by
  rw [← hread s, h, hread t]

/-- The kind of an attribute reads the outline of its schema, and whether it is a filter. -/
theorem kindOf_eq_of_outline_eq (name : String) (h : s.outline = t.outline)
    (hf : s.isFilter qa = t.isFilter qa) : s.kindOf name qa = t.kindOf name qa := by
  have hprops := eq_of_outline_eq (·.properties.isSome) (fun _ => Option.isSome_map) h
  have hshape := eq_of_outline_eq shape shape_outline h
  have hopen := eq_of_outline_eq isOpenMap (fun _ => rfl) h
  have hsub := eq_of_outline_eq isSubResource isSubResource_outline h
  have hglobal := eq_of_outline_eq isGlobalReference isGlobalReference_outline h
  have hlist := eq_of_outline_eq isListOfSubResources isListOfSubResources_outline h
  have hstructured := eq_of_outline_eq isStructuredSubResource isStructuredSubResource_outline h
  have henum := eq_of_outline_eq isEnum isEnum_outline h
  have hglobalEnum := eq_of_outline_eq isGlobalEnum isGlobalEnum_outline h
  have hlistOfEnum := eq_of_outline_eq isListOfEnum isListOfEnum_outline h
  have hsimple := eq_of_outline_eq isListOfSimpleType isListOfSimpleType_outline h
  rw [kindOf, kindOf, hf, hsub, hglobal, hlist, hstructured, henum, hglobalEnum, hlistOfEnum,
    hopen, hsimple, isObject, isObject, hshape, hprops]

/-! ## Filters -/

/-- A schema is a filter by its own flags, or because something visible in it is one. -/
theorem isFilter_iff : s.isFilter qa = true ↔ (s.extensions.isFilterParameter = true ∨
    s.extensions.sdkFilterName.any (· ≠ "") = true) ∨
      ∃ c ∈ s.visibleChildren qa, c.schema.isFilter qa = true := by
  rw [isFilter, Bool.or_eq_true, Bool.or_eq_true]
  refine or_congr_right ?_
  simp only [List.any_eq_true, List.mem_attach, true_and, Subtype.exists, Bool.and_eq_true,
    visibleChildren, List.mem_filter]
  exact ⟨fun ⟨c, hc, hv, hf⟩ => ⟨c, ⟨hc, hv⟩, hf⟩, fun ⟨c, ⟨hc, hv⟩, hf⟩ => ⟨c, hc, hv, hf⟩⟩

/-! ## Children -/

/-- Items are consulted where the schema is an array. -/
theorem arrayItems?_eq_some_iff : s.arrayItems? = some i ↔ s.isArray = true ∧ s.items = some i := by
  unfold arrayItems?
  split <;> simp_all

theorem itemsOrSelf_of_items (harray : s.isArray = true) (hitems : s.items = some i) :
    s.itemsOrSelf = i := by
  have h : s.arrayItems? = some i := arrayItems?_eq_some_iff.2 ⟨harray, hitems⟩
  rw [itemsOrSelf, h, Option.getD_some]

/-- The children of a schema with a property map are these properties, whatever its items are. -/
theorem children_of_properties (h : s.properties = some ps) :
    s.children = ps.map fun p => ⟨p.1, p.2, decide (p.1 ∈ s.requiredNames)⟩ := by
  have howner : s.childOwner? = some s := by rw [childOwner?, h, Option.isSome_some, if_pos rfl]
  rw [children, howner]
  simp only [propertyList, h, Option.getD_some]

/-- An array without a property map has the children of its items. -/
theorem children_of_items (hn : s.properties = none) (hi : s.arrayItems? = some i)
    (h : i.properties = some ps) :
    s.children = ps.map fun p => ⟨p.1, p.2, decide (p.1 ∈ i.requiredNames)⟩ := by
  have howner : s.childOwner? = some i := by
    simp [childOwner?, hn, hi, Option.filter, h]
  rw [children, howner]
  simp only [propertyList, h, Option.getD_some]

/-- Without a property map there are no children. -/
theorem children_of_neither (hn : s.properties = none)
    (hi : ∀ i, s.arrayItems? = some i → i.properties = none) : s.children = [] := by
  have howner : s.childOwner? = none := by
    rw [childOwner?, hn]
    cases harray : s.arrayItems? with
    | none => rfl
    | some i => simp [Option.filter, hi i harray]
  rw [children, howner]

/-- The names that the schema of the nested attributes lists as required. -/
def requiredFields (s : Schema) : List String := (s.childOwner?.map requiredNames).getD []

/-- The list of required names is taken from the schema that the children are taken from. -/
theorem requiredFields_of_properties (h : s.properties = some ps) :
    s.requiredFields = s.requiredNames := by
  rw [requiredFields, childOwner?, h, Option.isSome_some, if_pos rfl]
  rfl

theorem requiredFields_of_items (hn : s.properties = none) (hi : s.arrayItems? = some i)
    (h : i.properties = some ps) : s.requiredFields = i.requiredNames := by
  simp [requiredFields, childOwner?, hn, hi, Option.filter, h]

end Schema

namespace Attribute

variable {a b : Attribute} {i : Schema} {ps : List (String × Schema)}

/-! ## One field -/

@[simp] theorem withField_name (a b : Attribute) : (a.withField b).name = a.name := rfl

@[simp] theorem withField_qa (a b : Attribute) : (a.withField b).qa = a.qa := rfl

@[simp] theorem withField_extensions (a b : Attribute) :
    (a.withField b).schema.extensions = a.schema.extensions := by
  unfold withField
  split <;> rfl

/-- The one property that is left has the name under which the field is listed. -/
theorem withField_schema_of_properties (h : a.schema.properties = some ps) :
    (a.withField b).schema = { a.schema with properties := some [(b.name, b.schema)] } := by
  simp only [withField, h]

/-- Of an array the field is left in the items. -/
theorem withField_schema_of_items (hn : a.schema.properties = none)
    (hi : a.schema.items = some i) : (a.withField b).schema =
      { a.schema with items := some { i with properties := some [(b.name, b.schema)] } } := by
  simp only [withField, hn, hi]

/-- The fields of an attribute are its visible children. -/
theorem mem_nested_iff : b ∈ a.nested ↔ ∃ c ∈ a.schema.visibleChildren a.qa, ofChild a.qa c = b :=
  List.mem_map

theorem isVisible_of_mem_nested (h : b ∈ a.nested) : b.schema.isVisible a.qa = true := by
  obtain ⟨c, hc, rfl⟩ := mem_nested_iff.1 h
  exact (List.mem_filter.1 hc).2

/-- An attribute with fields has a property map of its own, or else items that have one. -/
theorem owner_of_mem_nested (h : b ∈ a.nested) :
    (∃ ps, a.schema.properties = some ps) ∨ a.schema.properties = none ∧
      ∃ i ps, a.schema.arrayItems? = some i ∧ i.properties = some ps := by
  cases hprops : a.schema.properties with
  | some ps => exact .inl ⟨ps, rfl⟩
  | none =>
    refine .inr ⟨rfl, Classical.byContradiction fun hno => ?_⟩
    have hchildren : a.schema.children = [] := Schema.children_of_neither hprops fun i hi =>
      Option.eq_none_iff_forall_ne_some.2 fun ps hps => hno ⟨i, ps, hi, hps⟩
    rw [nested, Schema.visibleChildren, hchildren] at h
    cases h

/-- Splitting a field off keeps the outline. -/
theorem outline_withField (h : b ∈ a.nested) :
    (a.withField b).schema.outline = a.schema.outline := by
  obtain ⟨ps, hps⟩ | ⟨hn, i, ps, hi, hps⟩ := owner_of_mem_nested h
  · rw [withField_schema_of_properties hps]
    simp [Schema.outline, Schema.emptied, hps]
  · have hitems := (Schema.arrayItems?_eq_some_iff.1 hi).2
    rw [withField_schema_of_items hn hitems]
    simp [Schema.outline, Schema.emptied, hitems, hps]

/-- Restricting an attribute to a field leaves its sort order. -/
theorem sortOrder_withField (h : b ∈ a.nested) : (a.withField b).sortOrder = a.sortOrder :=
  Schema.eq_of_outline_eq Schema.sortOrder Schema.sortOrder_outline (outline_withField h)

/-- The field is all that is left in the attribute. -/
theorem visibleChildren_withField (h : b ∈ a.nested) :
    (a.withField b).schema.visibleChildren a.qa =
      [⟨b.name, b.schema, decide (b.name ∈ a.schema.requiredFields)⟩] := by
  have hvisible := isVisible_of_mem_nested h
  obtain ⟨ps, hps⟩ | ⟨hn, i, ps, hi, hps⟩ := owner_of_mem_nested h
  · rw [withField_schema_of_properties hps, Schema.visibleChildren,
      Schema.children_of_properties rfl, Schema.requiredFields_of_properties hps]
    exact List.filter_cons_of_pos hvisible
  · obtain ⟨harray, hitems⟩ := Schema.arrayItems?_eq_some_iff.1 hi
    have hshape := Schema.eq_of_outline_eq Schema.shape Schema.shape_outline (outline_withField h)
    have howner : (a.withField b).schema.arrayItems? =
        some { i with properties := some [(b.name, b.schema)] } := by
      rw [Schema.arrayItems?_eq_some_iff, Schema.isArray, hshape]
      exact ⟨harray, by rw [withField_schema_of_items hn hitems]⟩
    have hnone : (a.withField b).schema.properties = none := by
      rw [withField_schema_of_items hn hitems]
      exact hn
    rw [Schema.visibleChildren, Schema.children_of_items hnone howner rfl,
      Schema.requiredFields_of_items hn hi hps]
    exact List.filter_cons_of_pos hvisible

/-- Without hyphens a name stays as it is. -/
theorem attributeName_attributeName (n : String) :
    Naming.attributeName (Naming.attributeName n) = Naming.attributeName n := by
  unfold Naming.attributeName Text.swapChar
  rw [String.toList_ofList, List.map_map]
  refine congrArg String.ofList (List.map_congr_left fun c _ => ?_)
  by_cases hc : c = '-'
  · simp [hc]
  · simp [hc]

/-- The field that is left is required when its name is listed so. -/
theorem nested_withField_eq (h : b ∈ a.nested) : (a.withField b).nested =
    [{ b with isRequired := decide (b.name ∈ a.schema.requiredFields) }] := by
  obtain ⟨c, -, rfl⟩ := mem_nested_iff.1 h
  rw [nested, withField_qa, visibleChildren_withField h, List.map_singleton, ofChild, ofChild,
    attributeName_attributeName]

theorem nested_withField (h : b ∈ a.nested) :
    ∃ required, (a.withField b).nested = [{ b with isRequired := required }] :=
  ⟨_, nested_withField_eq h⟩

/-- The field is left, however it is named. -/
theorem nested_withField_ne_nil (h : b ∈ a.nested) : (a.withField b).nested ≠ [] := by
  rw [nested_withField_eq h]
  exact List.cons_ne_nil _ _

/-- The attribute is a filter whatever its fields are. -/
def IsFlaggedFilter (a : Attribute) : Prop :=
  a.schema.extensions.isFilterParameter = true ∨
    a.schema.extensions.sdkFilterName.any (· ≠ "") = true

theorem isFilter_iff : a.isFilter = true ↔
    a.IsFlaggedFilter ∨ ∃ b ∈ a.nested, b.isFilter = true := by
  rw [isFilter, Schema.isFilter_iff]
  refine or_congr_right ⟨fun ⟨c, hc, hfilter⟩ => ⟨ofChild a.qa c, ?_, hfilter⟩, ?_⟩
  · exact List.mem_map_of_mem hc
  · rintro ⟨_, hb, hfilter⟩
    obtain ⟨c, hc, rfl⟩ := mem_nested_iff.1 hb
    exact ⟨c, hc, hfilter⟩

/-- Only the flags of the attribute and the field that is left make it a filter. -/
theorem isFilter_withField_iff (h : b ∈ a.nested) :
    (a.withField b).isFilter = true ↔ a.IsFlaggedFilter ∨ b.isFilter = true := by
  rw [isFilter_iff, IsFlaggedFilter, withField_extensions, nested_withField_eq h]
  simp only [List.mem_singleton, exists_eq_left]
  rfl

/-- What is split off an attribute that is no filter is no filter. -/
theorem isFilter_withField (h : b ∈ a.nested) (hf : a.isFilter = false) :
    (a.withField b).isFilter = false := by
  rw [Bool.eq_false_iff, Ne, isFilter_iff] at hf
  rw [Bool.eq_false_iff, Ne, isFilter_withField_iff h]
  exact fun hfilter => hf (hfilter.imp_right fun hb => ⟨b, h, hb⟩)

/-- What is split off keeps the kind. -/
theorem kind_withField (h : b ∈ a.nested) (hf : a.isFilter = false) :
    (a.withField b).kind = a.kind :=
  Schema.kindOf_eq_of_outline_eq a.name (outline_withField h)
    ((isFilter_withField h hf).trans hf.symm)

theorem ite_ne_of_ne {α : Type} {p : Prop} [Decidable p] {x y z : α} (hx : x ≠ z) (hy : y ≠ z) :
    (if p then x else y) ≠ z := by
  by_cases h : p
  · rwa [if_pos h]
  · rwa [if_neg h]

theorem kind_ne_filter (hf : a.isFilter = false) : a.kind ≠ .filter := by
  have hschema : a.schema.isFilter a.qa = false := hf
  rw [kind, Schema.kindOf, hschema, if_neg Bool.false_ne_true]
  repeat' apply ite_ne_of_ne
  all_goals nofun

/-- What is split off is passed in the same way. -/
theorem parameterKind_withField (h : b ∈ a.nested) (hf : a.isFilter = false) :
    (a.withField b).parameterKind = a.parameterKind := by
  have hne : a.nested.isEmpty = false := List.isEmpty_eq_false_iff.2 (List.ne_nil_of_mem h)
  have hne' : (a.withField b).nested.isEmpty = false :=
    List.isEmpty_eq_false_iff.2 (nested_withField_ne_nil h)
  have hkind := kind_withField h hf
  have hindexed : (a.withField b).isIndexed = a.isIndexed := by
    rw [isIndexed, isIndexed, hkind, hne, hne', isComposite, isComposite, withField_extensions]
  have hobject : (a.withField b).isNestedObject = a.isNestedObject := by
    rw [isNestedObject, isNestedObject, hkind, hne, hne', isMultiValue, isMultiValue,
      withField_extensions]
  rw [parameterKind, parameterKind, hkind, hindexed, hobject, if_neg (kind_ne_filter hf),
    if_neg (kind_ne_filter hf)]

end Attribute

end SdkModel
