import SdkModel.Proofs.Resource.Redaction
import SdkModel.Proofs.Typed.Filters
import SdkModel.Typed.Resource

/-!
# Typed models of redacted resources

Shaping reads of its context the name of the resource, the names of its enums and whether its
models are split (`ShapingContext.Alike`). Of an attribute it reads the redaction, and one thing
more: the filter that the first property of an object decides, whether that property is hidden or
not (`hiddenFilter?`). Attributes that agree in both are shaped alike (`responseColumn_congr`,
`modelField_congr`).
-/

namespace SdkModel

/-- Lists that one view shows alike are mapped alike when the members are. -/
theorem map_eq_of_map_eq {α β γ : Type} {xs ys : List α} {view : α → γ} {f g : α → β}
    (h : xs.map view = ys.map view)
    (hfg : ∀ x ∈ xs, ∀ y ∈ ys, view x = view y → f x = g y) : xs.map f = ys.map g := by
  induction xs generalizing ys with
  | nil =>
    cases ys with
    | nil => rfl
    | cons y ys => cases h
  | cons x xs ih =>
    cases ys with
    | nil => cases h
    | cons y ys =>
      rw [List.map_cons, List.map_cons, List.cons.injEq] at h
      have hrest := ih h.2 fun x hx y hy =>
        hfg x (List.mem_cons_of_mem _ hx) y (List.mem_cons_of_mem _ hy)
      rw [List.map_cons, List.map_cons, hrest,
        hfg x List.mem_cons_self y List.mem_cons_self h.1]

/-- Two views that each show lists alike show them alike together. -/
theorem map_pair_eq {α β γ : Type} {xs ys : List α} {f : α → β} {g : α → γ}
    (hf : xs.map f = ys.map f) (hg : xs.map g = ys.map g) :
    (xs.map fun x => (f x, g x)) = ys.map fun y => (f y, g y) := by
  rw [← List.zip_map', ← List.zip_map', hf, hg]

namespace Shaped

variable {α β : Type}

/-- Lists that are shaped member by member have the same shape when their members have. -/
theorem each_eq_of_map_eq {xs ys : List α} {f g : α → Shaped β} (h : xs.map f = ys.map g) :
    each xs f = each ys g := by
  have heach (xs : List α) (f : α → Shaped β) :
      each xs f = ⟨(xs.map f).map (·.value), (xs.map f).flatMap (·.references)⟩ := by
    rw [each, List.map_map, List.flatMap_map]
    rfl
  rw [heach, heach, h]

instance : LawfulMonad Shaped := LawfulMonad.mk' _
  (fun x => by cases x; simp [Functor.map])
  (fun a f => by simp [bind, pure])
  (fun x f g => by simp [bind, List.append_assoc])

end Shaped

/-- Contexts in which the same things are shaped alike. -/
structure ShapingContext.Alike (c c' : ShapingContext) : Prop where
  name : c.resource.name = c'.resource.name
  enumNames : c.enumNames = c'.enumNames
  splitsModels : c.splitsModels = c'.splitsModels

namespace Typed

variable {classCase : String → String} {c c' : ShapingContext}

/-! ## Actions -/

/-- Contexts that are alike resolve enums in the same way. -/
theorem enumClass_congr (h : c.Alike c') : enumClass classCase c = enumClass classCase c' := by
  funext a localName
  simp only [enumClass, ownClass, h.name, h.enumNames]

theorem shapeInputs_congr (h : c.Alike c') :
    shapeInputs classCase c = shapeInputs classCase c' := by
  have hfield : fieldParameter classCase c = fieldParameter classCase c' := by
    funext parent field
    simp only [fieldParameter, enumClass_congr h]
  have hcontainer : containerParameter classCase c = containerParameter classCase c' := by
    funext action a kind
    simp only [containerParameter, fieldParameters, ownClass, hfield, h.name]
  have hplain : plainParameter classCase c = plainParameter classCase c' := by
    funext a kind
    simp only [plainParameter, enumClass_congr h]
  have hentry : entryParameter classCase c = entryParameter classCase c' := by
    funext action entry
    simp only [entryParameter, hcontainer, hplain]
  funext action
  rw [shapeInputs, shapeInputs, hentry]

theorem responseClassOf_congr (h : c.Alike c') :
    responseClassOf classCase c = responseClassOf classCase c' := by
  have htype : fieldType c = fieldType c' := by
    funext type
    cases type with
    | none => rfl
    | some type => simp only [fieldType, h.name]
  have hcolumn : fieldColumn c = fieldColumn c' := by
    funext f
    simp only [fieldColumn, htype]
  have hitem : itemClassName classCase c = itemClassName classCase c' := by
    funext name
    simp only [itemClassName, h.name]
  have hfield : responseField classCase c = responseField classCase c' := by
    funext name f
    simp only [responseField, hcolumn, hitem]
  funext r
  simp only [responseClassOf, hfield, hitem]

/-- An action is shaped in the same way in contexts that are alike. -/
theorem actionShape_congr (h : c.Alike c') :
    actionShape classCase c = actionShape classCase c' := by
  funext action
  simp only [actionShape, shapeInputs_congr h, responseClassOf_congr h]

/-! ## Types of attributes -/

variable {s t : Schema} {hint : String}

theorem plainType?_redact (s : Schema) : plainType? s.redact = plainType? s := by
  unfold plainType? isMoney numberType
  rw [Schema.shape_redact, Schema.redact_extensions, Schema.redact_format]

theorem hasFreeItems_redact (s : Schema) : hasFreeItems s.redact = hasFreeItems s :=
  Schema.any_items_redact (fun i => by
    rw [Schema.redact_type, Schema.redact_properties, Option.isNone_map]) s

theorem isModelList_redact (s : Schema) : isModelList s.redact = isModelList s := by
  rw [isModelList, isModelList, Schema.isArray_redact,
    Schema.any_items_redact Schema.isSubResource_redact]

theorem isModel_redact (s : Schema) : isModel s.redact = isModel s := by
  rw [isModel, isModel, Schema.isArray_redact, Schema.isSubResource_redact]

/-- The filter that a hidden property decides for an object that names none. -/
def hiddenFilter? (s : Schema) : Option String :=
  if s.extensions.sdkFilterName.any (· ≠ "") then none
  else (s.propertyList.head?.filter (·.2.isHidden false)).map fun p => filterOfProperty p.2

theorem filterOfProperty_redact (s : Schema) : filterOfProperty s.redact = filterOfProperty s := by
  simp only [filterOfProperty, Schema.redact_enum, Schema.redact_format, Schema.redact_type]

/-- The filter of an object is known from its redaction and from the hidden property that may
decide it. -/
theorem filterType_congr (h : s.redact = t.redact) (hhidden : hiddenFilter? s = hiddenFilter? t) :
    filterType s = filterType t := by
  have hextensions : s.extensions = t.extensions := by
    rw [← Schema.redact_extensions, h, Schema.redact_extensions]
  rw [hiddenFilter?, hiddenFilter?, ← hextensions] at hhidden
  rw [filterType, filterType, ← hextensions]
  cases hname : s.extensions.sdkFilterName.filter (· ≠ "") with
  | some name => rfl
  | none =>
    have hnone : s.extensions.sdkFilterName.any (· ≠ "") = false := by
      rw [← Option.isSome_filter, hname]
      rfl
    rw [hnone, if_neg Bool.false_ne_true, if_neg Bool.false_ne_true] at hhidden
    have hproperties := congrArg Schema.propertyList h
    rw [Schema.propertyList_redact, Schema.propertyList_redact] at hproperties
    have hhead := congrArg List.head? hproperties
    rw [List.head?_map, List.head?_map] at hhead
    cases hs : s.propertyList.head? with
    | none =>
      cases ht : t.propertyList.head? with
      | none => rfl
      | some q =>
        rw [hs, ht] at hhead
        cases hhead
    | some p =>
      cases ht : t.propertyList.head? with
      | none =>
        rw [hs, ht] at hhead
        cases hhead
      | some q =>
        rw [hs, ht, Option.map_some, Option.map_some, Option.some.injEq] at hhead
        have hsame : p.2.isHidden false = q.2.isHidden false := by
          rw [← Schema.isHidden_redactProperty, hhead, Schema.isHidden_redactProperty]
        cases hp : p.2.isHidden false with
        | true =>
          rw [hs, ht, Option.filter_some, Option.filter_some, ← hsame, hp, if_pos rfl,
            if_pos rfl] at hhidden
          exact hhidden
        | false =>
          rw [Schema.redactProperty_of_not_hidden hp,
            Schema.redactProperty_of_not_hidden (hsame ▸ hp)] at hhead
          have hvisible := congrArg (fun p => filterOfProperty p.2) hhead
          rw [filterOfProperty_redact, filterOfProperty_redact] at hvisible
          exact congrArg some hvisible

/-- The items of a schema are text. -/
def hasTextItems (classCase : String → String) (s : Schema) (hint : String) : Bool :=
  s.items.any fun i => (dataType classCase false i hint).value.name == textType

/-- The type of an object that is nothing but a filter, when it is one. -/
def filterOrAny : Option String → TypeDescriptor
  | some name => ⟨.filter, name⟩
  | none => ⟨.unknown, anyType⟩

/-- The type of an attribute, from the filter that it may be. -/
def typeWith (classCase : String → String) (filter : Option String) (textItems split : Bool)
    (s : Schema) (hint : String) : Shaped TypeDescriptor :=
  match plainType? s with
  | some type => pure ⟨.primitive, type⟩
  | none =>
    if s.shape = .object && s.isOpenMap && hint ≠ sortAttribute then pure ⟨.map, objectType⟩
    else if hasFreeItems s then pure ⟨.list, objectsType⟩
    else if isModelList s then do
      return ⟨.list, listOf (← modelClass classCase split (singular hint))⟩
    else if isModel s then do return ⟨.reference, ← modelClass classCase split hint⟩
    else if textItems then pure ⟨.list, listOf textType⟩
    else pure (filterOrAny filter)

/-- The type of a schema depends on its visible parts, on the filter that it names and on whether
its items are texts. -/
theorem dataType_eq (split : Bool) (s : Schema) (hint : String) :
    dataType classCase split s hint =
      typeWith classCase (namedFilter? s hint) (hasTextItems classCase s hint) split s hint := by
  rw [dataType]
  unfold typeWith hasTextItems
  cases s.items <;> cases namedFilter? s hint <;> rfl

/-- With the filter and the items told, the type is that of the redacted schema. -/
theorem typeWith_redact (filter : Option String) (textItems split : Bool) :
    typeWith classCase filter textItems split s.redact hint =
      typeWith classCase filter textItems split s hint := by
  simp only [typeWith, plainType?_redact, Schema.shape_redact, Schema.isOpenMap_redact,
    hasFreeItems_redact, isModelList_redact, isModel_redact]

/-- No property decides on text: only a name that is given may be one. -/
theorem filterType_eq_text_iff (s : Schema) :
    filterType s = some textType ↔ s.extensions.sdkFilterName = some textType := by
  constructor
  · intro h
    exact (mem_of_filterType h).resolve_right (by decide)
  · exact filterType_of_stated (by decide)

/-- An object is typed as a text by its extension only. -/
theorem namedFilter?_eq_text_iff (s : Schema) (hint : String) :
    namedFilter? s hint = some textType ↔
      IsObjectLike s ∧ hint ≠ sortAttribute ∧ s.extensions.sdkFilterName = some textType := by
  rw [namedFilter?_eq_some_iff]
  refine and_congr_right fun _ => ⟨?_, ?_⟩
  · rintro (⟨-, hname⟩ | ⟨hsort, hfilter, -⟩)
    · exact absurd hname (by decide)
    · exact ⟨hsort, (filterType_eq_text_iff s).1 hfilter⟩
  · rintro ⟨hsort, hstated⟩
    exact .object hsort ((filterType_eq_text_iff s).2 hstated) (by decide)

/-- The name of a filter is that of a text when the filter is one. -/
theorem isText_filterOrAny (f : Option String) :
    ((filterOrAny f).name == textType) = decide (f = some textType) := by
  cases f with
  | none => decide
  | some name =>
    rw [Bool.eq_iff_iff, decide_eq_true_iff, Option.some.injEq]
    exact beq_iff_eq

/-- Two filters that are texts alike make types that are texts alike. -/
theorem isText_typeWith_congr {f g : Option String}
    (h : f = some textType ↔ g = some textType) (textItems split : Bool) :
    ((typeWith classCase f textItems split s hint).value.name == textType) =
      ((typeWith classCase g textItems split s hint).value.name == textType) := by
  have hlast : ((filterOrAny f).name == textType) = ((filterOrAny g).name == textType) := by
    rw [isText_filterOrAny, isText_filterOrAny, decide_eq_decide]
    exact h
  unfold typeWith
  repeat' split
  all_goals first | rfl | exact hlast

/-- Whether a type is that of a text is not changed by redaction. -/
theorem isText_redact (s : Schema) :
    ((dataType classCase false s.redact hint).value.name == textType) =
      ((dataType classCase false s hint).value.name == textType) := by
  induction h : sizeOf s using Nat.strongRecOn generalizing s with
  | ind n ih =>
    have hitems : hasTextItems classCase s.redact hint = hasTextItems classCase s hint := by
      rw [hasTextItems, hasTextItems, Schema.redact_items, Option.any_map]
      cases hi : s.items with
      | none => rfl
      | some i => exact ih (sizeOf i) (h ▸ Schema.sizeOf_items_lt hi) i rfl
    rw [dataType_eq, dataType_eq, typeWith_redact, hitems]
    refine isText_typeWith_congr ?_ _ _
    simp only [namedFilter?_eq_text_iff, IsObjectLike, Schema.shape_redact,
      Schema.isSome_properties_redact, Schema.redact_extensions]

/-- Nor is whether the items are texts. -/
theorem hasTextItems_redact (s : Schema) :
    hasTextItems classCase s.redact hint = hasTextItems classCase s hint :=
  Schema.any_items_redact isText_redact s

/-- The type of an attribute is known from the redaction of its schema and from the hidden property
that may decide on a filter. -/
theorem dataType_congr (h : s.redact = t.redact) (hhidden : hiddenFilter? s = hiddenFilter? t)
    (split : Bool) (hint : String) :
    dataType classCase split s hint = dataType classCase split t hint := by
  have hfilter : namedFilter? s hint = namedFilter? t hint := by
    have hshape := congrArg Schema.shape h
    have hproperties := congrArg (·.properties.isSome) h
    simp only [Schema.shape_redact, Schema.isSome_properties_redact] at hshape hproperties
    rw [namedFilter?, namedFilter?, hshape, hproperties, filterType_congr h hhidden]
  rw [dataType_eq, dataType_eq, hfilter, ← typeWith_redact _ _ _ (s := s), ← hasTextItems_redact s,
    h, typeWith_redact, hasTextItems_redact]

/-! ## Columns and models -/

variable {a a' : Attribute} {sub sub' r r' : Resource}

/-- What shaping reads of the schema of an attribute: its redaction, and the hidden property that
may decide on its filter. -/
def seen (a : Attribute) : Attribute × Option String := (a.redact, hiddenFilter? a.schema)

/-- Attributes of which the same is seen have the same visible parts. -/
theorem redact_of_seen (h : seen a = seen a') : a.redact = a'.redact := congrArg (·.1) h

/-- Attributes of which the same is seen have the same type. -/
theorem dataType_of_seen (h : seen a = seen a') (split : Bool) (hint : String) :
    dataType classCase split a.schema hint = dataType classCase split a'.schema hint :=
  dataType_congr (congrArg (·.1.schema) h) (congrArg (·.2) h) split hint

theorem enumClass_redact (c : ShapingContext) (a : Attribute) (localName : Option String) :
    enumClass classCase c a.redact localName = enumClass classCase c a localName := by
  have hshared : isSharedEnum a.redact = isSharedEnum a := by
    rw [isSharedEnum, isSharedEnum, Attribute.redact_schema, Schema.isGlobalEnum_redact,
      Schema.itemsOrSelf_redact, Schema.redact_extensions]
  have hglobal : a.redact.enum.globalReference? = a.enum.globalReference? := by
    rw [Enum.globalReference?, Enum.globalReference?]
    exact congrArg (Option.map _ ·.globalEnumReference) (Schema.redact_extensions a.schema)
  have hapi : apiName? a.redact = apiName? a := by
    rw [apiName?, apiName?, Attribute.redact_schema, Schema.redact_extensions]
  simp only [enumClass, hshared, hglobal, hapi, Attribute.redact_name]

/-- In contexts that are alike the types of their columns are the same as well. -/
theorem columnType_congr (hc : c.Alike c') (h : seen a = seen a') (hqa : a.qa = false) :
    columnType classCase c a = columnType classCase c' a' := by
  have hredact := redact_of_seen h
  have hqa' : a'.qa = false := Attribute.qa_of_redact_eq hredact hqa
  have hname : a.name = a'.name := congrArg (·.name) hredact
  have hfilter : a.isFilter = a'.isFilter := by
    rw [← Attribute.isFilter_redact hqa, hredact, Attribute.isFilter_redact hqa']
  have hsort : a.isSort = a'.isSort := by rw [Attribute.isSort, Attribute.isSort, hname]
  rw [columnType, columnType, hc.splitsModels, hname, dataType_of_seen h, hfilter, hsort]

theorem modelHint_redact (a : Attribute) : modelHint a.redact = modelHint a := by
  rw [modelHint, modelHint, Attribute.redact_schema, Schema.isListOfSubResources_redact,
    Schema.redact_extensions, Attribute.subResourceName_redact, Attribute.redact_name]

theorem modelType_congr (hc : c.Alike c') (h : seen a = seen a') :
    modelType classCase c a = modelType classCase c' a' := by
  have hhint : modelHint a = modelHint a' := by
    rw [← modelHint_redact, redact_of_seen h, modelHint_redact]
  rw [modelType, modelType, hc.splitsModels, hhint, dataType_of_seen h]

theorem responseColumn_congr (hc : c.Alike c') (h : seen a = seen a') (hqa : a.qa = false) :
    responseColumn classCase c a = responseColumn classCase c' a' := by
  have hredact := redact_of_seen h
  have hqa' : a'.qa = false := Attribute.qa_of_redact_eq hredact hqa
  have hname : a.name = a'.name := congrArg (·.name) hredact
  have hrequired : a.isRequired = a'.isRequired := congrArg (·.isRequired) hredact
  have hkind : a.kind = a'.kind := by
    rw [← Attribute.kind_redact hqa, hredact, Attribute.kind_redact hqa']
  have htype : responseType classCase c a = responseType classCase c' a' := by
    rw [responseType, responseType, hkind, modelType_congr hc h, columnType_congr hc h hqa]
  rw [responseColumn, responseColumn, htype, hname, hrequired]

/-- Resources of which the same is seen have the same columns. -/
theorem responseColumns_congr (hc : c.Alike c') (hqa : r.qa = false)
    (h : r.sortedAttributes.map seen = r'.sortedAttributes.map seen) :
    responseColumns classCase c r = responseColumns classCase c' r' := by
  refine Shaped.each_eq_of_map_eq (map_eq_of_map_eq h fun a ha b _ hab => ?_)
  exact responseColumn_congr hc hab
    (Resource.qa_of_mem_visibleAttributes hqa (mem_sortByOrder.1 ha))

theorem modelField_congr (hc : c.Alike c') (hname : sub.name = sub'.name) (h : seen a = seen a')
    (hqa : a.qa = false) :
    modelField classCase c sub a = modelField classCase c' sub' a' := by
  have hredact := redact_of_seen h
  have haname : a.name = a'.name := congrArg (·.name) hredact
  have hrequired : a.isRequired = a'.isRequired := congrArg (·.isRequired) hredact
  have henum : a.schema.isEnum = a'.schema.isEnum := by
    have hschema : a.schema.redact = a'.schema.redact := congrArg (·.schema) hredact
    rw [← Schema.isEnum_redact, hschema, Schema.isEnum_redact]
  have hclass : enumClass classCase c a (some (modelEnumName sub a)) =
      enumClass classCase c' a' (some (modelEnumName sub' a')) := by
    rw [modelEnumName, modelEnumName, hname, haname, ← enumClass_redact c, hredact,
      enumClass_redact, enumClass_congr hc]
  rw [modelField, modelField, henum, hclass, columnType_congr hc h hqa, haname, hrequired]

/-- Nested resources of which the same is seen have the same model class. -/
theorem modelClassOf_congr (hc : c.Alike c') (hqa : sub.qa = false) (h : sub.redact = sub'.redact)
    (hseen : sub.sortedAttributes.map seen = sub'.sortedAttributes.map seen) :
    modelClassOf classCase c sub = modelClassOf classCase c' sub' := by
  have hname : sub.name = sub'.name := congrArg (·.name) h
  have hid : sub.id = sub'.id := congrArg (·.id) h
  have horder : sub.sortOrder = sub'.sortOrder := by
    rw [← Resource.sortOrder_redact, h, Resource.sortOrder_redact]
  have hfields : Shaped.each sub.sortedAttributes (modelField classCase c sub) =
      Shaped.each sub'.sortedAttributes (modelField classCase c' sub') := by
    refine Shaped.each_eq_of_map_eq (map_eq_of_map_eq hseen fun a ha b _ hab => ?_)
    exact modelField_congr hc hname hab
      (Resource.qa_of_mem_visibleAttributes hqa (mem_sortByOrder.1 ha))
  rw [modelClassOf, modelClassOf, hfields, hid, hname, horder]

end Typed

end SdkModel
