import SdkModel.Proofs.Typed.InputTypes
import SdkModel.Proofs.Typed.OptionalInputs

/-!
# Classes of filters

The annotation of a filter or of a sort parameter is `Any` or a class of the filters module: the
class of sorting, one that the first property of the filter decides, or the one that the schema
states (`NamesFilter`). A filter that is a parameter is annotated with its descriptor only when that
is of a filter. The sort parameter and the filters among the fields of a parameter are annotated
with whatever descriptor they have, so that they have to be objects with a filter
(`IsFilterObject`), and nothing keeps a schema from stating the name of a plain type. There is no
other way for an annotation to name something else (`forall₂_namesFilters_iff`).
-/

namespace SdkModel.Typed

variable {classCase : String → String} {context : ShapingContext} {action : Action}
  {s : Schema} {n : String} {a e f : Attribute}

/-! ## What annotations name -/

/-- The types that name no class. -/
def plainTypes : List String := listOf textType :: builtinTypes

/-- The names of filters for an attribute. -/
inductive IsFilterName (a : Attribute) (n : String) : Prop
  | sort (hsort : a.name = sortAttribute) (hname : n = sortFilter)
  | derived (hname : n ∈ derivedFilters)
  | stated (hname : a.schema.extensions.sdkFilterName = some n)

/-- The annotation is `Any` or the class of the filter that the attribute is, and is no plain type
that is taken for a class. -/
structure NamesFilter (classCase : String → String) (a : Attribute) (type : String) : Prop where
  filter : type = anyType ∨ ∃ n, plainDataType classCase a.schema a.name = ⟨.filter, n⟩ ∧
    IsFilterName a n ∧ type = "Filters." ++ n
  notPlain : ∀ t ∈ plainTypes, type ≠ "Filters." ++ t

/-- Where it is a filter or a sort parameter, its annotation names a filter. -/
def NamesOwnFilter (classCase : String → String) (a : Attribute) (p : ShapedParameter) : Prop :=
  p.kind = .filter ∨ p.kind = .sort → NamesFilter classCase a p.type

/-- The inputs that the fields of a parameter are shaped from. -/
def fieldInputs (action : Action) (e : Attribute) : List Attribute :=
  if e.parameterKind.isContainer then
    (wholeInput action e).sortedNested.filter (isInputField (wholeInput action e))
  else []

/-- The annotations of a parameter and of its fields name filters. -/
structure NamesFilters (classCase : String → String) (action : Action) (e : Attribute)
    (p : ShapedParameter) : Prop where
  own : NamesOwnFilter classCase e p
  fields : List.Forall₂ (NamesOwnFilter classCase) (fieldInputs action e) p.fields

/-! ## Objects with a filter -/

/-- An object with a filter that is neither an amount of money, nor a model, nor a list, nor, but
for sorting, an open map. -/
structure IsFilterObject (classCase : String → String) (a : Attribute) : Prop where
  object : IsObjectLike a.schema
  money : isMoney a.schema = false
  openMap : a.schema.shape = .object → a.schema.isOpenMap = true → a.name = sortAttribute
  model : a.schema.isSubResource = false
  freeItems : hasFreeItems a.schema = false
  textItems : hasTextItems classCase a.schema a.name = false
  filter : ∃ n, HasFilter a.schema a.name n

/-- The schema states no plain type for its filter; the filter of sorting is not read off it. -/
def StatesNoPlainType (a : Attribute) : Prop :=
  a.name ≠ sortAttribute → ∀ t ∈ plainTypes, a.schema.extensions.sdkFilterName ≠ some t

/-- The filter of an object is one of those that can be named. -/
theorem HasFilter.isFilterName (h : HasFilter a.schema a.name n) : IsFilterName a n := by
  rcases h with ⟨hsort, hname⟩ | ⟨-, hfilter, hany⟩
  · exact .sort hsort hname
  · rcases mem_of_filterType hfilter with hstated | hderived
    · exact .stated hstated
    · exact .derived ((List.mem_cons.1 hderived).resolve_left hany)

/-- A filter has the name of a plain type only where the schema states that. -/
theorem HasFilter.not_plain_iff (h : HasFilter a.schema a.name n) :
    n ∉ plainTypes ↔ StatesNoPlainType a := by
  constructor
  · intro hplain hsort t ht hstated
    rcases h with ⟨hsort', -⟩ | ⟨-, hfilter, -⟩
    · exact hsort hsort'
    · have hne : t ≠ "" := by
        rintro rfl
        exact absurd ht (by decide)
      rw [filterType_of_stated hne hstated, Option.some.injEq] at hfilter
      exact hplain (hfilter ▸ ht)
  · intro hstates hplain
    rcases h with ⟨-, rfl⟩ | ⟨hsort, hfilter, hany⟩
    · exact absurd hplain (by decide)
    · rcases mem_of_filterType hfilter with hstated | hderived
      · exact hstates hsort n hplain hstated
      · have hdisjoint : ∀ t ∈ derivedFilters, t ∉ plainTypes := by decide
        exact hdisjoint n ((List.mem_cons.1 hderived).resolve_left hany) hplain

theorem filterOrAny_eq_filter_iff {filter : Option String} :
    filterOrAny filter = ⟨.filter, n⟩ ↔ filter = some n := by
  cases filter <;> simp [filterOrAny]

theorem plainType?_eq_none_iff (h : IsObjectLike s) : plainType? s = none ↔ isMoney s = false := by
  rcases h with h | ⟨h, -⟩ <;> simp [plainType?, h]

theorem IsObjectLike.not_isArray (h : IsObjectLike s) : s.isArray = false := by
  rcases h with h | ⟨h, -⟩ <;> simp [Schema.isArray, h]

theorem isModelList_of_isObjectLike (h : IsObjectLike s) : isModelList s = false := by
  rw [isModelList, h.not_isArray, Bool.false_and]

/-- An object is a model when it is a sub-resource. -/
theorem isModel_of_isObjectLike (h : IsObjectLike s) : isModel s = s.isSubResource := by
  rw [isModel, h.not_isArray, Bool.not_false, Bool.true_and]

/-- A type that is a filter is that of a filter object. -/
theorem isFilterObject_of_plainDataType
    (h : plainDataType classCase a.schema a.name = ⟨.filter, n⟩) :
    IsFilterObject classCase a ∧ HasFilter a.schema a.name n := by
  rw [plainDataType, dataType_eq, typeWith] at h
  -- Every type that is decided before filters is of a kind of its own.
  split at h
  · cases h
  next hplain =>
  split at h
  · cases h
  next hmap =>
  split at h
  · cases h
  next hfree =>
  split at h
  · cases h
  next hlist =>
  split at h
  · cases h
  next hmodel =>
  split at h
  · cases h
  next htext =>
  obtain ⟨hobject, hfilter⟩ := namedFilter?_eq_some_iff.1 (filterOrAny_eq_filter_iff.1 h)
  rw [isModel_of_isObjectLike hobject] at hmodel
  have hopen (hshape : a.schema.shape = .object) (hopen : a.schema.isOpenMap = true) :
      a.name = sortAttribute := by
    by_contra hsort
    exact hmap (by simp [hshape, hopen, hsort])
  refine ⟨?_, hfilter⟩
  exact {
    object := hobject
    money := (plainType?_eq_none_iff hobject).1 hplain
    openMap := hopen
    model := Bool.eq_false_iff.2 hmodel
    freeItems := Bool.eq_false_iff.2 hfree
    textItems := Bool.eq_false_iff.2 htext
    filter := ⟨n, hfilter⟩ }

/-- A filter object is typed by the filter that it has. -/
theorem IsFilterObject.plainDataType_eq (h : IsFilterObject classCase a)
    (hfilter : HasFilter a.schema a.name n) :
    plainDataType classCase a.schema a.name = ⟨.filter, n⟩ := by
  have hmap : ¬ (a.schema.shape = .object && a.schema.isOpenMap &&
      a.name ≠ sortAttribute) = true := by
    simp only [Bool.and_eq_true, decide_eq_true_iff]
    rintro ⟨⟨hshape, hopen⟩, hsort⟩
    exact hsort (h.openMap hshape hopen)
  rw [plainDataType, dataType_eq, typeWith, (plainType?_eq_none_iff h.object).2 h.money]
  simp only [hmap, h.freeItems, isModelList_of_isObjectLike h.object,
    isModel_of_isObjectLike h.object, h.model, h.textItems, if_false, Bool.false_eq_true]
  exact filterOrAny_eq_filter_iff.2 (namedFilter?_eq_some_iff.2 ⟨h.object, hfilter⟩)

/-- **Which attributes are filters**: the objects with a filter, under the name of that. -/
theorem plainDataType_eq_filter_iff : plainDataType classCase a.schema a.name = ⟨.filter, n⟩ ↔
    IsFilterObject classCase a ∧ HasFilter a.schema a.name n :=
  ⟨isFilterObject_of_plainDataType, fun h => h.1.plainDataType_eq h.2⟩

/-- The descriptor of the attribute is of a filter and does not name a plain type. -/
structure HasFilterClass (classCase : String → String) (a : Attribute) : Prop
    extends IsFilterObject classCase a where
  statesNoPlainType : StatesNoPlainType a

/-- Sorting by an object that declares nothing. -/
example : HasFilterClass camelCase ⟨sortAttribute, { type := some "object" }, false, false⟩ where
  object := .inl rfl
  money := rfl
  openMap _ _ := rfl
  model := by cbv
  freeItems := rfl
  textItems := rfl
  filter := ⟨sortFilter, .sort rfl rfl⟩
  statesNoPlainType h := absurd rfl h

/-! ## Annotations from descriptors -/

theorem filters_ne_anyType : "Filters." ++ n ≠ anyType := by
  intro h
  have hlist := congrArg String.toList h
  rw [String.toList_append] at hlist
  cases hlist

/-- An attribute that is always annotated with its descriptor has to have a filter class. -/
theorem namesFilter_descriptor_iff :
    NamesFilter classCase a ("Filters." ++ (plainDataType classCase a.schema a.name).name) ↔
      HasFilterClass classCase a := by
  constructor
  · rintro ⟨hany | ⟨n, htype, -, -⟩, hplain⟩
    · exact absurd hany filters_ne_anyType
    · obtain ⟨hobject, hfilter⟩ := plainDataType_eq_filter_iff.1 htype
      refine ⟨hobject, hfilter.not_plain_iff.1 fun hn => hplain n hn ?_⟩
      rw [htype]
  · rintro ⟨hobject, hstates⟩
    obtain ⟨n, hfilter⟩ := hobject.filter
    have htype := plainDataType_eq_filter_iff.2 ⟨hobject, hfilter⟩
    rw [htype]
    refine ⟨.inr ⟨n, htype, hfilter.isFilterName, rfl⟩, fun t ht heq => ?_⟩
    obtain rfl := (String.append_right_inj _).1 heq
    exact hfilter.not_plain_iff.2 hstates ht

/-- The annotation of a filter of its own: with its descriptor if that is of a filter. -/
def filterText (d : TypeDescriptor) : String :=
  if d.kind = .filter then "Filters." ++ d.name else anyType

/-- The text of a type names a filter unless a filter object states a plain type. -/
theorem namesFilter_filterText_iff :
    NamesFilter classCase a (filterText (plainDataType classCase a.schema a.name)) ↔
      (IsFilterObject classCase a → StatesNoPlainType a) := by
  by_cases hobject : IsFilterObject classCase a
  · obtain ⟨n, hfilter⟩ := hobject.filter
    have htype := plainDataType_eq_filter_iff.2 ⟨hobject, hfilter⟩
    have htext : filterText (plainDataType classCase a.schema a.name) =
        "Filters." ++ (plainDataType classCase a.schema a.name).name := by
      rw [filterText, htype, if_pos rfl]
    rw [htext, namesFilter_descriptor_iff]
    exact ⟨fun h _ => h.statesNoPlainType, fun h => ⟨hobject, h hobject⟩⟩
  · have hkind : (plainDataType classCase a.schema a.name).kind ≠ .filter := by
      intro hkind
      exact hobject (plainDataType_eq_filter_iff.1 (congrArg (TypeDescriptor.mk · _) hkind)).1
    rw [filterText, if_neg hkind]
    exact iff_of_true ⟨.inl rfl, fun t _ h => filters_ne_anyType h.symm⟩ fun h => absurd h hobject

/-! ## Parameters -/

/-- A sort parameter is annotated as a filter of whatever its type is. -/
theorem type_of_sort (h : e.parameterKind = .sort) :
    (entryParameter classCase context action e).value.type =
      "Filters." ++ (plainDataType classCase e.schema e.name).name := by
  unfold entryParameter
  rw [h]
  rfl

/-- A filter parameter is annotated by the text of its type. -/
theorem type_of_filter (h : e.parameterKind = .filter) :
    (entryParameter classCase context action e).value.type =
      filterText (plainDataType classCase e.schema e.name) := by
  unfold entryParameter
  rw [h]
  change (ite _ _ _ : Shaped String).value = _
  rw [filterText]
  split <;> rfl

/-- An entry names its filter where its type is one. -/
theorem namesOwnFilter_entry_iff :
    NamesOwnFilter classCase e (entryParameter classCase context action e).value ↔
      (e.parameterKind = .sort → HasFilterClass classCase e) ∧
        (e.parameterKind = .filter → IsFilterObject classCase e → StatesNoPlainType e) := by
  rw [NamesOwnFilter, kind_entryParameter]
  constructor
  · intro h
    refine ⟨fun hsort => ?_, fun hfilter => ?_⟩
    · rw [← namesFilter_descriptor_iff, ← type_of_sort hsort]
      exact h (.inr hsort)
    · rw [← namesFilter_filterText_iff, ← type_of_filter hfilter]
      exact h (.inl hfilter)
  · rintro ⟨hsorts, hfilters⟩ (hfilter | hsort)
    · rw [type_of_filter hfilter, namesFilter_filterText_iff]
      exact hfilters hfilter
    · rw [type_of_sort hsort, namesFilter_descriptor_iff]
      exact hsorts hsort

/-- A field of an entry does under the same condition. -/
theorem namesOwnFilter_field_iff :
    NamesOwnFilter classCase f (fieldParameter classCase context e f).value ↔
      (f.kind = .filter ∨ f.kind = .sort → HasFilterClass classCase f) := by
  rw [NamesOwnFilter, fieldParameter]
  split
  next hkind =>
    have hkind : f.kind = .filter ∨ f.kind = .sort := by simpa using hkind
    constructor
    · intro h _
      exact namesFilter_descriptor_iff.1 (h (.inl rfl))
    · intro h _
      exact namesFilter_descriptor_iff.2 (h hkind)
  next hkind =>
    have hkind : ¬ (f.kind = .filter ∨ f.kind = .sort) := by simpa using hkind
    split
    all_goals exact iff_of_true (by rintro (h | h) <;> cases h) fun h => absurd h hkind

theorem fields_eq_map : (entryParameter classCase context action e).value.fields =
    (fieldInputs action e).map fun f =>
      (fieldParameter classCase context (wholeInput action e) f).value := by
  by_cases hcontainer : e.parameterKind.isContainer = true
  · rw [fields_entryParameter _ _ hcontainer, fieldInputs, if_pos hcontainer]
    rfl
  · rw [fieldInputs, entryParameter, if_neg hcontainer, if_neg hcontainer]
    rfl

/-- The inputs that are annotated with filters have filters. -/
structure StatesFilters (classCase : String → String) (action : Action) (e : Attribute) :
    Prop where
  sort : e.parameterKind = .sort → HasFilterClass classCase e
  filter : e.parameterKind = .filter → IsFilterObject classCase e → StatesNoPlainType e
  fields : ∀ f ∈ fieldInputs action e, f.kind = .filter ∨ f.kind = .sort →
    HasFilterClass classCase f

/-- An entry and its fields name their filters together. -/
theorem namesFilters_entry_iff :
    NamesFilters classCase action e (entryParameter classCase context action e).value ↔
      StatesFilters classCase action e := by
  have hfields : List.Forall₂ (NamesOwnFilter classCase) (fieldInputs action e)
      (entryParameter classCase context action e).value.fields ↔
        ∀ f ∈ fieldInputs action e, f.kind = .filter ∨ f.kind = .sort →
          HasFilterClass classCase f := by
    rw [fields_eq_map, List.forall₂_map_right_iff, List.forall₂_same]
    exact forall₂_congr fun f _ => namesOwnFilter_field_iff
  constructor
  · rintro ⟨hown, hnested⟩
    obtain ⟨hsort, hfilter⟩ := namesOwnFilter_entry_iff.1 hown
    exact ⟨hsort, hfilter, hfields.1 hnested⟩
  · rintro ⟨hsort, hfilter, hnested⟩
    exact ⟨namesOwnFilter_entry_iff.2 ⟨hsort, hfilter⟩, hfields.2 hnested⟩

theorem value_shapeInputs : (shapeInputs classCase context action).value =
    (firstEntries [] (flatView action).all).map fun e =>
      (entryParameter classCase context action e).value := rfl

/-- **When filter annotations name filters.** The sort parameter and the filters among the fields of
inputs have to be objects with a filter, and no filter may state a plain type. -/
theorem forall₂_namesFilters_iff :
    List.Forall₂ (NamesFilters classCase action) (firstEntries [] (flatView action).all)
        (shapeInputs classCase context action).value ↔
      ∀ e ∈ firstEntries [] (flatView action).all, StatesFilters classCase action e := by
  rw [value_shapeInputs, List.forall₂_map_right_iff, List.forall₂_same]
  exact forall₂_congr fun e _ => namesFilters_entry_iff

/-- Sorting by a text. -/
def textOrder : Parameter where
  name := sortAttribute
  schema := { type := some "string" }
  isRequired := false
  qa := false

def listByText : Action :=
  { postAction [] with method := .get, body := none, parameters := [(.query, textOrder)] }

/-- The sort parameter that is a text is annotated with `Filters.str`. -/
theorem not_forall₂_namesFilters :
    ¬ ∀ (context : ShapingContext) (action : Action),
      List.Forall₂ (NamesFilters camelCase action) (firstEntries [] (flatView action).all)
        (shapeInputs camelCase context action).value := by
  intro h
  have hentries : firstEntries [] (flatView listByText).all = [textOrder.asAttribute] := by cbv
  have hnamed := h bareContext listByText
  rw [value_shapeInputs, hentries] at hnamed
  obtain ⟨⟨hown, -⟩, -⟩ := List.forall₂_cons.1 hnamed
  have hsort : textOrder.asAttribute.parameterKind = .sort := by cbv
  rw [NamesOwnFilter, kind_entryParameter, type_of_sort hsort] at hown
  refine (hown (.inr hsort)).notPlain textType (by decide) ?_
  exact congrArg ("Filters." ++ TypeDescriptor.name ·) plainDataType_text

end SdkModel.Typed
