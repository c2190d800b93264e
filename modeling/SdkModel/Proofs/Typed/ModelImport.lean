import SdkModel.Proofs.Spec.SingleResource
import SdkModel.Proofs.Typed.Redaction

/-!
# Imports of models

Which modules a generated module imports for the models that it refers to. A reference is built
where the models of a resource are split into modules and a column or a field has the class of a
model, and where a response names another resource (`BuildsReference`). Every one of them is
recorded and nothing else is, so that the imports are exact but for one thing: a resource leaves
out the module of its id and not its own one (`importsExact_iff`).
-/

namespace SdkModel

namespace Shaped

variable {α β : Type} {x : Shaped α} {f : α → Shaped β} {xs : List α} {i : Import}

/-- A sequence records what its parts record. -/
theorem mem_references_bind :
    i ∈ (x >>= f).references ↔ i ∈ x.references ∨ i ∈ (f x.value).references := List.mem_append

theorem mem_references_each :
    i ∈ (each xs f).references ↔ ∃ a ∈ xs, i ∈ (f a).references := List.mem_flatMap

theorem references_bind_pure (g : α → β) : (x >>= fun a => pure (g a)).references = x.references :=
  List.append_nil _

/-- No model is referred to. -/
def NoModel (x : Shaped α) : Prop := ∀ m, Import.model m ∉ x.references

theorem NoModel.pure (a : α) : NoModel (Pure.pure a : Shaped α) := fun _ => List.not_mem_nil

/-- What records no model in its parts records none. -/
theorem NoModel.bind (hx : NoModel x) (hf : ∀ a, NoModel (f a)) : NoModel (x >>= f) := by
  intro m hm
  rcases mem_references_bind.1 hm with h | h
  · exact hx m h
  · exact hf _ m h

theorem NoModel.each (hf : ∀ a ∈ xs, NoModel (f a)) : NoModel (Shaped.each xs f) := by
  intro m hm
  obtain ⟨a, ha, hm⟩ := mem_references_each.1 hm
  exact hf a ha m hm

end Shaped

/-- All recorded models are imported but one without a name and one named by the id of the
resource. -/
theorem ShapingContext.mem_models_importsOf {c : ShapingContext} {references : List Import}
    {m : String} : m ∈ (c.importsOf references).models ↔
      .model m ∈ references ∧ m ≠ "" ∧ c.resource.id ≠ some m := by
  have hmodules : m ∈ references.filterMap Import.modelModule? ↔ .model m ∈ references := by
    rw [List.mem_filterMap]
    constructor
    · rintro ⟨i, hi, heq⟩
      cases i <;> cases heq
      exact hi
    · intro h
      exact ⟨_, h, rfl⟩
  refine (sortByName_perm id _).mem_iff.trans ?_
  rw [List.mem_eraseDups, List.mem_filter, hmodules, importsModel, Bool.and_eq_true,
    decide_eq_true_iff, decide_eq_true_iff]

namespace Typed

open Logged (Quiet quiet_iff)

variable {classCase : String → String} {context : ShapingContext} {resources : List Resource}
variable {r sub : Resource} {a : Attribute} {s : Schema} {f g : ResponseField}
variable {hint m type : String}

/-! ## Classes of models -/

/-- The type of the schema is the class of a model. -/
def namesModel (s : Schema) (hint : String) : Bool :=
  (plainType? s).isNone && !(s.shape = .object && s.isOpenMap && hint ≠ sortAttribute) &&
    !hasFreeItems s && (isModelList s || isModel s)

/-- The class of the model, or of the models of an array. -/
def modelOf (classCase : String → String) (s : Schema) (hint : String) : String :=
  classCase (if isModelList s then singular hint else hint)

def modelModule (classCase : String → String) (s : Schema) (hint : String) : String :=
  Naming.snake (modelOf classCase s hint)

/-- The class of the model in the module of its own. -/
def modelReference (classCase : String → String) (s : Schema) (hint : String) : String :=
  let reference := modelModule classCase s hint ++ "." ++ modelOf classCase s hint
  if isModelList s then listOf reference else reference

/-- A schema with the class of a model refers to its module where models are split into modules. -/
theorem dataType_of_namesModel (h : namesModel s hint = true) (split : Bool) :
    dataType classCase split s hint = do
      let c ← modelClass classCase split (if isModelList s then singular hint else hint)
      return if isModelList s then ⟨.list, listOf c⟩ else ⟨.reference, c⟩ := by
  simp only [namesModel, Bool.and_eq_true, Bool.or_eq_true, Bool.not_eq_true',
    Option.isNone_iff_eq_none] at h
  obtain ⟨⟨⟨hplain, hmap⟩, hfree⟩, hmodel⟩ := h
  rw [dataType_eq, typeWith, hplain, hmap, hfree]
  cases hlist : isModelList s with
  | true => rfl
  | false =>
    rw [hmodel.resolve_left (by rw [hlist]; exact Bool.false_ne_true)]
    rfl

/-- A type that does not name a model records none. -/
theorem noModel_dataType (h : namesModel s hint = false) (split : Bool) :
    (dataType classCase split s hint).NoModel := by
  rw [dataType_eq, typeWith]
  cases hplain : plainType? s with
  | some type => exact .pure _
  | none =>
    have hother : (s.shape = .object && s.isOpenMap && hint ≠ sortAttribute) = true ∨
        hasFreeItems s = true ∨ isModelList s = false ∧ isModel s = false := by
      rw [namesModel, hplain, Option.isNone_none, Bool.true_and, Bool.and_eq_false_iff,
        Bool.and_eq_false_iff, Bool.not_eq_false', Bool.not_eq_false', Bool.or_eq_false_iff,
        or_assoc] at h
      exact h
    dsimp only
    rcases hother with hmap | hfree | ⟨hlist, hmodel⟩
    · rw [if_pos hmap]
      exact .pure _
    · rw [if_pos hfree]
      split
      · exact .pure _
      · exact .pure _
    · simp only [hlist, hmodel, Bool.false_eq_true, if_false]
      repeat' split
      all_goals exact .pure _

/-- The modules that the type of a schema refers to. -/
theorem mem_references_dataType_iff (split : Bool) :
    .model m ∈ (dataType classCase split s hint).references ↔
      split = true ∧ namesModel s hint = true ∧ m = modelModule classCase s hint := by
  cases h : namesModel s hint with
  | false => exact iff_of_false (noModel_dataType h split m) (by rintro ⟨-, ⟨⟩, -⟩)
  | true =>
    rw [dataType_of_namesModel h, Shaped.references_bind_pure, modelClass]
    cases split with
    | false => exact iff_of_false List.not_mem_nil (by rintro ⟨⟨⟩, -⟩)
    | true =>
      rw [if_pos rfl, List.mem_singleton, Import.model.injEq]
      exact (and_iff_right rfl).symm.trans (and_congr_right fun _ => (and_iff_right rfl).symm)

/-- Where the models are split off, a type that names one is written with its module. -/
theorem dataType_split (h : namesModel s hint = true) :
    (dataType classCase true s hint).value =
      ⟨if isModelList s then .list else .reference, modelReference classCase s hint⟩ := by
  rw [dataType_of_namesModel h, modelReference, modelModule, modelOf]
  cases isModelList s <;> rfl

/-! ## Columns and fields -/

/-- The name that the type of a column is made from. -/
def columnHint (a : Attribute) : String := if a.kind.isModelKind then modelHint a else a.name

/-- The type of a column that refers to a module: the response class of a model that the attribute
holds, and the class itself elsewhere. -/
def columnReference (classCase : String → String) (a : Attribute) : String :=
  let reference := modelReference classCase a.schema (columnHint a)
  if a.kind.isModelKind then quoteForeign (responseClass reference) else reference

/-- The column of an attribute refers to a module. -/
structure ColumnRefers (r : Resource) (a : Attribute) : Prop where
  split : r.hasDependentAttributes = true
  notEnum : a.kind.isEnumKind = false
  model : namesModel a.schema (columnHint a) = true

/-- The field of a nested type refers to a module. -/
structure FieldRefers (r : Resource) (a : Attribute) : Prop where
  split : r.hasDependentAttributes = true
  notEnum : a.schema.isEnum = false
  model : namesModel a.schema a.name = true

/-- A column records what its type records. -/
theorem references_columnType : (columnType classCase context a).references =
    (dataType classCase context.splitsModels a.schema a.name).references :=
  Shaped.references_bind_pure _

theorem references_responseType (h : a.kind.isEnumKind = false) :
    (responseType classCase context a).references =
      (dataType classCase context.splitsModels a.schema (columnHint a)).references := by
  have hlist : a.kind ≠ .listOfEnum := by
    intro hkind
    rw [hkind] at h
    cases h
  rw [responseType, if_neg hlist, h, if_neg Bool.false_ne_true, columnHint]
  split
  · exact Shaped.references_bind_pure _
  · exact references_columnType

/-- An enum column refers to no model. -/
theorem noModel_responseType (h : a.kind.isEnumKind = true) :
    (responseType classCase context a).NoModel := by
  rw [responseType, h]
  split
  · exact .pure _
  · exact .pure _

/-- The module that a column refers to is recorded. -/
theorem mem_references_responseColumn_iff :
    .model m ∈ (responseColumn classCase context a).references ↔
      ColumnRefers context.resource a ∧ m = modelModule classCase a.schema (columnHint a) := by
  have hcolumn : (responseColumn classCase context a).references =
      (responseType classCase context a).references := Shaped.references_bind_pure _
  rw [hcolumn]
  cases henum : a.kind.isEnumKind with
  | true =>
    refine iff_of_false (noModel_responseType henum m) ?_
    rintro ⟨h, -⟩
    cases henum.symm.trans h.notEnum
  | false =>
    rw [references_responseType henum, mem_references_dataType_iff]
    constructor
    · rintro ⟨hsplit, hmodel, rfl⟩
      exact ⟨⟨hsplit, henum, hmodel⟩, rfl⟩
    · rintro ⟨h, rfl⟩
      exact ⟨h.split, h.model, rfl⟩

theorem columnType_of_namesModel (hsplit : context.splitsModels = true)
    (h : namesModel a.schema a.name = true) :
    (columnType classCase context a).value = modelReference classCase a.schema a.name := by
  have hvalue : (columnType classCase context a).value =
      let d := (dataType classCase context.splitsModels a.schema a.name).value
      if d.kind = .filter && !(a.isFilter || a.isSort) then objectType else d.name := rfl
  rw [hvalue, hsplit, dataType_split h]
  cases isModelList a.schema <;> rfl

/-- A column that refers to a model is typed by it. -/
theorem type_responseColumn (h : ColumnRefers context.resource a) :
    (responseColumn classCase context a).value.type = columnReference classCase a := by
  have hlist : a.kind ≠ .listOfEnum := by
    intro hkind
    have henum := h.notEnum
    rw [hkind] at henum
    cases henum
  have hmodel := h.model
  change (responseType classCase context a).value = _
  rw [responseType, if_neg hlist, h.notEnum, if_neg Bool.false_ne_true, columnReference]
  rw [columnHint] at hmodel ⊢
  cases hkind : a.kind.isModelKind with
  | true =>
    rw [hkind, if_pos rfl] at hmodel
    have hvalue : (modelType classCase context a).value =
        let d := (dataType classCase context.splitsModels a.schema (modelHint a)).value
        if d.isUnknown then anyType else quoteForeign (responseClass d.name) := rfl
    have hsplit : context.splitsModels = true := h.split
    rw [if_pos rfl, hvalue, hsplit, dataType_split hmodel]
    cases isModelList a.schema <;> rfl
  | false =>
    rw [hkind, if_neg Bool.false_ne_true] at hmodel
    exact columnType_of_namesModel h.split hmodel

theorem noModel_filterClass (name : String) : (filterClass name).NoModel := by
  intro m hm
  cases List.mem_singleton.1 hm

/-- Enums are imported from elsewhere. -/
theorem noModel_enumClass (localName : Option String) :
    (enumClass classCase context a localName).NoModel := by
  rw [enumClass]
  split
  · intro m hm
    cases List.mem_singleton.1 hm
  · exact .pure _

/-- The module that a field of a nested type refers to is recorded. -/
theorem mem_references_modelField_iff :
    .model m ∈ (modelField classCase context sub a).references ↔
      FieldRefers context.resource a ∧ m = modelModule classCase a.schema a.name := by
  rw [modelField]
  cases henum : a.schema.isEnum with
  | true =>
    rw [if_pos rfl, Shaped.references_bind_pure]
    refine iff_of_false (noModel_enumClass _ m) ?_
    rintro ⟨h, -⟩
    cases henum.symm.trans h.notEnum
  | false =>
    rw [if_neg Bool.false_ne_true, Shaped.references_bind_pure, references_columnType,
      mem_references_dataType_iff]
    constructor
    · rintro ⟨hsplit, hmodel, rfl⟩
      exact ⟨⟨hsplit, henum, hmodel⟩, rfl⟩
    · rintro ⟨h, rfl⟩
      exact ⟨h.split, h.model, rfl⟩

/-- A field that refers to a model is typed by it. -/
theorem type_modelField (h : FieldRefers context.resource a) :
    (modelField classCase context sub a).value.1.type =
      modelReference classCase a.schema a.name := by
  rw [modelField, h.notEnum, if_neg Bool.false_ne_true]
  exact columnType_of_namesModel h.split h.model

/-! ## Responses -/

/-- A type of a response that names another resource. -/
def namesResource (r : Resource) (type : String) : Bool :=
  type ≠ "unknown" && type ∉ builtinTypes && lowered type ≠ lowered r.name

/-- The response class of the resource in its module. -/
def resourceReference (f : ResponseField) (type : String) : String :=
  let reference := quoted (Naming.snake type ++ "." ++ responseName type)
  if f.isList then listOf reference else reference

/-- The fields of a response that have a type of their own: those of the items for a field that
holds some. -/
def typedFields (classCase : String → String) (r : Response) : List ResponseField :=
  (orderedFields classCase r).flatMap fun f => if holdsItems f then f.fields else [f]

/-- The field of a response refers to the module of the type. -/
structure ResponseRefers (r : Resource) (f : ResponseField) (type : String) : Prop where
  typed : f.type = some type
  named : namesResource r type = true

/-- The type of a field that names another resource is its response class, and its module is
recorded. -/
theorem fieldType_of_namesResource (h : namesResource context.resource type = true) :
    fieldType context (some type) = ⟨quoted (Naming.snake type ++ "." ++ responseName type),
      [.model (Naming.snake type)]⟩ := by
  simp only [namesResource, Bool.and_eq_true, decide_eq_true_iff] at h
  obtain ⟨⟨hunknown, hbuiltin⟩, hown⟩ := h
  rw [fieldType, if_neg hunknown, if_neg hbuiltin, if_neg hown]
  rfl

/-- Any other type records no model. -/
theorem noModel_fieldType (h : namesResource context.resource type = false) :
    (fieldType context (some type)).NoModel := by
  rw [fieldType]
  by_cases hunknown : type = "unknown"
  · rw [if_pos hunknown]
    exact .pure _
  · by_cases hbuiltin : type ∈ builtinTypes
    · rw [if_neg hunknown, if_pos hbuiltin]
      exact .pure _
    · have hown : lowered type = lowered context.resource.name := by
        simpa [namesResource, hunknown, hbuiltin] using h
      rw [if_neg hunknown, if_neg hbuiltin, if_pos hown]
      exact .pure _

/-- The module that a field of a response refers to is recorded. -/
theorem mem_references_fieldColumn_iff : .model m ∈ (fieldColumn context f).references ↔
    ∃ type, ResponseRefers context.resource f type ∧ m = Naming.snake type := by
  rw [fieldColumn, Shaped.references_bind_pure]
  cases htype : f.type with
  | none =>
    refine iff_of_false List.not_mem_nil ?_
    rintro ⟨type, h, -⟩
    cases htype.symm.trans h.typed
  | some type =>
    cases h : namesResource context.resource type with
    | true =>
      rw [fieldType_of_namesResource h, List.mem_singleton, Import.model.injEq]
      constructor
      · rintro rfl
        exact ⟨type, ⟨htype, h⟩, rfl⟩
      · rintro ⟨t, ht, rfl⟩
        cases htype.symm.trans ht.typed
        rfl
    | false =>
      refine iff_of_false (noModel_fieldType h m) ?_
      rintro ⟨t, ht, -⟩
      cases htype.symm.trans ht.typed
      cases h.symm.trans ht.named

theorem type_fieldColumn (h : ResponseRefers context.resource f type) :
    (fieldColumn context f).value.type = resourceReference f type := by
  have hany : quoted (Naming.snake type ++ "." ++ responseName type) ≠ anyType := by
    intro heq
    have hhead := congrArg (fun t : String => t.toList.head?) heq
    simp [quoted, String.toList_append, anyType] at hhead
  have hvalue : (fieldColumn context f).value.type =
      let type := (fieldType context f.type).value
      if f.isList then listOfKnown type else type := rfl
  rw [hvalue, h.typed, fieldType_of_namesResource h.named]
  dsimp only
  rw [listOfKnown, if_neg hany]
  rfl

/-- A field that holds items records what their fields record, and any other one what it does
itself. -/
theorem mem_references_responseField_iff {actionName : String} :
    .model m ∈ (responseField classCase context actionName f).references ↔
      ∃ g ∈ if holdsItems f then f.fields else [f],
        .model m ∈ (fieldColumn context g).references := by
  rw [responseField]
  split
  · rw [Shaped.references_bind_pure, Shaped.mem_references_each]
  · rw [Shaped.references_bind_pure]
    simp only [List.mem_singleton, exists_eq_left]

theorem mem_references_responseClassOf_iff {response : Response} :
    .model m ∈ (responseClassOf classCase context response).references ↔
      ∃ f ∈ typedFields classCase response, .model m ∈ (fieldColumn context f).references := by
  rw [responseClassOf, Shaped.references_bind_pure, Shaped.mem_references_each]
  simp only [mem_references_responseField_iff, typedFields, List.mem_flatMap]
  constructor
  · rintro ⟨f, hf, g, hg, hm⟩
    exact ⟨g, ⟨f, hf, hg⟩, hm⟩
  · rintro ⟨g, ⟨f, hf, hg⟩, hm⟩
    exact ⟨f, hf, g, hg, hm⟩

/-- A field without fields holds no items. -/
theorem holdsItems_of_fields (h : f.fields = []) : holdsItems f = false := by
  rw [holdsItems, h]
  exact Bool.and_false _

/-- None but the first field of a payload holds items, and that one is required. -/
theorem responseFields_cases (s : Schema) (typeOf : TypeOf) :
    (∀ f ∈ s.responseFields typeOf, holdsItems f = false) ∨
      ∃ f, s.responseFields typeOf = [f] ∧ f.isRequired = true := by
  rw [Schema.responseFields]
  split
  · exact .inr ⟨_, rfl, rfl⟩
  · refine .inl fun f hf => ?_
    obtain ⟨p, -, rfl⟩ := List.mem_map.1 hf
    exact holdsItems_of_fields rfl

/-- Of the fields of a response only the first one can hold items, and then it is required. -/
theorem fields_cases (response : Response) (typeOf : TypeOf) :
    (∀ f ∈ response.fields typeOf, holdsItems f = false) ∨
      ∃ f rest, response.fields typeOf = f :: rest ∧ f.isRequired = true ∧
        ∀ g ∈ rest, holdsItems g = false := by
  rw [Response.fields]
  split
  · split
    · refine .inr ⟨_, _, rfl, rfl, fun g hg => ?_⟩
      rw [List.mem_singleton.1 hg]
      exact holdsItems_of_fields rfl
    · exact .inl (List.forall_mem_nil _)
  · cases response.schema with
    | none => exact .inl (List.forall_mem_nil _)
    | some s =>
      rcases responseFields_cases s typeOf with hnone | ⟨f, hf, hrequired⟩
      · exact .inl hnone
      · exact .inr ⟨f, [], hf, hrequired, List.forall_mem_nil _⟩

/-- No two fields of a response hold items, so that the items of none are lost. -/
theorem filter_holdsItems {response : Response} (hf : f ∈ orderedFields classCase response)
    (h : holdsItems f = true) : (orderedFields classCase response).filter holdsItems = [f] := by
  rw [orderedFields] at hf ⊢
  rcases fields_cases response fun s hint => some (scalarType classCase s hint) with
    hnone | ⟨g, rest, hfields, hrequired, hrest⟩
  · have hmem : f ∈ response.fields fun s hint => some (scalarType classCase s hint) := by
      rcases List.mem_append.1 hf with hf | hf
      · exact (List.mem_filter.1 hf).1
      · exact (List.mem_filter.1 hf).1
    cases h.symm.trans (hnone f hmem)
  · rw [hfields, List.filter_cons, List.filter_cons, hrequired, if_pos rfl, Bool.not_true,
      if_neg Bool.false_ne_true, List.cons_append] at hf ⊢
    have hothers (g : ResponseField)
        (hg : g ∈ rest.filter (·.isRequired) ++ rest.filter (!·.isRequired)) :
        holdsItems g = false := by
      rcases List.mem_append.1 hg with hg | hg
      · exact hrest g (List.mem_filter.1 hg).1
      · exact hrest g (List.mem_filter.1 hg).1
    rcases List.mem_cons.1 hf with rfl | hf
    · rw [List.filter_cons, h, if_pos rfl, List.filter_eq_nil_iff.2]
      intro g hg
      rw [hothers g hg]
      exact Bool.false_ne_true
    · cases h.symm.trans (hothers f hf)

/-- The fields of the items make up a class of their own. -/
theorem itemFields_responseClassOf {response : Response}
    (hf : f ∈ orderedFields classCase response) (h : holdsItems f = true) :
    (responseClassOf classCase context response).value.itemFields =
      f.fields.map fun g => (fieldColumn context g).value := by
  have hitems : (((orderedFields classCase response).zip
      ((orderedFields classCase response).map fun f =>
        (responseField classCase context response.actionName f).value)).filter
      fun p => holdsItems p.1) =
      [(f, (responseField classCase context response.actionName f).value)] := by
    rw [← List.map_prod_left_eq_zip, List.filter_map]
    exact congrArg (List.map _) (filter_holdsItems hf h)
  have hvalue : (responseClassOf classCase context response).value.itemFields =
      (((((orderedFields classCase response).zip
        ((orderedFields classCase response).map fun f =>
          (responseField classCase context response.actionName f).value)).filter
        fun p => holdsItems p.1).getLast?).map (·.2.2)).getD [] := rfl
  rw [hvalue, hitems, responseField, if_pos h]
  rfl

/-- Every field with a type of its own is a column of the response or of its items. -/
theorem mem_columns_responseClassOf {response : Response}
    (hf : f ∈ typedFields classCase response) :
    (fieldColumn context f).value ∈ (responseClassOf classCase context response).value.fields ++
      (responseClassOf classCase context response).value.itemFields := by
  obtain ⟨g, hg, hf⟩ := List.mem_flatMap.1 hf
  cases h : holdsItems g with
  | true =>
    rw [h, if_pos rfl] at hf
    refine List.mem_append_right _ ?_
    rw [itemFields_responseClassOf hg h]
    exact List.mem_map_of_mem hf
  | false =>
    rw [h, if_neg Bool.false_ne_true, List.mem_singleton] at hf
    subst hf
    refine List.mem_append_left _ (List.mem_map.2 ⟨_, List.mem_map_of_mem hg, ?_⟩)
    rw [responseField, h, if_neg Bool.false_ne_true]
    rfl

/-! ## Inputs -/

/-- Inputs record no models. -/
theorem noModel_fieldParameter (parent field : Attribute) :
    (fieldParameter classCase context parent field).NoModel := by
  rw [fieldParameter]
  split
  · exact (noModel_filterClass _).bind fun _ => .pure _
  · split
    · exact (noModel_enumClass _).bind fun _ => .pure _
    · exact .pure _

theorem noModel_plainParameter (kind : ParameterKind) :
    (plainParameter classCase context a kind).NoModel := by
  refine Shaped.NoModel.bind ?_ fun _ => .pure _
  cases kind with
  | sort => exact noModel_filterClass _
  | enum => exact noModel_enumClass _
  | filter =>
    dsimp only
    split
    · exact noModel_filterClass _
    · exact .pure _
  | value => exact .pure _
  | nestedObject => exact .pure _
  | indexedList => exact .pure _

/-- Inputs refer to no models. -/
theorem noModel_shapeInputs (action : Action) :
    (shapeInputs classCase context action).NoModel := by
  refine .each fun entry _ => ?_
  rw [entryParameter]
  split
  · exact (Shaped.NoModel.each fun field _ => noModel_fieldParameter _ field).bind fun _ => .pure _
  · exact noModel_plainParameter _

/-! ## Built references -/

/-- A type of a shaped resource is built as a reference to a module: that of a column, of a field of
a nested type, or of a field of a response. -/
inductive BuildsReference (classCase : String → String) (r : Resource) :
    (module type : String) → Prop
  | column {a : Attribute} (ha : a ∈ r.visibleAttributes) (h : ColumnRefers r a) :
    BuildsReference classCase r (modelModule classCase a.schema (columnHint a))
      (columnReference classCase a)
  | field {sub : Resource} {a : Attribute} (hsub : sub ∈ r.subResources)
    (ha : a ∈ sub.visibleAttributes) (h : FieldRefers r a) :
    BuildsReference classCase r (modelModule classCase a.schema a.name)
      (modelReference classCase a.schema a.name)
  | response {action : Action} {f : ResponseField} {type : String}
    (haction : action ∈ r.sortedActions) (hf : f ∈ typedFields classCase action.response)
    (h : ResponseRefers r f type) :
    BuildsReference classCase r (Naming.snake type) (resourceReference f type)

/-- The types of the columns, of the fields of nested types and of the responses. -/
def ResourceShape.types (s : ResourceShape) : List String :=
  (s.columns ++ s.models.flatMap (fun c => c.fields ++ c.responseFields) ++
    s.actions.flatMap fun a => a.response.fields ++ a.response.itemFields).map (·.type)

/-- A model class records the models that its visible fields refer to. -/
theorem mem_references_modelClassOf_iff :
    .model m ∈ (modelClassOf classCase context sub).references ↔ ∃ a ∈ sub.visibleAttributes,
      FieldRefers context.resource a ∧ m = modelModule classCase a.schema a.name := by
  rw [modelClassOf, Shaped.references_bind_pure, Shaped.mem_references_each]
  simp only [mem_references_modelField_iff, Resource.sortedAttributes, mem_sortByOrder]

/-- An action records the resources that its response refers to. -/
theorem mem_references_actionShape_iff {action : Action} :
    .model m ∈ (actionShape classCase context action).references ↔
      ∃ f ∈ typedFields classCase action.response, ∃ type,
        ResponseRefers context.resource f type ∧ m = Naming.snake type := by
  rw [actionShape, Shaped.mem_references_bind, Shaped.references_bind_pure,
    mem_references_responseClassOf_iff, or_iff_right (noModel_shapeInputs action m)]
  simp only [mem_references_fieldColumn_iff]

/-- The modules that are recorded are those that types are built with. -/
theorem mem_references_resourceShape_iff :
    .model m ∈ (resourceShape classCase (Backend.contextFor resources r) r).references ↔
      ∃ type, BuildsReference classCase r m type := by
  rw [resourceShape, Shaped.mem_references_bind, Shaped.mem_references_bind,
    Shaped.references_bind_pure, responseColumns, Shaped.mem_references_each,
    Shaped.mem_references_each, Shaped.mem_references_each]
  simp only [mem_references_responseColumn_iff, mem_references_modelClassOf_iff,
    mem_references_actionShape_iff, Resource.sortedAttributes, Resource.sortedSubResources,
    mem_sortByOrder]
  constructor
  · rintro (⟨a, ha, h, rfl⟩ | ⟨sub, hsub, a, ha, h, rfl⟩ | ⟨action, haction, f, hf, type, h, rfl⟩)
    · exact ⟨_, .column ha h⟩
    · exact ⟨_, .field hsub ha h⟩
    · exact ⟨_, .response haction hf h⟩
  · rintro ⟨type, h⟩
    cases h with
    | column ha h => exact .inl ⟨_, ha, h, rfl⟩
    | field hsub ha h => exact .inr (.inl ⟨_, hsub, _, ha, h, rfl⟩)
    | response haction hf h => exact .inr (.inr ⟨_, haction, _, hf, _, h, rfl⟩)

/-- A type that is built as a reference is a type of the shaped resource. -/
theorem BuildsReference.mem_types (h : BuildsReference classCase r m type) :
    type ∈ (resourceShape classCase (Backend.contextFor resources r) r).value.types := by
  let context := Backend.contextFor resources r
  rw [ResourceShape.types, List.mem_map]
  cases h with
  | @column a ha h =>
    have hcolumn : (responseColumn classCase context a).value ∈
        (resourceShape classCase context r).value.columns :=
      List.mem_map_of_mem (mem_sortByOrder.2 ha)
    exact ⟨_, List.mem_append_left _ (List.mem_append_left _ hcolumn), type_responseColumn h⟩
  | @field sub a hsub ha h =>
    have hmodel : (modelClassOf classCase context sub).value ∈
        (resourceShape classCase context r).value.models :=
      List.mem_map_of_mem (mem_sortByOrder.2 hsub)
    have hfield : (modelField classCase context sub a).value.1 ∈
        (modelClassOf classCase context sub).value.fields :=
      List.mem_map_of_mem (List.mem_map_of_mem (mem_sortByOrder.2 ha))
    exact ⟨_, List.mem_append_left _ (List.mem_append_right _
      (List.mem_flatMap.2 ⟨_, hmodel, List.mem_append_left _ hfield⟩)), type_modelField h⟩
  | @response action f type haction hf h =>
    have haction : (actionShape classCase context action).value ∈
        (resourceShape classCase context r).value.actions := List.mem_map_of_mem haction
    exact ⟨_, List.mem_append_right _ (List.mem_flatMap.2
      ⟨_, haction, mem_columns_responseClassOf hf⟩), type_fieldColumn h⟩

/-- A shaped resource imports the modules that its types are built with, its own one left out. -/
def ImportsExact (classCase : String → String) (resources : List Resource) (r : Resource) : Prop :=
  let context := Backend.contextFor resources r
  let shaped := resourceShape classCase context r
  ∀ m, m ∈ (context.importsOf shaped.references).models ↔
    m ≠ shaped.value.module ∧ ∃ type ∈ shaped.value.types, BuildsReference classCase r m type

/-- **When the imports of models are exact.** Whatever resources are shaped together, a shaped
resource imports the modules of others that its types are built with exactly when each module that
they are built with is its own just if it has no name or is the id of the resource. -/
theorem importsExact_iff (classCase : String → String) (resources : List Resource) (r : Resource) :
    ImportsExact classCase resources r ↔ ∀ m type, BuildsReference classCase r m type →
      (m = Naming.snake r.name ↔ m = "" ∨ r.id = some m) := by
  have hmodule : (resourceShape classCase (Backend.contextFor resources r) r).value.module =
      Naming.snake r.name := rfl
  have hid : (Backend.contextFor resources r).resource.id = r.id := rfl
  have htypes (m : String) : (∃ type ∈ (resourceShape classCase
      (Backend.contextFor resources r) r).value.types, BuildsReference classCase r m type) ↔
      ∃ type, BuildsReference classCase r m type := by
    constructor
    · rintro ⟨type, -, h⟩
      exact ⟨type, h⟩
    · rintro ⟨type, h⟩
      exact ⟨type, h.mem_types, h⟩
  have hexcept (m : String) : (m = Naming.snake r.name ↔ m = "" ∨ r.id = some m) ↔
      (m ≠ "" ∧ r.id ≠ some m ↔ m ≠ Naming.snake r.name) := by
    rw [← not_or, ne_eq, not_iff_not]
    exact Iff.comm
  unfold ImportsExact
  simp only [ShapingContext.mem_models_importsOf, mem_references_resourceShape_iff, htypes, hmodule,
    hid, hexcept]
  constructor
  · intro h m type hbuilds
    have hsome : ∃ type, BuildsReference classCase r m type := ⟨type, hbuilds⟩
    exact ⟨fun hkept => ((h m).1 ⟨hsome, hkept⟩).1, fun hother => ((h m).2 ⟨hother, hsome⟩).2⟩
  · intro h m
    constructor
    · rintro ⟨⟨type, hbuilds⟩, hkept⟩
      exact ⟨(h m type hbuilds).1 hkept, type, hbuilds⟩
    · rintro ⟨hother, type, hbuilds⟩
      exact ⟨⟨type, hbuilds⟩, (h m type hbuilds).2 hother⟩

/-! ## A resource that imports itself -/

def dependentModel : Entries :=
  [(.text "type", .text "object"), (.text "x-cb-is-sub-resource", .bool true),
    (.text "x-cb-is-dependent-attribute", .bool true)]

def dependentModelSchema : Schema where
  type := some "object"
  extensions := {
    isSubResource := true, isDependentAttribute := true
    declared := ["is_sub_resource", "is_dependent_attribute"] }

/-- The resource `Thing` of the id `t`, with a model of its own name. -/
def selfNamed : Resource := loneResource "t" "thing" dependentModelSchema

/-- The module of the resource is not left out, since it is not its id. -/
theorem not_forall_importsExact :
    ¬ ∀ (config : GenerationConfig) (document : Entries) (spec : Spec),
      (Spec.build config document).outcome = .ok spec → ∀ r ∈ backend.resources config spec,
        ImportsExact camelCase (backend.resources config spec) r := by
  intro h
  have hfree : (Value.object (loneDocument "t" "thing" dependentModel)).references = [] := by cbv
  have hresources : backend.resources {} (loneSpec "t" "thing" dependentModel
      dependentModelSchema) = [selfNamed] := resources_loneSpec (by decide)
  have hbuild : (Spec.build {} (loneDocument "t" "thing" dependentModel)).outcome =
      .ok (loneSpec "t" "thing" dependentModel dependentModelSchema) :=
    build_loneDocument hfree fun _ => Schema.quiet_leaf (by decide) rfl rfl
  have hexact := h {} _ _ hbuild selfNamed (hresources ▸ List.mem_singleton_self _)
  rw [hresources] at hexact
  let a : Attribute := ⟨"thing", dependentModelSchema, false, false⟩
  have hvisible : selfNamed.visibleAttributes = [a] := by cbv
  have hrefers : ColumnRefers selfNamed a := ⟨by decide, by cbv, by cbv⟩
  have hmodule : modelModule camelCase a.schema (columnHint a) = "thing" := by cbv
  have hbuilds : ∃ type, BuildsReference camelCase selfNamed "thing" type := by
    rw [← hmodule]
    exact ⟨_, .column (hvisible ▸ List.mem_singleton_self _) hrefers⟩
  have hrecorded : .model "thing" ∈ (resourceShape camelCase
      (Backend.contextFor [selfNamed] selfNamed) selfNamed).references :=
    mem_references_resourceShape_iff.2 hbuilds
  have hid : (Backend.contextFor [selfNamed] selfNamed).resource.id ≠ some "thing" := by decide
  have hother := ((hexact "thing").1
    (ShapingContext.mem_models_importsOf.2 ⟨hrecorded, by decide, hid⟩)).1
  exact hother (by decide)

end Typed

end SdkModel
