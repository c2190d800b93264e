import SdkModel.Proofs.Resource.NestedViews
import SdkModel.Proofs.Spec.SingleResource
import SdkModel.Typed.Backend

/-!
# References to models

Which of the model classes that a shaped resource names are generated with it. The class of a
column or of a field is made from the name of the attribute by the casing of classes, whereas the
generated class has the name of the nested type, so that they agree only when the two ways of
naming lead to one class (`noDanglingModel_iff`).
-/

namespace SdkModel

/-- The attribute holds a nested type. -/
def AttributeKind.isNestedKind : AttributeKind → Bool
  | subResource | listOfSubResource => true
  | _ => false

/-- The names of the generated model classes. -/
def Resource.heldModels (r : Resource) : List String :=
  r.heldProperties.map fun p => singular (Resource.typeName p)

namespace Typed

open Logged (Quiet quiet_iff)

/-! ## Named classes -/

/-- The class that an annotation names: that of the items for a list. -/
def className (type : String) : String := (listItem? type).getD type

/-- The annotation is taken for a type of another module. -/
def isForeign (type : String) : Bool :=
  type.toList.contains '.' && !Text.hasStart "\"" type

namespace ResourceShape

variable (s : ResourceShape)

/-- Every model class that a column or a field of a nested type names is generated. -/
structure NoDanglingModel : Prop where
  column : s.resource.hasDependentAttributes = false →
    ∀ p ∈ s.resource.sortedAttributes.zip s.columns, p.1.kind.isNestedKind = true →
      p.1.schema.isGlobalReference = false →
        className p.2.type ∈ s.models.map fun m => responseName m.name
  field : ∀ m ∈ s.resource.sortedSubResources.zip s.models,
    ∀ p ∈ m.1.sortedAttributes.zip m.2.fields, p.1.kind.isNestedKind = true →
      className p.2.type ∈ s.models.map (·.name)

end ResourceShape

variable {x type n : String}

theorem listItem?_listOf (x : String) : listItem? (listOf x) = some x := by
  have hlist : (listOf x).toList = "List[".toList ++ (x.toList ++ "]".toList) := by
    simp only [listOf, String.toList_append, List.append_assoc]
  have hstart : Text.hasStart "List[" (listOf x) = true := by
    rw [Text.hasStart, hlist]
    exact List.isPrefixOf_iff_prefix.2 (List.prefix_append _ _)
  have hend : Text.hasEnd "]" (listOf x) = true := by
    rw [Text.hasEnd, hlist]
    exact List.isSuffixOf_iff_suffix.2 ((List.suffix_append _ _).trans (List.suffix_append _ _))
  have hitem : ((listOf x).toList.drop 5).dropLast = x.toList := by
    rw [hlist]
    exact List.dropLast_concat
  rw [listItem?, hstart, hend, hitem, String.ofList_toList]
  rfl

/-- What does not end as a list does is no list. -/
theorem listItem?_of_getLast? {c : Char} (h : type.toList.getLast? = some c) (hc : c ≠ ']') :
    listItem? type = none := by
  have hend : Text.hasEnd "]" type = false := by
    rw [← Bool.not_eq_true]
    intro hend
    obtain ⟨start, hstart⟩ := List.isSuffixOf_iff_suffix.1 hend
    rw [← hstart, List.getLast?_append] at h
    exact hc (Option.some.inj h).symm
  rw [listItem?, hend, Bool.and_false]
  rfl

theorem getLast?_responseName (n : String) : (responseName n).toList.getLast? = some 'e' := by
  rw [responseName, String.toList_append, List.getLast?_append]
  rfl

theorem getLast?_quoted (x : String) : (quoted x).toList.getLast? = some '"' := by
  rw [quoted, String.toList_append, List.getLast?_append]
  rfl

/-- A type that does not end in a bracket is named by itself. -/
theorem className_of_getLast? {c : Char} (h : type.toList.getLast? = some c) (hc : c ≠ ']') :
    className type = type := by
  rw [className, listItem?_of_getLast? h hc]
  rfl

/-- A list is named by the type of its items. -/
theorem className_listOf (x : String) : className (listOf x) = x := by
  rw [className, listItem?_listOf]
  rfl

theorem className_responseName (n : String) : className (responseName n) = responseName n :=
  className_of_getLast? (getLast?_responseName n) (by decide)

theorem className_quoted (x : String) : className (quoted x) = quoted x :=
  className_of_getLast? (getLast?_quoted x) (by decide)

/-- The response class of a list is that of its items. -/
theorem className_responseClass (type : String) :
    className (responseClass type) = responseName (singular (className type)) := by
  rw [responseClass, className]
  cases h : listItem? type with
  | none => rw [← className, className_responseName, className, h]; rfl
  | some item => rw [← className, className_listOf, className, h]; rfl

/-- A type of the module itself is not quoted. -/
theorem quoteForeign_of_not_foreign (h : isForeign type = false) : quoteForeign type = type := by
  rw [isForeign] at h
  rw [quoteForeign, h]
  rfl

/-- A type of another module is quoted. -/
theorem className_quoteForeign (h : isForeign type = true) :
    ∃ x, className (quoteForeign type) = quoted x := by
  rw [isForeign] at h
  rw [quoteForeign, h, if_pos rfl]
  cases listItem? type with
  | none => exact ⟨type, className_quoted type⟩
  | some item => exact ⟨item, className_listOf (quoted item)⟩

/-- Response classes of one name are those of one model. -/
theorem responseName_injective {m : String} (h : responseName m = responseName n) : m = n := by
  have h := congrArg String.toList h
  simp only [responseName, String.toList_append] at h
  exact String.toList_injective (List.append_cancel_right h)

/-- A type that ends in another letter names no response class. -/
theorem responseName_ne {c : Char} (h : type.toList.getLast? = some c) (hc : c ≠ 'e') :
    type ≠ responseName n := by
  rintro rfl
  rw [getLast?_responseName] at h
  exact hc (Option.some.inj h).symm

/-! ## Columns -/

variable {classCase : String → String} {context : ShapingContext} {r sub : Resource} {a : Attribute}

/-- The class whose response class the column of a nested type names; none when nothing is known of
the type or it is taken for one of another module. -/
def columnModel? (classCase : String → String) (a : Attribute) : Option String :=
  let d := plainDataType classCase a.schema (modelHint a)
  if d.isUnknown || isForeign (responseClass d.name) then none
  else some (singular (className d.name))

/-- A column that is not split names a response class just when it has a model. -/
theorem className_modelType_iff (h : context.splitsModels = false) :
    className (modelType classCase context a).value = responseName n ↔
      columnModel? classCase a = some n := by
  have htype : (modelType classCase context a).value =
      if (plainDataType classCase a.schema (modelHint a)).isUnknown then anyType
      else quoteForeign (responseClass (plainDataType classCase a.schema (modelHint a)).name) := by
    rw [modelType, h]
    rfl
  rw [htype, columnModel?]
  cases hunknown : (plainDataType classCase a.schema (modelHint a)).isUnknown with
  | true =>
    have hany : anyType.toList.getLast? = some 'y' := by decide
    refine iff_of_false ?_ nofun
    rw [if_pos rfl, className_of_getLast? hany (by decide)]
    exact responseName_ne hany (by decide)
  | false =>
    rw [if_neg Bool.false_ne_true, Bool.false_or]
    cases hforeign : isForeign (responseClass (plainDataType classCase a.schema (modelHint a)).name)
      with
    | true =>
      obtain ⟨x, hx⟩ := className_quoteForeign hforeign
      refine iff_of_false ?_ nofun
      rw [hx]
      exact responseName_ne (getLast?_quoted x) (by decide)
    | false =>
      rw [quoteForeign_of_not_foreign hforeign, className_responseClass, if_neg Bool.false_ne_true,
        Option.some.injEq]
      exact ⟨responseName_injective, congrArg responseName⟩

theorem responseColumn_type (h : a.kind.isNestedKind = true) :
    (responseColumn classCase context a).value.type = (modelType classCase context a).value := by
  have hkind : responseType classCase context a = modelType classCase context a := by
    cases hk : a.kind <;> simp_all [responseType, AttributeKind.isNestedKind,
      AttributeKind.isEnumKind, AttributeKind.isModelKind]
  exact congrArg (·.value) hkind

/-! ## Fields of nested types -/

/-- The annotation of a field that holds a nested type. -/
def nestedFieldType (classCase : String → String) (context : ShapingContext) (sub : Resource)
    (a : Attribute) : String :=
  if a.schema.isEnum then (enumClass classCase context a (some (modelEnumName sub a))).value
  else
    let d := (dataType classCase context.splitsModels a.schema a.name).value
    if d.kind = .filter then objectType else d.name

/-- An attribute that holds a nested type is neither the sort input nor a filter. -/
theorem not_filter_of_isNestedKind (h : a.kind.isNestedKind = true) :
    a.isFilter = false ∧ a.isSort = false := by
  rw [Attribute.kind, Schema.kindOf] at h
  by_cases hsort : a.name = sortAttribute
  · rw [if_pos hsort] at h
    cases h
  · rw [if_neg hsort] at h
    cases hfilter : a.isFilter with
    | true =>
      rw [Attribute.isFilter] at hfilter
      rw [hfilter, if_pos rfl] at h
      cases h
    | false => exact ⟨rfl, decide_eq_false hsort⟩

theorem modelField_type (h : a.kind.isNestedKind = true) :
    (modelField classCase context sub a).value.1.type =
      nestedFieldType classCase context sub a := by
  obtain ⟨hfilter, hsort⟩ := not_filter_of_isNestedKind h
  rw [modelField, nestedFieldType]
  split
  · rfl
  · rw [columnType, hfilter, hsort]
    simp [bind, pure]

/-! ## Generated classes -/

/-- The models that a resource holds are named by the singulars of its nested resources. -/
theorem mem_heldModels_iff : n ∈ r.heldModels ↔ ∃ sub ∈ r.subResources, singular sub.name = n := by
  have hnames : r.subResources.map (·.name) = (firstOf Resource.typeName [] r.heldProperties).map
      Resource.typeName := by
    rw [Resource.subResources_eq, List.map_map]
    rfl
  have hmem (t : String) : t ∈ r.subResources.map (·.name) ↔
      t ∈ r.heldProperties.map Resource.typeName := by
    rw [hnames]
    exact mem_keys_firstOf_nil
  have hheld : r.heldModels = (r.heldProperties.map Resource.typeName).map singular := by
    rw [List.map_map]
    rfl
  rw [hheld, List.mem_map]
  constructor
  · rintro ⟨t, ht, rfl⟩
    obtain ⟨sub, hsub, rfl⟩ := List.mem_map.1 ((hmem t).2 ht)
    exact ⟨sub, hsub, rfl⟩
  · rintro ⟨sub, hsub, rfl⟩
    exact ⟨sub.name, (hmem _).1 (List.mem_map_of_mem hsub), rfl⟩

/-- The generated classes are those of the properties that hold nested types. -/
theorem mem_modelNames_iff :
    n ∈ (resourceShape classCase context r).value.models.map (·.name) ↔ n ∈ r.heldModels := by
  have hmodels : (resourceShape classCase context r).value.models.map (·.name) =
      r.sortedSubResources.map fun sub => singular sub.name := by
    exact List.map_map
  rw [hmodels, List.mem_map, mem_heldModels_iff]
  refine exists_congr fun sub => and_congr_left fun _ => ?_
  exact mem_sortByOrder

/-- The response classes of a resource are those of the models that it holds. -/
theorem mem_responseNames_iff :
    x ∈ ((resourceShape classCase context r).value.models.map fun m => responseName m.name) ↔
      ∃ n ∈ r.heldModels, x = responseName n := by
  have hnames (models : List ModelClass) : (models.map fun m => responseName m.name) =
      (models.map (·.name)).map responseName := by
    rw [List.map_map]
    rfl
  rw [hnames, List.mem_map]
  simp only [mem_modelNames_iff, eq_comm]

/-! ## No dangling model -/

/-- What holds of each member paired with its image holds of the zip. -/
theorem forall_mem_zip_map {α β : Type} {xs : List α} {f : α → β} {P : α × β → Prop} :
    (∀ p ∈ xs.zip (xs.map f), P p) ↔ ∀ a ∈ xs, P (a, f a) := by
  rw [← List.map_prod_left_eq_zip]
  exact List.forall_mem_map

/-- The columns of nested types name generated classes when the classes are held. -/
theorem columns_iff (h : context.splitsModels = false) :
    (∀ p ∈ r.sortedAttributes.zip (resourceShape classCase context r).value.columns,
        p.1.kind.isNestedKind = true → p.1.schema.isGlobalReference = false →
          className p.2.type ∈
            (resourceShape classCase context r).value.models.map fun m => responseName m.name) ↔
      ∀ a ∈ r.visibleAttributes, a.kind.isNestedKind = true → a.schema.isGlobalReference = false →
        ∃ n ∈ r.heldModels, columnModel? classCase a = some n := by
  have hcolumns : (resourceShape classCase context r).value.columns =
      r.sortedAttributes.map fun a => (responseColumn classCase context a).value := rfl
  rw [hcolumns, forall_mem_zip_map]
  refine forall_congr' fun a => imp_congr mem_sortByOrder ?_
  refine imp_congr_right fun hkind => imp_congr_right fun _ => ?_
  rw [mem_responseNames_iff, responseColumn_type hkind]
  simp only [className_modelType_iff h]

/-- The fields of a nested type name generated classes when the classes are held. -/
theorem fields_iff :
    (∀ p ∈ sub.sortedAttributes.zip (modelClassOf classCase context sub).value.fields,
        p.1.kind.isNestedKind = true → className p.2.type ∈ r.heldModels) ↔
      ∀ a ∈ sub.visibleAttributes, a.kind.isNestedKind = true →
        className (nestedFieldType classCase context sub a) ∈ r.heldModels := by
  have hfields : (modelClassOf classCase context sub).value.fields =
      sub.sortedAttributes.map fun a => (modelField classCase context sub a).value.1 := by
    exact List.map_map
  rw [hfields, forall_mem_zip_map]
  refine forall_congr' fun a => imp_congr mem_sortByOrder ?_
  refine imp_congr_right fun hkind => ?_
  rw [modelField_type hkind]

/-- **When no reference to a model dangles.** Whatever resources are shaped together, the model
classes that columns and fields of nested types name are generated with the resource exactly when
each of these names is the singular of the name of a nested type that a property holds. -/
theorem noDanglingModel_iff (classCase : String → String) (resources : List Resource)
    (r : Resource) :
    (resourceShape classCase (Backend.contextFor resources r) r).value.NoDanglingModel ↔
      (r.hasDependentAttributes = false → ∀ a ∈ r.visibleAttributes,
        a.kind.isNestedKind = true → a.schema.isGlobalReference = false →
          ∃ n ∈ r.heldModels, columnModel? classCase a = some n) ∧
      ∀ sub ∈ r.subResources, ∀ a ∈ sub.visibleAttributes, a.kind.isNestedKind = true →
        className (nestedFieldType classCase (Backend.contextFor resources r) sub a) ∈
          r.heldModels := by
  let context := Backend.contextFor resources r
  have hmodels : (resourceShape classCase context r).value.models =
      r.sortedSubResources.map fun sub => (modelClassOf classCase context sub).value := rfl
  have hfields : (∀ m ∈ r.sortedSubResources.zip (resourceShape classCase context r).value.models,
        ∀ p ∈ m.1.sortedAttributes.zip m.2.fields, p.1.kind.isNestedKind = true →
          className p.2.type ∈ (resourceShape classCase context r).value.models.map (·.name)) ↔
      ∀ sub ∈ r.subResources, ∀ a ∈ sub.visibleAttributes, a.kind.isNestedKind = true →
        className (nestedFieldType classCase context sub a) ∈ r.heldModels := by
    simp only [mem_modelNames_iff]
    rw [hmodels, forall_mem_zip_map]
    exact forall_congr' fun sub => imp_congr mem_sortByOrder fields_iff
  have hsplits : context.splitsModels = r.hasDependentAttributes := rfl
  constructor
  · intro h
    refine ⟨fun hsplit => ?_, hfields.1 h.field⟩
    exact (columns_iff (hsplits.trans hsplit)).1 (h.column hsplit)
  · rintro ⟨hcolumn, hfield⟩
    refine ⟨fun hsplit => ?_, hfields.2 hfield⟩
    exact (columns_iff (hsplits.trans hsplit)).2 (hcolumn hsplit)

/-! ## A name with a hyphen -/

def plainModel : Entries :=
  [(.text "type", .text "object"), (.text "x-cb-is-sub-resource", .bool true)]

def plainModelSchema : Schema where
  type := some "object"
  extensions := { isSubResource := true, declared := ["is_sub_resource"] }

/-- The resource with a nested type under a name with a hyphen. -/
def hyphenated : Resource := loneResource "thing" "billing-address" plainModelSchema

/-- The class keeps the hyphen, which the column drops. -/
theorem heldModels_hyphenated : hyphenated.heldModels = ["Billing-address"] := by
  have hheld : hyphenated.heldProperties = [("billing-address", plainModelSchema)] := by cbv
  rw [Resource.heldModels, hheld]
  rfl

/-- The column `BillingAddressResponse` of a property with a hyphen is that of no class. -/
theorem not_forall_noDanglingModel :
    ¬ ∀ (config : GenerationConfig) (document : Entries) (spec : Spec),
      (Spec.build config document).outcome = .ok spec → ∀ r ∈ backend.resources config spec,
        (resourceShape camelCase (Backend.contextFor (backend.resources config spec) r)
          r).value.NoDanglingModel := by
  intro h
  have hfree : (Value.object (loneDocument "thing" "billing-address" plainModel)).references = [] :=
    by cbv
  have hresources : backend.resources {} (loneSpec "thing" "billing-address" plainModel
      plainModelSchema) = [hyphenated] := resources_loneSpec (by decide)
  have hbuild : (Spec.build {} (loneDocument "thing" "billing-address" plainModel)).outcome =
      .ok (loneSpec "thing" "billing-address" plainModel plainModelSchema) :=
    build_loneDocument hfree fun _ => Schema.quiet_leaf (by decide) rfl rfl
  have hshape := h {} _ _ hbuild hyphenated (hresources ▸ List.mem_singleton_self _)
  have hsplit : (Backend.contextFor [hyphenated] hyphenated).splitsModels = false := by decide
  let a : Attribute := ⟨"billing-address", plainModelSchema, false, false⟩
  have hvisible : hyphenated.visibleAttributes = [a] := by cbv
  have hkind : a.kind.isNestedKind = true := by cbv
  have hown : a.schema.isGlobalReference = false := by cbv
  rw [hresources] at hshape
  obtain ⟨n, hn, hmodel⟩ : ∃ n ∈ hyphenated.heldModels, columnModel? camelCase a = some n :=
    (columns_iff hsplit).1 (hshape.column hsplit) a (hvisible ▸ List.mem_singleton_self _) hkind
      hown
  rw [heldModels_hyphenated, List.mem_singleton] at hn
  have htype : plainDataType camelCase a.schema (modelHint a) = ⟨.reference, "BillingAddress"⟩ := by
    cbv
  have hcolumn : columnModel? camelCase a = some "BillingAddress" := by
    rw [columnModel?, htype]
    rfl
  rw [hcolumn, hn] at hmodel
  exact absurd hmodel (by decide)

end Typed

end SdkModel
