import SdkModel.Proofs.Typed.EnumReference
import SdkModel.Proofs.Typed.ModelReference
import SdkModel.Proofs.Typed.ShapedOnce

/-!
# Distinct class names

The enums of a shaped resource, its nested types and the parameters of its actions are generated as
classes of one module. Duplicates are dropped by the name that the document gives, and the class is
made from that name afterwards, so that the classes are distinct only when casing and singular
forms keep the names apart (`Typed.distinctClasses_iff`).
-/

namespace SdkModel

open Logged (Quiet)

/-- Of the entries that are passed as containers the first of each name is kept. -/
theorem Typed.filter_container_firstEntries (seen : List String) (es : List Attribute) :
    (firstEntries seen es).filter (·.parameterKind.isContainer) =
      firstOf (·.name) seen (es.filter (·.parameterKind.isContainer)) := by
  induction es generalizing seen with
  | nil => rfl
  | cons e es ih =>
    rw [firstEntries]
    cases hcontainer : e.parameterKind.isContainer with
    | false =>
      rw [List.filter_cons_of_neg (by simp [hcontainer])]
      simp only [Bool.not_false, if_true]
      rw [List.filter_cons_of_neg (by simp [hcontainer]), ih]
    | true =>
      rw [List.filter_cons_of_pos (l := es) hcontainer, firstOf]
      simp only [Bool.not_true, Bool.false_eq_true, if_false]
      split
      · exact ih seen
      · rw [List.filter_cons_of_pos (a := e) hcontainer, ih]

namespace Typed

variable {classCase : String → String} {context : ShapingContext} {action : Action}
variable {r : Resource} {resources : List Resource}

/-! ## Classes of a shaped resource -/

/-- The class of a module that an annotation refers to. -/
def classIn (module type : String) : Option String :=
  let start := "\"" ++ module ++ "."
  let item := className type
  if Text.hasStart start item && Text.hasEnd "\"" item then
    some (String.ofList ((item.toList.drop start.toList.length).dropLast))
  else none

/-- The classes of the parameters of an action: its own and those that its parameters name. -/
def ActionShape.paramClasses (module : String) (s : ActionShape) : List String :=
  s.paramsName?.toList ++
    (s.parameters.filter (·.kind.isContainer)).filterMap fun p => classIn module p.type

namespace ResourceShape

variable (s : ResourceShape)

def DistinctEnums : Prop := (s.enums.map (·.className)).Nodup

def DistinctModels : Prop := (s.models.map (·.name)).Nodup

def DistinctParams : Prop := (s.actions.flatMap (·.paramClasses s.resource.name)).Nodup

end ResourceShape

/-! ## Names of a document -/

/-- What has a class of parameters: an action with an input, and each of its inputs that is passed
as a container. -/
inductive OwnsParams (action : Action) : Option String → Prop
  | whole {e : Attribute} (he : e ∈ (flatView action).all) : OwnsParams action none
  | input {e : Attribute} (he : e ∈ (flatView action).all)
      (hcontainer : e.parameterKind.isContainer = true) : OwnsParams action (some e.name)

/-- What the class of an owner adds to that of the action. -/
def ownerCase (classCase : String → String) : Option String → String
  | none => ""
  | some name => classCase (singular name)

/-- Casing keeps the declared enums of a resource apart. -/
def KeepsEnumsApart (classCase : String → String) (resources : List Resource) (r : Resource) :
    Prop :=
  ∀ m n, r.DeclaresEnum resources m → r.DeclaresEnum resources n → classCase m = classCase n → m = n

/-- The singular keeps the nested types of a resource apart. -/
def KeepsModelsApart (r : Resource) : Prop :=
  ∀ p ∈ r.heldProperties, ∀ q ∈ r.heldProperties,
    singular (Resource.typeName p) = singular (Resource.typeName q) →
      Resource.typeName p = Resource.typeName q

/-- Casing keeps the owners of parameter classes of a resource apart: those of one action by what
they add, those of two actions by all of the name. -/
structure KeepsParamsApart (classCase : String → String) (r : Resource) : Prop where
  inputs : ∀ a ∈ r.sortedActions, ∀ o o', OwnsParams a o → OwnsParams a o' →
    ownerCase classCase o = ownerCase classCase o' → o = o'
  actions : r.sortedActions.Pairwise fun a b => ∀ o o', OwnsParams a o → OwnsParams b o' →
    classCase a.name ++ ownerCase classCase o ≠ classCase b.name ++ ownerCase classCase o'

/-! ## Enums and nested types -/

theorem nodup_names_generatedEnums : ((r.generatedEnums resources).map (·.name)).Nodup := by
  rw [Resource.generatedEnums, Enum.dedupe, Enum.firstOfName_eq]
  exact nodup_keys_firstOf

theorem distinctEnums_iff :
    (resourceShape classCase (Backend.contextFor resources r) r).value.DistinctEnums ↔
      KeepsEnumsApart classCase resources r := by
  have hclasses : (resourceShape classCase (Backend.contextFor resources r) r).value.enums.map
      (·.className) = ((r.generatedEnums resources).map (·.name)).map classCase := by
    rw [List.map_map]
    exact List.map_map
  rw [ResourceShape.DistinctEnums, hclasses,
    List.nodup_map_iff_inj_on nodup_names_generatedEnums]
  simp only [Resource.mem_names_generatedEnums]
  exact ⟨fun h m n hm hn => h m hm n hn, fun h m hm n hn => h m n hm hn⟩

theorem distinctModels_iff :
    (resourceShape classCase context r).value.DistinctModels ↔ KeepsModelsApart r := by
  have hnames : (resourceShape classCase context r).value.models.map (·.name) =
      r.sortedSubResources.map fun s => singular s.name := by
    exact List.map_map
  have hperm : (r.sortedSubResources.map fun s => singular s.name).Perm
      (((firstOf Resource.typeName [] r.heldProperties).map Resource.typeName).map singular) := by
    rw [List.map_map]
    refine ((sortByOrder_perm _ _).map _).trans ?_
    rw [Resource.subResources_eq, List.map_map]
    rfl
  rw [ResourceShape.DistinctModels, hnames, hperm.nodup_iff,
    List.nodup_map_iff_inj_on nodup_keys_firstOf]
  simp only [mem_keys_firstOf_nil, List.forall_mem_map, KeepsModelsApart]

/-! ## Parameters -/

/-- The owners of the parameter classes of an action in their order. -/
def paramOwners (action : Action) : List (Option String) :=
  (if (flatView action).all.isEmpty then [] else [none]) ++
    (firstOf (·.name) [] ((flatView action).all.filter (·.parameterKind.isContainer))).map
      fun e => some e.name

theorem mem_paramOwners_iff {o : Option String} : o ∈ paramOwners action ↔ OwnsParams action o := by
  have hnames (n : String) : n ∈ (firstOf (·.name) []
      ((flatView action).all.filter (·.parameterKind.isContainer))).map (·.name) ↔
        ∃ e ∈ (flatView action).all, e.parameterKind.isContainer = true ∧ e.name = n := by
    rw [mem_keys_firstOf_nil]
    simp only [List.mem_map, List.mem_filter, and_assoc]
  rw [paramOwners, List.mem_append]
  constructor
  · rintro (hwhole | hinput)
    · split at hwhole
      · cases hwhole
      · rename_i hsome
        obtain rfl := List.mem_singleton.1 hwhole
        obtain ⟨e, he⟩ := List.exists_mem_of_ne_nil _ (mt List.isEmpty_iff.2 hsome)
        exact .whole he
    · obtain ⟨e, he, rfl⟩ := List.mem_map.1 hinput
      obtain ⟨e', he', hcontainer, hname⟩ := (hnames e.name).1 (List.mem_map_of_mem he)
      rw [← hname]
      exact .input he' hcontainer
  · rintro (he | ⟨he, hcontainer⟩)
    · refine .inl ?_
      rw [if_neg fun hnone => List.ne_nil_of_mem he (List.isEmpty_iff.1 hnone)]
      exact List.mem_singleton_self _
    · obtain ⟨e', he', hname⟩ := List.mem_map.1 ((hnames _).2 ⟨_, he, hcontainer, rfl⟩)
      exact .inr (List.mem_map.2 ⟨e', he', congrArg some hname⟩)

theorem nodup_paramOwners (action : Action) : (paramOwners action).Nodup := by
  have hinputs : ((firstOf (·.name) [] ((flatView action).all.filter
      (·.parameterKind.isContainer))).map fun e => some e.name).Nodup := by
    have hnames : ((firstOf (·.name) [] ((flatView action).all.filter
        (·.parameterKind.isContainer))).map (·.name)).Nodup := nodup_keys_firstOf
    have hsome := hnames.map fun _ _ h => Option.some.inj h
    rw [List.map_map] at hsome
    exact hsome
  rw [paramOwners]
  split
  · exact hinputs
  · rw [List.singleton_append, List.nodup_cons]
    exact ⟨by simp, hinputs⟩

/-- A class of the module of a resource is read off the reference to it. -/
theorem classIn_of_className {type name : String} (h : className type = ownClass context name) :
    classIn context.resource.name type = some name := by
  have hlist : (ownClass context name).toList =
      ("\"" ++ context.resource.name ++ ".").toList ++ (name.toList ++ "\"".toList) := by
    simp only [ownClass, quoted, String.toList_append, List.append_assoc]
  have hstart : Text.hasStart ("\"" ++ context.resource.name ++ ".") (ownClass context name) =
      true := by
    rw [Text.hasStart, hlist]
    exact List.isPrefixOf_iff_prefix.2 (List.prefix_append _ _)
  have hend : Text.hasEnd "\"" (ownClass context name) = true := by
    rw [Text.hasEnd, hlist]
    exact List.isSuffixOf_iff_suffix.2 ((List.suffix_append _ _).trans (List.suffix_append _ _))
  have hname : ((ownClass context name).toList.drop
      ("\"" ++ context.resource.name ++ ".").toList.length).dropLast = name.toList := by
    rw [hlist, List.drop_left]
    exact List.dropLast_concat
  simp only [classIn, h, hstart, hend, hname, Bool.and_self, if_true, String.ofList_toList]

/-- A container names the class of its own parameters. -/
theorem classIn_entryParameter {e : Attribute} (h : e.parameterKind.isContainer = true) :
    classIn context.resource.name (entryParameter classCase context action e).value.type =
      some (classCase action.name ++ ownerCase classCase (some e.name) ++ "Params") := by
  have htype : (entryParameter classCase context action e).value.type =
      if e.parameterKind = .indexedList
      then listOf (ownClass context (paramsClass classCase action (singular e.name)))
      else ownClass context (paramsClass classCase action (singular e.name)) := by
    rw [← name_wholeInput action e]
    unfold entryParameter
    simp only [h, if_true]
    rfl
  refine classIn_of_className ?_
  rw [htype]
  split
  · exact className_listOf _
  · exact className_quoted _

theorem isEmpty_firstEntries (es : List Attribute) : (firstEntries [] es).isEmpty = es.isEmpty := by
  cases es with
  | nil => rfl
  | cons e es =>
    rw [firstEntries]
    cases e.parameterKind.isContainer <;> rfl

/-- The parameter classes of an action are those of its owners. -/
theorem paramClasses_actionShape (action : Action) :
    (actionShape classCase context action).value.paramClasses context.resource.name =
      (paramOwners action).map fun o =>
        classCase action.name ++ ownerCase classCase o ++ "Params" := by
  have hparameters : (actionShape classCase context action).value.parameters =
      (firstEntries [] (flatView action).all).map fun e =>
        (entryParameter classCase context action e).value := rfl
  have hown : (actionShape classCase context action).value.paramsName?.toList =
      (if (flatView action).all.isEmpty then ([] : List (Option String)) else [none]).map fun o =>
        classCase action.name ++ ownerCase classCase o ++ "Params" := by
    have hname : (actionShape classCase context action).value.className = classCase action.name :=
      rfl
    rw [ActionShape.paramsName?, hparameters, List.isEmpty_map, isEmpty_firstEntries, hname]
    cases (flatView action).all.isEmpty with
    | true => rfl
    | false => simp [ownerCase]
  rw [ActionShape.paramClasses, paramOwners, List.map_append, hown, hparameters]
  refine congrArg (_ ++ ·) ?_
  have hkinds : (fun p : ShapedParameter => p.kind.isContainer) ∘
      (fun e => (entryParameter classCase context action e).value) =
        fun e => e.parameterKind.isContainer :=
    funext fun e => congrArg _ (kind_entryParameter e)
  rw [List.filter_map, List.filterMap_map, List.map_map, ← filter_container_firstEntries, hkinds,
    ← List.filterMap_eq_map]
  exact List.filterMap_congr fun e he => classIn_entryParameter (List.mem_filter.1 he).2

theorem distinctParams_iff (context : ShapingContext) :
    (resourceShape classCase context context.resource).value.DistinctParams ↔
      KeepsParamsApart classCase context.resource := by
  have hresource : (resourceShape classCase context context.resource).value.resource =
      context.resource := rfl
  have hactions : (resourceShape classCase context context.resource).value.actions =
      context.resource.sortedActions.map fun a => (actionShape classCase context a).value := rfl
  have hclasses : (resourceShape classCase context context.resource).value.actions.flatMap
      (·.paramClasses context.resource.name) =
        context.resource.sortedActions.flatMap fun a => (paramOwners a).map fun o =>
          classCase a.name ++ ownerCase classCase o ++ "Params" := by
    rw [hactions, List.flatMap_map]
    exact List.flatMap_congr fun a _ => paramClasses_actionShape a
  have hapart : KeepsParamsApart classCase context.resource ↔ _ ∧ _ :=
    ⟨fun h => ⟨h.inputs, h.actions⟩, fun h => ⟨h.1, h.2⟩⟩
  rw [ResourceShape.DistinctParams, hresource, hapart, hclasses, List.nodup_flatMap]
  refine and_congr (forall₂_congr fun a _ => ?_) (List.Pairwise.iff fun a b => ?_)
  · rw [List.nodup_map_iff_inj_on (nodup_paramOwners a)]
    simp only [mem_paramOwners_iff, String.append_left_inj, String.append_right_inj]
    exact ⟨fun h o o' ho ho' => h o ho o' ho', fun h o ho o' ho' => h o o' ho ho'⟩
  · simp only [Function.onFun, List.disjoint_left, List.mem_map, mem_paramOwners_iff]
    constructor
    · intro h o o' ho ho' heq
      exact h ⟨o, ho, rfl⟩ ⟨o', ho', by rw [heq]⟩
    · rintro h _ ⟨o, ho, rfl⟩ ⟨o', ho', heq⟩
      exact h o o' ho ho' (String.append_left_inj _ |>.1 heq).symm

/-- **The classes of a shaped resource are distinct exactly when casing and singular forms keep its
names apart**, its enums, its nested types and its parameters each on their own. -/
theorem distinctClasses_iff (classCase : String → String) (resources : List Resource)
    (r : Resource) :
    ((resourceShape classCase (Backend.contextFor resources r) r).value.DistinctEnums ↔
      KeepsEnumsApart classCase resources r) ∧
    ((resourceShape classCase (Backend.contextFor resources r) r).value.DistinctModels ↔
      KeepsModelsApart r) ∧
    ((resourceShape classCase (Backend.contextFor resources r) r).value.DistinctParams ↔
      KeepsParamsApart classCase r) :=
  ⟨distinctEnums_iff, distinctModels_iff, distinctParams_iff (Backend.contextFor resources r)⟩

/-! ## Two names of one class -/

/-- An object with two enums whose names camel case does not tell apart. -/
def cardEntries : Entries :=
  [(.text "type", .text "object"), (.text "properties", .object
    [(.text "brandName", .object kindEntries), (.text "brand_name", .object kindEntries)])]

def cardSchema : Schema where
  type := some "object"
  properties := some [("brandName", kindSchema), ("brand_name", kindSchema)]

theorem quiet_cardEntries (place : String) :
    Quiet (Schema.ofEntries {} 1 place cardEntries) cardSchema :=
  Schema.quiet_object (by decide) rfl
    (Schema.quiet_ofProperties_cons (Schema.quiet_leaf (by decide) rfl rfl)
      (Schema.quiet_ofProperties_cons (Schema.quiet_leaf (by decide) rfl rfl)
        Schema.quiet_ofProperties_nil)) rfl

def cardResource : Resource := loneResource "thing" "card" cardSchema

def cardAttribute : Attribute := ⟨"card", cardSchema, false, false⟩

/-- An enum field of the object. -/
def cardField (name : String) : Attribute := ⟨name, kindSchema, false, false⟩

theorem nested_cardAttribute : cardAttribute.nested =
    [cardField "brandName", cardField "brand_name"] := by cbv

theorem nestedEnumName_card (name : String) :
    cardAttribute.nestedEnumName (cardField name) = "card" ++ "_" ++ name := by
  have hbase : singular cardAttribute.name = "card" := by decide
  have htype : cardAttribute.traits.subResourceName = none := by cbv
  simp only [Attribute.nestedEnumName, hbase, htype, Option.filter_none]
  rfl

/-- The field of a name declares an enum. -/
theorem declaresEnum_card {name : String} (hname : cardField name ∈ cardAttribute.nested) :
    cardResource.DeclaresEnum [cardResource] ("card" ++ "_" ++ name) := by
  have hvisible : cardResource.visibleAttributes = [cardAttribute] := by cbv
  rw [← nestedEnumName_card]
  exact .field (hvisible ▸ List.mem_singleton_self _) hname rfl rfl

/-- Both enums are generated as one class, in a document that is built. -/
theorem not_forall_distinctClasses :
    ¬ ∀ (config : GenerationConfig) (document : Entries) (spec : Spec),
      (Spec.build config document).outcome = .ok spec → ∀ r ∈ backend.resources config spec,
        let s := (resourceShape camelCase (Backend.contextFor (backend.resources config spec) r)
          r).value
        s.DistinctEnums ∧ s.DistinctModels ∧ s.DistinctParams := by
  intro h
  have hfree : (Value.object (loneDocument "thing" "card" cardEntries)).references = [] := by cbv
  have hresources : backend.resources {} (loneSpec "thing" "card" cardEntries cardSchema) =
      [cardResource] := resources_loneSpec (by decide)
  have hshape := h {} _ _ (build_loneDocument hfree quiet_cardEntries) cardResource
    (hresources ▸ List.mem_singleton_self _)
  rw [hresources] at hshape
  have hclass : camelCase ("card" ++ "_" ++ "brandName") =
      camelCase ("card" ++ "_" ++ "brand_name") := by cbv
  have hfields := nested_cardAttribute
  have hname := distinctEnums_iff.1 hshape.1 _ _
    (declaresEnum_card (hfields ▸ List.mem_cons_self))
    (declaresEnum_card (hfields ▸ List.mem_cons_of_mem _ (List.mem_singleton_self _))) hclass
  exact absurd hname (by decide)

end Typed

end SdkModel
