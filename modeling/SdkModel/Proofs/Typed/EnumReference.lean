import SdkModel.Proofs.Reference.Inline
import SdkModel.Proofs.Schema.Build
import SdkModel.Proofs.Spec.EnumSets
import SdkModel.Typed.Backend

/-!
# References to enums

Which of the enum classes that a shaped resource refers to are among its enums. A reference and the
enum are named in different places, so that they agree only when one of the names that the resource
declares is the local name of the reference or gives its class (`noDanglingEnum_iff`).
-/

namespace SdkModel

/-! ## The references of a shape -/

/-- The types of an enum parameter and of the enum fields of a parameter. -/
def ShapedParameter.enumTypes (p : ShapedParameter) : List String :=
  (if p.kind = .enum then [p.type] else []) ++ (p.fields.filter (·.kind = .enum)).map (·.type)

namespace Typed

open Logged (Quiet quiet_iff quiet_bind_iff)

/-- The types of the fields of a model class that take the values of an enum. -/
def ModelClass.enumTypes (sub : Resource) (c : ModelClass) : List String :=
  ((sub.sortedAttributes.zip c.fields).filter (·.1.schema.isEnum)).map (·.2.type)

namespace ResourceShape

variable (s : ResourceShape)

/-- The types of all inputs and model fields that take the values of an enum. -/
def enumTypes : List String :=
  s.actions.flatMap (fun a => a.parameters.flatMap ShapedParameter.enumTypes) ++
    (s.resource.sortedSubResources.zip s.models).flatMap fun m => m.2.enumTypes m.1

/-- Every enum class that the resource refers to as its own is among its enums. -/
def NoDanglingEnum : Prop :=
  ∀ type ∈ s.enumTypes, ∀ c, type = quoted (s.resource.name ++ "." ++ c) →
    c ∈ s.enums.map (·.className)

end ResourceShape

/-! ## Uses of enums -/

/-- An attribute whose enum is referred to, and the name of the enum when a field declares it. -/
structure EnumUse where
  source : Attribute
  localName : Option String

def fieldUses (parent : Attribute) : List EnumUse :=
  (parent.sortedNested.filter fun f => isInputField parent f && f.kind.isEnumKind).map fun f =>
    ⟨f, some (singular parent.name ++ "_" ++ f.name)⟩

def inputUses (action : Action) : List EnumUse :=
  (firstEntries [] (flatView action).all).flatMap fun e =>
    if e.parameterKind.isContainer then fieldUses (wholeInput action e)
    else if e.parameterKind = .enum then [⟨e, none⟩] else []

def modelUses (sub : Resource) : List EnumUse :=
  (sub.sortedAttributes.filter (·.schema.isEnum)).map fun a => ⟨a, some (modelEnumName sub a)⟩

/-- The enums that a shaped resource refers to. -/
def enumUses (r : Resource) : List EnumUse :=
  r.sortedActions.flatMap inputUses ++ r.sortedSubResources.flatMap modelUses

variable {classCase : String → String} {context : ShapingContext}

/-- The type that a use of an enum is given. -/
def useType (classCase : String → String) (context : ShapingContext) (u : EnumUse) : String :=
  (enumClass classCase context u.source u.localName).value

/-! ## Types of the uses -/

/-- A field of an enum kind is typed by the enum of its parent and its name. -/
theorem fieldParameter_enum {parent f : Attribute} (h : f.kind.isEnumKind = true) :
    (fieldParameter classCase context parent f).value.kind = .enum ∧
      (fieldParameter classCase context parent f).value.type =
        useType classCase context ⟨f, some (singular parent.name ++ "_" ++ f.name)⟩ := by
  have hplain : (f.kind = .filter || f.kind = .sort) = false := by
    cases hkind : f.kind <;> simp_all [AttributeKind.isEnumKind]
  unfold fieldParameter
  rw [hplain, h]
  exact ⟨rfl, rfl⟩

theorem fieldParameter_kind_ne_enum {parent f : Attribute} (h : f.kind.isEnumKind = false) :
    (fieldParameter classCase context parent f).value.kind ≠ .enum := by
  unfold fieldParameter
  rw [h]
  split
  · nofun
  · nofun

/-- The enums that the fields of an input refer to are those that they use. -/
theorem enumTypes_fields (parent : Attribute) :
    ((fieldParameters classCase context parent).value.filter (·.kind = .enum)).map (·.type) =
      (fieldUses parent).map (useType classCase context) := by
  have hkind (f : Attribute) : decide ((fieldParameter classCase context parent f).value.kind =
      .enum) = f.kind.isEnumKind := by
    cases h : f.kind.isEnumKind with
    | true => exact decide_eq_true (fieldParameter_enum h).1
    | false => exact decide_eq_false (fieldParameter_kind_ne_enum h)
  unfold fieldParameters fieldUses Shaped.each
  rw [List.filter_map, List.map_map, List.map_map, List.filter_filter]
  have hfilter : (fun f => isInputField parent f && f.kind.isEnumKind) = fun f =>
    ((fun p : ShapedParameter => decide (p.kind = .enum)) ∘
      fun a => (fieldParameter classCase context parent a).value) f && isInputField parent f := by
    funext f
    rw [Function.comp, hkind, Bool.and_comm]
  rw [← hfilter]
  refine List.map_congr_left fun f hf => ?_
  have hf := (List.mem_filter.1 hf).2
  rw [Bool.and_eq_true] at hf
  exact (fieldParameter_enum hf.2).2

/-- A container refers to the enums that its fields use. -/
theorem enumTypes_containerParameter {action : Action} {a : Attribute} {kind : ParameterKind}
    (h : kind.isContainer = true) :
    (containerParameter classCase context action a kind).value.enumTypes =
      (fieldUses a).map (useType classCase context) := by
  have hne : kind ≠ .enum := by
    rintro rfl
    cases h
  have hkind : (containerParameter classCase context action a kind).value.kind = kind := rfl
  rw [← enumTypes_fields, ShapedParameter.enumTypes, hkind, if_neg hne]
  rfl

/-- A parameter without fields refers to its own enum, if it is one. -/
theorem enumTypes_plainParameter {a : Attribute} {kind : ParameterKind} :
    (plainParameter classCase context a kind).value.enumTypes =
      if kind = .enum then [useType classCase context ⟨a, none⟩] else [] := by
  cases kind <;> rfl

/-- The enum types of a parameter are those of the uses that its entry makes. -/
theorem enumTypes_shapeInputs (action : Action) :
    (shapeInputs classCase context action).value.flatMap ShapedParameter.enumTypes =
      (inputUses action).map (useType classCase context) := by
  unfold shapeInputs Shaped.each inputUses
  rw [List.flatMap_map, List.map_flatMap]
  refine List.flatMap_congr fun e _ => ?_
  unfold entryParameter
  simp only
  split
  · rename_i hcontainer
    exact enumTypes_containerParameter hcontainer
  · rw [enumTypes_plainParameter]
    split
    · rfl
    · rfl

/-- A model refers to the enums that its fields use. -/
theorem enumTypes_modelClassOf (sub : Resource) :
    (modelClassOf classCase context sub).value.enumTypes sub =
      (modelUses sub).map (useType classCase context) := by
  have hfields : (modelClassOf classCase context sub).value.fields =
      sub.sortedAttributes.map fun a => (modelField classCase context sub a).value.1 := by
    exact List.map_map
  unfold ModelClass.enumTypes modelUses
  rw [hfields, List.map_map]
  induction sub.sortedAttributes with
  | nil => rfl
  | cons a attributes ih =>
    rw [List.map_cons, List.zip_cons_cons, List.filter_cons, List.filter_cons]
    have htype (h : a.schema.isEnum = true) :
        (modelField classCase context sub a).value.1.type =
          useType classCase context ⟨a, some (modelEnumName sub a)⟩ := by
      rw [modelField, if_pos h]
      rfl
    split
    · rename_i henum
      rw [List.map_cons, List.map_cons, ih, Function.comp, htype henum]
    · exact ih

/-- The enum types of a shaped resource are those of its uses. -/
theorem enumTypes_resourceShape (r : Resource) :
    (resourceShape classCase context r).value.enumTypes =
      (enumUses r).map (useType classCase context) := by
  have hactions : (resourceShape classCase context r).value.actions =
      r.sortedActions.map fun a => (actionShape classCase context a).value := rfl
  have hmodels : (resourceShape classCase context r).value.models =
      r.sortedSubResources.map fun m => (modelClassOf classCase context m).value := rfl
  have hresource : (resourceShape classCase context r).value.resource = r := rfl
  rw [ResourceShape.enumTypes, hactions, hmodels, hresource, enumUses, List.map_append,
    List.flatMap_map, List.map_flatMap, List.map_flatMap]
  congr 1
  · exact List.flatMap_congr fun a _ => enumTypes_shapeInputs a
  · induction r.sortedSubResources with
    | nil => rfl
    | cons m models ih =>
      rw [List.map_cons, List.zip_cons_cons, List.flatMap_cons, List.flatMap_cons, ih,
        enumTypes_modelClassOf]

/-! ## Declared uses -/

/-- The enum of a use is shared by all resources, or its name or class is declared. -/
def EnumUse.IsDeclared (classCase : String → String) (declared : String → Prop) (u : EnumUse) :
    Prop :=
  isSharedEnum u.source = true ∨ (∃ n, u.localName = some n ∧ declared n) ∨
    ∃ n, declared n ∧ classCase n = classCase ((apiName? u.source).getD u.source.name)

theorem quoted_injective {s t : String} (h : quoted s = quoted t) : s = t := by
  have h := congrArg String.toList h
  simp only [quoted, String.toList_append] at h
  exact String.toList_injective (List.append_cancel_left (List.append_cancel_right h))

/-- Types of one owner are the same when their classes are. -/
theorem ownClass_injective {owner c d : String}
    (h : quoted (owner ++ "." ++ c) = quoted (owner ++ "." ++ d)) : c = d := by
  have h := congrArg String.toList (quoted_injective h)
  simp only [String.toList_append] at h
  exact String.toList_injective (List.append_cancel_left h)

/-- A shared enum is not quoted. -/
theorem ne_quoted (s t : String) : "enums." ++ s ≠ quoted t := by
  intro h
  have h := congrArg (fun s : String => s.toList.head?) h
  simp [quoted, String.toList_append] at h

/-- The generated classes are those of the enums that are declared for the resource. -/
theorem mem_classNames_iff {r : Resource} {resources : List Resource} {c : String} :
    c ∈ (resourceShape classCase (Backend.contextFor resources r) r).value.enums.map (·.className) ↔
      ∃ n, r.DeclaresEnum resources n ∧ classCase n = c := by
  have henums : (resourceShape classCase (Backend.contextFor resources r) r).value.enums =
      (r.generatedEnums resources).map (enumClassOf classCase) := rfl
  have hclass : (·.className) ∘ enumClassOf classCase = classCase ∘ Enum.name := rfl
  rw [henums, List.map_map, hclass, ← List.map_map, List.mem_map]
  simp only [← Resource.mem_names_generatedEnums]

theorem useType_shared {u : EnumUse} (h : isSharedEnum u.source = true) :
    ∃ name, useType classCase context u = "enums." ++ name := by
  rw [useType, enumClass, if_pos h]
  exact ⟨_, rfl⟩

/-- The class of an enum of the resource: by its local name when the resource has it. -/
theorem useType_own {u : EnumUse} (h : isSharedEnum u.source = false) :
    useType classCase context u = quoted (context.resource.name ++ "." ++ classCase
      (((u.localName.filter (· ∈ context.enumNames)).or (apiName? u.source)).getD
        u.source.name)) := by
  rw [useType, enumClass, h]
  rfl

/-- The name that the class of a use is made from: its local name or what it falls back to. -/
theorem ownName_cases (names : List String) (u : EnumUse) :
    (∃ n ∈ names, u.localName = some n ∧
        ((u.localName.filter (· ∈ names)).or (apiName? u.source)).getD u.source.name = n) ∨
      (∀ n, u.localName = some n → n ∉ names) ∧
        ((u.localName.filter (· ∈ names)).or (apiName? u.source)).getD u.source.name =
          (apiName? u.source).getD u.source.name := by
  cases hlocal : u.localName with
  | none => exact .inr ⟨nofun, rfl⟩
  | some n =>
    by_cases hn : n ∈ names
    · exact .inl ⟨n, hn, rfl, by simp [Option.filter, hn]⟩
    · refine .inr ⟨?_, by simp [Option.filter, hn]⟩
      rintro _ ⟨⟩
      exact hn

/-- A use of an enum of the resource refers to a declared class when the name that its class is made
from gives one. -/
theorem useType_declared_iff {r : Resource} {declared : String → Prop} {u : EnumUse}
    (h : isSharedEnum u.source = false) (hr : context.resource = r) :
    (∀ c, useType classCase context u = quoted (r.name ++ "." ++ c) →
        ∃ n, declared n ∧ classCase n = c) ↔
      ∃ n, declared n ∧ classCase n = classCase (((u.localName.filter (· ∈ context.enumNames)).or
        (apiName? u.source)).getD u.source.name) := by
  subst hr
  rw [useType_own h]
  constructor
  · intro hall
    exact hall _ rfl
  · rintro hname c hc
    rw [← ownClass_injective hc]
    exact hname

/-- A use refers to a declared class when it is declared. -/
theorem isDeclared_iff {r : Resource} {resources : List Resource} {u : EnumUse} :
    (∀ c, useType classCase (Backend.contextFor resources r) u =
        quoted (r.name ++ "." ++ c) → ∃ n, r.DeclaresEnum resources n ∧ classCase n = c) ↔
      u.IsDeclared classCase (r.DeclaresEnum resources) := by
  cases hshared : isSharedEnum u.source with
  | true =>
    obtain ⟨name, htype⟩ := useType_shared hshared
    refine iff_of_true (fun c hc => ?_) (.inl hshared)
    exact absurd (htype.symm.trans hc) (ne_quoted _ _)
  | false =>
    have hnames (n : String) : n ∈ (Backend.contextFor resources r).enumNames ↔
        r.DeclaresEnum resources n := Resource.mem_names_generatedEnums
    have hdeclared : u.IsDeclared classCase (r.DeclaresEnum resources) ↔
        (∃ n, u.localName = some n ∧ r.DeclaresEnum resources n) ∨ ∃ n,
          r.DeclaresEnum resources n ∧
            classCase n = classCase ((apiName? u.source).getD u.source.name) :=
      or_iff_right (by rw [hshared]; nofun)
    refine (useType_declared_iff hshared rfl).trans ?_
    rw [hdeclared]
    obtain ⟨n, hn, hlocal, heq⟩ | ⟨hnot, heq⟩ :=
      ownName_cases (Backend.contextFor resources r).enumNames u
    · rw [heq]
      exact iff_of_true ⟨n, (hnames n).1 hn, rfl⟩ (.inl ⟨n, hlocal, (hnames n).1 hn⟩)
    · rw [heq]
      refine (or_iff_right ?_).symm
      rintro ⟨n, hlocal, hn⟩
      exact hnot n hlocal ((hnames n).2 hn)

/-- **When no reference to an enum dangles.** Whatever resources are shaped together, the enum
classes that a shaped resource refers to as its own are among its enums exactly when the enum of
each use is shared by all resources, or the resource declares its local name, or it declares an
enum of the class that the use falls back to. -/
theorem noDanglingEnum_iff (classCase : String → String) (resources : List Resource)
    (r : Resource) :
    (resourceShape classCase (Backend.contextFor resources r) r).value.NoDanglingEnum ↔
      ∀ u ∈ enumUses r, u.IsDeclared classCase (r.DeclaresEnum resources) := by
  have hname : (resourceShape classCase (Backend.contextFor resources r) r).value.resource.name =
      r.name := rfl
  unfold ResourceShape.NoDanglingEnum
  rw [enumTypes_resourceShape, hname]
  simp only [List.forall_mem_map, mem_classNames_iff, isDeclared_iff]

/-! ## A type with a plural name -/

/-- The nodes of an enum, of an object with it whose type has a plural name, and of a resource with
this object. -/
def kindEntries : Entries :=
  [(.text "type", .text "string"), (.text "enum", .list [.text "a", .text "b"])]

def addressEntries : Entries :=
  [(.text "type", .text "object"), (.text "x-cb-is-sub-resource", .bool true),
    (.text "x-cb-sub-resource-name", .text "Addresses"),
    (.text "properties", .object [(.text "kind", .object kindEntries)])]

def thingEntries : Entries :=
  [(.text "type", .text "object"), (.text "x-cb-resource-id", .text "thing"),
    (.text "properties", .object [(.text "address", .object addressEntries)])]

def thingDocument : Entries :=
  [(.text "openapi", .text "3.0.0"), (.text "components", .object
    [(.text "schemas", .object [(.text "Thing", .object thingEntries)])])]

def kindSchema : Schema := { type := some "string", enum := some [.text "a", .text "b"] }

def addressSchema : Schema where
  type := some "object"
  properties := some [("kind", kindSchema)]
  extensions := {
    isSubResource := true, subResourceName := some "Addresses"
    declared := ["is_sub_resource", "sub_resource_name"] }

def thingSchema : Schema where
  type := some "object"
  properties := some [("address", addressSchema)]
  extensions := { resourceId := some "thing", declared := ["resource_id"] }

def thingSpec : Spec where
  document := thingDocument
  config := {}
  version := {}
  schemas := [("Thing", thingSchema)]
  actions := []

theorem quiet_thing (place : String) :
    Quiet (Schema.ofEntries {} 0 place thingEntries) thingSchema := by
  have haddress (place : String) :
      Quiet (Schema.ofEntries {} 1 place addressEntries) addressSchema :=
    Schema.quiet_object (by decide) rfl (Schema.quiet_ofProperties_cons
      (Schema.quiet_leaf (by decide) rfl rfl) Schema.quiet_ofProperties_nil) rfl
  exact Schema.quiet_object (by decide) rfl
    (Schema.quiet_ofProperties_cons (haddress _) Schema.quiet_ofProperties_nil) rfl

theorem quiet_build_thingDocument : Quiet (Spec.build {} thingDocument) thingSpec := by
  have hformat : Document.formatVersion thingDocument = .ok "3.0.0" :=
    Document.formatVersion_of_get rfl rfl rfl (by decide)
  have hresolve : Quiet (Reference.resolve (.object thingDocument)) (.object thingDocument) :=
    Reference.quiet_inlineValue_of_references rfl
  have hversion : Quiet (Version.resolve (Entries.get thingDocument "info") false) {} := rfl
  have hactions : Quiet (Spec.buildActions (Spec.rulesOf {}) thingDocument) [] := rfl
  have hschemas : Quiet (Spec.buildSchemas {} thingDocument) [("Thing", thingSchema)] :=
    Spec.quiet_buildSchemas rfl (quiet_thing _)
  exact Spec.quiet_build hformat hresolve hversion hschemas hactions

/-- The resource of the document, its object and the enum of the object. -/
def thing : Resource where
  name := "Thing"
  schema := thingSchema
  id := some "thing"
  givenOrder := none
  qa := false
  actions := []

def thingAddress : Attribute := ⟨"address", addressSchema, false, false⟩

def thingKind : Attribute := ⟨"kind", kindSchema, false, false⟩

theorem nestedEnumName_thing : thingAddress.nestedEnumName thingKind = "addresses_kind" := by
  rfl

/-- The enum is declared under the type of the object as it stands. -/
theorem eq_of_declaresEnum_thing {n : String} (h : thing.DeclaresEnum [thing] n) :
    n = "addresses_kind" := by
  have hvisible : thing.visibleAttributes = [thingAddress] := by cbv
  have hnested : thingAddress.nested = [thingKind] := by cbv
  have hactions : thing.sortedActions = [] := by cbv
  cases h with
  | own ha hlocal =>
    rw [hvisible, List.mem_singleton] at ha
    subst ha
    cases hlocal
  | field ha hf =>
    rw [hvisible, List.mem_singleton] at ha
    subst ha
    rw [hnested, List.mem_singleton] at hf
    subst hf
    exact nestedEnumName_thing
  | input hscanned haction =>
    rw [List.mem_singleton] at hscanned
    subst hscanned
    rw [hactions] at haction
    cases haction

theorem modelEnumName_thing : modelEnumName
    (Resource.subResourceOf false ("address", addressSchema)) thingKind = "address_kind" := by
  rfl

/-- The model refers to it under the singular of the type, which nothing declares, and so falls
back to the name of the field. -/
theorem mem_enumTypes_thing : "\"Thing.Kind\"" ∈
    (resourceShape camelCase (Backend.contextFor [thing] thing) thing).value.enumTypes := by
  let sub := Resource.subResourceOf false ("address", addressSchema)
  have hsub : sub ∈ thing.sortedSubResources := by
    have hsubs : thing.sortedSubResources = [sub] := by cbv
    rw [hsubs]
    exact List.mem_singleton_self _
  have hkind : thingKind ∈ sub.sortedAttributes.filter (·.schema.isEnum) := by
    have hattributes : sub.sortedAttributes.filter (·.schema.isEnum) = [thingKind] := by cbv
    rw [hattributes]
    exact List.mem_singleton_self _
  have hfree : "address_kind" ∉ (Backend.contextFor [thing] thing).enumNames := by
    intro hmem
    have heq := eq_of_declaresEnum_thing (Resource.mem_names_generatedEnums.1 hmem)
    exact absurd heq (by decide)
  rw [enumTypes_resourceShape]
  refine List.mem_map.2 ⟨⟨thingKind, some (modelEnumName sub thingKind)⟩, ?_, ?_⟩
  · exact List.mem_append_right _ (List.mem_flatMap.2 ⟨sub, hsub, List.mem_map_of_mem hkind⟩)
  · rw [useType_own rfl, modelEnumName_thing]
    simp only [Option.filter, hfree, decide_false]
    rfl

/-- The class of the field is not among the enums of the resource, in a document that is built. -/
theorem not_forall_noDanglingEnum :
    ¬ ∀ (config : GenerationConfig) (document : Entries) (spec : Spec),
      (Spec.build config document).outcome = .ok spec → ∀ r ∈ backend.resources config spec,
        (resourceShape camelCase (Backend.contextFor (backend.resources config spec) r)
          r).value.NoDanglingEnum := by
  intro h
  have hresources : backend.resources {} thingSpec = [thing] := by cbv
  have hbuild := (quiet_iff.1 quiet_build_thingDocument).2
  have hshape := h {} thingDocument thingSpec hbuild thing (hresources ▸ List.mem_singleton_self _)
  rw [hresources] at hshape
  have hmem := hshape _ mem_enumTypes_thing "Kind" rfl
  obtain ⟨n, hn, hclass⟩ := mem_classNames_iff.1 hmem
  rw [eq_of_declaresEnum_thing hn] at hclass
  exact absurd hclass (by decide)

end Typed

end SdkModel
