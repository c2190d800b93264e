import SdkModel.Proofs.Schema.Build
import SdkModel.Proofs.Spec.Redaction
import SdkModel.Proofs.Typed.Redaction
import SdkModel.Typed.Backend

/-!
# Hidden content in typed models

Three places read a hidden property of a shaped resource (`HiddenReadings`): the list of the
resources that its properties refer to, the question whether its models are split into modules,
and the filter that the first property of an object decides. Two documents of one redaction that
agree in these readings are shaped alike (`shape_eq_of_redactDocument_eq`). Where they do not agree,
hidden content shows (`not_forall_shape_eq_of_redactDocument_eq`).
-/

namespace SdkModel

open Logged (Quiet quiet_iff)

namespace Typed

variable {classCase : String → String} {c c' : ShapingContext} {r r' : Resource}
variable {resources resources' : List Resource}

/-! ## What is read of hidden properties -/

/-- The resource that a property refers to. -/
def dependent? (p : String × Schema) : Option Dependent :=
  if p.2.isSubResource && p.2.isGlobalReference then
    some ⟨dependentName p.1 p.2, p.2.isArray⟩
  else none

/-- What shaping reads of the hidden properties of a resource. -/
structure HiddenReadings where
  /-- One of them is flagged as a dependent attribute. -/
  splitsModels : Bool
  /-- The resources that they refer to, property by property. -/
  dependents : List (Option Dependent)
  /-- The filters that they decide, attribute by attribute. -/
  filters : List (Option String)
  /-- The filters that they decide in the nested resources. -/
  modelFilters : List (List (Option String))
deriving DecidableEq

def hiddenFilters (r : Resource) : List (Option String) :=
  r.sortedAttributes.map fun a => hiddenFilter? a.schema

def hiddenReadings (r : Resource) : HiddenReadings where
  splitsModels := r.schema.propertyList.any fun p =>
    p.2.isHidden false && p.2.extensions.isDependentAttribute
  dependents := r.schema.propertyList.map fun p =>
    if p.2.isHidden false then dependent? p else none
  filters := hiddenFilters r
  modelFilters := r.sortedSubResources.map hiddenFilters

/-! ## Dependent resources -/

/-- Which resource a property refers to is read of its flags. -/
theorem dependent?_redact (p : String × Schema) : dependent? (p.1, p.2.redact) = dependent? p := by
  simp only [dependent?, dependentName, Schema.isSubResource_redact,
    Schema.isGlobalReference_redact, Schema.itemsOrSelf_redact, Schema.redact_extensions,
    Schema.isArray_redact]

/-- The references of properties of one redaction agree when those of hidden ones do. -/
theorem dependent?_congr {p q : String × Schema}
    (h : Schema.redactProperty p = Schema.redactProperty q)
    (hhidden : (if p.2.isHidden false then dependent? p else none) =
      if q.2.isHidden false then dependent? q else none) : dependent? p = dependent? q := by
  have hsame : p.2.isHidden false = q.2.isHidden false := by
    rw [← Schema.isHidden_redactProperty, h, Schema.isHidden_redactProperty]
  cases hp : p.2.isHidden false with
  | true =>
    rw [← hsame, hp, if_pos rfl, if_pos rfl] at hhidden
    exact hhidden
  | false =>
    rw [Schema.redactProperty_of_not_hidden hp,
      Schema.redactProperty_of_not_hidden (hsame ▸ hp)] at h
    rw [← dependent?_redact p, h, dependent?_redact]

/-- The references of the properties of a resource, in declaration order. -/
theorem map_dependentProperties (r : Resource) :
    (r.dependentProperties.map fun p => (⟨dependentName p.1 p.2, p.2.isArray⟩ : Dependent)) =
      (r.schema.propertyList.map dependent?).filterMap id := by
  rw [Resource.dependentProperties, ← List.filterMap_eq_filter, List.map_filterMap,
    List.filterMap_map]
  refine congrArg (r.schema.propertyList.filterMap ·) (funext fun p => ?_)
  rw [Function.comp_apply, id, dependent?, Option.guard]
  split <;> rfl

theorem dependentsOf_eq (r : Resource) :
    dependentsOf r =
      ((r.schema.propertyList.map dependent?).filterMap id).filter (!·.isList) ++
        ((r.schema.propertyList.map dependent?).filterMap id).filter (·.isList) := by
  have hdependents (isList : Bool) (ps : List (String × Schema))
      (h : ∀ p ∈ ps, p.2.isArray = isList) :
      ((ps.map (Resource.dependentOf r.qa)).map fun d => (⟨d.name, isList⟩ : Dependent)) =
        ps.map fun p => ⟨dependentName p.1 p.2, p.2.isArray⟩ := by
    rw [List.map_map]
    refine List.map_congr_left fun p hp => ?_
    rw [h p hp]
    rfl
  rw [← map_dependentProperties, List.filter_map, List.filter_map, dependentsOf,
    Resource.singularDependents, Resource.listDependents, hdependents, hdependents]
  · rfl
  · exact fun p hp => (List.mem_filter.1 hp).2
  · exact fun p hp => Bool.not_eq_true' _ ▸ (List.mem_filter.1 hp).2

variable (hredact : r.redact = r'.redact) (hread : hiddenReadings r = hiddenReadings r')

/-- Resources that are the same when redacted have the same redacted properties. -/
theorem redactProperties_of_redact (h : r.redact = r'.redact) :
    r.schema.propertyList.map Schema.redactProperty =
      r'.schema.propertyList.map Schema.redactProperty := by
  have hschema : r.schema.redact = r'.schema.redact := congrArg (·.schema) h
  rw [← Schema.propertyList_redact, hschema, Schema.propertyList_redact]

include hredact hread

/-- The dependent resources are told by the properties, hidden ones included, and by what is read of
these. -/
theorem dependentsOf_congr : dependentsOf r = dependentsOf r' := by
  have hview := map_pair_eq (redactProperties_of_redact hredact)
    (congrArg HiddenReadings.dependents hread)
  have hdependents : r.schema.propertyList.map dependent? = r'.schema.propertyList.map dependent? :=
    map_eq_of_map_eq hview fun p _ q _ h =>
      dependent?_congr (congrArg Prod.fst h) (congrArg Prod.snd h)
  rw [dependentsOf_eq, dependentsOf_eq, hdependents]

/-- Whether models are split is known from the visible attributes and from the hidden ones that are
flagged. -/
theorem hasDependentAttributes_congr : r.hasDependentAttributes = r'.hasDependentAttributes := by
  have hparts (r : Resource) : r.hasDependentAttributes =
      ((hiddenReadings r).splitsModels ||
        (r.schema.propertyList.map Schema.redactProperty).any fun p =>
          !p.2.isHidden false && p.2.extensions.isDependentAttribute) := by
    rw [Resource.hasDependentAttributes, Resource.attributes, List.any_map, hiddenReadings,
      List.any_map]
    induction r.schema.propertyList with
    | nil => rfl
    | cons p ps ih =>
      rw [List.any_cons, List.any_cons, List.any_cons, ih]
      simp only [Function.comp_apply, Schema.isHidden_redactProperty]
      cases hp : p.2.isHidden false with
      | true => simp [Bool.or_assoc]
      | false =>
        rw [Schema.redactProperty_of_not_hidden hp, Schema.redact_extensions]
        simp [Bool.or_left_comm]
  rw [hparts r, hread, redactProperties_of_redact hredact, ← hparts r']

omit hredact hread

/-! ## A shaped resource -/

/-- The class of an enum is made of its name and its values. -/
theorem enumClassOf_congr {e f : Enum} (h : e.face = f.face) :
    enumClassOf classCase e = enumClassOf classCase f := by
  have hname : e.name = f.name := congrArg (·.1) h
  have hvalues : e.values = f.values := congrArg (·.2.1) h
  have hmarked : e.marked = f.marked := congrArg (·.2.2) h
  rw [enumClassOf, enumClassOf, Enum.validValues, Enum.validValues, Enum.deprecatedValues,
    Enum.deprecatedValues, hname, hvalues, hmarked]

theorem map_enumClassOf_congr {es fs : List Enum} (h : es.map Enum.face = fs.map Enum.face) :
    es.map (enumClassOf classCase) = fs.map (enumClassOf classCase) :=
  map_eq_of_map_eq h fun _ _ _ _ hface => enumClassOf_congr hface

/-- Resources that are the same when redacted have the same enums generated. -/
theorem map_face_generatedEnums_congr (hqa : r.qa = false) (hredact : r.redact = r'.redact)
    (hresources : resources.map Resource.redact = resources'.map Resource.redact) :
    (r.generatedEnums resources).map Enum.face = (r'.generatedEnums resources').map Enum.face := by
  have hqa' : r'.qa = false := Resource.qa_of_redact_eq hredact hqa
  rw [← Resource.map_face_generatedEnums_redact hqa, hredact, hresources,
    Resource.map_face_generatedEnums_redact hqa']

/-- Resources that agree are shaped in contexts that are alike. -/
theorem contextFor_alike (hqa : r.qa = false) (hredact : r.redact = r'.redact)
    (hread : hiddenReadings r = hiddenReadings r')
    (hresources : resources.map Resource.redact = resources'.map Resource.redact) :
    (Backend.contextFor resources r).Alike (Backend.contextFor resources' r') where
  name := congrArg (·.name) hredact
  enumNames :=
    map_eq_of_map_eq (map_face_generatedEnums_congr hqa hredact hresources) fun _ _ _ _ h =>
      Enum.name_eq_of_face_eq h
  splitsModels := hasDependentAttributes_congr hredact hread

/-- The same is seen of their attributes, once the filters of hidden fields agree. -/
theorem map_seen_sortedAttributes (hqa : r.qa = false) (hredact : r.redact = r'.redact)
    (hfilters : hiddenFilters r = hiddenFilters r') :
    r.sortedAttributes.map seen = r'.sortedAttributes.map seen := by
  have hqa' : r'.qa = false := Resource.qa_of_redact_eq hredact hqa
  refine map_pair_eq ?_ hfilters
  rw [← Resource.sortedAttributes_redact hqa, hredact, Resource.sortedAttributes_redact hqa']

/-- Their nested resources have the same model classes. -/
theorem models_congr (hc : c.Alike c') (hqa : r.qa = false) (hredact : r.redact = r'.redact)
    (hread : hiddenReadings r = hiddenReadings r') :
    Shaped.each r.sortedSubResources (modelClassOf classCase c) =
      Shaped.each r'.sortedSubResources (modelClassOf classCase c') := by
  have hqa' : r'.qa = false := Resource.qa_of_redact_eq hredact hqa
  have hsubs : r.sortedSubResources.map Resource.redact =
      r'.sortedSubResources.map Resource.redact := by
    rw [← Resource.sortedSubResources_redact hqa, hredact, Resource.sortedSubResources_redact hqa']
  have hview := map_pair_eq hsubs (congrArg HiddenReadings.modelFilters hread)
  refine Shaped.each_eq_of_map_eq (map_eq_of_map_eq hview fun sub hsub sub' _ h => ?_)
  have hsubqa := Resource.qa_of_mem_sortedSubResources hqa hsub
  have hsubredact : sub.redact = sub'.redact := congrArg (·.1) h
  have hfilters : hiddenFilters sub = hiddenFilters sub' := congrArg (·.2) h
  exact modelClassOf_congr hc hsubqa hsubredact
    (map_seen_sortedAttributes hsubqa hsubredact hfilters)

/-- A shaped resource that is made of the redacted resource. -/
def ResourceShape.redact (s : ResourceShape) : ResourceShape :=
  { s with resource := s.resource.redact }

theorem entries_redact (s : ResourceShape) : s.redact.entries = s.entries := by
  have hpath : s.resource.redact.pathName? = s.resource.pathName? := by
    rw [Resource.pathName?, Resource.pathName?, Resource.redact_schema, Schema.redact_extensions]
    rfl
  have hcustom : s.resource.redact.supportsCustomFields = s.resource.supportsCustomFields := by
    rw [Resource.supportsCustomFields, Resource.supportsCustomFields, Resource.redact_schema,
      Schema.redact_extensions]
  have hopen : s.resource.redact.supportsAdditionalProperties =
      s.resource.supportsAdditionalProperties := by
    rw [Resource.supportsAdditionalProperties, Resource.supportsAdditionalProperties,
      Resource.redact_schema, Schema.isOpenMap_redact]
  simp only [ResourceShape.redact, ResourceShape.entries, ResourceShape.module,
    Resource.redact_id, Resource.redact_name, hpath, Resource.sortOrder_redact, hcustom, hopen,
    Resource.hasListOperations, Resource.redact_actions]

/-- Resources that agree are shaped alike but for what is redacted. -/
theorem resourceShape_congr (hc : c.Alike c') (hqa : r.qa = false)
    (henums : c.enums.map Enum.face = c'.enums.map Enum.face) (hredact : r.redact = r'.redact)
    (hread : hiddenReadings r = hiddenReadings r') :
    ResourceShape.redact <$> resourceShape classCase c r =
      ResourceShape.redact <$> resourceShape classCase c' r' := by
  have hcolumns : responseColumns classCase c r = responseColumns classCase c' r' :=
    responseColumns_congr hc hqa
      (map_seen_sortedAttributes hqa hredact (congrArg HiddenReadings.filters hread))
  have hmodels : Shaped.each r.sortedSubResources (modelClassOf classCase c) =
      Shaped.each r'.sortedSubResources (modelClassOf classCase c') :=
    models_congr hc hqa hredact hread
  have hactions : r.redact.sortedActions = r'.redact.sortedActions :=
    congrArg Resource.sortedActions hredact
  have hsorted : r.sortedActions = r'.sortedActions := hactions
  rw [resourceShape, hcolumns, hmodels, hsorted, actionShape_congr hc,
    map_enumClassOf_congr henums, dependentsOf_congr hredact hread, resourceShape]
  simp only [map_bind, map_pure, ResourceShape.redact, hredact]

theorem importsOf_congr (h : c.resource.id = c'.resource.id) : c.importsOf = c'.importsOf := by
  have hmodel : c.importsModel = c'.importsModel := by
    funext module
    rw [ShapingContext.importsModel, ShapingContext.importsModel, h]
  funext references
  rw [ShapingContext.importsOf, ShapingContext.importsOf, hmodel]

/-- **Resources that agree in their redaction and in what is read of their hidden properties are
shaped alike.** -/
theorem shapeOne_congr (name : String) (hiddenOverrides : List String) (hqa : r.qa = false)
    (hredact : r.redact = r'.redact) (hread : hiddenReadings r = hiddenReadings r')
    (hresources : resources.map Resource.redact = resources'.map Resource.redact) :
    (backendOf name classCase hiddenOverrides).shapeOne resources r =
      (backendOf name classCase hiddenOverrides).shapeOne resources' r' := by
  have hc := contextFor_alike hqa hredact hread hresources
  have henums := map_face_generatedEnums_congr hqa hredact hresources
  have hbody : (backendOf name classCase hiddenOverrides).shapeBody
        (Backend.contextFor resources r) r =
      (backendOf name classCase hiddenOverrides).shapeBody
        (Backend.contextFor resources' r') r' := by
    have hentries (c : ShapingContext) (r : Resource) :
        (backendOf name classCase hiddenOverrides).shapeBody c r =
          ResourceShape.entries <$> ResourceShape.redact <$> resourceShape classCase c r := by
      have hcomp : ResourceShape.entries ∘ ResourceShape.redact = ResourceShape.entries :=
        funext entries_redact
      rw [← comp_map, hcomp, map_eq_pure_bind]
      rfl
    rw [hentries, hentries, resourceShape_congr hc hqa henums hredact hread]
  have hid : r.id = r'.id := congrArg (·.id) hredact
  have himports : (Backend.contextFor resources r).importsOf =
      (Backend.contextFor resources' r').importsOf := importsOf_congr hid
  rw [Backend.shapeOne, Backend.shapeOne, hbody, himports]

/-! ## Shaped documents -/

variable {config : GenerationConfig} {document document' : Entries} {spec spec' : Spec}

/-- The global enums have the same classes. -/
theorem shapeEnums_congr (h : spec.redact = spec'.redact) :
    ((Enum.dedupe spec.globalEnums).map fun e => (enumClassOf classCase e).toValue) =
      (Enum.dedupe spec'.globalEnums).map fun e => (enumClassOf classCase e).toValue := by
  have henums : spec.globalEnums.map Enum.redact = spec'.globalEnums.map Enum.redact := by
    rw [← Spec.globalEnums_redact, h, Spec.globalEnums_redact]
  have hfaces : spec.globalEnums.map Enum.face = spec'.globalEnums.map Enum.face :=
    map_eq_of_map_eq henums fun e _ f _ hef => by rw [← Enum.face_redact, hef, Enum.face_redact]
  refine map_eq_of_map_eq (Enum.map_face_dedupe hfaces) fun e _ f _ hef => ?_
  rw [enumClassOf_congr hef]

/-- **Hidden content shows only where it is read.** Documents without references that differ only
in what their component schemas hide, and that agree in what is read of it, are shaped alike. -/
theorem shape_eq_of_redactDocument_eq (hqa : config.qaMode = false)
    (hfree : (Value.object document).references = [])
    (hfree' : (Value.object document').references = [])
    (hredact : redactDocument document = redactDocument document')
    (hbuild : (Spec.build config document).outcome = .ok spec)
    (hbuild' : (Spec.build config document').outcome = .ok spec')
    (hread : (backend.resources config spec).map hiddenReadings =
      (backend.resources config spec').map hiddenReadings) :
    backend.shape config spec = backend.shape config spec' := by
  have hspec := Spec.redact_eq_of_build hfree hfree' hredact hbuild hbuild'
  have hversion : spec.version = spec'.version := congrArg (·.version) hspec
  have hresources : (backend.resources config spec).map Resource.redact =
      (backend.resources config spec').map Resource.redact := by
    rw [← Backend.resources_redact, hspec, Backend.resources_redact]
  have hconfig : spec.config = config := Spec.config_of_build hbuild
  have hshapes : (backend.resources config spec).map
        (backend.shapeOne (backend.resources config spec)) =
      (backend.resources config spec').map
        (backend.shapeOne (backend.resources config spec')) := by
    refine map_eq_of_map_eq (map_pair_eq hresources hread) fun r hr r' _ h => ?_
    have hrqa : r.qa = false := by
      rw [Backend.qa_of_mem_resources _ _ hr, hconfig, hqa]
    exact shapeOne_congr _ _ hrqa (congrArg (·.1) h) (congrArg (·.2) h) hresources
  have henums : (Enum.dedupe spec.globalEnums).map backend.shapeEnum =
      (Enum.dedupe spec'.globalEnums).map backend.shapeEnum := shapeEnums_congr hspec
  rw [Backend.shape, Backend.shape, hversion, henums, hshapes]

/-! ## A resource with a hidden property -/

def labelEntries : Entries := [(.text "type", .text "string")]

/-- The node of a resource with the property `owner` beside a plain one. -/
def ownerEntries (owner : Entries) : Entries :=
  [(.text "x-cb-resource-id", .text "thing"), (.text "properties", .object
    [(.text "owner", .object owner), (.text "label", .object labelEntries)])]

def ownerDocument (owner : Entries) : Entries :=
  [(.text "openapi", .text "3.0.0"), (.text "components", .object
    [(.text "schemas", .object [(.text "Thing", .object (ownerEntries owner))])])]

/-- A hidden property of a plain type. -/
def typedOwner (type : String) : Entries :=
  [(.text hiddenKey, .bool true), (.text "type", .text type)]

/-- A hidden property that refers to a resource generated elsewhere. -/
def referredOwner : Entries :=
  [(.text hiddenKey, .bool true), (.text "x-cb-is-sub-resource", .bool true),
    (.text "x-cb-is-global-resource-reference", .bool true)]

def typedSchema (type : String) : Schema where
  type := some type
  extensions := { hiddenFromSdk := true, declared := ["hidden_from_sdk"] }

def referredSchema : Schema where
  extensions := {
    isSubResource := true, isGlobalResourceReference := true, hiddenFromSdk := true
    declared := ["is_sub_resource", "is_global_resource_reference", "hidden_from_sdk"] }

def labelSchema : Schema := { type := some "string" }

def ownerSchema (schema : Schema) : Schema where
  properties := some [("owner", schema), ("label", labelSchema)]
  extensions := { resourceId := some "thing", declared := ["resource_id"] }

def ownerSpec (owner : Entries) (schema : Schema) : Spec where
  document := ownerDocument owner
  config := {}
  version := {}
  schemas := [("Thing", ownerSchema schema)]
  actions := []

/-- The resource of the document. -/
def owned (schema : Schema) : Resource where
  name := "Thing"
  schema := ownerSchema schema
  id := some "thing"
  givenOrder := none
  qa := false
  actions := []

section Owner

variable {owner : Entries} {schema : Schema}

theorem quiet_ownerEntries (h : ∀ place, Quiet (Schema.ofEntries {} 1 place owner) schema)
    (place : String) :
    Quiet (Schema.ofEntries {} 0 place (ownerEntries owner)) (ownerSchema schema) :=
  Schema.quiet_object (by decide) rfl (Schema.quiet_ofProperties_cons (h _)
    (Schema.quiet_ofProperties_cons (Schema.quiet_leaf (by decide) rfl rfl)
      Schema.quiet_ofProperties_nil)) rfl

/-- The document is built into the resource, whatever its owner is. -/
theorem build_ownerDocument (hfree : (Value.object (ownerDocument owner)).references = [])
    (h : ∀ place, Quiet (Schema.ofEntries {} 1 place owner) schema) :
    (Spec.build {} (ownerDocument owner)).outcome = .ok (ownerSpec owner schema) := by
  have hformat : Document.formatVersion (ownerDocument owner) = .ok "3.0.0" :=
    Document.formatVersion_of_get rfl rfl rfl (by decide)
  have hresolve : Quiet (Reference.resolve (.object (ownerDocument owner)))
      (.object (ownerDocument owner)) :=
    Reference.quiet_inlineValue_of_references hfree
  have hversion : Quiet (Version.resolve (Entries.get (ownerDocument owner) "info") false) {} := rfl
  have hactions : Quiet (Spec.buildActions (Spec.rulesOf {}) (ownerDocument owner)) [] := rfl
  have hschemas : Quiet (Spec.buildSchemas {} (ownerDocument owner))
      [("Thing", ownerSchema schema)] :=
    Spec.quiet_buildSchemas rfl (quiet_ownerEntries h _)
  have hspec : Quiet (Spec.build {} (ownerDocument owner)) (ownerSpec owner schema) :=
    Spec.quiet_build hformat hresolve hversion hschemas hactions
  exact (quiet_iff.1 hspec).2

theorem redact_ownerDocument (h : (Value.object owner).isHiddenNode = true) :
    redactDocument (ownerDocument owner) = ownerDocument [(.text hiddenKey, .bool true)] := by
  have howner : redactNamed
        [(.text "owner", .object owner), (.text "label", .object labelEntries)] =
      [(.text "owner", Value.hiddenNode), (.text "label", .object labelEntries)] := by
    rw [redactNamed, h, if_pos rfl]
    rfl
  have hnode : (Value.object (ownerEntries owner)).redactNode =
      .object (ownerEntries [(.text hiddenKey, .bool true)]) := by
    have hkey : (Key.text "properties").same (.text "properties") = true := by decide
    rw [ownerEntries, Value.redactNode, redactEntries, redactEntries, redactEntries, hkey,
      if_pos rfl, Value.redactMap, howner]
    rfl
  change [(Key.text "openapi", Value.text "3.0.0"), (Key.text "components", Value.object
    [(Key.text "schemas", Value.object
      [(Key.text "Thing", (Value.object (ownerEntries owner)).redactNode)])])] = _
  rw [hnode]
  rfl

theorem resources_ownerSpec (owner : Entries) (schema : Schema) :
    backend.resources {} (ownerSpec owner schema) = [owned schema] := by cbv

/-- A hidden property that refers to no resource and is not flagged is not read. -/
theorem hiddenReadings_owned (hhidden : schema.isHidden false = true)
    (hflag : schema.extensions.isDependentAttribute = false)
    (hdependent : dependent? ("owner", schema) = none) :
    hiddenReadings (owned schema) = ⟨false, [none, none], [none], []⟩ := by
  have hproperties : (owned schema).schema.propertyList =
      [("owner", schema), ("label", labelSchema)] := rfl
  have hvisible : (owned schema).visibleAttributes = [⟨"label", labelSchema, false, false⟩] := by
    have howner : (⟨"owner", schema, false, false⟩ : Attribute).isVisible = false := by
      rw [Attribute.isVisible, Schema.isVisible, hhidden]
      rfl
    have hattributes : (owned schema).attributes =
        [⟨"owner", schema, false, false⟩, ⟨"label", labelSchema, false, false⟩] := rfl
    rw [Resource.visibleAttributes, hattributes, List.filter_cons, howner]
    rfl
  have hmodels : (owned schema).sortedSubResources = [] := by
    have howner : Resource.holdsSubResource false schema = false := by
      rw [Resource.holdsSubResource, hhidden, Bool.not_true, Bool.and_false]
    have hlabel : Resource.holdsSubResource false labelSchema = false := by cbv
    have hqa : (owned schema).qa = false := rfl
    rw [Resource.sortedSubResources, Resource.subResources, Resource.heldSubResources, hproperties,
      hqa, List.filter_cons, howner, List.filter_singleton, hlabel]
    exact List.mergeSort_nil
  have hlabel : dependent? ("label", labelSchema) = none := by cbv
  rw [hiddenReadings, hiddenFilters, Resource.sortedAttributes, hvisible, sortByOrder,
    List.mergeSort_singleton, hmodels, hproperties, List.any_cons, List.map_cons,
    List.map_singleton, hflag, hdependent, hlabel, Bool.and_false, ite_self]
  rfl

end Owner

/-- The type of a hidden property does not show. -/
theorem shape_eq_of_redactDocument_eq_typedOwner :
    redactDocument (ownerDocument (typedOwner "string")) =
        redactDocument (ownerDocument (typedOwner "integer")) ∧
      (Spec.build {} (ownerDocument (typedOwner "string"))).outcome =
        .ok (ownerSpec (typedOwner "string") (typedSchema "string")) ∧
      (Spec.build {} (ownerDocument (typedOwner "integer"))).outcome =
        .ok (ownerSpec (typedOwner "integer") (typedSchema "integer")) ∧
      backend.shape {} (ownerSpec (typedOwner "string") (typedSchema "string")) =
        backend.shape {} (ownerSpec (typedOwner "integer") (typedSchema "integer")) := by
  have hfree (type : String) :
      (Value.object (ownerDocument (typedOwner type))).references = [] := by cbv
  have hhidden (type : String) : (Value.object (typedOwner type)).isHiddenNode = true := by cbv
  have hredact : redactDocument (ownerDocument (typedOwner "string")) =
      redactDocument (ownerDocument (typedOwner "integer")) := by
    rw [redact_ownerDocument (hhidden _), redact_ownerDocument (hhidden _)]
  have hbuild (type : String) : (Spec.build {} (ownerDocument (typedOwner type))).outcome =
      .ok (ownerSpec (typedOwner type) (typedSchema type)) :=
    build_ownerDocument (hfree type) fun _ => Schema.quiet_leaf (by decide) rfl rfl
  refine ⟨hredact, hbuild _, hbuild _, shape_eq_of_redactDocument_eq rfl (hfree _) (hfree _) hredact
    (hbuild _) (hbuild _) ?_⟩
  rw [resources_ownerSpec, resources_ownerSpec, List.map_singleton, List.map_singleton,
    hiddenReadings_owned rfl rfl (by cbv), hiddenReadings_owned rfl rfl (by cbv)]

theorem dependents_shapeOne (resources : List Resource) (r : Resource) :
    ∃ es, backend.shapeOne resources r = .object es ∧
      Entries.get es "dependent_resources" = .list ((dependentsOf r).map Dependent.toValue) :=
  ⟨_, rfl, rfl⟩

/-- The resources that a spec of one resource refers to are seen in its shape. -/
theorem dependentsOf_of_shape_eq {spec spec' : Spec}
    (h : backend.resources {} spec = [r]) (h' : backend.resources {} spec' = [r'])
    (hshape : backend.shape {} spec = backend.shape {} spec') :
    (dependentsOf r).map Dependent.toValue = (dependentsOf r').map Dependent.toValue := by
  obtain ⟨es, hes, hdependents⟩ := dependents_shapeOne [r] r
  obtain ⟨fs, hfs, hdependents'⟩ := dependents_shapeOne [r'] r'
  rw [Backend.shape, Backend.shape, h, h', List.map_singleton, List.map_singleton, hes, hfs]
    at hshape
  have hresources := congrArg (fun v => Entries.get (v.entries?.getD []) "resources") hshape
  have hlist : Value.list [.object es] = .list [.object fs] := hresources
  obtain rfl : es = fs := by simpa using hlist
  exact Value.list.inj (hdependents.symm.trans hdependents')

/-- Hidden content shows: the list of dependent resources does not ask what is hidden. -/
theorem not_forall_shape_eq_of_redactDocument_eq :
    ¬ ∀ (config : GenerationConfig) (document document' : Entries) (spec spec' : Spec),
      config.qaMode = false → (Value.object document).references = [] →
      (Value.object document').references = [] →
      redactDocument document = redactDocument document' →
      (Spec.build config document).outcome = .ok spec →
      (Spec.build config document').outcome = .ok spec' →
      backend.shape config spec = backend.shape config spec' := by
  intro h
  have hfree : (Value.object (ownerDocument (typedOwner "string"))).references = [] := by cbv
  have hfree' : (Value.object (ownerDocument referredOwner)).references = [] := by cbv
  have hhidden : (Value.object (typedOwner "string")).isHiddenNode = true := by cbv
  have hhidden' : (Value.object referredOwner).isHiddenNode = true := by cbv
  have hredact : redactDocument (ownerDocument (typedOwner "string")) =
      redactDocument (ownerDocument referredOwner) := by
    rw [redact_ownerDocument hhidden, redact_ownerDocument hhidden']
  have hbuild : (Spec.build {} (ownerDocument (typedOwner "string"))).outcome =
      .ok (ownerSpec (typedOwner "string") (typedSchema "string")) :=
    build_ownerDocument hfree fun _ => Schema.quiet_leaf (by decide) rfl rfl
  have hbuild' : (Spec.build {} (ownerDocument referredOwner)).outcome =
      .ok (ownerSpec referredOwner referredSchema) :=
    build_ownerDocument hfree' fun _ => Schema.quiet_leaf (by decide) rfl rfl
  have hshape := h {} _ _ _ _ rfl hfree hfree' hredact hbuild hbuild'
  have hdependents := dependentsOf_of_shape_eq (resources_ownerSpec _ _) (resources_ownerSpec _ _)
    hshape
  have hnone : (owned (typedSchema "string")).dependentProperties = [] := by cbv
  have hsome : (owned referredSchema).dependentProperties = [("owner", referredSchema)] := by cbv
  have hlength := congrArg List.length hdependents
  rw [dependentsOf, dependentsOf, Resource.singularDependents, Resource.listDependents,
    Resource.singularDependents, Resource.listDependents, hnone, hsome] at hlength
  cases hlength

end Typed

end SdkModel
