import SdkModel.Proofs.QaMode.Twins
import SdkModel.Proofs.Spec.TwoResources

/-!
# What QA mode adds

Every resource that is shown without QA mode is shown in it, with all of its attributes, nested
types and actions. Yet QA mode does not only add (`Spec.not_inBothModes_onlyAdds`). Of the nested
types of one name the first is kept, and a hidden property that is shown may hold the first. And an
input may become a filter by a field that is shown, whose fields then declare no enums. These are
the only ways in which anything is lost (`Spec.addsOrTakesOver_of_build`).
-/

namespace SdkModel

open Logged (Quiet quiet_bind_iff)

variable {r r' : Resource} {f : Attribute}

/-! ## Twins of a spec -/

theorem Assoc.lookup_map {α β : Type} (f : α → β) (xs : List (String × α)) (name : String) :
    (xs.map fun x => (x.1, f x.2)).lookup name = (xs.lookup name).map f := by
  induction xs with
  | nil => rfl
  | cons x xs ih =>
    rw [List.map_cons, Assoc.lookup_cons_ite, Assoc.lookup_cons_ite, ih]
    split <;> rfl

namespace Spec

variable {spec spec' : Spec} {config : GenerationConfig} {document : Entries}

/-- A resource that is shown without QA mode, and the one of its name that is shown in it. -/
structure Namesakes (spec spec' : Spec) (r r' : Resource) : Prop where
  mem : r ∈ spec.resources
  mem' : r' ∈ spec'.resources
  name : r'.name = r.name

theorem actionsUnder_exposed (spec : Spec) (id : String) :
    spec.exposed.actionsUnder id = (spec.actionsUnder id).map Action.exposed := by
  rw [actionsUnder, actionsUnder, exposed, Assoc.lookup_map]
  cases spec.actions.lookup id <;> rfl

theorem actions_resourceAt_exposed (spec : Spec) (p : String × Schema) :
    (spec.exposed.resourceAt p).actions =
      (spec.actionsUnder (p.2.extensions.resourceId.getD "")).map Action.exposed := by
  rw [← actionsUnder_exposed]
  refine List.filter_eq_self.2 fun x hx => ?_
  rw [actionsUnder_exposed] at hx
  obtain ⟨y, -, rfl⟩ := List.mem_map.1 hx
  rw [Action.isHidden_of_qa rfl]
  rfl

/-- The resources of a component schema without QA mode and in it are twins. -/
theorem twins_resourceAt (hqa : spec.qa = false) (p : String × Schema) :
    (spec.resourceAt p).Twins (spec.exposed.resourceAt p) := by
  refine ⟨rfl, rfl, hqa, rfl, ?_⟩
  have hkept : (spec.resourceAt p).actions.Sublist
      (spec.actionsUnder (p.2.extensions.resourceId.getD "")) := List.filter_sublist
  have hall : (spec.exposed.resourceAt p).actions.filter (!·.isExcluded) =
      (spec.actionsUnder (p.2.extensions.resourceId.getD "")).map Action.exposed := by
    rw [actions_resourceAt_exposed]
    refine List.filter_eq_self.2 fun x hx => ?_
    obtain ⟨y, -, rfl⟩ := List.mem_map.1 hx
    rw [Action.isExcluded_of_qa rfl]
    rfl
  have hsorted : ((spec.resourceAt p).sortedActions.map Action.exposed).Perm
      (((spec.resourceAt p).actions.filter (!·.isExcluded)).map Action.exposed) :=
    (sortByOrder_perm _ _).map _
  have hshown : (((spec.resourceAt p).actions.filter (!·.isExcluded)).map Action.exposed).Sublist
      ((spec.exposed.resourceAt p).actions.filter (!·.isExcluded)) := by
    rw [hall]
    exact (List.filter_sublist.trans hkept).map _
  exact (hsorted.subperm.trans hshown.subperm).trans (sortByOrder_perm _ _).symm.subperm

section Modes

variable (hnames : (Assoc.names spec.schemas).Nodup)

include hnames

/-- The resources that are shown are those of the owners, by name. -/
theorem resources_eq : spec.resources =
    ((sortByName (·.1) spec.owners).filter fun p =>
      !p.2.isHidden spec.qa && !p.2.isThirdParty spec.qa).map spec.resourceAt := by
  have hname : (fun p => (spec.resourceAt p).name) = (·.1) := rfl
  rw [resources, allResources, ownedResources_eq, List.filter_map, sortByName_map, hname,
    List.filter_map, sortByName_filter _ (nodup_names_owners hnames), List.filter_filter]
  rfl

/-- All of them are shown in QA mode. -/
theorem resources_exposed :
    spec.exposed.resources = (sortByName (·.1) spec.owners).map spec.exposed.resourceAt := by
  have hnames' : (Assoc.names spec.exposed.schemas).Nodup := hnames
  rw [resources_eq hnames']
  refine congrArg (List.map _) (List.filter_eq_self.2 fun p _ => ?_)
  have hqa : spec.exposed.qa = true := rfl
  rw [hqa, Schema.isHidden_of_qa, Schema.isThirdParty, Bool.not_true, Bool.and_false]
  rfl

theorem resources_sublist :
    (spec.resources.map fun r => (r.name, r.schema)).Sublist
      (spec.exposed.resources.map fun r => (r.name, r.schema)) := by
  rw [resources_eq hnames, resources_exposed hnames, List.map_map, List.map_map]
  exact List.filter_sublist.map _

/-- The last resource of a name is the one that has it. -/
theorem getLast?_filter_name (hr : r ∈ spec.resources) :
    (spec.resources.filter (·.name = r.name)).getLast? = some r := by
  have hmem : r ∈ spec.resources.filter (·.name = r.name) :=
    List.mem_filter.2 ⟨hr, decide_eq_true rfl⟩
  cases hlast : (spec.resources.filter (·.name = r.name)).getLast? with
  | none =>
    rw [List.getLast?_eq_none_iff.1 hlast] at hmem
    cases hmem
  | some x =>
    obtain ⟨hx, hname⟩ := List.mem_filter.1 (List.mem_of_getLast? hlast)
    rw [eq_of_name_eq hnames hx hr (of_decide_eq_true hname)]

variable (hqa : spec.qa = false)

include hqa

theorem twins_of_namesakes (h : Namesakes spec spec.exposed r r') : r.Twins r' := by
  obtain ⟨hr, hr', hname⟩ := h
  rw [resources_eq hnames] at hr
  rw [resources_exposed hnames] at hr'
  obtain ⟨p, hp, rfl⟩ := List.mem_map.1 hr
  obtain ⟨q, hq, rfl⟩ := List.mem_map.1 hr'
  have hmem {p : String × Schema} (hp : p ∈ sortByName (·.1) spec.owners) : p ∈ spec.schemas :=
    (owners_sublist spec).subset ((sortByName_perm _ _).mem_iff.1 hp)
  obtain rfl : q = p :=
    List.inj_on_of_nodup_map hnames (hmem hq) (hmem (List.mem_filter.1 hp).1) hname
  exact twins_resourceAt hqa q

theorem exists_twin (hr : r ∈ spec.resources) : ∃ r' ∈ spec.exposed.resources, r.Twins r' := by
  have hmem := (resources_sublist hnames).subset (List.mem_map_of_mem hr)
  obtain ⟨r', hr', hname⟩ := List.mem_map.1 hmem
  exact ⟨r', hr', twins_of_namesakes hnames hqa ⟨hr, hr', congrArg Prod.fst hname⟩⟩

/-- An enum that an input declares without QA mode is declared in it unless the input is a filter
there. -/
theorem declaresEnum_of_not_isFilter (h : Namesakes spec spec.exposed r r') {scanned : Resource}
    {action : Action} {holder : Attribute} {e : Enum} (hscanned : scanned ∈ spec.resources)
    (haction : action ∈ scanned.sortedActions) (hholder : holder ∈ action.inputs)
    (hobject : holder.isEnumHolder = true) (hf : f ∈ holder.nested)
    (he : r.schemalessEnum? spec.resources scanned holder f = some e)
    (hfilter : holder.exposed.isFilter = false) :
    r'.DeclaresEnum spec.exposed.resources e.name := by
  obtain ⟨⟨hlocal, hcurrent, hnew⟩, ⟨owner, howner, hfree, hname⟩, rfl⟩ :=
    Resource.schemalessEnum?_eq_some_iff.1 he
  obtain ⟨scanned', hscanned', htwins⟩ := exists_twin hnames hqa hscanned
  have haction' : action.exposed ∈ scanned'.sortedActions :=
    htwins.actions.subset (List.mem_map_of_mem haction)
  have hholder' : holder.exposed ∈ action.exposed.inputs := by
    rw [Action.inputs_exposed]
    exact List.mem_map_of_mem hholder
  have hnew' : scanned'.hasAttribute holder.name = false := htwins.hasAttribute_eq _ ▸ hnew
  obtain ⟨hmem, hmodel⟩ := List.mem_filter.1 (List.mem_of_getLast? howner)
  have howner' : (spec.exposed.resources.filter
      (·.name = holder.exposed.ownerName f.exposed)).getLast? = some r' := by
    have hnames' : (Assoc.names spec.exposed.schemas).Nodup := hnames
    have hname' : holder.exposed.ownerName f.exposed = r'.name :=
      (of_decide_eq_true hmodel).symm.trans (hname.trans h.name.symm)
    rw [hname']
    exact getLast?_filter_name hnames' h.mem'
  have hfree' : r'.hasAttribute f.name = false := by
    rw [(twins_of_namesakes hnames hqa h).hasAttribute_eq, ← eq_of_name_eq hnames hmem h.mem hname]
    exact hfree
  have hdeclared : r'.DeclaresEnum spec.exposed.resources
      (holder.exposed.inputEnumName f.exposed) :=
    .input hscanned' haction' hholder' (Attribute.isEnumHolder_exposed hobject hfilter)
      (Attribute.exposed_mem_nested hf) hlocal hcurrent hnew' howner' rfl hfree'
  rw [Resource.name_inputEnum]
  exact hdeclared

end Modes

/-! ## What is added -/

/-- QA mode keeps the resources of a spec in their order, with all attributes and actions. -/
structure AddsViews (spec spec' : Spec) : Prop where
  resources : (spec.resources.map fun r => (r.name, r.schema)).Sublist
    (spec'.resources.map fun r => (r.name, r.schema))
  attributes : ∀ r r', Namesakes spec spec' r r' →
    ∀ path a, r.ShowsAt path a → r'.ShowsAt path a.exposed
  actions : ∀ r r', Namesakes spec spec' r r' →
    (r.sortedActions.map Action.exposed).Subperm r'.sortedActions

/-- Nested types stay where they are listed. -/
def KeepsNestedTypes (spec spec' : Spec) : Prop :=
  ∀ r r', Namesakes spec spec' r r' → r.subResources.map (·.id) ⊆ r'.subResources.map (·.id)

/-- No name of an enum is lost. -/
def KeepsEnums (spec spec' : Spec) : Prop :=
  ∀ r r', Namesakes spec spec' r r' → (r.generatedEnums spec.resources).map (·.name) ⊆
    (r'.generatedEnums spec'.resources).map (·.name)

/-- QA mode adds to every view. -/
structure OnlyAdds (spec spec' : Spec) : Prop extends AddsViews spec spec' where
  subResources : spec.KeepsNestedTypes spec'
  enums : spec.KeepsEnums spec'

/-- QA mode adds to every view, but that the first of a name may be another one there and that
inputs may be filters there. -/
structure AddsOrTakesOver (spec spec' : Spec) : Prop extends AddsViews spec spec' where
  typeNames : ∀ r r', Namesakes spec spec' r r' →
    r.subResources.map (·.name) ⊆ r'.subResources.map (·.name)
  /-- A nested type is listed under the same property just when no earlier one that is hidden holds
  a type of its name. -/
  subResources : ∀ r r', Namesakes spec spec' r r' →
    ∀ q ∈ r.schema.propertyList, some q.1 ∈ r.subResources.map (·.id) →
      (some q.1 ∈ r'.subResources.map (·.id) ↔
        ∀ p, [p, q].Sublist r.schema.propertyList → p.2.isOwnType = true →
          p.2.extensions.hiddenFromSdk = true → Resource.typeName p ≠ Resource.typeName q)
  localEnums : ∀ r r', Namesakes spec spec' r r' →
    r.localEnums.map (·.name) ⊆ (r'.generatedEnums spec'.resources).map (·.name)
  /-- An enum that is lost is declared by inputs only that are filters in QA mode. -/
  enums : ∀ r r', Namesakes spec spec' r r' →
    ∀ n ∈ (r.generatedEnums spec.resources).map (·.name),
      n ∉ (r'.generatedEnums spec'.resources).map (·.name) →
      ∀ scanned ∈ spec.resources, ∀ action ∈ scanned.sortedActions, ∀ holder ∈ action.inputs,
        holder.isEnumHolder = true → ∀ f ∈ holder.nested, ∀ e,
          r.schemalessEnum? spec.resources scanned holder f = some e → e.name = n →
          holder.exposed.isFilter = true

/-- **What QA mode adds to a document that builds in both modes.** -/
theorem addsOrTakesOver_of_build
    (hs : (build (config.exposing false) document).outcome = .ok spec)
    (ht : (build (config.exposing true) document).outcome = .ok spec') :
    spec.AddsOrTakesOver spec' := by
  rw [build_exposing] at ht
  obtain ⟨spec, hs', rfl⟩ := Logged.map_ok_iff.1 ht
  cases hs.symm.trans hs'
  have hnames := nodup_schemas_of_build hs
  have hqa : spec.qa = false := by
    obtain ⟨_, -, -, hconfig⟩ := parts_of_build hs
    rw [qa, hconfig]
    rfl
  have htwins {r r' : Resource} (h : Namesakes spec spec.exposed r r') : r.Twins r' :=
    twins_of_namesakes hnames hqa h
  refine ⟨⟨resources_sublist hnames, ?_, ?_⟩, ?_, ?_, ?_, ?_⟩
  · exact fun r r' h path a ha => (htwins h).showsAt ha
  · exact fun r r' h => (htwins h).actions
  · exact fun r r' h => (htwins h).names_subResources_subset
  · intro r r' h q hq hlisted
    have hshown := (sortByName_perm _ _).mem_iff.1 (mem_allResources_of_mem_resources h.mem)
    have hnames := nodup_names_of_build hs (List.mem_filter.1 hshown).1
    exact (htwins h).mem_ids_subResources_iff hnames hq hlisted
  · intro r r' h n hn
    exact Resource.mem_names_generatedEnums.2 ((htwins h).declaresEnum_of_mem_localEnums hn)
  · intro r r' h n hn hlost scanned hscanned action haction holder hholder hobject f hf e he hen
    cases hfilter : holder.exposed.isFilter with
    | true => rfl
    | false =>
      refine absurd ?_ hlost
      rw [← hen, Resource.mem_names_generatedEnums]
      exact declaresEnum_of_not_isFilter hnames hqa h hscanned haction hholder hobject hf he hfilter

theorem build_placesDocument_exposing (qa : Bool) :
    (build (GenerationConfig.exposing {} qa) (tripDocument false placesEntries)).outcome =
      .ok (tripSpec false qa placesEntries places) := build_placesDocument qa

/-- QA mode shows the hidden place of a trip, and the action that creates trips. -/
theorem addsOrTakesOver_of_build_places :
    (build (GenerationConfig.exposing {} false) (tripDocument false placesEntries)).outcome =
        .ok (tripSpec false false placesEntries places) ∧
      (build (GenerationConfig.exposing {} true) (tripDocument false placesEntries)).outcome =
        .ok (tripSpec false true placesEntries places) ∧
      (tripSpec false false placesEntries places).AddsOrTakesOver
        (tripSpec false true placesEntries places) :=
  have hs := build_placesDocument_exposing false
  have ht := build_placesDocument_exposing true
  ⟨hs, ht, addsOrTakesOver_of_build hs ht⟩

/-! ## A nested type that is taken over -/

/-- It holds of the specs of every document that builds without QA mode and in it. -/
def InBothModes (P : Spec → Spec → Prop) : Prop :=
  ∀ (config : GenerationConfig) (document : Entries) (spec spec' : Spec),
    (build (config.exposing false) document).outcome = .ok spec →
    (build (config.exposing true) document).outcome = .ok spec' → P spec spec'

/-- A nested type is lost to that of a hidden property which comes before it. -/
theorem not_inBothModes_keepsNestedTypes : ¬ InBothModes KeepsNestedTypes := by
  intro h
  have hkeeps := h {} _ _ _ (build_placesDocument_exposing false)
    (build_placesDocument_exposing true)
  have hmem (qa : Bool) : (tripSpec false qa placesEntries places).resourceAt
      ("Trip", tripSchema places) ∈ (tripSpec false qa placesEntries places).resources :=
    mem_resources_iff.2 ⟨"trip", _, rfl, rfl, rfl, rfl⟩
  have hids (qa : Bool) : ((tripSpec false qa placesEntries places).resourceAt
      ("Trip", tripSchema places)).subResources.map (·.id) =
        [some (if qa then "past" else "home")] := by
    rw [Resource.ids_subResources]
    cases qa <;> cbv
  have hsub := hkeeps _ _ ⟨hmem false, hmem true, rfl⟩
  rw [hids, hids] at hsub
  have hlost := List.mem_singleton.1 (hsub List.mem_cons_self)
  exact absurd (Option.some.inj hlost) (by decide)

/-! ## An input that is a filter in QA mode -/

def statusEntries : Entries :=
  [(.text "type", .text "string"), (.text "enum", .list [.text "open"])]

def sinceEntries : Entries :=
  [(.text "x-cb-is-filter-parameter", .bool true),
    (.text "x-cb-hidden-from-client-sdk", .bool true)]

/-- An enum beside a filter that is hidden. -/
def criteriaEntries : Entries :=
  [(.text "status", .object statusEntries), (.text "since", .object sinceEntries)]

def objectEntries (ps : Entries) : Entries :=
  [(.text "type", .text "object"), (.text "properties", .object ps)]

def updateBody : Entries := objectEntries [(.text "trip", .object (objectEntries criteriaEntries))]

def updateEntries : Entries :=
  [(.text "x-cb-operation-method-name", .text "update"), (.text "x-cb-resource-id", .text "trip"),
    (.text "requestBody", .object [(.text "content", .object [(.text Action.formType,
      .object [(.text "schema", .object updateBody)])])])]

def updatePaths : Entries :=
  [(.text "/trips", .object [(.text "post", .object updateEntries)])]

def statusSchema : Schema where
  type := some "string"
  enum := some [.text "open"]

def sinceSchema : Schema where
  extensions := {
    isFilterParameter := true, hiddenFromSdk := true
    declared := ["is_filter_parameter", "hidden_from_sdk"] }

def objectSchema (properties : List (String × Schema)) : Schema where
  type := some "object"
  properties := some (Assoc.ofPairs properties)

def criteriaSchema : Schema := objectSchema [("status", statusSchema), ("since", sinceSchema)]

def updateSchema : Schema := objectSchema [("trip", criteriaSchema)]

def updateExtensions : OperationExtensions where
  methodName := some "update"
  resourceId := some "trip"
  declared := ["method_name", "resource_id"]

def updateTrip (qa : Bool) : Action :=
  { tripAction qa .post "update" updateExtensions with body := some updateSchema }

def updateDocument : Entries :=
  documentOf updatePaths [(.text "Trip", .object (tripEntries []))]

def updateSpec (qa : Bool) : Spec where
  document := updateDocument
  config := { qaMode := qa }
  version := {}
  schemas := [("Trip", tripSchema [])]
  actions := [("trip", [updateTrip qa])]

theorem quiet_objectEntries {depth : Nat} {place : String} {ps : Entries}
    {properties : List (String × Schema)} (hdepth : depth ≤ 32)
    (h : Quiet (Schema.ofProperties {} depth place ps) properties) :
    Quiet (Schema.ofEntries {} depth place (objectEntries ps)) (objectSchema properties) :=
  Schema.quiet_object (Int.ofNat_le.2 hdepth) rfl h rfl

theorem quiet_updateBody (place : String) :
    Quiet (Schema.ofEntries {} 0 place updateBody) updateSchema := by
  have hcriteria (place : String) :
      Quiet (Schema.ofEntries {} 1 place (objectEntries criteriaEntries)) criteriaSchema :=
    quiet_objectEntries (by decide) (Schema.quiet_ofProperties_cons (Schema.quiet_leaf (by decide) rfl rfl)
      (Schema.quiet_ofProperties_cons (Schema.quiet_leaf (by decide) rfl rfl) Schema.quiet_ofProperties_nil))
  exact quiet_objectEntries (by decide)
    (Schema.quiet_ofProperties_cons (hcriteria _) Schema.quiet_ofProperties_nil)

theorem quiet_updateEntries (qa : Bool) :
    Quiet (Action.ofOperation { qa } .post "/trips" updateEntries) (updateTrip qa) := by
  have hread : (OperationExtensions.read updateEntries).result = .ok updateExtensions := rfl
  have hbody (here : String) : Quiet (Action.bodySchema { qa } here
      (Entries.get updateEntries "requestBody")) (some updateSchema) :=
    quiet_bind_iff.2 ⟨_, rfl, Logged.quiet_map_iff.2 ⟨_, quiet_updateBody _, rfl⟩⟩
  have hparts : Quiet (Action.ofParts { qa } .post "/trips" updateEntries updateExtensions "update")
      (updateTrip qa) :=
    quiet_bind_iff.2 ⟨[], rfl, quiet_bind_iff.2 ⟨_, hbody _, quiet_bind_iff.2 ⟨none, rfl,
      quiet_bind_iff.2 ⟨[], rfl, rfl⟩⟩⟩⟩
  exact Action.quiet_ofOperation (by decide) (by decide) hread rfl hparts

theorem build_updateDocument (qa : Bool) :
    (build { qaMode := qa } updateDocument).outcome = .ok (updateSpec qa) := by
  have hnodes : Quiet (schemasOf {} [(.text "Trip", .object (tripEntries []))])
      [("Trip", tripSchema [])] :=
    quiet_bind_iff.2 ⟨_, quiet_tripEntries Schema.quiet_ofProperties_nil,
      quiet_bind_iff.2 ⟨[], rfl, rfl⟩⟩
  have hactions : Quiet (buildActions { qa } updateDocument) [("trip", [updateTrip qa])] :=
    quiet_bind_iff.2 ⟨updatePaths, rfl, quiet_bind_iff.2 ⟨[("trip", updateTrip qa)],
      quiet_bind_iff.2 ⟨_, quiet_updateEntries qa, quiet_bind_iff.2 ⟨[], rfl, rfl⟩⟩, rfl⟩⟩
  exact build_documentOf rfl hnodes hactions

def updatedTrip (qa : Bool) : Resource := (updateSpec qa).resourceAt ("Trip", tripSchema [])

theorem resources_updateSpec (qa : Bool) : (updateSpec qa).resources = [updatedTrip qa] := by
  cases qa <;> cbv

/-- The input that is a filter in QA mode, and its field. -/
def criteria : Attribute := ⟨"trip", criteriaSchema, false, false⟩

def status : Attribute := ⟨"status", statusSchema, false, false⟩

theorem ownerName_criteria : criteria.ownerName status = "Trip" := by rfl

theorem inputEnumName_criteria : criteria.inputEnumName status = "trip_status" := by rfl

theorem mem_names_updatedTrip :
    "trip_status" ∈ ((updatedTrip false).generatedEnums (updateSpec false).resources).map
      (·.name) := by
  have hactions : (updatedTrip false).sortedActions = [updateTrip false] := by cbv
  have hinputs : (updateTrip false).inputs = [criteria] := by cbv
  have hnested : criteria.nested = [status] := rfl
  have hobject : criteria.isEnumHolder = true := by cbv
  have howner : ([updatedTrip false].filter (·.name = criteria.ownerName status)).getLast? =
      some (updatedTrip false) := by
    rw [ownerName_criteria]
    rfl
  have hdeclared : (updatedTrip false).DeclaresEnum [updatedTrip false]
      (criteria.inputEnumName status) :=
    .input (List.mem_singleton_self _) (hactions ▸ List.mem_singleton_self _)
      (hinputs ▸ List.mem_singleton_self _) hobject (hnested ▸ List.mem_singleton_self _)
      rfl rfl rfl howner rfl rfl
  rw [resources_updateSpec, Resource.mem_names_generatedEnums, ← inputEnumName_criteria]
  exact hdeclared

/-- The enum of an input is lost where the input is a filter. -/
theorem not_inBothModes_keepsEnums : ¬ InBothModes KeepsEnums := by
  intro h
  have hkeeps := h {} _ _ _ (build_updateDocument false) (build_updateDocument true)
  have hmem (qa : Bool) : updatedTrip qa ∈ (updateSpec qa).resources :=
    resources_updateSpec qa ▸ List.mem_singleton_self _
  have hnone : ((updatedTrip true).generatedEnums (updateSpec true).resources).map (·.name) =
      [] := by cbv
  have hlost := hkeeps _ _ ⟨hmem false, hmem true, rfl⟩ mem_names_updatedTrip
  rw [hnone] at hlost
  cases hlost

/-- QA mode does not only add: neither nested types nor enums are all kept. -/
theorem not_inBothModes_onlyAdds :
    ¬ InBothModes OnlyAdds ∧ ¬ InBothModes KeepsNestedTypes ∧ ¬ InBothModes KeepsEnums :=
  ⟨fun h => not_inBothModes_keepsNestedTypes
    fun config document _ _ hs ht => (h config document _ _ hs ht).subResources,
    not_inBothModes_keepsNestedTypes, not_inBothModes_keepsEnums⟩

end Spec

end SdkModel
