import SdkModel.Proofs.QaMode.Additions
import SdkModel.Proofs.Spec.FirstEnums

/-!
# The enums that a resource declares itself

An enum that only an input declares is not to take the place of one that its resource declares. Two
attributes are looked up for that: the resource that is called must have none of the name of the
input, and the resource that owns the model none of the name of the field. The enum is named by
both, as is that of a field of an attribute, so that an input of another resource may still be given
the name of an enum of the owner (`Spec.not_forall_keepsOwnEnums`). Without such a name the enums of
a resource are kept (`Resource.keepsOwnEnums_iff`).
-/

namespace SdkModel

open Logged (Quiet quiet_bind_iff)

namespace Resource

variable {r : Resource} {resources : List Resource} {n : String}

/-! ## Names -/

/-- A name of an enum that an attribute of the resource declares, or a field of one. -/
inductive NamesOwnEnum (r : Resource) : String → Prop where
  | attribute {a : Attribute} (ha : a ∈ r.visibleAttributes) (hlocal : a.isLocalEnum = true) :
    NamesOwnEnum r a.name
  | field {a f : Attribute} (ha : a ∈ r.visibleAttributes) (hf : f ∈ a.nested)
    (hlocal : f.isLocalEnum = true) (hexternal : f.isExternalEnum = false) :
    NamesOwnEnum r (a.nestedEnumName f)

/-- The field of an input declares an enum that is generated for the resource. -/
structure OwnsInputField (r : Resource) (resources : List Resource) (scanned : Resource)
    (holder f : Attribute) : Prop where
  declares : f.isLocalEnum = true
  current : f.traits.isDeprecated = false
  unlisted : scanned.hasAttribute holder.name = false
  owner : ∃ owner, (resources.filter (·.name = holder.ownerName f)).getLast? = some owner ∧
    owner.hasAttribute f.name = false ∧ owner.name = r.name

theorem mem_names_localEnums : n ∈ r.localEnums.map (·.name) ↔ r.NamesOwnEnum n := by
  rw [localEnums, Enum.mem_names_dedupe, mem_names_localCandidates]
  constructor
  · rintro (⟨a, ha, hlocal, rfl⟩ | ⟨a, ha, f, hf, ⟨hlocal, hexternal⟩, rfl⟩)
    · exact .attribute ha hlocal
    · exact .field ha hf hlocal hexternal
  · rintro (⟨ha, hlocal⟩ | ⟨ha, hf, hlocal, hexternal⟩)
    · exact .inl ⟨_, ha, hlocal, rfl⟩
    · exact .inr ⟨_, ha, _, hf, ⟨hlocal, hexternal⟩, rfl⟩

theorem exists_schemalessEnum?_iff {scanned : Resource} {holder f : Attribute} :
    (∃ e, r.schemalessEnum? resources scanned holder f = some e ∧ e.name = n) ↔
      r.OwnsInputField resources scanned holder f ∧ holder.inputEnumName f = n := by
  simp only [schemalessEnum?_eq_some_iff]
  constructor
  · rintro ⟨_, ⟨⟨hdeclares, hcurrent, hunlisted⟩, howner, rfl⟩, rfl⟩
    exact ⟨⟨hdeclares, hcurrent, hunlisted, howner⟩, (name_inputEnum holder f).symm⟩
  · rintro ⟨h, rfl⟩
    exact ⟨_, ⟨⟨h.declares, h.current, h.unlisted⟩, h.owner, rfl⟩, name_inputEnum holder f⟩

theorem mem_names_schemalessEnums : n ∈ (r.schemalessEnums resources).map (·.name) ↔
    ∃ scanned ∈ resources, ∃ action ∈ scanned.sortedActions, ∃ holder ∈ action.inputs,
      holder.isEnumHolder = true ∧ ∃ f ∈ holder.nested,
        r.OwnsInputField resources scanned holder f ∧ holder.inputEnumName f = n := by
  rw [schemalessEnums_eq, Enum.mem_names_dedupe, mem_names_schemalessCandidates]
  simp only [exists_schemalessEnum?_iff]

/-! ## Enums that are kept -/

/-- No enum of an input has the name of one that the resource declares, and all of these are
generated as they are declared. -/
structure KeepsOwnEnums (r : Resource) (resources : List Resource) : Prop where
  disjoint : ∀ n ∈ (r.schemalessEnums resources).map (·.name), n ∉ r.localEnums.map (·.name)
  kept : ∀ e ∈ r.localEnums, e ∈ r.generatedEnums resources

/-- An enum is generated as it is declared when no enum that comes before it has its name. -/
theorem mem_generatedEnums_of_mem_localEnums {e : Enum} (he : e ∈ r.localEnums)
    (hfree : e.name ∉ (r.schemalessEnums resources).map (·.name)) :
    e ∈ r.generatedEnums resources := by
  have hnodup : (r.localEnums.map (·.name)).Nodup := by
    rw [localEnums, Enum.dedupe, Enum.firstOfName_eq]
    exact nodup_keys_firstOf
  have hfirst : r.localEnums.find? (·.name = e.name) = some e := by
    rw [← firstOf_eq_self hnodup fun _ _ => List.not_mem_nil] at he
    exact (mem_firstOf_iff.1 he).2
  have hnone : (r.schemalessEnums resources).find? (·.name = e.name) = none := by
    refine List.find?_eq_none.2 fun x hx hname => hfree ?_
    exact of_decide_eq_true hname ▸ List.mem_map_of_mem hx
  rw [generatedEnums, Enum.dedupe, Enum.firstOfName_eq, mem_firstOf_iff, List.find?_append, hnone]
  exact ⟨List.not_mem_nil, hfirst⟩

theorem keepsOwnEnums_iff_disjoint : r.KeepsOwnEnums resources ↔
    ∀ n ∈ (r.schemalessEnums resources).map (·.name), n ∉ r.localEnums.map (·.name) := by
  constructor
  · exact KeepsOwnEnums.disjoint
  · intro hdisjoint
    refine ⟨hdisjoint, fun e he => ?_⟩
    exact mem_generatedEnums_of_mem_localEnums he fun hname =>
      hdisjoint _ hname (List.mem_map_of_mem he)

/-- **A resource keeps its enums** just when none of them has the name that a field of an input
gives to an enum of the resource. -/
theorem keepsOwnEnums_iff : r.KeepsOwnEnums resources ↔
    ∀ scanned ∈ resources, ∀ action ∈ scanned.sortedActions, ∀ holder ∈ action.inputs,
      holder.isEnumHolder = true → ∀ f ∈ holder.nested,
        r.OwnsInputField resources scanned holder f →
          ¬ r.NamesOwnEnum (holder.inputEnumName f) := by
  rw [keepsOwnEnums_iff_disjoint]
  simp only [mem_names_schemalessEnums, mem_names_localEnums]
  constructor
  · intro hdisjoint scanned hscanned action haction holder hholder hobject f hf howns
    exact hdisjoint _
      ⟨scanned, hscanned, action, haction, holder, hholder, hobject, f, hf, howns, rfl⟩
  · intro hnames n hn
    obtain ⟨scanned, hscanned, action, haction, holder, hholder, hobject, f, hf, howns, rfl⟩ := hn
    exact hnames scanned hscanned action haction holder hholder hobject f hf howns

end Resource

namespace Spec

/-! ## An enum that is replaced -/

def closedEntries : Entries :=
  [(.text "type", .text "string"), (.text "enum", .list [.text "closed"]),
    (.text "x-cb-meta-model-name", .text "trip")]

def closedSchema : Schema where
  type := some "string"
  enum := some [.text "closed"]
  extensions := { metaModelName := some "trip", declared := ["meta_model_name"] }

/-- The stop of a trip. -/
def stopEntries : Entries :=
  [(.text "stop", .object (objectEntries [(.text "status", .object statusEntries)]))]

def stopProperties : List (String × Schema) := [("stop", objectSchema [("status", statusSchema)])]

/-- The stop of a trip as guides are given it. -/
def guideBody : Entries :=
  objectEntries [(.text "stop", .object (objectEntries [(.text "status", .object closedEntries)]))]

def guideBodySchema : Schema :=
  objectSchema [("stop", objectSchema [("status", closedSchema)])]

def assignEntries : Entries :=
  [(.text "x-cb-operation-method-name", .text "assign"), (.text "x-cb-resource-id", .text "guide"),
    (.text "requestBody", .object [(.text "content", .object [(.text Action.formType,
      .object [(.text "schema", .object guideBody)])])])]

def assignPaths : Entries :=
  [(.text "/trips", .object [(.text "post", .object assignEntries)])]

def assignExtensions : OperationExtensions where
  methodName := some "assign"
  resourceId := some "guide"
  declared := ["method_name", "resource_id"]

def assignGuide : Action :=
  { tripAction false .post "assign" assignExtensions with body := some guideBodySchema }

def assignDocument : Entries := documentOf assignPaths (tripComponents false stopEntries)

def assignSpec : Spec where
  document := assignDocument
  config := {}
  version := {}
  schemas := tripSchemas false stopProperties
  actions := [("guide", [assignGuide])]

theorem quiet_assignEntries :
    Quiet (Action.ofOperation {} .post "/trips" assignEntries) assignGuide := by
  have hread : (OperationExtensions.read assignEntries).result = .ok assignExtensions := rfl
  have hguideBody (place : String) :
      Quiet (Schema.ofEntries {} 0 place guideBody) guideBodySchema :=
    quiet_objectEntries (by decide) (Schema.quiet_ofProperties_cons
      (quiet_objectEntries (by decide) (Schema.quiet_ofProperties_cons (Schema.quiet_leaf (by decide) rfl rfl)
        Schema.quiet_ofProperties_nil)) Schema.quiet_ofProperties_nil)
  have hbody (here : String) : Quiet (Action.bodySchema {} here
      (Entries.get assignEntries "requestBody")) (some guideBodySchema) :=
    quiet_bind_iff.2 ⟨_, rfl, Logged.quiet_map_iff.2 ⟨_, hguideBody _, rfl⟩⟩
  have hparts : Quiet (Action.ofParts {} .post "/trips" assignEntries assignExtensions "assign")
      assignGuide :=
    quiet_bind_iff.2 ⟨[], rfl, quiet_bind_iff.2 ⟨_, hbody _, quiet_bind_iff.2 ⟨none, rfl,
      quiet_bind_iff.2 ⟨[], rfl, rfl⟩⟩⟩⟩
  exact Action.quiet_ofOperation (by decide) (by decide) hread rfl hparts

theorem build_assignDocument : (build {} assignDocument).outcome = .ok assignSpec := by
  have hstop (place : String) :
      Quiet (Schema.ofProperties {} 0 place stopEntries) stopProperties :=
    Schema.quiet_ofProperties_cons (quiet_objectEntries (by decide)
      (Schema.quiet_ofProperties_cons (Schema.quiet_leaf (by decide) rfl rfl) Schema.quiet_ofProperties_nil))
      Schema.quiet_ofProperties_nil
  have hactions : Quiet (buildActions {} assignDocument) [("guide", [assignGuide])] :=
    quiet_bind_iff.2 ⟨assignPaths, rfl, quiet_bind_iff.2 ⟨[("guide", assignGuide)],
      quiet_bind_iff.2 ⟨_, quiet_assignEntries, quiet_bind_iff.2 ⟨[], rfl, rfl⟩⟩, rfl⟩⟩
  exact build_documentOf rfl (quiet_tripComponents hstop) hactions

def stoppingTrip : Resource := assignSpec.resourceAt ("Trip", tripSchema stopProperties)

/-- The stop of a trip, that of the input, and the status of the latter. -/
def stop : Attribute := ⟨"stop", objectSchema [("status", statusSchema)], false, false⟩

def assignedStop : Attribute := ⟨"stop", objectSchema [("status", closedSchema)], false, false⟩

def assignedStatus : Attribute := ⟨"status", closedSchema, false, false⟩

theorem localEnums_stoppingTrip : stoppingTrip.localEnums = [⟨"stop_status", statusSchema⟩] := by
  have hvisible : stoppingTrip.visibleAttributes = [stop] := by cbv
  have henums : stoppingTrip.enums = [] := by cbv
  rw [Resource.localEnums, Resource.localCandidates, henums, Resource.nestedEnums, hvisible]
  rfl

theorem schemalessEnums_stoppingTrip :
    stoppingTrip.schemalessEnums assignSpec.resources = [⟨"stop_status", closedSchema⟩] := by
  let guide := assignSpec.resourceAt ("Guide", guideSchema)
  have hresources : assignSpec.resources = [guide, stoppingTrip] := by cbv
  have hassign : guide.sortedActions = [assignGuide] := by cbv
  have hnone : stoppingTrip.sortedActions = [] := by cbv
  have hinputs : assignGuide.inputs = [assignedStop] := by cbv
  have hobject : assignedStop.isEnumHolder = true := by cbv
  have hfound : stoppingTrip.schemalessEnum? [guide, stoppingTrip] guide assignedStop
      assignedStatus = some ⟨"stop_status", closedSchema⟩ :=
    Resource.schemalessEnum?_eq_some_iff.2
      ⟨⟨rfl, rfl, rfl⟩, ⟨stoppingTrip, by rfl, rfl, rfl⟩, by rfl⟩
  have hcandidates : stoppingTrip.schemalessCandidates assignSpec.resources =
      [⟨"stop_status", closedSchema⟩] := by
    have hfields : assignedStop.nested = [assignedStatus] := rfl
    simp only [Resource.schemalessCandidates, hresources, List.flatMap_cons, List.flatMap_nil,
      hassign, hnone, hinputs, List.filter_cons_of_pos hobject, List.filter_nil, hfields,
      List.filterMap_cons, hfound, List.filterMap_nil, List.append_nil]
  rw [Resource.schemalessEnums_eq, hcandidates]
  rfl

/-- A resource does not keep its enums in every spec: the status of the stop of a trip is lost to
that of an input of guides. -/
theorem not_forall_keepsOwnEnums :
    ¬ ∀ (config : GenerationConfig) (document : Entries) (spec : Spec),
      (build config document).outcome = .ok spec →
        ∀ r ∈ spec.resources, r.KeepsOwnEnums spec.resources := by
  intro h
  have hmem : stoppingTrip ∈ assignSpec.resources :=
    mem_resources_iff.2 ⟨"trip", _, rfl, rfl, rfl, rfl⟩
  have hgenerated :
      stoppingTrip.generatedEnums assignSpec.resources = [⟨"stop_status", closedSchema⟩] := by
    rw [Resource.generatedEnums, schemalessEnums_stoppingTrip, localEnums_stoppingTrip]
    rfl
  have hkept := (h {} _ _ build_assignDocument _ hmem).kept
  rw [localEnums_stoppingTrip, hgenerated] at hkept
  have hsame := List.mem_singleton.1 (hkept _ (List.mem_singleton_self _))
  have hvalues : ["open"] = ["closed"] := congrArg (·.values) hsame
  exact absurd hvalues (by decide)

end Spec

end SdkModel
