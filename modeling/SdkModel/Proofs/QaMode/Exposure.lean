import SdkModel.Proofs.Spec.Grouping

/-!
# Hidden content

Where hidden content is shown is decided at four places: when the resources of a spec are listed,
when a resource takes its actions, when they are sorted, and at every attribute. All of them follow
the mode of the spec, which reaches every attribute through the one that holds it
(`Resource.Reaches.qa_eq`). QA mode shows everything (`Spec.ExposesHidden`), and without it nothing
that is flagged remains (`Spec.ConcealsHidden`).
-/

namespace SdkModel

/-! ## Attributes -/

/-- The attributes of a resource at any depth. -/
inductive Resource.Reaches (r : Resource) : Attribute → Prop
  | own {a : Attribute} : a ∈ r.attributes → Reaches r a
  | nested {a f : Attribute} : Reaches r a → f ∈ a.nested → Reaches r f

/-- Neither the schema nor that of its items is flagged as hidden. -/
structure Schema.Unflagged (s : Schema) : Prop where
  self : s.extensions.hiddenFromSdk = false
  items : ∀ i, s.items = some i → i.extensions.hiddenFromSdk = false

variable {r : Resource} {a f : Attribute} {s : Schema}

theorem Schema.isHidden_eq_false_iff :
    s.isHidden false = false ↔ s.extensions.hiddenFromSdk = false := by
  rw [isHidden, Bool.not_false, Bool.and_true]

/-- Outside QA mode what is visible is not flagged. -/
theorem Schema.unflagged_of_isVisible (h : s.isVisible false = true) : s.Unflagged := by
  simp only [isVisible, Bool.and_eq_true, Bool.not_eq_true', Option.any_eq_false] at h
  obtain ⟨⟨hself, -⟩, hitems⟩ := h
  refine ⟨isHidden_eq_false_iff.1 hself, fun i hi => isHidden_eq_false_iff.1 ?_⟩
  simpa using hitems i hi

theorem Attribute.nested_of_exposed (h : a.qa = true) :
    a.nested = a.schema.children.map (ofChild true) := by
  rw [nested, Schema.visibleChildren, h]
  refine congrArg _ (List.filter_eq_self.2 fun c _ => ?_)
  exact Schema.isVisible_of_qa c.schema

theorem Attribute.qa_of_mem_nested (h : f ∈ a.nested) : f.qa = a.qa := by
  obtain ⟨c, -, rfl⟩ := List.mem_map.1 h
  rfl

/-- The mode of a resource reaches all of its attributes. -/
theorem Resource.Reaches.qa_eq (h : r.Reaches a) : a.qa = r.qa := by
  induction h with
  | own h =>
    obtain ⟨p, -, rfl⟩ := List.mem_map.1 h
    rfl
  | nested _ hf ih => exact (Attribute.qa_of_mem_nested hf).trans ih

theorem Resource.visibleAttributes_of_exposed (h : r.qa = true) :
    r.visibleAttributes.map (fun a => (a.name, a.schema)) = r.schema.propertyList := by
  have hall : r.visibleAttributes = r.attributes := by
    refine List.filter_eq_self.2 fun a ha => ?_
    rw [Attribute.isVisible, (Reaches.own ha).qa_eq, h, Schema.isVisible_of_qa]
  rw [hall, attributes, List.map_map]
  exact List.map_id _

/-! ## Actions -/

theorem Action.isExcluded_eq_false_iff {x : Action} (h : x.qa = false) : x.isExcluded = false ↔
    x.extensions.hiddenFromSdk = false ∧ x.extensions.isBulk = false ∧
      x.extensions.isInternal = false := by
  simp [isExcluded, OperationExtensions.isExcluded, h, and_assoc]

theorem Action.isExcluded_of_qa {x : Action} (h : x.qa = true) : x.isExcluded = false := by
  rw [isExcluded, OperationExtensions.isExcluded, h]
  rfl

theorem Action.isHidden_of_qa {x : Action} (h : x.qa = true) : x.isHidden = false := by
  rw [isHidden, OperationExtensions.isHidden, h, Bool.not_true, Bool.and_false]

namespace Spec

variable {spec : Spec} {config : GenerationConfig} {document : Entries} {id : String}
variable {s : OperationSite}

/-- An operation that states the id stands at the site. -/
def IsDeclaredAt (spec : Spec) (id : String) (s : OperationSite) : Prop :=
  ∃ url operation, operationAt? spec.paths s = some (url, operation) ∧
    operation.get "x-cb-resource-id" = .text id

/-- QA mode shows hidden content. -/
structure ExposesHidden (spec : Spec) : Prop where
  /-- The owner of every id is a resource, a hidden or third-party one as well. -/
  owners : ∀ id p, spec.owner? id = some p →
    ∃ r ∈ spec.resources, r.name = p.1 ∧ r.schema = p.2 ∧ r.id = some id
  attributes : ∀ r ∈ spec.resources,
    r.visibleAttributes.map (fun a => (a.name, a.schema)) = r.schema.propertyList
  nested : ∀ r ∈ spec.resources, ∀ a, r.Reaches a →
    a.nested = a.schema.children.map (Attribute.ofChild true)
  /-- The sorted actions are what all operations with the id of the resource are built into. -/
  actions : ∀ r ∈ spec.resources, ∃ id sites actions, r.id = some id ∧ sites.Nodup ∧
    (∀ s, s ∈ sites ↔ spec.IsDeclaredAt id s) ∧ List.Forall₂ spec.IsBuiltAt sites actions ∧
    r.sortedActions.Perm actions

/-- Nothing that is flagged remains outside QA mode. -/
structure ConcealsHidden (spec : Spec) : Prop where
  resources : ∀ r ∈ spec.resources, r.schema.extensions.hiddenFromSdk = false ∧
    r.schema.extensions.isThirdPartyResource = false
  attributes : ∀ r ∈ spec.resources, ∀ a ∈ r.visibleAttributes, a.schema.Unflagged
  nested : ∀ r ∈ spec.resources, ∀ a, r.Reaches a → ∀ f ∈ a.nested, f.schema.Unflagged
  actions : ∀ r ∈ spec.resources, ∀ a ∈ r.sortedActions, a.extensions.hiddenFromSdk = false ∧
    a.extensions.isBulk = false ∧ a.extensions.isInternal = false

theorem qa_of_mem_allResources (h : r ∈ spec.allResources) : r.qa = spec.qa := by
  obtain ⟨_, _, -, -, rfl⟩ := mem_allResources_iff.1 h
  rfl

theorem mem_allResources_of_mem_resources (h : r ∈ spec.resources) : r ∈ spec.allResources :=
  (List.mem_filter.1 h).1

section Built

variable {built : List (OperationSite × Action)} (hbuilt : spec.BuiltActions built)

include hbuilt

theorem BuiltActions.qa_of_mem (hr : r ∈ spec.allResources) {x : Action} (hx : x ∈ r.actions) :
    x.qa = spec.qa := by
  rw [hbuilt.actions_eq hr] at hx
  obtain ⟨z, hz, rfl⟩ := List.mem_map.1 hx
  obtain ⟨_, _, -, hz⟩ := hbuilt.isBuiltAt z (List.mem_filter.1 hz).1
  exact (Action.qa_of_ofOperation hz).1

/-- Where hidden content is shown, a resource has the actions of all operations with its id. -/
theorem BuiltActions.mem_sites_of_exposed (hqa : spec.qa = true) (hid : r.id = some id) :
    s ∈ (takenBy r built).map (·.1) ↔ spec.IsDeclaredAt id s := by
  constructor
  · intro hs
    obtain ⟨z, hz, rfl⟩ := List.mem_map.1 hs
    obtain ⟨hz, htaken⟩ := List.mem_filter.1 hz
    have hat := hbuilt.isBuiltAt z hz
    have hrid := of_decide_eq_true (Bool.and_eq_true_iff.1 htaken).1
    have ⟨url, operation, ho, _⟩ := hat
    exact ⟨url, operation, ho, (resourceId?_of_isBuiltAt hat ho).1 (hrid.trans hid)⟩
  · rintro ⟨url, operation, ho, hstated⟩
    obtain ⟨z, hz, rfl⟩ := List.mem_map.1 (hbuilt.complete s _ ho)
    have hat := hbuilt.isBuiltAt z hz
    refine (hbuilt.mem_sites_takenBy hz).2 ⟨?_, ?_⟩
    · exact ((resourceId?_of_isBuiltAt hat ho).2 hstated).trans hid.symm
    · rw [isHidden_of_isBuiltAt hat, hqa, Bool.not_true, Bool.and_false]

theorem exposesHidden (hqa : spec.qa = true) : spec.ExposesHidden where
  owners id p hp := ⟨spec.resourceAt p, mem_resources_iff.2 ⟨id, p, hp,
    by rw [Schema.isThirdParty, hqa, Bool.not_true, Bool.and_false],
    by rw [hqa, Schema.isHidden_of_qa], rfl⟩, rfl, rfl, id_resourceAt hp⟩
  attributes r hr := Resource.visibleAttributes_of_exposed
    ((qa_of_mem_allResources (mem_allResources_of_mem_resources hr)).trans hqa)
  nested r hr a ha := Attribute.nested_of_exposed
    (ha.qa_eq.trans ((qa_of_mem_allResources (mem_allResources_of_mem_resources hr)).trans hqa))
  actions r hr := by
    have hall := mem_allResources_of_mem_resources hr
    obtain ⟨id, p, hp, -, rfl⟩ := mem_allResources_iff.1 hall
    have hid := id_resourceAt hp
    refine ⟨id, (takenBy (spec.resourceAt p) built).map (·.1),
      (takenBy (spec.resourceAt p) built).map (·.2), hid, ?_,
      fun s => hbuilt.mem_sites_of_exposed hqa hid, ?_, ?_⟩
    · exact hbuilt.nodup_sites.sublist (List.filter_sublist.map _)
    · rw [List.forall₂_map_left_iff, List.forall₂_map_right_iff, List.forall₂_same]
      exact fun z hz => hbuilt.isBuiltAt z (List.mem_filter.1 hz).1
    · rw [← hbuilt.actions_eq hall]
      refine (sortByOrder_perm _ _).trans (List.Perm.of_eq (List.filter_eq_self.2 fun x hx => ?_))
      rw [Action.isExcluded_of_qa ((hbuilt.qa_of_mem hall hx).trans hqa)]
      rfl

theorem concealsHidden (hqa : spec.qa = false) : spec.ConcealsHidden := by
  have hmode {r : Resource} (hr : r ∈ spec.resources) : r.qa = false :=
    (qa_of_mem_allResources (mem_allResources_of_mem_resources hr)).trans hqa
  refine ⟨fun r hr => ?_, fun r hr a ha => ?_, fun r hr a ha f hf => ?_, fun r hr x hx => ?_⟩
  · obtain ⟨_, p, -, hthird, hhidden, rfl⟩ := mem_resources_iff.1 hr
    rw [hqa] at hthird hhidden
    rw [Schema.isThirdParty, Bool.not_false, Bool.and_true] at hthird
    exact ⟨Schema.isHidden_eq_false_iff.1 hhidden, hthird⟩
  · obtain ⟨ha, hvisible⟩ := List.mem_filter.1 ha
    rw [Attribute.isVisible, (Resource.Reaches.own ha).qa_eq, hmode hr] at hvisible
    exact Schema.unflagged_of_isVisible hvisible
  · have hvisible := Attribute.isVisible_of_mem_nested hf
    rw [ha.qa_eq, hmode hr] at hvisible
    exact Schema.unflagged_of_isVisible hvisible
  · obtain ⟨hx, hkept⟩ := List.mem_filter.1 (mem_sortByOrder.1 hx)
    have hxqa := (hbuilt.qa_of_mem (mem_allResources_of_mem_resources hr) hx).trans hqa
    exact (Action.isExcluded_eq_false_iff hxqa).1 (by simpa using hkept)

end Built

/-- **QA mode shows all content of a built document, and without it nothing hidden is shown.** -/
theorem exposure_of_build (h : (build config document).outcome = .ok spec) :
    (config.qaMode = true → spec.ExposesHidden) ∧
      (config.qaMode = false → spec.ConcealsHidden) := by
  obtain ⟨built, hbuilt⟩ := exists_builtActions h
  obtain ⟨_, -, -, rfl⟩ := parts_of_build h
  exact ⟨exposesHidden hbuilt, concealsHidden hbuilt⟩

/-- The mode decides on the hidden place. -/
theorem exposure_of_build_places :
    (tripSpec false true placesEntries places).ExposesHidden ∧
      (tripSpec false false placesEntries places).ConcealsHidden :=
  ⟨(exposure_of_build (build_placesDocument true)).1 rfl,
    (exposure_of_build (build_placesDocument false)).2 rfl⟩

end Spec

end SdkModel
