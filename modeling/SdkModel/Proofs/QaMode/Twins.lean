import Mathlib.Data.List.Perm.Subperm
import SdkModel.Proofs.QaMode.Build
import SdkModel.Proofs.QaMode.Exposure
import SdkModel.Proofs.Resource.NestedViews
import SdkModel.Proofs.Spec.EnumSets

/-!
# Twins

A resource that is shown without QA mode has a twin in it, of the same schema and with the same
actions and more. The twin shows every attribute that the resource shows
(`Resource.Twins.showsAt`). Of nested types the first of a name counts, and the first may be a
hidden one in QA mode (`Resource.Twins.mem_ids_subResources_iff`).
-/

namespace SdkModel

variable {r r' : Resource} {a f : Attribute} {path : List String} {n : String}

/-! ## Attributes -/

/-- The attribute is shown under a path of names: a visible attribute of the resource, or a field
of one that is shown. -/
inductive Resource.ShowsAt (r : Resource) : List String → Attribute → Prop
  | own {a : Attribute} : a ∈ r.visibleAttributes → ShowsAt r [a.name] a
  | field {path : List String} {a f : Attribute} :
    ShowsAt r path a → f ∈ a.nested → ShowsAt r (path ++ [f.name]) f

theorem Attribute.exposed_mem_nested (h : f ∈ a.nested) : f.exposed ∈ a.exposed.nested := by
  obtain ⟨c, hc, rfl⟩ := List.mem_map.1 h
  rw [nested_of_exposed (a := a.exposed) rfl]
  exact List.mem_map_of_mem (List.mem_filter.1 hc).1

/-- A resource and its twin in QA mode. -/
structure Resource.Twins (r r' : Resource) : Prop where
  name : r'.name = r.name
  schema : r'.schema = r.schema
  qa : r.qa = false
  qa' : r'.qa = true
  actions : (r.sortedActions.map Action.exposed).Subperm r'.sortedActions

/-- A property is listed among the nested types when it is the first of its type name. -/
theorem Resource.mem_ids_subResources (hnames : (Assoc.names r.schema.propertyList).Nodup)
    {q : String × Schema} (hq : q ∈ r.schema.propertyList) :
    some q.1 ∈ r.subResources.map (·.id) ↔ q ∈ firstOf typeName [] r.heldProperties := by
  rw [ids_subResources, List.mem_map]
  constructor
  · rintro ⟨p, hp, hname⟩
    have hheld := (mem_heldProperties_iff.1 (firstOf_sublist.subset hp)).1
    exact property_unique hnames hheld hq (Option.some.inj hname) ▸ hp
  · exact fun hfirst => ⟨q, hfirst, rfl⟩

theorem Resource.nodup_heldProperties (hnames : (Assoc.names r.schema.propertyList).Nodup) :
    r.heldProperties.Nodup :=
  List.Nodup.of_map _ (hnames.sublist (List.filter_sublist.map _))

theorem Resource.pair_sublist_heldProperties {p q : String × Schema} :
    [p, q].Sublist r.heldProperties ↔ [p, q].Sublist r.schema.propertyList ∧
      (p.2.isOwnType = true ∧ p.2.isHidden r.qa = false) ∧
      (q.2.isOwnType = true ∧ q.2.isHidden r.qa = false) := by
  constructor
  · intro hpq
    exact ⟨hpq.trans List.filter_sublist, (mem_heldProperties_iff.1 (hpq.subset (by simp))).2,
      (mem_heldProperties_iff.1 (hpq.subset (by simp))).2⟩
  · rintro ⟨hpq, hp, hq⟩
    have hboth : [p, q].filter (fun p => holdsSubResource r.qa p.2) = [p, q] := by
      rw [Schema.isOwnType, Bool.and_eq_true] at hp hq
      simp [holdsSubResource, hp, hq]
    rw [heldProperties, ← hboth]
    exact hpq.filter _

namespace Resource.Twins

variable (h : r.Twins r')

include h

theorem exposed_mem_attributes (ha : a ∈ r.attributes) : a.exposed ∈ r'.attributes := by
  obtain ⟨p, hp, rfl⟩ := List.mem_map.1 ha
  rw [Resource.attributes, h.schema, h.qa']
  exact List.mem_map_of_mem hp

theorem exposed_mem_visibleAttributes (ha : a ∈ r.visibleAttributes) :
    a.exposed ∈ r'.visibleAttributes :=
  List.mem_filter.2 ⟨h.exposed_mem_attributes (List.mem_filter.1 ha).1,
    Schema.isVisible_of_qa a.schema⟩

theorem showsAt (ha : r.ShowsAt path a) : r'.ShowsAt path a.exposed := by
  induction ha with
  | own ha => exact .own (h.exposed_mem_visibleAttributes ha)
  | field _ hf ih => exact .field ih (Attribute.exposed_mem_nested hf)

theorem hasAttribute_eq (name : String) : r'.hasAttribute name = r.hasAttribute name := by
  rw [hasAttribute, hasAttribute, attributes, attributes, List.any_map, List.any_map, h.schema]
  rfl

/-! ## Nested types -/

theorem heldProperties_sublist : r.heldProperties.Sublist r'.heldProperties := by
  have hheld (p : String × Schema) : holdsSubResource r.qa p.2 = true →
      holdsSubResource r'.qa p.2 = true := by
    rw [holdsSubResource, holdsSubResource, h.qa', Schema.isHidden_of_qa, Bool.not_false,
      Bool.and_true, Bool.and_eq_true]
    exact And.left
  rw [heldProperties, heldProperties, h.schema]
  exact List.monotone_filter_right _ hheld

/-- No name of a nested type is lost. -/
theorem names_subResources_subset :
    r.subResources.map (·.name) ⊆ r'.subResources.map (·.name) := by
  have hnames (r : Resource) : r.subResources.map (·.name) =
      (firstOf typeName [] r.heldProperties).map typeName := by
    rw [subResources_eq, List.map_map]
    rfl
  intro n
  rw [hnames, hnames, mem_keys_firstOf_nil, mem_keys_firstOf_nil]
  exact fun hn => (h.heldProperties_sublist.map typeName).subset hn

/-- A nested type is listed in QA mode under the property that it is listed under without, unless
an earlier property that is hidden holds a type of its name. -/
theorem mem_ids_subResources_iff (hnames : (Assoc.names r.schema.propertyList).Nodup)
    {q : String × Schema} (hq : q ∈ r.schema.propertyList)
    (hlisted : some q.1 ∈ r.subResources.map (·.id)) :
    some q.1 ∈ r'.subResources.map (·.id) ↔
      ∀ p, [p, q].Sublist r.schema.propertyList → p.2.isOwnType = true →
        p.2.extensions.hiddenFromSdk = true → typeName p ≠ typeName q := by
  have hfirst := (mem_ids_subResources hnames hq).1 hlisted
  have hheld : q ∈ r.heldProperties := firstOf_sublist.subset hfirst
  have hown := (mem_heldProperties_iff.1 hheld).2.1
  have hnames' : (Assoc.names r'.schema.propertyList).Nodup := h.schema ▸ hnames
  rw [mem_ids_subResources hnames' (h.schema ▸ hq), mem_firstOf_iff_of_nodup
    (nodup_heldProperties hnames') (h.heldProperties_sublist.subset hheld)]
  refine forall_congr' fun p => ?_
  rw [pair_sublist_heldProperties, h.schema, h.qa', Schema.isHidden_of_qa, Schema.isHidden_of_qa]
  constructor
  · exact fun hearlier hpq hpown _ => hearlier ⟨hpq, ⟨hpown, rfl⟩, hown, rfl⟩
  · rintro hearlier ⟨hpq, ⟨hpown, -⟩, -⟩ hname
    cases hhidden : p.2.extensions.hiddenFromSdk with
    | true => exact hearlier hpq hpown hhidden hname
    | false =>
      have hshown : p.2.isHidden r.qa = false := by rw [Schema.isHidden, hhidden, Bool.false_and]
      have hpair : [p, q].Sublist r.heldProperties := pair_sublist_heldProperties.2
        ⟨hpq, ⟨hpown, hshown⟩, (mem_heldProperties_iff.1 hheld).2⟩
      exact (mem_firstOf_iff_of_nodup (nodup_heldProperties hnames) hheld).1 hfirst p hpair hname

end Resource.Twins

/-! ## Actions -/

namespace Action

theorem declaredQuery_exposed (x : Action) :
    x.exposed.declaredQuery = x.declaredQuery.map Parameter.exposed := by
  have hmethod : x.exposed.method = x.method := rfl
  rw [declaredQuery, declaredQuery, hmethod]
  split
  · rw [exposed, List.filter_map, List.map_map, List.map_map]
    rfl
  · rfl

theorem declaredBody_exposed (x : Action) :
    x.exposed.declaredBody = x.declaredBody.map Parameter.exposed := by
  have hbody : x.exposed.objectBody? = x.objectBody? := rfl
  rw [declaredBody, declaredBody, hbody]
  cases x.objectBody? with
  | none => rfl
  | some s =>
    change bodyFields true s = (bodyFields x.qa s).map Parameter.exposed
    rw [bodyFields, bodyFields, List.map_map]
    rfl

/-- The inputs of an action in QA mode are those without it. -/
theorem inputs_exposed (x : Action) : x.exposed.inputs = x.inputs.map Attribute.exposed := by
  rw [inputs, inputs, bodyParameters, queryParameters, declaredQuery_exposed, declaredBody_exposed,
    sortByOrder_map, sortByOrder_map, ← List.map_append, List.map_map, List.map_map]
  rfl

end Action

/-! ## Enums -/

/-- An input whose fields may declare enums stays one unless it is a filter in QA mode. -/
theorem Attribute.isEnumHolder_exposed (h : a.isEnumHolder = true)
    (hfilter : a.exposed.isFilter = false) : a.exposed.isEnumHolder = true := by
  have hvisible : a.exposed.isVisible = true := Schema.isVisible_of_qa a.schema
  simp only [isEnumHolder, Bool.and_eq_true] at h
  simp only [isEnumHolder, Bool.and_eq_true, hvisible, hfilter, Bool.not_false]
  exact ⟨⟨h.1.1, trivial⟩, trivial⟩

namespace Resource.Twins

variable (h : r.Twins r')

include h

/-- The enums that are declared by attributes are declared in QA mode as well. -/
theorem declaresEnum_of_mem_localEnums {resources : List Resource}
    (hn : n ∈ r.localEnums.map (·.name)) : r'.DeclaresEnum resources n := by
  rw [localEnums, Enum.mem_names_dedupe, mem_names_localCandidates] at hn
  rcases hn with ⟨a, ha, hlocal, rfl⟩ | ⟨a, ha, f, hf, ⟨hlocal, hexternal⟩, rfl⟩
  · exact .own (a := a.exposed) (h.exposed_mem_visibleAttributes ha) hlocal
  · exact .field (a := a.exposed) (f := f.exposed) (h.exposed_mem_visibleAttributes ha)
      (Attribute.exposed_mem_nested hf) hlocal hexternal

end Resource.Twins

end SdkModel
