import SdkModel.Proofs.Distinct
import SdkModel.Proofs.Spec.Build

/-!
# Nested resources and visible attributes

The nested types of a resource and the resources that it refers to are read off its properties
beside its visible attributes. The three views would part the visible attributes by what they hold
(`NestedViewsPartition`), were it not that a nested type asks only whether the property itself is
hidden, and a reference not even that. They do so exactly when every property that one of the two
views shows is visible (`nestedViewsPartition_iff`).
-/

namespace SdkModel

/-- A sub-resource whose type is generated with the resource. -/
def Schema.isOwnType (s : Schema) : Bool := s.isSubResource && !s.isGlobalReference

/-- A sub-resource whose type is generated elsewhere. -/
def Schema.isForeignType (s : Schema) : Bool := s.isSubResource && s.isGlobalReference

namespace Resource

variable {r : Resource} {a : Attribute} {p : String × Schema} {n : String}

/-- The nested types and the references of a resource part its visible attributes. -/
structure NestedViewsPartition (r : Resource) : Prop where
  /-- Every entry is named after a visible attribute. -/
  visible : ∀ s ∈ r.subResources ++ r.dependentResources,
    ∃ a ∈ r.visibleAttributes, s.id = some a.name
  /-- A visible reference is one entry of the references and none of the nested types. -/
  foreign : ∀ a ∈ r.visibleAttributes, a.schema.isForeignType = true →
    (r.dependentResources.map (·.id)).count (some a.name) = 1 ∧
      some a.name ∉ r.subResources.map (·.id)
  /-- A visible nested type is an entry, unless it has the type name of an earlier one. -/
  own : ∀ a ∈ r.visibleAttributes, a.schema.isOwnType = true →
    some a.name ∈ r.subResources.map (·.id) ∨
      ∃ b, [b, a].Sublist r.visibleAttributes ∧ b.schema.isOwnType = true ∧
        subResourceName b.name b.schema = subResourceName a.name a.schema
  /-- The references are the single ones and the lists. -/
  dependents : (r.singularDependents ++ r.listDependents).Perm r.dependentResources
  disjoint : List.Disjoint (r.singularDependents.map (·.id)) (r.listDependents.map (·.id))

/-! ## Properties -/

def attributeOf (r : Resource) (p : String × Schema) : Attribute :=
  ⟨p.1, p.2, p.1 ∈ r.schema.requiredNames, r.qa⟩

theorem visibleAttributes_eq (r : Resource) : r.visibleAttributes =
    (r.schema.propertyList.filter fun p => p.2.isVisible r.qa).map r.attributeOf := by
  rw [visibleAttributes, attributes, List.filter_map]
  rfl

theorem mem_visibleAttributes_iff : a ∈ r.visibleAttributes ↔
    ∃ p ∈ r.schema.propertyList, p.2.isVisible r.qa = true ∧ r.attributeOf p = a := by
  simp only [visibleAttributes_eq, List.mem_map, List.mem_filter, and_assoc]

/-- The properties that hold a nested type. -/
def heldProperties (r : Resource) : List (String × Schema) :=
  r.schema.propertyList.filter fun p => holdsSubResource r.qa p.2

def typeName (p : String × Schema) : String := subResourceName p.1 p.2

theorem firstOfName_eq_firstOf (taken : List String) (rs : List Resource) :
    (firstOfName taken rs).1 = firstOf (·.name) taken rs := by
  induction rs generalizing taken with
  | nil => rfl
  | cons s rs ih =>
    rw [firstOfName, firstOf]
    by_cases h : s.name ∈ taken
    · simp only [h, if_true, ih]
    · simp only [h, if_false, ih]

/-- The nested types are those of the properties that are the first of their type name. -/
theorem subResources_eq (r : Resource) :
    r.subResources = (firstOf typeName [] r.heldProperties).map (subResourceOf r.qa) := by
  rw [subResources, firstOfName_eq_firstOf, heldSubResources, firstOf_map]
  rfl

theorem ids_subResources (r : Resource) : r.subResources.map (·.id) =
    (firstOf typeName [] r.heldProperties).map fun p => some p.1 := by
  rw [subResources_eq, List.map_map]
  rfl

theorem ids_dependentResources (r : Resource) : r.dependentResources.map (·.id) =
    r.dependentProperties.map fun p => some p.1 := by
  rw [dependentResources, List.map_map]
  rfl

theorem mem_heldProperties_iff : p ∈ r.heldProperties ↔ p ∈ r.schema.propertyList ∧
    p.2.isOwnType = true ∧ p.2.isHidden r.qa = false := by
  simp only [heldProperties, List.mem_filter, holdsSubResource, Schema.isOwnType,
    Bool.and_eq_true, Bool.not_eq_true']

theorem mem_dependentProperties_iff : p ∈ r.dependentProperties ↔
    p ∈ r.schema.propertyList ∧ p.2.isForeignType = true := List.mem_filter

/-! ## Properties of distinct names -/

variable (hnames : (Assoc.names r.schema.propertyList).Nodup)
include hnames

/-- A property is known by its name. -/
theorem property_unique {q : String × Schema} (hp : p ∈ r.schema.propertyList)
    (hq : q ∈ r.schema.propertyList) (h : p.1 = q.1) : p = q :=
  List.inj_on_of_nodup_map hnames hp hq h

/-- An attribute of the name of a property is that property. -/
theorem isVisible_of_name (hp : p ∈ r.schema.propertyList) (ha : a ∈ r.visibleAttributes)
    (hname : a.name = p.1) : p.2.isVisible r.qa = true := by
  obtain ⟨q, hq, hvisible, rfl⟩ := mem_visibleAttributes_iff.1 ha
  rw [← property_unique hnames hq hp hname]
  exact hvisible

theorem count_dependentResources (hp : p ∈ r.dependentProperties) :
    (r.dependentResources.map (·.id)).count (some p.1) = 1 := by
  have hnodup : (Assoc.names r.dependentProperties).Nodup :=
    hnames.sublist (List.filter_sublist.map _)
  have hids : (r.dependentProperties.map fun p => some p.1).Nodup := by
    rw [Assoc.names] at hnodup
    have hsome := hnodup.map fun _ _ h => Option.some.inj h
    rw [List.map_map] at hsome
    exact hsome
  rw [ids_dependentResources]
  exact List.count_eq_one_of_mem hids (List.mem_map_of_mem hp)

/-- A reference is no nested type. -/
theorem not_mem_ids_subResources (hp : p ∈ r.dependentProperties) :
    some p.1 ∉ r.subResources.map (·.id) := by
  rw [ids_subResources]
  intro hmem
  obtain ⟨q, hq, hname⟩ := List.mem_map.1 hmem
  have hheld := mem_heldProperties_iff.1 (firstOf_sublist.subset hq)
  have hforeign := mem_dependentProperties_iff.1 hp
  obtain rfl := property_unique hnames hheld.1 hforeign.1 (Option.some.inj hname)
  have hown := hheld.2.1
  have href := hforeign.2
  simp only [Schema.isOwnType, Schema.isForeignType, Bool.and_eq_true, Bool.not_eq_true']
    at hown href
  exact Bool.false_ne_true (hown.2.symm.trans href.2)

theorem disjoint_dependents :
    List.Disjoint (r.singularDependents.map (·.id)) (r.listDependents.map (·.id)) := by
  rw [singularDependents, listDependents, List.map_map, List.map_map]
  intro id hleft hright
  obtain ⟨p, hp, rfl⟩ := List.mem_map.1 hleft
  obtain ⟨q, hq, hid⟩ := List.mem_map.1 hright
  obtain ⟨hp, hsingle⟩ := List.mem_filter.1 hp
  obtain ⟨hq, hlist⟩ := List.mem_filter.1 hq
  have hname : q.1 = p.1 := Option.some.inj hid
  obtain rfl := property_unique hnames (mem_dependentProperties_iff.1 hq).1
    (mem_dependentProperties_iff.1 hp).1 hname
  rw [hlist] at hsingle
  cases hsingle

omit hnames in
theorem dependents_perm (r : Resource) :
    (r.singularDependents ++ r.listDependents).Perm r.dependentResources := by
  rw [singularDependents, listDependents, dependentResources, ← List.map_append]
  refine List.Perm.map _ (List.perm_append_comm.trans ?_)
  exact List.filter_append_perm _ _

omit hnames in
/-- A visible nested type is the first of its type name or comes after a visible one that is. -/
theorem own_of_visible_first
    (hfirst : ∀ p ∈ firstOf typeName [] r.heldProperties, p.2.isVisible r.qa = true)
    (ha : a ∈ r.visibleAttributes) (hown : a.schema.isOwnType = true) :
    some a.name ∈ r.subResources.map (·.id) ∨
      ∃ b, [b, a].Sublist r.visibleAttributes ∧ b.schema.isOwnType = true ∧
        subResourceName b.name b.schema = subResourceName a.name a.schema := by
  obtain ⟨p, hp, hvisible, rfl⟩ := mem_visibleAttributes_iff.1 ha
  have hheld : p ∈ r.heldProperties :=
    mem_heldProperties_iff.2 ⟨hp, hown, Schema.not_isHidden_of_isVisible hvisible⟩
  rcases mem_firstOf_or_earlier typeName [] hheld with
    hseen | hkept | ⟨q, hq, hname, hsub⟩
  · cases hseen
  · rw [ids_subResources]
    exact .inl (List.mem_map_of_mem hkept)
  · refine .inr ⟨r.attributeOf q, ?_, ?_, hname⟩
    · have hproperties : [q, p].Sublist r.schema.propertyList := hsub.trans List.filter_sublist
      have hboth : [q, p].filter (fun p => p.2.isVisible r.qa) = [q, p] := by
        simp [hvisible, hfirst q hq]
      rw [visibleAttributes_eq]
      have hshown := hproperties.filter fun p => p.2.isVisible r.qa
      rw [hboth] at hshown
      exact hshown.map r.attributeOf
    · exact (mem_heldProperties_iff.1 (firstOf_sublist.subset hq)).2.1

/-- Visible properties are parted by what they hold. -/
theorem nestedViewsPartition_of_visible
    (hforeign : ∀ p ∈ r.dependentProperties, p.2.isVisible r.qa = true)
    (hfirst : ∀ p ∈ firstOf typeName [] r.heldProperties, p.2.isVisible r.qa = true) :
    r.NestedViewsPartition := by
  refine ⟨?_, ?_, fun a => own_of_visible_first hfirst, dependents_perm r,
    disjoint_dependents hnames⟩
  · intro s hs
    rcases List.mem_append.1 hs with hs | hs
    · rw [subResources_eq] at hs
      obtain ⟨p, hp, rfl⟩ := List.mem_map.1 hs
      have hheld := mem_heldProperties_iff.1 (firstOf_sublist.subset hp)
      exact ⟨r.attributeOf p,
        mem_visibleAttributes_iff.2 ⟨p, hheld.1, hfirst p hp, rfl⟩, rfl⟩
    · obtain ⟨p, hp, rfl⟩ := List.mem_map.1 hs
      exact ⟨r.attributeOf p, mem_visibleAttributes_iff.2
        ⟨p, (mem_dependentProperties_iff.1 hp).1, hforeign p hp, rfl⟩, rfl⟩
  · intro a ha href
    obtain ⟨p, hp, -, rfl⟩ := mem_visibleAttributes_iff.1 ha
    have hp : p ∈ r.dependentProperties := mem_dependentProperties_iff.2 ⟨hp, href⟩
    exact ⟨count_dependentResources hnames hp, not_mem_ids_subResources hnames hp⟩

/-- **When the nested views part the visible attributes.** They do exactly when each property that
is a reference is visible, and each that is the first of its type name among the nested types that
are not hidden themselves. -/
theorem nestedViewsPartition_iff : r.NestedViewsPartition ↔
    (∀ p ∈ r.dependentProperties, p.2.isVisible r.qa = true) ∧
      ∀ p ∈ firstOf typeName [] r.heldProperties, p.2.isVisible r.qa = true := by
  constructor
  · intro h
    constructor
    · intro p hp
      obtain ⟨a, ha, hid⟩ := h.visible (dependentOf r.qa p)
        (List.mem_append_right _ (List.mem_map_of_mem hp))
      exact isVisible_of_name hnames (mem_dependentProperties_iff.1 hp).1 ha
        (Option.some.inj hid).symm
    · intro p hp
      have hsub : subResourceOf r.qa p ∈ r.subResources := by
        rw [subResources_eq]
        exact List.mem_map_of_mem hp
      obtain ⟨a, ha, hid⟩ := h.visible _ (List.mem_append_left _ hsub)
      exact isVisible_of_name hnames (mem_heldProperties_iff.1 (firstOf_sublist.subset hp)).1 ha
        (Option.some.inj hid).symm
  · rintro ⟨hforeign, hfirst⟩
    exact nestedViewsPartition_of_visible hnames hforeign hfirst

omit hnames

/-- Where hidden content is exposed, the nested views of every resource part its attributes. -/
theorem nestedViewsPartition_of_exposed {config : GenerationConfig} {document : Entries}
    {spec : Spec} (h : (Spec.build config document).outcome = .ok spec)
    (hr : r ∈ spec.ownedResources) (hqa : r.qa = true) : r.NestedViewsPartition := by
  have hvisible (p : String × Schema) : p.2.isVisible r.qa = true := by
    rw [hqa, Schema.isVisible_of_qa]
  exact nestedViewsPartition_of_visible (Spec.nodup_names_of_build h hr)
    (fun p _ => hvisible p) fun p _ => hvisible p

/-! ## Listed and hidden -/

def placeSchema : Schema where
  type := some "object"
  properties := some [("city", { type := some "string" })]
  extensions := { isSubResource := true, subResourceName := some "Place" }

def hiddenReference : Schema where
  type := some "object"
  extensions := { isSubResource := true, isGlobalResourceReference := true, hiddenFromSdk := true }

/-- Two nested types of one name, a list of references, and a hidden nested type. -/
def traveller : Resource := .make "Traveller" {
  type := some "object"
  properties := some [
    ("home", placeSchema), ("work", placeSchema),
    ("friends", {
      type := some "array"
      items := some {
        type := some "object"
        extensions := { isSubResource := true, isGlobalResourceReference := true } } }),
    ("past", {
      type := some "object"
      extensions := {
        isSubResource := true, subResourceName := some "Past", hiddenFromSdk := true } })]
  } false []

theorem nestedViewsPartition_iff_traveller :
    (Assoc.names traveller.schema.propertyList).Nodup ∧ traveller.NestedViewsPartition ∧
      traveller.subResources.map (·.id) = [some "home"] ∧
      traveller.dependentResources.map (·.id) = [some "friends"] := by
  have hnames : (Assoc.names traveller.schema.propertyList).Nodup := by decide
  have hforeign : traveller.dependentProperties.all (fun p => p.2.isVisible false) = true := by cbv
  have hfirst : (firstOf typeName [] traveller.heldProperties).all
      (fun p => p.2.isVisible false) = true := by cbv
  refine ⟨hnames, ?_, ?_, ?_⟩
  · exact (nestedViewsPartition_iff hnames).2
      ⟨List.all_eq_true.1 hforeign, List.all_eq_true.1 hfirst⟩
  · cbv
  · rw [ids_dependentResources]
    cbv

/-- A resource whose only property is a hidden reference. -/
def discreet : Resource := .make "Thing" {
  type := some "object", properties := some [("owner", hiddenReference)] } false []

/-- What a hidden property refers to is listed. -/
theorem not_forall_nestedViewsPartition :
    ¬ ∀ r : Resource, (Assoc.names r.schema.propertyList).Nodup → r.NestedViewsPartition := by
  intro h
  have hlisted : discreet.dependentResources.map (·.id) = [some "owner"] := by
    rw [ids_dependentResources]
    cbv
  have hvisible : discreet.visibleAttributes = [] := by cbv
  obtain ⟨s, hs, -⟩ : ∃ s ∈ discreet.dependentResources, s.id = some "owner" := by
    rw [← List.mem_map, hlisted]
    exact List.mem_singleton_self _
  obtain ⟨a, ha, -⟩ := (h discreet (by decide)).visible s (List.mem_append_right _ hs)
  rw [hvisible] at ha
  cases ha

end Resource

end SdkModel
