import SdkModel.Proofs.Distinct
import SdkModel.Proofs.Order
import SdkModel.Proofs.Spec.Build

/-!
# Owners of resource ids

A resource id belongs to the first component schema that carries it (`Spec.owner?`). The resources
of a spec are made from the owners, one from each, so that no two of them have one id; third-party
owners are dropped, and their ids with them (`Spec.mem_allResources_iff`).
-/

namespace SdkModel.Spec

open Logged (bind_ok_iff)

variable {spec : Spec} {config : GenerationConfig} {document : Entries} {r r' : Resource}
variable {id : String} {p : String × Schema}

/-- The owner of a resource id: the first component schema that carries it. -/
def owner? (spec : Spec) (id : String) : Option (String × Schema) :=
  spec.schemas.find? fun p => p.2.extensions.resourceId = some id

/-- The resource of a component schema. -/
def resourceAt (spec : Spec) (p : String × Schema) : Resource := spec.resourceOf p.1 p.2

theorem resourceId_of_owner? (h : spec.owner? id = some p) :
    p.2.extensions.resourceId = some id := by
  have hfound := List.find?_some h
  exact of_decide_eq_true hfound

/-! ## First carriers -/

/-- The first carrier of an id is kept unless the id has an owner. -/
theorem firstCarriers_eq_firstOf (owners : List (String × String))
    (carriers : List (String × String × Schema)) :
    (firstCarriers owners carriers).1 = firstOf (·.1) (owners.map (·.1)) carriers := by
  induction carriers generalizing owners with
  | nil => rfl
  | cons c carriers ih =>
    obtain ⟨id, name, schema⟩ := c
    rw [firstCarriers, firstOf]
    cases howner : owners.lookup id with
    | some owner =>
      obtain ⟨before, after, rfl, -⟩ := List.lookup_eq_some_iff.1 howner
      rw [if_pos (by simp)]
      exact ih _
    | none =>
      have hnot : id ∉ owners.map (·.1) := by
        intro h
        obtain ⟨o, ho, hid⟩ := List.mem_map.1 h
        have hne := List.lookup_eq_none_iff.1 howner o ho
        rw [← hid, bne_self_eq_false] at hne
        cases hne
      rw [if_neg hnot]
      exact congrArg ((id, name, schema) :: ·) (ih ((id, name) :: owners))

/-- The carriers that are kept are the owners. -/
theorem mem_firstCarriers_iff :
    (id, p) ∈ (firstCarriers [] spec.carriers).1 ↔ spec.owner? id = some p := by
  have hcarries (p : String × Schema) :
      (p.2.extensions.resourceId.map fun i => (i, p)).any (fun c => decide (c.1 = id)) =
        decide (p.2.extensions.resourceId = some id) := by
    cases p.2.extensions.resourceId <;> simp
  rw [firstCarriers_eq_firstOf, List.map_nil, mem_firstOf_iff,
    and_iff_right List.not_mem_nil, carriers, List.find?_filterMap]
  simp only [hcarries]
  rw [← owner?, Option.bind_eq_some_iff]
  constructor
  · rintro ⟨q, hq, h⟩
    rw [resourceId_of_owner? hq] at h
    cases h
    exact hq
  · intro h
    refine ⟨p, h, ?_⟩
    rw [resourceId_of_owner? h]
    rfl

/-! ## Resources -/

/-- The owners of all ids, in document order. -/
def owners (spec : Spec) : List (String × Schema) := (firstCarriers [] spec.carriers).1.map (·.2)

/-- The owners are what the ids are looked up to. -/
theorem mem_owners_iff : p ∈ spec.owners ↔ ∃ id, spec.owner? id = some p := by
  rw [owners, List.mem_map]
  constructor
  · rintro ⟨⟨id, p⟩, hp, rfl⟩
    exact ⟨id, mem_firstCarriers_iff.1 hp⟩
  · rintro ⟨id, hp⟩
    exact ⟨(id, p), mem_firstCarriers_iff.2 hp, rfl⟩

/-- Owners are component schemas, in their order. -/
theorem owners_sublist (spec : Spec) : spec.owners.Sublist spec.schemas := by
  have hcarriers : (spec.carriers.map (·.2)).Sublist spec.schemas := by
    have hcarrier (p : String × Schema) :
        ((p.2.extensions.resourceId.map fun id => (id, p)).map fun c => c.2) =
          Option.guard (fun p => p.2.extensions.resourceId.isSome) p := by
      rw [Option.guard]
      cases p.2.extensions.resourceId <;> rfl
    rw [carriers, List.map_filterMap]
    simp only [hcarrier]
    rw [List.filterMap_eq_filter]
    exact List.filter_sublist
  rw [owners, firstCarriers_eq_firstOf]
  exact (firstOf_sublist.map _).trans hcarriers

theorem ownedResources_eq (spec : Spec) :
    spec.ownedResources = spec.owners.map spec.resourceAt := by
  rw [ownedResources, owners, List.map_map]
  rfl

theorem id_resourceAt (h : spec.owner? id = some p) : (spec.resourceAt p).id = some id :=
  resourceId_of_owner? h

theorem mem_ownedResources_iff :
    r ∈ spec.ownedResources ↔ ∃ id p, spec.owner? id = some p ∧ spec.resourceAt p = r := by
  rw [ownedResources_eq, List.mem_map]
  simp only [mem_owners_iff]
  constructor
  · rintro ⟨p, ⟨id, hp⟩, rfl⟩
    exact ⟨id, p, hp, rfl⟩
  · rintro ⟨id, p, hp, rfl⟩
    exact ⟨p, ⟨id, hp⟩, rfl⟩

theorem mem_allResources_iff : r ∈ spec.allResources ↔
    ∃ id p, spec.owner? id = some p ∧ p.2.isThirdParty spec.qa = false ∧
      spec.resourceAt p = r := by
  rw [allResources, (sortByName_perm _ _).mem_iff, List.mem_filter, mem_ownedResources_iff,
    Bool.not_eq_true']
  constructor
  · rintro ⟨⟨id, p, hp, rfl⟩, hthird⟩
    exact ⟨id, p, hp, hthird, rfl⟩
  · rintro ⟨id, p, hp, hthird, rfl⟩
    exact ⟨⟨id, p, hp, rfl⟩, hthird⟩

/-- A resource is made of the owner of an id that is neither that of a third party nor hidden. -/
theorem mem_resources_iff : r ∈ spec.resources ↔
    ∃ id p, spec.owner? id = some p ∧ p.2.isThirdParty spec.qa = false ∧
      p.2.isHidden spec.qa = false ∧ spec.resourceAt p = r := by
  rw [resources, List.mem_filter, mem_allResources_iff, Bool.not_eq_true']
  constructor
  · rintro ⟨⟨id, p, hp, hthird, rfl⟩, hhidden⟩
    exact ⟨id, p, hp, hthird, hhidden, rfl⟩
  · rintro ⟨id, p, hp, hthird, hhidden, rfl⟩
    exact ⟨⟨id, p, hp, hthird, rfl⟩, hhidden⟩

/-- No id has two owners. -/
theorem nodup_ids_ownedResources (spec : Spec) : (spec.ownedResources.map (·.id)).Nodup := by
  have hids : spec.ownedResources.map (·.id) =
      ((firstCarriers [] spec.carriers).1.map (·.1)).map some := by
    rw [ownedResources, List.map_map, List.map_map]
    refine List.map_congr_left fun c hc => ?_
    exact id_resourceAt (mem_firstCarriers_iff.1 hc)
  rw [hids, firstCarriers_eq_firstOf]
  exact nodup_keys_firstOf.map fun _ _ => Option.some.inj

/-- No two resources have one id. -/
theorem nodup_ids_allResources (spec : Spec) : (spec.allResources.map (·.id)).Nodup := by
  refine ((sortByName_perm _ _).map _).nodup_iff.2 ?_
  exact (nodup_ids_ownedResources spec).sublist (List.filter_sublist.map _)

theorem eq_of_id_eq (hr : r ∈ spec.allResources) (hr' : r' ∈ spec.allResources)
    (h : r.id = r'.id) : r = r' := List.inj_on_of_nodup_map (nodup_ids_allResources spec) hr hr' h

/-! ## Names -/

/-- The component schemas of a built spec have distinct names. -/
theorem nodup_schemas_of_build (h : (build config document).outcome = .ok spec) :
    (Assoc.names spec.schemas).Nodup := by
  obtain ⟨_, hschemas, -, -⟩ := parts_of_build h
  obtain ⟨_, -, h⟩ := bind_ok_iff.1 hschemas
  obtain ⟨_, -, h⟩ := bind_ok_iff.1 h
  obtain ⟨nodes, -, h⟩ := bind_ok_iff.1 h
  rw [← Except.ok.inj h]
  exact Assoc.nodup_names_ofPairs nodes

section Distinct

variable (hnames : (Assoc.names spec.schemas).Nodup)

include hnames

theorem nodup_names_owners : (Assoc.names spec.owners).Nodup :=
  hnames.sublist ((owners_sublist spec).map _)

/-- The resources are then known by their names. -/
theorem nodup_names_ownedResources : (spec.ownedResources.map (·.name)).Nodup := by
  rw [ownedResources_eq, List.map_map]
  exact nodup_names_owners hnames

/-- Where schemas have distinct names, resources do. -/
theorem nodup_names_resources : (spec.resources.map (·.name)).Nodup :=
  (nodup_sortByName ((nodup_names_ownedResources hnames).sublist
    (List.filter_sublist.map _))).sublist (List.filter_sublist.map _)

theorem eq_of_name_eq (hr : r ∈ spec.resources) (hr' : r' ∈ spec.resources)
    (h : r.name = r'.name) : r = r' :=
  List.inj_on_of_nodup_map (nodup_names_resources hnames) hr hr' h

end Distinct

end SdkModel.Spec
