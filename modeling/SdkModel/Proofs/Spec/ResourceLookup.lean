import SdkModel.Proofs.Spec.Owners
import SdkModel.Proofs.Spec.TwoResources

/-!
# Looking up resources

One pass over the resources by name serves both of their keys, the name and the id. No two names
are equal and no two ids, but an id may be the name of another resource, and then the one of the two
that comes first is found. So a resource is found by both of its keys just when it comes before
every resource that has one of them for its other key, and all resources are found by their keys
just when no id is the name of another resource (`Spec.foundByKeys_iff`).
-/

namespace SdkModel

open Logged (Quiet quiet_bind_iff)

theorem text_le_of_eq {s t : String} (h : s = t) : s ≤ t := h ▸ String.le_refl s

/-- In a list by distinct names, the first member with a property is the least one with it. -/
theorem find?_eq_some_iff_le {α : Type} {name : α → String} {xs : List α} {p : α → Bool} {a : α}
    (hsorted : xs.Pairwise fun a b => name a ≤ name b) (hnames : (xs.map name).Nodup) :
    xs.find? p = some a ↔ a ∈ xs ∧ p a = true ∧ ∀ b ∈ xs, p b = true → name a ≤ name b := by
  have hleast {a : α} (h : xs.find? p = some a) : ∀ b ∈ xs, p b = true → name a ≤ name b := by
    obtain ⟨-, before, after, rfl, hbefore⟩ := List.find?_eq_some_iff_append.1 h
    intro b hb hp
    rcases List.mem_append.1 hb with hmem | hmem
    · have hnot := hbefore b hmem
      rw [hp] at hnot
      cases hnot
    · rcases List.mem_cons.1 hmem with rfl | hmem
      · exact String.le_refl _
      · exact (List.pairwise_cons.1 (List.pairwise_append.1 hsorted).2.1).1 b hmem
  constructor
  · intro h
    exact ⟨List.mem_of_find?_eq_some h, List.find?_some h, hleast h⟩
  · rintro ⟨ha, hp, hfirst⟩
    obtain ⟨b, hb⟩ := Option.isSome_iff_exists.1 (List.find?_isSome.2 ⟨a, ha, hp⟩)
    have hmem := List.mem_of_find?_eq_some hb
    have hname := String.le_antisymm (hleast hb a ha hp) (hfirst b hmem (List.find?_some hb))
    rw [hb, List.inj_on_of_nodup_map hnames hmem ha hname]

/-- The resource has the key as its name or as its id. -/
def Resource.HasKey (r : Resource) (key : String) : Prop := r.name = key ∨ r.id = some key

namespace Spec

variable {config : GenerationConfig} {document : Entries} {spec : Spec} {r s : Resource}
variable {key id : String}

/-- A resource is found by its name and by its id. -/
structure FoundByKeys (spec : Spec) (r : Resource) : Prop where
  byName : spec.resource? r.name = some r
  byId : ∃ id, r.id = some id ∧ spec.resource? id = some r

/-- A resource comes before those that have its name for an id or its id for a name. -/
structure KeepsKeys (spec : Spec) (r : Resource) : Prop where
  name : ∀ s ∈ spec.allResources, s.id = some r.name → r.name ≤ s.name
  id : ∀ s ∈ spec.allResources, r.id = some s.name → r.name ≤ s.name

section Distinct

variable (hnames : (Assoc.names spec.schemas).Nodup)

include hnames

theorem nodup_names_allResources : (spec.allResources.map (·.name)).Nodup :=
  nodup_sortByName ((nodup_names_ownedResources hnames).sublist (List.filter_sublist.map _))

/-- The resource that a key finds: the first one by name that has it. -/
theorem resource?_eq_some_iff : spec.resource? key = some r ↔ r ∈ spec.allResources ∧
    r.HasKey key ∧ ∀ s ∈ spec.allResources, s.HasKey key → r.name ≤ s.name := by
  have hkey (r : Resource) :
      (decide (r.name = key) || decide (r.id = some key)) = true ↔ r.HasKey key := by
    rw [Bool.or_eq_true, decide_eq_true_eq, decide_eq_true_eq, Resource.HasKey]
  have hsorted : spec.allResources.Pairwise fun r s => r.name ≤ s.name := pairwise_sortByName _ _
  rw [resource?, find?_eq_some_iff_le hsorted (nodup_names_allResources hnames)]
  simp only [hkey]

theorem resource?_name_iff (hr : r ∈ spec.allResources) : spec.resource? r.name = some r ↔
    ∀ s ∈ spec.allResources, s.id = some r.name → r.name ≤ s.name := by
  rw [resource?_eq_some_iff hnames]
  constructor
  · rintro ⟨-, -, hfirst⟩ s hs hid
    exact hfirst s hs (.inr hid)
  · intro h
    refine ⟨hr, .inl rfl, fun s hs hkey => ?_⟩
    rcases hkey with hname | hid
    · exact text_le_of_eq hname.symm
    · exact h s hs hid

theorem resource?_id_iff (hr : r ∈ spec.allResources) (hid : r.id = some id) :
    spec.resource? id = some r ↔ ∀ s ∈ spec.allResources, s.name = id → r.name ≤ s.name := by
  rw [resource?_eq_some_iff hnames]
  constructor
  · rintro ⟨-, -, hfirst⟩ s hs hname
    exact hfirst s hs (.inl hname)
  · intro h
    refine ⟨hr, .inr hid, fun s hs hkey => ?_⟩
    rcases hkey with hname | hid'
    · exact h s hs hname
    · exact text_le_of_eq (congrArg (·.name) (eq_of_id_eq hr hs (hid.trans hid'.symm)))

theorem foundByKeys_iff_keepsKeys (hr : r ∈ spec.allResources) :
    spec.FoundByKeys r ↔ spec.KeepsKeys r := by
  obtain ⟨id, p, howner, -, hp⟩ := mem_allResources_iff.1 hr
  have hid : r.id = some id := hp ▸ id_resourceAt howner
  have hbyId := resource?_id_iff hnames hr hid
  constructor
  · rintro ⟨hname, id', hid', hfound⟩
    obtain rfl := Option.some.inj (hid.symm.trans hid')
    refine ⟨(resource?_name_iff hnames hr).1 hname, fun s hs hsid => ?_⟩
    exact hbyId.1 hfound s hs (Option.some.inj (hsid.symm.trans hid))
  · rintro ⟨hname, hother⟩
    refine ⟨(resource?_name_iff hnames hr).2 hname, id, hid, hbyId.2 fun s hs hsname => ?_⟩
    exact hother s hs (hid.trans (congrArg some hsname.symm))

/-- Where all resources keep their keys, none has the name of another one for its id. -/
theorem eq_of_id_eq_name (hall : ∀ r ∈ spec.allResources, spec.KeepsKeys r)
    (hr : r ∈ spec.allResources) (hs : s ∈ spec.allResources) (h : r.id = some s.name) : r = s := by
  have hle := (hall r hr).id s hs h
  have hge := (hall s hs).name r hr h
  have hname : r.name = s.name := String.le_antisymm hle hge
  exact List.inj_on_of_nodup_map (nodup_names_allResources hnames) hr hs hname

end Distinct

/-- **When resources are found by their keys.** Each one has to come before those that have one of
its keys for their other key; all of them are found just when no id is another one's name. -/
theorem foundByKeys_iff (h : (build config document).outcome = .ok spec) :
    (∀ r ∈ spec.allResources, spec.FoundByKeys r ↔ spec.KeepsKeys r) ∧
      ((∀ r ∈ spec.allResources, spec.FoundByKeys r) ↔
        ∀ r ∈ spec.allResources, ∀ s ∈ spec.allResources, r.id = some s.name → r = s) := by
  have hnames := nodup_schemas_of_build h
  have heach : ∀ r ∈ spec.allResources, spec.FoundByKeys r ↔ spec.KeepsKeys r :=
    fun r hr => foundByKeys_iff_keepsKeys hnames hr
  refine ⟨heach, fun hall r hr s hs hid => ?_, fun hall r hr => (heach r hr).2 ⟨?name, ?id⟩⟩
  · exact eq_of_id_eq_name hnames (fun r hr => (heach r hr).1 (hall r hr)) hr hs hid
  case name =>
    intro s hs hid
    exact text_le_of_eq (congrArg (·.name) (hall s hs r hr hid)).symm
  case id =>
    intro s hs hid
    exact text_le_of_eq (congrArg (·.name) (hall r hr s hs hid))

/-! ## An id that is the name of another resource -/

/-- The node of a resource that states nothing but its id. -/
def idEntries (id : String) : Entries := [(.text "x-cb-resource-id", .text id)]

def idSchema (id : String) : Schema where
  extensions := { resourceId := some id, declared := ["resource_id"] }

/-- Guides go by the id `Trip`, which is the name of another resource. -/
def crossedComponents : Entries :=
  [(.text "Guide", .object (idEntries "Trip")), (.text "Trip", .object (idEntries "trip"))]

def crossedSpec : Spec where
  document := documentOf [] crossedComponents
  config := {}
  version := {}
  schemas := [("Guide", idSchema "Trip"), ("Trip", idSchema "trip")]
  actions := []

theorem build_crossedComponents :
    (build {} (documentOf [] crossedComponents)).outcome = .ok crossedSpec := by
  have hnodes : Quiet (schemasOf {} crossedComponents)
      [("Guide", idSchema "Trip"), ("Trip", idSchema "trip")] :=
    quiet_bind_iff.2 ⟨_, Schema.quiet_leaf (by decide) rfl rfl, quiet_bind_iff.2 ⟨_,
      quiet_bind_iff.2 ⟨_, Schema.quiet_leaf (by decide) rfl rfl, rfl⟩, rfl⟩⟩
  exact build_documentOf rfl hnodes rfl

def crossedGuide : Resource := crossedSpec.resourceOf "Guide" (idSchema "Trip")

def crossedTrip : Resource := crossedSpec.resourceOf "Trip" (idSchema "trip")

theorem allResources_crossedSpec : crossedSpec.allResources = [crossedGuide, crossedTrip] := by
  cbv

/-- Guides come first, so that both of their keys find them. -/
theorem foundByKeys_crossedGuide :
    (build {} (documentOf [] crossedComponents)).outcome = .ok crossedSpec ∧
      crossedGuide ∈ crossedSpec.allResources ∧ crossedSpec.FoundByKeys crossedGuide := by
  have hmem : crossedGuide ∈ crossedSpec.allResources := by
    rw [allResources_crossedSpec]
    exact List.mem_cons_self
  refine ⟨build_crossedComponents, hmem, ((foundByKeys_iff build_crossedComponents).1 _ hmem).2 ?_⟩
  have hfirst : ∀ s ∈ crossedSpec.allResources, crossedGuide.name ≤ s.name := by
    rw [allResources_crossedSpec]
    decide
  exact ⟨fun s hs _ => hfirst s hs, fun s hs _ => hfirst s hs⟩

/-- Not every resource is found by its keys: the name of trips finds guides. -/
theorem not_forall_foundByKeys :
    ¬ ∀ (config : GenerationConfig) (document : Entries) (spec : Spec),
      (build config document).outcome = .ok spec →
        ∀ r ∈ spec.allResources, spec.FoundByKeys r := by
  intro h
  have hmem : crossedTrip ∈ crossedSpec.allResources := by
    rw [allResources_crossedSpec]
    exact List.mem_cons_of_mem _ List.mem_cons_self
  have hfound : crossedSpec.resource? "Trip" = some crossedTrip :=
    (h {} _ _ build_crossedComponents _ hmem).byName
  have hguide : crossedSpec.resource? "Trip" = some crossedGuide := by
    rw [resource?, allResources_crossedSpec]
    rfl
  have heq : crossedGuide = crossedTrip := Option.some.inj (hguide.symm.trans hfound)
  exact absurd (congrArg Resource.name heq) (by decide)

end Spec

end SdkModel
