import SdkModel.Backend.Basic
import SdkModel.Proofs.Reference.Inline
import SdkModel.Proofs.Resource.Redaction
import SdkModel.Proofs.Spec.Build

/-!
# Redacted documents

The redaction of a document redacts the nodes of its component schemas. Documents of one redaction
that hold no references are built into specs of one redaction (`redact_eq_of_build`), and so the
resources and the enums that are shaped are of one redaction as well.
-/

namespace SdkModel

open Logged (bind_ok_iff)

/-! ## Documents -/

namespace Entries

/-- The entries with the values under a key changed. -/
def change (es : Entries) (name : String) (f : Value → Value) : Entries :=
  es.map fun e => (e.1, if e.1.same (.text name) then f e.2 else e.2)

theorem get_change {f : Value → Value} (hnull : f .null = .null) (es : Entries)
    (name other : String) :
    (es.change name f).get other = if other = name then f (es.get other) else es.get other := by
  induction es with
  | nil =>
    rw [change, List.map_nil, get, get?, List.find?_nil, Option.map_none, Option.getD_none, hnull,
      ite_self]
  | cons e es ih =>
    rw [change, List.map_cons, get, get, get?_cons, get?_cons]
    by_cases hk : e.1.same (.text other) = true
    · rw [if_pos hk, if_pos hk, Key.same_congr hk, Key.same_text, Option.getD_some,
        Option.getD_some]
      simp only [decide_eq_true_eq]
    · rw [if_neg hk, if_neg hk]
      exact ih

end Entries

/-- The value with its entries changed when it is an object. -/
def Value.onEntries (f : Entries → Entries) : Value → Value
  | .object es => .object (f es)
  | v => v

/-- A change that keeps an empty object empty and no other keeps what counts as no object. -/
theorem Value.optionalEntries_onEntries {f : Entries → Entries}
    (hf : ∀ es, (f es).isEmpty = es.isEmpty) (v : Value) :
    (v.onEntries f).optionalEntries = v.optionalEntries.map f := by
  have htelling : (v.onEntries f).isTelling = v.isTelling := by
    cases v with
    | object es => rw [onEntries, isTelling, isTelling, hf]
    | _ => rfl
  have hrequire : (v.onEntries f).requireEntries = v.requireEntries.map f := by
    cases v <;> rfl
  have hempty : Except.map f (.ok [] : Checked Entries) = .ok [] := by
    rw [Except.map, List.isEmpty_iff.1 (hf [])]
  rw [optionalEntries, optionalEntries, htelling, hrequire]
  split
  · rfl
  · exact hempty.symm

/-- The component schemas, each redacted. -/
def redactSchemas (schemas : Entries) : Entries := schemas.map fun e => (e.1, e.2.redactNode)

def redactComponents (components : Entries) : Entries :=
  components.change "schemas" (Value.onEntries redactSchemas)

/-- The document with nothing left of the hidden properties of its component schemas. -/
def redactDocument (document : Entries) : Entries :=
  document.change "components" (Value.onEntries redactComponents)

variable {document document' : Entries}

/-- Redaction changes nothing but the components of a document. -/
theorem get_redactDocument {name : String} (h : name ≠ "components") (document : Entries) :
    (redactDocument document).get name = document.get name := by
  rw [redactDocument, Entries.get_change rfl, if_neg h]

/-- Documents of one redaction differ in their components only. -/
theorem get_eq_of_redactDocument (h : redactDocument document = redactDocument document')
    {name : String} (hname : name ≠ "components") : document.get name = document'.get name := by
  rw [← get_redactDocument hname, h, get_redactDocument hname]

/-- The component schemas that are made, those of the redacted document redacted. -/
theorem optionalEntries_redactDocument (document : Entries) :
    ((redactDocument document).get "components").optionalEntries =
      (document.get "components").optionalEntries.map redactComponents := by
  rw [redactDocument, Entries.get_change rfl, if_pos rfl]
  exact Value.optionalEntries_onEntries (fun es => List.isEmpty_map) _

theorem optionalEntries_redactComponents (components : Entries) :
    ((redactComponents components).get "schemas").optionalEntries =
      (components.get "schemas").optionalEntries.map redactSchemas := by
  rw [redactComponents, Entries.get_change rfl, if_pos rfl]
  exact Value.optionalEntries_onEntries (fun es => List.isEmpty_map) _

/-! ## Specs -/

namespace Spec

/-- The spec with nothing left of the hidden properties of its schemas. -/
def redact (spec : Spec) : Spec :=
  { spec with
    document := redactDocument spec.document
    schemas := spec.schemas.map fun p => (p.1, p.2.redact) }

variable {rules : SchemaRules} {config : GenerationConfig} {spec spec' : Spec}
variable {nodes nodes' schemas schemas' : List (String × Schema)}

/-- Component schemas of one redaction are built into nodes of one redaction. -/
theorem map_redact_of_schemasOf {ss ts : Entries}
    (h : redactSchemas ss = redactSchemas ts)
    (hs : (schemasOf rules ss).outcome = .ok nodes)
    (ht : (schemasOf rules ts).outcome = .ok nodes') :
    (nodes.map fun p => (p.1, p.2.redact)) = nodes'.map fun p => (p.1, p.2.redact) := by
  induction ss generalizing ts nodes nodes' with
  | nil =>
    cases ts with
    | nil =>
      cases hs
      cases ht
      rfl
    | cons t ts => cases h
  | cons s ss ih =>
    cases ts with
    | nil => cases h
    | cons t ts =>
      obtain ⟨k, v⟩ := s
      obtain ⟨j, w⟩ := t
      simp only [redactSchemas, List.map_cons, List.cons.injEq, Prod.mk.injEq] at h
      obtain ⟨⟨rfl, hvw⟩, hrest⟩ := h
      cases v with
      | object es =>
        cases w with
        | object fs =>
          obtain ⟨node, hnode, hs⟩ := bind_ok_iff.1 hs
          obtain ⟨others, hothers, hs⟩ := bind_ok_iff.1 hs
          obtain ⟨node', hnode', ht⟩ := bind_ok_iff.1 ht
          obtain ⟨others', hothers', ht⟩ := bind_ok_iff.1 ht
          cases hs
          cases ht
          have hredact := Schema.redact_eq_of_ofEntries (Value.object.inj hvw) hnode hnode'
          rw [List.map_cons, List.map_cons, hredact, ih hrest hothers hothers']
        | _ => cases hvw
      | _ =>
        cases w with
        | object fs => cases hvw
        | _ => exact ih hrest hs ht

/-- Documents that are the same when redacted have the same redacted schemas. -/
theorem map_redact_of_buildSchemas (h : redactDocument document = redactDocument document')
    (hs : (buildSchemas rules document).outcome = .ok schemas)
    (ht : (buildSchemas rules document').outcome = .ok schemas') :
    (schemas.map fun p => (p.1, p.2.redact)) = schemas'.map fun p => (p.1, p.2.redact) := by
  obtain ⟨components, hcomponents, hs⟩ := bind_ok_iff.1 hs
  obtain ⟨named, hnamed, hs⟩ := bind_ok_iff.1 hs
  obtain ⟨nodes, hnodes, hs⟩ := bind_ok_iff.1 hs
  obtain ⟨components', hcomponents', ht⟩ := bind_ok_iff.1 ht
  obtain ⟨named', hnamed', ht⟩ := bind_ok_iff.1 ht
  obtain ⟨nodes', hnodes', ht⟩ := bind_ok_iff.1 ht
  cases hs
  cases ht
  have hredacted : redactComponents components = redactComponents components' := by
    have hget := congrArg (fun d => (Entries.get d "components").optionalEntries) h
    simp only [optionalEntries_redactDocument] at hget
    rw [show (document.get "components").optionalEntries = .ok components from hcomponents,
      show (document'.get "components").optionalEntries = .ok components' from hcomponents'] at hget
    exact Except.ok.inj hget
  have hnamed : redactSchemas named = redactSchemas named' := by
    have hget := congrArg (fun c => (Entries.get c "schemas").optionalEntries) hredacted
    simp only [optionalEntries_redactComponents] at hget
    rw [show (components.get "schemas").optionalEntries = .ok named from hnamed,
      show (components'.get "schemas").optionalEntries = .ok named' from hnamed'] at hget
    exact Except.ok.inj hget
  have hmap := map_redact_of_schemasOf hnamed hnodes hnodes'
  rw [← Assoc.ofPairs_map Schema.redact, hmap, Assoc.ofPairs_map]

/-- A document without references is built as it stands. -/
theorem ofResolved_of_build (hfree : (Value.object document).references = [])
    (h : (build config document).outcome = .ok spec) :
    (ofResolved config document).outcome = .ok spec := by
  obtain ⟨resolved, hresolved, h⟩ := resolved_of_build h
  rw [Reference.resolve_of_references hfree] at hresolved
  cases hresolved
  exact h

theorem config_of_build (h : (build config document).outcome = .ok spec) :
    spec.config = config := by
  obtain ⟨_, -, -, hconfig⟩ := parts_of_build h
  exact hconfig

/-- **Documents of one redaction are built into specs of one redaction.** -/
theorem redact_eq_of_build (hfree : (Value.object document).references = [])
    (hfree' : (Value.object document').references = [])
    (h : redactDocument document = redactDocument document')
    (hs : (build config document).outcome = .ok spec)
    (ht : (build config document').outcome = .ok spec') : spec.redact = spec'.redact := by
  have hs := ofResolved_of_build hfree hs
  have ht := ofResolved_of_build hfree' ht
  obtain ⟨version, hversion, hs⟩ := bind_ok_iff.1 hs
  obtain ⟨schemas, hschemas, hs⟩ := bind_ok_iff.1 hs
  obtain ⟨actions, hactions, hs⟩ := bind_ok_iff.1 hs
  obtain ⟨version', hversion', ht⟩ := bind_ok_iff.1 ht
  obtain ⟨schemas', hschemas', ht⟩ := bind_ok_iff.1 ht
  obtain ⟨actions', hactions', ht⟩ := bind_ok_iff.1 ht
  cases hs
  cases ht
  rw [get_eq_of_redactDocument h (by decide), hversion'] at hversion
  rw [buildActions, get_eq_of_redactDocument h (by decide)] at hactions
  cases hversion
  cases hactions.symm.trans hactions'
  rw [redact, redact, h, map_redact_of_buildSchemas h hschemas hschemas']

/-! ## Resources of a spec -/

theorem carriers_redact (spec : Spec) :
    spec.redact.carriers = spec.carriers.map fun c => (c.1, c.2.1, c.2.2.redact) := by
  rw [carriers, carriers, redact, List.filterMap_map, List.map_filterMap]
  refine congrArg (spec.schemas.filterMap ·) (funext fun p => ?_)
  rw [Function.comp_apply, Schema.redact_extensions, Option.map_map]
  rfl

theorem firstCarriers_map (owners : List (String × String))
    (carriers : List (String × String × Schema)) :
    (firstCarriers owners (carriers.map fun c => (c.1, c.2.1, c.2.2.redact))).1 =
      (firstCarriers owners carriers).1.map fun c => (c.1, c.2.1, c.2.2.redact) := by
  induction carriers generalizing owners with
  | nil => rfl
  | cons c carriers ih =>
    obtain ⟨id, name, schema⟩ := c
    rw [List.map_cons, firstCarriers, firstCarriers]
    cases owners.lookup id with
    | some owner => exact ih owners
    | none => exact congrArg ((id, name, schema.redact) :: ·) (ih ((id, name) :: owners))

theorem resourceOf_redact (spec : Spec) (name : String) (schema : Schema) :
    spec.redact.resourceOf name schema.redact = (spec.resourceOf name schema).redact := by
  rw [resourceOf, resourceOf, Schema.redact_extensions, Resource.make, Resource.make,
    Schema.redact_extensions]
  rfl

theorem ownedResources_redact (spec : Spec) :
    spec.redact.ownedResources = spec.ownedResources.map Resource.redact := by
  rw [ownedResources, ownedResources, carriers_redact, firstCarriers_map, List.map_map,
    List.map_map]
  exact List.map_congr_left fun c _ => resourceOf_redact spec c.2.1 c.2.2

theorem resources_redact (spec : Spec) :
    spec.redact.resources = spec.resources.map Resource.redact := by
  rw [resources, resources, allResources, allResources, ownedResources_redact, List.filter_map,
    sortByName_map, List.filter_map]
  simp only [Function.comp_def, Resource.isThirdParty, Resource.isHidden, Schema.isThirdParty,
    Resource.redact_schema, Resource.redact_qa, Resource.redact_name, Schema.isHidden_redact,
    Schema.redact_extensions]

theorem qa_of_mem_resources {r : Resource} (h : r ∈ spec.resources) :
    r.qa = spec.config.qaMode := by
  have howned := (List.mem_filter.1 ((sortByName_perm _ _).mem_iff.1 (List.mem_filter.1 h).1)).1
  obtain ⟨c, -, rfl⟩ := List.mem_map.1 howned
  rfl

theorem globalEnums_redact (spec : Spec) :
    spec.redact.globalEnums = spec.globalEnums.map Enum.redact := by
  rw [globalEnums, globalEnums, redact, List.filter_map, List.map_map, List.map_map]
  simp only [Function.comp_def, Schema.shape_redact, Schema.redact_enum]
  rfl

end Spec

namespace Backend

variable (b : Backend) (config : GenerationConfig)

/-- The resources that are shaped, each redacted. -/
theorem resources_redact (spec : Spec) :
    b.resources config spec.redact = (b.resources config spec).map Resource.redact := by
  rw [resources, resources, Spec.resources_redact, List.filter_map, sortByOrder_map]
  simp only [Function.comp_def, Resource.sortOrder_redact, isOverridden, Resource.redact_id]

theorem qa_of_mem_resources {spec : Spec} {r : Resource} (h : r ∈ b.resources config spec) :
    r.qa = spec.config.qaMode :=
  Spec.qa_of_mem_resources (List.mem_filter.1 (mem_sortByOrder.1 h)).1

end Backend

end SdkModel
