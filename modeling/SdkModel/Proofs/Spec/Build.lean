import Mathlib.Data.List.Nodup
import SdkModel.Proofs.Schema.RedactedNode
import SdkModel.Spec.Basic

/-!
# Built specs

A spec is made of the component schemas and the operations of the resolved document
(`Spec.parts_of_build`). The properties of a node are kept by name, the last of a name in the place
of the first, so that every schema that is built has properties of distinct names, and with it
every resource of a spec (`Spec.nodup_names_of_build`).
-/

namespace SdkModel

open Logged (bind_ok_iff)

namespace Assoc

variable {α : Type} {xs : List (String × α)} {x : String × α} {name n : String} {a : α}

theorem mem_names_put : n ∈ names (put xs name a) ↔ n = name ∨ n ∈ names xs := by
  induction xs with
  | nil => simp [put, names]
  | cons x rest ih =>
    rw [put]
    by_cases h : x.1 = name
    · simp [names, h]
    · simp only [names, if_neg h, List.map_cons, List.mem_cons] at ih ⊢
      rw [ih, or_left_comm]

theorem nodup_names_put (h : (names xs).Nodup) : (names (put xs name a)).Nodup := by
  induction xs with
  | nil => exact List.nodup_singleton _
  | cons x rest ih =>
    obtain ⟨hx, hrest⟩ := List.nodup_cons.1 h
    rw [put]
    by_cases hname : x.1 = name
    · rw [if_pos hname]
      exact List.nodup_cons.2 ⟨hname ▸ hx, hrest⟩
    · rw [if_neg hname]
      refine List.nodup_cons.2 ⟨fun hmem => ?_, ih hrest⟩
      exact (mem_names_put.1 hmem).elim hname hx

theorem nodup_names_ofPairs (ps : List (String × α)) : (names (ofPairs ps)).Nodup := by
  have hfold (xs : List (String × α)) (h : (names xs).Nodup) :
      (names (ps.foldl (fun xs p => put xs p.1 p.2) xs)).Nodup := by
    induction ps generalizing xs with
    | nil => exact h
    | cons p ps ih => exact ih _ (nodup_names_put h)
  exact hfold [] List.nodup_nil

theorem eq_or_mem_of_mem_put (h : x ∈ put xs name a) : x = (name, a) ∨ x ∈ xs := by
  induction xs with
  | nil => exact .inl (List.mem_singleton.1 h)
  | cons y rest ih =>
    rw [put] at h
    split at h <;> rcases List.mem_cons.1 h with rfl | h
    · exact .inl rfl
    · exact .inr (List.mem_cons_of_mem y h)
    · exact .inr List.mem_cons_self
    · exact (ih h).imp_right (List.mem_cons_of_mem y)

/-- What is kept by name was one of the pairs. -/
theorem mem_of_mem_ofPairs {ps : List (String × α)} (h : x ∈ ofPairs ps) : x ∈ ps := by
  have hfold (qs xs : List (String × α))
      (h : x ∈ qs.foldl (fun xs p => put xs p.1 p.2) xs) : x ∈ xs ∨ x ∈ qs := by
    induction qs generalizing xs with
    | nil => exact .inl h
    | cons q qs ih =>
      rcases ih _ h with h | h
      · exact (eq_or_mem_of_mem_put h).symm.imp_right fun h => List.mem_cons.2 (.inl h)
      · exact .inr (List.mem_cons_of_mem q h)
  exact (hfold ps [] h).resolve_left List.not_mem_nil

end Assoc

theorem Value.optionalEntries_ok {v : Value} {es : Entries} (h : v.optionalEntries = .ok es) :
    es = v.entries?.getD [] := by
  cases v with
  | object fs =>
    cases fs with
    | nil => exact (Except.ok.inj h).symm
    | cons f fs => exact (Except.ok.inj h).symm
  | _ =>
    unfold Value.optionalEntries at h
    split at h
    · cases h
    · exact (Except.ok.inj h).symm

theorem Schema.nodup_names_of_ofEntries {rules : SchemaRules} {depth : Nat} {place : String}
    {es : Entries} {s : Schema} (h : (ofEntries rules depth place es).outcome = .ok s) :
    (Assoc.names s.propertyList).Nodup := by
  obtain ⟨properties, _, _, hproperties, -, -, rfl⟩ := parts_of_ofEntries h
  change (Assoc.names (properties.getD [])).Nodup
  cases hmap : es.get "properties" <;> rw [hmap] at hproperties
  case object ps =>
    obtain ⟨qs, -, rfl⟩ := Logged.map_ok_iff.1 hproperties
    exact Assoc.nodup_names_ofPairs qs
  all_goals
    obtain rfl := Except.ok.inj hproperties
    exact List.nodup_nil

namespace Spec

variable {rules : SchemaRules} {config : GenerationConfig} {document components : Entries}
variable {schemas : List (String × Schema)} {spec : Spec} {r : Resource} {p : String × Schema}

theorem nodup_names_of_schemasOf (h : (schemasOf rules components).outcome = .ok schemas)
    (hp : p ∈ schemas) : (Assoc.names p.2.propertyList).Nodup := by
  induction components generalizing schemas with
  | nil =>
    cases h
    cases hp
  | cons e components ih =>
    obtain ⟨k, v⟩ := e
    cases v with
    | object es =>
      obtain ⟨node, hnode, h⟩ := bind_ok_iff.1 h
      obtain ⟨others, hothers, h⟩ := bind_ok_iff.1 h
      cases h
      rcases List.mem_cons.1 hp with rfl | hp
      · exact Schema.nodup_names_of_ofEntries hnode
      · exact ih hothers hp
    | _ => exact ih h hp

theorem nodup_names_of_buildSchemas (h : (buildSchemas rules document).outcome = .ok schemas)
    (hp : p ∈ schemas) : (Assoc.names p.2.propertyList).Nodup := by
  obtain ⟨_, -, h⟩ := bind_ok_iff.1 h
  obtain ⟨_, -, h⟩ := bind_ok_iff.1 h
  obtain ⟨nodes, hnodes, h⟩ := bind_ok_iff.1 h
  cases h
  exact nodup_names_of_schemasOf hnodes (Assoc.mem_of_mem_ofPairs hp)

theorem mem_of_mem_firstCarriers {owners : List (String × String)}
    {carriers : List (String × String × Schema)} {c : String × String × Schema}
    (h : c ∈ (firstCarriers owners carriers).1) : c ∈ carriers := by
  induction carriers generalizing owners with
  | nil => cases h
  | cons d carriers ih =>
    obtain ⟨id, name, schema⟩ := d
    rw [firstCarriers] at h
    cases howner : owners.lookup id with
    | some owner =>
      rw [howner] at h
      exact List.mem_cons_of_mem _ (ih h)
    | none =>
      rw [howner] at h
      exact (List.mem_cons.1 h).elim (fun h => List.mem_cons.2 (.inl h))
        fun h => List.mem_cons_of_mem _ (ih h)

/-- The schema of a resource is one of the components. -/
theorem mem_schemas_of_mem_ownedResources (h : r ∈ spec.ownedResources) :
    (r.name, r.schema) ∈ spec.schemas := by
  obtain ⟨c, hc, rfl⟩ := List.mem_map.1 h
  obtain ⟨p, hp, hcarrier⟩ := List.mem_filterMap.1 (mem_of_mem_firstCarriers hc)
  obtain ⟨id, -, rfl⟩ := Option.map_eq_some_iff.1 hcarrier
  exact hp

/-- The references of a document are inlined before anything is built. -/
theorem resolved_of_build (h : (build config document).outcome = .ok spec) :
    ∃ resolved, (Reference.resolve (.object document)).outcome = .ok (.object resolved) ∧
      (ofResolved config resolved).outcome = .ok spec := by
  obtain ⟨_, -, h⟩ := bind_ok_iff.1 h
  obtain ⟨resolved, hresolved, h⟩ := bind_ok_iff.1 h
  obtain ⟨entries, hentries, h⟩ := bind_ok_iff.1 h
  cases resolved with
  | object es =>
    cases hentries
    exact ⟨_, hresolved, h⟩
  | _ => cases hentries

/-- What a built spec is made of. -/
theorem parts_of_build (h : (build config document).outcome = .ok spec) :
    ∃ resolved, (buildSchemas (rulesOf config).schemas resolved).outcome = .ok spec.schemas ∧
      (buildActions (rulesOf config) resolved).outcome = .ok spec.actions ∧
      spec.config = config := by
  obtain ⟨resolved, -, h⟩ := resolved_of_build h
  obtain ⟨_, -, h⟩ := bind_ok_iff.1 h
  obtain ⟨schemas, hschemas, h⟩ := bind_ok_iff.1 h
  obtain ⟨actions, hactions, h⟩ := bind_ok_iff.1 h
  cases h
  exact ⟨resolved, hschemas, hactions, rfl⟩

/-- **Every resource of a built spec has properties of distinct names.** -/
theorem nodup_names_of_build (h : (build config document).outcome = .ok spec)
    (hr : r ∈ spec.ownedResources) : (Assoc.names r.schema.propertyList).Nodup := by
  obtain ⟨_, hschemas, -, -⟩ := parts_of_build h
  exact nodup_names_of_buildSchemas hschemas (mem_schemas_of_mem_ownedResources hr)

end Spec

end SdkModel
