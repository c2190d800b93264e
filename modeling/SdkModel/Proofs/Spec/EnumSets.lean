import SdkModel.Proofs.Distinct
import SdkModel.Spec.EnumSets

/-!
# Declared enums

Dropping duplicates drops no name, so the names of the enums that are generated for a resource are
those that its attributes, their fields and the inputs of actions declare
(`mem_names_generatedEnums`).
-/

namespace SdkModel

namespace Enum

variable {es : List Enum} {n : String}

/-! ## Names -/

theorem firstOfName_eq (taken : List String) (es : List Enum) :
    firstOfName taken es = firstOf (·.name) taken es := by
  induction es generalizing taken with
  | nil => rfl
  | cons e es ih => simp only [firstOfName, firstOf, ih]

theorem firstOfSignature_eq (seen : List (String × List String)) (es : List Enum) :
    firstOfSignature seen es = firstOf signature seen es := by
  induction es generalizing seen with
  | nil => rfl
  | cons e es ih =>
    rw [firstOfSignature, firstOf, ih, ih]
    by_cases h : e.signature ∈ seen
    · rw [if_pos h, if_pos h]
    · rw [if_neg h, if_neg h]

theorem mem_names_dedupe : n ∈ (dedupe es).map (·.name) ↔ n ∈ es.map (·.name) := by
  rw [dedupe, firstOfName_eq]
  exact mem_keys_firstOf_nil

/-- Enums of one signature have one name, so that no name is lost with a signature. -/
theorem mem_names_firstOfSignature :
    n ∈ (firstOfSignature [] es).map (·.name) ↔ n ∈ es.map (·.name) := by
  have hfst : (·.name) = Prod.fst ∘ signature := rfl
  rw [hfst, ← List.map_map, ← List.map_map, firstOfSignature_eq, List.mem_map, List.mem_map]
  simp only [mem_keys_firstOf_nil]

end Enum

namespace Resource

variable {r : Resource} {resources : List Resource} {n : String}

/-! ## Declarations -/

/-- The enum names that a document declares for a resource among those that are generated. -/
inductive DeclaresEnum (r : Resource) (resources : List Resource) : String → Prop where
  /-- An attribute declares an enum inline. -/
  | own {a : Attribute} (ha : a ∈ r.visibleAttributes) (hlocal : a.isLocalEnum = true) :
    DeclaresEnum r resources a.name
  /-- A field of an attribute does, and the enum is not generated elsewhere. -/
  | field {a f : Attribute} (ha : a ∈ r.visibleAttributes) (hf : f ∈ a.nested)
    (hlocal : f.isLocalEnum = true) (hexternal : f.isExternalEnum = false) :
    DeclaresEnum r resources (a.nestedEnumName f)
  /-- A field of an object input does, which no attribute of the resource that is called stands
  for, and its model is this resource, which has no attribute of the name of the field. -/
  | input {scanned owner : Resource} {action : Action} {holder f : Attribute}
    (hscanned : scanned ∈ resources) (haction : action ∈ scanned.sortedActions)
    (hholder : holder ∈ action.inputs) (hobject : holder.isEnumHolder = true)
    (hf : f ∈ holder.nested) (hlocal : f.isLocalEnum = true)
    (hcurrent : f.traits.isDeprecated = false) (hnew : scanned.hasAttribute holder.name = false)
    (howner : (resources.filter (·.name = holder.ownerName f)).getLast? = some owner)
    (hname : owner.name = r.name) (hfree : owner.hasAttribute f.name = false) :
    DeclaresEnum r resources (holder.inputEnumName f)

/-- A name with an underscore in it is not empty. -/
theorem enumNamed_joined {a : Attribute} {base : String} :
    a.enumNamed (base ++ "_" ++ n) = ⟨base ++ "_" ++ n, a.schema⟩ := by
  have hne : base ++ "_" ++ n ≠ "" := by
    intro h
    have hlength := congrArg String.length h
    simp only [String.length_append] at hlength
    exact absurd hlength (by simp)
  rw [Attribute.enumNamed, if_neg hne]

theorem enumNamed_nested (a f : Attribute) :
    f.enumNamed (a.nestedEnumName f) = ⟨a.nestedEnumName f, f.schema⟩ := by
  unfold Attribute.nestedEnumName
  exact enumNamed_joined

theorem enumNamed_input (holder f : Attribute) :
    f.enumNamed (holder.inputEnumName f) = ⟨holder.inputEnumName f, f.schema⟩ := by
  unfold Attribute.inputEnumName
  exact enumNamed_joined

theorem name_nestedEnum (a f : Attribute) :
    (f.enumNamed (a.nestedEnumName f)).name = a.nestedEnumName f := by
  rw [enumNamed_nested]

theorem name_inputEnum (holder f : Attribute) :
    (f.enumNamed (holder.inputEnumName f)).name = holder.inputEnumName f := by
  rw [enumNamed_input]

/-- The inline enums of a resource and those of the fields of its attributes. -/
theorem mem_names_localCandidates : n ∈ r.localCandidates.map (·.name) ↔
    (∃ a ∈ r.visibleAttributes, a.isLocalEnum = true ∧ a.name = n) ∨
      ∃ a ∈ r.visibleAttributes, ∃ f ∈ a.nested,
        (f.isLocalEnum = true ∧ f.isExternalEnum = false) ∧ a.nestedEnumName f = n := by
  rw [localCandidates, List.map_append, List.mem_append]
  refine or_congr ?_ ?_
  · simp only [enums, List.map_map, List.mem_map, List.mem_filter, and_assoc]
    rfl
  · simp only [nestedEnums, List.mem_map, List.mem_flatMap, List.mem_filter, Bool.and_eq_true,
      Bool.not_eq_true']
    constructor
    · rintro ⟨_, ⟨a, ha, f, ⟨hf, hlocal⟩, rfl⟩, rfl⟩
      exact ⟨a, ha, f, hf, hlocal, (name_nestedEnum a f).symm⟩
    · rintro ⟨a, ha, f, hf, hlocal, rfl⟩
      exact ⟨_, ⟨a, ha, f, ⟨hf, hlocal⟩, rfl⟩, name_nestedEnum a f⟩

theorem schemalessEnum?_eq_some_iff {scanned : Resource} {holder f : Attribute} {e : Enum} :
    r.schemalessEnum? resources scanned holder f = some e ↔
      (f.isLocalEnum = true ∧ f.traits.isDeprecated = false ∧
        scanned.hasAttribute holder.name = false) ∧
      (∃ owner, (resources.filter (·.name = holder.ownerName f)).getLast? = some owner ∧
        owner.hasAttribute f.name = false ∧ owner.name = r.name) ∧
      f.enumNamed (holder.inputEnumName f) = e := by
  unfold schemalessEnum?
  simp only
  split
  · rename_i hskip
    refine iff_of_false nofun ?_
    rintro ⟨⟨hlocal, hcurrent, hnew⟩, -⟩
    simp [hlocal, hcurrent, hnew] at hskip
  · rename_i hscan
    simp only [Bool.or_eq_true, Bool.not_eq_true', not_or, Bool.not_eq_true,
      Bool.not_eq_false] at hscan
    rw [and_iff_right ⟨hscan.1.1, hscan.1.2, hscan.2⟩]
    cases (resources.filter (·.name = holder.ownerName f)).getLast? with
    | none => simp
    | some owner =>
      by_cases hattribute : owner.hasAttribute f.name = true
      · simp [hattribute]
      · by_cases hname : owner.name = r.name
        · simp [hattribute, hname]
        · simp [hattribute, hname]

theorem mem_names_schemalessCandidates :
    n ∈ (r.schemalessCandidates resources).map (·.name) ↔
      ∃ scanned ∈ resources, ∃ action ∈ scanned.sortedActions, ∃ holder ∈ action.inputs,
        holder.isEnumHolder = true ∧ ∃ f ∈ holder.nested,
          ∃ e, r.schemalessEnum? resources scanned holder f = some e ∧ e.name = n := by
  simp only [schemalessCandidates, List.mem_map, List.mem_flatMap, List.mem_filter,
    List.mem_filterMap]
  constructor
  · rintro ⟨e, ⟨scanned, hs, action, ha, holder, ⟨hh, ho⟩, f, hf, he⟩, rfl⟩
    exact ⟨scanned, hs, action, ha, holder, hh, ho, f, hf, e, he, rfl⟩
  · rintro ⟨scanned, hs, action, ha, holder, hh, ho, f, hf, e, he, rfl⟩
    exact ⟨e, ⟨scanned, hs, action, ha, holder, ⟨hh, ho⟩, f, hf, he⟩, rfl⟩

/-- **The generated enums are those that are declared.** Dropping duplicates loses no name. -/
theorem mem_names_generatedEnums :
    n ∈ (r.generatedEnums resources).map (·.name) ↔ r.DeclaresEnum resources n := by
  rw [generatedEnums, Enum.mem_names_dedupe, List.map_append, List.mem_append, schemalessEnums,
    Enum.mem_names_dedupe, schemalessFound, Enum.mem_names_firstOfSignature, localEnums,
    Enum.mem_names_dedupe, mem_names_schemalessCandidates, mem_names_localCandidates]
  constructor
  · rintro (⟨scanned, hs, action, ha, holder, hh, ho, f, hf, e, he, rfl⟩ | ⟨a, ha, hl, rfl⟩ |
      ⟨a, ha, f, hf, ⟨hl, hx⟩, rfl⟩)
    · obtain ⟨⟨hl, hc, hn⟩, ⟨owner, ho', hfree, hname⟩, rfl⟩ := schemalessEnum?_eq_some_iff.1 he
      rw [name_inputEnum]
      exact .input hs ha hh ho hf hl hc hn ho' hname hfree
    · exact .own ha hl
    · exact .field ha hf hl hx
  · rintro (⟨ha, hl⟩ | ⟨ha, hf, hl, hx⟩ | ⟨hs, ha, hh, ho, hf, hl, hc, hn, ho', hname, hfree⟩)
    · exact .inr (.inl ⟨_, ha, hl, rfl⟩)
    · exact .inr (.inr ⟨_, ha, _, hf, ⟨hl, hx⟩, rfl⟩)
    · refine .inl ⟨_, hs, _, ha, _, hh, ho, _, hf, _, ?_, name_inputEnum _ _⟩
      exact schemalessEnum?_eq_some_iff.2 ⟨⟨hl, hc, hn⟩, ⟨_, ho', hfree, hname⟩, rfl⟩

end Resource

end SdkModel
