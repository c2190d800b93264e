import SdkModel.Proofs.Listed
import SdkModel.Proofs.Spec.EnumSets

/-!
# The enum that is kept

A name may be declared several times for a resource. Each declaration has a place
(`Resource.DeclaredAt`): the fields of inputs come first, by resource, sorted action, body before
query, parameter and field; then attributes; then the fields of attributes. Duplicates are dropped
in three passes, one of them by signature. Whatever is dropped on the way, the enum that is generated
for a name is the declaration at the least place (`generatedEnums_listFirst`).
-/

namespace SdkModel

namespace Enum

/-! ## Dropping in stages -/

theorem dedupe_append_dedupe (es fs : List Enum) :
    dedupe (dedupe es ++ dedupe fs) = dedupe (es ++ fs) := by
  have hnone (e : Enum) (h : e.name ∈ ([] : List String)) : e.name ∈ ([] : List String) := h
  simp only [dedupe, firstOfName_eq]
  rw [firstOf_append_left (fun _ _ h => h) hnone, firstOf_append_right (fun _ _ h => h) hnone]

/-- A signature contains the name, so that what is dropped by it is not the first of its name. -/
theorem dedupe_firstOfSignature (es : List Enum) :
    dedupe (firstOfSignature [] es) = dedupe es := by
  have hname (e f : Enum) (h : e.signature = f.signature) : e.name = f.name :=
    congrArg Prod.fst h
  have h : firstOf (·.name) [] (firstOf signature [] es ++ []) = firstOf (·.name) [] (es ++ []) :=
    firstOf_append_left hname fun _ hx => absurd hx List.not_mem_nil
  rw [List.append_nil, List.append_nil] at h
  rw [dedupe, dedupe, firstOfName_eq, firstOfName_eq, firstOfSignature_eq, h]

end Enum

/-! ## Places of declarations -/

/-- The inputs of an action by their places: body parameters, then query parameters. -/
inductive Action.InputAt (action : Action) : Nat → Nat → Attribute → Prop where
  | body {m : Nat} {p : Parameter} (h : action.bodyParameters[m]? = some p) :
    InputAt action 0 m p.asAttribute
  | query {m : Nat} {p : Parameter} (h : action.queryParameters[m]? = some p) :
    InputAt action 1 m p.asAttribute

namespace Resource

variable {r scanned : Resource} {resources : List Resource} {action : Action}
variable {holder f : Attribute} {e : Enum} {p : List Nat}

/-- The enums that a document declares for a resource, with their places. -/
inductive DeclaredAt (r : Resource) (resources : List Resource) : List Nat → Enum → Prop where
  /-- A field of an object input declares an enum, no attribute of the resource that is called stands
  for the input, and the model of the input is this resource, which has no attribute of the name of
  the field. -/
  | input {scanned owner : Resource} {action : Action} {holder f : Attribute} {i j k m n : Nat}
    (hscanned : resources[i]? = some scanned) (haction : scanned.sortedActions[j]? = some action)
    (hholder : action.InputAt k m holder) (hobject : holder.isEnumHolder = true)
    (hf : holder.nested[n]? = some f) (hlocal : f.isLocalEnum = true)
    (hcurrent : f.traits.isDeprecated = false) (hnew : scanned.hasAttribute holder.name = false)
    (howner : (resources.filter (·.name = holder.ownerName f)).getLast? = some owner)
    (hname : owner.name = r.name) (hfree : owner.hasAttribute f.name = false) :
    DeclaredAt r resources [0, i, j, k, m, n] ⟨holder.inputEnumName f, f.schema⟩
  /-- An attribute declares an enum inline. -/
  | own {a : Attribute} {i : Nat} (ha : r.visibleAttributes[i]? = some a)
    (hlocal : a.isLocalEnum = true) : DeclaredAt r resources [1, i] ⟨a.name, a.schema⟩
  /-- A field of an attribute does, and the enum is not generated elsewhere. -/
  | field {a f : Attribute} {i n : Nat} (ha : r.visibleAttributes[i]? = some a)
    (hf : a.nested[n]? = some f) (hlocal : f.isLocalEnum = true)
    (hexternal : f.isExternalEnum = false) :
    DeclaredAt r resources [2, i, n] ⟨a.nestedEnumName f, f.schema⟩

/-! ## Enums by places -/

/-- What the fields of an input declare, by the positions of the fields. -/
def HolderDeclares (r : Resource) (resources : List Resource) (scanned : Resource)
    (holder : Attribute) (p : List Nat) (e : Enum) : Prop :=
  ∃ n f, holder.nested[n]? = some f ∧ p = [n] ∧
    r.schemalessEnum? resources scanned holder f = some e

/-- What the inputs of an action declare. -/
def ActionDeclares (r : Resource) (resources : List Resource) (scanned : Resource)
    (action : Action) (p : List Nat) (e : Enum) : Prop :=
  ∃ k m holder q, action.InputAt k m holder ∧ p = k :: m :: q ∧ holder.isEnumHolder = true ∧
    r.HolderDeclares resources scanned holder q e

theorem listedAt_action : ListedAt (r.ActionDeclares resources scanned action)
    ((action.inputs.filter (·.isEnumHolder)).flatMap fun holder =>
      holder.nested.filterMap (r.schemalessEnum? resources scanned holder)) := by
  -- The part of one input, which is empty when it holds no enums.
  let part (x : Parameter) : List Enum :=
    if x.asAttribute.isEnumHolder = true then
      x.asAttribute.nested.filterMap (r.schemalessEnum? resources scanned x.asAttribute)
    else []
  have hparts : ((action.inputs.filter (·.isEnumHolder)).flatMap fun holder =>
      holder.nested.filterMap (r.schemalessEnum? resources scanned holder)) =
        action.bodyParameters.flatMap part ++ action.queryParameters.flatMap part := by
    rw [flatMap_filter, Action.inputs, List.flatMap_map, List.flatMap_append]
  have hpart (x : Parameter) : ListedAt (fun p e => x.asAttribute.isEnumHolder = true ∧
      r.HolderDeclares resources scanned x.asAttribute p e) (part x) := listedAt_filterMap.ite
  rw [hparts]
  refine ((listedAt_flatMap hpart).append (listedAt_flatMap hpart) Nat.zero_lt_one).congr
    fun p e => ?_
  constructor
  · rintro (⟨_, rfl, m, x, q, hx, rfl, hobject, hq⟩ | ⟨_, rfl, m, x, q, hx, rfl, hobject, hq⟩)
    · exact ⟨0, m, _, q, .body hx, rfl, hobject, hq⟩
    · exact ⟨1, m, _, q, .query hx, rfl, hobject, hq⟩
  · rintro ⟨k, m, holder, q, ⟨hx⟩ | ⟨hx⟩, rfl, hobject, hq⟩
    · exact .inl ⟨_, rfl, m, _, q, hx, rfl, hobject, hq⟩
    · exact .inr ⟨_, rfl, m, _, q, hx, rfl, hobject, hq⟩

/-- What all inputs declare. -/
def InputsDeclare (r : Resource) (resources : List Resource) (p : List Nat) (e : Enum) : Prop :=
  ∃ i scanned j action q, resources[i]? = some scanned ∧
    scanned.sortedActions[j]? = some action ∧ p = i :: j :: q ∧
      r.ActionDeclares resources scanned action q e

theorem listedAt_schemalessCandidates :
    ListedAt (r.InputsDeclare resources) (r.schemalessCandidates resources) := by
  have haction (scanned : Resource) (action : Action) :
      ListedAt (r.ActionDeclares resources scanned action) _ := listedAt_action
  refine (listedAt_flatMap fun scanned => listedAt_flatMap (haction scanned)).congr fun p e => ?_
  constructor
  · rintro ⟨i, scanned, -, hi, rfl, j, action, q, hj, rfl, hq⟩
    exact ⟨i, scanned, j, action, q, hi, hj, rfl, hq⟩
  · rintro ⟨i, scanned, j, action, q, hi, hj, rfl, hq⟩
    exact ⟨i, scanned, j :: q, hi, rfl, j, action, q, hj, rfl, hq⟩

theorem inputsDeclare_iff : r.InputsDeclare resources p e ↔ r.DeclaredAt resources (0 :: p) e := by
  constructor
  · rintro ⟨i, scanned, j, action, _, hi, hj, rfl, k, m, holder, _, hholder, rfl, hobject, n, f, hf,
      rfl, he⟩
    obtain ⟨⟨hlocal, hcurrent, hnew⟩, ⟨owner, howner, hfree, hname⟩, rfl⟩ :=
      schemalessEnum?_eq_some_iff.1 he
    rw [enumNamed_input]
    exact .input hi hj hholder hobject hf hlocal hcurrent hnew howner hname hfree
  · rintro ⟨hi, hj, hholder, hobject, hf, hlocal, hcurrent, hnew, howner, hname, hfree⟩
    refine ⟨_, _, _, _, _, hi, hj, rfl, _, _, _, _, hholder, rfl, hobject, _, _, hf, rfl, ?_⟩
    rw [schemalessEnum?_eq_some_iff, enumNamed_input]
    exact ⟨⟨hlocal, hcurrent, hnew⟩, ⟨_, howner, hfree, hname⟩, rfl⟩

theorem listedAt_enums (r : Resource) :
    ListedAt (fun p e => ∃ i a, r.visibleAttributes[i]? = some a ∧ p = [i] ∧
      a.isLocalEnum = true ∧ e = ⟨a.name, a.schema⟩) r.enums := listedAt_map_filter

theorem listedAt_nestedEnums (r : Resource) :
    ListedAt (fun p e => ∃ i a q, r.visibleAttributes[i]? = some a ∧ p = i :: q ∧
      ∃ n f, a.nested[n]? = some f ∧ q = [n] ∧ (f.isLocalEnum && !f.isExternalEnum) = true ∧
        e = f.enumNamed (a.nestedEnumName f)) r.nestedEnums :=
  listedAt_flatMap fun _ => listedAt_map_filter

/-- The candidates for the enums of a resource are what is declared for it, by place. -/
theorem listedAt_candidates : ListedAt (r.DeclaredAt resources)
    (r.schemalessCandidates resources ++ r.localCandidates) := by
  have hlocal := (listedAt_enums r).append (listedAt_nestedEnums r) Nat.one_lt_two
  refine (ListedAt.below_append (m := 0) listedAt_schemalessCandidates hlocal ?later).congr ?places
  case later =>
    rintro p e (⟨q, rfl, -⟩ | ⟨q, rfl, -⟩)
    · exact ⟨1, q, rfl, Nat.zero_lt_one⟩
    · exact ⟨2, q, rfl, Nat.zero_lt_two⟩
  case places =>
    intro p e
    constructor
    · rintro (⟨q, rfl, hq⟩ | ⟨_, rfl, i, a, ha, rfl, hlocal, rfl⟩ |
        ⟨_, rfl, i, a, _, ha, rfl, n, f, hf, rfl, hlocal, rfl⟩)
      · exact inputsDeclare_iff.1 hq
      · exact .own ha hlocal
      · rw [Bool.and_eq_true, Bool.not_eq_true'] at hlocal
        rw [enumNamed_nested]
        exact .field ha hf hlocal.1 hlocal.2
    · intro h
      cases h with
      | input hi hj hholder hobject hf hlocal hcurrent hnew howner hname hfree =>
        exact .inl ⟨_, rfl, inputsDeclare_iff.2
          (.input hi hj hholder hobject hf hlocal hcurrent hnew howner hname hfree)⟩
      | own ha hlocal => exact .inr (.inl ⟨_, rfl, _, _, ha, rfl, hlocal, rfl⟩)
      | field ha hf hlocal hexternal =>
        refine .inr (.inr ⟨_, rfl, _, _, _, ha, rfl, _, _, hf, rfl, ?_, (enumNamed_nested _ _).symm⟩)
        rw [hlocal, hexternal]
        rfl

theorem schemalessEnums_eq (r : Resource) (resources : List Resource) :
    r.schemalessEnums resources = Enum.dedupe (r.schemalessCandidates resources) :=
  Enum.dedupe_firstOfSignature _

theorem generatedEnums_eq (r : Resource) (resources : List Resource) : r.generatedEnums resources =
    firstOf (·.name) [] (r.schemalessCandidates resources ++ r.localCandidates) := by
  rw [generatedEnums, schemalessEnums_eq, localEnums, Enum.dedupe_append_dedupe, Enum.dedupe,
    Enum.firstOfName_eq]

/-- **The first enum of a name is generated.** Each name that is declared for a resource is listed
once, by the declaration at the least place and in order of these places. The candidates among inputs
are the declarations of inputs, and dropping some of them by signature has no part in the result. -/
theorem generatedEnums_listFirst (r : Resource) (resources : List Resource) :
    ListsFirst (r.DeclaredAt resources) Enum.name (r.generatedEnums resources) ∧
      ListedAt (fun p => r.DeclaredAt resources (0 :: p)) (r.schemalessCandidates resources) ∧
      r.schemalessEnums resources = Enum.dedupe (r.schemalessCandidates resources) := by
  refine ⟨?_, listedAt_schemalessCandidates.congr fun p e => inputsDeclare_iff,
    schemalessEnums_eq r resources⟩
  rw [generatedEnums_eq]
  exact listedAt_candidates.listsFirst

end Resource

end SdkModel
