import Mathlib.Data.List.Permutation
import SdkModel.Proofs.Attribute.WithField

/-!
# What an attribute with one field keeps

An attribute that is restricted to one of its fields keeps its own name, flag and sort order, and
the field keeps its name and its schema. Whether the field is required is read from the list of
required names once more, and by then the field has its name without hyphens while the list has the
names as they are declared: the flag is kept where the list tells both names alike
(`forall_keepsField_iff`).

Its kind and the way in which it is passed are kept as well unless it is a filter, and one that is a
filter keeps them where the field makes a filter of the same form of it (`sameKinds_withField_iff`).
-/

namespace SdkModel

namespace Schema

variable {s : Schema} {c : Child}

/-- A child is required when its declared name is listed so. -/
theorem isRequired_of_mem_children (h : c ∈ s.children) :
    c.isRequired = decide (c.name ∈ s.requiredFields) := by
  unfold children at h
  split at h
  · cases h
  · rename_i owner howner
    obtain ⟨p, -, rfl⟩ := List.mem_map.1 h
    rw [requiredFields, howner]
    rfl

end Schema

namespace Attribute

variable {a b : Attribute}

/-- The attribute restricted to the field has that field and nothing else, and is the same attribute
otherwise. -/
structure KeepsField (a b : Attribute) : Prop where
  field : (a.withField b).nested = [b]
  name : (a.withField b).name = a.name
  isRequired : (a.withField b).isRequired = a.isRequired
  sortOrder : (a.withField b).sortOrder = a.sortOrder

/-- Only the flag of the field may change. -/
theorem keepsField_iff (h : b ∈ a.nested) :
    KeepsField a b ↔ (b.isRequired = true ↔ b.name ∈ a.schema.requiredFields) := by
  have hfield : (a.withField b).nested = [b] ↔
      decide (b.name ∈ a.schema.requiredFields) = b.isRequired := by
    rw [nested_withField_eq h, List.singleton_inj, mk.injEq]
    simp only [true_and, and_true]
  have hflag : decide (b.name ∈ a.schema.requiredFields) = b.isRequired ↔
      (b.isRequired = true ↔ b.name ∈ a.schema.requiredFields) := by
    rw [Bool.eq_iff_iff, decide_eq_true_eq]
    exact Iff.comm
  rw [← hflag, ← hfield]
  exact ⟨fun hkeeps => hkeeps.field, fun hfield => ⟨hfield, rfl, rfl, sortOrder_withField h⟩⟩

/-- **When restricting an attribute keeps its fields**: each of them is listed as required by its
declared name just when it is by its name without hyphens. -/
theorem forall_keepsField_iff (a : Attribute) : (∀ b ∈ a.nested, a.KeepsField b) ↔
    ∀ c ∈ a.schema.visibleChildren a.qa, (c.name ∈ a.schema.requiredFields ↔
      Naming.attributeName c.name ∈ a.schema.requiredFields) := by
  rw [nested, List.forall_mem_map]
  refine forall₂_congr fun c hc => ?_
  have hrequired : (ofChild a.qa c).isRequired = true ↔ c.name ∈ a.schema.requiredFields := by
    rw [ofChild, Schema.isRequired_of_mem_children (List.mem_filter.1 hc).1, decide_eq_true_eq]
  rw [keepsField_iff (List.mem_map_of_mem hc), hrequired]
  rfl

/-- Details with a tax id that is required. -/
def detailsAttribute : Attribute where
  name := "details"
  schema := {
    type := some "object"
    properties := some [("tax-id", { type := some "string" })]
    required := some ["tax-id"] }
  isRequired := false
  qa := false

/-- Restricted to the tax id, the details do not require it any more. -/
theorem not_forall_keepsField : ¬ ∀ a : Attribute, ∀ b ∈ a.nested, a.KeepsField b := by
  intro h
  let taxId : Attribute := ⟨"tax_id", { type := some "string" }, true, false⟩
  have hnested : detailsAttribute.nested = [taxId] := by cbv
  have hrequired : detailsAttribute.schema.requiredFields = ["tax-id"] := by cbv
  have htaxId : taxId ∈ detailsAttribute.nested := by
    rw [hnested]
    exact List.mem_singleton_self taxId
  have hlisted := (keepsField_iff htaxId).1 (h detailsAttribute taxId htaxId)
  rw [hrequired] at hlisted
  exact absurd (hlisted.1 rfl) (by decide)

/-! ## Kinds -/

/-- The two attributes are of one kind and are passed in one way. -/
structure SameKinds (a b : Attribute) : Prop where
  kind : a.kind = b.kind
  parameterKind : a.parameterKind = b.parameterKind

theorem kind_of_isSort (h : a.isSort = true) : a.kind = .sort :=
  if_pos (of_decide_eq_true h)

/-- The name of a sort attribute counts before all filters. -/
theorem kind_eq_filter_iff : a.kind = .filter ↔ a.isSort = false ∧ a.isFilter = true := by
  cases hsort : a.isSort with
  | true =>
    rw [kind_of_isSort hsort]
    simp
  | false =>
    have hname : a.name ≠ sortAttribute := of_decide_eq_false hsort
    cases hfilter : a.isFilter with
    | true =>
      have hkind : a.kind = .filter := (if_neg hname).trans (if_pos hfilter)
      simp [hkind]
    | false => simp [kind_ne_filter hfilter]

theorem parameterKind_of_sort (h : a.kind = .sort) : a.parameterKind = .sort := if_pos h

theorem parameterKind_of_filter (h : a.kind = .filter) :
    a.parameterKind = if a.isNestedFilter then .nestedObject else .filter := by
  rw [parameterKind, h]
  rfl

theorem parameterKind_eq_nestedObject_iff (h : a.kind = .filter) :
    a.parameterKind = .nestedObject ↔ a.isNestedFilter = true := by
  rw [parameterKind_of_filter h]
  cases a.isNestedFilter <;> decide

/-- What is no filter keeps its kinds. -/
theorem SameKinds.of_kind_ne_filter (h : b ∈ a.nested) (hk : a.kind ≠ .filter) :
    SameKinds (a.withField b) a := by
  cases hsort : a.isSort with
  | true =>
    have hkind := kind_of_isSort hsort
    have hkind' : (a.withField b).kind = .sort := kind_of_isSort hsort
    exact ⟨hkind'.trans hkind.symm,
      (parameterKind_of_sort hkind').trans (parameterKind_of_sort hkind).symm⟩
  | false =>
    have hfilter : a.isFilter = false := by
      rw [Ne, kind_eq_filter_iff, hsort] at hk
      simpa using hk
    exact ⟨kind_withField h hfilter, parameterKind_withField h hfilter⟩

theorem isNestedFilter_withField (h : b ∈ a.nested) :
    (a.withField b).isNestedFilter = (a.isMultiValue || b.isSubResource) := by
  rw [isNestedFilter, nested_withField_eq h, isMultiValue, isMultiValue, withField_extensions]
  rfl

/-- **When restricting an attribute to a field keeps its kinds**: always unless it is a filter, and
for a filter where it still is one and is nested as it was. -/
theorem sameKinds_withField_iff (h : b ∈ a.nested) : SameKinds (a.withField b) a ↔
    (a.kind = .filter → (a.IsFlaggedFilter ∨ b.isFilter = true) ∧
      (a.isMultiValue || b.isSubResource) = a.isNestedFilter) := by
  by_cases hk : a.kind = .filter
  · have hkind : (a.withField b).kind = a.kind ↔ a.IsFlaggedFilter ∨ b.isFilter = true := by
      rw [← isFilter_withField_iff h, hk, kind_eq_filter_iff]
      exact and_iff_right (kind_eq_filter_iff.1 hk).1
    rw [← hkind, ← isNestedFilter_withField h]
    constructor
    · rintro ⟨hsame, hpassed⟩ -
      refine ⟨hsame, Bool.eq_iff_iff.2 ?_⟩
      rw [← parameterKind_eq_nestedObject_iff hk,
        ← parameterKind_eq_nestedObject_iff (hsame.trans hk), hpassed]
    · intro hkept
      obtain ⟨hsame, hnested⟩ := hkept hk
      refine ⟨hsame, ?_⟩
      rw [parameterKind_of_filter hk, parameterKind_of_filter (hsame.trans hk), hnested]
  · exact iff_of_true (.of_kind_ne_filter h hk) fun hfilter => absurd hfilter hk

/-- **An attribute that is no filter keeps its kind with each of its fields**, and is passed in the
same way. Sort attributes are no filters, whatever they hold. -/
theorem forall_sameKinds_withField (hk : a.kind ≠ .filter) :
    ∀ b ∈ a.nested, SameKinds (a.withField b) a :=
  fun _ hb => .of_kind_ne_filter hb hk

/-- An array of sub-resources with two fields. -/
def linesAttribute : Attribute where
  name := "lines"
  schema := {
    type := some "array"
    items := some {
      type := some "object"
      properties := some
        [("amount", { type := some "integer" }), ("unit", { type := some "string" })]
      extensions := { isSubResource := true } } }
  isRequired := false
  qa := false

theorem forall_sameKinds_withField_lines :
    linesAttribute.kind = .listOfSubResource ∧ linesAttribute.nested.length = 2 ∧
      ∀ b ∈ linesAttribute.nested, SameKinds (linesAttribute.withField b) linesAttribute := by
  have hkind : linesAttribute.kind = .listOfSubResource := by cbv
  have hfields : linesAttribute.nested.length = 2 := by cbv
  refine ⟨hkind, hfields, forall_sameKinds_withField ?_⟩
  rw [hkind]
  decide

end Attribute

end SdkModel
