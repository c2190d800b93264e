import Mathlib.Data.List.Permutation
import SdkModel.Action.Inputs

/-!
# Pagination inputs in the views

Pagination inputs are left out of an argument list unless they are asked for, and even then when
they are the only two inputs, which a further option allows. The list of all inputs and the list
of query inputs follow this rule (`FollowsPaginationRule`) as far as the number of inputs they
count shows whether there are only two pages, and the list of query inputs never reads the option
(`paginationByRule_iff`).
-/

namespace SdkModel.Inputs

variable {i : Inputs} {enough : Bool} {a : Attribute} {counted kept view : List Attribute}

/-! ## The rule -/

/-- The inputs are two pagination inputs and nothing else. -/
def OnlyTwoPages (kept : List Attribute) : Prop :=
  kept.length = 2 ∧ ∀ a ∈ kept, a.isPagination = true

/-- Of the inputs that are kept otherwise, the view has the pagination inputs when the options
include them and either allow that nothing else is left or something else is left. -/
structure FollowsPaginationRule (options : InputOptions) (kept view : List Attribute) : Prop where
  pages : ∀ a ∈ kept, a.isPagination = true →
    (a ∈ view ↔ options.pagination = true ∧ (options.onlyPagination = true ∨ ¬ OnlyTwoPages kept))
  others : ∀ a ∈ kept, a.isPagination = false → a ∈ view

/-- The visible inputs that the other options keep, body first. -/
def keptForAll (i : Inputs) : List Attribute :=
  let attributes := i.visibleBody ++ i.visibleQuery
  if i.options.subResources then attributes
  else attributes.filter fun a => !a.isSubResource || a.isFilter

/-- The visible inputs that the query view is about. -/
def keptForQuery (i : Inputs) : List Attribute :=
  i.visibleQuery ++ i.visibleBody.filter (·.isFilter)

/-- The inputs as the query view counts them: the sort input is listed again where it is kept. -/
def countedForQuery (i : Inputs) : List Attribute :=
  i.visibleQuery ++ (if i.options.sortBy then i.visibleQuery.filter (·.isSort) else []) ++
    i.visibleBody.filter (·.isFilter)

/-- Both views follow the rule. -/
structure PaginationByRule (i : Inputs) : Prop where
  all : FollowsPaginationRule i.options i.keptForAll i.retained
  query : FollowsPaginationRule i.options i.keptForQuery i.query

/-! ## What is dropped -/

theorem mem_withoutPagination : a ∈ i.withoutPagination enough counted ↔
    a ∈ counted ∧ (a.isPagination = true →
      i.options.pagination = true ∧ (enough = true ∨ counted.length ≠ 2)) := by
  unfold withoutPagination
  split
  · rename_i hdropped
    have hnot : ¬ (i.options.pagination = true ∧ (enough = true ∨ counted.length ≠ 2)) := by
      rintro ⟨hpages, henough | hmany⟩
      · simp [hpages, henough] at hdropped
      · simp [hpages, hmany] at hdropped
    simp only [List.mem_filter, Bool.not_eq_true', imp_iff_not hnot, Bool.not_eq_true]
  · rename_i hkept
    simp only [Bool.or_eq_true, Bool.not_eq_true', Bool.and_eq_true, decide_eq_true_eq, not_or,
      Bool.not_eq_false, not_and] at hkept
    obtain ⟨hpages, hmany⟩ := hkept
    refine (and_iff_left fun _ => ⟨hpages, ?_⟩).symm
    cases enough with
    | true => exact .inl rfl
    | false => exact .inr (hmany rfl)

/-- A view that counts the kept inputs, some of them perhaps twice, follows the rule exactly when
its count tells whether there are only two pages. -/
theorem followsPaginationRule_iff (hcounted : ∀ a, a ∈ counted ↔ a ∈ kept)
    (hview : ∀ a, a ∈ view ↔ a ∈ i.withoutPagination enough counted) :
    FollowsPaginationRule i.options kept view ↔
      (i.options.pagination = true → (∃ a ∈ kept, a.isPagination = true) →
        ((enough = true ∨ counted.length ≠ 2) ↔
          (i.options.onlyPagination = true ∨ ¬ OnlyTwoPages kept))) := by
  have hmem {a : Attribute} (ha : a ∈ kept) : a ∈ view ↔ (a.isPagination = true →
      i.options.pagination = true ∧ (enough = true ∨ counted.length ≠ 2)) := by
    rw [hview, mem_withoutPagination, hcounted]
    exact and_iff_right ha
  constructor
  · rintro h hpages ⟨a, ha, hpage⟩
    have hrule := h.pages a ha hpage
    rw [hmem ha, imp_iff_right hpage, and_iff_right hpages, and_iff_right hpages] at hrule
    exact hrule
  · intro h
    refine ⟨fun a ha hpage => ?_, fun a ha hother => ?_⟩
    · rw [hmem ha, imp_iff_right hpage]
      exact and_congr_right fun hpages => h hpages ⟨a, ha, hpage⟩
    · rw [hmem ha, hother]
      exact fun hpage => nomatch hpage

theorem mem_countedForQuery (a : Attribute) : a ∈ i.countedForQuery ↔ a ∈ i.keptForQuery := by
  have hsorts : (if i.options.sortBy then i.visibleQuery.filter (·.isSort) else []) ⊆
      i.visibleQuery := by
    split
    · exact List.filter_sublist.subset
    · exact List.nil_subset _
  rw [countedForQuery, keptForQuery, List.mem_append, List.mem_append, List.mem_append]
  exact or_congr_left (or_iff_left_of_imp fun ha => hsorts ha)

theorem mem_query_iff (a : Attribute) :
    a ∈ i.query ↔ a ∈ i.withoutPagination false i.countedForQuery := mem_sortByOrder

theorem retained_eq (i : Inputs) :
    i.retained = i.withoutPagination i.options.onlyPagination i.keptForAll := rfl

theorem all_followsRule_iff : FollowsPaginationRule i.options i.keptForAll i.retained ↔
    (i.options.pagination = true → i.options.onlyPagination = false → i.keptForAll.length = 2 →
      (∃ a ∈ i.keptForAll, a.isPagination = true) →
        ∀ a ∈ i.keptForAll, a.isPagination = true) := by
  rw [retained_eq, followsPaginationRule_iff (fun _ => Iff.rfl) fun _ => Iff.rfl]
  refine imp_congr_right fun _ => ?_
  cases i.options.onlyPagination with
  | true => simp
  | false =>
    simp only [Bool.false_eq_true, false_or, not_iff_not, OnlyTwoPages, forall_const]
    constructor
    · intro h hlength hpage
      exact ((h hpage).1 hlength).2
    · intro h hpage
      exact ⟨fun hlength => ⟨hlength, h hlength hpage⟩, fun htwo => htwo.1⟩

theorem query_followsRule_iff : FollowsPaginationRule i.options i.keptForQuery i.query ↔
    (i.options.pagination = true → (∃ a ∈ i.keptForQuery, a.isPagination = true) →
      (i.countedForQuery.length = 2 ↔
        i.options.onlyPagination = false ∧ OnlyTwoPages i.keptForQuery)) := by
  rw [followsPaginationRule_iff mem_countedForQuery mem_query_iff]
  refine imp_congr_right fun _ => imp_congr_right fun _ => not_iff_not.symm.trans ?_
  simp only [Bool.false_eq_true, false_or, not_not, not_or, Bool.not_eq_true]

/-- **When both views follow the rule** for pagination inputs. The list of all inputs does but for
a pagination input beside one other input, and the list of query inputs does exactly when it counts
two inputs where two pages are left and the options do not allow that. -/
theorem paginationByRule_iff (i : Inputs) : i.PaginationByRule ↔ (i.options.pagination = true →
    (i.options.onlyPagination = false → i.keptForAll.length = 2 →
      (∃ a ∈ i.keptForAll, a.isPagination = true) →
        ∀ a ∈ i.keptForAll, a.isPagination = true) ∧
    ((∃ a ∈ i.keptForQuery, a.isPagination = true) →
      (i.countedForQuery.length = 2 ↔
        i.options.onlyPagination = false ∧ OnlyTwoPages i.keptForQuery))) := by
  rw [imp_and, ← all_followsRule_iff, ← query_followsRule_iff]
  exact ⟨fun h => ⟨h.all, h.query⟩, fun h => ⟨h.1, h.2⟩⟩

/-! ## A page beside one other input -/

/-- The inputs of a `GET` action with the given query parameters. -/
def ofQuery (fields : List (String × Schema)) (options : InputOptions) : Inputs where
  action := {
    id := .null, method := .get, url := "/things", name := "list", description := .text ""
    deprecated := false, qa := false, extensions := {}, success := none, body := none
    parameters := fields.map fun field => (.query, ⟨field.1, field.2, false, false, {}⟩) }
  options

def limitSchema : Schema :=
  { type := some "integer", extensions := { isPaginationParameter := true } }

/-- A single pagination input is dropped because there is one more input. -/
theorem not_forall_paginationByRule : ¬ ∀ i : Inputs, i.PaginationByRule := by
  intro h
  let i := ofQuery [("limit", limitSchema), ("status", { type := some "string" })]
    { pagination := true }
  have hpages := all_followsRule_iff.1 (h i).all rfl rfl
  have hkept : i.keptForAll = [⟨"limit", limitSchema, false, false⟩,
      ⟨"status", { type := some "string" }, false, false⟩] := by cbv
  rw [hkept] at hpages
  have hstatus := hpages rfl ⟨_, List.mem_cons_self, rfl⟩ _
    (List.mem_cons_of_mem _ (List.mem_singleton_self _))
  cases hstatus

end SdkModel.Inputs
