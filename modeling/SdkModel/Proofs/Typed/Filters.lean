import SdkModel.Typed.Annotation

/-!
# Filters of objects

An object that is held under the name of the sort parameter has the filter of sorting. Any other has
the filter that it states, or else the one that its first property decides (`HasFilter`).
-/

namespace SdkModel.Typed

variable {s : Schema} {hint n : String}

/-! ## Filters that are stated or derived -/

/-- The filters that a property decides. -/
def derivedFilters : List String :=
  ["BooleanFilter", "EnumFilter", "TimestampFilter", "NumberFilter", "StringFilter"]

theorem filterOfProperty_mem (s : Schema) : filterOfProperty s ∈ anyType :: derivedFilters := by
  unfold filterOfProperty
  repeat' split
  all_goals decide

/-- The filter of an object is the one that it states or a derived one. -/
theorem mem_of_filterType (h : filterType s = some n) :
    s.extensions.sdkFilterName = some n ∨ n ∈ anyType :: derivedFilters := by
  unfold filterType at h
  split at h
  next hstated =>
    obtain rfl := Option.some.inj h
    exact .inl (Option.filter_eq_some_iff.1 hstated).1
  next =>
    obtain ⟨p, -, rfl⟩ := Option.map_eq_some_iff.1 h
    exact .inr (filterOfProperty_mem p.2)

theorem filterType_of_stated (hne : n ≠ "") (h : s.extensions.sdkFilterName = some n) :
    filterType s = some n := by
  have hstated : s.extensions.sdkFilterName.filter (· ≠ "") = some n :=
    Option.filter_eq_some_iff.2 ⟨h, by simpa using hne⟩
  rw [filterType, hstated]

/-! ## Filters by name -/

/-- An object by its type or by its properties. -/
def IsObjectLike (s : Schema) : Prop :=
  s.shape = .object ∨ s.shape = .untyped ∧ s.properties.isSome = true

/-- The filter of an object that is held under a name. -/
inductive HasFilter (s : Schema) (hint n : String) : Prop
  | sort (hsort : hint = sortAttribute) (hname : n = sortFilter)
  | object (hsort : hint ≠ sortAttribute) (hfilter : filterType s = some n) (hany : n ≠ anyType)

theorem namedFilter?_eq_some_iff :
    namedFilter? s hint = some n ↔ IsObjectLike s ∧ HasFilter s hint n := by
  have hobject : (s.shape = .object || (s.shape = .untyped && s.properties.isSome)) = true ↔
      IsObjectLike s := by
    simp [IsObjectLike]
  unfold namedFilter?
  split
  next hlike =>
    rw [and_iff_right (hobject.1 hlike)]
    split
    next hsort =>
      constructor
      · intro h
        exact .sort hsort (Option.some.inj h).symm
      · rintro (⟨-, rfl⟩ | ⟨hne, -, -⟩)
        · rfl
        · exact absurd hsort hne
    next hsort =>
      rw [Option.filter_eq_some_iff, decide_eq_true_iff]
      constructor
      · rintro ⟨hfilter, hany⟩
        exact .object hsort hfilter hany
      · rintro (⟨hsort', -⟩ | ⟨-, hfilter, hany⟩)
        · exact absurd hsort' hsort
        · exact ⟨hfilter, hany⟩
  next hlike => exact iff_of_false (fun h => by cases h) fun h => hlike (hobject.2 h.1)

end SdkModel.Typed
