import SdkModel.Proofs.Attribute.Items
import SdkModel.Proofs.Typed.EnumValues

/-!
# Lists of enum values

A list of enum values is an enum as its items are one. The list keeps the texts among the values of
its items and the items show every value as text, and the items fall back to marks on items of
their own, so that the two are the same enum exactly when all values are texts and no such mark
counts (`Enum.sameEnum_iff`).
-/

namespace SdkModel.Enum

variable {a s : Schema} {vs : List Value}

/-! ## Values as text -/

theorem filterMap_text?_of_forall (h : ∀ v ∈ vs, ∃ t, v = .text t) :
    vs.filterMap Value.text? = vs.map Value.display := by
  rw [← List.filterMap_eq_map']
  refine List.filterMap_congr fun v hv => ?_
  obtain ⟨t, rfl⟩ := h v hv
  rfl

/-- Only texts are left out by neither reading. -/
theorem filterMap_text?_eq_iff :
    vs.filterMap Value.text? = vs.map Value.display ↔ ∀ v ∈ vs, ∃ t, v = .text t := by
  refine ⟨fun h v hv => ?_, filterMap_text?_of_forall⟩
  have hlength := congrArg List.length h
  rw [List.length_filterMap_eq_countP, List.length_map, List.countP_eq_length] at hlength
  obtain ⟨t, ht⟩ := Option.isSome_iff_exists.1 (hlength v hv)
  exact ⟨t, Value.text?_eq_some_iff.1 ht⟩

/-! ## A list and its items -/

/-- A list of the values of a string, without marks of its own. -/
structure ListOf (a s : Schema) : Prop where
  type : a.type = some "array"
  items : a.items = some s
  unmarked : a.extensions.deprecatedEnumValues = []
  itemShape : s.shape = .string

/-- Two enums of one name with the same values, marked alike. -/
structure SameEnum (e f : Enum) : Prop where
  values : e.values = f.values
  validValues : e.validValues = f.validValues
  deprecatedValues : e.deprecatedValues = f.deprecatedValues
  signature : e.signature = f.signature

/-- Two schemas with the same values are the same enum when they mark the same of the values. -/
theorem sameEnum_of_values {name : String}
    (hvalues : (⟨name, a⟩ : Enum).values = (⟨name, s⟩ : Enum).values) :
    SameEnum ⟨name, a⟩ ⟨name, s⟩ ↔ ∀ v ∈ (⟨name, s⟩ : Enum).values,
      (v ∈ (⟨name, a⟩ : Enum).marked ↔ v ∈ (⟨name, s⟩ : Enum).marked) := by
  constructor
  · intro h
    have hdeprecated := h.deprecatedValues
    rw [deprecatedValues, deprecatedValues, hvalues] at hdeprecated
    exact filter_mem_eq_iff.1 hdeprecated
  · intro hmarked
    have hvalid : (⟨name, a⟩ : Enum).validValues = (⟨name, s⟩ : Enum).validValues := by
      rw [validValues, validValues, hvalues]
      refine List.filter_congr fun v hv => decide_eq_decide.2 ?_
      rw [hmarked v hv]
    refine ⟨hvalues, hvalid, ?_, ?_⟩
    · rw [deprecatedValues, deprecatedValues, hvalues]
      exact filter_mem_eq_iff.2 hmarked
    · rw [signature, signature, hvalid]

section ListOf

variable (h : ListOf a s) (name : String)

include h

theorem ListOf.values : (⟨name, a⟩ : Enum).values =
    (s.enum.getD []).filterMap Value.text? := by
  have hshape : a.shape = .array := by
    rw [Schema.shape, h.type]
    rfl
  rw [values_of_array hshape, h.items]
  rfl

theorem ListOf.values_eq_iff : (⟨name, a⟩ : Enum).values = (⟨name, s⟩ : Enum).values ↔
    ∀ v ∈ s.enum.getD [], ∃ t, v = .text t := by
  rw [h.values name, values_of_string h.itemShape]
  exact filterMap_text?_eq_iff

/-- The list takes over the marks of its items, and these fall back to marks of items of theirs. -/
theorem ListOf.mem_marked_iff {v : String} :
    (v ∈ (⟨name, a⟩ : Enum).marked ↔ v ∈ (⟨name, s⟩ : Enum).marked) ↔
      (s.extensions.deprecatedEnumValues = [] → v ∉ Schema.marks s.items) := by
  have hlist : v ∈ (⟨name, a⟩ : Enum).marked ↔ v ∈ s.extensions.deprecatedEnumValues := by
    rw [Enum.mem_marked_iff, h.unmarked, h.items]
    simp [Schema.marks]
  rw [hlist, Enum.mem_marked_iff]
  by_cases hnone : s.extensions.deprecatedEnumValues = []
  · simp [hnone]
  · simp [hnone]

end ListOf

/-- **A list of enum values is the enum of its items** when all declared values are texts and no
mark on items of the items counts, and only then. -/
theorem sameEnum_iff (h : ListOf a s) (name : String) : SameEnum ⟨name, a⟩ ⟨name, s⟩ ↔
    (∀ v ∈ s.enum.getD [], ∃ t, v = .text t) ∧
      (s.extensions.deprecatedEnumValues = [] →
        ∀ v ∈ (⟨name, s⟩ : Enum).values, v ∉ Schema.marks s.items) := by
  have hmarks : (s.extensions.deprecatedEnumValues = [] →
      ∀ v ∈ (⟨name, s⟩ : Enum).values, v ∉ Schema.marks s.items) ↔
      ∀ v ∈ (⟨name, s⟩ : Enum).values,
        (v ∈ (⟨name, a⟩ : Enum).marked ↔ v ∈ (⟨name, s⟩ : Enum).marked) := by
    simp only [h.mem_marked_iff name]
    exact ⟨fun hall v hv hnone => hall hnone v hv, fun hall hnone v hv => hall v hv hnone⟩
  rw [hmarks, ← h.values_eq_iff name]
  constructor
  · intro hsame
    exact ⟨hsame.values, (sameEnum_of_values hsame.values).1 hsame⟩
  · rintro ⟨hvalues, hmarked⟩
    exact (sameEnum_of_values hvalues).2 hmarked

/-- Levels as a plain string, with one of the values marked. -/
def levelSchema (vs : List Value) : Schema :=
  { type := some "string", enum := some vs
    extensions := { deprecatedEnumValues := ["high"] } }

def levelList (vs : List Value) : Schema := { type := some "array", items := some (levelSchema vs) }

theorem listOf_levelList (vs : List Value) : ListOf (levelList vs) (levelSchema vs) :=
  ⟨rfl, rfl, rfl, rfl⟩

theorem sameEnum_levelList :
    SameEnum ⟨"level", levelList [.text "low", .text "high", .text "low"]⟩
      ⟨"level", levelSchema [.text "low", .text "high", .text "low"]⟩ :=
  (sameEnum_iff (listOf_levelList _) "level").2
    ⟨by simp [levelSchema], fun hnone => absurd hnone (by decide)⟩

/-- A number among the values is one of a string and none of a list. -/
theorem not_forall_sameEnum :
    ¬ ∀ (a s : Schema) (name : String), ListOf a s → SameEnum ⟨name, a⟩ ⟨name, s⟩ := by
  intro h
  have hsame := h _ _ "level" (listOf_levelList [.text "low", .int 1])
  exact absurd hsame.values (by decide)

end SdkModel.Enum
