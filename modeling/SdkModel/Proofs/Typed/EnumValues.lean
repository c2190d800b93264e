import SdkModel.Proofs.Attribute.WithField
import SdkModel.Proofs.Typed.EnumReference

/-!
# Enums without values

An attribute is classified as an enum by a list of values on its schema, or on the items of an
array. The values themselves are those of a string, or the texts of the items. The two agree on the
schemas that are textual (`Schema.IsTextual`) and on no other schema with values: an integer with
values is an enum without any. What is generated for a resource and what refers to an enum follows
the classification, so that an enum has values wherever its schema is textual
(`enumsHaveValues_iff`).
-/

namespace SdkModel

/-- A string that is no date, or an array with a text among the values of its items. -/
def Schema.IsTextual (s : Schema) : Prop :=
  s.shape = .string ∨
    s.isArray = true ∧ ∃ i, s.items = some i ∧ ∃ t, Value.text t ∈ i.enum.getD []

/-! ## Values of an enum -/

section Values

variable {s : Schema} {i : Schema} {t : String}

/-- A schema has an enum when its list of values is not empty. -/
theorem Schema.hasEnum_iff : s.hasEnum = true ↔ s.enum.getD [] ≠ [] := by
  unfold hasEnum
  cases s.enum with
  | none => exact iff_of_false nofun (fun h => h rfl)
  | some vs => simp

theorem Schema.hasEnum_of_mem {v : Value} (h : v ∈ s.enum.getD []) : s.hasEnum = true :=
  hasEnum_iff.2 (List.ne_nil_of_mem h)

theorem Schema.isArray_iff : s.isArray = true ↔ s.shape = .array := decide_eq_true_iff

/-- An array is an enum by the values of its items. -/
theorem Schema.isEnum_of_items (harray : s.isArray = true) (hitems : s.items = some i) :
    s.isEnum = i.hasEnum := by
  rw [isEnum, itemsOrSelf_of_items harray hitems]

theorem Schema.isEnum_of_not_isArray (h : s.isArray = false) : s.isEnum = s.hasEnum := by
  have h : s.arrayItems? = none := by simp [arrayItems?, h]
  rw [isEnum, itemsOrSelf, h, Option.getD_none]

theorem Value.text?_eq_some_iff {v : Value} : v.text? = some t ↔ v = .text t := by
  cases v <;> simp [text?]

namespace Enum

variable {e : Enum}

/-- The values of a text enum are all that it declares, as texts. -/
theorem values_of_string (h : e.schema.shape = .string) :
    e.values = (e.schema.enum.getD []).map Value.display := by
  unfold values
  rw [h]
  cases e.schema.enum <;> rfl

/-- Of a list enum only the values that are texts count. -/
theorem values_of_array (h : e.schema.shape = .array) :
    e.values = ((e.schema.items.bind (·.enum)).getD []).filterMap Value.text? := by
  unfold values
  rw [h]

/-- An enum of any other shape has no values. -/
theorem values_of_other (hstring : e.schema.shape ≠ .string) (harray : e.schema.shape ≠ .array) :
    e.values = [] := by
  unfold values
  cases hshape : e.schema.shape <;> first | rfl | contradiction

/-- A list enum has values when its items declare a text. -/
theorem values_ne_nil_of_array (h : e.schema.shape = .array) : e.values ≠ [] ↔
    ∃ i, e.schema.items = some i ∧ ∃ t, Value.text t ∈ i.enum.getD [] := by
  rw [values_of_array h]
  cases e.schema.items with
  | none => simp
  | some i =>
    constructor
    · intro hne
      obtain ⟨t, ht⟩ := List.exists_mem_of_ne_nil _ hne
      obtain ⟨v, hv, htext⟩ := List.mem_filterMap.1 ht
      rw [Value.text?_eq_some_iff] at htext
      exact ⟨i, rfl, t, htext ▸ hv⟩
    · rintro ⟨_, ⟨⟩, t, ht⟩
      exact List.ne_nil_of_mem (List.mem_filterMap.2 ⟨.text t, ht, rfl⟩)

/-- An enum has values when its schema is classified as one and is textual. -/
theorem values_ne_nil_iff :
    e.values ≠ [] ↔ e.schema.isEnum = true ∧ e.schema.IsTextual := by
  by_cases hstring : e.schema.shape = .string
  · have hplain : e.schema.isArray = false := by
      rw [Schema.isArray, hstring]
      rfl
    rw [values_of_string hstring, Schema.isEnum_of_not_isArray hplain, Schema.hasEnum_iff, Ne,
      List.map_eq_nil_iff]
    exact (and_iff_left (.inl hstring)).symm
  · by_cases harray : e.schema.shape = .array
    · rw [values_ne_nil_of_array harray]
      constructor
      · rintro ⟨i, hitems, t, ht⟩
        have hisArray := Schema.isArray_iff.2 harray
        rw [Schema.isEnum_of_items hisArray hitems]
        exact ⟨Schema.hasEnum_of_mem ht, .inr ⟨hisArray, i, hitems, t, ht⟩⟩
      · rintro ⟨-, hshape | ⟨-, htext⟩⟩
        · exact absurd hshape hstring
        · exact htext
    · refine iff_of_false (fun h => h (values_of_other hstring harray)) ?_
      rintro ⟨-, hshape | ⟨hisArray, -⟩⟩
      · exact hstring hshape
      · exact harray (Schema.isArray_iff.1 hisArray)

end Enum

end Values

/-! ## Enums of a resource -/

/-- Dropping duplicates adds nothing. -/
theorem Enum.mem_of_mem_dedupe {e : Enum} {es : List Enum} (h : e ∈ dedupe es) : e ∈ es := by
  rw [dedupe, firstOfName_eq] at h
  exact firstOf_sublist.subset h

/-- An attribute that declares an enum has values. -/
theorem Attribute.isEnum_of_isLocalEnum {a : Attribute} (h : a.isLocalEnum = true) :
    a.schema.isEnum = true := by
  rw [isLocalEnum, Bool.and_eq_true] at h
  exact h.1

namespace Resource

variable {r : Resource} {resources : List Resource} {e : Enum}

/-- Every enum that is shown or generated for a resource. -/
def allEnums (r : Resource) (resources : List Resource) : List Enum :=
  r.enums ++ r.localEnums ++ r.schemalessEnums resources ++ r.generatedEnums resources

theorem isEnum_of_mem_enums (h : e ∈ r.enums) : e.schema.isEnum = true := by
  obtain ⟨a, ha, rfl⟩ := List.mem_map.1 h
  exact Attribute.isEnum_of_isLocalEnum (List.mem_filter.1 ha).2

theorem isEnum_of_mem_nestedEnums (h : e ∈ r.nestedEnums) : e.schema.isEnum = true := by
  obtain ⟨a, -, h⟩ := List.mem_flatMap.1 h
  obtain ⟨f, hf, rfl⟩ := List.mem_map.1 h
  have hlocal := (List.mem_filter.1 hf).2
  rw [Bool.and_eq_true] at hlocal
  exact Attribute.isEnum_of_isLocalEnum hlocal.1

/-- Whatever is found among the attributes of a resource has values in its schema. -/
theorem isEnum_of_mem_localEnums (h : e ∈ r.localEnums) : e.schema.isEnum = true := by
  rcases List.mem_append.1 (Enum.mem_of_mem_dedupe h) with h | h
  · exact isEnum_of_mem_enums h
  · exact isEnum_of_mem_nestedEnums h

/-- So has what is found among inputs. -/
theorem isEnum_of_mem_schemalessEnums (h : e ∈ r.schemalessEnums resources) :
    e.schema.isEnum = true := by
  have h := Enum.mem_of_mem_dedupe h
  rw [schemalessFound, Enum.firstOfSignature_eq] at h
  obtain ⟨scanned, -, h⟩ := List.mem_flatMap.1 (firstOf_sublist.subset h)
  obtain ⟨action, -, h⟩ := List.mem_flatMap.1 h
  obtain ⟨holder, -, h⟩ := List.mem_flatMap.1 h
  obtain ⟨f, -, h⟩ := List.mem_filterMap.1 h
  obtain ⟨⟨hlocal, -⟩, -, rfl⟩ := schemalessEnum?_eq_some_iff.1 h
  exact Attribute.isEnum_of_isLocalEnum hlocal

/-- Every enum of a resource is made of a schema with values. -/
theorem isEnum_of_mem_allEnums (h : e ∈ r.allEnums resources) : e.schema.isEnum = true := by
  simp only [allEnums, List.mem_append] at h
  rcases h with ((h | h) | h) | h
  · exact isEnum_of_mem_enums h
  · exact isEnum_of_mem_localEnums h
  · exact isEnum_of_mem_schemalessEnums h
  · rcases List.mem_append.1 (Enum.mem_of_mem_dedupe h) with h | h
    · exact isEnum_of_mem_schemalessEnums h
    · exact isEnum_of_mem_localEnums h

end Resource

/-! ## Uses of enums -/

theorem AttributeKind.isEnumKind_ite {p : Prop} [Decidable p] {x y : AttributeKind}
    (hx : x.isEnumKind = false) (hy : y.isEnumKind = false) :
    (if p then x else y).isEnumKind = false := by
  by_cases h : p
  · rwa [if_pos h]
  · rwa [if_neg h]

namespace Schema

/-- A list of an enum is an array. -/
theorem isArray_of_isListOfEnum {s : Schema} (h : s.isListOfEnum = true) : s.isArray = true := by
  simp only [isListOfEnum, isTypedList, Bool.and_eq_true, decide_eq_true_eq] at h
  rw [isArray_iff, shape, h.1.1.1]
  rfl

/-- An attribute of a kind for enums has a schema with values. -/
theorem isEnum_of_kindOf {s : Schema} (name : String) (qa : Bool)
    (h : (s.kindOf name qa).isEnumKind = true) : s.isEnum = true ∨ s.isListOfEnum = true := by
  by_contra hnot
  rw [not_or, Bool.not_eq_true, Bool.not_eq_true] at hnot
  refine Bool.eq_false_iff.1 ?_ h
  simp only [kindOf, hnot.1, hnot.2, Bool.false_and, Bool.false_eq_true, if_false]
  repeat' apply AttributeKind.isEnumKind_ite
  all_goals rfl

/-- A list of enum values that is textual has a value, so that it is an enum. -/
theorem IsTextual.isEnum {s : Schema} (h : s.IsTextual)
    (henum : s.isEnum = true ∨ s.isListOfEnum = true) : s.isEnum = true := by
  rcases henum with henum | hlist
  · exact henum
  · have harray := isArray_of_isListOfEnum hlist
    rcases h with hstring | ⟨-, i, hitems, t, ht⟩
    · rw [isArray_iff, hstring] at harray
      cases harray
    · rw [isEnum_of_items harray hitems]
      exact hasEnum_of_mem ht

end Schema

namespace Typed

variable {u : EnumUse}

/-- So has a parameter that is passed as an enum. -/
theorem isEnum_of_parameterKind {a : Attribute} (h : a.parameterKind = .enum) :
    a.schema.isEnum = true ∨ a.schema.isListOfEnum = true := by
  refine Schema.isEnum_of_kindOf a.name a.qa ?_
  by_contra hkind
  have hkind : a.kind.isEnumKind = false := Bool.not_eq_true _ ▸ hkind
  have hne : a.parameterKind ≠ .enum := by
    rw [Attribute.parameterKind, hkind, if_neg Bool.false_ne_true]
    repeat' apply Attribute.ite_ne_of_ne
    all_goals decide
  exact hne h

/-- So has a field that uses an enum. -/
theorem isEnum_of_mem_fieldUses {parent : Attribute} (h : u ∈ fieldUses parent) :
    u.source.schema.isEnum = true ∨ u.source.schema.isListOfEnum = true := by
  obtain ⟨f, hf, rfl⟩ := List.mem_map.1 h
  have hkind := (List.mem_filter.1 hf).2
  rw [Bool.and_eq_true] at hkind
  exact Schema.isEnum_of_kindOf f.name f.qa hkind.2

/-- So has an input that uses one. -/
theorem isEnum_of_mem_inputUses {action : Action} (h : u ∈ inputUses action) :
    u.source.schema.isEnum = true ∨ u.source.schema.isListOfEnum = true := by
  obtain ⟨e, -, h⟩ := List.mem_flatMap.1 h
  split at h
  · exact isEnum_of_mem_fieldUses h
  · split at h
    · rename_i hkind
      rw [List.mem_singleton.1 h]
      exact isEnum_of_parameterKind hkind
    · cases h

/-- What refers to an enum is classified as one, or it is a list with an empty list of values. -/
theorem isEnum_of_mem_enumUses {r : Resource} (h : u ∈ enumUses r) :
    u.source.schema.isEnum = true ∨ u.source.schema.isListOfEnum = true := by
  rcases List.mem_append.1 h with h | h
  · obtain ⟨action, -, h⟩ := List.mem_flatMap.1 h
    exact isEnum_of_mem_inputUses h
  · obtain ⟨sub, -, h⟩ := List.mem_flatMap.1 h
    obtain ⟨a, ha, rfl⟩ := List.mem_map.1 h
    exact .inl (List.mem_filter.1 ha).2

/-! ## Agreement -/

/-- Every enum of a resource has values, and so has every enum that its shape refers to. -/
def EnumsHaveValues (r : Resource) (resources : List Resource) : Prop :=
  (∀ e ∈ r.allEnums resources, e.values ≠ []) ∧ ∀ u ∈ enumUses r, u.source.enum.values ≠ []

/-- Wherever an enum is used, it has values just when its schema is textual. -/
theorem values_ne_nil_of_mem_enumUses {r : Resource} (h : u ∈ enumUses r) :
    u.source.enum.values ≠ [] ↔ u.source.schema.IsTextual := by
  rw [Enum.values_ne_nil_iff]
  exact and_iff_right_of_imp fun htext => htext.isEnum (isEnum_of_mem_enumUses h)

/-- **When classification and values agree.** What has values is classified as an enum, and what is
classified as an enum has values exactly when its schema is textual. The enums of a resource and
those that its shape refers to all have values exactly when their schemas are all textual. -/
theorem isEnum_iff_values_iff (a : Attribute) (r : Resource) (resources : List Resource) :
    ((a.traits.isEnum = true ↔ a.enum.values ≠ []) ↔
        (a.traits.isEnum = true → a.schema.IsTextual)) ∧
      (EnumsHaveValues r resources ↔ (∀ e ∈ r.allEnums resources, e.schema.IsTextual) ∧
        ∀ u ∈ enumUses r, u.source.schema.IsTextual) := by
  constructor
  · have htraits : a.traits.isEnum = a.schema.isEnum := rfl
    have hvalues : a.enum.values ≠ [] ↔ a.schema.isEnum = true ∧ a.schema.IsTextual :=
      Enum.values_ne_nil_iff
    rw [htraits, hvalues]
    constructor
    · intro hagree henum
      exact (hagree.1 henum).2
    · intro htext
      exact ⟨fun henum => ⟨henum, htext henum⟩, And.left⟩
  · refine and_congr (forall₂_congr fun e he => ?_) (forall₂_congr fun u hu => ?_)
    · rw [Enum.values_ne_nil_iff]
      exact and_iff_right (Resource.isEnum_of_mem_allEnums he)
    · exact values_ne_nil_of_mem_enumUses hu

/-! ## An integer with values -/

def prioritySchema : Schema := { type := some "integer", enum := some [.int 1, .int 2] }

def priority : Attribute := ⟨"priority", prioritySchema, false, false⟩

/-- A resource whose only property is the integer. -/
def ticket : Resource where
  name := "Ticket"
  schema := { type := some "object", properties := some [("priority", prioritySchema)] }
  id := some "ticket"
  givenOrder := none
  qa := false
  actions := []

theorem values_priority : priority.enum.values = [] := rfl

/-- The integer is classified as an enum, and the resource has an enum of it, without any value. -/
theorem not_forall_isEnum_iff_values :
    (¬ ∀ a : Attribute, a.traits.isEnum = true ↔ a.enum.values ≠ []) ∧
      ¬ ∀ (r : Resource) (resources : List Resource), EnumsHaveValues r resources := by
  constructor
  · intro h
    exact (h priority).1 rfl values_priority
  · intro h
    have henums : ticket.enums = [priority.enum] := by cbv
    have hmem : priority.enum ∈ ticket.allEnums [ticket] := by
      rw [Resource.allEnums, henums]
      exact List.mem_append_left _ (List.mem_append_left _ (List.mem_append_left _
        (List.mem_singleton_self _)))
    exact (h ticket [ticket]).1 _ hmem values_priority

end Typed

end SdkModel
