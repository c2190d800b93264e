import SdkModel.Proofs.Typed.ShapedOnce
import SdkModel.Spec.EnumSets

/-!
# Actions with optional inputs

An action says that all its inputs are optional when no body or query parameter is required and none
requires a field. A parameter looks for required fields in its own schema only, while an input that
is an array without properties takes its fields from its items. So what such an action requires is
no parameter, and no field but those that the items of an array list as required
(`not_isRequired_of_saysOptional`).
-/

namespace SdkModel

variable {a e : Attribute}

/-! ## Entries of the flat view -/

namespace Typed

variable {classCase : String → String} {context : ShapingContext} {action : Action}
  {p f : ShapedParameter}

theorem mem_inputs_of_mem_retained (h : a ∈ (flatView action).retained) : a ∈ action.inputs := by
  have hretained : (flatView action).retained =
      (flatView action).visibleBody ++ (flatView action).visibleQuery := by
    unfold Inputs.retained Inputs.withoutPagination
    rfl
  rw [hretained] at h
  rw [Action.inputs, List.map_append]
  rcases List.mem_append.1 h with h | h
  · exact List.mem_append_left _ (List.mem_filter.1 h).1
  · exact List.mem_append_right _ (List.mem_filter.1 h).1

/-- An entry has the name of an input and is required when the input is. -/
theorem exists_input_of_mem_flatView (h : e ∈ (flatView action).all) :
    ∃ a ∈ action.inputs, a.name = e.name ∧ a.isRequired = e.isRequired := by
  have hall : (flatView action).all = Inputs.singleLevel (flatView action).retained := rfl
  rw [hall] at h
  obtain ⟨a, ha, hentry⟩ := Inputs.mem_singleLevel h
  refine ⟨a, mem_inputs_of_mem_retained ha, ?_⟩
  rcases hentry with rfl | ⟨b, -, rfl⟩
  · exact ⟨rfl, rfl⟩
  · exact ⟨rfl, rfl⟩

theorem wholeInput_mem_inputs (h : ∃ a ∈ action.inputs, a.name = e.name) :
    wholeInput action e ∈ action.inputs := by
  have hwhole : wholeInput action e =
      ((action.inputs.filter (·.name = e.name)).getLast?).getD e := rfl
  obtain ⟨a, ha, hname⟩ := h
  have hfound : a ∈ action.inputs.filter (·.name = e.name) :=
    List.mem_filter.2 ⟨ha, decide_eq_true hname⟩
  cases hlast : (action.inputs.filter (·.name = e.name)).getLast? with
  | none =>
    rw [List.getLast?_eq_none_iff] at hlast
    rw [hlast] at hfound
    cases hfound
  | some w =>
    rw [hwhole, hlast]
    exact (List.mem_filter.1 (List.mem_of_getLast? hlast)).1

/-! ## Parameters and their fields -/

theorem fieldParameter_eq (classCase : String → String) (context : ShapingContext)
    (parent b : Attribute) : (fieldParameter classCase context parent b).value.name = b.name ∧
      (fieldParameter classCase context parent b).value.isRequired = b.isRequired := by
  unfold fieldParameter
  split
  · exact ⟨rfl, rfl⟩
  · split
    · exact ⟨rfl, rfl⟩
    · exact ⟨rfl, rfl⟩

/-- A field of a parameter is a field of the input. -/
theorem exists_nested_of_mem_fields (h : f ∈ (fieldParameters classCase context a).value) :
    ∃ b ∈ a.nested, b.name = f.name ∧ b.isRequired = f.isRequired := by
  obtain ⟨b, hb, rfl⟩ := List.mem_map.1 h
  have hnested : b ∈ a.nested := mem_sortByOrder.1 (List.mem_filter.1 hb).1
  obtain ⟨hname, hrequired⟩ := fieldParameter_eq classCase context a b
  exact ⟨b, hnested, hname.symm, hrequired.symm⟩

/-- A container carries the fields of the whole input. -/
theorem fields_entryParameter (classCase : String → String) (context : ShapingContext)
    (h : e.parameterKind.isContainer = true) :
    (entryParameter classCase context action e).value.fields =
      (fieldParameters classCase context (wholeInput action e)).value := by
  unfold entryParameter
  rw [if_pos h]
  rfl

/-- A parameter is shaped from an input of its name. -/
theorem exists_input_of_mem_shapeInputs
    (h : p ∈ (shapeInputs classCase context action).value) :
    ∃ a ∈ action.inputs, a.name = p.name ∧ a.isRequired = p.isRequired ∧
      ∀ f ∈ p.fields, ∃ b ∈ a.nested, b.name = f.name ∧ b.isRequired = f.isRequired := by
  obtain ⟨e, he, rfl⟩ := List.mem_map.1 h
  obtain ⟨a, ha, hname, hrequired⟩ :=
    exists_input_of_mem_flatView ((firstEntries_sublist _ _).subset he)
  unfold entryParameter
  by_cases hkind : e.parameterKind.isContainer = true
  · rw [if_pos hkind]
    refine ⟨wholeInput action e, wholeInput_mem_inputs ⟨a, ha, hname⟩, rfl, rfl, ?_⟩
    intro f hf
    exact exists_nested_of_mem_fields hf
  · rw [if_neg hkind]
    refine ⟨a, ha, hname, hrequired, ?_⟩
    intro f hf
    cases hf

end Typed

/-! ## What is required of an input -/

/-- The name is that of a field which the items of an array require; the array has no properties of
its own. -/
def Schema.ItemsRequire (s : Schema) (n : String) : Prop :=
  s.properties = none ∧ ∃ i, s.arrayItems? = some i ∧
    ∃ m ∈ i.requiredNames, Naming.attributeName m = n

/-- An input without properties of its own, or whose schema requires nothing, requires no field
itself. -/
theorem Attribute.itemsRequire_of_mem_nested {a b : Attribute} (hb : b ∈ a.nested)
    (hrequired : b.isRequired = true)
    (hown : ∀ ps, a.schema.properties = some ps → a.schema.requiredNames = []) :
    a.schema.ItemsRequire b.name := by
  obtain ⟨c, hc, rfl⟩ := mem_nested_iff.1 hb
  have hchild : c ∈ a.schema.children := (List.mem_filter.1 hc).1
  obtain ⟨ps, hps⟩ | ⟨hn, i, ps, hi, hps⟩ := owner_of_mem_nested hb
  · rw [Schema.children_of_properties hps] at hchild
    obtain ⟨property, -, rfl⟩ := List.mem_map.1 hchild
    have hname : property.1 ∈ a.schema.requiredNames := of_decide_eq_true hrequired
    rw [hown ps hps] at hname
    cases hname
  · rw [Schema.children_of_items hn hi hps] at hchild
    obtain ⟨property, -, rfl⟩ := List.mem_map.1 hchild
    exact ⟨hn, i, hi, property.1, of_decide_eq_true hrequired, rfl⟩

namespace Action

variable {action : Action}

/-- When nothing is required, no input is, and none with properties requires a field. -/
theorem not_isRequired_of_mem_inputs (hbody : action.allBodyOptional = true)
    (hquery : action.allQueryOptional = true) (h : a ∈ action.inputs) : a.isRequired = false ∧
      ∀ ps, a.schema.properties = some ps → a.schema.requiredNames = [] := by
  obtain ⟨p, hp, rfl⟩ := List.mem_map.1 h
  have hoptional : (p.isRequired || p.hasRequiredField) = false := by
    rw [allBodyOptional, allOptional, Bool.not_eq_true', List.any_eq_false] at hbody
    rw [allQueryOptional, allOptional, Bool.not_eq_true', List.any_eq_false] at hquery
    rw [Bool.eq_false_iff]
    rcases List.mem_append.1 hp with hp | hp
    · exact hbody p hp
    · exact hquery p hp
  rw [Bool.or_eq_false_iff] at hoptional
  refine ⟨hoptional.1, fun ps hps => ?_⟩
  have hfields := hoptional.2
  have hschema : p.schema.properties = some ps := hps
  rw [Parameter.hasRequiredField, hschema, Option.any_some, Bool.or_eq_false_iff] at hfields
  have hnone : p.schema.requiredNames = [] := by
    simpa [Parameter.requiresSome] using hfields.1
  exact hnone

end Action

/-! ## The flag -/

namespace Typed

variable {classCase : String → String} {context : ShapingContext} {action : Action}

theorem action_actionShape :
    (actionShape classCase context action).value.action = action := rfl

theorem parameters_actionShape : (actionShape classCase context action).value.parameters =
    (shapeInputs classCase context action).value := rfl

/-- The shaped action says that all its inputs are optional. -/
def ActionShape.SaysOptional (s : ActionShape) : Prop :=
  ∃ es : Entries, s.toValue = .object es ∧ es.get "is_all_params_optional" = .bool true

theorem ActionShape.get_flag {s : ActionShape} {es : Entries} (h : s.toValue = .object es) :
    es.get "is_all_params_optional" =
      .bool (s.action.allBodyOptional && s.action.allQueryOptional) := by
  cases h
  rfl

theorem ActionShape.saysOptional_iff {s : ActionShape} : s.SaysOptional ↔
    s.action.allBodyOptional = true ∧ s.action.allQueryOptional = true := by
  rw [← Bool.and_eq_true]
  constructor
  · rintro ⟨es, hes, hflag⟩
    rw [get_flag hes] at hflag
    exact Value.bool.inj hflag
  · intro h
    refine ⟨_, rfl, ?_⟩
    rw [get_flag rfl, h]

/-- **What an action with optional inputs requires.** No parameter is required, and a field only
where the parameter is an array and its items list the field as required. -/
theorem not_isRequired_of_saysOptional
    (h : (actionShape classCase context action).value.SaysOptional) :
    ∀ p ∈ (actionShape classCase context action).value.parameters, p.isRequired = false ∧
      ∀ f ∈ p.fields, f.isRequired = true →
        ∃ a ∈ action.inputs, a.name = p.name ∧ a.schema.ItemsRequire f.name := by
  intro p hp
  rw [ActionShape.saysOptional_iff, action_actionShape] at h
  rw [parameters_actionShape] at hp
  obtain ⟨a, ha, hname, hrequired, hfields⟩ := exists_input_of_mem_shapeInputs hp
  obtain ⟨hoptional, hown⟩ := Action.not_isRequired_of_mem_inputs h.1 h.2 ha
  refine ⟨hrequired.symm.trans hoptional, fun f hf hfield => ⟨a, ha, hname, ?_⟩⟩
  obtain ⟨b, hb, hbname, hbrequired⟩ := hfields f hf
  rw [← hbname]
  exact Attribute.itemsRequire_of_mem_nested hb (hbrequired.trans hfield) hown

/-! ## A list of lines -/

/-- A list of lines, each with an amount. -/
def linesSchema : Schema where
  type := some "array"
  items := some {
    type := some "object"
    required := some ["amount"]
    properties := some
      [("amount", { type := some "integer", extensions := { isSubResource := true } })] }
  extensions := { isCompositeArrayRequestBody := true }

def linesAction : Action := postAction [("lines", linesSchema)]

theorem saysOptional_lines :
    (actionShape camelCase bareContext linesAction).value.SaysOptional := by
  rw [ActionShape.saysOptional_iff, action_actionShape]
  exact ⟨by cbv, by cbv⟩

theorem not_isRequired_of_saysOptional_lines :
    (actionShape camelCase bareContext linesAction).value.SaysOptional ∧
      ∀ p ∈ (actionShape camelCase bareContext linesAction).value.parameters,
        p.isRequired = false ∧ ∀ f ∈ p.fields, f.isRequired = true →
          ∃ a ∈ linesAction.inputs, a.name = p.name ∧ a.schema.ItemsRequire f.name :=
  ⟨saysOptional_lines, not_isRequired_of_saysOptional saysOptional_lines⟩

/-- The lines can be left out, so that the action says that its inputs are optional; the amount of a
line is required. -/
theorem not_forall_not_isRequired :
    ¬ ∀ (context : ShapingContext) (action : Action),
      (actionShape camelCase context action).value.SaysOptional →
        ∀ p ∈ (actionShape camelCase context action).value.parameters,
          p.isRequired = false ∧ ∀ f ∈ p.fields, f.isRequired = false := by
  intro h
  have hentries : ((firstEntries [] (flatView linesAction).all).any fun e =>
      e.parameterKind.isContainer && ((wholeInput linesAction e).sortedNested.filter
        (isInputField (wholeInput linesAction e))).any (·.isRequired)) = true := by
    decide +kernel
  obtain ⟨e, he, hfields⟩ := List.any_eq_true.1 hentries
  rw [Bool.and_eq_true, List.any_eq_true] at hfields
  obtain ⟨hkind, b, hb, hrequired⟩ := hfields
  have hnone := h bareContext linesAction saysOptional_lines
  rw [parameters_actionShape] at hnone
  have hp := (hnone _ (List.mem_map_of_mem he)).2
  rw [fields_entryParameter _ _ hkind] at hp
  have hf := hp _ (List.mem_map_of_mem hb)
  rw [(fieldParameter_eq _ _ _ b).2, hrequired] at hf
  cases hf

end Typed

end SdkModel
