import Mathlib.Logic.Basic
import SdkModel.Action.Inputs
import SdkModel.Proofs.Action.Build
import SdkModel.Proofs.Schema.Build

/-!
# Visible inputs

Three places tell which inputs of an action remain in generated code. An argument list keeps the
inputs that are visible as attributes, whereas the listed parameters are those whose own schema is
not hidden, and whether there are inputs at all is read off the declarations. These agree
(`OneVisibilityRule`) exactly when none of the listed parameters is hollow and the declarations are
hidden as their schemas are (`oneVisibilityRule_iff`).
-/

namespace SdkModel

open Logged (Quiet quiet_iff quiet_bind_iff quiet_pure_iff)

namespace Schema

variable {s : Schema} {qa : Bool}

/-- Not hidden itself, but what it holds is. -/
def isHollow (s : Schema) (qa : Bool) : Bool :=
  !s.isHidden qa &&
    (!s.propertyList.isEmpty && s.propertyList.all (·.2.isHidden qa) ||
      s.items.any (·.isHidden qa))

/-- A schema is visible unless it is hidden or has nothing visible in it. -/
theorem isVisible_eq_isHollow (s : Schema) (qa : Bool) :
    s.isVisible qa = (!s.isHidden qa && !s.isHollow qa) := by
  have hany : s.propertyList.any (fun p => !p.2.isHidden qa) =
      !s.propertyList.all (·.2.isHidden qa) := by
    rw [List.not_all_eq_any_not]
  rw [isVisible, isHollow, hany]
  cases s.isHidden qa <;> simp

theorem not_isHidden_of_isHollow (h : s.isHollow qa = true) : s.isHidden qa = false := by
  rw [isHollow, Bool.and_eq_true, Bool.not_eq_true'] at h
  exact h.1

/-- In QA mode nothing is hollow. -/
theorem isHollow_of_qa (s : Schema) : s.isHollow true = false := by
  rw [isHollow]
  cases s.propertyList <;> simp [isHidden_of_qa]

end Schema

namespace Action

variable {a : Action} {ps : List Parameter} {p : Parameter}

/-- The three places agree on which inputs are visible. -/
structure OneVisibilityRule (a : Action) : Prop where
  query (options : InputOptions) :
    a.visibleQueryParameters.map (·.asAttribute) = (Inputs.mk a options).visibleQuery
  body (options : InputOptions) :
    a.visibleBodyParameters.map (·.asAttribute) = (Inputs.mk a options).visibleBody
  inputs : a.hasInputs = true ↔ ∃ p ∈ a.declaredParameters, p.asAttribute.isVisible = true

/-! ## Listed and kept -/

theorem isVisible_asAttribute (p : Parameter) :
    p.asAttribute.isVisible = (!p.schema.isHollow p.qa && !p.isHidden) := by
  rw [Bool.and_comm]
  exact p.schema.isVisible_eq_isHollow p.qa

/-- What is kept of a list is what is listed but for the hollow ones. -/
theorem kept_eq (ps : List Parameter) : (ps.map (·.asAttribute)).filter (·.isVisible) =
    ((ps.filter (!·.isHidden)).filter fun p => !p.schema.isHollow p.qa).map (·.asAttribute) := by
  rw [List.filter_map, List.filter_filter]
  refine congrArg (List.map _) (List.filter_congr fun p _ => ?_)
  exact isVisible_asAttribute p

/-- The inputs that are listed are those that are kept just when no schema is hollow. -/
theorem listed_eq_kept_iff :
    (ps.filter (!·.isHidden)).map (·.asAttribute) =
        (ps.map (·.asAttribute)).filter (·.isVisible) ↔
      ∀ p ∈ ps, p.schema.isHollow p.qa = false := by
  rw [kept_eq]
  constructor
  · intro heq p hp
    by_contra hhollow
    rw [Bool.not_eq_false] at hhollow
    have hlength := congrArg List.length heq
    rw [List.length_map, List.length_map, eq_comm, List.length_filter_eq_length_iff] at hlength
    have hlisted : p ∈ ps.filter (!·.isHidden) := by
      refine List.mem_filter.2 ⟨hp, ?_⟩
      rw [Parameter.isHidden, Schema.not_isHidden_of_isHollow hhollow]
      rfl
    have hsolid := hlength p hlisted
    rw [hhollow] at hsolid
    cases hsolid
  · intro hsolid
    refine congrArg (List.map _) (List.filter_eq_self.2 fun p hp => ?_).symm
    rw [hsolid p (List.mem_filter.1 hp).1]
    rfl

theorem mem_queryParameters : p ∈ a.queryParameters ↔ p ∈ a.declaredQuery := mem_sortByOrder

theorem mem_bodyParameters : p ∈ a.bodyParameters ↔ p ∈ a.declaredBody := mem_sortByOrder

theorem mem_declaredParameters_of_query (h : p ∈ a.declaredQuery) : p ∈ a.declaredParameters := by
  rw [declaredQuery] at h
  split at h
  · exact (List.filter_sublist.map _).subset h
  · cases h

theorem qa_of_mem_declaredBody (h : p ∈ a.declaredBody) : p.qa = a.qa := by
  rw [declaredBody] at h
  split at h
  · obtain ⟨q, -, rfl⟩ := List.mem_map.1 h
    rfl
  · cases h

/-! ## Declared inputs -/

/-- An action counts as one without inputs when all of its parameters are hidden by themselves. -/
theorem hasInputs_eq_false_iff : a.hasInputs = false ↔
    ∀ p ∈ a.declaredParameters, p.extensions.hiddenFromSdk = true ∧ p.qa = false := by
  simp [hasInputs, Parameter.isDeclaredVisible]

/-- No parameter is visible when each of them is hidden, by itself or with its schema. -/
theorem not_exists_visible_iff :
    (¬ ∃ p ∈ a.declaredParameters, p.asAttribute.isVisible = true) ↔
      ∀ p ∈ a.declaredParameters, p.isHidden = true ∨ p.schema.isHollow p.qa = true := by
  rw [not_exists]
  refine forall_congr' fun p => ?_
  rw [not_and, isVisible_asAttribute]
  cases p.isHidden <;> simp

/-- Without hollow schemas the rules differ on no parameter. -/
theorem oneVisibilityRule_of_solid
    (hsolid : ∀ p ∈ a.declaredQuery ++ a.declaredBody, p.schema.isHollow p.qa = false)
    (hinputs : a.hasInputs = true ↔ ∃ p ∈ a.declaredParameters, p.asAttribute.isVisible = true) :
    a.OneVisibilityRule := by
  refine ⟨fun _ => listed_eq_kept_iff.2 fun p hp => ?_,
    fun _ => listed_eq_kept_iff.2 fun p hp => ?_, hinputs⟩
  · exact hsolid p (List.mem_append_left _ (mem_queryParameters.1 hp))
  · exact hsolid p (List.mem_append_right _ (mem_bodyParameters.1 hp))

/-- **When the inputs of an action are counted by one rule.** They are exactly when no listed
parameter is hollow and all declarations are hidden just when all of their schemas are hidden or
hollow. -/
theorem oneVisibilityRule_iff (a : Action) : a.OneVisibilityRule ↔
    (∀ p ∈ a.declaredQuery ++ a.declaredBody, p.schema.isHollow p.qa = false) ∧
      ((∀ p ∈ a.declaredParameters, p.extensions.hiddenFromSdk = true ∧ p.qa = false) ↔
        ∀ p ∈ a.declaredParameters, p.isHidden = true ∨ p.schema.isHollow p.qa = true) := by
  rw [← hasInputs_eq_false_iff, ← not_exists_visible_iff, ← Bool.not_eq_true, not_iff_not]
  constructor
  · intro h
    refine ⟨fun p hp => ?_, h.inputs⟩
    rcases List.mem_append.1 hp with hquery | hbody
    · exact listed_eq_kept_iff.1 (h.query {}) p (mem_queryParameters.2 hquery)
    · exact listed_eq_kept_iff.1 (h.body {}) p (mem_bodyParameters.2 hbody)
  · rintro ⟨hsolid, hinputs⟩
    exact oneVisibilityRule_of_solid hsolid hinputs

/-- Where hidden content is exposed, the inputs of every action are counted by one rule. -/
theorem oneVisibilityRule_of_exposed {rules : BuildRules} {method : HttpMethod} {url : String}
    {operation : Entries} (h : (ofOperation rules method url operation).outcome = .ok a)
    (hqa : rules.qa = true) : a.OneVisibilityRule := by
  obtain ⟨hbody, hdeclared⟩ := qa_of_ofOperation h
  rw [hqa] at hbody hdeclared
  refine oneVisibilityRule_of_solid (fun p hp => ?_) ?_
  · have hp : p.qa = true := by
      rcases List.mem_append.1 hp with hp | hp
      · exact hdeclared p (mem_declaredParameters_of_query hp)
      · exact (qa_of_mem_declaredBody hp).trans hbody
    rw [hp, Schema.isHollow_of_qa]
  · rw [hasInputs, List.any_eq_true]
    refine exists_congr fun p => and_congr_right fun hp => ?_
    rw [isVisible_asAttribute, Parameter.isDeclaredVisible, Parameter.isHidden, hdeclared p hp,
      Schema.isHollow_of_qa, Schema.isHidden_of_qa, Bool.not_true, Bool.and_false,
      Bool.not_false, Bool.and_self]

/-! ## A declaration with a hidden schema -/

def hiddenSchemaEntries : Entries :=
  [(.text "type", .text "string"), (.text "x-cb-hidden-from-client-sdk", .bool true)]

def tagEntries : Entries :=
  [(.text "name", .text "tag"), (.text "in", .text "query"),
    (.text "schema", .object hiddenSchemaEntries)]

def listOperation : Entries :=
  [(.text "x-cb-operation-method-name", .text "list"),
    (.text "parameters", .list [.object tagEntries])]

def hiddenSchema : Schema where
  type := some "string"
  extensions := { hiddenFromSdk := true, declared := ["hidden_from_sdk"] }

def tagParameter : Parameter where
  name := "tag"
  schema := hiddenSchema
  isRequired := false
  qa := false

def listAction : Action where
  id := .null
  method := .get
  url := "/things"
  name := "list"
  description := .text ""
  deprecated := false
  qa := false
  extensions := { methodName := some "list", declared := ["method_name"] }
  body := none
  success := none
  parameters := [(.query, tagParameter)]

theorem quiet_tagEntries (here : String) :
    Quiet (parameter {} here tagEntries) (.query, tagParameter) := by
  have hschema : Quiet (schemaAt {} (here ++ "/schema") (Entries.get tagEntries "schema"))
      (some hiddenSchema) := Logged.quiet_map_iff.2 ⟨_, Schema.quiet_leaf (by decide) rfl rfl, rfl⟩
  have hread : (SchemaExtensions.read tagEntries).result = .ok {} := rfl
  refine quiet_bind_iff.2 ⟨_, hschema,
    quiet_bind_iff.2 ⟨{}, quiet_decode (by decide) hread, ?_⟩⟩
  rw [quiet_pure_iff]
  rfl

theorem quiet_listOperation : Quiet (ofOperation {} .get "/things" listOperation) listAction := by
  have hread : (OperationExtensions.read listOperation).result = .ok listAction.extensions :=
    rfl
  have hparameters : Quiet (parametersFrom {} (place .get "/things") 0 [tagEntries])
      listAction.parameters :=
    quiet_bind_iff.2 ⟨_, quiet_tagEntries _, quiet_bind_iff.2 ⟨[], rfl, rfl⟩⟩
  have hparts : Quiet (ofParts {} .get "/things" listOperation listAction.extensions "list")
      listAction :=
    quiet_bind_iff.2 ⟨[.object tagEntries], rfl, quiet_bind_iff.2 ⟨none, rfl,
      quiet_bind_iff.2 ⟨none, rfl, quiet_bind_iff.2 ⟨_, hparameters, rfl⟩⟩⟩⟩
  exact quiet_ofOperation (by decide) (by decide) hread rfl hparts

/-- An action has inputs though the only one is neither listed nor kept. -/
theorem not_forall_oneVisibilityRule :
    ¬ ∀ (rules : BuildRules) (method : HttpMethod) (url : String) (operation : Entries)
        (a : Action), (ofOperation rules method url operation).outcome = .ok a →
      a.OneVisibilityRule := by
  intro h
  have hrule := h {} .get "/things" listOperation listAction (quiet_iff.1 quiet_listOperation).2
  obtain ⟨p, hp, hvisible⟩ := hrule.inputs.1 (by decide : listAction.hasInputs = true)
  obtain rfl : p = tagParameter := List.mem_singleton.1 hp
  have hhidden : tagParameter.asAttribute.isVisible = false := by decide
  rw [hhidden] at hvisible
  cases hvisible

end Action

end SdkModel
