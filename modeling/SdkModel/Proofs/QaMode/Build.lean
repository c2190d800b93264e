import SdkModel.Proofs.Action.Build
import SdkModel.Spec.Basic

/-!
# Building in QA mode

The mode of a run is noted at every action and parameter that is built, and read off them later. It
decides nothing while a document is built, so that the spec of a document in QA mode is the one
without it, exposed (`Spec.build_exposing`).
-/

namespace SdkModel

open Logged (map_of_bind map_bind)

def Attribute.exposed (a : Attribute) : Attribute := { a with qa := true }

def Parameter.exposed (p : Parameter) : Parameter := { p with qa := true }

def Action.exposed (a : Action) : Action :=
  { a with qa := true, parameters := a.parameters.map fun p => (p.1, p.2.exposed) }

def BuildRules.exposing (rules : BuildRules) (qa : Bool) : BuildRules := { rules with qa }

/-- The settings with QA mode switched on or off. -/
def GenerationConfig.exposing (config : GenerationConfig) (qa : Bool) : GenerationConfig :=
  { config with qaMode := qa }

/-- The spec as it is in QA mode. -/
def Spec.exposed (spec : Spec) : Spec :=
  { spec with
    config := spec.config.exposing true
    actions := spec.actions.map fun g => (g.1, g.2.map Action.exposed) }

namespace Action

variable (rules : BuildRules)

theorem parametersFrom_exposing (here : String) (index : Nat) (declared : List Entries) :
    parametersFrom (rules.exposing true) here index declared =
      (List.map fun p => (p.1, p.2.exposed)) <$>
        parametersFrom (rules.exposing false) here index declared := by
  have hparameter (here : String) (es : Entries) :
      parameter (rules.exposing true) here es =
        (fun p => (p.1, p.2.exposed)) <$> parameter (rules.exposing false) here es := by
    unfold parameter
    rw [map_of_bind]
    refine congrArg (_ >>= ·) (funext fun schema => ?_)
    rw [map_of_bind]
    rfl
  induction declared generalizing index with
  | nil => rfl
  | cons es rest ih =>
    rw [parametersFrom, parametersFrom, hparameter, map_bind, map_of_bind]
    refine congrArg (_ >>= ·) (funext fun p => ?_)
    rw [ih, map_bind, map_of_bind]
    rfl

/-- The action of an operation in QA mode is the one without it, exposed. -/
theorem ofOperation_exposing (method : HttpMethod) (url : String) (operation : Entries) :
    ofOperation (rules.exposing true) method url operation =
      exposed <$> ofOperation (rules.exposing false) method url operation := by
  have hparts (extensions : OperationExtensions) (name : String) :
      ofParts (rules.exposing true) method url operation extensions name =
        exposed <$> ofParts (rules.exposing false) method url operation extensions name := by
    unfold ofParts
    simp only [map_of_bind, parametersFrom_exposing, map_bind]
    rfl
  rw [ofOperation_eq, ofOperation_eq]
  simp only [map_of_bind, hparts]
  rfl

end Action

/-- Grouping does not look at what is grouped. -/
theorem Assoc.addTo_map {α β : Type} (f : α → β) (groups : List (String × List α)) (name : String)
    (a : α) :
    addTo (groups.map fun g => (g.1, g.2.map f)) name (f a) =
      (addTo groups name a).map fun g => (g.1, g.2.map f) := by
  induction groups with
  | nil => rfl
  | cons g groups ih =>
    rw [List.map_cons, addTo, addTo]
    split
    · simp
    · rw [ih, List.map_cons]

namespace Spec

theorem groupActions_map (pairs : List (String × Action)) :
    groupActions (pairs.map fun p => (p.1, p.2.exposed)) =
      (groupActions pairs).map fun g => (g.1, g.2.map Action.exposed) := by
  have hfold (groups : List (String × List Action)) :
      (pairs.map fun p => (p.1, p.2.exposed)).foldl
          (fun groups p => Assoc.addTo groups p.1 p.2)
          (groups.map fun g => (g.1, g.2.map Action.exposed)) =
        (pairs.foldl (fun groups p => Assoc.addTo groups p.1 p.2) groups).map
          fun g => (g.1, g.2.map Action.exposed) := by
    induction pairs generalizing groups with
    | nil => rfl
    | cons p pairs ih =>
      rw [List.map_cons, List.foldl_cons, List.foldl_cons, Assoc.addTo_map]
      exact ih _
  exact hfold []

theorem actionsOf_exposing (rules : BuildRules)
    (operations : List (String × HttpMethod × Entries)) :
    actionsOf (rules.exposing true) operations =
      (List.map fun p => (p.1, p.2.exposed)) <$> actionsOf (rules.exposing false) operations := by
  induction operations with
  | nil => rfl
  | cons o rest ih =>
    obtain ⟨url, method, operation⟩ := o
    rw [actionsOf, actionsOf, Action.ofOperation_exposing, map_bind, map_of_bind]
    refine congrArg (_ >>= ·) (funext fun action => ?_)
    have hid : action.exposed.resourceId? = action.resourceId? := rfl
    rw [hid]
    cases action.resourceId? with
    | none =>
      simp only [ih]
      rw [map_of_bind]
    | some id =>
      simp only [ih]
      rw [map_of_bind, map_bind]
      rfl

/-- **The spec of a document in QA mode is the one without it, exposed.** -/
theorem build_exposing (config : GenerationConfig) (document : Entries) :
    build (config.exposing true) document = exposed <$> build (config.exposing false) document := by
  have hactions (entries : Entries) : buildActions (rulesOf (config.exposing true)) entries =
      (List.map fun g => (g.1, g.2.map Action.exposed)) <$>
        buildActions (rulesOf (config.exposing false)) entries := by
    unfold buildActions
    rw [map_of_bind]
    refine congrArg (_ >>= ·) (funext fun paths => ?_)
    have hpairs := actionsOf_exposing (rulesOf config) (operations paths)
    have hgroups := congrArg (· >>= fun pairs => pure (groupActions pairs)) hpairs
    simp only [map_bind, groupActions_map] at hgroups
    rw [map_of_bind]
    exact hgroups
  unfold build ofResolved
  simp only [map_of_bind, hactions, map_bind]
  rfl

end Spec

end SdkModel
