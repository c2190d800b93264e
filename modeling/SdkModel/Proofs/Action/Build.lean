import SdkModel.Action.Basic
import SdkModel.Proofs.Schema.Build

/-!
# Actions of operations

An action is built in three steps: the operation is checked for extensions, for a method name, and
then its schemas and parameters are made. Every part of it exposes hidden content just when the
rules say so.
-/

namespace SdkModel.Action

open Logged (Quiet quiet_bind_iff bind_ok_iff)

variable {rules : BuildRules} {method : HttpMethod} {url here : String} {operation : Entries}

/-! ## Steps -/

/-- An operation has to carry extensions. -/
def requireExtensions (url : String) (operation : Entries) : Build Unit :=
  if (vendorEntries operation).isEmpty then
    contractError .extensions url (operation.get "operationId")
  else pure ()

/-- The method name that an operation has to state. -/
def requireName (url : String) (operation : Entries) (extensions : OperationExtensions) :
    Build String :=
  match extensions.methodName.filter (· ≠ "") with
  | some name => pure name
  | none => contractError .methodName url (operation.get "operationId")

/-- The action of an operation whose extensions and name are known. -/
def ofParts (rules : BuildRules) (method : HttpMethod) (url : String) (operation : Entries)
    (extensions : OperationExtensions) (name : String) : Build Action := do
  let here := place method url
  let description := operation.get "description"
  let declared ← (operation.get "parameters").parts
  let body ← bodySchema rules here (operation.get "requestBody")
  let success ← successSchema rules here (operation.get "responses")
  let parameters ← parametersFrom rules here 0 (declared.filterMap Value.entries?)
  return {
    id := operation.get "operationId"
    method, url, name, extensions, body, success, parameters
    description := if description.isTelling then description else .text ""
    deprecated := (operation.get "deprecated").isTelling
    qa := rules.qa }

theorem ofOperation_eq (method : HttpMethod) (url : String) (operation : Entries) :
    ofOperation rules method url operation = (do
      requireExtensions url operation
      let extensions ← decode OperationExtensions operation (place method url) rules.schemas.strict
      let name ← requireName url operation extensions
      ofParts rules method url operation extensions name) := by
  have hnamed (extensions : OperationExtensions) :
      (match extensions.methodName.filter (· ≠ "") with
        | some name => do
          let name ← pure name
          ofParts rules method url operation extensions name
        | none => do
          let name ← contractError .methodName url (operation.get "operationId")
          ofParts rules method url operation extensions name) = (do
        let name ← requireName url operation extensions
        ofParts rules method url operation extensions name) := by
    unfold requireName
    split <;> rfl
  have hdecoded := congrArg (decode OperationExtensions operation (place method url)
    rules.schemas.strict >>= ·) (funext hnamed)
  unfold ofOperation requireExtensions
  split
  · exact congrArg (contractError .extensions url (operation.get "operationId") >>= ·)
      (funext fun _ => hdecoded)
  · exact hdecoded

/-- An operation whose vendor keys are known and that has a name, from what its parts are built
into. -/
theorem quiet_ofOperation {extensions : OperationExtensions} {name : String} {a : Action}
    (hvendor : (vendorEntries operation).isEmpty = false)
    (hkeys : ∀ key ∈ (vendorEntries operation).map (·.1), key ∈ recordKeys OperationExtensions)
    (hread : (OperationExtensions.read operation).result = .ok extensions)
    (hname : extensions.methodName.filter (· ≠ "") = some name)
    (hparts : Quiet (ofParts rules method url operation extensions name) a) :
    Quiet (ofOperation rules method url operation) a := by
  have hextensions : Quiet (requireExtensions url operation) () := by
    rw [requireExtensions, hvendor]
    rfl
  have hnamed : Quiet (requireName url operation extensions) name := by
    rw [requireName, hname]
    rfl
  rw [ofOperation_eq]
  exact quiet_bind_iff.2 ⟨(), hextensions, quiet_bind_iff.2 ⟨_, quiet_decode hkeys hread,
    quiet_bind_iff.2 ⟨name, hnamed, hparts⟩⟩⟩

/-! ## Exposed parameters -/

theorem qa_of_parameter {es : Entries} {p : ParameterPlace × Parameter}
    (h : (parameter rules here es).outcome = .ok p) : p.2.qa = rules.qa := by
  obtain ⟨schema, -, h⟩ := bind_ok_iff.1 h
  obtain ⟨extensions, -, h⟩ := bind_ok_iff.1 h
  obtain rfl := Except.ok.inj h
  rfl

/-- What holds of every parameter that is built holds of all that are declared. -/
theorem forall_of_parametersFrom {P : ParameterPlace × Parameter → Prop}
    (hP : ∀ {here es p}, (parameter rules here es).outcome = .ok p → P p) {index : Nat}
    {declared : List Entries} {ps : List (ParameterPlace × Parameter)}
    (h : (parametersFrom rules here index declared).outcome = .ok ps) : ∀ p ∈ ps, P p := by
  induction declared generalizing index ps with
  | nil =>
    obtain rfl := Except.ok.inj h
    intro p hp
    cases hp
  | cons es rest ih =>
    obtain ⟨p, hparameter, h⟩ := bind_ok_iff.1 h
    obtain ⟨qs, hrest, h⟩ := bind_ok_iff.1 h
    obtain rfl := Except.ok.inj h
    intro q hq
    rcases List.mem_cons.1 hq with rfl | hq
    · exact hP hparameter
    · exact ih hrest q hq

/-- An action and its declared parameters expose hidden content as the rules say. -/
theorem qa_of_ofOperation {a : Action}
    (h : (ofOperation rules method url operation).outcome = .ok a) :
    a.qa = rules.qa ∧ ∀ p ∈ a.declaredParameters, p.qa = rules.qa := by
  rw [ofOperation_eq] at h
  obtain ⟨-, -, h⟩ := bind_ok_iff.1 h
  obtain ⟨extensions, -, h⟩ := bind_ok_iff.1 h
  obtain ⟨name, -, h⟩ := bind_ok_iff.1 h
  obtain ⟨declared, -, h⟩ := bind_ok_iff.1 h
  obtain ⟨body, -, h⟩ := bind_ok_iff.1 h
  obtain ⟨success, -, h⟩ := bind_ok_iff.1 h
  obtain ⟨parameters, hparameters, h⟩ := bind_ok_iff.1 h
  obtain rfl := Except.ok.inj h
  refine ⟨rfl, fun p hp => ?_⟩
  obtain ⟨q, hq, rfl⟩ := List.mem_map.1 hp
  exact forall_of_parametersFrom qa_of_parameter hparameters q hq

end SdkModel.Action
