import SdkModel.Proofs.CommandLine.Stages
import SdkModel.Proofs.Order
import SdkModel.Proofs.Spec.SingleResource
import SdkModel.Proofs.Typed.HiddenContent

/-!
# Hidden overrides

The resources of a run leave out those that an override hides, so that the shape of a document
holds none of them. A single resource is looked up among all resources of the document, and no
override is asked for: the shape that is answered for a name holds a hidden resource exactly when
the name finds one (`Typed.shape_hides_iff`).
-/

namespace SdkModel

open Logged (bind_ok_iff)

namespace Typed

variable {config : GenerationConfig} {spec : Spec} {argument : Option String} {r : Resource}

/-! ## Answers -/

/-- The value under a name of an object; null where there is none. -/
def entryOf (v : Value) (name : String) : Value := ((v.entries?).getD []).get name

/-- The shaped resources that an answer holds: those that it lists, or itself. -/
def structuresOf (v : Value) : List Value :=
  match entryOf v "resources" with
  | .list vs => vs
  | _ => [v]

/-- The answer to a request for everything or for the resource of a name or id. -/
def selectedShape (config : GenerationConfig) (spec : Spec) : Option String → Option Value
  | none => some (backend.shape config spec)
  | some name => (spec.resource? name).map (backend.shapeResource config spec)

/-- An answer that holds no resource with an id that is overridden as hidden. -/
def HoldsNoHidden (config : GenerationConfig) (v : Value) : Prop :=
  ∀ w ∈ structuresOf v, ∀ id ∈ backend.hiddenIds config, entryOf w "id" ≠ .text id

theorem structuresOf_shape : structuresOf (backend.shape config spec) =
    (backend.resources config spec).map
      (backend.shapeOne (backend.resources config spec)) := rfl

theorem structuresOf_shapeResource : structuresOf (backend.shapeResource config spec r) =
    [backend.shapeResource config spec r] := rfl

theorem entryOf_shapeOne_id (resources : List Resource) (r : Resource) :
    entryOf (backend.shapeOne resources r) "id" = .optText r.id := rfl

/-- The id that is shown is that of the resource. -/
theorem forall_ne_iff (resources : List Resource) : (∀ id ∈ backend.hiddenIds config,
    entryOf (backend.shapeOne resources r) "id" ≠ .text id) ↔
      backend.isOverridden config r = false := by
  rw [entryOf_shapeOne_id, Backend.isOverridden]
  cases r.id with
  | none => simp [Value.optText]
  | some id => simp [Value.optText, List.forall_mem_ne]

/-- No resource of a run is overridden. -/
theorem isOverridden_of_mem_resources (h : r ∈ backend.resources config spec) :
    backend.isOverridden config r = false := by
  have hkept := (List.mem_filter.1 (mem_sortByOrder.1 h)).2
  simpa using hkept

theorem holdsNoHidden_shape : HoldsNoHidden config (backend.shape config spec) := by
  rw [HoldsNoHidden, structuresOf_shape]
  intro w hw
  obtain ⟨r, hr, rfl⟩ := List.mem_map.1 hw
  exact (forall_ne_iff _).2 (isOverridden_of_mem_resources hr)

theorem holdsNoHidden_shapeResource_iff :
    HoldsNoHidden config (backend.shapeResource config spec r) ↔
      backend.isOverridden config r = false := by
  rw [HoldsNoHidden, structuresOf_shapeResource, List.forall_mem_singleton]
  exact forall_ne_iff _

/-! ## The shape command -/

open CommandLine (Surroundings findResource_ok_iff)

variable {s : Surroundings} {o : Output} {texts : List String}

/-- What the command prints with this backend is the answer. -/
theorem shapeDocument_ok_iff (hbackend : spec.config.backend = backend.name) :
    (CommandLine.shapeDocument s o spec argument).outcome = .ok texts ↔
      ∃ v, selectedShape spec.config spec argument = some v ∧ o.dataTexts v = .ok texts := by
  have htable : (CommandLine.checked .handled (registry.lookupTable s.plugins spec.config.backend)).outcome =
      .ok registry := by
    rw [hbackend]
    rfl
  have hget : (CommandLine.checked .handled
      (Logged.ofExcept (registry.get spec.config.backend))).outcome = .ok backend := by
    rw [hbackend]
    rfl
  rw [CommandLine.shapeDocument, bind_ok_iff]
  simp only [htable, Except.ok.injEq, exists_eq_left', bind_ok_iff, hget]
  cases argument with
  | none =>
    simp [selectedShape, bind_ok_iff, CommandLine.note, CommandLine.checked_ok_iff]
  | some name =>
    simp [selectedShape, bind_ok_iff, CommandLine.note, findResource_ok_iff,
      CommandLine.checked_ok_iff]

/-- **A shape holds a resource that is overridden as hidden exactly when it is asked for by name or
id.** The answers are those that the shape command prints. -/
theorem shape_hides_iff (spec : Spec) (argument : Option String) :
    ((∀ v ∈ selectedShape spec.config spec argument, HoldsNoHidden spec.config v) ↔
      ∀ name ∈ argument, ∀ r ∈ spec.resource? name,
        backend.isOverridden spec.config r = false) ∧
    ∀ (s : Surroundings) (o : Output) (texts : List String), spec.config.backend = backend.name →
      ((CommandLine.shapeDocument s o spec argument).outcome = .ok texts ↔
        ∃ v ∈ selectedShape spec.config spec argument, o.dataTexts v = .ok texts) := by
  refine ⟨?_, fun s o texts hbackend => shapeDocument_ok_iff hbackend⟩
  cases argument with
  | none =>
    refine iff_of_true (fun v hv => ?_) nofun
    obtain rfl := Option.some.inj hv
    exact holdsNoHidden_shape
  | some name =>
    constructor
    · intro h named hnamed r hr
      obtain rfl := Option.some.inj hnamed
      have hanswer : selectedShape spec.config spec (some name) =
          some (backend.shapeResource spec.config spec r) := by
        rw [selectedShape, hr, Option.map_some]
      exact holdsNoHidden_shapeResource_iff.1 (h _ hanswer)
    · intro h v hv
      obtain ⟨r, hr, rfl⟩ := Option.map_eq_some_iff.1 hv
      exact holdsNoHidden_shapeResource_iff.2 (h name rfl r hr)

/-! ## A hidden resource that is asked for -/

/-- A resource with an id that the reference backend hides. -/
def mediaResource : Resource := loneResource "media" "label" labelSchema

def mediaSpec : Spec := loneSpec "media" "label" labelEntries labelSchema

theorem build_mediaDocument :
    (Spec.build {} (loneDocument "media" "label" labelEntries)).outcome = .ok mediaSpec :=
  build_loneDocument rfl fun _ => Schema.quiet_leaf (by decide) rfl rfl

theorem resource?_mediaSpec : mediaSpec.resource? "media" = some mediaResource := by cbv

/-- The resource is shaped when it is asked for by its id. -/
theorem not_forall_holdsNoHidden :
    ¬ ∀ (config : GenerationConfig) (document : Entries) (spec : Spec) (argument : Option String),
      (Spec.build config document).outcome = .ok spec →
      ∀ v ∈ selectedShape config spec argument, HoldsNoHidden config v := by
  intro h
  have hanswer : selectedShape {} mediaSpec (some "media") =
      some (backend.shapeResource {} mediaSpec mediaResource) := by
    rw [selectedShape, resource?_mediaSpec, Option.map_some]
  have hhides := holdsNoHidden_shapeResource_iff.1
    (h {} _ mediaSpec (some "media") build_mediaDocument _ hanswer)
  exact absurd hhides (by decide)

end Typed

end SdkModel
