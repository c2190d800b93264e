import SdkModel.CommandLine.Run
import SdkModel.Proofs.Logged

/-!
# Stages

A run goes through stages: the settings of output, the configuration, the document, the spec and the
view of the command. `RunFails` says which stage a run fails at and why, and `RunPrints` what a run
comes to that fails at none. Between the configuration and the document a verbose command says what
it loads, and gets no further where the console refuses this line.

What is worked out of a failure prints nothing and has the status of the error
(`Command.reports_of_stops`).
-/

namespace SdkModel

namespace Failure

/-- No failure ends in the status of success. -/
theorem exitCode_ne_zero (f : Failure) : f.exitCode ≠ 0 := by
  cases f <;> nofun

/-- The status that a failure ends a run with: the code of its class where it is reported, one where
it is a crash. -/
def status (f : Failure) : Nat := if f.isReported then f.exitCode else 1

theorem status_ne_zero (f : Failure) : f.status ≠ 0 := by
  unfold status
  split
  · exact f.exitCode_ne_zero
  · exact Nat.one_ne_zero

end Failure

namespace CommandLine

open Logged (bind_ok_iff bind_error_iff outcome_bind_of_ok)

variable {s : Surroundings} {o : Output} {c : Command} {flags : GlobalFlags} {spec : Spec}
variable {e : CommandError} {name : String} {resource : Option String}

/-! ## Errors -/

/-- The status that an error ends a run with. -/
def CommandError.status : CommandError → Nat
  | .failure f | .handled f => f.status
  | .unknownResource _ => usageStatus

theorem CommandError.status_ne_zero (e : CommandError) : e.status ≠ 0 := by
  cases e with
  | failure f | handled f => exact f.status_ne_zero
  | unknownResource name => nofun

/-- The line that explains an error. -/
def CommandError.line (s : Surroundings) : CommandError → Diagnostic
  | .failure f | .handled f => explained s f
  | .unknownResource name => notFound name

/-- The outcome reports the error: it has its status, prints nothing, and has no line on an error
but the one that explains it. An error with status one may instead be told as a crash. -/
structure Outcome.Reports (s : Surroundings) (x : Outcome) (e : CommandError) : Prop where
  status : x.status = e.status
  printed : x.printed = []
  lines : e.status = 1 ∨ x.closing.toList ++ x.last.toList = [e.line s]

/-- A crash ends in status 1 and leaves a report. -/
theorem reports_crashed (s : Surroundings) (h : e.status = 1) : (crashed s).Reports s e :=
  ⟨h.symm, rfl, .inl h⟩

/-- A failure is explained on standard error, or it leaves a crash report. -/
theorem reports_failed (s : Surroundings) (f : Failure) : (failed s f).Reports s (.failure f) := by
  unfold failed
  split
  · rename_i h
    exact ⟨(if_pos h).symm, rfl, .inr rfl⟩
  · rename_i h
    exact reports_crashed s (if_neg h)

theorem reports_handled (s : Surroundings) (f : Failure) :
    (handled s f).Reports s (.handled f) := by
  unfold handled
  split
  · rename_i h
    exact ⟨(if_pos h).symm, rfl, .inr rfl⟩
  · rename_i h
    exact reports_crashed s (if_neg h)

/-- What stops a command is reported. -/
theorem reports_stopped (s : Surroundings) (e : CommandError) : (stopped s e).Reports s e := by
  cases e with
  | failure f => exact reports_failed s f
  | handled f => exact reports_handled s f
  | unknownResource name => exact ⟨rfl, rfl, .inr rfl⟩

theorem Outcome.Reports.stdout {x : Outcome} (h : x.Reports s e) : x.stdout = "" := by
  unfold Outcome.stdout
  rw [h.printed]
  rfl

/-! ## Views -/

namespace Command

/-- The resource that a command names. -/
def resource? : Command → Option String
  | actions _ resource | enums _ resource | shape _ resource _ => resource
  | resources _ | extensions => none

/-- The command asks a backend. -/
def isShape : Command → Bool
  | shape .. => true
  | _ => false

end Command

/-- The backend of a spec. -/
def backendOf (s : Surroundings) (spec : Spec) : Build Backend := do
  let table ← Typed.registry.lookupTable s.plugins spec.config.backend
  Logged.ofExcept (table.get spec.config.backend)

/-- The value that a backend answers with, for a single resource or for all. -/
def shapedBy (b : Backend) (spec : Spec) : Option String → Option Value
  | none => some (b.shape spec.config spec)
  | some name => (spec.resource? name).map (b.shapeResource spec.config spec)

/-- The view of a command stops: there is no such backend, there is no such resource, or the value
that the backend answers with has no text. -/
inductive ViewStops (s : Surroundings) (o : Output) (c : Command) (spec : Spec) :
    CommandError → Prop
  | backend {f : Failure} (hshape : c.isShape = true)
      (h : (backendOf s spec).outcome = .error f) : ViewStops s o c spec (.handled f)
  | resource {name : String} (hname : c.resource? = some name)
      (hbackend : c.isShape = true → ∃ b, (backendOf s spec).outcome = .ok b)
      (h : spec.resource? name = none) : ViewStops s o c spec (.unknownResource name)
  | rendering {b : Backend} {v : Value} {f : Failure} (hshape : c.isShape = true)
      (hbackend : (backendOf s spec).outcome = .ok b)
      (hvalue : shapedBy b spec c.resource? = some v) (h : o.dataTexts v = .error f) :
      ViewStops s o c spec (.handled f)

theorem outcome_note (log : Log) : (note log).outcome = .ok () := rfl

/-- A note is no reason to stop. -/
theorem note_bind_error_iff {α : Type} {log : Log} {x : Unit → Step α} :
    (note log >>= x).outcome = .error e ↔ (x ()).outcome = .error e := by
  rw [bind_error_iff]
  constructor
  · rintro (h | ⟨_, -, h⟩)
    · cases h
    · exact h
  · intro h
    exact .inr ⟨(), rfl, h⟩

/-- A step that is checked fails with the error that its failure stands for. -/
theorem checked_error_iff {α : Type} {kind : Failure → CommandError} {x : Build α} :
    (checked kind x).outcome = .error e ↔ ∃ f, x.outcome = .error f ∧ kind f = e := by
  unfold checked
  cases x.outcome with
  | ok a => simp [Except.mapError]
  | error f => simp [Except.mapError]

theorem checked_ok_iff {α : Type} {kind : Failure → CommandError} {x : Build α} {a : α} :
    (checked kind x).outcome = .ok a ↔ x.outcome = .ok a := by
  unfold checked
  cases x.outcome with
  | ok b => simp [Except.mapError]
  | error f => simp [Except.mapError]

/-- Looking a resource up fails for a name that none has. -/
theorem findResource_error_iff : (findResource spec name).outcome = .error e ↔
    spec.resource? name = none ∧ .unknownResource name = e := by
  unfold findResource
  rw [note_bind_error_iff]
  cases spec.resource? name with
  | none => simp [Logged.fail]
  | some r => simp

/-- A resource that is named is found, or the command stops. -/
theorem findResource_ok_iff {r : Resource} :
    (findResource spec name).outcome = .ok r ↔ spec.resource? name = some r := by
  have hnote : (note spec.reuseLog).outcome = .ok () := rfl
  rw [findResource, bind_ok_iff]
  simp only [hnote]
  cases spec.resource? name with
  | none => exact iff_of_false nofun nofun
  | some found => simp

/-- Listing all resources cannot fail. -/
theorem not_inspectResources_error : (inspectResources o spec).outcome ≠ .error e := by
  unfold inspectResources
  rw [Ne, note_bind_error_iff]
  nofun

/-- The listings of one resource fail when it is not found. -/
theorem inspectActions_error_iff : (inspectActions o spec resource).outcome = .error e ↔
    ∃ name, resource = some name ∧ spec.resource? name = none ∧ .unknownResource name = e := by
  unfold inspectActions
  cases resource with
  | none => simp [bind_error_iff, outcome_note]
  | some name =>
    simp [bind_error_iff, findResource_error_iff]

theorem inspectEnums_error_iff : (inspectEnums o spec resource).outcome = .error e ↔
    ∃ name, resource = some name ∧ spec.resource? name = none ∧ .unknownResource name = e := by
  unfold inspectEnums
  cases resource with
  | none => simp [bind_error_iff]
  | some name =>
    simp [bind_error_iff, findResource_error_iff, outcome_note]

theorem lookupTable_ok (plugins : List (Plugin Backend)) (name : String) :
    ∃ table, (Typed.registry.lookupTable plugins name).outcome = .ok table := by
  unfold BackendRegistry.lookupTable BackendRegistry.discoverOnce
  split
  · exact ⟨_, rfl⟩
  · split
    · exact ⟨_, rfl⟩
    · exact ⟨_, rfl⟩

/-- The answer of a backend stops at a name that is not found, or at its text. -/
theorem shapeDocument_of_backend {b : Backend} (hbackend : (backendOf s spec).outcome = .ok b) :
    (shapeDocument s o spec resource).outcome = .error e ↔
      (∃ name, resource = some name ∧ spec.resource? name = none ∧ .unknownResource name = e) ∨
        ∃ v, shapedBy b spec resource = some v ∧ ∃ f, o.dataTexts v = .error f ∧
          .handled f = e := by
  obtain ⟨table, htable⟩ := lookupTable_ok s.plugins spec.config.backend
  have hget : table.get spec.config.backend = .ok b := (outcome_bind_of_ok htable).symm.trans hbackend
  have hchecked : (checked .handled (Logged.ofExcept (table.get spec.config.backend))).outcome =
      .ok b := checked_ok_iff.2 hget
  unfold shapeDocument
  rw [outcome_bind_of_ok (checked_ok_iff.2 htable), outcome_bind_of_ok hchecked]
  cases resource with
  | none =>
    rw [note_bind_error_iff, checked_error_iff]
    simp [shapedBy]
  | some name =>
    rw [bind_error_iff, findResource_error_iff]
    simp only [findResource_ok_iff, note_bind_error_iff, checked_error_iff, Logged.outcome_ofExcept]
    simp [shapedBy]

/-- Without its backend a shape stops, whatever is asked for. -/
theorem shapeDocument_of_backend_error {f : Failure}
    (hbackend : (backendOf s spec).outcome = .error f) :
    (shapeDocument s o spec resource).outcome = .error e ↔ .handled f = e := by
  obtain ⟨table, htable⟩ := lookupTable_ok s.plugins spec.config.backend
  have hget : table.get spec.config.backend = .error f :=
    (outcome_bind_of_ok htable).symm.trans hbackend
  unfold shapeDocument
  rw [outcome_bind_of_ok (checked_ok_iff.2 htable), bind_error_iff, checked_error_iff]
  simp only [checked_ok_iff, Logged.outcome_ofExcept, hget]
  simp

/-- A command that asks no backend stops at the resource that it names. -/
theorem viewStops_iff_of_not_isShape (hshape : c.isShape = false) : ViewStops s o c spec e ↔
    ∃ name, c.resource? = some name ∧ spec.resource? name = none ∧ .unknownResource name = e := by
  constructor
  · intro h
    cases h with
    | backend h | rendering h =>
      rw [hshape] at h
      cases h
    | resource hname _ hmissing => exact ⟨_, hname, hmissing, rfl⟩
  · rintro ⟨name, hname, hmissing, rfl⟩
    refine .resource hname (fun h => ?_) hmissing
    rw [hshape] at h
    cases h

/-- A shape is refused by the lookup of the backend, by that of the resource or by the printer,
whichever comes first. -/
theorem viewStops_shape_iff {source : Source} {backend : Option String} :
    ViewStops s o (.shape source resource backend) spec e ↔
      (shapeDocument s o spec resource).outcome = .error e := by
  cases hbackend : (backendOf s spec).outcome with
  | error f =>
    rw [shapeDocument_of_backend_error hbackend]
    constructor
    · intro h
      cases h with
      | backend _ hf =>
        cases hbackend.symm.trans hf
        rfl
      | resource _ hfound =>
        obtain ⟨b, hb⟩ := hfound rfl
        cases hbackend.symm.trans hb
      | rendering _ hb => cases hbackend.symm.trans hb
    · rintro rfl
      exact .backend rfl hbackend
  | ok b =>
    rw [shapeDocument_of_backend hbackend]
    constructor
    · intro h
      cases h with
      | backend _ hf => cases hbackend.symm.trans hf
      | resource hname _ hmissing => exact .inl ⟨_, hname, hmissing, rfl⟩
      | rendering _ hb hvalue hf =>
        cases hbackend.symm.trans hb
        exact .inr ⟨_, hvalue, _, hf, rfl⟩
    · rintro (⟨name, hname, hmissing, rfl⟩ | ⟨v, hvalue, f, hf, rfl⟩)
      · exact .resource hname (fun _ => ⟨b, hbackend⟩) hmissing
      · exact .rendering rfl hbackend hvalue hf

/-- **The view of a command stops for no other reasons.** -/
theorem view_error_iff : (c.view s o spec).outcome = .error e ↔ ViewStops s o c spec e := by
  cases c with
  | resources source =>
    rw [viewStops_iff_of_not_isShape rfl]
    exact iff_of_false not_inspectResources_error nofun
  | actions source resource =>
    rw [viewStops_iff_of_not_isShape rfl]
    exact inspectActions_error_iff
  | enums source resource =>
    rw [viewStops_iff_of_not_isShape rfl]
    exact inspectEnums_error_iff
  | shape source resource backend => exact viewStops_shape_iff.symm
  | extensions =>
    rw [viewStops_iff_of_not_isShape rfl]
    exact iff_of_false nofun nofun

/-! ## Commands -/

/-- The document of the command is read and built. -/
inductive Builds (s : Surroundings) (c : Command) : Spec → Prop
  | intro {source : Source} {config : GenerationConfig} {entries : Entries} {spec : Spec}
      (hsource : c.source? = some source)
      (hconfig : Config.generation s.host c.flags = .ok config)
      (hload : Document.load s.host.files s.stdin source.document = .ok entries)
      (hbuild : (Spec.build config entries).outcome = .ok spec) : Builds s c spec

/-- The stage that a command stops at, and why. A command without a document stops at none. -/
inductive Stops (s : Surroundings) (o : Output) (c : Command) : CommandError → Prop
  | config {source : Source} {f : Failure} (hsource : c.source? = some source)
      (h : Config.generation s.host c.flags = .error f) : Stops s o c (.failure f)
  | load {source : Source} {config : GenerationConfig} {f : Failure}
      (hsource : c.source? = some source)
      (hconfig : Config.generation s.host c.flags = .ok config)
      (h : Document.load s.host.files s.stdin source.document = .error f) :
      Stops s o c (.failure f)
  | build {source : Source} {config : GenerationConfig} {entries : Entries} {f : Failure}
      (hsource : c.source? = some source)
      (hconfig : Config.generation s.host c.flags = .ok config)
      (hload : Document.load s.host.files s.stdin source.document = .ok entries)
      (h : (Spec.build config entries).outcome = .error f) : Stops s o c (.failure f)
  | view {spec : Spec} {e : CommandError} (hspec : Builds s c spec) (h : ViewStops s o c spec e) :
      Stops s o c e

variable {source : Source} {config : GenerationConfig} {document : String}

/-- A spec is loaded when the document is read and built. -/
theorem loadSpec_ok_iff : (loadSpec s document config).outcome = .ok spec ↔
    ∃ entries, Document.load s.host.files s.stdin document = .ok entries ∧
      (Spec.build config entries).outcome = .ok spec := by
  unfold loadSpec
  simp only [bind_ok_iff, checked_ok_iff, Logged.outcome_ofExcept]

/-- It is not when one of the two fails, and then with this failure. -/
theorem loadSpec_error_iff : (loadSpec s document config).outcome = .error e ↔
    (∃ f, Document.load s.host.files s.stdin document = .error f ∧ .failure f = e) ∨
      ∃ entries, Document.load s.host.files s.stdin document = .ok entries ∧
        ∃ f, (Spec.build config entries).outcome = .error f ∧ .failure f = e := by
  unfold loadSpec
  simp only [bind_error_iff, checked_ok_iff, checked_error_iff, Logged.outcome_ofExcept]

/-- With its configuration read, a command stops where loading, building or its view does. -/
theorem stops_iff (hsource : c.source? = some source)
    (hconfig : Config.generation s.host c.flags = .ok config) : Stops s o c e ↔
      (loadSpec s source.document config >>= c.view s o).outcome = .error e := by
  rw [bind_error_iff, loadSpec_error_iff]
  simp only [loadSpec_ok_iff, view_error_iff]
  constructor
  · intro h
    cases h with
    | config hsource' h =>
      cases hconfig.symm.trans h
    | load hsource' hconfig' h =>
      cases hsource.symm.trans hsource'
      exact .inl (.inl ⟨_, h, rfl⟩)
    | build hsource' hconfig' hload h =>
      cases hsource.symm.trans hsource'
      cases hconfig.symm.trans hconfig'
      exact .inl (.inr ⟨_, hload, _, h, rfl⟩)
    | view hspec h =>
      obtain ⟨hsource', hconfig', hload, hbuild⟩ := hspec
      cases hsource.symm.trans hsource'
      cases hconfig.symm.trans hconfig'
      exact .inr ⟨_, ⟨_, hload, hbuild⟩, h⟩
  · rintro ((⟨f, h, rfl⟩ | ⟨entries, hload, f, h, rfl⟩) | ⟨spec, ⟨entries, hload, hbuild⟩, h⟩)
    · exact .load hsource hconfig h
    · exact .build hsource hconfig hload h
    · exact .view ⟨hsource, hconfig, hload, hbuild⟩ h

/-- A command that can be stopped reads a document. -/
theorem Stops.exists_source (h : Stops s o c e) : ∃ source, c.source? = some source := by
  cases h with
  | config hsource | load hsource | build hsource => exact ⟨_, hsource⟩
  | view hspec =>
    obtain ⟨hsource⟩ := hspec
    exact ⟨_, hsource⟩

/-- No stage comes behind a configuration that cannot be read. -/
theorem Stops.eq_of_config_error {f : Failure} (h : Stops s o c e)
    (hconfig : Config.generation s.host c.flags = .error f) : e = .failure f := by
  cases h with
  | config _ h =>
    cases hconfig.symm.trans h
    rfl
  | load _ h | build _ h => cases hconfig.symm.trans h
  | view hspec =>
    obtain ⟨-, h⟩ := hspec
    cases hconfig.symm.trans h

/-- A command stops for one reason at most. -/
theorem Stops.unique {e' : CommandError} (h : Stops s o c e) (h' : Stops s o c e') : e = e' := by
  obtain ⟨source, hsource⟩ := h.exists_source
  cases hconfig : Config.generation s.host c.flags with
  | error f => exact (h.eq_of_config_error hconfig).trans (h'.eq_of_config_error hconfig).symm
  | ok config =>
    have hend := (stops_iff hsource hconfig).1 h
    exact Except.error.inj (hend.symm.trans ((stops_iff hsource hconfig).1 h'))

/-- A command that stops reports why. -/
theorem Command.reports_of_stops (h : Stops s o c e) : (c.run s o).Reports s e := by
  obtain ⟨source, hsource⟩ := h.exists_source
  unfold Command.run
  rw [hsource]
  cases hconfig : Config.generation s.host c.flags with
  | error f =>
    obtain rfl := h.eq_of_config_error hconfig
    exact reports_failed s f
  | ok config =>
    have herror := (stops_iff (o := o) hsource hconfig).1 h
    unfold Command.outcome
    simp only [herror]
    obtain ⟨hstatus, hprinted, hlines⟩ := reports_stopped s e
    exact ⟨hstatus, hprinted, hlines⟩

/-- The texts that a command answers with. -/
inductive Prints (s : Surroundings) (o : Output) (c : Command) : List String → Prop
  | view {spec : Spec} {texts : List String} (hspec : Builds s c spec)
      (hview : (c.view s o spec).outcome = .ok texts) : Prints s o c texts
  | keys (hsource : c.source? = none) : Prints s o c (o.tableTexts extensionTable)

/-- What a view answers with is a table or a value. -/
theorem rendered_of_view {texts : List String} (h : (c.view s o spec).outcome = .ok texts) :
    (∃ t, o.tableTexts t = texts) ∨ ∃ v, o.dataTexts v = .ok texts := by
  cases c with
  | resources source =>
    obtain ⟨-, -, h⟩ := bind_ok_iff.1 h
    exact .inl ⟨_, Except.ok.inj h⟩
  | actions source resource =>
    cases resource with
    | none =>
      obtain ⟨-, -, h⟩ := bind_ok_iff.1 h
      exact .inl ⟨_, Except.ok.inj h⟩
    | some name =>
      obtain ⟨r, -, h⟩ := bind_ok_iff.1 h
      exact .inl ⟨_, Except.ok.inj h⟩
  | enums source resource =>
    cases resource with
    | none => exact .inl ⟨_, Except.ok.inj h⟩
    | some name =>
      obtain ⟨r, -, h⟩ := bind_ok_iff.1 h
      obtain ⟨-, -, h⟩ := bind_ok_iff.1 h
      exact .inl ⟨_, Except.ok.inj h⟩
  | shape source resource backend =>
    obtain ⟨table, -, h⟩ := bind_ok_iff.1 h
    obtain ⟨b, -, h⟩ := bind_ok_iff.1 h
    cases resource with
    | none =>
      obtain ⟨-, -, h⟩ := bind_ok_iff.1 h
      exact .inr ⟨_, checked_ok_iff.1 h⟩
    | some name =>
      obtain ⟨r, -, h⟩ := bind_ok_iff.1 h
      obtain ⟨-, -, h⟩ := bind_ok_iff.1 h
      exact .inr ⟨_, checked_ok_iff.1 h⟩
  | extensions => exact .inl ⟨_, Except.ok.inj h⟩

/-- The outcome answers with the texts. -/
structure Outcome.Answers (x : Outcome) (texts : List String) : Prop where
  status : x.status = 0
  closing : x.closing = none
  printed : x.printed = texts
  last : x.last = none

/-- What a command prints is what its run answers with. -/
theorem Command.answers_of_prints {texts : List String} (h : Prints s o c texts) :
    (c.run s o).Answers texts := by
  cases h with
  | view hspec hview =>
    obtain ⟨hsource, hconfig, hload, hbuild⟩ := hspec
    have hok := bind_ok_iff.2 ⟨_, loadSpec_ok_iff.2 ⟨_, hload, hbuild⟩, hview⟩
    unfold Command.run Command.outcome
    simp only [hsource, hconfig, hok]
    exact ⟨rfl, rfl, rfl, rfl⟩
  | keys hsource =>
    unfold Command.run
    simp only [hsource]
    exact ⟨rfl, rfl, rfl, rfl⟩

/-- A command stops or answers. -/
theorem exists_stops_or_prints (s : Surroundings) (o : Output) (c : Command) :
    (∃ e, Stops s o c e) ∨ ∃ texts, Prints s o c texts := by
  cases hsource : c.source? with
  | none => exact .inr ⟨_, .keys hsource⟩
  | some source =>
    cases hconfig : Config.generation s.host c.flags with
    | error f => exact .inl ⟨_, .config hsource hconfig⟩
    | ok config =>
      cases hrun : (loadSpec s source.document config >>= c.view s o).outcome with
      | error e => exact .inl ⟨e, (stops_iff hsource hconfig).2 hrun⟩
      | ok texts =>
        obtain ⟨spec, hspec, hview⟩ := bind_ok_iff.1 hrun
        obtain ⟨entries, hload, hbuild⟩ := loadSpec_ok_iff.1 hspec
        exact .inr ⟨texts, .view ⟨hsource, hconfig, hload, hbuild⟩ hview⟩

/-- The line that a command begins with, which is due once its configuration is read. -/
def Command.opening? (c : Command) (s : Surroundings) (o : Output) : Option Diagnostic :=
  match c.source?, Config.generation s.host c.flags with
  | some source, .ok config => o.debug? (loadingMessage source.document config.qaMode)
  | _, _ => none

theorem opening_failed (s : Surroundings) (f : Failure) : (failed s f).opening = none := by
  unfold failed
  split <;> rfl

/-- The opening line is written whether the command succeeds or not. -/
theorem Command.opening_run : (c.run s o).opening = c.opening? s o := by
  unfold Command.run Command.opening?
  cases c.source? with
  | none => rfl
  | some source =>
    cases Config.generation s.host c.flags with
    | error f => exact opening_failed s f
    | ok config =>
      dsimp only
      unfold Command.outcome
      split <;> rfl

/-- The console shows the line that the command begins with. -/
def Announced (s : Surroundings) (o : Output) (c : Command) : Prop :=
  ∀ d ∈ c.opening? s o, s.shows o.colour d = true

/-! ## Command lines -/

/-- The arguments ask for a command, and not for a help text or the version. -/
inductive Invokes (args : List String) : GlobalFlags → Command → Prop
  | intro {a : Arguments} {word : String} {rest : List String} {top : TopWord} {c : Command}
      (hread : read globalGrammar args = some a) (hplain : a.last? ["help", "version"] = none)
      (hwords : a.words = word :: rest) (htop : TopWord.ofWord? word = some top)
      (hcommand : top.read rest = some (.run c)) : Invokes args (.ofArguments a) c

/-- Arguments ask for one command at most. -/
theorem Invokes.unique {args : List String} {flags' : GlobalFlags} {c' : Command} (h : Invokes args flags c)
    (h' : Invokes args flags' c') : flags = flags' ∧ c = c' := by
  obtain ⟨hread, -, hwords, htop, hcommand⟩ := h
  obtain ⟨hread', -, hwords', htop', hcommand'⟩ := h'
  cases hread.symm.trans hread'
  cases hwords.symm.trans hwords'
  cases htop.symm.trans htop'
  cases hcommand.symm.trans hcommand'
  exact ⟨rfl, rfl⟩

/-- The stage that a run fails at, and why. The settings of output come first. A command gets behind
its configuration only with the line shown that it begins with. -/
inductive RunFails (s : Surroundings) (flags : GlobalFlags) (c : Command) : CommandError → Prop
  | output {f : Failure} (h : Config.output s.host flags.format? flags.verbose = .error f) :
      RunFails s flags c (.handled f)
  | command {choice : Config.OutputChoice} {e : CommandError}
      (hchoice : Config.output s.host flags.format? flags.verbose = .ok choice)
      (hannounced : Announced s (flags.output s choice) c)
      (h : Stops s (flags.output s choice) c e) : RunFails s flags c e

/-- The texts that a run comes to. -/
inductive RunPrints (s : Surroundings) (flags : GlobalFlags) (c : Command) : List String → Prop
  | intro {choice : Config.OutputChoice} {texts : List String}
      (hchoice : Config.output s.host flags.format? flags.verbose = .ok choice)
      (hannounced : Announced s (flags.output s choice) c)
      (h : Prints s (flags.output s choice) c texts) : RunPrints s flags c texts

/-- A run fails in one way. -/
theorem RunFails.unique {e' : CommandError} (h : RunFails s flags c e)
    (h' : RunFails s flags c e') : e = e' := by
  cases h with
  | output hf =>
    cases h' with
    | output hf' =>
      cases hf.symm.trans hf'
      rfl
    | command hchoice => cases hf.symm.trans hchoice
  | command hchoice _ hstops =>
    cases h' with
    | output hf => cases hf.symm.trans hchoice
    | command hchoice' _ hstops' =>
      cases hchoice.symm.trans hchoice'
      exact hstops.unique hstops'

variable {args : List String} {choice : Config.OutputChoice}

/-- A run with its output settings read is that of the command. -/
theorem run_of_invokes (h : Invokes args flags c)
    (hchoice : Config.output s.host flags.format? flags.verbose = .ok choice) :
    run s args =
      let x := c.run s (flags.output s choice)
      { x with log := shownLog choice.verbose x.log, colour := flags.colour s } := by
  obtain ⟨hread, hplain, hwords, htop, hcommand⟩ := h
  unfold run
  simp only [hread, hplain, hwords, htop]
  unfold runCommand
  simp only [hchoice, hcommand]
  rfl

/-- When the output cannot be configured, the error is written as the host has it. -/
theorem run_of_output_error (h : Invokes args flags c) {f : Failure}
    (hf : Config.output s.host flags.format? flags.verbose = .error f) :
    run s args = { handled s f with colour := !s.host.refusesColour } := by
  obtain ⟨hread, hplain, hwords, htop, hcommand⟩ := h
  unfold run
  simp only [hread, hplain, hwords, htop]
  unfold runCommand
  simp only [hf]

end CommandLine

end SdkModel
