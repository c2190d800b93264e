import Mathlib.Data.List.TakeWhile
import SdkModel.Proofs.CommandLine.Stages
import SdkModel.Proofs.Reference.Inline
import SdkModel.Proofs.Schema.Build

/-!
# Exit status

A run is to be all or nothing: with another status than zero it has printed nothing, and an error
ends it with a status of its own. What is worked out keeps to this. Writing it may not: the error
line goes through a console, which refuses some lines for the message that they carry, and a listing
goes to standard output line by line, which may lack a character of a later line.
`allOrNothing_iff` says that nothing else is in the way.
-/

namespace SdkModel

namespace CommandLine

variable {s : Surroundings} {o : Output} {c : Command} {flags : GlobalFlags} {spec : Spec}
variable {e : CommandError} {args : List String} {choice : Config.OutputChoice}

/-! ## Writing -/

/-- The lines of a run for standard error. -/
def Outcome.lines (x : Outcome) : List Diagnostic :=
  x.opening.toList ++ x.closing.toList ++ x.last.toList

/-- Nothing that a run writes is refused. -/
structure Outcome.IsWritten (s : Surroundings) (x : Outcome) : Prop where
  lines : ∀ d ∈ x.lines, s.shows x.colour d = true
  printed : ∀ text ∈ x.printed, s.takes text = true

/-- All of the texts are taken, or not even the first. -/
def TakesAllOrNone (s : Surroundings) (texts : List String) : Prop :=
  (∀ text ∈ texts, s.takes text = true) ∨ ∀ text ∈ texts.head?, s.takes text = false

theorem takesAllOrNone_singleton {text : String} : TakesAllOrNone s [text] := by
  cases h : s.takes text with
  | true => exact .inl (by simpa using h)
  | false => exact .inr (by simpa using h)

/-- As JSON an answer is a single text, which is taken as a whole or not at all. -/
theorem takesAllOrNone_of_json (hjson : o.rendering = .json) {texts : List String}
    (h : Prints s o c texts) : TakesAllOrNone s texts := by
  have htable (t : Table) : o.tableTexts t = [Json.pretty (Output.records t)] := by
    rw [Output.tableTexts, hjson]
  have hdata {v : Value} {texts : List String} (hv : o.dataTexts v = .ok texts) :
      [Json.pretty v] = texts := by
    unfold Output.dataTexts at hv
    split at hv
    · cases hv
    · rw [hjson] at hv
      exact Except.ok.inj hv
  cases h with
  | view hspec hview =>
    obtain ⟨t, rfl⟩ | ⟨v, hv⟩ := rendered_of_view hview
    · rw [htable]
      exact takesAllOrNone_singleton
    · exact hdata hv ▸ takesAllOrNone_singleton
  | keys =>
    rw [htable]
    exact takesAllOrNone_singleton

section Writing

variable {x : Outcome} {colour : Bool} {stdout stderr : String} {log : Log}

/-- A crash has status one, also where its line is refused. -/
theorem status_finish_crashed : (finish s colour (crashed s) stdout stderr log).status = 1 :=
  ite_self 1

theorem lines_shown_iff : (∀ d ∈ x.lines, s.shows x.colour d = true) ↔
    (x.opening.all (s.shows x.colour) = true ∧ x.closing.all (s.shows x.colour) = true) ∧
      x.last.all (s.shows x.colour) = true := by
  simp only [Outcome.lines, List.forall_mem_append, Option.mem_toList, Option.all_eq_true]

/-- A run that is written as a whole keeps its status. -/
theorem status_deliver_of_isWritten (h : x.IsWritten s) : (deliver s x).status = x.status := by
  obtain ⟨⟨hopening, hclosing⟩, hlast⟩ := lines_shown_iff.1 h.lines
  have hprinted := List.all_eq_true.2 h.printed
  simp [deliver, finish, hopening, hclosing, hprinted, hlast]

/-- Whatever is refused, the run ends with status one. -/
theorem status_deliver_of_not_isWritten (h : ¬ x.IsWritten s) : (deliver s x).status = 1 := by
  unfold deliver
  dsimp only
  split
  · exact status_finish_crashed
  · split
    · exact status_finish_crashed
    · split
      · exact status_finish_crashed
      · rename_i hopening hclosing hprinted
        simp only [Bool.not_eq_eq_eq_not, Bool.not_true, Bool.not_eq_false] at *
        refine if_neg fun hlast => h ⟨?_, List.all_eq_true.1 hprinted⟩
        exact lines_shown_iff.2 ⟨⟨hopening, hclosing⟩, hlast⟩

/-- A crash while writing adds nothing to standard output. -/
theorem stdout_deliver_of_printed_eq_nil (h : x.printed = []) : (deliver s x).stdout = "" := by
  have hstdout : x.stdout = "" := congrArg Output.lines h
  unfold deliver
  dsimp only
  split
  · rfl
  · split
    · rfl
    · split
      · rw [h]
        rfl
      · exact hstdout

/-- Behind a line that the console refuses nothing is printed. -/
theorem stdout_deliver_of_opening (h : x.opening.all (s.shows x.colour) = false) :
    (deliver s x).stdout = "" := by
  simp [deliver, finish, h]

/-- What is written to standard output ends at the first text that is refused. -/
theorem stdout_deliver (hopening : x.opening.all (s.shows x.colour) = true)
    (hclosing : x.closing.all (s.shows x.colour) = true) :
    (deliver s x).stdout = Output.lines (x.printed.takeWhile s.takes) := by
  unfold deliver
  simp only [hopening, hclosing, Bool.not_true, Bool.false_eq_true, if_false]
  split
  · rfl
  · rename_i hprinted
    have hall : x.printed.all s.takes = true := by simpa using hprinted
    rw [List.takeWhile_eq_self_iff.2 (List.all_eq_true.1 hall)]
    rfl

/-- Each text has a line feed behind it, so that no text leaves no trace. -/
theorem lines_eq_empty_iff {texts : List String} : Output.lines texts = "" ↔ texts = [] := by
  cases texts with
  | nil => exact iff_of_true rfl rfl
  | cons text texts =>
    refine iff_of_false (fun h => ?_) (List.cons_ne_nil _ _)
    have := congrArg String.toList h
    simp [Output.lines] at this

theorem status_deliver_cases (s : Surroundings) (x : Outcome) :
    (deliver s x).status = x.status ∨ (deliver s x).status = 1 := by
  by_cases hwritten : x.IsWritten s
  · exact .inl (status_deliver_of_isWritten hwritten)
  · exact .inr (status_deliver_of_not_isWritten hwritten)

theorem status_deliver_of_status_eq_one (h : x.status = 1) : (deliver s x).status = 1 :=
  (status_deliver_cases s x).elim (fun hkept => hkept.trans h) id

/-- The status of an error is kept exactly when it is that of a crash or its line is shown. -/
theorem Outcome.Reports.status_deliver_iff (h : x.Reports s e)
    (hopening : ∀ d ∈ x.opening, s.shows x.colour d = true) :
    (deliver s x).status = e.status ↔ e.status = 1 ∨ s.shows x.colour (e.line s) = true := by
  by_cases hone : e.status = 1
  · refine iff_of_true ?_ (.inl hone)
    rw [hone]
    exact status_deliver_of_status_eq_one (h.status.trans hone)
  · have hlines : x.lines = x.opening.toList ++ [e.line s] := by
      rw [Outcome.lines, List.append_assoc, h.lines.resolve_left hone]
    have hwritten : x.IsWritten s ↔ s.shows x.colour (e.line s) = true := by
      refine ⟨fun hx => hx.lines _ ?_, fun hshown => ⟨fun d hd => ?_, fun text ht => ?_⟩⟩
      · rw [hlines]
        exact List.mem_append_right _ (List.mem_singleton_self _)
      · rw [hlines, List.mem_append, Option.mem_toList, List.mem_singleton] at hd
        rcases hd with hd | rfl
        · exact hopening d hd
        · exact hshown
      · rw [h.printed] at ht
        cases ht
    rw [or_iff_right hone, ← hwritten]
    constructor
    · intro hstatus
      by_contra hnot
      exact hone (hstatus.symm.trans (status_deliver_of_not_isWritten hnot))
    · intro hx
      exact (status_deliver_of_isWritten hx).trans h.status

/-- An answer is printed as a whole or not at all, exactly when standard output takes all of it or
nothing. -/
theorem silent_iff (hstatus : x.status = 0) (hlines : ∀ d ∈ x.lines, s.shows x.colour d = true) :
    ((deliver s x).status ≠ 0 → (deliver s x).stdout = "") ↔ TakesAllOrNone s x.printed := by
  by_cases hall : ∀ text ∈ x.printed, s.takes text = true
  · have hwritten := status_deliver_of_isWritten (x := x) ⟨hlines, hall⟩
    exact iff_of_true (fun h => absurd (hwritten.trans hstatus) h) (.inl hall)
  · have hcrash := status_deliver_of_not_isWritten (s := s) (x := x) fun h => hall h.printed
    obtain ⟨⟨hopening, hclosing⟩, -⟩ := lines_shown_iff.1 hlines
    rw [hcrash, stdout_deliver hopening hclosing, lines_eq_empty_iff, TakesAllOrNone,
      or_iff_right hall]
    cases x.printed with
    | nil => simp
    | cons text texts => simp [List.takeWhile_cons]

end Writing

/-! ## Runs -/

theorem status_of_readJson_error {label path : String} {content : Content} {f : Failure}
    (hf : Config.readJson label path content = .error f) : f.status = 1 := by
  unfold Config.readJson at hf
  split at hf
  · cases hf
  · split at hf
    · cases hf
      rfl
    · cases hf
      rfl

/-- What can be wrong with the settings of output has status one. -/
theorem status_of_output_error {h : Host} {format : Option String} {verbose : Bool} {f : Failure}
    (hf : Config.output h format verbose = .error f) : f.status = 1 := by
  have huser : Config.user h = .error f := by
    unfold Config.output at hf
    cases hread : Config.user h with
    | ok config =>
      rw [hread] at hf
      cases hf
    | error g =>
      rw [hread] at hf
      cases hf
      rfl
  unfold Config.user at huser
  split at huser
  · cases huser
  · rename_i content _
    cases hread : Config.readJson "global config" h.userConfigPath content with
    | error g =>
      rw [hread] at huser
      cases huser
      exact status_of_readJson_error hread
    | ok v =>
      have hcoercion : (GlobalConfig.coercion v).mapError (fun faults =>
          Failure.config (.invalidUserConfig h.userConfigPath faults)) = .error f := by
        rw [hread] at huser
        exact huser
      cases hv : GlobalConfig.coercion v with
      | ok config =>
        rw [hv] at hcoercion
        cases hcoercion
      | error faults =>
        rw [hv] at hcoercion
        cases hcoercion
        rfl

/-- A run that fails prints nothing. It keeps the status of the error exactly when this is that of a
crash or the line on the error is shown. -/
theorem execute_of_runFails (hargs : Invokes args flags c) (h : RunFails s flags c e) :
    (execute s args).stdout = "" ∧ ((execute s args).status = e.status ↔
      e.status = 1 ∨ s.shows (flags.colour s) (e.line s) = true) := by
  unfold execute
  cases h with
  | output hf =>
    have hone : (CommandError.handled _).status = 1 := status_of_output_error hf
    rw [run_of_output_error hargs hf]
    obtain ⟨hstatus, hprinted, -⟩ := reports_handled s _
    refine ⟨stdout_deliver_of_printed_eq_nil hprinted, iff_of_true ?_ (.inl hone)⟩
    rw [hone]
    exact status_deliver_of_status_eq_one (hstatus.trans hone)
  | command hchoice hannounced hstops =>
    obtain ⟨hstatus, hprinted, hlines⟩ := Command.reports_of_stops (o := flags.output s _) hstops
    rw [run_of_invokes hargs hchoice]
    refine ⟨stdout_deliver_of_printed_eq_nil hprinted, ?_⟩
    refine Outcome.Reports.status_deliver_iff ⟨hstatus, hprinted, hlines⟩ fun d hd => ?_
    exact hannounced d (Command.opening_run ▸ hd)

/-- A run that comes to an answer has the lines on standard error shown. -/
theorem answers_run {texts : List String} (hargs : Invokes args flags c)
    (h : RunPrints s flags c texts) :
    (run s args).Answers texts ∧
      ∀ d ∈ (run s args).lines, s.shows (run s args).colour d = true := by
  obtain ⟨hchoice, hannounced, hprints⟩ := h
  obtain ⟨hstatus, hclosing, hprinted, hlast⟩ := Command.answers_of_prints hprints
  rw [run_of_invokes hargs hchoice]
  refine ⟨⟨hstatus, hclosing, hprinted, hlast⟩, fun d hd => hannounced d ?_⟩
  -- The opening line is the only one.
  simp only [Outcome.lines, hclosing, hlast, Option.toList_none, List.append_nil,
    Option.mem_toList] at hd
  exact Command.opening_run ▸ hd

/-- A run that comes to an answer prints all of it or nothing exactly when standard output takes all
of it or nothing. Else it has crashed. -/
theorem execute_of_runPrints {texts : List String} (hargs : Invokes args flags c)
    (h : RunPrints s flags c texts) :
    ((execute s args).status = 0 ∨ (execute s args).status = 1) ∧
      (((execute s args).status ≠ 0 → (execute s args).stdout = "") ↔ TakesAllOrNone s texts) := by
  obtain ⟨hanswers, hlines⟩ := answers_run hargs h
  refine ⟨?_, hanswers.printed ▸ silent_iff hanswers.status hlines⟩
  exact (status_deliver_cases s (run s args)).imp_left fun hkept => hkept.trans hanswers.status

/-- A run that neither fails nor comes to an answer crashes at the line that it begins with. -/
theorem execute_of_neither (hargs : Invokes args flags c) (hfails : ∀ e, ¬ RunFails s flags c e)
    (hprints : ∀ texts, ¬ RunPrints s flags c texts) :
    (execute s args).status = 1 ∧ (execute s args).stdout = "" := by
  cases hchoice : Config.output s.host flags.format? flags.verbose with
  | error f => exact absurd (.output hchoice) (hfails _)
  | ok choice =>
    have hnot : ¬ Announced s (flags.output s choice) c := by
      intro hannounced
      obtain ⟨e, he⟩ | ⟨texts, htexts⟩ := exists_stops_or_prints s (flags.output s choice) c
      · exact hfails e (.command hchoice hannounced he)
      · exact hprints texts ⟨hchoice, hannounced, htexts⟩
    have hopening : (c.run s (flags.output s choice)).opening.all (s.shows (flags.colour s)) =
        false := by
      rw [Command.opening_run, Bool.eq_false_iff, Ne, Option.all_eq_true]
      exact hnot
    unfold execute
    rw [run_of_invokes hargs hchoice]
    refine ⟨status_deliver_of_not_isWritten fun hwritten => ?_, stdout_deliver_of_opening hopening⟩
    have hshown := (lines_shown_iff.1 hwritten.lines).1.1
    exact Bool.false_ne_true (hopening.symm.trans hshown)

/-- A command line that asks for no command is answered with a text of the program or with
nothing. -/
theorem run_of_not_invokes (h : ∀ flags c, ¬ Invokes args flags c) :
    (run s args).printed = [] ∨ run s args = help ∨ run s args = version := by
  unfold run
  split
  · exact .inl rfl
  · rename_i a hread
    split
    · split
      · exact .inr (.inl rfl)
      · exact .inr (.inr rfl)
    · rename_i hplain
      split
      · exact .inl rfl
      · rename_i word rest hwords
        split
        · exact .inl rfl
        · rename_i top htop
          unfold runCommand
          split
          · rename_i f _
            exact .inl (reports_handled s f).printed
          · dsimp only
            split
            · exact .inl rfl
            · exact .inr (.inl rfl)
            · rename_i hcommand
              exact absurd (.intro hread hplain hwords htop hcommand) (h _ _)

/-- Nor can a text of the program be printed in part. -/
theorem silent_of_not_invokes (h : ∀ flags c, ¬ Invokes args flags c)
    (hstatus : (execute s args).status ≠ 0) : (execute s args).stdout = "" := by
  unfold execute at hstatus ⊢
  obtain hprinted | hhelp | hversion := run_of_not_invokes (s := s) h
  · exact stdout_deliver_of_printed_eq_nil hprinted
  · rw [hhelp] at hstatus ⊢
    exact (silent_iff rfl (List.forall_mem_nil _)).2 takesAllOrNone_singleton hstatus
  · rw [hversion] at hstatus ⊢
    exact (silent_iff rfl (List.forall_mem_nil _)).2 takesAllOrNone_singleton hstatus

/-- A run is all or nothing: with another status than zero it has printed nothing, and where an
error stops the command it ends with the status of the error. -/
structure AllOrNothing (s : Surroundings) (args : List String) : Prop where
  silent : (execute s args).status ≠ 0 → (execute s args).stdout = ""
  fails : ∀ flags c e, Invokes args flags c → RunFails s flags c e →
    (execute s args).status = e.status
  crashes : ∀ flags c, Invokes args flags c → (∀ e, ¬ RunFails s flags c e) →
    (execute s args).status = 0 ∨ (execute s args).status = 1

/-- **Which runs are all or nothing.** Those where the line on an error is shown, unless the error
has the status of a crash anyway, and standard output takes all texts of an answer or not even the
first. Every run prints nothing after an error, and comes to status zero or one without. -/
theorem allOrNothing_iff (s : Surroundings) (args : List String) :
    AllOrNothing s args ↔ ∀ flags c, Invokes args flags c →
      (∀ e, RunFails s flags c e → e.status = 1 ∨ s.shows (flags.colour s) (e.line s) = true) ∧
      ∀ texts, RunPrints s flags c texts → TakesAllOrNone s texts := by
  constructor
  · rintro ⟨hsilent, hfails, -⟩ flags c hargs
    exact ⟨fun e he => (execute_of_runFails hargs he).2.1 (hfails flags c e hargs he),
      fun texts ht => (execute_of_runPrints hargs ht).2.1 hsilent⟩
  · intro h
    refine ⟨fun hstatus => ?_, fun flags c e hargs he => ?_, fun flags c hargs hnone => ?_⟩
    · by_cases hargs : ∃ flags c, Invokes args flags c
      · obtain ⟨flags, c, hargs⟩ := hargs
        by_cases hfails : ∃ e, RunFails s flags c e
        · obtain ⟨e, he⟩ := hfails
          exact (execute_of_runFails hargs he).1
        · by_cases hprints : ∃ texts, RunPrints s flags c texts
          · obtain ⟨texts, ht⟩ := hprints
            exact (execute_of_runPrints hargs ht).2.2 ((h flags c hargs).2 texts ht) hstatus
          · exact (execute_of_neither hargs (not_exists.1 hfails) (not_exists.1 hprints)).2
      · exact silent_of_not_invokes (fun flags c hc => hargs ⟨flags, c, hc⟩) hstatus
    · exact (execute_of_runFails hargs he).2.2 ((h flags c hargs).1 e he)
    · by_cases hprints : ∃ texts, RunPrints s flags c texts
      · obtain ⟨texts, ht⟩ := hprints
        exact (execute_of_runPrints hargs ht).1
      · exact .inr (execute_of_neither hargs hnone (not_exists.1 hprints)).1

/-! ## A resource that does not exist -/

/-- A document without schemas on standard input, and a host that refuses no colour. -/
def bareRun : Surroundings := { host := {}, stdin := "\x7b\"openapi\": \"3.0.0\"\x7d" }

def jsonFlags : GlobalFlags := { json := true, plain := false, noColour := false, verbose := false }

/-- Shapes a single resource of the document on standard input. -/
def shapeOne (name : String) : Command := .shape ⟨"-", none⟩ (some name) none

def shapeArguments (name : String) : List String := ["--json", "shape", "-", "-r", name]

theorem invokes_shapeOne (name : String) :
    Invokes (shapeArguments name) jsonFlags (shapeOne name) := by
  have hread : read globalGrammar (shapeArguments name) =
      some ⟨[⟨"json", ""⟩], ["shape", "-", "-r", name]⟩ := by cbv
  have hwords : read (commandGrammar (backendOption :: resourceOption :: qaOptions))
      ["-", "-r", name] = some ⟨[⟨"resource", name⟩], ["-"]⟩ := by cbv
  have hcommand : TopWord.shape.read ["-", "-r", name] = some (.run (shapeOne name)) := by
    unfold TopWord.read readCommand
    dsimp only
    rw [hwords]
    rfl
  exact .intro hread rfl rfl rfl hcommand

def bareSpec : Spec where
  document := [(.text "openapi", .text "3.0.0")]
  config := {}
  version := {}
  schemas := []
  actions := []

theorem builds_shapeOne (name : String) : Builds bareRun (shapeOne name) bareSpec := by
  have hjson : Json.read "\x7b\"openapi\": \"3.0.0\"\x7d" =
      .ok (.object [(.text "openapi", .text "3.0.0")]) := by cbv
  have hblank : Text.isBlankText "\x7b\"openapi\": \"3.0.0\"\x7d" = false := by cbv
  have hremote : Document.isRemote "-" = false := by cbv
  have hload : Document.load bareRun.host.files bareRun.stdin "-" =
      .ok [(.text "openapi", .text "3.0.0")] := by
    simp [bareRun, Document.load, Document.parse, Document.requireObject, hjson, hblank, hremote]
  have hsource : (shapeOne name).source? = some ⟨"-", none⟩ := rfl
  have hformat : Document.formatVersion bareSpec.document = .ok "3.0.0" :=
    Document.formatVersion_of_get rfl rfl rfl (by decide)
  have hbuild : Logged.Quiet (Spec.build {} bareSpec.document) bareSpec :=
    Spec.quiet_build hformat (Reference.quiet_inlineValue_of_references rfl) rfl rfl rfl
  exact .intro hsource rfl hload (Logged.quiet_iff.1 hbuild).2

/-- No resource has the name. -/
theorem runFails_shapeOne (name : String) :
    RunFails bareRun jsonFlags (shapeOne name) (.unknownResource name) := by
  have hmissing : bareSpec.resource? name = none := by cbv
  exact .command rfl nofun
    (.view (builds_shapeOne name) (.resource rfl (fun _ => ⟨_, rfl⟩) hmissing))

theorem takes_bareRun (text : String) : bareRun.takes text = true := List.all_eq_true.2 fun _ _ => rfl

/-- The run ends with status two and prints nothing. -/
theorem allOrNothing_ghost :
    AllOrNothing bareRun (shapeArguments "ghost") ∧
      (execute bareRun (shapeArguments "ghost")).status = 2 ∧
      (execute bareRun (shapeArguments "ghost")).stdout = "" := by
  have hghost := invokes_shapeOne "ghost"
  have hfails := runFails_shapeOne "ghost"
  have hrun : AllOrNothing bareRun (shapeArguments "ghost") := by
    refine (allOrNothing_iff _ _).2 fun flags c hargs => ?_
    obtain ⟨rfl, rfl⟩ := hghost.unique hargs
    refine ⟨fun e he => .inr ?_, fun texts _ => .inl fun text _ => takes_bareRun text⟩
    obtain rfl := hfails.unique he
    cbv
  have hstatus := hrun.fails _ _ _ hghost hfails
  exact ⟨hrun, hstatus, hrun.silent (hstatus ▸ CommandError.status_ne_zero _)⟩

/-- The name closes a tag that nothing opens. The console refuses the line on it, and the run ends
with status one where the error has status two. -/
theorem not_forall_allOrNothing : ¬ ∀ s args, AllOrNothing s args := by
  intro h
  have hargs := invokes_shapeOne "[/x]"
  have hfails := runFails_shapeOne "[/x]"
  have hstatus := (h bareRun (shapeArguments "[/x]")).fails _ _ _ hargs hfails
  obtain hone | hshown := (execute_of_runFails hargs hfails).2.1 hstatus
  · cases hone
  · have hrefused : bareRun.shows (jsonFlags.colour bareRun) (notFound "[/x]") = false := by cbv
    exact Bool.false_ne_true (hrefused.symm.trans hshown)

end CommandLine

end SdkModel
