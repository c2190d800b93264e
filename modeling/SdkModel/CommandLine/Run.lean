import SdkModel.CommandLine.Command
import SdkModel.CommandLine.Listing
import SdkModel.Config.Resolve
import SdkModel.Document.Load
import SdkModel.Typed.Backend

/-!
# Running a command line

A run is a function of the arguments and of what it sees of the host. It comes to an exit status,
texts for standard output, lines for standard error, a log, and a crash report that is to be
written (`run`). Failures that a user can mend are explained on standard error; any other one leaves
a crash report.

Writing this can fail in turn (`deliver`): the console may refuse a line, and standard output may
lack a character. The command crashes then, with what was written before.
-/

namespace SdkModel.CommandLine

/-- The version of this program. -/
def programVersion : String := "0.1.0"

/-- What a run sees besides its arguments, and what it writes to. -/
structure Surroundings where
  host : Host
  stdin : Content := .text ""
  plugins : List (Plugin Backend) := []
  /-- Standard output is a terminal. -/
  isTerminal : Bool := false
  /-- The time, as crash reports are named by it. -/
  time : String := ""
  /-- The console on standard error. -/
  console : Console := .byTags
  /-- The characters that the encoding of standard output has. A lone surrogate, which no encoding
  has, counts as U+FFFD. -/
  encodes : Char → Bool := fun _ => true
  /-- What the readers of records and of YAML have to say besides the report of a failure. -/
  detail : Failure → String := fun _ => ""

/-- Standard output takes the text. -/
def Surroundings.takes (s : Surroundings) (text : String) : Bool := text.toList.all s.encodes

/-- Why a command ends before it has an answer. -/
inductive CommandError where
  /-- A failure that the command leaves to its caller. -/
  | failure (f : Failure)
  /-- A failure that is explained where it is met. -/
  | handled (f : Failure)
  | unknownResource (name : String)
deriving DecidableEq, Repr

/-- What a run comes to, before any of it is written. -/
structure Outcome where
  status : Nat
  /-- The line that a verbose command begins with. -/
  opening : Option Diagnostic := none
  /-- The line on an error that the command sees itself. -/
  closing : Option Diagnostic := none
  /-- The texts for standard output, each with a line feed behind it. -/
  printed : List String := []
  /-- The line on an error that the command leaves to its caller. -/
  last : Option Diagnostic := none
  /-- Diagnostics have styled labels. -/
  colour : Bool := false
  log : Log := []
  /-- The path of the crash report. -/
  crashReport : Option String := none

/-- All that is meant for standard output. -/
def Outcome.stdout (x : Outcome) : String := Output.lines x.printed

/-- A command line that no command takes. -/
def usageStatus : Nat := 2

def usageError : Outcome := { status := usageStatus }

/-! ## Errors -/

/-- The outcome of a run that leaves a crash report. -/
def crashed (s : Surroundings) : Outcome :=
  let path := s.host.crashPath s.time
  { status := 1
    last := some (.error ("Unexpected error. Debug log: " ++ path))
    crashReport := some path }

/-- The line that explains a failure. -/
def explained (s : Surroundings) (f : Failure) : Diagnostic := .error (f.report ++ s.detail f)

/-- The outcome of a run whose command ends in a failure. -/
def failed (s : Surroundings) (f : Failure) : Outcome :=
  if f.isReported then { status := f.exitCode, last := some (explained s f) } else crashed s

/-- The outcome of a run with a failure that is explained where it is met. -/
def handled (s : Surroundings) (f : Failure) : Outcome :=
  if f.isReported then { status := f.exitCode, closing := some (explained s f) } else crashed s

/-- The line on a resource that does not exist. -/
def notFound (name : String) : Diagnostic := .error ("Resource '" ++ name ++ "' not found")

def stopped (s : Surroundings) : CommandError → Outcome
  | .failure f => failed s f
  | .handled f => handled s f
  | .unknownResource name => { status := usageStatus, closing := some (notFound name) }

/-! ## Commands -/

/-- A computation of a command. -/
abbrev Step (α : Type) := Logged CommandError α

def checked {α : Type} (kind : Failure → CommandError) (x : Build α) : Step α :=
  ⟨x.log, x.outcome.mapError kind⟩

/-- Writes the records of a view that a command takes. -/
def note (log : Log) : Step Unit := ⟨log, .ok ()⟩

/-- The model of the document of a command. -/
def loadSpec (s : Surroundings) (document : String) (config : GenerationConfig) : Step Spec := do
  let entries ← checked .failure
    (Logged.ofExcept (Document.load s.host.files s.stdin document))
  checked .failure (Spec.build config entries)

/-- A resource that a command names. -/
def findResource (spec : Spec) (name : String) : Step Resource := do
  note spec.reuseLog
  match spec.resource? name with
  | some r => return r
  | none => .fail (.unknownResource name)

def inspectResources (o : Output) (spec : Spec) : Step (List String) := do
  note (spec.reuseLog ++ (listedResources spec).flatMap (·.subResourceLog))
  return o.tableTexts (resourceTable spec)

def inspectActions (o : Output) (spec : Spec) (resource : Option String) :
    Step (List String) := do
  let resources ← match resource with
    | some name => do pure [← findResource spec name]
    | none => do
      note spec.reuseLog
      pure spec.resources
  return o.tableTexts (actionTable resources)

def inspectEnums (o : Output) (spec : Spec) (resource : Option String) :
    Step (List String) := do
  let enums ← match resource with
    | some name => do
      let r ← findResource spec name
      note (r.generatedEnumsLog spec.resources)
      pure (r.generatedEnums spec.resources)
    | none => pure (Enum.dedupe spec.globalEnums)
  return o.tableTexts (enumTable enums)

def shapeDocument (s : Surroundings) (o : Output) (spec : Spec) (resource : Option String) :
    Step (List String) := do
  let table ← checked .handled (Typed.registry.lookupTable s.plugins spec.config.backend)
  let backend ← checked .handled (Logged.ofExcept (table.get spec.config.backend))
  match resource with
  | none =>
    note (spec.reuseLog ++ backend.shapeLog spec.config spec)
    checked .handled (Logged.ofExcept (o.dataTexts (backend.shape spec.config spec)))
  | some name =>
    let r ← findResource spec name
    note (backend.shapeResourceLog spec.config spec r)
    checked .handled (Logged.ofExcept (o.dataTexts (backend.shapeResource spec.config spec r)))

namespace Command

/-- The document of a command that reads one. -/
def source? : Command → Option Source
  | resources source | actions source _ | enums source _ | shape source .. => some source
  | extensions => none

def backend? : Command → Option String
  | shape _ _ backend => backend
  | _ => none

/-- The settings that a command gives. -/
def flags (c : Command) : Config.GenerationFlags :=
  { qaMode := ((c.source?.bind (·.qa)).map Value.bool).getD .null
    backend := .optText c.backend? }

/-- What a command shows of a document. -/
def view (c : Command) (s : Surroundings) (o : Output) (spec : Spec) : Step (List String) :=
  match c with
  | resources _ => inspectResources o spec
  | actions _ resource => inspectActions o spec resource
  | enums _ resource => inspectEnums o spec resource
  | shape _ resource _ => shapeDocument s o spec resource
  | extensions => return o.tableTexts extensionTable

/-- The outcome of a computation that begins with a line for standard error. -/
def outcome (s : Surroundings) (opening : Option Diagnostic) (x : Step (List String)) : Outcome :=
  match x.outcome with
  | .ok texts => { status := 0, opening, printed := texts, log := x.log }
  | .error e => { stopped s e with opening, log := x.log }

def loadingMessage (document : String) (qa : Bool) : String :=
  "Loading " ++ document ++ " (qa_mode=" ++ (Value.bool qa).display ++ ")"

/-- Runs a command. -/
def run (c : Command) (s : Surroundings) (o : Output) : Outcome :=
  match c.source? with
  | none => { status := 0, printed := o.tableTexts extensionTable }
  | some source =>
    match Config.generation s.host c.flags with
    | .error f => failed s f
    | .ok config =>
      outcome s (o.debug? (loadingMessage source.document config.qaMode)) do
        let spec ← loadSpec s source.document config
        c.view s o spec

end Command

/-! ## Command lines -/

def helpText : String := "Usage: sdkgen [OPTIONS] COMMAND [ARGS]..."

def help : Outcome := { status := 0, printed := [helpText] }

def version : Outcome := { status := 0, printed := ["sdkgen " ++ programVersion] }

/-- The log records that are shown. -/
def shownLog (verbose : Bool) (log : Log) : Log := if verbose then log else log.warnings

/-- Diagnostics are in colour where neither the flags nor the host refuse it. -/
def GlobalFlags.colour (f : GlobalFlags) (s : Surroundings) : Bool :=
  !(f.noColour || s.host.refusesColour)

/-- How a run with these flags writes, from the settings of output. -/
def GlobalFlags.output (f : GlobalFlags) (s : Surroundings) (choice : Config.OutputChoice) :
    Output :=
  let format := (OutputFormat.ofWord? choice.format).getD .auto
  { rendering := format.rendering (s.isTerminal && f.colour s)
    verbose := choice.verbose
    colour := f.colour s }

/-- Runs the command behind the global options. -/
def runCommand (s : Surroundings) (flags : GlobalFlags) (top : TopWord) (args : List String) :
    Outcome :=
  match Config.output s.host flags.format? flags.verbose with
  -- The flag on colour is heard no sooner than the settings of output are read.
  | .error f => { handled s f with colour := !s.host.refusesColour }
  | .ok choice =>
    let o := flags.output s choice
    match top.read args with
    | none => usageError
    | some .help => help
    | some (.run command) =>
      let outcome := command.run s o
      { outcome with log := shownLog choice.verbose outcome.log, colour := o.colour }

/-- Runs a command line, but for the writing. -/
def run (s : Surroundings) (args : List String) : Outcome :=
  match read globalGrammar args with
  | none => usageError
  | some a =>
    match a.last? ["help", "version"] with
    | some g => if g.name = "help" then help else version
    | none =>
      match a.words with
      | [] => usageError
      | word :: rest =>
        match TopWord.ofWord? word with
        | none => usageError
        | some top => runCommand s (.ofArguments a) top rest

/-! ## Writing -/

/-- What is seen of a run. -/
structure Transcript where
  status : Nat
  stdout : String
  stderr : String
  log : Log
  /-- The path of the crash report. -/
  crashReport : Option String

/-- The console shows the line. -/
def Surroundings.shows (s : Surroundings) (colour : Bool) (d : Diagnostic) : Bool :=
  (d.text? s.console colour).isSome

/-- What is written of a line that there may be. -/
def shown (s : Surroundings) (colour : Bool) (line : Option Diagnostic) : String :=
  (line.bind (·.text? s.console colour)).getD ""

/-- Ends a run that has written `stdout` and `stderr`. The last line is written by the program
itself, which nothing looks after: where the console refuses it, the run ends with status one. -/
def finish (s : Surroundings) (colour : Bool) (x : Outcome) (stdout stderr : String) (log : Log) :
    Transcript :=
  { status := if x.last.all (s.shows colour) then x.status else 1
    stdout
    stderr := stderr ++ shown s colour x.last
    log
    crashReport := x.crashReport }

/-- Writes what a run comes to. Texts for standard output are written one by one, up to the first
that it does not take. -/
def deliver (s : Surroundings) (x : Outcome) : Transcript :=
  let opening := shown s x.colour x.opening
  let stderr := opening ++ shown s x.colour x.closing
  if !x.opening.all (s.shows x.colour) then finish s x.colour (crashed s) "" "" []
  else if !x.closing.all (s.shows x.colour) then finish s x.colour (crashed s) "" opening x.log
  else if !x.printed.all s.takes then
    finish s x.colour (crashed s) (Output.lines (x.printed.takeWhile s.takes)) stderr x.log
  else finish s x.colour x x.stdout stderr x.log

/-- Runs a command line. -/
def execute (s : Surroundings) (args : List String) : Transcript := deliver s (run s args)

end SdkModel.CommandLine
