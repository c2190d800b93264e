import SdkModel.CommandLine.Option

/-!
# Commands

The grammar of the command line: global options, then a command, then its own arguments. Arguments
are read in two steps, since the configuration is read between the global options and the
arguments of the command.
-/

namespace SdkModel.CommandLine

/-- A question for the arguments of a command: the help text, or the command itself. -/
inductive Request (α : Type) where
  | help
  | run (a : α)

/-! ## Global options -/

structure GlobalFlags where
  json : Bool
  plain : Bool
  noColour : Bool
  verbose : Bool
deriving DecidableEq, Repr

/-- The format that the flags ask for; JSON wins. -/
def GlobalFlags.format? (f : GlobalFlags) : Option String :=
  if f.json then some "json" else if f.plain then some "plain" else none

def helpOption : OptionWord := { name := "help", long := ["--help"] }

def globalGrammar : Grammar where
  options := [helpOption, { name := "version", long := ["--version"] },
    { name := "json", long := ["--json"] }, { name := "plain", long := ["--plain"] },
    { name := "no-color", long := ["--no-color"] },
    { name := "verbose", long := ["--verbose"], short := some 'v' }]
  mixed := false

def GlobalFlags.ofArguments (a : Arguments) : GlobalFlags :=
  { json := a.has "json", plain := a.has "plain", noColour := a.has "no-color"
    verbose := a.has "verbose" }

/-! ## Commands -/

/-- The document that a command reads, and whether it exposes hidden nodes. -/
structure Source where
  document : String
  qa : Option Bool
deriving DecidableEq, Repr

inductive Command where
  | resources (source : Source)
  | actions (source : Source) (resource : Option String)
  | enums (source : Source) (resource : Option String)
  | extensions
  | shape (source : Source) (resource backend : Option String)
deriving DecidableEq, Repr

/-- The words that a command line begins with. -/
inductive TopWord where
  | inspect
  | shape
deriving DecidableEq, Repr

def TopWord.ofWord? : String → Option TopWord
  | "inspect" => some .inspect
  | "shape" => some .shape
  | _ => none

def qaOptions : List OptionWord :=
  [{ name := "qa", long := ["--qa"] }, { name := "no-qa", long := ["--no-qa"] }]

def resourceOption : OptionWord :=
  { name := "resource", long := ["--resource"], short := some 'r', takesValue := true }

def backendOption : OptionWord :=
  { name := "backend", long := ["--backend"], short := some 'b', takesValue := true }

/-- The options that precede the subcommand of a group. -/
def groupGrammar : Grammar := { options := [helpOption], mixed := false }

/-- The arguments of a command. -/
def commandGrammar (options : List OptionWord) : Grammar :=
  { options := helpOption :: options, mixed := true }

/-- Reads the arguments of a command and makes the command of them. -/
def readCommand (options : List OptionWord) (make : Arguments → Option Command)
    (args : List String) : Option (Request Command) := do
  let a ← read (commandGrammar options) args
  if a.has "help" then return .help
  return .run (← make a)

/-- The source of a command that takes one document. -/
def sourceOf (a : Arguments) : Option Source :=
  match a.words with
  | [document] => some ⟨document, a.choice? "qa" "no-qa"⟩
  | _ => none

/-- The subcommands of `inspect`. -/
def readInspection (word : String) (args : List String) : Option (Request Command) :=
  match word with
  | "resources" => readCommand qaOptions (fun a => (sourceOf a).map .resources) args
  | "actions" => readCommand (resourceOption :: qaOptions)
      (fun a => (sourceOf a).map fun s => .actions s (a.value? "resource")) args
  | "enums" => readCommand (resourceOption :: qaOptions)
      (fun a => (sourceOf a).map fun s => .enums s (a.value? "resource")) args
  | "extensions" => readCommand []
      (fun a => if a.words.isEmpty then some .extensions else none) args
  | _ => none

/-- The arguments behind the first word; none for arguments that no command takes. -/
def TopWord.read (top : TopWord) (args : List String) : Option (Request Command) :=
  match top with
  | .shape => readCommand (backendOption :: resourceOption :: qaOptions)
      (fun a => (sourceOf a).map fun s => .shape s (a.value? "resource") (a.value? "backend")) args
  | .inspect => do
    let a ← CommandLine.read groupGrammar args
    if a.has "help" then return .help
    match a.words with
    | [] => none
    | word :: rest => readInspection word rest

end SdkModel.CommandLine
