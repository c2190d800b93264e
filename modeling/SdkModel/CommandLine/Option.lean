/-!
# Reading arguments

The arguments of a command are options and positional words. An option is written as a long word
(`--resource thing`, `--resource=thing`) or as a letter (`-r thing`, `-rthing`); letters without a
value may share a dash. `--` ends the options. Commands that hand over to a subcommand stop at the
first positional word (`Grammar.mixed`).

Reading goes through the arguments once; `awaiting` is the option whose value comes next.
-/

namespace SdkModel.CommandLine

/-- An option of a command. -/
structure OptionWord where
  name : String
  long : List String
  short : Option Char := none
  takesValue : Bool := false
deriving DecidableEq, Repr

/-- What a command reads. -/
structure Grammar where
  options : List OptionWord
  /-- Options may follow positional words. -/
  mixed : Bool
deriving DecidableEq, Repr

/-- An option that was given, with its value. -/
structure Given where
  name : String
  value : String
deriving DecidableEq, Repr

/-- The arguments of a command as they were read. -/
structure Arguments where
  given : List Given
  words : List String
deriving DecidableEq, Repr

namespace Arguments

/-- The value of the last option given under one of the names, with its name. -/
def last? (a : Arguments) (names : List String) : Option Given :=
  (a.given.filter fun g => g.name ∈ names).getLast?

def has (a : Arguments) (name : String) : Bool := a.given.any (·.name = name)

def value? (a : Arguments) (name : String) : Option String := (a.last? [name]).map (·.value)

/-- The answer to a pair of options that exclude each other: the later one counts. -/
def choice? (a : Arguments) (yes no : String) : Option Bool :=
  (a.last? [yes, no]).map fun g => g.name = yes

end Arguments

/-- The options that one argument gives, and the option that the next argument belongs to. -/
structure Reading where
  given : List Given
  awaiting : Option String := none

def Grammar.long? (g : Grammar) (word : String) : Option OptionWord :=
  g.options.find? fun o => word ∈ o.long

def Grammar.short? (g : Grammar) (c : Char) : Option OptionWord :=
  g.options.find? fun o => o.short = some c

/-- Letters behind one dash: the first that takes a value takes the rest as its value. -/
def readLetters (g : Grammar) : List Char → Option Reading
  | [] => some ⟨[], none⟩
  | c :: rest =>
    match g.short? c with
    | none => none
    | some o =>
      if o.takesValue then
        if rest.isEmpty then some ⟨[], some o.name⟩
        else some ⟨[⟨o.name, String.ofList rest⟩], none⟩
      else (readLetters g rest).map fun r => { r with given := ⟨o.name, ""⟩ :: r.given }

/-- A long option, with the value that is attached to it. -/
def readLong (o : OptionWord) (attached : Option String) : Option Reading :=
  match o.takesValue, attached with
  | true, some v => some ⟨[⟨o.name, v⟩], none⟩
  | true, none => some ⟨[], some o.name⟩
  | false, none => some ⟨[⟨o.name, ""⟩], none⟩
  | false, some _ => none

/-- The word of a long option and the value behind its first equals sign. -/
def splitAttached (cs : List Char) : String × Option String :=
  (String.ofList (cs.takeWhile (· ≠ '=')),
    match cs.dropWhile (· ≠ '=') with
    | [] => none
    | _ :: value => some (String.ofList value))

/-- An argument that begins with a dash. -/
def readOption (g : Grammar) (cs : List Char) : Option Reading :=
  let (word, attached) := splitAttached cs
  match g.long? word, cs with
  | some o, _ => readLong o attached
  | none, '-' :: '-' :: _ => none
  | none, _ :: letters => readLetters g letters
  | none, [] => none

/-- An argument that is read as options; a single dash is a word. -/
def isOption : List Char → Bool
  | '-' :: _ :: _ => true
  | _ => false

/-- Reads arguments; none for those that do not fit the grammar. -/
def readFrom (g : Grammar) (awaiting : Option String) : List String → Option Arguments
  | [] => if awaiting.isNone then some ⟨[], []⟩ else none
  | a :: rest =>
    match awaiting with
    | some name =>
      (readFrom g none rest).map fun r => { r with given := ⟨name, a⟩ :: r.given }
    | none =>
      if a = "--" then some ⟨[], rest⟩
      else if isOption a.toList then
        match readOption g a.toList with
        | none => none
        | some read =>
          (readFrom g read.awaiting rest).map fun r => { r with given := read.given ++ r.given }
      else if g.mixed then
        (readFrom g none rest).map fun r => { r with words := a :: r.words }
      else some ⟨[], a :: rest⟩

def read (g : Grammar) (args : List String) : Option Arguments := readFrom g none args

end SdkModel.CommandLine
