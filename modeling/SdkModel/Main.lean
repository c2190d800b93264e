import SdkModel.CommandLine.Run

/-!
# The program

Collects what a run sees of the host, runs the command line and writes what the run answers.
-/

namespace SdkModel

/-- The environment variables that a run reads. -/
def readVariables : List String :=
  ["HOME", "XDG_CONFIG_HOME", "XDG_DATA_HOME", "NO_COLOR", "TERM", Config.qaVariable,
    Config.backendVariable]

def collectEnv : IO (List (String × String)) :=
  readVariables.filterMapM fun name => do return (← IO.getEnv name).map fun value => (name, value)

/-- What bytes hold. -/
def contentOf (bytes : ByteArray) : Content :=
  match String.fromUTF8? bytes with
  | some text => .text text
  | none => .bytes "'utf-8' codec can't decode bytes"

/-- What a file holds, if it can be read. -/
def readContent? (path : String) : IO (Option Content) := do
  try
    return some (contentOf (← IO.FS.readBinFile path))
  catch _ => return none

/-- The files among some paths. -/
def collectFiles (paths : List String) : IO Files := do
  let found ← paths.filterMapM fun path => do
    return (← readContent? path).map fun content => (path, content)
  return Files.ofList found

/-- What a run with some arguments sees. -/
def collectSurroundings (args : List String) : IO CommandLine.Surroundings := do
  let bare : Host := { env := ← collectEnv }
  let files ← collectFiles (bare.userConfigPath :: Host.projectConfigPath :: args)
  let stdin ← if "-" ∈ args then (do return contentOf (← (← IO.getStdin).readBinToEnd))
    else pure (.text "")
  return {
    host := { bare with files }
    stdin
    isTerminal := ← (← IO.getStdout).isTty
    time := toString (← IO.monoMsNow) }

/-- Leaves a crash report. -/
def writeReport (path : String) (args : List String) : IO Unit := do
  IO.FS.createDirAll (Path.parent path)
  IO.FS.writeFile path (" ".intercalate ("sdkgen" :: args) ++ "\n")

def perform (args : List String) : IO UInt32 := do
  let seen := CommandLine.execute (← collectSurroundings args) args
  IO.print seen.stdout
  IO.eprint seen.stderr
  for r in seen.log do
    IO.eprintln (r.level.word ++ " " ++ r.message)
  if let some path := seen.crashReport then
    writeReport path args
  return seen.status.toUInt32

end SdkModel

def main (args : List String) : IO UInt32 := SdkModel.perform args
