import SdkModel.Host.Files

/-!
# The environment of a run

What a run sees of its host: the files, the environment variables, and whether the host keeps the
directories of applications by the XDG convention. The directories of this program follow from
these.
-/

namespace SdkModel

structure Host where
  files : Files := []
  env : List (String × String) := []
  /-- Applications keep their files in the XDG base directories. -/
  usesXdg : Bool := true

/-- The name of the directories of this program. -/
def appName : String := "sdkgen"

namespace Host

variable (h : Host)

def env? (name : String) : Option String := h.env.lookup name

/-- The host with an environment variable set or removed. -/
def setEnv (name : String) (value : Option String) : Host :=
  { h with env := h.env.filter (·.1 ≠ name) ++ (value.map fun v => (name, v)).toList }

/-- The environment variable, when it is set and not empty. -/
def telling? (name : String) : Option String := (h.env? name).filter (· ≠ "")

def home : String := (h.telling? "HOME").getD "/"

/-- A directory of this program: below the base directory that a variable names or that lies in the
home directory, and where there are no base directories in the home directory itself. -/
def appDir (baseVariable usualBase fallback : String) : String :=
  if h.usesXdg then
    let base := (h.telling? baseVariable).getD (Path.join h.home usualBase)
    Path.join base appName
  else Path.join h.home ("." ++ appName ++ fallback)

/-- The directory of the user configuration. -/
def configDir : String := h.appDir "XDG_CONFIG_HOME" ".config" ""

/-- The directory of crash reports. -/
def dataDir : String := h.appDir "XDG_DATA_HOME" ".local/share" "/logs"

/-- The file of the user configuration. -/
def userConfigPath : String := Path.join h.configDir "config.json"

/-- The file of the project configuration, in the working directory. -/
def projectConfigPath : String := "sdkgen.json"

/-- A crash report is written under a name that holds the time. -/
def crashPath (time : String) : String :=
  Path.join h.dataDir ("logs/crash-" ++ time ++ ".log")

end Host

end SdkModel
