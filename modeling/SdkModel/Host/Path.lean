import SdkModel.Text.Split

/-!
# Paths

Paths are texts in normal form: no empty and no `.` component, no slash at the end.
-/

namespace SdkModel.Path

/-- The components of a path that name something. -/
def components (path : String) : List String :=
  (Text.pieces '/' path).filter fun s => s ≠ "" && s ≠ "."

def isAbsolute (path : String) : Bool := Text.hasStart "/" path

/-- The normal form of a path. -/
def normal (path : String) : String :=
  let body := "/".intercalate (components path)
  if isAbsolute path then "/" ++ body else if body = "" then "." else body

/-- A path below another one; an absolute path stands for itself. -/
def join (base path : String) : String :=
  if isAbsolute path then normal path else normal (base ++ "/" ++ path)

/-- The last component of a path. -/
def name (path : String) : String := (components path).getLastD ""

/-- The directory that a path lies in. -/
def parent (path : String) : String :=
  let body := "/".intercalate (components path).dropLast
  if isAbsolute path then "/" ++ body else if body = "" then "." else body

/-- The ending of a file name from its last point on; a point at either end begins none. -/
def suffix (path : String) : String :=
  let file := (name path).toList
  let ext := (file.reverse.takeWhile (· ≠ '.')).reverse
  if ext.length + 1 < file.length && !ext.isEmpty then String.ofList ('.' :: ext) else ""

end SdkModel.Path
