import SdkModel.Host.Path

/-!
# Files

The files that a run sees, by path from the working directory. Directories exist as far as a file
lies in them and are never listed. Reading a file does not fail, but what it holds need not be a
text.
-/

namespace SdkModel

/-- What a file or a stream holds: a text, or bytes that encode none, with what the decoder says of
them. -/
inductive Content where
  | text (s : String)
  | bytes (fault : String)
deriving DecidableEq, Repr

instance : Coe String Content := ⟨.text⟩

/-- Files by path in normal form. -/
abbrev Files := List (String × Content)

namespace Files

def read? (fs : Files) (path : String) : Option Content := fs.lookup (Path.normal path)

/-- The files with one written, in place of the file that had its path. -/
def write (fs : Files) (path : String) (content : Content) : Files :=
  let p := Path.normal path
  fs.filter (·.1 ≠ p) ++ [(p, content)]

def ofList (pairs : List (String × Content)) : Files :=
  pairs.foldl (fun fs f => fs.write f.1 f.2) []

/-- The paths of all files, sorted. -/
def paths (fs : Files) : List String := (fs.map (·.1)).mergeSort (· ≤ ·)

end Files

end SdkModel
