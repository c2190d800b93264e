/-!
# YAML nodes

A YAML text is a tree of nodes. Every node has a tag, which says what kind of value it stands for:
a tag that is written, or the one that the form of the node gives it.
-/

namespace SdkModel.Yaml

/-- The kinds of values. -/
inductive Tag where
  | null
  | bool
  | int
  | float
  | time
  | binary
  | text
  | sequence
  | mapping
  | set
  | orderedMapping
  | pairs
  /-- The key whose value brings in entries of other mappings. -/
  | merge
  /-- The key whose value stands for the mapping where a scalar is asked for. -/
  | default
  | other
deriving DecidableEq, Repr

def Tag.names : List (String × Tag) := [
  ("null", .null), ("bool", .bool), ("int", .int), ("float", .float), ("timestamp", .time),
  ("binary", .binary), ("str", .text), ("seq", .sequence), ("map", .mapping), ("set", .set),
  ("omap", .orderedMapping), ("pairs", .pairs), ("merge", .merge), ("value", .default)]

/-- The start of the tags that every document knows. -/
def Tag.space : String := "tag:yaml.org,2002:"

/-- The tag that is written out as a text. -/
def Tag.ofText (s : String) : Tag :=
  ((Tag.names.find? fun t => Tag.space ++ t.1 = s).map (·.2)).getD .other

inductive Node where
  | scalar (tag : Tag) (text : String)
  | sequence (tag : Tag) (items : List Node)
  | mapping (tag : Tag) (entries : List (Node × Node))
  /-- A collection inside itself. -/
  | loop
deriving Repr, Inhabited

namespace Node

def tag : Node → Tag
  | .scalar t _ => t
  | .sequence t _ => t
  | .mapping t _ => t
  | .loop => .other

def withTag (t : Tag) : Node → Node
  | .scalar _ s => .scalar t s
  | .sequence _ xs => .sequence t xs
  | .mapping _ es => .mapping t es
  | .loop => .loop

mutual

/-- The text of a node where a scalar is asked for: a mapping may hold it under the default key. -/
def text? : Node → Option String
  | .scalar _ s => some s
  | .mapping _ es => defaultText? es
  | _ => none

def defaultText? : List (Node × Node) → Option String
  | [] => none
  | (k, v) :: es => if k.tag = .default then v.text? else defaultText? es

end

mutual

/-- Some collection in a node holds itself. -/
def isEndless : Node → Bool
  | .loop => true
  | .scalar .. => false
  | .sequence _ xs => anyEndless xs
  | .mapping _ es => anyEntryEndless es

def anyEndless : List Node → Bool
  | [] => false
  | x :: xs => x.isEndless || anyEndless xs

def anyEntryEndless : List (Node × Node) → Bool
  | [] => false
  | (k, v) :: es => k.isEndless || v.isEndless || anyEntryEndless es

end

/-! ## Merged entries -/

mutual

/-- The entries of a mapping, those that merge keys bring in put in front: of several mappings in
one merge the first one wins, so it comes last. -/
def entries? : Node → Option (List (Node × Node))
  | .mapping _ es => do return (← merged? es) ++ es.filter (·.1.tag ≠ .merge)
  | _ => none

/-- The entries that the merge keys among some entries bring in. -/
def merged? : List (Node × Node) → Option (List (Node × Node))
  | [] => some []
  | (k, v) :: es =>
    if k.tag = .merge then do
      let own ← mergeable? v
      return own ++ (← merged? es)
    else merged? es

/-- The entries that the value of a merge key brings in. -/
def mergeable? : Node → Option (List (Node × Node))
  | .mapping _ es => do return (← merged? es) ++ es.filter (·.1.tag ≠ .merge)
  | .sequence _ xs => do return (← entriesOfAll? xs).reverse.flatten
  | _ => none

def entriesOfAll? : List Node → Option (List (List (Node × Node)))
  | [] => some []
  | x :: xs => do
    let es ← x.entries?
    return es :: (← entriesOfAll? xs)

end

end Node

end SdkModel.Yaml
