import SdkModel.Yaml.Content
import SdkModel.Yaml.Tree

/-!
# Reading YAML

The value of a YAML text: the content of its scalars, collected by the collections. A collection may
be tagged as a set, or as a sequence of mappings with one entry each that are pairs.

Collections are filled level by level, so of several faults that one is reported first that lies
higher in the tree, and on one level the first in the text (`firstFault`).
-/

namespace SdkModel.Yaml

/-- The value that a collection can be a key of. -/
def keyOf? : Value → Option Key
  | .null => some .null
  | .bool b => some (.bool b)
  | .int i => some (.int i)
  | .float x => some (.float x)
  | .text s => some (.text s)
  | .special x => if x.isKey then some (.special x) else none
  | _ => none

namespace Tag

/-- The tags of collections. -/
def isCollection (t : Tag) : Bool :=
  t ∈ [.sequence, .mapping, .set, .orderedMapping, .pairs]

end Tag

namespace Node

/-- The value of a node that is not filled later; none for a collection and for a loop. -/
def scalar? (n : Node) : Except Fault (Option Value) :=
  match n with
  | .loop => .ok none
  | n =>
    if n.tag.isCollection then .ok none
    else match n.text? with
      | none => .error .malformed
      | some s => some <$> content n.tag s

/-- A key of a mapping as it is read: the sign of a default value is a text there. -/
def asKey (n : Node) : Node := if n.tag = .default then n.withTag .text else n

/-- The entries of a mapping with the keys as they are read. -/
def keyed? (n : Node) : Option (List (Node × Node)) := do
  return (← n.entries?).map fun e => (e.1.asKey, e.2)

/-- The pairs of a sequence of mappings with one entry each. -/
def pairs? : Node → Option (List (Node × Node))
  | .sequence _ xs => xs.mapM fun
    | .mapping _ [e] => some e
    | _ => none
  | _ => none

/-- The nodes that a collection is filled with, and whether they are keys. -/
def parts? (n : Node) : Option (List (Node × Bool)) :=
  match n.tag, n with
  | .sequence, .sequence _ xs => some (xs.map fun x => (x, false))
  | .mapping, n | .set, n => do return (← n.keyed?).flatMap fun e => [(e.1, true), (e.2, false)]
  | .orderedMapping, n | .pairs, n => do
    return (← n.pairs?).flatMap fun e => [(e.1, false), (e.2, false)]
  | _, _ => none

/-- The collections among the parts of a collection, or the first fault. -/
def innerOf (parts : List (Node × Bool)) : Except Fault (List Node) := do
  match parts with
  | [] => return []
  | (n, key) :: rest =>
    match ← n.scalar? with
    | some v =>
      if key && (keyOf? v).isNone then throw .malformed
      innerOf rest
    | none =>
      if key then throw .malformed
      return n :: (← innerOf rest)

/-- The collections in the collections of one level, or the first fault. -/
def nextLevel (level : List Node) : Except Fault (List Node) := do
  match level with
  | [] => return []
  | .loop :: rest => nextLevel rest
  | n :: rest =>
    match n.parts? with
    | none => throw .malformed
    | some parts =>
      let inner ← innerOf parts
      return inner ++ (← nextLevel rest)

/-- The first fault below the collections of one level. -/
def firstFault (fuel : Nat) (level : List Node) : Except Fault Unit :=
  match fuel, level with
  | 0, _ => .ok ()
  | _, [] => .ok ()
  | fuel + 1, level => do firstFault fuel (← nextLevel level)

/-- The value of a node without faults. -/
def value (fuel : Nat) (n : Node) : Value :=
  match fuel with
  | 0 => .null
  | fuel + 1 =>
    match n.scalar? with
    | .error _ => .null
    | .ok (some v) => v
    | .ok none =>
      let entries := (n.keyed?.getD []).filterMap fun e =>
        (keyOf? (value fuel e.1)).map fun k => (k, value fuel e.2)
      match n.tag, n with
      | .sequence, .sequence _ xs => .list (xs.map (value fuel))
      | .mapping, _ => .object (Entries.ofList entries)
      | .set, _ => .special (.set ((Entries.ofList entries).map (·.1.displayQuoted)))
      | _, n => .list ((n.pairs?.getD []).map fun e => .list [value fuel e.1, value fuel e.2])

/-- The value of the node of a text. A collection that holds itself has none, but its kind is
known. -/
def valueOf (fuel : Nat) (n : Node) : Except Fault Value := do
  let _ ← innerOf [(n, false)]
  firstFault fuel (if n.tag.isCollection then [n] else [])
  let v := n.value fuel
  if n.isEndless && v.isObject then throw .endless
  return v

end Node

/-- Reads a YAML text; a text without a node is null. -/
def read (text : String) : Except Fault Value := do
  let cs := text.toList
  if !cs.all isAllowed then throw .malformed
  match ← (Tokens.ofText cs).node? with
  | none => return .null
  | some root => root.valueOf (cs.length + 2)

end SdkModel.Yaml
