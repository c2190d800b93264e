import SdkModel.Yaml.Layout
import SdkModel.Yaml.Plain

/-!
# The tree of a text

The nodes that the tokens of a text make up. A text holds at most one document. A node may be given
a name, once in a text, and an alias stands for the node of that name; inside a collection the name
of the collection itself stands for a loop.

A sequence that is the value of a mapping may start at the column of the mapping, and has no tokens
for its start and end then (`Place.entry`).

The functions that follow the nesting take a count that bounds it. Each call reads a token or is
followed by one that does, so four calls per token are more than can be needed.
-/

namespace SdkModel.Yaml

/-- What is left of the tokens, the names given so far and the handles of tags. -/
structure Grove where
  tokens : List Token
  /-- The fault behind the tokens. -/
  ending : Fault
  /-- The nodes by name; none for a collection that is not at its end. -/
  anchors : List (String × Option Node) := []
  handles : List (String × String) := []

/-- Building nodes from tokens. -/
abbrev Growing := StateT Grove (Except Fault)

/-- How deep a document may nest. -/
def deepest : Nat := 480

/-- The next token. -/
def token : Growing Token := do
  let g ← get
  match g.tokens with
  | t :: _ => return t
  | [] => throw g.ending

/-- Goes behind the next token. -/
def pass : Growing Unit := modify fun g => { g with tokens := g.tokens.tail }

/-- The next token is a given one. -/
def sees (t : Token) : Growing Bool := return (← token) = t

def seesOneOf (ts : List Token) : Growing Bool := return (← token) ∈ ts

def emptyNode : Node := .scalar .null ""

def defaultHandles : List (String × String) := [("!", "!"), ("!!", Tag.space)]

/-- The tag that a tag token writes. -/
def tagOf (handle : Option String) (suffix : String) : Growing String := do
  match handle with
  | none => return suffix
  | some h =>
    match (← get).handles.lookup h with
    | some expansion => return expansion ++ suffix
    | none => throw .malformed

/-- What stands in front of a node: its name and its tag, each at most once. -/
structure Properties where
  anchor : Option String
  tag : Option String

def properties : Growing Properties := do
  let first ← token
  let (anchor, tag) ← match first with
    | .anchor name => do
      pass
      match ← token with
      | .tag h s => pass; pure (some name, some (h, s))
      | _ => pure (some name, none)
    | .tag h s => do
      pass
      match ← token with
      | .anchor name => pass; pure (some name, some (h, s))
      | _ => pure (none, some (h, s))
    | _ => pure (none, none)
  match tag with
  | none => return ⟨anchor, none⟩
  | some (h, s) => return ⟨anchor, some (← tagOf h s)⟩

namespace Properties

/-- No tag, or one that leaves the choice to the form. -/
def isOpen (p : Properties) : Bool := p.tag.all (· = "!")

/-- The tag of a collection, which is `usual` where none is written. -/
def collectionTag (p : Properties) (usual : Tag) : Tag :=
  if p.isOpen then usual else Tag.ofText (p.tag.getD "")

/-- The tag of a scalar: the written one, that of its form for a plain scalar, or text. -/
def scalarTag (p : Properties) (plain : Bool) (text : String) : Tag :=
  match p.tag with
  | some t => if t = "!" then Tag.ofForm text else Tag.ofText t
  | none => if plain then Tag.ofForm text else .text

end Properties

/-- Gives a node its name; a name is given once. -/
def nameNode (p : Properties) (node : Option Node) : Growing Unit := do
  match p.anchor with
  | none => return
  | some name =>
    if ((← get).anchors.lookup name).isSome then throw .malformed
    modify fun g => { g with anchors := (name, node) :: g.anchors }

/-- Puts the node in the place of a name that was kept for it. -/
def renameNode (p : Properties) (node : Node) : Growing Unit := do
  match p.anchor with
  | none => return
  | some name => modify fun g => { g with
      anchors := g.anchors.map fun a => if a.1 = name then (name, some node) else a }

/-- The node that an alias stands for. -/
def aliasNode (name : String) : Growing Node := do
  match (← get).anchors.lookup name with
  | some (some node) => return node
  | some none => return .loop
  | none => throw .malformed

/-- Where a node stands. -/
inductive Place where
  | flow
  | block
  /-- In a block mapping, where a sequence need not be further right. -/
  | entry
deriving DecidableEq

mutual

/-- A node, `room` levels above the deepest one. -/
def node (fuel room : Nat) (place : Place) : Growing Node :=
  match fuel with
  | 0 => throw .malformed
  | fuel + 1 => do
    if let .alias name ← token then
      pass
      return ← aliasNode name
    let p ← properties
    match ← token with
    | .scalar plain text =>
      pass
      let node := Node.scalar (p.scalarTag plain text) text
      nameNode p (some node)
      return node
    | .bracketOpen => collection fuel room p .bracketOpen
    | .braceOpen => collection fuel room p .braceOpen
    | .sequenceStart =>
      if place = .flow then bare p else collection fuel room p .sequenceStart
    | .mappingStart =>
      if place = .flow then bare p else collection fuel room p .mappingStart
    | .dash => if place = .entry then collection fuel room p .dash else bare p
    | _ => bare p

/-- A node of which nothing but the properties stands here. -/
def bare (p : Properties) : Growing Node := do
  if p.anchor.isNone && p.tag.isNone then throw .malformed
  let node := Node.scalar (p.scalarTag true "") ""
  nameNode p (some node)
  return node

/-- A collection that starts with a given token. -/
def collection (fuel room : Nat) (p : Properties) (start : Token) : Growing Node :=
  match fuel, room with
  | 0, _ => throw .malformed
  | _ + 1, 0 => throw (.limit .nesting)
  | fuel + 1, room + 1 => do
    nameNode p none
    if start ≠ .dash then pass
    let node ← match start with
      | .bracketOpen =>
        Node.sequence (p.collectionTag .sequence) <$> flowItems fuel room true
      | .braceOpen => Node.mapping (p.collectionTag .mapping) <$> flowEntries fuel room true
      | .mappingStart => Node.mapping (p.collectionTag .mapping) <$> blockEntries fuel room
      | .sequenceStart => do
        let items ← blockItems fuel room [.dash, .blockEnd]
        if !(← sees .blockEnd) then throw .malformed
        pass
        pure (Node.sequence (p.collectionTag .sequence) items)
      | _ => Node.sequence (p.collectionTag .sequence) <$>
          blockItems fuel room [.dash, .key, .value, .blockEnd]
    renameNode p node
    return node

/-- The items behind dashes; an item is empty when one of the tokens `after` follows its dash. -/
def blockItems (fuel room : Nat) (after : List Token) : Growing (List Node) :=
  match fuel with
  | 0 => throw .malformed
  | fuel + 1 => do
    if !(← sees .dash) then return []
    pass
    let item ← if ← seesOneOf after then pure emptyNode else node fuel room .block
    return item :: (← blockItems fuel room after)

/-- The entries of a block mapping up to its end. -/
def blockEntries (fuel room : Nat) : Growing (List (Node × Node)) :=
  match fuel with
  | 0 => throw .malformed
  | fuel + 1 => do
    if !(← sees .key) then
      if !(← sees .blockEnd) then throw .malformed
      pass
      return []
    pass
    let key ← if ← seesOneOf [.key, .value, .blockEnd] then pure emptyNode
      else node fuel room .entry
    let value ← if ← sees .value then do
        pass
        if ← seesOneOf [.key, .value, .blockEnd] then pure emptyNode else node fuel room .entry
      else pure emptyNode
    return (key, value) :: (← blockEntries fuel room)

/-- The value behind the key of an entry between brackets, up to one of the tokens `after`. -/
def flowValue (fuel room : Nat) (after : List Token) : Growing Node :=
  match fuel with
  | 0 => throw .malformed
  | fuel + 1 => do
    if !(← sees .value) then return emptyNode
    pass
    if ← seesOneOf after then return emptyNode
    node fuel room .flow

/-- The items of a flow sequence up to its bracket. A key makes an item a mapping of one entry. -/
def flowItems (fuel room : Nat) (first : Bool) : Growing (List Node) :=
  match fuel with
  | 0 => throw .malformed
  | fuel + 1 => do
    if ← sees .bracketClose then
      pass
      return []
    if !first then
      if !(← sees .comma) then throw .malformed
      pass
      if ← sees .bracketClose then
        pass
        return []
    let item ← if ← sees .key then do
        pass
        if room = 0 then throw (.limit .nesting)
        let key ← if ← seesOneOf [.value, .comma, .bracketClose] then pure emptyNode
          else node fuel (room - 1) .flow
        let value ← flowValue fuel (room - 1) [.comma, .bracketClose]
        pure (Node.mapping .mapping [(key, value)])
      else node fuel room .flow
    return item :: (← flowItems fuel room false)

/-- The entries of a flow mapping up to its brace. -/
def flowEntries (fuel room : Nat) (first : Bool) : Growing (List (Node × Node)) :=
  match fuel with
  | 0 => throw .malformed
  | fuel + 1 => do
    if ← sees .braceClose then
      pass
      return []
    if !first then
      if !(← sees .comma) then throw .malformed
      pass
      if ← sees .braceClose then
        pass
        return []
    let entry ← if ← sees .key then do
        pass
        let key ← if ← seesOneOf [.value, .comma, .braceClose] then pure emptyNode
          else node fuel room .flow
        let value ← flowValue fuel room [.comma, .braceClose]
        pure (key, value)
      else do
        let key ← node fuel room .flow
        pure (key, emptyNode)
    return entry :: (← flowEntries fuel room false)

end

/-! ## Documents -/

/-- The directives in front of a document: at most one version, which has to be of the first
edition, and handles, each given once. -/
def directives (fuel : Nat) (versioned : Bool) : Growing Unit :=
  match fuel with
  | 0 => throw .malformed
  | fuel + 1 => do
    match ← token with
    | .directive (.version major _) =>
      pass
      if versioned || major ≠ 1 then throw .malformed
      directives fuel true
    | .directive (.handle name expansion) =>
      pass
      if ((← get).handles.lookup name).isSome then throw .malformed
      modify fun g => { g with handles := (name, expansion) :: g.handles }
      directives fuel versioned
    | .directive .other => pass; directives fuel versioned
    | _ => return

/-- Marks of the end of a document. -/
def endMarks (fuel : Nat) : Growing Unit :=
  match fuel with
  | 0 => return
  | fuel + 1 => do
    if ← sees .documentEnd then
      pass
      endMarks fuel

/-- The node of a document that starts with directives or a mark. -/
def markedDocument (fuel : Nat) : Growing Node := do
  directives fuel false
  modify fun g => { g with handles := g.handles ++ defaultHandles }
  if !(← sees .documentStart) then throw .malformed
  pass
  match ← token with
  | .directive _ | .documentStart | .documentEnd | .textEnd => return emptyNode
  | _ => node fuel deepest .block

/-- The node of a text; none for a text without any. -/
def document (fuel : Nat) : Growing (Option Node) := do
  let root ← match ← token with
    | .textEnd => return none
    | .directive _ | .documentStart => markedDocument fuel
    | _ => do
      modify fun g => { g with handles := defaultHandles }
      node fuel deepest .block
  endMarks fuel
  if !(← sees .textEnd) then throw .malformed
  return some root

/-- The node that tokens make up. -/
def Tokens.node? (ts : Tokens) : Except Fault (Option Node) := do
  let fuel := 4 * ts.list.length + 16
  let (root, _) ← (document fuel).run { tokens := ts.list, ending := ts.ending.getD .malformed }
  return root

end SdkModel.Yaml
