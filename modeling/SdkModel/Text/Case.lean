import SdkModel.Text.CaseTable

/-!
# Letter case

Full case maps: a character may become several (`ß` has the capital form `SS`), and a capital
sigma at the end of a word becomes `ς`. ASCII is decided before the tables are looked at, so on
ASCII the maps are the plain ones (`upper_ascii`, `lower_ascii`).
-/

namespace SdkModel.Text

/-- Below 128, where the case maps need no table. -/
def isAscii (c : Char) : Bool := c.toNat < 128

/-- The capital form of one character. -/
def upper (c : Char) : List Char :=
  if isAscii c then [c.toUpper]
  else match upperExpansions.lookup c.toNat with
    | some ns => ns.map Char.ofNat
    | none => [((shifted? upperRuns c.toNat).map Char.ofNat).getD c]

/-- The small form of one character that stands alone. -/
def lower (c : Char) : List Char :=
  if isAscii c then [c.toLower]
  else match lowerExpansions.lookup c.toNat with
    | some ns => ns.map Char.ofNat
    | none => [((shifted? lowerRuns c.toNat).map Char.ofNat).getD c]

/-- A capital letter. -/
def isCapital (c : Char) : Bool :=
  if isAscii c then c.isUpper else inStrides capitals c.toNat

/-- A character that a search for a cased neighbour passes over. -/
def isCaseIgnorable (c : Char) : Bool :=
  if isAscii c then c ∈ ['\'', '.', ':', '^', '\x60'] else inStrides caseIgnorables c.toNat

/-- A letter that has a case. -/
def isCased (c : Char) : Bool :=
  if isAscii c then c.isAlpha else inStrides casedLetters c.toNat

/-- The nearest character that is not passed over is a cased letter. -/
def meetsCased (cs : List Char) : Bool :=
  match cs.dropWhile isCaseIgnorable with
  | [] => false
  | c :: _ => isCased c

/-- The small form of a text; `before` holds what precedes it, nearest character first. A capital
sigma after a cased letter and before none is a final one. -/
def lowerAfter : List Char → List Char → List Char
  | _, [] => []
  | before, c :: rest =>
    let small := if c = 'Σ' then [if meetsCased before && !meetsCased rest then 'ς' else 'σ']
      else lower c
    small ++ lowerAfter (c :: before) rest

/-- The small form of a text. -/
def lowerAll (cs : List Char) : List Char := lowerAfter [] cs

/-- The capital form of a text. -/
def upperAll (cs : List Char) : List Char := cs.flatMap upper

theorem upper_ascii {c : Char} (h : isAscii c = true) : upper c = [c.toUpper] := by
  simp [upper, h]

theorem lower_ascii {c : Char} (h : isAscii c = true) : lower c = [c.toLower] := by
  simp [lower, h]

end SdkModel.Text
