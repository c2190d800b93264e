/-!
# Cutting text

Texts are cut at single characters. `split` never answers the empty list, and joining its pieces
with the separator gives the text back (`intercalate_split`).
-/

namespace SdkModel.Text

/-- The pieces of a text between the occurrences of `sep`, empty ones included. -/
def split (sep : Char) : List Char → List (List Char)
  | [] => [[]]
  | c :: cs =>
    match split sep cs with
    | [] => [[c]]
    | p :: ps => if c = sep then [] :: p :: ps else (c :: p) :: ps

theorem split_ne_nil (sep : Char) (cs : List Char) : split sep cs ≠ [] := by
  cases cs with
  | nil => simp [split]
  | cons c cs => unfold split; split <;> (try split) <;> simp

/-- The pieces of a text as texts. -/
def pieces (sep : Char) (s : String) : List String :=
  (split sep s.toList).map String.ofList

/-- What follows the last `sep`, or the whole text when it has none. -/
def afterLast (sep : Char) (s : String) : String :=
  String.ofList ((split sep s.toList).getLastD [])

/-- What precedes the first `sep`, or the whole text when it has none. -/
def beforeFirst (sep : Char) (s : String) : String :=
  String.ofList ((split sep s.toList).headD [])

def hasStart (start s : String) : Bool := start.toList.isPrefixOf s.toList

def hasEnd (ending s : String) : Bool := ending.toList.isSuffixOf s.toList

/-- The word stands somewhere in the text. -/
def occurs (word : List Char) : List Char → Bool
  | [] => word.isEmpty
  | c :: cs => word.isPrefixOf (c :: cs) || occurs word cs

/-- The text with every `old` replaced by `new`. -/
def swapChar (old new : Char) (s : String) : String :=
  String.ofList (s.toList.map fun c => if c = old then new else c)

/-- The text with the pair `a`, `b` replaced by `new`, from the left. -/
def swapPair (a b new : Char) : List Char → List Char
  | [] => []
  | [c] => [c]
  | c :: d :: cs =>
    if c = a ∧ d = b then new :: swapPair a b new cs else c :: swapPair a b new (d :: cs)

theorem intercalate_split (sep : Char) (cs : List Char) :
    List.intercalate [sep] (split sep cs) = cs := by
  induction cs with
  | nil => rfl
  | cons c cs ih =>
    unfold split
    cases h : split sep cs with
    | nil => exact absurd h (split_ne_nil sep cs)
    | cons p ps =>
      rw [h] at ih
      by_cases hc : c = sep
      · subst hc
        simp only [↓reduceIte]
        rw [← ih]
        rfl
      · simp only [hc, ↓reduceIte]
        rw [← ih]
        cases ps <;> simp [List.intercalate, List.intersperse]

end SdkModel.Text
