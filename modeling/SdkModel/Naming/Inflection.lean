/-!
# Singular and plural

English inflection by ordered rules. A rule looks at the end of a word only: it asks for a tail,
drops the last letters of it and writes others in their place. The first rule of a list that fits
decides (`inflect`); a word that no rule fits, and a word without a plural, stays as it is.

A line feed at the end of a word is not part of its tail. The one rule that asks for no tail fits
behind such a line feed as well.
-/

namespace SdkModel.Inflection

/-- What a rule asks of one letter of the tail. -/
inductive Letter where
  | is (c : Char)
  | among (cs : List Char)
  | other (cs : List Char)
deriving DecidableEq, Repr

/-- The letter that a character counts as where case does not matter. -/
def fold (c : Char) : Char :=
  if 'A' ≤ c ∧ c ≤ 'Z' then Char.ofNat (c.toNat + 32)
  else if c = 'İ' ∨ c = 'ı' then 'i'
  else if c = 'ſ' then 's'
  else c

def Letter.fits : Letter → Char → Bool
  | .is a, c => c = a
  | .among as, c => c ∈ as
  | .other as, c => c ∉ as

/-- A tail of a word, the count of its last letters that go, and what comes in their place. -/
structure Ending where
  tail : List Letter
  drop : Nat
  put : List Char
deriving DecidableEq, Repr

structure Rule where
  /-- Tails that the rule takes; the first that fits counts. -/
  endings : List Ending
  /-- The tail has to be the whole word. -/
  whole : Bool
  /-- Case does not matter. -/
  anyCase : Bool
deriving DecidableEq, Repr

/-- The reversed word ends in the reversed tail. -/
def endsIn (anyCase : Bool) : List Letter → List Char → Bool
  | [], _ => true
  | _ :: _, [] => false
  | l :: ls, c :: cs => l.fits (if anyCase then fold c else c) && endsIn anyCase ls cs

def Rule.takes (r : Rule) (word : List Char) (e : Ending) : Bool :=
  endsIn r.anyCase e.tail.reverse word.reverse && (!r.whole || e.tail.length = word.length)

/-- The word with the letters of an ending replaced. -/
def Ending.replace (e : Ending) (word : List Char) : List Char :=
  word.take (word.length - e.drop) ++ e.put

/-- The word and whether a line feed follows it. -/
def cutLineFeed (word : List Char) : List Char × Bool :=
  if word.getLast? = some '\n' then (word.dropLast, true) else (word, false)

/-- The word as a rule writes it, when the rule fits. -/
def Rule.form? (r : Rule) (word : List Char) : Option (List Char) :=
  let (body, lineFeed) := cutLineFeed word
  (r.endings.find? (r.takes body)).map fun e =>
    e.replace body ++ (if lineFeed then '\n' :: (if e.tail.isEmpty then e.put else []) else [])

/-- Letters of a tail that are all given. -/
def letters (s : String) : List Letter := s.toList.map .is

/-- A rule for the words that end in one of `stems` followed by `cut`: `cut` becomes `put`. -/
def suffixes (stems : List String) (cut put : String) : Rule :=
  { endings := stems.map fun s => ⟨letters (s ++ cut), cut.length, put.toList⟩
    whole := false
    anyCase := false }

def suffix (cut put : String) : Rule := suffixes [""] cut put

/-- A rule for one letter of a class followed by `cut`. -/
def classed (l : Letter) (cut put : String) : Rule :=
  { endings := [⟨l :: letters cut, cut.length, put.toList⟩], whole := false, anyCase := false }

/-- A rule that also takes the endings of another. -/
def Rule.or (r s : Rule) : Rule := { r with endings := r.endings ++ s.endings }

def Rule.inAnyCase (r : Rule) : Rule := { r with anyCase := true }

def Rule.onWholeWord (r : Rule) : Rule := { r with whole := true }

/-- A consonant, or the `u` after a `q`, before a `y`. -/
def consonant : Letter := .other ['a', 'e', 'i', 'o', 'u', 'y']

/-- The rules for the singular, the first to be tried first. -/
def singularRules : List Rule := [
  suffix "data" "data",
  suffix "databases" "database",
  suffixes ["quiz"] "zes" "",
  suffixes ["matr"] "ices" "ix",
  suffixes ["virt", "ind"] "ices" "ex",
  suffixes ["ox"] "en" "",
  suffixes ["alias", "status"] "es" "",
  suffixes ["octop", "vir"] "i" "us",
  (suffixes ["tax"] "es" "").inAnyCase,
  suffixes ["cris", "ax", "test"] "es" "is",
  suffixes ["shoe"] "s" "",
  suffixes ["o"] "es" "",
  suffixes ["bus"] "es" "",
  classed (.among ['m', '|', 'l']) "ice" "ouse",
  suffixes ["x", "ch", "ss", "sh"] "es" "",
  suffixes ["m"] "ovies" "ovie",
  suffix "series" "series",
  (classed consonant "ies" "y").or (suffixes ["qu"] "ies" "y"),
  classed (.among ['l', 'r']) "ves" "f",
  suffixes ["tive"] "s" "",
  (suffixes ["slave"] "s" "").inAnyCase,
  suffixes ["hive"] "s" "",
  classed (.other ['f']) "ves" "fe",
  (suffix "analyses" "analysis").onWholeWord,
  (suffixes ["analy"] "ses" "asis").or
    (suffixes ["ba", "diagno", "parenthe", "progno", "synop", "the"] "ses" "sis"),
  suffix "news" "news",
  suffix "ss" "ss",
  suffix "s" ""]

/-- The rules for the plural, the first to be tried first. -/
def pluralRules : List Rule := [
  suffix "data" "data",
  (suffixes ["quiz"] "" "zes").inAnyCase,
  (suffixes ["ox"] "" "en").inAnyCase.onWholeWord,
  (classed (.among ['m', '|', 'l']) "ouse" "ice").inAnyCase,
  ((suffixes ["matr", "vert", "ind"] "ix" "ices").or
    (suffixes ["matr", "vert", "ind"] "ex" "ices")).inAnyCase,
  (suffixes ["x", "ch", "ss", "sh"] "" "es").inAnyCase,
  ((classed consonant "y" "ies").or (suffixes ["qu"] "y" "ies")).inAnyCase,
  (suffixes ["slave"] "" "s").inAnyCase,
  (suffixes ["hive"] "" "s").inAnyCase,
  ((classed (.other ['f']) "fe" "ves").or (classed (.among ['l', 'r']) "f" "ves")).inAnyCase,
  suffix "sis" "ses",
  (classed (.among ['t', 'i']) "um" "a").inAnyCase,
  (suffixes ["buffal", "tomat"] "o" "oes").inAnyCase,
  (suffixes ["bu"] "s" "es").inAnyCase,
  (suffixes ["alias", "status"] "" "es").inAnyCase,
  (suffixes ["octop", "vir"] "us" "i").inAnyCase,
  (suffixes ["tax"] "" "es").inAnyCase,
  (suffixes ["ax", "test"] "is" "es").inAnyCase,
  (suffix "s" "s").inAnyCase,
  suffix "" "s"]

/-- The words that are their own singular and plural. -/
def uncountable : List String := ["equipment", "information", "rice", "money", "species", "series",
  "fish", "sheep", "data", "item_constraint_criteria"]

/-- A word without a plural, in any case. No letter beyond ASCII has a small form in these words. -/
def isUncountable (word : List Char) : Bool :=
  String.ofList (word.map fun c => if 'A' ≤ c ∧ c ≤ 'Z' then Char.ofNat (c.toNat + 32) else c)
    ∈ uncountable

/-- The word as the first fitting rule writes it. -/
def inflect (rules : List Rule) (word : List Char) : List Char :=
  if isUncountable word then word else (rules.findSome? (·.form? word)).getD word

end SdkModel.Inflection

namespace SdkModel

/-- The singular of a word. -/
def singular (word : String) : String :=
  String.ofList (Inflection.inflect Inflection.singularRules word.toList)

/-- The plural of a word. -/
def plural (word : String) : String :=
  String.ofList (Inflection.inflect Inflection.pluralRules word.toList)

end SdkModel
