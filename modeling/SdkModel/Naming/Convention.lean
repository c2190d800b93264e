import SdkModel.Naming.Inflection
import SdkModel.Text.Case
import SdkModel.Text.Split

/-!
# Naming conventions

Names of a document are written with underscores or hyphens, names of generated types in camel
case. Underscores are the only word boundary that camel case reads; the way back takes every
capital letter for one.
-/

namespace SdkModel.Naming

/-- The word with its first letter made a capital. -/
def capitalizeChars : List Char → List Char
  | [] => []
  | c :: cs => Text.upper c ++ cs

/-- The words between underscores, empty ones left out. -/
def words (cs : List Char) : List (List Char) := (Text.split '_' cs).filter (· ≠ [])

/-- The words of several parts, joined with a capital at the start of each. -/
def camelChars (parts : List (List Char)) : List Char :=
  (parts.flatMap words).flatMap capitalizeChars

def uncapitalizeChars : List Char → List Char
  | [] => []
  | c :: cs => Text.lower c ++ cs

/-- The pieces of a name in which an underscore turns the next letter into a capital. -/
def humps (afterUnderscore : Bool) : List Char → List (List Char)
  | [] => []
  | c :: cs =>
    if c = '_' then humps true cs
    else if afterUnderscore then Text.upper c :: humps false cs
    else [c] :: humps false cs

def normalizedLowerCamelChars (cs : List Char) : List Char :=
  match humps false cs with
  | [] => []
  | first :: rest => Text.lowerAll first ++ rest.flatten

/-- One letter of a snake case name inside a word: a capital starts a new word. -/
def snakeChar (c : Char) : List Char :=
  if Text.isCapital c then '_' :: Text.lower c else [c]

def snakeChars (cs : List Char) : List Char :=
  match cs.map fun c => if c = '-' then '_' else c with
  | [] => []
  | c :: rest => Text.lower c ++ rest.flatMap snakeChar

/-- The word with a capital first letter and small other ones. -/
def titleChars : List Char → List Char
  | [] => []
  | c :: cs => Text.upper c ++ Text.lowerAll cs

def isIdentifierChar (c : Char) : Bool :=
  ('0' ≤ c && c ≤ '9') || ('A' ≤ c && c ≤ 'Z') || ('a' ≤ c && c ≤ 'z') || c = '_'

/-- Capitals and no small letters among the letters of ASCII. -/
def isShouting (cs : List Char) : Bool :=
  cs.any (fun c => 'A' ≤ c && c ≤ 'Z') && !cs.any (fun c => 'a' ≤ c && c ≤ 'z')

def enumMemberChars (cs : List Char) : List Char :=
  let cleaned := cs.map fun c => if isIdentifierChar c then c else '_'
  match camelChars [if isShouting cleaned then Text.lowerAll cleaned else cleaned] with
  | [] => "Empty".toList
  | c :: rest => if '0' ≤ c ∧ c ≤ '9' then 'N' :: c :: rest else c :: rest

/-- `lineItem` becomes `LineItem`. -/
def capitalize (s : String) : String := String.ofList (capitalizeChars s.toList)

/-- Several names in camel case as one. -/
def camelOf (parts : List String) : String := String.ofList (camelChars (parts.map (·.toList)))

/-- `line_items` becomes `LineItems`. -/
def camel (s : String) : String := camelOf [s]

/-- Several names in camel case as one, the first letter small. -/
def lowerCamelOf (parts : List String) : String :=
  String.ofList (uncapitalizeChars (camelChars (parts.map (·.toList))))

/-- `line_items` becomes `lineItems`. -/
def lowerCamel (s : String) : String := lowerCamelOf [s]

/-- `payment_vouchersForCustomer` becomes `paymentVouchersForCustomer`. -/
def normalizedLowerCamel (s : String) : String :=
  String.ofList (normalizedLowerCamelChars s.toList)

/-- `CreditNote` becomes `credit_note` and `line-items` becomes `line_items`. -/
def snake (s : String) : String := String.ofList (snakeChars s.toList)

/-- `line_ITEMS` becomes `LineItems`. -/
def title (s : String) : String := String.ofList ((words s.toList).flatMap titleChars)

/-- The class of one item of a list: `line_items` becomes `LineItem`. -/
def singularClass (s : String) : String := camel (singular s)

/-- The member of an enum for a value: `no_card` becomes `NoCard`. Characters that cannot stand in
an identifier part words, and a digit at the start is led by `N`. -/
def enumMember (s : String) : String := String.ofList (enumMemberChars s.toList)

/-- The name of an attribute: hyphens become underscores. -/
def attributeName (s : String) : String := Text.swapChar '-' '_' s

end SdkModel.Naming
