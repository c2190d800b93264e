import SdkModel.Text.Split

/-!
# Paths of operations

The path of an operation is `/` and a segment, then possibly `/` and an identifier in braces, then
possibly one or two more segments. The first segment names the resource and the last ones the
operation (`/customers/{id}/update`); a path of another form has neither name.
-/

namespace SdkModel

/-- The two names in a path. -/
structure UrlParts where
  first : String
  last : String
deriving DecidableEq, Repr

namespace UrlParts

/-- One or two segments behind a slash each, or nothing. -/
def trailing? : List Char → Option (List Char)
  | [] => some []
  | '/' :: cs =>
    match Text.split '/' cs with
    | [a] => if a.isEmpty then none else some cs
    | [a, b] => if a.isEmpty || b.isEmpty then none else some cs
    | _ => none
  | _ => none

/-- What follows an identifier in braces at the start. -/
def behindIdentifier? : List Char → Option (List Char)
  | '/' :: '\x7b' :: cs =>
    match cs.takeWhile (· ≠ '\x7d'), cs.dropWhile (· ≠ '\x7d') with
    | _ :: _, _ :: rest => some rest
    | _, _ => none
  | _ => none

/-- The names in a path. An identifier is taken for one wherever the rest allows it. -/
def ofChars (url : List Char) : Option (List Char × List Char) :=
  match url with
  | '/' :: cs =>
    match cs.takeWhile (· ≠ '/') with
    | [] => none
    | first =>
      let rest := cs.dropWhile (· ≠ '/')
      (((behindIdentifier? rest).bind trailing?).or (trailing? rest)).map fun last => (first, last)
  | _ => none

def ofUrl (url : String) : UrlParts :=
  match ofChars url.toList with
  | some (first, last) => ⟨String.ofList first, String.ofList last⟩
  | none => ⟨"", ""⟩

end UrlParts

end SdkModel
