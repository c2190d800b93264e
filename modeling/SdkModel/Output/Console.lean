import SdkModel.Text.Blank
import SdkModel.Text.Case

/-!
# Consoles

Styled text goes through a console, which reads markup: a tag `[name]` opens a style, `[/name]`
closes the last open style of the name and `[/]` the last of all. A closing tag with nothing to
close is an error, and then nothing is shown.

How a console shows styles, pictures and long lines is its own matter, so that a console is any
function that answers what it shows of a text. `Console.byTags` reads the tags and leaves all else.
-/

namespace SdkModel

/-- What shows text with markup. -/
structure Console where
  /-- What is shown of a text; nothing when its tags do not match. -/
  render? : String → Option String

namespace Markup

/-- The letters of the tag behind an opening bracket. A tag begins with a small letter or one of
three signs, and ends before another bracket opens. -/
def tag? : List Char → Option (List Char)
  | [] => none
  | c :: cs =>
    if c.isLower || c ∈ ['#', '/', '@'] then
      let inner := cs.takeWhile fun d => d ≠ '[' && d ≠ ']'
      if (cs.drop inner.length).head? = some ']' then some (c :: inner) else none
    else none

/-- The style that a tag names. -/
def styleName (cs : List Char) : String := Text.trim (String.ofList (Text.lowerAll cs))

/-- The open styles behind a tag, the last one first; none for a tag that closes nothing. -/
def behindTag (styles : List String) (tag : List Char) : Option (List String) :=
  match tag.takeWhile (· ≠ '=') with
  | '/' :: name =>
    let style := styleName name
    if style = "" then if styles.isEmpty then none else some styles.tail
    else if style ∈ styles then some (styles.erase style)
    else none
  | name => some (styleName name :: styles)

/-- The text without its tags. `slashes` backslashes stand before the letters that are left, and
the first `passed` of these belong to a tag that was read. -/
def plain (styles : List String) (slashes passed : Nat) : List Char → Option (List Char)
  | [] => some (List.replicate slashes '\\')
  | c :: cs =>
    match passed with
    | n + 1 => plain styles slashes n cs
    | 0 =>
      if c = '\\' then plain styles (slashes + 1) 0 cs
      else if c ≠ '[' then (plain styles 0 0 cs).map (List.replicate slashes '\\' ++ c :: ·)
      else match tag? cs with
        | none => (plain styles 0 0 cs).map (List.replicate (slashes - 1) '\\' ++ '[' :: ·)
        | some tag =>
          -- An odd backslash takes the meaning from the tag; each two others stand for one.
          if slashes % 2 = 1 then
            (plain styles 0 (tag.length + 1) cs).map
              (List.replicate (slashes / 2) '\\' ++ ('[' :: tag) ++ ']' :: ·)
          else match behindTag styles tag with
            | none => none
            | some styles =>
              (plain styles 0 (tag.length + 1) cs).map (List.replicate (slashes / 2) '\\' ++ ·)

end Markup

/-- The console that shows a text on a line of its own, without its tags. -/
def Console.byTags : Console where
  render? text := (Markup.plain [] 0 0 text.toList).map fun cs => String.ofList cs ++ "\n"

end SdkModel
