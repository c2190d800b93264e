import SdkModel.Config.Basic
import SdkModel.Host.Environment
import SdkModel.Json.Printer
import SdkModel.Output.Console
import SdkModel.Value.Display

/-!
# Output

Data and tables go to standard output, in one of the renderings; diagnostics go to standard error.
The plain rendering has one line per record with tabs between the cells, the JSON rendering is
indented. Both are functions to the texts that are written one after another, so that what a run
writes is known without writing it.

A diagnostic is led by its label. Without colour it is written as it is; with colour the label has
tags around it, and the whole goes through a console, the message as well.
-/

namespace SdkModel

/-- A table of text cells. -/
structure Table where
  headers : List String
  rows : List (List String)
deriving DecidableEq, Repr

/-- The rendering of data. -/
inductive Rendering where
  | json
  | plain
  | styled
deriving DecidableEq, Repr

def Rendering.word : Rendering → String
  | .json => "json"
  | .plain => "plain"
  | .styled => "rich"

/-- The rendering that a format stands for; `styling` tells whether the output can be styled. -/
def OutputFormat.rendering (styling : Bool) : OutputFormat → Rendering
  | .json => .json
  | .plain => .plain
  | .rich => .styled
  | .auto => if styling then .styled else .plain

/-- The host asks for output without colour. -/
def Host.refusesColour (h : Host) : Bool :=
  (h.env? "NO_COLOR").isSome || h.env? "TERM" = some "dumb"

/-- How a run writes its output. -/
structure Output where
  rendering : Rendering
  verbose : Bool
  /-- Diagnostics have styled labels. -/
  colour : Bool := false
deriving DecidableEq, Repr

namespace Output

/-- Texts as lines. -/
def lines (texts : List String) : String := String.join (texts.map (· ++ "\n"))

def tabbed (cells : List String) : String := "\t".intercalate cells

/-! ## Data -/

/-- The cell of an entry of a plain object: containers on one line as JSON. -/
def plainCell : Value → String
  | .list xs => Json.line (.list xs)
  | .object es => Json.line (.object es)
  | v => v.display

/-- The line of an item of a plain list: the values of an object as cells. -/
def plainItem : Value → String
  | .object es => tabbed (es.map fun e => e.2.display)
  | v => v.display

/-- The plain lines of a value. -/
def plainLines : Value → List String
  | .object es => es.map fun e => e.1.display ++ "\t" ++ plainCell e.2
  | .list xs => xs.map plainItem
  | v => [v.display]

/-- The JSON texts that a value is written with can be had. -/
def hasTexts (o : Output) (v : Value) : Bool :=
  match o.rendering, v with
  | .plain, .object es => es.all fun e => Json.isWritable e.2
  | .plain, _ => true
  | _, v => Json.isWritable v

/-- The texts that a value is written as. -/
def dataTexts (o : Output) (v : Value) : Checked (List String) :=
  if !o.hasTexts v then .error (.malformed .unwritableKey)
  else match o.rendering with
    | .plain => .ok (plainLines v)
    | .json | .styled => .ok [Json.pretty v]

/-! ## Tables -/

/-- The records of a table, keyed by its headers. A row that is too short lacks the last ones. -/
def records (t : Table) : Value :=
  .list (t.rows.map fun row =>
    .object (Entries.ofList ((t.headers.zip row).map fun c => (.text c.1, .text c.2))))

/-- The texts that a table is written as. -/
def tableTexts (o : Output) (t : Table) : List String :=
  match o.rendering with
  | .json => [Json.pretty (records t)]
  | .plain | .styled => tabbed t.headers :: t.rows.map tabbed

end Output

/-! ## Diagnostics -/

/-- A line for standard error. -/
inductive Diagnostic where
  | info (message : String)
  | warning (message : String)
  | error (message : String)
  | debug (message : String)
deriving DecidableEq, Repr

namespace Diagnostic

/-- The line as it is written without colour. -/
def line : Diagnostic → String
  | info message => message
  | warning message => "Warning: " ++ message
  | error message => "Error: " ++ message
  | debug message => "[debug] " ++ message

/-- The line with tags, where it has a style. The message is put between them as it is. -/
def markup? : Diagnostic → Option String
  | info _ => none
  | warning message => some ("[yellow]Warning:[/yellow] " ++ message)
  | error message => some ("[bold red]Error:[/bold red] " ++ message)
  | debug message => some ("[dim]\\[debug] " ++ message ++ "[/dim]")

/-- What is written; none when the console refuses the line. -/
def text? (console : Console) (colour : Bool) (d : Diagnostic) : Option String :=
  match colour, d.markup? with
  | true, some markup => console.render? markup
  | _, _ => some (Output.lines [d.line])

end Diagnostic

/-- A debug line, which only verbose output has. -/
def Output.debug? (o : Output) (message : String) : Option Diagnostic :=
  if o.verbose then some (.debug message) else none

end SdkModel
