import SdkModel.Proofs.CommandLine.Stages
import SdkModel.Proofs.Text.Split
import SdkModel.Proofs.Typed.GlobalEnums

/-!
# Plain listings

A plain table is a line per row, with tabs between the cells. The cells are written as they are, so
a tab in one of them parts it and a line feed ends its line early. A listing therefore reads back as
the table that it shows just when the texts that it takes from the document are free of both
(`readCells_stdout_iff`).
-/

namespace SdkModel

/-! ## Reading plain tables -/

namespace Output

variable {o : Output} {t : Table} {texts cells : List String} {table : List (List String)}

/-- The lines of a text, each ended by a line feed. -/
def readLines (text : String) : List String := (Text.pieces '\n' text).dropLast

/-- The cells of the lines of a text. -/
def readCells (text : String) : List (List String) := (readLines text).map (Text.pieces '\t')

/-- The text can be a cell of a plain table. -/
def IsCell (text : String) : Prop := '\t' ∉ text.toList ∧ '\n' ∉ text.toList

instance (text : String) : Decidable (IsCell text) := inferInstanceAs (Decidable (_ ∧ _))

theorem mem_pieces_iff {sep : Char} {s text : String} :
    s ∈ Text.pieces sep text ↔ s.toList ∈ Text.split sep text.toList := by
  rw [Text.pieces, List.mem_map]
  constructor
  · rintro ⟨p, hp, rfl⟩
    rwa [String.toList_ofList]
  · intro h
    exact ⟨s.toList, h, String.ofList_toList⟩

/-- Whatever is read is a cell. -/
theorem isCell_of_mem_readCells {text cell : String} {row : List String}
    (hrow : row ∈ readCells text) (hcell : cell ∈ row) : IsCell cell := by
  obtain ⟨line, hline, rfl⟩ := List.mem_map.1 hrow
  have hline := mem_pieces_iff.1 (List.dropLast_subset _ hline)
  have hcell := mem_pieces_iff.1 hcell
  refine ⟨Text.not_mem_of_mem_split hcell, fun h => ?_⟩
  exact Text.not_mem_of_mem_split hline (Text.mem_of_mem_split hcell h)

theorem readLines_lines (h : ∀ s ∈ texts, '\n' ∉ s.toList) : readLines (lines texts) = texts := by
  have hlist : (lines texts).toList = (texts.map String.toList).flatMap (· ++ ['\n']) := by
    rw [lines, String.toList_join, List.flatMap_map, List.flatMap_map]
    simp only [String.toList_append]
    rfl
  rw [readLines, Text.pieces, hlist, Text.split_flatMap (List.forall_mem_map.2 h), List.map_append,
    List.map_map]
  simp

theorem pieces_tabbed (h : ∀ s ∈ cells, '\t' ∉ s.toList) (hne : cells ≠ []) :
    Text.pieces '\t' (tabbed cells) = cells := by
  have hlist : (tabbed cells).toList = List.intercalate ['\t'] (cells.map String.toList) :=
    String.toList_intercalate
  rw [Text.pieces, hlist, Text.split_intercalate (List.forall_mem_map.2 h) (by simpa using hne),
    List.map_map]
  simp

/-- Rows that are written as plain lines read back just when every cell can be one. -/
theorem readCells_lines_iff (hne : ∀ row ∈ table, row ≠ []) :
    readCells (lines (table.map tabbed)) = table ↔ ∀ row ∈ table, ∀ cell ∈ row, IsCell cell := by
  constructor
  · intro h row hrow cell hcell
    rw [← h] at hrow
    exact isCell_of_mem_readCells hrow hcell
  · intro h
    have hlines : ∀ line ∈ table.map tabbed, '\n' ∉ line.toList := by
      refine List.forall_mem_map.2 fun row hrow => ?_
      rw [tabbed, String.toList_intercalate, Text.mem_intercalate_iff (by decide)]
      rintro ⟨cell, hcell, hbreak⟩
      obtain ⟨s, hs, rfl⟩ := List.mem_map.1 hcell
      exact (h row hrow s hs).2 hbreak
    rw [readCells, readLines_lines hlines, List.map_map]
    refine (List.map_congr_left fun row hrow => ?_).trans (List.map_id table)
    exact pieces_tabbed (fun s hs => (h row hrow s hs).1) (hne row hrow)

theorem readCells_tableTexts_iff (hplain : o.rendering = .plain) (hheaders : t.headers ≠ [])
    (hrows : ∀ row ∈ t.rows, row ≠ []) : readCells (lines (o.tableTexts t)) = t.headers :: t.rows ↔
      ∀ row ∈ t.headers :: t.rows, ∀ cell ∈ row, IsCell cell := by
  have htexts : o.tableTexts t = (t.headers :: t.rows).map tabbed := by
    rw [tableTexts, hplain]
    rfl
  rw [htexts]
  exact readCells_lines_iff (List.forall_mem_cons.2 ⟨hheaders, hrows⟩)

/-! ## Cells -/

theorem isCell_commaList_iff :
    IsCell (CommandLine.commaList texts) ↔ ∀ s ∈ texts, IsCell s := by
  have hmem {x : Char} (hx : x ∉ ", ".toList) :
      x ∉ (CommandLine.commaList texts).toList ↔ ∀ s ∈ texts, x ∉ s.toList := by
    rw [CommandLine.commaList, String.toList_intercalate, Text.mem_intercalate_iff hx]
    simp
  rw [IsCell, hmem (by decide), hmem (by decide), ← forall₂_and]
  rfl

theorem isCell_orDash_iff {s : String} : IsCell (CommandLine.orDash s) ↔ IsCell s := by
  unfold CommandLine.orDash
  split
  · rename_i h
    rw [h]
    decide
  · rfl

/-- Digits part no line and no cell. -/
theorem isCell_nat (n : Nat) : IsCell (toString n) := by
  have hdigit {c : Char} (h : c ∈ (toString n).toList) : c.isDigit = true := by
    refine Nat.isDigit_of_mem_toDigits (b := 10) (n := n) (by decide) (by decide) ?_
    rwa [← String.toList_ofList (l := Nat.toDigits 10 n)]
  exact ⟨fun h => absurd (hdigit h) (by decide), fun h => absurd (hdigit h) (by decide)⟩

theorem isCell_int (i : Int) : IsCell (toString i) := by
  cases i with
  | ofNat n => exact isCell_nat n
  | negSucc n =>
    have htext : (toString (Int.negSucc n)).toList = '-' :: (toString (n + 1)).toList :=
      String.toList_append
    obtain ⟨htab, hbreak⟩ := isCell_nat (n + 1)
    rw [IsCell, htext, List.mem_cons, List.mem_cons, not_or, not_or]
    exact ⟨⟨by decide, htab⟩, by decide, hbreak⟩

end Output

/-! ## Listings -/

namespace CommandLine

open Logged (bind_ok_iff)
open Output (IsCell isCell_orDash_iff isCell_commaList_iff isCell_nat isCell_int readCells)

variable {s : Surroundings} {o : Output} {c : Command} {spec : Spec} {t : Table} {name : String}
variable {texts : List String} {r : Resource} {a : Action} {e : Enum}

/-- What the row of a resource takes from the document. -/
def resourceTexts (r : Resource) : List String :=
  r.name :: (r.id.toList ++ r.subResources.map (·.name))

def actionTexts (r : Resource) : List String :=
  r.sortedActions.flatMap fun a => [r.name, a.name, a.url]

def enumTexts (e : Enum) : List String := e.name :: e.values

/-- The table that a command lists, and the texts of the document that it is made of. -/
inductive Listing (spec : Spec) : Command → Table → List String → Prop
  | resources {source : Source} : Listing spec (.resources source) (resourceTable spec)
      (spec.resources.flatMap resourceTexts)
  | actions {source : Source} : Listing spec (.actions source none) (actionTable spec.resources)
      (spec.resources.flatMap actionTexts)
  | actionsOf {source : Source} {name : String} {r : Resource} (h : spec.resource? name = some r) :
      Listing spec (.actions source (some name)) (actionTable [r]) (actionTexts r)
  | enums {source : Source} : Listing spec (.enums source none)
      (enumTable (Enum.dedupe spec.globalEnums)) ((Enum.dedupe spec.globalEnums).flatMap enumTexts)
  | enumsOf {source : Source} {name : String} {r : Resource} (h : spec.resource? name = some r) :
      Listing spec (.enums source (some name)) (enumTable (r.generatedEnums spec.resources))
        ((r.generatedEnums spec.resources).flatMap enumTexts)

/-- A command that has a listing prints the table of it. -/
theorem Listing.view (h : Listing spec c t texts) :
    (c.view s o spec).outcome = .ok (o.tableTexts t) := by
  cases h with
  | resources => rfl
  | actions => rfl
  | @actionsOf source name r hname =>
    have hfound : (findResource spec name).outcome = .ok r := findResource_ok_iff.2 hname
    change (inspectActions o spec (some name)).outcome = _
    simp [inspectActions, bind_ok_iff, hfound]
  | enums => rfl
  | @enumsOf source name r hname =>
    have hfound : (findResource spec name).outcome = .ok r := findResource_ok_iff.2 hname
    change (inspectEnums o spec (some name)).outcome = _
    simp [inspectEnums, bind_ok_iff, hfound, outcome_note]

/-- The tables of listings have no empty rows. -/
theorem Listing.ne_nil (h : Listing spec c t texts) : ∀ row ∈ t.headers :: t.rows, row ≠ [] := by
  have hactions (resources : List Resource) : ∀ row ∈ (actionTable resources).rows, row ≠ [] := by
    intro row hrow
    obtain ⟨r, -, hrow⟩ := List.mem_flatMap.1 hrow
    obtain ⟨a, -, rfl⟩ := List.mem_map.1 hrow
    exact List.cons_ne_nil _ _
  have henums (enums : List Enum) : ∀ row ∈ (enumTable enums).rows, row ≠ [] :=
    List.forall_mem_map.2 fun e _ => List.cons_ne_nil _ _
  cases h with
  | resources =>
    exact List.forall_mem_cons.2 ⟨nofun, List.forall_mem_map.2 fun r _ => List.cons_ne_nil _ _⟩
  | actions | actionsOf => exact List.forall_mem_cons.2 ⟨nofun, hactions _⟩
  | enums | enumsOf => exact List.forall_mem_cons.2 ⟨nofun, henums _⟩

/-! ## Rows -/

theorem isCell_resourceRow_iff :
    (∀ cell ∈ resourceRow r, IsCell cell) ↔ ∀ text ∈ resourceTexts r, IsCell text := by
  have hid : IsCell (r.id.getD "") ↔ ∀ text ∈ r.id.toList, IsCell text := by
    cases r.id with
    | none => exact iff_of_true (by decide) nofun
    | some id => simp
  have hsubs : (∀ s ∈ r.sortedSubResources.map (·.name), IsCell s) ↔
      ∀ s ∈ r.subResources.map (·.name), IsCell s := by
    rw [List.forall_mem_map, List.forall_mem_map]
    exact forall_congr' fun s => imp_congr_left mem_sortByOrder
  simp only [resourceRow, resourceTexts, List.forall_mem_cons, List.forall_mem_append,
    isCell_orDash_iff, isCell_commaList_iff, isCell_nat, isCell_int, hid, hsubs, true_and]
  simp

theorem isCell_actionRow_iff :
    (∀ cell ∈ actionRow r a, IsCell cell) ↔ ∀ text ∈ [r.name, a.name, a.url], IsCell text := by
  have hmethod : IsCell a.method.word := by
    cases a.method <;> decide
  have hflag (b : Bool) : IsCell (yesOrEmpty b) := by
    cases b <;> decide
  simp [actionRow, hmethod, hflag]

theorem isCell_enumRow_iff :
    (∀ cell ∈ enumRow e, IsCell cell) ↔ ∀ text ∈ enumTexts e, IsCell text := by
  have hvalues : ((∀ v ∈ e.validValues, IsCell v) ∧ ∀ v ∈ e.deprecatedValues, IsCell v) ↔
      ∀ v ∈ e.values, IsCell v := by
    simp only [Enum.validValues, Enum.deprecatedValues, List.mem_filter, decide_eq_true_eq]
    constructor
    · rintro ⟨hvalid, hdeprecated⟩ v hv
      by_cases hmark : v ∈ e.marked
      · exact hdeprecated v ⟨hv, hmark⟩
      · exact hvalid v ⟨hv, hmark⟩
    · exact fun h => ⟨fun v hv => h v hv.1, fun v hv => h v hv.1⟩
  simp only [enumRow, enumTexts, List.forall_mem_cons, isCell_orDash_iff, isCell_commaList_iff,
    ← hvalues]
  simp

theorem Listing.isCell_header (h : Listing spec c t texts) : ∀ cell ∈ t.headers, IsCell cell := by
  cases h <;> dsimp only [resourceTable, actionTable, enumTable] <;> decide

/-- The cells of a listing can be written just when the texts of the document can. -/
theorem Listing.isCell_iff (h : Listing spec c t texts) :
    (∀ row ∈ t.headers :: t.rows, ∀ cell ∈ row, IsCell cell) ↔ ∀ text ∈ texts, IsCell text := by
  have hactions (resources : List Resource) :
      (∀ row ∈ (actionTable resources).rows, ∀ cell ∈ row, IsCell cell) ↔
        ∀ text ∈ resources.flatMap actionTexts, IsCell text := by
    simp only [actionTable, actionTexts, List.forall_mem_flatMap, List.forall_mem_map,
      isCell_actionRow_iff]
  have henums (enums : List Enum) :
      (∀ row ∈ (enumTable enums).rows, ∀ cell ∈ row, IsCell cell) ↔
        ∀ text ∈ enums.flatMap enumTexts, IsCell text := by
    simp only [enumTable, List.forall_mem_flatMap, List.forall_mem_map, isCell_enumRow_iff]
  rw [List.forall_mem_cons, and_iff_right h.isCell_header]
  cases h with
  | resources =>
    simp only [resourceTable, listedResources, List.forall_mem_flatMap, List.forall_mem_map,
      isCell_resourceRow_iff, mem_sortByOrder]
  | actions => exact hactions _
  | @actionsOf _ _ r =>
    rw [hactions, List.flatMap_singleton]
  | enums | enumsOf => exact henums _

/-! ## Output of a run -/

/-- **Plain listings read back as their tables when the texts of the document have no tabs and no
line feeds**, and never otherwise. -/
theorem readCells_stdout_iff (hplain : o.rendering = .plain) (hbuilds : Builds s c spec)
    (hlisting : Listing spec c t texts) : (c.run s o).status = 0 ∧
      (readCells (c.run s o).stdout = t.headers :: t.rows ↔ ∀ text ∈ texts, IsCell text) := by
  have hanswers := Command.answers_of_prints (.view hbuilds (hlisting.view (s := s) (o := o)))
  obtain ⟨hheaders, hrows⟩ := List.forall_mem_cons.1 hlisting.ne_nil
  refine ⟨hanswers.status, ?_⟩
  rw [Outcome.stdout, hanswers.printed, Output.readCells_tableTexts_iff hplain hheaders hrows]
  exact hlisting.isCell_iff

/-! ## Plans -/

/-- A document whose enum has one value, written between quotes as it stands in the document. -/
def planText (value : String) : String :=
  "\x7b" ++ ("\"openapi\": \"3.0.0\", \"paths\": \x7b\x7d, \"components\": \x7b\"schemas\": " ++
    "\x7b\"Plan\": \x7b\"type\": \"string\", \"enum\": [\"" ++ value ++ "\"]\x7d\x7d\x7d\x7d")

def planRun (value : String) : Surroundings := { host := {}, stdin := planText value }

def planCommand : Command := .enums ⟨"-", none⟩ none

def plainOutput : Output := { rendering := .plain, verbose := false }

def planComponents (value : String) : Entries :=
  [(.text "Plan", .object (Typed.letterEntries value))]

def plansOf (value : String) : Spec where
  document := documentOf [] (planComponents value)
  config := {}
  version := {}
  schemas := [("Plan", Typed.letterSchema value)]
  actions := []

theorem isBlankText_planText (value : String) : Text.isBlankText (planText value) = false := by
  unfold Text.isBlankText planText
  rw [String.toList_append, List.all_append]
  rfl

theorem builds_plans {escaped value : String}
    (hread : Json.read (planText escaped) = .ok (.object (documentOf [] (planComponents value)))) :
    Builds (planRun escaped) planCommand (plansOf value) := by
  have hnodes : Logged.Quiet (Spec.schemasOf {} (planComponents value))
      [("Plan", Typed.letterSchema value)] :=
    Logged.quiet_bind_iff.2 ⟨_, Schema.quiet_leaf (by decide) rfl rfl,
      Logged.quiet_bind_iff.2 ⟨[], rfl, rfl⟩⟩
  have hload : Document.load (planRun escaped).host.files (planRun escaped).stdin "-" =
      .ok (documentOf [] (planComponents value)) := by
    have hremote : Document.isRemote "-" = false := by cbv
    simp [Document.load, Document.parse, Document.requireObject, planRun, isBlankText_planText,
      hread, hremote]
  have hsource : planCommand.source? = some ⟨"-", none⟩ := rfl
  exact .intro hsource rfl hload (build_documentOf rfl hnodes rfl)

theorem builds_blank : Builds (planRun "no card") planCommand (plansOf "no card") := by
  refine builds_plans ?_
  simp only [planText, String.reduceAppend]
  cbv

theorem builds_tab : Builds (planRun "a\\tb") planCommand (plansOf "a\tb") := by
  refine builds_plans ?_
  simp only [planText, String.reduceAppend]
  cbv

theorem dedupe_plansOf (value : String) :
    Enum.dedupe (plansOf value).globalEnums = [⟨"Plan", Typed.letterSchema value⟩] := by
  cbv

/-- A value with a blank is one cell. -/
theorem readCells_stdout_blank :
    Builds (planRun "no card") planCommand (plansOf "no card") ∧
      readCells (planCommand.run (planRun "no card") plainOutput).stdout =
        [["Enum", "Values", "Deprecated"], ["Plan", "no card", "-"]] := by
  have htable : enumTable (Enum.dedupe (plansOf "no card").globalEnums) =
      { headers := ["Enum", "Values", "Deprecated"], rows := [["Plan", "no card", "-"]] } := by
    rw [dedupe_plansOf]
    rfl
  obtain ⟨-, hread⟩ := readCells_stdout_iff (o := plainOutput) rfl builds_blank .enums
  rw [htable, dedupe_plansOf] at hread
  exact ⟨builds_blank, hread.2 (by decide)⟩

/-- A value with a tab is parted into two cells. -/
theorem not_forall_readCells :
    ¬ ∀ (s : Surroundings) (o : Output) (c : Command) (spec : Spec) (t : Table)
      (texts : List String), o.rendering = .plain → Builds s c spec → Listing spec c t texts →
        readCells (c.run s o).stdout = t.headers :: t.rows := by
  intro h
  have hcells := h _ plainOutput _ _ _ _ rfl builds_tab .enums
  have hrow : ["Plan", "a\tb", "-"] ∈
      readCells (planCommand.run (planRun "a\\tb") plainOutput).stdout := by
    rw [hcells, dedupe_plansOf]
    exact List.mem_cons_of_mem _ List.mem_cons_self
  have hcell : IsCell "a\tb" := Output.isCell_of_mem_readCells hrow (by decide)
  exact absurd hcell (by decide)

end CommandLine

end SdkModel
