import DesignTokens.Build
import DesignTokens.Console.Table

/-! # Summaries

What the console shows of a build: a table with a row for each artifact and the output directory
below it. The texts are markup, also where they come from paths and errors. -/
namespace DesignTokens

namespace Console

/-- Lines that each end with a line feed. -/
def ended (lines : List (List Letter)) : Text := ⟨lines.flatMap fun line => line ++ [.char '\n']⟩

/-- A text, unless the encoding of the output refuses it. -/
def encoded (terminal : Terminal) (text : Text) : Except Problem Text :=
  match terminal.encodingFault? text with
  | none => .ok text
  | some message => .error (.encoding message)

/-- What markup shows. -/
def rendered (terminal : Terminal) (markup : Text) : Except Problem (List Letter) :=
  (render terminal markup.toList).mapError .markup

/-- Markup as it is shown, wrapped to the page. -/
def printed (terminal : Terminal) (markup : Text) : Except Problem Text := do
  encoded terminal (ended (wrap terminal.width (← rendered terminal markup)))

end Console

/-- The markup of the line below the table, which names an output directory. -/
def Path.caption (output : Path) : String :=
  "\n[dim]Output directory: " ++ output.text ++ "[/dim]"

namespace Report

/-- The markup of an artifact's row: its name, whether it succeeded, and where it was stored or why
it failed. -/
def row (r : Report) (a : Artifact) : List Text :=
  match a.failure with
  | none => [a.name, "[green]ok[/green]", ((r.path? a.name).map Path.text).getD a.filename]
  | some f => [a.name, "[red]failed[/red]", f.className ++ ": " ++ f.text]

def title : Text := "PRSMTECH Theme Compiler"

def columns : List Text := ["Artifact", "Status", "Detail"]

def rows (r : Report) : List (List Text) := r.artifacts.map r.row

/-- The table of a summary with these texts in its rows. -/
def sheet (rows : List (List (List Letter))) : Console.Table :=
  ⟨title.toList, columns.map Text.toList, rows⟩

/-- The table as it is printed. -/
def tableText (terminal : Console.Terminal) (r : Report) : Except Problem Text := do
  let rows ← r.rows.mapM fun cells => cells.mapM (Console.rendered terminal)
  Console.encoded terminal (Console.ended ((sheet rows).lines terminal.box terminal.width))

/-- The text of a summary. -/
def summary (terminal : Console.Terminal) (r : Report) : Except Problem Text := do
  return (← r.tableText terminal) ++ (← Console.printed terminal r.output.caption)

end Report

end DesignTokens
