import DesignTokens.Proofs.ExitCodes
import DesignTokens.Proofs.FittingTables
import DesignTokens.Proofs.PlainMarkup

/-!
# Summaries as they are read

A summary has one line for each artifact in order and names the output directory below the table. If
it fits the page, it shows what the markup of its texts shows. That is the texts themselves as long
as none of them has a tag, a backslash in front of a bracket or the code of an emoji in it; a
directory with a tag in its name is shown under another name.
-/

namespace DesignTokens

theorem mapM_eq_ok_iff {ε α β : Type} {f : α → Except ε β} {as : List α} {bs : List β} :
    as.mapM f = .ok bs ↔ List.Forall₂ (fun a b => f a = .ok b) as bs := by
  induction as generalizing bs with
  | nil => simp [pure, Except.pure, eq_comm]
  | cons a as ih =>
    rw [List.mapM_cons, List.forall₂_cons_left_iff]
    simp only [← ih]
    cases f a with
    | error e => simp [bind, Except.bind]
    | ok b =>
      cases as.mapM f with
      | error e => simp [bind, Except.bind]
      | ok rest => simp [bind, Except.bind, pure, Except.pure, eq_comm]

namespace Report

open Console (Literal Printable SeenAs Table Terminal)

/-- Where an artifact was stored or why it failed. -/
def detail (r : Report) (a : Artifact) : Text :=
  match a.failure with
  | none => ((r.path? a.name).map Path.text).getD a.filename
  | some f => f.className ++ ": " ++ f.text

/-- The texts of an artifact's row. -/
def texts (r : Report) (a : Artifact) : List (List Letter) :=
  [(a.name : Text).toList, (if a.success then "ok" else "failed" : Text).toList,
    (r.detail a).toList]

def lastLine (r : Report) : List Letter :=
  ("Output directory: " : Text).toList ++ (r.output.text : Text).toList

/-- No text of the summary is anything else than text in markup. -/
structure Plain (r : Report) : Prop where
  names : ∀ a ∈ r.artifacts, Literal (a.name : Text).toList
  details : ∀ a ∈ r.artifacts, Literal (r.detail a).toList
  output : Literal (r.output.text : Text).toList
  last : (r.output.text : Text).toList.getLast? ≠ some (.char '\\')

/-- The markup of a summary shows these texts in the rows and in the last line. -/
structure Shows (terminal : Terminal) (r : Report) (rows : List (List (List Letter)))
    (last : List Letter) : Prop where
  cells : List.Forall₂ (fun a row =>
    List.Forall₂ (fun cell text => Console.render terminal cell.toList = .ok text) (r.row a) row)
      r.artifacts rows
  caption : Console.render terminal (r.output.caption : Text).toList = .ok (.char '\n' :: last)

/-- Texts without control characters and line ends that fit a page of this width. -/
structure FitsPage (width : Nat) (rows : List (List (List Letter))) (last : List Letter) : Prop where
  cells : ∀ row ∈ rows, ∀ cell ∈ row, Printable cell
  table : Table.frame columns.length + Table.total (sheet rows).naturalWidths ≤ width
  line : Printable last
  columns : Console.width last ≤ width

/-- The summary is a table with one line for each row, an empty line and the last line. -/
def Prints (terminal : Terminal) (r : Report) (rows : List (List (List Letter)))
    (last : List Letter) : Prop :=
  ∃ head body shown,
    r.summary terminal =
      .ok (Console.ended ((sheet rows).framed terminal.box head body ++ [[], shown])) ∧
    Table.Reads terminal.box.header (columns.map Text.toList) head ∧
    List.Forall₂ (Table.Reads terminal.box.body) rows body ∧ SeenAs last shown

variable {terminal : Terminal} {r : Report} {rows : List (List (List Letter))} {last : List Letter}

theorem row_eq (r : Report) (a : Artifact) :
    r.row a =
      [(a.name : Text), if a.success then "[green]ok[/green]" else "[red]failed[/red]",
        r.detail a] := by
  rw [row, detail, Artifact.success]
  cases a.failure <;> rfl

/-- Plain texts are what their markup shows. -/
theorem shows_of_plain (plain : r.Plain) :
    r.Shows terminal (r.artifacts.map r.texts) r.lastLine := by
  constructor
  · rw [List.forall₂_map_right_iff, List.forall₂_same]
    intro a ha
    rw [row_eq]
    exact .cons (Console.render_of_literal (plain.names a ha)) (.cons (Console.render_verdict a.success)
      (.cons (Console.render_of_literal (plain.details a ha)) .nil))
  · have heading : ("Output directory" : Text).toList.all Console.isPlain := by decide
    have literal : Literal r.lastLine := Literal.headed heading plain.output
    rw [Path.caption_toList]
    refine Console.render_of_literal_dim literal fun ends => plain.last ?_
    rw [List.getLast?_append, Option.or_eq_some_iff] at ends
    exact ends.resolve_right fun ⟨_, blank⟩ => absurd blank (by decide)

theorem cells_iff_forall₂ :
    (r.rows.mapM fun cells => cells.mapM (Console.rendered terminal)) = .ok rows ↔
      List.Forall₂ (fun a row => List.Forall₂ (fun cell text =>
        Console.render terminal cell.toList = .ok text) (r.row a) row) r.artifacts rows := by
  simp only [mapM_eq_ok_iff, Console.rendered_eq_ok_iff, Report.rows, List.forall₂_map_left_iff]

theorem summary_of_shows (shows : r.Shows terminal rows last)
    (encodable : Encodable terminal rows (.char '\n' :: last)) :
    r.summary terminal = .ok (Console.ended ((sheet rows).lines terminal.box terminal.width) ++
      Console.ended (Console.wrap terminal.width (.char '\n' :: last))) :=
  summary_of_rendered (cells_iff_forall₂.mpr shows.cells)
    (Console.rendered_eq_ok_iff.mpr shows.caption) encodable

/-- What is shown of markup starts with the line end in front of a style. -/
theorem exists_of_render_dim {cs ds : List Letter}
    (shown : Console.render terminal (.char '\n' :: ("[dim]" : Text).toList ++ cs) = .ok ds) :
    ∃ more, ds = .char '\n' :: more := by
  have long : (.char '\n' :: ("[dim]" : Text).toList ++ cs).length + 1 = cs.length + 5 + 2 := by simp
  rw [Console.render, long, Console.stretches_dim, Console.shown] at shown
  obtain ⟨whole, hwhole, kept⟩ := Json.exists_of_bind_ok shown
  obtain ⟨more, -, same⟩ := Json.exists_of_bind_ok hwhole
  cases same
  cases kept
  exact ⟨_, rfl⟩

/-- A summary is printed exactly if its markup shows something that can be encoded. -/
theorem exists_shows_iff :
    (∃ rows last, r.Shows terminal rows last ∧ Encodable terminal rows (.char '\n' :: last)) ↔
      ∃ text, r.summary terminal = .ok text := by
  constructor
  · rintro ⟨rows, last, shows, encodable⟩
    exact ⟨_, summary_of_shows shows encodable⟩
  · rintro ⟨text, summary⟩
    obtain ⟨rows, cs, cells, caption, encodable⟩ := rendered_of_summary summary
    rw [Console.rendered_eq_ok_iff] at caption
    obtain ⟨last, rfl⟩ := exists_of_render_dim (Path.caption_toList _ ▸ caption)
    exact ⟨rows, last, ⟨cells_iff_forall₂.mp cells, caption⟩, encodable⟩

theorem ended_append (lines more : List (List Letter)) :
    Console.ended (lines ++ more) = Console.ended lines ++ Console.ended more := by
  rw [Console.ended, List.flatMap_append]
  rfl

/-- The line end in front of the last line makes an empty line. -/
theorem wrap_last {limit : Nat} (printable : Printable last) (fits : Console.width last ≤ limit) :
    Console.wrap limit (.char '\n' :: last) = [[], Console.dropExcessBlanks limit last] := by
  have parts : Text.pieces (.char '\n') (.char '\n' :: last) = [[], last] := by
    rw [Text.pieces, if_pos rfl, Text.pieces_of_notMem (printable.notMem (by decide))]
  have empty : Console.wrapLine limit [] = [[]] := rfl
  rw [Console.wrap, parts, List.flatMap_cons, List.flatMap_singleton, empty,
    Console.wrapLine_of_fits (printable.notMem (by decide)) fits]
  rfl

/-- Texts that fit the page are printed as the markup shows them. -/
theorem prints_of_shows (shows : r.Shows terminal rows last)
    (encodable : Encodable terminal rows (.char '\n' :: last))
    (fits : FitsPage terminal.width rows last) :
    r.Prints terminal rows last := by
  have aligned : ∀ row ∈ rows, row.length = columns.length := by
    refine (forall_mem_iff_of_forall₂ (P := fun _ => True) (fun a row cells => ?_) shows.cells).mp
      fun _ _ => trivial
    rw [← cells.length_eq, row_eq]
    simp [columns]
  have heading : ∀ cell ∈ columns.map Text.toList, Printable cell := by decide
  have table : (sheet rows).Fits terminal.width :=
    ⟨by simp [sheet, columns], by simpa [sheet] using aligned,
      List.forall_mem_cons.mpr ⟨heading, fits.cells⟩, fits.table⟩
  obtain ⟨head, body, lines, reads, more⟩ := Table.lines_of_fits table terminal.box
  refine ⟨head, body, _, ?_, reads, more, Console.seenAs_dropExcessBlanks fits.columns⟩
  rw [summary_of_shows shows encodable, lines, wrap_last fits.line fits.columns, ended_append]

/-- On every terminal, a summary is printed just if all of its texts are accepted as markup and what
they show can be encoded. If that fits the page, it stands in the lines of the table, one for each
artifact in order, and in the last line. Plain texts show themselves. Output that can encode every
character can encode whatever is shown without surrogates. -/
theorem summary_is_read_as_markup (terminal : Terminal) (r : Report) :
    ((∃ rows last, r.Shows terminal rows last ∧ Encodable terminal rows (.char '\n' :: last)) ↔
        ∃ text, r.summary terminal = .ok text) ∧
      (∀ rows last, r.Shows terminal rows last → Encodable terminal rows (.char '\n' :: last) →
        FitsPage terminal.width rows last → r.Prints terminal rows last) ∧
      (r.Plain → r.Shows terminal (r.artifacts.map r.texts) r.lastLine) ∧
      (terminal.EncodesCharacters → ∀ rows last, (∀ row ∈ rows, Console.WholeLines row) →
        Text.Whole last → Encodable terminal rows (.char '\n' :: last)) :=
  ⟨exists_shows_iff, fun _ _ => prints_of_shows, shows_of_plain, fun encodes _ _ cells line =>
    encodable_of_whole encodes cells (Text.Whole.cons_iff.mpr ⟨rfl, line⟩)⟩

/-- One artifact was stored, another one failed at a token group. -/
def partly : Report :=
  ⟨.ofString "dist", [⟨"base", some "", none⟩,
    ⟨"config", none, some (.ofFault (.malformed "colors" .groupMissing))⟩],
    [("base", .ofString "dist/base.css")]⟩

theorem summary_is_read_as_markup_partly :
    partly.Plain ∧ FitsPage 100 (partly.artifacts.map partly.texts) partly.lastLine ∧
      partly.Prints (.ofWidth 100) (partly.artifacts.map partly.texts) partly.lastLine := by
  have stored : ("dist/base.css" : Text).toList = (partly.detail ⟨"base", some "", none⟩).toList := by
    decide +kernel
  have failed : ("MalformedTokenError" : Text).toList ++ .char ':' :: .char ' ' ::
      (("@ colors" : Text).toList ++ .char ':' :: .char ' ' ::
        ("Required token group is missing" : Text).toList) = (partly.detail
        ⟨"config", none, some (.ofFault (.malformed "colors" .groupMissing))⟩).toList := by
    decide +kernel
  have plain : partly.Plain := by
    refine ⟨fun a ha => .of_plain ?_, ?_, .of_plain (by decide +kernel), by decide +kernel⟩
    · revert a
      decide +kernel
    · simp only [partly, List.forall_mem_cons]
      refine ⟨?_, ?_, by simp⟩
      · exact stored ▸ .of_plain (by decide)
      · exact failed ▸ .headed (by decide) (.headed (by decide) (.of_plain (by decide)))
  have fits : FitsPage 100 (partly.artifacts.map partly.texts) partly.lastLine :=
    ⟨by decide +kernel, by decide +kernel, by decide +kernel, by decide +kernel⟩
  obtain ⟨-, prints, shows, -⟩ := summary_is_read_as_markup (.ofWidth 100) partly
  exact ⟨plain, fits, prints _ _ (shows plain) ⟨by decide +kernel, by decide +kernel⟩ fits⟩

/-- An artifact was stored in a directory with a tag in its name. -/
def bracketed : Report :=
  ⟨.ofString "o[b]", [⟨"base", some "", none⟩], [("base", .ofString "o[b]/base.css")]⟩

/-- The last line of a printed summary is known from the text. -/
theorem getLast?_ended (lines : List (List Letter)) {last : List Letter} (some_ : last ≠ []) :
    (Console.ended (lines ++ [[], last])).toList.dropLast.getLast? = last.getLast? := by
  rw [show [[], last] = [[]] ++ [last] from rfl, ← List.append_assoc, Console.ended,
    Text.toList_ofList, List.flatMap_append, List.flatMap_singleton, ← List.append_assoc,
    List.dropLast_concat, List.getLast?_append_of_ne_nil _ some_]

/-- The summary names the directory and the file without the tag. -/
theorem tag_in_directory_is_lost :
    FitsPage Terminal.usual.width (bracketed.artifacts.map bracketed.texts) bracketed.lastLine ∧
      bracketed.Prints .usual
        [[("base" : Text).toList, ("ok" : Text).toList, ("o/base.css" : Text).toList]]
        ("Output directory: o" : Text).toList ∧
      ¬bracketed.Prints .usual (bracketed.artifacts.map bracketed.texts) bracketed.lastLine := by
  have shows : bracketed.Shows .usual
      [[("base" : Text).toList, ("ok" : Text).toList, ("o/base.css" : Text).toList]]
      ("Output directory: o" : Text).toList :=
    ⟨.cons (.cons (by decide +kernel) (.cons (by decide +kernel) (.cons (by decide +kernel) .nil)))
      .nil, by decide +kernel⟩
  have encodable : Encodable .usual
      [[("base" : Text).toList, ("ok" : Text).toList, ("o/base.css" : Text).toList]]
      (.char '\n' :: ("Output directory: o" : Text).toList) := ⟨rfl, rfl⟩
  refine ⟨⟨by decide +kernel, by decide +kernel, by decide +kernel, by decide +kernel⟩,
    prints_of_shows shows encodable ⟨by decide, by decide +kernel, by decide, by decide⟩, ?_⟩
  rintro ⟨head, body, shown, printed, -, -, seen⟩
  have asked : shown = bracketed.lastLine := seen.eq_of_length_le (by decide +kernel)
  rw [summary_of_shows shows encodable, wrap_last (by decide) (by decide), ← ended_append] at printed
  have ends := congrArg (fun s => s.toList.dropLast.getLast?) (Except.ok.inj printed)
  rw [getLast?_ended _ (by decide +kernel), asked, getLast?_ended _ (by decide +kernel)] at ends
  exact absurd ends (by decide +kernel)

end Report

end DesignTokens
