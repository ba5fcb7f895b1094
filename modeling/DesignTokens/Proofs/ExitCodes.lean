import DesignTokens.CommandLine
import DesignTokens.Proofs.BrokenBuilds
import DesignTokens.Proofs.Documents
import DesignTokens.Proofs.JsonRoundTrip
import DesignTokens.Proofs.PrintedLetters

/-!
# Exit codes

A single run of the command line ends with zero exactly if a document was read, every artifact of the
theme was made and written, and the summary could be shown. The paths in the summary are markup, so
an output directory whose path has a closing tag in it makes a run fail that has written everything.
-/

namespace DesignTokens

/-- Every artifact of the theme has been made from a document and written: the directory could be
made, and in the end each file holds the text of its generator. -/
def AllWritten (before after : FileTree) (doc : Document) (output : Path) : Prop :=
  (before.ensureDirectories output).2 = none ∧ ∀ g ∈ builtin, ∃ text, g.2 doc = .ok text ∧
    after.Holds (artifactPath output g.1) text

theorem Path.caption_toList (output : Path) : (output.caption : Text).toList =
    .char '\n' :: ("[dim]" : Text).toList ++
      ((("Output directory: " : Text).toList ++ (output.text : Text).toList) ++
        ("[/dim]" : Text).toList) := by
  have joined : (output.caption : Text) =
      ("\n[dim]Output directory: " : Text) ++ output.text ++ ("[/dim]" : Text) :=
    (Text.ofString_append ..).trans (congrArg (· ++ _) (Text.ofString_append ..))
  have front : ("\n[dim]Output directory: " : Text).toList =
      .char '\n' :: ("[dim]" : Text).toList ++ ("Output directory: " : Text).toList := by
    decide +kernel
  rw [joined, Text.toList_append, Text.toList_append, front]
  simp only [List.append_assoc]

/-- The report of a build that has stored every artifact of the theme. -/
def Report.complete (output : Path) : Report :=
  ⟨output, builtin.map fun g => ⟨g.1, none, none⟩,
    builtin.map fun g => (g.1, artifactPath output g.1)⟩

/-- The console can show the summary of such a build. -/
def Path.Legible (terminal : Console.Terminal) (output : Path) : Prop :=
  ∃ text, (Report.complete output).summary terminal = .ok text

/-- The markup with the path of every artifact and of the output directory is accepted. -/
def Path.Accepted (terminal : Console.Terminal) (output : Path) : Prop :=
  (∀ g ∈ builtin, ∃ cs,
      Console.render terminal ((artifactPath output g.1).text : Text).toList = .ok cs) ∧
    ∃ cs, Console.render terminal (output.caption : Text).toList = .ok cs

variable {terminal : Console.Terminal}

/-- A path in a directory continues the path of the directory, unless that is a dot. -/
theorem text_concat (output : Path) (name : String) :
    ∃ front back, (Path.mk output.anchor (output.parts ++ [name])).text = front ++ back ∧
      (front = "" ∨ front = output.text) ∧ (back = name ∨ back = "/" ++ name) := by
  obtain ⟨anchor, parts⟩ := output
  have filled : (parts ++ [name]).isEmpty = false := by simp
  by_cases empty : parts = []
  · subst empty
    cases anchor with
    | working => exact ⟨"", name, by simp [Path.text], Or.inl rfl, Or.inl rfl⟩
    | root => exact ⟨"/", name, by simp [Path.text], Or.inr rfl, Or.inl rfl⟩
    | doubleRoot => exact ⟨"//", name, by simp [Path.text], Or.inr rfl, Or.inl rfl⟩
    | bundled =>
      exact ⟨Path.bundledName, "/" ++ name, by simp [Path.text, String.append_assoc], Or.inr rfl,
        Or.inr rfl⟩
  · refine ⟨_, "/" ++ name, ?_, Or.inr rfl, Or.inr rfl⟩
    cases anchor <;>
      simp [Path.text, empty, String.intercalate_append_of_ne_nil empty, String.append_assoc]

/-- The path of an output directory without a complete closing tag is accepted, and so are the paths
of the artifacts in it. -/
theorem accepted_of_unclosed {output : Path}
    (unclosed : Console.Unclosed (output.text : Text).toList) : output.Accepted terminal := by
  constructor
  · intro g hg
    have plain : ∀ n ∈ ["base", "slidev", "reveal", "webslides", "config"],
        .char ']' ∉ (Artifact.filenameOf n : Text).toList ∧
          .char ']' ∉ (("/" ++ Artifact.filenameOf n : String) : Text).toList := by
      decide +kernel
    have free := plain g.1 (List.mem_map_of_mem hg)
    obtain ⟨front, back, text, start, last⟩ := text_concat output (Artifact.filenameOf g.1)
    rw [artifactPath_eq (fileName_builtin g.1 (List.mem_map_of_mem hg)), text, Text.ofString_append,
      Text.toList_append]
    refine Console.render_of_unclosed (Console.Unclosed.append_right ?_ ?_)
    · rcases start with rfl | rfl
      · exact .of_notMem (by decide)
      · exact unclosed
    · rcases last with rfl | rfl
      · exact free.1
      · exact free.2
  · rw [Path.caption_toList]
    have front : .char '[' ∉ ("Output directory: " : Text).toList := by decide
    have inside : Console.Unclosed
        (("Output directory: " : Text).toList ++ (output.text : Text).toList) :=
      unclosed.append_left front
    exact Console.render_of_unclosed_dim inside

theorem exists_mapM_ok_iff {ε α β : Type} {f : α → Except ε β} {as : List α} :
    (∃ bs, as.mapM f = .ok bs) ↔ ∀ a ∈ as, ∃ b, f a = .ok b := by
  induction as with
  | nil => simp [pure, Except.pure]
  | cons a as ih =>
    rw [List.forall_mem_cons, ← ih, List.mapM_cons]
    cases f a with
    | error e => simp [bind, Except.bind]
    | ok b => cases as.mapM f <;> simp [bind, Except.bind, pure, Except.pure]

theorem forall_mem_of_mapM {ε α β : Type} {f : α → Except ε β} {Q : β → Prop} {as : List α}
    {bs : List β} (step : ∀ a ∈ as, ∀ b, f a = .ok b → Q b) (made : as.mapM f = .ok bs) :
    ∀ b ∈ bs, Q b := by
  induction as generalizing bs with
  | nil =>
    cases made
    simp
  | cons a as ih =>
    obtain ⟨first, others⟩ := List.forall_mem_cons.mp step
    rw [List.mapM_cons] at made
    obtain ⟨b, here, made⟩ := Json.exists_of_bind_ok made
    obtain ⟨rest, more, same⟩ := Json.exists_of_bind_ok made
    cases same
    exact List.forall_mem_cons.mpr ⟨first b here, ih others more⟩

theorem Console.rendered_eq_ok_iff {markup : Text} {cs : List Letter} :
    rendered terminal markup = .ok cs ↔ render terminal markup.toList = .ok cs := by
  rw [rendered]
  cases render terminal markup.toList <;> simp [Except.mapError]

theorem Console.encoded_eq_ok_iff {text shown : Text} :
    encoded terminal text = .ok shown ↔ terminal.encodingFault? text = none ∧ text = shown := by
  rw [encoded]
  cases terminal.encodingFault? text <;> simp

namespace Report

variable {r : Report}

/-- What is printed for these rows and this caption can be encoded. -/
structure Encodable (terminal : Console.Terminal) (rows : List (List (List Letter)))
    (caption : List Letter) : Prop where
  table : terminal.encodingFault?
    (Console.ended ((sheet rows).lines terminal.box terminal.width)) = none
  line : terminal.encodingFault? (Console.ended (Console.wrap terminal.width caption)) = none

/-- A summary is laid out from what its cells and its caption show, if that can be encoded. -/
theorem summary_of_rendered {rows : List (List (List Letter))} {cs : List Letter}
    (cells : (r.rows.mapM fun cells => cells.mapM (Console.rendered terminal)) = .ok rows)
    (caption : Console.rendered terminal r.output.caption = .ok cs)
    (encodable : Encodable terminal rows cs) :
    r.summary terminal = .ok (Console.ended ((sheet rows).lines terminal.box terminal.width) ++
      Console.ended (Console.wrap terminal.width cs)) := by
  have table : r.tableText terminal =
      .ok (Console.ended ((sheet rows).lines terminal.box terminal.width)) := by
    rw [tableText, cells]
    exact Console.encoded_eq_ok_iff.mpr ⟨encodable.table, rfl⟩
  have place : Console.printed terminal r.output.caption =
      .ok (Console.ended (Console.wrap terminal.width cs)) := by
    rw [Console.printed, caption]
    exact Console.encoded_eq_ok_iff.mpr ⟨encodable.line, rfl⟩
  rw [summary, table, place]
  rfl

theorem rendered_of_summary {text : Text} (shown : r.summary terminal = .ok text) :
    ∃ rows cs, (r.rows.mapM fun cells => cells.mapM (Console.rendered terminal)) = .ok rows ∧
      Console.rendered terminal r.output.caption = .ok cs ∧ Encodable terminal rows cs := by
  obtain ⟨table, htable, shown⟩ := Json.exists_of_bind_ok shown
  obtain ⟨place, hplace, -⟩ := Json.exists_of_bind_ok shown
  obtain ⟨rows, hrows, encoded⟩ := Json.exists_of_bind_ok htable
  obtain ⟨cs, hcs, encoded'⟩ := Json.exists_of_bind_ok hplace
  exact ⟨rows, cs, hrows, hcs, (Console.encoded_eq_ok_iff.mp encoded).1,
    (Console.encoded_eq_ok_iff.mp encoded').1⟩

theorem encodable_of_whole (encodes : terminal.EncodesCharacters)
    {rows : List (List (List Letter))} {caption : List Letter}
    (cells : ∀ row ∈ rows, Console.WholeLines row) (line : Text.Whole caption) :
    Encodable terminal rows caption := by
  have title : Text.Whole (sheet rows).title := Text.Whole.ofString _
  have header : Console.WholeLines (sheet rows).header := by simp [sheet, columns]
  have lines := Console.Table.wholeLines_lines title header cells terminal.box terminal.width
  exact ⟨encodes.of_whole (Console.whole_ended lines),
    encodes.of_whole (Console.whole_ended (Console.wholeLines_wrap _ line))⟩

/-- Where every character can be encoded, a summary of characters can be shown if every cell of its
table is accepted as markup, and the caption. -/
theorem exists_summary_iff (encodes : terminal.EncodesCharacters)
    (whole : ∀ cells ∈ r.rows, ∀ cell ∈ cells, Text.Whole cell.toList) :
    (∃ text, r.summary terminal = .ok text) ↔
      (∀ cells ∈ r.rows, ∀ cell ∈ cells, ∃ cs, Console.render terminal cell.toList = .ok cs) ∧
        ∃ cs, Console.render terminal (r.output.caption : Text).toList = .ok cs := by
  simp only [← Console.rendered_eq_ok_iff, ← exists_mapM_ok_iff]
  constructor
  · rintro ⟨text, shown⟩
    obtain ⟨rows, cs, cells, caption, -⟩ := rendered_of_summary shown
    exact ⟨⟨rows, cells⟩, cs, caption⟩
  · rintro ⟨⟨rows, cells⟩, cs, caption⟩
    have wholeRows : ∀ row ∈ rows, Console.WholeLines row :=
      forall_mem_of_mapM (fun _ hrow _ shown => forall_mem_of_mapM (fun cell hcell _ shows =>
        Console.whole_render (whole _ hrow cell hcell) (Console.rendered_eq_ok_iff.mp shows)) shown)
        cells
    have wholeCaption : Text.Whole cs :=
      Console.whole_render (Text.Whole.ofString _) (Console.rendered_eq_ok_iff.mp caption)
    exact ⟨_, summary_of_rendered cells caption
      (encodable_of_whole encodes wholeRows wholeCaption)⟩

end Report

namespace Console

/-- A text in a style of its own, which its end closes. -/
theorem render_of_parts {markup text : List Letter} (name : Text) {fuel i j : Nat}
    (parts : stretches fuel markup [] 0 =
      [.tag name.toList i, .text text, .tag (.char '/' :: name.toList) j])
    (long : markup.length + 1 = fuel)
    (opening : name.toList.head? ≠ some (.char '/'))
    (closes : ∃ opened', ∀ index,
      applyTag terminal [.ofInside name.toList] (.char '/' :: name.toList) index = .ok opened') :
    render terminal markup = .ok ((shownText text).filter fun c => !isDropped c) := by
  obtain ⟨opened', closes⟩ := closes
  have whole : shown terminal [.tag name.toList i, .text text, .tag (.char '/' :: name.toList) j] [] =
      .ok (shownText text ++ []) := by
    rw [shown, applyTag_of_opening opening]
    change shown terminal [.text text, _] _ = _
    rw [shown, shown, closes]
    rfl
  rw [render, long, parts, whole, List.append_nil]
  rfl

/-- The verdict on an artifact is shown without its colour. -/
theorem render_verdict (success : Bool) :
    render terminal (if success then "[green]ok[/green]" else "[red]failed[/red]" : Text).toList =
      .ok (if success then "ok" else "failed" : Text).toList := by
  cases success with
  | true =>
    have parts : stretches 18 ("[green]ok[/green]" : Text).toList [] 0 =
        [.tag ("green" : Text).toList 0, .text ("ok" : Text).toList,
          .tag (.char '/' :: ("green" : Text).toList) 9] := by decide
    exact render_of_parts "green" parts rfl (by decide) (applyTag_of_closing "green" (by decide +kernel)
      (by decide) (by decide) (by decide) (List.mem_singleton_self _) (by decide +kernel))
  | false =>
    have parts : stretches 18 ("[red]failed[/red]" : Text).toList [] 0 =
        [.tag ("red" : Text).toList 0, .text ("failed" : Text).toList,
          .tag (.char '/' :: ("red" : Text).toList) 11] := by decide
    exact render_of_parts "red" parts rfl (by decide) (applyTag_of_closing "red" (by decide +kernel)
      (by decide) (by decide) (by decide) (List.mem_singleton_self _) (by decide +kernel))

theorem render_ok : ∃ cs, render terminal ("[green]ok[/green]" : Text).toList = .ok cs :=
  ⟨_, render_verdict true⟩

theorem render_name {name : String} (known : name ∈ builtin.map Prod.fst) :
    ∃ cs, render terminal (name : Text).toList = .ok cs := by
  have plain : ∀ n ∈ ["base", "slidev", "reveal", "webslides", "config"],
      .char '[' ∉ (n : Text).toList := by
    decide
  exact render_of_unclosed (.of_notMem (plain name known))

end Console

theorem Report.rows_complete (output : Path) : (Report.complete output).rows =
    builtin.map fun g =>
      [(g.1 : Text), "[green]ok[/green]", (artifactPath output g.1).text] := by
  rw [Report.rows, Report.complete, List.map_map]
  rfl

/-- Where every character can be encoded, a complete summary can be shown if the paths in it are
accepted as markup. -/
theorem legible_iff_accepted (encodes : terminal.EncodesCharacters) (output : Path) :
    output.Legible terminal ↔ output.Accepted terminal := by
  have whole : ∀ cells ∈ (Report.complete output).rows, ∀ cell ∈ cells, Text.Whole cell.toList := by
    rw [Report.rows_complete, List.forall_mem_map]
    simp
  rw [Path.Legible, Report.exists_summary_iff encodes whole, Path.Accepted, Report.rows_complete,
    List.forall_mem_map]
  refine and_congr_left fun _ => forall₂_congr fun g hg => ?_
  simp only [List.forall_mem_cons, List.not_mem_nil, false_implies, implies_true, and_true]
  rw [and_iff_right (Console.render_name (List.mem_map_of_mem hg)), and_iff_right Console.render_ok]

/-- A report of success is summed up like any other one in its directory. -/
theorem Report.summary_of_success {files after : FileTree} {doc : Document} {output : Path}
    {r : Report} (truthful : r.Truthful files (compile builtin doc) output after)
    (success : r.success) : r.summary terminal = (Report.complete output).summary terminal := by
  have names : r.artifacts.map Artifact.name = builtin.map Prod.fst :=
    (map_name_of_told truthful.artifacts).trans (names_compile builtin doc)
  have all : ∀ a ∈ r.artifacts, a.success := by
    simp only [Report.success, Bool.and_eq_true, List.all_eq_true] at success
    exact success.2
  have row : ∀ a ∈ r.artifacts,
      r.row a = [(a.name : Text), "[green]ok[/green]", (artifactPath output a.name).text] := by
    intro a ha
    have none : a.failure = none := by simpa [Artifact.success] using all a ha
    rw [Report.row, none]
    dsimp only
    rw [truthful.found a ha (all a ha)]
    rfl
  have rows : r.rows = (Report.complete output).rows := by
    have cells := congrArg
      (List.map fun name : String =>
        [(name : Text), "[green]ok[/green]", (artifactPath output name).text]) names
    rw [List.map_map, List.map_map] at cells
    rw [Report.rows_complete, Report.rows, List.map_congr_left row]
    exact cells
  have directory : r.output = (Report.complete output).output := truthful.directory
  rw [Report.summary, Report.summary, Report.tableText, Report.tableText, rows, directory]

theorem forall_mem_iff_of_forall₂ {α β : Type} {R : α → β → Prop} {P : α → Prop} {Q : β → Prop}
    (same : ∀ a b, R a b → (P a ↔ Q b)) {as : List α} {bs : List β} (related : List.Forall₂ R as bs) :
    (∀ a ∈ as, P a) ↔ ∀ b ∈ bs, Q b := by
  induction related with
  | nil => simp
  | cons first _ ih => rw [List.forall_mem_cons, List.forall_mem_cons, same _ _ first, ih]

/-- A report tells of success exactly if every artifact has been made and written. -/
theorem success_iff_allWritten {files after : FileTree} {doc : Document} {output : Path} {r : Report}
    (truthful : r.Truthful files (compile builtin doc) output after) :
    r.success ↔ AllWritten files after doc output := by
  have names := map_name_of_told truthful.artifacts
  have some_ : r.artifacts.isEmpty = false := by
    cases he : r.artifacts with
    | nil =>
      rw [he, names_compile] at names
      cases names
    | cons a rest => rfl
  have each : (∀ b ∈ r.artifacts, b.success) ↔ ∀ g ∈ builtin,
      (files.ensureDirectories output).2 = none ∧ ∃ text, g.2 doc = .ok text ∧
        after.Holds (artifactPath output g.1) text := by
    rw [← forall_mem_iff_of_forall₂ (fun a b told => told.success.symm) truthful.artifacts, compile,
      List.forall_mem_map]
    refine forall₂_congr fun g _ => ?_
    cases g.2 doc with
    | error failure => simp [Artifact.ofOutput, Artifact.success]
    | ok text => simp [Artifact.ofOutput, Artifact.success, Artifact.pathIn_eq]
  rw [Report.success, some_, Bool.not_false, Bool.true_and, List.all_eq_true, each, AllWritten]
  constructor
  · intro all
    exact ⟨(all _ List.mem_cons_self).1, fun g hg => (all g hg).2⟩
  · rintro ⟨made, all⟩ g hg
    exact ⟨made, all g hg⟩

/-- Where everything is written no artifact makes writing stop: a file holds its text, which has
octets then. -/
theorem AllWritten.unstopped {files after : FileTree} {doc : Document} {output : Path}
    (written : AllWritten files after doc output) :
    (compile builtin doc).findSome? (Artifact.stopsIn? files output) = none := by
  rw [List.findSome?_eq_none_iff, compile, List.forall_mem_map]
  intro g hg
  obtain ⟨text, made, octets, encoded, -⟩ := written.2 g hg
  have unfaulted : (Artifact.ofOutput g.1 (g.2 doc)).fault? = none := by
    rw [made]
    exact Text.fault?_eq_none_iff.mpr ((Text.octets_of_encode encoded).symm ▸ encoded)
  rw [Artifact.stopsIn?, Artifact.stops?, unfaulted, ite_self]

namespace World

section
variable {w : World} (fresh : w.shelf = .empty) (s : Settings)
include fresh

/-- In a process that has no stores yet, a build reads the file in the settings. -/
theorem reads_iff_of_fresh {doc : Document} :
    w.Reads s none doc ↔ w.files.load s.tokens = .ok doc := by
  have path : w.documentPath s none = s.tokens := by
    rw [documentPath, fresh]
    rfl
  constructor
  · rintro ⟨-, loads⟩
    rwa [path] at loads
  · intro loads
    refine ⟨fun _ => (FileTree.file_of_load loads).1, ?_⟩
    rwa [path]

theorem build_of_loaded {doc : Document} (loaded : w.files.load s.tokens = .ok doc) :
    (w.build s none).result = (writeArtifacts w.files (compile builtin doc) s.output).result ∧
      (w.build s none).world.files =
        (writeArtifacts w.files (compile builtin doc) s.output).files :=
  build_of_reads ((reads_iff_of_fresh fresh s).mpr loaded)

/-- A build that gives a report has read the document. -/
theorem loaded_of_build {r : Report} (built : (w.build s none).result = .ok r) :
    ∃ doc, w.files.load s.tokens = .ok doc := by
  obtain ⟨doc, reads⟩ := reads_of_report built
  exact ⟨doc, (reads_iff_of_fresh fresh s).mp reads⟩

/-- The report of a build tells the truth about the document that was read. -/
theorem truthful_of_build {r : Report} (built : (w.build s none).result = .ok r) {doc : Document}
    (loaded : w.files.load s.tokens = .ok doc) :
    r.Truthful w.files (compile builtin doc) s.output (w.build s none).world.files := by
  obtain ⟨result, files⟩ := build_of_loaded fresh s loaded
  rw [result] at built
  rw [files]
  exact truthful_of_reported builtin_names_nodup fileName_builtin w.files doc s.output built

/-- Where everything has been written there is a report. -/
theorem exists_report {doc : Document} (loaded : w.files.load s.tokens = .ok doc)
    (written : AllWritten w.files (w.build s none).world.files doc s.output) :
    ∃ r, (w.build s none).result = .ok r := by
  have named : s.output.hasNul = false := by
    cases nul : s.output.hasNul with
    | false => rfl
    | true =>
      have made := written.1
      rw [FileTree.ensureDirectories_of_hasNul _ nul] at made
      cases made
  rw [(build_of_loaded fresh s loaded).1]
  exact ⟨_, result_of_going
    (going_compile builtin_names_nodup fileName_builtin w.files doc named written.unstopped)⟩

end

end World

namespace CommandLine

/-- A single build ends with zero if its report tells of success and can be shown, and else with
one. -/
theorem code_build (host : Host) (w : World) (o : Options) (s : Settings) :
    ((build host w o s).ended.code = 0 ∨ (build host w o s).ended.code = 1) ∧
      ((build host w o s).ended.code = 0 ↔ ∃ r, (w.build s none).result = .ok r ∧ r.success ∧
        ∃ text, r.summary host.terminal = .ok text) := by
  unfold build
  dsimp only
  cases (w.build s none).result with
  | error p =>
    have ended : (failed p).2.code = 1 := by
      unfold failed
      split <;> rfl
    simp [ended]
  | ok r =>
    cases hs : r.summary host.terminal with
    | error p => simp [hs, Ended.code]
    | ok text => cases hr : r.success <;> simp [hs, hr, Ended.code]

theorem world_build (host : Host) (w : World) (o : Options) (s : Settings) :
    (build host w o s).world = (w.build s none).world := by
  unfold build
  dsimp only
  split
  · rfl
  · split <;> rfl

/-- A single build ends with zero exactly if the document was read, every artifact has been made and
written, and the summary can be shown. -/
theorem code_build_eq_zero_iff {w : World} (fresh : w.shelf = .empty) (host : Host) (o : Options)
    (s : Settings) :
    (build host w o s).ended.code = 0 ↔ ∃ doc, w.files.load s.tokens = .ok doc ∧
      AllWritten w.files (build host w o s).world.files doc s.output ∧
      s.output.Legible host.terminal := by
  rw [(code_build host w o s).2, world_build]
  constructor
  · rintro ⟨r, built, success, summary⟩
    obtain ⟨doc, loaded⟩ := World.loaded_of_build fresh s built
    have truthful := World.truthful_of_build fresh s built loaded
    rw [Report.summary_of_success truthful success] at summary
    exact ⟨doc, loaded, (success_iff_allWritten truthful).mp success, summary⟩
  · rintro ⟨doc, loaded, written, legible⟩
    obtain ⟨r, built⟩ := World.exists_report fresh s loaded written
    have truthful := World.truthful_of_build fresh s built loaded
    have success := (success_iff_allWritten truthful).mpr written
    refine ⟨r, built, success, ?_⟩
    rw [Report.summary_of_success truthful success]
    exact legible

/-- A run that compiles the theme once, in a process without stores, ends with zero or one. It ends
with zero exactly if logging can be set up, the configuration is valid, the document was read, every
artifact has been made and written, and the console can show the summary of that. On a console that
can encode every character, this only depends on whether the paths of the artifacts and of the output
directory are accepted as markup; they are unless the path of the directory has a complete closing
tag in it. -/
theorem exit_code_tells_of_artifacts (host : Host) {w : World} (fresh : w.shelf = .empty)
    {arguments : List String} {o : Options}
    (parsed : parse host.number? arguments = .ok (.compile o)) (once : o.watch = false)
    (edits : List Edit) (ending : Ending) :
    ((run host w arguments edits ending).ended.code = 0 ∨
        (run host w arguments edits ending).ended.code = 1) ∧
      ((run host w arguments edits ending).ended.code = 0 ↔ ∃ n s doc,
        (o.threshold w.environment).level = .ok n ∧ w.settings o.explicit = .ok s ∧
        w.files.load s.tokens = .ok doc ∧
        AllWritten w.files (run host w arguments edits ending).world.files doc s.output ∧
        s.output.Legible host.terminal) ∧
      (host.terminal.EncodesCharacters → ∀ output : Path,
        (output.Legible host.terminal ↔ output.Accepted host.terminal) ∧
          (Console.Unclosed (output.text : Text).toList → output.Legible host.terminal)) := by
  have compiled : run host w arguments edits ending = compile host w o edits ending := by
    rw [run, parsed]
  have shown : host.terminal.EncodesCharacters → ∀ output : Path,
      (output.Legible host.terminal ↔ output.Accepted host.terminal) ∧
        (Console.Unclosed (output.text : Text).toList → output.Legible host.terminal) :=
    fun encodes output => ⟨legible_iff_accepted encodes output,
      fun unclosed => (legible_iff_accepted encodes output).mpr (accepted_of_unclosed unclosed)⟩
  rw [compiled, compile]
  cases (o.threshold w.environment).level with
  | error f => exact ⟨Or.inr rfl, by simp [Ended.code], shown⟩
  | ok n =>
    cases w.settings o.explicit with
    | error p => exact ⟨Or.inr rfl, by simp [Ended.code], shown⟩
    | ok s =>
      have single : (if o.watch then watch host w o s edits ending else build host w o s) =
          build host w o s := by
        simp [once]
      dsimp only
      rw [single]
      refine ⟨(code_build host w o s).1, ?_, shown⟩
      rw [code_build_eq_zero_iff fresh]
      simp

/-- A process in a directory with a small document. -/
def minimal : World :=
  ⟨⟨[(["t.json"], .file (Text.Utf8.encode
    "\x7b\"colors\": \x7b\x7d, \"typography\": \x7b\"fontFamily\": \x7b\x7d\x7d\x7d".toList) 1)], [], [], 1⟩,
    [], Shelf.empty⟩

/-- The options that name the document and an output directory. -/
def minimalOptions (output : String) : Options :=
  ⟨some (.ofString "t.json"), some (.ofString output), none, false, false⟩

def minimalSettings (output : String) : Settings :=
  ⟨.ofString "t.json", .ofString output, Settings.defaultInterval⟩

theorem settings_minimal (output : String) (known : output ∈ ["o", "o[/x]"]) :
    minimal.settings (minimalOptions output).explicit = .ok (minimalSettings output) := by
  revert output
  decide +kernel

/-- A build that reports success has written everything. -/
theorem allWritten_minimal {output : String}
    (success : (minimal.build (minimalSettings output) none).result.map Report.success = .ok true) :
    ∃ doc, minimal.files.load (minimalSettings output).tokens = .ok doc ∧
      AllWritten minimal.files (minimal.build (minimalSettings output) none).world.files doc
        (minimalSettings output).output := by
  cases built : (minimal.build (minimalSettings output) none).result with
  | error p =>
    rw [built] at success
    cases success
  | ok r =>
    rw [built] at success
    obtain ⟨doc, loaded⟩ := World.loaded_of_build rfl _ built
    have truthful := World.truthful_of_build rfl _ built loaded
    exact ⟨doc, loaded, (success_iff_allWritten truthful).mp (Except.ok.inj success)⟩

theorem level_minimal (output : String) :
    ((minimalOptions output).threshold minimal.environment).level = .ok 30 := by
  change (Log.threshold [] false false).level = .ok 30
  decide +kernel

/-- A single run with these options is a build with these settings. -/
theorem run_minimal {arguments : List String} {output : String}
    (parsed : parse Host.usual.number? arguments = .ok (.compile (minimalOptions output)))
    (known : output ∈ ["o", "o[/x]"]) :
    run .usual minimal arguments [] .stop =
      build .usual minimal (minimalOptions output) (minimalSettings output) := by
  rw [run, parsed]
  dsimp only
  rw [compile, level_minimal, settings_minimal output known]
  dsimp only
  rw [if_neg (show ¬ (minimalOptions output).watch = true by simp [minimalOptions])]

theorem exit_code_tells_of_artifacts_minimal :
    minimal.shelf = .empty ∧
      parse Host.usual.number? ["-t", "t.json", "-o", "o"] =
        .ok (.compile (minimalOptions "o")) ∧
      (minimalOptions "o").watch = false ∧
      (run .usual minimal ["-t", "t.json", "-o", "o"] [] .stop).ended.code = 0 := by
  have fresh : minimal.shelf = .empty := rfl
  have parsed : parse Host.usual.number? ["-t", "t.json", "-o", "o"] =
      .ok (.compile (minimalOptions "o")) := by
    decide +kernel
  have once : (minimalOptions "o").watch = false := by simp [minimalOptions]
  have success : (minimal.build (minimalSettings "o") none).result.map Report.success = .ok true := by
    decide +kernel
  have named : Letter.char '[' ∉ ((minimalSettings "o").output.text : Text).toList := by
    decide +kernel
  obtain ⟨-, zero, legible⟩ := exit_code_tells_of_artifacts .usual fresh parsed once [] .stop
  obtain ⟨doc, loaded, written⟩ := allWritten_minimal success
  refine ⟨fresh, parsed, once, zero.mpr ⟨30, minimalSettings "o", doc, level_minimal "o",
    settings_minimal "o" (by simp), loaded, ?_,
    (legible Console.encodesCharacters_usual _).2 (.of_notMem named)⟩⟩
  rw [run_minimal parsed (by simp), world_build]
  exact written

/-- All artifacts are made and written, and the run fails at the summary. -/
theorem closingTag_fails_after_writing :
    parse Host.usual.number? ["-t", "t.json", "-o", "o[/x]"] =
        .ok (.compile (minimalOptions "o[/x]")) ∧
      (∃ doc, minimal.files.load (minimalSettings "o[/x]").tokens = .ok doc ∧
        AllWritten minimal.files
          (run .usual minimal ["-t", "t.json", "-o", "o[/x]"] [] .stop).world.files doc
          (minimalSettings "o[/x]").output) ∧
      (run .usual minimal ["-t", "t.json", "-o", "o[/x]"] [] .stop).ended.code = 1 := by
  have parsed : parse Host.usual.number? ["-t", "t.json", "-o", "o[/x]"] =
      .ok (.compile (minimalOptions "o[/x]")) := by
    decide +kernel
  have success : (minimal.build (minimalSettings "o[/x]") none).result.map Report.success =
      .ok true := by
    decide +kernel
  rw [run_minimal parsed (by simp), world_build]
  refine ⟨parsed, allWritten_minimal success, ?_⟩
  refine (code_build ..).1.resolve_left fun zero => ?_
  obtain ⟨-, -, -, legible⟩ := (code_build_eq_zero_iff rfl .usual _ _).mp zero
  obtain ⟨-, cs, shown⟩ := (legible_iff_accepted Console.encodesCharacters_usual _).mp legible
  have fails : (Console.render Console.Terminal.usual
      ((minimalSettings "o[/x]").output.caption : Text).toList).isOk = false := by
    decide +kernel
  rw [shown] at fails
  cases fails

end CommandLine

end DesignTokens
