import DesignTokens.Proofs.Opening

/-!
# What builds leave in an output directory

A run is any number of builds with the same settings, between which anything may change but what is
in the output directory. All along, the file of an artifact holds the text for which a build has
opened it last, or nothing if that text has no octets. Unless a build stopped at such a text, that is
the text of the latest build that has reported the artifact as stored. An artifact whose file no build
has opened has none, but a directory can stand in its place if the path of the output directory goes
through it.
-/

namespace DesignTokens

namespace FileTree

/-- What is in a directory stays as it is, and the directory stays where it is. -/
structure Spares (t : FileTree) (output : Path) (t' : FileTree) : Prop where
  anchors : SameAnchors t t'
  contents : ∀ name rest, t'.shape (t.resolve output ++ name :: rest) =
    t.shape (t.resolve output ++ name :: rest)
  reached : t.isDirectory output → t'.isDirectory output

/-- Storing a file elsewhere spares a directory. -/
theorem spares_write {t : FileTree} {output path : Path}
    (elsewhere : ∀ name rest, t.resolve output ++ name :: rest ≠ t.resolve path)
    (octets : List UInt8) : t.Spares output (t.write path octets).1 :=
  ⟨t.sameAnchors_write path octets,
    fun name rest => shape_write_other (elsewhere name rest) octets,
    isDirectory_of_keeps (t.sameAnchors_write path octets) (t.keeps_write path octets)⟩

/-- Nothing is in a directory, if there is one. -/
def Vacant (t : FileTree) (output : Path) : Prop :=
  ∀ name rest, t.node? (t.resolve output ++ name :: rest) = none

/-- A file in a directory can be read as long as both are there. -/
theorem read_artifactPath {t t' : FileTree} {output : Path} {name : String} {octets : List UInt8}
    (valid : FileName name) (anchors : SameAnchors t t')
    (there : t.isDirectory output) (there' : t'.isDirectory output)
    (same : t'.shape (t.resolve (artifactPath output name)) =
      t.shape (t.resolve (artifactPath output name)))
    (read : t.read (artifactPath output name) = .ok octets) :
    t'.read (artifactPath output name) = .ok octets := by
  rw [read_eq_ok_iff] at read ⊢
  obtain ⟨place, hl, hs⟩ := read
  obtain rfl := locate_ok hl
  exact ⟨_, (locate_artifactPath valid anchors there there').trans hl, same.trans hs⟩

end FileTree

/-- What stands in the place of an artifact: the octets of the one whose file was opened last, or, if
it never was, nothing or else a directory on the way to the output directory. -/
structure LastGood (files : FileTree) (output : Path) (name : String) (last : Option Artifact) :
    Prop where
  kept : ∀ a, last = some a → files.isDirectory output ∧ ∃ text, a.content = some text ∧
    files.read (artifactPath output name) = .ok text.octets
  absent : last = none → files.shape (files.resolve (artifactPath output name)) = none ∨
    (files.shape (files.resolve (artifactPath output name)) = some none ∧
      files.Passes output (files.resolve (artifactPath output name)))

theorem lastGood_of_vacant {files : FileTree} {output : Path} {name : String}
    (valid : FileName name) (vacant : files.Vacant output) :
    LastGood files output name none := by
  refine ⟨fun a ha => (nomatch ha), fun _ => Or.inl ?_⟩
  have nothing := vacant (Artifact.filenameOf name) []
  rw [resolve_artifactPath valid, FileTree.shape, nothing]
  rfl

/-- Nothing matters but what stands in the place of the artifact. -/
theorem LastGood.of_same {files files' : FileTree} {output : Path} {name : String}
    {last : Option Artifact} (good : LastGood files output name last)
    (valid : FileName name) (anchors : FileTree.SameAnchors files files')
    (reached : files.isDirectory output → files'.isDirectory output)
    (same : files'.shape (files.resolve (artifactPath output name)) =
      files.shape (files.resolve (artifactPath output name))) :
    LastGood files' output name last := by
  refine ⟨fun a ha => ?_, fun hlast => ?_⟩
  · obtain ⟨there, text, content, read⟩ := good.kept a ha
    have there' := reached there
    exact ⟨there', text, content,
      FileTree.read_artifactPath valid anchors there there' same read⟩
  · rw [anchors.resolve, same, anchors.passes]
    exact good.absent hlast

/-- What is not in the output directory does not matter. -/
theorem LastGood.spares {files files' : FileTree} {output : Path} {name : String}
    {last : Option Artifact} (good : LastGood files output name last)
    (valid : FileName name) (spares : files.Spares output files') :
    LastGood files' output name last := by
  refine good.of_same valid spares.anchors spares.reached ?_
  rw [resolve_artifactPath valid]
  exact spares.contents _ []

/-- Storing carries on what holds of each artifact, whether or not it stops. -/
theorem LastGood.written {registry : Registry} (distinct : (registry.map Prod.fst).Nodup)
    (valid : ∀ name ∈ registry.map Prod.fst, FileName name) {files : FileTree} {output : Path}
    (doc : Document) {name : String} (named : FileName name) {last : Option Artifact}
    (good : LastGood files output name last) :
    LastGood (writeArtifacts files (compile registry doc) output).files output name
      ((opened? files output name (compile registry doc)).or last) := by
  cases opened : opened? files output name (compile registry doc) with
  | some a =>
    refine ⟨fun a' ha' => ?_, fun h => nomatch h⟩
    rw [Option.some_or] at ha'
    rw [← Option.some.inj ha']
    exact read_of_opened distinct valid named opened
  | none =>
    rw [Option.none_or]
    have paved : FileTree.Confined (files.Passes output) (fun _ => False) files
        (files.ensureDirectories output).1 := files.confined_ensureDirectories output
    have confined : FileTree.Confined (files.Passes output) (OpensAt registry doc files output) files
        (writeArtifacts files (compile registry doc) output).files :=
      confined_writeArtifacts distinct valid
    have shape := shape_of_unopened distinct valid named opened
    have made := paved.shape_cases (files.resolve (artifactPath output name)) id
    rw [← shape] at made
    rcases made with same | ⟨absent, directory, passes⟩
    · exact good.of_same named confined.anchors
        (FileTree.isDirectory_of_keeps confined.anchors confined.keeps) same
    · refine ⟨fun a ha => ?_, fun _ => ?_⟩
      · -- A file that could be read stood in the place.
        obtain ⟨-, text, -, read⟩ := good.kept a ha
        obtain ⟨place, hl, hfile⟩ := (files.read_eq_ok_iff _ _).mp read
        rw [FileTree.locate_ok hl] at hfile
        rw [hfile] at absent
        cases absent
      · rw [confined.anchors.resolve, confined.anchors.passes]
        exact Or.inr ⟨directory, passes⟩

theorem LastGood.build {w : World} {s : Settings} {name : String}
    (known : name ∈ builtin.map Prod.fst) {last : Option Artifact}
    (good : LastGood w.files s.output name last) (store : Option Handle) :
    LastGood (w.build s store).world.files s.output name ((w.opened? s store name).or last) := by
  cases w.produces_build s store with
  | written doc reads result files =>
    rw [files, World.opened?, World.document?_eq_some_iff.mpr reads, Option.bind_some]
    exact good.written builtin_names_nodup fileName_builtin doc (fileName_builtin _ known)
  | unread unread refused files =>
    rw [files, World.opened?, unread]
    exact good

/-- A build as it was asked for: the world that it found and the store that it was given. -/
structure Attempt where
  world : World
  store : Option Handle

namespace Attempt

variable (b : Attempt) (s : Settings)

def result : Except Problem Report := (b.world.build s b.store).result

def opened? (name : String) : Option Artifact := b.world.opened? s b.store name

/-- The artifact that the build reports as stored under a name. -/
def reported? (name : String) : Option Artifact :=
  (b.result s).toOption.bind fun r => r.stored? name

/-- The build stops at a text that has no octets. -/
def Stops : Prop := ∃ f : Text.EncodingFault, b.result s = .error (.ofFault f)

variable {b s}

/-- Unless a build stops, the files that it opens are those of the artifacts that it reports. -/
theorem opened?_eq_reported? (unstopped : ¬ b.Stops s) (name : String) :
    b.opened? s name = b.reported? s name := by
  rw [opened?, reported?, World.opened?, result]
  cases b.world.produces_build s b.store with
  | unread unread refused files =>
    rw [unread, refused]
    rfl
  | written doc reads result files =>
    rw [World.document?_eq_some_iff.mpr reads, Option.bind_some, result]
    cases written : (writeArtifacts b.world.files (compile builtin doc) s.output).result with
    | ok r => exact opened?_compile builtin_names_nodup fileName_builtin written
    | error p =>
      have comes := result_compile builtin_names_nodup fileName_builtin b.world.files doc
        s.output
      rw [written] at comes
      split at comes
      case isTrue nul =>
        refine opened?_of_unmade fun made => ?_
        rw [FileTree.ensureDirectories_of_hasNul _ nul] at made
        cases made
      case isFalse =>
        split at comes
        case h_1 => cases comes
        case h_2 f stops => exact absurd ⟨f, result.trans (written.trans comes)⟩ unstopped

/-- The text of an artifact that is reported as stored has octets. -/
theorem exists_octets_of_reported? {name : String} {a : Artifact}
    (reported : b.reported? s name = some a) :
    ∃ text octets, a.content = some text ∧ text.encode = .ok octets := by
  obtain ⟨r, built, stored⟩ := Option.bind_eq_some_iff.mp reported
  cases b.world.produces_build s b.store with
  | unread unread refused files =>
    rw [result, refused] at built
    cases built
  | written doc reads result files =>
    rw [Attempt.result, result] at built
    obtain ⟨-, text, content, octets, encoded, -⟩ := read_of_stored builtin_names_nodup
      fileName_builtin (eq_ok_of_toOption built) stored
    exact ⟨text, octets, content, encoded⟩

end Attempt

/-- The artifact for which a build has opened the file of a name last; the latest build comes
first. -/
def lastOpened (s : Settings) (past : List Attempt) (name : String) : Option Artifact :=
  past.findSome? fun b => b.opened? s name

/-- The artifact that was reported as stored under a name last. -/
def lastReported (s : Settings) (past : List Attempt) (name : String) : Option Artifact :=
  past.findSome? fun b => b.reported? s name

/-- A run of builds from a vacant output directory, with all the builds, the latest first. Between
builds the stores, the environment and any files elsewhere may change. -/
inductive Run (s : Settings) : World → List Attempt → Prop
  | start {w : World} (vacant : w.files.Vacant s.output) : Run s w []
  | build {w : World} {past : List Attempt} (run : Run s w past) (store : Option Handle) :
    Run s (w.build s store).world (⟨w, store⟩ :: past)
  | elsewhere {w w' : World} {past : List Attempt} (run : Run s w past)
    (spares : w.files.Spares s.output w'.files) : Run s w' past

theorem lastOpened_cons (s : Settings) (b : Attempt) (past : List Attempt) (name : String) :
    lastOpened s (b :: past) name = (b.opened? s name).or (lastOpened s past name) := by
  rw [lastOpened, List.findSome?_cons]
  cases b.opened? s name <;> rfl

theorem Run.lastGood {s : Settings} {w : World} {past : List Attempt}
    (run : Run s w past) {name : String} (known : name ∈ builtin.map Prod.fst) :
    LastGood w.files s.output name (lastOpened s past name) := by
  have valid := fileName_builtin _ known
  induction run with
  | start vacant => exact lastGood_of_vacant valid vacant
  | build _ store ih =>
    rw [lastOpened_cons]
    exact ih.build known store
  | elsewhere _ spares ih => exact ih.spares valid spares

/-- Unless a build of a run stopped, what was opened last was reported last, and it has octets. -/
theorem lastOpened_eq_lastReported {s : Settings} {past : List Attempt}
    (unstopped : ∀ b ∈ past, ¬ b.Stops s) (name : String) :
    lastOpened s past name = lastReported s past name := by
  rw [lastOpened, lastReported]
  induction past with
  | nil => rfl
  | cons b past ih =>
    obtain ⟨here, before⟩ := List.forall_mem_cons.mp unstopped
    rw [List.findSome?_cons, List.findSome?_cons, Attempt.opened?_eq_reported? here, ih before]

theorem FileTree.contains_eq_true_iff (t : FileTree) (path : Path) :
    t.contains path = .ok true ↔ t.isFile path ∨ t.isDirectory path := by
  rw [contains, isFile, isDirectory]
  cases t.stat path with
  | ok n => cases n <;> simp [Node.isFile]
  | error cause => cases cause <;> simp

theorem FileTree.isFile_iff (t : FileTree) (path : Path) :
    t.isFile path ↔ ∃ octets, t.read path = .ok octets := by
  rw [isFile, read]
  cases t.stat path with
  | ok n => cases n <;> simp [Node.isFile]
  | error cause => simp

/-- The path of a style sheet is given if anything stands there. -/
theorem World.themePath_iff (w : World) {framework name : String} (output p : Path)
    (known : stylesheet framework = .ok name) :
    (w.themePath framework (some output)).result = .ok (some p) ↔
      p = artifactPath output name ∧ (w.files.isFile p ∨ w.files.isDirectory p) := by
  have path : output ++ Path.ofString (Artifact.filenameOf name) = artifactPath output name := rfl
  have shown := w.files.contains_eq_true_iff (artifactPath output name)
  simp only [themePath, known, themePathIn, path]
  rcases hc : w.files.contains (artifactPath output name) with e | there
  · rw [hc] at shown
    refine ⟨fun h => (nomatch h), fun ⟨hp, there⟩ => ?_⟩
    rw [hp, ← shown] at there
    cases there
  · rw [hc] at shown
    cases there with
    | false =>
      refine ⟨fun h => (nomatch h), fun ⟨hp, there⟩ => ?_⟩
      rw [hp, ← shown] at there
      cases there
    | true =>
      refine ⟨fun h => ?_, fun ⟨hp, _⟩ => by rw [hp]⟩
      have hp : p = artifactPath output name := (Option.some.inj (Except.ok.inj h)).symm
      exact ⟨hp, hp ▸ shown.mp rfl⟩

/-- What holds after every step of a run: the file of each artifact holds what it was opened for
last, which is the text that was reported as stored last unless some build stopped; a build that
cannot read its document changes nothing; and the path of a style sheet is given just if its file has
been opened or a directory on the way to the output directory stands in its place. -/
structure StaysGood (s : Settings) (w : World) (past : List Attempt) : Prop where
  outputs : ∀ name ∈ builtin.map Prod.fst, LastGood w.files s.output name (lastOpened s past name)
  reported : (∀ b ∈ past, ¬ b.Stops s) → ∀ name ∈ builtin.map Prod.fst,
    lastOpened s past name = lastReported s past name ∧
      ∀ a, lastReported s past name = some a → ∃ text, a.content = some text ∧
        w.files.Holds (artifactPath s.output name) text
  refused : ∀ store e, (w.build s store).result = .error (.load e) →
    (w.build s store).world.files = w.files
  shown : ∀ framework name p, stylesheet framework = .ok name →
    ((w.themePath framework (some s.output)).result = .ok (some p) ↔
      p = artifactPath s.output name ∧ ((lastOpened s past name).isSome ∨
        (w.files.isDirectory p ∧ w.files.Passes s.output (w.files.resolve p))))

theorem stylesheet_mem {framework name : String} (known : stylesheet framework = .ok name) :
    name ∈ builtin.map Prod.fst := by
  rw [stylesheet] at known
  split at known
  · rename_i listed
    rw [← Except.ok.inj known]
    have names : ∀ n ∈ stylesheets, n ∈ builtin.map Prod.fst := by decide
    exact names _ (List.contains_iff_mem.mp listed)
  · cases known

theorem LastGood.stands_iff {files : FileTree} {output : Path} {name : String}
    {last : Option Artifact} (good : LastGood files output name last) :
    (files.isFile (artifactPath output name) ∨ files.isDirectory (artifactPath output name)) ↔
      (last.isSome ∨ (files.isDirectory (artifactPath output name) ∧
        files.Passes output (files.resolve (artifactPath output name)))) := by
  cases last with
  | some a =>
    obtain ⟨-, text, -, read⟩ := good.kept a rfl
    have isFile := (files.isFile_iff _).mpr ⟨_, read⟩
    exact ⟨fun _ => Or.inl rfl, fun _ => Or.inl isFile⟩
  | none =>
    refine ⟨fun stands => ?_, fun h => ?_⟩
    · rcases stands with isFile | there
      · -- Only octets that were stored make a file.
        obtain ⟨octets, read⟩ := (files.isFile_iff _).mp isFile
        obtain ⟨place, hl, hs⟩ := (files.read_eq_ok_iff _ _).mp read
        rw [FileTree.locate_ok hl] at hs
        rcases good.absent rfl with nothing | ⟨directory, -⟩
        · rw [nothing] at hs
          cases hs
        · rw [directory] at hs
          cases hs
      · obtain ⟨place, hl, hs⟩ := (files.isDirectory_iff _).mp there
        rw [FileTree.locate_ok hl] at hs
        rcases good.absent rfl with nothing | ⟨-, passes⟩
        · rw [nothing] at hs
          cases hs
        · exact Or.inr ⟨there, passes⟩
    · rcases h with stored | ⟨there, -⟩
      · cases stored
      · exact Or.inr there

/-- A build that cannot read its document changes no file and makes no directory. -/
theorem World.files_of_load_error {w : World} {s : Settings} {store : Option Handle} {e : LoadError}
    (failed : (w.build s store).result = .error (.load e)) :
    (w.build s store).world.files = w.files := by
  cases w.produces_build s store with
  | unread unread refused files => exact files
  | written doc reads result files =>
    have comes := result_compile builtin_names_nodup fileName_builtin w.files doc
      s.output
    rw [← result, failed] at comes
    split at comes
    case isTrue => cases comes
    case isFalse => split at comes <;> cases comes

/-- After every step of a run the outputs are the last good ones. -/
theorem outputs_stay_good {s : Settings} {w : World} {past : List Attempt}
    (run : Run s w past) : StaysGood s w past where
  outputs name known := run.lastGood known
  reported unstopped name known := by
    have same := lastOpened_eq_lastReported unstopped name
    refine ⟨same, fun a last => ?_⟩
    obtain ⟨b, -, reported⟩ := List.exists_of_findSome?_eq_some last
    obtain ⟨text, octets, content, encoded⟩ := Attempt.exists_octets_of_reported? reported
    obtain ⟨-, text', content', read⟩ := (run.lastGood known).kept a (same.trans last)
    obtain rfl : text = text' := Option.some.inj (content.symm.trans content')
    rw [Text.octets_of_encode encoded] at read
    exact ⟨text, content, octets, encoded, read⟩
  refused store e failed := World.files_of_load_error failed
  shown framework name p known := by
    have stands := (run.lastGood (stylesheet_mem known)).stands_iff
    rw [w.themePath_iff s.output p known]
    refine and_congr_right fun hp => ?_
    rw [hp]
    exact stands

/-- A world whose only file is a document. -/
def World.unbuilt (text : String) : World :=
  ⟨⟨[(["tokens.json"], .file (Text.Utf8.encode text.toList) 1)], [], [], 1⟩, [], Shelf.empty⟩

/-- The document is saved with another text. -/
def World.save (w : World) (text : String) : World :=
  { w with files := (w.files.write Settings.nearby.tokens (Text.Utf8.encode text.toList)).1 }

theorem World.spares_save (w : World) (text : String) :
    w.files.Spares Settings.nearby.output (w.save text).files := by
  refine FileTree.spares_write (fun name rest same => ?_) _
  have output : w.files.resolve Settings.nearby.output = w.files.working ++ ["out"] := rfl
  have tokens : w.files.resolve Settings.nearby.tokens = w.files.working ++ ["tokens.json"] := rfl
  rw [output, tokens, List.append_assoc] at same
  have names := List.append_cancel_left same
  simp at names

/-- A document of which only the base style sheet can be made, if the token can be. -/
def bordered (token : String) : String :=
  "\x7b\"a\": " ++ token ++
    ", \"components\": \x7b\"blockquote\": \x7b\"borderWidth\": \x7b\x7d\x7d\x7d\x7d"

namespace Attempt

def after (b : Attempt) (s : Settings) : World := (b.world.build s b.store).world

/-- A build in a fresh world. -/
def first : Attempt := ⟨.unbuilt (bordered "1"), none⟩

/-- The next build, when the document has been saved with another text. -/
def next (b : Attempt) (text : String) : Attempt := ⟨(b.after .nearby).save text, none⟩

end Attempt

theorem run_first : Run .nearby (Attempt.first.after .nearby) [.first] :=
  (Run.start fun _ _ => rfl).build none

theorem Run.next {b : Attempt} {past : List Attempt} (run : Run .nearby (b.after .nearby) (b :: past))
    (text : String) : Run .nearby ((b.next text).after .nearby) (b.next text :: b :: past) :=
  (run.elsewhere (World.spares_save _ text)).build none

/-- The base style sheet of the first build outlasts the second one, which cannot make it. -/
theorem outputs_stay_good_spoiled :
    let second := Attempt.first.next (bordered "[]")
    second.reported? .nearby "base" = none ∧
      (lastReported .nearby [second, .first] "base").isSome ∧
      StaysGood .nearby (second.after .nearby) [second, .first] := by
  have stored : (Attempt.first.next (bordered "[]")).reported? .nearby "base" = none ∧
      (lastReported .nearby [Attempt.first.next (bordered "[]"), .first] "base").isSome := by
    decide +kernel
  exact ⟨stored.1, stored.2, outputs_stay_good (run_first.next _)⟩

/-- A text without octets is not reported as stored, but it empties the file of the one that was. -/
theorem sheet_emptied_by_surrogate :
    let second := Attempt.first.next (bordered "\"\\ud800\"")
    Run .nearby (second.after .nearby) [second, .first] ∧
      (lastReported .nearby [second, .first] "base").isSome ∧
      second.reported? .nearby "base" = none ∧
      (second.after .nearby).files.read (artifactPath Settings.nearby.output "base") = .ok [] := by
  refine ⟨run_first.next _, ?_⟩
  decide +kernel

/-- Settings with an output directory whose path goes through the place of a style sheet. -/
def Settings.throughSheet : Settings :=
  ⟨⟨.working, ["tokens.json"]⟩, ⟨.working, ["o", "base.css", ".."]⟩, Settings.defaultInterval⟩

/-- The path of a style sheet that was never stored can be given. -/
theorem directory_shown_for_sheet : ∃ w past, Run Settings.throughSheet w past ∧
    lastReported .throughSheet past "base" = none ∧
    (w.themePath "base" (some Settings.throughSheet.output)).result =
      .ok (some (artifactPath Settings.throughSheet.output "base")) := by
  have vacant : (World.unbuilt (bordered "1")).files.Vacant Settings.throughSheet.output :=
    fun _ _ => rfl
  refine ⟨_, _, (Run.start vacant).build none, ?_, ?_⟩
  · decide +kernel
  · exact (World.themePath_iff _ _ _ rfl).mpr ⟨rfl, Or.inr (by decide +kernel)⟩

end DesignTokens
