import DesignTokens.Watch
import DesignTokens.Proofs.Reports
import DesignTokens.Proofs.Standing
import DesignTokens.Proofs.Utf8

/-!
# Files that a build leaves alone

A build opens the files of artifacts and makes directories. Any other file is left alone, with its
time, whatever the paths of the document and of the output directory are: whoever reads it or watches
it cannot tell that there was a build. Nothing keeps a document from being in the place of an artifact,
and then the artifact replaces it, or empties it if its text has no octets.
-/

namespace DesignTokens

namespace FileTree

variable {t t' : FileTree}

/-- A file in whose place nothing is stored can be read as before. -/
theorem Confined.read {way stored : Place → Prop} (confined : Confined way stored t t')
    {path : Path} {octets : List UInt8} (there : t.read path = .ok octets)
    (free : ¬ stored (t.resolve path)) : t'.read path = .ok octets := by
  obtain ⟨place, located, file⟩ := (t.read_eq_ok_iff path octets).mp there
  obtain rfl := locate_ok located
  refine (t'.read_eq_ok_iff path octets).mpr
    ⟨_, locate_of_keeps confined.anchors confined.keeps located, ?_⟩
  rcases confined.shape_cases _ free with same | ⟨absent, -, -⟩
  · rw [same, file]
  · rw [file] at absent
    cases absent

end FileTree

namespace World

variable (w : World) (s : Settings) (store : Option Handle)

/-- A build changes the places of the files that it opens, and makes directories on the way to the
output directory. -/
theorem confined_build : FileTree.Confined (w.files.Passes s.output) (w.OpensAt s store) w.files
    (w.build s store).world.files := by
  cases w.produces_build s store with
  | unread unread refused files =>
    rw [files]
    exact FileTree.confined_refl _
  | written doc reads result files =>
    rw [files]
    refine (confined_writeArtifacts builtin_names_nodup fileName_builtin).mono
      (fun _ passes => passes) ?_
    rintro q ⟨name, known, opened, here⟩
    refine ⟨name, known, ?_, here⟩
    rwa [opened?, document?_eq_some_iff.mpr reads, Option.bind_some]

/-- Where a file was opened there are the octets of the text that it was opened for. -/
theorem shape_of_opened {name : String} (known : name ∈ builtin.map Prod.fst) {a : Artifact}
    (opened : w.opened? s store name = some a) :
    ∃ text, a.content = some text ∧
      (w.build s store).world.files.shape (w.files.resolve (artifactPath s.output name)) =
        some (some text.octets) := by
  have anchors := (w.confined_build s store).anchors
  cases w.produces_build s store with
  | unread unread refused _ =>
    rw [opened?, unread] at opened
    cases opened
  | written doc reads result files =>
    rw [opened?, document?_eq_some_iff.mpr reads, Option.bind_some] at opened
    obtain ⟨-, text, content, read⟩ := read_of_opened builtin_names_nodup fileName_builtin
      (fileName_builtin _ known) opened
    rw [← files] at read
    obtain ⟨place, located, there⟩ := (FileTree.read_eq_ok_iff _ _ _).mp read
    refine ⟨text, content, ?_⟩
    rw [← anchors.resolve, ← FileTree.locate_ok located]
    exact there

end World

/-- A file that is left alone: it reads and loads as before, it has the time that it had, and no
watcher can tell a difference. -/
structure World.Leaves (w w' : World) (path : Path) : Prop where
  read : w'.files.read path = w.files.read path
  modified : w'.files.modified? path = w.files.modified? path
  load : w'.files.load path = w.files.load path
  quiet : ∀ watcher : Watcher, watcher.path = path →
    watcher.changed w'.files = watcher.changed w.files

theorem World.leaves_of_view {w w' : World} {path : Path} {octets : List UInt8}
    (read : w.files.read path = .ok octets)
    (same : w'.files.view path = w.files.view path) : w.Leaves w' path := by
  have read' : w'.files.read path = .ok octets := by
    refine eq_ok_of_toOption ?_
    rw [FileTree.read_toOption, same, ← FileTree.read_toOption, read]
    rfl
  have modified : w'.files.modified? path = w.files.modified? path := by
    rw [FileTree.modified?_eq, FileTree.modified?_eq, same]
  refine ⟨read'.trans read.symm, modified, ?_, ?_⟩
  · rw [FileTree.load, FileTree.load, read', read]
  · rintro watcher rfl
    rw [Watcher.changed, Watcher.changed, modified]

/-- A file in the place of an artifact whose file is opened holds its octets afterwards. -/
theorem World.read_of_opens {w : World} {s : Settings} {store : Option Handle} {path : Path}
    {octets : List UInt8} (there : w.files.read path = .ok octets) {name : String}
    (known : name ∈ builtin.map Prod.fst) {a : Artifact} (opened : w.opened? s store name = some a)
    (same : w.files.resolve path = w.files.resolve (artifactPath s.output name)) :
    ∃ text, a.content = some text ∧
      (w.build s store).world.files.read path = .ok text.octets := by
  have confined := w.confined_build s store
  obtain ⟨place, located, -⟩ := (w.files.read_eq_ok_iff path octets).mp there
  obtain rfl := FileTree.locate_ok located
  obtain ⟨text, content, shape⟩ := w.shape_of_opened s store known opened
  refine ⟨text, content, (FileTree.read_eq_ok_iff _ _ _).mpr ⟨_, ?_, same ▸ shape⟩⟩
  exact FileTree.locate_of_keeps confined.anchors confined.keeps located

/-- A build leaves every file alone but those that it opens for artifacts. These hold the octets of
the texts of the artifacts afterwards, or nothing if a text has none. -/
theorem build_replaces_only_outputs (w : World) (s : Settings) (store : Option Handle)
    {path : Path} {octets : List UInt8} (standing : w.files.Standing)
    (there : w.files.read path = .ok octets) :
    (¬ w.OpensAt s store (w.files.resolve path) → w.Leaves (w.build s store).world path) ∧
      ∀ name ∈ builtin.map Prod.fst, ∀ a, w.opened? s store name = some a →
        w.files.resolve path = w.files.resolve (artifactPath s.output name) →
        ∃ text, a.content = some text ∧
          (w.build s store).world.files.read path = .ok text.octets := by
  constructor
  · intro free
    have confined := w.confined_build s store
    obtain ⟨place, located, file⟩ := (w.files.read_eq_ok_iff path octets).mp there
    obtain rfl := FileTree.locate_ok located
    obtain ⟨n, hn, ho⟩ := Option.map_eq_some_iff.mp file
    cases n with
    | directory time => cases ho
    | file octets' time =>
      have same := confined.node?_of_file (FileTree.lasting_standing.build standing s store) hn free
      have shown := (w.files.view_eq_some_iff path _).mpr ⟨_, located, hn⟩
      refine World.leaves_of_view there ?_
      rw [FileTree.view_of_same confined.anchors confined.keeps shown same, shown]
  · intro name known a opened same
    exact World.read_of_opens there known opened same

/-- A document in the output directory. -/
def Settings.nested (name : String) : Settings :=
  ⟨⟨.working, ["o", name]⟩, ⟨.working, ["o"]⟩, defaultInterval⟩

def World.nested (name : String) : World :=
  ⟨⟨[([], .directory 1), (["o"], .directory 2),
    (["o", name], .file (Text.Utf8.encode "\x7b\"a\": 1\x7d".toList) 2)], [], [], 2⟩, [], .empty⟩

theorem World.standing_nested : (World.nested "tokens.json").files.Standing := by
  have made : (World.nested "tokens.json").files =
      ((FileTree.bare.makeDirectory ⟨.working, ["o"]⟩).1.write
        ⟨.working, ["o", "tokens.json"]⟩ (Text.Utf8.encode "\x7b\"a\": 1\x7d".toList)).1 := by
    rfl
  rw [made]
  exact (FileTree.standing_bare.makeDirectory _).write _ _

/-- A document next to the artifacts is left alone. -/
theorem build_replaces_only_outputs_nested :
    (World.nested "tokens.json").files.Standing ∧
      (World.nested "tokens.json").files.read (Settings.nested "tokens.json").tokens =
        .ok (Text.Utf8.encode "\x7b\"a\": 1\x7d".toList) ∧
      (World.nested "tokens.json").Leaves
        ((World.nested "tokens.json").build (Settings.nested "tokens.json") none).world
        (Settings.nested "tokens.json").tokens := by
  have standing := World.standing_nested
  have there : (World.nested "tokens.json").files.read (Settings.nested "tokens.json").tokens =
      .ok (Text.Utf8.encode "\x7b\"a\": 1\x7d".toList) := rfl
  have apart : ∀ name ∈ builtin.map Prod.fst,
      (World.nested "tokens.json").files.resolve
          (artifactPath (Settings.nested "tokens.json").output name) ≠
        (World.nested "tokens.json").files.resolve (Settings.nested "tokens.json").tokens := by
    decide +kernel
  refine ⟨standing, there, (build_replaces_only_outputs _ _ none standing there).1 ?_⟩
  rintro ⟨name, known, -, same⟩
  exact apart name known same

/-- A document in the place of an artifact is lost. -/
theorem artifact_replaces_document :
    ((World.nested "base.css").files.load (Settings.nested "base.css").tokens).isOk = true ∧
      ((World.nested "base.css").build (Settings.nested "base.css") none).world.files.read
          (Settings.nested "base.css").tokens ≠
        (World.nested "base.css").files.read (Settings.nested "base.css").tokens := by
  have other : (((World.nested "base.css").opened? (Settings.nested "base.css") none "base").bind
      Artifact.content).map Text.octets ≠ some (Text.Utf8.encode "\x7b\"a\": 1\x7d".toList) := by
    decide +kernel
  have opened : (((World.nested "base.css").opened? (Settings.nested "base.css") none "base").bind
      Artifact.content).isSome := by
    decide +kernel
  have there : (World.nested "base.css").files.read (Settings.nested "base.css").tokens =
      .ok (Text.Utf8.encode "\x7b\"a\": 1\x7d".toList) := rfl
  obtain ⟨text, content⟩ := Option.isSome_iff_exists.mp opened
  obtain ⟨a, opened, content'⟩ := Option.bind_eq_some_iff.mp content
  obtain ⟨text', content'', read⟩ := World.read_of_opens there (by decide) opened rfl
  obtain rfl : text' = text := Option.some.inj (content''.symm.trans content')
  refine ⟨by decide +kernel, fun same => other ?_⟩
  rw [read, there] at same
  rw [content, Option.map_some, Except.ok.inj same]

end DesignTokens
