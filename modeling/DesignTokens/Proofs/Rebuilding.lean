import DesignTokens.Proofs.BlockedPaths
import DesignTokens.Proofs.Documents
import DesignTokens.Proofs.SparedFiles

/-!
# Building again

The second build of a document finds the files as the first one left them. What could be stored is
stored again with the same text, and what was refused is refused again. Only a directory that was
refused for a path above it, which would have had to be made first, is refused for its own path the
next time.
-/

namespace DesignTokens

namespace FileTree

variable {t t' : FileTree} {stored : Place → Prop}

/-- Storing files neither makes nor removes directories. -/
theorem Confined.directory_iff (confined : Confined (fun _ => False) stored t t') (q : Place) :
    t'.shape q = some none ↔ t.shape q = some none := by
  refine ⟨fun there => ?_, confined.keeps q⟩
  cases confined.change q with
  | same same => rw [← shape_of_same same, there]
  | made onWay _ _ => exact onWay.elim
  | stored _ _ octets after =>
    rw [there] at after
    cases after
  | stamped same => rw [← same, there]

/-- Where files have been stored since, a file in a directory is refused just as before. -/
theorem refusal_of_confined (confined : Confined (fun _ => False) stored t t') {output : Path}
    (there : t.isDirectory output) {name : String} (valid : FileName name) (octets : List UInt8) :
    (t'.write (artifactPath output name) octets).2 =
      (t.write (artifactPath output name) octets).2 := by
  have there' := isDirectory_of_keeps confined.anchors confined.keeps there
  rw [refusal_write, refusal_write, locate_artifactPath valid confined.anchors there there']
  simp only [confined.directory_iff]

/-- A place has its node and time still, if no file is stored there and nothing is new. -/
theorem Confined.node?_of_shapes (confined : Confined (fun _ => False) stored t t')
    (shapes : ∀ q, t'.shape q = t.shape q) {q : Place} (free : ¬ stored q) :
    t'.node? q = t.node? q := by
  cases confined.change q with
  | same same => exact same
  | made onWay _ _ => exact onWay.elim
  | stored here _ _ _ => exact absurd here free
  | stamped _ below _ before after => exact absurd ((shapes below).trans before) after

end FileTree

theorem Writing.files_add_denied (e : ThemeError) (w : Writing) (a : Artifact) :
    (w.add (some e) a).files = w.files := by
  cases given : w.givenUp with
  | true => rw [add_givenUp a given]
  | false =>
    cases success : a.success with
    | false =>
      rw [add_failed given success]
      rfl
    | true =>
      rw [add_denied given success]
      rfl

/-- Nothing is stored without the output directory. -/
theorem files_of_denied {files : FileTree} {output : Path} {e : FileError}
    (denied : (files.ensureDirectories output).2 = some e) (c : Compilation) :
    (writeArtifacts files c output).files = (files.ensureDirectories output).1 := by
  have denial : Writing.denial files output = some (directoryError output e) := by
    rw [Writing.denial, denied]
    rfl
  rw [writeArtifacts_eq_foldl, denial, ← (writeArtifacts_nil files output).1]
  generalize writeArtifacts files [] output = w
  induction c generalizing w with
  | nil => rfl
  | cons a rest ih => rw [List.foldl_cons, ih, Writing.files_add_denied]

/-- Nothing but the times of files of a report has changed. -/
structure Report.Renews (r : Report) (t t' : FileTree) : Prop where
  anchors : FileTree.SameAnchors t t'
  shape : ∀ q, t'.shape q = t.shape q
  node : ∀ q, ¬ r.StoresAt t q → t'.node? q = t.node? q

theorem Report.renews_refl (r : Report) (t : FileTree) : r.Renews t t :=
  ⟨FileTree.sameAnchors_refl t, fun _ => rfl, fun _ _ => rfl⟩

theorem Report.Renews.trans {r : Report} {t t' t'' : FileTree} (first : r.Renews t t')
    (later : r.Renews t' t'') : r.Renews t t'' := by
  refine ⟨first.anchors.trans later.anchors, ?_, ?_⟩
  · intro q
    rw [later.shape, first.shape]
  · intro q free
    have free' : ¬ r.StoresAt t' q := by
      rintro ⟨a, ha, success, here⟩
      exact free ⟨a, ha, success, (first.anchors.resolve _).symm.trans here⟩
    rw [later.node q free', first.node q free]

/-- The report on artifacts of which those that are no failures were stored. -/
def Report.telling (output : Path) (artifacts : List Artifact) : Report :=
  ⟨output, artifacts, (artifacts.filter Artifact.success).map fun b => (b.name, b.pathIn output)⟩

/-- A tree in which artifacts have been stored: their directory is refused for good, or it is there
and so is every text that can be stored. -/
inductive Settled (t : FileTree) (c : Compilation) (output : Path) : Prop
  | blocked {cause : FileCause} (blocked : t.Blocked output cause)
  | stored (there : t.isDirectory output)
    (kept : ∀ a ∈ c, (a.verdictIn t output).success →
      t.shape (t.resolve (a.pathIn output)) = some (some a.octets))

section
variable {registry : Registry} (distinct : (registry.map Prod.fst).Nodup)
  (valid : ∀ name ∈ registry.map Prod.fst, FileName name) {files : FileTree} {doc : Document}
  {output : Path}

include distinct valid

/-- Artifacts that are stored with equal success do not stop either. -/
theorem result_of_alike {files' : FileTree} {r : Report}
    (reported : (writeArtifacts files (compile registry doc) output).result = .ok r)
    (alike : ∀ a ∈ compile registry doc,
      (a.verdictIn files' output).success = (a.verdictIn files output).success) :
    (writeArtifacts files' (compile registry doc) output).result =
      .ok (writeArtifacts files' (compile registry doc) output).report := by
  obtain ⟨named, unstopped⟩ := unstopped_of_reported distinct valid files doc reported
  refine result_of_going (going_compile distinct valid files' doc named ?_)
  rw [List.findSome?_eq_none_iff] at unstopped ⊢
  intro a ha
  have stops : a.stopsIn? files' output = a.stopsIn? files output := by
    have same := alike a ha
    rw [Artifact.verdictIn, Artifact.verdictIn] at same
    rw [Artifact.stopsIn?, Artifact.stopsIn?, Artifact.stops?, Artifact.stops?, same]
  rw [stops]
  exact unstopped a ha

variable {r : Report}
  (reported : (writeArtifacts files (compile registry doc) output).result = .ok r)

include reported

omit distinct in
/-- Once the directory was there, the artifacts have the same verdicts again. -/
theorem verdictIn_again (made : (files.ensureDirectories output).2 = none) {a : Artifact}
    (ha : a ∈ compile registry doc) :
    a.verdictIn (writeArtifacts files (compile registry doc) output).files output =
      a.verdictIn files output := by
  have confined := (writeArtifacts_frame reported).confined
  have there := FileTree.isDirectory_ensureDirectories made
  have again := FileTree.ensureDirectories_of_isDirectory
    (FileTree.isDirectory_of_keeps confined.anchors confined.keeps there)
  rw [Artifact.verdictIn, Artifact.verdictIn, Writing.denial, Writing.denial, again, made]
  refine Artifact.verdict_congr fun _ => ?_
  rw [a.pathIn_eq]
  exact FileTree.refusal_of_confined confined there (valid _ (name_of_mem_compile ha)) a.octets

/-- A text that was stored is in the place of its artifact. -/
theorem shape_of_recorded {b : Artifact}
    (recorded : b ∈ (writeArtifacts files (compile registry doc) output).report.artifacts)
    (success : b.success) :
    (writeArtifacts files (compile registry doc) output).files.shape
      ((writeArtifacts files (compile registry doc) output).files.resolve (b.pathIn output)) =
        some (some b.octets) := by
  obtain ⟨-, sound⟩ := writeArtifacts_sound (apart_compile distinct valid files output doc) reported
  obtain ⟨place, located, file⟩ :=
    (FileTree.read_eq_ok_iff _ _ _).mp (sound.stored b recorded success).read
  rw [← FileTree.locate_ok located]
  exact file

theorem settled_writeArtifacts :
    Settled (writeArtifacts files (compile registry doc) output).files (compile registry doc)
      output := by
  cases hd : (files.ensureDirectories output).2 with
  | some e =>
    rw [files_of_denied hd]
    obtain ⟨cause, blocked, -⟩ := FileTree.blocked_of_ensureDirectories hd
    exact .blocked blocked
  | none =>
    have confined := (writeArtifacts_frame reported).confined
    have there := FileTree.isDirectory_ensureDirectories hd
    refine .stored (FileTree.isDirectory_of_keeps confined.anchors confined.keeps there) ?_
    intro a ha success
    rw [verdictIn_again valid reported hd ha] at success
    have same : a.verdictIn files output = a := Artifact.verdictIn_of_success success
    have recorded := List.mem_map_of_mem (f := Artifact.verdictIn files output) ha
    rw [same] at success
    rw [same, ← artifacts_writeArtifacts distinct valid files doc (going_of_reported reported)]
      at recorded
    exact shape_of_recorded distinct valid reported recorded success

theorem report_writeArtifacts :
    r = .telling output ((compile registry doc).map (Artifact.verdictIn files output)) := by
  have listed := artifacts_writeArtifacts distinct valid files doc (going_of_reported reported)
  have directory := (writeArtifacts_frame reported).directory
  obtain ⟨given, sound⟩ :=
    writeArtifacts_sound (apart_compile distinct valid files output doc) reported
  have paths := sound.paths
  rw [← given] at listed directory paths
  obtain ⟨output', artifacts, stored⟩ := r
  dsimp only at listed directory paths
  rw [Report.telling, ← listed, directory, paths]

/-- In a settled tree everything stays: only files that are stored again have another time. -/
theorem Settled.rests (settled : Settled files (compile registry doc) output) :
    r.Renews files (writeArtifacts files (compile registry doc) output).files ∧
      ∀ a ∈ compile registry doc,
        a.verdictIn (writeArtifacts files (compile registry doc) output).files output =
          a.verdictIn files output := by
  cases settled with
  | blocked blocked =>
    have refused := blocked.ensureDirectories
    have same : (writeArtifacts files (compile registry doc) output).files = files := by
      rw [files_of_denied (congrArg Prod.snd refused), refused]
    rw [same]
    exact ⟨Report.renews_refl _ files, fun _ _ => rfl⟩
  | stored there kept =>
    have made := FileTree.ensureDirectories_of_isDirectory there
    have frame := writeArtifacts_frame reported
    have given :=
      (writeArtifacts_sound (apart_compile distinct valid files output doc) reported).1
    rw [made] at frame
    have shapes : ∀ q,
        (writeArtifacts files (compile registry doc) output).files.shape q = files.shape q := by
      intro q
      by_cases here : (writeArtifacts files (compile registry doc) output).report.StoresAt files q
      · -- The text that was stored again is the one that was there.
        obtain ⟨b, recorded, success, rfl⟩ := here
        have listed := recorded
        rw [artifacts_writeArtifacts distinct valid files doc (going_of_reported reported)]
          at listed
        obtain ⟨a, ha, rfl⟩ := List.mem_map.mp listed
        have same : a.verdictIn files output = a := Artifact.verdictIn_of_success success
        have before := kept a ha success
        have after := shape_of_recorded distinct valid reported recorded success
        rw [frame.confined.anchors.resolve, same] at after
        rw [frame.directory, same, after, before]
      · exact frame.others here
    rw [given]
    refine ⟨⟨frame.confined.anchors, shapes, ?_⟩, ?_⟩
    · intro q free
      exact frame.confined.node?_of_shapes shapes free
    · intro a ha
      exact verdictIn_again valid reported (congrArg Prod.snd made) ha

/-- A build of a settled tree reports the same as the build before. -/
theorem Settled.result_again (settled : Settled files (compile registry doc) output) :
    (writeArtifacts (writeArtifacts files (compile registry doc) output).files
        (compile registry doc) output).result = .ok r := by
  obtain ⟨-, verdicts⟩ := settled.rests distinct valid reported
  have again := result_of_alike distinct valid reported fun a ha =>
    congrArg Artifact.success (verdicts a ha)
  rw [again, report_writeArtifacts distinct valid again,
    report_writeArtifacts distinct valid reported]
  exact congrArg (Except.ok ∘ Report.telling output) (List.map_congr_left verdicts)

end

/-- How later builds tell of an artifact that a build has told of: alike, unless it was the refusal of
a path above the output directory that kept it from being stored. Then the output directory is
refused itself. -/
inductive Artifact.Retold (output : Path) (refusal : Option FileError) : Artifact → Artifact → Prop
  | same (a : Artifact) : Retold output refusal a a
  | denied (a : Artifact) {e : FileError} {cause : FileCause} (first : refusal = some e)
    (above : e.path.Above output) (later : cause = .notDirectory ∨ cause = .nameTooLong) :
    Retold output refusal (a.unstored (directoryError output e))
      (a.unstored (directoryError output ⟨cause, output⟩))

/-- What becomes of a report when its build is repeated. -/
structure Report.Repeats (r : Report) (files : FileTree) (r' : Report) : Prop where
  output : r'.output = r.output
  paths : r'.paths = r.paths
  artifacts : List.Forall₂ (Artifact.Retold r.output (files.ensureDirectories r.output).2)
    r.artifacts r'.artifacts
  equal : (∀ e, (files.ensureDirectories r.output).2 = some e → ¬ e.path.Above r.output) → r' = r

theorem Report.paths_of_retold {output : Path} {refusal : Option FileError}
    {artifacts artifacts' : List Artifact}
    (retold : List.Forall₂ (Artifact.Retold output refusal) artifacts artifacts') :
    (telling output artifacts').paths = (telling output artifacts).paths := by
  rw [telling, telling]
  dsimp only
  induction retold with
  | nil => rfl
  | @cons b _ _ _ first _ ih =>
    cases first with
    | same =>
      rw [List.filter_cons, List.filter_cons]
      cases b.success with
      | true => exact congrArg (_ :: ·) ih
      | false => exact ih
    | denied a _ _ _ =>
      have failed (e : ThemeError) : (a.unstored e).success = false := rfl
      rw [List.filter_cons_of_neg (by simp [failed]), List.filter_cons_of_neg (by simp [failed]), ih]

theorem Artifact.Retold.success {output : Path} {refusal : Option FileError} {a b : Artifact}
    (retold : Artifact.Retold output refusal a b) : b.success = a.success := by
  cases retold <;> rfl

section
variable {registry : Registry} (distinct : (registry.map Prod.fst).Nodup)
  (valid : ∀ name ∈ registry.map Prod.fst, FileName name) {files : FileTree} {doc : Document}
  {output : Path} {r : Report}
  (reported : (writeArtifacts files (compile registry doc) output).result = .ok r)

include valid reported

/-- A verdict is the same for the tree that the build has left, up to a refusal above. -/
theorem retold_again {a : Artifact} (ha : a ∈ compile registry doc) :
    Artifact.Retold output (files.ensureDirectories output).2 (a.verdictIn files output)
        (a.verdictIn (writeArtifacts files (compile registry doc) output).files output) ∧
      ((∀ e, (files.ensureDirectories output).2 = some e → ¬ e.path.Above output) →
        a.verdictIn (writeArtifacts files (compile registry doc) output).files output =
          a.verdictIn files output) := by
  cases hd : (files.ensureDirectories output).2 with
  | none =>
    rw [verdictIn_again valid reported hd ha]
    exact ⟨.same _, fun _ => rfl⟩
  | some e =>
    obtain ⟨cause, blocked, told⟩ := FileTree.blocked_of_ensureDirectories hd
    have denial : Writing.denial files output = some (directoryError output e) := by
      rw [Writing.denial, hd]
      rfl
    have denial' : Writing.denial (writeArtifacts files (compile registry doc) output).files output =
        some (directoryError output ⟨cause, output⟩) := by
      rw [Writing.denial, files_of_denied hd, blocked.ensureDirectories]
      rfl
    rw [Artifact.verdictIn, Artifact.verdictIn, denial, denial']
    cases success : a.success with
    | false =>
      rw [Artifact.verdict_of_failure success, Artifact.verdict_of_failure success]
      exact ⟨.same _, fun _ => rfl⟩
    | true =>
      rw [Artifact.verdict_of_denied success, Artifact.verdict_of_denied success]
      rcases told with rfl | ⟨above, known⟩
      · exact ⟨.same _, fun _ => rfl⟩
      · exact ⟨.denied a rfl above known, fun own => absurd above (own e rfl)⟩

include distinct

/-- There is a next report, and it repeats the one that was given. -/
theorem repeats_again : ∃ r',
    (writeArtifacts (writeArtifacts files (compile registry doc) output).files
      (compile registry doc) output).result = .ok r' ∧ r.Repeats files r' := by
  have told : ∀ a ∈ compile registry doc, _ := fun a ha => retold_again valid reported ha
  have again := result_of_alike distinct valid reported fun a ha => (told a ha).1.success
  refine ⟨_, again, ?_⟩
  rw [report_writeArtifacts distinct valid again, report_writeArtifacts distinct valid reported]
  have artifacts : List.Forall₂ (Artifact.Retold output (files.ensureDirectories output).2)
      ((compile registry doc).map (Artifact.verdictIn files output))
      ((compile registry doc).map
        (Artifact.verdictIn (writeArtifacts files (compile registry doc) output).files output)) := by
    rw [List.forall₂_map_left_iff, List.forall₂_map_right_iff, List.forall₂_same]
    exact fun a ha => (told a ha).1
  refine ⟨rfl, Report.paths_of_retold artifacts, artifacts, fun own => ?_⟩
  exact congrArg (Report.telling output) (List.map_congr_left fun a ha => (told a ha).2 own)

end

namespace World

variable {w : World} {s : Settings} {store : Option Handle} {doc : Document}

/-- The document is not in the place of an artifact. -/
def Apart (w : World) (s : Settings) (store : Option Handle) : Prop :=
  ∀ name ∈ builtin.map Prod.fst,
    w.files.resolve (w.documentPath s store) ≠ w.files.resolve (artifactPath s.output name)

theorem shelf_buildFrom (w : World) (h : Handle) (output : Path) :
    (w.buildFrom h output).world.shelf =
      w.shelf.setStore h ((w.shelf.store h).reload w.files).store := by
  rw [buildFrom, Outcome.andThen]
  cases (w.access h Store.reload).result <;> rfl

/-- The next build reads the same path. -/
theorem documentPath_build (named : store = none → s.tokens.hasNul = false) :
    (w.build s store).world.documentPath s store = w.documentPath s store := by
  have kept (shelf : Shelf) (h : Handle) :
      ((shelf.setStore h ((shelf.store h).reload w.files).store).store h).path =
        (shelf.store h).path := by
    refine shelf.path_setStore h ?_
    rw [Store.store_reload]
  cases store with
  | some h =>
    rw [documentPath, documentPath, build, shelf_buildFrom]
    exact kept w.shelf h
  | none =>
    have anchors := (w.confined_build s none).anchors
    have shelf : (w.build s none).world.shelf = (w.shelf.share w.files s.tokens).1.setStore
        (w.shelf.share w.files s.tokens).2
        (((w.shelf.share w.files s.tokens).1.store (w.shelf.share w.files s.tokens).2).reload
          w.files).store := by
      rw [build, share_of_named (named rfl), Outcome.andThen]
      exact shelf_buildFrom _ _ _
    have found : (w.build s none).world.shelf.shared.lookup
        ((w.build s none).world.files.resolve s.tokens) =
          some (w.shelf.share w.files s.tokens).2 := by
      rw [anchors.resolve, shelf]
      exact w.shelf.lookup_share w.files s.tokens
    rw [documentPath, documentPath]
    rw [Shelf.share_of_lookup found, shelf]
    exact kept _ _

/-- The next build reads the same document, since no artifact replaces it. -/
theorem Reads.again (reads : w.Reads s store doc) (apart : w.Apart s store) :
    (w.build s store).world.Reads s store doc := by
  refine ⟨reads.named, ?_⟩
  obtain ⟨octets, there, parsed⟩ := (FileTree.load_eq_ok_iff _ _ _).mp reads.loads
  have free : ¬ w.OpensAt s store (w.files.resolve (w.documentPath s store)) := by
    rintro ⟨name, known, -, same⟩
    exact apart name known same.symm
  rw [documentPath_build reads.named]
  refine (FileTree.load_eq_ok_iff _ _ _).mpr ⟨octets, ?_, parsed⟩
  exact (w.confined_build s store).read there free

theorem Apart.again (apart : w.Apart s store) (reads : w.Reads s store doc) :
    (w.build s store).world.Apart s store := by
  have anchors := (w.confined_build s store).anchors
  intro name known
  rw [documentPath_build reads.named, anchors.resolve, anchors.resolve]
  exact apart name known

/-- Builds of one document after another. -/
def rebuilt (w : World) (s : Settings) (store : Option Handle) : Nat → World
  | 0 => w
  | n + 1 => ((w.rebuilt s store n).build s store).world

/-- A world in which a build gives the report that it gave before. -/
structure AtRest (w : World) (s : Settings) (store : Option Handle) (doc : Document) (r : Report) :
    Prop where
  reads : w.Reads s store doc
  apart : w.Apart s store
  settled : Settled w.files (compile builtin doc) s.output
  report : (w.build s store).result = .ok r

/-- A build keeps a world at rest, and only the times of files that are stored again change. -/
theorem AtRest.build {r : Report} (rest : w.AtRest s store doc r) :
    (w.build s store).world.AtRest s store doc r ∧
      r.Renews w.files (w.build s store).world.files := by
  have reads := rest.reads.again rest.apart
  obtain ⟨result, files⟩ := build_of_reads rest.reads
  have reported := result.symm.trans rest.report
  obtain ⟨renews, -⟩ := rest.settled.rests builtin_names_nodup fileName_builtin reported
  rw [← files] at renews
  refine ⟨⟨reads, rest.apart.again rest.reads, ?_, ?_⟩, renews⟩
  · rw [files]
    exact settled_writeArtifacts builtin_names_nodup fileName_builtin reported
  · rw [(build_of_reads reads).1, files]
    exact rest.settled.result_again builtin_names_nodup fileName_builtin reported

/-- The first build brings the world to rest. -/
theorem atRest_build {r : Report} (built : (w.build s store).result = .ok r)
    (apart : w.Apart s store) :
    ∃ doc r', r.Repeats w.files r' ∧ (w.build s store).world.AtRest s store doc r' := by
  obtain ⟨doc, reads⟩ := reads_of_report built
  have again := reads.again apart
  obtain ⟨result, files⟩ := build_of_reads reads
  have reported := result.symm.trans built
  obtain ⟨r', reported', repeated⟩ :=
    repeats_again builtin_names_nodup fileName_builtin reported
  rw [← files] at reported'
  refine ⟨doc, r', repeated, again, apart.again reads, ?_, (build_of_reads again).1.trans reported'⟩
  rw [files]
  exact settled_writeArtifacts builtin_names_nodup fileName_builtin reported

/-- Rest lasts for any number of builds. -/
theorem AtRest.rebuilt {r : Report} (rest : w.AtRest s store doc r) (n : Nat) :
    (w.rebuilt s store n).AtRest s store doc r ∧
      r.Renews w.files (w.rebuilt s store n).files := by
  induction n with
  | zero => exact ⟨rest, Report.renews_refl r w.files⟩
  | succ n ih =>
    obtain ⟨before, since⟩ := ih
    obtain ⟨after, renews⟩ := before.build
    exact ⟨after, since.trans renews⟩

theorem rebuilt_succ (w : World) (s : Settings) (store : Option Handle) (n : Nat) :
    w.rebuilt s store (n + 1) = (w.build s store).world.rebuilt s store n := by
  induction n with
  | zero => rfl
  | succ n ih => rw [rebuilt, ih, rebuilt]

end World

/-- After a build that gives a report on a document apart from the artifacts, all further builds give
one report, which repeats the first, and change nothing but the times of the files stored again. -/
theorem build_again_agrees (w : World) (s : Settings) (store : Option Handle) {r : Report}
    (built : (w.build s store).result = .ok r) (apart : w.Apart s store) :
    ∃ r', r.Repeats w.files r' ∧ ∀ n,
      ((w.rebuilt s store (n + 1)).build s store).result = .ok r' ∧
        r'.Renews (w.build s store).world.files (w.rebuilt s store (n + 1)).files := by
  obtain ⟨doc, r', repeated, rest⟩ := World.atRest_build built apart
  refine ⟨r', repeated, ?_⟩
  intro n
  obtain ⟨still, renews⟩ := rest.rebuilt n
  rw [World.rebuilt_succ]
  exact ⟨still.report, renews⟩

/-- A document beside a file and a directory that holds another one in the place of an artifact. -/
def World.crowded : World :=
  ⟨⟨[([], .directory 1), (["t.json"], .file (Text.Utf8.encode "\x7b\"a\": 1\x7d".toList) 2),
    (["f"], .file [] 2), (["o"], .directory 2), (["o", "base.css"], .directory 2)], [], [], 2⟩,
    [], .empty⟩

def Settings.crowded (output : List String) : Settings :=
  ⟨⟨.working, ["t.json"]⟩, ⟨.working, output⟩, defaultInterval⟩

/-- Builds of which one artifact is refused and one is not generated go on like that. -/
theorem build_again_agrees_crowded :
    ∃ r r', (World.crowded.build (Settings.crowded ["o"]) none).result = .ok r ∧
      World.crowded.Apart (Settings.crowded ["o"]) none ∧
      r.artifacts.map Artifact.success = [false, true, true, true, false] ∧
      r.Repeats World.crowded.files r' ∧ ∀ n,
        ((World.crowded.rebuilt (Settings.crowded ["o"]) none (n + 1)).build
            (Settings.crowded ["o"]) none).result = .ok r' ∧
          r'.Renews (World.crowded.build (Settings.crowded ["o"]) none).world.files
            (World.crowded.rebuilt (Settings.crowded ["o"]) none (n + 1)).files := by
  have mixed : (World.crowded.build (Settings.crowded ["o"]) none).result.toOption.map
      (fun r => r.artifacts.map Artifact.success) = some [false, true, true, true, false] := by
    decide +kernel
  have apart : World.crowded.Apart (Settings.crowded ["o"]) none := by
    rw [World.Apart]
    decide +kernel
  obtain ⟨r, given, told⟩ := Option.map_eq_some_iff.mp mixed
  have built := eq_ok_of_toOption given
  obtain ⟨r', repeated, rest⟩ := build_again_agrees _ _ none built apart
  exact ⟨r, r', built, apart, told, repeated, rest⟩

/-- What a report says of why its first artifact is a failure. -/
def Outcome.firstFailure (o : Outcome Report) : Option Failure :=
  o.result.toOption.bind fun r => r.artifacts.head?.bind Artifact.failure

/-- Settings with an output directory below a file, whose path goes through a missing directory. -/
def Settings.belowFile : Settings := Settings.crowded ["a", "..", "f", "x"]

/-- A directory that was refused for a path above it is refused for its own path the next time. -/
theorem refusal_is_told_anew : World.crowded.Apart Settings.belowFile none ∧
    ∃ r r', (World.crowded.build Settings.belowFile none).result = .ok r ∧
      ((World.crowded.build Settings.belowFile none).world.build Settings.belowFile none).result =
        .ok r' ∧ r' ≠ r := by
  have apart : World.crowded.Apart Settings.belowFile none := by
    rw [World.Apart]
    decide +kernel
  have first : (World.crowded.build Settings.belowFile none).result.toOption.isSome := by
    decide +kernel
  have second : ((World.crowded.build Settings.belowFile none).world.build Settings.belowFile
      none).result.toOption.isSome := by
    decide +kernel
  have other : ((World.crowded.build Settings.belowFile none).world.build Settings.belowFile
      none).firstFailure ≠ (World.crowded.build Settings.belowFile none).firstFailure := by
    decide +kernel
  obtain ⟨r, given⟩ := Option.isSome_iff_exists.mp first
  obtain ⟨r', given'⟩ := Option.isSome_iff_exists.mp second
  refine ⟨apart, r, r', eq_ok_of_toOption given, eq_ok_of_toOption given', fun same => other ?_⟩
  rw [Outcome.firstFailure, Outcome.firstFailure, given, given', same]

end DesignTokens
