import DesignTokens.Proofs.Isolation
import DesignTokens.Proofs.Stopping

/-!
# Reports tell the truth

A report says that an artifact is stored just if its text is in its file in the end. The file of a
failure is left as it was, and nothing else changes than the files of successes and directories on the
way. There is no report if the path of the output directory has the character NUL in it, or if a text
without octets makes storing stop. What was stored until then is what a report on it alone would tell.
-/

namespace DesignTokens

/-- What a report that gives `b` for the artifact `a` tells of it: whether its text is in its file
now, and if not, what went wrong: the artifact was a failure before, the directory could not be made,
or once it was made the file could not be stored. -/
structure Artifact.Told (files : FileTree) (output : Path) (after : FileTree) (a b : Artifact) :
    Prop where
  name : b.name = a.name
  filename : b.filename = a.filename
  success : b.success ↔ a.success ∧ (files.ensureDirectories output).2 = none ∧
    ∃ text, a.content = some text ∧ after.Holds (a.pathIn output) text
  stored : b.success → b = a
  passed : a.success = false → b = a
  kept : a.success → b.success = false → b.content = a.content ∧ b.errorType? = some "WriteError"
  denied : ∀ e, (files.ensureDirectories output).2 = some e → a.success →
    b = a.unstored (directoryError output e)
  refused : (files.ensureDirectories output).2 = none → a.success → b.success = false →
    ∃ e, ((files.ensureDirectories output).1.write (a.pathIn output) a.octets).2 = some e ∧
      b = a.unstored (artifactError (a.pathIn output) e)

/-- A report tells of every artifact and gives the paths of those it tells to be stored. Their files
and directories on the way to the output directory are all that has changed. -/
structure Report.Truthful (r : Report) (files : FileTree) (c : Compilation) (output : Path)
    (after : FileTree) : Prop where
  directory : r.output = output
  artifacts : List.Forall₂ (Artifact.Told files output after) c r.artifacts
  paths : r.paths = (r.artifacts.filter Artifact.success).map fun b => (b.name, b.pathIn output)
  found : ∀ b ∈ r.artifacts, b.success → r.path? b.name = some (b.pathIn output)
  confined : FileTree.Confined (files.Passes output) (r.StoresAt files) files after

theorem Artifact.told_verdictIn {files after : FileTree} {output : Path} {a b : Artifact}
    (verdict : a.verdictIn files output = b)
    (success : b.success ↔ a.success ∧ (files.ensureDirectories output).2 = none ∧
      ∃ text, a.content = some text ∧ after.Holds (a.pathIn output) text) :
    a.Told files output after b := by
  rw [verdictIn] at verdict
  have denied : ∀ e, (files.ensureDirectories output).2 = some e → a.success →
      b = a.unstored (directoryError output e) := by
    intro e he hs
    have denial : Writing.denial files output = some (directoryError output e) := by
      rw [Writing.denial, he]
      rfl
    rw [← verdict, denial, verdict_of_denied hs]
  have refused : (files.ensureDirectories output).2 = none → a.success → b.success = false →
      ∃ e, ((files.ensureDirectories output).1.write (a.pathIn output) a.octets).2 = some e ∧
        b = a.unstored (artifactError (a.pathIn output) e) := by
    intro made hs hb
    have denial : Writing.denial files output = none := Option.map_eq_none_iff.mpr made
    rw [← verdict, denial] at hb ⊢
    cases hw : ((files.ensureDirectories output).1.write (a.pathIn output) a.octets).2 with
    | none =>
      rw [verdict_of_stored hw, hs] at hb
      cases hb
    | some e => exact ⟨e, rfl, verdict_of_refused hs hw⟩
  have name : b.name = a.name := by rw [← verdict, verdict_name]
  refine ⟨name, congrArg filenameOf name, success, fun hb => ?_, fun hs => ?_, fun hs hb => ?_,
    denied, refused⟩
  · rw [← verdict] at hb ⊢
    exact verdict_of_success hb
  · rw [← verdict, verdict_of_failure hs]
  · -- Either error is a write error, and neither touches the text.
    cases he : (files.ensureDirectories output).2 with
    | some e =>
      rw [denied e he hs]
      exact ⟨rfl, rfl⟩
    | none =>
      obtain ⟨e, -, rfl⟩ := refused he hs hb
      exact ⟨rfl, rfl⟩

theorem map_name_of_told {files after : FileTree} {output : Path} {c artifacts : List Artifact}
    (told : List.Forall₂ (Artifact.Told files output after) c artifacts) :
    artifacts.map Artifact.name = c.map Artifact.name := by
  induction told with
  | nil => rfl
  | cons first _ ih => rw [List.map_cons, List.map_cons, ih, first.name]

section
variable {registry : Registry} (distinct : (registry.map Prod.fst).Nodup)
  (valid : ∀ name ∈ registry.map Prod.fst, FileName name) (files : FileTree) (doc : Document)
  (output : Path)

include distinct valid

/-- An artifact is recorded as stored just if its text is in its file in the end. -/
theorem success_iff_held {r : Report}
    (reported : (writeArtifacts files (compile registry doc) output).result = .ok r) {a : Artifact}
    (ha : a ∈ compile registry doc) :
    (a.verdictIn files output).success ↔ a.success ∧ (files.ensureDirectories output).2 = none ∧
      ∃ text, a.content = some text ∧
        (writeArtifacts files (compile registry doc) output).files.Holds (a.pathIn output) text := by
  have listed := artifacts_writeArtifacts distinct valid files doc (going_of_reported reported)
  have frame := writeArtifacts_frame reported
  obtain ⟨-, sound⟩ := writeArtifacts_sound (apart_compile distinct valid files output doc) reported
  refine ⟨fun stored => ?_, fun ⟨success, made, text, _, octets, _, read⟩ => ?_⟩
  · obtain ⟨success, allowed, -⟩ := Artifact.verdict_success.mp stored
    obtain ⟨text, content⟩ := content_of_success ha success
    have held := sound.stored _ (listed ▸ List.mem_map_of_mem ha) stored
    rw [Artifact.verdictIn_of_success stored, content] at held
    exact ⟨success, Option.map_eq_none_iff.mp allowed, text, content, held⟩
  · by_cases taken : (writeArtifacts files (compile registry doc) output).report.StoresAt
        (files.ensureDirectories output).1
        ((files.ensureDirectories output).1.resolve (a.pathIn output))
    · -- What is stored in its place can only be the artifact itself.
      obtain ⟨b, hb, stored, same⟩ := taken
      rw [listed] at hb
      obtain ⟨a', ha', rfl⟩ := List.mem_map.mp hb
      rw [frame.directory, Artifact.verdictIn, Artifact.verdict_pathIn] at same
      have name := name_eq_of_resolve (valid _ (name_of_mem_compile ha'))
        (valid _ (name_of_mem_compile ha)) same
      rw [← names_compile registry doc] at distinct
      rwa [List.inj_on_of_nodup_map distinct ha' ha name] at stored
    · have there := FileTree.isDirectory_ensureDirectories made
      have refusal := Writing.refusal_of_frame frame there (valid _ (name_of_mem_compile ha)) taken
      rw [FileTree.refusal_write_of_read read] at refusal
      exact Artifact.verdict_success.mpr
        ⟨success, Option.map_eq_none_iff.mpr made, refusal.symm⟩

/-- A report on what a registry makes of a document is truthful. -/
theorem truthful_of_reported {r : Report}
    (reported : (writeArtifacts files (compile registry doc) output).result = .ok r) :
    r.Truthful files (compile registry doc) output
      (writeArtifacts files (compile registry doc) output).files := by
  have told := fun a ha => success_iff_held distinct valid files doc output reported (a := a) ha
  have listed := artifacts_writeArtifacts distinct valid files doc (going_of_reported reported)
  have frame := writeArtifacts_frame reported
  obtain ⟨rfl, sound⟩ :=
    writeArtifacts_sound (apart_compile distinct valid files output doc) reported
  have made : FileTree.Confined (files.Passes output)
      ((writeArtifacts files (compile registry doc) output).report.StoresAt files) files
      (files.ensureDirectories output).1 := files.confined_ensureDirectories output
  refine ⟨frame.directory, ?_, sound.paths, ?_, made.trans ?_⟩
  · rw [listed, List.forall₂_map_right_iff, List.forall₂_same]
    exact fun a ha => Artifact.told_verdictIn rfl (told a ha)
  · rw [← names_compile registry doc] at distinct
    exact fun b hb success => sound.path? distinct hb success
  · refine frame.confined.mono (fun _ none => none.elim) ?_
    rintro q ⟨b, hb, success, same⟩
    exact ⟨b, hb, success, by rwa [made.anchors.resolve] at same⟩

/-- What a registry of distinct names that files can have makes of a document is stored with a
truthful report, but in two cases. If the path of the output directory has the character NUL in it,
nothing has changed. If an artifact has a text without octets and its file can be opened, the file of
the first one is empty, those in front of it are stored as a truthful report on them alone tells, and
nothing else has changed. -/
theorem report_is_truthful :
    if output.hasNul then
      ∃ p, (writeArtifacts files (compile registry doc) output).result = .error p ∧
        p.className = "ValueError" ∧
        (writeArtifacts files (compile registry doc) output).files = files
    else
      match (compile registry doc).findSome? (Artifact.stopsIn? files output) with
      | none => ∃ r, (writeArtifacts files (compile registry doc) output).result = .ok r ∧
          r.Truthful files (compile registry doc) output
            (writeArtifacts files (compile registry doc) output).files
      | some f => (writeArtifacts files (compile registry doc) output).result =
            .error (.encoding f.message) ∧
          ∃ front e back r, registry = front ++ e :: back ∧
            (writeArtifacts files (compile front doc) output).result = .ok r ∧
            r.Truthful files (compile front doc) output
              (writeArtifacts files (compile front doc) output).files ∧
            (writeArtifacts files (compile registry doc) output).StoppedAt files output
              (compile front doc) (.ofOutput e.1 (e.2 doc)) f ∧
            (writeArtifacts files (compile registry doc) output).files.read
              (artifactPath output e.1) = .ok [] := by
  cases nul : output.hasNul with
  | true =>
    obtain ⟨result, unchanged⟩ := writeArtifacts_of_hasNul files (compile registry doc) nul
    exact ⟨_, result, rfl, unchanged⟩
  | false =>
    have result := result_compile distinct valid files doc output
    rw [nul, if_neg Bool.false_ne_true] at result
    rw [if_neg Bool.false_ne_true]
    cases stops : (compile registry doc).findSome? (Artifact.stopsIn? files output) with
    | none =>
      rw [stops] at result
      exact ⟨_, result, truthful_of_reported distinct valid files doc output result⟩
    | some f =>
      rw [stops] at result
      obtain ⟨front, e, back, rfl, -, stopped⟩ :=
        exists_stoppedAt distinct valid files doc nul stops
      have reported := result_of_going stopped.done
      have read := stopped.read
      rw [Artifact.pathIn_eq, Artifact.ofOutput_name] at read
      rw [List.map_append] at distinct valid
      exact ⟨result, front, e, back, _, rfl, reported, truthful_of_reported
        (List.nodup_append.mp distinct).1 (fun name hn => valid name (List.mem_append_left _ hn))
        files doc output reported, stopped, read⟩

end

/-- A directory stands where the file of the utility configuration should go. -/
def FileTree.occupied : FileTree :=
  ⟨[(["out"], .directory 1), (["out", "config.js"], .directory 1)], [], [], 1⟩

/-- Three generators, of which the first one fails and the last one makes that file. -/
def Registry.unstorable : Registry := mixed.put "config" fun _ => .ok "more"

theorem report_is_truthful_occupied :
    (Registry.unstorable.map Prod.fst).Nodup ∧
      (∀ name ∈ Registry.unstorable.map Prod.fst, FileName name) ∧
      ∃ r, (writeArtifacts .occupied (compile .unstorable []) Settings.nearby.output).result = .ok r ∧
        r.artifacts.map Artifact.errorType? = [some "KeyError", none, some "WriteError"] ∧
        r.Truthful .occupied (compile .unstorable []) Settings.nearby.output
          (writeArtifacts .occupied (compile .unstorable []) Settings.nearby.output).files := by
  have distinct : (Registry.unstorable.map Prod.fst).Nodup := by decide
  have valid : ∀ name ∈ Registry.unstorable.map Prod.fst, FileName name := by decide
  have truthful := report_is_truthful distinct valid .occupied [] Settings.nearby.output
  rw [if_neg (by decide)] at truthful
  obtain ⟨r, reported, truthful⟩ := truthful
  have shown : (writeArtifacts .occupied (compile .unstorable []) Settings.nearby.output).result.map
      (fun r => r.artifacts.map Artifact.errorType?) =
        .ok [some "KeyError", none, some "WriteError"] := by decide +kernel
  rw [reported] at shown
  exact ⟨distinct, valid, r, reported, Except.ok.inj shown, truthful⟩

/-- A token that is one half of a pair of surrogates. -/
def Document.halved : Document := [(.text "a", .scalar (.text ⟨[.surrogate ⟨0, by decide⟩]⟩))]

/-- There is no report on a style sheet with this token, and its file is empty. -/
theorem surrogate_stops_storing :
    (∃ p, (writeArtifacts .occupied (compile builtin .halved) Settings.nearby.output).result =
      .error p ∧ p.className = "UnicodeEncodeError") ∧
    (writeArtifacts .occupied (compile builtin .halved) Settings.nearby.output).files.read
      (artifactPath Settings.nearby.output "base") = .ok [] := by
  have stops : ((writeArtifacts .occupied (compile builtin .halved) Settings.nearby.output).stopped.map
      Problem.className) = some "UnicodeEncodeError" := by decide +kernel
  obtain ⟨p, stopped, named⟩ := Option.map_eq_some_iff.mp stops
  refine ⟨⟨p, ?_, named⟩, by decide +kernel⟩
  rw [Writing.result, stopped]

end DesignTokens
