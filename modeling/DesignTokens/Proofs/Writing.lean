import DesignTokens.Proofs.Directories
import DesignTokens.Proofs.FileNames
import DesignTokens.Proofs.TextEncoding
import Mathlib.Data.List.Forall2

/-!
# What a report says of its artifacts

A report records every artifact, and what it records as stored can be read back. One artifact is
stored without touching another because their paths lead to different places. There is no report if
writing has stopped, at a name that no file can have or at a text without octets.
-/

namespace DesignTokens

namespace FileTree

/-- A text is stored by writing its octets. That it has none is told once the file is open. -/
theorem store_eq (t : FileTree) (path : Path) (text : Text) :
    t.store path text = ((t.write path text.octets).1,
      ((t.write path text.octets).2.map .file).or (text.fault?.map .encoding)) := by
  rw [store, Text.octets, Text.fault?]
  cases text.encode with
  | ok octets => cases h : (t.write path octets).2 <;> simp [Except.toOption, h]
  | error f => cases h : (t.write path []).2 <;> simp [Except.toOption, h]

end FileTree

namespace Artifact

/-- The octets that the file of an artifact is left with. -/
def octets (a : Artifact) : List UInt8 := (a.content.getD "").octets

/-- Why the text of an artifact has no octets. -/
def fault? (a : Artifact) : Option Text.EncodingFault := (a.content.getD "").fault?

/-- What a report may record of an artifact: the artifact as it is, or that its text could not be
stored. -/
inductive Recorded (a : Artifact) : Artifact → Prop
  | asIs : a.Recorded a
  | unstored (success : a.success) (e : ThemeError) (cls : e.cls = .write) :
    a.Recorded (a.unstored e)

theorem Recorded.name {a b : Artifact} (h : a.Recorded b) : b.name = a.name := by
  cases h <;> rfl

theorem Recorded.content {a b : Artifact} (h : a.Recorded b) : b.content = a.content := by
  cases h <;> rfl

theorem Recorded.pathIn {a b : Artifact} (h : a.Recorded b) (output : Path) :
    b.pathIn output = a.pathIn output := by
  cases h <;> rfl

theorem Recorded.of_failure {a b : Artifact} {f : Failure} (h : a.Recorded b)
    (failed : a.failure = some f) : b = a := by
  cases h with
  | asIs => rfl
  | unstored success e cls =>
    rw [Artifact.success, failed] at success
    cases success

theorem exists_recorded {done artifacts : List Artifact}
    (recorded : List.Forall₂ Recorded done artifacts) {b : Artifact} (hb : b ∈ artifacts) :
    ∃ a ∈ done, a.Recorded b := by
  induction recorded with
  | nil => cases hb
  | cons first _ ih =>
    rcases List.mem_cons.mp hb with rfl | hb
    · exact ⟨_, List.mem_cons_self, first⟩
    · obtain ⟨a, ha, hab⟩ := ih hb
      exact ⟨a, List.mem_cons_of_mem _ ha, hab⟩

theorem names_of_recorded {done artifacts : List Artifact}
    (recorded : List.Forall₂ Recorded done artifacts) :
    artifacts.map Artifact.name = done.map Artifact.name := by
  induction recorded with
  | nil => rfl
  | cons first _ ih => rw [List.map_cons, List.map_cons, first.name, ih]

end Artifact

/-- The places of the artifacts that a report records as stored. -/
def Report.StoresAt (r : Report) (files : FileTree) (q : Place) : Prop :=
  ∃ a ∈ r.artifacts, a.success ∧ files.resolve (a.pathIn r.output) = q

namespace Writing

/-- What recording one more artifact does, unless writing is given up. -/
inductive Adds (denied : Option ThemeError) (w : Writing) (a : Artifact) (w' : Writing) : Prop
  | stored (allowed : denied = none) (success : a.success) (encoded : a.fault? = none)
    (written : (w.files.write (a.pathIn w.report.output) a.octets).2 = none)
    (files : w'.files = (w.files.write (a.pathIn w.report.output) a.octets).1)
    (report : w'.report = ⟨w.report.output, w.report.artifacts ++ [a],
      w.report.paths ++ [(a.name, a.pathIn w.report.output)]⟩)
  | failed (b : Artifact) (recorded : a.Recorded b) (failure : b.success = false)
    (files : w'.files = w.files)
    (report : w'.report = ⟨w.report.output, w.report.artifacts ++ [b], w.report.paths⟩)

theorem givenUp_eq_false_iff {w : Writing} : w.givenUp = false ↔ w.stopped = none := by
  rw [givenUp, Option.isSome_eq_false_iff, Option.isNone_iff_eq_none]

theorem add_givenUp {denied : Option ThemeError} {w : Writing} (a : Artifact)
    (given : w.givenUp = true) : w.add denied a = w := by
  simp only [add, given, if_true]

section
variable {w : Writing} {a : Artifact} (going : w.givenUp = false)

include going

theorem add_failed {denied : Option ThemeError} (failed : a.success = false) :
    w.add denied a = w.pass a := by
  simp [add, going, failed]

theorem add_denied {e : ThemeError} (success : a.success) :
    w.add (some e) a = w.pass (a.unstored e) := by
  simp [add, going, success]

theorem add_stored {files : FileTree} (success : a.success) (encoded : a.fault? = none)
    (written : w.files.write (a.pathIn w.report.output) a.octets = (files, none)) :
    w.add none a = ⟨files, ⟨w.report.output, w.report.artifacts ++ [a],
      w.report.paths ++ [(a.name, a.pathIn w.report.output)]⟩, w.log, none⟩ := by
  rw [Artifact.octets] at written
  rw [Artifact.fault?] at encoded
  simp [add, going, success, FileTree.store_eq, written, encoded, pass,
    givenUp_eq_false_iff.mp going]

/-- A text without octets makes writing stop, when its file has been opened and is empty. -/
theorem add_emptied {files : FileTree} {f : Text.EncodingFault} (success : a.success)
    (fault : a.fault? = some f)
    (written : w.files.write (a.pathIn w.report.output) a.octets = (files, none)) :
    w.add none a = ⟨files, w.report, w.log, some (.encoding f.message)⟩ := by
  rw [Artifact.octets] at written
  rw [Artifact.fault?] at fault
  simp [add, going, success, FileTree.store_eq, written, fault]

theorem add_refused {files : FileTree} {e : FileError} (success : a.success)
    (written : w.files.write (a.pathIn w.report.output) a.octets = (files, some e)) :
    w.add none a =
      if e.cause = .nul then { w with stopped := some w.noName }
      else
        let error := artifactError (a.pathIn w.report.output) e
        ⟨files, ⟨w.report.output, w.report.artifacts ++ [a.unstored error], w.report.paths⟩,
          w.log ++ [errorLine error], none⟩ := by
  rw [Artifact.octets] at written
  simp [add, going, success, FileTree.store_eq, written, pass, givenUp_eq_false_iff.mp going]

end

theorem going_of_add {denied : Option ThemeError} {w : Writing} {a : Artifact}
    (going : (w.add denied a).givenUp = false) : w.givenUp = false := by
  cases hg : w.givenUp with
  | false => rfl
  | true =>
    rw [add_givenUp a hg, hg] at going
    cases going

theorem adds_of_going {denied : Option ThemeError} {w : Writing} {a : Artifact}
    (cls : ∀ e, denied = some e → e.cls = .write) (going : (w.add denied a).givenUp = false) :
    Adds denied w a (w.add denied a) := by
  have before := going_of_add going
  cases hs : a.success with
  | false =>
    rw [add_failed before hs]
    exact .failed a .asIs hs rfl rfl
  | true =>
    cases denied with
    | some e =>
      rw [add_denied before hs]
      exact .failed _ (.unstored hs e (cls e rfl)) rfl rfl rfl
    | none =>
      rcases w.files.write_cases (a.pathIn w.report.output) a.octets with
        ⟨-, -, -, written, -, -⟩ | ⟨e, refused⟩
      · cases fault : a.fault? with
        | none =>
          rw [add_stored before hs fault (Prod.ext rfl written)]
          exact .stored rfl hs fault written rfl rfl
        | some f =>
          rw [add_emptied before hs fault (Prod.ext rfl written)] at going
          cases going
      · rw [add_refused before hs refused] at going ⊢
        by_cases hc : e.cause = .nul
        · rw [if_pos hc] at going
          cases going
        · rw [if_neg hc]
          exact .failed _ (.unstored hs _ rfl) rfl rfl rfl

/-- What holds of a report on artifacts that are to have files of their own: each is recorded, and
those recorded as stored are in their files. -/
structure Sound (files : FileTree) (output : Path) (done : List Artifact) (w : Writing) : Prop where
  anchors : FileTree.SameAnchors files w.files
  directory : w.report.output = output
  recorded : List.Forall₂ Artifact.Recorded done w.report.artifacts
  paths : w.report.paths =
    (w.report.artifacts.filter Artifact.success).map fun b => (b.name, b.pathIn output)
  stored : ∀ b ∈ w.report.artifacts, b.success →
    w.files.Holds (b.pathIn output) (b.content.getD "")

theorem Sound.add {denied : Option ThemeError} {files : FileTree} {output : Path}
    {done : List Artifact} {w w' : Writing} {a : Artifact} (sound : Sound files output done w)
    (adds : Adds denied w a w')
    (apart : ∀ b ∈ done, b.Apart files output a) : Sound files output (done ++ [a]) w' := by
  obtain ⟨anchors, rfl, recorded, paths, stored⟩ := sound
  cases adds with
  | stored _ success encoded written hfiles hreport =>
    refine ⟨?_, ?_, ?_, ?_, ?_⟩
    · rw [hfiles]
      exact anchors.trans (w.files.sameAnchors_write _ _)
    · rw [hreport]
    · rw [hreport]
      exact List.rel_append recorded (.cons .asIs .nil)
    · rw [hreport]
      simp [paths, success]
    · rw [hreport, hfiles]
      intro b hb ok
      rcases List.mem_append.mp hb with hb | hb
      · -- What was stored before lies elsewhere, because a path depends on the name alone.
        obtain ⟨a', ha', hab⟩ := Artifact.exists_recorded recorded hb
        have elsewhere := apart a' ha'
        rw [Artifact.Apart, ← anchors.resolve, ← anchors.resolve, ← hab.pathIn] at elsewhere
        obtain ⟨octets, encoded', read⟩ := stored b hb ok
        exact ⟨octets, encoded', FileTree.read_write_other elsewhere read⟩
      · rw [List.mem_singleton.mp hb]
        exact ⟨a.octets, Text.fault?_eq_none_iff.mp encoded, FileTree.read_write_self written⟩
  | failed b hrecorded failure hfiles hreport =>
    refine ⟨?_, ?_, ?_, ?_, ?_⟩
    · rw [hfiles]
      exact anchors
    · rw [hreport]
    · rw [hreport]
      exact List.rel_append recorded (.cons hrecorded .nil)
    · rw [hreport]
      simp [paths, failure]
    · rw [hreport, hfiles]
      intro b' hb ok
      rcases List.mem_append.mp hb with hb | hb
      · exact stored b' hb ok
      · rw [List.mem_singleton.mp hb, failure] at ok
        cases ok

theorem going_of_foldl {denied : Option ThemeError} {w : Writing} {rest : List Artifact}
    (going : (rest.foldl (add denied) w).givenUp = false) : w.givenUp = false := by
  induction rest generalizing w with
  | nil => exact going
  | cons a rest ih => exact going_of_add (ih going)

theorem Sound.foldl {denied : Option ThemeError} (cls : ∀ e, denied = some e → e.cls = .write)
    {files : FileTree} {output : Path} {done rest : List Artifact} {w : Writing}
    (sound : Sound files output done w)
    (apart : (done ++ rest).Pairwise (Artifact.Apart files output))
    (going : (rest.foldl (Writing.add denied) w).givenUp = false) :
    Sound files output (done ++ rest) (rest.foldl (Writing.add denied) w) := by
  induction rest generalizing done w with
  | nil =>
    rw [List.append_nil]
    exact sound
  | cons a rest ih =>
    have adds := adds_of_going cls (going_of_foldl going)
    have first : ∀ b ∈ done, b.Apart files output a := fun b hb =>
      (List.pairwise_append.mp apart).2.2 b hb a List.mem_cons_self
    -- The artifact moves over to those that are done.
    rw [List.append_cons] at apart ⊢
    exact ih (sound.add adds first) apart going

/-- The path that a report gives for an artifact is the one it was stored under. -/
theorem Sound.path? {files : FileTree} {output : Path} {done : List Artifact} {w : Writing}
    (sound : Sound files output done w) (distinct : (done.map Artifact.name).Nodup) {b : Artifact}
    (hb : b ∈ w.report.artifacts) (ok : b.success) :
    w.report.path? b.name = some (b.pathIn output) := by
  have keys : (w.report.paths.map Prod.fst).Nodup := by
    rw [← Artifact.names_of_recorded sound.recorded] at distinct
    rw [sound.paths, List.map_map]
    exact (List.filter_sublist.map Artifact.name).nodup distinct
  refine lookup_of_mem keys ?_
  rw [sound.paths]
  exact List.mem_map_of_mem (List.mem_filter.mpr ⟨hb, ok⟩)

/-- A directory that cannot be made denies every artifact its file. -/
def denial (files : FileTree) (output : Path) : Option ThemeError :=
  (files.ensureDirectories output).2.map (directoryError output)

theorem cls_denial {files : FileTree} {output : Path} (e : ThemeError)
    (denied : denial files output = some e) : e.cls = .write := by
  obtain ⟨cause, -, rfl⟩ := Option.map_eq_some_iff.mp denied
  rfl

theorem foldl_add_givenUp {denied : Option ThemeError} {w : Writing} (given : w.givenUp = true)
    (rest : List Artifact) : rest.foldl (add denied) w = w := by
  induction rest with
  | nil => rfl
  | cons a rest ih => rw [List.foldl_cons, add_givenUp a given, ih]

/-- What has changed since the directory was made: only files of artifacts that are recorded as
stored, and nothing at all if the directory was denied. -/
structure Frame (denied : Option ThemeError) (base : FileTree) (output : Path) (w : Writing) :
    Prop where
  directory : w.report.output = output
  allowed : ∀ b ∈ w.report.artifacts, b.success → denied = none
  confined : FileTree.Confined (fun _ => False) (w.report.StoresAt base) base w.files

theorem Frame.others {denied : Option ThemeError} {base : FileTree} {output : Path} {w : Writing}
    (frame : Frame denied base output w) {q : Place} (free : ¬ w.report.StoresAt base q) :
    w.files.shape q = base.shape q := by
  rcases frame.confined.shape_cases q free with same | ⟨-, -, onWay⟩
  · exact same
  · exact onWay.elim

theorem Frame.add {denied : Option ThemeError} {base : FileTree} {output : Path} {w w' : Writing}
    {a : Artifact} (frame : Frame denied base output w) (adds : Adds denied w a w') :
    Frame denied base output w' := by
  obtain ⟨rfl, allowed, confined⟩ := frame
  cases adds with
  | stored hdenied success _ _ hfiles hreport =>
    refine ⟨by rw [hreport], fun _ _ _ => hdenied, ?_⟩
    have before : ∀ q, w.report.StoresAt base q → w'.report.StoresAt base q := by
      rintro q ⟨b, hb, ok, here⟩
      rw [hreport]
      exact ⟨b, List.mem_append_left _ hb, ok, here⟩
    have here : w'.report.StoresAt base (w.files.resolve (a.pathIn w.report.output)) := by
      rw [hreport, confined.anchors.resolve]
      exact ⟨a, List.mem_append_right _ List.mem_cons_self, success, rfl⟩
    rw [hfiles]
    exact (confined.mono (fun _ h => h) before).trans (FileTree.confined_write here a.octets)
  | failed b _ failure hfiles hreport =>
    have same : ∀ b' ∈ w'.report.artifacts, b'.success → b' ∈ w.report.artifacts := by
      intro b' hb success
      rw [hreport] at hb
      rcases List.mem_append.mp hb with hb | hb
      · exact hb
      · rw [List.mem_singleton.mp hb, failure] at success
        cases success
    refine ⟨by rw [hreport], fun b' hb success => allowed b' (same b' hb success) success, ?_⟩
    rw [hfiles]
    refine confined.mono (fun _ h => h) ?_
    rintro q ⟨b', hb, ok, here⟩
    rw [hreport]
    exact ⟨b', List.mem_append_left _ hb, ok, here⟩

theorem Frame.foldl {denied : Option ThemeError} (cls : ∀ e, denied = some e → e.cls = .write)
    {base : FileTree} {output : Path} {rest : List Artifact} {w : Writing}
    (frame : Frame denied base output w)
    (going : (rest.foldl (Writing.add denied) w).givenUp = false) :
    Frame denied base output (rest.foldl (Writing.add denied) w) := by
  induction rest generalizing w with
  | nil => exact frame
  | cons a rest ih => exact ih (frame.add (adds_of_going cls (going_of_foldl going))) going

end Writing

/-- Artifacts are stored one after the other, once the directory has been made. -/
theorem writeArtifacts_eq_foldl (files : FileTree) (c : Compilation) (output : Path) :
    writeArtifacts files c output =
      c.foldl (Writing.add (Writing.denial files output)) (writeArtifacts files [] output) := by
  rcases hd : files.ensureDirectories output with ⟨files', refusal⟩
  cases refusal with
  | none => simp only [writeArtifacts, Writing.denial, hd, List.foldl_nil, Option.map_none]
  | some e =>
    by_cases hc : e.cause = .nul
    · simp only [writeArtifacts, hd, hc, if_true]
      rw [Writing.foldl_add_givenUp rfl]
    · simp only [writeArtifacts, Writing.denial, hd, hc, if_false, List.foldl_nil,
        Option.map_some]

theorem writeArtifacts_nil (files : FileTree) (output : Path) :
    (writeArtifacts files [] output).files = (files.ensureDirectories output).1 ∧
      (writeArtifacts files [] output).report = ⟨output, [], []⟩ := by
  rcases hd : files.ensureDirectories output with ⟨files', refusal⟩
  cases refusal with
  | none => simp only [writeArtifacts, hd, List.foldl_nil, and_self]
  | some e =>
    by_cases hc : e.cause = .nul
    · simp only [writeArtifacts, hd, hc, if_true, and_self]
    · simp only [writeArtifacts, hd, hc, if_false, List.foldl_nil, and_self]

theorem sound_nil (files : FileTree) (output : Path) :
    Writing.Sound files output [] (writeArtifacts files [] output) := by
  obtain ⟨hfiles, hreport⟩ := writeArtifacts_nil files output
  refine ⟨?_, ?_, ?_, ?_, ?_⟩
  · rw [hfiles]
    exact files.sameAnchors_ensureDirectories output
  · rw [hreport]
  · rw [hreport]
    exact .nil
  · rw [hreport]
    rfl
  · rw [hreport]
    intro b hb
    cases hb

theorem frame_nil (files : FileTree) (output : Path) :
    Writing.Frame (Writing.denial files output) (files.ensureDirectories output).1 output
      (writeArtifacts files [] output) := by
  obtain ⟨hfiles, hreport⟩ := writeArtifacts_nil files output
  refine ⟨?_, ?_, ?_⟩
  · rw [hreport]
  · rw [hreport]
    exact fun b hb => absurd hb List.not_mem_nil
  · rw [hfiles]
    exact FileTree.confined_refl _

theorem going_of_reported {files : FileTree} {c : Compilation} {output : Path} {r : Report}
    (reported : (writeArtifacts files c output).result = .ok r) :
    (writeArtifacts files c output).givenUp = false := by
  rw [Writing.givenUp_eq_false_iff]
  cases hs : (writeArtifacts files c output).stopped with
  | none => rfl
  | some p =>
    rw [Writing.result, hs] at reported
    cases reported

theorem result_of_going {files : FileTree} {c : Compilation} {output : Path}
    (going : (writeArtifacts files c output).givenUp = false) :
    (writeArtifacts files c output).result = .ok (writeArtifacts files c output).report := by
  rw [Writing.result, Writing.givenUp_eq_false_iff.mp going]

/-- A report on artifacts with files of their own is right about all of them. -/
theorem writeArtifacts_sound {files : FileTree} {c : Compilation} {output : Path} {r : Report}
    (apart : c.Pairwise (Artifact.Apart files output))
    (reported : (writeArtifacts files c output).result = .ok r) :
    r = (writeArtifacts files c output).report ∧
      Writing.Sound files output c (writeArtifacts files c output) := by
  have going := going_of_reported reported
  rw [result_of_going going] at reported
  refine ⟨(Except.ok.inj reported).symm, ?_⟩
  rw [writeArtifacts_eq_foldl] at going ⊢
  exact (sound_nil files output).foldl Writing.cls_denial apart going

/-- A report tells which files have changed since the directory was made. -/
theorem writeArtifacts_frame {files : FileTree} {c : Compilation} {output : Path} {r : Report}
    (reported : (writeArtifacts files c output).result = .ok r) :
    Writing.Frame (Writing.denial files output) (files.ensureDirectories output).1 output
      (writeArtifacts files c output) := by
  have going := going_of_reported reported
  rw [writeArtifacts_eq_foldl] at going ⊢
  exact (frame_nil files output).foldl Writing.cls_denial going

/-- Writing starts unless the path of the output directory has the character NUL in it. -/
theorem going_nil {output : Path} (nul : output.hasNul = false) (files : FileTree) :
    (writeArtifacts files [] output).givenUp = false := by
  rcases hd : files.ensureDirectories output with ⟨files', refusal⟩
  cases refusal with
  | none => simp only [writeArtifacts, hd, List.foldl_nil, Writing.givenUp, Option.isSome_none]
  | some e =>
    have cause : e.cause ≠ .nul := fun hc => by
      have refused := congrArg Prod.snd hd
      rw [FileTree.hasNul_of_ensureDirectories refused hc] at nul
      cases nul
    simp only [writeArtifacts, hd, cause, if_false, List.foldl_nil, Writing.givenUp,
      Option.isSome_none]

/-- An output directory with the character NUL in its name makes writing be given up before
anything has changed. -/
theorem writeArtifacts_of_hasNul (files : FileTree) (c : Compilation) {output : Path}
    (nul : output.hasNul) :
    (writeArtifacts files c output).result = .error (.file ⟨.nul, output⟩) ∧
      (writeArtifacts files c output).files = files := by
  have denied := FileTree.ensureDirectories_of_hasNul files nul
  simp [writeArtifacts, denied, Writing.result]

end DesignTokens
