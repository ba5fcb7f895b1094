import DesignTokens.Proofs.Standing
import DesignTokens.Proofs.WatchRun

/-!
# Documents apart from the artifacts

The parts of a build make directories and store artifacts in their places. In a tree that stands, a
document in another place is left alone by each of them, so that it is only what happens in between
that a watch can lose.
-/

namespace DesignTokens

/-- Recording an artifact stores nothing, or some octets in the place of the artifact. -/
theorem Writing.files_add (denied : Option ThemeError) (w : Writing) (a : Artifact) :
    (w.add denied a).report.output = w.report.output ∧
      ((w.add denied a).files = w.files ∨
        ∃ octets, (w.add denied a).files =
          (w.files.write (a.pathIn w.report.output) octets).1) := by
  cases given : w.givenUp with
  | true =>
    rw [add_givenUp a given]
    exact ⟨rfl, .inl rfl⟩
  | false =>
    cases success : a.success with
    | false =>
      rw [add_failed given success]
      exact ⟨rfl, .inl rfl⟩
    | true =>
      cases denied with
      | some e =>
        rw [add_denied given success]
        exact ⟨rfl, .inl rfl⟩
      | none =>
        rcases hw : w.files.write (a.pathIn w.report.output) a.octets with ⟨files, refusal⟩
        have stored : files = (w.files.write (a.pathIn w.report.output) a.octets).1 :=
          (congrArg Prod.fst hw).symm
        cases refusal with
        | none =>
          cases fault : a.fault? with
          | none =>
            rw [add_stored given success fault hw]
            exact ⟨rfl, .inr ⟨_, stored⟩⟩
          | some f =>
            rw [add_emptied given success fault hw]
            exact ⟨rfl, .inr ⟨_, stored⟩⟩
        | some e =>
          rw [add_refused given success hw]
          split
          · exact ⟨rfl, .inl rfl⟩
          · exact ⟨rfl, .inr ⟨_, stored⟩⟩

/-- The places of the artifacts of the theme in an output directory. -/
def FileTree.ArtifactPlace (files : FileTree) (output : Path) (q : Place) : Prop :=
  ∃ name ∈ builtin.map Prod.fst, files.resolve (artifactPath output name) = q

namespace Part

/-- What remains to be stored are artifacts of the theme in the output directory. -/
def Proper (output : Path) : Part → Prop
  | .storing _ writing rest =>
    writing.report.output = output ∧ ∀ a ∈ rest, a.name ∈ builtin.map Prod.fst
  | _ => True

/-- What a build has come to since it started with some files. -/
structure Within (output : Path) (base : FileTree) (x : World × Part) : Prop where
  standing : x.1.files.Standing
  confined : FileTree.Confined (base.Passes output) (base.ArtifactPlace output) base x.1.files
  proper : x.2.Proper output

theorem within_advance {output : Path} {base : FileTree} (h : Handle) {x : World × Part}
    (within : Within output base x) : Within output base (advance output h x) := by
  obtain ⟨w, part⟩ := x
  obtain ⟨standing, confined, proper⟩ := within
  cases part with
  | reading =>
    refine ⟨standing, confined, ?_⟩
    rw [advance]
    cases (w.access h Store.reload).result <;> exact trivial
  | making doc =>
    obtain ⟨made, empty⟩ := writeArtifacts_nil w.files output
    have grown := FileTree.lasting_standing.ensureDirectories standing output
    have confined' : FileTree.Confined (base.Passes output) (base.ArtifactPlace output) w.files
        (w.files.ensureDirectories output).1 :=
      (FileTree.confined_ensureDirectories w.files output).mono
        (fun _ => confined.anchors.passes.mp) fun _ stored => stored
    rw [← made] at grown confined'
    refine ⟨grown, confined.trans confined', ?_, fun a ha => ?_⟩
    · rw [empty]
    · rw [← names_compile builtin doc]
      exact List.mem_map_of_mem ha
  | storing denied writing rest =>
    cases rest with
    | nil => exact ⟨standing, confined, trivial⟩
    | cons a rest =>
      obtain ⟨directory, names⟩ := proper
      obtain ⟨same, files⟩ := Writing.files_add denied { writing with files := w.files } a
      have rest' : ∀ b ∈ rest, b.name ∈ builtin.map Prod.fst := fun b hb =>
        names b (List.mem_cons_of_mem _ hb)
      rw [advance]
      rcases files with unchanged | ⟨octets, stored⟩
      · refine ⟨?_, ?_, same.trans directory, rest'⟩
        · rw [unchanged]
          exact standing
        · rw [unchanged]
          exact confined
      · have place : base.ArtifactPlace output
            (w.files.resolve (a.pathIn writing.report.output)) := by
          refine ⟨a.name, names a List.mem_cons_self, ?_⟩
          rw [directory, a.pathIn_eq, confined.anchors.resolve]
        refine ⟨?_, ?_, same.trans directory, rest'⟩
        · rw [stored]
          exact standing.write _ octets
        · rw [stored]
          exact confined.trans (FileTree.confined_write place octets)
  | telling result => exact ⟨standing, confined, trivial⟩

theorem within_iterate {output : Path} {base : FileTree} (h : Handle) {x : World × Part}
    (within : Within output base x) (n : Nat) :
    Within output base ((advance output h)^[n] x) := by
  induction n with
  | zero => exact within
  | succ n ih =>
    rw [Function.iterate_succ_apply']
    exact within_advance h ih

end Part

theorem view_edit {e : Edit} {t : FileTree} (stored : (t.write e.path e.octets).2 = none) :
    (e.apply t).view e.path = some (.file e.octets e.time) := by
  obtain ⟨place, hl, hs⟩ := (FileTree.read_eq_ok_iff _ _ _).mp (FileTree.read_write_self stored)
  rw [FileTree.shape, Option.map_eq_some_iff] at hs
  obtain ⟨n, hn, ho⟩ := hs
  have shown := ((t.write e.path e.octets).1.view_eq_some_iff e.path n).mpr ⟨place, hl, hn⟩
  rw [Edit.apply, FileTree.view_setModified shown]
  cases n with
  | file octets time =>
    rw [Option.some.inj ho]
    rfl
  | directory time => cases ho

/-- A file that is there can be saved again. -/
theorem view_edit_of_view {e : Edit} {t : FileTree} {octets : List UInt8} {time : Time}
    (there : t.view e.path = some (.file octets time)) :
    (e.apply t).view e.path = some (.file e.octets e.time) := by
  obtain ⟨place, located, file⟩ := (t.view_eq_some_iff _ _).mp there
  refine view_edit ?_
  simp only [FileTree.write, located, file]

theorem standing_edit {t : FileTree} (standing : t.Standing) (e : Edit) : (e.apply t).Standing :=
  (standing.write e.path e.octets).setModified e.path e.time

/-- A build leaves a document alone that is not in the place of an artifact. -/
theorem World.buildSpares_of_apart {s : Settings} (h : Handle) {w : World} {octets : List UInt8}
    {time : Time} (standing : w.files.Standing)
    (document : w.files.view s.tokens = some (.file octets time))
    (apart : ¬ w.files.ArtifactPlace s.output (w.files.resolve s.tokens)) :
    w.BuildSpares s h := by
  intro n
  have start : Part.Within s.output w.files (w, .reading) :=
    ⟨standing, FileTree.confined_refl _, trivial⟩
  obtain ⟨standing', confined, -⟩ := Part.within_iterate h start n
  obtain ⟨place, located, there⟩ := (w.files.view_eq_some_iff _ _).mp document
  obtain rfl := FileTree.locate_ok located
  have same := confined.node?_of_file standing' there apart
  rw [document]
  exact FileTree.view_of_same confined.anchors confined.keeps document same

end DesignTokens
